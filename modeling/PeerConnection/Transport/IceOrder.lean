import PeerConnection.Transport.DescriptionOrder

/-!
# In which order the ICE transports are called

`set_local_sdp` posts the parameters and starts gathering on all registered
transports; the parameters of a remote description are posted for the transport
that it creates, and its candidates go to all of them.  What is posted keeps its
order.  A call on the network thread overtakes what has been posted, and a call
that reaches all transports reaches those that it was not meant for.
-/

namespace PeerConnection.Transport

open PeerConnection.Text
open PeerConnection.Sdp
open PeerConnection.Runs
open PeerConnection.Transport.TransportController

/-! ## To which description a candidate belongs -/

/-- The network, with the description of the latest `set_remote_sdp` and the one that
was the latest when each queued task was posted. -/
structure IceOrder where
  network : Network
  latest : Option DescriptionId := none
  origins : List (Option DescriptionId) := []

def IceOrder.fresh (certificate : Option Certificate) : IceOrder where
  network := Network.fresh certificate

def IceOrder.after (state : IceOrder) (event : ControllerEvent) (network : Network) :
    IceOrder :=
  match event with
  | .setRemoteSdp _ _ =>
      { state with network := network, latest := some state.network.nextDescription }
  | .serve _ => { state with network := network, origins := state.origins.tail }
  | _ =>
      { state with
        network := network
        origins := state.origins ++
          List.replicate (network.queue.length - state.network.queue.length) state.latest }

def iceOrderStep : System IceOrder ControllerEvent Fault := fun state event =>
  (controllerStep state.network event).map (Except.map (state.after event))

/-! ## The order -/

/-- A call on all ICE transports reaches this one, under this name. -/
def ReachedAs (controller : TransportController) (name : Bytes) (owner : TransportId) : Prop :=
  controller.ices[name]? = some (some owner) ∧ controller.transports.owns owner = true

instance (controller : TransportController) (name : Bytes) (owner : TransportId) :
    Decidable (ReachedAs controller name owner) :=
  inferInstanceAs (Decidable (_ ∧ _))

def HasLocalParameters (controller : TransportController) (owner : TransportId) : Prop :=
  ∃ call ∈ (controller.objects owner).iceCalls, call.localParameters.isSome

/-- The ICE parameters of the description for the transport that it creates. -/
def Network.remoteParameters (network : Network) (description : DescriptionId) :
    Option IceParameters := do
  let desc ← network.descriptions description
  let name ← desc.firstContentName
  let info ← desc.getTransportInfoByName name
  return info.description.iceParameters

/-- The transport comes from the description and has been told its parameters. -/
def Told (network : Network) (owner : TransportId) (description : DescriptionId) : Prop :=
  (network.controller.objects owner).createdFrom = description ∧
    ∃ parameters ∈ network.remoteParameters description,
      .setRemoteIceParameters parameters ∈ (network.controller.objects owner).iceCalls

/-- The step calls `MaybeStartGathering` on all ICE transports. -/
def Gathers : ControllerEvent → Prop
  | .setLocalSdp .networkThread _ _ => True
  | .serve .startGathering => True
  | _ => False

/-- The step calls `AddRemoteCandidate` on all ICE transports, for a candidate of this
description. -/
def IceOrder.delivered (state : IceOrder) : ControllerEvent → Option DescriptionId
  | .setRemoteCandidate .networkThread _ => state.latest
  | .serve (.addRemoteCandidate _) => state.origins.head?.join
  | _ => none

/-- The transports that this step calls have been told what has to come before. -/
structure InOrder (state : IceOrder) (event : ControllerEvent) : Prop where
  gathering : Gathers event → ∀ name owner, ReachedAs state.network.controller name owner →
    HasLocalParameters state.network.controller owner
  candidates : ∀ description ∈ state.delivered event, ∀ name owner,
    ReachedAs state.network.controller name owner → Told state.network owner description

/-- Each step that can be taken calls the transports in order. -/
def StepInOrder (state : IceOrder) (event : ControllerEvent) : Prop :=
  (iceOrderStep state event).isSome → InOrder state event

/-! ## The condition on the calls -/

/-- The name of the transport whose local parameters the task sets. -/
def Task.configured : Task → Option Bytes
  | .applyLocal mid _ _ => some mid
  | _ => none

/-- The transport that the task tells its remote parameters. -/
def Task.informed : Task → Option TransportId
  | .applyRemote _ ice _ _ => some ice
  | _ => none

def Configures (tasks : List Task) (name : Bytes) : Prop :=
  ∃ task ∈ tasks, task.configured = some name

def Informs (tasks : List Task) (owner : TransportId) : Prop :=
  ∃ task ∈ tasks, task.informed = some owner

/-- Tasks that call all ICE transports. -/
def Task.Broadcasts : Task → Prop
  | .startGathering => True
  | .addRemoteCandidate _ => True
  | _ => False

/-- On the network thread, a local description or a candidate needs all transports told
already.  On another thread it may count on what is queued, or what it posts itself.
A remote description that is set on the network thread does not overtake a call on
all transports. -/
def CallsInOrder (state : IceOrder) : ControllerEvent → Prop
  | .setRemoteSdp .networkThread _ => ∀ task ∈ state.network.queue, ¬ task.Broadcasts
  | .setLocalSdp .networkThread _ _ => ∀ name owner,
      ReachedAs state.network.controller name owner →
        HasLocalParameters state.network.controller owner
  | .setLocalSdp .otherThread desc certificate => ∀ name owner,
      ReachedAs state.network.controller name owner →
        HasLocalParameters state.network.controller owner ∨
          Configures (state.network.queue ++ localTasks desc certificate) name
  | .setRemoteCandidate .networkThread _ => ∀ description ∈ state.latest, ∀ name owner,
      ReachedAs state.network.controller name owner → Told state.network owner description
  | .setRemoteCandidate .otherThread _ => ∀ description ∈ state.latest, ∀ name owner,
      ReachedAs state.network.controller name owner →
        (state.network.controller.objects owner).createdFrom = description ∧
          (Told state.network owner description ∨ Informs state.network.queue owner)
  | _ => True

/-! ### Runs that are given can be checked -/

instance (tasks : List Task) (name : Bytes) : Decidable (Configures tasks name) :=
  inferInstanceAs (Decidable (∃ task ∈ tasks, task.configured = some name))

instance (tasks : List Task) (owner : TransportId) : Decidable (Informs tasks owner) :=
  inferInstanceAs (Decidable (∃ task ∈ tasks, task.informed = some owner))

instance (controller : TransportController) (owner : TransportId) :
    Decidable (HasLocalParameters controller owner) :=
  inferInstanceAs (Decidable (∃ call ∈ (controller.objects owner).iceCalls,
    call.localParameters.isSome))

instance (network : Network) (owner : TransportId) (description : DescriptionId) :
    Decidable (Told network owner description) :=
  inferInstanceAs (Decidable ((network.controller.objects owner).createdFrom = description ∧
    ∃ parameters ∈ network.remoteParameters description,
      .setRemoteIceParameters parameters ∈ (network.controller.objects owner).iceCalls))

instance : DecidablePred Task.Broadcasts
  | .startGathering => .isTrue trivial
  | .addRemoteCandidate _ => .isTrue trivial
  | .applyRemote _ _ _ _ => .isFalse id
  | .applyLocal _ _ _ => .isFalse id
  | .sendRtpPacket _ _ => .isFalse id

/-- The entries of the map are all that a call on all transports reaches. -/
instance (controller : TransportController) (property : Bytes → TransportId → Prop)
    [∀ name owner, Decidable (property name owner)] :
    Decidable (∀ name owner, ReachedAs controller name owner → property name owner) :=
  decidable_of_iff (∀ entry ∈ controller.ices.toList, ∀ owner ∈ entry.2,
    controller.transports.owns owner = true → property entry.1 owner) <| by
    constructor
    · rintro hall name owner ⟨hentry, howns⟩
      exact hall (name, some owner)
        (Std.TreeMap.mem_toList_iff_getElem?_eq_some.mpr hentry) owner rfl howns
    · rintro hall ⟨name, ice⟩ hentry owner rfl howns
      exact hall name owner ⟨Std.TreeMap.mem_toList_iff_getElem?_eq_some.mp hentry, howns⟩

instance (state : IceOrder) : DecidablePred (CallsInOrder state)
  | .setRemoteSdp .networkThread _ =>
      inferInstanceAs (Decidable (∀ task ∈ state.network.queue, ¬ task.Broadcasts))
  | .setRemoteSdp .otherThread _ => .isTrue trivial
  | .setLocalSdp .networkThread _ _ =>
      inferInstanceAs (Decidable (∀ name owner,
        ReachedAs state.network.controller name owner →
          HasLocalParameters state.network.controller owner))
  | .setLocalSdp .otherThread desc certificate =>
      inferInstanceAs (Decidable (∀ name owner,
        ReachedAs state.network.controller name owner →
          HasLocalParameters state.network.controller owner ∨
            Configures (state.network.queue ++ localTasks desc certificate) name))
  | .setRemoteCandidate .networkThread _ =>
      inferInstanceAs (Decidable (∀ description ∈ state.latest, ∀ name owner,
        ReachedAs state.network.controller name owner → Told state.network owner description))
  | .setRemoteCandidate .otherThread _ =>
      inferInstanceAs (Decidable (∀ description ∈ state.latest, ∀ name owner,
        ReachedAs state.network.controller name owner →
          (state.network.controller.objects owner).createdFrom = description ∧
            (Told state.network owner description ∨ Informs state.network.queue owner)))
  | .advance => .isTrue trivial
  | .serve _ => .isTrue trivial

/-! ## What stays true of what has been told -/

section Told

theorem reachedAs_of_extends {before after : TransportController}
    (hextends : Extends before after) {name : Bytes} {owner : TransportId} :
    ReachedAs after name owner ↔ ReachedAs before name owner := by
  rw [ReachedAs, ReachedAs, hextends.ices, hextends.transports]

theorem HasLocalParameters.of_extends {before after : TransportController}
    (hextends : Extends before after) {owner : TransportId}
    (hlocal : HasLocalParameters before owner) : HasLocalParameters after owner := by
  obtain ⟨call, hmem, hparameters⟩ := hlocal
  exact ⟨call, (hextends.iceCalls owner).subset hmem, hparameters⟩

theorem remoteParameters_congr {before after : Network}
    (hdescriptions : after.descriptions = before.descriptions) :
    after.remoteParameters = before.remoteParameters := by
  funext description
  rw [Network.remoteParameters, Network.remoteParameters, hdescriptions]

theorem Told.of_extends {before after : Network}
    (hextends : Extends before.controller after.controller)
    (hdescriptions : after.descriptions = before.descriptions) {owner : TransportId}
    {description : DescriptionId} (htold : Told before owner description) :
    Told after owner description := by
  obtain ⟨hcreated, parameters, hparameters, hmem⟩ := htold
  refine ⟨(hextends.createdFrom owner).trans hcreated, parameters, ?_,
    (hextends.iceCalls owner).subset hmem⟩
  rw [remoteParameters_congr hdescriptions]
  exact hparameters

theorem Informs.mono {few many : List Task} (hsubset : few ⊆ many) {owner : TransportId}
    (hinforms : Informs few owner) : Informs many owner := by
  obtain ⟨task, hmem, howner⟩ := hinforms
  exact ⟨task, hsubset hmem, howner⟩

/-- The task at the head of the queue either was the one that configures the
transport, and has done so, or another one has it still to do. -/
theorem hasLocalParameters_of_runTask {network : Network} {next : TransportController}
    {task : Task} {tasks : List Task} {name : Bytes} {owner : TransportId}
    (hreached : ReachedAs network.controller name owner)
    (hrun : network.controller.runTask network.descriptions task = .ok next)
    (hconfigures : Configures (task :: tasks) name) :
    HasLocalParameters next owner ∨ Configures tasks name := by
  obtain ⟨configuring, hmem, hname⟩ := hconfigures
  rcases List.mem_cons.mp hmem with rfl | hlater
  · left
    cases configuring with
    | applyLocal mid parameters certificate =>
        obtain rfl : mid = name := Option.some.inj hname
        obtain ⟨middle, hice, hdtls⟩ := except_bind_eq_ok_iff.mp hrun
        obtain ⟨called, hcalled, _, rfl⟩ := iceCall_eq_ok_iff.mp hice
        obtain rfl : called = owner := by simpa [hreached.1] using hcalled.symm
        apply HasLocalParameters.of_extends (dtlsCall_extends hdtls)
        exact ⟨.setIceParameters parameters, by simp [recordIceCall], rfl⟩
    | applyRemote | startGathering | addRemoteCandidate | sendRtpPacket =>
        simp [Task.configured] at hname
  · exact Or.inr ⟨configuring, hlater, hname⟩

/-- The same for the task that tells a transport its remote parameters. -/
theorem told_of_runTask {network after : Network} {task : Task} {tasks : List Task}
    {owner : TransportId}
    (hparameters : ∀ parameters dtls td, .applyRemote parameters owner dtls td = task →
      network.remoteParameters (network.controller.objects owner).createdFrom =
        some parameters)
    (hrun : network.controller.runTask network.descriptions task = .ok after.controller)
    (hdescriptions : after.descriptions = network.descriptions)
    (hinforms : Informs (task :: tasks) owner) :
    Told after owner (network.controller.objects owner).createdFrom ∨ Informs tasks owner := by
  obtain ⟨informing, hmem, howner⟩ := hinforms
  rcases List.mem_cons.mp hmem with rfl | hlater
  · left
    cases informing with
    | applyRemote parameters ice dtls td =>
        obtain rfl : ice = owner := Option.some.inj howner
        have hextends := runTask_extends hrun
        obtain ⟨told, print, hice, hdtls⟩ := runTask_applyRemote_ok hrun
        obtain ⟨called, hcalled, _, rfl⟩ := iceCall_eq_ok_iff.mp hice
        obtain rfl := Option.some.inj hcalled
        have hlater : Extends (network.controller.recordIceCall ice
            (.setRemoteIceParameters parameters)) after.controller := dtlsCall_extends hdtls
        refine ⟨hextends.createdFrom ice, parameters, ?_, ?_⟩
        · rw [remoteParameters_congr hdescriptions]
          exact hparameters parameters dtls td rfl
        · apply (hlater.iceCalls ice).subset
          simp [recordIceCall]
    | applyLocal | startGathering | addRemoteCandidate | sendRtpPacket =>
        simp [Task.informed] at howner
  · exact Or.inr ⟨informing, hlater, howner⟩

end Told

/-! ## What is queued -/

/-- A call of `set_remote_sdp` in progress. -/
structure CallFits (network : Network) (call : RemoteCall) : Prop where
  candidates : call.candidates = []
  alive : network.descriptions call.description = some call.desc
  quiet : call.caller = .networkThread → ∀ task ∈ network.queue, ¬ task.Broadcasts

/-- Every queued call on all transports stands behind what these transports have to
be told first. -/
structure Ready (state : IceOrder) : Prop where
  origins : state.origins.length = state.network.queue.length
  wellFormed : state.network.controller.WellFormed
  descriptions : ∀ description desc,
    state.network.descriptions description = some desc → description < state.network.nextDescription
  gathering : ∀ index, state.network.queue[index]? = some .startGathering →
    ∀ name owner, ReachedAs state.network.controller name owner →
      HasLocalParameters state.network.controller owner ∨
        Configures (state.network.queue.take index) name
  candidates : ∀ index candidate,
    state.network.queue[index]? = some (.addRemoteCandidate candidate) →
      ∀ description ∈ state.origins[index]?.join, ∀ name owner,
        ReachedAs state.network.controller name owner →
          (state.network.controller.objects owner).createdFrom = description ∧
            (Told state.network owner description ∨
              Informs (state.network.queue.take index) owner)
  informing : ∀ parameters ice dtls td,
    .applyRemote parameters ice dtls td ∈ state.network.queue →
      ice < state.network.controller.nextTransport ∧
        state.network.remoteParameters (state.network.controller.objects ice).createdFrom =
          some parameters
  call : ∀ call ∈ state.network.call, CallFits state.network call

theorem ready_fresh (certificate : Option Certificate) : Ready (IceOrder.fresh certificate) where
  origins := rfl
  wellFormed := wellFormed_empty certificate
  descriptions := by simp [IceOrder.fresh, Network.fresh]
  gathering := by simp [IceOrder.fresh, Network.fresh]
  candidates := by simp [IceOrder.fresh, Network.fresh]
  informing := by simp [IceOrder.fresh, Network.fresh]
  call := by simp [IceOrder.fresh, Network.fresh]

/-- An entry of an extended queue is an old one or a new one behind all old ones. -/
theorem getElem?_append_cases {α : Type*} {old new : List α} {index : ℕ} {value : α}
    (hvalue : (old ++ new)[index]? = some value) :
    (index < old.length ∧ old[index]? = some value ∧
      (old ++ new).take index = old.take index) ∨
    (old.length ≤ index ∧ new[index - old.length]? = some value ∧
      (old ++ new).take index = old ++ new.take (index - old.length)) := by
  rcases lt_or_ge index old.length with hold | hnew
  · rw [List.getElem?_append_left hold] at hvalue
    exact Or.inl ⟨hold, hvalue, List.take_append_of_le_length hold.le⟩
  · rw [List.getElem?_append_right hnew] at hvalue
    refine Or.inr ⟨hnew, hvalue, ?_⟩
    rw [List.take_append, List.take_of_length_le hnew]

/-- A step that changes the transports' records and posts tasks. -/
structure Posts (before after : IceOrder) (posted : List Task) : Prop where
  quiet : Quiet before.network.controller after.network.controller posted
  queue : after.network.queue = before.network.queue ++ posted
  descriptions : after.network.descriptions = before.network.descriptions
  nextDescription : after.network.nextDescription = before.network.nextDescription
  origins : after.origins =
    before.origins ++ List.replicate posted.length before.latest

section Steps

variable {before after : IceOrder}

theorem Ready.posts (hready : Ready before) {posted : List Task}
    (hposts : Posts before after posted)
    (hgathering : ∀ index : ℕ, posted[index]? = some .startGathering →
      ∀ name owner, ReachedAs before.network.controller name owner →
        HasLocalParameters before.network.controller owner ∨
          Configures (before.network.queue ++ posted.take index) name)
    (hcandidates : ∀ (index : ℕ) (candidate : Candidate),
      posted[index]? = some (.addRemoteCandidate candidate) →
        ∀ description ∈ before.latest, ∀ name owner,
          ReachedAs before.network.controller name owner →
            (before.network.controller.objects owner).createdFrom = description ∧
              (Told before.network owner description ∨ Informs before.network.queue owner))
    (hcall : ∀ call ∈ after.network.call, CallFits after.network call) : Ready after := by
  have hrecords := hposts.quiet.records
  constructor
  · rw [hposts.origins, hposts.queue, List.length_append, List.length_append,
      List.length_replicate, hready.origins]
  · exact hready.wellFormed.of_extends hrecords
  · rw [hposts.descriptions, hposts.nextDescription]
    exact hready.descriptions
  · intro index hindex name owner hreached
    rw [reachedAs_of_extends hrecords] at hreached
    rw [hposts.queue] at hindex ⊢
    rcases getElem?_append_cases hindex with ⟨_, hold, htake⟩ | ⟨_, hnew, htake⟩
    · rw [htake]
      exact (hready.gathering index hold name owner hreached).imp_left (.of_extends hrecords)
    · rw [htake]
      exact (hgathering _ hnew name owner hreached).imp_left (.of_extends hrecords)
  · intro index candidate hindex description hdescription name owner hreached
    rw [reachedAs_of_extends hrecords] at hreached
    rw [hposts.queue] at hindex ⊢
    rw [hposts.origins] at hdescription
    rw [hrecords.createdFrom owner]
    rcases getElem?_append_cases hindex with ⟨hlt, hold, htake⟩ | ⟨hge, hnew, htake⟩
    · rw [← hready.origins] at hlt
      rw [List.getElem?_append_left hlt] at hdescription
      obtain ⟨hcreated, htold⟩ :=
        hready.candidates index candidate hold description hdescription name owner hreached
      rw [htake]
      exact ⟨hcreated, htold.imp_left (.of_extends hrecords hposts.descriptions)⟩
    · rw [← hready.origins] at hge
      rw [List.getElem?_append_right hge, List.getElem?_replicate] at hdescription
      have hlatest : description ∈ before.latest := by
        split_ifs at hdescription
        · exact hdescription
        · simp at hdescription
      obtain ⟨hcreated, htold⟩ :=
        hcandidates _ candidate hnew description hlatest name owner hreached
      rw [htake]
      exact ⟨hcreated, htold.imp (.of_extends hrecords hposts.descriptions)
        (.mono (List.subset_append_left _ _))⟩
  · intro parameters ice dtls td hmem
    rw [hrecords.createdFrom ice, hrecords.nextTransport,
      remoteParameters_congr hposts.descriptions]
    rw [hposts.queue] at hmem
    rcases List.mem_append.mp hmem with hold | hnew
    · exact hready.informing parameters ice dtls td hold
    · exact (hposts.quiet.posted _ hnew).elim
  · exact hcall

/-- The network thread runs the task at the head of the queue. -/
theorem Ready.serve (hready : Ready before) {task : Task} {tasks : List Task}
    (hqueue : before.network.queue = task :: tasks)
    (hrun : before.network.controller.runTask before.network.descriptions task =
      .ok after.network.controller)
    (hafter : after.network.queue = tasks)
    (hdescriptions : after.network.descriptions = before.network.descriptions)
    (hnext : after.network.nextDescription = before.network.nextDescription)
    (horigins : after.origins = before.origins.tail)
    (hcall : ∀ call ∈ after.network.call, CallFits after.network call) : Ready after := by
  have hrecords := runTask_extends hrun
  have htake : ∀ index, before.network.queue.take (index + 1) = task :: tasks.take index := by
    intro index
    rw [hqueue, List.take_succ_cons]
  constructor
  · rw [horigins, hafter, List.length_tail, hready.origins, hqueue, List.length_cons,
      Nat.add_sub_cancel]
  · exact hready.wellFormed.of_extends hrecords
  · rw [hdescriptions, hnext]
    exact hready.descriptions
  · intro index hindex name owner hreached
    rw [reachedAs_of_extends hrecords] at hreached
    rw [hafter] at hindex ⊢
    have hbefore := hready.gathering (index + 1) (by rw [hqueue]; exact hindex) name owner hreached
    rw [htake] at hbefore
    rcases hbefore with hlocal | hconfigures
    · exact Or.inl (hlocal.of_extends hrecords)
    · exact hasLocalParameters_of_runTask hreached hrun hconfigures
  · intro index candidate hindex description hdescription name owner hreached
    rw [reachedAs_of_extends hrecords] at hreached
    rw [hafter] at hindex ⊢
    rw [horigins, List.getElem?_tail] at hdescription
    rw [hrecords.createdFrom owner]
    obtain ⟨hcreated, hbefore⟩ := hready.candidates (index + 1) candidate
      (by rw [hqueue]; exact hindex) description hdescription name owner hreached
    rw [htake] at hbefore
    refine ⟨hcreated, ?_⟩
    rcases hbefore with htold | hinforms
    · exact Or.inl (htold.of_extends hrecords hdescriptions)
    · rw [← hcreated]
      refine told_of_runTask (fun parameters dtls td htask => ?_) hrun hdescriptions hinforms
      exact (hready.informing parameters owner dtls td (by simp [hqueue, htask])).2
  · intro parameters ice dtls td hmem
    rw [hrecords.createdFrom ice, hrecords.nextTransport, remoteParameters_congr hdescriptions]
    rw [hafter] at hmem
    exact hready.informing parameters ice dtls td (by simp [hqueue, hmem])
  · exact hcall

/-- A new transport is registered while no call on all transports is queued. -/
theorem Ready.register (hready : Ready before) {call : RemoteCall} {name : Bytes}
    (hcall : CallFits before.network call)
    (hname : call.desc.firstContentName = some name)
    (hquiet : ∀ task ∈ before.network.queue, ¬ task.Broadcasts)
    (hcontroller : after.network.controller =
      (before.network.controller.registerContent call.description call.desc name).1)
    (hqueue : after.network.queue = before.network.queue ++
      (before.network.controller.registerContent call.description call.desc name).2)
    (hdescriptions : after.network.descriptions = before.network.descriptions)
    (hnext : after.network.nextDescription = before.network.nextDescription)
    (horigins : after.origins.length = after.network.queue.length)
    (hafter : (∀ task ∈ after.network.queue, ¬ task.Broadcasts) →
      ∀ other ∈ after.network.call, CallFits after.network other) : Ready after := by
  have hposted : ∀ task ∈ after.network.queue, ¬ task.Broadcasts := by
    intro task htask
    rw [hqueue] at htask
    rcases List.mem_append.mp htask with hold | hnew
    · exact hquiet task hold
    · obtain ⟨_, _, _, _, rfl⟩ := mem_remoteTasks hnew
      exact id
  constructor
  · exact horigins
  · rw [hcontroller]
    exact hready.wellFormed.registerContent _ _
  · rw [hdescriptions, hnext]
    exact hready.descriptions
  · intro index hindex
    exact absurd trivial (hposted _ (List.mem_of_getElem? hindex))
  · intro index candidate hindex
    exact absurd trivial (hposted _ (List.mem_of_getElem? hindex))
  · intro parameters ice dtls td hmem
    rw [hqueue] at hmem
    rw [remoteParameters_congr hdescriptions, hcontroller]
    rcases List.mem_append.mp hmem with hold | hnew
    · obtain ⟨hlt, hparameters⟩ := hready.informing parameters ice dtls td hold
      have hobject : ((before.network.controller.registerContent call.description call.desc
          name).1.objects ice) = before.network.controller.objects ice :=
        Function.update_of_ne hlt.ne _ _
      rw [hobject]
      exact ⟨Nat.lt_succ_of_lt hlt, hparameters⟩
    · obtain ⟨_, info, _, hinfo, htask⟩ := mem_remoteTasks hnew
      obtain ⟨rfl, rfl, _, _⟩ := Task.applyRemote.inj htask
      have hobject : ((before.network.controller.registerContent call.description call.desc
          name).1.objects before.network.controller.nextTransport).createdFrom =
          call.description := by
        simp [registerContent, insertSideMaps, createTransport]
      rw [hobject]
      refine ⟨Nat.lt_succ_self _, ?_⟩
      simp [Network.remoteParameters, hcall.alive, hname, hinfo]
  · exact hafter hposted

/-- A new description is allocated and its call starts. -/
theorem Ready.startRemoteCall (hready : Ready before) {caller : Caller}
    {desc : SessionDescription}
    (hquiet : caller = .networkThread → ∀ task ∈ before.network.queue, ¬ task.Broadcasts) :
    Ready { before with
      network := (before.network.allocate desc).startRemoteCall caller
        before.network.nextDescription desc []
      latest := some before.network.nextDescription } := by
  have hkept : ∀ {description found},
      before.network.descriptions description = some found →
        Function.update before.network.descriptions before.network.nextDescription (some desc)
          description = some found := by
    intro description found hfound
    rw [Function.update_of_ne (hready.descriptions _ _ hfound).ne]
    exact hfound
  have hparameters : ∀ {description parameters},
      before.network.remoteParameters description = some parameters →
        ((before.network.allocate desc).startRemoteCall caller
          before.network.nextDescription desc []).remoteParameters description =
            some parameters := by
    intro description parameters hremote
    cases hfound : before.network.descriptions description with
    | none => simp [Network.remoteParameters, hfound] at hremote
    | some found =>
        have hafter := hkept hfound
        simpa [Network.remoteParameters, Network.startRemoteCall, Network.allocate, hfound,
          hafter] using hremote
  constructor
  · exact hready.origins
  · exact hready.wellFormed
  · intro description found hfound
    simp only [Network.startRemoteCall, Network.allocate, Function.update_apply] at hfound ⊢
    split_ifs at hfound with hnew
    · exact hnew ▸ Nat.lt_succ_self _
    · exact Nat.lt_succ_of_lt (hready.descriptions _ _ hfound)
  · exact hready.gathering
  · intro index candidate hindex description hdescription name owner hreached
    obtain ⟨hcreated, htold⟩ :=
      hready.candidates index candidate hindex description hdescription name owner hreached
    refine ⟨hcreated, htold.imp_left ?_⟩
    rintro ⟨hsame, parameters, hremote, hmem⟩
    exact ⟨hsame, parameters, hparameters hremote, hmem⟩
  · intro parameters ice dtls td hmem
    obtain ⟨hlt, hremote⟩ := hready.informing parameters ice dtls td hmem
    exact ⟨hlt, hparameters hremote⟩
  · intro call hcall
    obtain rfl : _ = call := Option.some.inj hcall
    exact ⟨rfl, Function.update_self _ _ _, hquiet⟩

theorem posts_after {event : ControllerEvent} {controller : TransportController}
    {posted : List Task} {call : Option RemoteCall}
    (hevent : ∀ network : Network, before.after event network =
      { before with
        network := network
        origins := before.origins ++
          List.replicate (network.queue.length - before.network.queue.length) before.latest })
    (hquiet : Quiet before.network.controller controller posted) :
    Posts before (before.after event
      { before.network.post controller posted with call := call }) posted := by
  rw [hevent]
  constructor
  · exact hquiet
  · rfl
  · rfl
  · rfl
  · simp [Network.post]

theorem localTasks_ne_broadcast {desc : SessionDescription} {certificate : Option Certificate}
    {task : Task} (htask : task ∈ localTasks desc certificate) : ¬ task.Broadcasts := by
  obtain ⟨content, _, hcontent⟩ := List.mem_filterMap.mp htask
  split_ifs at hcontent
  obtain ⟨td, _, rfl⟩ := Option.map_eq_some_iff.mp hcontent
  exact id

theorem Ready.setLocalSdp (hready : Ready before) {caller : Caller} {desc : SessionDescription}
    {certificate : Option Certificate} {network : Network} (hcall : before.network.call = none)
    (hguard : CallsInOrder before (.setLocalSdp caller desc certificate))
    (hstep : before.network.setLocalSdp caller desc certificate = .ok network) :
    Ready (before.after (.setLocalSdp caller desc certificate) network) := by
  obtain ⟨⟨controller, posted⟩, hset, hresult⟩ := except_bind_eq_ok_iff.mp hstep
  obtain rfl := Except.ok.inj hresult
  have hposts : Posts before (before.after (.setLocalSdp caller desc certificate)
      { before.network.post controller posted with call := before.network.call }) posted :=
    posts_after (fun _ => rfl) (setLocalSdp_quiet hset)
  have hbroadcast : ∀ index task, posted[index]? = some task → task.Broadcasts →
      caller = .otherThread ∧ task = .startGathering ∧
        posted.take index = localTasks desc certificate := by
    intro index task htask hbroadcasts
    cases caller with
    | networkThread =>
        obtain ⟨middle, _, hpair⟩ := except_bind_eq_ok_iff.mp hset
        obtain ⟨rfl, rfl⟩ := Prod.mk.inj (Except.ok.inj hpair)
        exact absurd hbroadcasts (localTasks_ne_broadcast (List.mem_of_getElem? htask))
    | otherThread =>
        obtain ⟨rfl, rfl⟩ := Prod.mk.inj (Except.ok.inj hset)
        rcases getElem?_append_cases htask with ⟨_, hlocal, _⟩ | ⟨_, hlast, htake⟩
        · exact absurd hbroadcasts (localTasks_ne_broadcast (List.mem_of_getElem? hlocal))
        · rw [List.getElem?_singleton] at hlast
          split_ifs at hlast with hindex
          rw [hindex, List.take_zero, List.append_nil] at htake
          exact ⟨rfl, (Option.some.inj hlast).symm, htake⟩
  refine hready.posts hposts ?_ ?_ ?_
  · intro index hindex name owner hreached
    obtain ⟨rfl, _, htake⟩ := hbroadcast index _ hindex trivial
    rw [htake]
    exact hguard name owner hreached
  · intro index candidate hindex
    exact absurd (hbroadcast index _ hindex trivial).2.1 (by simp)
  · intro call hnext
    exact absurd hnext (by simp [IceOrder.after, Network.post, hcall])

theorem Ready.setRemoteCandidate (hready : Ready before) {caller : Caller}
    {candidate : Candidate} {network : Network} (hcall : before.network.call = none)
    (hguard : CallsInOrder before (.setRemoteCandidate caller candidate))
    (hstep : before.network.setRemoteCandidate caller candidate = .ok network) :
    Ready (before.after (.setRemoteCandidate caller candidate) network) := by
  obtain ⟨⟨controller, posted⟩, hset, hresult⟩ := except_bind_eq_ok_iff.mp hstep
  obtain rfl := Except.ok.inj hresult
  have hposts : Posts before (before.after (.setRemoteCandidate caller candidate)
      { before.network.post controller posted with call := before.network.call }) posted :=
    posts_after (fun _ => rfl) (setRemoteCandidate_quiet hset)
  have hposted : ∀ (index : ℕ) (task : Task), posted[index]? = some task →
      caller = .otherThread ∧ task = .addRemoteCandidate candidate := by
    intro index task htask
    cases caller with
    | networkThread =>
        obtain ⟨middle, _, hpair⟩ := except_bind_eq_ok_iff.mp hset
        obtain ⟨rfl, rfl⟩ := Prod.mk.inj (Except.ok.inj hpair)
        simp at htask
    | otherThread =>
        obtain ⟨rfl, rfl⟩ := Prod.mk.inj (Except.ok.inj hset)
        exact ⟨rfl, List.mem_singleton.mp (List.mem_of_getElem? htask)⟩
  refine hready.posts hposts ?_ ?_ ?_
  · intro index hindex
    exact absurd (hposted index _ hindex).2 (by simp)
  · intro index other hindex description hdescription name owner hreached
    obtain ⟨rfl, _⟩ := hposted index _ hindex
    exact hguard description hdescription name owner hreached
  · intro call hnext
    exact absurd hnext (by simp [IceOrder.after, Network.post, hcall])

theorem Ready.advance (hready : Ready before) {outcome : Network}
    (hstep : before.network.advance = some (.ok outcome)) :
    Ready (before.after .advance outcome) := by
  obtain ⟨call, hcall, ⟨_, hout⟩ | ⟨content, contents, hremaining, hwait, hout⟩⟩ :=
    Network.advance_eq_some_iff.mp hstep
  · have hfits := hready.call call hcall
    rw [hfits.candidates] at hout
    obtain rfl := Except.ok.inj hout
    have hposts : Posts before (before.after .advance
        { before.network.post before.network.controller [] with call := none }) [] :=
      posts_after (fun _ => rfl) ⟨Extends.refl _, by simp⟩
    refine hready.posts hposts (by simp) (by simp) ?_
    intro other hother
    exact absurd hother (by simp [IceOrder.after])
  · have hfits := hready.call call hcall
    obtain ⟨⟨controller, posted⟩, hcontent, hresult⟩ :=
      except_bind_eq_ok_iff.mp hout.symm
    obtain rfl := Except.ok.inj hresult
    obtain ⟨_, hpair⟩ := setRemoteSdpContent_eq_ok_iff.mp hcontent
    split_ifs at hpair with hfirst
    · have hquiet : ∀ task ∈ before.network.queue, ¬ task.Broadcasts := by
        intro task htask
        cases hcaller : call.caller with
        | networkThread => exact hfits.quiet hcaller task htask
        | otherThread =>
            exact absurd ⟨hcaller, hfirst, List.ne_nil_of_mem htask⟩ hwait
      obtain ⟨rfl, rfl⟩ := Prod.mk.inj hpair
      refine hready.register hfits hfirst hquiet rfl rfl rfl rfl ?_ fun hposted other hother => ?_
      · simp [IceOrder.after, Network.post, hready.origins]
      · obtain rfl : _ = other := Option.some.inj hother
        exact ⟨hfits.candidates, hfits.alive, fun _ => hposted⟩
    · obtain ⟨rfl, rfl⟩ := Prod.mk.inj hpair
      have hposts : Posts before (before.after .advance
          { before.network.post before.network.controller [] with
            call := some { call with remaining := contents } }) [] :=
        posts_after (fun _ => rfl) ⟨Extends.refl _, by simp⟩
      refine hready.posts hposts (by simp) (by simp) ?_
      intro other hother
      obtain rfl : _ = other := Option.some.inj hother
      refine ⟨hfits.candidates, hfits.alive, ?_⟩
      simpa [IceOrder.after, Network.post] using hfits.quiet

/-- Only the network thread's own call keeps it from its queue, so that a call in
progress does not forbid anything in the queue. -/
theorem Ready.serveTask (hready : Ready before) {task : Task} {outcome : Network}
    (hstep : before.network.serve task = some (.ok outcome)) :
    Ready (before.after (.serve task) outcome) := by
  obtain ⟨tasks, hqueue, hbusy, hout⟩ := Network.serve_eq_some_iff.mp hstep
  obtain ⟨controller, hrun, hresult⟩ := except_bind_eq_ok_iff.mp hout.symm
  obtain rfl := Except.ok.inj hresult
  refine hready.serve hqueue hrun rfl rfl rfl rfl fun call hcall => ?_
  have hfits := hready.call call hcall
  exact ⟨hfits.candidates, hfits.alive, fun hcaller => absurd ⟨call, hcall, hcaller⟩ hbusy⟩

theorem iceOrderStep_eq_ok_iff {event : ControllerEvent} :
    iceOrderStep before event = some (.ok after) ↔
      ∃ network, controllerStep before.network event = some (.ok network) ∧
        after = before.after event network := by
  rw [iceOrderStep, Option.map_eq_some_iff]
  constructor
  · rintro ⟨outcome, hstep, hmap⟩
    obtain ⟨network, rfl, rfl⟩ := except_map_eq_ok_iff.mp hmap
    exact ⟨network, hstep, rfl⟩
  · rintro ⟨network, hstep, rfl⟩
    exact ⟨_, hstep, rfl⟩

theorem Ready.step (hready : Ready before) {event : ControllerEvent}
    (hguard : CallsInOrder before event) (hstep : iceOrderStep before event = some (.ok after)) :
    Ready after := by
  obtain ⟨network, hnetwork, rfl⟩ := iceOrderStep_eq_ok_iff.mp hstep
  cases event with
  | setRemoteSdp caller desc =>
      simp only [controllerStep, Option.ite_none_left_eq_some] at hnetwork
      obtain rfl := Except.ok.inj (Option.some.inj hnetwork.2)
      refine hready.startRemoteCall fun hcaller => ?_
      subst hcaller
      exact hguard
  | setLocalSdp caller desc certificate =>
      simp only [controllerStep, Option.ite_none_left_eq_some] at hnetwork
      exact hready.setLocalSdp (by simpa using hnetwork.1) hguard (Option.some.inj hnetwork.2)
  | setRemoteCandidate caller candidate =>
      simp only [controllerStep, Option.ite_none_left_eq_some] at hnetwork
      exact hready.setRemoteCandidate (by simpa using hnetwork.1) hguard
        (Option.some.inj hnetwork.2)
  | advance => exact hready.advance hnetwork
  | serve task => exact hready.serveTask hnetwork

end Steps

/-- What is served has been told what has to come before. -/
theorem Ready.stepInOrder {state : IceOrder} (hready : Ready state) {event : ControllerEvent}
    (hguard : CallsInOrder state event) : StepInOrder state event := by
  intro henabled
  cases event with
  | setRemoteSdp caller desc => exact ⟨False.elim, by simp [IceOrder.delivered]⟩
  | setLocalSdp caller desc certificate =>
      cases caller with
      | networkThread => exact ⟨fun _ => hguard, by simp [IceOrder.delivered]⟩
      | otherThread => exact ⟨False.elim, by simp [IceOrder.delivered]⟩
  | setRemoteCandidate caller candidate =>
      cases caller with
      | networkThread => exact ⟨False.elim, hguard⟩
      | otherThread => exact ⟨False.elim, by simp [IceOrder.delivered]⟩
  | advance => exact ⟨False.elim, by simp [IceOrder.delivered]⟩
  | serve task =>
      obtain ⟨outcome, hserve⟩ : ∃ outcome, state.network.serve task = some outcome := by
        simpa [iceOrderStep, controllerStep, Option.isSome_iff_exists] using henabled
      obtain ⟨tasks, hqueue, _, _⟩ := Network.serve_eq_some_iff.mp hserve
      have hhead : state.network.queue[0]? = some task := by simp [hqueue]
      cases task with
      | startGathering =>
          refine ⟨fun _ name owner hreached => ?_, by simp [IceOrder.delivered]⟩
          rcases hready.gathering 0 hhead name owner hreached with hlocal | ⟨_, hmem, _⟩
          · exact hlocal
          · simp at hmem
      | addRemoteCandidate candidate =>
          refine ⟨False.elim, fun description hdescription name owner hreached => ?_⟩
          rw [IceOrder.delivered, List.head?_eq_getElem?] at hdescription
          obtain ⟨_, htold | ⟨_, hmem, _⟩⟩ :=
            hready.candidates 0 candidate hhead description hdescription name owner hreached
          · exact htold
          · simp at hmem
      | applyRemote | applyLocal | sendRtpPacket =>
          exact ⟨False.elim, by simp [IceOrder.delivered]⟩

/-- In every run whose calls meet the condition, each ICE transport gets its local
parameters before it is told to gather, and the remote parameters of a description
before the candidates of that description. -/
theorem iceCalls_inOrder (certificate : Option Certificate) (events : List ControllerEvent)
    (hguarded : Guarded iceOrderStep CallsInOrder (IceOrder.fresh certificate) events) :
    Guarded iceOrderStep StepInOrder (IceOrder.fresh certificate) events :=
  guarded_of_invariant (fun _ _ _ hready hguard => hready.step hguard)
    (fun _ _ hready hguard => hready.stepInOrder hguard) (ready_fresh certificate) hguarded

def sampleCandidate : Candidate where
  foundation := ascii "1"
  component := 1
  protocol := ascii "udp"
  priority := 1
  host := ascii "10.0.0.1"
  port := 9
  type := ascii "host"

/-- A negotiation from another thread, with one candidate. -/
def candidateNegotiation : List ControllerEvent :=
  [.setRemoteSdp .otherThread sampleSection, .advance, .advance,
    .setRemoteCandidate .otherThread sampleCandidate,
    .setLocalSdp .otherThread sampleSection none,
    .serve (.applyRemote sampleParameters 0 0 { description := 0, position := 0 }),
    .serve (.addRemoteCandidate sampleCandidate),
    .serve (.applyLocal (ascii "audio") sampleParameters none),
    .serve .startGathering]

theorem iceCalls_inOrder_candidateNegotiation :
    (run iceOrderStep (IceOrder.fresh none) candidateNegotiation).isSome = true ∧
      Guarded iceOrderStep StepInOrder (IceOrder.fresh none) candidateNegotiation :=
  ⟨by decide, iceCalls_inOrder none candidateNegotiation (by decide)⟩

/-- On the network thread the local description starts gathering before its parameters
have been set. -/
theorem networkThread_gathers_first :
    ∃ events, ¬ Guarded iceOrderStep StepInOrder (IceOrder.fresh none) events := by
  have hreaches : reaches
      (fun state : IceOrder => ReachedAs state.network.controller (ascii "audio") 0 ∧
        ¬ HasLocalParameters state.network.controller 0 ∧
        (iceOrderStep state (.setLocalSdp .networkThread sampleSection none)).isSome = true)
      (run iceOrderStep (IceOrder.fresh none)
        [.setRemoteSdp .networkThread sampleSection, .advance, .advance]) = true := by
    decide
  obtain ⟨state, hrun, hstate⟩ := exists_of_reaches _ hreaches
  obtain ⟨hreached, hlocal, henabled⟩ := of_decide_eq_true hstate
  refine ⟨[.setRemoteSdp .networkThread sampleSection, .advance, .advance] ++
    .setLocalSdp .networkThread sampleSection none :: [], fun hguarded => ?_⟩
  exact hlocal ((guard_of_guarded hguarded hrun henabled).gathering trivial _ 0 hreached)

end PeerConnection.Transport
