import PeerConnection.Transport.Network

/-!
# The side maps of the controller

`ices_` and `dtls_transports_` hold raw pointers into transports that
`JsepTransportCollection` owns.  They are written with `map::insert`, which
keeps an old entry, while registering a transport destroys the one registered
before under the same name.  This file proves that the two stay in agreement
over every run in which each `set_remote_sdp` brings a first content name that
is not in use yet and the task of `set_local_sdp` finds its name registered.
-/

namespace PeerConnection.Transport

open PeerConnection.Text
open PeerConnection.Sdp
open PeerConnection.Runs
open TransportController
open Std

/-- Every entry of the side maps points into the transport registered under its
name. -/
structure SideMapsAgree (controller : TransportController) : Prop where
  ices : ∀ (mid : Bytes) (ice : Option TransportId), controller.ices[mid]? = some ice →
    ∃ owner, ice = some owner ∧ controller.transports.getTransportByName mid = some owner
  dtlsTransports : ∀ (mid : Bytes) (dtls : Option TransportId),
    controller.dtlsTransports[mid]? = some dtls →
    ∃ owner, dtls = some owner ∧ controller.transports.getTransportByName mid = some owner

/-- The first content name is not in the side maps, and no other content has
it. -/
def FirstNameNew (controller : TransportController) (desc : SessionDescription) : Prop :=
  ∀ name ∈ desc.firstContentName,
    controller.ices[name]? = none ∧
      ((desc.contents.map (·.name)).filter (· = name)).length = 1

instance (controller : TransportController) (desc : SessionDescription) :
    Decidable (FirstNameNew controller desc) :=
  inferInstanceAs (Decidable (∀ name ∈ desc.firstContentName, _ ∧ _))

/-- The condition on a step under which it keeps the side maps in agreement.  The
BUNDLE group is part of every description the controller is given. -/
def KeepsNames (network : Network) : ControllerEvent → Prop
  | .setRemoteSdp _ desc => desc.contentGroups ≠ [] ∧ FirstNameNew network.controller desc
  | .serve (.applyLocal mid _ _) => network.controller.ices[mid]? ≠ none
  | _ => True

instance (network : Network) : DecidablePred (KeepsNames network)
  | .setRemoteSdp _ _ => inferInstanceAs (Decidable (_ ∧ _))
  | .serve (.applyLocal _ _ _) => inferInstanceAs (Decidable (_ ≠ _))
  | .serve (.applyRemote _ _ _ _) => .isTrue trivial
  | .serve .startGathering => .isTrue trivial
  | .serve (.addRemoteCandidate _) => .isTrue trivial
  | .serve (.sendRtpPacket _ _) => .isTrue trivial
  | .setLocalSdp _ _ _ => .isTrue trivial
  | .setRemoteCandidate _ _ => .isTrue trivial
  | .advance => .isTrue trivial

/-! ## The invariant -/

/-- A queued task finds the objects its pointers refer to. -/
def Deliverable (network : Network) : Task → Prop
  | .applyRemote _ ice dtls td =>
      network.controller.transports.owns ice = true ∧
        network.controller.transports.owns dtls = true ∧
        ∃ desc info, network.descriptions td.description = some desc ∧
          desc.transportInfos[td.position]? = some info
  | _ => True

/-- The pending registration of a call uses a name that is still unused. -/
structure CallReady (network : Network) (call : RemoteCall) : Prop where
  groups : call.desc.contentGroups ≠ []
  alive : network.descriptions call.description = some call.desc
  pending : call.pendingNames = [] ∨
    ∃ mid, call.pendingNames = [mid] ∧ network.controller.ices[mid]? = none

structure Consistent (network : Network) : Prop where
  mapped : network.controller.transports.Mapped
  agree : SideMapsAgree network.controller
  registered : ∀ mid owner,
    network.controller.transports.getTransportByName mid = some owner →
    network.controller.ices[mid]? = some (some owner) ∧
      network.controller.dtlsTransports[mid]? = some (some owner)
  queued : ∀ task ∈ network.queue, Deliverable network task
  call : ∀ call ∈ network.call, CallReady network call
  unallocated : ∀ description, network.nextDescription ≤ description →
    network.descriptions description = none

/-- A freshly constructed controller. -/
def Network.fresh (certificate : Option Certificate) : Network where
  controller := { certificate := certificate }

theorem consistent_fresh (certificate : Option Certificate) :
    Consistent (Network.fresh certificate) where
  mapped := JsepTransportCollection.mapped_empty
  agree := { ices := by simp [Network.fresh], dtlsTransports := by simp [Network.fresh] }
  registered := by simp [Network.fresh, JsepTransportCollection.getTransportByName]
  queued := by simp [Network.fresh]
  call := by simp [Network.fresh]
  unallocated := by simp [Network.fresh]

/-! ## Calls through the side maps -/

theorem SideMapsAgree.iceCallAll {controller : TransportController}
    (hagree : SideMapsAgree controller) (call : IceCall) :
    ∃ next, controller.iceCallAll call = .ok next := by
  refine (iceCallEach_ok_iff call).mpr fun entry hentry => ?_
  obtain ⟨owner, hice, howner⟩ := hagree.ices entry.1 entry.2
    (TreeMap.mem_toList_iff_getElem?_eq_some.mp hentry)
  exact ⟨owner, hice, owns_of_getTransportByName howner⟩

theorem SideMapsAgree.of_extends {before after : TransportController}
    (hagree : SideMapsAgree before) (hextends : Extends before after) :
    SideMapsAgree after where
  ices := by
    rw [hextends.ices, hextends.transports]
    exact hagree.ices
  dtlsTransports := by
    rw [hextends.dtlsTransports, hextends.transports]
    exact hagree.dtlsTransports

/-! ## Steps -/

theorem Deliverable.of_extends {network : Network} {controller : TransportController}
    {queue : List Task} {call : Option RemoteCall} {task : Task}
    (hextends : Extends network.controller controller) (htask : Deliverable network task) :
    Deliverable
      { network with controller := controller, queue := queue, call := call } task := by
  cases task with
  | applyRemote parameters ice dtls td =>
      obtain ⟨hice, hdtls, hdesc⟩ := htask
      refine ⟨?_, ?_, hdesc⟩
      · rw [hextends.transports]
        exact hice
      · rw [hextends.transports]
        exact hdtls
  | applyLocal | startGathering | addRemoteCandidate | sendRtpPacket => trivial

/-- A step that only extends the records of transports and changes the queue by
deliverable tasks keeps the invariant. -/
theorem Consistent.of_extends {network : Network} {controller : TransportController}
    {queue : List Task} {call : Option RemoteCall} (hconsistent : Consistent network)
    (hextends : Extends network.controller controller)
    (hqueue : ∀ task ∈ queue, Deliverable network task)
    (hcall : ∀ next ∈ call, CallReady network next) :
    Consistent { network with controller := controller, queue := queue, call := call } where
  mapped := by
    rw [hextends.transports]
    exact hconsistent.mapped
  agree := hconsistent.agree.of_extends hextends
  registered := by
    rw [hextends.transports, hextends.ices, hextends.dtlsTransports]
    exact hconsistent.registered
  queued task htask := (hqueue task htask).of_extends hextends
  call next hnext := by
    obtain ⟨hgroups, halive, hpending⟩ := hcall next hnext
    refine ⟨hgroups, halive, ?_⟩
    rw [hextends.ices]
    exact hpending
  unallocated := hconsistent.unallocated

theorem Task.CapturesNothing.deliverable {network : Network} {task : Task}
    (htask : task.CapturesNothing) : Deliverable network task := by
  cases task with
  | applyRemote => exact htask.elim
  | applyLocal | startGathering | addRemoteCandidate | sendRtpPacket => trivial

/-- `set_local_sdp` does not fault on agreeing side maps. -/
theorem SideMapsAgree.setLocalSdp {controller : TransportController}
    (hagree : SideMapsAgree controller) (caller : Caller) (desc : SessionDescription)
    (certificate : Option Certificate) :
    ∃ next posted, controller.setLocalSdp caller desc certificate = .ok (next, posted) := by
  cases caller with
  | networkThread =>
      obtain ⟨next, hnext⟩ := hagree.iceCallAll .maybeStartGathering
      refine ⟨next, localTasks desc certificate, ?_⟩
      simp [TransportController.setLocalSdp, hnext, bind, Except.bind, pure, Except.pure]
  | otherThread => exact ⟨controller, _, rfl⟩

theorem SideMapsAgree.setRemoteCandidate {controller : TransportController}
    (hagree : SideMapsAgree controller) (caller : Caller) (candidate : Candidate) :
    ∃ next posted, controller.setRemoteCandidate caller candidate = .ok (next, posted) := by
  cases caller with
  | networkThread =>
      obtain ⟨next, hnext⟩ := hagree.iceCallAll (.addRemoteCandidate candidate)
      refine ⟨next, [], ?_⟩
      simp [TransportController.setRemoteCandidate, hnext, bind, Except.bind, pure,
        Except.pure]
  | otherThread => exact ⟨controller, _, rfl⟩

theorem SideMapsAgree.setRemoteCandidates {controller : TransportController}
    (hagree : SideMapsAgree controller) (caller : Caller) (candidates : List Candidate) :
    ∃ next posted,
      TransportController.setRemoteCandidates caller controller candidates =
        .ok (next, posted) := by
  induction candidates generalizing controller with
  | nil => exact ⟨controller, [], rfl⟩
  | cons candidate candidates ih =>
      obtain ⟨middle, posted, hfirst⟩ := hagree.setRemoteCandidate caller candidate
      obtain ⟨final, rest, hrest⟩ :=
        ih (hagree.of_extends (setRemoteCandidate_quiet hfirst).records)
      refine ⟨final, posted ++ rest, ?_⟩
      simp [TransportController.setRemoteCandidates, hfirst, hrest, bind, Except.bind, pure,
        Except.pure]

/-! ### Registration -/

/-- A new name of a side map is entered as given. -/
theorem getElem?_insertIfNew_of_none {β : Type*} {entries : TreeMap Bytes β} {mid : Bytes}
    (hnew : entries[mid]? = none) (other : Bytes) (value : β) :
    (entries.insertIfNew mid value)[other]? =
      if mid = other then some value else entries[other]? := by
  have hmem : mid ∉ entries := by
    intro hmem
    rw [TreeMap.getElem?_eq_some_getElem hmem] at hnew
    exact absurd hnew (by simp)
  rw [TreeMap.getElem?_insertIfNew]
  simp [hmem]

section Registration

variable {network : Network} (description : DescriptionId) (desc : SessionDescription)
variable {mid : Bytes}

/-- In a consistent state an unused name of `ices_` owns no transport and has no
entry in `dtls_transports_` either. -/
theorem Consistent.unused (hconsistent : Consistent network)
    (hnew : network.controller.ices[mid]? = none) :
    network.controller.transports.getTransportByName mid = none ∧
      network.controller.dtlsTransports[mid]? = none := by
  have hname : network.controller.transports.getTransportByName mid = none := by
    cases howner : network.controller.transports.getTransportByName mid with
    | none => rfl
    | some owner =>
        have hice := (hconsistent.registered mid owner howner).1
        exact absurd (hnew.symm.trans hice) (by simp)
  refine ⟨hname, ?_⟩
  cases hdtls : network.controller.dtlsTransports[mid]? with
  | none => rfl
  | some dtls =>
      obtain ⟨owner, _, howner⟩ := hconsistent.agree.dtlsTransports mid dtls hdtls
      exact absurd (hname.symm.trans howner) (by simp)

/-- Registering an unused name destroys no transport. -/
theorem Consistent.owns_registerContent (hconsistent : Consistent network)
    (hnew : network.controller.ices[mid]? = none) {owner : TransportId}
    (howner : network.controller.transports.owns owner = true) :
    (network.controller.registerContent description desc mid).1.transports.owns owner =
      true := by
  obtain ⟨name, hname⟩ := (JsepTransportCollection.owns_iff _ _).mp howner
  have hne : mid ≠ name := by
    rintro rfl
    exact absurd ((hconsistent.unused hnew).1.symm.trans hname) (by simp)
  refine (JsepTransportCollection.owns_iff _ _).mpr ⟨name, ?_⟩
  rw [getTransportByName_registerContent _ _ hconsistent.mapped, if_neg hne, hname]

theorem Consistent.agree_registerContent (hconsistent : Consistent network)
    (hnew : network.controller.ices[mid]? = none) :
    SideMapsAgree (network.controller.registerContent description desc mid).1 where
  ices other ice hice := by
    rw [getTransportByName_registerContent _ _ hconsistent.mapped]
    have hlookup := getElem?_insertIfNew_of_none hnew other
      (some network.controller.nextTransport)
    rw [show (network.controller.ices.insertIfNew mid
      (some network.controller.nextTransport))[other]? = some ice from hice] at hlookup
    by_cases hother : mid = other
    · rw [if_pos hother] at hlookup ⊢
      exact ⟨_, Option.some.inj hlookup, rfl⟩
    · rw [if_neg hother] at hlookup ⊢
      exact hconsistent.agree.ices other ice hlookup.symm
  dtlsTransports other dtls hdtls := by
    rw [getTransportByName_registerContent _ _ hconsistent.mapped]
    have hlookup := getElem?_insertIfNew_of_none (hconsistent.unused hnew).2 other
      (some network.controller.nextTransport)
    rw [show (network.controller.dtlsTransports.insertIfNew mid
      (some network.controller.nextTransport))[other]? = some dtls from hdtls] at hlookup
    by_cases hother : mid = other
    · rw [if_pos hother] at hlookup ⊢
      exact ⟨_, Option.some.inj hlookup, rfl⟩
    · rw [if_neg hother] at hlookup ⊢
      exact hconsistent.agree.dtlsTransports other dtls hlookup.symm

theorem Consistent.registered_registerContent (hconsistent : Consistent network)
    (hnew : network.controller.ices[mid]? = none) (other : Bytes) (owner : TransportId)
    (howner : (network.controller.registerContent description desc
      mid).1.transports.getTransportByName other = some owner) :
    (network.controller.registerContent description desc mid).1.ices[other]? =
        some (some owner) ∧
      (network.controller.registerContent description desc mid).1.dtlsTransports[other]? =
        some (some owner) := by
  rw [getTransportByName_registerContent _ _ hconsistent.mapped] at howner
  have hice := getElem?_insertIfNew_of_none hnew other
    (some network.controller.nextTransport)
  have hdtls := getElem?_insertIfNew_of_none (hconsistent.unused hnew).2 other
    (some network.controller.nextTransport)
  by_cases hother : mid = other
  · rw [if_pos hother] at howner hice hdtls
    rw [← howner]
    exact ⟨hice, hdtls⟩
  · rw [if_neg hother] at howner hice hdtls
    obtain ⟨hiceOld, hdtlsOld⟩ := hconsistent.registered other owner howner
    exact ⟨hice.trans hiceOld, hdtls.trans hdtlsOld⟩

end Registration

/-- Registering the pending content of a call keeps the invariant. -/
theorem Consistent.registerContent {network : Network} {call : RemoteCall}
    {content : ContentInfo} {contents : List ContentInfo}
    (hconsistent : Consistent network) (hcall : network.call = some call)
    (hremaining : call.remaining = content :: contents)
    (hfirst : call.desc.firstContentName = some content.name) :
    Consistent
      { network.post
          (network.controller.registerContent call.description call.desc content.name).1
          (network.controller.registerContent call.description call.desc content.name).2 with
        call := some { call with remaining := contents } } := by
  obtain ⟨hgroups, halive, hpending⟩ := hconsistent.call call hcall
  rw [RemoteCall.pendingNames_cons_of_first hremaining hfirst] at hpending
  obtain ⟨hnew, hrest⟩ : network.controller.ices[content.name]? = none ∧
      { call with remaining := contents }.pendingNames = [] := by
    rcases hpending with hnil | ⟨mid, hnames, hmid⟩
    · simp at hnil
    · obtain ⟨rfl, hrest⟩ := List.cons_eq_cons.mp hnames
      exact ⟨hmid, hrest⟩
  exact
    { mapped := JsepTransportCollection.mapped_registerTransport hconsistent.mapped _ _ _
      agree := hconsistent.agree_registerContent call.description call.desc hnew
      registered := hconsistent.registered_registerContent call.description call.desc hnew
      queued := by
        intro task htask
        rcases List.mem_append.mp htask with hqueued | hposted
        · have hdeliverable := hconsistent.queued task hqueued
          cases task with
          | applyRemote parameters ice dtls td =>
              obtain ⟨hice, hdtls, hdesc⟩ := hdeliverable
              exact ⟨hconsistent.owns_registerContent call.description call.desc hnew hice,
                hconsistent.owns_registerContent call.description call.desc hnew hdtls,
                hdesc⟩
          | applyLocal | startGathering | addRemoteCandidate | sendRtpPacket => trivial
        · obtain ⟨position, info, hinfo, _, rfl⟩ := mem_remoteTasks hposted
          have howner :
              (network.controller.registerContent call.description call.desc
                content.name).1.transports.owns network.controller.nextTransport = true :=
            (JsepTransportCollection.owns_iff _ _).mpr ⟨content.name, by
              rw [getTransportByName_registerContent call.description call.desc
                hconsistent.mapped, if_pos rfl]⟩
          exact ⟨howner, howner, call.desc, info, halive, hinfo⟩
      call := by
        intro next hnext
        obtain rfl := Option.some.inj hnext
        exact ⟨hgroups, halive, Or.inl hrest⟩
      unallocated := hconsistent.unallocated }

/-! ### One lemma for each kind of step -/

/-- What one guarded step ends with.  The only fault left is the missing
fingerprint, which is no matter of the side maps. -/
abbrev StepEnds : Except Fault Network → Prop :=
  Ends Consistent fun reason => reason = .null .identityFingerprint

section Steps

variable {network : Network}

theorem FirstNameNew.pendingNames {controller : TransportController}
    {desc : SessionDescription} (hnew : FirstNameNew controller desc) (call : RemoteCall)
    (hdesc : call.desc = desc) (hremaining : call.remaining = desc.contents) :
    call.pendingNames = [] ∨
      ∃ mid, call.pendingNames = [mid] ∧ controller.ices[mid]? = none := by
  rw [RemoteCall.pendingNames, hdesc, hremaining]
  cases hname : desc.firstContentName with
  | none => exact Or.inl (by simp)
  | some name =>
      obtain ⟨hunused, honce⟩ := hnew name hname
      obtain ⟨mid, hmid⟩ := List.length_eq_one_iff.mp honce
      have hsame : mid = name := by
        have hmem : mid ∈ (desc.contents.map (·.name)).filter (· = name) := by simp [hmid]
        simpa using (List.mem_filter.mp hmem).2
      refine Or.inr ⟨name, ?_, hunused⟩
      rw [← hsame, ← hmid, hsame]
      exact List.filter_congr fun other _ => by simp [eq_comm]

/-- Starting a call registers nothing yet. -/
theorem Consistent.startRemoteCall (hconsistent : Consistent network) (caller : Caller)
    {desc : SessionDescription} (hgroups : desc.contentGroups ≠ [])
    (hnew : FirstNameNew network.controller desc) :
    Consistent ((network.allocate desc).startRemoteCall caller network.nextDescription
      desc []) where
  mapped := hconsistent.mapped
  agree := hconsistent.agree
  registered := hconsistent.registered
  queued task htask := by
    have hdeliverable := hconsistent.queued task htask
    cases task with
    | applyRemote parameters ice dtls td =>
        obtain ⟨hice, hdtls, owned, info, halive, hinfo⟩ := hdeliverable
        refine ⟨hice, hdtls, owned, info, ?_, hinfo⟩
        have hother : td.description ≠ network.nextDescription := by
          intro hsame
          rw [hconsistent.unallocated _ hsame.ge] at halive
          exact absurd halive (by simp)
        exact (Function.update_of_ne hother _ _).trans halive
    | applyLocal | startGathering | addRemoteCandidate | sendRtpPacket => trivial
  call call hcall := by
    obtain rfl := Option.some.inj hcall
    exact ⟨hgroups, Function.update_self _ _ _, hnew.pendingNames _ rfl rfl⟩
  unallocated description hdescription := by
    have hother : description ≠ network.nextDescription := by
      rintro rfl
      exact absurd hdescription (by simp [Network.startRemoteCall, Network.allocate])
    refine (Function.update_of_ne hother _ _).trans (hconsistent.unallocated _ ?_)
    exact (Nat.le_succ _).trans hdescription

/-- Posting tasks without captured pointers keeps the invariant. -/
theorem Consistent.post (hconsistent : Consistent network) {controller : TransportController}
    {posted : List Task} {call : Option RemoteCall}
    (hquiet : Quiet network.controller controller posted)
    (hcall : ∀ next ∈ call, CallReady network next) :
    Consistent { network.post controller posted with call := call } :=
  hconsistent.of_extends hquiet.records
    (fun task htask => (List.mem_append.mp htask).elim (hconsistent.queued task)
      fun hnew => (hquiet.posted task hnew).deliverable) hcall

theorem Consistent.setLocalSdp (hconsistent : Consistent network) (caller : Caller)
    (desc : SessionDescription) (certificate : Option Certificate) :
    StepEnds (network.setLocalSdp caller desc certificate) := by
  obtain ⟨next, posted, hnext⟩ := hconsistent.agree.setLocalSdp caller desc certificate
  rw [Network.setLocalSdp, hnext]
  exact hconsistent.post (setLocalSdp_quiet hnext) hconsistent.call

theorem Consistent.setRemoteCandidate (hconsistent : Consistent network) (caller : Caller)
    (candidate : Candidate) :
    StepEnds (network.setRemoteCandidate caller candidate) := by
  obtain ⟨next, posted, hnext⟩ := hconsistent.agree.setRemoteCandidate caller candidate
  rw [Network.setRemoteCandidate, hnext]
  exact hconsistent.post (setRemoteCandidate_quiet hnext) hconsistent.call

theorem Consistent.advance (hconsistent : Consistent network)
    {outcome : Except Fault Network} (hadvance : network.advance = some outcome) :
    StepEnds outcome := by
  obtain ⟨call, hcall, ⟨-, rfl⟩ | ⟨content, contents, hremaining, -, rfl⟩⟩ :=
    Network.advance_eq_some_iff.mp hadvance
  · obtain ⟨next, posted, hnext⟩ :=
      hconsistent.agree.setRemoteCandidates call.caller call.candidates
    rw [hnext]
    exact hconsistent.post (setRemoteCandidates_quiet hnext) (by simp)
  · have hready := hconsistent.call call hcall
    by_cases hfirst : call.desc.firstContentName = some content.name
    · rw [setRemoteSdpContent_eq_ok_iff.mpr ⟨hready.groups, (if_pos hfirst).symm⟩]
      exact hconsistent.registerContent hcall hremaining hfirst
    · rw [setRemoteSdpContent_eq_ok_iff.mpr ⟨hready.groups, (if_neg hfirst).symm⟩]
      refine hconsistent.post ⟨Extends.refl _, by simp⟩ fun next hnext => ?_
      obtain rfl := Option.some.inj hnext
      refine ⟨hready.groups, hready.alive, ?_⟩
      rw [← RemoteCall.pendingNames_cons_of_other hremaining hfirst]
      exact hready.pending

/-- A deliverable task runs, unless the description has no fingerprint. -/
theorem Consistent.runTask (hconsistent : Consistent network) {task : Task}
    (htask : Deliverable network task)
    (hlocal : ∀ mid parameters certificate, task = .applyLocal mid parameters certificate →
      network.controller.ices[mid]? ≠ none) :
    (∃ next, network.controller.runTask network.descriptions task = .ok next) ∨
      network.controller.runTask network.descriptions task =
        .error (.null .identityFingerprint) := by
  cases task with
  | applyRemote parameters ice dtls td =>
      obtain ⟨hice, hdtls, desc, info, hdesc, hinfo⟩ := htask
      have hfirst : network.controller.iceCall (some ice) (.setRemoteIceParameters parameters) =
          .ok (network.controller.recordIceCall ice (.setRemoteIceParameters parameters)) :=
        iceCall_eq_ok_iff.mpr ⟨ice, rfl, hice, rfl⟩
      cases hprint : info.description.identityFingerprint with
      | none =>
          right
          simp [TransportController.runTask, hfirst, hdesc, hinfo, hprint, bind, Except.bind]
      | some print =>
          left
          refine ⟨(network.controller.recordIceCall ice
            (.setRemoteIceParameters parameters)).recordDtlsCall dtls
              (.setRemoteFingerprint print), ?_⟩
          simp only [TransportController.runTask, hfirst, hdesc, hinfo, hprint, bind,
            Except.bind]
          exact dtlsCall_eq_ok_iff.mpr ⟨dtls, rfl, hdtls, rfl⟩
  | applyLocal mid parameters certificate =>
      left
      obtain ⟨ice, hentry⟩ :=
        Option.ne_none_iff_exists'.mp (hlocal mid parameters certificate rfl)
      obtain ⟨owner, rfl, hname⟩ := hconsistent.agree.ices mid ice hentry
      have howner := owns_of_getTransportByName hname
      have hice : network.controller.iceCall (network.controller.ices[mid]?.join)
          (.setIceParameters parameters) =
          .ok (network.controller.recordIceCall owner (.setIceParameters parameters)) :=
        iceCall_eq_ok_iff.mpr ⟨owner, by rw [hentry]; rfl, howner, rfl⟩
      have hdtls : (network.controller.recordIceCall owner
          (.setIceParameters parameters)).dtlsCall (network.controller.dtlsTransports[mid]?.join)
          (.setLocalCertificate certificate) =
          .ok ((network.controller.recordIceCall owner
            (.setIceParameters parameters)).recordDtlsCall owner
            (.setLocalCertificate certificate)) :=
        dtlsCall_eq_ok_iff.mpr
          ⟨owner, by rw [(hconsistent.registered mid owner hname).2]; rfl, howner, rfl⟩
      exact ⟨_, Runs.except_bind_eq_ok_iff.mpr ⟨_, hice, hdtls⟩⟩
  | startGathering => exact Or.inl (hconsistent.agree.iceCallAll .maybeStartGathering)
  | addRemoteCandidate candidate =>
      exact Or.inl (hconsistent.agree.iceCallAll (.addRemoteCandidate candidate))
  | sendRtpPacket transportName packet =>
      left
      rw [TransportController.runTask]
      split <;> exact ⟨_, rfl⟩

theorem Consistent.serve (hconsistent : Consistent network) {task : Task}
    (hguard : KeepsNames network (.serve task)) {outcome : Except Fault Network}
    (hserve : network.serve task = some outcome) : StepEnds outcome := by
  obtain ⟨tasks, hqueue, -, rfl⟩ := Network.serve_eq_some_iff.mp hserve
  have hdeliverable := hconsistent.queued task (by simp [hqueue])
  have hlocal : ∀ mid parameters certificate,
      task = .applyLocal mid parameters certificate →
      network.controller.ices[mid]? ≠ none := by
    rintro mid parameters certificate rfl
    exact hguard
  rcases hconsistent.runTask hdeliverable hlocal with ⟨next, hnext⟩ | hfault
  · rw [hnext]
    exact hconsistent.of_extends (runTask_extends hnext)
      (fun other hother => hconsistent.queued other (by simp [hqueue, hother]))
      hconsistent.call
  · rw [hfault]
    exact rfl

/-- The step lemma. -/
theorem consistent_step {event : ControllerEvent} (hconsistent : Consistent network)
    (hguard : KeepsNames network event) {outcome : Except Fault Network}
    (hstep : controllerStep network event = some outcome) : StepEnds outcome := by
  cases event with
  | setRemoteSdp caller desc =>
      rw [controllerStep] at hstep
      split_ifs at hstep
      obtain rfl := Option.some.inj hstep
      exact hconsistent.startRemoteCall caller hguard.1 hguard.2
  | setLocalSdp caller desc certificate =>
      rw [controllerStep] at hstep
      split_ifs at hstep
      exact Option.some.inj hstep ▸ hconsistent.setLocalSdp caller desc certificate
  | setRemoteCandidate caller candidate =>
      rw [controllerStep] at hstep
      split_ifs at hstep
      exact Option.some.inj hstep ▸ hconsistent.setRemoteCandidate caller candidate
  | advance => exact hconsistent.advance hstep
  | serve task => exact hconsistent.serve hguard hstep

end Steps

/-- Over every run of calls and tasks that brings only new names, the side maps
agree with the registered transports in every state reached, and no call or task
meets a null or destroyed transport. -/
theorem sideMapsAgree_of_keepsNames (certificate : Option Certificate)
    (events : List ControllerEvent)
    (hguarded : Guarded controllerStep KeepsNames (Network.fresh certificate) events)
    {outcome : Except Fault Network}
    (hrun : run controllerStep (Network.fresh certificate) events = some outcome) :
    Ends (fun network => SideMapsAgree network.controller)
      (fun reason => reason = .null .identityFingerprint) outcome := by
  have hends : StepEnds outcome :=
    guarded_run_induction _
      (fun _ _ _ hconsistent hguard hstep => consistent_step hconsistent hguard hstep)
      (fun _ _ _ hconsistent hguard hstep => consistent_step hconsistent hguard hstep)
      (consistent_fresh certificate) hguarded hrun
  cases outcome with
  | ok network => exact hends.agree
  | error reason => exact hends

/-- A section with ICE credentials and a fingerprint. -/
def sampleSection : SessionDescription :=
  .singleSection .audio (ascii "audio")
    { iceUfrag := ascii "user"
      icePwd := ascii "secret"
      identityFingerprint := some { algorithm := ascii "sha-256", digest := [1, 2] } }

def sampleParameters : IceParameters := { ufrag := ascii "user", pwd := ascii "secret" }

/-- One negotiation: the remote section, the local one, and the tasks of both. -/
def sampleNegotiation : List ControllerEvent :=
  [.setRemoteSdp .otherThread sampleSection, .advance, .advance,
    .setLocalSdp .otherThread sampleSection none,
    .serve (.applyRemote sampleParameters 0 0 { description := 0, position := 0 }),
    .serve (.applyLocal (ascii "audio") sampleParameters none),
    .serve .startGathering]

theorem sideMapsAgree_of_keepsNames_sample :
    ∃ final, run controllerStep (Network.fresh none) sampleNegotiation = some (.ok final) ∧
      SideMapsAgree final.controller := by
  have hreaches : reaches (fun _ => true)
      (run controllerStep (Network.fresh none) sampleNegotiation) = true := by
    decide
  obtain ⟨final, hrun, _⟩ := exists_of_reaches _ hreaches
  exact ⟨final, hrun, sideMapsAgree_of_keepsNames none _ (by decide) hrun⟩

/-- A second description with the same name leaves the side maps with pointers
into the destroyed transport. -/
theorem sideMaps_disagree_after_renegotiation :
    ∃ events final,
      (∀ caller desc, .setRemoteSdp caller desc ∈ events → desc.contentGroups ≠ []) ∧
      run controllerStep (Network.fresh none) events = some (.ok final) ∧
      ¬ SideMapsAgree final.controller := by
  have hreaches : reaches
      (fun network => network.controller.ices[ascii "audio"]? = some (some 0) ∧
        network.controller.transports.getTransportByName (ascii "audio") = some 1)
      (run controllerStep (Network.fresh none)
        [.setRemoteSdp .networkThread sampleSection, .advance, .advance,
          .setRemoteSdp .networkThread sampleSection, .advance, .advance]) = true := by
    decide
  obtain ⟨final, hrun, hstale⟩ := exists_of_reaches _ hreaches
  refine ⟨_, final, ?_, hrun, fun hagree => ?_⟩
  · rintro caller desc hmem
    have hdesc : desc = sampleSection := by
      simp only [List.mem_cons, ControllerEvent.setRemoteSdp.injEq, reduceCtorEq,
        List.not_mem_nil, or_false, false_or] at hmem
      exact hmem.elim (·.2) (·.2)
    simp [hdesc, sampleSection, SessionDescription.singleSection]
  · obtain ⟨hice, howner⟩ := of_decide_eq_true hstale
    obtain ⟨owner, hsame, hname⟩ := hagree.ices _ _ hice
    rw [howner, ← hsame] at hname
    exact absurd hname (by decide)

end PeerConnection.Transport
