import PeerConnection.Sdp.Accepted
import PeerConnection.Connection.Methods

/-!
# Reachable connections

What one step of the connection can do is said once, in `StepResult`.  From it
follow the ownership facts that hold in every reachable state, whatever is
negotiated in whatever order.
-/

namespace PeerConnection.Connection

open PeerConnection.Text
open PeerConnection.Scan
open PeerConnection.Sdp
open PeerConnection.Runs
open PeerConnection.Transport
open PeerConnection.Transport.TransportController

/-! ## How a text is read -/

/-- Every line of the text passes, and there is one. -/
def Accepted (sdp : Bytes) : Prop :=
  sdpFields sdp ≠ [] ∧ firstExit lineVerdict (sdpEntries sdp) = none

/-- The first line that does not pass is one that `set_remote_sdp` gives up on. -/
def Rejected (sdp : Bytes) : Prop :=
  firstExit lineVerdict (sdpEntries sdp) = some .reject

instance : DecidablePred Accepted := fun _ => inferInstanceAs (Decidable (_ ∧ _))
instance : DecidablePred Rejected := fun _ => inferInstanceAs (Decidable (_ = _))

theorem Rejected.not_accepted {sdp : Bytes} (hrejected : Rejected sdp) : ¬ Accepted sdp := by
  rintro ⟨_, hnone⟩
  exact absurd (hrejected.symm.trans hnone) (by simp)

theorem Rejected.fields_ne_nil {sdp : Bytes} (hrejected : Rejected sdp) :
    sdpFields sdp ≠ [] := by
  intro hfields
  rw [Rejected, sdpEntries, hfields] at hrejected
  exact absurd hrejected (by decide)

namespace P2pPeerConnection

/-- The four ways of `set_remote_sdp` up to the calls of the controller. -/
theorem readSdp_cases (api : TransportApi) (connection : P2pPeerConnection) (sdp : Bytes) :
    (sdpFields sdp = [] ∧
      connection.readSdp api sdp = .stop (connection, connection.parseState)) ∨
    (Accepted sdp ∧
      connection.readSdp api sdp = .next
        (connection.store (acceptedState api connection.audioPt connection.videoPt sdp)
          (acceptedDescription api sdp),
          acceptedState api connection.audioPt connection.videoPt sdp)) ∨
    (Rejected sdp ∧ ∃ state, connection.readSdp api sdp =
      .stop (connection.store state { contentGroups := state.contentGroups }, state)) ∨
    ((¬ Accepted sdp ∧ ¬ Rejected sdp ∧ sdpFields sdp ≠ []) ∧
      ∃ reason, connection.readSdp api sdp = .fault reason) := by
  by_cases hfields : sdpFields sdp = []
  · exact Or.inl ⟨hfields, by rw [readSdp, if_pos hfields]⟩
  have houtcome := (parseLine_classifies api).scan_outcome connection.parseState
    (sdpFields sdp)
  have hentries : labels nextSection connection.parseState.mid (sdpFields sdp) =
      sdpEntries sdp := rfl
  rw [hentries] at houtcome
  rw [readSdp, if_neg hfields, parseFields]
  cases hexit : firstExit lineVerdict (sdpEntries sdp) with
  | none =>
      simp only [hexit] at houtcome
      refine Or.inr (Or.inl ⟨⟨hfields, hexit⟩, ?_⟩)
      rw [houtcome, ← acceptedState_description api connection.audioPt connection.videoPt]
      rfl
  | some verdict =>
      cases verdict with
      | pass => simp only [hexit] at houtcome
      | reject =>
          simp only [hexit] at houtcome
          obtain ⟨state, hstate⟩ := houtcome
          exact Or.inr (Or.inr (Or.inl ⟨hexit, state, by rw [hstate]⟩))
      | invalid =>
          simp only [hexit] at houtcome
          obtain ⟨reason, hreason⟩ := houtcome
          refine Or.inr (Or.inr (Or.inr ⟨⟨?_, ?_, hfields⟩, reason, by rw [hreason]⟩))
          · simp [Accepted, hexit]
          · simp [Rejected, hexit]

/-! ### The stored members -/

section Store

variable (connection : P2pPeerConnection) (state : ParseState) (desc : SessionDescription)

@[simp]
theorem store_controller :
    (connection.store state desc).network.controller = connection.network.controller := by
  cases hdesc : connection.remoteDesc <;> simp [store, replaceRemoteDesc, hdesc] <;> rfl

@[simp]
theorem store_queue :
    (connection.store state desc).network.queue = connection.network.queue := by
  cases hdesc : connection.remoteDesc <;> simp [store, replaceRemoteDesc, hdesc] <;> rfl

@[simp]
theorem store_call :
    (connection.store state desc).network.call = connection.network.call := by
  cases hdesc : connection.remoteDesc <;> simp [store, replaceRemoteDesc, hdesc] <;> rfl

@[simp]
theorem store_nextDescription :
    (connection.store state desc).network.nextDescription =
      connection.network.nextDescription + 1 := by
  cases hdesc : connection.remoteDesc <;> simp [store, replaceRemoteDesc, hdesc] <;> rfl

@[simp]
theorem store_remoteDesc :
    (connection.store state desc).remoteDesc = some connection.network.nextDescription := rfl

@[simp]
theorem store_descriptions_self :
    (connection.store state desc).network.descriptions connection.network.nextDescription =
      some desc := by
  cases hdesc : connection.remoteDesc <;>
    simp [store, replaceRemoteDesc, hdesc, Network.allocate, Network.free]

end Store

/-- The call of the controller that an accepted text leads to. -/
def remoteCall (api : TransportApi) (connection : P2pPeerConnection) (caller : Caller)
    (sdp : Bytes) : RemoteCall where
  caller := caller
  description := connection.network.nextDescription
  desc := acceptedDescription api sdp
  remaining := (acceptedDescription api sdp).contents
  candidates := acceptedCandidates sdp

/-- The state in which the controller takes over an accepted text. -/
def started (api : TransportApi) (connection : P2pPeerConnection) (caller : Caller)
    (sdp : Bytes) : P2pPeerConnection :=
  let stored := connection.store
    (acceptedState api connection.audioPt connection.videoPt sdp)
    (acceptedDescription api sdp)
  { stored with
    network := { stored.network with call := some (connection.remoteCall api caller sdp) } }

section Started

variable {api : TransportApi} {connection : P2pPeerConnection} {caller : Caller}
variable {sdp : Bytes}

theorem setRemoteSdp_eq_next_iff {after : P2pPeerConnection} :
    connection.setRemoteSdp api caller sdp = .next after ↔
      Accepted sdp ∧ after = connection.started api caller sdp := by
  rw [setRemoteSdp]
  rcases connection.readSdp_cases api sdp with ⟨hfields, hread⟩ | ⟨haccepted, hread⟩ |
    ⟨hrejected, state, hread⟩ | ⟨⟨hnot, _, _⟩, reason, hread⟩
  · simp [hread, Accepted, hfields]
  · simp only [hread, haccepted, true_and, acceptedState_description,
      acceptedState_allCandidate, Outcome.next.injEq]
    exact eq_comm
  · simp [hread, hrejected.not_accepted]
  · simp [hread, hnot]

theorem setRemoteSdp_eq_stop_iff {left : P2pPeerConnection} :
    connection.setRemoteSdp api caller sdp = .stop left ↔
      ∃ state, connection.readSdp api sdp = .stop (left, state) := by
  rw [setRemoteSdp]
  cases connection.readSdp api sdp with
  | next result => simp
  | stop result => simp [Prod.ext_iff]
  | fault reason => simp

@[simp]
theorem started_remoteDesc :
    (connection.started api caller sdp).remoteDesc =
      some connection.network.nextDescription := rfl

@[simp]
theorem started_controller :
    (connection.started api caller sdp).network.controller =
      connection.network.controller :=
  connection.store_controller
    (acceptedState api connection.audioPt connection.videoPt sdp)
    (acceptedDescription api sdp)

@[simp]
theorem started_queue :
    (connection.started api caller sdp).network.queue = connection.network.queue :=
  connection.store_queue (acceptedState api connection.audioPt connection.videoPt sdp)
    (acceptedDescription api sdp)

@[simp]
theorem started_descriptions_self :
    (connection.started api caller sdp).network.descriptions
      connection.network.nextDescription = some (acceptedDescription api sdp) :=
  connection.store_descriptions_self
    (acceptedState api connection.audioPt connection.videoPt sdp) _

end Started

end P2pPeerConnection

/-! ## What one step can do -/

/-- A step that neither sets a remote description nor registers a transport. -/
structure QuietStep (before after : P2pPeerConnection) : Prop where
  records : Extends before.network.controller after.network.controller
  queue : ∀ task ∈ after.network.queue, task ∈ before.network.queue ∨ task.CapturesNothing
  kept : ∀ task ∈ before.network.queue, task ∈ after.network.queue ∨
    before.network.controller.runTask before.network.descriptions task =
      .ok after.network.controller
  call : after.network.call = before.network.call ∨
    after.network.call = none ∧ ∀ call ∈ before.network.call, call.remaining = []
  descriptions : after.network.descriptions = before.network.descriptions
  nextDescription : after.network.nextDescription = before.network.nextDescription
  remoteDesc : after.remoteDesc = before.remoteDesc

theorem QuietStep.call_eq {before after : P2pPeerConnection} (hquiet : QuietStep before after)
    {call : RemoteCall} (hcall : after.network.call = some call) :
    before.network.call = some call := by
  rcases hquiet.call with hsame | ⟨hnone, _⟩
  · rw [← hsame, hcall]
  · exact absurd (hnone.symm.trans hcall) (by simp)

inductive StepResult (api : TransportApi) (before : P2pPeerConnection) :
    ConnectionEvent → P2pPeerConnection → Prop where
  | empty (caller : Caller) (sdp : Bytes) (hfields : sdpFields sdp = []) :
      StepResult api before (.setRemoteSdp caller sdp) before
  | rejected (caller : Caller) (sdp : Bytes) (state : ParseState)
      (hcall : before.network.call = none) (hrejected : Rejected sdp) :
      StepResult api before (.setRemoteSdp caller sdp)
        (before.store state { contentGroups := state.contentGroups })
  | accepted (caller : Caller) (sdp : Bytes) (hcall : before.network.call = none)
      (haccepted : Accepted sdp) :
      StepResult api before (.setRemoteSdp caller sdp) (before.started api caller sdp)
  | registered (call : RemoteCall) (content : ContentInfo) (contents : List ContentInfo)
      (hcall : before.network.call = some call)
      (hremaining : call.remaining = content :: contents)
      (hfirst : call.desc.firstContentName = some content.name)
      (hqueue : call.caller = .otherThread → before.network.queue = []) :
      StepResult api before .advance
        { before with
          network :=
            { before.network.post
                (before.network.controller.registerContent call.description call.desc
                  content.name).1
                (before.network.controller.registerContent call.description call.desc
                  content.name).2 with
              call := some { call with remaining := contents } } }
  | passed (call : RemoteCall) (content : ContentInfo) (contents : List ContentInfo)
      (hcall : before.network.call = some call)
      (hremaining : call.remaining = content :: contents)
      (hfirst : call.desc.firstContentName ≠ some content.name) :
      StepResult api before .advance
        { before with
          network := { before.network with
            call := some { call with remaining := contents } } }
  | quiet (event : ConnectionEvent) (after : P2pPeerConnection)
      (hquiet : QuietStep before after) : StepResult api before event after

section Steps

variable {api : TransportApi} {before after : P2pPeerConnection}

theorem stepResult_setRemoteSdp {caller : Caller} {sdp : Bytes}
    (hstep : connectionStep api before (.setRemoteSdp caller sdp) = some (.ok after)) :
    StepResult api before (.setRemoteSdp caller sdp) after := by
  rw [connectionStep] at hstep
  split_ifs at hstep with hcall
  have hcall : before.network.call = none := by simpa using hcall
  split at hstep
  · rename_i started hstarted
    obtain rfl := Except.ok.inj (Option.some.inj hstep)
    obtain ⟨haccepted, rfl⟩ := P2pPeerConnection.setRemoteSdp_eq_next_iff.mp hstarted
    exact .accepted caller sdp hcall haccepted
  · rename_i stored hstopped
    obtain rfl := Except.ok.inj (Option.some.inj hstep)
    obtain ⟨state, hstate⟩ := P2pPeerConnection.setRemoteSdp_eq_stop_iff.mp hstopped
    rcases before.readSdp_cases api sdp with ⟨hfields, hread⟩ | ⟨_, hread⟩ |
      ⟨hrejected, state, hread⟩ | ⟨_, reason, hread⟩
    · rw [hread] at hstate
      obtain ⟨rfl, _⟩ := Prod.mk.inj (Outcome.stop.inj hstate)
      exact .empty caller sdp hfields
    · exact absurd (hread.symm.trans hstate) (by simp)
    · rw [hread] at hstate
      obtain ⟨rfl, _⟩ := Prod.mk.inj (Outcome.stop.inj hstate)
      exact .rejected caller sdp state hcall hrejected
    · exact absurd (hread.symm.trans hstate) (by simp)
  · simp at hstep

/-- A method of the controller that registers nothing. -/
theorem quietStep_post {controller : TransportController} {posted : List Task}
    {call : Option RemoteCall} (hquiet : Quiet before.network.controller controller posted)
    (hcall : call = before.network.call ∨
      call = none ∧ ∀ next ∈ before.network.call, next.remaining = []) :
    QuietStep before
      { before with network := { before.network.post controller posted with call := call } }
    where
  records := hquiet.records
  queue task htask := (List.mem_append.mp htask).imp_right (hquiet.posted task)
  kept _ htask := Or.inl (List.mem_append_left _ htask)
  call := hcall
  descriptions := rfl
  nextDescription := rfl
  remoteDesc := rfl

/-- What `create_offer` leaves behind when it returns. -/
theorem createOffer_step {caller : Caller} {options : RTCOfferAnswerOptions}
    {streamId : Bytes} {source : OfferSource}
    (hstep : connectionStep api before (.createOffer caller options streamId source) =
      some (.ok after)) :
    ∃ desc controller posted, localDesc api options streamId source = .ok desc ∧
      (before.certify source.certificate).controller.setLocalSdp caller desc
        source.certificate = .ok (controller, posted) ∧
      after =
        { before with network := (before.certify source.certificate).post controller posted } := by
  rw [connectionStep] at hstep
  split_ifs at hstep
  obtain ⟨⟨next, text⟩, hoffer, rfl⟩ := except_map_eq_ok_iff.mp (Option.some.inj hstep)
  obtain ⟨desc, hdesc, hrest⟩ := except_bind_eq_ok_iff.mp hoffer
  obtain ⟨network, hlocal, hresult⟩ := except_bind_eq_ok_iff.mp hrest
  obtain ⟨printed, _, hpair⟩ := except_bind_eq_ok_iff.mp hresult
  obtain ⟨rfl, rfl⟩ := Prod.mk.inj (Except.ok.inj hpair)
  obtain ⟨⟨controller, posted⟩, hcontroller, hnetwork⟩ := except_bind_eq_ok_iff.mp hlocal
  obtain rfl := Except.ok.inj hnetwork
  exact ⟨desc, controller, posted, hdesc, hcontroller, rfl⟩

theorem stepResult_createOffer {caller : Caller} {options : RTCOfferAnswerOptions}
    {streamId : Bytes} {source : OfferSource}
    (hstep : connectionStep api before (.createOffer caller options streamId source) =
      some (.ok after)) : QuietStep before after := by
  obtain ⟨desc, controller, posted, _, hcontroller, rfl⟩ := createOffer_step hstep
  have hquiet := setLocalSdp_quiet hcontroller
  cases hcertificate : source.certificate with
  | none =>
      rw [hcertificate] at hquiet
      exact quietStep_post hquiet (Or.inl rfl)
  | some certificate =>
      rw [hcertificate] at hquiet
      exact quietStep_post
        ⟨(setCertificeate_extends _ _).trans hquiet.records, hquiet.posted⟩ (Or.inl rfl)

/-- The inversion lemma for steps. -/
theorem connectionStep_result {event : ConnectionEvent}
    (hstep : connectionStep api before event = some (.ok after)) :
    StepResult api before event after := by
  cases event with
  | setRemoteSdp caller sdp => exact stepResult_setRemoteSdp hstep
  | createOffer caller options streamId source =>
      exact .quiet _ _ (stepResult_createOffer hstep)
  | sendPacket packet =>
      obtain rfl := Except.ok.inj (Option.some.inj hstep)
      refine .quiet _ _ (quietStep_post ⟨Extends.refl _, ?_⟩ (Or.inl rfl))
      intro task htask
      rw [List.mem_singleton.mp htask]
      trivial
  | advance =>
      obtain ⟨outcome, hadvance, hresult⟩ := Option.map_eq_some_iff.mp hstep
      obtain ⟨network, rfl, rfl⟩ := except_map_eq_ok_iff.mp hresult
      obtain ⟨call, hcall, ⟨hremaining, hnext⟩ |
        ⟨content, contents, hremaining, hwait, hnext⟩⟩ :=
        Network.advance_eq_some_iff.mp hadvance
      · obtain ⟨⟨controller, posted⟩, hcandidates, hnetwork⟩ :=
          except_bind_eq_ok_iff.mp hnext.symm
        obtain rfl := Except.ok.inj hnetwork
        refine .quiet _ _ (quietStep_post (setRemoteCandidates_quiet hcandidates)
          (Or.inr ⟨rfl, fun next hnext => ?_⟩))
        obtain rfl := Option.some.inj (hcall.symm.trans hnext)
        exact hremaining
      · obtain ⟨⟨controller, posted⟩, hcontent, hnetwork⟩ :=
          except_bind_eq_ok_iff.mp hnext.symm
        obtain rfl := Except.ok.inj hnetwork
        obtain ⟨_, hpair⟩ := setRemoteSdpContent_eq_ok_iff.mp hcontent
        by_cases hfirst : call.desc.firstContentName = some content.name
        · rw [if_pos hfirst] at hpair
          obtain ⟨rfl, rfl⟩ := Prod.mk.inj hpair
          refine .registered call content contents hcall hremaining hfirst fun hcaller => ?_
          by_contra hqueue
          exact hwait ⟨hcaller, hfirst, hqueue⟩
        · rw [if_neg hfirst] at hpair
          obtain ⟨rfl, rfl⟩ := Prod.mk.inj hpair
          have hpassed : StepResult api before .advance _ :=
            .passed call content contents hcall hremaining hfirst
          simpa [Network.post] using hpassed
  | serve task =>
      obtain ⟨outcome, hserve, hresult⟩ := Option.map_eq_some_iff.mp hstep
      obtain ⟨network, rfl, rfl⟩ := except_map_eq_ok_iff.mp hresult
      obtain ⟨tasks, hqueue, _, hnext⟩ := Network.serve_eq_some_iff.mp hserve
      obtain ⟨controller, hrun, hnetwork⟩ := except_bind_eq_ok_iff.mp hnext.symm
      obtain rfl := Except.ok.inj hnetwork
      refine .quiet _ _ ⟨runTask_extends hrun, fun other hother => Or.inl ?_,
        fun other hother => ?_, Or.inl rfl, rfl, rfl, rfl⟩
      · rw [hqueue]
        exact List.mem_cons_of_mem _ hother
      · rw [hqueue, List.mem_cons] at hother
        rcases hother with rfl | hlater
        · exact Or.inr hrun
        · exact Or.inl hlater

/-- A queued task is not lost: it stays queued or has just been run. -/
theorem queue_kept {event : ConnectionEvent}
    (hstep : connectionStep api before event = some (.ok after)) {task : Task}
    (htask : task ∈ before.network.queue) :
    task ∈ after.network.queue ∨
      before.network.controller.runTask before.network.descriptions task =
        .ok after.network.controller := by
  cases connectionStep_result hstep with
  | empty => exact Or.inl htask
  | rejected _ _ state =>
      rw [P2pPeerConnection.store_queue]
      exact Or.inl htask
  | accepted caller sdp =>
      rw [P2pPeerConnection.started_queue]
      exact Or.inl htask
  | registered => exact Or.inl (List.mem_append_left _ htask)
  | passed => exact Or.inl htask
  | quiet _ _ hquiet => exact hquiet.kept task htask

/-- The calls a transport has received stay on its record. -/
theorem records_kept {event : ConnectionEvent}
    (hstep : connectionStep api before event = some (.ok after)) {owner : TransportId}
    (howner : owner < before.network.controller.nextTransport) :
    (before.network.controller.objects owner).iceCalls <+:
        (after.network.controller.objects owner).iceCalls ∧
      (before.network.controller.objects owner).dtlsCalls <+:
        (after.network.controller.objects owner).dtlsCalls := by
  cases connectionStep_result hstep with
  | empty => exact ⟨List.prefix_rfl, List.prefix_rfl⟩
  | rejected _ _ state =>
      rw [P2pPeerConnection.store_controller]
      exact ⟨List.prefix_rfl, List.prefix_rfl⟩
  | accepted caller sdp =>
      rw [P2pPeerConnection.started_controller]
      exact ⟨List.prefix_rfl, List.prefix_rfl⟩
  | registered call content =>
      have hother : (before.network.controller.registerContent call.description call.desc
          content.name).1.objects owner = before.network.controller.objects owner :=
        Function.update_of_ne howner.ne _ _
      simp only [Network.post, hother]
      exact ⟨List.prefix_rfl, List.prefix_rfl⟩
  | passed => exact ⟨List.prefix_rfl, List.prefix_rfl⟩
  | quiet _ _ hquiet => exact ⟨hquiet.records.iceCalls owner, hquiet.records.dtlsCalls owner⟩

end Steps

/-! ## Every reachable state -/

/-- The ownership facts that no sequence of calls can break. -/
structure WellFormed (connection : P2pPeerConnection) : Prop where
  controller : connection.network.controller.WellFormed
  remoteDesc : ∀ id ∈ connection.remoteDesc, id < connection.network.nextDescription

theorem wellFormed_init : WellFormed {} where
  controller := wellFormed_empty none
  remoteDesc := by simp

theorem WellFormed.store {connection : P2pPeerConnection} (hwell : WellFormed connection)
    (state : ParseState) (desc : SessionDescription) :
    WellFormed (connection.store state desc) where
  controller := by
    rw [P2pPeerConnection.store_controller]
    exact hwell.controller
  remoteDesc := by simp

theorem wellFormed_step {api : TransportApi} {before after : P2pPeerConnection}
    {event : ConnectionEvent} (hwell : WellFormed before)
    (hstep : connectionStep api before event = some (.ok after)) : WellFormed after := by
  cases connectionStep_result hstep with
  | empty => exact hwell
  | rejected _ _ state => exact hwell.store state _
  | accepted caller sdp =>
      have hstored := hwell.store
        (acceptedState api before.audioPt before.videoPt sdp) (acceptedDescription api sdp)
      exact ⟨hstored.controller, hstored.remoteDesc⟩
  | registered call content =>
      exact ⟨hwell.controller.registerContent call.description call.desc, hwell.remoteDesc⟩
  | passed => exact ⟨hwell.controller, hwell.remoteDesc⟩
  | quiet _ _ hquiet =>
      refine ⟨hwell.controller.of_extends hquiet.records, ?_⟩
      rw [hquiet.remoteDesc, hquiet.nextDescription]
      exact hwell.remoteDesc

/-- The connection can get into this state from its construction. -/
def Reachable (api : TransportApi) (connection : P2pPeerConnection) : Prop :=
  ∃ events, run (connectionStep api) {} events = some (.ok connection)

/-- A text with one audio section that has all its attributes. -/
def audioSdp : Bytes :=
  ascii "v=0\na=group:BUNDLE audio\nm=audio 9 UDP/TLS/RTP/SAVPF 111\n" ++
    ascii "a=ice-ufrag:user\na=ice-pwd:secret\na=fingerprint:sha-256 AB:CD\n"

theorem Reachable.wellFormed {api : TransportApi} {connection : P2pPeerConnection}
    (hreachable : Reachable api connection) : WellFormed connection := by
  obtain ⟨events, hrun⟩ := hreachable
  exact run_induction (fun _ _ _ hwell hstep => wellFormed_step hwell hstep)
    wellFormed_init hrun

end PeerConnection.Connection
