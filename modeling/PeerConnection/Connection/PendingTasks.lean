import PeerConnection.Connection.Reachable

/-!
# The task that applies the remote description

The task posted by `transport_controller::set_remote_sdp` holds a pointer into
`remote_desc_` and two pointers into the transport just created.  The next call
of `set_remote_sdp` frees the description at once, and the transport when it
registers the name again, without waiting for the task.  This file proves that
the task finds what it was given over every run in which no call is made while
such a task is queued.
-/

namespace PeerConnection.Connection

open PeerConnection.Text
open PeerConnection.Sdp
open PeerConnection.Runs
open PeerConnection.Transport
open PeerConnection.Transport.TransportController

/-- The objects a task refers to are alive, and what it applies to a transport is
taken from the description for which that transport was created. -/
def TaskSound (connection : P2pPeerConnection) : Task → Prop
  | .applyRemote parameters ice dtls td =>
      connection.network.controller.transports.owns ice = true ∧
        connection.network.controller.transports.owns dtls = true ∧
        (∃ desc info, connection.network.descriptions td.description = some desc ∧
          desc.transportInfos[td.position]? = some info ∧
          parameters = info.description.iceParameters) ∧
        (connection.network.controller.objects ice).createdFrom = td.description ∧
        (connection.network.controller.objects dtls).createdFrom = td.description
  | _ => True

/-- The condition on a call of `set_remote_sdp` under which it leaves the queued
tasks alone: no task with captured pointers is waiting, and the call will not
register one name twice without waiting for its own task. -/
def KeepsPending (connection : P2pPeerConnection) : ConnectionEvent → Prop
  | .setRemoteSdp caller sdp =>
      (Accepted sdp ∨ Rejected sdp →
        ∀ task ∈ connection.network.queue, task.CapturesNothing) ∧
      (Accepted sdp → caller = .otherThread ∨ HasSection kAudio (sdpEntries sdp) ∨
        HasSection kVideo (sdpEntries sdp))
  | _ => True

instance (connection : P2pPeerConnection) : DecidablePred (KeepsPending connection)
  | .setRemoteSdp _ _ => inferInstanceAs (Decidable ((_ → _) ∧ (_ → _)))
  | .createOffer _ _ _ _ => .isTrue trivial
  | .sendPacket _ => .isTrue trivial
  | .advance => .isTrue trivial
  | .serve _ => .isTrue trivial

/-! ## The invariant -/

/-- A call in progress will not destroy a transport that a queued task refers
to: from another thread it waits for the queue, on the network thread it
registers one transport. -/
structure CallSound (connection : P2pPeerConnection) (call : RemoteCall) : Prop where
  alive : connection.network.descriptions call.description = some call.desc
  pending : call.caller = .otherThread ∨
    call.pendingNames.length ≤ 1 ∧
      (call.pendingNames ≠ [] → ∀ task ∈ connection.network.queue, task.CapturesNothing)

structure PendingSound (connection : P2pPeerConnection) : Prop where
  wellFormed : WellFormed connection
  queued : ∀ task ∈ connection.network.queue, TaskSound connection task
  call : ∀ call, connection.network.call = some call → CallSound connection call

theorem pendingSound_init : PendingSound {} where
  wellFormed := wellFormed_init
  queued := by simp
  call := by simp

theorem TaskSound.of_capturesNothing {connection : P2pPeerConnection} {task : Task}
    (htask : task.CapturesNothing) : TaskSound connection task := by
  cases task with
  | applyRemote => exact htask.elim
  | applyLocal | startGathering | addRemoteCandidate | sendRtpPacket => trivial

/-! ## Steps -/

theorem TaskSound.of_quiet {before after : P2pPeerConnection} (hquiet : QuietStep before after)
    {task : Task} (htask : TaskSound before task) : TaskSound after task := by
  cases task with
  | applyRemote parameters ice dtls td =>
      obtain ⟨hice, hdtls, hinfo, hiceFrom, hdtlsFrom⟩ := htask
      rw [← hquiet.records.transports] at hice hdtls
      rw [← hquiet.descriptions] at hinfo
      rw [← hquiet.records.createdFrom] at hiceFrom hdtlsFrom
      exact ⟨hice, hdtls, hinfo, hiceFrom, hdtlsFrom⟩
  | applyLocal | startGathering | addRemoteCandidate | sendRtpPacket => trivial

theorem PendingSound.quiet {before after : P2pPeerConnection} (hsound : PendingSound before)
    (hwell : WellFormed after) (hquiet : QuietStep before after) : PendingSound after where
  wellFormed := hwell
  queued task htask := by
    rcases hquiet.queue task htask with hold | hnew
    · exact (hsound.queued task hold).of_quiet hquiet
    · exact TaskSound.of_capturesNothing hnew
  call call hcall := by
    obtain ⟨halive, hpending⟩ := hsound.call call (hquiet.call_eq hcall)
    refine ⟨by rw [hquiet.descriptions]; exact halive, ?_⟩
    refine hpending.imp_right fun ⟨hlength, hfree⟩ => ⟨hlength, fun hne task htask => ?_⟩
    exact (hquiet.queue task htask).elim (hfree hne task) id

theorem CallSound.passed {connection : P2pPeerConnection} {call : RemoteCall}
    {content : ContentInfo} {contents : List ContentInfo} (hcall : CallSound connection call)
    (hremaining : call.remaining = content :: contents)
    (hfirst : call.desc.firstContentName ≠ some content.name) :
    CallSound connection { call with remaining := contents } where
  alive := hcall.alive
  pending := by
    rw [← RemoteCall.pendingNames_cons_of_other hremaining hfirst]
    exact hcall.pending

/-- When a transport is about to be registered, no queued task refers to one. -/
theorem CallSound.queue_free {connection : P2pPeerConnection} {call : RemoteCall}
    {content : ContentInfo} {contents : List ContentInfo} (hcall : CallSound connection call)
    (hremaining : call.remaining = content :: contents)
    (hfirst : call.desc.firstContentName = some content.name)
    (hqueue : call.caller = .otherThread → connection.network.queue = []) :
    ∀ task ∈ connection.network.queue, task.CapturesNothing := by
  rcases hcall.pending with hcaller | ⟨_, hfree⟩
  · rw [hqueue hcaller]
    simp
  · refine hfree ?_
    rw [RemoteCall.pendingNames_cons_of_first hremaining hfirst]
    simp

/-- The task for a transport just registered is sound. -/
theorem PendingSound.registered {before : P2pPeerConnection} (hsound : PendingSound before)
    {call : RemoteCall} {content : ContentInfo} {contents : List ContentInfo}
    (hcall : before.network.call = some call)
    (hremaining : call.remaining = content :: contents)
    (hfirst : call.desc.firstContentName = some content.name)
    (hqueue : call.caller = .otherThread → before.network.queue = [])
    {after : P2pPeerConnection} (hwell : WellFormed after)
    (hafter : after =
      { before with
        network :=
          { before.network.post
              (before.network.controller.registerContent call.description call.desc
                content.name).1
              (before.network.controller.registerContent call.description call.desc
                content.name).2 with
            call := some { call with remaining := contents } } }) :
    PendingSound after := by
  have hcallSound := hsound.call call hcall
  have hfree := hcallSound.queue_free hremaining hfirst hqueue
  subst hafter
  refine ⟨hwell, fun task htask => ?_, fun next hnext => ?_⟩
  · rcases List.mem_append.mp htask with hold | hnew
    · exact TaskSound.of_capturesNothing (hfree task hold)
    · obtain ⟨position, info, hinfo, _, rfl⟩ := mem_remoteTasks hnew
      have howner : (before.network.controller.registerContent call.description call.desc
          content.name).1.transports.owns before.network.controller.nextTransport = true :=
        (JsepTransportCollection.owns_iff _ _).mpr ⟨content.name, by
          rw [getTransportByName_registerContent _ _ hsound.wellFormed.controller.mapped,
            if_pos rfl]⟩
      have hcreated : ((before.network.controller.registerContent call.description call.desc
          content.name).1.objects before.network.controller.nextTransport).createdFrom =
          call.description := by
        simp [registerContent, insertSideMaps, createTransport]
      exact ⟨howner, howner, ⟨call.desc, info, hcallSound.alive, hinfo, rfl⟩, hcreated,
        hcreated⟩
  · obtain rfl := Option.some.inj hnext
    refine ⟨hcallSound.alive, hcallSound.pending.imp_right fun ⟨hlength, _⟩ => ?_⟩
    rw [RemoteCall.pendingNames_cons_of_first hremaining hfirst, List.length_cons] at hlength
    have hnone : ({ call with remaining := contents } : RemoteCall).pendingNames = [] :=
      List.length_eq_zero_iff.mp (by omega)
    exact ⟨by simp [hnone], fun hne => absurd hnone hne⟩

/-- The names an accepted text registers: one, if it has a section at all. -/
theorem remoteCall_pendingNames_length {api : TransportApi} {connection : P2pPeerConnection}
    {caller : Caller} {sdp : Bytes}
    (hsection : HasSection kAudio (sdpEntries sdp) ∨ HasSection kVideo (sdpEntries sdp)) :
    (connection.remoteCall api caller sdp).pendingNames.length ≤ 1 := by
  have hne := sectionTitles_ne hsection
  rw [RemoteCall.pendingNames, P2pPeerConnection.remoteCall, acceptedDescription_contents,
    acceptedDescription_firstContentName]
  simp [hne]

theorem PendingSound.accepted {api : TransportApi} {before : P2pPeerConnection}
    {caller : Caller} {sdp : Bytes} (haccepted : Accepted sdp)
    (hguard : KeepsPending before (.setRemoteSdp caller sdp))
    (hwell : WellFormed (before.started api caller sdp)) :
    PendingSound (before.started api caller sdp) := by
  obtain ⟨hfree, hsections⟩ := hguard
  have hnothing : ∀ task ∈ (before.started api caller sdp).network.queue,
      task.CapturesNothing := by
    rw [P2pPeerConnection.started_queue]
    exact hfree (Or.inl haccepted)
  refine ⟨hwell, fun task htask => TaskSound.of_capturesNothing (hnothing task htask),
    fun call hcall => ?_⟩
  obtain rfl := Option.some.inj hcall
  refine ⟨P2pPeerConnection.started_descriptions_self, ?_⟩
  exact (hsections haccepted).imp_right fun hsection =>
    ⟨remoteCall_pendingNames_length hsection, fun _ => hnothing⟩

theorem PendingSound.rejected {before : P2pPeerConnection} {caller : Caller} {sdp : Bytes}
    (hrejected : Rejected sdp) (hguard : KeepsPending before (.setRemoteSdp caller sdp))
    (hnone : before.network.call = none) {state : ParseState} {desc : SessionDescription}
    (hwell : WellFormed (before.store state desc)) :
    PendingSound (before.store state desc) where
  wellFormed := hwell
  queued task htask := by
    rw [P2pPeerConnection.store_queue] at htask
    exact TaskSound.of_capturesNothing (hguard.1 (Or.inr hrejected) task htask)
  call call hcall := by
    rw [P2pPeerConnection.store_call, hnone] at hcall
    exact absurd hcall (by simp)

/-- The step lemma. -/
theorem pendingSound_step {api : TransportApi} {before after : P2pPeerConnection}
    {event : ConnectionEvent} (hsound : PendingSound before)
    (hguard : KeepsPending before event)
    (hstep : connectionStep api before event = some (.ok after)) : PendingSound after := by
  have hwell := wellFormed_step hsound.wellFormed hstep
  cases connectionStep_result hstep with
  | empty => exact hsound
  | rejected _ _ _ hcall hrejected => exact .rejected hrejected hguard hcall hwell
  | accepted _ _ _ haccepted => exact .accepted haccepted hguard hwell
  | registered _ _ _ hcall hremaining hfirst hqueue =>
      exact hsound.registered hcall hremaining hfirst hqueue hwell rfl
  | passed call content contents hcall hremaining hfirst =>
      refine ⟨hwell, hsound.queued, fun next hnext => ?_⟩
      obtain rfl := Option.some.inj hnext
      obtain ⟨halive, hpending⟩ := (hsound.call call hcall).passed hremaining hfirst
      exact ⟨halive, hpending⟩
  | quiet _ _ hquiet => exact hsound.quiet hwell hquiet

/-- Over every run whose calls find no task with captured pointers in the queue,
the task that applies a remote description runs on live objects, with parameters
and a fingerprint of the description its transport was created for. -/
theorem servedTask_sound {api : TransportApi} {events : List ConnectionEvent}
    {connection : P2pPeerConnection}
    (hguarded : Guarded (connectionStep api) KeepsPending {} events)
    (hrun : run (connectionStep api) {} events = some (.ok connection))
    {task : Task} {outcome : Except Fault P2pPeerConnection}
    (hserve : connectionStep api connection (.serve task) = some outcome) :
    TaskSound connection task := by
  have hsound : PendingSound connection :=
    guarded_run_induction (fun _ => True)
      (fun _ _ _ hsound hguard hstep => pendingSound_step hsound hguard hstep)
      (fun _ _ _ _ _ _ => trivial) pendingSound_init hguarded hrun
  obtain ⟨served, hserved, _⟩ := Option.map_eq_some_iff.mp hserve
  obtain ⟨tasks, hqueue, _, _⟩ := Network.serve_eq_some_iff.mp hserved
  exact hsound.queued task (by simp [hqueue])

/-- The task for the first audio description. -/
def audioTask : Task :=
  .applyRemote { ufrag := ascii "user", pwd := ascii "secret" } 0 0
    { description := 0, position := 0 }

/-- The first description, up to where its task is queued. -/
def firstNegotiation : List ConnectionEvent :=
  [.setRemoteSdp .otherThread audioSdp, .advance, .advance, .advance]

theorem servedTask_sound_first :
    ∃ connection outcome,
      run (connectionStep rfc4572Api) {} firstNegotiation = some (.ok connection) ∧
      connectionStep rfc4572Api connection (.serve audioTask) = some outcome ∧
      TaskSound connection audioTask := by
  have hreaches : reaches
      (fun connection => (connectionStep rfc4572Api connection (.serve audioTask)).isSome)
      (run (connectionStep rfc4572Api) {} firstNegotiation) = true := by
    decide +kernel
  obtain ⟨connection, hrun, hserve⟩ := exists_of_reaches _ hreaches
  obtain ⟨outcome, houtcome⟩ := Option.isSome_iff_exists.mp hserve
  exact ⟨connection, outcome, hrun, houtcome,
    servedTask_sound (by decide +kernel) hrun houtcome⟩

/-- A second call before the task runs frees the description the task points
into. -/
theorem servedTask_dangles_after_second_call :
    ∃ events connection outcome,
      (∀ event ∈ events, event = .advance ∨
        ∃ caller sdp, event = .setRemoteSdp caller sdp) ∧
      run (connectionStep rfc4572Api) {} events = some (.ok connection) ∧
      connectionStep rfc4572Api connection (.serve audioTask) = some outcome ∧
      ¬ TaskSound connection audioTask := by
  have hreaches : reaches
      (fun connection =>
        (connectionStep rfc4572Api connection (.serve audioTask)).isSome &&
          (connection.network.descriptions 0).isNone)
      (run (connectionStep rfc4572Api) {}
        (firstNegotiation ++ [.setRemoteSdp .otherThread audioSdp])) = true := by
    decide +kernel
  obtain ⟨connection, hrun, hstale⟩ := exists_of_reaches _ hreaches
  obtain ⟨hserve, hfreed⟩ := Bool.and_eq_true_iff.mp hstale
  obtain ⟨outcome, houtcome⟩ := Option.isSome_iff_exists.mp hserve
  refine ⟨_, connection, outcome, ?_, hrun, houtcome, ?_⟩
  · simp [firstNegotiation]
  · rintro ⟨_, _, ⟨desc, info, hdesc, _⟩, _⟩
    rw [show connection.network.descriptions 0 = some desc from hdesc] at hfreed
    simp at hfreed

end PeerConnection.Connection
