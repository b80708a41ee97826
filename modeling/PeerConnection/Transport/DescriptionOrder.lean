import PeerConnection.Transport.SideMaps

/-!
# The order of the two descriptions

`set_local_sdp` configures and starts what it finds in `ices_`, and only
`set_remote_sdp` puts something there.  Called first, the local description
finds nothing: its task meets a null pointer or, without a transport info to
apply, no transport is left that would ever start gathering.
-/

namespace PeerConnection.Transport

open PeerConnection.Text
open PeerConnection.Sdp
open PeerConnection.Runs
open TransportController

/-! ## The configuration of a transport -/

structure Configuration where
  localParameters : Option IceParameters
  remoteParameters : Option IceParameters
  localCertificate : Option (Option Certificate)
  remoteFingerprint : Option SslFingerprint
  gatheringStarted : Bool
  deriving DecidableEq

def IceCall.localParameters : IceCall → Option IceParameters
  | .setIceParameters parameters => some parameters
  | _ => none

def IceCall.remoteParameters : IceCall → Option IceParameters
  | .setRemoteIceParameters parameters => some parameters
  | _ => none

def DtlsCall.localCertificate : DtlsCall → Option (Option Certificate)
  | .setLocalCertificate certificate => some certificate
  | _ => none

def DtlsCall.remoteFingerprint : DtlsCall → Option SslFingerprint
  | .setRemoteFingerprint fingerprint => some fingerprint
  | _ => none

/-- What the calls on a transport leave in force: the last value of each kind. -/
def JsepTransport.configuration (transport : JsepTransport) : Configuration where
  localParameters := (transport.iceCalls.filterMap IceCall.localParameters).getLast?
  remoteParameters := (transport.iceCalls.filterMap IceCall.remoteParameters).getLast?
  localCertificate := (transport.dtlsCalls.filterMap DtlsCall.localCertificate).getLast?
  remoteFingerprint := (transport.dtlsCalls.filterMap DtlsCall.remoteFingerprint).getLast?
  gatheringStarted := .maybeStartGathering ∈ transport.iceCalls

def TransportController.configuration (controller : TransportController) (name : Bytes) :
    Option Configuration :=
  (controller.transports.getTransportByName name).map fun owner =>
    (controller.objects owner).configuration

/-- Every run that makes the two calls in one order or the other, with the
network thread serving its queue at any point, ends with the same configuration
of the registered transport and gathering started; none faults. -/
def OrderIndependent (certificate : Option Certificate) (name : Bytes)
    (localCall remoteCall : ControllerEvent) : Prop :=
  ∃ configuration : Configuration, configuration.gatheringStarted = true ∧
    ∀ calls ∈ [[localCall, remoteCall], [remoteCall, localCall]],
      ∀ events outcome, events.filter (·.isCall) <+: calls →
        run controllerStep (Network.fresh certificate) events = some outcome →
        Ends (fun final : Network => events.filter (·.isCall) = calls → final.Idle →
          final.controller.configuration name = some configuration) (fun _ => False) outcome

/-! ## Gathering -/

/-- No transport has been told to gather candidates. -/
def NotGathering (controller : TransportController) : Prop :=
  ∀ owner, .maybeStartGathering ∉ (controller.objects owner).iceCalls

theorem NotGathering.configuration {controller : TransportController}
    (hnot : NotGathering controller) {name : Bytes} {configuration : Configuration}
    (hconfiguration : controller.configuration name = some configuration) :
    configuration.gatheringStarted = false := by
  obtain ⟨owner, _, rfl⟩ := Option.map_eq_some_iff.mp hconfiguration
  exact decide_eq_false (hnot owner)

theorem NotGathering.recordIceCall {controller : TransportController}
    (hnot : NotGathering controller) {call : IceCall} (hcall : call ≠ .maybeStartGathering)
    (owner : TransportId) : NotGathering (controller.recordIceCall owner call) := by
  intro other
  by_cases hother : other = owner
  · subst hother
    simpa [TransportController.recordIceCall, hcall.symm] using hnot other
  · simpa [TransportController.recordIceCall, hother] using hnot other

theorem NotGathering.iceCall {controller next : TransportController}
    (hnot : NotGathering controller) {ice : Option TransportId} {call : IceCall}
    (hkind : call ≠ .maybeStartGathering) (hcall : controller.iceCall ice call = .ok next) :
    NotGathering next := by
  obtain ⟨owner, _, _, rfl⟩ := iceCall_eq_ok_iff.mp hcall
  exact hnot.recordIceCall hkind owner

theorem NotGathering.dtlsCall {controller next : TransportController}
    (hnot : NotGathering controller) {dtls : Option TransportId} {call : DtlsCall}
    (hcall : controller.dtlsCall dtls call = .ok next) : NotGathering next := by
  obtain ⟨owner, _, _, rfl⟩ := dtlsCall_eq_ok_iff.mp hcall
  intro other
  by_cases hother : other = owner
  · subst hother
    simpa [recordDtlsCall] using hnot other
  · simpa [recordDtlsCall, hother] using hnot other

theorem NotGathering.iceCallEach {call : IceCall} (hkind : call ≠ .maybeStartGathering)
    {controller next : TransportController} (hnot : NotGathering controller)
    {entries : List (Bytes × Option TransportId)}
    (hcall : iceCallEach call controller entries = .ok next) : NotGathering next := by
  induction entries generalizing controller with
  | nil =>
      rw [TransportController.iceCallEach, Except.ok.injEq] at hcall
      exact hcall ▸ hnot
  | cons entry entries ih =>
      obtain ⟨middle, hfirst, hrest⟩ := except_bind_eq_ok_iff.mp hcall
      exact ih (hnot.iceCall hkind hfirst) hrest

theorem iceCallAll_of_no_entry {controller : TransportController}
    (hices : controller.ices.toList = []) (call : IceCall) :
    controller.iceCallAll call = .ok controller := by
  rw [TransportController.iceCallAll, hices, TransportController.iceCallEach]

/-- Only the gathering task starts gathering, and it finds nothing in empty
maps. -/
theorem NotGathering.runTask {descriptions : DescriptionId → Option SessionDescription}
    {controller next : TransportController} (hnot : NotGathering controller) {task : Task}
    (hgather : task = .startGathering → controller.ices.toList = [])
    (hrun : controller.runTask descriptions task = .ok next) : NotGathering next := by
  cases task with
  | applyRemote parameters ice dtls td =>
      obtain ⟨told, print, hice, hdtls⟩ := runTask_applyRemote_ok hrun
      exact (hnot.iceCall (by simp) hice).dtlsCall hdtls
  | applyLocal mid parameters certificate =>
      obtain ⟨middle, hice, hdtls⟩ := except_bind_eq_ok_iff.mp hrun
      exact (hnot.iceCall (by simp) hice).dtlsCall hdtls
  | startGathering =>
      rw [TransportController.runTask, iceCallAll_of_no_entry (hgather rfl),
        Except.ok.injEq] at hrun
      exact hrun ▸ hnot
  | addRemoteCandidate candidate => exact hnot.iceCallEach (by simp) hrun
  | sendRtpPacket transportName packet =>
      rw [TransportController.runTask] at hrun
      split at hrun
      · exact Except.ok.inj hrun ▸ hnot
      · rename_i owner howner
        obtain rfl := Except.ok.inj hrun
        intro other
        by_cases hother : other = owner
        · subst hother
          simpa [recordSentRtpPacket] using hnot other
        · simpa [recordSentRtpPacket, hother] using hnot other

theorem NotGathering.registerContent {controller : TransportController}
    (hnot : NotGathering controller) (description : DescriptionId)
    (desc : SessionDescription) (mid : Bytes) :
    NotGathering (controller.registerContent description desc mid).1 := by
  intro other
  by_cases hother : other = controller.nextTransport
  · simp [TransportController.registerContent, insertSideMaps, createTransport, hother]
  · simpa [TransportController.registerContent, insertSideMaps, createTransport, hother]
      using hnot other

theorem NotGathering.setRemoteCandidate {controller next : TransportController}
    (hnot : NotGathering controller) {caller : Caller} {candidate : Candidate}
    {posted : List Task}
    (hcall : controller.setRemoteCandidate caller candidate = .ok (next, posted)) :
    NotGathering next ∧ .startGathering ∉ posted ∧ posted.length ≤ 1 := by
  cases caller with
  | networkThread =>
      obtain ⟨middle, hmiddle, hresult⟩ := except_bind_eq_ok_iff.mp hcall
      obtain ⟨rfl, rfl⟩ := Prod.mk.inj (Except.ok.inj hresult)
      exact ⟨hnot.iceCallEach (by simp) hmiddle, by simp, by simp⟩
  | otherThread =>
      obtain ⟨rfl, rfl⟩ := Prod.mk.inj (Except.ok.inj hcall)
      exact ⟨hnot, by simp, by simp⟩

theorem NotGathering.setRemoteCandidates {caller : Caller}
    {controller next : TransportController} (hnot : NotGathering controller)
    {candidates : List Candidate} {posted : List Task}
    (hcall : TransportController.setRemoteCandidates caller controller candidates =
      .ok (next, posted)) :
    NotGathering next ∧ .startGathering ∉ posted ∧ posted.length ≤ candidates.length := by
  induction candidates generalizing controller posted with
  | nil =>
      obtain ⟨rfl, rfl⟩ := Prod.mk.inj (Except.ok.inj hcall)
      exact ⟨hnot, by simp, by simp⟩
  | cons candidate candidates ih =>
      obtain ⟨⟨middle, first⟩, hfirst, htail⟩ := except_bind_eq_ok_iff.mp hcall
      obtain ⟨⟨last, rest⟩, hrest, hresult⟩ := except_bind_eq_ok_iff.mp htail
      obtain ⟨rfl, rfl⟩ := Prod.mk.inj (Except.ok.inj hresult)
      obtain ⟨hmiddle, hfirstPosted, hfirstLength⟩ := hnot.setRemoteCandidate hfirst
      obtain ⟨hlast, hrestPosted, hrestLength⟩ := ih hmiddle hrest
      refine ⟨hlast, by simp [hfirstPosted, hrestPosted], ?_⟩
      rw [List.length_append, List.length_cons]
      omega

theorem NotGathering.setRemoteSdpContent {controller next : TransportController}
    (hnot : NotGathering controller) {description : DescriptionId}
    {desc : SessionDescription} {content : ContentInfo} {posted : List Task}
    (hcall : controller.setRemoteSdpContent description desc content = .ok (next, posted)) :
    NotGathering next ∧ .startGathering ∉ posted ∧ posted.length ≤ 1 := by
  obtain ⟨_, hresult⟩ := setRemoteSdpContent_eq_ok_iff.mp hcall
  split_ifs at hresult
  · obtain ⟨rfl, rfl⟩ := Prod.mk.inj hresult
    refine ⟨hnot.registerContent description desc content.name, fun hmem => ?_,
      remoteTasks_length _ _ _ _⟩
    obtain ⟨_, _, _, _, htask⟩ := mem_remoteTasks hmem
    exact absurd htask (by simp)
  · obtain ⟨rfl, rfl⟩ := Prod.mk.inj hresult
    exact ⟨hnot, by simp, by simp⟩

/-! ## Draining -/

/-- A bound on the steps the two threads can still make without a new call. -/
def Network.work (network : Network) : ℕ :=
  network.queue.length +
    network.call.elim 0 fun call =>
      2 * call.remaining.length + call.candidates.length + 1

/-- Nothing will tell a transport to gather: no transport has been told, and the
task that would is neither queued nor, on empty maps, of any effect. -/
structure NeverGathers (network : Network) : Prop where
  notGathering : NotGathering network.controller
  queued : .startGathering ∈ network.queue →
    network.call = none ∧ network.controller.ices.toList = []

theorem neverGathers_progress {network next : Network} (hnever : NeverGathers network)
    {event : ControllerEvent} (hevent : event.isCall = false)
    (hstep : controllerStep network event = some (.ok next)) :
    NeverGathers next ∧ next.work < network.work := by
  cases event with
  | setRemoteSdp | setLocalSdp | setRemoteCandidate => simp [ControllerEvent.isCall] at hevent
  | advance =>
      obtain ⟨call, hcall, hcases⟩ := Network.advance_eq_some_iff.mp hstep
      have hqueue : .startGathering ∉ network.queue := by
        intro hmem
        exact absurd (hcall.symm.trans (hnever.queued hmem).1) (by simp)
      obtain ⟨hremaining, hnext⟩ | ⟨content, contents, hremaining, _, hnext⟩ := hcases
      · obtain ⟨⟨controller, posted⟩, hcandidates, hresult⟩ :=
          except_bind_eq_ok_iff.mp hnext.symm
        obtain rfl := Except.ok.inj hresult
        obtain ⟨hcontroller, hposted, hlength⟩ :=
          hnever.notGathering.setRemoteCandidates hcandidates
        refine ⟨⟨hcontroller, fun hmem => ?_⟩, ?_⟩
        · exact absurd (List.mem_append.mp hmem) (by simp [hqueue, hposted])
        · simp [Network.work, Network.post, hcall]
          omega
      · obtain ⟨⟨controller, posted⟩, hcontent, hresult⟩ :=
          except_bind_eq_ok_iff.mp hnext.symm
        obtain rfl := Except.ok.inj hresult
        obtain ⟨hcontroller, hposted, hlength⟩ :=
          hnever.notGathering.setRemoteSdpContent hcontent
        refine ⟨⟨hcontroller, fun hmem => ?_⟩, ?_⟩
        · exact absurd (List.mem_append.mp hmem) (by simp [hqueue, hposted])
        · simp [Network.work, Network.post, hcall, hremaining]
          omega
  | serve task =>
      obtain ⟨tasks, hqueue, _, hnext⟩ := Network.serve_eq_some_iff.mp hstep
      obtain ⟨controller, hrun, hresult⟩ := except_bind_eq_ok_iff.mp hnext.symm
      obtain rfl := Except.ok.inj hresult
      refine ⟨⟨?_, fun hmem => ?_⟩, by simp [Network.work, hqueue]⟩
      · refine hnever.notGathering.runTask (fun htask => ?_) hrun
        exact (hnever.queued (by simp [hqueue, htask])).2
      · obtain ⟨hcall, hices⟩ := hnever.queued (by simp [hqueue, hmem])
        exact ⟨hcall, by rw [(runTask_extends hrun).ices]; exact hices⟩

/-- One of the two threads can go on as long as there is something to do. -/
theorem exists_progress {network : Network} (hidle : ¬ network.Idle) :
    ∃ event outcome, event.isCall = false ∧ controllerStep network event = some outcome := by
  cases hcall : network.call with
  | none =>
      cases hqueue : network.queue with
      | nil => exact absurd ⟨hqueue, hcall⟩ hidle
      | cons task tasks =>
          exact ⟨.serve task, _, rfl, Network.serve_eq_some_iff.mpr
            ⟨tasks, hqueue, by simp [Network.NetworkThreadBusy, hcall], rfl⟩⟩
  | some call =>
      cases hremaining : call.remaining with
      | nil =>
          exact ⟨.advance, _, rfl, Network.advance_eq_some_iff.mpr
            ⟨call, hcall, Or.inl ⟨hremaining, rfl⟩⟩⟩
      | cons content contents =>
          by_cases hwait : network.MustWait call content
          · obtain ⟨hcaller, _, hqueue⟩ := hwait
            obtain ⟨task, tasks, hqueue⟩ := List.exists_cons_of_ne_nil hqueue
            exact ⟨.serve task, _, rfl, Network.serve_eq_some_iff.mpr
              ⟨tasks, hqueue, by simp [Network.NetworkThreadBusy, hcall, hcaller], rfl⟩⟩
          · exact ⟨.advance, _, rfl, Network.advance_eq_some_iff.mpr
              ⟨call, hcall, Or.inr ⟨content, contents, hremaining, hwait, rfl⟩⟩⟩

/-- From a state that never gathers the threads finish without gathering, unless
they fault. -/
theorem NeverGathers.exists_run {network : Network} (hnever : NeverGathers network) :
    ∃ events outcome, (∀ event ∈ events, event.isCall = false) ∧
      run controllerStep network events = some outcome ∧
      Ends (fun final => NeverGathers final ∧ final.Idle) (fun _ => True) outcome := by
  refine exists_run_to_rest Network.work (fun state hstate hidle => ?_) network hnever
  obtain ⟨event, outcome, hevent, hstep⟩ := exists_progress hidle
  refine ⟨event, outcome, hevent, hstep, fun next hnext => ?_⟩
  exact neverGathers_progress hstate hevent (hnext ▸ hstep)

/-! ## Local first -/

/-- On empty maps `set_local_sdp` only posts tasks. -/
theorem neverGathers_setLocalSdp (certificate : Option Certificate) (caller : Caller)
    (desc : SessionDescription) (localCertificate : Option Certificate) :
    ∃ next, controllerStep (Network.fresh certificate)
        (.setLocalSdp caller desc localCertificate) = some (.ok next) ∧
      NeverGathers next := by
  have hices : (Network.fresh certificate).controller.ices.toList = [] := rfl
  obtain ⟨posted, hposted⟩ : ∃ posted,
      (Network.fresh certificate).controller.setLocalSdp caller desc localCertificate =
        .ok ((Network.fresh certificate).controller, posted) := by
    cases caller with
    | networkThread =>
        refine ⟨localTasks desc localCertificate, ?_⟩
        rw [setLocalSdp, iceCallAll_of_no_entry hices]
        rfl
    | otherThread => exact ⟨_, rfl⟩
  refine ⟨(Network.fresh certificate).post (Network.fresh certificate).controller posted,
    ?_, ?_⟩
  · rw [controllerStep, if_neg (by simp [Network.fresh]), Network.setLocalSdp, hposted]
    rfl
  · exact ⟨fun owner => by simp [Network.post, Network.fresh], fun _ => ⟨rfl, hices⟩⟩

theorem neverGathers_setRemoteSdp {network : Network} (hnever : NeverGathers network)
    (hidle : network.Idle) (caller : Caller) (desc : SessionDescription) :
    ∃ next, controllerStep network (.setRemoteSdp caller desc) = some (.ok next) ∧
      NeverGathers next := by
  refine ⟨_, if_neg (by simp [hidle.2]), hnever.notGathering, fun hmem => ?_⟩
  exact absurd (hidle.1 ▸ hmem : Task.startGathering ∈ []) (by simp)

/-- Whatever the two descriptions are, their order matters: with the local one
first there is a run that faults or ends without gathering. -/
theorem not_orderIndependent (certificate localCertificate : Option Certificate)
    (name : Bytes) (localCaller remoteCaller : Caller)
    (localDesc remoteDesc : SessionDescription) :
    ¬ OrderIndependent certificate name
      (.setLocalSdp localCaller localDesc localCertificate)
      (.setRemoteSdp remoteCaller remoteDesc) := by
  rintro ⟨configuration, hstarted, hruns⟩
  have hlocalFirst := hruns _ List.mem_cons_self
  obtain ⟨first, hfirst, hneverFirst⟩ :=
    neverGathers_setLocalSdp certificate localCaller localDesc localCertificate
  obtain ⟨events, outcome, hevents, hrun, hends⟩ := hneverFirst.exists_run
  have hnoCall : events.filter (·.isCall) = [] := by
    simpa [List.filter_eq_nil_iff] using hevents
  rw [← run_cons_of_ok hfirst] at hrun
  cases outcome with
  | error reason =>
      exact hlocalFirst _ _ (by simp [List.filter_cons, hnoCall]) hrun
  | ok second =>
      obtain ⟨hneverSecond, hidle⟩ := hends
      obtain ⟨third, hthird, hneverThird⟩ :=
        neverGathers_setRemoteSdp hneverSecond hidle remoteCaller remoteDesc
      obtain ⟨later, final, hlater, hrunLater, hendsLater⟩ := hneverThird.exists_run
      have hnoLaterCall : later.filter (·.isCall) = [] := by
        simpa [List.filter_eq_nil_iff] using hlater
      rw [← run_cons_of_ok hthird, ← run_append hrun] at hrunLater
      have hend := hlocalFirst _ _
        (by simp [List.filter_cons, hnoCall, hnoLaterCall]) hrunLater
      cases final with
      | error reason => exact hend
      | ok last =>
          obtain ⟨hneverLast, hidleLast⟩ := hendsLater
          have hconfiguration := hend
            (by simp [List.filter_cons, hnoCall, hnoLaterCall]) hidleLast
          have hnot := hneverLast.notGathering.configuration hconfiguration
          exact absurd (hstarted.symm.trans hnot) (by simp)

/-- The local section first: its task meets the null pointer that `operator[]`
has just made. -/
theorem localFirst_meets_null_ice :
    ¬ OrderIndependent none (ascii "audio")
      (.setLocalSdp .otherThread sampleSection none)
      (.setRemoteSdp .otherThread sampleSection) := by
  rintro ⟨configuration, _, hruns⟩
  have hrun : run controllerStep (Network.fresh none)
      [.setLocalSdp .otherThread sampleSection none,
        .serve (.applyLocal (ascii "audio") sampleParameters none)] =
      some (.error (.null .iceTransport)) := by
    rfl
  exact hruns _ List.mem_cons_self _ _ (by simp [List.filter_cons]) hrun

end PeerConnection.Transport
