import PeerConnection.Srtp.Writability

/-!
# Signals of the writable state with DTLS

`DtlsSrtpTransport` signals its writable state through `MaybeUpdateWritableState` alone,
so its cache is the last signal.  What changes without a change of the keys is not
signalled: its handler of the writable signals returns when the transport is active.
-/

namespace PeerConnection.Srtp

open PeerConnection.Runs

namespace DtlsSrtpTransport

variable {T : Type*} [DecidableEq T] (api : SrtpApi)

/-- Calls, DTLS states and writable events in any order. -/
def worldStep : System (World (DtlsSrtpTransport T) T)
    (DtlsInputs T × WorldEvent (DtlsSrtpEvent T) T) SrtpAbort
  | world, (inputs, .writableChanged packetTransport now) =>
      let writable := Function.update world.writable packetTransport now
      let connections := world.transport.connections packetTransport
      let seen := { inputs with writable := writable }
      some <| .ok
        { transport := (onWritableState api seen)^[connections] world.transport
          writable := writable }
  | world, (inputs, .call event) =>
      let seen := { inputs with writable := world.writable }
      some <| (world.transport.handle api seen event).map fun transport =>
        { world with transport := transport }

/-! ## When the last signal stays right -/

/-- An event that leaves the keys of an active transport alone does not change whether
its packet transports can be written to. -/
def SignalsCall (writable : T → Bool) (transport : DtlsSrtpTransport T) :
    DtlsSrtpEvent T → Prop
  | .setDtlsTransports rtpDtlsTransport rtcpDtlsTransport =>
      rtpDtlsTransport = transport.rtpDtlsTransport →
        transport.activeResetSrtpParams = false →
        rtcpDtlsTransport = none ∨ rtcpDtlsTransport = transport.rtcpDtlsTransport →
        transport.SignalsRebinding writable
          { transport.toRtpTransport with
            rtpPacketTransport := rtpDtlsTransport
            rtcpPacketTransport := rtcpDtlsTransport }
  | .setRtcpMuxEnabled enable =>
      transport.SignalsRebinding writable
        { transport.toRtpTransport with rtcpMuxEnabled := enable }
  | _ => True

def SignalsEvent (world : World (DtlsSrtpTransport T) T) :
    DtlsInputs T × WorldEvent (DtlsSrtpEvent T) T → Prop
  | (_, .writableChanged packetTransport now) =>
      world.transport.isSrtpActive = true →
        world.transport.bothWritable (Function.update world.writable packetTransport now) =
          world.transport.bothWritable world.writable
  | (_, .call event) => world.transport.SignalsCall world.writable event

/-! ## Without a signal -/

/-- Neither the keys nor the signals nor the cache are touched. -/
structure Silent (before after : SrtpTransport T) : Prop where
  sessions : after.sessions = before.sessions
  writable : after.writable = before.writable
  last : lastWritableState after.trace = lastWritableState before.trace

omit [DecidableEq T] in
theorem Silent.trans {first second third : SrtpTransport T} (hfirst : Silent first second)
    (hsecond : Silent second third) : Silent first third :=
  ⟨hsecond.sessions.trans hfirst.sessions, hsecond.writable.trans hfirst.writable,
    hsecond.last.trans hfirst.last⟩

omit [DecidableEq T] in
theorem Silent.cached {before after : SrtpTransport T} (hsilent : Silent before after)
    (hcached : before.Cached) : after.Cached := by
  rw [SrtpTransport.Cached, hsilent.last, hsilent.writable]
  exact hcached

omit [DecidableEq T] in
theorem silent_of_binding {transport : SrtpTransport T} {assigned binding : RtpTransport T}
    (hbinding : RtpTransport.SameBinding assigned binding)
    (hassigned : lastWritableState assigned.trace = lastWritableState transport.trace) :
    Silent transport { transport with toRtpTransport := binding } :=
  ⟨rfl, rfl, (lastWritableState_of_binding hbinding).trans hassigned⟩

/-- The subscriptions show in the trace only. -/
theorem resubscribe_eq (transport : DtlsSrtpTransport T) (old new : Option T) :
    ∃ extra, (∀ writable, .writableState writable ∉ extra) ∧
      transport.resubscribe old new =
        { transport with trace := transport.trace ++ extra } := by
  unfold resubscribe
  split
  · exact ⟨[], by simp, by simp⟩
  · exact ⟨_, by simp, rfl⟩

theorem silent_bindRtcp (writable : T → Bool) (transport : DtlsSrtpTransport T)
    (rtcpDtlsTransport : Option T) :
    Silent transport.toSrtpTransport
      (transport.bindRtcp writable rtcpDtlsTransport).toSrtpTransport := by
  obtain ⟨extra, hextra, heq⟩ :=
    transport.resubscribe_eq transport.rtcpDtlsTransport rtcpDtlsTransport
  simp only [bindRtcp, heq]
  exact silent_of_binding (RtpTransport.setRtcpPacketTransport_same writable _ _)
    (lastWritableState_append transport.trace extra hextra)

theorem silent_bindRtp (writable : T → Bool) (transport : DtlsSrtpTransport T)
    (rtpDtlsTransport : Option T) :
    Silent transport.toSrtpTransport
      (transport.bindRtp writable rtpDtlsTransport).toSrtpTransport := by
  obtain ⟨extra, hextra, heq⟩ :=
    transport.resubscribe_eq transport.rtpDtlsTransport rtpDtlsTransport
  simp only [bindRtp, heq]
  exact silent_of_binding (RtpTransport.setRtpPacketTransport_same writable _ _)
    (lastWritableState_append transport.trace extra hextra)

theorem bothWritable_bind (writable : T → Bool) (transport : DtlsSrtpTransport T)
    (rtpDtlsTransport rtcpDtlsTransport : Option T) :
    ((transport.bindRtcp writable rtcpDtlsTransport).bindRtp writable
        rtpDtlsTransport).bothWritable writable =
      RtpTransport.bothWritable writable
        { transport.toRtpTransport with
          rtpPacketTransport := rtpDtlsTransport
          rtcpPacketTransport := rtcpDtlsTransport } := by
  obtain ⟨extra, -, heq⟩ :=
    transport.resubscribe_eq transport.rtcpDtlsTransport rtcpDtlsTransport
  obtain ⟨extra', -, heq'⟩ := (transport.bindRtcp writable rtcpDtlsTransport).resubscribe_eq
    (transport.bindRtcp writable rtcpDtlsTransport).rtpDtlsTransport rtpDtlsTransport
  have hrtcp := RtpTransport.setRtcpPacketTransport_same writable
    { transport.toRtpTransport with trace := transport.trace ++ extra } rtcpDtlsTransport
  have hmux : (transport.bindRtcp writable rtcpDtlsTransport).rtcpMuxEnabled =
      transport.rtcpMuxEnabled := by
    simp only [bindRtcp, heq]
    exact hrtcp.rtcpMuxEnabled
  have hslot : (transport.bindRtcp writable rtcpDtlsTransport).rtcpPacketTransport =
      rtcpDtlsTransport := by
    simp only [bindRtcp, heq]
    exact hrtcp.rtcpPacketTransport
  rw [bindRtp, heq']
  have hrtp := RtpTransport.setRtpPacketTransport_same writable
    { (transport.bindRtcp writable rtcpDtlsTransport).toRtpTransport with
      trace := (transport.bindRtcp writable rtcpDtlsTransport).trace ++ extra' }
    rtpDtlsTransport
  refine (hrtp.bothWritable writable).trans ?_
  simp only [RtpTransport.bothWritable, RtpTransport.isWritable, hmux, hslot]

/-! ## With a signal -/

/-- The last signal is right, and the cache knows it. -/
structure Settled (writable : T → Bool) (transport : SrtpTransport T) : Prop where
  cached : transport.Cached
  signalled : transport.Signalled writable

omit [DecidableEq T] in
theorem settled_maybeUpdate {writable : T → Bool} {transport : SrtpTransport T}
    (hcached : transport.Cached) :
    Settled writable (transport.maybeUpdateWritableState writable) :=
  ⟨SrtpTransport.cached_maybeUpdate hcached,
    SrtpTransport.signalled_maybeUpdate_of_cached hcached⟩

omit [DecidableEq T] in
theorem cached_observe {transport : SrtpTransport T} {observation : Observation T}
    (hcached : transport.Cached) (hother : ∀ writable, observation ≠ .writableState writable) :
    (transport.observe observation).Cached := by
  have hextra : ∀ writable, .writableState writable ∉ [observation] :=
    fun writable hmem => hother writable (List.mem_singleton.mp hmem).symm
  exact (lastWritableState_append transport.trace [observation] hextra).trans hcached

omit [DecidableEq T] in
theorem settled_observe {writable : T → Bool} {transport : SrtpTransport T}
    {observation : Observation T} (hsettled : Settled writable transport)
    (hother : ∀ writable, observation ≠ .writableState writable) :
    Settled writable (transport.observe observation) := by
  refine ⟨cached_observe hsettled.cached hother, ?_⟩
  have hextra : ∀ writable, .writableState writable ∉ [observation] :=
    fun writable hmem => hother writable (List.mem_singleton.mp hmem).symm
  exact SrtpTransport.signalled_of_same hsettled.signalled rfl
    (lastWritableState_append transport.trace [observation] hextra) rfl

omit [DecidableEq T] in
theorem settled_resetParams {writable : T → Bool} {transport : DtlsSrtpTransport T}
    (hcached : transport.Cached) :
    Settled writable (transport.resetParams writable).toSrtpTransport :=
  settled_maybeUpdate hcached

omit [DecidableEq T] in
theorem settled_keyed {inputs : DtlsInputs T} {transport : DtlsSrtpTransport T}
    (hcached : transport.Cached) (source : T) (send recv : SessionParams)
    (pair : SessionPair) :
    Settled inputs.writable
      (transport.keyed inputs source send recv pair).toSrtpTransport := by
  have hextracted : (transport.toSrtpTransport.observe (.extracted source send recv)).Cached :=
    cached_observe hcached (by simp)
  have hsessions : SrtpTransport.Cached
      { transport.toSrtpTransport.observe (.extracted source send recv) with
        sessions := some pair } := hextracted
  exact settled_maybeUpdate (cached_observe hsessions (by simp))

omit [DecidableEq T] in
theorem settled_setRtcpParams {writable : T → Bool} {transport : SrtpTransport T}
    (hsettled : Settled writable transport) (results : PairResults)
    (send recv : SessionParams) :
    Settled writable (transport.setRtcpParams writable api results send recv).1 := by
  refine ⟨?_, SrtpTransport.signalled_setRtcpParams hsettled.signalled results send recv⟩
  simp only [SrtpTransport.setRtcpParams]
  split
  · exact hsettled.cached
  split
  · exact hsettled.cached
  split
  · exact hsettled.cached
  · exact SrtpTransport.cached_maybeUpdate (cached_observe hsettled.cached (by simp))

omit [DecidableEq T] in
theorem settled_setupRtcpDtlsSrtp {inputs : DtlsInputs T} {transport : DtlsSrtpTransport T}
    (hsettled : Settled inputs.writable transport.toSrtpTransport) :
    Settled inputs.writable (transport.setupRtcpDtlsSrtp api inputs).toSrtpTransport := by
  simp only [setupRtcpDtlsSrtp]
  split
  · exact hsettled
  split
  · exact hsettled
  · exact settled_setRtcpParams api (settled_observe hsettled (by simp)) _ _ _

omit [DecidableEq T] in
/-- Setting up keys signals what it changes. -/
theorem settled_run {inputs : DtlsInputs T} {transport : DtlsSrtpTransport T}
    (kind : SetupKind) (hkeyed : transport.Keyed)
    (hsettled : Settled inputs.writable transport.toSrtpTransport) :
    Settled inputs.writable (kind.run api inputs transport).toSrtpTransport := by
  apply @run_setup T api inputs (fun each => Settled inputs.writable each.toSrtpTransport)
    kind transport hkeyed hsettled
  · intro _ after hsetup
    cases hsetup with
    | keyed source keys pair _ _ _ _ => exact settled_keyed hsettled.cached source _ _ pair
    | unchanged _ => exact hsettled
    | dropped source send recv _ =>
        exact settled_resetParams (cached_observe hsettled.cached (by simp))
  · intro inactive _ hinactive
    exact settled_setupRtcpDtlsSrtp api hinactive

/-! ## Before keys are set up -/

section Prepare

variable {inputs : DtlsInputs T} {transport : DtlsSrtpTransport T}

theorem settled_resetForNewTransports
    (hsettled : Settled inputs.writable transport.toSrtpTransport)
    (rtpDtlsTransport : Option T) :
    Settled inputs.writable
      (transport.resetForNewTransports inputs rtpDtlsTransport).toSrtpTransport := by
  unfold resetForNewTransports
  split
  · exact settled_resetParams hsettled.cached
  · exact hsettled

/-- New transports are a change without a signal when they do not cost an active transport
its keys. -/
theorem signalled_setDtlsTransports_iff {rtpDtlsTransport rtcpDtlsTransport : Option T}
    (hsettled : Settled inputs.writable transport.toSrtpTransport)
    (hpasses : transport.aborts inputs
      (.setDtlsTransports rtpDtlsTransport rtcpDtlsTransport) = false) :
    let bound := ((transport.resetForNewTransports inputs rtpDtlsTransport).bindRtcp
      inputs.writable rtcpDtlsTransport).bindRtp inputs.writable rtpDtlsTransport
    bound.Cached ∧
      (bound.Signalled inputs.writable ↔
        transport.SignalsCall inputs.writable
          (.setDtlsTransports rtpDtlsTransport rtcpDtlsTransport)) := by
  intro bound
  have hreset := settled_resetForNewTransports hsettled rtpDtlsTransport
  have hsilent : Silent
      (transport.resetForNewTransports inputs rtpDtlsTransport).toSrtpTransport
      bound.toSrtpTransport :=
    (silent_bindRtcp inputs.writable _ rtcpDtlsTransport).trans
      (silent_bindRtp inputs.writable _ rtpDtlsTransport)
  have hactive : bound.isSrtpActive =
      (transport.resetForNewTransports inputs rtpDtlsTransport).isSrtpActive :=
    congrArg Option.isSome hsilent.sessions
  refine ⟨hsilent.cached hreset.cached, ?_⟩
  rw [SrtpTransport.signalled_iff_of_same hreset.signalled hsilent.sessions hsilent.last,
    hactive, bothWritable_bind]
  simp only [aborts] at hpasses
  by_cases hdrop : (transport.isSrtpActive && (rtpDtlsTransport ≠ transport.rtpDtlsTransport ||
      transport.activeResetSrtpParams)) = true
  · have hdropped : (transport.resetForNewTransports inputs rtpDtlsTransport).isSrtpActive =
        false := by
      rw [resetForNewTransports, if_pos hdrop]
      exact (noKeys_resetParams inputs.writable transport).not_active
    refine iff_of_true (fun hstays => absurd hstays (by simp [hdropped])) ?_
    intro hrtp hflag
    simp [hrtp, hflag] at hdrop
  · have hkeep : transport.resetForNewTransports inputs rtpDtlsTransport = transport := by
      rw [resetForNewTransports, if_neg hdrop]
    rw [hkeep] at hpasses ⊢
    refine ⟨fun hstays _ _ _ => hstays, fun hsignals hstays => ?_⟩
    simp only [hstays, Bool.true_and, Bool.or_eq_true, decide_eq_true_eq, not_or, not_not,
      Bool.not_eq_true] at hdrop
    simp only [hstays, Bool.and_true, Bool.and_eq_false_iff, Option.isSome_eq_false_iff,
      Option.isNone_iff_eq_none, decide_eq_false_iff_not, not_not] at hpasses
    exact hsignals hdrop.1 hdrop.2 hpasses hstays

/-- What the first part of an event does to the last signal. -/
theorem signalled_prepare_iff (event : DtlsSrtpEvent T)
    (hsettled : Settled inputs.writable transport.toSrtpTransport)
    (hpasses : transport.aborts inputs event = false) :
    (transport.prepare inputs event).1.Cached ∧
      ((transport.prepare inputs event).1.Signalled inputs.writable ↔
        transport.SignalsCall inputs.writable event) := by
  cases event with
  | setDtlsTransports rtpDtlsTransport rtcpDtlsTransport =>
      exact signalled_setDtlsTransports_iff hsettled hpasses
  | setActiveResetSrtpParams activeResetSrtpParams =>
      exact ⟨hsettled.cached, iff_of_true hsettled.signalled trivial⟩
  | setRtcpMuxEnabled enable =>
      have hlast := lastWritableState_append transport.trace [.rtcpMuxEnabled enable] (by simp)
      have hbinding := RtpTransport.setRtcpMuxEnabled_same transport.toRtpTransport enable
      have hiff := SrtpTransport.signalled_rebinding_iff hsettled.signalled hbinding hlast
      exact ⟨(silent_of_binding hbinding hlast).cached hsettled.cached, hiff⟩
  | updateSendEncryptedHeaderExtensionIds extensionIds =>
      simp only [prepare]
      split <;> exact ⟨hsettled.cached, iff_of_true hsettled.signalled trivial⟩
  | updateRecvEncryptedHeaderExtensionIds extensionIds =>
      simp only [prepare]
      split <;> exact ⟨hsettled.cached, iff_of_true hsettled.signalled trivial⟩
  | onDtlsState dtlsTransport state =>
      have htold : Settled inputs.writable
          (transport.toSrtpTransport.observe (.dtlsState dtlsTransport state)) :=
        settled_observe hsettled (by simp)
      simp only [prepare]
      split
      case isTrue =>
        have hreset : Settled inputs.writable ((transport.observe
            (.dtlsState dtlsTransport state)).resetParams inputs.writable).toSrtpTransport :=
          settled_resetParams htold.cached
        exact ⟨hreset.cached, iff_of_true hreset.signalled trivial⟩
      case isFalse => exact ⟨htold.cached, iff_of_true htold.signalled trivial⟩
  | onWritableState packetTransport =>
      exact ⟨hsettled.cached, iff_of_true hsettled.signalled trivial⟩

end Prepare

theorem signalsCall_of_aborts {inputs : DtlsInputs T} {transport : DtlsSrtpTransport T}
    {event : DtlsSrtpEvent T} (haborts : transport.aborts inputs event = true)
    (writable : T → Bool) : transport.SignalsCall writable event := by
  cases event with
  | setDtlsTransports rtpDtlsTransport rtcpDtlsTransport =>
      intro hrtp hflag hrtcp hactive
      have hkeep : transport.resetForNewTransports inputs rtpDtlsTransport = transport := by
        simp [resetForNewTransports, hrtp, hflag]
      simp only [aborts, hkeep, Bool.and_eq_true, decide_eq_true_eq] at haborts
      rcases hrtcp with rfl | rfl
      · exact absurd haborts.1.1 (by simp)
      · exact absurd rfl haborts.1.2
  | _ => exact absurd haborts (by simp [aborts])

/-- An event with a silent change sets up no keys. -/
theorem run_of_not_signals {inputs : DtlsInputs T} {transport : DtlsSrtpTransport T}
    {event : DtlsSrtpEvent T} (hmiss : ¬ transport.SignalsCall inputs.writable event) :
    (transport.prepare inputs event).2.run api inputs (transport.prepare inputs event).1 =
      (transport.prepare inputs event).1 := by
  cases event with
  | setDtlsTransports rtpDtlsTransport rtcpDtlsTransport =>
      simp only [SignalsCall, SrtpTransport.SignalsRebinding, Classical.not_imp] at hmiss
      obtain ⟨hrtp, hflag, -, hactive, -⟩ := hmiss
      have hkeep : transport.resetForNewTransports inputs rtpDtlsTransport = transport := by
        simp [resetForNewTransports, hrtp, hflag]
      have hbound := transport.bind_same inputs rtpDtlsTransport rtcpDtlsTransport
      rw [hkeep] at hbound
      have hprepared := hbound.isSrtpActive.trans hactive
      simp only [prepare] at hprepared ⊢
      simp [SetupKind.run, maybeSetupDtlsSrtp, hprepared]
  | setRtcpMuxEnabled enable =>
      simp only [SignalsCall, SrtpTransport.SignalsRebinding, Classical.not_imp] at hmiss
      obtain ⟨hactive, -⟩ := hmiss
      have hprepared :
          (transport.prepare inputs (.setRtcpMuxEnabled enable)).1.isSrtpActive = true :=
        hactive
      cases enable with
      | false => rfl
      | true =>
          simp only [prepare, if_true] at hprepared ⊢
          simp [SetupKind.run, maybeSetupDtlsSrtp, hprepared]
  | _ => exact absurd trivial hmiss

/-! ## Runs -/

/-- The last signal is right for the packet transports as they are. -/
def WorldSignalled (world : World (DtlsSrtpTransport T) T) : Prop :=
  world.transport.Signalled world.writable

structure SignalInv (world : World (DtlsSrtpTransport T) T) : Prop where
  keys : KeysInv world.transport
  settled : Settled world.writable world.transport.toSrtpTransport

omit [DecidableEq T] in
/-- Only for an active transport does it matter which packet transports are writable. -/
theorem signalled_change_iff {writable : T → Bool} {transport : SrtpTransport T}
    (now : T → Bool) (hsignalled : transport.Signalled writable) :
    transport.Signalled now ↔
      (transport.isSrtpActive = true →
        transport.bothWritable now = transport.bothWritable writable) := by
  rw [SrtpTransport.Signalled, hsignalled, SrtpTransport.isFullyWritable_eq,
    SrtpTransport.isFullyWritable_eq]
  cases transport.isSrtpActive
  · simp
  · simp [eq_comm]

theorem iterate_onWritableState (inputs : DtlsInputs T) {transport : DtlsSrtpTransport T}
    (packetTransport : T) (hkeys : KeysInv transport)
    (hsettled : Settled inputs.writable transport.toSrtpTransport) (connections : ℕ) :
    KeysInv ((onWritableState api inputs)^[connections] transport) ∧
      Settled inputs.writable
        ((onWritableState api inputs)^[connections] transport).toSrtpTransport := by
  induction connections with
  | zero => exact ⟨hkeys, hsettled⟩
  | succ connections ih =>
      rw [Function.iterate_succ_apply']
      exact ⟨step_keysInv _ (inputs, .onWritableState packetTransport) _ ih.1 rfl,
        settled_run api .maybe ih.1.keyed ih.2⟩

omit [DecidableEq T] in
theorem iterate_onWritableState_of_active {inputs : DtlsInputs T}
    {transport : DtlsSrtpTransport T} (hactive : transport.isSrtpActive = true)
    (connections : ℕ) :
    (onWritableState api inputs)^[connections] transport = transport := by
  apply Function.iterate_fixed
  simp [onWritableState, maybeSetupDtlsSrtp, hactive]

/-- What an event makes of the invariant, and when. -/
theorem signalled_handle {inputs : DtlsInputs T} {transport next : DtlsSrtpTransport T}
    {event : DtlsSrtpEvent T} (hkeys : KeysInv transport)
    (hsettled : Settled inputs.writable transport.toSrtpTransport)
    (hnext : transport.handle api inputs event = .ok next) :
    KeysInv next ∧
      (transport.SignalsCall inputs.writable event →
        Settled inputs.writable next.toSrtpTransport) ∧
      (next.Signalled inputs.writable → transport.SignalsCall inputs.writable event) := by
  have hstep : step api transport (inputs, event) = some (.ok next) := congrArg some hnext
  refine ⟨step_keysInv transport (inputs, event) next hkeys hstep, ?_⟩
  obtain ⟨hpasses, rfl⟩ := (step_eq_ok_iff api).mp hstep
  obtain ⟨hcached, hiff⟩ := signalled_prepare_iff event hsettled hpasses
  refine ⟨fun hguard => ?_, fun hright => ?_⟩
  · have hprepared : Settled inputs.writable
        (transport.prepare inputs event).1.toSrtpTransport := ⟨hcached, hiff.mpr hguard⟩
    exact settled_run api _ (keysInv_prepare hkeys inputs event).keyed hprepared
  · by_contra hmiss
    rw [run_of_not_signals api hmiss] at hright
    exact hmiss (hiff.mp hright)

theorem worldStep_writableChanged {world : World (DtlsSrtpTransport T) T}
    (hinv : SignalInv world) (inputs : DtlsInputs T) (packetTransport : T) (now : Bool) :
    ∃ next, worldStep api world (inputs, .writableChanged packetTransport now) =
        some (.ok next) ∧
      (SignalsEvent world (inputs, .writableChanged packetTransport now) → SignalInv next) ∧
      (WorldSignalled next →
        SignalsEvent world (inputs, .writableChanged packetTransport now)) := by
  have hchange := signalled_change_iff
    (Function.update world.writable packetTransport now) hinv.settled.signalled
  refine ⟨_, rfl, fun hguard => ?_, fun hright hactive => ?_⟩
  · have hsettled : Settled (Function.update world.writable packetTransport now)
        world.transport.toSrtpTransport := ⟨hinv.settled.cached, hchange.mpr hguard⟩
    obtain ⟨hkeys, hafter⟩ := iterate_onWritableState api
      { inputs with writable := Function.update world.writable packetTransport now }
      packetTransport hinv.keys hsettled (world.transport.connections packetTransport)
    exact ⟨hkeys, hafter⟩
  · rw [WorldSignalled] at hright
    simp only [iterate_onWritableState_of_active api hactive] at hright
    exact hchange.mp hright hactive

theorem worldStep_inv (world : World (DtlsSrtpTransport T) T)
    (event : DtlsInputs T × WorldEvent (DtlsSrtpEvent T) T)
    (next : World (DtlsSrtpTransport T) T) (hinv : SignalInv world)
    (hguard : SignalsEvent world event) (hstep : worldStep api world event = some (.ok next)) :
    SignalInv next := by
  obtain ⟨inputs, event⟩ := event
  cases event with
  | writableChanged packetTransport now =>
      obtain ⟨after, hafter, hkeeps, -⟩ :=
        worldStep_writableChanged api hinv inputs packetTransport now
      obtain rfl := Except.ok.inj (Option.some.inj (hafter.symm.trans hstep))
      exact hkeeps hguard
  | call event =>
      obtain ⟨transport, hhandle, rfl⟩ :=
        except_map_eq_ok_iff.mp (Option.some.inj hstep)
      obtain ⟨hkeys, hkeeps, -⟩ := signalled_handle api hinv.keys hinv.settled hhandle
      exact ⟨hkeys, hkeeps hguard⟩

theorem worldStep_breaks (world : World (DtlsSrtpTransport T) T)
    (event : DtlsInputs T × WorldEvent (DtlsSrtpEvent T) T) (hinv : SignalInv world)
    (hmiss : ¬ SignalsEvent world event) :
    ∃ next, worldStep api world event = some (.ok next) ∧ ¬ WorldSignalled next := by
  obtain ⟨inputs, event⟩ := event
  cases event with
  | writableChanged packetTransport now =>
      obtain ⟨next, hnext, -, hright⟩ :=
        worldStep_writableChanged api hinv inputs packetTransport now
      exact ⟨next, hnext, fun hsignalled => hmiss (hright hsignalled)⟩
  | call event =>
      cases hhandle : world.transport.handle api { inputs with writable := world.writable }
          event with
      | error reason =>
          -- the failed check is no change
          rw [handle_eq] at hhandle
          split at hhandle
          case isTrue haborts => exact absurd (signalsCall_of_aborts haborts _) hmiss
          case isFalse => exact absurd hhandle (by simp)
      | ok next =>
          obtain ⟨-, -, hright⟩ := signalled_handle api hinv.keys hinv.settled hhandle
          refine ⟨{ world with transport := next }, ?_, fun hsignalled =>
            hmiss (hright hsignalled)⟩
          simp [worldStep, hhandle, Except.map]

theorem throughout_signalled_iff {world : World (DtlsSrtpTransport T) T}
    (hinit : SignalInv world)
    (events : List (DtlsInputs T × WorldEvent (DtlsSrtpEvent T) T)) :
    Throughout (worldStep api) WorldSignalled world events ↔
      Guarded (worldStep api) SignalsEvent world events :=
  guarded_iff_throughout (worldStep_inv api) (fun _ hinv => hinv.settled.signalled)
    (worldStep_breaks api) hinit events

end DtlsSrtpTransport

/-! ## Both classes -/

/-- A new SRTP transport, and any writable packet transports. -/
def SrtpTransport.newWorld {T : Type*} (rtcpMuxEnabled : Bool) (writable : T → Bool) :
    World (SrtpTransport T) T where
  transport := { rtcpMuxEnabled := rtcpMuxEnabled }
  writable := writable

def DtlsSrtpTransport.newWorld {T : Type*} (rtcpMuxEnabled : Bool) (writable : T → Bool) :
    World (DtlsSrtpTransport T) T where
  transport := .create rtcpMuxEnabled
  writable := writable

/-- The last signal is right after every event exactly when no event changes in silence
what the signal tells: by rebinding an active transport, by new or dropped keys of which
the cache of `SrtpTransport` has missed the signal, or, with DTLS, by packet transports
of an active transport that become writable or cease to be. -/
theorem signalled_runs_iff {T : Type*} [DecidableEq T] (api : SrtpApi) (rtcpMuxEnabled : Bool)
    (writable : T → Bool) :
    (∀ events,
      Throughout (SrtpTransport.worldStep api) SrtpTransport.WorldSignalled
          (SrtpTransport.newWorld rtcpMuxEnabled writable) events ↔
        Guarded (SrtpTransport.worldStep api) (SrtpTransport.SignalsEvent api)
          (SrtpTransport.newWorld rtcpMuxEnabled writable) events) ∧
    (∀ events,
      Throughout (DtlsSrtpTransport.worldStep api) DtlsSrtpTransport.WorldSignalled
          (DtlsSrtpTransport.newWorld rtcpMuxEnabled writable) events ↔
        Guarded (DtlsSrtpTransport.worldStep api) DtlsSrtpTransport.SignalsEvent
          (DtlsSrtpTransport.newWorld rtcpMuxEnabled writable) events) := by
  constructor
  · intro events
    apply SrtpTransport.throughout_signalled_iff
    exact ⟨keyed_of_sessions_none rfl, rfl⟩
  · intro events
    apply DtlsSrtpTransport.throughout_signalled_iff
    exact ⟨.of_not_active rfl, rfl, rfl⟩

/-- Keys that come before the packet transport is writable, and are dropped after. -/
def droppedKeys : List (WorldEvent (SrtpCall ℕ) ℕ) :=
  let params : SessionParams := { cipherSuite := 1, key := List.replicate 30 1 }
  [.call (.setRtpPacketTransport (some 0)), .call (.setRtpParams {} params params),
    .writableChanged 0 true, .call .resetParams]

/-- A DTLS transport that becomes writable, which brings the keys, and ceases to be. -/
def lostTransport : List (DtlsInputs ℕ × WorldEvent (DtlsSrtpEvent ℕ) ℕ) :=
  let inputs := DtlsSrtpTransport.connectedInputs
  [(inputs, .call (.setDtlsTransports (some 0) none)), (inputs, .writableChanged 0 true),
    (inputs, .writableChanged 0 false)]

/-- In both classes the last signal is true, and nothing can be written. -/
theorem last_signal_wrong :
    ¬ Throughout (SrtpTransport.worldStep registeredSrtpApi) SrtpTransport.WorldSignalled
        (SrtpTransport.newWorld true fun _ => false) droppedKeys ∧
      ¬ Throughout (DtlsSrtpTransport.worldStep registeredSrtpApi)
        DtlsSrtpTransport.WorldSignalled
        (DtlsSrtpTransport.newWorld true fun _ => false) lostTransport := by
  constructor
  · intro hall
    obtain ⟨final, hrun, hfinal⟩ := exists_of_reaches
      (fun world : World (SrtpTransport ℕ) ℕ =>
        lastWritableState world.transport.trace !=
          world.transport.isFullyWritable world.writable)
      (show reaches _ (run (SrtpTransport.worldStep registeredSrtpApi)
        (SrtpTransport.newWorld true fun _ => false) droppedKeys) = true by decide +kernel)
    exact bne_iff_ne.mp hfinal (hall droppedKeys [] final (by simp) hrun)
  · intro hall
    obtain ⟨final, hrun, hfinal⟩ := exists_of_reaches
      (fun world : World (DtlsSrtpTransport ℕ) ℕ =>
        lastWritableState world.transport.trace !=
          world.transport.isFullyWritable world.writable)
      (show reaches _ (run (DtlsSrtpTransport.worldStep registeredSrtpApi)
        (DtlsSrtpTransport.newWorld true fun _ => false) lostTransport) = true by
          decide +kernel)
    exact bne_iff_ne.mp hfinal (hall lostTransport [] final (by simp) hrun)

end PeerConnection.Srtp
