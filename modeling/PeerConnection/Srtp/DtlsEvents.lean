import PeerConnection.Srtp.DtlsSrtpTransport

/-!
# One event of the DTLS-SRTP transport

Each event first changes the transport without touching its keys, except that it may
drop them all, and then sets up keys, or not.  The lemmas say what these two parts leave
as it was; the invariants of the other files are derived from them.
-/

namespace PeerConnection.Srtp

open PeerConnection.Runs

/-- Nothing that concerns keys: none are taken or set, and no transport has left the
connected state. -/
def Observation.Quiet {T : Type*} : Observation T → Prop
  | .dtlsState _ state => state = .connected
  | .extracted _ _ _ | .rtpParams _ _ _ | .rtcpParams _ _ => False
  | _ => True

/-- Whether and how an event goes on to set up keys. -/
inductive SetupKind where
  | none
  /-- `MaybeSetupDtlsSrtp`. -/
  | maybe
  /-- `SetupRtpDtlsSrtp`. -/
  | rtp
  deriving DecidableEq, Repr

def SetupKind.run {T : Type*} (api : SrtpApi) (inputs : DtlsInputs T)
    (transport : DtlsSrtpTransport T) : SetupKind → DtlsSrtpTransport T
  | .none => transport
  | .maybe => transport.maybeSetupDtlsSrtp api inputs
  | .rtp => transport.setupRtpDtlsSrtp api inputs

/-- `SetupRtpDtlsSrtp` is reached. -/
def SetupKind.attempts {T : Type*} (inputs : DtlsInputs T)
    (transport : DtlsSrtpTransport T) : SetupKind → Bool
  | .none => false
  | .maybe => !transport.isSrtpActive && transport.isDtlsWritable inputs.writable
  | .rtp => true

namespace DtlsSrtpTransport

variable {T : Type*}

/-! ## Frames -/

/-- The keys are what they were. -/
structure SameKeys (before after : DtlsSrtpTransport T) : Prop where
  sessions : after.sessions = before.sessions
  sendRtcpSession : after.sendRtcpSession = before.sendRtcpSession
  recvRtcpSession : after.recvRtcpSession = before.recvRtcpSession
  trace : ∃ extra, after.trace = before.trace ++ extra ∧ ∀ each ∈ extra, each.Quiet

theorem SameKeys.refl (transport : DtlsSrtpTransport T) : SameKeys transport transport :=
  ⟨rfl, rfl, rfl, [], by simp⟩

theorem SameKeys.trans {first second third : DtlsSrtpTransport T}
    (hfirst : SameKeys first second) (hsecond : SameKeys second third) :
    SameKeys first third := by
  obtain ⟨front, hfront, hquietFront⟩ := hfirst.trace
  obtain ⟨back, hback, hquietBack⟩ := hsecond.trace
  refine ⟨hsecond.sessions.trans hfirst.sessions,
    hsecond.sendRtcpSession.trans hfirst.sendRtcpSession,
    hsecond.recvRtcpSession.trans hfirst.recvRtcpSession, front ++ back, ?_, ?_⟩
  · rw [hback, hfront, List.append_assoc]
  · intro each heach
    rcases List.mem_append.mp heach with hmem | hmem
    · exact hquietFront each hmem
    · exact hquietBack each hmem

/-- A new binding of the transport below fires signals at most. -/
theorem sameKeys_of_binding {transport : DtlsSrtpTransport T} {before after : RtpTransport T}
    (hbinding : RtpTransport.SameBinding before after)
    (htrace : before.trace = transport.trace) :
    SameKeys transport { transport with toRtpTransport := after } := by
  obtain ⟨signals, hsignals⟩ := hbinding.trace
  refine ⟨rfl, rfl, rfl, signals.map .readyToSend, ?_, ?_⟩
  · rw [← htrace]
    exact hsignals
  · intro each heach
    obtain ⟨ready, -, rfl⟩ := List.mem_map.mp heach
    trivial

variable [DecidableEq T]

theorem resubscribe_same (transport : DtlsSrtpTransport T) (old new : Option T) :
    SameKeys transport (transport.resubscribe old new) := by
  unfold resubscribe
  split
  · exact SameKeys.refl transport
  · refine ⟨rfl, rfl, rfl, _, rfl, ?_⟩
    intro each heach
    rcases List.mem_append.mp heach with hmem | hmem
    · obtain ⟨source, -, rfl⟩ := List.mem_map.mp hmem
      trivial
    · obtain ⟨source, -, rfl⟩ := List.mem_map.mp hmem
      trivial

theorem bindRtcp_same (writable : T → Bool) (transport : DtlsSrtpTransport T)
    (rtcpDtlsTransport : Option T) :
    SameKeys transport (transport.bindRtcp writable rtcpDtlsTransport) := by
  have hsubscribed :=
    transport.resubscribe_same transport.rtcpDtlsTransport rtcpDtlsTransport
  have hassigned : SameKeys transport
      { transport.resubscribe transport.rtcpDtlsTransport rtcpDtlsTransport with
        rtcpDtlsTransport := rtcpDtlsTransport } :=
    ⟨hsubscribed.sessions, hsubscribed.sendRtcpSession, hsubscribed.recvRtcpSession,
      hsubscribed.trace⟩
  exact hassigned.trans
    (sameKeys_of_binding (RtpTransport.setRtcpPacketTransport_same writable _ _) rfl)

theorem bindRtp_same (writable : T → Bool) (transport : DtlsSrtpTransport T)
    (rtpDtlsTransport : Option T) :
    SameKeys transport (transport.bindRtp writable rtpDtlsTransport) := by
  have hsubscribed := transport.resubscribe_same transport.rtpDtlsTransport rtpDtlsTransport
  have hassigned : SameKeys transport
      { transport.resubscribe transport.rtpDtlsTransport rtpDtlsTransport with
        rtpDtlsTransport := rtpDtlsTransport } :=
    ⟨hsubscribed.sessions, hsubscribed.sendRtcpSession, hsubscribed.recvRtcpSession,
      hsubscribed.trace⟩
  exact hassigned.trans
    (sameKeys_of_binding (RtpTransport.setRtpPacketTransport_same writable _ _) rfl)

@[simp]
theorem rtpDtlsTransport_resubscribe (transport : DtlsSrtpTransport T) (old new : Option T) :
    (transport.resubscribe old new).rtpDtlsTransport = transport.rtpDtlsTransport := by
  unfold resubscribe
  split <;> rfl

@[simp]
theorem rtcpDtlsTransport_resubscribe (transport : DtlsSrtpTransport T) (old new : Option T) :
    (transport.resubscribe old new).rtcpDtlsTransport = transport.rtcpDtlsTransport := by
  unfold resubscribe
  split <;> rfl

/-! ## The two parts of an event -/

variable (api : SrtpApi) (inputs : DtlsInputs T)

/-- What an event does before it sets up keys, and how it goes on. -/
def prepare (transport : DtlsSrtpTransport T) :
    DtlsSrtpEvent T → DtlsSrtpTransport T × SetupKind
  | .setDtlsTransports rtpDtlsTransport rtcpDtlsTransport =>
      (((transport.resetForNewTransports inputs rtpDtlsTransport).bindRtcp inputs.writable
        rtcpDtlsTransport).bindRtp inputs.writable rtpDtlsTransport, .maybe)
  | .setActiveResetSrtpParams activeResetSrtpParams =>
      (transport.setActiveResetSrtpParams activeResetSrtpParams, .none)
  | .setRtcpMuxEnabled enable =>
      ({ transport with toRtpTransport := transport.toRtpTransport.setRtcpMuxEnabled enable },
        if enable then .maybe else .none)
  | .updateSendEncryptedHeaderExtensionIds extensionIds =>
      if transport.sendExtensionIds = some extensionIds then (transport, .none)
      else
        let updated := { transport with sendExtensionIds := some extensionIds }
        (updated, if updated.dtlsHandshakeCompleted inputs.status then .rtp else .none)
  | .updateRecvEncryptedHeaderExtensionIds extensionIds =>
      if transport.recvExtensionIds = some extensionIds then (transport, .none)
      else
        let updated := { transport with recvExtensionIds := some extensionIds }
        (updated, if updated.dtlsHandshakeCompleted inputs.status then .rtp else .none)
  | .onDtlsState dtlsTransport state =>
      let told := transport.observe (.dtlsState dtlsTransport state)
      if state ≠ .connected then (told.resetParams inputs.writable, .none) else (told, .maybe)
  | .onWritableState _ => (transport, .maybe)

/-- A new RTCP transport comes although the transport is active and stays so. -/
def aborts (transport : DtlsSrtpTransport T) : DtlsSrtpEvent T → Bool
  | .setDtlsTransports rtpDtlsTransport rtcpDtlsTransport =>
      let reset := transport.resetForNewTransports inputs rtpDtlsTransport
      rtcpDtlsTransport.isSome && rtcpDtlsTransport ≠ reset.rtcpDtlsTransport &&
        reset.isSrtpActive
  | _ => false

theorem handle_eq (transport : DtlsSrtpTransport T) (event : DtlsSrtpEvent T) :
    transport.handle api inputs event =
      if transport.aborts inputs event then .error .rtcpTransportAfterActivation
      else
        .ok ((transport.prepare inputs event).2.run api inputs
          (transport.prepare inputs event).1) := by
  cases event with
  | setDtlsTransports rtpDtlsTransport rtcpDtlsTransport => rfl
  | setActiveResetSrtpParams activeResetSrtpParams => rfl
  | setRtcpMuxEnabled enable => cases enable <;> rfl
  | updateSendEncryptedHeaderExtensionIds extensionIds =>
      simp only [handle, updateSendEncryptedHeaderExtensionIds, aborts, prepare]
      split
      · rfl
      · split <;> rfl
  | updateRecvEncryptedHeaderExtensionIds extensionIds =>
      simp only [handle, updateRecvEncryptedHeaderExtensionIds, aborts, prepare]
      split
      · rfl
      · split <;> rfl
  | onDtlsState dtlsTransport state =>
      simp only [handle, onDtlsState, aborts, prepare]
      split <;> rfl
  | onWritableState packetTransport => rfl

/-! ## What the first part does to the keys -/

/-- There are no keys. -/
structure NoKeys (transport : DtlsSrtpTransport T) : Prop where
  sessions : transport.sessions = none
  sendRtcpSession : transport.sendRtcpSession = none
  recvRtcpSession : transport.recvRtcpSession = none

omit [DecidableEq T] in
theorem NoKeys.of_same {before after : DtlsSrtpTransport T} (hnone : NoKeys before)
    (hsame : SameKeys before after) : NoKeys after :=
  ⟨hsame.sessions.trans hnone.sessions, hsame.sendRtcpSession.trans hnone.sendRtcpSession,
    hsame.recvRtcpSession.trans hnone.recvRtcpSession⟩

omit [DecidableEq T] in
theorem noKeys_resetParams (writable : T → Bool) (transport : DtlsSrtpTransport T) :
    NoKeys (transport.resetParams writable) := by
  obtain ⟨signals, heq⟩ := SrtpTransport.maybeUpdateWritableState_eq writable
    { transport.toSrtpTransport with
      sessions := none
      sendRtcpSession := none
      recvRtcpSession := none }
  constructor <;> simp only [resetParams, SrtpTransport.resetParams, heq]

omit [DecidableEq T] in
theorem NoKeys.not_active {transport : DtlsSrtpTransport T} (hnone : NoKeys transport) :
    transport.isSrtpActive = false := by
  rw [SrtpTransport.isSrtpActive, hnone.sessions, Option.isSome_none]

omit [DecidableEq T] in
theorem SameKeys.isSrtpActive {before after : DtlsSrtpTransport T}
    (hsame : SameKeys before after) : after.isSrtpActive = before.isSrtpActive := by
  rw [SrtpTransport.isSrtpActive, SrtpTransport.isSrtpActive, hsame.sessions]

theorem resetForNewTransports_cases (transport : DtlsSrtpTransport T)
    (rtpDtlsTransport : Option T) :
    (transport.resetForNewTransports inputs rtpDtlsTransport = transport ∧
      (transport.isSrtpActive = true → rtpDtlsTransport = transport.rtpDtlsTransport)) ∨
    NoKeys (transport.resetForNewTransports inputs rtpDtlsTransport) := by
  unfold resetForNewTransports
  split
  case isTrue => exact Or.inr (noKeys_resetParams inputs.writable transport)
  case isFalse hkeep =>
    refine Or.inl ⟨rfl, fun hactive => ?_⟩
    simp only [hactive, Bool.true_and, Bool.or_eq_true, decide_eq_true_eq, not_or,
      not_not] at hkeep
    exact hkeep.1

theorem bind_same (transport : DtlsSrtpTransport T)
    (rtpDtlsTransport rtcpDtlsTransport : Option T) :
    SameKeys (transport.resetForNewTransports inputs rtpDtlsTransport)
      (transport.prepare inputs (.setDtlsTransports rtpDtlsTransport rtcpDtlsTransport)).1 :=
  (bindRtcp_same inputs.writable _ rtcpDtlsTransport).trans
    (bindRtp_same inputs.writable _ rtpDtlsTransport)

theorem prepare_cases (transport : DtlsSrtpTransport T) (event : DtlsSrtpEvent T) :
    SameKeys transport (transport.prepare inputs event).1 ∨
      NoKeys (transport.prepare inputs event).1 := by
  cases event with
  | setDtlsTransports rtpDtlsTransport rtcpDtlsTransport =>
      have hbound := transport.bind_same inputs rtpDtlsTransport rtcpDtlsTransport
      rcases transport.resetForNewTransports_cases inputs rtpDtlsTransport with
        ⟨hkeep, -⟩ | hnone
      · rw [hkeep] at hbound
        exact Or.inl hbound
      · exact Or.inr (hnone.of_same hbound)
  | setActiveResetSrtpParams activeResetSrtpParams =>
      exact Or.inl ⟨rfl, rfl, rfl, [], (List.append_nil _).symm, by simp⟩
  | setRtcpMuxEnabled enable =>
      refine Or.inl ?_
      have hswitched : SameKeys transport { transport with
          toRtpTransport :=
            { transport.toRtpTransport with rtcpMuxEnabled := enable }.observe
              (.rtcpMuxEnabled enable) } :=
        ⟨rfl, rfl, rfl, [.rtcpMuxEnabled enable], rfl, by simp [Observation.Quiet]⟩
      exact hswitched.trans
        (sameKeys_of_binding (RtpTransport.setRtcpMuxEnabled_same _ enable) rfl)
  | updateSendEncryptedHeaderExtensionIds extensionIds =>
      refine Or.inl ?_
      simp only [prepare]
      split <;> exact ⟨rfl, rfl, rfl, [], by simp⟩
  | updateRecvEncryptedHeaderExtensionIds extensionIds =>
      refine Or.inl ?_
      simp only [prepare]
      split <;> exact ⟨rfl, rfl, rfl, [], by simp⟩
  | onDtlsState dtlsTransport state =>
      simp only [prepare]
      split
      case isTrue => exact Or.inr (noKeys_resetParams inputs.writable _)
      case isFalse hstate =>
        have hconnected : state = .connected := not_not.mp hstate
        refine Or.inl ⟨rfl, rfl, rfl, [.dtlsState dtlsTransport state], rfl, ?_⟩
        simpa [Observation.Quiet] using hconnected
  | onWritableState packetTransport => exact Or.inl (SameKeys.refl transport)

/-- A transport that stays active keeps its RTP transport. -/
theorem rtpDtlsTransport_prepare {transport : DtlsSrtpTransport T}
    {event : DtlsSrtpEvent T}
    (hactive : (transport.prepare inputs event).1.isSrtpActive = true) :
    (transport.prepare inputs event).1.rtpDtlsTransport = transport.rtpDtlsTransport := by
  cases event with
  | setDtlsTransports rtpDtlsTransport rtcpDtlsTransport =>
      have hbound := transport.bind_same inputs rtpDtlsTransport rtcpDtlsTransport
      rcases transport.resetForNewTransports_cases inputs rtpDtlsTransport with
        ⟨hkeep, hrtp⟩ | hnone
      · rw [hkeep] at hbound
        exact hrtp (hbound.isSrtpActive.symm.trans hactive)
      · exact absurd hactive (by simp [(hnone.of_same hbound).not_active])
  | setActiveResetSrtpParams activeResetSrtpParams => rfl
  | setRtcpMuxEnabled enable => rfl
  | updateSendEncryptedHeaderExtensionIds extensionIds =>
      simp only [prepare]
      split <;> rfl
  | updateRecvEncryptedHeaderExtensionIds extensionIds =>
      simp only [prepare]
      split <;> rfl
  | onDtlsState dtlsTransport state =>
      simp only [prepare]
      split <;> rfl
  | onWritableState packetTransport => rfl

/-- A transport that stays active gets no other RTCP transport; the check before would
have failed. -/
theorem rtcpDtlsTransport_prepare {transport : DtlsSrtpTransport T}
    {event : DtlsSrtpEvent T} (hpasses : transport.aborts inputs event = false)
    (hactive : (transport.prepare inputs event).1.isSrtpActive = true) {source : T}
    (hsource : (transport.prepare inputs event).1.rtcpDtlsTransport = some source) :
    transport.rtcpDtlsTransport = some source := by
  cases event with
  | setDtlsTransports rtpDtlsTransport rtcpDtlsTransport =>
      have hbound := transport.bind_same inputs rtpDtlsTransport rtcpDtlsTransport
      have hgiven : rtcpDtlsTransport = some source := by
        simpa [prepare, bindRtp, bindRtcp] using hsource
      rcases transport.resetForNewTransports_cases inputs rtpDtlsTransport with
        ⟨hkeep, -⟩ | hnone
      · rw [hkeep] at hbound
        have hbefore := hbound.isSrtpActive.symm.trans hactive
        simp only [aborts, hkeep, hbefore, hgiven, Option.isSome_some, Bool.true_and,
          Bool.and_true, decide_eq_false_iff_not, not_not] at hpasses
        exact hpasses.symm
      · exact absurd hactive (by simp [(hnone.of_same hbound).not_active])
  | setActiveResetSrtpParams activeResetSrtpParams => exact hsource
  | setRtcpMuxEnabled enable => exact hsource
  | updateSendEncryptedHeaderExtensionIds extensionIds =>
      simp only [prepare] at hsource
      split at hsource <;> exact hsource
  | updateRecvEncryptedHeaderExtensionIds extensionIds =>
      simp only [prepare] at hsource
      split at hsource <;> exact hsource
  | onDtlsState dtlsTransport state =>
      simp only [prepare] at hsource
      split at hsource <;> exact hsource
  | onWritableState packetTransport => exact hsource

theorem step_eq_ok_iff {transport next : DtlsSrtpTransport T}
    {event : DtlsInputs T × DtlsSrtpEvent T} :
    step api transport event = some (.ok next) ↔
      transport.aborts event.1 event.2 = false ∧
        (transport.prepare event.1 event.2).2.run api event.1
          (transport.prepare event.1 event.2).1 = next := by
  rw [step, handle_eq]
  cases transport.aborts event.1 event.2 <;> simp

/-! ## What the second part does to the keys -/

/-- The transport after new keys have gone into its sessions. -/
def keyed (transport : DtlsSrtpTransport T) (source : T) (send recv : SessionParams)
    (pair : SessionPair) : DtlsSrtpTransport T :=
  { transport with
    toSrtpTransport :=
      SrtpTransport.maybeUpdateWritableState inputs.writable
        (SrtpTransport.observe
          { transport.toSrtpTransport.observe (.extracted source send recv) with
            sessions := some pair }
          (.rtpParams (!transport.isSrtpActive) send recv)) }

/-- The RTP keys can be extracted, and libsrtp accepts them. -/
def canKey (transport : DtlsSrtpTransport T) : Bool :=
  match extractParams api inputs.status inputs.rtp.keyExport transport.rtpDtlsTransport with
  | none => false
  | some (_, keys) =>
      transport.acceptsRtpParams api inputs.rtp.results (transport.sendParams keys)
        (transport.recvParams keys)

omit [DecidableEq T] in
theorem extractParams_source {api : SrtpApi} {status : T → DtlsStatus}
    {keyExport : T → KeyExport} {dtlsTransport : Option T} {source : T}
    {keys : ExtractedKeys}
    (hextract : extractParams api status keyExport dtlsTransport = some (source, keys)) :
    dtlsTransport = some source := by
  obtain ⟨transport, htransport, hkeys⟩ := Option.bind_eq_some_iff.mp hextract
  split at hkeys
  · obtain ⟨exported, -, hpair⟩ := Option.map_eq_some_iff.mp hkeys
    rw [htransport, (Prod.mk.inj hpair).1]
  · exact absurd hkeys (by simp)

/-- `SetupRtpDtlsSrtp` keys both sessions with keys of the RTP transport, or leaves the
transport alone, or drops all keys. -/
inductive RtpSetup (api : SrtpApi) (inputs : DtlsInputs T) (transport : DtlsSrtpTransport T) :
    DtlsSrtpTransport T → Prop
  | keyed (source : T) (keys : ExtractedKeys) (pair : SessionPair)
      (hcan : transport.canKey api inputs = true)
      (hextract : extractParams api inputs.status inputs.rtp.keyExport
        transport.rtpDtlsTransport = some (source, keys))
      (hsend : pair.send.keying = some (transport.sendParams keys))
      (hrecv : pair.recv.keying = some (transport.recvParams keys)) :
      RtpSetup api inputs transport
        (transport.keyed inputs source (transport.sendParams keys)
          (transport.recvParams keys) pair)
  | unchanged (hcannot : transport.canKey api inputs = false) :
      RtpSetup api inputs transport transport
  | dropped (source : T) (send recv : SessionParams)
      (hcannot : transport.canKey api inputs = false) :
      RtpSetup api inputs transport
        ((transport.observe (.extracted source send recv)).resetParams inputs.writable)

omit [DecidableEq T] in
theorem setupRtpDtlsSrtp_cases {transport : DtlsSrtpTransport T} (hkeyed : transport.Keyed) :
    RtpSetup api inputs transport (transport.setupRtpDtlsSrtp api inputs) := by
  simp only [setupRtpDtlsSrtp]
  split
  case h_1 hextract => exact .unchanged (by simp [canKey, hextract])
  case h_2 source keys hextract =>
    rcases SrtpTransport.setRtpParams_cases api inputs.writable inputs.rtp.results
        (transport.sendParams keys) (transport.recvParams keys)
        (show (transport.toSrtpTransport.observe (.extracted source
          (transport.sendParams keys) (transport.recvParams keys))).Keyed from hkeyed) with
      ⟨haccepts, pair, hsend, hrecv, heq⟩ | ⟨hrefuses, heq⟩
    · rw [heq]
      have hcan : transport.canKey api inputs = true := by
        simp only [canKey, hextract]
        exact haccepts
      exact .keyed source keys pair hcan hextract hsend hrecv
    · rw [heq]
      have hcannot : transport.canKey api inputs = false := by
        simp only [canKey, hextract]
        exact hrefuses
      exact .dropped source _ _ hcannot

omit [DecidableEq T] in
/-- What holds before the keys are set up, after `SetupRtpDtlsSrtp`, and is kept by
`SetupRtcpDtlsSrtp` on an inactive transport, holds at the end of the event. -/
theorem run_setup {Inv : DtlsSrtpTransport T → Prop} {kind : SetupKind}
    {transport : DtlsSrtpTransport T} (hkeyed : transport.Keyed) (hinit : Inv transport)
    (hrtp : kind.attempts inputs transport = true → ∀ after,
      RtpSetup api inputs transport after → Inv after)
    (hrtcp : ∀ inactive : DtlsSrtpTransport T, inactive.isSrtpActive = false →
      Inv inactive → Inv (inactive.setupRtcpDtlsSrtp api inputs)) :
    Inv (kind.run api inputs transport) := by
  cases kind with
  | none => exact hinit
  | rtp => exact hrtp rfl _ (setupRtpDtlsSrtp_cases api inputs hkeyed)
  | maybe =>
      simp only [SetupKind.run, maybeSetupDtlsSrtp]
      split
      case isTrue => exact hinit
      case isFalse hsetup =>
        have hattempts : SetupKind.attempts inputs transport .maybe = true := by
          simpa [SetupKind.attempts] using hsetup
        have hafter := hrtp hattempts _ (setupRtpDtlsSrtp_cases api inputs hkeyed)
        split
        · cases hactive : (transport.setupRtpDtlsSrtp api inputs).isSrtpActive with
          | true => simpa only [setupRtcpDtlsSrtp, hactive, if_true] using hafter
          | false => exact hrtcp _ hactive hafter
        · exact hafter

end DtlsSrtpTransport

end PeerConnection.Srtp
