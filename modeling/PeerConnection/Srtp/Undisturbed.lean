import PeerConnection.Srtp.Bindings
import PeerConnection.Srtp.ExtensionIds
import PeerConnection.Srtp.RtcpKeys

/-!
# Sessions that stay

An SRTP session loses its roll-over counters and its replay window when it is made anew.
The trace tells: new sessions are keyed by a `SetRtpParams` that has made them.  Here is
what one event leaves of the sessions, and that a reset cannot be undone.
-/

namespace PeerConnection.Srtp

open PeerConnection.Text
open PeerConnection.Runs

variable {T : Type*}

/-- New sessions are made, or a DTLS transport is bound or given up. -/
def Observation.Renews : Observation T → Prop
  | .rtpParams newSessions _ _ => newSessions = true
  | .subscribeDtlsTransportState _ | .unsubscribeDtlsTransportState _ => True
  | _ => False

/-- The suite and the key of a session. -/
def SrtpSession.suiteAndKey (session : SrtpSession) : Option (ℤ × Bytes) :=
  session.keying.map fun params => (params.cipherSuite, params.key)

namespace DtlsSrtpTransport

def sessionKeys (transport : DtlsSrtpTransport T) :
    Option (Option (ℤ × Bytes) × Option (ℤ × Bytes)) :=
  transport.sessions.map fun pair => (pair.send.suiteAndKey, pair.recv.suiteAndKey)

/-- The transport is still active, with the same sessions and the same keys, and bound as
before; no transport has been let go in between. -/
structure Undisturbed (before after : DtlsSrtpTransport T) : Prop where
  active : after.isSrtpActive = true
  sessionKeys : after.sessionKeys = before.sessionKeys
  sendRtcpSession : after.sendRtcpSession = before.sendRtcpSession
  recvRtcpSession : after.recvRtcpSession = before.recvRtcpSession
  bindings : after.bindings = before.bindings
  trace : ∃ extra, after.trace = before.trace ++ extra ∧ ∀ each ∈ extra, ¬ each.Renews

theorem Undisturbed.trans {first second third : DtlsSrtpTransport T}
    (hfirst : Undisturbed first second) (hsecond : Undisturbed second third) :
    Undisturbed first third := by
  obtain ⟨front, hfront, hquietFront⟩ := hfirst.trace
  obtain ⟨back, hback, hquietBack⟩ := hsecond.trace
  refine ⟨hsecond.active, hsecond.sessionKeys.trans hfirst.sessionKeys,
    hsecond.sendRtcpSession.trans hfirst.sendRtcpSession,
    hsecond.recvRtcpSession.trans hfirst.recvRtcpSession,
    hsecond.bindings.trans hfirst.bindings, front ++ back, ?_, ?_⟩
  · rw [hback, hfront, List.append_assoc]
  · intro each heach
    rcases List.mem_append.mp heach with hmem | hmem
    · exact hquietFront each hmem
    · exact hquietBack each hmem

/-! ## After a reset -/

/-- The transport is inactive, or its sessions have been made since. -/
def Renewed (before after : DtlsSrtpTransport T) : Prop :=
  before.trace <+: after.trace ∧
    (after.isSrtpActive = true → ∃ extra send recv,
      after.trace = before.trace ++ extra ∧ .rtpParams true send recv ∈ extra)

theorem Renewed.not_undisturbed {before after : DtlsSrtpTransport T}
    (hrenewed : Renewed before after) : ¬ Undisturbed before after := by
  intro hsame
  obtain ⟨extra, send, recv, hextra, hmem⟩ := hrenewed.2 hsame.active
  obtain ⟨kept, hkept, hquiet⟩ := hsame.trace
  obtain rfl := List.append_cancel_left (hextra.symm.trans hkept)
  exact hquiet _ hmem rfl

/-- What has been made since an earlier state has been made since a still earlier one. -/
theorem Renewed.of_follows {before middle after : DtlsSrtpTransport T}
    (hfollows : before.trace <+: middle.trace) (hrenewed : Renewed middle after) :
    Renewed before after := by
  refine ⟨hfollows.trans hrenewed.1, fun hactive => ?_⟩
  obtain ⟨front, hfront⟩ := hfollows
  obtain ⟨extra, send, recv, hextra, hmem⟩ := hrenewed.2 hactive
  refine ⟨front ++ extra, send, recv, ?_, List.mem_append_right _ hmem⟩
  rw [hextra, ← hfront, List.append_assoc]

/-- Later sessions do not matter when the present ones are new. -/
theorem Renewed.mono {before middle after : DtlsSrtpTransport T}
    (hrenewed : Renewed before middle) (hfollows : middle.trace <+: after.trace)
    (hactive : middle.isSrtpActive = true) : Renewed before after := by
  refine ⟨hrenewed.1.trans hfollows, fun _ => ?_⟩
  obtain ⟨extra, send, recv, hextra, hmem⟩ := hrenewed.2 hactive
  obtain ⟨back, hback⟩ := hfollows
  refine ⟨extra ++ back, send, recv, ?_, List.mem_append_left _ hmem⟩
  rw [← hback, hextra, List.append_assoc]

theorem prefix_of_sameMux {before after : RtpTransport T} (hsame : SameMux before after) :
    before.trace <+: after.trace := by
  obtain ⟨-, extra, hextra, -⟩ := hsame
  exact ⟨extra, hextra.symm⟩

/-- Keys only add to the trace; an inactive transport becomes active with new sessions. -/
def SetsUp (before after : DtlsSrtpTransport T) : Prop :=
  before.trace <+: after.trace ∧ (before.isSrtpActive = false → Renewed before after)

theorem SetsUp.refl (transport : DtlsSrtpTransport T) : SetsUp transport transport :=
  ⟨List.prefix_rfl, fun hinactive =>
    ⟨List.prefix_rfl, fun hactive => absurd hactive (by simp [hinactive])⟩⟩

section Setup

variable (api : SrtpApi) (inputs : DtlsInputs T)

theorem setsUp_run {transport : DtlsSrtpTransport T} (hkeyed : transport.Keyed)
    (kind : SetupKind) : SetsUp transport (kind.run api inputs transport) := by
  apply run_setup api inputs hkeyed
  · exact SetsUp.refl transport
  · intro _ after hsetup
    cases hsetup with
    | keyed source keys pair _ _ hsend hrecv =>
        obtain ⟨signals, htrace⟩ := transport.trace_keyed inputs source
          (transport.sendParams keys) (transport.recvParams keys) pair
        refine ⟨⟨_, htrace.symm⟩, fun hinactive => ⟨⟨_, htrace.symm⟩, fun _ => ?_⟩⟩
        refine ⟨_, transport.sendParams keys, transport.recvParams keys, htrace, ?_⟩
        simp [hinactive]
    | unchanged => exact SetsUp.refl transport
    | dropped source send recv =>
        have hextracted : transport.trace <+:
            (transport.observe (.extracted source send recv)).trace :=
          List.prefix_append _ _
        have hfollows := hextracted.trans (prefix_of_sameMux (sameMux_resetParams
          inputs.writable (transport.observe (.extracted source send recv))))
        have hinactive := (noKeys_resetParams inputs.writable
          (transport.observe (.extracted source send recv))).not_active
        exact ⟨hfollows, fun _ => ⟨hfollows, fun hactive =>
          absurd hactive (by simp [hinactive])⟩⟩
  · rintro inactive hinactive ⟨hfollows, -⟩
    have hlonger := hfollows.trans
      (prefix_of_sameMux (sameMux_setupRtcpDtlsSrtp api inputs inactive))
    refine ⟨hlonger, fun _ => ⟨hlonger, fun hactive => ?_⟩⟩
    rw [isSrtpActive_setupRtcpDtlsSrtp, hinactive] at hactive
    exact absurd hactive Bool.false_ne_true

variable [DecidableEq T]

theorem prefix_prepare (transport : DtlsSrtpTransport T) (event : DtlsSrtpEvent T) :
    transport.trace <+: (transport.prepare inputs event).1.trace := by
  cases event with
  | setDtlsTransports rtpDtlsTransport rtcpDtlsTransport =>
      exact prefix_of_sameMux <|
        (sameMux_resetForNewTransports inputs transport rtpDtlsTransport).trans
          ((sameMux_bindRtcp inputs.writable _ rtcpDtlsTransport).trans
            (sameMux_bindRtp inputs.writable _ rtpDtlsTransport))
  | setRtcpMuxEnabled enable =>
      obtain ⟨signals, hsignals⟩ :=
        (transport.toRtpTransport.setRtcpMuxEnabled_same enable).trace
      exact (List.prefix_append transport.trace [.rtcpMuxEnabled enable]).trans
        ⟨_, hsignals.symm⟩
  | onDtlsState dtlsTransport state =>
      have htold : transport.trace <+:
          (transport.observe (.dtlsState dtlsTransport state)).trace :=
        List.prefix_append _ _
      simp only [prepare]
      split
      · exact htold.trans (prefix_of_sameMux (sameMux_resetParams inputs.writable _))
      · exact htold
  | updateSendEncryptedHeaderExtensionIds extensionIds =>
      simp only [prepare]
      split <;> exact List.prefix_rfl
  | updateRecvEncryptedHeaderExtensionIds extensionIds =>
      simp only [prepare]
      split <;> exact List.prefix_rfl
  | setActiveResetSrtpParams activeResetSrtpParams => exact List.prefix_rfl
  | onWritableState packetTransport => exact List.prefix_rfl

/-- What has been reset stays disturbed. -/
theorem renewed_step {before transport next : DtlsSrtpTransport T}
    {event : DtlsInputs T × DtlsSrtpEvent T} (hinv : KeysInv transport)
    (hrenewed : Renewed before transport)
    (hstep : step api transport event = some (.ok next)) : Renewed before next := by
  obtain ⟨-, rfl⟩ := (step_eq_ok_iff api).mp hstep
  have hprepared := keysInv_prepare hinv event.1 event.2
  have hfollows := transport.prefix_prepare event.1 event.2
  obtain ⟨hlonger, hnew⟩ := setsUp_run api event.1 hprepared.keyed
    (transport.prepare event.1 event.2).2
  cases hactive : (transport.prepare event.1 event.2).1.isSrtpActive with
  | false => exact (hnew hactive).of_follows (hrenewed.1.trans hfollows)
  | true =>
      rcases transport.prepare_cases event.1 event.2 with hsame | hnone
      · exact hrenewed.mono (hfollows.trans hlonger) (hsame.isSrtpActive ▸ hactive)
      · exact absurd hactive (by simp [hnone.not_active])

/-- Binding the same transports again resets an active transport whose owner wants it. -/
theorem renewed_setDtlsTransports {transport next : DtlsSrtpTransport T}
    {rtpDtlsTransport rtcpDtlsTransport : Option T} (hinv : KeysInv transport)
    (hactive : transport.isSrtpActive = true)
    (hreset : transport.activeResetSrtpParams = true)
    (hstep : step api transport
      (inputs, .setDtlsTransports rtpDtlsTransport rtcpDtlsTransport) = some (.ok next)) :
    Renewed transport next := by
  obtain ⟨-, rfl⟩ := (step_eq_ok_iff api).mp hstep
  have hprepared := keysInv_prepare hinv inputs
    (.setDtlsTransports rtpDtlsTransport rtcpDtlsTransport)
  have hnone : NoKeys (transport.resetForNewTransports inputs rtpDtlsTransport) := by
    rw [resetForNewTransports, hactive, hreset, Bool.or_true, Bool.and_true, if_pos rfl]
    exact noKeys_resetParams inputs.writable transport
  have hinactive := (hnone.of_same
    (transport.bind_same inputs rtpDtlsTransport rtcpDtlsTransport)).not_active
  exact ((setsUp_run api inputs hprepared.keyed _).2 hinactive).of_follows
    (transport.prefix_prepare inputs _)

/-- Otherwise nothing happens. -/
theorem setDtlsTransports_same {transport : DtlsSrtpTransport T}
    {rtpDtlsTransport rtcpDtlsTransport : Option T}
    (hactive : transport.isSrtpActive = true)
    (hreset : transport.activeResetSrtpParams = false)
    (hbound : transport.bindings = transport.bindings.next
      (.setDtlsTransports rtpDtlsTransport rtcpDtlsTransport)) :
    transport.setDtlsTransports api inputs rtpDtlsTransport rtcpDtlsTransport =
      .ok transport := by
  have hrtpPacket : transport.rtpPacketTransport = rtpDtlsTransport :=
    congrArg Bindings.rtpPacketTransport hbound
  have hrtcpPacket : transport.rtcpPacketTransport = rtcpDtlsTransport :=
    congrArg Bindings.rtcpPacketTransport hbound
  have hrtp : transport.rtpDtlsTransport = rtpDtlsTransport :=
    congrArg Bindings.rtpDtlsTransport hbound
  have hrtcp : transport.rtcpDtlsTransport = rtcpDtlsTransport :=
    congrArg Bindings.rtcpDtlsTransport hbound
  have hkeep : transport.resetForNewTransports inputs rtpDtlsTransport = transport := by
    simp [resetForNewTransports, hreset, hrtp]
  have hbindRtcp : transport.bindRtcp inputs.writable rtcpDtlsTransport = transport := by
    subst hrtcp
    simp [bindRtcp, resubscribe, RtpTransport.setRtcpPacketTransport, hrtcpPacket]
  have hbindRtp : transport.bindRtp inputs.writable rtpDtlsTransport = transport := by
    subst hrtp
    simp [bindRtp, resubscribe, RtpTransport.setRtpPacketTransport, hrtpPacket]
  have hsetup : transport.maybeSetupDtlsSrtp api inputs = transport := by
    simp [maybeSetupDtlsSrtp, hactive]
  simp only [setDtlsTransports, hkeep, hrtcp, hbindRtcp, hbindRtp, hsetup]
  simp

end Setup

/-! ## The flag and the extension ids -/

section Flags

variable (api : SrtpApi) (inputs : DtlsInputs T)

theorem setRtcpMuxEnabled_of_active {transport : DtlsSrtpTransport T}
    (hactive : transport.isSrtpActive = true) (enable : Bool) :
    transport.setRtcpMuxEnabled api inputs enable =
      { transport with
        toRtpTransport := transport.toRtpTransport.setRtcpMuxEnabled enable } := by
  have hstays : SrtpTransport.isSrtpActive
      { transport.toSrtpTransport with
        toRtpTransport := transport.toRtpTransport.setRtcpMuxEnabled enable } = true := hactive
  cases enable with
  | false => rfl
  | true => simp [setRtcpMuxEnabled, maybeSetupDtlsSrtp, hstays]

theorem undisturbed_setRtcpMuxEnabled {transport : DtlsSrtpTransport T}
    (hactive : transport.isSrtpActive = true) (hmux : transport.rtcpMuxEnabled = true) :
    Undisturbed transport (transport.setRtcpMuxEnabled api inputs true) := by
  have hset := transport.toRtpTransport.setRtcpMuxEnabled_same true
  obtain ⟨signals, hsignals⟩ := hset.trace
  rw [setRtcpMuxEnabled_of_active api inputs hactive]
  refine ⟨hactive, rfl, rfl, rfl, ?_, .rtcpMuxEnabled true :: signals.map .readyToSend, ?_, ?_⟩
  · simp only [bindings, hset.rtcpMuxEnabled, hset.rtpPacketTransport,
      hset.rtcpPacketTransport, hmux, RtpTransport.observe]
  · rw [hsignals]
    simp [RtpTransport.observe]
  · intro each heach
    rcases List.mem_cons.mp heach with rfl | hmem
    · exact id
    · obtain ⟨ready, -, rfl⟩ := List.mem_map.mp hmem
      exact id

variable [DecidableEq T]

/-- What becomes of an update: ids that are stored already are ignored, new ones are
stored, and lead to new keys when the handshake is complete. -/
theorem handle_update_cases {transport : DtlsSrtpTransport T} {event : DtlsSrtpEvent T}
    (hupdate : event.sendIds?.isSome ∨ event.recvIds?.isSome) :
    (¬ transport.BringsNewIds event ∧ transport.handle api inputs event = .ok transport) ∨
    (transport.BringsNewIds event ∧ ∃ updated : DtlsSrtpTransport T,
      updated.toSrtpTransport = transport.toSrtpTransport ∧
      updated.bindings = transport.bindings ∧
      transport.handle api inputs event =
        .ok (if transport.dtlsHandshakeCompleted inputs.status then
          updated.setupRtpDtlsSrtp api inputs else updated)) := by
  cases event with
  | updateSendEncryptedHeaderExtensionIds extensionIds =>
      by_cases hsame : transport.sendExtensionIds = some extensionIds
      · refine Or.inl ⟨?_, by
          simp [handle, updateSendEncryptedHeaderExtensionIds, hsame]⟩
        rintro ⟨newIds, ⟨hids, hnew⟩ | ⟨hids, -⟩⟩
        · exact hnew (hsame.trans hids)
        · exact absurd hids (by simp [DtlsSrtpEvent.recvIds?])
      · refine Or.inr ⟨⟨extensionIds, Or.inl ⟨rfl, hsame⟩⟩,
          { transport with sendExtensionIds := some extensionIds }, rfl, rfl, ?_⟩
        simp only [handle, updateSendEncryptedHeaderExtensionIds, if_neg hsame]
        rfl
  | updateRecvEncryptedHeaderExtensionIds extensionIds =>
      by_cases hsame : transport.recvExtensionIds = some extensionIds
      · refine Or.inl ⟨?_, by
          simp [handle, updateRecvEncryptedHeaderExtensionIds, hsame]⟩
        rintro ⟨newIds, ⟨hids, -⟩ | ⟨hids, hnew⟩⟩
        · exact absurd hids (by simp [DtlsSrtpEvent.sendIds?])
        · exact hnew (hsame.trans hids)
      · refine Or.inr ⟨⟨extensionIds, Or.inr ⟨rfl, hsame⟩⟩,
          { transport with recvExtensionIds := some extensionIds }, rfl, rfl, ?_⟩
        simp only [handle, updateRecvEncryptedHeaderExtensionIds, if_neg hsame]
        rfl
  | _ => simp [DtlsSrtpEvent.sendIds?, DtlsSrtpEvent.recvIds?] at hupdate

omit [DecidableEq T]

/-- The keys of an update are those that the sessions have, and libsrtp takes them. -/
def RekeysAlike (transport : DtlsSrtpTransport T) (event : DtlsSrtpEvent T) : Prop :=
  transport.BringsNewIds event → transport.dtlsHandshakeCompleted inputs.status = true →
    ∀ source keys, extractParams api inputs.status inputs.rtp.keyExport
        transport.rtpDtlsTransport = some (source, keys) →
      transport.acceptsRtpParams api inputs.rtp.results (transport.sendParams keys)
          (transport.recvParams keys) = true ∧
        transport.sessionKeys =
          some (some (keys.cipherSuite, keys.sendKey), some (keys.cipherSuite, keys.recvKey))

theorem undisturbed_of_srtp {transport updated : DtlsSrtpTransport T}
    (hactive : transport.isSrtpActive = true)
    (hsrtp : updated.toSrtpTransport = transport.toSrtpTransport)
    (hbindings : updated.bindings = transport.bindings) : Undisturbed transport updated := by
  refine ⟨?_, ?_, ?_, ?_, hbindings, [], ?_, by simp⟩
  · rw [hsrtp]
    exact hactive
  · rw [sessionKeys, sessionKeys, hsrtp]
  · rw [hsrtp]
  · rw [hsrtp]
  · rw [hsrtp, List.append_nil]

section Keyed

variable {inputs} {transport : DtlsSrtpTransport T} {source : T} {send recv : SessionParams}
  {pair : SessionPair}

theorem sessionKeys_keyed (hsend : pair.send.keying = some send)
    (hrecv : pair.recv.keying = some recv) :
    (transport.keyed inputs source send recv pair).sessionKeys =
      some (some (send.cipherSuite, send.key), some (recv.cipherSuite, recv.key)) := by
  simp [sessionKeys, SrtpSession.suiteAndKey, hsend, hrecv]

theorem bindings_keyed :
    (transport.keyed inputs source send recv pair).bindings = transport.bindings :=
  bindings_of_srtp (SrtpTransport.packetBinding_maybeUpdateWritableState inputs.writable _)

/-- New keys for old sessions disturb a transport only if they are other keys. -/
theorem undisturbed_keyed_iff (hactive : transport.isSrtpActive = true)
    (hsend : pair.send.keying = some send) (hrecv : pair.recv.keying = some recv) :
    Undisturbed transport (transport.keyed inputs source send recv pair) ↔
      transport.sessionKeys =
        some (some (send.cipherSuite, send.key), some (recv.cipherSuite, recv.key)) := by
  rw [← sessionKeys_keyed hsend hrecv]
  constructor
  · intro hsame
    exact hsame.sessionKeys.symm
  · intro hkeys
    obtain ⟨signals, htrace⟩ := transport.trace_keyed inputs source send recv pair
    refine ⟨by simp [SrtpTransport.isSrtpActive], hkeys.symm, sendRtcpSession_keyed,
      recvRtcpSession_keyed, bindings_keyed, _, htrace, ?_⟩
    rw [hactive]
    intro each heach
    simp only [Bool.not_true, List.mem_cons, List.mem_map] at heach
    rcases heach with rfl | rfl | ⟨signal, -, rfl⟩ <;> simp [Observation.Renews]

end Keyed

theorem setupRtpDtlsSrtp_of_none {api : SrtpApi} {transport : DtlsSrtpTransport T}
    (hextract : extractParams api inputs.status inputs.rtp.keyExport
      transport.rtpDtlsTransport = none) :
    transport.setupRtpDtlsSrtp api inputs = transport := by
  simp only [setupRtpDtlsSrtp, hextract]

/-- Extracted keys go into both sessions, or the transport is inactive afterwards. -/
theorem setupRtpDtlsSrtp_of_some {api : SrtpApi} {transport : DtlsSrtpTransport T} {source : T}
    {keys : ExtractedKeys} (hkeyed : transport.Keyed)
    (hextract : extractParams api inputs.status inputs.rtp.keyExport
      transport.rtpDtlsTransport = some (source, keys)) :
    (transport.acceptsRtpParams api inputs.rtp.results (transport.sendParams keys)
        (transport.recvParams keys) = true ∧
      ∃ pair : SessionPair, pair.send.keying = some (transport.sendParams keys) ∧
        pair.recv.keying = some (transport.recvParams keys) ∧
        transport.setupRtpDtlsSrtp api inputs =
          transport.keyed inputs source (transport.sendParams keys)
            (transport.recvParams keys) pair) ∨
    (transport.acceptsRtpParams api inputs.rtp.results (transport.sendParams keys)
        (transport.recvParams keys) = false ∧
      (transport.setupRtpDtlsSrtp api inputs).isSrtpActive = false) := by
  simp only [setupRtpDtlsSrtp, hextract]
  rcases SrtpTransport.setRtpParams_cases api inputs.writable inputs.rtp.results
      (transport.sendParams keys) (transport.recvParams keys)
      (show (transport.toSrtpTransport.observe (.extracted source
        (transport.sendParams keys) (transport.recvParams keys))).Keyed from hkeyed) with
    ⟨haccepts, pair, hsend, hrecv, heq⟩ | ⟨hrefuses, heq⟩
  · rw [heq]
    exact Or.inl ⟨haccepts, pair, hsend, hrecv, rfl⟩
  · rw [heq]
    exact Or.inr ⟨hrefuses, by simp [SrtpTransport.isSrtpActive]⟩

/-- An update leaves an active transport undisturbed exactly when it does not lead to other
keys. -/
theorem undisturbed_update_iff [DecidableEq T] {transport next : DtlsSrtpTransport T}
    {event : DtlsSrtpEvent T} (hupdate : event.sendIds?.isSome ∨ event.recvIds?.isSome)
    (hkeyed : transport.Keyed) (hactive : transport.isSrtpActive = true)
    (hhandle : transport.handle api inputs event = .ok next) :
    Undisturbed transport next ↔ RekeysAlike api inputs transport event := by
  rcases handle_update_cases api inputs hupdate with
    ⟨hold, hsame⟩ | ⟨hnew, updated, hsrtp, hbindings, hcourse⟩
  · obtain rfl := Except.ok.inj (hsame.symm.trans hhandle)
    exact iff_of_true (undisturbed_of_srtp hactive rfl rfl) fun hnew => absurd hnew hold
  · have hkept := undisturbed_of_srtp hactive hsrtp hbindings
    rw [hcourse] at hhandle
    cases hcompleted : transport.dtlsHandshakeCompleted inputs.status with
    | false =>
        rw [hcompleted, if_neg Bool.false_ne_true] at hhandle
        obtain rfl := Except.ok.inj hhandle
        exact iff_of_true hkept fun _ htrue => absurd (hcompleted.symm.trans htrue) (by simp)
    | true =>
        rw [hcompleted, if_pos rfl] at hhandle
        obtain rfl := Except.ok.inj hhandle
        have hrtp : updated.rtpDtlsTransport = transport.rtpDtlsTransport :=
          congrArg Bindings.rtpDtlsTransport hbindings
        have haccepts : ∀ keys, updated.acceptsRtpParams api inputs.rtp.results
            (updated.sendParams keys) (updated.recvParams keys) =
              transport.acceptsRtpParams api inputs.rtp.results (transport.sendParams keys)
                (transport.recvParams keys) := by
          intro keys
          rw [hsrtp]
          rfl
        cases hextract : extractParams api inputs.status inputs.rtp.keyExport
            updated.rtpDtlsTransport with
        | none =>
            rw [setupRtpDtlsSrtp_of_none inputs hextract]
            refine iff_of_true hkept fun _ _ source keys hother => ?_
            exact absurd ((hrtp ▸ hextract).symm.trans hother) (by simp)
        | some extracted =>
            obtain ⟨source, keys⟩ := extracted
            have hexact := hrtp ▸ hextract
            have hkeyedUpdated : updated.Keyed := by
              rw [hsrtp]
              exact hkeyed
            rcases setupRtpDtlsSrtp_of_some inputs hkeyedUpdated hextract with
              ⟨haccepted, pair, hsend, hrecv, heq⟩ | ⟨hrefused, hinactive⟩
            · rw [heq]
              constructor
              · intro hsame _ _ otherSource otherKeys hother
                obtain ⟨rfl, rfl⟩ := Prod.mk.inj (Option.some.inj (hexact.symm.trans hother))
                exact ⟨(haccepts keys).symm.trans haccepted,
                  (sessionKeys_keyed hsend hrecv ▸ hsame.sessionKeys).symm⟩
              · intro halike
                obtain ⟨-, hkeys⟩ := halike hnew hcompleted source keys hexact
                exact hkept.trans ((undisturbed_keyed_iff hkept.active hsend hrecv).mpr
                  (hkept.sessionKeys.trans hkeys))
            · refine iff_of_false (fun hsame => ?_) fun halike => ?_
              · exact absurd (hinactive.symm.trans hsame.active) Bool.false_ne_true
              · have haccepted := (halike hnew hcompleted source keys hexact).1
                rw [← haccepts keys, hrefused] at haccepted
                exact absurd haccepted Bool.false_ne_true

/-- What is left of an undisturbed course after its first part. -/
theorem Undisturbed.cancel {first second third : DtlsSrtpTransport T}
    (hfirst : Undisturbed first second) (hfollows : second.trace <+: third.trace)
    (hboth : Undisturbed first third) : Undisturbed second third := by
  obtain ⟨front, hfront, -⟩ := hfirst.trace
  obtain ⟨extra, hextra, hquiet⟩ := hboth.trace
  obtain ⟨back, hback⟩ := hfollows
  have hwhole : first.trace ++ extra = first.trace ++ (front ++ back) := by
    rw [← hextra, ← hback, hfront, List.append_assoc]
  have hsplit := List.append_cancel_left hwhole
  refine ⟨hboth.active, hboth.sessionKeys.trans hfirst.sessionKeys.symm,
    hboth.sendRtcpSession.trans hfirst.sendRtcpSession.symm,
    hboth.recvRtcpSession.trans hfirst.recvRtcpSession.symm,
    hboth.bindings.trans hfirst.bindings.symm, back, hback.symm, fun each heach => ?_⟩
  apply hquiet
  rw [hsplit]
  exact List.mem_append_right _ heach

theorem rekeysAlike_setRtcpMuxEnabled {transport : DtlsSrtpTransport T}
    (hmux : transport.rtcpMuxEnabled = true) (event : DtlsSrtpEvent T) :
    RekeysAlike api inputs
        { transport with
          toRtpTransport := transport.toRtpTransport.setRtcpMuxEnabled true } event ↔
      RekeysAlike api inputs transport event := by
  have hset := (transport.toRtpTransport.setRtcpMuxEnabled_same true).rtcpMuxEnabled
  have hcompleted : dtlsHandshakeCompleted inputs.status
      { transport with
        toRtpTransport := transport.toRtpTransport.setRtcpMuxEnabled true } =
        transport.dtlsHandshakeCompleted inputs.status := by
    simp only [dtlsHandshakeCompleted, isDtlsActive, isDtlsConnected, bothPass,
      unmuxedRtcpTransport, hmux, hset, RtpTransport.observe]
  unfold RekeysAlike
  rw [hcompleted]
  rfl

section Course

variable [DecidableEq T]

/-- rtcp-mux set again and an update, on an active transport. -/
theorem undisturbed_flag_update_iff {transport next : DtlsSrtpTransport T}
    {event : DtlsSrtpEvent T} (hupdate : event.sendIds?.isSome ∨ event.recvIds?.isSome)
    (hinv : KeysInv transport) (hactive : transport.isSrtpActive = true)
    (hmux : transport.rtcpMuxEnabled = true) {flagInputs : DtlsInputs T}
    (hhandle : (transport.setRtcpMuxEnabled api flagInputs true).handle api inputs event =
      .ok next) :
    Undisturbed transport next ↔ RekeysAlike api inputs transport event := by
  have hflag := undisturbed_setRtcpMuxEnabled api flagInputs hactive hmux
  have hflagStep : step api transport (flagInputs, .setRtcpMuxEnabled true) =
      some (.ok (transport.setRtcpMuxEnabled api flagInputs true)) := rfl
  have hflagInv := step_keysInv transport _ _ hinv hflagStep
  have hfollows : (transport.setRtcpMuxEnabled api flagInputs true).trace <+: next.trace := by
    obtain ⟨-, rfl⟩ := (step_eq_ok_iff api).mp
      (show step api _ (inputs, event) = some (.ok next) from congrArg some hhandle)
    exact (prefix_prepare inputs _ event).trans
      (setsUp_run api inputs (keysInv_prepare hflagInv inputs event).keyed _).1
  have hrest := undisturbed_update_iff api inputs hupdate hflagInv.keyed hflag.active hhandle
  rw [setRtcpMuxEnabled_of_active api flagInputs hactive,
    rekeysAlike_setRtcpMuxEnabled api inputs hmux] at hrest
  rw [← hrest, ← setRtcpMuxEnabled_of_active api flagInputs hactive]
  exact ⟨hflag.cancel hfollows, hflag.trans⟩

end Course

end Flags

end DtlsSrtpTransport

/-! ## Once more -/

namespace RtpTransport

/-- The ready-to-send flag is what the two directions make of it. -/
def Settled (transport : RtpTransport T) : Prop :=
  transport.readyToSend =
    (transport.rtpReadyToSend && (transport.rtcpReadyToSend || transport.rtcpMuxEnabled))

theorem settled_setRtcpMuxEnabled (transport : RtpTransport T) (enable : Bool) :
    (transport.setRtcpMuxEnabled enable).Settled := by
  simp only [setRtcpMuxEnabled, maybeSignalReadyToSend]
  split
  case isTrue => rfl
  case isFalse hsame => exact (not_not.mp hsame).symm

/-- Setting the flag again is only observed. -/
theorem setRtcpMuxEnabled_of_settled {transport : RtpTransport T}
    (hsettled : transport.Settled) (hmux : transport.rtcpMuxEnabled = true) :
    transport.setRtcpMuxEnabled true = transport.observe (.rtcpMuxEnabled true) := by
  have hsame : { transport with rtcpMuxEnabled := true } = transport := by
    cases transport
    cases hmux
    rfl
  have hready : ((transport.observe (.rtcpMuxEnabled true)).rtpReadyToSend &&
      ((transport.observe (.rtcpMuxEnabled true)).rtcpReadyToSend ||
        (transport.observe (.rtcpMuxEnabled true)).rtcpMuxEnabled)) =
      (transport.observe (.rtcpMuxEnabled true)).readyToSend := hsettled.symm
  rw [setRtcpMuxEnabled, hsame, maybeSignalReadyToSend, if_neg (not_not.mpr hready)]

end RtpTransport

namespace SrtpTransport

theorem settled_maybeUpdateWritableState {transport : SrtpTransport T} (writable : T → Bool)
    (hsettled : transport.toRtpTransport.Settled) :
    (transport.maybeUpdateWritableState writable).toRtpTransport.Settled := by
  obtain ⟨signals, heq⟩ := maybeUpdateWritableState_eq writable transport
  rw [heq]
  exact hsettled

theorem settled_setRtpParams {transport : SrtpTransport T} (writable : T → Bool)
    (api : SrtpApi) (results : PairResults) (send recv : SessionParams)
    (hsettled : transport.toRtpTransport.Settled) :
    (transport.setRtpParams writable api results send recv).1.toRtpTransport.Settled := by
  simp only [setRtpParams]
  split_ifs
  · exact settled_maybeUpdateWritableState writable hsettled
  · exact settled_maybeUpdateWritableState writable hsettled
  · exact settled_maybeUpdateWritableState writable hsettled

end SrtpTransport

namespace DtlsSrtpTransport

variable [DecidableEq T] (api : SrtpApi) (inputs : DtlsInputs T)

theorem settled_update {transport next : DtlsSrtpTransport T} {event : DtlsSrtpEvent T}
    (hupdate : event.sendIds?.isSome ∨ event.recvIds?.isSome)
    (hsettled : transport.toRtpTransport.Settled)
    (hhandle : transport.handle api inputs event = .ok next) :
    next.toRtpTransport.Settled := by
  rcases handle_update_cases api inputs hupdate with
    ⟨-, hsame⟩ | ⟨-, updated, hsrtp, -, hcourse⟩
  · obtain rfl := Except.ok.inj (hsame.symm.trans hhandle)
    exact hsettled
  · obtain rfl := Except.ok.inj (hcourse.symm.trans hhandle)
    have hupdated : updated.toRtpTransport.Settled := by
      rw [hsrtp]
      exact hsettled
    split
    · unfold setupRtpDtlsSrtp
      split
      · exact hupdated
      · exact SrtpTransport.settled_setRtpParams inputs.writable api inputs.rtp.results _ _
          hupdated
    · exact hupdated

/-- The ids of an update are the stored ones afterwards. -/
theorem not_bringsNewIds_of_handle {transport next : DtlsSrtpTransport T}
    {event : DtlsSrtpEvent T} (hhandle : transport.handle api inputs event = .ok next) :
    ¬ next.BringsNewIds event := by
  obtain ⟨hsend, hrecv⟩ := extensionIds_step api
    (show step api transport (inputs, event) = some (.ok next) from congrArg some hhandle)
  rintro ⟨extensionIds, ⟨hids, hnew⟩ | ⟨hids, hnew⟩⟩
  · exact hnew (by rw [hsend, hids, Option.some_or])
  · exact hnew (by rw [hrecv, hids, Option.some_or])

/-- The same flag and the same ids for a settled transport are only observed. -/
theorem flag_update_again {transport next : DtlsSrtpTransport T} {event : DtlsSrtpEvent T}
    (hupdate : event.sendIds?.isSome ∨ event.recvIds?.isSome)
    (hactive : transport.isSrtpActive = true)
    (hsettled : transport.toRtpTransport.Settled) (hmux : transport.rtcpMuxEnabled = true)
    (hold : ¬ transport.BringsNewIds event) {flagInputs : DtlsInputs T}
    (hhandle : (transport.setRtcpMuxEnabled api flagInputs true).handle api inputs event =
      .ok next) :
    next = transport.observe (.rtcpMuxEnabled true) := by
  rw [setRtcpMuxEnabled_of_active api flagInputs hactive,
    RtpTransport.setRtcpMuxEnabled_of_settled hsettled hmux] at hhandle
  have hstill : ¬ BringsNewIds
      { transport with
        toRtpTransport := transport.toRtpTransport.observe (.rtcpMuxEnabled true) } event := hold
  rcases handle_update_cases api inputs hupdate with ⟨-, hsame⟩ | ⟨hnew, -⟩
  · exact (Except.ok.inj (hsame.symm.trans hhandle)).symm
  · exact absurd hnew hstill

end DtlsSrtpTransport

end PeerConnection.Srtp
