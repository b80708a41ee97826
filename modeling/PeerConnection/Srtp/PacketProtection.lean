import PeerConnection.Srtp.DtlsEvents

/-!
# Protecting packets

`SrtpSession` hands each packet to libsrtp, which works in the buffer of the packet.  What
libsrtp appends is known in advance from the lengths that the session has stored with its
last key, so that a packet is refused that its buffer has no room for.
-/

namespace PeerConnection.Srtp

open PeerConnection.Text
open PeerConnection.Runs

/-- `libmedia_transfer_protocol::RtpPacketType`. -/
inductive RtpPacketType where
  | rtp
  | rtcp
  | unknown
  deriving DecidableEq, Repr

/-- libsrtp with its streams as one packet finds them, and the RTP utilities.  Their code is
not in this repository; `none` is an error status. -/
structure PacketApi where
  srtpProtect : SrtpPolicy → Bytes → Option Bytes := fun _ packet => some packet
  srtpProtectRtcp : SrtpPolicy → Bytes → Option Bytes := fun _ packet => some packet
  srtpUnprotect : SrtpPolicy → Bytes → Option Bytes := fun _ packet => some packet
  srtpUnprotectRtcp : SrtpPolicy → Bytes → Option Bytes := fun _ packet => some packet
  inferRtpPacketType : Bytes → RtpPacketType := fun _ => .rtp
  isValidRtpPacketSize : RtpPacketType → ℕ → Bool := fun _ _ => true

/-- `sizeof(uint32_t)`: the index that SRTCP appends. -/
def srtcpIndexLen : ℕ := 4

namespace SrtpSession

variable (packets : PacketApi)

/-- `maxLen` is the capacity of the buffer. -/
def protectRtp (maxLen : ℕ) (session : SrtpSession) (packet : Bytes) : Option Bytes :=
  match session.session with
  | none => none
  | some policy =>
      let needLen := packet.length + session.rtpAuthTagLen
      if maxLen < needLen then none else packets.srtpProtect policy packet

def protectRtcp (maxLen : ℕ) (session : SrtpSession) (packet : Bytes) : Option Bytes :=
  match session.session with
  | none => none
  | some policy =>
      let needLen := packet.length + srtcpIndexLen + session.rtcpAuthTagLen
      if maxLen < needLen then none else packets.srtpProtectRtcp policy packet

def unprotectRtp (session : SrtpSession) (packet : Bytes) : Option Bytes :=
  session.session.bind fun policy => packets.srtpUnprotect policy packet

def unprotectRtcp (session : SrtpSession) (packet : Bytes) : Option Bytes :=
  session.session.bind fun policy => packets.srtpUnprotectRtcp policy packet

def getSrtpOverhead (session : SrtpSession) : ℕ :=
  session.rtpAuthTagLen

end SrtpSession

namespace SrtpTransport

variable {T : Type*}

/-- `none` for a transport that is not active. -/
def getSrtpOverhead (transport : SrtpTransport T) : Option ℕ :=
  transport.sessions.map (·.send.getSrtpOverhead)

end SrtpTransport

/-! ## What the sessions of a transport have stored -/

namespace SrtpSession

/-- The session takes packets of its own direction, libsrtp authenticates them, and the
lengths are those of the suite that libsrtp has accepted last. -/
structure Sound (api : SrtpApi) (type : SsrcType) (session : SrtpSession) : Prop where
  externalAuthEnabled : session.externalAuthEnabled = false
  policy : ∀ policy, session.session = some policy →
    policy.ssrcType = type ∧ policy.externalHmac = false ∧
      ∃ rtp rtcp, api.policyFromProfileForRtp policy.params.cipherSuite = some rtp ∧
        api.policyFromProfileForRtcp policy.params.cipherSuite = some rtcp ∧
        session.rtpAuthTagLen = rtp.authTagLen ∧ session.rtcpAuthTagLen = rtcp.authTagLen

variable {api : SrtpApi} {type : SsrcType} {session : SrtpSession}

theorem Sound.fresh (api : SrtpApi) (type : SsrcType) : Sound api type {} :=
  ⟨rfl, fun _ hpolicy => absurd hpolicy (by simp)⟩

theorem Sound.doSetKey (hsound : Sound api type session) (results : LibsrtpResults)
    (params : SessionParams) :
    Sound api type (SrtpSession.doSetKey api results session type params).1 := by
  unfold SrtpSession.doSetKey
  split
  case h_1 rtp rtcp hrtp hrtcp =>
    split
    · exact hsound
    · split
      case isTrue =>
        refine ⟨hsound.externalAuthEnabled, fun policy hpolicy => ?_⟩
        obtain rfl := Option.some.inj hpolicy
        exact ⟨rfl, by simp [hsound.externalAuthEnabled], rtp, rtcp, hrtp, hrtcp, rfl, rfl⟩
      case isFalse => exact hsound
  case h_2 => exact hsound

theorem Sound.setKey (hsound : Sound api type session) (results : LibsrtpResults)
    (params : SessionParams) :
    Sound api type (SrtpSession.setKey api results session type params).1 := by
  have hinited : Sound api type { session with inited := true } :=
    ⟨hsound.externalAuthEnabled, hsound.policy⟩
  unfold SrtpSession.setKey
  split_ifs
  · exact hsound
  · exact hinited.doSetKey results params
  · exact hsound

theorem Sound.updateKey (hsound : Sound api type session) (results : LibsrtpResults)
    (params : SessionParams) :
    Sound api type (SrtpSession.updateKey api results session type params).1 := by
  unfold SrtpSession.updateKey
  split_ifs
  · exact hsound.doSetKey results params
  · exact hsound

end SrtpSession

namespace SrtpTransport

variable {T : Type*}

/-- All sessions that the transport holds are sound; nothing has asked for external
authentication. -/
structure SoundSessions (api : SrtpApi) (transport : SrtpTransport T) : Prop where
  externalAuthEnabled : transport.externalAuthEnabled = false
  sessions : ∀ pair, transport.sessions = some pair →
    pair.send.Sound api .anyOutbound ∧ pair.recv.Sound api .anyInbound
  sendRtcpSession : ∀ session, transport.sendRtcpSession = some session →
    session.Sound api .anyOutbound
  recvRtcpSession : ∀ session, transport.recvRtcpSession = some session →
    session.Sound api .anyInbound

section Operations

variable {api : SrtpApi} {writable : T → Bool} {transport : SrtpTransport T}

theorem SoundSessions.observe (hsound : transport.SoundSessions api)
    (observation : Observation T) : (transport.observe observation).SoundSessions api :=
  ⟨hsound.externalAuthEnabled, hsound.sessions, hsound.sendRtcpSession,
    hsound.recvRtcpSession⟩

theorem SoundSessions.maybeUpdateWritableState (hsound : transport.SoundSessions api) :
    (transport.maybeUpdateWritableState writable).SoundSessions api := by
  obtain ⟨signals, heq⟩ := maybeUpdateWritableState_eq writable transport
  rw [heq]
  exact ⟨hsound.externalAuthEnabled, hsound.sessions, hsound.sendRtcpSession,
    hsound.recvRtcpSession⟩

theorem SoundSessions.resetParams (hsound : transport.SoundSessions api) :
    (transport.resetParams writable).SoundSessions api := by
  have hcleared : SoundSessions api
      { transport with sessions := none, sendRtcpSession := none, recvRtcpSession := none } :=
    ⟨hsound.externalAuthEnabled, by simp, by simp, by simp⟩
  exact hcleared.maybeUpdateWritableState

theorem SoundSessions.keySend (hsound : transport.SoundSessions api) (results : PairResults)
    (send : SessionParams) :
    (transport.keySend api results send).1.Sound api .anyOutbound := by
  unfold SrtpTransport.keySend
  split
  · have hfresh : transport.createSrtpSessions.send = {} := by
      simp [createSrtpSessions, hsound.externalAuthEnabled]
    rw [hfresh]
    exact (SrtpSession.Sound.fresh api .anyOutbound).setKey results.send send
  case h_2 pair hpair => exact (hsound.sessions pair hpair).1.updateKey results.send send

theorem SoundSessions.keyRecv (hsound : transport.SoundSessions api) (results : PairResults)
    (recv : SessionParams) :
    (transport.keyRecv api results recv).1.Sound api .anyInbound := by
  unfold SrtpTransport.keyRecv
  split
  · exact (SrtpSession.Sound.fresh api .anyInbound).setKey results.recv recv
  case h_2 pair hpair => exact (hsound.sessions pair hpair).2.updateKey results.recv recv

theorem SoundSessions.setRtpParams (hsound : transport.SoundSessions api)
    (results : PairResults) (send recv : SessionParams) :
    (transport.setRtpParams writable api results send recv).1.SoundSessions api := by
  simp only [SrtpTransport.setRtpParams]
  split_ifs
  · exact hsound.resetParams
  · exact hsound.resetParams
  · have hkeyed : SoundSessions api { transport with
        sessions := some
          { send := (transport.keySend api results send).1
            recv := (transport.keyRecv api results recv).1 } } := by
      refine ⟨hsound.externalAuthEnabled, fun pair hpair => ?_, hsound.sendRtcpSession,
        hsound.recvRtcpSession⟩
      obtain rfl := Option.some.inj hpair
      exact ⟨hsound.keySend results send, hsound.keyRecv results recv⟩
    exact (hkeyed.observe _).maybeUpdateWritableState

theorem SoundSessions.setRtcpParams (hsound : transport.SoundSessions api)
    (results : PairResults) (send recv : SessionParams) :
    (transport.setRtcpParams writable api results send recv).1.SoundSessions api := by
  have hsend := (SrtpSession.Sound.fresh api .anyOutbound).setKey results.send send
  have hrecv := (SrtpSession.Sound.fresh api .anyInbound).setKey results.recv recv
  have hwithSend : SoundSessions api { transport with
      sendRtcpSession := some (SrtpSession.setSend api results.send {} send).1 } := by
    refine ⟨hsound.externalAuthEnabled, hsound.sessions, fun session hsession => ?_,
      hsound.recvRtcpSession⟩
    obtain rfl := Option.some.inj hsession
    exact hsend
  have hwithBoth : SoundSessions api { transport with
      sendRtcpSession := some (SrtpSession.setSend api results.send {} send).1
      recvRtcpSession := some (SrtpSession.setRecv api results.recv {} recv).1 } := by
    refine ⟨hsound.externalAuthEnabled, hsound.sessions, hwithSend.sendRtcpSession,
      fun session hsession => ?_⟩
    obtain rfl := Option.some.inj hsession
    exact hrecv
  simp only [SrtpTransport.setRtcpParams]
  split_ifs
  · exact hsound
  · exact hwithSend
  · exact hwithBoth
  · exact (hwithBoth.observe _).maybeUpdateWritableState

end Operations

end SrtpTransport

namespace DtlsSrtpTransport

variable {T : Type*}

/-- The sessions of a DTLS-SRTP transport. -/
abbrev SoundSessions (api : SrtpApi) (transport : DtlsSrtpTransport T) : Prop :=
  transport.toSrtpTransport.SoundSessions api

section Setup

variable {api : SrtpApi} {transport : DtlsSrtpTransport T}

theorem SoundSessions.setupRtpDtlsSrtp (hsound : transport.SoundSessions api)
    (inputs : DtlsInputs T) :
    (transport.setupRtpDtlsSrtp api inputs).SoundSessions api := by
  unfold DtlsSrtpTransport.setupRtpDtlsSrtp
  split
  · exact hsound
  · exact (SrtpTransport.SoundSessions.observe hsound _).setRtpParams _ _ _

theorem SoundSessions.setupRtcpDtlsSrtp (hsound : transport.SoundSessions api)
    (inputs : DtlsInputs T) :
    (transport.setupRtcpDtlsSrtp api inputs).SoundSessions api := by
  unfold DtlsSrtpTransport.setupRtcpDtlsSrtp
  split
  · exact hsound
  · split
    · exact hsound
    · exact (SrtpTransport.SoundSessions.observe hsound _).setRtcpParams _ _ _

theorem SoundSessions.run (hsound : transport.SoundSessions api) (inputs : DtlsInputs T)
    (kind : SetupKind) : (kind.run api inputs transport).SoundSessions api := by
  cases kind with
  | none => exact hsound
  | rtp => exact hsound.setupRtpDtlsSrtp inputs
  | maybe =>
      simp only [SetupKind.run, maybeSetupDtlsSrtp]
      split_ifs
      · exact hsound
      · exact (hsound.setupRtpDtlsSrtp inputs).setupRtcpDtlsSrtp inputs
      · exact hsound.setupRtpDtlsSrtp inputs

/-- Sessions that are gone or as they were are sound. -/
theorem SoundSessions.of_prepared {after : DtlsSrtpTransport T}
    (hsound : transport.SoundSessions api)
    (hauth : after.externalAuthEnabled = transport.externalAuthEnabled)
    (hprepared : SameKeys transport after ∨ NoKeys after) : after.SoundSessions api := by
  refine ⟨hauth.trans hsound.externalAuthEnabled, ?_, ?_, ?_⟩
  · intro pair hpair
    rcases hprepared with hsame | hnone
    · exact hsound.sessions pair (hsame.sessions ▸ hpair)
    · exact absurd (hnone.sessions.symm.trans hpair) (by simp)
  · intro session hsession
    rcases hprepared with hsame | hnone
    · exact hsound.sendRtcpSession session (hsame.sendRtcpSession ▸ hsession)
    · exact absurd (hnone.sendRtcpSession.symm.trans hsession) (by simp)
  · intro session hsession
    rcases hprepared with hsame | hnone
    · exact hsound.recvRtcpSession session (hsame.recvRtcpSession ▸ hsession)
    · exact absurd (hnone.recvRtcpSession.symm.trans hsession) (by simp)

@[simp]
theorem externalAuthEnabled_resetParams (writable : T → Bool)
    (transport : DtlsSrtpTransport T) :
    (transport.resetParams writable).externalAuthEnabled = transport.externalAuthEnabled := by
  obtain ⟨signals, heq⟩ := SrtpTransport.maybeUpdateWritableState_eq writable
    { transport.toSrtpTransport with
      sessions := none, sendRtcpSession := none, recvRtcpSession := none }
  simp only [resetParams, SrtpTransport.resetParams, heq]

variable [DecidableEq T]

theorem externalAuthEnabled_prepare (inputs : DtlsInputs T) (transport : DtlsSrtpTransport T)
    (event : DtlsSrtpEvent T) :
    (transport.prepare inputs event).1.externalAuthEnabled =
      transport.externalAuthEnabled := by
  cases event with
  | setDtlsTransports rtpDtlsTransport rtcpDtlsTransport =>
      simp only [prepare, bindRtp, bindRtcp, resubscribe, resetForNewTransports]
      split_ifs <;> simp
  | setActiveResetSrtpParams activeResetSrtpParams => rfl
  | setRtcpMuxEnabled enable => rfl
  | updateSendEncryptedHeaderExtensionIds extensionIds =>
      simp only [prepare]
      split <;> rfl
  | updateRecvEncryptedHeaderExtensionIds extensionIds =>
      simp only [prepare]
      split <;> rfl
  | onDtlsState dtlsTransport state =>
      simp only [prepare]
      split
      · rw [externalAuthEnabled_resetParams]
        rfl
      · rfl
  | onWritableState packetTransport => rfl

theorem step_soundSessions (transport : DtlsSrtpTransport T)
    (event : DtlsInputs T × DtlsSrtpEvent T) (next : DtlsSrtpTransport T)
    (hsound : transport.SoundSessions api)
    (hstep : step api transport event = some (.ok next)) : next.SoundSessions api := by
  obtain ⟨-, rfl⟩ := (step_eq_ok_iff api).mp hstep
  have hprepared := hsound.of_prepared
    (externalAuthEnabled_prepare event.1 transport event.2)
    (transport.prepare_cases event.1 event.2)
  exact hprepared.run event.1 (transport.prepare event.1 event.2).2

omit [DecidableEq T] in
theorem soundSessions_create (api : SrtpApi) (rtcpMuxEnabled : Bool) :
    (create rtcpMuxEnabled : DtlsSrtpTransport T).SoundSessions api :=
  ⟨rfl, by simp [create], by simp [create], by simp [create]⟩

end Setup

end DtlsSrtpTransport

/-! ## The room that a packet needs -/

/-- What libsrtp appends to a packet of a known suite. -/
structure PacketApi.Documented (packets : PacketApi) (api : SrtpApi) : Prop where
  srtpProtect : ∀ policy crypto packet protectedPacket,
    api.policyFromProfileForRtp policy.params.cipherSuite = some crypto →
    packets.srtpProtect policy packet = some protectedPacket →
    protectedPacket.length = packet.length + crypto.authTagLen
  srtpProtectRtcp : ∀ policy crypto packet protectedPacket,
    api.policyFromProfileForRtcp policy.params.cipherSuite = some crypto →
    packets.srtpProtectRtcp policy packet = some protectedPacket →
    protectedPacket.length = packet.length + srtcpIndexLen + crypto.authTagLen

namespace SrtpSession

variable {api : SrtpApi} {packets : PacketApi} {type : SsrcType} {session : SrtpSession}
  {maxLen : ℕ} {packet protectedPacket : Bytes}

theorem length_protectRtp (hdocumented : packets.Documented api)
    (hsound : session.Sound api type)
    (hprotect : session.protectRtp packets maxLen packet = some protectedPacket) :
    protectedPacket.length = packet.length + session.getSrtpOverhead ∧
      protectedPacket.length ≤ maxLen := by
  unfold protectRtp at hprotect
  split at hprotect
  · exact absurd hprotect (by simp)
  case h_2 policy hpolicy =>
    obtain ⟨-, -, rtp, -, hrtp, -, hlength, -⟩ := hsound.policy policy hpolicy
    simp only at hprotect
    split at hprotect
    · exact absurd hprotect (by simp)
    case isFalse hroom =>
      have hprotected := hdocumented.srtpProtect policy rtp packet _ hrtp hprotect
      rw [← hlength] at hprotected
      refine ⟨hprotected, ?_⟩
      omega

theorem length_protectRtcp (hdocumented : packets.Documented api)
    (hsound : session.Sound api type)
    (hprotect : session.protectRtcp packets maxLen packet = some protectedPacket) :
    protectedPacket.length ≤ maxLen := by
  unfold protectRtcp at hprotect
  split at hprotect
  · exact absurd hprotect (by simp)
  case h_2 policy hpolicy =>
    obtain ⟨-, -, -, rtcp, -, hrtcp, -, hlength⟩ := hsound.policy policy hpolicy
    simp only at hprotect
    split at hprotect
    · exact absurd hprotect (by simp)
    case isFalse hroom =>
      have hprotected := hdocumented.srtpProtectRtcp policy rtcp packet _ hrtcp hprotect
      rw [← hlength] at hprotected
      omega

end SrtpSession

/-! ## A sample -/

/-- Packets get a tag of zeros; version and payload type tell what a packet is. -/
def taggingPackets : PacketApi where
  srtpProtect policy packet :=
    (registeredSrtpApi.policyFromProfileForRtp policy.params.cipherSuite).map fun crypto =>
      packet ++ List.replicate crypto.authTagLen 0
  srtpProtectRtcp policy packet :=
    (registeredSrtpApi.policyFromProfileForRtcp policy.params.cipherSuite).map fun crypto =>
      packet ++ List.replicate (srtcpIndexLen + crypto.authTagLen) 0
  srtpUnprotect policy data :=
    (registeredSrtpApi.policyFromProfileForRtp policy.params.cipherSuite).map fun crypto =>
      data.take (data.length - crypto.authTagLen)
  srtpUnprotectRtcp policy data :=
    (registeredSrtpApi.policyFromProfileForRtcp policy.params.cipherSuite).map fun crypto =>
      data.take (data.length - (srtcpIndexLen + crypto.authTagLen))
  inferRtpPacketType data :=
    match data with
    | first :: second :: _ =>
        if first / 64 ≠ 2 then .unknown
        else if 64 ≤ second % 128 ∧ second % 128 < 96 then .rtcp
        else if 12 ≤ data.length then .rtp
        else .unknown
    | _ => .unknown
  isValidRtpPacketSize type length :=
    match type with
    | .rtp => 12 ≤ length && length ≤ 2048
    | .rtcp => 4 ≤ length && length ≤ 2048
    | .unknown => false

def numberedPacket (number : Byte) : Bytes :=
  [128, 96, 0, number, 0, 0, 0, 0, 0, 0, 0, 1]

theorem documented_taggingPackets : taggingPackets.Documented registeredSrtpApi := by
  refine ⟨?_, ?_⟩
  · intro policy crypto packet protectedPacket hcrypto hprotect
    simp only [taggingPackets, hcrypto, Option.map_some, Option.some.injEq] at hprotect
    subst hprotect
    simp
  · intro policy crypto packet protectedPacket hcrypto hprotect
    simp only [taggingPackets, hcrypto, Option.map_some, Option.some.injEq] at hprotect
    subst hprotect
    simp [Nat.add_assoc]

end PeerConnection.Srtp
