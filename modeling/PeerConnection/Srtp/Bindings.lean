import PeerConnection.Srtp.DtlsEvents

/-!
# The bindings of a DTLS-SRTP transport

The pointers to the transports, the rtcp-mux flag and the flag of the owner follow the
events by a rule of their own, whatever happens to the keys.
-/

namespace PeerConnection.Srtp

open PeerConnection.Runs

variable {T : Type*}

structure Bindings (T : Type*) where
  rtpPacketTransport : Option T
  rtcpPacketTransport : Option T
  rtpDtlsTransport : Option T
  rtcpDtlsTransport : Option T
  rtcpMuxEnabled : Bool
  activeResetSrtpParams : Bool
  deriving DecidableEq, Repr

/-- Transports are bound together, and each flag is set by its own event. -/
def Bindings.next (bindings : Bindings T) : DtlsSrtpEvent T → Bindings T
  | .setDtlsTransports rtpDtlsTransport rtcpDtlsTransport =>
      { bindings with
        rtpPacketTransport := rtpDtlsTransport
        rtcpPacketTransport := rtcpDtlsTransport
        rtpDtlsTransport := rtpDtlsTransport
        rtcpDtlsTransport := rtcpDtlsTransport }
  | .setActiveResetSrtpParams activeResetSrtpParams =>
      { bindings with activeResetSrtpParams := activeResetSrtpParams }
  | .setRtcpMuxEnabled enable => { bindings with rtcpMuxEnabled := enable }
  | .updateSendEncryptedHeaderExtensionIds _ | .updateRecvEncryptedHeaderExtensionIds _
  | .onDtlsState _ _ | .onWritableState _ => bindings

namespace SrtpTransport

/-- What `RtpTransport` keeps besides its signals. -/
def packetBinding (transport : SrtpTransport T) : Bool × Option T × Option T :=
  (transport.rtcpMuxEnabled, transport.rtpPacketTransport, transport.rtcpPacketTransport)

variable (writable : T → Bool) (transport : SrtpTransport T)

theorem packetBinding_maybeUpdateWritableState :
    (transport.maybeUpdateWritableState writable).packetBinding = transport.packetBinding := by
  obtain ⟨signals, heq⟩ := maybeUpdateWritableState_eq writable transport
  rw [heq]
  rfl

theorem packetBinding_resetParams :
    (transport.resetParams writable).packetBinding = transport.packetBinding :=
  packetBinding_maybeUpdateWritableState writable _

theorem packetBinding_setRtpParams (api : SrtpApi) (results : PairResults)
    (send recv : SessionParams) :
    (transport.setRtpParams writable api results send recv).1.packetBinding =
      transport.packetBinding := by
  simp only [setRtpParams]
  split_ifs
  · exact packetBinding_resetParams writable transport
  · exact packetBinding_resetParams writable transport
  · exact packetBinding_maybeUpdateWritableState writable _

theorem packetBinding_setRtcpParams (api : SrtpApi) (results : PairResults)
    (send recv : SessionParams) :
    (transport.setRtcpParams writable api results send recv).1.packetBinding =
      transport.packetBinding := by
  simp only [setRtcpParams]
  split_ifs
  · rfl
  · rfl
  · rfl
  · exact packetBinding_maybeUpdateWritableState writable _

end SrtpTransport

namespace DtlsSrtpTransport

def bindings (transport : DtlsSrtpTransport T) : Bindings T where
  rtpPacketTransport := transport.rtpPacketTransport
  rtcpPacketTransport := transport.rtcpPacketTransport
  rtpDtlsTransport := transport.rtpDtlsTransport
  rtcpDtlsTransport := transport.rtcpDtlsTransport
  rtcpMuxEnabled := transport.rtcpMuxEnabled
  activeResetSrtpParams := transport.activeResetSrtpParams

/-- Only the layer below has changed, and nothing in its bindings. -/
theorem bindings_of_srtp {transport : DtlsSrtpTransport T} {after : SrtpTransport T}
    (hsame : after.packetBinding = transport.toSrtpTransport.packetBinding) :
    bindings { transport with toSrtpTransport := after } = transport.bindings := by
  obtain ⟨hmux, hpackets⟩ := Prod.mk.inj hsame
  obtain ⟨hrtp, hrtcp⟩ := Prod.mk.inj hpackets
  simp only [bindings, hmux, hrtp, hrtcp]

section Setup

variable (api : SrtpApi) (inputs : DtlsInputs T) (transport : DtlsSrtpTransport T)

theorem bindings_setupRtpDtlsSrtp :
    (transport.setupRtpDtlsSrtp api inputs).bindings = transport.bindings := by
  unfold setupRtpDtlsSrtp
  split
  · rfl
  · exact bindings_of_srtp (SrtpTransport.packetBinding_setRtpParams inputs.writable
      (transport.toSrtpTransport.observe _) api inputs.rtp.results _ _)

theorem bindings_setupRtcpDtlsSrtp :
    (transport.setupRtcpDtlsSrtp api inputs).bindings = transport.bindings := by
  unfold setupRtcpDtlsSrtp
  split
  · rfl
  split
  · rfl
  · exact bindings_of_srtp (SrtpTransport.packetBinding_setRtcpParams inputs.writable
      (transport.toSrtpTransport.observe _) api inputs.rtcp.results _ _)

theorem bindings_run (kind : SetupKind) :
    (kind.run api inputs transport).bindings = transport.bindings := by
  have hrtp := bindings_setupRtpDtlsSrtp api inputs transport
  cases kind with
  | none => rfl
  | rtp => exact hrtp
  | maybe =>
      simp only [SetupKind.run, maybeSetupDtlsSrtp]
      split_ifs
      · rfl
      · exact (bindings_setupRtcpDtlsSrtp api inputs _).trans hrtp
      · exact hrtp

theorem bindings_resetParams (writable : T → Bool) :
    (transport.resetParams writable).bindings = transport.bindings :=
  bindings_of_srtp (SrtpTransport.packetBinding_resetParams writable transport.toSrtpTransport)

variable [DecidableEq T]

theorem bindings_resubscribe (old new : Option T) :
    (transport.resubscribe old new).bindings = transport.bindings := by
  unfold resubscribe
  split <;> rfl

theorem bindings_bindRtcp (writable : T → Bool) (rtcpDtlsTransport : Option T) :
    (transport.bindRtcp writable rtcpDtlsTransport).bindings =
      { transport.bindings with
        rtcpPacketTransport := rtcpDtlsTransport
        rtcpDtlsTransport := rtcpDtlsTransport } := by
  have hsubscribed :=
    transport.bindings_resubscribe transport.rtcpDtlsTransport rtcpDtlsTransport
  have hset := RtpTransport.setRtcpPacketTransport_same writable
    (transport.resubscribe transport.rtcpDtlsTransport rtcpDtlsTransport).toRtpTransport
    rtcpDtlsTransport
  rw [← hsubscribed]
  simp only [bindings, bindRtcp, hset.rtcpMuxEnabled, hset.rtpPacketTransport,
    hset.rtcpPacketTransport]

theorem bindings_bindRtp (writable : T → Bool) (rtpDtlsTransport : Option T) :
    (transport.bindRtp writable rtpDtlsTransport).bindings =
      { transport.bindings with
        rtpPacketTransport := rtpDtlsTransport
        rtpDtlsTransport := rtpDtlsTransport } := by
  have hsubscribed :=
    transport.bindings_resubscribe transport.rtpDtlsTransport rtpDtlsTransport
  have hset := RtpTransport.setRtpPacketTransport_same writable
    (transport.resubscribe transport.rtpDtlsTransport rtpDtlsTransport).toRtpTransport
    rtpDtlsTransport
  rw [← hsubscribed]
  simp only [bindings, bindRtp, hset.rtcpMuxEnabled, hset.rtpPacketTransport,
    hset.rtcpPacketTransport]

theorem bindings_prepare (event : DtlsSrtpEvent T) :
    (transport.prepare inputs event).1.bindings = transport.bindings.next event := by
  cases event with
  | setDtlsTransports rtpDtlsTransport rtcpDtlsTransport =>
      have hreset : (transport.resetForNewTransports inputs rtpDtlsTransport).bindings =
          transport.bindings := by
        unfold resetForNewTransports
        split
        · exact transport.bindings_resetParams inputs.writable
        · rfl
      simp only [prepare, bindings_bindRtp, bindings_bindRtcp, hreset, Bindings.next]
  | setActiveResetSrtpParams activeResetSrtpParams => rfl
  | setRtcpMuxEnabled enable =>
      have hswitched := transport.toRtpTransport.setRtcpMuxEnabled_same enable
      simp only [prepare, bindings, Bindings.next, hswitched.rtcpMuxEnabled,
        hswitched.rtpPacketTransport, hswitched.rtcpPacketTransport]
      rfl
  | updateSendEncryptedHeaderExtensionIds extensionIds =>
      simp only [prepare]
      split <;> rfl
  | updateRecvEncryptedHeaderExtensionIds extensionIds =>
      simp only [prepare]
      split <;> rfl
  | onDtlsState dtlsTransport state =>
      simp only [prepare]
      split
      · exact bindings_resetParams (transport.observe (.dtlsState dtlsTransport state))
          inputs.writable
      · rfl
  | onWritableState packetTransport => rfl

theorem bindings_step {next : DtlsSrtpTransport T} {event : DtlsInputs T × DtlsSrtpEvent T}
    (hstep : step api transport event = some (.ok next)) :
    next.bindings = transport.bindings.next event.2 := by
  obtain ⟨-, rfl⟩ := (step_eq_ok_iff api).mp hstep
  rw [bindings_run, bindings_prepare]

/-- The bindings after a run are those that its events make. -/
theorem bindings_events {final : DtlsSrtpTransport T}
    {events : List (DtlsInputs T × DtlsSrtpEvent T)}
    (hrun : Runs.run (step api) transport events = some (.ok final)) :
    final.bindings =
      events.foldl (fun bindings event => bindings.next event.2) transport.bindings :=
  run_projection (fun before _ _ hstep => bindings_step api before hstep) hrun

end Setup

end DtlsSrtpTransport

end PeerConnection.Srtp
