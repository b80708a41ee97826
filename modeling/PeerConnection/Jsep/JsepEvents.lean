import PeerConnection.Jsep.DescriptionCalls

/-!
# Events of a JSEP transport

Its owner sets descriptions, a certificate and flags, and its transports report what
happens.  The process goes on after a call that returns an error.
-/

namespace PeerConnection.Jsep

open PeerConnection.Sdp
open PeerConnection.Srtp
open PeerConnection.Runs

variable {T : Type*}

/-- What can happen to a transport besides the calls that set descriptions. -/
inductive JsepUpdate (T : Type*) where
  | setLocalCertificate (localCertificate : Option Certificate)
  | setNeedsIceRestartFlag
  | setActiveResetSrtpParams (activeResetSrtpParams : Bool)
  | onDtlsState (dtlsTransport : T) (state : DtlsTransportState) (inputs : DtlsInputs T)
  | onWritableState (inputs : DtlsInputs T)
  | onReadyToSend (packetTransport : T)

inductive JsepEvent (T : Type*) where
  | setDescription (source : ContentSource) (description : JsepTransportDescription)
      (type : SdpType) (inputs : JsepInputs T)
  | update (update : JsepUpdate T)

namespace AnyRtpTransport

variable (api : SrtpApi)

def setActiveResetSrtpParams (activeResetSrtpParams : Bool) :
    AnyRtpTransport T → AnyRtpTransport T
  | .unencrypted rtp => .unencrypted rtp
  | .sdes srtp => .sdes srtp
  | .dtlsSrtp dtls => .dtlsSrtp (dtls.setActiveResetSrtpParams activeResetSrtpParams)

/-- The states of DTLS transports are signalled to a DTLS-SRTP transport only. -/
def onDtlsState (inputs : DtlsInputs T) (dtlsTransport : T) (state : DtlsTransportState) :
    AnyRtpTransport T → AnyRtpTransport T
  | .unencrypted rtp => .unencrypted rtp
  | .sdes srtp => .sdes srtp
  | .dtlsSrtp dtls => .dtlsSrtp (dtls.onDtlsState api inputs dtlsTransport state)

/-- `OnWritableState` is virtual. -/
def onWritableState (inputs : DtlsInputs T) : AnyRtpTransport T → AnyRtpTransport T
  | .unencrypted rtp => .unencrypted (rtp.onWritableState inputs.writable)
  | .sdes srtp => .sdes (srtp.onWritableState inputs.writable)
  | .dtlsSrtp dtls => .dtlsSrtp (dtls.onWritableState api inputs)

def onReadyToSend [DecidableEq T] (packetTransport : T) :
    AnyRtpTransport T → AnyRtpTransport T
  | .unencrypted rtp => .unencrypted (rtp.onReadyToSend packetTransport)
  | .sdes srtp =>
      .sdes { srtp with toRtpTransport := srtp.toRtpTransport.onReadyToSend packetTransport }
  | .dtlsSrtp dtls =>
      .dtlsSrtp { dtls with toRtpTransport := dtls.toRtpTransport.onReadyToSend packetTransport }

theorem sameRtcpHold_setActiveResetSrtpParams (rtpTransport : AnyRtpTransport T)
    (activeResetSrtpParams : Bool) :
    rtpTransport.SameRtcpHold (rtpTransport.setActiveResetSrtpParams activeResetSrtpParams) := by
  cases rtpTransport <;> exact ⟨rfl, rfl, rfl, rfl⟩

theorem sameRtcpHold_onDtlsState (rtpTransport : AnyRtpTransport T) (inputs : DtlsInputs T)
    (dtlsTransport : T) (state : DtlsTransportState) :
    rtpTransport.SameRtcpHold (rtpTransport.onDtlsState api inputs dtlsTransport state) := by
  cases rtpTransport with
  | unencrypted rtp => exact SameRtcpHold.refl _
  | sdes srtp => exact SameRtcpHold.refl _
  | dtlsSrtp dtls =>
      exact sameRtcpHold_of_binding
        (dtls.sameRtcpBinding_onDtlsState api inputs dtlsTransport state)

theorem sameRtcpHold_onWritableState (rtpTransport : AnyRtpTransport T)
    (inputs : DtlsInputs T) :
    rtpTransport.SameRtcpHold (rtpTransport.onWritableState api inputs) := by
  cases rtpTransport with
  | unencrypted rtp => exact ⟨rfl, rfl, rfl, rfl⟩
  | sdes srtp => exact ⟨rfl, rfl, rfl, rfl⟩
  | dtlsSrtp dtls =>
      exact sameRtcpHold_of_binding (dtls.sameRtcpBinding_maybeSetupDtlsSrtp api inputs)

theorem sameRtcpHold_onReadyToSend [DecidableEq T] (rtpTransport : AnyRtpTransport T)
    (packetTransport : T) :
    rtpTransport.SameRtcpHold (rtpTransport.onReadyToSend packetTransport) := by
  have hready := RtpTransport.setReadyToSend_same rtpTransport.rtp
    (some packetTransport = rtpTransport.rtp.rtcpPacketTransport) true
  cases rtpTransport with
  | unencrypted rtp => exact ⟨hready.rtcpMuxEnabled, hready.rtcpPacketTransport, rfl, rfl⟩
  | sdes srtp => exact ⟨hready.rtcpMuxEnabled, hready.rtcpPacketTransport, rfl, rfl⟩
  | dtlsSrtp dtls => exact ⟨hready.rtcpMuxEnabled, hready.rtcpPacketTransport, rfl, rfl⟩

end AnyRtpTransport

namespace JsepTransport

variable [DecidableEq T] (api : JsepApi)

def update (transport : JsepTransport T) : JsepUpdate T → JsepTransport T
  | .setLocalCertificate localCertificate =>
      { transport with localCertificate := localCertificate }
  | .setNeedsIceRestartFlag => { transport with needsIceRestart := true }
  | .setActiveResetSrtpParams activeResetSrtpParams =>
      { transport with
        rtpTransport := transport.rtpTransport.setActiveResetSrtpParams activeResetSrtpParams }
  | .onDtlsState dtlsTransport state inputs =>
      { transport with
        rtpTransport := transport.rtpTransport.onDtlsState api.srtp inputs dtlsTransport state }
  | .onWritableState inputs =>
      { transport with rtpTransport := transport.rtpTransport.onWritableState api.srtp inputs }
  | .onReadyToSend packetTransport =>
      { transport with rtpTransport := transport.rtpTransport.onReadyToSend packetTransport }

def handle (transport : JsepTransport T) : JsepEvent T → Except JsepAbort (JsepTransport T)
  | .setDescription source description type inputs =>
      (transport.setDescription inputs api source description type).map Prod.fst
  | .update update => .ok (transport.update api update)

/-- Events in any order; a refused description leaves what the call has left. -/
def step : System (JsepTransport T) (JsepEvent T) JsepAbort := fun transport event =>
  some (transport.handle api event)

/-- The rtcp-mux negotiation, what holds the RTCP transport and the activations so far are
what they were. -/
structure SameMux (before after : JsepTransport T) : Prop where
  rtcpMuxNegotiator : after.rtcpMuxNegotiator = before.rtcpMuxNegotiator
  rtcpDtlsTransport : after.rtcpDtlsTransport = before.rtcpDtlsTransport
  rtpTransport : before.rtpTransport.SameRtcpHold after.rtpTransport
  activated : .rtcpMuxActiveCallback ∈ after.calls → .rtcpMuxActiveCallback ∈ before.calls

omit [DecidableEq T] in
theorem SameMux.refl (transport : JsepTransport T) : SameMux transport transport :=
  ⟨rfl, rfl, AnyRtpTransport.SameRtcpHold.refl _, id⟩

theorem sameMux_update (transport : JsepTransport T) (update : JsepUpdate T) :
    SameMux transport (transport.update api update) := by
  cases update with
  | setLocalCertificate => exact ⟨rfl, rfl, AnyRtpTransport.SameRtcpHold.refl _, id⟩
  | setNeedsIceRestartFlag => exact ⟨rfl, rfl, AnyRtpTransport.SameRtcpHold.refl _, id⟩
  | setActiveResetSrtpParams =>
      exact ⟨rfl, rfl, AnyRtpTransport.sameRtcpHold_setActiveResetSrtpParams _ _, id⟩
  | onDtlsState =>
      exact ⟨rfl, rfl, AnyRtpTransport.sameRtcpHold_onDtlsState _ _ _ _ _, id⟩
  | onWritableState => exact ⟨rfl, rfl, AnyRtpTransport.sameRtcpHold_onWritableState _ _ _, id⟩
  | onReadyToSend => exact ⟨rfl, rfl, AnyRtpTransport.sameRtcpHold_onReadyToSend _ _, id⟩

end JsepTransport

end PeerConnection.Jsep
