import PeerConnection.Srtp.DtlsSrtpTransport

/-!
# What holds the RTCP transport

Keys come and go without a change of the bindings.  The pointers to the RTCP transport
change where transports are bound, and the rtcp-mux flag where it is set, and nowhere else.
-/

namespace PeerConnection.Srtp

variable {T : Type*}

/-- The flag and the RTCP packet transport are what they were. -/
structure SameRtcp (before after : RtpTransport T) : Prop where
  rtcpMuxEnabled : after.rtcpMuxEnabled = before.rtcpMuxEnabled
  rtcpPacketTransport : after.rtcpPacketTransport = before.rtcpPacketTransport

theorem SameRtcp.refl (transport : RtpTransport T) : SameRtcp transport transport :=
  ⟨rfl, rfl⟩

theorem SameRtcp.trans {first second third : RtpTransport T} (hfirst : SameRtcp first second)
    (hsecond : SameRtcp second third) : SameRtcp first third :=
  ⟨hsecond.rtcpMuxEnabled.trans hfirst.rtcpMuxEnabled,
    hsecond.rtcpPacketTransport.trans hfirst.rtcpPacketTransport⟩

namespace SrtpTransport

variable (writable : T → Bool) (transport : SrtpTransport T)

theorem sameRtcp_maybeUpdateWritableState :
    SameRtcp transport.toRtpTransport
      (transport.maybeUpdateWritableState writable).toRtpTransport := by
  obtain ⟨signals, heq⟩ := maybeUpdateWritableState_eq writable transport
  rw [heq]
  exact ⟨rfl, rfl⟩

theorem sameRtcp_resetParams :
    SameRtcp transport.toRtpTransport (transport.resetParams writable).toRtpTransport :=
  sameRtcp_maybeUpdateWritableState writable
    { transport with
      sessions := none
      sendRtcpSession := none
      recvRtcpSession := none }

theorem sameRtcp_setRtpParams (api : SrtpApi) (results : PairResults)
    (send recv : SessionParams) :
    SameRtcp transport.toRtpTransport
      (transport.setRtpParams writable api results send recv).1.toRtpTransport := by
  simp only [setRtpParams]
  split_ifs
  · exact sameRtcp_resetParams writable transport
  · exact sameRtcp_resetParams writable transport
  · have hupdated := sameRtcp_maybeUpdateWritableState writable
      ({ transport with
        sessions := some
          { send := (transport.keySend api results send).1
            recv := (transport.keyRecv api results recv).1 } }.observe
        (.rtpParams (!transport.isSrtpActive) send recv))
    exact ⟨hupdated.rtcpMuxEnabled, hupdated.rtcpPacketTransport⟩

theorem sameRtcp_setRtcpParams (api : SrtpApi) (results : PairResults)
    (send recv : SessionParams) :
    SameRtcp transport.toRtpTransport
      (transport.setRtcpParams writable api results send recv).1.toRtpTransport := by
  simp only [setRtcpParams]
  split_ifs
  · exact SameRtcp.refl _
  · exact SameRtcp.refl _
  · exact SameRtcp.refl _
  · have hupdated := sameRtcp_maybeUpdateWritableState writable
      ({ transport with
        sendRtcpSession := some (SrtpSession.setSend api results.send {} send).1
        recvRtcpSession := some (SrtpSession.setRecv api results.recv {} recv).1 }.observe
        (.rtcpParams send recv))
    exact ⟨hupdated.rtcpMuxEnabled, hupdated.rtcpPacketTransport⟩

end SrtpTransport

namespace DtlsSrtpTransport

/-- The flag and both pointers to the RTCP transport are what they were. -/
structure SameRtcpBinding (before after : DtlsSrtpTransport T) : Prop where
  packet : SameRtcp before.toRtpTransport after.toRtpTransport
  rtcpDtlsTransport : after.rtcpDtlsTransport = before.rtcpDtlsTransport

theorem SameRtcpBinding.refl (transport : DtlsSrtpTransport T) :
    SameRtcpBinding transport transport :=
  ⟨SameRtcp.refl _, rfl⟩

theorem SameRtcpBinding.trans {first second third : DtlsSrtpTransport T}
    (hfirst : SameRtcpBinding first second) (hsecond : SameRtcpBinding second third) :
    SameRtcpBinding first third :=
  ⟨hfirst.packet.trans hsecond.packet,
    hsecond.rtcpDtlsTransport.trans hfirst.rtcpDtlsTransport⟩

variable (api : SrtpApi) (inputs : DtlsInputs T) (transport : DtlsSrtpTransport T)

theorem sameRtcpBinding_setupRtpDtlsSrtp :
    SameRtcpBinding transport (transport.setupRtpDtlsSrtp api inputs) := by
  rw [setupRtpDtlsSrtp]
  split
  case h_1 => exact SameRtcpBinding.refl transport
  case h_2 source keys _ =>
    have hset := SrtpTransport.sameRtcp_setRtpParams inputs.writable
      (transport.toSrtpTransport.observe
        (.extracted source (transport.sendParams keys) (transport.recvParams keys)))
      api inputs.rtp.results (transport.sendParams keys) (transport.recvParams keys)
    exact ⟨⟨hset.rtcpMuxEnabled, hset.rtcpPacketTransport⟩, rfl⟩

theorem sameRtcpBinding_setupRtcpDtlsSrtp :
    SameRtcpBinding transport (transport.setupRtcpDtlsSrtp api inputs) := by
  rw [setupRtcpDtlsSrtp]
  split_ifs
  · exact SameRtcpBinding.refl transport
  · split
    case h_1 => exact SameRtcpBinding.refl transport
    case h_2 source keys _ =>
      have hset := SrtpTransport.sameRtcp_setRtcpParams inputs.writable
        (transport.toSrtpTransport.observe
          (.extracted source (transport.sendParams keys) (transport.recvParams keys)))
        api inputs.rtcp.results (transport.sendParams keys) (transport.recvParams keys)
      exact ⟨⟨hset.rtcpMuxEnabled, hset.rtcpPacketTransport⟩, rfl⟩

theorem sameRtcpBinding_maybeSetupDtlsSrtp :
    SameRtcpBinding transport (transport.maybeSetupDtlsSrtp api inputs) := by
  simp only [maybeSetupDtlsSrtp]
  split_ifs
  · exact SameRtcpBinding.refl transport
  · exact (sameRtcpBinding_setupRtpDtlsSrtp api inputs transport).trans
      (sameRtcpBinding_setupRtcpDtlsSrtp api inputs _)
  · exact sameRtcpBinding_setupRtpDtlsSrtp api inputs transport

theorem sameRtcpBinding_updateSendEncryptedHeaderExtensionIds (extensionIds : List ℤ) :
    SameRtcpBinding transport
      (transport.updateSendEncryptedHeaderExtensionIds api inputs extensionIds) := by
  have hupdated : SameRtcpBinding transport
      { transport with sendExtensionIds := some extensionIds } := ⟨SameRtcp.refl _, rfl⟩
  simp only [updateSendEncryptedHeaderExtensionIds]
  split_ifs
  · exact SameRtcpBinding.refl transport
  · exact hupdated.trans (sameRtcpBinding_setupRtpDtlsSrtp api inputs _)
  · exact hupdated

theorem sameRtcpBinding_updateRecvEncryptedHeaderExtensionIds (extensionIds : List ℤ) :
    SameRtcpBinding transport
      (transport.updateRecvEncryptedHeaderExtensionIds api inputs extensionIds) := by
  have hupdated : SameRtcpBinding transport
      { transport with recvExtensionIds := some extensionIds } := ⟨SameRtcp.refl _, rfl⟩
  simp only [updateRecvEncryptedHeaderExtensionIds]
  split_ifs
  · exact SameRtcpBinding.refl transport
  · exact hupdated.trans (sameRtcpBinding_setupRtpDtlsSrtp api inputs _)
  · exact hupdated

theorem sameRtcpBinding_onDtlsState (dtlsTransport : T) (state : DtlsTransportState) :
    SameRtcpBinding transport (transport.onDtlsState api inputs dtlsTransport state) := by
  have htold : SameRtcpBinding transport
      (transport.observe (.dtlsState dtlsTransport state)) := ⟨⟨rfl, rfl⟩, rfl⟩
  simp only [onDtlsState]
  split_ifs
  · exact htold.trans ⟨SrtpTransport.sameRtcp_resetParams inputs.writable _, rfl⟩
  · exact htold.trans (sameRtcpBinding_maybeSetupDtlsSrtp api inputs _)

/-- The flag is set, and the pointers stay. -/
theorem setRtcpMuxEnabled_rtcp (enable : Bool) :
    let after := transport.setRtcpMuxEnabled api inputs enable
    after.rtcpMuxEnabled = enable ∧ after.rtcpPacketTransport = transport.rtcpPacketTransport ∧
      after.rtcpDtlsTransport = transport.rtcpDtlsTransport := by
  have hswitched := RtpTransport.setRtcpMuxEnabled_same transport.toRtpTransport enable
  simp only [setRtcpMuxEnabled]
  split_ifs
  · have hsetup := sameRtcpBinding_maybeSetupDtlsSrtp api inputs { transport with
      toRtpTransport := transport.toRtpTransport.setRtcpMuxEnabled enable }
    exact ⟨hsetup.packet.rtcpMuxEnabled.trans hswitched.rtcpMuxEnabled,
      hsetup.packet.rtcpPacketTransport.trans hswitched.rtcpPacketTransport,
      hsetup.rtcpDtlsTransport⟩
  · exact ⟨hswitched.rtcpMuxEnabled, hswitched.rtcpPacketTransport, rfl⟩

variable [DecidableEq T]

theorem sameRtcpBinding_resetForNewTransports (rtpDtlsTransport : Option T) :
    SameRtcpBinding transport
      (transport.resetForNewTransports inputs rtpDtlsTransport) := by
  rw [resetForNewTransports]
  split_ifs
  · exact ⟨SrtpTransport.sameRtcp_resetParams inputs.writable _, rfl⟩
  · exact SameRtcpBinding.refl transport

theorem resubscribe_rtcp (old new : Option T) :
    SameRtcpBinding transport (transport.resubscribe old new) := by
  rw [resubscribe]
  split_ifs
  · exact SameRtcpBinding.refl transport
  · exact ⟨⟨rfl, rfl⟩, rfl⟩

theorem bindRtcp_rtcp (writable : T → Bool) (rtcpDtlsTransport : Option T) :
    let bound := transport.bindRtcp writable rtcpDtlsTransport
    bound.rtcpMuxEnabled = transport.rtcpMuxEnabled ∧
      bound.rtcpPacketTransport = rtcpDtlsTransport ∧
      bound.rtcpDtlsTransport = rtcpDtlsTransport := by
  have hsubscribed :=
    transport.resubscribe_rtcp transport.rtcpDtlsTransport rtcpDtlsTransport
  have hset := RtpTransport.setRtcpPacketTransport_same writable
    (transport.resubscribe transport.rtcpDtlsTransport rtcpDtlsTransport).toRtpTransport
    rtcpDtlsTransport
  exact ⟨hset.rtcpMuxEnabled.trans hsubscribed.packet.rtcpMuxEnabled,
    hset.rtcpPacketTransport, rfl⟩

theorem sameRtcpBinding_bindRtp (writable : T → Bool) (rtpDtlsTransport : Option T) :
    SameRtcpBinding transport (transport.bindRtp writable rtpDtlsTransport) := by
  have hsubscribed := transport.resubscribe_rtcp transport.rtpDtlsTransport rtpDtlsTransport
  have hset := RtpTransport.setRtpPacketTransport_same writable
    (transport.resubscribe transport.rtpDtlsTransport rtpDtlsTransport).toRtpTransport
    rtpDtlsTransport
  exact ⟨⟨hset.rtcpMuxEnabled.trans hsubscribed.packet.rtcpMuxEnabled,
    hset.rtcpPacketTransport.trans hsubscribed.packet.rtcpPacketTransport⟩,
    hsubscribed.rtcpDtlsTransport⟩

/-- Both pointers lead to the RTCP transport that has been bound. -/
theorem setDtlsTransports_rtcp {transport bound : DtlsSrtpTransport T}
    {rtpDtlsTransport rtcpDtlsTransport : Option T}
    (hbound : transport.setDtlsTransports api inputs rtpDtlsTransport rtcpDtlsTransport =
      .ok bound) :
    bound.rtcpMuxEnabled = transport.rtcpMuxEnabled ∧
      bound.rtcpPacketTransport = rtcpDtlsTransport ∧
      bound.rtcpDtlsTransport = rtcpDtlsTransport := by
  simp only [setDtlsTransports] at hbound
  split_ifs at hbound
  obtain rfl := Except.ok.inj hbound
  have hreset := transport.sameRtcpBinding_resetForNewTransports inputs rtpDtlsTransport
  obtain ⟨hmux, hpacket, hdtls⟩ :=
    (transport.resetForNewTransports inputs rtpDtlsTransport).bindRtcp_rtcp inputs.writable
      rtcpDtlsTransport
  have hlater := (sameRtcpBinding_bindRtp
    ((transport.resetForNewTransports inputs rtpDtlsTransport).bindRtcp inputs.writable
      rtcpDtlsTransport) inputs.writable rtpDtlsTransport).trans
    (sameRtcpBinding_maybeSetupDtlsSrtp api inputs _)
  exact ⟨hlater.packet.rtcpMuxEnabled.trans (hmux.trans hreset.packet.rtcpMuxEnabled),
    hlater.packet.rtcpPacketTransport.trans hpacket, hlater.rtcpDtlsTransport.trans hdtls⟩

end DtlsSrtpTransport

end PeerConnection.Srtp
