import PeerConnection.Jsep.PacketSending
import PeerConnection.Srtp.Readiness

/-!
# Who is ready to send

A packet transport is ready when it is bound and writable, or when it says so; it is not ready
after it has answered `ENOTCONN` to a packet.  `SendPacket` blames such an answer on the
direction of the packet: with rtcp-mux an RTCP packet is refused by the transport for RTP, and
the flag for RTCP is taken back.
-/

namespace PeerConnection.Srtp

open PeerConnection.Text
open PeerConnection.Runs

variable {T : Type*}

namespace RtpTransport

variable (inputs : SendInputs T)

/-- The packet transport that answers `ENOTCONN` to the packet. -/
def refusedBy (transport : RtpTransport T) (rtcp : Bool) (packet : Bytes) : Option T :=
  (transport.packetTransport rtcp).filter fun packetTransport =>
    inputs.sendPacket packetTransport packet ≠ packet.length ∧
      inputs.notConnected packetTransport

variable {inputs}

/-- What becomes of the flags. -/
theorem sendPacket_ok {transport : RtpTransport T} {rtcp : Bool} {packet : Bytes}
    {sent : RtpTransport T × Bool} (hsend : transport.sendPacket inputs rtcp packet = .ok sent) :
    sent.1 =
      if (transport.refusedBy inputs rtcp packet).isSome then transport.setReadyToSend rtcp false
      else transport := by
  rw [sendPacket] at hsend
  split at hsend
  · exact absurd hsend (by simp)
  case h_2 packetTransport hpointer =>
    rw [refusedBy, hpointer]
    split_ifs at hsend with hlength hconnection
    · simp [← Except.ok.inj hsend, hlength, hconnection]
    · simp [← Except.ok.inj hsend, hconnection]
    · simp [← Except.ok.inj hsend, not_not.mp hlength]

theorem packetTransport_of_refusedBy {transport : RtpTransport T} {rtcp : Bool}
    {packet : Bytes} {packetTransport : T}
    (hrefused : transport.refusedBy inputs rtcp packet = some packetTransport) :
    transport.packetTransport rtcp = some packetTransport :=
  (Option.filter_eq_some_iff.mp hrefused).1

/-- The flag that is taken back is the right one, unless rtcp-mux has led an RTCP packet
astray. -/
theorem knows_setReadyToSend_iff [DecidableEq T] {transport : RtpTransport T}
    {lastWord : T → Bool} {rtcp : Bool} {packetTransport : T}
    (hknows : transport.Knows lastWord) (hapart : transport.Apart)
    (hpointer : transport.packetTransport rtcp = some packetTransport) :
    (transport.setReadyToSend rtcp false).Knows
        (Function.update lastWord packetTransport false) ↔
      (rtcp = true → transport.rtcpMuxEnabled = true →
        lastWord packetTransport = false ∧
          transport.rtcpPacketTransport.any lastWord = false) := by
  have hpointers := transport.setReadyToSend_same rtcp false
  have hflags : (transport.setReadyToSend rtcp false).Knows
        (Function.update lastWord packetTransport false) ↔
      (if rtcp then transport.rtpReadyToSend else false) =
          (if transport.rtpPacketTransport = some packetTransport then false
            else transport.rtpPacketTransport.any lastWord) ∧
        (if rtcp then false else transport.rtcpReadyToSend) =
          (if transport.rtcpPacketTransport = some packetTransport then false
            else transport.rtcpPacketTransport.any lastWord) := by
    rw [← any_update, ← any_update, ← hpointers.rtpPacketTransport,
      ← hpointers.rtcpPacketTransport, ← rtpReadyToSend_setReadyToSend,
      ← rtcpReadyToSend_setReadyToSend]
    exact ⟨fun hafter => ⟨hafter.rtp, hafter.rtcp⟩, fun hafter => ⟨hafter.1, hafter.2⟩⟩
  rw [hflags]
  rw [RtpTransport.packetTransport] at hpointer
  by_cases hown : (rtcp && !transport.rtcpMuxEnabled) = true
  · -- RTCP has a transport of its own, which is the one that refuses
    rw [if_pos hown] at hpointer
    have hrtp : transport.rtpPacketTransport ≠ some packetTransport :=
      fun hrtp => hapart packetTransport hrtp hpointer
    obtain ⟨rfl, hmux⟩ := Bool.and_eq_true_iff.mp hown
    have hunmuxed : transport.rtcpMuxEnabled = false := by simpa using hmux
    simp [hrtp, hpointer, hunmuxed, hknows.rtp]
  · rw [if_neg hown] at hpointer
    have hrtcp : transport.rtcpPacketTransport ≠ some packetTransport :=
      hapart packetTransport hpointer
    cases rtcp with
    | false => simp [hpointer, hrtcp, hknows.rtcp]
    | true =>
        have hmuxed : transport.rtcpMuxEnabled = true := by simpa using hown
        simp only [hpointer, hrtcp, hmuxed, hknows.rtp, if_true, if_false, Option.any_some,
          forall_const]
        exact and_congr_right fun _ => eq_comm

end RtpTransport

/-- A packet that SRTP keeps back changes nothing. -/
theorem SrtpTransport.sendProtected_ok {inputs : SendInputs T} {transport : SrtpTransport T}
    {rtcp : Bool} {packet : Bytes} {sent : SrtpTransport T × Bool}
    (hsend : transport.sendProtected inputs rtcp packet = .ok sent) :
    sent.1.toRtpTransport =
      if ((transport.outgoing inputs rtcp packet).bind
          (transport.toRtpTransport.refusedBy inputs rtcp)).isSome then
        transport.toRtpTransport.setReadyToSend rtcp false
      else transport.toRtpTransport := by
  rw [sendProtected] at hsend
  cases houtgoing : transport.outgoing inputs rtcp packet with
  | none =>
      rw [houtgoing] at hsend
      rw [← Except.ok.inj hsend]
      rfl
  | some outgoing =>
      rw [houtgoing] at hsend
      obtain ⟨delivered, hdelivered, rfl⟩ := except_map_eq_ok_iff.mp hsend
      exact RtpTransport.sendPacket_ok hdelivered

end PeerConnection.Srtp

namespace PeerConnection.Jsep

open PeerConnection.Text
open PeerConnection.Sdp
open PeerConnection.Srtp
open PeerConnection.Runs

variable {T : Type*}

namespace AnyRtpTransport

/-- The packet as it comes to `SendPacket`, if it gets there. -/
def outgoing (inputs : SendInputs T) (rtcp : Bool) (packet : Bytes) :
    AnyRtpTransport T → Option Bytes
  | .unencrypted _ => some packet
  | .sdes srtp => srtp.outgoing inputs rtcp packet
  | .dtlsSrtp dtls => dtls.toSrtpTransport.outgoing inputs rtcp packet

/-- The packet transport that answers `ENOTCONN` to the packet. -/
def refusedBy (inputs : SendInputs T) (rtcp : Bool) (packet : Bytes)
    (rtpTransport : AnyRtpTransport T) : Option T :=
  (rtpTransport.outgoing inputs rtcp packet).bind (rtpTransport.rtp.refusedBy inputs rtcp)

/-- Whoever refuses the packet has been asked for it. -/
theorem packetTransport_of_refusedBy {inputs : SendInputs T} {rtcp : Bool} {packet : Bytes}
    {rtpTransport : AnyRtpTransport T} {packetTransport : T}
    (hrefused : rtpTransport.refusedBy inputs rtcp packet = some packetTransport) :
    rtpTransport.rtp.packetTransport rtcp = some packetTransport := by
  obtain ⟨outgoing, -, hfilter⟩ := Option.bind_eq_some_iff.mp hrefused
  exact RtpTransport.packetTransport_of_refusedBy hfilter

/-- Sending touches the flag of the direction that the packet goes in. -/
theorem rtp_sendPacket {inputs : SendInputs T} {rtcp : Bool} {packet : Bytes}
    {rtpTransport next : AnyRtpTransport T} {sent : Bool}
    (hsend : rtpTransport.sendPacket inputs rtcp packet = .ok (next, sent)) :
    next.rtp =
      if (rtpTransport.refusedBy inputs rtcp packet).isSome then
        rtpTransport.rtp.setReadyToSend rtcp false
      else rtpTransport.rtp := by
  cases rtpTransport with
  | unencrypted rtp =>
      have hrtp : (rtp.sendPacket inputs rtcp packet).map
          (fun sent => ((.unencrypted sent.1 : AnyRtpTransport T), sent.2)) =
            .ok (next, sent) := by
        cases rtcp <;> exact hsend
      obtain ⟨delivered, hdelivered, hnext⟩ := except_map_eq_ok_iff.mp hrtp
      obtain ⟨rfl, -⟩ := Prod.mk.inj hnext
      exact RtpTransport.sendPacket_ok hdelivered
  | sdes srtp =>
      have hsrtp : (srtp.sendProtected inputs rtcp packet).map
          (fun sent => ((.sdes sent.1 : AnyRtpTransport T), sent.2)) = .ok (next, sent) := by
        cases rtcp <;> exact hsend
      obtain ⟨delivered, hdelivered, hnext⟩ := except_map_eq_ok_iff.mp hsrtp
      obtain ⟨rfl, -⟩ := Prod.mk.inj hnext
      exact SrtpTransport.sendProtected_ok hdelivered
  | dtlsSrtp dtls =>
      have hsrtp : (dtls.toSrtpTransport.sendProtected inputs rtcp packet).map
          (fun sent => ((.dtlsSrtp { dtls with toSrtpTransport := sent.1 } : AnyRtpTransport T),
            sent.2)) = .ok (next, sent) := by
        cases rtcp <;> exact hsend
      obtain ⟨delivered, hdelivered, hnext⟩ := except_map_eq_ok_iff.mp hsrtp
      obtain ⟨rfl, -⟩ := Prod.mk.inj hnext
      exact SrtpTransport.sendProtected_ok hdelivered

theorem rtp_onReadyToSend [DecidableEq T] (rtpTransport : AnyRtpTransport T)
    (packetTransport : T) :
    (rtpTransport.onReadyToSend packetTransport).rtp =
      rtpTransport.rtp.onReadyToSend packetTransport := by
  cases rtpTransport <;> rfl

end AnyRtpTransport

/-! ## What the packet transports have said -/

structure WatchedSender (T : Type*) where
  sender : Sender T
  /-- Whether a packet transport has said last that it is ready. -/
  lastWord : T → Bool

namespace WatchedSender

variable [DecidableEq T]

def rtp (watched : WatchedSender T) : RtpTransport T :=
  watched.sender.transport.rtpTransport.rtp

/-- A packet transport that is not bound is not listened to. -/
def listens (watched : WatchedSender T) : SenderEvent T → Bool
  | .jsep (.update (.onReadyToSend packetTransport)) =>
      some packetTransport = watched.rtp.rtpPacketTransport ∨
        some packetTransport = watched.rtp.rtcpPacketTransport
  | _ => true

def hearRefusal (watched : WatchedSender T) (inputs : SendInputs T) (rtcp : Bool)
    (packet : Bytes) : T → Bool :=
  match watched.sender.transport.rtpTransport.refusedBy inputs rtcp packet with
  | none => watched.lastWord
  | some packetTransport => Function.update watched.lastWord packetTransport false

def hear (watched : WatchedSender T) : SenderEvent T → T → Bool
  | .jsep (.update (.onReadyToSend packetTransport)) =>
      Function.update watched.lastWord packetTransport true
  | .jsep _ => watched.lastWord
  | .sendRtpPacket inputs packet => watched.hearRefusal inputs false packet
  | .sendRtcpPacket inputs packet => watched.hearRefusal inputs true packet

def step (api : JsepApi) : System (WatchedSender T) (SenderEvent T) SenderFault :=
  fun watched event =>
    if watched.listens event then
      (watched.sender.step api event).map <| Except.map fun next =>
        { sender := next, lastWord := watched.hear event }
    else none

/-- The flags say of each direction what its packet transport has said last. -/
structure Truthful (watched : WatchedSender T) : Prop where
  announced : watched.rtp.Announced
  knows : watched.rtp.Knows watched.lastWord

omit [DecidableEq T] in
/-- The last signal is what the packet transports in use have said last. -/
theorem Truthful.lastSignal {watched : WatchedSender T} (htruthful : Truthful watched) :
    (readySignals watched.rtp.trace).getLastD false =
      (watched.rtp.rtpPacketTransport.any watched.lastWord &&
        (watched.rtp.rtcpPacketTransport.any watched.lastWord ||
          watched.rtp.rtcpMuxEnabled)) :=
  htruthful.announced.reports.last.trans (htruthful.knows.readyToSend htruthful.announced)

/-- An RTCP packet that rtcp-mux has sent to the transport for RTP is refused only when
nobody counts as ready. -/
def RefusedApart (watched : WatchedSender T) (event : SenderEvent T) : Prop :=
  ∀ inputs packet packetTransport, event = .sendRtcpPacket inputs packet →
    watched.rtp.rtcpMuxEnabled = true →
    watched.sender.transport.rtpTransport.refusedBy inputs true packet = some packetTransport →
    watched.lastWord packetTransport = false ∧
      watched.rtp.rtcpPacketTransport.any watched.lastWord = false

end WatchedSender

/-! ## What a description leaves of the flags -/

/-- The only transports that a description binds are the one for RTP and none for RTCP. -/
theorem JsepTransport.bound_of_mem_drivenEvents [DecidableEq T] {inputs : JsepInputs T}
    {transport : JsepTransport T} {source : ContentSource}
    {description : JsepTransportDescription} {type : SdpType}
    {event : DtlsInputs T × DtlsSrtpEvent T} {rtpDtlsTransport rtcpDtlsTransport : Option T}
    (hmem : event ∈ transport.drivenEvents inputs source description type)
    (hbind : event.2 = .setDtlsTransports rtpDtlsTransport rtcpDtlsTransport) :
    rtpDtlsTransport = some transport.rtpDtlsTransport ∧ rtcpDtlsTransport = none := by
  rcases List.mem_append.mp hmem with hactivate | hrest
  · split_ifs at hactivate
    · obtain rfl := List.mem_singleton.mp hactivate
      obtain ⟨hrtp, hrtcp⟩ := DtlsSrtpEvent.setDtlsTransports.inj hbind
      exact ⟨hrtp.symm, hrtcp.symm⟩
    · exact absurd hactivate (by simp)
  · rcases List.mem_pair.mp hrest with rfl | rfl
    · exact absurd hbind (by simp)
    · cases source <;> exact absurd hbind (by simp [extensionIdsEvent])

namespace Sender

variable [DecidableEq T] {api : JsepApi} {rtpDtlsTransport : T} {rtcpDtlsTransport : Option T}
  {initial : Bool} {sender : Sender T} {Holds : RtpTransport T → Prop}

theorem holds_setDescription {source : ContentSource} {description : JsepTransportDescription}
    {type : SdpType} {inputs : JsepInputs T} {after : JsepTransport T}
    {result : Except RtcError Unit}
    (hinv : SenderInv rtpDtlsTransport rtcpDtlsTransport initial sender)
    (hsilent : ∀ before after, RtpTransport.Unsignalled before after → Holds before →
      Holds after)
    (hmux : ∀ before enable, Holds before → Holds (before.setRtcpMuxEnabled enable))
    (hbind : ∀ writable before, Holds before →
      Holds (before.setRtcpPacketTransport writable none) ∧
        Holds (before.setRtpPacketTransport writable (some rtpDtlsTransport)))
    (hbefore : Holds sender.transport.rtpTransport.rtp)
    (hset : sender.transport.setDescription inputs api source description type =
      .ok (after, result)) : Holds after.rtpTransport.rtp := by
  obtain ⟨dtls, hrtp, -⟩ := hinv.bound
  rw [hrtp] at hbefore
  cases hvalid : api.validate description.transportDesc.iceParameters with
  | some message =>
      rw [JsepTransport.setDescription_of_invalid inputs sender.transport hvalid] at hset
      obtain ⟨rfl, -⟩ := Prod.mk.inj (Except.ok.inj hset)
      cases source <;>
        simpa only [JsepTransport.afterInvalid, JsepTransport.withDescription, hrtp] using hbefore
  | none =>
      cases haccepted : (sender.transport.negotiated description type source).2 with
      | false =>
          rw [JsepTransport.setDescription_of_refused inputs sender.transport hvalid
            haccepted] at hset
          obtain ⟨rfl, -⟩ := Prod.mk.inj (Except.ok.inj hset)
          simpa only [hrtp] using hbefore
      | true =>
          obtain ⟨driven, hrun, hcall⟩ := JsepTransport.setDescription_driven inputs hrtp hvalid
            haccepted
          obtain ⟨hrtpAfter, -⟩ := JsepTransport.applyDescription_keeps (hcall.symm.trans hset)
          have hstep : ∀ (before : DtlsSrtpTransport T) event next,
              Holds before.toRtpTransport →
              event ∈ sender.transport.drivenEvents inputs source description type →
              DtlsSrtpTransport.step api.srtp before event = some (.ok next) →
              Holds next.toRtpTransport := by
            intro before event next hholds hmem hnext
            refine DtlsSrtpTransport.holds_handle hsilent hmux ?_ hholds (Option.some.inj hnext)
            intro newRtp newRtcp hevent other hother
            obtain ⟨rfl, rfl⟩ := JsepTransport.bound_of_mem_drivenEvents hmem hevent
            rw [hinv.own]
            exact hbind _ other hother
          have hdriven := run_induction_of_forall hstep hbefore (fun _ hmem => hmem) hrun
          rw [hrtpAfter]
          exact hdriven

theorem holds_update {update : JsepUpdate T}
    (hinv : SenderInv rtpDtlsTransport rtcpDtlsTransport initial sender)
    (hsilent : ∀ before after, RtpTransport.Unsignalled before after → Holds before →
      Holds after)
    (hmux : ∀ before enable, Holds before → Holds (before.setRtcpMuxEnabled enable))
    (hready : ∀ packetTransport, update = .onReadyToSend packetTransport →
      ∀ before, Holds before → Holds (before.onReadyToSend packetTransport))
    (hbefore : Holds sender.transport.rtpTransport.rtp) :
    Holds (sender.transport.update api update).rtpTransport.rtp := by
  obtain ⟨dtls, hrtp, -⟩ := hinv.bound
  have hevent : ∀ inputs (event : DtlsSrtpEvent T) next,
      (∀ newRtp newRtcp, event ≠ .setDtlsTransports newRtp newRtcp) →
      dtls.handle api.srtp inputs event = .ok next → Holds next.toRtpTransport := by
    intro inputs event next hother hnext
    rw [hrtp] at hbefore
    exact DtlsSrtpTransport.holds_handle hsilent hmux
      (fun _ _ hbind => absurd hbind (hother _ _)) hbefore hnext
  cases update with
  | setLocalCertificate localCertificate => exact hbefore
  | setNeedsIceRestartFlag => exact hbefore
  | setActiveResetSrtpParams activeResetSrtpParams =>
      simp only [JsepTransport.update, hrtp, AnyRtpTransport.setActiveResetSrtpParams]
      exact hevent {} (.setActiveResetSrtpParams activeResetSrtpParams) _ (by simp) rfl
  | onDtlsState dtlsTransport state inputs =>
      simp only [JsepTransport.update, hrtp, AnyRtpTransport.onDtlsState]
      exact hevent inputs (.onDtlsState dtlsTransport state) _ (by simp) rfl
  | onWritableState inputs =>
      simp only [JsepTransport.update, hrtp, AnyRtpTransport.onWritableState]
      exact hevent inputs (.onWritableState rtpDtlsTransport) _ (by simp) rfl
  | onReadyToSend packetTransport =>
      rw [JsepTransport.update, AnyRtpTransport.rtp_onReadyToSend]
      exact hready packetTransport rfl _ hbefore

omit [DecidableEq T] in
theorem rtp_send {inputs : SendInputs T} {rtcp : Bool} {packet : Bytes} {next : Sender T}
    (hsend : sender.send inputs rtcp packet = .ok next) :
    next.transport.rtpTransport.rtp =
      if (sender.transport.rtpTransport.refusedBy inputs rtcp packet).isSome then
        sender.transport.rtpTransport.rtp.setReadyToSend rtcp false
      else sender.transport.rtpTransport.rtp := by
  rw [send] at hsend
  split at hsend
  · exact absurd hsend (by simp)
  case h_2 rtpTransport sent hsent =>
    obtain rfl := Except.ok.inj hsend
    exact AnyRtpTransport.rtp_sendPacket hsent

omit [DecidableEq T] in
theorem announced_send {inputs : SendInputs T} {rtcp : Bool} {packet : Bytes} {next : Sender T}
    (hannounced : sender.transport.rtpTransport.rtp.Announced)
    (hsend : sender.send inputs rtcp packet = .ok next) :
    next.transport.rtpTransport.rtp.Announced := by
  rw [rtp_send hsend]
  split
  · exact hannounced.setReadyToSend rtcp false
  · exact hannounced

/-- Whatever happens, the flags stay announced. -/
theorem announced_step {event : SenderEvent T} {next : Sender T}
    (hinv : SenderInv rtpDtlsTransport rtcpDtlsTransport initial sender)
    (hannounced : sender.transport.rtpTransport.rtp.Announced)
    (hstep : sender.step api event = some (.ok next)) :
    next.transport.rtpTransport.rtp.Announced := by
  have hsilent : ∀ before after : RtpTransport T, RtpTransport.Unsignalled before after →
      before.Announced → after.Announced := fun _ _ hsame => hsame.announced
  have hmux : ∀ (before : RtpTransport T) enable, before.Announced →
      (before.setRtcpMuxEnabled enable).Announced :=
    fun _ enable hbefore => hbefore.setRtcpMuxEnabled enable
  have hhandle := Option.some.inj hstep
  cases event with
  | sendRtpPacket inputs packet => exact announced_send hannounced hhandle
  | sendRtcpPacket inputs packet => exact announced_send hannounced hhandle
  | jsep event =>
      rw [handle] at hhandle
      split at hhandle
      · exact absurd hhandle (by simp)
      case h_2 transport htransport =>
        obtain rfl := Except.ok.inj hhandle
        cases event with
        | setDescription source description type inputs =>
            obtain ⟨⟨after, result⟩, hset, rfl⟩ := except_map_eq_ok_iff.mp htransport
            exact holds_setDescription hinv hsilent hmux
              (fun writable before hbefore => ⟨hbefore.setRtcpPacketTransport writable _,
                hbefore.setRtpPacketTransport writable _⟩) hannounced hset
        | update update =>
            obtain rfl := Except.ok.inj htransport
            exact holds_update hinv hsilent hmux
              (fun _ _ _ hbefore => hbefore.setReadyToSend _ true) hannounced

omit [DecidableEq T] in
theorem packetTransports_of_inv
    (hinv : SenderInv rtpDtlsTransport rtcpDtlsTransport initial sender) :
    sender.transport.rtpTransport.rtp.rtpPacketTransport = some rtpDtlsTransport ∧
      sender.transport.rtpTransport.rtp.rtcpPacketTransport =
        if sender.negotiation.filter.isFullyActive then none else rtcpDtlsTransport := by
  obtain ⟨dtls, hrtp, hdtls⟩ := hinv.bound
  rw [hrtp]
  exact ⟨congrArg Bindings.rtpPacketTransport hdtls,
    congrArg Bindings.rtcpPacketTransport hdtls⟩

omit [DecidableEq T] in
theorem apart_of_inv (hinv : SenderInv rtpDtlsTransport rtcpDtlsTransport initial sender)
    (hdistinct : rtcpDtlsTransport ≠ some rtpDtlsTransport) :
    sender.transport.rtpTransport.rtp.Apart := by
  obtain ⟨hrtp, hrtcp⟩ := packetTransports_of_inv hinv
  intro packetTransport hown
  obtain rfl := Option.some.inj (hrtp.symm.trans hown)
  rw [hrtcp]
  split
  · simp
  · exact hdistinct

/-- A description binds nothing new: what is known of the packet transports stays right. -/
theorem knows_jsep {event : JsepEvent T} {lastWord : T → Bool} {after : JsepTransport T}
    (hinv : SenderInv rtpDtlsTransport rtcpDtlsTransport initial sender)
    (hknows : sender.transport.rtpTransport.rtp.Knows lastWord)
    (hquiet : ∀ packetTransport, event ≠ .update (.onReadyToSend packetTransport))
    (hhandle : sender.transport.handle api event = .ok after) :
    after.rtpTransport.rtp.Knows lastWord := by
  let Holds (transport : RtpTransport T) : Prop :=
    transport.Knows lastWord ∧ transport.rtpPacketTransport = some rtpDtlsTransport
  have hbefore : Holds sender.transport.rtpTransport.rtp :=
    ⟨hknows, (packetTransports_of_inv hinv).1⟩
  have hsilent : ∀ before after, RtpTransport.Unsignalled before after → Holds before →
      Holds after :=
    fun _ _ hsame hholds =>
      ⟨hsame.knows hholds.1, hsame.rtpPacketTransport.trans hholds.2⟩
  have hmux : ∀ before enable, Holds before → Holds (before.setRtcpMuxEnabled enable) :=
    fun before enable hholds =>
      ⟨hholds.1.setRtcpMuxEnabled enable,
        (before.setRtcpMuxEnabled_same enable).rtpPacketTransport.trans hholds.2⟩
  have hbind : ∀ writable before, Holds before →
      Holds (before.setRtcpPacketTransport writable none) ∧
        Holds (before.setRtpPacketTransport writable (some rtpDtlsTransport)) :=
    fun writable before hholds =>
      ⟨⟨hholds.1.setRtcpPacketTransport fun _ => rfl,
          (before.setRtcpPacketTransport_same writable none).rtpPacketTransport.trans hholds.2⟩,
        ⟨hholds.1.setRtpPacketTransport fun hnew => absurd hholds.2.symm hnew,
          (before.setRtpPacketTransport_same writable _).rtpPacketTransport⟩⟩
  cases event with
  | setDescription source description type inputs =>
      obtain ⟨⟨after, result⟩, hset, rfl⟩ := except_map_eq_ok_iff.mp hhandle
      exact (holds_setDescription hinv hsilent hmux hbind hbefore hset).1
  | update update =>
      obtain rfl := Except.ok.inj hhandle
      exact (holds_update hinv hsilent hmux
        (fun packetTransport hupdate => absurd (congrArg _ hupdate) (hquiet packetTransport))
        hbefore).1

end Sender

/-! ## Runs -/

namespace WatchedSender

variable [DecidableEq T] {api : JsepApi} {rtpDtlsTransport : T} {rtcpDtlsTransport : Option T}
  {initial : Bool} {watched next : WatchedSender T}

theorem step_eq_ok_iff {event : SenderEvent T} :
    step api watched event = some (.ok next) ↔
      watched.listens event = true ∧
        ∃ sender, watched.sender.step api event = some (.ok sender) ∧
          next = { sender := sender, lastWord := watched.hear event } := by
  rw [step, Option.ite_none_right_eq_some]
  refine and_congr_right fun _ => ?_
  constructor
  · intro hstep
    obtain ⟨outcome, houtcome, hnext⟩ := Option.map_eq_some_iff.mp hstep
    obtain ⟨sender, rfl, rfl⟩ := except_map_eq_ok_iff.mp hnext
    exact ⟨sender, houtcome, rfl⟩
  · rintro ⟨sender, hsender, rfl⟩
    rw [hsender]
    rfl

/-- What holds of a sender in every run. -/
structure Watching (rtpDtlsTransport : T) (rtcpDtlsTransport : Option T) (initial : Bool)
    (watched : WatchedSender T) : Prop where
  inv : Sender.SenderInv rtpDtlsTransport rtcpDtlsTransport initial watched.sender
  announced : watched.rtp.Announced

theorem watching_step {event : SenderEvent T}
    (hwatching : Watching rtpDtlsTransport rtcpDtlsTransport initial watched)
    (hstep : step api watched event = some (.ok next)) :
    Watching rtpDtlsTransport rtcpDtlsTransport initial next := by
  obtain ⟨-, sender, hsender, rfl⟩ := step_eq_ok_iff.mp hstep
  exact ⟨Sender.step_senderInv _ event sender hwatching.inv hsender,
    Sender.announced_step hwatching.inv hwatching.announced hsender⟩

/-- A packet that is refused is held against the right transport, or it is not. -/
theorem knows_send_iff {inputs : SendInputs T} {rtcp : Bool} {packet : Bytes}
    {sender : Sender T} (hapart : watched.rtp.Apart)
    (hknows : watched.rtp.Knows watched.lastWord)
    (hsend : watched.sender.send inputs rtcp packet = .ok sender) :
    sender.transport.rtpTransport.rtp.Knows (watched.hearRefusal inputs rtcp packet) ↔
      ∀ packetTransport, rtcp = true → watched.rtp.rtcpMuxEnabled = true →
        watched.sender.transport.rtpTransport.refusedBy inputs rtcp packet =
          some packetTransport →
        watched.lastWord packetTransport = false ∧
          watched.rtp.rtcpPacketTransport.any watched.lastWord = false := by
  rw [Sender.rtp_send hsend, hearRefusal]
  cases hrefused : watched.sender.transport.rtpTransport.refusedBy inputs rtcp packet with
  | none => exact iff_of_true hknows (by simp)
  | some packetTransport =>
      have hpointer := AnyRtpTransport.packetTransport_of_refusedBy hrefused
      rw [Option.isSome_some, if_pos rfl]
      refine (RtpTransport.knows_setReadyToSend_iff hknows hapart hpointer).trans ?_
      constructor
      · intro hboth other hrtcp hmux hother
        obtain rfl := Option.some.inj hother
        exact hboth hrtcp hmux
      · intro hall hrtcp hmux
        exact hall packetTransport hrtcp hmux rfl

/-- One event leaves the flags true exactly when no packet is refused in the wrong place. -/
theorem knows_step_iff {event : SenderEvent T}
    (hdistinct : rtcpDtlsTransport ≠ some rtpDtlsTransport)
    (hwatching : Watching rtpDtlsTransport rtcpDtlsTransport initial watched)
    (hknows : watched.rtp.Knows watched.lastWord)
    (hstep : step api watched event = some (.ok next)) :
    next.rtp.Knows next.lastWord ↔ RefusedApart watched event := by
  have hapart : watched.rtp.Apart := Sender.apart_of_inv hwatching.inv hdistinct
  obtain ⟨hlistens, sender, hsender, rfl⟩ := step_eq_ok_iff.mp hstep
  have hhandle := Option.some.inj hsender
  cases event with
  | sendRtpPacket inputs packet =>
      exact iff_of_true ((knows_send_iff hapart hknows hhandle).mpr (by simp))
        (fun _ _ _ hevent => absurd hevent (by simp))
  | sendRtcpPacket inputs packet =>
      refine (knows_send_iff hapart hknows hhandle).trans ?_
      constructor
      · intro hall otherInputs otherPacket packetTransport hevent hmux hrefused
        obtain ⟨rfl, rfl⟩ := SenderEvent.sendRtcpPacket.inj hevent
        exact hall packetTransport rfl hmux hrefused
      · intro hall packetTransport _ hmux hrefused
        exact hall inputs packet packetTransport rfl hmux hrefused
  | jsep event =>
      refine iff_of_true ?_ (fun _ _ _ hevent => absurd hevent (by simp))
      rw [Sender.handle] at hhandle
      split at hhandle
      · exact absurd hhandle (by simp)
      case h_2 transport htransport =>
        obtain rfl := Except.ok.inj hhandle
        by_cases hready : ∃ packetTransport, event = .update (.onReadyToSend packetTransport)
        · obtain ⟨packetTransport, rfl⟩ := hready
          obtain rfl := Except.ok.inj htransport
          have hconnected : watched.rtp.Connected packetTransport :=
            (of_decide_eq_true hlistens).imp Eq.symm Eq.symm
          have hsaid := hknows.onReadyToSend hapart hconnected
          rw [rtp, ← AnyRtpTransport.rtp_onReadyToSend] at hsaid
          exact hsaid
        · have hquiet : ∀ packetTransport, event ≠ .update (.onReadyToSend packetTransport) :=
            fun packetTransport hevent => hready ⟨packetTransport, hevent⟩
          have hsame : watched.hear (.jsep event) = watched.lastWord := by
            cases event with
            | setDescription => rfl
            | update update =>
                cases update with
                | onReadyToSend packetTransport => exact absurd rfl (hquiet packetTransport)
                | _ => rfl
          rw [hsame]
          exact Sender.knows_jsep hwatching.inv hknows hquiet htransport

/-- A packet that is refused has met a transport, so the process goes on. -/
theorem exists_step_of_refused {event : SenderEvent T}
    (hwatching : Watching rtpDtlsTransport rtcpDtlsTransport initial watched)
    (hrefused : ¬ RefusedApart watched event) :
    ∃ next, step api watched event = some (.ok next) := by
  simp only [RefusedApart, not_forall] at hrefused
  obtain ⟨inputs, packet, packetTransport, rfl, -, hrefused, -⟩ := hrefused
  obtain ⟨dtls, hrtp, -⟩ := hwatching.inv.bound
  have hpointer := AnyRtpTransport.packetTransport_of_refusedBy hrefused
  rw [hrtp] at hpointer
  rcases Sender.sendPacket_dtlsSrtp inputs true packet dtls with
    ⟨-, -, hnull⟩ | ⟨after, sent, hok, -, -⟩
  · exact absurd (hnull.symm.trans hpointer) (by simp)
  · have hsend : watched.sender.send inputs true packet = .ok
        { watched.sender with
          transport := { watched.sender.transport with rtpTransport := .dtlsSrtp after } } := by
      rw [Sender.send, hrtp, hok]
    exact ⟨_, step_eq_ok_iff.mpr ⟨rfl, _, congrArg some hsend, rfl⟩⟩

/-- A new transport knows what it has been bound to. -/
theorem ready_of_create {inputs : DtlsInputs T} {activeResetSrtpParams : Bool}
    {dtls : DtlsSrtpTransport T}
    (hcreate : createDtlsSrtpTransport api.srtp inputs activeResetSrtpParams rtpDtlsTransport
      rtcpDtlsTransport = .ok dtls) :
    dtls.toRtpTransport.Announced ∧ dtls.toRtpTransport.Knows inputs.writable := by
  obtain ⟨bound, hbound, rfl⟩ := except_map_eq_ok_iff.mp hcreate
  let fresh : DtlsSrtpTransport T := .create rtcpDtlsTransport.isNone
  have hhandle : fresh.handle api.srtp inputs
      (.setDtlsTransports (some rtpDtlsTransport) rtcpDtlsTransport) = .ok bound := hbound
  have hfreshAnnounced : fresh.toRtpTransport.Announced := ⟨rfl, reportsChanges_nil false⟩
  have hfreshKnows : fresh.toRtpTransport.Knows inputs.writable := ⟨rfl, rfl⟩
  have hknows : bound.toRtpTransport.Knows inputs.writable :=
    DtlsSrtpTransport.holds_handle (fun _ _ hsame => hsame.knows)
      (fun _ enable hbefore => hbefore.setRtcpMuxEnabled enable)
      (fun _ _ _ _ hbefore => ⟨hbefore.setRtcpPacketTransport fun _ => rfl,
        hbefore.setRtpPacketTransport fun _ => rfl⟩) hfreshKnows hhandle
  have hannounced : bound.toRtpTransport.Announced :=
    DtlsSrtpTransport.announced_handle hfreshAnnounced hhandle
  exact ⟨hannounced, hknows⟩

/-- From the creation on `SignalReadyToSend` fires when its value has changed, and says what the
flags of the two directions make of it.  These flags are those of the packet transports exactly
as long as no RTCP packet is refused by the transport for RTP while one of them is ready. -/
theorem truthful_iff_refusedApart (api : JsepApi) (mid : Bytes)
    (localCertificate : Option Certificate) (inputs : DtlsInputs T)
    (activeResetSrtpParams : Bool) (rtpDtlsTransport : T) (rtcpDtlsTransport : Option T)
    (dtls : DtlsSrtpTransport T)
    (hcreate : createDtlsSrtpTransport api.srtp inputs activeResetSrtpParams rtpDtlsTransport
      rtcpDtlsTransport = .ok dtls)
    (hdistinct : rtcpDtlsTransport ≠ some rtpDtlsTransport) (events : List (SenderEvent T)) :
    let start : WatchedSender T :=
      { sender.transport := .create mid localCertificate (.dtlsSrtp dtls) rtpDtlsTransport
          rtcpDtlsTransport
        lastWord := inputs.writable }
    Throughout (step api) (fun watched => watched.rtp.Announced) start events ∧
      (Throughout (step api) Truthful start events ↔
        Guarded (step api) RefusedApart start events) := by
  intro start
  obtain ⟨hannounced, hknows⟩ := ready_of_create hcreate
  obtain ⟨created, hcreated, hbindings⟩ := createDtlsSrtpTransport_bindings api.srtp inputs
    activeResetSrtpParams rtpDtlsTransport rtcpDtlsTransport
  obtain rfl := Except.ok.inj (hcreated.symm.trans hcreate)
  have hwatching : Watching rtpDtlsTransport rtcpDtlsTransport rtcpDtlsTransport.isNone start := by
    refine ⟨⟨rfl, fun hfully => absurd hfully Bool.false_ne_true, rfl, created, rfl, ?_⟩,
      hannounced⟩
    have hflag : created.activeResetSrtpParams = activeResetSrtpParams :=
      congrArg Bindings.activeResetSrtpParams hbindings
    rw [hbindings, hflag]
    rfl
  refine ⟨?_, ?_⟩
  · exact throughout_of_guarded (fun _ _ _ hwatching _ => watching_step hwatching)
      (fun _ hwatching => hwatching.announced) hwatching
      (guarded_of_forall (fun _ _ _ => trivial) start)
  · have hstep : ∀ (watched : WatchedSender T) event next,
        (Watching rtpDtlsTransport rtcpDtlsTransport rtcpDtlsTransport.isNone watched ∧
          watched.rtp.Knows watched.lastWord) →
        RefusedApart watched event → step api watched event = some (.ok next) →
        (Watching rtpDtlsTransport rtcpDtlsTransport rtcpDtlsTransport.isNone next ∧
          next.rtp.Knows next.lastWord) :=
      fun _ _ _ hinv hapart hnext =>
        ⟨watching_step hinv.1 hnext, (knows_step_iff hdistinct hinv.1 hinv.2 hnext).mpr hapart⟩
    refine guarded_iff_throughout hstep (fun _ hinv => ⟨hinv.1.announced, hinv.2⟩) ?_
      ⟨hwatching, hknows⟩ events
    intro watched event hinv hmiss
    obtain ⟨next, hnext⟩ := exists_step_of_refused hinv.1 hmiss
    refine ⟨next, hnext, fun htruthful => hmiss ?_⟩
    exact (knows_step_iff hdistinct hinv.1 hinv.2 hnext).mp htruthful.knows

/-- No packet gets through, and nobody is connected any more. -/
def refusal : SendInputs ℕ where
  sendPacket _ _ := -1
  notConnected _ := true

/-- The transport is ready, DTLS connects, and a packet is refused. -/
def readyThenRefused (sendPacket : SendInputs ℕ → Bytes → SenderEvent ℕ) :
    List (SenderEvent ℕ) :=
  [.jsep (.update (.onReadyToSend 0)),
    .jsep (.update (.onDtlsState 0 .connected DtlsSrtpTransport.connectedInputs)),
    sendPacket refusal [1]]

/-- The transport of the controller, which has no RTCP transport, takes back the flag for RTP
after an RTP packet, and the wrong one after an RTCP packet. -/
theorem truthful_iff_refusedApart_muxed :
    let start : WatchedSender ℕ := { sender := Sender.soloSender, lastWord := fun _ => false }
    Throughout (step sampleApi) Truthful start (readyThenRefused .sendRtpPacket) ∧
      ¬ Throughout (step sampleApi) Truthful start (readyThenRefused .sendRtcpPacket) := by
  intro start
  have hexact := truthful_iff_refusedApart sampleApi [] (some [1]) {} true 0 none
    Sender.soloDtlsSrtpTransport rfl (by simp)
  refine ⟨(hexact _).2.mpr (guarded_of_forall ?_ _), fun htruthful => ?_⟩
  · intro event hevent watched inputs packet packetTransport hsend
    subst hsend
    simp [readyThenRefused] at hevent
  · obtain ⟨-, hready⟩ := (hexact _).2.mp htruthful
    obtain ⟨-, hconnected⟩ := hready _ rfl
    obtain ⟨hrefused, -⟩ := hconnected _ rfl
    exact absurd (hrefused refusal [1] 0 rfl rfl rfl).1 Bool.noConfusion

end WatchedSender

end PeerConnection.Jsep
