import PeerConnection.Jsep.DrivenEvents
import PeerConnection.Jsep.MuxActivation
import PeerConnection.Srtp.KeyProvenance

/-!
# Sending packets

`SendPacket` takes the packet transport for RTCP when rtcp-mux is off, whether or not there
is one.  A JSEP transport is created with rtcp-mux on if it has no RTCP transport, but every
description that it accepts sets the flag to what has been negotiated so far.
-/

namespace PeerConnection.Srtp

open PeerConnection.Text

/-- What a packet meets on its way. -/
structure SendInputs (T : Type*) where
  /-- libsrtp protects the packet with a session, or fails. -/
  protectRtp : SrtpSession → Bytes → Option Bytes := fun _ packet => some packet
  protectRtcp : SrtpSession → Bytes → Option Bytes := fun _ packet => some packet
  /-- What `SendPacket` of a packet transport returns. -/
  sendPacket : T → Bytes → ℤ := fun _ packet => packet.length
  /-- `GetError` is `ENOTCONN`. -/
  notConnected : T → Bool := fun _ => false

/-- `SendPacket` has dereferenced a null pointer. -/
inductive SendFault where
  | nullPacketTransport
  deriving DecidableEq, Repr

variable {T : Type*} (inputs : SendInputs T)

namespace RtpTransport

/-- The packet transport that `SendPacket` takes. -/
def packetTransport (transport : RtpTransport T) (rtcp : Bool) : Option T :=
  if rtcp && !transport.rtcpMuxEnabled then transport.rtcpPacketTransport
  else transport.rtpPacketTransport

def sendPacket (transport : RtpTransport T) (rtcp : Bool) (packet : Bytes) :
    Except SendFault (RtpTransport T × Bool) :=
  match transport.packetTransport rtcp with
  | none => .error .nullPacketTransport
  | some packetTransport =>
      if inputs.sendPacket packetTransport packet ≠ packet.length then
        if inputs.notConnected packetTransport then
          .ok (transport.setReadyToSend rtcp false, false)
        else .ok (transport, false)
      else .ok (transport, true)

def sendRtpPacket (transport : RtpTransport T) (packet : Bytes) :
    Except SendFault (RtpTransport T × Bool) :=
  transport.sendPacket inputs false packet

def sendRtcpPacket (transport : RtpTransport T) (packet : Bytes) :
    Except SendFault (RtpTransport T × Bool) :=
  transport.sendPacket inputs true packet

end RtpTransport

namespace SrtpTransport

def protectRtp (transport : SrtpTransport T) (packet : Bytes) : Option Bytes :=
  transport.sessions.bind fun pair => inputs.protectRtp pair.send packet

/-- The packet as it leaves for `SendPacket`, if it gets there. -/
def outgoing (transport : SrtpTransport T) (rtcp : Bool) (packet : Bytes) : Option Bytes :=
  if !transport.isSrtpActive then none
  else if rtcp then transport.protectRtcp inputs.protectRtcp packet
  else transport.protectRtp inputs packet

/-- The overrides of `SendRtpPacket` and `SendRtcpPacket` differ in the call that protects
the packet. -/
def sendProtected (transport : SrtpTransport T) (rtcp : Bool) (packet : Bytes) :
    Except SendFault (SrtpTransport T × Bool) :=
  match transport.outgoing inputs rtcp packet with
  | none => .ok (transport, false)
  | some outgoing =>
      (transport.toRtpTransport.sendPacket inputs rtcp outgoing).map fun sent =>
        ({ transport with toRtpTransport := sent.1 }, sent.2)

def sendRtpPacket (transport : SrtpTransport T) (packet : Bytes) :
    Except SendFault (SrtpTransport T × Bool) :=
  transport.sendProtected inputs false packet

def sendRtcpPacket (transport : SrtpTransport T) (packet : Bytes) :
    Except SendFault (SrtpTransport T × Bool) :=
  transport.sendProtected inputs true packet

end SrtpTransport

namespace RtpTransport

/-- Sending faults exactly where the pointer is null, and moves no pointer. -/
theorem sendPacket_spec (transport : RtpTransport T) (rtcp : Bool) (packet : Bytes) :
    (transport.sendPacket inputs rtcp packet = .error .nullPacketTransport ∧
      transport.packetTransport rtcp = none) ∨
    (∃ sent, transport.sendPacket inputs rtcp packet = .ok sent ∧
      transport.packetTransport rtcp ≠ none ∧ SameBinding transport sent.1) := by
  unfold sendPacket
  cases hpointer : transport.packetTransport rtcp with
  | none => exact Or.inl ⟨rfl, rfl⟩
  | some packetTransport =>
      refine Or.inr ?_
      simp only
      split_ifs
      · exact ⟨_, rfl, by simp, transport.setReadyToSend_same rtcp false⟩
      · exact ⟨_, rfl, by simp, SameBinding.refl transport⟩
      · exact ⟨_, rfl, by simp, SameBinding.refl transport⟩

end RtpTransport

end PeerConnection.Srtp

namespace PeerConnection.Jsep

open PeerConnection.Text
open PeerConnection.Sdp
open PeerConnection.Srtp
open PeerConnection.Runs

variable {T : Type*}

namespace AnyRtpTransport

/-- `SendRtpPacket` and `SendRtcpPacket` are virtual. -/
def sendPacket (inputs : SendInputs T) (rtcp : Bool) (packet : Bytes) :
    AnyRtpTransport T → Except SendFault (AnyRtpTransport T × Bool)
  | .unencrypted rtp =>
      (if rtcp then rtp.sendRtcpPacket inputs packet else rtp.sendRtpPacket inputs packet).map
        fun sent => (.unencrypted sent.1, sent.2)
  | .sdes srtp =>
      (if rtcp then srtp.sendRtcpPacket inputs packet
        else srtp.sendRtpPacket inputs packet).map fun sent => (.sdes sent.1, sent.2)
  | .dtlsSrtp dtls =>
      (if rtcp then dtls.toSrtpTransport.sendRtcpPacket inputs packet
        else dtls.toSrtpTransport.sendRtpPacket inputs packet).map fun sent =>
          (.dtlsSrtp { dtls with toSrtpTransport := sent.1 }, sent.2)

/-- SRTP is active and protects the RTCP packet, so that it comes to `SendPacket`. -/
def SendsRtcp (inputs : SendInputs T) (packet : Bytes) : AnyRtpTransport T → Prop
  | .unencrypted _ => True
  | .sdes srtp => (srtp.outgoing inputs true packet).isSome
  | .dtlsSrtp dtls => (dtls.toSrtpTransport.outgoing inputs true packet).isSome

end AnyRtpTransport

/-- What the descriptions so far have negotiated; none of them may have been accepted. -/
structure MuxNegotiation where
  filter : RtcpMuxFilter := {}
  outcome : Option Bool := none
  deriving DecidableEq, Repr

/-- The calls alone decide what is negotiated: a call counts when its ICE parameters are
valid and the filter accepts its flag. -/
def MuxNegotiation.next (negotiation : MuxNegotiation) (api : JsepApi)
    (description : JsepTransportDescription) (type : SdpType) (source : ContentSource) :
    MuxNegotiation :=
  let (filter, accepted) := negotiation.filter.set type description.rtcpMuxEnabled source
  if (api.validate description.transportDesc.iceParameters).isNone && accepted then
    { filter := filter, outcome := some filter.isActive }
  else negotiation

/-- A JSEP transport that packets are sent through. -/
structure Sender (T : Type*) where
  transport : JsepTransport T
  negotiation : MuxNegotiation := {}

inductive SenderEvent (T : Type*) where
  | jsep (event : JsepEvent T)
  | sendRtpPacket (inputs : SendInputs T) (packet : Bytes)
  | sendRtcpPacket (inputs : SendInputs T) (packet : Bytes)

inductive SenderFault where
  | jsep (abort : JsepAbort)
  | send (fault : SendFault)
  deriving DecidableEq, Repr

namespace Sender

section Steps

variable [DecidableEq T] (api : JsepApi)

/-- The negotiation after an event. -/
def negotiate (sender : Sender T) : JsepEvent T → MuxNegotiation
  | .setDescription source description type _ =>
      sender.negotiation.next api description type source
  | .update _ => sender.negotiation

def send (inputs : SendInputs T) (sender : Sender T) (rtcp : Bool) (packet : Bytes) :
    Except SenderFault (Sender T) :=
  match sender.transport.rtpTransport.sendPacket inputs rtcp packet with
  | .error fault => .error (.send fault)
  | .ok (rtpTransport, _) =>
      .ok { sender with transport := { sender.transport with rtpTransport := rtpTransport } }

def handle (sender : Sender T) : SenderEvent T → Except SenderFault (Sender T)
  | .jsep event =>
      match sender.transport.handle api event with
      | .error abort => .error (.jsep abort)
      | .ok transport => .ok { transport := transport, negotiation := sender.negotiate api event }
  | .sendRtpPacket inputs packet => sender.send inputs false packet
  | .sendRtcpPacket inputs packet => sender.send inputs true packet

/-- Calls, events and packets in any order. -/
def step : System (Sender T) (SenderEvent T) SenderFault := fun sender event =>
  some (sender.handle api event)

end Steps

/-! ## What the events leave bound -/

/-- The bindings of a transport between these DTLS transports: the one for RTCP is given up
for good when rtcp-mux is fully active, and the flag is that of the last negotiation. -/
def boundFor (rtpDtlsTransport : T) (rtcpDtlsTransport : Option T) (initial : Bool)
    (negotiation : MuxNegotiation) (activeResetSrtpParams : Bool) : Bindings T :=
  let inUse := if negotiation.filter.isFullyActive then none else rtcpDtlsTransport
  { rtpPacketTransport := some rtpDtlsTransport
    rtcpPacketTransport := inUse
    rtpDtlsTransport := some rtpDtlsTransport
    rtcpDtlsTransport := inUse
    rtcpMuxEnabled := negotiation.outcome.getD initial
    activeResetSrtpParams := activeResetSrtpParams }

/-- The DTLS-SRTP transport below has these bindings, up to the flag of its owner. -/
def BoundAs (bindings : Bool → Bindings T) (rtpTransport : AnyRtpTransport T) : Prop :=
  ∃ dtls, rtpTransport = .dtlsSrtp dtls ∧
    dtls.bindings = bindings dtls.activeResetSrtpParams

structure SenderInv (rtpDtlsTransport : T) (rtcpDtlsTransport : Option T) (initial : Bool)
    (sender : Sender T) : Prop where
  negotiator : sender.transport.rtcpMuxNegotiator = sender.negotiation.filter
  active : sender.negotiation.filter.isFullyActive = true →
    sender.negotiation.outcome = some true
  own : sender.transport.rtpDtlsTransport = rtpDtlsTransport
  bound : BoundAs (boundFor rtpDtlsTransport rtcpDtlsTransport initial sender.negotiation)
    sender.transport.rtpTransport

theorem boundAs_boundFor_of_eq {rtpDtlsTransport : T} {rtcpDtlsTransport : Option T}
    {initial : Bool} {negotiation : MuxNegotiation} {dtls after : DtlsSrtpTransport T}
    (hbound : dtls.bindings = boundFor rtpDtlsTransport rtcpDtlsTransport initial negotiation
      dtls.activeResetSrtpParams) (hsame : after.bindings = dtls.bindings) :
    BoundAs (boundFor rtpDtlsTransport rtcpDtlsTransport initial negotiation)
      (.dtlsSrtp after) := by
  have hflag : after.activeResetSrtpParams = dtls.activeResetSrtpParams :=
    congrArg Bindings.activeResetSrtpParams hsame
  exact ⟨after, rfl, by rw [hsame, hbound, hflag]⟩

theorem bindings_of_sameBinding {dtls : DtlsSrtpTransport T} {after : RtpTransport T}
    (hsame : RtpTransport.SameBinding dtls.toRtpTransport after) :
    DtlsSrtpTransport.bindings { dtls with toRtpTransport := after } = dtls.bindings := by
  simp only [DtlsSrtpTransport.bindings, hsame.rtcpMuxEnabled, hsame.rtpPacketTransport,
    hsame.rtcpPacketTransport]

section Inv

variable [DecidableEq T] {api : JsepApi} {rtpDtlsTransport : T}
  {rtcpDtlsTransport : Option T} {initial : Bool} {negotiation : MuxNegotiation}

theorem boundAs_update {transport : JsepTransport T} (update : JsepUpdate T)
    (hbound : BoundAs (boundFor rtpDtlsTransport rtcpDtlsTransport initial negotiation)
      transport.rtpTransport) :
    BoundAs (boundFor rtpDtlsTransport rtcpDtlsTransport initial negotiation)
      (transport.update api update).rtpTransport := by
  obtain ⟨dtls, hrtp, hdtls⟩ := hbound
  cases update with
  | setLocalCertificate localCertificate => exact ⟨dtls, hrtp, hdtls⟩
  | setNeedsIceRestartFlag => exact ⟨dtls, hrtp, hdtls⟩
  | setActiveResetSrtpParams activeResetSrtpParams =>
      refine ⟨dtls.setActiveResetSrtpParams activeResetSrtpParams, ?_, ?_⟩
      · simp only [JsepTransport.update, hrtp, AnyRtpTransport.setActiveResetSrtpParams]
      · change Bindings.next dtls.bindings (.setActiveResetSrtpParams activeResetSrtpParams) = _
        rw [hdtls]
        rfl
  | onDtlsState dtlsTransport state inputs =>
      simp only [JsepTransport.update, hrtp, AnyRtpTransport.onDtlsState]
      have hstep : DtlsSrtpTransport.step api.srtp dtls
          (inputs, .onDtlsState dtlsTransport state) =
            some (.ok (dtls.onDtlsState api.srtp inputs dtlsTransport state)) := rfl
      exact boundAs_boundFor_of_eq hdtls (DtlsSrtpTransport.bindings_step api.srtp dtls hstep)
  | onWritableState inputs =>
      simp only [JsepTransport.update, hrtp, AnyRtpTransport.onWritableState]
      exact boundAs_boundFor_of_eq hdtls
        (DtlsSrtpTransport.bindings_run api.srtp inputs dtls .maybe)
  | onReadyToSend packetTransport =>
      simp only [JsepTransport.update, hrtp, AnyRtpTransport.onReadyToSend]
      exact boundAs_boundFor_of_eq hdtls (bindings_of_sameBinding
        (RtpTransport.setReadyToSend_same dtls.toRtpTransport _ true))

theorem rest_update (api : JsepApi) (transport : JsepTransport T) (update : JsepUpdate T) :
    (transport.update api update).rtcpMuxNegotiator = transport.rtcpMuxNegotiator ∧
      (transport.update api update).rtpDtlsTransport = transport.rtpDtlsTransport := by
  cases update <;> exact ⟨rfl, rfl⟩

omit [DecidableEq T] in
/-- Only a final answer makes rtcp-mux fully active. -/
theorem isFullyActive_set {filter : RtcpMuxFilter} {type : SdpType} {enable : Bool}
    {source : ContentSource}
    (hother : (type = .answer && (filter.set type enable source).1.isActive) = false) :
    (filter.set type enable source).1.isFullyActive = true → filter.isFullyActive = true := by
  obtain ⟨state, offerEnable⟩ := filter
  cases type <;> cases state <;> cases source <;> cases enable <;> cases offerEnable <;>
    first
    | exact absurd hother (by decide)
    | decide

omit [DecidableEq T] in
/-- What an accepted description leaves bound. -/
theorem foldl_drivenEvents {inputs : JsepInputs T} {transport : JsepTransport T}
    {source : ContentSource} {description : JsepTransportDescription} {type : SdpType}
    {activeResetSrtpParams : Bool}
    (hnegotiator : transport.rtcpMuxNegotiator = negotiation.filter)
    (hown : transport.rtpDtlsTransport = rtpDtlsTransport)
    (haccepted : (transport.negotiated description type source).2 = true) :
    (transport.drivenEvents inputs source description type).foldl
        (fun bindings event => bindings.next event.2)
        (boundFor rtpDtlsTransport rtcpDtlsTransport initial negotiation
          activeResetSrtpParams) =
      boundFor rtpDtlsTransport rtcpDtlsTransport initial
        { filter := (transport.negotiated description type source).1
          outcome := some (transport.negotiated description type source).1.isActive }
        activeResetSrtpParams := by
  have hids : ∀ bindings : Bindings T,
      bindings.next (extensionIdsEvent source description.encryptedHeaderExtensionIds) =
        bindings := by
    intro bindings
    cases source <;> rfl
  cases hactivates : transport.activates description type source with
  | true =>
      have hanswer := hactivates
      rw [JsepTransport.activates, Bool.and_eq_true] at hanswer
      obtain rfl := of_decide_eq_true hanswer.1
      have hfully := RtcpMuxFilter.isFullyActive_of_answer haccepted hanswer.2
      rw [← JsepTransport.negotiated] at hfully
      simp only [JsepTransport.drivenEvents, hactivates, if_true, List.cons_append,
        List.nil_append, List.foldl_cons, List.foldl_nil, hids]
      simp only [Bindings.next, boundFor, hfully, if_true, hown, Option.getD_some]
  | false =>
      have hsame : (transport.negotiated description type source).1.isFullyActive =
          negotiation.filter.isFullyActive := by
        rw [JsepTransport.negotiated, hnegotiator, Bool.eq_iff_iff]
        rw [JsepTransport.activates, JsepTransport.negotiated, hnegotiator] at hactivates
        refine ⟨isFullyActive_set hactivates, fun hfully => ?_⟩
        rwa [RtcpMuxFilter.set_of_isFullyActive hfully]
      simp only [JsepTransport.drivenEvents, hactivates, Bool.false_eq_true, if_false,
        List.nil_append, List.foldl_cons, List.foldl_nil, hids]
      simp only [Bindings.next, boundFor, hsame, Option.getD_some]

omit [DecidableEq T] in
theorem negotiate_of_not_counted {sender : Sender T} {source : ContentSource}
    {description : JsepTransportDescription} {type : SdpType} {inputs : JsepInputs T}
    (hnegotiator : sender.transport.rtcpMuxNegotiator = sender.negotiation.filter)
    (hnot : api.validate description.transportDesc.iceParameters = none →
      (sender.transport.negotiated description type source).2 = false) :
    sender.negotiate api (.setDescription source description type inputs) =
      sender.negotiation := by
  rw [JsepTransport.negotiated, hnegotiator] at hnot
  simp only [negotiate, MuxNegotiation.next]
  cases hvalid : api.validate description.transportDesc.iceParameters with
  | some message => simp
  | none => simp [hnot hvalid]

omit [DecidableEq T] in
theorem negotiate_of_accepted {sender : Sender T} {source : ContentSource}
    {description : JsepTransportDescription} {type : SdpType} {inputs : JsepInputs T}
    (hnegotiator : sender.transport.rtcpMuxNegotiator = sender.negotiation.filter)
    (hvalid : api.validate description.transportDesc.iceParameters = none)
    (haccepted : (sender.transport.negotiated description type source).2 = true) :
    sender.negotiate api (.setDescription source description type inputs) =
      { filter := (sender.transport.negotiated description type source).1
        outcome := some (sender.transport.negotiated description type source).1.isActive } := by
  rw [JsepTransport.negotiated, hnegotiator] at haccepted
  simp only [negotiate, MuxNegotiation.next, hvalid, haccepted, Option.isNone_none,
    Bool.and_true, if_true, JsepTransport.negotiated, hnegotiator]

/-- A call with a description, whatever comes of it. -/
theorem senderInv_setDescription {sender : Sender T} {source : ContentSource}
    {description : JsepTransportDescription} {type : SdpType} {inputs : JsepInputs T}
    {after : JsepTransport T} {result : Except RtcError Unit}
    (hinv : SenderInv rtpDtlsTransport rtcpDtlsTransport initial sender)
    (hset : sender.transport.setDescription inputs api source description type =
      .ok (after, result)) :
    SenderInv rtpDtlsTransport rtcpDtlsTransport initial
      { transport := after
        negotiation := sender.negotiate api (.setDescription source description type inputs) } := by
  by_cases hcounted : api.validate description.transportDesc.iceParameters = none ∧
      (sender.transport.negotiated description type source).2 = true
  · obtain ⟨hvalid, haccepted⟩ := hcounted
    obtain ⟨dtls, hrtp, hdtls⟩ := hinv.bound
    obtain ⟨driven, hrun, hcall⟩ := JsepTransport.setDescription_driven inputs hrtp hvalid
      haccepted
    obtain ⟨hrtpAfter, hfilter, hownAfter, -⟩ :=
      JsepTransport.applyDescription_keeps (hcall.symm.trans hset)
    have hbindings := DtlsSrtpTransport.bindings_events api.srtp dtls hrun
    rw [hdtls, foldl_drivenEvents hinv.negotiator hinv.own haccepted] at hbindings
    rw [negotiate_of_accepted hinv.negotiator hvalid haccepted]
    refine ⟨hfilter, fun hfully => ?_, hownAfter.trans hinv.own, driven, hrtpAfter, ?_⟩
    · exact congrArg some (by rw [RtcpMuxFilter.isActive, hfully, Bool.true_or])
    · have hflag := congrArg Bindings.activeResetSrtpParams hbindings
      have hflagDriven : driven.activeResetSrtpParams = dtls.activeResetSrtpParams := hflag
      rw [hbindings, hflagDriven]
  · have hnot : api.validate description.transportDesc.iceParameters = none →
        (sender.transport.negotiated description type source).2 = false :=
      fun hvalid => Bool.eq_false_iff.mpr fun haccepted => hcounted ⟨hvalid, haccepted⟩
    rw [negotiate_of_not_counted hinv.negotiator hnot]
    cases hvalid : api.validate description.transportDesc.iceParameters with
    | some message =>
        rw [JsepTransport.setDescription_of_invalid inputs sender.transport hvalid] at hset
        obtain ⟨rfl, -⟩ := Prod.mk.inj (Except.ok.inj hset)
        cases source with
        | csLocal => exact ⟨hinv.negotiator, hinv.active, hinv.own, hinv.bound⟩
        | csRemote => exact ⟨hinv.negotiator, hinv.active, hinv.own, hinv.bound⟩
    | none =>
        rw [JsepTransport.setDescription_of_refused inputs sender.transport hvalid
          (hnot hvalid)] at hset
        obtain ⟨rfl, -⟩ := Prod.mk.inj (Except.ok.inj hset)
        exact ⟨hinv.negotiator, hinv.active, hinv.own, hinv.bound⟩

omit [DecidableEq T] in
/-- A packet moves no pointer; it faults when it gets to a null one. -/
theorem sendPacket_dtlsSrtp (inputs : SendInputs T) (rtcp : Bool) (packet : Bytes)
    (dtls : DtlsSrtpTransport T) :
    (AnyRtpTransport.sendPacket inputs rtcp packet (.dtlsSrtp dtls) =
        .error .nullPacketTransport ∧
      (dtls.toSrtpTransport.outgoing inputs rtcp packet).isSome ∧
      dtls.packetTransport rtcp = none) ∨
    (∃ after sent, AnyRtpTransport.sendPacket inputs rtcp packet (.dtlsSrtp dtls) =
        .ok (.dtlsSrtp after, sent) ∧ after.bindings = dtls.bindings ∧
      ((dtls.toSrtpTransport.outgoing inputs rtcp packet).isSome →
        dtls.packetTransport rtcp ≠ none)) := by
  have hsend : AnyRtpTransport.sendPacket inputs rtcp packet (.dtlsSrtp dtls) =
      (dtls.toSrtpTransport.sendProtected inputs rtcp packet).map fun sent =>
        (.dtlsSrtp { dtls with toSrtpTransport := sent.1 }, sent.2) := by
    cases rtcp <;> rfl
  rw [hsend, SrtpTransport.sendProtected]
  cases houtgoing : dtls.toSrtpTransport.outgoing inputs rtcp packet with
  | none => exact Or.inr ⟨dtls, false, rfl, rfl, by simp⟩
  | some outgoing =>
      rcases dtls.toRtpTransport.sendPacket_spec inputs rtcp outgoing with
        ⟨herror, hnull⟩ | ⟨sent, hok, hpointer, hsame⟩
      · simp only [herror]
        exact Or.inl ⟨rfl, rfl, hnull⟩
      · simp only [hok]
        exact Or.inr ⟨_, sent.2, rfl, bindings_of_sameBinding hsame, fun _ => hpointer⟩

omit [DecidableEq T] in
theorem senderInv_send {sender next : Sender T} {inputs : SendInputs T} {rtcp : Bool}
    {packet : Bytes} (hinv : SenderInv rtpDtlsTransport rtcpDtlsTransport initial sender)
    (hsend : sender.send inputs rtcp packet = .ok next) :
    SenderInv rtpDtlsTransport rtcpDtlsTransport initial next := by
  obtain ⟨dtls, hrtp, hdtls⟩ := hinv.bound
  rw [send, hrtp] at hsend
  rcases sendPacket_dtlsSrtp inputs rtcp packet dtls with
    ⟨herror, -, -⟩ | ⟨after, sent, hok, hbindings, -⟩
  · rw [herror] at hsend
    exact absurd hsend (by simp)
  · rw [hok] at hsend
    obtain rfl := Except.ok.inj hsend
    exact ⟨hinv.negotiator, hinv.active, hinv.own, boundAs_boundFor_of_eq hdtls hbindings⟩

theorem step_senderInv (sender : Sender T) (event : SenderEvent T) (next : Sender T)
    (hinv : SenderInv rtpDtlsTransport rtcpDtlsTransport initial sender)
    (hstep : step api sender event = some (.ok next)) :
    SenderInv rtpDtlsTransport rtcpDtlsTransport initial next := by
  have hhandle := Option.some.inj hstep
  cases event with
  | sendRtpPacket inputs packet => exact senderInv_send hinv hhandle
  | sendRtcpPacket inputs packet => exact senderInv_send hinv hhandle
  | jsep event =>
      simp only [handle] at hhandle
      cases htransport : sender.transport.handle api event with
      | error abort =>
          rw [htransport] at hhandle
          exact absurd hhandle (by simp)
      | ok transport =>
          rw [htransport] at hhandle
          obtain rfl := Except.ok.inj hhandle
          cases event with
          | setDescription source description type inputs =>
              obtain ⟨⟨after, result⟩, hset, rfl⟩ := except_map_eq_ok_iff.mp htransport
              exact senderInv_setDescription hinv hset
          | update update =>
              obtain rfl := Except.ok.inj htransport
              obtain ⟨hfilter, hown⟩ := rest_update api sender.transport update
              exact ⟨hfilter.trans hinv.negotiator, hinv.active, hown.trans hinv.own,
                boundAs_update update hinv.bound⟩

/-! ## The packets that meet no transport -/

/-- RTCP goes to SRTP that is active only where there is an RTCP transport from the start,
or where the descriptions so far have left rtcp-mux on; `initial` says whether it is on
before the first one. -/
def SendsOverTransport (rtcpDtlsTransport : Option T) (initial : Bool) (sender : Sender T)
    (event : SenderEvent T) : Prop :=
  ∀ inputs packet, event = .sendRtcpPacket inputs packet →
    sender.transport.rtpTransport.SendsRtcp inputs packet →
    rtcpDtlsTransport.isSome = true ∨ sender.negotiation.outcome.getD initial = true

omit [DecidableEq T] in
/-- The pointer for RTCP is null when there is no RTCP transport and rtcp-mux is off. -/
theorem packetTransport_eq_none_iff {sender : Sender T} {dtls : DtlsSrtpTransport T}
    (hinv : SenderInv rtpDtlsTransport rtcpDtlsTransport initial sender)
    (hdtls : dtls.bindings = boundFor rtpDtlsTransport rtcpDtlsTransport initial
      sender.negotiation dtls.activeResetSrtpParams) (rtcp : Bool) :
    dtls.packetTransport rtcp = none ↔
      rtcp = true ∧ ¬ (rtcpDtlsTransport.isSome = true ∨
        sender.negotiation.outcome.getD initial = true) := by
  have hrtp : dtls.rtpPacketTransport = some rtpDtlsTransport :=
    congrArg Bindings.rtpPacketTransport hdtls
  have hrtcp : dtls.rtcpPacketTransport =
      if sender.negotiation.filter.isFullyActive then none else rtcpDtlsTransport :=
    congrArg Bindings.rtcpPacketTransport hdtls
  have hmux : dtls.rtcpMuxEnabled = sender.negotiation.outcome.getD initial :=
    congrArg Bindings.rtcpMuxEnabled hdtls
  rw [RtpTransport.packetTransport, hrtp, hrtcp, hmux]
  cases hfully : sender.negotiation.filter.isFullyActive with
  | true => simp [hinv.active hfully]
  | false =>
      cases rtcp <;> cases sender.negotiation.outcome.getD initial <;>
        cases rtcpDtlsTransport <;> simp

omit [DecidableEq T] in
theorem send_null_iff {sender : Sender T} {inputs : SendInputs T} {rtcp : Bool}
    {packet : Bytes} (hinv : SenderInv rtpDtlsTransport rtcpDtlsTransport initial sender) :
    sender.send inputs rtcp packet = .error (.send .nullPacketTransport) ↔
      rtcp = true ∧ sender.transport.rtpTransport.SendsRtcp inputs packet ∧
        ¬ (rtcpDtlsTransport.isSome = true ∨
          sender.negotiation.outcome.getD initial = true) := by
  obtain ⟨dtls, hrtp, hdtls⟩ := hinv.bound
  have hpointer := packetTransport_eq_none_iff hinv hdtls rtcp
  rw [send, hrtp, AnyRtpTransport.SendsRtcp]
  rcases sendPacket_dtlsSrtp inputs rtcp packet dtls with
    ⟨herror, houtgoing, hnull⟩ | ⟨after, sent, hok, -, hset⟩
  · obtain ⟨rfl, hnone⟩ := hpointer.mp hnull
    rw [herror]
    exact iff_of_true rfl ⟨rfl, houtgoing, hnone⟩
  · rw [hok]
    refine iff_of_false (by simp) ?_
    rintro ⟨rfl, houtgoing, hnone⟩
    exact hset houtgoing (hpointer.mpr ⟨rfl, hnone⟩)

theorem step_null_iff (sender : Sender T) (event : SenderEvent T)
    (hinv : SenderInv rtpDtlsTransport rtcpDtlsTransport initial sender) :
    step api sender event = some (.error (.send .nullPacketTransport)) ↔
      ¬ SendsOverTransport rtcpDtlsTransport initial sender event := by
  rw [step, Option.some.injEq]
  cases event with
  | jsep event =>
      refine iff_of_false ?_ ?_
      · simp only [handle]
        cases sender.transport.handle api event <;> simp
      · exact not_not.mpr fun _ _ hevent => absurd hevent (by simp)
  | sendRtpPacket inputs packet =>
      refine iff_of_false (fun hnull => ?_) ?_
      · exact absurd ((send_null_iff hinv).mp hnull).1 Bool.false_ne_true
      · exact not_not.mpr fun _ _ hevent => absurd hevent (by simp)
  | sendRtcpPacket inputs packet =>
      rw [handle, send_null_iff hinv]
      constructor
      · rintro ⟨-, hsends, hnone⟩ hover
        exact hnone (hover inputs packet rfl hsends)
      · intro hmiss
        simp only [SendsOverTransport, not_forall] at hmiss
        obtain ⟨otherInputs, otherPacket, hevent, hsends, hnone⟩ := hmiss
        obtain ⟨rfl, rfl⟩ := SenderEvent.sendRtcpPacket.inj hevent
        exact ⟨rfl, hsends, hnone⟩

/-- A JSEP transport over a DTLS-SRTP transport that is bound to its DTLS transports: a run
comes to no null packet transport if and only if it sends no RTCP over active SRTP while
there is no RTCP transport and the descriptions so far have left rtcp-mux off. -/
theorem never_null_iff (api : JsepApi) (mid : Bytes) (localCertificate : Option Certificate)
    (rtpDtlsTransport : T) (rtcpDtlsTransport : Option T) (dtls : DtlsSrtpTransport T)
    (hbound : dtls.bindings =
      { rtpPacketTransport := some rtpDtlsTransport
        rtcpPacketTransport := rtcpDtlsTransport
        rtpDtlsTransport := some rtpDtlsTransport
        rtcpDtlsTransport := rtcpDtlsTransport
        rtcpMuxEnabled := dtls.rtcpMuxEnabled
        activeResetSrtpParams := dtls.activeResetSrtpParams })
    (events : List (SenderEvent T)) :
    let start : Sender T :=
      { transport := .create mid localCertificate (.dtlsSrtp dtls) rtpDtlsTransport
          rtcpDtlsTransport }
    (∀ before after, events = before ++ after →
        run (step api) start before ≠ some (.error (.send .nullPacketTransport))) ↔
      Guarded (step api) (SendsOverTransport rtcpDtlsTransport dtls.rtcpMuxEnabled) start
        events := by
  intro start
  have hinit : SenderInv rtpDtlsTransport rtcpDtlsTransport dtls.rtcpMuxEnabled start :=
    ⟨rfl, fun hfully => absurd hfully Bool.false_ne_true, rfl, dtls, rfl, hbound⟩
  exact guarded_iff_never_faults step_senderInv step_null_iff hinit events

end Inv

/-! ## An answer without rtcp-mux -/

/-- What the controller creates for a section without an RTCP transport. -/
def soloDtlsSrtpTransport : DtlsSrtpTransport ℕ :=
  { DtlsSrtpTransport.create true with
    rtpPacketTransport := some 0
    rtpDtlsTransport := some 0
    activeResetSrtpParams := true
    trace := [.subscribeDtlsTransportState 0] }

def soloSender : Sender ℕ where
  transport := .create [] (some [1]) (.dtlsSrtp soloDtlsSrtpTransport) 0 none

/-- The answer of a peer that does without rtcp-mux. -/
def answerWithoutMux : JsepTransportDescription :=
  { (sampleProposal [2] .active).description with rtcpMuxEnabled := false }

/-- The offer asks for rtcp-mux, the answer refuses it, DTLS connects, and RTCP is sent. -/
def rtcpWithoutMux : List (SenderEvent ℕ) :=
  [.jsep (JsepTransport.sampleCall .csLocal .offer (sampleProposal [1] .actpass)),
    .jsep (.setDescription .csRemote answerWithoutMux .answer {}),
    .jsep (.update (.onDtlsState 0 .connected DtlsSrtpTransport.connectedInputs)),
    .sendRtcpPacket {} [1]]

/-- The run ends at a null packet transport. -/
theorem rtcpWithoutMux_null :
    createDtlsSrtpTransport registeredSrtpApi {} true 0 none = .ok soloDtlsSrtpTransport ∧
      ¬ ∀ before after, rtcpWithoutMux = before ++ after →
        run (step sampleApi) soloSender before ≠
          some (.error (.send .nullPacketTransport)) := by
  refine ⟨rfl, fun hnever => ?_⟩
  apply hnever rtcpWithoutMux [] (List.append_nil _).symm
  rfl

/-- The same run with an RTCP transport. -/
theorem never_null_iff_paired :
    let dtls : DtlsSrtpTransport ℕ :=
      { soloDtlsSrtpTransport with
        rtcpMuxEnabled := false
        rtcpPacketTransport := some 1
        rtcpDtlsTransport := some 1 }
    ∀ before after, rtcpWithoutMux = before ++ after →
      run (step sampleApi)
          { transport := .create [] (some [1]) (.dtlsSrtp dtls) 0 (some 1) } before ≠
        some (.error (.send .nullPacketTransport)) := by
  intro dtls
  refine (never_null_iff sampleApi [] (some [1]) 0 (some 1) dtls rfl rtcpWithoutMux).mpr ?_
  exact guarded_of_forall (fun _ _ _ _ _ _ _ => Or.inl rfl) _

end Sender

end PeerConnection.Jsep
