import PeerConnection.Jsep.JsepTransport
import PeerConnection.Srtp.RtcpBinding

/-!
# Description calls

A JSEP transport takes descriptions of either side, accepted or refused, and between them
its DTLS transports report what happens.  What a call does to the rtcp-mux negotiation, to
the flag of the RTP transport and to all that refers to the RTCP transport is said once.
-/

namespace PeerConnection.Jsep

open PeerConnection.Sdp
open PeerConnection.Srtp
open PeerConnection.Runs

variable {T : Type*}

namespace AnyRtpTransport

/-- `rtp_transport()`. -/
def rtp : AnyRtpTransport T → RtpTransport T
  | .unencrypted rtp => rtp
  | .sdes srtp => srtp.toRtpTransport
  | .dtlsSrtp dtls => dtls.toRtpTransport

/-- `rtcp_dtls_transport_` of a DTLS-SRTP transport. -/
def rtcpDtlsPointer : AnyRtpTransport T → Option T
  | .unencrypted _ | .sdes _ => none
  | .dtlsSrtp dtls => dtls.rtcpDtlsTransport

def isSdes : AnyRtpTransport T → Bool
  | .sdes _ => true
  | .unencrypted _ | .dtlsSrtp _ => false

/-- Every pointer to an RTCP transport is null or this one. -/
structure PointsOnlyTo (rtpTransport : AnyRtpTransport T) (rtcp : Option T) : Prop where
  packet : ∀ pointer, rtpTransport.rtp.rtcpPacketTransport = some pointer →
    rtcp = some pointer
  dtls : ∀ pointer, rtpTransport.rtcpDtlsPointer = some pointer → rtcp = some pointer

/-- The flag and the pointers to RTCP transports are what they were. -/
structure SameRtcpHold (before after : AnyRtpTransport T) : Prop where
  rtcpMuxEnabled : after.rtp.rtcpMuxEnabled = before.rtp.rtcpMuxEnabled
  rtcpPacketTransport : after.rtp.rtcpPacketTransport = before.rtp.rtcpPacketTransport
  rtcpDtlsPointer : after.rtcpDtlsPointer = before.rtcpDtlsPointer
  isSdes : after.isSdes = before.isSdes

theorem SameRtcpHold.refl (rtpTransport : AnyRtpTransport T) :
    SameRtcpHold rtpTransport rtpTransport :=
  ⟨rfl, rfl, rfl, rfl⟩

theorem SameRtcpHold.pointsOnlyTo {before after : AnyRtpTransport T} {rtcp : Option T}
    (hsame : SameRtcpHold before after) (hpoints : before.PointsOnlyTo rtcp) :
    after.PointsOnlyTo rtcp := by
  constructor
  · rw [hsame.rtcpPacketTransport]
    exact hpoints.packet
  · rw [hsame.rtcpDtlsPointer]
    exact hpoints.dtls

theorem sameRtcpHold_of_binding {before after : DtlsSrtpTransport T}
    (hsame : DtlsSrtpTransport.SameRtcpBinding before after) :
    SameRtcpHold (.dtlsSrtp before) (.dtlsSrtp after) :=
  ⟨hsame.packet.rtcpMuxEnabled, hsame.packet.rtcpPacketTransport, hsame.rtcpDtlsTransport, rfl⟩

end AnyRtpTransport

namespace JsepTransport

/-- The description that calls of this source set. -/
def ownDescription (transport : JsepTransport T) (source : ContentSource) :
    Option JsepTransportDescription :=
  match source with
  | .csLocal => transport.localDescription
  | .csRemote => transport.remoteDescription

/-! ## rtcp-mux -/

section RtcpMux

variable [DecidableEq T] (api : JsepApi) (inputs : JsepInputs T) (transport : JsepTransport T)

/-- The activation calls back, drops the RTCP transport and leaves no pointer to it. -/
structure Activated (before after : JsepTransport T) : Prop where
  rtpTransport : after.rtpTransport.PointsOnlyTo none
  rtcpMuxEnabled : after.rtpTransport.rtp.rtcpMuxEnabled =
    before.rtpTransport.rtp.rtcpMuxEnabled
  isSdes : after.rtpTransport.isSdes = before.rtpTransport.isSdes
  rest : after =
    { before with
      rtpTransport := after.rtpTransport
      rtcpDtlsTransport := none
      calls := before.calls ++ [.rtcpMuxActiveCallback] }

theorem activateRtcpMux_spec :
    ∃ after, transport.activateRtcpMux api inputs = .ok after ∧ Activated transport after := by
  rw [activateRtcpMux]
  cases hrtp : transport.rtpTransport with
  | unencrypted rtp =>
      have hset := rtp.setRtcpPacketTransport_same inputs.activate.writable none
      refine ⟨_, rfl, ⟨?_, by simp [call, AnyRtpTransport.rtcpDtlsPointer]⟩, ?_, ?_, rfl⟩
      · intro pointer hpointer
        exact absurd (hset.rtcpPacketTransport.symm.trans hpointer) (by simp)
      · rw [hrtp]
        exact hset.rtcpMuxEnabled
      · rw [hrtp]
        rfl
  | sdes srtp =>
      have hset := srtp.toRtpTransport.setRtcpPacketTransport_same inputs.activate.writable none
      refine ⟨_, rfl, ⟨?_, by simp [call, AnyRtpTransport.rtcpDtlsPointer]⟩, ?_, ?_, rfl⟩
      · intro pointer hpointer
        exact absurd (hset.rtcpPacketTransport.symm.trans hpointer) (by simp)
      · rw [hrtp]
        exact hset.rtcpMuxEnabled
      · rw [hrtp]
        rfl
  | dtlsSrtp dtls =>
      cases hbound : dtls.setDtlsTransports api.srtp inputs.activate
          (some transport.rtpDtlsTransport) none with
      | error abort => simp [DtlsSrtpTransport.setDtlsTransports] at hbound
      | ok bound =>
          obtain ⟨hmux, hpacket, hdtls⟩ :=
            DtlsSrtpTransport.setDtlsTransports_rtcp api.srtp inputs.activate hbound
          simp only [hbound]
          refine ⟨_, rfl, ⟨?_, ?_⟩, ?_, ?_, rfl⟩
          · intro pointer hpointer
            exact absurd (hpacket.symm.trans hpointer) (by simp)
          · intro pointer hpointer
            exact absurd (hdtls.symm.trans hpointer) (by simp)
          · rw [hrtp]
            exact hmux
          · rw [hrtp]
            rfl

omit [DecidableEq T] in
theorem setRtcpMuxEnabled_spec (rtpTransport : AnyRtpTransport T) (enable : Bool) :
    let after := setRtcpMuxEnabled api inputs rtpTransport enable
    after.rtp.rtcpMuxEnabled = enable ∧
      after.rtp.rtcpPacketTransport = rtpTransport.rtp.rtcpPacketTransport ∧
      after.rtcpDtlsPointer = rtpTransport.rtcpDtlsPointer ∧
      after.isSdes = rtpTransport.isSdes := by
  cases rtpTransport with
  | unencrypted rtp =>
      have hset := rtp.setRtcpMuxEnabled_same enable
      exact ⟨hset.rtcpMuxEnabled, hset.rtcpPacketTransport, rfl, rfl⟩
  | sdes srtp =>
      have hset := srtp.toRtpTransport.setRtcpMuxEnabled_same enable
      exact ⟨hset.rtcpMuxEnabled, hset.rtcpPacketTransport, rfl, rfl⟩
  | dtlsSrtp dtls =>
      obtain ⟨hmux, hpacket, hdtls⟩ := dtls.setRtcpMuxEnabled_rtcp api.srtp inputs.enable enable
      exact ⟨hmux, hpacket, hdtls, rfl⟩

/-- What the negotiator makes of the flag of a description. -/
def negotiated (description : JsepTransportDescription) (type : SdpType)
    (source : ContentSource) : RtcpMuxFilter × Bool :=
  transport.rtcpMuxNegotiator.set type description.rtcpMuxEnabled source

/-- The description brings rtcp-mux about for good. -/
def activates (description : JsepTransportDescription) (type : SdpType)
    (source : ContentSource) : Bool :=
  type = .answer && (transport.negotiated description type source).1.isActive

/-- The RTCP transport after the rtcp-mux part of a call. -/
def rtcpAfterMux (description : JsepTransportDescription) (type : SdpType)
    (source : ContentSource) : Option T :=
  if transport.activates description type source then none else transport.rtcpDtlsTransport

/-- The rtcp-mux part of a call has been accepted. -/
structure MuxSet (description : JsepTransportDescription) (type : SdpType)
    (source : ContentSource) (before after : JsepTransport T) : Prop where
  rtcpMuxEnabled : after.rtpTransport.rtp.rtcpMuxEnabled =
    (before.negotiated description type source).1.isActive
  isSdes : after.rtpTransport.isSdes = before.rtpTransport.isSdes
  pointsOnlyTo : before.rtpTransport.PointsOnlyTo before.rtcpDtlsTransport →
    after.rtpTransport.PointsOnlyTo (before.rtcpAfterMux description type source)
  rest : after =
    { before with
      rtcpMuxNegotiator := (before.negotiated description type source).1
      rtpTransport := after.rtpTransport
      rtcpDtlsTransport := before.rtcpAfterMux description type source
      calls := before.calls ++
        if before.activates description type source then [.rtcpMuxActiveCallback] else [] }

section MuxSet

variable {description : JsepTransportDescription} {type : SdpType} {source : ContentSource}
  {before after : JsepTransport T}

omit [DecidableEq T]

theorem MuxSet.rtcpMuxNegotiator (hset : MuxSet description type source before after) :
    after.rtcpMuxNegotiator = (before.negotiated description type source).1 := by
  conv_lhs => rw [hset.rest]

theorem MuxSet.rtcpDtlsTransport (hset : MuxSet description type source before after) :
    after.rtcpDtlsTransport = before.rtcpAfterMux description type source := by
  conv_lhs => rw [hset.rest]

theorem MuxSet.dtlsTransports (hset : MuxSet description type source before after) :
    after.dtlsTransports = before.rtpDtlsTransport ::
      (before.rtcpAfterMux description type source).toList := by
  conv_lhs => rw [hset.rest]
  rfl

theorem MuxSet.localCertificate (hset : MuxSet description type source before after) :
    after.localCertificate = before.localCertificate := by
  conv_lhs => rw [hset.rest]

theorem MuxSet.ownDescription (hset : MuxSet description type source before after)
    (side : ContentSource) : after.ownDescription side = before.ownDescription side := by
  conv_lhs => rw [hset.rest]
  cases side <;> rfl

end MuxSet

theorem set_eq_of_refused {filter : RtcpMuxFilter} {type : SdpType} {enable : Bool}
    {source : ContentSource} (hrefused : (filter.set type enable source).2 = false) :
    (filter.set type enable source).1 = filter := by
  obtain ⟨state, offerEnable⟩ := filter
  cases type <;> cases state <;> cases source <;> cases enable <;> cases offerEnable <;>
    first
    | rfl
    | exact absurd hrefused (by decide)

/-- A refused flag changes nothing. -/
theorem setRtcpMux_refused {description : JsepTransportDescription} {type : SdpType}
    {source : ContentSource}
    (hrefused : (transport.negotiated description type source).2 = false) :
    transport.setRtcpMux api inputs description.rtcpMuxEnabled type source =
      .ok (transport, false) := by
  have hfilter := set_eq_of_refused hrefused
  rw [negotiated] at hrefused
  simp only [setRtcpMux, hrefused, hfilter, Bool.and_false, Bool.false_and, Bool.false_eq_true,
    if_false, Except.map, Bool.not_false, if_true]

theorem setRtcpMux_accepted {description : JsepTransportDescription} {type : SdpType}
    {source : ContentSource}
    (haccepted : (transport.negotiated description type source).2 = true) :
    ∃ after, transport.setRtcpMux api inputs description.rtcpMuxEnabled type source =
        .ok (after, true) ∧
      MuxSet description type source transport after := by
  have hret := haccepted
  rw [negotiated] at hret
  simp only [setRtcpMux, hret, Bool.and_true, Bool.not_true, Bool.false_eq_true, if_false]
  cases hactivates : transport.activates description type source with
  | false =>
      have hkept : (type = .answer && (transport.rtcpMuxNegotiator.set type
          description.rtcpMuxEnabled source).1.isActive) = false := hactivates
      obtain ⟨hmux, hpacket, hdtls, hsdes⟩ := setRtcpMuxEnabled_spec api inputs
        transport.rtpTransport (transport.negotiated description type source).1.isActive
      have hsame : transport.rtcpAfterMux description type source =
          transport.rtcpDtlsTransport := by simp [rtcpAfterMux, hactivates]
      simp only [hkept, Bool.false_eq_true, if_false, Except.map]
      refine ⟨_, rfl, hmux, hsdes, fun hpoints => ?_, ?_⟩
      · rw [hsame]
        constructor
        · intro pointer hpointer
          exact hpoints.packet pointer (hpacket.symm.trans hpointer)
        · intro pointer hpointer
          exact hpoints.dtls pointer (hdtls.symm.trans hpointer)
      · simp [hsame, hactivates, negotiated]
  | true =>
      have hactive : (type = .answer && (transport.rtcpMuxNegotiator.set type
          description.rtcpMuxEnabled source).1.isActive) = true := hactivates
      obtain ⟨activated, hok, hactivated⟩ := activateRtcpMux_spec api inputs
        { transport with
          rtcpMuxNegotiator := (transport.negotiated description type source).1 }
      obtain ⟨hmux, hpacket, hdtls, hsdes⟩ := setRtcpMuxEnabled_spec api inputs
        activated.rtpTransport (transport.negotiated description type source).1.isActive
      have hnone : transport.rtcpAfterMux description type source = none := by
        simp [rtcpAfterMux, hactivates]
      rw [negotiated] at hok
      simp only [hactive, if_true, hok, Except.map]
      refine ⟨_, rfl, hmux, hsdes.trans hactivated.isSdes, fun _ => ?_, ?_⟩
      · rw [hnone]
        constructor
        · intro pointer hpointer
          exact hactivated.rtpTransport.packet pointer (hpacket.symm.trans hpointer)
        · intro pointer hpointer
          exact hactivated.rtpTransport.dtls pointer (hdtls.symm.trans hpointer)
      · rw [hnone, hactivates]
        conv_lhs => rw [hactivated.rest]
        rfl

end RtcpMux

/-! ## The DTLS parameters -/

/-- The later transport differs in further calls, all of them of the allowed kind. -/
def CallsOnly (allowed : JsepCall T → Prop) (before after : JsepTransport T) : Prop :=
  ∃ extra, after = before.call extra ∧ ∀ each ∈ extra, allowed each

/-- The calls that pass the negotiated DTLS parameters on. -/
def DtlsParameter : JsepCall T → Prop
  | .setDtlsRole _ _ | .setRemoteFingerprint _ _ => True
  | .setIceParameters _ _ | .setRemoteIceParameters _ _ | .setRemoteIceMode _ _
  | .rtcpMuxActiveCallback => False

theorem CallsOnly.refl (allowed : JsepCall T → Prop) (transport : JsepTransport T) :
    CallsOnly allowed transport transport :=
  ⟨[], by simp [call], by simp⟩

theorem CallsOnly.trans {allowed : JsepCall T → Prop} {first second third : JsepTransport T}
    (hfirst : CallsOnly allowed first second) (hsecond : CallsOnly allowed second third) :
    CallsOnly allowed first third := by
  obtain ⟨front, rfl, hfront⟩ := hfirst
  obtain ⟨back, rfl, hback⟩ := hsecond
  refine ⟨front ++ back, by simp [call], ?_⟩
  intro each heach
  exact (List.mem_append.mp heach).elim (hfront each) (hback each)

/-- The DTLS transport takes the role, if there is one, and the fingerprint. -/
def takes (answers : DtlsAnswers) (dtlsRole : Option SslRole) : Bool :=
  (dtlsRole.isNone || answers.setDtlsRole) && answers.setRemoteFingerprint

variable (inputs : JsepInputs T) (transport : JsepTransport T)

theorem setNegotiatedDtlsParameters_spec (answers : DtlsAnswers) (dtlsTransport : T)
    (dtlsRole : Option SslRole) (remoteFingerprint : SslFingerprint) :
    let outcome := transport.setNegotiatedDtlsParameters answers dtlsTransport dtlsRole
      remoteFingerprint
    CallsOnly DtlsParameter transport outcome.1 ∧
      (outcome.2 = .ok () ↔ takes answers dtlsRole = true) := by
  have hrole : CallsOnly DtlsParameter transport
      (transport.call (dtlsRole.toList.map (.setDtlsRole dtlsTransport))) := by
    refine ⟨_, rfl, ?_⟩
    intro each heach
    obtain ⟨role, -, rfl⟩ := List.mem_map.mp heach
    trivial
  have hfingerprint := hrole.trans
    ⟨[.setRemoteFingerprint dtlsTransport remoteFingerprint], rfl, by simp [DtlsParameter]⟩
  simp only [setNegotiatedDtlsParameters]
  cases dtlsRole with
  | none =>
      cases htaken : answers.setRemoteFingerprint with
      | false => exact ⟨hfingerprint, by simp [takes, htaken]⟩
      | true => exact ⟨hfingerprint, by simp [takes, htaken]⟩
  | some role =>
      cases hset : answers.setDtlsRole with
      | false => exact ⟨hrole, by simp [takes, hset]⟩
      | true =>
          cases htaken : answers.setRemoteFingerprint with
          | false => exact ⟨hfingerprint, by simp [takes, htaken]⟩
          | true => exact ⟨hfingerprint, by simp [takes, hset, htaken]⟩

/-- The RTP transport and the RTCP transport, where there is one, take the parameters. -/
def bothTake (rtcpDtlsTransport : Option T) (dtlsRole : Option SslRole) : Bool :=
  takes inputs.rtp dtlsRole && (rtcpDtlsTransport.isNone || takes inputs.rtcp dtlsRole)

theorem pushNegotiated_spec (dtlsRole : Option SslRole) (remoteFingerprint : SslFingerprint) :
    let outcome := transport.pushNegotiated inputs dtlsRole remoteFingerprint
    CallsOnly DtlsParameter transport outcome.1 ∧
      (outcome.2 = .ok () ↔ bothTake inputs transport.rtcpDtlsTransport dtlsRole = true) := by
  obtain ⟨hrtp, hrtpOk⟩ := transport.setNegotiatedDtlsParameters_spec inputs.rtp
    transport.rtpDtlsTransport dtlsRole remoteFingerprint
  simp only [pushNegotiated]
  generalize transport.setNegotiatedDtlsParameters inputs.rtp transport.rtpDtlsTransport
    dtlsRole remoteFingerprint = first at hrtp hrtpOk
  obtain ⟨withRtp, result⟩ := first
  cases result with
  | error error =>
      refine ⟨hrtp, iff_of_false (by simp) ?_⟩
      have hrefused : takes inputs.rtp dtlsRole ≠ true := fun htaken =>
        absurd (hrtpOk.mpr htaken) (by simp)
      simp [bothTake, hrefused]
  | ok value =>
      have htaken := hrtpOk.mp rfl
      cases hrtcp : transport.rtcpDtlsTransport with
      | none => exact ⟨hrtp, iff_of_true rfl (by simp [bothTake, htaken])⟩
      | some rtcpDtlsTransport =>
          obtain ⟨hboth, hbothOk⟩ := withRtp.setNegotiatedDtlsParameters_spec inputs.rtcp
            rtcpDtlsTransport dtlsRole remoteFingerprint
          refine ⟨hrtp.trans hboth, hbothOk.trans ?_⟩
          simp [bothTake, htaken]

/-- An answer of either kind can be negotiated: both descriptions are there and come to
terms, and the DTLS transports take the outcome. -/
def Negotiable (rtcpDtlsTransport : Option T) (localDescriptionType : SdpType)
    (localDescription remoteDescription : Option JsepTransportDescription) : Prop :=
  ∃ own other role fingerprint, localDescription = some own ∧ remoteDescription = some other ∧
    negotiateDtls inputs.dtlsRole localDescriptionType own.transportDesc other.transportDesc =
      .ok (role, fingerprint) ∧
    bothTake inputs rtcpDtlsTransport role = true

theorem negotiateAndSetDtlsParameters_spec (localDescriptionType : SdpType) :
    let outcome := transport.negotiateAndSetDtlsParameters inputs localDescriptionType
    CallsOnly DtlsParameter transport outcome.1 ∧
      (outcome.2 = .ok () ↔ Negotiable inputs transport.rtcpDtlsTransport localDescriptionType
        transport.localDescription transport.remoteDescription) := by
  simp only [negotiateAndSetDtlsParameters]
  split
  case h_2 hmissing =>
    refine ⟨CallsOnly.refl _ _, iff_of_false (by simp) ?_⟩
    rintro ⟨own, other, role, fingerprint, hown, hother, -⟩
    exact hmissing own other hown hother
  case h_1 own other hown hother =>
    split
    case h_1 error hnegotiate =>
      refine ⟨CallsOnly.refl _ _, iff_of_false (by simp) ?_⟩
      rintro ⟨own', other', role, fingerprint, hown', hother', hok, -⟩
      obtain rfl := Option.some.inj (hown.symm.trans hown')
      obtain rfl := Option.some.inj (hother.symm.trans hother')
      exact absurd (hnegotiate.symm.trans hok) (by simp)
    case h_2 role fingerprint hnegotiate =>
      obtain ⟨hcalls, hok⟩ := transport.pushNegotiated_spec inputs role fingerprint
      refine ⟨hcalls, hok.trans ⟨fun htaken => ?_, ?_⟩⟩
      · exact ⟨own, other, role, fingerprint, hown, hother, hnegotiate, htaken⟩
      · rintro ⟨own', other', role', fingerprint', hown', hother', hok', htaken⟩
        obtain rfl := Option.some.inj (hown.symm.trans hown')
        obtain rfl := Option.some.inj (hother.symm.trans hother')
        obtain ⟨rfl, -⟩ := Prod.mk.inj (Except.ok.inj (hnegotiate.symm.trans hok'))
        exact htaken

/-- With a description of this type the transport protocol is decided. -/
def Decides (type : SdpType) : Prop := type = .prAnswer ∨ type = .answer

theorem decideTransportProtocol_spec (type localDescriptionType : SdpType) :
    let outcome := transport.decideTransportProtocol inputs type localDescriptionType
    CallsOnly DtlsParameter transport outcome.1 ∧
      (outcome.2 = .ok () ↔ (Decides type → Negotiable inputs transport.rtcpDtlsTransport
        localDescriptionType transport.localDescription transport.remoteDescription)) := by
  simp only [decideTransportProtocol]
  by_cases hdecides : Decides type
  · have hcond : (decide (type = .prAnswer) || decide (type = .answer)) = true := by
      simpa [Decides] using hdecides
    rw [if_pos hcond]
    obtain ⟨hcalls, hok⟩ := transport.negotiateAndSetDtlsParameters_spec inputs
      localDescriptionType
    exact ⟨hcalls, hok.trans ⟨fun hnegotiable _ => hnegotiable, fun hall => hall hdecides⟩⟩
  · have hcond : ¬ (decide (type = .prAnswer) || decide (type = .answer)) = true := by
      simpa [Decides] using hdecides
    rw [if_neg hcond]
    exact ⟨CallsOnly.refl _ _, iff_of_true rfl fun hanswer => absurd hanswer hdecides⟩

/-! ## Either side -/

def withDescription (source : ContentSource) (description : Option JsepTransportDescription) :
    JsepTransport T :=
  match source with
  | .csLocal => { transport with localDescription := description }
  | .csRemote => { transport with remoteDescription := description }

theorem rtcpMuxNegotiator_withDescription (source : ContentSource)
    (description : Option JsepTransportDescription) :
    (transport.withDescription source description).rtcpMuxNegotiator =
      transport.rtcpMuxNegotiator := by
  cases source <;> rfl

theorem localCertificate_withDescription (source : ContentSource)
    (description : Option JsepTransportDescription) :
    (transport.withDescription source description).localCertificate =
      transport.localCertificate := by
  cases source <;> rfl

theorem ownDescription_withDescription (source : ContentSource)
    (description : Option JsepTransportDescription) (side : ContentSource) :
    (transport.withDescription source description).ownDescription side =
      if side = source then description else transport.ownDescription side := by
  cases source <;> cases side <;> rfl

/-- With a remote description this side has made the offer. -/
def localDescriptionType (source : ContentSource) (type : SdpType) : SdpType :=
  match source with
  | .csLocal => type
  | .csRemote => .offer

/-- The certificate after a description: a local one without a fingerprint drops it. -/
def keptCertificate (source : ContentSource) (description : JsepTransportDescription) :
    Option Certificate :=
  if source = .csLocal ∧ description.transportDesc.identityFingerprint = none then none
  else transport.localCertificate

/-- The ICE parameters go to all ICE transports in use. -/
def icePushes (source : ContentSource) (description : JsepTransportDescription) :
    List (JsepCall T) :=
  let parameters := description.transportDesc.iceParameters
  match source with
  | .csLocal => transport.dtlsTransports.map fun each => .setIceParameters each parameters
  | .csRemote =>
      transport.dtlsTransports.flatMap fun each =>
        [.setRemoteIceParameters each parameters, .setRemoteIceMode each description.iceMode]

section Calls

variable [DecidableEq T] (api : JsepApi)

/-- `SetLocalJsepTransportDescription` and `SetRemoteJsepTransportDescription`. -/
def setDescription (source : ContentSource) (description : JsepTransportDescription)
    (type : SdpType) : Except JsepAbort (JsepResult T) :=
  match source with
  | .csLocal => transport.setLocalJsepTransportDescription api inputs description type
  | .csRemote => transport.setRemoteJsepTransportDescription api inputs description type

end Calls

/-- The part after rtcp-mux and the encrypted header extension ids. -/
def applyDescription (api : JsepApi) (source : ContentSource)
    (description : JsepTransportDescription) (type : SdpType) :
    Except JsepAbort (JsepResult T) :=
  match source with
  | .csLocal => transport.applyLocalDescription api inputs description type
  | .csRemote => .ok (transport.applyRemoteDescription inputs description type)

/-- A local description has no fingerprint, or that of the certificate. -/
def Fits (api : JsepApi) (source : ContentSource) (description : JsepTransportDescription) :
    Prop :=
  source = .csLocal → ∀ fingerprint,
    description.transportDesc.identityFingerprint = some fingerprint →
    verifyCertificateFingerprint api transport.localCertificate (some fingerprint) =
      .ok (.ok ())

/-- A local description has a fingerprint that is not the one of the certificate. -/
def Misfits (api : JsepApi) (source : ContentSource) (description : JsepTransportDescription) :
    Prop :=
  source = .csLocal ∧ ∃ fingerprint error,
    description.transportDesc.identityFingerprint = some fingerprint ∧
    verifyCertificateFingerprint api transport.localCertificate (some fingerprint) =
      .ok (.error error)

/-- The new description is negotiable with the one of the other side, where its type calls
for that. -/
def Agreeable (source : ContentSource) (description : JsepTransportDescription)
    (type : SdpType) (rtcpDtlsTransport : Option T) : Prop :=
  Decides type → Negotiable inputs rtcpDtlsTransport (localDescriptionType source type)
    (transport.withDescription source (some description)).localDescription
    (transport.withDescription source (some description)).remoteDescription

/-- How a call ends that has come to the negotiation of the DTLS parameters. -/
structure Ended (source : ContentSource) (description : JsepTransportDescription)
    (type : SdpType) (before after : JsepTransport T) (result : Except RtcError Unit) :
    Prop where
  accepted : result = .ok () ↔
    before.Agreeable inputs source description type before.rtcpDtlsTransport
  after_eq : ∃ extra, (∀ each ∈ extra, DtlsParameter each) ∧
    after =
      { before.withDescription source (result.toOption.map fun _ => description) with
        localCertificate := before.keptCertificate source description
        needsIceRestart := after.needsIceRestart
        calls := before.calls ++ (before.icePushes source description ++ extra) }

theorem finishLocalDescription_spec (description : JsepTransportDescription) (type : SdpType)
    (iceRestarting : Bool) {described : JsepTransport T}
    (hdescribed : described = { transport with
      localDescription := some description
      localCertificate := transport.keptCertificate .csLocal description }) :
    let outcome := described.finishLocalDescription inputs description.transportDesc.iceParameters
      type iceRestarting
    Ended inputs .csLocal description type transport outcome.1 outcome.2 := by
  simp only [finishLocalDescription]
  obtain ⟨⟨extra, hextra, hallowed⟩, hok⟩ := decideTransportProtocol_spec inputs
    (described.call (described.dtlsTransports.map fun each =>
      .setIceParameters each description.transportDesc.iceParameters)) type type
  subst hdescribed
  generalize decideTransportProtocol inputs _ type type = outcome at hextra hok ⊢
  obtain ⟨negotiated, result⟩ := outcome
  obtain rfl : negotiated = _ := hextra
  cases result with
  | error error =>
      refine ⟨hok, extra, hallowed, ?_⟩
      simp [call, icePushes, dtlsTransports, withDescription, Except.toOption]
  | ok value =>
      refine ⟨hok, extra, hallowed, ?_⟩
      simp [call, icePushes, dtlsTransports, withDescription, Except.toOption]

theorem applyRemoteDescription_spec (description : JsepTransportDescription)
    (type : SdpType) :
    let outcome := transport.applyRemoteDescription inputs description type
    Ended inputs .csRemote description type transport outcome.1 outcome.2 := by
  simp only [applyRemoteDescription]
  obtain ⟨⟨extra, hextra, hallowed⟩, hok⟩ := decideTransportProtocol_spec inputs
    (JsepTransport.call { transport with remoteDescription := some description }
      (JsepTransport.dtlsTransports
        { transport with remoteDescription := some description } |>.flatMap fun each =>
        [.setRemoteIceParameters each description.transportDesc.iceParameters,
          .setRemoteIceMode each description.iceMode])) type .offer
  generalize decideTransportProtocol inputs _ type .offer = outcome at hextra hok ⊢
  obtain ⟨negotiated, result⟩ := outcome
  obtain rfl : negotiated = _ := hextra
  cases result with
  | error error =>
      refine ⟨hok, extra, hallowed, ?_⟩
      simp [call, icePushes, dtlsTransports, withDescription, keptCertificate, Except.toOption]
  | ok value =>
      refine ⟨hok, extra, hallowed, ?_⟩
      simp [call, icePushes, dtlsTransports, withDescription, keptCertificate, Except.toOption]

/-- A local description with the wrong fingerprint is dropped at once. -/
theorem applyDescription_of_misfits {api : JsepApi} {source : ContentSource}
    {description : JsepTransportDescription} {type : SdpType}
    (hmisfits : transport.Misfits api source description) :
    ∃ error, transport.applyDescription inputs api source description type =
      .ok (transport.withDescription source none, .error error) := by
  obtain ⟨rfl, fingerprint, error, hfingerprint, hverify⟩ := hmisfits
  refine ⟨error, ?_⟩
  simp [applyDescription, applyLocalDescription, hfingerprint, hverify, withDescription]

theorem applyDescription_of_fits {api : JsepApi} {source : ContentSource}
    {description : JsepTransportDescription} {type : SdpType}
    (hfits : transport.Fits api source description) :
    ∃ after result, transport.applyDescription inputs api source description type =
        .ok (after, result) ∧
      Ended inputs source description type transport after result := by
  cases source with
  | csRemote => exact ⟨_, _, rfl, transport.applyRemoteDescription_spec inputs description type⟩
  | csLocal =>
      simp only [applyDescription, applyLocalDescription]
      cases hfingerprint : description.transportDesc.identityFingerprint with
      | none =>
          refine ⟨_, _, rfl, transport.finishLocalDescription_spec inputs description type _ ?_⟩
          simp [keptCertificate, hfingerprint]
      | some fingerprint =>
          simp only [hfits rfl fingerprint hfingerprint]
          refine ⟨_, _, rfl, transport.finishLocalDescription_spec inputs description type _ ?_⟩
          simp [keptCertificate, hfingerprint]

/-- Otherwise the fingerprint cannot be compared, and the process ends. -/
theorem applyDescription_aborts {api : JsepApi} {source : ContentSource}
    {description : JsepTransportDescription} {type : SdpType}
    (hfits : ¬ transport.Fits api source description)
    (hmisfits : ¬ transport.Misfits api source description) :
    ∃ abort, transport.applyDescription inputs api source description type = .error abort := by
  simp only [Fits, Classical.not_imp, not_forall] at hfits
  obtain ⟨rfl, fingerprint, hfingerprint, hverify⟩ := hfits
  simp only [applyDescription, applyLocalDescription, hfingerprint]
  cases hresult : verifyCertificateFingerprint api transport.localCertificate
      (some fingerprint) with
  | error abort => exact ⟨abort, rfl⟩
  | ok result =>
      cases result with
      | error error => exact absurd ⟨rfl, fingerprint, error, hfingerprint, hresult⟩ hmisfits
      | ok value => exact absurd hresult hverify

/-! ## The two calls -/

section Outcomes

variable [DecidableEq T] {api : JsepApi} {source : ContentSource}
  {description : JsepTransportDescription} {type : SdpType}

omit [DecidableEq T] in
/-- SDES refuses every description. -/
theorem withExtensionIds_of_sdes {rtpTransport : AnyRtpTransport T}
    (hsdes : rtpTransport.isSdes = true) :
    withExtensionIds api inputs source rtpTransport description type = none := by
  cases rtpTransport with
  | unencrypted rtp => exact absurd hsdes Bool.false_ne_true
  | sdes srtp => rfl
  | dtlsSrtp dtls => exact absurd hsdes Bool.false_ne_true

omit [DecidableEq T] in
theorem withExtensionIds_of_not_sdes {rtpTransport : AnyRtpTransport T}
    (hsdes : rtpTransport.isSdes = false) :
    ∃ after, withExtensionIds api inputs source rtpTransport description type = some after ∧
      rtpTransport.SameRtcpHold after := by
  cases rtpTransport with
  | unencrypted rtp =>
      exact ⟨.unencrypted rtp, rfl, AnyRtpTransport.SameRtcpHold.refl _⟩
  | sdes srtp => exact absurd hsdes.symm Bool.false_ne_true
  | dtlsSrtp dtls =>
      cases source with
      | csLocal =>
          exact ⟨_, rfl, AnyRtpTransport.sameRtcpHold_of_binding
            (dtls.sameRtcpBinding_updateRecvEncryptedHeaderExtensionIds api.srtp
              inputs.extensionIds description.encryptedHeaderExtensionIds)⟩
      | csRemote =>
          exact ⟨_, rfl, AnyRtpTransport.sameRtcpHold_of_binding
            (dtls.sameRtcpBinding_updateSendEncryptedHeaderExtensionIds api.srtp
              inputs.extensionIds description.encryptedHeaderExtensionIds)⟩

omit [DecidableEq T] in
/-- New extension ids do not matter for rtcp-mux. -/
theorem MuxSet.withRtpTransport {before after : JsepTransport T}
    {rtpTransport : AnyRtpTransport T} (hset : MuxSet description type source before after)
    (hsame : after.rtpTransport.SameRtcpHold rtpTransport) :
    MuxSet description type source before { after with rtpTransport := rtpTransport } := by
  constructor
  · exact hsame.rtcpMuxEnabled.trans hset.rtcpMuxEnabled
  · exact hsame.isSdes.trans hset.isSdes
  · intro hpoints
    exact hsame.pointsOnlyTo (hset.pointsOnlyTo hpoints)
  · conv_lhs => rw [hset.rest]

/-- The transport after invalid ICE parameters: a remote description drops the old one. -/
def afterInvalid (source : ContentSource) : JsepTransport T :=
  match source with
  | .csLocal => transport
  | .csRemote => transport.withDescription .csRemote none

theorem setDescription_of_invalid {message : String}
    (hinvalid : api.validate description.transportDesc.iceParameters = some message) :
    transport.setDescription inputs api source description type =
      .ok (transport.afterInvalid source, .error (invalidIceParameters message)) := by
  cases source with
  | csLocal =>
      simp only [setDescription, setLocalJsepTransportDescription, hinvalid]
      rfl
  | csRemote =>
      simp only [setDescription, setRemoteJsepTransportDescription, hinvalid]
      rfl

/-- With valid ICE parameters both calls set the transports first. -/
theorem setDescription_of_valid
    (hvalid : api.validate description.transportDesc.iceParameters = none) :
    transport.setDescription inputs api source description type =
      transport.setTransports api inputs source description type fun muxed =>
        muxed.applyDescription inputs api source description type := by
  cases source with
  | csLocal => simp only [setDescription, setLocalJsepTransportDescription, hvalid]; rfl
  | csRemote => simp only [setDescription, setRemoteJsepTransportDescription, hvalid]; rfl

theorem setDescription_of_refused
    (hvalid : api.validate description.transportDesc.iceParameters = none)
    (hrefused : (transport.negotiated description type source).2 = false) :
    transport.setDescription inputs api source description type =
      .ok (transport, .error rtcpMuxFailed) := by
  rw [setDescription_of_valid inputs transport hvalid, setTransports,
    setRtcpMux_refused api inputs transport hrefused]

theorem setDescription_of_sdes
    (hvalid : api.validate description.transportDesc.iceParameters = none)
    (haccepted : (transport.negotiated description type source).2 = true)
    (hsdes : transport.rtpTransport.isSdes = true) :
    ∃ muxed, MuxSet description type source transport muxed ∧
      transport.setDescription inputs api source description type =
        .ok (muxed, .error sdesFailed) := by
  obtain ⟨muxed, hmuxed, hset⟩ := setRtcpMux_accepted api inputs transport haccepted
  refine ⟨muxed, hset, ?_⟩
  rw [setDescription_of_valid inputs transport hvalid, setTransports, hmuxed]
  simp only [withExtensionIds_of_sdes inputs (hset.isSdes.trans hsdes)]

/-- The call goes on to the description itself. -/
theorem setDescription_of_accepted
    (hvalid : api.validate description.transportDesc.iceParameters = none)
    (haccepted : (transport.negotiated description type source).2 = true)
    (hsdes : transport.rtpTransport.isSdes = false) :
    ∃ muxed, MuxSet description type source transport muxed ∧
      transport.setDescription inputs api source description type =
        muxed.applyDescription inputs api source description type := by
  obtain ⟨muxed, hmuxed, hset⟩ := setRtcpMux_accepted api inputs transport haccepted
  obtain ⟨rtpTransport, hids, hsame⟩ : ∃ rtpTransport,
      withExtensionIds api inputs source muxed.rtpTransport description type =
        some rtpTransport ∧ muxed.rtpTransport.SameRtcpHold rtpTransport :=
    withExtensionIds_of_not_sdes inputs (hset.isSdes.trans hsdes)
  refine ⟨_, hset.withRtpTransport hsame, ?_⟩
  rw [setDescription_of_valid inputs transport hvalid, setTransports, hmuxed]
  simp only [hids]

/-- The ways a call can go. -/
inductive Course (api : JsepApi) (inputs : JsepInputs T) (source : ContentSource)
    (description : JsepTransportDescription) (type : SdpType) (transport : JsepTransport T) :
    Except JsepAbort (JsepResult T) → Prop where
  | invalid (message : String)
      (hinvalid : api.validate description.transportDesc.iceParameters = some message) :
      Course api inputs source description type transport
        (.ok (transport.afterInvalid source, .error (invalidIceParameters message)))
  | refused (hvalid : api.validate description.transportDesc.iceParameters = none)
      (hrefused : (transport.negotiated description type source).2 = false) :
      Course api inputs source description type transport
        (.ok (transport, .error rtcpMuxFailed))
  | sdes (hvalid : api.validate description.transportDesc.iceParameters = none)
      (haccepted : (transport.negotiated description type source).2 = true)
      (hsdes : transport.rtpTransport.isSdes = true) (muxed : JsepTransport T)
      (hset : MuxSet description type source transport muxed) :
      Course api inputs source description type transport (.ok (muxed, .error sdesFailed))
  | applied (hvalid : api.validate description.transportDesc.iceParameters = none)
      (haccepted : (transport.negotiated description type source).2 = true)
      (hsdes : transport.rtpTransport.isSdes = false) (muxed : JsepTransport T)
      (hset : MuxSet description type source transport muxed) :
      Course api inputs source description type transport
        (muxed.applyDescription inputs api source description type)

theorem course_setDescription :
    Course api inputs source description type transport
      (transport.setDescription inputs api source description type) := by
  cases hvalid : api.validate description.transportDesc.iceParameters with
  | some message =>
      rw [setDescription_of_invalid inputs transport hvalid]
      exact .invalid message hvalid
  | none =>
      cases haccepted : (transport.negotiated description type source).2 with
      | false =>
          rw [setDescription_of_refused inputs transport hvalid haccepted]
          exact .refused hvalid haccepted
      | true =>
          cases hsdes : transport.rtpTransport.isSdes with
          | true =>
              obtain ⟨muxed, hset, hcall⟩ :=
                setDescription_of_sdes inputs transport hvalid haccepted hsdes
              rw [hcall]
              exact .sdes hvalid haccepted hsdes muxed hset
          | false =>
              obtain ⟨muxed, hset, hcall⟩ :=
                setDescription_of_accepted inputs transport hvalid haccepted hsdes
              rw [hcall]
              exact .applied hvalid haccepted hsdes muxed hset

end Outcomes

end JsepTransport

end PeerConnection.Jsep
