import PeerConnection.Jsep.RtcpMuxFilter
import PeerConnection.Sdp.Description
import PeerConnection.Srtp.DtlsSrtpTransport

/-!
# The JSEP transport

`JsepTransport` takes the local and the remote descriptions of one m= section.  It
negotiates rtcp-mux and the DTLS role, and passes what was negotiated on to the ICE, DTLS
and RTP transports that it owns.  A DTLS transport and the ICE transport below it are one
identity; the calls that leave the class are kept in the order in which they are made.
-/

namespace PeerConnection.Jsep

open PeerConnection.Text
open PeerConnection.Sdp
open PeerConnection.Srtp

/-- `libice::IceMode`. -/
inductive IceMode where
  | full
  | lite
  deriving DecidableEq, Repr

structure JsepTransportDescription where
  rtcpMuxEnabled : Bool := true
  cryptos : List CryptoParams := []
  encryptedHeaderExtensionIds : List ℤ := []
  transportDesc : TransportDescription := {}
  /-- `transport_desc.ice_mode`. -/
  iceMode : IceMode := .full
  deriving DecidableEq, Repr

/-- What is called of `libice` and `rtc_base` besides the transports. -/
structure JsepApi where
  srtp : SrtpApi
  /-- `IceParameters::Validate`: the message of an error. -/
  validate : IceParameters → Option String
  /-- `IceCredentialsChanged`, of the old and the new ufrag and password. -/
  iceCredentialsChanged : Bytes → Bytes → Bytes → Bytes → Bool
  /-- `SSLFingerprint::CreateUnique`; `none` is a null pointer. -/
  createUnique : Bytes → Certificate → Option SslFingerprint
  /-- `SSLFingerprint::ToString`. -/
  fingerprintToString : SslFingerprint → String

/-- The process ends. -/
inductive JsepAbort where
  | srtp (abort : SrtpAbort)
  /-- `VerifyCertificateFingerprint` has dereferenced a null fingerprint. -/
  | nullFingerprint
  deriving DecidableEq, Repr

/-- Calls on the ICE and DTLS transports and on the owner. -/
inductive JsepCall (T : Type*) where
  | setIceParameters (transport : T) (parameters : IceParameters)
  | setRemoteIceParameters (transport : T) (parameters : IceParameters)
  | setRemoteIceMode (transport : T) (mode : IceMode)
  | setDtlsRole (transport : T) (role : SslRole)
  | setRemoteFingerprint (transport : T) (fingerprint : SslFingerprint)
  | rtcpMuxActiveCallback
  deriving DecidableEq, Repr

/-- How a DTLS transport answers the negotiated parameters. -/
structure DtlsAnswers where
  setDtlsRole : Bool := true
  setRemoteFingerprint : Bool := true
  deriving DecidableEq, Repr

/-- What comes from outside while a description is set. -/
structure JsepInputs (T : Type*) where
  /-- During `ActivateRtcpMux`. -/
  activate : DtlsInputs T := {}
  /-- During `SetRtcpMuxEnabled`. -/
  enable : DtlsInputs T := {}
  /-- During the update of the encrypted header extension ids. -/
  extensionIds : DtlsInputs T := {}
  /-- `GetDtlsRole`. -/
  dtlsRole : Option SslRole := none
  rtp : DtlsAnswers := {}
  rtcp : DtlsAnswers := {}

/-- `unencrypted_rtp_transport_`, `sdes_transport_` and `dtls_srtp_transport_`, of which
one is set. -/
inductive AnyRtpTransport (T : Type*) where
  | unencrypted (transport : RtpTransport T)
  | sdes (transport : SrtpTransport T)
  | dtlsSrtp (transport : DtlsSrtpTransport T)
  deriving DecidableEq, Repr

structure JsepTransport (T : Type*) where
  mid : Bytes
  needsIceRestart : Bool := false
  localCertificate : Option Certificate
  localDescription : Option JsepTransportDescription := none
  remoteDescription : Option JsepTransportDescription := none
  rtpTransport : AnyRtpTransport T
  rtpDtlsTransport : T
  rtcpDtlsTransport : Option T
  rtcpMuxNegotiator : RtcpMuxFilter := {}
  calls : List (JsepCall T) := []
  deriving DecidableEq, Repr

abbrev JsepResult (T : Type*) := JsepTransport T × Except RtcError Unit

namespace JsepTransport

variable {T : Type*}

def create (mid : Bytes) (localCertificate : Option Certificate)
    (rtpTransport : AnyRtpTransport T) (rtpDtlsTransport : T) (rtcpDtlsTransport : Option T) :
    JsepTransport T where
  mid := mid
  localCertificate := localCertificate
  rtpTransport := rtpTransport
  rtpDtlsTransport := rtpDtlsTransport
  rtcpDtlsTransport := rtcpDtlsTransport

def call (transport : JsepTransport T) (calls : List (JsepCall T)) : JsepTransport T :=
  { transport with calls := transport.calls ++ calls }

/-- The DTLS transports in use, the one for RTP first. -/
def dtlsTransports (transport : JsepTransport T) : List T :=
  transport.rtpDtlsTransport :: transport.rtcpDtlsTransport.toList

/-! ## rtcp-mux -/

section RtcpMux

variable [DecidableEq T] (api : JsepApi) (inputs : JsepInputs T)

def activateRtcpMux (transport : JsepTransport T) : Except JsepAbort (JsepTransport T) :=
  let released (rtpTransport : AnyRtpTransport T) : JsepTransport T :=
    { transport with
      rtpTransport := rtpTransport
      rtcpDtlsTransport := none }.call [.rtcpMuxActiveCallback]
  match transport.rtpTransport with
  | .unencrypted rtp =>
      .ok (released (.unencrypted (rtp.setRtcpPacketTransport inputs.activate.writable none)))
  | .sdes srtp =>
      let bound := srtp.toRtpTransport.setRtcpPacketTransport inputs.activate.writable none
      .ok (released (.sdes { srtp with toRtpTransport := bound }))
  | .dtlsSrtp dtls =>
      match dtls.setDtlsTransports api.srtp inputs.activate
          (some transport.rtpDtlsTransport) none with
      | .error abort => .error (.srtp abort)
      | .ok bound => .ok (released (.dtlsSrtp bound))

/-- `SetRtcpMuxEnabled` is virtual. -/
def setRtcpMuxEnabled (rtpTransport : AnyRtpTransport T) (enable : Bool) :
    AnyRtpTransport T :=
  match rtpTransport with
  | .unencrypted rtp => .unencrypted (rtp.setRtcpMuxEnabled enable)
  | .sdes srtp =>
      .sdes { srtp with toRtpTransport := srtp.toRtpTransport.setRtcpMuxEnabled enable }
  | .dtlsSrtp dtls => .dtlsSrtp (dtls.setRtcpMuxEnabled api.srtp inputs.enable enable)

def setRtcpMux (transport : JsepTransport T) (enable : Bool) (type : SdpType)
    (source : ContentSource) : Except JsepAbort (JsepTransport T × Bool) :=
  let (filter, ret) := transport.rtcpMuxNegotiator.set type enable source
  let negotiated := { transport with rtcpMuxNegotiator := filter }
  let activated :=
    if type = .answer && ret && filter.isActive then negotiated.activateRtcpMux api inputs
    else .ok negotiated
  activated.map fun transport =>
    if !ret then (transport, false)
    else
      ({ transport with
         rtpTransport := setRtcpMuxEnabled api inputs transport.rtpTransport filter.isActive },
        true)

/-- Its negotiation has been commented out. -/
def setSdes (_cryptos : List CryptoParams) (_encryptedExtensionIds : List ℤ)
    (_type : SdpType) (_source : ContentSource) : Bool :=
  false

end RtcpMux

/-! ## The DTLS parameters -/

def setNegotiatedDtlsParameters (answers : DtlsAnswers) (transport : JsepTransport T)
    (dtlsTransport : T) (dtlsRole : Option SslRole) (remoteFingerprint : SslFingerprint) :
    JsepResult T :=
  let withRole := transport.call (dtlsRole.toList.map (.setDtlsRole dtlsTransport))
  if dtlsRole.isSome && !answers.setDtlsRole then
    (withRole, .error { type := .invalidParameter,
                        message := "Failed to set SSL role for the transport." })
  else
    let withFingerprint := withRole.call [.setRemoteFingerprint dtlsTransport remoteFingerprint]
    if !answers.setRemoteFingerprint then
      (withFingerprint, .error { type := .invalidParameter,
                                 message := "Failed to apply remote fingerprint." })
    else (withFingerprint, .ok ())

def invalidRole (message : String) : Except RtcError SslRole :=
  .error { type := .invalidParameter, message := message }

/-- The answerer does not know the offer's role to be open: it has to fit with the role
that was negotiated before, or with its own. -/
def checkOfferedRole (currentDtlsRole : Option SslRole)
    (localConnectionRole remoteConnectionRole : ConnectionRole) : Option String :=
  match currentDtlsRole with
  | none =>
      if remoteConnectionRole = .active ∧ localConnectionRole ≠ .passive then
        some "Answerer must be passive when offerer is active"
      else if remoteConnectionRole = .passive ∧ localConnectionRole ≠ .active then
        some "Answerer must be active when offerer is passive"
      else none
  | some role =>
      if role = .client ∧ remoteConnectionRole = .active ∨
          role = .server ∧ remoteConnectionRole = .passive then
        some "Offerer must use current negotiated role for setup attribute."
      else none

/-- A remote server makes this side the client. -/
def roleAgainst (isRemoteServer : Bool) : SslRole :=
  if isRemoteServer then .client else .server

def negotiateDtlsRole (currentDtlsRole : Option SslRole) (localDescriptionType : SdpType)
    (localConnectionRole remoteConnectionRole : ConnectionRole) : Except RtcError SslRole :=
  if localDescriptionType = .offer then
    if localConnectionRole ≠ .actpass then
      invalidRole "Offerer must use actpass value for setup attribute."
    else if remoteConnectionRole = .active ∨ remoteConnectionRole = .passive ∨
        remoteConnectionRole = .none then
      .ok (roleAgainst (remoteConnectionRole = .passive))
    else
      invalidRole "Answerer must use either active or passive value for setup attribute."
  else
    let misfit :=
      if remoteConnectionRole ≠ .actpass ∧ remoteConnectionRole ≠ .none then
        checkOfferedRole currentDtlsRole localConnectionRole remoteConnectionRole
      else none
    match misfit with
    | some message => invalidRole message
    | none =>
        if localConnectionRole = .active ∨ localConnectionRole = .passive then
          .ok (roleAgainst (localConnectionRole = .active))
        else
          invalidRole "Answerer must use either active or passive value for setup attribute."

/-- What the two descriptions come to: a role, if DTLS is used, and a fingerprint. -/
def negotiateDtls (currentDtlsRole : Option SslRole) (localDescriptionType : SdpType)
    (localDescription remoteDescription : TransportDescription) :
    Except RtcError (Option SslRole × SslFingerprint) :=
  match remoteDescription.identityFingerprint, localDescription.identityFingerprint with
  | some remoteFingerprint, some _ =>
      match negotiateDtlsRole currentDtlsRole localDescriptionType
          localDescription.connectionRole remoteDescription.connectionRole with
      | .error error => .error error
      | .ok role => .ok (some role, remoteFingerprint)
  | _, localFingerprint =>
      if localFingerprint.isSome && localDescriptionType = .answer then
        .error { type := .invalidParameter,
                 message := "Local fingerprint supplied when caller didn't offer DTLS." }
      else .ok (none, { algorithm := [], digest := [] })

/-- The end of `NegotiateAndSetDtlsParameters`: the RTCP transport comes after the RTP one. -/
def pushNegotiated (inputs : JsepInputs T) (transport : JsepTransport T)
    (dtlsRole : Option SslRole) (remoteFingerprint : SslFingerprint) : JsepResult T :=
  let (withRtp, result) := transport.setNegotiatedDtlsParameters inputs.rtp
    transport.rtpDtlsTransport dtlsRole remoteFingerprint
  match result, transport.rtcpDtlsTransport with
  | .ok (), some rtcpDtlsTransport =>
      withRtp.setNegotiatedDtlsParameters inputs.rtcp rtcpDtlsTransport dtlsRole
        remoteFingerprint
  | result, _ => (withRtp, result)

def negotiateAndSetDtlsParameters (inputs : JsepInputs T) (transport : JsepTransport T)
    (localDescriptionType : SdpType) : JsepResult T :=
  match transport.localDescription, transport.remoteDescription with
  | some localDescription, some remoteDescription =>
      match negotiateDtls inputs.dtlsRole localDescriptionType localDescription.transportDesc
          remoteDescription.transportDesc with
      | .error error => (transport, .error error)
      | .ok (role, fingerprint) => transport.pushNegotiated inputs role fingerprint
  | _, _ =>
      (transport, .error
        { type := .invalidState,
          message := "Applying an answer transport description without applying any offer." })

/-- With an answer of either kind the transport protocol is decided. -/
def decideTransportProtocol (inputs : JsepInputs T) (transport : JsepTransport T)
    (type localDescriptionType : SdpType) : JsepResult T :=
  if type = .prAnswer || type = .answer then
    transport.negotiateAndSetDtlsParameters inputs localDescriptionType
  else (transport, .ok ())

/-! ## The local description -/

/-- What fits into a `SimpleStringBuilder` over 1024 characters. -/
def builtString (text : String) : String :=
  String.ofList (text.toList.take 1023)

def verifyCertificateFingerprint (api : JsepApi) (certificate : Option Certificate)
    (fingerprint : Option SslFingerprint) : Except JsepAbort (Except RtcError Unit) :=
  match fingerprint, certificate with
  | none, _ => .ok (.error { type := .invalidParameter, message := "No fingerprint" })
  | some _, none =>
      .ok (.error { type := .invalidParameter,
                    message := "Fingerprint provided but no identity available." })
  | some fingerprint, some certificate =>
      match api.createUnique fingerprint.algorithm certificate with
      | none => .error .nullFingerprint
      | some expected =>
          if expected = fingerprint then .ok (.ok ())
          else
            .ok (.error
              { type := .invalidParameter,
                message := builtString <|
                  "Local fingerprint does not match identity. Expected: " ++
                    api.fingerprintToString expected ++ " Got: " ++
                    api.fingerprintToString fingerprint })

/-- The part of `SetLocalJsepTransportDescription` after the check of the fingerprint. -/
def finishLocalDescription (inputs : JsepInputs T) (transport : JsepTransport T)
    (iceParameters : IceParameters) (type : SdpType) (iceRestarting : Bool) :
    JsepResult T :=
  let pushed := transport.call
    (transport.dtlsTransports.map fun each => .setIceParameters each iceParameters)
  let (negotiated, result) := pushed.decideTransportProtocol inputs type type
  match result with
  | .error error => ({ negotiated with localDescription := none }, .error error)
  | .ok () =>
      ({ negotiated with
         needsIceRestart := negotiated.needsIceRestart && !iceRestarting }, .ok ())

/-- The part after rtcp-mux and the encrypted header extension ids. -/
def applyLocalDescription (api : JsepApi) (inputs : JsepInputs T)
    (transport : JsepTransport T) (description : JsepTransportDescription) (type : SdpType) :
    Except JsepAbort (JsepResult T) :=
  let new := description.transportDesc
  let iceRestarting := transport.localDescription.any fun old =>
    api.iceCredentialsChanged old.transportDesc.iceUfrag old.transportDesc.icePwd
      new.iceUfrag new.icePwd
  let described := { transport with localDescription := some description }
  match new.identityFingerprint with
  | none =>
      .ok (finishLocalDescription inputs { described with localCertificate := none }
        new.iceParameters type iceRestarting)
  | some fingerprint =>
      match verifyCertificateFingerprint api described.localCertificate (some fingerprint) with
      | .error abort => .error abort
      | .ok (.error error) => .ok ({ described with localDescription := none }, .error error)
      | .ok (.ok ()) =>
          .ok (finishLocalDescription inputs described new.iceParameters type iceRestarting)

/-! ## The remote description -/

/-- The part of `SetRemoteJsepTransportDescription` after rtcp-mux and the encrypted header
extension ids.  This side has made the offer. -/
def applyRemoteDescription (inputs : JsepInputs T) (transport : JsepTransport T)
    (description : JsepTransportDescription) (type : SdpType) : JsepResult T :=
  let described := { transport with remoteDescription := some description }
  let pushed := described.call <| described.dtlsTransports.flatMap fun each =>
    [.setRemoteIceParameters each description.transportDesc.iceParameters,
      .setRemoteIceMode each description.iceMode]
  let (negotiated, result) := pushed.decideTransportProtocol inputs type .offer
  match result with
  | .error error => ({ negotiated with remoteDescription := none }, .error error)
  | .ok () => (negotiated, .ok ())

/-! ## The two calls -/

section Calls

variable [DecidableEq T] (api : JsepApi) (inputs : JsepInputs T)

/-- The RTP transport with the encrypted header extension ids of the description, unless
SDES refuses them. -/
def withExtensionIds (source : ContentSource) (rtpTransport : AnyRtpTransport T)
    (description : JsepTransportDescription) (type : SdpType) : Option (AnyRtpTransport T) :=
  let extensionIds := description.encryptedHeaderExtensionIds
  match rtpTransport, source with
  | .unencrypted rtp, _ => some (.unencrypted rtp)
  | .sdes srtp, source =>
      if setSdes description.cryptos extensionIds type source then some (.sdes srtp) else none
  | .dtlsSrtp dtls, .csLocal =>
      some (.dtlsSrtp
        (dtls.updateRecvEncryptedHeaderExtensionIds api.srtp inputs.extensionIds extensionIds))
  | .dtlsSrtp dtls, .csRemote =>
      some (.dtlsSrtp
        (dtls.updateSendEncryptedHeaderExtensionIds api.srtp inputs.extensionIds extensionIds))

def invalidIceParameters (message : String) : RtcError :=
  { type := .invalidParameter, message := "Invalid ICE parameters: " ++ message }

def rtcpMuxFailed : RtcError :=
  { type := .invalidParameter, message := "Failed to setup RTCP mux." }

def sdesFailed : RtcError :=
  { type := .invalidParameter, message := "Failed to setup SDES crypto parameters." }

/-- What both calls do first with a description whose ICE parameters are valid: rtcp-mux and
the encrypted header extension ids.  They go on with `apply`. -/
def setTransports (source : ContentSource) (transport : JsepTransport T)
    (description : JsepTransportDescription) (type : SdpType)
    (apply : JsepTransport T → Except JsepAbort (JsepResult T)) :
    Except JsepAbort (JsepResult T) :=
  match transport.setRtcpMux api inputs description.rtcpMuxEnabled type source with
  | .error abort => .error abort
  | .ok (muxed, false) => .ok (muxed, .error rtcpMuxFailed)
  | .ok (muxed, true) =>
      match withExtensionIds api inputs source muxed.rtpTransport description type with
      | none => .ok (muxed, .error sdesFailed)
      | some rtpTransport => apply { muxed with rtpTransport := rtpTransport }

def setLocalJsepTransportDescription (transport : JsepTransport T)
    (description : JsepTransportDescription) (type : SdpType) :
    Except JsepAbort (JsepResult T) :=
  match api.validate description.transportDesc.iceParameters with
  | some message => .ok (transport, .error (invalidIceParameters message))
  | none =>
      transport.setTransports api inputs .csLocal description type fun muxed =>
        muxed.applyLocalDescription api inputs description type

def setRemoteJsepTransportDescription (transport : JsepTransport T)
    (description : JsepTransportDescription) (type : SdpType) :
    Except JsepAbort (JsepResult T) :=
  match api.validate description.transportDesc.iceParameters with
  | some message =>
      .ok ({ transport with remoteDescription := none }, .error (invalidIceParameters message))
  | none =>
      transport.setTransports api inputs .csRemote description type fun muxed =>
        .ok (muxed.applyRemoteDescription inputs description type)

end Calls

end JsepTransport

end PeerConnection.Jsep
