import PeerConnection.Sdp.Parse

/-!
# The local description

`create_offer` builds the local description from its options and from values it
draws at random or obtains from the certificate generator.  These values are
inputs here.  A section exists only for the media the options ask for, and only
a video section that sends has codecs.
-/

namespace PeerConnection.Connection

open PeerConnection.Text
open PeerConnection.Sdp

/-- `RTCOfferAnswerOptions`, without `dtls_on`, which nothing reads. -/
structure RTCOfferAnswerOptions where
  sendAudio : Bool := true
  sendVideo : Bool := true
  recvAudio : Bool := true
  recvVideo : Bool := true
  useRtpMux : Bool := true
  useRtcpMux : Bool := true
  deriving DecidableEq, Repr

def RTCOfferAnswerOptions.hasAudio (options : RTCOfferAnswerOptions) : Bool :=
  options.sendAudio || options.recvAudio

def RTCOfferAnswerOptions.hasVideo (options : RTCOfferAnswerOptions) : Bool :=
  options.sendVideo || options.recvVideo

/-- What one call of `create_offer` gets from the outside.  `certificate` is
`none` when the generator fails. -/
structure OfferSource where
  cname : Bytes
  iceParam : IceParameters
  certificate : Option Certificate
  audioStreamId : Bytes
  localAudioSsrc : UInt32
  videoStreamId : Bytes
  localVideoSsrc : UInt32
  localVideoRtxSsrc : UInt32

def getDirection (send recv : Bool) : RtpTransceiverDirection :=
  match send, recv with
  | true, true => .sendRecv
  | true, false => .sendOnly
  | false, true => .recvOnly
  | false, false => .inactive

def audioCodec : Codec where
  id := 111
  name := ascii "opus"
  clockrate := 48000
  channels := 2
  params := .ofList [(ascii "minptime", ascii "10"), (ascii "useinbandfec", ascii "1")]
  feedbackParams := [{ id := ascii "transport-cc" }]

def videoCodec : Codec where
  id := 107
  name := ascii "H264"
  clockrate := 90000
  params := .ofList
    [(ascii "level-asymmetry-allowed", ascii "1"), (ascii "packetization-mode", ascii "1"),
      (ascii "profile-level-id", ascii "42e01f")]
  feedbackParams :=
    [{ id := ascii "goog-remb" }, { id := ascii "transport-cc" },
      { id := ascii "ccm", param := ascii "fir" }, { id := ascii "nack" },
      { id := ascii "nack", param := ascii "pli" }]

def videoRtxCodec : Codec where
  id := 99
  name := ascii "rtx"
  clockrate := 90000
  params := .ofList [(ascii "apt", decimal videoCodec.id)]

def audioContent (options : RTCOfferAnswerOptions) (streamId : Bytes)
    (source : OfferSource) : ContentInfo where
  name := kAudio
  description :=
    { type := .audio
      direction := getDirection options.sendAudio options.recvAudio
      rtcpMux := options.useRtcpMux
      codecs := [audioCodec]
      sendStreams :=
        if options.sendAudio then
          [{ id := source.audioStreamId
             streamIds := [streamId]
             cname := source.cname
             ssrcs := [source.localAudioSsrc] }]
        else [] }

def videoContent (options : RTCOfferAnswerOptions) (streamId : Bytes)
    (source : OfferSource) : ContentInfo where
  name := kVideo
  description :=
    { type := .video
      direction := getDirection options.sendVideo options.recvVideo
      rtcpMux := options.useRtcpMux
      codecs := if options.sendVideo then [videoCodec, videoRtxCodec] else []
      sendStreams :=
        if options.sendVideo then
          [{ id := source.videoStreamId
             streamIds := [streamId]
             cname := source.cname
             ssrcs := [source.localVideoSsrc]
             ssrcGroups :=
              [{ semantics := ascii "FID"
                 ssrcs := [source.localVideoSsrc, source.localVideoRtxSsrc] }] },
            { id := source.videoStreamId
              streamIds := [streamId]
              cname := source.cname
              ssrcs := [source.localVideoRtxSsrc] }]
        else [] }

/-- The transport info of one section. -/
def offeredTransportInfo (api : TransportApi) (source : OfferSource)
    (certificate : Certificate) (contentName : Bytes) : TransportInfo where
  contentName := contentName
  description :=
    { iceUfrag := source.iceParam.ufrag
      icePwd := source.iceParam.pwd
      identityFingerprint := api.createFromCertificate certificate
      connectionRole := .active }

/-- `CreateFromCertificate(*certificate_)` needs a certificate. -/
def offerTransportInfo (api : TransportApi) (source : OfferSource) (contentName : Bytes) :
    Except Fault TransportInfo :=
  match source.certificate with
  | none => .error (.null .certificate)
  | some certificate => .ok (offeredTransportInfo api source certificate contentName)

/-- The contents, in the order in which `create_offer` appends them. -/
def offerContents (options : RTCOfferAnswerOptions) (streamId : Bytes)
    (source : OfferSource) : List ContentInfo :=
  (if options.hasAudio then [audioContent options streamId source] else []) ++
    (if options.hasVideo then [videoContent options streamId source] else [])

/-- `local_desc_` at the end of `create_offer`. -/
def localDesc (api : TransportApi) (options : RTCOfferAnswerOptions) (streamId : Bytes)
    (source : OfferSource) : Except Fault SessionDescription := do
  let contents := offerContents options streamId source
  let transportInfos ← contents.mapM fun content =>
    offerTransportInfo api source content.name
  return {
    contents := contents
    transportInfos := transportInfos
    contentGroups :=
      if options.useRtpMux ∧ contents ≠ [] then
        [{ semantics := kBundle, contentNames := contents.map (·.name) }]
      else [] }

/-! ## The description that is offered -/

/-- The offer with this certificate. -/
def offeredDesc (api : TransportApi) (options : RTCOfferAnswerOptions) (streamId : Bytes)
    (source : OfferSource) (certificate : Certificate) : SessionDescription where
  contents := offerContents options streamId source
  transportInfos := (offerContents options streamId source).map fun content =>
    offeredTransportInfo api source certificate content.name
  contentGroups :=
    if options.useRtpMux ∧ offerContents options streamId source ≠ [] then
      [{ semantics := kBundle
         contentNames := (offerContents options streamId source).map (·.name) }]
    else []

section Offered

variable {api : TransportApi} {options : RTCOfferAnswerOptions} {streamId : Bytes}
variable {source : OfferSource} {certificate : Certificate}

theorem localDesc_of_certificate (hcertificate : source.certificate = some certificate) :
    localDesc api options streamId source =
      .ok (offeredDesc api options streamId source certificate) := by
  have hinfos : (offerContents options streamId source).mapM
      (fun content => offerTransportInfo api source content.name) =
      .ok ((offerContents options streamId source).map fun content =>
        offeredTransportInfo api source certificate content.name) := by
    simp only [offerTransportInfo, hcertificate]
    exact List.mapM_pure
  simp only [localDesc, hinfos, bind, Except.bind, pure, Except.pure]
  rfl

/-- Without a certificate only an offer without sections is made. -/
theorem localDesc_eq_ok (hcontents : offerContents options streamId source ≠ [])
    {desc : SessionDescription} (hdesc : localDesc api options streamId source = .ok desc) :
    ∃ certificate, source.certificate = some certificate ∧
      desc = offeredDesc api options streamId source certificate := by
  cases hcertificate : source.certificate with
  | none =>
      obtain ⟨content, contents, hcons⟩ := List.exists_cons_of_ne_nil hcontents
      simp [localDesc, hcons, List.mapM_cons, offerTransportInfo, hcertificate, bind,
        Except.bind] at hdesc
  | some certificate =>
      rw [localDesc_of_certificate hcertificate] at hdesc
      exact ⟨certificate, rfl, (Except.ok.inj hdesc).symm⟩

theorem offerContents_of_audio (streamId : Bytes) (source : OfferSource)
    (haudio : options.hasAudio = true) :
    ∃ contents, offerContents options streamId source =
      audioContent options streamId source :: contents := by
  simp [offerContents, haudio]

theorem offeredDesc_firstContentName_of_audio (haudio : options.hasAudio = true) :
    (offeredDesc api options streamId source certificate).firstContentName = some kAudio := by
  obtain ⟨contents, hcontents⟩ := offerContents_of_audio streamId source haudio
  simp [SessionDescription.firstContentName, offeredDesc, hcontents, audioContent]

end Offered

end PeerConnection.Connection
