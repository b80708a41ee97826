import PeerConnection.Engine.RtpExtensions

/-!
# The send stream of a video channel

`WebRtcVideoSendStream` keeps the parameters that the underlying stream would be created with.
That stream is never created here, so `stream_` stays null: changes are kept in the parameters,
and whatever needs the underlying stream does nothing or dereferences null.
-/

namespace PeerConnection.Engine

open PeerConnection.Text
open PeerConnection.Sdp (FeedbackParam SsrcGroup StreamParams)

/-- What ends a call before it returns. -/
inductive ChannelFault where
  | checkFailed
  | indexOutOfRange
  | nullStream
  deriving DecidableEq, Repr

/-! ## Stream parameters -/

/-- `libmedia_transfer_protocol::StreamParams` with the RTP stream identifiers. -/
structure SendStreamParams extends StreamParams where
  rids : List Bytes := []
  deriving DecidableEq, Repr

def kSimSsrcGroupSemantics : Bytes := ascii "SIM"
def kFidSsrcGroupSemantics : Bytes := ascii "FID"

namespace SendStreamParams

def firstSsrc (sp : SendStreamParams) : UInt32 := sp.ssrcs.headD 0

/-- The SSRCs of the SIM group if there is one, and else the first SSRC. -/
def getPrimarySsrcs (sp : SendStreamParams) : List UInt32 :=
  match sp.ssrcGroups.find? fun group => group.semantics = kSimSsrcGroupSemantics with
  | some simGroup => simGroup.ssrcs
  | none => [sp.firstSsrc]

/-- The partner of an SSRC in its FID group. -/
def getFidSsrc (sp : SendStreamParams) (primarySsrc : UInt32) : Option UInt32 :=
  sp.ssrcGroups.findSome? fun group =>
    match group.ssrcs with
    | first :: second :: _ =>
        if group.semantics = kFidSsrcGroupSemantics ∧ first = primarySsrc then some second
        else none
    | _ => none

def getFidSsrcs (sp : SendStreamParams) (primarySsrcs : List UInt32) : List UInt32 :=
  primarySsrcs.filterMap sp.getFidSsrc

end SendStreamParams

/-- `ValidateStreamParams`. -/
def validateStreamParams (sp : SendStreamParams) : Bool :=
  if sp.ssrcs.isEmpty then false
  else
    let primarySsrcs := sp.getPrimarySsrcs
    let rtxSsrcs := sp.getFidSsrcs primarySsrcs
    if rtxSsrcs.any fun rtxSsrc => rtxSsrc ∉ sp.ssrcs then false
    else if !rtxSsrcs.isEmpty ∧ primarySsrcs.length ≠ rtxSsrcs.length then false
    else true

/-! ## Configuration of the underlying stream -/

inductive RtcpMode where
  | off
  | compound
  | reducedSize
  deriving DecidableEq, Repr

structure FlexfecConfig where
  payloadType : ℤ := -1
  ssrc : UInt32 := 0
  protectedMediaSsrcs : List UInt32 := []
  deriving DecidableEq, Repr

structure RtxConfig where
  ssrcs : List UInt32 := []
  payloadType : ℤ := -1
  deriving DecidableEq, Repr

def kDefaultMaxPacketSize : ℕ := 1500 - 40
def kVideoMtu : ℕ := 1200

structure RtpConfig where
  ssrcs : List UInt32 := []
  rids : List Bytes := []
  mid : Bytes := []
  rtcpMode : RtcpMode := .compound
  maxPacketSize : ℕ := kDefaultMaxPacketSize
  extmapAllowMixed : Bool := false
  extensions : List RtpExtension := []
  payloadName : Bytes := []
  payloadType : ℤ := -1
  rawPayload : Bool := false
  lntfEnabled : Bool := false
  nackRtpHistoryMs : ℤ := 0
  ulpfec : UlpfecConfig := {}
  flexfec : FlexfecConfig := {}
  rtx : RtxConfig := {}
  cName : Bytes := []
  deriving DecidableEq

/-- `VideoSendStream::Config`. -/
structure SendStreamConfig where
  rtp : RtpConfig := {}
  lossNotification : Bool := false
  experimentCpuLoadEstimator : Bool := false
  rtcpReportIntervalMs : ℤ := 1000
  suspendBelowMinBitrate : Bool := false
  periodicAlrBandwidthProbing : Bool := false
  deriving DecidableEq

structure VideoOptions where
  isScreencast : Option Bool := none
  screencastMinBitrateKbps : Option ℤ := none
  deriving DecidableEq, Repr

/-- `webrtc::Priority`. -/
inductive Priority where
  | veryLow
  | low
  | medium
  | high
  deriving DecidableEq, Repr

structure RtpEncodingParameters where
  ssrc : Option UInt32 := none
  bitratePriority : ℚ := 1
  networkPriority : Priority := .low
  maxBitrateBps : Option ℤ := none
  minBitrateBps : Option ℤ := none
  maxFramerate : Option ℚ := none
  numTemporalLayers : Option ℤ := none
  scaleResolutionDownBy : Option ℚ := none
  scalabilityMode : Option Bytes := none
  active : Bool := true
  rid : Bytes := []
  deriving DecidableEq

/-- What `ToCodecParameters` makes of a codec. -/
structure RtpCodecParameters where
  name : Bytes
  payloadType : ℤ
  clockRate : Option ℤ := none
  rtcpFeedback : List FeedbackParam := []
  parameters : CodecParameterMap := ∅
  deriving DecidableEq

inductive DegradationPreference where
  | disabled
  | maintainFramerate
  | maintainResolution
  | balanced
  deriving DecidableEq, Repr

structure RtpParameters where
  codecs : List RtpCodecParameters := []
  encodings : List RtpEncodingParameters := []
  headerExtensions : List RtpExtension := []
  rtcpSsrc : Option UInt32 := none
  rtcpCname : Bytes := []
  rtcpReducedSize : Bool := false
  rtcpMux : Bool := true
  degradationPreference : Option DegradationPreference := none
  deriving DecidableEq

inductive ContentType where
  | realtimeVideo
  | screen
  deriving DecidableEq, Repr

/-- An element of `simulcast_layers`. -/
structure SimulcastLayer where
  active : Bool := true
  scalabilityMode : Option Bytes := none
  minBitrateBps : ℤ := -1
  targetBitrateBps : ℤ := -1
  maxBitrateBps : ℤ := -1
  maxFramerate : ℚ := -1
  scaleResolutionDownBy : ℚ := -1
  numTemporalLayers : Option ℤ := none
  deriving DecidableEq

/-- The arguments of `EncoderStreamFactory`. -/
structure StreamFactoryConfig where
  codecName : Bytes
  maxQp : ℤ
  isScreencast : Bool
  conferenceMode : Bool
  deriving DecidableEq

structure VideoEncoderConfig where
  codecType : VideoCodecType := .generic
  videoFormat : SdpVideoFormat := { name := ascii "Unset" }
  minTransmitBitrateBps : ℤ := 0
  contentType : ContentType := .realtimeVideo
  numberOfStreams : ℕ := 0
  maxBitrateBps : ℤ := 0
  bitratePriority : ℚ := 1
  simulcastLayers : List SimulcastLayer := []
  legacyConferenceMode : Bool := false
  isQualityScalingAllowed : Bool := false
  videoStreamFactory : Option StreamFactoryConfig := none
  deriving DecidableEq

/-- `VideoSendStreamParameters`. -/
structure SendStreamParameters where
  config : SendStreamConfig
  options : VideoOptions
  maxBitrateBps : ℤ
  conferenceMode : Bool := false
  codecSettings : Option VideoCodecSettings
  encoderConfig : VideoEncoderConfig := {}
  deriving DecidableEq

/-- `hasStream` and `hasSource` say whether `stream_` and `source_` are not null. -/
structure WebRtcVideoSendStream where
  ssrcs : List UInt32
  ssrcGroups : List SsrcGroup
  enableCpuOveruseDetection : Bool
  hasSource : Bool := false
  hasStream : Bool := false
  parameters : SendStreamParameters
  rtpParameters : RtpParameters
  sending : Bool := false
  disableAutomaticResize : Bool := true
  deriving DecidableEq

/-- The part of `VideoSendParameters` that the engine reads. -/
structure VideoSendParameters where
  codecs : List VideoCodec := []
  extensions : List RtpExtension := []
  mid : Bytes := []
  extmapAllowMixed : Bool := false
  maxBandwidthBps : ℤ := -1
  isStreamActive : Bool := true
  rtcpReducedSize : Bool := false
  conferenceMode : Bool := false
  deriving DecidableEq

/-- `ChangedSendParameters`: what is unset has not changed. -/
structure ChangedSendParameters where
  sendCodec : Option VideoCodecSettings := none
  negotiatedCodecs : Option (List VideoCodecSettings) := none
  rtpHeaderExtensions : Option (List RtpExtension) := none
  mid : Option Bytes := none
  extmapAllowMixed : Option Bool := none
  maxBandwidthBps : Option ℤ := none
  conferenceMode : Option Bool := none
  rtcpMode : Option RtcpMode := none
  deriving DecidableEq

/-! ## Encoder configuration -/

def minPositive (a b : ℤ) : ℤ := if a ≤ 0 then b else if b ≤ 0 then a else min a b

/-- `IsCodecDisabledForSimulcast` as it stands. -/
def isCodecDisabledForSimulcast (_codecName : Bytes) : Bool := true

def numActiveStreams (rtpParameters : RtpParameters) : ℕ :=
  rtpParameters.encodings.countP (·.active)

def simulcastLayerOf (encoding : RtpEncodingParameters) : SimulcastLayer where
  active := encoding.active
  scalabilityMode := encoding.scalabilityMode
  minBitrateBps := encoding.minBitrateBps.getD (-1)
  maxBitrateBps := encoding.maxBitrateBps.getD (-1)
  maxFramerate := encoding.maxFramerate.getD (-1)
  scaleResolutionDownBy := encoding.scaleResolutionDownBy.getD (-1)
  numTemporalLayers := encoding.numTemporalLayers

def kDefaultQpMax : ℤ := 56

def rtcpModeOf (reducedSize : Bool) : RtcpMode := if reducedSize then .reducedSize else .compound

namespace WebRtcVideoSendStream

variable (api : EngineApi)

/-- The bitrate limit before that of the codec is looked at. -/
def streamMaxBitrate (stream : WebRtcVideoSendStream) (first : RtpEncodingParameters) : ℤ :=
  match first.maxBitrateBps with
  | some maxBitrateBps =>
      if stream.rtpParameters.encodings.length = 1 then
        minPositive maxBitrateBps stream.parameters.maxBitrateBps
      else stream.parameters.maxBitrateBps
  | none => stream.parameters.maxBitrateBps

/-- The limit of the codec counts when there is no other. -/
def encoderMaxBitrate (codec : VideoCodec) (streamMaxBitrate : ℤ) : ℤ :=
  match api.getParam codec kCodecParamMaxBitrate with
  | some codecMaxBitrateKbps =>
      if streamMaxBitrate = -1 then codecMaxBitrateKbps * 1000 else streamMaxBitrate
  | none => streamMaxBitrate

/-- The configuration, given the first encoding. -/
def encoderConfigFor (stream : WebRtcVideoSendStream) (first : RtpEncodingParameters)
    (codec : VideoCodec) : VideoEncoderConfig :=
  let isScreencast := stream.parameters.options.isScreencast.getD false
  { codecType := api.payloadStringToCodecType codec.name
    videoFormat := codec.format
    minTransmitBitrateBps :=
      if isScreencast then 1000 * stream.parameters.options.screencastMinBitrateKbps.getD 0
      else 0
    contentType := if isScreencast then .screen else .realtimeVideo
    numberOfStreams :=
      if isCodecDisabledForSimulcast codec.name then 1
      else stream.parameters.config.rtp.ssrcs.length
    maxBitrateBps := encoderMaxBitrate api codec (stream.streamMaxBitrate first)
    bitratePriority := first.bitratePriority
    simulcastLayers := stream.rtpParameters.encodings.map simulcastLayerOf
    legacyConferenceMode := stream.parameters.conferenceMode
    isQualityScalingAllowed :=
      !stream.disableAutomaticResize && !isScreencast &&
        (stream.parameters.config.rtp.ssrcs.length = 1 ||
          numActiveStreams stream.rtpParameters = 1)
    videoStreamFactory := some
      { codecName := codec.name
        maxQp := (api.getParam codec kCodecParamMaxQuantization).getD kDefaultQpMax
        isScreencast := isScreencast
        conferenceMode := stream.parameters.conferenceMode } }

def createVideoEncoderConfig (stream : WebRtcVideoSendStream) (codec : VideoCodec) :
    Except ChannelFault VideoEncoderConfig :=
  match stream.rtpParameters.encodings with
  | [] => .error .indexOutOfRange
  | first :: _ => .ok (encoderConfigFor api stream first codec)

/-! ## Operations -/

/-- `UpdateSendState`; what it tells the underlying stream is not part of the state. -/
def updateSendState (stream : WebRtcVideoSendStream) :
    Except ChannelFault WebRtcVideoSendStream :=
  if stream.sending ∧ ¬ stream.hasStream then .error .nullStream else .ok stream

/-- `RecreateWebRtcStream`: the creation of the underlying stream is commented out. -/
def recreateWebRtcStream (stream : WebRtcVideoSendStream) :
    Except ChannelFault WebRtcVideoSendStream :=
  match stream.parameters.codecSettings with
  | none => .error .checkFailed
  | some _ =>
      if stream.hasSource ∧ ¬ stream.hasStream then .error .nullStream
      else stream.updateSendState

def reconfigureEncoder (stream : WebRtcVideoSendStream) :
    Except ChannelFault WebRtcVideoSendStream :=
  if ¬ stream.hasStream then .ok stream
  else
    match stream.parameters.codecSettings with
    | none => .error .checkFailed
    | some codecSettings =>
        (stream.createVideoEncoderConfig api codecSettings.codec).map fun encoderConfig =>
          { stream with parameters := { stream.parameters with encoderConfig := encoderConfig } }

/-- The RTX part of `SetCodec`. -/
def rtxFor (rtx : RtxConfig) (codecSettings : VideoCodecSettings) : RtxConfig :=
  if rtx.ssrcs.isEmpty then rtx
  else if codecSettings.rtxPayloadType = -1 then { rtx with ssrcs := [] }
  else { rtx with payloadType := codecSettings.rtxPayloadType }

def kPacketizationParamRaw : Bytes := ascii "raw"

/-- The RTP configuration that `SetCodec` writes. -/
def rtpConfigFor (rtp : RtpConfig) (codecSettings : VideoCodecSettings) : RtpConfig :=
  { rtp with
    payloadName := codecSettings.codec.name
    payloadType := codecSettings.codec.id
    rawPayload := codecSettings.codec.packetization = some kPacketizationParamRaw
    ulpfec := codecSettings.ulpfec
    flexfec := { rtp.flexfec with payloadType := codecSettings.flexfecPayloadType }
    rtx := rtxFor rtp.rtx codecSettings
    lntfEnabled := api.hasLntf codecSettings.codec
    nackRtpHistoryMs := if api.hasNack codecSettings.codec then kNackHistoryMs else 0 }

/-- The parameters that `SetCodec` writes. -/
def withCodec (stream : WebRtcVideoSendStream) (codecSettings : VideoCodecSettings)
    (encoderConfig : VideoEncoderConfig) : WebRtcVideoSendStream :=
  { stream with
    parameters := { stream.parameters with
      config := { stream.parameters.config with
        rtp := rtpConfigFor api stream.parameters.config.rtp codecSettings
        lossNotification := api.hasLntf codecSettings.codec }
      codecSettings := some codecSettings
      encoderConfig := encoderConfig } }

def setCodec (stream : WebRtcVideoSendStream) (codecSettings : VideoCodecSettings) :
    Except ChannelFault WebRtcVideoSendStream :=
  (stream.createVideoEncoderConfig api codecSettings.codec).bind fun encoderConfig =>
    (stream.withCodec api codecSettings encoderConfig).recreateWebRtcStream

/-- The changes that need the underlying stream to be recreated. -/
def takeRtpChanges (stream : WebRtcVideoSendStream) (params : ChangedSendParameters) :
    WebRtcVideoSendStream :=
  let rtp := stream.parameters.config.rtp
  let rtpParameters := stream.rtpParameters
  { stream with
    parameters := { stream.parameters with
      config := { stream.parameters.config with
        rtp := { rtp with
          rtcpMode := params.rtcpMode.getD rtp.rtcpMode
          extmapAllowMixed := params.extmapAllowMixed.getD rtp.extmapAllowMixed
          extensions := params.rtpHeaderExtensions.getD rtp.extensions
          mid := params.mid.getD rtp.mid } } }
    rtpParameters := { rtpParameters with
      rtcpReducedSize :=
        match params.rtcpMode with
        | some rtcpMode => rtcpMode = .reducedSize
        | none => rtpParameters.rtcpReducedSize
      headerExtensions := params.rtpHeaderExtensions.getD rtpParameters.headerExtensions } }

def takeBandwidth (stream : WebRtcVideoSendStream) (params : ChangedSendParameters) :
    Except ChannelFault WebRtcVideoSendStream :=
  match params.maxBandwidthBps with
  | none => .ok stream
  | some maxBandwidthBps =>
      reconfigureEncoder api
        { stream with parameters := { stream.parameters with maxBitrateBps := maxBandwidthBps } }

def takeConferenceMode (stream : WebRtcVideoSendStream) (params : ChangedSendParameters) :
    WebRtcVideoSendStream :=
  { stream with
    parameters := { stream.parameters with
      conferenceMode := params.conferenceMode.getD stream.parameters.conferenceMode } }

/-- `recreate_stream` before the codecs are looked at. -/
def recreates (params : ChangedSendParameters) : Bool :=
  params.rtcpMode.isSome || params.extmapAllowMixed.isSome ||
    params.rtpHeaderExtensions.isSome || params.mid.isSome

/-- The end of `SetSendParameters`: the codec, or the recreation without one. -/
def takeCodec (stream : WebRtcVideoSendStream) (params : ChangedSendParameters) :
    Except ChannelFault WebRtcVideoSendStream :=
  match params.sendCodec with
  | some sendCodec => stream.setCodec api sendCodec
  | none =>
      match params.conferenceMode, stream.parameters.codecSettings with
      | some _, some codecSettings => stream.setCodec api codecSettings
      | _, _ => if recreates params then stream.recreateWebRtcStream else .ok stream

def setSendParameters (stream : WebRtcVideoSendStream) (params : ChangedSendParameters) :
    Except ChannelFault WebRtcVideoSendStream :=
  ((stream.takeRtpChanges params).takeBandwidth api params).bind fun stream =>
    (stream.takeConferenceMode params).takeCodec api params

def setSend (stream : WebRtcVideoSendStream) (send : Bool) :
    Except ChannelFault WebRtcVideoSendStream :=
  { stream with sending := send }.updateSendState

/-! ## Construction -/

/-- `CreateRtpParametersWithEncodings`. -/
def createRtpParametersWithEncodings (sp : SendStreamParams) :
    Except ChannelFault RtpParameters :=
  let primarySsrcs := sp.getPrimarySsrcs
  if primarySsrcs.length < sp.rids.length then .error .indexOutOfRange
  else .ok
    { encodings := primarySsrcs.mapIdx fun index ssrc =>
        { ssrc := some ssrc, rid := sp.rids.getD index [] }
      rtcpCname := sp.cname }

section Constructor

variable (sp : SendStreamParams) (config : SendStreamConfig) (options : VideoOptions)
variable (enableCpuOveruseDetection : Bool) (maxBitrateBps : ℤ)
variable (codecSettings : Option VideoCodecSettings)
variable (rtpExtensions : Option (List RtpExtension)) (sendParams : VideoSendParameters)

/-- The members as the constructor fills them. -/
def initialStream (rtpParameters : RtpParameters) : WebRtcVideoSendStream :=
  let ssrcs := config.rtp.ssrcs ++ sp.getPrimarySsrcs
  { ssrcs := sp.ssrcs
    ssrcGroups := sp.ssrcGroups
    enableCpuOveruseDetection := enableCpuOveruseDetection
    parameters :=
      { config := { config with
          rtp := { config.rtp with
            maxPacketSize := min config.rtp.maxPacketSize kVideoMtu
            ssrcs := ssrcs
            rtx := { config.rtp.rtx with
              ssrcs := config.rtp.rtx.ssrcs ++ sp.getFidSsrcs ssrcs }
            cName := sp.cname
            extensions := rtpExtensions.getD config.rtp.extensions
            rtcpMode := rtcpModeOf sendParams.rtcpReducedSize
            mid := sendParams.mid } }
        options := options
        maxBitrateBps := maxBitrateBps
        conferenceMode := sendParams.conferenceMode
        codecSettings := codecSettings }
    rtpParameters := { rtpParameters with
      headerExtensions := rtpExtensions.getD rtpParameters.headerExtensions
      rtcpReducedSize := sendParams.rtcpReducedSize } }

/-- The constructor up to `SetCodec`. -/
def construct : Except ChannelFault WebRtcVideoSendStream :=
  (createRtpParametersWithEncodings sp).bind fun rtpParameters =>
    match config.rtp.ssrcs ++ sp.getPrimarySsrcs, rtpParameters.encodings with
    | [], _ => .error .checkFailed
    | _, [] => .error .indexOutOfRange
    | ssrc :: _, first :: encodings =>
        .ok (initialStream sp config options enableCpuOveruseDetection maxBitrateBps
          codecSettings rtpExtensions sendParams
          { rtpParameters with encodings := { first with ssrc := some ssrc } :: encodings })

/-- The constructor. -/
def create : Except ChannelFault WebRtcVideoSendStream :=
  (construct sp config options enableCpuOveruseDetection maxBitrateBps codecSettings
      rtpExtensions sendParams).bind fun stream =>
    match codecSettings with
    | none => .ok stream
    | some codecSettings => stream.setCodec api codecSettings

end Constructor

end WebRtcVideoSendStream

end PeerConnection.Engine
