import PeerConnection.Core.MapValues
import PeerConnection.Engine.VideoSendStream

/-!
# The send side of a video channel

The channel keeps the negotiated codecs, the codec in use and the live send streams.  New send
parameters, a failing encoder and requests for another encoder all become a record of changes
that is applied to the channel and handed to every stream.
-/

namespace PeerConnection.Engine

open PeerConnection.Text
open PeerConnection.Runs
open PeerConnection.MapValues
open Std

/-- `EncoderSwitchRequestCallback::Config`. -/
structure EncoderSwitchConfig where
  codecName : Bytes
  param : Option Bytes := none
  value : Option Bytes := none
  deriving DecidableEq, Repr

/-- `MediaConfig::Video`. -/
structure VideoConfig where
  enableCpuAdaptation : Bool := true
  suspendBelowMinBitrate : Bool := false
  periodicAlrBandwidthProbing : Bool := false
  experimentCpuLoadEstimator : Bool := false
  rtcpReportIntervalMs : ℤ := 1000
  deriving DecidableEq, Repr

def kDefaultRtcpReceiverReportSsrc : UInt32 := 1

/-- `rtc::DiffServCodePoint`, as far as it is used here. -/
inductive DiffServCodePoint where
  | default
  | cs1
  | af42
  | af41
  deriving DecidableEq, Repr

structure WebRtcVideoChannel where
  videoConfig : VideoConfig := {}
  defaultSendOptions : VideoOptions := {}
  rtcpReceiverReportSsrc : UInt32 := kDefaultRtcpReceiverReportSsrc
  sending : Bool := false
  sendStreams : ExtTreeMap UInt32 WebRtcVideoSendStream := ∅
  sendSsrcs : Finset UInt32 := ∅
  sendCodec : Option VideoCodecSettings := none
  negotiatedCodecs : List VideoCodecSettings := []
  sendRtpExtensions : Option (List RtpExtension) := none
  bitrateConfig : BitrateConstraints := {}
  sendParams : VideoSendParameters := {}
  extmapAllowMixed : Bool := false
  allowCodecSwitching : Bool := false
  requestedEncoderSwitch : Option EncoderSwitchConfig := none
  preferredDscp : DiffServCodePoint := .default
  deriving DecidableEq

/-! ## Codecs -/

/-- Entries of the first map win, as with `insert` of a range. -/
def insertParams (params added : CodecParameterMap) : CodecParameterMap :=
  added.toList.foldl (fun params entry => params.insertIfNew entry.1 entry.2) params

/-- Entries of the second map win. -/
def overwriteParams (params written : CodecParameterMap) : CodecParameterMap :=
  written.toList.foldl (fun params entry => params.insert entry.1 entry.2) params

section Channel

variable (api : EngineApi)

/-- One remote codec in `SelectSendVideoCodecs`: the formats that match are used up. -/
def selectEncoders (state : List VideoCodecSettings × List SdpVideoFormat)
    (remoteCodec : VideoCodecSettings) : List VideoCodecSettings × List SdpVideoFormat :=
  let matching := state.2.filter (api.isSameCodec · remoteCodec.codec.format)
  let encoders := matching.map fun format =>
    { remoteCodec with
      codec := { remoteCodec.codec with
        params := insertParams remoteCodec.codec.params format.parameters } }
  (state.1 ++ encoders, state.2.filter (!api.isSameCodec · remoteCodec.codec.format))

def selectSendVideoCodecs (remoteMappedCodecs : List VideoCodecSettings) :
    List VideoCodecSettings :=
  (remoteMappedCodecs.foldl (selectEncoders api) ([], api.getImplementations)).1

/-- `ValidateCodecFormats`. -/
def validateCodecFormats (codecs : List VideoCodec) : Bool :=
  codecs.all api.validateCodecFormat && codecs.any (api.getCodecType · = .video)

/-- The codecs that both sides support. -/
def negotiatedCodecsFor (params : VideoSendParameters) : List VideoCodecSettings :=
  selectSendVideoCodecs api (mapCodecs api.toVideoCodecApi params.codecs)

namespace WebRtcVideoChannel

/-- The constructor. -/
def create (videoConfig : VideoConfig) (options : VideoOptions) : WebRtcVideoChannel where
  videoConfig := videoConfig
  defaultSendOptions := options

/-! ## Send parameters -/

/-- The codec that `GetChangedSendParameters` changes to. -/
def changedSendCodec (channel : WebRtcVideoChannel)
    (negotiatedCodecs : List VideoCodecSettings) : Option VideoCodecSettings :=
  if channel.negotiatedCodecs = negotiatedCodecs then none
  else
    match negotiatedCodecs with
    | [] => none
    | front :: _ => if channel.sendCodec ≠ some front then some front else none

/-- What the parameters change of the state of the channel. -/
def changesTo (channel : WebRtcVideoChannel) (params : VideoSendParameters) :
    ChangedSendParameters :=
  let negotiatedCodecs := negotiatedCodecsFor api params
  let filteredExtensions :=
    filterRtpExtensions api params.extensions api.isSupportedForVideo true
  { sendCodec := channel.changedSendCodec negotiatedCodecs
    negotiatedCodecs :=
      if channel.negotiatedCodecs = negotiatedCodecs then none else some negotiatedCodecs
    extmapAllowMixed :=
      if params.extmapAllowMixed ≠ channel.extmapAllowMixed then some params.extmapAllowMixed
      else none
    rtpHeaderExtensions :=
      if channel.sendRtpExtensions = some filteredExtensions then none
      else some filteredExtensions
    mid := if params.mid ≠ channel.sendParams.mid then some params.mid else none
    maxBandwidthBps :=
      if params.maxBandwidthBps ≠ channel.sendParams.maxBandwidthBps ∧
          params.maxBandwidthBps ≥ -1 then
        some (if params.maxBandwidthBps = 0 then -1 else params.maxBandwidthBps)
      else none
    conferenceMode :=
      if params.conferenceMode ≠ channel.sendParams.conferenceMode then
        some params.conferenceMode
      else none
    rtcpMode :=
      if params.rtcpReducedSize ≠ channel.sendParams.rtcpReducedSize then
        some (rtcpModeOf params.rtcpReducedSize)
      else none }

/-- `none` when the parameters are refused. -/
def getChangedSendParameters (channel : WebRtcVideoChannel) (params : VideoSendParameters) :
    Option ChangedSendParameters :=
  if !validateCodecFormats api params.codecs || !validateRtpExtensions params.extensions then none
  else if params.isStreamActive && (negotiatedCodecsFor api params).isEmpty then none
  else some (channel.changesTo api params)

/-- The bitrates of the channel once the send codec or the bandwidth has changed. -/
def changedBitrateConfig (channel : WebRtcVideoChannel) (params : ChangedSendParameters) :
    BitrateConstraints :=
  let maxBandwidthBps := channel.sendParams.maxBandwidthBps
  let uncapped :=
    if maxBandwidthBps = -1 then { channel.bitrateConfig with maxBitrateBps := -1 }
    else channel.bitrateConfig
  let ofCodec :=
    match channel.sendCodec with
    | none => uncapped
    | some sendCodec =>
        let config := getBitrateConfigForCodec api sendCodec.codec
        if params.sendCodec.isNone then { config with startBitrateBps := -1 } else config
  if maxBandwidthBps ≥ 0 then
    { ofCodec with maxBitrateBps := if maxBandwidthBps = 0 then -1 else maxBandwidthBps }
  else ofCodec

/-- What `ApplyChangedParams` writes before it turns to the streams. -/
def takeChanges (channel : WebRtcVideoChannel) (params : ChangedSendParameters) :
    WebRtcVideoChannel :=
  let changed := { channel with
    negotiatedCodecs := params.negotiatedCodecs.getD channel.negotiatedCodecs
    sendCodec := params.sendCodec.or channel.sendCodec
    extmapAllowMixed := params.extmapAllowMixed.getD channel.extmapAllowMixed
    sendRtpExtensions := params.rtpHeaderExtensions.or channel.sendRtpExtensions }
  if params.sendCodec.isSome || params.maxBandwidthBps.isSome then
    { changed with bitrateConfig := changed.changedBitrateConfig api params }
  else changed

/-- `ApplyChangedParams`, which returns true. -/
def applyChangedParams (channel : WebRtcVideoChannel) (params : ChangedSendParameters) :
    Except ChannelFault WebRtcVideoChannel :=
  (updateValues (fun stream => stream.setSendParameters api params) channel.sendStreams).map
    fun sendStreams => { channel.takeChanges api params with sendStreams := sendStreams }

def setSendParameters (channel : WebRtcVideoChannel) (params : VideoSendParameters) :
    Except ChannelFault (WebRtcVideoChannel × Bool) :=
  match channel.getChangedSendParameters api params with
  | none => .ok (channel, false)
  | some changed =>
      ({ channel with sendParams := params }.applyChangedParams api changed).map (·, true)

/-! ## Encoder requests -/

def requestEncoderFallback (channel : WebRtcVideoChannel) :
    Except ChannelFault WebRtcVideoChannel :=
  match channel.negotiatedCodecs with
  | _ :: front :: rest =>
      channel.applyChangedParams api
        { negotiatedCodecs := some (front :: rest), sendCodec := some front }
  | _ => .ok channel

/-- The test of `RequestEncoderSwitch` on one entry. -/
def matchesSwitch (conf : EncoderSwitchConfig) (codecSetting : VideoCodecSettings) : Bool :=
  codecSetting.codec.name = conf.codecName &&
    match conf.param with
    | none => true
    | some param =>
        match codecSetting.codec.params[param]? with
        | none => false
        | some given => conf.value.all (given = ·)

/-- Switch to a codec unless it is in use. -/
def switchTo (channel : WebRtcVideoChannel) (codecSetting : VideoCodecSettings) :
    Except ChannelFault WebRtcVideoChannel :=
  if channel.sendCodec = some codecSetting then .ok channel
  else channel.applyChangedParams api { sendCodec := some codecSetting }

/-- `RequestEncoderSwitch(const EncoderSwitchRequestCallback::Config&)`. -/
def requestEncoderSwitch (channel : WebRtcVideoChannel) (conf : EncoderSwitchConfig) :
    Except ChannelFault WebRtcVideoChannel :=
  if ¬ channel.allowCodecSwitching then
    .ok { channel with requestedEncoderSwitch := some conf }
  else
    match channel.negotiatedCodecs.find? (matchesSwitch conf) with
    | none => .ok channel
    | some codecSetting => channel.switchTo api codecSetting

/-- `RequestEncoderSwitch(const SdpVideoFormat&)`. -/
def requestEncoderSwitchFormat (channel : WebRtcVideoChannel) (format : SdpVideoFormat) :
    Except ChannelFault WebRtcVideoChannel :=
  match channel.negotiatedCodecs.find? (api.isSameCodec format ·.codec.format) with
  | none => .ok channel
  | some codecSetting =>
      channel.switchTo api
        { codecSetting with
          codec := { codecSetting.codec with
            params := overwriteParams codecSetting.codec.params format.parameters } }

def setVideoCodecSwitchingEnabled (channel : WebRtcVideoChannel) (enabled : Bool) :
    Except ChannelFault WebRtcVideoChannel :=
  let changed := { channel with allowCodecSwitching := enabled }
  match enabled, channel.requestedEncoderSwitch with
  | true, some conf =>
      (changed.requestEncoderSwitch api conf).map fun channel =>
        { channel with requestedEncoderSwitch := none }
  | _, _ => .ok changed

/-! ## Send streams -/

def validateSendSsrcAvailability (channel : WebRtcVideoChannel) (sp : SendStreamParams) : Bool :=
  sp.ssrcs.all (· ∉ channel.sendSsrcs)

/-- The configuration that `AddSendStream` fills in. -/
def sendStreamConfig (channel : WebRtcVideoChannel) (sp : SendStreamParams) :
    SendStreamConfig where
  rtp := { rids := sp.rids, extmapAllowMixed := channel.extmapAllowMixed }
  experimentCpuLoadEstimator := channel.videoConfig.experimentCpuLoadEstimator
  rtcpReportIntervalMs := channel.videoConfig.rtcpReportIntervalMs
  suspendBelowMinBitrate := channel.videoConfig.suspendBelowMinBitrate
  periodicAlrBandwidthProbing := channel.videoConfig.periodicAlrBandwidthProbing

/-- The stream that `AddSendStream` constructs. -/
def createSendStream (channel : WebRtcVideoChannel) (sp : SendStreamParams) :
    Except ChannelFault WebRtcVideoSendStream :=
  WebRtcVideoSendStream.create api sp (channel.sendStreamConfig sp) channel.defaultSendOptions
    channel.videoConfig.enableCpuAdaptation channel.bitrateConfig.maxBitrateBps
    channel.sendCodec channel.sendRtpExtensions channel.sendParams

/-- The channel once the stream is in its map. -/
def withSendStream (channel : WebRtcVideoChannel) (sp : SendStreamParams)
    (stream : WebRtcVideoSendStream) : WebRtcVideoChannel :=
  { channel with
    sendSsrcs := channel.sendSsrcs ∪ sp.ssrcs.toFinset
    sendStreams := channel.sendStreams.insert sp.firstSsrc stream
    rtcpReceiverReportSsrc :=
      if channel.rtcpReceiverReportSsrc = kDefaultRtcpReceiverReportSsrc then sp.firstSsrc
      else channel.rtcpReceiverReportSsrc }

def addSendStream (channel : WebRtcVideoChannel) (sp : SendStreamParams) :
    Except ChannelFault (WebRtcVideoChannel × Bool) :=
  if !validateStreamParams sp || !channel.validateSendSsrcAvailability sp then
    .ok (channel, false)
  else
    (channel.createSendStream api sp).bind fun stream =>
      (if channel.sending then stream.setSend true else .ok stream).map fun stream =>
        (channel.withSendStream sp stream, true)

def removeSendStream (channel : WebRtcVideoChannel) (ssrc : UInt32) :
    WebRtcVideoChannel × Bool :=
  match channel.sendStreams[ssrc]? with
  | none => (channel, false)
  | some stream =>
      let sendStreams := channel.sendStreams.erase ssrc
      ({ channel with
          sendSsrcs := channel.sendSsrcs \ stream.ssrcs.toFinset
          sendStreams := sendStreams
          rtcpReceiverReportSsrc :=
            if channel.rtcpReceiverReportSsrc = ssrc then
              sendStreams.minKey?.getD kDefaultRtcpReceiverReportSsrc
            else channel.rtcpReceiverReportSsrc }, true)

end WebRtcVideoChannel

/-! ## Calls -/

/-- The calls of the channel's user and of the encoders. -/
inductive ChannelCall where
  | setSendParameters (params : VideoSendParameters)
  | requestEncoderFallback
  | requestEncoderSwitch (conf : EncoderSwitchConfig)
  | requestEncoderSwitchFormat (format : SdpVideoFormat)
  | setVideoCodecSwitchingEnabled (enabled : Bool)
  | addSendStream (sp : SendStreamParams)
  | removeSendStream (ssrc : UInt32)
  deriving DecidableEq

def channelStep : System WebRtcVideoChannel ChannelCall ChannelFault := fun channel call =>
  match call with
  | .setSendParameters params => some ((channel.setSendParameters api params).map (·.1))
  | .requestEncoderFallback => some (channel.requestEncoderFallback api)
  | .requestEncoderSwitch conf => some (channel.requestEncoderSwitch api conf)
  | .requestEncoderSwitchFormat format => some (channel.requestEncoderSwitchFormat api format)
  | .setVideoCodecSwitchingEnabled enabled =>
      some (channel.setVideoCodecSwitchingEnabled api enabled)
  | .addSendStream sp => some ((channel.addSendStream api sp).map (·.1))
  | .removeSendStream ssrc => some (.ok (channel.removeSendStream ssrc).1)

end Channel

/-! ## The outside parts as their documentation describes them -/

/-- `VideoCodec::ValidateCodecFormat`. -/
def codecFormatValid (codec : VideoCodec) : Bool :=
  decide (0 ≤ codec.id ∧ codec.id ≤ 127) &&
    match webrtcCodecApi.getParam codec kCodecParamMinBitrate,
      webrtcCodecApi.getParam codec kCodecParamMaxBitrate with
    | some minBitrate, some maxBitrate => decide (minBitrate ≤ maxBitrate)
    | _, _ => true

def payloadCodecType (name : Bytes) : VideoCodecType :=
  if equalsIgnoreCase name (ascii "VP8") then .vp8
  else if equalsIgnoreCase name (ascii "VP9") then .vp9
  else if equalsIgnoreCase name (ascii "AV1") then .av1
  else if equalsIgnoreCase name (ascii "H264") then .h264
  else if equalsIgnoreCase name (ascii "multiplex") then .multiplex
  else .generic

/-- The libraries with this encoder factory, for formats that their names tell apart. -/
def webrtcEngineApi (implementations : List SdpVideoFormat) : EngineApi where
  toVideoCodecApi := webrtcCodecApi
  validateCodecFormat := codecFormatValid
  isSameCodec left right := equalsIgnoreCase left.name right.name
  getImplementations := implementations
  isSupportedForVideo uri := uri = kAbsSendTimeUri || uri = kTimestampOffsetUri
  sortExtensions := List.insertionSort fun left right =>
    if left.encrypt = right.encrypt then left.uri ≤ right.uri else left.encrypt
  payloadStringToCodecType := payloadCodecType
  hasLntf codec := { id := ascii "goog-lntf" } ∈ codec.feedbackParams
  hasNack codec := { id := ascii "nack" } ∈ codec.feedbackParams

def vp8Format : SdpVideoFormat := { name := ascii "VP8" }
def vp9Format : SdpVideoFormat := { name := ascii "VP9" }

end PeerConnection.Engine
