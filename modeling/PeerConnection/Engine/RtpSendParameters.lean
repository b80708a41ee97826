import PeerConnection.Engine.VideoChannel

/-!
# The RTP parameters of a send stream

`GetRtpSendParameters` and `SetRtpSendParameters` give the application the RTP parameters of a
stream and take them back with changes to the encodings.  The checks are those of
`media_engine.cpp`; the channel adds the codecs and sets the preferred code point.
-/

namespace PeerConnection.Engine

open PeerConnection.Text
open PeerConnection.Runs

/-- `webrtc::RTCErrorType`, as far as it is used here. -/
inductive RtcErrorType where
  | internalError
  | invalidRange
  | invalidModification
  deriving DecidableEq, Repr

/-- A `webrtc::RTCError` that is not OK. -/
structure RtcError where
  type : RtcErrorType
  message : String := ""
  deriving DecidableEq, Repr

/-! ## Checks -/

def kMaxTemporalStreams : ℤ := 4

/-- The body of the loop over the encodings. -/
def checkEncodingValues (encoding : RtpEncodingParameters) : Option RtcError :=
  if encoding.bitratePriority ≤ 0 then
    some { type := .invalidRange, message := "Attempted to set RtpParameters " ++
      "bitrate_priority to an invalid number. bitrate_priority must be > 0." }
  else if encoding.scaleResolutionDownBy.any (· < 1) then
    some { type := .invalidRange, message := "Attempted to set RtpParameters " ++
      "scale_resolution_down_by to an invalid value. scale_resolution_down_by must be >= 1.0" }
  else if encoding.maxFramerate.any (· < 0) then
    some { type := .invalidRange, message := "Attempted to set RtpParameters " ++
      "max_framerate to an invalid value. max_framerate must be >= 0.0" }
  else if encoding.minBitrateBps.any fun minBitrateBps =>
      encoding.maxBitrateBps.any (· < minBitrateBps) then
    some { type := .invalidRange, message := "Attempted to set RtpParameters min bitrate " ++
      "larger than max bitrate." }
  else if encoding.numTemporalLayers.any fun numTemporalLayers =>
      numTemporalLayers < 1 || numTemporalLayers > kMaxTemporalStreams then
    some { type := .invalidRange, message := "Attempted to set RtpParameters " ++
      "num_temporal_layers to an invalid number." }
  else none

/-- `CheckRtpParametersValues`. -/
def checkRtpParametersValues (rtpParameters : RtpParameters) : Option RtcError :=
  rtpParameters.encodings.findSome? checkEncodingValues

/-- `operator!=` of `RtcpParameters`. -/
def rtcpDiffers (left right : RtpParameters) : Bool :=
  left.rtcpSsrc ≠ right.rtcpSsrc || left.rtcpCname ≠ right.rtcpCname ||
    left.rtcpReducedSize ≠ right.rtcpReducedSize || left.rtcpMux ≠ right.rtcpMux

/-- `CheckRtpParametersInvalidModificationAndValues`. -/
def checkRtpParametersInvalidModificationAndValues
    (oldRtpParameters rtpParameters : RtpParameters) : Option RtcError :=
  if rtpParameters.encodings.length ≠ oldRtpParameters.encodings.length then
    some { type := .invalidModification, message := "Attempted to set RtpParameters with " ++
      "different encoding count" }
  else if rtcpDiffers rtpParameters oldRtpParameters then
    some { type := .invalidModification, message := "Attempted to set RtpParameters with " ++
      "modified RTCP parameters" }
  else if rtpParameters.headerExtensions ≠ oldRtpParameters.headerExtensions then
    some { type := .invalidModification, message := "Attempted to set RtpParameters with " ++
      "modified header extensions" }
  else if !oldRtpParameters.encodings.isEqv rtpParameters.encodings (·.rid = ·.rid) then
    some { type := .invalidModification, message := "Attempted to change RID values in the " ++
      "encodings." }
  else if !oldRtpParameters.encodings.isEqv rtpParameters.encodings (·.ssrc = ·.ssrc) then
    some { type := .invalidModification, message := "Attempted to set RtpParameters with " ++
      "modified SSRC" }
  else checkRtpParametersValues rtpParameters

/-! ## The stream -/

/-- `IsLayerActive`. -/
def isLayerActive (layer : RtpEncodingParameters) : Bool :=
  layer.active && layer.maxBitrateBps.all (· > 0) && layer.maxFramerate.all (· > 0)

/-- The comparison behind `new_param`. -/
def encodingDiffers (newEncoding oldEncoding : RtpEncodingParameters) : Bool :=
  newEncoding.minBitrateBps ≠ oldEncoding.minBitrateBps ||
    newEncoding.maxBitrateBps ≠ oldEncoding.maxBitrateBps ||
    newEncoding.maxFramerate ≠ oldEncoding.maxFramerate ||
    newEncoding.scaleResolutionDownBy ≠ oldEncoding.scaleResolutionDownBy ||
    newEncoding.numTemporalLayers ≠ oldEncoding.numTemporalLayers

namespace WebRtcVideoSendStream

/-- The encoder or the send state has to follow the new encodings, given the first of them. -/
def takeRtpParameters (api : EngineApi) (stream : WebRtcVideoSendStream)
    (newParameters : RtpParameters) (newFirst oldFirst : RtpEncodingParameters) :
    Except ChannelFault WebRtcVideoSendStream :=
  let encodings := newParameters.encodings.zip stream.rtpParameters.encodings
  let reconfigureEncoder :=
    encodings.any (fun pair => encodingDiffers pair.1 pair.2) ||
      newFirst.bitratePriority ≠ oldFirst.bitratePriority ||
      newFirst.scalabilityMode ≠ oldFirst.scalabilityMode
  let newSendState := encodings.any fun pair => isLayerActive pair.1 ≠ isLayerActive pair.2
  -- the codecs are handled by the channel
  let taken := { stream with rtpParameters := { newParameters with codecs := [] } }
  (if reconfigureEncoder || newSendState then taken.reconfigureEncoder api else .ok taken).bind
    fun stream => if newSendState then stream.updateSendState else .ok stream

/-- `SetRtpParameters`.  A new degradation preference is only told to the underlying stream. -/
def setRtpParameters (api : EngineApi) (stream : WebRtcVideoSendStream)
    (newParameters : RtpParameters) :
    Except ChannelFault (WebRtcVideoSendStream × Option RtcError) :=
  match checkRtpParametersInvalidModificationAndValues stream.rtpParameters newParameters with
  | some error => .ok (stream, some error)
  | none =>
      match newParameters.encodings, stream.rtpParameters.encodings with
      | newFirst :: _, oldFirst :: _ =>
          (stream.takeRtpParameters api newParameters newFirst oldFirst).map (·, none)
      | _, _ => .error .indexOutOfRange

end WebRtcVideoSendStream

/-! ## The channel -/

/-- The libraries of the channel with `VideoCodec::ToCodecParameters`. -/
structure RtpApi extends EngineApi where
  toCodecParameters : VideoCodec → RtpCodecParameters

/-- The code point for the network priority of the first encoding. -/
def dscpFor : Priority → DiffServCodePoint
  | .veryLow => .cs1
  | .low => .default
  | .medium => .af42
  | .high => .af41

namespace WebRtcVideoChannel

variable (api : RtpApi)

/-- The channel's codecs are added to the parameters of the stream. -/
def withCodecs (channel : WebRtcVideoChannel) (rtpParameters : RtpParameters) : RtpParameters :=
  { rtpParameters with
    codecs := rtpParameters.codecs ++ channel.sendParams.codecs.map api.toCodecParameters }

def getRtpSendParameters (channel : WebRtcVideoChannel) (ssrc : UInt32) : RtpParameters :=
  match channel.sendStreams[ssrc]? with
  | none => {}
  | some stream => channel.withCodecs api stream.rtpParameters

/-- `SetPreferredDscp` for the first encoding, if there is one. -/
def withDscp (channel : WebRtcVideoChannel) (parameters : RtpParameters) : WebRtcVideoChannel :=
  match parameters.encodings with
  | [] => channel
  | first :: _ => { channel with preferredDscp := dscpFor first.networkPriority }

def setRtpSendParameters (channel : WebRtcVideoChannel) (ssrc : UInt32)
    (parameters : RtpParameters) : Except ChannelFault (WebRtcVideoChannel × Option RtcError) :=
  match channel.sendStreams[ssrc]? with
  | none => .ok (channel, some { type := .internalError })
  | some stream =>
      if (channel.getRtpSendParameters api ssrc).codecs ≠ parameters.codecs then
        .ok (channel, some { type := .internalError })
      else
        (stream.setRtpParameters api.toEngineApi parameters).map fun result =>
          let changed := channel.withDscp parameters
          ({ changed with sendStreams := changed.sendStreams.insert ssrc result.1 }, result.2)

end WebRtcVideoChannel

/-! ## Calls -/

/-- The calls of the channel with those for the RTP parameters. -/
inductive RtpCall where
  | channelCall (call : ChannelCall)
  | setRtpSendParameters (ssrc : UInt32) (parameters : RtpParameters)
  deriving DecidableEq

def rtpStep (api : RtpApi) : System WebRtcVideoChannel RtpCall ChannelFault := fun channel call =>
  match call with
  | .channelCall call => channelStep api.toEngineApi channel call
  | .setRtpSendParameters ssrc parameters =>
      some ((channel.setRtpSendParameters api ssrc parameters).map (·.1))

/-- `VideoCodec::ToCodecParameters` as it is documented. -/
def codecParametersOf (codec : VideoCodec) : RtpCodecParameters where
  name := codec.name
  payloadType := codec.id
  clockRate := some codec.clockrate
  rtcpFeedback := codec.feedbackParams
  parameters := codec.params

def webrtcRtpApi (implementations : List SdpVideoFormat) : RtpApi where
  toEngineApi := webrtcEngineApi implementations
  toCodecParameters := codecParametersOf

end PeerConnection.Engine
