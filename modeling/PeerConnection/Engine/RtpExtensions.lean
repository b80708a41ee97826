import PeerConnection.Engine.VideoCodecs

/-!
# RTP header extensions and bitrates of the media engine

The checks and filters of `webrtc_media_engine.cpp` that the send parameters go through, and
what the engine takes from the libraries around it.
-/

namespace PeerConnection.Engine

open PeerConnection.Text

structure RtpExtension where
  uri : Bytes
  id : ℤ
  encrypt : Bool := false
  deriving DecidableEq

def kMinId : ℤ := 1
def kMaxId : ℤ := 255
def kAbsSendTimeUri : Bytes := ascii "http://www.webrtc.org/experiments/rtp-hdrext/abs-send-time"
def kTimestampOffsetUri : Bytes := ascii "urn:ietf:params:rtp-hdrext:toffset"

/-- `libmedia_codec::VideoCodecType`. -/
inductive VideoCodecType where
  | generic
  | vp8
  | vp9
  | av1
  | h264
  | multiplex
  deriving DecidableEq, Repr

/-- What the channel calls outside of this repository.  `getImplementations` is what the
encoder factory answers, empty for a null factory; `sortExtensions` is `absl::c_sort` by
encryption and URI, which leaves the order of equal elements open. -/
structure EngineApi extends VideoCodecApi where
  validateCodecFormat : VideoCodec → Bool
  isSameCodec : SdpVideoFormat → SdpVideoFormat → Bool
  getImplementations : List SdpVideoFormat
  isSupportedForVideo : Bytes → Bool
  sortExtensions : List RtpExtension → List RtpExtension
  payloadStringToCodecType : Bytes → VideoCodecType
  hasLntf : VideoCodec → Bool
  hasNack : VideoCodec → Bool

/-! ## Extensions -/

/-- The body of the loop, with the identifiers that are in use. -/
def checkExtension (idUsed : List ℤ) (extension : RtpExtension) : Option (List ℤ) :=
  if extension.id < kMinId ∨ extension.id > kMaxId then none
  else if extension.id ∈ idUsed then none
  else some (extension.id :: idUsed)

def validateRtpExtensions (extensions : List RtpExtension) : Bool :=
  (extensions.foldlM checkExtension []).isSome

/-- The body of the loop over the URIs; the flag is `found`. -/
def discardExtension (state : List RtpExtension × Bool) (uri : Bytes) :
    List RtpExtension × Bool :=
  match state.1.findIdx? fun extension => extension.uri = uri with
  | none => state
  | some index => (if state.2 then state.1.eraseIdx index else state.1, true)

def discardRedundantExtensions (extensions : List RtpExtension)
    (extensionsDecreasingPrio : List Bytes) : List RtpExtension :=
  (extensionsDecreasingPrio.foldl discardExtension (extensions, false)).1

/-- `std::unique` keeps the first of neighbours with this relation. -/
def sameExtension (left right : RtpExtension) : Prop :=
  left.uri = right.uri ∧ left.encrypt = right.encrypt

instance (left right : RtpExtension) : Decidable (sameExtension left right) :=
  inferInstanceAs (Decidable (_ ∧ _))

def kBweExtensionPriorities : List Bytes := [kAbsSendTimeUri, kTimestampOffsetUri]

def filterRtpExtensions (api : EngineApi) (extensions : List RtpExtension)
    (supported : Bytes → Bool) (filterRedundantExtensions : Bool) : List RtpExtension :=
  let result := api.sortExtensions (extensions.filter (supported ·.uri))
  if filterRedundantExtensions then
    discardRedundantExtensions
      (result.destutter fun left right => ¬ sameExtension left right) kBweExtensionPriorities
  else result

/-! ## Bitrates -/

/-- `libmedia_transfer_protocol::BitrateConstraints`. -/
structure BitrateConstraints where
  minBitrateBps : ℤ := 0
  startBitrateBps : ℤ := 300000
  maxBitrateBps : ℤ := -1
  deriving DecidableEq, Repr

def kCodecParamMinBitrate : Bytes := ascii "x-google-min-bitrate"
def kCodecParamStartBitrate : Bytes := ascii "x-google-start-bitrate"
def kCodecParamMaxBitrate : Bytes := ascii "x-google-max-bitrate"
def kCodecParamMaxQuantization : Bytes := ascii "x-google-max-quantization"

/-- A positive bitrate parameter in bits per second. -/
def bitrateParam (api : EngineApi) (codec : VideoCodec) (name : Bytes) (default : ℤ) : ℤ :=
  match api.getParam codec name with
  | some bitrateKbps => if bitrateKbps > 0 then bitrateKbps * 1000 else default
  | none => default

def getBitrateConfigForCodec (api : EngineApi) (codec : VideoCodec) : BitrateConstraints where
  minBitrateBps := bitrateParam api codec kCodecParamMinBitrate 0
  startBitrateBps := bitrateParam api codec kCodecParamStartBitrate (-1)
  maxBitrateBps := bitrateParam api codec kCodecParamMaxBitrate (-1)

end PeerConnection.Engine
