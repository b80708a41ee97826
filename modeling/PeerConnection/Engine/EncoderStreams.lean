import PeerConnection.Engine.Simulcast

/-!
# Streams for the encoder

`EncoderStreamFactory` takes the layers of `GetSimulcastConfig` and writes the configured values
of `simulcast_layers` over them, layer by layer.  What is left of the bitrate goes to the last
layer, and the first active one may go as low as an inactive one below it.  One stream gets its
only layer without all that.
-/

namespace PeerConnection.Engine

open PeerConnection.Text

def kMinLayerSize : ℤ := 16

def kVp8CodecName : Bytes := ascii "VP8"
def kVp9CodecName : Bytes := ascii "VP9"
def kH264CodecName : Bytes := ascii "H264"

def isTemporalLayersSupported (codecName : Bytes) : Bool :=
  equalsIgnoreCase codecName kVp8CodecName || equalsIgnoreCase codecName kVp9CodecName

/-- The loop ends at the first active layer, and reads past the end when it finds none there. -/
def findRequiredActiveLayers (config : VideoEncoderConfig) : Except SimulcastFault ℕ :=
  match (config.simulcastLayers.take config.numberOfStreams).findIdx? (·.active) with
  | some index => .ok (index + 1)
  | none =>
      if config.simulcastLayers.length < config.numberOfStreams then .error .configOutOfRange
      else .ok 0

def powerOfTwo (value : ℤ) : Bool :=
  value > 0 && value.toNat &&& (value.toNat - 1) = 0

def isScaleFactorsPowerOfTwo (config : VideoEncoderConfig) : Bool :=
  config.simulcastLayers.all fun layer =>
    let scale := max layer.scaleResolutionDownBy 1
    scale.isInt && powerOfTwo scale.num

/-! ## One layer -/

/-- The configured bitrates, and what is made of the others. -/
def overrideBitrates (config : SimulcastLayer) (layer : VideoStream) : VideoStream :=
  let minBitrate :=
    if config.minBitrateBps > 0 then config.minBitrateBps else layer.minBitrateBps
  let maxBitrate :=
    if config.maxBitrateBps > 0 then config.maxBitrateBps else layer.maxBitrateBps
  let targetBitrate :=
    if config.targetBitrateBps > 0 then config.targetBitrateBps else layer.targetBitrateBps
  if config.minBitrateBps > 0 ∧ config.maxBitrateBps > 0 then
    let target :=
      if config.targetBitrateBps ≤ 0 then (maxBitrate * 3).tdiv 4 else targetBitrate
    { layer with
      minBitrateBps := minBitrate
      targetBitrateBps := if target < minBitrate then maxBitrate else target
      maxBitrateBps := maxBitrate }
  else if config.minBitrateBps > 0 then
    { layer with
      minBitrateBps := minBitrate
      targetBitrateBps := max targetBitrate minBitrate
      maxBitrateBps := max maxBitrate minBitrate }
  else if config.maxBitrateBps > 0 then
    let lowered := min minBitrate maxBitrate
    let target :=
      if config.targetBitrateBps ≤ 0 then max targetBitrate ((maxBitrate * 3).tdiv 4)
      else targetBitrate
    { layer with
      minBitrateBps := lowered
      targetBitrateBps := max (min target maxBitrate) lowered
      maxBitrateBps := maxBitrate }
  else
    { layer with
      minBitrateBps := minBitrate
      targetBitrateBps := targetBitrate
      maxBitrateBps := maxBitrate }

/-- What the loop over the layers needs besides the layers. -/
structure OverrideArguments where
  temporalLayersSupported : Bool
  hasScaleResolutionDownBy : Bool
  normalizedWidth : ℤ
  normalizedHeight : ℤ

section Override

variable (api : SimulcastApi) (arguments : OverrideArguments)

/-- The other configured values. -/
def overrideFormat (config : SimulcastLayer) (layer : VideoStream) : VideoStream :=
  let scaleResolutionDownBy := max config.scaleResolutionDownBy 1
  { layer with
    active := config.active
    numTemporalLayers :=
      if config.numTemporalLayers.isSome && arguments.temporalLayersSupported then
        config.numTemporalLayers
      else layer.numTemporalLayers
    maxFramerate := if config.maxFramerate > 0 then config.maxFramerate else layer.maxFramerate
    width :=
      if arguments.hasScaleResolutionDownBy then
        max (api.dividedToInt arguments.normalizedWidth scaleResolutionDownBy) kMinLayerSize
      else layer.width
    height :=
      if arguments.hasScaleResolutionDownBy then
        max (api.dividedToInt arguments.normalizedHeight scaleResolutionDownBy) kMinLayerSize
      else layer.height }

def overrideLayer (config : SimulcastLayer) (layer : VideoStream) : VideoStream :=
  overrideBitrates config (overrideFormat api arguments config layer)

/-- The loop over the layers: each reads the element of `simulcast_layers` with its index. -/
def overrideLayers :
    List VideoStream → List SimulcastLayer → Except SimulcastFault (List VideoStream)
  | [], _ => .ok []
  | _ :: _, [] => .error .configOutOfRange
  | layer :: layers, config :: configs =>
      (overrideLayers layers configs).map (overrideLayer api arguments config layer :: ·)

end Override

/-! ## All layers -/

/-- The indices of the layers, sorted by the max bitrate; `stable_sort` keeps the order of equal
ones. -/
def bitrateOrder (layers : List VideoStream) : List ℕ :=
  (List.range layers.length).insertionSort fun a b =>
    (layers.getD a {}).maxBitrateBps ≤ (layers.getD b {}).maxBitrateBps

/-- The first active layer may go as low as the lowest one, if that is inactive. -/
def lowerFirstActive (layers : List VideoStream) : Except SimulcastFault (List VideoStream) :=
  match bitrateOrder layers with
  | [] => .error .layerOutOfRange
  | lowest :: others =>
      if (layers.getD lowest {}).active then .ok layers
      else
        let minConfiguredBitrate := (layers.getD lowest {}).minBitrateBps
        match (lowest :: others).find? fun index => (layers.getD index {}).active with
        | none => .ok layers
        | some index =>
            .ok (layers.modify index ({ · with minBitrateBps := minConfiguredBitrate }))

/-- The minimum of an experiment is that of the first layer. -/
def withExperimentalMinBitrate (experimentalMinBitrate : Option ℤ) (layers : List VideoStream) :
    Except SimulcastFault (List VideoStream) :=
  match experimentalMinBitrate, layers with
  | none, _ => .ok layers
  | some _, [] => .error .layerOutOfRange
  | some minBitrate, layer :: layers => .ok ({ layer with minBitrateBps := minBitrate } :: layers)

section Factory

variable (api : SimulcastApi) (factory : StreamFactoryConfig) (config : VideoEncoderConfig)

/-- The layers of `GetSimulcastConfig` for the factory. -/
def simulcastLayersFor (width height : ℤ) : Except SimulcastFault (List VideoStream) :=
  let temporalLayersSupported :=
    equalsIgnoreCase factory.codecName kVp8CodecName ||
      equalsIgnoreCase factory.codecName kH264CodecName
  (findRequiredActiveLayers config).bind fun requiredActiveLayers =>
    api.getSimulcastConfig requiredActiveLayers config.numberOfStreams width height
      config.bitratePriority factory.maxQp (factory.isScreencast && factory.conferenceMode)
      temporalLayersSupported

/-- What the loop over the layers is given. -/
def overrideArguments (width height : ℤ) : OverrideArguments :=
  let hasScaleResolutionDownBy := config.simulcastLayers.any (·.scaleResolutionDownBy ≠ -1)
  let defaultScaleFactorsUsed := !hasScaleResolutionDownBy || isScaleFactorsPowerOfTwo config
  let normalizes := defaultScaleFactorsUsed || api.getBase2Exponent.isSome
  { temporalLayersSupported := isTemporalLayersSupported factory.codecName
    hasScaleResolutionDownBy := hasScaleResolutionDownBy
    normalizedWidth :=
      if normalizes then api.normalizeSimulcastSize width config.numberOfStreams else width
    normalizedHeight :=
      if normalizes then api.normalizeSimulcastSize height config.numberOfStreams else height }

/-- The last layer is boosted when no max bitrate is configured for it. -/
def boostLastLayer (layers : List VideoStream) : List VideoStream :=
  let isHighestLayerMaxBitrateConfigured :=
    (config.simulcastLayers[layers.length - 1]?).any (·.maxBitrateBps > 0)
  if !factory.isScreencast && !isHighestLayerMaxBitrateConfigured && config.maxBitrateBps > 0 then
    boostMaxSimulcastLayer config.maxBitrateBps layers
  else layers

def createSimulcastOrConferenceModeScreenshareStreams (width height : ℤ)
    (experimentalMinBitrate : Option ℤ) : Except SimulcastFault (List VideoStream) :=
  (simulcastLayersFor api factory config width height).bind fun layers =>
  (withExperimentalMinBitrate experimentalMinBitrate layers).bind fun layers =>
  (overrideLayers api (overrideArguments api factory config width height) layers
    config.simulcastLayers).bind fun layers =>
  lowerFirstActive (boostLastLayer factory config layers)

/-! ## Without simulcast -/

def getMaxDefaultVideoBitrateKbps (width height : ℤ) (isScreenshare : Bool) :
    Except SimulcastFault ℤ :=
  (pixelCount width height).map fun pixels =>
    let maxBitrate :=
      if pixels ≤ 320 * 240 then 600
      else if pixels ≤ 640 * 480 then 1700
      else if pixels ≤ 960 * 540 then 2000
      else 2500
    if isScreenshare then max maxBitrate 1200 else maxBitrate

/-- `vp9TemporalLayers` comes from the encoder specific settings, which VP9 has.  A quotient that
is converted to a `size_t` loses its fraction as one that is converted to an `int`. -/
def createDefaultVideoStreams (width height : ℤ) (experimentalMinBitrate : Option ℤ)
    (vp9TemporalLayers : ℤ) : Except SimulcastFault (List VideoStream) :=
  (if config.maxBitrateBps > 0 then .ok config.maxBitrateBps
    else (getMaxDefaultVideoBitrateKbps width height factory.isScreencast).map (· * 1000)).bind
    fun defaultMaxBitrate =>
  match config.simulcastLayers with
  | [] => .error .configOutOfRange
  | first :: _ =>
      let minBitrate :=
        if first.minBitrateBps > 0 then first.minBitrateBps
        else experimentalMinBitrate.getD kDefaultMinVideoBitrateBps
      let maxBitrate :=
        if first.minBitrateBps > 0 ∧ config.maxBitrateBps ≤ 0 then
          max minBitrate defaultMaxBitrate
        else defaultMaxBitrate
      let scaled (size : ℤ) :=
        if first.scaleResolutionDownBy > 1 then
          max (api.dividedToInt size first.scaleResolutionDownBy) kMinLayerSize
        else size
      .ok
        [{ width := scaled width
           height := scaled height
           maxFramerate :=
             if first.maxFramerate > 0 then first.maxFramerate else kDefaultVideoMaxFramerate
           minBitrateBps := min minBitrate maxBitrate
           targetBitrateBps :=
             if first.targetBitrateBps ≤ 0 then maxBitrate else first.targetBitrateBps
           maxBitrateBps := maxBitrate
           maxQp := factory.maxQp
           bitratePriority := some config.bitratePriority
           numTemporalLayers :=
             if isTemporalLayersSupported factory.codecName && first.numTemporalLayers.isSome then
               first.numTemporalLayers
             else if equalsIgnoreCase factory.codecName kVp9CodecName then some vp9TemporalLayers
             else none
           scalabilityMode := first.scalabilityMode }]

/-- One stream goes without simulcast, except for a screen that is shared in a conference. -/
def createEncoderStreams (width height : ℤ) (experimentalMinBitrate : Option ℤ)
    (vp9TemporalLayers : ℤ) : Except SimulcastFault (List VideoStream) :=
  if config.numberOfStreams > 1 ||
      ((equalsIgnoreCase factory.codecName kVp8CodecName ||
        equalsIgnoreCase factory.codecName kH264CodecName) &&
        factory.isScreencast && factory.conferenceMode) then
    createSimulcastOrConferenceModeScreenshareStreams api factory config width height
      experimentalMinBitrate
  else
    createDefaultVideoStreams api factory config width height experimentalMinBitrate
      vp9TemporalLayers

end Factory

end PeerConnection.Engine
