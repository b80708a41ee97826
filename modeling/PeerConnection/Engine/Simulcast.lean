import PeerConnection.Core.CheckedInts
import PeerConnection.Core.Loops
import PeerConnection.Engine.RtpSendParameters

/-!
# Simulcast layers

`GetSimulcastConfig` chooses how many layers a size is sent with, and the size and the bitrates of
each.  The number comes from a table of resolutions, the bitrates are interpolated between its
rows, and the layers are filled from the highest to the lowest.
-/

namespace PeerConnection.Engine

open PeerConnection.Text
open PeerConnection.Runs
open PeerConnection.CheckedInts

/-- What ends a call before it returns.  From a `pixelOverflow` on, where the product of
width and height is no `int`, nothing is defined. -/
inductive SimulcastFault where
  | pixelOverflow
  | checkFailed
  | notReached
  | lengthError
  | layerOutOfRange
  | formatOutOfRange
  | configOutOfRange
  | notEnded
  deriving DecidableEq, Repr

/-- The field trials and the parts outside.  Floating-point numbers are rational numbers, and what
rounds is a parameter: the quotient of two of them, a bitrate times one (`DataRate`), and the
conversion to an `int` of a number times or divided by one. -/
structure SimulcastApi where
  lookup : Bytes → Bytes
  /-- `sscanf` with `%d`. -/
  scanInt : Bytes → Option ℤ
  /-- `max_ratio` of a field trial. -/
  parseMaxRatio : Bytes → Option ℚ
  /-- `NormalizeSimulcastSizeExperiment::GetBase2Exponent`. -/
  getBase2Exponent : Option ℕ
  vp8BaseHeavyTl3RateAllocation : Bool
  /-- `SimulcastRateAllocator::GetTemporalRateAllocation`. -/
  getTemporalRateAllocation : ℤ → ℤ → Bool → ℚ
  kMaxSimulcastStreams : ℕ
  kMaxSimulcastStreams_lt : kMaxSimulcastStreams < 2 ^ 31
  quotient : ℚ → ℚ → ℚ
  times : ℤ → ℚ → ℤ
  timesToInt : ℤ → ℚ → ℤ
  dividedToInt : ℤ → ℚ → ℤ

/-- `VideoStream`.  `simulcast_layers` has the same type, and what is read of it there is a
`SimulcastLayer`. -/
structure VideoStream extends SimulcastLayer where
  width : ℤ := 0
  height : ℤ := 0
  maxQp : ℤ := -1
  bitratePriority : Option ℚ := none
  deriving DecidableEq

/-- The conversion of a `size_t` to an `int` of 32 bits. -/
def toInt (size : ℕ) : ℤ :=
  let low : ℕ := size % 2 ^ 32
  if low < 2 ^ 31 then low else (low : ℤ) - 2 ^ 32

/-! ## The table of resolutions -/

/-- Bitrates are in bits per second. -/
structure SimulcastFormat where
  width : ℤ
  height : ℤ
  maxLayers : ℕ
  maxBitrate : ℤ
  targetBitrate : ℤ
  minBitrate : ℤ
  deriving DecidableEq, Repr

def kSimulcastFormats : List SimulcastFormat :=
  [⟨1920, 1080, 3, 5000000, 4000000, 800000⟩,
    ⟨1280, 720, 3, 2500000, 2500000, 600000⟩,
    ⟨960, 540, 3, 1200000, 1200000, 350000⟩,
    ⟨640, 360, 2, 700000, 500000, 150000⟩,
    ⟨480, 270, 2, 450000, 350000, 150000⟩,
    ⟨320, 180, 1, 200000, 150000, 30000⟩,
    ⟨0, 0, 1, 0, 0, 30000⟩]

/-- Without the interpolation at low resolutions the last row has the bitrates of the one before
it. -/
def getSimulcastFormats (enableLowresBitrateInterpolation : Bool) : List SimulcastFormat :=
  if enableLowresBitrateInterpolation then kSimulcastFormats
  else
    match kSimulcastFormats.reverse with
    | format0x0 :: formatPrev :: formats =>
        ({ format0x0 with
            maxBitrate := formatPrev.maxBitrate
            targetBitrate := formatPrev.targetBitrate
            minBitrate := formatPrev.minBitrate } :: formatPrev :: formats).reverse
    | _ => kSimulcastFormats

/-- `width * height` of two `int`s. -/
def pixelCount (width height : ℤ) : Except SimulcastFault ℤ :=
  match checked 32 (width * height) with
  | some pixels => .ok pixels
  | none => .error .pixelOverflow

def findSimulcastFormatIndex (width height : ℤ) (enableLowresBitrateInterpolation : Bool) :
    Except SimulcastFault ℕ :=
  (pixelCount width height).bind fun pixels =>
    match (getSimulcastFormats enableLowresBitrateInterpolation).findIdx? fun format =>
        pixels ≥ format.width * format.height with
    | some index => .ok index
    | none => .error .notReached

def kDefaultMaxRoundupRate : ℚ := 1 / 10

namespace SimulcastApi

variable (api : SimulcastApi)

def enableLowresBitrateInterpolation : Bool :=
  (ascii "Enabled").isPrefixOf (api.lookup (ascii "WebRTC-LowresSimulcastBitrateInterpolation"))

/-- `Interpolate`. -/
def interpolate (a b : ℤ) (rate : ℚ) : ℤ := api.times a (1 - rate) + api.times b rate

/-- The format between two rows of the table. -/
def formatBetween (width height : ℤ) (maxRoundupRate : Option ℚ) (up down : SimulcastFormat) :
    SimulcastFormat :=
  let totalPixelsUp := up.width * up.height
  let totalPixelsDown := down.width * down.height
  let rate := api.quotient (totalPixelsUp - width * height : ℤ)
    (totalPixelsUp - totalPixelsDown : ℤ)
  { width := width
    height := height
    maxLayers :=
      if rate < maxRoundupRate.getD kDefaultMaxRoundupRate then up.maxLayers else down.maxLayers
    maxBitrate := api.interpolate up.maxBitrate down.maxBitrate rate
    targetBitrate := api.interpolate up.targetBitrate down.targetBitrate rate
    minBitrate := api.interpolate up.minBitrate down.minBitrate rate }

def interpolateSimulcastFormat (width height : ℤ) (maxRoundupRate : Option ℚ)
    (enableLowresBitrateInterpolation : Bool) : Except SimulcastFault SimulcastFormat :=
  let formats := getSimulcastFormats enableLowresBitrateInterpolation
  (findSimulcastFormatIndex width height enableLowresBitrateInterpolation).bind fun index =>
    match index with
    | 0 =>
        match formats[0]? with
        | some format => .ok format
        | none => .error .formatOutOfRange
    | above + 1 =>
        match formats[above]?, formats[above + 1]? with
        | some up, some down => .ok (api.formatBetween width height maxRoundupRate up down)
        | _, _ => .error .formatOutOfRange

def findSimulcastMaxBitrate (width height : ℤ) (enableLowresBitrateInterpolation : Bool) :
    Except SimulcastFault ℤ :=
  (api.interpolateSimulcastFormat width height none enableLowresBitrateInterpolation).map
    (·.maxBitrate)

def findSimulcastTargetBitrate (width height : ℤ) (enableLowresBitrateInterpolation : Bool) :
    Except SimulcastFault ℤ :=
  (api.interpolateSimulcastFormat width height none enableLowresBitrateInterpolation).map
    (·.targetBitrate)

def findSimulcastMinBitrate (width height : ℤ) (enableLowresBitrateInterpolation : Bool) :
    Except SimulcastFault ℤ :=
  (api.interpolateSimulcastFormat width height none enableLowresBitrateInterpolation).map
    (·.minBitrate)

/-! ## Number of layers -/

def defaultNumberOfTemporalLayers (simulcastId : ℤ) (screenshare : Bool) :
    Except SimulcastFault ℤ :=
  if simulcastId < 0 ∨ api.kMaxSimulcastStreams ≤ simulcastId then .error .checkFailed
  else
    let defaultNumTemporalLayers := if screenshare then 2 else 3
    let groupName :=
      if screenshare then api.lookup (ascii "WebRTC-VP8ScreenshareTemporalLayers")
      else api.lookup (ascii "WebRTC-VP8ConferenceTemporalLayers")
    .ok <|
      if groupName.isEmpty then defaultNumTemporalLayers
      else
        match api.scanInt groupName with
        | some numTemporalLayers =>
            if 0 < numTemporalLayers ∧ numTemporalLayers ≤ kMaxTemporalStreams then
              numTemporalLayers
            else defaultNumTemporalLayers
        | none => defaultNumTemporalLayers

/-- Both sides are made divisible by a power of two. -/
def normalizeSimulcastSize (size : ℤ) (simulcastLayers : ℕ) : ℤ :=
  let base2Exponent :=
    match api.getBase2Exponent with
    | some exponent => if size > 2 ^ exponent then (exponent : ℤ) else toInt simulcastLayers - 1
    | none => toInt simulcastLayers - 1
  (size.shiftRight base2Exponent.toNat).shiftLeft base2Exponent.toNat

def limitSimulcastLayerCount (width height : ℤ) (needLayers layerCount : ℕ) :
    Except SimulcastFault ℕ :=
  if (ascii "Disabled").isPrefixOf (api.lookup (ascii "WebRTC-LegacySimulcastLayerLimit")) then
    .ok layerCount
  else
    let maxRatio := api.parseMaxRatio (api.lookup (ascii "WebRTC-SimulcastLayerLimitRoundUp"))
    (api.interpolateSimulcastFormat width height maxRatio
        api.enableLowresBitrateInterpolation).map fun format =>
      let adaptiveLayerCount := max needLayers format.maxLayers
      if layerCount > adaptiveLayerCount then adaptiveLayerCount else layerCount

/-! ## Layers of a camera -/

/-- The factor for the bitrates of the lowest layer. -/
def rateFactor (numTemporalLayers : ℤ) (baseHeavyTl3RateAlloc : Bool) : ℚ :=
  if numTemporalLayers = 3 then
    if baseHeavyTl3RateAlloc then api.quotient (4 / 10) (6 / 10) else 1
  else
    api.quotient (api.getTemporalRateAllocation 3 0 false)
      (api.getTemporalRateAllocation numTemporalLayers 0 false)

end SimulcastApi

def kDefaultVideoMaxFramerate : ℚ := 60

/-- The arguments that both kinds of layers take over. -/
structure LayerArguments where
  bitratePriority : ℚ
  maxQp : ℤ
  temporalLayersSupported : Bool
  baseHeavyTl3RateAlloc : Bool

/-- The variables of the loop over the layers.  `written` is not in the source: it lists the
indices in the order in which they are written. -/
structure LayerLoop where
  s : ℕ
  width : ℤ
  height : ℤ
  layers : List VideoStream
  written : List ℕ := []

/-- `--s` of a `size_t`. -/
def decrement (s : ℕ) : ℕ := (s + 2 ^ 64 - 1) % 2 ^ 64

namespace SimulcastApi

variable (api : SimulcastApi) (arguments : LayerArguments)

/-- What the loop writes to layer `s`. -/
def fillLayer (s : ℕ) (width height : ℤ) (layer : VideoStream) :
    Except SimulcastFault VideoStream :=
  let lowres := api.enableLowresBitrateInterpolation
  (if arguments.temporalLayersSupported then api.defaultNumberOfTemporalLayers (toInt s) false
    else .ok 1).bind fun configuredTemporalLayers =>
  (api.findSimulcastMaxBitrate width height lowres).bind fun maxBitrate =>
  (api.findSimulcastTargetBitrate width height lowres).bind fun targetBitrate =>
  (api.defaultNumberOfTemporalLayers (toInt s) false).bind fun numTemporalLayers =>
  (api.findSimulcastMinBitrate width height lowres).map fun minBitrate =>
    let factor := api.rateFactor numTemporalLayers arguments.baseHeavyTl3RateAlloc
    { layer with
      width := width
      height := height
      maxQp := arguments.maxQp
      numTemporalLayers := some configuredTemporalLayers
      minBitrateBps := minBitrate
      targetBitrateBps :=
        max minBitrate (if s = 0 then api.timesToInt targetBitrate factor else targetBitrate)
      maxBitrateBps :=
        max minBitrate (if s = 0 then api.timesToInt maxBitrate factor else maxBitrate)
      maxFramerate := kDefaultVideoMaxFramerate }

/-- The body of the loop up to the test at its end. -/
def layerBody (loop : LayerLoop) : Except SimulcastFault LayerLoop :=
  match loop.layers[loop.s]? with
  | none => .error .layerOutOfRange
  | some layer =>
      (api.fillLayer arguments loop.s loop.width loop.height layer).map fun filled =>
        { s := loop.s
          width := loop.width.tdiv 2
          height := loop.height.tdiv 2
          layers := loop.layers.set loop.s filled
          written := loop.written ++ [loop.s] }

/-- The loop, for as many iterations as there is fuel. -/
def layerLoop : ℕ → LayerLoop → Except SimulcastFault LayerLoop :=
  loopUntil (api.layerBody arguments) (·.s = 0) (fun loop => { loop with s := decrement loop.s })
    .notEnded

/-- The variables before the loop. -/
def layerLoopStart (layerCount : ℕ) (width height : ℤ) : LayerLoop where
  s := decrement layerCount
  width := api.normalizeSimulcastSize width layerCount
  height := api.normalizeSimulcastSize height layerCount
  layers := List.replicate layerCount {}

/-- The bitrate priority is that of the first layer. -/
def withBitratePriority (bitratePriority : ℚ) :
    List VideoStream → Except SimulcastFault (List VideoStream)
  | [] => .error .layerOutOfRange
  | layer :: layers => .ok ({ layer with bitratePriority := some bitratePriority } :: layers)

def getNormalSimulcastLayers (layerCount : ℕ) (width height : ℤ) :
    Except SimulcastFault (List VideoStream) :=
  (api.layerLoop arguments (layerCount + 1) (api.layerLoopStart layerCount width height)).bind
    fun loop => withBitratePriority arguments.bitratePriority loop.layers

end SimulcastApi

/-! ## Layers of a screen -/

def kMaxScreenshareSimulcastLayers : ℕ := 2
def kDefaultMinVideoBitrateBps : ℤ := 30000
def kScreenshareDefaultTl0Bitrate : ℤ := 200000
def kScreenshareDefaultTl1Bitrate : ℤ := 1000000
def kScreenshareHighStreamMinBitrate : ℤ := 600000
def kScreenshareHighStreamMaxBitrate : ℤ := 1250000

namespace SimulcastApi

variable (api : SimulcastApi) (arguments : LayerArguments)

/-- The lower layer. -/
def lowerScreenshareLayer (width height : ℤ) : VideoStream where
  width := width
  height := height
  maxQp := arguments.maxQp
  maxFramerate := 5
  minBitrateBps := kDefaultMinVideoBitrateBps
  targetBitrateBps := kScreenshareDefaultTl0Bitrate
  maxBitrateBps := kScreenshareDefaultTl1Bitrate
  numTemporalLayers := some (if arguments.temporalLayersSupported then 2 else 1)

/-- The upper layer, given the default number of its temporal layers. -/
def upperScreenshareLayer (width height : ℤ) (numTemporalLayers : ℤ) : VideoStream :=
  let usingBoostedBitrate := arguments.temporalLayersSupported &&
    (numTemporalLayers ≠ 3 || arguments.baseHeavyTl3RateAlloc)
  let maxBitrateBps :=
    if !arguments.temporalLayersSupported then
      api.timesToInt kScreenshareHighStreamMaxBitrate
        (api.getTemporalRateAllocation numTemporalLayers 0 arguments.baseHeavyTl3RateAlloc)
    else if usingBoostedBitrate then kScreenshareHighStreamMaxBitrate
    else 2 * (kScreenshareDefaultTl0Bitrate * 10).tdiv 4
  { width := width
    height := height
    maxQp := arguments.maxQp
    maxFramerate := kDefaultVideoMaxFramerate
    numTemporalLayers :=
      some (if arguments.temporalLayersSupported then numTemporalLayers else 1)
    minBitrateBps :=
      if usingBoostedBitrate then kScreenshareHighStreamMinBitrate
      else kScreenshareDefaultTl0Bitrate * 2
    targetBitrateBps := maxBitrateBps
    maxBitrateBps := maxBitrateBps }

/-- The number of layers is compared as an `int`, and a negative one is no length of a vector. -/
def getScreenshareLayers (maxLayers : ℕ) (width height : ℤ) :
    Except SimulcastFault (List VideoStream) :=
  let numSimulcastLayers := min (toInt maxLayers) kMaxScreenshareSimulcastLayers
  if numSimulcastLayers < 0 then .error .lengthError
  else if numSimulcastLayers = 0 then .error .layerOutOfRange
  else
    let lower := lowerScreenshareLayer arguments width height
    (if numSimulcastLayers = kMaxScreenshareSimulcastLayers then
      (api.defaultNumberOfTemporalLayers 1 true).map fun numTemporalLayers =>
        [lower, api.upperScreenshareLayer arguments width height numTemporalLayers]
    else .ok [lower]).bind (withBitratePriority arguments.bitratePriority)

/-! ## Both kinds -/

def getSimulcastConfig (minLayers maxLayers : ℕ) (width height : ℤ) (bitratePriority : ℚ)
    (maxQp : ℤ) (isScreenshareWithConferenceMode temporalLayersSupported : Bool) :
    Except SimulcastFault (List VideoStream) :=
  let arguments : LayerArguments :=
    { bitratePriority := bitratePriority
      maxQp := maxQp
      temporalLayersSupported := temporalLayersSupported
      baseHeavyTl3RateAlloc := api.vp8BaseHeavyTl3RateAllocation }
  if isScreenshareWithConferenceMode then
    api.getScreenshareLayers arguments maxLayers width height
  else
    (api.limitSimulcastLayerCount width height minLayers maxLayers).bind fun maxLayers =>
      api.getNormalSimulcastLayers arguments maxLayers width height

end SimulcastApi

/-! ## Total bitrate -/

def getTotalMaxBitrate (layers : List VideoStream) : ℤ :=
  match layers.getLast? with
  | none => 0
  | some last => (layers.dropLast.map (·.targetBitrateBps)).sum + last.maxBitrateBps

/-- What is left of the bitrate goes to the last layer. -/
def boostMaxSimulcastLayer (maxBitrate : ℤ) (layers : List VideoStream) : List VideoStream :=
  match layers.getLast? with
  | none => layers
  | some last =>
      let totalBitrate := getTotalMaxBitrate layers
      if totalBitrate < maxBitrate then
        layers.dropLast ++
          [{ last with maxBitrateBps := last.maxBitrateBps + (maxBitrate - totalBitrate) }]
      else layers

/-- No field trial is set, and the outside parts behave as they are documented. -/
def webrtcSimulcastApi : SimulcastApi where
  lookup _ := []
  scanInt _ := none
  parseMaxRatio _ := none
  getBase2Exponent := none
  vp8BaseHeavyTl3RateAllocation := false
  getTemporalRateAllocation numLayers _ baseHeavyTl3RateAlloc :=
    if numLayers = 1 then 1 else if numLayers = 2 then 6 / 10
    else if numLayers = 3 then if baseHeavyTl3RateAlloc then 6 / 10 else 4 / 10
    else 25 / 100
  kMaxSimulcastStreams := 3
  kMaxSimulcastStreams_lt := by norm_num
  quotient a b := a / b
  times bitrate factor := (bitrate * factor + 1 / 2).floor
  timesToInt bitrate factor := (bitrate * factor).floor
  dividedToInt size factor := (size / factor).floor

end PeerConnection.Engine
