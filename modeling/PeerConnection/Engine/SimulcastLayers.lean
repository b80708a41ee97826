import PeerConnection.Engine.EncoderStreams

/-!
# Number and sizes of the simulcast layers

The table of resolutions has a row for every number of pixels, as long as that is an `int`.  The
loop over the layers ends then, writes every layer once, and halves the size from one layer to the
next; the normalisation makes that exact.
-/

namespace PeerConnection.Engine

open PeerConnection.Runs
open PeerConnection.CheckedInts

/-- What too many streams lead to: a check that fails, or no `int` for their number. -/
def TooMany (api : SimulcastApi) (streams : ℕ) (fault : SimulcastFault) : Prop :=
  api.kMaxSimulcastStreams < streams ∧
    (fault = .checkFailed ∨ fault = .lengthError ∨ fault = .layerOutOfRange)

/-- What can end a call early: too many streams, or a number of pixels that is no `int`. -/
def EndsEarly (api : SimulcastApi) (streams : ℕ) (pixels : ℤ) (fault : SimulcastFault) :
    Prop :=
  TooMany api streams fault ∨ (¬ Fits 32 pixels ∧ fault = .pixelOverflow)

theorem TooMany.endsEarly {api : SimulcastApi} {streams : ℕ} (pixels : ℤ)
    (fault : SimulcastFault) (hmany : TooMany api streams fault) :
    EndsEarly api streams pixels fault :=
  Or.inl hmany

/-- Neither more streams nor more pixels are excluded by what ends a call with fewer. -/
theorem EndsEarly.mono {api : SimulcastApi} {streams more : ℕ} {pixels total : ℤ}
    (hstreams : streams ≤ more) (hpixels : 0 ≤ pixels) (htotal : pixels ≤ total)
    (fault : SimulcastFault) (hearly : EndsEarly api streams pixels fault) :
    EndsEarly api more total fault := by
  rcases hearly with ⟨hmax, hfault⟩ | ⟨hlarge, hfault⟩
  · exact Or.inl ⟨hmax.trans_le hstreams, hfault⟩
  · refine Or.inr ⟨fun hfits => hlarge ?_, hfault⟩
    exact (fits_zero 32).between hfits hpixels htotal

theorem EndsEarly.cause {api : SimulcastApi} {streams : ℕ} {pixels : ℤ}
    {fault : SimulcastFault} (hearly : EndsEarly api streams pixels fault) :
    fault = .checkFailed ∨ fault = .lengthError ∨ fault = .layerOutOfRange ∨
      fault = .pixelOverflow := by
  rcases hearly with ⟨-, rfl | rfl | rfl⟩ | ⟨-, rfl⟩ <;> simp

theorem not_endsEarly {api : SimulcastApi} {streams : ℕ} {pixels : ℤ}
    (hmax : streams ≤ api.kMaxSimulcastStreams) (hfits : Fits 32 pixels)
    (fault : SimulcastFault) : ¬ EndsEarly api streams pixels fault := by
  rintro (⟨hmany, -⟩ | ⟨hlarge, -⟩)
  · omega
  · exact hlarge hfits

theorem toInt_eq {size : ℕ} (hsize : size < 2 ^ 31) : toInt size = size := by
  have hlow : size % 2 ^ 32 = size := Nat.mod_eq_of_lt (by omega)
  simp only [toInt, hlow, hsize, if_true]

/-! ## The table of resolutions -/

/-- There is a row for every number of pixels, and every row has a layer. -/
theorem rows_getSimulcastFormats (lowres : Bool) :
    (∃ format ∈ getSimulcastFormats lowres, format.width * format.height = 0) ∧
      ∀ format ∈ getSimulcastFormats lowres, 1 ≤ format.maxLayers := by
  cases lowres <;> decide

theorem pixelCount_of_fits {width height : ℤ} (hfits : Fits 32 (width * height)) :
    pixelCount width height = .ok (width * height) := by
  rw [pixelCount, checked, if_pos hfits]

theorem pixelCount_overflow {width height : ℤ} (hlarge : ¬ Fits 32 (width * height)) :
    pixelCount width height = .error .pixelOverflow := by
  rw [pixelCount, checked, if_neg hlarge]

/-- The index is that of the first row with no more pixels, where these can be counted. -/
theorem findSimulcastFormatIndex_eq_ok_iff {width height : ℤ} {lowres : Bool} {index : ℕ} :
    findSimulcastFormatIndex width height lowres = .ok index ↔ Fits 32 (width * height) ∧
      ((getSimulcastFormats lowres).findIdx? fun format =>
        decide (width * height ≥ format.width * format.height)) = some index := by
  rw [findSimulcastFormatIndex]
  by_cases hfits : Fits 32 (width * height)
  · rw [pixelCount_of_fits hfits, and_iff_right hfits, Except.bind]
    split <;> simp [*]
  · rw [pixelCount_overflow hfits]
    exact iff_of_false (by simp [Except.bind]) fun hindex => hfits hindex.1

theorem exists_findSimulcastFormatIndex {width height : ℤ} (hpixels : 0 ≤ width * height)
    (hfits : Fits 32 (width * height)) (lowres : Bool) :
    ∃ index, findSimulcastFormatIndex width height lowres = .ok index ∧
      index < (getSimulcastFormats lowres).length := by
  obtain ⟨last, hlast, hzero⟩ := (rows_getSimulcastFormats lowres).1
  have hreached : ((getSimulcastFormats lowres).findIdx? fun format =>
      decide (width * height ≥ format.width * format.height)).isSome = true := by
    rw [List.findIdx?_isSome, List.any_eq_true]
    exact ⟨last, hlast, by simpa [hzero] using hpixels⟩
  obtain ⟨index, hindex⟩ := Option.isSome_iff_exists.mp hreached
  refine ⟨index, findSimulcastFormatIndex_eq_ok_iff.mpr ⟨hfits, hindex⟩, ?_⟩
  exact (List.findIdx?_eq_some_iff_getElem.mp hindex).1

namespace SimulcastApi

variable {api : SimulcastApi} {arguments : LayerArguments} {width height : ℤ}

theorem exists_interpolateSimulcastFormat (hpixels : 0 ≤ width * height)
    (hfits : Fits 32 (width * height)) (maxRoundupRate : Option ℚ) (lowres : Bool) :
    ∃ format, api.interpolateSimulcastFormat width height maxRoundupRate lowres = .ok format ∧
      1 ≤ format.maxLayers := by
  obtain ⟨index, hfind, hindex⟩ := exists_findSimulcastFormatIndex hpixels hfits lowres
  have hrows := (rows_getSimulcastFormats lowres).2
  rw [interpolateSimulcastFormat, hfind]
  cases index with
  | zero =>
      refine ⟨(getSimulcastFormats lowres)[0], ?_, hrows _ (List.getElem_mem hindex)⟩
      simp [Except.bind, List.getElem?_eq_getElem hindex]
  | succ above =>
      have habove : above < (getSimulcastFormats lowres).length := by omega
      refine ⟨api.formatBetween width height maxRoundupRate (getSimulcastFormats lowres)[above]
        (getSimulcastFormats lowres)[above + 1], ?_, ?_⟩
      · simp [Except.bind, List.getElem?_eq_getElem hindex, List.getElem?_eq_getElem habove]
      · simp only [formatBetween]
        split_ifs
        · exact hrows _ (List.getElem_mem habove)
        · exact hrows _ (List.getElem_mem hindex)

theorem interpolateSimulcastFormat_overflow (hlarge : ¬ Fits 32 (width * height))
    (maxRoundupRate : Option ℚ) (lowres : Bool) :
    api.interpolateSimulcastFormat width height maxRoundupRate lowres =
      .error .pixelOverflow := by
  rw [interpolateSimulcastFormat, findSimulcastFormatIndex, pixelCount_overflow hlarge]
  rfl

/-! ## One layer -/

theorem ends_defaultNumberOfTemporalLayers {s streams : ℕ} (hs : s < streams)
    (screenshare : Bool) :
    Ends (fun _ => True) (TooMany api streams)
      (api.defaultNumberOfTemporalLayers (toInt s) screenshare) := by
  rw [defaultNumberOfTemporalLayers]
  by_cases hrange : toInt s < 0 ∨ api.kMaxSimulcastStreams ≤ toInt s
  · rw [if_pos hrange]
    have hmax := api.kMaxSimulcastStreams_lt
    have hint : s < 2 ^ 31 → toInt s = s := toInt_eq
    have hmany : api.kMaxSimulcastStreams < streams := by omega
    exact And.intro hmany (Or.inl rfl)
  · rw [if_neg hrange]
    trivial

/-- The layer is given the size of this iteration. -/
theorem ends_fillLayer {s streams : ℕ} (hs : s < streams) (hpixels : 0 ≤ width * height)
    (layer : VideoStream) :
    Ends (fun filled => filled.width = width ∧ filled.height = height)
      (EndsEarly api streams (width * height))
      (api.fillLayer arguments s width height layer) := by
  have htemporal := (@ends_defaultNumberOfTemporalLayers api s streams hs false).tolerate
    (TooMany.endsEarly (width * height))
  have hconfigured : Ends (fun _ : ℤ => True) (EndsEarly api streams (width * height))
      (if arguments.temporalLayersSupported then
        api.defaultNumberOfTemporalLayers (toInt s) false else .ok 1) := by
    split_ifs
    · exact htemporal
    · trivial
  rw [fillLayer, findSimulcastMaxBitrate, findSimulcastTargetBitrate, findSimulcastMinBitrate]
  by_cases hfits : Fits 32 (width * height)
  · obtain ⟨format, hformat, -⟩ := @exists_interpolateSimulcastFormat api width height hpixels
      hfits none api.enableLowresBitrateInterpolation
    rw [hformat]
    refine hconfigured.bind fun configured _ => ?_
    exact htemporal.bind fun temporal _ => And.intro rfl rfl
  · rw [interpolateSimulcastFormat_overflow hfits]
    exact hconfigured.bind fun configured _ => Or.inr ⟨hfits, rfl⟩

/-- A layer that is filled has a number of pixels. -/
theorem fits_of_fillLayer {s : ℕ} {layer filled : VideoStream}
    (hfill : api.fillLayer arguments s width height layer = .ok filled) :
    Fits 32 (width * height) := by
  by_contra hlarge
  rw [fillLayer, findSimulcastMaxBitrate, interpolateSimulcastFormat_overflow hlarge] at hfill
  obtain ⟨configured, -, hrest⟩ := except_bind_eq_ok_iff.mp hfill
  exact absurd hrest (by simp [Except.bind, Except.map])

/-- What an iteration does: it writes the layer and halves the size. -/
structure WritesLayer (loop next : LayerLoop) : Prop where
  s : next.s = loop.s
  width : next.width = loop.width.tdiv 2
  height : next.height = loop.height.tdiv 2
  layers : ∃ filled : VideoStream, filled.width = loop.width ∧ filled.height = loop.height ∧
    next.layers = loop.layers.set loop.s filled
  written : next.written = loop.written ++ [loop.s]

theorem ends_layerBody {loop : LayerLoop} {streams : ℕ} (hstreams : loop.layers.length = streams)
    (hs : loop.s < streams) (hpixels : 0 ≤ loop.width * loop.height) :
    Ends (WritesLayer loop) (EndsEarly api streams (loop.width * loop.height))
      (api.layerBody arguments loop) := by
  have hlayer := List.getElem?_eq_getElem (hstreams ▸ hs)
  rw [layerBody, hlayer]
  refine (ends_fillLayer hs hpixels _).map fun filled hsize => ?_
  exact ⟨rfl, rfl, rfl, ⟨filled, hsize.1, hsize.2, rfl⟩, rfl⟩

/-! ## The loop -/

/-- The layers from an index on have their sizes: each has half the size of the next one, rounded
down, and layer `top` has this size. -/
def Sized (top : ℕ) (width height : ℤ) (first : ℕ) (layers : List VideoStream) : Prop :=
  ∀ index layer, first ≤ index → index ≤ top → layers[index]? = some layer →
    layer.width = width / 2 ^ (top - index) ∧ layer.height = height / 2 ^ (top - index)

/-- The layers from an index on have been written. -/
structure Filled (layerCount top : ℕ) (width height : ℤ) (first : ℕ) (loop : LayerLoop) :
    Prop where
  length : loop.layers.length = layerCount
  sized : Sized top width height first loop.layers
  written : loop.written = (List.range' first (top + 1 - first)).reverse

/-- An iteration begins. -/
structure AtLayer (layerCount top : ℕ) (width height : ℤ) (loop : LayerLoop) : Prop where
  filled : Filled layerCount top width height (loop.s + 1) loop
  bound : loop.s ≤ top
  width : loop.width = width / 2 ^ (top - loop.s)
  height : loop.height = height / 2 ^ (top - loop.s)

theorem tdiv_two_of_halved {size rest : ℤ} {steps : ℕ} (hsize : 0 ≤ size)
    (hrest : rest = size / 2 ^ steps) : rest.tdiv 2 = size / 2 ^ (steps + 1) := by
  have hpow : (0 : ℤ) ≤ 2 ^ steps := by positivity
  rw [hrest, Int.tdiv_eq_ediv_of_nonneg (Int.ediv_nonneg hsize hpow), pow_succ,
    Int.ediv_ediv_of_nonneg hpow]

theorem decrement_of_pos {s : ℕ} (hpos : s ≠ 0) (hbound : s < 2 ^ 64) : decrement s = s - 1 := by
  have hsum : s + 2 ^ 64 - 1 = s - 1 + 2 ^ 64 := by omega
  rw [decrement, hsum, Nat.add_mod_right, Nat.mod_eq_of_lt (by omega)]

variable {layerCount top : ℕ}

theorem filled_of_writesLayer {loop next : LayerLoop}
    (hat : AtLayer layerCount top width height loop) (hwrites : WritesLayer loop next) :
    Filled layerCount top width height next.s next := by
  obtain ⟨filled, hwidth, hheight, hlayers⟩ := hwrites.layers
  have hlength := hat.filled.length
  have hbound := hat.bound
  refine ⟨by rw [hlayers, List.length_set, hlength], fun index layer hfirst hlast hlayer => ?_, ?_⟩
  · rw [hwrites.s] at hfirst
    rw [hlayers, List.getElem?_set] at hlayer
    split_ifs at hlayer with hindex hin
    · obtain rfl := Option.some.inj hlayer
      rw [hwidth, hheight, hat.width, hat.height, ← hindex]
      exact ⟨rfl, rfl⟩
    · exact hat.filled.sized index layer (by omega) hlast hlayer
  · have hcount : top + 1 - loop.s = top + 1 - (loop.s + 1) + 1 := by omega
    rw [hwrites.written, hat.filled.written, hwrites.s, hcount, List.range'_succ,
      List.reverse_cons]

theorem atLayer_decrement {loop next : LayerLoop}
    (hat : AtLayer layerCount top width height loop) (hwidth : 0 ≤ width) (hheight : 0 ≤ height)
    (hsize : top < 2 ^ 64) (hwrites : WritesLayer loop next) (hmore : next.s ≠ 0) :
    AtLayer layerCount top width height { next with s := decrement next.s } := by
  have hbound := hat.bound
  have hs := hwrites.s
  have hdecrement : decrement next.s = next.s - 1 := decrement_of_pos hmore (by omega)
  have hfilled := filled_of_writesLayer hat hwrites
  have hback : next.s - 1 + 1 = next.s := by omega
  have hsteps : top - (next.s - 1) = top - loop.s + 1 := by omega
  refine ⟨?_, ?_, ?_, ?_⟩
  · rw [hdecrement, hback]
    exact ⟨hfilled.length, hfilled.sized, hfilled.written⟩
  · dsimp only
    omega
  · dsimp only
    rw [hdecrement, hsteps, hwrites.width]
    exact tdiv_two_of_halved hwidth hat.width
  · dsimp only
    rw [hdecrement, hsteps, hwrites.height]
    exact tdiv_two_of_halved hheight hat.height

/-- Halving a size does not make it larger. -/
theorem halved_pixels_le (hwidth : 0 ≤ width) (hheight : 0 ≤ height) (steps : ℕ) :
    0 ≤ width / 2 ^ steps * (height / 2 ^ steps) ∧
      width / 2 ^ steps * (height / 2 ^ steps) ≤ width * height := by
  have hhalved : 0 ≤ height / 2 ^ steps := by positivity
  refine ⟨by positivity, ?_⟩
  exact mul_le_mul (Int.ediv_le_self _ hwidth) (Int.ediv_le_self _ hheight) hhalved hwidth

/-- The loop ends when every layer has been written, or with a fault that too many streams or
too many pixels cause. -/
theorem ends_layerLoop (hwidth : 0 ≤ width) (hheight : 0 ≤ height) (hsize : top < 2 ^ 64)
    (htop : top < layerCount) {fuel : ℕ} {loop : LayerLoop}
    (hat : AtLayer layerCount top width height loop) (hfuel : loop.s < fuel) :
    Ends (fun final => Filled layerCount top width height 0 final)
      (EndsEarly api layerCount (width * height)) (api.layerLoop arguments fuel loop) := by
  have hends := @ends_loopUntil _ _ (api.layerBody arguments)
    (fun next : LayerLoop => decide (next.s = 0))
    (fun next => { next with s := decrement next.s }) SimulcastFault.notEnded
    (AtLayer layerCount top width height)
    (fun next => Filled layerCount top width height next.s next)
    (EndsEarly api layerCount (width * height)) LayerLoop.s ?_ fuel loop hat hfuel
  · refine Ends.imp hends fun final hfinal => ?_
    have hs : final.s = 0 := of_decide_eq_true hfinal.2
    rw [← hs]
    exact hfinal.1
  · intro loop hat
    have hbound := hat.bound
    obtain ⟨hpixels, hless⟩ := halved_pixels_le hwidth hheight (top - loop.s)
    rw [← hat.width, ← hat.height] at hpixels hless
    have hbody := Ends.tolerate (@ends_layerBody api arguments loop layerCount
      hat.filled.length (by omega) hpixels) (EndsEarly.mono le_rfl hpixels hless)
    refine Ends.imp hbody fun next hwrites => ?_
    refine ⟨filled_of_writesLayer hat hwrites, fun hmore => ?_⟩
    have hne : next.s ≠ 0 := of_decide_eq_false hmore
    have hs := hwrites.s
    refine ⟨atLayer_decrement hat hwidth hheight hsize hwrites hne, ?_⟩
    dsimp only
    rw [decrement_of_pos hne (by omega)]
    omega

/-- A loop that has ended has counted the pixels of its first layer. -/
theorem fits_of_layerLoop {fuel : ℕ} {loop final : LayerLoop}
    (hloop : api.layerLoop arguments fuel loop = .ok final) :
    Fits 32 (loop.width * loop.height) := by
  cases fuel with
  | zero => exact absurd hloop (by simp [layerLoop, loopUntil])
  | succ fuel =>
      rw [layerLoop, loopUntil] at hloop
      obtain ⟨next, hbody, -⟩ := except_bind_eq_ok_iff.mp hloop
      rw [layerBody] at hbody
      split at hbody
      · exact absurd hbody (by simp)
      · obtain ⟨filled, hfill, -⟩ := except_map_eq_ok_iff.mp hbody
        exact fits_of_fillLayer hfill

theorem shiftLeft_shiftRight (size : ℤ) (exponent : ℕ) :
    (size.shiftRight exponent).shiftLeft exponent = size / 2 ^ exponent * 2 ^ exponent := by
  have hright : size.shiftRight exponent = size / 2 ^ exponent := by
    exact_mod_cast Int.shiftRight_eq_div_pow size exponent
  rw [hright]
  exact Int.shiftLeft_eq _ exponent

theorem normalizeSimulcastSize_nonneg {size : ℤ} (hsize : 0 ≤ size) (simulcastLayers : ℕ) :
    0 ≤ api.normalizeSimulcastSize size simulcastLayers := by
  rw [normalizeSimulcastSize, shiftLeft_shiftRight]
  positivity

theorem normalizeSimulcastSize_le (size : ℤ) (simulcastLayers : ℕ) :
    api.normalizeSimulcastSize size simulcastLayers ≤ size := by
  rw [normalizeSimulcastSize, shiftLeft_shiftRight]
  exact Int.ediv_mul_le _ (by positivity)

/-- The number of pixels of the last of the layers. -/
def normalizedPixels (api : SimulcastApi) (width height : ℤ) (layerCount : ℕ) : ℤ :=
  api.normalizeSimulcastSize width layerCount * api.normalizeSimulcastSize height layerCount

theorem normalizedPixels_le (hwidth : 0 ≤ width) (hheight : 0 ≤ height) (layerCount : ℕ) :
    0 ≤ api.normalizedPixels width height layerCount ∧
      api.normalizedPixels width height layerCount ≤ width * height := by
  have hnormalized := @normalizeSimulcastSize_nonneg api height hheight layerCount
  refine ⟨mul_nonneg (normalizeSimulcastSize_nonneg hwidth layerCount) hnormalized, ?_⟩
  exact mul_le_mul (normalizeSimulcastSize_le width layerCount)
    (normalizeSimulcastSize_le height layerCount) hnormalized hwidth

/-- The first index is one of the layers, and the greatest that a `size_t` can have if there are
more layers than that. -/
theorem decrement_lt (hcount : 1 ≤ layerCount) :
    decrement layerCount < layerCount ∧ decrement layerCount < 2 ^ 64 := by
  have hbound : decrement layerCount < 2 ^ 64 := Nat.mod_lt _ (by norm_num)
  refine ⟨?_, hbound⟩
  by_cases hsmall : layerCount < 2 ^ 64
  · rw [decrement_of_pos (by omega) hsmall]
    omega
  · omega

theorem atLayer_start (layerCount : ℕ) (width height : ℤ) :
    AtLayer layerCount (decrement layerCount) (api.normalizeSimulcastSize width layerCount)
      (api.normalizeSimulcastSize height layerCount)
      (api.layerLoopStart layerCount width height) := by
  refine ⟨⟨by simp [layerLoopStart], fun index layer hfirst hlast => ?_, ?_⟩, le_refl _, ?_, ?_⟩
  · exact absurd hfirst (by simpa [layerLoopStart] using hlast)
  · simp [layerLoopStart]
  · simp [layerLoopStart]
  · simp [layerLoopStart]

/-- Setting the bitrate priority of the first layer leaves number and sizes alone. -/
theorem ends_withBitratePriority {layers : List VideoStream} {Tolerated : SimulcastFault → Prop}
    (hcount : 1 ≤ layers.length) (bitratePriority : ℚ) :
    Ends (fun result => result.length = layers.length ∧ ∀ top first width height,
        Sized top width height first layers → Sized top width height first result)
      Tolerated (withBitratePriority bitratePriority layers) := by
  cases layers with
  | nil => exact absurd hcount (by simp)
  | cons first others =>
      refine ⟨rfl, fun top start width height hsized index layer hstart hlast hlayer => ?_⟩
      cases index with
      | zero =>
          obtain rfl := Option.some.inj hlayer
          exact hsized 0 first hstart hlast rfl
      | succ index => exact hsized (index + 1) layer hstart hlast hlayer

theorem ends_getNormalSimulcastLayers (hcount : 1 ≤ layerCount) (hwidth : 0 ≤ width)
    (hheight : 0 ≤ height) :
    Ends (fun layers => layers.length = layerCount ∧
        Sized (decrement layerCount) (api.normalizeSimulcastSize width layerCount)
          (api.normalizeSimulcastSize height layerCount) 0 layers)
      (EndsEarly api layerCount (api.normalizedPixels width height layerCount))
      (api.getNormalSimulcastLayers arguments layerCount width height) := by
  obtain ⟨htop, hsize⟩ := decrement_lt hcount
  have hloop := @ends_layerLoop api arguments _ _ layerCount _
    (normalizeSimulcastSize_nonneg hwidth layerCount)
    (normalizeSimulcastSize_nonneg hheight layerCount) hsize htop (layerCount + 1) _
    (@atLayer_start api layerCount width height)
    (show decrement layerCount < layerCount + 1 by omega)
  rw [getNormalSimulcastLayers]
  refine Ends.bind hloop fun final hfinal => ?_
  have hlength := hfinal.length
  refine Ends.imp (ends_withBitratePriority (by omega) _) fun result hresult => ?_
  exact ⟨hresult.1.trans hlength, hresult.2 _ 0 _ _ hfinal.sized⟩

/-- The layers are returned exactly when the pixels of the last one can be counted. -/
theorem exists_getNormalSimulcastLayers_iff (hcount : 1 ≤ layerCount)
    (hmax : layerCount ≤ api.kMaxSimulcastStreams) (hwidth : 0 ≤ width) (hheight : 0 ≤ height) :
    (∃ layers, api.getNormalSimulcastLayers arguments layerCount width height = .ok layers) ↔
      Fits 32 (api.normalizedPixels width height layerCount) := by
  constructor
  · rintro ⟨layers, hlayers⟩
    obtain ⟨final, hloop, -⟩ := except_bind_eq_ok_iff.mp hlayers
    exact fits_of_layerLoop hloop
  · intro hfits
    obtain ⟨layers, hlayers, -⟩ := Ends.exists_ok (@ends_getNormalSimulcastLayers api arguments
      width height layerCount hcount hwidth hheight) (not_endsEarly hmax hfits)
    exact ⟨layers, hlayers⟩

/-! ## The pyramid -/

/-- Each layer has half the size of the next one, and the last layer has the largest size below
the given one that can be halved often enough. -/
structure Pyramid (layerCount : ℕ) (width height : ℤ) (layers : List VideoStream) : Prop where
  length : layers.length = layerCount
  sizes : ∃ top, layers[layerCount - 1]? = some top ∧
    IsGreatest {size : ℤ | 2 ^ (layerCount - 1) ∣ size ∧ size ≤ width} top.width ∧
    IsGreatest {size : ℤ | 2 ^ (layerCount - 1) ∣ size ∧ size ≤ height} top.height ∧
    ∀ (s : ℕ) layer, layers[s]? = some layer →
      layer.width * 2 ^ (layerCount - 1 - s) = top.width ∧
        layer.height * 2 ^ (layerCount - 1 - s) = top.height

theorem isGreatest_normalized (size : ℤ) (exponent : ℕ) :
    IsGreatest {multiple : ℤ | 2 ^ exponent ∣ multiple ∧ multiple ≤ size}
      (size / 2 ^ exponent * 2 ^ exponent) := by
  have hpos : (0 : ℤ) < 2 ^ exponent := by positivity
  refine ⟨⟨Int.dvd_mul_left _ _, Int.ediv_mul_le _ hpos.ne'⟩, ?_⟩
  rintro multiple ⟨⟨count, rfl⟩, hle⟩
  rw [Int.mul_comm]
  apply Int.mul_le_mul_of_nonneg_right _ hpos.le
  rw [Int.le_ediv_iff_mul_le hpos, Int.mul_comm]
  exact hle

theorem normalizeSimulcastSize_eq (hexponent : api.getBase2Exponent = none)
    (hcount : 1 ≤ layerCount) (hmax : layerCount ≤ api.kMaxSimulcastStreams) (size : ℤ) :
    api.normalizeSimulcastSize size layerCount =
      size / 2 ^ (layerCount - 1) * 2 ^ (layerCount - 1) := by
  have hlt := api.kMaxSimulcastStreams_lt
  have hcast : (toInt layerCount - 1).toNat = layerCount - 1 := by
    rw [toInt_eq (by omega)]
    omega
  simp only [normalizeSimulcastSize, hexponent, hcast, shiftLeft_shiftRight]

/-- A normalised size is halved without a rest. -/
theorem halved_mul_pow {size : ℤ} {steps exponent : ℕ} (hle : steps ≤ exponent) :
    size / 2 ^ exponent * 2 ^ exponent / 2 ^ steps * 2 ^ steps =
      size / 2 ^ exponent * 2 ^ exponent :=
  Int.ediv_mul_cancel ((pow_dvd_pow 2 hle).trans (Int.dvd_mul_left _ _))

theorem pyramid_of_sized {layers : List VideoStream} (hcount : 1 ≤ layerCount)
    (hmax : layerCount ≤ api.kMaxSimulcastStreams) (hexponent : api.getBase2Exponent = none)
    (hlength : layers.length = layerCount)
    (hsized : Sized (layerCount - 1) (api.normalizeSimulcastSize width layerCount)
      (api.normalizeSimulcastSize height layerCount) 0 layers) :
    Pyramid layerCount width height layers := by
  rw [normalizeSimulcastSize_eq hexponent hcount hmax,
    normalizeSimulcastSize_eq hexponent hcount hmax] at hsized
  have htop := List.getElem?_eq_getElem (show layerCount - 1 < layers.length by omega)
  obtain ⟨hwidth, hheight⟩ := hsized _ _ (Nat.zero_le _) (le_refl _) htop
  rw [Nat.sub_self, pow_zero, Int.ediv_one] at hwidth hheight
  refine ⟨hlength, _, htop, ?_, ?_, fun s layer hlayer => ?_⟩
  · rw [hwidth]
    exact isGreatest_normalized width _
  · rw [hheight]
    exact isGreatest_normalized height _
  · obtain ⟨hs, -⟩ := List.getElem?_eq_some_iff.mp hlayer
    obtain ⟨hlow, hlowHeight⟩ := hsized s layer (Nat.zero_le _) (by omega) hlayer
    rw [hlow, hlowHeight, hwidth, hheight]
    exact ⟨halved_mul_pow (Nat.sub_le _ _), halved_mul_pow (Nat.sub_le _ _)⟩

/-- The loop ends after one iteration for each layer, from the last index to the first, and the
sizes make up a pyramid, also those of the layers that are returned. -/
def BuildsPyramid (api : SimulcastApi) (arguments : LayerArguments) (layerCount : ℕ)
    (width height : ℤ) : Prop :=
  ∃ final layers, (∀ fuel, layerCount ≤ fuel →
      api.layerLoop arguments fuel (api.layerLoopStart layerCount width height) = .ok final) ∧
    final.written = (List.range layerCount).reverse ∧
    Pyramid layerCount width height final.layers ∧
    api.getNormalSimulcastLayers arguments layerCount width height = .ok layers ∧
    Pyramid layerCount width height layers

theorem buildsPyramid_of_fits (hcount : 1 ≤ layerCount)
    (hmax : layerCount ≤ api.kMaxSimulcastStreams) (hexponent : api.getBase2Exponent = none)
    (hwidth : 1 ≤ width) (hheight : 1 ≤ height)
    (hfits : Fits 32 (api.normalizedPixels width height layerCount)) :
    BuildsPyramid api arguments layerCount width height := by
  have hlt := api.kMaxSimulcastStreams_lt
  have hdecrement : decrement layerCount = layerCount - 1 :=
    decrement_of_pos (by omega) (by omega)
  have hnever := @not_endsEarly api layerCount _ hmax hfits
  obtain ⟨htop, hsize⟩ := decrement_lt hcount
  have hloop := @ends_layerLoop api arguments _ _ layerCount _
    (normalizeSimulcastSize_nonneg (show 0 ≤ width by omega) layerCount)
    (normalizeSimulcastSize_nonneg (show 0 ≤ height by omega) layerCount) hsize htop layerCount _
    (@atLayer_start api layerCount width height) htop
  obtain ⟨final, hfinal, hfilled⟩ := Ends.exists_ok hloop hnever
  have hlayers := @ends_getNormalSimulcastLayers api arguments width height layerCount hcount
    (by omega) (by omega)
  obtain ⟨layers, hresult, hlength, hsized⟩ := Ends.exists_ok hlayers hnever
  rw [hdecrement] at hsized hfilled
  refine ⟨final, layers, fun fuel hfuel => loopUntil_of_le hfuel hfinal, ?_,
    pyramid_of_sized hcount hmax hexponent hfilled.length hfilled.sized, hresult,
    pyramid_of_sized hcount hmax hexponent hlength hsized⟩
  have hall : layerCount - 1 + 1 - 0 = layerCount := by omega
  rw [hfilled.written, hall, List.range_eq_range']

theorem fits_of_buildsPyramid (hbuilds : BuildsPyramid api arguments layerCount width height) :
    Fits 32 (api.normalizedPixels width height layerCount) := by
  obtain ⟨final, layers, hloop, -⟩ := hbuilds
  exact fits_of_layerLoop (hloop layerCount le_rfl)

/-- The layers are a pyramid exactly when the largest one, whose sizes are multiples of a power
of two, has a number of pixels that is an `int`. -/
theorem layerLoop_pyramid_iff (hcount : 1 ≤ layerCount)
    (hmax : layerCount ≤ api.kMaxSimulcastStreams) (hexponent : api.getBase2Exponent = none)
    (hwidth : 1 ≤ width) (hheight : 1 ≤ height) :
    BuildsPyramid api arguments layerCount width height ↔
      Fits 32 (width / 2 ^ (layerCount - 1) * 2 ^ (layerCount - 1) *
        (height / 2 ^ (layerCount - 1) * 2 ^ (layerCount - 1))) := by
  rw [← normalizeSimulcastSize_eq hexponent hcount hmax,
    ← normalizeSimulcastSize_eq hexponent hcount hmax]
  exact ⟨fits_of_buildsPyramid, buildsPyramid_of_fits hcount hmax hexponent hwidth hheight⟩

theorem layerLoop_pyramid_iff_hd :
    BuildsPyramid webrtcSimulcastApi ⟨1, 56, true, false⟩ 3 1281 723 :=
  (layerLoop_pyramid_iff (by decide) (by decide) rfl (by decide) (by decide)).mpr (by decide)

/-- One layer of 46341 times 46341 pixels. -/
theorem layerLoop_overflows :
    webrtcSimulcastApi.getNormalSimulcastLayers ⟨1, 56, true, false⟩ 1 46341 46341 =
        .error .pixelOverflow ∧
      ¬ BuildsPyramid webrtcSimulcastApi ⟨1, 56, true, false⟩ 1 46341 46341 := by
  refine ⟨by decide +kernel, fun hbuilds => ?_⟩
  exact absurd (fits_of_buildsPyramid hbuilds) (by decide)

end SimulcastApi

end PeerConnection.Engine
