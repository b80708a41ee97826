import PeerConnection.Engine.LayerLimits

/-!
# Layers without pixels

Scaled layers have at least `kMinLayerSize` pixels in each direction, and so have those of one
stream the size of the input.  The loop of `GetNormalSimulcastLayers` only halves, and the number
of layers is limited by the product of width and height: a narrow and long input is halved until
its width is 0.  The product itself is an `int`, and there is none for a large input.
-/

namespace PeerConnection.Engine

open PeerConnection.Text
open PeerConnection.Runs
open PeerConnection.CheckedInts

/-! ## Sizes on the way -/

def sizes (layers : List VideoStream) : List (ℤ × ℤ) :=
  layers.map fun layer => (layer.width, layer.height)

/-- Every layer has a pixel. -/
def NonEmptyLayers (layers : List VideoStream) : Prop :=
  ∀ layer ∈ layers, 1 ≤ layer.width ∧ 1 ≤ layer.height

theorem nonEmptyLayers_iff_sizes (layers : List VideoStream) :
    NonEmptyLayers layers ↔ ∀ size ∈ sizes layers, 1 ≤ size.1 ∧ 1 ≤ size.2 := by
  simp [NonEmptyLayers, sizes]

theorem nonEmptyLayers_congr {layers others : List VideoStream}
    (hsame : sizes layers = sizes others) : NonEmptyLayers layers ↔ NonEmptyLayers others := by
  rw [nonEmptyLayers_iff_sizes, nonEmptyLayers_iff_sizes, hsame]

section Stages

variable {api : SimulcastApi} {layers changed : List VideoStream}

theorem sizes_withExperimentalMinBitrate {experimentalMinBitrate : Option ℤ}
    (hchanged : withExperimentalMinBitrate experimentalMinBitrate layers = .ok changed) :
    sizes changed = sizes layers := by
  cases experimentalMinBitrate with
  | none => rw [← Except.ok.inj hchanged]
  | some minBitrate =>
      cases layers with
      | nil => exact absurd hchanged (by simp [withExperimentalMinBitrate])
      | cons first others =>
          obtain rfl := Except.ok.inj hchanged
          rfl

theorem size_overrideBitrates (config : SimulcastLayer) (layer : VideoStream) :
    (overrideBitrates config layer).width = layer.width ∧
      (overrideBitrates config layer).height = layer.height := by
  simp only [overrideBitrates]
  split_ifs <;> exact ⟨rfl, rfl⟩

theorem sizes_overrideLayers {arguments : OverrideArguments} {configs : List SimulcastLayer}
    (hkept : arguments.hasScaleResolutionDownBy = false)
    (hchanged : overrideLayers api arguments layers configs = .ok changed) :
    sizes changed = sizes layers := by
  induction hchanged using overrideLayers_induction with
  | nil configs => rfl
  | cons layer layers config configs rest hrest ih =>
      obtain ⟨hwidth, hheight⟩ := size_overrideBitrates config
        (overrideFormat api arguments config layer)
      have hsame : ((overrideLayer api arguments config layer).width,
          (overrideLayer api arguments config layer).height) =
            (layer.width, layer.height) := by
        rw [overrideLayer, hwidth, hheight]
        simp [overrideFormat, hkept]
      rw [sizes, List.map_cons, hsame]
      exact congrArg _ ih

/-- Scaled layers have the least size. -/
theorem nonEmptyLayers_overrideLayers {arguments : OverrideArguments}
    {configs : List SimulcastLayer} (hscaled : arguments.hasScaleResolutionDownBy = true)
    (hchanged : overrideLayers api arguments layers configs = .ok changed) :
    NonEmptyLayers changed := by
  induction hchanged using overrideLayers_induction with
  | nil configs =>
      intro layer hlayer
      exact absurd hlayer List.not_mem_nil
  | cons layer layers config configs rest hrest ih =>
      obtain ⟨hwidth, hheight⟩ := size_overrideBitrates config
        (overrideFormat api arguments config layer)
      intro each heach
      rcases List.mem_cons.mp heach with rfl | hmem
      · rw [overrideLayer, hwidth, hheight]
        simp [overrideFormat, hscaled, kMinLayerSize]
      · exact ih each hmem

theorem sizes_boostLastLayer (factory : StreamFactoryConfig) (config : VideoEncoderConfig)
    (layers : List VideoStream) : sizes (boostLastLayer factory config layers) = sizes layers := by
  rw [boostLastLayer]
  split_ifs
  · rw [boostMaxSimulcastLayer]
    split
    case h_1 => rfl
    case h_2 last hlast =>
      dsimp only
      split_ifs
      · have hsplit := List.dropLast_append_getLast? last hlast
        conv_rhs => rw [← hsplit]
        simp [sizes]
      · rfl
  · rfl

theorem sizes_modify (layers : List VideoStream) (index : ℕ) (minBitrate : ℤ) :
    sizes (layers.modify index ({ · with minBitrateBps := minBitrate })) = sizes layers := by
  induction layers generalizing index with
  | nil => simp [sizes]
  | cons layer layers ih =>
      cases index with
      | zero => simp [sizes]
      | succ index =>
          rw [List.modify_succ_cons, sizes, List.map_cons]
          exact congrArg _ (ih index)

theorem sizes_lowerFirstActive (hchanged : lowerFirstActive layers = .ok changed) :
    sizes changed = sizes layers := by
  rw [lowerFirstActive] at hchanged
  split at hchanged
  · exact absurd hchanged (by simp)
  · split_ifs at hchanged
    · rw [← Except.ok.inj hchanged]
    · dsimp only at hchanged
      split at hchanged
      · rw [← Except.ok.inj hchanged]
      · rw [← Except.ok.inj hchanged]
        exact sizes_modify layers _ _

end Stages

/-! ## The number of layers -/

namespace SimulcastApi

variable {api : SimulcastApi} {width height : ℤ}

/-- A number of pixels counts as the row above if it is only a little below it. -/
def roundsUp (api : SimulcastApi) (maxRoundupRate : Option ℚ) (pixels up down : ℤ) : Prop :=
  api.quotient (up - pixels : ℤ) (up - down : ℤ) < maxRoundupRate.getD kDefaultMaxRoundupRate

instance decidableRoundsUp (api : SimulcastApi) (maxRoundupRate : Option ℚ)
    (pixels up down : ℤ) : Decidable (api.roundsUp maxRoundupRate pixels up down) :=
  inferInstanceAs (Decidable (_ < _))

/-- The number of layers for a number of pixels. -/
def tableLayers (api : SimulcastApi) (maxRoundupRate : Option ℚ) (pixels : ℤ) : ℕ :=
  if 960 * 540 ≤ pixels then 3
  else if 640 * 360 ≤ pixels then
    if api.roundsUp maxRoundupRate pixels (960 * 540) (640 * 360) then 3 else 2
  else if 480 * 270 ≤ pixels then 2
  else if 320 * 180 ≤ pixels then
    if api.roundsUp maxRoundupRate pixels (480 * 270) (320 * 180) then 2 else 1
  else 1

theorem findSimulcastFormatIndex_eq (hpixels : 0 ≤ width * height)
    (hfits : Fits 32 (width * height)) (lowres : Bool) :
    findSimulcastFormatIndex width height lowres =
      .ok (if 1920 * 1080 ≤ width * height then 0
        else if 1280 * 720 ≤ width * height then 1
        else if 960 * 540 ≤ width * height then 2
        else if 640 * 360 ≤ width * height then 3
        else if 480 * 270 ≤ width * height then 4
        else if 320 * 180 ≤ width * height then 5
        else 6) := by
  rw [findSimulcastFormatIndex_eq_ok_iff, and_iff_right hfits]
  generalize width * height = pixels at hpixels
  have hrows : (getSimulcastFormats lowres).findIdx? (fun format =>
      decide (pixels ≥ format.width * format.height)) =
        (kSimulcastFormats.map fun format => format.width * format.height).findIdx?
          fun row => decide (pixels ≥ row) := by
    cases lowres <;> rfl
  rw [hrows]
  simp only [kSimulcastFormats, List.map_cons, List.map_nil, List.findIdx?_cons, ge_iff_le,
    decide_eq_true_eq]
  split_ifs <;> first | rfl | omega

theorem maxLayers_formatBetween (maxRoundupRate : Option ℚ) (up down : SimulcastFormat) :
    (api.formatBetween width height maxRoundupRate up down).maxLayers =
      if api.roundsUp maxRoundupRate (width * height) (up.width * up.height)
        (down.width * down.height) then up.maxLayers else down.maxLayers := rfl

/-- What the rows around a number of pixels have. -/
theorem maxLayers_interpolateSimulcastFormat (hpixels : 0 ≤ width * height)
    (hfits : Fits 32 (width * height)) (maxRoundupRate : Option ℚ) (lowres : Bool) :
    (api.interpolateSimulcastFormat width height maxRoundupRate lowres).map (·.maxLayers) =
      .ok (api.tableLayers maxRoundupRate (width * height)) := by
  rw [interpolateSimulcastFormat, findSimulcastFormatIndex_eq hpixels hfits, tableLayers]
  simp only [Except.bind]
  split_ifs
  -- the rows of the table and of the closed form have the same limits
  all_goals first
    | omega
    | cases lowres <;>
        simp_all [getSimulcastFormats, kSimulcastFormats, Except.map, maxLayers_formatBetween]

/-- Rounding down to a multiple of a power keeps what is at least a greater power, and what is
at least this power. -/
theorem pow_le_rounded_iff {size : ℤ} {layer exponent : ℕ}
    (hexponent : exponent ≤ layer ∨ 2 ^ exponent < size) :
    2 ^ layer ≤ size / 2 ^ exponent * 2 ^ exponent ↔ 2 ^ layer ≤ size := by
  have hpos : (0 : ℤ) < 2 ^ exponent := by positivity
  constructor
  · intro hle
    exact hle.trans (Int.ediv_mul_le _ hpos.ne')
  · intro hle
    rcases le_total exponent layer with hless | hmore
    · have hsplit : (2 : ℤ) ^ layer = 2 ^ (layer - exponent) * 2 ^ exponent := by
        rw [← pow_add, Nat.sub_add_cancel hless]
      rw [hsplit] at hle ⊢
      exact Int.mul_le_mul_of_nonneg_right ((Int.le_ediv_iff_mul_le hpos).mpr hle) hpos.le
    · have hpow : (2 : ℤ) ^ layer ≤ 2 ^ exponent := pow_le_pow_right₀ (by norm_num) hmore
      have hsize : (2 : ℤ) ^ exponent ≤ size := by
        rcases hexponent with hless | hlarge
        · rw [le_antisymm hless hmore]
          exact hle
        · exact hlarge.le
      have hone : 1 ≤ size / 2 ^ exponent :=
        (Int.le_ediv_iff_mul_le hpos).mpr (by rw [one_mul]; exact hsize)
      calc (2 : ℤ) ^ layer ≤ 1 * 2 ^ exponent := by rw [one_mul]; exact hpow
        _ ≤ size / 2 ^ exponent * 2 ^ exponent := Int.mul_le_mul_of_nonneg_right hone hpos.le

/-- A size that is normalised for some layers is halved down to a pixel exactly when it is not
below the power of two for them. -/
theorem one_le_halved_iff {size : ℤ} {layerCount : ℕ} (hcount : 1 ≤ layerCount)
    (hmax : layerCount ≤ api.kMaxSimulcastStreams) :
    1 ≤ api.normalizeSimulcastSize size layerCount / 2 ^ (layerCount - 1) ↔
      2 ^ (layerCount - 1) ≤ size := by
  have hlt := api.kMaxSimulcastStreams_lt
  have hcast : (toInt layerCount - 1).toNat = layerCount - 1 := by
    rw [toInt_eq (by omega)]
    omega
  have hpos : (0 : ℤ) < 2 ^ (layerCount - 1) := by positivity
  rw [Int.le_ediv_iff_mul_le hpos, one_mul]
  cases hexponent : api.getBase2Exponent with
  | none =>
      rw [normalizeSimulcastSize_eq hexponent hcount hmax]
      exact pow_le_rounded_iff (Or.inl le_rfl)
  | some exponent =>
      simp only [normalizeSimulcastSize, hexponent, shiftLeft_shiftRight]
      split_ifs with hlarge
      · rw [Int.toNat_natCast]
        exact pow_le_rounded_iff (Or.inr hlarge)
      · rw [hcast]
        exact pow_le_rounded_iff (Or.inl le_rfl)

end SimulcastApi

/-! ## The layers of the factory -/

section Factory

variable {api : SimulcastApi} {factory : StreamFactoryConfig} {config : VideoEncoderConfig}
variable {width height : ℤ}

/-- The layers up to the first active one. -/
def requiredLayers (config : VideoEncoderConfig) : ℕ :=
  ((firstActiveLayer config).map (· + 1)).getD 0

/-- Whether the number of layers is left as it is configured. -/
def SimulcastApi.legacyLimitDisabled (api : SimulcastApi) : Bool :=
  (ascii "Disabled").isPrefixOf (api.lookup (ascii "WebRTC-LegacySimulcastLayerLimit"))

/-- As many layers as the number of pixels is good for, the required ones at least. -/
def limitedLayers (api : SimulcastApi) (config : VideoEncoderConfig) (width height : ℤ) : ℕ :=
  if api.legacyLimitDisabled then config.numberOfStreams
  else
    min config.numberOfStreams <| max (requiredLayers config) <| api.tableLayers
      (api.parseMaxRatio (api.lookup (ascii "WebRTC-SimulcastLayerLimitRoundUp")))
      (width * height)

theorem findRequiredActiveLayers_eq
    (hconfigured : config.numberOfStreams ≤ config.simulcastLayers.length) :
    findRequiredActiveLayers config = .ok (requiredLayers config) := by
  rw [findRequiredActiveLayers, requiredLayers, firstActiveLayer]
  split
  case h_1 index hindex => rw [hindex]; rfl
  case h_2 hnone =>
    rw [if_neg (by omega), hnone]
    rfl

/-- The number of layers is limited unless the pixels that the limit goes by cannot be counted. -/
theorem limitSimulcastLayerCount_eq_ok_iff (hwidth : 0 ≤ width) (hheight : 0 ≤ height)
    {limited : ℕ} :
    api.limitSimulcastLayerCount width height (requiredLayers config) config.numberOfStreams =
        .ok limited ↔
      (api.legacyLimitDisabled = true ∨ Fits 32 (width * height)) ∧
        limited = limitedLayers api config width height := by
  have hpixels : 0 ≤ width * height := by positivity
  rw [SimulcastApi.limitSimulcastLayerCount, limitedLayers, SimulcastApi.legacyLimitDisabled]
  split_ifs with hlegacy
  · simp [hlegacy, eq_comm]
  rw [or_iff_right hlegacy]
  dsimp only
  by_cases hfits : Fits 32 (width * height)
  · obtain ⟨format, hformat, hlayers⟩ := except_map_eq_ok_iff.mp
      (@SimulcastApi.maxLayers_interpolateSimulcastFormat api width height hpixels hfits
        (api.parseMaxRatio (api.lookup (ascii "WebRTC-SimulcastLayerLimitRoundUp")))
        api.enableLowresBitrateInterpolation)
    simp only [hformat, hlayers, Except.map, hfits, true_and]
    split_ifs with hmore
    · rw [min_eq_right hmore.le, Except.ok.injEq, eq_comm]
    · rw [min_eq_left (not_lt.mp hmore), Except.ok.injEq, eq_comm]
  · rw [SimulcastApi.interpolateSimulcastFormat_overflow hfits]
    exact iff_of_false (by simp [Except.map]) fun hlimited => hfits hlimited.1

theorem limitedLayers_bounds (hstreams : 1 ≤ config.numberOfStreams) :
    1 ≤ limitedLayers api config width height ∧
      limitedLayers api config width height ≤ config.numberOfStreams := by
  have htable : ∀ rate pixels, 1 ≤ api.tableLayers rate pixels := by
    intro rate pixels
    rw [SimulcastApi.tableLayers]
    split_ifs <;> norm_num
  rw [limitedLayers]
  split_ifs
  · exact ⟨hstreams, le_rfl⟩
  · refine ⟨le_min hstreams (le_max_of_le_right (htable _ _)), min_le_left _ _⟩

/-- Layers of a screen have the size of the input. -/
theorem nonEmptyLayers_getScreenshareLayers (hwidth : 1 ≤ width) (hheight : 1 ≤ height)
    {arguments : LayerArguments} {maxLayers : ℕ} {layers : List VideoStream}
    (hlayers : api.getScreenshareLayers arguments maxLayers width height = .ok layers) :
    NonEmptyLayers layers := by
  rw [SimulcastApi.getScreenshareLayers] at hlayers
  dsimp only at hlayers
  split_ifs at hlayers
  · obtain ⟨chosen, hchosen, hpriority⟩ := except_bind_eq_ok_iff.mp hlayers
    obtain ⟨numTemporalLayers, -, rfl⟩ := except_map_eq_ok_iff.mp hchosen
    obtain rfl := Except.ok.inj hpriority
    simp [NonEmptyLayers, SimulcastApi.lowerScreenshareLayer,
      SimulcastApi.upperScreenshareLayer, hwidth, hheight]
  · obtain rfl := Except.ok.inj hlayers
    simp [NonEmptyLayers, SimulcastApi.lowerScreenshareLayer, hwidth, hheight]

/-- Layers of a camera are halved from the last one down to the first. -/
theorem nonEmptyLayers_getNormalSimulcastLayers (hwidth : 1 ≤ width) (hheight : 1 ≤ height)
    {layerCount : ℕ} (hcount : 1 ≤ layerCount) (hmax : layerCount ≤ api.kMaxSimulcastStreams)
    {arguments : LayerArguments} {layers : List VideoStream}
    (hlayers : api.getNormalSimulcastLayers arguments layerCount width height = .ok layers) :
    NonEmptyLayers layers ↔ 2 ^ (layerCount - 1) ≤ width ∧ 2 ^ (layerCount - 1) ≤ height := by
  have hends := @SimulcastApi.ends_getNormalSimulcastLayers api arguments width height layerCount
    hcount (by omega) (by omega)
  rw [hlayers] at hends
  obtain ⟨hlength, hsized⟩ := hends
  have hlt := api.kMaxSimulcastStreams_lt
  rw [SimulcastApi.decrement_of_pos (by omega) (by omega)] at hsized
  rw [← @SimulcastApi.one_le_halved_iff api width layerCount hcount hmax,
    ← @SimulcastApi.one_le_halved_iff api height layerCount hcount hmax]
  constructor
  · intro hpixels
    have hfirst := List.getElem?_eq_getElem (show 0 < layers.length by omega)
    obtain ⟨hw, hh⟩ := hsized 0 _ le_rfl (Nat.zero_le _) hfirst
    obtain ⟨hone, htwo⟩ := hpixels _ (List.getElem_mem (show 0 < layers.length by omega))
    rw [Nat.sub_zero] at hw hh
    exact ⟨hw ▸ hone, hh ▸ htwo⟩
  · rintro ⟨hw, hh⟩ layer hlayer
    obtain ⟨index, hindex, rfl⟩ := List.getElem_of_mem hlayer
    obtain ⟨hwidthAt, hheightAt⟩ := hsized index _ (Nat.zero_le _) (by omega)
      (List.getElem?_eq_getElem hindex)
    rw [hwidthAt, hheightAt]
    -- a layer above the first is halved less often
    have hmono : ∀ size : ℤ, 1 ≤ size / 2 ^ (layerCount - 1) →
        1 ≤ size / 2 ^ (layerCount - 1 - index) := by
      intro size hsize
      rw [Int.le_ediv_iff_mul_le (by positivity), one_mul] at hsize ⊢
      exact (pow_le_pow_right₀ (by norm_num) (Nat.sub_le _ _)).trans hsize
    exact ⟨hmono _ hw, hmono _ hh⟩

/-- What the factory calls for the layers. -/
theorem simulcastLayersFor_eq
    (hconfigured : config.numberOfStreams ≤ config.simulcastLayers.length) :
    simulcastLayersFor api factory config width height =
      api.getSimulcastConfig (requiredLayers config) config.numberOfStreams width height
        config.bitratePriority factory.maxQp (factory.isScreencast && factory.conferenceMode)
        (equalsIgnoreCase factory.codecName kVp8CodecName ||
          equalsIgnoreCase factory.codecName kH264CodecName) := by
  rw [simulcastLayersFor, findRequiredActiveLayers_eq hconfigured]
  rfl

theorem nonEmptyLayers_simulcastLayersFor (hwidth : 1 ≤ width) (hheight : 1 ≤ height)
    (hstreams : 1 ≤ config.numberOfStreams)
    (hconfigured : config.numberOfStreams ≤ config.simulcastLayers.length)
    (hmax : config.numberOfStreams ≤ api.kMaxSimulcastStreams) {layers : List VideoStream}
    (hlayers : simulcastLayersFor api factory config width height = .ok layers) :
    NonEmptyLayers layers ↔
      (factory.isScreencast && factory.conferenceMode) = true ∨
        (2 ^ (limitedLayers api config width height - 1) ≤ width ∧
          2 ^ (limitedLayers api config width height - 1) ≤ height) := by
  rw [simulcastLayersFor_eq hconfigured, SimulcastApi.getSimulcastConfig] at hlayers
  cases hmode : factory.isScreencast && factory.conferenceMode with
  | true =>
      rw [hmode, if_pos rfl] at hlayers
      exact iff_of_true (nonEmptyLayers_getScreenshareLayers hwidth hheight hlayers) (Or.inl rfl)
  | false =>
      rw [hmode, if_neg Bool.false_ne_true] at hlayers
      obtain ⟨limited, hlimit, hnormal⟩ := except_bind_eq_ok_iff.mp hlayers
      obtain ⟨-, rfl⟩ := (limitSimulcastLayerCount_eq_ok_iff (by omega) (by omega)).mp hlimit
      obtain ⟨hone, hless⟩ := @limitedLayers_bounds api config width height hstreams
      rw [or_iff_right Bool.false_ne_true]
      exact nonEmptyLayers_getNormalSimulcastLayers hwidth hheight hone (hless.trans hmax) hnormal

/-- The largest number of pixels that is counted for the layers of a camera. -/
def countedPixels (api : SimulcastApi) (config : VideoEncoderConfig) (width height : ℤ) : ℤ :=
  if api.legacyLimitDisabled then api.normalizedPixels width height config.numberOfStreams
  else width * height

/-- The limit and the loop count no more pixels. -/
theorem fits_countedPixels_iff (hwidth : 0 ≤ width) (hheight : 0 ≤ height) :
    Fits 32 (countedPixels api config width height) ↔
      (api.legacyLimitDisabled = true ∨ Fits 32 (width * height)) ∧
        Fits 32 (api.normalizedPixels width height (limitedLayers api config width height)) := by
  obtain ⟨hpixels, htotal⟩ := @SimulcastApi.normalizedPixels_le api width height hwidth hheight
    (limitedLayers api config width height)
  rw [countedPixels]
  split_ifs with hlegacy
  · rw [limitedLayers, if_pos hlegacy]
    exact ⟨fun hfits => ⟨Or.inl hlegacy, hfits⟩, And.right⟩
  · rw [or_iff_right hlegacy]
    exact ⟨fun hfits => ⟨hfits, (fits_zero 32).between hfits hpixels htotal⟩, And.left⟩

/-- The layers of a screen are never counted; those of a camera are there when the largest number
of pixels is an `int`. -/
theorem exists_simulcastLayersFor_iff (hwidth : 0 ≤ width) (hheight : 0 ≤ height)
    (hstreams : 1 ≤ config.numberOfStreams)
    (hconfigured : config.numberOfStreams ≤ config.simulcastLayers.length)
    (hmax : config.numberOfStreams ≤ api.kMaxSimulcastStreams) :
    (∃ layers, simulcastLayersFor api factory config width height = .ok layers) ↔
      (factory.isScreencast && factory.conferenceMode) = true ∨
        Fits 32 (countedPixels api config width height) := by
  rw [simulcastLayersFor_eq hconfigured, SimulcastApi.getSimulcastConfig]
  cases factory.isScreencast && factory.conferenceMode with
  | true =>
      refine iff_of_true ?_ (Or.inl rfl)
      obtain ⟨layers, hlayers, -⟩ := Ends.exists_ok (SimulcastApi.ends_getScreenshareLayers
        hstreams) fun fault hmany => absurd hmany.1 (not_lt.mpr hmax)
      exact ⟨layers, hlayers⟩
  | false =>
      obtain ⟨hone, hless⟩ := @limitedLayers_bounds api config width height hstreams
      have hnormal := fun arguments => @SimulcastApi.exists_getNormalSimulcastLayers_iff api
        arguments width height _ hone (hless.trans hmax) hwidth hheight
      have hlimit := fun limited => @limitSimulcastLayerCount_eq_ok_iff api config width height
        hwidth hheight limited
      rw [or_iff_right Bool.false_ne_true, if_neg Bool.false_ne_true,
        fits_countedPixels_iff hwidth hheight]
      constructor
      · rintro ⟨layers, hlayers⟩
        obtain ⟨limited, hlimited, hresult⟩ := except_bind_eq_ok_iff.mp hlayers
        obtain ⟨hcounted, rfl⟩ := (hlimit limited).mp hlimited
        exact ⟨hcounted, (hnormal _).mp ⟨layers, hresult⟩⟩
      · rintro ⟨hcounted, hlast⟩
        obtain ⟨layers, hlayers⟩ := (hnormal _).mpr hlast
        have hlimited := (hlimit _).mpr ⟨hcounted, rfl⟩
        exact ⟨layers, except_bind_eq_ok_iff.mpr ⟨_, hlimited, hlayers⟩⟩

/-- The factory keeps the sizes, or scales them all. -/
theorem nonEmptyLayers_createStreams {experimentalMinBitrate : Option ℤ}
    {layers final : List VideoStream}
    (hlayers : simulcastLayersFor api factory config width height = .ok layers)
    (hfinal : createSimulcastOrConferenceModeScreenshareStreams api factory config width height
      experimentalMinBitrate = .ok final) :
    NonEmptyLayers final ↔
      (∃ layer ∈ config.simulcastLayers, layer.scaleResolutionDownBy ≠ -1) ∨
        NonEmptyLayers layers := by
  rw [createSimulcastOrConferenceModeScreenshareStreams] at hfinal
  obtain ⟨started, hstarted, hchoices⟩ := except_bind_eq_ok_iff.mp hfinal
  obtain rfl := Except.ok.inj (hstarted.symm.trans hlayers)
  obtain ⟨changed, hchanged, hrest⟩ := except_bind_eq_ok_iff.mp hchoices
  obtain ⟨overridden, hoverridden, hlowered⟩ := except_bind_eq_ok_iff.mp hrest
  rw [nonEmptyLayers_congr ((sizes_lowerFirstActive hlowered).trans
    (sizes_boostLastLayer factory config overridden))]
  have hscaled : (overrideArguments api factory config width height).hasScaleResolutionDownBy =
      true ↔ ∃ layer ∈ config.simulcastLayers, layer.scaleResolutionDownBy ≠ -1 := by
    simp [overrideArguments]
  cases hscale : (overrideArguments api factory config width
      height).hasScaleResolutionDownBy with
  | true =>
      exact iff_of_true (nonEmptyLayers_overrideLayers hscale hoverridden)
        (Or.inl (hscaled.mp hscale))
  | false =>
      have hnone : ¬ ∃ layer ∈ config.simulcastLayers, layer.scaleResolutionDownBy ≠ -1 := by
        rw [← hscaled, hscale]
        exact Bool.false_ne_true
      rw [or_iff_right hnone]
      exact nonEmptyLayers_congr ((sizes_overrideLayers hscale hoverridden).trans
        (sizes_withExperimentalMinBitrate hchanged))

/-- The only stream is there when the pixels can be counted or are not needed for the bitrate. -/
theorem exists_createDefaultVideoStreams_iff (hconfigured : 1 ≤ config.simulcastLayers.length)
    (experimentalMinBitrate : Option ℤ) (vp9TemporalLayers : ℤ) :
    (∃ layers, createDefaultVideoStreams api factory config width height experimentalMinBitrate
        vp9TemporalLayers = .ok layers) ↔
      0 < config.maxBitrateBps ∨ Fits 32 (width * height) := by
  rw [createDefaultVideoStreams, getMaxDefaultVideoBitrateKbps]
  cases hconfigs : config.simulcastLayers with
  | nil => exact absurd hconfigured (by simp [hconfigs])
  | cons first others =>
      by_cases hconfiguredMax : 0 < config.maxBitrateBps
      · rw [if_pos hconfiguredMax]
        exact iff_of_true ⟨_, rfl⟩ (Or.inl hconfiguredMax)
      rw [if_neg hconfiguredMax, or_iff_right hconfiguredMax]
      by_cases hfits : Fits 32 (width * height)
      · rw [pixelCount_of_fits hfits]
        exact iff_of_true ⟨_, rfl⟩ hfits
      · rw [pixelCount_overflow hfits]
        exact iff_of_false (by simp [Except.bind, Except.map]) hfits

theorem nonEmptyLayers_createDefaultVideoStreams (hwidth : 1 ≤ width) (hheight : 1 ≤ height)
    {experimentalMinBitrate : Option ℤ} {vp9TemporalLayers : ℤ} {layers : List VideoStream}
    (hlayers : createDefaultVideoStreams api factory config width height experimentalMinBitrate
      vp9TemporalLayers = .ok layers) : NonEmptyLayers layers := by
  rw [createDefaultVideoStreams] at hlayers
  obtain ⟨defaultMaxBitrate, -, hstream⟩ := except_bind_eq_ok_iff.mp hlayers
  cases hconfigs : config.simulcastLayers with
  | nil => exact absurd hstream (by simp [hconfigs])
  | cons first others =>
      rw [hconfigs] at hstream
      obtain rfl := Except.ok.inj hstream
      intro layer hlayer
      obtain rfl := List.mem_singleton.mp hlayer
      dsimp only
      split_ifs
      · exact ⟨le_max_of_le_right (by decide), le_max_of_le_right (by decide)⟩
      · exact ⟨hwidth, hheight⟩

/-! ## All streams -/

/-- Whether the streams are the layers of `GetSimulcastConfig`. -/
def goesThroughSimulcast (factory : StreamFactoryConfig) (config : VideoEncoderConfig) : Bool :=
  config.numberOfStreams > 1 ||
    ((equalsIgnoreCase factory.codecName kVp8CodecName ||
      equalsIgnoreCase factory.codecName kH264CodecName) &&
      factory.isScreencast && factory.conferenceMode)

/-- Every number of pixels that is counted is an `int`. -/
def PixelsFit (api : SimulcastApi) (factory : StreamFactoryConfig) (config : VideoEncoderConfig)
    (width height : ℤ) : Prop :=
  if goesThroughSimulcast factory config then
    (factory.isScreencast && factory.conferenceMode) = true ∨
      Fits 32 (countedPixels api config width height)
  else 0 < config.maxBitrateBps ∨ Fits 32 (width * height)

/-- The streams are for a screen that is shared in a conference, or a scale factor is set, or
neither width nor height is below the power of two that the first of the layers is halved by. -/
def KeepsPixels (api : SimulcastApi) (factory : StreamFactoryConfig) (config : VideoEncoderConfig)
    (width height : ℤ) : Prop :=
  (factory.isScreencast && factory.conferenceMode) = true ∨
    (∃ layer ∈ config.simulcastLayers, layer.scaleResolutionDownBy ≠ -1) ∨
    (2 ^ (limitedLayers api config width height - 1) ≤ width ∧
      2 ^ (limitedLayers api config width height - 1) ≤ height)

section Streams

variable {experimentalMinBitrate : Option ℤ} {vp9TemporalLayers : ℤ}
variable (hwidth : 1 ≤ width) (hheight : 1 ≤ height) (hstreams : 1 ≤ config.numberOfStreams)
variable (hconfigured : config.numberOfStreams ≤ config.simulcastLayers.length)
variable (hmax : config.numberOfStreams ≤ api.kMaxSimulcastStreams)

include hwidth hheight hstreams hconfigured hmax

theorem exists_createEncoderStreams_iff :
    (∃ layers, createEncoderStreams api factory config width height experimentalMinBitrate
        vp9TemporalLayers = .ok layers) ↔ PixelsFit api factory config width height := by
  rw [createEncoderStreams, PixelsFit, goesThroughSimulcast]
  split_ifs with hsimulcast
  · rw [← exists_simulcastLayersFor_iff (by omega) (by omega) hstreams hconfigured hmax]
    constructor
    · rintro ⟨final, hfinal⟩
      obtain ⟨layers, hlayers, -⟩ := except_bind_eq_ok_iff.mp hfinal
      exact ⟨layers, hlayers⟩
    · rintro ⟨layers, hlayers⟩
      have hends := @ends_simulcastLayersFor api factory config width height hstreams hconfigured
        (by omega) (by omega)
      rw [hlayers] at hends
      exact exists_createStreams hends.1 (hends.2.1.trans hconfigured) hlayers
        experimentalMinBitrate
  · exact exists_createDefaultVideoStreams_iff (hstreams.trans hconfigured) _ _

theorem nonEmptyLayers_createEncoderStreams {final : List VideoStream}
    (hfinal : createEncoderStreams api factory config width height experimentalMinBitrate
      vp9TemporalLayers = .ok final) :
    NonEmptyLayers final ↔ KeepsPixels api factory config width height := by
  rw [createEncoderStreams] at hfinal
  split_ifs at hfinal with hsimulcast
  · obtain ⟨layers, hlayers, -⟩ := except_bind_eq_ok_iff.mp hfinal
    rw [nonEmptyLayers_createStreams hlayers hfinal, nonEmptyLayers_simulcastLayersFor hwidth
      hheight hstreams hconfigured hmax hlayers]
    exact or_left_comm
  · refine iff_of_true (nonEmptyLayers_createDefaultVideoStreams hwidth hheight hfinal)
      (Or.inr (Or.inr ?_))
    -- one stream is one layer
    obtain ⟨hone, hless⟩ := @limitedLayers_bounds api config width height hstreams
    have hsingle : ¬ 1 < config.numberOfStreams := fun hmore => hsimulcast (by simp [hmore])
    have hlimited : limitedLayers api config width height = 1 := by omega
    rw [hlimited, Nat.sub_self, pow_zero]
    exact ⟨hwidth, hheight⟩

end Streams

/-- `CreateEncoderStreams` returns if and only if every number of pixels that it counts is an
`int`, and then all its layers have a pixel if and only if the first of them is not halved too
often. -/
theorem createEncoderStreams_nonEmpty_iff (api : SimulcastApi) (factory : StreamFactoryConfig)
    (config : VideoEncoderConfig) (width height : ℤ) (experimentalMinBitrate : Option ℤ)
    (vp9TemporalLayers : ℤ) (hwidth : 1 ≤ width) (hheight : 1 ≤ height)
    (hstreams : 1 ≤ config.numberOfStreams)
    (hconfigured : config.numberOfStreams ≤ config.simulcastLayers.length)
    (hmax : config.numberOfStreams ≤ api.kMaxSimulcastStreams) :
    ((∃ layers, createEncoderStreams api factory config width height experimentalMinBitrate
        vp9TemporalLayers = .ok layers) ↔ PixelsFit api factory config width height) ∧
      ((∃ layers, createEncoderStreams api factory config width height experimentalMinBitrate
          vp9TemporalLayers = .ok layers ∧ NonEmptyLayers layers) ↔
        PixelsFit api factory config width height ∧
          KeepsPixels api factory config width height) := by
  have hreturns := @exists_createEncoderStreams_iff api factory config width height
    experimentalMinBitrate vp9TemporalLayers hwidth hheight hstreams hconfigured hmax
  refine ⟨hreturns, ?_⟩
  constructor
  · rintro ⟨layers, hlayers, hpixels⟩
    exact ⟨hreturns.mp ⟨layers, hlayers⟩, (nonEmptyLayers_createEncoderStreams hwidth hheight
      hstreams hconfigured hmax hlayers).mp hpixels⟩
  · rintro ⟨hfits, hkeeps⟩
    obtain ⟨layers, hlayers⟩ := hreturns.mpr hfits
    exact ⟨layers, hlayers, (nonEmptyLayers_createEncoderStreams hwidth hheight hstreams
      hconfigured hmax hlayers).mpr hkeeps⟩

/-! ## A column of pixels, and too many of them -/

theorem limitedLayers_twoLayerConfig :
    limitedLayers webrtcSimulcastApi (twoLayerConfig {} {}) 1 129600 = 2 ∧
      limitedLayers webrtcSimulcastApi (twoLayerConfig {} {}) 1280 720 = 2 := by
  decide +kernel

theorem pixelsFit_twoLayerConfig {width height : ℤ} (hfits : Fits 32 (width * height)) :
    PixelsFit webrtcSimulcastApi vp8Factory (twoLayerConfig {} {}) width height := by
  have hcounted : countedPixels webrtcSimulcastApi (twoLayerConfig {} {}) width height =
      width * height := if_neg (by decide)
  rw [PixelsFit, if_pos (by decide), hcounted]
  exact Or.inr hfits

/-- Two streams of an input that is one pixel wide, and of one with more pixels than an `int`
counts. -/
theorem createEncoderStreams_column :
    (∃ layers, createEncoderStreams webrtcSimulcastApi vp8Factory (twoLayerConfig {} {}) 1 129600
        none 1 = .ok layers ∧ ¬ NonEmptyLayers layers) ∧
      createEncoderStreams webrtcSimulcastApi vp8Factory (twoLayerConfig {} {}) 46341 46341 none
        1 = .error .pixelOverflow := by
  refine ⟨?_, by decide +kernel⟩
  obtain ⟨layers, hlayers⟩ := (@exists_createEncoderStreams_iff webrtcSimulcastApi vp8Factory
    (twoLayerConfig {} {}) 1 129600 none 1 (by decide) (by decide) (by decide) (by decide)
    (by decide)).mpr (pixelsFit_twoLayerConfig (by decide))
  refine ⟨layers, hlayers, ?_⟩
  rw [nonEmptyLayers_createEncoderStreams (by decide) (by decide) (by decide) (by decide)
    (by decide) hlayers, KeepsPixels, limitedLayers_twoLayerConfig.1]
  simp [twoLayerConfig, vp8Factory]

theorem createEncoderStreams_nonEmpty_iff_hd :
    ∃ layers, createEncoderStreams webrtcSimulcastApi vp8Factory (twoLayerConfig {} {}) 1280 720
        none 1 = .ok layers ∧ NonEmptyLayers layers := by
  have hpixels := (createEncoderStreams_nonEmpty_iff webrtcSimulcastApi vp8Factory
    (twoLayerConfig {} {}) 1280 720 none 1 (by decide) (by decide) (by decide) (by decide)
    (by decide)).2
  refine hpixels.mpr ⟨pixelsFit_twoLayerConfig (by decide), Or.inr (Or.inr ?_)⟩
  rw [limitedLayers_twoLayerConfig.2]
  decide

end Factory

end PeerConnection.Engine
