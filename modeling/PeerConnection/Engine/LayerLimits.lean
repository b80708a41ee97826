import PeerConnection.Engine.SimulcastLayers

/-!
# The number of layers that the factory gets

`GetSimulcastConfig` returns at least one layer and no more than there are streams, with the first
active one among them.  So every layer has its element of `simulcast_layers`, and only a number of
streams above `kMaxSimulcastStreams` or a number of pixels that is no `int` can end the call early.
-/

namespace PeerConnection.Engine

open PeerConnection.Runs
open PeerConnection.CheckedInts

namespace SimulcastApi

variable {api : SimulcastApi} {arguments : LayerArguments} {width height : ℤ}
variable {needLayers layerCount maxLayers : ℕ}

/-! ## Limits -/

/-- The limit leaves a layer and the layers that are needed. -/
theorem ends_limitSimulcastLayerCount (hpixels : 0 ≤ width * height) (hcount : 1 ≤ layerCount)
    (hneed : needLayers ≤ layerCount) :
    Ends (fun limited => 1 ≤ limited ∧ limited ≤ layerCount ∧ needLayers ≤ limited)
      (EndsEarly api layerCount (width * height))
      (api.limitSimulcastLayerCount width height needLayers layerCount) := by
  rw [limitSimulcastLayerCount]
  by_cases hlegacy : (Text.ascii "Disabled").isPrefixOf
      (api.lookup (Text.ascii "WebRTC-LegacySimulcastLayerLimit")) = true
  · rw [if_pos hlegacy]
    exact ⟨hcount, le_refl _, hneed⟩
  rw [if_neg hlegacy]
  dsimp only
  by_cases hfits : Fits 32 (width * height)
  · obtain ⟨format, hformat, hlayers⟩ := @exists_interpolateSimulcastFormat api width height
      hpixels hfits
      (api.parseMaxRatio (api.lookup (Text.ascii "WebRTC-SimulcastLayerLimitRoundUp")))
      api.enableLowresBitrateInterpolation
    rw [hformat]
    simp only [Except.map]
    split_ifs with hless
    · exact ⟨by omega, hless.le, by omega⟩
    · exact ⟨hcount, le_refl _, hneed⟩
  · rw [interpolateSimulcastFormat_overflow hfits]
    exact Or.inr ⟨hfits, rfl⟩

theorem ends_getScreenshareLayers (hcount : 1 ≤ maxLayers) :
    Ends (fun layers => 1 ≤ layers.length ∧ layers.length ≤ maxLayers) (TooMany api maxLayers)
      (api.getScreenshareLayers arguments maxLayers width height) := by
  have hlt := api.kMaxSimulcastStreams_lt
  -- where the conversion changes the number, there are too many streams
  have hint : maxLayers < 2 ^ 31 → toInt maxLayers = maxLayers := toInt_eq
  rw [getScreenshareLayers]
  dsimp only
  by_cases hnegative : min (toInt maxLayers) kMaxScreenshareSimulcastLayers < 0
  · rw [if_pos hnegative]
    rw [kMaxScreenshareSimulcastLayers] at hnegative
    have hmany : api.kMaxSimulcastStreams < maxLayers := by omega
    exact And.intro hmany (Or.inr (Or.inl rfl))
  by_cases hzero : min (toInt maxLayers) kMaxScreenshareSimulcastLayers = 0
  · rw [if_neg hnegative, if_pos hzero]
    rw [kMaxScreenshareSimulcastLayers] at hzero
    have hmany : api.kMaxSimulcastStreams < maxLayers := by omega
    exact And.intro hmany (Or.inr (Or.inr rfl))
  rw [if_neg hnegative, if_neg hzero]
  have hlayers : Ends (fun layers => 1 ≤ layers.length ∧ layers.length ≤ maxLayers)
      (TooMany api maxLayers)
      (if min (toInt maxLayers) kMaxScreenshareSimulcastLayers = kMaxScreenshareSimulcastLayers then
        (api.defaultNumberOfTemporalLayers 1 true).map fun numTemporalLayers =>
          [lowerScreenshareLayer arguments width height,
            api.upperScreenshareLayer arguments width height numTemporalLayers]
      else .ok [lowerScreenshareLayer arguments width height]) := by
    split_ifs with htwo
    · rw [kMaxScreenshareSimulcastLayers] at htwo
      have htwoLayers : 2 ≤ maxLayers := by omega
      have htemporal := @ends_defaultNumberOfTemporalLayers api 1 maxLayers (by omega) true
      exact Ends.map htemporal fun numTemporalLayers _ => And.intro (by simp) htwoLayers
    · exact And.intro (by simp) hcount
  refine hlayers.bind fun layers hlength => ?_
  refine Ends.imp (ends_withBitratePriority hlength.1 _) fun result hresult => ?_
  rw [hresult.1]
  exact hlength

/-- At least one layer, at most as many as there may be, and as many as are needed. -/
theorem ends_getSimulcastConfig {bitratePriority : ℚ} {maxQp : ℤ}
    {isScreenshareWithConferenceMode temporalLayersSupported : Bool} (hwidth : 0 ≤ width)
    (hheight : 0 ≤ height) (hcount : 1 ≤ maxLayers) (hneed : needLayers ≤ maxLayers) :
    Ends (fun layers => 1 ≤ layers.length ∧ layers.length ≤ maxLayers ∧
        (isScreenshareWithConferenceMode = false → needLayers ≤ layers.length))
      (EndsEarly api maxLayers (width * height))
      (api.getSimulcastConfig needLayers maxLayers width height bitratePriority maxQp
        isScreenshareWithConferenceMode temporalLayersSupported) := by
  rw [getSimulcastConfig]
  cases isScreenshareWithConferenceMode with
  | true =>
      have hscreen := (@ends_getScreenshareLayers api
        ⟨bitratePriority, maxQp, temporalLayersSupported, api.vp8BaseHeavyTl3RateAllocation⟩
        width height maxLayers hcount).tolerate (TooMany.endsEarly (width * height))
      refine hscreen.imp fun layers hlength => ?_
      exact ⟨hlength.1, hlength.2, fun hfalse => absurd hfalse (by simp)⟩
  | false =>
      have hlimit := @ends_limitSimulcastLayerCount api width height needLayers maxLayers
        (by positivity) hcount hneed
      refine hlimit.bind fun limited hlimited => ?_
      obtain ⟨hone, hmax, hkept⟩ := hlimited
      obtain ⟨hpixels, htotal⟩ := @normalizedPixels_le api width height hwidth hheight limited
      have hlayers := (@ends_getNormalSimulcastLayers api
        ⟨bitratePriority, maxQp, temporalLayersSupported, api.vp8BaseHeavyTl3RateAllocation⟩
        width height limited hone hwidth hheight).tolerate (EndsEarly.mono hmax hpixels htotal)
      refine hlayers.imp fun layers hlength => ?_
      rw [hlength.1]
      exact ⟨hone, hmax, fun _ => hkept⟩

end SimulcastApi

/-! ## The factory -/

section Factory

variable {api : SimulcastApi} {factory : StreamFactoryConfig} {config : VideoEncoderConfig}
variable {width height : ℤ} {layers : List VideoStream}

/-- The first active layer among those that there are streams for. -/
def firstActiveLayer (config : VideoEncoderConfig) : Option ℕ :=
  (config.simulcastLayers.take config.numberOfStreams).findIdx? (·.active)

/-- The layers up to the first active one are required, and there is a stream for each. -/
theorem exists_findRequiredActiveLayers
    (hconfigured : config.numberOfStreams ≤ config.simulcastLayers.length) :
    ∃ required, findRequiredActiveLayers config = .ok required ∧
      required ≤ config.numberOfStreams ∧
      ∀ index, firstActiveLayer config = some index → index < required := by
  rw [findRequiredActiveLayers, firstActiveLayer]
  cases hfirst : (config.simulcastLayers.take config.numberOfStreams).findIdx? (·.active) with
  | none => exact ⟨0, by simp [hconfigured], Nat.zero_le _, by simp⟩
  | some index =>
      obtain ⟨hindex, -⟩ := List.findIdx?_eq_some_iff_getElem.mp hfirst
      rw [List.length_take] at hindex
      refine ⟨index + 1, rfl, by omega, fun other hother => ?_⟩
      rw [Option.some.inj hother]
      exact Nat.lt_succ_self other

/-- What holds of no layers, and with one more overridden layer, holds of the result of the
loop. -/
@[elab_as_elim]
theorem overrideLayers_induction {arguments : OverrideArguments}
    {motive : ∀ (layers : List VideoStream) (configs : List SimulcastLayer)
      (overridden : List VideoStream),
      overrideLayers api arguments layers configs = .ok overridden → Prop}
    (nil : ∀ configs, motive [] configs [] rfl)
    (cons : ∀ layer layers config configs overridden
      (hrest : overrideLayers api arguments layers configs = .ok overridden),
      motive layers configs overridden hrest →
        motive (layer :: layers) (config :: configs)
          (overrideLayer api arguments config layer :: overridden)
          (by rw [overrideLayers, hrest]; rfl))
    {layers : List VideoStream} {configs : List SimulcastLayer} {overridden : List VideoStream}
    (hoverride : overrideLayers api arguments layers configs = .ok overridden) :
    motive layers configs overridden hoverride := by
  induction layers generalizing configs overridden with
  | nil =>
      obtain rfl := Except.ok.inj hoverride
      exact nil configs
  | cons layer layers ih =>
      cases configs with
      | nil => exact absurd hoverride (by simp [overrideLayers])
      | cons config configs =>
          rw [overrideLayers] at hoverride
          obtain ⟨rest, hrest, rfl⟩ := except_map_eq_ok_iff.mp hoverride
          exact cons layer layers config configs rest hrest (ih hrest)

theorem exists_overrideLayers (arguments : OverrideArguments) {configs : List SimulcastLayer}
    (hlength : layers.length ≤ configs.length) :
    ∃ overridden, overrideLayers api arguments layers configs = .ok overridden ∧
      overridden.length = layers.length := by
  induction layers generalizing configs with
  | nil => exact ⟨[], by rw [overrideLayers], rfl⟩
  | cons layer layers ih =>
      cases configs with
      | nil => exact absurd hlength (by simp)
      | cons first configs =>
          obtain ⟨overridden, hrest, hsame⟩ := ih (Nat.le_of_succ_le_succ hlength)
          refine ⟨overrideLayer api arguments first layer :: overridden, ?_, ?_⟩
          · rw [overrideLayers, hrest]
            rfl
          · rw [List.length_cons, List.length_cons, hsame]

theorem length_boostLastLayer (factory : StreamFactoryConfig) (config : VideoEncoderConfig)
    (layers : List VideoStream) : (boostLastLayer factory config layers).length =
      layers.length := by
  rw [boostLastLayer]
  split_ifs
  · rw [boostMaxSimulcastLayer]
    split
    · rfl
    · rename_i last hlast
      have hne : layers ≠ [] := by
        rintro rfl
        exact absurd hlast (by simp)
      have hpos := List.length_pos_iff.mpr hne
      dsimp only
      split_ifs
      · rw [List.length_append, List.length_dropLast, List.length_singleton]
        omega
      · rfl
  · rfl

/-- With a layer there is a first one in the order of the bitrates. -/
theorem exists_lowerFirstActive (hlayers : 1 ≤ layers.length) :
    ∃ lowered, lowerFirstActive layers = .ok lowered := by
  rw [lowerFirstActive]
  split
  · rename_i hempty
    have hlength := congrArg List.length hempty
    rw [bitrateOrder, List.length_insertionSort, List.length_range, List.length_nil] at hlength
    omega
  · split_ifs
    · exact ⟨_, rfl⟩
    · dsimp only
      split <;> exact ⟨_, rfl⟩

theorem exists_withExperimentalMinBitrate (experimentalMinBitrate : Option ℤ)
    (hlayers : 1 ≤ layers.length) :
    ∃ changed, withExperimentalMinBitrate experimentalMinBitrate layers = .ok changed ∧
      changed.length = layers.length := by
  cases layers with
  | nil => exact absurd hlayers (by simp)
  | cons first others =>
      cases experimentalMinBitrate with
      | none => exact ⟨first :: others, rfl, rfl⟩
      | some minBitrate => exact ⟨_, rfl, rfl⟩

/-- The layers that the factory starts from. -/
theorem ends_simulcastLayersFor (hstreams : 1 ≤ config.numberOfStreams)
    (hconfigured : config.numberOfStreams ≤ config.simulcastLayers.length) (hwidth : 0 ≤ width)
    (hheight : 0 ≤ height) :
    Ends (fun layers => 1 ≤ layers.length ∧ layers.length ≤ config.numberOfStreams ∧
        ((factory.isScreencast && factory.conferenceMode) = false →
          ∀ index, firstActiveLayer config = some index → index < layers.length))
      (EndsEarly api config.numberOfStreams (width * height))
      (simulcastLayersFor api factory config width height) := by
  obtain ⟨required, hrequired, hneed, hactive⟩ := exists_findRequiredActiveLayers hconfigured
  rw [simulcastLayersFor, hrequired]
  refine Ends.imp (SimulcastApi.ends_getSimulcastConfig hwidth hheight hstreams hneed)
    fun layers hlayers => ?_
  refine ⟨hlayers.1, hlayers.2.1, fun hscreen index hindex => ?_⟩
  exact lt_of_lt_of_le (hactive index hindex) (hlayers.2.2 hscreen)

/-- What is done with the layers comes to its end when each has its element. -/
theorem exists_createStreams (hone : 1 ≤ layers.length)
    (hconfigured : layers.length ≤ config.simulcastLayers.length)
    (hlayers : simulcastLayersFor api factory config width height = .ok layers)
    (experimentalMinBitrate : Option ℤ) :
    ∃ final, createSimulcastOrConferenceModeScreenshareStreams api factory config width height
      experimentalMinBitrate = .ok final := by
  obtain ⟨changed, hchanged, hsame⟩ := exists_withExperimentalMinBitrate experimentalMinBitrate
    hone
  obtain ⟨overridden, hoverridden, hoverriddenLength⟩ := @exists_overrideLayers api changed
    (overrideArguments api factory config width height) config.simulcastLayers (by omega)
  obtain ⟨lowered, hlowered⟩ := @exists_lowerFirstActive
    (boostLastLayer factory config overridden) (by rw [length_boostLastLayer]; omega)
  refine ⟨lowered, ?_⟩
  rw [createSimulcastOrConferenceModeScreenshareStreams, hlayers]
  simp only [hchanged, hoverridden, hlowered, Except.bind]

/-- The call comes to its end, or there are too many streams or pixels. -/
theorem ends_createStreams (hstreams : 1 ≤ config.numberOfStreams)
    (hconfigured : config.numberOfStreams ≤ config.simulcastLayers.length) (hwidth : 0 ≤ width)
    (hheight : 0 ≤ height) (experimentalMinBitrate : Option ℤ) :
    Ends (fun _ => True) (EndsEarly api config.numberOfStreams (width * height))
      (createSimulcastOrConferenceModeScreenshareStreams api factory config width height
        experimentalMinBitrate) := by
  have hends := @ends_simulcastLayersFor api factory config width height hstreams hconfigured
    hwidth hheight
  cases hlayers : simulcastLayersFor api factory config width height with
  | error fault =>
      rw [hlayers] at hends
      rw [createSimulcastOrConferenceModeScreenshareStreams, hlayers]
      exact hends
  | ok layers =>
      rw [hlayers] at hends
      obtain ⟨final, hfinal⟩ := exists_createStreams hends.1 (hends.2.1.trans hconfigured)
        hlayers experimentalMinBitrate
      rw [hfinal]
      trivial

/-- The layers stay within what is configured.  A number of pixels that is no `int` is an error of
its own, which ends the call before the table is searched. -/
structure InBounds (api : SimulcastApi) (factory : StreamFactoryConfig)
    (config : VideoEncoderConfig) (width height : ℤ) (experimentalMinBitrate : Option ℤ) :
    Prop where
  counted : ∀ layers, simulcastLayersFor api factory config width height = .ok layers →
    1 ≤ layers.length ∧ layers.length ≤ config.numberOfStreams
  active : (factory.isScreencast && factory.conferenceMode) = false → ∀ layers index,
    simulcastLayersFor api factory config width height = .ok layers →
      firstActiveLayer config = some index → index < layers.length
  read : createSimulcastOrConferenceModeScreenshareStreams api factory config width height
    experimentalMinBitrate ≠ .error .configOutOfRange
  reached : createSimulcastOrConferenceModeScreenshareStreams api factory config width height
    experimentalMinBitrate ≠ .error .notReached
  returns : config.numberOfStreams ≤ api.kMaxSimulcastStreams → Fits 32 (width * height) →
    ∃ layers, createSimulcastOrConferenceModeScreenshareStreams api factory config width height
      experimentalMinBitrate = .ok layers

/-- The layers are at least one and at most as many as there are streams, the first active one is
among them, and every element of `simulcast_layers` that is read exists. -/
theorem createStreams_inBounds (hstreams : 1 ≤ config.numberOfStreams)
    (hconfigured : config.numberOfStreams ≤ config.simulcastLayers.length) (hwidth : 0 ≤ width)
    (hheight : 0 ≤ height) (experimentalMinBitrate : Option ℤ) :
    InBounds api factory config width height experimentalMinBitrate := by
  have hlayers := @ends_simulcastLayersFor api factory config width height hstreams hconfigured
    hwidth hheight
  have hcreate := @ends_createStreams api factory config width height hstreams hconfigured
    hwidth hheight experimentalMinBitrate
  refine ⟨fun layers hresult => ?_, fun hscreen layers index hresult => ?_, fun hfault => ?_,
    fun hfault => ?_, fun hmax hfits => ?_⟩
  · rw [hresult] at hlayers
    exact ⟨hlayers.1, hlayers.2.1⟩
  · rw [hresult] at hlayers
    exact hlayers.2.2 hscreen index
  · rw [hfault] at hcreate
    exact absurd (EndsEarly.cause hcreate) (by simp)
  · rw [hfault] at hcreate
    exact absurd (EndsEarly.cause hcreate) (by simp)
  · obtain ⟨layers, hresult, -⟩ := hcreate.exists_ok (not_endsEarly hmax hfits)
    exact ⟨layers, hresult⟩

/-- Two layers of VP8, of which the first is inactive. -/
def twoLayerConfig (first second : SimulcastLayer) : VideoEncoderConfig where
  numberOfStreams := 2
  simulcastLayers := [first, second]

def vp8Factory : StreamFactoryConfig where
  codecName := kVp8CodecName
  maxQp := 56
  isScreencast := false
  conferenceMode := false

theorem createStreams_inBounds_two :
    InBounds webrtcSimulcastApi vp8Factory (twoLayerConfig { active := false } {}) 320 180 none :=
  createStreams_inBounds (by decide) (by decide) (by decide) (by decide) none

end Factory

end PeerConnection.Engine
