import PeerConnection.Core.Sorting
import PeerConnection.Engine.LayerLimits

/-!
# The order of the bitrates of a layer

A layer is in order when its target bitrate lies between its minimum and its maximum.  Each of the
configured values keeps that, and so does the boost of the last layer; the minimum that the first
active layer takes over from an inactive one may exceed its target.
-/

namespace PeerConnection.Engine

open PeerConnection.Runs
open PeerConnection.Sorting

/-- What the order is about. -/
structure LayerBitrates where
  active : Bool
  minimum : ℤ
  target : ℤ
  maximum : ℤ
  deriving DecidableEq, Repr

namespace LayerBitrates

def Ordered (bitrates : LayerBitrates) : Prop :=
  bitrates.minimum ≤ bitrates.target ∧ bitrates.target ≤ bitrates.maximum

instance (bitrates : LayerBitrates) : Decidable (Ordered bitrates) :=
  inferInstanceAs (Decidable (_ ∧ _))

end LayerBitrates

/-- The bitrates of a layer. -/
def VideoStream.bitrates (layer : VideoStream) : LayerBitrates where
  active := layer.active
  minimum := layer.minBitrateBps
  target := layer.targetBitrateBps
  maximum := layer.maxBitrateBps

/-! ## Configured bitrates -/

/-- The configuration leaves the target open and has no minimum above the maximum. -/
structure Consistent (config : SimulcastLayer) : Prop where
  target : config.targetBitrateBps ≤ 0
  range : 0 < config.minBitrateBps → 0 < config.maxBitrateBps →
    config.minBitrateBps ≤ config.maxBitrateBps

/-- The configured maximum, and what is left of the one that was calculated. -/
def configuredMaximum (config : SimulcastLayer) (layer : VideoStream) : ℤ :=
  if 0 < config.maxBitrateBps then config.maxBitrateBps
  else if 0 < config.minBitrateBps then max layer.maxBitrateBps config.minBitrateBps
  else layer.maxBitrateBps

def configuredMinimum (config : SimulcastLayer) (layer : VideoStream) : ℤ :=
  if 0 < config.minBitrateBps then config.minBitrateBps
  else if 0 < config.maxBitrateBps then min layer.minBitrateBps config.maxBitrateBps
  else layer.minBitrateBps

/-- Three quarters of a configured maximum, where that is not below the other bitrates. -/
def configuredTarget (config : SimulcastLayer) (layer : VideoStream) : ℤ :=
  let share := config.maxBitrateBps * 3 / 4
  if 0 < config.maxBitrateBps then
    if 0 < config.minBitrateBps then
      if share < config.minBitrateBps then config.maxBitrateBps else share
    else min (max layer.targetBitrateBps share) config.maxBitrateBps
  else if 0 < config.minBitrateBps then max layer.targetBitrateBps config.minBitrateBps
  else layer.targetBitrateBps

def configuredBitrates (config : SimulcastLayer) (layer : VideoStream) : LayerBitrates where
  active := config.active
  minimum := configuredMinimum config layer
  target := configuredTarget config layer
  maximum := configuredMaximum config layer

section Configured

variable {api : SimulcastApi} {config : SimulcastLayer} {layer : VideoStream}

theorem configuredBitrates_ordered (hconsistent : Consistent config)
    (hordered : layer.bitrates.Ordered) : (configuredBitrates config layer).Ordered := by
  obtain ⟨hmin, hmax⟩ := hordered
  have hrange := hconsistent.range
  simp only [VideoStream.bitrates] at hmin hmax
  simp only [LayerBitrates.Ordered, configuredBitrates, configuredMinimum, configuredTarget,
    configuredMaximum]
  constructor <;> split_ifs <;> omega

/-- The overridden layer has the configured bitrates. -/
theorem bitrates_overrideLayer (arguments : OverrideArguments) (hconsistent : Consistent config)
    (hordered : layer.bitrates.Ordered) :
    (overrideLayer api arguments config layer).bitrates = configuredBitrates config layer := by
  obtain ⟨hmin, hmax⟩ := hordered
  have htarget := hconsistent.target
  simp only [VideoStream.bitrates] at hmin hmax
  have hunset : ¬ config.targetBitrateBps > 0 := by omega
  have hshare : 0 < config.maxBitrateBps →
      (config.maxBitrateBps * 3).tdiv 4 = config.maxBitrateBps * 3 / 4 := fun hpos =>
    Int.tdiv_eq_ediv_of_nonneg (by omega)
  rw [configuredBitrates, configuredMinimum, configuredTarget, configuredMaximum, overrideLayer,
    overrideBitrates]
  by_cases hconfigMin : 0 < config.minBitrateBps
  · by_cases hconfigMax : 0 < config.maxBitrateBps
    · simp [overrideFormat, VideoStream.bitrates, hconfigMin, hconfigMax, htarget,
        hshare hconfigMax]
    · simp [overrideFormat, VideoStream.bitrates, hconfigMin, hconfigMax, hunset]
  · by_cases hconfigMax : 0 < config.maxBitrateBps
    · -- the target is not below the minimum, so the outer maximum makes no difference
      simp [overrideFormat, VideoStream.bitrates, hconfigMin, hconfigMax, hunset, htarget,
        hshare hconfigMax]
      omega
    · simp [overrideFormat, VideoStream.bitrates, hconfigMin, hconfigMax, hunset]

end Configured

/-! ## The boost of the last layer -/

/-- The last layer gets what the targets of the others leave of the bitrate, if that is more. -/
def raiseLast (limit : ℤ) (bitrates : List LayerBitrates) : List LayerBitrates :=
  bitrates.dropLast ++ bitrates.getLast?.toList.map fun last =>
    { last with maximum := max last.maximum (limit - (bitrates.dropLast.map (·.target)).sum) }

/-- The bitrates that the configuration and the calculated layers lead to. -/
def expectedBitrates (config : VideoEncoderConfig) (base : List VideoStream) :
    List LayerBitrates :=
  let configured := List.zipWith configuredBitrates config.simulcastLayers base
  if (config.simulcastLayers[base.length - 1]?).any (·.maxBitrateBps ≤ 0) &&
      0 < config.maxBitrateBps then
    raiseLast config.maxBitrateBps configured
  else configured

theorem raiseLast_ordered {limit : ℤ} {bitrates : List LayerBitrates}
    (hordered : ∀ layer ∈ bitrates, layer.Ordered) :
    ∀ layer ∈ raiseLast limit bitrates, layer.Ordered := by
  intro layer hlayer
  rcases List.mem_append.mp hlayer with hfront | hlast
  · exact hordered layer (List.mem_of_mem_dropLast hfront)
  · obtain ⟨last, hmem, rfl⟩ := List.mem_map.mp hlast
    rw [Option.mem_toList] at hmem
    obtain ⟨hmin, hmax⟩ := hordered last (List.mem_of_getLast? hmem)
    exact ⟨hmin, hmax.trans (le_max_left _ _)⟩

theorem bitrates_boostMaxSimulcastLayer (limit : ℤ) (layers : List VideoStream) :
    (boostMaxSimulcastLayer limit layers).map VideoStream.bitrates =
      raiseLast limit (layers.map VideoStream.bitrates) := by
  rcases List.eq_nil_or_concat' layers with rfl | ⟨front, last, rfl⟩
  · rfl
  have htargets : ((front.map VideoStream.bitrates).map (·.target)).sum =
      (front.map (·.targetBitrateBps)).sum := by
    rw [List.map_map]
    rfl
  simp only [boostMaxSimulcastLayer, getTotalMaxBitrate, raiseLast, List.getLast?_concat,
    List.dropLast_concat, List.map_append, List.map_cons, List.map_nil, Option.toList_some,
    htargets]
  split_ifs with hless
  · have hraised : last.maxBitrateBps +
        (limit - ((front.map (·.targetBitrateBps)).sum + last.maxBitrateBps)) =
          max last.maxBitrateBps (limit - (front.map (·.targetBitrateBps)).sum) := by
      omega
    simp [VideoStream.bitrates, hraised]
  · have hkept : max last.maxBitrateBps (limit - (front.map (·.targetBitrateBps)).sum) =
        last.maxBitrateBps := by
      omega
    simp [VideoStream.bitrates, hkept]

section Layers

variable {api : SimulcastApi} {factory : StreamFactoryConfig} {config : VideoEncoderConfig}
variable {base overridden layers : List VideoStream}

/-- The loop over the layers leaves the configured bitrates. -/
theorem bitrates_overrideLayers (arguments : OverrideArguments) {configs : List SimulcastLayer}
    (hconsistent : ∀ layer ∈ configs, Consistent layer)
    (hordered : ∀ layer ∈ base, layer.bitrates.Ordered)
    (hoverride : overrideLayers api arguments base configs = .ok overridden) :
    overridden.map VideoStream.bitrates = List.zipWith configuredBitrates configs base := by
  induction hoverride using overrideLayers_induction with
  | nil configs =>
      rw [List.zipWith_nil_right]
      rfl
  | cons layer base first configs rest hrest ih =>
      rw [List.map_cons, List.zipWith_cons_cons,
        bitrates_overrideLayer arguments (hconsistent first List.mem_cons_self)
          (hordered layer List.mem_cons_self),
        ih (fun other hother => hconsistent other (List.mem_cons_of_mem _ hother))
          (fun other hother => hordered other (List.mem_cons_of_mem _ hother))]

theorem configured_ordered {configs : List SimulcastLayer}
    (hconsistent : ∀ layer ∈ configs, Consistent layer)
    (hordered : ∀ layer ∈ base, layer.bitrates.Ordered) :
    ∀ bitrates ∈ List.zipWith configuredBitrates configs base, bitrates.Ordered := by
  intro bitrates hmem
  rw [← List.map_uncurry_zip_eq_zipWith, List.mem_map] at hmem
  obtain ⟨⟨first, layer⟩, hpair, rfl⟩ := hmem
  obtain ⟨hfirst, hlayer⟩ := List.of_mem_zip hpair
  exact configuredBitrates_ordered (hconsistent first hfirst) (hordered layer hlayer)

/-- Up to the sort, the layers have the expected bitrates, in order. -/
theorem bitrates_boostLastLayer (hscreen : factory.isScreencast = false)
    (hlength : overridden.length = base.length) (hbase : 1 ≤ base.length)
    (hconfigured : base.length ≤ config.simulcastLayers.length)
    (hbitrates : overridden.map VideoStream.bitrates =
      List.zipWith configuredBitrates config.simulcastLayers base) :
    (boostLastLayer factory config overridden).map VideoStream.bitrates =
      expectedBitrates config base := by
  have hlast := List.getElem?_eq_getElem
    (show base.length - 1 < config.simulcastLayers.length by omega)
  simp only [boostLastLayer, expectedBitrates, hscreen, hlength, hlast, Option.any_some]
  by_cases hmax : config.simulcastLayers[base.length - 1].maxBitrateBps ≤ 0
  · by_cases hlimit : 0 < config.maxBitrateBps
    · simp [hmax, hlimit, hbitrates, bitrates_boostMaxSimulcastLayer]
    · simp [hlimit, hbitrates]
  · simp [hmax, hbitrates]

/-! ## The sort by the maximum -/

/-- A layer that passes the test, before every other one in the order of the maxima; the first of
several with the lowest maximum. -/
structure ComesFirst (test : LayerBitrates → Bool) (bitrates : List LayerBitrates) (index : ℕ)
    (first : LayerBitrates) : Prop where
  found : bitrates[index]? = some first
  passes : test first = true
  before : ∀ (other : ℕ) layer, bitrates[other]? = some layer → test layer = true →
    first.maximum < layer.maximum ∨ first.maximum = layer.maximum ∧ index ≤ other

theorem ComesFirst.unique {test : LayerBitrates → Bool} {bitrates : List LayerBitrates}
    {index other : ℕ} {first layer : LayerBitrates} (hfirst : ComesFirst test bitrates index first)
    (hother : ComesFirst test bitrates other layer) : index = other ∧ first = layer := by
  have hindex : index = other := by
    have hright := hfirst.before other layer hother.found hother.passes
    have hleft := hother.before index first hfirst.found hfirst.passes
    omega
  refine ⟨hindex, ?_⟩
  have hfound := hfirst.found
  rw [hindex, hother.found] at hfound
  exact (Option.some.inj hfound).symm

/-- The minimum of the lowest layer, if that is inactive, fits under the target of the first
active one. -/
def LowestFits (bitrates : List LayerBitrates) : Prop :=
  ∀ lowest index low active, ComesFirst (fun _ => true) bitrates lowest low →
    low.active = false → ComesFirst (·.active) bitrates index active →
      low.minimum ≤ active.target

theorem mem_bitrateOrder {index : ℕ} : index ∈ bitrateOrder layers ↔ index < layers.length := by
  rw [bitrateOrder, List.mem_insertionSort, List.mem_range]

theorem getD_of_getElem?_map_bitrates {index : ℕ} {layer : LayerBitrates}
    (hlayer : (layers.map VideoStream.bitrates)[index]? = some layer) :
    index < layers.length ∧ (layers.getD index {}).bitrates = layer := by
  rw [List.getElem?_map, Option.map_eq_some_iff] at hlayer
  obtain ⟨stream, hstream, rfl⟩ := hlayer
  rw [List.getD_eq_getElem?_getD, hstream]
  exact ⟨(List.getElem?_eq_some_iff.mp hstream).1, rfl⟩

/-- What is found in the order of the bitrates comes first. -/
theorem comesFirst_of_find? {test : LayerBitrates → Bool} {index : ℕ}
    (hfind : (bitrateOrder layers).find? (fun index => test (layers.getD index {}).bitrates) =
      some index) :
    ComesFirst test (layers.map VideoStream.bitrates) index (layers.getD index {}).bitrates := by
  have hordered : (bitrateOrder layers).Pairwise
      (Before (fun index => (layers.getD index {}).maxBitrateBps) (· < ·)) :=
    pairwise_insertionSort_stable (fun _ _ => Iff.rfl) List.pairwise_lt_range
  have hindex := mem_bitrateOrder.mp (List.mem_of_find?_eq_some hfind)
  have hpasses := List.find?_some hfind
  refine ⟨?_, hpasses, fun other layer hlayer htest => ?_⟩
  · rw [List.getElem?_map, List.getElem?_eq_getElem hindex, List.getD_eq_getElem _ _ hindex]
    rfl
  · obtain ⟨hother, rfl⟩ := getD_of_getElem?_map_bitrates hlayer
    have hbefore := before_of_find?_eq_some hordered hfind (mem_bitrateOrder.mpr hother) htest
    rcases hbefore with rfl | hless | ⟨hsame, hless⟩
    · exact Or.inr ⟨rfl, le_refl _⟩
    · exact Or.inl hless
    · exact Or.inr ⟨hsame, hless.le⟩

/-- What is not found in the order of the bitrates is not there. -/
theorem not_found_of_find? {test : LayerBitrates → Bool} {index : ℕ} {layer : LayerBitrates}
    (hfind : (bitrateOrder layers).find? (fun index => test (layers.getD index {}).bitrates) =
      none) (htest : test layer = true) :
    (layers.map VideoStream.bitrates)[index]? ≠ some layer := by
  intro hfound
  obtain ⟨hindex, hlayer⟩ := getD_of_getElem?_map_bitrates hfound
  have hfails := List.find?_eq_none.mp hfind index (mem_bitrateOrder.mpr hindex)
  rw [hlayer] at hfails
  exact hfails htest

/-- A layer that takes over a minimum is in order when that is not above its target. -/
theorem modify_ordered_iff {index : ℕ} (minimum : ℤ) (hindex : index < layers.length)
    (hordered : ∀ layer ∈ layers, layer.bitrates.Ordered) :
    (∀ layer ∈ layers.modify index ({ · with minBitrateBps := minimum }),
        layer.bitrates.Ordered) ↔
      minimum ≤ (layers.getD index {}).bitrates.target := by
  have hget := List.getD_eq_getElem layers {} hindex
  have htarget := (hordered _ (List.getElem_mem hindex)).2
  constructor
  · intro hall
    have hmodified : (layers.modify index ({ · with minBitrateBps := minimum }))[index]? =
        some { layers[index] with minBitrateBps := minimum } := by
      rw [List.getElem?_modify_eq, List.getElem?_eq_getElem hindex]
      rfl
    rw [hget]
    exact (hall _ (List.mem_of_getElem? hmodified)).1
  · intro hfits layer hlayer
    rw [hget] at hfits
    obtain ⟨other, hother, rfl⟩ := List.mem_iff_getElem.mp hlayer
    rw [List.getElem_modify]
    split_ifs with hsame
    · subst hsame
      exact ⟨hfits, htarget⟩
    · exact hordered _ (List.getElem_mem _)

/-- The last step keeps the order exactly when the minimum of the lowest layer fits. -/
theorem lowerFirstActive_ordered_iff (hlayers : 1 ≤ layers.length)
    (hordered : ∀ layer ∈ layers, layer.bitrates.Ordered) :
    ∃ lowered, lowerFirstActive layers = .ok lowered ∧
      ((∀ layer ∈ lowered, layer.bitrates.Ordered) ↔
        LowestFits (layers.map VideoStream.bitrates)) := by
  have hfirst : ∀ lowest others, bitrateOrder layers = lowest :: others →
      ComesFirst (fun _ => true) (layers.map VideoStream.bitrates) lowest
        (layers.getD lowest {}).bitrates := by
    intro lowest others horder
    apply comesFirst_of_find?
    rw [horder, List.find?_cons_of_pos rfl]
  rw [lowerFirstActive]
  split
  · rename_i hempty
    have hzero := mem_bitrateOrder.mpr (show 0 < layers.length by omega)
    rw [hempty] at hzero
    exact absurd hzero (by simp)
  · rename_i lowest others horder
    have hlowest := hfirst lowest others horder
    split_ifs with hactive
    · refine ⟨layers, rfl, iff_of_true hordered fun other index low active hlow hinactive => ?_⟩
      obtain ⟨-, rfl⟩ := hlow.unique hlowest
      exact absurd hactive (by simpa [VideoStream.bitrates] using hinactive)
    · rw [← horder]
      dsimp only
      split
      · rename_i hnone
        refine ⟨layers, rfl, iff_of_true hordered fun other index low active _ _ hpresent => ?_⟩
        exact absurd hpresent.found (not_found_of_find? hnone hpresent.passes)
      · rename_i index hfind
        have hpresent := @comesFirst_of_find? layers (·.active) index hfind
        have hindex := mem_bitrateOrder.mp (List.mem_of_find?_eq_some hfind)
        refine ⟨_, rfl, (modify_ordered_iff _ hindex hordered).trans ?_⟩
        constructor
        · intro hfits other first low active hlow _ hother
          obtain ⟨-, rfl⟩ := hlow.unique hlowest
          obtain ⟨-, rfl⟩ := hother.unique hpresent
          exact hfits
        · intro hall
          exact hall lowest index _ _ hlowest (by simpa [VideoStream.bitrates] using hactive)
            hpresent

/-! ## The layers of the factory -/

/-- With consistent configurations the layers are returned, and they are all in order if and only
if the minimum of an inactive lowest layer fits under the target of the first active one. -/
theorem createStreams_ordered_iff {width height : ℤ} (hstreams : 1 ≤ config.numberOfStreams)
    (hconfigured : config.numberOfStreams ≤ config.simulcastLayers.length)
    (hscreen : factory.isScreencast = false) (hwidth : 1 ≤ width) (hheight : 1 ≤ height)
    (hconsistent : ∀ layer ∈ config.simulcastLayers, Consistent layer)
    (hbase : simulcastLayersFor api factory config width height = .ok base)
    (hordered : ∀ layer ∈ base, layer.bitrates.Ordered) :
    ∃ layers, createSimulcastOrConferenceModeScreenshareStreams api factory config width height
        none = .ok layers ∧
      ((∀ layer ∈ layers, layer.bitrates.Ordered) ↔
        LowestFits (expectedBitrates config base)) := by
  have hcount := @ends_simulcastLayersFor api factory config width height hstreams hconfigured
    (by omega) (by omega)
  rw [hbase] at hcount
  obtain ⟨hone, hmax, -⟩ := hcount
  obtain ⟨overridden, hoverride, hlength⟩ := @exists_overrideLayers api base
    (overrideArguments api factory config width height) config.simulcastLayers (by omega)
  have hbitrates := bitrates_overrideLayers _ hconsistent hordered hoverride
  have hexpected := bitrates_boostLastLayer hscreen hlength hone (by omega) hbitrates
  have hall : ∀ layer ∈ boostLastLayer factory config overridden, layer.bitrates.Ordered := by
    intro layer hlayer
    have hmem := List.mem_map_of_mem (f := VideoStream.bitrates) hlayer
    rw [hexpected, expectedBitrates] at hmem
    have hconfigs := configured_ordered hconsistent hordered
    split_ifs at hmem
    · exact raiseLast_ordered hconfigs _ hmem
    · exact hconfigs _ hmem
  obtain ⟨layers, hlowered, hiff⟩ := lowerFirstActive_ordered_iff
    (by rw [length_boostLastLayer]; omega) hall
  refine ⟨layers, ?_, by rw [hiff, hexpected]⟩
  rw [createSimulcastOrConferenceModeScreenshareStreams, hbase]
  simp only [Except.bind, withExperimentalMinBitrate, hoverride, hlowered]

end Layers

/-- An inactive layer with this minimum below an active one. -/
def inactiveBelow (minBitrateBps : ℤ) : VideoEncoderConfig :=
  twoLayerConfig { active := false, minBitrateBps := minBitrateBps, maxBitrateBps := 100 }
    { minBitrateBps := 10, maxBitrateBps := 104 }

theorem consistent_inactiveBelow {minBitrateBps : ℤ} (hmax : minBitrateBps ≤ 100) :
    ∀ layer ∈ (inactiveBelow minBitrateBps).simulcastLayers, Consistent layer := by
  intro layer hlayer
  simp only [inactiveBelow, twoLayerConfig, List.mem_cons, List.not_mem_nil, or_false] at hlayer
  rcases hlayer with rfl | rfl
  · exact ⟨by norm_num, fun _ _ => hmax⟩
  · exact ⟨by decide, fun _ _ => by decide⟩

theorem createStreams_ordered_low :
    ∃ base layers, simulcastLayersFor webrtcSimulcastApi vp8Factory (inactiveBelow 50) 640 360 =
        .ok base ∧
      createSimulcastOrConferenceModeScreenshareStreams webrtcSimulcastApi vp8Factory
        (inactiveBelow 50) 640 360 none = .ok layers ∧
      ((∀ layer ∈ layers, layer.bitrates.Ordered) ↔
        LowestFits (expectedBitrates (inactiveBelow 50) base)) := by
  have hreaches : reaches (fun base => base.all fun layer => layer.bitrates.Ordered)
      (some (simulcastLayersFor webrtcSimulcastApi vp8Factory (inactiveBelow 50) 640 360)) =
        true := by
    decide +kernel
  obtain ⟨base, hbase, hordered⟩ := exists_of_reaches _ hreaches
  obtain ⟨layers, hlayers, hiff⟩ := createStreams_ordered_iff (by decide) (by decide) rfl
    (by decide) (by decide) (consistent_inactiveBelow (by decide)) (Option.some.inj hbase)
    (by simpa using hordered)
  exact ⟨base, layers, Option.some.inj hbase, hlayers, hiff⟩

/-- The minimum of the inactive layer is above the target of the active one. -/
theorem createStreams_ordered_fails :
    (∀ layer ∈ (inactiveBelow 100).simulcastLayers, Consistent layer) ∧
      ∃ base layers, simulcastLayersFor webrtcSimulcastApi vp8Factory (inactiveBelow 100) 640
          360 = .ok base ∧
        (∀ layer ∈ base, layer.bitrates.Ordered) ∧
        createSimulcastOrConferenceModeScreenshareStreams webrtcSimulcastApi vp8Factory
          (inactiveBelow 100) 640 360 none = .ok layers ∧
        ¬ ∀ layer ∈ layers, layer.bitrates.Ordered := by
  have hbaseReaches : reaches (fun base => base.all fun layer => layer.bitrates.Ordered)
      (some (simulcastLayersFor webrtcSimulcastApi vp8Factory (inactiveBelow 100) 640 360)) =
        true := by
    decide +kernel
  have hreaches : reaches (fun layers => layers.any fun layer => ¬ layer.bitrates.Ordered)
      (some (createSimulcastOrConferenceModeScreenshareStreams webrtcSimulcastApi vp8Factory
        (inactiveBelow 100) 640 360 none)) = true := by
    decide +kernel
  obtain ⟨base, hbase, hordered⟩ := exists_of_reaches _ hbaseReaches
  obtain ⟨layers, hlayers, hbad⟩ := exists_of_reaches _ hreaches
  exact ⟨consistent_inactiveBelow (by decide), base, layers, Option.some.inj hbase,
    by simpa using hordered, Option.some.inj hlayers, by simpa using hbad⟩

end PeerConnection.Engine
