import PeerConnection.Engine.BitrateArithmetic

/-!
# Bitrates in range

The layers that are calculated have bitrates that are not negative, and so have the overridden
ones.  Then the loop over the layers and the boost stay in the range of an `int` exactly when the
configured maxima are small enough.
-/

namespace PeerConnection.Engine

open PeerConnection.Text
open PeerConnection.Runs
open PeerConnection.CheckedInts
open PeerConnection.Engine.WebRtcVideoSendStream
open PeerConnection.Engine.WebRtcVideoChannel (vp8Codec limitedVp8Codec)

/-! ## The layers that are calculated -/

/-- What is relied on of the floating-point operations: a part of a whole lies between 0 and 1, and
a bitrate times a factor has the sign that it should. -/
structure RoundsSensibly (api : SimulcastApi) : Prop where
  quotient : ∀ part whole, 0 ≤ part → part ≤ whole → 0 < whole →
    0 ≤ api.quotient part whole ∧ api.quotient part whole ≤ 1
  times : ∀ bitrate factor, 0 ≤ bitrate → 0 ≤ factor → 0 ≤ api.times bitrate factor

/-- Neither the target nor the maximum is negative. -/
structure NonnegativeBitrates (layer : VideoStream) : Prop where
  target : 0 ≤ layer.targetBitrateBps
  maximum : 0 ≤ layer.maxBitrateBps

theorem minBitrate_getSimulcastFormats (lowres : Bool) :
    ∀ format ∈ getSimulcastFormats lowres, 0 ≤ format.minBitrate := by
  cases lowres <;> decide

section Calculated

variable {api : SimulcastApi} {arguments : LayerArguments} {factory : StreamFactoryConfig}
variable {config : VideoEncoderConfig} {width height : ℤ} {layers : List VideoStream}

/-- The rate lies between 0 and 1, as the number of pixels lies between those of the rows. -/
theorem minBitrate_interpolateSimulcastFormat (hrounds : RoundsSensibly api)
    {maxRoundupRate : Option ℚ} {lowres : Bool} {format : SimulcastFormat}
    (hformat : api.interpolateSimulcastFormat width height maxRoundupRate lowres = .ok format) :
    0 ≤ format.minBitrate := by
  have hrows := minBitrate_getSimulcastFormats lowres
  rw [SimulcastApi.interpolateSimulcastFormat] at hformat
  obtain ⟨index, hindex, hrow⟩ := except_bind_eq_ok_iff.mp hformat
  obtain ⟨-, hfound⟩ := findSimulcastFormatIndex_eq_ok_iff.mp hindex
  obtain ⟨hlength, hfits, hbefore⟩ := List.findIdx?_eq_some_iff_getElem.mp hfound
  cases index with
  | zero =>
      simp only [List.getElem?_eq_getElem hlength] at hrow
      obtain rfl := Except.ok.inj hrow
      exact hrows _ (List.getElem_mem hlength)
  | succ above =>
      have habove : above < (getSimulcastFormats lowres).length := by omega
      simp only [List.getElem?_eq_getElem hlength, List.getElem?_eq_getElem habove] at hrow
      obtain rfl := Except.ok.inj hrow
      have hdown := of_decide_eq_true hfits
      have hup := hbefore above (Nat.lt_succ_self above)
      rw [decide_eq_true_eq, not_le] at hup
      set up := (getSimulcastFormats lowres)[above]
      set down := (getSimulcastFormats lowres)[above + 1]
      obtain ⟨hlow, hhigh⟩ := hrounds.quotient
        ((up.width * up.height - width * height : ℤ) : ℚ)
        ((up.width * up.height - down.width * down.height : ℤ) : ℚ)
        (by exact_mod_cast (by omega : (0 : ℤ) ≤ up.width * up.height - width * height))
        (by exact_mod_cast (by omega : up.width * up.height - width * height ≤
          up.width * up.height - down.width * down.height))
        (by exact_mod_cast (by omega : (0 : ℤ) < up.width * up.height -
          down.width * down.height))
      exact add_nonneg
        (hrounds.times _ _ (hrows _ (List.getElem_mem habove)) (sub_nonneg.mpr hhigh))
        (hrounds.times _ _ (hrows _ (List.getElem_mem hlength)) hlow)

/-- Target and maximum are not below the minimum. -/
theorem nonnegative_fillLayer (hrounds : RoundsSensibly api) {s : ℕ} {layer filled : VideoStream}
    (hfill : api.fillLayer arguments s width height layer = .ok filled) :
    NonnegativeBitrates filled := by
  rw [SimulcastApi.fillLayer] at hfill
  obtain ⟨configured, -, hfill⟩ := except_bind_eq_ok_iff.mp hfill
  obtain ⟨maxBitrate, -, hfill⟩ := except_bind_eq_ok_iff.mp hfill
  obtain ⟨targetBitrate, -, hfill⟩ := except_bind_eq_ok_iff.mp hfill
  obtain ⟨temporal, -, hfill⟩ := except_bind_eq_ok_iff.mp hfill
  obtain ⟨minBitrate, hmin, rfl⟩ := except_map_eq_ok_iff.mp hfill
  rw [SimulcastApi.findSimulcastMinBitrate] at hmin
  obtain ⟨format, hformat, rfl⟩ := except_map_eq_ok_iff.mp hmin
  have hnonneg := minBitrate_interpolateSimulcastFormat hrounds hformat
  exact ⟨hnonneg.trans (le_max_left _ _), hnonneg.trans (le_max_left _ _)⟩

/-- The layers from an index on have been filled. -/
def NonnegativeFrom (first : ℕ) (layers : List VideoStream) : Prop :=
  ∀ index layer, first ≤ index → layers[index]? = some layer → NonnegativeBitrates layer

theorem nonnegativeFrom_layerBody (hrounds : RoundsSensibly api) {loop next : LayerLoop}
    (hfilled : NonnegativeFrom (loop.s + 1) loop.layers)
    (hbody : api.layerBody arguments loop = .ok next) :
    next.s = loop.s ∧ NonnegativeFrom next.s next.layers := by
  rw [SimulcastApi.layerBody] at hbody
  split at hbody
  · exact absurd hbody (by simp)
  · obtain ⟨filled, hfill, rfl⟩ := except_map_eq_ok_iff.mp hbody
    refine ⟨rfl, fun index layer hfirst hlayer => ?_⟩
    rw [List.getElem?_set] at hlayer
    split_ifs at hlayer with hindex hin
    · obtain rfl := Option.some.inj hlayer
      exact nonnegative_fillLayer hrounds hfill
    · dsimp only at hfirst
      exact hfilled index layer (by omega) hlayer

theorem nonnegativeFrom_layerLoopStart {layerCount : ℕ} (hcount : layerCount < 2 ^ 64) :
    NonnegativeFrom ((api.layerLoopStart layerCount width height).s + 1)
      (api.layerLoopStart layerCount width height).layers := by
  intro index layer hfirst hlayer
  have hindex := (List.getElem?_eq_some_iff.mp hlayer).1
  simp only [SimulcastApi.layerLoopStart, List.length_replicate] at hfirst hindex
  have hdecrement : decrement layerCount = layerCount - 1 :=
    SimulcastApi.decrement_of_pos (by omega) hcount
  omega

/-- The loop fills the layers down to the first one. -/
theorem nonnegative_getNormalSimulcastLayers (hrounds : RoundsSensibly api) {layerCount : ℕ}
    (hcount : layerCount < 2 ^ 64)
    (hlayers : api.getNormalSimulcastLayers arguments layerCount width height = .ok layers) :
    ∀ layer ∈ layers, NonnegativeBitrates layer := by
  rw [SimulcastApi.getNormalSimulcastLayers] at hlayers
  obtain ⟨final, hloop, hpriority⟩ := except_bind_eq_ok_iff.mp hlayers
  have hbody : ∀ loop next : LayerLoop,
      NonnegativeFrom (loop.s + 1) loop.layers ∧ loop.s < 2 ^ 64 →
        api.layerBody arguments loop = .ok next →
          NonnegativeFrom next.s next.layers ∧
            (decide (next.s = 0) = false →
              NonnegativeFrom (decrement next.s + 1) next.layers ∧ decrement next.s < 2 ^ 64) := by
    intro loop next hinv hnext
    obtain ⟨hs, hfilled⟩ := nonnegativeFrom_layerBody hrounds hinv.1 hnext
    refine ⟨hfilled, fun hmore => ?_⟩
    have hpos : next.s ≠ 0 := of_decide_eq_false hmore
    have hbound : next.s < 2 ^ 64 := hs ▸ hinv.2
    rw [SimulcastApi.decrement_of_pos hpos hbound, Nat.sub_add_cancel (Nat.pos_of_ne_zero hpos)]
    exact ⟨hfilled, by omega⟩
  have hstart := @nonnegativeFrom_layerLoopStart api width height layerCount hcount
  have hsmall : (api.layerLoopStart layerCount width height).s < 2 ^ 64 := by
    rw [SimulcastApi.layerLoopStart]
    exact Nat.mod_lt _ (by norm_num)
  obtain ⟨hfinal, hdone⟩ := @of_loopUntil _ _ (api.layerBody arguments)
    (fun loop : LayerLoop => decide (loop.s = 0))
    (fun loop => { loop with s := decrement loop.s }) SimulcastFault.notEnded
    (fun loop => NonnegativeFrom (loop.s + 1) loop.layers ∧ loop.s < 2 ^ 64)
    (fun loop => NonnegativeFrom loop.s loop.layers) hbody _ _ _
    (And.intro hstart hsmall) hloop
  have hall : ∀ layer ∈ final.layers, NonnegativeBitrates layer := by
    intro layer hlayer
    obtain ⟨index, hindex⟩ := List.mem_iff_getElem?.mp hlayer
    have hs : final.s = 0 := of_decide_eq_true hdone
    exact hfinal index layer (by omega) hindex
  cases hfilled : final.layers with
  | nil =>
      rw [hfilled] at hpriority
      exact absurd hpriority (by simp [SimulcastApi.withBitratePriority])
  | cons first others =>
      rw [hfilled] at hpriority hall
      obtain rfl := Except.ok.inj hpriority
      obtain ⟨hfirst, hothers⟩ := List.forall_mem_cons.mp hall
      exact List.forall_mem_cons.mpr ⟨⟨hfirst.target, hfirst.maximum⟩, hothers⟩

theorem limitSimulcastLayerCount_le {needLayers layerCount limited : ℕ}
    (hlimit : api.limitSimulcastLayerCount width height needLayers layerCount = .ok limited) :
    limited ≤ layerCount := by
  rw [SimulcastApi.limitSimulcastLayerCount] at hlimit
  split_ifs at hlimit
  · exact (Except.ok.inj hlimit).ge
  · obtain ⟨format, -, rfl⟩ := except_map_eq_ok_iff.mp hlimit
    dsimp only
    split_ifs <;> omega

/-- The layers of a camera that the factory starts from. -/
theorem nonnegative_simulcastLayersFor (hrounds : RoundsSensibly api)
    (hcount : config.numberOfStreams < 2 ^ 64) (hscreen : factory.isScreencast = false)
    (hlayers : simulcastLayersFor api factory config width height = .ok layers) :
    ∀ layer ∈ layers, NonnegativeBitrates layer := by
  rw [simulcastLayersFor] at hlayers
  obtain ⟨required, -, hconfig⟩ := except_bind_eq_ok_iff.mp hlayers
  rw [SimulcastApi.getSimulcastConfig, hscreen, Bool.false_and] at hconfig
  simp only [Bool.false_eq_true, if_false] at hconfig
  obtain ⟨limited, hlimit, hnormal⟩ := except_bind_eq_ok_iff.mp hconfig
  have hle := limitSimulcastLayerCount_le hlimit
  exact nonnegative_getNormalSimulcastLayers hrounds (by omega) hnormal

theorem nonnegative_withExperimentalMinBitrate {experimentalMinBitrate : Option ℤ}
    {changed : List VideoStream} (hlayers : ∀ layer ∈ layers, NonnegativeBitrates layer)
    (hchanged : withExperimentalMinBitrate experimentalMinBitrate layers = .ok changed) :
    ∀ layer ∈ changed, NonnegativeBitrates layer := by
  cases experimentalMinBitrate with
  | none =>
      obtain rfl := Except.ok.inj hchanged
      exact hlayers
  | some minBitrate =>
      cases layers with
      | nil => exact absurd hchanged (by simp [withExperimentalMinBitrate])
      | cons first others =>
          obtain rfl := Except.ok.inj hchanged
          obtain ⟨hfirst, hothers⟩ := List.forall_mem_cons.mp hlayers
          exact List.forall_mem_cons.mpr ⟨⟨hfirst.target, hfirst.maximum⟩, hothers⟩

end Calculated

/-! ## The loop over the layers -/

/-- The largest bitrate three times of which are an `int`. -/
def kMaxSharedBps : ℤ := 715827882

/-- The target that an overridden layer gets. -/
def overriddenTarget (config : SimulcastLayer) (layer : VideoStream) : ℤ :=
  let share := config.maxBitrateBps * 3 / 4
  if 0 < config.maxBitrateBps then
    if 0 < config.minBitrateBps then
      if share < config.minBitrateBps then config.maxBitrateBps else share
    else
      max (min (max layer.targetBitrateBps share) config.maxBitrateBps)
        (min layer.minBitrateBps config.maxBitrateBps)
  else if 0 < config.minBitrateBps then max layer.targetBitrateBps config.minBitrateBps
  else layer.targetBitrateBps

section Overridden

variable {api : SimulcastApi} {arguments : OverrideArguments} {config : SimulcastLayer}
variable {layer : VideoStream} {base overridden : List VideoStream}
variable {configs : List SimulcastLayer}

theorem overrideBitrates_target (htarget : config.targetBitrateBps ≤ 0) :
    (overrideBitrates config layer).targetBitrateBps = overriddenTarget config layer := by
  have hshare : 0 < config.maxBitrateBps →
      (config.maxBitrateBps * 3).tdiv 4 = config.maxBitrateBps * 3 / 4 := fun hpos =>
    Int.tdiv_eq_ediv_of_nonneg (by omega)
  have hunset : ¬ config.targetBitrateBps > 0 := by omega
  rw [overrideBitrates, overriddenTarget]
  by_cases hmin : 0 < config.minBitrateBps
  · by_cases hmax : 0 < config.maxBitrateBps
    · simp [hmin, hmax, htarget, hshare hmax]
    · simp [hmin, hmax, hunset]
  · by_cases hmax : 0 < config.maxBitrateBps
    · simp [hmin, hmax, hunset, htarget, hshare hmax]
    · simp [hmin, hmax, hunset]

theorem overrideBitrates_maximum :
    (overrideBitrates config layer).maxBitrateBps = configuredMaximum config layer := by
  rw [overrideBitrates, configuredMaximum]
  by_cases hmin : 0 < config.minBitrateBps
  · by_cases hmax : 0 < config.maxBitrateBps
    · simp [hmin, hmax]
    · simp [hmin, hmax]
  · by_cases hmax : 0 < config.maxBitrateBps
    · simp [hmin, hmax]
    · simp [hmin, hmax]

theorem overriddenTarget_nonneg (hlayer : NonnegativeBitrates layer) :
    0 ≤ overriddenTarget config layer := by
  have htarget := hlayer.target
  rw [overriddenTarget]
  split_ifs <;> omega

theorem configuredMaximum_nonneg (hlayer : NonnegativeBitrates layer) :
    0 ≤ configuredMaximum config layer := by
  have hmaximum := hlayer.maximum
  rw [configuredMaximum]
  split_ifs <;> omega

theorem fits_shared_iff {bitrateBps : ℤ} (hpos : 0 < bitrateBps) :
    Fits 32 (bitrateBps * 3) ↔ bitrateBps ≤ kMaxSharedBps := by
  rw [Fits, kMaxSharedBps]
  omega

theorem overrideBitrates_of_small (hsmall : config.maxBitrateBps ≤ kMaxSharedBps) :
    OnInts.overrideBitrates config layer = .ok (overrideBitrates config layer) := by
  rw [OnInts.overrideBitrates]
  split_ifs with hshares
  · rw [checked, if_pos ((fits_shared_iff hshares.1).mpr hsmall)]
    rfl
  · rfl

theorem overrideBitrates_overflow (htarget : config.targetBitrateBps ≤ 0)
    (hlarge : kMaxSharedBps < config.maxBitrateBps) :
    OnInts.overrideBitrates config layer = .error .overflow := by
  have hpos : 0 < config.maxBitrateBps := lt_trans (by decide) hlarge
  rw [OnInts.overrideBitrates, if_pos ⟨hpos, htarget⟩, checked,
    if_neg (by rw [fits_shared_iff hpos]; omega)]
  rfl

/-- With small maxima the loop does what it does on exact numbers. -/
theorem overrideLayers_eq
    (hsmall : ∀ config ∈ configs.take base.length, config.maxBitrateBps ≤ kMaxSharedBps) :
    OnInts.overrideLayers api arguments base configs =
      (overrideLayers api arguments base configs).mapError .fault := by
  induction base generalizing configs with
  | nil => rfl
  | cons layer base ih =>
      cases configs with
      | nil => rfl
      | cons config configs =>
          rw [List.length_cons, List.take_succ_cons, List.forall_mem_cons] at hsmall
          rw [OnInts.overrideLayers, overrideLayers, overrideBitrates_of_small hsmall.1,
            ih hsmall.2]
          cases overrideLayers api arguments base configs <;> rfl

/-- A maximum that is not small ends it. -/
theorem overrideLayers_overflow (hunset : ∀ config ∈ configs, config.targetBitrateBps ≤ 0)
    (hlarge : ¬ ∀ config ∈ configs.take base.length, config.maxBitrateBps ≤ kMaxSharedBps) :
    OnInts.overrideLayers api arguments base configs = .error .overflow := by
  induction base generalizing configs with
  | nil => exact absurd (by simp) hlarge
  | cons layer base ih =>
      cases configs with
      | nil => exact absurd (by simp) hlarge
      | cons config configs =>
          obtain ⟨hfirst, hothers⟩ := List.forall_mem_cons.mp hunset
          rw [List.length_cons, List.take_succ_cons, List.forall_mem_cons] at hlarge
          rw [OnInts.overrideLayers]
          by_cases hsmall : config.maxBitrateBps ≤ kMaxSharedBps
          · rw [overrideBitrates_of_small hsmall, ih hothers fun hrest => hlarge ⟨hsmall, hrest⟩]
            rfl
          · rw [overrideBitrates_overflow hfirst (not_le.mp hsmall)]
            rfl

/-- The bitrates of the overridden layers, in order. -/
theorem bitrates_of_overrideLayers (hunset : ∀ config ∈ configs, config.targetBitrateBps ≤ 0)
    (hoverride : overrideLayers api arguments base configs = .ok overridden) :
    overridden.map (·.targetBitrateBps) = List.zipWith overriddenTarget configs base ∧
      overridden.map (·.maxBitrateBps) = List.zipWith configuredMaximum configs base := by
  induction hoverride using overrideLayers_induction with
  | nil configs => exact ⟨by simp, by simp⟩
  | cons layer base config configs rest hrest ih =>
      obtain ⟨hfirst, hothers⟩ := List.forall_mem_cons.mp hunset
      obtain ⟨htargets, hmaxima⟩ := ih hothers
      rw [List.map_cons, List.map_cons, List.zipWith_cons_cons, List.zipWith_cons_cons,
        htargets, hmaxima, overrideLayer, overrideBitrates_target hfirst,
        overrideBitrates_maximum]
      exact ⟨rfl, rfl⟩

theorem length_le_of_overrideLayers
    (hoverride : overrideLayers api arguments base configs = .ok overridden) :
    base.length ≤ configs.length ∧ overridden.length = base.length := by
  induction hoverride using overrideLayers_induction with
  | nil configs => exact ⟨Nat.zero_le _, rfl⟩
  | cons layer base config configs rest hrest ih =>
      obtain ⟨hle, hsame⟩ := ih
      exact ⟨Nat.succ_le_succ hle, congrArg (· + 1) hsame⟩

theorem nonnegative_overrideLayers (hunset : ∀ config ∈ configs, config.targetBitrateBps ≤ 0)
    (hbase : ∀ layer ∈ base, NonnegativeBitrates layer)
    (hoverride : overrideLayers api arguments base configs = .ok overridden) :
    ∀ layer ∈ overridden, NonnegativeBitrates layer := by
  induction hoverride using overrideLayers_induction with
  | nil configs => simp
  | cons layer base config configs rest hrest ih =>
      obtain ⟨hfirst, hothers⟩ := List.forall_mem_cons.mp hunset
      obtain ⟨hlayer, hlayers⟩ := List.forall_mem_cons.mp hbase
      refine List.forall_mem_cons.mpr ⟨⟨?_, ?_⟩, ih hothers hlayers⟩
      · rw [overrideLayer, overrideBitrates_target hfirst]
        exact overriddenTarget_nonneg ⟨hlayer.target, hlayer.maximum⟩
      · rw [overrideLayer, overrideBitrates_maximum]
        exact configuredMaximum_nonneg ⟨hlayer.target, hlayer.maximum⟩

end Overridden

/-! ## The sum for the boost -/

def kMaxInt : ℤ := 2147483647

/-- The targets up to the last layer, and the maximum of that. -/
def totalBitrate (configs : List SimulcastLayer) (base : List VideoStream) : ℤ :=
  (List.zipWith overriddenTarget configs base).dropLast.sum +
    (List.zipWith configuredMaximum configs base).getLast?.getD 0

/-- When the last of so many layers is boosted. -/
structure Boosts (factory : StreamFactoryConfig) (config : VideoEncoderConfig) (count : ℕ) :
    Prop where
  camera : factory.isScreencast = false
  limited : 0 < config.maxBitrateBps
  unset : ∀ last ∈ config.simulcastLayers[count - 1]?, last.maxBitrateBps ≤ 0

section Boost

variable {factory : StreamFactoryConfig} {config : VideoEncoderConfig} {maxBitrate : ℤ}
variable {layers : List VideoStream}

theorem getTotalMaxBitrate_eq (layers : List VideoStream) :
    getTotalMaxBitrate layers = (layers.map (·.targetBitrateBps)).dropLast.sum +
      (layers.map (·.maxBitrateBps)).getLast?.getD 0 := by
  rcases List.eq_nil_or_concat' layers with rfl | ⟨front, last, rfl⟩
  · rfl
  · simp [getTotalMaxBitrate]

theorem onInts_getTotalMaxBitrate_iff (hlayers : ∀ layer ∈ layers, NonnegativeBitrates layer)
    {total : ℤ} :
    OnInts.getTotalMaxBitrate layers = some total ↔
      total = getTotalMaxBitrate layers ∧ total ≤ kMaxInt := by
  rcases List.eq_nil_or_concat' layers with rfl | ⟨front, last, rfl⟩
  · simp only [OnInts.getTotalMaxBitrate, getTotalMaxBitrate, List.getLast?_nil, Option.some.injEq,
      kMaxInt]
    omega
  · rw [OnInts.getTotalMaxBitrate, getTotalMaxBitrate, List.getLast?_concat, List.dropLast_concat]
    dsimp only
    have hvalues : ∀ value ∈ front.map (·.targetBitrateBps) ++ [last.maxBitrateBps],
        0 ≤ value := by
      intro value hvalue
      rcases List.mem_append.mp hvalue with hfront | hlast
      · obtain ⟨layer, hlayer, rfl⟩ := List.mem_map.mp hfront
        exact (hlayers layer (List.mem_append_left _ hlayer)).target
      · obtain rfl := List.mem_singleton.mp hlast
        exact (hlayers last (by simp)).maximum
    have hnonneg := List.sum_nonneg hvalues
    rw [List.sum_append, List.sum_singleton] at hnonneg
    constructor
    · intro hsum
      have hexact := eq_of_addAll hsum
      have hfits := fits_of_addAll (fits_zero 32) hsum
      rw [List.sum_append, List.sum_singleton, zero_add] at hexact
      exact ⟨hexact, Int.le_of_lt_add_one hfits.2⟩
    · rintro ⟨rfl, hsmall⟩
      rw [addAll_eq_some (le_refl 0) hvalues, List.sum_append, List.sum_singleton, zero_add]
      rw [List.sum_append, List.sum_singleton, zero_add, Fits]
      rw [kMaxInt] at hsmall
      omega

theorem targets_nonneg_of_total (hlayers : ∀ layer ∈ layers, NonnegativeBitrates layer)
    {last : VideoStream} (hlast : layers.getLast? = some last) :
    0 ≤ last.maxBitrateBps ∧ last.maxBitrateBps ≤ getTotalMaxBitrate layers := by
  obtain ⟨front, rfl⟩ := List.getLast?_eq_some_iff.mp hlast
  rw [getTotalMaxBitrate, List.getLast?_concat, List.dropLast_concat]
  have hsum : 0 ≤ (front.map (·.targetBitrateBps)).sum := by
    apply List.sum_nonneg
    intro value hvalue
    obtain ⟨layer, hlayer, rfl⟩ := List.mem_map.mp hvalue
    exact (hlayers layer (List.mem_append_left _ hlayer)).target
  exact ⟨(hlayers last (by simp)).maximum, by dsimp only; omega⟩

/-- The boost is computed when the sum is an `int`, and is then the exact one. -/
theorem onInts_boostMaxSimulcastLayer_iff (hlimit : Fits 32 maxBitrate)
    (hlayers : ∀ layer ∈ layers, NonnegativeBitrates layer) {boosted : List VideoStream} :
    OnInts.boostMaxSimulcastLayer maxBitrate layers = some boosted ↔
      getTotalMaxBitrate layers ≤ kMaxInt ∧ boosted = boostMaxSimulcastLayer maxBitrate layers := by
  rw [OnInts.boostMaxSimulcastLayer, boostMaxSimulcastLayer]
  cases hlast : layers.getLast? with
  | none =>
      obtain rfl := List.getLast?_eq_none_iff.mp hlast
      simp [getTotalMaxBitrate, kMaxInt, eq_comm]
  | some last =>
      obtain ⟨hmaximum, htotal⟩ := targets_nonneg_of_total hlayers hlast
      dsimp only
      rw [Option.bind_eq_some_iff]
      simp only [onInts_getTotalMaxBitrate_iff hlayers]
      have hraised : getTotalMaxBitrate layers < maxBitrate → checked 32
          (last.maxBitrateBps + (maxBitrate - getTotalMaxBitrate layers)) =
            some (last.maxBitrateBps + (maxBitrate - getTotalMaxBitrate layers)) := by
        intro hless
        rw [checked, if_pos ((fits_zero 32).between hlimit (by omega) (by omega))]
      constructor
      · rintro ⟨total, ⟨rfl, hsmall⟩, hboosted⟩
        refine ⟨hsmall, ?_⟩
        split_ifs at hboosted ⊢ with hless
        · rw [hraised hless] at hboosted
          exact (Option.some.inj hboosted).symm
        · exact (Option.some.inj hboosted).symm
      · rintro ⟨hsmall, rfl⟩
        refine ⟨_, ⟨rfl, hsmall⟩, ?_⟩
        split_ifs with hless
        · rw [hraised hless]
          rfl
        · rfl

theorem boosts_iff (count : ℕ) :
    (!factory.isScreencast &&
        !(config.simulcastLayers[count - 1]?).any (fun last => last.maxBitrateBps > 0) &&
          decide (config.maxBitrateBps > 0)) = true ↔ Boosts factory config count := by
  rw [Bool.and_eq_true, Bool.and_eq_true, Bool.not_eq_true', Bool.not_eq_true',
    decide_eq_true_eq, Option.any_eq_false]
  constructor
  · rintro ⟨⟨hcamera, hunset⟩, hlimited⟩
    exact ⟨hcamera, hlimited, fun last hlast => by simpa using hunset last hlast⟩
  · rintro ⟨hcamera, hlimited, hunset⟩
    exact ⟨⟨hcamera, fun last hlast => by simpa using hunset last hlast⟩, hlimited⟩

theorem onInts_boostLastLayer_iff (hlimit : Fits 32 config.maxBitrateBps)
    (hlayers : factory.isScreencast = false → ∀ layer ∈ layers, NonnegativeBitrates layer)
    {boosted : List VideoStream} :
    OnInts.boostLastLayer factory config layers = some boosted ↔
      (Boosts factory config layers.length → getTotalMaxBitrate layers ≤ kMaxInt) ∧
        boosted = boostLastLayer factory config layers := by
  rw [OnInts.boostLastLayer, boostLastLayer]
  by_cases hboosts : Boosts factory config layers.length
  · have htest := (boosts_iff layers.length).mpr hboosts
    rw [if_pos htest, if_pos htest,
      onInts_boostMaxSimulcastLayer_iff hlimit (hlayers hboosts.camera)]
    simp [hboosts]
  · have htest := fun hall => hboosts ((boosts_iff layers.length).mp hall)
    rw [if_neg htest, if_neg htest, Option.some.injEq, eq_comm]
    simp [hboosts]

end Boost

/-! ## All bitrates -/

/-- What the loop over the layers starts from. -/
def baseLayers (api : SimulcastApi) (factory : StreamFactoryConfig) (config : VideoEncoderConfig)
    (width height : ℤ) (experimentalMinBitrate : Option ℤ) :
    Except SimulcastFault (List VideoStream) :=
  (simulcastLayersFor api factory config width height).bind
    (withExperimentalMinBitrate experimentalMinBitrate)

/-- The maxima of the layers, and their sum where it is formed, are small enough. -/
structure LayersSmall (factory : StreamFactoryConfig) (config : VideoEncoderConfig)
    (base : List VideoStream) : Prop where
  maxima : ∀ layer ∈ config.simulcastLayers.take base.length,
    layer.maxBitrateBps ≤ kMaxSharedBps
  total : base.length ≤ config.simulcastLayers.length → Boosts factory config base.length →
    totalBitrate config.simulcastLayers base ≤ kMaxInt

section Streams

variable {api : SimulcastApi} {factory : StreamFactoryConfig} {config : VideoEncoderConfig}
variable {width height : ℤ} {experimentalMinBitrate : Option ℤ} {base : List VideoStream}

theorem createStreams_bind (api : SimulcastApi) (factory : StreamFactoryConfig)
    (config : VideoEncoderConfig) (width height : ℤ) (experimentalMinBitrate : Option ℤ) :
    createSimulcastOrConferenceModeScreenshareStreams api factory config width height
        experimentalMinBitrate =
      (baseLayers api factory config width height experimentalMinBitrate).bind fun layers =>
      (overrideLayers api (overrideArguments api factory config width height) layers
        config.simulcastLayers).bind fun layers =>
      lowerFirstActive (boostLastLayer factory config layers) := by
  rw [createSimulcastOrConferenceModeScreenshareStreams, baseLayers]
  cases simulcastLayersFor api factory config width height <;> rfl

theorem nonnegative_baseLayers (hrounds : RoundsSensibly api)
    (hcount : config.numberOfStreams < 2 ^ 64)
    (hbase : baseLayers api factory config width height experimentalMinBitrate = .ok base)
    (hcamera : factory.isScreencast = false) : ∀ layer ∈ base, NonnegativeBitrates layer := by
  obtain ⟨layers, hlayers, hchanged⟩ := except_bind_eq_ok_iff.mp hbase
  exact nonnegative_withExperimentalMinBitrate
    (nonnegative_simulcastLayersFor hrounds hcount hcamera hlayers) hchanged

/-- What the boost does after the loop over the layers. -/
theorem boostLastLayer_of_overrideLayers (hrounds : RoundsSensibly api)
    (hcount : config.numberOfStreams < 2 ^ 64)
    (hunset : ∀ layer ∈ config.simulcastLayers, layer.targetBitrateBps ≤ 0)
    (hlimit : Fits 32 config.maxBitrateBps)
    (hbase : baseLayers api factory config width height experimentalMinBitrate = .ok base)
    {overridden boosted : List VideoStream}
    (hoverride : overrideLayers api (overrideArguments api factory config width height) base
      config.simulcastLayers = .ok overridden) :
    OnInts.boostLastLayer factory config overridden = some boosted ↔
      (Boosts factory config base.length →
        totalBitrate config.simulcastLayers base ≤ kMaxInt) ∧
        boosted = boostLastLayer factory config overridden := by
  have hnonneg := fun hcamera : factory.isScreencast = false =>
    nonnegative_overrideLayers hunset (nonnegative_baseLayers hrounds hcount hbase hcamera)
      hoverride
  obtain ⟨htargets, hmaxima⟩ := bitrates_of_overrideLayers hunset hoverride
  have htotal : getTotalMaxBitrate overridden = totalBitrate config.simulcastLayers base := by
    rw [getTotalMaxBitrate_eq, htargets, hmaxima, totalBitrate]
  rw [onInts_boostLastLayer_iff hlimit hnonneg, htotal,
    (length_le_of_overrideLayers hoverride).2]

/-- With small bitrates the layers are the exact ones. -/
theorem createStreams_of_small (hrounds : RoundsSensibly api)
    (hcount : config.numberOfStreams < 2 ^ 64)
    (hunset : ∀ layer ∈ config.simulcastLayers, layer.targetBitrateBps ≤ 0)
    (hlimit : Fits 32 config.maxBitrateBps)
    (hbase : baseLayers api factory config width height experimentalMinBitrate = .ok base)
    (hsmall : LayersSmall factory config base) :
    OnInts.createSimulcastOrConferenceModeScreenshareStreams api factory config width height
        experimentalMinBitrate =
      (createSimulcastOrConferenceModeScreenshareStreams api factory config width height
        experimentalMinBitrate).mapError .fault := by
  rw [createStreams_bind, hbase, OnInts.createSimulcastOrConferenceModeScreenshareStreams,
    ← baseLayers, hbase]
  simp only [Except.mapError, Except.bind, overrideLayers_eq hsmall.maxima]
  cases hoverride : overrideLayers api (overrideArguments api factory config width height) base
    config.simulcastLayers with
  | error reason => rfl
  | ok overridden =>
      have hboost := (boostLastLayer_of_overrideLayers hrounds hcount hunset hlimit hbase
        hoverride).mpr ⟨hsmall.total (length_le_of_overrideLayers hoverride).1, rfl⟩
      dsimp only
      rw [hboost]
      rfl

/-- With others the computation leaves the range. -/
theorem createStreams_overflow (hrounds : RoundsSensibly api)
    (hcount : config.numberOfStreams < 2 ^ 64)
    (hunset : ∀ layer ∈ config.simulcastLayers, layer.targetBitrateBps ≤ 0)
    (hlimit : Fits 32 config.maxBitrateBps)
    (hbase : baseLayers api factory config width height experimentalMinBitrate = .ok base)
    (hlarge : ¬ LayersSmall factory config base) :
    OnInts.createSimulcastOrConferenceModeScreenshareStreams api factory config width height
      experimentalMinBitrate = .error .overflow := by
  rw [OnInts.createSimulcastOrConferenceModeScreenshareStreams, ← baseLayers, hbase]
  by_cases hmaxima : ∀ layer ∈ config.simulcastLayers.take base.length,
      layer.maxBitrateBps ≤ kMaxSharedBps
  · have htotal : ¬ (base.length ≤ config.simulcastLayers.length →
        Boosts factory config base.length →
          totalBitrate config.simulcastLayers base ≤ kMaxInt) :=
      fun htotal => hlarge ⟨hmaxima, htotal⟩
    obtain ⟨hlength, hboosts⟩ := Classical.not_imp.mp htotal
    obtain ⟨overridden, hoverride, -⟩ := @exists_overrideLayers api base
      (overrideArguments api factory config width height) config.simulcastLayers hlength
    have hnone : OnInts.boostLastLayer factory config overridden = none := by
      rw [Option.eq_none_iff_forall_ne_some]
      intro boosted hboosted
      exact hboosts ((boostLastLayer_of_overrideLayers hrounds hcount hunset hlimit hbase
        hoverride).mp hboosted).1
    simp only [Except.mapError, Except.bind, overrideLayers_eq hmaxima, hoverride, hnone,
      orOverflow]
  · simp only [Except.mapError, Except.bind, overrideLayers_overflow hunset hmaxima]

theorem createStreams_fits_iff (hrounds : RoundsSensibly api)
    (hcount : config.numberOfStreams < 2 ^ 64)
    (hunset : ∀ layer ∈ config.simulcastLayers, layer.targetBitrateBps ≤ 0)
    (hlimit : Fits 32 config.maxBitrateBps) :
    OnInts.createSimulcastOrConferenceModeScreenshareStreams api factory config width height
        experimentalMinBitrate ≠ .error .overflow ↔
      ∀ base, baseLayers api factory config width height experimentalMinBitrate = .ok base →
        LayersSmall factory config base := by
  constructor
  · intro hfits base hbase
    by_contra hlarge
    exact hfits (createStreams_overflow hrounds hcount hunset hlimit hbase hlarge)
  · intro hsmall
    cases hbase : baseLayers api factory config width height experimentalMinBitrate with
    | error reason =>
        rw [OnInts.createSimulcastOrConferenceModeScreenshareStreams, ← baseLayers, hbase]
        simp [Except.mapError, Except.bind]
    | ok base =>
        rw [createStreams_of_small hrounds hcount hunset hlimit hbase (hsmall base hbase)]
        cases createSimulcastOrConferenceModeScreenshareStreams api factory config width height
          experimentalMinBitrate with
        | error reason => simp [Except.mapError]
        | ok layers => simp [Except.mapError]

end Streams

section Bitrates

variable (api : EngineApi) (simulcastApi : SimulcastApi) (stream : WebRtcVideoSendStream)
variable (first : RtpEncodingParameters) (codec : VideoCodec) (factory : StreamFactoryConfig)
variable (config : VideoEncoderConfig) (width height : ℤ) (experimentalMinBitrate : Option ℤ)

/-- Every computation stays within the range of an `int`, and every limit is one. -/
structure BitratesFit : Prop where
  constraints : ∃ constraints, OnInts.getBitrateConfigForCodec api codec = some constraints ∧
    Constrained constraints
  encoder : ∃ encoderConfig, OnInts.encoderConfigFor api stream first codec =
    some encoderConfig ∧ 0 ≤ encoderConfig.minTransmitBitrateBps ∧
      IsLimit encoderConfig.maxBitrateBps
  layers : OnInts.createSimulcastOrConferenceModeScreenshareStreams simulcastApi factory config
    width height experimentalMinBitrate ≠ .error .overflow

/-- The bitrates that are given are small enough, and those that count are not negative. -/
structure BitratesSmall : Prop where
  parameters : ∀ name ∈ bitrateParamNames, ∀ kbps, api.getParam codec name = some kbps →
    kbps ≤ kMaxKbps
  screencast : stream.parameters.options.isScreencast.getD false = true →
    0 ≤ screencastKbps stream ∧ screencastKbps stream ≤ kMaxKbps
  limit : ¬ LimitedByEncoding stream first → -1 ≤ stream.parameters.maxBitrateBps ∧
    (stream.parameters.maxBitrateBps = -1 → ∀ kbps,
      api.getParam codec kCodecParamMaxBitrate = some kbps → 0 ≤ kbps ∧ kbps ≤ kMaxKbps)
  layers : ∀ base,
    baseLayers simulcastApi factory config width height experimentalMinBitrate = .ok base →
      LayersSmall factory config base

variable {api simulcastApi stream first codec factory config width height experimentalMinBitrate}

/-- The bitrates stay in range exactly when the given ones are small enough. -/
theorem bitratesFit_iff (hrounds : RoundsSensibly simulcastApi)
    (hcount : config.numberOfStreams < 2 ^ 64) (hlimit : Fits 32 config.maxBitrateBps)
    (hlayers : config.simulcastLayers = stream.rtpParameters.encodings.map simulcastLayerOf) :
    BitratesFit api simulcastApi stream first codec factory config width height
        experimentalMinBitrate ↔
      BitratesSmall api simulcastApi stream first codec factory config width height
        experimentalMinBitrate := by
  have hunset : ∀ layer ∈ config.simulcastLayers, layer.targetBitrateBps ≤ 0 := by
    rw [hlayers]
    intro layer hlayer
    obtain ⟨encoding, -, rfl⟩ := List.mem_map.mp hlayer
    exact show (-1 : ℤ) ≤ 0 by decide
  have hstreams := @createStreams_fits_iff simulcastApi factory config width height
    experimentalMinBitrate hrounds hcount hunset hlimit
  constructor
  · rintro ⟨⟨constraints, hcodec, -⟩, hencoder, hfits⟩
    obtain ⟨hscreen, hmax⟩ := encoderConfig_limits_iff.mp hencoder
    exact ⟨exists_getBitrateConfigForCodec_iff.mp ⟨constraints, hcodec⟩, hscreen,
      isLimit_encoderMaxBitrate_iff.mp hmax, hstreams.mp hfits⟩
  · rintro ⟨hcodec, hscreen, hmax, hsmall⟩
    obtain ⟨constraints, hconstraints⟩ := exists_getBitrateConfigForCodec_iff.mpr hcodec
    refine ⟨⟨constraints, hconstraints, ?_⟩,
      encoderConfig_limits_iff.mpr ⟨hscreen, isLimit_encoderMaxBitrate_iff.mpr hmax⟩,
      hstreams.mpr hsmall⟩
    rw [getBitrateConfigForCodec_eq hconstraints]
    exact constrained_getBitrateConfigForCodec api codec

end Bitrates

theorem roundsSensibly_webrtcSimulcastApi : RoundsSensibly webrtcSimulcastApi where
  quotient part whole hpart hle hwhole :=
    ⟨div_nonneg hpart hwhole.le, (div_le_one hwhole).mpr hle⟩
  times bitrate factor hbitrate hfactor := by
    have hproduct : (0 : ℚ) ≤ bitrate * factor := mul_nonneg (by exact_mod_cast hbitrate) hfactor
    have hrounded : 0 ≤ ((bitrate : ℚ) * factor + 1 / 2).floor :=
      Rat.le_floor_iff.mpr (by push_cast; linarith)
    exact hrounded

/-- A stream of two encodings with these maxima. -/
def twoEncodings (low high : Option ℤ) : WebRtcVideoSendStream where
  ssrcs := [1, 2]
  ssrcGroups := []
  enableCpuOveruseDetection := false
  parameters := { config := {}, options := {}, maxBitrateBps := -1, codecSettings := none }
  rtpParameters := { encodings := [{ maxBitrateBps := low }, { maxBitrateBps := high }] }

def twoLimits (low high : Option ℤ) : VideoEncoderConfig where
  numberOfStreams := 2
  maxBitrateBps := 2000000
  simulcastLayers := (twoEncodings low high).rtpParameters.encodings.map simulcastLayerOf

theorem bitratesFit_iff_two :
    BitratesFit (webrtcEngineApi [vp8Format]) webrtcSimulcastApi (twoEncodings (some 300000) none)
        {} limitedVp8Codec vp8Factory (twoLimits (some 300000) none) 640 360 none ↔
      BitratesSmall (webrtcEngineApi [vp8Format]) webrtcSimulcastApi
        (twoEncodings (some 300000) none) {} limitedVp8Codec vp8Factory
        (twoLimits (some 300000) none) 640 360 none :=
  bitratesFit_iff roundsSensibly_webrtcSimulcastApi (by decide) (by decide) rfl

/-- VP8 with a limit of 3 Gbit/s. -/
def fastVp8Codec : VideoCodec :=
  { vp8Codec with
    params := (∅ : CodecParameterMap).insert kCodecParamMaxBitrate (decimal 3000000) }

/-- What is left of the codec by the call. -/
def isFast (outcome : WebRtcVideoChannel × Bool) : Bool :=
  outcome.2 && outcome.1.sendCodec.any (·.codec = fastVp8Codec)

/-- The codec is accepted and its limit leaves the range; so do the encodings and three times
their maximum. -/
theorem bitrates_overflow :
    (∃ outcome, (WebRtcVideoChannel.create {} {}).setSendParameters
        (webrtcEngineApi [vp8Format]) { codecs := [fastVp8Codec] } = .ok outcome ∧
        isFast outcome = true) ∧
      OnInts.getBitrateConfigForCodec (webrtcEngineApi [vp8Format]) fastVp8Codec = none ∧
      checkRtpParametersValues
        (twoEncodings (some 800000000) none).rtpParameters = none ∧
      OnInts.createSimulcastOrConferenceModeScreenshareStreams webrtcSimulcastApi vp8Factory
        (twoLimits (some 800000000) none) 640 360 none = .error .overflow := by
  refine ⟨?_, by decide +kernel, by decide +kernel, by decide +kernel⟩
  have hreaches : reaches isFast (some ((WebRtcVideoChannel.create {} {}).setSendParameters
      (webrtcEngineApi [vp8Format]) { codecs := [fastVp8Codec] })) = true := by
    decide +kernel
  obtain ⟨outcome, houtcome, hfast⟩ := exists_of_reaches _ hreaches
  exact ⟨outcome, Option.some.inj houtcome, hfast⟩

end PeerConnection.Engine
