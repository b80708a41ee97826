import PeerConnection.Core.CheckedInts
import PeerConnection.Engine.LayerBitrates
import PeerConnection.Engine.SendHistory

/-!
# Bitrates on 32-bit integers

Bitrates are `int`s.  Kilobits are multiplied by 1000, a configured maximum by 3 before it is
divided by 4, and the targets of the layers are added up.  Here each of these computations is
carried out on the machine, where an exact result outside of the range has no meaning.
-/

namespace PeerConnection.Engine

open PeerConnection.Text
open PeerConnection.Runs
open PeerConnection.CheckedInts
open PeerConnection.Engine.WebRtcVideoSendStream

/-- What ends a computation on `int`s. -/
inductive IntFault where
  | overflow
  | fault (reason : SimulcastFault)
  deriving DecidableEq

/-- A result that is not defined is an overflow. -/
def orOverflow {α : Type} : Option α → Except IntFault α
  | none => .error .overflow
  | some value => .ok value

/-! ## The computations -/

namespace OnInts

section Codec

variable (api : EngineApi)

def bitrateParam (codec : VideoCodec) (name : Bytes) (default : ℤ) : Option ℤ :=
  match api.getParam codec name with
  | some bitrateKbps =>
      if bitrateKbps > 0 then checked 32 (bitrateKbps * 1000) else some default
  | none => some default

def getBitrateConfigForCodec (codec : VideoCodec) : Option BitrateConstraints :=
  (bitrateParam api codec kCodecParamMinBitrate 0).bind fun minBitrateBps =>
  (bitrateParam api codec kCodecParamStartBitrate (-1)).bind fun startBitrateBps =>
  (bitrateParam api codec kCodecParamMaxBitrate (-1)).map fun maxBitrateBps =>
    { minBitrateBps := minBitrateBps
      startBitrateBps := startBitrateBps
      maxBitrateBps := maxBitrateBps }

def encoderMaxBitrate (codec : VideoCodec) (streamMaxBitrate : ℤ) : Option ℤ :=
  match api.getParam codec kCodecParamMaxBitrate with
  | some codecMaxBitrateKbps =>
      if streamMaxBitrate = -1 then checked 32 (codecMaxBitrateKbps * 1000)
      else some streamMaxBitrate
  | none => some streamMaxBitrate

/-- The other members are those of the configuration with exact bitrates. -/
def encoderConfigFor (stream : WebRtcVideoSendStream) (first : RtpEncodingParameters)
    (codec : VideoCodec) : Option VideoEncoderConfig :=
  let isScreencast := stream.parameters.options.isScreencast.getD false
  (if isScreencast then
      checked 32 (1000 * stream.parameters.options.screencastMinBitrateKbps.getD 0)
    else some 0).bind fun minTransmitBitrateBps =>
  (encoderMaxBitrate api codec (stream.streamMaxBitrate first)).map fun maxBitrateBps =>
    { WebRtcVideoSendStream.encoderConfigFor api stream first codec with
      minTransmitBitrateBps := minTransmitBitrateBps
      maxBitrateBps := maxBitrateBps }

end Codec

/-- Three times the configured maximum is the only number that is not one of the bitrates. -/
def overrideBitrates (config : SimulcastLayer) (layer : VideoStream) :
    Except IntFault VideoStream :=
  if config.maxBitrateBps > 0 ∧ config.targetBitrateBps ≤ 0 then
    (orOverflow (checked 32 (config.maxBitrateBps * 3))).map fun _ =>
      Engine.overrideBitrates config layer
  else .ok (Engine.overrideBitrates config layer)

def overrideLayers (api : SimulcastApi) (arguments : OverrideArguments) :
    List VideoStream → List SimulcastLayer → Except IntFault (List VideoStream)
  | [], _ => .ok []
  | _ :: _, [] => .error (.fault .configOutOfRange)
  | layer :: layers, config :: configs =>
      (overrideBitrates config (overrideFormat api arguments config layer)).bind fun overridden =>
        (overrideLayers api arguments layers configs).map (overridden :: ·)

def getTotalMaxBitrate (layers : List VideoStream) : Option ℤ :=
  match layers.getLast? with
  | none => some 0
  | some last => addAll 32 0 (layers.dropLast.map (·.targetBitrateBps) ++ [last.maxBitrateBps])

def boostMaxSimulcastLayer (maxBitrate : ℤ) (layers : List VideoStream) :
    Option (List VideoStream) :=
  match layers.getLast? with
  | none => some layers
  | some last =>
      (getTotalMaxBitrate layers).bind fun totalBitrate =>
        if totalBitrate < maxBitrate then
          (checked 32 (last.maxBitrateBps + (maxBitrate - totalBitrate))).map fun raised =>
            layers.dropLast ++ [{ last with maxBitrateBps := raised }]
        else some layers

section Factory

variable (api : SimulcastApi) (factory : StreamFactoryConfig) (config : VideoEncoderConfig)

def boostLastLayer (layers : List VideoStream) : Option (List VideoStream) :=
  let isHighestLayerMaxBitrateConfigured :=
    (config.simulcastLayers[layers.length - 1]?).any (·.maxBitrateBps > 0)
  if !factory.isScreencast && !isHighestLayerMaxBitrateConfigured && config.maxBitrateBps > 0 then
    boostMaxSimulcastLayer config.maxBitrateBps layers
  else some layers

def createSimulcastOrConferenceModeScreenshareStreams (width height : ℤ)
    (experimentalMinBitrate : Option ℤ) : Except IntFault (List VideoStream) :=
  (((simulcastLayersFor api factory config width height).bind
    (withExperimentalMinBitrate experimentalMinBitrate)).mapError .fault).bind fun layers =>
  (overrideLayers api (overrideArguments api factory config width height) layers
    config.simulcastLayers).bind fun layers =>
  (orOverflow (boostLastLayer factory config layers)).bind fun layers =>
  (lowerFirstActive layers).mapError .fault

end Factory

end OnInts

/-! ## Limits of a codec -/

/-- A limit is not negative, or it is unset. -/
def IsLimit (bitrateBps : ℤ) : Prop := 0 ≤ bitrateBps ∨ bitrateBps = -1

structure Constrained (constraints : BitrateConstraints) : Prop where
  minimum : 0 ≤ constraints.minBitrateBps
  start : IsLimit constraints.startBitrateBps
  maximum : IsLimit constraints.maxBitrateBps

/-- The largest number of kilobits whose bits are counted by an `int`. -/
def kMaxKbps : ℤ := 2147483

theorem fits_kbps_iff {kbps : ℤ} (hkbps : 0 ≤ kbps) : Fits 32 (kbps * 1000) ↔ kbps ≤ kMaxKbps := by
  rw [Fits, kMaxKbps]
  omega

section Codec

variable {api : EngineApi} {codec : VideoCodec} {name : Bytes} {default bitrate : ℤ}

theorem exists_bitrateParam_iff :
    (∃ bitrate, OnInts.bitrateParam api codec name default = some bitrate) ↔
      ∀ kbps, api.getParam codec name = some kbps → kbps ≤ kMaxKbps := by
  rw [OnInts.bitrateParam]
  cases api.getParam codec name with
  | none => simp
  | some kbps =>
      simp only [Option.some.injEq, forall_eq']
      split_ifs with hpos
      · rw [exists_checked_iff, fits_kbps_iff (by omega)]
      · exact iff_of_true ⟨default, rfl⟩ (by rw [kMaxKbps]; omega)

/-- A bitrate that is carried out is the exact one. -/
theorem bitrateParam_eq (hbitrate : OnInts.bitrateParam api codec name default = some bitrate) :
    bitrate = bitrateParam api codec name default := by
  rw [OnInts.bitrateParam] at hbitrate
  rw [bitrateParam]
  cases hparam : api.getParam codec name with
  | none =>
      rw [hparam] at hbitrate
      exact (Option.some.inj hbitrate).symm
  | some kbps =>
      rw [hparam] at hbitrate
      dsimp only at hbitrate ⊢
      split_ifs at hbitrate ⊢
      · exact (checked_eq_some_iff.mp hbitrate).2
      · exact (Option.some.inj hbitrate).symm

theorem bitrateParam_nonneg_or (api : EngineApi) (codec : VideoCodec) (name : Bytes)
    (default : ℤ) :
    0 ≤ bitrateParam api codec name default ∨ bitrateParam api codec name default = default := by
  rw [bitrateParam]
  split
  · split_ifs with hpos
    · exact Or.inl (by omega)
    · exact Or.inr rfl
  · exact Or.inr rfl

theorem constrained_getBitrateConfigForCodec (api : EngineApi) (codec : VideoCodec) :
    Constrained (getBitrateConfigForCodec api codec) where
  minimum := (bitrateParam_nonneg_or api codec kCodecParamMinBitrate 0).elim id Eq.ge
  start := bitrateParam_nonneg_or api codec kCodecParamStartBitrate (-1)
  maximum := bitrateParam_nonneg_or api codec kCodecParamMaxBitrate (-1)

/-- Constraints that are computed are the exact ones. -/
theorem getBitrateConfigForCodec_eq {constraints : BitrateConstraints}
    (hcodec : OnInts.getBitrateConfigForCodec api codec = some constraints) :
    constraints = getBitrateConfigForCodec api codec := by
  rw [OnInts.getBitrateConfigForCodec] at hcodec
  obtain ⟨minimum, hminimum, hcodec⟩ := Option.bind_eq_some_iff.mp hcodec
  obtain ⟨start, hstart, hcodec⟩ := Option.bind_eq_some_iff.mp hcodec
  obtain ⟨maximum, hmaximum, rfl⟩ := Option.map_eq_some_iff.mp hcodec
  rw [getBitrateConfigForCodec, ← bitrateParam_eq hminimum, ← bitrateParam_eq hstart,
    ← bitrateParam_eq hmaximum]

/-- The parameters of a codec that are bitrates. -/
def bitrateParamNames : List Bytes :=
  [kCodecParamMinBitrate, kCodecParamStartBitrate, kCodecParamMaxBitrate]

theorem exists_getBitrateConfigForCodec_iff :
    (∃ constraints, OnInts.getBitrateConfigForCodec api codec = some constraints) ↔
      ∀ name ∈ bitrateParamNames, ∀ kbps, api.getParam codec name = some kbps →
        kbps ≤ kMaxKbps := by
  rw [bitrateParamNames, List.forall_mem_cons, List.forall_mem_cons, List.forall_mem_singleton]
  constructor
  · rintro ⟨constraints, hcodec⟩
    rw [OnInts.getBitrateConfigForCodec] at hcodec
    obtain ⟨minimum, hminimum, hcodec⟩ := Option.bind_eq_some_iff.mp hcodec
    obtain ⟨start, hstart, hcodec⟩ := Option.bind_eq_some_iff.mp hcodec
    obtain ⟨maximum, hmaximum, -⟩ := Option.map_eq_some_iff.mp hcodec
    exact ⟨exists_bitrateParam_iff.mp ⟨minimum, hminimum⟩,
      exists_bitrateParam_iff.mp ⟨start, hstart⟩, exists_bitrateParam_iff.mp ⟨maximum, hmaximum⟩⟩
  · rintro ⟨hminimum, hstart, hmaximum⟩
    obtain ⟨minimum, hminimum⟩ := (@exists_bitrateParam_iff api codec _ 0).mpr hminimum
    obtain ⟨start, hstart⟩ := (@exists_bitrateParam_iff api codec _ (-1)).mpr hstart
    obtain ⟨maximum, hmaximum⟩ := (@exists_bitrateParam_iff api codec _ (-1)).mpr hmaximum
    rw [OnInts.getBitrateConfigForCodec, hminimum, hstart, hmaximum]
    exact ⟨_, rfl⟩

end Codec

/-! ## Limits of a stream -/

/-- The only encoding has a maximum, which limits the stream. -/
def LimitedByEncoding (stream : WebRtcVideoSendStream) (first : RtpEncodingParameters) : Prop :=
  stream.rtpParameters.encodings.length = 1 ∧ 0 < first.maxBitrateBps.getD 0

section Encoder

variable {api : EngineApi} {codec : VideoCodec} {stream : WebRtcVideoSendStream}
variable {first : RtpEncodingParameters}

theorem streamMaxBitrate_pos (hlimited : LimitedByEncoding stream first) :
    0 < stream.streamMaxBitrate first := by
  obtain ⟨hone, hpos⟩ := hlimited
  rw [streamMaxBitrate]
  cases hmax : first.maxBitrateBps with
  | none =>
      rw [hmax] at hpos
      exact absurd hpos (by simp)
  | some maxBitrateBps =>
      rw [hmax, Option.getD_some] at hpos
      simp only [hone, if_true]
      rw [minPositive]
      split_ifs <;> omega

theorem streamMaxBitrate_of_not (hnot : ¬ LimitedByEncoding stream first) :
    stream.streamMaxBitrate first = stream.parameters.maxBitrateBps := by
  rw [streamMaxBitrate]
  cases hmax : first.maxBitrateBps with
  | none => rfl
  | some maxBitrateBps =>
      rw [LimitedByEncoding, hmax, Option.getD_some] at hnot
      dsimp only
      split_ifs with hone
      · rw [minPositive, if_pos (by omega)]
      · rfl

theorem encoderMaxBitrate_eq {limit bitrate : ℤ}
    (hbitrate : OnInts.encoderMaxBitrate api codec limit = some bitrate) :
    bitrate = encoderMaxBitrate api codec limit := by
  rw [OnInts.encoderMaxBitrate] at hbitrate
  rw [encoderMaxBitrate]
  cases hparam : api.getParam codec kCodecParamMaxBitrate with
  | none =>
      rw [hparam] at hbitrate
      exact (Option.some.inj hbitrate).symm
  | some kbps =>
      rw [hparam] at hbitrate
      dsimp only at hbitrate ⊢
      split_ifs at hbitrate ⊢
      · exact (checked_eq_some_iff.mp hbitrate).2
      · exact (Option.some.inj hbitrate).symm

/-- The limit of the encoder is computed, and it is one, when either the encoding or the stream
limits the bitrate, or else the codec does so with a number that is not negative. -/
theorem isLimit_encoderMaxBitrate_iff :
    (∃ bitrate, OnInts.encoderMaxBitrate api codec (stream.streamMaxBitrate first) =
        some bitrate ∧ IsLimit bitrate) ↔
      (¬ LimitedByEncoding stream first → -1 ≤ stream.parameters.maxBitrateBps ∧
        (stream.parameters.maxBitrateBps = -1 → ∀ kbps,
          api.getParam codec kCodecParamMaxBitrate = some kbps → 0 ≤ kbps ∧ kbps ≤ kMaxKbps)) := by
  have hkept : ∀ limit : ℤ, limit ≠ -1 →
      OnInts.encoderMaxBitrate api codec limit = some limit := by
    intro limit hlimit
    rw [OnInts.encoderMaxBitrate]
    split
    · rw [if_neg hlimit]
    · rfl
  by_cases hlimited : LimitedByEncoding stream first
  · have hpos := streamMaxBitrate_pos hlimited
    refine iff_of_true ⟨_, hkept _ (by omega), Or.inl hpos.le⟩ fun hnot => absurd hlimited hnot
  · rw [streamMaxBitrate_of_not hlimited]
    simp only [hlimited, not_false_eq_true, true_implies]
    by_cases hunset : stream.parameters.maxBitrateBps = -1
    · rw [hunset, OnInts.encoderMaxBitrate]
      simp only [le_refl, true_and, true_implies, if_true]
      cases api.getParam codec kCodecParamMaxBitrate with
      | none => simp [IsLimit]
      | some kbps =>
          simp only [Option.some.injEq, forall_eq', checked_eq_some_iff]
          constructor
          · rintro ⟨bitrate, ⟨hfits, rfl⟩, hlimit⟩
            have hkbps : 0 ≤ kbps := by
              rw [IsLimit] at hlimit
              omega
            exact ⟨hkbps, (fits_kbps_iff hkbps).mp hfits⟩
          · rintro ⟨hkbps, hmost⟩
            exact ⟨_, ⟨(fits_kbps_iff hkbps).mpr hmost, rfl⟩, Or.inl (by omega)⟩
    · rw [hkept _ hunset]
      simp only [Option.some.injEq, exists_eq_left', IsLimit]
      omega

/-- What the screen asks for in kilobits. -/
def screencastKbps (stream : WebRtcVideoSendStream) : ℤ :=
  stream.parameters.options.screencastMinBitrateKbps.getD 0

/-- The configuration of the encoder is computed, with limits. -/
theorem encoderConfig_limits_iff :
    (∃ config, OnInts.encoderConfigFor api stream first codec = some config ∧
        0 ≤ config.minTransmitBitrateBps ∧ IsLimit config.maxBitrateBps) ↔
      (stream.parameters.options.isScreencast.getD false = true →
        0 ≤ screencastKbps stream ∧ screencastKbps stream ≤ kMaxKbps) ∧
      (∃ bitrate, OnInts.encoderMaxBitrate api codec (stream.streamMaxBitrate first) =
        some bitrate ∧ IsLimit bitrate) := by
  rw [OnInts.encoderConfigFor]
  constructor
  · rintro ⟨config, hconfig, hmin, hmax⟩
    obtain ⟨minimum, hminimum, hconfig⟩ := Option.bind_eq_some_iff.mp hconfig
    obtain ⟨maximum, hmaximum, rfl⟩ := Option.map_eq_some_iff.mp hconfig
    refine ⟨fun hscreen => ?_, maximum, hmaximum, hmax⟩
    rw [if_pos hscreen, mul_comm] at hminimum
    obtain ⟨hfits, rfl⟩ := checked_eq_some_iff.mp hminimum
    have hkbps : 0 ≤ screencastKbps stream := by
      rw [screencastKbps]
      dsimp only at hmin
      omega
    exact ⟨hkbps, (fits_kbps_iff hkbps).mp hfits⟩
  · rintro ⟨hscreen, maximum, hmaximum, hlimit⟩
    rw [hmaximum]
    cases hcast : stream.parameters.options.isScreencast.getD false with
    | false => exact ⟨_, rfl, le_refl 0, hlimit⟩
    | true =>
        obtain ⟨hkbps, hmost⟩ := hscreen hcast
        have hfits := (fits_kbps_iff hkbps).mpr hmost
        rw [mul_comm] at hfits
        rw [screencastKbps] at hkbps hfits
        rw [if_pos rfl, checked, if_pos hfits]
        exact ⟨_, rfl, by dsimp only; omega, hlimit⟩

/-- A configuration that is computed is the exact one. -/
theorem encoderConfigFor_eq {config : VideoEncoderConfig}
    (hconfig : OnInts.encoderConfigFor api stream first codec = some config) :
    config = WebRtcVideoSendStream.encoderConfigFor api stream first codec := by
  rw [OnInts.encoderConfigFor] at hconfig
  obtain ⟨minimum, hminimum, hconfig⟩ := Option.bind_eq_some_iff.mp hconfig
  obtain ⟨maximum, hmaximum, rfl⟩ := Option.map_eq_some_iff.mp hconfig
  have hmin : minimum =
      (WebRtcVideoSendStream.encoderConfigFor api stream first codec).minTransmitBitrateBps := by
    rw [WebRtcVideoSendStream.encoderConfigFor]
    dsimp only at hminimum ⊢
    split_ifs at hminimum ⊢
    · exact (checked_eq_some_iff.mp hminimum).2
    · exact (Option.some.inj hminimum).symm
  have hmax : maximum =
      (WebRtcVideoSendStream.encoderConfigFor api stream first codec).maxBitrateBps := by
    rw [WebRtcVideoSendStream.encoderConfigFor]
    exact encoderMaxBitrate_eq hmaximum
  rw [hmin, hmax]

end Encoder

end PeerConnection.Engine
