import PeerConnection.Engine.VideoCodecs

/-!
# Payload types of the default codecs

`GetPayloadTypesAndDefaultCodecs` numbers the supported formats and their RTX codecs from two
ranges.  Codecs that may not use the upper range, and all codecs once the upper counter has
reached its last value, are numbered from the lower range; when that is used up the loop is
left.
-/

namespace PeerConnection.Engine

open PeerConnection.Text
open PeerConnection.Sdp (FeedbackParam)
open PeerConnection.Scan
open PeerConnection.Prefixes
open Std

def kFirstDynamicPayloadTypeLowerRange : ℤ := 35
def kLastDynamicPayloadTypeLowerRange : ℤ := 63
def kFirstDynamicPayloadTypeUpperRange : ℤ := 96
def kLastDynamicPayloadTypeUpperRange : ℤ := 127

def kAv1CodecName : Bytes := ascii "AV1"
def kAv1xCodecName : Bytes := ascii "AV1X"

/-- `AddDefaultFeedbackParams`. -/
def addDefaultFeedbackParams (codec : VideoCodec) : VideoCodec :=
  if codec.name = kRedCodecName ∨ codec.name = kUlpfecCodecName then codec
  else
    let transport := (codec.addFeedbackParam { id := ascii "goog-remb" }).addFeedbackParam
      { id := ascii "transport-cc" }
    if codec.name = kFlexfecCodecName then transport
    else
      ((transport.addFeedbackParam { id := ascii "ccm", param := ascii "fir" }).addFeedbackParam
        { id := ascii "nack" }).addFeedbackParam { id := ascii "nack", param := ascii "pli" }

def isCodecValidForLowerRange (format : SdpVideoFormat) : Bool :=
  equalsIgnoreCase format.name kFlexfecCodecName || equalsIgnoreCase format.name kAv1CodecName ||
    equalsIgnoreCase format.name kAv1xCodecName

def isFecCodec (format : SdpVideoFormat) : Bool :=
  equalsIgnoreCase format.name kUlpfecCodecName || equalsIgnoreCase format.name kFlexfecCodecName

/-- The variables that the loop changes. -/
structure PayloadTypes where
  payloadTypeUpper : ℤ := kFirstDynamicPayloadTypeUpperRange
  payloadTypeLower : ℤ := kFirstDynamicPayloadTypeLowerRange
  outputCodecs : List VideoCodec := []

namespace PayloadTypes

/-- The next codec is numbered from the lower range. -/
def usesLowerRange (types : PayloadTypes) (format : SdpVideoFormat) : Prop :=
  isCodecValidForLowerRange format ∨
    types.payloadTypeUpper ≥ kLastDynamicPayloadTypeUpperRange

instance (types : PayloadTypes) (format : SdpVideoFormat) :
    Decidable (types.usesLowerRange format) :=
  inferInstanceAs (Decidable (_ ∨ _))

def next (types : PayloadTypes) (format : SdpVideoFormat) : ℤ :=
  if types.usesLowerRange format then types.payloadTypeLower else types.payloadTypeUpper

/-- Output a codec that has taken the next payload type. -/
def push (types : PayloadTypes) (format : SdpVideoFormat) (codec : VideoCodec) :
    PayloadTypes :=
  if types.usesLowerRange format then
    { types with
      payloadTypeLower := types.payloadTypeLower + 1
      outputCodecs := types.outputCodecs ++ [codec] }
  else
    { types with
      payloadTypeUpper := types.payloadTypeUpper + 1
      outputCodecs := types.outputCodecs ++ [codec] }

/-- The check before a number is taken. -/
def exhausted (types : PayloadTypes) : Prop :=
  types.payloadTypeLower > kLastDynamicPayloadTypeLowerRange

instance (types : PayloadTypes) : Decidable types.exhausted :=
  inferInstanceAs (Decidable (_ > _))

end PayloadTypes

section Generation

variable (api : VideoCodecApi)

/-- The codec of a format with its payload type. -/
def defaultCodec (format : SdpVideoFormat) (payloadType : ℤ) : VideoCodec :=
  addDefaultFeedbackParams { VideoCodec.ofFormat format with id := payloadType }

/-- Output the codec of a format. -/
def PayloadTypes.pushCodec (types : PayloadTypes) (format : SdpVideoFormat) : PayloadTypes :=
  types.push format (defaultCodec format (types.next format))

/-- Output the RTX codec for the codec of a format. -/
def PayloadTypes.pushRtx (types : PayloadTypes) (format : SdpVideoFormat) (associated : ℤ) :
    PayloadTypes :=
  types.push format (api.createRtxCodec (types.next format) associated)

/-- The body of the loop; `stop` is `break`. -/
def numberFormat (types : PayloadTypes) (format : SdpVideoFormat) :
    Outcome Empty PayloadTypes :=
  if types.exhausted then .stop types
  else
    let pushed := types.pushCodec format
    if isFecCodec format then .next pushed
    else if pushed.exhausted then .stop pushed
    else .next (pushed.pushRtx api format (types.next format))

/-- The supported formats with RED and ULPFEC added. -/
def allFormats (formats : List SdpVideoFormat) : List SdpVideoFormat :=
  if formats.isEmpty then []
  else formats ++ [{ name := kRedCodecName }, { name := kUlpfecCodecName }]

/-- The loop over the formats. -/
def numberFormats (formats : List SdpVideoFormat) : Outcome Empty PayloadTypes :=
  scan (numberFormat api) {} (allFormats formats)

/-- `none` stands for a null factory. -/
def getPayloadTypesAndDefaultCodecs (supportedFormats : Option (List SdpVideoFormat)) :
    List VideoCodec :=
  match supportedFormats with
  | none => []
  | some formats =>
      match numberFormats api formats with
      | .next types => types.outputCodecs
      | .stop types => types.outputCodecs

end Generation

theorem numberFormat_cases (api : VideoCodecApi) (types : PayloadTypes)
    (format : SdpVideoFormat) :
    (types.exhausted ∧ numberFormat api types format = .stop types) ∨
      (¬ types.exhausted ∧ isFecCodec format = true ∧
        numberFormat api types format = .next (types.pushCodec format)) ∨
      (¬ types.exhausted ∧ isFecCodec format = false ∧ (types.pushCodec format).exhausted ∧
        numberFormat api types format = .stop (types.pushCodec format)) ∨
      (¬ types.exhausted ∧ isFecCodec format = false ∧ ¬ (types.pushCodec format).exhausted ∧
        numberFormat api types format =
          .next ((types.pushCodec format).pushRtx api format (types.next format))) := by
  rw [numberFormat]
  by_cases hspent : types.exhausted
  · simp [hspent]
  · cases hfec : isFecCodec format with
    | true => simp [hspent]
    | false =>
        by_cases hpushed : (types.pushCodec format).exhausted <;> simp [hspent, hpushed]

/-! ## The counters -/

/-- The payload types that a format takes when none is missing. -/
def slots (format : SdpVideoFormat) : ℕ := if isFecCodec format then 1 else 2

/-- The payload types for the formats that have to use the lower range. -/
def lowerDemand (formats : List SdpVideoFormat) : ℕ :=
  ((formats.filter isCodecValidForLowerRange).map slots).sum

/-- The payload types for the other formats. -/
def upperDemand (formats : List SdpVideoFormat) : ℕ :=
  ((formats.filter (!isCodecValidForLowerRange ·)).map slots).sum

/-- What is taken from the lower range; the upper range takes 31. -/
def lowerLoad (formats : List SdpVideoFormat) : ℕ :=
  lowerDemand formats + (upperDemand formats - 31)

theorem lowerDemand_append (left right : List SdpVideoFormat) :
    lowerDemand (left ++ right) = lowerDemand left + lowerDemand right := by
  rw [lowerDemand, List.filter_append, List.map_append, List.sum_append]
  rfl

theorem upperDemand_append (left right : List SdpVideoFormat) :
    upperDemand (left ++ right) = upperDemand left + upperDemand right := by
  rw [upperDemand, List.filter_append, List.map_append, List.sum_append]
  rfl

theorem lowerDemand_singleton (format : SdpVideoFormat) :
    lowerDemand [format] = if isCodecValidForLowerRange format then slots format else 0 := by
  by_cases hvalid : isCodecValidForLowerRange format <;> simp [lowerDemand, hvalid]

theorem upperDemand_singleton (format : SdpVideoFormat) :
    upperDemand [format] = if isCodecValidForLowerRange format then 0 else slots format := by
  by_cases hvalid : isCodecValidForLowerRange format <;> simp [upperDemand, hvalid]

theorem lowerDemand_concat (front : List SdpVideoFormat) (format : SdpVideoFormat) :
    lowerDemand (front ++ [format]) =
      lowerDemand front + if isCodecValidForLowerRange format then slots format else 0 := by
  rw [lowerDemand_append, lowerDemand_singleton]

theorem upperDemand_concat (front : List SdpVideoFormat) (format : SdpVideoFormat) :
    upperDemand (front ++ [format]) =
      upperDemand front + if isCodecValidForLowerRange format then 0 else slots format := by
  rw [upperDemand_append, upperDemand_singleton]

theorem lowerLoad_le_append (left right : List SdpVideoFormat) :
    lowerLoad left ≤ lowerLoad (left ++ right) := by
  have hlower := lowerDemand_append left right
  have hupper := upperDemand_append left right
  rw [lowerLoad, lowerLoad]
  omega

variable {api : VideoCodecApi}

/-- The counters after so many payload types of each kind. -/
structure Counted (types : PayloadTypes) (lower upper : ℕ) : Prop where
  upperCounter : types.payloadTypeUpper = 96 + (min 31 upper : ℕ)
  lowerCounter : types.payloadTypeLower = 35 + (lower + (upper - 31) : ℕ)
  length : types.outputCodecs.length = lower + upper

theorem counted_push {types : PayloadTypes} {lower upper : ℕ} (format : SdpVideoFormat)
    (codec : VideoCodec) (hcounted : Counted types lower upper) :
    Counted (types.push format codec)
      (lower + if isCodecValidForLowerRange format then 1 else 0)
      (upper + if isCodecValidForLowerRange format then 0 else 1) := by
  have hupper := hcounted.upperCounter
  have hlower := hcounted.lowerCounter
  have hlength := hcounted.length
  rw [PayloadTypes.push]
  by_cases hvalid : isCodecValidForLowerRange format
  · have huses : types.usesLowerRange format := Or.inl hvalid
    rw [if_pos huses, if_pos hvalid, if_pos hvalid]
    exact ⟨by simpa using hupper, by simp only; omega, by simp; omega⟩
  · rw [if_neg hvalid, if_neg hvalid]
    by_cases hspent : types.payloadTypeUpper ≥ kLastDynamicPayloadTypeUpperRange
    · have huses : types.usesLowerRange format := Or.inr hspent
      rw [kLastDynamicPayloadTypeUpperRange] at hspent
      rw [if_pos huses]
      exact ⟨by simp only; omega, by simp only; omega, by simp; omega⟩
    · have huses : ¬ types.usesLowerRange format := by
        rintro (hlow | hup)
        · exact hvalid hlow
        · exact hspent hup
      rw [kLastDynamicPayloadTypeUpperRange] at hspent
      rw [if_neg huses]
      exact ⟨by simp only; omega, by simp only; omega, by simp; omega⟩

theorem total_demand (formats : List SdpVideoFormat) :
    lowerDemand formats + upperDemand formats = (formats.map slots).sum := by
  induction formats with
  | nil => rfl
  | cons format formats ih =>
      have hlower := lowerDemand_append [format] formats
      have hupper := upperDemand_append [format] formats
      rw [lowerDemand_singleton] at hlower
      rw [upperDemand_singleton] at hupper
      rw [List.map_cons, List.sum_cons, ← ih, ← List.singleton_append, hlower, hupper]
      split_ifs <;> omega

theorem exhausted_iff {types : PayloadTypes} {lower upper : ℕ}
    (hcounted : Counted types lower upper) :
    types.exhausted ↔ 28 < lower + (upper - 31) := by
  have hlower := hcounted.lowerCounter
  rw [PayloadTypes.exhausted, kLastDynamicPayloadTypeLowerRange]
  omega

/-- The loop before the next format: all formats so far have their payload types, and the
lower range was not used up before any of them. -/
structure Numbered (front : List SdpVideoFormat) (types : PayloadTypes) : Prop where
  counted : Counted types (lowerDemand front) (upperDemand front)
  fits : AllPass (fun before _ => lowerLoad before ≤ 28) front

theorem numbered_init : Numbered [] {} where
  counted := ⟨rfl, rfl, rfl⟩
  fits := allPass_nil _

theorem lowerLoad_of_exhausted {front : List SdpVideoFormat} {types : PayloadTypes}
    (hnumbered : Numbered front types) : types.exhausted ↔ 28 < lowerLoad front := by
  rw [exhausted_iff hnumbered.counted, lowerLoad]

theorem numbered_numberFormat {front : List SdpVideoFormat} {types next : PayloadTypes}
    {format : SdpVideoFormat} (hnumbered : Numbered front types)
    (hnext : numberFormat api types format = .next next) :
    Numbered (front ++ [format]) next := by
  have hcodec := counted_push format (defaultCodec format (types.next format))
    hnumbered.counted
  have hlower := lowerDemand_concat front format
  have hupper := upperDemand_concat front format
  have hfits : ¬ types.exhausted →
      AllPass (fun before _ => lowerLoad before ≤ 28) (front ++ [format]) := by
    intro hspent
    rw [lowerLoad_of_exhausted hnumbered] at hspent
    exact allPass_concat_iff.mpr ⟨hnumbered.fits, by omega⟩
  obtain ⟨-, hbody⟩ | ⟨hspent, hfec, hbody⟩ | ⟨-, -, -, hbody⟩ | ⟨hspent, hfec, -, hbody⟩ :=
    numberFormat_cases api types format
  · rw [hbody] at hnext
    exact absurd hnext (by simp)
  · rw [hbody] at hnext
    obtain rfl := Outcome.next.inj hnext
    rw [slots, if_pos hfec] at hlower hupper
    refine ⟨?_, hfits hspent⟩
    rw [hlower, hupper]
    exact hcodec
  · rw [hbody] at hnext
    exact absurd hnext (by simp)
  · rw [hbody] at hnext
    obtain rfl := Outcome.next.inj hnext
    have hrtx := counted_push format (api.createRtxCodec
      ((types.pushCodec format).next format) (types.next format)) hcodec
    rw [slots, hfec, if_neg Bool.false_ne_true] at hlower hupper
    refine ⟨?_, hfits hspent⟩
    have hlowerSum : lowerDemand (front ++ [format]) =
        lowerDemand front + (if isCodecValidForLowerRange format then 1 else 0) +
          (if isCodecValidForLowerRange format then 1 else 0) := by
      rw [hlower]
      split_ifs <;> omega
    have hupperSum : upperDemand (front ++ [format]) =
        upperDemand front + (if isCodecValidForLowerRange format then 0 else 1) +
          (if isCodecValidForLowerRange format then 0 else 1) := by
      rw [hupper]
      split_ifs <;> omega
    rw [hlowerSum, hupperSum]
    exact hrtx

theorem allFormats_of_ne_nil {formats : List SdpVideoFormat} (hformats : formats ≠ []) :
    allFormats formats =
      (formats ++ [{ name := kRedCodecName }]) ++ [{ name := kUlpfecCodecName }] := by
  rw [allFormats, if_neg (by simpa using hformats), List.append_assoc]
  rfl

theorem lowerLoad_le_of_prefix {front formats : List SdpVideoFormat} (hfront : front <+: formats) :
    lowerLoad front ≤ lowerLoad formats := by
  obtain ⟨rest, rfl⟩ := hfront
  exact lowerLoad_le_append front rest

theorem one_le_slots (format : SdpVideoFormat) : 1 ≤ slots format := by
  rw [slots]
  split_ifs <;> omega

theorem slots_of_not_fec {format : SdpVideoFormat} (hfec : isFecCodec format = false) :
    slots format = 2 := by
  rw [slots, hfec]
  rfl

/-- What is numbered up to RED at the latest is numbered before ULPFEC. -/
theorem prefix_of_allFormats {part formats : List SdpVideoFormat} (hformats : formats ≠ [])
    (hpart : part <+: allFormats formats) (hlength : part.length ≤ formats.length + 1) :
    part <+: formats ++ [{ name := kRedCodecName }] := by
  have hall := allFormats_of_ne_nil hformats
  apply List.prefix_of_prefix_length_le hpart (hall ▸ List.prefix_append _ _)
  simpa using hlength

/-- ULPFEC is the last format, and it is a FEC codec. -/
theorem back_ne_nil_of_not_fec {front back formats : List SdpVideoFormat}
    {format : SdpVideoFormat} (hformats : allFormats formats = front ++ format :: back)
    (hne : formats ≠ []) (hfec : isFecCodec format = false) : back ≠ [] := by
  rintro rfl
  rw [allFormats_of_ne_nil hne] at hformats
  obtain ⟨-, hlast⟩ := List.append_inj' hformats rfl
  rw [← List.head_eq_of_cons_eq hlast] at hfec
  exact absurd hfec (by decide)

/-- The lower range that is used up between a codec and its RTX codec. -/
theorem lowerLoad_of_exhausted_pushCodec {front : List SdpVideoFormat} {types : PayloadTypes}
    {format : SdpVideoFormat} (hnumbered : Numbered front types)
    (hfec : isFecCodec format = false) (hspent : (types.pushCodec format).exhausted) :
    28 < lowerLoad (front ++ [format]) := by
  have hpushed := counted_push format (defaultCodec format (types.next format))
    hnumbered.counted
  rw [PayloadTypes.pushCodec, exhausted_iff hpushed] at hspent
  have hslots := slots_of_not_fec hfec
  rw [lowerLoad, lowerDemand_concat, upperDemand_concat, hslots]
  split_ifs at hspent ⊢ <;> omega

/-- Where the loop is left, the lower range is used up before ULPFEC and something is
dropped. -/
theorem numberFormat_stop {front back formats : List SdpVideoFormat} {format : SdpVideoFormat}
    {types left : PayloadTypes} (hnumbered : Numbered front types)
    (hformats : allFormats formats = front ++ format :: back)
    (hstop : numberFormat api types format = .stop left) :
    28 < lowerLoad (formats ++ [{ name := kRedCodecName }]) ∧
      left.outputCodecs.length < ((allFormats formats).map slots).sum := by
  have hne : formats ≠ [] := by
    rintro rfl
    simp [allFormats] at hformats
  have hlength : front.length + back.length = formats.length + 1 := by
    have hlengths := congrArg List.length (hformats.symm.trans (allFormats_of_ne_nil hne))
    simp only [List.length_append, List.length_cons, List.length_nil] at hlengths
    omega
  have hsum : ((allFormats formats).map slots).sum =
      lowerDemand front + upperDemand front + slots format + (back.map slots).sum := by
    rw [hformats, total_demand]
    simp [add_assoc]
  obtain ⟨hspent, hbody⟩ | ⟨-, -, hbody⟩ | ⟨-, hfec, hspent, hbody⟩ | ⟨-, -, -, hbody⟩ :=
    numberFormat_cases api types format
  · rw [hbody] at hstop
    obtain rfl := Outcome.stop.inj hstop
    have hpart := prefix_of_allFormats hne (hformats ▸ List.prefix_append _ _) (by omega)
    have hload := lowerLoad_le_of_prefix hpart
    have hslots := one_le_slots format
    rw [lowerLoad_of_exhausted hnumbered] at hspent
    refine ⟨by omega, ?_⟩
    rw [hnumbered.counted.length]
    omega
  · rw [hbody] at hstop
    exact absurd hstop (by simp)
  · rw [hbody] at hstop
    obtain rfl := Outcome.stop.inj hstop
    have hback := List.length_pos_iff.mpr (back_ne_nil_of_not_fec hformats hne hfec)
    have hpart : front ++ [format] <+: formats ++ [{ name := kRedCodecName }] := by
      apply prefix_of_allFormats hne
      · exact ⟨back, by rw [hformats, List.append_assoc, List.singleton_append]⟩
      · rw [List.length_append, List.length_singleton]
        omega
    have hload := lowerLoad_le_of_prefix hpart
    have hlost := lowerLoad_of_exhausted_pushCodec hnumbered hfec hspent
    have hpushed := counted_push format (defaultCodec format (types.next format))
      hnumbered.counted
    have hslots := slots_of_not_fec hfec
    refine ⟨by omega, ?_⟩
    rw [PayloadTypes.pushCodec, hpushed.length]
    split_ifs <;> omega
  · rw [hbody] at hstop
    exact absurd hstop (by simp)

/-! ## The payload types that are output -/

/-- The payload type lies below the counter of its range. -/
def Taken (types : PayloadTypes) (payloadType : ℤ) : Prop :=
  35 ≤ payloadType ∧ payloadType < types.payloadTypeLower ∨
    96 ≤ payloadType ∧ payloadType < types.payloadTypeUpper

structure Tidy (types : PayloadTypes) : Prop where
  distinct : (types.outputCodecs.map (·.id)).Nodup
  taken : ∀ codec ∈ types.outputCodecs, Taken types codec.id
  lowerBounds : 35 ≤ types.payloadTypeLower ∧ types.payloadTypeLower ≤ 64
  upperBounds : 96 ≤ types.payloadTypeUpper ∧ types.payloadTypeUpper ≤ 127

theorem tidy_init : Tidy {} where
  distinct := List.nodup_nil
  taken := by simp
  lowerBounds := by decide
  upperBounds := by decide

theorem Taken.mono {types next : PayloadTypes} {payloadType : ℤ}
    (hlower : types.payloadTypeLower ≤ next.payloadTypeLower)
    (hupper : types.payloadTypeUpper ≤ next.payloadTypeUpper) (htaken : Taken types payloadType) :
    Taken next payloadType := by
  rw [Taken] at htaken ⊢
  omega

/-- A codec is added whose payload type is new, and the counters move past it. -/
theorem Tidy.append {types next : PayloadTypes} {codec : VideoCodec} (htidy : Tidy types)
    (houtput : next.outputCodecs = types.outputCodecs ++ [codec])
    (hlower : types.payloadTypeLower ≤ next.payloadTypeLower)
    (hupper : types.payloadTypeUpper ≤ next.payloadTypeUpper)
    (hlast : next.payloadTypeLower ≤ 64 ∧ next.payloadTypeUpper ≤ 127)
    (hnew : ¬ Taken types codec.id) (htaken : Taken next codec.id) : Tidy next where
  distinct := by
    rw [houtput, List.map_append, List.map_singleton, List.nodup_append]
    refine ⟨htidy.distinct, List.nodup_singleton _, ?_⟩
    intro id hmem other hother hsame
    obtain ⟨old, hold, rfl⟩ := List.mem_map.mp hmem
    rw [List.mem_singleton.mp hother] at hsame
    exact hnew (hsame ▸ htidy.taken old hold)
  taken := by
    intro other hother
    rw [houtput] at hother
    rcases List.mem_append.mp hother with hold | hlate
    · exact (htidy.taken other hold).mono hlower hupper
    · rw [List.mem_singleton.mp hlate]
      exact htaken
  lowerBounds := ⟨htidy.lowerBounds.1.trans hlower, hlast.1⟩
  upperBounds := ⟨htidy.upperBounds.1.trans hupper, hlast.2⟩

/-- The next payload type is new, and lies below its counter once that has moved on. -/
theorem tidy_push {types : PayloadTypes} {format : SdpVideoFormat} {codec : VideoCodec}
    (htidy : Tidy types) (hspent : ¬ types.exhausted) (hid : codec.id = types.next format) :
    Tidy (types.push format codec) := by
  have hlower := htidy.lowerBounds
  have hupper := htidy.upperBounds
  rw [PayloadTypes.exhausted, kLastDynamicPayloadTypeLowerRange] at hspent
  rw [PayloadTypes.next] at hid
  rw [PayloadTypes.push]
  by_cases huses : types.usesLowerRange format
  · rw [if_pos huses] at hid ⊢
    apply htidy.append rfl
    · simp
    · exact le_rfl
    · exact ⟨by simp only; omega, hupper.2⟩
    · rw [Taken]
      omega
    · rw [Taken]
      simp only
      omega
  · have hspare : ¬ types.payloadTypeUpper ≥ 127 := fun hge => huses (Or.inr hge)
    rw [if_neg huses] at hid ⊢
    apply htidy.append rfl
    · exact le_rfl
    · simp
    · exact ⟨hlower.2, by simp only; omega⟩
    · rw [Taken]
      omega
    · rw [Taken]
      simp only
      omega

theorem addDefaultFeedbackParams_id (codec : VideoCodec) :
    (addDefaultFeedbackParams codec).id = codec.id := by
  simp only [addDefaultFeedbackParams]
  split_ifs <;> rfl

theorem addDefaultFeedbackParams_name (codec : VideoCodec) :
    (addDefaultFeedbackParams codec).name = codec.name := by
  simp only [addDefaultFeedbackParams]
  split_ifs <;> rfl

theorem defaultCodec_id (format : SdpVideoFormat) (payloadType : ℤ) :
    (defaultCodec format payloadType).id = payloadType :=
  addDefaultFeedbackParams_id _

theorem defaultCodec_name (format : SdpVideoFormat) (payloadType : ℤ) :
    (defaultCodec format payloadType).name = format.name :=
  addDefaultFeedbackParams_name _

theorem tidy_pushCodec {types : PayloadTypes} {format : SdpVideoFormat} (htidy : Tidy types)
    (hspent : ¬ types.exhausted) : Tidy (types.pushCodec format) :=
  tidy_push htidy hspent (defaultCodec_id format _)

theorem tidy_pushRtx {types : PayloadTypes} {format : SdpVideoFormat} {associated : ℤ}
    (hlawful : LawfulCodecApi api) (htidy : Tidy types) (hspent : ¬ types.exhausted) :
    Tidy (types.pushRtx api format associated) :=
  tidy_push htidy hspent (hlawful.rtxId _ _)

/-- The loop goes on, and is left, with codecs whose payload types are distinct. -/
theorem tidy_numberFormat {types left : PayloadTypes} {format : SdpVideoFormat}
    (hlawful : LawfulCodecApi api) (htidy : Tidy types)
    (hbody : numberFormat api types format = .next left ∨
      numberFormat api types format = .stop left) : Tidy left := by
  obtain ⟨-, hcase⟩ | ⟨hspent, -, hcase⟩ | ⟨hspent, -, -, hcase⟩ |
    ⟨hspent, -, hpushed, hcase⟩ := numberFormat_cases api types format
  · obtain rfl : types = left := by simpa [hcase] using hbody
    exact htidy
  · obtain rfl : types.pushCodec format = left := by simpa [hcase] using hbody
    exact tidy_pushCodec htidy hspent
  · obtain rfl : types.pushCodec format = left := by simpa [hcase] using hbody
    exact tidy_pushCodec htidy hspent
  · obtain rfl : (types.pushCodec format).pushRtx api format (types.next format) = left := by
      simpa [hcase] using hbody
    exact tidy_pushRtx hlawful (tidy_pushCodec htidy hspent) hpushed

/-! ## Exhaustion -/

/-- The payload types that the generator may hand out. -/
def InDynamicRange (payloadType : ℤ) : Prop :=
  kFirstDynamicPayloadTypeLowerRange ≤ payloadType ∧
      payloadType ≤ kLastDynamicPayloadTypeLowerRange ∨
    kFirstDynamicPayloadTypeUpperRange ≤ payloadType ∧
      payloadType ≤ kLastDynamicPayloadTypeUpperRange

/-- Some format or RTX codec is missing from the output. -/
def DropsCodecs (api : VideoCodecApi) (formats : List SdpVideoFormat) : Prop :=
  (getPayloadTypesAndDefaultCodecs api (some formats)).length <
    ((allFormats formats).map slots).sum

/-- Codecs are dropped only when both ranges are used up, and the assertion where the loop is
left holds. -/
def ExhaustsBothRanges (api : VideoCodecApi) (formats : List SdpVideoFormat) : Prop :=
  DropsCodecs api formats →
    (∀ payloadType, InDynamicRange payloadType →
      payloadType ∈ (getPayloadTypesAndDefaultCodecs api (some formats)).map (·.id)) ∧
    ∀ types, numberFormats api formats = .stop types →
      types.payloadTypeUpper = kLastDynamicPayloadTypeUpperRange

theorem numberFormats_cases (hlawful : LawfulCodecApi api) (formats : List SdpVideoFormat) :
    (lowerLoad (formats ++ [{ name := kRedCodecName }]) ≤ 28 ∧ ¬ DropsCodecs api formats) ∨
      (28 < lowerLoad (formats ++ [{ name := kRedCodecName }]) ∧ DropsCodecs api formats ∧
        ∃ left, getPayloadTypesAndDefaultCodecs api (some formats) = left.outputCodecs ∧
          Tidy left) := by
  have hrun := @scan_cases _ _ _ (numberFormat api)
    (fun front types => Numbered front types ∧ Tidy types) {} ⟨numbered_init, tidy_init⟩
    (fun front format types next hinv hnext => ⟨numbered_numberFormat hinv.1 hnext,
      tidy_numberFormat hlawful hinv.2 (Or.inl hnext)⟩) (allFormats formats)
  obtain ⟨final, hscan, hnumbered, -⟩ | ⟨front, format, back, types, hformats,
    ⟨hnumbered, htidy⟩, hscan, hexit⟩ := hrun
  · left
    have houtput : getPayloadTypesAndDefaultCodecs api (some formats) = final.outputCodecs := by
      simp only [getPayloadTypesAndDefaultCodecs, numberFormats, hscan]
    constructor
    · by_cases hne : formats = []
      · subst hne
        decide
      · have hfits := hnumbered.fits
        rw [allFormats_of_ne_nil hne, allPass_concat_iff] at hfits
        exact hfits.2
    · rw [DropsCodecs, houtput, hnumbered.counted.length, total_demand]
      exact lt_irrefl _
  · right
    cases hbody : numberFormat api types format with
    | fault reason => exact reason.elim
    | next next => exact absurd hbody (hexit next)
    | stop left =>
        have houtput : getPayloadTypesAndDefaultCodecs api (some formats) =
            left.outputCodecs := by
          simp only [getPayloadTypesAndDefaultCodecs, numberFormats, hscan, hbody]
        obtain ⟨hload, hlength⟩ := numberFormat_stop hnumbered hformats hbody
        rw [← houtput] at hlength
        exact ⟨hload, hlength, left, houtput, tidy_numberFormat hlawful htidy (Or.inr hbody)⟩

/-- Payload type 127 is never assigned, so the ranges are not used up when codecs are
dropped: the promise is kept exactly when the lower range has room for all codecs. -/
theorem exhaustsBothRanges_iff (hlawful : LawfulCodecApi api) (formats : List SdpVideoFormat) :
    ExhaustsBothRanges api formats ↔
      lowerLoad (formats ++ [{ name := kRedCodecName }]) ≤ 28 := by
  obtain ⟨hfits, hkept⟩ | ⟨hload, hdrops, left, houtput, htidy⟩ :=
    numberFormats_cases hlawful formats
  · exact ⟨fun _ => hfits, fun _ hdrops => absurd hdrops hkept⟩
  · constructor
    · intro hboth
      have hlast : InDynamicRange 127 := Or.inr ⟨by decide, by decide⟩
      have hmem := (hboth hdrops).1 127 hlast
      rw [houtput, List.mem_map] at hmem
      obtain ⟨codec, hcodec, hid⟩ := hmem
      have htaken := htidy.taken codec hcodec
      have hlower := htidy.lowerBounds
      have hupper := htidy.upperBounds
      rw [hid, Taken] at htaken
      omega
    · intro hfits
      omega

theorem lawful_webrtcCodecApi : LawfulCodecApi webrtcCodecApi where
  getCodecType _ := rfl
  isValidRtpPayloadType _ := rfl
  rtxId _ _ := rfl
  rtxName _ _ := rfl
  rtxParam rtxPayloadType associated hassociated := by
    have hparam : (rtxCodecFor rtxPayloadType associated).params[
        kCodecParamAssociatedPayloadType]? = some (decimal associated) := by
      rw [rtxCodecFor, ExtTreeMap.getElem?_insert_self]
    have hread : webrtcCodecApi.getParam (rtxCodecFor rtxPayloadType associated)
        kCodecParamAssociatedPayloadType = intFromString (decimal associated) := by
      simp only [webrtcCodecApi, hparam, Option.bind_some]
    rw [← intFromString_decimal hassociated, ← hread]
    rfl

/-- Fifteen AV1 formats use up the lower range and leave the upper range alone. -/
def av1Formats : List SdpVideoFormat := List.replicate 15 { name := kAv1CodecName }

theorem exhaustsBothRanges_vp8 : ExhaustsBothRanges webrtcCodecApi [{ name := ascii "VP8" }] :=
  (exhaustsBothRanges_iff lawful_webrtcCodecApi _).mpr (by decide +kernel)

theorem exhaustsBothRanges_fails : ¬ ExhaustsBothRanges webrtcCodecApi av1Formats := by
  intro hboth
  have hdrops : DropsCodecs webrtcCodecApi av1Formats := by
    rw [DropsCodecs]
    decide +kernel
  have hmem := (hboth hdrops).1 96 (Or.inr ⟨by decide, by decide⟩)
  revert hmem
  decide +kernel

end PeerConnection.Engine
