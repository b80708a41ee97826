import PeerConnection.Engine.VideoCodecs

/-!
# What `MapCodecs` accepts and returns

The maps of `MapCodecs` are indices of the codecs read so far, and its shared record holds the
first entry of each kind.  A list is refused exactly when a payload type comes up twice or an
RTX entry has no regular video or RED codec to belong to.  Payload type and time of an RTX
entry go to two maps, and an entry without a time leaves the time of an earlier one in place.
-/

namespace PeerConnection.Engine

open PeerConnection.Text
open PeerConnection.MemberIndex
open PeerConnection.Prefixes
open Std

section View

variable (api : VideoCodecApi)

def isVideo (codec : VideoCodec) : Bool := api.getCodecType codec = .video

/-- The payload type that an RTX codec names. -/
def associatedPayloadType (codec : VideoCodec) : Option ℤ :=
  api.getParam codec kCodecParamAssociatedPayloadType

/-- The time that an RTX codec carries.  Only positive times count. -/
def carriedRtxTime (codec : VideoCodec) : Option ℤ :=
  (api.getParam codec kCodecParamRtxTime).filter fun rtxTime => 0 < rtxTime

/-- The payload types that the codec is an RTX entry for: one or none. -/
def rtxTargets (codec : VideoCodec) : List ℤ :=
  if api.getCodecType codec = .rtx then (associatedPayloadType api codec).toList else []

def timedTargets (codec : VideoCodec) : List ℤ :=
  if (carriedRtxTime api codec).isSome then rtxTargets api codec else []

/-- The payload type of the codec, `-1` when there is none. -/
def payloadTypeOf (codec : Option VideoCodec) : ℤ := (codec.map (·.id)).getD (-1)

/-- The first codec of this type whose payload type can be told from "absent". -/
def firstPresent (type : CodecType) (codecs : List VideoCodec) : Option VideoCodec :=
  codecs.find? fun codec => api.getCodecType codec = type ∧ codec.id ≠ -1

def firstOfType (type : CodecType) (codecs : List VideoCodec) : Option VideoCodec :=
  codecs.find? fun codec => api.getCodecType codec = type

/-- The last RTX entry for a payload type. -/
def lastRtxFor (codecs : List VideoCodec) (payloadType : ℤ) : Option VideoCodec :=
  codecs.reverse.find? fun codec => payloadType ∈ rtxTargets api codec

def lastTimedRtxFor (codecs : List VideoCodec) (payloadType : ℤ) : Option VideoCodec :=
  codecs.reverse.find? fun codec => payloadType ∈ timedTargets api codec

/-- The `rtx_time` of an entry that carries this time. -/
def rtxTimeOf (rtxTime : Option ℤ) : ℤ := (rtxTime.map (min · kNackHistoryMs)).getD (-1)

/-- The local variables after the first loop has read these codecs. -/
def mappedSoFar (codecs : List VideoCodec) : MappedCodecs where
  videoCodecs := (codecs.filter (isVideo api)).map fun codec => { codec := codec }
  payloadCodecType := indexMembers api.getCodecType (fun codec => [codec.id]) codecs
  rtxMapping := indexMembers (·.id) (rtxTargets api) codecs
  rtxTimeMapping :=
    indexMembers (fun codec => (carriedRtxTime api codec).getD 0) (timedTargets api) codecs
  ulpfecConfig :=
    { ulpfecPayloadType := payloadTypeOf (firstPresent api .ulpfec codecs)
      redPayloadType := payloadTypeOf (firstPresent api .red codecs) }
  flexfecPayloadType := (firstOfType api .flexfec codecs).map (·.id)

/-- What the first loop asks of a codec after the codecs before it. -/
def Registers (front : List VideoCodec) (codec : VideoCodec) : Prop :=
  codec.id ∉ front.map (·.id) ∧
    (api.getCodecType codec = .rtx → ∃ associated,
      associatedPayloadType api codec = some associated ∧
        api.isValidRtpPayloadType associated)

end View

/-! ## The first loop -/

section FirstLoop

variable {api : VideoCodecApi}

theorem contains_payloadCodecType (codecs : List VideoCodec) (payloadType : ℤ) :
    (mappedSoFar api codecs).payloadCodecType.contains payloadType ↔
      payloadType ∈ codecs.map (·.id) := by
  rw [TreeMap.contains_eq_isSome_getElem?, mappedSoFar, getElem?_indexMembers,
    Option.isSome_map, List.find?_isSome, List.mem_map]
  constructor
  · rintro ⟨codec, hmem, hid⟩
    have hpayload : payloadType = codec.id := by simpa using hid
    exact ⟨codec, List.mem_reverse.mp hmem, hpayload.symm⟩
  · rintro ⟨codec, hmem, rfl⟩
    exact ⟨codec, List.mem_reverse.mpr hmem, by simp⟩

theorem indexMembers_concat {β ε : Type*} (owner : ε → β) (members : ε → List ℤ)
    (entries : List ε) (last : ε) :
    indexMembers owner members (entries ++ [last]) =
      insertMembers owner members (indexMembers owner members entries) last := by
  rw [indexMembers, List.foldl_append]
  rfl

theorem firstPresent_concat (type : CodecType) (codecs : List VideoCodec) (last : VideoCodec) :
    payloadTypeOf (firstPresent api type (codecs ++ [last])) =
      if payloadTypeOf (firstPresent api type codecs) ≠ -1 then
        payloadTypeOf (firstPresent api type codecs)
      else if api.getCodecType last = type then last.id else -1 := by
  rw [firstPresent, List.find?_append, ← firstPresent]
  cases hfirst : firstPresent api type codecs with
  | some first =>
      have hpresent := List.find?_some hfirst
      simp only [decide_eq_true_eq] at hpresent
      simp [payloadTypeOf, hpresent.2]
  | none =>
      by_cases htype : api.getCodecType last = type
      · by_cases hid : last.id = -1
        · simp [payloadTypeOf, htype, hid]
        · simp [payloadTypeOf, htype, hid]
      · simp [payloadTypeOf, htype]

theorem firstOfType_concat (type : CodecType) (codecs : List VideoCodec) (last : VideoCodec) :
    (firstOfType api type (codecs ++ [last])).map (·.id) =
      ((firstOfType api type codecs).map (·.id)).or
        (if api.getCodecType last = type then some last.id else none) := by
  rw [firstOfType, List.find?_append, ← firstOfType, Option.map_or]
  by_cases htype : api.getCodecType last = type <;> simp [htype]

/-- The loop fails at a codec that cannot be registered. -/
theorem mapCodec_reject {front : List VideoCodec} {codec : VideoCodec}
    (hregisters : ¬ Registers api front codec) :
    mapCodec api (mappedSoFar api front) codec = none := by
  rw [mapCodec]
  by_cases hknown : (mappedSoFar api front).payloadCodecType.contains codec.id
  · rw [if_pos hknown]
  rw [if_neg hknown]
  rw [contains_payloadCodecType] at hknown
  have hmissing : ¬ (api.getCodecType codec = .rtx → ∃ associated,
      associatedPayloadType api codec = some associated ∧
        api.isValidRtpPayloadType associated) := fun hrtx => hregisters ⟨hknown, hrtx⟩
  obtain ⟨htype, hnone⟩ := Classical.not_imp.mp hmissing
  simp only [htype, mapRtx]
  cases hassociated : api.getParam codec kCodecParamAssociatedPayloadType with
  | none => rfl
  | some associated =>
      exact if_neg fun hvalid => hnone ⟨associated, hassociated, hvalid⟩

/-- A codec that is not an RTX entry adds nothing to the RTX maps. -/
theorem rtxTargets_of_ne {codec : VideoCodec} (htype : api.getCodecType codec ≠ .rtx) :
    rtxTargets api codec = [] := if_neg htype

theorem timedTargets_of_ne {codec : VideoCodec} (htype : api.getCodecType codec ≠ .rtx) :
    timedTargets api codec = [] := by
  rw [timedTargets, rtxTargets_of_ne htype, ite_self]

theorem insertMembers_of_nil {β ε : Type*} {owner : ε → β} {members : ε → List ℤ}
    {entry : ε} (hnil : members entry = []) (index : TreeMap ℤ β) :
    insertMembers owner members index entry = index := by
  rw [insertMembers, hnil]
  rfl

theorem insertMembers_of_singleton {β ε : Type*} {owner : ε → β} {members : ε → List ℤ}
    {entry : ε} {member : ℤ} (hsingle : members entry = [member]) (index : TreeMap ℤ β) :
    insertMembers owner members index entry = index.insert member (owner entry) := by
  rw [insertMembers, hsingle]
  rfl

/-- The state after one codec more, in terms of the state before. -/
theorem mappedSoFar_concat (front : List VideoCodec) (codec : VideoCodec) :
    mappedSoFar api (front ++ [codec]) =
      { videoCodecs := (mappedSoFar api front).videoCodecs ++
          if isVideo api codec then [{ codec := codec }] else []
        payloadCodecType := (mappedSoFar api front).payloadCodecType.insert codec.id
          (api.getCodecType codec)
        rtxMapping := insertMembers (·.id) (rtxTargets api)
          (mappedSoFar api front).rtxMapping codec
        rtxTimeMapping := insertMembers (fun codec => (carriedRtxTime api codec).getD 0)
          (timedTargets api) (mappedSoFar api front).rtxTimeMapping codec
        ulpfecConfig :=
          { ulpfecPayloadType := payloadTypeOf (firstPresent api .ulpfec (front ++ [codec]))
            redPayloadType := payloadTypeOf (firstPresent api .red (front ++ [codec])) }
        flexfecPayloadType := (firstOfType api .flexfec (front ++ [codec])).map (·.id) } := by
  rw [mappedSoFar, indexMembers_concat, indexMembers_concat, indexMembers_concat,
    List.filter_append, List.map_append]
  congr 1
  by_cases hvideo : isVideo api codec <;> simp [mappedSoFar, hvideo]

/-- An RTX entry that names a payload type goes to the RTX maps. -/
theorem mapRtx_eq {front : List VideoCodec} {codec : VideoCodec} {associated : ℤ}
    (htype : api.getCodecType codec = .rtx)
    (hassociated : associatedPayloadType api codec = some associated)
    (hvalid : api.isValidRtpPayloadType associated) (types : TreeMap ℤ CodecType) :
    mapRtx api { mappedSoFar api front with payloadCodecType := types } codec = some
      { mappedSoFar api front with
        payloadCodecType := types
        rtxMapping := insertMembers (·.id) (rtxTargets api)
          (mappedSoFar api front).rtxMapping codec
        rtxTimeMapping := insertMembers (fun codec => (carriedRtxTime api codec).getD 0)
          (timedTargets api) (mappedSoFar api front).rtxTimeMapping codec } := by
  have htargets : rtxTargets api codec = [associated] := by
    rw [rtxTargets, if_pos htype, hassociated]
    rfl
  have hgiven : api.getParam codec kCodecParamAssociatedPayloadType = some associated :=
    hassociated
  rw [mapRtx, hgiven, insertMembers_of_singleton htargets]
  simp only [hvalid, if_true, mapRtxTime]
  cases htime : api.getParam codec kCodecParamRtxTime with
  | none =>
      have hcarried : carriedRtxTime api codec = none := by rw [carriedRtxTime, htime]; rfl
      rw [insertMembers_of_nil (by rw [timedTargets, hcarried]; rfl)]
  | some rtxTime =>
      by_cases hpositive : 0 < rtxTime
      · have hcarried : carriedRtxTime api codec = some rtxTime := by
          simp [carriedRtxTime, htime, hpositive]
        have htimed : timedTargets api codec = [associated] := by
          rw [timedTargets, hcarried, htargets]
          rfl
        rw [insertMembers_of_singleton htimed]
        simp [hpositive, hcarried]
      · have hcarried : carriedRtxTime api codec = none := by
          simpa [carriedRtxTime, htime] using hpositive
        rw [insertMembers_of_nil (by rw [timedTargets, hcarried]; rfl)]
        simp [hpositive]

theorem mapCodec_pass {front : List VideoCodec} {codec : VideoCodec}
    (hregisters : Registers api front codec) :
    mapCodec api (mappedSoFar api front) codec = some (mappedSoFar api (front ++ [codec])) := by
  have hfresh : ¬ (mappedSoFar api front).payloadCodecType.contains codec.id := by
    rw [contains_payloadCodecType]
    exact hregisters.1
  rw [mapCodec, if_neg hfresh, mappedSoFar_concat, firstPresent_concat, firstPresent_concat,
    firstOfType_concat]
  cases htype : api.getCodecType codec with
  | rtx =>
      obtain ⟨associated, hassociated, hvalid⟩ := hregisters.2 htype
      simp only
      rw [mapRtx_eq htype hassociated hvalid]
      simp [mappedSoFar, isVideo, htype]
  | video =>
      have hne : api.getCodecType codec ≠ .rtx := by simp [htype]
      rw [insertMembers_of_nil (rtxTargets_of_ne hne),
        insertMembers_of_nil (timedTargets_of_ne hne)]
      simp [mappedSoFar, isVideo, htype]
  | red =>
      have hne : api.getCodecType codec ≠ .rtx := by simp [htype]
      rw [insertMembers_of_nil (rtxTargets_of_ne hne),
        insertMembers_of_nil (timedTargets_of_ne hne)]
      simp only [mapRed]
      split_ifs <;> simp_all [mappedSoFar, isVideo]
  | ulpfec =>
      have hne : api.getCodecType codec ≠ .rtx := by simp [htype]
      rw [insertMembers_of_nil (rtxTargets_of_ne hne),
        insertMembers_of_nil (timedTargets_of_ne hne)]
      simp only [mapUlpfec]
      split_ifs <;> simp_all [mappedSoFar, isVideo]
  | flexfec =>
      have hne : api.getCodecType codec ≠ .rtx := by simp [htype]
      rw [insertMembers_of_nil (rtxTargets_of_ne hne),
        insertMembers_of_nil (timedTargets_of_ne hne)]
      cases hfirst : firstOfType api .flexfec front <;>
        simp [mapFlexfec, mappedSoFar, isVideo, htype, hfirst]

/-- The first loop runs through exactly when every codec can be registered. -/
theorem foldlM_mapCodec_eq_some_iff {codecs : List VideoCodec} {mapped : MappedCodecs} :
    codecs.foldlM (mapCodec api) {} = some mapped ↔
      AllPass (Registers api) codecs ∧ mapped = mappedSoFar api codecs := by
  have hinit : mappedSoFar api [] = {} := rfl
  rw [← hinit]
  exact @foldlM_eq_some_iff _ _ _ (mappedSoFar api) (Registers api)
    (fun _ _ => mapCodec_pass) (fun _ _ => mapCodec_reject) codecs mapped

end FirstLoop

/-! ## The loop over the RTX entries -/

section RtxLoop

variable {api : VideoCodecApi}

theorem getElem?_rtxMapping (codecs : List VideoCodec) (payloadType : ℤ) :
    (mappedSoFar api codecs).rtxMapping[payloadType]? =
      (lastRtxFor api codecs payloadType).map (·.id) :=
  getElem?_indexMembers _ _ _ _

theorem getElem?_rtxTimeMapping (codecs : List VideoCodec) (payloadType : ℤ) :
    (mappedSoFar api codecs).rtxTimeMapping[payloadType]? =
      (lastTimedRtxFor api codecs payloadType).map
        fun codec => (carriedRtxTime api codec).getD 0 :=
  getElem?_indexMembers _ _ _ _

/-- The type that is registered for a payload type is that of its only codec. -/
theorem getElem?_payloadCodecType_eq_some_iff {codecs : List VideoCodec}
    (hdistinct : (codecs.map (·.id)).Nodup) {payloadType : ℤ} {type : CodecType} :
    (mappedSoFar api codecs).payloadCodecType[payloadType]? = some type ↔
      ∃ codec ∈ codecs, codec.id = payloadType ∧ api.getCodecType codec = type := by
  rw [mappedSoFar]
  constructor
  · intro hindex
    obtain ⟨codec, hmem, htype, hid⟩ := exists_of_getElem?_indexMembers _ _ hindex
    exact ⟨codec, hmem, (List.mem_singleton.mp hid).symm, htype⟩
  · rintro ⟨codec, hmem, rfl, rfl⟩
    apply getElem?_indexMembers_of_mem _ _ _ hmem (List.mem_singleton_self _)
    intro other hother hid
    rw [List.inj_on_of_nodup_map hdistinct hother hmem (List.mem_singleton.mp hid).symm]

/-- The payload type belongs to a regular video or RED codec of the list. -/
def NamesCodec (api : VideoCodecApi) (codecs : List VideoCodec) (payloadType : ℤ) : Prop :=
  ∃ codec ∈ codecs, codec.id = payloadType ∧
    (api.getCodecType codec = .video ∨ api.getCodecType codec = .red)

/-- The record that all settings share, once the loop over the RTX entries is through. -/
def sharedUlpfec (api : VideoCodecApi) (codecs : List VideoCodec) : UlpfecConfig :=
  let red := payloadTypeOf (firstPresent api .red codecs)
  { ulpfecPayloadType := payloadTypeOf (firstPresent api .ulpfec codecs)
    redPayloadType := red
    redRtxPayloadType := payloadTypeOf (lastRtxFor api codecs red) }

/-- The shared record after some of the entries. -/
def ulpfecAfter (ulpfecConfig : UlpfecConfig) (entries : List (ℤ × ℤ)) : UlpfecConfig :=
  { ulpfecConfig with
    redRtxPayloadType :=
      ((entries.reverse.find? fun entry => entry.1 = ulpfecConfig.redPayloadType).map
        (·.2)).getD ulpfecConfig.redRtxPayloadType }

theorem foldlM_checkRtxMapping_eq_some_iff {mapped : MappedCodecs} {ulpfecConfig : UlpfecConfig}
    {entries : List (ℤ × ℤ)} {final : UlpfecConfig} :
    entries.foldlM (checkRtxMapping mapped) ulpfecConfig = some final ↔
      (∀ entry ∈ entries, ∃ type, mapped.payloadCodecType[entry.1]? = some type ∧
        (type = .video ∨ type = .red)) ∧ final = ulpfecAfter ulpfecConfig entries := by
  have hpass : ∀ (front : List (ℤ × ℤ)) (entry : ℤ × ℤ),
      (∃ type, mapped.payloadCodecType[entry.1]? = some type ∧ (type = .video ∨ type = .red)) →
      checkRtxMapping mapped (ulpfecAfter ulpfecConfig front) entry =
        some (ulpfecAfter ulpfecConfig (front ++ [entry])) := by
    rintro front entry ⟨type, htype, hkind⟩
    have haccepted : ¬ (type ≠ .video ∧ type ≠ .red) := by
      rcases hkind with rfl | rfl <;> simp
    rw [checkRtxMapping, htype]
    simp only [if_neg haccepted]
    by_cases hred : entry.1 = ulpfecConfig.redPayloadType
    · simp [ulpfecAfter, hred]
    · simp [ulpfecAfter, hred]
  have hreject : ∀ (front : List (ℤ × ℤ)) (entry : ℤ × ℤ),
      (¬ ∃ type, mapped.payloadCodecType[entry.1]? = some type ∧
        (type = .video ∨ type = .red)) →
      checkRtxMapping mapped (ulpfecAfter ulpfecConfig front) entry = none := by
    intro front entry hnone
    rw [checkRtxMapping]
    cases htype : mapped.payloadCodecType[entry.1]? with
    | none => rfl
    | some type =>
        apply if_pos
        constructor
        · exact fun hvideo => hnone ⟨type, htype, Or.inl hvideo⟩
        · exact fun hred => hnone ⟨type, htype, Or.inr hred⟩
  have hloop := @foldlM_eq_some_iff _ _ (checkRtxMapping mapped) (ulpfecAfter ulpfecConfig) _
    hpass hreject entries final
  rwa [allPass_const_iff] at hloop

theorem mem_rtxTargets_iff {codec : VideoCodec} {payloadType : ℤ} :
    payloadType ∈ rtxTargets api codec ↔
      api.getCodecType codec = .rtx ∧ associatedPayloadType api codec = some payloadType := by
  rw [rtxTargets]
  split_ifs with htype
  · simp [htype]
  · simp [htype]

/-- The keys of `rtx_mapping` are the payload types that some RTX entry names. -/
theorem exists_mem_toList_rtxMapping_iff {codecs : List VideoCodec} {payloadType : ℤ} :
    (∃ rtxPayloadType,
        (payloadType, rtxPayloadType) ∈ (mappedSoFar api codecs).rtxMapping.toList) ↔
      ∃ codec ∈ codecs, payloadType ∈ rtxTargets api codec := by
  simp only [TreeMap.mem_toList_iff_getElem?_eq_some, getElem?_rtxMapping]
  rw [← Option.isSome_iff_exists, Option.isSome_map, lastRtxFor, List.find?_isSome]
  simp

/-- The entry of a map for a key is found from either end of its list. -/
theorem find?_reverse_toList (index : TreeMap ℤ ℤ) (key : ℤ) :
    (index.toList.reverse.find? fun entry => entry.1 = key).map (·.2) = index[key]? := by
  cases hfind : index.toList.reverse.find? fun entry => entry.1 = key with
  | none =>
      cases hvalue : index[key]? with
      | none => rfl
      | some value =>
          have hmem := TreeMap.mem_toList_iff_getElem?_eq_some.mpr hvalue
          have hnot := List.find?_eq_none.mp hfind (key, value) (List.mem_reverse.mpr hmem)
          simp at hnot
  | some entry =>
      have hkey : entry.1 = key := by simpa using List.find?_some hfind
      have hmem := List.mem_reverse.mp (List.mem_of_find?_eq_some hfind)
      rw [← hkey]
      exact (TreeMap.mem_toList_iff_getElem?_eq_some.mp hmem).symm

theorem ulpfecAfter_toList (codecs : List VideoCodec) :
    ulpfecAfter (mappedSoFar api codecs).ulpfecConfig
        (mappedSoFar api codecs).rtxMapping.toList = sharedUlpfec api codecs := by
  rw [ulpfecAfter, find?_reverse_toList, getElem?_rtxMapping]
  rfl

/-- Every RTX entry belongs to a regular video or RED codec. -/
theorem rtxMapping_checked_iff {codecs : List VideoCodec}
    (hdistinct : (codecs.map (·.id)).Nodup) :
    (∀ entry ∈ (mappedSoFar api codecs).rtxMapping.toList, ∃ type,
        (mappedSoFar api codecs).payloadCodecType[entry.1]? = some type ∧
          (type = .video ∨ type = .red)) ↔
      ∀ codec ∈ codecs, ∀ payloadType ∈ rtxTargets api codec,
        NamesCodec api codecs payloadType := by
  have hnames : ∀ payloadType, (∃ type,
      (mappedSoFar api codecs).payloadCodecType[payloadType]? = some type ∧
        (type = .video ∨ type = .red)) ↔ NamesCodec api codecs payloadType := by
    intro payloadType
    simp only [getElem?_payloadCodecType_eq_some_iff hdistinct, NamesCodec]
    constructor
    · rintro ⟨_, ⟨codec, hmem, hid, rfl⟩, hkind⟩
      exact ⟨codec, hmem, hid, hkind⟩
    · rintro ⟨codec, hmem, hid, hkind⟩
      exact ⟨_, ⟨codec, hmem, hid, rfl⟩, hkind⟩
  constructor
  · intro hall codec hcodec payloadType htarget
    obtain ⟨rtxPayloadType, hentry⟩ :=
      exists_mem_toList_rtxMapping_iff.mpr ⟨codec, hcodec, htarget⟩
    exact (hnames payloadType).mp (hall _ hentry)
  · intro hall entry hentry
    obtain ⟨codec, hcodec, htarget⟩ := exists_mem_toList_rtxMapping_iff.mp ⟨entry.2, hentry⟩
    exact (hnames entry.1).mpr (hall codec hcodec entry.1 htarget)

end RtxLoop

/-! ## The settings -/

section Settings

variable (api : VideoCodecApi)

/-- What `MapCodecs` makes of a regular video codec of the list. -/
def settingsFor (codecs : List VideoCodec) (codec : VideoCodec) : VideoCodecSettings where
  codec := codec
  ulpfec := sharedUlpfec api codecs
  flexfecPayloadType := payloadTypeOf (firstOfType api .flexfec codecs)
  rtxPayloadType := payloadTypeOf (lastRtxFor api codecs codec.id)
  rtxTime := rtxTimeOf ((lastTimedRtxFor api codecs codec.id).bind (carriedRtxTime api))

/-- The conditions of `MapCodecs` on its argument, apart from that for a regular video
codec. -/
structure Mappable (codecs : List VideoCodec) : Prop where
  distinct : (codecs.map (·.id)).Nodup
  rtx : ∀ codec ∈ codecs, api.getCodecType codec = .rtx → ∃ associated,
    associatedPayloadType api codec = some associated ∧
      api.isValidRtpPayloadType associated ∧ NamesCodec api codecs associated

/-- The lists that `MapCodecs` accepts. -/
structure Acceptable (codecs : List VideoCodec) : Prop extends Mappable api codecs where
  video : ∃ codec ∈ codecs, api.getCodecType codec = .video

variable {api}

theorem mem_timedTargets_iff {codec : VideoCodec} {payloadType : ℤ} :
    payloadType ∈ timedTargets api codec ↔
      (∃ rtxTime, carriedRtxTime api codec = some rtxTime) ∧
        payloadType ∈ rtxTargets api codec := by
  rw [timedTargets, ← Option.isSome_iff_exists]
  split_ifs with htime <;> simp [htime]

/-- An entry with a time is an entry. -/
theorem lastTimedRtxFor_of_none {codecs : List VideoCodec} {payloadType : ℤ}
    (hnone : lastRtxFor api codecs payloadType = none) :
    lastTimedRtxFor api codecs payloadType = none := by
  rw [lastRtxFor, List.find?_eq_none] at hnone
  rw [lastTimedRtxFor, List.find?_eq_none]
  intro codec hmem htimed
  apply hnone codec hmem
  rw [decide_eq_true_eq] at htimed ⊢
  exact (mem_timedTargets_iff.mp htimed).2

theorem joinSettings_eq (codecs : List VideoCodec) (codec : VideoCodec) :
    joinSettings (mappedSoFar api codecs) (sharedUlpfec api codecs) { codec := codec } =
      settingsFor api codecs codec := by
  rw [joinSettings]
  simp only [getElem?_rtxMapping, getElem?_rtxTimeMapping]
  cases hrtx : lastRtxFor api codecs codec.id with
  | none =>
      simp [settingsFor, hrtx, lastTimedRtxFor_of_none hrtx, payloadTypeOf, rtxTimeOf,
        mappedSoFar]
  | some rtx =>
      cases htimed : lastTimedRtxFor api codecs codec.id with
      | none => simp [settingsFor, hrtx, htimed, payloadTypeOf, rtxTimeOf, mappedSoFar]
      | some timed =>
          have htargets : codec.id ∈ timedTargets api timed := by
            simpa using List.find?_some htimed
          obtain ⟨⟨rtxTime, hcarried⟩, -⟩ := mem_timedTargets_iff.mp htargets
          have hmin : (if rtxTime < kNackHistoryMs then rtxTime else kNackHistoryMs) =
              min rtxTime kNackHistoryMs := by
            split_ifs <;> omega
          simp [settingsFor, hrtx, htimed, hcarried, payloadTypeOf, rtxTimeOf, mappedSoFar, hmin]

/-- The two loops together ask for what `Mappable` says. -/
theorem mappable_iff {codecs : List VideoCodec} :
    Mappable api codecs ↔ AllPass (Registers api) codecs ∧
      ∀ codec ∈ codecs, ∀ payloadType ∈ rtxTargets api codec,
        NamesCodec api codecs payloadType := by
  have hregisters : AllPass (Registers api) codecs ↔ (codecs.map (·.id)).Nodup ∧
      ∀ codec ∈ codecs, api.getCodecType codec = .rtx → ∃ associated,
        associatedPayloadType api codec = some associated ∧
          api.isValidRtpPayloadType associated := by
    rw [← allPass_fresh_iff, ← allPass_const_iff]
    exact allPass_and_iff
  rw [hregisters]
  constructor
  · intro hmappable
    refine ⟨⟨hmappable.distinct, fun codec hcodec htype => ?_⟩,
      fun codec hcodec payloadType htarget => ?_⟩
    · obtain ⟨associated, hassociated, hvalid, -⟩ := hmappable.rtx codec hcodec htype
      exact ⟨associated, hassociated, hvalid⟩
    · obtain ⟨htype, hnamed⟩ := mem_rtxTargets_iff.mp htarget
      obtain ⟨associated, hassociated, -, hnames⟩ := hmappable.rtx codec hcodec htype
      obtain rfl := Option.some.inj (hassociated.symm.trans hnamed)
      exact hnames
  · rintro ⟨⟨hdistinct, hrtx⟩, hnames⟩
    refine ⟨hdistinct, fun codec hcodec htype => ?_⟩
    obtain ⟨associated, hassociated, hvalid⟩ := hrtx codec hcodec htype
    exact ⟨associated, hassociated, hvalid,
      hnames codec hcodec associated (mem_rtxTargets_iff.mpr ⟨htype, hassociated⟩)⟩

theorem mapCodecs_of_mappable {codecs : List VideoCodec} (hmappable : Mappable api codecs) :
    mapCodecs api codecs =
      (codecs.filter (isVideo api)).map (settingsFor api codecs) := by
  obtain ⟨hregisters, hnames⟩ := mappable_iff.mp hmappable
  have hfirst := foldlM_mapCodec_eq_some_iff.mpr ⟨hregisters, rfl⟩
  have hsecond : (mappedSoFar api codecs).rtxMapping.toList.foldlM
      (checkRtxMapping (mappedSoFar api codecs)) (mappedSoFar api codecs).ulpfecConfig =
        some (sharedUlpfec api codecs) := by
    rw [foldlM_checkRtxMapping_eq_some_iff, ulpfecAfter_toList]
    exact ⟨(rtxMapping_checked_iff hmappable.distinct).mpr hnames, rfl⟩
  rw [mapCodecs, hfirst]
  simp only [hsecond]
  rw [mappedSoFar, List.map_map]
  apply List.map_congr_left
  intro codec _
  exact joinSettings_eq codecs codec

theorem mapCodecs_of_not_mappable {codecs : List VideoCodec}
    (hmappable : ¬ Mappable api codecs) : mapCodecs api codecs = [] := by
  rw [mapCodecs]
  cases hfirst : codecs.foldlM (mapCodec api) {} with
  | none => rfl
  | some mapped =>
      obtain ⟨hregisters, rfl⟩ := foldlM_mapCodec_eq_some_iff.mp hfirst
      simp only
      cases hsecond : (mappedSoFar api codecs).rtxMapping.toList.foldlM
          (checkRtxMapping (mappedSoFar api codecs)) (mappedSoFar api codecs).ulpfecConfig with
      | none => rfl
      | some ulpfecConfig =>
          have hdistinct : (codecs.map (·.id)).Nodup :=
            allPass_fresh_iff.mp (allPass_and_iff.mp hregisters).1
          obtain ⟨hchecked, -⟩ := foldlM_checkRtxMapping_eq_some_iff.mp hsecond
          exact absurd (mappable_iff.mpr
            ⟨hregisters, (rtxMapping_checked_iff hdistinct).mp hchecked⟩) hmappable

/-- A list is accepted when something is returned for it. -/
theorem mapCodecs_ne_nil_iff {codecs : List VideoCodec} :
    mapCodecs api codecs ≠ [] ↔ Acceptable api codecs := by
  by_cases hmappable : Mappable api codecs
  · rw [mapCodecs_of_mappable hmappable, Ne, List.map_eq_nil_iff, List.filter_eq_nil_iff]
    simp only [isVideo, decide_eq_true_eq]
    constructor
    · intro hnone
      push Not at hnone
      exact ⟨hmappable, hnone⟩
    · rintro ⟨-, codec, hcodec, hvideo⟩ hnone
      exact hnone codec hcodec hvideo
  · rw [mapCodecs_of_not_mappable hmappable]
    exact ⟨fun hne => absurd rfl hne, fun hacceptable => absurd hacceptable.toMappable hmappable⟩

/-- The fields of a returned setting in terms of the list, with `-1` for what is absent. -/
structure Joined (api : VideoCodecApi) (codecs : List VideoCodec)
    (settings : VideoCodecSettings) : Prop where
  red : settings.ulpfec.redPayloadType = payloadTypeOf (firstOfType api .red codecs)
  ulpfec : settings.ulpfec.ulpfecPayloadType = payloadTypeOf (firstOfType api .ulpfec codecs)
  flexfec : settings.flexfecPayloadType = payloadTypeOf (firstOfType api .flexfec codecs)
  redRtx : settings.ulpfec.redRtxPayloadType =
    payloadTypeOf ((firstOfType api .red codecs).bind fun red => lastRtxFor api codecs red.id)
  rtx : settings.rtxPayloadType = payloadTypeOf (lastRtxFor api codecs settings.codec.id)

/-- A payload type of the protocol is not taken for an absent one. -/
theorem firstPresent_eq_firstOfType {codecs : List VideoCodec}
    (hrange : ∀ codec ∈ codecs, 0 ≤ codec.id ∧ codec.id ≤ 127) (type : CodecType) :
    firstPresent api type codecs = firstOfType api type codecs := by
  apply List.find?_congr
  intro codec hcodec
  have hpresent : codec.id ≠ -1 := by
    have hbounds := hrange codec hcodec
    omega
  simp [hpresent]

/-- No RTX entry of an accepted list names the payload type that stands for "absent". -/
theorem lastRtxFor_absent {codecs : List VideoCodec} (hmappable : Mappable api codecs)
    (hrange : ∀ codec ∈ codecs, 0 ≤ codec.id ∧ codec.id ≤ 127) :
    lastRtxFor api codecs (-1) = none := by
  rw [lastRtxFor, List.find?_eq_none]
  intro rtx hrtx htarget
  rw [decide_eq_true_eq] at htarget
  obtain ⟨codec, hcodec, hid, -⟩ :=
    (mappable_iff.mp hmappable).2 rtx (List.mem_reverse.mp hrtx) (-1) htarget
  have hbounds := hrange codec hcodec
  omega

theorem joined_settingsFor {codecs : List VideoCodec} (hmappable : Mappable api codecs)
    (hrange : ∀ codec ∈ codecs, 0 ≤ codec.id ∧ codec.id ≤ 127) (codec : VideoCodec) :
    Joined api codecs (settingsFor api codecs codec) where
  red := by
    rw [← firstPresent_eq_firstOfType hrange]
    rfl
  ulpfec := by
    rw [← firstPresent_eq_firstOfType hrange]
    rfl
  flexfec := rfl
  redRtx := by
    simp only [settingsFor, sharedUlpfec]
    rw [firstPresent_eq_firstOfType hrange]
    cases firstOfType api .red codecs with
    | some red => rfl
    | none =>
        have habsent := lastRtxFor_absent hmappable hrange
        simp [payloadTypeOf, habsent]
  rtx := rfl

/-- `MapCodecs` accepts exactly the lists with distinct payload types, an owner for every RTX
entry and a regular video codec, and returns the regular video codecs in order, each with the
payload types that belong to it. -/
theorem mapCodecs_spec {codecs : List VideoCodec}
    (hrange : ∀ codec ∈ codecs, 0 ≤ codec.id ∧ codec.id ≤ 127) :
    (mapCodecs api codecs ≠ [] ↔ Acceptable api codecs) ∧
      (Acceptable api codecs →
        (mapCodecs api codecs).map (·.codec) = codecs.filter (isVideo api) ∧
          ∀ settings ∈ mapCodecs api codecs, Joined api codecs settings) := by
  refine ⟨mapCodecs_ne_nil_iff, fun hacceptable => ?_⟩
  rw [mapCodecs_of_mappable hacceptable.toMappable]
  constructor
  · rw [List.map_map]
    exact List.map_id _
  · intro settings hsettings
    obtain ⟨codec, -, rfl⟩ := List.mem_map.mp hsettings
    exact joined_settingsFor hacceptable.toMappable hrange codec

/-- VP8 and two RTX entries for it; the first one carries a time. -/
def vp8WithTwoRtx : List VideoCodec :=
  [{ id := 96, name := ascii "VP8" },
    { id := 97, name := kRtxCodecName
      params := .ofList [(kCodecParamAssociatedPayloadType, ascii "96"),
        (kCodecParamRtxTime, ascii "200")] },
    { id := 98, name := kRtxCodecName
      params := .ofList [(kCodecParamAssociatedPayloadType, ascii "96")] }]

theorem mapCodecs_spec_vp8 : Acceptable webrtcCodecApi vp8WithTwoRtx :=
  (mapCodecs_spec (by decide)).1.mp (by decide +kernel)

/-! ## The time of an RTX entry -/

/-- Each setting with an RTX payload type has the time of that RTX entry. -/
def TimesPaired (api : VideoCodecApi) (codecs : List VideoCodec) : Prop :=
  ∀ settings ∈ mapCodecs api codecs, ∀ entry ∈ codecs,
    settings.codec.id ∈ rtxTargets api entry → entry.id = settings.rtxPayloadType →
      settings.rtxTime = rtxTimeOf (carriedRtxTime api entry)

/-- Where the last RTX entry of a regular video codec carries no time, no earlier one does. -/
def LastEntriesDecide (api : VideoCodecApi) (codecs : List VideoCodec) : Prop :=
  ∀ codec ∈ codecs, api.getCodecType codec = .video →
    ∀ last, lastRtxFor api codecs codec.id = some last → carriedRtxTime api last = none →
      ∀ entry ∈ codecs, codec.id ∈ rtxTargets api entry → carriedRtxTime api entry = none

theorem rtxTimeOf_eq_iff {rtxTime : ℤ} (hpositive : 0 < rtxTime) :
    rtxTimeOf (some rtxTime) ≠ rtxTimeOf none := by
  have hmin : 0 < min rtxTime kNackHistoryMs := lt_min hpositive (by decide)
  simp only [rtxTimeOf, Option.map_some, Option.getD_some, Option.map_none, Option.getD_none]
  omega

theorem pos_of_carriedRtxTime {codec : VideoCodec} {rtxTime : ℤ}
    (hcarried : carriedRtxTime api codec = some rtxTime) : 0 < rtxTime := by
  rw [carriedRtxTime, Option.filter_eq_some_iff] at hcarried
  simpa using hcarried.2

/-- The last entry decides about the time as well when it carries one. -/
theorem lastTimedRtxFor_of_timed {codecs : List VideoCodec} {payloadType : ℤ}
    {last : VideoCodec} (hlast : lastRtxFor api codecs payloadType = some last)
    (htimed : payloadType ∈ timedTargets api last) :
    lastTimedRtxFor api codecs payloadType = some last := by
  rw [lastRtxFor, List.find?_eq_some_iff_append] at hlast
  obtain ⟨-, later, earlier, hsplit, hnone⟩ := hlast
  rw [lastTimedRtxFor, List.find?_eq_some_iff_append]
  refine ⟨by simpa using htimed, later, earlier, hsplit, fun codec hcodec => ?_⟩
  have htarget := hnone codec hcodec
  simp only [Bool.not_eq_true', decide_eq_false_iff_not] at htarget ⊢
  exact fun hmem => htarget (mem_timedTargets_iff.mp hmem).2

/-- The time of a setting is that of its RTX entry, unless that one carries none and an
earlier one does. -/
theorem rtxTime_eq_iff {codecs : List VideoCodec} {payloadType : ℤ} {last : VideoCodec}
    (hlast : lastRtxFor api codecs payloadType = some last) :
    rtxTimeOf ((lastTimedRtxFor api codecs payloadType).bind (carriedRtxTime api)) =
        rtxTimeOf (carriedRtxTime api last) ↔
      (carriedRtxTime api last = none → ∀ entry ∈ codecs,
        payloadType ∈ rtxTargets api entry → carriedRtxTime api entry = none) := by
  have htarget : payloadType ∈ rtxTargets api last := by simpa using List.find?_some hlast
  cases hcarried : carriedRtxTime api last with
  | some rtxTime =>
      have htimed := mem_timedTargets_iff.mpr ⟨⟨rtxTime, hcarried⟩, htarget⟩
      simp [lastTimedRtxFor_of_timed hlast htimed, hcarried]
  | none =>
      cases htimed : lastTimedRtxFor api codecs payloadType with
      | none =>
          rw [lastTimedRtxFor, List.find?_eq_none] at htimed
          refine ⟨fun _ _ entry hentry hnames => ?_, fun _ => rfl⟩
          by_contra hne
          obtain ⟨rtxTime, htime⟩ := Option.ne_none_iff_exists'.mp hne
          apply htimed entry (List.mem_reverse.mpr hentry)
          rw [decide_eq_true_eq]
          exact mem_timedTargets_iff.mpr ⟨⟨rtxTime, htime⟩, hnames⟩
      | some timed =>
          have hmem := List.mem_reverse.mp (List.mem_of_find?_eq_some htimed)
          have htargets : payloadType ∈ timedTargets api timed := by
            simpa using List.find?_some htimed
          obtain ⟨⟨rtxTime, htime⟩, hnames⟩ := mem_timedTargets_iff.mp htargets
          rw [Option.bind_some, htime]
          constructor
          · intro hsame
            exact absurd hsame (rtxTimeOf_eq_iff (pos_of_carriedRtxTime htime))
          · intro hnone
            rw [hnone rfl timed hmem hnames] at htime
            exact absurd htime (by simp)

/-- An accepted list keeps the RTX pairs together exactly when no RTX entry without a time
follows one with a time for the same regular video codec, as its last entry. -/
theorem timesPaired_iff {codecs : List VideoCodec} (haccepted : mapCodecs api codecs ≠ []) :
    TimesPaired api codecs ↔ LastEntriesDecide api codecs := by
  have hmappable := (mapCodecs_ne_nil_iff.mp haccepted).toMappable
  rw [TimesPaired, mapCodecs_of_mappable hmappable]
  constructor
  · intro hpaired codec hcodec hvideo last hlast
    have hsettings : settingsFor api codecs codec ∈
        (codecs.filter (isVideo api)).map (settingsFor api codecs) :=
      List.mem_map_of_mem (List.mem_filter.mpr ⟨hcodec, by simpa [isVideo] using hvideo⟩)
    have hmem := List.mem_reverse.mp (List.mem_of_find?_eq_some hlast)
    have htarget : codec.id ∈ rtxTargets api last := by simpa using List.find?_some hlast
    apply (rtxTime_eq_iff hlast).mp
    apply hpaired _ hsettings last hmem htarget
    simp [settingsFor, hlast, payloadTypeOf]
  · intro hdecide settings hsettings entry hentry htarget hid
    obtain ⟨codec, hcodec, rfl⟩ := List.mem_map.mp hsettings
    obtain ⟨hcodec, hvideo⟩ := List.mem_filter.mp hcodec
    cases hlast : lastRtxFor api codecs codec.id with
    | none =>
        have hnone := List.find?_eq_none.mp hlast entry (List.mem_reverse.mpr hentry)
        exact absurd (decide_eq_true htarget) hnone
    | some last =>
        have hmem := List.mem_reverse.mp (List.mem_of_find?_eq_some hlast)
        have hsame : entry = last := by
          apply List.inj_on_of_nodup_map hmappable.distinct hentry hmem
          rw [hid]
          simp [settingsFor, hlast, payloadTypeOf]
        rw [hsame]
        exact (rtxTime_eq_iff hlast).mpr
          (hdecide codec hcodec (by simpa [isVideo] using hvideo) last hlast)

theorem timesPaired_vp8 : TimesPaired webrtcCodecApi (vp8WithTwoRtx.take 2) := by
  apply (timesPaired_iff (by decide +kernel)).mpr
  unfold LastEntriesDecide
  decide +kernel

/-- The second RTX entry carries no time and is given that of the first. -/
theorem timesPaired_fails :
    mapCodecs webrtcCodecApi vp8WithTwoRtx ≠ [] ∧
      ¬ TimesPaired webrtcCodecApi vp8WithTwoRtx := by
  refine ⟨by decide +kernel, ?_⟩
  unfold TimesPaired
  decide +kernel

end Settings

end PeerConnection.Engine
