import PeerConnection.Engine.MappedCodecs
import PeerConnection.Engine.PayloadTypes

/-!
# `MapCodecs` on the default codecs

The generator puts every RTX codec right behind the codec that it is for.  Since no payload
type comes up twice, an RTX codec of the generated list names no other codec, and `MapCodecs`
finds for each regular video codec the RTX codec behind it.
-/

namespace PeerConnection.Engine

open PeerConnection.Text
open PeerConnection.Scan
open PeerConnection.Prefixes

variable {api : VideoCodecApi}

/-- How a codec stands to the codecs before it: an RTX codec is for the last of them, and
nothing else follows a regular video codec. -/
structure Adjoins (api : VideoCodecApi) (front : List VideoCodec) (codec : VideoCodec) :
    Prop where
  rtx : api.getCodecType codec = .rtx → ∃ owner, front.getLast? = some owner ∧
    associatedPayloadType api codec = some owner.id ∧
      (api.getCodecType owner = .video ∨ api.getCodecType owner = .red)
  video : ∀ owner, front.getLast? = some owner → api.getCodecType owner = .video →
    api.getCodecType codec = .rtx

/-- A generated list: what `MapCodecs` needs, and what the loop keeps. -/
structure Generated (api : VideoCodecApi) (codecs : List VideoCodec) : Prop where
  distinct : (codecs.map (·.id)).Nodup
  range : ∀ codec ∈ codecs, InDynamicRange codec.id
  adjoins : AllPass (Adjoins api) codecs

/-! ## The loop -/

/-- The output once these formats have been read. -/
structure Output (api : VideoCodecApi) (front : List SdpVideoFormat) (types : PayloadTypes) :
    Prop where
  tidy : Tidy types
  adjoins : AllPass (Adjoins api) types.outputCodecs
  present : ∀ format ∈ front, ∃ codec ∈ types.outputCodecs, codec.name = format.name

/-- The last codec needs no RTX codec any more. -/
def Complete (api : VideoCodecApi) (types : PayloadTypes) : Prop :=
  ∀ last, types.outputCodecs.getLast? = some last → api.getCodecType last ≠ .video

theorem output_init : Output api [] {} where
  tidy := tidy_init
  adjoins := allPass_nil _
  present := by simp

theorem complete_init : Complete api {} := by
  simp [Complete]

theorem outputCodecs_push (types : PayloadTypes) (format : SdpVideoFormat)
    (codec : VideoCodec) :
    (types.push format codec).outputCodecs = types.outputCodecs ++ [codec] := by
  rw [PayloadTypes.push]
  split_ifs <;> rfl

theorem getCodecType_defaultCodec (hlawful : LawfulCodecApi api) (format : SdpVideoFormat)
    (payloadType : ℤ) :
    api.getCodecType (defaultCodec format payloadType) = codecTypeOfName format.name := by
  rw [hlawful.getCodecType, defaultCodec_name]

theorem codecTypeOfName_of_fec {format : SdpVideoFormat} (hfec : isFecCodec format = true) :
    codecTypeOfName format.name ≠ .video := by
  rw [isFecCodec, Bool.or_eq_true] at hfec
  rw [codecTypeOfName]
  split_ifs with hred hulpfec hflexfec hrtx
  all_goals simp_all

/-- A name that is neither that of a FEC codec nor "rtx" needs an RTX codec. -/
theorem codecTypeOfName_of_not_fec {format : SdpVideoFormat}
    (hfec : isFecCodec format = false) (hrtx : codecTypeOfName format.name ≠ .rtx) :
    codecTypeOfName format.name = .video ∨ codecTypeOfName format.name = .red := by
  rw [isFecCodec, Bool.or_eq_false_iff] at hfec
  rw [codecTypeOfName] at hrtx ⊢
  split_ifs at hrtx ⊢
  all_goals simp_all

theorem output_pushCodec {front : List SdpVideoFormat} {types : PayloadTypes}
    {format : SdpVideoFormat} (hlawful : LawfulCodecApi api)
    (hname : codecTypeOfName format.name ≠ .rtx) (houtput : Output api front types)
    (hcomplete : Complete api types) (hspent : ¬ types.exhausted) :
    Output api (front ++ [format]) (types.pushCodec format) where
  tidy := tidy_pushCodec houtput.tidy hspent
  adjoins := by
    rw [PayloadTypes.pushCodec, outputCodecs_push, allPass_concat_iff]
    refine ⟨houtput.adjoins, ?_, ?_⟩
    · intro hrtx
      rw [getCodecType_defaultCodec hlawful] at hrtx
      exact absurd hrtx hname
    · intro owner howner hvideo
      exact absurd hvideo (hcomplete owner howner)
  present := by
    intro other hother
    rw [PayloadTypes.pushCodec, outputCodecs_push]
    rcases List.mem_append.mp hother with hold | hnew
    · obtain ⟨codec, hcodec, hsame⟩ := houtput.present other hold
      exact ⟨codec, List.mem_append_left _ hcodec, hsame⟩
    · rw [List.mem_singleton.mp hnew]
      exact ⟨_, List.mem_append_right _ (List.mem_singleton_self _), defaultCodec_name _ _⟩

theorem complete_pushCodec {types : PayloadTypes} {format : SdpVideoFormat}
    (hlawful : LawfulCodecApi api) (hfec : isFecCodec format = true) :
    Complete api (types.pushCodec format) := by
  intro last hlast
  rw [PayloadTypes.pushCodec, outputCodecs_push, List.getLast?_concat] at hlast
  obtain rfl := Option.some.inj hlast
  rw [getCodecType_defaultCodec hlawful]
  exact codecTypeOfName_of_fec hfec

theorem getCodecType_createRtxCodec (hlawful : LawfulCodecApi api)
    (rtxPayloadType associated : ℤ) :
    api.getCodecType (api.createRtxCodec rtxPayloadType associated) = .rtx := by
  rw [hlawful.getCodecType, hlawful.rtxName]
  decide

/-- The RTX codec goes behind the codec that it is for. -/
theorem output_pushRtx {front : List SdpVideoFormat} {types : PayloadTypes}
    {format : SdpVideoFormat} (hlawful : LawfulCodecApi api)
    (hname : codecTypeOfName format.name ≠ .rtx) (hfec : isFecCodec format = false)
    (htidy : Tidy types) (houtput : Output api front (types.pushCodec format))
    (hspent : ¬ (types.pushCodec format).exhausted) :
    Output api front ((types.pushCodec format).pushRtx api format (types.next format)) ∧
      Complete api ((types.pushCodec format).pushRtx api format (types.next format)) := by
  have hnext : 0 ≤ types.next format := by
    have hlower := htidy.lowerBounds
    have hupper := htidy.upperBounds
    rw [PayloadTypes.next]
    split_ifs <;> omega
  constructor
  · refine ⟨tidy_pushRtx hlawful houtput.tidy hspent, ?_, ?_⟩
    · rw [PayloadTypes.pushRtx, outputCodecs_push, allPass_concat_iff]
      refine ⟨houtput.adjoins, fun _ => ?_, fun _ _ _ =>
        getCodecType_createRtxCodec hlawful _ _⟩
      refine ⟨defaultCodec format (types.next format), ?_, ?_, ?_⟩
      · rw [PayloadTypes.pushCodec, outputCodecs_push, List.getLast?_concat]
      · rw [defaultCodec_id]
        exact hlawful.rtxParam _ _ hnext
      · rw [getCodecType_defaultCodec hlawful]
        exact codecTypeOfName_of_not_fec hfec hname
    · intro other hother
      obtain ⟨codec, hcodec, hsame⟩ := houtput.present other hother
      rw [PayloadTypes.pushRtx, outputCodecs_push]
      exact ⟨codec, List.mem_append_left _ hcodec, hsame⟩
  · intro last hlast
    rw [PayloadTypes.pushRtx, outputCodecs_push, List.getLast?_concat] at hlast
    obtain rfl := Option.some.inj hlast
    rw [getCodecType_createRtxCodec hlawful]
    decide

/-- One format more. -/
theorem output_numberFormat {front : List SdpVideoFormat} {types next : PayloadTypes}
    {format : SdpVideoFormat} (hlawful : LawfulCodecApi api)
    (hname : codecTypeOfName format.name ≠ .rtx) (houtput : Output api front types)
    (hcomplete : Complete api types) (hnext : numberFormat api types format = .next next) :
    Output api (front ++ [format]) next ∧ Complete api next := by
  obtain ⟨-, hbody⟩ | ⟨hspent, hfec, hbody⟩ | ⟨-, -, -, hbody⟩ | ⟨hspent, hfec, hpushed, hbody⟩ :=
    numberFormat_cases api types format
  · rw [hbody] at hnext
    exact absurd hnext (by simp)
  · rw [hbody] at hnext
    obtain rfl := Outcome.next.inj hnext
    exact ⟨output_pushCodec hlawful hname houtput hcomplete hspent,
      complete_pushCodec hlawful hfec⟩
  · rw [hbody] at hnext
    exact absurd hnext (by simp)
  · rw [hbody] at hnext
    obtain rfl := Outcome.next.inj hnext
    exact output_pushRtx hlawful hname hfec houtput.tidy
      (output_pushCodec hlawful hname houtput hcomplete hspent) hpushed

/-- Where the loop is left, the last codec may be without an RTX codec. -/
theorem output_stop {front : List SdpVideoFormat} {types left : PayloadTypes}
    {format : SdpVideoFormat} (hlawful : LawfulCodecApi api)
    (hname : codecTypeOfName format.name ≠ .rtx) (houtput : Output api front types)
    (hcomplete : Complete api types) (hstop : numberFormat api types format = .stop left) :
    Output api front left := by
  obtain ⟨-, hbody⟩ | ⟨-, -, hbody⟩ | ⟨hspent, -, -, hbody⟩ | ⟨-, -, -, hbody⟩ :=
    numberFormat_cases api types format
  · rw [hbody] at hstop
    obtain rfl := Outcome.stop.inj hstop
    exact houtput
  · rw [hbody] at hstop
    exact absurd hstop (by simp)
  · rw [hbody] at hstop
    obtain rfl := Outcome.stop.inj hstop
    have hpushed := output_pushCodec hlawful hname houtput hcomplete hspent
    exact ⟨hpushed.tidy, hpushed.adjoins, fun other hother =>
      hpushed.present other (List.mem_append_left _ hother)⟩
  · rw [hbody] at hstop
    exact absurd hstop (by simp)

/-- The lower range is not used up before the first format, nor before its RTX codec. -/
theorem front_ne_nil_of_stop {front : List SdpVideoFormat} {types left : PayloadTypes}
    {format : SdpVideoFormat} (hnumbered : Numbered front types)
    (hstop : numberFormat api types format = .stop left) : front ≠ [] := by
  rintro rfl
  have hcounted : Counted types 0 0 := hnumbered.counted
  have hpushed := counted_push format (defaultCodec format (types.next format)) hcounted
  obtain ⟨hspent, -⟩ | ⟨-, -, hbody⟩ | ⟨-, -, hspent, -⟩ | ⟨-, -, -, hbody⟩ :=
    numberFormat_cases api types format
  · rw [exhausted_iff hcounted] at hspent
    omega
  · rw [hbody] at hstop
    exact absurd hstop (by simp)
  · rw [PayloadTypes.pushCodec, exhausted_iff hpushed] at hspent
    split_ifs at hspent <;> omega
  · rw [hbody] at hstop
    exact absurd hstop (by simp)

theorem inDynamicRange_of_taken {types : PayloadTypes} (htidy : Tidy types) {payloadType : ℤ}
    (htaken : Taken types payloadType) : InDynamicRange payloadType := by
  have hlower := htidy.lowerBounds
  have hupper := htidy.upperBounds
  rw [Taken] at htaken
  rw [InDynamicRange, kFirstDynamicPayloadTypeLowerRange, kLastDynamicPayloadTypeLowerRange,
    kFirstDynamicPayloadTypeUpperRange, kLastDynamicPayloadTypeUpperRange]
  omega

theorem generated_of_output {front : List SdpVideoFormat} {types : PayloadTypes}
    (houtput : Output api front types) : Generated api types.outputCodecs where
  distinct := houtput.tidy.distinct
  range codec hcodec := inDynamicRange_of_taken houtput.tidy (houtput.tidy.taken codec hcodec)
  adjoins := houtput.adjoins

theorem codecTypeOfName_allFormats {formats : List SdpVideoFormat}
    (hnames : ∀ format ∈ formats, codecTypeOfName format.name ≠ .rtx) :
    ∀ format ∈ allFormats formats, codecTypeOfName format.name ≠ .rtx := by
  intro format hformat
  rw [allFormats] at hformat
  split_ifs at hformat
  · simp at hformat
  · rcases List.mem_append.mp hformat with hgiven | hadded
    · exact hnames format hgiven
    · simp only [List.mem_cons, List.not_mem_nil, or_false] at hadded
      rcases hadded with rfl | rfl <;> decide

/-- The loop ends with a generated list that has a codec for the first format. -/
theorem generated_defaultCodecs (hlawful : LawfulCodecApi api) {first : SdpVideoFormat}
    {rest : List SdpVideoFormat}
    (hnames : ∀ format ∈ first :: rest, codecTypeOfName format.name ≠ .rtx) :
    Generated api (getPayloadTypesAndDefaultCodecs api (some (first :: rest))) ∧
      ∃ codec ∈ getPayloadTypesAndDefaultCodecs api (some (first :: rest)),
        codec.name = first.name := by
  have hall := codecTypeOfName_allFormats hnames
  have hrun := @scan_cases _ _ _ (numberFormat api)
    (fun front types => Numbered front types ∧
      ((∀ format ∈ front, codecTypeOfName format.name ≠ .rtx) →
        Output api front types ∧ Complete api types)) {}
    ⟨numbered_init, fun _ => ⟨output_init, complete_init⟩⟩
    (fun front format types next hinv hnext => ⟨numbered_numberFormat hinv.1 hnext,
      fun hnext' => by
        have hfront := hinv.2 fun other hother => hnext' other (List.mem_append_left _ hother)
        have hname := hnext' format (List.mem_append_right _ (List.mem_singleton_self _))
        exact output_numberFormat hlawful hname hfront.1 hfront.2 hnext⟩)
    (allFormats (first :: rest))
  have hformats := allFormats_of_ne_nil (List.cons_ne_nil first rest)
  obtain ⟨final, hscan, -, hinv⟩ | ⟨front, format, back, types, hsplit, ⟨hnumbered, hinv⟩,
    hscan, hexit⟩ := hrun
  · have houtput : getPayloadTypesAndDefaultCodecs api (some (first :: rest)) =
        final.outputCodecs := by
      simp only [getPayloadTypesAndDefaultCodecs, numberFormats, hscan]
    have hfinal := (hinv hall).1
    rw [houtput]
    exact ⟨generated_of_output hfinal, hfinal.present first (by simp [hformats])⟩
  · cases hbody : numberFormat api types format with
    | fault reason => exact reason.elim
    | next next => exact absurd hbody (hexit next)
    | stop left =>
        have houtput : getPayloadTypesAndDefaultCodecs api (some (first :: rest)) =
            left.outputCodecs := by
          simp only [getPayloadTypesAndDefaultCodecs, numberFormats, hscan, hbody]
        have hfront := hinv fun other hother => hall other (by simp [hsplit, hother])
        have hname := hall format (by simp [hsplit])
        have hleft := output_stop hlawful hname hfront.1 hfront.2 hbody
        rw [houtput]
        refine ⟨generated_of_output hleft, hleft.present first ?_⟩
        obtain ⟨head, tail, rfl⟩ := List.exists_cons_of_ne_nil
          (front_ne_nil_of_stop hnumbered hbody)
        rw [hformats] at hsplit
        have hhead : first = head := by simpa using congrArg List.head? hsplit
        rw [hhead]
        exact List.mem_cons_self

/-! ## What `MapCodecs` finds -/

section Mapped

variable {codecs front back : List VideoCodec} {codec : VideoCodec}

/-- Where a codec stands in a generated list is unique. -/
theorem split_unique (hgenerated : Generated api codecs)
    (hsplit : codecs = front ++ codec :: back) {before behind : List VideoCodec}
    {other : VideoCodec} (hother : codecs = before ++ other :: behind)
    (hid : other.id = codec.id) : before = front ∧ behind = back := by
  have hdistinct := hgenerated.distinct
  have hmem : codec ∈ codecs := by simp [hsplit]
  have hmember : other ∈ codecs := by simp [hother]
  obtain rfl := List.inj_on_of_nodup_map hdistinct hmember hmem hid
  have hnodup := List.Nodup.of_map _ hdistinct
  have hfront : other ∉ front := by
    rw [hsplit, List.nodup_middle] at hnodup
    exact fun hin => (List.nodup_cons.mp hnodup).1 (List.mem_append_left _ hin)
  have hback : other ∉ back := by
    rw [hsplit, List.nodup_middle] at hnodup
    exact fun hin => (List.nodup_cons.mp hnodup).1 (List.mem_append_right _ hin)
  have hsame : before ++ other :: behind = front ++ other :: back := hother.symm.trans hsplit
  have hparts := (List.append_cons_inj_of_notMem hfront hback).mp hsame.symm
  exact ⟨hparts.1.symm, hparts.2.2.symm⟩

/-- The RTX codecs for a codec of the list stand right behind it. -/
theorem head?_of_mem_rtxTargets (hgenerated : Generated api codecs)
    (hsplit : codecs = front ++ codec :: back) {rtx : VideoCodec} (hrtx : rtx ∈ codecs)
    (htarget : codec.id ∈ rtxTargets api rtx) : back.head? = some rtx := by
  obtain ⟨before, behind, hrtxSplit⟩ := List.append_of_mem hrtx
  obtain ⟨htype, hassociated⟩ := mem_rtxTargets_iff.mp htarget
  obtain ⟨owner, hlast, hnamed, -⟩ :=
    (hgenerated.adjoins before rtx behind hrtxSplit).rtx htype
  have hid : owner.id = codec.id := Option.some.inj (hnamed.symm.trans hassociated)
  obtain ⟨init, rfl⟩ := List.getLast?_eq_some_iff.mp hlast
  rw [List.append_assoc, List.singleton_append] at hrtxSplit
  obtain ⟨-, rfl⟩ := split_unique hgenerated hsplit hrtxSplit hid
  rfl

/-- What stands behind a regular video codec is its RTX codec. -/
theorem mem_rtxTargets_of_head? (hgenerated : Generated api codecs)
    (hsplit : codecs = front ++ codec :: back) (hvideo : api.getCodecType codec = .video)
    {rtx : VideoCodec} (hhead : back.head? = some rtx) :
    codec.id ∈ rtxTargets api rtx := by
  obtain ⟨rest, rfl⟩ := List.head?_eq_some_iff.mp hhead
  have hbehind : codecs = (front ++ [codec]) ++ rtx :: rest := by
    rw [hsplit, List.append_assoc, List.singleton_append]
  have hadjoins := hgenerated.adjoins _ _ _ hbehind
  have htype := hadjoins.video codec (List.getLast?_concat ..) hvideo
  obtain ⟨owner, hlast, hnamed, -⟩ := hadjoins.rtx htype
  rw [List.getLast?_concat] at hlast
  obtain rfl := Option.some.inj hlast
  exact mem_rtxTargets_iff.mpr ⟨htype, hnamed⟩

/-- The last RTX entry for a regular video codec is the codec behind it. -/
theorem lastRtxFor_generated (hgenerated : Generated api codecs)
    (hsplit : codecs = front ++ codec :: back) (hvideo : api.getCodecType codec = .video) :
    lastRtxFor api codecs codec.id = back.head? := by
  cases hlast : lastRtxFor api codecs codec.id with
  | some rtx =>
      have hmem := List.mem_reverse.mp (List.mem_of_find?_eq_some hlast)
      have htarget : codec.id ∈ rtxTargets api rtx := by simpa using List.find?_some hlast
      exact (head?_of_mem_rtxTargets hgenerated hsplit hmem htarget).symm
  | none =>
      cases hhead : back.head? with
      | none => rfl
      | some rtx =>
          have htarget := mem_rtxTargets_of_head? hgenerated hsplit hvideo hhead
          have hmem : rtx ∈ codecs := by
            rw [hsplit]
            exact List.mem_append_right _ (List.mem_cons_of_mem _ (List.mem_of_head? hhead))
          have hnone := List.find?_eq_none.mp hlast rtx (List.mem_reverse.mpr hmem)
          exact absurd (decide_eq_true htarget) hnone

end Mapped

/-- A generated list with a regular video codec is accepted. -/
theorem acceptable_generated (hlawful : LawfulCodecApi api) {codecs : List VideoCodec}
    (hgenerated : Generated api codecs)
    (hvideo : ∃ codec ∈ codecs, api.getCodecType codec = .video) :
    Acceptable api codecs where
  distinct := hgenerated.distinct
  rtx := by
    intro rtx hrtx htype
    obtain ⟨before, behind, hsplit⟩ := List.append_of_mem hrtx
    obtain ⟨owner, hlast, hnamed, hkind⟩ :=
      (hgenerated.adjoins before rtx behind hsplit).rtx htype
    have howner : owner ∈ codecs := by
      rw [hsplit]
      exact List.mem_append_left _ (List.mem_of_getLast? hlast)
    have hrange := hgenerated.range owner howner
    refine ⟨owner.id, hnamed, ?_, owner, howner, rfl, hkind⟩
    rw [hlawful.isValidRtpPayloadType, decide_eq_true_eq]
    rw [InDynamicRange, kFirstDynamicPayloadTypeLowerRange, kLastDynamicPayloadTypeLowerRange,
      kFirstDynamicPayloadTypeUpperRange, kLastDynamicPayloadTypeUpperRange] at hrange
    omega
  video := hvideo

/-- What a list of default codecs is good for. -/
structure WellFormedCodecs (api : VideoCodecApi) (codecs : List VideoCodec) : Prop where
  distinct : (codecs.map (·.id)).Nodup
  range : ∀ codec ∈ codecs, InDynamicRange codec.id
  rtxFollows : ∀ front codec back, codecs = front ++ codec :: back →
    api.getCodecType codec = .rtx →
      ∃ owner, front.getLast? = some owner ∧ associatedPayloadType api codec = some owner.id
  accepted : mapCodecs api codecs ≠ []
  mapped : (mapCodecs api codecs).map (·.codec) =
    codecs.filter fun codec => api.getCodecType codec = .video
  paired : ∀ settings ∈ mapCodecs api codecs, ∀ front back,
    codecs = front ++ settings.codec :: back →
      settings.rtxPayloadType = payloadTypeOf back.head? ∧
        ∀ behind, back.head? = some behind → api.getCodecType behind = .rtx

theorem wellFormed_generated (hlawful : LawfulCodecApi api) {codecs : List VideoCodec}
    (hgenerated : Generated api codecs)
    (hvideo : ∃ codec ∈ codecs, api.getCodecType codec = .video) :
    WellFormedCodecs api codecs := by
  have hacceptable := acceptable_generated hlawful hgenerated hvideo
  have hmapped := mapCodecs_of_mappable hacceptable.toMappable
  refine ⟨hgenerated.distinct, hgenerated.range, ?_, mapCodecs_ne_nil_iff.mpr hacceptable,
    ?_, ?_⟩
  · intro front codec back hsplit htype
    obtain ⟨owner, hlast, hnamed, -⟩ := (hgenerated.adjoins front codec back hsplit).rtx htype
    exact ⟨owner, hlast, hnamed⟩
  · rw [hmapped, List.map_map]
    exact List.map_id _
  · intro settings hsettings front back hsplit
    rw [hmapped] at hsettings
    obtain ⟨codec, hcodec, rfl⟩ := List.mem_map.mp hsettings
    have htype : api.getCodecType codec = .video := by
      simpa [isVideo] using (List.mem_filter.mp hcodec).2
    constructor
    · exact congrArg payloadTypeOf (lastRtxFor_generated hgenerated hsplit htype)
    · intro behind hbehind
      exact (mem_rtxTargets_iff.mp
        (mem_rtxTargets_of_head? hgenerated hsplit htype hbehind)).1

/-- The default codecs are well formed, and `MapCodecs` returns the regular video codecs among
them, each with the RTX codec behind it. -/
theorem wellFormed_defaultCodecs (hlawful : LawfulCodecApi api) {first : SdpVideoFormat}
    {rest : List SdpVideoFormat}
    (hnames : ∀ format ∈ first :: rest, api.getCodecType (VideoCodec.ofFormat format) ≠ .rtx)
    (hfirst : api.getCodecType (VideoCodec.ofFormat first) = .video) :
    WellFormedCodecs api (getPayloadTypesAndDefaultCodecs api (some (first :: rest))) := by
  have hnamed : ∀ format ∈ first :: rest, codecTypeOfName format.name ≠ .rtx := by
    intro format hformat
    have hname := hnames format hformat
    rwa [hlawful.getCodecType] at hname
  obtain ⟨hgenerated, codec, hcodec, hname⟩ := generated_defaultCodecs hlawful hnamed
  apply wellFormed_generated hlawful hgenerated
  refine ⟨codec, hcodec, ?_⟩
  rw [hlawful.getCodecType] at hfirst ⊢
  rw [hname]
  exact hfirst

theorem wellFormed_defaultCodecs_vp8 :
    WellFormedCodecs webrtcCodecApi
      (getPayloadTypesAndDefaultCodecs webrtcCodecApi
        (some [{ name := ascii "VP8" }, { name := kAv1CodecName }])) :=
  wellFormed_defaultCodecs lawful_webrtcCodecApi (by decide +kernel) (by decide +kernel)

end PeerConnection.Engine
