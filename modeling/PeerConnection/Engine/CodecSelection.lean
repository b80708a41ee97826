import PeerConnection.Core.OrderedMatching
import PeerConnection.Core.Sorting
import PeerConnection.Engine.VideoChannel

/-!
# Selection and comparison of codecs

`SelectSendVideoCodecs` goes through the remote codecs and takes for each of them the local
formats that match and are still there; `NonFlexfecReceiveCodecsHaveChanged` compares two
lists of codecs after it has sorted them.
-/

namespace PeerConnection.Engine

open PeerConnection.OrderedMatching
open PeerConnection.Sorting
open PeerConnection.MapValues

/-! ## Formats for the remote codecs -/

section Selection

variable (api : EngineApi)

/-- A remote codec with the parameters of the format that it does not have. -/
def mergedSettings (remoteCodec : VideoCodecSettings) (format : SdpVideoFormat) :
    VideoCodecSettings :=
  { remoteCodec with
    codec := { remoteCodec.codec with
      params := insertParams remoteCodec.codec.params format.parameters } }

def matchesFormat (remoteCodec : VideoCodecSettings) (format : SdpVideoFormat) : Bool :=
  api.isSameCodec format remoteCodec.codec.format

/-- The inner loop.  `format_it` stands between the formats that it has passed and the rest:
`erase` drops the first of the rest, and `++format_it` passes it. -/
def selectLoop (remoteCodec : VideoCodecSettings) (encoders : List VideoCodecSettings)
    (passed : List SdpVideoFormat) :
    List SdpVideoFormat → List VideoCodecSettings × List SdpVideoFormat
  | [] => (encoders, passed)
  | format :: rest =>
      if matchesFormat api remoteCodec format then
        selectLoop remoteCodec (encoders ++ [mergedSettings remoteCodec format]) passed rest
      else selectLoop remoteCodec encoders (passed ++ [format]) rest

variable {api}

/-- The formats that match are erased, and the others stay in their order. -/
theorem selectLoop_eq (remoteCodec : VideoCodecSettings) (encoders : List VideoCodecSettings)
    (passed rest : List SdpVideoFormat) :
    selectLoop api remoteCodec encoders passed rest =
      (encoders ++ (rest.filter (matchesFormat api remoteCodec)).map (mergedSettings remoteCodec),
        passed ++ rest.filter (!matchesFormat api remoteCodec ·)) := by
  induction rest generalizing encoders passed with
  | nil => simp [selectLoop]
  | cons format rest ih =>
      rw [selectLoop]
      split_ifs with hmatches
      · rw [ih, List.filter_cons_of_pos hmatches, List.filter_cons_of_neg (by simp [hmatches])]
        simp
      · rw [ih, List.filter_cons_of_neg hmatches, List.filter_cons_of_pos (by simp [hmatches])]
        simp

/-- One step of the outer loop runs the inner loop. -/
theorem selectEncoders_eq_selectLoop (state : List VideoCodecSettings × List SdpVideoFormat)
    (remoteCodec : VideoCodecSettings) :
    selectEncoders api state remoteCodec = selectLoop api remoteCodec state.1 [] state.2 := by
  rw [selectLoop_eq, List.nil_append]
  rfl

theorem getElem?_params_mergedSettings (remoteCodec : VideoCodecSettings)
    (format : SdpVideoFormat) (key : Text.Bytes) :
    (mergedSettings remoteCodec format).codec.params[key]? =
      remoteCodec.codec.params[key]?.or format.parameters[key]? :=
  getElem?_foldl_insertIfNew _ _ _

/-- What the outer loop has selected after some remote codecs, and what it has left. -/
theorem foldl_selectEncoders (remoteCodecs : List VideoCodecSettings)
    (formats : List SdpVideoFormat) :
    remoteCodecs.foldl (selectEncoders api) ([], formats) =
      ((picks (matchesFormat api) remoteCodecs formats).map fun pick =>
          mergedSettings pick.1 pick.2,
        leftover (matchesFormat api) remoteCodecs formats) := by
  induction remoteCodecs using List.reverseRecOn with
  | nil => simp
  | append_singleton earlier remoteCodec ih =>
      rw [List.foldl_append, ih, List.foldl_cons, List.foldl_nil, selectEncoders_eq_selectLoop,
        selectLoop_eq, filter_leftover, leftover_append_singleton, picks_append_singleton]
      simp

/-- The merged settings have the parameters of the remote codec first and are otherwise those
of the remote codec. -/
structure Merges (remoteCodec : VideoCodecSettings) (format : SdpVideoFormat)
    (settings : VideoCodecSettings) : Prop where
  params : ∀ key : Text.Bytes, settings.codec.params[key]? =
    remoteCodec.codec.params[key]?.or format.parameters[key]?
  others : settings = { remoteCodec with
    codec := { remoteCodec.codec with params := settings.codec.params } }

/-- The remote codecs in their order, each of them with the formats that it matches and that no
earlier one does, in their order. -/
def codecSelection (api : EngineApi) (remoteCodecs : List VideoCodecSettings) :
    List (VideoCodecSettings × SdpVideoFormat) :=
  remoteCodecs.zipIdx.flatMap fun entry =>
    (api.getImplementations.filter fun format =>
      matchesFormat api entry.1 format &&
        !(remoteCodecs.take entry.2).any (matchesFormat api · format)).map
      fun format => (entry.1, format)

/-- The selected codecs are merged from this selection, entry by entry.  Altogether it uses
the formats that match a remote codec, each of them once. -/
theorem selectSendVideoCodecs_matching (remoteCodecs : List VideoCodecSettings) :
    List.Forall₂ (fun pick settings => Merges pick.1 pick.2 settings)
        (codecSelection api remoteCodecs) (selectSendVideoCodecs api remoteCodecs) ∧
      ((codecSelection api remoteCodecs).map Prod.snd).Perm
        (api.getImplementations.filter fun format =>
          remoteCodecs.any (matchesFormat api · format)) := by
  have hpicks : codecSelection api remoteCodecs =
      picks (matchesFormat api) remoteCodecs api.getImplementations := rfl
  rw [hpicks]
  constructor
  · rw [selectSendVideoCodecs, foldl_selectEncoders, List.forall₂_map_right_iff,
      List.forall₂_same]
    intro pick _
    exact ⟨getElem?_params_mergedSettings pick.1 pick.2, rfl⟩
  · exact map_snd_picks_perm remoteCodecs api.getImplementations

end Selection

/-! ## Comparison of the receive codecs -/

/-- `VideoCodecSettings::EqualsDisregardingFlexfec`. -/
def equalsDisregardingFlexfec (a b : VideoCodecSettings) : Bool :=
  a.codec = b.codec && a.ulpfec = b.ulpfec && a.rtxPayloadType = b.rtxPayloadType &&
    a.rtxTime = b.rtxTime

/-- The comparison for the sort: higher payload types come first. -/
def comparesBefore (codec1 codec2 : VideoCodecSettings) : Prop := codec1.codec.id > codec2.codec.id

/-- `NonFlexfecReceiveCodecsHaveChanged`, for what `absl::c_sort` makes of a list with this
comparison. -/
def nonFlexfecReceiveCodecsHaveChanged
    (sort : List VideoCodecSettings → List VideoCodecSettings)
    (before after : List VideoCodecSettings) : Bool :=
  !(sort before).isEqv (sort after) equalsDisregardingFlexfec

/-- The settings but for the FlexFEC payload type. -/
def disregardFlexfec (settings : VideoCodecSettings) : VideoCodecSettings :=
  { settings with flexfecPayloadType := -1 }

theorem equalsDisregardingFlexfec_iff {a b : VideoCodecSettings} :
    equalsDisregardingFlexfec a b = true ↔ disregardFlexfec a = disregardFlexfec b := by
  simp [equalsDisregardingFlexfec, disregardFlexfec, and_assoc]

theorem isEqv_equalsDisregardingFlexfec_iff {left right : List VideoCodecSettings} :
    left.isEqv right equalsDisregardingFlexfec = true ↔
      left.map disregardFlexfec = right.map disregardFlexfec := by
  induction left generalizing right with
  | nil => cases right <;> simp [List.isEqv]
  | cons first left ih =>
      cases right with
      | nil => simp [List.isEqv]
      | cons second right =>
          rw [List.isEqv, Bool.and_eq_true, equalsDisregardingFlexfec_iff, ih, List.map_cons,
            List.map_cons, List.cons.injEq]

theorem comparesBefore_iff (codec1 codec2 : VideoCodecSettings) :
    comparesBefore codec1 codec2 ↔ -codec1.codec.id < -codec2.codec.id := by
  rw [comparesBefore]
  omega

/-- Nothing has changed exactly for the same codecs in any order, FlexFEC payload types apart.
It is enough that the payload types of one list are distinct. -/
theorem nonFlexfecReceiveCodecsHaveChanged_eq_false_iff
    {sort : List VideoCodecSettings → List VideoCodecSettings} (hsort : Sorts comparesBefore sort)
    {before after : List VideoCodecSettings} (hbefore : (before.map (·.codec.id)).Nodup) :
    nonFlexfecReceiveCodecsHaveChanged sort before after = false ↔
      (before.map disregardFlexfec).Perm (after.map disregardFlexfec) := by
  rw [nonFlexfecReceiveCodecsHaveChanged, Bool.not_eq_false', isEqv_equalsDisregardingFlexfec_iff]
  have hperm : ∀ codecs, ((sort codecs).map disregardFlexfec).Perm
      (codecs.map disregardFlexfec) := fun codecs => (hsort.perm codecs).map disregardFlexfec
  constructor
  · intro hsame
    have hafter := hperm after
    rw [← hsame] at hafter
    exact (hperm before).symm.trans hafter
  · intro hcodecs
    have hordered : ∀ codecs, ((sort codecs).map disregardFlexfec).Pairwise
        fun first second => -first.codec.id ≤ -second.codec.id := by
      intro codecs
      rw [List.pairwise_map]
      exact hsort.pairwise_le comparesBefore_iff codecs
    have hsorted := ((hperm before).trans hcodecs).trans (hperm after).symm
    apply eq_of_pairwise_le hsorted (hordered before) (hordered after)
    -- the payload types of the sorted list are those of the list before
    have hids : (((sort before).map disregardFlexfec).map (·.codec.id)).Nodup := by
      rw [List.map_map]
      exact ((hsort.perm before).map _).nodup_iff.mpr hbefore
    intro first hfirst second hsecond hkey
    exact List.inj_on_of_nodup_map hids hfirst hsecond (neg_inj.mp hkey)

theorem nonFlexfecReceiveCodecsHaveChanged_vp8 :
    nonFlexfecReceiveCodecsHaveChanged
        (List.insertionSort fun left right => -left.codec.id ≤ -right.codec.id)
        [{ codec := { id := 96, name := vp8Format.name }, flexfecPayloadType := 35 },
          { codec := { id := 98, name := vp9Format.name } }]
        [{ codec := { id := 98, name := vp9Format.name } },
          { codec := { id := 96, name := vp8Format.name } }] = false :=
  (nonFlexfecReceiveCodecsHaveChanged_eq_false_iff
    (sorts_insertionSort comparesBefore_iff fun _ _ => Iff.rfl) (by decide)).mpr
      (List.Perm.swap _ _ [])

end PeerConnection.Engine
