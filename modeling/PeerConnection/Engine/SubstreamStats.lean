import PeerConnection.Core.MapValues
import PeerConnection.Engine.VideoSendStream

/-!
# Statistics of the substreams

`MergeInfoAboutOutboundRtpSubstreams` keeps the media streams and adds to each of them what the
RTX and FlexFEC streams have sent that refer to it.
-/

namespace PeerConnection.Engine

open PeerConnection.Runs
open PeerConnection.MapValues
open Std

/-! ## The merge -/

/-- `VideoSendStream::StreamStats::StreamType`. -/
inductive StreamType where
  | media
  | rtx
  | flexfec
  deriving DecidableEq, Repr

/-- `VideoSendStream::StreamStats`.  The counters are `StreamDataCounters`, whose `Add` is their
sum; the details are the fields that the merge copies. -/
structure StreamStats (Counters Details : Type) where
  type : StreamType := .media
  referencedMediaSsrc : Option UInt32 := none
  rtpStats : Counters
  details : Details
  deriving DecidableEq, Repr

abbrev Substreams (Counters Details : Type) := ExtTreeMap UInt32 (StreamStats Counters Details)

section Merge

variable {Counters Details : Type} [AddCommMonoid Counters] [Inhabited Details]

/-- The body of the first loop.  `insert` of a `std::map` keeps an entry that is there. -/
def addMediaSubstream (rtpSubstreams : Substreams Counters Details)
    (entry : UInt32 × StreamStats Counters Details) : Substreams Counters Details :=
  match entry.2.type with
  | .media => rtpSubstreams.insertIfNew entry.1 entry.2
  | .rtx => rtpSubstreams
  | .flexfec => rtpSubstreams

/-- `rtp_substream.rtp_stats.Add`. -/
def addRtpStats (rtpSubstream associated : StreamStats Counters Details) :
    StreamStats Counters Details :=
  { rtpSubstream with rtpStats := rtpSubstream.rtpStats + associated.rtpStats }

/-- The substream that `operator[]` of a `std::map` finds or makes. -/
def substreamOrNew (found : Option (StreamStats Counters Details)) :
    StreamStats Counters Details :=
  found.getD { rtpStats := 0, details := default }

/-- What the second loop does with an RTX or FlexFEC substream. -/
def addAssociated (substreams rtpSubstreams : Substreams Counters Details)
    (associated : StreamStats Counters Details) :
    Except ChannelFault (Substreams Counters Details) :=
  match associated.referencedMediaSsrc with
  | none => .error .checkFailed
  | some mediaSsrc =>
      if substreams[mediaSsrc]?.isNone then .ok rtpSubstreams
      else .ok (rtpSubstreams.insert mediaSsrc
        (addRtpStats (substreamOrNew rtpSubstreams[mediaSsrc]?) associated))

/-- The body of the second loop. -/
def addSubstream (substreams rtpSubstreams : Substreams Counters Details)
    (entry : UInt32 × StreamStats Counters Details) :
    Except ChannelFault (Substreams Counters Details) :=
  match entry.2.type with
  | .media => .ok rtpSubstreams
  | .rtx => addAssociated substreams rtpSubstreams entry.2
  | .flexfec => addAssociated substreams rtpSubstreams entry.2

/-- `MergeInfoAboutOutboundRtpSubstreams`. -/
def mergeInfoAboutOutboundRtpSubstreams (substreams : Substreams Counters Details) :
    Except ChannelFault (Substreams Counters Details) :=
  substreams.toList.foldlM (addSubstream substreams)
    (substreams.toList.foldl addMediaSubstream ∅)

/-! ## The first loop -/

omit [AddCommMonoid Counters] [Inhabited Details] in
theorem getElem?_addMediaSubstream (rtpSubstreams : Substreams Counters Details)
    (entry : UInt32 × StreamStats Counters Details) (ssrc : UInt32) :
    (addMediaSubstream rtpSubstreams entry)[ssrc]? =
      rtpSubstreams[ssrc]?.or
        (if entry.1 = ssrc then (some entry.2).filter (·.type = .media) else none) := by
  rw [addMediaSubstream]
  cases htype : entry.2.type with
  | media => simp [getElem?_insertIfNew_eq_ite, Option.filter, htype]
  | rtx => simp [Option.filter, htype]
  | flexfec => simp [Option.filter, htype]

omit [AddCommMonoid Counters] [Inhabited Details] in
/-- The first loop keeps the media substreams. -/
theorem getElem?_foldl_addMediaSubstream (substreams : Substreams Counters Details)
    (ssrc : UInt32) :
    (substreams.toList.foldl addMediaSubstream (∅ : Substreams Counters Details))[ssrc]? =
      substreams[ssrc]?.filter (·.type = .media) := by
  have hloop : ∀ (entries : List (UInt32 × StreamStats Counters Details))
      (start : Substreams Counters Details),
      (entries.foldl addMediaSubstream start)[ssrc]? =
        start[ssrc]?.or (entries.findSome? fun entry =>
          if entry.1 = ssrc then (some entry.2).filter (·.type = .media) else none) := by
    intro entries
    induction entries with
    | nil => simp
    | cons entry entries ih =>
        intro start
        rw [List.foldl_cons, ih, getElem?_addMediaSubstream, List.findSome?_cons, Option.or_assoc]
        congr 1
        cases (if entry.1 = ssrc then (some entry.2).filter (·.type = .media) else none) <;> rfl
  rw [hloop, findSome?_toList substreams ssrc fun stats =>
    (some stats).filter (·.type = .media), ExtTreeMap.getElem?_empty, Option.none_or]
  cases substreams[ssrc]? <;> rfl

/-! ## The second loop -/

/-- An RTX or FlexFEC substream that refers to the SSRC. -/
def RefersTo (substream : StreamStats Counters Details) (mediaSsrc : UInt32) : Prop :=
  substream.type ≠ .media ∧ substream.referencedMediaSsrc = some mediaSsrc

instance (substream : StreamStats Counters Details) (mediaSsrc : UInt32) :
    Decidable (RefersTo substream mediaSsrc) :=
  inferInstanceAs (Decidable (_ ∧ _))

/-- The substreams that refer to an SSRC, in the order of their own SSRCs. -/
def referring (entries : List (UInt32 × StreamStats Counters Details)) (mediaSsrc : UInt32) :
    List (StreamStats Counters Details) :=
  (entries.map Prod.snd).filter (RefersTo · mediaSsrc)

/-- What a substream becomes through those that refer to it. -/
def credit (found : Option (StreamStats Counters Details))
    (associated : StreamStats Counters Details) : Option (StreamStats Counters Details) :=
  some (addRtpStats (substreamOrNew found) associated)

/-- Every RTX or FlexFEC substream says what it refers to. -/
def ReferencesPresent (entries : List (UInt32 × StreamStats Counters Details)) : Prop :=
  ∀ entry ∈ entries, entry.2.type ≠ .media → entry.2.referencedMediaSsrc ≠ none

instance (entries : List (UInt32 × StreamStats Counters Details)) :
    Decidable (ReferencesPresent entries) :=
  inferInstanceAs (Decidable (∀ _ ∈ _, _))

theorem exists_addSubstream (substreams rtpSubstreams : Substreams Counters Details)
    {entry : UInt32 × StreamStats Counters Details}
    (hpresent : entry.2.type ≠ .media → entry.2.referencedMediaSsrc ≠ none) :
    ∃ next, addSubstream substreams rtpSubstreams entry = .ok next ∧
      ∀ ssrc : UInt32, next[ssrc]? =
        if RefersTo entry.2 ssrc ∧ substreams[ssrc]? ≠ none then
          credit rtpSubstreams[ssrc]? entry.2
        else rtpSubstreams[ssrc]? := by
  by_cases hmedia : entry.2.type = .media
  · refine ⟨rtpSubstreams, by rw [addSubstream, hmedia], fun ssrc => ?_⟩
    rw [if_neg fun hrefers => hrefers.1.1 hmedia]
  · obtain ⟨mediaSsrc, hreferenced⟩ := Option.ne_none_iff_exists'.mp (hpresent hmedia)
    have hassociated : addSubstream substreams rtpSubstreams entry =
        addAssociated substreams rtpSubstreams entry.2 := by
      rw [addSubstream]
      cases htype : entry.2.type with
      | media => exact absurd htype hmedia
      | rtx => rfl
      | flexfec => rfl
    rw [hassociated, addAssociated, hreferenced]
    dsimp only
    split_ifs with hnone
    · refine ⟨rtpSubstreams, rfl, fun ssrc => ?_⟩
      rw [if_neg]
      rintro ⟨⟨-, hsame⟩, hsome⟩
      rw [hreferenced, Option.some.injEq] at hsame
      exact hsome (by rw [← hsame]; exact Option.isNone_iff_eq_none.mp hnone)
    · refine ⟨_, rfl, fun ssrc => ?_⟩
      rw [getElem?_insert_eq_ite]
      by_cases hsame : mediaSsrc = ssrc
      · obtain rfl := hsame
        rw [if_pos rfl, if_pos ⟨⟨hmedia, hreferenced⟩, by simpa using hnone⟩, credit]
      · rw [if_neg hsame, if_neg]
        rintro ⟨⟨-, hother⟩, -⟩
        exact hsame (Option.some.inj (hreferenced.symm.trans hother))

/-- The second loop credits every SSRC that has an entry with all that refer to it. -/
theorem exists_foldlM_addSubstream (substreams : Substreams Counters Details)
    {entries : List (UInt32 × StreamStats Counters Details)} (hpresent : ReferencesPresent entries)
    (start : Substreams Counters Details) :
    ∃ merged, entries.foldlM (addSubstream substreams) start = .ok merged ∧
      ∀ ssrc : UInt32, merged[ssrc]? =
        if substreams[ssrc]? ≠ none then (referring entries ssrc).foldl credit start[ssrc]?
        else start[ssrc]? := by
  induction entries generalizing start with
  | nil => exact ⟨start, rfl, fun ssrc => by simp [referring]⟩
  | cons entry entries ih =>
      obtain ⟨next, hnext, hentry⟩ := exists_addSubstream substreams start
        (hpresent entry List.mem_cons_self)
      obtain ⟨merged, hmerged, hrest⟩ :=
        ih (fun other hother => hpresent other (List.mem_cons_of_mem _ hother)) next
      refine ⟨merged, ?_, fun ssrc => ?_⟩
      · rw [List.foldlM_cons, hnext]
        exact hmerged
      · rw [hrest, hentry, referring, referring, List.map_cons, List.filter_cons]
        by_cases hsome : substreams[ssrc]? ≠ none
        · by_cases hrefers : RefersTo entry.2 ssrc
          · simp [hsome, hrefers]
          · simp [hsome, hrefers]
        · simp [hsome]

/-- Credits add up. -/
theorem foldl_credit_some (stats : StreamStats Counters Details)
    (associated : List (StreamStats Counters Details)) :
    associated.foldl credit (some stats) =
      some { stats with rtpStats := stats.rtpStats + (associated.map (·.rtpStats)).sum } := by
  induction associated generalizing stats with
  | nil => simp
  | cons first associated ih =>
      rw [List.foldl_cons, credit, ih, substreamOrNew, Option.getD_some, addRtpStats, List.map_cons,
        List.sum_cons, add_assoc]

theorem foldl_credit_eq_none_iff (found : Option (StreamStats Counters Details))
    (associated : List (StreamStats Counters Details)) :
    associated.foldl credit found = none ↔ found = none ∧ associated = [] := by
  induction associated generalizing found with
  | nil => simp
  | cons first associated ih =>
      rw [List.foldl_cons, ih]
      simp [credit]

/-! ## What the merge conserves -/

/-- The merged substreams are the media substreams, each with the counters of all substreams
that refer to it added to its own. -/
def Conserves (substreams merged : Substreams Counters Details) : Prop :=
  ∀ ssrc : UInt32, merged[ssrc]? =
    (substreams[ssrc]?.filter (·.type = .media)).map fun stats =>
      { stats with
        rtpStats := stats.rtpStats +
          ((referring substreams.toList ssrc).map (·.rtpStats)).sum }

/-- No RTX or FlexFEC substream refers to another one. -/
def ReferencesMedia (substreams : Substreams Counters Details) : Prop :=
  ∀ associated ∈ substreams.toList.map Prod.snd, ∀ (ssrc : UInt32) (substream),
    RefersTo associated ssrc → substreams[ssrc]? = some substream → substream.type = .media

/-- The merge conserves the counters exactly if RTX and FlexFEC substreams refer to media
substreams or to SSRCs without statistics. -/
theorem mergeInfo_conserves_iff {substreams : Substreams Counters Details}
    (hpresent : ReferencesPresent substreams.toList) :
    ∃ merged, mergeInfoAboutOutboundRtpSubstreams substreams = .ok merged ∧
      (Conserves substreams merged ↔ ReferencesMedia substreams) := by
  obtain ⟨merged, hmerge, hlookup⟩ := exists_foldlM_addSubstream substreams hpresent
    (substreams.toList.foldl addMediaSubstream ∅)
  refine ⟨merged, hmerge, ?_⟩
  simp only [getElem?_foldl_addMediaSubstream] at hlookup
  constructor
  · intro hconserves associated hassociated ssrc substream hrefers hsubstream
    by_contra hother
    have hkept := hconserves ssrc
    have hcredited := hlookup ssrc
    have hfilter : substreams[ssrc]?.filter (·.type = .media) = none := by
      simp [hsubstream, Option.filter, hother]
    rw [hfilter, Option.map_none] at hkept
    rw [hkept, hfilter, if_pos (by simp [hsubstream]), eq_comm,
      foldl_credit_eq_none_iff] at hcredited
    have hmem : associated ∈ referring substreams.toList ssrc :=
      List.mem_filter.mpr ⟨hassociated, decide_eq_true hrefers⟩
    rw [hcredited.2] at hmem
    exact absurd hmem List.not_mem_nil
  · intro hreferences ssrc
    rw [hlookup]
    cases hsubstream : substreams[ssrc]? with
    | none => simp
    | some substream =>
        rw [if_pos (by simp)]
        by_cases hmedia : substream.type = .media
        · simp [Option.filter, hmedia, foldl_credit_some]
        · have hnone : referring substreams.toList ssrc = [] := by
            rw [referring, List.filter_eq_nil_iff]
            intro associated hassociated hrefers
            exact hmedia (hreferences associated hassociated ssrc substream
              (of_decide_eq_true hrefers) hsubstream)
          simp [Option.filter, hmedia, hnone]

end Merge

/-- Ten packets of media, and two retransmitted ones on an RTX substream of their own. -/
def mediaWithRtx : Substreams ℕ Unit :=
  ((∅ : Substreams ℕ Unit).insert 1 { rtpStats := 10, details := () }).insert 2
    { type := .rtx, referencedMediaSsrc := some 1, rtpStats := 2, details := () }

theorem mergeInfo_conserves_rtx :
    ∃ merged, mergeInfoAboutOutboundRtpSubstreams mediaWithRtx = .ok merged ∧
      Conserves mediaWithRtx merged := by
  obtain ⟨merged, hmerge, hconserves⟩ :=
    mergeInfo_conserves_iff (show ReferencesPresent mediaWithRtx.toList by decide)
  refine ⟨merged, hmerge, hconserves.mpr ?_⟩
  intro associated hassociated ssrc substream hrefers hsubstream
  have hentries : ∀ associated ∈ mediaWithRtx.toList.map Prod.snd,
      associated.type ≠ .media → associated.referencedMediaSsrc = some 1 := by decide
  have hssrc : some ssrc = some 1 :=
    hrefers.2.symm.trans (hentries associated hassociated hrefers.1)
  rw [Option.some.inj hssrc] at hsubstream
  have hmedia : mediaWithRtx[(1 : UInt32)]?.map (·.type) = some .media := by decide
  rw [hsubstream] at hmedia
  exact Option.some.inj hmedia

/-- A FlexFEC substream that refers to the RTX substream makes it one of the media substreams. -/
theorem mergeInfo_conserves_fails :
    ∃ substreams : Substreams ℕ Unit, ReferencesPresent substreams.toList ∧
      ¬ ∃ merged, mergeInfoAboutOutboundRtpSubstreams substreams = .ok merged ∧
        Conserves substreams merged := by
  refine ⟨mediaWithRtx.insert 3
    { type := .flexfec, referencedMediaSsrc := some 2, rtpStats := 1, details := () },
    by decide, ?_⟩
  rintro ⟨merged, hmerge, hconserves⟩
  have hlookup := hconserves 2
  have hmerged := congrArg (fun result => result.toOption.bind (·[(2 : UInt32)]?)) hmerge
  rw [Except.toOption, Option.bind_some, hlookup] at hmerged
  exact absurd hmerged (by decide)

end PeerConnection.Engine
