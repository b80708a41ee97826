import PeerConnection.Core.Sorting
import PeerConnection.Engine.ChannelSteps

/-!
# What is left of the header extensions

`FilterRtpExtensions` drops what is not supported, sorts the rest by encryption and URI, and for
the send side keeps the first extension of each kind and discards an extension for bandwidth
estimation when one with a higher priority is there.  Its result depends on the order of its
argument as far as different extensions of one kind are kept.
-/

namespace PeerConnection.Engine

open PeerConnection.Text
open PeerConnection.Runs
open PeerConnection.Sorting

/-! ## The order of the extensions -/

/-- The order of `std::string`, for the order of URIs. -/
local instance linearOrderByte : LinearOrder UInt8 where
  le_refl := UInt8.le_refl
  le_trans _ _ _ := UInt8.le_trans
  le_antisymm _ _ := UInt8.le_antisymm
  le_total := UInt8.le_total
  lt_iff_le_not_ge left right := by
    rw [UInt8.not_le]
    exact ⟨fun hlt => ⟨UInt8.le_of_lt hlt, hlt⟩, And.right⟩
  toDecidableLE := inferInstance

/-- The comparison for the sort: encrypted extensions first, then by URI. -/
def sortsBefore (rhs lhs : RtpExtension) : Prop :=
  if rhs.encrypt = lhs.encrypt then rhs.uri < lhs.uri else rhs.encrypt > lhs.encrypt

/-- What the comparison looks at. -/
def extensionKey (extension : RtpExtension) : Bool ×ₗ Bytes :=
  toLex (!extension.encrypt, extension.uri)

theorem sortsBefore_iff (left right : RtpExtension) :
    sortsBefore left right ↔ extensionKey left < extensionKey right := by
  rw [sortsBefore, extensionKey, extensionKey, Prod.Lex.lt_iff]
  cases left.encrypt <;> cases right.encrypt <;> simp

theorem extensionKey_eq_iff {left right : RtpExtension} :
    extensionKey left = extensionKey right ↔ sameExtension left right := by
  rw [extensionKey, extensionKey, toLex_inj, Prod.mk.injEq, Bool.not_inj_iff, sameExtension,
    and_comm]

theorem not_sameExtension_iff (left right : RtpExtension) :
    ¬ sameExtension left right ↔ extensionKey left ≠ extensionKey right :=
  not_congr extensionKey_eq_iff.symm

/-! ## Redundant extensions -/

/-- An extension that `DiscardRedundantExtensions` discards: the first one for the timestamp
offset, if there is one for the absolute send time. -/
structure Redundant (extensions : List RtpExtension) (extension : RtpExtension) : Prop where
  uri : extension.uri = kTimestampOffsetUri
  preferred : ∃ other ∈ extensions, other.uri = kAbsSendTimeUri
  first : extension.encrypt = true ∨
    ∀ other ∈ extensions, other.uri = kTimestampOffsetUri → other.encrypt = false

theorem kAbsSendTimeUri_ne_kTimestampOffsetUri : kAbsSendTimeUri ≠ kTimestampOffsetUri := by
  decide

/-- One URI: its first extension is discarded once one for an earlier URI has been found. -/
theorem discardExtension_eq (extensions : List RtpExtension) (found : Bool) (uri : Bytes) :
    discardExtension (extensions, found) uri =
      if ∃ extension ∈ extensions, extension.uri = uri then
        (if found then extensions.eraseP (·.uri = uri) else extensions, true)
      else (extensions, found) := by
  rw [discardExtension, List.eraseP_eq_eraseIdx]
  cases hfind : extensions.findIdx? fun extension => extension.uri = uri with
  | none =>
      rw [List.findIdx?_eq_none_iff] at hfind
      rw [if_neg (by simpa using hfind)]
  | some index =>
      obtain ⟨hindex, huri, -⟩ := List.findIdx?_eq_some_iff_getElem.mp hfind
      rw [if_pos ⟨extensions[index], List.getElem_mem hindex, by simpa using huri⟩]

theorem discardRedundantExtensions_eq (extensions : List RtpExtension) :
    discardRedundantExtensions extensions kBweExtensionPriorities =
      if ∃ extension ∈ extensions, extension.uri = kAbsSendTimeUri then
        extensions.eraseP (·.uri = kTimestampOffsetUri)
      else extensions := by
  rw [discardRedundantExtensions, kBweExtensionPriorities, List.foldl_cons, List.foldl_cons,
    List.foldl_nil, discardExtension_eq extensions false kAbsSendTimeUri]
  by_cases hpreferred : ∃ extension ∈ extensions, extension.uri = kAbsSendTimeUri
  · rw [if_pos hpreferred, if_pos hpreferred, if_neg Bool.false_ne_true, discardExtension_eq,
      if_pos rfl]
    by_cases hoffset : ∃ extension ∈ extensions, extension.uri = kTimestampOffsetUri
    · rw [if_pos hoffset]
    · rw [if_neg hoffset, List.eraseP_of_forall_not (by simpa using hoffset)]
  · rw [if_neg hpreferred, if_neg hpreferred, discardExtension_eq, if_neg Bool.false_ne_true]
    split_ifs <;> rfl

/-- Of two extensions with one URI the encrypted one comes first. -/
theorem encrypt_of_extensionKey_lt {left right : RtpExtension} (huri : left.uri = right.uri)
    (hlt : extensionKey left < extensionKey right) :
    left.encrypt = true ∧ right.encrypt = false := by
  rw [extensionKey, extensionKey, huri, Prod.Lex.lt_iff] at hlt
  rcases hlt with hlt | ⟨-, hlt⟩
  · have hplain : ∀ first second : Bool, (!first) < (!second) → first = true ∧ second = false := by
      decide
    exact hplain left.encrypt right.encrypt hlt
  · exact absurd hlt (lt_irrefl right.uri)

/-- In the order of the sort, the first extension with the URI is the redundant one. -/
theorem redundant_iff_eq_first {front back : List RtpExtension} {first extension : RtpExtension}
    (hordered : (front ++ first :: back).Pairwise
      fun left right => extensionKey left < extensionKey right)
    (hfront : ∀ other ∈ front, other.uri ≠ kTimestampOffsetUri)
    (hfirst : first.uri = kTimestampOffsetUri)
    (hpreferred : ∃ other ∈ front ++ first :: back, other.uri = kAbsSendTimeUri)
    (hmem : extension ∈ front ++ first :: back) :
    Redundant (front ++ first :: back) extension ↔ extension = first := by
  obtain ⟨-, hrest, -⟩ := List.pairwise_append.mp hordered
  obtain ⟨hback, -⟩ := List.pairwise_cons.mp hrest
  constructor
  · intro hredundant
    rcases List.mem_append.mp hmem with hearly | hlate
    · exact absurd hredundant.uri (hfront extension hearly)
    · rcases List.mem_cons.mp hlate with hsame | hlate
      · exact hsame
      · -- the first one is encrypted, so that this one is not
        have hencrypt := encrypt_of_extensionKey_lt (hfirst.trans hredundant.uri.symm)
          (hback extension hlate)
        rcases hredundant.first with hsame | hplain
        · exact absurd hsame (by simp [hencrypt.2])
        · have hfirstPlain := hplain first (by simp) hfirst
          exact absurd hencrypt.1 (by simp [hfirstPlain])
  · rintro rfl
    refine ⟨hfirst, hpreferred, or_iff_not_imp_left.mpr fun hplain other hother huri => ?_⟩
    rcases List.mem_append.mp hother with hearly | hlate
    · exact absurd huri (hfront other hearly)
    · rcases List.mem_cons.mp hlate with rfl | hlate
      · simpa using hplain
      · have hlt := hback other hlate
        exact (encrypt_of_extensionKey_lt (hfirst.trans huri.symm) hlt).2

/-- In the order of the sort, with one extension of each kind, the redundant one is discarded. -/
theorem mem_discardRedundantExtensions_iff {extensions : List RtpExtension}
    (hordered : extensions.Pairwise fun left right => extensionKey left < extensionKey right)
    {extension : RtpExtension} :
    extension ∈ discardRedundantExtensions extensions kBweExtensionPriorities ↔
      extension ∈ extensions ∧ ¬ Redundant extensions extension := by
  rw [discardRedundantExtensions_eq]
  split_ifs with hpreferred
  · rcases List.exists_or_eq_self_of_eraseP (·.uri = kTimestampOffsetUri) extensions with
      hkept | ⟨first, front, back, hfront, hfirst, rfl, herase⟩
    · rw [hkept]
      refine ⟨fun hmem => ⟨hmem, fun hredundant => ?_⟩, And.left⟩
      exact List.eraseP_eq_self_iff.mp hkept extension hmem (by simpa using hredundant.uri)
    · rw [herase]
      simp only [decide_eq_true_eq] at hfront hfirst
      have hnodup : (front ++ first :: back).Nodup :=
        hordered.imp fun hlt hsame => absurd (congrArg extensionKey hsame) hlt.ne
      have hnot : first ∉ front ++ back := (List.nodup_cons.mp (List.nodup_middle.mp hnodup)).1
      constructor
      · intro hmem
        have hgiven : extension ∈ front ++ first :: back :=
          List.perm_middle.mem_iff.mpr (List.mem_cons_of_mem first hmem)
        refine ⟨hgiven, fun hredundant => hnot ?_⟩
        rwa [← (redundant_iff_eq_first hordered hfront hfirst hpreferred hgiven).mp hredundant]
      · rintro ⟨hgiven, hkept⟩
        rcases List.mem_cons.mp (List.perm_middle.mem_iff.mp hgiven) with hsame | hothers
        · exact absurd ((redundant_iff_eq_first hordered hfront hfirst hpreferred hgiven).mpr hsame)
            hkept
        · exact hothers
  · constructor
    · exact fun hmem => ⟨hmem, fun hredundant => hpreferred hredundant.preferred⟩
    · exact And.left

theorem discardRedundantExtensions_sublist (extensions : List RtpExtension) :
    (discardRedundantExtensions extensions kBweExtensionPriorities).Sublist extensions := by
  rw [discardRedundantExtensions_eq]
  split_ifs
  · exact List.eraseP_sublist
  · exact List.Sublist.refl _

/-! ## The filtered extensions -/

section Filter

variable {api : EngineApi} {extensions : List RtpExtension} {supported : Bytes → Bool}

/-- The extensions that are left before the redundant one is discarded. -/
def firstOfEachKind (api : EngineApi) (extensions : List RtpExtension)
    (supported : Bytes → Bool) : List RtpExtension :=
  (api.sortExtensions (extensions.filter (supported ·.uri))).destutter
    fun left right => ¬ sameExtension left right

theorem filterRtpExtensions_true :
    filterRtpExtensions api extensions supported true =
      discardRedundantExtensions (firstOfEachKind api extensions supported)
        kBweExtensionPriorities := rfl

theorem filterRtpExtensions_false :
    filterRtpExtensions api extensions supported false =
      api.sortExtensions (extensions.filter (supported ·.uri)) := rfl

variable (hsort : Sorts sortsBefore api.sortExtensions)

include hsort

theorem mem_sortExtensions_iff {extension : RtpExtension} :
    extension ∈ api.sortExtensions (extensions.filter (supported ·.uri)) ↔
      extension ∈ extensions.filter (supported ·.uri) :=
  (hsort.perm _).mem_iff

theorem pairwise_lt_firstOfEachKind :
    (firstOfEachKind api extensions supported).Pairwise
      fun left right => extensionKey left < extensionKey right :=
  pairwise_lt_destutter not_sameExtension_iff (hsort.pairwise_le sortsBefore_iff _)

theorem mem_of_mem_firstOfEachKind {extension : RtpExtension}
    (hmem : extension ∈ firstOfEachKind api extensions supported) :
    extension ∈ extensions.filter (supported ·.uri) :=
  (mem_sortExtensions_iff hsort).mp ((List.destutter_sublist _ _).mem hmem)

theorem exists_mem_firstOfEachKind {extension : RtpExtension}
    (hmem : extension ∈ extensions.filter (supported ·.uri)) :
    ∃ kept ∈ firstOfEachKind api extensions supported, sameExtension kept extension := by
  obtain ⟨kept, hkept, hkey⟩ := exists_mem_destutter not_sameExtension_iff
    ((mem_sortExtensions_iff hsort).mpr hmem)
  exact ⟨kept, hkept, extensionKey_eq_iff.mp hkey⟩

/-- The same extensions are redundant before and after the first of each kind is taken. -/
theorem redundant_firstOfEachKind_iff {extension : RtpExtension} :
    Redundant (firstOfEachKind api extensions supported) extension ↔
      Redundant (extensions.filter (supported ·.uri)) extension := by
  constructor
  · rintro ⟨huri, ⟨other, hother, hpreferred⟩, hfirst⟩
    refine ⟨huri, ⟨other, mem_of_mem_firstOfEachKind hsort hother, hpreferred⟩, ?_⟩
    apply hfirst.imp_right
    intro hplain other hother hoffset
    obtain ⟨kept, hkept, hsame⟩ := exists_mem_firstOfEachKind hsort hother
    rw [← hsame.2]
    exact hplain kept hkept (hsame.1.trans hoffset)
  · rintro ⟨huri, ⟨other, hother, hpreferred⟩, hfirst⟩
    obtain ⟨kept, hkept, hsame⟩ := exists_mem_firstOfEachKind hsort hother
    refine ⟨huri, ⟨kept, hkept, hsame.1.trans hpreferred⟩, ?_⟩
    apply hfirst.imp_right
    exact fun hplain other hother => hplain other (mem_of_mem_firstOfEachKind hsort hother)

theorem mem_filterRtpExtensions_iff {extension : RtpExtension} :
    extension ∈ filterRtpExtensions api extensions supported true ↔
      extension ∈ firstOfEachKind api extensions supported ∧
        ¬ Redundant (extensions.filter (supported ·.uri)) extension := by
  rw [filterRtpExtensions_true,
    mem_discardRedundantExtensions_iff (pairwise_lt_firstOfEachKind hsort),
    redundant_firstOfEachKind_iff hsort]

theorem pairwise_lt_filterRtpExtensions :
    (filterRtpExtensions api extensions supported true).Pairwise
      fun left right => extensionKey left < extensionKey right :=
  (pairwise_lt_firstOfEachKind hsort).sublist (discardRedundantExtensions_sublist _)

end Filter

/-! ## The order of the extensions -/

/-- Different extensions of one kind are redundant, if that is looked at. -/
def TiesHarmless (extensions : List RtpExtension) (filterRedundantExtensions : Bool) : Prop :=
  ∀ left ∈ extensions, ∀ right ∈ extensions, sameExtension left right →
    left = right ∨ (filterRedundantExtensions = true ∧ Redundant extensions left)

theorem Redundant.of_perm {left right : List RtpExtension} {extension : RtpExtension}
    (hperm : left.Perm right) (hredundant : Redundant left extension) :
    Redundant right extension := by
  obtain ⟨huri, ⟨other, hother, hpreferred⟩, hfirst⟩ := hredundant
  refine ⟨huri, ⟨other, hperm.mem_iff.mp hother, hpreferred⟩, hfirst.imp_right ?_⟩
  exact fun hplain other hother => hplain other (hperm.mem_iff.mpr hother)

theorem TiesHarmless.of_perm {left right : List RtpExtension} {filterRedundantExtensions : Bool}
    (hperm : left.Perm right) (hties : TiesHarmless left filterRedundantExtensions) :
    TiesHarmless right filterRedundantExtensions := by
  intro first hfirst second hsecond hsame
  have htie := hties first (hperm.mem_iff.mpr hfirst) second (hperm.mem_iff.mpr hsecond) hsame
  exact htie.imp_right fun hredundant => ⟨hredundant.1, hredundant.2.of_perm hperm⟩

section Order

variable {api : EngineApi} {extensions reordered : List RtpExtension}
variable {supported : Bytes → Bool} {filterRedundantExtensions : Bool}

/-- An extension that is kept is the one of its kind, in any order. -/
theorem mem_filterRtpExtensions_of_perm (hsort : Sorts sortsBefore api.sortExtensions)
    (hperm : extensions.Perm reordered)
    (hties : TiesHarmless (extensions.filter (supported ·.uri)) true) {extension : RtpExtension}
    (hmem : extension ∈ filterRtpExtensions api extensions supported true) :
    extension ∈ filterRtpExtensions api reordered supported true := by
  have hfiltered := hperm.filter (supported ·.uri)
  obtain ⟨hfirst, hkept⟩ := (mem_filterRtpExtensions_iff hsort).mp hmem
  have hgiven := mem_of_mem_firstOfEachKind hsort hfirst
  obtain ⟨other, hother, hsame⟩ :=
    exists_mem_firstOfEachKind hsort (hfiltered.mem_iff.mp hgiven)
  have hotherGiven := hfiltered.mem_iff.mpr (mem_of_mem_firstOfEachKind hsort hother)
  rcases hties extension hgiven other hotherGiven ⟨hsame.1.symm, hsame.2.symm⟩ with
    rfl | ⟨-, hredundant⟩
  · refine (mem_filterRtpExtensions_iff hsort).mpr ⟨hother, fun hredundant => hkept ?_⟩
    exact hredundant.of_perm hfiltered.symm
  · exact absurd hredundant hkept

theorem filterRtpExtensions_eq_of_perm (hsort : Sorts sortsBefore api.sortExtensions)
    (hties : TiesHarmless (extensions.filter (supported ·.uri)) filterRedundantExtensions)
    (hperm : reordered.Perm extensions) :
    filterRtpExtensions api reordered supported filterRedundantExtensions =
      filterRtpExtensions api extensions supported filterRedundantExtensions := by
  have hfiltered := hperm.filter (supported ·.uri)
  cases filterRedundantExtensions with
  | false =>
      rw [filterRtpExtensions_false, filterRtpExtensions_false]
      apply hsort.eq_of_perm sortsBefore_iff hfiltered
      intro left hleft right hright hkey
      rcases hties left (hfiltered.mem_iff.mp hleft) right (hfiltered.mem_iff.mp hright)
          (extensionKey_eq_iff.mp hkey) with hsame | ⟨hfalse, -⟩
      · exact hsame
      · exact absurd hfalse Bool.false_ne_true
  | true =>
      apply eq_of_pairwise_lt (pairwise_lt_filterRtpExtensions hsort)
        (pairwise_lt_filterRtpExtensions hsort)
      intro extension
      constructor
      · exact mem_filterRtpExtensions_of_perm hsort hperm (hties.of_perm hfiltered.symm)
      · exact mem_filterRtpExtensions_of_perm hsort hperm.symm hties

/-- The extension that comes first in the list is kept for its kind, with a stable sort. -/
theorem mem_firstOfEachKind_cons {r : RtpExtension → RtpExtension → Prop} [DecidableRel r]
    (hr : ∀ left right, r left right ↔ extensionKey left ≤ extensionKey right)
    (hstable : api.sortExtensions = List.insertionSort r) {extension : RtpExtension}
    (hsupported : supported extension.uri = true) (others : List RtpExtension) :
    extension ∈ firstOfEachKind api (extension :: others) supported := by
  obtain ⟨front, back, hsplit, hfront⟩ :=
    exists_split_insertionSort_cons hr extension (others.filter (supported ·.uri))
  rw [firstOfEachKind, hstable, List.filter_cons, if_pos hsupported, hsplit]
  exact mem_destutter_append not_sameExtension_iff hfront

/-- The libraries with a stable sort. -/
def stableApi (supported : Bytes → Bool) : EngineApi :=
  { webrtcEngineApi [] with isSupportedForVideo := supported }

/-- Its comparison puts an extension before those of the same kind. -/
theorem stableSort_iff (left right : RtpExtension) :
    (if left.encrypt = right.encrypt then ¬ right.uri < left.uri else left.encrypt) ↔
      extensionKey left ≤ extensionKey right := by
  rw [← not_lt, ← sortsBefore_iff, sortsBefore]
  cases left.encrypt <;> cases right.encrypt <;> simp

theorem sorts_stableApi (supported : Bytes → Bool) :
    Sorts sortsBefore (stableApi supported).sortExtensions :=
  sorts_insertionSort sortsBefore_iff stableSort_iff

/-- What the send parameters promise for extensions in another order: they are filtered to the
same list, and a channel that has taken them reports no change. -/
structure OrderIndependent (extensions : List RtpExtension) (supported : Bytes → Bool)
    (filterRedundantExtensions : Bool) : Prop where
  filtered : ∀ api : EngineApi, Sorts sortsBefore api.sortExtensions →
    ∀ reordered, reordered.Perm extensions →
      filterRtpExtensions api reordered supported filterRedundantExtensions =
        filterRtpExtensions api extensions supported filterRedundantExtensions
  unreported : filterRedundantExtensions = true →
    ∀ api : EngineApi, Sorts sortsBefore api.sortExtensions →
      api.isSupportedForVideo = supported →
      ∀ (channel next : WebRtcVideoChannel) (params reordered : VideoSendParameters)
        (changed : ChangedSendParameters),
        params.extensions = extensions → reordered.extensions.Perm extensions →
        channel.setSendParameters api params = .ok (next, true) →
        next.getChangedSendParameters api reordered = some changed →
        changed.rtpHeaderExtensions = none

/-- Accepted parameters leave the channel with their filtered extensions. -/
theorem sendRtpExtensions_setSendParameters {channel next : WebRtcVideoChannel}
    {params : VideoSendParameters}
    (hset : channel.setSendParameters api params = .ok (next, true)) :
    next.sendRtpExtensions =
      some (filterRtpExtensions api params.extensions api.isSupportedForVideo true) := by
  rw [WebRtcVideoChannel.setSendParameters] at hset
  split at hset
  · exact absurd (Prod.mk.inj (Except.ok.inj hset)).2 Bool.false_ne_true
  · rename_i changed hchanged
    obtain ⟨result, happly, hpair⟩ := except_map_eq_ok_iff.mp hset
    obtain ⟨rfl, -⟩ := Prod.mk.inj hpair
    obtain ⟨sendStreams, -, rfl⟩ := WebRtcVideoChannel.exists_of_applyChangedParams happly
    obtain ⟨-, rfl⟩ := WebRtcVideoChannel.getChangedSendParameters_eq_some_iff.mp hchanged
    rw [WebRtcVideoChannel.sendRtpExtensions_takeChanges, WebRtcVideoChannel.changesTo]
    dsimp only
    split_ifs with hsame
    · exact hsame
    · rfl

theorem Redundant.of_same {left right : RtpExtension} (hsame : sameExtension left right)
    (hredundant : Redundant extensions right) : Redundant extensions left := by
  obtain ⟨huri, hpreferred, hfirst⟩ := hredundant
  exact ⟨hsame.1.trans huri, hpreferred, by rwa [hsame.2]⟩

/-- If the order makes no difference, every extension is the one that is kept for its kind, since
a stable sort keeps it when it is given first. -/
theorem OrderIndependent.mem_firstOfEachKind
    (hindependent : OrderIndependent extensions supported filterRedundantExtensions)
    {extension : RtpExtension} (hmem : extension ∈ extensions.filter (supported ·.uri))
    (hloose : ¬ (filterRedundantExtensions = true ∧
      Redundant (extensions.filter (supported ·.uri)) extension)) :
    extension ∈ firstOfEachKind (stableApi supported) extensions supported := by
  obtain ⟨hgiven, hsupported⟩ := List.mem_filter.mp hmem
  have hsort := sorts_stableApi supported
  have hperm := (List.perm_cons_erase hgiven).symm
  have hfirst : extension ∈
      firstOfEachKind (stableApi supported) (extension :: extensions.erase extension) supported :=
    mem_firstOfEachKind_cons stableSort_iff rfl hsupported _
  have hfiltered := hindependent.filtered (stableApi supported) hsort _ hperm
  cases filterRedundantExtensions with
  | false =>
      rw [filterRtpExtensions_false, filterRtpExtensions_false] at hfiltered
      rwa [firstOfEachKind, hfiltered] at hfirst
  | true =>
      have hkept := (mem_filterRtpExtensions_iff hsort).mpr ⟨hfirst, fun hredundant =>
        hloose ⟨rfl, hredundant.of_perm (hperm.filter _)⟩⟩
      rw [hfiltered] at hkept
      exact ((mem_filterRtpExtensions_iff hsort).mp hkept).1

/-- The order makes no difference exactly where ties are harmless: different supported extensions
of one kind are the redundant ones that are discarded. -/
theorem orderIndependent_iff (extensions : List RtpExtension) (supported : Bytes → Bool)
    (filterRedundantExtensions : Bool) :
    OrderIndependent extensions supported filterRedundantExtensions ↔
      TiesHarmless (extensions.filter (supported ·.uri)) filterRedundantExtensions := by
  constructor
  · intro hindependent left hleft right hright hsame
    rw [or_iff_not_imp_right]
    intro hloose
    apply eq_of_key_eq (pairwise_lt_firstOfEachKind (sorts_stableApi supported))
      (hindependent.mem_firstOfEachKind hleft hloose)
      (hindependent.mem_firstOfEachKind hright fun hredundant =>
        hloose ⟨hredundant.1, hredundant.2.of_same hsame⟩)
    exact extensionKey_eq_iff.mpr hsame
  · intro hties
    refine ⟨fun api hsort reordered hperm =>
      filterRtpExtensions_eq_of_perm hsort hties hperm, ?_⟩
    rintro rfl api hsort rfl channel next params reordered changed rfl hperm hset hchanged
    obtain ⟨-, rfl⟩ := WebRtcVideoChannel.getChangedSendParameters_eq_some_iff.mp hchanged
    rw [WebRtcVideoChannel.changesTo]
    dsimp only
    rw [if_pos]
    rw [sendRtpExtensions_setSendParameters hset,
      filterRtpExtensions_eq_of_perm hsort hties hperm]

theorem orderIndependent_fails :
    validateRtpExtensions
        [{ uri := kAbsSendTimeUri, id := 1 }, { uri := kAbsSendTimeUri, id := 2 }] = true ∧
      ¬ OrderIndependent
        [{ uri := kAbsSendTimeUri, id := 1 }, { uri := kAbsSendTimeUri, id := 2 }]
        (fun _ => true) true := by
  refine ⟨by decide, fun hindependent => ?_⟩
  have hsame := hindependent.filtered (stableApi fun _ => true) (sorts_stableApi _)
    [{ uri := kAbsSendTimeUri, id := 2 }, { uri := kAbsSendTimeUri, id := 1 }]
    (List.Perm.swap _ _ [])
  exact absurd hsame (by decide)

end Order

/-! ## One extension for bandwidth estimation -/

section Bandwidth

variable {api : EngineApi} {extensions : List RtpExtension} {supported : Bytes → Bool}

/-- The URI for bandwidth estimation with the highest priority of those that are there. -/
def preferredUri (extensions : List RtpExtension) : Option Bytes :=
  kBweExtensionPriorities.find? fun uri => extensions.any (·.uri = uri)

theorem preferredUri_eq (extensions : List RtpExtension) :
    preferredUri extensions =
      if ∃ extension ∈ extensions, extension.uri = kAbsSendTimeUri then some kAbsSendTimeUri
      else if ∃ extension ∈ extensions, extension.uri = kTimestampOffsetUri then
        some kTimestampOffsetUri
      else none := by
  have hany : ∀ uri : Bytes, extensions.any (·.uri = uri) =
      decide (∃ extension ∈ extensions, extension.uri = uri) := by
    intro uri
    rw [Bool.eq_iff_iff]
    simp
  rw [preferredUri, kBweExtensionPriorities, List.find?_cons, hany, List.find?_cons, hany,
    List.find?_nil]
  split_ifs with habs hoffset
  · rw [decide_eq_true habs]
  · rw [decide_eq_false habs, decide_eq_true hoffset]
  · rw [decide_eq_false habs, decide_eq_false hoffset]

/-- What filtering for the send side promises: of the URIs for bandwidth estimation just the one
with the highest priority of those that are there, with one extension, and one extension for
each other kind. -/
structure FilteredOnce (extensions filtered : List RtpExtension) : Prop where
  given : ∀ extension ∈ filtered, extension ∈ extensions
  bandwidth : (filtered.filter fun extension => extension.uri ∈ kBweExtensionPriorities).map
      (·.uri) =
    (preferredUri extensions).toList
  others : ∀ extension ∈ extensions, extension.uri ∉ kBweExtensionPriorities →
    ∃ kept, filtered.filter (fun other => sameExtension other extension) = [kept]

/-- No URI for bandwidth estimation is there both encrypted and plain. -/
def BandwidthOnce (extensions : List RtpExtension) : Prop :=
  ∀ uri ∈ kBweExtensionPriorities, ∀ left ∈ extensions, ∀ right ∈ extensions,
    left.uri = uri → right.uri = uri → left.encrypt = right.encrypt

/-- A list in the strict order of the sort that has one kind of extensions has one of them. -/
theorem eq_singleton_of_same {elements : List RtpExtension} {kept : RtpExtension}
    (hordered : elements.Pairwise fun left right => extensionKey left < extensionKey right)
    (hmem : kept ∈ elements) (hsame : ∀ other ∈ elements, sameExtension other kept) :
    elements = [kept] := by
  apply eq_of_pairwise_lt hordered (List.pairwise_singleton _ kept)
  intro other
  rw [List.mem_singleton]
  constructor
  · intro hother
    exact eq_of_key_eq hordered hother hmem (extensionKey_eq_iff.mpr (hsame other hother))
  · rintro rfl
    exact hmem

/-- Two extensions for bandwidth estimation that are kept are the same one. -/
theorem FilteredOnce.eq_of_bandwidth {filtered : List RtpExtension}
    (honce : FilteredOnce extensions filtered) {first second : RtpExtension}
    (hfirst : first ∈ filtered) (hsecond : second ∈ filtered)
    (hfirstUri : first.uri ∈ kBweExtensionPriorities)
    (hsecondUri : second.uri ∈ kBweExtensionPriorities) : first = second := by
  have hlength := congrArg List.length honce.bandwidth
  rw [List.length_map] at hlength
  have hatMost : (preferredUri extensions).toList.length ≤ 1 := by
    cases preferredUri extensions <;> simp
  have hfirstMem : first ∈ filtered.filter (·.uri ∈ kBweExtensionPriorities) :=
    List.mem_filter.mpr ⟨hfirst, decide_eq_true hfirstUri⟩
  have hsecondMem : second ∈ filtered.filter (·.uri ∈ kBweExtensionPriorities) :=
    List.mem_filter.mpr ⟨hsecond, decide_eq_true hsecondUri⟩
  obtain ⟨kept, hkept⟩ := List.length_eq_one_iff.mp
    (le_antisymm (hlength.trans_le hatMost) (List.length_pos_of_mem hfirstMem))
  rw [hkept, List.mem_singleton] at hfirstMem hsecondMem
  rw [hfirstMem, hsecondMem]

variable (hsort : Sorts sortsBefore api.sortExtensions)

include hsort

/-- The extensions of other URIs are those of `std::unique`. -/
theorem exists_filtered_of_not_redundant {extension : RtpExtension}
    (hmem : extension ∈ extensions.filter (supported ·.uri))
    (hkept : ¬ Redundant (extensions.filter (supported ·.uri)) extension) :
    ∃ kept ∈ filterRtpExtensions api extensions supported true, sameExtension kept extension := by
  obtain ⟨kept, hfirst, hsame⟩ := exists_mem_firstOfEachKind hsort hmem
  refine ⟨kept, (mem_filterRtpExtensions_iff hsort).mpr ⟨hfirst, fun hredundant => hkept ?_⟩, hsame⟩
  exact hredundant.of_same ⟨hsame.1.symm, hsame.2.symm⟩

theorem mem_of_mem_filterRtpExtensions {extension : RtpExtension}
    (hmem : extension ∈ filterRtpExtensions api extensions supported true) :
    extension ∈ extensions.filter (supported ·.uri) :=
  mem_of_mem_firstOfEachKind hsort ((mem_filterRtpExtensions_iff hsort).mp hmem).1

theorem others_filterRtpExtensions {extension : RtpExtension}
    (hmem : extension ∈ extensions.filter (supported ·.uri))
    (huri : extension.uri ∉ kBweExtensionPriorities) :
    ∃ kept, (filterRtpExtensions api extensions supported true).filter
      (fun other => sameExtension other extension) = [kept] := by
  have hnot : ¬ Redundant (extensions.filter (supported ·.uri)) extension := fun hredundant =>
    huri (by simp [hredundant.uri, kBweExtensionPriorities])
  obtain ⟨kept, hkept, hsame⟩ := exists_filtered_of_not_redundant hsort hmem hnot
  refine ⟨kept, eq_singleton_of_same
    ((pairwise_lt_filterRtpExtensions hsort).sublist List.filter_sublist) ?_ ?_⟩
  · exact List.mem_filter.mpr ⟨hkept, by simpa using hsame⟩
  · intro other hother
    have hthis := of_decide_eq_true (List.mem_filter.mp hother).2
    exact ⟨hthis.1.trans hsame.1.symm, hthis.2.trans hsame.2.symm⟩

/-- What is kept for bandwidth estimation has the URI with the highest priority, if each URI
comes in one kind. -/
theorem uri_of_mem_filterRtpExtensions
    (honce : BandwidthOnce (extensions.filter (supported ·.uri))) {extension : RtpExtension}
    (hmem : extension ∈ filterRtpExtensions api extensions supported true)
    (huri : extension.uri ∈ kBweExtensionPriorities) :
    preferredUri (extensions.filter (supported ·.uri)) = some extension.uri := by
  have hgiven := mem_of_mem_filterRtpExtensions hsort hmem
  rw [preferredUri_eq]
  rcases List.mem_pair.mp huri with habs | hoffset
  · rw [if_pos ⟨extension, hgiven, habs⟩, habs]
  · split_ifs with hpreferred hpresent
    · -- the extension is the only kind of its URI, and so it is redundant
      refine absurd ⟨hoffset, hpreferred, ?_⟩ ((mem_filterRtpExtensions_iff hsort).mp hmem).2
      rw [or_iff_not_imp_left]
      intro hplain other hother hsame
      rw [honce _ huri other hother extension hgiven (hsame.trans hoffset.symm) rfl]
      simpa using hplain
    · rw [hoffset]
    · exact absurd ⟨extension, hgiven, hoffset⟩ hpresent

theorem exists_mem_filterRtpExtensions {uri : Bytes}
    (hpreferred : preferredUri (extensions.filter (supported ·.uri)) = some uri) :
    ∃ kept ∈ filterRtpExtensions api extensions supported true, kept.uri = uri := by
  have hgiven : ∃ extension ∈ extensions.filter (supported ·.uri), extension.uri = uri ∧
      ¬ Redundant (extensions.filter (supported ·.uri)) extension := by
    rw [preferredUri_eq] at hpreferred
    split_ifs at hpreferred with habs hoffset
    · obtain ⟨extension, hmem, huri⟩ := habs
      refine ⟨extension, hmem, huri.trans (Option.some.inj hpreferred), fun hredundant => ?_⟩
      exact kAbsSendTimeUri_ne_kTimestampOffsetUri (huri.symm.trans hredundant.uri)
    · obtain ⟨extension, hmem, huri⟩ := hoffset
      refine ⟨extension, hmem, huri.trans (Option.some.inj hpreferred), fun hredundant => ?_⟩
      exact habs hredundant.preferred
  obtain ⟨extension, hmem, rfl, hkept⟩ := hgiven
  obtain ⟨kept, hfiltered, hsame⟩ := exists_filtered_of_not_redundant hsort hmem hkept
  exact ⟨kept, hfiltered, hsame.1⟩

theorem bandwidth_filterRtpExtensions
    (honce : BandwidthOnce (extensions.filter (supported ·.uri))) :
    ((filterRtpExtensions api extensions supported true).filter
        fun extension => extension.uri ∈ kBweExtensionPriorities).map (·.uri) =
      (preferredUri (extensions.filter (supported ·.uri))).toList := by
  have hkept : ∀ extension, extension ∈ (filterRtpExtensions api extensions supported true).filter
      (fun extension => extension.uri ∈ kBweExtensionPriorities) →
      extension ∈ filterRtpExtensions api extensions supported true ∧
        preferredUri (extensions.filter (supported ·.uri)) = some extension.uri := by
    intro extension hmem
    obtain ⟨hfiltered, huri⟩ := List.mem_filter.mp hmem
    exact ⟨hfiltered,
      uri_of_mem_filterRtpExtensions hsort honce hfiltered (of_decide_eq_true huri)⟩
  cases hpreferred : preferredUri (extensions.filter (supported ·.uri)) with
  | none =>
      rw [Option.toList_none, List.map_eq_nil_iff, List.eq_nil_iff_forall_not_mem]
      intro extension hmem
      rw [(hkept extension hmem).2] at hpreferred
      exact absurd hpreferred (by simp)
  | some uri =>
      obtain ⟨kept, hfiltered, rfl⟩ := exists_mem_filterRtpExtensions hsort hpreferred
      have hpriority : kept.uri ∈ kBweExtensionPriorities := List.mem_of_find?_eq_some hpreferred
      rw [eq_singleton_of_same
        ((pairwise_lt_filterRtpExtensions hsort).sublist List.filter_sublist)
        (List.mem_filter.mpr ⟨hfiltered, decide_eq_true hpriority⟩)]
      · rfl
      · intro other hother
        obtain ⟨hothers, huri⟩ := hkept other hother
        have hsame : other.uri = kept.uri := Option.some.inj (huri.symm.trans hpreferred)
        refine ⟨hsame, honce _ hpriority other ?_ kept ?_ hsame rfl⟩
        · exact mem_of_mem_filterRtpExtensions hsort hothers
        · exact mem_of_mem_filterRtpExtensions hsort hfiltered

/-- Where just one extension for bandwidth estimation is kept, the one that is not redundant is
the only kind of its URI. -/
theorem FilteredOnce.encrypt_eq
    (honce : FilteredOnce (extensions.filter (supported ·.uri))
      (filterRtpExtensions api extensions supported true))
    {left right : RtpExtension} (hleft : left ∈ extensions.filter (supported ·.uri))
    (hright : right ∈ extensions.filter (supported ·.uri))
    (hpriority : left.uri ∈ kBweExtensionPriorities) (huri : right.uri = left.uri)
    (hkept : ¬ Redundant (extensions.filter (supported ·.uri)) left) :
    left.encrypt = right.encrypt := by
  obtain ⟨first, hfirst, hsame⟩ := exists_filtered_of_not_redundant hsort hleft hkept
  have hfirstUri : first.uri ∈ kBweExtensionPriorities := by rwa [hsame.1]
  by_cases hredundant : Redundant (extensions.filter (supported ·.uri)) right
  · -- then the absolute send time is kept as well
    have hpreferred : preferredUri (extensions.filter (supported ·.uri)) =
        some kAbsSendTimeUri := by
      rw [preferredUri_eq, if_pos hredundant.preferred]
    obtain ⟨other, hother, habs⟩ := exists_mem_filterRtpExtensions hsort hpreferred
    have hotherUri : other.uri ∈ kBweExtensionPriorities := by simp [habs, kBweExtensionPriorities]
    have hsameUri := congrArg RtpExtension.uri
      (honce.eq_of_bandwidth hfirst hother hfirstUri hotherUri)
    rw [hsame.1, ← huri, hredundant.uri, habs] at hsameUri
    exact absurd hsameUri.symm kAbsSendTimeUri_ne_kTimestampOffsetUri
  · obtain ⟨second, hsecond, hsecondSame⟩ :=
      exists_filtered_of_not_redundant hsort hright hredundant
    have hsecondUri : second.uri ∈ kBweExtensionPriorities := by rwa [hsecondSame.1, huri]
    rw [← hsame.2, ← hsecondSame.2, honce.eq_of_bandwidth hfirst hsecond hfirstUri hsecondUri]

omit hsort in
/-- Of two kinds of one URI at most one is redundant. -/
theorem Redundant.encrypt_eq {left right : RtpExtension} (hleft : left ∈ extensions)
    (hright : right ∈ extensions) (hleftRedundant : Redundant extensions left)
    (hrightRedundant : Redundant extensions right) : left.encrypt = right.encrypt := by
  rcases hleftRedundant.first with hencrypted | hplain
  · rcases hrightRedundant.first with hother | hother
    · rw [hencrypted, hother]
    · exact absurd hencrypted (by simp [hother left hleft hleftRedundant.uri])
  · rw [hplain left hleft hleftRedundant.uri, hplain right hright hrightRedundant.uri]

/-- Filtering keeps its promise exactly if no URI for bandwidth estimation comes in two kinds. -/
theorem filteredOnce_iff :
    FilteredOnce (extensions.filter (supported ·.uri))
        (filterRtpExtensions api extensions supported true) ↔
      BandwidthOnce (extensions.filter (supported ·.uri)) := by
  constructor
  · rintro honce uri hpriority left hleft right hright rfl huri
    by_cases hleftRedundant : Redundant (extensions.filter (supported ·.uri)) left
    · by_cases hrightRedundant : Redundant (extensions.filter (supported ·.uri)) right
      · exact hleftRedundant.encrypt_eq hleft hright hrightRedundant
      · have hrightPriority : right.uri ∈ kBweExtensionPriorities := by rwa [huri]
        exact (honce.encrypt_eq hsort hright hleft hrightPriority huri.symm hrightRedundant).symm
    · exact honce.encrypt_eq hsort hleft hright hpriority huri hleftRedundant
  · intro honce
    exact
      { given := fun _ hmem => mem_of_mem_filterRtpExtensions hsort hmem
        bandwidth := bandwidth_filterRtpExtensions hsort honce
        others := fun _ hmem huri => others_filterRtpExtensions hsort hmem huri }

omit hsort in
theorem filteredOnce_plain :
    FilteredOnce [{ uri := kTimestampOffsetUri, id := 1 }, { uri := kAbsSendTimeUri, id := 2 }]
      (filterRtpExtensions (stableApi fun _ => true)
        [{ uri := kTimestampOffsetUri, id := 1 }, { uri := kAbsSendTimeUri, id := 2 }]
        (fun _ => true) true) :=
  (@filteredOnce_iff (stableApi fun _ => true)
    [{ uri := kTimestampOffsetUri, id := 1 }, { uri := kAbsSendTimeUri, id := 2 }]
    (fun _ => true) (sorts_stableApi fun _ => true)).mpr (by
    rintro uri - left hleft right hright - -
    have hplain : ∀ extension ∈ ([{ uri := kTimestampOffsetUri, id := 1 },
        { uri := kAbsSendTimeUri, id := 2 }] : List RtpExtension), extension.encrypt = false := by
      decide
    exact (hplain left (List.mem_of_mem_filter hleft)).trans
      (hplain right (List.mem_of_mem_filter hright)).symm)

omit hsort in
theorem filteredOnce_fails :
    validateRtpExtensions [{ uri := kAbsSendTimeUri, id := 1, encrypt := true },
        { uri := kAbsSendTimeUri, id := 2 }] = true ∧
      ¬ FilteredOnce
        [{ uri := kAbsSendTimeUri, id := 1, encrypt := true }, { uri := kAbsSendTimeUri, id := 2 }]
        (filterRtpExtensions (stableApi fun _ => true)
          [{ uri := kAbsSendTimeUri, id := 1, encrypt := true },
            { uri := kAbsSendTimeUri, id := 2 }]
          (fun _ => true) true) := by
  refine ⟨by decide, fun honce => ?_⟩
  exact absurd honce.bandwidth (by decide)

end Bandwidth

end PeerConnection.Engine
