import Mathlib

/-!
# Items that are taken in turn

Choosers come one after the other, and each of them takes every item that it wants and that
is still there.  What a chooser gets is stated without a state: the items that it wants and
that no earlier chooser wants, in their order.
-/

namespace PeerConnection.OrderedMatching

variable {χ ι : Type*} (wants : χ → ι → Bool)

/-- The items that are left for a chooser after the earlier ones. -/
def taken (earlier : List χ) (chooser : χ) (items : List ι) : List ι :=
  items.filter fun item => wants chooser item && !earlier.any (wants · item)

/-- What everyone takes, in the order of the choosers and then of the items. -/
def picks (choosers : List χ) (items : List ι) : List (χ × ι) :=
  choosers.zipIdx.flatMap fun entry =>
    (taken wants (choosers.take entry.2) entry.1 items).map fun item => (entry.1, item)

/-- What nobody wants. -/
def leftover (choosers : List χ) (items : List ι) : List ι :=
  items.filter fun item => !choosers.any (wants · item)

variable {wants}

@[simp]
theorem picks_nil (items : List ι) : picks wants [] items = [] := rfl

@[simp]
theorem leftover_nil (items : List ι) : leftover wants [] items = items := by
  simp [leftover]

/-- One more chooser takes from what the others have left. -/
theorem filter_leftover (earlier : List χ) (chooser : χ) (items : List ι) :
    (leftover wants earlier items).filter (wants chooser) = taken wants earlier chooser items :=
  List.filter_filter

theorem leftover_append_singleton (earlier : List χ) (chooser : χ) (items : List ι) :
    leftover wants (earlier ++ [chooser]) items =
      (leftover wants earlier items).filter (!wants chooser ·) := by
  rw [leftover, leftover, List.filter_filter]
  congr 1
  funext item
  rw [List.any_append, List.any_cons, List.any_nil, Bool.or_false, Bool.not_or, Bool.and_comm]

theorem picks_append_singleton (earlier : List χ) (chooser : χ) (items : List ι) :
    picks wants (earlier ++ [chooser]) items =
      picks wants earlier items ++
        (taken wants earlier chooser items).map fun item => (chooser, item) := by
  have hearlier : ∀ entry ∈ earlier.zipIdx,
      (earlier ++ [chooser]).take entry.2 = earlier.take entry.2 := by
    intro entry hentry
    have hindex := (List.mem_zipIdx hentry).2.1
    rw [List.take_append_of_le_length (by omega)]
  rw [picks, List.zipIdx_append, List.flatMap_append, picks]
  congr 1
  · apply List.flatMap_congr
    intro entry hentry
    rw [hearlier entry hentry]
  · simp

/-- No item is taken twice, and none is lost that somebody wants. -/
theorem map_snd_picks_perm (choosers : List χ) (items : List ι) :
    ((picks wants choosers items).map Prod.snd).Perm
      (items.filter fun item => choosers.any (wants · item)) := by
  induction choosers using List.reverseRecOn with
  | nil => simp
  | append_singleton earlier chooser ih =>
      have hsplit := List.filter_append_perm (fun item => earlier.any (wants · item))
        (items.filter fun item => (earlier ++ [chooser]).any (wants · item))
      rw [List.filter_filter, List.filter_filter] at hsplit
      rw [picks_append_singleton, List.map_append, List.map_map]
      refine List.Perm.trans ?_ hsplit
      apply List.Perm.append
      · refine ih.trans (List.Perm.of_eq (List.filter_congr fun item _ => ?_))
        rw [List.any_append]
        cases earlier.any (wants · item) <;> simp
      · apply List.Perm.of_eq
        rw [Function.comp_def, List.map_id', taken]
        apply List.filter_congr
        intro item _
        rw [List.any_append, List.any_cons, List.any_nil, Bool.or_false]
        cases earlier.any (wants · item) <;> simp

end PeerConnection.OrderedMatching
