import Mathlib

/-!
# Sorting by a key that leaves ties open

A sort puts a list into the order of a comparison and is free to order elements that the
comparison does not tell apart.  What it returns is determined as far as the key that the
comparison looks at tells the elements apart; the rest of it is the choice of the sort.
-/

namespace PeerConnection.Sorting

variable {α κ : Type*}

/-- What a sort promises for a comparison, as `std::sort` does. -/
structure Sorts (before : α → α → Prop) (sort : List α → List α) : Prop where
  perm : ∀ elements, (sort elements).Perm elements
  ordered : ∀ elements, (sort elements).Pairwise fun left right => ¬ before right left

section Keys

variable [LinearOrder κ] {key : α → κ}

/-- In the strict order of the key there is one element for a key. -/
theorem eq_of_key_eq {elements : List α}
    (hordered : elements.Pairwise fun first second => key first < key second)
    {first second : α} (hfirst : first ∈ elements) (hsecond : second ∈ elements)
    (hkey : key first = key second) : first = second := by
  have hnodup : (elements.map key).Nodup := List.pairwise_map.mpr (hordered.imp LT.lt.ne)
  exact List.inj_on_of_nodup_map hnodup hfirst hsecond hkey

/-- Lists in the order of the key are equal when they have the same elements and the key
tells these apart. -/
theorem eq_of_pairwise_le {left right : List α} (hperm : left.Perm right)
    (hleft : left.Pairwise fun first second => key first ≤ key second)
    (hright : right.Pairwise fun first second => key first ≤ key second)
    (hapart : ∀ first ∈ left, ∀ second ∈ left, key first = key second → first = second) :
    left = right := by
  refine hperm.eq_of_pairwise ?_ hleft hright
  intro first second hfirst hsecond hle hge
  exact hapart first hfirst second (hperm.mem_iff.mpr hsecond) (le_antisymm hle hge)

/-- Lists in the strict order of the key are equal when they have the same elements. -/
theorem eq_of_pairwise_lt {left right : List α}
    (hleft : left.Pairwise fun first second => key first < key second)
    (hright : right.Pairwise fun first second => key first < key second)
    (hmem : ∀ element, element ∈ left ↔ element ∈ right) : left = right := by
  have hnodup : ∀ {elements : List α},
      (elements.Pairwise fun first second => key first < key second) → elements.Nodup :=
    fun hordered => hordered.imp fun hlt heq => hlt.ne (congrArg key heq)
  have hperm := (List.perm_ext_iff_of_nodup (hnodup hleft) (hnodup hright)).mpr hmem
  exact eq_of_pairwise_le hperm (hleft.imp le_of_lt) (hright.imp le_of_lt)
    fun first hfirst second hsecond => eq_of_key_eq hleft hfirst hsecond

/-! ## Sorts -/

variable {before : α → α → Prop} {sort : List α → List α}
variable (hbefore : ∀ left right, before left right ↔ key left < key right)

include hbefore

theorem Sorts.pairwise_le (hsort : Sorts before sort) (elements : List α) :
    (sort elements).Pairwise fun left right => key left ≤ key right := by
  apply (hsort.ordered elements).imp
  intro left right hnot
  rwa [hbefore, not_lt] at hnot

/-- The order in which the elements are given makes no difference if the key tells them
apart. -/
theorem Sorts.eq_of_perm (hsort : Sorts before sort) {left right : List α}
    (hperm : left.Perm right)
    (hapart : ∀ first ∈ left, ∀ second ∈ left, key first = key second → first = second) :
    sort left = sort right := by
  have hsorted := ((hsort.perm left).trans hperm).trans (hsort.perm right).symm
  apply eq_of_pairwise_le hsorted (hsort.pairwise_le hbefore left)
    (hsort.pairwise_le hbefore right)
  intro first hfirst second hsecond
  exact hapart first ((hsort.perm left).mem_iff.mp hfirst) second
    ((hsort.perm left).mem_iff.mp hsecond)

section Insertion

variable {r : α → α → Prop} [DecidableRel r]
variable (hr : ∀ left right, r left right ↔ key left ≤ key right)

include hr

/-- The stable sort is one of them. -/
theorem sorts_insertionSort : Sorts before (List.insertionSort r) where
  perm := List.perm_insertionSort _
  ordered elements := by
    have htotal : Std.Total r :=
      ⟨fun left right => by simpa only [hr] using le_total (key left) (key right)⟩
    have htrans : IsTrans α r :=
      ⟨fun left middle right => by simpa only [hr] using le_trans⟩
    apply (List.pairwise_insertionSort r elements).imp
    intro left right hle
    rwa [hbefore, not_lt, ← hr]

omit hbefore in
/-- The first element of a list stands in the sorted list before all others with its key. -/
theorem exists_split_insertionSort_cons (element : α) (elements : List α) :
    ∃ front back,
      List.insertionSort r (element :: elements) = front ++ element :: back ∧
      ∀ other ∈ front, key other ≠ key element := by
  rw [List.insertionSort_cons_eq_take_drop]
  refine ⟨_, _, rfl, fun other hother => ?_⟩
  have hnot := List.mem_takeWhile_imp hother
  rw [decide_eq_true_eq, hr, not_le] at hnot
  exact hnot.ne

section Stable

variable {earlier : α → α → Prop}

/-- In the order of the key, and in an earlier order among elements with one key. -/
def Before (key : α → κ) (earlier : α → α → Prop) (left right : α) : Prop :=
  key left < key right ∨ key left = key right ∧ earlier left right

omit hbefore in
theorem pairwise_orderedInsert {element : α} {elements : List α}
    (hearlier : ∀ other ∈ elements, earlier element other)
    (hordered : elements.Pairwise (Before key earlier)) :
    (elements.orderedInsert r element).Pairwise (Before key earlier) := by
  induction elements with
  | nil => simp
  | cons first rest ih =>
      obtain ⟨hfirst, hrest⟩ := List.pairwise_cons.mp hordered
      rw [List.orderedInsert_cons]
      split_ifs with hle
      · rw [hr] at hle
        refine List.pairwise_cons.mpr ⟨fun other hother => ?_, hordered⟩
        have hkey : key element ≤ key other := by
          rcases List.mem_cons.mp hother with rfl | hmem
          · exact hle
          · exact hle.trans ((hfirst other hmem).elim le_of_lt fun hsame => hsame.1.le)
        exact hkey.lt_or_eq.imp_right fun hsame => ⟨hsame, hearlier other hother⟩
      · rw [hr, not_le] at hle
        refine List.pairwise_cons.mpr ⟨fun other hother => ?_, ih (fun other hother =>
          hearlier other (List.mem_cons_of_mem _ hother)) hrest⟩
        rcases (List.mem_orderedInsert r).mp hother with rfl | hmem
        · exact Or.inl hle
        · exact hfirst other hmem

omit hbefore in
/-- The insertion sort is stable. -/
theorem pairwise_insertionSort_stable {elements : List α} (hearlier : elements.Pairwise earlier) :
    (elements.insertionSort r).Pairwise (Before key earlier) := by
  induction elements with
  | nil => simp
  | cons first rest ih =>
      obtain ⟨hfirst, hrest⟩ := List.pairwise_cons.mp hearlier
      rw [List.insertionSort_cons]
      refine pairwise_orderedInsert hr (fun other hother => ?_) (ih hrest)
      exact hfirst other ((List.mem_insertionSort r).mp hother)

end Stable

end Insertion

end Keys

/-! ## The first of each key -/

section Firsts

variable {key : α → κ} {R : α → α → Prop} [DecidableRel R]
variable (hR : ∀ left right, R left right ↔ key left ≠ key right)

include hR

/-- Every key is left. -/
theorem exists_mem_destutter {elements : List α} {element : α} (hmem : element ∈ elements) :
    ∃ kept ∈ elements.destutter R, key kept = key element := by
  cases elements with
  | nil => simp at hmem
  | cons first elements =>
      rw [List.destutter_cons']
      induction elements generalizing first element with
      | nil =>
          rw [List.mem_singleton.mp hmem]
          exact ⟨first, List.mem_destutter' _ R first, rfl⟩
      | cons second elements ih =>
          by_cases hdiffer : R first second
          · rw [List.destutter'_cons_pos _ hdiffer]
            rcases List.mem_cons.mp hmem with rfl | hrest
            · exact ⟨element, List.mem_cons_self, rfl⟩
            · obtain ⟨kept, hkept, hkey⟩ := ih second hrest
              exact ⟨kept, List.mem_cons_of_mem _ hkept, hkey⟩
          · rw [List.destutter'_cons_neg _ hdiffer]
            rw [hR, not_not] at hdiffer
            rcases List.mem_cons.mp hmem with rfl | hrest
            · exact ih element List.mem_cons_self
            · rcases List.mem_cons.mp hrest with rfl | hlater
              · rw [← hdiffer]
                exact ih first List.mem_cons_self
              · exact ih first (List.mem_cons_of_mem _ hlater)

/-- The first element with its key is kept. -/
theorem mem_destutter_append {front back : List α} {element : α}
    (hfront : ∀ other ∈ front, key other ≠ key element) :
    element ∈ (front ++ element :: back).destutter R := by
  cases front with
  | nil => exact List.mem_destutter' _ R element
  | cons first front =>
      rw [List.cons_append, List.destutter_cons']
      induction front generalizing first with
      | nil =>
          have hdiffer := (hR first element).mpr (hfront first List.mem_cons_self)
          rw [List.nil_append, List.destutter'_cons_pos _ hdiffer]
          exact List.mem_cons_of_mem _ (List.mem_destutter' _ R element)
      | cons second front ih =>
          rw [List.cons_append]
          by_cases hdiffer : R first second
          · rw [List.destutter'_cons_pos _ hdiffer]
            exact List.mem_cons_of_mem _
              (ih second fun other hother => hfront other (List.mem_cons_of_mem _ hother))
          · rw [List.destutter'_cons_neg _ hdiffer]
            apply ih first
            intro other hother
            rcases List.mem_cons.mp hother with rfl | hlater
            · exact hfront other List.mem_cons_self
            · exact hfront other (List.mem_cons_of_mem _ (List.mem_cons_of_mem _ hlater))

variable [LinearOrder κ]

theorem pairwise_lt_destutter {elements : List α}
    (hordered : elements.Pairwise fun left right => key left ≤ key right) :
    (elements.destutter R).Pairwise fun left right => key left < key right := by
  have hle := hordered.sublist (List.destutter_sublist R elements)
  have htrans : IsTrans α fun left right => key left < key right :=
    ⟨fun _ _ _ hfirst hsecond => lt_trans hfirst hsecond⟩
  rw [← List.isChain_iff_pairwise, List.isChain_iff_forall_rel_of_append_cons_cons]
  intro left right front back hsplit
  have hdiffer := List.isChain_iff_forall_rel_of_append_cons_cons.mp
    (List.isChain_destutter R elements) hsplit
  have hlow := List.isChain_iff_forall_rel_of_append_cons_cons.mp hle.isChain hsplit
  exact lt_of_le_of_ne hlow ((hR left right).mp hdiffer)

end Firsts

/-! ## The first that passes a test -/

/-- What is found in an ordered list comes before everything else that passes the test. -/
theorem before_of_find?_eq_some {R : α → α → Prop} {test : α → Bool} {elements : List α}
    {found other : α} (hordered : elements.Pairwise R) (hfind : elements.find? test = some found)
    (hother : other ∈ elements) (htest : test other = true) : other = found ∨ R found other := by
  obtain ⟨-, front, back, rfl, hfront⟩ := List.find?_eq_some_iff_append.mp hfind
  rcases List.mem_append.mp hother with hmem | hmem
  · have hnot := hfront other hmem
    rw [htest] at hnot
    exact absurd hnot (by simp)
  · rcases List.mem_cons.mp hmem with rfl | hback
    · exact Or.inl rfl
    · have htail := (List.pairwise_append.mp hordered).2.1
      exact Or.inr ((List.pairwise_cons.mp htail).1 other hback)

end PeerConnection.Sorting
