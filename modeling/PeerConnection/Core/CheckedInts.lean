import Mathlib

/-!
# Signed integers of a machine

An operation on signed integers is defined as long as its exact result is in the range of the
type.  A computation is carried out with exact results, and is `none` from the first one on that
does not fit.
-/

namespace PeerConnection.CheckedInts

variable {bits : ℕ}

/-- The range of a signed type. -/
def Fits (bits : ℕ) (value : ℤ) : Prop := -2 ^ (bits - 1) ≤ value ∧ value < 2 ^ (bits - 1)

instance decidableFits (bits : ℕ) (value : ℤ) : Decidable (Fits bits value) :=
  inferInstanceAs (Decidable (_ ∧ _))

/-- The result of an operation, where it is defined. -/
def checked (bits : ℕ) (value : ℤ) : Option ℤ := if Fits bits value then some value else none

theorem checked_eq_some_iff {value result : ℤ} :
    checked bits value = some result ↔ Fits bits value ∧ result = value := by
  rw [checked, Option.ite_none_right_eq_some, Option.some.injEq, eq_comm (a := value)]

theorem exists_checked_iff {value : ℤ} :
    (∃ result, checked bits value = some result) ↔ Fits bits value := by
  simp only [checked_eq_some_iff, exists_eq_right]

/-- A value between two that fit. -/
theorem Fits.between {low value high : ℤ} (hlow : Fits bits low) (hhigh : Fits bits high)
    (hmore : low ≤ value) (hless : value ≤ high) : Fits bits value :=
  ⟨hlow.1.trans hmore, hless.trans_lt hhigh.2⟩

theorem fits_zero (bits : ℕ) : Fits bits 0 := by
  have hpos : (0 : ℤ) < 2 ^ (bits - 1) := by positivity
  exact ⟨by omega, hpos⟩

/-! ## Sums -/

/-- The values are added to a total one after another. -/
def addAll (bits : ℕ) (total : ℤ) : List ℤ → Option ℤ
  | [] => some total
  | value :: values => (checked bits (total + value)).bind fun next => addAll bits next values

/-- A sum that is carried out is exact. -/
theorem eq_of_addAll {total result : ℤ} {values : List ℤ}
    (hsum : addAll bits total values = some result) : result = total + values.sum := by
  induction values generalizing total with
  | nil =>
      obtain rfl := Option.some.inj hsum
      simp
  | cons value values ih =>
      obtain ⟨next, hnext, hrest⟩ := Option.bind_eq_some_iff.mp hsum
      obtain ⟨-, rfl⟩ := checked_eq_some_iff.mp hnext
      rw [ih hrest, List.sum_cons, add_assoc]

theorem fits_of_addAll {total result : ℤ} {values : List ℤ} (htotal : Fits bits total)
    (hsum : addAll bits total values = some result) : Fits bits result := by
  induction values generalizing total with
  | nil => exact Option.some.inj hsum ▸ htotal
  | cons value values ih =>
      obtain ⟨next, hnext, hrest⟩ := Option.bind_eq_some_iff.mp hsum
      obtain ⟨hfits, rfl⟩ := checked_eq_some_iff.mp hnext
      exact ih hfits hrest

/-- What is not negative can be added up if the sum fits. -/
theorem addAll_eq_some {total : ℤ} {values : List ℤ} (htotal : 0 ≤ total)
    (hvalues : ∀ value ∈ values, 0 ≤ value) (hfits : Fits bits (total + values.sum)) :
    addAll bits total values = some (total + values.sum) := by
  induction values generalizing total with
  | nil => simp [addAll]
  | cons value values ih =>
      have hvalue := hvalues value List.mem_cons_self
      have hrest := fun other hother => hvalues other (List.mem_cons_of_mem value hother)
      have hsum : 0 ≤ values.sum := List.sum_nonneg hrest
      rw [List.sum_cons, ← add_assoc] at hfits
      have hstep : Fits bits (total + value) :=
        (fits_zero bits).between hfits (by omega) (by omega)
      rw [addAll, checked, if_pos hstep, Option.bind_some, ih (by omega) hrest hfits,
        List.sum_cons, add_assoc]

end PeerConnection.CheckedInts
