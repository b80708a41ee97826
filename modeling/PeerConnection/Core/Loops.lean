import PeerConnection.Core.Runs

/-!
# Loops with the test at the end

The body of the loop may fault, and its test comes last.  What holds of the outcome of a sequence
or of such a loop follows from what each part or each iteration ends with.
-/

namespace PeerConnection.Runs

universe u

variable {σ φ : Type*}

/-! ## Outcomes -/

section Outcomes

variable {α β : Type*} {Reached : α → Prop} {Wanted : β → Prop} {Tolerated : φ → Prop}
variable {outcome : Except φ α}

theorem Ends.imp {Weaker : α → Prop} (hends : Ends Reached Tolerated outcome)
    (himp : ∀ value, Reached value → Weaker value) : Ends Weaker Tolerated outcome := by
  cases outcome with
  | ok value => exact himp value hends
  | error reason => exact hends

theorem Ends.tolerate {Allowed : φ → Prop} (hends : Ends Reached Tolerated outcome)
    (himp : ∀ reason, Tolerated reason → Allowed reason) : Ends Reached Allowed outcome := by
  cases outcome with
  | ok value => exact hends
  | error reason => exact himp reason hends

theorem Ends.map {change : α → β} (hends : Ends Reached Tolerated outcome)
    (hchange : ∀ value, Reached value → Wanted (change value)) :
    Ends Wanted Tolerated (outcome.map change) := by
  cases outcome with
  | ok value => exact hchange value hends
  | error reason => exact hends

theorem Ends.bind {next : α → Except φ β} (hends : Ends Reached Tolerated outcome)
    (hnext : ∀ value, Reached value → Ends Wanted Tolerated (next value)) :
    Ends Wanted Tolerated (outcome.bind next) := by
  cases outcome with
  | ok value => exact hnext value hends
  | error reason => exact hends

/-- An outcome that no fault is tolerated for is a value. -/
theorem Ends.exists_ok (hends : Ends Reached Tolerated outcome)
    (hnone : ∀ reason, ¬ Tolerated reason) : ∃ value, outcome = .ok value ∧ Reached value := by
  cases outcome with
  | ok value => exact ⟨value, rfl, hends⟩
  | error reason => exact absurd hends (hnone reason)

end Outcomes

/-! ## Loops -/

section Loops

variable {body : σ → Except φ σ} {done : σ → Bool} {advance : σ → σ} {unfinished : φ}

/-- The loop, for as many iterations as there is fuel.  After the body it is done, or it advances
and starts over. -/
def loopUntil (body : σ → Except φ σ) (done : σ → Bool) (advance : σ → σ) (unfinished : φ) :
    ℕ → σ → Except φ σ
  | 0, _ => .error unfinished
  | fuel + 1, state =>
      (body state).bind fun next =>
        if done next then .ok next
        else loopUntil body done advance unfinished fuel (advance next)

/-- The rule for the loop: an iteration from the invariant ends with the postcondition, and when
it is not the last one the invariant holds again with less work to do. -/
theorem ends_loopUntil {Inv Post : σ → Prop} {Tolerated : φ → Prop} (work : σ → ℕ)
    (hbody : ∀ state, Inv state →
      Ends (fun next => Post next ∧
        (done next = false → Inv (advance next) ∧ work (advance next) < work state))
        Tolerated (body state))
    {fuel : ℕ} {state : σ} (hinit : Inv state) (hfuel : work state < fuel) :
    Ends (fun final => Post final ∧ done final = true) Tolerated
      (loopUntil body done advance unfinished fuel state) := by
  induction fuel generalizing state with
  | zero => omega
  | succ fuel ih =>
      rw [loopUntil]
      refine (hbody state hinit).bind fun next hnext => ?_
      cases hdone : done next with
      | true => exact ⟨hnext.1, hdone⟩
      | false =>
          obtain ⟨hinv, hless⟩ := hnext.2 hdone
          exact ih hinv (by omega)

/-- The rule for a loop that is known to have ended. -/
theorem of_loopUntil {Inv Post : σ → Prop}
    (hbody : ∀ state next, Inv state → body state = .ok next →
      Post next ∧ (done next = false → Inv (advance next)))
    {fuel : ℕ} {state final : σ} (hinit : Inv state)
    (hloop : loopUntil body done advance unfinished fuel state = .ok final) :
    Post final ∧ done final = true := by
  induction fuel generalizing state with
  | zero => exact absurd hloop (by simp [loopUntil])
  | succ fuel ih =>
      rw [loopUntil] at hloop
      cases hnext : body state with
      | error reason =>
          rw [hnext] at hloop
          exact absurd hloop (by simp [Except.bind])
      | ok next =>
          rw [hnext] at hloop
          simp only [Except.bind] at hloop
          obtain ⟨hpost, hinv⟩ := hbody state next hinit hnext
          cases hdone : done next with
          | true =>
              rw [hdone, if_pos rfl] at hloop
              obtain rfl := Except.ok.inj hloop
              exact ⟨hpost, hdone⟩
          | false =>
              simp only [hdone, Bool.false_eq_true, if_false] at hloop
              exact ih (hinv hdone) hloop

/-- More fuel makes no difference to a loop that has ended. -/
theorem loopUntil_of_le {fuel more : ℕ} {state final : σ} (hle : fuel ≤ more)
    (hloop : loopUntil body done advance unfinished fuel state = .ok final) :
    loopUntil body done advance unfinished more state = .ok final := by
  induction fuel generalizing more state with
  | zero => exact absurd hloop (by simp [loopUntil])
  | succ fuel ih =>
      obtain ⟨less, rfl⟩ := Nat.exists_eq_add_of_le' (show 1 ≤ more by omega)
      rw [loopUntil] at hloop ⊢
      cases hbody : body state with
      | error reason =>
          rw [hbody] at hloop
          exact absurd hloop (by simp [Except.bind])
      | ok next =>
          rw [hbody] at hloop
          simp only [Except.bind] at hloop ⊢
          cases hdone : done next with
          | true => rwa [hdone] at hloop
          | false =>
              simp only [hdone, Bool.false_eq_true, if_false] at hloop ⊢
              exact ih (by omega) hloop

end Loops

end PeerConnection.Runs
