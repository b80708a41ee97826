import PeerConnection.Core.Runs

/-!
# Runs with their past, and runs that go through

What is true of a state may depend on how the state has been reached.  An invariant here
speaks of the events so far and of the state that they have led to.  A run goes through to its
end exactly when no event meets a state in which it faults.  At the end come values that are
reported when they have changed.
-/

namespace PeerConnection.Runs

variable {σ ε φ : Type*}

/-- What each step carries over, from the events before it, holds at the end of the run. -/
theorem run_history_induction {step : System σ ε φ} {Inv : List ε → σ → Prop} {start : σ}
    (hinit : Inv [] start)
    (hstep : ∀ past state event next, run step start past = some (.ok state) →
      Inv past state → step state event = some (.ok next) → Inv (past ++ [event]) next)
    {events : List ε} {final : σ} (hrun : run step start events = some (.ok final)) :
    Inv events final := by
  induction events using List.reverseRecOn generalizing final with
  | nil =>
      obtain rfl := Except.ok.inj (Option.some.inj hrun)
      exact hinit
  | append_singleton past event ih =>
      obtain ⟨state, hpast, hlast⟩ := run_concat_eq_ok_iff.mp hrun
      exact hstep past state event final hpast (ih hpast) hlast

/-- What holds of all events can be added to the guard. -/
theorem guarded_mem {step : System σ ε φ} {guard : σ → ε → Prop} {Allowed : ε → Prop}
    {state : σ} {events : List ε} (hguarded : Guarded step guard state events)
    (hallowed : ∀ event ∈ events, Allowed event) :
    Guarded step (fun state event => Allowed event ∧ guard state event) state events := by
  induction events generalizing state with
  | nil => trivial
  | cons event events ih =>
      refine ⟨⟨hallowed event (by simp), hguarded.1⟩, fun next hnext => ?_⟩
      exact ih (hguarded.2 next hnext) fun other hother => hallowed other (by simp [hother])

/-- Where the guard says which events fault, it says which runs go through. -/
theorem run_ok_iff_guarded {step : System σ ε φ} {guard : σ → ε → Prop} {Inv : σ → Prop}
    (htotal : ∀ state event, ∃ outcome, step state event = some outcome)
    (hstep : ∀ state event next, Inv state → step state event = some (.ok next) → Inv next)
    (hfaults : ∀ state event, Inv state →
      ((∃ reason, step state event = some (.error reason)) ↔ ¬ guard state event))
    {state : σ} (hinit : Inv state) (events : List ε) :
    (∃ final, run step state events = some (.ok final) ∧ Inv final) ↔
      Guarded step guard state events := by
  induction events generalizing state with
  | nil => exact ⟨fun _ => trivial, fun _ => ⟨state, rfl, hinit⟩⟩
  | cons event events ih =>
      obtain ⟨outcome, houtcome⟩ := htotal state event
      cases outcome with
      | error reason =>
          have hnot := (hfaults state event hinit).mp ⟨reason, houtcome⟩
          constructor
          · rintro ⟨final, hrun, -⟩
            rw [run, houtcome] at hrun
            split_ifs at hrun
            exact absurd hrun (by simp)
          · intro hguarded
            exact absurd hguarded.1 hnot
      | ok next =>
          have hguard : guard state event := by
            by_contra hnot
            obtain ⟨reason, hfault⟩ := (hfaults state event hinit).mpr hnot
            rw [houtcome] at hfault
            exact absurd hfault (by simp)
          rw [run_cons_of_ok houtcome, ih (hstep state event next hinit houtcome)]
          constructor
          · intro hrest
            refine ⟨hguard, fun other hother => ?_⟩
            rw [houtcome] at hother
            obtain rfl := Except.ok.inj (Option.some.inj hother)
            exact hrest
          · intro hguarded
            exact hguarded.2 next houtcome

/-! ## Reports of changes -/

section Reports

variable {α : Type*} {initial current value : α} {reports : List α}

/-- No report repeats what was known before it, and the last one is what is true now. -/
structure ReportsChanges (initial current : α) (reports : List α) : Prop where
  changes : (initial :: reports).IsChain (· ≠ ·)
  last : reports.getLastD initial = current

theorem reportsChanges_nil (initial : α) : ReportsChanges initial initial [] :=
  ⟨List.isChain_singleton initial, rfl⟩

theorem ReportsChanges.report (hreports : ReportsChanges initial current reports)
    (hnew : value ≠ current) : ReportsChanges initial value (reports ++ [value]) := by
  refine ⟨?_, List.getLastD_concat⟩
  rw [← List.cons_append]
  refine hreports.changes.append (List.isChain_singleton value) ?_
  intro before hbefore after hafter
  obtain rfl : value = after := Option.some.inj hafter
  rw [List.getLast?_cons, ← List.getLastD_eq_getLast?, hreports.last] at hbefore
  obtain rfl : current = before := Option.some.inj hbefore
  exact hnew.symm

end Reports

end PeerConnection.Runs
