import Mathlib

/-!
# Runs of a system with faulting steps

A system is a deterministic step function on states and events.  An event may
be unavailable in a state (`none`), lead to a new state, or fault; a fault ends
the run.  The induction rules below are stated once for all systems of the
development: what each step preserves, under a guard on the step, holds at the
end of every run whose steps all meet the guard.
-/

namespace PeerConnection.Runs

universe u

variable {σ ε φ : Type*}

/-- A sequence succeeds exactly when both of its parts do. -/
theorem except_bind_eq_ok_iff {α β : Type u} {first : Except φ α} {next : α → Except φ β}
    {result : β} :
    (first >>= next) = .ok result ↔ ∃ value, first = .ok value ∧ next value = .ok result := by
  cases first with
  | error reason => simp [bind, Except.bind]
  | ok value => simp [bind, Except.bind]

theorem except_map_eq_ok_iff {α β : Type*} {change : α → β} {first : Except φ α}
    {result : β} :
    first.map change = .ok result ↔ ∃ value, first = .ok value ∧ change value = result := by
  cases first <;> simp [Except.map]

/-- `none` means that the event cannot happen in this state. -/
abbrev System (σ ε φ : Type*) := σ → ε → Option (Except φ σ)

/-- Execute a list of events.  Nothing happens after a fault. -/
def run (step : System σ ε φ) (state : σ) : List ε → Option (Except φ σ)
  | [] => some (.ok state)
  | event :: events =>
      match step state event with
      | none => none
      | some (.error reason) => if events.isEmpty then some (.error reason) else none
      | some (.ok next) => run step next events

/-- Every step of the run meets the guard in the state it starts from. -/
def Guarded (step : System σ ε φ) (guard : σ → ε → Prop) (state : σ) :
    List ε → Prop
  | [] => True
  | event :: events =>
      guard state event ∧
        ∀ next, step state event = some (.ok next) → Guarded step guard next events

/-- A run that is given explicitly can be checked against its guard. -/
instance decidableGuarded (step : System σ ε φ) (guard : σ → ε → Prop)
    [∀ state event, Decidable (guard state event)] (state : σ) :
    ∀ events, Decidable (Guarded step guard state events)
  | [] => .isTrue trivial
  | event :: events =>
      have : Decidable (∀ next, step state event = some (.ok next) →
          Guarded step guard next events) :=
        match hstep : step state event with
        | none => .isTrue (by simp)
        | some (.error _) => .isTrue (by simp)
        | some (.ok next) =>
            have := decidableGuarded step guard next events
            decidable_of_iff (Guarded step guard next events) (by simp)
      inferInstanceAs (Decidable (_ ∧ _))

/-- The system with the steps that are allowed. -/
def restrict (step : System σ ε φ) (allowed : σ → ε → Prop)
    [∀ state event, Decidable (allowed state event)] : System σ ε φ := fun state event =>
  if allowed state event then step state event else none

theorem restrict_eq_some_iff {step : System σ ε φ} {allowed : σ → ε → Prop}
    [∀ state event, Decidable (allowed state event)] {state : σ} {event : ε}
    {outcome : Except φ σ} :
    restrict step allowed state event = some outcome ↔
      allowed state event ∧ step state event = some outcome := by
  rw [restrict, Option.ite_none_right_eq_some]

@[simp]
theorem run_nil (step : System σ ε φ) (state : σ) :
    run step state [] = some (.ok state) := rfl

theorem run_cons_of_ok {step : System σ ε φ} {state next : σ} {event : ε}
    {events : List ε} (hstep : step state event = some (.ok next)) :
    run step state (event :: events) = run step next events := by
  simp [run, hstep]

/-- The first step of a run either leads to the rest of the run or is the fault
that ends it. -/
theorem run_cons_eq_some_iff {step : System σ ε φ} {state : σ} {event : ε}
    {events : List ε} {outcome : Except φ σ} :
    run step state (event :: events) = some outcome ↔
      (∃ next, step state event = some (.ok next) ∧
        run step next events = some outcome) ∨
      (∃ reason, step state event = some (.error reason) ∧ events = [] ∧
        outcome = .error reason) := by
  rw [run]
  cases hstep : step state event with
  | none => simp
  | some result =>
      cases result with
      | error reason =>
          cases events with
          | nil =>
              constructor
              · intro hout
                exact Or.inr ⟨reason, rfl, rfl, (Option.some.inj hout).symm⟩
              · rintro (⟨next, hnext, _⟩ | ⟨other, hother, _, rfl⟩)
                · simp at hnext
                · simpa using hother
          | cons event events => simp
      | ok next => simp

/-- The step that a given run starts with. -/
theorem run_cons_cases {step : System σ ε φ} {state : σ} {event : ε} {events : List ε}
    {outcome : Except φ σ} (hrun : run step state (event :: events) = some outcome) :
    (∃ next, step state event = some (.ok next) ∧ run step next events = some outcome) ∨
      (∃ reason, step state event = some (.error reason) ∧ events = [] ∧
        outcome = .error reason) :=
  run_cons_eq_some_iff.mp hrun

/-- A run that does not fault does not fault in its first step. -/
theorem exists_next_of_run_cons {step : System σ ε φ} {state final : σ} {event : ε}
    {events : List ε} (hrun : run step state (event :: events) = some (.ok final)) :
    ∃ next, step state event = some (.ok next) ∧ run step next events = some (.ok final) := by
  rcases run_cons_cases hrun with hstarted | ⟨_, _, _, hout⟩
  · exact hstarted
  · exact absurd hout (by simp)

theorem run_append {step : System σ ε φ} {state middle : σ} {left right : List ε}
    (hleft : run step state left = some (.ok middle)) :
    run step state (left ++ right) = run step middle right := by
  induction left generalizing state with
  | nil =>
      simp only [run_nil, Option.some.injEq, Except.ok.injEq] at hleft
      rw [List.nil_append, hleft]
  | cons event events ih =>
      obtain ⟨next, hstep, hrest⟩ := exists_next_of_run_cons hleft
      rw [List.cons_append, run_cons_of_ok hstep]
      exact ih hrest

/-- The state after a prefix of a run that does not fault. -/
theorem exists_middle_of_run_append {step : System σ ε φ} {state : σ}
    {left right : List ε} {outcome : Except φ σ} (hright : right ≠ [])
    (hrun : run step state (left ++ right) = some outcome) :
    ∃ middle, run step state left = some (.ok middle) ∧
      run step middle right = some outcome := by
  induction left generalizing state with
  | nil => exact ⟨state, rfl, hrun⟩
  | cons event events ih =>
      rw [List.cons_append] at hrun
      rcases run_cons_cases hrun with ⟨next, hstep, hrest⟩ | ⟨_, _, hnil, _⟩
      · obtain ⟨middle, hstart, hsuffix⟩ := ih hrest
        exact ⟨middle, by rw [run_cons_of_ok hstep, hstart], hsuffix⟩
      · exact absurd (List.append_eq_nil_iff.mp hnil).2 hright

/-- A run that ends with this event in this state has taken it as its last step. -/
theorem run_concat_eq_ok_iff {step : System σ ε φ} {state final : σ} {events : List ε}
    {event : ε} :
    run step state (events ++ [event]) = some (.ok final) ↔
      ∃ middle, run step state events = some (.ok middle) ∧
        step middle event = some (.ok final) := by
  constructor
  · intro hrun
    obtain ⟨middle, hevents, hlast⟩ := exists_middle_of_run_append (by simp) hrun
    obtain ⟨next, hstep, hend⟩ := exists_next_of_run_cons hlast
    obtain rfl := Except.ok.inj (Option.some.inj hend)
    exact ⟨middle, hevents, hstep⟩
  · rintro ⟨middle, hevents, hstep⟩
    rw [run_append hevents, run_cons_of_ok hstep, run_nil]

/-- A run that faults does so in its last step. -/
theorem exists_fault_step {step : System σ ε φ} {state : σ} {events : List ε} {reason : φ}
    (hrun : run step state events = some (.error reason)) :
    ∃ before event middle, events = before ++ [event] ∧
      run step state before = some (.ok middle) ∧ step middle event = some (.error reason) := by
  induction events generalizing state with
  | nil => simp at hrun
  | cons event events ih =>
      rcases run_cons_cases hrun with ⟨next, hstep, hrest⟩ | ⟨other, hstep, rfl, hout⟩
      · obtain ⟨before, last, middle, rfl, hbefore, hlast⟩ := ih hrest
        exact ⟨event :: before, last, middle, rfl, by rw [run_cons_of_ok hstep, hbefore], hlast⟩
      · obtain rfl := Except.error.inj hout
        exact ⟨[], event, state, rfl, rfl, hstep⟩

/-- The run has ended in a state that passes the check. -/
def reaches (check : σ → Bool) : Option (Except φ σ) → Bool
  | some (.ok final) => check final
  | _ => false

theorem exists_of_reaches (check : σ → Bool) {outcome : Option (Except φ σ)}
    (hreaches : reaches check outcome = true) :
    ∃ final, outcome = some (.ok final) ∧ check final = true := by
  match outcome with
  | some (.ok final) => exact ⟨final, rfl, hreaches⟩
  | some (.error _) => simp [reaches] at hreaches
  | none => simp [reaches] at hreaches

/-- What a run ends with: a state that satisfies `Inv`, or a fault that
`Tolerated` allows. -/
def Ends (Inv : σ → Prop) (Tolerated : φ → Prop) : Except φ σ → Prop
  | .ok final => Inv final
  | .error reason => Tolerated reason

/-- What guarded steps preserve holds at the end of a guarded run, and what
guarded steps say of their faults holds of the fault that ends it. -/
theorem guarded_run_induction {step : System σ ε φ} {guard : σ → ε → Prop}
    {Inv : σ → Prop} (Tolerated : φ → Prop)
    (hstep : ∀ state event next, Inv state → guard state event →
      step state event = some (.ok next) → Inv next)
    (hfault : ∀ state event reason, Inv state → guard state event →
      step state event = some (.error reason) → Tolerated reason)
    {state : σ} {events : List ε} (hinit : Inv state)
    (hguarded : Guarded step guard state events) {outcome : Except φ σ}
    (hrun : run step state events = some outcome) :
    Ends Inv Tolerated outcome := by
  induction events generalizing state with
  | nil =>
      simp only [run_nil, Option.some.injEq] at hrun
      subst hrun
      exact hinit
  | cons event events ih =>
      obtain ⟨hguard, hrest⟩ := hguarded
      rcases run_cons_cases hrun with ⟨next, hnext, htail⟩ | ⟨reason, herr, _, hout⟩
      · exact ih (hstep state event next hinit hguard hnext) (hrest next hnext) htail
      · subst hout
        exact hfault state event reason hinit hguard herr

/-- Under an invariant that guarded steps preserve, one guard implies another. -/
theorem guarded_of_invariant {step : System σ ε φ} {guard goal : σ → ε → Prop}
    {Inv : σ → Prop}
    (hstep : ∀ state event next, Inv state → guard state event →
      step state event = some (.ok next) → Inv next)
    (hgoal : ∀ state event, Inv state → guard state event → goal state event)
    {state : σ} {events : List ε} (hinit : Inv state)
    (hguarded : Guarded step guard state events) : Guarded step goal state events := by
  induction events generalizing state with
  | nil => trivial
  | cons event events ih =>
      obtain ⟨hguard, hrest⟩ := hguarded
      refine ⟨hgoal state event hinit hguard, fun next hnext => ?_⟩
      exact ih (hstep state event next hinit hguard hnext) (hrest next hnext)

/-- Under an invariant that all steps preserve, guards that agree on every step agree on
runs. -/
theorem guarded_iff_of_invariant {step : System σ ε φ} {guard goal : σ → ε → Prop}
    {Inv : σ → Prop}
    (hstep : ∀ state event next, Inv state →
      step state event = some (.ok next) → Inv next)
    (hagree : ∀ state event, Inv state → (guard state event ↔ goal state event))
    {state : σ} (hinit : Inv state) (events : List ε) :
    Guarded step guard state events ↔ Guarded step goal state events := by
  constructor
  · exact guarded_of_invariant (fun state event next hinv _ => hstep state event next hinv)
      (fun state event hinv => (hagree state event hinv).mp) hinit
  · exact guarded_of_invariant (fun state event next hinv _ => hstep state event next hinv)
      (fun state event hinv => (hagree state event hinv).mpr) hinit

/-- Guards that agree on every step agree on runs. -/
theorem guarded_congr {step : System σ ε φ} {guard goal : σ → ε → Prop}
    (hagree : ∀ state event, guard state event ↔ goal state event) (state : σ)
    (events : List ε) : Guarded step guard state events ↔ Guarded step goal state events := by
  have hguards : guard = goal := by
    funext state event
    exact propext (hagree state event)
  rw [hguards]

/-- A run is guarded when its parts are. -/
theorem guarded_append_iff {step : System σ ε φ} {guard : σ → ε → Prop} {state middle : σ}
    {left right : List ε} (hleft : run step state left = some (.ok middle)) :
    Guarded step guard state (left ++ right) ↔
      Guarded step guard state left ∧ Guarded step guard middle right := by
  induction left generalizing state with
  | nil =>
      obtain rfl := Except.ok.inj (Option.some.inj hleft)
      exact ⟨fun hguarded => ⟨trivial, hguarded⟩, fun hguarded => hguarded.2⟩
  | cons event events ih =>
      obtain ⟨next, hstep, hrest⟩ := exists_next_of_run_cons hleft
      constructor
      · rintro ⟨hguard, hafter⟩
        obtain ⟨hevents, hright⟩ := (ih hrest).mp (hafter next hstep)
        refine ⟨⟨hguard, fun other hother => ?_⟩, hright⟩
        rw [hstep] at hother
        rwa [← Except.ok.inj (Option.some.inj hother)]
      · rintro ⟨⟨hguard, hafter⟩, hright⟩
        refine ⟨hguard, fun other hother => ?_⟩
        rw [hstep] at hother
        rw [← Except.ok.inj (Option.some.inj hother)]
        exact (ih hrest).mpr ⟨hafter next hstep, hright⟩

/-- A run is guarded when every step that it takes meets the guard. -/
theorem guarded_of_steps {step : System σ ε φ} {guard : σ → ε → Prop} {state : σ}
    {events : List ε}
    (hsteps : ∀ before event after middle, events = before ++ event :: after →
      run step state before = some (.ok middle) → guard middle event) :
    Guarded step guard state events := by
  induction events generalizing state with
  | nil => trivial
  | cons event events ih =>
      refine ⟨hsteps [] event events state rfl rfl, fun next hnext => ih ?_⟩
      intro before other after middle hevents hrun
      apply hsteps (event :: before) other after middle
      · rw [hevents, List.cons_append]
      · rw [run_cons_of_ok hnext, hrun]

/-- The guard of a step in the middle of a run. -/
theorem guard_of_guarded {step : System σ ε φ} {guard : σ → ε → Prop} {state middle : σ}
    {before after : List ε} {event : ε}
    (hguarded : Guarded step guard state (before ++ event :: after))
    (hbefore : run step state before = some (.ok middle)) : guard middle event :=
  ((guarded_append_iff hbefore).mp hguarded).2.1

/-- A guard that looks at the events alone. -/
theorem guarded_of_forall {step : System σ ε φ} {guard : σ → ε → Prop} {events : List ε}
    (hevents : ∀ event ∈ events, ∀ state, guard state event) (state : σ) :
    Guarded step guard state events := by
  induction events generalizing state with
  | nil => trivial
  | cons event events ih =>
      refine ⟨hevents event (by simp) state, fun next _ => ?_⟩
      exact ih (fun other hother => hevents other (by simp [hother])) next

/-- The rule for systems whose steps need no guard. -/
theorem run_induction {step : System σ ε φ} {Inv : σ → Prop}
    (hstep : ∀ state event next, Inv state →
      step state event = some (.ok next) → Inv next)
    {state final : σ} {events : List ε} (hinit : Inv state)
    (hrun : run step state events = some (.ok final)) : Inv final :=
  guarded_run_induction (fun _ => True)
    (fun state event next hinv _ => hstep state event next hinv)
    (fun _ _ _ _ _ _ => trivial) hinit
    (guarded_of_forall (fun _ _ _ => trivial) state) hrun

/-- The rule for runs of events of one kind. -/
theorem run_induction_of_forall {step : System σ ε φ} {Inv : σ → Prop} {Allowed : ε → Prop}
    (hstep : ∀ state event next, Inv state → Allowed event →
      step state event = some (.ok next) → Inv next)
    {state final : σ} {events : List ε} (hinit : Inv state)
    (hallowed : ∀ event ∈ events, Allowed event)
    (hrun : run step state events = some (.ok final)) : Inv final :=
  @guarded_run_induction σ ε φ step (fun _ event => Allowed event) Inv (fun _ => True) hstep
    (fun _ _ _ _ _ _ => trivial) state events hinit
    (guarded_of_forall (fun event hmem _ => hallowed event hmem) state) (.ok final) hrun

/-- Steps that always succeed and keep an invariant make up runs that do. -/
theorem run_total {step : System σ ε φ} {Inv : σ → Prop}
    (hstep : ∀ state event, Inv state → ∃ next, step state event = some (.ok next) ∧ Inv next)
    {state : σ} (hinit : Inv state) (events : List ε) :
    ∃ final, run step state events = some (.ok final) ∧ Inv final := by
  induction events generalizing state with
  | nil => exact ⟨state, rfl, hinit⟩
  | cons event events ih =>
      obtain ⟨next, hnext, hinv⟩ := hstep state event hinit
      rw [run_cons_of_ok hnext]
      exact ih hinv

/-- The property holds in every state that the run passes through. -/
def Throughout (step : System σ ε φ) (Holds : σ → Prop) (state : σ) (events : List ε) :
    Prop :=
  ∀ before after passed, events = before ++ after →
    run step state before = some (.ok passed) → Holds passed

theorem throughout_cons {step : System σ ε φ} {Holds : σ → Prop} {state next : σ}
    {event : ε} {events : List ε} (hstep : step state event = some (.ok next))
    (hall : Throughout step Holds state (event :: events)) :
    Throughout step Holds next events := by
  intro before after passed hevents hrun
  apply hall (event :: before) after passed
  · rw [hevents, List.cons_append]
  · rw [run_cons_of_ok hstep, hrun]

/-- What guarded steps preserve holds in every state that a guarded run passes through. -/
theorem throughout_of_guarded {step : System σ ε φ} {guard : σ → ε → Prop}
    {Inv Holds : σ → Prop}
    (hstep : ∀ state event next, Inv state → guard state event →
      step state event = some (.ok next) → Inv next)
    (hholds : ∀ state, Inv state → Holds state)
    {state : σ} {events : List ε} (hinit : Inv state)
    (hguarded : Guarded step guard state events) : Throughout step Holds state events := by
  intro before after passed hevents hrun
  induction before generalizing state events with
  | nil =>
      obtain rfl := Except.ok.inj (Option.some.inj hrun)
      exact hholds state hinit
  | cons event before ih =>
      rw [hevents, List.cons_append] at hguarded
      obtain ⟨hguard, hrest⟩ := hguarded
      obtain ⟨next, hnext, hafter⟩ := exists_next_of_run_cons hrun
      exact ih (hstep state event next hinit hguard hnext) (hrest next hnext) rfl hafter

/-- A guard is exact for a property when it keeps an invariant that implies the
property, and when every step that misses it leads to a state without the property. -/
theorem guarded_iff_throughout {step : System σ ε φ} {guard : σ → ε → Prop}
    {Inv Holds : σ → Prop}
    (hstep : ∀ state event next, Inv state → guard state event →
      step state event = some (.ok next) → Inv next)
    (hholds : ∀ state, Inv state → Holds state)
    (hbreaks : ∀ state event, Inv state → ¬ guard state event →
      ∃ next, step state event = some (.ok next) ∧ ¬ Holds next)
    {state : σ} (hinit : Inv state) (events : List ε) :
    Throughout step Holds state events ↔ Guarded step guard state events := by
  refine ⟨fun hall => ?_, throughout_of_guarded hstep hholds hinit⟩
  induction events generalizing state with
  | nil => trivial
  | cons event events ih =>
      have hguard : guard state event := by
        by_contra hmiss
        obtain ⟨next, hnext, hbad⟩ := hbreaks state event hinit hmiss
        apply hbad
        apply hall [event] events next rfl
        rw [run_cons_of_ok hnext, run_nil]
      refine ⟨hguard, fun next hnext => ?_⟩
      exact ih (hstep state event next hinit hguard hnext) (throughout_cons hnext hall)

/-- A part of the state that follows its own rule in every step follows it over a run. -/
theorem run_projection {τ : Type*} {step : System σ ε φ} {view : σ → τ} {next : τ → ε → τ}
    (hstep : ∀ state event after, step state event = some (.ok after) →
      view after = next (view state) event)
    {state final : σ} {events : List ε} (hrun : run step state events = some (.ok final)) :
    view final = events.foldl next (view state) := by
  induction events generalizing state with
  | nil =>
      obtain rfl := Except.ok.inj (Option.some.inj hrun)
      rfl
  | cons event events ih =>
      obtain ⟨after, hafter, hrest⟩ := exists_next_of_run_cons hrun
      rw [ih hrest, hstep state event after hafter, List.foldl_cons]

/-- Under an invariant, a guard that is missed exactly by the steps with this fault tells
the runs that come to it. -/
theorem guarded_iff_never_faults {step : System σ ε φ} {guard : σ → ε → Prop}
    {Inv : σ → Prop} {reason : φ}
    (hstep : ∀ state event next, Inv state →
      step state event = some (.ok next) → Inv next)
    (hfault : ∀ state event, Inv state →
      (step state event = some (.error reason) ↔ ¬ guard state event))
    {state : σ} (hinit : Inv state) (events : List ε) :
    (∀ before after, events = before ++ after →
        run step state before ≠ some (.error reason)) ↔
      Guarded step guard state events := by
  induction events generalizing state with
  | nil =>
      refine ⟨fun _ => trivial, fun _ before after hevents => ?_⟩
      obtain ⟨rfl, -⟩ := List.append_eq_nil_iff.mp hevents.symm
      simp
  | cons event events ih =>
      constructor
      · intro hnever
        have hguard : guard state event := by
          by_contra hmiss
          have hstepped := (hfault state event hinit).mpr hmiss
          exact hnever [event] events rfl (by simp [run, hstepped])
        refine ⟨hguard, fun next hnext => (ih (hstep state event next hinit hnext)).mp ?_⟩
        intro before after hevents hrun
        apply hnever (event :: before) after
        · rw [hevents, List.cons_append]
        · rw [run_cons_of_ok hnext, hrun]
      · rintro ⟨hguard, hrest⟩ before after hevents hrun
        cases before with
        | nil => simp at hrun
        | cons first before =>
            rw [List.cons_append] at hevents
            obtain ⟨rfl, rfl⟩ := List.cons.inj hevents
            rcases run_cons_cases hrun with
              ⟨next, hnext, htail⟩ | ⟨other, hother, _, hout⟩
            · exact (ih (hstep state event next hinit hnext)).mpr (hrest next hnext) before
                after rfl htail
            · obtain rfl := Except.error.inj hout
              exact (hfault state event hinit).mp hother hguard

/-- A system whose allowed steps keep an invariant and use up a finite amount of
work comes to rest, or faults on the way. -/
theorem exists_run_to_rest {step : System σ ε φ} {Allowed : ε → Prop}
    {Inv Resting : σ → Prop} (work : σ → ℕ)
    (hprogress : ∀ state, Inv state → ¬ Resting state →
      ∃ event outcome, Allowed event ∧ step state event = some outcome ∧
        ∀ next, outcome = .ok next → Inv next ∧ work next < work state)
    (state : σ) (hinit : Inv state) :
    ∃ events outcome, (∀ event ∈ events, Allowed event) ∧
      run step state events = some outcome ∧
      Ends (fun final => Inv final ∧ Resting final) (fun _ => True) outcome := by
  induction hwork : work state using Nat.strong_induction_on generalizing state with
  | _ amount ih =>
      by_cases hresting : Resting state
      · exact ⟨[], .ok state, by simp, rfl, hinit, hresting⟩
      obtain ⟨event, outcome, hallowed, hstep, hnext⟩ := hprogress state hinit hresting
      cases outcome with
      | error reason =>
          exact ⟨[event], .error reason, by simpa using hallowed, by simp [run, hstep],
            trivial⟩
      | ok next =>
          obtain ⟨hinv, hless⟩ := hnext next rfl
          obtain ⟨events, final, hevents, hrun, hends⟩ :=
            ih (work next) (hwork ▸ hless) next hinv rfl
          refine ⟨event :: events, final, ?_, ?_, hends⟩
          · simpa [hallowed] using hevents
          · rw [run_cons_of_ok hstep, hrun]

end PeerConnection.Runs
