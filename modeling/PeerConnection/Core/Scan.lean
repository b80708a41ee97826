import Mathlib

/-!
# Loops with early exits

A loop body may continue with a new state, leave the loop with the state
reached so far, or run into undefined behaviour.  `scan` runs such a body over
a list.  When every exit of the body depends only on the element and on a small
mode that the elements themselves determine, the outcome of the whole loop is
decided by the first element that does not pass; `Classifies` states this
dependence and the theorems below draw the consequence.
-/

namespace PeerConnection.Scan

variable {α σ φ μ : Type*}

/-- What one execution of a loop body, or a whole loop, ends with. -/
inductive Outcome (φ σ : Type*) where
  | next (state : σ)
  | stop (state : σ)
  | fault (reason : φ)

def Outcome.andThen (outcome : Outcome φ σ) (continueWith : σ → Outcome φ σ) :
    Outcome φ σ :=
  match outcome with
  | .next state => continueWith state
  | .stop state => .stop state
  | .fault reason => .fault reason

@[simp]
theorem Outcome.andThen_next (state : σ) (continueWith : σ → Outcome φ σ) :
    (Outcome.next state).andThen continueWith = continueWith state := rfl

@[simp]
theorem Outcome.andThen_stop (state : σ) (continueWith : σ → Outcome φ σ) :
    (Outcome.stop state).andThen continueWith = .stop state := rfl

@[simp]
theorem Outcome.andThen_fault (reason : φ) (continueWith : σ → Outcome φ σ) :
    (Outcome.fault reason).andThen continueWith = .fault reason := rfl

def scan (body : σ → α → Outcome φ σ) (state : σ) : List α → Outcome φ σ
  | [] => .next state
  | value :: values => (body state value).andThen fun next => scan body next values

/-- How one element leaves the loop, if it does. -/
inductive Verdict where
  | pass
  | reject
  | invalid
  deriving DecidableEq, Repr

/-- The elements, each with the mode in force once it has been read. -/
def labels (nextMode : μ → α → μ) (mode : μ) : List α → List (μ × α)
  | [] => []
  | value :: values =>
      (nextMode mode value, value) :: labels nextMode (nextMode mode value) values

/-- The verdict of the first labelled element that does not pass. -/
def firstExit (verdict : μ → α → Verdict) (labelled : List (μ × α)) : Option Verdict :=
  (labelled.map fun entry => verdict entry.1 entry.2).find? (· ≠ .pass)

@[simp]
theorem labels_nil (nextMode : μ → α → μ) (mode : μ) :
    labels nextMode mode [] = [] := rfl

@[simp]
theorem labels_cons (nextMode : μ → α → μ) (mode : μ) (value : α) (values : List α) :
    labels nextMode mode (value :: values) =
      (nextMode mode value, value) ::
        labels nextMode (nextMode mode value) values := rfl

theorem labels_map_snd (nextMode : μ → α → μ) (mode : μ) (values : List α) :
    (labels nextMode mode values).map Prod.snd = values := by
  induction values generalizing mode with
  | nil => rfl
  | cons value values ih => simp [ih]

/-- A projection of the state that each element updates through its label is a
fold over the labels. -/
theorem projection_foldl {ρ : Type*} {advance : σ → α → σ} (mode : σ → μ)
    (nextMode : μ → α → μ) (proj : σ → ρ) (update : ρ → μ × α → ρ)
    (hmode : ∀ state value, mode (advance state value) = nextMode (mode state) value)
    (hproj : ∀ state value, proj (advance state value) =
      update (proj state) (nextMode (mode state) value, value))
    (state : σ) (values : List α) :
    proj (values.foldl advance state) =
      (labels nextMode (mode state) values).foldl update (proj state) := by
  induction values generalizing state with
  | nil => rfl
  | cons value values ih =>
      rw [List.foldl_cons, ih, labels_cons, List.foldl_cons, hmode, hproj]

/-- A field that some elements overwrite ends with the last value written. -/
theorem foldl_getD_eq_getLastD {β ρ : Type*} (written : β → Option ρ) (initial : ρ)
    (entries : List β) :
    entries.foldl (fun value entry => (written entry).getD value) initial =
      (entries.filterMap written).getLastD initial := by
  induction entries generalizing initial with
  | nil => rfl
  | cons entry entries ih =>
      rw [List.foldl_cons, ih]
      cases hwritten : written entry with
      | none => rw [Option.getD_none, List.filterMap_cons_none hwritten]
      | some value =>
          rw [Option.getD_some, List.filterMap_cons_some hwritten, List.getLastD_cons]

theorem foldl_append_eq_flatMap {β ρ : Type*} (added : β → List ρ) (initial : List ρ)
    (entries : List β) :
    entries.foldl (fun collected entry => collected ++ added entry) initial =
      initial ++ entries.flatMap added := by
  induction entries generalizing initial with
  | nil => simp
  | cons entry entries ih => rw [List.foldl_cons, ih, List.flatMap_cons, List.append_assoc]

/-- Elements that leave the folded value alone can be dropped first. -/
theorem foldl_ite_eq_foldl_filter {β ρ : Type*} (relevant : β → Prop)
    [DecidablePred relevant] (update : ρ → β → ρ) (initial : ρ) (entries : List β) :
    entries.foldl (fun value entry => if relevant entry then update value entry else value)
        initial =
      (entries.filter relevant).foldl update initial := by
  induction entries generalizing initial with
  | nil => rfl
  | cons entry entries ih =>
      by_cases hentry : relevant entry <;> simp [hentry, ih]

theorem labels_append (nextMode : μ → α → μ) (mode : μ) (left right : List α) :
    labels nextMode mode (left ++ right) =
      labels nextMode mode left ++
        labels nextMode (left.foldl nextMode mode) right := by
  induction left generalizing mode with
  | nil => rfl
  | cons value values ih => simp [ih]

theorem firstExit_eq_none_iff (verdict : μ → α → Verdict) (labelled : List (μ × α)) :
    firstExit verdict labelled = none ↔
      ∀ entry ∈ labelled, verdict entry.1 entry.2 = .pass := by
  simp [firstExit]

theorem firstExit_cons (verdict : μ → α → Verdict) (entry : μ × α)
    (labelled : List (μ × α)) :
    firstExit verdict (entry :: labelled) =
      if verdict entry.1 entry.2 = .pass then firstExit verdict labelled
      else some (verdict entry.1 entry.2) := by
  by_cases hentry : verdict entry.1 entry.2 = .pass
  · simp [firstExit, hentry]
  · simp [firstExit, hentry]

/-- The exits of `body` are those of `verdict`, read off the element and the
mode; an element that passes updates the state by `advance`. -/
structure Classifies (body : σ → α → Outcome φ σ) (mode : σ → μ)
    (nextMode : μ → α → μ) (verdict : μ → α → Verdict) (advance : σ → α → σ) :
    Prop where
  pass : ∀ state value, verdict (nextMode (mode state) value) value = .pass →
    body state value = .next (advance state value)
  reject : ∀ state value, verdict (nextMode (mode state) value) value = .reject →
    ∃ left, body state value = .stop left
  invalid : ∀ state value, verdict (nextMode (mode state) value) value = .invalid →
    ∃ reason, body state value = .fault reason
  mode_advance : ∀ state value, verdict (nextMode (mode state) value) value = .pass →
    mode (advance state value) = nextMode (mode state) value

section Classified

variable {body : σ → α → Outcome φ σ} {mode : σ → μ} {nextMode : μ → α → μ}
variable {verdict : μ → α → Verdict} {advance : σ → α → σ}

/-- The verdict of the first element that does not pass, together with the
final state when all of them do, determines the loop. -/
theorem Classifies.scan_outcome
    (hclass : Classifies body mode nextMode verdict advance)
    (state : σ) (values : List α) :
    match firstExit verdict (labels nextMode (mode state) values) with
    | none => scan body state values = .next (values.foldl advance state)
    | some .pass => False
    | some .reject => ∃ left, scan body state values = .stop left
    | some .invalid => ∃ reason, scan body state values = .fault reason := by
  induction values generalizing state with
  | nil => rfl
  | cons value values ih =>
      rw [labels_cons, firstExit_cons]
      cases hverdict : verdict (nextMode (mode state) value) value with
      | pass =>
          have hih := ih (advance state value)
          rw [hclass.mode_advance state value hverdict] at hih
          simpa [scan, hclass.pass state value hverdict] using hih
      | reject =>
          obtain ⟨left, hleft⟩ := hclass.reject state value hverdict
          simp [scan, hleft]
      | invalid =>
          obtain ⟨reason, hreason⟩ := hclass.invalid state value hverdict
          simp [scan, hreason]

/-- The elements that the loop reads: up to the first one that does not pass, with it. -/
def untilExit (verdict : μ → α → Verdict) : List (μ × α) → List (μ × α)
  | [] => []
  | entry :: entries =>
      entry :: if verdict entry.1 entry.2 = .pass then untilExit verdict entries else []

/-- A projection of the state that each element updates, also the one at which the loop
stops, is a fold over the elements that are read. -/
theorem Classifies.scan_projection {ρ : Type*}
    (hclass : Classifies body mode nextMode verdict advance) {proj : σ → ρ}
    {update : ρ → μ × α → ρ}
    (hpass : ∀ state value, verdict (nextMode (mode state) value) value = .pass →
      proj (advance state value) = update (proj state) (nextMode (mode state) value, value))
    (hstop : ∀ state value left, body state value = .stop left →
      proj left = update (proj state) (nextMode (mode state) value, value))
    {state final : σ} {values : List α}
    (hscan : scan body state values = .next final ∨ scan body state values = .stop final) :
    proj final =
      (untilExit verdict (labels nextMode (mode state) values)).foldl update (proj state) := by
  induction values generalizing state with
  | nil =>
      rcases hscan with hscan | hscan
      · obtain rfl := Outcome.next.inj hscan
        rfl
      · exact absurd hscan (by simp [scan])
  | cons value values ih =>
      cases hverdict : verdict (nextMode (mode state) value) value with
      | pass =>
          have hbody := hclass.pass state value hverdict
          simp only [scan, hbody, Outcome.andThen_next] at hscan
          have hrest := ih hscan
          rw [hclass.mode_advance state value hverdict, hpass state value hverdict] at hrest
          rw [labels_cons, untilExit, if_pos hverdict, List.foldl_cons, hrest]
      | reject =>
          obtain ⟨left, hleft⟩ := hclass.reject state value hverdict
          simp only [scan, hleft, Outcome.andThen_stop, reduceCtorEq, false_or,
            Outcome.stop.injEq] at hscan
          subst hscan
          have hexit : verdict (nextMode (mode state) value) value ≠ .pass := by
            rw [hverdict]
            exact Verdict.noConfusion
          rw [labels_cons, untilExit, if_neg hexit]
          exact hstop state value left hleft
      | invalid =>
          obtain ⟨reason, hreason⟩ := hclass.invalid state value hverdict
          simp [scan, hreason] at hscan

end Classified

end PeerConnection.Scan
