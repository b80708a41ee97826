import PeerConnection.Core.Runs

/-!
# Who owns the connection context

The context counts its references.  The connection holds one in `context_`, and
`GetContext` hands out others.  The destructor of the connection releases the
context in its body, and the member releases it once more afterwards.
-/

namespace PeerConnection.Connection

open PeerConnection.Runs

/-! ## The reference count -/

/-- `rtc::RefCountedNonVirtual<ConnectionContext>`. -/
structure ConnectionContext where
  refCount : ℕ
  /-- The destructor has run and the memory is free. -/
  destroyed : Bool
  deriving DecidableEq, Repr

inductive ContextFault where
  | usedAfterFree
  deriving DecidableEq, Repr

namespace ConnectionContext

/-- `Create`: the new object, taken by a `scoped_refptr`. -/
def create : ConnectionContext where
  refCount := 1
  destroyed := false

/-- A call of one of the context's methods. -/
def use (context : ConnectionContext) : Except ContextFault ConnectionContext :=
  if context.destroyed then .error .usedAfterFree else .ok context

def addRef (context : ConnectionContext) : Except ContextFault ConnectionContext :=
  if context.destroyed then .error .usedAfterFree
  else .ok { context with refCount := context.refCount + 1 }

/-- The last reference destroys the context. -/
def release (context : ConnectionContext) : Except ContextFault ConnectionContext :=
  if context.destroyed then .error .usedAfterFree
  else .ok
    { refCount := context.refCount - 1
      destroyed := decide (context.refCount ≤ 1) }

end ConnectionContext

/-! ## The holders -/

/-- How far the destructor of the connection has come. -/
inductive DestructorStage where
  | notStarted
  /-- The network thread has reset the controller. -/
  | controllerReset
  /-- The body is done, the members are still there. -/
  | bodyDone
  /-- `context_`, the first member, is the last one to go. -/
  | membersDestroyed
  | contextReleased
  deriving DecidableEq, Repr

structure ContextHolders where
  context : ConnectionContext := .create
  stage : DestructorStage := .notStarted
  /-- The references from `GetContext` that have not been dropped. -/
  outside : ℕ := 0
  deriving DecidableEq, Repr

inductive HolderEvent where
  | getContext
  | drop
  /-- `context_->network_thread()->Invoke(...)` of the destructor. -/
  | resetController
  /-- `context_->Release()` of the destructor. -/
  | releaseInBody
  /-- The members after `context_` are destroyed. -/
  | destroyMembers
  /-- The `scoped_refptr` of `context_` is destroyed. -/
  | releaseMember
  deriving DecidableEq, Repr

/-- The connection is called until its destructor starts; outside references are
dropped at any time. -/
def holderStep : System ContextHolders HolderEvent ContextFault :=
  fun holders event =>
    match event with
    | .getContext =>
        if holders.stage = .notStarted then
          some (holders.context.addRef.map fun context =>
            { holders with context := context, outside := holders.outside + 1 })
        else none
    | .drop =>
        if holders.outside = 0 then none
        else some (holders.context.release.map fun context =>
          { holders with context := context, outside := holders.outside - 1 })
    | .resetController =>
        if holders.stage = .notStarted then
          some (holders.context.use.map fun context =>
            { holders with context := context, stage := .controllerReset })
        else none
    | .releaseInBody =>
        if holders.stage = .controllerReset then
          some (holders.context.release.map fun context =>
            { holders with context := context, stage := .bodyDone })
        else none
    | .destroyMembers =>
        if holders.stage = .bodyDone then some (.ok { holders with stage := .membersDestroyed })
        else none
    | .releaseMember =>
        if holders.stage = .membersDestroyed then
          some (holders.context.release.map fun context =>
            { holders with context := context, stage := .contextReleased })
        else none

/-! ## Balanced counts -/

/-- `context_` counts until it is destroyed. -/
def ContextHolders.liveReferences (holders : ContextHolders) : ℕ :=
  holders.outside + if holders.stage = .contextReleased then 0 else 1

/-- The count is the number of holders, and the context lives as long as one is
left. -/
structure Balanced (holders : ContextHolders) : Prop where
  count : holders.context.refCount = holders.liveReferences
  destroyed : holders.context.destroyed = true ↔ holders.liveReferences = 0

theorem balanced_init : Balanced {} := ⟨rfl, by decide⟩

/-- While the body of the destructor has not released the context, it is alive. -/
def BodyAhead (holders : ContextHolders) : Prop :=
  holders.stage = .notStarted ∨ holders.stage = .controllerReset

theorem BodyAhead.liveReferences {holders : ContextHolders} (hahead : BodyAhead holders) :
    holders.liveReferences = holders.outside + 1 := by
  rcases hahead with hstage | hstage <;> simp [ContextHolders.liveReferences, hstage]

theorem Balanced.alive {holders : ContextHolders} (hbalanced : Balanced holders)
    (hahead : BodyAhead holders) :
    holders.context = { refCount := holders.outside + 1, destroyed := false } := by
  have hlive := hahead.liveReferences
  have hcount : holders.context.refCount = holders.outside + 1 := hbalanced.count.trans hlive
  have hdestroyed : holders.context.destroyed = false := by
    by_contra hfreed
    have hnone := hbalanced.destroyed.mp (by simpa using hfreed)
    omega
  rw [← hcount, ← hdestroyed]

/-- Every step but the release in the body keeps the balance and does not fault. -/
theorem holderStep_balanced {holders : ContextHolders} {event : HolderEvent}
    {outcome : Except ContextFault ContextHolders} (hevent : event ≠ .releaseInBody)
    (hbalanced : Balanced holders) (hahead : BodyAhead holders)
    (hstep : holderStep holders event = some outcome) :
    ∃ next, outcome = .ok next ∧ Balanced next ∧ BodyAhead next := by
  have hcontext := hbalanced.alive hahead
  cases event with
  | getContext =>
      simp only [holderStep, Option.ite_none_right_eq_some, hcontext,
        ConnectionContext.addRef] at hstep
      obtain ⟨hstage, hstep⟩ := hstep
      obtain rfl := Option.some.inj hstep
      refine ⟨_, rfl, ⟨?_, ?_⟩, Or.inl hstage⟩ <;>
        simp [ContextHolders.liveReferences, hstage]
  | drop =>
      simp only [holderStep, Option.ite_none_left_eq_some, hcontext,
        ConnectionContext.release] at hstep
      obtain ⟨houtside, hstep⟩ := hstep
      obtain rfl := Option.some.inj hstep
      have hkept : BodyAhead { holders with
          context := ⟨holders.outside + 1 - 1, decide (holders.outside + 1 ≤ 1)⟩
          outside := holders.outside - 1 } := hahead
      refine ⟨_, rfl, ⟨?_, ?_⟩, hkept⟩
      · rw [hkept.liveReferences]
        simp only
        omega
      · rw [hkept.liveReferences]
        simp only [decide_eq_true_eq]
        omega
  | resetController =>
      simp only [holderStep, Option.ite_none_right_eq_some, hcontext,
        ConnectionContext.use] at hstep
      obtain ⟨_, hstep⟩ := hstep
      obtain rfl := Option.some.inj hstep
      refine ⟨_, rfl, ⟨?_, ?_⟩, Or.inr rfl⟩ <;> simp [ContextHolders.liveReferences]
  | releaseInBody => exact absurd rfl hevent
  | destroyMembers =>
      simp only [holderStep, Option.ite_none_right_eq_some] at hstep
      rcases hahead with hstage | hstage <;> simp [hstage] at hstep
  | releaseMember =>
      simp only [holderStep, Option.ite_none_right_eq_some] at hstep
      rcases hahead with hstage | hstage <;> simp [hstage] at hstep

/-- The release in the body takes the connection's reference away while the member
still counts as a holder. -/
theorem holderStep_releaseInBody {holders : ContextHolders}
    {outcome : Except ContextFault ContextHolders} (hbalanced : Balanced holders)
    (hstep : holderStep holders .releaseInBody = some outcome) :
    ∃ next, outcome = .ok next ∧ next.context.refCount + 1 = next.liveReferences := by
  simp only [holderStep, Option.ite_none_right_eq_some] at hstep
  obtain ⟨hstage, hstep⟩ := hstep
  rw [hbalanced.alive (Or.inr hstage)] at hstep
  obtain rfl := Option.some.inj hstep
  exact ⟨_, rfl, by simp [ContextHolders.liveReferences]⟩

/-- No fault, and the balance in every state on the way. -/
def RunBalanced (events : List HolderEvent) (outcome : Except ContextFault ContextHolders) :
    Prop :=
  (∀ reason, outcome ≠ .error reason) ∧
    ∀ before after middle, events = before ++ after →
      run holderStep {} before = some (.ok middle) → Balanced middle

/-- Before the body of the destructor releases the context, all is balanced. -/
theorem balanced_of_run {events : List HolderEvent}
    {outcome : Except ContextFault ContextHolders} (hevents : .releaseInBody ∉ events)
    (hrun : run holderStep {} events = some outcome) :
    ∃ final, outcome = .ok final ∧ Balanced final ∧ BodyAhead final := by
  have hguarded : Guarded holderStep (fun _ event => event ≠ .releaseInBody) {} events := by
    apply guarded_of_forall
    rintro event hmem _ rfl
    exact hevents hmem
  have hends : Ends (fun holders => Balanced holders ∧ BodyAhead holders)
      (fun _ : ContextFault => False) outcome := by
    refine guarded_run_induction _ ?_ ?_ ⟨balanced_init, Or.inl rfl⟩ hguarded hrun
    · intro holders event next hinv hevent hstep
      obtain ⟨_, hnext, hkept⟩ := holderStep_balanced hevent hinv.1 hinv.2 hstep
      exact (Except.ok.inj hnext) ▸ hkept
    · intro holders event reason hinv hevent hstep
      obtain ⟨_, hnext, _⟩ := holderStep_balanced hevent hinv.1 hinv.2 hstep
      exact absurd hnext (by simp)
  cases outcome with
  | error reason => exact hends.elim
  | ok final => exact ⟨final, rfl, hends⟩

/-- The count is right throughout a run exactly when the run does not reach the
release in the body of the destructor. -/
theorem contextBalanced_iff {events : List HolderEvent}
    {outcome : Except ContextFault ContextHolders}
    (hrun : run holderStep {} events = some outcome) :
    RunBalanced events outcome ↔ .releaseInBody ∉ events := by
  constructor
  · rintro ⟨hnofault, hbalanced⟩ hmem
    obtain ⟨before, after, rfl⟩ := List.append_of_mem hmem
    obtain ⟨middle, hbefore, hrest⟩ := exists_middle_of_run_append (by simp) hrun
    have hmiddle := hbalanced before _ middle rfl hbefore
    rcases run_cons_cases hrest with ⟨next, hstep, _⟩ | ⟨reason, _, _, rfl⟩
    · obtain ⟨_, hnext, hcount⟩ := holderStep_releaseInBody hmiddle hstep
      obtain rfl := Except.ok.inj hnext
      have hstart : run holderStep {} (before ++ [.releaseInBody]) = some (.ok next) := by
        rw [run_append hbefore, run_cons_of_ok hstep, run_nil]
      have hafter := (hbalanced (before ++ [.releaseInBody]) after next (by simp) hstart).count
      omega
    · exact hnofault reason rfl
  · intro hevents
    constructor
    · rintro reason rfl
      obtain ⟨_, hout, _⟩ := balanced_of_run hevents hrun
      exact absurd hout (by simp)
    · rintro before after middle rfl hbefore
      have hmem : HolderEvent.releaseInBody ∉ before :=
        fun hmem => hevents (List.mem_append_left _ hmem)
      obtain ⟨_, hout, hfinal, _⟩ := balanced_of_run hmem hbefore
      exact (Except.ok.inj hout) ▸ hfinal

theorem contextBalanced_undestroyed :
    RunBalanced [.getContext, .getContext, .drop, .resetController]
        (.ok { context := ⟨2, false⟩, stage := .controllerReset, outside := 1 }) ↔
      .releaseInBody ∉ [HolderEvent.getContext, .getContext, .drop, .resetController] :=
  contextBalanced_iff rfl

/-- Without other holders the context is destroyed by the body and released again
by the member. -/
theorem contextReleasedTwice :
    ∃ events outcome, .releaseMember ∈ events ∧ run holderStep {} events = some outcome ∧
      ¬ RunBalanced events outcome :=
  ⟨[.resetController, .releaseInBody, .destroyMembers, .releaseMember], .error .usedAfterFree,
    by decide, by decide, fun hbalanced => hbalanced.1 _ rfl⟩

end PeerConnection.Connection
