import PeerConnection.Connection.ContextOwnership
import PeerConnection.Transport.Controller

/-!
# Tasks that outlive the connection

Three tasks capture the connection: the constructor's and `create_offer`'s on the
network thread, and the one that `OnRtcpPacketReceived_n` posts to the signaling
thread.  The destructor waits for the network thread once and never for the
signaling thread, and both threads live as long as the context has holders.
-/

namespace PeerConnection.Connection

open PeerConnection.Runs
open PeerConnection.Transport

/-! ## Queues and the destructor -/

/-- The tasks on the network thread that capture `this`.  The last is the one for
which the destructor's `Invoke` waits. -/
inductive CapturingTask where
  | constructor
  | offer
  | resetController
  deriving DecidableEq, Repr

structure TearDown where
  holders : ContextHolders := {}
  /-- `transport_controller_` exists and its signals are connected. -/
  transportController : Bool := false
  /-- `rtp_rtcp_impl_` exists. -/
  rtpRtcpImpl : Bool := false
  networkQueue : List CapturingTask := [.constructor]
  /-- The number of `IncomingRtcpPacket` tasks on the signaling thread. -/
  signalingQueue : ℕ := 0
  deriving DecidableEq, Repr

inductive TearDownEvent where
  | createOffer
  | rtcpPacket
  | serveNetwork
  | serveSignaling
  /-- The destructor is called and reaches its `Invoke`. -/
  | startDestructor (caller : Caller)
  | holder (event : HolderEvent)
  deriving DecidableEq, Repr

inductive TearDownFault where
  /-- A task runs on a connection whose members are destroyed. -/
  | danglingThis
  | context (reason : ContextFault)
  deriving DecidableEq, Repr

def DestructorStage.MembersGone (stage : DestructorStage) : Prop :=
  stage = .membersDestroyed ∨ stage = .contextReleased

instance : DecidablePred DestructorStage.MembersGone := fun stage =>
  inferInstanceAs (Decidable (stage = .membersDestroyed ∨ stage = .contextReleased))

namespace TearDown

/-- A step of the holders, with what else changes when it succeeds. -/
def withHolders (state : TearDown) (event : HolderEvent) (change : TearDown → TearDown) :
    Option (Except TearDownFault TearDown) :=
  (holderStep state.holders event).map fun result =>
    match result with
    | .ok holders => .ok (change { state with holders := holders })
    | .error reason => .error (.context reason)

/-- `transport_controller_.reset(nullptr)` in the destructor. -/
def resetController (state : TearDown) : Option (Except TearDownFault TearDown) :=
  state.withHolders .resetController fun left => { left with transportController := false }

/-- A task on the network thread, with the connection still there. -/
def runTask (state : TearDown) : CapturingTask → Option (Except TearDownFault TearDown)
  | .constructor => some (.ok { state with transportController := true })
  | .offer => some (.ok { state with rtpRtcpImpl := true })
  | .resetController => state.resetController

end TearDown

/-- The threads serve their queues until the context is destroyed.  RTCP packets come
through the controller, on the network thread. -/
def tearDownStep : System TearDown TearDownEvent TearDownFault :=
  fun state event =>
    match event with
    | .createOffer =>
        if state.holders.stage.MembersGone then none
        else some (.ok { state with networkQueue := state.networkQueue ++ [.offer] })
    | .rtcpPacket =>
        if state.transportController ∧ state.holders.context.destroyed = false then
          if state.rtpRtcpImpl then
            some (.ok { state with signalingQueue := state.signalingQueue + 1 })
          else some (.ok state)
        else none
    | .serveNetwork =>
        if state.holders.context.destroyed then none
        else
          match state.networkQueue with
          | [] => none
          | task :: tasks =>
              if state.holders.stage.MembersGone then some (.error .danglingThis)
              else { state with networkQueue := tasks }.runTask task
    | .serveSignaling =>
        if state.holders.context.destroyed ∨ state.signalingQueue = 0 then none
        else if state.holders.stage.MembersGone then some (.error .danglingThis)
        else some (.ok { state with signalingQueue := state.signalingQueue - 1 })
    | .startDestructor .networkThread =>
        if .resetController ∈ state.networkQueue then none else state.resetController
    | .startDestructor .otherThread =>
        if state.holders.stage = .notStarted ∧ .resetController ∉ state.networkQueue then
          some (.ok { state with networkQueue := state.networkQueue ++ [.resetController] })
        else none
    | .holder .resetController => none
    | .holder .destroyMembers =>
        state.withHolders .destroyMembers fun left =>
          { left with transportController := false, rtpRtcpImpl := false }
    | .holder event => state.withHolders event id

/-! ## When nothing is left to run -/

/-- No task that captures the connection can still run. -/
def TearDown.Settled (state : TearDown) : Prop :=
  state.holders.context.destroyed = true ∨
    (state.networkQueue = [] ∧ state.signalingQueue = 0)

instance : DecidablePred TearDown.Settled := fun state =>
  inferInstanceAs (Decidable (state.holders.context.destroyed = true ∨
    (state.networkQueue = [] ∧ state.signalingQueue = 0)))

/-- The members are destroyed only when nothing is left to run. -/
def SettledAtDestruction (state : TearDown) (event : TearDownEvent) : Prop :=
  event = .holder .destroyMembers → state.Settled

/-- Once the members are gone no packet comes in and no task is left. -/
def Finished (state : TearDown) : Prop :=
  state.holders.stage.MembersGone → state.transportController = false ∧ state.Settled

/-- The holders never revive the context, and only the step that says so destroys
the members. -/
theorem holderStep_kept {holders next : ContextHolders} {event : HolderEvent}
    (hstep : holderStep holders event = some (.ok next)) :
    (holders.context.destroyed = true → next.context.destroyed = true) ∧
      (next.stage.MembersGone → holders.stage.MembersGone ∨ event = .destroyMembers) := by
  have hrelease : ∀ {change : ConnectionContext → ContextHolders},
      holders.context.release.map change = .ok next →
        ¬ holders.context.destroyed = true ∧ ∃ context, next = change context := by
    intro change hmap
    obtain ⟨context, hcontext, rfl⟩ := except_map_eq_ok_iff.mp hmap
    rw [ConnectionContext.release] at hcontext
    split_ifs at hcontext with hdestroyed
    exact ⟨hdestroyed, context, rfl⟩
  cases event with
  | getContext =>
      simp only [holderStep, Option.ite_none_right_eq_some] at hstep
      obtain ⟨hstage, hstep⟩ := hstep
      obtain ⟨context, hcontext, rfl⟩ := except_map_eq_ok_iff.mp (Option.some.inj hstep)
      rw [ConnectionContext.addRef] at hcontext
      split_ifs at hcontext with hdestroyed
      exact ⟨fun hfreed => absurd hfreed hdestroyed, Or.inl⟩
  | drop =>
      simp only [holderStep, Option.ite_none_left_eq_some] at hstep
      obtain ⟨hdestroyed, context, rfl⟩ := hrelease (Option.some.inj hstep.2)
      exact ⟨fun hfreed => absurd hfreed hdestroyed, Or.inl⟩
  | resetController =>
      simp only [holderStep, Option.ite_none_right_eq_some] at hstep
      obtain ⟨hstage, hstep⟩ := hstep
      obtain ⟨context, hcontext, rfl⟩ := except_map_eq_ok_iff.mp (Option.some.inj hstep)
      rw [ConnectionContext.use] at hcontext
      split_ifs at hcontext with hdestroyed
      refine ⟨fun hfreed => absurd hfreed hdestroyed, fun hgone => ?_⟩
      simp [DestructorStage.MembersGone] at hgone
  | releaseInBody =>
      simp only [holderStep, Option.ite_none_right_eq_some] at hstep
      obtain ⟨hdestroyed, context, rfl⟩ := hrelease (Option.some.inj hstep.2)
      refine ⟨fun hfreed => absurd hfreed hdestroyed, fun hgone => ?_⟩
      simp [DestructorStage.MembersGone] at hgone
  | destroyMembers =>
      simp only [holderStep, Option.ite_none_right_eq_some] at hstep
      obtain ⟨_, hstep⟩ := hstep
      obtain rfl := Except.ok.inj (Option.some.inj hstep)
      exact ⟨id, fun _ => Or.inr rfl⟩
  | releaseMember =>
      simp only [holderStep, Option.ite_none_right_eq_some] at hstep
      obtain ⟨hstage, hstep⟩ := hstep
      obtain ⟨hdestroyed, context, rfl⟩ := hrelease (Option.some.inj hstep)
      exact ⟨fun hfreed => absurd hfreed hdestroyed, fun _ => Or.inl (Or.inl hstage)⟩

theorem stage_kept {holders next : ContextHolders} {event : HolderEvent}
    (hgone : holders.stage.MembersGone) (hstep : holderStep holders event = some (.ok next)) :
    next.stage.MembersGone := by
  have hstage : ∀ stage, ¬ stage.MembersGone → holders.stage ≠ stage := by
    rintro stage hnot rfl
    exact hnot hgone
  cases event with
  | getContext => simp [holderStep, hstage .notStarted (by decide)] at hstep
  | drop =>
      simp only [holderStep, Option.ite_none_left_eq_some] at hstep
      obtain ⟨context, _, rfl⟩ := except_map_eq_ok_iff.mp (Option.some.inj hstep.2)
      exact hgone
  | resetController => simp [holderStep, hstage .notStarted (by decide)] at hstep
  | releaseInBody => simp [holderStep, hstage .controllerReset (by decide)] at hstep
  | destroyMembers => simp [holderStep, hstage .bodyDone (by decide)] at hstep
  | releaseMember =>
      simp only [holderStep, Option.ite_none_right_eq_some] at hstep
      obtain ⟨context, _, rfl⟩ := except_map_eq_ok_iff.mp (Option.some.inj hstep.2)
      exact Or.inr rfl

theorem withHolders_eq_ok_iff {state next : TearDown} {event : HolderEvent}
    {change : TearDown → TearDown} :
    state.withHolders event change = some (.ok next) ↔
      ∃ holders, holderStep state.holders event = some (.ok holders) ∧
        next = change { state with holders := holders } := by
  rw [TearDown.withHolders]
  rcases holderStep state.holders event with _ | ⟨reason⟩ | ⟨holders⟩
  · simp
  · simp
  · simp [eq_comm]

theorem withHolders_ne_dangling {state : TearDown} {event : HolderEvent}
    {change : TearDown → TearDown} :
    state.withHolders event change ≠ some (.error .danglingThis) := by
  rw [TearDown.withHolders]
  rcases holderStep state.holders event with _ | ⟨reason⟩ | ⟨holders⟩ <;> simp

/-- A step of the holders that leaves the queues and the controller alone. -/
theorem Finished.withHolders {state next : TearDown} {event : HolderEvent}
    (hfinished : Finished state) (hevent : event ≠ .destroyMembers)
    (hstep : state.withHolders event id = some (.ok next)) : Finished next := by
  rw [withHolders_eq_ok_iff] at hstep
  obtain ⟨holders, hholders, rfl⟩ := hstep
  obtain ⟨hfreed, hstage⟩ := holderStep_kept hholders
  intro hgone
  rcases hstage hgone with hbefore | hdestroy
  · obtain ⟨hcontroller, hsettled⟩ := hfinished hbefore
    exact ⟨hcontroller, hsettled.imp_left hfreed⟩
  · exact absurd hdestroy hevent

/-- The reset of the controller comes before the members are destroyed. -/
theorem finished_of_resetController {state next : TearDown}
    (hstep : state.resetController = some (.ok next)) : Finished next := by
  rw [TearDown.resetController, withHolders_eq_ok_iff] at hstep
  obtain ⟨holders, hholders, rfl⟩ := hstep
  simp only [holderStep, Option.ite_none_right_eq_some] at hholders
  obtain ⟨context, _, rfl⟩ := except_map_eq_ok_iff.mp (Option.some.inj hholders.2)
  intro hgone
  simp [DestructorStage.MembersGone] at hgone

theorem Finished.of_notGone {state : TearDown} (hstage : ¬ state.holders.stage.MembersGone) :
    Finished state :=
  fun hgone => absurd hgone hstage

theorem Finished.runTask {state next : TearDown} {task : CapturingTask}
    (hstage : ¬ state.holders.stage.MembersGone)
    (hstep : state.runTask task = some (.ok next)) : Finished next := by
  cases task with
  | constructor =>
      obtain rfl := Except.ok.inj (Option.some.inj hstep)
      exact .of_notGone hstage
  | offer =>
      obtain rfl := Except.ok.inj (Option.some.inj hstep)
      exact .of_notGone hstage
  | resetController => exact finished_of_resetController hstep

theorem Finished.step {state next : TearDown} {event : TearDownEvent}
    (hfinished : Finished state) (hsettled : SettledAtDestruction state event)
    (hstep : tearDownStep state event = some (.ok next)) : Finished next := by
  cases event with
  | createOffer =>
      simp only [tearDownStep, Option.ite_none_left_eq_some] at hstep
      obtain ⟨hstage, hstep⟩ := hstep
      obtain rfl := Except.ok.inj (Option.some.inj hstep)
      exact .of_notGone hstage
  | rtcpPacket =>
      simp only [tearDownStep, Option.ite_none_right_eq_some] at hstep
      obtain ⟨⟨hcontroller, _⟩, hstep⟩ := hstep
      have hstage : ¬ state.holders.stage.MembersGone := fun hgone => by
        rw [(hfinished hgone).1] at hcontroller
        exact absurd hcontroller (by decide)
      split_ifs at hstep <;> obtain rfl := Except.ok.inj (Option.some.inj hstep) <;>
        exact .of_notGone hstage
  | serveNetwork =>
      simp only [tearDownStep, Option.ite_none_left_eq_some] at hstep
      obtain ⟨_, hstep⟩ := hstep
      split at hstep
      · simp at hstep
      · split_ifs at hstep with hstage
        · simp at hstep
        · rename_i task tasks _
          have hleft : ¬ { state with networkQueue := tasks }.holders.stage.MembersGone := hstage
          exact .runTask hleft hstep
  | serveSignaling =>
      simp only [tearDownStep, Option.ite_none_left_eq_some] at hstep
      obtain ⟨_, hstep⟩ := hstep
      split_ifs at hstep with hstage
      · simp at hstep
      · obtain rfl := Except.ok.inj (Option.some.inj hstep)
        exact .of_notGone hstage
  | startDestructor caller =>
      cases caller with
      | networkThread =>
          simp only [tearDownStep, Option.ite_none_left_eq_some] at hstep
          exact finished_of_resetController hstep.2
      | otherThread =>
          simp only [tearDownStep, Option.ite_none_right_eq_some] at hstep
          obtain ⟨⟨hstage, _⟩, hstep⟩ := hstep
          obtain rfl := Except.ok.inj (Option.some.inj hstep)
          exact .of_notGone (by simp [DestructorStage.MembersGone, hstage])
  | holder event =>
      cases event with
      | getContext => exact hfinished.withHolders (by decide) hstep
      | drop => exact hfinished.withHolders (by decide) hstep
      | resetController => simp [tearDownStep] at hstep
      | releaseInBody => exact hfinished.withHolders (by decide) hstep
      | destroyMembers =>
          simp only [tearDownStep, withHolders_eq_ok_iff] at hstep
          obtain ⟨holders, hholders, rfl⟩ := hstep
          exact fun _ => ⟨rfl, (hsettled rfl).imp_left (holderStep_kept hholders).1⟩
      | releaseMember => exact hfinished.withHolders (by decide) hstep

theorem runTask_ne_dangling {state : TearDown} {task : CapturingTask} :
    state.runTask task ≠ some (.error .danglingThis) := by
  cases task with
  | constructor => simp [TearDown.runTask]
  | offer => simp [TearDown.runTask]
  | resetController =>
      rw [TearDown.runTask, TearDown.resetController]
      exact withHolders_ne_dangling

theorem Finished.no_dangling {state : TearDown} {event : TearDownEvent}
    (hfinished : Finished state) :
    tearDownStep state event ≠ some (.error .danglingThis) := by
  intro hstep
  cases event with
  | createOffer => simp [tearDownStep] at hstep
  | rtcpPacket =>
      simp only [tearDownStep, Option.ite_none_right_eq_some] at hstep
      obtain ⟨_, hstep⟩ := hstep
      split_ifs at hstep <;> simp at hstep
  | serveNetwork =>
      simp only [tearDownStep, Option.ite_none_left_eq_some] at hstep
      obtain ⟨hlive, hstep⟩ := hstep
      split at hstep
      · simp at hstep
      · rename_i task tasks hqueue
        split_ifs at hstep with hstage
        · rcases (hfinished hstage).2 with hfreed | ⟨hempty, _⟩
          · exact hlive hfreed
          · simp [hqueue] at hempty
        · exact runTask_ne_dangling hstep
  | serveSignaling =>
      simp only [tearDownStep, Option.ite_none_left_eq_some] at hstep
      obtain ⟨hlive, hstep⟩ := hstep
      split_ifs at hstep with hstage
      · rcases (hfinished hstage).2 with hfreed | ⟨_, hempty⟩
        · exact hlive (Or.inl hfreed)
        · exact hlive (Or.inr hempty)
      · simp at hstep
  | startDestructor caller =>
      cases caller with
      | networkThread =>
          simp only [tearDownStep, Option.ite_none_left_eq_some] at hstep
          exact withHolders_ne_dangling hstep.2
      | otherThread => simp [tearDownStep] at hstep
  | holder event =>
      cases event with
      | resetController => simp [tearDownStep] at hstep
      | _ =>
          simp only [tearDownStep] at hstep
          exact withHolders_ne_dangling hstep

/-- What is left in a queue of a living context when the members go can run. -/
theorem dangling_of_unsettled {state : TearDown} (hstage : state.holders.stage = .bodyDone)
    (hsettled : ¬ state.Settled) :
    ∃ event, run tearDownStep state [.holder .destroyMembers, event] =
      some (.error .danglingThis) := by
  obtain ⟨hlive, hqueues⟩ := not_or.mp hsettled
  have hdestroy : tearDownStep state (.holder .destroyMembers) = some (.ok
      { state with
        holders := { state.holders with stage := .membersDestroyed }
        transportController := false
        rtpRtcpImpl := false }) := by
    simp [tearDownStep, TearDown.withHolders, holderStep, hstage]
  rcases hnetwork : state.networkQueue with _ | ⟨task, tasks⟩
  · have hsignaling : state.signalingQueue ≠ 0 := fun hempty => hqueues ⟨hnetwork, hempty⟩
    refine ⟨.serveSignaling, ?_⟩
    rw [run_cons_of_ok hdestroy]
    simp [run, tearDownStep, hlive, hsignaling, DestructorStage.MembersGone]
  · refine ⟨.serveNetwork, ?_⟩
    rw [run_cons_of_ok hdestroy]
    simp [run, tearDownStep, hlive, hnetwork, DestructorStage.MembersGone]

/-- Destroyed members stay destroyed. -/
theorem membersGone_kept {state next : TearDown} {event : TearDownEvent}
    (hgone : state.holders.stage.MembersGone)
    (hstep : tearDownStep state event = some (.ok next)) : next.holders.stage.MembersGone := by
  have hholders : ∀ {event : HolderEvent} {change : TearDown → TearDown},
      state.withHolders event change = some (.ok next) →
      (∀ left, (change left).holders = left.holders) → next.holders.stage.MembersGone := by
    intro event change hwith hchange
    rw [withHolders_eq_ok_iff] at hwith
    obtain ⟨holders, hholders, rfl⟩ := hwith
    rw [hchange]
    exact stage_kept hgone hholders
  cases event with
  | createOffer => simp [tearDownStep, hgone] at hstep
  | rtcpPacket =>
      simp only [tearDownStep, Option.ite_none_right_eq_some] at hstep
      obtain ⟨_, hstep⟩ := hstep
      split_ifs at hstep <;> obtain rfl := Except.ok.inj (Option.some.inj hstep) <;>
        exact hgone
  | serveNetwork =>
      simp only [tearDownStep, Option.ite_none_left_eq_some, if_pos hgone] at hstep
      obtain ⟨_, hstep⟩ := hstep
      split at hstep <;> simp at hstep
  | serveSignaling => simp [tearDownStep, hgone] at hstep
  | startDestructor caller =>
      cases caller with
      | networkThread =>
          simp only [tearDownStep, Option.ite_none_left_eq_some] at hstep
          exact hholders hstep.2 fun _ => rfl
      | otherThread =>
          simp only [tearDownStep, Option.ite_none_right_eq_some] at hstep
          obtain ⟨_, hstep⟩ := hstep
          obtain rfl := Except.ok.inj (Option.some.inj hstep)
          exact hgone
  | holder event =>
      cases event with
      | resetController => simp [tearDownStep] at hstep
      | _ =>
          simp only [tearDownStep] at hstep
          exact hholders hstep fun _ => rfl

/-- When the members have gone with nothing left to run, nothing runs afterwards. -/
theorem no_dangling_of_gone {state : TearDown} (hgone : state.holders.stage.MembersGone)
    (hfinished : Finished state) {events : List TearDownEvent}
    {outcome : Except TearDownFault TearDown}
    (hrun : run tearDownStep state events = some outcome) : outcome ≠ .error .danglingThis := by
  have hends : Ends (fun final => final.holders.stage.MembersGone ∧ Finished final)
      (· ≠ TearDownFault.danglingThis) outcome := by
    refine guarded_run_induction _ ?_ ?_ ⟨hgone, hfinished⟩
      (guarded_of_forall (fun _ _ _ => trivial) state) hrun
    · intro before event next hinv _ hstep
      exact ⟨membersGone_kept hinv.1 hstep, hinv.2.step (fun _ => (hinv.2 hinv.1).2) hstep⟩
    · rintro before event _ hinv _ hstep rfl
      exact hinv.2.no_dangling hstep
  rintro rfl
  exact hends rfl

/-- No task runs on destroyed members in a run that destroys them only when nothing
is left to run.  In any other case one can run. -/
theorem tearDown_safe (events : List TearDownEvent) :
    (∀ outcome, Guarded tearDownStep SettledAtDestruction {} events →
      run tearDownStep {} events = some outcome → outcome ≠ .error .danglingThis) ∧
    ∀ state, run tearDownStep {} events = some (.ok state) →
      state.holders.stage = .bodyDone →
        ((∀ after outcome, run tearDownStep state (.holder .destroyMembers :: after) =
            some outcome → outcome ≠ .error .danglingThis) ↔ state.Settled) := by
  constructor
  · intro outcome hguarded hrun
    have hends : Ends Finished (· ≠ TearDownFault.danglingThis) outcome := by
      refine guarded_run_induction _ ?_ ?_ ?_ hguarded hrun
      · exact fun _ _ _ => Finished.step
      · rintro before event _ hfinished _ hstep rfl
        exact hfinished.no_dangling hstep
      · exact .of_notGone (by decide)
    rintro rfl
    exact hends rfl
  · intro state _ hstage
    constructor
    · intro hsafe
      by_contra hsettled
      obtain ⟨event, hdangling⟩ := dangling_of_unsettled hstage hsettled
      exact hsafe [event] _ hdangling rfl
    · intro hsettled after outcome hrun
      have hfinished : Finished state :=
        .of_notGone (by simp [DestructorStage.MembersGone, hstage])
      rcases run_cons_cases hrun with ⟨next, hstep, hrest⟩ | ⟨reason, hstep, _, rfl⟩
      · refine no_dangling_of_gone ?_ (hfinished.step (fun _ => hsettled) hstep) hrest
        simp only [tearDownStep, withHolders_eq_ok_iff] at hstep
        obtain ⟨holders, hholders, rfl⟩ := hstep
        simp only [holderStep, hstage, if_true] at hholders
        obtain rfl := Except.ok.inj (Option.some.inj hholders)
        exact Or.inl rfl
      · rintro hreason
        obtain rfl := Except.error.inj hreason
        exact hfinished.no_dangling hstep

instance (state : TearDown) (event : TearDownEvent) :
    Decidable (SettledAtDestruction state event) :=
  inferInstanceAs (Decidable (event = .holder .destroyMembers → state.Settled))

/-- The packet's task runs before the destructor is called. -/
def patientTearDown : List TearDownEvent :=
  [.holder .getContext, .holder .getContext, .serveNetwork, .createOffer, .serveNetwork,
    .rtcpPacket, .serveSignaling, .startDestructor .otherThread, .serveNetwork,
    .holder .releaseInBody, .holder .destroyMembers, .holder .releaseMember]

theorem tearDown_safe_patient :
    Guarded tearDownStep SettledAtDestruction {} patientTearDown ∧
      ∃ outcome, run tearDownStep {} patientTearDown = some outcome ∧
        outcome ≠ .error .danglingThis := by
  have hguarded : Guarded tearDownStep SettledAtDestruction {} patientTearDown := by decide
  exact ⟨hguarded, _, rfl, (tearDown_safe _).1 _ hguarded rfl⟩

/-- Two outside holders keep the threads alive, and the destructor does not wait for
the packet's task on the signaling thread. -/
theorem danglingPacketTask :
    ∃ events, run tearDownStep {} events = some (.error .danglingThis) :=
  ⟨[.holder .getContext, .holder .getContext, .serveNetwork, .createOffer, .serveNetwork,
      .rtcpPacket, .startDestructor .otherThread, .serveNetwork, .holder .releaseInBody,
      .holder .destroyMembers, .serveSignaling], by decide⟩

end PeerConnection.Connection
