import PeerConnection.Connection.Naming

/-!
# The members that posted tasks create

The constructor posts the task that makes `transport_controller_`, and every
`create_offer` posts one that makes `transport_send_`.  The calls use both members
from their own threads.  A call is the list of its uses, and the calls and the
network thread take turns one use or one task at a time.
-/

namespace PeerConnection.Connection

open PeerConnection.Text
open PeerConnection.Sdp
open PeerConnection.Runs
open PeerConnection.Transport

/-! ## What the calls do with the members -/

/-- The members that are null until a task has run. -/
inductive Member where
  | transportController
  | transportSend
  deriving DecidableEq, Repr

/-- One step of a call. -/
inductive Action where
  /-- The member is dereferenced. -/
  | use (member : Member)
  /-- The task of `create_offer` is posted. -/
  | postOffer
  /-- The call faults on something else. -/
  | fault (reason : Fault)

/-- `libice::IceTransportState`. -/
inductive IceTransportState where
  | init
  | connecting
  | completed
  | failed
  deriving DecidableEq, Repr

/-- `create_offer` hands a certificate to the controller, builds the description,
posts its task and passes the description on. -/
def createOfferActions (api : TransportApi) (options : RTCOfferAnswerOptions)
    (streamId : Bytes) (source : OfferSource) : List Action :=
  (if source.certificate.isSome then [.use .transportController] else []) ++
    match localDesc api options streamId source with
    | .error reason => [.fault reason]
    | .ok _ => [.postOffer, .use .transportController]

/-- `set_remote_sdp` reads the text, and then calls the controller with the
description and with each candidate. -/
def setRemoteSdpActions (api : TransportApi) (connection : P2pPeerConnection)
    (sdp : Bytes) : List Action :=
  match connection.readSdp api sdp with
  | .next (_, state) =>
      .use .transportController :: state.allCandidate.map fun _ => .use .transportController
  | .stop _ => []
  | .fault reason => [.fault reason]

/-- `AddPacketToTransportFeedback` calls `OnAddPacket`. -/
def addPacketToTransportFeedbackActions : List Action := [.use .transportSend]

/-- `SendVideoEncode` registers each packet and hands them all to the pacer. -/
def sendVideoEncodeActions (packets : ℕ) : List Action :=
  (List.replicate packets addPacketToTransportFeedbackActions).flatten ++ [.use .transportSend]

def generatePaddingActions : List Action := addPacketToTransportFeedbackActions

/-- `IceTransportStateChanged_n` reports the two final states. -/
def iceTransportStateChangedActions : IceTransportState → List Action
  | .completed => [.use .transportSend]
  | .failed => [.use .transportSend]
  | .init => []
  | .connecting => []

inductive Call where
  | createOffer (options : RTCOfferAnswerOptions) (streamId : Bytes) (source : OfferSource)
  /-- The connection is what the call finds in the other members. -/
  | setRemoteSdp (connection : P2pPeerConnection) (sdp : Bytes)
  | sendVideoEncode (packets : ℕ)
  | generatePadding
  | iceTransportStateChanged (state : IceTransportState)

def Call.actions (api : TransportApi) : Call → List Action
  | .createOffer options streamId source => createOfferActions api options streamId source
  | .setRemoteSdp connection sdp => setRemoteSdpActions api connection sdp
  | .sendVideoEncode packets => sendVideoEncodeActions packets
  | .generatePadding => generatePaddingActions
  | .iceTransportStateChanged state => iceTransportStateChangedActions state

/-! ## Runs -/

/-- The tasks that create a member. -/
inductive CreationTask where
  | constructor
  | offer
  deriving DecidableEq, Repr

/-- The thread of a new context is never the one that constructs the connection, so
that the constructor always posts its task. -/
structure StartUp where
  transportController : Bool := false
  transportSend : Bool := false
  networkQueue : List CreationTask := [.constructor]
  /-- What the calls under way have still to do. -/
  calls : List (List Action) := []

namespace StartUp

def created (state : StartUp) : Member → Bool
  | .transportController => state.transportController
  | .transportSend => state.transportSend

def runTask (state : StartUp) : CreationTask → StartUp
  | .constructor => { state with transportController := true }
  | .offer => { state with transportSend := true }

/-- What call number `index` does next. -/
def nextAction (state : StartUp) (index : ℕ) : Option Action :=
  state.calls[index]?.bind List.head?

def dropAction (state : StartUp) (index : ℕ) : StartUp :=
  { state with calls := state.calls.modify index List.tail }

end StartUp

inductive StartUpEvent where
  | call (call : Call)
  | advance (index : ℕ)
  | serve

def StartUpEvent.isServe : StartUpEvent → Bool
  | .serve => true
  | _ => false

inductive StartUpFault where
  | null (member : Member)
  | elsewhere (reason : Fault)
  deriving DecidableEq

def startUpStep (api : TransportApi) : System StartUp StartUpEvent StartUpFault :=
  fun state event =>
    match event with
    | .call call => some (.ok { state with calls := state.calls ++ [call.actions api] })
    | .advance index =>
        match state.nextAction index with
        | none => none
        | some (.use member) =>
            if state.created member then some (.ok (state.dropAction index))
            else some (.error (.null member))
        | some .postOffer =>
            some (.ok { state.dropAction index with
              networkQueue := state.networkQueue ++ [.offer] })
        | some (.fault reason) => some (.error (.elsewhere reason))
    | .serve =>
        match state.networkQueue with
        | [] => none
        | task :: tasks => some (.ok ({ state with networkQueue := tasks }.runTask task))

/-! ## What the tasks have created -/

/-- How many tasks have to be served before the member is there. -/
def Member.tasksNeeded : Member → ℕ
  | .transportController => 1
  | .transportSend => 2

/-- The tasks posted so far. -/
def postedTasks (offers : ℕ) : List CreationTask :=
  .constructor :: List.replicate offers .offer

/-- This many of the tasks posted so far have been served, in their order. -/
structure Progress (served : ℕ) (state : StartUp) : Prop where
  created : ∀ member, state.created member = true ↔ member.tasksNeeded ≤ served
  queue : ∃ offers, served ≤ (postedTasks offers).length ∧
    state.networkQueue = (postedTasks offers).drop served

theorem progress_init : Progress 0 {} where
  created member := by cases member <;> simp [StartUp.created, Member.tasksNeeded]
  queue := ⟨0, Nat.zero_le _, rfl⟩

/-- The constructor's task is served first. -/
theorem getElem?_postedTasks {offers served : ℕ} {task : CreationTask}
    (htask : (postedTasks offers)[served]? = some task) :
    task = if served = 0 then .constructor else .offer := by
  cases served with
  | zero => exact (Option.some.inj htask).symm
  | succ served =>
      rw [postedTasks, List.getElem?_cons_succ, List.getElem?_replicate] at htask
      split_ifs at htask with hserved
      exact (Option.some.inj htask).symm

theorem created_runTask {served : ℕ} {state : StartUp}
    (hcreated : ∀ member, state.created member = true ↔ member.tasksNeeded ≤ served)
    (member : Member) :
    (state.runTask (if served = 0 then .constructor else .offer)).created member = true ↔
      member.tasksNeeded ≤ served + 1 := by
  have hcontroller := hcreated .transportController
  have hsend := hcreated .transportSend
  simp only [StartUp.created, Member.tasksNeeded] at hcontroller hsend
  cases member with
  | transportController =>
      split_ifs <;> simp [StartUp.created, StartUp.runTask, Member.tasksNeeded, hcontroller]
      omega
  | transportSend =>
      split_ifs <;> simp [StartUp.created, StartUp.runTask, Member.tasksNeeded, hsend] <;> omega

theorem Progress.serve {served : ℕ} {state : StartUp} (hprogress : Progress served state)
    {task : CreationTask} {tasks : List CreationTask}
    (hqueue : state.networkQueue = task :: tasks) :
    Progress (served + 1) ({ state with networkQueue := tasks }.runTask task) := by
  obtain ⟨offers, hserved, hoffers⟩ := hprogress.queue
  have hdrop : (postedTasks offers).drop served = task :: tasks := hoffers.symm.trans hqueue
  have htask : (postedTasks offers)[served]? = some task := by
    rw [← List.head?_drop, hdrop, List.head?_cons]
  have htasks : (postedTasks offers).drop (served + 1) = tasks := by
    rw [← List.drop_drop, hdrop, List.drop_one, List.tail_cons]
  obtain ⟨hlt, _⟩ := List.getElem?_eq_some_iff.mp htask
  obtain rfl := getElem?_postedTasks htask
  constructor
  · exact created_runTask hprogress.created
  · refine ⟨offers, hlt, ?_⟩
    rw [htasks]
    split_ifs <;> rfl

theorem Progress.postOffer {served : ℕ} {state : StartUp} (hprogress : Progress served state)
    (index : ℕ) :
    Progress served { state.dropAction index with
      networkQueue := state.networkQueue ++ [.offer] } where
  created := hprogress.created
  queue := by
    obtain ⟨offers, hserved, hoffers⟩ := hprogress.queue
    have hmore : postedTasks (offers + 1) = postedTasks offers ++ [.offer] := by
      rw [postedTasks, List.replicate_succ', postedTasks, List.cons_append]
    refine ⟨offers + 1, ?_, ?_⟩
    · rw [hmore, List.length_append]
      exact Nat.le_add_right_of_le hserved
    · rw [hmore, List.drop_append_of_le_length hserved, hoffers]

/-- One step serves one task or none. -/
theorem Progress.step {api : TransportApi} {served : ℕ} {state next : StartUp}
    {event : StartUpEvent} (hprogress : Progress served state)
    (hstep : startUpStep api state event = some (.ok next)) :
    Progress (served + if event.isServe then 1 else 0) next := by
  cases event with
  | call call =>
      obtain rfl := Except.ok.inj (Option.some.inj hstep)
      exact ⟨hprogress.created, hprogress.queue⟩
  | advance index =>
      simp only [startUpStep] at hstep
      split at hstep
      · simp at hstep
      · split_ifs at hstep
        · obtain rfl := Except.ok.inj (Option.some.inj hstep)
          exact ⟨hprogress.created, hprogress.queue⟩
        · simp at hstep
      · obtain rfl := Except.ok.inj (Option.some.inj hstep)
        exact hprogress.postOffer index
      · simp at hstep
  | serve =>
      simp only [startUpStep] at hstep
      split at hstep
      · simp at hstep
      · rename_i task tasks hqueue
        obtain rfl := Except.ok.inj (Option.some.inj hstep)
        exact hprogress.serve hqueue

theorem Progress.run {api : TransportApi} {served : ℕ} {state final : StartUp}
    {events : List StartUpEvent} (hprogress : Progress served state)
    (hrun : run (startUpStep api) state events = some (.ok final)) :
    Progress (served + events.countP StartUpEvent.isServe) final := by
  induction events generalizing served state with
  | nil =>
      obtain rfl := Except.ok.inj (Option.some.inj hrun)
      exact hprogress
  | cons event events ih =>
      obtain ⟨next, hstep, hrest⟩ := exists_next_of_run_cons hrun
      have hlater := ih (hprogress.step hstep) hrest
      rwa [List.countP_cons, Nat.add_comm (events.countP _), ← Nat.add_assoc]

/-! ## Uses of a member -/

/-- Whenever a call is about to use the member, the task that creates it has been
served. -/
def UsesWait (api : TransportApi) (events : List StartUpEvent) : Prop :=
  ∀ before index after middle member, events = before ++ .advance index :: after →
    run (startUpStep api) {} before = some (.ok middle) →
    middle.nextAction index = some (.use member) →
    member.tasksNeeded ≤ before.countP StartUpEvent.isServe

theorem startUpStep_eq_null_iff {api : TransportApi} {state : StartUp} {event : StartUpEvent}
    {member : Member} :
    startUpStep api state event = some (.error (.null member)) ↔
      ∃ index, event = .advance index ∧ state.nextAction index = some (.use member) ∧
        state.created member = false := by
  constructor
  · intro hstep
    cases event with
    | call call => simp [startUpStep] at hstep
    | advance index =>
        simp only [startUpStep] at hstep
        split at hstep
        · simp at hstep
        · rename_i used hnext
          split_ifs at hstep with hcreated
          · simp at hstep
          · obtain rfl : used = member := by simpa using hstep
            exact ⟨index, rfl, hnext, by simpa using hcreated⟩
        · simp at hstep
        · simp at hstep
    | serve =>
        simp only [startUpStep] at hstep
        split at hstep <;> simp at hstep
  · rintro ⟨index, rfl, hnext, hcreated⟩
    simp [startUpStep, hnext, hcreated]

/-- No member is null where it is dereferenced exactly when every use comes after
the task that creates the member: one task for the controller, two for
`transport_send_`. -/
theorem startUp_safe_iff {api : TransportApi} {events : List StartUpEvent}
    {outcome : Except StartUpFault StartUp}
    (hrun : run (startUpStep api) {} events = some outcome) :
    (∀ member, outcome ≠ .error (.null member)) ↔ UsesWait api events := by
  constructor
  · rintro hsafe before index after middle member rfl hbefore hnext
    have hprogress := progress_init.run hbefore
    rw [Nat.zero_add] at hprogress
    rw [← hprogress.created]
    by_contra hcreated
    have hstep : startUpStep api middle (.advance index) = some (.error (.null member)) :=
      startUpStep_eq_null_iff.mpr ⟨index, rfl, hnext, by simpa using hcreated⟩
    rw [run_append hbefore] at hrun
    rcases run_cons_cases hrun with ⟨next, hok, _⟩ | ⟨reason, herror, _, rfl⟩
    · rw [hstep] at hok
      exact absurd hok (by simp)
    · rw [hstep] at herror
      exact hsafe member (congrArg _ (Except.error.inj (Option.some.inj herror)).symm)
  · rintro hwait member rfl
    obtain ⟨before, event, middle, rfl, hbefore, hstep⟩ := exists_fault_step hrun
    obtain ⟨index, rfl, hnext, hcreated⟩ := startUpStep_eq_null_iff.mp hstep
    have hprogress := progress_init.run hbefore
    rw [Nat.zero_add] at hprogress
    have hserved := hwait before index [] middle member rfl hbefore hnext
    rw [← hprogress.created, hcreated] at hserved
    exact absurd hserved (by decide)

/-- An offer that waits for the constructor's task, and padding that waits for the
offer's. -/
theorem startUp_safe_patient :
    (∀ member, Except.ok
        { transportController := true
          transportSend := true
          networkQueue := []
          calls := [[], []] } ≠ (.error (.null member) : Except StartUpFault StartUp)) ↔
      UsesWait rfc4572Api
        [.serve, .call (.createOffer {} (ascii "stream") sampleSource), .advance 0, .advance 0,
          .advance 0, .serve, .call .generatePadding, .advance 1] :=
  startUp_safe_iff rfl

/-- An offer that does not wait calls the controller before it exists. -/
theorem startUp_null_hasty :
    ∃ events, run (startUpStep rfc4572Api) {} events =
      some (.error (.null .transportController)) :=
  ⟨[.call (.createOffer {} (ascii "stream") sampleSource), .advance 0], rfl⟩

end PeerConnection.Connection
