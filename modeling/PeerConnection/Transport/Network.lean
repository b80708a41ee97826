import PeerConnection.Transport.Controller

/-!
# The controller and the network thread

Methods of the controller are called one after the other, each on the network
thread itself or on another thread, while the network thread serves its queue in
FIFO order.  `set_remote_sdp` runs content by content, because the queue can be
served between its `Invoke`s: an `Invoke` from another thread waits behind
everything that has been queued before it, one on the network thread runs at
once.  A step that leaves defined behaviour faults.
-/

namespace PeerConnection.Transport

open PeerConnection.Text
open PeerConnection.Sdp
open PeerConnection.Runs
open Std

/-- A call of `set_remote_sdp` in progress, and the candidates its caller hands
over afterwards. -/
structure RemoteCall where
  caller : Caller
  description : DescriptionId
  desc : SessionDescription
  remaining : List ContentInfo
  candidates : List Candidate

/-- The names for which a call in progress will still create a transport. -/
def RemoteCall.pendingNames (call : RemoteCall) : List Bytes :=
  (call.remaining.map (·.name)).filter fun name => call.desc.firstContentName = some name

structure Network where
  controller : TransportController := {}
  descriptions : DescriptionId → Option SessionDescription := fun _ => none
  nextDescription : DescriptionId := 0
  queue : List Task := []
  call : Option RemoteCall := none

namespace Network

def post (network : Network) (controller : TransportController) (tasks : List Task) :
    Network :=
  { network with controller := controller, queue := network.queue ++ tasks }

/-- A new description, alive from now on. -/
def allocate (network : Network) (desc : SessionDescription) : Network :=
  { network with
    descriptions := Function.update network.descriptions network.nextDescription (some desc)
    nextDescription := network.nextDescription + 1 }

/-- The description is destroyed. -/
def free (network : Network) (description : DescriptionId) : Network :=
  { network with descriptions := Function.update network.descriptions description none }

/-- `set_remote_sdp` has been called with the description of this identity. -/
def startRemoteCall (network : Network) (caller : Caller) (description : DescriptionId)
    (desc : SessionDescription) (candidates : List Candidate) : Network :=
  { network with
    call := some
      { caller := caller
        description := description
        desc := desc
        remaining := desc.contents
        candidates := candidates } }

/-- The next content needs an `Invoke`, and the queue is not empty yet. -/
def MustWait (network : Network) (call : RemoteCall) (content : ContentInfo) : Prop :=
  call.caller = .otherThread ∧ call.desc.firstContentName = some content.name ∧
    network.queue ≠ []

instance (network : Network) (call : RemoteCall) (content : ContentInfo) :
    Decidable (network.MustWait call content) :=
  inferInstanceAs (Decidable (_ ∧ _ ∧ _))

/-- The calling thread goes on with its `set_remote_sdp`. -/
def advance (network : Network) : Option (Except Fault Network) :=
  match network.call with
  | none => none
  | some call =>
      match call.remaining with
      | [] => some do
          let (controller, posted) ←
            TransportController.setRemoteCandidates call.caller network.controller
              call.candidates
          return { network.post controller posted with call := none }
      | content :: contents =>
          if network.MustWait call content then none
          else some do
            let (controller, posted) ←
              network.controller.setRemoteSdpContent call.description call.desc content
            return { network.post controller posted with
              call := some { call with remaining := contents } }

/-- The network thread is free unless it is the one that runs the call. -/
def NetworkThreadBusy (network : Network) : Prop :=
  ∃ call ∈ network.call, call.caller = .networkThread

instance (network : Network) : Decidable network.NetworkThreadBusy :=
  inferInstanceAs (Decidable (∃ call ∈ network.call, call.caller = .networkThread))

/-- The network thread runs the task at the head of its queue. -/
def serve (network : Network) (task : Task) : Option (Except Fault Network) :=
  match network.queue with
  | [] => none
  | head :: tasks =>
      if head ≠ task ∨ network.NetworkThreadBusy then none
      else some do
        let controller ← network.controller.runTask network.descriptions task
        return { network with controller := controller, queue := tasks }

def setLocalSdp (network : Network) (caller : Caller) (desc : SessionDescription)
    (certificate : Option Certificate) : Except Fault Network := do
  let (controller, posted) ← network.controller.setLocalSdp caller desc certificate
  return network.post controller posted

def setRemoteCandidate (network : Network) (caller : Caller) (candidate : Candidate) :
    Except Fault Network := do
  let (controller, posted) ← network.controller.setRemoteCandidate caller candidate
  return network.post controller posted

/-- Nothing is left to do. -/
def Idle (network : Network) : Prop :=
  network.queue = [] ∧ network.call = none

end Network

/-- The calls of the controller's methods and the progress of the two threads.
A description handed to the controller stays alive. -/
inductive ControllerEvent where
  | setRemoteSdp (caller : Caller) (desc : SessionDescription)
  | setLocalSdp (caller : Caller) (desc : SessionDescription)
      (certificate : Option Certificate)
  | setRemoteCandidate (caller : Caller) (candidate : Candidate)
  | advance
  | serve (task : Task)

def ControllerEvent.isCall : ControllerEvent → Bool
  | .setRemoteSdp _ _ => true
  | .setLocalSdp _ _ _ => true
  | .setRemoteCandidate _ _ => true
  | .advance => false
  | .serve _ => false

@[simp]
theorem ControllerEvent.isCall_setRemoteSdp (caller : Caller) (desc : SessionDescription) :
    (setRemoteSdp caller desc).isCall = true := rfl

@[simp]
theorem ControllerEvent.isCall_setLocalSdp (caller : Caller) (desc : SessionDescription)
    (certificate : Option Certificate) :
    (setLocalSdp caller desc certificate).isCall = true := rfl

@[simp]
theorem ControllerEvent.isCall_serve (task : Task) : (serve task).isCall = false := rfl

/-- Calls come one after the other. -/
def controllerStep : System Network ControllerEvent Fault := fun network event =>
  match event with
  | .setRemoteSdp caller desc =>
      if network.call.isSome then none
      else some (.ok ((network.allocate desc).startRemoteCall caller
        network.nextDescription desc []))
  | .setLocalSdp caller desc certificate =>
      if network.call.isSome then none
      else some (network.setLocalSdp caller desc certificate)
  | .setRemoteCandidate caller candidate =>
      if network.call.isSome then none
      else some (network.setRemoteCandidate caller candidate)
  | .advance => network.advance
  | .serve task => network.serve task

/-! ## What one step can do -/

theorem RemoteCall.pendingNames_cons_of_first {call : RemoteCall} {content : ContentInfo}
    {contents : List ContentInfo} (hremaining : call.remaining = content :: contents)
    (hfirst : call.desc.firstContentName = some content.name) :
    call.pendingNames =
      content.name :: { call with remaining := contents }.pendingNames := by
  simp [pendingNames, hremaining, hfirst]

theorem RemoteCall.pendingNames_cons_of_other {call : RemoteCall} {content : ContentInfo}
    {contents : List ContentInfo} (hremaining : call.remaining = content :: contents)
    (hfirst : call.desc.firstContentName ≠ some content.name) :
    call.pendingNames = { call with remaining := contents }.pendingNames := by
  simp [pendingNames, hremaining, hfirst]

theorem TransportController.setRemoteSdpContent_eq_ok_iff {controller : TransportController}
    {description : DescriptionId} {desc : SessionDescription} {content : ContentInfo}
    {result : TransportController × List Task} :
    controller.setRemoteSdpContent description desc content = .ok result ↔
      desc.contentGroups ≠ [] ∧
        result = if desc.firstContentName = some content.name then
          controller.registerContent description desc content.name
        else (controller, []) := by
  rw [setRemoteSdpContent]
  cases hgroups : desc.contentGroups with
  | nil => simp [index, bind, Except.bind]
  | cons group groups =>
      simp only [index, List.getElem?_cons_zero, bind, Except.bind, ne_eq, reduceCtorEq,
        not_false_eq_true, true_and]
      split_ifs <;> simp [pure, Except.pure, eq_comm]

/-- `set_remote_sdp` registers its first content name and no other. -/
theorem TransportController.setRemoteSdpFrom_other {description : DescriptionId}
    {desc : SessionDescription} {name : Bytes} (hname : desc.firstContentName ≠ some name)
    {contents : List ContentInfo} {controller : TransportController}
    {result : TransportController × List Task} (hmapped : controller.transports.Mapped)
    (hcall : controller.setRemoteSdpFrom description desc contents = .ok result) :
    result.1.transports.getTransportByName name =
      controller.transports.getTransportByName name := by
  induction contents generalizing controller result with
  | nil =>
      rw [setRemoteSdpFrom, Except.ok.injEq] at hcall
      rw [← hcall]
  | cons content contents ih =>
      obtain ⟨⟨middle, posted⟩, hfirst, htail⟩ := except_bind_eq_ok_iff.mp hcall
      obtain ⟨⟨final, rest⟩, hrest, hresult⟩ := except_bind_eq_ok_iff.mp htail
      obtain rfl := Except.ok.inj hresult
      obtain ⟨_, hpair⟩ := setRemoteSdpContent_eq_ok_iff.mp hfirst
      by_cases hcontent : desc.firstContentName = some content.name
      · rw [if_pos hcontent] at hpair
        obtain ⟨rfl, rfl⟩ := Prod.mk.inj hpair
        have hmiddle := JsepTransportCollection.mapped_registerTransport hmapped
          onTransportChanged content.name controller.nextTransport
        have hne : content.name ≠ name := by
          rintro rfl
          exact hname hcontent
        have hsame : (controller.registerContent description desc
            content.name).1.transports.getTransportByName name =
            controller.transports.getTransportByName name := by
          rw [getTransportByName_registerContent description desc hmapped, if_neg hne]
        exact (ih hmiddle hrest).trans hsame
      · rw [if_neg hcontent] at hpair
        obtain ⟨rfl, rfl⟩ := Prod.mk.inj hpair
        exact ih hmapped hrest

namespace Network

theorem serve_eq_some_iff {network : Network} {task : Task}
    {outcome : Except Fault Network} :
    network.serve task = some outcome ↔
      ∃ tasks, network.queue = task :: tasks ∧ ¬ network.NetworkThreadBusy ∧
        outcome = do
          let controller ← network.controller.runTask network.descriptions task
          return { network with controller := controller, queue := tasks } := by
  rw [serve]
  cases hqueue : network.queue with
  | nil => simp
  | cons head tasks =>
      by_cases hhead : head = task
      · by_cases hbusy : network.NetworkThreadBusy
        · simp [hbusy]
        · simp [hhead, hbusy, eq_comm]
      · simp [hhead]

theorem advance_eq_some_iff {network : Network} {outcome : Except Fault Network} :
    network.advance = some outcome ↔
      ∃ call, network.call = some call ∧
        ((call.remaining = [] ∧
          outcome = do
            let (controller, posted) ←
              TransportController.setRemoteCandidates call.caller network.controller
                call.candidates
            return { network.post controller posted with call := none }) ∨
        (∃ content contents, call.remaining = content :: contents ∧
          ¬ network.MustWait call content ∧
          outcome = do
            let (controller, posted) ←
              network.controller.setRemoteSdpContent call.description call.desc content
            return { network.post controller posted with
              call := some { call with remaining := contents } })) := by
  rw [advance]
  cases hcall : network.call with
  | none => simp
  | some call =>
      cases hremaining : call.remaining with
      | nil => simp [hremaining, eq_comm]
      | cons content contents =>
          by_cases hwait : network.MustWait call content
          · simp [hremaining, hwait]
          · simp [hremaining, hwait, eq_comm]

end Network

end PeerConnection.Transport
