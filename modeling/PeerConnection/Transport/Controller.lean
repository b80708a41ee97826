import PeerConnection.Core.Runs
import PeerConnection.Sdp.Description
import PeerConnection.Transport.Collection

/-!
# The transport controller

`transport_controller` with the objects it creates, the tasks it posts to the
network thread and the calls its methods make.  The ICE and DTLS transports
belong to `libice`; what this repository does to them is the sequence of calls
they receive, so that sequence is their state here.  An ICE or DTLS transport
lives inside the `JsepTransport` that owns it, and a raw pointer to it is the
identity of that owner.
-/

namespace PeerConnection.Transport

open PeerConnection.Text
open PeerConnection.Sdp
open Std

abbrev TransportId := ℕ
abbrev DescriptionId := ℕ
abbrev Packet := Bytes

inductive SslRole where
  | client
  | server
  deriving DecidableEq, Repr

inductive IceCall where
  | setIceParameters (parameters : IceParameters)
  | setRemoteIceParameters (parameters : IceParameters)
  | addRemoteCandidate (candidate : Candidate)
  | maybeStartGathering
  deriving DecidableEq

inductive DtlsCall where
  | setDtlsRole (role : SslRole)
  | setLocalCertificate (certificate : Option Certificate)
  | setRemoteFingerprint (fingerprint : SslFingerprint)
  deriving DecidableEq

/-- A `JsepTransport` with its ICE transport, its RTP DTLS transport and its
`rtp_transport()`. -/
structure JsepTransport where
  mid : Bytes
  iceCalls : List IceCall := []
  dtlsCalls : List DtlsCall := []
  sentRtpPackets : List Packet := []
  /-- The description that was being processed when the transport was created. -/
  createdFrom : DescriptionId

structure TransportController where
  certificate : Option Certificate := none
  ices : TreeMap Bytes (Option TransportId) := ∅
  dtlsTransports : TreeMap Bytes (Option TransportId) := ∅
  transports : JsepTransportCollection TransportId := {}
  objects : TransportId → JsepTransport := fun _ => { mid := [], createdFrom := 0 }
  nextTransport : TransportId := 0

/-- The pointer that `GetTransportInfoByName` returns. -/
structure TransportInfoPtr where
  description : DescriptionId
  position : ℕ
  deriving DecidableEq

/-- The tasks posted to the network thread. -/
inductive Task where
  | applyRemote (parameters : IceParameters) (ice dtls : TransportId) (td : TransportInfoPtr)
  | applyLocal (mid : Bytes) (parameters : IceParameters) (certificate : Option Certificate)
  | startGathering
  | addRemoteCandidate (candidate : Candidate)
  | sendRtpPacket (transportName : Bytes) (packet : Packet)
  deriving DecidableEq

/-- Tasks without captured pointers. -/
def Task.CapturesNothing : Task → Prop
  | .applyRemote _ _ _ _ => False
  | _ => True

instance : DecidablePred Task.CapturesNothing
  | .applyRemote _ _ _ _ => .isFalse id
  | .applyLocal _ _ _ => .isTrue trivial
  | .startGathering => .isTrue trivial
  | .addRemoteCandidate _ => .isTrue trivial
  | .sendRtpPacket _ _ => .isTrue trivial

/-- The thread on which a method of the controller is called. -/
inductive Caller where
  | networkThread
  | otherThread
  deriving DecidableEq, Repr

namespace TransportController

/-! ## Calls on transports -/

def recordIceCall (controller : TransportController) (owner : TransportId)
    (call : IceCall) : TransportController :=
  let transport := controller.objects owner
  { controller with
    objects := Function.update controller.objects owner
      { transport with iceCalls := transport.iceCalls ++ [call] } }

def recordDtlsCall (controller : TransportController) (owner : TransportId)
    (call : DtlsCall) : TransportController :=
  let transport := controller.objects owner
  { controller with
    objects := Function.update controller.objects owner
      { transport with dtlsCalls := transport.dtlsCalls ++ [call] } }

def recordSentRtpPacket (controller : TransportController) (owner : TransportId)
    (packet : Packet) : TransportController :=
  let transport := controller.objects owner
  { controller with
    objects := Function.update controller.objects owner
      { transport with sentRtpPackets := transport.sentRtpPackets ++ [packet] } }

/-- A call through a raw ICE pointer. -/
def iceCall (controller : TransportController) (ice : Option TransportId) (call : IceCall) :
    Except Fault TransportController :=
  match ice with
  | none => .error (.null .iceTransport)
  | some owner =>
      if controller.transports.owns owner then .ok (controller.recordIceCall owner call)
      else .error (.dangling .iceTransport)

/-- A call through a raw DTLS pointer. -/
def dtlsCall (controller : TransportController) (dtls : Option TransportId)
    (call : DtlsCall) : Except Fault TransportController :=
  match dtls with
  | none => .error (.null .dtlsTransport)
  | some owner =>
      if controller.transports.owns owner then .ok (controller.recordDtlsCall owner call)
      else .error (.dangling .dtlsTransport)

/-- `for (auto pi : ices_) pi.second->...`. -/
def iceCallEach (call : IceCall) (controller : TransportController) :
    List (Bytes × Option TransportId) → Except Fault TransportController
  | [] => .ok controller
  | entry :: entries => do
      let next ← controller.iceCall entry.2 call
      iceCallEach call next entries

def iceCallAll (controller : TransportController) (call : IceCall) :
    Except Fault TransportController :=
  iceCallEach call controller controller.ices.toList

/-! ## Methods -/

def setCertificeate (controller : TransportController) (cert : Option Certificate) :
    TransportController :=
  { controller with certificate := cert }

/-- `OnTransportChanged`, the map change callback, only logs. -/
def onTransportChanged (_ : Bytes) (_ : Option TransportId) : Bool := false

/-- The body of the `Invoke` in `set_remote_sdp`: a new transport, registered
under the content name. -/
def createTransport (controller : TransportController) (description : DescriptionId)
    (mid : Bytes) : TransportController :=
  let transport : JsepTransport :=
    { mid := mid
      dtlsCalls :=
        (controller.certificate.toList.map fun cert => .setLocalCertificate (some cert)) ++
          [.setDtlsRole .client]
      createdFrom := description }
  { controller with
    transports :=
      controller.transports.registerTransport onTransportChanged mid controller.nextTransport
    objects := Function.update controller.objects controller.nextTransport transport
    nextTransport := controller.nextTransport + 1 }

/-- `map::insert` keeps an entry that is already there. -/
def insertSideMaps (controller : TransportController) (mid : Bytes) (owner : TransportId) :
    TransportController :=
  { controller with
    ices := controller.ices.insertIfNew mid (some owner)
    dtlsTransports := controller.dtlsTransports.insertIfNew mid (some owner) }

/-- The task that `set_remote_sdp` posts for the transport it has created. -/
def remoteTasks (description : DescriptionId) (desc : SessionDescription) (mid : Bytes)
    (owner : TransportId) : List Task :=
  match desc.getTransportInfoIndexByName mid with
  | none => []
  | some position =>
      match desc.transportInfos[position]? with
      | none => []
      | some td =>
          [.applyRemote td.description.iceParameters owner owner
            { description := description, position := position }]

/-- The part of the loop body of `set_remote_sdp` for a content named like the
first one. -/
def registerContent (controller : TransportController) (description : DescriptionId)
    (desc : SessionDescription) (mid : Bytes) : TransportController × List Task :=
  ((controller.createTransport description mid).insertSideMaps mid controller.nextTransport,
    remoteTasks description desc mid controller.nextTransport)

/-- One pass through the loop of `set_remote_sdp`.  The log line reads
`content_groups_[0]` before anything else. -/
def setRemoteSdpContent (controller : TransportController) (description : DescriptionId)
    (desc : SessionDescription) (content : ContentInfo) :
    Except Fault (TransportController × List Task) := do
  let _ ← index desc.contentGroups 0
  if desc.firstContentName = some content.name then
    return controller.registerContent description desc content.name
  else
    return (controller, [])

/-- `set_remote_sdp` from the given contents on, with the tasks it posts. -/
def setRemoteSdpFrom (description : DescriptionId) (desc : SessionDescription)
    (controller : TransportController) :
    List ContentInfo → Except Fault (TransportController × List Task)
  | [] => .ok (controller, [])
  | content :: contents => do
      let (next, posted) ← controller.setRemoteSdpContent description desc content
      let (final, rest) ← setRemoteSdpFrom description desc next contents
      return (final, posted ++ rest)

def setRemoteSdp (controller : TransportController) (description : DescriptionId)
    (desc : SessionDescription) : Except Fault (TransportController × List Task) :=
  controller.setRemoteSdpFrom description desc desc.contents

/-- The tasks posted by the loop of `set_local_sdp`. -/
def localTasks (desc : SessionDescription) (certificate : Option Certificate) : List Task :=
  desc.contents.filterMap fun content =>
    if desc.firstContentName = some content.name then
      (desc.getTransportInfoByName content.name).map fun td =>
        .applyLocal content.name td.description.iceParameters certificate
    else none

def setLocalSdp (controller : TransportController) (caller : Caller)
    (desc : SessionDescription) (certificate : Option Certificate) :
    Except Fault (TransportController × List Task) :=
  match caller with
  | .networkThread => do
      let next ← controller.iceCallAll .maybeStartGathering
      return (next, localTasks desc certificate)
  | .otherThread => .ok (controller, localTasks desc certificate ++ [.startGathering])

def setRemoteCandidate (controller : TransportController) (caller : Caller)
    (candidate : Candidate) : Except Fault (TransportController × List Task) :=
  match caller with
  | .networkThread => do
      let next ← controller.iceCallAll (.addRemoteCandidate candidate)
      return (next, [])
  | .otherThread => .ok (controller, [.addRemoteCandidate candidate])

def setRemoteCandidates (caller : Caller) (controller : TransportController) :
    List Candidate → Except Fault (TransportController × List Task)
  | [] => .ok (controller, [])
  | candidate :: candidates => do
      let (next, posted) ← controller.setRemoteCandidate caller candidate
      let (final, rest) ← setRemoteCandidates caller next candidates
      return (final, posted ++ rest)

def sendRtpPacket (controller : TransportController) (transportName : Bytes)
    (packet : Packet) : TransportController × List Task :=
  (controller, [.sendRtpPacket transportName packet])

/-! ## Tasks -/

/-- Run one task.  `descriptions` holds the session descriptions that exist. -/
def runTask (descriptions : DescriptionId → Option SessionDescription)
    (controller : TransportController) : Task → Except Fault TransportController
  | .applyRemote parameters ice dtls td => do
      let next ← controller.iceCall (some ice) (.setRemoteIceParameters parameters)
      match descriptions td.description with
      | none => .error (.dangling .transportInfo)
      | some desc =>
          match desc.transportInfos[td.position]? with
          | none => .error .indexOutOfRange
          | some info =>
              match info.description.identityFingerprint with
              | none => .error (.null .identityFingerprint)
              | some print => next.dtlsCall (some dtls) (.setRemoteFingerprint print)
  | .applyLocal mid parameters certificate => do
      -- `operator[]` makes a null entry for a name that is not there.
      let next ← controller.iceCall (controller.ices[mid]?.join) (.setIceParameters parameters)
      next.dtlsCall (next.dtlsTransports[mid]?.join) (.setLocalCertificate certificate)
  | .startGathering => controller.iceCallAll .maybeStartGathering
  | .addRemoteCandidate candidate => controller.iceCallAll (.addRemoteCandidate candidate)
  | .sendRtpPacket transportName packet =>
      match controller.transports.getTransportByName transportName with
      | none => .ok controller
      | some owner => .ok (controller.recordSentRtpPacket owner packet)

def runTasks (descriptions : DescriptionId → Option SessionDescription)
    (controller : TransportController) : List Task → Except Fault TransportController
  | [] => .ok controller
  | task :: tasks => do
      let next ← controller.runTask descriptions task
      runTasks descriptions next tasks

/-! ## What calls and tasks leave alone -/

/-- Apart from the certificate only the transports' own records have changed, and
the calls on them have only become more. -/
structure Extends (before after : TransportController) : Prop where
  ices : after.ices = before.ices
  dtlsTransports : after.dtlsTransports = before.dtlsTransports
  transports : after.transports = before.transports
  nextTransport : after.nextTransport = before.nextTransport
  createdFrom : ∀ owner, (after.objects owner).createdFrom = (before.objects owner).createdFrom
  iceCalls : ∀ owner, (before.objects owner).iceCalls <+: (after.objects owner).iceCalls
  dtlsCalls : ∀ owner, (before.objects owner).dtlsCalls <+: (after.objects owner).dtlsCalls

theorem Extends.refl (controller : TransportController) : Extends controller controller where
  ices := rfl
  dtlsTransports := rfl
  transports := rfl
  nextTransport := rfl
  createdFrom _ := rfl
  iceCalls _ := List.prefix_rfl
  dtlsCalls _ := List.prefix_rfl

theorem Extends.trans {first second third : TransportController}
    (hleft : Extends first second) (hright : Extends second third) :
    Extends first third where
  ices := hright.ices.trans hleft.ices
  dtlsTransports := hright.dtlsTransports.trans hleft.dtlsTransports
  transports := hright.transports.trans hleft.transports
  nextTransport := hright.nextTransport.trans hleft.nextTransport
  createdFrom owner := (hright.createdFrom owner).trans (hleft.createdFrom owner)
  iceCalls owner := (hleft.iceCalls owner).trans (hright.iceCalls owner)
  dtlsCalls owner := (hleft.dtlsCalls owner).trans (hright.dtlsCalls owner)

theorem recordIceCall_extends (controller : TransportController) (owner : TransportId)
    (call : IceCall) : Extends controller (controller.recordIceCall owner call) where
  ices := rfl
  dtlsTransports := rfl
  transports := rfl
  nextTransport := rfl
  createdFrom other := by
    by_cases hother : other = owner <;> simp [recordIceCall, hother]
  iceCalls other := by
    by_cases hother : other = owner <;> simp [recordIceCall, hother]
  dtlsCalls other := by
    by_cases hother : other = owner <;> simp [recordIceCall, hother]

theorem recordDtlsCall_extends (controller : TransportController) (owner : TransportId)
    (call : DtlsCall) : Extends controller (controller.recordDtlsCall owner call) where
  ices := rfl
  dtlsTransports := rfl
  transports := rfl
  nextTransport := rfl
  createdFrom other := by
    by_cases hother : other = owner <;> simp [recordDtlsCall, hother]
  iceCalls other := by
    by_cases hother : other = owner <;> simp [recordDtlsCall, hother]
  dtlsCalls other := by
    by_cases hother : other = owner <;> simp [recordDtlsCall, hother]

theorem recordSentRtpPacket_extends (controller : TransportController)
    (owner : TransportId) (packet : Packet) :
    Extends controller (controller.recordSentRtpPacket owner packet) where
  ices := rfl
  dtlsTransports := rfl
  transports := rfl
  nextTransport := rfl
  createdFrom other := by
    by_cases hother : other = owner <;> simp [recordSentRtpPacket, hother]
  iceCalls other := by
    by_cases hother : other = owner <;> simp [recordSentRtpPacket, hother]
  dtlsCalls other := by
    by_cases hother : other = owner <;> simp [recordSentRtpPacket, hother]

theorem iceCall_eq_ok_iff {controller next : TransportController}
    {ice : Option TransportId} {call : IceCall} :
    controller.iceCall ice call = .ok next ↔
      ∃ owner, ice = some owner ∧ controller.transports.owns owner = true ∧
        next = controller.recordIceCall owner call := by
  cases ice with
  | none => simp [iceCall]
  | some owner =>
      by_cases howner : controller.transports.owns owner
      · rw [iceCall, if_pos howner, Except.ok.injEq]
        constructor
        · rintro rfl
          exact ⟨owner, rfl, howner, rfl⟩
        · rintro ⟨other, hother, _, rfl⟩
          rw [Option.some.inj hother]
      · simp [iceCall, howner]

theorem dtlsCall_eq_ok_iff {controller next : TransportController}
    {dtls : Option TransportId} {call : DtlsCall} :
    controller.dtlsCall dtls call = .ok next ↔
      ∃ owner, dtls = some owner ∧ controller.transports.owns owner = true ∧
        next = controller.recordDtlsCall owner call := by
  cases dtls with
  | none => simp [dtlsCall]
  | some owner =>
      by_cases howner : controller.transports.owns owner
      · rw [dtlsCall, if_pos howner, Except.ok.injEq]
        constructor
        · rintro rfl
          exact ⟨owner, rfl, howner, rfl⟩
        · rintro ⟨other, hother, _, rfl⟩
          rw [Option.some.inj hother]
      · simp [dtlsCall, howner]

theorem iceCall_extends {controller next : TransportController}
    {ice : Option TransportId} {call : IceCall}
    (hcall : controller.iceCall ice call = .ok next) : Extends controller next := by
  obtain ⟨owner, _, _, rfl⟩ := iceCall_eq_ok_iff.mp hcall
  exact recordIceCall_extends controller owner call

theorem dtlsCall_extends {controller next : TransportController}
    {dtls : Option TransportId} {call : DtlsCall}
    (hcall : controller.dtlsCall dtls call = .ok next) : Extends controller next := by
  obtain ⟨owner, _, _, rfl⟩ := dtlsCall_eq_ok_iff.mp hcall
  exact recordDtlsCall_extends controller owner call

theorem iceCallEach_extends {call : IceCall} {controller next : TransportController}
    {entries : List (Bytes × Option TransportId)}
    (hcall : iceCallEach call controller entries = .ok next) : Extends controller next := by
  induction entries generalizing controller with
  | nil =>
      rw [iceCallEach, Except.ok.injEq] at hcall
      exact hcall ▸ Extends.refl controller
  | cons entry entries ih =>
      obtain ⟨middle, hfirst, hrest⟩ := Runs.except_bind_eq_ok_iff.mp hcall
      exact (iceCall_extends hfirst).trans (ih hrest)

/-- A call on every entry succeeds exactly when every pointer is alive. -/
theorem iceCallEach_ok_iff (call : IceCall) {controller : TransportController}
    {entries : List (Bytes × Option TransportId)} :
    (∃ next, iceCallEach call controller entries = .ok next) ↔
      ∀ entry ∈ entries, ∃ owner, entry.2 = some owner ∧
        controller.transports.owns owner = true := by
  induction entries generalizing controller with
  | nil => simp [iceCallEach]
  | cons entry entries ih =>
      rw [List.forall_mem_cons]
      constructor
      · rintro ⟨next, hnext⟩
        obtain ⟨middle, hfirst, hrest⟩ := Runs.except_bind_eq_ok_iff.mp hnext
        have htransports := (iceCall_extends hfirst).transports
        obtain ⟨owner, hentry, howner, _⟩ := iceCall_eq_ok_iff.mp hfirst
        have hlater := ih.mp ⟨next, hrest⟩
        rw [htransports] at hlater
        exact ⟨⟨owner, hentry, howner⟩, hlater⟩
      · rintro ⟨⟨owner, hentry, howner⟩, hlater⟩
        have hfirst : controller.iceCall entry.2 call =
            .ok (controller.recordIceCall owner call) :=
          iceCall_eq_ok_iff.mpr ⟨owner, hentry, howner, rfl⟩
        rw [← (iceCall_extends hfirst).transports] at hlater
        obtain ⟨next, hrest⟩ := ih.mpr hlater
        exact ⟨next, Runs.except_bind_eq_ok_iff.mpr ⟨_, hfirst, hrest⟩⟩

/-- A remote description gives its ICE parameters first and its fingerprint then. -/
theorem runTask_applyRemote_ok {descriptions : DescriptionId → Option SessionDescription}
    {controller next : TransportController} {parameters : IceParameters}
    {ice dtls : TransportId} {td : TransportInfoPtr}
    (hrun : controller.runTask descriptions (.applyRemote parameters ice dtls td) = .ok next) :
    ∃ told print, controller.iceCall (some ice) (.setRemoteIceParameters parameters) = .ok told ∧
      told.dtlsCall (some dtls) (.setRemoteFingerprint print) = .ok next := by
  obtain ⟨told, hice, hrest⟩ := Runs.except_bind_eq_ok_iff.mp hrun
  split at hrest
  · simp at hrest
  · split at hrest
    · simp at hrest
    · split at hrest
      · simp at hrest
      · exact ⟨told, _, hice, hrest⟩

/-- A task changes the records of transports and nothing else. -/
theorem runTask_extends {descriptions : DescriptionId → Option SessionDescription}
    {controller next : TransportController} {task : Task}
    (hrun : controller.runTask descriptions task = .ok next) : Extends controller next := by
  cases task with
  | applyRemote parameters ice dtls td =>
      obtain ⟨told, print, hice, hdtls⟩ := runTask_applyRemote_ok hrun
      exact (iceCall_extends hice).trans (dtlsCall_extends hdtls)
  | applyLocal mid parameters certificate =>
      obtain ⟨middle, hice, hdtls⟩ := Runs.except_bind_eq_ok_iff.mp hrun
      exact (iceCall_extends hice).trans (dtlsCall_extends hdtls)
  | startGathering => exact iceCallEach_extends hrun
  | addRemoteCandidate candidate => exact iceCallEach_extends hrun
  | sendRtpPacket transportName packet =>
      rw [runTask] at hrun
      split at hrun
      · exact Except.ok.inj hrun ▸ Extends.refl controller
      · exact Except.ok.inj hrun ▸ recordSentRtpPacket_extends controller _ packet

theorem setCertificeate_extends (controller : TransportController)
    (cert : Option Certificate) : Extends controller (controller.setCertificeate cert) where
  ices := rfl
  dtlsTransports := rfl
  transports := rfl
  nextTransport := rfl
  createdFrom _ := rfl
  iceCalls _ := List.prefix_rfl
  dtlsCalls _ := List.prefix_rfl

/-- The outcome of a method that registers nothing: the tasks it posts hold no
pointers. -/
structure Quiet (before after : TransportController) (posted : List Task) : Prop where
  records : Extends before after
  posted : ∀ task ∈ posted, task.CapturesNothing

theorem localTasks_capturesNothing {desc : SessionDescription}
    {certificate : Option Certificate} {task : Task}
    (htask : task ∈ localTasks desc certificate) : task.CapturesNothing := by
  obtain ⟨content, _, hcontent⟩ := List.mem_filterMap.mp htask
  split_ifs at hcontent
  obtain ⟨td, _, rfl⟩ := Option.map_eq_some_iff.mp hcontent
  trivial

theorem setLocalSdp_quiet {controller next : TransportController} {caller : Caller}
    {desc : SessionDescription} {certificate : Option Certificate} {posted : List Task}
    (hcall : controller.setLocalSdp caller desc certificate = .ok (next, posted)) :
    Quiet controller next posted := by
  cases caller with
  | networkThread =>
      obtain ⟨middle, hmiddle, hresult⟩ := Runs.except_bind_eq_ok_iff.mp hcall
      obtain ⟨rfl, rfl⟩ := Prod.mk.inj (Except.ok.inj hresult)
      exact ⟨iceCallEach_extends hmiddle, fun _ htask => localTasks_capturesNothing htask⟩
  | otherThread =>
      obtain ⟨rfl, rfl⟩ := Prod.mk.inj (Except.ok.inj hcall)
      refine ⟨Extends.refl controller, fun task htask => ?_⟩
      rcases List.mem_append.mp htask with hlocal | hgather
      · exact localTasks_capturesNothing hlocal
      · rw [List.mem_singleton.mp hgather]
        trivial

theorem localTasks_subset_posted {controller next : TransportController} {caller : Caller}
    {desc : SessionDescription} {certificate : Option Certificate} {posted : List Task}
    (hcall : controller.setLocalSdp caller desc certificate = .ok (next, posted)) :
    localTasks desc certificate ⊆ posted := by
  cases caller with
  | networkThread =>
      obtain ⟨middle, _, hresult⟩ := Runs.except_bind_eq_ok_iff.mp hcall
      obtain ⟨rfl, rfl⟩ := Prod.mk.inj (Except.ok.inj hresult)
      exact List.Subset.refl _
  | otherThread =>
      obtain ⟨rfl, rfl⟩ := Prod.mk.inj (Except.ok.inj hcall)
      exact List.subset_append_left _ _

/-- The first content of a description that has a transport info is configured. -/
theorem mem_localTasks {desc : SessionDescription} {content : ContentInfo}
    {info : TransportInfo} (certificate : Option Certificate)
    (hcontent : desc.contents.head? = some content)
    (hinfo : desc.getTransportInfoByName content.name = some info) :
    .applyLocal content.name info.description.iceParameters certificate ∈
      localTasks desc certificate := by
  refine List.mem_filterMap.mpr ⟨content, List.mem_of_head? hcontent, ?_⟩
  rw [if_pos (by rw [SessionDescription.firstContentName, hcontent]; rfl), hinfo]
  rfl

theorem setRemoteCandidate_quiet {controller next : TransportController} {caller : Caller}
    {candidate : Candidate} {posted : List Task}
    (hcall : controller.setRemoteCandidate caller candidate = .ok (next, posted)) :
    Quiet controller next posted := by
  cases caller with
  | networkThread =>
      obtain ⟨middle, hmiddle, hresult⟩ := Runs.except_bind_eq_ok_iff.mp hcall
      obtain ⟨rfl, rfl⟩ := Prod.mk.inj (Except.ok.inj hresult)
      exact ⟨iceCallEach_extends hmiddle, by simp⟩
  | otherThread =>
      obtain ⟨rfl, rfl⟩ := Prod.mk.inj (Except.ok.inj hcall)
      refine ⟨Extends.refl controller, fun task htask => ?_⟩
      rw [List.mem_singleton.mp htask]
      trivial

theorem setRemoteCandidates_quiet {caller : Caller} {controller next : TransportController}
    {candidates : List Candidate} {posted : List Task}
    (hcall : setRemoteCandidates caller controller candidates = .ok (next, posted)) :
    Quiet controller next posted := by
  induction candidates generalizing controller posted with
  | nil =>
      obtain ⟨rfl, rfl⟩ := Prod.mk.inj (Except.ok.inj hcall)
      exact ⟨Extends.refl controller, by simp⟩
  | cons candidate candidates ih =>
      obtain ⟨⟨middle, first⟩, hfirst, htail⟩ := Runs.except_bind_eq_ok_iff.mp hcall
      obtain ⟨⟨last, rest⟩, hrest, hresult⟩ := Runs.except_bind_eq_ok_iff.mp htail
      obtain ⟨rfl, rfl⟩ := Prod.mk.inj (Except.ok.inj hresult)
      have hmiddle := setRemoteCandidate_quiet hfirst
      have hlast := ih hrest
      refine ⟨hmiddle.records.trans hlast.records, fun task htask => ?_⟩
      exact (List.mem_append.mp htask).elim (hmiddle.posted task) (hlast.posted task)

/-! ## Registered transports -/

/-- The task posted for a new transport finds that transport and the transport
info it points to. -/
theorem mem_remoteTasks {description : DescriptionId} {desc : SessionDescription}
    {mid : Bytes} {owner : TransportId} {task : Task}
    (htask : task ∈ remoteTasks description desc mid owner) :
    ∃ position info, desc.transportInfos[position]? = some info ∧
      desc.getTransportInfoByName mid = some info ∧
      task = .applyRemote info.description.iceParameters owner owner
        { description := description, position := position } := by
  rw [remoteTasks] at htask
  split at htask
  · simp at htask
  · rename_i position hposition
    split at htask
    · simp at htask
    · rename_i info hinfo
      refine ⟨position, info, hinfo, ?_, List.mem_singleton.mp htask⟩
      rw [SessionDescription.getTransportInfoByName_eq, hposition]
      exact hinfo

theorem remoteTasks_length (description : DescriptionId) (desc : SessionDescription)
    (mid : Bytes) (owner : TransportId) :
    (remoteTasks description desc mid owner).length ≤ 1 := by
  rw [remoteTasks]
  split
  · simp
  · split <;> simp

theorem owns_of_getTransportByName {controller : TransportController} {mid : Bytes}
    {owner : TransportId}
    (hmid : controller.transports.getTransportByName mid = some owner) :
    controller.transports.owns owner = true :=
  (JsepTransportCollection.owns_iff _ _).mpr ⟨mid, hmid⟩

/-- `map::insert` enters only a new name. -/
theorem getElem?_insertIfNew {β : Type*} (entries : TreeMap Bytes β) (mid other : Bytes)
    (value : β) :
    (entries.insertIfNew mid value)[other]? =
      if mid = other ∧ entries[mid]? = none then some value else entries[other]? := by
  have hnew : mid ∉ entries ↔ entries[mid]? = none := by
    rw [TreeMap.mem_iff_isSome_getElem?, Option.not_isSome_iff_eq_none]
  rw [TreeMap.getElem?_insertIfNew]
  simp only [LawfulEqCmp.compare_eq_iff_eq, hnew]

section Registration

variable {controller : TransportController} (description : DescriptionId)
variable (desc : SessionDescription) {mid : Bytes}

theorem getTransportByName_registerContent (hmapped : controller.transports.Mapped)
    (other : Bytes) :
    (controller.registerContent description desc mid).1.transports.getTransportByName other =
      if mid = other then some controller.nextTransport
      else controller.transports.getTransportByName other :=
  JsepTransportCollection.getTransportByName_registerTransport hmapped _ _ _ _

theorem getElem?_ices_registerContent (other : Bytes) :
    (controller.registerContent description desc mid).1.ices[other]? =
      if mid = other ∧ controller.ices[mid]? = none then some (some controller.nextTransport)
      else controller.ices[other]? := by
  rw [show (controller.registerContent description desc mid).1.ices =
    controller.ices.insertIfNew mid (some controller.nextTransport) from rfl]
  exact getElem?_insertIfNew _ _ _ _

theorem getElem?_dtlsTransports_registerContent (other : Bytes) :
    (controller.registerContent description desc mid).1.dtlsTransports[other]? =
      if mid = other ∧ controller.dtlsTransports[mid]? = none then
        some (some controller.nextTransport)
      else controller.dtlsTransports[other]? := by
  rw [show (controller.registerContent description desc mid).1.dtlsTransports =
    controller.dtlsTransports.insertIfNew mid (some controller.nextTransport) from rfl]
  exact getElem?_insertIfNew _ _ _ _

/-- The ownership facts that hold in every reachable state, whatever is
registered again: transports are mapped under their names, and pointers only go
to transports that have been created. -/
structure WellFormed (controller : TransportController) : Prop where
  mapped : controller.transports.Mapped
  ices : ∀ (name : Bytes) (owner : TransportId),
    controller.ices[name]? = some (some owner) → owner < controller.nextTransport
  registered : ∀ (name : Bytes) (owner : TransportId),
    controller.transports.getTransportByName name = some owner →
    owner < controller.nextTransport

theorem wellFormed_empty (certificate : Option Certificate) :
    WellFormed { certificate := certificate } where
  mapped := JsepTransportCollection.mapped_empty
  ices := by simp
  registered := by simp [JsepTransportCollection.getTransportByName]

theorem WellFormed.of_extends {next : TransportController}
    (hwell : WellFormed controller) (hextends : Extends controller next) :
    WellFormed next where
  mapped := by
    rw [hextends.transports]
    exact hwell.mapped
  ices := by
    rw [hextends.ices, hextends.nextTransport]
    exact hwell.ices
  registered := by
    rw [hextends.transports, hextends.nextTransport]
    exact hwell.registered

theorem WellFormed.registerContent (hwell : WellFormed controller) :
    WellFormed (controller.registerContent description desc mid).1 where
  mapped := JsepTransportCollection.mapped_registerTransport hwell.mapped _ _ _
  ices name owner hname := by
    rw [getElem?_ices_registerContent] at hname
    refine Nat.lt_succ_of_le ?_
    split_ifs at hname
    · exact (Option.some.inj (Option.some.inj hname)).ge
    · exact (hwell.ices name owner hname).le
  registered name owner hname := by
    rw [getTransportByName_registerContent _ _ hwell.mapped] at hname
    refine Nat.lt_succ_of_le ?_
    split_ifs at hname
    · exact (Option.some.inj hname).ge
    · exact (hwell.registered name owner hname).le

end Registration

end TransportController

end PeerConnection.Transport
