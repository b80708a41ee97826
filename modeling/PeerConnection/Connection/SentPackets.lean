import PeerConnection.Core.RunHistory
import PeerConnection.Connection.Negotiation
import PeerConnection.Connection.PendingTasks

/-!
# The packets of a whole run

The pacer hands packets over at any time, also while there is no transport yet and while the
connection negotiates again.  The network thread serves them in order, and the task of a packet
looks for the transport that is registered under "audio" when it runs.  Here the packets are
followed through all of this: those that come before the first registration are dropped, and
every other one is sent once, by the transports in the order in which they were created.
-/

namespace PeerConnection.Connection

open PeerConnection.Text
open PeerConnection.Sdp
open PeerConnection.Runs
open PeerConnection.Transport
open PeerConnection.Transport.TransportController

/-! ## Where the packets are -/

/-- The packet whose task the network thread runs in this event. -/
def ConnectionEvent.servedPacket? : ConnectionEvent → Option Packet
  | .serve task => queuedPacket? task
  | _ => none

/-- The packets that the pacer has handed over, in order. -/
def handedPackets (events : List ConnectionEvent) : List Packet :=
  events.filterMap (·.sentPacket?)

def servedPackets (events : List ConnectionEvent) : List Packet :=
  events.filterMap (·.servedPacket?)

namespace P2pPeerConnection

/-- The transport that packets are sent through. -/
def audioTransport (connection : P2pPeerConnection) : Option TransportId :=
  connection.network.controller.transports.getTransportByName kAudio

def queuedPackets (connection : P2pPeerConnection) : List Packet :=
  connection.network.queue.filterMap queuedPacket?

end P2pPeerConnection

/-- What the transports have sent, in the order in which they were created. -/
def allSentPackets (controller : TransportController) : List Packet :=
  (List.range controller.nextTransport).flatMap fun owner =>
    (controller.objects owner).sentRtpPackets

/-! ## Calls that send nothing -/

/-- No transport sends a packet or gets another name. -/
structure SendsNothing (before after : TransportController) : Prop where
  transports : after.transports = before.transports
  nextTransport : after.nextTransport = before.nextTransport
  sent : ∀ owner, (after.objects owner).sentRtpPackets = (before.objects owner).sentRtpPackets
  mid : ∀ owner, (after.objects owner).mid = (before.objects owner).mid

namespace SendsNothing

theorem refl (controller : TransportController) : SendsNothing controller controller where
  transports := rfl
  nextTransport := rfl
  sent _ := rfl
  mid _ := rfl

theorem trans {first second third : TransportController} (hleft : SendsNothing first second)
    (hright : SendsNothing second third) : SendsNothing first third where
  transports := hright.transports.trans hleft.transports
  nextTransport := hright.nextTransport.trans hleft.nextTransport
  sent owner := (hright.sent owner).trans (hleft.sent owner)
  mid owner := (hright.mid owner).trans (hleft.mid owner)

theorem of_iceCall {controller next : TransportController} {ice : Option TransportId}
    {call : IceCall} (hcall : controller.iceCall ice call = .ok next) :
    SendsNothing controller next := by
  obtain ⟨owner, _, _, rfl⟩ := iceCall_eq_ok_iff.mp hcall
  refine ⟨rfl, rfl, fun other => ?_, fun other => ?_⟩ <;>
    by_cases hother : other = owner <;> simp [recordIceCall, hother]

theorem of_dtlsCall {controller next : TransportController} {dtls : Option TransportId}
    {call : DtlsCall} (hcall : controller.dtlsCall dtls call = .ok next) :
    SendsNothing controller next := by
  obtain ⟨owner, _, _, rfl⟩ := dtlsCall_eq_ok_iff.mp hcall
  refine ⟨rfl, rfl, fun other => ?_, fun other => ?_⟩ <;>
    by_cases hother : other = owner <;> simp [recordDtlsCall, hother]

theorem of_iceCallEach {call : IceCall} {controller next : TransportController}
    {entries : List (Bytes × Option TransportId)}
    (hcall : iceCallEach call controller entries = .ok next) :
    SendsNothing controller next := by
  induction entries generalizing controller with
  | nil => exact Except.ok.inj hcall ▸ refl controller
  | cons entry entries ih =>
      obtain ⟨middle, hfirst, hrest⟩ := except_bind_eq_ok_iff.mp hcall
      exact (of_iceCall hfirst).trans (ih hrest)

/-- Only the task of a packet sends one. -/
theorem of_runTask {descriptions : DescriptionId → Option SessionDescription}
    {controller next : TransportController} {task : Task} (hpacket : queuedPacket? task = none)
    (hrun : controller.runTask descriptions task = .ok next) :
    SendsNothing controller next := by
  cases task with
  | applyRemote parameters ice dtls td =>
      obtain ⟨told, print, hice, hdtls⟩ := runTask_applyRemote_ok hrun
      exact (of_iceCall hice).trans (of_dtlsCall hdtls)
  | applyLocal mid parameters certificate =>
      obtain ⟨middle, hice, hdtls⟩ := except_bind_eq_ok_iff.mp hrun
      exact (of_iceCall hice).trans (of_dtlsCall hdtls)
  | startGathering => exact of_iceCallEach hrun
  | addRemoteCandidate candidate => exact of_iceCallEach hrun
  | sendRtpPacket transportName packet => simp [queuedPacket?] at hpacket

end SendsNothing

/-- The tasks of the descriptions carry no packets. -/
def Packetless (tasks : List Task) : Prop :=
  ∀ task ∈ tasks, queuedPacket? task = none

theorem Packetless.filterMap {tasks : List Task} (htasks : Packetless tasks) :
    tasks.filterMap queuedPacket? = [] :=
  List.filterMap_eq_nil_iff.mpr htasks

theorem packetless_localTasks (desc : SessionDescription) (certificate : Option Certificate) :
    Packetless (localTasks desc certificate) := by
  intro task htask
  obtain ⟨content, _, hcontent⟩ := List.mem_filterMap.mp htask
  split_ifs at hcontent
  obtain ⟨td, _, rfl⟩ := Option.map_eq_some_iff.mp hcontent
  rfl

theorem packetless_remoteTasks (description : DescriptionId) (desc : SessionDescription)
    (mid : Bytes) (owner : TransportId) :
    Packetless (remoteTasks description desc mid owner) := by
  intro task htask
  obtain ⟨position, info, _, _, rfl⟩ := mem_remoteTasks htask
  rfl

theorem setLocalSdp_sendsNothing {controller next : TransportController} {caller : Caller}
    {desc : SessionDescription} {certificate : Option Certificate} {posted : List Task}
    (hcall : controller.setLocalSdp caller desc certificate = .ok (next, posted)) :
    SendsNothing controller next ∧ Packetless posted := by
  cases caller with
  | networkThread =>
      obtain ⟨middle, hmiddle, hresult⟩ := except_bind_eq_ok_iff.mp hcall
      obtain ⟨rfl, rfl⟩ := Prod.mk.inj (Except.ok.inj hresult)
      exact ⟨.of_iceCallEach hmiddle, packetless_localTasks desc certificate⟩
  | otherThread =>
      obtain ⟨rfl, rfl⟩ := Prod.mk.inj (Except.ok.inj hcall)
      refine ⟨.refl controller, fun task htask => ?_⟩
      rcases List.mem_append.mp htask with hlocal | hgather
      · exact packetless_localTasks desc certificate task hlocal
      · rw [List.mem_singleton.mp hgather]
        rfl

theorem setRemoteCandidates_sendsNothing {caller : Caller}
    {controller next : TransportController} {candidates : List Candidate} {posted : List Task}
    (hcall : setRemoteCandidates caller controller candidates = .ok (next, posted)) :
    SendsNothing controller next ∧ Packetless posted := by
  induction candidates generalizing controller posted with
  | nil =>
      obtain ⟨rfl, rfl⟩ := Prod.mk.inj (Except.ok.inj hcall)
      exact ⟨.refl controller, by simp [Packetless]⟩
  | cons candidate candidates ih =>
      obtain ⟨⟨middle, first⟩, hfirst, htail⟩ := except_bind_eq_ok_iff.mp hcall
      obtain ⟨⟨last, rest⟩, hrest, hresult⟩ := except_bind_eq_ok_iff.mp htail
      obtain ⟨rfl, rfl⟩ := Prod.mk.inj (Except.ok.inj hresult)
      obtain ⟨hlast, hposted⟩ := ih hrest
      cases caller with
      | networkThread =>
          obtain ⟨told, htold, hpair⟩ := except_bind_eq_ok_iff.mp hfirst
          obtain ⟨rfl, rfl⟩ := Prod.mk.inj (Except.ok.inj hpair)
          exact ⟨(SendsNothing.of_iceCallEach htold).trans hlast, by simpa using hposted⟩
      | otherThread =>
          obtain ⟨rfl, rfl⟩ := Prod.mk.inj (Except.ok.inj hfirst)
          refine ⟨hlast, fun task htask => ?_⟩
          rcases List.mem_cons.mp htask with rfl | hlater
          · rfl
          · exact hposted task hlater

/-! ## What one step does -/

/-- Packets are queued for the audio transport. -/
def NamesAudio (tasks : List Task) : Prop :=
  ∀ transportName packet, .sendRtpPacket transportName packet ∈ tasks → transportName = kAudio

theorem Packetless.namesAudio {tasks : List Task} (htasks : Packetless tasks) :
    NamesAudio tasks := by
  intro transportName packet htask
  exact absurd (htasks _ htask) (by simp [queuedPacket?])

theorem NamesAudio.append {left right : List Task} (hleft : NamesAudio left)
    (hright : NamesAudio right) : NamesAudio (left ++ right) := fun transportName packet htask =>
  (List.mem_append.mp htask).elim (hleft transportName packet) (hright transportName packet)

/-- What a step does to the transports when it serves this packet. -/
inductive Handled (before : TransportController) :
    TransportController → Option Packet → Prop where
  | nothing (after : TransportController) (hquiet : SendsNothing before after) :
      Handled before after none
  | registered (description : DescriptionId) (desc : SessionDescription) (mid : Bytes) :
      Handled before (before.registerContent description desc mid).1 none
  | dropped (packet : Packet) (hnone : before.transports.getTransportByName kAudio = none) :
      Handled before before (some packet)
  | sent (packet : Packet) (owner : TransportId)
      (howner : before.transports.getTransportByName kAudio = some owner) :
      Handled before (before.recordSentRtpPacket owner packet) (some packet)

structure PacketStep (before : P2pPeerConnection) (event : ConnectionEvent)
    (after : P2pPeerConnection) : Prop where
  handled : Handled before.network.controller after.network.controller event.servedPacket?
  queue : event.servedPacket?.toList ++ after.queuedPackets =
    before.queuedPackets ++ event.sentPacket?.toList
  names : NamesAudio after.network.queue

section Steps

variable {api : TransportApi} {before after : P2pPeerConnection}

/-- Reading a text touches neither the controller nor the queue. -/
theorem setRemoteSdp_network {caller : Caller} {sdp : Bytes}
    (hstep : connectionStep api before (.setRemoteSdp caller sdp) = some (.ok after)) :
    after.network.controller = before.network.controller ∧
      after.network.queue = before.network.queue := by
  rw [connectionStep] at hstep
  split_ifs at hstep
  rcases before.readSdp_cases api sdp with ⟨_, hread⟩ | ⟨_, hread⟩ | ⟨_, state, hread⟩ |
    ⟨_, reason, hread⟩
  all_goals
    rw [P2pPeerConnection.setRemoteSdp, hread] at hstep
    simp only [Option.some.injEq, Except.ok.injEq, reduceCtorEq] at hstep
    try subst hstep
  · exact ⟨rfl, rfl⟩
  · let state := acceptedState api before.audioPt before.videoPt sdp
    exact ⟨before.store_controller state (acceptedDescription api sdp),
      before.store_queue state (acceptedDescription api sdp)⟩
  · exact ⟨before.store_controller state _, before.store_queue state _⟩

theorem packetStep_post {event : ConnectionEvent} {controller : TransportController}
    {posted : List Task} {call : Option RemoteCall}
    (hnames : NamesAudio before.network.queue) (hserved : event.servedPacket? = none)
    (hsent : event.sentPacket? = none)
    (hhandled : Handled before.network.controller controller none)
    (hposted : Packetless posted) :
    PacketStep before event
      { before with network := { before.network.post controller posted with call := call } } where
  handled := hserved ▸ hhandled
  queue := by
    simp [hserved, hsent, P2pPeerConnection.queuedPackets, Network.post, hposted.filterMap]
  names := hnames.append hposted.namesAudio

theorem packetStep_createOffer {caller : Caller} {options : RTCOfferAnswerOptions}
    {streamId : Bytes} {source : OfferSource} (hnames : NamesAudio before.network.queue)
    (hstep : connectionStep api before (.createOffer caller options streamId source) =
      some (.ok after)) :
    PacketStep before (.createOffer caller options streamId source) after := by
  obtain ⟨desc, controller, posted, _, hcontroller, rfl⟩ := createOffer_step hstep
  obtain ⟨hquiet, hposted⟩ := setLocalSdp_sendsNothing hcontroller
  cases hcertificate : source.certificate with
  | none =>
      rw [hcertificate] at hquiet
      exact packetStep_post hnames rfl rfl (.nothing _ hquiet) hposted
  | some certificate =>
      rw [hcertificate] at hquiet
      have hcertified : SendsNothing before.network.controller controller :=
        ⟨hquiet.transports, hquiet.nextTransport, hquiet.sent, hquiet.mid⟩
      exact packetStep_post hnames rfl rfl (.nothing _ hcertified) hposted

theorem packetStep_advance (hnames : NamesAudio before.network.queue)
    (hstep : connectionStep api before .advance = some (.ok after)) :
    PacketStep before .advance after := by
  obtain ⟨outcome, hadvance, hresult⟩ := Option.map_eq_some_iff.mp hstep
  obtain ⟨network, rfl, rfl⟩ := except_map_eq_ok_iff.mp hresult
  obtain ⟨call, hcall, ⟨_, hnext⟩ | ⟨content, contents, _, _, hnext⟩⟩ :=
    Network.advance_eq_some_iff.mp hadvance
  · obtain ⟨⟨controller, posted⟩, hcandidates, hnetwork⟩ :=
      except_bind_eq_ok_iff.mp hnext.symm
    obtain rfl := Except.ok.inj hnetwork
    obtain ⟨hquiet, hposted⟩ := setRemoteCandidates_sendsNothing hcandidates
    exact packetStep_post hnames rfl rfl (.nothing _ hquiet) hposted
  · obtain ⟨⟨controller, posted⟩, hcontent, hnetwork⟩ :=
      except_bind_eq_ok_iff.mp hnext.symm
    obtain rfl := Except.ok.inj hnetwork
    obtain ⟨_, hpair⟩ := setRemoteSdpContent_eq_ok_iff.mp hcontent
    split_ifs at hpair
    · obtain ⟨rfl, rfl⟩ := Prod.mk.inj hpair
      exact packetStep_post hnames rfl rfl (.registered call.description call.desc content.name)
        (packetless_remoteTasks call.description call.desc content.name _)
    · obtain ⟨rfl, rfl⟩ := Prod.mk.inj hpair
      exact packetStep_post hnames rfl rfl (.nothing _ (.refl _)) (by simp [Packetless])

theorem packetStep_serve {task : Task} (hnames : NamesAudio before.network.queue)
    (hstep : connectionStep api before (.serve task) = some (.ok after)) :
    PacketStep before (.serve task) after := by
  obtain ⟨outcome, hserve, hresult⟩ := Option.map_eq_some_iff.mp hstep
  obtain ⟨network, rfl, rfl⟩ := except_map_eq_ok_iff.mp hresult
  obtain ⟨tasks, hqueue, _, hnext⟩ := Network.serve_eq_some_iff.mp hserve
  obtain ⟨controller, hrun, hnetwork⟩ := except_bind_eq_ok_iff.mp hnext.symm
  obtain rfl := Except.ok.inj hnetwork
  have hlater : NamesAudio tasks := fun transportName packet htask =>
    hnames transportName packet (hqueue ▸ List.mem_cons_of_mem _ htask)
  refine ⟨?_, ?_, hlater⟩
  · cases hpacket : queuedPacket? task with
    | none =>
        rw [ConnectionEvent.servedPacket?, hpacket]
        exact .nothing _ (.of_runTask hpacket hrun)
    | some packet =>
        rw [ConnectionEvent.servedPacket?, hpacket]
        cases task with
        | sendRtpPacket transportName queued =>
            obtain rfl := Option.some.inj hpacket
            obtain rfl := hnames transportName queued (hqueue ▸ List.mem_cons_self)
            rw [runTask] at hrun
            split at hrun
            · rename_i hnone
              obtain rfl := Except.ok.inj hrun
              exact .dropped queued hnone
            · rename_i owner howner
              obtain rfl := Except.ok.inj hrun
              exact .sent queued owner howner
        | _ => simp [queuedPacket?] at hpacket
  · cases hpacket : queuedPacket? task <;>
      simp [ConnectionEvent.servedPacket?, ConnectionEvent.sentPacket?,
        P2pPeerConnection.queuedPackets, hqueue, hpacket]

/-- The inversion lemma for packets: each event hands at most one over and serves at most
one, from the other end of the queue. -/
theorem packetStep {event : ConnectionEvent} (hnames : NamesAudio before.network.queue)
    (hstep : connectionStep api before event = some (.ok after)) :
    PacketStep before event after := by
  cases event with
  | setRemoteSdp caller sdp =>
      obtain ⟨hcontroller, hqueue⟩ := setRemoteSdp_network hstep
      refine ⟨hcontroller ▸ .nothing _ (.refl _), ?_, hqueue ▸ hnames⟩
      simp [ConnectionEvent.servedPacket?, ConnectionEvent.sentPacket?,
        P2pPeerConnection.queuedPackets, hqueue]
  | createOffer => exact packetStep_createOffer hnames hstep
  | sendPacket packet =>
      obtain rfl := Except.ok.inj (Option.some.inj hstep)
      refine ⟨.nothing _ (.refl _), ?_, hnames.append ?_⟩
      · simp [ConnectionEvent.servedPacket?, ConnectionEvent.sentPacket?,
          P2pPeerConnection.queuedPackets, P2pPeerConnection.sendPacket, Network.post,
          sendRtpPacket, queuedPacket?]
      · intro transportName other htask
        exact (Task.sendRtpPacket.inj (List.mem_singleton.mp htask)).1
  | advance => exact packetStep_advance hnames hstep
  | serve task => exact packetStep_serve hnames hstep

end Steps

/-! ## The transports that have sent packets -/

/-- Only audio transports send, and none that is newer than the registered one. -/
structure Senders (controller : TransportController) : Prop where
  mid : ∀ owner, (controller.objects owner).sentRtpPackets ≠ [] →
    (controller.objects owner).mid = kAudio
  newer : ∀ owner, (∀ audio, controller.transports.getTransportByName kAudio = some audio →
    audio < owner) → (controller.objects owner).sentRtpPackets = []
  audio : ∀ audio, controller.transports.getTransportByName kAudio = some audio →
    audio < controller.nextTransport ∧ (controller.objects audio).mid = kAudio

theorem senders_empty : Senders {} where
  mid := by simp
  newer := by simp
  audio := by simp [JsepTransportCollection.getTransportByName]

/-- A list put together from numbered parts, of which the later ones are empty. -/
theorem flatMap_range_of_empty_above {α : Type*} {part : ℕ → List α} {last count : ℕ}
    (hlast : last < count) (hempty : ∀ other, last < other → part other = []) :
    (List.range count).flatMap part = (List.range last).flatMap part ++ part last := by
  obtain ⟨rest, rfl⟩ := Nat.exists_eq_add_of_lt hlast
  have hrest : ((List.range rest).map fun index => last + 1 + index).flatMap part = [] := by
    rw [List.flatMap_eq_nil_iff]
    intro other hother
    obtain ⟨index, _, rfl⟩ := List.mem_map.mp hother
    exact hempty _ (by omega)
  rw [show last + rest + 1 = last + 1 + rest by omega, List.range_add, List.flatMap_append,
    hrest, List.append_nil, List.range_succ, List.flatMap_append, List.flatMap_singleton]

section Handling

variable {before after : TransportController} {served : Option Packet}

theorem SendsNothing.senders (hquiet : SendsNothing before after) (hsenders : Senders before) :
    Senders after where
  mid owner := by
    rw [hquiet.sent, hquiet.mid]
    exact hsenders.mid owner
  newer owner := by
    rw [hquiet.transports, hquiet.sent]
    exact hsenders.newer owner
  audio audio := by
    rw [hquiet.transports, hquiet.nextTransport, hquiet.mid]
    exact hsenders.audio audio

theorem SendsNothing.allSentPackets_eq (hquiet : SendsNothing before after) :
    allSentPackets after = allSentPackets before := by
  simp only [allSentPackets, hquiet.nextTransport, hquiet.sent]

section Registering

variable (description : DescriptionId) (desc : SessionDescription) (mid : Bytes)

theorem objects_registerContent (owner : TransportId) :
    ((before.registerContent description desc mid).1.objects owner).sentRtpPackets =
      if owner = before.nextTransport then [] else (before.objects owner).sentRtpPackets := by
  by_cases howner : owner = before.nextTransport <;>
    simp [registerContent, insertSideMaps, createTransport, howner]

theorem mid_registerContent (owner : TransportId) :
    ((before.registerContent description desc mid).1.objects owner).mid =
      if owner = before.nextTransport then mid else (before.objects owner).mid := by
  by_cases howner : owner = before.nextTransport <;>
    simp [registerContent, insertSideMaps, createTransport, howner]

theorem Senders.registerContent (hsenders : Senders before)
    (hmapped : before.transports.Mapped) :
    Senders (before.registerContent description desc mid).1 where
  mid owner hsent := by
    rw [objects_registerContent] at hsent
    rw [mid_registerContent]
    split_ifs at hsent ⊢
    · exact absurd rfl hsent
    · exact hsenders.mid owner hsent
  newer owner hnewer := by
    rw [objects_registerContent]
    split_ifs with howner
    · rfl
    · apply hsenders.newer
      intro audio haudio
      rw [getTransportByName_registerContent _ _ hmapped] at hnewer
      by_cases hname : mid = kAudio
      · have hfresh := hnewer before.nextTransport (if_pos hname)
        exact (hsenders.audio audio haudio).1.trans hfresh
      · exact hnewer audio ((if_neg hname).trans haudio)
  audio audio haudio := by
    rw [getTransportByName_registerContent _ _ hmapped] at haudio
    rw [mid_registerContent]
    split_ifs at haudio with hname
    · obtain rfl := Option.some.inj haudio
      exact ⟨Nat.lt_succ_self _, by rw [if_pos rfl, hname]⟩
    · obtain ⟨hlt, haudioMid⟩ := hsenders.audio audio haudio
      exact ⟨hlt.trans (Nat.lt_succ_self _), by rw [if_neg hlt.ne, haudioMid]⟩

theorem allSentPackets_registerContent :
    allSentPackets (before.registerContent description desc mid).1 = allSentPackets before := by
  have hkept : ∀ owner ∈ List.range before.nextTransport,
      ((before.registerContent description desc mid).1.objects owner).sentRtpPackets =
        (before.objects owner).sentRtpPackets := by
    intro owner howner
    rw [objects_registerContent, if_neg (List.mem_range.mp howner).ne]
  have hfresh : ((before.registerContent description desc mid).1.objects
      before.nextTransport).sentRtpPackets = [] := by
    rw [objects_registerContent, if_pos rfl]
  rw [allSentPackets, show (before.registerContent description desc mid).1.nextTransport =
    before.nextTransport + 1 from rfl, List.range_succ, List.flatMap_append,
    List.flatMap_singleton, hfresh, List.append_nil]
  exact List.flatMap_congr hkept

end Registering

theorem objects_recordSentRtpPacket (owner other : TransportId) (packet : Packet) :
    ((before.recordSentRtpPacket owner packet).objects other).sentRtpPackets =
      if other = owner then (before.objects owner).sentRtpPackets ++ [packet]
      else (before.objects other).sentRtpPackets := by
  by_cases hother : other = owner <;> simp [recordSentRtpPacket, hother]

theorem mid_recordSentRtpPacket (owner other : TransportId) (packet : Packet) :
    ((before.recordSentRtpPacket owner packet).objects other).mid =
      (before.objects other).mid := by
  by_cases hother : other = owner <;> simp [recordSentRtpPacket, hother]

theorem Senders.recordSentRtpPacket (hsenders : Senders before) {owner : TransportId}
    (howner : before.transports.getTransportByName kAudio = some owner) (packet : Packet) :
    Senders (before.recordSentRtpPacket owner packet) where
  mid other hsent := by
    rw [objects_recordSentRtpPacket] at hsent
    rw [mid_recordSentRtpPacket]
    split_ifs at hsent with hother
    · rw [hother]
      exact (hsenders.audio owner howner).2
    · exact hsenders.mid other hsent
  newer other hnewer := by
    have hlt : owner < other := hnewer owner howner
    rw [objects_recordSentRtpPacket, if_neg hlt.ne']
    exact hsenders.newer other hnewer
  audio audio haudio := by
    rw [mid_recordSentRtpPacket]
    exact hsenders.audio audio haudio

theorem allSentPackets_recordSentRtpPacket (hsenders : Senders before) {owner : TransportId}
    (howner : before.transports.getTransportByName kAudio = some owner) (packet : Packet) :
    allSentPackets (before.recordSentRtpPacket owner packet) =
      allSentPackets before ++ [packet] := by
  have hlt := (hsenders.audio owner howner).1
  have hempty : ∀ other, owner < other → (before.objects other).sentRtpPackets = [] := by
    intro other hother
    apply hsenders.newer
    intro audio haudio
    rwa [← Option.some.inj (howner.symm.trans haudio)]
  have hrecorded : ∀ other, owner < other →
      ((before.recordSentRtpPacket owner packet).objects other).sentRtpPackets = [] := by
    intro other hother
    rw [objects_recordSentRtpPacket, if_neg hother.ne', hempty other hother]
  have hearlier : ∀ other ∈ List.range owner,
      ((before.recordSentRtpPacket owner packet).objects other).sentRtpPackets =
        (before.objects other).sentRtpPackets := by
    intro other hother
    rw [objects_recordSentRtpPacket, if_neg (List.mem_range.mp hother).ne]
  calc allSentPackets (before.recordSentRtpPacket owner packet)
      = (List.range owner).flatMap (fun other =>
            ((before.recordSentRtpPacket owner packet).objects other).sentRtpPackets) ++
          ((before.recordSentRtpPacket owner packet).objects owner).sentRtpPackets :=
        flatMap_range_of_empty_above hlt hrecorded
    _ = (List.range owner).flatMap (fun other => (before.objects other).sentRtpPackets) ++
          ((before.objects owner).sentRtpPackets ++ [packet]) := by
        rw [List.flatMap_congr hearlier, objects_recordSentRtpPacket, if_pos rfl]
    _ = allSentPackets before ++ [packet] := by
        rw [← List.append_assoc, allSentPackets, flatMap_range_of_empty_above hlt hempty]

theorem Handled.senders (hhandled : Handled before after served)
    (hmapped : before.transports.Mapped) (hsenders : Senders before) : Senders after := by
  cases hhandled with
  | nothing _ hquiet => exact hquiet.senders hsenders
  | registered description desc mid => exact hsenders.registerContent description desc mid hmapped
  | dropped packet => exact hsenders
  | sent packet owner howner => exact hsenders.recordSentRtpPacket howner packet

/-- Before there is an audio transport nothing is sent. -/
theorem Handled.allSentPackets_of_none (hhandled : Handled before after served)
    (hnone : before.transports.getTransportByName kAudio = none) :
    allSentPackets after = allSentPackets before := by
  cases hhandled with
  | nothing _ hquiet => exact hquiet.allSentPackets_eq
  | registered description desc mid => exact allSentPackets_registerContent description desc mid
  | dropped packet => rfl
  | sent packet owner howner => exact absurd (hnone.symm.trans howner) (by simp)

/-- Once there is an audio transport each packet that is served is sent. -/
theorem Handled.allSentPackets_of_some (hhandled : Handled before after served)
    (hsenders : Senders before) {audio : TransportId}
    (haudio : before.transports.getTransportByName kAudio = some audio) :
    allSentPackets after = allSentPackets before ++ served.toList := by
  cases hhandled with
  | nothing _ hquiet => simpa using hquiet.allSentPackets_eq
  | registered description desc mid =>
      simpa using allSentPackets_registerContent description desc mid
  | dropped packet hnone => exact absurd (hnone.symm.trans haudio) (by simp)
  | sent packet owner howner => exact allSentPackets_recordSentRtpPacket hsenders howner packet

/-- A name once registered stays registered. -/
theorem Handled.registered_of_some (hhandled : Handled before after served)
    (hmapped : before.transports.Mapped) {audio : TransportId}
    (haudio : before.transports.getTransportByName kAudio = some audio) :
    after.transports.getTransportByName kAudio ≠ none := by
  cases hhandled with
  | nothing _ hquiet => simp [hquiet.transports, haudio]
  | registered description desc mid =>
      rw [getTransportByName_registerContent _ _ hmapped]
      split_ifs <;> simp [haudio]
  | dropped packet => simp [haudio]
  | sent packet owner =>
      have hsame : (before.recordSentRtpPacket owner packet).transports = before.transports := rfl
      simp [hsame, haudio]

/-- The step that brings the audio transport serves no packet. -/
theorem Handled.served_of_registered (hhandled : Handled before after served)
    (hnone : before.transports.getTransportByName kAudio = none)
    (hsome : after.transports.getTransportByName kAudio ≠ none) : served = none := by
  cases hhandled with
  | nothing => rfl
  | registered => rfl
  | dropped => exact absurd hnone hsome
  | sent packet owner howner => exact absurd (hnone.symm.trans howner) (by simp)

end Handling

/-! ## The whole run -/

/-- There has been no audio transport in any state of these events. -/
def Unregistered (api : TransportApi) (events : List ConnectionEvent) : Prop :=
  Throughout (connectionStep api) (fun connection => connection.audioTransport = none) {} events

/-- Up to `early` there was no audio transport, and what was served then is lost. -/
structure LostEarly (api : TransportApi) (events early : List ConnectionEvent)
    (connection : P2pPeerConnection) : Prop where
  prefixed : early <+: events
  unregistered : Unregistered api early
  served : servedPackets events =
    servedPackets early ++ allSentPackets connection.network.controller

/-- What holds of the packets after these events. -/
structure PacketsAccounted (api : TransportApi) (events : List ConnectionEvent)
    (connection : P2pPeerConnection) : Prop where
  wellFormed : WellFormed connection
  names : NamesAudio connection.network.queue
  senders : Senders connection.network.controller
  queue : handedPackets events = servedPackets events ++ connection.queuedPackets
  lost : ∃ early, LostEarly api events early connection ∧
    (connection.audioTransport = none → early = events)

theorem unregistered_append {api : TransportApi} {events : List ConnectionEvent}
    {event : ConnectionEvent} {connection : P2pPeerConnection}
    (hevents : Unregistered api events)
    (hrun : run (connectionStep api) {} (events ++ [event]) = some (.ok connection))
    (hnone : connection.audioTransport = none) : Unregistered api (events ++ [event]) := by
  intro before after passed hsplit hpassed
  rcases List.eq_nil_or_concat' after with rfl | ⟨rest, last, rfl⟩
  · rw [List.append_nil] at hsplit
    rw [← hsplit, hrun] at hpassed
    obtain rfl := Except.ok.inj (Option.some.inj hpassed)
    exact hnone
  · rw [← List.append_assoc] at hsplit
    obtain ⟨hbefore, _⟩ := List.append_inj' hsplit rfl
    exact hevents before rest passed hbefore hpassed

theorem unregistered_nil (api : TransportApi) : Unregistered api [] := by
  intro before after passed hsplit hpassed
  obtain ⟨rfl, rfl⟩ := List.append_eq_nil_iff.mp hsplit.symm
  obtain rfl := Except.ok.inj (Option.some.inj hpassed)
  rfl

theorem packetsAccounted_init (api : TransportApi) : PacketsAccounted api [] {} where
  wellFormed := wellFormed_init
  names := by simp [NamesAudio]
  senders := senders_empty
  queue := rfl
  lost := ⟨[], ⟨List.prefix_rfl, unregistered_nil api, rfl⟩, fun _ => rfl⟩

theorem servedPackets_append (events : List ConnectionEvent) (event : ConnectionEvent) :
    servedPackets (events ++ [event]) = servedPackets events ++ event.servedPacket?.toList := by
  cases hserved : event.servedPacket? <;> simp [servedPackets, hserved]

theorem handedPackets_append (events : List ConnectionEvent) (event : ConnectionEvent) :
    handedPackets (events ++ [event]) = handedPackets events ++ event.sentPacket?.toList := by
  cases hsent : event.sentPacket? <;> simp [handedPackets, hsent]

/-- The cases are: still no audio transport, its registration, and later. -/
theorem lostEarly_step {api : TransportApi} {past : List ConnectionEvent}
    {event : ConnectionEvent} {before after : P2pPeerConnection}
    (haccounted : PacketsAccounted api past before)
    (hrun : run (connectionStep api) {} (past ++ [event]) = some (.ok after))
    (hhandled : Handled before.network.controller after.network.controller
      event.servedPacket?) :
    ∃ early, LostEarly api (past ++ [event]) early after ∧
      (after.audioTransport = none → early = past ++ [event]) := by
  obtain ⟨early, hlost, hall⟩ := haccounted.lost
  cases hbefore : before.audioTransport with
  | none =>
      obtain rfl := hall hbefore
      have hsent : allSentPackets after.network.controller = [] := by
        rw [hhandled.allSentPackets_of_none hbefore]
        exact List.self_eq_append_right.mp hlost.served
      by_cases hafter : after.audioTransport = none
      · refine ⟨early ++ [event], ⟨List.prefix_rfl,
          unregistered_append hlost.unregistered hrun hafter, ?_⟩, fun _ => rfl⟩
        rw [hsent, List.append_nil]
      · refine ⟨early, ⟨List.prefix_append early [event], hlost.unregistered, ?_⟩,
          fun hnone => absurd hnone hafter⟩
        rw [servedPackets_append, hhandled.served_of_registered hbefore hafter, hsent]
        rfl
  | some audio =>
      refine ⟨early, ⟨hlost.prefixed.trans (List.prefix_append past [event]),
        hlost.unregistered, ?_⟩, fun hnone => ?_⟩
      · rw [servedPackets_append, hlost.served,
          hhandled.allSentPackets_of_some haccounted.senders hbefore, List.append_assoc]
      · exact absurd hnone
          (hhandled.registered_of_some haccounted.wellFormed.controller.mapped hbefore)

theorem packetsAccounted_step {api : TransportApi} {past : List ConnectionEvent}
    {event : ConnectionEvent} {before after : P2pPeerConnection}
    (hpast : run (connectionStep api) {} past = some (.ok before))
    (haccounted : PacketsAccounted api past before)
    (hstep : connectionStep api before event = some (.ok after)) :
    PacketsAccounted api (past ++ [event]) after := by
  have hpackets : PacketStep before event after := packetStep haccounted.names hstep
  have hrun : run (connectionStep api) {} (past ++ [event]) = some (.ok after) :=
    run_concat_eq_ok_iff.mpr ⟨before, hpast, hstep⟩
  refine ⟨wellFormed_step haccounted.wellFormed hstep, hpackets.names,
    hpackets.handled.senders haccounted.wellFormed.controller.mapped haccounted.senders, ?_,
    lostEarly_step haccounted hrun hpackets.handled⟩
  rw [handedPackets_append, servedPackets_append, haccounted.queue, List.append_assoc,
    List.append_assoc, hpackets.queue]

/-- However descriptions and packets are interleaved: the packets are served in the order in
which the pacer has handed them over and none is lost in the queue; those that were served
while there had never been an audio transport are dropped; and the others have been sent, each
once and in order, by audio transports in the order of their creation. -/
theorem packets_accounted {api : TransportApi} {events : List ConnectionEvent}
    {connection : P2pPeerConnection}
    (hrun : run (connectionStep api) {} events = some (.ok connection)) :
    handedPackets events = servedPackets events ++ connection.queuedPackets ∧
      (∃ early, LostEarly api events early connection) ∧
      ∀ owner, (connection.network.controller.objects owner).sentRtpPackets ≠ [] →
        (connection.network.controller.objects owner).mid = kAudio := by
  have haccounted : PacketsAccounted api events connection :=
    run_history_induction (packetsAccounted_init api)
      (fun _ _ _ _ hpast hinv hstep => packetsAccounted_step hpast hinv hstep) hrun
  obtain ⟨early, hlost, _⟩ := haccounted.lost
  exact ⟨haccounted.queue, ⟨early, hlost⟩, haccounted.senders.mid⟩

/-- A packet before the first negotiation, one after it and one after a second negotiation
that has replaced the transport, with a third packet in the queue. -/
def renegotiation : List ConnectionEvent :=
  [.sendPacket [1], .serve (.sendRtpPacket kAudio [1])] ++ firstNegotiation ++
    [.serve audioTask, .sendPacket [2], .serve (.sendRtpPacket kAudio [2]),
      .setRemoteSdp .otherThread audioSdp, .advance, .sendPacket [3],
      .serve (.applyRemote { ufrag := ascii "user", pwd := ascii "secret" } 1 1
        { description := 1, position := 0 }),
      .serve (.sendRtpPacket kAudio [3]), .sendPacket [4]]

theorem packets_accounted_renegotiation :
    ∃ connection, run (connectionStep rfc4572Api) {} renegotiation = some (.ok connection) ∧
      connection.audioTransport = some 1 ∧
      allSentPackets connection.network.controller = [[2], [3]] ∧
      handedPackets renegotiation =
        servedPackets renegotiation ++ connection.queuedPackets ∧
      ∃ early, LostEarly rfc4572Api renegotiation early connection := by
  have hreaches : reaches
      (fun connection => connection.audioTransport = some 1 ∧
        allSentPackets connection.network.controller = [[2], [3]])
      (run (connectionStep rfc4572Api) {} renegotiation) = true := by
    decide +kernel
  obtain ⟨connection, hrun, hcheck⟩ := exists_of_reaches _ hreaches
  obtain ⟨haudio, hsent⟩ := of_decide_eq_true hcheck
  obtain ⟨hqueue, hlost, _⟩ := packets_accounted hrun
  exact ⟨connection, hrun, haudio, hsent, hqueue, hlost⟩

end PeerConnection.Connection
