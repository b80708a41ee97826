import PeerConnection.Connection.StartUp
import PeerConnection.Media.PacketNumbers

/-!
# One congestion controller after another

The task of every `create_offer` makes a new `transport_send_` in place of the old one, and
an RTCP module that calls it back.  The producers look the member up for each packet that they
register and again when they hand the packets over, and the state of ICE is told to whichever
controller is there at the time.
-/

namespace PeerConnection.Media

variable {Packet : Type} {api : RtpPacketApi Packet}

/-- How a call ends. -/
def ProducerCall.handOver : ProducerCall → List Packet → SendAction Packet
  | .sendVideoEncode _ _ => .enqueuePacket
  | .generatePadding _ _ => .returnPadding

theorem ProducerCall.run_handOver (api : RtpPacketApi Packet) (sender : VideoSender)
    (call : ProducerCall) :
    call.run api sender = (sender.countBy call.items.length,
      (production api sender call.items).map (.onAddPacket ·.1) ++
        [call.handOver ((production api sender call.items).map Prod.snd)]) := by
  cases call with
  | sendVideoEncode imageTimestamp payloads =>
      simp [ProducerCall.run, Media.sendVideoEncode, sendVideoLoop_eq, ProducerCall.items,
        ProducerCall.handOver]
  | generatePadding now size =>
      simp [ProducerCall.run, Media.generatePadding, ProducerCall.items, ProducerCall.handOver,
        production, Item.produce, count_eq_countBy, addPacketToTransportFeedback]

/-! ## What has been registered since the last hand-over -/

theorem registeredOnce_handOver_iff (call : ProducerCall) (pending : List RtpPacketSendInfo)
    (actions : List (SendAction Packet)) (packets : List Packet) :
    RegisteredOnce api pending (actions ++ [call.handOver packets]) ↔
      RegisteredOnce api pending (actions ++ [.enqueuePacket packets]) := by
  induction actions generalizing pending with
  | nil => cases call <;> exact Iff.rfl
  | cons action actions ih =>
      cases action with
      | onAddPacket info => exact ih (pending ++ [info])
      | enqueuePacket handed => exact and_congr_right fun _ => ih []
      | returnPadding handed => exact and_congr_right fun _ => ih []

/-- A packet that is registered has to be handed over with the others. -/
theorem registeredOnce_register_last {pending : List RtpPacketSendInfo}
    {actions : List (SendAction Packet)} {packets : List Packet} {info : RtpPacketSendInfo}
    {packet : Packet}
    (hregistered : RegisteredOnce api pending (actions ++ [.enqueuePacket packets]))
    (hnumber : (api.view packet).transportSequenceNumber = some info.transportSequenceNumber) :
    RegisteredOnce api pending
      (actions ++ [.onAddPacket info] ++ [.enqueuePacket (packets ++ [packet])]) := by
  induction actions generalizing pending with
  | nil =>
      obtain ⟨hnumbers, -⟩ := hregistered
      exact ⟨by simp [hnumbers, hnumber], rfl⟩
  | cons action actions ih =>
      cases action with
      | onAddPacket other => exact ih hregistered
      | enqueuePacket handed => exact ⟨hregistered.1, ih hregistered.2⟩
      | returnPadding handed => exact ⟨hregistered.1, ih hregistered.2⟩

/-- Nothing is pending exactly when nothing could be handed over now. -/
theorem registeredOnce_idle_iff (pending : List RtpPacketSendInfo)
    (actions : List (SendAction Packet)) :
    RegisteredOnce api pending (actions ++ [.enqueuePacket []]) ↔
      RegisteredOnce api pending actions := by
  induction actions generalizing pending with
  | nil => cases pending <;> simp [RegisteredOnce]
  | cons action actions ih =>
      cases action with
      | onAddPacket info => exact ih (pending ++ [info])
      | enqueuePacket handed => exact and_congr_right fun _ => ih []
      | returnPadding handed => exact and_congr_right fun _ => ih []

end PeerConnection.Media

namespace PeerConnection.Connection

open PeerConnection.Media
open PeerConnection.Runs

/-! ## The controllers -/

/-- `RtpTransportControllerSend`, as far as the connection has called it. -/
structure SendController (Packet : Type) where
  actions : List (SendAction Packet) := []
  /-- The last `OnNetworkOk`. -/
  networkOk : Option Bool := none
  deriving DecidableEq, Repr

/-- A call with the packets that it has still to make and those that it has made. -/
structure CallUnderWay (Packet : Type) where
  call : ProducerCall
  items : List Item := call.items
  packets : List Packet := []
  deriving DecidableEq, Repr

structure PacedConnection (Packet : Type) where
  sender : VideoSender
  /-- The calls of the producers do not overlap. -/
  underWay : Option (CallUnderWay Packet) := none
  offerTasks : ℕ := 0
  transportSend : Option (SendController Packet) := none
  /-- The controllers before it. -/
  replaced : List (SendController Packet) := []
  /-- Which controller `rtp_rtcp_impl_` calls back. -/
  rtpRtcpImpl : Option ℕ := none
  iceState : Bool := false
  deriving DecidableEq, Repr

inductive PacedEvent where
  /-- `create_offer` posts its task; a section that sends draws new SSRCs. -/
  | createOffer (ssrcs : Option (UInt32 × UInt32))
  | serveOffer
  /-- `set_remote_sdp` has read the payload type of video. -/
  | readPayload (payloadType : UInt8)
  | iceTransportStateChanged (state : IceTransportState)
  | startCall (call : ProducerCall)
  /-- The call under way goes on until it has used `transport_send_` once more. -/
  | advance
  deriving DecidableEq, Repr

namespace PacedConnection

variable {Packet : Type}

def useTransportSend (connection : PacedConnection Packet)
    (use : SendController Packet → SendController Packet) :
    Except StartUpFault (PacedConnection Packet) :=
  match connection.transportSend with
  | none => .error (.null .transportSend)
  | some controller => .ok { connection with transportSend := some (use controller) }

def act (connection : PacedConnection Packet) (action : SendAction Packet) :
    Except StartUpFault (PacedConnection Packet) :=
  connection.useTransportSend fun controller =>
    { controller with actions := controller.actions ++ [action] }

def tellNetworkOk (connection : PacedConnection Packet) (ok : Bool) :
    Except StartUpFault (PacedConnection Packet) :=
  { connection with iceState := ok }.useTransportSend fun controller =>
    { controller with networkOk := some ok }

/-- `IceTransportStateChanged_n`. -/
def iceTransportStateChanged (connection : PacedConnection Packet) :
    IceTransportState → Except StartUpFault (PacedConnection Packet)
  | .completed => connection.tellNetworkOk true
  | .failed => connection.tellNetworkOk false
  | .init | .connecting => .ok connection

/-- The members that `create_offer` writes before it posts its task. -/
def createOffer (connection : PacedConnection Packet) :
    Option (UInt32 × UInt32) → PacedConnection Packet
  | none => { connection with offerTasks := connection.offerTasks + 1 }
  | some (ssrc, rtxSsrc) =>
      { connection with
        offerTasks := connection.offerTasks + 1
        sender := { connection.sender with
          localVideoSsrc := ssrc
          localVideoRtxSsrc := rtxSsrc } }

/-- The task of `create_offer`. -/
def serveOffer (connection : PacedConnection Packet) : Option (PacedConnection Packet) :=
  match connection.offerTasks with
  | 0 => none
  | remaining + 1 =>
      let replaced := connection.replaced ++ connection.transportSend.toList
      some { connection with
        offerTasks := remaining
        replaced := replaced
        transportSend := some {}
        rtpRtcpImpl := some replaced.length }

/-- One turn of the loop of `SendVideoEncode`, the packet of `GeneratePadding`, or the end of
either. -/
def advance (api : RtpPacketApi Packet) (connection : PacedConnection Packet)
    (underWay : CallUnderWay Packet) : Except StartUpFault (PacedConnection Packet) :=
  match underWay.items with
  | item :: items =>
      let (info, packet) := item.produce api connection.sender
      { connection with
        sender := connection.sender.count
        underWay := some
          { underWay with
            items := items
            packets := underWay.packets ++ [packet] } }.act (.onAddPacket info)
  | [] => { connection with underWay := none }.act (underWay.call.handOver underWay.packets)

end PacedConnection

def pacedStep {Packet : Type} (api : RtpPacketApi Packet) :
    System (PacedConnection Packet) PacedEvent StartUpFault := fun connection event =>
  match event with
  | .createOffer ssrcs => some (.ok (connection.createOffer ssrcs))
  | .serveOffer => connection.serveOffer.map .ok
  | .readPayload payloadType =>
      some (.ok { connection with sender := { connection.sender with videoPt := payloadType } })
  | .iceTransportStateChanged state => some (connection.iceTransportStateChanged state)
  | .startCall call =>
      if connection.underWay.isSome then none
      else some (.ok { connection with underWay := some { call := call } })
  | .advance => connection.underWay.map (connection.advance api)

namespace PacedConnection

variable {Packet : Type} {api : RtpPacketApi Packet} {connection next : PacedConnection Packet}

/-! ## Calls that nothing interrupts -/

/-- The induction is on the items that are left. -/
theorem run_advance_items (items : List Item) (underWay : CallUnderWay Packet)
    {controller : SendController Packet} (hunderWay : connection.underWay = some underWay)
    (hitems : underWay.items = items) (hcontroller : connection.transportSend = some controller) :
    run (pacedStep api) connection (List.replicate items.length .advance) =
      some (.ok { connection with
        sender := connection.sender.countBy items.length
        underWay := some
          { underWay with
            items := []
            packets := underWay.packets ++
              (production api connection.sender items).map Prod.snd }
        transportSend := some
          { controller with
            actions := controller.actions ++
              (production api connection.sender items).map (.onAddPacket ·.1) } }) := by
  induction items generalizing connection underWay controller with
  | nil =>
      obtain ⟨sender, current, offerTasks, transportSend, replaced, rtpRtcpImpl, iceState⟩ :=
        connection
      obtain ⟨call, left, packets⟩ := underWay
      obtain rfl : left = [] := hitems
      obtain rfl := hunderWay
      obtain rfl := hcontroller
      simp [production, countBy_zero]
  | cons item items ih =>
      have hcount : connection.sender.count.countBy items.length =
          connection.sender.countBy (items.length + 1) := by
        rw [count_eq_countBy, countBy_countBy, Nat.add_comm]
      have hstep : pacedStep api connection .advance = some (.ok
          { connection with
            sender := connection.sender.count
            underWay := some
              { underWay with
                items := items
                packets := underWay.packets ++ [(item.produce api connection.sender).2] }
            transportSend := some
              { controller with
                actions := controller.actions ++
                  [.onAddPacket (item.produce api connection.sender).1] } }) := by
        simp [pacedStep, hunderWay, advance, hitems, act, useTransportSend, hcontroller]
      rw [List.length_cons, List.replicate_succ, run_cons_of_ok hstep, ih _ rfl rfl rfl]
      simp [production, hcount]

/-- A call that goes through in one piece is `SendVideoEncode` or `GeneratePadding`. -/
theorem run_call {controller : SendController Packet} (call : ProducerCall)
    (hidle : connection.underWay = none)
    (hcontroller : connection.transportSend = some controller) :
    run (pacedStep api) connection
        (.startCall call :: List.replicate (call.items.length + 1) .advance) =
      some (.ok { connection with
        sender := (call.run api connection.sender).1
        transportSend := some
          { controller with
            actions := controller.actions ++ (call.run api connection.sender).2 } }) := by
  have hstart : pacedStep api connection (.startCall call) =
      some (.ok { connection with underWay := some { call := call } }) := by
    simp [pacedStep, hidle]
  have hregistered : run (pacedStep api)
      { connection with underWay := some { call := call } }
      (List.replicate call.items.length .advance) = _ :=
    run_advance_items call.items { call := call } rfl rfl hcontroller
  rw [List.replicate_succ', run_cons_of_ok hstart, run_append hregistered, call.run_handOver]
  simp [run, pacedStep, advance, act, useTransportSend, hidle]

/-! ## The controller in force -/

/-- The packets of the call under way that have been made and registered. -/
def madePackets (connection : PacedConnection Packet) : List Packet :=
  connection.underWay.elim [] (·.packets)

/-- Every controller has been handed exactly the packets that were registered with it, and
the one in force, which RTCP is reported to, knows the state of the network. -/
structure InForce (api : RtpPacketApi Packet) (connection : PacedConnection Packet) : Prop where
  replaced : ∀ controller ∈ connection.replaced, RegisteredOnce api [] controller.actions
  /-- If the call under way ended now, this would be true of its packets as well. -/
  current : ∀ controller ∈ connection.transportSend,
    RegisteredOnce api [] (controller.actions ++ [.enqueuePacket connection.madePackets])
  rtpRtcpImpl : connection.rtpRtcpImpl =
    connection.transportSend.map fun _ => connection.replaced.length
  network : ∀ controller ∈ connection.transportSend,
    controller.networkOk = some connection.iceState ∨
      controller.networkOk = none ∧ connection.iceState = false

/-- Nothing goes on without a controller. -/
def Waits (connection : PacedConnection Packet) : Prop :=
  connection.transportSend = none → connection.madePackets = [] ∧ connection.iceState = false

/-- The task of `create_offer` runs when ICE is not complete and no producer is between the
first packet that it registers and the hand-over. -/
def ReplacesIdle (connection : PacedConnection Packet) : PacedEvent → Prop
  | .serveOffer =>
      connection.offerTasks ≠ 0 → connection.madePackets = [] ∧ connection.iceState = false
  | _ => True

instance [DecidableEq Packet] (connection : PacedConnection Packet) :
    ∀ event, Decidable (connection.ReplacesIdle event)
  | .serveOffer =>
      inferInstanceAs (Decidable (connection.offerTasks ≠ 0 →
        connection.madePackets = [] ∧ connection.iceState = false))
  | .createOffer _ | .readPayload _ | .iceTransportStateChanged _ | .startCall _ | .advance =>
      .isTrue trivial

theorem useTransportSend_ok {use : SendController Packet → SendController Packet}
    (huse : connection.useTransportSend use = .ok next) :
    ∃ controller, connection.transportSend = some controller ∧
      next = { connection with transportSend := some (use controller) } := by
  rw [useTransportSend] at huse
  split at huse
  · exact absurd huse (by simp)
  case h_2 controller hcontroller =>
    exact ⟨controller, hcontroller, (Except.ok.inj huse).symm⟩

/-- What `use` has to keep of the controller in force. -/
theorem inForce_useTransportSend {changed : PacedConnection Packet}
    {use : SendController Packet → SendController Packet}
    (huse : changed.useTransportSend use = .ok next) (hinForce : InForce api connection)
    (hreplaced : changed.replaced = connection.replaced)
    (hrtpRtcpImpl : changed.rtpRtcpImpl = connection.rtpRtcpImpl)
    (hcurrent : changed.transportSend = connection.transportSend)
    (hactions : ∀ controller ∈ connection.transportSend, RegisteredOnce api []
      ((use controller).actions ++ [.enqueuePacket changed.madePackets]))
    (hnetwork : ∀ controller ∈ connection.transportSend,
      (use controller).networkOk = some changed.iceState ∨
        (use controller).networkOk = none ∧ changed.iceState = false) :
    InForce api next ∧ Waits next := by
  obtain ⟨controller, hcontroller, rfl⟩ := useTransportSend_ok huse
  rw [hcurrent] at hcontroller
  refine ⟨⟨?_, ?_, ?_, ?_⟩, fun hnone => absurd hnone (by simp)⟩
  · intro before hbefore
    exact hinForce.replaced before (hreplaced ▸ hbefore)
  · intro used hused
    obtain rfl := Option.some.inj hused
    exact hactions controller hcontroller
  · change changed.rtpRtcpImpl = some changed.replaced.length
    rw [hrtpRtcpImpl, hreplaced, hinForce.rtpRtcpImpl, hcontroller, Option.map_some]
  · intro used hused
    obtain rfl := Option.some.inj hused
    exact hnetwork controller hcontroller

/-- The network state is told to the controller in force. -/
theorem inForce_tellNetworkOk {ok : Bool} (hinForce : InForce api connection)
    (htell : connection.tellNetworkOk ok = .ok next) : InForce api next ∧ Waits next :=
  inForce_useTransportSend htell hinForce rfl rfl rfl hinForce.current fun _ _ => Or.inl rfl

/-- A packet is registered with the controller in force, or the call ends there. -/
theorem inForce_advance (hapi : api.Documented) {underWay : CallUnderWay Packet}
    (hinForce : InForce api connection) (hunderWay : connection.underWay = some underWay)
    (hadvance : connection.advance api underWay = .ok next) :
    InForce api next ∧ Waits next := by
  have hmade : connection.madePackets = underWay.packets := by
    rw [madePackets, hunderWay, Option.elim_some]
  have hcurrent : ∀ controller ∈ connection.transportSend, RegisteredOnce api []
      (controller.actions ++ [.enqueuePacket underWay.packets]) := hmade ▸ hinForce.current
  rw [advance] at hadvance
  split at hadvance
  case h_1 item items hitems =>
    have hnumber : (api.view (item.produce api connection.sender).2).transportSequenceNumber =
        some (item.produce api connection.sender).1.transportSequenceNumber := by
      rw [(view_produce hapi connection.sender item).2.2, produce_transportSequenceNumber]
    refine inForce_useTransportSend hadvance hinForce rfl rfl rfl ?_ hinForce.network
    intro controller hcontroller
    exact registeredOnce_register_last (hcurrent controller hcontroller) hnumber
  case h_2 hitems =>
    refine inForce_useTransportSend hadvance hinForce rfl rfl rfl ?_ hinForce.network
    intro controller hcontroller
    refine (registeredOnce_idle_iff [] _).mpr ?_
    exact (registeredOnce_handOver_iff underWay.call [] _ _).mpr (hcurrent controller hcontroller)

theorem serveOffer_eq_some (hserve : connection.serveOffer = some next) :
    connection.offerTasks ≠ 0 ∧
      next = { connection with
        offerTasks := connection.offerTasks - 1
        replaced := connection.replaced ++ connection.transportSend.toList
        transportSend := some {}
        rtpRtcpImpl :=
          some (connection.replaced ++ connection.transportSend.toList).length } := by
  rw [serveOffer] at hserve
  split at hserve
  · exact absurd hserve (by simp)
  case h_2 remaining htasks =>
    obtain rfl := Option.some.inj hserve
    exact ⟨by simp [htasks], by simp [htasks]⟩

/-- The new controller is in force exactly when the old one was idle. -/
theorem inForce_serveOffer_iff (hinForce : InForce api connection)
    (hserve : connection.serveOffer = some next) :
    InForce api next ↔ ReplacesIdle connection .serveOffer := by
  obtain ⟨htasks, rfl⟩ := serveOffer_eq_some hserve
  constructor
  · rintro hnext -
    obtain ⟨hnumbers, -⟩ := hnext.current {} rfl
    refine ⟨List.map_eq_nil_iff.mp hnumbers, ?_⟩
    exact (hnext.network {} rfl).elim (fun hsome => absurd hsome (by simp)) And.right
  · intro hidle
    obtain ⟨hmade, hice⟩ := hidle htasks
    refine ⟨?_, ?_, rfl, ?_⟩
    · intro controller hmem
      rcases List.mem_append.mp hmem with hbefore | hcurrent
      · exact hinForce.replaced controller hbefore
      · have hlast := hinForce.current controller (Option.mem_toList.mp hcurrent)
        rw [hmade] at hlast
        exact (registeredOnce_idle_iff [] _).mp hlast
    · intro controller hcontroller
      obtain rfl := Option.some.inj hcontroller
      have hnone : ([] : List (Option UInt16)) = connection.madePackets.map
          fun packet => (api.view packet).transportSequenceNumber := by
        rw [hmade, List.map_nil]
      exact ⟨hnone.symm, rfl⟩
    · intro controller hcontroller
      obtain rfl := Option.some.inj hcontroller
      exact Or.inr ⟨rfl, hice⟩

theorem waits_serveOffer (hserve : connection.serveOffer = some next) : Waits next := by
  obtain ⟨-, rfl⟩ := serveOffer_eq_some hserve
  exact fun hnone => absurd hnone (by simp)

/-- A step that replaces no busy controller keeps the one in force. -/
theorem inForce_step {event : PacedEvent} (hapi : api.Documented)
    (hinv : InForce api connection ∧ Waits connection) (hidle : ReplacesIdle connection event)
    (hstep : pacedStep api connection event = some (.ok next)) :
    InForce api next ∧ Waits next := by
  obtain ⟨hinForce, hwaits⟩ := hinv
  cases event with
  | createOffer ssrcs =>
      obtain rfl := Except.ok.inj (Option.some.inj hstep)
      cases ssrcs <;>
        exact ⟨⟨hinForce.replaced, hinForce.current, hinForce.rtpRtcpImpl, hinForce.network⟩,
          hwaits⟩
  | serveOffer =>
      obtain ⟨served, hserved, hnext⟩ := Option.map_eq_some_iff.mp hstep
      obtain rfl := Except.ok.inj hnext
      exact ⟨(inForce_serveOffer_iff hinForce hserved).mpr hidle, waits_serveOffer hserved⟩
  | readPayload payloadType =>
      obtain rfl := Except.ok.inj (Option.some.inj hstep)
      exact ⟨⟨hinForce.replaced, hinForce.current, hinForce.rtpRtcpImpl, hinForce.network⟩,
        hwaits⟩
  | iceTransportStateChanged state =>
      have htold := Option.some.inj hstep
      cases state with
      | init => exact Except.ok.inj htold ▸ ⟨hinForce, hwaits⟩
      | connecting => exact Except.ok.inj htold ▸ ⟨hinForce, hwaits⟩
      | completed => exact inForce_tellNetworkOk hinForce htold
      | failed => exact inForce_tellNetworkOk hinForce htold
  | startCall call =>
      rw [pacedStep] at hstep
      split_ifs at hstep with hbusy
      obtain rfl := Except.ok.inj (Option.some.inj hstep)
      have hmade : connection.madePackets = [] := by
        rw [madePackets, Option.not_isSome_iff_eq_none.mp hbusy, Option.elim_none]
      refine ⟨⟨hinForce.replaced, ?_, hinForce.rtpRtcpImpl, hinForce.network⟩,
        fun hnone => ⟨rfl, (hwaits hnone).2⟩⟩
      intro controller hcontroller
      have hcurrent := hinForce.current controller hcontroller
      rwa [hmade] at hcurrent
  | advance =>
      obtain ⟨underWay, hunderWay, hadvance⟩ := Option.map_eq_some_iff.mp hstep
      exact inForce_advance hapi hinForce hunderWay hadvance

/-- From the constructor on, in whatever order calls, tasks and events come: the controller
in force is the one that knows all packets and the network exactly as long as none is made
while ICE is complete or a producer is at work. -/
theorem inForce_iff_replacesIdle (hapi : api.Documented) (sender : VideoSender)
    (events : List PacedEvent) :
    Throughout (pacedStep api) (InForce api) { sender := sender } events ↔
      Guarded (pacedStep api) ReplacesIdle { sender := sender } events := by
  have hstart : InForce api ({ sender := sender } : PacedConnection Packet) :=
    ⟨by simp, by simp, rfl, by simp⟩
  refine guarded_iff_throughout (fun _ _ _ hinv hidle => inForce_step hapi hinv hidle)
    (fun _ hinv => hinv.1) ?_ ⟨hstart, fun _ => ⟨rfl, rfl⟩⟩ events
  intro connection event hinv hbusy
  cases event with
  | serveOffer =>
      obtain ⟨next, hserved⟩ : ∃ next, connection.serveOffer = some next := by
        rw [serveOffer]
        split
        case h_1 htasks => exact absurd (fun hsome => absurd htasks hsome) hbusy
        case h_2 => exact ⟨_, rfl⟩
      refine ⟨next, Option.map_eq_some_iff.mpr ⟨next, hserved, rfl⟩, fun hnext => hbusy ?_⟩
      exact (inForce_serveOffer_iff hinv.1 hserved).mp hnext
  | _ => exact absurd trivial hbusy

/-- A second offer while a frame of two packets goes out. -/
def offerDuringFrame : List PacedEvent :=
  [.createOffer (some (1, 2)), .serveOffer, .iceTransportStateChanged .completed,
    .startCall (.sendVideoEncode 1 [⟨[1], false⟩, ⟨[2], true⟩]), .advance,
    .createOffer none, .serveOffer, .advance, .advance]

/-- The first packet has been registered with the controller before, the new one is handed
both, and it never hears of the network. -/
theorem inForce_iff_replacesIdle_offerDuringFrame :
    ¬ Throughout (pacedStep plainApi) (InForce plainApi) { sender := sampleSender }
        offerDuringFrame ∧
      Throughout (pacedStep plainApi) (InForce plainApi) { sender := sampleSender }
        (offerDuringFrame.take 6) := by
  have hexact := inForce_iff_replacesIdle plainApi_documented sampleSender
  exact ⟨(hexact _).not.mpr (by decide +kernel), (hexact _).mpr (by decide +kernel)⟩

end PacedConnection

end PeerConnection.Connection
