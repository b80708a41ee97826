import PeerConnection.Media.Packets

/-!
# Numbers and sizes over a run

Every packet takes one value of the RTP counter and one of the transport-wide
counter.  The transport-wide numbers agree with the registrations over any run.
Media and padding share the RTP counter but not the SSRC, and padding grows after
it has been registered, so the other two properties need conditions on the run.
-/

namespace PeerConnection.Media

open PeerConnection.Counters

/-! ## Runs of the producers -/

inductive ProducerCall where
  | sendVideoEncode (imageTimestamp : UInt32) (payloads : List Payload)
  | generatePadding (now : UInt32) (size : ℕ)
  deriving DecidableEq, Repr

section Runs

variable {Packet : Type} (api : RtpPacketApi Packet)

def ProducerCall.run (sender : VideoSender) :
    ProducerCall → VideoSender × List (SendAction Packet)
  | .sendVideoEncode imageTimestamp payloads =>
      Media.sendVideoEncode api sender imageTimestamp payloads
  | .generatePadding now size => Media.generatePadding api sender now size

/-- The calls one after the other. -/
def runCalls : VideoSender → List ProducerCall → VideoSender × List (SendAction Packet)
  | sender, [] => (sender, [])
  | sender, call :: calls =>
      let (next, actions) := call.run api sender
      let (final, later) := runCalls next calls
      (final, actions ++ later)

/-- What has been registered. -/
def registrations (actions : List (SendAction Packet)) : List RtpPacketSendInfo :=
  actions.flatMap fun
    | .onAddPacket info => [info]
    | _ => []

/-- The packets that have gone to the pacer. -/
def handedOver (actions : List (SendAction Packet)) : List Packet :=
  actions.flatMap fun
    | .onAddPacket _ => []
    | .enqueuePacket packets => packets
    | .returnPadding packets => packets

/-! ## One packet at a time -/

/-- What one packet is made from. -/
inductive Item where
  | video (timestamp : UInt32) (payload : Payload)
  | padding (now : UInt32) (size : ℕ)
  deriving DecidableEq, Repr

/-- The items of a call, in the order in which it makes its packets. -/
def ProducerCall.items : ProducerCall → List Item
  | .sendVideoEncode imageTimestamp payloads =>
      payloads.map (.video (imageTimestamp * 90))
  | .generatePadding now size => [.padding now size]

def Item.ssrc (sender : VideoSender) : Item → UInt32
  | .video _ _ => sender.localVideoSsrc
  | .padding _ _ => sender.localVideoRtxSsrc

/-- The registration of an item and the packet that goes to the pacer. -/
def Item.produce (sender : VideoSender) : Item → RtpPacketSendInfo × Packet
  | .video timestamp payload =>
      let packet := numberVideoPacket api sender <|
        api.writePayload payload (emptyVideoPacket api sender timestamp)
      (sendInfo api sender.transportSeq packet, packet)
  | .padding now size =>
      let packet := paddingPacket api sender now
      (sendInfo api sender.transportSeq packet, api.setPadding size packet)

/-- Each item is produced with the next value of both counters. -/
def production : VideoSender → List Item → List (RtpPacketSendInfo × Packet)
  | _, [] => []
  | sender, item :: items => item.produce api sender :: production sender.count items

def VideoSender.countBy (sender : VideoSender) (packets : ℕ) : VideoSender :=
  { sender with
    videoSeq := sender.videoSeq + UInt16.ofNat packets
    transportSeq := sender.transportSeq + UInt16.ofNat packets }

end Runs

section Production

variable {Packet : Type} {api : RtpPacketApi Packet}

theorem countBy_zero (sender : VideoSender) : sender.countBy 0 = sender := by
  simp [VideoSender.countBy]

theorem countBy_countBy (sender : VideoSender) (front back : ℕ) :
    (sender.countBy front).countBy back = sender.countBy (front + back) := by
  simp [VideoSender.countBy, UInt16.ofNat_add, add_assoc]

theorem count_eq_countBy (sender : VideoSender) : sender.count = sender.countBy 1 := rfl

@[simp]
theorem length_production (sender : VideoSender) (items : List Item) :
    (production api sender items).length = items.length := by
  induction items generalizing sender with
  | nil => rfl
  | cons item items ih => simp [production, ih]

theorem production_append (sender : VideoSender) (front back : List Item) :
    production api sender (front ++ back) =
      production api sender front ++ production api (sender.countBy front.length) back := by
  induction front generalizing sender with
  | nil => simp [production, countBy_zero]
  | cons item front ih =>
      have hcount : sender.count.countBy front.length = sender.countBy (front.length + 1) := by
        rw [count_eq_countBy, countBy_countBy, Nat.add_comm]
      simp [production, ih, hcount]

/-- The loop of `SendVideoEncode` registers and collects one packet per payload. -/
theorem sendVideoLoop_eq (timestamp : UInt32) (sender : VideoSender)
    (payloads : List Payload) :
    sendVideoLoop api timestamp sender payloads =
      (sender.countBy payloads.length,
        (production api sender (payloads.map (.video timestamp))).map (.onAddPacket ·.1),
        (production api sender (payloads.map (.video timestamp))).map Prod.snd) := by
  induction payloads generalizing sender with
  | nil => simp [sendVideoLoop, production, countBy_zero]
  | cons payload payloads ih =>
      have hcount : sender.count.countBy payloads.length =
          sender.countBy (payloads.length + 1) := by
        rw [count_eq_countBy, countBy_countBy, Nat.add_comm]
      simp [sendVideoLoop, production, ih, hcount, addPacketToTransportFeedback, Item.produce]

/-- A call registers its items one by one and then hands them over together. -/
theorem ProducerCall.run_eq (api : RtpPacketApi Packet) (sender : VideoSender)
    (call : ProducerCall) :
    ∃ handOver : List Packet → SendAction Packet,
      (handOver = .enqueuePacket ∨ handOver = .returnPadding) ∧
      call.run api sender = (sender.countBy call.items.length,
        (production api sender call.items).map (.onAddPacket ·.1) ++
          [handOver ((production api sender call.items).map Prod.snd)]) := by
  cases call with
  | sendVideoEncode imageTimestamp payloads =>
      refine ⟨.enqueuePacket, Or.inl rfl, ?_⟩
      simp [ProducerCall.run, Media.sendVideoEncode, sendVideoLoop_eq, ProducerCall.items]
  | generatePadding now size =>
      refine ⟨.returnPadding, Or.inr rfl, ?_⟩
      simp [ProducerCall.run, Media.generatePadding, ProducerCall.items, production, Item.produce,
        count_eq_countBy, addPacketToTransportFeedback]

theorem registrations_append (front back : List (SendAction Packet)) :
    registrations (front ++ back) = registrations front ++ registrations back :=
  List.flatMap_append

theorem handedOver_append (front back : List (SendAction Packet)) :
    handedOver (front ++ back) = handedOver front ++ handedOver back :=
  List.flatMap_append

/-- What a call registers and what it hands over. -/
theorem registrations_call (produced : List (RtpPacketSendInfo × Packet))
    {handOver : List Packet → SendAction Packet}
    (hkind : handOver = .enqueuePacket ∨ handOver = .returnPadding) :
    registrations (produced.map (.onAddPacket ·.1) ++ [handOver (produced.map Prod.snd)]) =
        produced.map Prod.fst ∧
      handedOver (produced.map (.onAddPacket ·.1) ++ [handOver (produced.map Prod.snd)]) =
        produced.map Prod.snd := by
  rcases hkind with rfl | rfl <;>
    simp [registrations, handedOver, List.flatMap_map, ← List.map_eq_flatMap]

/-- A run produces the items of its calls with successive values of the counters. -/
theorem runCalls_eq (api : RtpPacketApi Packet) (sender : VideoSender) (calls : List ProducerCall) :
    (runCalls api sender calls).1 = sender.countBy (calls.flatMap ProducerCall.items).length ∧
      registrations (runCalls api sender calls).2 =
        (production api sender (calls.flatMap ProducerCall.items)).map Prod.fst ∧
      handedOver (runCalls api sender calls).2 =
        (production api sender (calls.flatMap ProducerCall.items)).map Prod.snd := by
  induction calls generalizing sender with
  | nil => simp [runCalls, registrations, handedOver, production, countBy_zero]
  | cons call calls ih =>
      obtain ⟨handOver, hkind, hcall⟩ := call.run_eq api sender
      obtain ⟨hfinal, hregistered, hhanded⟩ := ih (sender.countBy call.items.length)
      obtain ⟨hcallRegistered, hcallHanded⟩ :=
        registrations_call (production api sender call.items) hkind
      have hrun : runCalls api sender (call :: calls) =
          ((runCalls api (sender.countBy call.items.length) calls).1,
            (production api sender call.items).map (.onAddPacket ·.1) ++
              [handOver ((production api sender call.items).map Prod.snd)] ++
              (runCalls api (sender.countBy call.items.length) calls).2) := by
        simp only [runCalls, hcall]
      rw [hrun, List.flatMap_cons, production_append, List.map_append, List.map_append,
        registrations_append, handedOver_append, hcallRegistered, hcallHanded, hfinal,
        hregistered, hhanded, countBy_countBy, List.length_append]
      exact ⟨rfl, rfl, rfl⟩

end Production

/-! ## What the packets carry -/

section Views

variable {Packet : Type} {api : RtpPacketApi Packet}

/-- The size of a packet with its extension and nothing else. -/
def headerSize (api : RtpPacketApi Packet) : ℕ :=
  (api.view api.create).size + api.extensionSize

theorem view_emptyVideoPacket (hapi : api.Documented) (sender : VideoSender)
    (timestamp : UInt32) :
    api.view (emptyVideoPacket api sender timestamp) =
      { api.view api.create with
        payloadType := sender.videoPt
        timestamp := timestamp
        ssrc := sender.localVideoSsrc
        transportSequenceNumber := some 0
        size := headerSize api } := by
  have hbefore := hapi.create
  rw [emptyVideoPacket, hapi.reserveExtension] <;>
    simp [hapi.setSsrc, hapi.setTimestamp, hapi.setPayloadType, hbefore, headerSize]

theorem view_numberVideoPacket (hapi : api.Documented) (sender : VideoSender)
    (timestamp : UInt32) (payload : Payload) :
    api.view (numberVideoPacket api sender
        (api.writePayload payload (emptyVideoPacket api sender timestamp))) =
      { api.view api.create with
        payloadType := sender.videoPt
        timestamp := timestamp
        ssrc := sender.localVideoSsrc
        sequenceNumber := sender.videoSeq
        marker := payload.marker
        packetType := some .video
        transportSequenceNumber := some sender.transportSeq
        size := headerSize api + payload.bytes.length } := by
  rw [numberVideoPacket, hapi.setExtension] <;>
    simp [hapi.setPacketType, hapi.setSequenceNumber, hapi.writePayload,
      view_emptyVideoPacket hapi]

theorem view_paddingPacket (hapi : api.Documented) (sender : VideoSender) (now : UInt32) :
    api.view (paddingPacket api sender now) =
      { api.view api.create with
        payloadType := sender.videoRtxPt
        timestamp := now
        ssrc := sender.localVideoRtxSsrc
        sequenceNumber := sender.videoSeq
        marker := false
        packetType := some .padding
        transportSequenceNumber := some sender.transportSeq
        size := headerSize api } := by
  have hbefore := hapi.create
  have hreserved : api.view (api.reserveExtension <| api.setMarker false <|
      api.setSsrc sender.localVideoRtxSsrc <| api.setTimestamp now <|
        api.setPayloadType sender.videoRtxPt api.create) =
      { api.view api.create with
        payloadType := sender.videoRtxPt
        timestamp := now
        ssrc := sender.localVideoRtxSsrc
        marker := false
        transportSequenceNumber := some 0
        size := headerSize api } := by
    rw [hapi.reserveExtension] <;>
      simp [hapi.setMarker, hapi.setSsrc, hapi.setTimestamp, hapi.setPayloadType, hbefore,
        headerSize]
  rw [paddingPacket, hapi.setExtension] <;>
    simp [hapi.setPacketType, hapi.setSequenceNumber, hreserved]

/-- Padding changes the size only. -/
theorem view_setPadding (hapi : api.Documented) (size : ℕ) (packet : Packet) :
    ∃ grown, api.view (api.setPadding size packet) = { api.view packet with size := grown } := by
  rw [hapi.setPadding]
  split_ifs
  · exact ⟨_, rfl⟩
  · exact ⟨_, rfl⟩

/-- What the receiver reads from an item's packet. -/
theorem view_produce (hapi : api.Documented) (sender : VideoSender) (item : Item) :
    (api.view (item.produce api sender).2).ssrc = item.ssrc sender ∧
      (api.view (item.produce api sender).2).sequenceNumber = sender.videoSeq ∧
      (api.view (item.produce api sender).2).transportSequenceNumber =
        some sender.transportSeq := by
  cases item with
  | video timestamp payload =>
      simp [Item.produce, view_numberVideoPacket hapi, Item.ssrc]
  | padding now size =>
      obtain ⟨grown, hgrown⟩ := view_setPadding hapi size (paddingPacket api sender now)
      simp [Item.produce, hgrown, view_paddingPacket hapi, Item.ssrc]

theorem sendInfo_transportSequenceNumber (transportSeq : UInt16) (packet : Packet) :
    (sendInfo api transportSeq packet).transportSequenceNumber = transportSeq := by
  rw [sendInfo]
  split <;> rfl

theorem sendInfo_length (transportSeq : UInt16) (packet : Packet) :
    (sendInfo api transportSeq packet).length = (api.view packet).size := by
  rw [sendInfo]
  split <;> rfl

theorem produce_transportSequenceNumber (sender : VideoSender) (item : Item) :
    (item.produce api sender).1.transportSequenceNumber = sender.transportSeq := by
  cases item <;> exact sendInfo_transportSequenceNumber _ _

end Views

/-! ## Transport-wide numbers -/

section TransportNumbers

variable {Packet : Type}

/-- Each hand-over hands over exactly the packets registered since the last one, in
their order, each under the number that its extension carries. -/
def RegisteredOnce (api : RtpPacketApi Packet) :
    List RtpPacketSendInfo → List (SendAction Packet) → Prop
  | pending, [] => pending = []
  | pending, .onAddPacket info :: actions => RegisteredOnce api (pending ++ [info]) actions
  | pending, .enqueuePacket packets :: actions
  | pending, .returnPadding packets :: actions =>
      packets.map (fun packet => (api.view packet).transportSequenceNumber) =
          pending.map (fun info => some info.transportSequenceNumber) ∧
        RegisteredOnce api [] actions

variable {api : RtpPacketApi Packet}

theorem registeredOnce_register (pending infos : List RtpPacketSendInfo)
    (actions : List (SendAction Packet)) :
    RegisteredOnce api pending (infos.map .onAddPacket ++ actions) ↔
      RegisteredOnce api (pending ++ infos) actions := by
  induction infos generalizing pending with
  | nil => simp
  | cons info infos ih => simp [RegisteredOnce, ih]

theorem map_production (hapi : api.Documented) (sender : VideoSender) (items : List Item) :
    (production api sender items).map
        (fun produced => (api.view produced.2).transportSequenceNumber) =
      (production api sender items).map
        (fun produced => some produced.1.transportSequenceNumber) := by
  induction items generalizing sender with
  | nil => rfl
  | cons item items ih =>
      simp [production, (view_produce hapi sender item).2.2,
        produce_transportSequenceNumber, ih]

theorem registeredOnce_runCalls (hapi : api.Documented) (sender : VideoSender)
    (calls : List ProducerCall) : RegisteredOnce api [] (runCalls api sender calls).2 := by
  induction calls generalizing sender with
  | nil => rfl
  | cons call calls ih =>
      obtain ⟨handOver, hkind, hcall⟩ := call.run_eq api sender
      have hregister : (production api sender call.items).map
          (fun produced => (.onAddPacket produced.1 : SendAction Packet)) =
          ((production api sender call.items).map Prod.fst).map .onAddPacket := by
        simp
      have hnumbers := map_production hapi sender call.items
      simp only [runCalls, hcall, hregister, List.append_assoc, registeredOnce_register]
      rcases hkind with rfl | rfl <;>
        exact ⟨by simpa [Function.comp_def] using hnumbers, ih _⟩

theorem numbers_production (sender : VideoSender) (items : List Item) :
    (production api sender items).map (fun produced => produced.1.transportSequenceNumber) =
      (numbered sender.transportSeq items).map Prod.snd := by
  induction items generalizing sender with
  | nil => rfl
  | cons item items ih => simp [production, produce_transportSequenceNumber, ih,
      VideoSender.count]

/-- Every packet is registered once before it goes to the pacer, under the number in
its extension; the numbers are consecutive over the run; and the counter has moved by
the number of packets. -/
theorem transportNumbers_run (hapi : api.Documented) (sender : VideoSender)
    (calls : List ProducerCall) :
    RegisteredOnce api [] (runCalls api sender calls).2 ∧
      Consecutive ((registrations (runCalls api sender calls).2).map
        (·.transportSequenceNumber)) ∧
      (∀ info ∈ (registrations (runCalls api sender calls).2).head?,
        info.transportSequenceNumber = sender.transportSeq) ∧
      (runCalls api sender calls).1.transportSeq = sender.transportSeq +
        UInt16.ofNat (handedOver (runCalls api sender calls).2).length := by
  obtain ⟨hfinal, hregistered, hhanded⟩ := runCalls_eq api sender calls
  refine ⟨registeredOnce_runCalls hapi sender calls, ?_, ?_, ?_⟩
  · rw [hregistered, List.map_map]
    exact (numbers_production sender _).symm ▸ consecutive_numbered _ _
  · rw [hregistered]
    rcases calls.flatMap ProducerCall.items with _ | ⟨item, items⟩
    · simp [production]
    · simp [production, produce_transportSequenceNumber]
  · rw [hfinal, hhanded, List.length_map, length_production]
    rfl

end TransportNumbers

/-- Two frames around a packet of padding. -/
def mixedCalls : List ProducerCall :=
  [.sendVideoEncode 1 [⟨[1, 2, 3], true⟩], .generatePadding 5 100,
    .sendVideoEncode 2 [⟨[4, 5], false⟩, ⟨[6], true⟩]]

def sampleSender : VideoSender where
  localVideoSsrc := 1
  localVideoRtxSsrc := 2
  videoPt := 107
  videoRtxPt := 99

theorem transportNumbers_mixedCalls :
    RegisteredOnce plainApi [] (runCalls plainApi sampleSender mixedCalls).2 ∧
      Consecutive ((registrations (runCalls plainApi sampleSender mixedCalls).2).map
        (·.transportSequenceNumber)) ∧
      (∀ info ∈ (registrations (runCalls plainApi sampleSender mixedCalls).2).head?,
        info.transportSequenceNumber = sampleSender.transportSeq) ∧
      (runCalls plainApi sampleSender mixedCalls).1.transportSeq =
        sampleSender.transportSeq + UInt16.ofNat
          (handedOver (runCalls plainApi sampleSender mixedCalls).2).length :=
  transportNumbers_run plainApi_documented sampleSender mixedCalls

/-! ## RTP numbers of one SSRC -/

section RtpNumbers

variable {Packet : Type}

/-- The SSRCs of the packets of a run, in the order of production. -/
def producedSsrcs (sender : VideoSender) (calls : List ProducerCall) : List UInt32 :=
  (calls.flatMap ProducerCall.items).map (Item.ssrc sender)

/-- The packets with one SSRC are numbered without gap or repetition. -/
def RtpNumbersConsecutive (api : RtpPacketApi Packet) (packets : List Packet) : Prop :=
  ∀ ssrc, Consecutive (stream ssrc (packets.map fun packet =>
    ((api.view packet).ssrc, (api.view packet).sequenceNumber)))

variable {api : RtpPacketApi Packet}

theorem rtpNumbers_production (hapi : api.Documented) (sender : VideoSender)
    (items : List Item) :
    (production api sender items).map (fun produced =>
        ((api.view produced.2).ssrc, (api.view produced.2).sequenceNumber)) =
      numbered sender.videoSeq (items.map (Item.ssrc sender)) := by
  induction items generalizing sender with
  | nil => rfl
  | cons item items ih =>
      obtain ⟨hssrc, hsequence, _⟩ := view_produce hapi sender item
      have hcount : Item.ssrc sender.count = Item.ssrc sender := by
        funext other
        cases other <;> rfl
      simp only [production, List.map_cons, hssrc, hsequence, ih, hcount, numbered_cons]
      rfl

/-- The packets of each SSRC have consecutive numbers exactly when between two of them
the packets of the other SSRC fill whole turns of the counter. -/
theorem rtpNumbers_iff (hapi : api.Documented) (sender : VideoSender)
    (calls : List ProducerCall) :
    RtpNumbersConsecutive api (handedOver (runCalls api sender calls).2) ↔
      WholeTurns (producedSsrcs sender calls) := by
  obtain ⟨_, _, hhanded⟩ := runCalls_eq api sender calls
  have hnumbers := rtpNumbers_production hapi sender (calls.flatMap ProducerCall.items)
  rw [RtpNumbersConsecutive, hhanded, List.map_map]
  simp only [Function.comp_def, hnumbers]
  exact consecutive_streams_iff

theorem rtpNumbers_mixedCalls :
    RtpNumbersConsecutive plainApi (handedOver (runCalls plainApi sampleSender mixedCalls).2) ↔
      WholeTurns (producedSsrcs sampleSender mixedCalls) :=
  rtpNumbers_iff plainApi_documented sampleSender mixedCalls

/-- The number that the padding takes is missing between the two frames. -/
theorem mixedCalls_gap :
    ¬ RtpNumbersConsecutive plainApi
        (handedOver (runCalls plainApi sampleSender mixedCalls).2) := by
  intro hconsecutive
  have hmedia := hconsecutive 1
  revert hmedia
  decide

end RtpNumbers

/-! ## Sizes -/

section Sizes

variable {Packet : Type}

/-- Each packet has been registered with the length that `SendPacket` sends. -/
def SizesAgree (api : RtpPacketApi Packet) (actions : List (SendAction Packet)) : Prop :=
  List.Forall₂ (fun info packet => info.length = sendPacketLength api packet)
    (registrations actions) (handedOver actions)

/-- A request for padding that adds nothing: it asks for none, or for more than the
packet has room for. -/
def AddsNothing (api : RtpPacketApi Packet) : ProducerCall → Prop
  | .sendVideoEncode _ _ => True
  | .generatePadding _ size => size = 0 ∨ api.paddingFits (headerSize api) size = false

variable {api : RtpPacketApi Packet}

/-- The size of an item's packet is the one it has been registered with exactly when
the item has no padding to add. -/
theorem length_produce_iff (hapi : api.Documented) (sender : VideoSender) (item : Item) :
    (item.produce api sender).1.length = sendPacketLength api (item.produce api sender).2 ↔
      ∀ now size, item = .padding now size →
        size = 0 ∨ api.paddingFits (headerSize api) size = false := by
  cases item with
  | video timestamp payload =>
      refine iff_of_true (sendInfo_length _ _) ?_
      rintro now size hitem
      exact absurd hitem (by simp)
  | padding now size =>
      simp only [Item.produce, sendInfo_length, sendPacketLength, hapi.setPadding,
        view_paddingPacket hapi, Item.padding.injEq]
      constructor
      · rintro hsame _ _ ⟨rfl, rfl⟩
        split_ifs at hsame with hfits
        · exact Or.inl (by simpa using hsame)
        · exact Or.inr (by simpa using hfits)
      · intro hnothing
        rcases hnothing now size ⟨rfl, rfl⟩ with rfl | hfits
        · split_ifs <;> rfl
        · rw [if_neg (by simp [hfits])]

theorem forall₂_production (sender : VideoSender) (items : List Item)
    (hapi : api.Documented) :
    List.Forall₂ (fun info packet => info.length = sendPacketLength api packet)
        ((production api sender items).map Prod.fst)
        ((production api sender items).map Prod.snd) ↔
      ∀ item ∈ items, ∀ now size, item = .padding now size →
        size = 0 ∨ api.paddingFits (headerSize api) size = false := by
  induction items generalizing sender with
  | nil => simp [production]
  | cons item items ih =>
      simp only [production, List.map_cons, List.forall₂_cons, ih, List.forall_mem_cons,
        length_produce_iff hapi]

/-- Registered and sent lengths agree exactly when no request adds padding. -/
theorem sizesAgree_iff (hapi : api.Documented) (sender : VideoSender)
    (calls : List ProducerCall) :
    SizesAgree api (runCalls api sender calls).2 ↔ ∀ call ∈ calls, AddsNothing api call := by
  obtain ⟨_, hregistered, hhanded⟩ := runCalls_eq api sender calls
  rw [SizesAgree, hregistered, hhanded, forall₂_production _ _ hapi, List.forall_mem_flatMap]
  refine forall₂_congr fun call _ => ?_
  cases call with
  | sendVideoEncode imageTimestamp payloads => simp [ProducerCall.items, AddsNothing]
  | generatePadding now size => simp [ProducerCall.items, AddsNothing]

theorem sizesAgree_mixedCalls :
    SizesAgree plainApi (runCalls plainApi sampleSender mixedCalls).2 ↔
      ∀ call ∈ mixedCalls, AddsNothing plainApi call :=
  sizesAgree_iff plainApi_documented sampleSender mixedCalls

/-- A packet of 100 bytes of padding is registered with its 20 bytes of header. -/
theorem mixedCalls_sizes_disagree :
    ¬ SizesAgree plainApi (runCalls plainApi sampleSender mixedCalls).2 := by
  intro hagree
  have hsizes : (registrations (runCalls plainApi sampleSender mixedCalls).2).map (·.length) =
      (handedOver (runCalls plainApi sampleSender mixedCalls).2).map
        (sendPacketLength plainApi) := by
    have hmapped := List.forall₂_map_left_iff.mpr (List.forall₂_map_right_iff.mpr hagree)
    exact List.forall₂_eq_eq_eq ▸ hmapped
  revert hsizes
  decide

end Sizes

end PeerConnection.Media
