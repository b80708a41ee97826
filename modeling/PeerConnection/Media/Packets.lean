import PeerConnection.Core.Counters
import PeerConnection.Core.Text

/-!
# The packets of the video stream

`SendVideoEncode` makes one packet for each payload of the packetizer, and
`GeneratePadding` makes one packet of padding.  Both number their packets, register
them with the congestion controller through `AddPacketToTransportFeedback`, and hand
them to the pacer.  The class of the packets itself is not part of this repository.
-/

namespace PeerConnection.Media

open PeerConnection.Text
open PeerConnection.Counters

/-! ## Packets -/

inductive RtpPacketMediaType where
  | audio
  | video
  | retransmission
  | forwardErrorCorrection
  | padding
  deriving DecidableEq, Repr

/-- What can be read from a packet. -/
structure RtpPacketView where
  payloadType : UInt8 := 0
  timestamp : UInt32 := 0
  ssrc : UInt32 := 0
  sequenceNumber : UInt16 := 0
  marker : Bool := false
  packetType : Option RtpPacketMediaType := none
  /-- The value of the `TransportSequenceNumber` extension, when it is there. -/
  transportSequenceNumber : Option UInt16 := none
  size : ℕ
  deriving DecidableEq, Repr

/-- What one `NextPacket` of the packetizer puts into a packet. -/
structure Payload where
  bytes : Bytes
  marker : Bool
  deriving DecidableEq, Repr

/-- `libmedia_transfer_protocol::RtpPacketToSend`. -/
structure RtpPacketApi (Packet : Type) where
  view : Packet → RtpPacketView
  /-- `RtpPacketToSend(&rtp_header_extension_map_)`. -/
  create : Packet
  setPayloadType : UInt8 → Packet → Packet
  setTimestamp : UInt32 → Packet → Packet
  setSsrc : UInt32 → Packet → Packet
  setMarker : Bool → Packet → Packet
  setSequenceNumber : UInt16 → Packet → Packet
  setPacketType : RtpPacketMediaType → Packet → Packet
  /-- `ReserveExtension<TransportSequenceNumber>()`. -/
  reserveExtension : Packet → Packet
  /-- `SetExtension<TransportSequenceNumber>(value)`. -/
  setExtension : UInt16 → Packet → Packet
  /-- What `NextPacket` does to the packet when it succeeds. -/
  writePayload : Payload → Packet → Packet
  setPadding : ℕ → Packet → Packet
  /-- The bytes that the extension takes. -/
  extensionSize : ℕ
  /-- Whether a packet of this size has room for the padding. -/
  paddingFits : ℕ → ℕ → Bool

/-- The documented behaviour: the setters write their field, a reserved extension can
be set in place, and padding is added when there is room for it. -/
structure RtpPacketApi.Documented {Packet : Type} (api : RtpPacketApi Packet) : Prop where
  create : (api.view api.create).transportSequenceNumber = none
  setPayloadType : ∀ value packet, api.view (api.setPayloadType value packet) =
    { api.view packet with payloadType := value }
  setTimestamp : ∀ value packet, api.view (api.setTimestamp value packet) =
    { api.view packet with timestamp := value }
  setSsrc : ∀ value packet, api.view (api.setSsrc value packet) =
    { api.view packet with ssrc := value }
  setMarker : ∀ value packet, api.view (api.setMarker value packet) =
    { api.view packet with marker := value }
  setSequenceNumber : ∀ value packet, api.view (api.setSequenceNumber value packet) =
    { api.view packet with sequenceNumber := value }
  setPacketType : ∀ value packet, api.view (api.setPacketType value packet) =
    { api.view packet with packetType := some value }
  reserveExtension : ∀ packet, (api.view packet).transportSequenceNumber = none →
    api.view (api.reserveExtension packet) =
      { api.view packet with
        transportSequenceNumber := some 0
        size := (api.view packet).size + api.extensionSize }
  setExtension : ∀ value packet, (api.view packet).transportSequenceNumber ≠ none →
    api.view (api.setExtension value packet) =
      { api.view packet with transportSequenceNumber := some value }
  writePayload : ∀ payload packet, api.view (api.writePayload payload packet) =
    { api.view packet with
      marker := payload.marker
      size := (api.view packet).size + payload.bytes.length }
  setPadding : ∀ size packet, api.view (api.setPadding size packet) =
    if api.paddingFits (api.view packet).size size then
      { api.view packet with size := (api.view packet).size + size }
    else api.view packet

/-- Packets that are what can be read from them: a header of 12 bytes, an extension
of 8, at most 1500 bytes in all, and at most 255 of padding. -/
def plainApi : RtpPacketApi RtpPacketView where
  view := id
  create := { size := 12 }
  setPayloadType value packet := { packet with payloadType := value }
  setTimestamp value packet := { packet with timestamp := value }
  setSsrc value packet := { packet with ssrc := value }
  setMarker value packet := { packet with marker := value }
  setSequenceNumber value packet := { packet with sequenceNumber := value }
  setPacketType value packet := { packet with packetType := some value }
  reserveExtension packet :=
    { packet with transportSequenceNumber := some 0, size := packet.size + 8 }
  setExtension value packet := { packet with transportSequenceNumber := some value }
  writePayload payload packet :=
    { packet with marker := payload.marker, size := packet.size + payload.bytes.length }
  setPadding size packet :=
    if packet.size + size ≤ 1500 ∧ size ≤ 255 then { packet with size := packet.size + size }
    else packet
  extensionSize := 8
  paddingFits used size := decide (used + size ≤ 1500 ∧ size ≤ 255)

theorem plainApi_documented : plainApi.Documented where
  create := rfl
  setPayloadType _ _ := rfl
  setTimestamp _ _ := rfl
  setSsrc _ _ := rfl
  setMarker _ _ := rfl
  setSequenceNumber _ _ := rfl
  setPacketType _ _ := rfl
  reserveExtension _ _ := rfl
  setExtension _ _ _ := rfl
  writePayload _ _ := rfl
  setPadding size packet := by simp [plainApi]

/-! ## The producers -/

/-- The members of the connection that number the packets. -/
structure VideoSender where
  localVideoSsrc : UInt32
  localVideoRtxSsrc : UInt32
  videoPt : UInt8
  videoRtxPt : UInt8
  videoSeq : UInt16 := 1000
  transportSeq : UInt16 := 1000
  deriving DecidableEq, Repr

/-- `RtpPacketSendInfo`, as far as it is filled. -/
structure RtpPacketSendInfo where
  transportSequenceNumber : UInt16
  rtpTimestamp : UInt32
  length : ℕ
  packetType : Option RtpPacketMediaType
  mediaSsrc : Option UInt32 := none
  rtpSequenceNumber : UInt16 := 0
  deriving DecidableEq, Repr

/-- What the producers do to the outside. -/
inductive SendAction (Packet : Type) where
  /-- `transport_send_->OnAddPacket`. -/
  | onAddPacket (info : RtpPacketSendInfo)
  /-- `transport_send_->EnqueuePacket`. -/
  | enqueuePacket (packets : List Packet)
  /-- The result of `GeneratePadding`. -/
  | returnPadding (packets : List Packet)
  deriving DecidableEq, Repr

section Producers

variable {Packet : Type} (api : RtpPacketApi Packet)

/-- `AddPacketToTransportFeedback` up to the call of `OnAddPacket`. -/
def sendInfo (transportSeq : UInt16) (packet : Packet) : RtpPacketSendInfo :=
  let view := api.view packet
  let info : RtpPacketSendInfo :=
    { transportSequenceNumber := transportSeq
      rtpTimestamp := view.timestamp
      length := view.size
      packetType := view.packetType }
  match view.packetType with
  | some .audio | some .video =>
      { info with mediaSsrc := some view.ssrc, rtpSequenceNumber := view.sequenceNumber }
  | _ => info

def addPacketToTransportFeedback (transportSeq : UInt16) (packet : Packet) :
    SendAction Packet :=
  .onAddPacket (sendInfo api transportSeq packet)

/-- A packet before the packetizer gets it. -/
def emptyVideoPacket (sender : VideoSender) (timestamp : UInt32) : Packet :=
  api.reserveExtension <| api.setSsrc sender.localVideoSsrc <| api.setTimestamp timestamp <|
    api.setPayloadType sender.videoPt api.create

/-- A video packet after the packetizer has filled it.  `packet_id` is a signed local
that both the extension and the registration convert back. -/
def numberVideoPacket (sender : VideoSender) (filled : Packet) : Packet :=
  let packetId : Int16 := sender.transportSeq.toInt16
  api.setExtension packetId.toUInt16 <| api.setPacketType .video <|
    api.setSequenceNumber sender.videoSeq filled

def VideoSender.count (sender : VideoSender) : VideoSender :=
  { sender with
    videoSeq := sender.videoSeq + 1
    transportSeq := sender.transportSeq + 1 }

/-- The loop of `SendVideoEncode`: `NextPacket` hands out the payloads, and fails when
none is left.  The result has the packets that the loop collects. -/
def sendVideoLoop (timestamp : UInt32) :
    VideoSender → List Payload → VideoSender × List (SendAction Packet) × List Packet
  | sender, [] => (sender, [], [])
  | sender, payload :: payloads =>
      let packetId : Int16 := sender.transportSeq.toInt16
      let packet := numberVideoPacket api sender <|
        api.writePayload payload (emptyVideoPacket api sender timestamp)
      let (final, actions, packets) := sendVideoLoop timestamp sender.count payloads
      (final, addPacketToTransportFeedback api packetId.toUInt16 packet :: actions,
        packet :: packets)

/-- `SendVideoEncode`, with the payloads that the packetizer makes of the image. -/
def sendVideoEncode (sender : VideoSender) (imageTimestamp : UInt32)
    (payloads : List Payload) : VideoSender × List (SendAction Packet) :=
  let (final, actions, packets) := sendVideoLoop api (imageTimestamp * 90) sender payloads
  (final, actions ++ [.enqueuePacket packets])

/-- The packet of `GeneratePadding` when it is registered. -/
def paddingPacket (sender : VideoSender) (now : UInt32) : Packet :=
  let packetId : Int16 := sender.transportSeq.toInt16
  api.setExtension packetId.toUInt16 <| api.setPacketType .padding <|
    api.setSequenceNumber sender.videoSeq <| api.reserveExtension <| api.setMarker false <|
    api.setSsrc sender.localVideoRtxSsrc <| api.setTimestamp now <|
    api.setPayloadType sender.videoRtxPt api.create

/-- `GeneratePadding` registers the packet and only then adds the padding. -/
def generatePadding (sender : VideoSender) (now : UInt32) (size : ℕ) :
    VideoSender × List (SendAction Packet) :=
  let packetId : Int16 := sender.transportSeq.toInt16
  let packet := paddingPacket api sender now
  (sender.count, [addPacketToTransportFeedback api packetId.toUInt16 packet,
    .returnPadding [api.setPadding size packet]])

/-- The length that `SendPacket` gives `send_rtp_packet`. -/
def sendPacketLength (packet : Packet) : ℕ :=
  (api.view packet).size

end Producers

end PeerConnection.Media
