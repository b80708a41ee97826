import PeerConnection.Sdp.Sections
import PeerConnection.Transport.Network
import PeerConnection.Connection.Offer

/-!
# The methods of the connection

`p2p_peer_connection` owns the remote description and hands the controller a raw
pointer to it.  `set_remote_sdp` frees the description of the previous call
before it reads the new text, and writes the payload types while it reads, so
both stay changed when it returns -1.
-/

namespace PeerConnection.Connection

open PeerConnection.Text
open PeerConnection.Scan
open PeerConnection.Sdp
open PeerConnection.Runs
open PeerConnection.Transport

/-- The members of `p2p_peer_connection` that its descriptions and its packets
go through, with the controller and the network thread. -/
structure P2pPeerConnection where
  network : Network := {}
  /-- `remote_desc_`, the owner of one of the network's descriptions. -/
  remoteDesc : Option DescriptionId := none
  audioPt : UInt8 := 0
  videoPt : UInt8 := 0

namespace P2pPeerConnection

/-! ## set_remote_sdp -/

/-- What the parser starts from. -/
def parseState (connection : P2pPeerConnection) : ParseState where
  audioPt := connection.audioPt
  videoPt := connection.videoPt

/-- `remote_desc_` owns a new object, and the object it owned is freed. -/
def replaceRemoteDesc (connection : P2pPeerConnection) (desc : SessionDescription) :
    P2pPeerConnection :=
  let freed :=
    match connection.remoteDesc with
    | none => connection.network
    | some old => connection.network.free old
  { connection with
    network := freed.allocate desc
    remoteDesc := some connection.network.nextDescription }

/-- The members after the lines have been read up to this state. -/
def store (connection : P2pPeerConnection) (state : ParseState)
    (desc : SessionDescription) : P2pPeerConnection :=
  { connection.replaceRemoteDesc desc with
    audioPt := state.audioPt
    videoPt := state.videoPt }

/-- `set_remote_sdp` up to the calls of the controller, with the locals of the
parser.  `stop` returns -1. -/
def readSdp (api : TransportApi) (connection : P2pPeerConnection) (sdp : Bytes) :
    Outcome Fault (P2pPeerConnection × ParseState) :=
  if sdpFields sdp = [] then .stop (connection, connection.parseState)
  else
    match parseFields api connection.parseState (sdpFields sdp) with
    | .next state => .next (connection.store state state.description, state)
    | .stop state =>
        .stop (connection.store state { contentGroups := state.contentGroups }, state)
    | .fault reason => .fault reason

/-- `set_remote_sdp` up to where the controller registers the first content. -/
def setRemoteSdp (api : TransportApi) (connection : P2pPeerConnection) (caller : Caller)
    (sdp : Bytes) : Outcome Fault P2pPeerConnection :=
  match connection.readSdp api sdp with
  | .next (stored, state) =>
      .next { stored with
        network := stored.network.startRemoteCall caller connection.network.nextDescription
          state.description state.allCandidate }
  | .stop (stored, _) => .stop stored
  | .fault reason => .fault reason

/-- `set_remote_sdp` as a whole, followed by the task that
`transport_controller::set_remote_sdp` has posted.  The result is the value
returned and the state. -/
def setRemoteSdpServed (api : TransportApi) (connection : P2pPeerConnection)
    (caller : Caller) (sdp : Bytes) : Except Fault (ℤ × P2pPeerConnection) :=
  match connection.readSdp api sdp with
  | .stop (stored, _) => .ok (-1, stored)
  | .fault reason => .error reason
  | .next (stored, state) => do
      let (registered, posted) ←
        stored.network.controller.setRemoteSdp connection.network.nextDescription
          state.description
      let (notified, _) ←
        TransportController.setRemoteCandidates caller registered state.allCandidate
      let controller ← notified.runTasks stored.network.descriptions posted
      return (0, { stored with network := { stored.network with controller := controller } })

/-- `set_remote_sdp` as a whole; the tasks it posts are left in the queue.  The
result is the value returned and the state. -/
def setRemoteSdpReturned (api : TransportApi) (connection : P2pPeerConnection)
    (caller : Caller) (sdp : Bytes) : Except Fault (ℤ × P2pPeerConnection) :=
  match connection.readSdp api sdp with
  | .stop (stored, _) => .ok (-1, stored)
  | .fault reason => .error reason
  | .next (stored, state) => do
      let (registered, posted) ←
        stored.network.controller.setRemoteSdp connection.network.nextDescription
          state.description
      let (notified, later) ←
        TransportController.setRemoteCandidates caller registered state.allCandidate
      return (0, { stored with network := stored.network.post notified (posted ++ later) })

/-! ## create_offer and the packets -/

/-- The certificate is handed to the controller when there is one. -/
def certify (connection : P2pPeerConnection) (certificate : Option Certificate) : Network :=
  match certificate with
  | none => connection.network
  | some cert =>
      { connection.network with
        controller := connection.network.controller.setCertificeate (some cert) }

def createOffer (api : TransportApi) (connection : P2pPeerConnection) (caller : Caller)
    (options : RTCOfferAnswerOptions) (streamId : Bytes) (source : OfferSource) :
    Except Fault (P2pPeerConnection × Bytes) := do
  let desc ← localDesc api options streamId source
  let network ← (connection.certify source.certificate).setLocalSdp caller desc
    source.certificate
  let text ← desc.toString api
  return ({ connection with network := network }, text)

/-- `SendPacket`, the callback of the pacer, names the transport itself. -/
def sendPacket (connection : P2pPeerConnection) (packet : Packet) : P2pPeerConnection :=
  let (controller, posted) := connection.network.controller.sendRtpPacket kAudio packet
  { connection with network := connection.network.post controller posted }

end P2pPeerConnection

/-! ## Runs -/

/-- The calls of the connection's methods and the progress of the threads. -/
inductive ConnectionEvent where
  | setRemoteSdp (caller : Caller) (sdp : Bytes)
  | createOffer (caller : Caller) (options : RTCOfferAnswerOptions) (streamId : Bytes)
      (source : OfferSource)
  | sendPacket (packet : Packet)
  | advance
  | serve (task : Task)

/-- Descriptions are set one after the other; packets come at any time. -/
def connectionStep (api : TransportApi) : System P2pPeerConnection ConnectionEvent Fault :=
  fun connection event =>
    match event with
    | .setRemoteSdp caller sdp =>
        if connection.network.call.isSome then none
        else
          match connection.setRemoteSdp api caller sdp with
          | .next started => some (.ok started)
          | .stop stored => some (.ok stored)
          | .fault reason => some (.error reason)
    | .createOffer caller options streamId source =>
        if connection.network.call.isSome then none
        else some ((connection.createOffer api caller options streamId source).map Prod.fst)
    | .sendPacket packet => some (.ok (connection.sendPacket packet))
    | .advance =>
        connection.network.advance.map
          (Except.map fun network => { connection with network := network })
    | .serve task =>
        (connection.network.serve task).map
          (Except.map fun network => { connection with network := network })

end PeerConnection.Connection
