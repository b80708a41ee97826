import PeerConnection.Jsep.PacketSending
import PeerConnection.Srtp.PacketReceiving

/-!
# A link between two peers

One peer sends packets, a network that keeps them in order and may lose some carries them,
and the other peer receives.  Both run their DTLS-SRTP transports, and the calls and events
of the two ends come in any order among the packets.
-/

namespace PeerConnection.Srtp

open PeerConnection.Text
open PeerConnection.Runs

/-- What a packet that is sent meets, with the capacity of its buffer. -/
structure SendCall (T : Type*) where
  packets : PacketApi := {}
  capacity : ℕ
  sendPacket : T → Bytes → ℤ := fun _ packet => packet.length
  notConnected : T → Bool := fun _ => false

def SendCall.inputs {T : Type*} (call : SendCall T) : SendInputs T where
  protectRtp session packet := session.protectRtp call.packets call.capacity packet
  protectRtcp session packet := session.protectRtcp call.packets call.capacity packet
  sendPacket := call.sendPacket
  notConnected := call.notConnected

inductive SendingEvent (T : Type*) where
  | dtls (inputs : DtlsInputs T) (event : DtlsSrtpEvent T)
  | sendPacket (call : SendCall T) (rtcp : Bool) (packet : Bytes)

inductive LinkFault where
  | dtls (abort : SrtpAbort)
  | send (fault : SendFault)
  deriving DecidableEq, Repr

namespace DtlsSrtpTransport

variable {T : Type*}

/-- `SendRtpPacket` and `SendRtcpPacket`, with what they return. -/
def sendPacket (call : SendCall T) (rtcp : Bool) (transport : DtlsSrtpTransport T)
    (packet : Bytes) : Except LinkFault (DtlsSrtpTransport T × Bool) :=
  match (if rtcp then transport.toSrtpTransport.sendRtcpPacket call.inputs packet
      else transport.toSrtpTransport.sendRtpPacket call.inputs packet) with
  | .error fault => .error (.send fault)
  | .ok sent => .ok ({ transport with toSrtpTransport := sent.1 }, sent.2)

variable [DecidableEq T]

/-- Calls, events and packets in any order. -/
def sendingStep (api : SrtpApi) : System (DtlsSrtpTransport T) (SendingEvent T) LinkFault :=
  fun transport event => some <|
    match event with
    | .dtls inputs event =>
        match transport.handle api inputs event with
        | .error abort => .error (.dtls abort)
        | .ok next => .ok next
    | .sendPacket call rtcp packet => (transport.sendPacket call rtcp packet).map (·.1)

/-! ## Sending leaves the sessions alone -/

omit [DecidableEq T] in
theorem sendPacket_cases {call : SendCall T} {rtcp : Bool} {transport : DtlsSrtpTransport T}
    {packet : Bytes} {sent : DtlsSrtpTransport T × Bool}
    (hsend : transport.sendPacket call rtcp packet = .ok sent) :
    ∃ rtp : RtpTransport T, RtpTransport.SameBinding transport.toRtpTransport rtp ∧
      sent.1 = { transport with toRtpTransport := rtp } ∧
      (sent.2 = true → ∃ data, transport.outgoing call.inputs rtcp packet = some data) := by
  have hprotected : transport.sendPacket call rtcp packet =
      match transport.toSrtpTransport.sendProtected call.inputs rtcp packet with
      | .error fault => .error (.send fault)
      | .ok sent => .ok ({ transport with toSrtpTransport := sent.1 }, sent.2) := by
    cases rtcp <;> rfl
  rw [hprotected, SrtpTransport.sendProtected] at hsend
  cases houtgoing : transport.outgoing call.inputs rtcp packet with
  | none =>
      rw [houtgoing] at hsend
      obtain rfl := Except.ok.inj hsend
      exact ⟨transport.toRtpTransport, .refl _, rfl, fun hsent => absurd hsent (by simp)⟩
  | some data =>
      rw [houtgoing] at hsend
      simp only at hsend
      rcases transport.toRtpTransport.sendPacket_spec call.inputs rtcp data with
        ⟨hfault, -⟩ | ⟨result, hresult, -, hsame⟩
      · rw [hfault] at hsend
        exact absurd hsend (by simp [Except.map])
      · rw [hresult] at hsend
        obtain rfl := Except.ok.inj hsend
        exact ⟨result.1, hsame, rfl, fun _ => ⟨data, rfl⟩⟩

theorem sendingStep_soundSessions {api : SrtpApi} (transport : DtlsSrtpTransport T)
    (event : SendingEvent T) (next : DtlsSrtpTransport T)
    (hsound : transport.SoundSessions api)
    (hstep : sendingStep api transport event = some (.ok next)) : next.SoundSessions api := by
  have hhandled := Option.some.inj hstep
  cases event with
  | dtls inputs event =>
      simp only at hhandled
      cases hhandle : transport.handle api inputs event with
      | error abort => simp [hhandle] at hhandled
      | ok after =>
          rw [hhandle] at hhandled
          obtain rfl := Except.ok.inj hhandled
          exact step_soundSessions transport (inputs, event) after hsound
            (congrArg some hhandle)
  | sendPacket call rtcp packet =>
      obtain ⟨sent, hsend, rfl⟩ := except_map_eq_ok_iff.mp hhandled
      obtain ⟨rtp, -, hafter, -⟩ := sendPacket_cases hsend
      rw [hafter]
      exact ⟨hsound.externalAuthEnabled, hsound.sessions, hsound.sendRtcpSession,
        hsound.recvRtcpSession⟩

omit [DecidableEq T] in
theorem length_outgoing {api : SrtpApi} {transport : DtlsSrtpTransport T} {call : SendCall T}
    {rtcp : Bool} {packet data : Bytes} (hsound : transport.SoundSessions api)
    (hdocumented : call.packets.Documented api)
    (houtgoing : transport.outgoing call.inputs rtcp packet = some data) :
    data.length ≤ call.capacity ∧
      (rtcp = false → ∃ overhead, transport.getSrtpOverhead = some overhead ∧
        data.length = packet.length + overhead) := by
  unfold SrtpTransport.outgoing at houtgoing
  split at houtgoing
  · exact absurd houtgoing (by simp)
  split at houtgoing
  case isTrue hrtcp =>
    refine ⟨?_, fun hrtp => absurd (hrtcp.symm.trans hrtp) (by simp)⟩
    obtain ⟨session, hsession, hprotect⟩ := Option.bind_eq_some_iff.mp houtgoing
    obtain ⟨pair, hpair, hwhich⟩ := Option.map_eq_some_iff.mp hsession
    cases hrtcpSession : transport.sendRtcpSession with
    | none =>
        rw [hrtcpSession, Option.getD_none] at hwhich
        subst hwhich
        exact SrtpSession.length_protectRtcp hdocumented (hsound.sessions pair hpair).1
          hprotect
    | some separate =>
        rw [hrtcpSession, Option.getD_some] at hwhich
        subst hwhich
        exact SrtpSession.length_protectRtcp hdocumented
          (hsound.sendRtcpSession separate hrtcpSession) hprotect
  case isFalse =>
    obtain ⟨pair, hpair, hprotect⟩ := Option.bind_eq_some_iff.mp houtgoing
    obtain ⟨hlength, hroom⟩ := SrtpSession.length_protectRtp hdocumented
      (hsound.sessions pair hpair).1 hprotect
    refine ⟨hroom, fun _ => ⟨pair.send.getSrtpOverhead, ?_, hlength⟩⟩
    rw [SrtpTransport.getSrtpOverhead, hpair, Option.map_some]

/-- However the transport has been keyed, rekeyed and reset, every packet that leaves it for
`SendPacket` fits the buffer that it came in, and an RTP packet has grown by just the
overhead that the transport reports. -/
theorem outgoing_fits (api : SrtpApi) (rtcpMuxEnabled : Bool)
    {events : List (SendingEvent T)} {transport : DtlsSrtpTransport T} {call : SendCall T}
    {rtcp : Bool} {packet data : Bytes} (hdocumented : call.packets.Documented api)
    (hrun : run (sendingStep api) (create rtcpMuxEnabled) events = some (.ok transport))
    (houtgoing : transport.outgoing call.inputs rtcp packet = some data) :
    data.length ≤ call.capacity ∧
      (rtcp = false → ∃ overhead, transport.getSrtpOverhead = some overhead ∧
        data.length = packet.length + overhead) :=
  length_outgoing
    (run_induction sendingStep_soundSessions (soundSessions_create api rtcpMuxEnabled) hrun)
    hdocumented houtgoing

/-- A buffer with just the room that the packet needs. -/
theorem outgoing_fits_tight :
    ∃ transport data, run (sendingStep registeredSrtpApi) (create true)
        ((connectOver 0).map fun event => .dtls event.1 event.2) = some (.ok transport) ∧
      transport.outgoing (SendCall.inputs { packets := taggingPackets, capacity := 22 })
        false (numberedPacket 1) = some data ∧ data.length ≤ 22 := by
  obtain ⟨transport, hrun, hreached⟩ := exists_of_reaches
    (fun transport : DtlsSrtpTransport ℕ =>
      (transport.outgoing (SendCall.inputs
        { packets := taggingPackets, capacity := 22 }) false
          (numberedPacket 1)).isSome)
    (show reaches _ (run (sendingStep registeredSrtpApi) (create true)
      ((connectOver 0).map fun event => .dtls event.1 event.2)) = true by decide +kernel)
  obtain ⟨data, hdata⟩ := Option.isSome_iff_exists.mp hreached
  exact ⟨transport, data, hrun, hdata,
    (outgoing_fits registeredSrtpApi true documented_taggingPackets hrun hdata).1⟩

end DtlsSrtpTransport

/-! ## The link -/

/-- A packet on its way, with the packet that it protects and the parameters of the session
that has protected it. -/
structure InFlight where
  packet : Bytes
  params : SessionParams
  data : Bytes
  deriving DecidableEq, Repr

structure Link (S T : Type*) where
  sender : DtlsSrtpTransport S
  receiver : PacketReceiver T
  /-- The RTP packets that `SendRtpPacket` has reported as sent. -/
  sent : List Bytes := []
  wire : List InFlight := []
  /-- The packets that the network has lost, or that came to a transport without keys. -/
  missed : ℕ := 0

inductive LinkEvent (S T : Type*) where
  | sender (inputs : DtlsInputs S) (event : DtlsSrtpEvent S)
  | receiver (inputs : DtlsInputs T) (event : DtlsSrtpEvent T)
  | sendRtpPacket (call : SendCall S) (packet : Bytes)
  | lose
  | arrive (packets : PacketApi) (packetTransport : T) (packetTimeUs : ℤ)

namespace Link

variable {S T : Type*}

def create (senderMux receiverMux : Bool) : Link S T :=
  { sender := .create senderMux, receiver := .create receiverMux }

/-- What the sender puts on the wire for a packet. -/
def protect (link : Link S T) (call : SendCall S) (packet : Bytes) : List InFlight :=
  match link.sender.sessions.bind (·.send.session),
      link.sender.outgoing call.inputs false packet with
  | some policy, some data => [{ packet := packet, params := policy.params, data := data }]
  | _, _ => []

variable [DecidableEq S] [DecidableEq T]

def step (api : SrtpApi) : System (Link S T) (LinkEvent S T) LinkFault
  | link, .sender inputs event =>
      match link.sender.handle api inputs event with
      | .error abort => some (.error (.dtls abort))
      | .ok sender => some (.ok { link with sender := sender })
  | link, .receiver inputs event =>
      match PacketReceiver.step api link.receiver (.dtls inputs event) with
      | some (.ok receiver) => some (.ok { link with receiver := receiver })
      | some (.error abort) => some (.error (.dtls abort))
      | none => none
  | link, .sendRtpPacket call packet =>
      match link.sender.sendPacket call false packet with
      | .error fault => some (.error fault)
      | .ok (sender, true) =>
          some (.ok { link with
            sender := sender
            sent := link.sent ++ [packet]
            wire := link.wire ++ link.protect call packet })
      | .ok (sender, false) => some (.ok { link with sender := sender })
  | link, .lose =>
      match link.wire with
      | [] => none
      | _ :: wire => some (.ok { link with wire := wire, missed := link.missed + 1 })
  | link, .arrive packets packetTransport packetTimeUs =>
      match link.wire with
      | [] => none
      | first :: wire =>
          match PacketReceiver.step api link.receiver
              (.readPacket packets packetTransport first.data packetTimeUs) with
          | some (.ok receiver) =>
              some (.ok { link with
                receiver := receiver
                wire := wire
                missed := link.missed + if link.receiver.transport.isSrtpActive then 0 else 1 })
          | some (.error abort) => some (.error (.dtls abort))
          | none => none

/-! ## What arrives -/

def senderEvents (events : List (LinkEvent S T)) : List (DtlsInputs S × DtlsSrtpEvent S) :=
  events.filterMap fun
    | .sender inputs event => some (inputs, event)
    | _ => none

def receiverEvents (events : List (LinkEvent S T)) : List (DtlsInputs T × DtlsSrtpEvent T) :=
  events.filterMap fun
    | .receiver inputs event => some (inputs, event)
    | _ => none

/-- The two ends of the link are the ends of one DTLS association, and what libsrtp protects
at one end is recognized at the other, and unprotected by a session with the same
parameters. -/
structure Connects (events : List (LinkEvent S T)) : Prop where
  associated : ∀ near ∈ senderEvents events, ∀ far ∈ receiverEvents events,
    ∀ source other, DtlsSrtpTransport.Binds (senderEvents events) source →
      DtlsSrtpTransport.Binds (receiverEvents events) other →
      Associated (near.1.rtp.keyExport source) (far.1.rtp.keyExport other)
  unprotects : ∀ call packet packets packetTransport packetTimeUs,
    .sendRtpPacket call packet ∈ events →
    .arrive packets packetTransport packetTimeUs ∈ events →
    ∀ near far data, near.ssrcType = .anyOutbound → near.externalHmac = false →
      far.ssrcType = .anyInbound → far.externalHmac = false → far.params = near.params →
      call.packets.srtpProtect near packet = some data →
      packets.inferRtpPacketType data = .rtp ∧
        packets.isValidRtpPacketSize .rtp data.length = true ∧
        packets.srtpUnprotect far data = some packet

/-- A packet that arrives meets the header extension ids that it was sent with. -/
def idsAgree (link : Link S T) : LinkEvent S T → Bool
  | .arrive .. =>
      match link.wire, link.receiver.transport.sessions.bind (·.recv.keying) with
      | first :: _, some recv => recv.extensionIds = first.params.extensionIds
      | _, _ => true
  | _ => true

/-- The packets that have been handed on are packets that were sent, in the same order and
unaltered; all others are on the wire or have been missed. -/
structure InOrder (link : Link S T) : Prop where
  delivered : (link.receiver.delivered.map (·.packet)).Sublist link.sent
  counted : link.receiver.delivered.length + link.missed + link.wire.length =
    link.sent.length
  complete : link.missed = 0 →
    link.receiver.delivered.map (·.packet) ++ link.wire.map (·.packet) = link.sent

/-- The sender has protected the packet with keys from one of its events. -/
def OnWire (api : SrtpApi) (events : List (LinkEvent S T)) (each : InFlight) : Prop :=
  ∃ call policy event source keys, .sendRtpPacket call each.packet ∈ events ∧
    policy.ssrcType = .anyOutbound ∧ policy.externalHmac = false ∧
    policy.params = each.params ∧
    call.packets.srtpProtect policy each.packet = some each.data ∧
    event ∈ senderEvents events ∧
    DtlsSrtpTransport.Binds (senderEvents events) source ∧
    exportKeys api (event.1.rtp.keyExport source) = some keys ∧
    each.params.cipherSuite = keys.cipherSuite ∧ each.params.key = keys.sendKey

/-- What has left the wire, each packet with whether it has been handed on. -/
def Accounts (link : Link S T) (gone : List (Bytes × Bool)) : Prop :=
  link.sent = gone.map Prod.fst ++ link.wire.map (·.packet) ∧
    link.receiver.delivered.map (·.packet) = (gone.filter Prod.snd).map Prod.fst ∧
    link.missed = gone.countP fun each => !each.2

structure LinkInv (api : SrtpApi) (events : List (LinkEvent S T)) (link : Link S T) :
    Prop where
  sender : DtlsSrtpTransport.ExportInv api (senderEvents events) link.sender
  senderSound : link.sender.SoundSessions api
  receiver : DtlsSrtpTransport.ExportInv api (receiverEvents events) link.receiver.transport
  receiverSound : link.receiver.transport.SoundSessions api
  onWire : ∀ each ∈ link.wire, OnWire api events each
  accounted : ∃ gone, link.Accounts gone

omit [DecidableEq S] [DecidableEq T] in
theorem Accounts.inOrder {link : Link S T} {gone : List (Bytes × Bool)}
    (haccounts : link.Accounts gone) : InOrder link := by
  obtain ⟨hsent, hdelivered, hmissed⟩ := haccounts
  refine ⟨?_, ?_, fun hnone => ?_⟩
  · rw [hdelivered, hsent]
    exact (gone.filter_sublist.map Prod.fst).trans (List.sublist_append_left _ _)
  · have hlength : link.receiver.delivered.length = gone.countP Prod.snd := by
      rw [← List.length_map (fun delivery : Delivery => delivery.packet), hdelivered,
        List.length_map, List.countP_eq_length_filter]
    have hsplit := gone.length_eq_countP_add_countP Prod.snd
    rw [hsent, hlength, hmissed, List.length_append, List.length_map, List.length_map]
    simpa using hsplit.symm
  · have hall : gone.filter Prod.snd = gone := by
      rw [List.filter_eq_self]
      intro each heach
      have hzero := List.countP_eq_zero.mp (hmissed.symm.trans hnone) each heach
      simpa using hzero
    rw [hsent, hdelivered, hall]

section Steps

variable {api : SrtpApi} {events : List (LinkEvent S T)} {link : Link S T}

omit [DecidableEq S] [DecidableEq T] in
/-- A packet that leaves the sender has been protected by its sending session. -/
theorem policy_of_outgoing {sender : DtlsSrtpTransport S} {call : SendCall S}
    {packet data : Bytes} (houtgoing : sender.outgoing call.inputs false packet = some data) :
    ∃ pair policy, sender.sessions = some pair ∧ pair.send.session = some policy ∧
      call.packets.srtpProtect policy packet = some data := by
  unfold SrtpTransport.outgoing at houtgoing
  split at houtgoing
  · exact absurd houtgoing (by simp)
  obtain ⟨pair, hpair, hprotect⟩ := Option.bind_eq_some_iff.mp houtgoing
  simp only [SendCall.inputs, SrtpSession.protectRtp] at hprotect
  split at hprotect
  · exact absurd hprotect (by simp)
  case h_2 policy hpolicy =>
    split at hprotect
    · exact absurd hprotect (by simp)
    · exact ⟨pair, policy, hpair, hpolicy, hprotect⟩

omit [DecidableEq S] [DecidableEq T] in
theorem protect_onWire (hinv : LinkInv api events link) {call : SendCall S} {packet : Bytes}
    (hmem : .sendRtpPacket call packet ∈ events) {data : Bytes}
    (houtgoing : link.sender.outgoing call.inputs false packet = some data) :
    ∃ params, link.protect call packet =
        [{ packet := packet, params := params, data := data }] ∧
      OnWire api events { packet := packet, params := params, data := data } := by
  obtain ⟨pair, policy, hpair, hpolicy, hprotect⟩ := policy_of_outgoing houtgoing
  refine ⟨policy.params, by simp [protect, hpair, hpolicy, houtgoing], ?_⟩
  have hactive : link.sender.isSrtpActive = true := by
    rw [SrtpTransport.isSrtpActive, hpair, Option.isSome_some]
  obtain ⟨source, event, keys, other, send, recv, hevent, hsource, hexport, hother, hsend, -,
    hsuite, hkey, -⟩ := hinv.sender.exported hactive
  obtain rfl := Option.some.inj (hpair.symm.trans hother)
  have hparams : send = policy.params := by
    rw [SrtpSession.keying, hpolicy, Option.map_some] at hsend
    exact (Option.some.inj hsend).symm
  obtain ⟨houtbound, hplain, -⟩ := (hinv.senderSound.sessions pair hpair).1.policy policy hpolicy
  exact ⟨call, policy, event, source, keys, hmem, houtbound, hplain, rfl, hprotect, hevent,
    hinv.sender.bound source hsource, hexport, hparams ▸ hsuite, hparams ▸ hkey⟩

omit [DecidableEq S] [DecidableEq T] in
/-- What arrives at an active transport is handed on as it was sent. -/
theorem accepted_first (hconnects : Connects events) (hinv : LinkInv api events link)
    {packets : PacketApi} {packetTransport : T} {packetTimeUs : ℤ}
    (hmem : .arrive packets packetTransport packetTimeUs ∈ events) {first : InFlight}
    {wire : List InFlight} (hwire : link.wire = first :: wire)
    (hids : link.idsAgree (.arrive packets packetTransport packetTimeUs) = true)
    (hactive : link.receiver.transport.isSrtpActive = true) :
    PacketReceiver.accepted packets link.receiver.transport first.data packetTimeUs =
      some { type := .rtp, packet := first.packet, packetTimeUs := packetTimeUs } := by
  obtain ⟨call, near, event, source, keys, hsent, hout, hplain, hparams, hprotect, hevent,
    hbinds, hexport, hsuite, hkey⟩ := hinv.onWire first (by simp [hwire])
  obtain ⟨other, farEvent, farKeys, pair, send, recv, hfarEvent, hother, hfarExport, hpair, -,
    hrecv, -, -, hfarSuite, hfarKey⟩ := hinv.receiver.exported hactive
  obtain ⟨far, hfar, rfl⟩ := Option.map_eq_some_iff.mp hrecv
  obtain ⟨hin, hfarPlain, -⟩ := (hinv.receiverSound.sessions pair hpair).2.policy far hfar
  obtain ⟨hsameSuite, hsameKey, -⟩ :=
    (hconnects.associated event hevent farEvent hfarEvent source other hbinds
      (hinv.receiver.bound other hother)).exportKeys_match hexport hfarExport
  have hsame : far.params = near.params := by
    have hsameIds : far.params.extensionIds = first.params.extensionIds := by
      simpa [idsAgree, hwire, hpair, hrecv] using hids
    have hfarFirst : far.params.cipherSuite = first.params.cipherSuite ∧
        far.params.key = first.params.key := by
      rw [hfarSuite, hfarKey, hsuite, hkey]
      exact ⟨hsameSuite.symm, hsameKey.symm⟩
    rw [hparams]
    cases hfarParams : far.params
    cases hfirstParams : first.params
    simp_all
  obtain ⟨htype, hsize, hunprotect⟩ := hconnects.unprotects call first.packet packets
    packetTransport packetTimeUs hsent hmem near far first.data hout hplain hin hfarPlain
    hsame hprotect
  refine PacketReceiver.accepted_eq_some_iff.mpr
    ⟨htype, by simp, hsize, rfl, pair.recv, ?_, ?_⟩
  · simp [SrtpTransport.recvSessionFor, hpair]
  · simpa [PacketReceiver.unprotect, SrtpSession.unprotectRtp, hfar] using hunprotect

omit [DecidableEq S] [DecidableEq T] in
theorem accepted_inactive {packets : PacketApi} {data : Bytes} {packetTimeUs : ℤ}
    (hinactive : link.receiver.transport.isSrtpActive = false) :
    PacketReceiver.accepted packets link.receiver.transport data packetTimeUs = none := by
  have hsessions : link.receiver.transport.sessions = none := by
    simpa [SrtpTransport.isSrtpActive] using hinactive
  cases htype : packets.inferRtpPacketType data <;>
    simp [PacketReceiver.accepted, htype, SrtpTransport.recvSessionFor,
      SrtpTransport.rtcpRecvSession, hsessions]

omit [DecidableEq S] in
theorem linkInv_arrive (hconnects : Connects events) (hinv : LinkInv api events link)
    {packets : PacketApi} {packetTransport : T} {packetTimeUs : ℤ}
    (hmem : .arrive packets packetTransport packetTimeUs ∈ events) {first : InFlight}
    {wire : List InFlight} (hwire : link.wire = first :: wire)
    (hids : link.idsAgree (.arrive packets packetTransport packetTimeUs) = true)
    {receiver : PacketReceiver T}
    (hstep : PacketReceiver.step api link.receiver
      (.readPacket packets packetTransport first.data packetTimeUs) = some (.ok receiver)) :
    LinkInv api events { link with
      receiver := receiver
      wire := wire
      missed := link.missed + if link.receiver.transport.isSrtpActive then 0 else 1 } := by
  have hdelivered := PacketReceiver.step_delivered hstep
  have htransport : receiver.transport = link.receiver.transport := by
    simp only [PacketReceiver.step] at hstep
    split at hstep
    · obtain rfl := Except.ok.inj (Option.some.inj hstep)
      exact PacketReceiver.onReadPacket_transport packets link.receiver first.data packetTimeUs
    · exact absurd hstep (by simp)
  obtain ⟨gone, hsent, hgone, hmissed⟩ := hinv.accounted
  refine ⟨hinv.sender, hinv.senderSound, htransport ▸ hinv.receiver,
    htransport ▸ hinv.receiverSound,
    fun each heach => hinv.onWire each (by simp [hwire, heach]),
    gone ++ [(first.packet, link.receiver.transport.isSrtpActive)], ?_, ?_, ?_⟩
  · simp [hsent, hwire]
  · simp only [hdelivered, PacketReceiver.deliveryOf]
    cases hactive : link.receiver.transport.isSrtpActive with
    | true =>
        rw [accepted_first hconnects hinv hmem hwire hids hactive]
        simp [hgone]
    | false =>
        rw [accepted_inactive hactive]
        simp [hgone]
  · cases hactive : link.receiver.transport.isSrtpActive <;>
      simp [hmissed]

omit [DecidableEq S] [DecidableEq T] in
/-- Sending changes of the sender no more than this. -/
theorem linkInv_sender (hinv : LinkInv api events link) (rtp : RtpTransport S) :
    LinkInv api events { link with sender := { link.sender with toRtpTransport := rtp } } where
  sender := ⟨⟨hinv.sender.keyed, hinv.sender.exported⟩, hinv.sender.bound⟩
  senderSound := ⟨hinv.senderSound.externalAuthEnabled, hinv.senderSound.sessions,
    hinv.senderSound.sendRtcpSession, hinv.senderSound.recvRtcpSession⟩
  receiver := hinv.receiver
  receiverSound := hinv.receiverSound
  onWire := hinv.onWire
  accounted := hinv.accounted

omit [DecidableEq S] [DecidableEq T] in
theorem linkInv_sent (hinv : LinkInv api events link) {call : SendCall S} {packet data : Bytes}
    (hmem : .sendRtpPacket call packet ∈ events)
    (houtgoing : link.sender.outgoing call.inputs false packet = some data) :
    LinkInv api events { link with
      sent := link.sent ++ [packet]
      wire := link.wire ++ link.protect call packet } := by
  obtain ⟨params, hprotect, honWire⟩ := protect_onWire hinv hmem houtgoing
  refine ⟨hinv.sender, hinv.senderSound, hinv.receiver, hinv.receiverSound,
    fun each heach => ?_, ?_⟩
  · rw [hprotect] at heach
    rcases List.mem_append.mp heach with hold | hnew
    · exact hinv.onWire each hold
    · rw [List.mem_singleton.mp hnew]
      exact honWire
  · obtain ⟨gone, hsent, hgone, hmissed⟩ := hinv.accounted
    exact ⟨gone, by simp [hprotect, hsent], hgone, hmissed⟩

omit [DecidableEq S] [DecidableEq T] in
theorem linkInv_lose (hinv : LinkInv api events link) {first : InFlight} {wire : List InFlight}
    (hwire : link.wire = first :: wire) :
    LinkInv api events { link with wire := wire, missed := link.missed + 1 } := by
  obtain ⟨gone, hsent, hgone, hmissed⟩ := hinv.accounted
  refine ⟨hinv.sender, hinv.senderSound, hinv.receiver, hinv.receiverSound,
    fun each heach => hinv.onWire each (by simp [hwire, heach]),
    gone ++ [(first.packet, false)], ?_, ?_, ?_⟩
  · simp [hsent, hwire]
  · simp [hgone]
  · simp [hmissed]

theorem step_linkInv (hconnects : Connects events) (link : Link S T) (event : LinkEvent S T)
    (next : Link S T) (hinv : LinkInv api events link)
    (hguard : event ∈ events ∧ link.idsAgree event = true)
    (hstep : step api link event = some (.ok next)) : LinkInv api events next := by
  obtain ⟨hmem, hids⟩ := hguard
  cases event with
  | sender inputs event =>
      simp only [step] at hstep
      cases hhandle : link.sender.handle api inputs event with
      | error abort => simp [hhandle] at hstep
      | ok sender =>
          rw [hhandle] at hstep
          obtain rfl := Except.ok.inj (Option.some.inj hstep)
          have hsender : (inputs, event) ∈ senderEvents events :=
            List.mem_filterMap.mpr ⟨_, hmem, rfl⟩
          exact ⟨DtlsSrtpTransport.step_exportInv link.sender (inputs, event) sender
              hinv.sender hsender (congrArg some hhandle),
            DtlsSrtpTransport.step_soundSessions link.sender (inputs, event) sender
              hinv.senderSound (congrArg some hhandle),
            hinv.receiver, hinv.receiverSound, hinv.onWire, hinv.accounted⟩
  | receiver inputs event =>
      simp only [step, PacketReceiver.step] at hstep
      cases hhandle : link.receiver.transport.handle api inputs event with
      | error abort => simp [hhandle, Except.map] at hstep
      | ok transport =>
          simp only [hhandle, Except.map] at hstep
          obtain rfl := Except.ok.inj (Option.some.inj hstep)
          have hreceiver : (inputs, event) ∈ receiverEvents events :=
            List.mem_filterMap.mpr ⟨_, hmem, rfl⟩
          exact ⟨hinv.sender, hinv.senderSound,
            DtlsSrtpTransport.step_exportInv link.receiver.transport (inputs, event)
              transport hinv.receiver hreceiver (congrArg some hhandle),
            DtlsSrtpTransport.step_soundSessions link.receiver.transport (inputs, event)
              transport hinv.receiverSound (congrArg some hhandle),
            hinv.onWire, hinv.accounted⟩
  | sendRtpPacket call packet =>
      simp only [step] at hstep
      cases hsend : link.sender.sendPacket call false packet with
      | error fault => simp [hsend] at hstep
      | ok result =>
          obtain ⟨rtp, -, hafter, houtgoing⟩ := DtlsSrtpTransport.sendPacket_cases hsend
          obtain ⟨sender, sent⟩ := result
          obtain rfl : sender = { link.sender with toRtpTransport := rtp } := hafter
          rw [hsend] at hstep
          cases sent with
          | false =>
              obtain rfl := Except.ok.inj (Option.some.inj hstep)
              exact linkInv_sender hinv rtp
          | true =>
              obtain rfl := Except.ok.inj (Option.some.inj hstep)
              obtain ⟨data, hdata⟩ := houtgoing rfl
              exact linkInv_sender (linkInv_sent hinv hmem hdata) rtp
  | lose =>
      simp only [step] at hstep
      split at hstep
      · exact absurd hstep (by simp)
      case h_2 first wire hwire =>
        obtain rfl := Except.ok.inj (Option.some.inj hstep)
        exact linkInv_lose hinv hwire
  | arrive packets packetTransport packetTimeUs =>
      simp only [step] at hstep
      split at hstep
      · exact absurd hstep (by simp)
      case h_2 first wire hwire =>
        split at hstep
        case h_1 receiver hread =>
          obtain rfl := Except.ok.inj (Option.some.inj hstep)
          exact linkInv_arrive hconnects hinv hmem hwire hids hread
        · exact absurd hstep (by simp)
        · exact absurd hstep (by simp)

end Steps

omit [DecidableEq S] [DecidableEq T] in
theorem linkInv_create (api : SrtpApi) (senderMux receiverMux : Bool)
    (events : List (LinkEvent S T)) :
    LinkInv api events (create senderMux receiverMux) :=
  ⟨DtlsSrtpTransport.exportInv_create api senderMux (senderEvents events),
    DtlsSrtpTransport.soundSessions_create api senderMux,
    DtlsSrtpTransport.exportInv_create api receiverMux (receiverEvents events),
    DtlsSrtpTransport.soundSessions_create api receiverMux,
    by simp [create], [], rfl, rfl, rfl⟩

/-- Over one association, and as long as packets meet the extension ids that they were sent
with, everything that is handed on has been sent, in this order, once and unaltered, through
all keying, rekeying and resetting at both ends; and nothing is missing but what the network
has lost and what came while the receiver had no keys. -/
theorem delivers_inOrder (api : SrtpApi) (senderMux receiverMux : Bool)
    {events : List (LinkEvent S T)} (hconnects : Connects events)
    (hids : Guarded (step api) (fun link event => link.idsAgree event = true)
      (create senderMux receiverMux) events) :
    Throughout (step api) InOrder (create senderMux receiverMux) events := by
  refine throughout_of_guarded (step_linkInv hconnects) ?_
    (linkInv_create api senderMux receiverMux events) (guarded_mem hids fun _ hmem => hmem)
  intro link hinv
  obtain ⟨gone, haccounts⟩ := hinv.accounted
  exact haccounts.inOrder

/-! ## A link that loses a packet -/

/-- Both peers connect, two packets are sent, and the first one is lost. -/
def losesFirst : List (LinkEvent ℕ ℕ) :=
  (DtlsSrtpTransport.connectOver 0).map (fun event => .sender event.1 event.2) ++
    (DtlsSrtpTransport.connectOver 1).map (fun event => .receiver event.1 event.2) ++
    [.sendRtpPacket { packets := taggingPackets, capacity := 64 } (numberedPacket 1),
      .sendRtpPacket { packets := taggingPackets, capacity := 64 } (numberedPacket 2),
      .lose, .arrive taggingPackets 1 0]

theorem eq_of_binds_connectOver {transport source : ℕ}
    (hbinds : DtlsSrtpTransport.Binds (DtlsSrtpTransport.connectOver transport) source) :
    source = transport := by
  obtain ⟨event, hmem, rtcpDtlsTransport, hevent⟩ := hbinds
  simp only [DtlsSrtpTransport.connectOver, List.mem_cons, List.not_mem_nil, or_false] at hmem
  rcases hmem with rfl | rfl
  · simp only [DtlsSrtpEvent.setDtlsTransports.injEq, Option.some.injEq] at hevent
    exact hevent.1.symm
  · exact absurd hevent (by simp)

theorem connects_losesFirst : Connects losesFirst := by
  refine ⟨?_, ?_⟩
  · intro near hnear far hfar source other hsource hother
    obtain rfl := eq_of_binds_connectOver hsource
    obtain rfl := eq_of_binds_connectOver hother
    exact DtlsSrtpTransport.associated_connectOver near hnear far hfar
  · intro call packet packets packetTransport packetTimeUs hsend harrive near far data _ _ _ _
      hsame hprotect
    obtain rfl : packets = taggingPackets := by
      have hlast : packets = taggingPackets ∧ packetTransport = 1 ∧ packetTimeUs = 0 := by
        simpa [losesFirst, DtlsSrtpTransport.connectOver] using harrive
      exact hlast.1
    obtain ⟨rfl, number, rfl⟩ : call = { packets := taggingPackets, capacity := 64 } ∧
        ∃ number, packet = numberedPacket number := by
      have hboth : call = { packets := taggingPackets, capacity := 64 } ∧
            packet = numberedPacket 1 ∨
          call = { packets := taggingPackets, capacity := 64 } ∧
            packet = numberedPacket 2 := by
        simpa [losesFirst, DtlsSrtpTransport.connectOver] using hsend
      rcases hboth with ⟨rfl, rfl⟩ | ⟨rfl, rfl⟩
      · exact ⟨rfl, 1, rfl⟩
      · exact ⟨rfl, 2, rfl⟩
    obtain ⟨crypto, hcrypto, rfl⟩ := Option.map_eq_some_iff.mp hprotect
    have hbound : crypto.authTagLen ≤ 16 := by
      simp only [registeredSrtpApi] at hcrypto
      split_ifs at hcrypto <;> obtain rfl := Option.some.inj hcrypto <;> decide
    refine ⟨?_, ?_, ?_⟩
    · simp [taggingPackets, numberedPacket]
    · simp [taggingPackets, numberedPacket]
      omega
    · simp only [taggingPackets, hsame, hcrypto, Option.map_some, List.length_append,
        List.length_replicate, Nat.add_sub_cancel]
      rw [List.take_left]

theorem delivers_inOrder_losesFirst :
    ∃ final, run (step registeredSrtpApi) (create true true) losesFirst = some (.ok final) ∧
      final.sent = [numberedPacket 1, numberedPacket 2] ∧
      final.receiver.delivered.map (·.packet) = [numberedPacket 2] ∧ final.missed = 1 ∧
      InOrder final := by
  obtain ⟨final, hrun, hreached⟩ := exists_of_reaches
    (fun link : Link ℕ ℕ => link.sent == [numberedPacket 1, numberedPacket 2] &&
      link.receiver.delivered.map (·.packet) == [numberedPacket 2] && link.missed == 1)
    (show reaches _ (run (step registeredSrtpApi) (create true true) losesFirst) = true by
      decide +kernel)
  simp only [Bool.and_eq_true, beq_iff_eq] at hreached
  refine ⟨final, hrun, hreached.1.1, hreached.1.2, hreached.2, ?_⟩
  exact delivers_inOrder registeredSrtpApi true true connects_losesFirst (by decide +kernel)
    losesFirst [] final (List.append_nil _).symm hrun

end Link

end PeerConnection.Srtp
