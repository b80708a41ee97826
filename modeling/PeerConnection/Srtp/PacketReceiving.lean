import PeerConnection.Core.RunHistory
import PeerConnection.Srtp.PacketProtection
import PeerConnection.Srtp.PeerKeys

/-!
# Receiving packets

The packet transports that are bound call `OnReadPacket`.  What is neither RTP nor RTCP, or
has a wrong size, is dropped, and so is everything while the transport is not active; the
rest goes through libsrtp, and what libsrtp accepts is handed on.  A transport receives the
packets in between the calls and events that change its keys.
-/

namespace PeerConnection.Srtp

open PeerConnection.Text
open PeerConnection.Runs

namespace SrtpTransport

variable {T : Type*} (packets : PacketApi)

/-- The session that unprotects packets of this type. -/
def recvSessionFor (transport : SrtpTransport T) (type : RtpPacketType) :
    Option SrtpSession :=
  if type = .rtcp then transport.rtcpRecvSession else transport.sessions.map (·.recv)

def unprotectRtp (transport : SrtpTransport T) (packet : Bytes) : Option Bytes :=
  (transport.recvSessionFor .rtp).bind fun session => session.unprotectRtp packets packet

end SrtpTransport

/-- A call of `DemuxPacket`, or the signal `SignalRtcpPacketReceived`. -/
structure Delivery where
  type : RtpPacketType
  packet : Bytes
  packetTimeUs : ℤ
  deriving DecidableEq, Repr

/-- A transport with what it has handed on. -/
structure PacketReceiver (T : Type*) where
  transport : DtlsSrtpTransport T
  decryptionFailureCount : ℕ := 0
  delivered : List Delivery := []

inductive ReceiverEvent (T : Type*) where
  | dtls (inputs : DtlsInputs T) (event : DtlsSrtpEvent T)
  | readPacket (packets : PacketApi) (packetTransport : T) (data : Bytes) (packetTimeUs : ℤ)

namespace PacketReceiver

variable {T : Type*} (packets : PacketApi)

def deliver (receiver : PacketReceiver T) (type : RtpPacketType) (packet : Bytes)
    (packetTimeUs : ℤ) : PacketReceiver T :=
  { receiver with
    delivered := receiver.delivered ++
      [{ type := type, packet := packet, packetTimeUs := packetTimeUs }] }

def onRtpPacketReceived (receiver : PacketReceiver T) (packet : Bytes) (packetTimeUs : ℤ) :
    PacketReceiver T :=
  if !receiver.transport.isSrtpActive then receiver
  else
    match receiver.transport.unprotectRtp packets packet with
    | none =>
        { receiver with decryptionFailureCount := receiver.decryptionFailureCount + 1 }
    | some plain => receiver.deliver .rtp plain packetTimeUs

def onRtcpPacketReceived (receiver : PacketReceiver T) (packet : Bytes) (packetTimeUs : ℤ) :
    PacketReceiver T :=
  if !receiver.transport.isSrtpActive then receiver
  else
    match receiver.transport.unprotectRtcp (·.unprotectRtcp packets) packet with
    | none => receiver
    | some plain => receiver.deliver .rtcp plain packetTimeUs

def onReadPacket (receiver : PacketReceiver T) (data : Bytes) (packetTimeUs : ℤ) :
    PacketReceiver T :=
  let type := packets.inferRtpPacketType data
  if type = .unknown then receiver
  else if !packets.isValidRtpPacketSize type data.length then receiver
  else if type = .rtcp then receiver.onRtcpPacketReceived packets data packetTimeUs
  else receiver.onRtpPacketReceived packets data packetTimeUs

variable [DecidableEq T]

/-- `SignalReadPacket` of a packet transport is connected while it is bound. -/
def isConnected (receiver : PacketReceiver T) (packetTransport : T) : Bool :=
  receiver.transport.rtpPacketTransport = some packetTransport ||
    receiver.transport.rtcpPacketTransport = some packetTransport

/-- Calls, events and packets in any order. -/
def step (api : SrtpApi) : System (PacketReceiver T) (ReceiverEvent T) SrtpAbort
  | receiver, .dtls inputs event =>
      some ((receiver.transport.handle api inputs event).map fun transport =>
        { receiver with transport := transport })
  | receiver, .readPacket packets packetTransport data packetTimeUs =>
      if receiver.isConnected packetTransport then
        some (.ok (receiver.onReadPacket packets data packetTimeUs))
      else none

def create (rtcpMuxEnabled : Bool) : PacketReceiver T :=
  { transport := .create rtcpMuxEnabled }

/-! ## What is handed on -/

/-- What libsrtp makes of a packet of this type. -/
def unprotect (type : RtpPacketType) (session : SrtpSession) (data : Bytes) : Option Bytes :=
  if type = .rtcp then session.unprotectRtcp packets data
  else session.unprotectRtp packets data

/-- The packet that is handed on for these data. -/
def accepted (transport : DtlsSrtpTransport T) (data : Bytes) (packetTimeUs : ℤ) :
    Option Delivery :=
  let type := packets.inferRtpPacketType data
  if type = .unknown || !packets.isValidRtpPacketSize type data.length then none
  else
    (transport.recvSessionFor type).bind fun session =>
      (unprotect packets type session data).map fun plain =>
        { type := type, packet := plain, packetTimeUs := packetTimeUs }

omit [DecidableEq T] in
theorem onReadPacket_delivered (receiver : PacketReceiver T) (data : Bytes)
    (packetTimeUs : ℤ) :
    (receiver.onReadPacket packets data packetTimeUs).delivered =
      receiver.delivered ++
        (accepted packets receiver.transport data packetTimeUs).toList := by
  simp only [onReadPacket, accepted, unprotect]
  cases htype : packets.inferRtpPacketType data with
  | unknown => simp
  | rtp =>
      cases packets.isValidRtpPacketSize .rtp data.length with
      | false => simp
      | true =>
          cases hsessions : receiver.transport.sessions with
          | none =>
              simp [onRtpPacketReceived, SrtpTransport.recvSessionFor,
                SrtpTransport.isSrtpActive, hsessions]
          | some pair =>
              cases hplain : pair.recv.unprotectRtp packets data <;>
                simp [onRtpPacketReceived, SrtpTransport.recvSessionFor,
                  SrtpTransport.isSrtpActive, SrtpTransport.unprotectRtp, hsessions, hplain,
                  deliver]
  | rtcp =>
      cases packets.isValidRtpPacketSize .rtcp data.length with
      | false => simp
      | true =>
          cases hsessions : receiver.transport.sessions with
          | none =>
              simp [onRtcpPacketReceived, SrtpTransport.recvSessionFor,
                SrtpTransport.isSrtpActive, SrtpTransport.rtcpRecvSession, hsessions]
          | some pair =>
              cases hplain : (receiver.transport.recvRtcpSession.getD pair.recv).unprotectRtcp
                  packets data <;>
                simp [onRtcpPacketReceived, SrtpTransport.recvSessionFor,
                  SrtpTransport.isSrtpActive, SrtpTransport.unprotectRtcp,
                  SrtpTransport.rtcpRecvSession, hsessions, hplain, deliver]

omit [DecidableEq T] in
theorem onReadPacket_transport (receiver : PacketReceiver T) (data : Bytes)
    (packetTimeUs : ℤ) :
    (receiver.onReadPacket packets data packetTimeUs).transport = receiver.transport := by
  simp only [onReadPacket, onRtpPacketReceived, onRtcpPacketReceived]
  repeat' split
  all_goals rfl

/-- The packet that this event hands on. -/
def deliveryOf (receiver : PacketReceiver T) : ReceiverEvent T → Option Delivery
  | .dtls _ _ => none
  | .readPacket packets _ data packetTimeUs =>
      accepted packets receiver.transport data packetTimeUs

theorem step_delivered {api : SrtpApi} {receiver next : PacketReceiver T}
    {event : ReceiverEvent T} (hstep : step api receiver event = some (.ok next)) :
    next.delivered = receiver.delivered ++ (receiver.deliveryOf event).toList := by
  cases event with
  | dtls inputs event =>
      obtain ⟨transport, -, rfl⟩ := except_map_eq_ok_iff.mp (Option.some.inj hstep)
      exact (List.append_nil _).symm
  | readPacket packets packetTransport data packetTimeUs =>
      simp only [step] at hstep
      split at hstep
      · obtain rfl := Except.ok.inj (Option.some.inj hstep)
        exact onReadPacket_delivered packets receiver data packetTimeUs
      · exact absurd hstep (by simp)

/-! ## The keys of what is handed on -/

/-- The events of the transport below. -/
def ReceiverEvent.dtls? : ReceiverEvent T → Option (DtlsInputs T × DtlsSrtpEvent T)
  | .dtls inputs event => some (inputs, event)
  | .readPacket .. => none

def dtlsEvents (events : List (ReceiverEvent T)) : List (DtlsInputs T × DtlsSrtpEvent T) :=
  events.filterMap ReceiverEvent.dtls?

/-- Packets leave the transport as it is. -/
theorem run_transport {api : SrtpApi} {receiver final : PacketReceiver T}
    {events : List (ReceiverEvent T)}
    (hrun : run (step api) receiver events = some (.ok final)) :
    run (DtlsSrtpTransport.step api) receiver.transport (dtlsEvents events) =
      some (.ok final.transport) := by
  induction events generalizing receiver with
  | nil =>
      obtain rfl := Except.ok.inj (Option.some.inj hrun)
      rfl
  | cons event events ih =>
      obtain ⟨next, hstep, hrest⟩ := exists_next_of_run_cons hrun
      cases event with
      | dtls inputs event =>
          obtain ⟨transport, hhandle, rfl⟩ :=
            except_map_eq_ok_iff.mp (Option.some.inj hstep)
          have hdtls : DtlsSrtpTransport.step api receiver.transport (inputs, event) =
              some (.ok transport) := congrArg some hhandle
          exact (run_cons_of_ok hdtls).trans (ih hrest)
      | readPacket packets packetTransport data packetTimeUs =>
          simp only [step] at hstep
          split at hstep
          · obtain rfl := Except.ok.inj (Option.some.inj hstep)
            have hsame := ih hrest
            rw [onReadPacket_transport] at hsame
            exact hsame
          · exact absurd hstep (by simp)

end PacketReceiver

namespace DtlsSrtpTransport

variable {T : Type*} {api : SrtpApi} {events : List (DtlsInputs T × DtlsSrtpEvent T)}

/-- A separate RTCP session that has been keyed receives with a key that a DTLS transport
has exported during one of these events. -/
def RtcpKeysExported (api : SrtpApi) (events : List (DtlsInputs T × DtlsSrtpEvent T))
    (transport : DtlsSrtpTransport T) : Prop :=
  ∀ session params, transport.recvRtcpSession = some session →
    session.keying = some params →
    ∃ event source keys, event ∈ events ∧
      exportKeys api (event.1.rtcp.keyExport source) = some keys ∧
      params.cipherSuite = keys.cipherSuite ∧ params.key = keys.recvKey

/-- Where the receive keys of both sessions come from. -/
structure RecvInv (api : SrtpApi) (events : List (DtlsInputs T × DtlsSrtpEvent T))
    (transport : DtlsSrtpTransport T) : Prop where
  rtp : ExportInv api events transport
  rtcp : transport.RtcpKeysExported api events

theorem RtcpKeysExported.of_none {transport : DtlsSrtpTransport T}
    (hnone : transport.recvRtcpSession = none) : transport.RtcpKeysExported api events := by
  intro session params hsession
  exact absurd (hnone.symm.trans hsession) (by simp)

/-- A session that is keyed for the first time holds the new key, or none. -/
theorem keying_setRecv_fresh {results : LibsrtpResults} {recv params : SessionParams}
    (hkeying : (SrtpSession.setRecv api results {} recv).1.keying = some params) :
    params = recv := by
  cases hset : (SrtpSession.setRecv api results {} recv).2 with
  | true =>
      have hkeyed := SrtpSession.keying_of_setKey hset
      exact Option.some.inj (hkeying.symm.trans hkeyed)
  | false =>
      exfalso
      simp only [SrtpSession.setRecv, SrtpSession.setKey, SrtpSession.doSetKey,
        Option.isSome_none, Bool.false_eq_true, if_false] at hset hkeying
      split at hkeying
      · rename_i hinit
        rw [if_pos hinit] at hset
        split at hkeying
        · split at hkeying
          · simp [SrtpSession.keying] at hkeying
          · split at hkeying
            · simp_all
            · simp [SrtpSession.keying] at hkeying
        · simp [SrtpSession.keying] at hkeying
      · simp [SrtpSession.keying] at hkeying

theorem rtcpKeysExported_setRtcpParams {writable : T → Bool} {results : PairResults}
    {transport : SrtpTransport T} {send recv params : SessionParams} {session : SrtpSession}
    (hsession : (transport.setRtcpParams writable api results send recv).1.recvRtcpSession =
      some session) (hkeying : session.keying = some params) :
    transport.recvRtcpSession = some session ∨ params = recv := by
  simp only [SrtpTransport.setRtcpParams] at hsession
  split_ifs at hsession
  · exact Or.inl hsession
  · exact Or.inl hsession
  · obtain rfl := Option.some.inj hsession
    exact Or.inr (keying_setRecv_fresh hkeying)
  · rw [SrtpTransport.recvRtcpSession_maybeUpdateWritableState] at hsession
    obtain rfl := Option.some.inj hsession
    exact Or.inr (keying_setRecv_fresh hkeying)

theorem rtcpKeysExported_setupRtcpDtlsSrtp {transport : DtlsSrtpTransport T}
    {event : DtlsInputs T × DtlsSrtpEvent T} (hmem : event ∈ events)
    (hexported : transport.RtcpKeysExported api events) :
    (transport.setupRtcpDtlsSrtp api event.1).RtcpKeysExported api events := by
  intro session params hsession hkeying
  unfold setupRtcpDtlsSrtp at hsession
  split at hsession
  · exact hexported session params hsession hkeying
  · split at hsession
    · exact hexported session params hsession hkeying
    case h_2 source keys hextract =>
      rcases rtcpKeysExported_setRtcpParams hsession hkeying with hold | rfl
      · exact hexported session params hold hkeying
      · exact ⟨event, source, keys, hmem, extractParams_keys hextract, rfl, rfl⟩

theorem step_recvInv [DecidableEq T] (transport : DtlsSrtpTransport T)
    (event : DtlsInputs T × DtlsSrtpEvent T) (next : DtlsSrtpTransport T)
    (hinv : RecvInv api events transport) (hmem : event ∈ events)
    (hstep : step api transport event = some (.ok next)) : RecvInv api events next := by
  refine ⟨step_exportInv transport event next hinv.rtp hmem hstep, ?_⟩
  obtain ⟨-, rfl⟩ := (step_eq_ok_iff api).mp hstep
  have hprepared : (transport.prepare event.1 event.2).1.RtcpKeysExported api events := by
    rcases transport.prepare_cases event.1 event.2 with hsame | hnone
    · intro session params hsession
      exact hinv.rtcp session params (hsame.recvRtcpSession ▸ hsession)
    · exact .of_none hnone.recvRtcpSession
  apply run_setup api event.1 (keysKnown_prepare hinv.rtp.toKeysKnown event.1 event.2).keyed
    hprepared
  · intro _ after hsetup
    cases hsetup with
    | keyed source keys pair _ _ hsend hrecv =>
        intro session params hsession
        simp only [keyed, SrtpTransport.recvRtcpSession_maybeUpdateWritableState] at hsession
        exact hprepared session params hsession
    | unchanged => exact hprepared
    | dropped source send recv =>
        exact .of_none (noKeys_resetParams event.1.writable _).recvRtcpSession
  · intro inactive _ hexported
    exact rtcpKeysExported_setupRtcpDtlsSrtp hmem hexported

theorem recvInv_run [DecidableEq T] (api : SrtpApi) (rtcpMuxEnabled : Bool)
    {events : List (DtlsInputs T × DtlsSrtpEvent T)} {final : DtlsSrtpTransport T}
    (hrun : run (step api) (create rtcpMuxEnabled) events = some (.ok final)) :
    RecvInv api events final := by
  have hinit : RecvInv api events (create rtcpMuxEnabled : DtlsSrtpTransport T) :=
    ⟨exportInv_create api rtcpMuxEnabled events, .of_none rfl⟩
  exact run_induction_of_forall step_recvInv hinit (fun _ hmem => hmem) hrun

end DtlsSrtpTransport

namespace PacketReceiver

variable {T : Type*} [DecidableEq T] {api : SrtpApi}

/-- The delivery is what libsrtp has made of the data of this event, with the session that
the transport held then. -/
def ReadAt (api : SrtpApi) (start : PacketReceiver T) (events : List (ReceiverEvent T))
    (position : ℕ) (delivery : Delivery) : Prop :=
  ∃ packets packetTransport data receiver session,
    events[position]? =
      some (.readPacket packets packetTransport data delivery.packetTimeUs) ∧
    run (step api) start (events.take position) = some (.ok receiver) ∧
    packets.inferRtpPacketType data = delivery.type ∧ delivery.type ≠ .unknown ∧
    packets.isValidRtpPacketSize delivery.type data.length = true ∧
    receiver.transport.recvSessionFor delivery.type = some session ∧
    unprotect packets delivery.type session data = some delivery.packet

/-- The session that packets of this type are unprotected with at this position holds a key
that a DTLS transport has exported before; for RTP it is the one that is bound. -/
def RecvKeyExported (api : SrtpApi) (start : PacketReceiver T)
    (events : List (ReceiverEvent T)) (position : ℕ) (type : RtpPacketType) : Prop :=
  ∃ receiver session params event source keys,
    run (step api) start (events.take position) = some (.ok receiver) ∧
    receiver.transport.recvSessionFor type = some session ∧
    session.keying = some params ∧ event ∈ dtlsEvents (events.take position) ∧
    (exportKeys api (event.1.rtp.keyExport source) = some keys ∧
        receiver.transport.rtpDtlsTransport = some source ∨
      type = .rtcp ∧ exportKeys api (event.1.rtcp.keyExport source) = some keys) ∧
    params.cipherSuite = keys.cipherSuite ∧ params.key = keys.recvKey

omit [DecidableEq T] in
theorem accepted_eq_some_iff {packets : PacketApi} {transport : DtlsSrtpTransport T}
    {data : Bytes} {packetTimeUs : ℤ} {delivery : Delivery} :
    accepted packets transport data packetTimeUs = some delivery ↔
      packets.inferRtpPacketType data = delivery.type ∧ delivery.type ≠ .unknown ∧
        packets.isValidRtpPacketSize delivery.type data.length = true ∧
        delivery.packetTimeUs = packetTimeUs ∧
        ∃ session, transport.recvSessionFor delivery.type = some session ∧
          unprotect packets delivery.type session data = some delivery.packet := by
  obtain ⟨type, packet, time⟩ := delivery
  simp only [accepted]
  constructor
  · intro haccepted
    split at haccepted
    · exact absurd haccepted (by simp)
    case isFalse hvalid =>
      obtain ⟨session, hsession, hmapped⟩ := Option.bind_eq_some_iff.mp haccepted
      obtain ⟨plain, hplain, hdelivery⟩ := Option.map_eq_some_iff.mp hmapped
      obtain ⟨rfl, rfl, rfl⟩ := Delivery.mk.inj hdelivery
      simp only [Bool.or_eq_true, decide_eq_true_eq, Bool.not_eq_true', not_or,
        Bool.not_eq_false] at hvalid
      exact ⟨rfl, hvalid.1, hvalid.2, rfl, session, hsession, hplain⟩
  · rintro ⟨rfl, hknown, hsize, rfl, session, hsession, hplain⟩
    simp [hknown, hsize, hsession, hplain]

theorem readAt_append {start : PacketReceiver T} {events later : List (ReceiverEvent T)}
    {position : ℕ} {delivery : Delivery} (hbound : position < events.length) :
    ReadAt api start (events ++ later) position delivery ↔
      ReadAt api start events position delivery := by
  simp only [ReadAt, List.getElem?_append_left hbound,
    List.take_append_of_le_length hbound.le]

theorem readAt_lt {start : PacketReceiver T} {events : List (ReceiverEvent T)}
    {position : ℕ} {delivery : Delivery}
    (hread : ReadAt api start events position delivery) : position < events.length := by
  obtain ⟨packets, packetTransport, data, receiver, session, hevent, -⟩ := hread
  exact (List.getElem?_eq_some_iff.mp hevent).1

/-- The last event of a run hands on what `deliveryOf` says. -/
theorem readAt_last {start receiver : PacketReceiver T} {events : List (ReceiverEvent T)}
    {event : ReceiverEvent T} {delivery : Delivery}
    (hrun : run (step api) start events = some (.ok receiver)) :
    ReadAt api start (events ++ [event]) events.length delivery ↔
      receiver.deliveryOf event = some delivery := by
  have hevent : (events ++ [event])[events.length]? = some event := by simp
  have htake : (events ++ [event]).take events.length = events := List.take_left
  simp only [ReadAt, hevent, htake, hrun]
  constructor
  · rintro ⟨packets, packetTransport, data, other, session, hread, hother, htype, hknown,
      hsize, hsession, hplain⟩
    obtain rfl := Option.some.inj hread
    obtain rfl := Except.ok.inj (Option.some.inj hother)
    exact accepted_eq_some_iff.mpr ⟨htype, hknown, hsize, rfl, session, hsession, hplain⟩
  · intro hdelivery
    cases event with
    | dtls inputs event => exact absurd hdelivery (by simp [deliveryOf])
    | readPacket packets packetTransport data packetTimeUs =>
        obtain ⟨htype, hknown, hsize, htime, session, hsession, hplain⟩ :=
          accepted_eq_some_iff.mp hdelivery
        exact ⟨packets, packetTransport, data, receiver, session, by rw [htime], rfl, htype,
          hknown, hsize, hsession, hplain⟩

/-- The positions at which packets were handed on. -/
def Reads (api : SrtpApi) (start : PacketReceiver T) (events : List (ReceiverEvent T))
    (deliveries : List Delivery) (positions : List ℕ) : Prop :=
  positions.Pairwise (· < ·) ∧
    List.Forall₂ (ReadAt api start events) positions deliveries ∧
    ∀ position delivery, ReadAt api start events position delivery → position ∈ positions

theorem reads_concat {start receiver : PacketReceiver T} {events : List (ReceiverEvent T)}
    {event : ReceiverEvent T} {deliveries : List Delivery} {positions : List ℕ}
    (hrun : run (step api) start events = some (.ok receiver))
    (hreads : Reads api start events deliveries positions) :
    Reads api start (events ++ [event])
      (deliveries ++ (receiver.deliveryOf event).toList)
      (positions ++ if (receiver.deliveryOf event).isSome then [events.length] else []) := by
  obtain ⟨hordered, hmatched, hcomplete⟩ := hreads
  have hkept : List.Forall₂ (ReadAt api start (events ++ [event])) positions deliveries :=
    hmatched.imp fun position delivery hread =>
      (readAt_append (readAt_lt hread)).mpr hread
  have hbelow : ∀ position ∈ positions, position < events.length := by
    intro position hposition
    obtain ⟨index, hindex, rfl⟩ := List.getElem_of_mem hposition
    have hlength := hmatched.length_eq
    exact readAt_lt (hmatched.get hindex (hlength ▸ hindex))
  have hnew : ∀ position delivery,
      ReadAt api start (events ++ [event]) position delivery →
        position ∈ positions ∨
          position = events.length ∧ receiver.deliveryOf event = some delivery := by
    intro position delivery hread
    have hbound := readAt_lt hread
    rw [List.length_append, List.length_singleton] at hbound
    rcases Nat.lt_succ_iff_lt_or_eq.mp hbound with hold | rfl
    · exact Or.inl (hcomplete position delivery ((readAt_append hold).mp hread))
    · exact Or.inr ⟨rfl, (readAt_last hrun).mp hread⟩
  cases hdelivery : receiver.deliveryOf event with
  | none =>
      simp only [Option.toList_none, List.append_nil, Option.isSome_none,
        Bool.false_eq_true, if_false]
      refine ⟨hordered, hkept, fun position delivery hread => ?_⟩
      rcases hnew position delivery hread with hold | ⟨-, hlast⟩
      · exact hold
      · exact absurd (hdelivery.symm.trans hlast) (by simp)
  | some delivery =>
      simp only [Option.toList_some, Option.isSome_some, if_true]
      refine ⟨?_, ?_, fun position other hread => ?_⟩
      · rw [List.pairwise_append]
        refine ⟨hordered, List.pairwise_singleton _ _, fun position hposition last hlast => ?_⟩
        rw [List.mem_singleton.mp hlast]
        exact hbelow position hposition
      · exact List.rel_append hkept (.cons ((readAt_last hrun).mpr hdelivery) .nil)
      · rcases hnew position other hread with hold | ⟨rfl, -⟩
        · exact List.mem_append_left _ hold
        · exact List.mem_append_right _ (List.mem_singleton.mpr rfl)

theorem reads_run {start final : PacketReceiver T} {events : List (ReceiverEvent T)}
    (hnone : start.delivered = [])
    (hrun : run (step api) start events = some (.ok final)) :
    ∃ positions, Reads api start events final.delivered positions := by
  have hinit : ∃ positions, Reads api start [] start.delivered positions := by
    rw [hnone]
    refine ⟨[], .nil, .nil, fun position delivery hread => ?_⟩
    exact absurd (readAt_lt hread) (by simp)
  refine @run_history_induction _ _ _ (step api)
    (fun past receiver => ∃ positions, Reads api start past receiver.delivered positions)
    start hinit ?_ events final hrun
  intro past receiver event next hpast ⟨positions, hreads⟩ hstep
  rw [step_delivered hstep]
  exact ⟨_, reads_concat hpast hreads⟩

omit [DecidableEq T] in
/-- A session that unprotects anything has been keyed. -/
theorem keying_of_unprotect {packets : PacketApi} {type : RtpPacketType}
    {session : SrtpSession} {data plain : Bytes}
    (hplain : unprotect packets type session data = some plain) :
    ∃ params, session.keying = some params := by
  simp only [unprotect, SrtpSession.unprotectRtp, SrtpSession.unprotectRtcp] at hplain
  split at hplain <;>
    obtain ⟨policy, hpolicy, -⟩ := Option.bind_eq_some_iff.mp hplain <;>
    exact ⟨policy.params, by simp [SrtpSession.keying, hpolicy]⟩

omit [DecidableEq T] in
/-- Packets are unprotected with the RTP session, but for RTCP where there is a separate
session. -/
theorem recvSessionFor_cases {transport : SrtpTransport T} {type : RtpPacketType}
    {session : SrtpSession} (hsession : transport.recvSessionFor type = some session) :
    ∃ pair, transport.sessions = some pair ∧
      (session = pair.recv ∨ type = .rtcp ∧ transport.recvRtcpSession = some session) := by
  simp only [SrtpTransport.recvSessionFor, SrtpTransport.rtcpRecvSession] at hsession
  split at hsession
  case isTrue htype =>
    obtain ⟨pair, hpair, rfl⟩ := Option.map_eq_some_iff.mp hsession
    refine ⟨pair, hpair, ?_⟩
    cases hrtcp : transport.recvRtcpSession with
    | none => exact Or.inl rfl
    | some separate => exact Or.inr ⟨htype, rfl⟩
  case isFalse =>
    obtain ⟨pair, hpair, rfl⟩ := Option.map_eq_some_iff.mp hsession
    exact ⟨pair, hpair, Or.inl rfl⟩

theorem recvKeyExported_of_readAt {rtcpMuxEnabled : Bool} {events : List (ReceiverEvent T)}
    {position : ℕ} {delivery : Delivery}
    (hread : ReadAt api (create rtcpMuxEnabled) events position delivery) :
    RecvKeyExported api (create rtcpMuxEnabled) events position delivery.type := by
  obtain ⟨packets, packetTransport, data, receiver, session, -, hrun, -, -, -, hsession,
    hplain⟩ := hread
  have hinv := DtlsSrtpTransport.recvInv_run api rtcpMuxEnabled (run_transport hrun)
  obtain ⟨params, hkeying⟩ := keying_of_unprotect hplain
  obtain ⟨pair, hpair, hwhich⟩ := recvSessionFor_cases hsession
  rcases hwhich with rfl | ⟨htype, hrtcp⟩
  · have hactive : receiver.transport.isSrtpActive = true := by
      rw [SrtpTransport.isSrtpActive, hpair, Option.isSome_some]
    obtain ⟨source, event, keys, other, send, recv, hmem, hsource, hexport, hother, -, hrecv,
      -, -, hsuite, hkey⟩ := hinv.rtp.exported hactive
    obtain rfl := Option.some.inj (hpair.symm.trans hother)
    obtain rfl := Option.some.inj (hkeying.symm.trans hrecv)
    exact ⟨receiver, pair.recv, params, event, source, keys, hrun, hsession, hkeying, hmem,
      Or.inl ⟨hexport, hsource⟩, hsuite, hkey⟩
  · obtain ⟨event, source, keys, hmem, hexport, hsuite, hkey⟩ :=
      hinv.rtcp session params hrtcp hkeying
    exact ⟨receiver, session, params, event, source, keys, hrun, hsession, hkeying, hmem,
      Or.inr ⟨htype, hexport⟩, hsuite, hkey⟩

/-- Over every run, what is handed on are, in this order and once each, the packets that
arrived while SRTP was active, were RTP or RTCP of a valid size, and were accepted by
libsrtp; and the key was each time one that a DTLS transport had exported before, for RTP
the one that was bound. -/
theorem delivered_accounted (api : SrtpApi) (rtcpMuxEnabled : Bool)
    {events : List (ReceiverEvent T)} {final : PacketReceiver T}
    (hrun : run (step api) (create rtcpMuxEnabled) events = some (.ok final)) :
    ∃ positions,
      Reads api (create rtcpMuxEnabled) events final.delivered positions ∧
      List.Forall₂ (fun position delivery =>
        RecvKeyExported api (create rtcpMuxEnabled) events position delivery.type)
        positions final.delivered := by
  obtain ⟨positions, hreads⟩ := reads_run rfl hrun
  refine ⟨positions, hreads, ?_⟩
  exact hreads.2.1.imp fun position delivery hread => recvKeyExported_of_readAt hread

/-- Keys are taken over from the association, and two packets arrive, one of them damaged. -/
def damagedAndGood : List (ReceiverEvent ℕ) :=
  let packets : PacketApi := { srtpUnprotect := fun _ packet => packet.head?.map fun _ => packet }
  (DtlsSrtpTransport.connectOver 0).map (fun event => .dtls event.1 event.2) ++
    [.readPacket packets 0 [] 10, .readPacket packets 0 [128, 96] 20]

theorem delivered_accounted_damaged :
    ∃ final, run (step registeredSrtpApi) (create true) damagedAndGood = some (.ok final) ∧
      final.decryptionFailureCount = 1 ∧
      final.delivered = [{ type := .rtp, packet := [128, 96], packetTimeUs := 20 }] ∧
      ∃ positions,
        Reads registeredSrtpApi (create true) damagedAndGood final.delivered positions := by
  obtain ⟨final, hrun, hreached⟩ := exists_of_reaches
    (fun receiver : PacketReceiver ℕ => receiver.decryptionFailureCount == 1 &&
      receiver.delivered == [{ type := .rtp, packet := [128, 96], packetTimeUs := 20 }])
    (show reaches _ (run (step registeredSrtpApi) (create true) damagedAndGood) = true by
      decide +kernel)
  simp only [Bool.and_eq_true, beq_iff_eq] at hreached
  obtain ⟨positions, hreads, -⟩ := delivered_accounted registeredSrtpApi true hrun
  exact ⟨final, hrun, hreached.1, hreached.2, positions, hreads⟩

end PacketReceiver

end PeerConnection.Srtp
