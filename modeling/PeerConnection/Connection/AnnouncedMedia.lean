import PeerConnection.Core.RunHistory
import PeerConnection.Sdp.PrintedSections
import PeerConnection.Connection.Reachable
import PeerConnection.Connection.StartUp
import PeerConnection.Media.PacketNumbers

/-!
# What is sent and what was announced

The packets of the video stream take their SSRCs from the members that `create_offer` draws and
announces, and their payload type from the member that `set_remote_sdp` writes while it reads.
This file puts the producers and the two descriptions together: what the packets of a run carry
is traced to the offer and to the lines of the remote texts that came before them.
-/

namespace PeerConnection.Connection

open PeerConnection.Text
open PeerConnection.Scan
open PeerConnection.Sdp
open PeerConnection.Runs
open PeerConnection.Transport
open PeerConnection.Media

/-! ## The payload type that a text leaves behind -/

/-- The lines that `set_remote_sdp` reads: it gives up at the first one that does not pass. -/
def readEntries (sdp : Bytes) : List (Bytes × Bytes) :=
  untilExit lineVerdict (sdpEntries sdp)

/-- The payload type that the line writes, also when its attributes are rejected. -/
def writtenPayload (name : Bytes) (entry : Bytes × Bytes) : Option UInt8 :=
  if mediaVerdict entry.2 = .pass then sectionPayload name entry else none

def readPayloads (name sdp : Bytes) : List UInt8 :=
  (readEntries sdp).filterMap (writtenPayload name)

theorem parseAttributes_stop {api : TransportApi} {td : TransportInfo}
    {write : ParseState → TransportInfo → ParseState} {state left : ParseState} {line : Bytes}
    (hstop : parseAttributes api td write state line = .stop left)
    (hwrite : ∀ state td, (write state td).videoPt = state.videoPt) :
    left.videoPt = state.videoPt := by
  rw [parseAttributes] at hstop
  split at hstop
  · exact congrArg ParseState.videoPt (Outcome.stop.inj hstop).symm
  · split at hstop
    · exact absurd hstop (by simp)
    · dsimp only at hstop
      split_ifs at hstop
      rw [← Outcome.stop.inj hstop, hwrite]

theorem parseLine_stop_videoPt {api : TransportApi} {state left : ParseState} {line : Bytes}
    (hstop : parseLine api state line = .stop left) :
    left.videoPt =
      (writtenPayload kVideo (nextSection state.mid line, line)).getD state.videoPt := by
  cases hkind : mediaVerdict line with
  | pass =>
      rw [writtenPayload, if_pos hkind]
      rw [parseLine_of_kind_pass hkind] at hstop
      split_ifs at hstop
      · exact parseAttributes_stop hstop fun _ _ => rfl
      · exact parseAttributes_stop hstop fun _ _ => rfl
  | reject =>
      rw [parseLine, parseLineKind_reject hkind] at hstop
      rw [← Outcome.stop.inj hstop, writtenPayload, if_neg (by simp [hkind]), Option.getD_none]
  | invalid =>
      obtain ⟨reason, hreason⟩ := parseLineKind_invalid state hkind
      rw [parseLine, hreason] at hstop
      exact absurd hstop (by simp)

theorem acceptLine_videoPt {api : TransportApi} {state : ParseState} {line : Bytes}
    (hpass : lineVerdict (nextSection state.mid line) line = .pass) :
    (acceptLine api state line).videoPt =
      (writtenPayload kVideo (nextSection state.mid line, line)).getD state.videoPt := by
  rw [writtenPayload, if_pos (mediaVerdict_of_pass hpass)]
  rfl

/-- The member for the payload type has the value of the last line that wrote it, whether the
text is accepted or not. -/
theorem readSdp_videoPt {api : TransportApi} {connection stored : P2pPeerConnection}
    {sdp : Bytes} {state : ParseState}
    (hread : connection.readSdp api sdp = .next (stored, state) ∨
      connection.readSdp api sdp = .stop (stored, state)) :
    stored.videoPt = (readPayloads kVideo sdp).getLastD connection.videoPt := by
  by_cases hfields : sdpFields sdp = []
  · rw [P2pPeerConnection.readSdp, if_pos hfields] at hread
    simp only [reduceCtorEq, Outcome.stop.injEq, Prod.mk.injEq, false_or] at hread
    rw [← hread.1]
    simp [readPayloads, readEntries, sdpEntries, hfields, untilExit]
  rw [P2pPeerConnection.readSdp, if_neg hfields] at hread
  have hparsed : (parseFields api connection.parseState (sdpFields sdp) = .next state ∨
      parseFields api connection.parseState (sdpFields sdp) = .stop state) ∧
      stored.videoPt = state.videoPt := by
    split at hread
    · rename_i parsed hparse
      simp only [Outcome.next.injEq, Prod.mk.injEq, reduceCtorEq, or_false] at hread
      obtain ⟨rfl, rfl⟩ := hread
      exact ⟨Or.inl hparse, rfl⟩
    · rename_i parsed hparse
      simp only [Outcome.stop.injEq, Prod.mk.injEq, reduceCtorEq, false_or] at hread
      obtain ⟨rfl, rfl⟩ := hread
      exact ⟨Or.inr hparse, rfl⟩
    · simp at hread
  obtain ⟨hscan, hstored⟩ := hparsed
  have hfold : state.videoPt = (readEntries sdp).foldl
      (fun value entry => (writtenPayload kVideo entry).getD value) connection.videoPt :=
    (parseLine_classifies api).scan_projection (fun _ _ hpass => acceptLine_videoPt hpass)
      (fun _ _ _ hstop => parseLine_stop_videoPt hstop) hscan
  rw [hstored, hfold, foldl_getD_eq_getLastD, readPayloads]

/-! ## The connection with its producers -/

/-- The members that the producers read besides the payload type.  `transport_send_` and
`rtp_rtcp_impl_` are made by one task; what is kept of them is `local_media_ssrc`. -/
structure MediaConnection (Packet : Type) where
  connection : P2pPeerConnection := {}
  localVideoSsrc : UInt32 := 0
  localVideoRtxSsrc : UInt32 := 0
  videoRtxPt : UInt8 := 0
  videoSeq : UInt16 := 1000
  transportSeq : UInt16 := 1000
  /-- The tasks of `create_offer` that have not been served. -/
  offerTasks : ℕ := 0
  rtpRtcpSsrc : Option UInt32 := none
  actions : List (SendAction Packet) := []

inductive MediaEvent where
  | connection (event : ConnectionEvent)
  | produce (call : ProducerCall)
  /-- The network thread serves a task of `create_offer`. -/
  | serveOffer

/-- The arguments of `create_offer` and what it draws. -/
structure Offered where
  options : RTCOfferAnswerOptions
  streamId : Bytes
  source : OfferSource

def ConnectionEvent.offered? : ConnectionEvent → Option Offered
  | .createOffer _ options streamId source => some { options, streamId, source }
  | _ => none

def MediaEvent.offered? : MediaEvent → Option Offered
  | .connection event => event.offered?
  | _ => none

namespace MediaConnection

variable {Packet : Type}

/-- The members as the producers see them. -/
def sender (media : MediaConnection Packet) : VideoSender where
  localVideoSsrc := media.localVideoSsrc
  localVideoRtxSsrc := media.localVideoRtxSsrc
  videoPt := media.connection.videoPt
  videoRtxPt := media.videoRtxPt
  videoSeq := media.videoSeq
  transportSeq := media.transportSeq

/-- What `create_offer` does to the members: SSRCs are drawn for a section that sends. -/
def offer (media : MediaConnection Packet) (offered : Offered) : MediaConnection Packet :=
  let posted := { media with offerTasks := media.offerTasks + 1 }
  if offered.options.sendVideo then
    { posted with
      localVideoSsrc := offered.source.localVideoSsrc
      localVideoRtxSsrc := offered.source.localVideoRtxSsrc }
  else posted

def afterEvent (media : MediaConnection Packet) (event : ConnectionEvent)
    (connection : P2pPeerConnection) : MediaConnection Packet :=
  match event.offered? with
  | some offered => { media.offer offered with connection := connection }
  | none => { media with connection := connection }

/-- `SendVideoEncode` and `GeneratePadding`, which both use `transport_send_`. -/
def produce (packets : RtpPacketApi Packet) (media : MediaConnection Packet)
    (call : ProducerCall) : Except StartUpFault (MediaConnection Packet) :=
  match media.rtpRtcpSsrc with
  | none => .error (.null .transportSend)
  | some _ =>
      let (sender, actions) := call.run packets media.sender
      .ok { media with
        videoSeq := sender.videoSeq
        transportSeq := sender.transportSeq
        actions := media.actions ++ actions }

/-- The task reads the SSRC when it runs. -/
def serveOffer (media : MediaConnection Packet) : Option (MediaConnection Packet) :=
  match media.offerTasks with
  | 0 => none
  | remaining + 1 =>
      some { media with
        offerTasks := remaining
        rtpRtcpSsrc := some media.localVideoSsrc }

end MediaConnection

section Steps

variable {Packet : Type}

def mediaStep (api : TransportApi) (packets : RtpPacketApi Packet) :
    System (MediaConnection Packet) MediaEvent StartUpFault := fun media event =>
  match event with
  | .connection event =>
      (connectionStep api media.connection event).map fun outcome =>
        match outcome with
        | .ok connection => .ok (media.afterEvent event connection)
        | .error reason => .error (.elsewhere reason)
  | .produce call => some (media.produce packets call)
  | .serveOffer => media.serveOffer.map .ok

end Steps

/-! ## What has been announced and read -/

/-- The last offer with a video section that sends. -/
def lastSendingOffer (events : List MediaEvent) : Option Offered :=
  ((events.filterMap (·.offered?)).filter (·.options.sendVideo)).getLast?

def MediaEvent.readPayloads : MediaEvent → List UInt8
  | .connection (.setRemoteSdp _ sdp) => Connection.readPayloads kVideo sdp
  | _ => []

/-- The payload type on the last `m=video` line that has been read. -/
def lastVideoPayload (events : List MediaEvent) : UInt8 :=
  (events.flatMap (·.readPayloads)).getLastD 0

/-- The video section of the offer announces this SSRC and this one for its repair. -/
def Offered.Announces (offered : Offered) (ssrc rtxSsrc : UInt32) : Prop :=
  ∃ content ∈ offerContents offered.options offered.streamId offered.source,
    content.name = kVideo ∧
      ∃ media repair, content.description.sendStreams = [media, repair] ∧
        media.ssrcs = [ssrc] ∧ repair.ssrcs = [rtxSsrc] ∧
        media.ssrcGroups = [{ semantics := ascii "FID", ssrcs := [ssrc, rtxSsrc] }]

/-- Some codec of the offer's video section has this payload type. -/
def Offered.Lists (offered : Offered) (payloadType : UInt8) : Prop :=
  ∃ content ∈ offerContents offered.options offered.streamId offered.source,
    content.name = kVideo ∧
      ∃ codec ∈ content.description.codecs, UInt8.ofInt codec.id = payloadType

/-- The packet carries what was last announced and read before it was made. -/
def CarriesAnnounced (past : List MediaEvent) (view : RtpPacketView) : Prop :=
  match view.packetType with
  | some .video =>
      view.payloadType = lastVideoPayload past ∧
        (∀ offered ∈ lastSendingOffer past, ∃ rtxSsrc, offered.Announces view.ssrc rtxSsrc) ∧
        (lastSendingOffer past = none → view.ssrc = 0)
  | some .padding =>
      view.payloadType = 0 ∧
        (∀ offered ∈ lastSendingOffer past,
          (∃ ssrc, offered.Announces ssrc view.ssrc) ∧ ¬ offered.Lists view.payloadType) ∧
        (lastSendingOffer past = none → view.ssrc = 0)
  | _ => False

theorem Offered.announces_source {offered : Offered}
    (hsends : offered.options.sendVideo = true) :
    offered.Announces offered.source.localVideoSsrc offered.source.localVideoRtxSsrc := by
  refine ⟨videoContent offered.options offered.streamId offered.source, ?_, rfl, ?_⟩
  · simp [offerContents, RTCOfferAnswerOptions.hasVideo, hsends]
  · simp [videoContent, hsends]

/-- No offer lists the payload type of padding. -/
theorem Offered.not_lists_zero (offered : Offered) : ¬ offered.Lists 0 := by
  rintro ⟨content, hcontent, hname, codec, hcodec, hid⟩
  rcases List.mem_append.mp hcontent with haudio | hvideo
  · split_ifs at haudio
    · rw [List.mem_singleton.mp haudio] at hname
      exact absurd hname kVideo_ne_kAudio.symm
    · simp at haudio
  · split_ifs at hvideo
    · rw [List.mem_singleton.mp hvideo, videoContent] at hcodec
      dsimp only at hcodec
      split_ifs at hcodec
      · have hids : ∀ codec ∈ [videoCodec, videoRtxCodec], UInt8.ofInt codec.id ≠ 0 := by decide
        exact hids codec hcodec hid
      · simp at hcodec
    · simp at hvideo

/-! ## What one step keeps -/

section Tracking

variable {api : TransportApi} {Packet : Type} {packets : RtpPacketApi Packet}

/-- Only the lines that `set_remote_sdp` reads write the payload type. -/
theorem videoPt_connectionStep {before after : P2pPeerConnection} {event : ConnectionEvent}
    (hstep : connectionStep api before event = some (.ok after)) :
    after.videoPt = (MediaEvent.connection event).readPayloads.getLastD before.videoPt := by
  cases event with
  | setRemoteSdp caller sdp =>
      rw [connectionStep] at hstep
      split_ifs at hstep
      cases hread : before.readSdp api sdp with
      | next result =>
          have hstored : result.1.videoPt = _ := readSdp_videoPt (Or.inl hread)
          rw [P2pPeerConnection.setRemoteSdp, hread] at hstep
          obtain rfl := Except.ok.inj (Option.some.inj hstep)
          exact hstored
      | stop result =>
          have hstored : result.1.videoPt = _ := readSdp_videoPt (Or.inr hread)
          rw [P2pPeerConnection.setRemoteSdp, hread] at hstep
          obtain rfl := Except.ok.inj (Option.some.inj hstep)
          exact hstored
      | fault reason =>
          rw [P2pPeerConnection.setRemoteSdp, hread] at hstep
          exact absurd hstep (by simp)
  | createOffer =>
      obtain ⟨_, _, _, _, _, rfl⟩ := createOffer_step hstep
      rfl
  | sendPacket packet =>
      obtain rfl := Except.ok.inj (Option.some.inj hstep)
      rfl
  | advance =>
      obtain ⟨outcome, _, hresult⟩ := Option.map_eq_some_iff.mp hstep
      obtain ⟨network, _, rfl⟩ := except_map_eq_ok_iff.mp hresult
      rfl
  | serve task =>
      obtain ⟨outcome, _, hresult⟩ := Option.map_eq_some_iff.mp hstep
      obtain ⟨network, _, rfl⟩ := except_map_eq_ok_iff.mp hresult
      rfl

/-- The members after these events. -/
structure MembersTracked (past : List MediaEvent) (media : MediaConnection Packet) : Prop where
  videoPt : media.connection.videoPt = lastVideoPayload past
  videoSsrc : media.localVideoSsrc =
    (lastSendingOffer past).elim 0 (·.source.localVideoSsrc)
  rtxSsrc : media.localVideoRtxSsrc =
    (lastSendingOffer past).elim 0 (·.source.localVideoRtxSsrc)
  rtxPt : media.videoRtxPt = 0
  /-- When no task of `create_offer` is left, the RTCP module works for the SSRC that the
  packets carry. -/
  rtpRtcp : media.offerTasks = 0 →
    media.rtpRtcpSsrc = some media.localVideoSsrc ∨
      media.rtpRtcpSsrc = none ∧ past.filterMap (·.offered?) = []

theorem membersTracked_init : MembersTracked [] ({} : MediaConnection Packet) where
  videoPt := rfl
  videoSsrc := rfl
  rtxSsrc := rfl
  rtxPt := rfl
  rtpRtcp _ := Or.inr ⟨rfl, rfl⟩

theorem lastSendingOffer_append (past : List MediaEvent) (event : MediaEvent) :
    lastSendingOffer (past ++ [event]) =
      (event.offered?.filter (·.options.sendVideo)).or (lastSendingOffer past) := by
  cases hoffered : event.offered? with
  | none => simp [lastSendingOffer, hoffered]
  | some offered =>
      cases hsends : offered.options.sendVideo <;>
        simp [lastSendingOffer, hoffered, hsends, Option.filter]

theorem lastVideoPayload_append (past : List MediaEvent) (event : MediaEvent) :
    lastVideoPayload (past ++ [event]) =
      event.readPayloads.getLastD (lastVideoPayload past) := by
  cases hread : event.readPayloads with
  | nil => simp [lastVideoPayload, hread]
  | cons first rest => simp [lastVideoPayload, hread]

theorem membersTracked_event {past : List MediaEvent} {media : MediaConnection Packet}
    {event : ConnectionEvent} {connection : P2pPeerConnection}
    (htracked : MembersTracked past media)
    (hstep : connectionStep api media.connection event = some (.ok connection)) :
    MembersTracked (past ++ [.connection event]) (media.afterEvent event connection) := by
  have hpayload : connection.videoPt =
      lastVideoPayload (past ++ [.connection event]) := by
    rw [videoPt_connectionStep hstep, lastVideoPayload_append, htracked.videoPt]
  have hlast := lastSendingOffer_append past (.connection event)
  cases hoffered : event.offered? with
  | none =>
      rw [MediaEvent.offered?, hoffered, Option.filter_none, Option.none_or] at hlast
      refine ⟨?_, ?_, ?_, ?_, ?_⟩ <;> simp only [MediaConnection.afterEvent, hoffered]
      · exact hpayload
      · rw [hlast]
        exact htracked.videoSsrc
      · rw [hlast]
        exact htracked.rtxSsrc
      · exact htracked.rtxPt
      · intro htasks
        refine (htracked.rtpRtcp htasks).imp_right fun hnone => ⟨hnone.1, ?_⟩
        rw [List.filterMap_append, hnone.2]
        simp [MediaEvent.offered?, hoffered]
  | some offered =>
      cases hsends : offered.options.sendVideo with
      | false =>
          have hkept : lastSendingOffer (past ++ [.connection event]) =
              lastSendingOffer past := by
            simp [hlast, MediaEvent.offered?, hoffered, hsends, Option.filter]
          refine ⟨?_, ?_, ?_, ?_, ?_⟩ <;>
            simp only [MediaConnection.afterEvent, hoffered, MediaConnection.offer, hsends,
              Bool.false_eq_true, if_false]
          · exact hpayload
          · rw [hkept]
            exact htracked.videoSsrc
          · rw [hkept]
            exact htracked.rtxSsrc
          · exact htracked.rtxPt
          · intro htasks
            exact absurd htasks (by simp)
      | true =>
          have hnew : lastSendingOffer (past ++ [.connection event]) = some offered := by
            simp [hlast, MediaEvent.offered?, hoffered, hsends, Option.filter]
          refine ⟨?_, ?_, ?_, ?_, ?_⟩ <;>
            simp only [MediaConnection.afterEvent, hoffered, MediaConnection.offer, hsends,
              if_true]
          · exact hpayload
          · rw [hnew]
            rfl
          · rw [hnew]
            rfl
          · exact htracked.rtxPt
          · intro htasks
            exact absurd htasks (by simp)

/-- Only the counters and the record of the producers differ. -/
theorem membersTracked_same {past : List MediaEvent} {event : MediaEvent}
    {before after : MediaConnection Packet} (htracked : MembersTracked past before)
    (hoffered : event.offered? = none) (hread : event.readPayloads = [])
    (hconnection : after.connection = before.connection)
    (hssrc : after.localVideoSsrc = before.localVideoSsrc)
    (hrtx : after.localVideoRtxSsrc = before.localVideoRtxSsrc)
    (hpt : after.videoRtxPt = before.videoRtxPt)
    (hmodule : after.offerTasks = 0 → after.rtpRtcpSsrc = some after.localVideoSsrc ∨
      after.rtpRtcpSsrc = none ∧ past.filterMap (·.offered?) = []) :
    MembersTracked (past ++ [event]) after where
  videoPt := by
    rw [hconnection, htracked.videoPt, lastVideoPayload_append, hread]
    rfl
  videoSsrc := by
    rw [hssrc, htracked.videoSsrc, lastSendingOffer_append, hoffered]
    rfl
  rtxSsrc := by
    rw [hrtx, htracked.rtxSsrc, lastSendingOffer_append, hoffered]
    rfl
  rtxPt := hpt.trans htracked.rtxPt
  rtpRtcp htasks := (hmodule htasks).imp_right fun hnone =>
    ⟨hnone.1, by rw [List.filterMap_append, hnone.2]; simp [hoffered]⟩

/-- What a packet carries when it is made. -/
theorem carriesAnnounced_produce (hdocumented : packets.Documented) {past : List MediaEvent}
    {media : MediaConnection Packet} (htracked : MembersTracked past media)
    {sender : VideoSender} (hssrc : sender.localVideoSsrc = media.localVideoSsrc)
    (hrtx : sender.localVideoRtxSsrc = media.localVideoRtxSsrc)
    (hpt : sender.videoPt = media.connection.videoPt)
    (hrtxPt : sender.videoRtxPt = media.videoRtxPt) (item : Item) :
    CarriesAnnounced past (packets.view (item.produce packets sender).2) := by
  have hsends : ∀ offered ∈ lastSendingOffer past, offered.options.sendVideo = true := by
    intro offered hlast
    exact (List.mem_filter.mp (List.mem_of_getLast? hlast)).2
  cases item with
  | video timestamp payload =>
      simp only [Item.produce, view_numberVideoPacket hdocumented, CarriesAnnounced]
      rw [hpt, htracked.videoPt, hssrc, htracked.videoSsrc]
      refine ⟨rfl, fun offered hlast => ?_, fun hnone => by rw [hnone]; rfl⟩
      rw [Option.mem_def.mp hlast]
      exact ⟨_, Offered.announces_source (hsends offered hlast)⟩
  | padding now size =>
      obtain ⟨grown, hgrown⟩ := view_setPadding hdocumented size (paddingPacket packets sender now)
      simp only [Item.produce, hgrown, view_paddingPacket hdocumented, CarriesAnnounced]
      rw [hrtxPt, htracked.rtxPt, hrtx, htracked.rtxSsrc]
      refine ⟨rfl, fun offered hlast => ⟨?_, offered.not_lists_zero⟩,
        fun hnone => by rw [hnone]; rfl⟩
      rw [Option.mem_def.mp hlast]
      exact ⟨_, Offered.announces_source (hsends offered hlast)⟩

/-! ## The whole run -/

/-- The packet has been made in this run, and carries what was announced and read by then. -/
def MadeAnnounced (packets : RtpPacketApi Packet) (events : List MediaEvent)
    (packet : Packet) : Prop :=
  ∃ before call after, events = before ++ .produce call :: after ∧
    CarriesAnnounced before (packets.view packet)

theorem MadeAnnounced.append {past : List MediaEvent} {packet : Packet}
    (hmade : MadeAnnounced packets past packet) (event : MediaEvent) :
    MadeAnnounced packets (past ++ [event]) packet := by
  obtain ⟨before, call, after, rfl, hcarries⟩ := hmade
  exact ⟨before, call, after ++ [event], by simp, hcarries⟩

/-- The packets of a call are made with the members that the call finds; the counters may
have moved on. -/
theorem carriesAnnounced_call (hdocumented : packets.Documented) {past : List MediaEvent}
    {media : MediaConnection Packet} (htracked : MembersTracked past media) (call : ProducerCall) :
    ∀ packet ∈ handedOver (call.run packets media.sender).2,
      CarriesAnnounced past (packets.view packet) := by
  obtain ⟨handOver, hkind, hcall⟩ := call.run_eq packets media.sender
  rw [hcall, (registrations_call _ hkind).2]
  have hproduced : ∀ items sender, sender.localVideoSsrc = media.localVideoSsrc →
      sender.localVideoRtxSsrc = media.localVideoRtxSsrc →
      sender.videoPt = media.connection.videoPt → sender.videoRtxPt = media.videoRtxPt →
      ∀ packet ∈ (production packets sender items).map Prod.snd,
        CarriesAnnounced past (packets.view packet) := by
    intro items
    induction items with
    | nil => simp [production]
    | cons item items ih =>
        intro sender hssrc hrtx hpt hrtxPt packet hpacket
        rw [production, List.map_cons, List.mem_cons] at hpacket
        rcases hpacket with rfl | hlater
        · exact carriesAnnounced_produce hdocumented htracked hssrc hrtx hpt hrtxPt item
        · exact ih sender.count hssrc hrtx hpt hrtxPt packet hlater
  exact hproduced call.items media.sender rfl rfl rfl rfl

/-- What holds after these events. -/
structure MediaTracked (packets : RtpPacketApi Packet) (past : List MediaEvent)
    (media : MediaConnection Packet) : Prop where
  members : MembersTracked past media
  made : ∀ packet ∈ handedOver media.actions, MadeAnnounced packets past packet

theorem mediaTracked_step (hdocumented : packets.Documented) {past : List MediaEvent}
    {before after : MediaConnection Packet} {event : MediaEvent}
    (htracked : MediaTracked packets past before)
    (hstep : mediaStep api packets before event = some (.ok after)) :
    MediaTracked packets (past ++ [event]) after := by
  cases event with
  | connection event =>
      obtain ⟨outcome, houtcome, hafter⟩ := Option.map_eq_some_iff.mp hstep
      cases outcome with
      | error reason => exact absurd hafter (by simp)
      | ok connection =>
          obtain rfl := Except.ok.inj hafter
          refine ⟨membersTracked_event htracked.members houtcome, fun packet hpacket => ?_⟩
          have hactions : (before.afterEvent event connection).actions = before.actions := by
            rw [MediaConnection.afterEvent]
            split
            · rw [MediaConnection.offer]
              split_ifs <;> rfl
            · rfl
          rw [hactions] at hpacket
          exact (htracked.made packet hpacket).append _
  | produce call =>
      rw [mediaStep, MediaConnection.produce] at hstep
      split at hstep
      · exact absurd hstep (by simp)
      · obtain rfl := Except.ok.inj (Option.some.inj hstep)
        refine ⟨membersTracked_same htracked.members rfl rfl rfl rfl rfl rfl
          htracked.members.rtpRtcp, fun packet hpacket => ?_⟩
        rw [handedOver_append, List.mem_append] at hpacket
        rcases hpacket with hold | hnew
        · exact (htracked.made packet hold).append _
        · exact ⟨past, call, [], rfl,
            carriesAnnounced_call hdocumented htracked.members call packet hnew⟩
  | serveOffer =>
      rw [mediaStep, MediaConnection.serveOffer] at hstep
      split at hstep
      · exact absurd hstep (by simp)
      · obtain rfl := Except.ok.inj (Option.some.inj hstep)
        exact ⟨membersTracked_same htracked.members rfl rfl rfl rfl rfl rfl
          (fun _ => Or.inl rfl), fun packet hpacket => (htracked.made packet hpacket).append _⟩

/-- Whatever is negotiated while the stream is running: every video packet carries the SSRC
that the last sending offer before it announced and the payload type of the last `m=video` line
that had been read, in whichever text; every packet of padding carries the SSRC announced for
repair, and a payload type that the offer does not list.  When no task of `create_offer` is
left, the RTCP module works for the SSRC of the packets to come. -/
theorem media_announced (hdocumented : packets.Documented) {events : List MediaEvent}
    {media : MediaConnection Packet}
    (hrun : run (mediaStep api packets) {} events = some (.ok media)) :
    (∀ packet ∈ handedOver media.actions, MadeAnnounced packets events packet) ∧
      (media.offerTasks = 0 → ∀ ssrc ∈ media.rtpRtcpSsrc, ssrc = media.localVideoSsrc) := by
  have htracked : MediaTracked packets events media :=
    run_history_induction ⟨membersTracked_init, by simp [handedOver]⟩
      (fun _ _ _ _ _ hinv hstep => mediaTracked_step hdocumented hinv hstep) hrun
  refine ⟨htracked.made, fun htasks ssrc hssrc => ?_⟩
  rcases htracked.members.rtpRtcp htasks with hsome | ⟨hnone, _⟩
  · exact (Option.some.inj (hsome.symm.trans hssrc)).symm
  · exact absurd (hnone.symm.trans hssrc) (by simp)

end Tracking

/-- An offer that sends video, a remote text whose `m=video` line is read before the text is
given up, a frame and padding. -/
def announcedEvents : List MediaEvent :=
  [.connection (.createOffer .networkThread { sendAudio := false, recvAudio := false }
      (ascii "stream") sampleSource),
    .serveOffer,
    .connection (.setRemoteSdp .networkThread
      (ascii "m=video 9 UDP/TLS/RTP/SAVPF 107 99\na=ice-pwd:")),
    .produce (.sendVideoEncode 1 [{ bytes := [1, 2], marker := true }]),
    .produce (.generatePadding 5 100)]

theorem media_announced_rejectedText :
    ∃ media, run (mediaStep rfc4572Api plainApi) {} announcedEvents = some (.ok media) ∧
      (handedOver media.actions).map (fun view => (view.payloadType, view.ssrc)) =
        [(107, sampleSource.localVideoSsrc), (0, sampleSource.localVideoRtxSsrc)] ∧
      ∀ packet ∈ handedOver media.actions, MadeAnnounced plainApi announcedEvents packet := by
  have hreaches : reaches
      (fun media => (handedOver media.actions).map
          (fun view => (view.payloadType, view.ssrc)) =
        [(107, sampleSource.localVideoSsrc), (0, sampleSource.localVideoRtxSsrc)])
      (run (mediaStep rfc4572Api plainApi) {} announcedEvents) = true := by
    decide +kernel
  obtain ⟨media, hrun, hcheck⟩ := exists_of_reaches _ hreaches
  exact ⟨media, hrun, of_decide_eq_true hcheck, (media_announced plainApi_documented hrun).1⟩

end PeerConnection.Connection
