import PeerConnection.Srtp.KeyProvenance

/-!
# RTCP keys without rtcp-mux

Without rtcp-mux the RTCP packets have a DTLS transport of their own.
`MaybeSetupDtlsSrtp` sets up the RTP keys first, and `SetupRtcpDtlsSrtp` returns when
the transport is active; so the RTCP keys are set up only when the RTP keys have
failed.  RTCP packets are then protected with the RTP keys, unless RTCP sessions happen
to be left from such a failure.
-/

namespace PeerConnection.Srtp

open PeerConnection.Runs

/-! ## What the trace says of rtcp-mux -/

/-- Whether rtcp-mux is on, and whether it has been off since the last activation. -/
structure MuxHistory where
  enabled : Bool
  offSinceActivation : Bool
  deriving DecidableEq, Repr

section History

variable {T : Type*}

def MuxHistory.next (history : MuxHistory) : Observation T → MuxHistory
  | .rtcpMuxEnabled enable =>
      { enabled := enable, offSinceActivation := history.offSinceActivation && !enable }
  | .rtpParams true _ _ => { history with offSinceActivation := !history.enabled }
  | _ => history

def muxHistory (initial : Bool) (trace : List (Observation T)) : MuxHistory :=
  trace.foldl MuxHistory.next { enabled := initial, offSinceActivation := !initial }

theorem muxHistory_append (initial : Bool) (front back : List (Observation T)) :
    muxHistory initial (front ++ back) =
      back.foldl MuxHistory.next (muxHistory initial front) :=
  List.foldl_append

/-- Without an activation, rtcp-mux can only cease to have been off. -/
theorem offSinceActivation_foldl {extra : List (Observation T)} {history : MuxHistory}
    (hextra : ∀ send recv, .rtpParams true send recv ∉ extra)
    (hoff : (extra.foldl MuxHistory.next history).offSinceActivation = true) :
    history.offSinceActivation = true := by
  induction extra generalizing history with
  | nil => exact hoff
  | cons observation extra ih =>
      have hnext := ih (fun send recv hmem => hextra send recv (by simp [hmem])) hoff
      cases observation with
      | rtcpMuxEnabled enable =>
          simp only [MuxHistory.next, Bool.and_eq_true] at hnext
          exact hnext.1
      | rtpParams newSessions send recv =>
          cases newSessions with
          | true => exact absurd (List.mem_cons_self ..) (hextra send recv)
          | false => exact hnext
      | _ => exact hnext

theorem foldl_writableState (signals : List Bool) (history : MuxHistory) :
    (signals.map Observation.writableState : List (Observation T)).foldl MuxHistory.next
      history = history := by
  induction signals with
  | nil => rfl
  | cons signal signals ih => exact ih

theorem enabled_foldl {extra : List (Observation T)} (history : MuxHistory)
    (hextra : ∀ enable, .rtcpMuxEnabled enable ∉ extra) :
    (extra.foldl MuxHistory.next history).enabled = history.enabled := by
  induction extra generalizing history with
  | nil => rfl
  | cons observation extra ih =>
      rw [List.foldl_cons, ih _ fun enable hmem => hextra enable (by simp [hmem])]
      cases observation with
      | rtcpMuxEnabled enable => exact absurd (List.mem_cons_self ..) (hextra enable)
      | rtpParams newSessions send recv => cases newSessions <;> rfl
      | _ => rfl

end History

/-- A pair whose second part is new cannot arise by appending without it. -/
theorem infix_of_infix_append {α : Type*} {first second : α} {front back : List α}
    (hadjacent : [first, second] <:+: front ++ back) (hnew : second ∉ back) :
    [first, second] <:+: front := by
  rcases List.infix_append_iff_ne_nil.mp hadjacent with
    hfront | hback | ⟨left, right, -, hright, hsplit, -, hstart⟩
  · exact hfront
  · exact absurd (hback.subset (by simp)) hnew
  · have hlast : right.getLast hright = second := by
      have hends := congrArg List.getLast? hsplit
      rw [List.getLast?_append_of_ne_nil _ hright, List.getLast?_eq_some_getLast hright]
        at hends
      exact (Option.some.inj hends).symm
    exact absurd (hstart.subset (hlast ▸ List.getLast_mem hright)) hnew

/-! ## rtcp-mux over an event -/

/-- rtcp-mux has not been switched. -/
def SameMux {T : Type*} (before after : RtpTransport T) : Prop :=
  after.rtcpMuxEnabled = before.rtcpMuxEnabled ∧
    ∃ extra, after.trace = before.trace ++ extra ∧ ∀ enable, .rtcpMuxEnabled enable ∉ extra

/-- The flag is what the trace says. -/
def TracksMux {T : Type*} (initial : Bool) (transport : RtpTransport T) : Prop :=
  (muxHistory initial transport.trace).enabled = transport.rtcpMuxEnabled

section Mux

variable {T : Type*}

theorem SameMux.refl (transport : RtpTransport T) : SameMux transport transport :=
  ⟨rfl, [], by simp, by simp⟩

theorem SameMux.trans {first second third : RtpTransport T} (hfirst : SameMux first second)
    (hsecond : SameMux second third) : SameMux first third := by
  obtain ⟨hflag, front, hfront, hnoneFront⟩ := hfirst
  obtain ⟨hflag', back, hback, hnoneBack⟩ := hsecond
  refine ⟨hflag'.trans hflag, front ++ back, ?_, ?_⟩
  · rw [hback, hfront, List.append_assoc]
  · intro enable hmem
    rcases List.mem_append.mp hmem with hmem | hmem
    · exact hnoneFront enable hmem
    · exact hnoneBack enable hmem

theorem TracksMux.of_same {initial : Bool} {before after : RtpTransport T}
    (htracks : TracksMux initial before) (hsame : SameMux before after) :
    TracksMux initial after := by
  obtain ⟨hflag, extra, htrace, hnone⟩ := hsame
  rw [TracksMux, htrace, muxHistory_append, enabled_foldl _ hnone, hflag]
  exact htracks

theorem sameMux_observe (transport : RtpTransport T) {observation : Observation T}
    (hother : ∀ enable, observation ≠ .rtcpMuxEnabled enable) :
    SameMux transport (transport.observe observation) :=
  ⟨rfl, [observation], rfl, fun enable hmem => hother enable (List.mem_singleton.mp hmem).symm⟩

theorem sameMux_of_binding {before after : RtpTransport T}
    (hbinding : RtpTransport.SameBinding before after) : SameMux before after := by
  obtain ⟨signals, htrace⟩ := hbinding.trace
  exact ⟨hbinding.rtcpMuxEnabled, _, htrace, by simp⟩

theorem sameMux_maybeUpdateWritableState (writable : T → Bool) (transport : SrtpTransport T) :
    SameMux transport.toRtpTransport
      (transport.maybeUpdateWritableState writable).toRtpTransport := by
  obtain ⟨signals, htrace⟩ :=
    SrtpTransport.trace_maybeUpdateWritableState writable transport
  exact ⟨SrtpTransport.rtcpMuxEnabled_maybeUpdateWritableState, _, htrace, by simp⟩

theorem sameMux_setRtcpParams (api : SrtpApi) (writable : T → Bool) (results : PairResults)
    (transport : SrtpTransport T) (send recv : SessionParams) :
    SameMux transport.toRtpTransport
      (transport.setRtcpParams writable api results send recv).1.toRtpTransport := by
  simp only [SrtpTransport.setRtcpParams]
  split
  · exact SameMux.refl _
  split
  · exact SameMux.refl _
  split
  · exact SameMux.refl _
  · exact (sameMux_observe transport.toRtpTransport (by simp)).trans
      (sameMux_maybeUpdateWritableState writable _)

end Mux

namespace DtlsSrtpTransport

variable {T : Type*}

/-! ## RTCP keys of their own -/

/-- There are RTCP sessions, and they are keyed with what `SetRtcpParams` has been given
right after it was extracted from this transport. -/
def RtcpKeyedFrom (transport : DtlsSrtpTransport T) (source : T) : Prop :=
  ∃ sendSession recvSession send recv, transport.sendRtcpSession = some sendSession ∧
    transport.recvRtcpSession = some recvSession ∧
    sendSession.keying = some send ∧ recvSession.keying = some recv ∧
    [.extracted source send recv, .rtcpParams send recv] <:+: transport.trace

/-- While the transport is active, rtcp-mux has been off since the activation and there
is an RTCP transport whose key export succeeds, RTCP packets are protected and
unprotected with sessions that are keyed from the RTCP transport. -/
def RtcpApart (initial : Bool) (exports : T → Prop) (transport : DtlsSrtpTransport T) :
    Prop :=
  transport.isSrtpActive = true →
    (muxHistory initial transport.trace).offSinceActivation = true →
    ∀ source, transport.rtcpDtlsTransport = some source → exports source →
      transport.RtcpKeyedFrom source ∧
      transport.rtcpSendSession = transport.sendRtcpSession ∧
      transport.rtcpRecvSession = transport.recvRtcpSession

/-- The event does not activate the transport while rtcp-mux is off and an RTCP
transport whose key export succeeds is there; or RTCP sessions keyed from this transport
are there already. -/
def ActivatesApart [DecidableEq T] (api : SrtpApi) (exports : T → Prop)
    (transport : DtlsSrtpTransport T) (event : DtlsInputs T × DtlsSrtpEvent T) : Prop :=
  let prepared := (transport.prepare event.1 event.2).1
  (transport.prepare event.1 event.2).2.attempts event.1 prepared = true →
    prepared.isSrtpActive = false → prepared.canKey api event.1 = true →
    prepared.rtcpMuxEnabled = false →
    ∀ source, prepared.rtcpDtlsTransport = some source → exports source →
      prepared.RtcpKeyedFrom source

theorem RtcpKeyedFrom.of_same {before after : DtlsSrtpTransport T} {source : T}
    (hkeyed : before.RtcpKeyedFrom source) (hsame : SameKeys before after) :
    after.RtcpKeyedFrom source := by
  obtain ⟨sendSession, recvSession, send, recv, hsend, hrecv, hsendKeying, hrecvKeying,
    hadjacent⟩ := hkeyed
  obtain ⟨extra, htrace, -⟩ := hsame.trace
  refine ⟨sendSession, recvSession, send, recv, hsame.sendRtcpSession.trans hsend,
    hsame.recvRtcpSession.trans hrecv, hsendKeying, hrecvKeying, ?_⟩
  rw [htrace]
  exact List.infix_append_of_infix_left hadjacent

/-- Active transports use the RTCP sessions that are there. -/
theorem rtcpSessions_of_keyedFrom {transport : DtlsSrtpTransport T} {source : T}
    (hactive : transport.isSrtpActive = true) (hkeyed : transport.RtcpKeyedFrom source) :
    transport.rtcpSendSession = transport.sendRtcpSession ∧
      transport.rtcpRecvSession = transport.recvRtcpSession := by
  obtain ⟨sendSession, recvSession, send, recv, hsend, hrecv, -⟩ := hkeyed
  obtain ⟨pair, hpair⟩ := Option.isSome_iff_exists.mp hactive
  simp [SrtpTransport.rtcpSendSession, SrtpTransport.rtcpRecvSession, hpair, hsend, hrecv]

/-! ## rtcp-mux over the two parts of an event -/

theorem sameMux_resetParams (writable : T → Bool) (transport : DtlsSrtpTransport T) :
    SameMux transport.toRtpTransport (transport.resetParams writable).toRtpTransport :=
  sameMux_maybeUpdateWritableState writable
    { transport.toSrtpTransport with
      sessions := none
      sendRtcpSession := none
      recvRtcpSession := none }

theorem sameMux_setupRtcpDtlsSrtp (api : SrtpApi) (inputs : DtlsInputs T)
    (transport : DtlsSrtpTransport T) :
    SameMux transport.toRtpTransport
      (transport.setupRtcpDtlsSrtp api inputs).toRtpTransport := by
  simp only [setupRtcpDtlsSrtp]
  split
  · exact SameMux.refl _
  split
  · exact SameMux.refl _
  · exact (sameMux_observe transport.toRtpTransport (by simp)).trans
      (sameMux_setRtcpParams api inputs.writable inputs.rtcp.results _ _ _)

section Keyed

variable {inputs : DtlsInputs T} {transport : DtlsSrtpTransport T} {source : T}
  {send recv : SessionParams} {pair : SessionPair}

@[simp]
theorem rtcpMuxEnabled_keyed :
    (transport.keyed inputs source send recv pair).rtcpMuxEnabled =
      transport.rtcpMuxEnabled := by
  simp [keyed, SrtpTransport.observe, RtpTransport.observe]

@[simp]
theorem sendRtcpSession_keyed :
    (transport.keyed inputs source send recv pair).sendRtcpSession =
      transport.sendRtcpSession := by
  simp [keyed, SrtpTransport.observe]

@[simp]
theorem recvRtcpSession_keyed :
    (transport.keyed inputs source send recv pair).recvRtcpSession =
      transport.recvRtcpSession := by
  simp [keyed, SrtpTransport.observe]

theorem sameMux_keyed :
    SameMux transport.toRtpTransport
      (transport.keyed inputs source send recv pair).toRtpTransport := by
  obtain ⟨signals, htrace⟩ := transport.trace_keyed inputs source send recv pair
  exact ⟨rtcpMuxEnabled_keyed, _, htrace, by simp⟩

/-- New RTP keys leave the RTCP sessions where they are. -/
theorem rtcpKeyedFrom_keyed_iff {rtcpSource : T} :
    (transport.keyed inputs source send recv pair).RtcpKeyedFrom rtcpSource ↔
      transport.RtcpKeyedFrom rtcpSource := by
  obtain ⟨signals, htrace⟩ := transport.trace_keyed inputs source send recv pair
  unfold RtcpKeyedFrom
  simp only [sendRtcpSession_keyed, recvRtcpSession_keyed, htrace]
  constructor
  · rintro ⟨sendSession, recvSession, rtcpSend, rtcpRecv, hsend, hrecv, hsendKeying,
      hrecvKeying, hadjacent⟩
    refine ⟨sendSession, recvSession, rtcpSend, rtcpRecv, hsend, hrecv, hsendKeying,
      hrecvKeying, ?_⟩
    apply infix_of_infix_append hadjacent
    simp
  · rintro ⟨sendSession, recvSession, rtcpSend, rtcpRecv, hsend, hrecv, hsendKeying,
      hrecvKeying, hadjacent⟩
    exact ⟨sendSession, recvSession, rtcpSend, rtcpRecv, hsend, hrecv, hsendKeying,
      hrecvKeying, List.infix_append_of_infix_left hadjacent⟩

/-- Keys for new sessions are an activation; keys for old sessions are not. -/
theorem offSinceActivation_keyed {initial : Bool}
    (htracks : TracksMux initial transport.toRtpTransport) :
    (muxHistory initial
      (transport.keyed inputs source send recv pair).trace).offSinceActivation =
      if transport.isSrtpActive then
        (muxHistory initial transport.trace).offSinceActivation
      else !transport.rtcpMuxEnabled := by
  obtain ⟨signals, htrace⟩ := transport.trace_keyed inputs source send recv pair
  rw [htrace, muxHistory_append, List.foldl_cons, List.foldl_cons, foldl_writableState]
  cases hactive : transport.isSrtpActive with
  | true => simp [MuxHistory.next]
  | false =>
      have henabled : (muxHistory initial transport.trace).enabled =
        transport.rtcpMuxEnabled := htracks
      simp [MuxHistory.next, henabled]

end Keyed

/-! ## Runs -/

section Runs

variable {api : SrtpApi} {initial : Bool} {exports : T → Prop}

/-- Sessions that are there have been keyed, the trace knows about rtcp-mux, and with
rtcp-mux off the RTCP keys come from the RTCP transport. -/
structure RtcpInv (initial : Bool) (exports : T → Prop) (transport : DtlsSrtpTransport T) :
    Prop where
  keyed : transport.Keyed
  tracks : TracksMux initial transport.toRtpTransport
  apart : transport.RtcpApart initial exports

theorem RtcpInv.of_not_active {transport : DtlsSrtpTransport T}
    (htracks : TracksMux initial transport.toRtpTransport)
    (hinactive : transport.isSrtpActive = false) : RtcpInv initial exports transport :=
  ⟨keyed_of_not_active hinactive, htracks, fun hactive =>
    absurd hactive (by simp [hinactive])⟩

variable [DecidableEq T]

theorem sameMux_resetForNewTransports (inputs : DtlsInputs T)
    (transport : DtlsSrtpTransport T) (rtpDtlsTransport : Option T) :
    SameMux transport.toRtpTransport
      (transport.resetForNewTransports inputs rtpDtlsTransport).toRtpTransport := by
  unfold resetForNewTransports
  split
  · exact sameMux_resetParams inputs.writable transport
  · exact SameMux.refl _

theorem sameMux_resubscribe (transport : DtlsSrtpTransport T) (old new : Option T) :
    SameMux transport.toRtpTransport (transport.resubscribe old new).toRtpTransport := by
  unfold resubscribe
  split
  · exact SameMux.refl _
  · exact ⟨rfl, _, rfl, by simp⟩

theorem sameMux_bindRtcp (writable : T → Bool) (transport : DtlsSrtpTransport T)
    (rtcpDtlsTransport : Option T) :
    SameMux transport.toRtpTransport
      (transport.bindRtcp writable rtcpDtlsTransport).toRtpTransport := by
  apply (sameMux_resubscribe transport transport.rtcpDtlsTransport rtcpDtlsTransport).trans
  have hbound := sameMux_of_binding (RtpTransport.setRtcpPacketTransport_same writable
    (transport.resubscribe transport.rtcpDtlsTransport rtcpDtlsTransport).toRtpTransport
    rtcpDtlsTransport)
  exact hbound

theorem sameMux_bindRtp (writable : T → Bool) (transport : DtlsSrtpTransport T)
    (rtpDtlsTransport : Option T) :
    SameMux transport.toRtpTransport
      (transport.bindRtp writable rtpDtlsTransport).toRtpTransport := by
  apply (sameMux_resubscribe transport transport.rtpDtlsTransport rtpDtlsTransport).trans
  have hbound := sameMux_of_binding (RtpTransport.setRtpPacketTransport_same writable
    (transport.resubscribe transport.rtpDtlsTransport rtpDtlsTransport).toRtpTransport
    rtpDtlsTransport)
  exact hbound

theorem tracksMux_prepare {transport : DtlsSrtpTransport T} (inputs : DtlsInputs T)
    (event : DtlsSrtpEvent T) (htracks : TracksMux initial transport.toRtpTransport) :
    TracksMux initial (transport.prepare inputs event).1.toRtpTransport := by
  cases event with
  | setDtlsTransports rtpDtlsTransport rtcpDtlsTransport =>
      apply htracks.of_same
      apply (sameMux_resetForNewTransports inputs transport rtpDtlsTransport).trans
      exact (sameMux_bindRtcp inputs.writable _ rtcpDtlsTransport).trans
        (sameMux_bindRtp inputs.writable _ rtpDtlsTransport)
  | setActiveResetSrtpParams activeResetSrtpParams => exact htracks
  | setRtcpMuxEnabled enable =>
      have hswitched : TracksMux initial
          ({ transport.toRtpTransport with rtcpMuxEnabled := enable }.observe
            (.rtcpMuxEnabled enable)) := by
        simp [TracksMux, RtpTransport.observe, muxHistory_append, MuxHistory.next]
      exact hswitched.of_same
        (sameMux_of_binding (RtpTransport.setRtcpMuxEnabled_same _ enable))
  | updateSendEncryptedHeaderExtensionIds extensionIds =>
      simp only [prepare]
      split <;> exact htracks
  | updateRecvEncryptedHeaderExtensionIds extensionIds =>
      simp only [prepare]
      split <;> exact htracks
  | onDtlsState dtlsTransport state =>
      have htold : TracksMux initial
          (transport.observe (.dtlsState dtlsTransport state)).toRtpTransport :=
        htracks.of_same (sameMux_observe transport.toRtpTransport (by simp))
      simp only [prepare]
      split
      · exact htold.of_same (sameMux_resetParams inputs.writable _)
      · exact htold
  | onWritableState packetTransport => exact htracks

/-- The invariant, and with it that RTCP is keyed apart, still holds when new keys are about
to be set up. -/
theorem rtcpInv_prepare {transport : DtlsSrtpTransport T} {inputs : DtlsInputs T}
    {event : DtlsSrtpEvent T} (hinv : RtcpInv initial exports transport)
    (hpasses : transport.aborts inputs event = false) :
    RtcpInv initial exports (transport.prepare inputs event).1 := by
  have htracks := tracksMux_prepare inputs event hinv.tracks
  rcases transport.prepare_cases inputs event with hsame | hnone
  · refine ⟨fun pair hpair => hinv.keyed pair (hsame.sessions ▸ hpair), htracks, ?_⟩
    intro hactive hoff source hsource hexports
    have hbefore : transport.isSrtpActive = true := hsame.isSrtpActive ▸ hactive
    have hoffBefore : (muxHistory initial transport.trace).offSinceActivation = true := by
      obtain ⟨extra, htrace, hquiet⟩ := hsame.trace
      rw [htrace, muxHistory_append] at hoff
      exact offSinceActivation_foldl (fun send recv hmem => hquiet _ hmem) hoff
    have hsourceBefore := rtcpDtlsTransport_prepare inputs hpasses hactive hsource
    have hkeyed := (hinv.apart hbefore hoffBefore source hsourceBefore hexports).1
    exact ⟨hkeyed.of_same hsame, rtcpSessions_of_keyedFrom hactive (hkeyed.of_same hsame)⟩
  · exact .of_not_active htracks hnone.not_active

theorem step_rtcpInv (transport : DtlsSrtpTransport T)
    (event : DtlsInputs T × DtlsSrtpEvent T) (next : DtlsSrtpTransport T)
    (hinv : RtcpInv initial exports transport)
    (hguard : transport.ActivatesApart api exports event)
    (hstep : step api transport event = some (.ok next)) :
    RtcpInv initial exports next := by
  obtain ⟨hpasses, rfl⟩ := (step_eq_ok_iff api).mp hstep
  have hprepared := rtcpInv_prepare hinv hpasses
  unfold ActivatesApart at hguard
  generalize (transport.prepare event.1 event.2).1 = prepared at hprepared hguard
  apply run_setup api event.1 hprepared.keyed hprepared
  · intro hattempts after hsetup
    cases hsetup with
    | keyed source keys pair hcan hextract hsend hrecv =>
        refine ⟨keyed_keyed hsend hrecv, hprepared.tracks.of_same sameMux_keyed, ?_⟩
        intro hactive hoff rtcpSource hrtcpSource hexports
        rw [offSinceActivation_keyed hprepared.tracks] at hoff
        have hbefore : prepared.RtcpKeyedFrom rtcpSource := by
          cases hwas : prepared.isSrtpActive with
          | true =>
              rw [hwas, if_pos rfl] at hoff
              exact (hprepared.apart hwas hoff rtcpSource hrtcpSource hexports).1
          | false =>
              have hmux : prepared.rtcpMuxEnabled = false := by simpa [hwas] using hoff
              exact hguard hattempts hwas hcan hmux rtcpSource hrtcpSource hexports
        have hafter : (prepared.keyed event.1 source (prepared.sendParams keys)
            (prepared.recvParams keys) pair).RtcpKeyedFrom rtcpSource :=
          rtcpKeyedFrom_keyed_iff.mpr hbefore
        exact ⟨hafter, rtcpSessions_of_keyedFrom hactive hafter⟩
    | unchanged => exact hprepared
    | dropped source send recv =>
        apply RtcpInv.of_not_active
        · apply (hprepared.tracks.of_same _).of_same (sameMux_resetParams _ _)
          exact sameMux_observe prepared.toRtpTransport (by simp)
        · exact (noKeys_resetParams event.1.writable _).not_active
  · intro inactive hinactive hbefore
    apply RtcpInv.of_not_active
    · exact hbefore.tracks.of_same (sameMux_setupRtcpDtlsSrtp api event.1 inactive)
    · rw [isSrtpActive_setupRtcpDtlsSrtp, hinactive]

omit [DecidableEq T] in
/-- An event that can key the RTP sessions of an inactive transport does so, and then the
RTCP keys are not set up. -/
theorem run_of_canKey {kind : SetupKind} {inputs : DtlsInputs T}
    {transport : DtlsSrtpTransport T} (hkeyed : transport.Keyed)
    (hattempts : kind.attempts inputs transport = true)
    (hcan : transport.canKey api inputs = true) :
    ∃ source send recv pair,
      kind.run api inputs transport = transport.keyed inputs source send recv pair := by
  have hrtp := setupRtpDtlsSrtp_cases api inputs hkeyed
  generalize hafter : transport.setupRtpDtlsSrtp api inputs = after at hrtp
  cases hrtp with
  | unchanged hcannot => exact absurd hcan (by simp [hcannot])
  | dropped source send recv hcannot => exact absurd hcan (by simp [hcannot])
  | keyed source keys pair =>
      refine ⟨source, transport.sendParams keys, transport.recvParams keys, pair, ?_⟩
      cases kind with
      | none => exact absurd hattempts (by simp [SetupKind.attempts])
      | rtp => exact hafter
      | maybe =>
          simp only [SetupKind.attempts, Bool.and_eq_true, Bool.not_eq_true'] at hattempts
          have hactive : (transport.keyed inputs source (transport.sendParams keys)
              (transport.recvParams keys) pair).isSrtpActive = true := by
            simp [SrtpTransport.isSrtpActive]
          simp only [SetupKind.run, maybeSetupDtlsSrtp, hattempts, hafter,
            setupRtcpDtlsSrtp, hactive, Bool.not_true, Bool.or_false, Bool.false_eq_true,
            if_true, if_false, ite_self]

/-- An event that ends in a failed check has not reset the transport. -/
theorem not_aborts_of_not_active {transport : DtlsSrtpTransport T} {inputs : DtlsInputs T}
    {event : DtlsSrtpEvent T}
    (hinactive : (transport.prepare inputs event).1.isSrtpActive = false) :
    transport.aborts inputs event = false := by
  cases event with
  | setDtlsTransports rtpDtlsTransport rtcpDtlsTransport =>
      have hreset : (transport.resetForNewTransports inputs
          rtpDtlsTransport).isSrtpActive = false :=
        (transport.bind_same inputs rtpDtlsTransport rtcpDtlsTransport).isSrtpActive.symm.trans
          hinactive
      simp [aborts, hreset]
  | _ => rfl

theorem step_not_apart (transport : DtlsSrtpTransport T)
    (event : DtlsInputs T × DtlsSrtpEvent T) (hinv : RtcpInv initial exports transport)
    (hmiss : ¬ transport.ActivatesApart api exports event) :
    ∃ next, step api transport event = some (.ok next) ∧
      ¬ next.RtcpApart initial exports := by
  simp only [ActivatesApart, not_forall] at hmiss
  obtain ⟨hattempts, hinactive, hcan, hmux, rtcpSource, hrtcpSource, hexports, hnot⟩ := hmiss
  have hpasses := not_aborts_of_not_active hinactive
  have hprepared := rtcpInv_prepare hinv hpasses
  obtain ⟨source, send, recv, pair, hrun⟩ := run_of_canKey hprepared.keyed hattempts hcan
  refine ⟨_, (step_eq_ok_iff api).mpr ⟨hpasses, hrun⟩, fun hapart => ?_⟩
  apply hnot
  rw [← rtcpKeyedFrom_keyed_iff]
  apply And.left
  apply hapart
  · simp [SrtpTransport.isSrtpActive]
  · simp [offSinceActivation_keyed hprepared.tracks, hinactive, hmux]
  · exact hrtcpSource
  · exact hexports

/-- Over any run on a new transport, RTCP packets have keys of their own if and only if
no event activates the transport without rtcp-mux while an RTCP transport is there whose
keys are not in place already. -/
theorem rtcpApart_iff (api : SrtpApi) (exports : T → Prop) (rtcpMuxEnabled : Bool)
    (events : List (DtlsInputs T × DtlsSrtpEvent T)) :
    Throughout (step api) (RtcpApart rtcpMuxEnabled exports) (create rtcpMuxEnabled) events ↔
      Guarded (step api) (ActivatesApart api exports) (create rtcpMuxEnabled) events := by
  have hinit : RtcpInv rtcpMuxEnabled exports (create rtcpMuxEnabled) :=
    .of_not_active rfl rfl
  exact guarded_iff_throughout step_rtcpInv (fun _ => RtcpInv.apart) step_not_apart hinit
    events

end Runs

/-! ## RTCP packets with RTP keys -/

/-- An RTP and an RTCP transport without rtcp-mux; the keys come when they are writable. -/
def separateRtcp : List (DtlsInputs ℕ × DtlsSrtpEvent ℕ) :=
  [({}, .setDtlsTransports (some 0) (some 1)), (connectedInputs, .onWritableState 1)]

/-- Both transports can export their keys, but there are no RTCP sessions. -/
theorem separateRtcp_not_apart :
    ¬ Throughout (step registeredSrtpApi)
      (RtcpApart false fun source =>
        (extractParams registeredSrtpApi connectedInputs.status
          connectedInputs.rtcp.keyExport (some source)).isSome)
      (create false) separateRtcp := by
  intro hall
  obtain ⟨final, hrun, hfinal⟩ := exists_of_reaches
    (fun transport : DtlsSrtpTransport ℕ => transport.isSrtpActive &&
      (muxHistory false transport.trace).offSinceActivation &&
      decide (transport.rtcpDtlsTransport = some 1) &&
      decide (transport.sendRtcpSession = none))
    (show reaches _ (run (step registeredSrtpApi) (create false) separateRtcp) = true by
      decide +kernel)
  simp only [Bool.and_eq_true, decide_eq_true_eq] at hfinal
  obtain ⟨⟨⟨hactive, hoff⟩, hsource⟩, hnone⟩ := hfinal
  have hexports : (extractParams registeredSrtpApi connectedInputs.status
      connectedInputs.rtcp.keyExport (some 1)).isSome := by decide +kernel
  obtain ⟨⟨sendSession, -, -, -, hsend, -⟩, -⟩ := hall separateRtcp [] final (by simp) hrun
    hactive hoff 1 hsource hexports
  exact absurd (hnone.symm.trans hsend) (by simp)

end DtlsSrtpTransport

end PeerConnection.Srtp
