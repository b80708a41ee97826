import PeerConnection.Core.RunHistory
import PeerConnection.Srtp.Undisturbed

/-!
# Ready to send

`RtpTransport` puts the readiness of its two directions together and fires
`SignalReadyToSend` when the result has changed.  The flags of the directions follow what the
packet transports say of themselves; keys come and go without touching any of it.
-/

namespace PeerConnection.Srtp

open PeerConnection.Runs

variable {T : Type*}

/-! ## The signals -/

def Observation.readySignal? : Observation T → Option Bool
  | .readyToSend ready => some ready
  | _ => none

/-- The values of `SignalReadyToSend`. -/
def readySignals (trace : List (Observation T)) : List Bool :=
  trace.filterMap Observation.readySignal?

@[simp]
theorem readySignals_append (trace extra : List (Observation T)) :
    readySignals (trace ++ extra) = readySignals trace ++ readySignals extra :=
  List.filterMap_append

@[simp]
theorem readySignals_writableState (signals : List Bool) :
    readySignals (signals.map (.writableState : Bool → Observation T)) = [] := by
  simp [readySignals, Observation.readySignal?]

namespace RtpTransport

/-- What has been signalled and what is kept agree. -/
structure Announced (transport : RtpTransport T) : Prop where
  settled : transport.Settled
  reports : ReportsChanges false transport.readyToSend (readySignals transport.trace)

@[simp]
theorem readySignals_observe (transport : RtpTransport T) (observation : Observation T) :
    readySignals (transport.observe observation).trace =
      readySignals transport.trace ++ observation.readySignal?.toList := by
  rw [observe, readySignals_append]
  cases hsignal : observation.readySignal? <;> simp [readySignals, hsignal]

/-- Only the trace has changed, and `SignalReadyToSend` has not fired. -/
def Unsignalled (before after : RtpTransport T) : Prop :=
  ∃ extra, readySignals extra = [] ∧
    after = { before with trace := before.trace ++ extra }

theorem Unsignalled.refl (transport : RtpTransport T) : Unsignalled transport transport :=
  ⟨[], rfl, by simp⟩

theorem Unsignalled.trans {first second third : RtpTransport T}
    (hfirst : Unsignalled first second) (hsecond : Unsignalled second third) :
    Unsignalled first third := by
  obtain ⟨front, hfront, rfl⟩ := hfirst
  obtain ⟨back, hback, rfl⟩ := hsecond
  exact ⟨front ++ back, by rw [readySignals_append, hfront, hback]; rfl,
    by simp only [List.append_assoc]⟩

theorem unsignalled_observe (transport : RtpTransport T) {observation : Observation T}
    (hother : observation.readySignal? = none) :
    Unsignalled transport (transport.observe observation) :=
  ⟨[observation], by simp [readySignals, hother], rfl⟩

theorem Unsignalled.rtpPacketTransport {before after : RtpTransport T}
    (hunsignalled : Unsignalled before after) :
    after.rtpPacketTransport = before.rtpPacketTransport := by
  obtain ⟨extra, -, rfl⟩ := hunsignalled
  rfl

theorem Unsignalled.announced {before after : RtpTransport T}
    (hunsignalled : Unsignalled before after) (hannounced : before.Announced) :
    after.Announced := by
  obtain ⟨extra, hextra, rfl⟩ := hunsignalled
  refine ⟨hannounced.settled, ?_⟩
  rw [readySignals_append, hextra, List.append_nil]
  exact hannounced.reports

/-- Whatever the flags were before, they are announced afterwards. -/
theorem announced_maybeSignalReadyToSend {transport : RtpTransport T}
    (hreports : ReportsChanges false transport.readyToSend (readySignals transport.trace)) :
    transport.maybeSignalReadyToSend.Announced := by
  by_cases hchange : (transport.rtpReadyToSend &&
      (transport.rtcpReadyToSend || transport.rtcpMuxEnabled)) ≠ transport.readyToSend
  · simp only [maybeSignalReadyToSend, if_pos hchange]
    refine ⟨rfl, ?_⟩
    simp only [observe, readySignals_append]
    exact hreports.report hchange
  · simp only [maybeSignalReadyToSend, if_neg hchange]
    exact ⟨(not_not.mp hchange).symm, hreports⟩

theorem Announced.setReadyToSend {transport : RtpTransport T}
    (hannounced : transport.Announced) (rtcp ready : Bool) :
    (transport.setReadyToSend rtcp ready).Announced := by
  cases rtcp <;> exact announced_maybeSignalReadyToSend hannounced.reports

theorem Announced.setRtcpMuxEnabled {transport : RtpTransport T}
    (hannounced : transport.Announced) (enable : Bool) :
    (transport.setRtcpMuxEnabled enable).Announced := by
  have hsilent : (.rtcpMuxEnabled enable : Observation T).readySignal? = none := rfl
  apply announced_maybeSignalReadyToSend
  rw [readySignals_observe, hsilent, Option.toList_none, List.append_nil]
  exact hannounced.reports

/-! ## The flags of the two directions -/

section Flags

variable (transport : RtpTransport T)

@[simp]
theorem rtpReadyToSend_maybeSignalReadyToSend :
    transport.maybeSignalReadyToSend.rtpReadyToSend = transport.rtpReadyToSend := by
  unfold maybeSignalReadyToSend
  simp only
  split <;> rfl

@[simp]
theorem rtcpReadyToSend_maybeSignalReadyToSend :
    transport.maybeSignalReadyToSend.rtcpReadyToSend = transport.rtcpReadyToSend := by
  unfold maybeSignalReadyToSend
  simp only
  split <;> rfl

@[simp]
theorem rtpReadyToSend_setReadyToSend (rtcp ready : Bool) :
    (transport.setReadyToSend rtcp ready).rtpReadyToSend =
      if rtcp then transport.rtpReadyToSend else ready := by
  cases rtcp <;> exact rtpReadyToSend_maybeSignalReadyToSend _

@[simp]
theorem rtcpReadyToSend_setReadyToSend (rtcp ready : Bool) :
    (transport.setReadyToSend rtcp ready).rtcpReadyToSend =
      if rtcp then ready else transport.rtcpReadyToSend := by
  cases rtcp <;> exact rtcpReadyToSend_maybeSignalReadyToSend _

end Flags

/-- The flags say of each direction what its packet transport has said last. -/
structure Knows (lastWord : T → Bool) (transport : RtpTransport T) : Prop where
  rtp : transport.rtpReadyToSend = transport.rtpPacketTransport.any lastWord
  rtcp : transport.rtcpReadyToSend = transport.rtcpPacketTransport.any lastWord

section Knows

variable {lastWord : T → Bool} {transport : RtpTransport T}

theorem Unsignalled.knows {before after : RtpTransport T}
    (hunsignalled : Unsignalled before after) (hknows : before.Knows lastWord) :
    after.Knows lastWord := by
  obtain ⟨extra, -, rfl⟩ := hunsignalled
  exact ⟨hknows.rtp, hknows.rtcp⟩

/-- What is signalled is what the packet transports in use have said. -/
theorem Knows.readyToSend (hknows : transport.Knows lastWord)
    (hannounced : transport.Announced) :
    transport.readyToSend = (transport.rtpPacketTransport.any lastWord &&
      (transport.rtcpPacketTransport.any lastWord || transport.rtcpMuxEnabled)) := by
  rw [hannounced.settled, hknows.rtp, hknows.rtcp]

theorem Knows.setRtcpMuxEnabled (hknows : transport.Knows lastWord) (enable : Bool) :
    (transport.setRtcpMuxEnabled enable).Knows lastWord := by
  have hsame := transport.setRtcpMuxEnabled_same enable
  constructor
  · rw [hsame.rtpPacketTransport]
    exact (rtpReadyToSend_maybeSignalReadyToSend _).trans hknows.rtp
  · rw [hsame.rtcpPacketTransport]
    exact (rtcpReadyToSend_maybeSignalReadyToSend _).trans hknows.rtcp

variable [DecidableEq T]

theorem Knows.setRtpPacketTransport {writable : T → Bool} {newPacketTransport : Option T}
    (hknows : transport.Knows lastWord)
    (hfresh : newPacketTransport ≠ transport.rtpPacketTransport →
      newPacketTransport.any writable = newPacketTransport.any lastWord) :
    (transport.setRtpPacketTransport writable newPacketTransport).Knows lastWord := by
  by_cases hsame : newPacketTransport = transport.rtpPacketTransport
  · rw [RtpTransport.setRtpPacketTransport, if_pos hsame]
    exact hknows
  · have hpointers := setReadyToSend_same
      { transport with rtpPacketTransport := newPacketTransport } false
      (pointsToWritable writable newPacketTransport)
    rw [RtpTransport.setRtpPacketTransport, if_neg hsame]
    constructor
    · rw [hpointers.rtpPacketTransport, rtpReadyToSend_setReadyToSend, if_neg (by simp)]
      exact hfresh hsame
    · rw [hpointers.rtcpPacketTransport, rtcpReadyToSend_setReadyToSend, if_neg (by simp)]
      exact hknows.rtcp

theorem Knows.setRtcpPacketTransport {writable : T → Bool} {newPacketTransport : Option T}
    (hknows : transport.Knows lastWord)
    (hfresh : newPacketTransport ≠ transport.rtcpPacketTransport →
      newPacketTransport.any writable = newPacketTransport.any lastWord) :
    (transport.setRtcpPacketTransport writable newPacketTransport).Knows lastWord := by
  by_cases hsame : newPacketTransport = transport.rtcpPacketTransport
  · rw [RtpTransport.setRtcpPacketTransport, if_pos hsame]
    exact hknows
  · have hpointers := setReadyToSend_same
      { transport with rtcpPacketTransport := newPacketTransport } true
      (pointsToWritable writable newPacketTransport)
    rw [RtpTransport.setRtcpPacketTransport, if_neg hsame]
    constructor
    · rw [hpointers.rtpPacketTransport, rtpReadyToSend_setReadyToSend, if_pos rfl]
      exact hknows.rtp
    · rw [hpointers.rtcpPacketTransport, rtcpReadyToSend_setReadyToSend, if_pos rfl]
      exact hfresh hsame

theorem Announced.setRtpPacketTransport (hannounced : transport.Announced)
    (writable : T → Bool) (newPacketTransport : Option T) :
    (transport.setRtpPacketTransport writable newPacketTransport).Announced := by
  unfold RtpTransport.setRtpPacketTransport
  split
  · exact hannounced
  · exact announced_maybeSignalReadyToSend hannounced.reports

theorem Announced.setRtcpPacketTransport (hannounced : transport.Announced)
    (writable : T → Bool) (newPacketTransport : Option T) :
    (transport.setRtcpPacketTransport writable newPacketTransport).Announced := by
  unfold RtpTransport.setRtcpPacketTransport
  split
  · exact hannounced
  · exact announced_maybeSignalReadyToSend hannounced.reports

/-! ## What a packet transport says -/

theorem any_update {pointer : Option T} {packetTransport : T} (word : Bool) :
    pointer.any (Function.update lastWord packetTransport word) =
      if pointer = some packetTransport then word else pointer.any lastWord := by
  cases pointer with
  | none => simp
  | some other =>
      by_cases hsame : other = packetTransport
      · simp [hsame]
      · simp [hsame]

/-- The two directions have packet transports of their own. -/
def Apart (transport : RtpTransport T) : Prop :=
  ∀ packetTransport, transport.rtpPacketTransport = some packetTransport →
    transport.rtcpPacketTransport ≠ some packetTransport

/-- `SignalReadyToSend` of this packet transport is connected. -/
def Connected (transport : RtpTransport T) (packetTransport : T) : Prop :=
  transport.rtpPacketTransport = some packetTransport ∨
    transport.rtcpPacketTransport = some packetTransport

theorem Knows.onReadyToSend {packetTransport : T} (hknows : transport.Knows lastWord)
    (hapart : transport.Apart) (hconnected : transport.Connected packetTransport) :
    (transport.onReadyToSend packetTransport).Knows
      (Function.update lastWord packetTransport true) := by
  have hpointers := transport.setReadyToSend_same
    (some packetTransport = transport.rtcpPacketTransport) true
  by_cases hrtcp : transport.rtcpPacketTransport = some packetTransport
  · have hrtp : transport.rtpPacketTransport ≠ some packetTransport :=
      fun hrtp => hapart packetTransport hrtp hrtcp
    constructor
    · rw [RtpTransport.onReadyToSend, hpointers.rtpPacketTransport, any_update, if_neg hrtp,
        rtpReadyToSend_setReadyToSend, if_pos (by simp [hrtcp]), hknows.rtp]
    · rw [RtpTransport.onReadyToSend, hpointers.rtcpPacketTransport, any_update, if_pos hrtcp,
        rtcpReadyToSend_setReadyToSend, if_pos (by simp [hrtcp])]
  · have hrtp : transport.rtpPacketTransport = some packetTransport :=
      hconnected.resolve_right hrtcp
    have hother : ¬ decide (some packetTransport = transport.rtcpPacketTransport) = true := by
      simpa using Ne.symm hrtcp
    constructor
    · rw [RtpTransport.onReadyToSend, hpointers.rtpPacketTransport, any_update, if_pos hrtp,
        rtpReadyToSend_setReadyToSend, if_neg hother]
    · rw [RtpTransport.onReadyToSend, hpointers.rtcpPacketTransport, any_update,
        if_neg hrtcp, rtcpReadyToSend_setReadyToSend, if_neg hother, hknows.rtcp]

end Knows

end RtpTransport

/-! ## Keys -/

namespace SrtpTransport

variable (writable : T → Bool) (transport : SrtpTransport T)

theorem unsignalled_maybeUpdateWritableState :
    RtpTransport.Unsignalled transport.toRtpTransport
      (transport.maybeUpdateWritableState writable).toRtpTransport := by
  obtain ⟨signals, heq⟩ := maybeUpdateWritableState_eq writable transport
  rw [heq]
  exact ⟨_, readySignals_writableState signals, rfl⟩

theorem unsignalled_resetParams :
    RtpTransport.Unsignalled transport.toRtpTransport
      (transport.resetParams writable).toRtpTransport :=
  unsignalled_maybeUpdateWritableState writable _

theorem unsignalled_setRtpParams (api : SrtpApi) (results : PairResults)
    (send recv : SessionParams) :
    RtpTransport.Unsignalled transport.toRtpTransport
      (transport.setRtpParams writable api results send recv).1.toRtpTransport := by
  simp only [setRtpParams]
  split_ifs
  · exact unsignalled_resetParams writable transport
  · exact unsignalled_resetParams writable transport
  · exact (RtpTransport.unsignalled_observe _ rfl).trans
      (unsignalled_maybeUpdateWritableState writable _)

theorem unsignalled_setRtcpParams (api : SrtpApi) (results : PairResults)
    (send recv : SessionParams) :
    RtpTransport.Unsignalled transport.toRtpTransport
      (transport.setRtcpParams writable api results send recv).1.toRtpTransport := by
  simp only [setRtcpParams]
  split_ifs
  · exact RtpTransport.Unsignalled.refl _
  · exact RtpTransport.Unsignalled.refl _
  · exact RtpTransport.Unsignalled.refl _
  · exact (RtpTransport.unsignalled_observe _ rfl).trans
      (unsignalled_maybeUpdateWritableState writable _)

end SrtpTransport

namespace DtlsSrtpTransport

section Setup

variable (api : SrtpApi) (inputs : DtlsInputs T) (transport : DtlsSrtpTransport T)

theorem unsignalled_setupRtpDtlsSrtp :
    RtpTransport.Unsignalled transport.toRtpTransport
      (transport.setupRtpDtlsSrtp api inputs).toRtpTransport := by
  unfold setupRtpDtlsSrtp
  split
  · exact RtpTransport.Unsignalled.refl _
  · exact (RtpTransport.unsignalled_observe _ rfl).trans
      (SrtpTransport.unsignalled_setRtpParams inputs.writable (transport.toSrtpTransport.observe _)
        api inputs.rtp.results _ _)

theorem unsignalled_setupRtcpDtlsSrtp :
    RtpTransport.Unsignalled transport.toRtpTransport
      (transport.setupRtcpDtlsSrtp api inputs).toRtpTransport := by
  unfold setupRtcpDtlsSrtp
  split
  · exact RtpTransport.Unsignalled.refl _
  split
  · exact RtpTransport.Unsignalled.refl _
  · exact (RtpTransport.unsignalled_observe _ rfl).trans
      (SrtpTransport.unsignalled_setRtcpParams inputs.writable
        (transport.toSrtpTransport.observe _) api inputs.rtcp.results _ _)

theorem unsignalled_run (kind : SetupKind) :
    RtpTransport.Unsignalled transport.toRtpTransport
      (kind.run api inputs transport).toRtpTransport := by
  have hrtp := unsignalled_setupRtpDtlsSrtp api inputs transport
  cases kind with
  | none => exact RtpTransport.Unsignalled.refl _
  | rtp => exact hrtp
  | maybe =>
      simp only [SetupKind.run, maybeSetupDtlsSrtp]
      split_ifs
      · exact RtpTransport.Unsignalled.refl _
      · exact hrtp.trans (unsignalled_setupRtcpDtlsSrtp api inputs _)
      · exact hrtp

end Setup

variable [DecidableEq T] {api : SrtpApi} {inputs : DtlsInputs T}

theorem unsignalled_resubscribe (transport : DtlsSrtpTransport T) (old new : Option T) :
    RtpTransport.Unsignalled transport.toRtpTransport
      (transport.resubscribe old new).toRtpTransport := by
  unfold resubscribe
  split
  · exact RtpTransport.Unsignalled.refl _
  · exact ⟨_, by simp [readySignals, Observation.readySignal?], rfl⟩

/-- What the operations of `RtpTransport` keep is kept by every event. -/
theorem holds_handle {Holds : RtpTransport T → Prop} {transport next : DtlsSrtpTransport T}
    {event : DtlsSrtpEvent T}
    (hsilent : ∀ before after, RtpTransport.Unsignalled before after → Holds before →
      Holds after)
    (hmux : ∀ before enable, Holds before → Holds (before.setRtcpMuxEnabled enable))
    (hbind : ∀ rtpDtlsTransport rtcpDtlsTransport,
      event = .setDtlsTransports rtpDtlsTransport rtcpDtlsTransport →
        ∀ before, Holds before →
          Holds (before.setRtcpPacketTransport inputs.writable rtcpDtlsTransport) ∧
            Holds (before.setRtpPacketTransport inputs.writable rtpDtlsTransport))
    (hbefore : Holds transport.toRtpTransport)
    (hhandle : transport.handle api inputs event = .ok next) : Holds next.toRtpTransport := by
  rw [handle_eq] at hhandle
  split_ifs at hhandle
  obtain rfl := Except.ok.inj hhandle
  apply hsilent _ _ (unsignalled_run api inputs _ _)
  cases event with
  | setDtlsTransports rtpDtlsTransport rtcpDtlsTransport =>
      have hreset : Holds
          (transport.resetForNewTransports inputs rtpDtlsTransport).toRtpTransport := by
        unfold resetForNewTransports
        split
        · exact hsilent _ _ (SrtpTransport.unsignalled_resetParams inputs.writable _) hbefore
        · exact hbefore
      have hrtcp : Holds ((transport.resetForNewTransports inputs rtpDtlsTransport).bindRtcp
          inputs.writable rtcpDtlsTransport).toRtpTransport :=
        (hbind rtpDtlsTransport rtcpDtlsTransport rfl _
          (hsilent _ _ (unsignalled_resubscribe _ _ _) hreset)).1
      exact (hbind rtpDtlsTransport rtcpDtlsTransport rfl _
        (hsilent _ _ (unsignalled_resubscribe _ _ _) hrtcp)).2
  | setActiveResetSrtpParams activeResetSrtpParams => exact hbefore
  | setRtcpMuxEnabled enable => exact hmux _ enable hbefore
  | updateSendEncryptedHeaderExtensionIds extensionIds =>
      simp only [prepare]
      split <;> exact hbefore
  | updateRecvEncryptedHeaderExtensionIds extensionIds =>
      simp only [prepare]
      split <;> exact hbefore
  | onDtlsState dtlsTransport state =>
      have htold : Holds (transport.observe (.dtlsState dtlsTransport state)).toRtpTransport :=
        hsilent _ _ (RtpTransport.unsignalled_observe _ rfl) hbefore
      simp only [prepare]
      split
      · exact hsilent _ _ (SrtpTransport.unsignalled_resetParams inputs.writable _) htold
      · exact htold
  | onWritableState packetTransport => exact hbefore

theorem announced_handle {transport next : DtlsSrtpTransport T} {event : DtlsSrtpEvent T}
    (hannounced : transport.toRtpTransport.Announced)
    (hhandle : transport.handle api inputs event = .ok next) :
    next.toRtpTransport.Announced :=
  holds_handle (fun _ _ hunsignalled => hunsignalled.announced)
    (fun _ enable hbefore => hbefore.setRtcpMuxEnabled enable)
    (fun _ _ _ _ hbefore => ⟨hbefore.setRtcpPacketTransport inputs.writable _,
      hbefore.setRtpPacketTransport inputs.writable _⟩)
    hannounced hhandle

end DtlsSrtpTransport

end PeerConnection.Srtp
