import PeerConnection.Transport.SctpTransport

/-!
# What SCTP transports go through

Every change of the state is reported, and nothing else.  A closed transport stays closed
unless its association comes up: the handler of that event does not look at the state.  The
callback of a DTLS transport is only served while that transport is the one given last.
-/

namespace PeerConnection.Transport

open PeerConnection.Runs
open PeerConnection.Srtp (DtlsTransportState)

variable {D I O : Type*}

namespace SctpTransport

variable {transport : SctpTransport D I O}

@[simp]
theorem state_updateInformation (state : SctpTransportState) :
    (transport.updateInformation state).info.state = state := by
  unfold updateInformation
  cases transport.observer <;> rfl

@[simp]
theorem dtlsTransport_updateInformation (state : SctpTransportState) :
    (transport.updateInformation state).dtlsTransport = transport.dtlsTransport := by
  unfold updateInformation
  cases transport.observer <;> rfl

@[simp]
theorem dtlsTransport_setDtlsTransport (internalOf : D → I) (dtlsTransport : Option D) :
    (transport.setDtlsTransport internalOf dtlsTransport).dtlsTransport = dtlsTransport := by
  unfold setDtlsTransport
  cases transport.internal with
  | none => simp
  | some internal => cases dtlsTransport <;> simp

@[simp]
theorem dtlsTransport_onAssociationChangeCommunicationUp
    (maxOutboundStreams maxInboundStreams : Option ℤ) :
    (transport.onAssociationChangeCommunicationUp maxOutboundStreams
      maxInboundStreams).dtlsTransport = transport.dtlsTransport := by
  unfold onAssociationChangeCommunicationUp
  cases maxOutboundStreams <;> cases maxInboundStreams <;> simp

/-- A DTLS transport takes a new SCTP transport into the connecting state, and any other one
nowhere. -/
theorem state_setDtlsTransport (internalOf : D → I) (dtlsTransport : Option D)
    (hold : transport.info.state ≠ .new) :
    (transport.setDtlsTransport internalOf dtlsTransport).info.state = transport.info.state := by
  unfold setDtlsTransport
  cases transport.internal with
  | none => simp
  | some internal => cases dtlsTransport <;> simp [hold]

@[simp]
theorem state_onAssociationChangeCommunicationUp
    (maxOutboundStreams maxInboundStreams : Option ℤ) :
    (transport.onAssociationChangeCommunicationUp maxOutboundStreams
      maxInboundStreams).info.state = .connected := by
  unfold onAssociationChangeCommunicationUp
  cases maxOutboundStreams <;> cases maxInboundStreams <;> simp

/-- `Start` leaves the state as it is, or closes the transport. -/
theorem start_cases {pushDown : ℤ → ℤ → ℤ → Bool} {localPort remotePort maxMessageSize : ℤ}
    {next : SctpTransport D I O}
    (hstart : transport.start pushDown localPort remotePort maxMessageSize = .ok next) :
    ∃ sized : SctpTransport D I O, sized.info.state = transport.info.state ∧
      sized.trace = transport.trace ∧ sized.observer = transport.observer ∧
      sized.dtlsTransport = transport.dtlsTransport ∧
      (next = sized ∨ next = sized.updateInformation .closed) := by
  refine ⟨{ transport with
    info := { transport.info with maxMessageSize := some maxMessageSize } },
    rfl, rfl, rfl, rfl, ?_⟩
  unfold start at hstart
  split at hstart
  · exact absurd hstart (by simp)
  · split at hstart
    · exact Or.inl (Except.ok.inj hstart).symm
    · exact Or.inr (Except.ok.inj hstart).symm

/-- An event that gets past the check belongs to the current DTLS transport, and leaves the
state as it is or closes the transport. -/
theorem onDtlsStateChange_cases [DecidableEq I] {internalOf : D → I} {dtls : I}
    {state : DtlsTransportState} {next : SctpTransport D I O}
    (hevent : transport.onDtlsStateChange internalOf dtls state = .ok next) :
    next = transport ∨ next = transport.updateInformation .closed := by
  unfold onDtlsStateChange at hevent
  split at hevent
  · exact absurd hevent (by simp)
  · split at hevent
    · exact absurd hevent (by simp)
    · split at hevent
      · exact Or.inr (Except.ok.inj hevent).symm
      · exact Or.inl (Except.ok.inj hevent).symm

/-! ## Reports -/

/-- A registered observer has been told of a change of the state, and of nothing else. -/
def Reported (before after : SctpTransport D I O) : Prop :=
  after.trace = before.trace ++
    if after.info.state = before.info.state then []
    else before.observer.toList.map fun observer => (observer, after.info)

theorem reported_of_same {before after : SctpTransport D I O}
    (hstate : after.info.state = before.info.state) (htrace : after.trace = before.trace) :
    Reported before after := by
  rw [Reported, if_pos hstate, List.append_nil, htrace]

/-- Whatever else a handler has changed, `UpdateInformation` reports the state. -/
theorem reported_updateInformation {before changed : SctpTransport D I O}
    (hstate : changed.info.state = before.info.state) (htrace : changed.trace = before.trace)
    (hobserver : changed.observer = before.observer) (state : SctpTransportState) :
    Reported before (changed.updateInformation state) := by
  rw [Reported, state_updateInformation]
  unfold updateInformation
  cases hregistered : changed.observer with
  | none => simp [← hobserver, hregistered, htrace]
  | some observer =>
      by_cases hsame : state = before.info.state
      · simp [hsame, hstate, htrace]
      · simp [hsame, hstate, htrace, ← hobserver, hregistered]

theorem reported_setDtlsTransport (internalOf : D → I) (transport : SctpTransport D I O)
    (dtlsTransport : Option D) :
    Reported transport (transport.setDtlsTransport internalOf dtlsTransport) := by
  unfold setDtlsTransport
  split
  · exact reported_updateInformation rfl rfl rfl _
  · exact reported_updateInformation rfl rfl rfl _
  · exact reported_updateInformation rfl rfl rfl _

theorem reported_onAssociationChangeCommunicationUp (transport : SctpTransport D I O)
    (maxOutboundStreams maxInboundStreams : Option ℤ) :
    Reported transport (transport.onAssociationChangeCommunicationUp maxOutboundStreams
      maxInboundStreams) := by
  unfold onAssociationChangeCommunicationUp
  split
  · exact reported_updateInformation rfl rfl rfl _
  · exact reported_updateInformation rfl rfl rfl _

end SctpTransport

open SctpTransport

variable [DecidableEq I] {internalOf : D → I} {transport next : SctpTransport D I O}
  {event : SctpEvent D I O}

theorem reported_sctpStep (hstep : sctpStep internalOf transport event = some (.ok next)) :
    Reported transport next := by
  cases event with
  | registerObserver observer =>
      obtain rfl := Except.ok.inj (Option.some.inj hstep)
      exact reported_of_same rfl rfl
  | unregisterObserver =>
      obtain rfl := Except.ok.inj (Option.some.inj hstep)
      exact reported_of_same rfl rfl
  | setDtlsTransport dtlsTransport =>
      obtain rfl := Except.ok.inj (Option.some.inj hstep)
      exact reported_setDtlsTransport internalOf transport dtlsTransport
  | start pushDown localPort remotePort maxMessageSize =>
      obtain ⟨sized, hstate, htrace, hobserver, -, rfl | rfl⟩ :=
        start_cases (Option.some.inj hstep)
      · exact reported_of_same hstate htrace
      · exact reported_updateInformation hstate htrace hobserver .closed
  | clear =>
      obtain rfl := Except.ok.inj (Option.some.inj hstep)
      exact reported_updateInformation rfl rfl rfl .closed
  | associationUp maxOutboundStreams maxInboundStreams =>
      rw [sctpStep, Option.ite_none_right_eq_some] at hstep
      obtain rfl := Except.ok.inj (Option.some.inj hstep.2)
      exact reported_onAssociationChangeCommunicationUp transport _ _
  | dtlsState dtls state =>
      rw [sctpStep, Option.ite_none_right_eq_some] at hstep
      rcases onDtlsStateChange_cases (Option.some.inj hstep.2) with rfl | rfl
      · exact reported_of_same rfl rfl
      · exact reported_updateInformation rfl rfl rfl .closed

/-! ## The closed state -/

/-- No association comes up while the transport is closed and not cleared. -/
def StaysClosed (transport : SctpTransport D I O) (event : SctpEvent D I O) : Prop :=
  ∀ maxOutboundStreams maxInboundStreams,
    event = .associationUp maxOutboundStreams maxInboundStreams →
      transport.internal.isSome → transport.info.state ≠ .closed

theorem closed_sctpStep (hclosed : transport.info.state = .closed)
    (hstays : StaysClosed transport event)
    (hstep : sctpStep internalOf transport event = some (.ok next)) :
    next.info.state = .closed := by
  cases event with
  | registerObserver observer =>
      obtain rfl := Except.ok.inj (Option.some.inj hstep)
      exact hclosed
  | unregisterObserver =>
      obtain rfl := Except.ok.inj (Option.some.inj hstep)
      exact hclosed
  | setDtlsTransport dtlsTransport =>
      obtain rfl := Except.ok.inj (Option.some.inj hstep)
      rw [state_setDtlsTransport internalOf dtlsTransport (by simp [hclosed]), hclosed]
  | start pushDown localPort remotePort maxMessageSize =>
      obtain ⟨sized, hstate, -, -, -, rfl | rfl⟩ := start_cases (Option.some.inj hstep)
      · exact hstate.trans hclosed
      · exact state_updateInformation .closed
  | clear =>
      obtain rfl := Except.ok.inj (Option.some.inj hstep)
      exact state_updateInformation .closed
  | associationUp maxOutboundStreams maxInboundStreams =>
      rw [sctpStep, Option.ite_none_right_eq_some] at hstep
      exact absurd hclosed (hstays _ _ rfl hstep.1)
  | dtlsState dtls state =>
      rw [sctpStep, Option.ite_none_right_eq_some] at hstep
      rcases onDtlsStateChange_cases (Option.some.inj hstep.2) with rfl | rfl
      · exact hclosed
      · exact state_updateInformation .closed

/-- What an observer may rely on in a run: a closed transport is closed for good, and every
change is reported when it happens. -/
structure FinalAndReported (internalOf : D → I) (events : List (SctpEvent D I O)) : Prop where
  final : ∀ before between after closed later, events = before ++ between ++ after →
    run (sctpStep internalOf) create before = some (.ok closed) →
    closed.info.state = .closed →
    run (sctpStep internalOf) closed between = some (.ok later) → later.info.state = .closed
  reported : ∀ before event after passed next, events = before ++ event :: after →
    run (sctpStep internalOf) create before = some (.ok passed) →
    sctpStep internalOf passed event = some (.ok next) → Reported passed next

/-- A run is final and reported exactly when no association comes up on a closed transport. -/
theorem finalAndReported_iff (internalOf : D → I) (events : List (SctpEvent D I O)) :
    FinalAndReported internalOf events ↔
      Guarded (sctpStep internalOf) StaysClosed create events := by
  constructor
  · intro hruns
    apply guarded_of_steps
    rintro before event after closed hevents hbefore outbound inbound rfl hinternal hclosed
    have hstep : sctpStep internalOf closed (.associationUp outbound inbound) =
        some (.ok (closed.onAssociationChangeCommunicationUp outbound inbound)) :=
      if_pos hinternal
    have hlater := hruns.final before [.associationUp outbound inbound] after closed _
      (by rw [hevents, List.append_assoc, List.singleton_append]) hbefore hclosed
      (by rw [run_cons_of_ok hstep, run_nil])
    rw [state_onAssociationChangeCommunicationUp] at hlater
    exact absurd hlater (by simp)
  · intro hguarded
    constructor
    · rintro before between after closed later rfl hbefore hclosed hbetween
      rw [List.append_assoc] at hguarded
      have hrest := ((guarded_append_iff hbefore).mp hguarded).2
      have hguard := ((guarded_append_iff hbetween).mp hrest).1
      exact guarded_run_induction (fun _ => True)
        (fun _ _ _ hinv hguard hstep => closed_sctpStep hinv hguard hstep)
        (fun _ _ _ _ _ _ => trivial) hclosed hguard hbetween
    · rintro before event after passed next - - hstep
      exact reported_sctpStep hstep

/-- DTLS closes, and the association comes up after that. -/
def reopeningEvents : List (SctpEvent ℕ ℕ ℕ) :=
  [.registerObserver 0, .setDtlsTransport (some 0), .dtlsState 0 .closed,
    .associationUp (some 16) (some 16)]

theorem not_finalAndReported_reopeningEvents :
    ¬ FinalAndReported (fun dtls => dtls) reopeningEvents := by
  intro hruns
  have hfinal := hruns.final (reopeningEvents.take 3) (reopeningEvents.drop 3) [] _ _ rfl rfl rfl
    rfl
  exact absurd hfinal (by decide)

/-! ## Late events of DTLS transports -/

/-- The argument of the last `SetDtlsTransport`, unless `Clear` came after it. -/
def lastDtlsTransport (events : List (SctpEvent D I O)) : Option D :=
  events.foldl (fun last event =>
    match event with
    | .setDtlsTransport dtlsTransport => dtlsTransport
    | .clear => none
    | _ => last) none

theorem dtlsTransport_of_run {events : List (SctpEvent D I O)}
    (hrun : run (sctpStep internalOf) create events = some (.ok transport)) :
    transport.dtlsTransport = lastDtlsTransport events := by
  refine run_projection (fun before event after hstep => ?_) hrun
  cases event with
  | registerObserver observer =>
      obtain rfl := Except.ok.inj (Option.some.inj hstep)
      rfl
  | unregisterObserver =>
      obtain rfl := Except.ok.inj (Option.some.inj hstep)
      rfl
  | setDtlsTransport dtlsTransport =>
      obtain rfl := Except.ok.inj (Option.some.inj hstep)
      exact dtlsTransport_setDtlsTransport internalOf dtlsTransport
  | start pushDown localPort remotePort maxMessageSize =>
      obtain ⟨sized, -, -, -, hdtls, rfl | rfl⟩ := start_cases (Option.some.inj hstep)
      · exact hdtls
      · exact (dtlsTransport_updateInformation .closed).trans hdtls
  | clear =>
      obtain rfl := Except.ok.inj (Option.some.inj hstep)
      exact dtlsTransport_updateInformation .closed
  | associationUp maxOutboundStreams maxInboundStreams =>
      rw [sctpStep, Option.ite_none_right_eq_some] at hstep
      obtain rfl := Except.ok.inj (Option.some.inj hstep.2)
      exact dtlsTransport_onAssociationChangeCommunicationUp _ _
  | dtlsState dtls state =>
      rw [sctpStep, Option.ite_none_right_eq_some] at hstep
      rcases onDtlsStateChange_cases (Option.some.inj hstep.2) with rfl | rfl
      · rfl
      · exact dtlsTransport_updateInformation .closed

/-- The two ways in which `OnDtlsStateChange` ends the program. -/
def InDtlsStateChange (reason : SctpFault) : Prop :=
  reason = .nullDtlsTransport ∨ reason = .checkFailed

/-- The handler gets past the check exactly for the current DTLS transport. -/
theorem onDtlsStateChange_ok_iff {dtls : I} {state : DtlsTransportState} :
    (∃ next, transport.onDtlsStateChange internalOf dtls state = .ok next) ↔
      transport.dtlsTransport.map internalOf = some dtls := by
  unfold onDtlsStateChange
  cases transport.dtlsTransport with
  | none => simp
  | some current =>
      by_cases hcurrent : dtls = internalOf current
      · subst hcurrent
        by_cases hclosed : state = .closed ∨ state = .failed <;> simp [hclosed]
      · simp [hcurrent, Ne.symm hcurrent]

/-- Only DTLS events fault in these ways. -/
theorem exists_dtlsState_of_fault {reason : SctpFault} (hreason : InDtlsStateChange reason)
    (hstep : sctpStep internalOf transport event = some (.error reason)) :
    ∃ dtls state, event = .dtlsState dtls state ∧
      transport.onDtlsStateChange internalOf dtls state = .error reason := by
  cases event with
  | dtlsState dtls state =>
      rw [sctpStep, Option.ite_none_right_eq_some] at hstep
      exact ⟨dtls, state, rfl, Option.some.inj hstep.2⟩
  | start pushDown localPort remotePort maxMessageSize =>
      have hstart := Option.some.inj hstep
      unfold SctpTransport.start at hstart
      split at hstart
      · obtain rfl := Except.error.inj hstart
        exact absurd hreason (by simp [InDtlsStateChange])
      · split at hstart <;> exact absurd hstart (by simp)
  | associationUp maxOutboundStreams maxInboundStreams =>
      rw [sctpStep, Option.ite_none_right_eq_some] at hstep
      exact absurd (Option.some.inj hstep.2) (by simp)
  | _ => exact absurd (Option.some.inj hstep) (by simp)

theorem inDtlsStateChange_of_error {dtls : I} {state : DtlsTransportState} {reason : SctpFault}
    (hevent : transport.onDtlsStateChange internalOf dtls state = .error reason) :
    InDtlsStateChange reason := by
  unfold onDtlsStateChange at hevent
  split at hevent
  · exact Or.inl (Except.error.inj hevent).symm
  · split at hevent
    · exact Or.inr (Except.error.inj hevent).symm
    · split at hevent <;> exact absurd hevent (by simp)

/-- A run is safe exactly when every DTLS event comes from the transport that was given last,
with no `Clear` since. -/
theorem lateEvents_safe_iff {events : List (SctpEvent D I O)}
    {outcome : Except SctpFault (SctpTransport D I O)}
    (hrun : run (sctpStep internalOf) create events = some outcome) :
    (∀ reason, outcome = .error reason → ¬ InDtlsStateChange reason) ↔
      ∀ before dtls state after, events = before ++ .dtlsState dtls state :: after →
        (lastDtlsTransport before).map internalOf = some dtls := by
  constructor
  · rintro hsafe before dtls state after rfl
    obtain ⟨passed, hbefore, hrest⟩ := exists_middle_of_run_append (by simp) hrun
    rw [← dtlsTransport_of_run hbefore, ← onDtlsStateChange_ok_iff]
    rcases run_cons_cases hrest with ⟨next, hstep, -⟩ | ⟨reason, hstep, -, hout⟩
    · rw [sctpStep, Option.ite_none_right_eq_some] at hstep
      exact ⟨next, Option.some.inj hstep.2⟩
    · rw [sctpStep, Option.ite_none_right_eq_some] at hstep
      have hreason := inDtlsStateChange_of_error (Option.some.inj hstep.2)
      exact absurd hreason (hsafe reason hout)
  · rintro hcurrent reason rfl hreason
    obtain ⟨before, event, passed, rfl, hbefore, hstep⟩ := exists_fault_step hrun
    obtain ⟨dtls, state, rfl, hfault⟩ := exists_dtlsState_of_fault hreason hstep
    have hlast := hcurrent before dtls state [] rfl
    rw [← dtlsTransport_of_run hbefore, ← onDtlsStateChange_ok_iff] at hlast
    obtain ⟨next, hnext⟩ := hlast
    exact absurd (hnext.symm.trans hfault) (by simp)

/-- The transport of the last `SetDtlsTransport` reports that it is connected. -/
def currentEvents : List (SctpEvent ℕ ℕ ℕ) :=
  [.setDtlsTransport (some 0), .setDtlsTransport (some 1), .dtlsState 1 .connected]

theorem lateEvents_safe_currentEvents :
    (lastDtlsTransport (currentEvents.take 2)).map (fun dtls => dtls) = some 1 :=
  (@lateEvents_safe_iff ℕ ℕ ℕ _ (fun dtls => dtls) currentEvents _ rfl).mp (by simp)
    (currentEvents.take 2) 1 .connected [] rfl

/-- The callbacks are never taken back: after `Clear` they dereference null, and after
another DTLS transport they fail the check. -/
theorem lateEvents_fault :
    run (sctpStep fun dtls => dtls) (create : SctpTransport ℕ ℕ ℕ)
        [.setDtlsTransport (some 0), .clear, .dtlsState 0 .closed] =
      some (.error .nullDtlsTransport) ∧
    run (sctpStep fun dtls => dtls) (create : SctpTransport ℕ ℕ ℕ)
        [.setDtlsTransport (some 0), .setDtlsTransport (some 1), .dtlsState 0 .closed] =
      some (.error .checkFailed) :=
  ⟨rfl, rfl⟩

end PeerConnection.Transport
