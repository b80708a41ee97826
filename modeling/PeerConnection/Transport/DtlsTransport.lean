import PeerConnection.Core.Runs
import PeerConnection.Srtp.RtpTransport

/-!
# The DTLS transport that is handed out

`DtlsTransport` wraps the internal DTLS transport, keeps a copy of what it says of itself and
reports to an observer.  `Clear` gives up the internal transport, and with it the pointer that
`IceTransportWithPointer` holds into it.  What the internal transport answers and when it calls
back are inputs of the events; its destructor may call back too.
-/

namespace PeerConnection.Transport

open PeerConnection.Runs
open PeerConnection.Srtp (DtlsTransportState)

/-! ## The class -/

/-- `libice::DtlsTransportInformation`; `C` are the certificate chains. -/
structure DtlsTransportInformation (C : Type*) where
  state : DtlsTransportState
  tlsVersion : Option ℤ := none
  sslCipherSuite : Option ℤ := none
  srtpCipherSuite : Option ℤ := none
  remoteSslCertificates : Option C := none
  deriving DecidableEq, Repr

/-- What `libice::DtlsTransportInternal` answers; a getter that returns false is `none`. -/
structure DtlsTransportInternal (C : Type*) where
  dtlsState : DtlsTransportState := .new
  sslVersionBytes : Option ℤ := none
  sslCipherSuite : Option ℤ := none
  srtpCryptoSuite : Option ℤ := none
  remoteSslCertChain : Option C := none
  deriving DecidableEq, Repr

/-- `internal()->dtls_state()` without an internal transport. -/
inductive DtlsFault where
  | nullInternal
  deriving DecidableEq, Repr

/-- `I` are the internal ICE transports and `O` the observers. -/
structure DtlsTransport (C I O : Type*) where
  info : DtlsTransportInformation C := { state := .new }
  internal : Option (DtlsTransportInternal C)
  /-- `internal_` of the `IceTransportWithPointer`. -/
  iceTransport : Option I
  observer : Option O := none
  /-- The calls of `OnStateChange`. -/
  trace : List (O × DtlsTransportInformation C) := []
  deriving DecidableEq, Repr

namespace DtlsTransport

variable {C I O : Type*}

/-- The information that `UpdateInformation` puts together. -/
def informationOf : Option (DtlsTransportInternal C) → DtlsTransportInformation C
  | none => { state := .closed }
  | some internal =>
      if internal.dtlsState = .connected then
        match internal.sslVersionBytes, internal.sslCipherSuite, internal.srtpCryptoSuite with
        | some tlsVersion, some sslCipherSuite, some srtpCipher =>
            { state := internal.dtlsState
              tlsVersion := some tlsVersion
              sslCipherSuite := some sslCipherSuite
              srtpCipherSuite := some srtpCipher
              remoteSslCertificates := internal.remoteSslCertChain }
        | _, _, _ =>
            { state := internal.dtlsState
              remoteSslCertificates := internal.remoteSslCertChain }
      else { state := internal.dtlsState }

def updateInformation (transport : DtlsTransport C I O) : DtlsTransport C I O :=
  { transport with info := informationOf transport.internal }

/-- `observer_->OnStateChange(Information())`, if there is an observer. -/
def report (transport : DtlsTransport C I O) : DtlsTransport C I O :=
  match transport.observer with
  | none => transport
  | some observer => { transport with trace := transport.trace ++ [(observer, transport.info)] }

/-- The constructor, with the ICE transport of the internal DTLS transport. -/
def create (internal : DtlsTransportInternal C) (iceTransport : I) : DtlsTransport C I O :=
  updateInformation { internal := some internal, iceTransport := some iceTransport }

def registerObserver (transport : DtlsTransport C I O) (observer : O) : DtlsTransport C I O :=
  { transport with observer := some observer }

def unregisterObserver (transport : DtlsTransport C I O) : DtlsTransport C I O :=
  { transport with observer := none }

def onInternalDtlsState (transport : DtlsTransport C I O) : DtlsTransport C I O :=
  transport.updateInformation.report

/-- The destructor of the internal transport calls back this many times, when the pointer to
it has already been given up. -/
def release (transport : DtlsTransport C I O) : ℕ → DtlsTransport C I O
  | 0 => transport
  | callbacks + 1 => transport.onInternalDtlsState.release callbacks

def clear (transport : DtlsTransport C I O) (callbacks : ℕ) :
    Except DtlsFault (DtlsTransport C I O) :=
  match transport.internal with
  | none => .error .nullInternal
  | some internal =>
      let mustSendEvent := internal.dtlsState ≠ .closed
      let cleared :=
        { transport with internal := none, iceTransport := none }.updateInformation
      let reported := if mustSendEvent then cleared.report else cleared
      .ok (reported.release callbacks)

end DtlsTransport

/-! ## Events -/

inductive DtlsEvent (C O : Type*) where
  | registerObserver (observer : O)
  | unregisterObserver
  /-- From now on the internal transport answers this; it has not called back. -/
  | internalChange (internal : DtlsTransportInternal C)
  /-- The internal transport calls back. -/
  | internalState
  | clear (callbacks : ℕ)

variable {C I O : Type*}

/-- An internal transport that has been released is not heard of any more. -/
def dtlsStep : System (DtlsTransport C I O) (DtlsEvent C O) DtlsFault := fun transport event =>
  match event with
  | .registerObserver observer => some (.ok (transport.registerObserver observer))
  | .unregisterObserver => some (.ok transport.unregisterObserver)
  | .internalChange internal =>
      transport.internal.map fun _ => .ok { transport with internal := some internal }
  | .internalState => transport.internal.map fun _ => .ok transport.onInternalDtlsState
  | .clear callbacks => some (transport.clear callbacks)

/-! ## The state of the wrapper -/

namespace DtlsTransport

/-- The details of the session are all there or not at all, and only while connected. -/
structure WellInformed (info : DtlsTransportInformation C) : Prop where
  complete : (info.tlsVersion = none ∧ info.sslCipherSuite = none ∧
      info.srtpCipherSuite = none) ∨
    (info.tlsVersion ≠ none ∧ info.sslCipherSuite ≠ none ∧ info.srtpCipherSuite ≠ none)
  connected : info.state ≠ .connected → info = { state := info.state }

/-- No pointer outlives the internal transport, and without it the state is closed. -/
structure Sound (iceTransport : I) (transport : DtlsTransport C I O) : Prop where
  wellInformed : WellInformed transport.info
  iceTransport : transport.iceTransport = transport.internal.map fun _ => iceTransport
  cleared : transport.internal = none → transport.info = { state := .closed }

theorem wellInformed_informationOf (internal : Option (DtlsTransportInternal C)) :
    WellInformed (informationOf internal) := by
  cases internal with
  | none => exact ⟨Or.inl ⟨rfl, rfl, rfl⟩, fun _ => rfl⟩
  | some internal =>
      by_cases hconnected : internal.dtlsState = .connected
      · rw [informationOf, if_pos hconnected]
        split
        · exact ⟨Or.inr ⟨by simp, by simp, by simp⟩, fun hother => absurd hconnected hother⟩
        · exact ⟨Or.inl ⟨rfl, rfl, rfl⟩, fun hother => absurd hconnected hother⟩
      · rw [informationOf, if_neg hconnected]
        exact ⟨Or.inl ⟨rfl, rfl, rfl⟩, fun _ => rfl⟩

@[simp]
theorem state_informationOf (internal : DtlsTransportInternal C) :
    (informationOf (some internal)).state = internal.dtlsState := by
  rw [informationOf]
  split_ifs
  · split <;> rfl
  · rfl

section Report

variable (transport : DtlsTransport C I O)

@[simp]
theorem info_report : transport.report.info = transport.info := by
  unfold report
  cases transport.observer <;> rfl

@[simp]
theorem internal_report : transport.report.internal = transport.internal := by
  unfold report
  cases transport.observer <;> rfl

@[simp]
theorem iceTransport_report : transport.report.iceTransport = transport.iceTransport := by
  unfold report
  cases transport.observer <;> rfl

@[simp]
theorem observer_report : transport.report.observer = transport.observer := by
  unfold report
  cases hobserver : transport.observer
  · exact hobserver
  · rfl

end Report

section Sound

variable {iceTransport : I} {transport : DtlsTransport C I O}

theorem sound_updateInformation
    (hpointer : transport.iceTransport = transport.internal.map fun _ => iceTransport) :
    Sound iceTransport transport.updateInformation where
  wellInformed := wellInformed_informationOf transport.internal
  iceTransport := hpointer
  cleared hnone := by
    have hinternal : transport.internal = none := hnone
    simp [updateInformation, hinternal, informationOf]

theorem Sound.report (hsound : Sound iceTransport transport) :
    Sound iceTransport transport.report where
  wellInformed := by
    rw [info_report]
    exact hsound.wellInformed
  iceTransport := by
    rw [iceTransport_report, internal_report]
    exact hsound.iceTransport
  cleared := by
    rw [internal_report, info_report]
    exact hsound.cleared

theorem Sound.onInternalDtlsState (hsound : Sound iceTransport transport) :
    Sound iceTransport transport.onInternalDtlsState :=
  (sound_updateInformation hsound.iceTransport).report

theorem Sound.release (hsound : Sound iceTransport transport) (callbacks : ℕ) :
    Sound iceTransport (transport.release callbacks) := by
  induction callbacks generalizing transport with
  | zero => exact hsound
  | succ callbacks ih => exact ih hsound.onInternalDtlsState

theorem sound_clear {next : DtlsTransport C I O} {callbacks : ℕ}
    (hclear : transport.clear callbacks = .ok next) : Sound iceTransport next := by
  have hcleared : Sound iceTransport
      { transport with internal := none, iceTransport := none }.updateInformation :=
    sound_updateInformation rfl
  rw [clear] at hclear
  split at hclear
  · exact absurd hclear (by simp)
  · obtain rfl := Except.ok.inj hclear
    split_ifs
    · exact hcleared.report.release callbacks
    · exact hcleared.release callbacks

theorem sound_step {event : DtlsEvent C O} {next : DtlsTransport C I O}
    (hsound : Sound iceTransport transport)
    (hstep : dtlsStep transport event = some (.ok next)) : Sound iceTransport next := by
  cases event with
  | registerObserver observer =>
      obtain rfl := Except.ok.inj (Option.some.inj hstep)
      exact ⟨hsound.wellInformed, hsound.iceTransport, hsound.cleared⟩
  | unregisterObserver =>
      obtain rfl := Except.ok.inj (Option.some.inj hstep)
      exact ⟨hsound.wellInformed, hsound.iceTransport, hsound.cleared⟩
  | internalChange changed =>
      obtain ⟨internal, hinternal, hnext⟩ := Option.map_eq_some_iff.mp hstep
      obtain rfl := Except.ok.inj hnext
      refine ⟨hsound.wellInformed, ?_, fun hnone => absurd hnone (by simp)⟩
      rw [hsound.iceTransport, hinternal]
      rfl
  | internalState =>
      obtain ⟨internal, _, hnext⟩ := Option.map_eq_some_iff.mp hstep
      obtain rfl := Except.ok.inj hnext
      exact hsound.onInternalDtlsState
  | clear callbacks => exact sound_clear (Option.some.inj hstep)

end Sound

/-! ## What `Clear` reports -/

section Clear

variable {transport : DtlsTransport C I O}

/-- That many reports of the closed state, if there is an observer. -/
def closedReports (transport : DtlsTransport C I O) (reports : ℕ) :
    List (O × DtlsTransportInformation C) :=
  match transport.observer with
  | none => []
  | some observer => List.replicate reports (observer, { state := .closed })

theorem release_of_cleared (hinternal : transport.internal = none)
    (hinfo : transport.info = { state := .closed }) (callbacks : ℕ) :
    transport.release callbacks =
      { transport with trace := transport.trace ++ transport.closedReports callbacks } := by
  induction callbacks generalizing transport with
  | zero =>
      obtain ⟨info, internal, iceTransport, observer, trace⟩ := transport
      cases observer <;> simp [release, closedReports]
  | succ callbacks ih =>
      have hupdated : transport.updateInformation = transport := by
        cases transport
        cases hinternal
        cases hinfo
        rfl
      rw [release, onInternalDtlsState, hupdated,
        ih ((internal_report transport).trans hinternal) ((info_report transport).trans hinfo)]
      cases hobserver : transport.observer with
      | none => simp [closedReports, report, hobserver]
      | some observer =>
          simp [closedReports, report, hobserver, hinfo, List.replicate_succ]

/-- How often `Clear` reports. -/
def clearReports (internal : DtlsTransportInternal C) (callbacks : ℕ) : ℕ :=
  if internal.dtlsState = .closed then callbacks else callbacks + 1

theorem clear_of_some {internal : DtlsTransportInternal C}
    (hinternal : transport.internal = some internal) (callbacks : ℕ) :
    transport.clear callbacks = .ok
      { transport with
        info := { state := .closed }
        internal := none
        iceTransport := none
        trace := transport.trace ++
          transport.closedReports (clearReports internal callbacks) } := by
  rw [clear, hinternal]
  by_cases hclosed : internal.dtlsState = .closed
  · simp only [hclosed, ne_eq, not_true_eq_false, if_false, clearReports, if_true]
    rw [release_of_cleared rfl rfl]
    rfl
  · simp only [ne_eq, hclosed, not_false_eq_true, if_true, clearReports, if_false]
    rw [release_of_cleared (internal_report _) (info_report _)]
    cases hobserver : transport.observer with
    | none => simp [closedReports, report, updateInformation, informationOf, hobserver]
    | some observer =>
        simp [closedReports, report, updateInformation, informationOf, hobserver,
          List.replicate_succ]

end Clear

end DtlsTransport

/-! ## What an observer knows -/

/-- What the observer has read when it registered or has been told last. -/
structure WatchedDtlsTransport (C I O : Type*) where
  transport : DtlsTransport C I O
  known : Option (DtlsTransportInformation C) := none

namespace WatchedDtlsTransport

/-- The observer reads `Information()` when it registers, and listens from then on. -/
def learn (watched : WatchedDtlsTransport C I O) (event : DtlsEvent C O)
    (next : DtlsTransport C I O) : Option (DtlsTransportInformation C) :=
  match event with
  | .registerObserver _ => some next.info
  | .unregisterObserver => none
  | _ =>
      ((next.trace.drop watched.transport.trace.length).getLast?.map Prod.snd).or watched.known

def step : System (WatchedDtlsTransport C I O) (DtlsEvent C O) DtlsFault := fun watched event =>
  (dtlsStep watched.transport event).map <| Except.map fun next =>
    { transport := next, known := watched.learn event next }

/-- The observer, if there is one, knows what `Information()` returns. -/
def Informed (watched : WatchedDtlsTransport C I O) : Prop :=
  watched.known = watched.transport.observer.map fun _ => watched.transport.info

/-- `Clear` comes when the internal transport is not closed, or has said so, or says so in
its destructor. -/
def ClosesAloud (watched : WatchedDtlsTransport C I O) : DtlsEvent C O → Prop
  | .clear callbacks =>
      callbacks = 0 → watched.transport.observer ≠ none →
        ∀ internal ∈ watched.transport.internal, internal.dtlsState = .closed →
          watched.transport.info.state = .closed
  | _ => True

variable {watched next : WatchedDtlsTransport C I O}

theorem step_eq_ok_iff {event : DtlsEvent C O} :
    step watched event = some (.ok next) ↔
      ∃ transport, dtlsStep watched.transport event = some (.ok transport) ∧
        next = { transport := transport, known := watched.learn event transport } := by
  rw [step]
  constructor
  · intro hstep
    obtain ⟨outcome, houtcome, hnext⟩ := Option.map_eq_some_iff.mp hstep
    obtain ⟨transport, rfl, rfl⟩ := except_map_eq_ok_iff.mp hnext
    exact ⟨transport, houtcome, rfl⟩
  · rintro ⟨transport, htransport, rfl⟩
    rw [htransport]
    rfl

/-- An observer that is called back knows the new information. -/
theorem informed_internalState (hinformed : Informed watched) :
    Informed
      { transport := watched.transport.onInternalDtlsState
        known := watched.learn .internalState watched.transport.onInternalDtlsState } := by
  rw [Informed] at hinformed ⊢
  cases hobserver : watched.transport.observer with
  | none =>
      rw [hobserver, Option.map_none] at hinformed
      simp [learn, DtlsTransport.onInternalDtlsState, DtlsTransport.updateInformation,
        DtlsTransport.report, hobserver, hinformed]
  | some observer =>
      simp [learn, DtlsTransport.onInternalDtlsState, DtlsTransport.updateInformation,
        DtlsTransport.report, hobserver]

/-- `Clear` leaves the observer informed exactly when it closes aloud. -/
theorem informed_clear_iff {iceTransport : I} {callbacks : ℕ}
    {internal : DtlsTransportInternal C} {transport : DtlsTransport C I O}
    (hsound : DtlsTransport.Sound iceTransport watched.transport)
    (hinformed : Informed watched) (hinternal : watched.transport.internal = some internal)
    (hclear : watched.transport.clear callbacks = .ok transport) :
    Informed { transport := transport, known := watched.learn (.clear callbacks) transport } ↔
      ClosesAloud watched (.clear callbacks) := by
  rw [DtlsTransport.clear_of_some hinternal] at hclear
  obtain rfl := Except.ok.inj hclear
  rw [Informed] at hinformed ⊢
  cases hobserver : watched.transport.observer with
  | none =>
      rw [hobserver, Option.map_none] at hinformed
      simp [learn, DtlsTransport.closedReports, hobserver, hinformed, ClosesAloud]
  | some observer =>
      rw [hobserver, Option.map_some] at hinformed
      have hstate : watched.transport.info = { state := .closed } ↔
          watched.transport.info.state = .closed := by
        constructor
        · intro hinfo
          rw [hinfo]
        · intro hclosed
          rw [hsound.wellInformed.connected (by rw [hclosed]; decide), hclosed]
      cases hcount : DtlsTransport.clearReports internal callbacks with
      | zero =>
          have hquiet : callbacks = 0 ∧ internal.dtlsState = .closed := by
            rw [DtlsTransport.clearReports] at hcount
            split_ifs at hcount with hclosed
            exact ⟨hcount, hclosed⟩
          simp [learn, DtlsTransport.closedReports, hobserver, hinformed, ClosesAloud,
            hinternal, hquiet, hstate]
      | succ reports =>
          have haloud : callbacks = 0 → internal.dtlsState ≠ .closed := by
            rintro rfl hclosed
            rw [DtlsTransport.clearReports, if_pos hclosed] at hcount
            exact absurd hcount (by simp)
          have hguard : ClosesAloud watched (.clear callbacks) := by
            intro hnone _ other hother hclosed
            rw [hinternal, Option.mem_some_iff] at hother
            exact absurd (hother ▸ hclosed) (haloud hnone)
          simp [learn, DtlsTransport.closedReports, hobserver, hguard, List.getLast?_replicate]

/-! ## Runs -/

/-- Both hold while `Clear` closes aloud. -/
structure Kept (iceTransport : I) (watched : WatchedDtlsTransport C I O) : Prop where
  sound : DtlsTransport.Sound iceTransport watched.transport
  informed : Informed watched

theorem sound_of_step {iceTransport : I} {event : DtlsEvent C O}
    (hsound : DtlsTransport.Sound iceTransport watched.transport)
    (hstep : step watched event = some (.ok next)) :
    DtlsTransport.Sound iceTransport next.transport := by
  obtain ⟨transport, htransport, rfl⟩ := step_eq_ok_iff.mp hstep
  exact DtlsTransport.sound_step hsound htransport

theorem sound_of_run {iceTransport : I} {events : List (DtlsEvent C O)}
    (hsound : DtlsTransport.Sound iceTransport watched.transport)
    (hrun : run step watched events = some (.ok next)) :
    DtlsTransport.Sound iceTransport next.transport :=
  run_induction (fun _ _ _ hsound hstep => sound_of_step hsound hstep) hsound hrun

theorem kept_step {iceTransport : I} {event : DtlsEvent C O} (hkept : Kept iceTransport watched)
    (haloud : ClosesAloud watched event) (hstep : step watched event = some (.ok next)) :
    Kept iceTransport next := by
  refine ⟨sound_of_step hkept.sound hstep, ?_⟩
  obtain ⟨transport, htransport, rfl⟩ := step_eq_ok_iff.mp hstep
  cases event with
  | registerObserver observer =>
      obtain rfl := Except.ok.inj (Option.some.inj htransport)
      rfl
  | unregisterObserver =>
      obtain rfl := Except.ok.inj (Option.some.inj htransport)
      rfl
  | internalChange changed =>
      obtain ⟨internal, _, hnext⟩ := Option.map_eq_some_iff.mp htransport
      obtain rfl := Except.ok.inj hnext
      have hinformed := hkept.informed
      rw [Informed] at hinformed ⊢
      simp [learn, hinformed]
  | internalState =>
      obtain ⟨internal, _, hnext⟩ := Option.map_eq_some_iff.mp htransport
      obtain rfl := Except.ok.inj hnext
      exact informed_internalState hkept.informed
  | clear callbacks =>
      have hclear : watched.transport.clear callbacks = .ok transport :=
        Option.some.inj htransport
      cases hinternal : watched.transport.internal with
      | none =>
          rw [DtlsTransport.clear, hinternal] at hclear
          exact absurd hclear (by simp)
      | some internal =>
          exact (informed_clear_iff hkept.sound hkept.informed hinternal hclear).mpr haloud

theorem kept_create (internal : DtlsTransportInternal C) (iceTransport : I) :
    Kept iceTransport
      ({ transport := .create internal iceTransport } : WatchedDtlsTransport C I O) where
  sound := DtlsTransport.sound_updateInformation rfl
  informed := rfl

/-- Without an internal transport there is none in any later state. -/
theorem internal_eq_none_of_step {event : DtlsEvent C O}
    (hnone : watched.transport.internal = none) (hstep : step watched event = some (.ok next)) :
    next.transport.internal = none := by
  obtain ⟨transport, htransport, rfl⟩ := step_eq_ok_iff.mp hstep
  cases event with
  | registerObserver observer =>
      obtain rfl := Except.ok.inj (Option.some.inj htransport)
      exact hnone
  | unregisterObserver =>
      obtain rfl := Except.ok.inj (Option.some.inj htransport)
      exact hnone
  | internalChange changed => simp [dtlsStep, hnone] at htransport
  | internalState => simp [dtlsStep, hnone] at htransport
  | clear callbacks => simp [dtlsStep, DtlsTransport.clear, hnone] at htransport

/-- The state is closed, and no pointer is left. -/
structure ClosedForGood (transport : DtlsTransport C I O) : Prop where
  info : transport.info = { state := .closed }
  internal : transport.internal = none
  iceTransport : transport.iceTransport = none

/-- `Clear` is final, whatever comes after it. -/
theorem closedForGood_of_run {iceTransport : I} {callbacks : ℕ} {after : List (DtlsEvent C O)}
    (hsound : DtlsTransport.Sound iceTransport watched.transport)
    (hrun : run step watched (.clear callbacks :: after) = some (.ok next)) :
    ClosedForGood next.transport := by
  obtain ⟨cleared, hclear, hrest⟩ := exists_next_of_run_cons hrun
  have hnone : cleared.transport.internal = none := by
    obtain ⟨transport, htransport, rfl⟩ := step_eq_ok_iff.mp hclear
    cases hinternal : watched.transport.internal with
    | none => simp [dtlsStep, DtlsTransport.clear, hinternal] at htransport
    | some internal =>
        rw [dtlsStep, DtlsTransport.clear_of_some hinternal] at htransport
        obtain rfl := Except.ok.inj (Option.some.inj htransport)
        rfl
  have hfinal : next.transport.internal = none :=
    run_induction (fun _ _ _ => internal_eq_none_of_step) hnone hrest
  have hkept := sound_of_run hsound hrun
  refine ⟨hkept.cleared hfinal, hfinal, ?_⟩
  rw [hkept.iceTransport, hfinal]
  rfl

/-- Whatever happens from the construction on: a state is missed exactly by the observer of a
transport that is cleared when its internal transport is closed and has not said so.  At all
other times an observer knows what `Information()` returns, and the details of the session are
complete or left out.  After `Clear` the state stays closed, and no pointer into the internal
transport is left. -/
theorem kept_iff_closesAloud (internal : DtlsTransportInternal C) (iceTransport : I)
    (events : List (DtlsEvent C O)) :
    (Throughout step (Kept iceTransport) { transport := .create internal iceTransport } events ↔
      Guarded step ClosesAloud { transport := .create internal iceTransport } events) ∧
      ∀ before callbacks after final, events = before ++ .clear callbacks :: after →
        run step { transport := .create internal iceTransport } events = some (.ok final) →
          ClosedForGood final.transport := by
  have hinit : Kept iceTransport
      ({ transport := .create internal iceTransport } : WatchedDtlsTransport C I O) :=
    kept_create internal iceTransport
  refine ⟨guarded_iff_throughout (fun _ _ _ => kept_step) (fun _ hkept => hkept) ?_ hinit events,
    ?_⟩
  · intro watched event hkept hsilent
    cases event with
    | clear callbacks =>
        have hinternal : watched.transport.internal ≠ none := by
          intro hnone
          apply hsilent
          intro _ _ internal hsome
          exact absurd (hnone.symm.trans hsome) (by simp)
        obtain ⟨internal, hsome⟩ := Option.ne_none_iff_exists'.mp hinternal
        have hclear := DtlsTransport.clear_of_some hsome callbacks
        have hstep : dtlsStep watched.transport (.clear callbacks) =
            some (watched.transport.clear callbacks) := rfl
        rw [hclear] at hstep
        refine ⟨_, step_eq_ok_iff.mpr ⟨_, hstep, rfl⟩, fun hafter => hsilent ?_⟩
        exact (informed_clear_iff hkept.sound hkept.informed hsome hclear).mp hafter.informed
    | _ => exact absurd trivial hsilent
  · rintro before callbacks after final rfl hrun
    obtain ⟨middle, hmiddle, hrest⟩ := exists_middle_of_run_append (by simp) hrun
    exact closedForGood_of_run (sound_of_run hinit.sound hmiddle) hrest

end WatchedDtlsTransport

end PeerConnection.Transport
