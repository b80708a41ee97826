import PeerConnection.Srtp.KeyProvenance

/-!
# The encrypted header extension ids of the sessions

An activation takes the ids that are stored, and asks whether the DTLS transports are
writable.  An update of an active transport reaches the sessions only if the handshake has
been completed on both DTLS transports, the one for RTCP included when rtcp-mux is off; it
may have been on when the transport was activated.
-/

namespace PeerConnection.Srtp

open PeerConnection.Runs

variable {T : Type*}

/-- The key export of a transport with active DTLS gives keys that libsrtp takes, and no
call of libsrtp fails. -/
structure KeysSucceed (api : SrtpApi) (inputs : DtlsInputs T) : Prop where
  exports : ∀ source, (inputs.status source).isDtlsActive = true →
    ∃ keys, exportKeys api (inputs.rtp.keyExport source) = some keys ∧
      api.takes { cipherSuite := keys.cipherSuite, key := keys.sendKey } = true ∧
      api.takes { cipherSuite := keys.cipherSuite, key := keys.recvKey } = true
  results : inputs.rtp.results = {}

/-- An event during which keys can be exported and set. -/
abbrev KeyingEvent (api : SrtpApi) (T : Type*) :=
  { event : DtlsInputs T × DtlsSrtpEvent T // KeysSucceed api event.1 }

/-- The ids that the event gives the sending session. -/
def DtlsSrtpEvent.sendIds? : DtlsSrtpEvent T → Option (List ℤ)
  | .updateSendEncryptedHeaderExtensionIds extensionIds => some extensionIds
  | _ => none

def DtlsSrtpEvent.recvIds? : DtlsSrtpEvent T → Option (List ℤ)
  | .updateRecvEncryptedHeaderExtensionIds extensionIds => some extensionIds
  | _ => none

/-- The ids of the last `UpdateSendEncryptedHeaderExtensionIds`. -/
def latestSendIds {api : SrtpApi} (events : List (KeyingEvent api T)) : Option (List ℤ) :=
  (events.filterMap fun event => event.1.2.sendIds?).getLast?

def latestRecvIds {api : SrtpApi} (events : List (KeyingEvent api T)) : Option (List ℤ) :=
  (events.filterMap fun event => event.1.2.recvIds?).getLast?

namespace DtlsSrtpTransport

/-- The sessions of an active transport have last been keyed with these ids, or with none
where there are none. -/
def IdsCurrent (sendIds recvIds : Option (List ℤ)) (transport : DtlsSrtpTransport T) : Prop :=
  transport.isSrtpActive = true →
    ∃ pair send recv, transport.sessions = some pair ∧
      pair.send.keying = some send ∧ pair.recv.keying = some recv ∧
      send.extensionIds = sendIds.getD [] ∧ recv.extensionIds = recvIds.getD []

/-- The event does not bring an active transport other ids before the handshake is
complete. -/
def UpdateReaches (transport : DtlsSrtpTransport T)
    (event : DtlsInputs T × DtlsSrtpEvent T) : Prop :=
  transport.isSrtpActive = true →
    transport.dtlsHandshakeCompleted event.1.status = false →
    (∀ extensionIds, event.2.sendIds? = some extensionIds →
        extensionIds = transport.sendExtensionIds.getD []) ∧
      ∀ extensionIds, event.2.recvIds? = some extensionIds →
        extensionIds = transport.recvExtensionIds.getD []

/-! ## What an event does to the stored ids -/

/-- The stored ids are what they were. -/
def SameIds (before after : DtlsSrtpTransport T) : Prop :=
  after.sendExtensionIds = before.sendExtensionIds ∧
    after.recvExtensionIds = before.recvExtensionIds

theorem SameIds.trans {first second third : DtlsSrtpTransport T}
    (hfirst : SameIds first second) (hsecond : SameIds second third) : SameIds first third :=
  ⟨hsecond.1.trans hfirst.1, hsecond.2.trans hfirst.2⟩

section Setup

variable (api : SrtpApi) (inputs : DtlsInputs T) (transport : DtlsSrtpTransport T)

theorem sameIds_setupRtpDtlsSrtp :
    SameIds transport (transport.setupRtpDtlsSrtp api inputs) := by
  unfold setupRtpDtlsSrtp
  split <;> exact ⟨rfl, rfl⟩

theorem sameIds_setupRtcpDtlsSrtp :
    SameIds transport (transport.setupRtcpDtlsSrtp api inputs) := by
  unfold setupRtcpDtlsSrtp
  split
  · exact ⟨rfl, rfl⟩
  · split <;> exact ⟨rfl, rfl⟩

theorem sameIds_run (kind : SetupKind) : SameIds transport (kind.run api inputs transport) := by
  cases kind with
  | none => exact ⟨rfl, rfl⟩
  | rtp => exact sameIds_setupRtpDtlsSrtp api inputs transport
  | maybe =>
      have hrtp := sameIds_setupRtpDtlsSrtp api inputs transport
      simp only [SetupKind.run, maybeSetupDtlsSrtp]
      split
      · exact ⟨rfl, rfl⟩
      · split
        · exact hrtp.trans (sameIds_setupRtcpDtlsSrtp api inputs _)
        · exact hrtp

variable [DecidableEq T]

/-- The ids of an update are stored before anything else happens. -/
theorem extensionIds_prepare (event : DtlsSrtpEvent T) :
    (transport.prepare inputs event).1.sendExtensionIds =
        event.sendIds?.or transport.sendExtensionIds ∧
      (transport.prepare inputs event).1.recvExtensionIds =
        event.recvIds?.or transport.recvExtensionIds := by
  cases event with
  | setDtlsTransports rtpDtlsTransport rtcpDtlsTransport =>
      have hreset : SameIds transport
          (transport.resetForNewTransports inputs rtpDtlsTransport) := by
        unfold resetForNewTransports
        split <;> exact ⟨rfl, rfl⟩
      have hresubscribed : ∀ (each : DtlsSrtpTransport T) (old new : Option T),
          SameIds each (each.resubscribe old new) := by
        intro each old new
        unfold resubscribe
        split <;> exact ⟨rfl, rfl⟩
      have hrtcp : ∀ each : DtlsSrtpTransport T, SameIds each
          (each.bindRtcp inputs.writable rtcpDtlsTransport) :=
        fun each => hresubscribed each _ _
      have hrtp : ∀ each : DtlsSrtpTransport T, SameIds each
          (each.bindRtp inputs.writable rtpDtlsTransport) :=
        fun each => hresubscribed each _ _
      exact (hreset.trans (hrtcp _)).trans (hrtp _)
  | setActiveResetSrtpParams activeResetSrtpParams => exact ⟨rfl, rfl⟩
  | setRtcpMuxEnabled enable => exact ⟨rfl, rfl⟩
  | updateSendEncryptedHeaderExtensionIds extensionIds =>
      simp only [prepare]
      split
      case isTrue hsame => exact ⟨hsame, rfl⟩
      case isFalse => exact ⟨rfl, rfl⟩
  | updateRecvEncryptedHeaderExtensionIds extensionIds =>
      simp only [prepare]
      split
      case isTrue hsame => exact ⟨rfl, hsame⟩
      case isFalse => exact ⟨rfl, rfl⟩
  | onDtlsState dtlsTransport state =>
      simp only [prepare]
      split <;> exact ⟨rfl, rfl⟩
  | onWritableState packetTransport => exact ⟨rfl, rfl⟩

theorem extensionIds_step {transport next : DtlsSrtpTransport T}
    {event : DtlsInputs T × DtlsSrtpEvent T}
    (hstep : step api transport event = some (.ok next)) :
    next.sendExtensionIds = event.2.sendIds?.or transport.sendExtensionIds ∧
      next.recvExtensionIds = event.2.recvIds?.or transport.recvExtensionIds := by
  obtain ⟨-, rfl⟩ := (step_eq_ok_iff api).mp hstep
  obtain ⟨hsend, hrecv⟩ := transport.extensionIds_prepare event.1 event.2
  obtain ⟨hsendRun, hrecvRun⟩ := sameIds_run api event.1
    (transport.prepare event.1 event.2).1 (transport.prepare event.1 event.2).2
  exact ⟨hsendRun.trans hsend, hrecvRun.trans hrecv⟩

end Setup

/-! ## Keys that can be set -/

theorem canKey_of_succeed {api : SrtpApi} {inputs : DtlsInputs T}
    (hsucceed : KeysSucceed api inputs) {transport : DtlsSrtpTransport T} {source : T}
    (hsource : transport.rtpDtlsTransport = some source)
    (hactive : (inputs.status source).isDtlsActive = true) :
    transport.canKey api inputs = true := by
  obtain ⟨keys, hkeys, hsend, hrecv⟩ := hsucceed.exports source hactive
  have hextract : extractParams api inputs.status inputs.rtp.keyExport
      transport.rtpDtlsTransport = some (source, keys) := by
    simp [extractParams, hsource, hactive, hkeys]
  have hsendTaken : api.takes (transport.sendParams keys) = true := hsend
  have hrecvTaken : api.takes (transport.recvParams keys) = true := hrecv
  simp [canKey, hextract, SrtpTransport.acceptsRtpParams, hsendTaken, hrecvTaken,
    hsucceed.results]

/-- A completed handshake is one of the RTP transport at least. -/
theorem exists_active_of_handshakeCompleted {status : T → DtlsStatus}
    {transport : DtlsSrtpTransport T}
    (hcompleted : transport.dtlsHandshakeCompleted status = true) :
    ∃ source, transport.rtpDtlsTransport = some source ∧
      (status source).isDtlsActive = true := by
  simp only [dtlsHandshakeCompleted, isDtlsActive, bothPass, Bool.and_eq_true,
    Option.any_eq_true] at hcompleted
  obtain ⟨⟨⟨source, hsource, hactive⟩, -⟩, -⟩ := hcompleted
  exact ⟨source, hsource, hactive⟩

/-! ## Runs -/

/-- Sessions that are there have been keyed, with the stored ids. -/
structure IdsInv (transport : DtlsSrtpTransport T) : Prop where
  keyed : transport.Keyed
  current : transport.IdsCurrent transport.sendExtensionIds transport.recvExtensionIds

theorem IdsInv.of_not_active {transport : DtlsSrtpTransport T}
    (hinactive : transport.isSrtpActive = false) : IdsInv transport :=
  ⟨keyed_of_not_active hinactive, fun hactive => absurd hactive (by simp [hinactive])⟩

theorem idsInv_keyed {inputs : DtlsInputs T} {transport : DtlsSrtpTransport T} {source : T}
    {keys : ExtractedKeys} {pair : SessionPair}
    (hsend : pair.send.keying = some (transport.sendParams keys))
    (hrecv : pair.recv.keying = some (transport.recvParams keys)) :
    IdsInv (transport.keyed inputs source (transport.sendParams keys)
      (transport.recvParams keys) pair) :=
  ⟨keyed_keyed hsend hrecv, fun _ =>
    ⟨pair, transport.sendParams keys, transport.recvParams keys, sessions_keyed, hsend,
      hrecv, rfl, rfl⟩⟩

/-- Setting up keys keeps the ids of the sessions those that are stored. -/
theorem IdsInv.run {api : SrtpApi} {inputs : DtlsInputs T} {transport : DtlsSrtpTransport T}
    (hinv : IdsInv transport) (kind : SetupKind) : IdsInv (kind.run api inputs transport) := by
  apply run_setup api inputs hinv.keyed hinv
  · intro _ after hsetup
    cases hsetup with
    | keyed source keys pair _ _ hsend hrecv => exact idsInv_keyed hsend hrecv
    | unchanged => exact hinv
    | dropped source send recv =>
        exact .of_not_active (noKeys_resetParams inputs.writable _).not_active
  · intro inactive hinactive _
    apply IdsInv.of_not_active
    rw [isSrtpActive_setupRtcpDtlsSrtp, hinactive]

/-- The ids of the sessions, when only the stored ones may have changed. -/
theorem IdsInv.of_same {before after : DtlsSrtpTransport T} (hinv : IdsInv before)
    (hsame : SameKeys before after)
    (hids : after.isSrtpActive = true →
      after.sendExtensionIds.getD [] = before.sendExtensionIds.getD [] ∧
        after.recvExtensionIds.getD [] = before.recvExtensionIds.getD []) :
    IdsInv after := by
  refine ⟨fun pair hpair => hinv.keyed pair (hsame.sessions ▸ hpair), fun hactive => ?_⟩
  obtain ⟨pair, send, recv, hpair, hsend, hrecv, hsendIds, hrecvIds⟩ :=
    hinv.current (hsame.isSrtpActive ▸ hactive)
  obtain ⟨hsendStored, hrecvStored⟩ := hids hactive
  exact ⟨pair, send, recv, hsame.sessions.trans hpair, hsend, hrecv,
    hsendIds.trans hsendStored.symm, hrecvIds.trans hrecvStored.symm⟩

section Runs

variable [DecidableEq T] {api : SrtpApi}

/-- The events of a run, with keys that can be exported and set. -/
def keyingStep (api : SrtpApi) : System (DtlsSrtpTransport T) (KeyingEvent api T) SrtpAbort :=
  fun transport event => step api transport event.1

/-- What an update with new ids does, up to the keys: an active transport is keyed again
when the handshake is complete. -/
theorem prepare_update (inputs : DtlsInputs T) {transport : DtlsSrtpTransport T}
    {event : DtlsSrtpEvent T} {extensionIds : List ℤ}
    (hupdate : event.sendIds? = some extensionIds ∧
        transport.sendExtensionIds ≠ some extensionIds ∨
      event.recvIds? = some extensionIds ∧
        transport.recvExtensionIds ≠ some extensionIds) :
    transport.aborts inputs event = false ∧
      SameKeys transport (transport.prepare inputs event).1 ∧
      (transport.prepare inputs event).1.rtpDtlsTransport = transport.rtpDtlsTransport ∧
      (transport.prepare inputs event).2 =
        if transport.dtlsHandshakeCompleted inputs.status then .rtp else .none := by
  cases event with
  | updateSendEncryptedHeaderExtensionIds newIds =>
      rcases hupdate with ⟨hids, hnew⟩ | ⟨hids, -⟩
      · obtain rfl := Option.some.inj hids
        simp only [prepare, if_neg hnew]
        exact ⟨rfl, ⟨rfl, rfl, rfl, [], by simp⟩, trivial, rfl⟩
      · exact absurd hids (by simp [DtlsSrtpEvent.recvIds?])
  | updateRecvEncryptedHeaderExtensionIds newIds =>
      rcases hupdate with ⟨hids, -⟩ | ⟨hids, hnew⟩
      · exact absurd hids (by simp [DtlsSrtpEvent.sendIds?])
      · obtain rfl := Option.some.inj hids
        simp only [prepare, if_neg hnew]
        exact ⟨rfl, ⟨rfl, rfl, rfl, [], by simp⟩, trivial, rfl⟩
  | _ => simp [DtlsSrtpEvent.sendIds?, DtlsSrtpEvent.recvIds?] at hupdate

/-- The event is an update whose ids are not the stored ones. -/
def BringsNewIds (transport : DtlsSrtpTransport T) (event : DtlsSrtpEvent T) : Prop :=
  ∃ extensionIds, event.sendIds? = some extensionIds ∧
      transport.sendExtensionIds ≠ some extensionIds ∨
    event.recvIds? = some extensionIds ∧ transport.recvExtensionIds ≠ some extensionIds

omit [DecidableEq T] in
theorem or_stored_of_not_new {given stored : Option (List ℤ)}
    (hsame : ∀ extensionIds, given = some extensionIds → stored = some extensionIds) :
    given.or stored = stored := by
  cases given with
  | none => rfl
  | some extensionIds => exact (hsame extensionIds rfl).symm

/-- Without new ids the stored ones stay. -/
theorem sameIds_prepare_of_not_new (inputs : DtlsInputs T) {transport : DtlsSrtpTransport T}
    {event : DtlsSrtpEvent T} (hold : ¬ transport.BringsNewIds event) :
    SameIds transport (transport.prepare inputs event).1 := by
  obtain ⟨hsend, hrecv⟩ := transport.extensionIds_prepare inputs event
  constructor
  · rw [hsend]
    apply or_stored_of_not_new
    intro extensionIds hids
    by_contra hnew
    exact hold ⟨extensionIds, Or.inl ⟨hids, hnew⟩⟩
  · rw [hrecv]
    apply or_stored_of_not_new
    intro extensionIds hids
    by_contra hnew
    exact hold ⟨extensionIds, Or.inr ⟨hids, hnew⟩⟩

theorem step_idsInv (transport : DtlsSrtpTransport T) (event : KeyingEvent api T)
    (next : DtlsSrtpTransport T) (hinv : IdsInv transport)
    (hguard : transport.UpdateReaches event.1)
    (hstep : keyingStep api transport event = some (.ok next)) : IdsInv next := by
  obtain ⟨⟨inputs, event⟩, hsucceed⟩ := event
  obtain ⟨-, rfl⟩ := (step_eq_ok_iff api).mp hstep
  by_cases hnew : transport.BringsNewIds event
  · obtain ⟨extensionIds, hupdate⟩ := hnew
    obtain ⟨-, hsame, hrtp, hkind⟩ := prepare_update inputs hupdate
    obtain ⟨hsendIds, hrecvIds⟩ := transport.extensionIds_prepare inputs event
    simp only [hkind]
    generalize (transport.prepare inputs event).1 = prepared at hsame hrtp hsendIds hrecvIds
    cases hcompleted : transport.dtlsHandshakeCompleted inputs.status with
    | true =>
        -- both sessions are keyed with what is stored now
        obtain ⟨source, hsource, hactive⟩ := exists_active_of_handshakeCompleted hcompleted
        have hcan := canKey_of_succeed hsucceed (hrtp.trans hsource) hactive
        have hkeyed : prepared.Keyed := fun pair hpair =>
          hinv.keyed pair (hsame.sessions ▸ hpair)
        have hsetup := setupRtpDtlsSrtp_cases api inputs hkeyed
        rw [if_pos rfl, SetupKind.run]
        generalize prepared.setupRtpDtlsSrtp api inputs = after at hsetup
        cases hsetup with
        | keyed source keys pair _ _ hsend hrecv => exact idsInv_keyed hsend hrecv
        | unchanged hcannot => exact absurd hcan (by simp [hcannot])
        | dropped source send recv hcannot => exact absurd hcan (by simp [hcannot])
    | false =>
        -- nothing is keyed, so the ids of an active transport have to be the old ones
        rw [if_neg Bool.false_ne_true, SetupKind.run]
        apply hinv.of_same hsame
        intro hactive
        obtain ⟨hsend, hrecv⟩ := hguard (hsame.isSrtpActive ▸ hactive) hcompleted
        constructor
        · rw [hsendIds]
          cases hgiven : event.sendIds? with
          | none => rfl
          | some newIds => exact hsend newIds hgiven
        · rw [hrecvIds]
          cases hgiven : event.recvIds? with
          | none => rfl
          | some newIds => exact hrecv newIds hgiven
  · apply IdsInv.run
    obtain ⟨hsendIds, hrecvIds⟩ := sameIds_prepare_of_not_new inputs hnew
    rcases transport.prepare_cases inputs event with hsame | hnone
    · apply hinv.of_same hsame
      intro _
      rw [hsendIds, hrecvIds]
      exact ⟨rfl, rfl⟩
    · exact .of_not_active hnone.not_active

/-- Other ids that reach an active transport too early are stored and not used. -/
theorem step_not_current (transport : DtlsSrtpTransport T) (event : KeyingEvent api T)
    (hinv : IdsInv transport) (hmiss : ¬ transport.UpdateReaches event.1) :
    ∃ next, keyingStep api transport event = some (.ok next) ∧
      ¬ next.IdsCurrent next.sendExtensionIds next.recvExtensionIds := by
  obtain ⟨⟨inputs, event⟩, _⟩ := event
  simp only [UpdateReaches, Classical.not_imp] at hmiss
  obtain ⟨hactive, hcompleted, hother⟩ := hmiss
  obtain ⟨pair, send, recv, hpair, hsend, hrecv, hsendIds, hrecvIds⟩ :=
    hinv.current hactive
  have hnew : ∃ extensionIds, event.sendIds? = some extensionIds ∧
        extensionIds ≠ transport.sendExtensionIds.getD [] ∨
      event.recvIds? = some extensionIds ∧
        extensionIds ≠ transport.recvExtensionIds.getD [] := by
    by_contra hnone
    push Not at hnone
    exact hother ⟨fun extensionIds hids => (hnone extensionIds).1 hids,
      fun extensionIds hids => (hnone extensionIds).2 hids⟩
  obtain ⟨extensionIds, hdiffers⟩ := hnew
  have hupdate : event.sendIds? = some extensionIds ∧
        transport.sendExtensionIds ≠ some extensionIds ∨
      event.recvIds? = some extensionIds ∧
        transport.recvExtensionIds ≠ some extensionIds := by
    apply hdiffers.imp
    · rintro ⟨hids, hdiffer⟩
      exact ⟨hids, fun hstored => hdiffer (by rw [hstored, Option.getD_some])⟩
    · rintro ⟨hids, hdiffer⟩
      exact ⟨hids, fun hstored => hdiffer (by rw [hstored, Option.getD_some])⟩
  obtain ⟨hpasses, hsame, -, hkind⟩ := prepare_update inputs hupdate
  obtain ⟨hsendStored, hrecvStored⟩ := transport.extensionIds_prepare inputs event
  refine ⟨_, (step_eq_ok_iff api).mpr ⟨hpasses, rfl⟩, fun hcurrent => ?_⟩
  simp only [hkind, hcompleted, Bool.false_eq_true, if_false, SetupKind.run] at hcurrent
  obtain ⟨later, laterSend, laterRecv, hlater, hlaterSend, hlaterRecv, hsendNow, hrecvNow⟩ :=
    hcurrent (hsame.isSrtpActive.trans hactive)
  obtain rfl := Option.some.inj (hlater.symm.trans (hsame.sessions.trans hpair))
  obtain rfl := Option.some.inj (hlaterSend.symm.trans hsend)
  obtain rfl := Option.some.inj (hlaterRecv.symm.trans hrecv)
  rw [hsendStored] at hsendNow
  rw [hrecvStored] at hrecvNow
  rcases hdiffers with ⟨hids, hdiffer⟩ | ⟨hids, hdiffer⟩
  · rw [hids, Option.some_or, Option.getD_some] at hsendNow
    exact hdiffer (hsendNow.symm.trans hsendIds)
  · rw [hids, Option.some_or, Option.getD_some] at hrecvNow
    exact hdiffer (hrecvNow.symm.trans hrecvIds)

/-- What is stored are the ids of the last updates. -/
theorem extensionIds_run {rtcpMuxEnabled : Bool} {events : List (KeyingEvent api T)}
    {final : DtlsSrtpTransport T}
    (hrun : run (keyingStep api) (create rtcpMuxEnabled) events = some (.ok final)) :
    final.sendExtensionIds = latestSendIds events ∧
      final.recvExtensionIds = latestRecvIds events := by
  induction events using List.reverseRecOn generalizing final with
  | nil =>
      obtain rfl := Except.ok.inj (Option.some.inj hrun)
      exact ⟨rfl, rfl⟩
  | append_singleton events event ih =>
      obtain ⟨before, hbefore, hstep⟩ := run_concat_eq_ok_iff.mp hrun
      obtain ⟨hsend, hrecv⟩ := ih hbefore
      obtain ⟨hsendStep, hrecvStep⟩ := extensionIds_step api hstep
      constructor
      · rw [hsendStep, hsend, latestSendIds, latestSendIds, List.filterMap_append]
        cases hids : event.1.2.sendIds? <;> simp [hids]
      · rw [hrecvStep, hrecv, latestRecvIds, latestRecvIds, List.filterMap_append]
        cases hids : event.1.2.recvIds? <;> simp [hids]

/-- Over any run on a new transport, the sessions of an active transport have the ids of
the last updates if and only if no update brings an active transport other ids while the
handshake is not complete. -/
theorem idsCurrent_iff (api : SrtpApi) (rtcpMuxEnabled : Bool)
    (events : List (KeyingEvent api T)) :
    (∀ before after passed, events = before ++ after →
        run (keyingStep api) (create rtcpMuxEnabled) before = some (.ok passed) →
        passed.IdsCurrent (latestSendIds before) (latestRecvIds before)) ↔
      Guarded (keyingStep api) (fun transport event => transport.UpdateReaches event.1)
        (create rtcpMuxEnabled) events := by
  have hinit : IdsInv (create rtcpMuxEnabled : DtlsSrtpTransport T) := .of_not_active rfl
  rw [← guarded_iff_throughout step_idsInv (fun _ => IdsInv.current) step_not_current hinit]
  unfold Throughout
  constructor
  · intro hall before after passed hevents hrun
    obtain ⟨hsend, hrecv⟩ := extensionIds_run hrun
    rw [hsend, hrecv]
    exact hall before after passed hevents hrun
  · intro hall before after passed hevents hrun
    obtain ⟨hsend, hrecv⟩ := extensionIds_run hrun
    rw [← hsend, ← hrecv]
    exact hall before after passed hevents hrun

end Runs

/-! ## A final answer without rtcp-mux after a provisional one with it -/

/-- Only transport 0 has been connected. -/
def rtpConnectedInputs : DtlsInputs ℕ where
  writable transport := transport = 0
  status transport :=
    { isDtlsActive := true
      dtlsState := if transport = 0 then .connected else .connecting }
  rtp := { keyExport := connectedKeyExport }

theorem keysSucceed_connected : KeysSucceed registeredSrtpApi rtpConnectedInputs where
  exports _ _ := ⟨_, rfl, rfl, rfl⟩
  results := rfl

def rtpConnected (event : DtlsSrtpEvent ℕ) : KeyingEvent registeredSrtpApi ℕ :=
  ⟨(rtpConnectedInputs, event), keysSucceed_connected⟩

/-- rtcp-mux is on when the RTP transport becomes writable.  When the ids come it is off
again, and the handshake of the RTCP transport is still going on. -/
def lateIds : List (KeyingEvent registeredSrtpApi ℕ) :=
  [rtpConnected (.setRtcpMuxEnabled true),
    rtpConnected (.setDtlsTransports (some 0) (some 1)),
    rtpConnected (.setRtcpMuxEnabled false),
    rtpConnected (.updateSendEncryptedHeaderExtensionIds [5])]

theorem lateIds_not_current :
    ¬ ∀ before after passed, lateIds = before ++ after →
        run (keyingStep registeredSrtpApi) (create false) before = some (.ok passed) →
        passed.IdsCurrent (latestSendIds before) (latestRecvIds before) := by
  intro hall
  obtain ⟨final, hrun, hfinal⟩ := exists_of_reaches
    (fun transport : DtlsSrtpTransport ℕ => transport.isSrtpActive &&
      decide ((transport.sessions.bind fun pair => pair.send.keying).map (·.extensionIds) =
        some []))
    (show reaches _ (run (keyingStep registeredSrtpApi) (create false) lateIds) = true by
      decide +kernel)
  simp only [Bool.and_eq_true, decide_eq_true_eq] at hfinal
  obtain ⟨hactive, hnone⟩ := hfinal
  obtain ⟨pair, send, recv, hpair, hsend, -, hids, -⟩ :=
    hall lateIds [] final (by simp) hrun hactive
  have hlatest : latestSendIds lateIds = some [5] := by decide
  rw [hlatest] at hids
  rw [hpair, Option.bind_some, hsend, Option.map_some, hids] at hnone
  exact absurd hnone (by decide)

end DtlsSrtpTransport

end PeerConnection.Srtp
