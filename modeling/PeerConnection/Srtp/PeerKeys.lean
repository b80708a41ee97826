import PeerConnection.Srtp.Bindings
import PeerConnection.Srtp.KeyExtraction
import PeerConnection.Srtp.KeyProvenance

/-!
# Two peers over one DTLS association

Each of two peers runs a DTLS-SRTP transport of its own.  The calls and events of one have
nothing to do with those of the other; what they share is the DTLS association between
their DTLS transports.  Whatever has happened at both ends, two active transports hold the
same two keys with the directions exchanged.
-/

namespace PeerConnection.Srtp

open PeerConnection.Runs

/-- What the two ends of an association answer while keys are extracted: where both know
the suite or export bytes, they agree, and where both know their roles, these differ. -/
structure Associated (near far : KeyExport) : Prop where
  srtpCryptoSuite : ∀ suite other, near.srtpCryptoSuite = some suite →
    far.srtpCryptoSuite = some other → suite = other
  exportKeyingMaterial : ∀ size buffer other, near.exportKeyingMaterial size = some buffer →
    far.exportKeyingMaterial size = some other → buffer = other
  dtlsRole : ∀ role other, near.dtlsRole = some role → far.dtlsRole = some other →
    role ≠ other

/-- The steps of a successful key export. -/
theorem exportKeys_eq_some {api : SrtpApi} {keyExport : KeyExport} {keys : ExtractedKeys}
    (hexport : exportKeys api keyExport = some keys) :
    ∃ suite keyLen saltLen buffer role, keyExport.srtpCryptoSuite = some suite ∧
      api.getSrtpKeyAndSaltLengths suite = some (keyLen, saltLen) ∧
      keyExport.exportKeyingMaterial (keyLen * 2 + saltLen * 2) = some buffer ∧
      keyExport.dtlsRole = some role ∧
      keys = match role with
        | .server =>
            ⟨suite, (writeKeys keyLen saltLen buffer).2, (writeKeys keyLen saltLen buffer).1⟩
        | .client =>
            ⟨suite, (writeKeys keyLen saltLen buffer).1, (writeKeys keyLen saltLen buffer).2⟩
        := by
  simp only [exportKeys, Option.bind_eq_bind, Option.bind_eq_some_iff] at hexport
  obtain ⟨suite, hsuite, ⟨keyLen, saltLen⟩, hlengths, buffer, hbuffer, role, hrole, hkeys⟩ :=
    hexport
  refine ⟨suite, keyLen, saltLen, buffer, role, hsuite, hlengths, hbuffer, hrole, ?_⟩
  cases role with
  | client => exact (Option.some.inj hkeys).symm
  | server => exact (Option.some.inj hkeys).symm

/-- What one end of an association sends with is what the other receives with. -/
theorem Associated.exportKeys_match {api : SrtpApi} {near far : KeyExport}
    (hassociated : Associated near far) {nearKeys farKeys : ExtractedKeys}
    (hnear : exportKeys api near = some nearKeys) (hfar : exportKeys api far = some farKeys) :
    nearKeys.cipherSuite = farKeys.cipherSuite ∧ nearKeys.sendKey = farKeys.recvKey ∧
      nearKeys.recvKey = farKeys.sendKey := by
  obtain ⟨suite, keyLen, saltLen, buffer, role, hsuite, hlengths, hbuffer, hrole, rfl⟩ :=
    exportKeys_eq_some hnear
  obtain ⟨farSuite, farKeyLen, farSaltLen, farBuffer, farRole, hfarSuite, hfarLengths,
    hfarBuffer, hfarRole, rfl⟩ := exportKeys_eq_some hfar
  obtain rfl := hassociated.srtpCryptoSuite _ _ hsuite hfarSuite
  obtain ⟨rfl, rfl⟩ := Prod.mk.inj (Option.some.inj (hlengths.symm.trans hfarLengths))
  obtain rfl := hassociated.exportKeyingMaterial _ _ _ hbuffer hfarBuffer
  have hroles := hassociated.dtlsRole _ _ hrole hfarRole
  cases role with
  | client =>
      cases farRole with
      | client => exact absurd rfl hroles
      | server => exact ⟨rfl, rfl, rfl⟩
  | server =>
      cases farRole with
      | client => exact ⟨rfl, rfl, rfl⟩
      | server => exact absurd rfl hroles

namespace DtlsSrtpTransport

variable {T : Type*}

/-- The DTLS transport is bound for RTP in one of these events. -/
def Binds (events : List (DtlsInputs T × DtlsSrtpEvent T)) (source : T) : Prop :=
  ∃ event ∈ events, ∃ rtcpDtlsTransport,
    event.2 = .setDtlsTransports (some source) rtcpDtlsTransport

def BoundTo (events : List (DtlsInputs T × DtlsSrtpEvent T))
    (transport : DtlsSrtpTransport T) : Prop :=
  ∀ source, transport.rtpDtlsTransport = some source → Binds events source

/-- Both sessions of an active transport hold keys that its own DTLS transport has exported
during one of these events. -/
def KeysExported (api : SrtpApi) (events : List (DtlsInputs T × DtlsSrtpEvent T))
    (transport : DtlsSrtpTransport T) : Prop :=
  transport.isSrtpActive = true →
    ∃ source event keys pair send recv, event ∈ events ∧
      transport.rtpDtlsTransport = some source ∧
      exportKeys api (event.1.rtp.keyExport source) = some keys ∧
      transport.sessions = some pair ∧
      pair.send.keying = some send ∧ pair.recv.keying = some recv ∧
      send.cipherSuite = keys.cipherSuite ∧ send.key = keys.sendKey ∧
      recv.cipherSuite = keys.cipherSuite ∧ recv.key = keys.recvKey

/-- The sessions have been keyed, and the keys come from one of the events. -/
structure KeysKnown (api : SrtpApi) (events : List (DtlsInputs T × DtlsSrtpEvent T))
    (transport : DtlsSrtpTransport T) : Prop where
  keyed : transport.Keyed
  exported : transport.KeysExported api events

structure ExportInv (api : SrtpApi) (events : List (DtlsInputs T × DtlsSrtpEvent T))
    (transport : DtlsSrtpTransport T) : Prop extends transport.KeysKnown api events where
  bound : transport.BoundTo events

section Steps

variable {api : SrtpApi} {events : List (DtlsInputs T × DtlsSrtpEvent T)}
  {transport : DtlsSrtpTransport T}

theorem KeysKnown.of_not_active (hinactive : transport.isSrtpActive = false) :
    transport.KeysKnown api events :=
  ⟨keyed_of_not_active hinactive, fun hactive => absurd hactive (by simp [hinactive])⟩

theorem extractParams_keys {status : T → DtlsStatus} {keyExport : T → KeyExport}
    {dtlsTransport : Option T} {source : T} {keys : ExtractedKeys}
    (hextract : extractParams api status keyExport dtlsTransport = some (source, keys)) :
    exportKeys api (keyExport source) = some keys := by
  obtain ⟨transport, -, hkeys⟩ := Option.bind_eq_some_iff.mp hextract
  split at hkeys
  · obtain ⟨exported, hexported, hpair⟩ := Option.map_eq_some_iff.mp hkeys
    obtain ⟨rfl, rfl⟩ := Prod.mk.inj hpair
    exact hexported
  · exact absurd hkeys (by simp)

theorem keysKnown_keyed {event : DtlsInputs T × DtlsSrtpEvent T} (hmem : event ∈ events)
    {source : T} {keys : ExtractedKeys} {pair : SessionPair}
    (hextract : extractParams api event.1.status event.1.rtp.keyExport
      transport.rtpDtlsTransport = some (source, keys))
    (hsend : pair.send.keying = some (transport.sendParams keys))
    (hrecv : pair.recv.keying = some (transport.recvParams keys)) :
    (transport.keyed event.1 source (transport.sendParams keys) (transport.recvParams keys)
      pair).KeysKnown api events := by
  refine ⟨keyed_keyed hsend hrecv, fun _ => ?_⟩
  exact ⟨source, event, keys, pair, _, _, hmem, extractParams_source hextract,
    extractParams_keys hextract, sessions_keyed, hsend, hrecv, rfl, rfl, rfl, rfl⟩

variable [DecidableEq T]

/-- The transport that is bound when the keys are set up is bound by this event or was
bound before. -/
theorem boundTo_prepare (hbound : transport.BoundTo events)
    {event : DtlsInputs T × DtlsSrtpEvent T} (hmem : event ∈ events) :
    (transport.prepare event.1 event.2).1.BoundTo events := by
  intro source hsource
  have hbindings := congrArg Bindings.rtpDtlsTransport
    (bindings_prepare event.1 transport event.2)
  obtain ⟨inputs, event⟩ := event
  cases event with
  | setDtlsTransports rtpDtlsTransport rtcpDtlsTransport =>
      have hgiven : rtpDtlsTransport = some source := hbindings.symm.trans hsource
      exact ⟨_, hmem, rtcpDtlsTransport, by rw [hgiven]⟩
  | setActiveResetSrtpParams _ | setRtcpMuxEnabled _
  | updateSendEncryptedHeaderExtensionIds _ | updateRecvEncryptedHeaderExtensionIds _
  | onDtlsState _ _ | onWritableState _ =>
      exact hbound source (hbindings.symm.trans hsource)

omit [DecidableEq T] in
theorem boundTo_run {inputs : DtlsInputs T} {kind : SetupKind}
    (hbound : transport.BoundTo events) :
    (kind.run api inputs transport).BoundTo events := by
  intro source hsource
  have hbindings := congrArg Bindings.rtpDtlsTransport (bindings_run api inputs transport kind)
  exact hbound source (hbindings.symm.trans hsource)

theorem keysKnown_prepare (hknown : transport.KeysKnown api events) (inputs : DtlsInputs T)
    (event : DtlsSrtpEvent T) : (transport.prepare inputs event).1.KeysKnown api events := by
  rcases transport.prepare_cases inputs event with hsame | hnone
  · refine ⟨fun pair hpair => hknown.keyed pair (hsame.sessions ▸ hpair), fun hactive => ?_⟩
    obtain ⟨source, past, keys, pair, send, recv, hpast, hsource, hexport, hpair, hkeys⟩ :=
      hknown.exported (hsame.isSrtpActive ▸ hactive)
    exact ⟨source, past, keys, pair, send, recv, hpast,
      (rtpDtlsTransport_prepare inputs hactive).trans hsource, hexport,
      hsame.sessions.trans hpair, hkeys⟩
  · exact .of_not_active hnone.not_active

theorem step_exportInv (transport : DtlsSrtpTransport T)
    (event : DtlsInputs T × DtlsSrtpEvent T) (next : DtlsSrtpTransport T)
    (hinv : ExportInv api events transport) (hmem : event ∈ events)
    (hstep : step api transport event = some (.ok next)) : ExportInv api events next := by
  obtain ⟨-, rfl⟩ := (step_eq_ok_iff api).mp hstep
  have hbound := boundTo_prepare hinv.bound hmem
  have hprepared := keysKnown_prepare hinv.toKeysKnown event.1 event.2
  refine ⟨?_, boundTo_run hbound⟩
  apply run_setup api event.1 hprepared.keyed hprepared
  · intro _ after hsetup
    cases hsetup with
    | keyed source keys pair _ hextract hsend hrecv =>
        exact keysKnown_keyed hmem hextract hsend hrecv
    | unchanged => exact hprepared
    | dropped source send recv =>
        exact .of_not_active (noKeys_resetParams event.1.writable _).not_active
  · intro inactive hinactive _
    apply KeysKnown.of_not_active
    rw [isSrtpActive_setupRtcpDtlsSrtp, hinactive]

omit [DecidableEq T] in
theorem exportInv_create (api : SrtpApi) (rtcpMuxEnabled : Bool)
    (events : List (DtlsInputs T × DtlsSrtpEvent T)) :
    (create rtcpMuxEnabled : DtlsSrtpTransport T).ExportInv api events :=
  ⟨.of_not_active rfl, by simp [BoundTo, create]⟩

theorem exportInv_run (api : SrtpApi) (rtcpMuxEnabled : Bool)
    {events : List (DtlsInputs T × DtlsSrtpEvent T)} {final : DtlsSrtpTransport T}
    (hrun : run (step api) (create rtcpMuxEnabled) events = some (.ok final)) :
    ExportInv api events final := by
  exact run_induction_of_forall step_exportInv (exportInv_create api rtcpMuxEnabled events)
    (fun _ hmem => hmem) hrun

end Steps

/-! ## Both ends -/

/-- Each session of one transport is keyed as the opposite session of the other, up to the
header extension ids. -/
def KeysMatch {S : Type*} (near : DtlsSrtpTransport T) (far : DtlsSrtpTransport S) : Prop :=
  ∃ nearPair farPair nearSend nearRecv farSend farRecv,
    near.sessions = some nearPair ∧ far.sessions = some farPair ∧
    nearPair.send.keying = some nearSend ∧ nearPair.recv.keying = some nearRecv ∧
    farPair.send.keying = some farSend ∧ farPair.recv.keying = some farRecv ∧
    nearSend.cipherSuite = farRecv.cipherSuite ∧ nearSend.key = farRecv.key ∧
    nearRecv.cipherSuite = farSend.cipherSuite ∧ nearRecv.key = farSend.key

/-- Two active transports whose DTLS transports are the ends of one association hold
matching keys, whatever has happened at either end and in whatever order. -/
theorem keysMatch_run {S : Type*} [DecidableEq T] [DecidableEq S] (api : SrtpApi)
    (nearMux farMux : Bool) {nearEvents : List (DtlsInputs T × DtlsSrtpEvent T)}
    {farEvents : List (DtlsInputs S × DtlsSrtpEvent S)} {near : DtlsSrtpTransport T}
    {far : DtlsSrtpTransport S}
    (hnear : run (step api) (create nearMux) nearEvents = some (.ok near))
    (hfar : run (step api) (create farMux) farEvents = some (.ok far))
    (hnearActive : near.isSrtpActive = true) (hfarActive : far.isSrtpActive = true)
    (hassociated : ∀ nearSource farSource, near.rtpDtlsTransport = some nearSource →
      far.rtpDtlsTransport = some farSource →
      ∀ nearEvent ∈ nearEvents, ∀ farEvent ∈ farEvents,
        Associated (nearEvent.1.rtp.keyExport nearSource)
          (farEvent.1.rtp.keyExport farSource)) :
    near.KeysMatch far := by
  obtain ⟨nearSource, nearEvent, nearKeys, nearPair, nearSend, nearRecv, hnearMem,
    hnearSource, hnearExport, hnearPair, hnearSend, hnearRecv, hsendSuite, hsendKey,
    hrecvSuite, hrecvKey⟩ := (exportInv_run api nearMux hnear).exported hnearActive
  obtain ⟨farSource, farEvent, farKeys, farPair, farSend, farRecv, hfarMem, hfarSource,
    hfarExport, hfarPair, hfarSend, hfarRecv, hfarSendSuite, hfarSendKey, hfarRecvSuite,
    hfarRecvKey⟩ := (exportInv_run api farMux hfar).exported hfarActive
  obtain ⟨hsuite, hsend, hrecv⟩ :=
    (hassociated nearSource farSource hnearSource hfarSource nearEvent hnearMem farEvent
      hfarMem).exportKeys_match hnearExport hfarExport
  refine ⟨nearPair, farPair, nearSend, nearRecv, farSend, farRecv, hnearPair, hfarPair,
    hnearSend, hnearRecv, hfarSend, hfarRecv, ?_, ?_, ?_, ?_⟩
  · rw [hsendSuite, hsuite, hfarRecvSuite]
  · rw [hsendKey, hsend, hfarRecvKey]
  · rw [hrecvSuite, hsuite, hfarSendSuite]
  · rw [hrecvKey, hrecv, hfarSendKey]

/-- The DTLS transport comes, and the handshake over it ends. -/
def countingInputs : DtlsInputs ℕ where
  writable _ := true
  status _ := { isDtlsActive := true, dtlsState := .connected }
  rtp := { keyExport := countingKeyExport }

def connectOver (transport : ℕ) : List (DtlsInputs ℕ × DtlsSrtpEvent ℕ) :=
  [({}, .setDtlsTransports (some transport) none),
    (countingInputs, .onDtlsState transport .connected)]

/-- One peer is the client of the association and the other its server. -/
theorem associated_connectOver : ∀ near ∈ connectOver 0, ∀ far ∈ connectOver 1,
    Associated (near.1.rtp.keyExport 0) (far.1.rtp.keyExport 1) := by
  intro near hnear far hfar
  simp only [connectOver, List.mem_cons, List.not_mem_nil, or_false] at hnear hfar
  rcases hnear with rfl | rfl <;> rcases hfar with rfl | rfl <;>
    constructor <;> simp +contextual [countingInputs, countingKeyExport]

theorem keysMatch_run_counting :
    ∃ near far, run (step registeredSrtpApi) (create true) (connectOver 0) = some (.ok near) ∧
      run (step registeredSrtpApi) (create true) (connectOver 1) = some (.ok far) ∧
      near.KeysMatch far := by
  obtain ⟨near, hnear, hnearReached⟩ := exists_of_reaches
    (fun transport : DtlsSrtpTransport ℕ =>
      transport.isSrtpActive && transport.rtpDtlsTransport == some 0)
    (show reaches _ (run (step registeredSrtpApi) (create true) (connectOver 0)) = true by
      decide +kernel)
  obtain ⟨far, hfar, hfarReached⟩ := exists_of_reaches
    (fun transport : DtlsSrtpTransport ℕ =>
      transport.isSrtpActive && transport.rtpDtlsTransport == some 1)
    (show reaches _ (run (step registeredSrtpApi) (create true) (connectOver 1)) = true by
      decide +kernel)
  simp only [Bool.and_eq_true, beq_iff_eq] at hnearReached hfarReached
  refine ⟨near, far, hnear, hfar,
    keysMatch_run registeredSrtpApi true true hnear hfar hnearReached.1 hfarReached.1 ?_⟩
  intro nearSource farSource hnearSource hfarSource
  obtain rfl := Option.some.inj (hnearSource.symm.trans hnearReached.2)
  obtain rfl := Option.some.inj (hfarSource.symm.trans hfarReached.2)
  exact associated_connectOver

end DtlsSrtpTransport

end PeerConnection.Srtp
