import PeerConnection.Srtp.DtlsEvents

/-!
# Where the keys come from

Whatever happens to a DTLS-SRTP transport, and whatever fails, the keys of an active one
are those that the last successful `SetRtpParams` has put into both sessions, and they
were extracted just before from the DTLS transport that it is still bound to; no event
has reported since that this transport is no longer connected.
-/

namespace PeerConnection.Srtp.DtlsSrtpTransport

open PeerConnection.Runs

variable {T : Type*}

/-- When the transport is active, both keys have been extracted from its RTP transport,
set by one call, the last one, and the RTP transport has not left the connected state
since. -/
def Provenance (transport : DtlsSrtpTransport T) : Prop :=
  transport.isSrtpActive = true →
    ∃ source send recv pair newSessions before after,
      transport.rtpDtlsTransport = some source ∧ transport.sessions = some pair ∧
      pair.send.keying = some send ∧ pair.recv.keying = some recv ∧
      transport.trace = before ++ .extracted source send recv ::
        .rtpParams newSessions send recv :: after ∧
      (∀ state, .dtlsState source state ∈ after → state = .connected) ∧
      ∀ newer send recv, .rtpParams newer send recv ∉ after

theorem Provenance.of_not_active {transport : DtlsSrtpTransport T}
    (hinactive : transport.isSrtpActive = false) : transport.Provenance := by
  intro hactive
  exact absurd hactive (by simp [hinactive])

theorem Provenance.of_same {before after : DtlsSrtpTransport T}
    (hprovenance : before.Provenance) (hsame : SameKeys before after)
    (hrtp : after.isSrtpActive = true → after.rtpDtlsTransport = before.rtpDtlsTransport) :
    after.Provenance := by
  intro hactive
  obtain ⟨source, send, recv, pair, newSessions, front, back, hsource, hpair, hsend, hrecv,
    htrace, hconnected, hlast⟩ := hprovenance (hsame.isSrtpActive ▸ hactive)
  obtain ⟨extra, hextra, hquiet⟩ := hsame.trace
  refine ⟨source, send, recv, pair, newSessions, front, back ++ extra,
    (hrtp hactive).trans hsource, hsame.sessions.trans hpair, hsend, hrecv, ?_, ?_, ?_⟩
  · rw [hextra, htrace]
    simp
  · intro state hstate
    rcases List.mem_append.mp hstate with hold | hnew
    · exact hconnected state hold
    · exact hquiet _ hnew
  · intro newer send recv hparams
    rcases List.mem_append.mp hparams with hold | hnew
    · exact hlast newer send recv hold
    · exact hquiet _ hnew

section Keyed

variable {inputs : DtlsInputs T} {transport : DtlsSrtpTransport T} {source : T}
  {send recv : SessionParams} {pair : SessionPair}

@[simp]
theorem sessions_keyed :
    (transport.keyed inputs source send recv pair).sessions = some pair := by
  simp [keyed]

/-- The keys are extracted and set, and at most a signal follows. -/
theorem trace_keyed (transport : DtlsSrtpTransport T) (inputs : DtlsInputs T) (source : T)
    (send recv : SessionParams) (pair : SessionPair) : ∃ signals : List Bool,
    (transport.keyed inputs source send recv pair).trace =
      transport.trace ++ .extracted source send recv ::
        .rtpParams (!transport.isSrtpActive) send recv :: signals.map .writableState := by
  obtain ⟨signals, htrace⟩ := SrtpTransport.trace_maybeUpdateWritableState inputs.writable
    (SrtpTransport.observe
      { transport.toSrtpTransport.observe (.extracted source send recv) with
        sessions := some pair }
      (.rtpParams (!transport.isSrtpActive) send recv))
  exact ⟨signals, htrace.trans (by simp)⟩

theorem provenance_keyed (hsource : transport.rtpDtlsTransport = some source)
    (hsend : pair.send.keying = some send) (hrecv : pair.recv.keying = some recv) :
    (transport.keyed inputs source send recv pair).Provenance := by
  intro _
  obtain ⟨signals, htrace⟩ := transport.trace_keyed inputs source send recv pair
  refine ⟨source, send, recv, pair, _, _, signals.map .writableState, hsource,
    sessions_keyed, hsend, hrecv, htrace, ?_, ?_⟩
  · intro state hstate
    simp at hstate
  · intro newer send recv hparams
    simp at hparams

theorem keyed_keyed (hsend : pair.send.keying = some send)
    (hrecv : pair.recv.keying = some recv) :
    (transport.keyed inputs source send recv pair).Keyed := by
  intro other hother
  obtain rfl : pair = other := Option.some.inj (sessions_keyed.symm.trans hother)
  simp [hsend, hrecv]

end Keyed

theorem keyed_of_not_active {transport : DtlsSrtpTransport T}
    (hinactive : transport.isSrtpActive = false) : transport.Keyed := by
  intro pair hpair
  exact absurd hinactive (by simp [SrtpTransport.isSrtpActive, hpair])

@[simp]
theorem isSrtpActive_setupRtcpDtlsSrtp (api : SrtpApi) (inputs : DtlsInputs T)
    (transport : DtlsSrtpTransport T) :
    (transport.setupRtcpDtlsSrtp api inputs).isSrtpActive = transport.isSrtpActive := by
  unfold setupRtcpDtlsSrtp
  split
  · rfl
  · split
    · rfl
    · simp [SrtpTransport.isSrtpActive, SrtpTransport.sessions_setRtcpParams]

/-- Sessions that are there have been keyed, and by whom is known. -/
structure KeysInv (transport : DtlsSrtpTransport T) : Prop where
  keyed : transport.Keyed
  provenance : transport.Provenance

theorem KeysInv.of_not_active {transport : DtlsSrtpTransport T}
    (hinactive : transport.isSrtpActive = false) : KeysInv transport :=
  ⟨keyed_of_not_active hinactive, .of_not_active hinactive⟩

theorem keysInv_prepare [DecidableEq T] {transport : DtlsSrtpTransport T}
    (hinv : KeysInv transport) (inputs : DtlsInputs T) (event : DtlsSrtpEvent T) :
    KeysInv (transport.prepare inputs event).1 := by
  rcases transport.prepare_cases inputs event with hsame | hnone
  · refine ⟨fun pair hpair => hinv.keyed pair (hsame.sessions ▸ hpair), ?_⟩
    exact hinv.provenance.of_same hsame (rtpDtlsTransport_prepare inputs)
  · exact .of_not_active hnone.not_active

/-- One event keeps the provenance of the keys. -/
theorem step_keysInv [DecidableEq T] {api : SrtpApi} (transport : DtlsSrtpTransport T)
    (event : DtlsInputs T × DtlsSrtpEvent T) (next : DtlsSrtpTransport T)
    (hinv : KeysInv transport) (hstep : step api transport event = some (.ok next)) :
    KeysInv next := by
  obtain ⟨-, rfl⟩ := (step_eq_ok_iff api).mp hstep
  have hprepared := keysInv_prepare hinv event.1 event.2
  apply run_setup api event.1 hprepared.keyed hprepared
  · intro _ after hsetup
    cases hsetup with
    | keyed source keys pair _ hextract hsend hrecv =>
        exact ⟨keyed_keyed hsend hrecv,
          provenance_keyed (extractParams_source hextract) hsend hrecv⟩
    | unchanged => exact hprepared
    | dropped source send recv =>
        apply KeysInv.of_not_active
        exact (noKeys_resetParams event.1.writable _).not_active
  · intro inactive hinactive _
    apply KeysInv.of_not_active
    rw [isSrtpActive_setupRtcpDtlsSrtp, hinactive]

/-- In every state of every run, the keys of an active transport come from its own RTP
transport, by one call, and from after the last report that it was not connected. -/
theorem provenance_run [DecidableEq T] (api : SrtpApi) (rtcpMuxEnabled : Bool)
    (events : List (DtlsInputs T × DtlsSrtpEvent T)) :
    Throughout (step api) Provenance (create rtcpMuxEnabled) events := by
  intro before after passed _ hrun
  have hinit : KeysInv (create rtcpMuxEnabled : DtlsSrtpTransport T) :=
    .of_not_active rfl
  exact (run_induction step_keysInv hinit hrun).provenance

/-- Two DTLS transports that are connected and export different keying material. -/
def connectedKeyExport (transport : ℕ) : KeyExport where
  srtpCryptoSuite := some 1
  exportKeyingMaterial size := some (List.replicate size (transport.toUInt8 + 1))
  dtlsRole := some .client

def connectedInputs : DtlsInputs ℕ where
  writable _ := true
  status _ := { isDtlsActive := true, dtlsState := .connected }
  rtp := { keyExport := connectedKeyExport }
  rtcp := { keyExport := connectedKeyExport }

example : reaches (fun transport : DtlsSrtpTransport ℕ => transport.isSrtpActive)
    (run (step registeredSrtpApi) (create true)
      [({}, .setDtlsTransports (some 0) none), (connectedInputs, .onDtlsState 0 .connected)]) =
    true := by
  decide +kernel

end PeerConnection.Srtp.DtlsSrtpTransport
