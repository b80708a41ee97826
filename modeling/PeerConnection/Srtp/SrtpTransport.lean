import PeerConnection.Srtp.RtpTransport

/-!
# The SRTP transport

`SrtpTransport` adds the sessions that protect and unprotect the packets.  The keys of
the RTP sessions come from `SetRtpParams`, those of separate RTCP sessions from
`SetRtcpParams`; with SDES the former is reached through `SetSrtpSendKey` and
`SetSrtpReceiveKey`.
-/

namespace PeerConnection.Srtp

open PeerConnection.Text

/-- `webrtc::RTCErrorType`, as far as it is used here. -/
inductive RtcErrorType where
  | invalidParameter
  | invalidState
  | unsupportedOperation
  deriving DecidableEq, Repr

/-- A `webrtc::RTCError` that is not OK. -/
structure RtcError where
  type : RtcErrorType
  message : String
  deriving DecidableEq, Repr

/-- `cricket::CryptoParams`. -/
structure CryptoParams where
  tag : ℤ := 0
  cipherSuite : Bytes
  keyParams : Bytes
  sessionParams : Bytes := []
  deriving DecidableEq, Repr

/-- `rtc::kSrtpInvalidCryptoSuite`. -/
def srtpInvalidCryptoSuite : ℤ := 0

inductive Direction where
  | send
  | recv
  deriving DecidableEq, Repr

def Direction.opposite : Direction → Direction
  | .send => .recv
  | .recv => .send

/-- The fields of the SDES negotiation for one direction. -/
structure SdesFields where
  params : Option CryptoParams := none
  cipherSuite : Option ℤ := none
  key : Bytes := []
  deriving DecidableEq, Repr

/-- `send_session_` and `recv_session_`.  Only `CreateSrtpSessions` and `ResetParams`
assign them, always both. -/
structure SessionPair where
  send : SrtpSession
  recv : SrtpSession
  deriving DecidableEq, Repr

/-- How the calls into libsrtp end while a pair of sessions is being keyed. -/
structure PairResults where
  send : LibsrtpResults := {}
  recv : LibsrtpResults := {}
  deriving DecidableEq, Repr

structure SrtpTransport (T : Type*) extends RtpTransport T where
  sessions : Option SessionPair := none
  sendRtcpSession : Option SrtpSession := none
  recvRtcpSession : Option SrtpSession := none
  /-- `send_params_`, `send_cipher_suite_` and `send_key_`. -/
  sendSdes : SdesFields := {}
  recvSdes : SdesFields := {}
  /-- `writable_`: the value that `MaybeUpdateWritableState` has signalled last. -/
  writable : Bool := false
  externalAuthEnabled : Bool := false
  deriving DecidableEq, Repr

namespace SrtpTransport

variable {T : Type*}

def observe (transport : SrtpTransport T) (observation : Observation T) : SrtpTransport T :=
  { transport with toRtpTransport := transport.toRtpTransport.observe observation }

def isSrtpActive (transport : SrtpTransport T) : Bool :=
  transport.sessions.isSome

section Writable

variable (writable : T → Bool)

def isWritable (transport : SrtpTransport T) (rtcp : Bool) : Bool :=
  transport.isSrtpActive && transport.toRtpTransport.isWritable writable rtcp

def maybeUpdateWritableState (transport : SrtpTransport T) : SrtpTransport T :=
  let now := transport.isWritable writable true && transport.isWritable writable false
  if transport.writable ≠ now then
    { transport with writable := now }.observe (.writableState now)
  else transport

/-- The override of `RtpTransport::OnWritableState`. -/
def onWritableState (transport : SrtpTransport T) : SrtpTransport T :=
  transport.observe <| .writableState <|
    transport.isWritable writable false && transport.isWritable writable true

def resetParams (transport : SrtpTransport T) : SrtpTransport T :=
  maybeUpdateWritableState writable
    { transport with
      sessions := none
      sendRtcpSession := none
      recvRtcpSession := none }

def createSrtpSessions (transport : SrtpTransport T) : SessionPair :=
  { send := if transport.externalAuthEnabled then SrtpSession.enableExternalAuth {} else {}
    recv := {} }

variable (api : SrtpApi) (results : PairResults)

/-- The sending half of `SetRtpParams`: new sessions are set, old ones are updated. -/
def keySend (transport : SrtpTransport T) (send : SessionParams) : SrtpSession × Bool :=
  match transport.sessions with
  | none => transport.createSrtpSessions.send.setSend api results.send send
  | some pair => pair.send.updateSend api results.send send

def keyRecv (transport : SrtpTransport T) (recv : SessionParams) : SrtpSession × Bool :=
  match transport.sessions with
  | none => transport.createSrtpSessions.recv.setRecv api results.recv recv
  | some pair => pair.recv.updateRecv api results.recv recv

def setRtpParams (transport : SrtpTransport T) (send recv : SessionParams) :
    SrtpTransport T × Bool :=
  let newSessions := !transport.isSrtpActive
  let (sendSession, sendRet) := transport.keySend api results send
  if !sendRet then (transport.resetParams writable, false)
  else
    let (recvSession, recvRet) := transport.keyRecv api results recv
    if !recvRet then (transport.resetParams writable, false)
    else
      let keyed : SrtpTransport T :=
        { transport with sessions := some { send := sendSession, recv := recvSession } }
      ((keyed.observe (.rtpParams newSessions send recv)).maybeUpdateWritableState writable,
        true)

/-- A session that libsrtp refuses stays where it is. -/
def setRtcpParams (transport : SrtpTransport T) (send recv : SessionParams) :
    SrtpTransport T × Bool :=
  if transport.sendRtcpSession.isSome || transport.recvRtcpSession.isSome then
    (transport, false)
  else
    let (sendSession, sendRet) := SrtpSession.setSend api results.send {} send
    let withSend := { transport with sendRtcpSession := some sendSession }
    if !sendRet then (withSend, false)
    else
      let (recvSession, recvRet) := SrtpSession.setRecv api results.recv {} recv
      let withBoth := { withSend with recvRtcpSession := some recvSession }
      if !recvRet then (withBoth, false)
      else
        ((withBoth.observe (.rtcpParams send recv)).maybeUpdateWritableState writable, true)

end Writable

/-! ## RTCP packets -/

/-- The session that `ProtectRtcp` uses. -/
def rtcpSendSession (transport : SrtpTransport T) : Option SrtpSession :=
  transport.sessions.map fun pair => transport.sendRtcpSession.getD pair.send

/-- The session that `UnprotectRtcp` uses. -/
def rtcpRecvSession (transport : SrtpTransport T) : Option SrtpSession :=
  transport.sessions.map fun pair => transport.recvRtcpSession.getD pair.recv

/-- `sessionProtectRtcp` is what a session makes of a packet. -/
def protectRtcp (sessionProtectRtcp : SrtpSession → Bytes → Option Bytes)
    (transport : SrtpTransport T) (packet : Bytes) : Option Bytes :=
  transport.rtcpSendSession.bind fun session => sessionProtectRtcp session packet

def unprotectRtcp (sessionUnprotectRtcp : SrtpSession → Bytes → Option Bytes)
    (transport : SrtpTransport T) (packet : Bytes) : Option Bytes :=
  transport.rtcpRecvSession.bind fun session => sessionUnprotectRtcp session packet

/-! ## SDES -/

def sdes (transport : SrtpTransport T) : Direction → SdesFields
  | .send => transport.sendSdes
  | .recv => transport.recvSdes

def setSdes (transport : SrtpTransport T) (direction : Direction) (fields : SdesFields) :
    SrtpTransport T :=
  match direction with
  | .send => { transport with sendSdes := fields }
  | .recv => { transport with recvSdes := fields }

/-- The bytes that `key_params` stands for. -/
def decodeKeyParams (api : SrtpApi) (keyParams : Bytes) : Option Bytes :=
  if ascii "inline:" <+: keyParams then api.base64Decode (keyParams.drop 7) else none

def parseKeyParams (api : SrtpApi) (keyParams : Bytes) (len : ℕ) : Option Bytes :=
  (decodeKeyParams api keyParams).filter fun key => key.length = len

variable (api : SrtpApi) (writable : T → Bool)

def maybeSetKeyParams (results : PairResults) (transport : SrtpTransport T) :
    SrtpTransport T × Bool :=
  match transport.sendSdes.cipherSuite, transport.recvSdes.cipherSuite with
  | some sendSuite, some recvSuite =>
      transport.setRtpParams writable api results
        { cipherSuite := sendSuite, key := transport.sendSdes.key }
        { cipherSuite := recvSuite, key := transport.recvSdes.key }
  | _, _ => (transport, true)

/-- What a call takes from outside: the bytes that its new key buffer happens to hold,
and the answers of libsrtp. -/
structure SdesInputs where
  uninitialized : ℕ → Byte := fun _ => 0
  results : PairResults := {}

/-- `SetSrtpSendKey` and `SetSrtpReceiveKey` are the same code with the two directions
exchanged, up to one message. -/
def setSrtpKey (direction : Direction) (lengthsMessage : String) (inputs : SdesInputs)
    (transport : SrtpTransport T) (params : CryptoParams) :
    SrtpTransport T × Except RtcError Unit :=
  let own := transport.sdes direction
  if own.params.isSome then
    (transport, .error { type := .unsupportedOperation,
                         message := "Setting the SRTP send key twice is currently unsupported." })
  else if (transport.sdes direction.opposite).params.any
      (·.cipherSuite ≠ params.cipherSuite) then
    (transport, .error
      { type := .unsupportedOperation,
        message := "The send key and receive key must have the same cipher suite." })
  else
    -- the suite and the buffer are assigned before anything has been checked
    let suite := api.srtpCryptoSuiteFromName params.cipherSuite
    let withSuite := { own with cipherSuite := some suite }
    if suite = srtpInvalidCryptoSuite then
      (transport.setSdes direction withSuite,
        .error { type := .invalidParameter, message := "Invalid SRTP crypto suite" })
    else
      match api.getSrtpKeyAndSaltLengths suite with
      | none =>
          (transport.setSdes direction withSuite,
            .error { type := .invalidParameter, message := lengthsMessage })
      | some (keyLen, saltLen) =>
          match parseKeyParams api params.keyParams (keyLen + saltLen) with
          | none =>
              let buffer := (List.range (keyLen + saltLen)).map inputs.uninitialized
              (transport.setSdes direction { withSuite with key := buffer },
                .error { type := .invalidParameter,
                         message := "Failed to parse the crypto key params" })
          | some key =>
              let withKey := transport.setSdes direction { withSuite with key := key }
              let (tried, ok) := withKey.maybeSetKeyParams api writable inputs.results
              if !ok then
                (tried, .error { type := .invalidParameter,
                                 message := "Failed to set the crypto key params" })
              else
                (tried.setSdes direction { tried.sdes direction with params := some params },
                  .ok ())

def setSrtpSendKey (inputs : SdesInputs) (transport : SrtpTransport T)
    (params : CryptoParams) : SrtpTransport T × Except RtcError Unit :=
  setSrtpKey api writable .send
    "Could not get lengths for crypto suite(s): send cipher_suite " inputs transport params

def setSrtpReceiveKey (inputs : SdesInputs) (transport : SrtpTransport T)
    (params : CryptoParams) : SrtpTransport T × Except RtcError Unit :=
  setSrtpKey api writable .recv
    "Could not get lengths for crypto suite(s): recv cipher_suite " inputs transport params

/-! ## What the operations do -/

variable {api writable} {results : PairResults} {transport : SrtpTransport T}
  {send recv : SessionParams}

/-- The sessions that are there have been keyed. -/
def Keyed (transport : SrtpTransport T) : Prop :=
  ∀ pair, transport.sessions = some pair →
    pair.send.keying.isSome ∧ pair.recv.keying.isSome

/-- libsrtp starts where it has to, knows both suites, and agrees to both keys. -/
def acceptsRtpParams (api : SrtpApi) (results : PairResults) (transport : SrtpTransport T)
    (send recv : SessionParams) : Bool :=
  (transport.isSrtpActive || results.send.init && results.recv.init) &&
    (api.takes send && results.send.apply) && (api.takes recv && results.recv.apply)

/-- The state after the signal of `MaybeUpdateWritableState`. -/
theorem maybeUpdateWritableState_eq (writable : T → Bool) (transport : SrtpTransport T) :
    ∃ signals : List Bool, transport.maybeUpdateWritableState writable =
      { transport with
        writable := transport.isWritable writable true && transport.isWritable writable false
        trace := transport.trace ++ signals.map .writableState } := by
  by_cases hchange : transport.writable ≠
      (transport.isWritable writable true && transport.isWritable writable false)
  · simp only [maybeUpdateWritableState, if_pos hchange]
    exact ⟨[_], rfl⟩
  · simp only [maybeUpdateWritableState, if_neg hchange]
    refine ⟨[], ?_⟩
    simp only [List.map_nil, List.append_nil, ← not_not.mp hchange]

@[simp]
theorem rtcpMuxEnabled_maybeUpdateWritableState :
    (transport.maybeUpdateWritableState writable).rtcpMuxEnabled =
      transport.rtcpMuxEnabled := by
  obtain ⟨signals, heq⟩ := maybeUpdateWritableState_eq writable transport
  rw [heq]

@[simp]
theorem sendRtcpSession_maybeUpdateWritableState :
    (transport.maybeUpdateWritableState writable).sendRtcpSession =
      transport.sendRtcpSession := by
  obtain ⟨signals, heq⟩ := maybeUpdateWritableState_eq writable transport
  rw [heq]

@[simp]
theorem recvRtcpSession_maybeUpdateWritableState :
    (transport.maybeUpdateWritableState writable).recvRtcpSession =
      transport.recvRtcpSession := by
  obtain ⟨signals, heq⟩ := maybeUpdateWritableState_eq writable transport
  rw [heq]

theorem trace_maybeUpdateWritableState (writable : T → Bool) (transport : SrtpTransport T) :
    ∃ signals : List Bool, (transport.maybeUpdateWritableState writable).trace =
      transport.trace ++ signals.map .writableState := by
  obtain ⟨signals, heq⟩ := maybeUpdateWritableState_eq writable transport
  exact ⟨signals, by rw [heq]⟩

@[simp]
theorem trace_observe (transport : SrtpTransport T) (observation : Observation T) :
    (transport.observe observation).trace = transport.trace ++ [observation] := rfl

@[simp]
theorem sessions_maybeUpdateWritableState :
    (transport.maybeUpdateWritableState writable).sessions = transport.sessions := by
  obtain ⟨signals, heq⟩ := maybeUpdateWritableState_eq writable transport
  rw [heq]

@[simp]
theorem sdes_maybeUpdateWritableState (direction : Direction) :
    (transport.maybeUpdateWritableState writable).sdes direction =
      transport.sdes direction := by
  obtain ⟨signals, heq⟩ := maybeUpdateWritableState_eq writable transport
  rw [heq]
  cases direction <;> rfl

@[simp]
theorem sessions_observe (observation : Observation T) :
    (transport.observe observation).sessions = transport.sessions := rfl

@[simp]
theorem sdes_observe (observation : Observation T) (direction : Direction) :
    (transport.observe observation).sdes direction = transport.sdes direction := by
  cases direction <;> rfl

@[simp]
theorem sdes_withSessions (sessions : Option SessionPair) (direction : Direction) :
    sdes { transport with sessions := sessions } direction = transport.sdes direction := by
  cases direction <;> rfl

@[simp]
theorem sessions_resetParams : (transport.resetParams writable).sessions = none := by
  simp [resetParams]

@[simp]
theorem sdes_resetParams (direction : Direction) :
    (transport.resetParams writable).sdes direction = transport.sdes direction := by
  rw [resetParams, sdes_maybeUpdateWritableState]
  cases direction <;> rfl

@[simp]
theorem sessions_setSdes (direction : Direction) (fields : SdesFields) :
    (transport.setSdes direction fields).sessions = transport.sessions := by
  cases direction <;> rfl

@[simp]
theorem sdes_setSdes_same (direction : Direction) (fields : SdesFields) :
    (transport.setSdes direction fields).sdes direction = fields := by
  cases direction <;> rfl

@[simp]
theorem sdes_setSdes_opposite (direction : Direction) (fields : SdesFields) :
    (transport.setSdes direction fields).sdes direction.opposite =
      transport.sdes direction.opposite := by
  cases direction <;> rfl

@[simp]
theorem session_createSrtpSessions :
    transport.createSrtpSessions.send.session = none ∧
      transport.createSrtpSessions.recv.session = none := by
  cases hauth : transport.externalAuthEnabled <;>
    simp [createSrtpSessions, hauth, SrtpSession.enableExternalAuth]

theorem keySend_snd (hkeyed : transport.Keyed) :
    (transport.keySend api results send).2 =
      ((transport.isSrtpActive || results.send.init) &&
        (api.takes send && results.send.apply)) := by
  cases hsessions : transport.sessions with
  | none =>
      simp only [keySend, hsessions, isSrtpActive, Option.isSome_none, Bool.false_or]
      exact SrtpSession.setKey_snd session_createSrtpSessions.1
  | some pair =>
      simp only [keySend, hsessions, isSrtpActive, Option.isSome_some, Bool.true_or,
        Bool.true_and]
      exact SrtpSession.updateKey_snd (hkeyed pair hsessions).1

theorem keying_keySend (hret : (transport.keySend api results send).2 = true) :
    (transport.keySend api results send).1.keying = some send := by
  unfold keySend at hret ⊢
  split at hret
  · exact SrtpSession.keying_of_setKey hret
  · exact SrtpSession.keying_of_updateKey hret

theorem keyRecv_snd (hkeyed : transport.Keyed) :
    (transport.keyRecv api results recv).2 =
      ((transport.isSrtpActive || results.recv.init) &&
        (api.takes recv && results.recv.apply)) := by
  cases hsessions : transport.sessions with
  | none =>
      simp only [keyRecv, hsessions, isSrtpActive, Option.isSome_none, Bool.false_or]
      exact SrtpSession.setKey_snd session_createSrtpSessions.2
  | some pair =>
      simp only [keyRecv, hsessions, isSrtpActive, Option.isSome_some, Bool.true_or,
        Bool.true_and]
      exact SrtpSession.updateKey_snd (hkeyed pair hsessions).2

theorem keying_keyRecv (hret : (transport.keyRecv api results recv).2 = true) :
    (transport.keyRecv api results recv).1.keying = some recv := by
  unfold keyRecv at hret ⊢
  split at hret
  · exact SrtpSession.keying_of_setKey hret
  · exact SrtpSession.keying_of_updateKey hret

theorem acceptsRtpParams_eq (hkeyed : transport.Keyed) :
    acceptsRtpParams api results transport send recv =
      ((transport.keySend api results send).2 &&
        (transport.keyRecv api results recv).2) := by
  rw [keySend_snd hkeyed, keyRecv_snd hkeyed, acceptsRtpParams]
  cases transport.isSrtpActive <;> cases results.send.init <;> cases results.recv.init <;>
    simp

/-- `SetRtpParams` keys both sessions, or it drops all of them. -/
theorem setRtpParams_cases (api : SrtpApi) (writable : T → Bool) (results : PairResults)
    (send recv : SessionParams) (hkeyed : transport.Keyed) :
    (acceptsRtpParams api results transport send recv = true ∧
      ∃ pair : SessionPair, pair.send.keying = some send ∧ pair.recv.keying = some recv ∧
        transport.setRtpParams writable api results send recv =
          (maybeUpdateWritableState writable
            (observe { transport with sessions := some pair }
              (.rtpParams (!transport.isSrtpActive) send recv)), true)) ∨
    (acceptsRtpParams api results transport send recv = false ∧
      transport.setRtpParams writable api results send recv =
        (transport.resetParams writable, false)) := by
  rw [acceptsRtpParams_eq hkeyed]
  cases hsend : (transport.keySend api results send).2 with
  | false => exact Or.inr ⟨rfl, by simp [setRtpParams, hsend]⟩
  | true =>
      cases hrecv : (transport.keyRecv api results recv).2 with
      | false => exact Or.inr ⟨rfl, by simp [setRtpParams, hsend, hrecv]⟩
      | true =>
          refine Or.inl ⟨rfl, { send := (transport.keySend api results send).1,
                                recv := (transport.keyRecv api results recv).1 },
            keying_keySend hsend, keying_keyRecv hrecv, ?_⟩
          simp [setRtpParams, hsend, hrecv]

theorem sessions_setRtcpParams (results : PairResults) (send recv : SessionParams) :
    (transport.setRtcpParams writable api results send recv).1.sessions =
      transport.sessions := by
  simp only [setRtcpParams]
  split
  · rfl
  split
  · rfl
  split
  · rfl
  · simp

end SrtpTransport

end PeerConnection.Srtp
