import PeerConnection.Core.Runs
import PeerConnection.Srtp.SrtpTransport

/-!
# The DTLS-SRTP transport

`DtlsSrtpTransport` takes the keys of its sessions from DTLS transports.  It is driven
by the calls of its owner and by the state and writable events of the transports it is
bound to.  A DTLS transport is an identity here; what its queries answer and how its key
export ends are inputs of each event.
-/

namespace PeerConnection.Srtp

open PeerConnection.Text
open PeerConnection.Runs

/-- `rtc::SSLRole`. -/
inductive SslRole where
  | client
  | server
  deriving DecidableEq, Repr

/-- The answers of a DTLS transport to questions about its state. -/
structure DtlsStatus where
  isDtlsActive : Bool := false
  dtlsState : DtlsTransportState := .new
  deriving DecidableEq, Repr

/-- The answers of a DTLS transport while its keys are extracted. -/
structure KeyExport where
  /-- `GetSrtpCryptoSuite`. -/
  srtpCryptoSuite : Option ℤ := none
  /-- `ExportKeyingMaterial`, for a buffer of the given size. -/
  exportKeyingMaterial : ℕ → Option Bytes := fun _ => none
  /-- `GetDtlsRole`. -/
  dtlsRole : Option SslRole := none

/-- What comes from outside while the keys of one pair of sessions are set up. -/
structure SetupInputs (T : Type*) where
  keyExport : T → KeyExport := fun _ => {}
  results : PairResults := {}

/-- What comes from outside during an event. -/
structure DtlsInputs (T : Type*) where
  writable : T → Bool := fun _ => false
  status : T → DtlsStatus := fun _ => {}
  rtp : SetupInputs T := {}
  rtcp : SetupInputs T := {}

/-- `RTC_CHECK` has failed. -/
inductive SrtpAbort where
  | rtcpTransportAfterActivation
  deriving DecidableEq, Repr

structure DtlsSrtpTransport (T : Type*) extends SrtpTransport T where
  rtpDtlsTransport : Option T := none
  rtcpDtlsTransport : Option T := none
  sendExtensionIds : Option (List ℤ) := none
  recvExtensionIds : Option (List ℤ) := none
  activeResetSrtpParams : Bool := false
  deriving DecidableEq, Repr

/-! ## Key extraction -/

structure ExtractedKeys where
  cipherSuite : ℤ
  sendKey : Bytes
  recvKey : Bytes
  deriving DecidableEq, Repr

def slice (buffer : Bytes) (offset length : ℕ) : Bytes :=
  (buffer.drop offset).take length

/-- The write keys of client and server, in the layout of RFC 5764. -/
def writeKeys (keyLen saltLen : ℕ) (buffer : Bytes) : Bytes × Bytes :=
  (slice buffer 0 keyLen ++ slice buffer (2 * keyLen) saltLen,
    slice buffer keyLen keyLen ++ slice buffer (2 * keyLen + saltLen) saltLen)

/-- The part of `ExtractParams` after the checks of the transport. -/
def exportKeys (api : SrtpApi) (keyExport : KeyExport) : Option ExtractedKeys := do
  let suite ← keyExport.srtpCryptoSuite
  let (keyLen, saltLen) ← api.getSrtpKeyAndSaltLengths suite
  let buffer ← keyExport.exportKeyingMaterial (keyLen * 2 + saltLen * 2)
  let (clientWriteKey, serverWriteKey) := writeKeys keyLen saltLen buffer
  match ← keyExport.dtlsRole with
  | .server => return ⟨suite, serverWriteKey, clientWriteKey⟩
  | .client => return ⟨suite, clientWriteKey, serverWriteKey⟩

/-- The result also names the transport that the keys have come from. -/
def extractParams {T : Type*} (api : SrtpApi) (status : T → DtlsStatus)
    (keyExport : T → KeyExport) (dtlsTransport : Option T) : Option (T × ExtractedKeys) :=
  dtlsTransport.bind fun transport =>
    if (status transport).isDtlsActive then
      (exportKeys api (keyExport transport)).map fun keys => (transport, keys)
    else none

namespace DtlsSrtpTransport

variable {T : Type*}

def create (rtcpMuxEnabled : Bool) : DtlsSrtpTransport T :=
  { rtcpMuxEnabled := rtcpMuxEnabled }

def observe (transport : DtlsSrtpTransport T) (observation : Observation T) :
    DtlsSrtpTransport T :=
  { transport with toSrtpTransport := transport.toSrtpTransport.observe observation }

/-- The override; keys cannot be set from outside. -/
def setSrtpSendKey (transport : DtlsSrtpTransport T) (_params : CryptoParams) :
    DtlsSrtpTransport T × Except RtcError Unit :=
  (transport, .error { type := .unsupportedOperation,
                       message := "Set SRTP keys for DTLS-SRTP is not supported." })

def setSrtpReceiveKey (transport : DtlsSrtpTransport T) (_params : CryptoParams) :
    DtlsSrtpTransport T × Except RtcError Unit :=
  (transport, .error { type := .unsupportedOperation,
                       message := "Set SRTP keys for DTLS-SRTP is not supported." })

def resetParams (writable : T → Bool) (transport : DtlsSrtpTransport T) :
    DtlsSrtpTransport T :=
  { transport with toSrtpTransport := transport.toSrtpTransport.resetParams writable }

/-! ## The state of the DTLS transports -/

/-- The RTCP transport as the questions below see it: with rtcp-mux there is none. -/
def unmuxedRtcpTransport (transport : DtlsSrtpTransport T) : Option T :=
  if transport.rtcpMuxEnabled then none else transport.rtcpDtlsTransport

/-- The RTP transport is there and, as the RTCP transport where there is one, passes. -/
def bothPass (transport : DtlsSrtpTransport T) (check : T → Bool) : Bool :=
  transport.rtpDtlsTransport.any check && transport.unmuxedRtcpTransport.all check

def isDtlsActive (status : T → DtlsStatus) (transport : DtlsSrtpTransport T) : Bool :=
  transport.bothPass fun each => (status each).isDtlsActive

def isDtlsConnected (status : T → DtlsStatus) (transport : DtlsSrtpTransport T) : Bool :=
  transport.bothPass fun each => (status each).dtlsState = .connected

def isDtlsWritable (writable : T → Bool) (transport : DtlsSrtpTransport T) : Bool :=
  transport.bothPass writable

def dtlsHandshakeCompleted (status : T → DtlsStatus) (transport : DtlsSrtpTransport T) :
    Bool :=
  transport.isDtlsActive status && transport.isDtlsConnected status

/-! ## Key installation -/

/-- Extracted keys with the header extension ids of the transport. -/
def sendParams (transport : DtlsSrtpTransport T) (keys : ExtractedKeys) : SessionParams :=
  { cipherSuite := keys.cipherSuite
    key := keys.sendKey
    extensionIds := transport.sendExtensionIds.getD [] }

def recvParams (transport : DtlsSrtpTransport T) (keys : ExtractedKeys) : SessionParams :=
  { cipherSuite := keys.cipherSuite
    key := keys.recvKey
    extensionIds := transport.recvExtensionIds.getD [] }

section Setup

variable (api : SrtpApi) (inputs : DtlsInputs T)

/-- Failures are only logged. -/
def setupRtpDtlsSrtp (transport : DtlsSrtpTransport T) : DtlsSrtpTransport T :=
  match extractParams api inputs.status inputs.rtp.keyExport transport.rtpDtlsTransport with
  | none => transport
  | some (source, keys) =>
      let send := transport.sendParams keys
      let recv := transport.recvParams keys
      { transport with
        toSrtpTransport :=
          ((transport.toSrtpTransport.observe (.extracted source send recv)).setRtpParams
            inputs.writable api inputs.rtp.results send recv).1 }

def setupRtcpDtlsSrtp (transport : DtlsSrtpTransport T) : DtlsSrtpTransport T :=
  -- active is what `SetupRtpDtlsSrtp` has just made it, unless that has failed
  if transport.isSrtpActive then transport
  else
    match extractParams api inputs.status inputs.rtcp.keyExport
        transport.rtcpDtlsTransport with
    | none => transport
    | some (source, keys) =>
        let send := transport.sendParams keys
        let recv := transport.recvParams keys
        { transport with
          toSrtpTransport :=
            ((transport.toSrtpTransport.observe (.extracted source send recv)).setRtcpParams
              inputs.writable api inputs.rtcp.results send recv).1 }

def maybeSetupDtlsSrtp (transport : DtlsSrtpTransport T) : DtlsSrtpTransport T :=
  if transport.isSrtpActive || !transport.isDtlsWritable inputs.writable then transport
  else
    let withRtp := transport.setupRtpDtlsSrtp api inputs
    if !withRtp.rtcpMuxEnabled && withRtp.rtcpDtlsTransport.isSome then
      withRtp.setupRtcpDtlsSrtp api inputs
    else withRtp

end Setup

/-! ## Calls and events -/

/-- `SetDtlsTransport`, as far as the subscriptions go. -/
def resubscribe [DecidableEq T] (transport : DtlsSrtpTransport T)
    (oldDtlsTransport newDtlsTransport : Option T) : DtlsSrtpTransport T :=
  if oldDtlsTransport = newDtlsTransport then transport
  else
    { transport with
      trace := transport.trace ++
        (oldDtlsTransport.toList.map .unsubscribeDtlsTransportState ++
          newDtlsTransport.toList.map .subscribeDtlsTransportState) }

/-- `SetRtcpDtlsTransport` and `SetRtcpPacketTransport`. -/
def bindRtcp [DecidableEq T] (writable : T → Bool) (transport : DtlsSrtpTransport T)
    (rtcpDtlsTransport : Option T) : DtlsSrtpTransport T :=
  let subscribed := { transport.resubscribe transport.rtcpDtlsTransport rtcpDtlsTransport with
    rtcpDtlsTransport := rtcpDtlsTransport }
  { subscribed with
    toRtpTransport :=
      subscribed.toRtpTransport.setRtcpPacketTransport writable rtcpDtlsTransport }

/-- `SetRtpDtlsTransport` and `SetRtpPacketTransport`. -/
def bindRtp [DecidableEq T] (writable : T → Bool) (transport : DtlsSrtpTransport T)
    (rtpDtlsTransport : Option T) : DtlsSrtpTransport T :=
  let subscribed := { transport.resubscribe transport.rtpDtlsTransport rtpDtlsTransport with
    rtpDtlsTransport := rtpDtlsTransport }
  { subscribed with
    toRtpTransport :=
      subscribed.toRtpTransport.setRtpPacketTransport writable rtpDtlsTransport }

section Events

variable (api : SrtpApi) (inputs : DtlsInputs T)

/-- The RTP transport changes, or its owner wants a reset: the parameters of an active
transport go. -/
def resetForNewTransports [DecidableEq T] (transport : DtlsSrtpTransport T)
    (rtpDtlsTransport : Option T) : DtlsSrtpTransport T :=
  if transport.isSrtpActive && (rtpDtlsTransport ≠ transport.rtpDtlsTransport ||
      transport.activeResetSrtpParams) then
    transport.resetParams inputs.writable
  else transport

def setDtlsTransports [DecidableEq T] (transport : DtlsSrtpTransport T)
    (rtpDtlsTransport rtcpDtlsTransport : Option T) :
    Except SrtpAbort (DtlsSrtpTransport T) :=
  let reset := transport.resetForNewTransports inputs rtpDtlsTransport
  if rtcpDtlsTransport.isSome && rtcpDtlsTransport ≠ reset.rtcpDtlsTransport &&
      reset.isSrtpActive then
    .error .rtcpTransportAfterActivation
  else
    .ok <| maybeSetupDtlsSrtp api inputs <|
      (reset.bindRtcp inputs.writable rtcpDtlsTransport).bindRtp inputs.writable
        rtpDtlsTransport

def setRtcpMuxEnabled (transport : DtlsSrtpTransport T) (enable : Bool) :
    DtlsSrtpTransport T :=
  let switched := { transport with
    toRtpTransport := transport.toRtpTransport.setRtcpMuxEnabled enable }
  if enable then switched.maybeSetupDtlsSrtp api inputs else switched

def updateSendEncryptedHeaderExtensionIds (transport : DtlsSrtpTransport T)
    (extensionIds : List ℤ) : DtlsSrtpTransport T :=
  if transport.sendExtensionIds = some extensionIds then transport
  else
    let updated := { transport with sendExtensionIds := some extensionIds }
    if updated.dtlsHandshakeCompleted inputs.status then updated.setupRtpDtlsSrtp api inputs
    else updated

def updateRecvEncryptedHeaderExtensionIds (transport : DtlsSrtpTransport T)
    (extensionIds : List ℤ) : DtlsSrtpTransport T :=
  if transport.recvExtensionIds = some extensionIds then transport
  else
    let updated := { transport with recvExtensionIds := some extensionIds }
    if updated.dtlsHandshakeCompleted inputs.status then updated.setupRtpDtlsSrtp api inputs
    else updated

/-- The callback of the owner has no effect here. -/
def onDtlsState (transport : DtlsSrtpTransport T) (dtlsTransport : T)
    (state : DtlsTransportState) : DtlsSrtpTransport T :=
  let told := transport.observe (.dtlsState dtlsTransport state)
  if state ≠ .connected then told.resetParams inputs.writable
  else told.maybeSetupDtlsSrtp api inputs

/-- The override of `SrtpTransport::OnWritableState`. -/
def onWritableState (transport : DtlsSrtpTransport T) : DtlsSrtpTransport T :=
  transport.maybeSetupDtlsSrtp api inputs

def setActiveResetSrtpParams (transport : DtlsSrtpTransport T)
    (activeResetSrtpParams : Bool) : DtlsSrtpTransport T :=
  { transport with activeResetSrtpParams := activeResetSrtpParams }

end Events

end DtlsSrtpTransport

/-- What can happen to a DTLS-SRTP transport. -/
inductive DtlsSrtpEvent (T : Type*) where
  | setDtlsTransports (rtpDtlsTransport rtcpDtlsTransport : Option T)
  | setActiveResetSrtpParams (activeResetSrtpParams : Bool)
  | setRtcpMuxEnabled (enable : Bool)
  | updateSendEncryptedHeaderExtensionIds (extensionIds : List ℤ)
  | updateRecvEncryptedHeaderExtensionIds (extensionIds : List ℤ)
  | onDtlsState (dtlsTransport : T) (state : DtlsTransportState)
  | onWritableState (packetTransport : T)
  deriving DecidableEq, Repr

namespace DtlsSrtpTransport

variable {T : Type*} [DecidableEq T] (api : SrtpApi)

def handle (inputs : DtlsInputs T) (transport : DtlsSrtpTransport T) :
    DtlsSrtpEvent T → Except SrtpAbort (DtlsSrtpTransport T)
  | .setDtlsTransports rtpDtlsTransport rtcpDtlsTransport =>
      transport.setDtlsTransports api inputs rtpDtlsTransport rtcpDtlsTransport
  | .setActiveResetSrtpParams activeResetSrtpParams =>
      .ok (transport.setActiveResetSrtpParams activeResetSrtpParams)
  | .setRtcpMuxEnabled enable => .ok (transport.setRtcpMuxEnabled api inputs enable)
  | .updateSendEncryptedHeaderExtensionIds extensionIds =>
      .ok (transport.updateSendEncryptedHeaderExtensionIds api inputs extensionIds)
  | .updateRecvEncryptedHeaderExtensionIds extensionIds =>
      .ok (transport.updateRecvEncryptedHeaderExtensionIds api inputs extensionIds)
  | .onDtlsState dtlsTransport state =>
      .ok (transport.onDtlsState api inputs dtlsTransport state)
  | .onWritableState _ => .ok (transport.onWritableState api inputs)

/-- Events in any order, with any answers from outside. -/
def step : System (DtlsSrtpTransport T) (DtlsInputs T × DtlsSrtpEvent T) SrtpAbort :=
  fun transport event => some (transport.handle api event.1 event.2)

end DtlsSrtpTransport

end PeerConnection.Srtp
