import PeerConnection.Core.Runs
import PeerConnection.Srtp.RtpTransport

/-!
# The SCTP transport

`SctpTransport` wraps an internal SCTP transport and reports its state to an observer.  It
subscribes to the state of every DTLS transport that it is given and never unsubscribes.
The internal transport and the DTLS transports are outside: what they answer and when they
call back are inputs of the events.
-/

namespace PeerConnection.Transport

open PeerConnection.Runs
open PeerConnection.Srtp (DtlsTransportState)

inductive SctpTransportState where
  | new
  | connecting
  | connected
  | closed
  deriving DecidableEq, Repr

structure SctpTransportInformation (D : Type*) where
  state : SctpTransportState := .new
  dtlsTransport : Option D := none
  maxMessageSize : Option ℤ := none
  maxChannels : Option ℤ := none
  deriving DecidableEq, Repr

/-- `SctpTransportInternal`, with the DTLS transport that it was given last. -/
structure SctpTransportInternal (I : Type*) where
  dtlsTransport : Option I := none
  deriving DecidableEq, Repr

/-- What ends an event before it returns. -/
inductive SctpFault where
  /-- `internal()->Start` without an internal transport. -/
  | nullInternal
  /-- `dtls_transport_->internal()` without a DTLS transport. -/
  | nullDtlsTransport
  /-- `RTC_CHECK(transport == dtls_transport_->internal())`. -/
  | checkFailed
  deriving DecidableEq, Repr

/-- `D` are the DTLS transports, `I` the internal transports behind them, and `O` the
observers. -/
structure SctpTransport (D I O : Type*) where
  info : SctpTransportInformation D := {}
  internal : Option (SctpTransportInternal I) := some {}
  observer : Option O := none
  dtlsTransport : Option D := none
  /-- The DTLS transports that hold a callback, once for each callback. -/
  subscriptions : List I := []
  /-- The calls of `OnStateChange`. -/
  trace : List (O × SctpTransportInformation D) := []
  deriving DecidableEq, Repr

namespace SctpTransport

variable {D I O : Type*}

def updateInformation (transport : SctpTransport D I O) (state : SctpTransportState) :
    SctpTransport D I O :=
  let mustSendUpdate := state ≠ transport.info.state
  let info := { transport.info with state := state, dtlsTransport := transport.dtlsTransport }
  match transport.observer with
  | some observer =>
      { transport with
        info := info
        trace := if mustSendUpdate then transport.trace ++ [(observer, info)]
          else transport.trace }
  | none => { transport with info := info }

/-- The constructor; a new transport has no DTLS transport. -/
def create : SctpTransport D I O :=
  updateInformation {} .new

def registerObserver (transport : SctpTransport D I O) (observer : O) : SctpTransport D I O :=
  { transport with observer := some observer }

def unregisterObserver (transport : SctpTransport D I O) : SctpTransport D I O :=
  { transport with observer := none }

def clear (transport : SctpTransport D I O) : SctpTransport D I O :=
  updateInformation { transport with dtlsTransport := none, internal := none } .closed

/-- `internalOf` is `DtlsTransport::internal`; the pointer is null when it is `none`. -/
def setDtlsTransport (internalOf : D → I) (transport : SctpTransport D I O)
    (dtlsTransport : Option D) : SctpTransport D I O :=
  let state := transport.info.state
  match transport.internal, dtlsTransport with
  | some _, some dtls =>
      updateInformation
        { transport with
          dtlsTransport := some dtls
          internal := some { dtlsTransport := some (internalOf dtls) }
          subscriptions := transport.subscriptions ++ [internalOf dtls] }
        (if state = .new then .connecting else state)
  | some _, none =>
      updateInformation { transport with dtlsTransport := none, internal := some {} } state
  | none, _ => updateInformation { transport with dtlsTransport := dtlsTransport } state

/-- `pushDown` is `Start` of the internal transport. -/
def start (pushDown : ℤ → ℤ → ℤ → Bool) (transport : SctpTransport D I O)
    (localPort remotePort maxMessageSize : ℤ) : Except SctpFault (SctpTransport D I O) :=
  let sized :=
    { transport with info := { transport.info with maxMessageSize := some maxMessageSize } }
  match transport.internal with
  | none => .error .nullInternal
  | some _ =>
      if pushDown localPort remotePort maxMessageSize then .ok sized
      else .ok (sized.updateInformation .closed)

def onAssociationChangeCommunicationUp (transport : SctpTransport D I O)
    (maxOutboundStreams maxInboundStreams : Option ℤ) : SctpTransport D I O :=
  match maxOutboundStreams, maxInboundStreams with
  | some outbound, some inbound =>
      updateInformation
        { transport with
          info := { transport.info with maxChannels := some (min outbound inbound) } }
        .connected
  | _, _ => updateInformation transport .connected

def onDtlsStateChange [DecidableEq I] (internalOf : D → I) (transport : SctpTransport D I O)
    (dtls : I) (state : DtlsTransportState) : Except SctpFault (SctpTransport D I O) :=
  match transport.dtlsTransport with
  | none => .error .nullDtlsTransport
  | some current =>
      if dtls ≠ internalOf current then .error .checkFailed
      else if state = .closed ∨ state = .failed then .ok (transport.updateInformation .closed)
      else .ok transport

end SctpTransport

/-! ## Events -/

inductive SctpEvent (D I O : Type*) where
  | registerObserver (observer : O)
  | unregisterObserver
  | setDtlsTransport (dtlsTransport : Option D)
  | start (pushDown : ℤ → ℤ → ℤ → Bool) (localPort remotePort maxMessageSize : ℤ)
  | clear
  /-- `SignalAssociationChangeCommunicationUp` of the internal transport. -/
  | associationUp (maxOutboundStreams maxInboundStreams : Option ℤ)
  /-- A DTLS transport calls one of the callbacks that it holds. -/
  | dtlsState (dtls : I) (state : DtlsTransportState)

variable {D I O : Type*} [DecidableEq I]

/-- An internal transport that has been deleted signals nothing, and only subscriptions are
called back. -/
def sctpStep (internalOf : D → I) : System (SctpTransport D I O) (SctpEvent D I O) SctpFault :=
  fun transport event =>
    match event with
    | .registerObserver observer => some (.ok (transport.registerObserver observer))
    | .unregisterObserver => some (.ok transport.unregisterObserver)
    | .setDtlsTransport dtlsTransport =>
        some (.ok (transport.setDtlsTransport internalOf dtlsTransport))
    | .start pushDown localPort remotePort maxMessageSize =>
        some (transport.start pushDown localPort remotePort maxMessageSize)
    | .clear => some (.ok transport.clear)
    | .associationUp maxOutboundStreams maxInboundStreams =>
        if transport.internal.isSome then
          some (.ok (transport.onAssociationChangeCommunicationUp maxOutboundStreams
            maxInboundStreams))
        else none
    | .dtlsState dtls state =>
        if dtls ∈ transport.subscriptions then
          some (transport.onDtlsStateChange internalOf dtls state)
        else none

end PeerConnection.Transport
