import PeerConnection.Srtp.Session

/-!
# The RTP transport

`RtpTransport` is bound to a packet transport for RTP and, without rtcp-mux, to one
for RTCP.  A packet transport is an identity here; whether it is writable is asked
from the outside.  The signals that are fired and the calls that leave the class, also
those of the classes derived from it, are kept in the order in which they happen.
-/

namespace PeerConnection.Srtp

/-- `libice::DtlsTransportState`. -/
inductive DtlsTransportState where
  | new
  | connecting
  | connected
  | closed
  | failed
  deriving DecidableEq, Repr

inductive Observation (T : Type*) where
  /-- `SignalWritableState`. -/
  | writableState (writable : Bool)
  /-- `SignalReadyToSend`. -/
  | readyToSend (ready : Bool)
  /-- `SetRtcpMuxEnabled` has been called. -/
  | rtcpMuxEnabled (enable : Bool)
  | subscribeDtlsTransportState (transport : T)
  | unsubscribeDtlsTransportState (transport : T)
  /-- `OnDtlsState` has been called. -/
  | dtlsState (transport : T) (state : DtlsTransportState)
  /-- `ExtractParams` has taken these keys from the transport. -/
  | extracted (transport : T) (send recv : SessionParams)
  /-- `SetRtpParams` has keyed both sessions. -/
  | rtpParams (newSessions : Bool) (send recv : SessionParams)
  /-- `SetRtcpParams` has keyed both sessions. -/
  | rtcpParams (send recv : SessionParams)
  deriving DecidableEq, Repr

structure RtpTransport (T : Type*) where
  rtcpMuxEnabled : Bool
  rtpPacketTransport : Option T := none
  rtcpPacketTransport : Option T := none
  readyToSend : Bool := false
  rtpReadyToSend : Bool := false
  rtcpReadyToSend : Bool := false
  trace : List (Observation T) := []
  deriving DecidableEq, Repr

namespace RtpTransport

variable {T : Type*}

def observe (transport : RtpTransport T) (observation : Observation T) : RtpTransport T :=
  { transport with trace := transport.trace ++ [observation] }

def maybeSignalReadyToSend (transport : RtpTransport T) : RtpTransport T :=
  let ready := transport.rtpReadyToSend &&
    (transport.rtcpReadyToSend || transport.rtcpMuxEnabled)
  if ready ≠ transport.readyToSend then
    { transport with readyToSend := ready }.observe (.readyToSend ready)
  else transport

def setReadyToSend (transport : RtpTransport T) (rtcp ready : Bool) : RtpTransport T :=
  maybeSignalReadyToSend <|
    if rtcp then { transport with rtcpReadyToSend := ready }
    else { transport with rtpReadyToSend := ready }

def setRtcpMuxEnabled (transport : RtpTransport T) (enable : Bool) : RtpTransport T :=
  maybeSignalReadyToSend
    ({ transport with rtcpMuxEnabled := enable }.observe (.rtcpMuxEnabled enable))

/-- Whether a pointer to a packet transport is set and the transport is writable. -/
def pointsToWritable (writable : T → Bool) (packetTransport : Option T) : Bool :=
  packetTransport.any writable

section Binding

variable [DecidableEq T]

def setRtpPacketTransport (writable : T → Bool) (transport : RtpTransport T)
    (newPacketTransport : Option T) : RtpTransport T :=
  if newPacketTransport = transport.rtpPacketTransport then transport
  else
    { transport with rtpPacketTransport := newPacketTransport }.setReadyToSend false
      (pointsToWritable writable newPacketTransport)

def setRtcpPacketTransport (writable : T → Bool) (transport : RtpTransport T)
    (newPacketTransport : Option T) : RtpTransport T :=
  if newPacketTransport = transport.rtcpPacketTransport then transport
  else
    { transport with rtcpPacketTransport := newPacketTransport }.setReadyToSend true
      (pointsToWritable writable newPacketTransport)

end Binding

def isWritable (writable : T → Bool) (transport : RtpTransport T) (rtcp : Bool) : Bool :=
  pointsToWritable writable <|
    if rtcp && !transport.rtcpMuxEnabled then transport.rtcpPacketTransport
    else transport.rtpPacketTransport

/-- Both directions of the packet transports can be written to. -/
def bothWritable (writable : T → Bool) (transport : RtpTransport T) : Bool :=
  transport.isWritable writable false && transport.isWritable writable true

def isTransportWritable (writable : T → Bool) (transport : RtpTransport T) : Bool :=
  let rtcpPacketTransport :=
    if transport.rtcpMuxEnabled then none else transport.rtcpPacketTransport
  pointsToWritable writable transport.rtpPacketTransport && rtcpPacketTransport.all writable

def onWritableState (writable : T → Bool) (transport : RtpTransport T) : RtpTransport T :=
  transport.observe (.writableState (transport.isTransportWritable writable))

def onReadyToSend [DecidableEq T] (transport : RtpTransport T) (packetTransport : T) :
    RtpTransport T :=
  transport.setReadyToSend (some packetTransport = transport.rtcpPacketTransport) true

/-! ## What the operations leave as it was -/

/-- The two transports differ at most in the ready-to-send flags and their signals. -/
structure SameBinding (before after : RtpTransport T) : Prop where
  rtcpMuxEnabled : after.rtcpMuxEnabled = before.rtcpMuxEnabled
  rtpPacketTransport : after.rtpPacketTransport = before.rtpPacketTransport
  rtcpPacketTransport : after.rtcpPacketTransport = before.rtcpPacketTransport
  trace : ∃ signals : List Bool, after.trace = before.trace ++ signals.map .readyToSend

theorem SameBinding.refl (transport : RtpTransport T) : SameBinding transport transport :=
  ⟨rfl, rfl, rfl, [], by simp⟩

theorem SameBinding.isWritable {before after : RtpTransport T}
    (hsame : SameBinding before after) (writable : T → Bool) (rtcp : Bool) :
    after.isWritable writable rtcp = before.isWritable writable rtcp := by
  simp only [RtpTransport.isWritable, hsame.rtcpMuxEnabled, hsame.rtpPacketTransport,
    hsame.rtcpPacketTransport]

theorem SameBinding.bothWritable {before after : RtpTransport T}
    (hsame : SameBinding before after) (writable : T → Bool) :
    after.bothWritable writable = before.bothWritable writable := by
  simp only [RtpTransport.bothWritable, hsame.isWritable]

theorem maybeSignalReadyToSend_same (transport : RtpTransport T) :
    SameBinding transport transport.maybeSignalReadyToSend := by
  by_cases hready : (transport.rtpReadyToSend &&
      (transport.rtcpReadyToSend || transport.rtcpMuxEnabled)) ≠ transport.readyToSend
  · simp only [maybeSignalReadyToSend, if_pos hready]
    exact ⟨rfl, rfl, rfl, [_], rfl⟩
  · simp only [maybeSignalReadyToSend, if_neg hready]
    exact SameBinding.refl transport

theorem setReadyToSend_same (transport : RtpTransport T) (rtcp ready : Bool) :
    SameBinding transport (transport.setReadyToSend rtcp ready) := by
  cases rtcp with
  | false =>
      obtain ⟨hmux, hrtp, hrtcp, htrace⟩ := maybeSignalReadyToSend_same
        { transport with rtpReadyToSend := ready }
      exact ⟨hmux, hrtp, hrtcp, htrace⟩
  | true =>
      obtain ⟨hmux, hrtp, hrtcp, htrace⟩ := maybeSignalReadyToSend_same
        { transport with rtcpReadyToSend := ready }
      exact ⟨hmux, hrtp, hrtcp, htrace⟩

theorem setRtcpMuxEnabled_same (transport : RtpTransport T) (enable : Bool) :
    SameBinding
      ({ transport with rtcpMuxEnabled := enable }.observe (.rtcpMuxEnabled enable))
      (transport.setRtcpMuxEnabled enable) :=
  maybeSignalReadyToSend_same _

section Binding

variable [DecidableEq T] (writable : T → Bool) (transport : RtpTransport T)
  (newPacketTransport : Option T)

theorem setRtpPacketTransport_same :
    SameBinding { transport with rtpPacketTransport := newPacketTransport }
      (transport.setRtpPacketTransport writable newPacketTransport) := by
  unfold setRtpPacketTransport
  split
  case isTrue hsame =>
    subst hsame
    exact SameBinding.refl transport
  case isFalse => exact setReadyToSend_same _ _ _

theorem setRtcpPacketTransport_same :
    SameBinding { transport with rtcpPacketTransport := newPacketTransport }
      (transport.setRtcpPacketTransport writable newPacketTransport) := by
  unfold setRtcpPacketTransport
  split
  case isTrue hsame =>
    subst hsame
    exact SameBinding.refl transport
  case isFalse => exact setReadyToSend_same _ _ _

end Binding

end RtpTransport

end PeerConnection.Srtp
