import PeerConnection.Srtp.Writability

/-!
# Retries of `SetRtcpParams`

`SetRtcpParams` refuses when there is an RTCP session, and puts each of the two sessions in
place before it is keyed.  What a failure leaves there takes the RTCP packets from then on
and stands in the way of the next call.
-/

namespace PeerConnection.Srtp

open PeerConnection.Runs

namespace SrtpTransport

variable {T : Type*}

def hasRtcpSession (transport : SrtpTransport T) : Bool :=
  transport.sendRtcpSession.isSome || transport.recvRtcpSession.isSome

/-- libsrtp starts where it has to, knows both suites, and agrees to both keys. -/
def acceptsRtcpParams (api : SrtpApi) (results : PairResults) (send recv : SessionParams) :
    Bool :=
  (results.send.init && (api.takes send && results.send.apply)) &&
    (results.recv.init && (api.takes recv && results.recv.apply))

/-- RTCP packets are protected as before, and parameters that could be set still can. -/
structure Retryable (api : SrtpApi) (before after : SrtpTransport T) : Prop where
  sendRtcpSession : after.sendRtcpSession = before.sendRtcpSession
  recvRtcpSession : after.recvRtcpSession = before.recvRtcpSession
  protectRtcp : ∀ sessionProtectRtcp packet,
    after.protectRtcp sessionProtectRtcp packet = before.protectRtcp sessionProtectRtcp packet
  unprotectRtcp : ∀ sessionUnprotectRtcp packet,
    after.unprotectRtcp sessionUnprotectRtcp packet =
      before.unprotectRtcp sessionUnprotectRtcp packet
  retry : ∀ writable results send recv,
    (before.setRtcpParams writable api results send recv).2 = true →
      (after.setRtcpParams writable api results send recv).2 = true

theorem Retryable.refl (api : SrtpApi) (transport : SrtpTransport T) :
    Retryable api transport transport :=
  ⟨rfl, rfl, fun _ _ => rfl, fun _ _ => rfl, fun _ _ _ _ haccepted => haccepted⟩

section Calls

variable {api : SrtpApi} {writable : T → Bool} {results : PairResults}
  {transport : SrtpTransport T} {send recv : SessionParams}

theorem setRtcpParams_of_hasRtcpSession (hsession : transport.hasRtcpSession = true) :
    transport.setRtcpParams writable api results send recv = (transport, false) := by
  rw [setRtcpParams, ← hasRtcpSession, if_pos hsession]

/-- Without an RTCP session the call succeeds when both new sessions can be keyed. -/
theorem setRtcpParams_snd (hnew : transport.hasRtcpSession = false) :
    (transport.setRtcpParams writable api results send recv).2 =
      acceptsRtcpParams api results send recv := by
  have hsend : (SrtpSession.setSend api results.send {} send).2 =
      (results.send.init && (api.takes send && results.send.apply)) :=
    SrtpSession.setKey_snd rfl
  have hrecv : (SrtpSession.setRecv api results.recv {} recv).2 =
      (results.recv.init && (api.takes recv && results.recv.apply)) :=
    SrtpSession.setKey_snd rfl
  rw [setRtcpParams, ← hasRtcpSession, hnew, acceptsRtcpParams, ← hsend, ← hrecv]
  cases hsendRet : (SrtpSession.setSend api results.send {} send).2 with
  | false => simp [hsendRet]
  | true =>
      cases hrecvRet : (SrtpSession.setRecv api results.recv {} recv).2 with
      | false => simp [hsendRet, hrecvRet]
      | true => simp [hsendRet, hrecvRet]

/-- A call that has got past the guard leaves a session for sending. -/
theorem sendRtcpSession_setRtcpParams (hnew : transport.hasRtcpSession = false) :
    (transport.setRtcpParams writable api results send recv).1.sendRtcpSession.isSome := by
  rw [setRtcpParams, ← hasRtcpSession, hnew, if_neg Bool.false_ne_true]
  simp only
  split
  · rfl
  split
  · rfl
  · rw [sendRtcpSession_maybeUpdateWritableState]
    rfl

/-- A failure leaves things as they were exactly when the guard has refused the call. -/
theorem retryable_setRtcpParams_iff :
    ((transport.setRtcpParams writable api results send recv).2 = false →
      Retryable api transport (transport.setRtcpParams writable api results send recv).1) ↔
    transport.hasRtcpSession = true ∨ acceptsRtcpParams api results send recv = true := by
  cases hsession : transport.hasRtcpSession with
  | true =>
      rw [setRtcpParams_of_hasRtcpSession hsession]
      exact iff_of_true (fun _ => Retryable.refl api transport) (Or.inl rfl)
  | false =>
      rw [setRtcpParams_snd hsession]
      cases haccepts : acceptsRtcpParams api results send recv with
      | true => simp
      | false =>
          refine iff_of_false (fun hretryable => ?_) (by simp)
          have hleft := @sendRtcpSession_setRtcpParams T api writable results transport send recv
            hsession
          rw [(hretryable rfl).sendRtcpSession] at hleft
          rw [hasRtcpSession, hleft] at hsession
          exact absurd hsession (by simp)

end Calls

/-! ## Runs -/

/-- A failing `SetRtcpParams` can be retried. -/
def RetryableCall (api : SrtpApi) (world : World (SrtpTransport T) T) :
    WorldEvent (SrtpCall T) T → Prop
  | .call (.setRtcpParams results send recv) =>
      (world.transport.setRtcpParams world.writable api results send recv).2 = false →
        Retryable api world.transport
          (world.transport.setRtcpParams world.writable api results send recv).1
  | _ => True

/-- `SetRtcpParams` finds an RTCP session, or brings what both new sessions can be keyed with. -/
def RefusedOrAccepted (api : SrtpApi) (world : World (SrtpTransport T) T) :
    WorldEvent (SrtpCall T) T → Prop
  | .call (.setRtcpParams results send recv) =>
      world.transport.hasRtcpSession = true ∨ acceptsRtcpParams api results send recv = true
  | _ => True

/-- In every state, and so in every state of a run, the failures that can be retried are those
of the guard. -/
theorem setRtcpParams_retryable_iff [DecidableEq T] (api : SrtpApi) :
    (∀ (writable : T → Bool) (results : PairResults) (transport : SrtpTransport T)
        (send recv : SessionParams),
      ((transport.setRtcpParams writable api results send recv).2 = false →
        Retryable api transport (transport.setRtcpParams writable api results send recv).1) ↔
      transport.hasRtcpSession = true ∨ acceptsRtcpParams api results send recv = true) ∧
    ∀ (world : World (SrtpTransport T) T) (events : List (WorldEvent (SrtpCall T) T)),
      Guarded (worldStep api) (RetryableCall api) world events ↔
        Guarded (worldStep api) (RefusedOrAccepted api) world events := by
  refine ⟨fun _ _ _ _ _ => retryable_setRtcpParams_iff, fun world events => ?_⟩
  refine guarded_congr (fun world event => ?_) world events
  cases event with
  | writableChanged packetTransport now => exact Iff.rfl
  | call call =>
      cases call with
      | setRtcpParams results send recv => exact retryable_setRtcpParams_iff
      | _ => exact Iff.rfl

def validParams : SessionParams where
  cipherSuite := 1
  key := List.replicate 30 7

def shortKey : SessionParams where
  cipherSuite := 1
  key := List.replicate 29 7

/-- A new transport after one `SetRtpParams`. -/
def keyedTransport : SrtpTransport ℕ :=
  (setRtpParams (fun _ => true) registeredSrtpApi {} { rtcpMuxEnabled := false }
    validParams validParams).1

/-- The key for receiving is too short.  Afterwards RTCP packets that are received meet a
session without a key, and parameters that would have been set at first are refused. -/
theorem setRtcpParams_not_retryable :
    let failed := keyedTransport.setRtcpParams (fun _ => true) registeredSrtpApi {}
      validParams shortKey
    failed.2 = false ∧
      failed.1.sendRtcpSession ≠ keyedTransport.sendRtcpSession ∧
      failed.1.recvRtcpSession ≠ keyedTransport.recvRtcpSession ∧
      keyedTransport.rtcpRecvSession.bind SrtpSession.keying = some validParams ∧
      failed.1.rtcpRecvSession.bind SrtpSession.keying = none ∧
      (keyedTransport.setRtcpParams (fun _ => true) registeredSrtpApi {}
        validParams validParams).2 = true ∧
      (failed.1.setRtcpParams (fun _ => true) registeredSrtpApi {}
        validParams validParams).2 = false := by
  decide

end SrtpTransport

end PeerConnection.Srtp
