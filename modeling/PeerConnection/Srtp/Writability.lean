import PeerConnection.Srtp.KeyProvenance
import PeerConnection.Srtp.Sdes

/-!
# Signals of the writable state

`MaybeUpdateWritableState` signals a change with respect to the cached `writable_`.
`SrtpTransport::OnWritableState` signals what holds and leaves the cache as it is;
`DtlsSrtpTransport::OnWritableState` only tries to set up keys; the setters of the
packet transports and of rtcp-mux signal nothing.  The lemmas say for each event whether
the last signal is right after it, and the runs without a wrong signal follow.
-/

namespace PeerConnection.Srtp

open PeerConnection.Runs

/-! ## The last signal -/

section Signals

variable {T : Type*}

def lastWritableState (trace : List (Observation T)) : Bool :=
  trace.foldl (fun last observation =>
    match observation with
    | .writableState writable => writable
    | _ => last) false

theorem lastWritableState_append (trace extra : List (Observation T))
    (hextra : ∀ writable, .writableState writable ∉ extra) :
    lastWritableState (trace ++ extra) = lastWritableState trace := by
  rw [lastWritableState, List.foldl_append]
  change List.foldl _ (lastWritableState trace) extra = _
  generalize lastWritableState trace = last
  induction extra generalizing last with
  | nil => rfl
  | cons observation extra ih =>
      rw [List.foldl_cons, ih fun writable hmem => hextra writable (by simp [hmem])]
      cases observation with
      | writableState writable => exact absurd (List.mem_cons_self ..) (hextra writable)
      | _ => rfl

theorem lastWritableState_signal (trace : List (Observation T)) (writable : Bool) :
    lastWritableState (trace ++ [.writableState writable]) = writable := by
  simp [lastWritableState]

theorem lastWritableState_of_binding {before after : RtpTransport T}
    (hbinding : RtpTransport.SameBinding before after) :
    lastWritableState after.trace = lastWritableState before.trace := by
  obtain ⟨signals, htrace⟩ := hbinding.trace
  rw [htrace, lastWritableState_append _ _ (by simp)]

end Signals

namespace SrtpTransport

variable {T : Type*}

/-- What `SignalWritableState` tells of the two packet transports. -/
def isFullyWritable (writable : T → Bool) (transport : SrtpTransport T) : Bool :=
  transport.isWritable writable false && transport.isWritable writable true

/-- The value signalled last is right; without a signal, false. -/
def Signalled (writable : T → Bool) (transport : SrtpTransport T) : Prop :=
  lastWritableState transport.trace = transport.isFullyWritable writable

/-- Only `MaybeUpdateWritableState` has signalled. -/
def Cached (transport : SrtpTransport T) : Prop :=
  lastWritableState transport.trace = transport.writable

theorem isFullyWritable_eq (writable : T → Bool) (transport : SrtpTransport T) :
    transport.isFullyWritable writable =
      (transport.isSrtpActive && transport.bothWritable writable) := by
  simp only [isFullyWritable, isWritable, RtpTransport.bothWritable]
  cases transport.isSrtpActive <;> simp

theorem maybeUpdateWritableState_of_ne {writable : T → Bool} {transport : SrtpTransport T}
    (hchange : transport.writable ≠ transport.isFullyWritable writable) :
    transport.maybeUpdateWritableState writable =
      ({ transport with writable := transport.isFullyWritable writable }.observe
        (.writableState (transport.isFullyWritable writable))) := by
  rw [isFullyWritable, Bool.and_comm] at hchange ⊢
  simp only [maybeUpdateWritableState, if_pos hchange]

theorem maybeUpdateWritableState_of_eq {writable : T → Bool} {transport : SrtpTransport T}
    (hsame : transport.writable = transport.isFullyWritable writable) :
    transport.maybeUpdateWritableState writable = transport := by
  rw [isFullyWritable, Bool.and_comm] at hsame
  simp only [maybeUpdateWritableState, hsame, ne_eq, not_true, if_false]

/-- `MaybeUpdateWritableState` leaves a wrong signal only when the cache is up to date. -/
theorem signalled_maybeUpdate_iff (writable : T → Bool) (transport : SrtpTransport T) :
    (transport.maybeUpdateWritableState writable).Signalled writable ↔
      (transport.writable = transport.isFullyWritable writable →
        transport.Signalled writable) := by
  by_cases hsame : transport.writable = transport.isFullyWritable writable
  · rw [maybeUpdateWritableState_of_eq hsame]
    simp [hsame]
  · rw [maybeUpdateWritableState_of_ne hsame]
    refine iff_of_true ?_ fun hcached => absurd hcached hsame
    exact lastWritableState_signal _ _

theorem cached_maybeUpdate {writable : T → Bool} {transport : SrtpTransport T}
    (hcached : transport.Cached) : (transport.maybeUpdateWritableState writable).Cached := by
  by_cases hsame : transport.writable = transport.isFullyWritable writable
  · rw [maybeUpdateWritableState_of_eq hsame]
    exact hcached
  · rw [maybeUpdateWritableState_of_ne hsame]
    exact lastWritableState_signal _ _

theorem signalled_maybeUpdate_of_cached {writable : T → Bool} {transport : SrtpTransport T}
    (hcached : transport.Cached) :
    (transport.maybeUpdateWritableState writable).Signalled writable := by
  rw [signalled_maybeUpdate_iff]
  intro hsame
  exact hcached.trans hsame

/-- Without a signal and with the same keys, the packet transports of an active transport
have to stay as writable as they were. -/
theorem signalled_iff_of_same {writable : T → Bool} {before after : SrtpTransport T}
    (hbefore : before.Signalled writable) (hsessions : after.sessions = before.sessions)
    (hlast : lastWritableState after.trace = lastWritableState before.trace) :
    after.Signalled writable ↔
      (after.isSrtpActive = true →
        after.bothWritable writable = before.bothWritable writable) := by
  have hactive : after.isSrtpActive = before.isSrtpActive := by
    rw [isSrtpActive, isSrtpActive, hsessions]
  rw [Signalled, isFullyWritable_eq] at hbefore
  rw [Signalled, hlast, hbefore, isFullyWritable_eq, hactive]
  cases before.isSrtpActive
  · simp
  · simp [eq_comm]

theorem signalled_of_same {writable : T → Bool} {before after : SrtpTransport T}
    (hbefore : before.Signalled writable) (hsessions : after.sessions = before.sessions)
    (hlast : lastWritableState after.trace = lastWritableState before.trace)
    (hboth : after.bothWritable writable = before.bothWritable writable) :
    after.Signalled writable :=
  (signalled_iff_of_same hbefore hsessions hlast).mpr fun _ => hboth

end SrtpTransport

/-! ## Packet transports that become writable and cease to be -/

/-- A transport, and which packet transports can be written to. -/
structure World (σ T : Type*) where
  transport : σ
  writable : T → Bool

inductive WorldEvent (ε T : Type*) where
  /-- A packet transport fires its `SignalWritableState`. -/
  | writableChanged (packetTransport : T) (writable : Bool)
  | call (event : ε)

namespace RtpTransport

variable {T : Type*} [DecidableEq T]

/-- How often the handlers of the transport are connected to the signals of this packet
transport. -/
def connections (transport : RtpTransport T) (packetTransport : T) : ℕ :=
  [transport.rtpPacketTransport, transport.rtcpPacketTransport].count (some packetTransport)

theorem bothWritable_update_of_unconnected {writable : T → Bool} {transport : RtpTransport T}
    {packetTransport : T} (hunconnected : transport.connections packetTransport = 0)
    (now : Bool) :
    transport.bothWritable (Function.update writable packetTransport now) =
      transport.bothWritable writable := by
  have hpoints : ∀ slot ∈ [transport.rtpPacketTransport, transport.rtcpPacketTransport],
      pointsToWritable (Function.update writable packetTransport now) slot =
        pointsToWritable writable slot := by
    intro slot hslot
    cases slot with
    | none => rfl
    | some bound =>
        have hne : bound ≠ packetTransport := by
          rintro rfl
          exact List.count_eq_zero.mp hunconnected hslot
        simp [pointsToWritable, Function.update_of_ne hne]
  have hrtp := hpoints transport.rtpPacketTransport (by simp)
  have hrtcp := hpoints transport.rtcpPacketTransport (by simp)
  cases hmux : transport.rtcpMuxEnabled <;> simp [bothWritable, isWritable, hmux, hrtp, hrtcp]

end RtpTransport

/-! ## `SrtpTransport` -/

/-- What the owner of an SRTP transport calls. -/
inductive SrtpCall (T : Type*) where
  | setRtpPacketTransport (newPacketTransport : Option T)
  | setRtcpPacketTransport (newPacketTransport : Option T)
  | setRtcpMuxEnabled (enable : Bool)
  | setRtpParams (results : PairResults) (send recv : SessionParams)
  | setRtcpParams (results : PairResults) (send recv : SessionParams)
  /-- `SetSrtpSendKey` or `SetSrtpReceiveKey`. -/
  | setSrtpKey (direction : Direction) (inputs : SrtpTransport.SdesInputs)
      (params : CryptoParams)
  | resetParams

namespace SrtpTransport

variable {T : Type*} (api : SrtpApi)

section Calls

variable [DecidableEq T] (writable : T → Bool)

def handle (transport : SrtpTransport T) : SrtpCall T → SrtpTransport T
  | .setRtpPacketTransport newPacketTransport =>
      { transport with
        toRtpTransport :=
          transport.toRtpTransport.setRtpPacketTransport writable newPacketTransport }
  | .setRtcpPacketTransport newPacketTransport =>
      { transport with
        toRtpTransport :=
          transport.toRtpTransport.setRtcpPacketTransport writable newPacketTransport }
  | .setRtcpMuxEnabled enable =>
      { transport with toRtpTransport := transport.toRtpTransport.setRtcpMuxEnabled enable }
  | .setRtpParams results send recv =>
      (transport.setRtpParams writable api results send recv).1
  | .setRtcpParams results send recv =>
      (transport.setRtcpParams writable api results send recv).1
  | .setSrtpKey .send inputs params =>
      (transport.setSrtpSendKey api writable inputs params).1
  | .setSrtpKey .recv inputs params =>
      (transport.setSrtpReceiveKey api writable inputs params).1
  | .resetParams => transport.resetParams writable

end Calls

/-- Calls and writable events in any order. -/
def worldStep [DecidableEq T] :
    System (World (SrtpTransport T) T) (WorldEvent (SrtpCall T) T) Empty
  | world, .writableChanged packetTransport now =>
      let writable := Function.update world.writable packetTransport now
      let connections := world.transport.connections packetTransport
      some <| .ok
        { transport := (onWritableState writable)^[connections] world.transport
          writable := writable }
  | world, .call call =>
      some <| .ok
        { world with transport := world.transport.handle api world.writable call }

/-! ### When the last signal stays right -/

/-- The keys come or go while both packet transports are writable; then the cache has to
say what held before. -/
def SignalsKeyChange (writable : T → Bool) (transport : SrtpTransport T) (active : Bool) :
    Prop :=
  transport.bothWritable writable = true → transport.isSrtpActive ≠ active →
    transport.writable = transport.isSrtpActive

/-- The transport is not active, or the new binding is as writable as the old one. -/
def SignalsRebinding (writable : T → Bool) (transport : SrtpTransport T)
    (binding : RtpTransport T) : Prop :=
  transport.isSrtpActive = true →
    binding.bothWritable writable = transport.bothWritable writable

/-- The keys with which a call of the SDES methods goes on to `SetRtpParams`. -/
def sdesKeys (transport : SrtpTransport T) (direction : Direction) (params : CryptoParams) :
    Option (SessionParams × SessionParams) :=
  let other := transport.sdes direction.opposite
  if (transport.sdes direction).params.isSome ||
      other.params.any (·.cipherSuite ≠ params.cipherSuite) then none
  else
    (sessionParams api params).bind fun own =>
      other.cipherSuite.map fun suite =>
        direction.arrange own { cipherSuite := suite, key := other.key }

/-- The call does not change what holds without a signal. -/
def SignalsCall (writable : T → Bool) (transport : SrtpTransport T) :
    SrtpCall T → Prop
  | .setRtpPacketTransport newPacketTransport =>
      transport.SignalsRebinding writable
        { transport.toRtpTransport with rtpPacketTransport := newPacketTransport }
  | .setRtcpPacketTransport newPacketTransport =>
      transport.SignalsRebinding writable
        { transport.toRtpTransport with rtcpPacketTransport := newPacketTransport }
  | .setRtcpMuxEnabled enable =>
      transport.SignalsRebinding writable
        { transport.toRtpTransport with rtcpMuxEnabled := enable }
  | .setRtpParams results send recv =>
      transport.SignalsKeyChange writable (transport.acceptsRtpParams api results send recv)
  | .setRtcpParams _ _ _ => True
  | .setSrtpKey direction inputs params =>
      ∀ keys, transport.sdesKeys api direction params = some keys →
        transport.SignalsKeyChange writable
          (transport.acceptsRtpParams api inputs.results keys.1 keys.2)
  | .resetParams => transport.SignalsKeyChange writable false

def SignalsEvent (world : World (SrtpTransport T) T) :
    WorldEvent (SrtpCall T) T → Prop
  | .writableChanged _ _ => True
  | .call call => world.transport.SignalsCall api world.writable call

/-! ### One event -/

variable {api}

theorem signalled_onWritableState (writable : T → Bool) (transport : SrtpTransport T) :
    (transport.onWritableState writable).Signalled writable :=
  lastWritableState_signal _ _

theorem signalled_writableChanged [DecidableEq T] {writable : T → Bool}
    {transport : SrtpTransport T} (hsignalled : transport.Signalled writable)
    (packetTransport : T) (now : Bool) :
    ((onWritableState (Function.update writable packetTransport now))^[transport.connections
      packetTransport] transport).Signalled (Function.update writable packetTransport now) := by
  cases hconnections : transport.connections packetTransport with
  | zero =>
      rw [Function.iterate_zero_apply, Signalled, hsignalled, isFullyWritable_eq,
        isFullyWritable_eq, RtpTransport.bothWritable_update_of_unconnected hconnections]
  | succ connections =>
      rw [Function.iterate_succ_apply']
      exact signalled_onWritableState _ _

/-- New keys and dropped keys are signalled unless the cache has missed what held. -/
theorem signalled_keyChange_iff {writable : T → Bool} {before : SrtpTransport T}
    (after : SrtpTransport T) (hbefore : before.Signalled writable)
    (hcache : after.writable = before.writable)
    (hlast : lastWritableState after.trace = lastWritableState before.trace)
    (hboth : after.bothWritable writable = before.bothWritable writable) :
    (after.maybeUpdateWritableState writable).Signalled writable ↔
      before.SignalsKeyChange writable after.isSrtpActive := by
  rw [Signalled, isFullyWritable_eq] at hbefore
  rw [signalled_maybeUpdate_iff, Signalled, hcache, hlast, hbefore, isFullyWritable_eq, hboth,
    SignalsKeyChange]
  cases before.bothWritable writable
  · simp
  · cases before.isSrtpActive <;> cases after.isSrtpActive <;> simp

theorem signalled_resetParams_iff {writable : T → Bool} {transport : SrtpTransport T}
    (hsignalled : transport.Signalled writable) :
    (transport.resetParams writable).Signalled writable ↔
      transport.SignalsKeyChange writable false :=
  signalled_keyChange_iff
    { transport with
      sessions := none
      sendRtcpSession := none
      recvRtcpSession := none } hsignalled rfl rfl rfl

theorem signalled_setRtpParams_iff {writable : T → Bool} {transport : SrtpTransport T}
    (hkeyed : transport.Keyed) (hsignalled : transport.Signalled writable)
    (results : PairResults) (send recv : SessionParams) :
    (transport.setRtpParams writable api results send recv).1.Signalled writable ↔
      transport.SignalsKeyChange writable
        (transport.acceptsRtpParams api results send recv) := by
  rcases setRtpParams_cases api writable results send recv hkeyed with
    ⟨haccepts, pair, -, -, heq⟩ | ⟨hrefuses, heq⟩
  · rw [heq, haccepts]
    have hlast := lastWritableState_append transport.trace
      [.rtpParams (!transport.isSrtpActive) send recv] (by simp)
    exact signalled_keyChange_iff
      (observe { transport with sessions := some pair }
        (.rtpParams (!transport.isSrtpActive) send recv)) hsignalled rfl hlast rfl
  · rw [heq, hrefuses]
    exact signalled_resetParams_iff hsignalled

theorem signalled_setRtcpParams {writable : T → Bool} {transport : SrtpTransport T}
    (hsignalled : transport.Signalled writable) (results : PairResults)
    (send recv : SessionParams) :
    (transport.setRtcpParams writable api results send recv).1.Signalled writable := by
  simp only [setRtcpParams]
  split
  · exact hsignalled
  split
  · exact hsignalled
  split
  · exact hsignalled
  · rw [signalled_maybeUpdate_iff]
    intro _
    have hlast := lastWritableState_append transport.trace
      [.rtcpParams send recv] (by simp)
    exact signalled_of_same hsignalled rfl hlast rfl

theorem signalled_rebinding_iff {writable : T → Bool} {transport : SrtpTransport T}
    {assigned binding : RtpTransport T} (hsignalled : transport.Signalled writable)
    (hbinding : RtpTransport.SameBinding assigned binding)
    (hassigned : lastWritableState assigned.trace = lastWritableState transport.trace) :
    Signalled writable { transport with toRtpTransport := binding } ↔
      transport.SignalsRebinding writable assigned := by
  have hlast := (lastWritableState_of_binding hbinding).trans hassigned
  have hiff : Signalled writable { transport with toRtpTransport := binding } ↔
      (transport.isSrtpActive = true →
        binding.bothWritable writable = transport.bothWritable writable) :=
    signalled_iff_of_same hsignalled rfl hlast
  rw [hiff, SignalsRebinding, hbinding.bothWritable]

/-! ### The methods of SDES -/

/-- At most the SDES fields differ. -/
structure SameButSdes (before after : SrtpTransport T) : Prop where
  toRtpTransport : after.toRtpTransport = before.toRtpTransport
  sessions : after.sessions = before.sessions
  writable : after.writable = before.writable

theorem sameButSdes_setSdes (transport : SrtpTransport T) (direction : Direction)
    (fields : SdesFields) : SameButSdes transport (transport.setSdes direction fields) := by
  cases direction <;> exact ⟨rfl, rfl, rfl⟩

theorem SameButSdes.isSrtpActive {before after : SrtpTransport T}
    (hsame : SameButSdes before after) : after.isSrtpActive = before.isSrtpActive := by
  rw [SrtpTransport.isSrtpActive, SrtpTransport.isSrtpActive, hsame.sessions]

theorem SameButSdes.signalled_iff {before after : SrtpTransport T}
    (hsame : SameButSdes before after) (writable : T → Bool) :
    after.Signalled writable ↔ before.Signalled writable := by
  rw [Signalled, Signalled, isFullyWritable_eq, isFullyWritable_eq, hsame.isSrtpActive,
    hsame.toRtpTransport]

theorem SameButSdes.keyed {before after : SrtpTransport T} (hsame : SameButSdes before after)
    (hkeyed : before.Keyed) : after.Keyed := by
  intro pair hpair
  exact hkeyed pair (hsame.sessions ▸ hpair)

theorem SameButSdes.signalsKeyChange_iff {before after : SrtpTransport T}
    (hsame : SameButSdes before after) (writable : T → Bool) (active : Bool) :
    after.SignalsKeyChange writable active ↔ before.SignalsKeyChange writable active := by
  rw [SignalsKeyChange, SignalsKeyChange, hsame.isSrtpActive, hsame.writable,
    hsame.toRtpTransport]

theorem SameButSdes.acceptsRtpParams {before after : SrtpTransport T}
    (hsame : SameButSdes before after) (results : PairResults) (send recv : SessionParams) :
    after.acceptsRtpParams api results send recv =
      before.acceptsRtpParams api results send recv := by
  rw [SrtpTransport.acceptsRtpParams, SrtpTransport.acceptsRtpParams, hsame.isSrtpActive]

theorem sdesKeys_of_refused {transport : SrtpTransport T} {direction : Direction}
    {params : CryptoParams}
    (hrefused : (transport.sdes direction).params.isSome ∨
      ¬ AgreesWithOther transport direction params) :
    transport.sdesKeys api direction params = none := by
  rw [sdesKeys, if_pos]
  rw [Bool.or_eq_true]
  apply hrefused.imp_right
  intro hdiffers
  obtain ⟨other, hother, hne⟩ : ∃ other, (transport.sdes direction.opposite).params =
      some other ∧ other.cipherSuite ≠ params.cipherSuite := by
    simpa [AgreesWithOther] using hdiffers
  simp [hother, hne]

theorem sdesKeys_of_agrees {transport : SrtpTransport T} {direction : Direction}
    {params : CryptoParams} (hown : (transport.sdes direction).params = none)
    (hagrees : AgreesWithOther transport direction params) :
    transport.sdesKeys api direction params =
      (sessionParams api params).bind fun own =>
        (transport.sdes direction.opposite).cipherSuite.map fun suite =>
          direction.arrange own
            { cipherSuite := suite, key := (transport.sdes direction.opposite).key } := by
  have hsame : ¬ ((transport.sdes direction.opposite).params.any
      (·.cipherSuite ≠ params.cipherSuite)) = true := by
    cases hother : (transport.sdes direction.opposite).params with
    | none => simp
    | some other => simpa using hagrees other hother
  rw [sdesKeys, if_neg]
  rw [Bool.or_eq_true, hown]
  exact not_or.mpr ⟨by simp, hsame⟩

/-- What `MaybeSetKeyParams` comes to with these keys, if there are any. -/
def trySdesKeys (api : SrtpApi) (writable : T → Bool) (results : PairResults)
    (transport : SrtpTransport T) :
    Option (SessionParams × SessionParams) → SrtpTransport T × Bool
  | none => (transport, true)
  | some keys => transport.setRtpParams writable api results keys.1 keys.2

/-- `MaybeSetKeyParams` sets the keys that are complete now. -/
theorem maybeSetKeyParams_eq_sdesKeys (writable : T → Bool) (results : PairResults)
    {transport : SrtpTransport T} {direction : Direction} {params : CryptoParams}
    {own : SessionParams} (hown : (transport.sdes direction).params = none)
    (hagrees : AgreesWithOther transport direction params)
    (hkeys : sessionParams api params = some own) :
    (SdesCall.filled transport direction own).maybeSetKeyParams api writable results =
      (SdesCall.filled transport direction own).trySdesKeys api writable results
        (transport.sdesKeys api direction params) := by
  rw [sdesKeys_of_agrees hown hagrees, hkeys, Option.bind_some]
  cases hsuite : (transport.sdes direction.opposite).cipherSuite with
  | none =>
      apply maybeSetKeyParams_of_none direction
      simpa [SdesCall.filled] using hsuite
  | some suite => exact maybeSetKeyParams_filled writable results hkeys hsuite

/-- A call of the SDES methods leaves the keys alone or goes on to `SetRtpParams`. -/
theorem apply_sdesKeys (api : SrtpApi) (transport : SrtpTransport T) (call : SdesCall T) :
    ∃ filled, SameButSdes transport filled ∧
      SameButSdes (filled.trySdesKeys api call.writable call.inputs.results
        (transport.sdesKeys api call.direction call.params)).1
        (call.apply api transport).1 := by
  have houtcome := call.apply_outcome api transport
  generalize call.apply api transport = outcome at houtcome ⊢
  cases houtcome with
  | refused error hrefused =>
      refine ⟨transport, ⟨rfl, rfl, rfl⟩, ?_⟩
      rw [sdesKeys_of_refused hrefused]
      exact ⟨rfl, rfl, rfl⟩
  | invalid fields error hown hinvalid hfields =>
      refine ⟨transport, ⟨rfl, rfl, rfl⟩, ?_⟩
      have hnone : transport.sdesKeys api call.direction call.params = none := by
        rw [sdesKeys, hinvalid]
        simp
      rw [hnone]
      exact sameButSdes_setSdes transport call.direction fields
  | accepted keys tried hown hagrees hkeys htried =>
      refine ⟨SdesCall.filled transport call.direction keys,
        sameButSdes_setSdes transport call.direction _, ?_⟩
      rw [← maybeSetKeyParams_eq_sdesKeys call.writable call.inputs.results hown hagrees hkeys,
        SdesCall.filled, htried]
      exact sameButSdes_setSdes tried call.direction _
  | failed keys tried error hown hagrees hkeys htried =>
      refine ⟨SdesCall.filled transport call.direction keys,
        sameButSdes_setSdes transport call.direction _, ?_⟩
      rw [← maybeSetKeyParams_eq_sdesKeys call.writable call.inputs.results hown hagrees hkeys,
        SdesCall.filled, htried]
      exact ⟨rfl, rfl, rfl⟩

theorem signalled_sdes_iff (api : SrtpApi) {transport : SrtpTransport T}
    (call : SdesCall T) (hkeyed : transport.Keyed)
    (hsignalled : transport.Signalled call.writable) :
    (call.apply api transport).1.Signalled call.writable ↔
      ∀ keys, transport.sdesKeys api call.direction call.params = some keys →
        transport.SignalsKeyChange call.writable
          (transport.acceptsRtpParams api call.inputs.results keys.1 keys.2) := by
  obtain ⟨filled, hfilled, happlied⟩ := apply_sdesKeys api transport call
  rw [happlied.signalled_iff]
  have hfilledSignalled := (hfilled.signalled_iff call.writable).mpr hsignalled
  cases transport.sdesKeys api call.direction call.params with
  | none => simpa [trySdesKeys] using hfilledSignalled
  | some keys =>
      rw [trySdesKeys, signalled_setRtpParams_iff (hfilled.keyed hkeyed) hfilledSignalled,
        hfilled.signalsKeyChange_iff, hfilled.acceptsRtpParams]
      simp

/-! ### The keys stay keyed -/

theorem keyed_setRtpParams {transport : SrtpTransport T} (hkeyed : transport.Keyed)
    (writable : T → Bool) (results : PairResults) (send recv : SessionParams) :
    (transport.setRtpParams writable api results send recv).1.Keyed := by
  rcases setRtpParams_cases api writable results send recv hkeyed with
    ⟨-, pair, hsend, hrecv, heq⟩ | ⟨-, heq⟩
  · rw [heq]
    intro other hother
    obtain rfl : pair = other := by simpa using hother
    simp [hsend, hrecv]
  · rw [heq]
    exact keyed_of_sessions_none sessions_resetParams

theorem keyed_sdes (api : SrtpApi) {transport : SrtpTransport T} (hkeyed : transport.Keyed)
    (call : SdesCall T) : (call.apply api transport).1.Keyed := by
  obtain ⟨filled, hfilled, happlied⟩ := apply_sdesKeys api transport call
  apply happlied.keyed
  cases transport.sdesKeys api call.direction call.params with
  | none => exact hfilled.keyed hkeyed
  | some keys => exact keyed_setRtpParams (hfilled.keyed hkeyed) _ _ _ _

theorem keyed_of_sessions {before after : SrtpTransport T} (hkeyed : before.Keyed)
    (hsessions : after.sessions = before.sessions) : after.Keyed := by
  intro pair hpair
  exact hkeyed pair (hsessions ▸ hpair)

theorem sessions_iterate_onWritableState (writable : T → Bool) (transport : SrtpTransport T)
    (connections : ℕ) :
    ((onWritableState writable)^[connections] transport).sessions = transport.sessions := by
  induction connections with
  | zero => rfl
  | succ connections ih =>
      rw [Function.iterate_succ_apply', onWritableState, sessions_observe, ih]

/-! ### Runs -/

section Runs

variable [DecidableEq T]

theorem keyed_handle {transport : SrtpTransport T} (hkeyed : transport.Keyed)
    (writable : T → Bool) (call : SrtpCall T) :
    (transport.handle api writable call).Keyed := by
  cases call with
  | setRtpPacketTransport newPacketTransport => exact hkeyed
  | setRtcpPacketTransport newPacketTransport => exact hkeyed
  | setRtcpMuxEnabled enable => exact hkeyed
  | setRtpParams results send recv => exact keyed_setRtpParams hkeyed _ _ _ _
  | setRtcpParams results send recv =>
      exact keyed_of_sessions hkeyed (sessions_setRtcpParams results send recv)
  | setSrtpKey direction inputs params =>
      have happlied := keyed_sdes api hkeyed ⟨direction, params, inputs, writable⟩
      cases direction <;> exact happlied
  | resetParams => exact keyed_of_sessions_none sessions_resetParams

/-- A call leaves the last signal right exactly when it does not change in silence what
the signal tells. -/
theorem signalled_handle_iff {writable : T → Bool} {transport : SrtpTransport T}
    (hkeyed : transport.Keyed) (hsignalled : transport.Signalled writable)
    (call : SrtpCall T) :
    (transport.handle api writable call).Signalled writable ↔
      transport.SignalsCall api writable call := by
  cases call with
  | setRtpPacketTransport newPacketTransport =>
      exact signalled_rebinding_iff hsignalled
        (RtpTransport.setRtpPacketTransport_same _ _ _) rfl
  | setRtcpPacketTransport newPacketTransport =>
      exact signalled_rebinding_iff hsignalled
        (RtpTransport.setRtcpPacketTransport_same _ _ _) rfl
  | setRtcpMuxEnabled enable =>
      have hlast := lastWritableState_append transport.trace [.rtcpMuxEnabled enable] (by simp)
      have hiff := signalled_rebinding_iff hsignalled
        (RtpTransport.setRtcpMuxEnabled_same transport.toRtpTransport enable) hlast
      exact hiff
  | setRtpParams results send recv =>
      exact signalled_setRtpParams_iff hkeyed hsignalled results send recv
  | setRtcpParams results send recv =>
      exact iff_of_true (signalled_setRtcpParams hsignalled results send recv) trivial
  | setSrtpKey direction inputs params =>
      have happlied := signalled_sdes_iff api ⟨direction, params, inputs, writable⟩
        hkeyed hsignalled
      cases direction <;> exact happlied
  | resetParams => exact signalled_resetParams_iff hsignalled

/-- The last signal is right for the packet transports as they are. -/
def WorldSignalled (world : World (SrtpTransport T) T) : Prop :=
  world.transport.Signalled world.writable

structure SignalInv (world : World (SrtpTransport T) T) : Prop where
  keyed : world.transport.Keyed
  signalled : WorldSignalled world

theorem worldStep_signalled (api : SrtpApi) {world : World (SrtpTransport T) T}
    (hinv : SignalInv world)
    (event : WorldEvent (SrtpCall T) T) :
    ∃ next, worldStep api world event = some (.ok next) ∧ next.transport.Keyed ∧
      (WorldSignalled next ↔ SignalsEvent api world event) := by
  cases event with
  | writableChanged packetTransport now =>
      refine ⟨_, rfl, ?_, iff_of_true ?_ trivial⟩
      · exact keyed_of_sessions hinv.keyed (sessions_iterate_onWritableState _ _ _)
      · exact signalled_writableChanged hinv.signalled packetTransport now
  | call call =>
      refine ⟨_, rfl, keyed_handle hinv.keyed world.writable call, ?_⟩
      exact signalled_handle_iff hinv.keyed hinv.signalled call

theorem throughout_signalled_iff (api : SrtpApi) {world : World (SrtpTransport T) T}
    (hinit : SignalInv world) (events : List (WorldEvent (SrtpCall T) T)) :
    Throughout (worldStep api) WorldSignalled world events ↔
      Guarded (worldStep api) (SignalsEvent api) world events := by
  have hright : ∀ world : World (SrtpTransport T) T, SignalInv world → WorldSignalled world :=
    fun _ hinv => hinv.signalled
  refine guarded_iff_throughout ?_ hright ?_ hinit events
  · intro before event after hinv hguard hstep
    obtain ⟨next, hnext, hkeyed, hiff⟩ := worldStep_signalled api hinv event
    obtain rfl := Except.ok.inj (Option.some.inj (hnext.symm.trans hstep))
    exact ⟨hkeyed, hiff.mpr hguard⟩
  · intro before event hinv hmiss
    obtain ⟨next, hnext, -, hiff⟩ := worldStep_signalled api hinv event
    exact ⟨next, hnext, fun hsignalled => hmiss (hiff.mp hsignalled)⟩

end Runs

end SrtpTransport

end PeerConnection.Srtp
