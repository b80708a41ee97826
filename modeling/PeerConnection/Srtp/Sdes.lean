import PeerConnection.Core.Runs
import PeerConnection.Srtp.SrtpTransport

/-!
# Activation by SDES

`SetSrtpSendKey` and `SetSrtpReceiveKey` write the cipher suite and the key buffer of
their direction before they check the parameters, and `MaybeSetKeyParams` looks at
these fields and not at the parameters that were accepted.  So what a failed call has
left behind can be activated by a later call for the other direction.  Apart from such
calls, an active transport is keyed with what two accepted calls have brought.
-/

namespace PeerConnection.Srtp

open PeerConnection.Text
open PeerConnection.Runs

/-! ## Runs of the two calls -/

structure SdesCall (T : Type*) where
  direction : Direction
  params : CryptoParams
  inputs : SrtpTransport.SdesInputs := {}
  writable : T → Bool := fun _ => false

structure SdesState (T : Type*) where
  transport : SrtpTransport T
  /-- The calls that have returned OK. -/
  accepted : List (Direction × CryptoParams) := []

/-- A new transport, with any packet transports. -/
def SdesState.fresh {T : Type*} (binding : RtpTransport T) : SdesState T :=
  { transport := { toRtpTransport := binding } }

def SdesState.acceptedBy {T : Type*} (state : SdesState T) (direction : Direction) :
    List CryptoParams :=
  (state.accepted.filter (·.1 = direction)).map Prod.snd

section Runs

variable {T : Type*} (api : SrtpApi)

def SdesCall.apply (transport : SrtpTransport T) (call : SdesCall T) :
    SrtpTransport T × Except RtcError Unit :=
  match call.direction with
  | .send => transport.setSrtpSendKey api call.writable call.inputs call.params
  | .recv => transport.setSrtpReceiveKey api call.writable call.inputs call.params

def sdesStep : System (SdesState T) (SdesCall T) Empty := fun state call =>
  let (transport, result) := call.apply api state.transport
  some <| .ok
    { transport := transport
      accepted := match result with
        | .ok _ => state.accepted ++ [(call.direction, call.params)]
        | .error _ => state.accepted }

/-! ## The keys of an active transport -/

def SessionPair.get (pair : SessionPair) : Direction → SrtpSession
  | .send => pair.send
  | .recv => pair.recv

/-- The session is keyed with the bytes decoded from the parameters. -/
def SrtpSession.KeyedBy (session : SrtpSession) (params : CryptoParams) : Prop :=
  ∃ key, SrtpTransport.decodeKeyParams api params.keyParams = some key ∧
    session.keying =
      some { cipherSuite := api.srtpCryptoSuiteFromName params.cipherSuite, key := key }

/-- When the transport is active, one call for each direction has returned OK, both with
the same suite, and the sessions are keyed with what these two calls have brought. -/
def SdesState.Accounted (state : SdesState T) : Prop :=
  state.transport.isSrtpActive = true →
    ∃ send recv pair, state.acceptedBy .send = [send] ∧ state.acceptedBy .recv = [recv] ∧
      send.cipherSuite = recv.cipherSuite ∧ state.transport.sessions = some pair ∧
      pair.send.KeyedBy api send ∧ pair.recv.KeyedBy api recv

/-- What the checks of a call make of its parameters. -/
def sessionParams (params : CryptoParams) : Option SessionParams :=
  let suite := api.srtpCryptoSuiteFromName params.cipherSuite
  if suite = srtpInvalidCryptoSuite then none
  else
    (api.getSrtpKeyAndSaltLengths suite).bind fun lengths =>
      (SrtpTransport.parseKeyParams api params.keyParams (lengths.1 + lengths.2)).map
        fun key => { cipherSuite := suite, key := key }

/-- The parameters of one direction and of the other one, as `SetRtpParams` takes them. -/
def Direction.arrange (direction : Direction) (own other : SessionParams) :
    SessionParams × SessionParams :=
  match direction with
  | .send => (own, other)
  | .recv => (other, own)

/-- The call does not complete what a failed call for the other direction has left: when
nothing has been accepted for either direction and a suite is there for the other one,
then libsrtp refuses the keys. -/
def SdesCall.CompletesNothing (state : SdesState T) (call : SdesCall T) : Prop :=
  let other := state.transport.sdes call.direction.opposite
  (state.transport.sdes call.direction).params = none → other.params = none →
    ∀ suite own, other.cipherSuite = some suite → sessionParams api call.params = some own →
      let keys := call.direction.arrange own { cipherSuite := suite, key := other.key }
      state.transport.acceptsRtpParams api call.inputs.results keys.1 keys.2 = false

/-! ## One call -/

variable {api}

theorem eq_of_sessionParams {params : CryptoParams} {own : SessionParams}
    (hparams : sessionParams api params = some own) :
    ∃ key, SrtpTransport.decodeKeyParams api params.keyParams = some key ∧
      own = { cipherSuite := api.srtpCryptoSuiteFromName params.cipherSuite, key := key } := by
  simp only [sessionParams] at hparams
  split at hparams
  · exact absurd hparams (by simp)
  obtain ⟨lengths, -, hparsed⟩ := Option.bind_eq_some_iff.mp hparams
  obtain ⟨key, hkey, rfl⟩ := Option.map_eq_some_iff.mp hparsed
  exact ⟨key, (Option.filter_eq_some_iff.mp hkey).1, rfl⟩

/-- The other direction has been accepted with the same suite, or not at all. -/
def AgreesWithOther (transport : SrtpTransport T) (direction : Direction)
    (params : CryptoParams) : Prop :=
  ∀ other, (transport.sdes direction.opposite).params = some other →
    other.cipherSuite = params.cipherSuite

/-- How a call ends: it is refused at once, its parameters are found wrong, or it goes on
to `MaybeSetKeyParams` with what the parameters stand for. -/
inductive KeyOutcome (api : SrtpApi) (writable : T → Bool) (direction : Direction)
    (results : PairResults) (transport : SrtpTransport T) (params : CryptoParams) :
    SrtpTransport T × Except RtcError Unit → Prop
  | refused (error : RtcError)
      (hrefused : (transport.sdes direction).params.isSome ∨
        ¬ AgreesWithOther transport direction params) :
      KeyOutcome api writable direction results transport params (transport, .error error)
  | invalid (fields : SdesFields) (error : RtcError)
      (hown : (transport.sdes direction).params = none)
      (hinvalid : sessionParams api params = none) (hfields : fields.params = none) :
      KeyOutcome api writable direction results transport params
        (transport.setSdes direction fields, .error error)
  | accepted (keys : SessionParams) (tried : SrtpTransport T)
      (hown : (transport.sdes direction).params = none)
      (hagrees : AgreesWithOther transport direction params)
      (hkeys : sessionParams api params = some keys)
      (htried : (transport.setSdes direction
        { cipherSuite := some keys.cipherSuite, key := keys.key }).maybeSetKeyParams api
          writable results = (tried, true)) :
      KeyOutcome api writable direction results transport params
        (tried.setSdes direction { tried.sdes direction with params := some params }, .ok ())
  | failed (keys : SessionParams) (tried : SrtpTransport T) (error : RtcError)
      (hown : (transport.sdes direction).params = none)
      (hagrees : AgreesWithOther transport direction params)
      (hkeys : sessionParams api params = some keys)
      (htried : (transport.setSdes direction
        { cipherSuite := some keys.cipherSuite, key := keys.key }).maybeSetKeyParams api
          writable results = (tried, false)) :
      KeyOutcome api writable direction results transport params (tried, .error error)

theorem setSrtpKey_outcome (direction : Direction) (message : String)
    (inputs : SrtpTransport.SdesInputs) (writable : T → Bool) (transport : SrtpTransport T)
    (params : CryptoParams) :
    KeyOutcome api writable direction inputs.results transport params
      (transport.setSrtpKey api writable direction message inputs params) := by
  simp only [SrtpTransport.setSrtpKey]
  split
  case isTrue howned => exact .refused _ (Or.inl howned)
  split
  case isFalse.isTrue hdiffers =>
    cases hother : (transport.sdes direction.opposite).params with
    | none => simp [hother] at hdiffers
    | some other =>
        have hne : other.cipherSuite ≠ params.cipherSuite := by simpa [hother] using hdiffers
        exact .refused _ (Or.inr fun hagrees => hne (hagrees other hother))
  case isFalse.isFalse howned hdiffers =>
    have hown : (transport.sdes direction).params = none := by simpa using howned
    have hagrees : AgreesWithOther transport direction params := by
      intro other hother
      simpa [hother] using hdiffers
    split
    case isTrue hsuite =>
      have hinvalid : sessionParams api params = none := by simp [sessionParams, hsuite]
      exact .invalid _ _ hown hinvalid hown
    case isFalse hsuite =>
      split
      case h_1 hlengths =>
        have hinvalid : sessionParams api params = none := by
          simp [sessionParams, hlengths]
        exact .invalid _ _ hown hinvalid hown
      case h_2 keyLen saltLen hlengths =>
        split
        case h_1 hparse =>
          have hinvalid : sessionParams api params = none := by
            simp [sessionParams, hlengths, hparse]
          exact .invalid _ _ hown hinvalid hown
        case h_2 key hparse =>
          have hkeys : sessionParams api params =
              some { cipherSuite := api.srtpCryptoSuiteFromName params.cipherSuite,
                     key := key } := by
            simp [sessionParams, hsuite, hlengths, hparse]
          simp only [hown]
          generalize htried : SrtpTransport.maybeSetKeyParams _ _ _ _ = tried
          obtain ⟨tried, ok⟩ := tried
          cases ok with
          | false => exact .failed _ _ _ hown hagrees hkeys htried
          | true => exact .accepted _ _ hown hagrees hkeys htried

theorem SdesCall.apply_outcome (api : SrtpApi) (transport : SrtpTransport T)
    (call : SdesCall T) :
    KeyOutcome api call.writable call.direction call.inputs.results transport call.params
      (call.apply api transport) := by
  unfold SdesCall.apply
  split
  case h_1 hdirection =>
    rw [hdirection]
    exact setSrtpKey_outcome _ _ _ _ _ _
  case h_2 hdirection =>
    rw [hdirection]
    exact setSrtpKey_outcome _ _ _ _ _ _

theorem Direction.eq_or_eq_opposite (direction other : Direction) :
    other = direction ∨ other = direction.opposite := by
  cases direction <;> cases other <;> simp [Direction.opposite]

/-- `MaybeSetKeyParams` waits for the other direction. -/
theorem maybeSetKeyParams_of_none {writable : T → Bool} {results : PairResults}
    {transport : SrtpTransport T} (direction : Direction)
    (hother : (transport.sdes direction.opposite).cipherSuite = none) :
    transport.maybeSetKeyParams api writable results = (transport, true) := by
  unfold SrtpTransport.maybeSetKeyParams
  cases direction with
  | send =>
      have hrecv : transport.recvSdes.cipherSuite = none := hother
      simp [hrecv]
  | recv =>
      have hsend : transport.sendSdes.cipherSuite = none := hother
      simp [hsend]

theorem maybeSetKeyParams_of_some {writable : T → Bool} {results : PairResults}
    {transport : SrtpTransport T} {direction : Direction} {ownSuite otherSuite : ℤ}
    (hown : (transport.sdes direction).cipherSuite = some ownSuite)
    (hother : (transport.sdes direction.opposite).cipherSuite = some otherSuite) :
    transport.maybeSetKeyParams api writable results =
      let keys := direction.arrange
        { cipherSuite := ownSuite, key := (transport.sdes direction).key }
        { cipherSuite := otherSuite, key := (transport.sdes direction.opposite).key }
      transport.setRtpParams writable api results keys.1 keys.2 := by
  unfold SrtpTransport.maybeSetKeyParams
  cases direction with
  | send =>
      have hsend : transport.sendSdes.cipherSuite = some ownSuite := hown
      have hrecv : transport.recvSdes.cipherSuite = some otherSuite := hother
      simp only [hsend, hrecv]
      rfl
  | recv =>
      have hrecv : transport.recvSdes.cipherSuite = some ownSuite := hown
      have hsend : transport.sendSdes.cipherSuite = some otherSuite := hother
      simp only [hsend, hrecv]
      rfl

/-! ## The invariant -/

/-- The fields of a direction hold what its accepted call has brought, and sessions are
there only when both directions have been accepted. -/
structure SdesInv (api : SrtpApi) (state : SdesState T) : Prop where
  accepted : ∀ direction,
    state.acceptedBy direction = (state.transport.sdes direction).params.toList
  decoded : ∀ direction params, (state.transport.sdes direction).params = some params →
    ∃ keys, sessionParams api params = some keys ∧
      (state.transport.sdes direction).cipherSuite = some keys.cipherSuite ∧
      (state.transport.sdes direction).key = keys.key
  agree : ∀ direction params, (state.transport.sdes direction).params = some params →
    AgreesWithOther state.transport direction params
  sessions : ∀ pair, state.transport.sessions = some pair → ∀ direction,
    ∃ params keys, (state.transport.sdes direction).params = some params ∧
      sessionParams api params = some keys ∧ (pair.get direction).keying = some keys

theorem sdesInv_fresh (binding : RtpTransport T) : SdesInv api (.fresh binding) where
  accepted direction := by cases direction <;> rfl
  decoded direction params hparams := by cases direction <;> cases hparams
  agree direction params hparams := by cases direction <;> cases hparams
  sessions pair hpair := by cases hpair

theorem keyedBy_of_sessionParams {session : SrtpSession} {params : CryptoParams}
    {keys : SessionParams} (hkeys : sessionParams api params = some keys)
    (hkeying : session.keying = some keys) : session.KeyedBy api params := by
  obtain ⟨key, hdecode, rfl⟩ := eq_of_sessionParams hkeys
  exact ⟨key, hdecode, hkeying⟩

theorem accounted_of_inv {state : SdesState T} (hinv : SdesInv api state) :
    state.Accounted api := by
  intro hactive
  obtain ⟨pair, hpair⟩ := Option.isSome_iff_exists.mp hactive
  obtain ⟨send, sendKeys, hsend, hsendKeys, hsendKeying⟩ := hinv.sessions pair hpair .send
  obtain ⟨recv, recvKeys, hrecv, hrecvKeys, hrecvKeying⟩ := hinv.sessions pair hpair .recv
  refine ⟨send, recv, pair, ?_, ?_, ?_, hpair, ?_, ?_⟩
  · rw [hinv.accepted, hsend, Option.toList_some]
  · rw [hinv.accepted, hrecv, Option.toList_some]
  · exact (hinv.agree .send send hsend recv hrecv).symm
  · exact keyedBy_of_sessionParams hsendKeys hsendKeying
  · exact keyedBy_of_sessionParams hrecvKeys hrecvKeying

theorem acceptedBy_append (accepted : List (Direction × CryptoParams))
    (before after : SrtpTransport T) (direction other : Direction) (params : CryptoParams) :
    SdesState.acceptedBy { transport := after, accepted := accepted ++ [(direction, params)] }
        other =
      SdesState.acceptedBy { transport := before, accepted := accepted } other ++
        if direction = other then [params] else [] := by
  by_cases hsame : direction = other
  · simp [SdesState.acceptedBy, hsame]
  · simp [SdesState.acceptedBy, hsame]

theorem sessions_eq_none {state : SdesState T} {direction : Direction}
    (hinv : SdesInv api state) (hown : (state.transport.sdes direction).params = none) :
    state.transport.sessions = none := by
  cases hsessions : state.transport.sessions with
  | none => rfl
  | some pair =>
      obtain ⟨params, keys, hparams, -⟩ := hinv.sessions pair hsessions direction
      exact absurd hparams (by simp [hown])

/-- A rejected call leaves fields that nobody has accepted, and no sessions. -/
theorem sdesInv_of_rejected {state : SdesState T} {after : SrtpTransport T}
    {direction : Direction} (hinv : SdesInv api state)
    (hown : (state.transport.sdes direction).params = none)
    (hafter : (after.sdes direction).params = none)
    (hother : after.sdes direction.opposite = state.transport.sdes direction.opposite)
    (hsessions : after.sessions = none) :
    SdesInv api { transport := after, accepted := state.accepted } := by
  have hparams : ∀ each, (after.sdes each).params = (state.transport.sdes each).params := by
    intro each
    rcases direction.eq_or_eq_opposite each with rfl | rfl
    · rw [hafter, hown]
    · rw [hother]
  constructor
  · intro each
    rw [hparams]
    exact hinv.accepted each
  · intro each params heach
    rcases direction.eq_or_eq_opposite each with rfl | rfl
    · exact absurd heach (by simp [hafter])
    · rw [hother] at heach ⊢
      exact hinv.decoded _ params heach
  · intro each params heach other hcounter
    rw [hparams] at heach hcounter
    exact hinv.agree each params heach other hcounter
  · intro pair hpair
    exact absurd hpair (by simp [hsessions])

/-- An accepted call fills the fields of its direction; sessions that are there now are
keyed with them and with what has been accepted for the other direction. -/
theorem sdesInv_of_accepted {state : SdesState T} {after : SrtpTransport T}
    {direction : Direction} {params : CryptoParams} {keys : SessionParams}
    (hinv : SdesInv api state) (hown : (state.transport.sdes direction).params = none)
    (hagrees : AgreesWithOther state.transport direction params)
    (hkeys : sessionParams api params = some keys)
    (hafter : after.sdes direction =
      { params := some params, cipherSuite := some keys.cipherSuite, key := keys.key })
    (hother : after.sdes direction.opposite = state.transport.sdes direction.opposite)
    (hsessions : ∀ pair, after.sessions = some pair →
      (pair.get direction).keying = some keys ∧
      ∃ other otherKeys,
        (state.transport.sdes direction.opposite).params = some other ∧
        sessionParams api other = some otherKeys ∧
        (pair.get direction.opposite).keying = some otherKeys) :
    SdesInv api { transport := after, accepted := state.accepted ++ [(direction, params)] } := by
  constructor
  · intro each
    rw [acceptedBy_append state.accepted state.transport]
    change state.acceptedBy each ++ _ = _
    rw [hinv.accepted each]
    rcases direction.eq_or_eq_opposite each with rfl | rfl
    · simp [hown, hafter]
    · have hne : direction ≠ direction.opposite := by cases direction <;> decide
      simp [hne, hother]
  · intro each given heach
    rcases direction.eq_or_eq_opposite each with rfl | rfl
    · rw [hafter] at heach ⊢
      obtain rfl := Option.some.inj heach
      exact ⟨keys, hkeys, rfl, rfl⟩
    · rw [hother] at heach ⊢
      exact hinv.decoded _ given heach
  · intro each given heach other hcounter
    rcases direction.eq_or_eq_opposite each with rfl | rfl
    · rw [hafter] at heach
      rw [hother] at hcounter
      obtain rfl := Option.some.inj heach
      exact hagrees other hcounter
    · have hback : direction.opposite.opposite = direction := by cases direction <;> rfl
      rw [hother] at heach
      rw [hback, hafter] at hcounter
      obtain rfl := Option.some.inj hcounter
      exact (hagrees given heach).symm
  · intro pair hpair each
    obtain ⟨hkeying, other, otherKeys, hparams, hotherKeys, hotherKeying⟩ :=
      hsessions pair hpair
    rcases direction.eq_or_eq_opposite each with rfl | rfl
    · exact ⟨params, keys, by rw [hafter], hkeys, hkeying⟩
    · exact ⟨other, otherKeys, by rw [hother, hparams], hotherKeys, hotherKeying⟩

/-! ## Steps -/

/-- The transport in which a call that has passed its checks tries to set the keys. -/
def SdesCall.filled (transport : SrtpTransport T) (direction : Direction)
    (keys : SessionParams) : SrtpTransport T :=
  transport.setSdes direction { cipherSuite := some keys.cipherSuite, key := keys.key }

/-- With a suite for the other direction, the call goes on to `SetRtpParams`. -/
theorem maybeSetKeyParams_filled (writable : T → Bool) (results : PairResults)
    {transport : SrtpTransport T} {direction : Direction} {params : CryptoParams}
    {keys : SessionParams} {suite : ℤ} (hkeys : sessionParams api params = some keys)
    (hsuite : (transport.sdes direction.opposite).cipherSuite = some suite) :
    (SdesCall.filled transport direction keys).maybeSetKeyParams api writable results =
      let arranged := direction.arrange keys
        { cipherSuite := suite, key := (transport.sdes direction.opposite).key }
      (SdesCall.filled transport direction keys).setRtpParams writable api results
        arranged.1 arranged.2 := by
  have hown : ((SdesCall.filled transport direction keys).sdes direction).cipherSuite =
      some keys.cipherSuite := by simp [SdesCall.filled]
  have hother : ((SdesCall.filled transport direction keys).sdes
      direction.opposite).cipherSuite = some suite := by simpa [SdesCall.filled] using hsuite
  rw [maybeSetKeyParams_of_some hown hother]
  obtain ⟨key, -, rfl⟩ := eq_of_sessionParams hkeys
  simp [SdesCall.filled]

theorem keyed_of_sessions_none {transport : SrtpTransport T}
    (hsessions : transport.sessions = none) : transport.Keyed := by
  intro pair hpair
  exact absurd hpair (by simp [hsessions])

theorem get_arrange {direction : Direction} {own other : SessionParams} {pair : SessionPair}
    (hsend : pair.send.keying = some (direction.arrange own other).1)
    (hrecv : pair.recv.keying = some (direction.arrange own other).2) :
    (pair.get direction).keying = some own ∧
      (pair.get direction.opposite).keying = some other := by
  cases direction with
  | send => exact ⟨hsend, hrecv⟩
  | recv => exact ⟨hrecv, hsend⟩

/-- What `MaybeSetKeyParams` makes of the keys of the two directions. -/
theorem maybeSetKeyParams_outcome {writable : T → Bool} {results : PairResults}
    {transport : SrtpTransport T} {direction : Direction} {params : CryptoParams}
    {keys : SessionParams} {tried : SrtpTransport T} {ok : Bool}
    (hsessions : transport.sessions = none) (hkeys : sessionParams api params = some keys)
    (htried : (SdesCall.filled transport direction keys).maybeSetKeyParams api writable
      results = (tried, ok)) :
    (∀ each, tried.sdes each = (SdesCall.filled transport direction keys).sdes each) ∧
    (((transport.sdes direction.opposite).cipherSuite = none ∧ ok = true ∧
        tried.sessions = none) ∨
      ∃ suite, (transport.sdes direction.opposite).cipherSuite = some suite ∧
        let other : SessionParams :=
          { cipherSuite := suite, key := (transport.sdes direction.opposite).key }
        let arranged := direction.arrange keys other
        (ok = transport.acceptsRtpParams api results arranged.1 arranged.2 ∧
          ((ok = false ∧ tried.sessions = none) ∨
            (ok = true ∧ ∃ pair, tried.sessions = some pair ∧
              (pair.get direction).keying = some keys ∧
              (pair.get direction.opposite).keying = some other)))) := by
  have hfilled : (SdesCall.filled transport direction keys).sessions = none := by
    simpa [SdesCall.filled] using hsessions
  cases hsuite : (transport.sdes direction.opposite).cipherSuite with
  | none =>
      have hother : ((SdesCall.filled transport direction keys).sdes
          direction.opposite).cipherSuite = none := by
        simpa [SdesCall.filled] using hsuite
      rw [maybeSetKeyParams_of_none direction hother] at htried
      obtain ⟨rfl, rfl⟩ := Prod.mk.inj htried
      exact ⟨fun _ => rfl, Or.inl ⟨rfl, rfl, hfilled⟩⟩
  | some suite =>
      have haccepts : ∀ send recv,
          (SdesCall.filled transport direction keys).acceptsRtpParams api results send recv =
            transport.acceptsRtpParams api results send recv := by
        intro send recv
        simp [SrtpTransport.acceptsRtpParams, SrtpTransport.isSrtpActive, hfilled, hsessions]
      rw [maybeSetKeyParams_filled writable results hkeys hsuite] at htried
      rcases SrtpTransport.setRtpParams_cases api writable results _ _
          (keyed_of_sessions_none hfilled) with
        ⟨hgood, pair, hsend, hrecv, heq⟩ | ⟨hbad, heq⟩
      · rw [haccepts] at hgood
        rw [heq] at htried
        obtain ⟨rfl, rfl⟩ := Prod.mk.inj htried
        refine ⟨by simp, Or.inr ⟨suite, rfl, hgood.symm, Or.inr ⟨rfl, pair, by simp, ?_⟩⟩⟩
        exact get_arrange hsend hrecv
      · rw [haccepts] at hbad
        rw [heq] at htried
        obtain ⟨rfl, rfl⟩ := Prod.mk.inj htried
        exact ⟨by simp, Or.inr ⟨suite, rfl, hbad.symm, Or.inl ⟨rfl, by simp⟩⟩⟩

/-- If it fails, there are no sessions, and a suite for the other direction was there. -/
theorem maybeSetKeyParams_failed {writable : T → Bool} {results : PairResults}
    {transport : SrtpTransport T} {direction : Direction} {params : CryptoParams}
    {keys : SessionParams} {tried : SrtpTransport T} (hsessions : transport.sessions = none)
    (hkeys : sessionParams api params = some keys)
    (htried : (SdesCall.filled transport direction keys).maybeSetKeyParams api writable
      results = (tried, false)) :
    (∀ each, tried.sdes each = (SdesCall.filled transport direction keys).sdes each) ∧
      tried.sessions = none ∧
      ∃ suite, (transport.sdes direction.opposite).cipherSuite = some suite ∧
        let arranged := direction.arrange keys
          { cipherSuite := suite, key := (transport.sdes direction.opposite).key }
        transport.acceptsRtpParams api results arranged.1 arranged.2 = false := by
  obtain ⟨hsdes, ⟨-, hok, -⟩ | ⟨suite, hsuite, haccepts, ⟨-, hnone⟩ | ⟨hok, -⟩⟩⟩ :=
    maybeSetKeyParams_outcome hsessions hkeys htried
  · exact absurd hok (by simp)
  · exact ⟨hsdes, hnone, suite, hsuite, haccepts.symm⟩
  · exact absurd hok (by simp)

/-- If it succeeds, it waits for the other direction or has keyed the sessions. -/
theorem maybeSetKeyParams_succeeded {writable : T → Bool} {results : PairResults}
    {transport : SrtpTransport T} {direction : Direction} {params : CryptoParams}
    {keys : SessionParams} {tried : SrtpTransport T} (hsessions : transport.sessions = none)
    (hkeys : sessionParams api params = some keys)
    (htried : (SdesCall.filled transport direction keys).maybeSetKeyParams api writable
      results = (tried, true)) :
    (∀ each, tried.sdes each = (SdesCall.filled transport direction keys).sdes each) ∧
      (((transport.sdes direction.opposite).cipherSuite = none ∧ tried.sessions = none) ∨
        ∃ suite pair, (transport.sdes direction.opposite).cipherSuite = some suite ∧
          let other : SessionParams :=
            { cipherSuite := suite, key := (transport.sdes direction.opposite).key }
          let arranged := direction.arrange keys other
          transport.acceptsRtpParams api results arranged.1 arranged.2 = true ∧
            tried.sessions = some pair ∧ (pair.get direction).keying = some keys ∧
            (pair.get direction.opposite).keying = some other) := by
  obtain ⟨hsdes, ⟨hsuite, -, hnone⟩ |
      ⟨suite, hsuite, haccepts, ⟨hfalse, -⟩ | ⟨-, pair, hpair, hkeying, hotherKeying⟩⟩⟩ :=
    maybeSetKeyParams_outcome hsessions hkeys htried
  · exact ⟨hsdes, Or.inl ⟨hsuite, hnone⟩⟩
  · exact absurd hfalse (by simp)
  · exact ⟨hsdes, Or.inr ⟨suite, pair, hsuite, haccepts.symm, hpair, hkeying, hotherKeying⟩⟩

theorem sdesStep_inv (state : SdesState T) (call : SdesCall T) (next : SdesState T)
    (hinv : SdesInv api state) (hguard : call.CompletesNothing api state)
    (hstep : sdesStep api state call = some (.ok next)) : SdesInv api next := by
  have houtcome := call.apply_outcome api state.transport
  simp only [sdesStep, Option.some.injEq, Except.ok.injEq] at hstep
  generalize call.apply api state.transport = outcome at houtcome hstep
  subst hstep
  cases houtcome with
  | refused error _ => exact hinv
  | invalid fields error hown hinvalid hfields =>
      apply sdesInv_of_rejected hinv hown
      · simp [hfields]
      · simp
      · simpa using sessions_eq_none hinv hown
  | failed keys tried error hown hagrees hkeys htried =>
      obtain ⟨hsdes, hnone, -⟩ :=
        maybeSetKeyParams_failed (sessions_eq_none hinv hown) hkeys htried
      simp only [SdesCall.filled] at hsdes
      apply sdesInv_of_rejected hinv hown
      · simp [hsdes]
      · simp [hsdes]
      · exact hnone
  | accepted keys tried hown hagrees hkeys htried =>
      obtain ⟨hsdes, hcases⟩ :=
        maybeSetKeyParams_succeeded (sessions_eq_none hinv hown) hkeys htried
      simp only [SdesCall.filled] at hsdes
      apply sdesInv_of_accepted hinv hown hagrees hkeys
      · simp [hsdes]
      · simp [hsdes]
      · intro pair hpair
        rw [SrtpTransport.sessions_setSdes] at hpair
        rcases hcases with ⟨-, hnone⟩ |
          ⟨suite, other, hsuite, haccepts, hother, hkeying, hotherKeying⟩
        · exact absurd hpair (by simp [hnone])
        obtain rfl : pair = other := Option.some.inj (hpair.symm.trans hother)
        refine ⟨hkeying, ?_⟩
        -- the guard says that the other direction has been accepted
        cases hparams : (state.transport.sdes call.direction.opposite).params with
        | none =>
            have hrefuses := hguard hown hparams suite keys hsuite hkeys
            exact absurd (haccepts.symm.trans hrefuses) (by simp)
        | some params =>
            obtain ⟨otherKeys, hotherKeys, hcipher, hkey⟩ := hinv.decoded _ params hparams
            refine ⟨params, otherKeys, rfl, hotherKeys, ?_⟩
            rw [hotherKeying, hkey]
            obtain rfl : suite = otherKeys.cipherSuite :=
              Option.some.inj (hsuite.symm.trans hcipher)
            obtain ⟨key, -, rfl⟩ := eq_of_sessionParams hotherKeys
            rfl

/-- A call that completes what a failed call has left activates the transport, although
only one direction has been accepted. -/
theorem sdesStep_breaks (state : SdesState T) (call : SdesCall T)
    (hinv : SdesInv api state) (hmiss : ¬ call.CompletesNothing api state) :
    ∃ next, sdesStep api state call = some (.ok next) ∧ ¬ next.Accounted api := by
  simp only [SdesCall.CompletesNothing, not_forall, Bool.not_eq_false] at hmiss
  obtain ⟨hown, hother, suite, keys, hsuite, hkeys, haccepts⟩ := hmiss
  have hsessions := sessions_eq_none hinv hown
  have houtcome := call.apply_outcome api state.transport
  have hstep : sdesStep api state call = some (.ok
      { transport := (call.apply api state.transport).1,
        accepted := match (call.apply api state.transport).2 with
          | .ok _ => state.accepted ++ [(call.direction, call.params)]
          | .error _ => state.accepted }) := rfl
  refine ⟨_, hstep, ?_⟩
  clear hstep
  generalize call.apply api state.transport = outcome at houtcome
  have hagreed : AgreesWithOther state.transport call.direction call.params := by
    intro other hcounter
    exact absurd hcounter (by simp [hother])
  cases houtcome with
  | refused error hrefused =>
      rcases hrefused with hsome | hdiffers
      · exact absurd hsome (by simp [hown])
      · exact absurd hagreed hdiffers
  | invalid fields error _ hinvalid _ => exact absurd hinvalid (by simp [hkeys])
  | failed keys' tried error _ _ hkeys' htried =>
      obtain rfl : keys' = keys := Option.some.inj (hkeys'.symm.trans hkeys)
      obtain ⟨-, -, suite', hsuite', hrefuses⟩ := maybeSetKeyParams_failed hsessions hkeys htried
      obtain rfl : suite = suite' := Option.some.inj (hsuite.symm.trans hsuite')
      exact absurd (hrefuses.symm.trans haccepts) (by simp)
  | accepted keys' tried _ _ hkeys' htried =>
      obtain rfl : keys' = keys := Option.some.inj (hkeys'.symm.trans hkeys)
      obtain ⟨-, ⟨hnone, -⟩ | ⟨suite', pair, -, -, hpair, -⟩⟩ :=
        maybeSetKeyParams_succeeded hsessions hkeys htried
      · exact absurd (hsuite.symm.trans hnone) (by simp)
      intro haccounted
      obtain ⟨send, recv, -, hsend, hrecv, -⟩ := haccounted
        (by simp [SrtpTransport.isSrtpActive, hpair])
      have hempty : state.acceptedBy call.direction.opposite = [] := by
        rw [hinv.accepted, hother, Option.toList_none]
      simp only [acceptedBy_append state.accepted state.transport] at hsend hrecv
      change state.acceptedBy _ ++ _ = _ at hsend hrecv
      cases hdirection : call.direction with
      | send => simp_all [Direction.opposite]
      | recv => simp_all [Direction.opposite]

/-- Over any run of the two calls on a new transport, the keys of an active transport
are accounted for if and only if no call completes what a failed call has left. -/
theorem sdesAccounted_iff (api : SrtpApi) (binding : RtpTransport T)
    (calls : List (SdesCall T)) :
    Throughout (sdesStep api) (fun state => state.Accounted api) (.fresh binding) calls ↔
      Guarded (sdesStep api) (fun state call => call.CompletesNothing api state)
        (.fresh binding) calls :=
  guarded_iff_throughout sdesStep_inv (fun _ => accounted_of_inv) sdesStep_breaks
    (sdesInv_fresh binding) calls

end Runs

/-! ## A failed call that activates -/

/-- A send key that is too short, and then a good receive key. -/
def halfAccepted : List (SdesCall ℕ) :=
  [{ direction := .send,
     params := { cipherSuite := ascii "AES_CM_128_HMAC_SHA1_80",
                 keyParams := ascii "inline:YUJD" } },
   { direction := .recv,
     params := { cipherSuite := ascii "AES_CM_128_HMAC_SHA1_80",
                 keyParams := ascii "inline:YUJDZGVmZ2hpSktMbW9QUXJzVHVWd3l6MTIzNDU2" } }]

/-- The transport becomes active with a send key that no call has brought. -/
theorem halfAccepted_not_accounted :
    ¬ Throughout (sdesStep registeredSrtpApi) (fun state => state.Accounted registeredSrtpApi)
      (.fresh { rtcpMuxEnabled := true }) halfAccepted := by
  intro hall
  obtain ⟨final, hrun, hfinal⟩ := exists_of_reaches
    (fun state : SdesState ℕ =>
      state.transport.isSrtpActive && decide (state.acceptedBy .send = []))
    (show reaches _ (run (sdesStep registeredSrtpApi) (.fresh { rtcpMuxEnabled := true })
      halfAccepted) = true by decide +kernel)
  simp only [Bool.and_eq_true, decide_eq_true_eq] at hfinal
  obtain ⟨send, recv, pair, hsend, -⟩ := hall halfAccepted [] final (by simp) hrun hfinal.1
  exact absurd (hfinal.2.symm.trans hsend) (by simp)

end PeerConnection.Srtp
