import PeerConnection.Jsep.RtcpMuxFilter

/-!
# The history behind a state of the mux filter

The filter keeps neither the offer nor the side that it came from, but every state in which
an answer is expected stands for one side.  What the state says of the calls accepted so far
is preserved by each call; whether rtcp-mux is active, and why, can be read off it.
-/

namespace PeerConnection.Jsep

/-- A call of one of the three setters. -/
inductive MuxCall where
  | setOffer (offerEnable : Bool) (src : ContentSource)
  | setProvisionalAnswer (answerEnable : Bool) (src : ContentSource)
  | setAnswer (answerEnable : Bool) (src : ContentSource)
  deriving DecidableEq, Repr

namespace MuxCall

/-- The flag of the call. -/
def enable : MuxCall → Bool
  | .setOffer offerEnable _ => offerEnable
  | .setProvisionalAnswer answerEnable _ => answerEnable
  | .setAnswer answerEnable _ => answerEnable

def apply (call : MuxCall) (filter : RtcpMuxFilter) : RtcpMuxFilter × Bool :=
  match call with
  | .setOffer offerEnable src => filter.setOffer offerEnable src
  | .setProvisionalAnswer answerEnable src => filter.setProvisionalAnswer answerEnable src
  | .setAnswer answerEnable src => filter.setAnswer answerEnable src

/-- The flag and the side of an offer. -/
def offered : MuxCall → Option (Bool × ContentSource)
  | .setOffer offerEnable src => some (offerEnable, src)
  | _ => none

end MuxCall

/-- A filter with the calls that it has accepted, in their order. -/
structure MuxRun where
  filter : RtcpMuxFilter := {}
  accepted : List MuxCall := []

namespace MuxRun

def next (muxRun : MuxRun) (call : MuxCall) : MuxRun :=
  let (filter, ok) := call.apply muxRun.filter
  { filter := filter
    accepted := if ok then muxRun.accepted ++ [call] else muxRun.accepted }

/-- The calls on a fresh filter. -/
def after (calls : List MuxCall) : MuxRun := calls.foldl next {}

/-- The last offer that has been accepted. -/
def lastOffer (muxRun : MuxRun) : Option (Bool × ContentSource) :=
  (muxRun.accepted.filterMap MuxCall.offered).getLast?

end MuxRun

/-- The side whose offer waits for an answer. -/
def MuxState.offerer : MuxState → Option ContentSource
  | .init | .active => none
  | .sentOffer | .receivedPrAnswer => some .csLocal
  | .receivedOffer | .sentPrAnswer => some .csRemote

/-! ## The three setters -/

namespace RtcpMuxFilter

variable {filter : RtcpMuxFilter} {src : ContentSource}

theorem expectAnswer_iff :
    filter.expectAnswer src = true ↔ filter.state.offerer = some src.opposite := by
  obtain ⟨state, offerEnable⟩ := filter
  cases state <;> cases src <;> decide +revert

/-- An accepted offer is kept, and waits for the other side. -/
theorem setOffer_cases (hinactive : filter.isFullyActive = false) (offerEnable : Bool) :
    (MuxCall.setOffer offerEnable src).apply filter = (filter, false) ∨
    ∃ next, (MuxCall.setOffer offerEnable src).apply filter = (next, true) ∧
      next.offerEnable = offerEnable ∧ next.state.offerer = some src ∧
      next.isProvisionallyActive = false := by
  have hstate : filter.state ≠ .active := of_decide_eq_false hinactive
  rw [MuxCall.apply, setOffer, if_neg hstate]
  split
  · exact Or.inl rfl
  · refine Or.inr ⟨_, rfl, rfl, ?_, ?_⟩
    · cases src <;> rfl
    · cases src <;> rfl

/-- An accepted provisional answer comes from the other side, which goes on waiting; it makes
rtcp-mux provisionally active if both sides want it. -/
theorem setProvisionalAnswer_cases (hinactive : filter.isFullyActive = false)
    (answerEnable : Bool) :
    (MuxCall.setProvisionalAnswer answerEnable src).apply filter = (filter, false) ∨
    ∃ next, (MuxCall.setProvisionalAnswer answerEnable src).apply filter = (next, true) ∧
      filter.state.offerer = some src.opposite ∧
      next.offerEnable = filter.offerEnable ∧ next.state.offerer = filter.state.offerer ∧
      (filter.offerEnable = true ∧ next.isProvisionallyActive = answerEnable ∨
        filter.offerEnable = false ∧ next = filter) := by
  have hstate : filter.state ≠ .active := of_decide_eq_false hinactive
  rw [MuxCall.apply, setProvisionalAnswer, if_neg hstate]
  cases hexpected : filter.expectAnswer src with
  | false => exact Or.inl rfl
  | true =>
      have hofferer := expectAnswer_iff.mp hexpected
      rw [Bool.not_true, if_neg Bool.false_ne_true]
      cases hoffer : filter.offerEnable with
      | false =>
          cases answerEnable with
          | false => exact Or.inr ⟨filter, rfl, hofferer, hoffer, rfl, Or.inr ⟨rfl, rfl⟩⟩
          | true => exact Or.inl rfl
      | true =>
          refine Or.inr ?_
          rw [if_pos rfl, hofferer]
          cases answerEnable with
          | false =>
              refine ⟨_, rfl, rfl, rfl, ?_, Or.inl ⟨rfl, ?_⟩⟩ <;> cases src <;> rfl
          | true =>
              refine ⟨_, rfl, rfl, rfl, ?_, Or.inl ⟨rfl, ?_⟩⟩ <;> cases src <;> rfl

/-- An accepted answer comes from the other side, and ends the negotiation. -/
theorem setAnswer_cases (hinactive : filter.isFullyActive = false) (answerEnable : Bool) :
    (MuxCall.setAnswer answerEnable src).apply filter = (filter, false) ∨
    ((MuxCall.setAnswer answerEnable src).apply filter = ({ filter with state := .active }, true) ∧
      filter.state.offerer = some src.opposite ∧ filter.offerEnable = true ∧
      answerEnable = true) ∨
    (MuxCall.setAnswer answerEnable src).apply filter =
      ({ filter with state := .init }, true) := by
  have hstate : filter.state ≠ .active := of_decide_eq_false hinactive
  rw [MuxCall.apply, setAnswer, if_neg hstate]
  cases hexpected : filter.expectAnswer src with
  | false => exact Or.inl rfl
  | true =>
      have hofferer := expectAnswer_iff.mp hexpected
      rw [Bool.not_true, if_neg Bool.false_ne_true]
      cases answerEnable with
      | false => exact Or.inr (Or.inr (by simp))
      | true =>
          cases hoffer : filter.offerEnable with
          | false => exact Or.inl rfl
          | true => exact Or.inr (Or.inl ⟨rfl, hofferer, rfl, rfl⟩)

/-- A fully active filter answers with the flag. -/
theorem apply_of_isFullyActive (hactive : filter.isFullyActive = true) (call : MuxCall) :
    call.apply filter = (filter, call.enable) := by
  have hstate : filter.state = .active := of_decide_eq_true hactive
  cases call <;>
    simp [MuxCall.apply, MuxCall.enable, setOffer, setProvisionalAnswer, setAnswer, hstate]

/-- Whatever a filter refuses leaves it as it is. -/
theorem apply_of_refused {call : MuxCall} (hrefused : (call.apply filter).2 = false) :
    (call.apply filter).1 = filter := by
  cases hactive : filter.isFullyActive with
  | true => rw [apply_of_isFullyActive hactive]
  | false =>
      cases call with
      | setOffer offerEnable src =>
          rcases @setOffer_cases filter src hactive offerEnable with heq | ⟨next, heq, -⟩
          · exact congrArg Prod.fst heq
          · exact absurd ((congrArg Prod.snd heq).symm.trans hrefused) (by simp)
      | setProvisionalAnswer answerEnable src =>
          rcases @setProvisionalAnswer_cases filter src hactive answerEnable with
            heq | ⟨next, heq, -⟩
          · exact congrArg Prod.fst heq
          · exact absurd ((congrArg Prod.snd heq).symm.trans hrefused) (by simp)
      | setAnswer answerEnable src =>
          rcases @setAnswer_cases filter src hactive answerEnable with
            heq | ⟨heq, -⟩ | heq
          · exact congrArg Prod.fst heq
          · exact absurd ((congrArg Prod.snd heq).symm.trans hrefused) (by simp)
          · exact absurd ((congrArg Prod.snd heq).symm.trans hrefused) (by simp)

end RtcpMuxFilter

/-! ## State and history -/

namespace MuxRun

variable {muxRun : MuxRun}

/-- What the state says of the accepted calls. -/
structure Corresponds (muxRun : MuxRun) : Prop where
  offer : ∀ src, muxRun.filter.state.offerer = some src →
    muxRun.lastOffer = some (muxRun.filter.offerEnable, src)
  provisional : muxRun.filter.isProvisionallyActive = true →
    muxRun.filter.offerEnable = true ∧
      ∃ src, muxRun.filter.state.offerer = some src ∧
        muxRun.accepted.getLast? = some (.setProvisionalAnswer true src.opposite)

theorem next_of_refused {call : MuxCall} (hrefused : call.apply muxRun.filter =
    (muxRun.filter, false)) : muxRun.next call = muxRun := by
  rw [next, hrefused]
  rfl

theorem next_of_accepted {call : MuxCall} {filter : RtcpMuxFilter}
    (haccepted : call.apply muxRun.filter = (filter, true)) :
    muxRun.next call = { filter := filter, accepted := muxRun.accepted ++ [call] } := by
  rw [next, haccepted]
  rfl

theorem filter_next (muxRun : MuxRun) (call : MuxCall) :
    (muxRun.next call).filter = (call.apply muxRun.filter).1 := rfl

/-- An answer does not change what was offered last. -/
theorem lastOffer_append_answer {filter : RtcpMuxFilter} {call : MuxCall}
    (hanswer : call.offered = none) :
    lastOffer { filter := filter, accepted := muxRun.accepted ++ [call] } = muxRun.lastOffer := by
  simp [lastOffer, hanswer]

theorem corresponds_setOffer (hcorresponds : Corresponds muxRun)
    (hinactive : muxRun.filter.isFullyActive = false) (offerEnable : Bool)
    (src : ContentSource) : Corresponds (muxRun.next (.setOffer offerEnable src)) := by
  rcases @RtcpMuxFilter.setOffer_cases _ src hinactive offerEnable with
    hrefused | ⟨filter, haccepted, henable, hofferer, hprovisional⟩
  · rw [next_of_refused hrefused]
    exact hcorresponds
  · rw [next_of_accepted haccepted]
    constructor
    · intro other hother
      obtain rfl : src = other := Option.some.inj (hofferer.symm.trans hother)
      simp [lastOffer, MuxCall.offered, henable]
    · intro hactive
      exact absurd hactive (by simp [hprovisional])

theorem corresponds_setProvisionalAnswer (hcorresponds : Corresponds muxRun)
    (hinactive : muxRun.filter.isFullyActive = false) (answerEnable : Bool)
    (src : ContentSource) :
    Corresponds (muxRun.next (.setProvisionalAnswer answerEnable src)) := by
  rcases @RtcpMuxFilter.setProvisionalAnswer_cases _ src hinactive answerEnable with
    hrefused | ⟨filter, haccepted, hofferer, henable, hsame, hactivity⟩
  · rw [next_of_refused hrefused]
    exact hcorresponds
  · rw [next_of_accepted haccepted]
    constructor
    · intro other hother
      rw [lastOffer_append_answer rfl, hcorresponds.offer other (hsame.symm.trans hother),
        henable]
    · intro hactive
      rcases hactivity with ⟨hoffer, hanswer⟩ | ⟨hoffer, rfl⟩
      · obtain rfl : answerEnable = true := hanswer.symm.trans hactive
        refine ⟨henable.trans hoffer, src.opposite, hsame.trans hofferer, ?_⟩
        cases src <;> simp [ContentSource.opposite]
      · -- the answer changes nothing, and rtcp-mux was not active without an offer of it
        exact absurd (hcorresponds.provisional hactive).1 (by simp [hoffer])

theorem corresponds_setAnswer (hcorresponds : Corresponds muxRun)
    (hinactive : muxRun.filter.isFullyActive = false) (answerEnable : Bool)
    (src : ContentSource) : Corresponds (muxRun.next (.setAnswer answerEnable src)) := by
  rcases @RtcpMuxFilter.setAnswer_cases _ src hinactive answerEnable with
    hrefused | ⟨haccepted, -⟩ | haccepted
  · rw [next_of_refused hrefused]
    exact hcorresponds
  · rw [next_of_accepted haccepted]
    exact ⟨by simp [MuxState.offerer], by simp [RtcpMuxFilter.isProvisionallyActive]⟩
  · rw [next_of_accepted haccepted]
    exact ⟨by simp [MuxState.offerer], by simp [RtcpMuxFilter.isProvisionallyActive]⟩

theorem corresponds_of_isFullyActive (hactive : muxRun.filter.isFullyActive = true) :
    Corresponds muxRun := by
  have hstate : muxRun.filter.state = .active := of_decide_eq_true hactive
  exact ⟨by simp [MuxState.offerer, hstate],
    by simp [RtcpMuxFilter.isProvisionallyActive, hstate]⟩

theorem isFullyActive_next (hactive : muxRun.filter.isFullyActive = true) (call : MuxCall) :
    (muxRun.next call).filter.isFullyActive = true := by
  rw [filter_next, RtcpMuxFilter.apply_of_isFullyActive hactive]
  exact hactive

theorem corresponds_next (hcorresponds : Corresponds muxRun) (call : MuxCall) :
    Corresponds (muxRun.next call) := by
  cases hactive : muxRun.filter.isFullyActive with
  | true => exact corresponds_of_isFullyActive (isFullyActive_next hactive call)
  | false =>
      cases call with
      | setOffer offerEnable src => exact corresponds_setOffer hcorresponds hactive _ _
      | setProvisionalAnswer answerEnable src =>
          exact corresponds_setProvisionalAnswer hcorresponds hactive _ _
      | setAnswer answerEnable src => exact corresponds_setAnswer hcorresponds hactive _ _

/-- Only a final answer can make rtcp-mux fully active. -/
theorem of_isFullyActive_next (hcorresponds : Corresponds muxRun) {call : MuxCall}
    (hinactive : muxRun.filter.isFullyActive = false)
    (hactive : (muxRun.next call).filter.isFullyActive = true) :
    ∃ src, muxRun.lastOffer = some (true, src) ∧ call = .setAnswer true src.opposite := by
  cases call with
  | setOffer offerEnable src =>
      rcases @RtcpMuxFilter.setOffer_cases _ src hinactive offerEnable with
        hrefused | ⟨filter, haccepted, -, hofferer, -⟩
      · rw [next_of_refused hrefused, hinactive] at hactive
        exact absurd hactive Bool.false_ne_true
      · rw [next_of_accepted haccepted] at hactive
        rw [of_decide_eq_true hactive] at hofferer
        exact absurd hofferer (by simp [MuxState.offerer])
  | setProvisionalAnswer answerEnable src =>
      rcases @RtcpMuxFilter.setProvisionalAnswer_cases _ src hinactive answerEnable with
        hrefused | ⟨filter, haccepted, hofferer, -, hsame, -⟩
      · rw [next_of_refused hrefused, hinactive] at hactive
        exact absurd hactive Bool.false_ne_true
      · rw [next_of_accepted haccepted] at hactive
        rw [of_decide_eq_true hactive, hofferer] at hsame
        exact absurd hsame (by simp [MuxState.offerer])
  | setAnswer answerEnable src =>
      rcases @RtcpMuxFilter.setAnswer_cases _ src hinactive answerEnable with
        hrefused | ⟨-, hofferer, hoffer, rfl⟩ | haccepted
      · rw [next_of_refused hrefused, hinactive] at hactive
        exact absurd hactive Bool.false_ne_true
      · refine ⟨src.opposite, ?_, ?_⟩
        · rw [hcorresponds.offer _ hofferer, hoffer]
        · cases src <;> rfl
      · rw [next_of_accepted haccepted] at hactive
        exact absurd hactive (by simp [RtcpMuxFilter.isFullyActive])

/-! ## Runs -/

theorem after_append (calls later : List MuxCall) :
    after (calls ++ later) = later.foldl next (after calls) :=
  List.foldl_append

theorem after_concat (calls : List MuxCall) (call : MuxCall) :
    after (calls ++ [call]) = (after calls).next call := by
  rw [after_append, List.foldl_cons, List.foldl_nil]

theorem corresponds_after (calls : List MuxCall) : Corresponds (after calls) := by
  induction calls using List.reverseRecOn with
  | nil =>
      exact ⟨by simp [after, MuxState.offerer],
        by simp [after, RtcpMuxFilter.isProvisionallyActive]⟩
  | append_singleton calls call ih =>
      rw [after_concat]
      exact corresponds_next ih call

theorem isFullyActive_foldl {later : List MuxCall}
    (hactive : muxRun.filter.isFullyActive = true) :
    (later.foldl next muxRun).filter.isFullyActive = true := by
  induction later generalizing muxRun with
  | nil => exact hactive
  | cons call later ih => exact ih (isFullyActive_next hactive call)

/-- What the calls on a fresh filter and what they have led to have to do with each other. -/
structure HistorySound (calls : List MuxCall) : Prop where
  /-- A refused call leaves the state and the stored flag as they are. -/
  refused : ∀ call : MuxCall, (call.apply (after calls).filter).2 = false →
    (call.apply (after calls).filter).1 = (after calls).filter
  /-- The last offer and the answer to it, which is the last call, have enabled rtcp-mux. -/
  provisional : (after calls).filter.isProvisionallyActive = true →
    ∃ src, (after calls).lastOffer = some (true, src) ∧
      (after calls).accepted.getLast? = some (.setProvisionalAnswer true src.opposite)
  /-- The call that makes rtcp-mux fully active answers an offer of it. -/
  activation : ∀ call, (after calls).filter.isFullyActive = false →
    (after (calls ++ [call])).filter.isFullyActive = true →
      ∃ src, (after calls).lastOffer = some (true, src) ∧ call = .setAnswer true src.opposite
  /-- From then on rtcp-mux is active, and every call returns its flag. -/
  lasting : (after calls).filter.isFullyActive = true → ∀ later,
    (after (calls ++ later)).filter.isFullyActive = true ∧
      ∀ call : MuxCall, (call.apply (after (calls ++ later)).filter).2 = call.enable

theorem historySound (calls : List MuxCall) : HistorySound calls where
  refused _ hrefused := RtcpMuxFilter.apply_of_refused hrefused
  provisional hactive := by
    have hcorresponds := corresponds_after calls
    obtain ⟨hoffer, src, hofferer, hlast⟩ := hcorresponds.provisional hactive
    refine ⟨src, ?_, hlast⟩
    rw [hcorresponds.offer src hofferer, hoffer]
  activation call hinactive hactive := by
    rw [after_concat] at hactive
    exact of_isFullyActive_next (corresponds_after calls) hinactive hactive
  lasting hactive later := by
    have hlater : (after (calls ++ later)).filter.isFullyActive = true := by
      rw [after_append]
      exact isFullyActive_foldl hactive
    exact ⟨hlater, fun call => by rw [RtcpMuxFilter.apply_of_isFullyActive hlater]⟩

end MuxRun

end PeerConnection.Jsep
