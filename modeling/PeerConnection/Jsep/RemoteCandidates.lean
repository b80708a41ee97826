import PeerConnection.Jsep.MuxActivation

/-!
# Remote candidates

`AddRemoteCandidates` looks at the component of a candidate right before it hands the
candidate to an ICE transport.  A candidate without a transport ends the loop with an error,
and the ones before it have been handed on by then.
-/

namespace PeerConnection.Jsep

open PeerConnection.Text
open PeerConnection.Sdp
open PeerConnection.Srtp
open PeerConnection.Runs

/-- `libice::ICE_CANDIDATE_COMPONENT_RTP`. -/
def iceCandidateComponentRtp : ℤ := 1

/-- `libice::ICE_CANDIDATE_COMPONENT_RTCP`. -/
def iceCandidateComponentRtcp : ℤ := 2

/-- The characters of a text. -/
def characters (text : Bytes) : String :=
  String.ofList (text.map fun byte => Char.ofNat byte.toNat)

namespace JsepTransport

variable {T : Type*}

/-- The transport that the loop takes: every other component than that of RTP counts as that
of RTCP. -/
def candidateTransport (transport : JsepTransport T) (candidate : Candidate) : Option T :=
  if candidate.component = iceCandidateComponentRtp then some transport.rtpDtlsTransport
  else transport.rtcpDtlsTransport

/-- The candidates that are handed to an ICE transport, in order, and the result.
`toSensitiveString` is `Candidate::ToSensitiveString`. -/
def handCandidates (toSensitiveString : Candidate → String) (transport : JsepTransport T) :
    List Candidate → List (T × Candidate) × Except RtcError Unit
  | [] => ([], .ok ())
  | candidate :: candidates =>
      match transport.candidateTransport candidate with
      | none =>
          ([], .error
            { type := .invalidParameter
              message := "Candidate has an unknown component: " ++
                toSensitiveString candidate ++ " for mid " ++ characters transport.mid })
      | some iceTransport =>
          let (handed, result) := transport.handCandidates toSensitiveString candidates
          ((iceTransport, candidate) :: handed, result)

def addRemoteCandidates (toSensitiveString : Candidate → String)
    (transport : JsepTransport T) (candidates : List Candidate) :
    List (T × Candidate) × Except RtcError Unit :=
  if transport.localDescription.isNone || transport.remoteDescription.isNone then
    ([], .error
      { type := .invalidState
        message := characters transport.mid ++
          " is not ready to use the remote candidate because the local or remote " ++
            "description is not set." })
  else transport.handCandidates toSensitiveString candidates

/-! ## All or none -/

/-- The ICE transport of a component. -/
def iceTransport (transport : JsepTransport T) (component : ℤ) : Option T :=
  if component = iceCandidateComponentRtp then some transport.rtpDtlsTransport
  else if component = iceCandidateComponentRtcp then transport.rtcpDtlsTransport
  else none

/-- Every candidate has gone to the ICE transport of its component, or none has gone to any. -/
def HandsAllOrNone (transport : JsepTransport T) (candidates : List Candidate)
    (outcome : List (T × Candidate) × Except RtcError Unit) : Prop :=
  (outcome.2 = .ok () ∧
    outcome.1.map (fun handed => (some handed.1, handed.2)) =
      candidates.map fun candidate => (transport.iceTransport candidate.component, candidate)) ∨
  ∃ error, outcome = ([], .error error)

/-- A description is missing, every component has an ICE transport, or it is the first
candidate that the loop refuses. -/
def CandidatesFit (transport : JsepTransport T) (candidates : List Candidate) : Prop :=
  transport.localDescription = none ∨ transport.remoteDescription = none ∨
    (∀ candidate ∈ candidates, (transport.iceTransport candidate.component).isSome) ∨
    ∃ first rest, candidates = first :: rest ∧ first.component ≠ iceCandidateComponentRtp ∧
      transport.rtcpDtlsTransport = none

variable {toSensitiveString : Candidate → String} {transport : JsepTransport T}
  {candidates : List Candidate}

theorem candidateTransport_of_iceTransport {candidate : Candidate}
    (hknown : (transport.iceTransport candidate.component).isSome) :
    transport.candidateTransport candidate = transport.iceTransport candidate.component := by
  unfold iceTransport at hknown ⊢
  unfold candidateTransport
  split_ifs at hknown ⊢ with hrtp hrtcp
  · rfl
  · rfl
  · exact absurd hknown (by simp)

/-- Where every component has a transport, everything is handed on. -/
theorem handCandidates_of_isSome
    (hknown : ∀ candidate ∈ candidates, (transport.iceTransport candidate.component).isSome) :
    (transport.handCandidates toSensitiveString candidates).2 = .ok () ∧
      (transport.handCandidates toSensitiveString candidates).1.map
          (fun handed => (some handed.1, handed.2)) =
        candidates.map fun candidate =>
          (transport.iceTransport candidate.component, candidate) := by
  induction candidates with
  | nil => exact ⟨rfl, rfl⟩
  | cons candidate candidates ih =>
      have hfirst := hknown candidate List.mem_cons_self
      obtain ⟨hresult, hhanded⟩ := ih fun other hother =>
        hknown other (List.mem_cons_of_mem candidate hother)
      obtain ⟨iceTransport, hice⟩ := Option.isSome_iff_exists.mp hfirst
      have htaken := (candidateTransport_of_iceTransport hfirst).trans hice
      rw [handCandidates, htaken, List.map_cons, List.map_cons, hice, hhanded]
      exact ⟨hresult, rfl⟩

/-- Nothing is handed on only where the first candidate is refused. -/
theorem candidateTransport_of_handCandidates {error : RtcError}
    (hnone : transport.handCandidates toSensitiveString candidates = ([], .error error)) :
    ∃ first rest, candidates = first :: rest ∧ transport.candidateTransport first = none := by
  cases candidates with
  | nil => exact absurd (congrArg Prod.snd hnone) (by simp [handCandidates])
  | cons first rest =>
      refine ⟨first, rest, rfl, ?_⟩
      rw [handCandidates] at hnone
      cases htransport : transport.candidateTransport first with
      | none => rfl
      | some iceTransport =>
          rw [htransport] at hnone
          exact absurd (congrArg Prod.fst hnone) (by simp)

theorem candidateTransport_eq_none_iff {candidate : Candidate} :
    transport.candidateTransport candidate = none ↔
      candidate.component ≠ iceCandidateComponentRtp ∧ transport.rtcpDtlsTransport = none := by
  unfold candidateTransport
  split_ifs with hrtp
  · simp [hrtp]
  · simp [hrtp]

/-- In every state, and for every list, the candidates are handed on together exactly if they
fit. -/
theorem addRemoteCandidates_allOrNone_iff (toSensitiveString : Candidate → String)
    (transport : JsepTransport T) (candidates : List Candidate) :
    transport.HandsAllOrNone candidates
        (transport.addRemoteCandidates toSensitiveString candidates) ↔
      transport.CandidatesFit candidates := by
  rw [addRemoteCandidates, CandidatesFit]
  cases hlocal : transport.localDescription with
  | none => exact iff_of_true (Or.inr ⟨_, rfl⟩) (Or.inl rfl)
  | some localDescription =>
      cases hremote : transport.remoteDescription with
      | none => exact iff_of_true (Or.inr ⟨_, rfl⟩) (Or.inr (Or.inl rfl))
      | some remoteDescription =>
          simp only [Option.isNone_some, Bool.or_false, Bool.false_eq_true, if_false,
            reduceCtorEq, false_or]
          constructor
          · rintro (⟨-, hall⟩ | ⟨error, hnone⟩)
            · refine Or.inl fun candidate hcandidate => ?_
              have hmember : (transport.iceTransport candidate.component, candidate) ∈
                  candidates.map fun candidate =>
                    (transport.iceTransport candidate.component, candidate) :=
                List.mem_map_of_mem hcandidate
              rw [← hall] at hmember
              obtain ⟨handed, -, hpair⟩ := List.mem_map.mp hmember
              rw [← (Prod.mk.inj hpair).1, Option.isSome_some]
            · obtain ⟨first, rest, hsplit, hrefused⟩ :=
                candidateTransport_of_handCandidates hnone
              exact Or.inr ⟨first, rest, hsplit, candidateTransport_eq_none_iff.mp hrefused⟩
          · rintro (hknown | ⟨first, rest, rfl, hrefused⟩)
            · exact Or.inl (handCandidates_of_isSome hknown)
            · rw [handCandidates, candidateTransport_eq_none_iff.mpr hrefused]
              exact Or.inr ⟨_, rfl⟩

/-- A candidate of a component. -/
def candidateOf (component : ℤ) : Candidate where
  foundation := ascii "1"
  component := component
  protocol := ascii "udp"
  priority := 1
  host := ascii "127.0.0.1"
  port := 9
  type := ascii "host"

/-- After the answer has activated rtcp-mux the candidate for RTCP is refused, and the one for
RTP has been handed on. -/
theorem addRemoteCandidates_some :
    ∃ transport, run (step sampleApi) sampleTransport sampleCalls = some (.ok transport) ∧
      ¬ transport.HandsAllOrNone [candidateOf 1, candidateOf 2]
        (transport.addRemoteCandidates (fun _ => "candidate") [candidateOf 1, candidateOf 2]) := by
  let handsFirst (transport : JsepTransport ℕ) : Bool :=
    let outcome := transport.addRemoteCandidates (fun _ => "candidate")
      [candidateOf 1, candidateOf 2]
    decide (outcome.1.length = 1) && outcome.2.toOption.isNone
  have hreaches : reaches handsFirst (run (step sampleApi) sampleTransport sampleCalls) = true :=
    rfl
  obtain ⟨transport, hrun, hhanded⟩ := exists_of_reaches handsFirst hreaches
  simp only [handsFirst, Bool.and_eq_true, decide_eq_true_eq] at hhanded
  refine ⟨transport, hrun, ?_⟩
  rintro (⟨hok, -⟩ | ⟨error, hnone⟩)
  · rw [hok] at hhanded
    exact absurd hhanded.2 (by simp [Except.toOption])
  · rw [hnone] at hhanded
    exact absurd hhanded.1 (by simp)

end JsepTransport

end PeerConnection.Jsep
