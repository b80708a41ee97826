import PeerConnection.Jsep.JsepEvents
import PeerConnection.Jsep.OfferAnswer

/-!
# The activation of rtcp-mux

`ActivateRtcpMux` gives the RTCP transport up.  It runs when the negotiation has come to the
state that it never leaves, and by then nothing points to the RTCP transport any more.
-/

namespace PeerConnection.Jsep

open PeerConnection.Text
open PeerConnection.Sdp
open PeerConnection.Srtp
open PeerConnection.Runs

namespace RtcpMuxFilter

/-- A fully active filter stays as it is. -/
theorem set_of_isFullyActive {filter : RtcpMuxFilter} (hactive : filter.isFullyActive = true)
    (type : SdpType) (enable : Bool) (source : ContentSource) :
    (filter.set type enable source).1 = filter := by
  have hstate : filter.state = .active := of_decide_eq_true hactive
  cases type <;> simp [set, setOffer, setProvisionalAnswer, setAnswer, hstate]

/-- A final answer that leaves rtcp-mux active has made it fully active. -/
theorem isFullyActive_of_answer {filter : RtcpMuxFilter} {enable : Bool}
    {source : ContentSource} (haccepted : (filter.set .answer enable source).2 = true)
    (hactive : (filter.set .answer enable source).1.isActive = true) :
    (filter.set .answer enable source).1.isFullyActive = true := by
  obtain ⟨state, offerEnable⟩ := filter
  cases state <;> cases source <;> cases enable <;> cases offerEnable <;>
    first
    | rfl
    | exact absurd haccepted (by decide)
    | exact absurd hactive (by decide)

end RtcpMuxFilter

variable {T : Type*}

namespace JsepTransport

/-- `ActivateRtcpMux` has run: it calls back at its end. -/
def HasActivated (transport : JsepTransport T) : Prop :=
  .rtcpMuxActiveCallback ∈ transport.calls

/-- What a transport keeps from its creation on. -/
structure MuxInv (transport : JsepTransport T) : Prop where
  activated : transport.HasActivated → transport.rtcpMuxNegotiator.isFullyActive = true
  enabled : transport.rtcpMuxNegotiator.isFullyActive = true →
    transport.rtpTransport.rtp.rtcpMuxEnabled = true
  pointsOnlyTo : transport.rtpTransport.PointsOnlyTo transport.rtcpDtlsTransport

theorem MuxInv.sameMux {before after : JsepTransport T} (hinv : MuxInv before)
    (hsame : SameMux before after) : MuxInv after := by
  constructor
  · intro hactivated
    rw [hsame.rtcpMuxNegotiator]
    exact hinv.activated (hsame.activated hactivated)
  · intro hactive
    rw [hsame.rtcpMuxNegotiator] at hactive
    exact hsame.rtpTransport.rtcpMuxEnabled.trans (hinv.enabled hactive)
  · rw [hsame.rtcpDtlsTransport]
    exact hsame.rtpTransport.pointsOnlyTo hinv.pointsOnlyTo

/-- The rtcp-mux part of a call: the filter stays active where it was, and becomes fully
active before the RTCP transport is given up. -/
theorem MuxInv.muxSet {description : JsepTransportDescription} {type : SdpType}
    {source : ContentSource} {before after : JsepTransport T} (hinv : MuxInv before)
    (haccepted : (before.negotiated description type source).2 = true)
    (hset : MuxSet description type source before after) : MuxInv after := by
  have hfilter := hset.rtcpMuxNegotiator
  have hcalls := congrArg JsepTransport.calls hset.rest
  constructor
  · intro hactivated
    rw [HasActivated, hcalls] at hactivated
    rw [hfilter]
    rcases List.mem_append.mp hactivated with hbefore | hnow
    · have hactive := hinv.activated hbefore
      rw [negotiated, RtcpMuxFilter.set_of_isFullyActive hactive]
      exact hactive
    · cases hactivates : before.activates description type source with
      | false => simp [hactivates] at hnow
      | true =>
          rw [activates, Bool.and_eq_true] at hactivates
          obtain rfl := of_decide_eq_true hactivates.1
          exact RtcpMuxFilter.isFullyActive_of_answer haccepted hactivates.2
  · intro hactive
    rw [hset.rtcpMuxEnabled, ← hfilter, RtcpMuxFilter.isActive, hactive, Bool.true_or]
  · rw [hset.rtcpDtlsTransport]
    exact hset.pointsOnlyTo hinv.pointsOnlyTo

/-! ## The rest of a call -/

theorem sameMux_withDescription (transport : JsepTransport T) (source : ContentSource)
    (description : Option JsepTransportDescription) :
    SameMux transport (transport.withDescription source description) := by
  cases source <;> exact ⟨rfl, rfl, AnyRtpTransport.SameRtcpHold.refl _, id⟩

theorem rtcpMuxActiveCallback_notMem_icePushes (transport : JsepTransport T)
    (source : ContentSource) (description : JsepTransportDescription) :
    .rtcpMuxActiveCallback ∉ transport.icePushes source description := by
  cases source <;> simp [icePushes]

theorem Ended.sameMux {inputs : JsepInputs T} {source : ContentSource}
    {description : JsepTransportDescription} {type : SdpType} {before after : JsepTransport T}
    {result : Except RtcError Unit}
    (hended : Ended inputs source description type before after result) :
    SameMux before after := by
  obtain ⟨extra, hextra, hafter⟩ := hended.after_eq
  have hkept := sameMux_withDescription before source (result.toOption.map fun _ => description)
  constructor
  · rw [hafter]
    exact hkept.rtcpMuxNegotiator
  · rw [hafter]
    exact hkept.rtcpDtlsTransport
  · rw [hafter]
    exact hkept.rtpTransport
  · intro hactivated
    rw [hafter] at hactivated
    rcases List.mem_append.mp hactivated with hbefore | hnew
    · exact hbefore
    · rcases List.mem_append.mp hnew with hpushed | hparameter
      · exact absurd hpushed (rtcpMuxActiveCallback_notMem_icePushes before source description)
      · exact (hextra _ hparameter).elim

theorem sameMux_applyDescription {api : JsepApi} {inputs : JsepInputs T}
    {source : ContentSource} {description : JsepTransportDescription} {type : SdpType}
    {before after : JsepTransport T} {result : Except RtcError Unit}
    (happly : before.applyDescription inputs api source description type =
      .ok (after, result)) :
    SameMux before after := by
  by_cases hfits : before.Fits api source description
  · obtain ⟨ended, outcome, hok, hended⟩ :=
      @applyDescription_of_fits T inputs before api source description type hfits
    obtain ⟨rfl, rfl⟩ := Prod.mk.inj (Except.ok.inj (hok.symm.trans happly))
    exact hended.sameMux
  · by_cases hmisfits : before.Misfits api source description
    · obtain ⟨error, hok⟩ :=
        @applyDescription_of_misfits T inputs before api source description type hmisfits
      obtain ⟨rfl, rfl⟩ := Prod.mk.inj (Except.ok.inj (hok.symm.trans happly))
      exact sameMux_withDescription before source none
    · obtain ⟨abort, herror⟩ :=
        @applyDescription_aborts T inputs before api source description type hfits hmisfits
      exact absurd (herror.symm.trans happly) (by simp)

/-! ## Runs -/

section Runs

variable [DecidableEq T] {api : JsepApi}

/-- A call, accepted or refused: it sets rtcp-mux or leaves it alone. -/
theorem setDescription_mux {inputs : JsepInputs T} {source : ContentSource}
    {description : JsepTransportDescription} {type : SdpType} {before after : JsepTransport T}
    {result : Except RtcError Unit}
    (hset : before.setDescription inputs api source description type = .ok (after, result)) :
    SameMux before after ∨
      ∃ muxed, (before.negotiated description type source).2 = true ∧
        MuxSet description type source before muxed ∧ SameMux muxed after := by
  have hcourse := @course_setDescription T inputs before _ api source description type
  generalize before.setDescription inputs api source description type = outcome
    at hcourse hset
  cases hcourse with
  | invalid message =>
      obtain ⟨rfl, -⟩ := Prod.mk.inj (Except.ok.inj hset)
      apply Or.inl
      cases source with
      | csLocal => exact SameMux.refl before
      | csRemote => exact sameMux_withDescription before .csRemote none
  | refused =>
      obtain ⟨rfl, -⟩ := Prod.mk.inj (Except.ok.inj hset)
      exact Or.inl (SameMux.refl before)
  | sdes hvalid haccepted hsdes muxed hmuxed =>
      obtain ⟨rfl, -⟩ := Prod.mk.inj (Except.ok.inj hset)
      exact Or.inr ⟨muxed, haccepted, hmuxed, SameMux.refl muxed⟩
  | applied hvalid haccepted hsdes muxed hmuxed =>
      exact Or.inr ⟨muxed, haccepted, hmuxed, sameMux_applyDescription hset⟩

/-- Any event sets rtcp-mux with an accepted flag or leaves it alone. -/
theorem step_mux {transport next : JsepTransport T} {event : JsepEvent T}
    (hstep : step api transport event = some (.ok next)) :
    SameMux transport next ∨
      ∃ description type source muxed,
        (transport.negotiated description type source).2 = true ∧
        MuxSet description type source transport muxed ∧ SameMux muxed next := by
  have hhandle := Option.some.inj hstep
  cases event with
  | setDescription source description type inputs =>
      obtain ⟨⟨after, result⟩, hset, rfl⟩ := except_map_eq_ok_iff.mp hhandle
      apply (setDescription_mux hset).imp_right
      rintro ⟨muxed, hmuxed⟩
      exact ⟨description, type, source, muxed, hmuxed⟩
  | update update =>
      obtain rfl := Except.ok.inj hhandle
      exact Or.inl (sameMux_update api transport update)

theorem step_muxInv (transport : JsepTransport T) (event : JsepEvent T) (next : JsepTransport T)
    (hinv : MuxInv transport) (hstep : step api transport event = some (.ok next)) :
    MuxInv next := by
  rcases step_mux hstep with hsame | ⟨_, _, _, muxed, haccepted, hset, hsame⟩
  · exact hinv.sameMux hsame
  · exact (hinv.muxSet haccepted hset).sameMux hsame

/-- Nothing takes a fully active negotiation back. -/
theorem step_isFullyActive (transport : JsepTransport T) (event : JsepEvent T)
    (next : JsepTransport T) (hactive : transport.rtcpMuxNegotiator.isFullyActive = true)
    (hstep : step api transport event = some (.ok next)) :
    next.rtcpMuxNegotiator.isFullyActive = true := by
  rcases step_mux hstep with hsame | ⟨_, _, _, muxed, _, hset, hsame⟩
  · rw [hsame.rtcpMuxNegotiator]
    exact hactive
  · rw [hsame.rtcpMuxNegotiator, hset.rtcpMuxNegotiator, negotiated,
      RtcpMuxFilter.set_of_isFullyActive hactive]
    exact hactive

/-- Activated for good, and nothing dangles. -/
structure MuxSafe (api : JsepApi) (transport : JsepTransport T) : Prop where
  final : transport.HasActivated → transport.rtcpMuxNegotiator.isFullyActive = true ∧
    transport.rtpTransport.rtp.rtcpMuxEnabled = true
  pointsOnlyTo : transport.rtpTransport.PointsOnlyTo transport.rtcpDtlsTransport
  /-- Whenever the activation drops the reference, no pointer is left. -/
  dropped : ∀ inputs after, transport.activateRtcpMux api inputs = .ok after →
    after.rtpTransport.PointsOnlyTo none

theorem MuxInv.safe {transport : JsepTransport T} (hinv : MuxInv transport) :
    MuxSafe api transport := by
  constructor
  · intro hactivated
    have hactive := hinv.activated hactivated
    exact ⟨hactive, hinv.enabled hactive⟩
  · exact hinv.pointsOnlyTo
  · intro inputs after hafter
    obtain ⟨activated, hok, hactivated⟩ := activateRtcpMux_spec api inputs transport
    obtain rfl := Except.ok.inj (hok.symm.trans hafter)
    exact hactivated.rtpTransport

omit [DecidableEq T] in
theorem muxInv_create {mid : Bytes} {localCertificate : Option Certificate}
    {rtpTransport : AnyRtpTransport T} {rtpDtlsTransport : T} {rtcpDtlsTransport : Option T}
    (hbound : rtpTransport.PointsOnlyTo rtcpDtlsTransport) :
    MuxInv (create mid localCertificate rtpTransport rtpDtlsTransport rtcpDtlsTransport) :=
  ⟨fun hactivated => absurd hactivated List.not_mem_nil,
    fun hactive => absurd hactive Bool.false_ne_true, hbound⟩

/-- In every run of descriptions, accepted or refused, with any events between them: no
pointer to an RTCP transport outlives the reference to it, and once `ActivateRtcpMux` has
run, rtcp-mux is fully active and enabled in every later state. -/
theorem muxActivation_final (api : JsepApi) (mid : Bytes)
    (localCertificate : Option Certificate) (rtpTransport : AnyRtpTransport T)
    (rtpDtlsTransport : T) (rtcpDtlsTransport : Option T)
    (hbound : rtpTransport.PointsOnlyTo rtcpDtlsTransport) (events : List (JsepEvent T)) :
    let start := create mid localCertificate rtpTransport rtpDtlsTransport rtcpDtlsTransport
    Throughout (step api) (MuxSafe api) start events ∧
      ∀ before after activated, events = before ++ after →
        run (step api) start before = some (.ok activated) → activated.HasActivated →
        Throughout (step api) (fun later => later.rtcpMuxNegotiator.isFullyActive = true ∧
          later.rtpTransport.rtp.rtcpMuxEnabled = true) activated after := by
  intro start
  have hstart : MuxInv start := muxInv_create hbound
  constructor
  · intro before after passed _ hrun
    exact (run_induction step_muxInv hstart hrun).safe
  · intro before after activated _ hbefore hactivated front back later _ hlater
    have hinv := run_induction step_muxInv hstart hbefore
    have hactive := run_induction step_isFullyActive (hinv.activated hactivated) hlater
    exact ⟨hactive, (run_induction step_muxInv hinv hlater).enabled hactive⟩

end Runs

/-! ## An offer and its answer -/

/-- A DTLS-SRTP transport that has been bound to two DTLS transports. -/
def sampleRtpTransport : AnyRtpTransport ℕ :=
  .dtlsSrtp
    { DtlsSrtpTransport.create false with
      rtpPacketTransport := some 0
      rtcpPacketTransport := some 1
      rtpDtlsTransport := some 0
      rtcpDtlsTransport := some 1 }

def sampleTransport : JsepTransport ℕ :=
  create [] (some [1]) sampleRtpTransport 0 (some 1)

def sampleCall (source : ContentSource) (type : SdpType) (proposal : Proposal ℕ) :
    JsepEvent ℕ :=
  .setDescription source proposal.description type {}

def sampleCalls : List (JsepEvent ℕ) :=
  [sampleCall .csLocal .offer (sampleProposal [1] .actpass),
    sampleCall .csRemote .answer (sampleProposal [2] .active)]

/-- The answer activates rtcp-mux. -/
theorem muxActivation_final_sample :
    sampleRtpTransport.PointsOnlyTo (some 1) ∧
      Throughout (step sampleApi) (MuxSafe sampleApi) sampleTransport sampleCalls ∧
      reaches (fun transport => decide (.rtcpMuxActiveCallback ∈ transport.calls))
        (run (step sampleApi) sampleTransport sampleCalls) = true := by
  have hbound : sampleRtpTransport.PointsOnlyTo (some 1) := ⟨fun _ => id, fun _ => id⟩
  refine ⟨hbound, ?_, rfl⟩
  exact (muxActivation_final sampleApi [] (some [1]) sampleRtpTransport 0 (some 1) hbound
    sampleCalls).1

end JsepTransport

end PeerConnection.Jsep
