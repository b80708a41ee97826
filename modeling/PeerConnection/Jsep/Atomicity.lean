import PeerConnection.Jsep.MuxActivation

/-!
# Refused descriptions

A description can be refused after the call has begun to change the transport.  What the
call has done by then stays done: only the description is reset, and not to the old one.
-/

namespace PeerConnection.Jsep

open PeerConnection.Text
open PeerConnection.Sdp
open PeerConnection.Srtp
open PeerConnection.Runs

variable {T : Type*}

/-- The call has returned OK. -/
def accepted : Except JsepAbort (JsepResult T) → Bool
  | .ok (_, .ok ()) => true
  | .ok (_, .error _) | .error _ => false

theorem accepted_iff (outcome : Except JsepAbort (JsepResult T)) :
    accepted outcome = true ↔ ∃ after, outcome = .ok (after, .ok ()) := by
  constructor
  · intro haccepted
    cases outcome with
    | error abort => exact absurd haccepted Bool.false_ne_true
    | ok result =>
        obtain ⟨after, result⟩ := result
        cases result with
        | error error => exact absurd haccepted Bool.false_ne_true
        | ok value => exact ⟨after, rfl⟩
  · rintro ⟨after, rfl⟩
    rfl

namespace JsepTransport

variable [DecidableEq T]

/-! ## ICE parameters -/

/-- The ICE parameters that a call hands to an ICE transport, for this side or for the
peer. -/
def pushedIce (source : ContentSource) (iceTransport : T) : JsepCall T → Option IceParameters
  | .setIceParameters transport parameters =>
      if source = .csLocal ∧ transport = iceTransport then some parameters else none
  | .setRemoteIceParameters transport parameters =>
      if source = .csRemote ∧ transport = iceTransport then some parameters else none
  | .setRemoteIceMode _ _ | .setDtlsRole _ _ | .setRemoteFingerprint _ _
  | .rtcpMuxActiveCallback => none

/-- The ICE parameters that an ICE transport has been given last. -/
def iceParametersOf (transport : JsepTransport T) (source : ContentSource)
    (iceTransport : T) : Option IceParameters :=
  (transport.calls.filterMap (pushedIce source iceTransport)).getLast?

theorem iceParametersOf_append {before after : JsepTransport T} {calls : List (JsepCall T)}
    (hcalls : after.calls = before.calls ++ calls) (source : ContentSource)
    (iceTransport : T) :
    after.iceParametersOf source iceTransport =
      ((calls.filterMap (pushedIce source iceTransport)).getLast?).or
        (before.iceParametersOf source iceTransport) := by
  rw [iceParametersOf, hcalls, List.filterMap_append, List.getLast?_append, iceParametersOf]

theorem pushedIce_of_dtlsParameter {each : JsepCall T} (hparameter : DtlsParameter each)
    (source : ContentSource) (iceTransport : T) : pushedIce source iceTransport each = none := by
  cases each with
  | setDtlsRole => rfl
  | setRemoteFingerprint => rfl
  | setIceParameters => exact hparameter.elim
  | setRemoteIceParameters => exact hparameter.elim
  | setRemoteIceMode => exact hparameter.elim
  | rtcpMuxActiveCallback => exact hparameter.elim

/-- Calls that push the same parameters to each of some transports. -/
theorem pushes_eq_replicate {source : ContentSource} {iceTransport : T}
    {parameters : IceParameters} {push : T → List (JsepCall T)}
    (hpush : ∀ each, (push each).filterMap (pushedIce source iceTransport) =
      if each = iceTransport then [parameters] else [])
    (transports : List T) :
    (transports.flatMap push).filterMap (pushedIce source iceTransport) =
      List.replicate (transports.count iceTransport) parameters := by
  induction transports with
  | nil => rfl
  | cons head tail ih =>
      rw [List.flatMap_cons, List.filterMap_append, hpush, ih]
      by_cases hhead : head = iceTransport
      · rw [if_pos hhead, hhead, List.count_cons_self, List.replicate_succ, List.singleton_append]
      · rw [if_neg hhead, List.count_cons_of_ne hhead, List.nil_append]

theorem icePushes_eq_replicate (transport : JsepTransport T) (source : ContentSource)
    (description : JsepTransportDescription) (iceTransport : T) :
    (transport.icePushes source description).filterMap (pushedIce source iceTransport) =
      List.replicate (transport.dtlsTransports.count iceTransport)
        description.transportDesc.iceParameters := by
  cases source with
  | csLocal =>
      simp only [icePushes, List.map_eq_flatMap]
      apply pushes_eq_replicate
      intro each
      by_cases heach : each = iceTransport <;> simp [pushedIce, heach]
  | csRemote =>
      simp only [icePushes]
      apply pushes_eq_replicate
      intro each
      by_cases heach : each = iceTransport <;> simp [pushedIce, heach]

theorem icePushes_of_other (transport : JsepTransport T) {source pushed : ContentSource}
    (hother : pushed ≠ source) (description : JsepTransportDescription) (iceTransport : T) :
    (transport.icePushes source description).filterMap (pushedIce pushed iceTransport) = [] := by
  rw [List.filterMap_eq_nil_iff]
  intro each heach
  cases source with
  | csLocal =>
      obtain ⟨given, -, rfl⟩ := List.mem_map.mp heach
      simp [pushedIce, hother]
  | csRemote =>
      obtain ⟨given, -, hgiven⟩ := List.mem_flatMap.mp heach
      rcases List.mem_pair.mp hgiven with rfl | rfl
      · simp [pushedIce, hother]
      · rfl

/-- A failed call has left the parameters of its description with the transports in use. -/
theorem Ended.iceParametersOf {inputs : JsepInputs T} {source : ContentSource}
    {description : JsepTransportDescription} {type : SdpType} {before after : JsepTransport T}
    {result : Except RtcError Unit}
    (hended : Ended inputs source description type before after result)
    (pushed : ContentSource) (iceTransport : T) :
    after.iceParametersOf pushed iceTransport =
      if pushed = source ∧ iceTransport ∈ before.dtlsTransports then
        some description.transportDesc.iceParameters
      else before.iceParametersOf pushed iceTransport := by
  obtain ⟨extra, hextra, hafter⟩ := hended.after_eq
  have hparameters : extra.filterMap (pushedIce pushed iceTransport) = [] := by
    rw [List.filterMap_eq_nil_iff]
    intro each heach
    exact pushedIce_of_dtlsParameter (hextra each heach) pushed iceTransport
  rw [iceParametersOf_append (congrArg JsepTransport.calls hafter), List.filterMap_append,
    hparameters, List.append_nil]
  by_cases hside : pushed = source
  · subst hside
    rw [icePushes_eq_replicate, List.getLast?_replicate]
    by_cases hused : iceTransport ∈ before.dtlsTransports
    · have hcount : before.dtlsTransports.count iceTransport ≠ 0 :=
        (List.count_pos_iff.mpr hused).ne'
      rw [if_neg hcount, if_pos ⟨rfl, hused⟩, Option.some_or]
    · rw [if_pos (List.count_eq_zero.mpr hused), if_neg (fun hboth => hused hboth.2),
        Option.none_or]
  · rw [icePushes_of_other before hside, if_neg (fun hboth => hside hboth.1),
      List.getLast?_nil, Option.none_or]

theorem MuxSet.iceParametersOf {source : ContentSource}
    {description : JsepTransportDescription} {type : SdpType} {before after : JsepTransport T}
    (hset : MuxSet description type source before after) (pushed : ContentSource)
    (iceTransport : T) :
    after.iceParametersOf pushed iceTransport = before.iceParametersOf pushed iceTransport := by
  rw [iceParametersOf_append (congrArg JsepTransport.calls hset.rest)]
  cases before.activates description type source <;> rfl

/-! ## All or nothing -/

/-- Of all that a call may change, nothing has. -/
structure Unchanged (before after : JsepTransport T) : Prop where
  rtcpMuxNegotiator : after.rtcpMuxNegotiator = before.rtcpMuxNegotiator
  rtcpMuxEnabled : after.rtpTransport.rtp.rtcpMuxEnabled =
    before.rtpTransport.rtp.rtcpMuxEnabled
  rtcpDtlsTransport : after.rtcpDtlsTransport = before.rtcpDtlsTransport
  localCertificate : after.localCertificate = before.localCertificate
  ownDescription : ∀ source, after.ownDescription source = before.ownDescription source
  iceParametersOf : ∀ source iceTransport,
    after.iceParametersOf source iceTransport = before.iceParametersOf source iceTransport

theorem Unchanged.refl (transport : JsepTransport T) : Unchanged transport transport :=
  ⟨rfl, rfl, rfl, rfl, fun _ => rfl, fun _ _ => rfl⟩

section Calls

variable (api : JsepApi) (inputs : JsepInputs T) (source : ContentSource)
  (description : JsepTransportDescription) (type : SdpType) (transport : JsepTransport T)

def Accepts : Prop :=
  accepted (transport.setDescription inputs api source description type) = true

/-- If the call returns an error, nothing has changed, and a corrected description of the
same type is accepted where it would have been accepted before. -/
def Atomic : Prop :=
  ∀ after error, transport.setDescription inputs api source description type =
      .ok (after, .error error) →
    Unchanged transport after ∧
      ∀ corrected correctedInputs,
        transport.Accepts api correctedInputs source corrected type →
          after.Accepts api correctedInputs source corrected type

/-- Rtcp-mux is as the call is going to set it. -/
structure MuxSettled : Prop where
  rtcpMuxNegotiator : (transport.negotiated description type source).1 =
    transport.rtcpMuxNegotiator
  rtcpMuxEnabled : (transport.negotiated description type source).1.isActive =
    transport.rtpTransport.rtp.rtcpMuxEnabled
  rtcpDtlsTransport : transport.rtcpAfterMux description type source =
    transport.rtcpDtlsTransport

/-- The rest of the call is going to change nothing either: there is no description of this
side to reset, no certificate to drop, and the ICE parameters are the old ones. -/
structure DescriptionSettled : Prop where
  ownDescription : transport.ownDescription source = none
  localCertificate : transport.keptCertificate source description = transport.localCertificate
  iceParametersOf : ∀ iceTransport ∈ transport.dtlsTransports,
    transport.iceParametersOf source iceTransport =
      some description.transportDesc.iceParameters

/-- The ICE parameters are valid and the flag is accepted. -/
def PassesMux : Prop :=
  api.validate description.transportDesc.iceParameters = none ∧
    (transport.negotiated description type source).2 = true

/-- Wherever the call is going to fail, it has nothing to change before that. -/
structure NothingToUndo : Prop where
  invalid : api.validate description.transportDesc.iceParameters ≠ none →
    source = .csRemote → transport.remoteDescription = none
  sdes : transport.PassesMux api source description type →
    transport.rtpTransport.isSdes = true →
    transport.MuxSettled source description type
  misfits : transport.PassesMux api source description type →
    transport.rtpTransport.isSdes = false → transport.Misfits api source description →
    transport.MuxSettled source description type ∧ transport.ownDescription source = none
  disagreed : transport.PassesMux api source description type →
    transport.rtpTransport.isSdes = false → transport.Fits api source description →
    ¬ transport.Agreeable inputs source description type
      (transport.rtcpAfterMux description type source) →
    transport.MuxSettled source description type ∧
      transport.DescriptionSettled source description

end Calls

/-! ## What is accepted -/

section Accepted

variable {api : JsepApi} {source : ContentSource} {description : JsepTransportDescription}
  {type : SdpType}

omit [DecidableEq T] in
theorem MuxSet.fits_iff {before after : JsepTransport T}
    (hset : MuxSet description type source before after) :
    after.Fits api source description ↔ before.Fits api source description := by
  simp only [Fits, hset.localCertificate]

omit [DecidableEq T] in
theorem MuxSet.misfits_iff {before after : JsepTransport T}
    (hset : MuxSet description type source before after) :
    after.Misfits api source description ↔ before.Misfits api source description := by
  simp only [Misfits, hset.localCertificate]

omit [DecidableEq T] in
theorem agreeable_congr {inputs : JsepInputs T} {first second : JsepTransport T}
    (hsame : ∀ side, first.ownDescription side = second.ownDescription side)
    (rtcpDtlsTransport : Option T) :
    first.Agreeable inputs source description type rtcpDtlsTransport ↔
      second.Agreeable inputs source description type rtcpDtlsTransport := by
  have hlocal : first.localDescription = second.localDescription := hsame .csLocal
  have hremote : first.remoteDescription = second.remoteDescription := hsame .csRemote
  cases source with
  | csLocal => simp only [Agreeable, withDescription, hremote]
  | csRemote => simp only [Agreeable, withDescription, hlocal]

omit [DecidableEq T] in
theorem MuxSet.agreeable_iff {inputs : JsepInputs T} {before after : JsepTransport T}
    (hset : MuxSet description type source before after) :
    after.Agreeable inputs source description type after.rtcpDtlsTransport ↔
      before.Agreeable inputs source description type
        (before.rtcpAfterMux description type source) := by
  rw [hset.rtcpDtlsTransport]
  exact agreeable_congr hset.ownDescription _

omit [DecidableEq T] in
/-- When the last part of a call returns OK. -/
theorem accepted_applyDescription_iff {inputs : JsepInputs T} (transport : JsepTransport T) :
    accepted (transport.applyDescription inputs api source description type) = true ↔
      transport.Fits api source description ∧
        transport.Agreeable inputs source description type transport.rtcpDtlsTransport := by
  rw [accepted_iff]
  by_cases hfits : transport.Fits api source description
  · obtain ⟨after, result, hok, hended⟩ :=
      @applyDescription_of_fits T inputs transport api source description type hfits
    simp [hok, hfits, hended.accepted]
  · by_cases hmisfits : transport.Misfits api source description
    · obtain ⟨error, hok⟩ :=
        @applyDescription_of_misfits T inputs transport api source description type hmisfits
      simp [hok, hfits]
    · obtain ⟨abort, herror⟩ :=
        @applyDescription_aborts T inputs transport api source description type hfits hmisfits
      simp [herror, hfits]

/-- When a call returns OK. -/
theorem accepts_iff (inputs : JsepInputs T) (transport : JsepTransport T) :
    transport.Accepts api inputs source description type ↔
      transport.PassesMux api source description type ∧
        transport.rtpTransport.isSdes = false ∧ transport.Fits api source description ∧
        transport.Agreeable inputs source description type
          (transport.rtcpAfterMux description type source) := by
  have hcourse := @course_setDescription T inputs transport _ api source description type
  rw [Accepts]
  generalize transport.setDescription inputs api source description type = outcome at hcourse ⊢
  cases hcourse with
  | invalid message hinvalid => simp [accepted, PassesMux, hinvalid]
  | refused hvalid hrefused => simp [accepted, PassesMux, hrefused]
  | sdes hvalid haccepted hsdes => simp [accepted, hsdes]
  | applied hvalid haccepted hsdes muxed hset =>
      rw [accepted_applyDescription_iff, hset.fits_iff, hset.agreeable_iff]
      simp [PassesMux, hvalid, haccepted, hsdes]

/-- What is accepted depends on nothing but the unchanged parts. -/
theorem Unchanged.accepts {inputs : JsepInputs T} {before after : JsepTransport T}
    (hunchanged : Unchanged before after)
    (hsdes : after.rtpTransport.isSdes = before.rtpTransport.isSdes)
    (haccepts : before.Accepts api inputs source description type) :
    after.Accepts api inputs source description type := by
  have hnegotiated : after.negotiated description type source =
      before.negotiated description type source := by
    rw [negotiated, hunchanged.rtcpMuxNegotiator, negotiated]
  have hrtcp : after.rtcpAfterMux description type source =
      before.rtcpAfterMux description type source := by
    rw [rtcpAfterMux, activates, hnegotiated, hunchanged.rtcpDtlsTransport, rtcpAfterMux,
      activates]
  rw [accepts_iff] at haccepts ⊢
  obtain ⟨⟨hvalid, hmux⟩, hnone, hfits, hagreeable⟩ := haccepts
  constructor
  · exact ⟨hvalid, by rw [hnegotiated, hmux]⟩
  · constructor
    · exact hsdes.trans hnone
    · constructor
      · simpa only [Fits, hunchanged.localCertificate] using hfits
      · rw [hrtcp]
        exact (agreeable_congr hunchanged.ownDescription _).mpr hagreeable

end Accepted

/-! ## What a failed call has changed -/

section Failed

variable {source : ContentSource} {description : JsepTransportDescription} {type : SdpType}
  {before muxed after : JsepTransport T}

/-- When what follows leaves rtcp-mux alone, rtcp-mux is unchanged if it has been settled. -/
theorem muxSettled_of_unchanged (hset : MuxSet description type source before muxed)
    (hsame : SameMux muxed after) (hunchanged : Unchanged before after) :
    before.MuxSettled source description type := by
  constructor
  · rw [← hset.rtcpMuxNegotiator, ← hsame.rtcpMuxNegotiator]
    exact hunchanged.rtcpMuxNegotiator
  · rw [← hset.rtcpMuxEnabled, ← hsame.rtpTransport.rtcpMuxEnabled]
    exact hunchanged.rtcpMuxEnabled
  · rw [← hset.rtcpDtlsTransport, ← hsame.rtcpDtlsTransport]
    exact hunchanged.rtcpDtlsTransport

/-- Once rtcp-mux has been settled, what remains is the rest of the call. -/
theorem MuxSettled.unchanged (hsettled : before.MuxSettled source description type)
    (hset : MuxSet description type source before muxed) (hsame : SameMux muxed after)
    (hcertificate : after.localCertificate = before.localCertificate)
    (hdescriptions : ∀ side, after.ownDescription side = before.ownDescription side)
    (hice : ∀ side iceTransport,
      after.iceParametersOf side iceTransport = before.iceParametersOf side iceTransport) :
    Unchanged before after where
  rtcpMuxNegotiator :=
    calc
      after.rtcpMuxNegotiator = muxed.rtcpMuxNegotiator := hsame.rtcpMuxNegotiator
      _ = (before.negotiated description type source).1 := hset.rtcpMuxNegotiator
      _ = before.rtcpMuxNegotiator := hsettled.rtcpMuxNegotiator
  rtcpMuxEnabled :=
    calc
      after.rtpTransport.rtp.rtcpMuxEnabled = muxed.rtpTransport.rtp.rtcpMuxEnabled :=
        hsame.rtpTransport.rtcpMuxEnabled
      _ = (before.negotiated description type source).1.isActive := hset.rtcpMuxEnabled
      _ = before.rtpTransport.rtp.rtcpMuxEnabled := hsettled.rtcpMuxEnabled
  rtcpDtlsTransport :=
    calc
      after.rtcpDtlsTransport = muxed.rtcpDtlsTransport := hsame.rtcpDtlsTransport
      _ = before.rtcpAfterMux description type source := hset.rtcpDtlsTransport
      _ = before.rtcpDtlsTransport := hsettled.rtcpDtlsTransport
  localCertificate := hcertificate
  ownDescription := hdescriptions
  iceParametersOf := hice

theorem unchanged_muxSet_iff (hset : MuxSet description type source before muxed) :
    Unchanged before muxed ↔ before.MuxSettled source description type := by
  constructor
  · exact muxSettled_of_unchanged hset (SameMux.refl muxed)
  · intro hsettled
    exact hsettled.unchanged hset (SameMux.refl muxed) hset.localCertificate
      hset.ownDescription hset.iceParametersOf

omit [DecidableEq T] in
/-- A reset description is unchanged if there was none. -/
theorem ownDescription_reset_iff (transport : JsepTransport T) (source : ContentSource) :
    (∀ side, (transport.withDescription source none).ownDescription side =
      transport.ownDescription side) ↔ transport.ownDescription source = none := by
  constructor
  · intro hsame
    rw [← hsame source, ownDescription_withDescription, if_pos rfl]
  · intro hnone side
    rw [ownDescription_withDescription]
    split_ifs with hside
    · rw [hside, hnone]
    · rfl

theorem iceParametersOf_withDescription (transport : JsepTransport T)
    (source : ContentSource) (description : Option JsepTransportDescription)
    (side : ContentSource) (iceTransport : T) :
    (transport.withDescription source description).iceParametersOf side iceTransport =
      transport.iceParametersOf side iceTransport := by
  cases source <;> rfl

theorem unchanged_reset_iff (hset : MuxSet description type source before muxed) :
    Unchanged before (muxed.withDescription source none) ↔
      before.MuxSettled source description type ∧ before.ownDescription source = none := by
  have hsame := sameMux_withDescription muxed source none
  have hreset := ownDescription_reset_iff muxed source
  simp only [hset.ownDescription] at hreset
  constructor
  · intro hunchanged
    exact ⟨muxSettled_of_unchanged hset hsame hunchanged,
      hreset.mp hunchanged.ownDescription⟩
  · rintro ⟨hsettled, hnone⟩
    apply hsettled.unchanged hset hsame
    · rw [localCertificate_withDescription, hset.localCertificate]
    · exact hreset.mpr hnone
    · intro side iceTransport
      rw [iceParametersOf_withDescription, hset.iceParametersOf]

omit [DecidableEq T] in
theorem MuxSet.keptCertificate (hset : MuxSet description type source before muxed) :
    muxed.keptCertificate source description = before.keptCertificate source description := by
  simp only [JsepTransport.keptCertificate, hset.localCertificate]

/-- A call that fails at the end. -/
theorem unchanged_ended_iff {inputs : JsepInputs T} {error : RtcError}
    (hset : MuxSet description type source before muxed)
    (hended : Ended inputs source description type muxed after (.error error)) :
    Unchanged before after ↔
      before.MuxSettled source description type ∧
        before.DescriptionSettled source description := by
  have hsame := hended.sameMux
  have hreset := ownDescription_reset_iff muxed source
  simp only [hset.ownDescription] at hreset
  have hice := hended.iceParametersOf
  obtain ⟨extra, -, hafter⟩ := hended.after_eq
  have hdescription : ∀ side,
      after.ownDescription side = (muxed.withDescription source none).ownDescription side := by
    intro side
    rw [hafter]
    cases side <;> rfl
  have hcertificate : after.localCertificate = before.keptCertificate source description := by
    rw [hafter, ← hset.keptCertificate]
  constructor
  · intro hunchanged
    have hsettled := muxSettled_of_unchanged hset hsame hunchanged
    refine ⟨hsettled, ⟨hreset.mp fun side => ?_, ?_, fun iceTransport hused => ?_⟩⟩
    · rw [← hdescription, hunchanged.ownDescription]
    · rw [← hcertificate, hunchanged.localCertificate]
    · have hmuxed : iceTransport ∈ muxed.dtlsTransports := by
        rw [hset.dtlsTransports, hsettled.rtcpDtlsTransport]
        exact hused
      rw [← hunchanged.iceParametersOf, hice, if_pos ⟨rfl, hmuxed⟩]
  · rintro ⟨hsettled, hrest⟩
    apply hsettled.unchanged hset hsame
    · rw [hcertificate, hrest.localCertificate]
    · intro side
      rw [hdescription]
      exact hreset.mpr hrest.ownDescription side
    · intro side iceTransport
      rw [hice, hset.iceParametersOf]
      split_ifs with hpushed
      · obtain ⟨rfl, hused⟩ := hpushed
        rw [hset.dtlsTransports, hsettled.rtcpDtlsTransport] at hused
        exact (hrest.iceParametersOf iceTransport hused).symm
      · rfl

end Failed

/-! ## When a call is all or nothing -/

section Atomic

variable {api : JsepApi} {inputs : JsepInputs T} {source : ContentSource}
  {description : JsepTransportDescription} {type : SdpType} {transport : JsepTransport T}

theorem isSdes_setDescription {after : JsepTransport T} {result : Except RtcError Unit}
    (hset : transport.setDescription inputs api source description type =
      .ok (after, result)) :
    after.rtpTransport.isSdes = transport.rtpTransport.isSdes := by
  rcases setDescription_mux hset with hsame | ⟨muxed, -, hmuxed, hsame⟩
  · exact hsame.rtpTransport.isSdes
  · exact hsame.rtpTransport.isSdes.trans hmuxed.isSdes

/-- The second part of atomicity follows from the first. -/
theorem atomic_iff_unchanged :
    transport.Atomic api inputs source description type ↔
      ∀ after error, transport.setDescription inputs api source description type =
        .ok (after, .error error) → Unchanged transport after := by
  constructor
  · intro hatomic after error hfailed
    exact (hatomic after error hfailed).1
  · intro hall after error hfailed
    have hunchanged := hall after error hfailed
    exact ⟨hunchanged, fun _ _ => hunchanged.accepts (isSdes_setDescription hfailed)⟩

theorem atomic_of_failed {after : JsepTransport T} {error : RtcError}
    (hfailed : transport.setDescription inputs api source description type =
      .ok (after, .error error)) :
    transport.Atomic api inputs source description type ↔ Unchanged transport after := by
  rw [atomic_iff_unchanged]
  constructor
  · intro hall
    exact hall after error hfailed
  · intro hunchanged other _ hother
    obtain ⟨rfl, -⟩ := Prod.mk.inj (Except.ok.inj (hfailed.symm.trans hother))
    exact hunchanged

theorem unchanged_afterInvalid_iff :
    Unchanged transport (transport.afterInvalid source) ↔
      (source = .csRemote → transport.remoteDescription = none) := by
  cases source with
  | csLocal => exact iff_of_true (Unchanged.refl transport) (fun hremote => nomatch hremote)
  | csRemote =>
      constructor
      · intro hunchanged _
        exact (hunchanged.ownDescription .csRemote).symm
      · intro hnone
        have hreset := (ownDescription_reset_iff transport .csRemote).mpr (hnone rfl)
        exact ⟨rfl, rfl, rfl, rfl, hreset, fun _ _ => rfl⟩

theorem atomic_iff_of_invalid {message : String}
    (hinvalid : api.validate description.transportDesc.iceParameters = some message) :
    transport.Atomic api inputs source description type ↔
      transport.NothingToUndo api inputs source description type := by
  have hpasses : ¬ transport.PassesMux api source description type := fun hpasses =>
    absurd (hinvalid.symm.trans hpasses.1) (by simp)
  rw [atomic_of_failed (setDescription_of_invalid inputs transport hinvalid),
    unchanged_afterInvalid_iff]
  constructor
  · intro hnone
    exact ⟨fun _ => hnone, fun hmux => absurd hmux hpasses, fun hmux => absurd hmux hpasses,
      fun hmux => absurd hmux hpasses⟩
  · intro hnothing
    exact hnothing.invalid (by simp [hinvalid])

theorem atomic_iff_of_refused
    (hvalid : api.validate description.transportDesc.iceParameters = none)
    (hrefused : (transport.negotiated description type source).2 = false) :
    transport.Atomic api inputs source description type ↔
      transport.NothingToUndo api inputs source description type := by
  have hpasses : ¬ transport.PassesMux api source description type := fun hpasses =>
    absurd (hrefused.symm.trans hpasses.2) Bool.false_ne_true
  rw [atomic_of_failed (setDescription_of_refused inputs transport hvalid hrefused)]
  apply iff_of_true (Unchanged.refl transport)
  exact ⟨fun hinvalid => absurd hvalid hinvalid, fun hmux => absurd hmux hpasses,
    fun hmux => absurd hmux hpasses, fun hmux => absurd hmux hpasses⟩

theorem atomic_iff_of_sdes (hpasses : transport.PassesMux api source description type)
    (hsdes : transport.rtpTransport.isSdes = true) :
    transport.Atomic api inputs source description type ↔
      transport.NothingToUndo api inputs source description type := by
  obtain ⟨muxed, hset, hfailed⟩ :=
    setDescription_of_sdes inputs transport hpasses.1 hpasses.2 hsdes
  rw [atomic_of_failed hfailed, unchanged_muxSet_iff hset]
  constructor
  · intro hsettled
    exact ⟨fun hinvalid => absurd hpasses.1 hinvalid, fun _ _ => hsettled,
      fun _ hnot => absurd (hsdes.symm.trans hnot) (by simp),
      fun _ hnot => absurd (hsdes.symm.trans hnot) (by simp)⟩
  · intro hnothing
    exact hnothing.sdes hpasses hsdes

/-- Past the encrypted header extension ids two ways of failing are left. -/
theorem nothingToUndo_iff_of_passes (hpasses : transport.PassesMux api source description type)
    (hsdes : transport.rtpTransport.isSdes = false) :
    transport.NothingToUndo api inputs source description type ↔
      (transport.Misfits api source description →
        transport.MuxSettled source description type ∧ transport.ownDescription source = none) ∧
      (transport.Fits api source description →
        ¬ transport.Agreeable inputs source description type
          (transport.rtcpAfterMux description type source) →
        transport.MuxSettled source description type ∧
          transport.DescriptionSettled source description) := by
  constructor
  · intro hnothing
    exact ⟨hnothing.misfits hpasses hsdes, hnothing.disagreed hpasses hsdes⟩
  · rintro ⟨hmisfits, hdisagreed⟩
    exact ⟨fun hinvalid => absurd hpasses.1 hinvalid,
      fun _ hyes => absurd (hsdes.symm.trans hyes) (by simp), fun _ _ => hmisfits,
      fun _ _ => hdisagreed⟩

omit [DecidableEq T] in
theorem Misfits.not_fits (hmisfits : transport.Misfits api source description) :
    ¬ transport.Fits api source description := by
  intro hfits
  obtain ⟨hlocal, fingerprint, error, hfingerprint, hverify⟩ := hmisfits
  exact absurd (hverify.symm.trans (hfits hlocal fingerprint hfingerprint)) (by simp)

theorem atomic_iff_of_accepted (hpasses : transport.PassesMux api source description type)
    (hsdes : transport.rtpTransport.isSdes = false) :
    transport.Atomic api inputs source description type ↔
      transport.NothingToUndo api inputs source description type := by
  obtain ⟨muxed, hset, happly⟩ :=
    setDescription_of_accepted inputs transport hpasses.1 hpasses.2 hsdes
  rw [nothingToUndo_iff_of_passes hpasses hsdes, ← hset.fits_iff, ← hset.misfits_iff,
    ← hset.agreeable_iff]
  by_cases hmisfits : muxed.Misfits api source description
  · obtain ⟨error, hreset⟩ :=
      @applyDescription_of_misfits T inputs muxed api source description type hmisfits
    rw [atomic_of_failed (happly.trans hreset), unchanged_reset_iff hset]
    constructor
    · intro hunchanged
      exact ⟨fun _ => hunchanged, fun hfits => absurd hfits hmisfits.not_fits⟩
    · intro hnothing
      exact hnothing.1 hmisfits
  · by_cases hfits : muxed.Fits api source description
    · obtain ⟨after, result, hok, hended⟩ :=
        @applyDescription_of_fits T inputs muxed api source description type hfits
      cases result with
      | error error =>
          have hdisagree : ¬ muxed.Agreeable inputs source description type
              muxed.rtcpDtlsTransport := fun hagree =>
            absurd (hended.accepted.mpr hagree) (by simp)
          rw [atomic_of_failed (happly.trans hok), unchanged_ended_iff hset hended]
          constructor
          · intro hunchanged
            exact ⟨fun hmisfit => absurd hmisfit hmisfits, fun _ _ => hunchanged⟩
          · intro hnothing
            exact hnothing.2 hfits hdisagree
      | ok value =>
          have hagree := hended.accepted.mp rfl
          rw [atomic_iff_unchanged, happly, hok]
          apply iff_of_true
          · intro other error hfailed
            exact absurd (Prod.mk.inj (Except.ok.inj hfailed)).2 (by simp)
          · exact ⟨fun hmisfit => absurd hmisfit hmisfits,
              fun _ hdisagree => absurd hagree hdisagree⟩
    · -- the process ends: there is no error to return
      obtain ⟨abort, haborts⟩ :=
        @applyDescription_aborts T inputs muxed api source description type hfits hmisfits
      rw [atomic_iff_unchanged, happly, haborts]
      apply iff_of_true
      · intro other error hfailed
        exact absurd hfailed (by simp)
      · exact ⟨fun hmisfit => absurd hmisfit hmisfits, fun hfit => absurd hfit hfits⟩

/-- One call, from any state. -/
theorem atomic_iff :
    transport.Atomic api inputs source description type ↔
      transport.NothingToUndo api inputs source description type := by
  cases hvalid : api.validate description.transportDesc.iceParameters with
  | some message => exact atomic_iff_of_invalid hvalid
  | none =>
      cases hmux : (transport.negotiated description type source).2 with
      | false => exact atomic_iff_of_refused hvalid hmux
      | true =>
          cases hsdes : transport.rtpTransport.isSdes with
          | true => exact atomic_iff_of_sdes ⟨hvalid, hmux⟩ hsdes
          | false => exact atomic_iff_of_accepted ⟨hvalid, hmux⟩ hsdes

end Atomic

/-! ## Runs -/

section Runs

variable (api : JsepApi)

def AtomicEvent (transport : JsepTransport T) : JsepEvent T → Prop
  | .setDescription source description type inputs =>
      transport.Atomic api inputs source description type
  | .update _ => True

def UndoesNothing (transport : JsepTransport T) : JsepEvent T → Prop
  | .setDescription source description type inputs =>
      transport.NothingToUndo api inputs source description type
  | .update _ => True

/-- In every run, from any state, the calls are all or nothing exactly if each that is going
to fail has nothing to change before it does. -/
theorem descriptionCalls_atomic_iff (transport : JsepTransport T)
    (events : List (JsepEvent T)) :
    Guarded (step api) (AtomicEvent api) transport events ↔
      Guarded (step api) (UndoesNothing api) transport events := by
  apply guarded_congr
  intro state event
  cases event with
  | setDescription source description type inputs => exact atomic_iff
  | update update => exact Iff.rfl

end Runs

/-! ## An answer that cannot be repeated -/

/-- The call has returned an error and left a transport that passes the check. -/
def refuses (check : JsepTransport T → Bool) : Except JsepAbort (JsepResult T) → Bool
  | .ok (after, .error _) => check after
  | .ok (_, .ok ()) | .error _ => false

omit [DecidableEq T] in
theorem exists_of_refuses {check : JsepTransport T → Bool}
    {outcome : Except JsepAbort (JsepResult T)} (hrefuses : refuses check outcome = true) :
    ∃ after error, outcome = .ok (after, .error error) ∧ check after = true := by
  cases outcome with
  | error abort => exact absurd hrefuses Bool.false_ne_true
  | ok result =>
      obtain ⟨after, result⟩ := result
      cases result with
      | error error => exact ⟨after, error, rfl, hrefuses⟩
      | ok value => exact absurd hrefuses Bool.false_ne_true

/-- An answer without rtcp-mux. -/
def unmuxedAnswer (role : ConnectionRole) : JsepTransportDescription :=
  { (sampleProposal [2] role).description with rtcpMuxEnabled := false }

/-- The answerer may not leave its DTLS role open.  By then the negotiator has taken the
answer, and does not take a corrected one. -/
theorem failedAnswer_not_undone :
    ∃ offered after error,
      run (step sampleApi) sampleTransport
        [sampleCall .csLocal .offer (sampleProposal [1] .actpass)] = some (.ok offered) ∧
      offered.setDescription {} sampleApi .csRemote (unmuxedAnswer .actpass) .answer =
        .ok (after, .error error) ∧
      ¬ Unchanged offered after ∧
      offered.Accepts sampleApi {} .csRemote (unmuxedAnswer .active) .answer ∧
      ¬ after.Accepts sampleApi {} .csRemote (unmuxedAnswer .active) .answer := by
  let repeated (transport : JsepTransport ℕ) : Bool :=
    accepted (transport.setDescription {} sampleApi .csRemote (unmuxedAnswer .active) .answer)
  have hreaches : reaches (fun offered => repeated offered && refuses (fun after => !repeated after)
      (offered.setDescription {} sampleApi .csRemote (unmuxedAnswer .actpass) .answer))
      (run (step sampleApi) sampleTransport
        [sampleCall .csLocal .offer (sampleProposal [1] .actpass)]) = true := rfl
  obtain ⟨offered, hrun, hchecks⟩ := exists_of_reaches _ hreaches
  rw [Bool.and_eq_true] at hchecks
  obtain ⟨after, error, hfailed, hrefused⟩ := exists_of_refuses hchecks.2
  have haccepts : offered.Accepts sampleApi {} .csRemote (unmuxedAnswer .active) .answer :=
    hchecks.1
  have hrefuses : ¬ after.Accepts sampleApi {} .csRemote (unmuxedAnswer .active) .answer := by
    intro hagain
    rw [Bool.not_eq_true'] at hrefused
    exact absurd (hagain.symm.trans hrefused) (by simp)
  refine ⟨offered, after, error, hrun, hfailed, ?_, haccepts, hrefuses⟩
  intro hunchanged
  exact hrefuses (hunchanged.accepts (isSdes_setDescription hfailed) haccepts)

end JsepTransport

end PeerConnection.Jsep
