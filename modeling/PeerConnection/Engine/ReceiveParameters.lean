import PeerConnection.Engine.ChannelSteps
import PeerConnection.Engine.CodecSelection
import PeerConnection.Engine.GeneratedCodecs

/-!
# The receive parameters of a video channel

`SetRecvParameters` writes what has changed only, and codecs in another order have not changed.
The receive side is nevertheless that of the last accepted parameters, up to that order, and a
peer whose decoders cover the encoders of another one accepts what that one offers.
-/

namespace PeerConnection.Engine

open PeerConnection.Text
open PeerConnection.Sorting
open PeerConnection.Scan

/-- What the receive side calls in addition.  `decoderFormats` is what the decoder factory
supports, `none` for a null factory, and `sortCodecs` is `absl::c_sort` with the comparison of
`NonFlexfecReceiveCodecsHaveChanged`. -/
structure ReceiveApi extends EngineApi where
  decoderFormats : Option (List SdpVideoFormat)
  findMatchingCodec : List VideoCodec → VideoCodec → Option VideoCodec
  sortCodecs : List VideoCodecSettings → List VideoCodecSettings

/-- `libmedia_transfer_protocol::VideoRecvParameters`. -/
structure VideoRecvParameters where
  codecs : List VideoCodec := []
  extensions : List RtpExtension := []
  isStreamActive : Bool := true
  deriving DecidableEq

/-- `ChangedRecvParameters`: what is unset has not changed. -/
structure ChangedRecvParameters where
  codecSettings : Option (List VideoCodecSettings) := none
  rtpHeaderExtensions : Option (List RtpExtension) := none
  flexfecPayloadType : Option ℤ := none
  deriving DecidableEq

/-- The members of `WebRtcVideoChannel` for receiving.  Receive streams are never added, so
that the loop over them does nothing. -/
structure ReceiveSide where
  recvCodecs : List VideoCodecSettings := []
  recvFlexfecPayloadType : ℤ := 0
  recvRtpExtensions : List RtpExtension := []
  recvParams : VideoRecvParameters := {}
  deriving DecidableEq

/-- The libraries with these decoders. -/
def webrtcReceiveApi (decoders : List SdpVideoFormat) : ReceiveApi where
  toEngineApi := { webrtcEngineApi [] with
    validateCodecFormat := fun codec =>
      decide (0 ≤ codec.id ∧ codec.id ≤ 127) &&
        (codecTypeOfName codec.name ≠ .video || codecFormatValid codec) }
  decoderFormats := some decoders
  findMatchingCodec supportedCodecs codec :=
    supportedCodecs.find? fun other => equalsIgnoreCase codec.name other.name
  sortCodecs := List.insertionSort fun left right => -left.codec.id ≤ -right.codec.id

namespace ReceiveSide

section Definitions

variable (api : ReceiveApi)

/-- `WebRtcVideoEngine::recv_codecs`. -/
def localCodecs : List VideoCodec :=
  getPayloadTypesAndDefaultCodecs api.toVideoCodecApi api.decoderFormats

/-- What the constructor of the channel sets. -/
def create : ReceiveSide where
  recvCodecs := mapCodecs api.toVideoCodecApi (localCodecs api)
  recvFlexfecPayloadType :=
    match mapCodecs api.toVideoCodecApi (localCodecs api) with
    | [] => 0
    | front :: _ => front.flexfecPayloadType

/-- Every mapped codec is supported locally. -/
def supportsAll (mappedCodecs : List VideoCodecSettings) : Bool :=
  mappedCodecs.all fun mappedCodec =>
    (api.findMatchingCodec (localCodecs api) mappedCodec.codec).isSome

/-- `GetChangedRecvParameters`; `none` when the parameters are refused. -/
def getChangedRecvParameters (side : ReceiveSide) (params : VideoRecvParameters) :
    Option ChangedRecvParameters :=
  if !validateCodecFormats api.toEngineApi params.codecs ||
      !validateRtpExtensions params.extensions then none
  else
    match mapCodecs api.toVideoCodecApi params.codecs with
    | [] => none
    | front :: rest =>
        if params.isStreamActive && !supportsAll api (front :: rest) then none
        else
          let filteredExtensions := filterRtpExtensions api.toEngineApi params.extensions
            api.isSupportedForVideo false
          some
            { codecSettings :=
                if nonFlexfecReceiveCodecsHaveChanged api.sortCodecs side.recvCodecs
                    (front :: rest) then some (front :: rest)
                else none
              rtpHeaderExtensions :=
                if filteredExtensions ≠ side.recvRtpExtensions then some filteredExtensions
                else none
              flexfecPayloadType :=
                if front.flexfecPayloadType ≠ side.recvFlexfecPayloadType then
                  some front.flexfecPayloadType
                else none }

def setRecvParameters (side : ReceiveSide) (params : VideoRecvParameters) :
    ReceiveSide × Bool :=
  match side.getChangedRecvParameters api params with
  | none => (side, false)
  | some changed =>
      ({ recvCodecs := changed.codecSettings.getD side.recvCodecs
         recvFlexfecPayloadType :=
           changed.flexfecPayloadType.getD side.recvFlexfecPayloadType
         recvRtpExtensions := changed.rtpHeaderExtensions.getD side.recvRtpExtensions
         recvParams := params }, true)

/-- One call after the other, with the answers. -/
def setAll (side : ReceiveSide) : List VideoRecvParameters → ReceiveSide × List Bool
  | [] => (side, [])
  | params :: rest =>
      let answered := side.setRecvParameters api params
      let final := setAll answered.1 rest
      (final.1, answered.2 :: final.2)

end Definitions

/-! ## The last accepted parameters -/

/-- The parameters pass the checks, which do not look at the channel. -/
structure Accepted (api : ReceiveApi) (params : VideoRecvParameters) : Prop where
  formats : validateCodecFormats api.toEngineApi params.codecs = true
  extensions : validateRtpExtensions params.extensions = true
  mapped : mapCodecs api.toVideoCodecApi params.codecs ≠ []
  supported : params.isStreamActive = true →
    supportsAll api (mapCodecs api.toVideoCodecApi params.codecs) = true

/-- The receive side is that of these parameters.  Codecs that were there already may stand in
another order and with an earlier FlexFEC payload type. -/
structure Reflects (api : ReceiveApi) (params : VideoRecvParameters) (side : ReceiveSide) :
    Prop where
  recorded : side.recvParams = params
  extensions : side.recvRtpExtensions =
    filterRtpExtensions api.toEngineApi params.extensions api.isSupportedForVideo false
  codecs : (side.recvCodecs.map disregardFlexfec).Perm
    ((mapCodecs api.toVideoCodecApi params.codecs).map disregardFlexfec)
  flexfec : ∀ settings ∈ mapCodecs api.toVideoCodecApi params.codecs,
    settings.flexfecPayloadType = side.recvFlexfecPayloadType
  supported : params.isStreamActive = true → ∀ settings ∈ side.recvCodecs,
    (api.findMatchingCodec (localCodecs api) settings.codec).isSome

variable {api : ReceiveApi} {side next : ReceiveSide} {params : VideoRecvParameters}

instance (api : ReceiveApi) (params : VideoRecvParameters) : Decidable (Accepted api params) :=
  decidable_of_iff
    (validateCodecFormats api.toEngineApi params.codecs = true ∧
      validateRtpExtensions params.extensions = true ∧
      mapCodecs api.toVideoCodecApi params.codecs ≠ [] ∧
      (params.isStreamActive = true →
        supportsAll api (mapCodecs api.toVideoCodecApi params.codecs) = true))
    ⟨fun hall => ⟨hall.1, hall.2.1, hall.2.2.1, hall.2.2.2⟩,
      fun haccepted => ⟨haccepted.formats, haccepted.extensions, haccepted.mapped,
        haccepted.supported⟩⟩

theorem getChangedRecvParameters_of_refused (hrefused : ¬ Accepted api params) :
    side.getChangedRecvParameters api params = none := by
  rw [getChangedRecvParameters]
  split_ifs with hinvalid
  · rfl
  · rw [Bool.or_eq_true, not_or, Bool.not_eq_true', Bool.not_eq_false, Bool.not_eq_true',
      Bool.not_eq_false] at hinvalid
    cases hmapped : mapCodecs api.toVideoCodecApi params.codecs with
    | nil => rfl
    | cons front rest =>
        apply if_pos
        rw [Bool.and_eq_true, Bool.not_eq_true']
        by_contra hsupported
        rw [not_and, Bool.not_eq_false] at hsupported
        refine hrefused ⟨hinvalid.1, hinvalid.2, by simp [hmapped], fun hactive => ?_⟩
        rw [hmapped]
        exact hsupported hactive

theorem getChangedRecvParameters_of_accepted (haccepted : Accepted api params)
    {front : VideoCodecSettings} {rest : List VideoCodecSettings}
    (hmapped : mapCodecs api.toVideoCodecApi params.codecs = front :: rest) :
    side.getChangedRecvParameters api params = some
      { codecSettings :=
          if nonFlexfecReceiveCodecsHaveChanged api.sortCodecs side.recvCodecs
              (front :: rest) then some (front :: rest)
          else none
        rtpHeaderExtensions :=
          if filterRtpExtensions api.toEngineApi params.extensions api.isSupportedForVideo false ≠
              side.recvRtpExtensions then
            some (filterRtpExtensions api.toEngineApi params.extensions
              api.isSupportedForVideo false)
          else none
        flexfecPayloadType :=
          if front.flexfecPayloadType ≠ side.recvFlexfecPayloadType then
            some front.flexfecPayloadType
          else none } := by
  have hsupported := haccepted.supported
  rw [hmapped] at hsupported
  rw [getChangedRecvParameters, if_neg (by simp [haccepted.formats, haccepted.extensions]), hmapped]
  simp only
  rw [if_neg]
  rw [Bool.and_eq_true, Bool.not_eq_true', not_and, Bool.not_eq_false]
  exact hsupported

theorem setRecvParameters_of_refused (hrefused : ¬ Accepted api params) :
    side.setRecvParameters api params = (side, false) := by
  rw [setRecvParameters, getChangedRecvParameters_of_refused hrefused]

/-- Codecs that have not changed are the same in some order. -/
theorem perm_of_not_changed (hsort : Sorts comparesBefore api.sortCodecs)
    {before after : List VideoCodecSettings}
    (hsame : nonFlexfecReceiveCodecsHaveChanged api.sortCodecs before after = false) :
    (before.map disregardFlexfec).Perm (after.map disregardFlexfec) := by
  rw [nonFlexfecReceiveCodecsHaveChanged, Bool.not_eq_false',
    isEqv_equalsDisregardingFlexfec_iff] at hsame
  have hafter := (hsort.perm after).map disregardFlexfec
  rw [← hsame] at hafter
  exact ((hsort.perm before).map disregardFlexfec).symm.trans hafter

/-- The FlexFEC payload type is joined into all settings. -/
theorem flexfecPayloadType_mapCodecs {codecs : List VideoCodec} {settings : VideoCodecSettings}
    (hsettings : settings ∈ mapCodecs api.toVideoCodecApi codecs) :
    settings.flexfecPayloadType =
      payloadTypeOf (firstOfType api.toVideoCodecApi .flexfec codecs) := by
  by_cases hmappable : Mappable api.toVideoCodecApi codecs
  · rw [mapCodecs_of_mappable hmappable] at hsettings
    obtain ⟨codec, -, rfl⟩ := List.mem_map.mp hsettings
    rfl
  · rw [mapCodecs_of_not_mappable hmappable] at hsettings
    exact absurd hsettings List.not_mem_nil

/-- A codec of one list is that of a setting in the other list. -/
theorem exists_codec_of_perm {left right : List VideoCodecSettings}
    (hperm : (left.map disregardFlexfec).Perm (right.map disregardFlexfec))
    {settings : VideoCodecSettings} (hmem : settings ∈ left) :
    ∃ other ∈ right, other.codec = settings.codec := by
  obtain ⟨other, hother, hsame⟩ := List.mem_map.mp
    (hperm.mem_iff.mp (List.mem_map_of_mem hmem))
  exact ⟨other, hother, congrArg (·.codec) hsame⟩

/-- Accepted parameters are reflected, whatever was there before. -/
theorem reflects_setRecvParameters (hsort : Sorts comparesBefore api.sortCodecs)
    (haccepted : Accepted api params) :
    ∃ next, side.setRecvParameters api params = (next, true) ∧ Reflects api params next := by
  cases hmapped : mapCodecs api.toVideoCodecApi params.codecs with
  | nil => exact absurd hmapped haccepted.mapped
  | cons front rest =>
      rw [setRecvParameters, getChangedRecvParameters_of_accepted haccepted hmapped]
      refine ⟨_, rfl, ?_⟩
      have hfront : front ∈ mapCodecs api.toVideoCodecApi params.codecs := by simp [hmapped]
      -- what has not changed is already as the parameters have it
      have hcodecs : (((if nonFlexfecReceiveCodecsHaveChanged api.sortCodecs side.recvCodecs
            (front :: rest) then some (front :: rest) else none).getD side.recvCodecs).map
              disregardFlexfec).Perm ((mapCodecs api.toVideoCodecApi params.codecs).map
                disregardFlexfec) := by
        rw [hmapped]
        split_ifs with hchanged
        · exact List.Perm.refl _
        · exact perm_of_not_changed hsort (by simpa using hchanged)
      refine ⟨rfl, ?_, hcodecs, fun settings hsettings => ?_, fun hactive settings hsettings => ?_⟩
      · simp only
        split_ifs with hother
        · rfl
        · simpa using (not_ne_iff.mp hother).symm
      · have hshared : settings.flexfecPayloadType = front.flexfecPayloadType := by
          rw [flexfecPayloadType_mapCodecs hsettings, flexfecPayloadType_mapCodecs hfront]
        rw [hshared]
        simp only
        split_ifs with hother
        · rfl
        · exact not_ne_iff.mp hother
      · obtain ⟨other, hother, hsame⟩ := exists_codec_of_perm hcodecs hsettings
        have hsupported := haccepted.supported hactive
        rw [supportsAll, List.all_eq_true] at hsupported
        rw [← hsame]
        exact hsupported other hother

theorem setAll_append (earlier later : List VideoRecvParameters) :
    setAll api side (earlier ++ later) =
      ((setAll api (setAll api side earlier).1 later).1,
        (setAll api side earlier).2 ++ (setAll api (setAll api side earlier).1 later).2) := by
  induction earlier generalizing side with
  | nil => rfl
  | cons params earlier ih =>
      rw [List.cons_append, setAll, ih]
      rfl

/-- Refused parameters change nothing.  After any calls the receive side is that of the last
accepted ones, and as the constructor has left it when there are none.  The answers tell which
parameters are accepted. -/
theorem setAll_reflectsLast (hsort : Sorts comparesBefore api.sortCodecs)
    (calls : List VideoRecvParameters) :
    (∀ (side : ReceiveSide) params, ¬ Accepted api params →
      side.setRecvParameters api params = (side, false)) ∧
    (setAll api (create api) calls).2 = calls.map (fun params => decide (Accepted api params)) ∧
      match (calls.filter fun params => Accepted api params).getLast? with
      | none => (setAll api (create api) calls).1 = create api
      | some params => Reflects api params (setAll api (create api) calls).1 := by
  refine ⟨fun side params hrefused => setRecvParameters_of_refused hrefused, ?_⟩
  induction calls using List.reverseRecOn with
  | nil => exact ⟨rfl, rfl⟩
  | append_singleton earlier params ih =>
      obtain ⟨hanswers, hstate⟩ := ih
      rw [setAll_append, List.map_append, hanswers, List.filter_append]
      by_cases haccepted : Accepted api params
      · obtain ⟨next, hset, hreflects⟩ := @reflects_setRecvParameters api
          (setAll api (create api) earlier).1 params hsort haccepted
        simp only [setAll, hset]
        rw [List.filter_cons_of_pos (by simpa using haccepted), List.filter_nil,
          List.getLast?_concat]
        exact ⟨by simp [haccepted], hreflects⟩
      · simp only [setAll, setRecvParameters_of_refused haccepted]
        rw [List.filter_cons_of_neg (by simpa using haccepted), List.filter_nil, List.append_nil]
        exact ⟨by simp [haccepted], hstate⟩

def vp8AndVp9 : VideoRecvParameters :=
  { codecs := [{ id := 96, name := ascii "VP8" }, { id := 98, name := ascii "VP9" }] }

def vp9AndVp8 : VideoRecvParameters := { codecs := vp8AndVp9.codecs.reverse }

/-- The parameters without codecs are refused, and the codecs come back in another order. -/
theorem setAll_reflectsLast_reordered :
    Reflects (webrtcReceiveApi [vp8Format, vp9Format]) vp9AndVp8
      (setAll (webrtcReceiveApi [vp8Format, vp9Format])
        (create (webrtcReceiveApi [vp8Format, vp9Format])) [vp8AndVp9, vp9AndVp8, {}]).1 := by
  have hlast := (@setAll_reflectsLast (webrtcReceiveApi [vp8Format, vp9Format])
    (sorts_insertionSort comparesBefore_iff fun _ _ => Iff.rfl) [vp8AndVp9, vp9AndVp8, {}]).2.2
  have haccepted : ([vp8AndVp9, vp9AndVp8, {}].filter fun params =>
      Accepted (webrtcReceiveApi [vp8Format, vp9Format]) params).getLast? = some vp9AndVp8 := by
    decide +kernel
  rw [haccepted] at hlast
  exact hlast

end ReceiveSide

end PeerConnection.Engine
