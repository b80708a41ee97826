import PeerConnection.Engine.ReceiveParameters

/-!
# What an engine offers and a peer accepts

An engine offers a codec for each format of its encoder factory and the header extensions that
are enabled by default.  A peer that decodes every one of these formats, and whose own formats
do not use up the payload types, accepts the offer in whatever state its channel is.
-/

namespace PeerConnection.Engine

open PeerConnection.Text
open PeerConnection.Sorting
open PeerConnection.Scan
open PeerConnection.Prefixes

/-! ## Header extensions -/

/-- The header extensions in the order in which the engine lists them. -/
inductive HeaderExtension where
  | timestampOffset
  | absSendTime
  | videoRotation
  | transportSequenceNumber
  | playoutDelay
  | videoContentType
  | videoTiming
  | colorSpace
  | mid
  | rid
  | repairedRid
  | genericFrameDescriptor00
  | dependencyDescriptor
  | videoLayersAllocation
  | videoFrameTrackingId
  deriving DecidableEq, Repr

/-- `RtpTransceiverDirection`, as far as it is used here. -/
inductive Direction where
  | sendRecv
  | stopped
  deriving DecidableEq, Repr

structure RtpHeaderExtensionCapability where
  uri : Bytes
  preferredId : ℤ
  direction : Direction
  deriving DecidableEq

/-- `IsEnabled`, for what `WebRtcKeyValueConfig::Lookup` answers. -/
def isEnabled (lookup : Bytes → Bytes) (name : Bytes) : Bool :=
  (ascii "Enabled").isPrefixOf (lookup name)

/-- The extensions that are always listed. -/
def listedExtensions : List HeaderExtension :=
  [.timestampOffset, .absSendTime, .videoRotation, .transportSequenceNumber, .playoutDelay,
    .videoContentType, .videoTiming, .colorSpace, .mid, .rid, .repairedRid]

/-- The extensions behind them with their field trials. -/
def trialExtensions : List (HeaderExtension × Bytes) :=
  [(.genericFrameDescriptor00, ascii "WebRTC-GenericDescriptorAdvertised"),
    (.dependencyDescriptor, ascii "WebRTC-DependencyDescriptorAdvertised"),
    (.videoLayersAllocation, ascii "WebRTC-VideoLayersAllocationAdvertised"),
    (.videoFrameTrackingId, ascii "WebRTC-VideoFrameTrackingIdAdvertised")]

section Extensions

variable (uriOf : HeaderExtension → Bytes) (lookup : Bytes → Bytes)

/-- `WebRtcVideoEngine::GetRtpHeaderExtensions`; the URIs are constants of another library. -/
def getRtpHeaderExtensions : List RtpHeaderExtensionCapability :=
  let listed := listedExtensions.map fun extension => (extension, Direction.sendRecv)
  let tried := trialExtensions.map fun entry =>
    (entry.1, if isEnabled lookup entry.2 then Direction.sendRecv else Direction.stopped)
  (listed ++ tried).zipIdx.map fun entry =>
    { uri := uriOf entry.1.1, preferredId := entry.2 + 1, direction := entry.1.2 }

def getDefaultEnabledRtpHeaderExtensions : List RtpExtension :=
  ((getRtpHeaderExtensions uriOf lookup).filter (·.direction ≠ .stopped)).map fun entry =>
    { uri := entry.uri, id := entry.preferredId }

end Extensions

/-- Whether a list is valid depends on the identifiers only. -/
theorem foldlM_checkExtension_isSome_iff (extensions : List RtpExtension) (idUsed : List ℤ) :
    (extensions.foldlM checkExtension idUsed).isSome = true ↔
      (∀ extension ∈ extensions, kMinId ≤ extension.id ∧ extension.id ≤ kMaxId ∧
        extension.id ∉ idUsed) ∧ (extensions.map (·.id)).Nodup := by
  induction extensions generalizing idUsed with
  | nil => simp
  | cons extension rest ih =>
      rw [List.foldlM_cons, checkExtension]
      split_ifs with hrange hused
      · simp only [bind, Option.bind_none, Option.isSome_none, Bool.false_eq_true, false_iff]
        rintro ⟨hall, -⟩
        have hbounds := hall extension List.mem_cons_self
        omega
      · simp only [bind, Option.bind_none, Option.isSome_none, Bool.false_eq_true, false_iff]
        rintro ⟨hall, -⟩
        exact (hall extension List.mem_cons_self).2.2 hused
      · have hrest := ih (extension.id :: idUsed)
        simp only [bind, Option.bind_some] at hrest ⊢
        rw [hrest, List.forall_mem_cons, List.map_cons, List.nodup_cons]
        simp only [List.mem_cons, not_or, List.mem_map, not_exists, not_and]
        constructor
        · rintro ⟨hall, hnodup⟩
          refine ⟨⟨⟨by omega, by omega, hused⟩, fun other hother => ?_⟩,
            fun other hother => (hall other hother).2.2.1, hnodup⟩
          exact ⟨(hall other hother).1, (hall other hother).2.1, (hall other hother).2.2.2⟩
        · rintro ⟨⟨-, hall⟩, hfresh, hnodup⟩
          exact ⟨fun other hother => ⟨(hall other hother).1, (hall other hother).2.1,
            hfresh other hother, (hall other hother).2.2⟩, hnodup⟩

theorem validateRtpExtensions_iff (extensions : List RtpExtension) :
    validateRtpExtensions extensions = true ↔
      (∀ extension ∈ extensions, kMinId ≤ extension.id ∧ extension.id ≤ kMaxId) ∧
        (extensions.map (·.id)).Nodup := by
  rw [validateRtpExtensions, foldlM_checkExtension_isSome_iff]
  simp

/-- The enabled extensions are valid under all field trials. -/
theorem validateRtpExtensions_defaultEnabled (uriOf : HeaderExtension → Bytes)
    (lookup : Bytes → Bytes) :
    validateRtpExtensions (getDefaultEnabledRtpHeaderExtensions uriOf lookup) = true := by
  have hids : ((getDefaultEnabledRtpHeaderExtensions uriOf lookup).map (·.id)).Sublist
      ((List.range 15).map fun index : ℕ => (index : ℤ) + 1) := by
    rw [getDefaultEnabledRtpHeaderExtensions, List.map_map]
    exact (List.filter_sublist.map _)
  rw [validateRtpExtensions_iff]
  refine ⟨fun extension hmem => ?_, hids.nodup (by decide)⟩
  obtain ⟨index, hindex, hid⟩ := List.mem_map.mp (hids.subset (List.mem_map_of_mem hmem))
  rw [List.mem_range] at hindex
  rw [← hid, kMinId, kMaxId]
  omega

/-! ## Codecs -/

section Codecs

variable {api : VideoCodecApi}

theorem addDefaultFeedbackParams_params (codec : VideoCodec) :
    (addDefaultFeedbackParams codec).params = codec.params := by
  simp only [addDefaultFeedbackParams]
  split_ifs <;> rfl

/-- The codec for a format is compared as the format. -/
@[simp]
theorem format_defaultCodec (format : SdpVideoFormat) (payloadType : ℤ) :
    (defaultCodec format payloadType).format = format := by
  rw [VideoCodec.format, defaultCodec_name, defaultCodec, addDefaultFeedbackParams_params]
  rfl

/-- The output is made of the formats so far, and none of these is missing. -/
structure Covers (api : VideoCodecApi) (front : List SdpVideoFormat) (types : PayloadTypes) :
    Prop where
  made : ∀ codec ∈ types.outputCodecs, api.getCodecType codec = .rtx ∨
    ∃ format ∈ front, ∃ payloadType, codec = defaultCodec format payloadType
  present : ∀ format ∈ front, ∃ payloadType,
    defaultCodec format payloadType ∈ types.outputCodecs

theorem covers_init : Covers api [] {} where
  made := by simp
  present := by simp

theorem covers_pushCodec {front : List SdpVideoFormat} {types : PayloadTypes}
    (hcovers : Covers api front types) (format : SdpVideoFormat) :
    Covers api (front ++ [format]) (types.pushCodec format) := by
  have houtput : (types.pushCodec format).outputCodecs =
      types.outputCodecs ++ [defaultCodec format (types.next format)] := outputCodecs_push _ _ _
  refine ⟨fun codec hcodec => ?_, fun other hother => ?_⟩
  · rw [houtput, List.mem_append, List.mem_singleton] at hcodec
    rcases hcodec with hearlier | rfl
    · refine (hcovers.made codec hearlier).imp_right ?_
      rintro ⟨other, hother, payloadType, hmade⟩
      exact ⟨other, List.mem_append_left _ hother, payloadType, hmade⟩
    · exact Or.inr ⟨format, by simp, _, rfl⟩
  · rw [houtput]
    rcases List.mem_append.mp hother with hearlier | hlast
    · obtain ⟨payloadType, hmem⟩ := hcovers.present other hearlier
      exact ⟨payloadType, List.mem_append_left _ hmem⟩
    · rw [List.mem_singleton.mp hlast]
      exact ⟨types.next format, by simp⟩

theorem covers_pushRtx {front : List SdpVideoFormat} {types : PayloadTypes}
    (hlawful : LawfulCodecApi api) (hcovers : Covers api front types) (format : SdpVideoFormat)
    (associated : ℤ) : Covers api front (types.pushRtx api format associated) := by
  have houtput : (types.pushRtx api format associated).outputCodecs =
      types.outputCodecs ++ [api.createRtxCodec (types.next format) associated] :=
    outputCodecs_push _ _ _
  refine ⟨fun codec hcodec => ?_, fun other hother => ?_⟩
  · rw [houtput, List.mem_append, List.mem_singleton] at hcodec
    rcases hcodec with hearlier | rfl
    · exact hcovers.made codec hearlier
    · exact Or.inl (getCodecType_createRtxCodec hlawful _ _)
  · obtain ⟨payloadType, hmem⟩ := hcovers.present other hother
    rw [houtput]
    exact ⟨payloadType, List.mem_append_left _ hmem⟩

theorem covers_numberFormat {front : List SdpVideoFormat} {types next : PayloadTypes}
    {format : SdpVideoFormat} (hlawful : LawfulCodecApi api) (hcovers : Covers api front types)
    (hnext : numberFormat api types format = .next next) : Covers api (front ++ [format]) next := by
  have hpushed := covers_pushCodec hcovers format
  obtain ⟨-, hbody⟩ | ⟨-, -, hbody⟩ | ⟨-, -, -, hbody⟩ | ⟨-, -, -, hbody⟩ :=
    numberFormat_cases api types format
  · rw [hbody] at hnext
    exact absurd hnext (by simp)
  · rw [hbody] at hnext
    obtain rfl := Outcome.next.inj hnext
    exact hpushed
  · rw [hbody] at hnext
    exact absurd hnext (by simp)
  · rw [hbody] at hnext
    obtain rfl := Outcome.next.inj hnext
    exact covers_pushRtx hlawful hpushed format _

/-- What the loop leaves behind is made of the formats up to there. -/
theorem made_of_stop {front : List SdpVideoFormat} {types left : PayloadTypes}
    {format : SdpVideoFormat} (hcovers : Covers api front types)
    (hstop : numberFormat api types format = .stop left) {codec : VideoCodec}
    (hcodec : codec ∈ left.outputCodecs) : api.getCodecType codec = .rtx ∨
      ∃ other ∈ front ++ [format], ∃ payloadType, codec = defaultCodec other payloadType := by
  have hpushed := covers_pushCodec hcovers format
  obtain ⟨-, hbody⟩ | ⟨-, -, hbody⟩ | ⟨-, -, -, hbody⟩ | ⟨-, -, -, hbody⟩ :=
    numberFormat_cases api types format
  · rw [hbody] at hstop
    obtain rfl := Outcome.stop.inj hstop
    refine (hcovers.made codec hcodec).imp_right ?_
    rintro ⟨other, hother, payloadType, hmade⟩
    exact ⟨other, List.mem_append_left _ hother, payloadType, hmade⟩
  · rw [hbody] at hstop
    exact absurd hstop (by simp)
  · rw [hbody] at hstop
    obtain rfl := Outcome.stop.inj hstop
    exact hpushed.made codec hcodec
  · rw [hbody] at hstop
    exact absurd hstop (by simp)

theorem defaultCodecs_cases (hlawful : LawfulCodecApi api) (formats : List SdpVideoFormat) :
    (∀ codec ∈ getPayloadTypesAndDefaultCodecs api (some formats),
        api.getCodecType codec = .rtx ∨
          ∃ format ∈ allFormats formats, ∃ payloadType, codec = defaultCodec format payloadType) ∧
      (lowerLoad (formats ++ [{ name := kRedCodecName }]) ≤ 28 →
        ∀ format ∈ allFormats formats, ∃ payloadType, defaultCodec format payloadType ∈
          getPayloadTypesAndDefaultCodecs api (some formats)) := by
  have hrun := @scan_cases _ _ _ (numberFormat api)
    (fun front types => Numbered front types ∧ Covers api front types) {}
    ⟨numbered_init, covers_init⟩
    (fun front format types next hinv hnext =>
      ⟨numbered_numberFormat hinv.1 hnext, covers_numberFormat hlawful hinv.2 hnext⟩)
    (allFormats formats)
  obtain ⟨final, hscan, -, hcovers⟩ | ⟨front, format, back, types, hsplit, ⟨hnumbered, hcovers⟩,
    hscan, hexit⟩ := hrun
  · have houtput : getPayloadTypesAndDefaultCodecs api (some formats) = final.outputCodecs := by
      simp only [getPayloadTypesAndDefaultCodecs, numberFormats, hscan]
    rw [houtput]
    exact ⟨hcovers.made, fun _ => hcovers.present⟩
  · cases hbody : numberFormat api types format with
    | fault reason => exact reason.elim
    | next next => exact absurd hbody (hexit next)
    | stop left =>
        have houtput : getPayloadTypesAndDefaultCodecs api (some formats) =
            left.outputCodecs := by
          simp only [getPayloadTypesAndDefaultCodecs, numberFormats, hscan, hbody]
        rw [houtput]
        refine ⟨fun codec hcodec => (made_of_stop hcovers hbody hcodec).imp_right ?_,
          fun hfits => ?_⟩
        · rintro ⟨other, hother, payloadType, hmade⟩
          refine ⟨other, ?_, payloadType, hmade⟩
          rw [hsplit]
          simp only [List.mem_append, List.mem_cons, List.not_mem_nil, or_false] at hother ⊢
          exact hother.imp_right Or.inl
        · have hload := (numberFormat_stop hnumbered hsplit hbody).1
          omega

/-- A regular video codec is that of a supported format. -/
theorem exists_format_of_video (hlawful : LawfulCodecApi api) {formats : List SdpVideoFormat}
    {codec : VideoCodec} (hcodec : codec ∈ getPayloadTypesAndDefaultCodecs api (some formats))
    (hvideo : api.getCodecType codec = .video) :
    ∃ format ∈ formats, ∃ payloadType, codec = defaultCodec format payloadType := by
  rcases (defaultCodecs_cases hlawful formats).1 codec hcodec with hrtx | ⟨format, hformat, hmade⟩
  · rw [hvideo] at hrtx
    exact absurd hrtx (by simp)
  · refine ⟨format, ?_, hmade⟩
    obtain ⟨payloadType, rfl⟩ := hmade
    rw [getCodecType_defaultCodec hlawful] at hvideo
    rw [allFormats] at hformat
    split_ifs at hformat
    · exact absurd hformat List.not_mem_nil
    · rcases List.mem_append.mp hformat with hgiven | hadded
      · exact hgiven
      · rcases List.mem_pair.mp hadded with rfl | rfl
        · exact absurd hvideo (by decide)
        · exact absurd hvideo (by decide)

end Codecs

/-! ## The offer -/

/-- `WebRtcVideoEngine::send_codecs`. -/
def sendCodecs (api : VideoCodecApi) (encoderFormats : Option (List SdpVideoFormat)) :
    List VideoCodec :=
  getPayloadTypesAndDefaultCodecs api encoderFormats

/-- What an engine with these encoders offers. -/
def offeredParameters (api : VideoCodecApi) (encoderFormats : List SdpVideoFormat)
    (uriOf : HeaderExtension → Bytes) (lookup : Bytes → Bytes) (isStreamActive : Bool) :
    VideoRecvParameters where
  codecs := sendCodecs api (some encoderFormats)
  extensions := getDefaultEnabledRtpHeaderExtensions uriOf lookup
  isStreamActive := isStreamActive

/-- The bitrates of a codec that has both are in order. -/
def BitratesOrdered (api : VideoCodecApi) (codec : VideoCodec) : Prop :=
  ∀ minBitrate maxBitrate, api.getParam codec kCodecParamMinBitrate = some minBitrate →
    api.getParam codec kCodecParamMaxBitrate = some maxBitrate → minBitrate ≤ maxBitrate

/-- What the receive side relies on in the functions outside of this repository. -/
structure DocumentedReceiveApi (api : ReceiveApi) : Prop
    extends LawfulCodecApi api.toVideoCodecApi where
  validates : ∀ codec : VideoCodec, 0 ≤ codec.id → codec.id ≤ 127 →
    (api.getCodecType codec = .video → BitratesOrdered api.toVideoCodecApi codec) →
      api.validateCodecFormat codec = true
  finds : ∀ supportedCodecs (codec : VideoCodec),
    (∃ other ∈ supportedCodecs, api.isSameCodec codec.format other.format = true) →
      (api.findMatchingCodec supportedCodecs codec).isSome
  sorts : Sorts comparesBefore api.sortCodecs

/-- The encoders of the one who offers: a regular video format comes first, none of them is
RTX by name, and their bitrates are in order. -/
structure Offerable (api : VideoCodecApi) (encoderFormats : List SdpVideoFormat) : Prop where
  first : ∃ format rest, encoderFormats = format :: rest ∧ codecTypeOfName format.name = .video
  names : ∀ format ∈ encoderFormats, codecTypeOfName format.name ≠ .rtx
  bitrates : ∀ format ∈ encoderFormats, ∀ payloadType,
    BitratesOrdered api (defaultCodec format payloadType)

/-- The decoders of the other one: they cover the encoders, and the payload types suffice for
them. -/
structure Decodes (api : ReceiveApi) (encoderFormats : List SdpVideoFormat) : Prop where
  covers : ∃ decoders, api.decoderFormats = some decoders ∧
    lowerLoad (decoders ++ [{ name := kRedCodecName }]) ≤ 28 ∧
    ∀ format ∈ encoderFormats, ∃ other ∈ decoders, api.isSameCodec format other = true

/-- The channel receives the regular video codecs of the offer, each with the payload type of
the RTX codec that the offer has behind it. -/
structure TakesOffer (api : ReceiveApi) (offered : VideoRecvParameters) (next : ReceiveSide) :
    Prop where
  reflects : ReceiveSide.Reflects api offered next
  codecs : (next.recvCodecs.map (·.codec)).Perm
    (offered.codecs.filter fun codec => api.getCodecType codec = .video)
  paired : ∀ settings ∈ next.recvCodecs, ∀ front back,
    offered.codecs = front ++ settings.codec :: back →
      settings.rtxPayloadType = payloadTypeOf back.head?

theorem documented_webrtcReceiveApi (decoders : List SdpVideoFormat) :
    DocumentedReceiveApi (webrtcReceiveApi decoders) where
  toLawfulCodecApi := lawful_webrtcCodecApi
  validates codec hlow hhigh hbitrates := by
    change (decide (0 ≤ codec.id ∧ codec.id ≤ 127) &&
      (codecTypeOfName codec.name ≠ .video || codecFormatValid codec)) = true
    rw [Bool.and_eq_true, decide_eq_true_eq, Bool.or_eq_true, decide_eq_true_eq]
    refine ⟨⟨hlow, hhigh⟩, (em _).elim Or.inl fun hvideo => Or.inr ?_⟩
    have hordered := hbitrates (not_ne_iff.mp hvideo)
    rw [codecFormatValid, Bool.and_eq_true, decide_eq_true_eq]
    refine ⟨⟨hlow, hhigh⟩, ?_⟩
    split
    · rename_i minBitrate maxBitrate hmin hmax
      exact decide_eq_true (hordered minBitrate maxBitrate hmin hmax)
    · rfl
  finds supportedCodecs codec hmatches := by
    rw [webrtcReceiveApi, List.find?_isSome]
    exact hmatches
  sorts := sorts_insertionSort comparesBefore_iff fun _ _ => Iff.rfl

section Offer

variable {api : ReceiveApi} {encoderFormats : List SdpVideoFormat}

theorem generated_sendCodecs (hlawful : LawfulCodecApi api.toVideoCodecApi)
    (hofferable : Offerable api.toVideoCodecApi encoderFormats) :
    Generated api.toVideoCodecApi (sendCodecs api.toVideoCodecApi (some encoderFormats)) ∧
      ∃ codec ∈ sendCodecs api.toVideoCodecApi (some encoderFormats),
        api.getCodecType codec = .video := by
  obtain ⟨format, rest, rfl, hvideo⟩ := hofferable.first
  obtain ⟨hgenerated, codec, hcodec, hname⟩ := generated_defaultCodecs hlawful hofferable.names
  refine ⟨hgenerated, codec, hcodec, ?_⟩
  rw [hlawful.getCodecType, hname]
  exact hvideo

theorem validateCodecFormats_sendCodecs (hdocumented : DocumentedReceiveApi api)
    (hofferable : Offerable api.toVideoCodecApi encoderFormats) :
    validateCodecFormats api.toEngineApi
      (sendCodecs api.toVideoCodecApi (some encoderFormats)) = true := by
  have hlawful := hdocumented.toLawfulCodecApi
  obtain ⟨hgenerated, hvideo⟩ := generated_sendCodecs hlawful hofferable
  rw [validateCodecFormats, Bool.and_eq_true, List.all_eq_true, List.any_eq_true]
  refine ⟨fun codec hcodec => ?_, by simpa using hvideo⟩
  have hrange := hgenerated.range codec hcodec
  rw [InDynamicRange, kFirstDynamicPayloadTypeLowerRange, kLastDynamicPayloadTypeLowerRange,
    kFirstDynamicPayloadTypeUpperRange, kLastDynamicPayloadTypeUpperRange] at hrange
  refine hdocumented.validates codec (by omega) (by omega) fun htype => ?_
  obtain ⟨format, hformat, payloadType, rfl⟩ := exists_format_of_video hlawful hcodec htype
  exact hofferable.bitrates format hformat payloadType

/-- Every regular video codec of the offer matches a local codec. -/
theorem findMatchingCodec_of_decodes (hdocumented : DocumentedReceiveApi api)
    (hdecodes : Decodes api encoderFormats) {codec : VideoCodec}
    (hcodec : codec ∈ sendCodecs api.toVideoCodecApi (some encoderFormats))
    (hvideo : api.getCodecType codec = .video) :
    (api.findMatchingCodec (ReceiveSide.localCodecs api) codec).isSome := by
  have hlawful := hdocumented.toLawfulCodecApi
  obtain ⟨decoders, hdecoders, hfits, hcovers⟩ := hdecodes.covers
  obtain ⟨format, hformat, payloadType, rfl⟩ := exists_format_of_video hlawful hcodec hvideo
  obtain ⟨other, hother, hsame⟩ := hcovers format hformat
  have hall : other ∈ allFormats decoders := by
    rw [allFormats, if_neg (by simpa using List.ne_nil_of_mem hother)]
    exact List.mem_append_left _ hother
  obtain ⟨localType, hlocal⟩ := (defaultCodecs_cases hlawful decoders).2 hfits other hall
  apply hdocumented.finds
  refine ⟨defaultCodec other localType, ?_, by simpa using hsame⟩
  rw [ReceiveSide.localCodecs, hdecoders]
  exact hlocal

theorem accepted_offeredParameters (hdocumented : DocumentedReceiveApi api)
    (hofferable : Offerable api.toVideoCodecApi encoderFormats)
    (hdecodes : Decodes api encoderFormats) (uriOf : HeaderExtension → Bytes)
    (lookup : Bytes → Bytes) (isStreamActive : Bool) :
    ReceiveSide.Accepted api
      (offeredParameters api.toVideoCodecApi encoderFormats uriOf lookup isStreamActive) where
  formats := validateCodecFormats_sendCodecs hdocumented hofferable
  extensions := validateRtpExtensions_defaultEnabled uriOf lookup
  mapped := by
    obtain ⟨hgenerated, hvideo⟩ :=
      generated_sendCodecs hdocumented.toLawfulCodecApi hofferable
    exact mapCodecs_ne_nil_iff.mpr
      (acceptable_generated hdocumented.toLawfulCodecApi hgenerated hvideo)
  supported _ := by
    obtain ⟨hgenerated, hvideo⟩ :=
      generated_sendCodecs hdocumented.toLawfulCodecApi hofferable
    have hacceptable := acceptable_generated hdocumented.toLawfulCodecApi hgenerated hvideo
    rw [offeredParameters, mapCodecs_of_mappable hacceptable.toMappable, ReceiveSide.supportsAll,
      List.all_eq_true]
    intro settings hsettings
    obtain ⟨codec, hcodec, rfl⟩ := List.mem_map.mp hsettings
    obtain ⟨hmem, htype⟩ := List.mem_filter.mp hcodec
    rw [isVideo, decide_eq_true_eq] at htype
    exact findMatchingCodec_of_decodes hdocumented hdecodes hmem htype

/-- The settings of the one list have the codec and RTX payload type of settings of the
other. -/
theorem exists_settings_of_perm {left right : List VideoCodecSettings}
    (hperm : (left.map disregardFlexfec).Perm (right.map disregardFlexfec))
    {settings : VideoCodecSettings} (hmem : settings ∈ left) :
    ∃ other ∈ right, other.codec = settings.codec ∧
      other.rtxPayloadType = settings.rtxPayloadType := by
  obtain ⟨other, hother, hsame⟩ := List.mem_map.mp
    (hperm.mem_iff.mp (List.mem_map_of_mem hmem))
  exact ⟨other, hother, congrArg (·.codec) hsame, congrArg (·.rtxPayloadType) hsame⟩

/-- A peer that decodes the formats accepts the offer, under all field trials and in whatever
state its channel is, and then receives what has been offered. -/
theorem setRecvParameters_offered (hdocumented : DocumentedReceiveApi api)
    (hofferable : Offerable api.toVideoCodecApi encoderFormats)
    (hdecodes : Decodes api encoderFormats) (uriOf : HeaderExtension → Bytes)
    (lookup : Bytes → Bytes) (isStreamActive : Bool) (side : ReceiveSide) :
    ∃ next, side.setRecvParameters api (offeredParameters api.toVideoCodecApi encoderFormats
        uriOf lookup isStreamActive) = (next, true) ∧
      TakesOffer api (offeredParameters api.toVideoCodecApi encoderFormats uriOf lookup
        isStreamActive) next := by
  have haccepted := accepted_offeredParameters hdocumented hofferable hdecodes uriOf lookup
    isStreamActive
  obtain ⟨next, hset, hreflects⟩ :=
    ReceiveSide.reflects_setRecvParameters hdocumented.sorts haccepted
  obtain ⟨hgenerated, hvideo⟩ := generated_sendCodecs hdocumented.toLawfulCodecApi hofferable
  have hwell := wellFormed_generated hdocumented.toLawfulCodecApi hgenerated hvideo
  refine ⟨next, hset, hreflects, ?_, fun settings hsettings front back hsplit => ?_⟩
  · have hcodecs := hreflects.codecs.map (·.codec)
    rw [List.map_map, List.map_map] at hcodecs
    exact hcodecs.trans (List.Perm.of_eq hwell.mapped)
  · obtain ⟨other, hother, hcodec, hrtx⟩ := exists_settings_of_perm hreflects.codecs hsettings
    rw [← hrtx]
    rw [← hcodec] at hsplit
    exact (hwell.paired other hother front back hsplit).1

theorem setRecvParameters_offered_vp8 :
    ∃ next, (ReceiveSide.create (webrtcReceiveApi [vp9Format, vp8Format])).setRecvParameters
        (webrtcReceiveApi [vp9Format, vp8Format])
        (offeredParameters webrtcCodecApi [vp8Format] (fun _ => []) (fun _ => []) true) =
          (next, true) ∧
      TakesOffer (webrtcReceiveApi [vp9Format, vp8Format])
        (offeredParameters webrtcCodecApi [vp8Format] (fun _ => []) (fun _ => []) true) next := by
  apply setRecvParameters_offered (documented_webrtcReceiveApi _)
  · refine ⟨⟨vp8Format, [], rfl, by decide⟩, by decide, fun format hformat payloadType => ?_⟩
    rw [List.mem_singleton.mp hformat]
    intro minBitrate maxBitrate hmin
    change ((defaultCodec vp8Format payloadType).params[kCodecParamMinBitrate]?.bind
      intFromString) = some minBitrate at hmin
    rw [defaultCodec, addDefaultFeedbackParams_params] at hmin
    exact absurd hmin (by simp [VideoCodec.ofFormat, vp8Format])
  · exact ⟨[vp9Format, vp8Format], rfl, by decide, by decide⟩

end Offer

end PeerConnection.Engine
