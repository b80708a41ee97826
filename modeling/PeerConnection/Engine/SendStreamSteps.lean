import PeerConnection.Core.Runs
import PeerConnection.Engine.VideoSendStream

/-!
# What the operations do to a send stream

Every operation that returns keeps the SSRCs, the source and the encodings of the stream.  A
stream without a source that is not sending takes a codec without failing, and any other
change as long as it has a codec or is not recreated.
-/

namespace PeerConnection.Engine

open PeerConnection.Runs

namespace WebRtcVideoSendStream

variable {api : EngineApi} {stream next : WebRtcVideoSendStream}

/-- What no operation changes.  RTX SSRCs may only be dropped. -/
structure SameStream (stream next : WebRtcVideoSendStream) : Prop where
  ssrcs : next.ssrcs = stream.ssrcs
  source : next.hasSource = stream.hasSource
  underlying : next.hasStream = stream.hasStream
  sending : next.sending = stream.sending
  encodings : next.rtpParameters.encodings = stream.rtpParameters.encodings
  rtpCodecs : next.rtpParameters.codecs = stream.rtpParameters.codecs
  media : next.parameters.config.rtp.ssrcs = stream.parameters.config.rtp.ssrcs
  rtx : next.parameters.config.rtp.rtx.ssrcs ⊆ stream.parameters.config.rtp.rtx.ssrcs

theorem SameStream.refl (stream : WebRtcVideoSendStream) : SameStream stream stream :=
  ⟨rfl, rfl, rfl, rfl, rfl, rfl, rfl, List.Subset.refl _⟩

theorem SameStream.trans {middle : WebRtcVideoSendStream} (hleft : SameStream stream middle)
    (hright : SameStream middle next) : SameStream stream next where
  ssrcs := hright.ssrcs.trans hleft.ssrcs
  source := hright.source.trans hleft.source
  underlying := hright.underlying.trans hleft.underlying
  sending := hright.sending.trans hleft.sending
  encodings := hright.encodings.trans hleft.encodings
  rtpCodecs := hright.rtpCodecs.trans hleft.rtpCodecs
  media := hright.media.trans hleft.media
  rtx := List.Subset.trans hright.rtx hleft.rtx

/-- `RecreateWebRtcStream` changes nothing. -/
theorem eq_of_recreateWebRtcStream (hrecreate : stream.recreateWebRtcStream = .ok next) :
    next = stream := by
  rw [recreateWebRtcStream] at hrecreate
  split at hrecreate
  · exact absurd hrecreate (by simp)
  · rw [updateSendState] at hrecreate
    split_ifs at hrecreate
    exact (Except.ok.inj hrecreate).symm

theorem rtxFor_subset (rtx : RtxConfig) (codecSettings : VideoCodecSettings) :
    (rtxFor rtx codecSettings).ssrcs ⊆ rtx.ssrcs := by
  rw [rtxFor]
  split_ifs <;> simp

theorem same_withCodec (stream : WebRtcVideoSendStream) (codecSettings : VideoCodecSettings)
    (encoderConfig : VideoEncoderConfig) :
    SameStream stream (stream.withCodec api codecSettings encoderConfig) :=
  ⟨rfl, rfl, rfl, rfl, rfl, rfl, rfl, rtxFor_subset _ _⟩

theorem same_setCodec {codecSettings : VideoCodecSettings}
    (hset : stream.setCodec api codecSettings = .ok next) : SameStream stream next := by
  obtain ⟨encoderConfig, -, hrecreate⟩ := except_bind_eq_ok_iff.mp hset
  rw [eq_of_recreateWebRtcStream hrecreate]
  exact same_withCodec stream codecSettings encoderConfig

theorem same_takeRtpChanges (stream : WebRtcVideoSendStream) (params : ChangedSendParameters) :
    SameStream stream (stream.takeRtpChanges params) :=
  ⟨rfl, rfl, rfl, rfl, rfl, rfl, rfl, List.Subset.refl _⟩

theorem same_takeConferenceMode (stream : WebRtcVideoSendStream)
    (params : ChangedSendParameters) : SameStream stream (stream.takeConferenceMode params) :=
  ⟨rfl, rfl, rfl, rfl, rfl, rfl, rfl, List.Subset.refl _⟩

/-- Reconfiguring changes the configuration of the encoder alone. -/
theorem exists_of_reconfigureEncoder (hreconfigure : stream.reconfigureEncoder api = .ok next) :
    ∃ encoderConfig, next =
      { stream with parameters := { stream.parameters with encoderConfig := encoderConfig } } := by
  rw [reconfigureEncoder] at hreconfigure
  split_ifs at hreconfigure
  · split at hreconfigure
    · exact absurd hreconfigure (by simp)
    · obtain ⟨encoderConfig, -, rfl⟩ := except_map_eq_ok_iff.mp hreconfigure
      exact ⟨encoderConfig, rfl⟩
  · obtain rfl := Except.ok.inj hreconfigure
    exact ⟨stream.parameters.encoderConfig, rfl⟩

theorem same_reconfigureEncoder (hreconfigure : stream.reconfigureEncoder api = .ok next) :
    SameStream stream next := by
  obtain ⟨encoderConfig, rfl⟩ := exists_of_reconfigureEncoder hreconfigure
  exact ⟨rfl, rfl, rfl, rfl, rfl, rfl, rfl, List.Subset.refl _⟩

theorem same_takeBandwidth {params : ChangedSendParameters}
    (htake : stream.takeBandwidth api params = .ok next) : SameStream stream next := by
  rw [takeBandwidth] at htake
  split at htake
  · obtain rfl := Except.ok.inj htake
    exact SameStream.refl _
  · have hsame := same_reconfigureEncoder htake
    exact ⟨hsame.ssrcs, hsame.source, hsame.underlying, hsame.sending, hsame.encodings,
      hsame.rtpCodecs, hsame.media, hsame.rtx⟩

theorem same_takeCodec {params : ChangedSendParameters}
    (htake : stream.takeCodec api params = .ok next) : SameStream stream next := by
  rw [takeCodec] at htake
  split at htake
  · exact same_setCodec htake
  · split at htake
    · exact same_setCodec htake
    · split_ifs at htake
      · rw [eq_of_recreateWebRtcStream htake]
        exact SameStream.refl _
      · obtain rfl := Except.ok.inj htake
        exact SameStream.refl _

theorem same_setSendParameters {params : ChangedSendParameters}
    (hset : stream.setSendParameters api params = .ok next) : SameStream stream next := by
  obtain ⟨middle, hbandwidth, hcodec⟩ := except_bind_eq_ok_iff.mp hset
  have hfirst := (same_takeRtpChanges stream params).trans (same_takeBandwidth hbandwidth)
  exact hfirst.trans ((same_takeConferenceMode middle params).trans (same_takeCodec hcodec))

/-! ## Streams without a source -/

/-- A stream that is not sending and has no source, as `AddSendStream` leaves it. -/
structure Quiet (stream : WebRtcVideoSendStream) : Prop where
  source : stream.hasSource = false
  underlying : stream.hasStream = false
  sending : stream.sending = false
  encoding : ∃ first rest, stream.rtpParameters.encodings = first :: rest ∧
    first.maxBitrateBps = none

theorem Quiet.of_same (hquiet : Quiet stream) (hsame : SameStream stream next) :
    Quiet next where
  source := hsame.source.trans hquiet.source
  underlying := hsame.underlying.trans hquiet.underlying
  sending := hsame.sending.trans hquiet.sending
  encoding := by
    rw [hsame.encodings]
    exact hquiet.encoding

/-- A quiet stream with a codec is recreated without failing. -/
theorem recreateWebRtcStream_quiet (hquiet : Quiet stream)
    (hcodec : stream.parameters.codecSettings.isSome) :
    stream.recreateWebRtcStream = .ok stream := by
  obtain ⟨codecSettings, hcodec⟩ := Option.isSome_iff_exists.mp hcodec
  rw [recreateWebRtcStream, hcodec]
  simp [updateSendState, hquiet.source, hquiet.sending]

theorem setCodec_quiet (hquiet : Quiet stream) (codecSettings : VideoCodecSettings) :
    ∃ encoderConfig,
      stream.createVideoEncoderConfig api codecSettings.codec = .ok encoderConfig ∧
        encoderConfig.maxBitrateBps =
          encoderMaxBitrate api codecSettings.codec stream.parameters.maxBitrateBps ∧
        stream.setCodec api codecSettings =
          .ok (stream.withCodec api codecSettings encoderConfig) := by
  obtain ⟨first, rest, hencodings, hunlimited⟩ := hquiet.encoding
  have hcreate : stream.createVideoEncoderConfig api codecSettings.codec =
      .ok (encoderConfigFor api stream first codecSettings.codec) := by
    rw [createVideoEncoderConfig, hencodings]
  refine ⟨_, hcreate, ?_, ?_⟩
  · simp only [encoderConfigFor, streamMaxBitrate, hunlimited]
  · rw [setCodec, hcreate]
    have hwritten := hquiet.of_same (@same_withCodec api stream codecSettings
      (encoderConfigFor api stream first codecSettings.codec))
    exact recreateWebRtcStream_quiet hwritten rfl

theorem takeBandwidth_quiet (hquiet : Quiet stream) (params : ChangedSendParameters) :
    stream.takeBandwidth api params =
      .ok { stream with
        parameters := { stream.parameters with
          maxBitrateBps := params.maxBandwidthBps.getD stream.parameters.maxBitrateBps } } := by
  rw [takeBandwidth]
  cases params.maxBandwidthBps with
  | none => rfl
  | some maxBandwidthBps =>
      simp only [reconfigureEncoder, hquiet.underlying]
      rfl

/-- The stream before `SetSendParameters` looks at the codecs, if it is quiet. -/
def withChanges (stream : WebRtcVideoSendStream) (params : ChangedSendParameters) :
    WebRtcVideoSendStream :=
  let changed := stream.takeRtpChanges params
  { changed with
    parameters := { changed.parameters with
      maxBitrateBps := params.maxBandwidthBps.getD changed.parameters.maxBitrateBps
      conferenceMode := params.conferenceMode.getD changed.parameters.conferenceMode } }

theorem same_withChanges (stream : WebRtcVideoSendStream) (params : ChangedSendParameters) :
    SameStream stream (stream.withChanges params) :=
  ⟨rfl, rfl, rfl, rfl, rfl, rfl, rfl, List.Subset.refl _⟩

theorem setSendParameters_eq_takeCodec (hquiet : Quiet stream)
    (params : ChangedSendParameters) :
    stream.setSendParameters api params = (stream.withChanges params).takeCodec api params := by
  have hchanged := hquiet.of_same (same_takeRtpChanges stream params)
  rw [setSendParameters, takeBandwidth_quiet hchanged]
  rfl

/-- A codec is at hand when the stream is recreated. -/
def CodecAtHand (stream : WebRtcVideoSendStream) (params : ChangedSendParameters) : Prop :=
  params.sendCodec.isSome ∨ stream.parameters.codecSettings.isSome ∨ recreates params = false

theorem takeCodec_quiet (hquiet : Quiet stream) {params : ChangedSendParameters}
    (hcodec : CodecAtHand stream params) : ∃ next, stream.takeCodec api params = .ok next := by
  rw [takeCodec]
  cases hsend : params.sendCodec with
  | some sendCodec =>
      obtain ⟨encoderConfig, -, -, hset⟩ := @setCodec_quiet api _ hquiet sendCodec
      exact ⟨_, hset⟩
  | none =>
      dsimp only
      split
      · rename_i _ codecSettings _ _
        obtain ⟨encoderConfig, -, -, hset⟩ := @setCodec_quiet api _ hquiet codecSettings
        exact ⟨_, hset⟩
      · split_ifs with hrecreates
        · rcases hcodec with hnew | hold | hkept
          · simp [hsend] at hnew
          · exact ⟨stream, recreateWebRtcStream_quiet hquiet hold⟩
          · exact absurd hrecreates (by simp [hkept])
        · exact ⟨stream, rfl⟩

theorem setSendParameters_quiet (hquiet : Quiet stream) {params : ChangedSendParameters}
    (hcodec : CodecAtHand stream params) :
    ∃ next, stream.setSendParameters api params = .ok next := by
  rw [setSendParameters_eq_takeCodec hquiet]
  exact takeCodec_quiet (hquiet.of_same (same_withChanges stream params)) hcodec

/-! ## Construction -/

section Construction

variable {sp : SendStreamParams} {config : SendStreamConfig} {options : VideoOptions}
variable {enableCpuOveruseDetection : Bool} {maxBitrateBps : ℤ}
variable {codecSettings : Option VideoCodecSettings}
variable {rtpExtensions : Option (List RtpExtension)} {sendParams : VideoSendParameters}

/-- What the constructor needs of its parameters: a primary SSRC, and one for each RID. -/
def Constructible (sp : SendStreamParams) : Prop :=
  sp.getPrimarySsrcs ≠ [] ∧ sp.rids.length ≤ sp.getPrimarySsrcs.length

/-- The constructor leaves the members as `initialStream` says, with at least one encoding. -/
theorem exists_of_construct
    (hconstruct : construct sp config options enableCpuOveruseDetection maxBitrateBps
      codecSettings rtpExtensions sendParams = .ok stream) :
    ∃ (rtpParameters : RtpParameters) (first : RtpEncodingParameters)
      (rest : List RtpEncodingParameters), first.maxBitrateBps = none ∧
        rtpParameters.encodings = first :: rest ∧
        stream = initialStream sp config options enableCpuOveruseDetection maxBitrateBps
          codecSettings rtpExtensions sendParams rtpParameters := by
  obtain ⟨rtpParameters, hencodings, hmatch⟩ := except_bind_eq_ok_iff.mp hconstruct
  rw [createRtpParametersWithEncodings] at hencodings
  split_ifs at hencodings
  obtain rfl := Except.ok.inj hencodings
  split at hmatch
  · exact absurd hmatch (by simp)
  · exact absurd hmatch (by simp)
  · rename_i ssrc others first encodings hssrcs hfirst
    have hmem : first ∈ sp.getPrimarySsrcs.mapIdx fun index ssrc =>
        ({ ssrc := some ssrc, rid := sp.rids.getD index [] } : RtpEncodingParameters) := by
      have hhead : first ∈ first :: encodings := List.mem_cons_self
      rwa [← hfirst] at hhead
    obtain ⟨index, hindex, rfl⟩ := List.mem_mapIdx.mp hmem
    exact ⟨_, _, _, rfl, rfl, (Except.ok.inj hmatch).symm⟩

/-- The constructor does not fail exactly for constructible parameters. -/
theorem exists_construct_iff (hconfig : config.rtp.ssrcs = []) :
    (∃ stream, construct sp config options enableCpuOveruseDetection maxBitrateBps
      codecSettings rtpExtensions sendParams = .ok stream) ↔ Constructible sp := by
  rw [construct, createRtpParametersWithEncodings, hconfig, List.nil_append, Constructible]
  by_cases hrids : sp.getPrimarySsrcs.length < sp.rids.length
  · simp only [hrids, if_true]
    constructor
    · rintro ⟨stream, hstream⟩
      exact absurd hstream (by simp [Except.bind])
    · rintro ⟨-, hle⟩
      omega
  · simp only [hrids, if_false]
    cases hprimary : sp.getPrimarySsrcs with
    | nil => simp [Except.bind]
    | cons ssrc others =>
        have hle : sp.rids.length ≤ others.length + 1 := by
          rw [hprimary, List.length_cons] at hrids
          omega
        simp [Except.bind, List.mapIdx_cons, hle]

/-- The constructor sets the codec of the channel, if there is one. -/
theorem exists_of_create
    (hcreate : create api sp config options enableCpuOveruseDetection maxBitrateBps
      codecSettings rtpExtensions sendParams = .ok stream) :
    ∃ initial, construct sp config options enableCpuOveruseDetection maxBitrateBps
        codecSettings rtpExtensions sendParams = .ok initial ∧
      (codecSettings.toList.foldlM (setCodec api) initial = .ok stream) := by
  obtain ⟨initial, hconstruct, hcodec⟩ := except_bind_eq_ok_iff.mp hcreate
  refine ⟨initial, hconstruct, ?_⟩
  cases codecSettings with
  | none => exact hcodec
  | some codecSettings =>
      rw [Option.toList_some, List.foldlM_cons, except_bind_eq_ok_iff]
      exact ⟨stream, hcodec, rfl⟩

theorem quiet_initialStream {rtpParameters : RtpParameters} {first : RtpEncodingParameters}
    {rest : List RtpEncodingParameters} (hunlimited : first.maxBitrateBps = none)
    (hencodings : rtpParameters.encodings = first :: rest) :
    Quiet (initialStream sp config options enableCpuOveruseDetection maxBitrateBps
      codecSettings rtpExtensions sendParams rtpParameters) :=
  ⟨rfl, rfl, rfl, first, rest, hencodings, hunlimited⟩

end Construction

end WebRtcVideoSendStream

end PeerConnection.Engine
