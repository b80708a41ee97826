import PeerConnection.Engine.NegotiatedCodecs

/-!
# The settings of a send stream

A stream takes its settings from the channel when it is constructed, and from the changes of the
send parameters after that.  Both ways give the same settings exactly when the change is steady:
there is a codec for a stream that is recreated, the limit of the codec is the limit that the
streams have, and no encoder misses a new limit because no codec is set.
-/

namespace PeerConnection.Engine

open PeerConnection.Text
open PeerConnection.Runs
open PeerConnection.MapValues
open PeerConnection.Engine.WebRtcVideoSendStream
open Std

/-- The settings of a stream that the channel decides. -/
structure StreamView where
  maxBitrateBps : ℤ
  conferenceMode : Bool
  codecSettings : Option VideoCodecSettings
  extensions : List RtpExtension
  extmapAllowMixed : Bool
  rtcpMode : RtcpMode
  mid : Bytes
  encoderMaxBitrateBps : ℤ
  deriving DecidableEq

/-! ## One stream -/

namespace WebRtcVideoSendStream

variable {api : EngineApi} {stream next : WebRtcVideoSendStream}

/-- What the parameters of the stream say. -/
def view (stream : WebRtcVideoSendStream) : StreamView where
  maxBitrateBps := stream.parameters.maxBitrateBps
  conferenceMode := stream.parameters.conferenceMode
  codecSettings := stream.parameters.codecSettings
  extensions := stream.parameters.config.rtp.extensions
  extmapAllowMixed := stream.parameters.config.rtp.extmapAllowMixed
  rtcpMode := stream.parameters.config.rtp.rtcpMode
  mid := stream.parameters.config.rtp.mid
  encoderMaxBitrateBps := stream.parameters.encoderConfig.maxBitrateBps

/-- The view once the codec is set, if there is one. -/
def viewWithCodec (api : EngineApi) (view : StreamView) (codec : Option VideoCodecSettings) :
    StreamView :=
  { view with
    codecSettings := codec.or view.codecSettings
    encoderMaxBitrateBps :=
      (codec.map fun codecSettings =>
        encoderMaxBitrate api codecSettings.codec view.maxBitrateBps).getD
          view.encoderMaxBitrateBps }

/-- The codec that `SetSendParameters` sets on a stream with this codec. -/
def codecToSet (codecSettings : Option VideoCodecSettings) (params : ChangedSendParameters) :
    Option VideoCodecSettings :=
  params.sendCodec.or (params.conferenceMode.bind fun _ => codecSettings)

theorem takeCodec_eq_match (stream : WebRtcVideoSendStream) (params : ChangedSendParameters) :
    stream.takeCodec api params =
      match codecToSet stream.parameters.codecSettings params with
      | some codecSettings => stream.setCodec api codecSettings
      | none => if recreates params then stream.recreateWebRtcStream else .ok stream := by
  unfold takeCodec codecToSet
  cases params.sendCodec <;> cases params.conferenceMode <;>
    cases stream.parameters.codecSettings <;> rfl

/-- The view of a quiet stream after changes of the send parameters. -/
def viewAfterChanges (api : EngineApi) (view : StreamView) (params : ChangedSendParameters) :
    StreamView :=
  viewWithCodec api
    { view with
      maxBitrateBps := params.maxBandwidthBps.getD view.maxBitrateBps
      conferenceMode := params.conferenceMode.getD view.conferenceMode
      extensions := params.rtpHeaderExtensions.getD view.extensions
      extmapAllowMixed := params.extmapAllowMixed.getD view.extmapAllowMixed
      rtcpMode := params.rtcpMode.getD view.rtcpMode
      mid := params.mid.getD view.mid }
    (codecToSet view.codecSettings params)

theorem view_setCodec (hquiet : Quiet stream) {codecSettings : VideoCodecSettings}
    (hset : stream.setCodec api codecSettings = .ok next) :
    next.view = viewWithCodec api stream.view (some codecSettings) := by
  obtain ⟨encoderConfig, -, hlimit, hquietSet⟩ := @setCodec_quiet api _ hquiet codecSettings
  obtain rfl := Except.ok.inj (hquietSet.symm.trans hset)
  simp only [view, viewWithCodec, withCodec, rtpConfigFor, hlimit, Option.some_or,
    Option.map_some, Option.getD_some]

theorem view_setSendParameters (hquiet : Quiet stream) {params : ChangedSendParameters}
    (hset : stream.setSendParameters api params = .ok next) :
    next.view = viewAfterChanges api stream.view params := by
  have hchanged := hquiet.of_same (same_withChanges stream params)
  have hold : (stream.withChanges params).parameters.codecSettings =
      stream.view.codecSettings := rfl
  rw [setSendParameters_eq_takeCodec hquiet, takeCodec_eq_match, hold] at hset
  rw [viewAfterChanges]
  cases hcodec : codecToSet stream.view.codecSettings params with
  | some codecSettings =>
      rw [hcodec] at hset
      rw [view_setCodec hchanged hset]
      rfl
  | none =>
      have hnext : next = stream.withChanges params := by
        rw [hcodec] at hset
        dsimp only at hset
        split_ifs at hset
        · exact eq_of_recreateWebRtcStream hset
        · exact (Except.ok.inj hset).symm
      rw [hnext]
      rfl

/-- A quiet stream takes the changes exactly when there is a codec or it is not recreated. -/
theorem exists_setSendParameters_iff (hquiet : Quiet stream) {params : ChangedSendParameters} :
    (∃ next, stream.setSendParameters api params = .ok next) ↔ CodecAtHand stream params := by
  constructor
  · rintro ⟨next, hset⟩
    by_contra hnone
    simp only [CodecAtHand, not_or] at hnone
    obtain ⟨hsend, hold, hrecreates⟩ := hnone
    rw [Option.not_isSome_iff_eq_none] at hsend hold
    have hcodec : (stream.withChanges params).parameters.codecSettings = none := hold
    rw [setSendParameters_eq_takeCodec hquiet, takeCodec_eq_match, hcodec] at hset
    simp [codecToSet, hsend, hrecreates, recreateWebRtcStream, hcodec] at hset
  · exact setSendParameters_quiet hquiet

end WebRtcVideoSendStream

/-! ## The channel -/

namespace WebRtcVideoChannel

variable {api : EngineApi} {channel next : WebRtcVideoChannel}

/-- The view of a stream that is constructed now. -/
def channelView (api : EngineApi) (channel : WebRtcVideoChannel) : StreamView :=
  viewWithCodec api
    { maxBitrateBps := channel.bitrateConfig.maxBitrateBps
      conferenceMode := channel.sendParams.conferenceMode
      codecSettings := channel.sendCodec
      extensions := channel.sendRtpExtensions.getD []
      extmapAllowMixed := channel.extmapAllowMixed
      rtcpMode := rtcpModeOf channel.sendParams.rtcpReducedSize
      mid := channel.sendParams.mid
      encoderMaxBitrateBps := 0 }
    channel.sendCodec

theorem view_createSendStream {sp : SendStreamParams} {stream : WebRtcVideoSendStream}
    (hcreate : channel.createSendStream api sp = .ok stream) :
    stream.view = channelView api channel := by
  obtain ⟨rtpParameters, hquiet, ⟨hsend, rfl⟩ | ⟨sendCodec, hsend, hset⟩⟩ :=
    createSendStream_cases hcreate
  · rw [channelView, hsend, initialSendStream, hsend]
    rfl
  · rw [view_setCodec hquiet hset, channelView, hsend]
    rfl

/-- The channel after `SetSendParameters`, apart from its streams. -/
def updated (api : EngineApi) (channel : WebRtcVideoChannel) (params : VideoSendParameters) :
    WebRtcVideoChannel :=
  match channel.getChangedSendParameters api params with
  | none => channel
  | some changed => { channel with sendParams := params }.takeChanges api changed

theorem updated_of_accepted {params : VideoSendParameters}
    (haccepted : AcceptedParameters api params) :
    channel.updated api params =
      { channel with sendParams := params }.takeChanges api (channel.changesTo api params) := by
  rw [updated, getChangedSendParameters_eq_some_iff.mpr ⟨haccepted, rfl⟩]

theorem updated_of_refused {params : VideoSendParameters}
    (hrefused : ¬ AcceptedParameters api params) : channel.updated api params = channel := by
  rw [updated]
  split
  · rfl
  · rename_i changed hchanged
    exact absurd (getChangedSendParameters_eq_some_iff.mp hchanged).1 hrefused

/-- A bandwidth of zero means no limit. -/
def bandwidthLimit (maxBandwidthBps : ℤ) : ℤ := if maxBandwidthBps = 0 then -1 else maxBandwidthBps

/-- The limit that the parameters of the codec give, and else -1. -/
def codecMaxBitrate (api : EngineApi) (codecSettings : VideoCodecSettings) : ℤ :=
  (getBitrateConfigForCodec api codecSettings.codec).maxBitrateBps

/-- A bandwidth in the send parameters is the limit of the channel. -/
def Capped (channel : WebRtcVideoChannel) : Prop :=
  0 ≤ channel.sendParams.maxBandwidthBps →
    channel.bitrateConfig.maxBitrateBps = bandwidthLimit channel.sendParams.maxBandwidthBps

/-! ## Steady changes -/

/-- The codec in use after accepted parameters. -/
def nextSendCodec (api : EngineApi) (channel : WebRtcVideoChannel)
    (params : VideoSendParameters) : Option VideoCodecSettings :=
  if channel.negotiatedCodecs = negotiatedCodecsFor api params then channel.sendCodec
  else (negotiatedCodecsFor api params).head?.or channel.sendCodec

/-- The parameters bring another bandwidth, or lift the limit. -/
def BandwidthChanges (channel : WebRtcVideoChannel) (params : VideoSendParameters) : Prop :=
  params.maxBandwidthBps ≠ channel.sendParams.maxBandwidthBps ∧ params.maxBandwidthBps ≥ -1

instance (channel : WebRtcVideoChannel) (params : VideoSendParameters) :
    Decidable (BandwidthChanges channel params) :=
  inferInstanceAs (Decidable (_ ∧ _))

/-- The parameters change what the underlying stream is created with. -/
def StreamChanges (api : EngineApi) (channel : WebRtcVideoChannel)
    (params : VideoSendParameters) : Prop :=
  params.rtcpReducedSize ≠ channel.sendParams.rtcpReducedSize ∨
    params.extmapAllowMixed ≠ channel.extmapAllowMixed ∨
    channel.sendRtpExtensions ≠
      some (filterRtpExtensions api params.extensions api.isSupportedForVideo true) ∨
    params.mid ≠ channel.sendParams.mid

/-- The streams follow the channel over this change of the parameters. -/
structure Steady (api : EngineApi) (channel : WebRtcVideoChannel)
    (params : VideoSendParameters) : Prop where
  codecAtHand : StreamChanges api channel params → nextSendCodec api channel params ≠ none
  limit : ∀ codec, nextSendCodec api channel params = some codec →
    params.maxBandwidthBps < 0 →
    nextSendCodec api channel params ≠ channel.sendCodec ∨ BandwidthChanges channel params →
      codecMaxBitrate api codec =
        if BandwidthChanges channel params then -1 else channel.bitrateConfig.maxBitrateBps
  encoder : ∀ codec, channel.sendCodec = some codec →
    nextSendCodec api channel params = channel.sendCodec →
    params.conferenceMode = channel.sendParams.conferenceMode →
    BandwidthChanges channel params →
      encoderMaxBitrate api codec.codec channel.bitrateConfig.maxBitrateBps =
        encoderMaxBitrate api codec.codec (bandwidthLimit params.maxBandwidthBps)

/-! ## What the change record says -/

theorem sendCodec_changesTo_or (channel : WebRtcVideoChannel) (params : VideoSendParameters) :
    (channel.changesTo api params).sendCodec.or channel.sendCodec =
      nextSendCodec api channel params := by
  rw [sendCodec_changesTo, changedSendCodec_or, nextSendCodec]

/-- No codec is set exactly when the codec in use stays. -/
theorem sendCodec_changesTo_eq_none_iff (channel : WebRtcVideoChannel)
    (params : VideoSendParameters) :
    (channel.changesTo api params).sendCodec = none ↔
      nextSendCodec api channel params = channel.sendCodec := by
  rw [← sendCodec_changesTo_or, sendCodec_changesTo]
  generalize negotiatedCodecsFor api params = negotiatedCodecs
  unfold changedSendCodec
  split_ifs with hsame
  · simp
  · cases negotiatedCodecs with
    | nil => simp
    | cons front rest =>
        dsimp only
        split_ifs with hother
        · simpa using Ne.symm hother
        · simp

theorem maxBandwidthBps_changesTo (channel : WebRtcVideoChannel) (params : VideoSendParameters) :
    (channel.changesTo api params).maxBandwidthBps =
      if BandwidthChanges channel params then some (bandwidthLimit params.maxBandwidthBps)
      else none := rfl

/-- The limit of a stream after the parameters. -/
def streamLimit (channel : WebRtcVideoChannel) (params : VideoSendParameters) : ℤ :=
  if BandwidthChanges channel params then bandwidthLimit params.maxBandwidthBps
  else channel.bitrateConfig.maxBitrateBps

theorem maxBandwidthBps_changesTo_getD (channel : WebRtcVideoChannel)
    (params : VideoSendParameters) :
    (channel.changesTo api params).maxBandwidthBps.getD channel.bitrateConfig.maxBitrateBps =
      channel.streamLimit params := by
  rw [maxBandwidthBps_changesTo, streamLimit]
  split_ifs <;> rfl

theorem recreates_changesTo_iff (channel : WebRtcVideoChannel) (params : VideoSendParameters) :
    recreates (channel.changesTo api params) = true ↔ StreamChanges api channel params := by
  simp only [recreates, changesTo, StreamChanges, Bool.or_eq_true, Option.isSome_ite,
    Option.isSome_ite', or_assoc, ne_eq]

/-- A field of the change record, put over the old value. -/
theorem getD_changed {α β : Type*} [DecidableEq α] (value : α → β) (new old : α) :
    (if new ≠ old then some (value new) else none).getD (value old) = value new := by
  by_cases hsame : new = old
  · rw [if_neg (not_not.mpr hsame), hsame]
    rfl
  · rw [if_pos hsame]
    rfl

/-! ## The channel after the parameters -/

theorem sendCodec_updated {params : VideoSendParameters}
    (haccepted : AcceptedParameters api params) :
    (channel.updated api params).sendCodec = nextSendCodec api channel params := by
  rw [updated_of_accepted haccepted, sendCodec_takeChanges, ← sendCodec_changesTo_or]

/-- The limit that the channel takes from the bandwidth and else from the codec. -/
def channelLimit (api : EngineApi) (maxBandwidthBps : ℤ) (codec : Option VideoCodecSettings)
    (maxBitrateBps : ℤ) : ℤ :=
  if 0 ≤ maxBandwidthBps then bandwidthLimit maxBandwidthBps
  else
    match codec with
    | some codec => codecMaxBitrate api codec
    | none => if maxBandwidthBps = -1 then -1 else maxBitrateBps

theorem maxBitrateBps_changedBitrateConfig (channel : WebRtcVideoChannel)
    (params : ChangedSendParameters) :
    (channel.changedBitrateConfig api params).maxBitrateBps =
      channelLimit api channel.sendParams.maxBandwidthBps channel.sendCodec
        channel.bitrateConfig.maxBitrateBps := by
  unfold changedBitrateConfig channelLimit
  by_cases hcapped : 0 ≤ channel.sendParams.maxBandwidthBps
  · rw [if_pos hcapped, if_pos hcapped]
    rfl
  · rw [if_neg hcapped, if_neg hcapped]
    cases channel.sendCodec with
    | none =>
        dsimp only
        split_ifs <;> rfl
    | some codec =>
        dsimp only
        split_ifs <;> rfl

theorem maxBitrateBps_takeChanges (channel : WebRtcVideoChannel)
    (params : ChangedSendParameters) :
    (channel.takeChanges api params).bitrateConfig.maxBitrateBps =
      if params.sendCodec.isSome ∨ params.maxBandwidthBps.isSome then
        channelLimit api channel.sendParams.maxBandwidthBps
          (params.sendCodec.or channel.sendCodec) channel.bitrateConfig.maxBitrateBps
      else channel.bitrateConfig.maxBitrateBps := by
  rw [takeChanges]
  by_cases hchanges : params.sendCodec.isSome ∨ params.maxBandwidthBps.isSome
  · rw [if_pos hchanges, if_pos (by simpa using hchanges)]
    exact maxBitrateBps_changedBitrateConfig _ params
  · rw [if_neg hchanges, if_neg (by simpa using hchanges)]

theorem maxBitrateBps_updated {params : VideoSendParameters}
    (haccepted : AcceptedParameters api params) :
    (channel.updated api params).bitrateConfig.maxBitrateBps =
      if nextSendCodec api channel params ≠ channel.sendCodec ∨
          BandwidthChanges channel params then
        channelLimit api params.maxBandwidthBps (nextSendCodec api channel params)
          channel.bitrateConfig.maxBitrateBps
      else channel.bitrateConfig.maxBitrateBps := by
  have hbandwidth : (channel.changesTo api params).maxBandwidthBps.isSome ↔
      BandwidthChanges channel params := by
    rw [maxBandwidthBps_changesTo, Option.isSome_ite]
  have hcodec : (channel.changesTo api params).sendCodec.isSome ↔
      nextSendCodec api channel params ≠ channel.sendCodec := by
    rw [Option.isSome_iff_ne_none, ne_eq, sendCodec_changesTo_eq_none_iff]
  rw [updated_of_accepted haccepted, maxBitrateBps_takeChanges, ← sendCodec_changesTo_or]
  simp only [hcodec, hbandwidth, ← sendCodec_changesTo_or]

/-- A bandwidth that stays is the limit already. -/
theorem limit_of_kept (hcapped : Capped channel) {params : VideoSendParameters}
    (hkept : ¬ BandwidthChanges channel params) (hbandwidth : 0 ≤ params.maxBandwidthBps) :
    channel.bitrateConfig.maxBitrateBps = bandwidthLimit params.maxBandwidthBps := by
  have hsame : params.maxBandwidthBps = channel.sendParams.maxBandwidthBps := by
    by_contra hother
    exact hkept ⟨hother, by omega⟩
  rw [hsame] at hbandwidth ⊢
  exact hcapped hbandwidth

/-- With a bandwidth the streams have it for a limit. -/
theorem streamLimit_of_bandwidth (hcapped : Capped channel) {params : VideoSendParameters}
    (hbandwidth : 0 ≤ params.maxBandwidthBps) :
    channel.streamLimit params = bandwidthLimit params.maxBandwidthBps := by
  rw [streamLimit]
  split_ifs with hnew
  · rfl
  · exact limit_of_kept hcapped hnew hbandwidth

/-- Without one the limit is lifted, or stays. -/
theorem streamLimit_of_no_bandwidth {params : VideoSendParameters}
    (hbandwidth : ¬ 0 ≤ params.maxBandwidthBps) :
    channel.streamLimit params =
      if BandwidthChanges channel params then -1 else channel.bitrateConfig.maxBitrateBps := by
  rw [streamLimit]
  split_ifs with hnew
  · have hlifted : params.maxBandwidthBps = -1 := by
      have hge := hnew.2
      omega
    rw [hlifted]
    rfl
  · rfl

/-- The streams and the channel come to the same limit. -/
theorem limit_iff (hcapped : Capped channel) {params : VideoSendParameters}
    (haccepted : AcceptedParameters api params) :
    channel.streamLimit params = (channel.updated api params).bitrateConfig.maxBitrateBps ↔
      ∀ codec, nextSendCodec api channel params = some codec →
        params.maxBandwidthBps < 0 →
        nextSendCodec api channel params ≠ channel.sendCodec ∨
            BandwidthChanges channel params →
          codecMaxBitrate api codec =
            if BandwidthChanges channel params then -1
            else channel.bitrateConfig.maxBitrateBps := by
  rw [maxBitrateBps_updated haccepted]
  by_cases hchanges : nextSendCodec api channel params ≠ channel.sendCodec ∨
      BandwidthChanges channel params
  · rw [if_pos hchanges]
    unfold channelLimit
    by_cases hbandwidth : 0 ≤ params.maxBandwidthBps
    · rw [if_pos hbandwidth]
      refine iff_of_true (streamLimit_of_bandwidth hcapped hbandwidth) fun codec _ hnegative => ?_
      omega
    · rw [if_neg hbandwidth, streamLimit_of_no_bandwidth hbandwidth]
      cases hnext : nextSendCodec api channel params with
      | none =>
          -- the codec in use cannot go away, so it is the bandwidth that has changed
          have hold := (Option.or_eq_none_iff.mp
            ((sendCodec_changesTo_or channel params).trans hnext)).2
          rw [hnext, hold] at hchanges
          have hnew := hchanges.resolve_left (by simp)
          have hge := hnew.2
          rw [if_pos hnew, if_pos (by omega)]
          simp
      | some codec =>
          rw [hnext] at hchanges
          constructor
          · intro hsame other hother _ _
            rw [← Option.some.inj hother, hsame]
          · intro hall
            exact (hall codec rfl (by omega) hchanges).symm
  · rw [if_neg hchanges, streamLimit, if_neg (not_or.mp hchanges).2]
    exact iff_of_true rfl fun codec _ _ hother => absurd hother hchanges

theorem settings_updated {params : VideoSendParameters}
    (haccepted : AcceptedParameters api params) :
    (channel.updated api params).sendParams = params ∧
      (channel.updated api params).extmapAllowMixed =
        (channel.changesTo api params).extmapAllowMixed.getD channel.extmapAllowMixed ∧
      (channel.updated api params).sendRtpExtensions =
        (channel.changesTo api params).rtpHeaderExtensions.or channel.sendRtpExtensions := by
  rw [updated_of_accepted haccepted, takeChanges]
  split_ifs <;> exact ⟨rfl, rfl, rfl⟩

theorem capped_updated (hcapped : Capped channel) {params : VideoSendParameters}
    (haccepted : AcceptedParameters api params) : Capped (channel.updated api params) := by
  rw [Capped, (settings_updated haccepted).1, maxBitrateBps_updated haccepted]
  intro hbandwidth
  split_ifs with hchanges
  · exact if_pos hbandwidth
  · exact limit_of_kept hcapped (not_or.mp hchanges).2 hbandwidth

/-! ## The views agree -/

/-- The view of a stream that is constructed after the parameters. -/
theorem channelView_updated {params : VideoSendParameters}
    (haccepted : AcceptedParameters api params) :
    channelView api (channel.updated api params) =
      viewWithCodec api
        { maxBitrateBps := (channel.updated api params).bitrateConfig.maxBitrateBps
          conferenceMode := params.conferenceMode
          codecSettings := nextSendCodec api channel params
          extensions := (channel.changesTo api params).rtpHeaderExtensions.getD
            (channel.sendRtpExtensions.getD [])
          extmapAllowMixed := (channel.changesTo api params).extmapAllowMixed.getD
            channel.extmapAllowMixed
          rtcpMode := rtcpModeOf params.rtcpReducedSize
          mid := params.mid
          encoderMaxBitrateBps := 0 }
        (nextSendCodec api channel params) := by
  obtain ⟨hparams, hmixed, hextensions⟩ := @settings_updated api channel params haccepted
  have hor : ((channel.changesTo api params).rtpHeaderExtensions.or
      channel.sendRtpExtensions).getD [] =
        (channel.changesTo api params).rtpHeaderExtensions.getD
          (channel.sendRtpExtensions.getD []) := by
    cases (channel.changesTo api params).rtpHeaderExtensions <;> rfl
  rw [channelView, sendCodec_updated haccepted, hparams, hmixed, hextensions, hor]

/-- The view after the parameters of a stream that was constructed before them. -/
theorem viewAfterChanges_channelView (channel : WebRtcVideoChannel)
    (params : VideoSendParameters) :
    viewAfterChanges api (channelView api channel) (channel.changesTo api params) =
      viewWithCodec api
        { maxBitrateBps := channel.streamLimit params
          conferenceMode := params.conferenceMode
          codecSettings := channel.sendCodec
          extensions := (channel.changesTo api params).rtpHeaderExtensions.getD
            (channel.sendRtpExtensions.getD [])
          extmapAllowMixed := (channel.changesTo api params).extmapAllowMixed.getD
            channel.extmapAllowMixed
          rtcpMode := rtcpModeOf params.rtcpReducedSize
          mid := params.mid
          encoderMaxBitrateBps := (channelView api channel).encoderMaxBitrateBps }
        (codecToSet channel.sendCodec (channel.changesTo api params)) := by
  have hconference : (channel.changesTo api params).conferenceMode.getD
      channel.sendParams.conferenceMode = params.conferenceMode := getD_changed id _ _
  have hrtcp : (channel.changesTo api params).rtcpMode.getD
      (rtcpModeOf channel.sendParams.rtcpReducedSize) = rtcpModeOf params.rtcpReducedSize :=
    getD_changed rtcpModeOf _ _
  have hmid : (channel.changesTo api params).mid.getD channel.sendParams.mid = params.mid :=
    getD_changed id _ _
  have hcodec : (channelView api channel).codecSettings = channel.sendCodec := Option.or_self
  rw [viewAfterChanges, hcodec, ← maxBandwidthBps_changesTo_getD, ← hconference, ← hrtcp, ← hmid]
  rfl

theorem conferenceMode_changesTo_eq_none_iff (channel : WebRtcVideoChannel)
    (params : VideoSendParameters) :
    (channel.changesTo api params).conferenceMode = none ↔
      params.conferenceMode = channel.sendParams.conferenceMode := by
  simp [changesTo]

/-- With the same limit the encoders are told the same, unless no codec is set. -/
theorem encoder_iff (channel : WebRtcVideoChannel) (params : VideoSendParameters) :
    ((codecToSet channel.sendCodec (channel.changesTo api params)).map fun codec =>
        encoderMaxBitrate api codec.codec (channel.streamLimit params)).getD
          (channelView api channel).encoderMaxBitrateBps =
        ((nextSendCodec api channel params).map fun codec =>
          encoderMaxBitrate api codec.codec (channel.streamLimit params)).getD 0 ↔
      ∀ codec, channel.sendCodec = some codec →
        nextSendCodec api channel params = channel.sendCodec →
        params.conferenceMode = channel.sendParams.conferenceMode →
        BandwidthChanges channel params →
          encoderMaxBitrate api codec.codec channel.bitrateConfig.maxBitrateBps =
            encoderMaxBitrate api codec.codec (bandwidthLimit params.maxBandwidthBps) := by
  have hnext := @sendCodec_changesTo_or api channel params
  have hstays := @sendCodec_changesTo_eq_none_iff api channel params
  have hconference := @conferenceMode_changesTo_eq_none_iff api channel params
  have hview : (channelView api channel).encoderMaxBitrateBps =
      (channel.sendCodec.map fun codec =>
        encoderMaxBitrate api codec.codec channel.bitrateConfig.maxBitrateBps).getD 0 := rfl
  rw [codecToSet, hview, ← hnext, streamLimit]
  cases hset : (channel.changesTo api params).sendCodec with
  | some sendCodec =>
      refine iff_of_true rfl fun codec _ hsame => ?_
      rw [← hset, hnext] at hsame
      exact absurd (hstays.mpr hsame) (by simp [hset])
  | none =>
      simp only [Option.none_or, true_imp_iff]
      cases hold : channel.sendCodec with
      | none => simp
      | some codec =>
          cases hmode : (channel.changesTo api params).conferenceMode with
          | some conferenceMode =>
              refine iff_of_true rfl fun _ _ hsame => ?_
              exact absurd (hconference.mpr hsame) (by simp [hmode])
          | none =>
              have hsame := hconference.mp hmode
              by_cases hnew : BandwidthChanges channel params
              · simp [hnew, hsame]
              · simp [hnew]

/-- A stream that is there before steady parameters ends up with the same view as one that is
constructed after them, and no other change has that effect. -/
theorem steady_iff (hcapped : Capped channel) {params : VideoSendParameters}
    (haccepted : AcceptedParameters api params) :
    Steady api channel params ↔
      ChannelCodecAtHand channel (channel.changesTo api params) ∧
        viewAfterChanges api (channelView api channel) (channel.changesTo api params) =
          channelView api (channel.updated api params) := by
  have hcodec : ChannelCodecAtHand channel (channel.changesTo api params) ↔
      (StreamChanges api channel params → nextSendCodec api channel params ≠ none) := by
    rw [← recreates_changesTo_iff, ← sendCodec_changesTo_or, ne_eq, Option.or_eq_none_iff,
      ChannelCodecAtHand, Option.isSome_iff_ne_none, Option.isSome_iff_ne_none,
      ← Bool.not_eq_true]
    tauto
  have hset : (codecToSet channel.sendCodec (channel.changesTo api params)).or
      channel.sendCodec = nextSendCodec api channel params := by
    rw [← sendCodec_changesTo_or, codecToSet, Option.or_assoc]
    cases (channel.changesTo api params).conferenceMode <;> simp
  constructor
  · intro hsteady
    refine ⟨hcodec.mpr hsteady.codecAtHand, ?_⟩
    have hlimit := (limit_iff hcapped haccepted).mpr hsteady.limit
    have hencoder := (encoder_iff channel params).mpr hsteady.encoder
    rw [viewAfterChanges_channelView, channelView_updated haccepted, ← hlimit]
    simp only [viewWithCodec, StreamView.mk.injEq, true_and, hset, Option.or_self]
    exact hencoder
  · rintro ⟨hatHand, hviews⟩
    rw [viewAfterChanges_channelView, channelView_updated haccepted] at hviews
    have hlimit : channel.streamLimit params =
        (channel.updated api params).bitrateConfig.maxBitrateBps :=
      congrArg StreamView.maxBitrateBps hviews
    rw [← hlimit] at hviews
    exact ⟨hcodec.mp hatHand, (limit_iff hcapped haccepted).mp hlimit,
      (encoder_iff channel params).mp (congrArg StreamView.encoderMaxBitrateBps hviews)⟩

end WebRtcVideoChannel

end PeerConnection.Engine
