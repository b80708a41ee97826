import PeerConnection.Engine.ChannelSteps

/-!
# Channels that are not sending

Without a source a stream takes every codec, so the streams of a channel that is not sending
all have the codec of the channel.  Changes are then applied without failing as long as there is
a codec or no stream has to be recreated.
-/

namespace PeerConnection.Engine

open PeerConnection.Runs
open PeerConnection.MapValues
open PeerConnection.Engine.WebRtcVideoSendStream
open Std

namespace WebRtcVideoSendStream

variable {api : EngineApi} {stream next : WebRtcVideoSendStream}

theorem codecSettings_setCodec {codecSettings : VideoCodecSettings}
    (hset : stream.setCodec api codecSettings = .ok next) :
    next.parameters.codecSettings = some codecSettings := by
  obtain ⟨encoderConfig, -, hrecreate⟩ := except_bind_eq_ok_iff.mp hset
  rw [eq_of_recreateWebRtcStream hrecreate]
  rfl

/-- The codec of the changes, and else the codec that the stream has. -/
theorem codecSettings_setSendParameters (hquiet : Quiet stream)
    {params : ChangedSendParameters} (hset : stream.setSendParameters api params = .ok next) :
    next.parameters.codecSettings = params.sendCodec.or stream.parameters.codecSettings := by
  rw [setSendParameters_eq_takeCodec hquiet] at hset
  have hchanged : (stream.withChanges params).parameters.codecSettings =
      stream.parameters.codecSettings := rfl
  unfold takeCodec at hset
  split at hset
  · rename_i sendCodec hsend
    rw [codecSettings_setCodec hset, hsend, Option.some_or]
  · rename_i hsend
    rw [hsend, Option.none_or]
    split at hset
    · rename_i hold
      rw [codecSettings_setCodec hset, ← hchanged, hold]
    · split_ifs at hset
      · rw [eq_of_recreateWebRtcStream hset, hchanged]
      · rw [← Except.ok.inj hset, hchanged]

end WebRtcVideoSendStream

namespace WebRtcVideoChannel

variable {api : EngineApi} {channel next : WebRtcVideoChannel}

/-! ## Streams follow the codec of the channel -/

/-- No stream sends or has a source, and all streams have the codec of the channel. -/
structure Settled (channel : WebRtcVideoChannel) : Prop where
  sending : channel.sending = false
  quiet : ∀ (key : UInt32) stream, channel.sendStreams[key]? = some stream → Quiet stream
  codec : ∀ (key : UInt32) stream, channel.sendStreams[key]? = some stream →
    stream.parameters.codecSettings = channel.sendCodec

theorem settled_create (videoConfig : VideoConfig) (options : VideoOptions) :
    Settled (create videoConfig options) where
  sending := rfl
  quiet := by simp [create]
  codec := by simp [create]

theorem SameMedia.settled (hsame : SameMedia channel next) (hsettled : Settled channel) :
    Settled next where
  sending := hsame.sending.trans hsettled.sending
  quiet := by
    rw [hsame.sendStreams]
    exact hsettled.quiet
  codec := by
    rw [hsame.sendStreams, hsame.sendCodec]
    exact hsettled.codec

/-- A codec for the streams that are recreated. -/
def ChannelCodecAtHand (channel : WebRtcVideoChannel) (params : ChangedSendParameters) : Prop :=
  params.sendCodec.isSome ∨ channel.sendCodec.isSome ∨ recreates params = false

theorem exists_applyChangedParams (hsettled : Settled channel) {params : ChangedSendParameters}
    (hcodec : ChannelCodecAtHand channel params) :
    ∃ next, channel.applyChangedParams api params = .ok next := by
  have hstreams : ∀ (key : UInt32) stream, channel.sendStreams[key]? = some stream →
      ∃ changed, stream.setSendParameters api params = .ok changed := by
    intro key stream hstream
    apply setSendParameters_quiet (hsettled.quiet key stream hstream)
    rw [CodecAtHand, hsettled.codec key stream hstream]
    exact hcodec
  obtain ⟨sendStreams, hupdate⟩ := updateValues_total hstreams
  rw [applyChangedParams, hupdate]
  exact ⟨_, rfl⟩

/-- What the changes make of the codecs. -/
theorem codecs_applyChangedParams {params : ChangedSendParameters}
    (happly : channel.applyChangedParams api params = .ok next) :
    next.negotiatedCodecs = params.negotiatedCodecs.getD channel.negotiatedCodecs ∧
      next.sendCodec = params.sendCodec.or channel.sendCodec := by
  obtain ⟨sendStreams, -, rfl⟩ := exists_of_applyChangedParams happly
  exact ⟨negotiatedCodecs_takeChanges params, sendCodec_takeChanges params⟩

theorem settled_applyChangedParams (hsettled : Settled channel)
    {params : ChangedSendParameters}
    (happly : channel.applyChangedParams api params = .ok next) : Settled next := by
  have hsame := sameStreams_applyChangedParams happly
  have hcodec := (codecs_applyChangedParams happly).2
  obtain ⟨sendStreams, hupdate, rfl⟩ := exists_of_applyChangedParams happly
  refine ⟨hsame.sending.trans hsettled.sending, fun key changed hchanged => ?_,
    fun key changed hchanged => ?_⟩
  · obtain ⟨stream, hstream, hkept⟩ := hsame.exists_of_some hchanged
    exact (hsettled.quiet key stream hstream).of_same hkept
  · obtain ⟨stream, hstream, hset⟩ := exists_of_updateValues hupdate hchanged
    rw [codecSettings_setSendParameters (hsettled.quiet key stream hstream) hset,
      hsettled.codec key stream hstream, hcodec]

theorem Applies.settled {Asked : ChangedSendParameters → Prop}
    (happlies : Applies api channel next Asked) (hsettled : Settled channel) : Settled next := by
  cases happlies with
  | kept hsame => exact hsame.settled hsettled
  | applied hbase _ happly hresult =>
      exact hresult.settled (settled_applyChangedParams (hbase.settled hsettled) happly)

/-- A stream starts with the codec of the channel. -/
theorem codecSettings_createSendStream {sp : SendStreamParams} {stream : WebRtcVideoSendStream}
    (hcreate : channel.createSendStream api sp = .ok stream) :
    stream.parameters.codecSettings = channel.sendCodec := by
  obtain ⟨rtpParameters, -, ⟨-, rfl⟩ | ⟨sendCodec, hsend, hset⟩⟩ :=
    createSendStream_cases hcreate
  · rfl
  · rw [codecSettings_setCodec hset, hsend]

theorem settled_withSendStream {sp : SendStreamParams} {stream : WebRtcVideoSendStream}
    (hsettled : Settled channel) (hcreate : channel.createSendStream api sp = .ok stream) :
    Settled (channel.withSendStream sp stream) := by
  refine ⟨hsettled.sending, fun key other hother => ?_, fun key other hother => ?_⟩
  · rw [getElem?_withSendStream] at hother
    split_ifs at hother
    · rw [← Option.some.inj hother]
      exact (created_createSendStream hcreate).quiet
    · exact hsettled.quiet key other hother
  · rw [getElem?_withSendStream] at hother
    split_ifs at hother
    · rw [← Option.some.inj hother]
      exact codecSettings_createSendStream hcreate
    · exact hsettled.codec key other hother

theorem settled_removeSendStream (hsettled : Settled channel) (ssrc : UInt32) :
    Settled (channel.removeSendStream ssrc).1 := by
  have hframe : (channel.removeSendStream ssrc).1.sending = channel.sending ∧
      (channel.removeSendStream ssrc).1.sendCodec = channel.sendCodec := by
    rcases removeSendStream_cases channel ssrc with ⟨-, hremove⟩ | ⟨removed, -, hremove⟩
    · rw [hremove]
      exact ⟨rfl, rfl⟩
    · rw [hremove]
      exact ⟨rfl, rfl⟩
  refine ⟨hframe.1.trans hsettled.sending, fun key stream hstream => ?_,
    fun key stream hstream => ?_⟩
  · exact hsettled.quiet key stream (exists_of_removeSendStream hstream).2
  · rw [hframe.2]
    exact hsettled.codec key stream (exists_of_removeSendStream hstream).2

theorem settled_channelStep {call : ChannelCall} (hsettled : Settled channel)
    (hstep : channelStep api channel call = some (.ok next)) : Settled next := by
  rcases channelStep_cases hstep with ⟨sp, accepted, -, hadd⟩ | ⟨ssrc, -, rfl⟩ | happlies
  · rcases addSendStream_cases hadd with ⟨-, rfl⟩ |
      ⟨-, -, -, created, stream, hcreate, hstream, rfl⟩
    · exact hsettled
    · rw [hsettled.sending] at hstream
      obtain rfl := Except.ok.inj hstream
      exact settled_withSendStream hsettled hcreate
  · exact settled_removeSendStream hsettled ssrc
  · exact happlies.settled hsettled

end WebRtcVideoChannel

end PeerConnection.Engine
