import PeerConnection.Engine.RtpParameterErrors
import PeerConnection.Engine.SendSettings

/-!
# Starting to send and setting a source

`SetSend` and `SetVideoSend` are the calls that need the underlying stream, and that stream is
never created.  A run that goes on has therefore never started a stream, and a channel that is
sending has none.
-/

namespace PeerConnection.Engine

open PeerConnection.Text
open PeerConnection.Runs
open PeerConnection.MapValues
open PeerConnection.Engine.WebRtcVideoSendStream
open Std

/-- `VideoOptions::SetAll`: what is set is taken over. -/
def VideoOptions.setAll (options change : VideoOptions) : VideoOptions where
  isScreencast := change.isScreencast.or options.isScreencast
  screencastMinBitrateKbps := change.screencastMinBitrateKbps.or options.screencastMinBitrateKbps

namespace WebRtcVideoSendStream

variable (api : EngineApi)

/-- The encoder is reconfigured for options that differ from these. -/
def reconfigureUnless (stream : WebRtcVideoSendStream) (oldOptions : VideoOptions) :
    Except ChannelFault WebRtcVideoSendStream :=
  if stream.parameters.options ≠ oldOptions then stream.reconfigureEncoder api else .ok stream

/-- The part of `SetVideoSend` for the options.  Other options than those for screencasts only
matter to the underlying stream. -/
def takeOptions (stream : WebRtcVideoSendStream) (options : VideoOptions) :
    Except ChannelFault WebRtcVideoSendStream :=
  let oldOptions := stream.parameters.options
  let newOptions := oldOptions.setAll options
  let changed := { stream with parameters := { stream.parameters with options := newOptions } }
  match stream.parameters.codecSettings with
  | none => changed.reconfigureUnless api oldOptions
  | some codecSettings =>
      if newOptions.isScreencast.getD false ≠ oldOptions.isScreencast.getD false then
        (changed.setCodec api codecSettings).bind fun changed =>
          changed.reconfigureUnless api { oldOptions with isScreencast := options.isScreencast }
      else changed.reconfigureUnless api oldOptions

/-- `SetVideoSend`; `source` says whether there is a new source. -/
def setVideoSend (stream : WebRtcVideoSendStream) (options : Option VideoOptions)
    (source : Bool) : Except ChannelFault WebRtcVideoSendStream :=
  match options with
  | none => .ok { stream with hasSource := source }
  | some options =>
      (stream.takeOptions api options).map fun changed => { changed with hasSource := source }

end WebRtcVideoSendStream

namespace WebRtcVideoChannel

variable (api : EngineApi)

/-- `SetSend`, which returns false before there is a codec. -/
def setSend (channel : WebRtcVideoChannel) (send : Bool) :
    Except ChannelFault (WebRtcVideoChannel × Bool) :=
  if send && channel.sendCodec.isNone then .ok (channel, false)
  else
    (updateValues (·.setSend send) channel.sendStreams).map fun sendStreams =>
      ({ channel with sendStreams := sendStreams, sending := send }, true)

/-- `SetVideoSend` for the stream with this SSRC. -/
def setVideoSend (channel : WebRtcVideoChannel) (ssrc : UInt32) (options : Option VideoOptions)
    (source : Bool) : Except ChannelFault (WebRtcVideoChannel × Bool) :=
  match channel.sendStreams[ssrc]? with
  | none => if source then .error .checkFailed else .ok (channel, false)
  | some stream =>
      (stream.setVideoSend api options source).map fun changed =>
        ({ channel with sendStreams := channel.sendStreams.insert ssrc changed }, true)

end WebRtcVideoChannel

/-- The calls of the channel with those for sending. -/
inductive SenderCall where
  | rtpCall (call : RtpCall)
  | setSend (send : Bool)
  | setVideoSend (ssrc : UInt32) (options : Option VideoOptions) (source : Bool)
  deriving DecidableEq

def senderStep (api : RtpApi) : System WebRtcVideoChannel SenderCall ChannelFault :=
  fun channel call =>
    match call with
    | .rtpCall call => rtpStep api channel call
    | .setSend send => some ((channel.setSend send).map (·.1))
    | .setVideoSend ssrc options source =>
        some ((channel.setVideoSend api.toEngineApi ssrc options source).map (·.1))

/-! ## Streams without an underlying one -/

namespace WebRtcVideoSendStream

variable {api : EngineApi} {stream next : WebRtcVideoSendStream}

/-- A stream as it can be reached: it has never been started. -/
structure Unattached (stream : WebRtcVideoSendStream) : Prop where
  underlying : stream.hasStream = false
  sending : stream.sending = false
  encodings : stream.rtpParameters.encodings ≠ []

theorem Quiet.unattached (hquiet : Quiet stream) : Unattached stream where
  underlying := hquiet.underlying
  sending := hquiet.sending
  encodings := by
    obtain ⟨first, rest, hencodings, -⟩ := hquiet.encoding
    simp [hencodings]

theorem Unattached.of_same (hunattached : Unattached stream) (hsame : SameStream stream next) :
    Unattached next where
  underlying := hsame.underlying.trans hunattached.underlying
  sending := hsame.sending.trans hunattached.sending
  encodings := by
    rw [hsame.encodings]
    exact hunattached.encodings

theorem reconfigureEncoder_unattached (hunattached : Unattached stream) :
    stream.reconfigureEncoder api = .ok stream := by
  rw [reconfigureEncoder, if_pos (by simp [hunattached.underlying])]

theorem updateSendState_unattached (hunattached : Unattached stream) :
    stream.updateSendState = .ok stream := by
  rw [updateSendState, if_neg (by simp [hunattached.sending])]

/-- A stream with a codec is recreated unless it has a source. -/
theorem recreateWebRtcStream_unattached (hunattached : Unattached stream)
    (hcodec : stream.parameters.codecSettings.isSome) :
    stream.recreateWebRtcStream =
      if stream.hasSource then .error .nullStream else .ok stream := by
  obtain ⟨codecSettings, hcodec⟩ := Option.isSome_iff_exists.mp hcodec
  rw [recreateWebRtcStream, hcodec]
  simp only [hunattached.underlying, Bool.false_eq_true, not_false_eq_true, and_true]
  rw [updateSendState_unattached hunattached]

theorem setCodec_unattached (hunattached : Unattached stream)
    (codecSettings : VideoCodecSettings) :
    ∃ encoderConfig, stream.setCodec api codecSettings =
      if stream.hasSource then .error .nullStream
      else .ok (stream.withCodec api codecSettings encoderConfig) := by
  obtain ⟨first, rest, hencodings⟩ := List.exists_cons_of_ne_nil hunattached.encodings
  refine ⟨encoderConfigFor api stream first codecSettings.codec, ?_⟩
  have hcreate : stream.createVideoEncoderConfig api codecSettings.codec =
      .ok (encoderConfigFor api stream first codecSettings.codec) := by
    rw [createVideoEncoderConfig, hencodings]
  have hwritten := hunattached.of_same (@same_withCodec api stream codecSettings
    (encoderConfigFor api stream first codecSettings.codec))
  rw [setCodec, hcreate]
  exact recreateWebRtcStream_unattached hwritten rfl

theorem setCodec_fails_iff (hunattached : Unattached stream)
    {codecSettings : VideoCodecSettings} :
    (∃ reason, stream.setCodec api codecSettings = .error reason) ↔
      stream.hasSource = true := by
  obtain ⟨encoderConfig, hset⟩ := @setCodec_unattached api _ hunattached codecSettings
  rw [hset]
  split_ifs with hsource <;> simp [hsource]

theorem setSendParameters_unattached (hunattached : Unattached stream)
    (params : ChangedSendParameters) :
    stream.setSendParameters api params = (stream.withChanges params).takeCodec api params := by
  have hchanged := hunattached.of_same (same_takeRtpChanges stream params)
  have hbandwidth : (stream.takeRtpChanges params).takeBandwidth api params =
      .ok { stream.takeRtpChanges params with
        parameters := { (stream.takeRtpChanges params).parameters with
          maxBitrateBps := params.maxBandwidthBps.getD
            (stream.takeRtpChanges params).parameters.maxBitrateBps } } := by
    rw [takeBandwidth]
    cases params.maxBandwidthBps with
    | none => rfl
    | some maxBandwidthBps =>
        exact reconfigureEncoder_unattached
          ⟨hchanged.underlying, hchanged.sending, hchanged.encodings⟩
  rw [setSendParameters, hbandwidth]
  rfl

/-- The changes set a codec on a stream with this codec, or ask for its recreation. -/
def Disturbs (codecSettings : Option VideoCodecSettings) (params : ChangedSendParameters) :
    Prop :=
  (codecToSet codecSettings params).isSome ∨ recreates params = true

/-- Changes are not applied where they recreate a stream that has a source or no codec. -/
theorem setSendParameters_fails_iff (hunattached : Unattached stream)
    {params : ChangedSendParameters} :
    (∃ reason, stream.setSendParameters api params = .error reason) ↔
      Disturbs stream.parameters.codecSettings params ∧ (stream.hasSource = true ∨
        params.sendCodec = none ∧ stream.parameters.codecSettings = none) := by
  have hchanged := hunattached.of_same (same_withChanges stream params)
  have hold : (stream.withChanges params).parameters.codecSettings =
      stream.parameters.codecSettings := rfl
  have hsource : (stream.withChanges params).hasSource = stream.hasSource := rfl
  rw [setSendParameters_unattached hunattached, takeCodec_eq_match, hold, Disturbs]
  cases hcodec : codecToSet stream.parameters.codecSettings params with
  | some codecSettings =>
      have hnot : ¬ (params.sendCodec = none ∧ stream.parameters.codecSettings = none) := by
        rintro ⟨hsend, hnone⟩
        rw [codecToSet, hsend, hnone] at hcodec
        cases params.conferenceMode <;> simp at hcodec
      simp only [setCodec_fails_iff hchanged, hsource, Option.isSome_some, true_or, true_and]
      tauto
  | none =>
      have hsend : params.sendCodec = none := (Option.or_eq_none_iff.mp hcodec).1
      simp only [Option.isSome_none, Bool.false_eq_true, false_or, hsend, true_and]
      by_cases hrecreates : recreates params = true
      · simp only [hrecreates, if_true, true_and]
        cases hset : stream.parameters.codecSettings with
        | none => simp [recreateWebRtcStream, hold, hset]
        | some codecSettings =>
            rw [recreateWebRtcStream_unattached hchanged (by simp [hold, hset]), hsource]
            split_ifs with hhas <;> simp [hhas]
      · simp [hrecreates]

/-- The codec of the changes, and else the codec that the stream has. -/
theorem codecSettings_takeChanges (hunattached : Unattached stream)
    {params : ChangedSendParameters} (hset : stream.setSendParameters api params = .ok next) :
    next.parameters.codecSettings = params.sendCodec.or stream.parameters.codecSettings := by
  have hold : (stream.withChanges params).parameters.codecSettings =
      stream.parameters.codecSettings := rfl
  rw [setSendParameters_unattached hunattached, takeCodec_eq_match, hold, codecToSet] at hset
  cases hsend : params.sendCodec with
  | some sendCodec =>
      rw [hsend] at hset
      exact codecSettings_setCodec hset
  | none =>
      rw [hsend, Option.none_or] at hset
      rw [Option.none_or, ← hold]
      cases hmode : params.conferenceMode.bind fun _ => stream.parameters.codecSettings with
      | some codecSettings =>
          rw [hmode] at hset
          obtain ⟨mode, -, hcodec⟩ := Option.bind_eq_some_iff.mp hmode
          rw [codecSettings_setCodec hset, hold, hcodec]
      | none =>
          rw [hmode] at hset
          dsimp only at hset
          split_ifs at hset
          · rw [eq_of_recreateWebRtcStream hset]
          · rw [← Except.ok.inj hset]

end WebRtcVideoSendStream

end PeerConnection.Engine
