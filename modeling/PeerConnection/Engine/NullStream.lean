import PeerConnection.Core.RunHistory
import PeerConnection.Engine.SendingCalls

/-!
# Calls that need the underlying stream

Since the underlying stream is never there, a call ends in a null dereference as soon as it
starts a stream or recreates one that has a source.  Which calls these are can be read off the
channel before the call.
-/

namespace PeerConnection.Engine

open PeerConnection.Text
open PeerConnection.Runs
open PeerConnection.MapValues
open PeerConnection.Engine.WebRtcVideoSendStream
open Std

/-! ## One stream -/

namespace WebRtcVideoSendStream

variable {api : EngineApi} {stream next : WebRtcVideoSendStream}

theorem setSend_unattached (hunattached : Unattached stream) (send : Bool) :
    stream.setSend send = if send then .error .nullStream else .ok stream := by
  cases send with
  | true =>
      rw [setSend, updateSendState, if_pos ⟨rfl, by simp [hunattached.underlying]⟩]
      rfl
  | false =>
      have hsame : { stream with sending := false } = stream := by
        rw [← hunattached.sending]
      rw [setSend, hsame, updateSendState_unattached hunattached]
      rfl

theorem reconfigureUnless_unattached (hunattached : Unattached stream)
    (oldOptions : VideoOptions) : stream.reconfigureUnless api oldOptions = .ok stream := by
  rw [reconfigureUnless]
  split_ifs
  · exact reconfigureEncoder_unattached hunattached
  · rfl

/-- The options turn a screencast on or off. -/
def TurnsScreencast (stream : WebRtcVideoSendStream) (options : VideoOptions) : Prop :=
  (stream.parameters.options.setAll options).isScreencast.getD false ≠
    stream.parameters.options.isScreencast.getD false

/-- The stream with the options and without anything else having changed. -/
def withOptions (stream : WebRtcVideoSendStream) (options : VideoOptions) :
    WebRtcVideoSendStream :=
  { stream with parameters := { stream.parameters with
      options := stream.parameters.options.setAll options } }

theorem Unattached.withOptions (hunattached : Unattached stream) (options : VideoOptions) :
    Unattached (stream.withOptions options) :=
  ⟨hunattached.underlying, hunattached.sending, hunattached.encodings⟩

theorem takeOptions_unattached (hunattached : Unattached stream) (options : VideoOptions) :
    (stream.hasSource = true ∧ stream.parameters.codecSettings.isSome ∧
        TurnsScreencast stream options ∧
        stream.takeOptions api options = .error .nullStream) ∨
      (¬ (stream.hasSource = true ∧ stream.parameters.codecSettings.isSome ∧
          TurnsScreencast stream options) ∧
        ∃ next, stream.takeOptions api options = .ok next ∧ SameStream stream next ∧
          next.parameters.codecSettings = stream.parameters.codecSettings) := by
  have hoptions := hunattached.withOptions options
  have hsame : SameStream stream (stream.withOptions options) :=
    ⟨rfl, rfl, rfl, rfl, rfl, rfl, rfl, List.Subset.refl _⟩
  have hkept := @reconfigureUnless_unattached api _ hoptions stream.parameters.options
  cases hcodec : stream.parameters.codecSettings with
  | none =>
      have htake : stream.takeOptions api options = .ok (stream.withOptions options) := by
        rw [takeOptions, hcodec]
        exact hkept
      exact Or.inr ⟨by simp, stream.withOptions options, htake, hsame, hcodec⟩
  | some codecSettings =>
      by_cases hturns : TurnsScreencast stream options
      · obtain ⟨encoderConfig, hset⟩ := @setCodec_unattached api _ hoptions codecSettings
        have hsource : (stream.withOptions options).hasSource = stream.hasSource := rfl
        have htake : stream.takeOptions api options =
            ((stream.withOptions options).setCodec api codecSettings).bind fun changed =>
              changed.reconfigureUnless api
                { stream.parameters.options with isScreencast := options.isScreencast } := by
          rw [takeOptions, hcodec]
          exact if_pos hturns
        have hwritten := @same_withCodec api (stream.withOptions options) codecSettings
          encoderConfig
        rw [htake, hset, hsource]
        by_cases hhas : stream.hasSource = true
        · rw [if_pos hhas]
          exact Or.inl ⟨hhas, by simp, hturns, rfl⟩
        · rw [if_neg hhas]
          refine Or.inr ⟨fun hall => hhas hall.1, _, ?_, hsame.trans hwritten, rfl⟩
          exact reconfigureUnless_unattached (hoptions.of_same hwritten) _
      · have htake : stream.takeOptions api options = .ok (stream.withOptions options) := by
          rw [takeOptions, hcodec]
          exact (if_neg hturns).trans hkept
        exact Or.inr ⟨fun hall => hturns hall.2.2, _, htake, hsame, hcodec⟩

/-- A source is set unless the options turn a screencast on or off under an old source. -/
theorem setVideoSend_cases (hunattached : Unattached stream) (options : Option VideoOptions)
    (source : Bool) :
    ((stream.hasSource = true ∧ stream.parameters.codecSettings.isSome ∧
          ∃ change, options = some change ∧ TurnsScreencast stream change) ∧
        stream.setVideoSend api options source = .error .nullStream) ∨
      (¬ (stream.hasSource = true ∧ stream.parameters.codecSettings.isSome ∧
          ∃ change, options = some change ∧ TurnsScreencast stream change) ∧
        ∃ next, stream.setVideoSend api options source = .ok next ∧ Unattached next ∧
          next.parameters.codecSettings = stream.parameters.codecSettings) := by
  cases options with
  | none =>
      refine Or.inr ⟨by simp, _, rfl, ?_, rfl⟩
      exact ⟨hunattached.underlying, hunattached.sending, hunattached.encodings⟩
  | some change =>
      rw [setVideoSend]
      obtain ⟨hhas, hcodec, hturns, hfails⟩ | ⟨hnot, next, htake, hsame, hcodec⟩ :=
        @takeOptions_unattached api _ hunattached change
      · rw [hfails]
        exact Or.inl ⟨⟨hhas, hcodec, change, rfl, hturns⟩, rfl⟩
      · rw [htake]
        have hnext := hunattached.of_same hsame
        refine Or.inr ⟨?_, _, rfl, ⟨hnext.underlying, hnext.sending, hnext.encodings⟩, hcodec⟩
        rintro ⟨hhas, hset, other, hother, hturns⟩
        obtain rfl := Option.some.inj hother
        exact hnot ⟨hhas, hset, hturns⟩

/-- The application can set RTP parameters at any time. -/
theorem setRtpParameters_unattached (hunattached : Unattached stream)
    (newParameters : RtpParameters) :
    ∃ taken error, stream.setRtpParameters api newParameters = .ok (taken, error) ∧
      Unattached taken ∧
      taken.parameters.codecSettings = stream.parameters.codecSettings := by
  rw [setRtpParameters]
  cases hcheck : checkRtpParametersInvalidModificationAndValues stream.rtpParameters
      newParameters with
  | some error => exact ⟨stream, some error, rfl, hunattached, rfl⟩
  | none =>
      have hlength : newParameters.encodings.length = stream.rtpParameters.encodings.length := by
        by_contra hdiffers
        rw [checkRtpParametersInvalidModificationAndValues, if_pos hdiffers] at hcheck
        exact absurd hcheck (by simp)
      obtain ⟨oldFirst, oldRest, hold⟩ := List.exists_cons_of_ne_nil hunattached.encodings
      cases hnew : newParameters.encodings with
      | nil =>
          rw [hnew, hold] at hlength
          exact absurd hlength (by simp)
      | cons newFirst newRest =>
          rw [hold]
          have htaken : Unattached
              { stream with rtpParameters := { newParameters with codecs := [] } } :=
            ⟨hunattached.underlying, hunattached.sending, by simp [hnew]⟩
          have htake : stream.takeRtpParameters api newParameters newFirst oldFirst =
              .ok { stream with rtpParameters := { newParameters with codecs := [] } } := by
            rw [takeRtpParameters]
            simp only [reconfigureEncoder_unattached htaken, ite_self, Except.bind,
              updateSendState_unattached htaken]
          refine ⟨_, none, ?_, htaken, rfl⟩
          simp only [htake]
          rfl

end WebRtcVideoSendStream

/-! ## The channel -/

namespace WebRtcVideoChannel

/-- The switch to the first negotiated codec that passes the test, if it is not in use. -/
def switchOf (channel : WebRtcVideoChannel) (test : VideoCodecSettings → Bool)
    (change : VideoCodecSettings → VideoCodecSettings) : Option ChangedSendParameters :=
  (channel.negotiatedCodecs.find? test).bind fun codecSetting =>
    if channel.sendCodec = some (change codecSetting) then none
    else some { sendCodec := some (change codecSetting) }

/-- What a call other than those for single streams applies to all of them, if anything. -/
def changeOf (api : EngineApi) (channel : WebRtcVideoChannel) :
    ChannelCall → Option ChangedSendParameters
  | .setSendParameters params => channel.getChangedSendParameters api params
  | .requestEncoderFallback =>
      match channel.negotiatedCodecs with
      | _ :: front :: rest =>
          some { negotiatedCodecs := some (front :: rest), sendCodec := some front }
      | _ => none
  | .requestEncoderSwitch conf =>
      if channel.allowCodecSwitching then channel.switchOf (matchesSwitch conf) id else none
  | .requestEncoderSwitchFormat format =>
      channel.switchOf (api.isSameCodec format ·.codec.format) fun codecSetting =>
        { codecSetting with
          codec := { codecSetting.codec with
            params := overwriteParams codecSetting.codec.params format.parameters } }
  | .setVideoCodecSwitchingEnabled enabled =>
      if enabled then
        channel.requestedEncoderSwitch.bind fun conf => channel.switchOf (matchesSwitch conf) id
      else none
  | .addSendStream _ => none
  | .removeSendStream _ => none

/-- The changes disturb a stream that has a source or for which there is no codec. -/
structure DisturbsStream (channel : WebRtcVideoChannel) (params : ChangedSendParameters) :
    Prop where
  disturbs : Disturbs channel.sendCodec params
  stream : ∃ (key : UInt32) (stream : WebRtcVideoSendStream),
    channel.sendStreams[key]? = some stream ∧
      (stream.hasSource = true ∨ params.sendCodec = none ∧ channel.sendCodec = none)

/-- The calls that end in a null dereference, a failed check or an access out of range. -/
def Hazard (api : RtpApi) (channel : WebRtcVideoChannel) : SenderCall → Prop
  | .setSend send => send = true ∧ channel.sendCodec.isSome ∧ channel.sendStreams ≠ ∅
  | .setVideoSend ssrc options source =>
      match channel.sendStreams[ssrc]? with
      | none => source = true
      | some stream => stream.hasSource = true ∧ channel.sendCodec.isSome ∧
          ∃ change, options = some change ∧ TurnsScreencast stream change
  | .rtpCall (.setRtpSendParameters _ _) => False
  | .rtpCall (.channelCall (.addSendStream sp)) =>
      validateStreamParams sp = true ∧ channel.validateSendSsrcAvailability sp = true ∧
        (¬ Constructible sp ∨ channel.sending = true)
  | .rtpCall (.channelCall call) =>
      ∃ params, channel.changeOf api.toEngineApi call = some params ∧
        channel.DisturbsStream params

/-- A channel as it can be reached: no stream has been started, and all have its codec. -/
structure Idle (channel : WebRtcVideoChannel) : Prop where
  sending : channel.sending = true → channel.sendStreams = ∅
  unattached : ∀ (key : UInt32) stream, channel.sendStreams[key]? = some stream →
    Unattached stream
  codec : ∀ (key : UInt32) stream, channel.sendStreams[key]? = some stream →
    stream.parameters.codecSettings = channel.sendCodec

variable {channel next : WebRtcVideoChannel}

theorem idle_create (videoConfig : VideoConfig) (options : VideoOptions) :
    Idle (create videoConfig options) where
  sending _ := rfl
  unattached := by simp [create]
  codec := by simp [create]

theorem Idle.of_sameMedia (hidle : Idle channel) (hsame : SameMedia channel next) :
    Idle next where
  sending := by
    rw [hsame.sending, hsame.sendStreams]
    exact hidle.sending
  unattached := by
    rw [hsame.sendStreams]
    exact hidle.unattached
  codec := by
    rw [hsame.sendStreams, hsame.sendCodec]
    exact hidle.codec

/-- A stream that is there is replaced. -/
theorem Idle.insert (hidle : Idle channel) {ssrc : UInt32}
    {stream changed : WebRtcVideoSendStream} (hstream : channel.sendStreams[ssrc]? = some stream)
    (hunattached : Unattached changed)
    (hcodec : changed.parameters.codecSettings = channel.sendCodec) :
    Idle { channel with sendStreams := channel.sendStreams.insert ssrc changed } where
  sending hsending := by
    rw [hidle.sending hsending] at hstream
    exact absurd hstream (by simp)
  unattached key other hother := by
    rw [getElem?_insert_eq_ite] at hother
    split_ifs at hother
    · rwa [← Option.some.inj hother]
    · exact hidle.unattached key other hother
  codec key other hother := by
    rw [getElem?_insert_eq_ite] at hother
    split_ifs at hother
    · rwa [← Option.some.inj hother]
    · exact hidle.codec key other hother

section Calls

variable {api : EngineApi}

theorem idle_applyChangedParams (hidle : Idle channel) {params : ChangedSendParameters}
    (happly : channel.applyChangedParams api params = .ok next) : Idle next := by
  have hsame := sameStreams_applyChangedParams happly
  have hcodec := (codecs_applyChangedParams happly).2
  obtain ⟨sendStreams, hupdate, rfl⟩ := exists_of_applyChangedParams happly
  refine ⟨fun hsending => ?_, fun key changed hchanged => ?_, fun key changed hchanged => ?_⟩
  · rw [hsame.sending] at hsending
    rw [hidle.sending hsending, updateValues_empty] at hupdate
    exact (Except.ok.inj hupdate).symm
  · obtain ⟨stream, hstream, hset⟩ := exists_of_updateValues hupdate hchanged
    exact (hidle.unattached key stream hstream).of_same (same_setSendParameters hset)
  · obtain ⟨stream, hstream, hset⟩ := exists_of_updateValues hupdate hchanged
    rw [codecSettings_takeChanges (hidle.unattached key stream hstream) hset,
      hidle.codec key stream hstream, ← hcodec]

theorem Idle.of_applies {Asked : ChangedSendParameters → Prop} (hidle : Idle channel)
    (happlies : Applies api channel next Asked) : Idle next := by
  cases happlies with
  | kept hsame => exact hidle.of_sameMedia hsame
  | applied hbase _ happly hresult =>
      exact (idle_applyChangedParams (hidle.of_sameMedia hbase) happly).of_sameMedia hresult

/-- A stream is added while the channel is not sending. -/
theorem idle_addSendStream (hidle : Idle channel) {sp : SendStreamParams} {accepted : Bool}
    (hadd : channel.addSendStream api sp = .ok (next, accepted)) : Idle next := by
  obtain ⟨-, rfl⟩ | ⟨-, -, -, created, stream, hcreate, hstream, rfl⟩ := addSendStream_cases hadd
  · exact hidle
  · have hcreated := (created_createSendStream hcreate).quiet.unattached
    cases hsending : channel.sending with
    | true =>
        rw [hsending, if_pos rfl, setSend_unattached hcreated, if_pos rfl] at hstream
        exact absurd hstream (by simp)
    | false =>
        rw [hsending] at hstream
        obtain rfl := Except.ok.inj hstream
        have hkept : (channel.withSendStream sp created).sending = channel.sending := rfl
        refine ⟨fun hnow => ?_, fun key other hother => ?_, fun key other hother => ?_⟩
        · rw [hkept, hsending] at hnow
          exact absurd hnow (by simp)
        · rw [getElem?_withSendStream] at hother
          split_ifs at hother
          · rw [← Option.some.inj hother]
            exact hcreated
          · exact hidle.unattached key other hother
        · rw [getElem?_withSendStream] at hother
          split_ifs at hother
          · rw [← Option.some.inj hother]
            exact codecSettings_createSendStream hcreate
          · exact hidle.codec key other hother

theorem idle_removeSendStream (hidle : Idle channel) (ssrc : UInt32) :
    Idle (channel.removeSendStream ssrc).1 := by
  obtain ⟨-, hremove⟩ | ⟨removed, hremoved, hremove⟩ := removeSendStream_cases channel ssrc
  · rw [hremove]
    exact hidle
  · refine ⟨fun hsending => ?_, fun key stream hstream => ?_, fun key stream hstream => ?_⟩
    · rw [hremove] at hsending
      rw [hidle.sending hsending] at hremoved
      exact absurd hremoved (by simp)
    · exact hidle.unattached key stream (exists_of_removeSendStream hstream).2
    · rw [hidle.codec key stream (exists_of_removeSendStream hstream).2, hremove]

theorem idle_setVideoSend (hidle : Idle channel) {ssrc : UInt32} {options : Option VideoOptions}
    {source answer : Bool}
    (hset : channel.setVideoSend api ssrc options source = .ok (next, answer)) : Idle next := by
  rw [setVideoSend] at hset
  cases hstream : channel.sendStreams[ssrc]? with
  | none =>
      rw [hstream] at hset
      cases source with
      | true => exact absurd hset (by simp)
      | false =>
          obtain ⟨rfl, -⟩ := Prod.mk.inj (Except.ok.inj hset)
          exact hidle
  | some stream =>
      rw [hstream] at hset
      obtain ⟨changed, hchanged, hpair⟩ := except_map_eq_ok_iff.mp hset
      obtain ⟨rfl, -⟩ := Prod.mk.inj hpair
      obtain ⟨-, hfails⟩ | ⟨-, other, hother, hunattached, hcodec⟩ :=
        @setVideoSend_cases api _ (hidle.unattached ssrc stream hstream) options source
      · rw [hfails] at hchanged
        exact absurd hchanged (by simp)
      · obtain rfl := Except.ok.inj (hother.symm.trans hchanged)
        exact hidle.insert hstream hunattached
          (hcodec.trans (hidle.codec ssrc stream hstream))

theorem idle_setSend (hidle : Idle channel) {send answer : Bool}
    (hset : channel.setSend send = .ok (next, answer)) : Idle next := by
  rw [setSend] at hset
  split_ifs at hset
  · obtain ⟨rfl, -⟩ := Prod.mk.inj (Except.ok.inj hset)
    exact hidle
  · obtain ⟨sendStreams, hupdate, hpair⟩ := except_map_eq_ok_iff.mp hset
    obtain ⟨rfl, -⟩ := Prod.mk.inj hpair
    have hstreams : ∀ (key : UInt32) changed, sendStreams[key]? = some changed →
        send = false ∧ channel.sendStreams[key]? = some changed := by
      intro key changed hchanged
      obtain ⟨stream, hstream, hsend⟩ := exists_of_updateValues hupdate hchanged
      rw [setSend_unattached (hidle.unattached key stream hstream)] at hsend
      split_ifs at hsend with hsending
      obtain rfl := Except.ok.inj hsend
      exact ⟨by simpa using hsending, hstream⟩
    refine ⟨fun hsending => ?_, fun key changed hchanged => ?_, fun key changed hchanged => ?_⟩
    · apply ExtTreeMap.ext_getElem?
      intro key
      cases hchanged : sendStreams[key]? with
      | none => simp
      | some changed =>
          have hsend : send = true := hsending
          rw [(hstreams key changed hchanged).1] at hsend
          exact absurd hsend (by simp)
    · exact hidle.unattached key changed (hstreams key changed hchanged).2
    · exact hidle.codec key changed (hstreams key changed hchanged).2

end Calls

theorem idle_setRtpSendParameters {api : RtpApi} (hidle : Idle channel) {ssrc : UInt32}
    {parameters : RtpParameters} {error : Option RtcError}
    (hset : channel.setRtpSendParameters api ssrc parameters = .ok (next, error)) :
    Idle next := by
  obtain ⟨-, rfl, -⟩ | ⟨stream, taken, hreaches, htake, rfl⟩ := setRtpSendParameters_cases hset
  · exact hidle
  · have hstream := hreaches.stream
    obtain ⟨other, outcome, hother, hunattached, hcodec⟩ :=
      @setRtpParameters_unattached api.toEngineApi _ (hidle.unattached ssrc stream hstream)
        parameters
    obtain ⟨rfl, -⟩ := Prod.mk.inj (Except.ok.inj (hother.symm.trans htake))
    have hinserted := hidle.insert hstream hunattached
      (hcodec.trans (hidle.codec ssrc stream hstream))
    have hframe : (channel.withDscp parameters).sending = channel.sending ∧
        (channel.withDscp parameters).sendCodec = channel.sendCodec := by
      rw [withDscp]
      split <;> exact ⟨rfl, rfl⟩
    refine ⟨fun hsending => hinserted.sending (hframe.1 ▸ hsending), hinserted.unattached, ?_⟩
    intro key changed hchanged
    exact (hinserted.codec key changed hchanged).trans hframe.2.symm

/-- No call leaves the channels that can be reached. -/
theorem idle_senderStep {api : RtpApi} (hidle : Idle channel) {call : SenderCall}
    (hstep : senderStep api channel call = some (.ok next)) : Idle next := by
  match call with
  | .rtpCall (.channelCall call) =>
      obtain ⟨sp, accepted, -, hadd⟩ | ⟨ssrc, -, rfl⟩ | happlies := channelStep_cases hstep
      · exact idle_addSendStream hidle hadd
      · exact idle_removeSendStream hidle ssrc
      · exact hidle.of_applies happlies
  | .rtpCall (.setRtpSendParameters ssrc parameters) =>
      obtain ⟨⟨other, error⟩, hset, rfl⟩ := except_map_eq_ok_iff.mp (Option.some.inj hstep)
      exact idle_setRtpSendParameters hidle hset
  | .setSend send =>
      obtain ⟨⟨other, answer⟩, hset, rfl⟩ := except_map_eq_ok_iff.mp (Option.some.inj hstep)
      exact idle_setSend hidle hset
  | .setVideoSend ssrc options source =>
      obtain ⟨⟨other, answer⟩, hset, rfl⟩ := except_map_eq_ok_iff.mp (Option.some.inj hstep)
      exact idle_setVideoSend hidle hset

/-! ## The calls that fail -/

section Failures

theorem fails_map_iff {φ α β : Type*} {change : α → β} {first : Except φ α} :
    (∃ reason, first.map change = .error reason) ↔ ∃ reason, first = .error reason := by
  cases first <;> simp [Except.map]

variable {api : EngineApi}

theorem applyChangedParams_fails_iff (hidle : Idle channel) {params : ChangedSendParameters} :
    (∃ reason, channel.applyChangedParams api params = .error reason) ↔
      DisturbsStream channel params := by
  rw [applyChangedParams, fails_map_iff, updateValues_fails_iff]
  constructor
  · rintro ⟨key, stream, hstream, hfails⟩
    obtain ⟨hdisturbs, hlacks⟩ :=
      (setSendParameters_fails_iff (hidle.unattached key stream hstream)).mp hfails
    rw [hidle.codec key stream hstream] at hdisturbs hlacks
    exact ⟨hdisturbs, key, stream, hstream, hlacks⟩
  · rintro ⟨hdisturbs, key, stream, hstream, hlacks⟩
    rw [← hidle.codec key stream hstream] at hdisturbs hlacks
    exact ⟨key, stream, hstream,
      (setSendParameters_fails_iff (hidle.unattached key stream hstream)).mpr
        ⟨hdisturbs, hlacks⟩⟩

/-- A switch fails where it is not to the codec in use and disturbs a stream. -/
theorem switch_fails_iff (hidle : Idle channel) (test : VideoCodecSettings → Bool)
    (change : VideoCodecSettings → VideoCodecSettings) :
    (∃ reason, (match channel.negotiatedCodecs.find? test with
        | none => Except.ok channel
        | some codecSetting => channel.switchTo api (change codecSetting)) = .error reason) ↔
      ∃ params, channel.switchOf test change = some params ∧ DisturbsStream channel params := by
  rw [switchOf]
  cases channel.negotiatedCodecs.find? test with
  | none => simp
  | some codecSetting =>
      rw [Option.bind_some]
      simp only [switchTo]
      split_ifs with hinUse
      · simp
      · rw [applyChangedParams_fails_iff hidle]
        simp

theorem requestEncoderSwitch_fails_iff (hidle : Idle channel) (conf : EncoderSwitchConfig) :
    (∃ reason, channel.requestEncoderSwitch api conf = .error reason) ↔
      channel.allowCodecSwitching = true ∧ ∃ params,
        channel.switchOf (matchesSwitch conf) id = some params ∧
          DisturbsStream channel params := by
  rw [requestEncoderSwitch]
  by_cases hallowed : channel.allowCodecSwitching = true
  · rw [if_neg (not_not.mpr hallowed)]
    simp only [hallowed, true_and]
    exact switch_fails_iff hidle _ id
  · rw [if_pos hallowed]
    simp [hallowed]

/-- A request that waited is made under the switched channel, whose streams are the same. -/
theorem setVideoCodecSwitchingEnabled_fails_iff (hidle : Idle channel) (enabled : Bool) :
    (∃ reason, channel.setVideoCodecSwitchingEnabled api enabled = .error reason) ↔
      enabled = true ∧ ∃ params,
        (channel.requestedEncoderSwitch.bind fun conf =>
          channel.switchOf (matchesSwitch conf) id) = some params ∧
            DisturbsStream channel params := by
  have hbase : Idle { channel with allowCodecSwitching := true } :=
    hidle.of_sameMedia ⟨rfl, rfl, rfl, rfl, rfl, rfl⟩
  have hcases : (enabled = true ∧ ∃ conf, channel.requestedEncoderSwitch = some conf ∧
        channel.setVideoCodecSwitchingEnabled api enabled =
          (requestEncoderSwitch api { channel with allowCodecSwitching := true } conf).map
            fun channel => { channel with requestedEncoderSwitch := none }) ∨
      ((enabled = true → channel.requestedEncoderSwitch = none) ∧
        ∃ next, channel.setVideoCodecSwitchingEnabled api enabled = .ok next) := by
    unfold setVideoCodecSwitchingEnabled
    split
    · rename_i conf hrequested
      exact Or.inl ⟨rfl, conf, hrequested, rfl⟩
    · rename_i hnone
      exact Or.inr ⟨fun henabled => Option.eq_none_iff_forall_ne_some.mpr fun conf =>
        hnone conf henabled, _, rfl⟩
  obtain ⟨rfl, conf, hrequested, hcall⟩ | ⟨hnone, next, hcall⟩ := hcases
  · rw [hcall, fails_map_iff, requestEncoderSwitch_fails_iff hbase, hrequested, Option.bind_some]
    simp only [true_and]
    constructor
    · rintro ⟨params, hswitch, hdisturbs⟩
      exact ⟨params, hswitch, hdisturbs.disturbs, hdisturbs.stream⟩
    · rintro ⟨params, hswitch, hdisturbs⟩
      exact ⟨params, hswitch, hdisturbs.disturbs, hdisturbs.stream⟩
  · rw [hcall]
    constructor
    · rintro ⟨reason, hfails⟩
      exact absurd hfails (by simp)
    · rintro ⟨henabled, params, hswitch, -⟩
      rw [hnone henabled] at hswitch
      exact absurd hswitch (by simp)

/-- A call that concerns all streams fails where its changes disturb one. -/
theorem channelStep_fails_iff (hidle : Idle channel) {call : ChannelCall}
    (hadd : ∀ sp, call ≠ .addSendStream sp) :
    (∃ reason, channelStep api channel call = some (.error reason)) ↔
      ∃ params, channel.changeOf api call = some params ∧ DisturbsStream channel params := by
  simp only [channelStep, changeOf]
  cases call with
  | addSendStream sp => exact absurd rfl (hadd sp)
  | removeSendStream ssrc => simp
  | setSendParameters params =>
      have hbase : Idle { channel with sendParams := params } :=
        hidle.of_sameMedia ⟨rfl, rfl, rfl, rfl, rfl, rfl⟩
      simp only [Option.some.injEq, fails_map_iff, setSendParameters]
      cases hchanged : channel.getChangedSendParameters api params with
      | none => simp
      | some changed =>
          simp only [fails_map_iff, applyChangedParams_fails_iff hbase, Option.some.injEq,
            exists_eq_left']
          exact ⟨fun hdisturbs => ⟨hdisturbs.disturbs, hdisturbs.stream⟩,
            fun hdisturbs => ⟨hdisturbs.disturbs, hdisturbs.stream⟩⟩
  | requestEncoderFallback =>
      simp only [Option.some.injEq, requestEncoderFallback]
      rcases channel.negotiatedCodecs with - | ⟨first, - | ⟨front, rest⟩⟩
      · simp
      · simp
      · simp [applyChangedParams_fails_iff hidle]
  | requestEncoderSwitch conf =>
      simp only [Option.some.injEq, requestEncoderSwitch_fails_iff hidle]
      by_cases hallowed : channel.allowCodecSwitching = true <;> simp [hallowed]
  | requestEncoderSwitchFormat format =>
      simp only [Option.some.injEq, requestEncoderSwitchFormat]
      exact switch_fails_iff hidle _ _
  | setVideoCodecSwitchingEnabled enabled =>
      simp only [Option.some.injEq, setVideoCodecSwitchingEnabled_fails_iff hidle]
      cases enabled with
      | false => simp
      | true => cases channel.requestedEncoderSwitch <;> simp

theorem addSendStream_fails_iff (sp : SendStreamParams) :
    (∃ reason, channel.addSendStream api sp = .error reason) ↔
      validateStreamParams sp = true ∧ channel.validateSendSsrcAvailability sp = true ∧
        (¬ Constructible sp ∨ channel.sending = true) := by
  rw [addSendStream]
  by_cases hrefused : (!validateStreamParams sp || !channel.validateSendSsrcAvailability sp) = true
  · rw [if_pos hrefused]
    rw [Bool.or_eq_true, Bool.not_eq_true', Bool.not_eq_true'] at hrefused
    constructor
    · rintro ⟨reason, hfails⟩
      exact absurd hfails (by simp)
    · rintro ⟨hvalid, havailable, -⟩
      rw [hvalid, havailable] at hrefused
      exact absurd hrefused (by simp)
  · rw [if_neg hrefused]
    rw [Bool.not_eq_true, Bool.or_eq_false_iff, Bool.not_eq_false', Bool.not_eq_false'] at hrefused
    have hcreates := @exists_createSendStream_iff api channel sp
    cases hcreate : channel.createSendStream api sp with
    | error reason =>
        rw [hcreate] at hcreates
        have hnot : ¬ Constructible sp := fun hconstructible => by
          obtain ⟨stream, hstream⟩ := hcreates.mpr hconstructible
          exact absurd hstream (by simp)
        simp [Except.bind, hrefused, hnot]
    | ok created =>
        have hcreated := (created_createSendStream hcreate).quiet.unattached
        have hconstructible : Constructible sp := hcreates.mp ⟨created, hcreate⟩
        simp only [Except.bind, fails_map_iff, hrefused, true_and, hconstructible,
          not_true_eq_false, false_or]
        cases channel.sending with
        | true => simp [setSend_unattached hcreated]
        | false => simp

theorem setSend_fails_iff (hidle : Idle channel) (send : Bool) :
    (∃ reason, channel.setSend send = .error reason) ↔
      send = true ∧ channel.sendCodec.isSome ∧ channel.sendStreams ≠ ∅ := by
  rw [setSend]
  cases send with
  | false =>
      simp only [Bool.false_and, Bool.false_eq_true, if_false, false_and, iff_false,
        fails_map_iff, updateValues_fails_iff]
      rintro ⟨key, stream, hstream, reason, hfails⟩
      rw [setSend_unattached (hidle.unattached key stream hstream)] at hfails
      exact absurd hfails (by simp)
  | true =>
      cases hcodec : channel.sendCodec with
      | none => simp
      | some sendCodec =>
          simp only [Option.isNone_some, Bool.and_false, Bool.false_eq_true, if_false,
            fails_map_iff, updateValues_fails_iff, Option.isSome_some, true_and]
          constructor
          · rintro ⟨key, stream, hstream, -⟩ hempty
            rw [hempty] at hstream
            exact absurd hstream (by simp)
          · intro hstreams
            by_contra hnone
            apply hstreams
            apply ExtTreeMap.ext_getElem?
            intro key
            cases hstream : channel.sendStreams[key]? with
            | none => simp
            | some stream =>
                have hfails := setSend_unattached (hidle.unattached key stream hstream) true
                exact absurd ⟨key, stream, hstream, _, hfails⟩ hnone

theorem setVideoSend_fails_iff (hidle : Idle channel) (ssrc : UInt32)
    (options : Option VideoOptions) (source : Bool) :
    (∃ reason, channel.setVideoSend api ssrc options source = .error reason) ↔
      match channel.sendStreams[ssrc]? with
      | none => source = true
      | some stream => stream.hasSource = true ∧ channel.sendCodec.isSome ∧
          ∃ change, options = some change ∧ TurnsScreencast stream change := by
  rw [setVideoSend]
  cases hstream : channel.sendStreams[ssrc]? with
  | none => cases source <;> simp
  | some stream =>
      simp only [fails_map_iff]
      rw [← hidle.codec ssrc stream hstream]
      obtain ⟨hhazard, hfails⟩ | ⟨hnot, next, hset, -⟩ :=
        @setVideoSend_cases api _ (hidle.unattached ssrc stream hstream) options source
      · exact ⟨fun _ => hhazard, fun _ => ⟨_, hfails⟩⟩
      · rw [hset]
        exact ⟨fun hfails => absurd hfails (by simp), fun hhazard => absurd hhazard hnot⟩

end Failures

section Runs

variable {api : RtpApi}

theorem setRtpSendParameters_ok (hidle : Idle channel) (ssrc : UInt32)
    (parameters : RtpParameters) :
    ∃ next error, channel.setRtpSendParameters api ssrc parameters = .ok (next, error) := by
  rw [setRtpSendParameters]
  cases hstream : channel.sendStreams[ssrc]? with
  | none => exact ⟨_, _, rfl⟩
  | some stream =>
      obtain ⟨taken, error, htake, -⟩ := @setRtpParameters_unattached api.toEngineApi _
        (hidle.unattached ssrc stream hstream) parameters
      simp only [htake]
      split_ifs
      · exact ⟨_, _, rfl⟩
      · exact ⟨_, _, rfl⟩

theorem hazard_channelCall_iff {call : ChannelCall} (hadd : ∀ sp, call ≠ .addSendStream sp) :
    Hazard api channel (.rtpCall (.channelCall call)) ↔
      ∃ params, channel.changeOf api.toEngineApi call = some params ∧
        DisturbsStream channel params := by
  cases call with
  | addSendStream sp => exact absurd rfl (hadd sp)
  | setSendParameters | requestEncoderFallback | requestEncoderSwitch | requestEncoderSwitchFormat
  | setVideoCodecSwitchingEnabled | removeSendStream => rfl

/-- In a channel that can be reached the hazards are the calls that fail. -/
theorem senderStep_fails_iff (hidle : Idle channel) (call : SenderCall) :
    (∃ reason, senderStep api channel call = some (.error reason)) ↔ Hazard api channel call := by
  match call with
  | .rtpCall (.setRtpSendParameters ssrc parameters) =>
      obtain ⟨next, error, hset⟩ := @setRtpSendParameters_ok _ api hidle ssrc parameters
      simp [senderStep, rtpStep, hset, Hazard, Except.map]
  | .rtpCall (.channelCall call) =>
      by_cases hadd : ∃ sp, call = .addSendStream sp
      · obtain ⟨sp, rfl⟩ := hadd
        simp only [senderStep, rtpStep, channelStep, Option.some.injEq, fails_map_iff]
        exact addSendStream_fails_iff sp
      · have hother : ∀ sp, call ≠ .addSendStream sp := fun sp hcall => hadd ⟨sp, hcall⟩
        rw [hazard_channelCall_iff hother]
        exact channelStep_fails_iff hidle hother
  | .setSend send =>
      simp only [senderStep, Option.some.injEq, fails_map_iff]
      exact setSend_fails_iff hidle send
  | .setVideoSend ssrc options source =>
      simp only [senderStep, Option.some.injEq, fails_map_iff]
      exact setVideoSend_fails_iff hidle ssrc options source

theorem exists_senderStep (channel : WebRtcVideoChannel) (call : SenderCall) :
    ∃ outcome, senderStep api channel call = some outcome := by
  match call with
  | .rtpCall (.channelCall call) => cases call <;> exact ⟨_, rfl⟩
  | .rtpCall (.setRtpSendParameters ssrc parameters) => exact ⟨_, rfl⟩
  | .setSend send => exact ⟨_, rfl⟩
  | .setVideoSend ssrc options source => exact ⟨_, rfl⟩

/-- No send stream has an underlying stream, and none has been started. -/
def NoneStarted (channel : WebRtcVideoChannel) : Prop :=
  ∀ (key : UInt32) stream, channel.sendStreams[key]? = some stream →
    stream.hasStream = false ∧ stream.sending = false ∧ channel.sending = false

theorem Idle.noneStarted (hidle : Idle channel) : NoneStarted channel := by
  intro key stream hstream
  have hunattached := hidle.unattached key stream hstream
  refine ⟨hunattached.underlying, hunattached.sending, ?_⟩
  cases hsending : channel.sending with
  | false => rfl
  | true =>
      rw [hidle.sending hsending] at hstream
      exact absurd hstream (by simp)

/-- Calls go through without dereferencing the underlying stream, failing a check or reading
out of range exactly when none of them is a hazard at its time.  No send stream has an underlying
stream in any state on the way. -/
theorem senderRun_goesThrough_iff (videoConfig : VideoConfig) (options : VideoOptions)
    (calls : List SenderCall) :
    ((∃ final, run (senderStep api) (create videoConfig options) calls = some (.ok final)) ↔
      Guarded (senderStep api) (fun channel call => ¬ Hazard api channel call)
        (create videoConfig options) calls) ∧
      Throughout (senderStep api) NoneStarted (create videoConfig options) calls := by
  have hfaults : ∀ channel call, Idle channel →
      ((∃ reason, senderStep api channel call = some (.error reason)) ↔
        ¬ ¬ Hazard api channel call) := by
    intro channel call hidle
    rw [not_not]
    exact senderStep_fails_iff hidle call
  have hstep : ∀ channel call next, Idle channel →
      senderStep api channel call = some (.ok next) → Idle next :=
    fun _ _ _ hidle hnext => idle_senderStep hidle hnext
  have hreached : ∀ events final, run (senderStep api) (create videoConfig options) events =
      some (.ok final) → Idle final :=
    fun _ _ hrun => run_induction hstep (idle_create videoConfig options) hrun
  refine ⟨?_, fun before _ passed _ hrun => (hreached before passed hrun).noneStarted⟩
  rw [← run_ok_iff_guarded exists_senderStep hstep hfaults (idle_create videoConfig options)]
  constructor
  · rintro ⟨final, hrun⟩
    exact ⟨final, hrun, hreached calls final hrun⟩
  · rintro ⟨final, hrun, -⟩
    exact ⟨final, hrun⟩

end Runs

end WebRtcVideoChannel

end PeerConnection.Engine
