import PeerConnection.Engine.SendSettings
import PeerConnection.Engine.SendStreamBookkeeping

/-!
# Send streams and the history of the channel

A stream may be added before, between or after calls of `SetSendParameters`.  It ends up with
the same settings for all of these orders as long as every call is steady; a call that is not
leaves the stream that was there before it with other settings, or aborts.
-/

namespace PeerConnection.Engine

open PeerConnection.Text
open PeerConnection.Runs
open PeerConnection.MapValues
open PeerConnection.Engine.WebRtcVideoSendStream
open Std

namespace WebRtcVideoChannel

variable {api : EngineApi} {channel next : WebRtcVideoChannel}

/-! ## Channels without streams -/

/-- A channel that no stream has been added to. -/
structure Streamless (channel : WebRtcVideoChannel) : Prop where
  sending : channel.sending = false
  sendStreams : channel.sendStreams = ∅
  sendSsrcs : channel.sendSsrcs = ∅
  capped : Capped channel

theorem streamless_create (videoConfig : VideoConfig) (options : VideoOptions) :
    Streamless (create videoConfig options) where
  sending := rfl
  sendStreams := rfl
  sendSsrcs := rfl
  capped hbandwidth := absurd hbandwidth (by simp [create])

theorem Streamless.updated (hstreamless : Streamless channel) (params : VideoSendParameters) :
    Streamless (channel.updated api params) := by
  by_cases haccepted : AcceptedParameters api params
  · have hframe : (channel.updated api params).sending = channel.sending ∧
        (channel.updated api params).sendStreams = channel.sendStreams ∧
        (channel.updated api params).sendSsrcs = channel.sendSsrcs := by
      rw [updated_of_accepted haccepted, takeChanges]
      split_ifs <;> exact ⟨rfl, rfl, rfl⟩
    obtain ⟨hsending, hstreams, hssrcs⟩ := hframe
    exact ⟨hsending.trans hstreamless.sending, hstreams.trans hstreamless.sendStreams,
      hssrcs.trans hstreamless.sendSsrcs, capped_updated hstreamless.capped haccepted⟩
  · rw [updated_of_refused haccepted]
    exact hstreamless

theorem applyChangedParams_streamless (hempty : channel.sendStreams = ∅)
    (params : ChangedSendParameters) :
    channel.applyChangedParams api params = .ok (channel.takeChanges api params) := by
  have hkept : (channel.takeChanges api params).sendStreams = ∅ := by
    rw [takeChanges, ← hempty]
    split_ifs <;> rfl
  rw [applyChangedParams.eq_def, hempty, updateValues_empty, ← hkept]
  rfl

theorem applyChangedParams_withSendStream (hempty : channel.sendStreams = ∅)
    (params : ChangedSendParameters) (sp : SendStreamParams) (stream : WebRtcVideoSendStream) :
    (channel.withSendStream sp stream).applyChangedParams api params =
      (stream.setSendParameters api params).map fun changed =>
        (channel.takeChanges api params).withSendStream sp changed := by
  have hstreams : (channel.withSendStream sp stream).sendStreams =
      (∅ : ExtTreeMap UInt32 WebRtcVideoSendStream).insert sp.firstSsrc stream := by
    rw [← hempty]
    rfl
  rw [applyChangedParams.eq_def, hstreams, updateValues_insert_empty]
  cases stream.setSendParameters api params with
  | error reason => rfl
  | ok changed =>
      apply congrArg Except.ok
      rw [takeChanges, takeChanges, ← hempty]
      split_ifs <;> rfl

/-- Without streams the parameters change the channel only. -/
theorem channelStep_streamless (hstreamless : Streamless channel)
    (params : VideoSendParameters) :
    channelStep api channel (.setSendParameters params) =
      some (.ok (channel.updated api params)) := by
  rw [channelStep, setSendParameters, WebRtcVideoChannel.updated]
  cases hchanged : channel.getChangedSendParameters api params with
  | none => rfl
  | some changed =>
      have hempty : { channel with sendParams := params }.sendStreams = ∅ :=
        hstreamless.sendStreams
      simp only [applyChangedParams_streamless hempty]
      rfl

/-- With one stream they change the stream as well. -/
theorem channelStep_withSendStream (hstreamless : Streamless channel)
    {params : VideoSendParameters} (haccepted : AcceptedParameters api params)
    (sp : SendStreamParams) (stream : WebRtcVideoSendStream) :
    channelStep api (channel.withSendStream sp stream) (.setSendParameters params) =
      some ((stream.setSendParameters api (channel.changesTo api params)).map fun changed =>
        (channel.updated api params).withSendStream sp changed) := by
  have hchanged : (channel.withSendStream sp stream).getChangedSendParameters api params =
      some (channel.changesTo api params) :=
    getChangedSendParameters_eq_some_iff.mpr ⟨haccepted, rfl⟩
  have hempty : { channel with sendParams := params }.sendStreams = ∅ :=
    hstreamless.sendStreams
  have happly := @applyChangedParams_withSendStream api _ hempty (channel.changesTo api params)
    sp stream
  rw [channelStep, setSendParameters, hchanged, updated_of_accepted haccepted]
  simp only [withSendStream] at happly ⊢
  rw [happly]
  cases stream.setSendParameters api (channel.changesTo api params) <;> rfl

theorem channelStep_refused {params : VideoSendParameters}
    (hrefused : ¬ AcceptedParameters api params) :
    channelStep api channel (.setSendParameters params) = some (.ok channel) := by
  rw [channelStep, setSendParameters]
  split
  · rfl
  · rename_i changed hchanged
    exact absurd (getChangedSendParameters_eq_some_iff.mp hchanged).1 hrefused

/-! ## One stream among the calls -/

/-- The stream is as if it were constructed now. -/
structure Mirrors (api : EngineApi) (channel : WebRtcVideoChannel)
    (stream : WebRtcVideoSendStream) : Prop where
  quiet : Quiet stream
  codec : stream.parameters.codecSettings = channel.sendCodec
  view : stream.view = channelView api channel

theorem mirrors_createSendStream {sp : SendStreamParams} {stream : WebRtcVideoSendStream}
    (hcreate : channel.createSendStream api sp = .ok stream) : Mirrors api channel stream where
  quiet := (created_createSendStream hcreate).quiet
  codec := codecSettings_createSendStream hcreate
  view := view_createSendStream hcreate

/-- Accepted parameters are steady exactly when the stream takes them and is then as if it were
constructed after them. -/
theorem mirrors_updated_iff (hstreamless : Streamless channel) {params : VideoSendParameters}
    (haccepted : AcceptedParameters api params) {stream : WebRtcVideoSendStream}
    (hmirrors : Mirrors api channel stream) :
    Steady api channel params ↔
      ∃ changed, stream.setSendParameters api (channel.changesTo api params) = .ok changed ∧
        changed.view = channelView api (channel.updated api params) := by
  have htakes := @exists_setSendParameters_iff api stream hmirrors.quiet
    (channel.changesTo api params)
  rw [CodecAtHand, hmirrors.codec] at htakes
  rw [steady_iff hstreamless.capped haccepted, ChannelCodecAtHand, ← htakes, ← hmirrors.view]
  constructor
  · rintro ⟨⟨changed, hset⟩, hview⟩
    exact ⟨changed, hset, (view_setSendParameters hmirrors.quiet hset).trans hview⟩
  · rintro ⟨changed, hset, hview⟩
    exact ⟨⟨changed, hset⟩, (view_setSendParameters hmirrors.quiet hset).symm.trans hview⟩

/-- An accepted call of `SetSendParameters` is steady. -/
def SteadyCall (api : EngineApi) (channel : WebRtcVideoChannel) (call : ChannelCall) : Prop :=
  ∀ params, call = .setSendParameters params → AcceptedParameters api params →
    Steady api channel params

/-- A steady call leaves the stream as if it were constructed after it. -/
theorem mirrors_step (hstreamless : Streamless channel) {params : VideoSendParameters}
    (hsteady : SteadyCall api channel (.setSendParameters params)) (sp : SendStreamParams)
    {stream : WebRtcVideoSendStream} (hmirrors : Mirrors api channel stream) :
    ∃ changed, channelStep api (channel.withSendStream sp stream) (.setSendParameters params) =
        some (.ok ((channel.updated api params).withSendStream sp changed)) ∧
      Mirrors api (channel.updated api params) changed := by
  by_cases haccepted : AcceptedParameters api params
  · obtain ⟨changed, hset, hview⟩ := (mirrors_updated_iff hstreamless haccepted hmirrors).mp
      (hsteady params rfl haccepted)
    refine ⟨changed, ?_, hmirrors.quiet.of_same (same_setSendParameters hset), ?_, hview⟩
    · rw [channelStep_withSendStream hstreamless haccepted, hset]
      rfl
    · rw [codecSettings_setSendParameters hmirrors.quiet hset, hmirrors.codec,
        sendCodec_changesTo_or, sendCodec_updated haccepted]
  · rw [updated_of_refused haccepted]
    exact ⟨stream, channelStep_refused haccepted, hmirrors⟩

/-- The calls of `SetSendParameters` with these parameters. -/
def updateCalls (updates : List VideoSendParameters) : List ChannelCall :=
  updates.map .setSendParameters

theorem run_updateCalls (hstreamless : Streamless channel) (updates : List VideoSendParameters) :
    run (channelStep api) channel (updateCalls updates) =
        some (.ok (updates.foldl (updated api) channel)) ∧
      Streamless (updates.foldl (updated api) channel) := by
  induction updates generalizing channel with
  | nil => exact ⟨rfl, hstreamless⟩
  | cons params updates ih =>
      obtain ⟨hrun, hlast⟩ := ih (hstreamless.updated params)
      refine ⟨?_, hlast⟩
      rw [updateCalls, List.map_cons, run_cons_of_ok (channelStep_streamless hstreamless params)]
      exact hrun

/-- Along steady calls the stream stays as if it were constructed now. -/
theorem mirrors_run (hstreamless : Streamless channel) {updates : List VideoSendParameters}
    (hsteady : Guarded (channelStep api) (SteadyCall api) channel (updateCalls updates))
    (sp : SendStreamParams) {stream : WebRtcVideoSendStream}
    (hmirrors : Mirrors api channel stream) :
    ∃ changed, run (channelStep api) (channel.withSendStream sp stream) (updateCalls updates) =
        some (.ok ((updates.foldl (updated api) channel).withSendStream sp changed)) ∧
      Mirrors api (updates.foldl (updated api) channel) changed := by
  induction updates generalizing channel stream with
  | nil => exact ⟨stream, rfl, hmirrors⟩
  | cons params updates ih =>
      obtain ⟨hfirst, hrest⟩ := hsteady
      obtain ⟨middle, hstep, hmiddle⟩ := mirrors_step hstreamless hfirst sp hmirrors
      have hafter := hrest _ (channelStep_streamless hstreamless params)
      obtain ⟨changed, hrun, hchanged⟩ := ih (hstreamless.updated params) hafter hmiddle
      refine ⟨changed, ?_, hchanged⟩
      rw [updateCalls, List.map_cons, run_cons_of_ok hstep]
      exact hrun

/-! ## All orders -/

/-- `AddSendStream` after the first and before the other calls of `SetSendParameters`. -/
def addedBetween (front back : List VideoSendParameters) (sp : SendStreamParams) :
    List ChannelCall :=
  updateCalls front ++ .addSendStream sp :: updateCalls back

/-- The view of the stream at the end of the calls; `none` if a call has failed. -/
def viewAfter (api : EngineApi) (channel : WebRtcVideoChannel) (calls : List ChannelCall)
    (sp : SendStreamParams) : Option StreamView :=
  match run (channelStep api) channel calls with
  | some (.ok final) => final.sendStreams[sp.firstSsrc]?.map view
  | _ => none

/-- The stream comes to the same view wherever it is added among the calls. -/
def HistoryIndependent (api : EngineApi) (channel : WebRtcVideoChannel)
    (updates : List VideoSendParameters) (sp : SendStreamParams) : Prop :=
  ∀ front back, updates = front ++ back →
    viewAfter api channel (addedBetween front back sp) sp =
      viewAfter api channel (addedBetween updates [] sp) sp

theorem addSendStream_streamless (hstreamless : Streamless channel) {sp : SendStreamParams}
    (hvalid : validateStreamParams sp = true) :
    channelStep api channel (.addSendStream sp) =
      some ((channel.createSendStream api sp).map fun stream =>
        channel.withSendStream sp stream) := by
  have hfresh : channel.validateSendSsrcAvailability sp = true := by
    simp [validateSendSsrcAvailability, hstreamless.sendSsrcs]
  rw [channelStep, addSendStream, hvalid, hfresh, hstreamless.sending]
  cases channel.createSendStream api sp <;> rfl

theorem viewAfter_of_run {calls : List ChannelCall} {sp : SendStreamParams}
    {stream : WebRtcVideoSendStream} {final : WebRtcVideoChannel}
    (hrun : run (channelStep api) channel calls = some (.ok (final.withSendStream sp stream))) :
    viewAfter api channel calls sp = some stream.view := by
  rw [viewAfter, hrun]
  dsimp only
  rw [getElem?_withSendStream, if_pos rfl]
  rfl

/-- The run up to the addition and the rest of it. -/
theorem run_addedBetween (hstreamless : Streamless channel) (front back : List VideoSendParameters)
    (sp : SendStreamParams) :
    run (channelStep api) channel (addedBetween front back sp) =
      run (channelStep api) (front.foldl (updated api) channel)
        (.addSendStream sp :: updateCalls back) :=
  run_append (run_updateCalls hstreamless front).1

/-- Parameters that cannot be constructed from end every run. -/
theorem viewAfter_eq_none (hstreamless : Streamless channel)
    (front back : List VideoSendParameters) {sp : SendStreamParams}
    (hvalid : validateStreamParams sp = true) (hnot : ¬ Constructible sp) :
    viewAfter api channel (addedBetween front back sp) sp = none := by
  have hmiddle := (@run_updateCalls api _ hstreamless front).2
  have hstep := @addSendStream_streamless api _ hmiddle sp hvalid
  rw [viewAfter, run_addedBetween hstreamless, run, hstep]
  cases hcreate : (front.foldl (updated api) channel).createSendStream api sp with
  | error reason =>
      simp only [Except.map]
      cases (updateCalls back).isEmpty <;> rfl
  | ok stream => exact absurd (exists_createSendStream_iff.mp ⟨stream, hcreate⟩) hnot

/-- The stream that steady calls follow has the view of one that is constructed after them. -/
theorem viewAfter_addedBetween (hstreamless : Streamless channel)
    {front back : List VideoSendParameters} {sp : SendStreamParams}
    (hsteady : Guarded (channelStep api) (SteadyCall api) (front.foldl (updated api) channel)
      (updateCalls back))
    (hvalid : validateStreamParams sp = true) (hconstructible : Constructible sp) :
    viewAfter api channel (addedBetween front back sp) sp =
      some (channelView api ((front ++ back).foldl (updated api) channel)) := by
  have hmiddle := (@run_updateCalls api _ hstreamless front).2
  obtain ⟨stream, hcreate⟩ := (@exists_createSendStream_iff api
    (front.foldl (updated api) channel) sp).mpr hconstructible
  have hstep := @addSendStream_streamless api _ hmiddle sp hvalid
  rw [hcreate] at hstep
  obtain ⟨changed, hrun, hchanged⟩ :=
    mirrors_run hmiddle hsteady sp (mirrors_createSendStream hcreate)
  rw [List.foldl_append, ← hchanged.view]
  apply viewAfter_of_run
  rw [run_addedBetween hstreamless, run_cons_of_ok hstep, hrun]

/-- A call over which the stream comes to the view of the channel is steady. -/
theorem steady_of_viewAfter (hstreamless : Streamless channel)
    {front : List VideoSendParameters} {params : VideoSendParameters} {sp : SendStreamParams}
    (hvalid : validateStreamParams sp = true) (hconstructible : Constructible sp)
    (haccepted : AcceptedParameters api params)
    (hview : viewAfter api channel (addedBetween front [params] sp) sp =
      some (channelView api ((front ++ [params]).foldl (updated api) channel))) :
    Steady api (front.foldl (updated api) channel) params := by
  have hmiddle := (@run_updateCalls api _ hstreamless front).2
  obtain ⟨stream, hcreate⟩ := (@exists_createSendStream_iff api
    (front.foldl (updated api) channel) sp).mpr hconstructible
  have hadd := @addSendStream_streamless api _ hmiddle sp hvalid
  rw [hcreate] at hadd
  have hstep := @channelStep_withSendStream api _ hmiddle params haccepted sp stream
  have hrun : run (channelStep api) channel (addedBetween front [params] sp) =
      run (channelStep api) ((front.foldl (updated api) channel).withSendStream sp stream)
        [.setSendParameters params] := by
    rw [run_addedBetween hstreamless, run_cons_of_ok hadd]
    rfl
  apply (mirrors_updated_iff hmiddle haccepted (mirrors_createSendStream hcreate)).mpr
  cases hset : stream.setSendParameters api
      ((front.foldl (updated api) channel).changesTo api params) with
  | error reason =>
      rw [hset] at hstep
      rw [viewAfter, hrun, run, hstep] at hview
      exact absurd hview (by simp [Except.map])
  | ok changed =>
      rw [hset] at hstep
      rw [run_cons_of_ok hstep, run_nil] at hrun
      rw [viewAfter_of_run hrun, List.foldl_append] at hview
      exact ⟨changed, rfl, Option.some.inj hview⟩

/-- Every stream comes to the same view wherever it is added, after each of the calls, exactly
when all the calls are steady. -/
theorem historyIndependent_iff (videoConfig : VideoConfig) (options : VideoOptions)
    (updates : List VideoSendParameters) :
    (∀ front back, updates = front ++ back → ∀ sp, validateStreamParams sp = true →
        HistoryIndependent api (create videoConfig options) front sp) ↔
      Guarded (channelStep api) (SteadyCall api) (create videoConfig options)
        (updateCalls updates) := by
  have hstreamless := streamless_create videoConfig options
  constructor
  · intro hall
    apply guarded_of_steps
    intro before event after middle hevents hrun params hcall haccepted
    obtain ⟨front, rest, rfl, rfl, hrest⟩ := List.map_eq_append_iff.mp hevents
    obtain ⟨other, back, rfl, rfl, rfl⟩ := List.map_eq_cons_iff.mp hrest
    obtain rfl := ChannelCall.setSendParameters.inj hcall
    have hmiddle := (@run_updateCalls api _ hstreamless front).1
    obtain rfl := Except.ok.inj (Option.some.inj (hmiddle.symm.trans hrun))
    have hvalid : validateStreamParams (oneSsrc 1) = true := by decide +kernel
    have hconstructible : Constructible (oneSsrc 1) := ⟨by decide, by decide⟩
    apply steady_of_viewAfter hstreamless hvalid hconstructible haccepted
    have hlast := hall (front ++ [other]) back (by simp) (oneSsrc 1) hvalid front [other] rfl
    have hend : Guarded (channelStep api) (SteadyCall api)
        ((front ++ [other]).foldl (updated api) (create videoConfig options)) (updateCalls []) :=
      trivial
    rw [hlast, viewAfter_addedBetween hstreamless hend hvalid hconstructible, List.append_nil]
  · intro hguarded front back hupdates sp hvalid before after hfront
    by_cases hconstructible : Constructible sp
    · rw [hupdates, updateCalls, List.map_append] at hguarded
      have hwhole := ((guarded_append_iff (@run_updateCalls api _ hstreamless front).1).mp
        hguarded).1
      have hend : Guarded (channelStep api) (SteadyCall api)
          (front.foldl (updated api) (create videoConfig options)) (updateCalls []) := trivial
      rw [hfront, updateCalls, List.map_append] at hwhole
      have hafter := ((guarded_append_iff (@run_updateCalls api _ hstreamless before).1).mp
        hwhole).2
      rw [viewAfter_addedBetween hstreamless hafter hvalid hconstructible,
        viewAfter_addedBetween hstreamless hend hvalid hconstructible, ← hfront, List.append_nil]
    · rw [viewAfter_eq_none hstreamless before after hvalid hconstructible,
        viewAfter_eq_none hstreamless front [] hvalid hconstructible]

/-- VP8 with a limit of 500 kbit/s. -/
def limitedVp8Codec : VideoCodec :=
  { vp8Codec with
    params := (∅ : CodecParameterMap).insert kCodecParamMaxBitrate (decimal 500) }

/-- The limit of the codec reaches streams that are added later only, the encoder misses a new
bandwidth, and a stream without a codec aborts once the header extensions are set. -/
theorem historyIndependent_fails :
    validateStreamParams (oneSsrc 1) = true ∧
      ¬ HistoryIndependent (webrtcEngineApi [vp8Format]) (create {} {})
        [{ codecs := [limitedVp8Codec] }] (oneSsrc 1) ∧
      ¬ HistoryIndependent (webrtcEngineApi [vp8Format]) (create {} {})
        [{ codecs := [vp8Codec] }, { codecs := [vp8Codec], maxBandwidthBps := 1000000 }]
        (oneSsrc 1) ∧
      ¬ HistoryIndependent (webrtcEngineApi [vp8Format]) (create {} {})
        [{ codecs := [vp9Codec], isStreamActive := false }] (oneSsrc 1) := by
  refine ⟨by decide +kernel, fun hlimit => ?_, fun hencoder => ?_, fun hcodec => ?_⟩
  · exact absurd (hlimit [] [{ codecs := [limitedVp8Codec] }] rfl) (by decide +kernel)
  · exact absurd (hencoder [{ codecs := [vp8Codec] }]
      [{ codecs := [vp8Codec], maxBandwidthBps := 1000000 }] rfl) (by decide +kernel)
  · exact absurd (hcodec [] [{ codecs := [vp9Codec], isStreamActive := false }] rfl)
      (by decide +kernel)

end WebRtcVideoChannel

end PeerConnection.Engine
