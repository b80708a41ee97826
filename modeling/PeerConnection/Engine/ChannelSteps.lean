import PeerConnection.Engine.SendStreamSteps
import PeerConnection.Engine.VideoChannel

/-!
# What the calls do to a video channel

A call that returns has applied a record of changes, or has added or removed a stream, or has
left codecs and streams alone.  A channel that is not sending has quiet streams only, each with
the codec of the channel, and applies every change for which there is a codec.
-/

namespace PeerConnection.Engine

open PeerConnection.Runs
open PeerConnection.MapValues
open PeerConnection.Engine.WebRtcVideoSendStream
open Std

namespace WebRtcVideoChannel

variable {api : EngineApi} {channel next : WebRtcVideoChannel}

/-! ## Changes -/

/-- The parameters pass the checks of `GetChangedSendParameters`. -/
structure AcceptedParameters (api : EngineApi) (params : VideoSendParameters) : Prop where
  formats : validateCodecFormats api params.codecs = true
  extensions : validateRtpExtensions params.extensions = true
  codecs : params.isStreamActive = true → negotiatedCodecsFor api params ≠ []

theorem getChangedSendParameters_eq_some_iff {params : VideoSendParameters}
    {changed : ChangedSendParameters} :
    channel.getChangedSendParameters api params = some changed ↔
      AcceptedParameters api params ∧ changed = channel.changesTo api params := by
  rw [getChangedSendParameters, Option.ite_none_left_eq_some, Option.ite_none_left_eq_some,
    Option.some.injEq]
  constructor
  · rintro ⟨hvalid, hcodecs, rfl⟩
    rw [Bool.or_eq_true, not_or] at hvalid
    exact ⟨⟨by simpa using hvalid.1, by simpa using hvalid.2, by simpa using hcodecs⟩, rfl⟩
  · rintro ⟨haccepted, rfl⟩
    exact ⟨by simp [haccepted.formats, haccepted.extensions], by simpa using haccepted.codecs, rfl⟩

theorem exists_of_applyChangedParams {params : ChangedSendParameters}
    (happly : channel.applyChangedParams api params = .ok next) :
    ∃ sendStreams,
      updateValues (fun stream => stream.setSendParameters api params) channel.sendStreams =
        .ok sendStreams ∧
      { channel.takeChanges api params with sendStreams := sendStreams } = next :=
  except_map_eq_ok_iff.mp happly

@[simp]
theorem negotiatedCodecs_takeChanges (params : ChangedSendParameters) :
    (channel.takeChanges api params).negotiatedCodecs =
      params.negotiatedCodecs.getD channel.negotiatedCodecs := by
  rw [takeChanges]
  split_ifs <;> rfl

@[simp]
theorem sendCodec_takeChanges (params : ChangedSendParameters) :
    (channel.takeChanges api params).sendCodec = params.sendCodec.or channel.sendCodec := by
  rw [takeChanges]
  split_ifs <;> rfl

@[simp]
theorem sendRtpExtensions_takeChanges (params : ChangedSendParameters) :
    (channel.takeChanges api params).sendRtpExtensions =
      params.rtpHeaderExtensions.or channel.sendRtpExtensions := by
  rw [takeChanges]
  split_ifs <;> rfl

/-- What changes of the parameters leave alone: the bookkeeping of the streams. -/
structure SameStreams (channel next : WebRtcVideoChannel) : Prop where
  sendSsrcs : next.sendSsrcs = channel.sendSsrcs
  reportSsrc : next.rtcpReceiverReportSsrc = channel.rtcpReceiverReportSsrc
  sending : next.sending = channel.sending
  kept : ∀ (key : UInt32) stream, channel.sendStreams[key]? = some stream →
    ∃ changed, next.sendStreams[key]? = some changed ∧ SameStream stream changed
  absent : ∀ key : UInt32, channel.sendStreams[key]? = none → next.sendStreams[key]? = none

theorem SameStreams.of_eq (hssrcs : next.sendSsrcs = channel.sendSsrcs)
    (hreport : next.rtcpReceiverReportSsrc = channel.rtcpReceiverReportSsrc)
    (hsending : next.sending = channel.sending)
    (hstreams : next.sendStreams = channel.sendStreams) : SameStreams channel next where
  sendSsrcs := hssrcs
  reportSsrc := hreport
  sending := hsending
  kept key stream hstream := ⟨stream, by rw [hstreams, hstream], SameStream.refl stream⟩
  absent key hnone := by rw [hstreams, hnone]

theorem SameStreams.refl (channel : WebRtcVideoChannel) : SameStreams channel channel :=
  SameStreams.of_eq rfl rfl rfl rfl

/-- A stream of the result comes from a stream of the channel. -/
theorem SameStreams.exists_of_some (hsame : SameStreams channel next) {key : UInt32}
    {changed : WebRtcVideoSendStream} (hchanged : next.sendStreams[key]? = some changed) :
    ∃ stream, channel.sendStreams[key]? = some stream ∧ SameStream stream changed := by
  cases hstream : channel.sendStreams[key]? with
  | none =>
      rw [hsame.absent key hstream] at hchanged
      exact absurd hchanged (by simp)
  | some stream =>
      obtain ⟨other, hother, hkept⟩ := hsame.kept key stream hstream
      rw [hother] at hchanged
      obtain rfl := Option.some.inj hchanged
      exact ⟨stream, rfl, hkept⟩

theorem sameStreams_applyChangedParams {params : ChangedSendParameters}
    (happly : channel.applyChangedParams api params = .ok next) : SameStreams channel next := by
  obtain ⟨sendStreams, hupdate, rfl⟩ := exists_of_applyChangedParams happly
  have hframe : ∀ changed : WebRtcVideoChannel, changed = channel.takeChanges api params →
      changed.sendSsrcs = channel.sendSsrcs ∧
        changed.rtcpReceiverReportSsrc = channel.rtcpReceiverReportSsrc ∧
        changed.sending = channel.sending := by
    rintro changed rfl
    rw [takeChanges]
    split_ifs <;> exact ⟨rfl, rfl, rfl⟩
  obtain ⟨hssrcs, hreport, hsending⟩ := hframe _ rfl
  refine ⟨hssrcs, hreport, hsending, fun key stream hstream => ?_, fun key hnone => ?_⟩
  · obtain ⟨changed, hset, hchanged⟩ := (getElem?_of_updateValues hupdate).1 stream hstream
    exact ⟨changed, hchanged, same_setSendParameters hset⟩
  · exact (getElem?_of_updateValues hupdate).2 hnone

/-! ## Streams that come and go -/

/-- What `AddSendStream` constructs from its parameters. -/
structure Created (sp : SendStreamParams) (stream : WebRtcVideoSendStream) : Prop where
  quiet : Quiet stream
  ssrcs : stream.ssrcs = sp.ssrcs
  media : stream.parameters.config.rtp.ssrcs = sp.getPrimarySsrcs
  rtx : stream.parameters.config.rtp.rtx.ssrcs ⊆ sp.getFidSsrcs sp.getPrimarySsrcs

/-- The stream of `AddSendStream` before a codec is set. -/
def initialSendStream (channel : WebRtcVideoChannel) (sp : SendStreamParams)
    (rtpParameters : RtpParameters) : WebRtcVideoSendStream :=
  initialStream sp (channel.sendStreamConfig sp) channel.defaultSendOptions
    channel.videoConfig.enableCpuAdaptation channel.bitrateConfig.maxBitrateBps
    channel.sendCodec channel.sendRtpExtensions channel.sendParams rtpParameters

/-- The codec of the channel is set on the new stream, if there is one. -/
theorem createSendStream_cases {sp : SendStreamParams} {stream : WebRtcVideoSendStream}
    (hcreate : channel.createSendStream api sp = .ok stream) :
    ∃ rtpParameters, Quiet (channel.initialSendStream sp rtpParameters) ∧
      ((channel.sendCodec = none ∧ stream = channel.initialSendStream sp rtpParameters) ∨
        ∃ sendCodec, channel.sendCodec = some sendCodec ∧
          (channel.initialSendStream sp rtpParameters).setCodec api sendCodec = .ok stream) := by
  obtain ⟨initial, hconstruct, hcodec⟩ := exists_of_create hcreate
  obtain ⟨rtpParameters, first, rest, hunlimited, hencodings, rfl⟩ :=
    exists_of_construct hconstruct
  refine ⟨rtpParameters, quiet_initialStream hunlimited hencodings, ?_⟩
  cases hsend : channel.sendCodec with
  | none =>
      rw [hsend, Option.toList_none, List.foldlM_nil] at hcodec
      left
      rw [initialSendStream, hsend, Except.ok.inj hcodec]
      exact ⟨rfl, rfl⟩
  | some sendCodec =>
      rw [hsend, Option.toList_some, List.foldlM_cons, except_bind_eq_ok_iff] at hcodec
      obtain ⟨middle, hset, hend⟩ := hcodec
      right
      rw [initialSendStream, hsend, ← Except.ok.inj hend]
      exact ⟨sendCodec, rfl, hset⟩

theorem created_createSendStream {sp : SendStreamParams} {stream : WebRtcVideoSendStream}
    (hcreate : channel.createSendStream api sp = .ok stream) : Created sp stream := by
  obtain ⟨rtpParameters, hquiet, hcodec⟩ := createSendStream_cases hcreate
  rcases hcodec with ⟨-, rfl⟩ | ⟨sendCodec, -, hset⟩
  · exact ⟨hquiet, rfl, rfl, List.Subset.refl _⟩
  · have hsame := same_setCodec hset
    exact ⟨hquiet.of_same hsame, hsame.ssrcs, hsame.media, hsame.rtx⟩

/-- The construction does not fail exactly for constructible parameters. -/
theorem exists_createSendStream_iff {sp : SendStreamParams} :
    (∃ stream, channel.createSendStream api sp = .ok stream) ↔ Constructible sp := by
  rw [← @exists_construct_iff sp (channel.sendStreamConfig sp) channel.defaultSendOptions
    channel.videoConfig.enableCpuAdaptation channel.bitrateConfig.maxBitrateBps
    channel.sendCodec channel.sendRtpExtensions channel.sendParams rfl]
  constructor
  · rintro ⟨stream, hcreate⟩
    obtain ⟨initial, hconstruct, -⟩ := exists_of_create hcreate
    exact ⟨initial, hconstruct⟩
  · rintro ⟨initial, hconstruct⟩
    obtain ⟨rtpParameters, first, rest, hunlimited, hencodings, rfl⟩ :=
      exists_of_construct hconstruct
    have hquiet : Quiet (channel.initialSendStream sp rtpParameters) :=
      quiet_initialStream hunlimited hencodings
    rw [createSendStream, WebRtcVideoSendStream.create, hconstruct]
    cases hsend : channel.sendCodec with
    | none => exact ⟨_, rfl⟩
    | some sendCodec =>
        rw [initialSendStream, hsend] at hquiet
        obtain ⟨encoderConfig, -, -, hset⟩ := @setCodec_quiet api _ hquiet sendCodec
        exact ⟨_, hset⟩

theorem getElem?_withSendStream (channel : WebRtcVideoChannel) (sp : SendStreamParams)
    (stream : WebRtcVideoSendStream) (key : UInt32) :
    (channel.withSendStream sp stream).sendStreams[key]? =
      if sp.firstSsrc = key then some stream else channel.sendStreams[key]? :=
  getElem?_insert_eq_ite _ _ _ _

/-- A stream is added only for valid parameters whose SSRCs are not in use. -/
theorem addSendStream_cases {sp : SendStreamParams} {accepted : Bool}
    (hadd : channel.addSendStream api sp = .ok (next, accepted)) :
    (accepted = false ∧ next = channel) ∨
      (accepted = true ∧ validateStreamParams sp = true ∧
        channel.validateSendSsrcAvailability sp = true ∧
        ∃ created stream, channel.createSendStream api sp = .ok created ∧
          (if channel.sending then created.setSend true else .ok created) = .ok stream ∧
          next = channel.withSendStream sp stream) := by
  rw [addSendStream] at hadd
  split_ifs at hadd with hrefused hsending
  · obtain ⟨rfl, rfl⟩ := Prod.mk.inj (Except.ok.inj hadd)
    exact Or.inl ⟨rfl, rfl⟩
  all_goals
    obtain ⟨created, hcreate, hmap⟩ := except_bind_eq_ok_iff.mp hadd
    obtain ⟨stream, hstream, hpair⟩ := except_map_eq_ok_iff.mp hmap
    obtain ⟨rfl, rfl⟩ := Prod.mk.inj hpair
    rw [Bool.or_eq_true, not_or] at hrefused
    refine Or.inr ⟨rfl, by simpa using hrefused.1, by simpa using hrefused.2, created, stream,
      hcreate, ?_, rfl⟩
    simpa [hsending] using hstream

theorem removeSendStream_cases (channel : WebRtcVideoChannel) (ssrc : UInt32) :
    (channel.sendStreams[ssrc]? = none ∧ channel.removeSendStream ssrc = (channel, false)) ∨
      ∃ stream, channel.sendStreams[ssrc]? = some stream ∧
        channel.removeSendStream ssrc =
          ({ channel with
              sendSsrcs := channel.sendSsrcs \ stream.ssrcs.toFinset
              sendStreams := channel.sendStreams.erase ssrc
              rtcpReceiverReportSsrc :=
                if channel.rtcpReceiverReportSsrc = ssrc then
                  (channel.sendStreams.erase ssrc).minKey?.getD kDefaultRtcpReceiverReportSsrc
                else channel.rtcpReceiverReportSsrc }, true) := by
  rw [removeSendStream]
  cases hstream : channel.sendStreams[ssrc]? with
  | none => exact Or.inl ⟨rfl, rfl⟩
  | some stream => exact Or.inr ⟨stream, rfl, rfl⟩

theorem getElem?_removeSendStream (channel : WebRtcVideoChannel) (ssrc key : UInt32) :
    (channel.removeSendStream ssrc).1.sendStreams[key]? =
      if ssrc = key then none else channel.sendStreams[key]? := by
  rcases removeSendStream_cases channel ssrc with ⟨habsent, hremove⟩ | ⟨removed, -, hremove⟩
  · rw [hremove]
    split_ifs with hkey
    · rw [← hkey, habsent]
    · rfl
  · rw [hremove]
    exact getElem?_erase_eq_ite _ _ _

/-- A stream that is left was there before. -/
theorem exists_of_removeSendStream {ssrc key : UInt32} {stream : WebRtcVideoSendStream}
    (hstream : (channel.removeSendStream ssrc).1.sendStreams[key]? = some stream) :
    ssrc ≠ key ∧ channel.sendStreams[key]? = some stream := by
  rw [getElem?_removeSendStream] at hstream
  split_ifs at hstream with hkey
  exact ⟨hkey, hstream⟩

/-! ## All calls -/

/-- The channels have the same codecs and streams. -/
structure SameMedia (channel next : WebRtcVideoChannel) : Prop where
  sendSsrcs : next.sendSsrcs = channel.sendSsrcs
  reportSsrc : next.rtcpReceiverReportSsrc = channel.rtcpReceiverReportSsrc
  sending : next.sending = channel.sending
  sendStreams : next.sendStreams = channel.sendStreams
  sendCodec : next.sendCodec = channel.sendCodec
  negotiatedCodecs : next.negotiatedCodecs = channel.negotiatedCodecs

theorem SameMedia.refl (channel : WebRtcVideoChannel) : SameMedia channel channel :=
  ⟨rfl, rfl, rfl, rfl, rfl, rfl⟩

theorem SameMedia.trans {middle : WebRtcVideoChannel} (hleft : SameMedia channel middle)
    (hright : SameMedia middle next) : SameMedia channel next where
  sendSsrcs := hright.sendSsrcs.trans hleft.sendSsrcs
  reportSsrc := hright.reportSsrc.trans hleft.reportSsrc
  sending := hright.sending.trans hleft.sending
  sendStreams := hright.sendStreams.trans hleft.sendStreams
  sendCodec := hright.sendCodec.trans hleft.sendCodec
  negotiatedCodecs := hright.negotiatedCodecs.trans hleft.negotiatedCodecs

/-- The changes name a send codec with the payload type of a negotiated one. -/
def NamesNegotiated (negotiatedCodecs : List VideoCodecSettings)
    (params : ChangedSendParameters) : Prop :=
  ∃ sendCodec, params.sendCodec = some sendCodec ∧
    ∃ entry ∈ params.negotiatedCodecs.getD negotiatedCodecs,
      entry.codec.id = sendCodec.codec.id

/-- Nothing happens to codecs and streams unless a record of changes is applied. -/
inductive Applies (api : EngineApi) (channel next : WebRtcVideoChannel)
    (Asked : ChangedSendParameters → Prop) : Prop where
  | kept (hsame : SameMedia channel next)
  | applied {base result : WebRtcVideoChannel} {params : ChangedSendParameters}
      (hbase : SameMedia channel base) (hasked : Asked params)
      (happly : base.applyChangedParams api params = .ok result) (hresult : SameMedia result next)

theorem Applies.sameStreams {Asked : ChangedSendParameters → Prop}
    (happlies : Applies api channel next Asked) : SameStreams channel next := by
  cases happlies with
  | kept hsame =>
      exact SameStreams.of_eq hsame.sendSsrcs hsame.reportSsrc hsame.sending hsame.sendStreams
  | @applied base result params hbase _ happly hresult =>
      have hsame := sameStreams_applyChangedParams happly
      refine ⟨?_, ?_, ?_, fun key stream hstream => ?_, fun key hnone => ?_⟩
      · rw [hresult.sendSsrcs, hsame.sendSsrcs, hbase.sendSsrcs]
      · rw [hresult.reportSsrc, hsame.reportSsrc, hbase.reportSsrc]
      · rw [hresult.sending, hsame.sending, hbase.sending]
      · rw [hresult.sendStreams]
        exact hsame.kept key stream (by rw [hbase.sendStreams, hstream])
      · rw [hresult.sendStreams]
        exact hsame.absent key (by rw [hbase.sendStreams, hnone])

theorem applies_switchTo {codecSetting : VideoCodecSettings}
    (hnegotiated : ∃ entry ∈ channel.negotiatedCodecs, entry.codec.id = codecSetting.codec.id)
    (hswitch : channel.switchTo api codecSetting = .ok next) :
    Applies api channel next (NamesNegotiated channel.negotiatedCodecs) := by
  rw [switchTo] at hswitch
  split_ifs at hswitch
  · obtain rfl := Except.ok.inj hswitch
    exact Applies.kept (SameMedia.refl _)
  · have hnamed : NamesNegotiated channel.negotiatedCodecs { sendCodec := some codecSetting } :=
      ⟨codecSetting, rfl, hnegotiated⟩
    exact Applies.applied (SameMedia.refl _) hnamed hswitch (SameMedia.refl _)

theorem applies_requestEncoderSwitch {conf : EncoderSwitchConfig}
    (hswitch : channel.requestEncoderSwitch api conf = .ok next) :
    Applies api channel next (NamesNegotiated channel.negotiatedCodecs) := by
  rw [requestEncoderSwitch] at hswitch
  split_ifs at hswitch
  · split at hswitch
    · obtain rfl := Except.ok.inj hswitch
      exact Applies.kept (SameMedia.refl _)
    · rename_i codecSetting hfind
      exact applies_switchTo ⟨codecSetting, List.mem_of_find?_eq_some hfind, rfl⟩ hswitch
  · obtain rfl := Except.ok.inj hswitch
    exact Applies.kept ⟨rfl, rfl, rfl, rfl, rfl, rfl⟩

/-- What a call asks for: what the new parameters change, or a negotiated codec. -/
def Asks (api : EngineApi) (channel : WebRtcVideoChannel) (call : ChannelCall)
    (changed : ChangedSendParameters) : Prop :=
  (∃ params, call = .setSendParameters params ∧
      channel.getChangedSendParameters api params = some changed) ∨
    NamesNegotiated channel.negotiatedCodecs changed

theorem Applies.of_negotiated {call : ChannelCall}
    (happlies : Applies api channel next (NamesNegotiated channel.negotiatedCodecs)) :
    Applies api channel next (Asks api channel call) := by
  cases happlies with
  | kept hsame => exact Applies.kept hsame
  | applied hbase hasked happly hresult =>
      exact Applies.applied hbase (Or.inr hasked) happly hresult

theorem applies_setSendParameters {params : VideoSendParameters} {accepted : Bool}
    (hset : channel.setSendParameters api params = .ok (next, accepted)) :
    Applies api channel next (Asks api channel (.setSendParameters params)) := by
  rw [setSendParameters] at hset
  split at hset
  · obtain ⟨rfl, -⟩ := Prod.mk.inj (Except.ok.inj hset)
    exact Applies.kept (SameMedia.refl _)
  · rename_i changed hchanged
    obtain ⟨result, happly, hpair⟩ := except_map_eq_ok_iff.mp hset
    obtain ⟨rfl, -⟩ := Prod.mk.inj hpair
    have hbase : SameMedia channel { channel with sendParams := params } :=
      ⟨rfl, rfl, rfl, rfl, rfl, rfl⟩
    exact Applies.applied hbase (Or.inl ⟨params, rfl, hchanged⟩) happly (SameMedia.refl _)

theorem applies_requestEncoderFallback
    (hfallback : channel.requestEncoderFallback api = .ok next) :
    Applies api channel next (NamesNegotiated channel.negotiatedCodecs) := by
  rw [requestEncoderFallback] at hfallback
  split at hfallback
  · rename_i front rest _
    have hnamed : NamesNegotiated channel.negotiatedCodecs
        { negotiatedCodecs := some (front :: rest), sendCodec := some front } :=
      ⟨front, rfl, front, List.mem_cons_self, rfl⟩
    exact Applies.applied (SameMedia.refl _) hnamed hfallback (SameMedia.refl _)
  · obtain rfl := Except.ok.inj hfallback
    exact Applies.kept (SameMedia.refl _)

theorem applies_requestEncoderSwitchFormat {format : SdpVideoFormat}
    (hswitch : channel.requestEncoderSwitchFormat api format = .ok next) :
    Applies api channel next (NamesNegotiated channel.negotiatedCodecs) := by
  rw [requestEncoderSwitchFormat] at hswitch
  split at hswitch
  · obtain rfl := Except.ok.inj hswitch
    exact Applies.kept (SameMedia.refl _)
  · rename_i entry hfind
    refine applies_switchTo ?_ hswitch
    exact ⟨entry, List.mem_of_find?_eq_some hfind, rfl⟩

/-- A request that waited is made once switching is enabled. -/
theorem applies_setVideoCodecSwitchingEnabled {enabled : Bool}
    (henable : channel.setVideoCodecSwitchingEnabled api enabled = .ok next) :
    Applies api channel next (NamesNegotiated channel.negotiatedCodecs) := by
  unfold setVideoCodecSwitchingEnabled at henable
  split at henable
  · obtain ⟨other, hswitch, rfl⟩ := except_map_eq_ok_iff.mp henable
    cases applies_requestEncoderSwitch hswitch with
    | kept hsame => exact Applies.kept ⟨hsame.sendSsrcs, hsame.reportSsrc, hsame.sending,
        hsame.sendStreams, hsame.sendCodec, hsame.negotiatedCodecs⟩
    | applied hbase hasked happly hresult =>
        exact Applies.applied ⟨hbase.sendSsrcs, hbase.reportSsrc, hbase.sending,
          hbase.sendStreams, hbase.sendCodec, hbase.negotiatedCodecs⟩ hasked happly
          ⟨hresult.sendSsrcs, hresult.reportSsrc, hresult.sending, hresult.sendStreams,
            hresult.sendCodec, hresult.negotiatedCodecs⟩
  · obtain rfl := Except.ok.inj henable
    exact Applies.kept ⟨rfl, rfl, rfl, rfl, rfl, rfl⟩

/-- A call adds a stream, removes one, or applies what it asks for. -/
theorem channelStep_cases {call : ChannelCall}
    (hstep : channelStep api channel call = some (.ok next)) :
    (∃ sp accepted, call = .addSendStream sp ∧
        channel.addSendStream api sp = .ok (next, accepted)) ∨
      (∃ ssrc, call = .removeSendStream ssrc ∧ next = (channel.removeSendStream ssrc).1) ∨
      Applies api channel next (Asks api channel call) := by
  cases call with
  | addSendStream sp =>
      obtain ⟨⟨other, accepted⟩, hadd, rfl⟩ := except_map_eq_ok_iff.mp (Option.some.inj hstep)
      exact Or.inl ⟨sp, accepted, rfl, hadd⟩
  | removeSendStream ssrc =>
      exact Or.inr (Or.inl ⟨ssrc, rfl, (Except.ok.inj (Option.some.inj hstep)).symm⟩)
  | setSendParameters params =>
      obtain ⟨⟨other, accepted⟩, hset, rfl⟩ := except_map_eq_ok_iff.mp (Option.some.inj hstep)
      exact Or.inr (Or.inr (applies_setSendParameters hset))
  | requestEncoderFallback =>
      have hnamed := applies_requestEncoderFallback (Option.some.inj hstep)
      exact Or.inr (Or.inr hnamed.of_negotiated)
  | requestEncoderSwitch conf =>
      have hnamed := applies_requestEncoderSwitch (Option.some.inj hstep)
      exact Or.inr (Or.inr hnamed.of_negotiated)
  | requestEncoderSwitchFormat format =>
      have hnamed := applies_requestEncoderSwitchFormat (Option.some.inj hstep)
      exact Or.inr (Or.inr hnamed.of_negotiated)
  | setVideoCodecSwitchingEnabled enabled =>
      have hnamed := applies_setVideoCodecSwitchingEnabled (Option.some.inj hstep)
      exact Or.inr (Or.inr hnamed.of_negotiated)

end WebRtcVideoChannel

end PeerConnection.Engine
