import PeerConnection.Engine.RtpParameterErrors
import PeerConnection.Engine.SendStreamBookkeeping

/-!
# RTP parameters that are set as they were got

The application gets the parameters of a stream, and they are accepted without a change when it
sets them again.  Every stream keeps parameters whose values pass their check, and the SSRCs and
RIDs that its encodings were created with.
-/

namespace PeerConnection.Engine

open PeerConnection.Text
open PeerConnection.Runs
open PeerConnection.MapValues

/-! ## Checks -/

/-- The SSRC and the RID of every encoding. -/
def layerIds (rtpParameters : RtpParameters) : List (Option UInt32 × Bytes) :=
  rtpParameters.encodings.map fun encoding => (encoding.ssrc, encoding.rid)

@[simp]
theorem encodingDiffers_self (encoding : RtpEncodingParameters) :
    encodingDiffers encoding encoding = false := by
  simp [encodingDiffers]

theorem checkEncodingValues_default (ssrc : Option UInt32) (rid : Bytes) :
    checkEncodingValues { ssrc := ssrc, rid := rid } = none := by
  rw [checkEncodingValues, if_neg (by norm_num), if_neg (by simp), if_neg (by simp),
    if_neg (by simp), if_neg (by simp)]

theorem any_zip_self {α : Type*} {differs : α → α → Bool}
    (hself : ∀ element, differs element element = false) (elements : List α) :
    ((elements.zip elements).any fun pair => differs pair.1 pair.2) = false := by
  induction elements with
  | nil => rfl
  | cons element elements ih => simp [hself, ih]

theorem map_eq_map_of_isEqv {α β : Type*} [DecidableEq β] {field : α → β} {left right : List α}
    (heqv : left.isEqv right (fun first second => decide (field first = field second)) = true) :
    left.map field = right.map field := by
  induction left generalizing right with
  | nil =>
      cases right with
      | nil => rfl
      | cons second right => exact absurd heqv (by simp)
  | cons first left ih =>
      cases right with
      | nil => exact absurd heqv (by simp)
      | cons second right =>
          rw [List.isEqv_cons_cons, Bool.and_eq_true, decide_eq_true_eq] at heqv
          rw [List.map_cons, List.map_cons, heqv.1, ih heqv.2]

theorem isEqv_self {α β : Type*} [DecidableEq β] (field : α → β) (elements : List α) :
    elements.isEqv elements (fun first second => decide (field first = field second)) = true := by
  induction elements with
  | nil => rfl
  | cons element elements ih => simp [List.isEqv_cons_cons, ih]

/-- Accepted parameters have the layers of the old ones and values that pass their check. -/
theorem layerIds_of_accepted {oldRtpParameters rtpParameters : RtpParameters}
    (hcheck : checkRtpParametersInvalidModificationAndValues oldRtpParameters rtpParameters =
      none) :
    layerIds rtpParameters = layerIds oldRtpParameters ∧
      checkRtpParametersValues rtpParameters = none := by
  rw [checkRtpParametersInvalidModificationAndValues] at hcheck
  split_ifs at hcheck with _ _ _ hrids hssrcs
  simp only [Bool.not_eq_true, Bool.not_eq_false'] at hrids hssrcs
  refine ⟨?_, hcheck⟩
  have hsame : oldRtpParameters.encodings.map (·.rid) = rtpParameters.encodings.map (·.rid) :=
    map_eq_map_of_isEqv hrids
  have hother : oldRtpParameters.encodings.map (·.ssrc) = rtpParameters.encodings.map (·.ssrc) :=
    map_eq_map_of_isEqv hssrcs
  have hzip : ∀ parameters : RtpParameters, layerIds parameters =
      (parameters.encodings.map (·.ssrc)).zip (parameters.encodings.map (·.rid)) := by
    intro parameters
    rw [List.zip_map', layerIds]
  rw [hzip, hzip, hsame, hother]

/-- Parameters that differ in the codecs alone are checked for their values alone. -/
theorem check_withCodecs (rtpParameters : RtpParameters) (codecs : List RtpCodecParameters) :
    checkRtpParametersInvalidModificationAndValues rtpParameters
      { rtpParameters with codecs := codecs } = checkRtpParametersValues rtpParameters := by
  have hrtcp : rtcpDiffers { rtpParameters with codecs := codecs } rtpParameters = false := by
    simp [rtcpDiffers]
  simp [checkRtpParametersInvalidModificationAndValues, hrtcp, isEqv_self, checkRtpParametersValues]

/-! ## Streams -/

namespace WebRtcVideoSendStream

variable {api : EngineApi} {stream next : WebRtcVideoSendStream}

/-- What the stream needs to accept the parameters that it hands out. -/
structure Settable (stream : WebRtcVideoSendStream) : Prop where
  codecs : stream.rtpParameters.codecs = []
  encodings : stream.rtpParameters.encodings ≠ []
  values : checkRtpParametersValues stream.rtpParameters = none

theorem SameStream.settable (hsame : SameStream stream next) (hsettable : Settable stream) :
    Settable next where
  codecs := hsame.rtpCodecs.trans hsettable.codecs
  encodings := by
    rw [hsame.encodings]
    exact hsettable.encodings
  values := by
    rw [checkRtpParametersValues, hsame.encodings]
    exact hsettable.values

theorem SameStream.layerIds_eq (hsame : SameStream stream next) :
    layerIds next.rtpParameters = layerIds stream.rtpParameters := by
  rw [layerIds, hsame.encodings, layerIds]

theorem takeRtpParameters_self (hcodecs : stream.rtpParameters.codecs = [])
    (codecs : List RtpCodecParameters) (first : RtpEncodingParameters) :
    stream.takeRtpParameters api { stream.rtpParameters with codecs := codecs } first first =
      .ok stream := by
  have hactive : ((stream.rtpParameters.encodings.zip stream.rtpParameters.encodings).any
      fun pair => decide (isLayerActive pair.1 ≠ isLayerActive pair.2)) = false :=
    @any_zip_self _ (fun left right => decide (isLayerActive left ≠ isLayerActive right))
      (by simp) _
  have hencodings := any_zip_self encodingDiffers_self stream.rtpParameters.encodings
  have hstored : { stream.rtpParameters with codecs := [] } = stream.rtpParameters := by
    rw [← hcodecs]
  simp only [takeRtpParameters, hencodings, hactive, hstored]
  simp [Except.bind]

/-- The parameters of the stream are accepted with any codecs, and nothing changes. -/
theorem setRtpParameters_self (hsettable : Settable stream) (codecs : List RtpCodecParameters) :
    stream.setRtpParameters api { stream.rtpParameters with codecs := codecs } =
      .ok (stream, none) := by
  obtain ⟨first, rest, hencodings⟩ := List.exists_cons_of_ne_nil hsettable.encodings
  have htake := @takeRtpParameters_self api stream hsettable.codecs codecs first
  rw [setRtpParameters, check_withCodecs, hsettable.values]
  simp only [hencodings] at htake ⊢
  rw [htake]
  rfl

/-- The stream accepts what it is left with, whether the parameters are refused or not. -/
theorem settable_setRtpParameters {newParameters : RtpParameters} {error : Option RtcError}
    (hsettable : Settable stream)
    (hset : stream.setRtpParameters api newParameters = .ok (next, error)) :
    Settable next ∧ layerIds next.rtpParameters = layerIds stream.rtpParameters := by
  obtain ⟨hcheck, ⟨-, rfl⟩ | ⟨rfl, htaken⟩⟩ := setRtpParameters_cases hset
  · exact ⟨hsettable, rfl⟩
  obtain ⟨hlayers, hvalues⟩ := layerIds_of_accepted hcheck
  have hsame : layerIds next.rtpParameters = layerIds stream.rtpParameters := by
    rw [htaken]
    exact hlayers
  refine ⟨⟨by rw [htaken], fun hempty => hsettable.encodings ?_, by rw [htaken]; exact hvalues⟩,
    hsame⟩
  rw [layerIds, layerIds, hempty] at hsame
  exact List.map_eq_nil_iff.mp hsame.symm

/-- The layers that a stream is created with. -/
def createdLayerIds (sp : SendStreamParams) : List (Option UInt32 × Bytes) :=
  sp.getPrimarySsrcs.mapIdx fun index ssrc => (some ssrc, sp.rids.getD index [])

section Construct

variable {sp : SendStreamParams} {config : SendStreamConfig} {options : VideoOptions}
variable {enableCpuOveruseDetection : Bool} {maxBitrateBps : ℤ}
variable {codecSettings : Option VideoCodecSettings} {rtpExtensions : Option (List RtpExtension)}
variable {sendParams : VideoSendParameters}

/-- Every encoding of a new stream has the default values. -/
theorem encodings_construct (hconfig : config.rtp.ssrcs = [])
    (hconstruct : construct sp config options enableCpuOveruseDetection maxBitrateBps
      codecSettings rtpExtensions sendParams = .ok stream) :
    stream.rtpParameters.codecs = [] ∧ stream.rtpParameters.encodings ≠ [] ∧
      stream.rtpParameters.encodings = sp.getPrimarySsrcs.mapIdx fun index ssrc =>
        { ssrc := some ssrc, rid := sp.rids.getD index [] } := by
  obtain ⟨rtpParameters, hencodings, hmatch⟩ := except_bind_eq_ok_iff.mp hconstruct
  rw [createRtpParametersWithEncodings] at hencodings
  split_ifs at hencodings
  obtain rfl := Except.ok.inj hencodings
  rw [hconfig, List.nil_append] at hmatch
  split at hmatch
  · exact absurd hmatch (by simp)
  · exact absurd hmatch (by simp)
  · rename_i ssrc others first encodings hssrcs hfirst
    obtain rfl := Except.ok.inj hmatch
    refine ⟨rfl, List.cons_ne_nil _ _, ?_⟩
    -- the SSRC that is written to the first encoding is the one it has
    rw [hssrcs, List.mapIdx_cons, List.cons.injEq] at hfirst
    rw [hssrcs, List.mapIdx_cons, ← hfirst.1, ← hfirst.2]
    rfl

theorem settable_construct (hconfig : config.rtp.ssrcs = [])
    (hconstruct : construct sp config options enableCpuOveruseDetection maxBitrateBps
      codecSettings rtpExtensions sendParams = .ok stream) :
    Settable stream ∧ layerIds stream.rtpParameters = createdLayerIds sp := by
  obtain ⟨hcodecs, hnonempty, hencodings⟩ := encodings_construct hconfig hconstruct
  refine ⟨⟨hcodecs, hnonempty, ?_⟩, ?_⟩
  · rw [checkRtpParametersValues, hencodings, List.findSome?_eq_none_iff]
    intro encoding hencoding
    obtain ⟨index, hindex, rfl⟩ := List.mem_mapIdx.mp hencoding
    exact checkEncodingValues_default _ _
  · rw [layerIds, hencodings, createdLayerIds, List.mapIdx_eq_zipIdx_map, List.mapIdx_eq_zipIdx_map,
      List.map_map]
    rfl

end Construct

end WebRtcVideoSendStream

namespace WebRtcVideoChannel

open WebRtcVideoSendStream

variable {api : RtpApi} {channel next : WebRtcVideoChannel}

/-! ## Steps -/

/-- Every live stream accepts its own parameters, and its SSRC is in use. -/
structure Prepared (channel : WebRtcVideoChannel) : Prop where
  settable : ∀ (key : UInt32) stream, channel.sendStreams[key]? = some stream → Settable stream
  used : ∀ (key : UInt32) stream, channel.sendStreams[key]? = some stream →
    key ∈ channel.sendSsrcs

/-- The streams stay, each with its layers. -/
def KeepsLayers (channel next : WebRtcVideoChannel) : Prop :=
  ∀ (key : UInt32) stream, channel.sendStreams[key]? = some stream →
    ∃ changed, next.sendStreams[key]? = some changed ∧
      layerIds changed.rtpParameters = layerIds stream.rtpParameters

theorem KeepsLayers.trans {middle : WebRtcVideoChannel} (hleft : KeepsLayers channel middle)
    (hright : KeepsLayers middle next) : KeepsLayers channel next := by
  intro key stream hstream
  obtain ⟨changed, hchanged, hsame⟩ := hleft key stream hstream
  obtain ⟨last, hlast, hend⟩ := hright key changed hchanged
  exact ⟨last, hlast, hend.trans hsame⟩

/-- A stream of the next state is an old one with its layers or has been created just now. -/
structure Evolves (channel next : WebRtcVideoChannel) (Created : UInt32 → Prop) : Prop where
  prepared : Prepared next
  keeps : KeepsLayers channel next
  origin : ∀ (key : UInt32) stream, next.sendStreams[key]? = some stream →
    Created key ∨ ∃ old, channel.sendStreams[key]? = some old

theorem evolves_of_same (hprepared : Prepared channel) (hsame : SameStreams channel next)
    (Created : UInt32 → Prop) : Evolves channel next Created where
  prepared :=
    { settable := fun key changed hchanged => by
        obtain ⟨stream, hstream, hkept⟩ := hsame.exists_of_some hchanged
        exact hkept.settable (hprepared.settable key stream hstream)
      used := fun key changed hchanged => by
        obtain ⟨stream, hstream, -⟩ := hsame.exists_of_some hchanged
        rw [hsame.sendSsrcs]
        exact hprepared.used key stream hstream }
  keeps key stream hstream := by
    obtain ⟨changed, hchanged, hkept⟩ := hsame.kept key stream hstream
    exact ⟨changed, hchanged, hkept.layerIds_eq⟩
  origin key changed hchanged := by
    obtain ⟨stream, hstream, -⟩ := hsame.exists_of_some hchanged
    exact Or.inr ⟨stream, hstream⟩

/-- A new stream accepts its own parameters and has the layers that are asked for. -/
theorem settable_createSendStream {sp : SendStreamParams} {stream : WebRtcVideoSendStream}
    (hcreate : channel.createSendStream api.toEngineApi sp = .ok stream) :
    Settable stream ∧ layerIds stream.rtpParameters = createdLayerIds sp := by
  obtain ⟨initial, hconstruct, hcodec⟩ := exists_of_create hcreate
  have hinitial := settable_construct rfl hconstruct
  cases hsend : channel.sendCodec with
  | none =>
      rw [hsend, Option.toList_none, List.foldlM_nil] at hcodec
      rw [← Except.ok.inj hcodec]
      exact hinitial
  | some sendCodec =>
      rw [hsend, Option.toList_some, List.foldlM_cons, except_bind_eq_ok_iff] at hcodec
      obtain ⟨middle, hset, hend⟩ := hcodec
      rw [← Except.ok.inj hend]
      have hsame := same_setCodec hset
      exact ⟨hsame.settable hinitial.1, hsame.layerIds_eq.trans hinitial.2⟩

/-- One stream is put in the channel: under a new SSRC, or with the layers of the stream that it
takes the place of. -/
structure PutsStream (channel next : WebRtcVideoChannel) (ssrc : UInt32)
    (stream : WebRtcVideoSendStream) : Prop where
  settable : Settable stream
  sendStreams : ∀ key : UInt32, next.sendStreams[key]? =
    if ssrc = key then some stream else channel.sendStreams[key]?
  used : ssrc ∈ next.sendSsrcs
  sendSsrcs : channel.sendSsrcs ⊆ next.sendSsrcs
  layers : ∀ old, channel.sendStreams[ssrc]? = some old →
    layerIds stream.rtpParameters = layerIds old.rtpParameters

theorem PutsStream.evolves {ssrc : UInt32} {stream : WebRtcVideoSendStream}
    {Created : UInt32 → Prop} (hputs : PutsStream channel next ssrc stream)
    (hprepared : Prepared channel)
    (horigin : Created ssrc ∨ ∃ old, channel.sendStreams[ssrc]? = some old) :
    Evolves channel next Created where
  prepared :=
    { settable := fun key other hother => by
        rw [hputs.sendStreams] at hother
        split_ifs at hother
        · obtain rfl := Option.some.inj hother
          exact hputs.settable
        · exact hprepared.settable key other hother
      used := fun key other hother => by
        rw [hputs.sendStreams] at hother
        split_ifs at hother with hkey
        · rw [← hkey]
          exact hputs.used
        · exact hputs.sendSsrcs (hprepared.used key other hother) }
  keeps key old hold := by
    rw [hputs.sendStreams]
    split_ifs with hkey
    · rw [← hkey] at hold
      exact ⟨stream, rfl, hputs.layers old hold⟩
    · exact ⟨old, hold, rfl⟩
  origin key other hother := by
    rw [hputs.sendStreams] at hother
    split_ifs at hother with hkey
    · rw [← hkey]
      exact horigin
    · exact Or.inr ⟨other, hother⟩

/-- An accepted addition puts a stream with the layers asked for where there was none. -/
theorem evolves_addSendStream {sp : SendStreamParams} (hprepared : Prepared channel)
    (hadd : channel.addSendStream api.toEngineApi sp = .ok (next, true)) :
    Evolves channel next (· = sp.firstSsrc) ∧
      ∃ stream, next.sendStreams[sp.firstSsrc]? = some stream ∧
        layerIds stream.rtpParameters = createdLayerIds sp := by
  rcases addSendStream_cases hadd with ⟨hfalse, -⟩ |
    ⟨-, hvalid, hfresh, created, stream, hcreate, hstream, rfl⟩
  · exact absurd hfalse (by simp)
  have havailable := available_of_valid hvalid hfresh
  have hcreated := settable_createSendStream hcreate
  have hsettable : Settable stream ∧ layerIds stream.rtpParameters = createdLayerIds sp := by
    split_ifs at hstream
    · rw [eq_of_updateSendState hstream]
      exact ⟨⟨hcreated.1.codecs, hcreated.1.encodings, hcreated.1.values⟩, hcreated.2⟩
    · rwa [← Except.ok.inj hstream]
  have hputs : PutsStream channel (channel.withSendStream sp stream) sp.firstSsrc stream :=
    { settable := hsettable.1
      sendStreams := getElem?_withSendStream channel sp stream
      used := Finset.mem_union_right _ (List.mem_toFinset.mpr havailable.first_mem)
      sendSsrcs := Finset.subset_union_left
      -- the SSRC of a live stream is in use, so it is not the new one
      layers := fun old hold =>
        absurd (hprepared.used _ old hold) (havailable.fresh _ havailable.first_mem) }
  refine ⟨hputs.evolves hprepared (Or.inl rfl), stream, ?_, hsettable.2⟩
  rw [hputs.sendStreams, if_pos rfl]

theorem evolves_setRtpSendParameters {ssrc : UInt32} {parameters : RtpParameters}
    {error : Option RtcError} (hprepared : Prepared channel)
    (hset : channel.setRtpSendParameters api ssrc parameters = .ok (next, error))
    (Created : UInt32 → Prop) : Evolves channel next Created := by
  rcases setRtpSendParameters_cases hset with
    ⟨-, rfl, -⟩ | ⟨stream, taken, hreaches, htake, rfl⟩
  · exact evolves_of_same hprepared (SameStreams.refl next) Created
  have htaken := settable_setRtpParameters (hprepared.settable ssrc stream hreaches.stream) htake
  have hused : (channel.withDscp parameters).sendSsrcs = channel.sendSsrcs := by
    rw [withDscp]
    split <;> rfl
  have hputs : PutsStream channel { channel.withDscp parameters with
      sendStreams := channel.sendStreams.insert ssrc taken } ssrc taken :=
    { settable := htaken.1
      sendStreams := fun key => getElem?_insert_eq_ite _ _ _ _
      used := by
        rw [hused]
        exact hprepared.used ssrc stream hreaches.stream
      sendSsrcs := hused.ge
      layers := fun old hold => by
        rw [hreaches.stream] at hold
        rw [← Option.some.inj hold]
        exact htaken.2 }
  exact hputs.evolves hprepared (Or.inr ⟨stream, hreaches.stream⟩)

/-- Streams are not removed. -/
def KeepsStreams (call : RtpCall) : Prop :=
  ∀ ssrc, call ≠ .channelCall (.removeSendStream ssrc)

/-- The call adds a stream under the key. -/
def AddsStream (api : RtpApi) (channel : WebRtcVideoChannel) (call : RtpCall) (key : UInt32) :
    Prop :=
  ∃ sp added, call = .channelCall (.addSendStream sp) ∧
    channel.addSendStream api.toEngineApi sp = .ok (added, true) ∧ key = sp.firstSsrc

theorem evolves_rtpStep {call : RtpCall} (hprepared : Prepared channel)
    (hkeeps : KeepsStreams call) (hstep : rtpStep api channel call = some (.ok next)) :
    Evolves channel next (AddsStream api channel call) := by
  cases call with
  | setRtpSendParameters ssrc parameters =>
      obtain ⟨⟨other, error⟩, hset, rfl⟩ := except_map_eq_ok_iff.mp (Option.some.inj hstep)
      exact evolves_setRtpSendParameters hprepared hset _
  | channelCall call =>
      rcases channelStep_cases hstep with ⟨sp, accepted, rfl, hadd⟩ | ⟨ssrc, rfl, -⟩ | happlies
      · cases accepted with
        | true =>
            have hevolves := (evolves_addSendStream hprepared hadd).1
            refine ⟨hevolves.prepared, hevolves.keeps, fun key stream hstream => ?_⟩
            rcases hevolves.origin key stream hstream with hkey | hold
            · exact Or.inl ⟨sp, next, rfl, hadd, hkey⟩
            · exact Or.inr hold
        | false =>
            rcases addSendStream_cases hadd with ⟨-, rfl⟩ | ⟨htrue, -⟩
            · exact evolves_of_same hprepared (SameStreams.refl next) _
            · exact absurd htrue (by simp)
      · exact absurd rfl (hkeeps ssrc)
      · exact evolves_of_same hprepared happlies.sameStreams _

/-! ## Runs -/

/-- The run adds a stream for these parameters. -/
def Adds (api : RtpApi) (start : WebRtcVideoChannel) (calls : List RtpCall)
    (sp : SendStreamParams) : Prop :=
  ∃ before after middle added, calls = before ++ .channelCall (.addSendStream sp) :: after ∧
    run (rtpStep api) start before = some (.ok middle) ∧
    middle.addSendStream api.toEngineApi sp = .ok (added, true)

/-- Parameters are accepted as they were got and change nothing, and every stream that was added
is there with the layers it was created with. -/
structure RoundTrips (api : RtpApi) (start : WebRtcVideoChannel) (calls : List RtpCall)
    (final : WebRtcVideoChannel) : Prop where
  roundTrip : ∀ (ssrc : UInt32) stream, final.sendStreams[ssrc]? = some stream →
    ∃ next, final.setRtpSendParameters api ssrc (final.getRtpSendParameters api ssrc) =
        .ok (next, none) ∧ next.sendStreams[ssrc]? = some stream
  added : ∀ (ssrc : UInt32) stream, final.sendStreams[ssrc]? = some stream →
    ∃ sp, Adds api start calls sp ∧ sp.firstSsrc = ssrc
  layers : ∀ sp, Adds api start calls sp →
    ∃ stream, final.sendStreams[sp.firstSsrc]? = some stream ∧
      layerIds stream.rtpParameters = createdLayerIds sp

theorem setRtpSendParameters_self {ssrc : UInt32} {stream : WebRtcVideoSendStream}
    (hstream : channel.sendStreams[ssrc]? = some stream) (hsettable : Settable stream) :
    ∃ next, channel.setRtpSendParameters api ssrc (channel.getRtpSendParameters api ssrc) =
        .ok (next, none) ∧ next.sendStreams[ssrc]? = some stream := by
  have hgot : channel.getRtpSendParameters api ssrc =
      channel.withCodecs api stream.rtpParameters := by
    rw [getRtpSendParameters, hstream]
  have hself := @setRtpParameters_self api.toEngineApi stream hsettable
    (stream.rtpParameters.codecs ++ channel.sendParams.codecs.map api.toCodecParameters)
  rw [setRtpSendParameters, hstream]
  dsimp only
  rw [if_neg (not_not.mpr rfl), hgot, withCodecs, hself]
  exact ⟨_, rfl, by simp⟩

theorem prepared_create (videoConfig : VideoConfig) (options : VideoOptions) :
    Prepared (create videoConfig options) where
  settable := by simp [create]
  used := by simp [create]

theorem prepared_run {start final : WebRtcVideoChannel} {calls : List RtpCall}
    (hprepared : Prepared start) (hkeeps : ∀ call ∈ calls, KeepsStreams call)
    (hrun : run (rtpStep api) start calls = some (.ok final)) :
    Prepared final ∧ KeepsLayers start final :=
  @run_induction_of_forall _ _ _ (rtpStep api)
    (fun channel => Prepared channel ∧ KeepsLayers start channel) KeepsStreams
    (fun _ _ _ hinv hcall hstep =>
      have hevolves := evolves_rtpStep hinv.1 hcall hstep
      ⟨hevolves.prepared, hinv.2.trans hevolves.keeps⟩)
    start final calls ⟨hprepared, fun _ stream hstream => ⟨stream, hstream, rfl⟩⟩ hkeeps hrun

/-- Every live stream was added by a call of the run. -/
theorem exists_adds {start final : WebRtcVideoChannel} {calls : List RtpCall}
    (hprepared : Prepared start) (hempty : start.sendStreams = ∅)
    (hkeeps : ∀ call ∈ calls, KeepsStreams call)
    (hrun : run (rtpStep api) start calls = some (.ok final)) {ssrc : UInt32}
    {stream : WebRtcVideoSendStream} (hstream : final.sendStreams[ssrc]? = some stream) :
    ∃ sp, Adds api start calls sp ∧ sp.firstSsrc = ssrc := by
  induction calls using List.reverseRecOn generalizing final stream with
  | nil =>
      obtain rfl := Except.ok.inj (Option.some.inj hrun)
      rw [hempty] at hstream
      exact absurd hstream (by simp)
  | append_singleton calls call ih =>
      obtain ⟨middle, hbefore, hstep⟩ := run_concat_eq_ok_iff.mp hrun
      have hcalls : ∀ other ∈ calls, KeepsStreams other := fun other hother =>
        hkeeps other (List.mem_append_left _ hother)
      have hmiddle := (prepared_run hprepared hcalls hbefore).1
      have hevolves := evolves_rtpStep hmiddle (hkeeps call (by simp)) hstep
      rcases hevolves.origin ssrc stream hstream with ⟨sp, added, rfl, hadd, hkey⟩ | ⟨old, hold⟩
      · exact ⟨sp, ⟨calls, [], middle, added, rfl, hbefore, hadd⟩, hkey.symm⟩
      · obtain ⟨sp, ⟨before, after, earlier, added, rfl, hearlier, hadd⟩, hkey⟩ :=
          ih hcalls hbefore hold
        refine ⟨sp, ⟨before, after ++ [call], earlier, added, ?_, hearlier, hadd⟩, hkey⟩
        rw [List.append_assoc, List.cons_append]

/-- A stream that was added stays, with the layers it was created with. -/
theorem layers_of_adds {start final : WebRtcVideoChannel} {calls : List RtpCall}
    (hprepared : Prepared start) (hkeeps : ∀ call ∈ calls, KeepsStreams call)
    (hrun : run (rtpStep api) start calls = some (.ok final)) {sp : SendStreamParams}
    (hadds : Adds api start calls sp) :
    ∃ stream, final.sendStreams[sp.firstSsrc]? = some stream ∧
      layerIds stream.rtpParameters = createdLayerIds sp := by
  obtain ⟨before, after, middle, added, rfl, hbefore, hadd⟩ := hadds
  have hmiddle := (prepared_run hprepared (fun call hcall =>
    hkeeps call (List.mem_append_left _ hcall)) hbefore).1
  obtain ⟨hevolves, stream, hstream, hlayers⟩ := evolves_addSendStream hmiddle hadd
  have hstep : rtpStep api middle (.channelCall (.addSendStream sp)) = some (.ok added) := by
    simp only [rtpStep, channelStep, hadd]
    rfl
  rw [run_append hbefore, run_cons_of_ok hstep] at hrun
  obtain ⟨changed, hchanged, hsame⟩ := (prepared_run hevolves.prepared (fun call hcall =>
    hkeeps call (List.mem_append_right _ (List.mem_cons_of_mem _ hcall))) hrun).2 _ _ hstream
  exact ⟨changed, hchanged, hsame.trans hlayers⟩

/-- Whatever was set before, accepted or not, the parameters of a live stream are accepted as they
were got and change nothing, and its encodings have the SSRCs and RIDs of its creation. -/
theorem getRtpSendParameters_roundTrips {videoConfig : VideoConfig} {options : VideoOptions}
    {calls : List RtpCall} {final : WebRtcVideoChannel}
    (hkeeps : ∀ call ∈ calls, KeepsStreams call)
    (hrun : run (rtpStep api) (create videoConfig options) calls = some (.ok final)) :
    RoundTrips api (create videoConfig options) calls final where
  roundTrip ssrc stream hstream := by
    have hprepared := (prepared_run (prepared_create videoConfig options) hkeeps hrun).1
    exact setRtpSendParameters_self hstream (hprepared.settable ssrc stream hstream)
  added _ _ hstream := exists_adds (prepared_create videoConfig options) rfl hkeeps hrun hstream
  layers _ hadds := layers_of_adds (prepared_create videoConfig options) hkeeps hrun hadds

/-- Two layers with RIDs. -/
def layeredParams : SendStreamParams where
  id := ascii "video"
  streamIds := []
  cname := ascii "cname"
  ssrcs := [1, 2]
  ssrcGroups := [{ semantics := kSimSsrcGroupSemantics, ssrcs := [1, 2] }]
  rids := [ascii "a", ascii "b"]

/-- The second layer is switched off, and the same without its RID is refused. -/
def layerChanges : List RtpCall :=
  let first : RtpEncodingParameters := { ssrc := some 1, rid := ascii "a" }
  let second : RtpEncodingParameters := { ssrc := some 2, active := false }
  [.channelCall (.addSendStream layeredParams),
    .setRtpSendParameters 1
      { encodings := [first, { second with rid := ascii "b" }], rtcpCname := ascii "cname" },
    .setRtpSendParameters 1 { encodings := [first, second], rtcpCname := ascii "cname" }]

theorem getRtpSendParameters_roundTrips_layered :
    ∃ final, run (rtpStep (webrtcRtpApi [vp8Format])) (create {} {}) layerChanges =
        some (.ok final) ∧
      RoundTrips (webrtcRtpApi [vp8Format]) (create {} {}) layerChanges final := by
  have hreaches : reaches (fun final : WebRtcVideoChannel =>
      final.sendStreams[(1 : UInt32)]?.any fun stream =>
        stream.rtpParameters.encodings.map (·.active) = [true, false])
      (run (rtpStep (webrtcRtpApi [vp8Format])) (create {} {}) layerChanges) = true := by
    decide +kernel
  obtain ⟨final, hrun, -⟩ := exists_of_reaches _ hreaches
  refine ⟨final, hrun, getRtpSendParameters_roundTrips (fun call hcall ssrc => ?_) hrun⟩
  simp only [layerChanges, List.mem_cons, List.not_mem_nil, or_false] at hcall
  rcases hcall with rfl | rfl | rfl <;> simp

end WebRtcVideoChannel

end PeerConnection.Engine
