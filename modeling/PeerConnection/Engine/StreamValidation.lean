import PeerConnection.Engine.SendStreamBookkeeping

/-!
# What the validation of stream parameters covers

`AddSendStream` checks the SSRCs of the parameters and their RTX partners, while the constructor
configures the SSRCs of the SIM group and one encoding for each of them.  The checks are enough
for parameters whose SIM group has SSRCs, all of them listed, and no more RIDs than SSRCs.
-/

namespace PeerConnection.Engine

open PeerConnection.Text
open PeerConnection.Runs
open PeerConnection.Engine.WebRtcVideoSendStream
open Std

namespace WebRtcVideoChannel

variable {api : EngineApi} {channel next : WebRtcVideoChannel}

/-- The media and RTX SSRCs that the underlying stream would send with. -/
def configuredSsrcs (stream : WebRtcVideoSendStream) : List UInt32 :=
  stream.parameters.config.rtp.ssrcs ++ stream.parameters.config.rtp.rtx.ssrcs

/-- What the live streams send with is in use, and by one of them only. -/
structure Sound (channel : WebRtcVideoChannel) : Prop where
  covered : ∀ (key : UInt32) stream, channel.sendStreams[key]? = some stream →
    ∀ ssrc ∈ configuredSsrcs stream, ssrc ∈ channel.sendSsrcs
  exclusive : ∀ (left right : UInt32) first second, channel.sendStreams[left]? = some first →
    channel.sendStreams[right]? = some second → left ≠ right →
      List.Disjoint (configuredSsrcs first) (configuredSsrcs second)

/-- What the validation leaves open: there is a primary SSRC, one for each RID, and all of them
are listed. -/
structure Covers (sp : SendStreamParams) : Prop where
  constructible : Constructible sp
  listed : ∀ ssrc ∈ sp.getPrimarySsrcs, ssrc ∈ sp.ssrcs

/-- Every stream configures SSRCs of its own parameters only. -/
def OwnSsrcs (channel : WebRtcVideoChannel) : Prop :=
  ∀ (key : UInt32) stream, channel.sendStreams[key]? = some stream →
    ∀ ssrc ∈ configuredSsrcs stream, ssrc ∈ stream.ssrcs

theorem sound_of_ownSsrcs (hbookkept : Bookkept channel) (hown : OwnSsrcs channel) :
    Sound channel where
  covered key stream hstream ssrc hssrc :=
    (hbookkept.union ssrc).mpr ⟨key, stream, hstream, hown key stream hstream ssrc hssrc⟩
  exclusive left right first second hfirst hsecond hne ssrc hleft hright :=
    hbookkept.disjoint left right first second hfirst hsecond hne
      (hown left first hfirst ssrc hleft) (hown right second hsecond ssrc hright)

theorem SameStreams.ownSsrcs (hsame : SameStreams channel next) (hown : OwnSsrcs channel) :
    OwnSsrcs next := by
  intro key changed hchanged ssrc hssrc
  obtain ⟨stream, hstream, hkept⟩ := hsame.exists_of_some hchanged
  rw [hkept.ssrcs]
  apply hown key stream hstream
  rw [configuredSsrcs, List.mem_append, hkept.media] at hssrc
  rw [configuredSsrcs, List.mem_append]
  exact hssrc.imp_right fun hrtx => hkept.rtx hrtx

theorem ownSsrcs_created {sp : SendStreamParams} {stream : WebRtcVideoSendStream}
    (hcovers : Covers sp) (havailable : Available channel sp) (hcreated : Created sp stream) :
    ∀ ssrc ∈ configuredSsrcs stream, ssrc ∈ stream.ssrcs := by
  intro ssrc hssrc
  rw [hcreated.ssrcs]
  rw [configuredSsrcs, List.mem_append, hcreated.media] at hssrc
  rcases hssrc with hmedia | hrtx
  · exact hcovers.listed ssrc hmedia
  · exact havailable.rtx ssrc (hcreated.rtx hrtx)

theorem ownSsrcs_withSendStream {sp : SendStreamParams} {stream : WebRtcVideoSendStream}
    (hown : OwnSsrcs channel) (hstream : ∀ ssrc ∈ configuredSsrcs stream, ssrc ∈ stream.ssrcs) :
    OwnSsrcs (channel.withSendStream sp stream) := by
  intro key other hother
  rw [getElem?_withSendStream] at hother
  split_ifs at hother
  · obtain rfl := Option.some.inj hother
    exact hstream
  · exact hown key other hother

theorem ownSsrcs_removeSendStream (hown : OwnSsrcs channel) (ssrc : UInt32) :
    OwnSsrcs (channel.removeSendStream ssrc).1 :=
  fun key stream hstream => hown key stream (exists_of_removeSendStream hstream).2

/-! ## Runs -/

/-- The parameters pass the checks of `AddSendStream`. -/
def Accepted (channel : WebRtcVideoChannel) (sp : SendStreamParams) : Prop :=
  validateStreamParams sp = true ∧ channel.validateSendSsrcAvailability sp = true

/-- Accepted parameters have what the validation leaves open. -/
def AddsCovered (channel : WebRtcVideoChannel) (call : ChannelCall) : Prop :=
  ∀ sp, call = .addSendStream sp → Accepted channel sp → Covers sp

/-- The call does not fail while it adds a stream. -/
def AddReturns (api : EngineApi) (channel : WebRtcVideoChannel) (call : ChannelCall) : Prop :=
  ∀ sp, call = .addSendStream sp →
    ∃ next accepted, channel.addSendStream api sp = .ok (next, accepted)

theorem addReturns_of_covered {call : ChannelCall} (hbookkept : Bookkept channel)
    (hcovered : AddsCovered channel call) : AddReturns api channel call := by
  intro sp hcall
  rw [addSendStream]
  by_cases hrefused : (!validateStreamParams sp || !channel.validateSendSsrcAvailability sp) = true
  · rw [if_pos hrefused]
    exact ⟨channel, false, rfl⟩
  · have haccepted : Accepted channel sp := by
      rw [Bool.or_eq_true, not_or] at hrefused
      exact ⟨by simpa using hrefused.1, by simpa using hrefused.2⟩
    have hconstructible := (hcovered sp hcall haccepted).constructible
    obtain ⟨stream, hcreate⟩ := (@exists_createSendStream_iff api channel sp).mpr hconstructible
    rw [if_neg hrefused, hcreate, hbookkept.sending]
    exact ⟨_, true, rfl⟩

theorem ownSsrcs_channelStep {call : ChannelCall} (hbookkept : Bookkept channel)
    (hown : OwnSsrcs channel) (hcovered : AddsCovered channel call)
    (hstep : channelStep api channel call = some (.ok next)) : OwnSsrcs next := by
  rcases channelStep_cases hstep with ⟨sp, accepted, hcall, hadd⟩ | ⟨ssrc, -, rfl⟩ | happlies
  · rcases addSendStream_cases hadd with ⟨-, rfl⟩ |
      ⟨-, hvalid, hfresh, created, stream, hcreate, hstream, rfl⟩
    · exact hown
    · rw [hbookkept.sending] at hstream
      obtain rfl := Except.ok.inj hstream
      exact ownSsrcs_withSendStream hown (ownSsrcs_created (hcovered sp hcall ⟨hvalid, hfresh⟩)
        (available_of_valid hvalid hfresh) (created_createSendStream hcreate))
  · exact ownSsrcs_removeSendStream hown ssrc
  · exact happlies.sameStreams.ownSsrcs hown

/-- Where all accepted parameters have what the validation leaves open, no addition fails and
every state is sound. -/
theorem addedStreams_sound {videoConfig : VideoConfig} {options : VideoOptions}
    {calls : List ChannelCall}
    (hcovered : Guarded (channelStep api) AddsCovered (create videoConfig options) calls) :
    Guarded (channelStep api) (AddReturns api) (create videoConfig options) calls ∧
      Throughout (channelStep api) Sound (create videoConfig options) calls := by
  have hinit : Bookkept (create videoConfig options) ∧ OwnSsrcs (create videoConfig options) :=
    ⟨bookkept_create videoConfig options, by simp [OwnSsrcs, create]⟩
  have hstep : ∀ channel call next, Bookkept channel ∧ OwnSsrcs channel →
      AddsCovered channel call → channelStep api channel call = some (.ok next) →
        Bookkept next ∧ OwnSsrcs next := by
    intro channel call next hinv hcall hnext
    exact ⟨bookkept_channelStep hinv.1 hnext, ownSsrcs_channelStep hinv.1 hinv.2 hcall hnext⟩
  constructor
  · exact guarded_of_invariant hstep
      (fun channel call hinv hcall => addReturns_of_covered hinv.1 hcall) hinit hcovered
  · exact throughout_of_guarded hstep (fun channel hinv => sound_of_ownSsrcs hinv.1 hinv.2)
      hinit hcovered

/-- For parameters that are added first the condition is exact. -/
theorem sound_first_iff {videoConfig : VideoConfig} {options : VideoOptions}
    {sp : SendStreamParams} (hvalid : validateStreamParams sp = true) :
    (∃ next, (create videoConfig options).addSendStream api sp = .ok (next, true) ∧
      Sound next) ↔ Covers sp := by
  have hfresh : (create videoConfig options).validateSendSsrcAvailability sp = true := by
    simp [validateSendSsrcAvailability, create]
  have hbookkept := bookkept_create videoConfig options
  have havailable := available_of_valid hvalid hfresh
  constructor
  · rintro ⟨next, hadd, hsound⟩
    rcases addSendStream_cases hadd with ⟨haccepted, -⟩ |
      ⟨-, -, -, created, stream, hcreate, hstream, rfl⟩
    · exact absurd haccepted (by simp)
    rw [hbookkept.sending] at hstream
    obtain rfl := Except.ok.inj hstream
    refine ⟨exists_createSendStream_iff.mp ⟨_, hcreate⟩, fun ssrc hssrc => ?_⟩
    have hmember : ssrc ∈ configuredSsrcs created := by
      rw [configuredSsrcs, (created_createSendStream hcreate).media]
      exact List.mem_append_left _ hssrc
    have hused := hsound.covered sp.firstSsrc created
      (by rw [getElem?_withSendStream, if_pos rfl]) ssrc hmember
    simpa [withSendStream, create] using hused
  · intro hcovers
    obtain ⟨stream, hcreate⟩ :=
      (@exists_createSendStream_iff api (create videoConfig options) sp).mpr hcovers.constructible
    have hcreated := created_createSendStream hcreate
    have hown := ownSsrcs_created hcovers havailable hcreated
    refine ⟨(create videoConfig options).withSendStream sp stream, ?_, ?_⟩
    · rw [addSendStream, hvalid, hfresh, hcreate, hbookkept.sending]
      rfl
    · apply sound_of_ownSsrcs (bookkept_withSendStream hbookkept havailable hcreated.ssrcs)
      exact ownSsrcs_withSendStream (by simp [OwnSsrcs, create]) hown

/-- The simulcast SSRCs of a stream with these SSRCs. -/
def simulcastParams (ssrcs simulcastSsrcs : List UInt32) : SendStreamParams where
  id := ascii "video"
  streamIds := []
  cname := ascii "cname"
  ssrcs := ssrcs
  ssrcGroups := [{ semantics := kSimSsrcGroupSemantics, ssrcs := simulcastSsrcs }]

theorem covers_simulcast : Covers (simulcastParams [1, 2] [1, 2]) := by
  have hprimary : (simulcastParams [1, 2] [1, 2]).getPrimarySsrcs = [1, 2] := by decide +kernel
  refine ⟨⟨by simp [hprimary], by simp [simulcastParams]⟩, fun ssrc hssrc => ?_⟩
  rwa [hprimary] at hssrc

theorem addedStreams_sound_simulcast :
    Throughout (channelStep (webrtcEngineApi [vp8Format])) Sound (create {} {})
      [.addSendStream (simulcastParams [1, 2] [1, 2])] := by
  refine (addedStreams_sound (guarded_of_forall (fun call hcall channel sp hadd _ => ?_) _)).2
  obtain rfl := List.mem_singleton.mp hcall
  obtain rfl := ChannelCall.addSendStream.inj hadd
  exact covers_simulcast

/-- Two streams send with the second SSRC. -/
def sharesSecondSsrc (final : WebRtcVideoChannel) : Bool :=
  match final.sendStreams[(1 : UInt32)]?, final.sendStreams[(2 : UInt32)]? with
  | some first, some second => 2 ∈ configuredSsrcs first && 2 ∈ configuredSsrcs second
  | _, _ => false

/-- An empty SIM group fails the check of the constructor, and a SIM group may name an SSRC that
another stream sends with. -/
theorem addedStreams_unsound :
    validateStreamParams (simulcastParams [1] []) = true ∧
      channelStep (webrtcEngineApi [vp8Format]) (create {} {})
        (.addSendStream (simulcastParams [1] [])) = some (.error .checkFailed) ∧
      ¬ Throughout (channelStep (webrtcEngineApi [vp8Format])) Sound (create {} {})
        [.addSendStream (simulcastParams [1] [1, 2]),
          .addSendStream (simulcastParams [2] [2])] := by
  refine ⟨by decide +kernel, by decide +kernel, fun hall => ?_⟩
  have hreaches : reaches sharesSecondSsrc
      (run (channelStep (webrtcEngineApi [vp8Format])) (create {} {})
        [.addSendStream (simulcastParams [1] [1, 2]),
          .addSendStream (simulcastParams [2] [2])]) = true := by
    decide +kernel
  obtain ⟨final, hrun, hshared⟩ := exists_of_reaches _ hreaches
  have hsound := hall _ [] final (List.append_nil _).symm hrun
  rw [sharesSecondSsrc] at hshared
  split at hshared
  · rename_i first second hfirst hsecond
    rw [Bool.and_eq_true, decide_eq_true_eq, decide_eq_true_eq] at hshared
    exact hsound.exclusive 1 2 first second hfirst hsecond (by decide) hshared.1 hshared.2
  · exact absurd hshared (by simp)

end WebRtcVideoChannel

end PeerConnection.Engine
