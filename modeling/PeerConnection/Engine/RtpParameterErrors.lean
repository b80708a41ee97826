import PeerConnection.Engine.ChannelSteps
import PeerConnection.Engine.RtpSendParameters

/-!
# Refused RTP parameters

`SetRtpSendParameters` refuses parameters before it writes them to the stream, but the preferred
code point of the channel is set before the stream looks at the parameters.
-/

namespace PeerConnection.Engine

open PeerConnection.Text
open PeerConnection.Runs
open PeerConnection.MapValues
open Std

/-! ## What a call does -/

namespace WebRtcVideoSendStream

variable {api : EngineApi} {stream taken next : WebRtcVideoSendStream}
variable {newParameters : RtpParameters} {error : Option RtcError}

theorem eq_of_updateSendState (hupdate : stream.updateSendState = .ok next) : next = stream := by
  rw [updateSendState] at hupdate
  split_ifs at hupdate
  exact (Except.ok.inj hupdate).symm

theorem rtpParameters_takeRtpParameters {newFirst oldFirst : RtpEncodingParameters}
    (htake : stream.takeRtpParameters api newParameters newFirst oldFirst = .ok next) :
    next.rtpParameters = { newParameters with codecs := [] } := by
  obtain ⟨middle, hreconfigure, hupdate⟩ := except_bind_eq_ok_iff.mp htake
  have hnext : next = middle := by
    split_ifs at hupdate
    · exact eq_of_updateSendState hupdate
    · exact (Except.ok.inj hupdate).symm
  rw [hnext]
  split_ifs at hreconfigure
  · obtain ⟨encoderConfig, rfl⟩ := exists_of_reconfigureEncoder hreconfigure
    rfl
  · rw [← Except.ok.inj hreconfigure]

/-- New parameters are refused, or they are stored without their codecs. -/
theorem setRtpParameters_cases
    (hset : stream.setRtpParameters api newParameters = .ok (taken, error)) :
    checkRtpParametersInvalidModificationAndValues stream.rtpParameters newParameters = error ∧
      (error ≠ none ∧ taken = stream ∨
        error = none ∧ taken.rtpParameters = { newParameters with codecs := [] }) := by
  rw [setRtpParameters] at hset
  split at hset
  · rename_i refusal hcheck
    obtain ⟨rfl, rfl⟩ := Prod.mk.inj (Except.ok.inj hset)
    exact ⟨hcheck, Or.inl ⟨by simp, rfl⟩⟩
  · rename_i hcheck
    split at hset
    · obtain ⟨other, htake, hpair⟩ := except_map_eq_ok_iff.mp hset
      obtain ⟨rfl, rfl⟩ := Prod.mk.inj hpair
      exact ⟨hcheck, Or.inr ⟨rfl, rtpParameters_takeRtpParameters htake⟩⟩
    · exact absurd hset (by simp)

end WebRtcVideoSendStream

namespace WebRtcVideoChannel

variable {api : RtpApi} {channel next : WebRtcVideoChannel} {ssrc : UInt32}
variable {parameters : RtpParameters} {error : Option RtcError}

/-- A call for a stream that is there, with the codecs of the channel, gets to the stream. -/
structure ReachesStream (api : RtpApi) (channel : WebRtcVideoChannel) (ssrc : UInt32)
    (parameters : RtpParameters) (stream : WebRtcVideoSendStream) : Prop where
  stream : channel.sendStreams[ssrc]? = some stream
  codecs : (channel.getRtpSendParameters api ssrc).codecs = parameters.codecs

@[simp]
theorem sendStreams_withDscp (channel : WebRtcVideoChannel) (parameters : RtpParameters) :
    (channel.withDscp parameters).sendStreams = channel.sendStreams := by
  rw [withDscp]
  split <;> rfl

/-- A call is refused and changes nothing, or it gets to the stream. -/
theorem setRtpSendParameters_cases
    (hset : channel.setRtpSendParameters api ssrc parameters = .ok (next, error)) :
    (error ≠ none ∧ next = channel ∧ ∀ stream, ¬ ReachesStream api channel ssrc parameters stream) ∨
      ∃ stream taken, ReachesStream api channel ssrc parameters stream ∧
        stream.setRtpParameters api.toEngineApi parameters = .ok (taken, error) ∧
        next = { channel.withDscp parameters with
          sendStreams := channel.sendStreams.insert ssrc taken } := by
  rw [setRtpSendParameters] at hset
  split at hset
  · rename_i habsent
    obtain ⟨rfl, rfl⟩ := Prod.mk.inj (Except.ok.inj hset)
    refine Or.inl ⟨by simp, rfl, fun stream hreaches => ?_⟩
    exact absurd hreaches.stream (by simp [habsent])
  · rename_i stream hstream
    split_ifs at hset with hcodecs
    · obtain ⟨rfl, rfl⟩ := Prod.mk.inj (Except.ok.inj hset)
      exact Or.inl ⟨by simp, rfl, fun stream hreaches => hcodecs hreaches.codecs⟩
    · obtain ⟨⟨taken, outcome⟩, htake, hpair⟩ := except_map_eq_ok_iff.mp hset
      obtain ⟨hnext, rfl⟩ := Prod.mk.inj hpair
      refine Or.inr ⟨stream, taken, ⟨hstream, not_not.mp hcodecs⟩, htake, ?_⟩
      rw [← hnext, sendStreams_withDscp]

/-! ## Atomicity -/

/-- What a refused call has to leave alone. -/
structure KeepsParameters (ssrc : UInt32) (channel next : WebRtcVideoChannel) : Prop where
  rtpParameters : next.sendStreams[ssrc]?.map (·.rtpParameters) =
    channel.sendStreams[ssrc]?.map (·.rtpParameters)
  parameters : next.sendStreams[ssrc]?.map (·.parameters) =
    channel.sendStreams[ssrc]?.map (·.parameters)
  preferredDscp : next.preferredDscp = channel.preferredDscp

/-- A call that returns an error changes nothing. -/
def Atomic (api : RtpApi) (channel : WebRtcVideoChannel) (call : RtpCall) : Prop :=
  ∀ ssrc parameters next error, call = .setRtpSendParameters ssrc parameters →
    channel.setRtpSendParameters api ssrc parameters = .ok (next, some error) →
      KeepsParameters ssrc channel next

/-- Parameters that only the stream refuses ask for the code point that is set already. -/
def DscpKept (api : RtpApi) (channel : WebRtcVideoChannel) (call : RtpCall) : Prop :=
  ∀ ssrc parameters stream first rest, call = .setRtpSendParameters ssrc parameters →
    ReachesStream api channel ssrc parameters stream →
    checkRtpParametersInvalidModificationAndValues stream.rtpParameters parameters ≠ none →
    parameters.encodings = first :: rest →
      dscpFor first.networkPriority = channel.preferredDscp

/-- The stream that refuses the parameters is put back as it was. -/
theorem setRtpSendParameters_of_refused {stream : WebRtcVideoSendStream} {refusal : RtcError}
    (hreaches : ReachesStream api channel ssrc parameters stream)
    (hcheck : checkRtpParametersInvalidModificationAndValues stream.rtpParameters parameters =
      some refusal) :
    channel.setRtpSendParameters api ssrc parameters =
      .ok ({ channel.withDscp parameters with
        sendStreams := channel.sendStreams.insert ssrc stream }, some refusal) := by
  have hset : stream.setRtpParameters api.toEngineApi parameters = .ok (stream, some refusal) := by
    rw [WebRtcVideoSendStream.setRtpParameters, hcheck]
  rw [setRtpSendParameters, hreaches.stream]
  simp only [hreaches.codecs, ne_eq, not_true_eq_false, if_false, hset, sendStreams_withDscp]
  rfl

theorem keepsParameters_iff {stream : WebRtcVideoSendStream}
    (hstream : channel.sendStreams[ssrc]? = some stream) :
    KeepsParameters ssrc channel { channel.withDscp parameters with
        sendStreams := channel.sendStreams.insert ssrc stream } ↔
      ∀ first rest, parameters.encodings = first :: rest →
        dscpFor first.networkPriority = channel.preferredDscp := by
  constructor
  · intro hkeeps first rest hencodings
    rw [← hkeeps.preferredDscp, withDscp, hencodings]
  · intro hdscp
    refine ⟨by simp [hstream], by simp [hstream], ?_⟩
    rw [withDscp]
    split
    · rfl
    · rename_i first rest hencodings
      exact hdscp first rest hencodings

theorem atomic_iff (api : RtpApi) (channel : WebRtcVideoChannel) (call : RtpCall) :
    Atomic api channel call ↔ DscpKept api channel call := by
  constructor
  · intro hatomic ssrc parameters stream first rest hcall hreaches hrefused hencodings
    obtain ⟨refusal, hcheck⟩ := Option.ne_none_iff_exists'.mp hrefused
    have hset := setRtpSendParameters_of_refused hreaches hcheck
    have hkeeps := hatomic ssrc parameters _ refusal hcall hset
    exact (keepsParameters_iff hreaches.stream).mp hkeeps first rest hencodings
  · intro hkept ssrc parameters next error hcall hset
    rcases setRtpSendParameters_cases hset with
      ⟨-, rfl, -⟩ | ⟨stream, taken, hreaches, htake, rfl⟩
    · exact ⟨rfl, rfl, rfl⟩
    obtain ⟨hcheck, ⟨-, rfl⟩ | ⟨hnone, -⟩⟩ := WebRtcVideoSendStream.setRtpParameters_cases htake
    · apply (keepsParameters_iff hreaches.stream).mpr
      intro first rest hencodings
      exact hkept ssrc parameters taken first rest hcall hreaches (by simp [hcheck]) hencodings
    · exact absurd hnone (by simp)

/-- In a run every call that returns an error leaves the stream and the code point alone if and
only if the parameters that a stream refuses never ask for another code point. -/
theorem guarded_atomic_iff (api : RtpApi) (videoConfig : VideoConfig) (options : VideoOptions)
    (calls : List RtpCall) :
    Guarded (rtpStep api) (Atomic api) (create videoConfig options) calls ↔
      Guarded (rtpStep api) (DscpKept api) (create videoConfig options) calls :=
  guarded_congr (atomic_iff api) _ _

def plainStreamParams : SendStreamParams where
  id := ascii "video"
  streamIds := [ascii "stream"]
  cname := ascii "cname"
  ssrcs := [1]

/-- The bitrate priority is out of range, and the network priority is high. -/
def urgentParameters : RtpParameters where
  encodings := [{ ssrc := some 1, bitratePriority := 0, networkPriority := .high }]
  rtcpCname := ascii "cname"

/-- The parameters are refused with another code point set. -/
def changesDscp (middle : WebRtcVideoChannel) : Bool :=
  match middle.setRtpSendParameters (webrtcRtpApi []) 1 urgentParameters with
  | .ok (next, some _) => next.preferredDscp ≠ middle.preferredDscp
  | _ => false

/-- The bitrate priority is refused, but the code point is set. -/
theorem guarded_atomic_fails :
    ¬ Guarded (rtpStep (webrtcRtpApi [])) (Atomic (webrtcRtpApi [])) (create {} {})
      ([.channelCall (.addSendStream plainStreamParams)] ++
        [.setRtpSendParameters 1 urgentParameters]) := by
  intro hguarded
  have hreaches : reaches changesDscp
      (run (rtpStep (webrtcRtpApi [])) (create {} {})
        [.channelCall (.addSendStream plainStreamParams)]) = true := by
    decide +kernel
  obtain ⟨middle, hrun, hchanged⟩ := exists_of_reaches _ hreaches
  have hatomic := guard_of_guarded hguarded hrun
  rw [changesDscp] at hchanged
  split at hchanged
  · rename_i next error hset
    have hkeeps := hatomic 1 urgentParameters next error rfl hset
    exact of_decide_eq_true hchanged hkeeps.preferredDscp
  · exact absurd hchanged (by simp)

end WebRtcVideoChannel

end PeerConnection.Engine
