import PeerConnection.Engine.SendStreamSteps
import PeerConnection.Engine.VideoChannel

/-!
# RTX of a send stream over a sequence of codecs

`SetCodec` drops the RTX SSRCs of a stream when the codec has no RTX payload type.  They are
gone for the codecs after it, so a later codec with RTX finds nothing to configure.
-/

namespace PeerConnection.Engine

open PeerConnection.Text
open PeerConnection.Runs
open PeerConnection.Sdp (SsrcGroup)

namespace WebRtcVideoSendStream

variable {api : EngineApi} {stream next : WebRtcVideoSendStream}

/-- `SetCodec` for one codec after the other. -/
def setCodecs (api : EngineApi) (stream : WebRtcVideoSendStream)
    (codecs : List VideoCodecSettings) : Except ChannelFault WebRtcVideoSendStream :=
  codecs.foldlM (setCodec api) stream

theorem rtx_setCodec {codecSettings : VideoCodecSettings}
    (hset : stream.setCodec api codecSettings = .ok next) :
    next.parameters.config.rtp.rtx =
      rtxFor stream.parameters.config.rtp.rtx codecSettings := by
  obtain ⟨encoderConfig, -, hrecreate⟩ := except_bind_eq_ok_iff.mp hset
  rw [eq_of_recreateWebRtcStream hrecreate]
  rfl

theorem rtx_setCodecs {codecs : List VideoCodecSettings}
    (hset : setCodecs api stream codecs = .ok next) :
    next.parameters.config.rtp.rtx = codecs.foldl rtxFor stream.parameters.config.rtp.rtx := by
  induction codecs generalizing stream with
  | nil =>
      obtain rfl := Except.ok.inj hset
      rfl
  | cons codecSettings codecs ih =>
      rw [setCodecs, List.foldlM_cons, except_bind_eq_ok_iff] at hset
      obtain ⟨middle, hfirst, hrest⟩ := hset
      rw [ih hrest, rtx_setCodec hfirst, List.foldl_cons]

/-- A quiet stream takes every sequence of codecs. -/
theorem setCodecs_quiet (hquiet : Quiet stream) (codecs : List VideoCodecSettings) :
    ∃ next, setCodecs api stream codecs = .ok next ∧ Quiet next := by
  induction codecs generalizing stream with
  | nil => exact ⟨stream, rfl, hquiet⟩
  | cons codecSettings codecs ih =>
      obtain ⟨encoderConfig, -, -, hset⟩ := @setCodec_quiet api _ hquiet codecSettings
      obtain ⟨next, hnext, hfinal⟩ := ih (hquiet.of_same (same_setCodec hset))
      refine ⟨next, ?_, hfinal⟩
      rw [setCodecs, List.foldlM_cons, except_bind_eq_ok_iff]
      exact ⟨_, hset, hnext⟩

/-- RTX SSRCs that are dropped do not come back. -/
theorem foldl_rtxFor_of_nil {rtx : RtxConfig} (hnil : rtx.ssrcs = [])
    (codecs : List VideoCodecSettings) : codecs.foldl rtxFor rtx = rtx := by
  induction codecs with
  | nil => rfl
  | cons codecSettings codecs ih =>
      have hkept : rtxFor rtx codecSettings = rtx := by simp [rtxFor, hnil]
      rw [List.foldl_cons, hkept, ih]

/-- The SSRCs stay as long as every codec has an RTX payload type. -/
theorem ssrcs_foldl_rtxFor {rtx : RtxConfig} (codecs : List VideoCodecSettings) :
    (codecs.foldl rtxFor rtx).ssrcs =
      if ∀ codecSettings ∈ codecs, codecSettings.rtxPayloadType ≠ -1 then rtx.ssrcs
      else [] := by
  induction codecs generalizing rtx with
  | nil => simp
  | cons codecSettings codecs ih =>
      rw [List.foldl_cons]
      by_cases hnone : codecSettings.rtxPayloadType = -1
      · have hdropped : (rtxFor rtx codecSettings).ssrcs = [] := by
          rw [rtxFor]
          split_ifs with hempty
          · exact List.isEmpty_iff.mp hempty
          · rfl
        rw [foldl_rtxFor_of_nil hdropped, hdropped]
        simp [hnone]
      · have hkept : (rtxFor rtx codecSettings).ssrcs = rtx.ssrcs := by
          rw [rtxFor]
          split_ifs <;> rfl
        rw [ih, hkept]
        simp [hnone]

/-- A codec with RTX after these codecs. -/
theorem foldl_rtxFor_concat {rtx : RtxConfig} (hssrcs : rtx.ssrcs ≠ [])
    (codecs : List VideoCodecSettings) {last : VideoCodecSettings}
    (hlast : last.rtxPayloadType ≠ -1) :
    (codecs ++ [last]).foldl rtxFor rtx =
        { ssrcs := rtx.ssrcs, payloadType := last.rtxPayloadType } ↔
      ∀ codecSettings ∈ codecs, codecSettings.rtxPayloadType ≠ -1 := by
  have hssrcs' := @ssrcs_foldl_rtxFor rtx codecs
  rw [List.foldl_append, List.foldl_cons, List.foldl_nil, rtxFor]
  generalize codecs.foldl rtxFor rtx = before at hssrcs'
  by_cases hall : ∀ codecSettings ∈ codecs, codecSettings.rtxPayloadType ≠ -1
  · rw [if_pos hall] at hssrcs'
    have hkept : ¬ before.ssrcs.isEmpty := by simpa [hssrcs'] using hssrcs
    rw [if_neg hkept, if_neg hlast, ← hssrcs']
    exact iff_of_true rfl hall
  · rw [if_neg hall] at hssrcs'
    have hdropped : before.ssrcs.isEmpty := by simp [hssrcs']
    rw [if_pos hdropped]
    refine iff_of_false (fun hsame => ?_) hall
    rw [hsame] at hssrcs'
    exact hssrcs hssrcs'

/-- The stream is configured for RTX with the FID SSRCs of its parameters and the payload type
of this codec. -/
def RtxConfigured (sp : SendStreamParams) (codecSettings : VideoCodecSettings)
    (stream : WebRtcVideoSendStream) : Prop :=
  stream.parameters.config.rtp.rtx =
    { ssrcs := sp.getFidSsrcs sp.getPrimarySsrcs
      payloadType := codecSettings.rtxPayloadType }

/-- The stream as `AddSendStream` constructs it. -/
theorem rtx_createSendStream {channel : WebRtcVideoChannel} {sp : SendStreamParams}
    (hcreate : channel.createSendStream api sp = .ok stream) :
    ∃ initial, Quiet initial ∧
      initial.parameters.config.rtp.rtx = { ssrcs := sp.getFidSsrcs sp.getPrimarySsrcs } ∧
      setCodecs api initial channel.sendCodec.toList = .ok stream := by
  obtain ⟨initial, hconstruct, hcodecs⟩ := exists_of_create hcreate
  obtain ⟨rtpParameters, first, rest, hunlimited, hencodings, rfl⟩ :=
    exists_of_construct hconstruct
  exact ⟨_, quiet_initialStream hunlimited hencodings, rfl, hcodecs⟩

/-- After a codec with RTX the stream is configured for RTX exactly when no codec before it,
the one of the channel included, was without. -/
theorem rtxConfigured_iff {channel : WebRtcVideoChannel} {sp : SendStreamParams}
    (hcreate : channel.createSendStream api sp = .ok stream)
    (hfid : sp.getFidSsrcs sp.getPrimarySsrcs ≠ []) (codecs : List VideoCodecSettings)
    {last : VideoCodecSettings} (hlast : last.rtxPayloadType ≠ -1) :
    ∃ final, setCodecs api stream (codecs ++ [last]) = .ok final ∧
      (RtxConfigured sp last final ↔
        ∀ codecSettings ∈ channel.sendCodec.toList ++ codecs,
          codecSettings.rtxPayloadType ≠ -1) := by
  obtain ⟨initial, hinitial, hrtx, hsent⟩ := rtx_createSendStream hcreate
  obtain ⟨quiet, hquietSent, hquiet⟩ := @setCodecs_quiet api _ hinitial channel.sendCodec.toList
  obtain rfl := Except.ok.inj (hsent.symm.trans hquietSent)
  obtain ⟨final, hfinal, -⟩ := @setCodecs_quiet api _ hquiet (codecs ++ [last])
  refine ⟨final, hfinal, ?_⟩
  rw [RtxConfigured, rtx_setCodecs hfinal, rtx_setCodecs hsent, ← List.foldl_append,
    ← List.append_assoc, hrtx]
  have hssrcs : ({ ssrcs := sp.getFidSsrcs sp.getPrimarySsrcs } : RtxConfig).ssrcs ≠ [] := hfid
  exact foldl_rtxFor_concat hssrcs (channel.sendCodec.toList ++ codecs) hlast

/-- An SSRC with an RTX SSRC. -/
def fidStreamParams : SendStreamParams where
  id := ascii "video"
  streamIds := []
  cname := ascii "cname"
  ssrcs := [10, 11]
  ssrcGroups := [{ semantics := kFidSsrcGroupSemantics, ssrcs := [10, 11] }]

def vp8Settings (rtxPayloadType : ℤ) : VideoCodecSettings where
  codec := { id := 96, name := ascii "VP8" }
  rtxPayloadType := rtxPayloadType

theorem rtxConfigured_vp8 :
    ∃ stream final,
      WebRtcVideoChannel.createSendStream (webrtcEngineApi [vp8Format]) {} fidStreamParams =
        .ok stream ∧
      setCodecs (webrtcEngineApi [vp8Format]) stream [vp8Settings 97, vp8Settings 98] =
        .ok final ∧
      RtxConfigured fidStreamParams (vp8Settings 98) final := by
  have hcreate : WebRtcVideoChannel.createSendStream (webrtcEngineApi [vp8Format]) {}
      fidStreamParams = .ok _ := rfl
  have hlast : (vp8Settings 98).rtxPayloadType ≠ -1 := by decide
  obtain ⟨final, hfinal, hiff⟩ :=
    rtxConfigured_iff hcreate (by decide +kernel) [vp8Settings 97] hlast
  exact ⟨_, final, hcreate, hfinal, hiff.mpr (by decide +kernel)⟩

/-- The codec without RTX drops the RTX SSRC, and the codec with RTX does not bring it back. -/
theorem rtxConfigured_fails :
    ∃ stream final,
      WebRtcVideoChannel.createSendStream (webrtcEngineApi [vp8Format]) {} fidStreamParams =
        .ok stream ∧
      setCodecs (webrtcEngineApi [vp8Format]) stream [vp8Settings (-1), vp8Settings 97] =
        .ok final ∧
      ¬ RtxConfigured fidStreamParams (vp8Settings 97) final := by
  refine ⟨_, _, rfl, rfl, ?_⟩
  rw [RtxConfigured]
  decide +kernel

end WebRtcVideoSendStream

end PeerConnection.Engine
