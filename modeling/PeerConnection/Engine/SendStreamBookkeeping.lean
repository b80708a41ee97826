import PeerConnection.Engine.ChannelSteps

/-!
# Bookkeeping of the send streams

The SSRCs in use, the map of streams and the SSRC of receiver reports are kept separately.  The
SSRCs in use are the disjoint union of those of the live streams.  The default SSRC of receiver
reports is also a legal SSRC of a stream, and the smallest one, which is why it always stands
for a live stream when there is one.
-/

namespace PeerConnection.Engine

open PeerConnection.Text
open PeerConnection.Runs
open PeerConnection.MapValues
open PeerConnection.Engine.WebRtcVideoSendStream
open Std

namespace WebRtcVideoChannel

variable {api : EngineApi} {channel next : WebRtcVideoChannel}

/-- The SSRCs in use and the keys are those of the live streams. -/
structure Bookkept (channel : WebRtcVideoChannel) : Prop where
  sending : channel.sending = false
  keyed : ∀ (key : UInt32) stream, channel.sendStreams[key]? = some stream →
    stream.ssrcs.head? = some key
  union : ∀ ssrc, ssrc ∈ channel.sendSsrcs ↔
    ∃ (key : UInt32) (stream : WebRtcVideoSendStream),
      channel.sendStreams[key]? = some stream ∧ ssrc ∈ stream.ssrcs
  disjoint : ∀ (left right : UInt32) first second, channel.sendStreams[left]? = some first →
    channel.sendStreams[right]? = some second → left ≠ right →
      List.Disjoint first.ssrcs second.ssrcs

/-- Receiver reports are sent for a live stream, or with the default when there is none. -/
structure ReportValid (channel : WebRtcVideoChannel) : Prop where
  nonzero : ∀ (key : UInt32) stream, channel.sendStreams[key]? = some stream → key ≠ 0
  live : (∃ stream, channel.sendStreams[channel.rtcpReceiverReportSsrc]? = some stream) ∨
    channel.sendStreams = ∅ ∧ channel.rtcpReceiverReportSsrc = kDefaultRtcpReceiverReportSsrc

theorem bookkept_create (videoConfig : VideoConfig) (options : VideoOptions) :
    Bookkept (create videoConfig options) where
  sending := rfl
  keyed := by simp [create]
  union := by simp [create]
  disjoint := by simp [create]

theorem reportValid_create (videoConfig : VideoConfig) (options : VideoOptions) :
    ReportValid (create videoConfig options) where
  nonzero := by simp [create]
  live := Or.inr ⟨rfl, rfl⟩

/-! ## Changes of the parameters -/

theorem SameStreams.bookkept (hsame : SameStreams channel next)
    (hbookkept : Bookkept channel) : Bookkept next where
  sending := hsame.sending.trans hbookkept.sending
  keyed key changed hchanged := by
    obtain ⟨stream, hstream, hkept⟩ := hsame.exists_of_some hchanged
    rw [hkept.ssrcs]
    exact hbookkept.keyed key stream hstream
  union ssrc := by
    rw [hsame.sendSsrcs, hbookkept.union]
    constructor
    · rintro ⟨key, stream, hstream, hssrc⟩
      obtain ⟨changed, hchanged, hkept⟩ := hsame.kept key stream hstream
      exact ⟨key, changed, hchanged, hkept.ssrcs ▸ hssrc⟩
    · rintro ⟨key, changed, hchanged, hssrc⟩
      obtain ⟨stream, hstream, hkept⟩ := hsame.exists_of_some hchanged
      exact ⟨key, stream, hstream, hkept.ssrcs ▸ hssrc⟩
  disjoint left right first second hfirst hsecond hne := by
    obtain ⟨stream, hstream, hkept⟩ := hsame.exists_of_some hfirst
    obtain ⟨other, hother, hkeptOther⟩ := hsame.exists_of_some hsecond
    rw [hkept.ssrcs, hkeptOther.ssrcs]
    exact hbookkept.disjoint left right stream other hstream hother hne

theorem SameStreams.reportValid (hsame : SameStreams channel next)
    (hreport : ReportValid channel) : ReportValid next where
  nonzero key changed hchanged := by
    obtain ⟨stream, hstream, -⟩ := hsame.exists_of_some hchanged
    exact hreport.nonzero key stream hstream
  live := by
    rw [hsame.reportSsrc]
    rcases hreport.live with ⟨stream, hstream⟩ | ⟨hempty, hdefault⟩
    · obtain ⟨changed, hchanged, -⟩ := hsame.kept _ stream hstream
      exact Or.inl ⟨changed, hchanged⟩
    · refine Or.inr ⟨?_, hdefault⟩
      apply ExtTreeMap.ext_getElem?
      intro key
      rw [hsame.absent key (by simp [hempty]), ExtTreeMap.getElem?_empty]

/-! ## Additions -/

/-- Parameters that pass the checks of `AddSendStream`. -/
structure Available (channel : WebRtcVideoChannel) (sp : SendStreamParams) : Prop where
  first : sp.ssrcs.head? = some sp.firstSsrc
  fresh : ∀ ssrc ∈ sp.ssrcs, ssrc ∉ channel.sendSsrcs
  rtx : ∀ ssrc ∈ sp.getFidSsrcs sp.getPrimarySsrcs, ssrc ∈ sp.ssrcs

theorem available_of_valid {sp : SendStreamParams} (hvalid : validateStreamParams sp = true)
    (hfresh : channel.validateSendSsrcAvailability sp = true) : Available channel sp := by
  simp only [validateStreamParams] at hvalid
  split_ifs at hvalid with hempty hmissing
  refine ⟨?_, ?_, ?_⟩
  · obtain ⟨ssrc, rest, hssrcs⟩ := List.exists_cons_of_ne_nil (by simpa using hempty)
    rw [SendStreamParams.firstSsrc, hssrcs]
    rfl
  · simpa [validateSendSsrcAvailability] using hfresh
  · simpa using hmissing

theorem Available.first_mem {sp : SendStreamParams} (havailable : Available channel sp) :
    sp.firstSsrc ∈ sp.ssrcs := List.mem_of_head? havailable.first

/-- A new stream does not take the place of a live one. -/
theorem absent_firstSsrc {sp : SendStreamParams} (hbookkept : Bookkept channel)
    (havailable : Available channel sp) : channel.sendStreams[sp.firstSsrc]? = none := by
  by_contra hlive
  obtain ⟨stream, hstream⟩ := Option.ne_none_iff_exists'.mp hlive
  apply havailable.fresh _ havailable.first_mem
  rw [hbookkept.union]
  exact ⟨sp.firstSsrc, stream, hstream, List.mem_of_head? (hbookkept.keyed _ _ hstream)⟩

theorem bookkept_withSendStream {sp : SendStreamParams} {stream : WebRtcVideoSendStream}
    (hbookkept : Bookkept channel) (havailable : Available channel sp)
    (hssrcs : stream.ssrcs = sp.ssrcs) : Bookkept (channel.withSendStream sp stream) where
  sending := hbookkept.sending
  keyed key other hother := by
    rw [getElem?_withSendStream] at hother
    split_ifs at hother with hkey
    · obtain rfl := Option.some.inj hother
      rw [hssrcs, ← hkey]
      exact havailable.first
    · exact hbookkept.keyed key other hother
  union ssrc := by
    have habsent := absent_firstSsrc hbookkept havailable
    rw [withSendStream, Finset.mem_union, hbookkept.union, List.mem_toFinset, ← withSendStream]
    constructor
    · rintro (⟨key, other, hother, hmem⟩ | hmem)
      · have hkey : sp.firstSsrc ≠ key := by
          rintro rfl
          rw [habsent] at hother
          exact absurd hother (by simp)
        exact ⟨key, other, by rw [getElem?_withSendStream, if_neg hkey, hother], hmem⟩
      · exact ⟨sp.firstSsrc, stream, by rw [getElem?_withSendStream, if_pos rfl], hssrcs ▸ hmem⟩
    · rintro ⟨key, other, hother, hmem⟩
      rw [getElem?_withSendStream] at hother
      split_ifs at hother
      · obtain rfl := Option.some.inj hother
        exact Or.inr (hssrcs ▸ hmem)
      · exact Or.inl ⟨key, other, hother, hmem⟩
  disjoint left right first second hfirst hsecond hne := by
    have hapart : ∀ (key : UInt32) other, channel.sendStreams[key]? = some other →
        List.Disjoint stream.ssrcs other.ssrcs := by
      intro key other hother ssrc hnew hold
      rw [hssrcs] at hnew
      exact havailable.fresh ssrc hnew ((hbookkept.union ssrc).mpr ⟨key, other, hother, hold⟩)
    rw [getElem?_withSendStream] at hfirst hsecond
    split_ifs at hfirst hsecond with hleft hright hright
    · exact absurd (hleft.symm.trans hright) hne
    · obtain rfl := Option.some.inj hfirst
      exact hapart right second hsecond
    · obtain rfl := Option.some.inj hsecond
      exact (hapart left first hfirst).symm
    · exact hbookkept.disjoint left right first second hfirst hsecond hne

theorem reportValid_withSendStream {sp : SendStreamParams} {stream : WebRtcVideoSendStream}
    (hreport : ReportValid channel) (hnonzero : sp.firstSsrc ≠ 0) :
    ReportValid (channel.withSendStream sp stream) where
  nonzero key other hother := by
    rw [getElem?_withSendStream] at hother
    split_ifs at hother with hkey
    · exact hkey ▸ hnonzero
    · exact hreport.nonzero key other hother
  live := by
    left
    have hssrc : (channel.withSendStream sp stream).rtcpReceiverReportSsrc =
      if channel.rtcpReceiverReportSsrc = kDefaultRtcpReceiverReportSsrc then sp.firstSsrc
      else channel.rtcpReceiverReportSsrc := rfl
    rw [hssrc]
    by_cases hdefault : channel.rtcpReceiverReportSsrc = kDefaultRtcpReceiverReportSsrc
    · refine ⟨stream, ?_⟩
      rw [if_pos hdefault, getElem?_withSendStream, if_pos rfl]
    · rcases hreport.live with ⟨other, hother⟩ | ⟨-, hnone⟩
      · rw [if_neg hdefault, getElem?_withSendStream]
        split_ifs with hkey
        · exact ⟨stream, rfl⟩
        · exact ⟨other, hother⟩
      · exact absurd hnone hdefault

/-! ## Removals -/

theorem bookkept_removeSendStream (hbookkept : Bookkept channel) (ssrc : UInt32) :
    Bookkept (channel.removeSendStream ssrc).1 := by
  rcases removeSendStream_cases channel ssrc with ⟨-, hremove⟩ | ⟨removed, hremoved, hremove⟩
  · rw [hremove]
    exact hbookkept
  have hssrcs : (channel.removeSendStream ssrc).1.sendSsrcs =
      channel.sendSsrcs \ removed.ssrcs.toFinset := by rw [hremove]
  have hsending : (channel.removeSendStream ssrc).1.sending = channel.sending := by rw [hremove]
  refine ⟨hsending.trans hbookkept.sending, fun key stream hstream => ?_, fun member => ?_,
    fun left right first second hfirst hsecond hne => ?_⟩
  · exact hbookkept.keyed key stream (exists_of_removeSendStream hstream).2
  · rw [hssrcs, Finset.mem_sdiff, List.mem_toFinset, hbookkept.union]
    constructor
    · rintro ⟨⟨key, stream, hstream, hmem⟩, hnot⟩
      have hkey : ssrc ≠ key := by
        rintro rfl
        rw [hremoved] at hstream
        obtain rfl := Option.some.inj hstream
        exact hnot hmem
      exact ⟨key, stream, by rw [getElem?_removeSendStream, if_neg hkey, hstream], hmem⟩
    · rintro ⟨key, stream, hstream, hmem⟩
      obtain ⟨hkey, hold⟩ := exists_of_removeSendStream hstream
      refine ⟨⟨key, stream, hold, hmem⟩, fun hgone => ?_⟩
      exact hbookkept.disjoint ssrc key removed stream hremoved hold hkey hgone hmem
  · exact hbookkept.disjoint left right first second (exists_of_removeSendStream hfirst).2
      (exists_of_removeSendStream hsecond).2 hne

theorem reportValid_removeSendStream (hreport : ReportValid channel) (ssrc : UInt32) :
    ReportValid (channel.removeSendStream ssrc).1 := by
  rcases removeSendStream_cases channel ssrc with ⟨-, hremove⟩ | ⟨removed, hremoved, hremove⟩
  · rw [hremove]
    exact hreport
  refine ⟨fun key stream hstream => ?_, ?_⟩
  · exact hreport.nonzero key stream (exists_of_removeSendStream hstream).2
  · rw [hremove]
    simp only
    by_cases hssrc : channel.rtcpReceiverReportSsrc = ssrc
    · rw [if_pos hssrc]
      cases hmin : (channel.sendStreams.erase ssrc).minKey? with
      | none => exact Or.inr ⟨ExtTreeMap.minKey?_eq_none_iff.mp hmin, rfl⟩
      | some key =>
          have hmem := (ExtTreeMap.minKey?_eq_some_iff_mem_and_forall.mp hmin).1
          exact Or.inl (Option.isSome_iff_exists.mp
            (ExtTreeMap.mem_iff_isSome_getElem?.mp hmem))
    · rw [if_neg hssrc]
      rcases hreport.live with ⟨stream, hstream⟩ | ⟨hempty, -⟩
      · refine Or.inl ⟨stream, ?_⟩
        rw [getElem?_erase_eq_ite, if_neg (Ne.symm hssrc), hstream]
      · rw [hempty, ExtTreeMap.getElem?_empty] at hremoved
        exact absurd hremoved (by simp)

/-- With the default SSRC among the keys, it is the first of them. -/
theorem minKey?_of_default (hreport : ReportValid channel)
    (hdefault : channel.rtcpReceiverReportSsrc = kDefaultRtcpReceiverReportSsrc) :
    channel.sendStreams.minKey?.getD kDefaultRtcpReceiverReportSsrc =
      kDefaultRtcpReceiverReportSsrc := by
  rcases hreport.live with ⟨stream, hstream⟩ | ⟨hempty, -⟩
  · have hfirst : channel.sendStreams.minKey? = some kDefaultRtcpReceiverReportSsrc := by
      rw [ExtTreeMap.minKey?_eq_some_iff_mem_and_forall]
      rw [hdefault] at hstream
      refine ⟨ExtTreeMap.mem_iff_isSome_getElem?.mpr (by simp [hstream]), fun key hkey => ?_⟩
      obtain ⟨other, hother⟩ :=
        Option.isSome_iff_exists.mp (ExtTreeMap.mem_iff_isSome_getElem?.mp hkey)
      have hnonzero := hreport.nonzero key other hother
      rw [isLE_compare, kDefaultRtcpReceiverReportSsrc]
      rw [UInt32.le_iff_toNat_le]
      rw [ne_eq, ← UInt32.toNat_inj] at hnonzero
      simp only [UInt32.toNat_zero, UInt32.toNat_one] at hnonzero ⊢
      omega
    rw [hfirst]
    rfl
  · have hnone : channel.sendStreams.minKey? = none := ExtTreeMap.minKey?_eq_none_iff.mpr hempty
    rw [hnone]
    rfl

/-- Removing the stream that has just been added restores the channel. -/
theorem removeSendStream_withSendStream {sp : SendStreamParams} {stream : WebRtcVideoSendStream}
    (hbookkept : Bookkept channel) (hreport : ReportValid channel)
    (havailable : Available channel sp) (hssrcs : stream.ssrcs = sp.ssrcs) :
    (channel.withSendStream sp stream).removeSendStream sp.firstSsrc = (channel, true) := by
  have habsent := absent_firstSsrc hbookkept havailable
  rcases removeSendStream_cases (channel.withSendStream sp stream) sp.firstSsrc with
    ⟨hnone, -⟩ | ⟨removed, hremoved, hremove⟩
  · rw [getElem?_withSendStream, if_pos rfl] at hnone
    exact absurd hnone (by simp)
  rw [getElem?_withSendStream, if_pos rfl] at hremoved
  obtain rfl := Option.some.inj hremoved
  have hstreams : (channel.withSendStream sp stream).sendStreams.erase sp.firstSsrc =
      channel.sendStreams := erase_insert_of_getElem?_eq_none habsent stream
  have hused : (channel.withSendStream sp stream).sendSsrcs \ stream.ssrcs.toFinset =
      channel.sendSsrcs := by
    rw [hssrcs]
    apply Finset.union_sdiff_cancel_right
    rw [Finset.disjoint_right]
    intro ssrc hssrc
    exact havailable.fresh ssrc (List.mem_toFinset.mp hssrc)
  have hssrc : (if (channel.withSendStream sp stream).rtcpReceiverReportSsrc = sp.firstSsrc then
      channel.sendStreams.minKey?.getD kDefaultRtcpReceiverReportSsrc
      else (channel.withSendStream sp stream).rtcpReceiverReportSsrc) =
        channel.rtcpReceiverReportSsrc := by
    have hnew : (channel.withSendStream sp stream).rtcpReceiverReportSsrc =
      if channel.rtcpReceiverReportSsrc = kDefaultRtcpReceiverReportSsrc then sp.firstSsrc
      else channel.rtcpReceiverReportSsrc := rfl
    rw [hnew]
    by_cases hdefault : channel.rtcpReceiverReportSsrc = kDefaultRtcpReceiverReportSsrc
    · rw [if_pos hdefault, if_pos rfl, minKey?_of_default hreport hdefault, hdefault]
    · have hother : channel.rtcpReceiverReportSsrc ≠ sp.firstSsrc := by
        intro hsame
        rcases hreport.live with ⟨live, hlive⟩ | ⟨-, hnone⟩
        · rw [hsame, habsent] at hlive
          exact absurd hlive (by simp)
        · exact hdefault hnone
      rw [if_neg hdefault, if_neg hother]
  rw [hremove, hstreams, hused, hssrc]
  rfl

/-! ## Runs -/

/-- An addition leaves the bookkeeping in order. -/
theorem bookkept_addSendStream {sp : SendStreamParams} {accepted : Bool}
    (hbookkept : Bookkept channel)
    (hadd : channel.addSendStream api sp = .ok (next, accepted)) :
    Bookkept next ∧ (sp.ssrcs.head? ≠ some 0 → ReportValid channel → ReportValid next) := by
  rcases addSendStream_cases hadd with ⟨-, rfl⟩ |
    ⟨-, hvalid, hfresh, created, stream, hcreate, hstream, rfl⟩
  · exact ⟨hbookkept, fun _ hreport => hreport⟩
  · rw [hbookkept.sending] at hstream
    obtain rfl := Except.ok.inj hstream
    have havailable := available_of_valid hvalid hfresh
    refine ⟨bookkept_withSendStream hbookkept havailable (created_createSendStream hcreate).ssrcs,
      fun hnonzero hreport => reportValid_withSendStream hreport fun hzero => hnonzero ?_⟩
    rw [havailable.first, hzero]

theorem bookkept_channelStep {call : ChannelCall} (hbookkept : Bookkept channel)
    (hstep : channelStep api channel call = some (.ok next)) : Bookkept next := by
  rcases channelStep_cases hstep with ⟨sp, accepted, -, hadd⟩ | ⟨ssrc, -, rfl⟩ | happlies
  · exact (bookkept_addSendStream hbookkept hadd).1
  · exact bookkept_removeSendStream hbookkept ssrc
  · exact happlies.sameStreams.bookkept hbookkept

/-- The call does not add a stream whose first SSRC is zero. -/
def FirstSsrcNonzero (call : ChannelCall) : Prop :=
  ∀ sp, call = .addSendStream sp → sp.ssrcs.head? ≠ some 0

theorem reportValid_channelStep {call : ChannelCall} (hbookkept : Bookkept channel)
    (hreport : ReportValid channel) (hnonzero : FirstSsrcNonzero call)
    (hstep : channelStep api channel call = some (.ok next)) : ReportValid next := by
  rcases channelStep_cases hstep with ⟨sp, accepted, rfl, hadd⟩ | ⟨ssrc, -, rfl⟩ | happlies
  · exact (bookkept_addSendStream hbookkept hadd).2 (hnonzero sp rfl) hreport
  · exact reportValid_removeSendStream hreport ssrc
  · exact happlies.sameStreams.reportValid hreport

/-- The bookkeeping of a channel and what the next calls do to it. -/
structure InOrder (api : EngineApi) (channel : WebRtcVideoChannel) : Prop where
  bookkept : Bookkept channel
  report : ReportValid channel
  failedAdd : ∀ sp next, channel.addSendStream api sp = .ok (next, false) → next = channel
  failedRemove : ∀ ssrc next, channel.removeSendStream ssrc = (next, false) → next = channel
  restored : ∀ sp next, sp.ssrcs.head? ≠ some 0 →
    channel.addSendStream api sp = .ok (next, true) →
      next.removeSendStream sp.firstSsrc = (channel, true)

theorem inOrder_of_bookkept (hbookkept : Bookkept channel) (hreport : ReportValid channel) :
    InOrder api channel := by
  refine ⟨hbookkept, hreport, fun sp next hadd => ?_, fun ssrc next hremove => ?_,
    fun sp next _ hadd => ?_⟩
  · rcases addSendStream_cases hadd with ⟨-, rfl⟩ | ⟨haccepted, -⟩
    · rfl
    · exact absurd haccepted (by simp)
  · rcases removeSendStream_cases channel ssrc with ⟨-, hresult⟩ | ⟨removed, -, hresult⟩
    · rw [hresult] at hremove
      exact (congrArg Prod.fst hremove).symm
    · rw [hresult] at hremove
      exact absurd (congrArg Prod.snd hremove) (by simp)
  · rcases addSendStream_cases hadd with ⟨haccepted, -⟩ |
      ⟨-, hvalid, hfresh, created, stream, hcreate, hstream, rfl⟩
    · exact absurd haccepted (by simp)
    · rw [hbookkept.sending] at hstream
      obtain rfl := Except.ok.inj hstream
      exact removeSendStream_withSendStream hbookkept hreport (available_of_valid hvalid hfresh)
        (created_createSendStream hcreate).ssrcs

/-- The bookkeeping is in order in every state that the calls lead to. -/
theorem sendStreams_inOrder {videoConfig : VideoConfig} {options : VideoOptions}
    {calls : List ChannelCall} {final : WebRtcVideoChannel}
    (hnonzero : ∀ call ∈ calls, FirstSsrcNonzero call)
    (hrun : run (channelStep api) (create videoConfig options) calls = some (.ok final)) :
    InOrder api final := by
  have hkept := @run_induction_of_forall _ _ _ (channelStep api)
    (fun channel => Bookkept channel ∧ ReportValid channel) FirstSsrcNonzero
    (fun channel call next hinv hcall hstep => ⟨bookkept_channelStep hinv.1 hstep,
      reportValid_channelStep hinv.1 hinv.2 hcall hstep⟩)
    (create videoConfig options) final calls
    ⟨bookkept_create videoConfig options, reportValid_create videoConfig options⟩ hnonzero hrun
  exact inOrder_of_bookkept hkept.1 hkept.2

/-- Parameters with one SSRC. -/
def oneSsrc (ssrc : UInt32) : SendStreamParams where
  id := ascii "video"
  streamIds := []
  cname := ascii "cname"
  ssrcs := [ssrc]

def twoAdditions : List ChannelCall :=
  [.addSendStream (oneSsrc 1), .addSendStream (oneSsrc 7)]

theorem sendStreams_inOrder_two :
    ∃ final, run (channelStep (webrtcEngineApi [vp8Format])) (create {} {}) twoAdditions =
      some (.ok final) ∧ InOrder (webrtcEngineApi [vp8Format]) final := by
  have hreaches : reaches (fun final => final.rtcpReceiverReportSsrc = 7)
      (run (channelStep (webrtcEngineApi [vp8Format])) (create {} {}) twoAdditions) = true := by
    decide +kernel
  obtain ⟨final, hrun, -⟩ := exists_of_reaches _ hreaches
  refine ⟨final, hrun, sendStreams_inOrder (fun call hcall sp hadd => ?_) hrun⟩
  rw [hadd, twoAdditions] at hcall
  simp only [List.mem_cons, ChannelCall.addSendStream.injEq, List.not_mem_nil, or_false] at hcall
  rcases hcall with rfl | rfl <;> decide

end WebRtcVideoChannel

end PeerConnection.Engine
