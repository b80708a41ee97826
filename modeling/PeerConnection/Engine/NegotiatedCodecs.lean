import PeerConnection.Engine.SettledChannels

/-!
# The codec in use and the negotiated codecs

The record of changes has one way to leave the send codec unset, which means that it stays.
Parameters that negotiate no codec therefore leave the old codec in use.  The fallback drops the
first negotiated codec, which need not be the codec in use after an encoder switch.
-/

namespace PeerConnection.Engine

open PeerConnection.Text
open PeerConnection.Runs

namespace WebRtcVideoChannel

variable {api : EngineApi} {channel next : WebRtcVideoChannel}

/-! ## The codec in use is negotiated -/

/-- The codec in use has the payload type of a negotiated codec. -/
def SendCodecNegotiated (channel : WebRtcVideoChannel) : Prop :=
  ∀ sendCodec, channel.sendCodec = some sendCodec →
    ∃ entry ∈ channel.negotiatedCodecs, entry.codec.id = sendCodec.codec.id

/-- The parameters are accepted and negotiate no codec, so the stream is inactive. -/
structure Withdraws (api : EngineApi) (params : VideoSendParameters) : Prop where
  accepted : AcceptedParameters api params
  none_negotiated : negotiatedCodecsFor api params = []

/-- Codecs are withdrawn only while none is in use. -/
def NothingWithdrawn (api : EngineApi) (channel : WebRtcVideoChannel) (call : ChannelCall) :
    Prop :=
  ∀ params, call = .setSendParameters params → Withdraws api params → channel.sendCodec = none

/-- The negotiated codecs after accepted parameters. -/
theorem negotiatedCodecs_changesTo (channel : WebRtcVideoChannel) (params : VideoSendParameters) :
    (channel.changesTo api params).negotiatedCodecs.getD channel.negotiatedCodecs =
      negotiatedCodecsFor api params := by
  dsimp only [changesTo]
  split_ifs with hsame
  · exact hsame
  · rfl

theorem sendCodec_changesTo (channel : WebRtcVideoChannel) (params : VideoSendParameters) :
    (channel.changesTo api params).sendCodec =
      channel.changedSendCodec (negotiatedCodecsFor api params) := rfl

/-- The front of the negotiated codecs is taken into use whenever they change. -/
theorem changedSendCodec_or (channel : WebRtcVideoChannel)
    (negotiatedCodecs : List VideoCodecSettings) :
    (channel.changedSendCodec negotiatedCodecs).or channel.sendCodec =
      if channel.negotiatedCodecs = negotiatedCodecs then channel.sendCodec
      else negotiatedCodecs.head?.or channel.sendCodec := by
  unfold changedSendCodec
  split_ifs with hsame
  · rfl
  · cases negotiatedCodecs with
    | nil => rfl
    | cons front rest =>
        dsimp only
        split_ifs with hother
        · rfl
        · rw [Option.none_or, List.head?_cons, Option.some_or]
          simpa using hother

theorem negotiated_of_asked {call : ChannelCall} {changed : ChangedSendParameters}
    (hnegotiated : SendCodecNegotiated channel) (hkept : NothingWithdrawn api channel call)
    (hasked : Asks api channel call changed)
    (hcodecs : next.negotiatedCodecs = changed.negotiatedCodecs.getD channel.negotiatedCodecs)
    (hsend : next.sendCodec = changed.sendCodec.or channel.sendCodec) :
    SendCodecNegotiated next := by
  intro sendCodec hinUse
  rcases hasked with ⟨params, hcall, hchanged⟩ | ⟨named, hnamed, hentry⟩
  · obtain ⟨haccepted, rfl⟩ := getChangedSendParameters_eq_some_iff.mp hchanged
    rw [hsend, sendCodec_changesTo] at hinUse
    rw [hcodecs, negotiatedCodecs_changesTo]
    cases hnew : negotiatedCodecsFor api params with
    | nil =>
        have hnone := hkept params hcall ⟨haccepted, hnew⟩
        rw [hnew, changedSendCodec_or, hnone] at hinUse
        simp at hinUse
    | cons front rest =>
        rw [hnew, changedSendCodec_or] at hinUse
        by_cases hsame : channel.negotiatedCodecs = front :: rest
        · rw [if_pos hsame] at hinUse
          rw [← hsame]
          exact hnegotiated sendCodec hinUse
        · rw [if_neg hsame, List.head?_cons, Option.some_or] at hinUse
          obtain rfl := Option.some.inj hinUse
          exact ⟨front, List.mem_cons_self, rfl⟩
  · rw [hsend, hnamed, Option.some_or] at hinUse
    obtain rfl := Option.some.inj hinUse
    rw [hcodecs]
    exact hentry

theorem negotiated_channelStep {call : ChannelCall} (hnegotiated : SendCodecNegotiated channel)
    (hkept : NothingWithdrawn api channel call)
    (hstep : channelStep api channel call = some (.ok next)) : SendCodecNegotiated next := by
  rcases channelStep_cases hstep with ⟨sp, accepted, -, hadd⟩ | ⟨ssrc, -, rfl⟩ | happlies
  · rcases addSendStream_cases hadd with ⟨-, rfl⟩ | ⟨-, -, -, -, stream, -, -, rfl⟩
    · exact hnegotiated
    · exact hnegotiated
  · rcases removeSendStream_cases channel ssrc with ⟨-, hremove⟩ | ⟨removed, -, hremove⟩
    · rw [hremove]
      exact hnegotiated
    · rw [hremove]
      exact hnegotiated
  · cases happlies with
    | kept hsame =>
        rw [SendCodecNegotiated, hsame.sendCodec, hsame.negotiatedCodecs]
        exact hnegotiated
    | applied hbase hasked happly hresult =>
        obtain ⟨hcodecs, hsend⟩ := codecs_applyChangedParams happly
        apply negotiated_of_asked hnegotiated hkept hasked
        · rw [hresult.negotiatedCodecs, hcodecs, hbase.negotiatedCodecs]
        · rw [hresult.sendCodec, hsend, hbase.sendCodec]

/-- Withdrawing the codecs leaves the codec in use behind. -/
theorem not_negotiated_of_withdrawn {call : ChannelCall} (hsettled : Settled channel)
    (hwithdrawn : ¬ NothingWithdrawn api channel call) :
    ∃ next, channelStep api channel call = some (.ok next) ∧ ¬ SendCodecNegotiated next := by
  simp only [NothingWithdrawn, not_forall] at hwithdrawn
  obtain ⟨params, rfl, hwithdraws, hinUse⟩ := hwithdrawn
  obtain ⟨sendCodec, hsend⟩ := Option.ne_none_iff_exists'.mp hinUse
  have hchanged := getChangedSendParameters_eq_some_iff.mpr
    ⟨hwithdraws.accepted, @rfl _ (channel.changesTo api params)⟩
  have hbase : Settled { channel with sendParams := params } :=
    ⟨hsettled.sending, hsettled.quiet, hsettled.codec⟩
  have hcodec : ChannelCodecAtHand { channel with sendParams := params }
      (channel.changesTo api params) := by
    right; left
    rw [hsend]
    rfl
  obtain ⟨next, happly⟩ := @exists_applyChangedParams api _ hbase _ hcodec
  refine ⟨next, ?_, fun hnegotiated => ?_⟩
  · rw [channelStep, setSendParameters, hchanged]
    simp only [happly]
    rfl
  · obtain ⟨hcodecs, hsendNext⟩ := codecs_applyChangedParams happly
    have hnone : (channel.changesTo api params).sendCodec = none := by
      rw [sendCodec_changesTo, hwithdraws.none_negotiated, changedSendCodec]
      split_ifs <;> rfl
    rw [hnone, Option.none_or] at hsendNext
    obtain ⟨entry, hentry, -⟩ := hnegotiated sendCodec (hsendNext.trans hsend)
    rw [hcodecs, negotiatedCodecs_changesTo, hwithdraws.none_negotiated] at hentry
    exact absurd hentry List.not_mem_nil

/-- The codec in use is negotiated throughout a run exactly when no parameters withdraw the
codecs while one is in use. -/
theorem sendCodecNegotiated_iff (videoConfig : VideoConfig) (options : VideoOptions)
    (calls : List ChannelCall) :
    Throughout (channelStep api) SendCodecNegotiated (create videoConfig options) calls ↔
      Guarded (channelStep api) (NothingWithdrawn api) (create videoConfig options) calls := by
  have hinit : SendCodecNegotiated (create videoConfig options) ∧
      Settled (create videoConfig options) := by
    refine ⟨fun sendCodec hsend => ?_, settled_create videoConfig options⟩
    exact absurd hsend (by simp [create])
  have hstep : ∀ channel call next, SendCodecNegotiated channel ∧ Settled channel →
      NothingWithdrawn api channel call → channelStep api channel call = some (.ok next) →
        SendCodecNegotiated next ∧ Settled next := by
    intro channel call next hinv hcall hnext
    exact ⟨negotiated_channelStep hinv.1 hcall hnext, settled_channelStep hinv.2 hnext⟩
  exact guarded_iff_throughout hstep (fun channel hinv => hinv.1)
    (fun channel call hinv hcall => not_negotiated_of_withdrawn hinv.2 hcall) hinit calls

def vp8Codec : VideoCodec := { id := 96, name := ascii "VP8" }
def vp9Codec : VideoCodec := { id := 98, name := ascii "VP9" }

/-- The encoder factory has VP8 only, and the inactive stream offers VP9. -/
theorem sendCodecNegotiated_fails :
    ¬ Throughout (channelStep (webrtcEngineApi [vp8Format])) SendCodecNegotiated (create {} {})
      [.setSendParameters { codecs := [vp8Codec] },
        .setSendParameters { codecs := [vp9Codec], isStreamActive := false }] := by
  intro hall
  have hreaches : reaches (fun final : WebRtcVideoChannel =>
      final.negotiatedCodecs.isEmpty && final.sendCodec.isSome)
      (run (channelStep (webrtcEngineApi [vp8Format])) (create {} {})
        [.setSendParameters { codecs := [vp8Codec] },
          .setSendParameters { codecs := [vp9Codec], isStreamActive := false }]) = true := by
    decide +kernel
  obtain ⟨final, hrun, hstale⟩ := exists_of_reaches _ hreaches
  rw [Bool.and_eq_true, List.isEmpty_iff] at hstale
  obtain ⟨sendCodec, hsend⟩ := Option.isSome_iff_exists.mp hstale.2
  have hnegotiated := hall _ [] final (List.append_nil _).symm hrun
  obtain ⟨entry, hentry, -⟩ := hnegotiated sendCodec hsend
  rw [hstale.1] at hentry
  exact absurd hentry List.not_mem_nil

/-! ## The fallback moves away from the codec in use -/

/-- Another codec is in use, and the negotiated codecs have lost the old one only. -/
structure MovesAway (channel next : WebRtcVideoChannel) (inUse : VideoCodecSettings) : Prop where
  moved : ∃ sendCodec, next.sendCodec = some sendCodec ∧ sendCodec.codec.id ≠ inUse.codec.id
  others : next.negotiatedCodecs =
    channel.negotiatedCodecs.filter fun entry => entry.codec.id ≠ inUse.codec.id

/-- The first codec has this payload type, and no other codec has it. -/
def OnlyFirst (payloadType : ℤ) : List VideoCodecSettings → Prop
  | [] => False
  | first :: rest => first.codec.id = payloadType ∧ ∀ entry ∈ rest, entry.codec.id ≠ payloadType

/-- Filtering drops the head alone exactly when nothing else fails the test. -/
theorem filter_cons_eq_tail_iff {α : Type*} {test : α → Bool} {first : α} {rest : List α} :
    (first :: rest).filter test = rest ↔ test first = false ∧ ∀ entry ∈ rest, test entry := by
  cases htest : test first with
  | true =>
      rw [List.filter_cons_of_pos htest]
      constructor
      · intro hsame
        have hall : ∀ entry ∈ rest, test entry = true := by
          intro entry hentry
          rw [← hsame, List.mem_cons] at hentry
          rcases hentry with rfl | hkept
          · exact htest
          · exact (List.mem_filter.mp hkept).2
        rw [List.filter_eq_self.mpr hall] at hsame
        exact absurd hsame (List.cons_ne_self first rest)
      · rintro ⟨hfalse, -⟩
        exact absurd hfalse (by simp)
  | false =>
      rw [List.filter_cons_of_neg (by simp [htest]), List.filter_eq_self]
      simp

theorem movesAway_iff (hsettled : Settled channel) {inUse : VideoCodecSettings}
    (hmany : 2 ≤ channel.negotiatedCodecs.length) :
    (∃ next, channel.requestEncoderFallback api = .ok next ∧ MovesAway channel next inUse) ↔
      OnlyFirst inUse.codec.id channel.negotiatedCodecs := by
  match hcodecs : channel.negotiatedCodecs, hmany with
  | first :: front :: rest, _ =>
    obtain ⟨next, happly⟩ := @exists_applyChangedParams api channel hsettled
      { negotiatedCodecs := some (front :: rest), sendCodec := some front } (Or.inl rfl)
    obtain ⟨hnext, hsend⟩ := codecs_applyChangedParams happly
    have hfallback : channel.requestEncoderFallback api = .ok next := by
      rw [requestEncoderFallback, hcodecs]
      exact happly
    have hothers : next.negotiatedCodecs =
          channel.negotiatedCodecs.filter (fun entry => entry.codec.id ≠ inUse.codec.id) ↔
        OnlyFirst inUse.codec.id (first :: front :: rest) := by
      rw [hnext, hcodecs, eq_comm]
      simpa [OnlyFirst] using @filter_cons_eq_tail_iff _
        (fun entry : VideoCodecSettings => decide (entry.codec.id ≠ inUse.codec.id)) first
        (front :: rest)
    constructor
    · rintro ⟨other, hother, hmoves⟩
      obtain rfl := Except.ok.inj (hfallback.symm.trans hother)
      exact hothers.mp hmoves.others
    · intro honly
      refine ⟨next, hfallback, ⟨front, hsend, ?_⟩, hothers.mpr honly⟩
      exact honly.2 front List.mem_cons_self

/-- A fallback with at least two negotiated codecs moves away from the codec in use. -/
def FallbackMoves (api : EngineApi) (channel : WebRtcVideoChannel) (call : ChannelCall) : Prop :=
  call = .requestEncoderFallback → 2 ≤ channel.negotiatedCodecs.length →
    ∀ inUse, channel.sendCodec = some inUse →
      ∃ next, channel.requestEncoderFallback api = .ok next ∧ MovesAway channel next inUse

/-- A fallback finds the codec in use at the front, and only there. -/
def FirstInUse (channel : WebRtcVideoChannel) (call : ChannelCall) : Prop :=
  call = .requestEncoderFallback → 2 ≤ channel.negotiatedCodecs.length →
    ∀ inUse, channel.sendCodec = some inUse →
      OnlyFirst inUse.codec.id channel.negotiatedCodecs

/-- The fallbacks of a run move away from the codec in use exactly when it is the first
negotiated codec at each of them, and no other has its payload type. -/
theorem fallbackMoves_iff (videoConfig : VideoConfig) (options : VideoOptions)
    (calls : List ChannelCall) :
    Guarded (channelStep api) (FallbackMoves api) (create videoConfig options) calls ↔
      Guarded (channelStep api) FirstInUse (create videoConfig options) calls := by
  have hagree : ∀ channel call, Settled channel →
      (FallbackMoves api channel call ↔ FirstInUse channel call) := by
    intro channel call hsettled
    constructor
    · intro hmoves hcall hmany inUse hinUse
      exact (movesAway_iff hsettled hmany).mp (hmoves hcall hmany inUse hinUse)
    · intro hfirst hcall hmany inUse hinUse
      exact (movesAway_iff hsettled hmany).mpr (hfirst hcall hmany inUse hinUse)
  exact guarded_iff_of_invariant (fun _ _ _ hsettled hstep => settled_channelStep hsettled hstep)
    hagree (settled_create videoConfig options) calls

/-- VP8 and VP9 are negotiated, and the encoder asks for VP9. -/
def switchToVp9 : List ChannelCall :=
  [.setSendParameters { codecs := [vp8Codec, vp9Codec] }, .requestEncoderSwitchFormat vp9Format]

/-- There is another codec, but the fallback stays with the one in use. -/
def staysWithCodec (middle : WebRtcVideoChannel) : Bool :=
  decide (2 ≤ middle.negotiatedCodecs.length) &&
    match middle.sendCodec,
      middle.requestEncoderFallback (webrtcEngineApi [vp8Format, vp9Format]) with
    | some inUse, .ok next => next.sendCodec = some inUse
    | _, _ => false

/-- The fallback after the switch drops VP8 and keeps VP9. -/
theorem fallbackMoves_fails :
    ¬ Guarded (channelStep (webrtcEngineApi [vp8Format, vp9Format]))
      (FallbackMoves (webrtcEngineApi [vp8Format, vp9Format])) (create {} {})
      (switchToVp9 ++ [.requestEncoderFallback]) := by
  intro hguarded
  have hreaches : reaches staysWithCodec
      (run (channelStep (webrtcEngineApi [vp8Format, vp9Format])) (create {} {}) switchToVp9) =
        true := by
    decide +kernel
  obtain ⟨middle, hrun, hkept⟩ := exists_of_reaches _ hreaches
  have hmoves := guard_of_guarded hguarded hrun
  rw [staysWithCodec, Bool.and_eq_true, decide_eq_true_eq] at hkept
  obtain ⟨hmany, hkept⟩ := hkept
  split at hkept
  · rename_i inUse next hinUse hfallback
    obtain ⟨other, hother, haway⟩ := hmoves rfl hmany inUse hinUse
    obtain rfl := Except.ok.inj (hfallback.symm.trans hother)
    obtain ⟨sendCodec, hsend, hne⟩ := haway.moved
    rw [decide_eq_true_eq, hsend] at hkept
    exact hne (congrArg (·.codec.id) (Option.some.inj hkept))
  · exact absurd hkept (by simp)

end WebRtcVideoChannel

end PeerConnection.Engine
