import PeerConnection.Core.AlignedLists
import PeerConnection.Engine.VideoSendStream

/-!
# What the RTP configuration says of an SSRC

`RtpConfig` keeps the media SSRCs, their RTX SSRCs and their RIDs in lists that belong together
by position, and finds the partner of an SSRC with a linear search.  A search from the media
SSRCs and one from the RTX SSRCs undo each other as long as neither list repeats an SSRC.
-/

namespace PeerConnection.Engine

open PeerConnection.Text
open PeerConnection.AlignedLists

/-- What goes wrong in a search, with the checks compiled out. -/
inductive SsrcFault where
  /-- `RTC_NOTREACHED` after the loop, which then returns 0. -/
  | notReached
  /-- `associated_ssrcs[i]` behind the end. -/
  | indexOutOfRange
  deriving DecidableEq, Repr

/-- The loop of `FindAssociatedSsrc`, on what is left of the two lists. -/
def findAssociatedSsrc (ssrc : UInt32) : List UInt32 → List UInt32 → Except SsrcFault UInt32
  | [], _ => .error .notReached
  | first :: ssrcs, associatedSsrcs =>
      if first = ssrc then
        match associatedSsrcs with
        | [] => .error .indexOutOfRange
        | associated :: _ => .ok associated
      else findAssociatedSsrc ssrc ssrcs associatedSsrcs.tail

namespace RtpConfig

def isMediaSsrc (config : RtpConfig) (ssrc : UInt32) : Bool :=
  config.ssrcs.contains ssrc

def isRtxSsrc (config : RtpConfig) (ssrc : UInt32) : Bool :=
  config.rtx.ssrcs.contains ssrc

def getRtxSsrcAssociatedWithMediaSsrc (config : RtpConfig) (mediaSsrc : UInt32) :
    Except SsrcFault (Option UInt32) :=
  if config.rtx.ssrcs.isEmpty then .ok none
  else (findAssociatedSsrc mediaSsrc config.ssrcs config.rtx.ssrcs).map some

def getMediaSsrcAssociatedWithRtxSsrc (config : RtpConfig) (rtxSsrc : UInt32) :
    Except SsrcFault UInt32 :=
  findAssociatedSsrc rtxSsrc config.rtx.ssrcs config.ssrcs

/-- There is an association `ssrcs[i] <-> rtx.ssrcs[i]`, and no SSRC has two. -/
structure UsesRtx (config : RtpConfig) : Prop where
  length : config.ssrcs.length = config.rtx.ssrcs.length
  media : config.ssrcs.Nodup
  rtx : config.rtx.ssrcs.Nodup
  nonempty : config.ssrcs ≠ []

end RtpConfig

/-! ## The search -/

/-- What is found stands at the position of the SSRC. -/
theorem mem_zip_of_findAssociatedSsrc {ssrc associated : UInt32}
    {ssrcs associatedSsrcs : List UInt32}
    (hfind : findAssociatedSsrc ssrc ssrcs associatedSsrcs = .ok associated) :
    (ssrc, associated) ∈ ssrcs.zip associatedSsrcs := by
  induction ssrcs generalizing associatedSsrcs with
  | nil => exact absurd hfind (by simp [findAssociatedSsrc])
  | cons first ssrcs ih =>
      cases associatedSsrcs with
      | nil =>
          simp only [findAssociatedSsrc, List.tail_nil] at hfind
          split at hfind
          · exact absurd hfind (by simp)
          · exact absurd (ih hfind) (by simp)
      | cons other associatedSsrcs =>
          simp only [findAssociatedSsrc, List.tail_cons] at hfind
          split at hfind
          · rename_i hfirst
            obtain rfl := Except.ok.inj hfind
            rw [hfirst]
            exact List.mem_cons_self
          · exact List.mem_cons_of_mem _ (ih hfind)

/-- Without repetitions every pair is found. -/
theorem findAssociatedSsrc_eq_ok_iff {ssrc associated : UInt32}
    {ssrcs associatedSsrcs : List UInt32} (hnodup : ssrcs.Nodup) :
    findAssociatedSsrc ssrc ssrcs associatedSsrcs = .ok associated ↔
      (ssrc, associated) ∈ ssrcs.zip associatedSsrcs := by
  refine ⟨mem_zip_of_findAssociatedSsrc, fun hmem => ?_⟩
  induction ssrcs generalizing associatedSsrcs with
  | nil => simp at hmem
  | cons first ssrcs ih =>
      obtain ⟨hnew, hnodup⟩ := List.nodup_cons.mp hnodup
      cases associatedSsrcs with
      | nil => simp at hmem
      | cons other associatedSsrcs =>
          simp only [findAssociatedSsrc, List.tail_cons]
          rcases List.mem_cons.mp hmem with hhead | htail
          · obtain ⟨rfl, rfl⟩ := Prod.mk.inj hhead
            rw [if_pos rfl]
          · have hne : first ≠ ssrc := by
              rintro rfl
              exact hnew (List.of_mem_zip htail).1
            rw [if_neg hne]
            exact ih hnodup htail

namespace RtpConfig

variable {config : RtpConfig}

theorem getRtxSsrcAssociatedWithMediaSsrc_eq (huses : config.UsesRtx) (mediaSsrc : UInt32) :
    config.getRtxSsrcAssociatedWithMediaSsrc mediaSsrc =
      (findAssociatedSsrc mediaSsrc config.ssrcs config.rtx.ssrcs).map some := by
  have hrtx : config.rtx.ssrcs.isEmpty = false := by
    rw [List.isEmpty_eq_false_iff, ← List.length_pos_iff, ← huses.length, List.length_pos_iff]
    exact huses.nonempty
  rw [getRtxSsrcAssociatedWithMediaSsrc, hrtx, if_neg Bool.false_ne_true]

theorem getRtxSsrc_eq_ok_iff (huses : config.UsesRtx) {mediaSsrc rtxSsrc : UInt32} :
    config.getRtxSsrcAssociatedWithMediaSsrc mediaSsrc = .ok (some rtxSsrc) ↔
      (mediaSsrc, rtxSsrc) ∈ config.ssrcs.zip config.rtx.ssrcs := by
  rw [getRtxSsrcAssociatedWithMediaSsrc_eq huses, ← findAssociatedSsrc_eq_ok_iff huses.media]
  cases findAssociatedSsrc mediaSsrc config.ssrcs config.rtx.ssrcs <;> simp [Except.map]

theorem getMediaSsrc_eq_ok_iff (huses : config.UsesRtx) {mediaSsrc rtxSsrc : UInt32} :
    config.getMediaSsrcAssociatedWithRtxSsrc rtxSsrc = .ok mediaSsrc ↔
      (mediaSsrc, rtxSsrc) ∈ config.ssrcs.zip config.rtx.ssrcs := by
  rw [getMediaSsrcAssociatedWithRtxSsrc, findAssociatedSsrc_eq_ok_iff huses.rtx, mem_zip_comm]

/-- The two searches are a bijection and its inverse, and none of them comes to its end. -/
theorem rtxAssociation_bijective (huses : config.UsesRtx) :
    (∃ associated : {ssrc // config.isMediaSsrc ssrc} ≃ {ssrc // config.isRtxSsrc ssrc},
      (∀ media : {ssrc // config.isMediaSsrc ssrc},
        config.getRtxSsrcAssociatedWithMediaSsrc media = .ok (some (associated media))) ∧
      ∀ rtx : {ssrc // config.isRtxSsrc ssrc},
        config.getMediaSsrcAssociatedWithRtxSsrc rtx = .ok (associated.symm rtx)) ∧
    ∀ mediaSsrc rtxSsrc,
      config.getRtxSsrcAssociatedWithMediaSsrc mediaSsrc = .ok (some rtxSsrc) ↔
        config.getMediaSsrcAssociatedWithRtxSsrc rtxSsrc = .ok mediaSsrc := by
  constructor
  · let media := Equiv.subtypeEquivRight fun ssrc =>
      (List.contains_iff_mem : config.isMediaSsrc ssrc ↔ ssrc ∈ config.ssrcs)
    let rtx := Equiv.subtypeEquivRight fun ssrc =>
      (List.contains_iff_mem : config.isRtxSsrc ssrc ↔ ssrc ∈ config.rtx.ssrcs)
    let pairs := partners huses.length huses.media huses.rtx
    refine ⟨media.trans (pairs.trans rtx.symm), fun ssrc => ?_, fun ssrc => ?_⟩
    · rw [getRtxSsrc_eq_ok_iff huses]
      exact mem_zip_partners huses.length huses.media huses.rtx (media ssrc)
    · rw [getMediaSsrc_eq_ok_iff huses, ← mem_zip_comm]
      exact mem_zip_partners_symm huses.length huses.media huses.rtx (rtx ssrc)
  · intro mediaSsrc rtxSsrc
    rw [getRtxSsrc_eq_ok_iff huses, getMediaSsrc_eq_ok_iff huses]

def twoLayers : RtpConfig where
  ssrcs := [1, 2]
  rtx := { ssrcs := [11, 12] }

theorem rtxAssociation_twoLayers : twoLayers.getMediaSsrcAssociatedWithRtxSsrc 12 = .ok 2 :=
  ((rtxAssociation_bijective
    { length := rfl, media := by decide, rtx := by decide, nonempty := by decide }).2 2 12).mp rfl

end RtpConfig

end PeerConnection.Engine
