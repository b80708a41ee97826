import PeerConnection.Sdp.Sections

/-!
# What an accepted text is read as

The parser has one slot for audio and one for video, named by the media type of
the `m=` line.  This file writes the description, the candidates and the payload
types of an accepted text as functions of the labelled lines.
-/

namespace PeerConnection.Sdp

open PeerConnection.Text
open PeerConnection.Scan

/-! ## Sections without an `m=` line -/

/-- Only an `m=` line opens a section, so that a section without one has no
lines. -/
theorem sectionLines_eq_nil {name mode : Bytes} (hmode : mode ≠ name) {lines : List Bytes}
    (hsection : ¬ HasSection name (labels nextSection mode lines)) :
    sectionLines name (labels nextSection mode lines) = [] := by
  induction lines generalizing mode with
  | nil => rfl
  | cons line lines ih =>
      have hnext : nextSection mode line ≠ name := by
        intro hname
        have hmedia : IsMediaLine line := by
          by_contra hmedia
          rw [nextSection, if_neg hmedia] at hname
          exact hmode hname
        exact hsection ⟨line, by simp [sectionLines, hname], hmedia⟩
      have hlater : ¬ HasSection name (labels nextSection (nextSection mode line) lines) := by
        rintro ⟨other, hother, hmedia⟩
        exact hsection ⟨other, by simpa [sectionLines, hnext] using hother, hmedia⟩
      simpa [sectionLines, hnext] using ih hnext hlater

/-- A section is there when some `m=` line names it. -/
theorem hasSection_labels_iff {name mode : Bytes} {lines : List Bytes} :
    HasSection name (labels nextSection mode lines) ↔
      ∃ line ∈ lines, IsMediaLine line ∧ mediaName line = name := by
  induction lines generalizing mode with
  | nil => simp [HasSection, sectionLines]
  | cons line lines ih =>
      have hhead : nextSection mode line = name ∧ IsMediaLine line ↔
          IsMediaLine line ∧ mediaName line = name := by
        rw [and_comm]
        refine and_congr_right fun hmedia => ?_
        rw [nextSection, if_pos hmedia]
      have hcons : HasSection name (labels nextSection mode (line :: lines)) ↔
          (nextSection mode line = name ∧ IsMediaLine line) ∨
            HasSection name (labels nextSection (nextSection mode line) lines) := by
        by_cases hname : nextSection mode line = name <;>
          simp [HasSection, sectionLines, hname]
      rw [hcons, ih, hhead]
      simp

/-- The names of the `m=` lines. -/
def mediaNames (sdp : Bytes) : List Bytes :=
  ((sdpFields sdp).filter IsMediaLine).map mediaName

theorem hasSection_iff_mem_mediaNames {name sdp : Bytes} :
    HasSection name (sdpEntries sdp) ↔ name ∈ mediaNames sdp := by
  simp [sdpEntries, hasSection_labels_iff, mediaNames, and_assoc]

theorem sectionTransport_of_no_section {api : TransportApi} {name sdp : Bytes}
    (hname : name ≠ []) (hsection : ¬ HasSection name (sdpEntries sdp)) :
    sectionTransport api name (sdpEntries sdp) = {} := by
  have hlines : sectionLines name (sdpEntries sdp) = [] :=
    sectionLines_eq_nil hname.symm hsection
  simp [sectionTransport, lastInSection, hlines]

/-! ## The description -/

/-- The name of the slot for one media type. -/
def sectionTitle (name : Bytes) (entries : List (Bytes × Bytes)) : Bytes :=
  if HasSection name entries then name else []

def sectionInfo (api : TransportApi) (name : Bytes) (entries : List (Bytes × Bytes)) :
    TransportInfo where
  contentName := sectionTitle name entries
  description := sectionTransport api name entries

def sectionContent (type : MediaType) (name : Bytes) (entries : List (Bytes × Bytes)) :
    ContentInfo where
  name := sectionTitle name entries
  description := { type := type }

def acceptedDescription (api : TransportApi) (sdp : Bytes) : SessionDescription where
  contents :=
    [sectionContent .audio kAudio (sdpEntries sdp),
      sectionContent .video kVideo (sdpEntries sdp)]
  transportInfos :=
    [sectionInfo api kAudio (sdpEntries sdp), sectionInfo api kVideo (sdpEntries sdp)]
  contentGroups := (sdpFields sdp).filterMap bundleGroupOf

def acceptedCandidates (sdp : Bytes) : List Candidate :=
  (sdpEntries sdp).flatMap sectionCandidates

/-- The payload type of the last `m=` line of a section, or the earlier value. -/
def acceptedPayload (name sdp : Bytes) (earlier : UInt8) : UInt8 :=
  lastInSection name mediaPayloadOf (sdpEntries sdp) earlier

/-- The state once every line has been accepted. -/
def acceptedState (api : TransportApi) (audioPt videoPt : UInt8) (sdp : Bytes) :
    ParseState :=
  (sdpFields sdp).foldl (acceptLine api) { audioPt := audioPt, videoPt := videoPt }

section Accepted

variable (api : TransportApi) (audioPt videoPt : UInt8) (sdp : Bytes)

theorem acceptedState_audioTd :
    (acceptedState api audioPt videoPt sdp).audioTd =
      sectionInfo api kAudio (sdpEntries sdp) :=
  foldl_acceptLine_td ParseState.audioTd (fun _ _ => rfl) rfl _

theorem acceptedState_videoTd :
    (acceptedState api audioPt videoPt sdp).videoTd =
      sectionInfo api kVideo (sdpEntries sdp) :=
  foldl_acceptLine_td ParseState.videoTd (fun _ _ => rfl) rfl _

theorem acceptedState_audioContentName :
    (acceptedState api audioPt videoPt sdp).audioContentName =
      sectionTitle kAudio (sdpEntries sdp) := by
  rw [acceptedState, foldl_acceptLine_section api kAudio ParseState.audioContentName
    (mediaNameOf kAudio) (fun state line => by
      simp only [acceptLine, sectionName, mediaNameOf]
      split_ifs <;> simp_all)]
  exact lastInSection_mediaNameOf kAudio _

theorem acceptedState_videoContentName :
    (acceptedState api audioPt videoPt sdp).videoContentName =
      sectionTitle kVideo (sdpEntries sdp) := by
  rw [acceptedState, foldl_acceptLine_section api kVideo ParseState.videoContentName
    (mediaNameOf kVideo) (fun state line => by
      simp only [acceptLine, sectionName, mediaNameOf]
      split_ifs <;> simp_all)]
  exact lastInSection_mediaNameOf kVideo _

theorem acceptedState_audioPt :
    (acceptedState api audioPt videoPt sdp).audioPt =
      acceptedPayload kAudio sdp audioPt := by
  rw [acceptedState, foldl_acceptLine_section api kAudio ParseState.audioPt
    mediaPayloadOf (fun state line => by
      simp only [acceptLine, sectionPayload, mediaPayloadOf]
      split_ifs <;> simp_all)]
  rfl

theorem acceptedState_videoPt :
    (acceptedState api audioPt videoPt sdp).videoPt =
      acceptedPayload kVideo sdp videoPt := by
  rw [acceptedState, foldl_acceptLine_section api kVideo ParseState.videoPt
    mediaPayloadOf (fun state line => by
      simp only [acceptLine, sectionPayload, mediaPayloadOf]
      split_ifs <;> simp_all)]
  rfl

theorem acceptedState_allCandidate :
    (acceptedState api audioPt videoPt sdp).allCandidate = acceptedCandidates sdp := by
  rw [acceptedState, foldl_acceptLine_allCandidate]
  rfl

/-- The description that an accepted text leaves in `remote_desc_`. -/
theorem acceptedState_description :
    (acceptedState api audioPt videoPt sdp).description = acceptedDescription api sdp := by
  have hgroups : (acceptedState api audioPt videoPt sdp).contentGroups =
      (sdpFields sdp).filterMap bundleGroupOf := by
    rw [acceptedState, foldl_acceptLine_contentGroups]
    rfl
  rw [ParseState.description, acceptedState_audioContentName,
    acceptedState_videoContentName, acceptedState_audioTd, acceptedState_videoTd, hgroups]
  rfl

end Accepted

/-! ## Lookups -/

section Lookups

variable {api : TransportApi} {sdp : Bytes}

@[simp]
theorem sectionContent_name (type : MediaType) (name : Bytes)
    (entries : List (Bytes × Bytes)) :
    (sectionContent type name entries).name = sectionTitle name entries := rfl

theorem acceptedDescription_contents :
    (acceptedDescription api sdp).contents =
      [sectionContent .audio kAudio (sdpEntries sdp),
        sectionContent .video kVideo (sdpEntries sdp)] := rfl

theorem acceptedDescription_firstContentName :
    (acceptedDescription api sdp).firstContentName =
      some (sectionTitle kAudio (sdpEntries sdp)) := rfl

theorem sectionTitle_of_hasSection {name : Bytes} {entries : List (Bytes × Bytes)}
    (hsection : HasSection name entries) : sectionTitle name entries = name :=
  if_pos hsection

theorem sectionTitle_ne {name other : Bytes} (entries : List (Bytes × Bytes))
    (hname : name ≠ other) (hother : other ≠ []) : sectionTitle name entries ≠ other := by
  rw [sectionTitle]
  split_ifs
  · exact hname
  · exact hother.symm

/-- The two slots have different names as soon as one of the sections is there. -/
theorem sectionTitles_ne {entries : List (Bytes × Bytes)}
    (hsection : HasSection kAudio entries ∨ HasSection kVideo entries) :
    sectionTitle kAudio entries ≠ sectionTitle kVideo entries := by
  intro hsame
  rcases hsection with haudio | hvideo
  · rw [sectionTitle_of_hasSection haudio] at hsame
    exact sectionTitle_ne entries kVideo_ne_kAudio (by decide) hsame.symm
  · rw [sectionTitle_of_hasSection hvideo] at hsame
    exact sectionTitle_ne entries kVideo_ne_kAudio.symm (by decide) hsame

theorem acceptedDescription_firstContentName_of_audio
    (haudio : HasSection kAudio (sdpEntries sdp)) :
    (acceptedDescription api sdp).firstContentName = some kAudio := by
  rw [acceptedDescription_firstContentName, sectionTitle_of_hasSection haudio]

theorem getTransportInfoIndexByName_kAudio (haudio : HasSection kAudio (sdpEntries sdp)) :
    (acceptedDescription api sdp).getTransportInfoIndexByName kAudio = some 0 := by
  rw [SessionDescription.getTransportInfoIndexByName, acceptedDescription,
    List.findIdx?_cons]
  simp [sectionInfo, sectionTitle_of_hasSection haudio]

theorem getTransportInfoByName_kAudio (haudio : HasSection kAudio (sdpEntries sdp)) :
    (acceptedDescription api sdp).getTransportInfoByName kAudio =
      some (sectionInfo api kAudio (sdpEntries sdp)) := by
  rw [SessionDescription.getTransportInfoByName_eq,
    getTransportInfoIndexByName_kAudio haudio]
  rfl

theorem getTransportInfoByName_kVideo (hvideo : HasSection kVideo (sdpEntries sdp)) :
    (acceptedDescription api sdp).getTransportInfoByName kVideo =
      some (sectionInfo api kVideo (sdpEntries sdp)) := by
  have haudio : sectionTitle kAudio (sdpEntries sdp) ≠ kVideo :=
    sectionTitle_ne _ kVideo_ne_kAudio.symm (by decide)
  simp [SessionDescription.getTransportInfoByName, acceptedDescription, sectionInfo, haudio,
    sectionTitle_of_hasSection hvideo]

theorem getTransportInfoByName_of_section {name : Bytes} (hname : IsCollected name)
    (hsection : HasSection name (sdpEntries sdp)) :
    (acceptedDescription api sdp).getTransportInfoByName name =
      some (sectionInfo api name (sdpEntries sdp)) := by
  rcases hname with rfl | rfl
  · exact getTransportInfoByName_kAudio hsection
  · exact getTransportInfoByName_kVideo hsection

end Lookups

end PeerConnection.Sdp
