import PeerConnection.Connection.Reachable

/-!
# Media sections

`set_remote_sdp` collects what it reads in one slot for each media type and
names the slot after the type; the value of `a=mid` is never read.  All sections
of one type are read into the same slot, later attributes replacing earlier
ones.
-/

namespace PeerConnection.Connection

open PeerConnection.Text
open PeerConnection.Sdp
open PeerConnection.Transport

/-- The media types for which the text has an `m=` line, audio first. -/
def presentMedia (sdp : Bytes) : List Bytes :=
  [kAudio, kVideo].filter fun name => HasSection name (sdpEntries sdp)

/-- The named entries are those of the media types present, and each resolves to
the attributes written in the sections of its type. -/
structure MediaCorrespondence (api : TransportApi) (sdp : Bytes)
    (desc : SessionDescription) : Prop where
  contents : (desc.contents.map (·.name)).filter (· ≠ []) = presentMedia sdp
  transportInfos :
    (desc.transportInfos.map (·.contentName)).filter (· ≠ []) = presentMedia sdp
  attributes : ∀ name ∈ presentMedia sdp, desc.getTransportInfoByName name =
    some { contentName := name, description := sectionTransport api name (sdpEntries sdp) }
  bundle : ∀ group ∈ desc.contentGroups, ∀ name ∈ group.contentNames,
    name ∈ presentMedia sdp → ∃ content ∈ desc.contents, content.name = name

theorem mem_presentMedia {sdp name : Bytes} :
    name ∈ presentMedia sdp ↔
      IsCollected name ∧ HasSection name (sdpEntries sdp) := by
  simp [presentMedia, IsCollected]

/-- The titles of the two slots, without the empty ones. -/
theorem filter_titles (sdp : Bytes) :
    [sectionTitle kAudio (sdpEntries sdp), sectionTitle kVideo (sdpEntries sdp)].filter
      (· ≠ []) = presentMedia sdp := by
  have haudio : kAudio ≠ [] := by decide
  have hvideo : kVideo ≠ [] := by decide
  by_cases hasAudio : HasSection kAudio (sdpEntries sdp) <;>
    by_cases hasVideo : HasSection kVideo (sdpEntries sdp) <;>
    simp [presentMedia, sectionTitle, hasAudio, hasVideo, haudio, hvideo]

theorem mediaCorrespondence_acceptedDescription (api : TransportApi) (sdp : Bytes) :
    MediaCorrespondence api sdp (acceptedDescription api sdp) where
  contents := filter_titles sdp
  transportInfos := filter_titles sdp
  attributes name hname := by
    obtain ⟨hcollected, hsection⟩ := mem_presentMedia.mp hname
    rcases hcollected with rfl | rfl
    · rw [getTransportInfoByName_kAudio hsection, sectionInfo,
        sectionTitle_of_hasSection hsection]
    · rw [getTransportInfoByName_kVideo hsection, sectionInfo,
        sectionTitle_of_hasSection hsection]
  bundle _ _ name _ hname := by
    rw [← filter_titles] at hname
    have htitle := (List.mem_filter.mp hname).1
    simp only [List.mem_cons, List.not_mem_nil, or_false] at htitle
    rcases htitle with rfl | rfl
    · exact ⟨_, List.mem_cons_self, rfl⟩
    · exact ⟨_, List.mem_cons_of_mem _ List.mem_cons_self, rfl⟩

/-- Whatever the number, kind and order of its sections, an accepted text leaves
`remote_desc_` with one named entry for each media type present. -/
theorem setRemoteSdp_mediaCorrespondence {api : TransportApi}
    {connection started : P2pPeerConnection} {caller : Caller} {sdp : Bytes}
    (haccepted : connection.setRemoteSdp api caller sdp = .next started) :
    ∃ id desc, started.remoteDesc = some id ∧
      started.network.descriptions id = some desc ∧ MediaCorrespondence api sdp desc := by
  obtain ⟨_, rfl⟩ := P2pPeerConnection.setRemoteSdp_eq_next_iff.mp haccepted
  exact ⟨connection.network.nextDescription, acceptedDescription api sdp,
    P2pPeerConnection.started_remoteDesc, P2pPeerConnection.started_descriptions_self,
    mediaCorrespondence_acceptedDescription api sdp⟩

/-- A text whose section has a number as its name. -/
def numberedSdp : Bytes :=
  ascii "v=0\na=group:BUNDLE 0\nm=audio 9 UDP/TLS/RTP/SAVPF 111\na=mid:0\n"

theorem accepted_numberedSdp : Accepted numberedSdp := by
  decide

theorem setRemoteSdp_mediaCorrespondence_numbered :
    ∃ id desc,
      (P2pPeerConnection.started rfc4572Api {} .otherThread numberedSdp).remoteDesc = some id ∧
      (P2pPeerConnection.started rfc4572Api {} .otherThread
        numberedSdp).network.descriptions id = some desc ∧
      MediaCorrespondence rfc4572Api numberedSdp desc := by
  have hnext := P2pPeerConnection.setRemoteSdp_eq_next_iff.mpr
    ⟨accepted_numberedSdp, (rfl : P2pPeerConnection.started rfc4572Api {} .otherThread
      numberedSdp = _)⟩
  exact setRemoteSdp_mediaCorrespondence hnext

/-- The names that the `a=mid` lines of the text give, in their order. -/
def midNames (sdp : Bytes) : List Bytes :=
  (sdpFields sdp).filterMap fun line =>
    if ascii "a=mid:" <+: line then some (line.drop 6) else none

/-- One entry for each section, named by its `a=mid` line, and every name of a
BUNDLE group has one. -/
def NamedByMid (sdp : Bytes) (desc : SessionDescription) : Prop :=
  desc.contents.map (·.name) = midNames sdp ∧
    desc.transportInfos.map (·.contentName) = midNames sdp ∧
    ∀ group ∈ desc.contentGroups, ∀ name ∈ group.contentNames,
      ∃ content ∈ desc.contents, content.name = name

/-- The number does not become the name of anything, and the BUNDLE group does
not resolve. -/
theorem numbered_not_namedByMid :
    ∃ started id desc,
      P2pPeerConnection.setRemoteSdp rfc4572Api {} .otherThread numberedSdp =
        .next started ∧
      started.remoteDesc = some id ∧ started.network.descriptions id = some desc ∧
      ¬ NamedByMid numberedSdp desc := by
  refine ⟨_, 0, acceptedDescription rfc4572Api numberedSdp,
    P2pPeerConnection.setRemoteSdp_eq_next_iff.mpr ⟨accepted_numberedSdp, rfl⟩, rfl, rfl, ?_⟩
  rintro ⟨hcontents, _⟩
  have hnames : (acceptedDescription rfc4572Api numberedSdp).contents.map (·.name) ≠
      midNames numberedSdp := by
    decide
  exact hnames hcontents

end PeerConnection.Connection
