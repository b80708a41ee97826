import PeerConnection.Connection.Reachable

/-!
# The outcomes of set_remote_sdp

`set_remote_sdp` checks little of what it and the controller rely on later: an
`m=` line with a payload type, a BUNDLE line, an audio section with a readable
fingerprint.  This file states exactly which texts it survives, and which
members it leaves alone when it returns -1.
-/

namespace PeerConnection.Connection

open PeerConnection.Text
open PeerConnection.Scan
open PeerConnection.Sdp
open PeerConnection.Runs
open PeerConnection.Transport
open PeerConnection.Transport.TransportController
open Std

/-! ## Failure -/

/-- The members that a failed call should not touch. -/
structure Unchanged (before after : P2pPeerConnection) : Prop where
  remoteDesc : after.remoteDesc = before.remoteDesc
  audioPt : after.audioPt = before.audioPt
  videoPt : after.videoPt = before.videoPt
  transports : after.network.controller.transports = before.network.controller.transports
  ices : after.network.controller.ices = before.network.controller.ices
  dtlsTransports :
    after.network.controller.dtlsTransports = before.network.controller.dtlsTransports

/-- Returning -1 leaves the members as they were. -/
def FailsAtomically (api : TransportApi) (connection : P2pPeerConnection) (caller : Caller)
    (sdp : Bytes) : Prop :=
  ∀ left, connection.setRemoteSdp api caller sdp = .stop left → Unchanged connection left

/-- A call that gives up on a line has already replaced `remote_desc_`. -/
theorem failsAtomically_iff {api : TransportApi} {connection : P2pPeerConnection}
    (hreachable : Reachable api connection) (caller : Caller) (sdp : Bytes) :
    FailsAtomically api connection caller sdp ↔ ¬ Rejected sdp := by
  constructor
  · intro hatomic hrejected
    rcases connection.readSdp_cases api sdp with ⟨hfields, _⟩ | ⟨haccepted, _⟩ |
      ⟨_, state, hread⟩ | ⟨⟨_, hnot, _⟩, _⟩
    · exact hrejected.fields_ne_nil hfields
    · exact hrejected.not_accepted haccepted
    · have hunchanged := hatomic _ (P2pPeerConnection.setRemoteSdp_eq_stop_iff.mpr ⟨state, hread⟩)
      have hid := hreachable.wellFormed.remoteDesc connection.network.nextDescription
        hunchanged.remoteDesc.symm
      exact lt_irrefl _ hid
    · exact hnot hrejected
  · intro hnot left hleft
    obtain ⟨state, hstate⟩ := P2pPeerConnection.setRemoteSdp_eq_stop_iff.mp hleft
    rcases connection.readSdp_cases api sdp with ⟨_, hread⟩ | ⟨_, hread⟩ |
      ⟨hrejected, _⟩ | ⟨_, reason, hread⟩
    · rw [hread] at hstate
      obtain ⟨rfl, _⟩ := Prod.mk.inj (Outcome.stop.inj hstate)
      exact ⟨rfl, rfl, rfl, rfl, rfl, rfl⟩
    · rw [hread] at hstate
      exact absurd hstate (by simp)
    · exact absurd hrejected hnot
    · rw [hread] at hstate
      exact absurd hstate (by simp)

/-- A text whose second line is cut off. -/
def truncatedSdp : Bytes :=
  ascii "m=audio 9 UDP/TLS/RTP/SAVPF 111\nm=video"

theorem failsAtomically_iff_truncated :
    FailsAtomically rfc4572Api {} .otherThread truncatedSdp ↔ ¬ Rejected truncatedSdp :=
  failsAtomically_iff ⟨[], rfl⟩ .otherThread truncatedSdp

/-- The truncated text is refused, with `remote_desc_` and the audio payload type
already replaced. -/
theorem truncated_not_atomic :
    ∃ connection caller sdp, Reachable rfc4572Api connection ∧
      ¬ FailsAtomically rfc4572Api connection caller sdp := by
  have hstop : ∃ left, P2pPeerConnection.setRemoteSdp rfc4572Api {} .otherThread
      truncatedSdp = .stop left ∧ left.audioPt = 111 := by
    have hparse : ∃ state, parseFields rfc4572Api {} (sdpFields truncatedSdp) = .stop state ∧
        state.audioPt = 111 := by
      exact ⟨_, rfl, rfl⟩
    obtain ⟨state, hstate, haudio⟩ := hparse
    refine ⟨P2pPeerConnection.store {} state { contentGroups := state.contentGroups },
      P2pPeerConnection.setRemoteSdp_eq_stop_iff.mpr ⟨state, ?_⟩, haudio⟩
    rw [P2pPeerConnection.readSdp, if_neg (by decide)]
    simp only [P2pPeerConnection.parseState, hstate]
  obtain ⟨left, hleft, haudio⟩ := hstop
  refine ⟨{}, .otherThread, truncatedSdp, ⟨[], rfl⟩, fun hatomic => ?_⟩
  have hunchanged := (hatomic left hleft).audioPt
  rw [haudio] at hunchanged
  exact absurd hunchanged (by decide)

/-! ## Survival -/

/-- The ICE pointers that a candidate would be handed to outlive the
registration of the audio transport. -/
def OthersAlive (controller : TransportController) : Prop :=
  ∀ (mid : Bytes) (ice : Option TransportId), controller.ices[mid]? = some ice →
    ∃ owner name, ice = some owner ∧ name ≠ kAudio ∧
      controller.transports.getTransportByName name = some owner

/-- Called on the network thread, `set_remote_sdp` hands its candidates over
itself. -/
def CandidatesDeliverable (connection : P2pPeerConnection) (caller : Caller) (sdp : Bytes) :
    Prop :=
  caller = .otherThread ∨ acceptedCandidates sdp = [] ∨
    OthersAlive connection.network.controller

/-- The audio section of the text ends with a fingerprint that can be read. -/
def HasFingerprint (api : TransportApi) (sdp : Bytes) : Prop :=
  (sectionTransport api kAudio (sdpEntries sdp)).identityFingerprint ≠ none

/-- Some line of the text names a BUNDLE group. -/
def HasBundle (sdp : Bytes) : Prop :=
  ∃ field ∈ sdpFields sdp, bundleGroupOf field ≠ none

instance : DecidablePred HasBundle := fun sdp =>
  inferInstanceAs (Decidable (∃ field ∈ sdpFields sdp, bundleGroupOf field ≠ none))

/-- What `set_remote_sdp` and the controller rely on without a check. -/
structure Complete (api : TransportApi) (connection : P2pPeerConnection) (caller : Caller)
    (sdp : Bytes) : Prop where
  accepted : Accepted sdp
  bundle : HasBundle sdp
  fingerprint : HasFingerprint api sdp
  candidates : CandidatesDeliverable connection caller sdp

theorem HasFingerprint.hasSection {api : TransportApi} {sdp : Bytes}
    (hprint : HasFingerprint api sdp) : HasSection kAudio (sdpEntries sdp) := by
  by_contra hsection
  rw [HasFingerprint, sectionTransport_of_no_section (by decide) hsection] at hprint
  exact hprint rfl

theorem hasBundle_iff {api : TransportApi} {sdp : Bytes} :
    HasBundle sdp ↔ (acceptedDescription api sdp).contentGroups ≠ [] := by
  simp [HasBundle, acceptedDescription, List.filterMap_eq_nil_iff]

/-! ### The controller on an accepted description -/

section Controller

variable (api : TransportApi) (sdp : Bytes) (description : DescriptionId)
variable {controller : TransportController}

/-- The task for the first content, whatever that content is called. -/
def firstRemoteTask (owner : TransportId) : Task :=
  .applyRemote
    (sectionTransport api kAudio (sdpEntries sdp)).iceParameters owner owner
    { description := description, position := 0 }

theorem remoteTasks_first (owner : TransportId) :
    remoteTasks description (acceptedDescription api sdp)
      (sectionTitle kAudio (sdpEntries sdp)) owner =
        [firstRemoteTask api sdp description owner] := by
  have hposition : (acceptedDescription api sdp).getTransportInfoIndexByName
      (sectionTitle kAudio (sdpEntries sdp)) = some 0 := by
    simp [SessionDescription.getTransportInfoIndexByName, acceptedDescription,
      List.findIdx?_cons, sectionInfo]
  rw [remoteTasks, hposition]
  rfl

theorem setRemoteSdp_of_no_group
    (hgroups : (acceptedDescription api sdp).contentGroups = []) :
    controller.setRemoteSdp description (acceptedDescription api sdp) =
      .error .indexOutOfRange := by
  simp [setRemoteSdp, acceptedDescription_contents, setRemoteSdpFrom, setRemoteSdpContent,
    index, hgroups, bind, Except.bind]

/-- The first content is always registered, under the name of the audio
slot. -/
theorem setRemoteSdp_posts_first {result : TransportController × List Task}
    (hcall : controller.setRemoteSdp description (acceptedDescription api sdp) = .ok result) :
    ∃ rest, result.2 =
      firstRemoteTask api sdp description controller.nextTransport :: rest := by
  obtain ⟨⟨first, firstPosted⟩, hfirst, htail⟩ := except_bind_eq_ok_iff.mp hcall
  obtain ⟨⟨final, rest⟩, _, hresult⟩ := except_bind_eq_ok_iff.mp htail
  obtain ⟨_, hpair⟩ := setRemoteSdpContent_eq_ok_iff.mp hfirst
  rw [sectionContent_name, if_pos acceptedDescription_firstContentName] at hpair
  obtain ⟨rfl, rfl⟩ := Prod.mk.inj hpair
  obtain rfl := Except.ok.inj hresult
  exact ⟨rest, congrArg (· ++ rest)
    (remoteTasks_first api sdp description controller.nextTransport)⟩

/-- Nothing else is registered when there is a section at all. -/
theorem setRemoteSdp_of_section (controller : TransportController)
    (hsection : HasSection kAudio (sdpEntries sdp) ∨ HasSection kVideo (sdpEntries sdp))
    (hgroups : (acceptedDescription api sdp).contentGroups ≠ []) :
    controller.setRemoteSdp description (acceptedDescription api sdp) =
      .ok ((controller.registerContent description (acceptedDescription api sdp)
          (sectionTitle kAudio (sdpEntries sdp))).1,
        [firstRemoteTask api sdp description controller.nextTransport]) := by
  have hvideo : (acceptedDescription api sdp).firstContentName ≠
      some (sectionContent .video kVideo (sdpEntries sdp)).name := by
    rw [acceptedDescription_firstContentName]
    exact fun hsame => sectionTitles_ne hsection (Option.some.inj hsame)
  have hfirst : controller.setRemoteSdpContent description (acceptedDescription api sdp)
      (sectionContent .audio kAudio (sdpEntries sdp)) =
      .ok (controller.registerContent description (acceptedDescription api sdp)
        (sectionTitle kAudio (sdpEntries sdp))) :=
    setRemoteSdpContent_eq_ok_iff.mpr
      ⟨hgroups, (if_pos acceptedDescription_firstContentName).symm⟩
  have hsecond : ∀ next : TransportController,
      next.setRemoteSdpContent description (acceptedDescription api sdp)
        (sectionContent .video kVideo (sdpEntries sdp)) = .ok (next, []) :=
    fun next => setRemoteSdpContent_eq_ok_iff.mpr ⟨hgroups, (if_neg hvideo).symm⟩
  have hposted : (controller.registerContent description (acceptedDescription api sdp)
      (sectionTitle kAudio (sdpEntries sdp))).2 =
      [firstRemoteTask api sdp description controller.nextTransport] :=
    remoteTasks_first api sdp description controller.nextTransport
  rw [setRemoteSdp, acceptedDescription_contents]
  simp only [setRemoteSdpFrom, hfirst, hsecond, bind, Except.bind, pure, Except.pure, hposted,
    List.append_nil]

theorem setRemoteSdp_of_audio (haudio : HasSection kAudio (sdpEntries sdp))
    (hgroups : (acceptedDescription api sdp).contentGroups ≠ []) :
    controller.setRemoteSdp description (acceptedDescription api sdp) =
      .ok ((controller.registerContent description (acceptedDescription api sdp) kAudio).1,
        [firstRemoteTask api sdp description controller.nextTransport]) := by
  have hcall := setRemoteSdp_of_section api sdp description controller (Or.inl haudio) hgroups
  rwa [sectionTitle_of_hasSection haudio] at hcall

end Controller

/-! ### The candidates and the task -/

theorem setRemoteCandidate_networkThread {controller next : TransportController}
    {candidate : Candidate} (hnext : controller.iceCallAll (.addRemoteCandidate candidate) =
      .ok next) :
    controller.setRemoteCandidate .networkThread candidate = .ok (next, []) := by
  simp [setRemoteCandidate, hnext, bind, Except.bind, pure, Except.pure]

theorem setRemoteCandidates_ok_iff {caller : Caller} {controller : TransportController}
    {candidates : List Candidate} :
    (∃ result, setRemoteCandidates caller controller candidates = .ok result) ↔
      caller = .otherThread ∨ candidates = [] ∨
        ∀ (mid : Bytes) (ice : Option TransportId), controller.ices[mid]? = some ice →
          ∃ owner, ice = some owner ∧ controller.transports.owns owner = true := by
  have hentries : ∀ state : TransportController,
      (∀ entry ∈ state.ices.toList, ∃ owner, entry.2 = some owner ∧
        state.transports.owns owner = true) ↔
      ∀ (mid : Bytes) (ice : Option TransportId), state.ices[mid]? = some ice →
        ∃ owner, ice = some owner ∧ state.transports.owns owner = true := by
    intro state
    constructor
    · intro hall mid ice hice
      exact hall (mid, ice) (TreeMap.mem_toList_iff_getElem?_eq_some.mpr hice)
    · intro hall entry hentry
      exact hall entry.1 entry.2 (TreeMap.mem_toList_iff_getElem?_eq_some.mp hentry)
  induction candidates generalizing controller with
  | nil => simp [setRemoteCandidates]
  | cons candidate candidates ih =>
      cases caller with
      | otherThread =>
          obtain ⟨⟨next, posted⟩, hnext⟩ := ih.mpr (Or.inl rfl)
          simp only [true_or, iff_true]
          refine ⟨(next, [.addRemoteCandidate candidate] ++ posted), ?_⟩
          exact except_bind_eq_ok_iff.mpr ⟨(controller, [.addRemoteCandidate candidate]), rfl,
            except_bind_eq_ok_iff.mpr ⟨(next, posted), hnext, rfl⟩⟩
      | networkThread =>
          simp only [reduceCtorEq, false_or]
          constructor
          · rintro ⟨result, hresult⟩
            obtain ⟨⟨middle, posted⟩, hfirst, _⟩ := except_bind_eq_ok_iff.mp hresult
            obtain ⟨next, hnext, _⟩ := except_bind_eq_ok_iff.mp hfirst
            exact (hentries controller).mp ((iceCallEach_ok_iff _).mp ⟨next, hnext⟩)
          · intro halive
            obtain ⟨middle, hmiddle⟩ :=
              (iceCallEach_ok_iff (.addRemoteCandidate candidate)).mpr
                ((hentries controller).mpr halive)
            have hextends := iceCallEach_extends hmiddle
            have hlater : ∀ (mid : Bytes) (ice : Option TransportId),
                middle.ices[mid]? = some ice →
                ∃ owner, ice = some owner ∧ middle.transports.owns owner = true := by
              rw [hextends.ices, hextends.transports]
              exact halive
            obtain ⟨⟨next, posted⟩, hnext⟩ := ih.mpr (Or.inr (Or.inr hlater))
            exact ⟨(next, [] ++ posted), except_bind_eq_ok_iff.mpr ⟨(middle, []),
              setRemoteCandidate_networkThread hmiddle,
              except_bind_eq_ok_iff.mpr ⟨(next, posted), hnext, rfl⟩⟩⟩

/-- The first task runs exactly when the audio fingerprint is there. -/
theorem runTask_firstRemoteTask_ok_iff {api : TransportApi} {sdp : Bytes}
    {description : DescriptionId} {owner : TransportId}
    {descriptions : DescriptionId → Option SessionDescription}
    {controller : TransportController}
    (hdescription : descriptions description = some (acceptedDescription api sdp))
    (howner : controller.transports.owns owner = true) :
    (∃ next, controller.runTask descriptions (firstRemoteTask api sdp description owner) =
      .ok next) ↔ HasFingerprint api sdp := by
  have hice : controller.iceCall (some owner) (.setRemoteIceParameters
      (sectionTransport api kAudio (sdpEntries sdp)).iceParameters) =
      .ok (controller.recordIceCall owner (.setRemoteIceParameters
        (sectionTransport api kAudio (sdpEntries sdp)).iceParameters)) :=
    iceCall_eq_ok_iff.mpr ⟨owner, rfl, howner, rfl⟩
  have hinfo : (acceptedDescription api sdp).transportInfos[0]? =
      some (sectionInfo api kAudio (sdpEntries sdp)) := rfl
  simp only [runTask, firstRemoteTask, hice, hdescription, hinfo, bind, Except.bind,
    HasFingerprint, sectionInfo]
  cases hprint : (sectionTransport api kAudio (sdpEntries sdp)).identityFingerprint with
  | none => simp
  | some print =>
      simp only [ne_eq, reduceCtorEq, not_false_eq_true, iff_true]
      exact ⟨_, dtlsCall_eq_ok_iff.mpr ⟨owner, rfl, howner, rfl⟩⟩

/-- The ICE pointers outlive the registration of a transport under this name. -/
def AliveBeside (registered : Bytes) (controller : TransportController) : Prop :=
  ∀ (mid : Bytes) (ice : Option TransportId), controller.ices[mid]? = some ice →
    ∃ owner name, ice = some owner ∧ name ≠ registered ∧
      controller.transports.getTransportByName name = some owner

/-- After a transport has been registered, exactly the pointers to other
registered transports and to the new one are alive. -/
theorem candidates_reach_iff {controller : TransportController}
    (hwell : controller.WellFormed) (description : DescriptionId)
    (desc : SessionDescription) (registered : Bytes) :
    (∀ (mid : Bytes) (ice : Option TransportId),
      (controller.registerContent description desc registered).1.ices[mid]? = some ice →
      ∃ owner, ice = some owner ∧
        (controller.registerContent description desc registered).1.transports.owns owner =
          true) ↔
      AliveBeside registered controller := by
  have howns : ∀ owner,
      (controller.registerContent description desc registered).1.transports.owns owner =
          true ↔
        owner = controller.nextTransport ∨
          ∃ name, name ≠ registered ∧
            controller.transports.getTransportByName name = some owner := by
    intro owner
    rw [JsepTransportCollection.owns_iff]
    simp only [getTransportByName_registerContent description desc hwell.mapped]
    constructor
    · rintro ⟨name, hname⟩
      split_ifs at hname with hsame
      · exact Or.inl (Option.some.inj hname).symm
      · exact Or.inr ⟨name, Ne.symm hsame, hname⟩
    · rintro (rfl | ⟨name, hne, hname⟩)
      · exact ⟨registered, by simp⟩
      · exact ⟨name, by rw [if_neg hne.symm, hname]⟩
  simp only [howns, getElem?_ices_registerContent]
  constructor
  · intro hreach mid ice hice
    have hkept : ¬ (registered = mid ∧ controller.ices[registered]? = none) := by
      rintro ⟨rfl, hnone⟩
      exact absurd (hnone.symm.trans hice) (by simp)
    obtain ⟨owner, rfl, hnew | ⟨name, hne, hname⟩⟩ :=
      hreach mid ice (by rw [if_neg hkept, hice])
    · exact absurd (hwell.ices mid owner hice) (by rw [hnew]; exact lt_irrefl _)
    · exact ⟨owner, name, rfl, hne, hname⟩
  · intro halive mid ice hice
    split_ifs at hice
    · exact ⟨_, (Option.some.inj hice).symm, Or.inl rfl⟩
    · obtain ⟨owner, name, rfl, hne, hname⟩ := halive mid ice hice
      exact ⟨owner, rfl, Or.inr ⟨name, hne, hname⟩⟩

/-! ### The whole call -/

theorem runTasks_singleton (descriptions : DescriptionId → Option SessionDescription)
    (controller : TransportController) (task : Task) :
    controller.runTasks descriptions [task] = controller.runTask descriptions task := by
  rw [runTasks]
  cases controller.runTask descriptions task <;> rfl

/-- An accepted text is survived exactly when it is complete. -/
theorem setRemoteSdpServed_accepted {api : TransportApi} {connection : P2pPeerConnection}
    (hwell : WellFormed connection) (caller : Caller) {sdp : Bytes}
    (haccepted : Accepted sdp)
    (hread : connection.readSdp api sdp = .next
      (connection.store (acceptedState api connection.audioPt connection.videoPt sdp)
        (acceptedDescription api sdp),
        acceptedState api connection.audioPt connection.videoPt sdp)) :
    (∃ final, connection.setRemoteSdpServed api caller sdp = .ok (0, final)) ↔
      Complete api connection caller sdp := by
  rw [P2pPeerConnection.setRemoteSdpServed, hread]
  simp only [acceptedState_description, acceptedState_allCandidate,
    P2pPeerConnection.store_controller]
  constructor
  · rintro ⟨final, hfinal⟩
    obtain ⟨⟨registered, posted⟩, hregister, hrest⟩ := except_bind_eq_ok_iff.mp hfinal
    obtain ⟨⟨notified, later⟩, hnotify, hrest⟩ := except_bind_eq_ok_iff.mp hrest
    obtain ⟨served, hserve, _⟩ := except_bind_eq_ok_iff.mp hrest
    have hbundle : (acceptedDescription api sdp).contentGroups ≠ [] := by
      intro hgroups
      rw [setRemoteSdp_of_no_group api sdp _ hgroups] at hregister
      simp at hregister
    obtain ⟨rest, hposted⟩ := setRemoteSdp_posts_first api sdp _ hregister
    have hprint : HasFingerprint api sdp := by
      rw [show posted = _ from hposted] at hserve
      obtain ⟨next, hnext, _⟩ := except_bind_eq_ok_iff.mp hserve
      obtain ⟨middle, hice, _⟩ := except_bind_eq_ok_iff.mp hnext
      obtain ⟨owner, hsame, howner, _⟩ := iceCall_eq_ok_iff.mp hice
      obtain rfl := Option.some.inj hsame
      exact (runTask_firstRemoteTask_ok_iff
        (connection.store_descriptions_self _ _) howner).mp ⟨next, hnext⟩
    have haudio := hprint.hasSection
    rw [setRemoteSdp_of_audio api sdp _ haudio hbundle] at hregister
    obtain ⟨rfl, rfl⟩ := Prod.mk.inj (Except.ok.inj hregister)
    have hreach := setRemoteCandidates_ok_iff.mp ⟨_, hnotify⟩
    rw [candidates_reach_iff hwell.controller] at hreach
    exact ⟨haccepted, hasBundle_iff.mpr hbundle, hprint, hreach⟩
  · rintro ⟨_, hbundle, hprint, hcandidates⟩
    rw [setRemoteSdp_of_audio api sdp _ hprint.hasSection (hasBundle_iff.mp hbundle)]
    have hreach := hcandidates
    rw [CandidatesDeliverable, OthersAlive, ← AliveBeside, ← candidates_reach_iff hwell.controller
      connection.network.nextDescription (acceptedDescription api sdp) kAudio] at hreach
    obtain ⟨⟨notified, later⟩, hnotify⟩ := setRemoteCandidates_ok_iff.mpr hreach
    have howner : notified.transports.owns connection.network.controller.nextTransport =
        true := by
      rw [(setRemoteCandidates_quiet hnotify).records.transports]
      refine (JsepTransportCollection.owns_iff _ _).mpr ⟨kAudio, ?_⟩
      rw [getTransportByName_registerContent _ _ hwell.controller.mapped, if_pos rfl]
    obtain ⟨served, hserve⟩ := (runTask_firstRemoteTask_ok_iff
      (connection.store_descriptions_self
        (acceptedState api connection.audioPt connection.videoPt sdp) _) howner).mpr hprint
    rw [← runTasks_singleton] at hserve
    exact ⟨_, except_bind_eq_ok_iff.mpr ⟨_, rfl, except_bind_eq_ok_iff.mpr
      ⟨_, hnotify, except_bind_eq_ok_iff.mpr ⟨_, hserve, rfl⟩⟩⟩⟩

/-- `set_remote_sdp`, the controller and the task it posts stay within bounds and
on live objects for a text without lines, a text refused at some line and a
complete text, and for no other. -/
theorem setRemoteSdpServed_ok_iff {api : TransportApi} {connection : P2pPeerConnection}
    (hreachable : Reachable api connection) (caller : Caller) (sdp : Bytes) :
    (∃ returned final, (returned = -1 ∨ returned = 0) ∧
      connection.setRemoteSdpServed api caller sdp = .ok (returned, final)) ↔
      sdpFields sdp = [] ∨ Rejected sdp ∨ Complete api connection caller sdp := by
  rcases connection.readSdp_cases api sdp with ⟨hfields, hread⟩ | ⟨haccepted, hread⟩ |
    ⟨hrejected, state, hread⟩ | ⟨⟨hnotAccepted, hnotRejected, hfields⟩, reason, hread⟩
  · refine iff_of_true ⟨-1, connection, Or.inl rfl, ?_⟩ (Or.inl hfields)
    rw [P2pPeerConnection.setRemoteSdpServed, hread]
  · have hserved := setRemoteSdpServed_accepted hreachable.wellFormed caller
      haccepted hread
    constructor
    · rintro ⟨returned, final, hreturned, hfinal⟩
      rcases hreturned with rfl | rfl
      · exfalso
        rw [P2pPeerConnection.setRemoteSdpServed, hread] at hfinal
        obtain ⟨_, _, hrest⟩ := except_bind_eq_ok_iff.mp hfinal
        obtain ⟨_, _, hrest⟩ := except_bind_eq_ok_iff.mp hrest
        obtain ⟨_, _, hresult⟩ := except_bind_eq_ok_iff.mp hrest
        exact absurd (Prod.mk.inj (Except.ok.inj hresult)).1 (by decide)
      · exact Or.inr (Or.inr (hserved.mp ⟨final, hfinal⟩))
    · rintro (hnil | hrejected | hcomplete)
      · exact absurd hnil haccepted.1
      · exact absurd haccepted hrejected.not_accepted
      · obtain ⟨final, hfinal⟩ := hserved.mpr hcomplete
        exact ⟨0, final, Or.inr rfl, hfinal⟩
  · refine iff_of_true ⟨-1, connection.store state { contentGroups := state.contentGroups },
      Or.inl rfl, ?_⟩ (Or.inr (Or.inl hrejected))
    rw [P2pPeerConnection.setRemoteSdpServed, hread]
  · refine iff_of_false ?_ ?_
    · rintro ⟨returned, final, _, hfinal⟩
      rw [P2pPeerConnection.setRemoteSdpServed, hread] at hfinal
      simp at hfinal
    · rintro (hnil | hrejected | hcomplete)
      · exact hfields hnil
      · exact hnotRejected hrejected
      · exact hnotAccepted hcomplete.accepted

theorem setRemoteSdpServed_ok_audio :
    ∃ returned final, (returned = -1 ∨ returned = 0) ∧
      P2pPeerConnection.setRemoteSdpServed rfc4572Api {} .networkThread audioSdp =
        .ok (returned, final) := by
  have hcomplete : Complete rfc4572Api {} .networkThread audioSdp :=
    { accepted := by decide +kernel
      bundle := by
        rw [HasBundle]
        decide +kernel
      fingerprint := by
        rw [HasFingerprint]
        decide +kernel
      candidates := Or.inr (Or.inl (by decide +kernel)) }
  exact (setRemoteSdpServed_ok_iff ⟨[], rfl⟩ .networkThread audioSdp).mpr
    (Or.inr (Or.inr hcomplete))

/-- An `m=` line for audio without a payload type: `items[3]` is out of range. -/
theorem mediaLine_without_payload_faults :
    ¬ ∃ returned final, (returned = -1 ∨ returned = 0) ∧
      P2pPeerConnection.setRemoteSdpServed rfc4572Api {} .otherThread
        (ascii "m=audio 9 UDP/TLS/RTP/SAVPF") = .ok (returned, final) := by
  rintro ⟨returned, final, _, hfinal⟩
  have hfault : P2pPeerConnection.setRemoteSdpServed rfc4572Api {} .otherThread
      (ascii "m=audio 9 UDP/TLS/RTP/SAVPF") = .error .indexOutOfRange := by
    rfl
  rw [hfault] at hfinal
  simp at hfinal

end PeerConnection.Connection
