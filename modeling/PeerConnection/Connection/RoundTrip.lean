import PeerConnection.Sdp.PrintedSections
import PeerConnection.Sdp.Rfc4572
import PeerConnection.Connection.RemoteSdp
import PeerConnection.Connection.Naming

/-!
# The round trip of a description

A description goes over the wire as the text of `ToString` and comes back through
`set_remote_sdp`.  The printer throws on a codec without parameters, the parser
reads past the tokens of an `m=` line without codecs, and the controller needs
the BUNDLE group that `create_offer` leaves out without RTP muxing.  Apart from
that only an fmtp line can be misread.
-/

namespace PeerConnection.Connection

open PeerConnection.Text
open PeerConnection.Scan
open PeerConnection.Sdp
open PeerConnection.Runs
open PeerConnection.Transport
open PeerConnection.Transport.TransportController

/-! ## What is to come back -/

/-- The payload type member for one kind of media. -/
def P2pPeerConnection.payloadType (connection : P2pPeerConnection) : MediaType → UInt8
  | .audio => connection.audioPt
  | .video => connection.videoPt

/-- The description in `remote_desc_` has the transport attributes, the first payload
types and the BUNDLE names of this one. -/
structure Recovered (desc : SessionDescription) (connection : P2pPeerConnection)
    (remote : SessionDescription) : Prop where
  alive : ∃ id, connection.remoteDesc = some id ∧
    connection.network.descriptions id = some remote
  transports : ∀ content ∈ desc.contents, ∃ info found,
    desc.getTransportInfoByName content.name = some info ∧
      remote.getTransportInfoByName content.name = some found ∧
      found.description.iceUfrag = info.description.iceUfrag ∧
      found.description.icePwd = info.description.icePwd ∧
      found.description.identityFingerprint = info.description.identityFingerprint
  payloadTypes : ∀ content ∈ desc.contents, ∀ codec ∈ content.description.codecs.head?,
    connection.payloadType content.description.type = UInt8.ofInt codec.id
  bundle : ∃ group, remote.getGroupByName kBundle = some group ∧
    group.contentNames = bundleNames desc

/-- The text is printed, `set_remote_sdp` returns 0 on it, and nothing is lost. -/
def RoundTrips (api : TransportApi) (connection : P2pPeerConnection) (caller : Caller)
    (desc : SessionDescription) : Prop :=
  ∃ text after remote, desc.toString api = .ok text ∧
    connection.setRemoteSdpReturned api caller text = .ok (0, after) ∧
    Recovered desc after remote

/-! ## When it does -/

/-- The section has a codec, every codec has a parameter, and no fmtp line is taken
for an attribute. -/
structure SectionReadsBack (content : ContentInfo) : Prop where
  codecs : content.description.codecs ≠ []
  params : HasParameters content
  fmtp : ∀ codec ∈ content.description.codecs, FmtpHarmless (fmtpText codec)

/-- The name under which the transport is registered. -/
def registeredName (desc : SessionDescription) : Bytes :=
  if ∃ content ∈ desc.contents, content.name = kAudio then kAudio else []

structure ReadsBack (connection : P2pPeerConnection) (caller : Caller)
    (desc : SessionDescription) : Prop where
  sections : ∀ content ∈ desc.contents, SectionReadsBack content
  bundle : bundleNames desc ≠ []
  candidates : caller = .otherThread ∨
    (∀ content ∈ desc.contents, ∀ codec ∈ content.description.codecs,
      ¬ Occurs kCandidateAttribute (fmtpText codec)) ∨
    AliveBeside (registeredName desc) connection.network.controller

section Proof

variable {api : TransportApi} {desc : SessionDescription}

theorem accepted_printedText_iff (hapi : PrintsAttributes api) (hdesc : Printable desc) :
    Accepted (printedText api desc) ↔
      ∀ content ∈ desc.contents, content.description.codecs ≠ [] ∧
        ∀ codec ∈ content.description.codecs, attributeVerdict (fmtpText codec) = .pass := by
  rw [Accepted, firstExit_printedText_eq_none_iff hapi hdesc, sdpFields_printedText hapi hdesc]
  exact and_iff_right (by simp [descriptionLines, headerLines])

theorem hasSection_printedText_some (hapi : PrintsAttributes api) (hdesc : Printable desc) :
    HasSection kAudio (sdpEntries (printedText api desc)) ∨
      HasSection kVideo (sdpEntries (printedText api desc)) := by
  obtain ⟨content, hcontent⟩ := List.exists_mem_of_ne_nil _ hdesc.nonempty
  have hsection := hasSection_printedText hapi hdesc hcontent
  rcases (hdesc.contents content hcontent).kind with ⟨hname, _⟩ | ⟨hname, _⟩
  · exact Or.inl (hname ▸ hsection)
  · exact Or.inr (hname ▸ hsection)

/-- A slot has its name exactly when the description has that section. -/
theorem sectionTitle_printedText (hapi : PrintsAttributes api) (hdesc : Printable desc) :
    sectionTitle kAudio (sdpEntries (printedText api desc)) = registeredName desc := by
  rw [registeredName]
  split_ifs with haudio
  · obtain ⟨content, hcontent, hname⟩ := haudio
    have hsection := hasSection_printedText hapi hdesc hcontent
    rw [hname] at hsection
    exact sectionTitle_of_hasSection hsection
  · refine if_neg fun hsection => haudio ?_
    rw [hasSection_iff_mem_mediaNames, mediaNames, sdpFields_printedText hapi hdesc] at hsection
    obtain ⟨line, hline, hname⟩ := List.mem_map.mp hsection
    obtain ⟨hmem, hmedia⟩ := List.mem_filter.mp hline
    have hmedia : IsMediaLine line := by simpa using hmedia
    rcases List.mem_append.mp hmem with hheader | hcontents
    · exact absurd hmedia (not_isMediaLine_of_mem_headerLines hheader)
    · obtain ⟨content, hcontent, hline⟩ := List.mem_flatMap.mp hcontents
      have hprintable := hdesc.contents content hcontent
      rcases List.mem_cons.mp hline with rfl | hattribute
      · rw [mediaName_mediaText hprintable] at hname
        exact ⟨content, hcontent, hname⟩
      · exact absurd hmedia
          (not_isMediaLine_of_mem_attributeLines hapi hprintable hattribute)

/-- The call on an accepted text with sections. -/
theorem setRemoteSdpReturned_accepted {connection : P2pPeerConnection}
    (hwell : WellFormed connection) {caller : Caller} {sdp : Bytes} (haccepted : Accepted sdp)
    (hsection : HasSection kAudio (sdpEntries sdp) ∨ HasSection kVideo (sdpEntries sdp))
    (hgroups : (acceptedDescription api sdp).contentGroups ≠ []) :
    (∃ after, connection.setRemoteSdpReturned api caller sdp = .ok (0, after)) ↔
      caller = .otherThread ∨ acceptedCandidates sdp = [] ∨
        AliveBeside (sectionTitle kAudio (sdpEntries sdp)) connection.network.controller := by
  rcases connection.readSdp_cases api sdp with ⟨hfields, _⟩ | ⟨_, hread⟩ | ⟨hrejected, _⟩ |
    ⟨⟨hnot, _⟩, _⟩
  · exact absurd hfields haccepted.1
  · rw [P2pPeerConnection.setRemoteSdpReturned, hread]
    simp only [acceptedState_description, acceptedState_allCandidate,
      P2pPeerConnection.store_controller]
    rw [setRemoteSdp_of_section api sdp _ _ hsection hgroups,
      ← candidates_reach_iff hwell.controller connection.network.nextDescription
        (acceptedDescription api sdp), ← setRemoteCandidates_ok_iff]
    constructor
    · rintro ⟨after, hafter⟩
      obtain ⟨_, hregister, hrest⟩ := except_bind_eq_ok_iff.mp hafter
      obtain rfl := Except.ok.inj hregister
      obtain ⟨result, hresult, _⟩ := except_bind_eq_ok_iff.mp hrest
      exact ⟨result, hresult⟩
    · rintro ⟨result, hresult⟩
      exact ⟨_, except_bind_eq_ok_iff.mpr ⟨_, rfl, except_bind_eq_ok_iff.mpr
        ⟨result, hresult, rfl⟩⟩⟩
  · exact absurd haccepted hrejected.not_accepted
  · exact absurd haccepted hnot

/-- When the call returns 0, the text has been accepted and stored. -/
theorem setRemoteSdpReturned_eq_zero {connection after : P2pPeerConnection} {caller : Caller}
    {sdp : Bytes} (hreturned : connection.setRemoteSdpReturned api caller sdp = .ok (0, after)) :
    Accepted sdp ∧ (acceptedDescription api sdp).contentGroups ≠ [] ∧
      after.remoteDesc = some connection.network.nextDescription ∧
      after.network.descriptions connection.network.nextDescription =
        some (acceptedDescription api sdp) ∧
      after.audioPt = acceptedPayload kAudio sdp connection.audioPt ∧
      after.videoPt = acceptedPayload kVideo sdp connection.videoPt := by
  rw [P2pPeerConnection.setRemoteSdpReturned] at hreturned
  rcases connection.readSdp_cases api sdp with ⟨_, hread⟩ | ⟨haccepted, hread⟩ |
    ⟨_, state, hread⟩ | ⟨_, reason, hread⟩
  · rw [hread] at hreturned
    exact absurd (Prod.mk.inj (Except.ok.inj hreturned)).1 (by decide)
  · rw [hread] at hreturned
    obtain ⟨⟨registered, posted⟩, hregister, hrest⟩ := except_bind_eq_ok_iff.mp hreturned
    obtain ⟨⟨notified, later⟩, _, hresult⟩ := except_bind_eq_ok_iff.mp hrest
    obtain ⟨_, rfl⟩ := Prod.mk.inj (Except.ok.inj hresult)
    rw [acceptedState_description] at hregister
    refine ⟨haccepted, fun hgroups => ?_, rfl, connection.store_descriptions_self
        (acceptedState api connection.audioPt connection.videoPt sdp)
        (acceptedDescription api sdp),
      acceptedState_audioPt api _ _ sdp, acceptedState_videoPt api _ _ sdp⟩
    exact absurd ((setRemoteSdp_of_no_group api sdp _ hgroups).symm.trans hregister) (by simp)
  · rw [hread] at hreturned
    exact absurd (Prod.mk.inj (Except.ok.inj hreturned)).1 (by decide)
  · rw [hread] at hreturned
    exact absurd hreturned (by simp)

/-- What comes back of the transports, when it is what was printed, shows that no
fmtp line has been misread. -/
theorem SectionReadsBack.of_recovered (hapi : PrintsAttributes api) (hdesc : Printable desc)
    (hparams : ∀ content ∈ desc.contents, HasParameters content)
    (haccepted : Accepted (printedText api desc)) {content : ContentInfo}
    (hcontent : content ∈ desc.contents) {info found : TransportInfo}
    (hinfo : desc.getTransportInfoByName content.name = some info)
    (hfound : (acceptedDescription api (printedText api desc)).getTransportInfoByName
      content.name = some found)
    (hufrag : found.description.iceUfrag = info.description.iceUfrag)
    (hpwd : found.description.icePwd = info.description.icePwd) :
    SectionReadsBack content := by
  obtain ⟨hcodecs, hpass⟩ :=
    (accepted_printedText_iff hapi hdesc).mp haccepted content hcontent
  have hprintable := hdesc.contents content hcontent
  have hsame : (acceptedDescription api (printedText api desc)).getTransportInfoByName
      content.name = some _ :=
    getTransportInfoByName_of_section hprintable.isCollected
      (hasSection_printedText hapi hdesc hcontent)
  obtain rfl := Option.some.inj (hfound.symm.trans hsame)
  exact ⟨hcodecs, hparams content hcontent,
    fmtpHarmless_of_recovered hapi hdesc hcontent hinfo hpass hufrag hpwd⟩

theorem attributeVerdict_of_readsBack (hdesc : Printable desc) {content : ContentInfo}
    (hcontent : content ∈ desc.contents) (hsection : SectionReadsBack content) :
    ∀ codec ∈ content.description.codecs, attributeVerdict (fmtpText codec) = .pass :=
  fun codec hcodec => ((fmtpHarmless_iff ((hdesc.contents content hcontent).codecs codec
    hcodec)).mp (hsection.fmtp codec hcodec)).1

/-- What is stored for a printed text whose sections all read back. -/
theorem recovered_of_readsBack (hapi : PrintsAttributes api) (hdesc : Printable desc)
    (hsections : ∀ content ∈ desc.contents, SectionReadsBack content)
    (hbundle : bundleNames desc ≠ []) {connection after : P2pPeerConnection} {caller : Caller}
    (hreturned : connection.setRemoteSdpReturned api caller (printedText api desc) =
      .ok (0, after)) :
    Recovered desc after (acceptedDescription api (printedText api desc)) := by
  obtain ⟨_, _, hremote, halive, haudio, hvideo⟩ := setRemoteSdpReturned_eq_zero hreturned
  refine ⟨⟨_, hremote, halive⟩, fun content hcontent => ?_, fun content hcontent codec hcodec => ?_,
    (getGroupByName_printedText_iff hapi hdesc).mpr hbundle⟩
  · have hprintable := hdesc.contents content hcontent
    obtain ⟨info, hinfo, htransport⟩ := sectionTransport_printedText hapi hdesc hcontent
      (hsections content hcontent).fmtp
    refine ⟨info, _, hinfo, getTransportInfoByName_of_section hprintable.isCollected
      (hasSection_printedText hapi hdesc hcontent), ?_, ?_, ?_⟩
    · rw [sectionInfo, htransport]
    · rw [sectionInfo, htransport]
    · rw [sectionInfo, htransport]
  · obtain ⟨codecs, hcodecs⟩ : ∃ codecs, content.description.codecs = codec :: codecs :=
      List.head?_eq_some_iff.mp hcodec
    rcases (hdesc.contents content hcontent).kind with ⟨hname, htype⟩ | ⟨hname, htype⟩
    · rw [htype, P2pPeerConnection.payloadType, haudio, ← hname]
      exact acceptedPayload_printedText hapi hdesc hcontent hcodecs _
    · rw [htype, P2pPeerConnection.payloadType, hvideo, ← hname]
      exact acceptedPayload_printedText hapi hdesc hcontent hcodecs _

/-- A printable description comes back whole exactly when every section has a codec,
every codec a parameter, no fmtp line is taken for an attribute of the transport,
and there is a BUNDLE group. -/
theorem roundTrips_iff (hapi : PrintsAttributes api) (hdesc : Printable desc)
    {connection : P2pPeerConnection} (hreachable : Reachable api connection) (caller : Caller) :
    RoundTrips api connection caller desc ↔ ReadsBack connection caller desc := by
  have hsection := hasSection_printedText_some hapi hdesc
  constructor
  · rintro ⟨text, after, remote, htext, hreturned, hrecovered⟩
    obtain ⟨hparams, htext⟩ := toString_eq_ok_iff.mp htext
    rw [htext, ← printedText] at hreturned
    obtain ⟨haccepted, hgroups, hremote, halive, _, _⟩ := setRemoteSdpReturned_eq_zero hreturned
    obtain ⟨id, hid, hdescription⟩ := hrecovered.alive
    obtain rfl := Option.some.inj (hremote.symm.trans hid)
    obtain rfl := Option.some.inj (hdescription.symm.trans halive)
    have hreads : ∀ content ∈ desc.contents, SectionReadsBack content := by
      intro content hcontent
      obtain ⟨info, found, hinfo, hfound, hufrag, hpwd, _⟩ :=
        hrecovered.transports content hcontent
      exact .of_recovered hapi hdesc hparams haccepted hcontent hinfo hfound hufrag hpwd
    refine ⟨hreads, (getGroupByName_printedText_iff hapi hdesc).mp hrecovered.bundle, ?_⟩
    have hcandidates := (setRemoteSdpReturned_accepted hreachable.wellFormed haccepted hsection
      hgroups).mp ⟨after, hreturned⟩
    rwa [acceptedCandidates_printedText_eq_nil_iff hapi hdesc fun content hcontent codec hcodec =>
      ((hreads content hcontent).fmtp codec hcodec).2.2.1,
      sectionTitle_printedText hapi hdesc] at hcandidates
  · rintro ⟨hreads, hbundle, hcandidates⟩
    have haccepted : Accepted (printedText api desc) :=
      (accepted_printedText_iff hapi hdesc).mpr fun content hcontent =>
        ⟨(hreads content hcontent).codecs,
          attributeVerdict_of_readsBack hdesc hcontent (hreads content hcontent)⟩
    have hgroups : (acceptedDescription api (printedText api desc)).contentGroups ≠ [] := by
      obtain ⟨group, hgroup, _⟩ := (getGroupByName_printedText_iff hapi hdesc).mpr hbundle
      exact List.ne_nil_of_mem (List.mem_of_find?_eq_some hgroup)
    rw [← acceptedCandidates_printedText_eq_nil_iff hapi hdesc
      fun content hcontent codec hcodec =>
        ((hreads content hcontent).fmtp codec hcodec).2.2.1,
      ← sectionTitle_printedText hapi hdesc] at hcandidates
    obtain ⟨after, hreturned⟩ := (setRemoteSdpReturned_accepted hreachable.wellFormed haccepted
      hsection hgroups).mpr hcandidates
    exact ⟨_, after, _,
      toString_eq_ok_iff.mpr ⟨fun content hcontent => (hreads content hcontent).params, rfl⟩,
      hreturned, recovered_of_readsBack hapi hdesc hreads hbundle hreturned⟩

end Proof

/-! ## The descriptions of `create_offer` -/

section Offered

variable {api : TransportApi} {options : RTCOfferAnswerOptions} {streamId : Bytes}
variable {source : OfferSource} {certificate : Certificate}

/-- The values that an offer draws can be printed. -/
structure PrintableSource (api : TransportApi) (source : OfferSource)
    (certificate : Certificate) : Prop where
  cname : FreeText source.cname
  ufrag : IsIceText source.iceParam.ufrag
  pwd : IsIceText source.iceParam.pwd
  fingerprint : ∃ fp, api.createFromCertificate certificate = some fp ∧ IsShaFingerprint fp

theorem mem_offerContents_iff {content : ContentInfo} :
    content ∈ offerContents options streamId source ↔
      options.hasAudio = true ∧ content = audioContent options streamId source ∨
        options.hasVideo = true ∧ content = videoContent options streamId source := by
  cases haudio : options.hasAudio <;> cases hvideo : options.hasVideo <;>
    simp [offerContents, haudio, hvideo]

/-- Each offered content finds the transport info that was made for it. -/
theorem getTransportInfoByName_offeredDesc {content : ContentInfo}
    (hcontent : content ∈ offerContents options streamId source) :
    (offeredDesc api options streamId source certificate).getTransportInfoByName content.name =
      some (offeredTransportInfo api source certificate content.name) := by
  rw [SessionDescription.getTransportInfoByName, offeredDesc, List.find?_map]
  obtain ⟨found, hfound⟩ : ∃ found, (offerContents options streamId source).find?
      (fun other => decide (other.name = content.name)) = some found := by
    rw [← Option.isSome_iff_exists, List.find?_isSome]
    exact ⟨content, hcontent, by simp⟩
  have hname : found.name = content.name := by simpa using List.find?_some hfound
  have hsame : ((fun info : TransportInfo => decide (info.contentName = content.name)) ∘
      fun content => offeredTransportInfo api source certificate content.name) =
      fun other : ContentInfo => decide (other.name = content.name) := rfl
  rw [hsame, hfound, Option.map_some, hname]

theorem printableCodec_of_mem {codec : Codec} (hcodec : codec ∈ [audioCodec, videoCodec,
    videoRtxCodec]) : PrintableCodec codec := by
  simp only [List.mem_cons, List.not_mem_nil, or_false] at hcodec
  rcases hcodec with rfl | rfl | rfl
  · exact ⟨⟨111, rfl, by decide⟩, by decide, by decide, by decide⟩
  · exact ⟨⟨107, rfl, by decide⟩, by decide, by decide, by decide⟩
  · exact ⟨⟨99, rfl, by decide⟩, by decide, by decide, by decide⟩

theorem codecs_subset_of_mem_offerContents {content : ContentInfo}
    (hcontent : content ∈ offerContents options streamId source) :
    content.description.codecs ⊆ [audioCodec, videoCodec, videoRtxCodec] := by
  rcases mem_offerContents_iff.mp hcontent with ⟨_, rfl⟩ | ⟨_, rfl⟩
  · simp [audioContent]
  · cases hsend : options.sendVideo <;> simp [videoContent, hsend]

/-- Every offer with a section can be printed. -/
theorem printable_offeredDesc (hsource : PrintableSource api source certificate)
    (hcontents : offerContents options streamId source ≠ []) :
    Printable (offeredDesc api options streamId source certificate) where
  nonempty := hcontents
  distinct := by
    cases haudio : options.hasAudio <;> cases hvideo : options.hasVideo <;>
      simp [offeredDesc, offerContents, haudio, hvideo, audioContent, videoContent,
        kVideo_ne_kAudio.symm]
  contents content hcontent := by
    have hcodecs := codecs_subset_of_mem_offerContents hcontent
    refine ⟨?_, fun codec hcodec => printableCodec_of_mem (hcodecs hcodec), ?_,
      ⟨_, getTransportInfoByName_offeredDesc hcontent, hsource.ufrag, hsource.pwd,
        hsource.fingerprint⟩⟩
    · rcases mem_offerContents_iff.mp hcontent with ⟨_, rfl⟩ | ⟨_, rfl⟩
      · exact Or.inl ⟨rfl, rfl⟩
      · exact Or.inr ⟨rfl, rfl⟩
    · intro stream hstream
      have hcname : stream.cname = source.cname := by
        rcases mem_offerContents_iff.mp hcontent with ⟨_, rfl⟩ | ⟨_, rfl⟩
        · cases hsend : options.sendAudio <;> simp_all [audioContent]
        · cases hsend : options.sendVideo <;> simp [videoContent, hsend] at hstream
          rcases hstream with rfl | rfl <;> rfl
      rw [hcname]
      exact hsource.cname
  bundle name hname := by
    rw [bundleNames, SessionDescription.getGroupByName] at hname
    by_cases hmux : options.useRtpMux = true
    · simpa [offeredDesc, hmux, hcontents] using hname
    · simp [offeredDesc, hmux] at hname

/-- An offer comes back whole exactly when its video section, if it has one, sends,
and the sections are bundled. -/
theorem offeredDesc_readsBack_iff (hcontents : offerContents options streamId source ≠ [])
    (connection : P2pPeerConnection) (caller : Caller) :
    ReadsBack connection caller (offeredDesc api options streamId source certificate) ↔
      (options.hasVideo = true → options.sendVideo = true) ∧ options.useRtpMux = true := by
  have hharmless : ∀ codec ∈ [audioCodec, videoCodec, videoRtxCodec],
      codec.params.isEmpty = false ∧ FmtpHarmless (fmtpText codec) ∧
        ¬ Occurs kCandidateAttribute (fmtpText codec) := by
    decide +kernel
  constructor
  · rintro ⟨hsections, hbundle, _⟩
    constructor
    · intro hvideo
      have hcodecs := (hsections _ (mem_offerContents_iff.mpr (Or.inr ⟨hvideo, rfl⟩))).codecs
      by_contra hsend
      exact hcodecs (if_neg hsend)
    · by_contra hmux
      exact hbundle (by simp [bundleNames, SessionDescription.getGroupByName, offeredDesc, hmux])
  · rintro ⟨hvideo, hmux⟩
    refine ⟨fun content hcontent => ?_, ?_, Or.inr (Or.inl fun content hcontent codec hcodec =>
      (hharmless codec (codecs_subset_of_mem_offerContents hcontent hcodec)).2.2)⟩
    · have hcodecs := codecs_subset_of_mem_offerContents hcontent
      refine ⟨?_, fun codec hcodec => (hharmless codec (hcodecs hcodec)).1,
        fun codec hcodec => (hharmless codec (hcodecs hcodec)).2.1⟩
      rcases mem_offerContents_iff.mp hcontent with ⟨_, rfl⟩ | ⟨hhas, rfl⟩
      · simp [audioContent]
      · simp [videoContent, hvideo hhas]
    · simp [bundleNames, SessionDescription.getGroupByName, offeredDesc, hmux, hcontents]

end Offered

/-! ### Offers with a digest of 32 bytes -/

def sampleDigest : Certificate := List.replicate 32 171

theorem printableSource_sample : PrintableSource rfc4572Api sampleSource sampleDigest where
  cname := by decide
  ufrag := by decide +kernel
  pwd := by decide +kernel
  fingerprint := ⟨_, rfl, by decide⟩

theorem roundTrips_iff_defaultOffer :
    RoundTrips rfc4572Api {} .otherThread
        (offeredDesc rfc4572Api {} (ascii "stream") sampleSource sampleDigest) ↔
      ReadsBack {} .otherThread
        (offeredDesc rfc4572Api {} (ascii "stream") sampleSource sampleDigest) :=
  roundTrips_iff printsAttributes_rfc4572Api
    (printable_offeredDesc printableSource_sample
      (by simp [offerContents, RTCOfferAnswerOptions.hasAudio]))
    ⟨[], rfl⟩ .otherThread

/-- Both media, but video is only received. -/
def receiveVideo : RTCOfferAnswerOptions where
  sendVideo := false

/-- An offer that only receives video has an `m=` line without payload types, on
which the parser reads past the end. -/
theorem receiveVideo_not_roundTrips :
    ∃ options streamId source certificate desc connection caller,
      localDesc rfc4572Api options streamId source = .ok desc ∧
      source.certificate = some certificate ∧ Printable desc ∧ bundleNames desc ≠ [] ∧
      Reachable rfc4572Api connection ∧ ¬ RoundTrips rfc4572Api connection caller desc := by
  have hcontents : offerContents receiveVideo (ascii "stream")
      { sampleSource with certificate := some sampleDigest } ≠ [] := by
    simp [offerContents, receiveVideo, RTCOfferAnswerOptions.hasAudio]
  have hsource : PrintableSource rfc4572Api
      { sampleSource with certificate := some sampleDigest } sampleDigest :=
    ⟨printableSource_sample.cname, printableSource_sample.ufrag, printableSource_sample.pwd,
      printableSource_sample.fingerprint⟩
  have hdesc := printable_offeredDesc hsource hcontents
  refine ⟨receiveVideo, ascii "stream", { sampleSource with certificate := some sampleDigest },
    sampleDigest, _, {}, .otherThread, localDesc_of_certificate rfl, rfl, hdesc,
    ?_, ⟨[], rfl⟩, ?_⟩
  · simp [bundleNames, SessionDescription.getGroupByName, offeredDesc, receiveVideo,
      offerContents, RTCOfferAnswerOptions.hasAudio]
  · rintro ⟨text, after, _, htext, hreturned, _⟩
    obtain ⟨_, rfl⟩ := toString_eq_ok_iff.mp htext
    have haccepted := (setRemoteSdpReturned_eq_zero hreturned).1
    have hcodecs := ((accepted_printedText_iff printsAttributes_rfc4572Api hdesc).mp haccepted
      _ (mem_offerContents_iff.mpr (Or.inr ⟨rfl, rfl⟩))).1
    exact hcodecs rfl

end PeerConnection.Connection
