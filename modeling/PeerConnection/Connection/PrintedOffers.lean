import PeerConnection.Connection.RoundTrip
import PeerConnection.Sdp.PrintedSemantics

/-!
# What a printed offer says about its options

Two offers made with the same draws have one text when they have the same
sections, which send the same media, and are bundled alike.  Whether a section
also receives, and whether RTCP is multiplexed, is not printed.
-/

namespace PeerConnection.Connection

open PeerConnection.Text
open PeerConnection.Runs
open PeerConnection.Sdp
open PeerConnection.Transport

/-- The options make the same text of the same draws. -/
structure PrintedAlike (options others : RTCOfferAnswerOptions) : Prop where
  sendAudio : options.sendAudio = others.sendAudio
  sendVideo : options.sendVideo = others.sendVideo
  hasAudio : options.hasAudio = others.hasAudio
  hasVideo : options.hasVideo = others.hasVideo
  useRtpMux : options.hasAudio = true ∨ options.hasVideo = true →
    options.useRtpMux = others.useRtpMux

/-! ## The parts of an offer's text -/

def headerText (names : List Bytes) : Bytes :=
  terminated ([ascii "v=0", ascii "o=- 0 2 IN IP4 127.0.0.1", ascii "s=-", ascii "t=0 0"] ++
    (if names = [] then [] else [bundleGroupText names]) ++ [ascii "a=msid-semantic: WMS"])

/-- The names that an offer can bundle. -/
def offerNames (options : RTCOfferAnswerOptions) : List Bytes :=
  if options.useRtpMux then
    (if options.hasAudio then [kAudio] else []) ++ (if options.hasVideo then [kVideo] else [])
  else []

/-- The lines of a section of an offer. -/
def offeredLines (api : TransportApi) (source : OfferSource) (certificate : Certificate)
    (content : ContentInfo) : List Bytes :=
  mediaText content :: ([ascii "c=IN IP4 0.0.0.0", ascii "a=rtcp:9 IN IP4 0.0.0.0"] ++
    transportLines api (offeredTransportInfo api source certificate content.name).description ++
    mediaLines content)

def audioText (api : TransportApi) (options : RTCOfferAnswerOptions) (streamId : Bytes)
    (source : OfferSource) (certificate : Certificate) : Bytes :=
  if options.hasAudio then
    terminated (offeredLines api source certificate (audioContent options streamId source))
  else []

def videoText (api : TransportApi) (options : RTCOfferAnswerOptions) (streamId : Bytes)
    (source : OfferSource) (certificate : Certificate) : Bytes :=
  if options.hasVideo then
    terminated (offeredLines api source certificate (videoContent options streamId source))
  else []

section Texts

variable {api : TransportApi} {options others : RTCOfferAnswerOptions}
variable {streamId otherId : Bytes} {source : OfferSource} {certificate : Certificate}

theorem bundleNames_offeredDesc :
    bundleNames (offeredDesc api options streamId source certificate) = offerNames options := by
  cases hmux : options.useRtpMux <;> cases haudio : options.hasAudio <;>
    cases hvideo : options.hasVideo <;>
    simp [bundleNames, SessionDescription.getGroupByName, offeredDesc, offerContents,
      offerNames, hmux, haudio, hvideo, audioContent, videoContent]

theorem contentLines_offeredDesc {content : ContentInfo}
    (hcontent : content ∈ offerContents options streamId source) :
    contentLines api (offeredDesc api options streamId source certificate) content =
      offeredLines api source certificate content := by
  simp [contentLines, attributeLines, offeredLines, getTransportInfoByName_offeredDesc hcontent]

theorem printedText_offeredDesc :
    printedText api (offeredDesc api options streamId source certificate) =
      headerText (offerNames options) ++
        (audioText api options streamId source certificate ++
          videoText api options streamId source certificate) := by
  have hsections : (offerContents options streamId source).flatMap
      (contentLines api (offeredDesc api options streamId source certificate)) =
      (offerContents options streamId source).flatMap (offeredLines api source certificate) :=
    List.flatMap_congr fun _ hcontent => contentLines_offeredDesc hcontent
  have hparts : terminated ((offerContents options streamId source).flatMap
      (offeredLines api source certificate)) =
      audioText api options streamId source certificate ++
        videoText api options streamId source certificate := by
    rw [offerContents, List.flatMap_append, terminated_append, audioText, videoText]
    congr 1
    · split_ifs <;> simp
    · split_ifs <;> simp
  have hcontents : (offeredDesc api options streamId source certificate).contents =
      offerContents options streamId source := rfl
  rw [printedText, descriptionLines, terminated_append, headerLines, bundleNames_offeredDesc,
    hcontents, hsections, hparts, headerText]

/-! ### The header -/

theorem offerNames_mem (options : RTCOfferAnswerOptions) :
    offerNames options ∈ [[], [kAudio], [kVideo], [kAudio, kVideo]] := by
  rw [offerNames]
  split_ifs <;> simp

theorem headerText_inj {rest tail : Bytes}
    (htext : headerText (offerNames options) ++ rest = headerText (offerNames others) ++ tail) :
    offerNames options = offerNames others ∧ rest = tail := by
  have happart : ∀ names ∈ [[], [kAudio], [kVideo], [kAudio, kVideo]],
      ∀ other ∈ [[], [kAudio], [kVideo], [kAudio, kVideo]], names ≠ other →
        Apart (headerText names) (headerText other) := by
    decide
  have hnames : offerNames options = offerNames others := by
    by_contra hne
    refine (happart _ (offerNames_mem options) _ (offerNames_mem others) hne).not_begins
      (List.prefix_append _ tail) ?_
    rw [← htext]
    exact List.prefix_append _ _
  rw [hnames] at htext
  exact ⟨hnames, List.append_cancel_left htext⟩

theorem useRtpMux_of_offerNames (haudio : options.hasAudio = others.hasAudio)
    (hvideo : options.hasVideo = others.hasVideo)
    (hnames : offerNames options = offerNames others)
    (hcontents : options.hasAudio = true ∨ options.hasVideo = true) :
    options.useRtpMux = others.useRtpMux := by
  rw [offerNames, offerNames, ← haudio, ← hvideo] at hnames
  cases hmux : options.useRtpMux <;> cases hother : others.useRtpMux <;>
    rcases hcontents with hsome | hsome <;> simp_all

/-! ### The audio section -/

/-- An audio section that sends nothing. -/
def silentAudio : ContentInfo where
  name := kAudio
  description := { type := .audio, codecs := [audioCodec] }

def audioSsrcLine (source : OfferSource) : Bytes :=
  ascii "a=ssrc:" ++ (decimalNat source.localAudioSsrc.toNat ++ (ascii " cname:" ++ source.cname))

theorem offeredLines_audioContent :
    offeredLines api source certificate (audioContent options streamId source) =
      offeredLines api source certificate silentAudio ++
        if options.sendAudio then [audioSsrcLine source] else [] := by
  cases hsend : options.sendAudio <;>
    simp [offeredLines, mediaLines, mediaText, audioContent, silentAudio, hsend, streamLines,
      ssrcText, audioSsrcLine]

theorem audioText_eq (haudio : options.hasAudio = true) :
    audioText api options streamId source certificate =
      terminated (offeredLines api source certificate silentAudio) ++
        if options.sendAudio then audioSsrcLine source ++ crlf else [] := by
  rw [audioText, if_pos haudio, offeredLines_audioContent, terminated_append]
  split_ifs <;> simp

theorem audioText_begins (haudio : options.hasAudio = true) :
    ascii "m=audio" <+: audioText api options streamId source certificate := by
  rw [audioText_eq haudio, offeredLines, terminated_cons]
  exact ⟨_, rfl⟩

/-! ### The video section -/

theorem videoText_begins (hvideo : options.hasVideo = true) :
    ascii "m=video 9 UDP/TLS/RTP/SAVPF" ++ (if options.sendVideo then [space] else [cr]) <+:
      videoText api options streamId source certificate := by
  rw [videoText, if_pos hvideo, offeredLines, terminated_cons]
  cases hsend : options.sendVideo with
  | true =>
      rw [mediaText, videoContent]
      simp only [hsend]
      exact ⟨_, rfl⟩
  | false =>
      rw [mediaText, videoContent]
      simp only [hsend]
      exact ⟨_, rfl⟩

/-- Where the video text begins, no other line can. -/
theorem not_prefix_videoText {marker : Bytes} (hne : marker ≠ [])
    (hmarker : Apart marker (ascii "m=video 9 UDP/TLS/RTP/SAVPF")) :
    ¬ marker <+: videoText api options streamId source certificate := by
  cases hvideo : options.hasVideo with
  | true =>
      exact hmarker.not_begins ((List.prefix_append _ _).trans (videoText_begins hvideo))
  | false =>
      rw [videoText, hvideo]
      exact fun hbegins => hne (List.prefix_nil.mp hbegins)

/-! ## Equal texts -/

/-- The two sections of an offer, one after the other. -/
def sectionsText (api : TransportApi) (options : RTCOfferAnswerOptions) (streamId : Bytes)
    (source : OfferSource) (certificate : Certificate) : Bytes :=
  audioText api options streamId source certificate ++
    videoText api options streamId source certificate

theorem hasAudio_of_sectionsText
    (htext : sectionsText api options streamId source certificate =
      sectionsText api others otherId source certificate)
    (haudio : options.hasAudio = true) : others.hasAudio = true := by
  by_contra hother
  have hnone : audioText api others otherId source certificate = [] := by
    rw [audioText, if_neg hother]
  have hbegins : ascii "m=audio" <+: sectionsText api options streamId source certificate :=
    (audioText_begins haudio).trans (List.prefix_append _ _)
  rw [htext, sectionsText, hnone, List.nil_append] at hbegins
  exact not_prefix_videoText (by decide) (by decide) hbegins

theorem hasAudio_of_sendAudio (hsend : options.sendAudio = true) : options.hasAudio = true := by
  rw [RTCOfferAnswerOptions.hasAudio, hsend, Bool.true_or]

theorem hasVideo_of_sendVideo (hsend : options.sendVideo = true) : options.hasVideo = true := by
  rw [RTCOfferAnswerOptions.hasVideo, hsend, Bool.true_or]

theorem sendAudio_of_sectionsText
    (htext : sectionsText api options streamId source certificate =
      sectionsText api others otherId source certificate)
    (hsend : options.sendAudio = true) : others.sendAudio = true := by
  have haudio := hasAudio_of_sendAudio hsend
  have hother := hasAudio_of_sectionsText htext haudio
  by_contra hsilent
  rw [sectionsText, sectionsText, audioText_eq haudio, audioText_eq hother, if_pos hsend,
    if_neg hsilent, List.append_nil, List.append_assoc] at htext
  -- one text goes on with the SSRC line, the other with the video section
  have hrest := List.append_cancel_left htext
  have hbegins : ascii "a=ssrc:" <+: videoText api others otherId source certificate := by
    rw [← hrest]
    exact ⟨_, rfl⟩
  exact not_prefix_videoText (by decide) (by decide) hbegins

theorem hasVideo_of_videoText
    (htext : videoText api options streamId source certificate =
      videoText api others otherId source certificate)
    (hvideo : options.hasVideo = true) : others.hasVideo = true := by
  by_contra hother
  have hnone : videoText api others otherId source certificate = [] := by
    rw [videoText, if_neg hother]
  have hbegins := (List.prefix_append _ _).trans
    (@videoText_begins api options streamId source certificate hvideo)
  rw [htext, hnone] at hbegins
  exact absurd (List.prefix_nil.mp hbegins) (by decide)

theorem sendVideo_of_videoText
    (htext : videoText api options streamId source certificate =
      videoText api others otherId source certificate)
    (hsend : options.sendVideo = true) : others.sendVideo = true := by
  have hvideo := hasVideo_of_sendVideo hsend
  have hother := hasVideo_of_videoText htext hvideo
  by_contra hsilent
  have hbegins := @videoText_begins api options streamId source certificate hvideo
  have hotherBegins := @videoText_begins api others otherId source certificate hother
  rw [← htext, if_neg hsilent] at hotherBegins
  rw [if_pos hsend] at hbegins
  have happart : Apart (ascii "m=video 9 UDP/TLS/RTP/SAVPF" ++ [space])
      (ascii "m=video 9 UDP/TLS/RTP/SAVPF" ++ [cr]) := by
    decide
  exact happart.not_begins hotherBegins hbegins

theorem sectionsText_congr (haudio : options.hasAudio = others.hasAudio)
    (hvideo : options.hasVideo = others.hasVideo)
    (hsendAudio : options.sendAudio = others.sendAudio)
    (hsendVideo : options.sendVideo = others.sendVideo) :
    sectionsText api options streamId source certificate =
      sectionsText api others otherId source certificate := by
  have haudioLines : offeredLines api source certificate (audioContent options streamId source) =
      offeredLines api source certificate (audioContent others otherId source) := by
    rw [offeredLines_audioContent, offeredLines_audioContent, hsendAudio]
  have hvideoLines : offeredLines api source certificate (videoContent options streamId source) =
      offeredLines api source certificate (videoContent others otherId source) := by
    cases hsend : others.sendVideo <;>
      simp [offeredLines, mediaLines, mediaText, videoContent, hsendVideo, hsend, streamLines,
        ssrcText]
  simp only [sectionsText, audioText, videoText, haudio, hvideo, haudioLines, hvideoLines]

/-- Equal sections send the same media. -/
theorem alike_of_sectionsText
    (htext : sectionsText api options streamId source certificate =
      sectionsText api others otherId source certificate) :
    options.sendAudio = others.sendAudio ∧ options.sendVideo = others.sendVideo ∧
      options.hasAudio = others.hasAudio ∧ options.hasVideo = others.hasVideo := by
  have haudio : options.hasAudio = others.hasAudio := Bool.eq_iff_iff.mpr
    ⟨hasAudio_of_sectionsText htext, hasAudio_of_sectionsText htext.symm⟩
  have hsendAudio : options.sendAudio = others.sendAudio := Bool.eq_iff_iff.mpr
    ⟨sendAudio_of_sectionsText htext, sendAudio_of_sectionsText htext.symm⟩
  have haudioText : audioText api options streamId source certificate =
      audioText api others otherId source certificate := by
    simp only [audioText, haudio, offeredLines_audioContent, hsendAudio]
  rw [sectionsText, sectionsText, haudioText] at htext
  have hvideoText := List.append_cancel_left htext
  exact ⟨hsendAudio, Bool.eq_iff_iff.mpr
      ⟨sendVideo_of_videoText hvideoText, sendVideo_of_videoText hvideoText.symm⟩,
    haudio, Bool.eq_iff_iff.mpr
      ⟨hasVideo_of_videoText hvideoText, hasVideo_of_videoText hvideoText.symm⟩⟩

/-- Offers made with the same draws. -/
theorem printedText_offeredDesc_iff :
    printedText api (offeredDesc api options streamId source certificate) =
      printedText api (offeredDesc api others otherId source certificate) ↔
      PrintedAlike options others := by
  rw [printedText_offeredDesc, printedText_offeredDesc]
  constructor
  · intro htext
    obtain ⟨hnames, hsections⟩ := headerText_inj htext
    obtain ⟨hsendAudio, hsendVideo, haudio, hvideo⟩ := alike_of_sectionsText hsections
    exact ⟨hsendAudio, hsendVideo, haudio, hvideo,
      useRtpMux_of_offerNames haudio hvideo hnames⟩
  · rintro ⟨hsendAudio, hsendVideo, haudio, hvideo, hmux⟩
    have hnames : offerNames options = offerNames others := by
      rw [offerNames, offerNames, ← haudio, ← hvideo]
      cases hsomeAudio : options.hasAudio <;> cases hsomeVideo : options.hasVideo <;>
        simp_all
    rw [hnames]
    exact congrArg _ (sectionsText_congr haudio hvideo hsendAudio hsendVideo)

end Texts

/-! ### Other draws -/

section Draws

variable {api : TransportApi} {options others : RTCOfferAnswerOptions}
variable {streamId otherId : Bytes} {source otherSource : OfferSource}
variable {certificate otherCertificate : Certificate}

/-- The name of a section, and whether a stream of it has an SSRC. -/
def nameAndSending (content : ContentInfo) : Bytes × Bool :=
  (content.name, content.description.sendStreams.any fun stream => !stream.ssrcs.isEmpty)

theorem nameAndSending_of_contentLines {left right : SessionDescription}
    {content other : ContentInfo}
    (hlines : contentLines api left content = contentLines api right other) :
    nameAndSending content = nameAndSending other := by
  have hname := congrArg (linesWith kMidAttribute) hlines
  rw [linesWith_mid, linesWith_mid] at hname
  have hssrcs := congrArg (linesWith (ascii "a=ssrc:")) hlines
  rw [linesWith_ssrc, linesWith_ssrc] at hssrcs
  have hsending : ∀ streams : List StreamParams,
      (streams.any fun stream => !stream.ssrcs.isEmpty) =
        !(streams.flatMap fun stream => stream.ssrcs.map (ssrcText stream)).isEmpty := by
    intro streams
    induction streams with
    | nil => rfl
    | cons stream streams ih => cases hssrcs : stream.ssrcs <;> simp [ih, hssrcs]
  rw [nameAndSending, nameAndSending, hsending, hsending, hssrcs,
    List.append_cancel_left (List.singleton_inj.mp hname)]

theorem nameAndSending_audioContent :
    nameAndSending (audioContent options streamId source) = (kAudio, options.sendAudio) := by
  cases hsend : options.sendAudio <;> simp [nameAndSending, audioContent, hsend]

theorem nameAndSending_videoContent :
    nameAndSending (videoContent options streamId source) = (kVideo, options.sendVideo) := by
  cases hsend : options.sendVideo <;> simp [nameAndSending, videoContent, hsend]

/-- The sections of an offer. -/
def offeredSections (options : RTCOfferAnswerOptions) : List (Bytes × Bool) :=
  (if options.hasAudio then [(kAudio, options.sendAudio)] else []) ++
    (if options.hasVideo then [(kVideo, options.sendVideo)] else [])

theorem map_nameAndSending :
    (offerContents options streamId source).map nameAndSending = offeredSections options := by
  rw [offerContents, List.map_append, offeredSections]
  congr 1
  · split_ifs <;> simp [nameAndSending_audioContent]
  · split_ifs <;> simp [nameAndSending_videoContent]

theorem audio_mem_offeredSections {sending : Bool} :
    (kAudio, sending) ∈ offeredSections options ↔
      options.hasAudio = true ∧ sending = options.sendAudio := by
  cases haudio : options.hasAudio <;> cases hvideo : options.hasVideo <;>
    simp [offeredSections, haudio, hvideo, kVideo_ne_kAudio.symm]

theorem video_mem_offeredSections {sending : Bool} :
    (kVideo, sending) ∈ offeredSections options ↔
      options.hasVideo = true ∧ sending = options.sendVideo := by
  cases haudio : options.hasAudio <;> cases hvideo : options.hasVideo <;>
    simp [offeredSections, haudio, hvideo, kVideo_ne_kAudio]

/-- What one list of sections says about the options, the other says as well. -/
theorem alike_of_offeredSections (hsections : offeredSections options = offeredSections others) :
    options.sendAudio = others.sendAudio ∧ options.sendVideo = others.sendVideo ∧
      options.hasAudio = others.hasAudio ∧ options.hasVideo = others.hasVideo := by
  have haudio : ∀ sending, options.hasAudio = true ∧ sending = options.sendAudio ↔
      others.hasAudio = true ∧ sending = others.sendAudio := by
    intro sending
    rw [← audio_mem_offeredSections, ← audio_mem_offeredSections, hsections]
  have hvideo : ∀ sending, options.hasVideo = true ∧ sending = options.sendVideo ↔
      others.hasVideo = true ∧ sending = others.sendVideo := by
    intro sending
    rw [← video_mem_offeredSections, ← video_mem_offeredSections, hsections]
  have hsendAudio : ∀ options : RTCOfferAnswerOptions,
      options.sendAudio = true ↔ options.hasAudio = true ∧ true = options.sendAudio :=
    fun _ => ⟨fun hsend => ⟨hasAudio_of_sendAudio hsend, hsend.symm⟩, fun hsend => hsend.2.symm⟩
  have hsendVideo : ∀ options : RTCOfferAnswerOptions,
      options.sendVideo = true ↔ options.hasVideo = true ∧ true = options.sendVideo :=
    fun _ => ⟨fun hsend => ⟨hasVideo_of_sendVideo hsend, hsend.symm⟩, fun hsend => hsend.2.symm⟩
  refine ⟨?_, ?_, ?_, ?_⟩
  · rw [Bool.eq_iff_iff, hsendAudio, hsendAudio, haudio]
  · rw [Bool.eq_iff_iff, hsendVideo, hsendVideo, hvideo]
  · rw [Bool.eq_iff_iff]
    exact ⟨fun hhas => ((haudio _).mp ⟨hhas, rfl⟩).1, fun hhas => ((haudio _).mpr ⟨hhas, rfl⟩).1⟩
  · rw [Bool.eq_iff_iff]
    exact ⟨fun hhas => ((hvideo _).mp ⟨hhas, rfl⟩).1, fun hhas => ((hvideo _).mpr ⟨hhas, rfl⟩).1⟩

/-- Whatever is drawn, offers with one text have the same sections and send the same. -/
theorem printedAlike_of_toString {text : Bytes}
    (hfree : LineFree api (offeredDesc api options streamId source certificate))
    (hother : LineFree api (offeredDesc api others otherId otherSource otherCertificate))
    (hprint : (offeredDesc api options streamId source certificate).toString api = .ok text)
    (hprintOther :
      (offeredDesc api others otherId otherSource otherCertificate).toString api = .ok text) :
    PrintedAlike options others := by
  obtain ⟨hheader, hsections⟩ := sections_of_toString hfree hother hprint hprintOther
  have hnames : offerNames options = offerNames others := by
    have htexts : headerText (offerNames options) ++ [] = headerText (offerNames others) ++ [] := by
      rw [← @bundleNames_offeredDesc api options streamId source certificate,
        ← @bundleNames_offeredDesc api others otherId otherSource otherCertificate]
      exact congrArg (fun lines => terminated lines ++ []) hheader
    exact (headerText_inj htexts).1
  have hsending : (offerContents options streamId source).map nameAndSending =
      (offerContents others otherId otherSource).map nameAndSending := by
    rw [← List.forall₂_eq_eq_eq, List.forall₂_map_left_iff, List.forall₂_map_right_iff]
    exact hsections.imp fun _ _ hlines => nameAndSending_of_contentLines hlines
  rw [map_nameAndSending, map_nameAndSending] at hsending
  obtain ⟨hsendAudio, hsendVideo, haudio, hvideo⟩ := alike_of_offeredSections hsending
  exact ⟨hsendAudio, hsendVideo, haudio, hvideo, useRtpMux_of_offerNames haudio hvideo hnames⟩

end Draws

/-! ## The offers of `create_offer` -/

/-- `create_offer` can return this text, and the description it has then made. -/
def Offers (api : TransportApi) (options : RTCOfferAnswerOptions) (source : OfferSource)
    (desc : SessionDescription) (text : Bytes) : Prop :=
  ∃ (connection after : P2pPeerConnection) (caller : Caller) (streamId : Bytes),
    localDesc api options streamId source = .ok desc ∧
      connection.createOffer api caller options streamId source = .ok (after, text)

theorem hasParameters_offeredDesc {api : TransportApi} {options : RTCOfferAnswerOptions}
    {streamId : Bytes} {source : OfferSource} {certificate : Certificate} :
    ∀ content ∈ (offeredDesc api options streamId source certificate).contents,
      HasParameters content := by
  have hall : ∀ codec ∈ [audioCodec, videoCodec, videoRtxCodec],
      codec.params.isEmpty = false := by
    decide
  exact fun content hcontent codec hcodec =>
    hall codec (codecs_subset_of_mem_offerContents hcontent hcodec)

theorem Offers.offeredDesc_eq {api : TransportApi} {options : RTCOfferAnswerOptions}
    {source : OfferSource} {desc : SessionDescription} {text : Bytes}
    (hoffers : Offers api options source desc text) :
    ∃ streamId, desc = offeredDesc api options streamId source (source.certificate.getD []) ∧
      desc.toString api = .ok text := by
  obtain ⟨connection, after, caller, streamId, hdesc, hoffer⟩ := hoffers
  refine ⟨streamId, ?_, ?_⟩
  · by_cases hcontents : offerContents options streamId source = []
    · simp [localDesc, hcontents, pure, Except.pure, bind, Except.bind] at hdesc
      rw [← hdesc]
      simp [offeredDesc, hcontents]
    · obtain ⟨certificate, hcertificate, rfl⟩ := localDesc_eq_ok hcontents hdesc
      rw [hcertificate, Option.getD_some]
  · obtain ⟨made, hmade, hrest⟩ := except_bind_eq_ok_iff.mp hoffer
    obtain ⟨network, -, hresult⟩ := except_bind_eq_ok_iff.mp hrest
    obtain ⟨printed, hprinted, hpair⟩ := except_bind_eq_ok_iff.mp hresult
    obtain ⟨-, rfl⟩ := Prod.mk.inj (Except.ok.inj hpair)
    obtain rfl := Except.ok.inj (hdesc.symm.trans hmade)
    exact hprinted

/-- Called away from the network thread, `create_offer` returns. -/
theorem offers_printedText {api : TransportApi} {options : RTCOfferAnswerOptions}
    {source : OfferSource} {certificate : Certificate}
    (hcertificate : source.certificate = some certificate) (streamId : Bytes) :
    Offers api options source (offeredDesc api options streamId source certificate)
      (printedText api (offeredDesc api options streamId source certificate)) := by
  have hdesc : localDesc api options streamId source =
      .ok (offeredDesc api options streamId source certificate) :=
    localDesc_of_certificate hcertificate
  have hprint : (offeredDesc api options streamId source certificate).toString api =
      .ok (printedText api (offeredDesc api options streamId source certificate)) :=
    toString_eq_ok_iff.mpr ⟨hasParameters_offeredDesc, rfl⟩
  have hoffer : ∃ after, P2pPeerConnection.createOffer api {} .otherThread options streamId
      source = .ok (after,
        printedText api (offeredDesc api options streamId source certificate)) :=
    ⟨_, except_bind_eq_ok_iff.mpr ⟨_, hdesc, except_bind_eq_ok_iff.mpr
      ⟨_, rfl, except_bind_eq_ok_iff.mpr ⟨_, hprint, rfl⟩⟩⟩⟩
  obtain ⟨after, hafter⟩ := hoffer
  exact ⟨{}, after, .otherThread, streamId, hdesc, hafter⟩

/-- The text says nothing else about the media: only a description without sections
is determined by it, descriptions with one text agree exactly on what is printed,
and offers with one text may differ in what they receive and in `use_rtcp_mux`. -/
theorem text_determines_iff (api : TransportApi) :
    (∀ desc : SessionDescription, (∀ content ∈ desc.contents, HasParameters content) →
      (desc.contents = [] → LineFree api desc) →
      (Determines api desc ↔ desc.contents = [])) ∧
    (∀ (left right : SessionDescription) (text : Bytes), LineFree api left →
      LineFree api right → left.toString api = .ok text → right.toString api = .ok text →
      List.Forall₂ SamePrinted left.contents right.contents ∧
        (SameSemantics left right ↔
          List.Forall₂ SameUnprinted left.contents right.contents)) ∧
    (∀ options others source left right text otherText,
      Offers api options source left text → Offers api others source right otherText →
      (text = otherText ↔ PrintedAlike options others)) ∧
    ∀ options others source otherSource left right text, LineFree api left →
      LineFree api right → Offers api options source left text →
      Offers api others otherSource right text → PrintedAlike options others := by
  refine ⟨fun desc => determines_iff, ?_, ?_, ?_⟩
  · intro left right text hleft hright hprint hother
    have hprinted := samePrinted_of_toString hleft hright hprint hother
    exact ⟨hprinted, sameSemantics_iff hprinted⟩
  · intro options others source left right text otherText hoffer hother
    obtain ⟨streamId, rfl, hprint⟩ := hoffer.offeredDesc_eq
    obtain ⟨otherId, rfl, hprintOther⟩ := hother.offeredDesc_eq
    rw [(toString_eq_ok_iff.mp hprint).2, (toString_eq_ok_iff.mp hprintOther).2]
    exact printedText_offeredDesc_iff
  · intro options others source otherSource left right text hleft hright hoffer hother
    obtain ⟨streamId, rfl, hprint⟩ := hoffer.offeredDesc_eq
    obtain ⟨otherId, rfl, hprintOther⟩ := hother.offeredDesc_eq
    exact printedAlike_of_toString hleft hright hprint hprintOther

/-- Audio that is only sent, and RTCP apart. -/
def sendAudioOnly : RTCOfferAnswerOptions where
  recvAudio := false
  useRtcpMux := false

def digestSource : OfferSource :=
  { sampleSource with certificate := some sampleDigest }

/-- The default offer and one that does not receive audio have the same text. -/
theorem receiving_not_printed :
    ∃ left right text, Offers rfc4572Api {} digestSource left text ∧
      Offers rfc4572Api sendAudioOnly digestSource right text ∧
      (∀ content ∈ left.contents ++ right.contents, HasParameters content) ∧
      LineFree rfc4572Api left ∧ LineFree rfc4572Api right ∧ ¬ SameSemantics left right := by
  have hsource : PrintableSource rfc4572Api digestSource sampleDigest :=
    ⟨printableSource_sample.cname, printableSource_sample.ufrag, printableSource_sample.pwd,
      printableSource_sample.fingerprint⟩
  have hfree : ∀ options : RTCOfferAnswerOptions, options.hasAudio = true →
      LineFree rfc4572Api
        (offeredDesc rfc4572Api options (ascii "stream") digestSource sampleDigest) := by
    intro options haudio
    obtain ⟨contents, hcontents⟩ := offerContents_of_audio (ascii "stream") digestSource haudio
    exact (printable_offeredDesc hsource (by rw [hcontents]; exact List.cons_ne_nil _ _)).lineFree
      printsAttributes_rfc4572Api
  have halike : PrintedAlike {} sendAudioOnly := ⟨rfl, rfl, rfl, rfl, fun _ => rfl⟩
  refine ⟨offeredDesc rfc4572Api {} (ascii "stream") digestSource sampleDigest,
    offeredDesc rfc4572Api sendAudioOnly (ascii "stream") digestSource sampleDigest, _,
    offers_printedText rfl _, ?_, ?_, hfree _ rfl, hfree _ rfl, ?_⟩
  · rw [printedText_offeredDesc_iff.mpr halike]
    exact offers_printedText rfl _
  · intro content hcontent
    rcases List.mem_append.mp hcontent with hleft | hright
    · exact hasParameters_offeredDesc content hleft
    · exact hasParameters_offeredDesc content hright
  · intro hsame
    obtain ⟨haudio, -⟩ := List.forall₂_cons.mp hsame
    exact absurd haudio.direction (by decide)

end PeerConnection.Connection
