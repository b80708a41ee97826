import PeerConnection.Sdp.PrintedValues

/-!
# Reading a printed description back

A printed section starts with its `m=` line, gives its ICE and DTLS attributes
once, and then lists its codecs and streams.  This file states when the parser
accepts the text, and that the attributes it ends with are those of the section
exactly when no fmtp line is mistaken for one.
-/

namespace PeerConnection.Sdp

open PeerConnection.Text
open PeerConnection.Scan

/-! ## The sections of a printed text -/

section Sections

variable {api : TransportApi} {desc : SessionDescription} {content : ContentInfo}

/-- The text that is printed, provided that `ToString` returns. -/
def printedText (api : TransportApi) (desc : SessionDescription) : Bytes :=
  terminated (descriptionLines api desc)

theorem labels_of_no_media {mode : Bytes} {lines : List Bytes}
    (hlines : ∀ line ∈ lines, ¬ IsMediaLine line) :
    labels nextSection mode lines = lines.map fun line => (mode, line) := by
  induction lines with
  | nil => rfl
  | cons line lines ih =>
      have hline : nextSection mode line = mode := if_neg (hlines line (by simp))
      rw [labels_cons, hline, ih fun other hother => hlines other (by simp [hother]),
        List.map_cons]

theorem foldl_nextSection_of_no_media {mode : Bytes} {lines : List Bytes}
    (hlines : ∀ line ∈ lines, ¬ IsMediaLine line) :
    lines.foldl nextSection mode = mode := by
  induction lines with
  | nil => rfl
  | cons line lines ih =>
      rw [List.foldl_cons, nextSection, if_neg (hlines line (by simp))]
      exact ih fun other hother => hlines other (by simp [hother])

/-- The lines after an `m=` line, in the order in which they are printed. -/
theorem PrintableContent.attributeLines_eq (api : TransportApi)
    (hcontent : PrintableContent desc content) :
    ∃ info fp, desc.getTransportInfoByName content.name = some info ∧
      PrintableTransport info.description ∧
      info.description.identityFingerprint = some fp ∧ IsShaFingerprint fp ∧
      attributeLines api desc content =
        [ascii "c=IN IP4 0.0.0.0", ascii "a=rtcp:9 IN IP4 0.0.0.0",
          ufragText info.description, pwdText info.description,
          ascii "a=ice-options:trickle", fingerprintText api fp,
          setupText api info.description] ++ mediaLines content := by
  obtain ⟨info, hinfo, htransport⟩ := hcontent.transport
  obtain ⟨fp, hprint, hfp⟩ := htransport.identityFingerprint
  refine ⟨info, fp, hinfo, htransport, hprint, hfp, ?_⟩
  simp [attributeLines, hinfo, transportLines, hprint]

/-- The lines that are the same in every section. -/
theorem plain_fixedLines : ∀ line ∈ [ascii "c=IN IP4 0.0.0.0", ascii "a=rtcp:9 IN IP4 0.0.0.0",
    ascii "a=ice-options:trickle"], Plain line := by
  decide

/-- A line after the `m=` line is an fmtp line or does not end the parse. -/
theorem reads_or_fmtp_of_mem (hapi : PrintsAttributes api)
    (hcontent : PrintableContent desc content) {line : Bytes}
    (hline : line ∈ attributeLines api desc content) :
    (∃ ufrag pwd fingerprint, Reads api line ufrag pwd fingerprint) ∨
      ∃ codec ∈ content.description.codecs, line = fmtpText codec := by
  obtain ⟨info, fp, _, htransport, _, hfp, hlines⟩ := hcontent.attributeLines_eq api
  rw [hlines] at hline
  rcases List.mem_append.mp hline with hattribute | hlater
  · refine Or.inl ?_
    simp only [List.mem_cons, List.not_mem_nil, or_false] at hattribute
    rcases hattribute with rfl | rfl | rfl | rfl | rfl | rfl | rfl
    · exact ⟨_, _, _, (plain_fixedLines _ (by simp)).reads⟩
    · exact ⟨_, _, _, (plain_fixedLines _ (by simp)).reads⟩
    · exact ⟨_, _, _, reads_ufragText htransport.iceUfrag⟩
    · exact ⟨_, _, _, reads_pwdText htransport.icePwd⟩
    · exact ⟨_, _, _, (plain_fixedLines _ (by simp)).reads⟩
    · exact ⟨_, _, _, reads_fingerprintText hapi hfp⟩
    · exact ⟨_, _, _, (plain_setupText hapi _).reads⟩
  · exact (plain_or_fmtp_of_mem_mediaLines hcontent hlater).imp_left
      fun hplain => ⟨_, _, _, hplain.reads⟩

theorem not_isMediaLine_of_mem_attributeLines (hapi : PrintsAttributes api)
    (hcontent : PrintableContent desc content) {line : Bytes}
    (hline : line ∈ attributeLines api desc content) : ¬ IsMediaLine line := by
  rcases reads_or_fmtp_of_mem hapi hcontent hline with ⟨_, _, _, hreads⟩ | ⟨codec, _, rfl⟩
  · exact hreads.media
  · exact not_isMediaLine_fmtpText

theorem lf_not_mem_of_mem_contentLines (hapi : PrintsAttributes api)
    (hcontent : PrintableContent desc content) {line : Bytes}
    (hline : line ∈ contentLines api desc content) : lf ∉ line := by
  rcases List.mem_cons.mp hline with rfl | hattribute
  · exact (freeText_mediaText hcontent).lf
  · rcases reads_or_fmtp_of_mem hapi hcontent hattribute with
      ⟨_, _, _, hreads⟩ | ⟨codec, hcodec, rfl⟩
    · exact hreads.lf
    · exact lf_not_mem_fmtpText (hcontent.codecs codec hcodec)

/-! ### The header -/

theorem headerLine_cases {line : Bytes}
    (hline : line ∈ headerLines desc) :
    Plain line ∨ bundleNames desc ≠ [] ∧ line = bundleGroupText (bundleNames desc) := by
  have hfixed : ∀ line ∈ [ascii "v=0", ascii "o=- 0 2 IN IP4 127.0.0.1", ascii "s=-",
      ascii "t=0 0", ascii "a=msid-semantic: WMS"], Plain line := by decide
  rw [headerLines, List.mem_append, List.mem_append] at hline
  rcases hline with (hfirst | hbundle) | hlast
  · exact Or.inl (hfixed line (List.mem_append_left [ascii "a=msid-semantic: WMS"] hfirst))
  · split_ifs at hbundle with hnames
    · simp at hbundle
    · exact Or.inr ⟨hnames, List.mem_singleton.mp hbundle⟩
  · exact Or.inl (hfixed line (List.mem_append_right [ascii "v=0",
      ascii "o=- 0 2 IN IP4 127.0.0.1", ascii "s=-", ascii "t=0 0"] hlast))

theorem Printable.bundleName_mem (hdesc : Printable desc) {name : Bytes}
    (hname : name ∈ bundleNames desc) : name ∈ [kAudio, kVideo] := by
  obtain ⟨content, hcontent, rfl⟩ := List.mem_map.mp (hdesc.bundle name hname)
  exact (hdesc.contents content hcontent).name_mem

theorem lf_not_mem_of_mem_headerLines (hdesc : Printable desc) {line : Bytes}
    (hline : line ∈ headerLines desc) : lf ∉ line := by
  rcases headerLine_cases hline with hplain | ⟨_, rfl⟩
  · exact hplain.lf
  · rw [bundleGroupText, List.mem_append, not_or]
    refine ⟨by decide, fun hmem => ?_⟩
    obtain ⟨name, hname, hmem⟩ := List.mem_flatMap.mp hmem
    have hall : ∀ name ∈ [kAudio, kVideo], lf ∉ space :: name := by decide
    exact hall name (hdesc.bundleName_mem hname) hmem

theorem not_isMediaLine_of_mem_headerLines {line : Bytes}
    (hline : line ∈ headerLines desc) : ¬ IsMediaLine line := by
  rcases headerLine_cases hline with hplain | ⟨_, rfl⟩
  · exact hplain.not_isMediaLine
  · exact not_isMediaLine_of_head rfl

/-! ### The labelled lines -/

theorem lf_not_mem_of_mem_descriptionLines (hapi : PrintsAttributes api)
    (hdesc : Printable desc) {line : Bytes} (hline : line ∈ descriptionLines api desc) :
    lf ∉ line := by
  rcases List.mem_append.mp hline with hheader | hcontents
  · exact lf_not_mem_of_mem_headerLines hdesc hheader
  · obtain ⟨content, hcontent, hline⟩ := List.mem_flatMap.mp hcontents
    exact lf_not_mem_of_mem_contentLines hapi (hdesc.contents content hcontent) hline

theorem sdpFields_printedText (hapi : PrintsAttributes api) (hdesc : Printable desc) :
    sdpFields (printedText api desc) = descriptionLines api desc :=
  sdpFields_terminated (by simp [descriptionLines, headerLines]) fun _ hline =>
    lf_not_mem_of_mem_descriptionLines hapi hdesc hline

theorem labels_contentLines (hapi : PrintsAttributes api)
    (hcontent : PrintableContent desc content) (mode : Bytes) :
    labels nextSection mode (contentLines api desc content) =
      (contentLines api desc content).map fun line => (content.name, line) := by
  rw [contentLines, labels_cons, nextSection_mediaText hcontent,
    labels_of_no_media fun _ hline => not_isMediaLine_of_mem_attributeLines hapi hcontent hline,
    List.map_cons]

theorem labels_contents (hapi : PrintsAttributes api) {contents : List ContentInfo}
    (hcontents : ∀ content ∈ contents, PrintableContent desc content) (mode : Bytes) :
    labels nextSection mode (contents.flatMap (contentLines api desc)) =
      contents.flatMap fun content =>
        (contentLines api desc content).map fun line => (content.name, line) := by
  induction contents generalizing mode with
  | nil => rfl
  | cons content contents ih =>
      rw [List.flatMap_cons, labels_append, labels_contentLines hapi (hcontents content (by simp)),
        ih (fun other hother => hcontents other (by simp [hother])), List.flatMap_cons]

/-- Every line of a section is labelled with the name of its content. -/
theorem sdpEntries_printedText (hapi : PrintsAttributes api) (hdesc : Printable desc) :
    sdpEntries (printedText api desc) =
      ((headerLines desc).map fun line => ([], line)) ++
        desc.contents.flatMap fun content =>
          (contentLines api desc content).map fun line => (content.name, line) := by
  have hheader : ∀ line ∈ headerLines desc, ¬ IsMediaLine line :=
    fun _ hline => not_isMediaLine_of_mem_headerLines hline
  rw [sdpEntries, sdpFields_printedText hapi hdesc, descriptionLines, labels_append,
    labels_of_no_media hheader, foldl_nextSection_of_no_media hheader,
    labels_contents hapi hdesc.contents]

theorem sectionLines_append (name : Bytes) (left right : List (Bytes × Bytes)) :
    sectionLines name (left ++ right) = sectionLines name left ++ sectionLines name right := by
  simp [sectionLines]

theorem sectionLines_map_label (name label : Bytes) (lines : List Bytes) :
    sectionLines name (lines.map fun line => (label, line)) =
      if label = name then lines else [] := by
  by_cases hlabel : label = name <;> simp [sectionLines, List.filter_map, hlabel,
    Function.comp_def]

/-- The section of a content has exactly the lines printed for it. -/
theorem sectionLines_printedText (hapi : PrintsAttributes api) (hdesc : Printable desc)
    (hcontent : content ∈ desc.contents) :
    sectionLines content.name (sdpEntries (printedText api desc)) =
      contentLines api desc content := by
  have hflat : ∀ contents : List ContentInfo, (contents.map (·.name)).Nodup →
      content ∈ contents →
      sectionLines content.name (contents.flatMap fun other =>
        (contentLines api desc other).map fun line => (other.name, line)) =
        contentLines api desc content := by
    intro contents hdistinct hmem
    have hother : ∀ others : List ContentInfo, content.name ∉ others.map (·.name) →
        sectionLines content.name (others.flatMap fun other =>
          (contentLines api desc other).map fun line => (other.name, line)) = [] := by
      intro others hothers
      induction others with
      | nil => rfl
      | cons other others ih =>
          rw [List.map_cons, List.mem_cons, not_or] at hothers
          rw [List.flatMap_cons, sectionLines_append, sectionLines_map_label,
            if_neg (Ne.symm hothers.1), ih hothers.2, List.nil_append]
    induction contents with
    | nil => simp at hmem
    | cons head contents ih =>
        rw [List.map_cons, List.nodup_cons] at hdistinct
        rw [List.flatMap_cons, sectionLines_append, sectionLines_map_label]
        rcases List.mem_cons.mp hmem with rfl | hlater
        · rw [if_pos rfl, hother contents hdistinct.1, List.append_nil]
        · have hne : head.name ≠ content.name := fun hsame =>
            hdistinct.1 (hsame ▸ List.mem_map_of_mem hlater)
          rw [if_neg hne, ih hdistinct.2 hlater, List.nil_append]
  have hname : [] ≠ content.name := by
    have hall : ∀ name ∈ [kAudio, kVideo], [] ≠ name := by decide
    exact hall _ (hdesc.contents content hcontent).name_mem
  rw [sdpEntries_printedText hapi hdesc, sectionLines_append, sectionLines_map_label,
    if_neg hname, List.nil_append]
  exact hflat desc.contents hdesc.distinct hcontent

/-! ### Acceptance -/

theorem lineVerdict_attributeLine {mode line : Bytes} (hmode : IsCollected mode)
    (hmedia : ¬ IsMediaLine line) : lineVerdict mode line = attributeVerdict line := by
  have hkind : mediaVerdict line = .pass := if_pos hmedia
  rw [lineVerdict_of_kind_pass hkind, if_pos hmode]

/-- The lines of a section pass when it has a codec and its fmtp lines pass. -/
theorem contentLines_pass_iff (hapi : PrintsAttributes api)
    (hcontent : PrintableContent desc content) :
    (∀ line ∈ contentLines api desc content, lineVerdict content.name line = .pass) ↔
      content.description.codecs ≠ [] ∧
        ∀ codec ∈ content.description.codecs, attributeVerdict (fmtpText codec) = .pass := by
  have hmedia : lineVerdict content.name (mediaText content) = .pass ↔
      content.description.codecs ≠ [] := by
    rw [← mediaVerdict_mediaText_pass_iff hcontent]
    by_cases hkind : mediaVerdict (mediaText content) = .pass
    · simp [lineVerdict_of_kind_pass hkind, hkind,
        (freeText_mediaText hcontent).unmarked.attributeVerdict]
    · rw [lineVerdict_of_kind_exit hkind]
  rw [contentLines, List.forall_mem_cons, hmedia]
  refine and_congr_right fun _ => ⟨fun hall codec hcodec => ?_, fun hall line hline => ?_⟩
  · have hline : fmtpText codec ∈ attributeLines api desc content :=
      List.mem_append_right _ (fmtpText_mem_mediaLines hcodec)
    have hpass := hall _ hline
    rwa [lineVerdict_attributeLine hcontent.isCollected not_isMediaLine_fmtpText] at hpass
  · rw [lineVerdict_attributeLine hcontent.isCollected
      (not_isMediaLine_of_mem_attributeLines hapi hcontent hline)]
    rcases reads_or_fmtp_of_mem hapi hcontent hline with ⟨_, _, _, hreads⟩ | ⟨codec, hcodec, rfl⟩
    · exact hreads.verdict
    · exact hall codec hcodec

/-- The text is accepted when every section has a codec and all fmtp lines
pass. -/
theorem firstExit_printedText_eq_none_iff (hapi : PrintsAttributes api)
    (hdesc : Printable desc) :
    firstExit lineVerdict (sdpEntries (printedText api desc)) = none ↔
      ∀ content ∈ desc.contents, content.description.codecs ≠ [] ∧
        ∀ codec ∈ content.description.codecs, attributeVerdict (fmtpText codec) = .pass := by
  have hheader : ∀ line ∈ headerLines desc, lineVerdict [] line = .pass := by
    intro line hline
    have hkind : mediaVerdict line = .pass := if_pos (not_isMediaLine_of_mem_headerLines hline)
    rw [lineVerdict_of_kind_pass hkind, if_neg (by decide)]
  rw [firstExit_eq_none_iff, sdpEntries_printedText hapi hdesc]
  simp only [List.mem_append, List.mem_map, List.mem_flatMap]
  constructor
  · intro hall content hcontent
    refine (contentLines_pass_iff hapi (hdesc.contents content hcontent)).mp fun line hline => ?_
    exact hall (content.name, line) (Or.inr ⟨content, hcontent, line, hline, rfl⟩)
  · rintro hall entry (⟨line, hline, rfl⟩ | ⟨content, hcontent, line, hline, rfl⟩)
    · exact hheader line hline
    · exact (contentLines_pass_iff hapi (hdesc.contents content hcontent)).mpr
        (hall content hcontent) line hline

/-! ### The values of a section -/

/-- A value written first is the last one when nothing follows it. -/
theorem getLastD_cons_eq_iff {α : Type*} {first initial : α} {later : List α}
    (hlater : ∀ value ∈ later, value ≠ first) :
    (first :: later).getLastD initial = first ↔ later = [] := by
  rw [List.getLastD_cons]
  cases hlast : later.getLast? with
  | none => simp [List.getLast?_eq_none_iff.mp hlast]
  | some value =>
      have hmem := List.mem_of_getLast? hlast
      rw [List.getLastD_eq_getLast?, hlast, Option.getD_some]
      exact ⟨fun hsame => absurd hsame (hlater value hmem),
        fun hnil => absurd hmem (by simp [hnil])⟩

/-- Of the lines after the transport attributes only fmtp lines give values. -/
theorem filterMap_mediaLines_eq_nil_iff {β : Type*} {valueOf : Bytes → Option β}
    (hplain : ∀ line, Plain line → valueOf line = none)
    (hcontent : PrintableContent desc content) :
    (mediaLines content).filterMap valueOf = [] ↔
      ∀ codec ∈ content.description.codecs, valueOf (fmtpText codec) = none := by
  rw [List.filterMap_eq_nil_iff]
  constructor
  · intro hall codec hcodec
    exact hall _ (fmtpText_mem_mediaLines hcodec)
  · intro hall line hline
    rcases plain_or_fmtp_of_mem_mediaLines hcontent hline with hline | ⟨codec, hcodec, rfl⟩
    · exact hplain line hline
    · exact hall codec hcodec

theorem mem_filterMap_mediaLines {β : Type*} {valueOf : Bytes → Option β}
    (hplain : ∀ line, Plain line → valueOf line = none)
    (hcontent : PrintableContent desc content) {value : β}
    (hvalue : value ∈ (mediaLines content).filterMap valueOf) :
    ∃ codec ∈ content.description.codecs, valueOf (fmtpText codec) = some value := by
  obtain ⟨line, hline, hread⟩ := List.mem_filterMap.mp hvalue
  rcases plain_or_fmtp_of_mem_mediaLines hcontent hline with hline | ⟨codec, hcodec, rfl⟩
  · exact absurd ((hplain line hline).symm.trans hread) (by simp)
  · exact ⟨codec, hcodec, hread⟩

/-- The values that the lines of a section give, up to its `mid` line. -/
theorem PrintableContent.filterMap_contentLines (hapi : PrintsAttributes api)
    (hcontent : PrintableContent desc content) :
    ∃ info fp, desc.getTransportInfoByName content.name = some info ∧
      PrintableTransport info.description ∧
      info.description.identityFingerprint = some fp ∧
      (contentLines api desc content).filterMap ufragOf =
        info.description.iceUfrag :: (mediaLines content).filterMap ufragOf ∧
      (contentLines api desc content).filterMap pwdOf =
        info.description.icePwd :: (mediaLines content).filterMap pwdOf ∧
      (contentLines api desc content).filterMap (fingerprintOf api) =
        some fp :: (mediaLines content).filterMap (fingerprintOf api) := by
  obtain ⟨info, fp, hinfo, htransport, hprint, hfp, hlines⟩ := hcontent.attributeLines_eq api
  have hunmarked := (freeText_mediaText hcontent).unmarked
  have hufrag := ufragOf_eq_none_iff.mpr hunmarked.ufrag
  have hpwd := (pwdOf_eq_none_iff hunmarked.ufrag).mpr hunmarked.pwd
  have hnone : fingerprintOf api (mediaText content) = none :=
    fingerprintOf_of_tokens (fingerprintTokens_of_not_occurs hunmarked.fingerprint)
  have hfirst : Reads api _ _ _ _ :=
    (plain_fixedLines (ascii "c=IN IP4 0.0.0.0") (by simp)).reads
  have hsecond : Reads api _ _ _ _ :=
    (plain_fixedLines (ascii "a=rtcp:9 IN IP4 0.0.0.0") (by simp)).reads
  have hoptions : Reads api _ _ _ _ :=
    (plain_fixedLines (ascii "a=ice-options:trickle") (by simp)).reads
  have hufragLine : Reads api _ _ _ _ := reads_ufragText htransport.iceUfrag
  have hpwdLine : Reads api _ _ _ _ := reads_pwdText htransport.icePwd
  have hprintLine := reads_fingerprintText hapi hfp
  have hsetup : Reads api _ _ _ _ := (plain_setupText hapi info.description).reads
  refine ⟨info, fp, hinfo, htransport, hprint, ?_, ?_, ?_⟩ <;>
    rw [contentLines, hlines] <;>
    simp only [List.cons_append, List.nil_append, List.filterMap_cons]
  · simp only [hufrag, hfirst.ufragOf, hsecond.ufragOf, hufragLine.ufragOf, hpwdLine.ufragOf,
      hoptions.ufragOf, hprintLine.ufragOf, hsetup.ufragOf]
  · simp only [hpwd, hfirst.pwdOf, hsecond.pwdOf, hufragLine.pwdOf, hpwdLine.pwdOf,
      hoptions.pwdOf, hprintLine.pwdOf, hsetup.pwdOf]
  · simp only [hnone, hfirst.fingerprintOf, hsecond.fingerprintOf, hufragLine.fingerprintOf,
      hpwdLine.fingerprintOf, hoptions.fingerprintOf, hprintLine.fingerprintOf,
      hsetup.fingerprintOf]

theorem Plain.ufragOf {line : Bytes} (hplain : Plain line) : ufragOf line = none :=
  ufragOf_eq_none_iff.mpr hplain.unmarked.ufrag

theorem Plain.pwdOf {line : Bytes} (hplain : Plain line) : pwdOf line = none :=
  (pwdOf_eq_none_iff hplain.unmarked.ufrag).mpr hplain.unmarked.pwd

theorem Plain.fingerprintOf {line : Bytes} (hplain : Plain line) :
    fingerprintOf api line = none :=
  fingerprintOf_of_tokens (fingerprintTokens_of_not_occurs hplain.unmarked.fingerprint)

/-- The sections without a mistaken fmtp line give their own attributes. -/
theorem sectionTransport_printedText (hapi : PrintsAttributes api) (hdesc : Printable desc)
    (hcontent : content ∈ desc.contents)
    (hharmless : ∀ codec ∈ content.description.codecs, FmtpHarmless (fmtpText codec)) :
    ∃ info, desc.getTransportInfoByName content.name = some info ∧
      sectionTransport api content.name (sdpEntries (printedText api desc)) =
        { iceUfrag := info.description.iceUfrag
          icePwd := info.description.icePwd
          identityFingerprint := info.description.identityFingerprint } := by
  have hprintable := hdesc.contents content hcontent
  obtain ⟨info, fp, hinfo, _, hprint, hufrag, hpwd, hfingerprint⟩ :=
    hprintable.filterMap_contentLines hapi
  have hnoUfrag : (mediaLines content).filterMap ufragOf = [] :=
    (filterMap_mediaLines_eq_nil_iff (fun _ hplain => hplain.ufragOf) hprintable).mpr
      fun codec hcodec => ufragOf_eq_none_iff.mpr (hharmless codec hcodec).1
  have hnoPwd : (mediaLines content).filterMap pwdOf = [] :=
    (filterMap_mediaLines_eq_nil_iff (fun _ hplain => hplain.pwdOf) hprintable).mpr
      fun codec hcodec => (pwdOf_eq_none_iff (hharmless codec hcodec).1).mpr
        (hharmless codec hcodec).2.1
  have hnoPrint : (mediaLines content).filterMap (fingerprintOf api) = [] :=
    (filterMap_mediaLines_eq_nil_iff (fun _ hplain => hplain.fingerprintOf) hprintable).mpr
      fun codec hcodec =>
        fingerprintOf_of_tokens (fingerprintTokens_of_harmless (hharmless codec hcodec))
  refine ⟨info, hinfo, ?_⟩
  rw [sectionTransport]
  simp only [lastInSection, sectionLines_printedText hapi hdesc hcontent, hufrag, hpwd,
    hfingerprint, hnoUfrag, hnoPwd, hnoPrint, hprint]
  rfl

/-- When all fmtp lines pass and the attributes are those of the section, no fmtp
line has been mistaken for one. -/
theorem fmtpHarmless_of_recovered (hapi : PrintsAttributes api) (hdesc : Printable desc)
    (hcontent : content ∈ desc.contents) {info : TransportInfo}
    (hinfo : desc.getTransportInfoByName content.name = some info)
    (hpass : ∀ codec ∈ content.description.codecs,
      attributeVerdict (fmtpText codec) = .pass)
    (hufrag : lastInSection content.name ufragOf (sdpEntries (printedText api desc)) [] =
      info.description.iceUfrag)
    (hpwd : lastInSection content.name pwdOf (sdpEntries (printedText api desc)) [] =
      info.description.icePwd) :
    ∀ codec ∈ content.description.codecs, FmtpHarmless (fmtpText codec) := by
  have hprintable := hdesc.contents content hcontent
  obtain ⟨other, fp, hother, htransport, _, hufrags, hpwds, _⟩ :=
    hprintable.filterMap_contentLines hapi
  obtain rfl := Option.some.inj (hinfo.symm.trans hother)
  rw [lastInSection, sectionLines_printedText hapi hdesc hcontent, hufrags,
    getLastD_cons_eq_iff] at hufrag
  · rw [lastInSection, sectionLines_printedText hapi hdesc hcontent, hpwds,
      getLastD_cons_eq_iff] at hpwd
    · intro codec hcodec
      have hnoUfrag := (filterMap_mediaLines_eq_nil_iff
        (fun _ hplain => hplain.ufragOf) hprintable).mp hufrag codec hcodec
      have hnoPwd := (filterMap_mediaLines_eq_nil_iff
        (fun _ hplain => hplain.pwdOf) hprintable).mp hpwd codec hcodec
      exact (fmtpHarmless_iff (hprintable.codecs codec hcodec)).mpr
        ⟨hpass codec hcodec, hnoUfrag, hnoPwd⟩
    · rintro value hvalue rfl
      obtain ⟨codec, _, hread⟩ := mem_filterMap_mediaLines (fun _ hplain => hplain.pwdOf)
        hprintable hvalue
      exact pwdOf_fmtpText_ne htransport.icePwd hread
  · rintro value hvalue rfl
    obtain ⟨codec, _, hread⟩ := mem_filterMap_mediaLines (fun _ hplain => hplain.ufragOf)
      hprintable hvalue
    exact ufragOf_fmtpText_ne htransport.iceUfrag hread

theorem hasSection_printedText (hapi : PrintsAttributes api) (hdesc : Printable desc)
    (hcontent : content ∈ desc.contents) :
    HasSection content.name (sdpEntries (printedText api desc)) := by
  refine ⟨mediaText content, ?_, isMediaLine_mediaText (hdesc.contents content hcontent)⟩
  rw [sectionLines_printedText hapi hdesc hcontent]
  exact List.mem_cons_self

/-- The payload type of a section is that of its first codec. -/
theorem acceptedPayload_printedText (hapi : PrintsAttributes api) (hdesc : Printable desc)
    (hcontent : content ∈ desc.contents) {codec : Codec} {codecs : List Codec}
    (hcodecs : content.description.codecs = codec :: codecs) (earlier : UInt8) :
    acceptedPayload content.name (printedText api desc) earlier = UInt8.ofInt codec.id := by
  have hprintable := hdesc.contents content hcontent
  have hnone : (attributeLines api desc content).filterMap mediaPayloadOf = [] := by
    rw [List.filterMap_eq_nil_iff]
    intro line hline
    exact if_neg (not_isMediaLine_of_mem_attributeLines hapi hprintable hline)
  rw [acceptedPayload, lastInSection, sectionLines_printedText hapi hdesc hcontent,
    contentLines, List.filterMap_cons, mediaPayloadOf_mediaText hprintable hcodecs, hnone]
  rfl

/-- An accepted text hands over no candidate exactly when no fmtp line looks like
one. -/
theorem acceptedCandidates_printedText_eq_nil_iff (hapi : PrintsAttributes api)
    (hdesc : Printable desc)
    (hpass : ∀ content ∈ desc.contents, ∀ codec ∈ content.description.codecs,
      parseCandidates (fmtpText codec) [] ≠ none) :
    acceptedCandidates (printedText api desc) = [] ↔
      ∀ content ∈ desc.contents, ∀ codec ∈ content.description.codecs,
        ¬ Occurs kCandidateAttribute (fmtpText codec) := by
  have hfmtp : ∀ content ∈ desc.contents, ∀ codec ∈ content.description.codecs,
      (sectionCandidates (content.name, fmtpText codec) = [] ↔
        ¬ Occurs kCandidateAttribute (fmtpText codec)) := by
    intro content hcontent codec hcodec
    have hsome := hpass content hcontent codec hcodec
    rw [sectionCandidates, if_pos (hdesc.contents content hcontent).isCollected]
    by_cases hoccurs : Occurs kCandidateAttribute (fmtpText codec)
    · refine iff_of_false ?_ (not_not.mpr hoccurs)
      rw [parseCandidates, if_neg (not_not.mpr hoccurs)] at hsome ⊢
      split_ifs at hsome ⊢
      · exact absurd rfl hsome
      · cases hcandidate : candidateOf (tokenize space (getAttribute (fmtpText codec))) with
        | none =>
            rw [hcandidate] at hsome
            exact absurd rfl hsome
        | some candidate => simp
    · simp [parseCandidates_of_not_occurs hoccurs, hoccurs]
  rw [acceptedCandidates, List.flatMap_eq_nil_iff, sdpEntries_printedText hapi hdesc]
  simp only [List.mem_append, List.mem_map, List.mem_flatMap]
  constructor
  · intro hall content hcontent codec hcodec
    have hline : fmtpText codec ∈ contentLines api desc content :=
      List.mem_cons_of_mem _
        (List.mem_append_right _ (fmtpText_mem_mediaLines hcodec))
    apply (hfmtp content hcontent codec hcodec).mp
    exact hall _ (Or.inr ⟨content, hcontent, fmtpText codec, hline, rfl⟩)
  · rintro hnone entry (⟨line, _, rfl⟩ | ⟨content, hcontent, line, hline, rfl⟩)
    · have hheader : ¬ IsCollected [] := by decide
      exact if_neg hheader
    · have hprintable := hdesc.contents content hcontent
      have hcandidate : ¬ Occurs kCandidateAttribute line ∨
          ∃ codec ∈ content.description.codecs, line = fmtpText codec := by
        rcases List.mem_cons.mp hline with rfl | hattribute
        · exact Or.inl (freeText_mediaText hprintable).unmarked.candidate
        · apply (reads_or_fmtp_of_mem hapi hprintable hattribute).imp_left
          rintro ⟨ufrag, pwd, fingerprint, hreads⟩
          exact hreads.candidate
      rcases hcandidate with hfree | ⟨codec, hcodec, rfl⟩
      · simp [sectionCandidates, parseCandidates_of_not_occurs hfree]
      · exact (hfmtp content hcontent codec hcodec).mpr (hnone content hcontent codec hcodec)

/-! ### The BUNDLE group -/

theorem bundleGroupOf_bundleGroupText (hdesc : Printable desc) (hnames : bundleNames desc ≠ []) :
    bundleGroupOf (bundleGroupText (bundleNames desc)) =
      some { semantics := kBundle, contentNames := bundleNames desc } := by
  have hoccurs : Occurs kBundleAttribute (bundleGroupText (bundleNames desc)) :=
    (List.prefix_append _ _).isInfix
  have htokens : tokenize space (bundleGroupText (bundleNames desc)) =
      kBundleAttribute :: bundleNames desc := by
    refine tokenize_word_flatMap_introduced fun word hword => ?_
    rcases List.mem_cons.mp hword with rfl | hname
    · decide
    · have hall : ∀ name ∈ [kAudio, kVideo], name ≠ [] ∧ space ∉ name := by decide
      exact hall word (hdesc.bundleName_mem hname)
  obtain ⟨name, names, hcons⟩ := List.exists_cons_of_ne_nil hnames
  rw [bundleGroupOf, if_pos hoccurs, htokens, hcons]

theorem semantics_of_bundleGroupOf {line : Bytes} {group : ContentGroup}
    (hgroup : bundleGroupOf line = some group) :
    group.semantics = kBundle ∧ group.contentNames ≠ [] := by
  rw [bundleGroupOf] at hgroup
  split_ifs at hgroup
  split at hgroup
  · obtain rfl := Option.some.inj hgroup
    exact ⟨rfl, by simp⟩
  · simp at hgroup

/-- The BUNDLE group is read back exactly when one is printed. -/
theorem getGroupByName_printedText_iff (hapi : PrintsAttributes api) (hdesc : Printable desc) :
    (∃ group, (acceptedDescription api (printedText api desc)).getGroupByName kBundle =
        some group ∧ group.contentNames = bundleNames desc) ↔
      bundleNames desc ≠ [] := by
  have hgroups : (acceptedDescription api (printedText api desc)).contentGroups =
      (descriptionLines api desc).filterMap bundleGroupOf := by
    rw [← sdpFields_printedText hapi hdesc]
    rfl
  rw [SessionDescription.getGroupByName, hgroups]
  constructor
  · rintro ⟨group, hfind, hnames⟩
    obtain ⟨line, _, hline⟩ := List.mem_filterMap.mp (List.mem_of_find?_eq_some hfind)
    rw [← hnames]
    exact (semantics_of_bundleGroupOf hline).2
  · intro hnames
    have hplain : ∀ line ∈ [ascii "v=0", ascii "o=- 0 2 IN IP4 127.0.0.1", ascii "s=-",
        ascii "t=0 0"], bundleGroupOf line = none := by decide
    have hheader : headerLines desc = [ascii "v=0", ascii "o=- 0 2 IN IP4 127.0.0.1",
        ascii "s=-", ascii "t=0 0"] ++ bundleGroupText (bundleNames desc) ::
          [ascii "a=msid-semantic: WMS"] := by
      rw [headerLines, if_neg hnames, List.append_assoc, List.singleton_append]
    have hfirst : [ascii "v=0", ascii "o=- 0 2 IN IP4 127.0.0.1", ascii "s=-",
        ascii "t=0 0"].filterMap bundleGroupOf = [] :=
      List.filterMap_eq_nil_iff.mpr hplain
    rw [descriptionLines, hheader, List.append_assoc, List.filterMap_append, hfirst,
      List.nil_append, List.cons_append, List.filterMap_cons,
      bundleGroupOf_bundleGroupText hdesc hnames]
    exact ⟨_, List.find?_cons_of_pos (by simp), rfl⟩

end Sections

end PeerConnection.Sdp
