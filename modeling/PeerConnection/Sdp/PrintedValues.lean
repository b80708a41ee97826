import PeerConnection.Sdp.Accepted
import PeerConnection.Sdp.PrintedLines

/-!
# What a printed line is read as

The descriptions that can be printed, and what the parser takes each of their
lines for.  The attributes of the transport are read for their values.  Of the
other lines only the fmtp lines can hold an "a=", namely where a parameter name
ends in "a", and only they can be mistaken for an attribute.
-/

namespace PeerConnection.Sdp

open PeerConnection.Text
open PeerConnection.Scan

/-! ## Descriptions that can be printed -/

/-- The characters of ICE user names and passwords. -/
def IsIceChar (byte : Byte) : Prop :=
  IsDigit byte ∨ (65 ≤ byte ∧ byte ≤ 90) ∨ (97 ≤ byte ∧ byte ≤ 122) ∨ byte = 43 ∨ byte = 47

instance : DecidablePred IsIceChar := fun byte =>
  inferInstanceAs (Decidable (IsDigit byte ∨ (65 ≤ byte ∧ byte ≤ 90) ∨
    (97 ≤ byte ∧ byte ≤ 122) ∨ byte = 43 ∨ byte = 47))

def IsIceText (text : Bytes) : Prop := text ≠ [] ∧ ∀ byte ∈ text, IsIceChar byte

instance : DecidablePred IsIceText := fun text =>
  inferInstanceAs (Decidable (text ≠ [] ∧ ∀ byte ∈ text, IsIceChar byte))

/-- The SHA digests with their lengths in bytes. -/
def shaDigests : List (Bytes × ℕ) :=
  [(ascii "sha-1", 20), (ascii "sha-224", 28), (ascii "sha-256", 32), (ascii "sha-384", 48),
    (ascii "sha-512", 64)]

def IsShaFingerprint (fp : SslFingerprint) : Prop :=
  (fp.algorithm, fp.digest.length) ∈ shaDigests

instance : DecidablePred IsShaFingerprint := fun fp =>
  inferInstanceAs (Decidable ((fp.algorithm, fp.digest.length) ∈ shaDigests))

/-- The bytes of a printed fingerprint. -/
def IsHexText (text : Bytes) : Prop :=
  text ≠ [] ∧ ∀ byte ∈ text, byte = colon ∨ IsDigit byte ∨ (65 ≤ byte ∧ byte ≤ 70)

/-- What the outside parts do according to their documentation: a fingerprint is
printed as hexadecimal pairs with colons and can be read back, and the roles have
their names. -/
structure PrintsAttributes (api : TransportApi) : Prop where
  hex : ∀ fp, IsShaFingerprint fp → IsHexText (api.getRfc4572Fingerprint fp)
  readBack : ∀ fp, IsShaFingerprint fp →
    api.createUniqueFromRfc4572 fp.algorithm (api.getRfc4572Fingerprint fp) = some fp
  role : ∀ role, api.connectionRoleToString role ∈
    [[], ascii "active", ascii "passive", ascii "actpass", ascii "holdconn"]

structure PrintableCodec (codec : Codec) : Prop where
  id : ∃ id : ℕ, codec.id = id ∧ id ≤ 127
  name : FreeText codec.name
  params : ∀ param ∈ codec.params.toList, FreeText param.1 ∧ FreeText param.2
  feedbackParams : ∀ param ∈ codec.feedbackParams, FreeText param.id ∧ FreeText param.param

structure PrintableTransport (description : TransportDescription) : Prop where
  iceUfrag : IsIceText description.iceUfrag
  icePwd : IsIceText description.icePwd
  identityFingerprint : ∃ fp, description.identityFingerprint = some fp ∧ IsShaFingerprint fp

structure PrintableContent (desc : SessionDescription) (content : ContentInfo) : Prop where
  kind : (content.name = kAudio ∧ content.description.type = .audio) ∨
    (content.name = kVideo ∧ content.description.type = .video)
  codecs : ∀ codec ∈ content.description.codecs, PrintableCodec codec
  streams : ∀ stream ∈ content.description.sendStreams, FreeText stream.cname
  transport : ∃ info, desc.getTransportInfoByName content.name = some info ∧
    PrintableTransport info.description

/-- At most one audio and one video section, each with its transport info, and
texts that cannot be mistaken for something else.  A BUNDLE group, if there is
one, holds names of contents. -/
structure Printable (desc : SessionDescription) : Prop where
  nonempty : desc.contents ≠ []
  distinct : (desc.contents.map (·.name)).Nodup
  contents : ∀ content ∈ desc.contents, PrintableContent desc content
  bundle : ∀ name ∈ bundleNames desc, name ∈ desc.contents.map (·.name)

/-! ## Lines without a marker -/

section Unmarked

variable {line : Bytes}

theorem Unmarked.bundle (hline : Unmarked line) : ¬ Occurs kBundleAttribute line :=
  hline _ (by simp [markers])

theorem Unmarked.candidate (hline : Unmarked line) : ¬ Occurs kCandidateAttribute line :=
  hline _ (by simp [markers])

theorem Unmarked.ufrag (hline : Unmarked line) : ¬ Occurs kUfragAttribute line :=
  hline _ (by simp [markers])

theorem Unmarked.pwd (hline : Unmarked line) : ¬ Occurs kPwdAttribute line :=
  hline _ (by simp [markers])

theorem Unmarked.fingerprint (hline : Unmarked line) : ¬ Occurs kFingerprintAttribute line :=
  hline _ (by simp [markers])

theorem parseCandidates_of_not_occurs (hline : ¬ Occurs kCandidateAttribute line) :
    parseCandidates line [] = some [] := if_pos hline

theorem ufragOf_eq_none_iff : ufragOf line = none ↔ ¬ Occurs kUfragAttribute line := by
  by_cases hline : Occurs kUfragAttribute line <;> simp [ufragOf, hline]

theorem pwdOf_eq_none_iff (hufrag : ¬ Occurs kUfragAttribute line) :
    pwdOf line = none ↔ ¬ Occurs kPwdAttribute line := by
  by_cases hline : Occurs kPwdAttribute line <;> simp [pwdOf, hufrag, hline]

theorem pwdOf_of_ufrag (hufrag : Occurs kUfragAttribute line) : pwdOf line = none := by
  simp [pwdOf, hufrag]

theorem fingerprintTokens_of_not_occurs (hline : ¬ Occurs kFingerprintAttribute line) :
    fingerprintTokens line = none := if_neg fun hall => hline hall.2.2

theorem fingerprintOf_of_tokens {api : TransportApi} (hline : fingerprintTokens line = none) :
    fingerprintOf api line = none := by
  rw [fingerprintOf, hline, Option.map_none]

theorem Unmarked.attributeVerdict (hline : Unmarked line) : attributeVerdict line = .pass := by
  refine attributeVerdict_pass_iff.mpr ⟨?_, ?_, ?_⟩
  · simp [parseCandidates_of_not_occurs hline.candidate]
  · simp [ufragOf_eq_none_iff.mpr hline.ufrag, (pwdOf_eq_none_iff hline.ufrag).mpr hline.pwd]
  · simp [fingerprintTokens_of_not_occurs hline.fingerprint]

theorem Plain.not_isMediaLine (hplain : Plain line) : ¬ IsMediaLine line :=
  fun hmedia => hplain.kind hmedia.2

end Unmarked

/-! ## The lines of a section -/

section Lines

variable {api : TransportApi}

theorem freeText_flatMap_space {front : Bytes} {words : List Bytes} (hfront : FreeText front)
    (hwords : ∀ word ∈ words, FreeText word) :
    FreeText (front ++ words.flatMap (space :: ·)) := by
  induction words generalizing front with
  | nil => simpa using hfront
  | cons word words ih =>
      rw [List.flatMap_cons, List.cons_append, freeText_append_cons (by decide)]
      exact ⟨hfront, ih (hwords word (by simp)) fun other hother =>
        hwords other (by simp [hother])⟩

theorem freeText_of_forall {text : Bytes}
    (htext : ∀ byte ∈ text, byte ∉ [cr, lf, 61]) : FreeText text where
  cr hcr := htext _ hcr (by decide)
  lf hlf := htext _ hlf (by decide)
  noAttribute hattribute := htext 61 (hattribute.subset (by decide)) (by decide)

theorem IsIceText.freeText {text : Bytes} (htext : IsIceText text) : FreeText text :=
  freeText_of_forall fun byte hbyte hbad => by
    have hchar := htext.2 byte hbyte
    have hnone : ∀ byte ∈ [cr, lf, 61], ¬ IsIceChar byte := by decide +kernel
    exact hnone byte hbad hchar

theorem IsIceText.not_mem {text : Bytes} (htext : IsIceText text) {byte : Byte}
    (hbyte : ¬ IsIceChar byte) : byte ∉ text := fun hmem => hbyte (htext.2 byte hmem)

theorem IsHexText.freeText {text : Bytes} (htext : IsHexText text) : FreeText text :=
  freeText_of_forall fun byte hbyte hbad => by
    have hnone : ∀ byte ∈ [cr, lf, 61],
        ¬ (byte = colon ∨ IsDigit byte ∨ (65 ≤ byte ∧ byte ≤ 70)) := by
      decide +kernel
    exact hnone byte hbad (htext.2 byte hbyte)

theorem IsShaFingerprint.algorithm_mem {fp : SslFingerprint} (hfp : IsShaFingerprint fp) :
    fp.algorithm ∈ shaDigests.map Prod.fst :=
  List.mem_map_of_mem hfp

/-! ### The lines that mean nothing to the parser -/

theorem plain_rtpMapText (type : MediaType) {codec : Codec} (hcodec : PrintableCodec codec) :
    Plain (rtpMapText type codec) := by
  refine plain_append (by decide) ?_
  rw [freeText_append_cons (by decide), freeText_append_cons (by decide)]
  refine ⟨freeText_decimal _, hcodec.name, ?_⟩
  cases type with
  | audio =>
      rw [freeText_append_cons (by decide)]
      exact ⟨freeText_decimal _, freeText_decimalNat _⟩
  | video => simpa using freeText_decimal _

theorem plain_rtcpFbText {codec : Codec} {param : FeedbackParam}
    (hid : FreeText param.id) (hparam : FreeText param.param) :
    Plain (rtcpFbText codec param) := by
  refine plain_append (by decide) ?_
  rw [freeText_append_cons (by decide)]
  refine ⟨freeText_decimal _, ?_⟩
  split_ifs
  · simpa using hid
  · rw [freeText_append_cons (by decide)]
    exact ⟨hid, hparam⟩

theorem plain_ssrcGroupText (group : SsrcGroup) : Plain (ssrcGroupText group) := by
  have hwords : ssrcGroupText group = ascii "a=ssrc-group:FID" ++
      (group.ssrcs.map fun ssrc => decimalNat ssrc.toNat).flatMap (space :: ·) := by
    simp [ssrcGroupText, List.flatMap_map]
  rw [hwords]
  refine plain_append (by decide) ?_
  rw [← List.nil_append (List.flatMap _ _)]
  refine freeText_flatMap_space (by decide) fun word hword => ?_
  obtain ⟨ssrc, _, rfl⟩ := List.mem_map.mp hword
  exact freeText_decimalNat _

theorem plain_ssrcText {stream : StreamParams} (hcname : FreeText stream.cname)
    (ssrc : UInt32) : Plain (ssrcText stream ssrc) := by
  refine plain_append (by decide) ?_
  have hline : decimalNat ssrc.toNat ++ (ascii " cname:" ++ stream.cname) =
      decimalNat ssrc.toNat ++ space :: (ascii "cname" ++ colon :: stream.cname) := rfl
  rw [hline, freeText_append_cons (by decide), freeText_append_cons (by decide)]
  exact ⟨freeText_decimalNat _, by decide, hcname⟩

theorem plain_setupText (hapi : PrintsAttributes api) (description : TransportDescription) :
    Plain (setupText api description) := by
  refine plain_append (by decide) ?_
  have hall : ∀ text ∈ [[], ascii "active", ascii "passive", ascii "actpass",
      ascii "holdconn"], FreeText text := by decide
  exact hall _ (hapi.role _)

/-- After the transport attributes only fmtp lines mean anything. -/
theorem plain_or_fmtp_of_mem_mediaLines {desc : SessionDescription} {content : ContentInfo}
    (hcontent : PrintableContent desc content) {line : Bytes}
    (hline : line ∈ mediaLines content) :
    Plain line ∨ ∃ codec ∈ content.description.codecs, line = fmtpText codec := by
  rw [mediaLines, List.mem_append, List.mem_append] at hline
  rcases hline with (hfixed | hcodec) | hstream
  · refine Or.inl ?_
    have hall : ∀ name ∈ [kAudio, kVideo],
        ∀ line ∈ [ascii "a=mid:" ++ name, ascii "a=sendonly"], Plain line := by
      decide
    have hname : content.name ∈ [kAudio, kVideo] := by
      rcases hcontent.kind with ⟨hname, _⟩ | ⟨hname, _⟩ <;> simp [hname]
    exact hall content.name hname line hfixed
  · obtain ⟨codec, hmem, hline⟩ := List.mem_flatMap.mp hcodec
    have hprintable := hcontent.codecs codec hmem
    rw [codecLines, List.mem_cons, List.mem_append, List.mem_singleton] at hline
    rcases hline with rfl | hfeedback | rfl
    · exact Or.inl (plain_rtpMapText _ hprintable)
    · obtain ⟨param, hparam, rfl⟩ := List.mem_map.mp hfeedback
      obtain ⟨hid, hvalue⟩ := hprintable.feedbackParams param hparam
      exact Or.inl (plain_rtcpFbText hid hvalue)
    · exact Or.inr ⟨codec, hmem, rfl⟩
  · obtain ⟨stream, hmem, hline⟩ := List.mem_flatMap.mp hstream
    refine Or.inl ?_
    rcases List.mem_append.mp hline with hgroup | hssrc
    · obtain ⟨group, _, rfl⟩ := List.mem_map.mp hgroup
      exact plain_ssrcGroupText group
    · obtain ⟨ssrc, _, rfl⟩ := List.mem_map.mp hssrc
      exact plain_ssrcText (hcontent.streams stream hmem) ssrc

theorem fmtpText_mem_mediaLines {content : ContentInfo} {codec : Codec}
    (hcodec : codec ∈ content.description.codecs) :
    fmtpText codec ∈ mediaLines content := by
  rw [mediaLines, List.mem_append, List.mem_append]
  refine Or.inl (Or.inr (List.mem_flatMap.mpr ⟨codec, hcodec, ?_⟩))
  simp [codecLines]

/-! ### What the other lines are read as -/

/-- A line that is read for these values and does not end the parse. -/
structure Reads (api : TransportApi) (line : Bytes) (ufrag pwd : Option Bytes)
    (fingerprint : Option (Option SslFingerprint)) : Prop where
  lf : lf ∉ line
  media : ¬ IsMediaLine line
  bundle : ¬ Occurs kBundleAttribute line
  candidate : ¬ Occurs kCandidateAttribute line
  ufragOf : ufragOf line = ufrag
  pwdOf : pwdOf line = pwd
  fingerprintOf : fingerprintOf api line = fingerprint
  verdict : attributeVerdict line = .pass

theorem Plain.reads {line : Bytes} (hplain : Plain line) : Reads api line none none none where
  lf := hplain.lf
  media := hplain.not_isMediaLine
  bundle := hplain.unmarked.bundle
  candidate := hplain.unmarked.candidate
  ufragOf := ufragOf_eq_none_iff.mpr hplain.unmarked.ufrag
  pwdOf := (pwdOf_eq_none_iff hplain.unmarked.ufrag).mpr hplain.unmarked.pwd
  fingerprintOf :=
    fingerprintOf_of_tokens (fingerprintTokens_of_not_occurs hplain.unmarked.fingerprint)
  verdict := hplain.unmarked.attributeVerdict

theorem not_isMediaLine_of_head {line : Bytes} (hhead : line.head? = some 97) :
    ¬ IsMediaLine line := by
  rintro ⟨_, hmedia⟩
  rw [StartsMediaLine, hhead] at hmedia
  exact absurd hmedia (by decide)

theorem getAttribute_append {front value : Bytes} (hfront : front ≠ [] ∧ colon ∉ front)
    (hvalue : value ≠ [] ∧ colon ∉ value) : getAttribute (front ++ colon :: value) = value := by
  rw [getAttribute, tokenize_word_append hfront.1 hfront.2,
    tokenize_word hvalue.1 hvalue.2]

/-- A line `a=…` that is read as none of the lists and ends no parse. -/
theorem reads_attribute {line rest : Bytes} {ufrag pwd : Option Bytes}
    {fingerprint : Option (Option SslFingerprint)} (hline : line = 97 :: rest)
    (hfree : FreeText rest) (hbundle : ¬ Occurs kBundleAttribute line)
    (hcandidate : ¬ Occurs kCandidateAttribute line) (hufrag : Sdp.ufragOf line = ufrag)
    (hpwd : Sdp.pwdOf line = pwd) (hfingerprint : Sdp.fingerprintOf api line = fingerprint)
    (hfilled : ufrag ≠ some [] ∧ pwd ≠ some [])
    (hlong : ∀ tokens ∈ fingerprintTokens line, 14 ≤ tokens.1.length) :
    Reads api line ufrag pwd fingerprint where
  lf := by
    rw [hline, List.mem_cons, not_or]
    exact ⟨by decide, hfree.lf⟩
  media := not_isMediaLine_of_head (by rw [hline, List.head?_cons])
  bundle := hbundle
  candidate := hcandidate
  ufragOf := hufrag
  pwdOf := hpwd
  fingerprintOf := hfingerprint
  verdict := by
    apply attributeVerdict_pass_iff.mpr
    rw [parseCandidates_of_not_occurs hcandidate, hufrag, hpwd, not_or]
    refine ⟨by simp, hfilled, ?_⟩
    rintro ⟨tokens, htokens, hshort⟩
    exact absurd hshort (hlong tokens htokens).not_gt

theorem reads_ufragText {description : TransportDescription}
    (hufrag : IsIceText description.iceUfrag) :
    Reads api (ufragText description) (some description.iceUfrag) none none := by
  have hfree : FreeText ((ascii "a=ice-ufrag").tail ++ colon :: description.iceUfrag) :=
    (freeText_append_cons (by decide)).mpr ⟨by decide, hufrag.freeText⟩
  have hoccurs : Occurs kUfragAttribute (ufragText description) :=
    (List.prefix_append _ _).isInfix
  have hvalue : Sdp.ufragOf (ufragText description) = some description.iceUfrag := by
    rw [Sdp.ufragOf, if_pos hoccurs, ufragText]
    exact congrArg some (getAttribute_append (by decide)
      ⟨hufrag.1, hufrag.not_mem (by decide)⟩)
  have htokens : fingerprintTokens (ufragText description) = none :=
    fingerprintTokens_eq_none (Or.inl hvalue)
  have hcandidate : ¬ Occurs kCandidateAttribute (ufragText description) :=
    not_occurs_of_front (by decide) (by decide) hfree
  have hline : ufragText description =
      97 :: ((ascii "a=ice-ufrag").tail ++ colon :: description.iceUfrag) := rfl
  apply reads_attribute hline hfree (not_occurs_of_front (by decide) (by decide) hfree)
    hcandidate hvalue (pwdOf_of_ufrag hoccurs) (fingerprintOf_of_tokens htokens)
  · simp [hufrag.1]
  · simp [htokens]

theorem reads_pwdText {description : TransportDescription}
    (hpwd : IsIceText description.icePwd) :
    Reads api (pwdText description) none (some description.icePwd) none := by
  have hfree : FreeText ((ascii "a=ice-pwd").tail ++ colon :: description.icePwd) :=
    (freeText_append_cons (by decide)).mpr ⟨by decide, hpwd.freeText⟩
  have hoccurs : Occurs kPwdAttribute (pwdText description) :=
    (List.prefix_append _ _).isInfix
  have hufrag : ¬ Occurs kUfragAttribute (pwdText description) :=
    not_occurs_of_front (by decide) (by decide) hfree
  have hvalue : Sdp.pwdOf (pwdText description) = some description.icePwd := by
    rw [Sdp.pwdOf, if_pos ⟨hufrag, hoccurs⟩, pwdText]
    exact congrArg some (getAttribute_append (by decide)
      ⟨hpwd.1, hpwd.not_mem (by decide)⟩)
  have htokens : fingerprintTokens (pwdText description) = none :=
    fingerprintTokens_eq_none (Or.inr hvalue)
  have hcandidate : ¬ Occurs kCandidateAttribute (pwdText description) :=
    not_occurs_of_front (by decide) (by decide) hfree
  have hline : pwdText description =
      97 :: ((ascii "a=ice-pwd").tail ++ colon :: description.icePwd) := rfl
  apply reads_attribute hline hfree (not_occurs_of_front (by decide) (by decide) hfree)
    hcandidate (ufragOf_eq_none_iff.mpr hufrag) hvalue (fingerprintOf_of_tokens htokens)
  · simp [hpwd.1]
  · simp [htokens]

theorem reads_fingerprintText (hapi : PrintsAttributes api) {fp : SslFingerprint}
    (hfp : IsShaFingerprint fp) :
    Reads api (fingerprintText api fp) none none (some (some fp)) := by
  have halgorithms : ∀ algorithm ∈ shaDigests.map Prod.fst, FreeText algorithm ∧
      space ∉ algorithm ∧ algorithm.map toLower = algorithm := by decide
  obtain ⟨halgorithm, hspace, hlower⟩ := halgorithms _ hfp.algorithm_mem
  have hhex := hapi.hex fp hfp
  have hfree : FreeText ((ascii "a=fingerprint:").tail ++
      (fp.algorithm ++ space :: api.getRfc4572Fingerprint fp)) :=
    freeText_tail_append (by decide) (by decide)
      ((freeText_append_cons (by decide)).mpr ⟨halgorithm, hhex.freeText⟩)
  have hoccurs : Occurs kFingerprintAttribute (fingerprintText api fp) :=
    ⟨[], colon :: (fp.algorithm ++ space :: api.getRfc4572Fingerprint fp), rfl⟩
  have hnone : ∀ marker ∈ [kBundleAttribute, kCandidateAttribute, kUfragAttribute,
      kPwdAttribute], ¬ Occurs marker (fingerprintText api fp) := by
    intro marker hmarker
    have hall : ∀ marker ∈ [kBundleAttribute, kCandidateAttribute, kUfragAttribute,
        kPwdAttribute], marker ∈ markers ∧ ¬ marker <+: ascii "a=fingerprint:" ∧
          ¬ ascii "a=fingerprint:" <+: marker := by decide
    obtain ⟨hmem, hfront⟩ := hall marker hmarker
    exact not_occurs_of_front hmem hfront hfree
  have hcandidate := hnone kCandidateAttribute (by simp)
  have hufrag := hnone kUfragAttribute (by simp)
  have hpwd := hnone kPwdAttribute (by simp)
  have htokens : fingerprintTokens (fingerprintText api fp) =
      some (ascii "a=fingerprint:" ++ fp.algorithm, api.getRfc4572Fingerprint fp) := by
    have hline : fingerprintText api fp =
        (ascii "a=fingerprint:" ++ fp.algorithm) ++
          space :: api.getRfc4572Fingerprint fp := by
      simp [fingerprintText]
    have hfirst : space ∉ ascii "a=fingerprint:" ++ fp.algorithm := by
      rw [List.mem_append, not_or]
      exact ⟨by decide, hspace⟩
    have hsecond : space ∉ api.getRfc4572Fingerprint fp :=
      fun hmem => absurd (hhex.2 space hmem) (by decide)
    rw [fingerprintTokens, if_pos ⟨hufrag, hpwd, hoccurs⟩, hline,
      tokenize_word_append (by simp [ascii]) hfirst, tokenize_word hhex.1 hsecond]
  have hvalue : Sdp.fingerprintOf api (fingerprintText api fp) = some (some fp) := by
    have hdrop : (ascii "a=fingerprint:" ++ fp.algorithm).drop 14 = fp.algorithm := rfl
    rw [Sdp.fingerprintOf, htokens, Option.map_some, hdrop, hlower, hapi.readBack fp hfp]
  have hline : fingerprintText api fp = 97 :: ((ascii "a=fingerprint:").tail ++
      (fp.algorithm ++ space :: api.getRfc4572Fingerprint fp)) := rfl
  apply reads_attribute hline hfree (hnone _ (by simp)) hcandidate
    (ufragOf_eq_none_iff.mpr hufrag) ((pwdOf_eq_none_iff hufrag).mpr hpwd) hvalue
  · simp
  · simp [htokens, ascii]

/-! ### The fmtp lines -/

/-- An fmtp line that the parser does not take for an attribute of the transport.
A candidate has to be complete, and a line that looks like a fingerprint must not
consist of two fields. -/
def FmtpHarmless (line : Bytes) : Prop :=
  ¬ Occurs kUfragAttribute line ∧ ¬ Occurs kPwdAttribute line ∧
    parseCandidates line [] ≠ none ∧
    (Occurs kFingerprintAttribute line → (tokenize space line).length ≠ 2)

instance : DecidablePred FmtpHarmless := fun line =>
  inferInstanceAs (Decidable (¬ Occurs kUfragAttribute line ∧ ¬ Occurs kPwdAttribute line ∧
    parseCandidates line [] ≠ none ∧
    (Occurs kFingerprintAttribute line → (tokenize space line).length ≠ 2)))

section Fmtp

variable {codec : Codec}

theorem lf_not_mem_fmtpText (hcodec : PrintableCodec codec) : lf ∉ fmtpText codec := by
  have hdata : lf ∉ fmtpData codec := by
    intro hmem
    obtain ⟨param, hparam, hmem⟩ := List.mem_flatMap.mp hmem
    obtain ⟨hname, hvalue⟩ := hcodec.params param hparam
    simp only [List.mem_append] at hmem
    rcases hmem with ((hsemicolon | hkey) | hequals) | hval
    · exact absurd hsemicolon (by decide)
    · exact hname.lf hkey
    · exact absurd hequals (by decide)
    · exact hvalue.lf hval
  rw [fmtpText, List.mem_append, List.mem_append, List.mem_cons, not_or, not_or, not_or]
  exact ⟨by decide, (freeText_decimal _).lf, by decide,
    fun hmem => hdata (List.mem_of_mem_drop hmem)⟩

theorem not_isMediaLine_fmtpText : ¬ IsMediaLine (fmtpText codec) :=
  not_isMediaLine_of_head rfl

/-- A value that an fmtp line would give holds the space after the payload
type. -/
theorem getAttribute_fmtpText_ne (codec : Codec) {value : Bytes} (hne : value ≠ [])
    (hspace : space ∉ value) : getAttribute (fmtpText codec) ≠ value := by
  rintro rfl
  have hline : fmtpText codec = ascii "a=fmtp" ++
      colon :: (decimal codec.id ++ space :: (fmtpData codec).drop 1) := rfl
  have htokens : tokenize colon (fmtpText codec) = ascii "a=fmtp" ::
      tokenize colon (decimal codec.id ++ space :: (fmtpData codec).drop 1) := by
    rw [hline]
    exact tokenize_word_append (by decide) (by decide)
  obtain ⟨token, htoken, hmem⟩ : ∃ token ∈ tokenize colon
      (decimal codec.id ++ space :: (fmtpData codec).drop 1), space ∈ token :=
    exists_token_of_mem (by simp) (by decide)
  rw [getAttribute, htokens] at hne hspace
  match hrest : tokenize colon (decimal codec.id ++ space :: (fmtpData codec).drop 1) with
  | [] =>
      rw [hrest] at htoken
      exact absurd htoken (by simp)
  | [only] =>
      rw [hrest, List.mem_singleton] at htoken
      rw [hrest] at hspace
      exact hspace (htoken ▸ hmem)
  | first :: second :: others =>
      rw [hrest] at hne
      exact hne rfl

theorem ufragOf_fmtpText_ne {value : Bytes} (hvalue : IsIceText value) :
    ufragOf (fmtpText codec) ≠ some value := by
  intro hread
  rw [ufragOf] at hread
  split_ifs at hread
  exact getAttribute_fmtpText_ne codec hvalue.1 (hvalue.not_mem (by decide))
    (Option.some.inj hread)

theorem pwdOf_fmtpText_ne {value : Bytes} (hvalue : IsIceText value) :
    pwdOf (fmtpText codec) ≠ some value := by
  intro hread
  rw [pwdOf] at hread
  split_ifs at hread
  exact getAttribute_fmtpText_ne codec hvalue.1 (hvalue.not_mem (by decide))
    (Option.some.inj hread)

/-- The first field of an fmtp line is too short for the `substr(14)` of the
fingerprint branch. -/
theorem fingerprintTokens_fmtpText_length (hcodec : PrintableCodec codec) {first value : Bytes}
    (htokens : fingerprintTokens (fmtpText codec) = some (first, value)) :
    first.length < 14 := by
  obtain ⟨id, hid, hbound⟩ := hcodec.id
  have hline : fmtpText codec =
      (ascii "a=fmtp:" ++ decimalNat id) ++ space :: (fmtpData codec).drop 1 := by
    simp [fmtpText, hid, decimal]
  have hspace : space ∉ ascii "a=fmtp:" ++ decimalNat id := by
    rw [List.mem_append, not_or]
    exact ⟨by decide, not_mem_decimalNat (by decide) id⟩
  rw [fingerprintTokens] at htokens
  split_ifs at htokens
  rw [hline, tokenize_word_append (by simp [ascii]) hspace] at htokens
  split at htokens
  · rename_i head rest hmatch
    obtain ⟨rfl, _⟩ := Prod.mk.inj (Option.some.inj htokens)
    have hlength : (decimalNat id).length ≤ 3 := length_decimalNat_le (by omega) (by omega)
    obtain ⟨rfl, _⟩ := List.cons.inj hmatch
    rw [List.length_append]
    have hfront : (ascii "a=fmtp:").length = 7 := rfl
    omega
  · simp at htokens

theorem fingerprintTokens_of_harmless {line : Bytes} (hline : FmtpHarmless line) :
    fingerprintTokens line = none := by
  obtain ⟨hufrag, hpwd, _, hlength⟩ := hline
  rw [fingerprintTokens]
  split_ifs with hprint
  · have hne := hlength hprint.2.2
    split
    · rename_i htokens
      simp [htokens] at hne
    · rfl
  · rfl

/-- The harmless fmtp lines are those that pass and give no user name or
password. -/
theorem fmtpHarmless_iff (hcodec : PrintableCodec codec) :
    FmtpHarmless (fmtpText codec) ↔
      attributeVerdict (fmtpText codec) = .pass ∧ ufragOf (fmtpText codec) = none ∧
        pwdOf (fmtpText codec) = none := by
  constructor
  · intro hharmless
    have hufrag := ufragOf_eq_none_iff.mpr hharmless.1
    have hpwd := (pwdOf_eq_none_iff hharmless.1).mpr hharmless.2.1
    have htokens := fingerprintTokens_of_harmless hharmless
    refine ⟨attributeVerdict_pass_iff.mpr ⟨hharmless.2.2.1, ?_, ?_⟩, hufrag, hpwd⟩
    · simp [hufrag, hpwd]
    · simp [htokens]
  · rintro ⟨hverdict, hufrag, hpwd⟩
    obtain ⟨hcandidates, _, hshort⟩ := attributeVerdict_pass_iff.mp hverdict
    have hufrag := ufragOf_eq_none_iff.mp hufrag
    have hpwd := (pwdOf_eq_none_iff hufrag).mp hpwd
    refine ⟨hufrag, hpwd, hcandidates, fun hprint hlength => ?_⟩
    obtain ⟨first, value, htokens⟩ := List.length_eq_two.mp hlength
    have hread : fingerprintTokens (fmtpText codec) = some (first, value) := by
      rw [fingerprintTokens, if_pos ⟨hufrag, hpwd, hprint⟩, htokens]
    exact hshort ⟨_, hread, fingerprintTokens_fmtpText_length hcodec hread⟩

end Fmtp

/-! ### The `m=` line -/

section Media

variable {desc : SessionDescription} {content : ContentInfo}

theorem PrintableContent.name_mem (hcontent : PrintableContent desc content) :
    content.name ∈ [kAudio, kVideo] := by
  rcases hcontent.kind with ⟨hname, _⟩ | ⟨hname, _⟩ <;> simp [hname]

theorem freeText_mediaText (hcontent : PrintableContent desc content) :
    FreeText (mediaText content) := by
  have hfronts : ∀ name ∈ [kAudio, kVideo], FreeText (ascii "m=" ++ name) := by
    decide
  have hwords : ∀ word ∈ [ascii "9", kMediaProtocolDtlsSavpf], FreeText word := by
    decide
  refine freeText_flatMap_space (hfronts _ hcontent.name_mem) fun word hword => ?_
  rcases List.mem_append.mp hword with hfixed | hid
  · exact hwords word hfixed
  · obtain ⟨codec, _, rfl⟩ := List.mem_map.mp hid
    exact freeText_decimal _

theorem isMediaLine_mediaText (hcontent : PrintableContent desc content) :
    IsMediaLine (mediaText content) :=
  ⟨(freeText_mediaText hcontent).unmarked.bundle, Or.inl rfl⟩

/-- The words of an `m=` line after its first one. -/
theorem mediaWords (content : ContentInfo) :
    ∀ word ∈ [ascii "9", kMediaProtocolDtlsSavpf] ++
      content.description.codecs.map fun codec => decimal codec.id,
      word ≠ [] ∧ space ∉ word := by
  have hfixed : ∀ word ∈ [ascii "9", kMediaProtocolDtlsSavpf], word ≠ [] ∧ space ∉ word := by
    decide
  intro word hword
  rcases List.mem_append.mp hword with hmem | hid
  · exact hfixed word hmem
  · obtain ⟨codec, -, rfl⟩ := List.mem_map.mp hid
    exact ⟨decimal_ne_nil _, not_mem_decimal (by decide) (by decide) _⟩

theorem tokenize_mediaText (hcontent : PrintableContent desc content) :
    tokenize space (mediaText content) = (ascii "m=" ++ content.name) :: ascii "9" ::
      kMediaProtocolDtlsSavpf :: content.description.codecs.map fun codec => decimal codec.id := by
  have hfronts : ∀ name ∈ [kAudio, kVideo], (ascii "m=" ++ name) ≠ [] ∧
      space ∉ ascii "m=" ++ name := by decide
  refine tokenize_word_flatMap_introduced fun word hword => ?_
  rcases List.mem_cons.mp hword with rfl | hlater
  · exact hfronts _ hcontent.name_mem
  · exact mediaWords content word hlater

theorem mediaName_mediaText (hcontent : PrintableContent desc content) :
    mediaName (mediaText content) = content.name := by
  rw [mediaName, tokenize_mediaText hcontent]
  rfl

theorem nextSection_mediaText (hcontent : PrintableContent desc content) (mode : Bytes) :
    nextSection mode (mediaText content) = content.name := by
  rw [nextSection, if_pos (isMediaLine_mediaText hcontent), mediaName_mediaText hcontent]

theorem PrintableContent.isCollected (hcontent : PrintableContent desc content) :
    IsCollected content.name := by
  rcases hcontent.kind with ⟨hname, _⟩ | ⟨hname, _⟩
  · exact isCollected_of_eq_kAudio hname
  · exact isCollected_of_eq_kVideo hname

/-- Without a codec there is no payload type to read. -/
theorem mediaVerdict_mediaText_pass_iff (hcontent : PrintableContent desc content) :
    mediaVerdict (mediaText content) = .pass ↔ content.description.codecs ≠ [] := by
  have hlength : ¬ (ascii "m=" ++ content.name).length < 2 := by
    simp [ascii]
  rw [mediaVerdict, if_neg (not_not.mpr (isMediaLine_mediaText hcontent)),
    tokenize_mediaText hcontent, mediaName_mediaText hcontent,
    if_neg (by simp), List.headD_cons, if_neg hlength]
  cases hcodecs : content.description.codecs with
  | nil => simp [hcontent.isCollected]
  | cons codec codecs => simp

theorem mediaPayloadOf_mediaText (hcontent : PrintableContent desc content) {codec : Codec}
    {codecs : List Codec} (hcodecs : content.description.codecs = codec :: codecs) :
    mediaPayloadOf (mediaText content) = some (UInt8.ofInt codec.id) := by
  obtain ⟨id, hid, _⟩ := (hcontent.codecs codec (by simp [hcodecs])).id
  rw [mediaPayloadOf, if_pos (isMediaLine_mediaText hcontent), payloadTypeOf,
    tokenize_mediaText hcontent, hcodecs]
  simp only [List.map_cons, List.getD_cons_succ, List.getD_cons_zero, hid, atoi_decimal]

end Media

end Lines

end PeerConnection.Sdp
