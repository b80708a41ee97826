import PeerConnection.Core.Runs
import PeerConnection.Sdp.Parse

/-!
# The lines of a printed description

`ToString` writes to one stream.  This file cuts what it writes into lines and
shows that the parser gets exactly these lines back, whenever no printed text
breaks a line.  A text that is free of "a=" cannot be mistaken for an attribute
either, so that most lines mean nothing to the parser.
-/

namespace PeerConnection.Sdp

open PeerConnection.Text
open PeerConnection.Runs

/-! ## Texts that cannot be mistaken for an attribute -/

/-- The beginning of every attribute line. -/
def kAttribute : Bytes := ascii "a="

/-- The texts that the parser searches for. -/
def markers : List Bytes :=
  [kBundleAttribute, kCandidateAttribute, kUfragAttribute, kPwdAttribute,
    kFingerprintAttribute]

/-- Free of CR, of LF and of the text "a=". -/
structure FreeText (text : Bytes) : Prop where
  cr : cr ∉ text
  lf : lf ∉ text
  noAttribute : ¬ Occurs kAttribute text

theorem freeText_iff {text : Bytes} :
    FreeText text ↔ cr ∉ text ∧ lf ∉ text ∧ ¬ Occurs kAttribute text :=
  ⟨fun hfree => ⟨hfree.cr, hfree.lf, hfree.noAttribute⟩, fun ⟨hcr, hlf, hattribute⟩ =>
    ⟨hcr, hlf, hattribute⟩⟩

instance : DecidablePred FreeText := fun _ => decidable_of_iff' _ freeText_iff

/-- A byte that can stand between two free texts. -/
def IsSeparator (byte : Byte) : Prop := byte ∉ cr :: lf :: kAttribute

instance : DecidablePred IsSeparator := fun byte =>
  inferInstanceAs (Decidable (byte ∉ cr :: lf :: kAttribute))

theorem freeText_append_cons {separator : Byte} (hseparator : IsSeparator separator)
    {left right : Bytes} :
    FreeText (left ++ separator :: right) ↔ FreeText left ∧ FreeText right := by
  have hne : ∀ byte ∈ cr :: lf :: kAttribute, byte ≠ separator := by
    rintro byte hbyte rfl
    exact hseparator hbyte
  have hattribute : ¬ Occurs kAttribute (left ++ separator :: right) ↔
      ¬ Occurs kAttribute left ∧ ¬ Occurs kAttribute right :=
    not_pair_infix_append_cons (hne 97 (by decide)).symm (hne 61 (by decide)).symm
  have hcr : cr ≠ separator := hne cr (by decide)
  have hlf : lf ≠ separator := hne lf (by decide)
  simp only [freeText_iff, hattribute, List.mem_append, List.mem_cons, not_or]
  tauto

theorem FreeText.append_front {front rest : Bytes} (hfront : FreeText front)
    (hlast : front.getLast? ≠ some 97) (hrest : FreeText rest) : FreeText (front ++ rest) where
  cr := by simp [hfront.cr, hrest.cr]
  lf := by simp [hfront.lf, hrest.lf]
  noAttribute := by
    have hpair : ∀ text, ¬ Occurs kAttribute text ↔
        text.IsChain fun left right => ¬ (left = 97 ∧ right = 61) := fun _ =>
      not_pair_infix_iff
    rw [hpair, List.isChain_append]
    refine ⟨(hpair _).mp hfront.noAttribute, (hpair _).mp hrest.noAttribute, ?_⟩
    rintro left hleft right hright ⟨rfl, _⟩
    exact hlast hleft

/-- Digits and signs are free. -/
theorem freeText_decimal (value : ℤ) : FreeText (decimal value) where
  cr := not_mem_decimal (by decide) (by decide) value
  lf := not_mem_decimal (by decide) (by decide) value
  noAttribute hattribute := by
    have hequals : (61 : Byte) ∈ decimal value := hattribute.subset (by decide)
    exact not_mem_decimal (by decide) (by decide) value hequals

theorem freeText_decimalNat (value : ℕ) : FreeText (decimalNat value) :=
  freeText_decimal value

def Unmarked (line : Bytes) : Prop := ∀ marker ∈ markers, ¬ Occurs marker line

instance : DecidablePred Unmarked := fun line =>
  inferInstanceAs (Decidable (∀ marker ∈ markers, ¬ Occurs marker line))

theorem kAttribute_prefix_of_mem_markers {marker : Bytes} (hmarker : marker ∈ markers) :
    kAttribute <+: marker := by
  have hall : ∀ marker ∈ markers, kAttribute <+: marker := by decide
  exact hall marker hmarker

theorem FreeText.unmarked {line : Bytes} (hfree : FreeText line) : Unmarked line :=
  fun _ hmarker hoccurs =>
    hfree.noAttribute ((kAttribute_prefix_of_mem_markers hmarker).isInfix.trans hoccurs)

/-- A marker occurs in a line with one "a=" only at its start. -/
theorem not_occurs_of_front {marker front rest : Bytes} (hmarker : marker ∈ markers)
    (hfront : ¬ marker <+: front ∧ ¬ front <+: marker)
    (hfree : FreeText (front.tail ++ rest)) : ¬ Occurs marker (front ++ rest) := by
  intro hoccurs
  cases front with
  | nil => exact hfront.2 (List.nil_prefix)
  | cons byte front =>
      rw [List.cons_append] at hoccurs
      rcases List.infix_cons_iff.mp hoccurs with hstart | htail
      · rcases List.prefix_or_prefix_of_prefix hstart
          (List.prefix_append (byte :: front) rest) with hshort | hlong
        · exact hfront.1 hshort
        · exact hfront.2 hlong
      · exact hfree.noAttribute
          ((kAttribute_prefix_of_mem_markers hmarker).isInfix.trans htail)

/-- A line that the parser ignores. -/
structure Plain (line : Bytes) : Prop where
  lf : lf ∉ line
  kind : ¬ StartsMediaLine line
  unmarked : Unmarked line

theorem plain_iff {line : Bytes} :
    Plain line ↔ lf ∉ line ∧ ¬ StartsMediaLine line ∧ Unmarked line :=
  ⟨fun hplain => ⟨hplain.lf, hplain.kind, hplain.unmarked⟩, fun ⟨hlf, hkind, hunmarked⟩ =>
    ⟨hlf, hkind, hunmarked⟩⟩

instance : DecidablePred Plain := fun _ => decidable_of_iff' _ plain_iff

/-- The beginning of an attribute line that no marker begins like. -/
def PlainFront (front : Bytes) : Prop :=
  front.head? = some 97 ∧ front.getLast? ≠ some 97 ∧ FreeText front.tail ∧
    ∀ marker ∈ markers, ¬ marker <+: front ∧ ¬ front <+: marker

instance : DecidablePred PlainFront := fun front =>
  inferInstanceAs (Decidable (front.head? = some 97 ∧ front.getLast? ≠ some 97 ∧
    FreeText front.tail ∧ ∀ marker ∈ markers, ¬ marker <+: front ∧ ¬ front <+: marker))

/-- What follows the "a" of an attribute line is free when its value is. -/
theorem freeText_tail_append {front rest : Bytes} (hlast : front.getLast? ≠ some 97)
    (hfront : FreeText front.tail) (hrest : FreeText rest) :
    FreeText (front.tail ++ rest) := by
  refine hfront.append_front ?_ hrest
  cases front with
  | nil => simp
  | cons byte front =>
      cases front with
      | nil => simp
      | cons next front => simpa using hlast

theorem plain_append {front rest : Bytes} (hfront : PlainFront front) (hrest : FreeText rest) :
    Plain (front ++ rest) := by
  obtain ⟨hhead, hlast, htail, hmarkers⟩ := hfront
  have hfree := freeText_tail_append hlast htail hrest
  refine ⟨?_, ?_, fun marker hmarker =>
    not_occurs_of_front hmarker (hmarkers marker hmarker) hfree⟩
  · cases front with
    | nil => simp at hhead
    | cons byte front =>
        obtain rfl := Option.some.inj hhead
        rw [List.cons_append, List.mem_cons, not_or]
        exact ⟨by decide, hfree.lf⟩
  · cases front with
    | nil => simp at hhead
    | cons byte front =>
        obtain rfl := Option.some.inj hhead
        simp [StartsMediaLine]

/-! ## What the printer writes, line by line -/

/-- Every line followed by CR LF. -/
def terminated (lines : List Bytes) : Bytes :=
  lines.flatMap fun line => line ++ crlf

@[simp]
theorem terminated_nil : terminated [] = [] := rfl

@[simp]
theorem terminated_cons (line : Bytes) (lines : List Bytes) :
    terminated (line :: lines) = line ++ (crlf ++ terminated lines) := by
  simp [terminated]

@[simp]
theorem terminated_append (left right : List Bytes) :
    terminated (left ++ right) = terminated left ++ terminated right := by
  simp [terminated]

theorem terminated_flatMap {α : Type*} (items : List α) (linesOf : α → List Bytes) :
    terminated (items.flatMap linesOf) = items.flatMap fun item => terminated (linesOf item) :=
  by simp [terminated, List.flatMap_assoc]

/-- Lines that hold no line feed are read back one by one. -/
theorem sdpFields_terminated {lines : List Bytes} (hne : lines ≠ [])
    (hlines : ∀ line ∈ lines, lf ∉ line) : sdpFields (terminated lines) = lines := by
  have hcrlf : Occurs crlf (terminated lines) := by
    obtain ⟨line, rest, rfl⟩ := List.exists_cons_of_ne_nil hne
    exact ⟨line, terminated rest, by simp⟩
  have hwords : terminated lines =
      (lines.map fun line => line ++ [cr]).flatMap fun word => word ++ [lf] := by
    simp [terminated, crlf, List.flatMap_map]
  have htokens : tokenize lf (terminated lines) = lines.map fun line => line ++ [cr] := by
    rw [hwords]
    refine tokenize_flatMap_terminated fun word hword => ?_
    obtain ⟨line, hline, rfl⟩ := List.mem_map.mp hword
    exact ⟨by simp, by simpa using ⟨hlines line hline, by decide⟩⟩
  rw [sdpFields, if_pos hcrlf, htokens, List.map_map]
  simp [Function.comp_def]

def rtpMapText (type : MediaType) (codec : Codec) : Bytes :=
  ascii "a=rtpmap:" ++ (decimal codec.id ++ space :: (codec.name ++ 47 ::
    (decimal codec.clockrate ++
      match type with
      | .audio => 47 :: decimalNat codec.channels
      | .video => [])))

def rtcpFbText (codec : Codec) (param : FeedbackParam) : Bytes :=
  ascii "a=rtcp-fb:" ++ (decimal codec.id ++ space ::
    (param.id ++ if param.param.isEmpty then [] else space :: param.param))

/-- The fmtp line of a codec with parameters. -/
def fmtpText (codec : Codec) : Bytes :=
  ascii "a=fmtp:" ++ (decimal codec.id ++ space :: (fmtpData codec).drop 1)

def codecLines (type : MediaType) (codec : Codec) : List Bytes :=
  rtpMapText type codec :: (codec.feedbackParams.map (rtcpFbText codec) ++ [fmtpText codec])

def ssrcGroupText (group : SsrcGroup) : Bytes :=
  ascii "a=ssrc-group:FID" ++ group.ssrcs.flatMap fun ssrc => space :: decimalNat ssrc.toNat

def ssrcText (stream : StreamParams) (ssrc : UInt32) : Bytes :=
  ascii "a=ssrc:" ++ (decimalNat ssrc.toNat ++ (ascii " cname:" ++ stream.cname))

def streamLines (stream : StreamParams) : List Bytes :=
  ((stream.ssrcGroups.filter fun group => !group.ssrcs.isEmpty).map ssrcGroupText) ++
    stream.ssrcs.map (ssrcText stream)

def ufragText (description : TransportDescription) : Bytes :=
  ascii "a=ice-ufrag" ++ colon :: description.iceUfrag

def pwdText (description : TransportDescription) : Bytes :=
  ascii "a=ice-pwd" ++ colon :: description.icePwd

def fingerprintText (api : TransportApi) (fp : SslFingerprint) : Bytes :=
  ascii "a=fingerprint:" ++ (fp.algorithm ++ space :: api.getRfc4572Fingerprint fp)

def setupText (api : TransportApi) (description : TransportDescription) : Bytes :=
  ascii "a=setup:" ++ api.connectionRoleToString description.connectionRole

def transportLines (api : TransportApi) (description : TransportDescription) : List Bytes :=
  [ufragText description, pwdText description, ascii "a=ice-options:trickle"] ++
    match description.identityFingerprint with
    | some fp => [fingerprintText api fp, setupText api description]
    | none => []

def mediaText (content : ContentInfo) : Bytes :=
  (ascii "m=" ++ content.name) ++ ([ascii "9", kMediaProtocolDtlsSavpf] ++
    content.description.codecs.map fun codec => decimal codec.id).flatMap (space :: ·)

/-- The lines of one section after its transport attributes. -/
def mediaLines (content : ContentInfo) : List Bytes :=
  [ascii "a=mid:" ++ content.name, ascii "a=sendonly"] ++
    content.description.codecs.flatMap (codecLines content.description.type) ++
    content.description.sendStreams.flatMap streamLines

/-- The lines of one section after its `m=` line. -/
def attributeLines (api : TransportApi) (desc : SessionDescription) (content : ContentInfo) :
    List Bytes :=
  [ascii "c=IN IP4 0.0.0.0", ascii "a=rtcp:9 IN IP4 0.0.0.0"] ++
    (match desc.getTransportInfoByName content.name with
      | some td => transportLines api td.description
      | none => []) ++ mediaLines content

def contentLines (api : TransportApi) (desc : SessionDescription) (content : ContentInfo) :
    List Bytes :=
  mediaText content :: attributeLines api desc content

/-- The content names of the BUNDLE group that is printed. -/
def bundleNames (desc : SessionDescription) : List Bytes :=
  ((desc.getGroupByName kBundle).map (·.contentNames)).getD []

def bundleGroupText (names : List Bytes) : Bytes :=
  kBundleAttribute ++ names.flatMap (space :: ·)

def headerLines (desc : SessionDescription) : List Bytes :=
  [ascii "v=0", ascii "o=- 0 2 IN IP4 127.0.0.1", ascii "s=-", ascii "t=0 0"] ++
    (if bundleNames desc = [] then [] else [bundleGroupText (bundleNames desc)]) ++
    [ascii "a=msid-semantic: WMS"]

def descriptionLines (api : TransportApi) (desc : SessionDescription) : List Bytes :=
  headerLines desc ++ desc.contents.flatMap (contentLines api desc)

/-! ### The stream -/

/-- Every codec of the section has a parameter to print. -/
def HasParameters (content : ContentInfo) : Prop :=
  ∀ codec ∈ content.description.codecs, codec.params.isEmpty = false

instance : DecidablePred HasParameters := fun content =>
  inferInstanceAs (Decidable (∀ codec ∈ content.description.codecs,
    codec.params.isEmpty = false))

theorem fmtpData_eq_nil_iff {codec : Codec} :
    fmtpData codec = [] ↔ codec.params.isEmpty = true := by
  rw [← Std.TreeMap.isEmpty_toList, List.isEmpty_iff, fmtpData, List.flatMap_eq_nil_iff]
  constructor
  · intro hall
    refine List.eq_nil_iff_forall_not_mem.mpr fun param hparam => ?_
    exact absurd (hall param hparam) (by simp [ascii])
  · intro hnil
    simp [hnil]

/-- Without parameters the `substr(1)` is out of range. -/
theorem addFmtpLine_eq_ok_iff {codec : Codec} {text : Bytes} :
    addFmtpLine codec = .ok text ↔
      codec.params.isEmpty = false ∧ text = fmtpText codec ++ crlf := by
  rw [← Bool.not_eq_true, ← fmtpData_eq_nil_iff]
  cases hdata : fmtpData codec with
  | nil => simp [addFmtpLine, hdata, substr, bind, Except.bind]
  | cons byte bytes =>
      have hsubstr : substr (fmtpData codec) 1 = .ok ((fmtpData codec).drop 1) := by
        simp [substr, hdata]
      have hline : addFmtpLine codec = .ok (fmtpText codec ++ crlf) := by
        simp [addFmtpLine, hsubstr, bind, Except.bind, pure, Except.pure, fmtpText, ascii,
          space]
      rw [hline, Except.ok.injEq, eq_comm]
      simp

theorem buildRtpMap_eq_ok_iff {type : MediaType} {codecs : List Codec} {text : Bytes} :
    buildRtpMap type codecs = .ok text ↔
      (∀ codec ∈ codecs, codec.params.isEmpty = false) ∧
        text = terminated (codecs.flatMap (codecLines type)) := by
  induction codecs generalizing text with
  | nil =>
      rw [buildRtpMap, Except.ok.injEq, eq_comm]
      simp
  | cons codec codecs ih =>
      have hmap : rtpMapLine type codec = rtpMapText type codec ++ crlf := by
        cases type <;> simp [rtpMapLine, rtpMapText, ascii, space]
      have hfeedback : addRtcpFbLine codec =
          terminated (codec.feedbackParams.map (rtcpFbText codec)) := by
        rw [addRtcpFbLine, terminated, List.flatMap_map]
        congr 1
        funext param
        by_cases hparam : param.param.isEmpty <;> simp [rtcpFbText, hparam, ascii, space]
      rw [buildRtpMap, except_bind_eq_ok_iff, List.forall_mem_cons]
      constructor
      · rintro ⟨fmtp, hfmtp, hrest⟩
        obtain ⟨rest, hcodecs, htext⟩ := except_bind_eq_ok_iff.mp hrest
        obtain rfl := Except.ok.inj htext
        obtain ⟨hparams, rfl⟩ := addFmtpLine_eq_ok_iff.mp hfmtp
        obtain ⟨hall, rfl⟩ := ih.mp hcodecs
        exact ⟨⟨hparams, hall⟩, by simp [hmap, hfeedback, codecLines]⟩
      · rintro ⟨⟨hparams, hall⟩, rfl⟩
        refine ⟨_, addFmtpLine_eq_ok_iff.mpr ⟨hparams, rfl⟩, ?_⟩
        refine except_bind_eq_ok_iff.mpr ⟨_, ih.mpr ⟨hall, rfl⟩, ?_⟩
        simp [hmap, hfeedback, codecLines, pure, Except.pure]

theorem buildSsrc_eq (streams : List StreamParams) :
    buildSsrc streams = terminated (streams.flatMap streamLines) := by
  have hgroups : ∀ groups : List SsrcGroup,
      (groups.flatMap fun group =>
        if group.ssrcs.isEmpty then []
        else
          ascii "a=ssrc-group:FID" ++
            (group.ssrcs.flatMap fun ssrc => ascii " " ++ decimalNat ssrc.toNat) ++ crlf) =
      terminated ((groups.filter fun group => !group.ssrcs.isEmpty).map ssrcGroupText) := by
    intro groups
    induction groups with
    | nil => rfl
    | cons group groups ih =>
        rw [List.flatMap_cons, ih]
        by_cases hempty : group.ssrcs.isEmpty
        · simp [hempty]
        · simp [hempty, ssrcGroupText, ascii, space]
  rw [terminated_flatMap, buildSsrc]
  congr 1
  funext stream
  rw [streamLines, terminated_append, ← hgroups]
  simp [terminated, List.flatMap_map, ssrcText]

theorem transportText_eq (api : TransportApi) (description : TransportDescription) :
    transportText api description = terminated (transportLines api description) := by
  cases hprint : description.identityFingerprint <;>
    simp [transportText, transportLines, hprint, ufragText, pwdText, fingerprintText,
      setupText, ascii, space, colon]

theorem contentText_eq_ok_iff {api : TransportApi} {desc : SessionDescription}
    {content : ContentInfo} {text : Bytes} :
    contentText api desc content = .ok text ↔
      HasParameters content ∧ text = terminated (contentLines api desc content) := by
  have hmedia : ascii "m=" ++ content.name ++ ascii " 9 " ++ kMediaProtocolDtlsSavpf ++
      fmt content.description = mediaText content := by
    simp [mediaText, fmt, List.flatMap_map, ascii, space]
  rw [contentText, except_bind_eq_ok_iff]
  constructor
  · rintro ⟨rtpMap, hrtpMap, htext⟩
    obtain ⟨hparams, rfl⟩ := buildRtpMap_eq_ok_iff.mp hrtpMap
    refine ⟨hparams, (Except.ok.inj htext).symm.trans ?_⟩
    rw [hmedia, buildSsrc_eq]
    cases hinfo : desc.getTransportInfoByName content.name <;>
      simp [contentLines, attributeLines, mediaLines, hinfo, transportText_eq]
  · rintro ⟨hparams, rfl⟩
    refine ⟨_, buildRtpMap_eq_ok_iff.mpr ⟨hparams, rfl⟩, ?_⟩
    rw [hmedia, buildSsrc_eq]
    cases hinfo : desc.getTransportInfoByName content.name <;>
      simp [contentLines, attributeLines, mediaLines, hinfo, transportText_eq, pure,
        Except.pure]

theorem contentsText_eq_ok_iff {api : TransportApi} {desc : SessionDescription}
    {contents : List ContentInfo} {text : Bytes} :
    contentsText api desc contents = .ok text ↔
      (∀ content ∈ contents, HasParameters content) ∧
        text = terminated (contents.flatMap (contentLines api desc)) := by
  induction contents generalizing text with
  | nil =>
      rw [contentsText, Except.ok.injEq, eq_comm]
      simp
  | cons content contents ih =>
      rw [contentsText, except_bind_eq_ok_iff, List.forall_mem_cons]
      constructor
      · rintro ⟨first, hfirst, hrest⟩
        obtain ⟨rest, hcontents, htext⟩ := except_bind_eq_ok_iff.mp hrest
        obtain rfl := Except.ok.inj htext
        obtain ⟨hparams, rfl⟩ := contentText_eq_ok_iff.mp hfirst
        obtain ⟨hall, rfl⟩ := ih.mp hcontents
        exact ⟨⟨hparams, hall⟩, by rw [List.flatMap_cons, terminated_append]⟩
      · rintro ⟨⟨hparams, hall⟩, rfl⟩
        refine ⟨_, contentText_eq_ok_iff.mpr ⟨hparams, rfl⟩, ?_⟩
        refine except_bind_eq_ok_iff.mpr ⟨_, ih.mpr ⟨hall, rfl⟩, ?_⟩
        rw [List.flatMap_cons, terminated_append]
        rfl

theorem bundleText_eq (desc : SessionDescription) :
    bundleText desc =
      terminated (if bundleNames desc = [] then []
        else [bundleGroupText (bundleNames desc)]) := by
  rw [bundleText, bundleNames]
  cases desc.getGroupByName kBundle with
  | none => simp
  | some group =>
      cases hnames : group.contentNames <;>
        simp [hnames, bundleGroupText, kBundleAttribute, ascii, space]

/-- `ToString` returns exactly when every codec has a parameter, and then it
writes these lines. -/
theorem toString_eq_ok_iff {api : TransportApi} {desc : SessionDescription} {text : Bytes} :
    desc.toString api = .ok text ↔
      (∀ content ∈ desc.contents, HasParameters content) ∧
        text = terminated (descriptionLines api desc) := by
  rw [SessionDescription.toString, except_bind_eq_ok_iff]
  constructor
  · rintro ⟨contents, hcontents, htext⟩
    obtain ⟨hparams, rfl⟩ := contentsText_eq_ok_iff.mp hcontents
    refine ⟨hparams, (Except.ok.inj htext).symm.trans ?_⟩
    simp [descriptionLines, headerLines, bundleText_eq]
  · rintro ⟨hparams, rfl⟩
    refine ⟨_, contentsText_eq_ok_iff.mpr ⟨hparams, rfl⟩, ?_⟩
    simp [descriptionLines, headerLines, bundleText_eq, pure, Except.pure]

end PeerConnection.Sdp
