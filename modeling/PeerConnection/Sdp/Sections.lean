import PeerConnection.Sdp.Parse

/-!
# The sections of a remote description

The parser keeps the current section in one string.  Seen from the text, a line
belongs to the section that the last `m=` line up to it names, and everything
the parser does with a line is decided by the line and that name.  This file
states the verdict on a line and the values it carries as functions of the text
and proves that the parser computes exactly the fold of these values over the
labelled lines.
-/

namespace PeerConnection.Sdp

open PeerConnection.Text
open PeerConnection.Scan

/-! ## What one line says -/

/-- The line is handled by the `m=` branch. -/
def IsMediaLine (line : Bytes) : Prop :=
  ¬ Occurs kBundleAttribute line ∧ StartsMediaLine line

instance : DecidablePred IsMediaLine := fun line =>
  inferInstanceAs (Decidable (¬ Occurs kBundleAttribute line ∧ StartsMediaLine line))

/-- The name an `m=` line gives to its section. -/
def mediaName (line : Bytes) : Bytes :=
  ((tokenize space line).headD []).drop 2

def nextSection (current line : Bytes) : Bytes :=
  if IsMediaLine line then mediaName line else current

def payloadTypeOf (line : Bytes) : UInt8 :=
  UInt8.ofInt (atoi ((tokenize space line).getD 3 []))

def bundleGroupOf (line : Bytes) : Option ContentGroup :=
  if Occurs kBundleAttribute line then
    match tokenize space line with
    | _ :: name :: names => some { semantics := kBundle, contentNames := name :: names }
    | _ => none
  else none

def ufragOf (line : Bytes) : Option Bytes :=
  if Occurs kUfragAttribute line then some (getAttribute line) else none

def pwdOf (line : Bytes) : Option Bytes :=
  if ¬ Occurs kUfragAttribute line ∧ Occurs kPwdAttribute line then
    some (getAttribute line)
  else none

/-- The two tokens of a line that the fingerprint branch decodes. -/
def fingerprintTokens (line : Bytes) : Option (Bytes × Bytes) :=
  if ¬ Occurs kUfragAttribute line ∧ ¬ Occurs kPwdAttribute line ∧
      Occurs kFingerprintAttribute line then
    match tokenize space line with
    | [first, value] => some (first, value)
    | _ => none
  else none

def fingerprintOf (api : TransportApi) (line : Bytes) : Option (Option SslFingerprint) :=
  (fingerprintTokens line).map fun tokens =>
    api.createUniqueFromRfc4572 ((tokens.1.drop 14).map toLower) tokens.2

/-- The names of the two sections the parser collects attributes for. -/
def IsCollected (mid : Bytes) : Prop := mid = kAudio ∨ mid = kVideo

instance : DecidablePred IsCollected := fun mid =>
  inferInstanceAs (Decidable (mid = kAudio ∨ mid = kVideo))

theorem isCollected_of_eq_kAudio {mid : Bytes} (hmid : mid = kAudio) : IsCollected mid :=
  Or.inl hmid

theorem isCollected_of_eq_kVideo {mid : Bytes} (hmid : mid = kVideo) : IsCollected mid :=
  Or.inr hmid

/-! ## How one line can end the parse -/

def mediaVerdict (line : Bytes) : Verdict :=
  if ¬ IsMediaLine line then .pass
  else if (tokenize space line).length ≤ 2 then .reject
  else if ((tokenize space line).headD []).length < 2 then .invalid
  else if IsCollected (mediaName line) ∧ (tokenize space line).length ≤ 3 then .invalid
  else .pass

def attributeVerdict (line : Bytes) : Verdict :=
  if parseCandidates line [] = none then .reject
  else if ufragOf line = some [] ∨ pwdOf line = some [] then .reject
  else if ∃ tokens ∈ fingerprintTokens line, tokens.1.length < 14 then .invalid
  else .pass

def lineVerdict (mid line : Bytes) : Verdict :=
  if mediaVerdict line ≠ .pass then mediaVerdict line
  else if IsCollected mid then attributeVerdict line
  else .pass

/-! ## The state after a line that passes -/

def acceptTransportInfo (api : TransportApi) (td : TransportDescription) (line : Bytes) :
    TransportDescription :=
  { td with
    iceUfrag := (ufragOf line).getD td.iceUfrag
    icePwd := (pwdOf line).getD td.icePwd
    identityFingerprint := (fingerprintOf api line).getD td.identityFingerprint }

def sectionPayload (name : Bytes) (entry : Bytes × Bytes) : Option UInt8 :=
  if entry.1 = name ∧ IsMediaLine entry.2 then some (payloadTypeOf entry.2) else none

def sectionName (name : Bytes) (entry : Bytes × Bytes) : Option Bytes :=
  if entry.1 = name ∧ IsMediaLine entry.2 then some name else none

def acceptMedia (name : Bytes) (api : TransportApi) (td : TransportInfo)
    (entry : Bytes × Bytes) : TransportInfo where
  contentName := (sectionName name entry).getD td.contentName
  description :=
    if entry.1 = name then acceptTransportInfo api td.description entry.2
    else td.description

def sectionCandidates (entry : Bytes × Bytes) : List Candidate :=
  if IsCollected entry.1 then (parseCandidates entry.2 []).getD [] else []

def acceptLine (api : TransportApi) (state : ParseState) (line : Bytes) : ParseState :=
  let entry := (nextSection state.mid line, line)
  { contentGroups := state.contentGroups ++ (bundleGroupOf line).toList
    mid := entry.1
    audioTd := acceptMedia kAudio api state.audioTd entry
    videoTd := acceptMedia kVideo api state.videoTd entry
    audioContentName := (sectionName kAudio entry).getD state.audioContentName
    videoContentName := (sectionName kVideo entry).getD state.videoContentName
    audioPt := (sectionPayload kAudio entry).getD state.audioPt
    videoPt := (sectionPayload kVideo entry).getD state.videoPt
    allCandidate := state.allCandidate ++ sectionCandidates entry }

/-! ## The parser follows the verdicts -/

theorem kVideo_ne_kAudio : kVideo ≠ kAudio := by decide

theorem parseCandidates_eq (line : Bytes) (allCandidate : List Candidate) :
    parseCandidates line allCandidate =
      (parseCandidates line []).map (allCandidate ++ ·) := by
  by_cases hline : Occurs kCandidateAttribute line
  · by_cases hempty : (getAttribute line).isEmpty
    · simp [parseCandidates, hline, hempty]
    · cases hfields : candidateOf (tokenize space (getAttribute line)) <;>
        simp [parseCandidates, hline, hempty, hfields]
  · simp [parseCandidates, hline]

theorem parseTransportInfo_eq (api : TransportApi) (td : TransportDescription)
    (line : Bytes) :
    parseTransportInfo api td line =
      if ∃ tokens ∈ fingerprintTokens line, tokens.1.length < 14 then
        .error .substrOutOfRange
      else
        .ok (acceptTransportInfo api td line,
          decide (¬ (ufragOf line = some [] ∨ pwdOf line = some []))) := by
  by_cases hufrag : Occurs kUfragAttribute line
  · cases hvalue : getAttribute line <;>
      simp [parseTransportInfo, fingerprintTokens, acceptTransportInfo, ufragOf, pwdOf,
        fingerprintOf, hufrag, hvalue]
  by_cases hpwd : Occurs kPwdAttribute line
  · cases hvalue : getAttribute line <;>
      simp [parseTransportInfo, fingerprintTokens, acceptTransportInfo, ufragOf, pwdOf,
        fingerprintOf, hufrag, hpwd, hvalue]
  by_cases hprint : Occurs kFingerprintAttribute line
  · simp only [parseTransportInfo, fingerprintTokens, acceptTransportInfo, ufragOf, pwdOf,
      fingerprintOf, hufrag, hpwd, hprint]
    cases tokenize space line with
    | nil => simp
    | cons first rest =>
        rcases rest with _ | ⟨value, _ | ⟨third, rest⟩⟩
        · simp
        · by_cases hshort : first.length < 14
          · simp [substr, hshort, bind, Except.bind]
          · simp [substr, hshort, bind, Except.bind, pure, Except.pure]
        · simp
  · simp [parseTransportInfo, fingerprintTokens, acceptTransportInfo, ufragOf, pwdOf,
      fingerprintOf, hufrag, hpwd, hprint]

/-- A line is read for at most one of the three attributes. -/
theorem fingerprintTokens_eq_none {line value : Bytes}
    (hvalue : ufragOf line = some value ∨ pwdOf line = some value) :
    fingerprintTokens line = none := by
  rcases hvalue with hvalue | hvalue
  · have hufrag : Occurs kUfragAttribute line := by
      by_contra hufrag
      simp [ufragOf, hufrag] at hvalue
    simp [fingerprintTokens, hufrag]
  · have hpwd : Occurs kPwdAttribute line := by
      by_contra hpwd
      simp [pwdOf, hpwd] at hvalue
    simp [fingerprintTokens, hpwd]

theorem attributeVerdict_pass_iff {line : Bytes} :
    attributeVerdict line = .pass ↔ parseCandidates line [] ≠ none ∧
      ¬ (ufragOf line = some [] ∨ pwdOf line = some []) ∧
      ¬ ∃ tokens ∈ fingerprintTokens line, tokens.1.length < 14 := by
  rw [attributeVerdict]
  split_ifs with hcandidates hempty hshort
  · simp [hcandidates]
  · simp [hempty]
  · exact ⟨by simp, fun hall => absurd hshort hall.2.2⟩
  · exact ⟨fun _ => ⟨hcandidates, hempty, hshort⟩, fun _ => rfl⟩

theorem attributeVerdict_reject_iff {line : Bytes} :
    attributeVerdict line = .reject ↔
      parseCandidates line [] = none ∨ ufragOf line = some [] ∨ pwdOf line = some [] := by
  rw [attributeVerdict]
  split_ifs with hcandidates hempty hshort
  · simp [hcandidates]
  · simp [hempty]
  · exact ⟨by simp, fun hany => absurd hany (not_or.mpr ⟨hcandidates, hempty⟩)⟩
  · exact ⟨by simp, fun hany => absurd hany (not_or.mpr ⟨hcandidates, hempty⟩)⟩

theorem attributeVerdict_invalid_iff {line : Bytes} :
    attributeVerdict line = .invalid ↔ parseCandidates line [] ≠ none ∧
      ¬ (ufragOf line = some [] ∨ pwdOf line = some []) ∧
      ∃ tokens ∈ fingerprintTokens line, tokens.1.length < 14 := by
  rw [attributeVerdict]
  split_ifs with hcandidates hempty hshort
  · simp [hcandidates]
  · simp [hempty]
  · exact ⟨fun _ => ⟨hcandidates, hempty, hshort⟩, fun _ => rfl⟩
  · exact ⟨by simp, fun hall => absurd hall.2.2 hshort⟩

section Attributes

variable {api : TransportApi} {td : TransportInfo}
variable {write : ParseState → TransportInfo → ParseState} {state : ParseState} {line : Bytes}

/-- The attributes of a line whose attribute verdict is `pass` are all stored. -/
theorem parseAttributes_pass (hverdict : attributeVerdict line = .pass) :
    parseAttributes api td write state line =
      .next (write
        { state with
          allCandidate := state.allCandidate ++ (parseCandidates line []).getD [] }
        { td with description := acceptTransportInfo api td.description line }) := by
  obtain ⟨hcandidates, hempty, hshort⟩ := attributeVerdict_pass_iff.mp hverdict
  obtain ⟨added, hadded⟩ := Option.ne_none_iff_exists'.mp hcandidates
  rw [parseAttributes, parseCandidates_eq, parseTransportInfo_eq, hadded]
  simp [hempty, if_neg hshort]

theorem parseAttributes_reject (hverdict : attributeVerdict line = .reject) :
    ∃ left, parseAttributes api td write state line = .stop left := by
  rw [parseAttributes, parseCandidates_eq, parseTransportInfo_eq]
  cases hcandidates : parseCandidates line [] with
  | none => exact ⟨state, rfl⟩
  | some added =>
      have hempty := attributeVerdict_reject_iff.mp hverdict
      rw [hcandidates, or_iff_right (by simp)] at hempty
      simp [fingerprintTokens_eq_none hempty, hempty]

theorem parseAttributes_invalid (hverdict : attributeVerdict line = .invalid) :
    ∃ reason, parseAttributes api td write state line = .fault reason := by
  obtain ⟨hcandidates, -, hshort⟩ := attributeVerdict_invalid_iff.mp hverdict
  obtain ⟨added, hadded⟩ := Option.ne_none_iff_exists'.mp hcandidates
  rw [parseAttributes, parseCandidates_eq, parseTransportInfo_eq, hadded]
  exact ⟨.substrOutOfRange, by simp [if_pos hshort]⟩

end Attributes

/-! ### The line as a whole -/

/-- The state after the first branch of the loop body, on a line that passes. -/
def acceptLineKind (state : ParseState) (line : Bytes) : ParseState :=
  let entry := (nextSection state.mid line, line)
  { state with
    contentGroups := state.contentGroups ++ (bundleGroupOf line).toList
    mid := entry.1
    audioTd := { state.audioTd with
      contentName := (sectionName kAudio entry).getD state.audioTd.contentName }
    videoTd := { state.videoTd with
      contentName := (sectionName kVideo entry).getD state.videoTd.contentName }
    audioContentName := (sectionName kAudio entry).getD state.audioContentName
    videoContentName := (sectionName kVideo entry).getD state.videoContentName
    audioPt := (sectionPayload kAudio entry).getD state.audioPt
    videoPt := (sectionPayload kVideo entry).getD state.videoPt }

/-- An `m=` line with at least three tokens, the first of which has a name. -/
theorem parseMediaLine_of_tokens {state : ParseState} {line first second third : Bytes}
    {rest : List Bytes} (htokens : tokenize space line = first :: second :: third :: rest)
    (hfirst : 2 ≤ first.length) :
    parseMediaLine state line =
      if IsCollected (mediaName line) ∧ rest = [] then .fault .indexOutOfRange
      else .next
        { state with
          mid := mediaName line
          audioTd := { state.audioTd with
            contentName := if mediaName line = kAudio then kAudio
              else state.audioTd.contentName }
          videoTd := { state.videoTd with
            contentName := if mediaName line = kVideo then kVideo
              else state.videoTd.contentName }
          audioContentName := if mediaName line = kAudio then kAudio
            else state.audioContentName
          videoContentName := if mediaName line = kVideo then kVideo
            else state.videoContentName
          audioPt := if mediaName line = kAudio then payloadTypeOf line else state.audioPt
          videoPt := if mediaName line = kVideo then payloadTypeOf line
            else state.videoPt } := by
  have hname : mediaName line = first.drop 2 := by simp [mediaName, htokens]
  have hsubstr : substr first 2 = .ok (mediaName line) := by
    rw [hname, substr, if_neg (by omega)]
  have hpayload : payloadTypeOf line = UInt8.ofInt (atoi (rest.headD [])) := by
    cases rest <;> simp [payloadTypeOf, htokens]
  rw [hpayload]
  simp only [parseMediaLine, htokens, List.length_cons, index]
  rw [if_neg (by omega)]
  simp only [List.getElem?_cons_zero, List.getElem?_cons_succ, bind, Except.bind, hsubstr]
  by_cases haudio : mediaName line = kAudio
  · cases rest <;> simp [haudio, IsCollected, kVideo_ne_kAudio.symm]
  by_cases hvideo : mediaName line = kVideo
  · cases rest <;> simp [hvideo, IsCollected, kVideo_ne_kAudio]
  · simp [haudio, hvideo, IsCollected]

theorem exists_tokens_of_two_lt {line : Bytes} (hlength : 2 < (tokenize space line).length) :
    ∃ first second third rest, tokenize space line = first :: second :: third :: rest := by
  match htokens : tokenize space line with
  | [] => simp [htokens] at hlength
  | [_] => simp [htokens] at hlength
  | [_, _] => simp [htokens] at hlength
  | first :: second :: third :: rest => exact ⟨first, second, third, rest, rfl⟩

theorem parseLineKind_pass {state : ParseState} {line : Bytes}
    (hverdict : mediaVerdict line = .pass) :
    parseLineKind state line = .next (acceptLineKind state line) := by
  by_cases hbundle : Occurs kBundleAttribute line
  · have hmedia : ¬ IsMediaLine line := fun h => h.1 hbundle
    simp only [parseLineKind, if_pos hbundle, acceptLineKind, nextSection,
      sectionName, sectionPayload, hmedia, and_false, if_false, Option.getD_none]
    rw [parseBundleLine, bundleGroupOf, if_pos hbundle]
    match tokenize space line with
    | [] => simp
    | [_] => simp
    | _ :: _ :: _ => simp
  by_cases hstart : StartsMediaLine line
  · have hmedia : IsMediaLine line := ⟨hbundle, hstart⟩
    have hlength : 2 < (tokenize space line).length := by
      by_contra hlength
      simp [mediaVerdict, hmedia, Nat.le_of_not_lt hlength] at hverdict
    obtain ⟨first, second, third, rest, htokens⟩ := exists_tokens_of_two_lt hlength
    have hfirst : 2 ≤ first.length := by
      by_contra hfirst
      simp [mediaVerdict, hmedia, htokens, Nat.lt_of_not_le hfirst] at hverdict
    have hrest : ¬ (IsCollected (mediaName line) ∧ rest = []) := by
      rintro ⟨hcollected, rfl⟩
      simp [mediaVerdict, hmedia, htokens, hcollected] at hverdict
    rw [parseLineKind, if_neg hbundle, if_pos hstart,
      parseMediaLine_of_tokens htokens hfirst, if_neg hrest]
    simp only [acceptLineKind, nextSection, sectionName, sectionPayload,
      hmedia, and_true, bundleGroupOf, if_neg hbundle, Option.toList_none, List.append_nil]
    split_ifs <;> simp
  · have hmedia : ¬ IsMediaLine line := fun h => hstart h.2
    simp [parseLineKind, hbundle, hstart, acceptLineKind, nextSection, hmedia, sectionName,
      sectionPayload, bundleGroupOf]

theorem parseLineKind_reject {state : ParseState} {line : Bytes}
    (hverdict : mediaVerdict line = .reject) :
    parseLineKind state line = .stop state := by
  by_cases hmedia : IsMediaLine line
  · by_cases hlength : (tokenize space line).length ≤ 2
    · simp [parseLineKind, hmedia.1, hmedia.2, parseMediaLine, hlength]
    · exfalso
      simp only [mediaVerdict, not_not.mpr hmedia, if_false, if_neg hlength] at hverdict
      split_ifs at hverdict
  · simp [mediaVerdict, hmedia] at hverdict

theorem parseLineKind_invalid (state : ParseState) {line : Bytes}
    (hverdict : mediaVerdict line = .invalid) :
    ∃ reason, parseLineKind state line = .fault reason := by
  by_cases hmedia : IsMediaLine line
  · have hlength : 2 < (tokenize space line).length := by
      by_contra hlength
      simp [mediaVerdict, hmedia, Nat.le_of_not_lt hlength] at hverdict
    obtain ⟨first, second, third, rest, htokens⟩ := exists_tokens_of_two_lt hlength
    rw [parseLineKind, if_neg hmedia.1, if_pos hmedia.2]
    by_cases hfirst : first.length < 2
    · refine ⟨.substrOutOfRange, ?_⟩
      simp [parseMediaLine, htokens, index, substr, hfirst, bind, Except.bind]
    · rw [parseMediaLine_of_tokens htokens (Nat.le_of_not_lt hfirst)]
      have hrest : IsCollected (mediaName line) ∧ rest = [] := by
        by_contra hrest
        cases rest with
        | nil => simp_all [mediaVerdict]
        | cons payload rest => simp [mediaVerdict, hmedia, htokens, hfirst] at hverdict
      exact ⟨.indexOutOfRange, if_pos hrest⟩
  · simp [mediaVerdict, hmedia] at hverdict

/-- The attributes of the section in force complete the state of an accepted
line. -/
theorem parseLine_of_kind_pass {api : TransportApi} {state : ParseState} {line : Bytes}
    (hverdict : mediaVerdict line = .pass) :
    parseLine api state line =
      if nextSection state.mid line = kAudio then
        parseAttributes api (acceptLineKind state line).audioTd writeAudioTd
          (acceptLineKind state line) line
      else if nextSection state.mid line = kVideo then
        parseAttributes api (acceptLineKind state line).videoTd writeVideoTd
          (acceptLineKind state line) line
      else .next (acceptLineKind state line) := by
  rw [parseLine, parseLineKind_pass hverdict]
  rfl

theorem lineVerdict_of_kind_pass {mid line : Bytes} (hverdict : mediaVerdict line = .pass) :
    lineVerdict mid line = if IsCollected mid then attributeVerdict line else .pass := by
  simp [lineVerdict, hverdict]

theorem lineVerdict_of_kind_exit {mid line : Bytes} (hverdict : mediaVerdict line ≠ .pass) :
    lineVerdict mid line = mediaVerdict line := by
  simp [lineVerdict, hverdict]

theorem mediaVerdict_of_pass {mid line : Bytes} (hpass : lineVerdict mid line = .pass) :
    mediaVerdict line = .pass := by
  by_contra hkind
  exact hkind (lineVerdict_of_kind_exit hkind ▸ hpass)

/-- A line that passes leaves the state that its values describe. -/
theorem parseLine_pass {api : TransportApi} {state : ParseState} {line : Bytes}
    (hverdict : lineVerdict (nextSection state.mid line) line = .pass) :
    parseLine api state line = .next (acceptLine api state line) := by
  have hkind := mediaVerdict_of_pass hverdict
  rw [lineVerdict_of_kind_pass hkind] at hverdict
  rw [parseLine_of_kind_pass hkind]
  by_cases haudio : nextSection state.mid line = kAudio
  · rw [if_pos (isCollected_of_eq_kAudio haudio)] at hverdict
    rw [if_pos haudio, parseAttributes_pass hverdict]
    simp [acceptLine, acceptLineKind, writeAudioTd, acceptMedia, haudio, sectionName,
      sectionCandidates, IsCollected, kVideo_ne_kAudio.symm]
  by_cases hvideo : nextSection state.mid line = kVideo
  · rw [if_pos (isCollected_of_eq_kVideo hvideo)] at hverdict
    rw [if_neg haudio, if_pos hvideo, parseAttributes_pass hverdict]
    simp [acceptLine, acceptLineKind, writeVideoTd, acceptMedia, hvideo, sectionName,
      sectionCandidates, IsCollected, kVideo_ne_kAudio]
  · simp [haudio, hvideo, acceptLine, acceptLineKind, acceptMedia, sectionName,
      sectionCandidates, IsCollected]

/-- In a collected section the attributes decide how the line ends. -/
theorem parseLine_of_collected (api : TransportApi) {state : ParseState} {line : Bytes}
    (hverdict : mediaVerdict line = .pass)
    (hcollected : IsCollected (nextSection state.mid line)) :
    ∃ td write, parseLine api state line =
      parseAttributes api td write (acceptLineKind state line) line := by
  rw [parseLine_of_kind_pass hverdict]
  rcases hcollected with haudio | hvideo
  · exact ⟨_, writeAudioTd, if_pos haudio⟩
  · have haudio : nextSection state.mid line ≠ kAudio := by
      rw [hvideo]
      exact kVideo_ne_kAudio
    exact ⟨_, writeVideoTd, by rw [if_neg haudio, if_pos hvideo]⟩

/-- The exits of the loop body are decided by the line and the section in
force. -/
theorem parseLine_classifies (api : TransportApi) :
    Classifies (parseLine api) (·.mid) nextSection lineVerdict (acceptLine api) where
  pass _ _ hverdict := parseLine_pass hverdict
  reject state line hverdict := by
    by_cases hkind : mediaVerdict line = .pass
    · rw [lineVerdict_of_kind_pass hkind] at hverdict
      by_cases hcollected : IsCollected (nextSection state.mid line)
      · rw [if_pos hcollected] at hverdict
        obtain ⟨td, write, hline⟩ := parseLine_of_collected api hkind hcollected
        rw [hline]
        exact parseAttributes_reject hverdict
      · simp [hcollected] at hverdict
    · rw [lineVerdict_of_kind_exit hkind] at hverdict
      exact ⟨state, by rw [parseLine, parseLineKind_reject hverdict]; rfl⟩
  invalid state line hverdict := by
    by_cases hkind : mediaVerdict line = .pass
    · rw [lineVerdict_of_kind_pass hkind] at hverdict
      by_cases hcollected : IsCollected (nextSection state.mid line)
      · rw [if_pos hcollected] at hverdict
        obtain ⟨td, write, hline⟩ := parseLine_of_collected api hkind hcollected
        rw [hline]
        exact parseAttributes_invalid hverdict
      · simp [hcollected] at hverdict
    · rw [lineVerdict_of_kind_exit hkind] at hverdict
      obtain ⟨reason, hreason⟩ := parseLineKind_invalid state hverdict
      exact ⟨reason, by rw [parseLine, hreason]; rfl⟩
  mode_advance _ _ _ := rfl

/-! ## The whole text -/

/-- The lines of a text, each with the section it belongs to. -/
def sdpEntries (sdp : Bytes) : List (Bytes × Bytes) :=
  labels nextSection [] (sdpFields sdp)

def sectionLines (name : Bytes) (entries : List (Bytes × Bytes)) : List Bytes :=
  (entries.filter (·.1 = name)).map Prod.snd

/-- The text has an `m=` line for this section. -/
def HasSection (name : Bytes) (entries : List (Bytes × Bytes)) : Prop :=
  ∃ line ∈ sectionLines name entries, IsMediaLine line

instance (name : Bytes) (entries : List (Bytes × Bytes)) :
    Decidable (HasSection name entries) :=
  inferInstanceAs (Decidable (∃ line ∈ sectionLines name entries, IsMediaLine line))

/-- The last value that the lines of a section give, if any gives one. -/
def lastInSection {β : Type*} (name : Bytes) (valueOf : Bytes → Option β)
    (entries : List (Bytes × Bytes)) (initial : β) : β :=
  ((sectionLines name entries).filterMap valueOf).getLastD initial

/-- The ICE and DTLS attributes written in the sections of this name. -/
def sectionTransport (api : TransportApi) (name : Bytes)
    (entries : List (Bytes × Bytes)) : TransportDescription where
  iceUfrag := lastInSection name ufragOf entries []
  icePwd := lastInSection name pwdOf entries []
  identityFingerprint := lastInSection name (fingerprintOf api) entries none

def mediaNameOf (name line : Bytes) : Option Bytes :=
  if IsMediaLine line then some name else none

def mediaPayloadOf (line : Bytes) : Option UInt8 :=
  if IsMediaLine line then some (payloadTypeOf line) else none

/-- A field that only the lines of one section write ends with the last value
they give. -/
theorem foldl_acceptLine_section {ρ : Type*} (api : TransportApi) (name : Bytes)
    (proj : ParseState → ρ) (valueOf : Bytes → Option ρ)
    (hproj : ∀ state line, proj (acceptLine api state line) =
      if nextSection state.mid line = name then (valueOf line).getD (proj state)
      else proj state)
    (state : ParseState) (fields : List Bytes) :
    proj (fields.foldl (acceptLine api) state) =
      lastInSection name valueOf (labels nextSection state.mid fields) (proj state) := by
  rw [projection_foldl ParseState.mid nextSection proj
    (fun value entry => if entry.1 = name then (valueOf entry.2).getD value else value)
    (fun _ _ => rfl) hproj state fields]
  rw [foldl_ite_eq_foldl_filter (fun entry : Bytes × Bytes => entry.1 = name)
    (fun value entry => (valueOf entry.2).getD value)]
  rw [foldl_getD_eq_getLastD (fun entry : Bytes × Bytes => valueOf entry.2)]
  rw [lastInSection, sectionLines, List.filterMap_map]
  rfl

theorem foldl_acceptLine_contentGroups (api : TransportApi) (state : ParseState)
    (fields : List Bytes) :
    (fields.foldl (acceptLine api) state).contentGroups =
      state.contentGroups ++ fields.filterMap bundleGroupOf := by
  rw [projection_foldl ParseState.mid nextSection ParseState.contentGroups
    (fun groups entry => groups ++ (bundleGroupOf entry.2).toList)
    (fun _ _ => rfl) (fun _ _ => rfl) state fields]
  rw [foldl_append_eq_flatMap (fun entry : Bytes × Bytes => (bundleGroupOf entry.2).toList)]
  rw [List.filterMap_eq_flatMap_toList]
  conv_rhs => rw [← labels_map_snd nextSection state.mid fields, List.flatMap_map]

theorem foldl_acceptLine_allCandidate (api : TransportApi) (state : ParseState)
    (fields : List Bytes) :
    (fields.foldl (acceptLine api) state).allCandidate =
      state.allCandidate ++
        (labels nextSection state.mid fields).flatMap sectionCandidates := by
  rw [projection_foldl ParseState.mid nextSection ParseState.allCandidate
    (fun candidates entry => candidates ++ sectionCandidates entry)
    (fun _ _ => rfl) (fun _ _ => rfl) state fields]
  exact foldl_append_eq_flatMap sectionCandidates _ _

theorem lastInSection_mediaNameOf (name : Bytes) (entries : List (Bytes × Bytes)) :
    lastInSection name (mediaNameOf name) entries [] =
      if HasSection name entries then name else [] := by
  have hall : ∀ value ∈ (sectionLines name entries).filterMap (mediaNameOf name),
      value = name := by
    intro value hvalue
    obtain ⟨line, _, hline⟩ := List.mem_filterMap.mp hvalue
    rw [mediaNameOf] at hline
    split_ifs at hline
    exact (Option.some.inj hline).symm
  by_cases hsection : HasSection name entries
  · obtain ⟨line, hmem, hmedia⟩ := hsection
    have hvalue : name ∈ (sectionLines name entries).filterMap (mediaNameOf name) :=
      List.mem_filterMap.mpr ⟨line, hmem, by rw [mediaNameOf, if_pos hmedia]⟩
    rw [if_pos ⟨line, hmem, hmedia⟩, lastInSection, List.getLastD_eq_getLast?,
      List.getLast?_eq_some_getLast (List.ne_nil_of_mem hvalue), Option.getD_some]
    exact hall _ (List.getLast_mem _)
  · have hnil : (sectionLines name entries).filterMap (mediaNameOf name) = [] := by
      rw [List.filterMap_eq_nil_iff]
      intro line hmem
      rw [mediaNameOf, if_neg fun hmedia => hsection ⟨line, hmem, hmedia⟩]
    rw [if_neg hsection, lastInSection, hnil, List.getLastD_nil]

/-- The transport info of a section, once every line has been accepted: its name
when the text has an `m=` line for it, and the attributes of its lines. -/
theorem foldl_acceptLine_td {api : TransportApi} {name : Bytes}
    (proj : ParseState → TransportInfo)
    (hproj : ∀ state line, proj (acceptLine api state line) =
      acceptMedia name api (proj state) (nextSection state.mid line, line))
    {state : ParseState} (hinit : proj state = {}) (fields : List Bytes) :
    proj (fields.foldl (acceptLine api) state) =
      { contentName :=
          if HasSection name (labels nextSection state.mid fields) then name else []
        description :=
          sectionTransport api name (labels nextSection state.mid fields) } := by
  have hname := foldl_acceptLine_section api name
    (fun state => (proj state).contentName) (mediaNameOf name)
    (fun state line => by
      rw [hproj]
      simp only [acceptMedia, sectionName, mediaNameOf]
      split_ifs <;> simp_all) state fields
  have hufrag := foldl_acceptLine_section api name
    (fun state => (proj state).description.iceUfrag) ufragOf
    (fun state line => by
      rw [hproj]
      simp only [acceptMedia, acceptTransportInfo]
      split_ifs <;> rfl) state fields
  have hpwd := foldl_acceptLine_section api name
    (fun state => (proj state).description.icePwd) pwdOf
    (fun state line => by
      rw [hproj]
      simp only [acceptMedia, acceptTransportInfo]
      split_ifs <;> rfl) state fields
  have hprint := foldl_acceptLine_section api name
    (fun state => (proj state).description.identityFingerprint) (fingerprintOf api)
    (fun state line => by
      rw [hproj]
      simp only [acceptMedia, acceptTransportInfo]
      split_ifs <;> rfl) state fields
  have hrole := foldl_acceptLine_section api name
    (fun state => (proj state).description.connectionRole) (fun _ => none)
    (fun state line => by
      rw [hproj]
      simp only [acceptMedia, acceptTransportInfo]
      split_ifs <;> rfl) state fields
  simp only [hinit] at hname hufrag hpwd hprint hrole
  rw [lastInSection_mediaNameOf] at hname
  simp only [lastInSection, List.filterMap_none, List.getLastD_nil] at hrole
  exact TransportInfo.ext hname (TransportDescription.ext hufrag hpwd hprint hrole)

end PeerConnection.Sdp
