import PeerConnection.Core.Tokens
import PeerConnection.Connection.RoundTrip
import PeerConnection.Connection.LineEndings

/-!
# Malformed transport attributes

`ParseTransportInfo` gives up on an ice-ufrag or ice-pwd line without a value.  For a fingerprint
line it returns -1, which is true, and it finds each attribute anywhere in a line.  So a malformed
line is refused only where an attribute of ICE without a value is found in it, and a line may be
taken for another one.
-/

namespace PeerConnection.Connection

open PeerConnection.Text
open PeerConnection.Scan
open PeerConnection.Sdp
open PeerConnection.Transport

/-! ## What is malformed -/

/-- What the line has after its first colon. -/
def attributeValue (line : Bytes) : Bytes := (line.dropWhile (· ≠ colon)).drop 1

/-- The line is an algorithm and a value, and the value is one. -/
def IsFingerprintLine (api : TransportApi) (line : Bytes) : Prop :=
  ∃ alg value, alg ≠ [] ∧
    tokenize space line = [kFingerprintAttribute ++ colon :: alg, value] ∧
    api.createUniqueFromRfc4572 (alg.map toLower) value ≠ none

/-- The line starts with the attribute and has no value, or is no fingerprint. -/
def Malformed (api : TransportApi) (line : Bytes) : Prop :=
  (kUfragAttribute <+: line ∨ kPwdAttribute <+: line) ∧ attributeValue line = [] ∨
    kFingerprintAttribute <+: line ∧ ¬ IsFingerprintLine api line

/-- What a line of a section gives, if it starts with the attribute. -/
structure AttributesParsed (api : TransportApi) (line : Bytes) : Prop where
  ufrag : kUfragAttribute <+: line → ∃ value, value ≠ [] ∧ ∀ td,
    ∃ next, parseTransportInfo api td line = .ok (next, true) ∧ next.iceUfrag = value
  pwd : kPwdAttribute <+: line → ∃ value, value ≠ [] ∧ ∀ td,
    ∃ next, parseTransportInfo api td line = .ok (next, true) ∧ next.icePwd = value
  fingerprint : kFingerprintAttribute <+: line → ∃ fp, ∀ td,
    ∃ next, parseTransportInfo api td line = .ok (next, true) ∧
      next.identityFingerprint = some fp

/-- The lines of the audio and video sections. -/
def CollectedLine (sdp line : Bytes) : Prop :=
  ∃ mid, IsCollected mid ∧ (mid, line) ∈ sdpEntries sdp

/-- Malformed lines are refused, and what is not refused has been parsed. -/
structure RejectsMalformed (api : TransportApi) (sdp : Bytes) : Prop where
  line : ∀ line, CollectedLine sdp line → Malformed api line → ∀ td,
    ∃ left, parseTransportInfo api td line = .ok (left, false)
  text : (∃ line, CollectedLine sdp line ∧ Malformed api line) → ∀ connection caller,
    ∃ final, P2pPeerConnection.setRemoteSdpReturned api connection caller sdp = .ok (-1, final)
  parsed : ∀ connection caller final, Reachable api connection →
    P2pPeerConnection.setRemoteSdpReturned api connection caller sdp = .ok (0, final) →
      ∀ line, CollectedLine sdp line → AttributesParsed api line

/-! ## One line -/

section Line

variable {api : TransportApi} {line : Bytes}

/-- Nothing follows the first colon, so there is at most one token. -/
theorem getAttribute_eq_nil (hvalue : attributeValue line = []) : getAttribute line = [] := by
  by_cases hcolon : colon ∈ line
  · obtain ⟨front, rest, rfl, hfront⟩ := List.eq_append_cons_of_mem hcolon
    have hrest : rest = [] := by
      rw [attributeValue, List.dropWhile_append_of_pos] at hvalue
      · simpa using hvalue
      · intro byte hbyte
        simpa using fun hsame : byte = colon => hfront (hsame ▸ hbyte)
    rw [hrest, getAttribute, tokenize_append_delimiter, tokenize_nil, List.append_nil]
    cases front with
    | nil => rw [tokenize_nil]
    | cons byte front => rw [tokenize_word (by simp) hfront]
  · rw [getAttribute]
    cases line with
    | nil => rw [tokenize_nil]
    | cons byte line => rw [tokenize_word (by simp) hcolon]

/-- An attribute of ICE without a value is found in the line. -/
def FindsNoIceValue (line : Bytes) : Prop :=
  (Occurs kUfragAttribute line ∨ Occurs kPwdAttribute line) ∧ getAttribute line = []

theorem parseTransportInfo_ufrag (hufrag : Occurs kUfragAttribute line)
    (td : TransportDescription) :
    parseTransportInfo api td line =
      .ok ({ td with iceUfrag := getAttribute line }, !(getAttribute line).isEmpty) :=
  if_pos hufrag

theorem parseTransportInfo_pwd (hufrag : ¬ Occurs kUfragAttribute line)
    (hpwd : Occurs kPwdAttribute line) (td : TransportDescription) :
    parseTransportInfo api td line =
      .ok ({ td with icePwd := getAttribute line }, !(getAttribute line).isEmpty) := by
  rw [parseTransportInfo, if_neg hufrag, if_pos hpwd]

/-- A line is given up exactly when an attribute of ICE without a value is found in it. -/
theorem parseTransportInfo_false_iff :
    (∀ td, ∃ left, parseTransportInfo api td line = .ok (left, false)) ↔
      FindsNoIceValue line := by
  constructor
  · intro hall
    obtain ⟨left, hleft⟩ := hall {}
    rw [parseTransportInfo_eq] at hleft
    split_ifs at hleft
    have hempty := of_decide_eq_false (Prod.mk.inj (Except.ok.inj hleft)).2
    rw [not_not] at hempty
    rcases hempty with hufrag | hpwd
    · rw [ufragOf] at hufrag
      split_ifs at hufrag with hoccurs
      exact ⟨Or.inl hoccurs, Option.some.inj hufrag⟩
    · rw [pwdOf] at hpwd
      split_ifs at hpwd with hoccurs
      exact ⟨Or.inr hoccurs.2, Option.some.inj hpwd⟩
  · rintro ⟨hoccurs, hempty⟩ td
    by_cases hufrag : Occurs kUfragAttribute line
    · exact ⟨_, by rw [parseTransportInfo_ufrag hufrag, hempty]; rfl⟩
    · have hpwd := hoccurs.resolve_left hufrag
      exact ⟨_, by rw [parseTransportInfo_pwd hufrag hpwd, hempty]; rfl⟩

/-- A malformed attribute of ICE is given up. -/
theorem findsNoIceValue_of_starts
    (hstarts : kUfragAttribute <+: line ∨ kPwdAttribute <+: line)
    (hvalue : attributeValue line = []) : FindsNoIceValue line :=
  ⟨hstarts.imp List.IsPrefix.isInfix List.IsPrefix.isInfix, getAttribute_eq_nil hvalue⟩

/-- An attribute is not found in a line that starts with another one. -/
structure Unmixed (line : Bytes) : Prop where
  pwd : kPwdAttribute <+: line → ¬ Occurs kUfragAttribute line
  fingerprint : kFingerprintAttribute <+: line →
    ¬ Occurs kUfragAttribute line ∧ ¬ Occurs kPwdAttribute line

theorem getAttribute_ne_nil_of_pass (hpass : attributeVerdict line = .pass)
    (hoccurs : Occurs kUfragAttribute line ∨ Occurs kPwdAttribute line) :
    getAttribute line ≠ [] := by
  intro hempty
  apply (attributeVerdict_pass_iff.mp hpass).2.1
  by_cases hufrag : Occurs kUfragAttribute line
  · exact Or.inl (by rw [ufragOf, if_pos hufrag, hempty])
  · exact Or.inr (by rw [pwdOf, if_pos ⟨hufrag, hoccurs.resolve_left hufrag⟩, hempty])

/-- A line that passes has been parsed when it is not mixed and not malformed. -/
theorem attributesParsed_of_unmixed (hpass : attributeVerdict line = .pass)
    (hwell : ¬ Malformed api line) (hunmixed : Unmixed line) : AttributesParsed api line where
  ufrag hstarts := by
    have hufrag : Occurs kUfragAttribute line := hstarts.isInfix
    have hne := getAttribute_ne_nil_of_pass hpass (Or.inl hufrag)
    refine ⟨getAttribute line, hne, fun td =>
      ⟨{ td with iceUfrag := getAttribute line }, ?_, rfl⟩⟩
    rw [parseTransportInfo_ufrag hufrag, List.isEmpty_eq_false_iff.mpr hne]
    rfl
  pwd hstarts := by
    have hpwd : Occurs kPwdAttribute line := hstarts.isInfix
    have hne := getAttribute_ne_nil_of_pass hpass (Or.inr hpwd)
    refine ⟨getAttribute line, hne, fun td =>
      ⟨{ td with icePwd := getAttribute line }, ?_, rfl⟩⟩
    rw [parseTransportInfo_pwd (hunmixed.pwd hstarts) hpwd, List.isEmpty_eq_false_iff.mpr hne]
    rfl
  fingerprint hstarts := by
    obtain ⟨hufrag, hpwd⟩ := hunmixed.fingerprint hstarts
    have hprint : IsFingerprintLine api line := by
      by_contra hnot
      exact hwell (Or.inr ⟨hstarts, hnot⟩)
    obtain ⟨alg, value, -, htokens, hcreate⟩ := hprint
    obtain ⟨fp, hfp⟩ := Option.ne_none_iff_exists'.mp hcreate
    have hdrop : (kFingerprintAttribute ++ colon :: alg).drop 14 = alg := rfl
    have hlong : ¬ (kFingerprintAttribute ++ colon :: alg).length < 14 := by
      rw [List.length_append, List.length_cons, show kFingerprintAttribute.length = 13 from rfl]
      omega
    refine ⟨fp, fun td => ⟨{ td with identityFingerprint := some fp }, ?_, rfl⟩⟩
    rw [parseTransportInfo, if_neg hufrag, if_neg hpwd, if_pos hstarts.isInfix, htokens]
    simp only [substr, if_neg hlong, hdrop, bind, Except.bind, pure, Except.pure, hfp]

/-- A mixed line has not. -/
theorem unmixed_of_attributesParsed (hparsed : AttributesParsed api line) : Unmixed line where
  pwd hstarts hufrag := by
    obtain ⟨value, hne, hall⟩ := hparsed.pwd hstarts
    obtain ⟨next, hnext, hvalue⟩ := hall {}
    rw [parseTransportInfo_ufrag hufrag] at hnext
    obtain ⟨rfl, -⟩ := Prod.mk.inj (Except.ok.inj hnext)
    exact hne hvalue.symm
  fingerprint hstarts := by
    obtain ⟨fp, hall⟩ := hparsed.fingerprint hstarts
    obtain ⟨next, hnext, hvalue⟩ := hall {}
    refine ⟨fun hufrag => ?_, fun hpwd => ?_⟩
    · rw [parseTransportInfo_ufrag hufrag] at hnext
      obtain ⟨rfl, -⟩ := Prod.mk.inj (Except.ok.inj hnext)
      exact absurd hvalue (by simp)
    · by_cases hufrag : Occurs kUfragAttribute line
      · rw [parseTransportInfo_ufrag hufrag] at hnext
        obtain ⟨rfl, -⟩ := Prod.mk.inj (Except.ok.inj hnext)
        exact absurd hvalue (by simp)
      · rw [parseTransportInfo_pwd hufrag hpwd] at hnext
        obtain ⟨rfl, -⟩ := Prod.mk.inj (Except.ok.inj hnext)
        exact absurd hvalue (by simp)

end Line

/-! ## The text -/

/-- When malformed lines are refused: each is taken for an attribute of ICE without a value, no
line before the first refused one leaves its bounds, and an accepted text mixes no attributes. -/
structure MalformedRefused (api : TransportApi) (sdp : Bytes) : Prop where
  found : ∀ line, CollectedLine sdp line → kFingerprintAttribute <+: line →
    ¬ IsFingerprintLine api line → FindsNoIceValue line
  bounded : (∃ line, CollectedLine sdp line ∧ Malformed api line) →
    firstExit lineVerdict (sdpEntries sdp) ≠ some .invalid
  unmixed : Accepted sdp → HasBundle sdp → ∀ line, CollectedLine sdp line → Unmixed line

section Text

variable {api : TransportApi} {sdp line : Bytes}

theorem findsNoIceValue_of_malformed (hrefused : MalformedRefused api sdp)
    (hline : CollectedLine sdp line) (hmalformed : Malformed api line) : FindsNoIceValue line := by
  rcases hmalformed with ⟨hstarts, hvalue⟩ | ⟨hstarts, hnot⟩
  · exact findsNoIceValue_of_starts hstarts hvalue
  · exact hrefused.found line hline hstarts hnot

theorem attributeVerdict_of_pass {mid : Bytes} (hmid : IsCollected mid)
    (hpass : lineVerdict mid line = .pass) : attributeVerdict line = .pass := by
  rwa [lineVerdict_of_kind_pass (mediaVerdict_of_pass hpass), if_pos hmid] at hpass

/-- A collected line without the value of an attribute of ICE does not pass. -/
theorem lineVerdict_ne_pass {mid : Bytes} (hmid : IsCollected mid)
    (hfinds : FindsNoIceValue line) : lineVerdict mid line ≠ .pass := fun hpass =>
  getAttribute_ne_nil_of_pass (attributeVerdict_of_pass hmid hpass) hfinds.1 hfinds.2

theorem attributeVerdict_of_accepted (haccepted : Accepted sdp) (hline : CollectedLine sdp line) :
    attributeVerdict line = .pass := by
  obtain ⟨mid, hmid, hentry⟩ := hline
  exact attributeVerdict_of_pass hmid ((firstExit_eq_none_iff _ _).mp haccepted.2 _ hentry)

theorem firstExit_ne_pass (entries : List (Bytes × Bytes)) :
    firstExit lineVerdict entries ≠ some .pass := by
  intro hpass
  have hne := List.find?_some hpass
  exact absurd hne (by simp)

/-- The text is refused when a malformed line is. -/
theorem rejected_of_malformed (hrefused : MalformedRefused api sdp)
    (hline : CollectedLine sdp line) (hmalformed : Malformed api line) : Rejected sdp := by
  have hfinds := findsNoIceValue_of_malformed hrefused hline hmalformed
  have hbounded := hrefused.bounded ⟨line, hline, hmalformed⟩
  obtain ⟨mid, hmid, hentry⟩ := hline
  rw [Rejected]
  cases hexit : firstExit lineVerdict (sdpEntries sdp) with
  | none =>
      have hpass := (firstExit_eq_none_iff _ _).mp hexit _ hentry
      exact absurd hpass (lineVerdict_ne_pass hmid hfinds)
  | some verdict =>
      cases verdict with
      | pass => exact absurd hexit (firstExit_ne_pass _)
      | reject => rfl
      | invalid => exact absurd hexit hbounded

theorem rejected_of_returned {connection final : P2pPeerConnection} {caller : Caller}
    (hfields : sdpFields sdp ≠ [])
    (hreturned : connection.setRemoteSdpReturned api caller sdp = .ok (-1, final)) :
    Rejected sdp := by
  rcases connection.readSdp_cases api sdp with ⟨hnone, -⟩ | ⟨haccepted, -⟩ | ⟨hrejected, -⟩ |
    ⟨-, reason, hread⟩
  · exact absurd hnone hfields
  · exact absurd (returned_of_accepted haccepted hreturned) (show (-1 : ℤ) ≠ 0 by decide)
  · exact hrejected
  · rw [P2pPeerConnection.setRemoteSdpReturned, hread] at hreturned
    exact absurd hreturned (by simp)

theorem hasSection_of_collectedLine (hline : CollectedLine sdp line) :
    HasSection kAudio (sdpEntries sdp) ∨ HasSection kVideo (sdpEntries sdp) := by
  obtain ⟨mid, hmid, hentry⟩ := hline
  have hsection : ∀ name, name ≠ [] → mid = name → HasSection name (sdpEntries sdp) := by
    intro name hname hsame
    by_contra hnone
    have hlines := sectionLines_eq_nil hname.symm hnone
    have hmem : line ∈ sectionLines name (sdpEntries sdp) :=
      List.mem_map.mpr ⟨(mid, line), List.mem_filter.mpr ⟨hentry, by simpa using hsame⟩, rfl⟩
    rw [sdpEntries] at hmem
    rw [hlines] at hmem
    exact List.not_mem_nil hmem
  exact hmid.imp (hsection kAudio (by decide)) (hsection kVideo (by decide))

/-- An accepted text with a BUNDLE group is returned from with 0. -/
theorem returned_zero_of_accepted (haccepted : Accepted sdp) (hbundle : HasBundle sdp)
    (hline : CollectedLine sdp line) :
    ∃ final, P2pPeerConnection.setRemoteSdpReturned api {} .otherThread sdp = .ok (0, final) := by
  have hreachable : Reachable api {} := ⟨[], rfl⟩
  exact (setRemoteSdpReturned_accepted hreachable.wellFormed haccepted
    (hasSection_of_collectedLine hline) (hasBundle_iff.mp hbundle)).mpr (Or.inl rfl)

/-- Malformed attributes are refused, and the others parsed, exactly when every malformed
fingerprint is taken for an attribute of ICE without a value, no line leaves its bounds first, and
no attributes are mixed where the text is accepted. -/
theorem rejectsMalformed_iff (api : TransportApi) (sdp : Bytes) :
    RejectsMalformed api sdp ↔ MalformedRefused api sdp := by
  constructor
  · intro hrejects
    refine ⟨fun line hline hstarts hnot => ?_, ?_, fun haccepted hbundle line hline => ?_⟩
    · exact parseTransportInfo_false_iff.mp
        (hrejects.line line hline (Or.inr ⟨hstarts, hnot⟩))
    · rintro ⟨line, hline, hmalformed⟩ hinvalid
      obtain ⟨final, hfinal⟩ := hrejects.text ⟨line, hline, hmalformed⟩ {} .otherThread
      have hfields : sdpFields sdp ≠ [] := by
        intro hnone
        obtain ⟨mid, -, hentry⟩ := hline
        rw [sdpEntries, hnone] at hentry
        exact List.not_mem_nil hentry
      exact absurd ((rejected_of_returned hfields hfinal).symm.trans hinvalid) (by simp)
    · obtain ⟨final, hfinal⟩ := @returned_zero_of_accepted api sdp line haccepted hbundle hline
      exact unmixed_of_attributesParsed
        (hrejects.parsed {} .otherThread final ⟨[], rfl⟩ hfinal line hline)
  · intro hrefused
    refine ⟨fun line hline hmalformed => ?_, ?_, ?_⟩
    · exact parseTransportInfo_false_iff.mpr
        (findsNoIceValue_of_malformed hrefused hline hmalformed)
    · rintro ⟨line, hline, hmalformed⟩ connection caller
      exact returned_of_rejected (rejected_of_malformed hrefused hline hmalformed)
    · intro connection caller final _ hfinal line hline
      obtain ⟨haccepted, hgroups, -⟩ := setRemoteSdpReturned_eq_zero hfinal
      have hwell : ¬ Malformed api line := fun hmalformed =>
        (rejected_of_malformed hrefused hline hmalformed).not_accepted haccepted
      exact attributesParsed_of_unmixed (attributeVerdict_of_accepted haccepted hline) hwell
        (hrefused.unmixed haccepted (hasBundle_iff.mpr hgroups) line hline)

end Text

/-- A fingerprint that is no hexadecimal text. -/
def unreadableLine : Bytes := ascii "a=fingerprint:sha-256 ZZ"

def unreadableSdp : Bytes :=
  ascii "a=group:BUNDLE audio\nm=audio 9 UDP/TLS/RTP/SAVPF 111\n" ++ unreadableLine

theorem malformed_unreadableLine : Malformed rfc4572Api unreadableLine := by
  refine Or.inr ⟨by decide, ?_⟩
  rintro ⟨alg, value, -, htokens, hcreate⟩
  have hline : tokenize space unreadableLine =
      [kFingerprintAttribute ++ colon :: ascii "sha-256", ascii "ZZ"] := by
    decide +kernel
  rw [hline] at htokens
  obtain ⟨hfirst, hrest⟩ := List.cons.inj htokens
  obtain ⟨rfl, -⟩ := List.cons.inj hrest
  obtain ⟨-, rfl⟩ := List.cons.inj (List.append_cancel_left hfirst)
  exact hcreate (by decide +kernel)

/-- The line is malformed, and 0 is returned. -/
theorem unreadableSdp_accepted :
    CollectedLine unreadableSdp unreadableLine ∧ Malformed rfc4572Api unreadableLine ∧
      returnedPt (P2pPeerConnection.setRemoteSdpReturned rfc4572Api {} .otherThread
        unreadableSdp) = some (0, 111) ∧
      ¬ RejectsMalformed rfc4572Api unreadableSdp := by
  have hcollected : CollectedLine unreadableSdp unreadableLine :=
    ⟨kAudio, Or.inl rfl, by decide +kernel⟩
  have hreturned : returnedPt (P2pPeerConnection.setRemoteSdpReturned rfc4572Api {} .otherThread
      unreadableSdp) = some (0, 111) := by
    decide +kernel
  refine ⟨hcollected, malformed_unreadableLine, hreturned, fun hrejects => ?_⟩
  obtain ⟨final, hfinal⟩ :=
    hrejects.text ⟨_, hcollected, malformed_unreadableLine⟩ {} .otherThread
  rw [hfinal] at hreturned
  have hminus : (-1 : ℤ) = 0 := congrArg Prod.fst (Option.some.inj hreturned)
  exact absurd hminus (by decide)

end PeerConnection.Connection
