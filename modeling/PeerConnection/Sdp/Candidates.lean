import PeerConnection.Core.Tokens
import PeerConnection.Sdp.Sections

/-!
# Candidate lines

A candidate line has eight fields and any number of extensions after them.  `ParseCandidates` takes
the value of the attribute from `GetAttribute`, which cuts the whole line at its colons, so that it
loses every candidate with a colon between two other bytes: in its address or in an extension.
-/

namespace PeerConnection.Sdp

open PeerConnection.Text
open PeerConnection.Scan

/-- A byte of a foundation, a transport or a type. -/
def IsTokenByte (byte : Byte) : Prop :=
  byte ≠ space ∧ byte ≠ colon ∧ byte ≠ cr ∧ byte ≠ lf

instance decidableIsTokenByte : DecidablePred IsTokenByte := fun byte =>
  inferInstanceAs (Decidable (byte ≠ space ∧ byte ≠ colon ∧ byte ≠ cr ∧ byte ≠ lf))

/-- A token of the candidate grammar. -/
structure Token where
  bytes : Bytes
  ne_nil : bytes ≠ []
  allowed : ∀ byte ∈ bytes, IsTokenByte byte

/-- The groups of an IPv6 address are what its text has between the colons, with an empty one for
each end of a double colon. -/
inductive CandidateAddress where
  | ipv4 (a b c d : UInt8)
  | ipv6 (front : Bytes) (middle : Bytes) (groups : List Bytes)

namespace CandidateAddress

def text : CandidateAddress → Bytes
  | ipv4 a b c d =>
      decimalNat a.toNat ++ 46 :: (decimalNat b.toNat ++ 46 ::
        (decimalNat c.toNat ++ 46 :: decimalNat d.toNat))
  | ipv6 front middle groups =>
      front ++ colon :: (middle ++ groups.flatMap fun group => colon :: group)

def IsIpv4 : CandidateAddress → Prop
  | ipv4 _ _ _ _ => True
  | ipv6 _ _ _ => False

end CandidateAddress

/-- A line of the candidate grammar. -/
structure CandidateLine where
  foundation : Token
  component : ℕ
  component_range : 1 ≤ component ∧ component ≤ 256
  transport : Token
  priority : ℕ
  priority_range : 1 ≤ priority ∧ priority < 2 ^ 31
  address : CandidateAddress
  port : UInt16
  type : Token
  extensions : List (Bytes × Bytes) := []

namespace CandidateLine

variable (line : CandidateLine)

/-- The names and values after the type. -/
def extensionText : Bytes :=
  line.extensions.flatMap fun extension => space :: extension.1 ++ space :: extension.2

/-- The fields up to the type. -/
def fieldText : Bytes :=
  line.foundation.bytes ++ space :: (decimal line.component ++ space ::
    (line.transport.bytes ++ space :: (decimal line.priority ++ space ::
      (line.address.text ++ space :: (decimal line.port.toNat ++ space ::
        (ascii "typ" ++ space :: line.type.bytes))))))

/-- The value of the attribute. -/
def value : Bytes := line.fieldText ++ line.extensionText

def text : Bytes := ascii "a=candidate" ++ colon :: line.value

/-- The candidate that the line describes. -/
def candidate : Candidate where
  foundation := line.foundation.bytes
  component := line.component
  protocol := line.transport.bytes
  priority := UInt32.ofNat line.priority
  host := line.address.text
  port := line.port
  type := line.type.bytes

end CandidateLine

/-- The line gives exactly its candidate, also where it stands in a section. -/
structure ReadsCandidate (line : CandidateLine) : Prop where
  parsed : ∀ allCandidate, parseCandidates line.text allCandidate =
    some (allCandidate ++ [line.candidate])
  section_line : ∀ api (state : ParseState), IsCollected state.mid →
    ∃ next, parseLine api state line.text = .next next ∧ next.mid = state.mid ∧
      next.allCandidate = state.allCandidate ++ [line.candidate]

/-! ## Colons -/

theorem Token.noSpace (token : Token) : space ∉ token.bytes := fun hspace =>
  (token.allowed space hspace).1 rfl

theorem Token.noColon (token : Token) : colon ∉ token.bytes := fun hcolon =>
  (token.allowed colon hcolon).2.1 rfl

theorem not_mem_ipv4 {byte : Byte} (hdigit : ¬ IsDigit byte) (hdot : byte ≠ 46) (a b c d : UInt8) :
    byte ∉ (CandidateAddress.ipv4 a b c d).text := by
  simp only [CandidateAddress.text, List.mem_append, List.mem_cons, not_or]
  exact ⟨not_mem_decimalNat hdigit _, hdot, not_mem_decimalNat hdigit _, hdot,
    not_mem_decimalNat hdigit _, hdot, not_mem_decimalNat hdigit _⟩

section Line

variable {line : CandidateLine}

theorem colon_not_mem_fieldText {a b c d : UInt8} (haddress : line.address = .ipv4 a b c d) :
    colon ∉ line.fieldText := by
  have hdigit : ¬ IsDigit colon := by decide
  have hspace : colon ≠ space := by decide
  have htyp : colon ∉ ascii "typ" := by decide
  simp only [CandidateLine.fieldText, haddress, List.mem_append, List.mem_cons, not_or]
  exact ⟨line.foundation.noColon, hspace, not_mem_decimal hdigit (by decide) _, hspace,
    line.transport.noColon, hspace, not_mem_decimal hdigit (by decide) _, hspace,
    not_mem_ipv4 hdigit (by decide) a b c d, hspace, not_mem_decimal hdigit (by decide) _, hspace,
    htyp, hspace, line.type.noColon⟩

/-- The colons of the value come last exactly when the address has none and those of the extensions
come last. -/
theorem delimitersLast_value_iff :
    DelimitersLast colon line.value ↔
      line.address.IsIpv4 ∧ DelimitersLast colon line.extensionText := by
  cases haddress : line.address with
  | ipv4 a b c d =>
      rw [CandidateLine.value, delimitersLast_append_iff (colon_not_mem_fieldText haddress)]
      exact (and_iff_right trivial).symm
  | ipv6 front middle groups =>
      refine iff_of_false ?_ fun hand => hand.1
      -- the type comes after the colon of the address
      obtain ⟨before, after, hvalue⟩ : ∃ before after, line.value =
          before ++ colon :: (after ++ ascii "typ" ++ (space :: line.type.bytes ++
            line.extensionText)) := by
        refine ⟨line.foundation.bytes ++ space :: (decimal line.component ++ space ::
          (line.transport.bytes ++ space :: (decimal line.priority ++ space :: front))),
          (middle ++ groups.flatMap fun group => colon :: group) ++ space ::
            (decimal line.port.toNat ++ [space]), ?_⟩
        simp [CandidateLine.value, CandidateLine.fieldText, haddress, CandidateAddress.text]
      rw [hvalue]
      have htyp : (116 : Byte) ∈ ascii "typ" := by decide
      exact not_delimitersLast (show (116 : Byte) ≠ colon by decide) (by simp [htyp])

theorem foundation_cons (line : CandidateLine) :
    ∃ first rest, line.value = first :: rest ∧ first ≠ colon := by
  obtain ⟨first, rest, hbytes⟩ := List.exists_cons_of_ne_nil line.foundation.ne_nil
  refine ⟨first, _, by rw [CandidateLine.value, CandidateLine.fieldText, hbytes]; rfl, ?_⟩
  intro hcolon
  exact line.foundation.noColon (by rw [hbytes, hcolon]; exact List.mem_cons_self)

theorem tokenize_text (line : CandidateLine) :
    tokenize colon line.text = ascii "a=candidate" :: tokenize colon line.value :=
  tokenize_word_append (by decide) (by decide)

/-- The attribute has a value when the colons of the value come last. -/
theorem getAttribute_text_ne_nil_iff :
    getAttribute line.text ≠ [] ↔ DelimitersLast colon line.value := by
  obtain ⟨first, rest, hvalue, hfirst⟩ := foundation_cons line
  rw [getAttribute, tokenize_text, hvalue, ← tokenize_length_one_iff hfirst]
  cases htokens : tokenize colon (first :: rest) with
  | nil =>
      obtain ⟨token, htoken, -⟩ := exists_token_of_mem
        (show first ∈ first :: rest from List.mem_cons_self) hfirst
      rw [htokens] at htoken
      exact absurd htoken List.not_mem_nil
  | cons token tokens =>
      cases tokens with
      | nil =>
          have hne : token ≠ [] := by
            rintro rfl
            obtain ⟨other, hother, hmem⟩ := exists_token_of_mem
              (show first ∈ first :: rest from List.mem_cons_self) hfirst
            rw [htokens, List.mem_singleton] at hother
            rw [hother] at hmem
            exact List.not_mem_nil hmem
          exact iff_of_true hne ⟨token, rfl⟩
      | cons other tokens => simp

/-! ## Fields -/

/-- The type ends the text or a space follows it. -/
theorem tokenize_type_append {tail : Bytes} (htail : tail = [] ∨ ∃ rest, tail = space :: rest) :
    ∃ others, tokenize space (line.type.bytes ++ tail) = line.type.bytes :: others := by
  rcases htail with rfl | ⟨rest, rfl⟩
  · exact ⟨[], by rw [List.append_nil, tokenize_word line.type.ne_nil line.type.noSpace]⟩
  · exact ⟨_, tokenize_word_append line.type.ne_nil line.type.noSpace⟩

/-- The eight fields, in order. -/
theorem tokenize_fieldText_append {a b c d : UInt8} (haddress : line.address = .ipv4 a b c d)
    {tail : Bytes} (htail : tail = [] ∨ ∃ rest, tail = space :: rest) :
    ∃ others, tokenize space (line.fieldText ++ tail) =
      line.foundation.bytes :: decimal line.component :: line.transport.bytes ::
        decimal line.priority :: line.address.text :: decimal line.port.toNat :: ascii "typ" ::
          line.type.bytes :: others := by
  have hdigit : ¬ IsDigit space := by decide
  have hipv4 : line.address.text ≠ [] ∧ space ∉ line.address.text := by
    rw [haddress]
    exact ⟨by simp [CandidateAddress.text], not_mem_ipv4 hdigit (by decide) a b c d⟩
  obtain ⟨others, hothers⟩ := tokenize_type_append htail
  refine ⟨others, ?_⟩
  simp only [CandidateLine.fieldText, List.append_assoc, List.cons_append]
  rw [tokenize_word_append line.foundation.ne_nil line.foundation.noSpace,
    tokenize_word_append (decimal_ne_nil _) (not_mem_decimal hdigit (by decide) _),
    tokenize_word_append line.transport.ne_nil line.transport.noSpace,
    tokenize_word_append (decimal_ne_nil _) (not_mem_decimal hdigit (by decide) _),
    tokenize_word_append hipv4.1 hipv4.2,
    tokenize_word_append (decimal_ne_nil _) (not_mem_decimal hdigit (by decide) _),
    tokenize_word_append (by decide) (by decide), hothers]

theorem extensionText_head (line : CandidateLine) :
    line.extensionText = [] ∨ ∃ rest, line.extensionText = space :: rest := by
  rw [CandidateLine.extensionText]
  cases line.extensions with
  | nil => exact Or.inl rfl
  | cons extension extensions => exact Or.inr ⟨_, rfl⟩

/-- The fields of the attribute are those of the line, and what is left of the extensions. -/
theorem tokenize_getAttribute {a b c d : UInt8} (haddress : line.address = .ipv4 a b c d)
    (hlast : DelimitersLast colon line.extensionText) :
    getAttribute line.text ≠ [] ∧ ∃ others, tokenize space (getAttribute line.text) =
      line.foundation.bytes :: decimal line.component :: line.transport.bytes ::
        decimal line.priority :: line.address.text :: decimal line.port.toNat :: ascii "typ" ::
          line.type.bytes :: others := by
  obtain ⟨tail, count, htail, hextensions⟩ := hlast
  have hword : colon ∉ line.fieldText ++ tail := by
    rw [List.mem_append, not_or]
    exact ⟨colon_not_mem_fieldText haddress, htail⟩
  have hne : line.fieldText ++ tail ≠ [] := by
    intro hnil
    exact line.foundation.ne_nil (List.append_eq_nil_iff.mp (List.append_eq_nil_iff.mp hnil).1).1
  have hvalue : line.value = (line.fieldText ++ tail) ++ List.replicate count colon := by
    rw [CandidateLine.value, hextensions, List.append_assoc]
  have hattribute : getAttribute line.text = line.fieldText ++ tail := by
    rw [getAttribute, tokenize_text, hvalue, tokenize_of_delimitersLast count hne hword]
  have hspaced : tail = [] ∨ ∃ rest, tail = space :: rest := by
    cases tail with
    | nil => exact Or.inl rfl
    | cons head tail =>
        rcases extensionText_head line with hnil | ⟨rest, hrest⟩
        · rw [hnil] at hextensions
          exact absurd hextensions (by simp)
        · rw [hrest] at hextensions
          exact Or.inr ⟨tail, by rw [(List.cons.inj hextensions).1]⟩
  rw [hattribute]
  exact ⟨hne, tokenize_fieldText_append haddress hspaced⟩

theorem occurs_candidate (line : CandidateLine) : Occurs kCandidateAttribute line.text :=
  ⟨[], line.value, by rw [CandidateLine.text, kCandidateAttribute]; rfl⟩

/-- What is read as an `int` is the priority. -/
theorem priority_read (line : CandidateLine) :
    UInt32.ofInt (line.priority : ℤ) = UInt32.ofNat line.priority := by
  have hrange := line.priority_range.2
  have hsame : ((line.priority : ℤ) % 2 ^ 32).toNat = line.priority := by omega
  rw [UInt32.ofInt, hsame]

theorem port_read (line : CandidateLine) : UInt16.ofInt (line.port.toNat : ℤ) = line.port := by
  have hrange := line.port.toNat_lt
  have hsame : ((line.port.toNat : ℤ) % 2 ^ 16).toNat = line.port.toNat := by omega
  rw [UInt16.ofInt, hsame, UInt16.ofNat_toNat]

/-- A value whose colons come last gives the candidate. -/
theorem parseCandidates_text {a b c d : UInt8} (haddress : line.address = .ipv4 a b c d)
    (hlast : DelimitersLast colon line.extensionText) (allCandidate : List Candidate) :
    parseCandidates line.text allCandidate = some (allCandidate ++ [line.candidate]) := by
  obtain ⟨hne, others, hfields⟩ := tokenize_getAttribute haddress hlast
  rw [parseCandidates, if_neg (not_not_intro (occurs_candidate line)),
    if_neg (by rw [List.isEmpty_iff]; exact hne), hfields, candidateOf, atoi_decimal,
    atoi_decimal, atoi_decimal, Option.map_some, CandidateLine.candidate, priority_read, port_read]

/-- Any other value is refused. -/
theorem parseCandidates_eq_none (hnot : ¬ DelimitersLast colon line.value)
    (allCandidate : List Candidate) : parseCandidates line.text allCandidate = none := by
  have hempty : getAttribute line.text = [] :=
    not_not.mp fun hne => hnot (getAttribute_text_ne_nil_iff.mp hne)
  rw [parseCandidates, if_neg (not_not_intro (occurs_candidate line)), if_pos (by rw [hempty]; rfl)]

/-! ## The line in its section -/

theorem not_isMediaLine_text (line : CandidateLine) : ¬ IsMediaLine line.text := by
  rintro ⟨-, hstart⟩
  rcases hstart with hhead | hhead
  · exact absurd (Option.some.inj hhead) (by decide)
  · exact absurd (Option.some.inj hhead) (by decide)

/-- A line of so many fields is no fingerprint. -/
theorem fingerprintTokens_text (line : CandidateLine) : fingerprintTokens line.text = none := by
  obtain ⟨rest, hrest⟩ : ∃ rest, line.text =
      (ascii "a=candidate" ++ colon :: line.foundation.bytes) ++ space ::
        (decimal line.component ++ space :: (line.transport.bytes ++ space :: rest)) :=
    ⟨_, by simp [CandidateLine.text, CandidateLine.value, CandidateLine.fieldText]; rfl⟩
  have hfront : space ∉ ascii "a=candidate" ++ colon :: line.foundation.bytes := by
    rw [List.mem_append, List.mem_cons, not_or, not_or]
    exact ⟨by decide, by decide, line.foundation.noSpace⟩
  have hnumber : decimal line.component ≠ [] ∧ space ∉ decimal line.component :=
    ⟨decimal_ne_nil _, not_mem_decimal (by decide) (by decide) _⟩
  have htokens : tokenize space line.text =
      (ascii "a=candidate" ++ colon :: line.foundation.bytes) :: decimal line.component ::
        line.transport.bytes :: tokenize space rest := by
    rw [hrest, tokenize_word_append (by simp) hfront, tokenize_word_append hnumber.1 hnumber.2,
      tokenize_word_append line.transport.ne_nil line.transport.noSpace]
  rw [fingerprintTokens, htokens, ite_self]

theorem lineVerdict_text {a b c d : UInt8} (haddress : line.address = .ipv4 a b c d)
    (hlast : DelimitersLast colon line.extensionText) (mid : Bytes) :
    lineVerdict mid line.text = .pass := by
  have hmedia : mediaVerdict line.text = .pass := if_pos (not_isMediaLine_text line)
  have hne := (tokenize_getAttribute haddress hlast).1
  have hattribute : attributeVerdict line.text = .pass := by
    rw [attributeVerdict_pass_iff, parseCandidates_text haddress hlast,
      fingerprintTokens_text]
    refine ⟨by simp, ?_, by simp⟩
    rintro (hufrag | hpwd)
    · rw [ufragOf] at hufrag
      split_ifs at hufrag
      exact hne (Option.some.inj hufrag)
    · rw [pwdOf] at hpwd
      split_ifs at hpwd
      exact hne (Option.some.inj hpwd)
  rw [lineVerdict_of_kind_pass hmedia, hattribute, ite_self]

/-- A candidate line is read exactly when its address is one of IPv4 and the colons of its
extensions come last. -/
theorem readsCandidate_iff (line : CandidateLine) :
    ReadsCandidate line ↔ line.address.IsIpv4 ∧ DelimitersLast colon line.extensionText := by
  constructor
  · intro hreads
    rw [← delimitersLast_value_iff]
    by_contra hnot
    have hparsed := hreads.parsed []
    rw [parseCandidates_eq_none hnot] at hparsed
    exact absurd hparsed (by simp)
  · rintro ⟨hipv4, hlast⟩
    obtain ⟨a, b, c, d, haddress⟩ : ∃ a b c d, line.address = .ipv4 a b c d := by
      cases haddress : line.address with
      | ipv4 a b c d => exact ⟨a, b, c, d, rfl⟩
      | ipv6 front middle groups =>
          rw [haddress] at hipv4
          exact hipv4.elim
    have hparsed := parseCandidates_text haddress hlast
    refine ⟨hparsed, fun api state hmid => ?_⟩
    have hnext : nextSection state.mid line.text = state.mid := if_neg (not_isMediaLine_text line)
    refine ⟨_, parseLine_pass (lineVerdict_text haddress hlast _), hnext, ?_⟩
    have hadded : sectionCandidates (state.mid, line.text) = [line.candidate] := by
      rw [sectionCandidates, if_pos hmid, hparsed]
      rfl
    rw [acceptLine, hnext]
    exact congrArg (state.allCandidate ++ ·) hadded

end Line

/-- A host candidate with this address. -/
def hostLine (address : CandidateAddress) : CandidateLine where
  foundation := ⟨ascii "1", by decide, by decide +kernel⟩
  component := 1
  component_range := by decide
  transport := ⟨ascii "udp", by decide, by decide +kernel⟩
  priority := 2113937151
  priority_range := by decide
  address := address
  port := 54400
  type := ⟨ascii "host", by decide, by decide +kernel⟩
  extensions := [(ascii "generation", ascii "0")]

/-- 2001:db8::1. -/
def ipv6Address : CandidateAddress :=
  .ipv6 (ascii "2001") (ascii "db8") [[], ascii "1"]

/-- The line is well formed, and it is refused. -/
theorem ipv6Line_refused :
    (hostLine ipv6Address).text =
        ascii "a=candidate:1 1 udp 2113937151 2001:db8::1 54400 typ host generation 0" ∧
      parseCandidates (hostLine ipv6Address).text [] = none ∧
      ¬ ReadsCandidate (hostLine ipv6Address) := by
  have hnone : parseCandidates (hostLine ipv6Address).text [] = none := by decide +kernel
  refine ⟨by decide +kernel, hnone, fun hreads => ?_⟩
  exact absurd (hnone.symm.trans (hreads.parsed [])) (by simp)

end PeerConnection.Sdp
