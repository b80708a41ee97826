import Mathlib

/-!
# Byte strings, tokens and decimal numerals

The signalling code handles `std::string` values as raw bytes: it searches for
fixed patterns, cuts a line at single delimiter bytes and prints numbers in
decimal.  This file collects these operations on byte lists together with the
facts the parser and printer proofs rest on.  Nothing here refers to a
particular text format.
-/

namespace PeerConnection.Text

abbrev Byte := UInt8
abbrev Bytes := List Byte

instance lawfulBEqBytes : LawfulBEq Bytes := inferInstance

/-- The bytes of an ASCII literal. -/
def ascii (text : String) : Bytes :=
  text.toList.map fun char => char.toNat.toUInt8

def lf : Byte := 10
def cr : Byte := 13
def space : Byte := 32
def colon : Byte := 58

/-! ## Decimal numerals -/

def decimalNat (value : ℕ) : Bytes :=
  (Nat.toDigits 10 value).map fun char => char.toNat.toUInt8

/-- A signed number as an output stream prints it. -/
def decimal : ℤ → Bytes
  | .ofNat value => decimalNat value
  | .negSucc value => ascii "-" ++ decimalNat (value + 1)

def IsDigit (byte : Byte) : Prop := 48 ≤ byte ∧ byte ≤ 57

instance : DecidablePred IsDigit := fun byte =>
  inferInstanceAs (Decidable (48 ≤ byte ∧ byte ≤ 57))

/-- Read digits until the first other byte. -/
def readDigits (value : ℕ) : Bytes → ℕ
  | [] => value
  | byte :: bytes =>
      if IsDigit byte then readDigits (10 * value + (byte.toNat - 48)) bytes else value

/-- The white space of the C locale. -/
def isSpace (byte : Byte) : Bool :=
  byte = space || (9 ≤ byte && byte ≤ 13)

/-- `std::atoi`.  The value is exact, also of a text outside the range of `int`, where the C library
leaves the result undefined. -/
def atoi (text : Bytes) : ℤ :=
  match text.dropWhile isSpace with
  | [] => 0
  | byte :: bytes =>
      if byte = 45 then -(readDigits 0 bytes : ℤ)
      else if byte = 43 then readDigits 0 bytes
      else readDigits 0 (byte :: bytes)

/-- The last digit comes off the end. -/
theorem decimalNat_eq (value : ℕ) :
    decimalNat value =
      (if value < 10 then [] else decimalNat (value / 10)) ++ [(48 + value % 10).toUInt8] := by
  have hdigit : ∀ digit < 10, (Nat.digitChar digit).toNat.toUInt8 = (48 + digit).toUInt8 := by
    decide
  rw [decimalNat, Nat.toDigits_eq_if (by omega)]
  split_ifs with hsmall
  · simp [hdigit value hsmall, Nat.mod_eq_of_lt hsmall]
  · simp [hdigit (value % 10) (Nat.mod_lt _ (by omega)), decimalNat]

theorem decimalNat_ne_nil (value : ℕ) : decimalNat value ≠ [] := by
  rw [decimalNat_eq]
  simp

theorem isDigit_digit (value : ℕ) : IsDigit (48 + value % 10).toUInt8 := by
  have hall : ∀ digit < 10, IsDigit (48 + digit).toUInt8 := by decide
  exact hall _ (Nat.mod_lt _ (by omega))

theorem isDigit_of_mem_decimalNat {value : ℕ} {byte : Byte}
    (hbyte : byte ∈ decimalNat value) : IsDigit byte := by
  induction value using Nat.strong_induction_on with
  | _ value ih =>
      rw [decimalNat_eq, List.mem_append, List.mem_singleton] at hbyte
      rcases hbyte with hfront | rfl
      · split_ifs at hfront with hsmall
        · simp at hfront
        · exact ih (value / 10) (by omega) hfront
      · exact isDigit_digit value

theorem not_mem_decimalNat {byte : Byte} (hbyte : ¬ IsDigit byte) (value : ℕ) :
    byte ∉ decimalNat value := fun hmem => hbyte (isDigit_of_mem_decimalNat hmem)

theorem IsDigit.ne {byte other : Byte} (hbyte : IsDigit byte) (hother : ¬ IsDigit other) :
    byte ≠ other := by
  rintro rfl
  exact hother hbyte

theorem length_decimalNat_le {value digits : ℕ} (hdigits : 1 ≤ digits)
    (hvalue : value < 10 ^ digits) : (decimalNat value).length ≤ digits := by
  induction digits generalizing value with
  | zero => omega
  | succ digits ih =>
      rw [decimalNat_eq]
      split_ifs with hsmall
      · simp
      · have hpositive : 1 ≤ digits := by
          rcases digits with _ | digits
          · omega
          · omega
        have hless : value / 10 < 10 ^ digits := by
          rw [pow_succ] at hvalue
          omega
        simpa using ih hpositive hless

theorem readDigits_append (value : ℕ) {digits : Bytes} (hdigits : ∀ byte ∈ digits, IsDigit byte)
    (rest : Bytes) :
    readDigits value (digits ++ rest) = readDigits (readDigits value digits) rest := by
  induction digits generalizing value with
  | nil => rfl
  | cons byte digits ih =>
      have hbyte := hdigits byte (by simp)
      rw [List.cons_append, readDigits, if_pos hbyte, readDigits, if_pos hbyte]
      exact ih _ fun other hother => hdigits other (by simp [hother])

theorem readDigits_decimalNat (value : ℕ) : readDigits 0 (decimalNat value) = value := by
  have hread : ∀ front digit : ℕ, readDigits front [(48 + digit % 10).toUInt8] =
      10 * front + digit % 10 := by
    intro front digit
    have hall : ∀ digit < 10, (48 + digit).toUInt8.toNat - 48 = digit := by decide
    rw [readDigits, if_pos (isDigit_digit digit), hall _ (Nat.mod_lt _ (by omega))]
    rfl
  induction value using Nat.strong_induction_on with
  | _ value ih =>
      rw [decimalNat_eq]
      split_ifs with hsmall
      · rw [List.nil_append, hread]
        omega
      · rw [readDigits_append 0 (fun _ => isDigit_of_mem_decimalNat) _,
          ih (value / 10) (by omega), hread]
        omega

theorem isSpace_of_isDigit {byte : Byte} (hbyte : IsDigit byte) : isSpace byte = false := by
  obtain ⟨hlow, hhigh⟩ := hbyte
  simp only [isSpace, space, UInt8.le_iff_toNat_le] at *
  simp only [Bool.or_eq_false_iff, Bool.and_eq_false_iff, decide_eq_false_iff_not,
    ← UInt8.toNat_inj]
  constructor
  · intro hspace
    rw [hspace] at hlow
    exact absurd hlow (by decide)
  · right
    intro hle
    have hlow : 48 ≤ byte.toNat := hlow
    have hle : byte.toNat ≤ 13 := hle
    omega

/-- Numbers are read back as they were printed. -/
theorem atoi_decimal (value : ℕ) : atoi (decimal value) = value := by
  have hdigits : ∀ byte ∈ decimalNat value, IsDigit byte :=
    fun _ => isDigit_of_mem_decimalNat
  have hread := readDigits_decimalNat value
  have hdecimal : decimal value = decimalNat value := rfl
  rw [hdecimal, atoi]
  cases htext : decimalNat value with
  | nil => exact absurd htext (decimalNat_ne_nil value)
  | cons byte bytes =>
      rw [htext] at hdigits hread
      have hbyte : IsDigit byte := hdigits byte (by simp)
      have hminus : byte ≠ 45 := hbyte.ne (by decide)
      have hplus : byte ≠ 43 := hbyte.ne (by decide)
      rw [List.dropWhile_cons_of_neg (by simp [isSpace_of_isDigit hbyte])]
      simp only [if_neg hminus, if_neg hplus, hread]

theorem decimal_negSucc (value : ℕ) : decimal (.negSucc value) = 45 :: decimalNat (value + 1) :=
  rfl

theorem atoi_negSucc (value : ℕ) : atoi (decimal (.negSucc value)) = .negSucc value := by
  have hspace : isSpace 45 = false := by decide
  rw [decimal_negSucc, atoi, List.dropWhile_cons_of_neg (by simp [hspace])]
  simp only [if_true, readDigits_decimalNat]
  rfl

theorem decimal_injective : Function.Injective decimal := by
  have hread : Function.LeftInverse atoi decimal := by
    intro value
    cases value with
    | ofNat value => exact atoi_decimal value
    | negSucc value => exact atoi_negSucc value
  exact hread.injective

theorem decimalNat_injective : Function.Injective decimalNat :=
  Function.LeftInverse.injective readDigits_decimalNat

theorem decimal_ne_nil (value : ℤ) : decimal value ≠ [] := by
  cases value with
  | ofNat value => exact decimalNat_ne_nil value
  | negSucc value =>
      rw [decimal_negSucc]
      exact List.cons_ne_nil _ _

/-- The bytes of a signed number are digits, or the sign. -/
theorem not_mem_decimal {byte : Byte} (hbyte : ¬ IsDigit byte) (hminus : byte ≠ 45)
    (value : ℤ) : byte ∉ decimal value := by
  cases value with
  | ofNat value => exact not_mem_decimalNat hbyte value
  | negSucc value =>
      rw [decimal_negSucc, List.mem_cons, not_or]
      exact ⟨hminus, not_mem_decimalNat hbyte _⟩

/-- `::tolower` in the C locale. -/
def toLower (byte : Byte) : Byte :=
  if 65 ≤ byte ∧ byte ≤ 90 then byte + 32 else byte

/-! ## Tokens -/

section Tokens

variable {α : Type*}

/-- The pending field is emitted only when it is nonempty. -/
def flushField (field : List α) : List (List α) :=
  if field.isEmpty then [] else [field]

@[simp]
theorem flushField_nil : flushField ([] : List α) = [] := rfl

theorem flushField_of_ne_nil {field : List α} (hfield : field ≠ []) :
    flushField field = [field] := by
  simp [flushField, hfield]

variable [DecidableEq α]

/-- The loop of `tokenize`, with the bytes collected since the last
delimiter. -/
def tokenizeFrom (delimiter : α) (field : List α) : List α → List (List α)
  | [] => flushField field
  | value :: values =>
      if value = delimiter then
        flushField field ++ tokenizeFrom delimiter [] values
      else
        tokenizeFrom delimiter (field ++ [value]) values

/-- Split at one delimiter and drop the empty fields. -/
def tokenize (delimiter : α) (source : List α) : List (List α) :=
  tokenizeFrom delimiter [] source

@[simp]
theorem tokenize_nil (delimiter : α) : tokenize delimiter [] = [] := by
  simp [tokenize, tokenizeFrom]

theorem tokenizeFrom_append_delimiter (delimiter : α) (field left right : List α) :
    tokenizeFrom delimiter field (left ++ delimiter :: right) =
      tokenizeFrom delimiter field left ++ tokenize delimiter right := by
  induction left generalizing field with
  | nil => simp [tokenizeFrom, tokenize]
  | cons value values ih =>
      by_cases hvalue : value = delimiter
      · simp only [List.cons_append, tokenizeFrom, if_pos hvalue, ih,
          List.append_assoc]
      · simp only [List.cons_append, tokenizeFrom, if_neg hvalue, ih]

/-- A delimiter separates the tokens before it from the tokens after it. -/
theorem tokenize_append_delimiter (delimiter : α) (left right : List α) :
    tokenize delimiter (left ++ delimiter :: right) =
      tokenize delimiter left ++ tokenize delimiter right :=
  tokenizeFrom_append_delimiter delimiter [] left right

theorem tokenizeFrom_free (delimiter : α) (field word : List α)
    (hfree : delimiter ∉ word) :
    tokenizeFrom delimiter field word = flushField (field ++ word) := by
  induction word generalizing field with
  | nil => simp [tokenizeFrom]
  | cons value values ih =>
      simp only [List.mem_cons, not_or] at hfree
      rw [tokenizeFrom, if_neg (Ne.symm hfree.1), ih (field ++ [value]) hfree.2,
        List.append_assoc, List.singleton_append]

/-- A nonempty word without the delimiter is its own single token. -/
theorem tokenize_word {delimiter : α} {word : List α}
    (hne : word ≠ []) (hfree : delimiter ∉ word) :
    tokenize delimiter word = [word] := by
  rw [tokenize, tokenizeFrom_free delimiter [] word hfree, List.nil_append,
    flushField_of_ne_nil hne]

theorem tokenize_word_append {delimiter : α} {word rest : List α}
    (hne : word ≠ []) (hfree : delimiter ∉ word) :
    tokenize delimiter (word ++ delimiter :: rest) =
      word :: tokenize delimiter rest := by
  rw [tokenize_append_delimiter, tokenize_word hne hfree, List.singleton_append]

/-- Words that end with the delimiter come back as the tokens of their
concatenation. -/
theorem tokenize_flatMap_terminated {delimiter : α} {words : List (List α)}
    (hwords : ∀ word ∈ words, word ≠ [] ∧ delimiter ∉ word) :
    tokenize delimiter (words.flatMap fun word => word ++ [delimiter]) = words := by
  induction words with
  | nil => simp
  | cons word words ih =>
      have hword := hwords word (by simp)
      rw [List.flatMap_cons, List.append_assoc, List.singleton_append,
        tokenize_word_append hword.1 hword.2,
        ih fun other hother => hwords other (by simp [hother])]

/-- Words that start with the delimiter come back as the tokens of their
concatenation. -/
theorem tokenize_flatMap_introduced {delimiter : α} {words : List (List α)}
    (hwords : ∀ word ∈ words, word ≠ [] ∧ delimiter ∉ word) :
    tokenize delimiter (words.flatMap fun word => delimiter :: word) = words := by
  induction words with
  | nil => simp
  | cons word words ih =>
      have hword := hwords word (by simp)
      have htail := ih fun other hother => hwords other (by simp [hother])
      have hhead := tokenize_append_delimiter delimiter []
        (word ++ words.flatMap fun word => delimiter :: word)
      rw [List.flatMap_cons, List.cons_append]
      rw [List.nil_append, tokenize_nil, List.nil_append] at hhead
      rw [hhead]
      cases words with
      | nil => simpa using tokenize_word hword.1 hword.2
      | cons next words =>
          simp only [List.flatMap_cons, List.cons_append] at htail ⊢
          have hskip := tokenize_append_delimiter delimiter []
            (next ++ words.flatMap fun word => delimiter :: word)
          rw [List.nil_append, tokenize_nil, List.nil_append] at hskip
          rw [tokenize_word_append hword.1 hword.2, ← hskip, htail]

theorem eq_of_flatMap_introduced {delimiter : α} {words others : List (List α)}
    (hwords : ∀ word ∈ words, word ≠ [] ∧ delimiter ∉ word)
    (hothers : ∀ word ∈ others, word ≠ [] ∧ delimiter ∉ word)
    (hsame : words.flatMap (delimiter :: ·) = others.flatMap (delimiter :: ·)) :
    words = others := by
  rw [← tokenize_flatMap_introduced hwords, ← tokenize_flatMap_introduced hothers, hsame]

/-- A word, and words that start with the delimiter. -/
theorem tokenize_word_flatMap_introduced {delimiter : α} {word : List α}
    {words : List (List α)} (hwords : ∀ other ∈ word :: words, other ≠ [] ∧ delimiter ∉ other) :
    tokenize delimiter (word ++ words.flatMap fun other => delimiter :: other) =
      word :: words := by
  have htail := tokenize_flatMap_introduced hwords
  rwa [List.flatMap_cons, List.cons_append, ← List.nil_append (delimiter :: _),
    tokenize_append_delimiter, tokenize_nil, List.nil_append] at htail

theorem mem_tokenizeFrom_flatten {delimiter value : α} {field source : List α}
    (hvalue : value ∈ field ∨ value ∈ source ∧ value ≠ delimiter) :
    ∃ token ∈ tokenizeFrom delimiter field source, value ∈ token := by
  induction source generalizing field with
  | nil =>
      have hfield : value ∈ field := by simpa using hvalue
      exact ⟨field, by simp [tokenizeFrom, flushField_of_ne_nil (List.ne_nil_of_mem hfield)],
        hfield⟩
  | cons head rest ih =>
      by_cases hhead : head = delimiter
      · rw [tokenizeFrom, if_pos hhead]
        rcases hvalue with hfield | ⟨hsource, hne⟩
        · exact ⟨field, by simp [flushField_of_ne_nil (List.ne_nil_of_mem hfield)], hfield⟩
        · have hrest : value ∈ rest := by
            rcases List.mem_cons.mp hsource with rfl | hrest
            · exact absurd hhead hne
            · exact hrest
          obtain ⟨token, htoken, hmem⟩ := ih (Or.inr ⟨hrest, hne⟩)
          exact ⟨token, List.mem_append_right _ htoken, hmem⟩
      · rw [tokenizeFrom, if_neg hhead]
        refine ih ?_
        rcases hvalue with hfield | ⟨hsource, hne⟩
        · exact Or.inl (List.mem_append_left _ hfield)
        · rcases List.mem_cons.mp hsource with rfl | hrest
          · exact Or.inl (by simp)
          · exact Or.inr ⟨hrest, hne⟩

/-- Everything but the delimiter is in some token. -/
theorem exists_token_of_mem {delimiter value : α} {source : List α} (hvalue : value ∈ source)
    (hne : value ≠ delimiter) : ∃ token ∈ tokenize delimiter source, value ∈ token :=
  mem_tokenizeFrom_flatten (Or.inr ⟨hvalue, hne⟩)

end Tokens

/-! ## Occurrences of a pattern -/

/-- `text.find(pattern) != std::string::npos`. -/
abbrev Occurs (pattern text : Bytes) : Prop := pattern <:+: text

section Pairs

variable {α : Type*} {first second : α}

theorem not_pair_infix_iff {text : List α} :
    ¬ [first, second] <:+: text ↔
      text.IsChain fun left right => ¬ (left = first ∧ right = second) := by
  rw [List.isChain_iff_forall_rel_of_append_cons_cons]
  constructor
  · rintro hadjacent left right before after rfl ⟨rfl, rfl⟩
    exact hadjacent ⟨before, after, by simp⟩
  · rintro hchain ⟨before, after, rfl⟩
    exact hchain (List.append_assoc before [first, second] after) ⟨rfl, rfl⟩

/-- A pair occurs in a text on one side of a separator. -/
theorem not_pair_infix_append_cons {separator : α} (hfirst : separator ≠ first)
    (hsecond : separator ≠ second) {left right : List α} :
    ¬ [first, second] <:+: left ++ separator :: right ↔
      ¬ [first, second] <:+: left ∧ ¬ [first, second] <:+: right := by
  simp only [not_pair_infix_iff, List.isChain_append, List.isChain_cons]
  simp [hfirst, hsecond]

end Pairs

end PeerConnection.Text
