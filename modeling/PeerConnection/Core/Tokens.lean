import PeerConnection.Core.Text

/-!
# Texts of one token

A text is one token when its delimiters all come before the token or after it.
-/

namespace PeerConnection.Text

variable {α : Type*} {delimiter : α}

/-- The delimiters of the text come after everything else. -/
def DelimitersLast (delimiter : α) (text : List α) : Prop :=
  ∃ word count, delimiter ∉ word ∧ text = word ++ List.replicate count delimiter

theorem DelimitersLast.of_not_mem {text : List α} (hfree : delimiter ∉ text) :
    DelimitersLast delimiter text :=
  ⟨text, 0, hfree, by simp⟩

/-- A front without the delimiter makes no difference, if the delimiters do not follow it
directly. -/
theorem delimitersLast_append_iff {front text : List α} (hfront : delimiter ∉ front) :
    DelimitersLast delimiter (front ++ text) ↔ DelimitersLast delimiter text := by
  constructor
  · rintro ⟨word, count, hword, htext⟩
    rcases List.append_eq_append_iff.mp htext with ⟨rest, rfl, rfl⟩ | ⟨rest, rfl, hback⟩
    · exact ⟨rest, count, fun hmem => hword (List.mem_append_right _ hmem), rfl⟩
    · -- what the front has beyond the word are delimiters, so there is nothing
      have hrest : rest = [] := by
        rw [List.eq_nil_iff_forall_not_mem]
        intro value hvalue
        have hdelimiter : value ∈ List.replicate count delimiter := by
          rw [hback]
          exact List.mem_append_left _ hvalue
        rw [List.eq_of_mem_replicate hdelimiter] at hvalue
        exact hfront (List.mem_append_right _ hvalue)
      subst hrest
      exact ⟨[], count, List.not_mem_nil, hback.symm⟩
  · rintro ⟨word, count, hword, rfl⟩
    refine ⟨front ++ word, count, ?_, (List.append_assoc _ _ _).symm⟩
    rw [List.mem_append, not_or]
    exact ⟨hfront, hword⟩

/-- A delimiter that something else follows. -/
theorem not_delimitersLast {front rest : List α} {value : α} (hvalue : value ≠ delimiter)
    (hmem : value ∈ rest) : ¬ DelimitersLast delimiter (front ++ delimiter :: rest) := by
  rintro ⟨word, count, hword, htext⟩
  rcases List.append_eq_append_iff.mp htext with ⟨middle, rfl, hback⟩ | ⟨middle, rfl, hback⟩
  · cases middle with
    | nil =>
        have hreplicate : value ∈ List.replicate count delimiter := by
          rw [List.nil_append] at hback
          rw [← hback]
          exact List.mem_cons_of_mem _ hmem
        exact hvalue (List.eq_of_mem_replicate hreplicate)
    | cons head middle =>
        obtain ⟨rfl, -⟩ := List.cons.inj hback
        exact hword (by simp)
  · have hreplicate : value ∈ List.replicate count delimiter := by
      rw [hback]
      exact List.mem_append_right _ (List.mem_cons_of_mem _ hmem)
    exact hvalue (List.eq_of_mem_replicate hreplicate)

section Tokens

variable [DecidableEq α]

/-- There is no token among delimiters. -/
theorem tokenize_eq_nil_iff {text : List α} :
    tokenize delimiter text = [] ↔ ∀ value ∈ text, value = delimiter := by
  constructor
  · intro hnone value hvalue
    by_contra hne
    obtain ⟨token, htoken, -⟩ := exists_token_of_mem hvalue hne
    rw [hnone] at htoken
    exact List.not_mem_nil htoken
  · intro hall
    rw [List.eq_replicate_of_mem hall]
    generalize text.length = count
    induction count with
    | zero => simp
    | succ count ih =>
        have hcons := tokenize_append_delimiter delimiter [] (List.replicate count delimiter)
        rw [List.nil_append, tokenize_nil, List.nil_append, ih] at hcons
        rw [List.replicate_succ]
        exact hcons

/-- A text that begins with a token has no other one exactly when its delimiters come last. -/
theorem tokenize_length_one_iff {first : α} {text : List α} (hfirst : first ≠ delimiter) :
    (∃ token, tokenize delimiter (first :: text) = [token]) ↔
      DelimitersLast delimiter (first :: text) := by
  constructor
  · rintro ⟨token, htoken⟩
    by_cases hmem : delimiter ∈ first :: text
    · obtain ⟨word, rest, hsplit, hword⟩ := List.eq_append_cons_of_mem hmem
      have hne : word ≠ [] := by
        rintro rfl
        exact hfirst (List.cons.inj hsplit).1
      rw [hsplit, tokenize_word_append hne hword] at htoken
      have hrest := tokenize_eq_nil_iff.mp (List.cons.inj htoken).2
      refine ⟨word, rest.length + 1, hword, ?_⟩
      rw [hsplit, List.replicate_succ, ← List.eq_replicate_of_mem hrest]
    · exact DelimitersLast.of_not_mem hmem
  · rintro ⟨word, count, hword, htext⟩
    have hne : word ≠ [] := by
      rintro rfl
      have hhead : first ∈ List.replicate count delimiter := by
        rw [List.nil_append] at htext
        rw [← htext]
        exact List.mem_cons_self
      exact hfirst (List.eq_of_mem_replicate hhead)
    refine ⟨word, ?_⟩
    rw [htext]
    cases count with
    | zero => rw [List.replicate_zero, List.append_nil, tokenize_word hne hword]
    | succ count =>
        rw [List.replicate_succ, tokenize_word_append hne hword,
          tokenize_eq_nil_iff.mpr fun value hvalue => List.eq_of_mem_replicate hvalue]

/-- The token of a text whose delimiters come last. -/
theorem tokenize_of_delimitersLast {word : List α} (count : ℕ) (hne : word ≠ [])
    (hword : delimiter ∉ word) :
    tokenize delimiter (word ++ List.replicate count delimiter) = [word] := by
  cases count with
  | zero => rw [List.replicate_zero, List.append_nil, tokenize_word hne hword]
  | succ count =>
      rw [List.replicate_succ, tokenize_word_append hne hword,
        tokenize_eq_nil_iff.mpr fun value hvalue => List.eq_of_mem_replicate hvalue]

end Tokens

end PeerConnection.Text
