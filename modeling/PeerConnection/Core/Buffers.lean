import Mathlib

/-!
# Copies between buffers

A buffer is a list of cells.  `memcpy` copies a range of one buffer over a range of
another and is undefined unless both ranges lie inside; an empty range may stand at the
very end.
-/

namespace PeerConnection.Buffers

variable {α : Type*}

/-- The range of `count` cells from `offset` on. -/
def window (buffer : List α) (offset count : ℕ) : List α :=
  (buffer.drop offset).take count

def memcpy (dest : List α) (destOffset : ℕ) (src : List α) (srcOffset count : ℕ) :
    Option (List α) :=
  if destOffset + count ≤ dest.length ∧ srcOffset + count ≤ src.length then
    some (dest.take destOffset ++ window src srcOffset count ++
      dest.drop (destOffset + count))
  else none

theorem length_window {buffer : List α} {offset count : ℕ}
    (hinside : offset + count ≤ buffer.length) :
    (window buffer offset count).length = count := by
  simp only [window, List.length_take, List.length_drop]
  omega

/-- A part of a concatenation is the window behind the parts before it. -/
theorem window_append_append (before part after : List α) :
    window (before ++ (part ++ after)) before.length part.length = part := by
  rw [window, List.drop_left, List.take_left]

variable {first second src : List α} {srcOffset count : ℕ}

/-- The front of a buffer is replaced. -/
theorem memcpy_front (hlength : first.length = count)
    (hinside : srcOffset + count ≤ src.length) :
    memcpy (first ++ second) 0 src srcOffset count =
      some (window src srcOffset count ++ second) := by
  have hfits : 0 + count ≤ (first ++ second).length := by
    rw [List.length_append]
    omega
  rw [memcpy, if_pos ⟨hfits, hinside⟩, List.take_zero, List.nil_append, Nat.zero_add,
    ← hlength, List.drop_left]

/-- What stands behind the front of a buffer, up to its end, is replaced. -/
theorem memcpy_rest (hlength : second.length = count)
    (hinside : srcOffset + count ≤ src.length) :
    memcpy (first ++ second) first.length src srcOffset count =
      some (first ++ window src srcOffset count) := by
  have hend : (first ++ second).length = first.length + count := by
    rw [List.length_append, hlength]
  rw [memcpy, if_pos ⟨hend.ge, hinside⟩, List.take_left, ← hend, List.drop_length,
    List.append_nil]

end PeerConnection.Buffers
