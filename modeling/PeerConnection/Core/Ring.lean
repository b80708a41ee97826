import Mathlib

/-!
# Queues in a ring

A full list that is overwritten at a start position, which then moves on, is a queue:
read from the start and around, it loses its first entry and gains a last one.
-/

namespace PeerConnection.Ring

variable {α : Type*}

/-- A queue of limited length takes an entry.  When it is full its first entry gives way. -/
def push (capacity : ℕ) (queue : List α) (entry : α) : List α :=
  if queue.length < capacity then queue ++ [entry] else queue.tail ++ [entry]

/-- The entry that gives way. -/
def displaced (capacity : ℕ) (queue : List α) : Option α :=
  if queue.length < capacity then none else queue.head?

theorem push_perm {capacity : ℕ} (hcapacity : 0 < capacity) (queue : List α) (entry : α) :
    ((displaced capacity queue).toList ++ push capacity queue entry).Perm
      (queue ++ [entry]) := by
  unfold displaced push
  split_ifs with hroom
  · exact List.Perm.refl _
  · cases queue with
    | nil => exact absurd hcapacity hroom
    | cons first queue => exact List.Perm.refl _

/-- The first entry is overwritten and becomes the last one. -/
theorem rotate_set {ring : List α} {start : ℕ} (hstart : start < ring.length) (entry : α) :
    (ring.set start entry).rotate ((start + 1) % ring.length) =
      (ring.rotate start).tail ++ [entry] := by
  have hset : ring.set start entry = ring.take start ++ entry :: ring.drop (start + 1) :=
    List.set_eq_take_append_cons_drop.trans (if_pos hstart)
  have hlength : (ring.set start entry).length = ring.length := List.length_set
  rw [← hlength, List.rotate_mod, hset, List.rotate_eq_drop_append_take hstart.le,
    List.drop_eq_getElem_cons hstart]
  have hfront : (ring.take start ++ [entry]).length = start + 1 := by
    rw [List.length_append, List.length_take_of_le hstart.le]
    rfl
  calc (ring.take start ++ entry :: ring.drop (start + 1)).rotate (start + 1)
      = ((ring.take start ++ [entry]) ++ ring.drop (start + 1)).rotate (start + 1) := by
        rw [List.append_assoc, List.singleton_append]
    _ = ring.drop (start + 1) ++ (ring.take start ++ [entry]) := by
        rw [← hfront, List.rotate_append_length_eq]
    _ = (ring[start] :: ring.drop (start + 1) ++ ring.take start).tail ++ [entry] := by
        rw [List.cons_append, List.tail_cons, List.append_assoc]

/-- Going around the ring index by index reads it in the order of the queue. -/
theorem map_range_getElem? (ring : List α) (start : ℕ) :
    (List.range ring.length).map (fun index => ring[(index + start) % ring.length]?) =
      (ring.rotate start).map some := by
  apply List.ext_getElem
  · simp
  · intro index hleft hright
    have hindex : index < ring.length := by simpa using hleft
    have hpos : (index + start) % ring.length < ring.length :=
      Nat.mod_lt _ (Nat.zero_lt_of_lt hindex)
    simp [List.getElem_rotate, hpos]

end PeerConnection.Ring
