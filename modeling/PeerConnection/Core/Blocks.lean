import Mathlib.Data.List.Basic

/-!
# Blocks of items

A list of blocks, each of which begins at an item of one kind and goes on with
items of other kinds, can be recovered from its concatenation.
-/

namespace PeerConnection.Blocks

variable {α : Type*} {starts : α → Prop}

/-- The first item begins the block and no other item begins one. -/
def IsBlock (starts : α → Prop) (block : List α) : Prop :=
  ∃ head tail, block = head :: tail ∧ starts head ∧ ∀ item ∈ tail, ¬ starts item

/-- A front without starts ends where the rest starts. -/
theorem append_inj_of_starts {front other rest others : List α}
    (hfront : ∀ item ∈ front, ¬ starts item) (hother : ∀ item ∈ other, ¬ starts item)
    (hrest : ∀ item ∈ rest.head?, starts item) (hothers : ∀ item ∈ others.head?, starts item)
    (happend : front ++ rest = other ++ others) : front = other ∧ rest = others := by
  induction front generalizing other with
  | nil =>
      cases other with
      | nil => exact ⟨rfl, happend⟩
      | cons item other =>
          rw [List.nil_append] at happend
          subst happend
          exact absurd (hrest item rfl) (hother item List.mem_cons_self)
  | cons item front ih =>
      cases other with
      | nil =>
          rw [List.nil_append] at happend
          subst happend
          exact absurd (hothers item rfl) (hfront item List.mem_cons_self)
      | cons next other =>
          obtain ⟨rfl, htail⟩ := List.cons.inj happend
          obtain ⟨rfl, hsame⟩ := ih
            (fun found hfound => hfront found (List.mem_cons_of_mem _ hfound))
            (fun found hfound => hother found (List.mem_cons_of_mem _ hfound)) htail
          exact ⟨rfl, hsame⟩

theorem head?_flatten {blocks : List (List α)} (hblocks : ∀ block ∈ blocks, IsBlock starts block) :
    ∀ item ∈ blocks.flatten.head?, starts item := by
  intro item hitem
  cases blocks with
  | nil => simp at hitem
  | cons block blocks =>
      obtain ⟨head, tail, rfl, hhead, -⟩ := hblocks block List.mem_cons_self
      obtain rfl : head = item := by simpa using hitem
      exact hhead

theorem eq_of_flatten_eq {blocks others : List (List α)}
    (hblocks : ∀ block ∈ blocks, IsBlock starts block)
    (hothers : ∀ block ∈ others, IsBlock starts block)
    (hflatten : blocks.flatten = others.flatten) : blocks = others := by
  induction blocks generalizing others with
  | nil =>
      cases others with
      | nil => rfl
      | cons other others =>
          obtain ⟨head, tail, rfl, -⟩ := hothers other List.mem_cons_self
          simp at hflatten
  | cons block blocks ih =>
      have hlater := fun found hfound => hblocks found (List.mem_cons_of_mem block hfound)
      obtain ⟨head, tail, rfl, hhead, htail⟩ := hblocks block List.mem_cons_self
      cases others with
      | nil => simp at hflatten
      | cons other others =>
          have hlast := fun found hfound => hothers found (List.mem_cons_of_mem other hfound)
          obtain ⟨first, rest, rfl, hfirst, hrest⟩ := hothers other List.mem_cons_self
          rw [List.flatten_cons, List.flatten_cons, List.cons_append, List.cons_append] at hflatten
          obtain ⟨rfl, htails⟩ := List.cons.inj hflatten
          -- the next block begins where this one ends
          obtain ⟨rfl, hnext⟩ := append_inj_of_starts htail hrest (head?_flatten hlater)
            (head?_flatten hlast) htails
          rw [ih hlater hlast hnext]

/-- A front and the blocks that follow it. -/
theorem front_and_blocks_eq {front other : List α} {blocks others : List (List α)}
    (hfront : ∀ item ∈ front, ¬ starts item) (hother : ∀ item ∈ other, ¬ starts item)
    (hblocks : ∀ block ∈ blocks, IsBlock starts block)
    (hothers : ∀ block ∈ others, IsBlock starts block)
    (happend : front ++ blocks.flatten = other ++ others.flatten) :
    front = other ∧ blocks = others := by
  obtain ⟨hsame, hflatten⟩ := append_inj_of_starts hfront hother (head?_flatten hblocks)
    (head?_flatten hothers) happend
  exact ⟨hsame, eq_of_flatten_eq hblocks hothers hflatten⟩

end PeerConnection.Blocks
