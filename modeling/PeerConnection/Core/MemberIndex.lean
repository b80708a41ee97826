import Mathlib

/-!
# An index of the members of lists

The index takes each member to the owner of its list; of several lists with the member the
last one counts.  Where no two lists share a member, the index and the lists say the same.
-/

namespace PeerConnection.MemberIndex

open Std

variable {α β ε : Type*} [Ord α] [TransOrd α]
variable (owner : ε → β) (members : ε → List α)

/-- Take all members of one list to its owner. -/
def insertMembers (index : TreeMap α β) (entry : ε) : TreeMap α β :=
  (members entry).foldl (fun index member => index.insert member (owner entry)) index

def indexMembers (entries : List ε) : TreeMap α β :=
  entries.foldl (insertMembers owner members) ∅

variable [LawfulEqOrd α] [DecidableEq α]

theorem getElem?_insertMembers (index : TreeMap α β) (entry : ε) (member : α) :
    (insertMembers owner members index entry)[member]? =
      if member ∈ members entry then some (owner entry) else index[member]? := by
  rw [insertMembers]
  induction members entry generalizing index with
  | nil => simp
  | cons first rest ih =>
      rw [List.foldl_cons, ih, TreeMap.getElem?_insert]
      by_cases hrest : member ∈ rest
      · simp [hrest]
      · by_cases hfirst : first = member
        · simp [hfirst]
        · simp [hrest, hfirst, Ne.symm hfirst]

/-- The last list with the member decides. -/
theorem getElem?_indexMembers (entries : List ε) (member : α) :
    (indexMembers owner members entries)[member]? =
      (entries.reverse.find? fun entry => member ∈ members entry).map owner := by
  rw [indexMembers]
  induction entries using List.reverseRecOn with
  | nil => simp
  | append_singleton entries last ih =>
      rw [List.foldl_append, List.foldl_cons, List.foldl_nil, getElem?_insertMembers,
        List.reverse_append, List.reverse_singleton, List.singleton_append, List.find?_cons, ih]
      by_cases hlast : member ∈ members last
      · simp [hlast]
      · simp [hlast]

/-- What the index says of a member is true of the lists. -/
theorem exists_of_getElem?_indexMembers {entries : List ε} {member : α} {value : β}
    (hindex : (indexMembers owner members entries)[member]? = some value) :
    ∃ entry ∈ entries, owner entry = value ∧ member ∈ members entry := by
  rw [getElem?_indexMembers, Option.map_eq_some_iff] at hindex
  obtain ⟨entry, hfind, howner⟩ := hindex
  refine ⟨entry, List.mem_reverse.mp (List.mem_of_find?_eq_some hfind), howner, ?_⟩
  simpa using List.find?_some hfind

/-- The index knows every member when lists with different owners are disjoint. -/
theorem getElem?_indexMembers_of_mem {entries : List ε} {entry : ε} {member : α}
    (hapart : ∀ other ∈ entries, member ∈ members other → owner other = owner entry)
    (hentry : entry ∈ entries) (hmember : member ∈ members entry) :
    (indexMembers owner members entries)[member]? = some (owner entry) := by
  rw [getElem?_indexMembers, Option.map_eq_some_iff]
  have hsome : (entries.reverse.find? fun other => member ∈ members other).isSome := by
    rw [List.find?_isSome]
    exact ⟨entry, List.mem_reverse.mpr hentry, decide_eq_true hmember⟩
  obtain ⟨found, hfind⟩ := Option.isSome_iff_exists.mp hsome
  have hfound : member ∈ members found := by simpa using List.find?_some hfind
  exact ⟨found, hfind,
    hapart found (List.mem_reverse.mp (List.mem_of_find?_eq_some hfind)) hfound⟩

omit [Ord α] [TransOrd α] [LawfulEqOrd α] [DecidableEq α] in
/-- Of disjoint lists, two that share a member are the same. -/
theorem eq_of_mem_members {members : ε → List α} {entries : List ε}
    (hdisjoint : entries.Pairwise fun entry other => (members entry).Disjoint (members other))
    {entry other : ε} (hentry : entry ∈ entries) (hother : other ∈ entries) {member : α}
    (hmember : member ∈ members entry) (hshared : member ∈ members other) :
    entry = other := by
  by_contra hne
  have hsymm : Std.Symm fun entry other : ε =>
      (members entry).Disjoint (members other) := ⟨fun _ _ hapart => hapart.symm⟩
  exact hdisjoint.forall hentry hother hne hmember hshared

end PeerConnection.MemberIndex
