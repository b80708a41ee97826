import PeerConnection.Core.Runs

/-!
# Updating every value of a map

A loop over a map that replaces each value, and stops at the first one whose update fails.
-/

namespace PeerConnection.MapValues

open PeerConnection.Runs
open Std

universe u

variable {φ : Type*} {α β : Type u} [Ord α] [TransOrd α]
variable (update : β → Except φ β)

def updateEntry (updated : ExtTreeMap α β) (entry : α × β) : Except φ (ExtTreeMap α β) :=
  (update entry.2).map fun value => updated.insert entry.1 value

/-- Replace each value, in the order of the keys. -/
def updateValues (values : ExtTreeMap α β) : Except φ (ExtTreeMap α β) :=
  values.toList.foldlM (updateEntry update) values

variable [LawfulEqOrd α] {update}

theorem getElem?_insert_eq_ite [DecidableEq α] (values : ExtTreeMap α β) (key other : α)
    (value : β) :
    (values.insert key value)[other]? = if key = other then some value else values[other]? := by
  rw [ExtTreeMap.getElem?_insert]
  simp only [Std.compare_eq_iff_eq]

theorem getElem?_erase_eq_ite [DecidableEq α] (values : ExtTreeMap α β) (key other : α) :
    (values.erase key)[other]? = if key = other then none else values[other]? := by
  rw [ExtTreeMap.getElem?_erase]
  simp only [Std.compare_eq_iff_eq]

/-- A new entry that is erased again leaves the map as it was. -/
theorem erase_insert_of_getElem?_eq_none {values : ExtTreeMap α β} {key : α}
    (hnone : values[key]? = none) (value : β) : (values.insert key value).erase key = values := by
  classical
  apply ExtTreeMap.ext_getElem?
  intro other
  rw [getElem?_erase_eq_ite, getElem?_insert_eq_ite]
  by_cases hkey : key = other
  · rw [if_pos hkey, ← hkey, hnone]
  · rw [if_neg hkey, if_neg hkey]

/-- Each key is written once, and the other keys stay. -/
theorem getElem?_of_foldlM {entries : List (α × β)} (hkeys : (entries.map Prod.fst).Nodup)
    {start final : ExtTreeMap α β}
    (hfold : entries.foldlM (updateEntry update) start = .ok final) (key : α) :
    (∀ value, (key, value) ∈ entries →
        ∃ next, update value = .ok next ∧ final[key]? = some next) ∧
      (key ∉ entries.map Prod.fst → final[key]? = start[key]?) := by
  induction entries generalizing start with
  | nil =>
      obtain rfl := Except.ok.inj hfold
      simp
  | cons entry entries ih =>
      obtain ⟨hfresh, hrest⟩ := List.nodup_cons.mp hkeys
      rw [List.foldlM_cons, except_bind_eq_ok_iff] at hfold
      obtain ⟨middle, hentry, hfold⟩ := hfold
      rw [updateEntry, except_map_eq_ok_iff] at hentry
      obtain ⟨next, hnext, rfl⟩ := hentry
      obtain ⟨hwritten, hkept⟩ := ih hrest hfold
      constructor
      · intro value hmem
        rcases List.mem_cons.mp hmem with rfl | hin
        · refine ⟨next, hnext, ?_⟩
          rw [hkept hfresh, ExtTreeMap.getElem?_insert_self]
        · exact hwritten value hin
      · intro hkey
        rw [List.map_cons, List.mem_cons, not_or] at hkey
        rw [hkept hkey.2, ExtTreeMap.getElem?_insert]
        simp [Ne.symm hkey.1]

theorem getElem?_of_updateValues {values final : ExtTreeMap α β}
    (hupdate : updateValues update values = .ok final) {key : α} :
    (∀ value, values[key]? = some value →
        ∃ next, update value = .ok next ∧ final[key]? = some next) ∧
      (values[key]? = none → final[key]? = none) := by
  have hkeys : (values.toList.map Prod.fst).Nodup := by
    rw [List.nodup_iff_pairwise_ne, List.pairwise_map]
    apply values.distinct_keys_toList.imp
    intro left right hapart hsame
    exact hapart (compare_eq_iff_eq.mpr hsame)
  obtain ⟨hwritten, hkept⟩ := getElem?_of_foldlM hkeys hupdate key
  constructor
  · intro value hvalue
    exact hwritten value (ExtTreeMap.mem_toList_iff_getElem?_eq_some.mpr hvalue)
  · intro hnone
    rw [hkept, hnone]
    intro hmem
    obtain ⟨entry, hentry, rfl⟩ := List.mem_map.mp hmem
    rw [ExtTreeMap.mem_toList_iff_getElem?_eq_some.mp hentry] at hnone
    exact absurd hnone (by simp)

/-- A value of the result is the update of a value. -/
theorem exists_of_updateValues {values final : ExtTreeMap α β}
    (hupdate : updateValues update values = .ok final) {key : α} {next : β}
    (hnext : final[key]? = some next) :
    ∃ value, values[key]? = some value ∧ update value = .ok next := by
  obtain ⟨hwritten, hkept⟩ := @getElem?_of_updateValues _ _ _ _ _ _ _ _ _ hupdate key
  cases hvalue : values[key]? with
  | none =>
      rw [hkept hvalue] at hnext
      exact absurd hnext (by simp)
  | some value =>
      obtain ⟨other, hother, hfinal⟩ := hwritten value hvalue
      rw [hfinal] at hnext
      obtain rfl := Option.some.inj hnext
      exact ⟨value, rfl, hother⟩

/-- Updates that succeed for every value succeed together. -/
theorem updateValues_total {values : ExtTreeMap α β}
    (htotal : ∀ (key : α) (value : β), values[key]? = some value →
      ∃ next, update value = .ok next) :
    ∃ final, updateValues update values = .ok final := by
  have hall : ∀ entry ∈ values.toList, ∃ next, update entry.2 = .ok next := fun entry hentry =>
    htotal entry.1 entry.2 (ExtTreeMap.mem_toList_iff_getElem?_eq_some.mp hentry)
  suffices hfold : ∀ (entries : List (α × β)) (start : ExtTreeMap α β),
      (∀ entry ∈ entries, ∃ next, update entry.2 = .ok next) →
        ∃ final, entries.foldlM (updateEntry update) start = .ok final from
    hfold values.toList values hall
  intro entries
  induction entries with
  | nil => exact fun start _ => ⟨start, rfl⟩
  | cons entry entries ih =>
      intro start hentries
      obtain ⟨next, hnext⟩ := hentries entry List.mem_cons_self
      obtain ⟨final, hfinal⟩ := ih (start.insert entry.1 next)
        fun other hother => hentries other (List.mem_cons_of_mem _ hother)
      refine ⟨final, ?_⟩
      rw [List.foldlM_cons, updateEntry, hnext]
      exact hfinal

/-- An update of all values fails exactly when that of some value does. -/
theorem updateValues_fails_iff {values : ExtTreeMap α β} :
    (∃ reason, updateValues update values = .error reason) ↔
      ∃ (key : α) (value : β), values[key]? = some value ∧
        ∃ reason, update value = .error reason := by
  constructor
  · rintro ⟨reason, hfails⟩
    by_contra hnone
    have htotal : ∀ (key : α) (value : β), values[key]? = some value →
        ∃ next, update value = .ok next := by
      intro key value hvalue
      cases hupdate : update value with
      | error other => exact absurd ⟨key, value, hvalue, other, hupdate⟩ hnone
      | ok next => exact ⟨next, rfl⟩
    obtain ⟨final, hfinal⟩ := updateValues_total htotal
    rw [hfinal] at hfails
    exact absurd hfails (by simp)
  · rintro ⟨key, value, hvalue, reason, hupdate⟩
    cases hall : updateValues update values with
    | error other => exact ⟨other, rfl⟩
    | ok final =>
        obtain ⟨next, hnext, -⟩ := (getElem?_of_updateValues hall).1 value hvalue
        rw [hupdate] at hnext
        exact absurd hnext (by simp)

theorem insert_insert (values : ExtTreeMap α β) (key : α) (old value : β) :
    (values.insert key old).insert key value = values.insert key value := by
  classical
  apply ExtTreeMap.ext_getElem?
  intro other
  rw [getElem?_insert_eq_ite, getElem?_insert_eq_ite, getElem?_insert_eq_ite]
  split_ifs <;> rfl

theorem toList_insert_empty (key : α) (value : β) :
    ((∅ : ExtTreeMap α β).insert key value).toList = [(key, value)] := by
  have hlength : ((∅ : ExtTreeMap α β).insert key value).toList.length = 1 := by
    rw [ExtTreeMap.length_toList, ExtTreeMap.size_insert]
    simp
  obtain ⟨entry, hentry⟩ := List.length_eq_one_iff.mp hlength
  have hmem : (key, value) ∈ ((∅ : ExtTreeMap α β).insert key value).toList := by
    rw [ExtTreeMap.mem_toList_iff_getElem?_eq_some, ExtTreeMap.getElem?_insert_self]
  rw [hentry, List.mem_singleton] at hmem
  rw [hentry, hmem]

omit [LawfulEqOrd α] in
theorem updateValues_empty : updateValues update (∅ : ExtTreeMap α β) = .ok ∅ := by
  rw [updateValues, ExtTreeMap.toList_eq_nil_iff.mpr rfl]
  rfl

/-- The update of a map with one entry. -/
theorem updateValues_insert_empty (key : α) (value : β) :
    updateValues update ((∅ : ExtTreeMap α β).insert key value) =
      (update value).map fun next => (∅ : ExtTreeMap α β).insert key next := by
  rw [updateValues, toList_insert_empty, List.foldlM_cons, updateEntry]
  cases update value with
  | error reason => rfl
  | ok next => exact congrArg Except.ok (insert_insert ∅ key value next)

/-! ## Entries that are written only once -/

/-- A key that the map has keeps its value. -/
theorem getElem?_insertIfNew_eq_ite [DecidableEq α] (values : ExtTreeMap α β) (key other : α)
    (value : β) :
    (values.insertIfNew key value)[other]? =
      values[other]?.or (if key = other then some value else none) := by
  rw [ExtTreeMap.getElem?_insertIfNew]
  by_cases hkey : key = other
  · obtain rfl := hkey
    rw [if_pos rfl]
    cases hfound : values[key]? with
    | none => simp [ExtTreeMap.mem_iff_isSome_getElem?, hfound]
    | some found => simp [ExtTreeMap.mem_iff_isSome_getElem?, hfound]
  · simp [hkey]

/-- A search for a key in the list of the entries. -/
theorem findSome?_toList {γ : Type*} [DecidableEq α] (values : ExtTreeMap α β) (key : α)
    (read : β → Option γ) :
    (values.toList.findSome? fun entry => if entry.1 = key then read entry.2 else none) =
      values[key]?.bind read := by
  have hentry : ∀ entry ∈ values.toList, entry.1 = key → values[key]? = some entry.2 := by
    rintro entry hmem rfl
    exact ExtTreeMap.mem_toList_iff_getElem?_eq_some.mp hmem
  cases hfound : values.toList.findSome? fun entry =>
      if entry.1 = key then read entry.2 else none with
  | some result =>
      obtain ⟨entry, hmem, hresult⟩ := List.exists_of_findSome?_eq_some hfound
      split_ifs at hresult with hkey
      rw [hentry entry hmem hkey, Option.bind_some, hresult]
  | none =>
      symm
      rw [Option.bind_eq_none_iff]
      intro value hvalue
      have hmem := ExtTreeMap.mem_toList_iff_getElem?_eq_some.mpr hvalue
      simpa using List.findSome?_eq_none_iff.mp hfound (key, value) hmem

/-- The entries of one map, written into another that keeps what it has. -/
theorem getElem?_foldl_insertIfNew (values added : ExtTreeMap α β) (key : α) :
    (added.toList.foldl (fun values entry => values.insertIfNew entry.1 entry.2) values)[key]? =
      values[key]?.or added[key]? := by
  classical
  rw [← Option.bind_fun_some added[key]?, ← findSome?_toList]
  induction added.toList generalizing values with
  | nil => simp
  | cons entry entries ih =>
      rw [List.foldl_cons, ih, getElem?_insertIfNew_eq_ite, List.findSome?_cons, Option.or_assoc]
      split_ifs <;> rfl

end PeerConnection.MapValues
