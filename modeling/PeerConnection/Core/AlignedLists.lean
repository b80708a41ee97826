import Mathlib

/-!
# Lists that belong together

Two lists of the same length pair off their members by position.  Where neither list repeats a
member the pairs are a bijection between the members, and the lists exchanged give its inverse.
-/

namespace PeerConnection.AlignedLists

variable {α β : Type*} {keys : List α} {values : List β}

theorem mem_zip_comm {key : α} {value : β} :
    (value, key) ∈ values.zip keys ↔ (key, value) ∈ keys.zip values := by
  rw [← List.zip_swap, List.mem_map]
  constructor
  · rintro ⟨pair, hpair, hswap⟩
    obtain rfl : pair = (key, value) := by rw [← Prod.swap_swap pair, hswap, Prod.swap_prod_mk]
    exact hpair
  · intro hpair
    exact ⟨(key, value), hpair, rfl⟩

section Partners

variable [DecidableEq α] [DecidableEq β]

/-- Each member of the first list goes to the member at the same position of the second. -/
def partners (hlength : keys.length = values.length) (hkeys : keys.Nodup)
    (hvalues : values.Nodup) : {key // key ∈ keys} ≃ {value // value ∈ values} :=
  (List.Nodup.getEquiv keys hkeys).symm.trans <|
    (finCongr hlength).trans (List.Nodup.getEquiv values hvalues)

theorem mem_zip_partners (hlength : keys.length = values.length) (hkeys : keys.Nodup)
    (hvalues : values.Nodup) (key : {key // key ∈ keys}) :
    ((key : α), (partners hlength hkeys hvalues key : β)) ∈ keys.zip values := by
  obtain ⟨index, rfl⟩ := (List.Nodup.getEquiv keys hkeys).surjective key
  have hbound : (index : ℕ) < (keys.zip values).length := by
    rw [List.length_zip, ← hlength, min_self]
    exact index.isLt
  have hpair : (keys.zip values)[(index : ℕ)] = (keys[index], values[(index : ℕ)]) :=
    List.getElem_zip
  simp only [partners, Equiv.trans_apply, Equiv.symm_apply_apply]
  exact hpair ▸ List.getElem_mem hbound

theorem mem_zip_partners_symm (hlength : keys.length = values.length) (hkeys : keys.Nodup)
    (hvalues : values.Nodup) (value : {value // value ∈ values}) :
    ((value : β), ((partners hlength hkeys hvalues).symm value : α)) ∈ values.zip keys := by
  have hpair := mem_zip_partners hlength hkeys hvalues
    ((partners hlength hkeys hvalues).symm value)
  rw [Equiv.apply_symm_apply] at hpair
  exact mem_zip_comm.mpr hpair

end Partners

end PeerConnection.AlignedLists
