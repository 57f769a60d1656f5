import Mathlib.Data.List.Induction
import Mathlib.Data.List.Nodup
import Mathlib.Tactic.Common

/-!
# Items with keys

In a list whose items all have different keys, looking for a key finds the item that has it
(`find?_key`) at its place (`findIdx?_key`). A list of keys in which each is listed once, where it is
met first, grows by the keys that are not known yet (`eraseDups_concat`).
-/

namespace TextDiagram

variable {α κ : Type} {key : α → κ} {items : List α}

/-- A key belongs to the item at some place. -/
theorem exists_getElem_of_mem_keys {k : κ} (h : k ∈ items.map key) :
    ∃ i, ∃ hi : i < items.length, key items[i] = k := by
  obtain ⟨a, ha, hk⟩ := List.mem_map.mp h
  obtain ⟨i, hi, rfl⟩ := List.getElem_of_mem ha
  exact ⟨i, hi, hk⟩

variable [BEq κ] [LawfulBEq κ]

theorem findIdx?_key (h : (items.map key).Nodup) {i : Nat} (hi : i < items.length) :
    items.findIdx? (fun a => key a == key items[i]) = some i := by
  have hpair : items.Pairwise fun a b => key a ≠ key b := List.pairwise_map.mp h
  refine List.findIdx?_eq_some_iff_getElem.mpr ⟨hi, by simp, fun j hji => ?_⟩
  have hne := List.pairwise_iff_getElem.mp hpair j i (Nat.lt_trans hji hi) hi hji
  simpa using hne

/-- Two keys that belong to items are found at the same place only if they are the same. -/
theorem findIdx?_key_eq_iff (h : (items.map key).Nodup) {k l : κ} (hk : k ∈ items.map key)
    (hl : l ∈ items.map key) : items.findIdx? (fun a => key a == k) =
      items.findIdx? (fun a => key a == l) ↔ k = l := by
  obtain ⟨i, hi, rfl⟩ := exists_getElem_of_mem_keys hk
  obtain ⟨j, hj, rfl⟩ := exists_getElem_of_mem_keys hl
  rw [findIdx?_key h hi, findIdx?_key h hj, Option.some.injEq]
  constructor
  · rintro rfl
    rfl
  · intro heq
    have hi' : i < (items.map key).length := by simpa using hi
    have hj' : j < (items.map key).length := by simpa using hj
    have hsame : (items.map key)[i] = (items.map key)[j] := by
      rw [List.getElem_map, List.getElem_map, heq]
    rw [h.getElem_inj_iff.mp hsame]

theorem find?_key (h : (items.map key).Nodup) {a : α} (ha : a ∈ items) :
    items.find? (fun b => key b == key a) = some a := by
  cases hf : items.find? fun b => key b == key a with
  | none => exact absurd (by simp) (List.find?_eq_none.mp hf a ha)
  | some b =>
    have hb := List.mem_of_find?_eq_some hf
    have hkey : key b = key a := by simpa using List.find?_some hf
    rw [List.inj_on_of_nodup_map h hb ha hkey]

/-! ## Keys as they are met -/

/-- A list of keys with one more key, each key once: it is added unless it is known. -/
theorem eraseDups_concat (named : List κ) (k : κ) :
    (named ++ [k]).eraseDups =
      if named.eraseDups.contains k then named.eraseDups else named.eraseDups ++ [k] := by
  rw [List.eraseDups_append]
  by_cases h : k ∈ named
  · have hc : named.eraseDups.contains k = true := by simpa using h
    rw [if_pos hc]
    simp [List.removeAll, h]
  · have hc : ¬ named.eraseDups.contains k = true := by simpa using h
    rw [if_neg hc]
    simp [List.removeAll, h, List.eraseDups_cons]

/-- Each key is listed once. -/
theorem nodup_eraseDups (named : List κ) : named.eraseDups.Nodup := by
  induction named using List.reverseRecOn with
  | nil => exact List.nodup_nil
  | append_singleton named k ih =>
    rw [eraseDups_concat]
    split
    · exact ih
    · next h =>
      have hk : k ∉ named.eraseDups := by simpa using h
      exact List.nodup_append.mpr ⟨ih, List.nodup_singleton k, by
        intro a ha b hb
        rw [List.mem_singleton.mp hb]
        exact fun e => hk (e ▸ ha)⟩

end TextDiagram
