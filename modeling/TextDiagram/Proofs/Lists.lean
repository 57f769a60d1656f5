import Mathlib.Algebra.Order.Ring.Nat
import Mathlib.Data.List.Basic
import Mathlib.Tactic.Common

/-!
# Lists put together

What a list of lists holds that is put together item by item, and sums over lists whose items all
count the same.
-/

namespace TextDiagram

variable {α β γ : Type}

theorem flatMap_nil_const (items : List α) : (items.flatMap fun _ => ([] : List β)) = [] := by
  rw [List.flatMap_eq_nil_iff]
  exact fun _ _ => rfl

theorem flatMap_singleton_const (b : β) (items : List α) :
    (items.flatMap fun _ => [b]) = List.replicate items.length b := by
  rw [← List.map_eq_flatMap, List.map_const']

theorem flatMap_ite (p : α → Prop) [DecidablePred p] (f : α → List β) (items : List α) :
    (items.flatMap fun a => if p a then f a else []) = (items.filter fun a => p a).flatMap f := by
  induction items with
  | nil => rfl
  | cons a items ih =>
    rw [List.flatMap_cons, ih, List.filter_cons]
    by_cases ha : p a
    · rw [if_pos ha, if_pos (by simpa using ha), List.flatMap_cons]
    · rw [if_neg ha, if_neg (by simpa using ha), List.nil_append]

theorem flatMap_filterMap (f : α → Option β) (g : β → List γ) (items : List α) :
    (items.filterMap f).flatMap g = items.flatMap fun a => (f a).elim [] g := by
  induction items with
  | nil => rfl
  | cons a items ih =>
    rw [List.flatMap_cons, ← ih]
    cases h : f a with
    | none => rw [List.filterMap_cons_none h, Option.elim_none, List.nil_append]
    | some b => rw [List.filterMap_cons_some h, Option.elim_some, List.flatMap_cons]

theorem filter_map_eq_flatMap (p : β → Bool) (f : α → β) (items : List α) :
    (items.map f).filter p = items.flatMap fun a => [f a].filter p := by
  induction items with
  | nil => rfl
  | cons a items ih =>
    rw [List.map_cons, List.flatMap_cons, ← ih, ← List.filter_append]
    rfl

theorem sum_map_of_forall {w : α → Nat} {k : Nat} {items : List α} (h : ∀ a ∈ items, w a = k) :
    (items.map w).sum = items.length * k := by
  have hconst : items.map w = items.map fun _ => k := List.map_congr_left h
  rw [hconst, List.map_const', List.sum_replicate_nat]

end TextDiagram
