import TextDiagram.Flow.Statement
import TextDiagram.Proofs.Text.Words

/-!
# Cuts at edge operators

Main statements: a text is cut exactly when an operator occurs in it (`cut?_eq_none_iff`), an operator
does not reach across a character that stands in none (`hasOperator_append_cons_iff`), and a text is
cut at the operator behind a text without operators (`cut?_append_operator`).
-/

namespace TextDiagram.Flow

open Text

/-- Whether an edge operator occurs in a text. -/
def HasOperator (t : List Char) : Prop :=
  ∃ op ∈ operators, op <:+: t

instance (t : List Char) : Decidable (HasOperator t) :=
  inferInstanceAs (Decidable (∃ op ∈ operators, op <:+: t))

/-- Nothing follows a known text that does not stand at the start. -/
theorem after?_eq_none_iff {known t : List Char} : after? known t = none ↔ ¬ known <+: t := by
  rw [Option.eq_none_iff_forall_ne_some]
  constructor
  · rintro h ⟨rest, rfl⟩
    exact h rest (after?_append known rest)
  · intro h rest hr
    exact h ⟨rest, (after?_eq_some_iff.mp hr).symm⟩

/-- No operator is found at the start of a text exactly when none stands there. -/
theorem operatorAtStart?_eq_none_iff {t : List Char} :
    operatorAtStart? t = none ↔ ∀ op ∈ operators, ¬ op <+: t := by
  simp only [operatorAtStart?, List.findSome?_eq_none_iff, Option.map_eq_none_iff,
    after?_eq_none_iff]

/-- A text is not cut exactly when there is an operator neither at its start nor further on. -/
theorem cut?_cons_eq_none_iff {c : Char} {t : List Char} :
    cut? (c :: t) = none ↔ operatorAtStart? (c :: t) = none ∧ cut? t = none := by
  rw [cut?]
  cases operatorAtStart? (c :: t) with
  | none => simp
  | some cut => simp

/-- A text is cut exactly when an operator occurs in it. -/
theorem cut?_eq_none_iff {t : List Char} : cut? t = none ↔ ¬ HasOperator t := by
  induction t with
  | nil =>
    have h : ¬ HasOperator [] := by decide
    simp [cut?, h]
  | cons c t ih =>
    have hocc : HasOperator (c :: t) ↔ (∃ op ∈ operators, op <+: c :: t) ∨ HasOperator t := by
      simp only [HasOperator, List.infix_cons_iff, and_or_left, exists_or]
    rw [cut?_cons_eq_none_iff, operatorAtStart?_eq_none_iff, ih, hocc, not_or]
    simp only [not_exists, not_and]

/-- An operator at the start is read as a whole if no sign follows with which it could go on. -/
theorem cut?_operator_append {op t : List Char} (hop : op ∈ operators)
    (ht : ∀ c ∈ t.head?, c ∉ ['-', '>']) : cut? (op ++ t) = some ⟨[], op, t⟩ := by
  -- the operators share their beginnings, so each of them has to be tried
  have hstart : operatorAtStart? (op ++ t) = some ⟨[], op, t⟩ := by
    simp only [operators, List.mem_cons, List.not_mem_nil, or_false] at hop
    cases t with
    | nil => rcases hop with rfl | rfl | rfl | rfl | rfl | rfl | rfl | rfl <;> rfl
    | cons c t =>
      obtain ⟨h1, h2⟩ : c ≠ '-' ∧ c ≠ '>' := by simpa using ht c rfl
      rcases hop with rfl | rfl | rfl | rfl | rfl | rfl | rfl | rfl <;>
        simp [operatorAtStart?, operators, after?, h1.symm, h2.symm]
  have hne : ∀ op ∈ operators, op ≠ [] := by decide
  obtain ⟨c, u, rfl⟩ := List.exists_cons_of_ne_nil (hne op hop)
  rw [List.cons_append] at hstart ⊢
  rw [cut?, hstart]

/-- What stands before the first operator of a text stays before the cut. -/
theorem cut?_append {s t : List Char}
    (h : ∀ v, v <:+ s → v ≠ [] → operatorAtStart? (v ++ t) = none) :
    cut? (s ++ t) = (cut? t).map fun cut => { cut with before := s ++ cut.before } := by
  induction s with
  | nil => simp
  | cons c s ih =>
    have hc : operatorAtStart? (c :: (s ++ t)) = none :=
      h (c :: s) (List.suffix_refl _) (List.cons_ne_nil c s)
    have hs := ih fun v hv hne => h v (hv.trans (List.suffix_cons c s)) hne
    rw [List.cons_append, cut?, hc, hs]
    cases cut? t with
    | none => rfl
    | some cut => rfl

section Boundary

variable {c : Char} (hc : ∀ op ∈ operators, c ∉ op)
include hc

/-- An operator does not reach across a character that stands in none. -/
theorem hasOperator_append_cons_iff {s t : List Char} :
    HasOperator (s ++ c :: t) ↔ HasOperator s ∨ HasOperator t := by
  constructor
  · rintro ⟨op, hop, h⟩
    rcases (infix_append_cons_iff (hc op hop)).mp h with h | h
    · exact Or.inl ⟨op, hop, h⟩
    · exact Or.inr ⟨op, hop, h⟩
  · rintro (⟨op, hop, h⟩ | ⟨op, hop, h⟩)
    · exact ⟨op, hop, (infix_append_cons_iff (hc op hop)).mpr (Or.inl h)⟩
    · exact ⟨op, hop, (infix_append_cons_iff (hc op hop)).mpr (Or.inr h)⟩

/-- The same at the start of a text. -/
theorem hasOperator_cons_iff {t : List Char} : HasOperator (c :: t) ↔ HasOperator t := by
  have h := hasOperator_append_cons_iff hc (s := []) (t := t)
  have hnil : ¬ HasOperator [] := by decide
  rw [List.nil_append] at h
  rw [h, or_iff_right hnil]

end Boundary

/-- No operator occurs in a text of characters that stand in none. -/
theorem not_hasOperator_of_forall {t : List Char} (h : ∀ c ∈ t, ∀ op ∈ operators, c ∉ op) :
    ¬ HasOperator t := by
  induction t with
  | nil => decide
  | cons c t ih =>
    rw [hasOperator_cons_iff (h c (List.mem_cons_self ..))]
    exact ih fun d hd => h d (List.mem_cons_of_mem _ hd)

/-- Characters that stand in no operator add none to a text. -/
theorem hasOperator_append_iff {s t : List Char} (h : ∀ c ∈ t, ∀ op ∈ operators, c ∉ op) :
    HasOperator (s ++ t) ↔ HasOperator s := by
  cases t with
  | nil => rw [List.append_nil]
  | cons c t =>
    rw [hasOperator_append_cons_iff (h c (List.mem_cons_self ..)), or_iff_left]
    exact not_hasOperator_of_forall fun d hd => h d (List.mem_cons_of_mem _ hd)

/-! ## Cuts behind a text without operators -/

section Front

variable {s : List Char} (hs : ¬ HasOperator s)
  (hlast : ∀ c ∈ s.getLast?, ∀ op ∈ operators, c ∉ op)
include hs hlast

/-- An operator that stands behind a text without operators does not begin in it, if the last
character of the text stands in none. -/
theorem cut?_append_of_getLast? (t : List Char) :
    cut? (s ++ t) = (cut? t).map fun cut => { cut with before := s ++ cut.before } := by
  refine cut?_append fun v hv hne => operatorAtStart?_eq_none_iff.mpr ?_
  intro op hop hp
  obtain ⟨init, c, rfl⟩ := (List.eq_nil_or_concat v).resolve_left hne
  rw [List.concat_eq_append] at hv hp
  have hc : c ∉ op := by
    obtain ⟨u, hu⟩ := hv
    refine hlast c ?_ op hop
    rw [← hu, ← List.append_assoc, List.getLast?_concat]
    rfl
  rw [List.append_assoc, List.singleton_append] at hp
  have hinit : op <+: init := prefix_of_prefix_append_cons hp hc
  exact hs ⟨op, hop, (hinit.trans (List.prefix_append init [c])).isInfix.trans hv.isInfix⟩

/-- A text is cut at its first operator if no sign follows with which the operator could go on. -/
theorem cut?_append_operator {op t : List Char} (hop : op ∈ operators)
    (ht : ∀ c ∈ t.head?, c ∉ ['-', '>']) : cut? (s ++ (op ++ t)) = some ⟨s, op, t⟩ := by
  rw [cut?_append_of_getLast? hs hlast, cut?_operator_append hop ht]
  simp

end Front

end TextDiagram.Flow
