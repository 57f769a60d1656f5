import TextDiagram.Proofs.Flow.Cut

/-!
# The operator at which a statement is cut

The operators overlap: `<-` begins `<--`, and that begins `<-->`. The table lists no operator behind
one with which it begins, so of the operators at one place the first in the table is the longest
(`find?_eq_some_iff_isLongestStart`), and a statement is cut at the longest of the operators that
stand furthest to the left (`cut?_leftmost_longest`).
-/

namespace TextDiagram.Flow

open Text

/-! ## The longest of the known texts at the start -/

section LongestStart

variable {knowns : List (List Char)} {known t : List Char}

/-- Of the known texts with which a text begins, this one is the longest. -/
structure IsLongestStart (knowns : List (List Char)) (known t : List Char) : Prop where
  mem : known ∈ knowns
  isPrefix : known <+: t
  length_le : ∀ other ∈ knowns, other <+: t → other.length ≤ known.length

/-- No known text is listed behind one with which it begins. -/
def LongerFirst (knowns : List (List Char)) : Prop :=
  knowns.Pairwise fun known later => ¬ known <+: later

theorem longerFirst_operators : LongerFirst operators := by
  unfold LongerFirst operators
  decide

theorem IsLongestStart.unique {other : List Char} (h : IsLongestStart knowns known t)
    (ho : IsLongestStart knowns other t) : known = other := by
  have hle : known.length ≤ other.length := ho.length_le known h.mem h.isPrefix
  have hge : other.length ≤ known.length := h.length_le other ho.mem ho.isPrefix
  exact (List.prefix_of_prefix_length_le h.isPrefix ho.isPrefix hle).eq_of_length (by omega)

theorem isLongestStart_of_find? (hk : LongerFirst knowns)
    (h : knowns.find? (fun known => known.isPrefixOf t) = some known) :
    IsLongestStart knowns known t := by
  obtain ⟨hp, front, back, rfl, hfront⟩ := List.find?_eq_some_iff_append.mp h
  have hknown : known <+: t := List.isPrefixOf_iff_prefix.mp hp
  refine ⟨by simp, hknown, ?_⟩
  intro other hother ho
  rcases List.mem_append.mp hother with hmem | hmem
  · have hnot := hfront other hmem
    rw [List.isPrefixOf_iff_prefix.mpr ho] at hnot
    cases hnot
  rcases List.mem_cons.mp hmem with rfl | hmem
  · exact le_rfl
  -- of two starts of one text the shorter begins the longer, which then is not listed behind it
  · have hback := (List.pairwise_append.mp hk).2.1
    have hlater : ¬ known <+: other := (List.pairwise_cons.mp hback).1 other hmem
    rcases List.prefix_or_prefix_of_prefix hknown ho with hle | hle
    · exact absurd hle hlater
    · exact hle.length_le

/-- Where no known text is listed behind one with which it begins, the first that stands at the
start of a text is the longest that stands there. -/
theorem find?_eq_some_iff_isLongestStart (hk : LongerFirst knowns) :
    knowns.find? (fun known => known.isPrefixOf t) = some known ↔
      IsLongestStart knowns known t := by
  constructor
  · exact isLongestStart_of_find? hk
  · intro h
    cases hfind : knowns.find? (fun known => known.isPrefixOf t) with
    | none =>
      have hnot := List.find?_eq_none.mp hfind known h.mem
      exact absurd (List.isPrefixOf_iff_prefix.mpr h.isPrefix) hnot
    | some first => rw [h.unique (isLongestStart_of_find? hk hfind)]

end LongestStart

theorem find?_of_findSome?_after? {knowns : List (List Char)} {t : List Char} {cut : Cut}
    (h : (knowns.findSome? fun known => (after? known t).map fun after => ⟨[], known, after⟩) =
      some cut) :
    knowns.find? (fun known => known.isPrefixOf t) = some cut.operator := by
  induction knowns with
  | nil => cases h
  | cons known knowns ih =>
    rw [List.findSome?_cons] at h
    cases hafter : after? known t with
    | none =>
      have hnot : ¬ known <+: t := after?_eq_none_iff.mp hafter
      rw [hafter] at h
      rw [List.find?_cons_of_neg (by rwa [List.isPrefixOf_iff_prefix])]
      exact ih h
    | some rest =>
      have hp : known <+: t := ⟨rest, (after?_eq_some_iff.mp hafter).symm⟩
      rw [hafter] at h
      cases h
      exact List.find?_cons_of_pos (List.isPrefixOf_iff_prefix.mpr hp)

/-- The operator that is read at the start of a text is the longest that stands there. -/
theorem isLongestStart_of_operatorAtStart? {t : List Char} {cut : Cut}
    (h : operatorAtStart? t = some cut) : IsLongestStart operators cut.operator t :=
  isLongestStart_of_find? longerFirst_operators (find?_of_findSome?_after? h)

/-! ## The leftmost cut -/

namespace Cut

/-- A cut at an operator of a text. What stands before the operator tells the place. -/
structure IsOf (cut : Cut) (s : List Char) : Prop where
  mem : cut.operator ∈ operators
  eq_append : s = cut.before ++ (cut.operator ++ cut.after)

/-- No operator stands further to the left in the text than the one of this cut, and none that
stands at the same place is longer. -/
structure IsLeftmostLongest (cut : Cut) (s : List Char) : Prop where
  isOf : cut.IsOf s
  leftmost : ∀ other : Cut, other.IsOf s → cut.before <+: other.before
  longest : ∀ other : Cut, other.IsOf s → other.before = cut.before →
    other.operator.length ≤ cut.operator.length

variable {cut other : Cut} {s t : List Char} {c : Char}

theorem IsOf.hasOperator (h : cut.IsOf s) : HasOperator s :=
  ⟨cut.operator, h.mem, cut.before, cut.after, by rw [h.eq_append, List.append_assoc]⟩

theorem IsLeftmostLongest.unique (h : cut.IsLeftmostLongest s) (ho : other.IsLeftmostLongest s) :
    cut = other := by
  obtain ⟨before, operator, after⟩ := cut
  obtain ⟨before', operator', after'⟩ := other
  have hbefore : before = before' :=
    (h.leftmost _ ho.isOf).eq_of_length_le (ho.leftmost _ h.isOf).length_le
  subst hbefore
  have hle : operator.length ≤ operator'.length := ho.longest _ h.isOf rfl
  have hge : operator'.length ≤ operator.length := h.longest _ ho.isOf rfl
  have hrest : operator ++ after = operator' ++ after' :=
    List.append_cancel_left (h.isOf.eq_append.symm.trans ho.isOf.eq_append)
  obtain ⟨rfl, rfl⟩ := List.append_inj hrest (by omega)
  rfl

/-- Where no operator stands at the start of a text, each cut of the text is one of what follows the
first character. -/
theorem IsOf.exists_of_cons (h : cut.IsOf (c :: t)) (hstart : operatorAtStart? (c :: t) = none) :
    ∃ rest : Cut, rest.IsOf t ∧ cut = { rest with before := c :: rest.before } := by
  obtain ⟨before, operator, after⟩ := cut
  obtain ⟨hmem, happend⟩ := h
  cases before with
  | nil =>
    have hp : operator <+: c :: t := ⟨after, happend.symm⟩
    exact absurd hp (operatorAtStart?_eq_none_iff.mp hstart operator hmem)
  | cons d before =>
    obtain ⟨rfl, ht⟩ := List.cons.inj happend
    exact ⟨⟨before, operator, after⟩, ⟨hmem, ht⟩, rfl⟩

/-- A text with an operator at its start is cut there. -/
theorem isLeftmostLongest_of_operatorAtStart? (h : operatorAtStart? s = some cut) :
    cut.IsLeftmostLongest s := by
  obtain ⟨hbefore, hmem, happend⟩ := operatorAtStart?_eq_some h
  have hlongest := isLongestStart_of_operatorAtStart? h
  refine ⟨⟨hmem, by rw [hbefore, List.nil_append, happend]⟩, ?_, ?_⟩
  · intro other _
    rw [hbefore]
    exact List.nil_prefix
  · intro other hother heq
    have hs := hother.eq_append
    rw [heq, hbefore, List.nil_append] at hs
    exact hlongest.length_le other.operator hother.mem ⟨other.after, hs.symm⟩

/-- Where no operator stands at the start, the cut of what follows the first character is moved on by
that character. -/
theorem IsLeftmostLongest.cons (h : cut.IsLeftmostLongest t)
    (hstart : operatorAtStart? (c :: t) = none) :
    ({ cut with before := c :: cut.before } : Cut).IsLeftmostLongest (c :: t) := by
  refine ⟨⟨h.isOf.mem, ?_⟩, ?_, ?_⟩
  · show c :: t = c :: (cut.before ++ (cut.operator ++ cut.after))
    rw [← h.isOf.eq_append]
  · intro other hother
    obtain ⟨rest, hrest, rfl⟩ := hother.exists_of_cons hstart
    exact List.cons_prefix_cons.mpr ⟨rfl, h.leftmost rest hrest⟩
  · intro other hother heq
    obtain ⟨rest, hrest, rfl⟩ := hother.exists_of_cons hstart
    exact h.longest rest hrest (List.cons.inj heq).2

end Cut

theorem isLeftmostLongest_of_cut? {s : List Char} {cut : Cut} (h : cut? s = some cut) :
    cut.IsLeftmostLongest s := by
  induction s generalizing cut with
  | nil => cases h
  | cons c t ih =>
    rw [cut?] at h
    cases hstart : operatorAtStart? (c :: t) with
    | some found =>
      rw [hstart] at h
      cases h
      exact Cut.isLeftmostLongest_of_operatorAtStart? hstart
    | none =>
      rw [hstart] at h
      obtain ⟨rest, hrest, rfl⟩ := Option.map_eq_some_iff.mp h
      exact (ih hrest).cons hstart

/-- A text is not cut exactly if no operator occurs in it. It is cut at the leftmost place at which
an operator occurs, and there at the longest: of the operators that stand at the start of a text, the
first in the table is the longest. -/
theorem cut?_leftmost_longest (s : List Char) :
    (cut? s = none ↔ ∀ op ∈ operators, ¬ op <:+: s) ∧
      (∀ cut, cut? s = some cut ↔ cut.IsLeftmostLongest s) ∧
      ∀ op t, operators.find? (fun op => op.isPrefixOf t) = some op ↔
        IsLongestStart operators op t := by
  refine ⟨?_, ?_, ?_⟩
  · rw [cut?_eq_none_iff, HasOperator]
    simp only [not_exists, not_and]
  · intro cut
    constructor
    · exact isLeftmostLongest_of_cut?
    · intro h
      obtain ⟨found, hfound⟩ : ∃ found, cut? s = some found := by
        rw [← Option.ne_none_iff_exists', ne_eq, cut?_eq_none_iff, not_not]
        exact h.isOf.hasOperator
      rw [hfound, h.unique (isLeftmostLongest_of_cut? hfound)]
  · intro op t
    exact find?_eq_some_iff_isLongestStart longerFirst_operators

/-- The longer operator is taken at one place, but not one further on in place of the first. -/
example : cut? "A<--->B".toList = some ⟨['A'], "<--".toList, "->B".toList⟩ := by decide

end TextDiagram.Flow
