import TextDiagram.Proofs.Flow.Grammar

/-!
# Quotes around labels

A label may stand in quotes, and whatever quote stands at either end of what the brackets enclose is
taken off, whether or not there is one at the other end. Main statement: the label of a token is what
the quotes leave of the body of its brackets, and it is the one that pairs of quotes would leave
exactly if the same quote, or none, is taken off at both ends (`Token.label_eq_pairedLabel_iff`).
-/

namespace TextDiagram.Flow

open Text

/-! ## Quotes at the ends -/

/-- A text, unless it is empty. -/
def nonempty? (t : List Char) : Option (List Char) :=
  if t.isEmpty then none else some t

theorem nonempty?_inj {s t : List Char} : nonempty? s = nonempty? t ↔ s = t := by
  refine ⟨fun h => ?_, fun h => congrArg _ h⟩
  cases s with
  | nil =>
    cases t with
    | nil => rfl
    | cons c t => cases h
  | cons c s =>
    cases t with
    | nil => cases h
    | cons d t => exact Option.some.inj h

/-- A quote is taken off the start of a text if there is one, and then one off the end of what is
left. -/
structure Unquotes (t opening inside closing : List Char) : Prop where
  eq_append : t = opening ++ (inside ++ closing)
  opening : opening = [] ∧ (∀ c ∈ t.head?, isQuote c = false) ∨
    ∃ q, isQuote q = true ∧ opening = [q]
  closing : closing = [] ∧ (∀ c ∈ inside.getLast?, isQuote c = false) ∨
    ∃ q, isQuote q = true ∧ closing = [q]

theorem exists_eq_append_withoutOpeningQuote (t : List Char) :
    ∃ opening, t = opening ++ withoutOpeningQuote t ∧
      (opening = [] ∧ (∀ c ∈ t.head?, isQuote c = false) ∨ ∃ q, isQuote q = true ∧ opening = [q]) := by
  cases t with
  | nil => exact ⟨[], rfl, Or.inl ⟨rfl, nofun⟩⟩
  | cons c t =>
    by_cases hc : isQuote c = true
    · refine ⟨[c], ?_, Or.inr ⟨c, hc, rfl⟩⟩
      rw [withoutOpeningQuote, if_pos hc, List.singleton_append]
    · refine ⟨[], ?_, Or.inl ⟨rfl, by simpa using hc⟩⟩
      rw [withoutOpeningQuote, if_neg hc, List.nil_append]

theorem exists_eq_withoutClosingQuote_append (t : List Char) :
    ∃ closing, t = withoutClosingQuote t ++ closing ∧
      (closing = [] ∧ (∀ c ∈ (withoutClosingQuote t).getLast?, isQuote c = false) ∨
        ∃ q, isQuote q = true ∧ closing = [q]) := by
  obtain ⟨opening, happend, hopening⟩ := exists_eq_append_withoutOpeningQuote t.reverse
  have ht : t = withoutClosingQuote t ++ opening.reverse := by
    have hreverse := congrArg List.reverse happend
    rwa [List.reverse_reverse, List.reverse_append] at hreverse
  refine ⟨opening.reverse, ht, ?_⟩
  rcases hopening with ⟨rfl, hhead⟩ | ⟨q, hq, rfl⟩
  · rw [List.reverse_nil, List.append_nil] at ht
    rw [List.head?_reverse] at hhead
    exact Or.inl ⟨rfl, ht ▸ hhead⟩
  · exact Or.inr ⟨q, hq, rfl⟩

/-- The label in a body is what the quotes at its ends leave. -/
theorem exists_unquotes (body : List Char) : ∃ opening inside closing,
    Unquotes (trim body) opening inside closing ∧ label? body = nonempty? (trim inside) := by
  obtain ⟨opening, hopen, hopening⟩ := exists_eq_append_withoutOpeningQuote (trim body)
  obtain ⟨closing, hclose, hclosing⟩ :=
    exists_eq_withoutClosingQuote_append (withoutOpeningQuote (trim body))
  exact ⟨opening, _, closing, ⟨hclose ▸ hopen, hopening, hclosing⟩, rfl⟩

/-! ## Pairs of quotes -/

/-- A text without the pair of quotes around it, and without the blanks inside them. -/
def withoutQuotePair (t : List Char) : List Char :=
  if 2 ≤ t.length ∧ t.head? = t.getLast? ∧ t.head?.any isQuote = true then trim t.tail.dropLast
  else t

/-- The label in a body if quotes are taken off only as a pair, unless nothing is left of it. -/
def pairedLabel? (body : List Char) : Option (List Char) :=
  nonempty? (withoutQuotePair (trim body))

namespace Unquotes

variable {t opening inside closing : List Char}

/-- A pair of quotes is taken off as such, and so is no quote at all. -/
theorem withoutQuotePair_eq (h : Unquotes t opening inside closing) (htrim : trim t = t)
    (heq : opening = closing) : withoutQuotePair t = trim inside := by
  subst heq
  rcases h.opening with ⟨rfl, hhead⟩ | ⟨q, hq, rfl⟩
  · have hinside : t = inside := by simpa using h.eq_append
    have hnone : ¬ t.head?.any isQuote = true := by
      rw [Option.any_eq_true]
      rintro ⟨c, hc, hquote⟩
      rw [hhead c hc] at hquote
      cases hquote
    rw [withoutQuotePair, if_neg fun hpair => hnone hpair.2.2, ← hinside, htrim]
  · have hlast : t.getLast? = some q := by
      rw [h.eq_append, ← List.append_assoc, List.getLast?_concat]
    have hpair : 2 ≤ t.length ∧ t.head? = t.getLast? ∧ t.head?.any isQuote = true := by
      rw [hlast, h.eq_append]
      simp [hq]
    rw [withoutQuotePair, if_pos hpair, h.eq_append]
    simp

/-- Quotes that are no pair are not taken off as one. -/
theorem withoutQuotePair_eq_self (h : Unquotes t opening inside closing)
    (hne : opening ≠ closing) : withoutQuotePair t = t := by
  refine if_neg ?_
  rintro ⟨hlength, hsame, hquote⟩
  obtain ⟨c, hc, hcquote⟩ := (Option.any_eq_true ..).mp hquote
  rcases h.opening with ⟨-, hhead⟩ | ⟨q, hq, rfl⟩
  · rw [hhead c hc] at hcquote
    cases hcquote
  · have hlast : t.getLast? = some q := by rw [← hsame, h.eq_append]; rfl
    rcases h.closing with ⟨rfl, hend⟩ | ⟨q', -, rfl⟩
    · -- the last character is the opening quote only if there is no other
      have ht : t = q :: inside := by rw [h.eq_append, List.append_nil, List.singleton_append]
      have hinside : inside ≠ [] := by
        rintro rfl
        rw [ht, List.length_singleton] at hlength
        omega
      rw [ht, List.getLast?_cons_of_ne_nil hinside] at hlast
      rw [hend q hlast] at hq
      cases hq
    · rw [h.eq_append, ← List.append_assoc, List.getLast?_concat] at hlast
      exact hne (by rw [Option.some.inj hlast])

/-- The label is that which pairs of quotes would leave exactly if the same quote, or none, is taken
off at both ends. -/
theorem nonempty?_eq_iff (h : Unquotes t opening inside closing) (htrim : trim t = t) :
    nonempty? (trim inside) = nonempty? (withoutQuotePair t) ↔ opening = closing := by
  constructor
  · intro heq
    by_contra hne
    rw [h.withoutQuotePair_eq_self hne] at heq
    -- with nothing less than the whole text left, no quote is taken off
    have hlength := congrArg List.length (nonempty?_inj.mp heq)
    have hinside := List.IsInfix.length_le <| trim_infix inside
    conv_rhs at hlength => rw [h.eq_append, List.length_append, List.length_append]
    have hopening : opening = [] := List.eq_nil_of_length_eq_zero (by omega)
    have hclosing : closing = [] := List.eq_nil_of_length_eq_zero (by omega)
    exact hne (hopening.trans hclosing.symm)
  · intro heq
    rw [h.withoutQuotePair_eq htrim heq]

end Unquotes

/-! ## Labels of tokens -/

/-- The label of a token is the trimmed body of its brackets without a quote at its start, if there
is one, and without a quote at the end of what is left, if there is one, again trimmed, unless that
is empty. It is the label that pairs of quotes would leave exactly if the same quote, or none, is
taken off at both ends. -/
theorem Token.label_eq_pairedLabel_iff {t : List Char} {token : Token}
    (h : ofText? t = some token) (hshape : token.shape ≠ .bare) :
    ∃ b ∈ Brackets.all, ∃ body opening inside closing,
      trim t = token.id ++ (b.opening ++ (body ++ b.closing)) ∧ b.shape = token.shape ∧
      Unquotes (trim body) opening inside closing ∧ token.label = nonempty? (trim inside) ∧
      (token.label = pairedLabel? body ↔ opening = closing) := by
  obtain ⟨-, hbare, -⟩ | ⟨b, hb, body, htoken, hbshape, hlabel⟩ := cases_of_ofText? h
  · exact absurd hbare hshape
  obtain ⟨opening, inside, closing, hunquotes, hinside⟩ := exists_unquotes body
  rw [hlabel, hinside]
  exact ⟨b, hb, body, opening, inside, closing, htoken, hbshape, hunquotes, rfl,
    hunquotes.nonempty?_eq_iff (trim_trim body)⟩

/-! ### A quote that is no half of a pair -/

/-- A node whose label ends with a quote but does not begin with one. -/
def sayingText : List Char :=
  "A[say \"hi\"]".toList

theorem Token.label_eq_pairedLabel_iff_saying :
    ∃ b ∈ Brackets.all, ∃ body opening inside closing,
      trim sayingText = ['A'] ++ (b.opening ++ (body ++ b.closing)) ∧ b.shape = .square ∧
      Unquotes (trim body) opening inside closing ∧
      some "say \"hi".toList = nonempty? (trim inside) ∧
      (some "say \"hi".toList = pairedLabel? body ↔ opening = closing) :=
  have h : ofText? sayingText = some ⟨['A'], some "say \"hi".toList, .square⟩ := by
    decide +kernel
  label_eq_pairedLabel_iff h (by decide)

/-- A quote may be taken off a label without one at its other end. -/
theorem Token.not_forall_label_eq_pairedLabel : ¬ ∀ (body : List Char) (token : Token),
    ofText? ("A[".toList ++ body ++ "]".toList) = some token →
      token.label = pairedLabel? body := by
  intro h
  have hread : ofText? ("A[".toList ++ "say \"hi\"".toList ++ "]".toList) =
      some ⟨['A'], some "say \"hi".toList, .square⟩ := by
    decide +kernel
  exact absurd (h _ _ hread) (by decide +kernel)

end TextDiagram.Flow
