import Mathlib.Data.List.DropRight
import Mathlib.Data.List.Induction
import Mathlib.Tactic.Common
import TextDiagram.Text.Alphanumeric
import TextDiagram.Text.Words

/-!
# Words, trimmed texts and boundaries

Main statements: a text is its own trim exactly when no blank stands at either end
(`trim_eq_self_iff`), blanks at its end do not change the words of a text (`words_trimEnd`), and a
known text does not reach across a character that it does not hold (`infix_append_cons_iff`).
-/

namespace TextDiagram.Text

/-! ## Statements about the characters of a text -/

namespace ItemByItem

/-- A statement about the items of a list is decided by going through the list. Otherwise one about
characters may be decided by going through all characters there are. -/
scoped instance (priority := high) decidableForallMem {α : Type} {p : α → Prop} [DecidablePred p]
    (l : List α) : Decidable (∀ x ∈ l, p x) :=
  List.decidableBAll p l

scoped instance (priority := high) decidableMem {α : Type} [DecidableEq α] (a : α) (l : List α) :
    Decidable (a ∈ l) :=
  inferInstance

end ItemByItem

/-! ## Pieces between separators -/

section Pieces

variable {α : Type} {p q : α → Bool}

/-- Induction over the pieces of a list between separators. -/
theorem separator_induction {motive : List α → Prop}
    (piece : ∀ xs, (∀ x ∈ xs, p x = false) → motive xs)
    (cut : ∀ xs s ys, (∀ x ∈ xs, p x = false) → p s = true → motive ys → motive (xs ++ s :: ys))
    (xs : List α) : motive xs := by
  match h : xs.find? p with
  | none =>
    refine piece xs fun x hx => ?_
    simpa using List.find?_eq_none.mp h x hx
  | some s =>
    obtain ⟨hs, as, bs, hxs, has⟩ := List.find?_eq_some_iff_append.mp h
    have hlt : bs.length < xs.length := by
      rw [hxs, List.length_append, List.length_cons]
      omega
    rw [hxs]
    refine cut as s bs (fun a ha => ?_) hs (separator_induction piece cut bs)
    simpa using has a ha
termination_by xs.length

/-- Tests that agree on a list cut it into the same pieces. -/
theorem splitOnP_congr {xs : List α} (h : ∀ x ∈ xs, p x = q x) :
    xs.splitOnP p = xs.splitOnP q := by
  induction xs with
  | nil => rw [List.splitOnP_nil, List.splitOnP_nil]
  | cons x xs ih =>
    rw [List.splitOnP_cons_eq_if_modifyHead, List.splitOnP_cons_eq_if_modifyHead,
      h x (List.mem_cons_self ..), ih fun y hy => h y (List.mem_cons_of_mem _ hy)]

/-- What stands in a piece between separators stands in the list, and is no separator. -/
theorem mem_and_eq_false_of_mem_splitOnP {xs piece : List α} (h : piece ∈ xs.splitOnP p) :
    ∀ x ∈ piece, x ∈ xs ∧ p x = false := by
  induction xs using separator_induction (p := p) with
  | piece xs hxs =>
    rw [List.splitOnP_eq_singleton hxs] at h
    rw [List.mem_singleton.mp h]
    exact fun x hx => ⟨hx, hxs x hx⟩
  | cut xs s ys hxs hs ih =>
    rw [List.splitOnP_append_cons xs ys hs, List.splitOnP_eq_singleton hxs,
      List.singleton_append] at h
    rcases List.mem_cons.mp h with rfl | h
    · exact fun x hx => ⟨List.mem_append_left _ hx, hxs x hx⟩
    · intro x hx
      obtain ⟨hmem, hp⟩ := ih h x hx
      exact ⟨List.mem_append_right _ (List.mem_cons_of_mem s hmem), hp⟩

theorem of_mem_splitOnP {xs piece : List α} (h : piece ∈ xs.splitOnP p) :
    ∀ x ∈ piece, p x = false :=
  fun x hx => (mem_and_eq_false_of_mem_splitOnP h x hx).2

theorem subset_of_mem_splitOnP {xs piece : List α} (h : piece ∈ xs.splitOnP p) : piece ⊆ xs :=
  fun x hx => (mem_and_eq_false_of_mem_splitOnP h x hx).1

end Pieces

/-! ## Boundaries -/

section Boundary

variable {α : Type} {l a b : List α} {c : α}

/-- A text at the start does not reach across a character that it does not hold. -/
theorem prefix_of_prefix_append_cons (h : l <+: a ++ c :: b) (hc : c ∉ l) : l <+: a := by
  rcases List.prefix_or_prefix_of_prefix h (List.prefix_append a (c :: b)) with hl | ⟨t, rfl⟩
  · exact hl
  · have ht : t <+: c :: b := (List.prefix_append_right_inj a).mp h
    rcases List.prefix_cons_iff.mp ht with rfl | ⟨t', rfl, _⟩
    · simp
    · exact absurd (by simp) hc

/-- A text that occurs does not reach across a character that it does not hold. -/
theorem infix_append_cons_iff (hc : c ∉ l) : l <:+: a ++ c :: b ↔ l <:+: a ∨ l <:+: b := by
  constructor
  · intro h
    rcases List.infix_append_iff.mp h with ha | hcb | ⟨l₁, l₂, rfl, h₁, h₂⟩
    · exact Or.inl ha
    · rcases List.infix_cons_iff.mp hcb with hp | hb
      · rcases List.prefix_cons_iff.mp hp with rfl | ⟨t, rfl, _⟩
        · exact Or.inl (List.nil_infix)
        · exact absurd (by simp) hc
      · exact Or.inr hb
    · rcases List.prefix_cons_iff.mp h₂ with rfl | ⟨t, rfl, _⟩
      · rw [List.append_nil]
        exact Or.inl h₁.isInfix
      · exact absurd (by simp) hc
  · rintro (h | h)
    · exact List.infix_append_of_infix_left h
    · exact List.infix_append_of_infix_right (List.infix_cons h)

/-- A run of characters ends in front of the first one that does not belong to it. -/
theorem run_append {p : α → Bool} (ha : ∀ x ∈ a, p x = true) (hb : ∀ x ∈ b.head?, p x = false) :
    (a ++ b).takeWhile p = a ∧ (a ++ b).dropWhile p = b := by
  have hstop : b.takeWhile p = [] ∧ b.dropWhile p = b := by
    cases b with
    | nil => exact ⟨rfl, rfl⟩
    | cons x b =>
      have hx : p x = false := hb x rfl
      simp [hx]
  rw [List.takeWhile_append_of_pos ha, List.dropWhile_append_of_pos ha, hstop.1, hstop.2,
    List.append_nil]
  exact ⟨rfl, rfl⟩

/-- What holds of all characters in front and of the first one behind holds of the first. -/
theorem forall_head?_append {P : α → Prop} (ha : ∀ x ∈ a, P x) (hb : ∀ x ∈ b.head?, P x) :
    ∀ x ∈ (a ++ b).head?, P x := by
  cases a with
  | nil => exact hb
  | cons x a =>
    intro y hy
    cases hy
    exact ha x (List.mem_cons_self ..)

/-- What holds of the last character in front and of all behind holds of the last. -/
theorem forall_getLast?_append {P : α → Prop} (ha : ∀ x ∈ a.getLast?, P x) (hb : ∀ x ∈ b, P x) :
    ∀ x ∈ (a ++ b).getLast?, P x := by
  by_cases hne : b = []
  · rw [hne, List.append_nil]
    exact ha
  · intro x hx
    rw [List.getLast?_append_of_ne_nil a hne] at hx
    exact hb x (List.mem_of_mem_getLast? hx)

end Boundary

/-! ## Blanks among the characters -/

/-- Ranges that lie apart share no character. -/
theorem has_eq_false_of_apart {rs qs : CharRanges}
    (h : ∀ r ∈ rs, ∀ q ∈ qs, r.2 < q.1 ∨ q.2 < r.1) {c : Char} (hc : rs.has c = true) :
    qs.has c = false := by
  obtain ⟨r, hr, h1, h2⟩ := CharRanges.has_iff.mp hc
  by_contra hq
  obtain ⟨q, hq, h3, h4⟩ := CharRanges.has_iff.mp (Bool.not_eq_false _ ▸ hq)
  rcases h r hr q hq with h | h
  · omega
  · omega

/-- The letters and digits of ASCII stand in three ranges. -/
theorem has_of_isAlphanum {c : Char} (h : c.isAlphanum = true) :
    CharRanges.has [(48, 57), (65, 90), (97, 122)] c = true := by
  change (decide ('A'.val ≤ c.val ∧ c.val ≤ 'Z'.val) ||
    (decide ('a'.val ≤ c.val) && decide (c.val ≤ 'z'.val)) ||
      (decide ('0'.val ≤ c.val) && decide (c.val ≤ '9'.val))) = true at h
  simp only [Bool.or_eq_true, Bool.and_eq_true, decide_eq_true_eq, UInt32.le_iff_toNat_le,
    Char.toNat_val, Char.reduceToNat] at h
  simp only [CharRanges.has, List.any_cons, List.any_nil, Bool.or_false, Bool.or_eq_true,
    Bool.and_eq_true, decide_eq_true_eq]
  omega

/-- A blank is neither a letter nor a number. -/
theorem isAlphanumeric_eq_false_of_isBlank {c : Char} (h : isBlank c = true) :
    isAlphanumeric c = false := by
  have hbeyond : alphanumericRanges.has c = false :=
    has_eq_false_of_apart (by decide +kernel) h
  have hascii : CharRanges.has [(48, 57), (65, 90), (97, 122)] c = false :=
    has_eq_false_of_apart (by decide) h
  have hcore : c.isAlphanum = false := by
    by_contra hc
    rw [Bool.not_eq_false] at hc
    rw [has_of_isAlphanum hc] at hascii
    cases hascii
  rw [isAlphanumeric, hbeyond, hcore]
  simp

/-! ## Trimmed texts -/

/-- No blank is cut off the start of a text that does not start with one. -/
theorem trimStart_eq_self_iff {t : List Char} :
    trimStart t = t ↔ ∀ c ∈ t.head?, isBlank c = false := by
  cases t with
  | nil => simp [trimStart]
  | cons c t =>
    simp only [trimStart, List.dropWhile_eq_self_iff, List.head?_cons, Option.mem_some_iff]
    simp

/-- No blank is cut off the end of a text that does not end with one. -/
theorem trimEnd_eq_self_iff {t : List Char} :
    trimEnd t = t ↔ ∀ c ∈ t.getLast?, isBlank c = false := by
  have h := trimStart_eq_self_iff (t := t.reverse)
  rw [List.head?_reverse] at h
  rw [← h, trimEnd, trimStart, List.reverse_eq_iff]

/-- A text is its own trim exactly when no blank stands at either end. -/
theorem trim_eq_self_iff {t : List Char} :
    trim t = t ↔ (∀ c ∈ t.head?, isBlank c = false) ∧ ∀ c ∈ t.getLast?, isBlank c = false := by
  rw [← trimStart_eq_self_iff, ← trimEnd_eq_self_iff]
  constructor
  · intro h
    -- neither cut lengthens the text, so neither shortens it
    have h1 := (trimEnd_isPrefix (trimStart t)).length_le
    have h2 := (trimStart_suffix t).length_le
    have h3 : (trimEnd (trimStart t)).length = t.length := congrArg List.length h
    have hs : trimStart t = t := (trimStart_suffix t).eq_of_length (by omega)
    refine ⟨hs, ?_⟩
    rw [trim, hs] at h
    exact h
  · rintro ⟨hs, he⟩
    rw [trim, hs, he]

/-- Blanks at the end of a text are cut off behind its last character that is none. -/
theorem trimEnd_append (s t : List Char) :
    trimEnd (s ++ t) = if trimEnd t = [] then trimEnd s else s ++ trimEnd t := by
  simp only [trimEnd, List.reverse_append, List.dropWhile_append, List.isEmpty_iff,
    List.reverse_eq_nil_iff]
  split
  · rfl
  · simp

/-- Of blanks nothing is left. -/
theorem trimEnd_eq_nil {t : List Char} (h : ∀ c ∈ t, isBlank c = true) : trimEnd t = [] := by
  have hstart : t.reverse.dropWhile isBlank = [] :=
    List.dropWhile_eq_nil_iff.mpr fun c hc => h c (List.mem_reverse.mp hc)
  rw [trimEnd, hstart, List.reverse_nil]

/-- Blanks in front of a text are cut off. -/
theorem trimStart_append {s : List Char} (h : ∀ c ∈ s, isBlank c = true) (t : List Char) :
    trimStart (s ++ t) = trimStart t :=
  List.dropWhile_append_of_pos h

/-- A text that starts and ends without a blank stays whole in front of what is trimmed. -/
theorem trim_append {s : List Char} (hne : s ≠ []) (hs : trim s = s) (t : List Char) :
    trim (s ++ t) = s ++ trimEnd t := by
  obtain ⟨hhead, hlast⟩ := trim_eq_self_iff.mp hs
  have hstart : trimStart (s ++ t) = s ++ t := by
    rw [trimStart_eq_self_iff, List.head?_append_of_ne_nil s hne]
    exact hhead
  rw [trim, hstart, trimEnd_append]
  split
  · next h => rw [h, List.append_nil, trimEnd_eq_self_iff.mpr hlast]
  · rfl

/-- Trimming twice is trimming once. -/
@[simp] theorem trim_trim (t : List Char) : trim (trim t) = trim t := by
  have hstart : trimStart (trimStart t) = trimStart t := List.dropWhile_idempotent isBlank t
  have hend : trimEnd (trim t) = trim t := List.rdropWhile_idempotent isBlank (trimStart t)
  refine trim_eq_self_iff.mpr ⟨?_, trimEnd_eq_self_iff.mp hend⟩
  intro c hc
  obtain ⟨u, hu⟩ : trim t <+: trimStart t := trimEnd_isPrefix (trimStart t)
  refine trimStart_eq_self_iff.mp hstart c ?_
  rw [← hu, List.head?_append, Option.mem_def.mp hc]
  rfl

/-! ## Words -/

/-- Words hold no blank. -/
theorem isBlank_eq_false_of_mem_words {t w : List Char} (h : w ∈ words t) :
    ∀ c ∈ w, isBlank c = false :=
  of_mem_splitOnP (List.mem_filter.mp h).1

/-- A word holds nothing that the text does not hold. -/
theorem subset_of_mem_words {t w : List Char} (h : w ∈ words t) : w ⊆ t :=
  subset_of_mem_splitOnP (List.mem_filter.mp h).1

/-- The words of a text do not change when blanks are cut off its end. -/
@[simp] theorem words_trimEnd (t : List Char) : words (trimEnd t) = words t := by
  induction t using List.reverseRecOn with
  | nil => rfl
  | append_singleton t c ih =>
    by_cases h : isBlank c = true
    · have hc := words_append_cons h t []
      rw [words_nil, List.append_nil] at hc
      have he : trimEnd (t ++ [c]) = trimEnd t := List.rdropWhile_concat_pos isBlank t c h
      rw [hc, he, ih]
    · have he : trimEnd (t ++ [c]) = t ++ [c] := List.rdropWhile_concat_neg isBlank t c h
      rw [he]

/-- A text without blanks is a word. -/
theorem words_eq_singleton {w : List Char} (hne : w ≠ []) (h : ∀ c ∈ w, isBlank c = false) :
    words w = [w] := by
  rw [words, List.splitOnP_eq_singleton h]
  simp [hne]

/-- The word before a blank is the first. -/
theorem firstWord_append_cons {w : List Char} (hne : w ≠ []) (h : ∀ c ∈ w, isBlank c = false)
    {c : Char} (hc : isBlank c = true) (t : List Char) : firstWord (w ++ c :: t) = w := by
  rw [firstWord, words_append_cons hc, words_eq_singleton hne h]
  rfl

/-- The first word is at least what stands before the first blank. -/
theorem prefix_firstWord_append {s : List Char} (hne : s ≠ []) (h : ∀ c ∈ s, isBlank c = false)
    (t : List Char) : s <+: firstWord (s ++ t) := by
  have hall : ∀ c ∈ s ++ t.takeWhile (fun c => !isBlank c), isBlank c = false := by
    intro c hc
    rcases List.mem_append.mp hc with hc | hc
    · exact h c hc
    · simpa using List.mem_takeWhile_imp hc
  have hne' : s ++ t.takeWhile (fun c => !isBlank c) ≠ [] := by simp [hne]
  have ht : s ++ t = (s ++ t.takeWhile fun c => !isBlank c) ++ t.dropWhile fun c => !isBlank c := by
    rw [List.append_assoc, List.takeWhile_append_dropWhile]
  rw [ht]
  cases hr : t.dropWhile fun c => !isBlank c with
  | nil =>
    rw [List.append_nil, firstWord, words_eq_singleton hne' hall]
    exact List.prefix_append _ _
  | cons c rest =>
    have hc : isBlank c = true := by
      have := List.head?_dropWhile_not (fun c => !isBlank c) t
      rw [hr] at this
      simpa using this
    rw [firstWord_append_cons hne' hall hc]
    exact List.prefix_append _ _

end TextDiagram.Text
