import TextDiagram.Proofs.Text.Words
import TextDiagram.Text.Fit

/-!
# Shortened texts

Texts are shortened and wrapped word by word, and words make lines with single spaces in between
(`joined`). Main statements: what is kept of a text depends only on its words
(`shorten_eq_of_words_eq`). Nothing is kept of a blank text, and of any other something is, however
it is shortened (`shorten_eq_nil_iff`) or wrapped (`all_isEmpty_wrap_iff`).
-/

namespace TextDiagram.Text

/-- What is kept of a text depends only on its words. -/
theorem shorten_eq_of_words_eq {s t : List Char} (h : words s = words t) (limit : Nat) :
    shorten limit s = shorten limit t := by
  unfold shorten collapse
  rw [h]

/-! ## Lines of words -/

/-- The line that words make, with a single space between neighbours. -/
def joined (ws : List (List Char)) : List Char :=
  [' '].intercalate ws

@[simp] theorem joined_singleton (w : List Char) : joined [w] = w :=
  List.intercalate_singleton

theorem joined_cons {ws : List (List Char)} (hne : ws ≠ []) (w : List Char) :
    joined (w :: ws) = w ++ ' ' :: joined ws := by
  obtain ⟨v, vs, rfl⟩ := List.exists_cons_of_ne_nil hne
  rw [joined, List.intercalate_cons_cons, List.append_assoc, List.singleton_append]
  rfl

/-- Words make a line that is not empty. -/
theorem joined_ne_nil {ws : List (List Char)} (hne : ws ≠ []) (hws : ∀ w ∈ ws, w ≠ []) :
    joined ws ≠ [] := by
  obtain ⟨w, rest, rfl⟩ := List.exists_cons_of_ne_nil hne
  by_cases hrest : rest = []
  · rw [hrest, joined_singleton]
    exact hws w (List.mem_cons_self ..)
  · rw [joined_cons hrest]
    simp

/-! ## Blank texts -/

/-- A text has no words if all of it is blank. -/
theorem words_eq_nil_iff {t : List Char} : words t = [] ↔ t.all isBlank = true := by
  induction t with
  | nil => simp
  | cons c t ih =>
    by_cases hc : isBlank c = true
    · rw [words_cons_of_isBlank hc, ih, List.all_cons, hc, Bool.true_and]
    · have hne : [c] ≠ [] := List.cons_ne_nil c []
      have hword : ∀ d ∈ [c], isBlank d = false := by simpa using hc
      have hfirst : [c] <+: firstWord (c :: t) := prefix_firstWord_append hne hword t
      simp only [List.all_cons, hc, Bool.false_and, Bool.false_eq_true, iff_false]
      intro h
      rw [firstWord, h] at hfirst
      exact absurd (List.prefix_nil.mp hfirst) hne

theorem exists_collapse_eq {t w : List Char} {ws : List (List Char)} (h : words t = w :: ws) :
    ∃ rest, collapse t = w ++ rest := by
  have hcollapse : collapse t = joined (w :: ws) := congrArg _ h
  by_cases hnil : ws = []
  · exact ⟨[], by rw [hcollapse, hnil, joined_singleton, List.append_nil]⟩
  · exact ⟨_, hcollapse.trans (joined_cons hnil w)⟩

theorem collapse_eq_nil_iff {t : List Char} : collapse t = [] ↔ words t = [] := by
  constructor
  · intro h
    by_contra hne
    exact joined_ne_nil hne (fun w hw => ne_nil_of_mem_words hw) h
  · intro h
    unfold collapse
    rw [h]
    rfl

/-- Something is kept of a text that is not blank: its first words, or at least the ellipsis. -/
theorem shorten_eq_nil_iff {limit : Nat} {t : List Char} :
    shorten limit t = [] ↔ t.all isBlank = true := by
  rw [← words_eq_nil_iff, ← collapse_eq_nil_iff]
  unfold shorten
  split
  · exact Iff.rfl
  · next hlong =>
    have hne : collapse t ≠ [] := by
      rintro h
      rw [h] at hlong
      exact hlong (Nat.zero_le _)
    simp [hne]

/-- What is kept of a text is blank only if the text is. -/
theorem all_isBlank_shorten (limit : Nat) (t : List Char) :
    (shorten limit t).all isBlank = t.all isBlank := by
  rw [Bool.eq_iff_iff]
  constructor
  · intro h
    rw [← words_eq_nil_iff]
    cases hw : words t with
    | nil => rfl
    | cons w ws =>
      exfalso
      unfold shorten at h
      split at h
      · -- the first word is kept whole
        obtain ⟨rest, hrest⟩ := exists_collapse_eq hw
        have hmem : w ∈ words t := hw ▸ List.mem_cons_self ..
        obtain ⟨c, w', rfl⟩ := List.exists_cons_of_ne_nil (ne_nil_of_mem_words hmem)
        rw [hrest] at h
        have hblank : isBlank c = true := List.all_eq_true.mp h c (by simp)
        rw [isBlank_eq_false_of_mem_words hmem c (List.mem_cons_self ..)] at hblank
        cases hblank
      · have hblank : isBlank ellipsis = true := List.all_eq_true.mp h ellipsis (by simp)
        exact absurd hblank (by decide)
  · intro h
    rw [shorten_eq_nil_iff.mpr h]
    rfl

/-- Lines are filled beginning with the line so far. -/
theorem exists_fill_eq_cons (width more : Nat) (line : List Char) (rest : List (List Char)) :
    ∃ added lines, fill width more line rest = (line ++ added) :: lines := by
  induction rest generalizing more line with
  | nil => exact ⟨[], [], by rw [fill, List.append_nil]⟩
  | cons word rest ih =>
    unfold fill
    split
    · obtain ⟨added, lines, h⟩ := ih more (line ++ ' ' :: word)
      exact ⟨' ' :: word ++ added, lines, by rw [h, List.append_assoc]⟩
    · cases more with
      | zero => exact ⟨[], [], by rw [List.append_nil]⟩
      | succ more => exact ⟨[], fill width more word rest, by rw [List.append_nil]⟩

theorem wrap_eq_nil_iff (width more : Nat) (t : List Char) :
    wrap width (more + 1) t = [] ↔ words t = [] := by
  unfold wrap
  cases hw : words t with
  | nil => simp
  | cons w ws =>
    obtain ⟨added, lines, h⟩ := exists_fill_eq_cons width more w ws
    simp [h]

/-- The lines of a wrapped text are all empty only if the text has no words. -/
theorem all_isEmpty_wrap_iff (width more : Nat) (t : List Char) :
    (wrap width (more + 1) t).all List.isEmpty = true ↔ t.all isBlank = true := by
  rw [← words_eq_nil_iff]
  unfold wrap
  cases hw : words t with
  | nil => simp
  | cons w ws =>
    have hne : w ≠ [] := ne_nil_of_mem_words (hw ▸ List.mem_cons_self ..)
    obtain ⟨added, lines, h⟩ := exists_fill_eq_cons width more w ws
    simp [h, hne]

end TextDiagram.Text
