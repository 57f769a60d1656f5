import TextDiagram.Proofs.Text.Packing

/-!
# Where the characters of shown texts come from

Fitting a text adds nothing to it but spaces and the mark at the end: any other character is one of
the text that is not blank (`ComesFrom`). Main statements: this is so of a text that is shortened
(`comesFrom_of_mem_shorten`) and of one that is wrapped (`comesFrom_of_mem_wrap`).
-/

namespace TextDiagram.Text

/-- A character is a space, the mark at the end of shortened texts, or a character of a text that is
not blank. -/
def ComesFrom (t : List Char) (x : Char) : Prop :=
  x = ' ' ∨ x = ellipsis ∨ (isBlank x = false ∧ x ∈ t)

variable {s t line : List Char} {x : Char}

/-- What comes from a text also comes from one that holds its characters. -/
theorem ComesFrom.mono (h : ComesFrom s x) (hsub : s ⊆ t) : ComesFrom t x :=
  h.imp_right fun h => h.imp_right fun ⟨hblank, hx⟩ => ⟨hblank, hsub hx⟩

/-- A line holds the characters of its words and spaces between them. -/
theorem eq_space_or_exists_of_mem_joined {ws : List (List Char)} (h : x ∈ joined ws) :
    x = ' ' ∨ ∃ w ∈ ws, x ∈ w := by
  induction ws with
  | nil => exact absurd h List.not_mem_nil
  | cons w ws ih =>
    by_cases hne : ws = []
    · rw [hne, joined_singleton] at h
      exact .inr ⟨w, List.mem_cons_self, h⟩
    · rw [joined_cons hne] at h
      rcases List.mem_append.mp h with h | h
      · exact .inr ⟨w, List.mem_cons_self, h⟩
      · rcases List.mem_cons.mp h with h | h
        · exact .inl h
        · exact (ih h).imp_right fun ⟨v, hv, hx⟩ => ⟨v, List.mem_cons_of_mem w hv, hx⟩

/-- A line of words of a text holds spaces and characters of the text. -/
theorem comesFrom_of_mem_joined {ws : List (List Char)} (hws : ws ⊆ words t) (h : x ∈ joined ws) :
    ComesFrom t x := by
  rcases eq_space_or_exists_of_mem_joined h with h | ⟨w, hw, hx⟩
  · exact .inl h
  · exact .inr (.inr ⟨isBlank_eq_false_of_mem_words (hws hw) x hx, subset_of_mem_words (hws hw) hx⟩)

theorem comesFrom_of_mem_shorten {limit : Nat} (h : x ∈ shorten limit t) : ComesFrom t x := by
  have hcollapse : ∀ y ∈ collapse t, ComesFrom t y := fun y hy =>
    comesFrom_of_mem_joined (List.Subset.refl _) hy
  unfold shorten at h
  split at h
  · exact hcollapse x h
  · rcases List.mem_append.mp h with h | h
    · exact hcollapse x (List.mem_of_mem_take ((trimEnd_isPrefix _).subset h))
    · exact .inr (.inl (List.mem_singleton.mp h))

theorem comesFrom_of_mem_wrap {width limit : Nat} (hline : line ∈ wrap width limit t)
    (h : x ∈ line) : ComesFrom t x := by
  rw [wrap_eq_map_pack] at hline
  obtain ⟨ws, hws, rfl⟩ := List.mem_map.mp hline
  refine comesFrom_of_mem_joined (fun w hw => ?_) h
  exact (isCutting_pack width limit (words t)).isPrefix.subset (List.mem_flatten_of_mem hws hw)

end TextDiagram.Text
