import TextDiagram.Proofs.Text.Collapsed
import TextDiagram.Proofs.Text.Packing

/-!
# Marked cuts

A text is first shortened and then wrapped. Shortening marks what it cuts off with the ellipsis, and
wrapping leaves words out without a mark. Main statements: where all words of the shortened text have
room on the lines, the lines show all words of the text or end with the mark (`isMarked_wrap`), and
where they have none, all lines are taken and show some of the first words of the text
(`flatMap_words_wrap_prefix`).
-/

namespace TextDiagram.Text

/-- The last of some lines ends with the ellipsis. -/
def IsMarked (lines : List (List Char)) : Prop :=
  ∃ line ∈ lines.getLast?, ellipsis ∈ line.getLast?

instance (lines : List (List Char)) : Decidable (IsMarked lines) :=
  decidable_of_iff (lines.getLast?.bind List.getLast? = some ellipsis) Option.bind_eq_some_iff

/-- A start of a list that is not all of it lacks the last item. -/
theorem prefix_dropLast_of_ne {α : Type} {as bs : List α} (h : as <+: bs) (hne : as ≠ bs) :
    as <+: bs.dropLast := by
  rcases List.eq_nil_or_concat bs with rfl | ⟨front, last, rfl⟩
  · exact h
  · rw [List.concat_eq_append] at h hne ⊢
    rw [List.dropLast_concat]
    exact (List.prefix_concat_iff.mp h).resolve_left hne

/-! ## Lines in one line -/

/-- Lines in one line are the line of all their words. -/
theorem joined_map_joined {cut : List (List (List Char))} (hne : ∀ line ∈ cut, line ≠ []) :
    joined (cut.map joined) = joined cut.flatten := by
  induction cut with
  | nil => rfl
  | cons line cut ih =>
    obtain ⟨hline, hcut⟩ := List.forall_mem_cons.mp hne
    by_cases hnil : cut = []
    · rw [hnil, List.map_cons, List.map_nil, joined_singleton, List.flatten_cons, List.flatten_nil,
        List.append_nil]
    · have hflatten : cut.flatten ≠ [] := by
        intro h
        obtain ⟨next, hnext⟩ := List.exists_mem_of_ne_nil cut hnil
        exact hcut next hnext (List.flatten_eq_nil_iff.mp h next hnext)
      rw [List.map_cons, joined_cons (by simpa using hnil), ih hcut, List.flatten_cons,
        joined_append hline hflatten]

/-- A line ends as its last word does. -/
theorem getLast?_joined {ws : List (List Char)} (hne : ∀ w ∈ ws, w ≠ []) :
    (joined ws).getLast? = ws.getLast?.bind List.getLast? := by
  induction ws with
  | nil => rfl
  | cons w ws ih =>
    obtain ⟨-, hws⟩ := List.forall_mem_cons.mp hne
    by_cases hnil : ws = []
    · rw [hnil, joined_singleton]
      rfl
    · have hjoined := joined_ne_nil hnil hws
      rw [joined_cons hnil, List.getLast?_append_of_ne_nil w (List.cons_ne_nil ' ' _),
        List.getLast?_cons_of_ne_nil hjoined, ih hws, List.getLast?_cons_of_ne_nil hnil]

/-! ## Words of a shortened text -/

@[simp] theorem words_collapse (t : List Char) : words (collapse t) = words t :=
  words_joined (fun _ hw => ne_nil_of_mem_words hw) fun _ hw => isBlank_eq_false_of_mem_words hw

/-- A text that goes on with a character that is not blank has, its last word apart, words that it
also has however else it goes on. -/
theorem dropLast_words_concat {c : Char} (hc : isBlank c = false) (s t : List Char) :
    (words (s ++ [c])).dropLast <+: words (s ++ t) := by
  induction s using separator_induction (p := isBlank) with
  | piece xs hxs =>
    have hword : ∀ d ∈ xs ++ [c], isBlank d = false := by
      intro d hd
      rcases List.mem_append.mp hd with hd | hd
      · exact hxs d hd
      · rw [List.mem_singleton.mp hd, hc]
    rw [words_eq_singleton (by simp) hword]
    exact List.nil_prefix
  | cut xs s ys hxs hs ih =>
    have hne : words (ys ++ [c]) ≠ [] := by
      rw [Ne, words_eq_nil_iff]
      simp [hc]
    rw [List.append_assoc, List.append_assoc, List.cons_append, List.cons_append,
      words_append_cons hs, words_append_cons hs, List.dropLast_append_of_ne_nil hne,
      List.prefix_append_right_inj]
    exact ih

/-- The words of a shortened text, the last one apart, are words of the text. -/
theorem dropLast_words_shorten (limit : Nat) (t : List Char) :
    (words (shorten limit t)).dropLast <+: words t := by
  rcases (isShortening_shorten limit t).eq_or_cut with ⟨-, hall⟩ |
    ⟨-, front, ⟨rest, hrest⟩, -, -, hcut⟩
  · rw [hall, words_collapse]
    exact List.dropLast_prefix _
  · have hwords := dropLast_words_concat (c := ellipsis) (by decide) front rest
    rw [hrest, words_collapse] at hwords
    rw [hcut]
    exact hwords

/-! ## Shortened and wrapped texts -/

section Wrap

variable {limit width count : Nat} {t : List Char}

/-- The lines of a wrapped text in one line, if they show all of its words. -/
theorem joined_wrap (h : HaveRoom width count (words t)) :
    joined (wrap width count t) = collapse t := by
  rw [wrap_eq_map_pack, joined_map_joined fun line hline =>
    ((isCutting_pack width count (words t)).share line hline).ne_nil, flatten_pack_of_haveRoom h]
  rfl

/-- A text whose words have room after it is shortened shows all of them, or ends with the mark. -/
theorem isMarked_wrap (h : HaveRoom width count (words (shorten limit t))) :
    (wrap width count (shorten limit t)).flatMap words = words t ∨
      IsMarked (wrap width count (shorten limit t)) := by
  by_cases hfits : (collapse t).length ≤ limit
  · left
    rw [haveRoom_iff.mp h, shorten_of_length_le hfits, words_collapse]
  · right
    have hline : joined (wrap width count (shorten limit t)) = shorten limit t := by
      rw [joined_wrap h, collapse_shorten]
    have hlast : (shorten limit t).getLast? = some ellipsis := by
      rw [shorten, if_neg hfits, List.getLast?_concat]
    rw [← hline, getLast?_joined] at hlast
    · exact Option.bind_eq_some_iff.mp hlast
    · exact fun line hline => ne_nil_of_mem_wrap hline

/-- Where the words of the shortened text have no room, all lines are taken. They show some of the
first words of the text, and not all. -/
theorem flatMap_words_wrap_prefix (hlimit : 0 < limit)
    (h : ¬ HaveRoom width count (words (shorten limit t))) :
    (wrap width count (shorten limit t)).length = count ∧
      (wrap width count (shorten limit t)).flatMap words <+: words t ∧
        (wrap width count (shorten limit t)).flatMap words ≠ words t := by
  have hpart : (wrap width count (shorten limit t)).flatMap words ≠ words (shorten limit t) :=
    fun hall => h (haveRoom_iff.mpr hall)
  have hfirst : (wrap width count (shorten limit t)).flatMap words <+:
      words (shorten limit t) := by
    rw [flatMap_words_wrap]
    exact (isCutting_pack width count _).isPrefix
  -- the word that perhaps ends with the mark is not shown
  have hunmarked := (prefix_dropLast_of_ne hfirst hpart).trans (dropLast_words_shorten limit t)
  refine ⟨?_, hunmarked, fun hall => ?_⟩
  · rw [flatMap_words_wrap] at hpart
    rw [wrap_eq_map_pack, List.length_map, length_pack_of_flatten_ne hpart]
  · by_cases hfits : (collapse t).length ≤ limit
    · rw [shorten_of_length_le hfits, words_collapse] at hpart
      exact hpart (by rwa [shorten_of_length_le hfits] at hall)
    · -- all words of the text are longer than what the text is shortened to
      rw [hall] at hfirst
      have hlonger : (collapse t).length ≤ (collapse (shorten limit t)).length :=
        length_joined_le hfirst.sublist
      rw [collapse_shorten] at hlonger
      have hshort := length_shorten_le hlimit t
      omega

end Wrap

end TextDiagram.Text
