import TextDiagram.Proofs.Text.Marked

/-!
# Wrapped texts wrapped again

The limit on the number of lines only cuts off lines: it has no part in where a line ends. The words
that are left over have none either, so that the lines of a wrapped text, written in one line, fall
into the same lines again (`pack_flatten_pack`). Main statement: `wrap_take_and_reflow`.
-/

namespace TextDiagram.Text

section Joining

variable {width : Nat}

theorem joining_le_length (width : Nat) (line : List Char) (rest : List (List Char)) :
    joining width line rest ≤ rest.length := by
  fun_induction joining width line rest with
  | case1 line => exact Nat.zero_le _
  | case2 line word rest _ ih => exact Nat.succ_le_succ ih
  | case3 line word rest _ => exact Nat.zero_le _

/-- Of the first of some words, those join a line that join it of all the words. -/
theorem joining_of_isPrefix {next rest : List (List Char)} (h : next <+: rest) (line : List Char) :
    joining width line next = min next.length (joining width line rest) := by
  induction rest generalizing line next with
  | nil =>
    rw [List.prefix_nil.mp h]
    rfl
  | cons word rest ih =>
    cases next with
    | nil => exact (Nat.zero_min _).symm
    | cons w next =>
      obtain ⟨rfl, hrest⟩ := List.cons_prefix_cons.mp h
      unfold joining
      split
      · rw [ih hrest, List.length_cons, Nat.add_min_add_right]
      · exact (Nat.min_zero _).symm

end Joining

/-- The packed words fall into the same lines when they are packed again. -/
theorem pack_flatten_pack (width limit : Nat) (ws : List (List Char)) :
    pack width limit (pack width limit ws).flatten = pack width limit ws := by
  fun_induction pack width limit ws with
  | case1 ws => rfl
  | case2 limit hlimit => rw [List.flatten_nil, pack.eq_2 _ _ hlimit]
  | case3 limit word rest ih =>
    set j := joining width word rest with hj
    set behind := (pack width limit (rest.drop j)).flatten with hbehind
    have hprefix : rest.take j ++ behind <+: rest := by
      have h := (List.prefix_append_right_inj (rest.take j)).mpr
        (isCutting_pack width limit (rest.drop j)).isPrefix
      rwa [List.take_append_drop] at h
    have hlength : (rest.take j).length = j :=
      List.length_take_of_le (joining_le_length width word rest)
    -- the same words join the first line, whatever was left over at the end
    have hjoining : joining width word (rest.take j ++ behind) = j := by
      rw [joining_of_isPrefix hprefix, List.length_append, hlength, ← hj]
      omega
    rw [List.flatten_cons, List.cons_append, pack, hjoining, List.take_left' hlength,
      List.drop_left' hlength, ih]

/-- The lines of a wrapped text, written in one line, have the words that are packed into them. -/
theorem words_joined_wrap (width limit : Nat) (t : List Char) :
    words (joined (wrap width limit t)) = (pack width limit (words t)).flatten := by
  have hcutting := isCutting_pack width limit (words t)
  have hmem : ∀ w ∈ (pack width limit (words t)).flatten, w ∈ words t := fun w hw =>
    hcutting.isPrefix.subset hw
  rw [wrap_eq_map_pack, joined_map_joined fun line hline => (hcutting.share line hline).ne_nil]
  exact words_joined (fun w hw => ne_nil_of_mem_words (hmem w hw))
    fun w hw => isBlank_eq_false_of_mem_words (hmem w hw)

/-- With fewer lines a text is wrapped into the first lines of those that it has with more. The lines
of a wrapped text, written in one line, are wrapped into the same lines again. -/
theorem wrap_take_and_reflow {fewer limit : Nat} (h : fewer ≤ limit) (width : Nat)
    (t : List Char) :
    wrap width fewer t = (wrap width limit t).take fewer ∧
      wrap width fewer (joined (wrap width fewer t)) = wrap width fewer t := by
  constructor
  · rw [wrap_eq_map_pack, wrap_eq_map_pack, ← List.map_take, take_pack h]
  · rw [wrap_eq_map_pack width fewer (joined _), words_joined_wrap, pack_flatten_pack,
      ← wrap_eq_map_pack]

/-- Two lines leave out words that a third would show. -/
theorem wrap_take_and_reflow_overlong :
    2 ≤ 3 ∧ wrap 9 2 overlongText = (wrap 9 3 overlongText).take 2 ∧
      wrap 9 2 (joined (wrap 9 2 overlongText)) = wrap 9 2 overlongText ∧
      (wrap 9 2 overlongText).length < (wrap 9 3 overlongText).length := by
  have hle : 2 ≤ 3 := by decide
  obtain ⟨htake, hreflow⟩ := wrap_take_and_reflow hle 9 overlongText
  exact ⟨hle, htake, hreflow, by decide +kernel⟩

end TextDiagram.Text
