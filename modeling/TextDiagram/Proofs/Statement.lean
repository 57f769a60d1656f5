import TextDiagram.Proofs.Text.Words
import TextDiagram.Statement

/-!
# Statements and separators

The lines of a source and the pieces between semicolons are one and the same to the statements: a
newline separates them as a semicolon does. Main statements: the statements are the pieces of the
source between separators, trimmed, without the blank ones and the comments
(`statements_eq_among`), and a separator between two sources separates their statements
(`statements_append_cons`).
-/

namespace TextDiagram

open Text

/-- Whether a character separates statements. -/
def isSeparator (c : Char) : Bool :=
  c == '\n' || c == ';'

/-- A text without newlines and semicolons holds no separator. -/
theorem isSeparator_eq_false_of_not_mem {t : List Char} (hn : '\n' ∉ t) (hs : ';' ∉ t) :
    ∀ c ∈ t, isSeparator c = false := by
  intro c hc
  by_contra h
  simp only [isSeparator, Bool.not_eq_false, Bool.or_eq_true, beq_iff_eq] at h
  rcases h with rfl | rfl
  · exact hn hc
  · exact hs hc

/-- The statements among some pieces of a source. -/
def statementsAmong (pieces : List (List Char)) : List (List Char) :=
  (pieces.map trim).filter isStatement

@[simp] theorem statementsAmong_append (ps qs : List (List Char)) :
    statementsAmong (ps ++ qs) = statementsAmong ps ++ statementsAmong qs := by
  simp [statementsAmong]

/-! ## Blanks at the end of a piece -/

/-- A blank at the end does not count for a trimmed text. -/
theorem trim_concat_of_isBlank {c : Char} (hc : isBlank c = true) (t : List Char) :
    trim (t ++ [c]) = trim t := by
  rw [trim, trim, trimStart, trimStart, List.dropWhile_append]
  split
  · next h =>
    rw [List.isEmpty_iff.mp h, List.dropWhile_cons_of_pos hc, List.dropWhile_nil]
  · exact List.rdropWhile_concat_pos isBlank _ c hc

/-- A blank at the end of a text does not count for its trimmed pieces. -/
theorem map_trim_splitOnP_concat {p : Char → Bool} {c : Char} (hp : p c = false)
    (hc : isBlank c = true) (t : List Char) :
    ((t ++ [c]).splitOnP p).map trim = (t.splitOnP p).map trim := by
  induction t using separator_induction (p := p) with
  | piece xs h =>
    have h' : ∀ x ∈ xs ++ [c], p x = false := by
      intro x hx
      rcases List.mem_append.mp hx with hx | hx
      · exact h x hx
      · rw [List.mem_singleton.mp hx]
        exact hp
    rw [List.splitOnP_eq_singleton h, List.splitOnP_eq_singleton h', List.map_singleton,
      List.map_singleton, trim_concat_of_isBlank hc]
  | cut xs s ys _ hs ih =>
    rw [List.append_assoc, List.cons_append, List.splitOnP_append_cons xs _ hs,
      List.splitOnP_append_cons xs ys hs, List.map_append, List.map_append, ih]

/-- The carriage return at the end of a line does not count for its statements. -/
theorem map_trim_splitOn_withoutReturn (line : List Char) :
    ((withoutReturn line).splitOn ';').map trim = (line.splitOn ';').map trim := by
  unfold withoutReturn
  split
  · next h =>
    have hline : line = line.dropLast ++ ['\r'] := by
      rw [List.dropLast_append_getLast?]
      exact h
    conv => rhs; rw [hline]
    rw [List.splitOn_eq_splitOnP, List.splitOn_eq_splitOnP]
    exact (map_trim_splitOnP_concat (by decide) (by decide) line.dropLast).symm
  · rfl

/-! ## Lines -/

/-- A text without newlines is one line, unless it is empty. -/
theorem lines_of_not_mem {t : List Char} (h : '\n' ∉ t) :
    lines t = if t = [] then [] else [t] := by
  unfold lines
  rw [List.splitOn_eq_singleton h]
  by_cases ht : t = []
  · subst ht
    rfl
  · simp [ht]

/-- A newline ends a line. -/
theorem lines_append_newline {line : List Char} (h : '\n' ∉ line) (rest : List Char) :
    lines (line ++ '\n' :: rest) = withoutReturn line :: lines rest := by
  unfold lines
  rw [List.splitOn_append_cons_self_of_not_mem h]
  obtain ⟨piece, pieces, hp⟩ := List.exists_cons_of_ne_nil (List.splitOn_ne_nil '\n' rest)
  simp only [hp, List.getLast?_cons_cons, List.dropLast_cons_cons, List.map_cons, List.cons_append]

/-- Only a carriage return in front of a newline belongs to the end of a line. -/
example : lines "a\r\nb\r".toList = ["a".toList, "b\r".toList] := by decide

/-! ## Statements -/

/-- On a single line the separators are the semicolons. -/
theorem splitOnP_isSeparator_of_not_mem {line : List Char} (h : '\n' ∉ line) :
    line.splitOnP isSeparator = line.splitOn ';' := by
  rw [List.splitOn_eq_splitOnP]
  refine splitOnP_congr fun c hc => ?_
  have hline : (c == '\n') = false := beq_eq_false_iff_ne.mpr fun heq => h (heq ▸ hc)
  rw [isSeparator, hline, Bool.false_or]

/-- The statements of a source are those among its pieces between separators. -/
theorem statements_eq_among (source : List Char) :
    statements source = statementsAmong (source.splitOnP isSeparator) := by
  induction source using separator_induction (p := fun c => c == '\n') with
  | piece line h =>
    have hnot : '\n' ∉ line := fun hm => by simpa using h '\n' hm
    rw [statements, lines_of_not_mem hnot, splitOnP_isSeparator_of_not_mem hnot]
    split
    · next hnil =>
      rw [hnil]
      rfl
    · rw [List.flatMap_singleton, statementsAmong]
  | cut line c rest h hc ih =>
    have hnot : '\n' ∉ line := fun hm => by simpa using h '\n' hm
    have hcn : c = '\n' := by simpa using hc
    subst hcn
    rw [List.splitOnP_append_cons line rest (by decide), statementsAmong_append, ← ih,
      splitOnP_isSeparator_of_not_mem hnot, statements, lines_append_newline hnot,
      List.flatMap_cons, List.map_append, map_trim_splitOn_withoutReturn, List.filter_append]
    rfl

theorem statements_nil : statements [] = [] := rfl

/-- A separator between two sources separates their statements. -/
theorem statements_append_cons {c : Char} (hc : isSeparator c = true) (s t : List Char) :
    statements (s ++ c :: t) = statements s ++ statements t := by
  rw [statements_eq_among, statements_eq_among, statements_eq_among,
    List.splitOnP_append_cons s t hc, statementsAmong_append]

/-- A source without separators is a single piece. -/
theorem statements_of_forall {s : List Char} (h : ∀ c ∈ s, isSeparator c = false) :
    statements s = statementsAmong [s] := by
  rw [statements_eq_among, List.splitOnP_eq_singleton h]

/-- A statement is one piece of the source, trimmed: it holds no separator and says something. -/
theorem of_mem_statements {source s : List Char} (h : s ∈ statements source) :
    (∀ c ∈ s, isSeparator c = false) ∧ trim s = s ∧ isStatement s = true := by
  rw [statements_eq_among] at h
  obtain ⟨hmem, hst⟩ := List.mem_filter.mp h
  obtain ⟨piece, hpiece, rfl⟩ := List.mem_map.mp hmem
  have hpart := trim_infix piece
  exact ⟨fun c hc => of_mem_splitOnP hpiece c (hpart.subset hc), trim_trim piece, hst⟩

/-- A statement holds nothing that the source does not hold. -/
theorem subset_of_mem_statements {source s : List Char} (h : s ∈ statements source) :
    s ⊆ source := by
  rw [statements_eq_among] at h
  obtain ⟨piece, hpiece, rfl⟩ := List.mem_map.mp (List.mem_filter.mp h).1
  have hpart := trim_infix piece
  exact fun x hx => subset_of_mem_splitOnP hpiece (hpart.subset hx)

/-- The statements of some pieces with separators between them are those among the pieces. -/
theorem statements_intercalate {c : Char} (hc : isSeparator c = true) {ps : List (List Char)}
    (hps : ∀ p ∈ ps, ∀ x ∈ p, isSeparator x = false) :
    statements ([c].intercalate ps) = statementsAmong ps := by
  induction ps with
  | nil => rfl
  | cons p ps ih =>
    have hp := hps p (List.mem_cons_self ..)
    have hrest := ih fun q hq => hps q (List.mem_cons_of_mem _ hq)
    cases ps with
    | nil => rw [List.intercalate_singleton, statements_of_forall hp]
    | cons q ps =>
      rw [List.intercalate_cons_cons, List.append_assoc, List.singleton_append,
        statements_append_cons hc, statements_of_forall hp, hrest, ← statementsAmong_append]
      rfl

/-- Pieces that say something are all kept, trimmed. -/
theorem statementsAmong_eq_map {ps : List (List Char)}
    (h : ∀ p ∈ ps, isStatement (trim p) = true) : statementsAmong ps = ps.map trim := by
  refine List.filter_eq_self.mpr fun t ht => ?_
  obtain ⟨p, hp, rfl⟩ := List.mem_map.mp ht
  exact h p hp

/-- Statements of any sources, joined by separators, are the same statements again. -/
theorem statements_intercalate_of_mem {c : Char} (hc : isSeparator c = true) {S : List (List Char)}
    (h : ∀ s ∈ S, ∃ source, s ∈ statements source) : statements ([c].intercalate S) = S := by
  have hpiece : ∀ s ∈ S, (∀ x ∈ s, isSeparator x = false) ∧ trim s = s ∧ isStatement s = true := by
    intro s hs
    obtain ⟨source, hmem⟩ := h s hs
    exact of_mem_statements hmem
  have htrim : S.map trim = S :=
    (List.map_congr_left fun s hs => (hpiece s hs).2.1).trans (List.map_id' _)
  rw [statements_intercalate hc fun s hs => (hpiece s hs).1, statementsAmong_eq_map, htrim]
  intro s hs
  rw [(hpiece s hs).2.1]
  exact (hpiece s hs).2.2

/-- The statements of some lines, each without separators of its own and none of them blank or a
comment: a newline behind the last line does not count. -/
theorem statements_intercalate_newline {ls : List (List Char)}
    (hsep : ∀ l ∈ ls, ∀ c ∈ l, isSeparator c = false)
    (hst : ∀ l ∈ ls, isStatement (trim l) = true) :
    statements (['\n'].intercalate ls) = ls.map trim ∧
      statements (['\n'].intercalate ls ++ ['\n']) = ls.map trim := by
  have hlines := statements_intercalate (c := '\n') (by decide) hsep
  rw [statements_append_cons (by decide), statements_nil, List.append_nil, hlines,
    statementsAmong_eq_map hst]
  exact ⟨rfl, rfl⟩

/-- A text says something unless it is empty or opens with the mark of comments. -/
theorem isStatement_iff {t : List Char} : isStatement t = true ↔ t ≠ [] ∧ ¬ commentMark <+: t := by
  rw [isStatement, Bool.and_eq_true, Bool.not_eq_true', Bool.not_eq_true',
    List.isEmpty_eq_false_iff, ← List.isPrefixOf_iff_prefix, Bool.not_eq_true]

end TextDiagram
