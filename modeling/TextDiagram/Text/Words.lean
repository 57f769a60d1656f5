import TextDiagram.Text.Characters

/-!
# Words and trimmed texts

A text is a list of characters. This module cuts it at blanks: its words, and the text without the
blanks at its ends. Main statements: a blank between two texts separates their words
(`words_append_cons`), and a trimmed text is a part of the text (`trim_infix`).
-/

namespace TextDiagram.Text

/-- The words of a text: its longest runs of characters that are not blank. -/
def words (t : List Char) : List (List Char) :=
  (t.splitOnP isBlank).filter fun piece => !piece.isEmpty

/-- The first word of a text, or nothing if the text is blank. -/
def firstWord (t : List Char) : List Char :=
  (words t).headD []

/-- The text without the blanks at its start. -/
def trimStart (t : List Char) : List Char :=
  t.dropWhile isBlank

/-- The text without the blanks at its end. -/
def trimEnd (t : List Char) : List Char :=
  (t.reverse.dropWhile isBlank).reverse

/-- The text without the blanks at both ends. -/
def trim (t : List Char) : List Char :=
  trimEnd (trimStart t)

/-- The text with the capital letters of ASCII made small. -/
def lowercase (t : List Char) : List Char :=
  t.map Char.toLower

/-- Whether two texts differ at most in the case of letters of ASCII. -/
def sameIgnoringCase (s t : List Char) : Bool :=
  lowercase s == lowercase t

/-! ## Words -/

@[simp] theorem words_nil : words [] = [] := by
  simp [words, List.splitOnP_nil]

/-- A word is not empty. -/
theorem ne_nil_of_mem_words {t w : List Char} (h : w ∈ words t) : w ≠ [] := by
  simpa using (List.mem_filter.1 h).2

/-- A blank between two texts separates their words. -/
theorem words_append_cons {c : Char} (hc : isBlank c = true) (s t : List Char) :
    words (s ++ c :: t) = words s ++ words t := by
  simp [words, List.splitOnP_append_cons s t hc]

/-- A blank at the start belongs to no word. -/
theorem words_cons_of_isBlank {c : Char} (hc : isBlank c = true) (t : List Char) :
    words (c :: t) = words t := by
  simpa using words_append_cons hc [] t

/-! ## Trimmed texts -/

/-- Cutting blanks off the start leaves an end of the text. -/
theorem trimStart_suffix (t : List Char) : trimStart t <:+ t :=
  List.dropWhile_suffix isBlank

/-- Cutting blanks off the end leaves a start of the text. -/
theorem trimEnd_isPrefix (t : List Char) : trimEnd t <+: t := by
  simpa [trimEnd] using List.reverse_prefix.2 (List.dropWhile_suffix (l := t.reverse) isBlank)

/-- A trimmed text is a part of the text. -/
theorem trim_infix (t : List Char) : trim t <:+: t :=
  (trimEnd_isPrefix _).isInfix.trans (trimStart_suffix t).isInfix

end TextDiagram.Text
