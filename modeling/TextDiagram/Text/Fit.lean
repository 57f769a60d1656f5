import TextDiagram.Text.Words

/-!
# Texts that fit

A label has room for a number of characters, or for a number of lines of such a width. This module
shortens a text to one line (`shorten`) and fills lines with its words (`wrap`).
-/

namespace TextDiagram.Text

/-- The mark at the end of a shortened text. -/
def ellipsis : Char := '…'

/-- The words of a text with a single space between neighbours. -/
def collapse (t : List Char) : List Char :=
  [' '].intercalate (words t)

/-- The collapsed text if it has at most `limit` characters, and otherwise its first `limit - 1`
characters without the blanks at their end, followed by the ellipsis. -/
def shorten (limit : Nat) (t : List Char) : List Char :=
  if (collapse t).length ≤ limit then collapse t
  else trimEnd ((collapse t).take (limit - 1)) ++ [ellipsis]

/-- Fills lines with words, beginning with the line so far: a word joins the line while the line
stays within `width` characters, and otherwise begins the next one. At most `more` lines follow the
first; the words that find no line are left out. -/
def fill (width : Nat) : (more : Nat) → (line : List Char) → List (List Char) → List (List Char)
  | _, line, [] => [line]
  | more, line, word :: rest =>
    if line.length + 1 + word.length ≤ width then fill width more (line ++ ' ' :: word) rest
    else match more with
      | 0 => [line]
      | more + 1 => line :: fill width more word rest

/-- At most `limit` lines filled with the words of a text. A line has at most `width` characters or
is a single word. -/
def wrap (width limit : Nat) (t : List Char) : List (List Char) :=
  match limit, words t with
  | 0, _ => []
  | _, [] => []
  | more + 1, word :: rest => fill width more word rest

/-! ## Number of lines -/

/-- Filling adds at most `more` lines to the first. -/
theorem length_fill_le (width more : Nat) (line : List Char) (rest : List (List Char)) :
    (fill width more line rest).length ≤ more + 1 := by
  induction rest generalizing more line with
  | nil => simp [fill]
  | cons word rest ih =>
    unfold fill
    split
    · exact ih more _
    · cases more with
      | zero => simp
      | succ more => simpa using ih more word

/-- A wrapped text has at most `limit` lines. -/
theorem length_wrap_le (width limit : Nat) (t : List Char) :
    (wrap width limit t).length ≤ limit := by
  unfold wrap
  split
  · simp
  · simp
  · exact length_fill_le ..

end TextDiagram.Text
