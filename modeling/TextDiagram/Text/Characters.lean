/-!
# Characters

A class of characters is given by a list of closed ranges of code points, in ascending order. The
blank characters are one: they separate words and are cut off at both ends of a trimmed text. A text
is stored as bytes, of which a character takes one to four.
-/

namespace TextDiagram.Text

/-! ## Ranges -/

/-- The closed ranges of code points that make up a class of characters. -/
abbrev CharRanges := List (Nat × Nat)

/-- Whether a character lies in one of the ranges. -/
def CharRanges.has (ranges : CharRanges) (c : Char) : Bool :=
  ranges.any fun range => range.1 ≤ c.toNat && c.toNat ≤ range.2

/-- A character lies in the ranges exactly when one of them encloses its code point. -/
theorem CharRanges.has_iff {ranges : CharRanges} {c : Char} :
    ranges.has c = true ↔ ∃ range ∈ ranges, range.1 ≤ c.toNat ∧ c.toNat ≤ range.2 := by
  simp [CharRanges.has]

/-! ## Blanks -/

/-- The characters with the Unicode property `White_Space`. -/
def blankRanges : CharRanges :=
  [(0x0009, 0x000D), (0x0020, 0x0020), (0x0085, 0x0085), (0x00A0, 0x00A0), (0x1680, 0x1680),
   (0x2000, 0x200A), (0x2028, 0x2029), (0x202F, 0x202F), (0x205F, 0x205F), (0x3000, 0x3000)]

/-- Whether a character separates words. -/
def isBlank (c : Char) : Bool :=
  blankRanges.has c

/-! ## Bytes -/

/-- The number of bytes of a text. -/
def byteCount (t : List Char) : Nat :=
  t.foldl (fun n c => n + c.utf8Size) 0

end TextDiagram.Text
