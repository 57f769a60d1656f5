/-!
# Escaped text

Text inside markup is written with entities in place of the five characters that have a meaning
there. Main statement: an escaped text holds none of the characters that open or close markup or
quotes (`not_mem_escape`).
-/

namespace TextDiagram.Svg

/-- A character as it stands inside markup. -/
def escapeChar (c : Char) : List Char :=
  match c with
  | '&' => "&amp;".toList
  | '<' => "&lt;".toList
  | '>' => "&gt;".toList
  | '"' => "&quot;".toList
  | '\'' => "&apos;".toList
  | c => [c]

/-- A text as it stands inside markup. -/
def escape (t : List Char) : List Char :=
  t.flatMap escapeChar

@[simp] theorem escape_nil : escape [] = [] := rfl

@[simp] theorem escape_cons (c : Char) (t : List Char) :
    escape (c :: t) = escapeChar c ++ escape t := by
  simp [escape]

/-- A character that opens or closes markup or quotes does not stand in an escaped character. -/
theorem not_mem_escapeChar {d : Char} (hd : d ∈ ['<', '>', '"', '\'']) (c : Char) :
    d ∉ escapeChar c := by
  simp only [List.mem_cons, List.not_mem_nil, or_false] at hd
  unfold escapeChar
  split <;> obtain rfl | rfl | rfl | rfl := hd <;> simp_all [eq_comm]

/-- An escaped text holds no character that opens or closes markup or quotes. -/
theorem not_mem_escape {d : Char} (hd : d ∈ ['<', '>', '"', '\'']) (t : List Char) :
    d ∉ escape t := by
  simp only [escape, List.mem_flatMap, not_exists, not_and]
  exact fun c _ => not_mem_escapeChar hd c

end TextDiagram.Svg
