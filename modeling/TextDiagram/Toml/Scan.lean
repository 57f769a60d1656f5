import TextDiagram.Text.Affix

/-!
# Reading TOML text

A scanner reads something off the start of a text and keeps the rest, or fails. Blanks, newlines and
comments are read alike in all parts of a document.
-/

namespace TextDiagram.Toml

/-- Reads something off the start of a text. -/
abbrev Scan := StateT (List Char) Option

/-- Reads a character. -/
def next : Scan Char := fun
  | [] => none
  | c :: t => some (c, t)

/-- The next character, which is not read. -/
def peek? : Scan (Option Char) := fun t => some (t.head?, t)

/-- Reads a text, if it comes next, and tells whether it does. -/
def skip? (s : List Char) : Scan Bool := fun t =>
  match Text.after? s t with
  | some rest => some (true, rest)
  | none => some (false, t)

/-- Reads a text that has to come next. -/
def skip (s : List Char) : Scan Unit := do
  if !(← skip? s) then failure

/-- Reads all characters of a kind that come next. -/
def run (isWanted : Char → Bool) : Scan (List Char) := fun t =>
  some (t.takeWhile isWanted, t.dropWhile isWanted)

/-- Reads things until one is missing. Each of them has a character at least. -/
def many {α : Type} (item : Scan (Option α)) (t : List Char) : Option (List α × List Char) :=
  match item t with
  | none => none
  | some (none, rest) => some ([], rest)
  | some (some a, rest) =>
    if rest.length < t.length then
      (many item rest).map fun (as, rest) => (a :: as, rest)
    else none
termination_by t.length

/-! ## Gaps -/

/-- The blanks within a line. -/
def isBlank (c : Char) : Bool :=
  c == ' ' || c == '\t'

/-- The characters that stand in comments and quotes as they are: all but controls, of which only
the tabulator is admitted. -/
def isPlain (c : Char) : Bool :=
  c == '\t' || (0x20 ≤ c.toNat && c.toNat != 0x7F)

/-- Passes over blanks. -/
def blanks : Scan Unit := do
  let _ ← run isBlank

/-- Reads the characters that end a line, if they come next. -/
def lineEnd? : Scan (Option (List Char)) := do
  if ← skip? ['\n'] then return some ['\n']
  if ← skip? ['\r', '\n'] then return some ['\r', '\n']
  return none

/-- Reads the end of a line, if it comes next, and tells whether it does. -/
def newline? : Scan Bool := do
  return (← lineEnd?).isSome

/-- Passes over a comment, if one comes next. -/
def comment : Scan Unit := do
  if ← skip? ['#'] then
    let _ ← run isPlain

/-- Passes over blanks, comments and the ends of lines. -/
def gap : Scan Unit := do
  let _ ← StateT.mk <| many do
    blanks
    comment
    return if ← newline? then some () else none

end TextDiagram.Toml
