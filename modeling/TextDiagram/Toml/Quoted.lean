import TextDiagram.Text.Digits
import TextDiagram.Toml.Scan

/-!
# Quoted texts in TOML

A text stands in double quotes, where a backslash begins an escape, or in single quotes, where all
characters stand for themselves. Tripled quotes enclose texts of more than one line, whose lines end
as they are written.
-/

namespace TextDiagram.Toml

open Text

/-- The character of a code point, if there is one. -/
def ofCodePoint? (n : Nat) : Option Char :=
  if n.isValidChar then some (Char.ofNat n) else none

/-- Reads the character of a code point of some hexadecimal digits. -/
def codePoint (count : Nat) : Scan Char := do
  let t ← get
  if t.length < count then failure
  set (t.drop count)
  let n ← StateT.lift (natural? 16 (t.take count))
  StateT.lift (ofCodePoint? n)

/-- Reads what follows the backslash of an escape. -/
def escape : Scan Char := do
  match ← next with
  | 'b' => return '\x08'
  | 't' => return '\t'
  | 'n' => return '\n'
  | 'f' => return '\x0c'
  | 'r' => return '\r'
  | 'e' => return '\x1b'
  | '"' => return '"'
  | '\\' => return '\\'
  | 'x' => codePoint 2
  | 'u' => codePoint 4
  | 'U' => codePoint 8
  | _ => failure

/-- Reads a text of one line after its opening quote. -/
def oneLine (mark : Char) (escapes : Bool) : Scan (List Char) :=
  StateT.mk <| many do
    let c ← next
    if c = mark then return none
    else if escapes && c = '\\' then return some (← escape)
    else if isPlain c then return some c
    else failure

/-- Passes over the rest of a line that ends in a backslash, and over the blank start of the next
line that is not blank. It fails if something else follows the backslash. -/
def continuation : Scan Unit := do
  blanks
  if !(← newline?) then failure
  let _ ← StateT.mk <| many do
    blanks
    return if ← newline? then some () else none

/-- Reads a part of a text of several lines: nothing at its end, where up to two quotes may stand
before the three that close it. -/
def linePart (mark : Char) (escapes : Bool) : Scan (Option (List Char)) := do
  let quotes := ((← get).takeWhile (· == mark)).length
  if quotes = 3 then
    skip [mark, mark, mark]
    return none
  else if 5 < quotes then failure
  else
    match ← lineEnd? with
    | some ending => return some ending
    | none =>
      let c ← next
      if escapes && c = '\\' then
        match ← peek? with
        | some d =>
          if isBlank d || d = '\n' || d = '\r' then
            continuation
            return some []
          else return some [← escape]
        | none => failure
      else if isPlain c then return some [c]
      else failure

/-- Reads a text of several lines after its opening quotes. A newline right after them does not
count. -/
def severalLines (mark : Char) (escapes : Bool) : Scan (List Char) := do
  let _ ← newline?
  return (← StateT.mk (many (linePart mark escapes))).flatten

/-- Reads a text between quotes of a kind. -/
def quotedBy (mark : Char) (escapes : Bool) : Scan (List Char) := do
  if ← skip? [mark, mark, mark] then severalLines mark escapes
  else
    skip [mark]
    oneLine mark escapes

/-- Reads a text between quotes, and fails if none comes next. -/
def quoted : Scan (List Char) := do
  match ← peek? with
  | some '"' => quotedBy '"' true
  | some '\'' => quotedBy '\'' false
  | _ => failure

end TextDiagram.Toml
