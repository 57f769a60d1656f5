import TextDiagram.Color.Basic
import TextDiagram.Text.Digits

/-!
# Tokens in colours

The notation of a colour consists of identifiers, numbers, percentages and single characters, with
gaps of blanks and comments between them. A scanner reads tokens off the start of a text, and either
keeps the rest or gives a reason for which the text is no colour.
-/

namespace TextDiagram.Color

open Text

/-- Reads tokens off the start of a text. -/
abbrev Scan := StateT (List Char) (Except ColorError)

/-! ## Gaps -/

/-- The blanks between tokens. -/
def isGap (c : Char) : Bool :=
  c == ' ' || c == '\t' || c == '\r' || c == '\n'

/-- What follows the end of the comment that a text begins in. -/
def afterComment? : List Char → Option (List Char)
  | [] => none
  | c :: t => if c == '*' && t.head? == some '/' then some (t.drop 1) else afterComment? t

/-- A comment is not empty. -/
theorem length_afterComment? {t rest : List Char} (h : afterComment? t = some rest) :
    rest.length < t.length := by
  induction t with
  | nil => simp [afterComment?] at h
  | cons c t ih =>
    unfold afterComment? at h
    split at h
    · cases h
      simp only [List.length_drop, List.length_cons]
      omega
    · exact Nat.lt_succ_of_lt (ih h)

/-- What follows the comments at the start of a text. -/
def afterComments (t : List Char) : List Char :=
  match t with
  | '/' :: '*' :: inner =>
    match _h : afterComment? inner with
    | some rest => afterComments rest
    | none => t
  | _ => t
termination_by t.length
decreasing_by
  have := length_afterComment? _h
  simp only [List.length_cons]
  omega

/-- What follows the blanks and comments at the start of a text. A comment without an end is not
passed over. -/
def afterGap (t : List Char) : List Char :=
  match t with
  | [] => []
  | '/' :: '*' :: inner =>
    match _h : afterComment? inner with
    | some rest => afterGap rest
    | none => t
  | c :: rest => if isGap c then afterGap rest else t
termination_by t.length
decreasing_by
  · have := length_afterComment? _h
    simp only [List.length_cons]
    omega
  · simp

/-- Passes over the blanks and comments at the start. -/
def skipGap : Scan Unit := modify afterGap

/-- Passes over the comments at the start. -/
def skipComments : Scan Unit := modify afterComments

/-- Passes over a character, if it is the next one, and tells whether it was. The start of a comment
is no character of its own. -/
def skip? (c : Char) : Scan Bool := fun t =>
  match t with
  | [] | '/' :: '*' :: _ => .ok (false, t)
  | d :: rest => if c = d then .ok (true, rest) else .ok (false, t)

/-- Passes over a character that has to come next. -/
def skip (c : Char) (missing : ColorError) : Scan Unit := do
  if !(← skip? c) then throw missing

/-! ## Identifiers -/

/-- The characters of an identifier, apart from digits. -/
def isIdentChar (c : Char) : Bool :=
  c.isAlpha || c == '_' || c == '-'

/-- The identifier at the start of a text. A digit is not its first character, nor its second after
a hyphen; a hyphen alone and two hyphens at the start make no identifier. -/
def identAtStart (t : List Char) : List Char :=
  match t with
  | '-' :: c :: _ =>
    if isIdentChar c && c != '-' then t.takeWhile fun c => isIdentChar c || c.isDigit else []
  | c :: _ =>
    if isIdentChar c && c != '-' then t.takeWhile fun c => isIdentChar c || c.isDigit else []
  | [] => []

/-- Reads an identifier, if one comes next. -/
def ident? : Scan (Option (List Char)) := fun t =>
  let ident := identAtStart t
  if ident.isEmpty then .ok (none, t) else .ok (some ident, t.drop ident.length)

/-! ## Numbers -/

/-- The digits at the start of a text, and what follows them. -/
def splitDigits (t : List Char) : List Char × List Char :=
  (t.takeWhile Char.isDigit, t.dropWhile Char.isDigit)

/-- The digits after the point at the start of a text, and what follows them. A point without a
digit belongs to no number. -/
def splitFraction (t : List Char) : List Char × List Char :=
  match t with
  | '.' :: rest => if (splitDigits rest).1.isEmpty then ([], t) else splitDigits rest
  | _ => ([], t)

/-- The number that decimal digits stand for. -/
def digitsValue (digits : List Char) : Nat :=
  (natural? 10 digits).getD 0

/-- The exponent at the start of a text, and what follows it. A letter without digits belongs to no
number. -/
def splitExponent (t : List Char) : Int × List Char :=
  match t with
  | c :: rest =>
    if c == 'e' || c == 'E' then
      let (negative, rest) := splitSign rest
      let (digits, rest) := splitDigits rest
      if digits.isEmpty then (0, t)
      else (if negative then -(digitsValue digits : Int) else digitsValue digits, rest)
    else (0, t)
  | [] => (0, t)

/-- The number nearest to `mantissa * 10 ^ exponent`. -/
def nearest (negative : Bool) (mantissa : Nat) (exponent : Int) : Float :=
  let magnitude := Float.ofScientific mantissa (exponent < 0) exponent.natAbs
  if negative then -magnitude else magnitude

/-- The number at the start of a text, and what follows it. It has a digit before or after the
point. -/
def splitNumber? (t : List Char) : Option (Float × List Char) :=
  let (negative, rest) := splitSign t
  let (whole, rest) := splitDigits rest
  let (fraction, rest) := splitFraction rest
  if whole.isEmpty && fraction.isEmpty then none
  else
    let (exponent, rest) := splitExponent rest
    let mantissa := digitsValue (whole ++ fraction)
    some (nearest negative mantissa (exponent - fraction.length), rest)

/-! ## Arguments -/

/-- An argument of a function. -/
inductive Argument
  /-- A number. -/
  | number (x : Float)
  /-- A number of hundredths. -/
  | percentage (x : Float)
  /-- A number with a unit. -/
  | dimension (x : Float) (unit : List Char)
  /-- An identifier. -/
  | word (ident : List Char)

/-- Reads an argument, if one comes next. -/
def argument? : Scan (Option Argument) := do
  match splitNumber? (← get) with
  | some (x, rest) =>
    set rest
    if ← skip? '%' then return some (.percentage x)
    match ← ident? with
    | some unit => return some (.dimension x unit)
    | none => return some (.number x)
  | none => return (← ident?).map .word

end TextDiagram.Color
