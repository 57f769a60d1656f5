import TextDiagram.Text.Digits
import TextDiagram.Toml.Value

/-!
# Numbers, dates and truth values in TOML

A value without quotes and brackets is a run of characters, of which this module tells what it
stands for: a truth value, a whole number, a number with a fraction or an exponent, a date or a time
of day.
-/

namespace TextDiagram.Toml

open Text

/-! ## Underscores and zeros -/

/-- Whether each underscore in a number stands between digits. A single character at the start may be
a sign. -/
def areJoined (isDigit : Char → Bool) (t : List Char) : Bool :=
  let groups := t.splitOn '_'
  let endsWell (group : List Char) : Bool := group.length == 1 || group.getLast?.any isDigit
  groups.tail.all (fun group => group.head?.any isDigit) && groups.dropLast.all endsWell

/-- Whether a character is a digit of base sixteen. -/
def isHexDigit (c : Char) : Bool := (hexDigit? c).isSome

/-- The digits of a number, without the underscores that join them. -/
def withoutUnderscores (t : List Char) : List Char := t.filter (· != '_')

/-- Whether decimal digits begin with a zero that says nothing. -/
def hasIdleZero : List Char → Bool
  | '0' :: _ :: _ => true
  | _ => false

/-! ## Whole numbers -/

/-- The base of a number that is not decimal, and the number after the mark of its base. -/
def radix? : List Char → Option (Nat × List Char)
  | '0' :: 'x' :: t => some (16, t)
  | '0' :: 'o' :: t => some (8, t)
  | '0' :: 'b' :: t => some (2, t)
  | _ => none

/-- The characters that make a decimal number one with a fraction or an exponent. -/
def isPointOrExponent (c : Char) : Bool :=
  c == '.' || c == 'e' || c == 'E'

/-- Whether a run of characters has the form of a decimal whole number. It is told by its start:
digits, and then an underscore if anything. What comes later is a matter of its value. -/
def isDecimal (t : List Char) : Bool :=
  let unsigned := (splitSign t).2
  let rest := unsigned.dropWhile Char.isDigit
  !unsigned.isEmpty && !hasIdleZero unsigned && rest.head?.all (· == '_') &&
    !rest.any isPointOrExponent && areJoined isHexDigit t

/-- Whether a run of characters has the form of a whole number. There need be no digits after the
mark of a base. -/
def isInteger (t : List Char) : Bool :=
  match radix? t with
  | some (base, digits) =>
    (withoutUnderscores digits).all (fun c => (digit? base c).isSome) && areJoined isHexDigit digits
  | none => isDecimal t

/-- A whole number within the bounds of 128 bits, with or without a sign. -/
def bounded? (n : Int) : Option Int :=
  if -(Nat.pow 2 127 : Nat) ≤ n && n < (Nat.pow 2 128 : Nat) then some n else none

/-- The value of a whole number. It has none without digits, with other characters than digits, and
out of bounds. -/
def integer? (t : List Char) : Option Int :=
  match radix? t with
  | some (base, digits) => (natural? base (withoutUnderscores digits)).bind fun n => bounded? n
  | none =>
    let (negative, unsigned) := splitSign t
    (natural? 10 (withoutUnderscores unsigned)).bind fun n => bounded? (if negative then -n else n)

/-! ## Numbers with a fraction or an exponent -/

/-- The characters of a number between its sign, its point and its exponent. -/
def isDigitOrGap (c : Char) : Bool :=
  c.isDigit || c == '_'

/-- The digits at the start of a text, of which there is one at least, and what follows them. -/
def digitRun? (t : List Char) : Option (List Char × List Char) :=
  let digits := withoutUnderscores (t.takeWhile isDigitOrGap)
  if digits.isEmpty then none else some (digits, t.dropWhile isDigitOrGap)

/-- The digits after the point of a number, which may be missing, and what follows them. -/
def fraction? : List Char → Option (List Char × List Char)
  | '.' :: t => digitRun? t
  | t => some ([], t)

/-- The exponent of a number, which may be missing. -/
def exponent? : List Char → Option Int
  | [] => some 0
  | c :: t => do
    if c ≠ 'e' && c ≠ 'E' then failure
    let (negative, t) := splitSign t
    let (digits, rest) ← digitRun? t
    if !rest.isEmpty then failure
    let n ← natural? 10 digits
    return if negative then -n else n

/-- The whole number and the power of ten that make up an unsigned number with a fraction or an
exponent. -/
def scientific? (t : List Char) : Option (Nat × Int) := do
  if hasIdleZero (t.takeWhile isDigitOrGap) then failure
  let (whole, rest) ← digitRun? t
  if rest.isEmpty then failure
  let (fraction, rest) ← fraction? rest
  let exponent ← exponent? rest
  let mantissa ← natural? 10 (whole ++ fraction)
  return (mantissa, exponent - fraction.length)

/-- The product of a whole number and a power of ten, if it is finite. No number has more than four
hundred digits before its point, or zeros after it. -/
def finite? (mantissa : Nat) (exponent : Int) : Option Float :=
  let order := exponent + (Nat.toDigits 10 mantissa).length
  if mantissa = 0 || order < -400 then some 0
  else if 400 < order then none
  else
    let x := Float.ofScientific mantissa (exponent < 0) exponent.natAbs
    if x.isInf then none else some x

/-- The number that a run of characters stands for, if it has the form of one with a fraction or an
exponent. It is missing in turn if it is too large: only the word for it is infinite. -/
def float? (t : List Char) : Option (Option Float) :=
  let (negative, unsigned) := splitSign t
  let signed (x : Float) : Float := if negative then -x else x
  if unsigned = "inf".toList then some (some (signed (1 / 0)))
  else if unsigned = "nan".toList then some (some (signed (0 / 0)))
  else if areJoined Char.isDigit t then
    (scientific? unsigned).map fun (mantissa, exponent) => (finite? mantissa exponent).map signed
  else none

/-! ## Dates and times -/

/-- The number of a text that consists of a number of decimal digits. -/
def fixed? (count : Nat) (t : List Char) : Option Nat :=
  if t.length = count then natural? 10 t else none

/-- Whether a year has a leap day. -/
def isLeap (year : Nat) : Bool :=
  year % 4 == 0 && (year % 100 != 0 || year % 400 == 0)

/-- The number of days of a month. -/
def monthLength (year month : Nat) : Nat :=
  if month = 2 then (if isLeap year then 29 else 28)
  else if month = 4 || month = 6 || month = 9 || month = 11 then 30
  else 31

/-- Whether a text is a date. -/
def isDate (t : List Char) : Bool :=
  match (t.splitOn '-') with
  | [year, month, day] =>
    match fixed? 4 year, fixed? 2 month, fixed? 2 day with
    | some y, some m, some d =>
      1 ≤ m && m ≤ 12 && 1 ≤ d && d ≤ monthLength y m
    | _, _, _ => false
  | _ => false

/-- Whether a text is a number of seconds, of which a fraction may follow a point. -/
def isSeconds (t : List Char) : Bool :=
  match t.splitOn '.' with
  | [whole] => (fixed? 2 whole).any (· ≤ 60)
  | [whole, fraction] => (fixed? 2 whole).any (· ≤ 60) && (natural? 10 fraction).isSome
  | _ => false

/-- Whether texts are hours and minutes. -/
def areHourMinute (hour minute : List Char) : Bool :=
  (fixed? 2 hour).any (· ≤ 23) && (fixed? 2 minute).any (· ≤ 59)

/-- Whether a text is a time of day. The seconds may be missing. -/
def isTime (t : List Char) : Bool :=
  match t.splitOn ':' with
  | [hour, minute] => areHourMinute hour minute
  | [hour, minute, seconds] => areHourMinute hour minute && isSeconds seconds
  | _ => false

/-- Whether a text is a distance from universal time. -/
def isOffset (t : List Char) : Bool :=
  match t with
  | ['Z'] | ['z'] => true
  | c :: t =>
    (c = '+' || c = '-') &&
      match t.splitOn ':' with
      | [hour, minute] => areHourMinute hour minute
      | _ => false
  | [] => false

/-- Whether a text is a time of day, perhaps with a distance from universal time. -/
def isTimeWithOffset (t : List Char) : Bool :=
  let isPart (c : Char) : Bool := c.isDigit || c == ':' || c == '.'
  isTime (t.takeWhile isPart) &&
    ((t.dropWhile isPart).isEmpty || isOffset (t.dropWhile isPart))

/-- Whether a text is a date, a time of day, or both. -/
def isDatetime (t : List Char) : Bool :=
  isDate t || isTime t ||
    match t.drop 10 with
    | c :: time =>
      isDate (t.take 10) && (c = 'T' || c = 't' || c = ' ') && isTimeWithOffset time
    | [] => false

/-! ## Runs of characters -/

/-- The value that a run of characters stands for. -/
def scalar? (t : List Char) : Option Value :=
  if t = "true".toList then some (.boolean true)
  else if t = "false".toList then some (.boolean false)
  else if isDatetime t then some (.datetime t)
  else if isInteger t then some (.integer (integer? t))
  else (float? t).map .float

end TextDiagram.Toml
