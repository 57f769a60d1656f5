/-!
# Digits

Natural numbers written in a base from two to sixteen, with letters of either case for the digits
from ten on.
-/

namespace TextDiagram.Text

/-- The value of a digit in base sixteen. -/
def hexDigit? (c : Char) : Option Nat :=
  if c.isDigit then some (c.toNat - '0'.toNat)
  else if 'a' ≤ c && c ≤ 'f' then some (c.toNat - 'a'.toNat + 10)
  else if 'A' ≤ c && c ≤ 'F' then some (c.toNat - 'A'.toNat + 10)
  else none

/-- The value of a digit in a base. -/
def digit? (base : Nat) (c : Char) : Option Nat :=
  (hexDigit? c).filter (· < base)

/-- The number that digits stand for, the first of them being the most significant. -/
def ofDigits (base : Nat) (digits : List Nat) : Nat :=
  digits.foldl (fun n d => base * n + d) 0

/-- The number that a text of digits stands for. It has a digit at least. -/
def natural? (base : Nat) (t : List Char) : Option Nat :=
  if t.isEmpty then none else (t.mapM (digit? base)).map (ofDigits base)

/-- The sign at the start of a number, which may be missing: whether it is a minus, and what follows
it. -/
def splitSign : List Char → Bool × List Char
  | '+' :: t => (false, t)
  | '-' :: t => (true, t)
  | t => (false, t)

end TextDiagram.Text
