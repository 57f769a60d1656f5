import TextDiagram.Decimal.Shortest

/-!
# Single precision numbers as text

A number of single precision is written with the fewest digits that read back as the same number,
always positionally: whole numbers have no point, and there is no exponent however large or small
the number is.
-/

namespace TextDiagram

namespace Decimal

/-- The digits of a natural number in base ten. -/
def digitChars (n : Nat) : List Char :=
  Nat.toDigits 10 n

/-- A decimal without an exponent: zeros fill the places between the digits and the point. -/
def positional (d : Decimal) : List Char :=
  let chars := digitChars d.digits
  let places := (-d.exponent).toNat
  if places = 0 then chars ++ List.replicate d.exponent.toNat '0'
  else if places < chars.length then
    chars.take (chars.length - places) ++ '.' :: chars.drop (chars.length - places)
  else '0' :: '.' :: List.replicate (places - chars.length) '0' ++ chars

end Decimal

/-- The parts of a number of single precision. -/
inductive Single.Parts
  /-- A result that is no number. -/
  | notANumber
  /-- A value beyond all finite ones, with its sign. -/
  | infinite (negative : Bool)
  /-- A zero with its sign. -/
  | zero (negative : Bool)
  /-- Any other number: its sign and the reals that are rounded to its magnitude. -/
  | finite (negative : Bool) (magnitude : RoundingInterval)
  deriving DecidableEq, Repr

namespace Single

/-- The least mantissa of a number that is not very small: the bits of the mantissa are
twenty-three, and one before them is not stored. -/
def leastMantissa : Nat := Nat.pow 2 23

/-- The reals that are rounded to `mantissa * 2 ^ exponent`. The gap to the next smaller number is
half as wide where the mantissa is least, and the ends belong to an even mantissa. -/
def roundingInterval (mantissa : Nat) (exponent : Int) : RoundingInterval :=
  if mantissa = leastMantissa then
    ⟨4 * mantissa - 1, 4 * mantissa, 4 * mantissa + 2, exponent - 2, true⟩
  else ⟨2 * mantissa - 1, 2 * mantissa, 2 * mantissa + 1, exponent - 1, mantissa % 2 == 0⟩

/-- Takes a number apart along the bits of its format: one of sign, eight of exponent and
twenty-three of mantissa. -/
def parts (x : Float32) : Parts :=
  let bits := x.toBits.toNat
  let negative := Nat.pow 2 31 ≤ bits
  let exponent : Nat := bits / leastMantissa % 256
  let fraction : Nat := bits % leastMantissa
  if exponent = 255 then if fraction = 0 then .infinite negative else .notANumber
  else if exponent = 0 then
    if fraction = 0 then .zero negative else .finite negative (roundingInterval fraction (-149))
  else .finite negative (roundingInterval (leastMantissa + fraction) ((exponent : Int) - 150))

/-- A minus sign in front of the text of a negative number. -/
def signed (negative : Bool) (text : List Char) : List Char :=
  if negative then '-' :: text else text

/-- The text of a number: the fewest digits that read back as the number. -/
def text (x : Float32) : List Char :=
  match parts x with
  | .notANumber => "NaN".toList
  | .infinite negative => signed negative "inf".toList
  | .zero negative => signed negative ['0']
  | .finite negative magnitude => signed negative (magnitude.shortest 39).positional

/-- The text of a number that always shows a point between whole and fractional digits. -/
def textWithPoint (x : Float32) : List Char :=
  match parts x with
  | .notANumber | .infinite _ => text x
  | _ => if (text x).contains '.' then text x else text x ++ ".0".toList

end Single

end TextDiagram
