import TextDiagram.Color.Function
import TextDiagram.Decimal.Single
import TextDiagram.Text.Digits

/-!
# The notation of colours

A colour is written as hexadecimal digits after a number sign, by its name, or as a function. It is
shown in one notation: by its name, as red, green and blue from 0 to 255, or in its colour space.
-/

namespace TextDiagram

open Text

namespace Color

/-! ## Reading -/

/-- The hexadecimal digits at the start of a text, of which no more than eight count. -/
def hexDigits (t : List Char) : List Nat :=
  ((t.take 8).map hexDigit?).takeWhile Option.isSome |>.filterMap id

/-- A channel of a colour as a share of 255. -/
def channel (value : Nat) : Float32 :=
  Float32.ofNat value * (1 / 255)

/-- The colour of four channels. -/
def ofChannels (red green blue alpha : Nat) : Color :=
  .rgb ⟨channel red, channel green, channel blue, channel alpha⟩

/-- The colour of some hexadecimal digits: one or two digits for each channel, and perhaps for the
opacity. -/
def ofHexDigits? : List Nat → Option Color
  | [r, g, b] => some (ofChannels (17 * r) (17 * g) (17 * b) 255)
  | [r, g, b, a] => some (ofChannels (17 * r) (17 * g) (17 * b) (17 * a))
  | [r, r', g, g', b, b'] => some (ofChannels (16 * r + r') (16 * g + g') (16 * b + b') 255)
  | [r, r', g, g', b, b', a, a'] =>
    some (ofChannels (16 * r + r') (16 * g + g') (16 * b + b') (16 * a + a'))
  | _ => none

/-- Reads hexadecimal digits. -/
def hex : Scan Color := fun t =>
  let digits := hexDigits t
  match ofHexDigits? digits with
  | some color => .ok (color, t.drop digits.length)
  | none => .error .hexDigits

/-- Reads a colour that begins with an identifier. -/
def identified : Scan Color := do
  let some ident ← ident? | throw .unknownNotation
  match function? (lowercase ident) with
  | some arguments => arguments
  | none =>
    match ofName? ident with
    | some color => return color
    | none => throw .identifier

/-- Reads a colour in any notation. -/
def scan : Scan Color := do
  if ← skip? '#' then hex else identified

/-- The colour that a text stands for. Nothing but blanks may stand around it. -/
def ofText (t : List Char) : Except ColorError Color :=
  match scan.run (trim t) with
  | .error e => .error e
  | .ok (color, []) => .ok color
  | .ok (_, _ :: _) => .error .trailing

/-! ## Showing -/

/-- A component multiplied by a scale. -/
def showComponent (scale : Float32) : Option Float32 → List Char
  | none => noneWord
  | some x => Single.text (x * scale)

end Color

namespace Components

/-- Whether the colour is not wholly opaque. A missing opacity is zero. -/
def isTranslucent (c : Components) : Bool :=
  c.alpha.getD 0 < 1

/-- The components between separators; the opacity, if it is shown, follows one of its own. -/
def written (c : Components) (scale : Float32) (separator stroke : List Char) : List Char :=
  separator.intercalate
      [Color.showComponent scale c.first, Color.showComponent scale c.second,
       Color.showComponent scale c.third] ++
    if c.isTranslucent then stroke ++ Color.showComponent 1 c.alpha else []

end Components

namespace Color

/-- A colour as it stands in the markup. -/
def css : Color → List Char
  | .named name => name
  | .rgb c =>
    (if c.isTranslucent then "rgba(".toList else "rgb(".toList) ++
      c.written 255 ", ".toList ", ".toList ++ [')']
  | .function space c => space.name ++ '(' :: c.written 1 [' '] " / ".toList ++ [')']
  | .inSpace space c =>
    "color(".toList ++ space.name ++ ' ' :: c.written 1 [' '] " / ".toList ++ [')']

end Color

end TextDiagram
