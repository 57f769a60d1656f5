import TextDiagram.Color.Scan

/-!
# Colour functions

A colour may be written as a function of its components. Each function has its own scale for numbers
and for percentages, and keeps some components within bounds.
-/

namespace TextDiagram.Color

open Text

/-! ## Arguments -/

/-- The word for a component that is missing, in small letters. -/
def noneWord : List Char := "none".toList

/-- A component: a number or a percentage on the scales of the function, or missing. -/
def component (scale percent : Float) : Scan (Option Float) := do
  skipGap
  match ← argument? with
  | some (.number x) => return some (x * scale)
  | some (.percentage x) => return some (x * percent)
  | some (.word word) =>
    if sameIgnoringCase word noneWord then return none else throw .component
  | _ => throw .component

/-- The number of degrees in a unit of angles. -/
def degrees? (unit : List Char) : Option Float :=
  let unit := lowercase unit
  if unit == "deg".toList then some 1
  else if unit == "rad".toList then some (180 / 3.141592653589793)
  else if unit == "grad".toList then some 0.9
  else if unit == "turn".toList then some 360
  else none

/-- An angle in degrees, or missing. -/
def angle : Scan (Option Float) := do
  skipGap
  match ← argument? with
  | some (.number x) => return some x
  | some (.dimension x unit) =>
    match degrees? unit with
    | some scale => return some (x * scale)
    | none => throw .angleUnit
  | some (.word word) => if sameIgnoringCase word noneWord then return none else throw .angle
  | _ => throw .angle

/-- A number moved to the nearer end of an interval that does not hold it. -/
def clamp (low high x : Float) : Float :=
  if x < low then low else if high < x then high else x

/-- The opacity after a separator, which may be missing. It is kept between zero and one. -/
def opacity (separator : Char) : Scan (Option Float) := do
  skipGap
  if ← skip? separator then return (← component 1 0.01).map (clamp 0 1) else return some 1

/-- The bracket that opens the arguments. -/
def opening : Scan Unit := skip '(' .arguments

/-- The bracket that closes the arguments. -/
def closing : Scan Unit := do
  skipGap
  skip ')' .closing

/-- The comma between arguments, where the notation with commas is used. -/
def comma (used : Bool) : Scan Unit := do
  skipGap
  if used then skip ',' .comma

/-- Components in single precision. -/
def components (first second third alpha : Option Float) : Components where
  first := first.map Float.toFloat32
  second := second.map Float.toFloat32
  third := third.map Float.toFloat32
  alpha := alpha.map Float.toFloat32

/-! ## Functions -/

/-- Red, green and blue, as shares of 255 or as percentages. A comma after the first asks for commas
throughout, and otherwise the opacity follows a stroke. -/
def redGreenBlue : Scan Color := do
  opening
  let share := return (← component (1 / 255) 0.01).map (clamp 0 1)
  let red ← share
  skipGap
  let commas ← skip? ','
  let green ← share
  comma commas
  let blue ← share
  let alpha ← opacity (if commas then ',' else '/')
  closing
  return .rgb (components red green blue alpha)

/-- Lightness and two axes. The lightness is at most `limit`, and a percentage of an axis counts
`percent`. -/
def axes (space : ColorSpace) (limit percent : Float) : Scan Color := do
  opening
  let lightness := (← component 1 (0.01 * limit)).map (clamp 0 limit)
  let a ← component 1 percent
  let b ← component 1 percent
  let alpha ← opacity '/'
  closing
  return .function space (components lightness a b alpha)

/-- Lightness, chroma and hue. The lightness is at most `limit`, and a percentage of chroma counts
`percent`. -/
def polar (space : ColorSpace) (limit percent : Float) : Scan Color := do
  opening
  let lightness := (← component 1 (0.01 * limit)).map (clamp 0 limit)
  let chroma := (← component 1 percent).map fun x => if 0 < x then x else 0
  let hue ← angle
  let alpha ← opacity '/'
  closing
  return .function space (components lightness chroma hue alpha)

/-- The spaces of the function for all spaces, with the names by which it knows them. -/
def spaceNames : List (List Char × ColorSpace) :=
  [("srgb".toList, .srgb), ("srgb-linear".toList, .srgbLinear), ("display-p3".toList, .displayP3),
   ("a98-rgb".toList, .a98Rgb), ("prophoto-rgb".toList, .prophotoRgb),
   ("rec2020".toList, .rec2020), ("xyz-d50".toList, .xyzD50), ("xyz".toList, .xyzD65),
   ("xyz-d65".toList, .xyzD65)]

/-- Components in any of some spaces. -/
def anySpace : Scan Color := do
  opening
  skipGap
  let some ident ← ident? | throw .spaceMissing
  let some space := spaceNames.lookup (lowercase ident) | throw .space
  let first ← component 1 0.01
  let second ← component 1 0.01
  let third ← component 1 0.01
  let alpha ← opacity '/'
  closing
  return .inSpace space (components first second third alpha)

/-! ## Hues -/

/-- Red, green or blue of a hue in degrees, with a saturation and a lightness from zero to one. The
offset tells which of the three it is. -/
def hueShare (hue saturation lightness offset : Float32) : Float32 :=
  let spread := saturation * min lightness (1 - lightness)
  let x := offset + hue * (1 / 30)
  let k := x - 12 * (x * (1 / 12)).floor
  lightness - spread * max (-1) (min 1 (min (k - 3) (9 - k)))
where
  /-- The lesser of two numbers. -/
  min (x y : Float32) : Float32 := if x < y then x else y
  /-- The greater of two numbers. -/
  max (x y : Float32) : Float32 := if x < y then y else x

/-- Red, green and blue made from a hue by a function of the share of each. -/
def ofShares (share : Float32 → Float32) (alpha : Option Float) : Color :=
  .rgb ⟨some (share 0), some (share 8), some (share 4), alpha.map Float.toFloat32⟩

/-- A component in single precision, with zero in place of a missing one. -/
def orZero (x : Option Float) : Float32 :=
  (x.getD 0).toFloat32

/-- Hue, saturation and lightness. A comma right after the hue asks for commas throughout. -/
def hueSaturationLightness : Scan Color := do
  opening
  let hue ← angle
  skipComments
  let commas ← skip? ','
  let saturation := (← component 1 1).map fun x => if 0 < x then x else 0
  comma commas
  let lightness ← component 1 1
  let alpha ← opacity (if commas then ',' else '/')
  closing
  return ofShares
    (hueShare (orZero hue) (orZero saturation * 0.01) (orZero lightness * 0.01)) alpha

/-- Hue, whiteness and blackness. Where the two fill the whole the colour is gray. -/
def hueWhiteBlack : Scan Color := do
  opening
  let hue ← angle
  let whiteness := orZero (← component 1 1) * 0.01
  let blackness := orZero (← component 1 1) * 0.01
  let alpha ← opacity '/'
  closing
  if 1 ≤ whiteness + blackness then
    return ofShares (fun _ => whiteness / (whiteness + blackness)) alpha
  return ofShares
    (fun offset => whiteness + hueShare (orZero hue) 1 0.5 offset * (1 - whiteness - blackness))
    alpha

/-- The function of an identifier in small letters. -/
def function? (ident : List Char) : Option (Scan Color) :=
  if ident == "rgb".toList || ident == "rgba".toList then some redGreenBlue
  else if ident == "lab".toList then some (axes .lab 100 1.25)
  else if ident == "oklab".toList then some (axes .oklab 1 0.004)
  else if ident == "lch".toList then some (polar .lch 100 1.25)
  else if ident == "oklch".toList then some (polar .oklch 1 0.004)
  else if ident == "hsl".toList || ident == "hsla".toList then some hueSaturationLightness
  else if ident == "hwb".toList then some hueWhiteBlack
  else if ident == "color".toList then some anySpace
  else none

end TextDiagram.Color
