import TextDiagram.Text.Words

/-!
# Colours

A colour is given by a name, or by components in a colour space. A component may be missing, which
is not the same as zero: it is shown as `none`. This module holds the colours, the names that are
known, and the reasons for which a text is refused as a colour (`ColorError`).
-/

namespace TextDiagram

/-- A space of colours that is named in a notation. -/
inductive ColorSpace
  /-- Red, green and blue of screens. -/
  | srgb
  /-- The same with components proportional to light. -/
  | srgbLinear
  /-- Red, green and blue of displays with a wide gamut. -/
  | displayP3
  /-- Red, green and blue of photographic prints. -/
  | a98Rgb
  /-- Red, green and blue of photographs with a very wide gamut. -/
  | prophotoRgb
  /-- Red, green and blue of television. -/
  | rec2020
  /-- Tristimulus values for the white point at 5000 kelvin. -/
  | xyzD50
  /-- Tristimulus values for the white point at 6500 kelvin. -/
  | xyzD65
  /-- Lightness and two axes of opposite colours. -/
  | lab
  /-- Lightness, chroma and hue. -/
  | lch
  /-- Lightness and two axes of opposite colours, evened out. -/
  | oklab
  /-- Lightness, chroma and hue, evened out. -/
  | oklch
  deriving DecidableEq, Repr

/-- The name of a colour space. -/
def ColorSpace.name : ColorSpace → List Char
  | srgb => "srgb".toList
  | srgbLinear => "srgb-linear".toList
  | displayP3 => "display-p3".toList
  | a98Rgb => "a98-rgb".toList
  | prophotoRgb => "prophoto-rgb".toList
  | rec2020 => "rec2020".toList
  | xyzD50 => "xyz-d50".toList
  | xyzD65 => "xyz-d65".toList
  | lab => "lab".toList
  | lch => "lch".toList
  | oklab => "oklab".toList
  | oklch => "oklch".toList

/-- The components of a colour. -/
structure Components where
  /-- The first component. -/
  first : Option Float32
  /-- The second component. -/
  second : Option Float32
  /-- The third component. -/
  third : Option Float32
  /-- The opacity, from zero to one. -/
  alpha : Option Float32

/-- A colour. -/
inductive Color
  /-- A colour that has a name. -/
  | named (name : List Char)
  /-- Red, green and blue, written as shares of 255. -/
  | rgb (components : Components)
  /-- Components in a space, written by a function that bears the name of the space. -/
  | function (space : ColorSpace) (components : Components)
  /-- Components in a space, written by the function for all spaces. -/
  | inSpace (space : ColorSpace) (components : Components)

/-- Why a text is no colour. -/
inductive ColorError
  /-- The number of hexadecimal digits is none of those that stand for a colour. -/
  | hexDigits
  /-- Something follows the colour. -/
  | trailing
  /-- The text begins with neither a number sign nor an identifier. -/
  | unknownNotation
  /-- The identifier is no colour. -/
  | identifier
  /-- A function has no arguments. -/
  | arguments
  /-- A comma is missing between arguments. -/
  | comma
  /-- The arguments are not closed. -/
  | closing
  /-- An argument is no component. -/
  | component
  /-- An argument is no angle. -/
  | angle
  /-- The unit of an angle is unknown. -/
  | angleUnit
  /-- The first argument is no identifier. -/
  | spaceMissing
  /-- The identifier is no colour space. -/
  | space
  deriving DecidableEq, Repr

/-- The wording of a reason. -/
def ColorError.message : ColorError → String
  | hexDigits => "wrong number of hex digits"
  | trailing => "expected end of string"
  | unknownNotation => "unknown color syntax"
  | identifier => "unknown color identifier"
  | arguments => "expected arguments"
  | comma => "expected comma"
  | closing => "expected closing parenthesis"
  | component => "unknown color component"
  | angle => "unknown angle"
  | angleUnit => "unknown angle dimension"
  | spaceMissing => "expected color space identifier"
  | space => "unknown color space"

namespace Color

/-- The names of colours. -/
def names : List String :=
  ["aliceblue", "antiquewhite", "aqua", "aquamarine", "azure", "beige", "bisque", "black",
   "blanchedalmond", "blue", "blueviolet", "brown", "burlywood", "cadetblue", "chartreuse",
   "chocolate", "coral", "cornflowerblue", "cornsilk", "crimson", "cyan", "darkblue", "darkcyan",
   "darkgoldenrod", "darkgray", "darkgreen", "darkkhaki", "darkmagenta", "darkolivegreen",
   "darkorange", "darkorchid", "darkred", "darksalmon", "darkseagreen", "darkslateblue",
   "darkslategray", "darkturquoise", "darkviolet", "deeppink", "deepskyblue", "dimgray",
   "dodgerblue", "firebrick", "floralwhite", "forestgreen", "fuchsia", "gainsboro", "ghostwhite",
   "gold", "goldenrod", "gray", "green", "greenyellow", "honeydew", "hotpink", "indianred",
   "indigo", "ivory", "khaki", "lavender", "lavenderblush", "lawngreen", "lemonchiffon",
   "lightblue", "lightcoral", "lightcyan", "lightgoldenrodyellow", "lightgray", "lightgreen",
   "lightpink", "lightsalmon", "lightseagreen", "lightskyblue", "lightslategray",
   "lightsteelblue", "lightyellow", "lime", "limegreen", "linen", "magenta", "maroon",
   "mediumaquamarine", "mediumblue", "mediumorchid", "mediumpurple", "mediumseagreen",
   "mediumslateblue", "mediumspringgreen", "mediumturquoise", "mediumvioletred", "midnightblue",
   "mintcream", "mistyrose", "moccasin", "navajowhite", "navy", "oldlace", "olive", "olivedrab",
   "orange", "orangered", "orchid", "palegoldenrod", "palegreen", "paleturquoise",
   "palevioletred", "papayawhip", "peachpuff", "peru", "pink", "plum", "powderblue", "purple",
   "rebeccapurple", "red", "rosybrown", "royalblue", "saddlebrown", "salmon", "sandybrown",
   "seagreen", "seashell", "sienna", "silver", "skyblue", "slateblue", "slategray", "snow",
   "springgreen", "steelblue", "tan", "teal", "thistle", "tomato", "transparent", "turquoise",
   "violet", "wheat", "white", "whitesmoke", "yellow", "yellowgreen"]

/-- The colour of a name, in letters of either case. -/
def ofName? (name : List Char) : Option Color :=
  let name := Text.lowercase name
  if names.contains (String.ofList name) then some (.named name) else none

end Color

end TextDiagram
