import TextDiagram.Decimal.Single
import TextDiagram.Svg.Escape

/-!
# Vector graphics markup

A picture is a tree of elements with attributes, and of text. The values of attributes are numbers
of any type of coordinates, so that positions can be read off the tree; printing asks how a number
is written. An element prints its children on lines of their own between its two tags.
-/

namespace TextDiagram.Svg

/-- The value of an attribute. -/
inductive Value (α : Type)
  /-- A text, which is escaped when it is printed. -/
  | text (chars : List Char)
  /-- A number. -/
  | number (x : α)
  /-- A list of numbers. -/
  | numbers (xs : List α)
  deriving DecidableEq, Repr

/-- A node of the tree. -/
inductive Node (α : Type)
  /-- An element: its name, its attributes in the order of their names, and its children. -/
  | element (name : String) (attributes : List (String × Value α)) (children : List (Node α))
  /-- A line that is printed as it is. -/
  | line (chars : List Char)

section Printing

variable {α : Type} (number : α → List Char)

/-- The text of a value. -/
def Value.print : Value α → List Char
  | .text chars => chars
  | .number x => number x
  | .numbers xs => [' '].intercalate (xs.map number)

/-- The text of an attribute, with a space before it. -/
def printAttribute (entry : String × Value α) : List Char :=
  ' ' :: entry.1.toList ++ "=\"".toList ++ escape (entry.2.print number) ++ ['"']

mutual

/-- The text of a node. -/
def Node.print : Node α → List Char
  | .line chars => chars
  | .element name attributes [] =>
    '<' :: name.toList ++ attributes.flatMap (printAttribute number) ++ "/>".toList
  | .element name attributes (child :: children) =>
    '<' :: name.toList ++ attributes.flatMap (printAttribute number) ++ '>' ::
      printLines (child :: children) ++ "\n</".toList ++ name.toList ++ ['>']

/-- The texts of some nodes, each on a line of its own. -/
def printLines : List (Node α) → List Char
  | [] => []
  | node :: nodes => '\n' :: node.print ++ printLines nodes

end

end Printing

/-- The text of a picture in single precision. -/
def Node.markup (node : Node Float32) : List Char :=
  node.print Single.text

end TextDiagram.Svg
