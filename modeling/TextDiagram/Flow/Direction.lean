import TextDiagram.Text.Words

/-!
# The direction of a flow chart

A flow chart is read downwards, upwards, to the right or to the left.
-/

namespace TextDiagram.Flow

/-- The direction in which a flow chart is read. -/
inductive Direction
  /-- From the top down. -/
  | down
  /-- From the bottom up. -/
  | up
  /-- From left to right. -/
  | right
  /-- From right to left. -/
  | left
  deriving DecidableEq, Repr

namespace Direction

/-- The two letters that name a direction. -/
def code : Direction → List Char
  | down => "TD".toList
  | up => "BT".toList
  | right => "LR".toList
  | left => "RL".toList

/-- The direction that a word names, in letters of either case. A word that names none stands for
downwards. -/
def ofWord (word : List Char) : Direction :=
  if Text.sameIgnoringCase word up.code then up
  else if Text.sameIgnoringCase word right.code then right
  else if Text.sameIgnoringCase word left.code then left
  else down

/-- Whether the chart is read along its rows. -/
def isHorizontal : Direction → Bool
  | right | left => true
  | down | up => false

end Direction

end TextDiagram.Flow
