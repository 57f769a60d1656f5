import TextDiagram.Sequence.Conversation
import TextDiagram.Text.Affix
import TextDiagram.Text.Fit

/-!
# Statements of a sequence diagram

A statement of a sequence diagram declares a participant, perhaps with a name to show, or sends a
message from one participant to another. Statements that open with a keyword of the richer language
are passed over, and those that cannot be read are dropped.
-/

namespace TextDiagram.Sequence

open Text

/-- The message operators. Of those that a text begins with, the first in this list is meant. -/
def operators : List (List Char) :=
  ["<<--".toList, "-->>".toList, "<->".toList, "->>".toList, "-->".toList, "==>".toList,
   "<--".toList, "->".toList, "=>".toList, "<-".toList]

/-- The words that open a statement without a declaration or a message. -/
def keywords : List (List Char) :=
  ["autonumber".toList, "activate".toList, "deactivate".toList, "note".toList, "rect".toList,
   "loop".toList, "alt".toList, "else".toList, "end".toList, "opt".toList, "par".toList,
   "critical".toList, "break".toList]

/-- The words that open a declaration. -/
def declarers : List (List Char) :=
  ["participant".toList, "actor".toList]

/-- The greatest number of characters of a message that are kept. -/
def textLimit : Nat := 44

/-- The characters that separate the parts of a statement. -/
def isGap (c : Char) : Bool :=
  c == ' ' || c == '\t'

/-- The characters of the id of a participant. -/
def isIdChar (c : Char) : Bool :=
  !isBlank c && !(['-', '<', '>', '=', ':', '+'].contains c)

/-- What follows the gap at the start of a text, which may be empty. -/
def afterGap (t : List Char) : List Char :=
  t.dropWhile isGap

/-- What follows the gap at the start of a text, if there is one. -/
def afterGap? : List Char → Option (List Char)
  | [] => none
  | c :: t => if isGap c then some (afterGap t) else none

/-- What follows a word at the start of a text, in letters of either case. -/
def afterWord? (word t : List Char) : Option (List Char) :=
  if sameIgnoringCase word (t.take word.length) then some (t.drop word.length) else none

/-- The id at the start of a text, and what follows it. -/
def splitId? (t : List Char) : Option (List Char × List Char) :=
  let id := t.takeWhile isIdChar
  if id.isEmpty then none else some (id, t.dropWhile isIdChar)

/-- What follows the operator at the start of a text. -/
def afterOperator? (t : List Char) : Option (List Char) :=
  operators.findSome? fun op => after? op t

/-- What follows the mark of activation at the start of a text, which may be missing. -/
def afterActivation : List Char → List Char
  | [] => []
  | c :: t => if c == '+' || c == '-' then t else c :: t

/-- The name to show that a declaration gives after `as`. -/
def alias? (t : List Char) : Option (List Char) := do
  let t ← afterGap? t
  let t ← afterWord? "as".toList t
  afterGap? t

/-- The declaration of a participant. -/
structure Declaration where
  /-- The id of the participant. -/
  id : List Char
  /-- The name to show, if one is given. -/
  label : Option (List Char)
  deriving DecidableEq, Repr

/-- Reads a declaration. -/
def declaration? (statement : List Char) : Option Declaration := do
  let t ← declarers.findSome? fun word => afterWord? word (trim statement)
  let t ← afterGap? t
  let (id, rest) ← splitId? t
  match alias? rest with
  | some label => some ⟨id, (some (trim label)).filter fun label => !label.isEmpty⟩
  | none => if (afterGap rest).isEmpty then some ⟨id, none⟩ else none

/-- Reads a message. Its text is all that follows the colon. -/
def message? (statement : List Char) : Option Message := do
  let (sender, rest) ← splitId? (trim statement)
  let rest ← afterOperator? (afterGap rest)
  let (receiver, rest) ← splitId? (afterGap (afterActivation rest))
  match afterGap rest with
  | ':' :: text => some ⟨sender, receiver, text⟩
  | _ => none

/-- What a statement says. -/
inductive Reading
  /-- It opens with a keyword and is passed over. -/
  | keyword
  /-- It declares a participant. -/
  | declaration (declared : Declaration)
  /-- It sends a message. -/
  | message (sent : Message)
  /-- It is neither. -/
  | unreadable
  deriving DecidableEq, Repr

/-- Whether a statement opens with a keyword, in letters of either case. -/
def opensWithKeyword (statement : List Char) : Bool :=
  keywords.any fun word => sameIgnoringCase word (firstWord statement)

/-- Reads a statement. -/
def read (statement : List Char) : Reading :=
  if opensWithKeyword statement then .keyword
  else match declaration? statement with
    | some declared => .declaration declared
    | none =>
      match message? statement with
      | some sent => .message sent
      | none => .unreadable

/-- What a statement adds to a conversation. Of the text of a message only what fits is kept. -/
def Reading.events : Reading → List Event
  | .declaration declared => [.declare declared.id declared.label]
  | .message sent => [.send sent.sender sent.receiver (shorten textLimit sent.text)]
  | .keyword | .unreadable => []

/-- The conversation that a list of statements describes. -/
def Conversation.ofStatements (statements : List (List Char)) : Conversation :=
  .ofEvents (statements.flatMap fun statement => (read statement).events)

end TextDiagram.Sequence
