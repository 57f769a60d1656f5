import TextDiagram.Toml.Quoted
import TextDiagram.Toml.Scalar

/-!
# TOML documents

A document is a list of lines: headers of tables, and keys with their values. This module reads
values, keys and lines, and builds the table of a document out of its lines.
-/

namespace TextDiagram.Toml

/-! ## Keys -/

/-- The characters of a key without quotes. -/
def isKeyChar (c : Char) : Bool :=
  c.isAlphanum || c == '_' || c == '-'

/-- Reads a key without dots. -/
def simpleKey : Scan Key := do
  match ← peek? with
  | some '"' =>
    skip ['"']
    oneLine '"' true
  | some '\'' =>
    skip ['\'']
    oneLine '\'' false
  | _ =>
    let key ← run isKeyChar
    if key.isEmpty then failure
    return key

/-- A key: its first part, and the parts that follow dots. -/
structure DottedKey where
  /-- The first part. -/
  first : Key
  /-- The other parts. -/
  more : List Key

/-- The parts of a key before its last one. -/
def DottedKey.path (k : DottedKey) : List Key :=
  (k.first :: k.more).dropLast

/-- The last part of a key. -/
def DottedKey.last (k : DottedKey) : Key :=
  k.more.getLast?.getD k.first

/-- The number of parts that a key may have. -/
def partLimit : Nat := 80

/-- Reads a key. -/
def dottedKey : Scan DottedKey := do
  let first ← simpleKey
  blanks
  let more ← StateT.mk <| many do
    if ← skip? ['.'] then
      blanks
      let key ← simpleKey
      blanks
      return some key
    else return none
  if partLimit ≤ more.length then failure
  return ⟨first, more⟩

/-! ## Values -/

/-- The number of brackets that may be open at a time. -/
def depthLimit : Nat := 80

/-- The characters that end a value without quotes and brackets. -/
def endsScalar (c : Char) : Bool :=
  [' ', '\t', '\n', '\r', ',', ']', '\x7d', '#'].contains c

/-- Reads a value without quotes and brackets. The time of day may follow a date after a space. -/
def scalar : Scan Value := do
  let word ← run fun c => !endsScalar c
  let rest ← get
  let time := (rest.drop 1).takeWhile fun c => !endsScalar c
  if rest.head? = some ' ' && isDate word && (time.head?.map Char.isDigit).getD false then
    set (rest.drop (1 + time.length))
    StateT.lift (scalar? (word ++ ' ' :: time))
  else StateT.lift (scalar? word)

/-- Reads what follows an element between brackets: a comma, or nothing before the bracket that
closes. -/
def separator (closing : Char) : Scan Unit := do
  gap
  if !(← skip? [',']) then
    if (← peek?) != some closing then failure

/-- Reads the elements of a list after its bracket. -/
def items (value : Scan Value) : Scan (List Value) :=
  StateT.mk <| many do
    gap
    if ← skip? [']'] then return none
    let item ← value
    separator ']'
    return some item

/-- Reads the entries of a table after its brace. Lines may end on either side of an equals sign, but
not within a key. -/
def entries (value : Scan Value) : Scan (List (DottedKey × Value)) :=
  StateT.mk <| many do
    gap
    if ← skip? ['\x7d'] then return none
    let key ← dottedKey
    gap
    skip ['=']
    gap
    let item ← value
    separator '\x7d'
    return some (key, item)

/-- The table of some entries within braces. -/
def ofEntries? (entries : List (DottedKey × Value)) : Option Table :=
  entries.foldlM (fun table (key, value) => table.insert value key.first key.more) []

/-- Reads a value, within which a number of brackets may be open at a time. -/
def value : (depth : Nat) → Scan Value
  | 0 => do
    match ← peek? with
    | some '"' | some '\'' => return .string (← quoted)
    | some '[' | some '\x7b' => failure
    | _ => scalar
  | depth + 1 => do
    match ← peek? with
    | some '"' | some '\'' => return .string (← quoted)
    | some '[' =>
      skip ['[']
      return .array (← items (value depth))
    | some '\x7b' =>
      skip ['\x7b']
      return .table .braces (← StateT.lift (ofEntries? (← entries (value depth))))
    | _ => scalar

/-! ## Lines -/

/-- A line of a document. -/
inductive Line
  /-- A line that says nothing. -/
  | blank
  /-- The header of a table. -/
  | header (key : DottedKey)
  /-- The header of one more table in a list of tables. -/
  | itemHeader (key : DottedKey)
  /-- A key and its value. -/
  | entry (key : DottedKey) (value : Value)

/-- Reads what a line says. -/
def content : Scan Line := do
  match ← peek? with
  | none | some '#' | some '\n' | some '\r' => return .blank
  | some '[' =>
    if ← skip? ['[', '['] then
      blanks
      let key ← dottedKey
      skip [']', ']']
      return .itemHeader key
    else
      skip ['[']
      blanks
      let key ← dottedKey
      skip [']']
      return .header key
  | _ =>
    let key ← dottedKey
    skip ['=']
    blanks
    return .entry key (← value depthLimit)

/-- Reads a line, unless the text has come to its end. -/
def line : Scan (Option Line) := do
  if (← peek?).isNone then return none
  blanks
  let said ← content
  blanks
  comment
  if !(← newline?) && (← peek?).isSome then failure
  return some said

/-- The mark that may stand at the start of a text. -/
def byteOrderMark : Char := '\uFEFF'

/-- The lines of a text. -/
def lines? (t : List Char) : Option (List Line) :=
  (many line (if t.head? = some byteOrderMark then t.drop 1 else t)).map Prod.fst

/-! ## Documents -/

/-- A document that is being read. -/
structure Draft where
  /-- The table of the document so far. -/
  table : Table
  /-- Where the table of the last header is. -/
  current : List Key

/-- Adds a line to a document. -/
def Draft.add (d : Draft) : Line → Option Draft
  | .blank => some d
  | .header key => do
    let table ← d.table.change (·.beginTable key.last) key.path
    return ⟨table, key.first :: key.more⟩
  | .itemHeader key => do
    let table ← d.table.change (·.beginItem key.last) key.path
    return ⟨table, key.first :: key.more⟩
  | .entry key value => do
    let table ← d.table.change (·.insert value key.first key.more) d.current
    return { d with table }

/-- The table that a document stands for. -/
def parse (t : List Char) : Option Table := do
  let drafted ← (← lines? t).foldlM Draft.add ⟨[], []⟩
  return drafted.table

end TextDiagram.Toml
