/-!
# Values of TOML documents

A document is a table of values. Tables are written in three ways: within braces, below a header of
their own, and bit by bit with dotted keys. What may be added to a table later depends on how it has
come about, so a table remembers its origin.

A number may be out of bounds. That spoils a document only where the number counts
(`Value.isBounded`).
-/

namespace TextDiagram.Toml

/-- A key. -/
abbrev Key := List Char

/-- How a table has come about. -/
inductive Origin
  /-- Within braces: nothing may be added. -/
  | braces
  /-- By a header of its own. -/
  | header
  /-- By the header of a table below it. -/
  | passage
  /-- By a dotted key. -/
  | dotted
  deriving DecidableEq, Repr

/-- A value. -/
inductive Value
  /-- A text. -/
  | string (chars : List Char)
  /-- A whole number, which is missing if it is out of bounds. -/
  | integer (n : Option Int)
  /-- A number with a fraction or an exponent, or none at all. It is missing if it is out of
  bounds. -/
  | float (x : Option Float)
  /-- A truth value. -/
  | boolean (b : Bool)
  /-- A date, a time of day, or both. -/
  | datetime (chars : List Char)
  /-- A list within square brackets. -/
  | array (items : List Value)
  /-- A list of tables, each below a header in doubled brackets. The last one may still grow. -/
  | tables (items : List (List (Key × Value)))
  /-- A table. -/
  | table (origin : Origin) (entries : List (Key × Value))

mutual

/-- Whether all numbers in a value are within their bounds. -/
def Value.isBounded : Value → Bool
  | .string _ | .boolean _ | .datetime _ => true
  | .integer n => n.isSome
  | .float x => x.isSome
  | .array items => areBounded items
  | .tables items => areTablesBounded items
  | .table _ entries => areEntriesBounded entries

/-- Whether all numbers in some values are within their bounds. -/
def areBounded : List Value → Bool
  | [] => true
  | value :: values => value.isBounded && areBounded values

/-- Whether all numbers in the entries of a table are within their bounds. -/
def areEntriesBounded : List (Key × Value) → Bool
  | [] => true
  | (_, value) :: entries => value.isBounded && areEntriesBounded entries

/-- Whether all numbers in some tables are within their bounds. -/
def areTablesBounded : List (List (Key × Value)) → Bool
  | [] => true
  | entries :: tables => areEntriesBounded entries && areTablesBounded tables

end

/-- The entries of a table in order. -/
abbrev Table := List (Key × Value)

namespace Table

/-- The value of a key. -/
def get? (t : Table) (key : Key) : Option Value := t.lookup key

/-- The table with a value for a key: in the place of the value that it has, or at the end. -/
def put (key : Key) (value : Value) : Table → Table
  | [] => [(key, value)]
  | (k, v) :: rest => if k = key then (k, value) :: rest else (k, v) :: put key value rest

/-- Adds a value below a dotted key, of which the first part is given apart. No table on the way has
a header or braces of its own, and from then on all of them count as written with dotted keys. A
list of tables stands for its last one, to which the key adds a table but no value. -/
def insert (value : Value) : (key : Key) → (more : List Key) → Table → Option Table
  | key, [], t => if (t.get? key).isSome then none else some (t ++ [(key, value)])
  | key, next :: more, t =>
    match t.get? key with
    | none => do
      return t.put key (.table .dotted (← insert value next more []))
    | some (.table origin inner) =>
      if origin = .dotted || origin = .passage then do
        return t.put key (.table .dotted (← insert value next more inner))
      else none
    | some (.tables items) =>
      match items.getLast? with
      | none => none
      | some last =>
        if more.isEmpty then none
        else do return t.put key (.tables (items.dropLast ++ [← insert value next more last]))
    | some _ => none

/-- Changes the table below a list of keys by headers. A list of tables stands for its last one. -/
def change (f : Table → Option Table) : (path : List Key) → Table → Option Table
  | [], t => f t
  | key :: path, t =>
    match t.get? key with
    | none => do return t.put key (.table .passage (← change f path []))
    | some (.table origin inner) =>
      if origin = .braces then none
      else do return t.put key (.table origin (← change f path inner))
    | some (.tables items) =>
      match items.getLast? with
      | none => none
      | some last => do return t.put key (.tables (items.dropLast ++ [← change f path last]))
    | some _ => none

/-- Begins the table of a header. A table has no more than one header. -/
def beginTable (key : Key) (t : Table) : Option Table :=
  match t.get? key with
  | none => some (t.put key (.table .header []))
  | some (.table .passage inner) => some (t.put key (.table .header inner))
  | some _ => none

/-- Begins one more table in a list of tables. -/
def beginItem (key : Key) (t : Table) : Option Table :=
  match t.get? key with
  | none => some (t.put key (.tables [[]]))
  | some (.tables items) => some (t.put key (.tables (items ++ [[]])))
  | some _ => none

end Table

end TextDiagram.Toml
