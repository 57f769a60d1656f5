/-!
# Records

While a source is read and drawn, a journal tells what happens. A record of the journal has a level
of detail, the name of the part that tells it, a message, and fields with further values. A journal
shows the records up to some level.
-/

namespace TextDiagram.Journal

/-- The levels of detail, from the gravest record to the most minute. -/
inductive Level
  /-- A failure. -/
  | error
  /-- Something dubious. -/
  | warn
  /-- A step of the work. -/
  | info
  /-- What a step finds out. -/
  | debug
  /-- Every detail. -/
  | trace
  deriving DecidableEq, Repr

namespace Level

/-- The levels from the gravest on. -/
def all : List Level := [error, warn, info, debug, trace]

/-- The number of graver levels. -/
def rank : Level → Nat
  | error => 0
  | warn => 1
  | info => 2
  | debug => 3
  | trace => 4

/-- The name of a level in small letters. -/
def name : Level → String
  | error => "error"
  | warn => "warn"
  | info => "info"
  | debug => "debug"
  | trace => "trace"

/-- The name of a level in capitals. -/
def heading : Level → String
  | error => "ERROR"
  | warn => "WARN"
  | info => "INFO"
  | debug => "DEBUG"
  | trace => "TRACE"

/-- The name of a level as a value of a field. -/
def value : Level → String
  | error => "Error"
  | warn => "Warn"
  | info => "Info"
  | debug => "Debug"
  | trace => "Trace"

end Level

/-- Which records a journal shows. -/
inductive Verbosity
  /-- None. -/
  | silent
  /-- Those of a level and of the graver ones. -/
  | upTo (level : Level)
  deriving DecidableEq, Repr

namespace Verbosity

/-- The name of a verbosity in small letters. -/
def name : Verbosity → String
  | silent => "off"
  | upTo level => level.name

/-- The name of a verbosity as a value of a field. -/
def value : Verbosity → String
  | silent => "Off"
  | upTo level => level.value

/-- Whether records of a level are shown. -/
def shows : Verbosity → Level → Bool
  | silent, _ => false
  | upTo limit, level => level.rank ≤ limit.rank

end Verbosity

/-- A record of a journal. -/
structure Record where
  /-- The level of detail. -/
  level : Level
  /-- The part that tells it. -/
  target : String
  /-- What is told. -/
  message : String
  /-- Further values by name. -/
  fields : List (String × List Char) := []
  deriving DecidableEq, Repr

/-- A number as a value of a field. -/
def countText (n : Nat) : List Char :=
  Nat.toDigits 10 n

/-- The records that are shown. -/
def Verbosity.select (v : Verbosity) (records : List Record) : List Record :=
  records.filter fun r => v.shows r.level

/-- The start of the line of a record: its level, in five columns, and the part that tells it. -/
def Record.opening (r : Record) : List Char :=
  let level := r.level.heading.toList
  '[' :: level ++ List.replicate (5 - level.length) ' ' ++ ' ' :: r.target.toList ++ [']', ' ']

/-- A message of several lines with its further lines indented. -/
def indented (message : List Char) : List Char :=
  message.flatMap fun c => if c = '\n' then "\n    ".toList else [c]

/-- A record as text: its opening, the message and the fields. -/
def Record.text (r : Record) : List Char :=
  r.opening ++ indented r.message.toList ++
    r.fields.flatMap fun (name, value) => ' ' :: name.toList ++ '=' :: value

end TextDiagram.Journal
