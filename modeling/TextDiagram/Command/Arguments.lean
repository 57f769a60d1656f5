import TextDiagram.Command.Request

/-!
# Arguments

The arguments of the program are the path of the source and options. An option has a short or a long
name, and perhaps a value, which follows the name or is a part of the same argument. Arguments are
read from left to right, and the first that cannot be understood decides; a question about the
program itself is answered at once.
-/

namespace TextDiagram.Command

/-- Why arguments cannot be understood. -/
inductive UsageFault
  /-- There is no such option. -/
  | unknownOption (name : List Char)
  /-- A second path is given for the source. -/
  | surplus (argument : List Char)
  /-- An option has no value. -/
  | missingValue (name : String)
  /-- An option that has no value is given one. -/
  | unwantedValue (name : String)
  /-- An option is given twice. -/
  | repeated (name : String)
  /-- There is no path for the source. -/
  | missingInput
  deriving DecidableEq, Repr

/-- The wording of a fault. -/
def UsageFault.message : UsageFault → String
  | unknownOption name => "unexpected argument '" ++ String.ofList name ++ "' found"
  | surplus argument => "unexpected argument '" ++ String.ofList argument ++ "' found"
  | missingValue name => "a value is required for '--" ++ name ++ "' but none was supplied"
  | unwantedValue name => "unexpected value for '--" ++ name ++ "' found; no more were expected"
  | repeated name => "the argument '--" ++ name ++ "' cannot be used multiple times"
  | missingInput => "the following required arguments were not provided: <INPUT>"

/-- What arguments ask for. -/
inductive Asked
  /-- To carry out a request. -/
  | request (request : Request)
  /-- To tell the version of the program. -/
  | version
  /-- To tell how the program is used. -/
  | help
  /-- Nothing that can be understood. -/
  | unclear (fault : UsageFault)
  deriving DecidableEq, Repr

/-- The options. -/
inductive Opt
  /-- The path of the result. -/
  | output
  /-- The path of the configuration. -/
  | config
  /-- The verbosity of the journal. -/
  | logLevel
  /-- To show code instead of failing. -/
  | fallback
  /-- To tell the version. -/
  | version
  /-- To tell how the program is used. -/
  | help
  deriving DecidableEq, Repr

namespace Opt

/-- All options. -/
def all : List Opt := [output, config, logLevel, fallback, version, help]

/-- The long name of an option. -/
def name : Opt → String
  | output => "output"
  | config => "config"
  | logLevel => "log-level"
  | fallback => "fallback"
  | version => "version"
  | help => "help"

/-- The short name of an option, if it has one. -/
def letter? : Opt → Option Char
  | output => some 'o'
  | config => some 'c'
  | version => some 'V'
  | help => some 'h'
  | logLevel | fallback => none

/-- Whether an option has a value. -/
def hasValue : Opt → Bool
  | output | config | logLevel => true
  | fallback | version | help => false

/-- The option of a long name. -/
def ofName? (name : List Char) : Option Opt :=
  all.find? fun o => o.name.toList = name

/-- The option of a short name. -/
def ofLetter? (letter : Char) : Option Opt :=
  all.find? fun o => o.letter? = some letter

end Opt

/-- The arguments that have been read. -/
structure Arguments where
  /-- The path of the source. -/
  input : Option Path := none
  /-- The path of the result. -/
  output : Option Path := none
  /-- The path of the configuration. -/
  config : Option Path := none
  /-- The verbosity of the journal. -/
  logLevel : Option (List Char) := none
  /-- Whether code may be shown. -/
  fallback : Bool := false

namespace Arguments

/-- What the arguments ask for. There has to be a path for the source. -/
def asked (s : Arguments) : Asked :=
  match s.input with
  | none => .unclear .missingInput
  | some input =>
    let r : Request := { input }
    .request
      { r with
        output := s.output.getD r.output
        config := s.config
        fallback := s.fallback
        logLevel := s.logLevel.getD r.logLevel }

/-- Takes a path for the source. -/
def take (s : Arguments) (argument : List Char) : Except Asked Arguments :=
  if s.input.isSome then .error (.unclear (.surplus argument))
  else .ok { s with input := some argument }

/-- The arguments after an option, which must not have been given before. -/
def once (o : Opt) (given : Bool) (after : Arguments) : Except Asked Arguments :=
  if given then .error (.unclear (.repeated o.name)) else .ok after

/-- Takes an option with its value. -/
def takeValue (s : Arguments) (o : Opt) (value : List Char) : Except Asked Arguments :=
  match o with
  | .output => once o s.output.isSome { s with output := some value }
  | .config => once o s.config.isSome { s with config := some value }
  | .logLevel => once o s.logLevel.isSome { s with logLevel := some value }
  | .fallback | .version | .help => .error (.unclear (.unwantedValue o.name))

/-- Takes an option without a value. -/
def takeFlag (s : Arguments) (o : Opt) : Except Asked Arguments :=
  match o with
  | .version => .error .version
  | .help => .error .help
  | .fallback => once o s.fallback { s with fallback := true }
  | .output | .config | .logLevel => .error (.unclear (.missingValue o.name))

/-- Reads the letters of an argument after its hyphen. It ends at an option that has a value, of
which the value may be the rest of the argument; an equals sign before it does not count. -/
def letters (s : Arguments) : List Char → Except Asked (Arguments × Option Opt)
  | [] => .ok (s, none)
  | c :: rest =>
    match Opt.ofLetter? c with
    | none => .error (.unclear (.unknownOption ['-', c]))
    | some o =>
      if o.hasValue then
        match rest with
        | [] => .ok (s, some o)
        | '=' :: value => do return (← s.takeValue o value, none)
        | value => do return (← s.takeValue o value, none)
      else do
        letters (← s.takeFlag o) rest

/-- Reads an argument after its two hyphens: the name of an option, and perhaps its value after an
equals sign. -/
def long (s : Arguments) (t : List Char) : Except Asked (Arguments × Option Opt) :=
  let name := t.takeWhile (· != '=')
  match Opt.ofName? name with
  | none => .error (.unclear (.unknownOption ('-' :: '-' :: name)))
  | some o =>
    match t.dropWhile (· != '=') with
    | _ :: value => do return (← s.takeValue o value, none)
    | [] => if o.hasValue then .ok (s, some o) else do return (← s.takeFlag o, none)

/-- Whether an argument is an option, and not a path or a value. -/
def isOption : List Char → Bool
  | '-' :: _ :: _ => true
  | _ => false

/-- Reads an argument: the state after it, and the option whose value has to follow. -/
def argument (s : Arguments) (t : List Char) : Except Asked (Arguments × Option Opt) :=
  match t with
  | '-' :: '-' :: rest => s.long rest
  | '-' :: c :: rest => s.letters (c :: rest)
  | _ => do return (← s.take t, none)

/-- Reads arguments. After two hyphens that stand alone there are no more options. -/
def readAll : Arguments → (waiting : Option Opt) → List (List Char) → Except Asked Arguments
  | s, none, [] => .ok s
  | _, some o, [] => .error (.unclear (.missingValue o.name))
  | s, none, t :: rest =>
    if t = ['-', '-'] then rest.foldlM take s
    else do
      let (s, waiting) ← s.argument t
      s.readAll waiting rest
  | s, some o, t :: rest =>
    if isOption t then .error (.unclear (.missingValue o.name))
    else do (← s.takeValue o t).readAll none rest

end Arguments

/-- What a list of arguments asks for. -/
def Asked.ofArguments (arguments : List (List Char)) : Asked :=
  match Arguments.readAll {} none arguments with
  | .ok s => s.asked
  | .error asked => asked

end TextDiagram.Command
