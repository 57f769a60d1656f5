import TextDiagram.Command.Arguments
import TextDiagram.Command.Journal

/-!
# The program

A run of the program reads its arguments, carries out the request on a disk, and ends with an exit
code and with what it has printed: answers on one stream, and the journal and the report of a
failure on the other. Main statement: a run changes the disk only if it ends well
(`run_disk_of_exit_ne_zero`).
-/

namespace TextDiagram.Command

open Journal

/-- How a run of the program ends. -/
structure Outcome where
  /-- The exit code. -/
  exit : Nat
  /-- What is printed as an answer. -/
  stdout : List Char
  /-- What is printed besides. -/
  stderr : List Char
  deriving DecidableEq, Repr

/-- The name of the program and its version. -/
def versionText : String := "mermaid-lite-cli 0.1.0\n"

/-- How the program is used. -/
def usageText : String :=
  "Usage: mermaid-lite [OPTIONS] <INPUT>\n"

/-- The program and its options. -/
def helpText : String :=
  "Command-line interface for rendering mermaid-lite diagrams to SVG\n\n" ++ usageText ++
  "\nArguments:\n" ++
  "  <INPUT>  Path to the input file\n" ++
  "\nOptions:\n" ++
  "  -o, --output <OUTPUT>        Path to the output file [default: out.svg]\n" ++
  "  -c, --config <CONFIG>        Path to configuration file (TOML)\n" ++
  "      --fallback               " ++
  "Write an escaped code block instead of failing on unrenderable input\n" ++
  "      --log-level <LOG_LEVEL>  " ++
  "Log level (off, error, warn, info, debug, trace) [default: info]\n" ++
  "  -h, --help                   Print help\n" ++
  "  -V, --version                Print version\n"

/-- What is printed of arguments that cannot be understood. -/
def UsageFault.text (f : UsageFault) : String :=
  "error: " ++ f.message ++ "\n\n" ++ usageText ++ "\nFor more information, try '--help'.\n"

/-! ## The journal of a run -/

/-- The verbosity of a name, in letters of either case. -/
def verbosity? (name : List Char) : Option Verbosity :=
  (.silent :: Level.all.map Verbosity.upTo).find? fun v =>
    Text.sameIgnoringCase name v.name.toList

/-- The verbosity of a request. A name that is unknown stands for warnings. -/
def Request.verbosity (r : Request) : Verbosity :=
  (verbosity? r.logLevel).getD (.upTo .warn)

/-- What is printed if the verbosity of a request has an unknown name. -/
def Request.verbosityWarning (r : Request) : String :=
  match verbosity? r.logLevel with
  | some _ => ""
  | none => "Invalid log level: " ++ String.ofList r.logLevel ++ ". Using 'warn' instead.\n"

/-- An optional text in full. -/
def optionText : Option (List Char) → List Char
  | none => "None".toList
  | some t => "Some(".toList ++ Text.quote t ++ [')']

/-- A request in full. -/
def requestText (r : Request) : List Char :=
  structureText "Args"
    [("input", Text.quote r.input), ("output", Text.quote r.output),
     ("config", optionText r.config),
     ("fallback", (if r.fallback then "true" else "false").toList),
     ("log_level", Text.quote r.logLevel)]

/-- What is told before a request is carried out. -/
def openingRecords (r : Request) : List Record :=
  [⟨.info, front, "Starting mermaid-lite", [("log_level", r.verbosity.value.toList)]⟩,
   ⟨.debug, front, "Parsed arguments", [("args", requestText r)]⟩]

/-- What is told after a request has been carried out. -/
def closingRecord : Except Failure Unit → Record
  | .ok () => ⟨.info, front, "Completed successfully", []⟩
  | .error failure => ⟨.error, front, failure.report, []⟩

/-- What is told in a run. -/
def runRecords (look : Path → Found) (system : Option Path) (r : Request)
    (outcome : Except Failure Unit) : List Record :=
  openingRecords r ++ requestRecords look system r outcome ++ [closingRecord outcome]

/-! ## Runs -/

/-- How a run ends that has carried out a request. -/
def Outcome.ofRequest (look : Path → Found) (system : Option Path) (r : Request)
    (outcome : Except Failure Unit) : Outcome where
  exit := match outcome with
    | .ok () => 0
    | .error _ => 1
  stdout := []
  stderr := r.verbosityWarning.toList ++
    (r.verbosity.select (runRecords look system r outcome)).flatMap fun record =>
      record.text ++ ['\n']

/-- How a run ends that carries out no request. -/
def Outcome.ofAnswer : Asked → Outcome
  | .version => ⟨0, versionText.toList, []⟩
  | .help => ⟨0, helpText.toList, []⟩
  | .unclear fault => ⟨2, [], fault.text.toList⟩
  | .request _ => ⟨0, [], []⟩

/-- Runs the program with some arguments on a disk. -/
def run {workingFolder : Place} (system : Option Path) (arguments : List (List Char))
    (d : Disk workingFolder) : Outcome × Disk workingFolder :=
  match Asked.ofArguments arguments with
  | .request r =>
    (.ofRequest d.look system r (r.run system d).1, (r.run system d).2)
  | asked => (.ofAnswer asked, d)

/-- A run that does not end well leaves the disk as it was. -/
theorem run_disk_of_exit_ne_zero {workingFolder : Place} {system : Option Path}
    {arguments : List (List Char)} {d : Disk workingFolder}
    (h : (run system arguments d).1.exit ≠ 0) : (run system arguments d).2 = d := by
  cases ha : Asked.ofArguments arguments with
  | request r =>
    simp only [run, ha] at h ⊢
    cases hr : (r.run system d).1 with
    | error failure => exact run_error hr
    | ok _ => simp [Outcome.ofRequest, hr] at h
  | version => simp [run, ha]
  | help => simp [run, ha]
  | unclear fault => simp [run, ha]

end TextDiagram.Command
