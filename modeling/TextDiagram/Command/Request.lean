import TextDiagram.Command.Disk
import TextDiagram.ConfigFile
import TextDiagram.CodeBlock

/-!
# Requests

A request names a file with a source and a file for the result. It is carried out in two steps: the
result is prepared out of what can be read (`Request.prepare`), and written where nothing has gone
wrong (`Request.carryOut`). How files are written is left open there; on a disk, a request is carried
out by `Request.run`. Main statement: a request that fails leaves the disk as it was (`run_error`).
-/

namespace TextDiagram.Command

/-- What is asked of the program. -/
structure Request where
  /-- The path of the source. -/
  input : Path
  /-- The path of the result. -/
  output : Path := "out.svg".toList
  /-- The path of the configuration, if one is given. -/
  config : Option Path := none
  /-- Whether a source that does not become a picture is to be shown as code. -/
  fallback : Bool := false
  /-- The name of the verbosity of the journal. -/
  logLevel : List Char := "info".toList
  deriving DecidableEq, Repr

/-- Why there is no configuration. -/
inductive ConfigFault
  /-- The file that is given does not exist. -/
  | missing (path : Path)
  /-- The file is no configuration. -/
  | invalid
  deriving DecidableEq, Repr

/-- The wording of a fault in a configuration. -/
def ConfigFault.message : ConfigFault → String
  | missing path => "Missing configuration file: " ++ String.ofList path
  | invalid => "Failed to parse TOML configuration"

/-- Why a request fails. -/
inductive Failure
  /-- A file cannot be read or written. -/
  | file (fault : FileFault)
  /-- There is no configuration. -/
  | config (fault : ConfigFault)
  /-- The source does not become a picture. -/
  | render (fault : RenderError)
  deriving DecidableEq, Repr

/-! ## Configuration -/

/-- Where a configuration comes from. -/
inductive ConfigSource
  /-- From the file that is given. -/
  | given (path : Path)
  /-- From the file in the working folder. -/
  | workingFolder
  /-- From the file of the system. -/
  | system (path : Path)
  /-- From nowhere: it is the default. -/
  | default
  deriving DecidableEq, Repr

/-- The path of the configuration in the working folder. -/
def localConfig : Path := "mermaid-lite/config.toml".toList

/-- Where the configuration of a request comes from: from the file that is given, or else from the
first one that exists. -/
def Request.configSource (look : Path → Found) (system : Option Path) (r : Request) :
    ConfigSource :=
  match r.config with
  | some path => .given path
  | none =>
    if (look localConfig).isPresent then .workingFolder
    else
      match system with
      | some path => if (look path).isPresent then .system path else .default
      | none => .default

/-- The configuration in a file. -/
def readConfig (look : Path → Found) (path : Path) : Except Failure Config :=
  if !(look path).isPresent then .error (.config (.missing path))
  else
    match (look path).text with
    | .error fault => .error (.file fault)
    | .ok chars =>
      match Config.ofText? chars with
      | some config => .ok config
      | none => .error (.config .invalid)

/-- The configuration of a source. -/
def ConfigSource.load (look : Path → Found) : ConfigSource → Except Failure Config
  | given path | system path => readConfig look path
  | workingFolder => readConfig look localConfig
  | default => .ok {}

/-! ## Carrying out a request -/

/-- The text that is to be written. A picture that may be replaced by code does not heed the
configuration, which has to be in order all the same. -/
def Request.prepare (look : Path → Found) (system : Option Path) (r : Request) :
    Except Failure (List Char) := do
  let config ← (r.configSource look system).load look
  let source ← (look r.input).text.mapError .file
  if r.fallback then return display source
  else return (← (render config source).mapError .render).markup

/-- Carries out a request where files can be looked at and written. -/
def Request.carryOut {m : Type → Type} [Monad m] (look : Path → Found)
    (write : Path → List Char → m (Except FileFault Unit)) (system : Option Path) (r : Request) :
    m (Except Failure Unit) :=
  match r.prepare look system with
  | .error failure => pure (.error failure)
  | .ok chars => do return (← write r.output chars).mapError .file

section Disk

variable {workingFolder : Place} {system : Option Path} {r : Request} {d : Disk workingFolder}

/-- Carries out a request on a disk. -/
def Request.run (system : Option Path) (r : Request) (d : Disk workingFolder) :
    Except Failure Unit × Disk workingFolder :=
  (r.carryOut d.look Disk.writeStep system).run d

/-- A request of which no result can be prepared writes nothing. -/
theorem run_of_prepare_eq_error {failure : Failure} (h : r.prepare d.look system = .error failure) :
    r.run system d = (.error failure, d) := by
  unfold Request.run Request.carryOut
  rw [h]
  rfl

/-- A request of which the result is prepared ends as the writing of it does. -/
theorem run_of_prepare_eq_ok {chars : List Char} (h : r.prepare d.look system = .ok chars) :
    r.run system d =
      match d.write r.output chars with
      | .error fault => (.error (.file fault), d)
      | .ok written => (.ok (), written) := by
  unfold Request.run Request.carryOut
  rw [h]
  show ((Disk.writeStep r.output chars d).1.mapError Failure.file,
    (Disk.writeStep r.output chars d).2) = _
  unfold Disk.writeStep
  cases d.write r.output chars with
  | error fault => rfl
  | ok written => rfl

/-- A request that fails leaves the disk as it was. -/
theorem run_error {failure : Failure} (h : (r.run system d).1 = .error failure) :
    (r.run system d).2 = d := by
  cases hprepare : r.prepare d.look system with
  | error fault => rw [run_of_prepare_eq_error hprepare]
  | ok chars =>
    rw [run_of_prepare_eq_ok hprepare] at h ⊢
    cases hwrite : d.write r.output chars with
    | error fault => rfl
    | ok written =>
      rw [hwrite] at h
      cases h

end Disk

end TextDiagram.Command
