import TextDiagram.Command.Report
import TextDiagram.Journal.Drawing

/-!
# The journal of a request

Carrying out a request tells where the configuration comes from, what happens while the source is
read and drawn, and that the result is written.
-/

namespace TextDiagram.Command

open Journal

/-- The part that carries out requests. -/
def runner : String := "mermaid_lite_cli"

/-- The part that looks for configurations. -/
def configReader : String := "mermaid_lite_cli::config"

/-- What is told of the file that a configuration comes from. -/
def loadingRecord (place : String) (path : Path) : Record :=
  ⟨.info, configReader, "Loading configuration from " ++ place ++ " path", [("path", path)]⟩

/-- What is told of the search for a configuration. -/
def searchRecords (system : Option Path) : ConfigSource → List Record
  | .given path => [loadingRecord "explicit" path]
  | .workingFolder => [loadingRecord "local" localConfig]
  | .system path => [loadingRecord "system" path]
  | .default =>
    [match system with
      | some path =>
        ⟨.debug, configReader, "System configuration file not found", [("path", path)]⟩
      | none =>
        ⟨.debug, configReader, "Could not determine platform-specific config directory", []⟩,
     ⟨.debug, configReader, "No configuration file found, using default configuration", []⟩]

/-- What is told of the source, if it can be read. -/
def sourceRecords (look : Path → Found) (config : Config) (r : Request) : List Record :=
  match (look r.input).text with
  | .error _ => []
  | .ok source => if r.fallback then displayRecords source else renderRecords config source

/-- What is told before the result is written. -/
def preparationRecords (look : Path → Found) (system : Option Path) (r : Request) : List Record :=
  let origin := r.configSource look system
  ⟨.info, runner, "Processing diagram", [("input_path", r.input), ("output_path", r.output)]⟩ ::
    searchRecords system origin ++
      match origin.load look with
      | .error _ => []
      | .ok config => sourceRecords look config r

/-- What is told while a request is carried out, with the outcome that it has. -/
def requestRecords (look : Path → Found) (system : Option Path) (r : Request)
    (outcome : Except Failure Unit) : List Record :=
  preparationRecords look system r ++
    match outcome with
    | .error _ => []
    | .ok () =>
      [⟨.info, runner, "Output written successfully", [("output_file", r.output)]⟩]

end TextDiagram.Command
