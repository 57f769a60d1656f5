import TextDiagram.Command.Program

/-!
# The command line

The outermost layer: it looks at the files that a request names, lets the library prepare the
result, writes it, and prints what the library has to say.
-/

namespace TextDiagram.Command

/-- Whether an error of the system has a number, of which the sign does not count. -/
def hasNumber (code number : UInt32) : Bool :=
  code == number || code == 0 - number

/-- The fault that an error of the system stands for. -/
def faultOf : IO.Error → FileFault
  | .noFileOrDirectory .. => .missing
  | .noSuchThing .. => .missing
  | .inappropriateType _ code details =>
    if hasNumber code 20 then .notFolder
    else if hasNumber code 21 then .isFolder
    else .other details.toList
  | e => .other e.toString.toList

/-- Looks at the file or folder of a path. -/
def lookAt (path : Path) : IO Found := do
  if path.contains '\x00' then return .nothing .nulInPath
  try
    let bytes ← IO.FS.readBinFile (String.ofList path)
    return .file (.ofBytes bytes.toList)
  catch e =>
    match faultOf e with
    | .isFolder => return .folder
    | fault => return .nothing fault

/-- Writes a text to the file of a path. -/
def writeTo (path : Path) (chars : List Char) : IO (Except FileFault Unit) := do
  if path.contains '\x00' then return .error .nulInPath
  try
    IO.FS.writeFile (String.ofList path) (String.ofList chars)
    return .ok ()
  catch e => return .error (faultOf e)

/-- The path of the configuration of the system, if there is a folder for it. -/
def systemConfig? : IO (Option Path) := do
  let file := "/mermaid-lite/config.toml"
  match ← IO.getEnv "XDG_CONFIG_HOME" with
  | some folder => return some (folder ++ file).toList
  | none => return (← IO.getEnv "HOME").map fun home => (home ++ "/.config" ++ file).toList

/-- Carries out a request on the files of the system. -/
def Request.runOnSystem (system : Option Path) (r : Request) : IO Outcome := do
  let paths := r.input :: localConfig :: (r.config.toList ++ system.toList)
  let found ← paths.mapM fun path => do return (path, ← lookAt path)
  let look (path : Path) : Found := (found.lookup path).getD (.nothing .missing)
  let outcome ← r.carryOut look writeTo system
  return .ofRequest look system r outcome

end TextDiagram.Command

open TextDiagram.Command in
/-- Runs the program. -/
def main (arguments : List String) : IO UInt32 := do
  let outcome ← match Asked.ofArguments (arguments.map String.toList) with
    | .request r => r.runOnSystem (← systemConfig?)
    | asked => pure (.ofAnswer asked)
  (← IO.getStdout).putStr (String.ofList outcome.stdout)
  (← IO.getStderr).putStr (String.ofList outcome.stderr)
  return outcome.exit.toUInt32
