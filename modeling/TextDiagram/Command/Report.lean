import TextDiagram.Command.Request
import TextDiagram.Text.Quoted

/-!
# Reports of failures

A failure is reported with a code that tells its kind, a message, the cause behind the message if
there is one, and, for some sources that describe no diagram, with help.
-/

namespace TextDiagram.Command

/-- The code of a source that describes no diagram. -/
def sourceCode : SourceError → String
  | .empty => "mermaid_lite::parse::empty_source"
  | .unrecognized _ => "mermaid_lite::parse::unrecognized"
  | .noNodes => "mermaid_lite::parse::no_nodes"
  | .noParticipants => "mermaid_lite::parse::no_participants"
  | .noMessages => "mermaid_lite::parse::no_messages"

/-- What would make a diagram of a source, where that can be told. -/
def sourceHelp? : SourceError → Option String
  | .empty => none
  | .unrecognized _ =>
    some <| "start the diagram with `flowchart`, `graph` or `sequenceDiagram`, " ++
      "or pass `--fallback` to emit it as a code block"
  | .noNodes => some "declare at least one node, for example `A[Start] --> B`"
  | .noParticipants | .noMessages =>
    some "add at least one message, for example `Alice->>Bob: Hello`"

/-- The fault of a source in full. -/
def sourceText : SourceError → List Char
  | .empty => "EmptySource".toList
  | .unrecognized opening =>
    "Unrecognized \x7b header: ".toList ++ Text.quote opening ++ " \x7d".toList
  | .noNodes => "NoNodes".toList
  | .noParticipants => "NoParticipants".toList
  | .noMessages => "NoMessages".toList

namespace Failure

/-- The code that tells the kind of a failure. -/
def code : Failure → String
  | file _ | config _ => "mermaid_lite::io"
  | render (.source fault) => sourceCode fault
  | render (.layout _) => "mermaid_lite::layout"
  | render (.background _ _) => "mermaid_lite::export"

/-- The wording of a failure. -/
def message : Failure → String
  | file fault => "I/O error: " ++ fault.message
  | config fault => "I/O error: " ++ fault.message
  | render fault => fault.message

/-- The cause behind a failure, where there is one. -/
def cause? : Failure → Option String
  | file fault => some fault.message
  | config fault => some fault.message
  | render (.source fault) => some fault.message
  | render _ => none

/-- What would mend a failure, where that can be told. -/
def help? : Failure → Option String
  | render (.source fault) => sourceHelp? fault
  | _ => none

/-- A failure in full, where the source describes no diagram. -/
def detail? : Failure → Option (List Char)
  | render (.source fault) => some ("Parse(".toList ++ sourceText fault ++ [')'])
  | _ => none

/-- A line of a report, if there is something to tell. -/
def reportLine (mark : String) : Option String → String
  | none => ""
  | some s => "  " ++ mark ++ " " ++ s ++ "\n"

/-- A failure as a text of several lines. -/
def report (f : Failure) : String :=
  f.code ++ "\n\n" ++ reportLine "x" (some f.message) ++ reportLine "`->" f.cause? ++
    reportLine "help:" f.help?

end Failure

end TextDiagram.Command
