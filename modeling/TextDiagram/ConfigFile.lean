import TextDiagram.Picture
import TextDiagram.Toml.Document

/-!
# Configuration files

A configuration file is a document with a table of styles, in which the colour of the background may
be given. Other keys do not count, but their numbers have to be within bounds. The styles may also be
given as a list, in the order of their names; then the background is its first item, and what
follows does not count at all.
-/

namespace TextDiagram.Config

open Toml

/-- The background, which has to be a text where it is given. -/
def ofBackground? : Option Value → Option Config
  | none => some ⟨none⟩
  | some (.string chars) => some ⟨some chars⟩
  | some _ => none

/-- The configuration of a value for the styles. A date has no item of a known name. -/
def ofStyle? : Value → Option Config
  | .table _ entries =>
    if areEntriesBounded entries then ofBackground? (entries.lookup "background_color".toList)
    else none
  | .array items => ofBackground? items.head?
  | .tables items => ofBackground? (items.head?.map fun entries => .table .header entries)
  | .datetime _ => some ⟨none⟩
  | _ => none

/-- The configuration of a document. -/
def ofTable? (t : Table) : Option Config :=
  if areEntriesBounded (t.filter fun (key, _) => key != "style".toList) then
    match t.get? "style".toList with
    | none => some ⟨none⟩
    | some style => ofStyle? style
  else none

/-- The configuration that a text describes. -/
def ofText? (t : List Char) : Option Config :=
  (parse t).bind ofTable?

end TextDiagram.Config
