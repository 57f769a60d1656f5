import TextDiagram.Picture

/-!
# Code blocks

A source that does not become a picture can still be shown: as a block of code, in which its
characters are escaped. Main statements: a source that becomes a picture is shown by it
(`display_eq_markup`), and any other as code (`display_eq_codeBlock`).
-/

namespace TextDiagram

/-- A source does not become a picture; the reason is not told. -/
structure Unrenderable where
  deriving DecidableEq, Repr

/-- The wording. -/
def Unrenderable.message (_ : Unrenderable) : String :=
  "diagram source is not renderable"

/-- The picture that a source describes, with the default configuration. -/
def picture (source : List Char) : Except Unrenderable Picture :=
  (render {} source).mapError fun _ => ⟨⟩

/-- What opens a block of code. -/
def codeBlockOpening : List Char :=
  "<pre><code class=\"language-mermaid\">".toList

/-- What closes a block of code. -/
def codeBlockClosing : List Char :=
  "</code></pre>".toList

/-- A source as a block of code. -/
def codeBlock (source : List Char) : List Char :=
  codeBlockOpening ++ Svg.escape source ++ codeBlockClosing

/-- The picture that a source describes, or else the source as a block of code. -/
def display (source : List Char) : List Char :=
  match picture source with
  | .ok picture => picture.markup
  | .error _ => codeBlock source

/-- A source that becomes a picture is shown by it. -/
theorem display_eq_markup {source : List Char} {p : Picture} (h : picture source = .ok p) :
    display source = p.markup := by
  simp [display, h]

/-- A source that does not become a picture is shown as code. -/
theorem display_eq_codeBlock {source : List Char} {e : Unrenderable}
    (h : picture source = .error e) : display source = codeBlock source := by
  simp [display, h]

end TextDiagram
