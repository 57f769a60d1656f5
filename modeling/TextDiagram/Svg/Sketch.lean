import TextDiagram.Svg.Node

/-!
# Sketches

A picture is drawn in layers, each of which covers those below it. A sketch collects nodes with the
layers on which they lie. To be shown, the nodes are sorted by their layers and then gathered, one
group for each layer that holds a node. Main statement: drawing two sketches one after the other
keeps, on each layer, first the nodes of the one and then those of the other (`on_append`).
-/

namespace TextDiagram.Svg

/-- A layer of a picture. -/
inductive Layer
  /-- The fill of the whole picture. -/
  | background
  /-- The lifelines of participants. -/
  | lifeline
  /-- The arrows of edges and messages. -/
  | arrow
  /-- The boxes of nodes and participants. -/
  | content
  /-- The labels. -/
  | text
  deriving DecidableEq, Repr

namespace Layer

/-- The layers from the bottom up. -/
def all : List Layer :=
  [background, lifeline, arrow, content, text]

/-- The name of a layer in the markup. -/
def name : Layer → String
  | background => "background"
  | lifeline => "lifeline"
  | arrow => "arrow"
  | content => "content"
  | text => "text"

/-- The number of layers below a layer. -/
def height : Layer → Nat
  | background => 0
  | lifeline => 1
  | arrow => 2
  | content => 3
  | text => 4

/-- Every layer is among the layers. -/
theorem mem_all (layer : Layer) : layer ∈ all := by
  cases layer <;> decide

end Layer

/-- Nodes with the layers on which they lie, in the order in which they were drawn. -/
structure Sketch (α : Type) where
  /-- The nodes and their layers. -/
  items : List (Layer × Node α)

namespace Sketch

variable {α : Type}

/-- The sketch without nodes. -/
def empty : Sketch α := ⟨[]⟩

/-- One node on a layer. -/
def single (layer : Layer) (node : Node α) : Sketch α := ⟨[(layer, node)]⟩

/-- Two sketches drawn one after the other. -/
protected def append (s t : Sketch α) : Sketch α := ⟨s.items ++ t.items⟩

instance : Append (Sketch α) := ⟨Sketch.append⟩

/-- Several sketches drawn one after the other. -/
def join (sketches : List (Sketch α)) : Sketch α :=
  sketches.foldl (· ++ ·) empty

/-- The number of nodes. -/
def size (s : Sketch α) : Nat := s.items.length

/-- The nodes on a layer, in the order in which they were drawn. -/
def on (s : Sketch α) (layer : Layer) : List (Node α) :=
  (s.items.filter fun item => item.1 = layer).map Prod.snd

/-- The number of nodes on a layer. -/
def count (s : Sketch α) (layer : Layer) : Nat :=
  (s.items.filter fun item => item.1 = layer).length

/-- The group of some nodes on a layer. -/
def group (layer : Layer) (nodes : List (Node α)) : Node α :=
  .element "g" [("data-layer", .text layer.name.toList)] nodes

/-- The nodes and their layers from the bottom up. On a layer, the nodes keep the order in which they
were drawn. -/
def sorted (s : Sketch α) : List (Layer × Node α) :=
  s.items.mergeSort fun item other => decide (item.1.height ≤ other.1.height)

/-- Gathers nodes in groups, beginning with the group of some nodes on a layer: a node on the same
layer joins the group, and any other ends it and begins the group of its own layer. -/
def gather (layer : Layer) (nodes : List (Node α)) : List (Layer × Node α) → List (Node α)
  | [] => [group layer nodes]
  | (next, node) :: items =>
    if next = layer then gather layer (nodes ++ [node]) items
    else group layer nodes :: gather next [node] items

/-- The groups of the layers that hold a node, from the bottom up. -/
def groups (s : Sketch α) : List (Node α) :=
  match s.sorted with
  | [] => []
  | item :: items => gather item.1 [] (item :: items)

/-! ## Nodes on a layer -/

@[simp] theorem items_append (s t : Sketch α) : (s ++ t).items = s.items ++ t.items := rfl

theorem on_single (layer other : Layer) (node : Node α) :
    (single layer node).on other = if layer = other then [node] else [] := by
  by_cases h : layer = other <;> simp [single, on, h]

/-- On each layer, the nodes of the first sketch come before those of the second. -/
@[simp] theorem on_append (s t : Sketch α) (layer : Layer) :
    (s ++ t).on layer = s.on layer ++ t.on layer := by
  simp [on]

end Sketch

end TextDiagram.Svg
