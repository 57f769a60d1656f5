/-!
# Flow charts

A flow chart has nodes, in the order in which they were first mentioned, and edges between them. It
grows by mentions: of a node, perhaps with a label, and of an edge. Main statements: a mention of a
node adds at most its id, at the end (`ids_register`), and an edge is appended to the edges
(`edges_connect`).
-/

namespace TextDiagram.Flow

/-- The outline of a node, given by the brackets around its label. -/
inductive Shape
  /-- No brackets: the node has no label of its own. -/
  | bare
  /-- Square brackets. -/
  | square
  /-- Round brackets. -/
  | round
  /-- Doubled round brackets. -/
  | circle
  /-- Braces. -/
  | rhombus
  deriving DecidableEq, Repr

/-- The radius of the corners of the box that stands for a shape. -/
def Shape.cornerRadius : Shape → Nat
  | bare | square => 6
  | round => 16
  | circle => 28
  | rhombus => 2

/-- A node of a flow chart. -/
structure Node where
  /-- The name by which statements refer to the node. -/
  id : List Char
  /-- The text shown in the node. -/
  label : List Char
  /-- The outline that came with the label. -/
  shape : Shape
  deriving DecidableEq, Repr

/-- A directed edge between two nodes. -/
structure Edge where
  /-- The id of the node where the edge starts. -/
  source : List Char
  /-- The id of the node where the edge ends. -/
  target : List Char
  deriving DecidableEq, Repr

/-- Whether an edge leads back to the node where it starts. -/
def Edge.isLoop (e : Edge) : Bool :=
  e.source == e.target

namespace Node

/-- A node that is shown by its id. -/
def bare (id : List Char) : Node :=
  ⟨id, id, .bare⟩

/-- Whether a node is still shown by its id, so that a label may replace it. -/
def isUnlabelled (n : Node) : Bool :=
  n.label == n.id

/-- A node mentioned for the first time: its label and shape come together, or not at all. -/
def mentioned (id : List Char) (label : Option (List Char)) (shape : Shape) : Node :=
  match label with
  | none => bare id
  | some label => ⟨id, label, shape⟩

/-- A node mentioned again takes the label and the shape only while it is shown by its id. -/
def mentionedAgain (n : Node) (label : Option (List Char)) (shape : Shape) : Node :=
  match label with
  | none => n
  | some label => if n.isUnlabelled then { n with label, shape } else n

@[simp] theorem id_mentioned (id : List Char) (label : Option (List Char)) (shape : Shape) :
    (mentioned id label shape).id = id := by
  cases label <;> rfl

@[simp] theorem id_mentionedAgain (n : Node) (label : Option (List Char)) (shape : Shape) :
    (n.mentionedAgain label shape).id = n.id := by
  unfold mentionedAgain
  split
  · rfl
  · split <;> rfl

end Node

/-- A flow chart: its nodes in the order of their first mention, and its edges in order. -/
structure Chart where
  /-- The nodes. -/
  nodes : List Node
  /-- The edges. -/
  edges : List Edge
  deriving DecidableEq, Repr

/-- One step in the description of a flow chart. -/
inductive Mention
  /-- A node, with the label and the shape that are given for it. -/
  | node (id : List Char) (label : Option (List Char)) (shape : Shape)
  /-- An edge between two nodes. -/
  | edge (source target : List Char)
  deriving DecidableEq, Repr

namespace Chart

/-- The chart without nodes and edges. -/
def empty : Chart := ⟨[], []⟩

/-- The ids of the nodes, in order. -/
def ids (c : Chart) : List (List Char) :=
  c.nodes.map Node.id

/-- The node of an id. -/
def find? (c : Chart) (id : List Char) : Option Node :=
  c.nodes.find? fun n => n.id == id

/-- The position of a node among the nodes. -/
def index? (c : Chart) (id : List Char) : Option Nat :=
  c.nodes.findIdx? fun n => n.id == id

/-- Mentions a node. An empty label counts as none; a new node is added at the end, and a known one
takes a label only while it is shown by its id. -/
def register (c : Chart) (id : List Char) (label : Option (List Char)) (shape : Shape) : Chart :=
  let label := label.filter fun label => !label.isEmpty
  if c.ids.contains id then
    { c with nodes := c.nodes.map fun n =>
        if n.id = id then n.mentionedAgain label shape else n }
  else { c with nodes := c.nodes ++ [Node.mentioned id label shape] }

/-- Adds an edge. Its ends are mentioned first, so that they are nodes. -/
def connect (c : Chart) (source target : List Char) : Chart :=
  let c := (c.register source none .bare).register target none .bare
  { c with edges := c.edges ++ [⟨source, target⟩] }

/-- The chart after one more mention. -/
def mention (c : Chart) : Mention → Chart
  | .node id label shape => c.register id label shape
  | .edge source target => c.connect source target

/-- The chart that a list of mentions describes. -/
def ofMentions (mentions : List Mention) : Chart :=
  mentions.foldl mention empty

/-! ## What a mention adds -/

/-- A mention of a node adds its id at the end unless it is known. -/
theorem ids_register (c : Chart) (id : List Char) (label : Option (List Char)) (shape : Shape) :
    (c.register id label shape).ids = if c.ids.contains id then c.ids else c.ids ++ [id] := by
  unfold register
  split
  · simp only [ids, List.map_map]
    refine List.map_congr_left fun n _ => ?_
    simp only [Function.comp_apply]
    split <;> simp
  · simp [ids]

/-- The ids of a chart stay, and the one that is mentioned is among them. -/
theorem mem_ids_register {c : Chart} {id other : List Char} {label : Option (List Char)}
    {shape : Shape} : other ∈ (c.register id label shape).ids ↔ other ∈ c.ids ∨ other = id := by
  rw [ids_register]
  split
  · next h =>
    have hmem : id ∈ c.ids := by simpa using h
    exact ⟨Or.inl, fun h => h.elim (fun h => h) fun heq => heq ▸ hmem⟩
  · rw [List.mem_append, List.mem_singleton]

@[simp] theorem edges_register (c : Chart) (id : List Char) (label : Option (List Char))
    (shape : Shape) : (c.register id label shape).edges = c.edges := by
  unfold register
  split <;> rfl

/-- An edge is added at the end. -/
@[simp] theorem edges_connect (c : Chart) (source target : List Char) :
    (c.connect source target).edges = c.edges ++ [⟨source, target⟩] := by
  simp [connect]

/-- A node that is mentioned for the first time is added at the end. -/
theorem register_of_not_mem {c : Chart} {id : List Char} (h : id ∉ c.ids)
    (label : Option (List Char)) (shape : Shape) :
    c.register id label shape =
      { c with nodes := c.nodes ++
        [Node.mentioned id (label.filter fun label => !label.isEmpty) shape] } := by
  unfold register
  rw [if_neg (by simpa using h)]

/-- A known node that is mentioned without a label stays as it is. -/
theorem register_none_of_mem {c : Chart} {id : List Char} (h : id ∈ c.ids) (shape : Shape) :
    c.register id none shape = c := by
  unfold register
  rw [if_pos (by simpa using h)]
  simp [Node.mentionedAgain]

/-- An edge between known nodes only adds itself. -/
theorem connect_of_mem {c : Chart} {source target : List Char} (hs : source ∈ c.ids)
    (ht : target ∈ c.ids) :
    c.connect source target = { c with edges := c.edges ++ [⟨source, target⟩] } := by
  unfold connect
  rw [register_none_of_mem hs, register_none_of_mem ht]

end Chart

end TextDiagram.Flow
