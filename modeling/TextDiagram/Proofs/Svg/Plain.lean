import Mathlib.Data.List.Nodup
import TextDiagram.Proofs.Lists
import TextDiagram.Proofs.Svg.Mark

/-!
# Plain trees

A tree is plain if its names are those of pictures, its spans hold a line each, no value of an
attribute holds an equals sign, and no line holds anything that opens or closes markup
(`Node.IsPlain`). Main statements: in the
markup of a plain tree, tags open as often as the tree has elements (`occurrences_opening`), and an
attribute has the values that it has in the tree, in order (`occurring_values`).
-/

namespace TextDiagram.Svg

open Text

/-- The names of the elements of pictures. -/
def elementNames : List String :=
  ["svg", "defs", "marker", "path", "g", "rect", "line", "text", "tspan"]

/-- The names of the attributes that tell the parts of a picture apart. -/
def tellingNames : List String := ["class", "marker-end", "data-layer"]

/-- The names of the attributes in pictures. -/
def attributeNames : List String :=
  tellingNames ++ ["d", "dominant-baseline", "fill", "font-family", "font-size", "height", "id",
    "markerHeight", "markerWidth", "orient", "refX", "refY", "rx", "stroke", "stroke-dasharray",
    "stroke-width", "text-anchor", "viewBox", "width", "x", "x1", "x2", "xmlns", "y", "y1", "y2"]

theorem isName_of_mem {name : String} (h : name ∈ elementNames ++ attributeNames) :
    isName name = true := by
  have hall : (elementNames ++ attributeNames).all isName = true := by decide +kernel
  exact List.all_eq_true.mp hall name h

/-- The name of no element begins with that of another. -/
theorem eq_of_prefix_elementName {name other : String} (hname : name ∈ elementNames)
    (hother : other ∈ elementNames) (h : name.toList <+: other.toList) : other = name := by
  have hall : (elementNames.all fun name => elementNames.all fun other =>
      !name.toList.isPrefixOf other.toList || other == name) = true := by decide +kernel
  have hpair := List.all_eq_true.mp (List.all_eq_true.mp hall name hname) other hother
  rw [List.isPrefixOf_iff_prefix.mpr h] at hpair
  simpa using hpair

/-- The name of no attribute ends with that of another one which tells parts apart. -/
theorem eq_of_suffix_attributeName {key other : String} (hkey : key ∈ tellingNames)
    (hother : other ∈ attributeNames) (h : key.toList <:+ other.toList) : other = key := by
  have hall : (tellingNames.all fun key => attributeNames.all fun other =>
      !key.toList.isSuffixOf other.toList || other == key) = true := by decide +kernel
  have hpair := List.all_eq_true.mp (List.all_eq_true.mp hall key hkey) other hother
  rw [List.isSuffixOf_iff_suffix.mpr h] at hpair
  simpa using hpair

section Plain

variable {α : Type} (number : α → List Char)

namespace Node

/-- A node is plain: names are those of pictures, a span holds one line, no value holds an equals
sign, and a line holds nothing that opens or closes markup. -/
def IsPlainAlone : Node α → Prop
  | .line chars => IsQuiet chars
  | .element name attributes children => (name ∈ elementNames ∧
      (name = "tspan" → ∃ chars, children = [.line chars])) ∧
    ∀ entry ∈ attributes, entry.1 ∈ attributeNames ∧ '=' ∉ entry.2.print number

/-- All nodes of a tree are plain. -/
def IsPlain (node : Node α) : Prop :=
  ∀ n ∈ node.subnodes, n.IsPlainAlone number

/-- The name of an element. -/
def name? : Node α → Option String
  | .line _ => none
  | .element name _ _ => some name

/-- The names of the elements of a tree, each before those of its children. -/
def names (node : Node α) : List String :=
  node.subnodes.filterMap name?

/-- The values of an attribute as an element prints them. -/
def valuesAlone (key : String) : Node α → List (List Char)
  | .line _ => []
  | .element _ attributes _ =>
    (attributes.filter fun entry => entry.1 = key).map fun entry => escape (entry.2.print number)

/-- The values of an attribute in a tree, each before those in the children. -/
def values (key : String) (node : Node α) : List (List Char) :=
  node.subnodes.flatMap (valuesAlone number key)

variable {name : String} {attributes : List (String × Value α)} {children : List (Node α)}

theorem isPlain_element_iff : (Node.element name attributes children).IsPlain number ↔
    ((name ∈ elementNames ∧ (name = "tspan" → ∃ chars, children = [.line chars])) ∧
      ∀ entry ∈ attributes, entry.1 ∈ attributeNames ∧ '=' ∉ entry.2.print number) ∧
    ∀ child ∈ children, child.IsPlain number := by
  unfold IsPlain
  rw [subnodes_element, List.forall_mem_cons]
  refine and_congr Iff.rfl ?_
  simp only [List.mem_flatMap]
  constructor
  · intro h child hchild n hn
    exact h n ⟨child, hchild, hn⟩
  · rintro h n ⟨child, hchild, hn⟩
    exact h child hchild n hn

theorem isPlain_childless (hname : name ∈ elementNames) (hspan : name ≠ "tspan")
    (h : ∀ entry ∈ attributes, entry.1 ∈ attributeNames ∧ '=' ∉ entry.2.print number) :
    (Node.element name attributes []).IsPlain number :=
  (isPlain_element_iff number).mpr
    ⟨⟨⟨hname, fun heq => absurd heq hspan⟩, h⟩, fun _ hchild => absurd hchild List.not_mem_nil⟩

theorem isPlain_line_iff {chars : List Char} :
    (Node.line chars : Node α).IsPlain number ↔ IsQuiet chars := by
  unfold IsPlain
  rw [subnodes_line, List.forall_mem_singleton]
  rfl

@[simp] theorem names_line (chars : List Char) : (Node.line chars : Node α).names = [] := rfl

@[simp] theorem names_element : (Node.element name attributes children).names =
    name :: children.flatMap names := by
  unfold names
  rw [subnodes_element, List.filterMap_cons_some (by rfl), List.filterMap_flatMap]

@[simp] theorem values_line (key : String) (chars : List Char) :
    (Node.line chars : Node α).values number key = [] := rfl

@[simp] theorem values_element (key : String) :
    (Node.element name attributes children).values number key =
      ((attributes.filter fun entry => entry.1 = key).map
        fun entry => escape (entry.2.print number)) ++ children.flatMap (values number key) := by
  unfold values
  rw [subnodes_element, List.flatMap_cons, List.flatMap_assoc]
  rfl

end Node

/-! ## Opened tags -/

/-- The opening of a tag. -/
def opening (name : String) : List Char := '<' :: name.toList

theorem isMark_opening {name : String} (h : isName name = true) : isMark (opening name) = true := by
  have htag : '<' ∉ name.toList := not_mem_of_isName h rfl
  have hinner : ∀ c ∈ [' ', '\n', '/', '>'], c ∉ opening name := by
    intro c hc hmem
    simp only [List.mem_cons, List.not_mem_nil, or_false] at hc
    rcases List.mem_cons.mp hmem with rfl | hmem
    · exact absurd hc (by decide)
    · rcases hc with rfl | rfl | rfl | rfl <;> exact not_mem_of_isName h rfl hmem
  have hne : name.toList.isEmpty = false := by
    simpa using (Bool.and_eq_true_iff.mp h).1
  have hall : [' ', '\n', '/', '>'].all (fun c => !(opening name).contains c) = true :=
    List.all_eq_true.mpr fun c hc => by simpa using hinner c hc
  unfold isMark
  rw [hall]
  simp [opening, htag, hne]

/-- In the markup of a plain tree, tags open as often as the tree has elements. -/
theorem occurring_opening {name : String} (hname : name ∈ elementNames) {node : Node α}
    (h : node.IsPlain number) : occurring [opening name] (node.print number) =
      (node.names.filter fun other => other = name).map opening := by
  have hmarks : ∀ known ∈ [opening name], isMark known = true := by
    intro known hknown
    rw [List.mem_singleton.mp hknown]
    exact isMark_opening (isName_of_mem (List.mem_append_left _ hname))
  induction node using Node.induct with
  | line chars => exact occurring_of_isQuiet hmarks ((Node.isPlain_line_iff number).mp h)
  | element other attributes children ih =>
    obtain ⟨⟨⟨hother, -⟩, hattributes⟩, hchildren⟩ := (Node.isPlain_element_iff number).mp h
    have hisName : isName other = true := isName_of_mem (List.mem_append_left _ hother)
    have hhead : occurring [opening name] ('<' :: other.toList) =
        if other = name then [opening name] else [] := by
      have htail : occurring [opening name] other.toList = [] :=
        occurring_eq_nil_of_not_mem hmarks (not_mem_of_isName hisName rfl)
          (not_mem_of_isName hisName rfl)
      have hiff : (opening name).isPrefixOf ('<' :: other.toList) = true ↔ other = name := by
        rw [List.isPrefixOf_iff_prefix, opening, List.cons_prefix_cons]
        constructor
        · exact fun hp => eq_of_prefix_elementName hname hother hp.2
        · rintro rfl
          exact ⟨rfl, List.prefix_rfl⟩
      rw [occurring_cons, htail, List.append_nil]
      simp only [List.filter_cons, List.filter_nil, hiff]
    -- within attributes all brackets are escaped
    have hinner : (attributes.flatMap fun entry =>
        occurring [opening name] (printAttribute number entry)) = [] := by
      rw [List.flatMap_eq_nil_iff]
      intro entry hentry
      have hkey := isName_of_mem (List.mem_append_right _ (hattributes entry hentry).1)
      exact occurring_singleton_eq_nil (List.mem_cons_self ..)
        (not_mem_printAttribute number hkey (by simp))
    have hbelow : (children.flatMap fun child => occurring [opening name] (child.print number)) =
        children.flatMap fun child =>
          (child.names.filter fun other => other = name).map opening :=
      List.flatMap_congr fun child hchild => ih child hchild (hchildren child hchild)
    rw [occurring_print_element hmarks number hisName, hhead, hinner, hbelow, List.append_nil,
      Node.names_element, List.filter_cons, List.filter_flatMap]
    by_cases heq : other = name
    · rw [if_pos heq, if_pos (by simpa using heq), heq, List.map_cons, List.map_flatMap]
      rfl
    · rw [if_neg heq, if_neg (by simpa using heq), List.nil_append, List.map_flatMap]

theorem occurrences_opening {name : String} (hname : name ∈ elementNames) {node : Node α}
    (h : node.IsPlain number) :
    occurrences (opening name) (node.print number) = node.names.count name := by
  rw [occurrences, occurring_opening number hname h, List.length_map, List.count_eq_length_filter]
  rfl

/-! ## Values of attributes -/

/-- The name of an attribute with what follows it. -/
def assignment (key : String) (rest : List Char) : List Char :=
  key.toList ++ '=' :: '"' :: rest

theorem assignment_append (key : String) (rest more : List Char) :
    assignment key (rest ++ more) = assignment key rest ++ more := by
  unfold assignment
  rw [List.append_assoc]
  rfl

theorem quote_mem_assignment (key : String) (rest : List Char) : '"' ∈ assignment key rest := by
  simp [assignment]

/-- An attribute that tells parts apart occurs in the text of an attribute if it is that one. -/
theorem occurring_printAttribute {key : String} (hkey : key ∈ tellingNames)
    (rests : List (List Char)) {entry : String × Value α} (hentry : entry.1 ∈ attributeNames)
    (hvalue : '=' ∉ entry.2.print number) :
    occurring (rests.map (assignment key)) (printAttribute number entry) =
      if entry.1 = key then (rests.filter fun rest =>
        rest.isPrefixOf (escape (entry.2.print number) ++ ['"'])).map (assignment key)
      else [] := by
  have hisName : isName entry.1 = true := isName_of_mem (List.mem_append_right _ hentry)
  have hsplit : printAttribute number entry = (' ' :: entry.1.toList) ++
      '=' :: ('"' :: (escape (entry.2.print number) ++ ['"'])) := by
    simp [printAttribute]
  have hassignments : rests.map (assignment key) =
      (rests.map fun rest => '"' :: rest).map fun v => key.toList ++ '=' :: v := by
    rw [List.map_map]
    rfl
  have hbefore : '=' ∉ ' ' :: entry.1.toList := by
    rw [List.mem_cons, not_or]
    exact ⟨by decide, not_mem_of_isName hisName rfl⟩
  have hbehind : '=' ∉ '"' :: (escape (entry.2.print number) ++ ['"']) := by
    have hescape := equals_not_mem_escape hvalue
    simp [hescape]
  have hiff : key.toList <:+ ' ' :: entry.1.toList ↔ entry.1 = key := by
    rw [List.suffix_cons_iff]
    constructor
    · rintro (h | h)
      · have hspace : ' ' ∉ key.toList :=
          not_mem_of_isName (isName_of_mem (List.mem_append_right _ (List.mem_append_left _ hkey))) rfl
        rw [h] at hspace
        exact absurd (List.mem_cons_self ..) hspace
      · exact eq_of_suffix_attributeName hkey hentry h
    · rintro rfl
      exact Or.inr List.suffix_rfl
  rw [hsplit, hassignments, occurring_across _ _ hbefore hbehind]
  simp only [hiff]
  rw [List.filter_map, List.map_map]
  rfl

/-- In the markup of a plain tree, an attribute that tells parts apart begins with what its values in
the tree begin with, in order. -/
theorem occurring_assignment {key : String} (hkey : key ∈ tellingNames) {rests : List (List Char)}
    (hrests : ∀ rest ∈ rests, isMark (assignment key rest) = true) {node : Node α}
    (h : node.IsPlain number) : occurring (rests.map (assignment key)) (node.print number) =
      (node.values number key).flatMap fun value =>
        (rests.filter fun rest => rest.isPrefixOf (value ++ ['"'])).map (assignment key) := by
  have hmarks : ∀ known ∈ rests.map (assignment key), isMark known = true := by
    intro known hknown
    obtain ⟨rest, hrest, rfl⟩ := List.mem_map.mp hknown
    exact hrests rest hrest
  induction node using Node.induct with
  | line chars => exact occurring_of_isQuiet hmarks ((Node.isPlain_line_iff number).mp h)
  | element name attributes children ih =>
    obtain ⟨⟨⟨hname, -⟩, hattributes⟩, hchildren⟩ := (Node.isPlain_element_iff number).mp h
    have hisName : isName name = true := isName_of_mem (List.mem_append_left _ hname)
    -- the name of the tag holds no quote
    have hhead : occurring (rests.map (assignment key)) ('<' :: name.toList) = [] := by
      refine occurring_eq_nil fun known hknown => ?_
      obtain ⟨rest, -, rfl⟩ := List.mem_map.mp hknown
      refine ⟨'"', quote_mem_assignment key rest, ?_⟩
      rw [List.mem_cons, not_or]
      exact ⟨by decide, not_mem_of_isName hisName rfl⟩
    have hinner := List.flatMap_congr fun entry hentry =>
      occurring_printAttribute number hkey rests (hattributes entry hentry).1
        (hattributes entry hentry).2
    have hbelow := List.flatMap_congr fun child hchild => ih child hchild (hchildren child hchild)
    rw [occurring_print_element hmarks number hisName, hhead, hinner, hbelow, List.nil_append,
      flatMap_ite, Node.values_element, List.flatMap_append, List.flatMap_assoc, List.flatMap_map]

theorem quote_not_mem_values {key : String} {node : Node α} {value : List Char}
    (h : value ∈ node.values number key) : '"' ∉ value := by
  unfold Node.values at h
  obtain ⟨n, -, hvalue⟩ := List.mem_flatMap.mp h
  cases n with
  | line chars => exact absurd hvalue List.not_mem_nil
  | element name attributes children =>
    obtain ⟨entry, -, rfl⟩ := List.mem_map.mp hvalue
    exact not_mem_escape (by simp) _

/-- Of some different values, a value with the quote behind it begins with itself only. -/
theorem filter_isPrefixOf_quoted {known : List (List Char)} (hnodup : known.Nodup)
    {value : List Char} (hvalue : '"' ∉ value) :
    (known.filter fun v => (v ++ ['"']).isPrefixOf (value ++ ['"'])) =
      if value ∈ known then [value] else [] := by
  have hiff : ∀ v ∈ known, (v ++ ['"']).isPrefixOf (value ++ ['"']) = (v == value) := by
    intro v _
    rw [Bool.eq_iff_iff, List.isPrefixOf_iff_prefix, beq_iff_eq,
      append_cons_prefix_iff hvalue List.not_mem_nil]
    simp
  rw [List.filter_congr hiff, List.filter_beq]
  split
  · next hmem => rw [List.count_eq_one_of_mem hnodup hmem, List.replicate_one]
  · next hmem => rw [List.count_eq_zero_of_not_mem hmem, List.replicate_zero]

/-- Whole values occur in the markup of a plain tree as they do in the tree, in order. -/
theorem occurring_values {key : String} (hkey : key ∈ tellingNames) {known : List (List Char)}
    (hnodup : known.Nodup) (hmark : ∀ v ∈ known, isMark (assignment key (v ++ ['"'])) = true)
    {node : Node α} (h : node.IsPlain number) :
    occurring (known.map fun v => assignment key (v ++ ['"'])) (node.print number) =
      ((node.values number key).filter fun value => value ∈ known).map
        fun v => assignment key (v ++ ['"']) := by
  have hmarks : ∀ rest ∈ known.map (· ++ ['"']), isMark (assignment key rest) = true := by
    intro rest hrest
    obtain ⟨v, hv, rfl⟩ := List.mem_map.mp hrest
    exact hmark v hv
  have hquoted : (known.map fun v => assignment key (v ++ ['"'])) =
      (known.map (· ++ ['"'])).map (assignment key) := by
    rw [List.map_map]
    rfl
  have heach : ∀ value ∈ node.values number key,
      ((known.map (· ++ ['"'])).filter fun rest => rest.isPrefixOf (value ++ ['"'])).map
        (assignment key) = if value ∈ known then [assignment key (value ++ ['"'])] else [] := by
    intro value hvalue
    have hfilter := filter_isPrefixOf_quoted hnodup (quote_not_mem_values number hvalue)
    rw [List.filter_map]
    show ((known.filter fun v => (v ++ ['"']).isPrefixOf (value ++ ['"'])).map (· ++ ['"'])).map
      (assignment key) = _
    rw [hfilter]
    split <;> rfl
  rw [hquoted, occurring_assignment number hkey hmarks h, List.flatMap_congr heach, flatMap_ite,
    List.map_eq_flatMap]

/-- An attribute has a value in the markup of a plain tree as often as in the tree. -/
theorem occurrences_value {key : String} (hkey : key ∈ tellingNames) {value : List Char}
    (hmark : isMark (assignment key (value ++ ['"'])) = true) {node : Node α}
    (h : node.IsPlain number) : occurrences (assignment key (value ++ ['"'])) (node.print number) =
      (node.values number key).count value := by
  have hvalues := occurring_values number hkey (List.nodup_singleton value)
    (List.forall_mem_singleton.mpr hmark) h
  show (occurring ([value].map fun v => assignment key (v ++ ['"'])) _).length = _
  rw [hvalues, List.length_map, List.count_eq_length_filter]
  refine congrArg List.length (List.filter_congr fun other _ => ?_)
  rw [Bool.eq_iff_iff]
  simp

/-- An attribute occurs in the markup of a plain tree as often as it has a value in the tree. -/
theorem occurrences_key {key : String} (hkey : key ∈ tellingNames)
    (hmark : isMark (assignment key []) = true) {node : Node α} (h : node.IsPlain number) :
    occurrences (assignment key []) (node.print number) = (node.values number key).length := by
  have hmarks : ∀ rest ∈ [[]], isMark (assignment key rest) = true :=
    List.forall_mem_singleton.mpr hmark
  have hall := occurring_assignment number hkey hmarks h
  rw [List.map_singleton] at hall
  rw [occurrences, hall]
  simp

end Plain

end TextDiagram.Svg
