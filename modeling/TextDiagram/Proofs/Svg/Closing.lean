import TextDiagram.Proofs.Svg.Plain

/-!
# Closed tags

The closing tag of an element stands behind its children, and nothing in its opening tag or in a
line looks like a closing tag. Main statements: what closing tags there are in an element
(`occurring_closing_element`), and none for a name that no element of a plain tree has
(`occurring_closing_eq_nil`).
-/

namespace TextDiagram.Svg

open Text

/-- The tag that closes an element. -/
def closing (name : String) : List Char := '<' :: '/' :: (name.toList ++ ['>'])

/-- A tag begins with a bracket and holds no other. -/
theorem occurring_tag {c : Char} {known t : List Char} (hc : t.head? ≠ some c) (ht : '<' ∉ t) :
    occurring ['<' :: c :: known] ('<' :: t) = [] := by
  rw [occurring_cons, occurring_singleton_eq_nil (List.mem_cons_self ..) ht, List.append_nil,
    List.filter_eq_nil_iff]
  intro k hk hprefix
  rw [List.mem_singleton.mp hk, List.isPrefixOf_iff_prefix] at hprefix
  obtain ⟨rest, rfl⟩ := (List.cons_prefix_cons.mp hprefix).2
  exact hc rfl

section Lines

variable {α : Type} (number : α → List Char) {knowns : List (List Char)}

theorem occurring_printLines (hne : [] ∉ knowns) (h : ∀ known ∈ knowns, '\n' ∉ known)
    (nodes : List (Node α)) : occurring knowns (printLines number nodes) =
      nodes.flatMap fun node => occurring knowns (node.print number) := by
  induction nodes with
  | nil => exact occurring_nil hne
  | cons node nodes ih =>
    have hhead : ∀ c ∈ (printLines number nodes).head?, IsSeam knowns c := by
      intro c hc
      cases nodes with
      | nil => cases hc
      | cons next nodes =>
        cases hc
        exact isSeam_of_forall_not_mem h
    rw [printLines, occurring_append hne hhead, occurring_cons_of_forall h hne, ih,
      List.flatMap_cons]

/-- An element with children ends with its closing tag, on a line of its own. -/
theorem print_element_cons (name : String) (attributes : List (String × Value α)) (child : Node α)
    (children : List (Node α)) : (Node.element name attributes (child :: children)).print number =
      '<' :: (name.toList ++ attributes.flatMap (printAttribute number) ++ ['>']) ++
        (printLines number (child :: children) ++ '\n' :: closing name) := by
  have hline : "\n</".toList = ['\n', '<', '/'] := rfl
  rw [Node.print, closing, hline]
  simp only [List.cons_append, List.append_assoc, List.nil_append]

theorem closing_suffix_print (name : String) (attributes : List (String × Value α)) (child : Node α)
    (children : List (Node α)) :
    closing name <:+ (Node.element name attributes (child :: children)).print number := by
  rw [print_element_cons]
  exact (List.suffix_cons _ _).trans ((List.suffix_append _ _).trans (List.suffix_append _ _))

/-- Behind its first child, an element goes on with the others. -/
theorem exists_print_cons (name : String) (attributes : List (String × Value α))
    (child : Node α) : ∃ before, ∀ children,
      (Node.element name attributes (child :: children)).print number =
        before ++ child.print number ++ (printLines number children ++ '\n' :: closing name) := by
  refine ⟨'<' :: (name.toList ++ attributes.flatMap (printAttribute number) ++ ['>']) ++ ['\n'],
    fun children => ?_⟩
  rw [print_element_cons, printLines]
  simp only [List.append_assoc, List.cons_append, List.nil_append]

end Lines

section Closing

variable {name other : String} (hname : isName name = true)

include hname

theorem newline_not_mem_closing : '\n' ∉ closing name := by
  have hletters : '\n' ∉ name.toList := not_mem_of_isName hname rfl
  simp [closing, hletters]

theorem occurring_closing_closing (hother : isName other = true) :
    occurring [closing name] (closing other) = if other = name then [closing name] else [] := by
  have htag : '<' ∉ '/' :: (other.toList ++ ['>']) := by
    have hletters : '<' ∉ other.toList := not_mem_of_isName hother rfl
    simp [hletters]
  have hsplit : occurring [closing name] (closing other) =
      ([closing name].filter fun known => known.isPrefixOf (closing other)) ++
        occurring [closing name] ('/' :: (other.toList ++ ['>'])) := occurring_cons ..
  have hiff : (closing name).isPrefixOf (closing other) = true ↔ other = name := by
    have hbracket : '>' ∉ other.toList := not_mem_of_isName hother rfl
    rw [List.isPrefixOf_iff_prefix, closing, closing, List.cons_prefix_cons,
      List.cons_prefix_cons, append_cons_prefix_iff hbracket List.not_mem_nil, String.toList_inj]
    constructor
    · rintro ⟨-, -, rfl, -⟩
      rfl
    · rintro rfl
      exact ⟨rfl, rfl, rfl, List.prefix_rfl⟩
  have hbracket : '<' ∈ closing name := List.mem_cons_self ..
  rw [hsplit, occurring_singleton_eq_nil hbracket htag, List.append_nil]
  simp only [List.filter_cons, List.filter_nil, hiff]

variable {α : Type} (number : α → List Char)

/-- The closing tags in an element are those in its children, and behind them its own. -/
theorem occurring_closing_element {attributes : List (String × Value α)} {children : List (Node α)}
    (h : (Node.element other attributes children).IsPlain number) :
    occurring [closing name] ((Node.element other attributes children).print number) =
      (children.flatMap fun child => occurring [closing name] (child.print number)) ++
        if children ≠ [] ∧ other = name then [closing name] else [] := by
  obtain ⟨⟨⟨hmem, -⟩, hattributes⟩, -⟩ := (Node.isPlain_element_iff number).mp h
  have hother : isName other = true := isName_of_mem (List.mem_append_left _ hmem)
  have hkeys : ∀ entry ∈ attributes, isName entry.1 = true := fun entry hentry =>
    isName_of_mem (List.mem_append_right _ (hattributes entry hentry).1)
  have hletters : '<' ∉ other.toList ∧ '/' ∉ other.toList :=
    ⟨not_mem_of_isName hother rfl, not_mem_of_isName hother rfl⟩
  have hne : [] ∉ [closing name] := by simp [closing]
  have hbreak : ∀ known ∈ [closing name], '\n' ∉ known :=
    List.forall_mem_singleton.mpr (newline_not_mem_closing hname)
  have hseam : IsSeam [closing name] '\n' := isSeam_of_forall_not_mem hbreak
  -- the opening tag goes on with the name, and what stands between brackets is escaped
  have hopening : ∀ bracket, '<' ∉ bracket → occurring [closing name]
      ('<' :: (other.toList ++ attributes.flatMap (printAttribute number) ++ bracket)) = [] := by
    intro bracket hbracket
    refine occurring_tag ?_ ?_
    · cases hlist : other.toList with
      | nil => simp [isName, hlist] at hother
      | cons c letters =>
        intro hc
        rw [hlist, ← Option.some.inj hc] at hletters
        exact hletters.2 (List.mem_cons_self ..)
    · simp only [List.mem_append, List.mem_flatMap, not_or, not_exists, not_and]
      exact ⟨⟨hletters.1, fun entry hentry =>
        not_mem_printAttribute number (hkeys entry hentry) (by simp)⟩, hbracket⟩
  cases children with
  | nil =>
    rw [List.flatMap_nil, List.nil_append, if_neg fun h => h.1 rfl, Node.print]
    exact hopening "/>".toList (by decide)
  | cons child children =>
    have hclosing : occurring [closing name] ('\n' :: closing other) =
        if other = name then [closing name] else [] := by
      rw [occurring_cons_of_forall hbreak hne, occurring_closing_closing hname hother]
    have hhead : ∀ c ∈ (printLines number (child :: children) ++ '\n' :: closing other).head?,
        IsSeam [closing name] c := by
      intro c hc
      cases hc
      exact hseam
    rw [print_element_cons, occurring_append hne hhead, hopening ['>'] (by decide),
      List.nil_append, occurring_append_cons hne hseam,
      occurring_printLines number hne hbreak, hclosing]
    simp

/-- No tag of a name is closed in a plain tree without elements of the name. -/
theorem occurring_closing_eq_nil {node : Node α} (h : node.IsPlain number)
    (hnot : name ∉ node.names) : occurring [closing name] (node.print number) = [] := by
  induction node using Node.induct with
  | line chars =>
    have hquiet : IsQuiet chars := (Node.isPlain_line_iff number).mp h
    exact occurring_singleton_eq_nil (List.mem_cons_self ..) (hquiet '<' (by simp))
  | element other attributes children ih =>
    obtain ⟨-, hchildren⟩ := (Node.isPlain_element_iff number).mp h
    rw [Node.names_element, List.mem_cons, not_or] at hnot
    obtain ⟨hne, hbelow⟩ := hnot
    have hnone : (children.flatMap fun child => occurring [closing name] (child.print number)) =
        [] := by
      rw [List.flatMap_eq_nil_iff]
      intro child hchild
      refine ih child hchild (hchildren child hchild) fun hmem => ?_
      exact hbelow (List.mem_flatMap.mpr ⟨child, hchild, hmem⟩)
    rw [occurring_closing_element hname number h, hnone, List.nil_append,
      if_neg fun hcond => hne hcond.2.symm]

end Closing

end TextDiagram.Svg
