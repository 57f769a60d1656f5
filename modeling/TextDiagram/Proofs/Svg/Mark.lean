import TextDiagram.Proofs.Svg.Node
import TextDiagram.Proofs.Text.Occurrence

/-!
# Marks in markup

A mark is a text by which parts of markup are told apart: it opens a tag, or it is found in an
attribute (`isMark`). Main statement: the marks in an element are those of the opening of its tag, of
its attributes and of its children (`occurring_print_element`).
-/

namespace TextDiagram.Svg

open Text

/-- A mark: it opens a tag or holds a quote, and it does not reach across the end of an attribute or
of a line. -/
def isMark (known : List Char) : Bool :=
  !known.tail.contains '<' && [' ', '\n', '/', '>'].all (fun c => !known.contains c) &&
    (known.contains '"' || (known.head? == some '<' && !known.tail.isEmpty))

section Mark

variable {known : List Char} (h : isMark known = true)

include h

theorem isMark_not_mem_tail : '<' ∉ known.tail := by
  simp only [isMark, Bool.and_eq_true] at h
  simpa using h.1.1

theorem isMark_not_mem {c : Char} (hc : c ∈ [' ', '\n', '/', '>']) : c ∉ known := by
  simp only [isMark, Bool.and_eq_true] at h
  have hc' := List.all_eq_true.mp h.1.2 c hc
  simpa using hc'

/-- A mark that holds no quote is the beginning of a tag. -/
theorem isMark_cases : '"' ∈ known ∨ ∃ c t, known = '<' :: c :: t := by
  simp only [isMark, Bool.and_eq_true, Bool.or_eq_true] at h
  rcases h.2 with hquote | ⟨hhead, htail⟩
  · exact Or.inl (by simpa using hquote)
  · cases known with
    | nil => cases hhead
    | cons d t =>
      cases t with
      | nil => cases htail
      | cons c t =>
        have hd : d = '<' := by simpa using hhead
        exact Or.inr ⟨c, t, by rw [hd]⟩

end Mark

section Occurring

variable {knowns : List (List Char)} (hmarks : ∀ known ∈ knowns, isMark known = true)

include hmarks

theorem nil_not_mem_marks : [] ∉ knowns := fun hmem => by
  rcases isMark_cases (hmarks [] hmem) with h | ⟨c, t, h⟩
  · cases h
  · cases h

theorem isSeam_of_marks {c : Char} (hc : c ∈ ['<', ' ', '\n', '/', '>']) : IsSeam knowns c := by
  intro known hknown hmem
  rcases List.mem_cons.mp hc with rfl | hc
  · exact isMark_not_mem_tail (hmarks known hknown) hmem
  · exact isMark_not_mem (hmarks known hknown) hc (List.mem_of_mem_tail hmem)

/-- No mark is in a text without tags and quotes. -/
theorem occurring_eq_nil_of_not_mem {t : List Char} (htag : '<' ∉ t) (hquote : '"' ∉ t) :
    occurring knowns t = [] := by
  refine occurring_eq_nil fun known hknown => ?_
  rcases isMark_cases (hmarks known hknown) with h | ⟨c, rest, rfl⟩
  · exact ⟨'"', h, hquote⟩
  · exact ⟨'<', List.mem_cons_self .., htag⟩

theorem occurring_of_isQuiet {t : List Char} (h : IsQuiet t) : occurring knowns t = [] :=
  occurring_eq_nil_of_not_mem hmarks (h '<' (by simp)) (h '"' (by simp))

/-- No mark is in a closing tag. -/
theorem occurring_closing {name : String} (hname : isName name = true) :
    occurring knowns ('<' :: '/' :: name.toList) = [] := by
  have htag : '<' ∉ '/' :: name.toList := by
    rw [List.mem_cons, not_or]
    exact ⟨by decide, not_mem_of_isName hname rfl⟩
  have hquote : '"' ∉ '/' :: name.toList := by
    rw [List.mem_cons, not_or]
    exact ⟨by decide, not_mem_of_isName hname rfl⟩
  rw [occurring_cons, occurring_eq_nil_of_not_mem hmarks htag hquote, List.append_nil,
    List.filter_eq_nil_iff]
  intro known hknown hprefix
  have hprefix' := List.isPrefixOf_iff_prefix.mp hprefix
  rcases isMark_cases (hmarks known hknown) with h | ⟨c, t, rfl⟩
  · rcases List.mem_cons.mp (hprefix'.subset h) with h | h
    · exact absurd h (by decide)
    · exact hquote h
  · -- a mark that begins a tag would go on with the slash
    have hc : c = '/' := (List.cons_prefix_cons.mp (List.cons_prefix_cons.mp hprefix').2).1
    have hslash : '/' ∈ '<' :: c :: t := by simp [hc]
    exact isMark_not_mem (hmarks _ hknown) (by simp) hslash

variable {α : Type} (number : α → List Char)

/-- The marks in an element are those of the opening of its tag, of its attributes and of its
children. -/
theorem occurring_print_element {name : String} (hname : isName name = true)
    (attributes : List (String × Value α)) (children : List (Node α)) :
    occurring knowns ((Node.element name attributes children).print number) =
      occurring knowns ('<' :: name.toList) ++
        (attributes.flatMap fun entry => occurring knowns (printAttribute number entry)) ++
          children.flatMap fun child => occurring knowns (child.print number) := by
  have hne := nil_not_mem_marks hmarks
  have hbegins : ∀ piece ∈ ('<' :: name.toList) :: attributes.map (printAttribute number) ++
      bodyPieces number name children, ∃ c ∈ piece.head?, IsSeam knowns c := by
    intro piece hpiece
    simp only [List.mem_append, List.mem_cons, List.mem_map] at hpiece
    rcases hpiece with (rfl | ⟨entry, _, rfl⟩) | hpiece
    · exact ⟨'<', rfl, isSeam_of_marks hmarks (by simp)⟩
    · exact ⟨' ', rfl, isSeam_of_marks hmarks (by simp)⟩
    · obtain ⟨c, hc, hseam⟩ := exists_head?_bodyPieces number hpiece
      exact ⟨c, hc, isSeam_of_marks hmarks hseam⟩
  have hbody : (bodyPieces number name children).flatMap (occurring knowns) =
      children.flatMap fun child => occurring knowns (child.print number) := by
    cases children with
    | nil =>
      simp only [bodyPieces, List.flatMap_cons, List.flatMap_nil, List.append_nil]
      exact occurring_eq_nil_of_not_mem hmarks (by decide) (by decide)
    | cons child children =>
      have hend : occurring knowns ['>'] = [] :=
        occurring_eq_nil_of_not_mem hmarks (by decide) (by decide)
      have hbreak : occurring knowns ['\n'] = [] :=
        occurring_eq_nil_of_not_mem hmarks (by decide) (by decide)
      have hline : ∀ node : Node α, occurring knowns ('\n' :: node.print number) =
          occurring knowns (node.print number) := fun node =>
        occurring_cons_of_forall
          (fun known hknown => isMark_not_mem (hmarks known hknown) (by simp)) hne _
      simp only [bodyPieces, List.cons_append, List.flatMap_cons, List.flatMap_append,
        List.flatMap_nil, List.flatMap_map, hend, hbreak, hline, occurring_closing hmarks hname,
        List.nil_append, List.append_nil]
  rw [print_element, occurring_flatten hne hbegins, List.flatMap_append, List.flatMap_cons,
    List.flatMap_map, hbody]

end Occurring

end TextDiagram.Svg
