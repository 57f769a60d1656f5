import TextDiagram.Proofs.Svg.Escape
import TextDiagram.Proofs.Svg.Layers

/-!
# Markup as XML

Elements as XML defines them, as far as pictures need it: text in which the five special characters
are references, attributes of different names, and properly nested tags (`Derives`). Which characters
may stand in text is left open, since XML permits only some (`isXmlChar`). Main statement: a tree with
such names and values whose lines are escaped texts is printed as such an element
(`derives_print`).
-/

namespace TextDiagram.Svg

open Text

/-! ## Grammar -/

/-- A character that may stand in a document: the production `Char` of XML 1.0. -/
def isXmlChar (c : Char) : Bool :=
  (0x20 ≤ c.toNat && c.toNat ≤ 0xD7FF) || (0xE000 ≤ c.toNat && c.toNat ≤ 0xFFFD) ||
    (0x10000 ≤ c.toNat && c.toNat ≤ 0x10FFFF) || c == '\t' || c == '\n' || c == '\r'

/-- A name in a document: a letter, and then letters, digits and hyphens. -/
def isXmlName (name : String) : Bool :=
  match name.toList with
  | [] => false
  | c :: rest => c.isAlpha && rest.all fun d => d.isAlphanum || d == '-'

section Grammar

variable (P : Char → Prop)

/-- Text of some characters, in which references stand for the five special ones. -/
inductive IsCharData : List Char → Prop
  | nil : IsCharData []
  | char {c : Char} {t : List Char} (hc : P c) (hplain : c ∉ ['&', '<', '>', '"', '\''])
    (ht : IsCharData t) : IsCharData (c :: t)
  | reference {entity t : List Char} (hentity : entity ∈ entities) (ht : IsCharData t) :
    IsCharData (entity ++ t)

/-- Attributes of different names, each with a space before it. -/
inductive IsAttributeList : List String → List Char → Prop
  | nil : IsAttributeList [] []
  | cons {name : String} {names : List String} {value t : List Char} (hname : isXmlName name = true)
    (hnew : name ∉ names) (hvalue : IsCharData P value) (ht : IsAttributeList names t) :
    IsAttributeList (name :: names)
      (' ' :: name.toList ++ "=\"".toList ++ value ++ ['"'] ++ t)

/-- What the grammar describes. -/
inductive Production
  /-- An element with its tags. -/
  | element
  /-- What stands between two tags. -/
  | content

/-- A text is an element, or what an element may hold. -/
inductive Derives : Production → List Char → Prop
  | childless {name : String} {names : List String} {attributes : List Char}
    (hname : isXmlName name = true) (hattributes : IsAttributeList P names attributes) :
    Derives .element ('<' :: name.toList ++ attributes ++ "/>".toList)
  | parent {name : String} {names : List String} {attributes content : List Char}
    (hname : isXmlName name = true) (hattributes : IsAttributeList P names attributes)
    (hcontent : Derives .content content) :
    Derives .element ('<' :: name.toList ++ attributes ++ '>' :: content ++ "</".toList ++
      name.toList ++ ['>'])
  | nil : Derives .content []
  | text {t rest : List Char} (ht : IsCharData P t) (hrest : Derives .content rest) :
    Derives .content (t ++ rest)
  | child {t rest : List Char} (ht : Derives .element t) (hrest : Derives .content rest) :
    Derives .content (t ++ rest)

end Grammar

/-- A text is one element of XML: its tags are nested, and its characters are permitted. -/
def IsXmlElement (t : List Char) : Prop :=
  Derives (fun c => isXmlChar c = true) .element t

/-! ## The characters of markup -/

theorem isXmlChar_of_isAlphanum {c : Char} (h : (c.isAlphanum || c == '-') = true) :
    isXmlChar c = true := by
  have hrange : 0x20 ≤ c.toNat ∧ c.toNat ≤ 0xD7FF := by
    rw [Bool.or_eq_true, beq_iff_eq] at h
    rcases h with h | rfl
    · have hranges := has_of_isAlphanum h
      simp only [CharRanges.has, List.any_cons, List.any_nil, Bool.or_false, Bool.or_eq_true,
        Bool.and_eq_true, decide_eq_true_eq] at hranges
      omega
    · decide
  simp [isXmlChar, hrange]

theorem isXmlChar_of_mem_entity {entity : List Char} (h : entity ∈ entities) {c : Char}
    (hc : c ∈ entity) : isXmlChar c = true := by
  have hall : entities.all (fun entity => entity.all isXmlChar) = true := by decide +kernel
  exact List.all_eq_true.mp (List.all_eq_true.mp hall entity h) c hc

theorem isXmlChar_of_isXmlName {name : String} (h : isXmlName name = true) {c : Char}
    (hc : c ∈ name.toList) : isXmlChar c = true := by
  unfold isXmlName at h
  split at h
  · cases h
  · next first rest heq =>
    rw [heq] at hc
    obtain ⟨hfirst, hrest⟩ := Bool.and_eq_true_iff.mp h
    refine isXmlChar_of_isAlphanum ?_
    rcases List.mem_cons.mp hc with rfl | hc
    · simp [Char.isAlphanum, hfirst]
    · exact List.all_eq_true.mp hrest c hc

section Characters

variable {P Q : Char → Prop} {t : List Char}

/-! ### Texts hold no other characters than those that are permitted -/

section Permitted

variable (hP : ∀ c, isXmlChar c = true → P c)

include hP

theorem IsCharData.forall_mem (h : IsCharData P t) : ∀ c ∈ t, P c := by
  induction h with
  | nil => exact fun c hc => absurd hc List.not_mem_nil
  | char hc _ _ ih => exact List.forall_mem_cons.mpr ⟨hc, ih⟩
  | reference hentity _ ih =>
    exact List.forall_mem_append.mpr
      ⟨fun c hc => hP c (isXmlChar_of_mem_entity hentity hc), ih⟩

theorem forall_mem_of_all {t : List Char} (h : t.all isXmlChar = true) : ∀ c ∈ t, P c :=
  fun c hc => hP c (List.all_eq_true.mp h c hc)

theorem IsAttributeList.forall_mem {names : List String} (h : IsAttributeList P names t) :
    ∀ c ∈ t, P c := by
  induction h with
  | nil => exact fun c hc => absurd hc List.not_mem_nil
  | cons hname _ hvalue _ ih =>
    have hletters := fun c hc => hP c (isXmlChar_of_isXmlName hname hc)
    have hassign := forall_mem_of_all hP (t := "=\"".toList) (by decide +kernel)
    simp only [List.forall_mem_append, List.forall_mem_cons]
    exact ⟨⟨⟨⟨⟨hP ' ' rfl, hletters⟩, hassign⟩, hvalue.forall_mem hP⟩, hP '"' rfl,
      List.forall_mem_nil _⟩, ih⟩

theorem Derives.forall_mem {production : Production} (h : Derives P production t) :
    ∀ c ∈ t, P c := by
  induction h with
  | childless hname hattributes =>
    have hletters := fun c hc => hP c (isXmlChar_of_isXmlName hname hc)
    have hend := forall_mem_of_all hP (t := "/>".toList) (by decide +kernel)
    simp only [List.forall_mem_append, List.forall_mem_cons]
    exact ⟨⟨⟨hP '<' rfl, hletters⟩, hattributes.forall_mem hP⟩, hend⟩
  | parent hname hattributes _ ih =>
    have hletters := fun c hc => hP c (isXmlChar_of_isXmlName hname hc)
    have hclosing := forall_mem_of_all hP (t := "</".toList) (by decide +kernel)
    simp only [List.forall_mem_append, List.forall_mem_cons]
    exact ⟨⟨⟨⟨⟨⟨hP '<' rfl, hletters⟩, hattributes.forall_mem hP⟩, hP '>' rfl, ih⟩, hclosing⟩,
      hletters⟩, hP '>' rfl, List.forall_mem_nil _⟩
  | nil => exact fun c hc => absurd hc List.not_mem_nil
  | text ht _ ih => exact List.forall_mem_append.mpr ⟨ht.forall_mem hP, ih⟩
  | child _ _ iht ihrest => exact List.forall_mem_append.mpr ⟨iht, ihrest⟩

end Permitted

/-! ### Markup is what it is by all characters that it holds -/

theorem IsCharData.of_forall_mem (h : IsCharData P t) (hQ : ∀ c ∈ t, Q c) : IsCharData Q t := by
  induction h with
  | nil => exact .nil
  | char _ hplain _ ih =>
    obtain ⟨hc, ht⟩ := List.forall_mem_cons.mp hQ
    exact .char hc hplain (ih ht)
  | reference hentity _ ih => exact .reference hentity (ih (List.forall_mem_append.mp hQ).2)

theorem IsAttributeList.of_forall_mem {names : List String} (h : IsAttributeList P names t)
    (hQ : ∀ c ∈ t, Q c) : IsAttributeList Q names t := by
  induction h with
  | nil => exact .nil
  | cons hname hnew hvalue _ ih =>
    simp only [List.forall_mem_append] at hQ
    obtain ⟨⟨⟨-, hvalueQ⟩, -⟩, htQ⟩ := hQ
    exact .cons hname hnew (hvalue.of_forall_mem hvalueQ) (ih htQ)

theorem Derives.of_forall_mem {production : Production} (h : Derives P production t)
    (hQ : ∀ c ∈ t, Q c) : Derives Q production t := by
  induction h with
  | childless hname hattributes =>
    simp only [List.forall_mem_append] at hQ
    exact .childless hname (hattributes.of_forall_mem hQ.1.2)
  | parent hname hattributes _ ih =>
    simp only [List.forall_mem_append, List.forall_mem_cons] at hQ
    obtain ⟨⟨⟨⟨⟨-, hattributesQ⟩, -, hcontentQ⟩, -⟩, -⟩, -⟩ := hQ
    exact .parent hname (hattributes.of_forall_mem hattributesQ) (ih hcontentQ)
  | nil => exact .nil
  | text ht _ ih =>
    obtain ⟨htQ, hrestQ⟩ := List.forall_mem_append.mp hQ
    exact .text (ht.of_forall_mem htQ) (ih hrestQ)
  | child _ _ iht ihrest =>
    obtain ⟨htQ, hrestQ⟩ := List.forall_mem_append.mp hQ
    exact .child (iht htQ) (ihrest hrestQ)

/-- Elements of whatever characters are elements of XML if their characters are permitted. -/
theorem isXmlElement_iff (h : Derives P .element t) :
    IsXmlElement t ↔ ∀ c ∈ t, isXmlChar c = true :=
  ⟨fun h => Derives.forall_mem (fun _ hc => hc) h, fun hQ => h.of_forall_mem hQ⟩

end Characters

/-! ## Trees -/

section Trees

variable {α : Type} (number : α → List Char) (P : Char → Prop)

namespace Node

/-- A node is printed as XML has it: names are those of documents and no name is given twice, values
hold permitted characters only, and a line is an escaped text of some characters. -/
def IsXmlAlone : Node α → Prop
  | .line chars => ∃ t, chars = escape t ∧ ∀ c ∈ t, P c
  | .element name attributes _ => isXmlName name = true ∧ (attributes.map Prod.fst).Nodup ∧
    ∀ entry ∈ attributes, isXmlName entry.1 = true ∧ (entry.2.print number).all isXmlChar = true

/-- All nodes of a tree are printed as XML has them. -/
def IsXml (node : Node α) : Prop :=
  ∀ n ∈ node.subnodes, n.IsXmlAlone number P

variable {name : String} {attributes : List (String × Value α)} {children : List (Node α)}

theorem isXml_element_iff : (Node.element name attributes children).IsXml number P ↔
    (isXmlName name = true ∧ (attributes.map Prod.fst).Nodup ∧ ∀ entry ∈ attributes,
      isXmlName entry.1 = true ∧ (entry.2.print number).all isXmlChar = true) ∧
    ∀ child ∈ children, child.IsXml number P := by
  unfold IsXml
  rw [subnodes_element, List.forall_mem_cons, List.forall_mem_flatMap]
  exact Iff.rfl

theorem isXml_childless (hname : isXmlName name = true) (hnodup : (attributes.map Prod.fst).Nodup)
    (h : ∀ entry ∈ attributes, isXmlName entry.1 = true ∧
      (entry.2.print number).all isXmlChar = true) :
    (Node.element name attributes []).IsXml number P :=
  (isXml_element_iff number P).mpr ⟨⟨hname, hnodup, h⟩, List.forall_mem_nil _⟩

theorem isXml_line_iff {chars : List Char} :
    (Node.line chars : Node α).IsXml number P ↔ ∃ t, chars = escape t ∧ ∀ c ∈ t, P c := by
  unfold IsXml
  rw [subnodes_line, List.forall_mem_singleton]
  exact Iff.rfl

end Node

variable {number P}

/-- An escaped text holds the five special characters in references only. -/
theorem isCharData_escape {t : List Char} (h : ∀ c ∈ t, P c) : IsCharData P (escape t) := by
  induction t with
  | nil => exact .nil
  | cons c t ih =>
    obtain ⟨hc, ht⟩ := List.forall_mem_cons.mp h
    rw [escape_cons]
    rcases escapeChar_cases c with hentity | ⟨hne, heq⟩
    · exact .reference hentity (ih ht)
    · have hplain : c ∉ ['&', '<', '>', '"', '\''] := by
        rw [List.mem_cons, not_or]
        refine ⟨hne, fun hmem => not_mem_escapeChar hmem c ?_⟩
        rw [heq]
        exact List.mem_singleton_self c
      rw [heq]
      exact .char hc hplain (ih ht)

variable (hP : ∀ c, isXmlChar c = true → P c)

include hP

theorem isAttributeList_print {attributes : List (String × Value α)}
    (hnodup : (attributes.map Prod.fst).Nodup)
    (h : ∀ entry ∈ attributes, isXmlName entry.1 = true ∧
      (entry.2.print number).all isXmlChar = true) :
    IsAttributeList P (attributes.map Prod.fst) (attributes.flatMap (printAttribute number)) := by
  induction attributes with
  | nil => exact .nil
  | cons entry attributes ih =>
    obtain ⟨⟨hname, hvalue⟩, hrest⟩ := List.forall_mem_cons.mp h
    obtain ⟨hnew, hnodup⟩ := List.nodup_cons.mp hnodup
    rw [List.map_cons, List.flatMap_cons, printAttribute]
    exact .cons hname hnew (isCharData_escape (forall_mem_of_all hP hvalue)) (ih hnodup hrest)

/-- Texts and elements, each on a line of its own, may stand between two tags. -/
theorem derives_printLines {nodes : List (Node α)}
    (h : ∀ node ∈ nodes, IsCharData P (node.print number) ∨
      Derives P .element (node.print number)) :
    Derives P .content (printLines number nodes ++ ['\n']) := by
  have hbreak : IsCharData P ['\n'] := .char (hP '\n' rfl) (by decide) .nil
  induction nodes with
  | nil =>
    show Derives P .content (['\n'] ++ [])
    exact .text hbreak .nil
  | cons node nodes ih =>
    obtain ⟨hnode, hnodes⟩ := List.forall_mem_cons.mp h
    rw [printLines, List.append_assoc, ← List.singleton_append, List.append_assoc]
    refine .text hbreak ?_
    rcases hnode with htext | helement
    · exact .text htext (ih hnodes)
    · exact .child helement (ih hnodes)

section Element

variable {name : String} {attributes : List (String × Value α)} {children : List (Node α)}

theorem derives_print_element (hname : isXmlName name = true)
    (hattributes : IsAttributeList P (attributes.map Prod.fst)
      (attributes.flatMap (printAttribute number)))
    (h : ∀ child ∈ children, IsCharData P (child.print number) ∨
      Derives P .element (child.print number)) :
    Derives P .element ((Node.element name attributes children).print number) := by
  cases children with
  | nil => exact .childless hname hattributes
  | cons child children =>
    have hclosing : "\n</".toList = ['\n'] ++ "</".toList := by decide +kernel
    have hprint : (Node.element name attributes (child :: children)).print number =
        '<' :: name.toList ++ attributes.flatMap (printAttribute number) ++
          '>' :: (printLines number (child :: children) ++ ['\n']) ++ "</".toList ++
          name.toList ++ ['>'] := by
      rw [Node.print, hclosing]
      simp only [List.append_assoc, List.cons_append]
    rw [hprint]
    exact .parent hname hattributes (derives_printLines hP h)

/-- A tree of such nodes is printed as a text or as an element. -/
theorem isCharData_or_derives_print {node : Node α} (h : node.IsXml number P) :
    IsCharData P (node.print number) ∨ Derives P .element (node.print number) := by
  induction node using Node.induct with
  | line chars =>
    obtain ⟨t, rfl, ht⟩ := (Node.isXml_line_iff number P).mp h
    exact .inl (isCharData_escape ht)
  | element name attributes children ih =>
    obtain ⟨⟨hname, hnodup, hvalues⟩, hchildren⟩ := (Node.isXml_element_iff number P).mp h
    exact .inr <| derives_print_element hP hname (isAttributeList_print hP hnodup hvalues)
      fun child hchild => ih child hchild (hchildren child hchild)

/-- An element of such nodes is printed as an element. -/
theorem derives_print (h : (Node.element name attributes children).IsXml number P) :
    Derives P .element ((Node.element name attributes children).print number) := by
  obtain ⟨⟨hname, hnodup, hvalues⟩, hchildren⟩ := (Node.isXml_element_iff number P).mp h
  exact derives_print_element hP hname (isAttributeList_print hP hnodup hvalues)
    fun child hchild => isCharData_or_derives_print hP (hchildren child hchild)

end Element

end Trees

end TextDiagram.Svg
