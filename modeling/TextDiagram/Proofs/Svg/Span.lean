import TextDiagram.Proofs.Svg.Plain

/-!
# What spans hold

Markup is taken apart into its outline, from which the contents of its spans are left out, and these
contents (`separate`). A text that is taken apart in the same way whatever follows it is readable
(`Reads`), and readable texts follow each other. Main statement: the markup of a plain tree is
taken apart as the tree is, span by span (`reads_print`).
-/

namespace TextDiagram.Svg

/-- Where the next character of markup stands. -/
inductive Place
  /-- Outside of spans. -/
  | outside
  /-- In the tag that opens a span. -/
  | tag
  /-- In a span that holds some text so far. -/
  | inside (held : List Char)
  deriving DecidableEq, Repr

/-- Markup taken apart. -/
@[ext]
structure Separated where
  /-- The markup without what its spans hold. -/
  outline : List Char
  /-- What the spans hold, in order. -/
  contents : List (List Char)
  deriving DecidableEq, Repr

namespace Separated

/-- Markup without spans. -/
def kept (t : List Char) : Separated := ⟨t, []⟩

protected def append (r s : Separated) : Separated :=
  ⟨r.outline ++ s.outline, r.contents ++ s.contents⟩

instance : Append Separated := ⟨Separated.append⟩

@[simp] theorem contents_kept (t : List Char) : (kept t).contents = [] := rfl

@[simp] theorem outline_append (r s : Separated) : (r ++ s).outline = r.outline ++ s.outline := rfl

@[simp] theorem contents_append (r s : Separated) :
    (r ++ s).contents = r.contents ++ s.contents := rfl

theorem append_assoc (r s t : Separated) : r ++ s ++ t = r ++ (s ++ t) := by
  ext1 <;> simp

theorem kept_append (s t : List Char) : kept (s ++ t) = kept s ++ kept t := rfl

end Separated

open Separated

/-- Takes markup apart, beginning at a place. A span is opened by a tag of this name, up to its
bracket, and holds what stands before the next closing tag of the name. -/
def separate : Place → List Char → Separated
  | .inside held, [] => ⟨[], [held]⟩
  | _, [] => ⟨[], []⟩
  | .outside, c :: t =>
    .kept [c] ++ separate (if "<tspan".toList.isPrefixOf (c :: t) then .tag else .outside) t
  | .tag, c :: t => .kept [c] ++ separate (if c = '>' then .inside [] else .tag) t
  | .inside held, c :: t =>
    if "</tspan>".toList.isPrefixOf (c :: t) then ⟨[c], [held]⟩ ++ separate .outside t
    else separate (.inside (held ++ [c])) t

/-- A text is taken apart into the same outline and contents whatever follows it. -/
def Reads (t : List Char) (r : Separated) : Prop :=
  ∀ rest, separate .outside (t ++ rest) = r ++ separate .outside rest

/-! ## The tags of spans -/

theorem span_opening : "<tspan".toList = '<' :: "tspan".toList := by decide +kernel

theorem span_closing : "</tspan>".toList = '<' :: '/' :: "tspan".toList ++ ['>'] := by decide +kernel

theorem line_closing : "\n</".toList = ['\n', '<', '/'] := by decide +kernel

/-! ## Readable texts -/

theorem Reads.append {s t : List Char} {q r : Separated} (hs : Reads s q) (ht : Reads t r) :
    Reads (s ++ t) (q ++ r) := by
  intro rest
  rw [List.append_assoc, hs, ht, append_assoc]

theorem reads_of_not_mem {t : List Char} (h : '<' ∉ t) : Reads t (kept t) := by
  intro rest
  induction t with
  | nil => rfl
  | cons c t ih =>
    -- a span opens at its bracket or not at all
    have hc : "<tspan".toList.isPrefixOf (c :: (t ++ rest)) = false := by
      rw [Bool.eq_false_iff]
      intro hprefix
      have hhead := (List.cons_prefix_cons.mp (List.isPrefixOf_iff_prefix.mp hprefix)).1
      exact h (hhead ▸ List.mem_cons_self ..)
    rw [List.cons_append, separate, hc, if_neg (by simp), ih (List.not_mem_of_not_mem_cons h),
      ← append_assoc, ← kept_append]
    rfl

/-- A tag of another name opens no span. -/
theorem reads_opening {name : List Char} (h : ∀ rest, ¬ "tspan".toList <+: name ++ rest)
    (hname : '<' ∉ name) : Reads ('<' :: name) (kept ('<' :: name)) := by
  intro rest
  have hprefix : "<tspan".toList.isPrefixOf ('<' :: (name ++ rest)) = false := by
    rw [Bool.eq_false_iff]
    intro hprefix
    exact h rest (List.cons_prefix_cons.mp (List.isPrefixOf_iff_prefix.mp hprefix)).2
  rw [List.cons_append, separate, hprefix, if_neg (by simp), reads_of_not_mem hname,
    ← append_assoc, ← kept_append]
  rfl

theorem separate_tag {t : List Char} (h : '>' ∉ t) (rest : List Char) :
    separate .tag (t ++ '>' :: rest) = kept (t ++ ['>']) ++ separate (.inside []) rest := by
  induction t with
  | nil =>
    rw [List.nil_append, separate, if_pos rfl]
    rfl
  | cons c t ih =>
    have hc : c ≠ '>' := fun heq => h (heq ▸ List.mem_cons_self ..)
    rw [List.cons_append, separate, if_neg hc, ih (List.not_mem_of_not_mem_cons h),
      ← append_assoc, ← kept_append]
    rfl

theorem separate_inside {t : List Char} (h : '<' ∉ t) (held rest : List Char) :
    separate (.inside held) (t ++ ("</tspan>".toList ++ rest)) =
      ⟨"</tspan>".toList, [held ++ t]⟩ ++ separate .outside rest := by
  induction t generalizing held with
  | nil =>
    have hclosing : "</tspan>".toList = '<' :: "/tspan>".toList := by decide +kernel
    have hprefix : "</tspan>".toList.isPrefixOf ("</tspan>".toList ++ rest) = true :=
      List.isPrefixOf_iff_prefix.mpr (List.prefix_append ..)
    have hrest : Reads "/tspan>".toList (kept "/tspan>".toList) :=
      reads_of_not_mem (by decide +kernel)
    -- the bracket of the closing tag ends the span, and the rest of the tag is read outside
    rw [List.nil_append, List.append_nil]
    rw [hclosing, List.cons_append] at hprefix ⊢
    rw [separate, hclosing, if_pos hprefix, hrest, ← append_assoc]
    rfl
  | cons c t ih =>
    have hc : "</tspan>".toList.isPrefixOf (c :: (t ++ ("</tspan>".toList ++ rest))) = false := by
      rw [Bool.eq_false_iff]
      intro hprefix
      have hhead := (List.cons_prefix_cons.mp (List.isPrefixOf_iff_prefix.mp hprefix)).1
      exact h (hhead ▸ List.mem_cons_self ..)
    rw [List.cons_append, separate, hc, if_neg (by simp), ih (List.not_mem_of_not_mem_cons h),
      List.append_assoc]
    rfl

theorem reads_span {start t : List Char} (hstart : '>' ∉ start) (ht : '<' ∉ t) :
    Reads ("<tspan".toList ++ start ++ '>' :: t ++ "</tspan>".toList)
      ⟨"<tspan".toList ++ start ++ ['>'] ++ "</tspan>".toList, [t]⟩ := by
  intro rest
  have hname : '>' ∉ "tspan".toList ++ start := by
    rw [List.mem_append, not_or]
    exact ⟨by decide +kernel, hstart⟩
  have hprefix : "<tspan".toList.isPrefixOf
      ('<' :: (("tspan".toList ++ start) ++ '>' :: (t ++ ("</tspan>".toList ++ rest)))) = true := by
    rw [List.isPrefixOf_iff_prefix, span_opening, List.cons_prefix_cons, List.append_assoc]
    exact ⟨rfl, List.prefix_append ..⟩
  have hsplit : "<tspan".toList ++ start ++ '>' :: t ++ "</tspan>".toList ++ rest =
      '<' :: (("tspan".toList ++ start) ++ '>' :: (t ++ ("</tspan>".toList ++ rest))) := by
    rw [span_opening]
    simp only [List.cons_append, List.append_assoc]
  rw [hsplit, separate, if_pos hprefix, separate_tag hname, separate_inside ht, ← append_assoc,
    ← append_assoc, ← kept_append, span_opening]
  rfl

/-- What the spans of markup hold is part of the markup, or was held when it began. -/
theorem mem_of_mem_contents_separate {place : Place} {t held : List Char} {x : Char}
    (h : held ∈ (separate place t).contents) (hx : x ∈ held) :
    x ∈ t ∨ ∃ start, place = .inside start ∧ x ∈ start := by
  fun_induction separate place t with
  | case1 start => exact .inr ⟨start, rfl, List.mem_singleton.mp h ▸ hx⟩
  | case2 place _ => exact absurd h List.not_mem_nil
  | case3 c t ih =>
    -- outside of spans, nothing is held yet
    refine .inl (List.mem_cons_of_mem c ((ih h).resolve_right ?_))
    rintro ⟨start, hstart, -⟩
    split at hstart <;> cases hstart
  | case4 c t ih =>
    refine .inl (List.mem_cons_of_mem c ((ih h).resolve_right ?_))
    rintro ⟨start, hstart, hmem⟩
    split at hstart
    · cases hstart
      cases hmem
    · cases hstart
  | case5 start c t hclosing ih =>
    rcases List.mem_cons.mp h with rfl | h
    · exact .inr ⟨held, rfl, hx⟩
    · refine .inl (List.mem_cons_of_mem c ((ih h).resolve_right ?_))
      rintro ⟨start, hstart, -⟩
      cases hstart
  | case6 start c t hclosing ih =>
    rcases ih h with ht | ⟨longer, hlonger, hmem⟩
    · exact .inl (List.mem_cons_of_mem c ht)
    · cases hlonger
      rcases List.mem_append.mp hmem with hmem | hmem
      · exact .inr ⟨start, rfl, hmem⟩
      · exact .inl (List.mem_singleton.mp hmem ▸ List.mem_cons_self)

example : separate .outside "<text><tspan x=\"1\">\na\n</tspan></text>".toList =
    ⟨"<text><tspan x=\"1\"></tspan></text>".toList, ["\na\n".toList]⟩ := by decide +kernel

/-! ## Trees -/

section Trees

variable {α : Type} (number : α → List Char)

/-- The tag that opens an element, without its bracket. -/
def startTag (name : String) (attributes : List (String × Value α)) : List Char :=
  '<' :: name.toList ++ attributes.flatMap (printAttribute number)

mutual

/-- A tree taken apart. -/
def Node.separated : Node α → Separated
  | .line chars => .kept chars
  | .element name attributes [] => .kept (startTag number name attributes ++ "/>".toList)
  | .element name attributes (child :: children) =>
    if name = "tspan" then
      ⟨startTag number name attributes ++ ['>'] ++ "</tspan>".toList,
        [printLines number (child :: children) ++ ['\n']]⟩
    else .kept (startTag number name attributes ++ ['>']) ++ separatedLines (child :: children) ++
      .kept ("\n</".toList ++ name.toList ++ ['>'])

/-- Some trees taken apart, each on a line of its own. -/
def separatedLines : List (Node α) → Separated
  | [] => .kept []
  | node :: nodes => .kept ['\n'] ++ node.separated ++ separatedLines nodes

end

/-- The tag of no other element begins like that of a span, whatever follows it. -/
theorem not_prefix_of_elementName {name : String} (hname : name ∈ elementNames)
    (hne : name ≠ "tspan") (t : List Char) : ¬ "tspan".toList <+: name.toList ++ t := by
  have hspan : "tspan" ∈ elementNames := by simp [elementNames]
  intro h
  rcases List.prefix_or_prefix_of_prefix h (List.prefix_append name.toList t) with h | h
  · exact hne (eq_of_prefix_elementName hspan hname h)
  · exact hne (eq_of_prefix_elementName hname hspan h).symm

/-- The tag that closes an element, on a line of its own, opens no span. -/
theorem reads_closing {name : String} (hname : isName name = true) :
    Reads ("\n</".toList ++ name.toList ++ ['>']) (kept ("\n</".toList ++ name.toList ++ ['>'])) := by
  -- a slash stands where the name of a span would begin
  have hslash : ∀ rest, ¬ "tspan".toList <+: '/' :: name.toList ++ rest := by
    intro rest h
    have hspan : "tspan".toList = 't' :: "span".toList := by decide +kernel
    rw [hspan, List.cons_append] at h
    exact absurd (List.cons_prefix_cons.mp h).1 (by decide)
  have htag : '<' ∉ '/' :: name.toList := by
    rw [List.mem_cons, not_or]
    exact ⟨by decide, not_mem_of_isName hname rfl⟩
  have hbreak : Reads ['\n'] (kept ['\n']) := reads_of_not_mem (by decide)
  have hbracket : Reads ['>'] (kept ['>']) := reads_of_not_mem (by decide)
  rw [line_closing]
  exact (hbreak.append (reads_opening hslash htag)).append hbracket

theorem reads_separatedLines {nodes : List (Node α)}
    (h : ∀ node ∈ nodes, Reads (node.print number) (node.separated number)) :
    Reads (printLines number nodes) (separatedLines number nodes) := by
  induction nodes with
  | nil => exact reads_of_not_mem List.not_mem_nil
  | cons node nodes ih =>
    have hline : Reads ['\n'] (kept ['\n']) := reads_of_not_mem (by decide)
    have hrest := ih fun n hn => h n (List.mem_cons_of_mem _ hn)
    rw [printLines, separatedLines]
    exact (hline.append (h node (List.mem_cons_self ..))).append hrest

section Element

variable {name : String} {attributes : List (String × Value α)} (hname : name ∈ elementNames)
  (hkeys : ∀ entry ∈ attributes, entry.1 ∈ attributeNames)

include hname hkeys

theorem not_mem_startTag {c : Char} (hc : c ∈ ['<', '>']) :
    c ∉ name.toList ++ attributes.flatMap (printAttribute number) := by
  have hisName : isName name = true := isName_of_mem (List.mem_append_left _ hname)
  have hletter : (c.isAlphanum || c == '-') = false := by
    simp only [List.mem_cons, List.not_mem_nil, or_false] at hc
    rcases hc with rfl | rfl <;> decide
  rw [List.mem_append, not_or, List.mem_flatMap]
  refine ⟨not_mem_of_isName hisName hletter, ?_⟩
  rintro ⟨entry, hentry, hmem⟩
  have hkey : isName entry.1 = true := isName_of_mem (List.mem_append_right _ (hkeys entry hentry))
  exact not_mem_printAttribute number hkey hc hmem

theorem reads_element (hne : name ≠ "tspan") {children : List (Node α)}
    (h : ∀ child ∈ children, Reads (child.print number) (child.separated number)) :
    Reads ((Node.element name attributes children).print number)
      ((Node.element name attributes children).separated number) := by
  have hisName : isName name = true := isName_of_mem (List.mem_append_left _ hname)
  have hother : ∀ rest, ¬ "tspan".toList <+:
      name.toList ++ attributes.flatMap (printAttribute number) ++ rest := by
    intro rest
    rw [List.append_assoc]
    exact not_prefix_of_elementName hname hne _
  have hstart : Reads (startTag number name attributes) (kept (startTag number name attributes)) :=
    reads_opening hother (not_mem_startTag number hname hkeys (by simp))
  cases children with
  | nil =>
    rw [Node.print, Node.separated]
    exact hstart.append (reads_of_not_mem (by decide +kernel))
  | cons child children =>
    have hbracket : Reads ['>'] (kept ['>']) := reads_of_not_mem (by decide)
    have hprint : (Node.element name attributes (child :: children)).print number =
        startTag number name attributes ++ ['>'] ++ printLines number (child :: children) ++
          ("\n</".toList ++ name.toList ++ ['>']) := by
      rw [Node.print, startTag]
      simp only [List.append_assoc, List.cons_append, List.nil_append]
    rw [hprint, Node.separated, if_neg hne]
    exact ((hstart.append hbracket).append (reads_separatedLines number h)).append
      (reads_closing hisName)

end Element

theorem separated_span (attributes : List (String × Value α)) (chars : List Char) :
    (Node.element "tspan" attributes [.line chars]).separated number =
      ⟨startTag number "tspan" attributes ++ ['>'] ++ "</tspan>".toList,
        ['\n' :: chars ++ ['\n']]⟩ := by
  rw [Node.separated, if_pos rfl, printLines, printLines, Node.print, List.append_nil]

theorem reads_print_span {attributes : List (String × Value α)}
    (hkeys : ∀ entry ∈ attributes, entry.1 ∈ attributeNames) {chars : List Char}
    (h : IsQuiet chars) : Reads ((Node.element "tspan" attributes [.line chars]).print number)
      ((Node.element "tspan" attributes [.line chars]).separated number) := by
  have hspan : "tspan" ∈ elementNames := by simp [elementNames]
  have hvalues : '>' ∉ attributes.flatMap (printAttribute number) := fun hmem =>
    not_mem_startTag number hspan hkeys (by simp) (List.mem_append_right _ hmem)
  have hline : '<' ∉ '\n' :: chars ++ ['\n'] := by
    have hchars : '<' ∉ chars := h '<' (by simp)
    simp [hchars]
  have hprint : (Node.element "tspan" attributes [.line chars]).print number =
      "<tspan".toList ++ attributes.flatMap (printAttribute number) ++
        '>' :: ('\n' :: chars ++ ['\n']) ++ "</tspan>".toList := by
    rw [Node.print, printLines, printLines, Node.print, span_opening, span_closing, line_closing]
    simp only [List.append_assoc, List.cons_append, List.nil_append]
  rw [hprint, separated_span, startTag, ← span_opening]
  exact reads_span hvalues hline

/-- The markup of a plain tree is taken apart as the tree is. -/
theorem reads_print {node : Node α} (h : node.IsPlain number) :
    Reads (node.print number) (node.separated number) := by
  induction node using Node.induct with
  | line chars =>
    have hquiet : IsQuiet chars := (Node.isPlain_line_iff number).mp h
    rw [Node.print, Node.separated]
    exact reads_of_not_mem (hquiet '<' (by simp))
  | element name attributes children ih =>
    obtain ⟨⟨⟨hname, hspan⟩, hattributes⟩, hchildren⟩ := (Node.isPlain_element_iff number).mp h
    have hkeys : ∀ entry ∈ attributes, entry.1 ∈ attributeNames := fun entry hentry =>
      (hattributes entry hentry).1
    -- what a span holds is not read on its own, so the induction is of no use there
    by_cases heq : name = "tspan"
    · obtain ⟨chars, rfl⟩ := hspan heq
      have hquiet : IsQuiet chars :=
        (Node.isPlain_line_iff number).mp (hchildren _ (List.mem_singleton.mpr rfl))
      rw [heq]
      exact reads_print_span number hkeys hquiet
    · exact reads_element number hname hkeys heq fun child hchild =>
        ih child hchild (hchildren child hchild)

theorem separate_of_reads {t : List Char} {r : Separated} (h : Reads t r) :
    separate .outside t = r := by
  have hread := h []
  rw [List.append_nil] at hread
  rw [hread]
  ext1 <;> simp [separate]

/-! ## Outlines and contents of trees -/

/-- The markup of a tree without what its spans hold. -/
def Node.outline (node : Node α) : List Char := (node.separated number).outline

def Node.contents (node : Node α) : List (List Char) := (node.separated number).contents

theorem outline_separatedLines (nodes : List (Node α)) : (separatedLines number nodes).outline =
    nodes.flatMap fun node => '\n' :: node.outline number := by
  induction nodes with
  | nil => rfl
  | cons node nodes ih =>
    rw [separatedLines, outline_append, ih, List.flatMap_cons]
    rfl

theorem contents_separatedLines (nodes : List (Node α)) :
    (separatedLines number nodes).contents = nodes.flatMap (Node.contents number) := by
  induction nodes with
  | nil => rfl
  | cons node nodes ih =>
    rw [separatedLines, contents_append, ih, List.flatMap_cons]
    rfl

section Element

variable {name : String} (hne : name ≠ "tspan") (attributes : List (String × Value α))

include hne

theorem contents_element (children : List (Node α)) :
    (Node.element name attributes children).contents number =
      children.flatMap (Node.contents number) := by
  unfold Node.contents
  cases children with
  | nil => rfl
  | cons child children =>
    rw [Node.separated, if_neg hne, contents_append, contents_append, contents_separatedLines,
      contents_kept, contents_kept, List.nil_append, List.append_nil]
    rfl

/-- The outline of an element shows of its children their outlines. -/
theorem outline_element_congr {children others : List (Node α)}
    (h : children.map (Node.outline number) = others.map (Node.outline number)) :
    (Node.element name attributes children).outline number =
      (Node.element name attributes others).outline number := by
  have hlines : ∀ nodes : List (Node α), (separatedLines number nodes).outline =
      (nodes.map (Node.outline number)).flatMap fun t => '\n' :: t := by
    intro nodes
    rw [outline_separatedLines, List.flatMap_map]
  cases children with
  | nil => rw [List.map_eq_nil_iff.mp h.symm]
  | cons child children =>
    cases others with
    | nil => cases h
    | cons other others =>
      unfold Node.outline
      rw [Node.separated, Node.separated, if_neg hne, if_neg hne]
      simp only [outline_append, hlines, h]

end Element

end Trees

end TextDiagram.Svg
