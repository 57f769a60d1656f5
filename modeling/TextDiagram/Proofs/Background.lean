import TextDiagram.Proofs.Census
import TextDiagram.Proofs.Outline
import TextDiagram.Proofs.Svg.Closing

/-!
# Backgrounds

A background is drawn last and lies below everything else. In markup this is one group, a rectangle
over the whole picture (`backgroundGroup`), and it stands between the definition of the arrow head
and the other groups. Main statement: a background adds this group to the markup of a described
diagram, and changes nothing else (`Diagram.IsDescribed.exists_render_background`).
-/

namespace TextDiagram

open Coordinate Svg Text

/-! ## The group of a background -/

/-- The tag that opens the group of a background. -/
def backgroundTag : List Char := "<g data-layer=\"background\">".toList

/-- A rectangle from the origin to the extent of a picture, in a colour. -/
def backgroundRectangle (color : Color) (extent : Extent Float32) : List Char :=
  "<rect class=\"pn-mermaid-background\" fill=\"".toList ++ escape color.css ++
    "\" height=\"".toList ++ Single.text extent.height ++
    "\" width=\"".toList ++ Single.text extent.width ++ "\" x=\"0\" y=\"0\"/>".toList

/-- The group of a background, on lines of its own. -/
def backgroundGroup (color : Color) (extent : Extent Float32) : List Char :=
  '\n' :: backgroundTag ++ '\n' :: backgroundRectangle color extent ++ "\n</g>".toList

section Group

variable (color : Color) (extent : Extent Float32)

theorem escape_text (x : Float32) : escape (Single.text x) = Single.text x := by
  have hplain : ∀ c ∈ Single.text x, escapeChar c = [c] := by
    intro c hc
    have hnumeric := Single.isNumeric_of_mem_text hc
    unfold escapeChar
    split
    case h_6 => rfl
    all_goals exact absurd hnumeric (by decide)
  unfold escape
  rw [List.flatMap_congr hplain]
  exact List.flatMap_singleton' _

theorem printLines_backdrop :
    printLines Single.text (backdrop color extent).groups = backgroundGroup color extent := by
  have hlayer : escape Layer.background.name.toList = "background".toList := rfl
  have hclass : escape "pn-mermaid-background".toList = "pn-mermaid-background".toList := rfl
  have hzero : Single.text (whole 0) = ['0'] := rfl
  rw [backdrop, Sketch.groups_single, Sketch.group]
  simp only [printLines, Node.print, printAttribute, Value.print, List.flatMap_cons,
    List.flatMap_nil, escape_text, hlayer, hclass]
  rw [hzero]
  unfold backgroundGroup backgroundTag backgroundRectangle
  simp

/-- A tag with another name than that of rectangles stands at the ends of the group only. -/
theorem occurring_backgroundGroup {c : Char} {known : List Char} (hc : c ≠ 'r')
    (hbreak : '\n' ∉ '<' :: c :: known) :
    occurring ['<' :: c :: known] (backgroundGroup color extent) =
      occurring ['<' :: c :: known] backgroundTag ++
        occurring ['<' :: c :: known] "</g>".toList := by
  have hne : [] ∉ ['<' :: c :: known] := by simp
  have hbreaks : ∀ k ∈ ['<' :: c :: known], '\n' ∉ k := List.forall_mem_singleton.mpr hbreak
  have hseam : IsSeam ['<' :: c :: known] '\n' := isSeam_of_forall_not_mem hbreaks
  -- all that the rectangle shows is escaped, or a number
  have hrectangle : occurring ['<' :: c :: known] (backgroundRectangle color extent) = [] := by
    have htext : ∀ x, '<' ∉ Single.text x := fun x hmem =>
      absurd (Single.isNumeric_of_mem_text hmem) (by decide)
    have hcolor : '<' ∉ escape color.css := not_mem_escape (by simp) _
    have hopening : "<rect class=\"pn-mermaid-background\" fill=\"".toList =
        '<' :: 'r' :: "ect class=\"pn-mermaid-background\" fill=\"".toList := rfl
    unfold backgroundRectangle
    rw [hopening]
    simp only [List.cons_append]
    refine occurring_tag (fun h => hc (Option.some.inj h).symm) ?_
    simp only [List.mem_cons, List.mem_append, not_or]
    exact ⟨by decide, ⟨⟨⟨⟨⟨by decide +kernel, hcolor⟩, by decide +kernel⟩, htext _⟩,
      by decide +kernel⟩, htext _⟩, by decide +kernel⟩
  have hend : "\n</g>".toList = '\n' :: "</g>".toList := rfl
  have hgroup : backgroundGroup color extent = '\n' :: (backgroundTag ++
      '\n' :: (backgroundRectangle color extent ++ '\n' :: "</g>".toList)) := by
    rw [backgroundGroup, hend, List.cons_append, List.cons_append]
    simp only [List.append_assoc, List.cons_append]
  rw [hgroup, occurring_cons_of_forall hbreaks hne, occurring_append_cons hne hseam,
    occurring_cons_of_forall hbreaks hne, occurring_append_cons hne hseam,
    occurring_cons_of_forall hbreaks hne, hrectangle, List.nil_append]

theorem occurrences_backgroundGroup :
    occurrences "</defs>".toList (backgroundGroup color extent) = 0 ∧
      occurrences backgroundTag (backgroundGroup color extent) = 1 := by
  have hdefs : "</defs>".toList = '<' :: '/' :: "defs>".toList := rfl
  have htag : backgroundTag = '<' :: 'g' :: " data-layer=\"background\">".toList := rfl
  constructor
  · rw [occurrences, hdefs, occurring_backgroundGroup color extent (by decide) (by decide +kernel)]
    decide +kernel
  · rw [occurrences, htag, occurring_backgroundGroup color extent (by decide) (by decide +kernel)]
    decide +kernel

end Group

/-! ## Documents -/

section Documents

variable {α : Type} [Coordinate α] (number : α → List Char) (extent : Extent α)

/-- Behind the definition of the arrow head, a document goes on with its groups. -/
theorem exists_print_root : ∃ before, ∀ groups, (root extent groups).print number =
    before ++ closing "defs" ++ (printLines number groups ++ '\n' :: closing "svg") := by
  obtain ⟨attributes, hroot⟩ : ∃ attributes, ∀ groups : List (Node α),
      root extent groups = .element "svg" attributes (Arrow.headDefinition :: groups) :=
    ⟨_, fun _ => rfl⟩
  obtain ⟨before, hbefore⟩ := exists_print_cons number "svg" attributes Arrow.headDefinition
  obtain ⟨inside, hinside⟩ : closing "defs" <:+ (Arrow.headDefinition : Node α).print number :=
    closing_suffix_print number ..
  refine ⟨before ++ inside, fun groups => ?_⟩
  rw [hroot, hbefore, ← hinside]
  simp only [List.append_assoc]

variable {s : Sketch α} (hnumber : ∀ x, '=' ∉ number x) (hs : s.IsPlain number)

include hnumber hs

/-- A document closes one definition, that of the arrow head. -/
theorem occurring_closing_root (hdefs : ∀ profile ∈ s.profiles number, "defs" ∉ profile.names) :
    occurring [closing "defs"] ((root extent s.groups).print number) = [closing "defs"] := by
  have hname : isName "defs" = true := isName_of_mem (by simp [elementNames])
  have hbelow : ∀ node ∈ s.groups, "defs" ∉ node.names := by
    have hcount := Sketch.count_names_groups number (show "defs" ≠ "g" by simp) s
    have hprofiles : ((s.profiles number).flatMap Profile.names).count "defs" = 0 := by
      rw [List.count_eq_zero, List.mem_flatMap]
      rintro ⟨profile, hprofile, hmem⟩
      exact hdefs profile hprofile hmem
    rw [hprofiles, List.count_eq_zero] at hcount
    exact fun node hnode hmem => hcount (List.mem_flatMap.mpr ⟨node, hnode, hmem⟩)
  have hgroups : (s.groups.flatMap fun node => occurring [closing "defs"] (node.print number)) =
      [] := by
    rw [List.flatMap_eq_nil_iff]
    intro node hnode
    exact occurring_closing_eq_nil hname number (Sketch.isPlain_groups number hs node hnode)
      (hbelow node hnode)
  have hhead : occurring [closing "defs"] ((Arrow.headDefinition : Node α).print number) =
      [closing "defs"] := by
    have hplain : (Arrow.headDefinition : Node α).IsPlain number :=
      Arrow.isPlain_headDefinition number hnumber
    obtain ⟨-, hchildren⟩ := (Node.isPlain_element_iff number).mp hplain
    have hmarker := occurring_closing_eq_nil hname number
      (hchildren _ (List.mem_singleton_self _)) (by simp)
    unfold Arrow.headDefinition at hplain ⊢
    rw [occurring_closing_element hname number hplain, List.flatMap_cons, hmarker]
    simp
  have hplain := isPlain_root number extent hnumber hs
  unfold root at hplain ⊢
  rw [occurring_closing_element hname number hplain, List.flatMap_cons, hhead, hgroups]
  simp

end Documents

/-! ## Pictures -/

/-- The group of a background stands between the definitions and what follows them on lines of its
own. -/
theorem Picture.exists_markup_eq (color : Color) (l : Layout Float32) :
    ∃ before after, after.head? = some '\n' ∧
      (Picture.ofLayout none l).markup = before ++ "</defs>".toList ++ after ∧
      (Picture.ofLayout (some color) l).markup =
        before ++ "</defs>".toList ++ backgroundGroup color l.extent ++ after := by
  have hdefs : "</defs>".toList = closing "defs" := rfl
  obtain ⟨before, hroot⟩ := exists_print_root Single.text l.extent
  refine ⟨before, printLines Single.text l.sketch.groups ++ '\n' :: closing "svg", ?_, ?_, ?_⟩
  · cases l.sketch.groups with
    | nil => rfl
    | cons group groups => rfl
  · rw [hdefs]
    exact hroot l.sketch.groups
  · show (root l.extent (l.sketchOn (some color)).groups).print Single.text = _
    rw [l.groups_sketchOn_some, hroot, hdefs, ← printLines_backdrop, printLines_append]
    simp only [List.append_assoc]
    rfl

namespace Diagram

variable {d : Diagram}

theorem isFigureProfile_of_mem_profiles {α : Type} [Coordinate α] (number : α → List Char)
    {l : Layout α} (hl : d.layout = .ok l) {profile : Profile}
    (h : profile ∈ l.sketch.profiles number) : IsFigureProfile profile := by
  rcases cases_of_layout hl with ⟨c, direction, l, rfl, hlayout, rfl⟩ | ⟨c, l, rfl, hlayout, rfl⟩
  · exact Flow.Chart.isFigureProfile_of_mem_profiles number hlayout h
  · exact Sequence.Conversation.isFigureProfile_of_mem_profiles number hlayout h

/-- Labels cannot imitate the end of the definitions or the group of a background. -/
theorem occurrences_markup {l : Layout Float32} (hl : d.layout = .ok l) :
    occurrences "</defs>".toList (Picture.ofLayout none l).markup = 1 ∧
      occurrences backgroundTag (Picture.ofLayout none l).markup = 0 := by
  have hplain : l.sketch.IsPlain Single.text := isPlain_sketch Single.text equals_not_mem_text hl
  have hfigures : ∀ profile ∈ l.sketch.profiles Single.text, IsFigureProfile profile :=
    fun profile => isFigureProfile_of_mem_profiles Single.text hl
  have hmarkup : (Picture.ofLayout none l).markup =
      (root l.extent l.sketch.groups).print Single.text := rfl
  constructor
  · have hdefs : "</defs>".toList = closing "defs" := rfl
    rw [hmarkup, hdefs, occurrences, occurring_closing_root Single.text l.extent equals_not_mem_text
      hplain fun profile hprofile => (hfigures profile hprofile).defs_not_mem_names]
    rfl
  · -- the tag would hold the name of the layer, which no group has
    rw [hmarkup, occurrences_eq_zero_iff]
    intro hwithin
    have htelling : "data-layer" ∈ tellingNames := by simp [tellingNames]
    have hmark : isMark (assignment "data-layer" ("background".toList ++ ['"'])) = true := by
      decide +kernel
    have hcount := occurrences_value Single.text htelling hmark
      (isPlain_root Single.text l.extent equals_not_mem_text hplain)
    rw [dataLayer_root Single.text l.extent fun profile hprofile =>
      (hfigures profile hprofile).layers_eq_nil] at hcount
    have hzero : ((Layer.all.filter fun layer => l.sketch.on layer ≠ []).map
        fun layer => layer.name.toList).count "background".toList = 0 := by
      rw [List.count_eq_zero, List.mem_map]
      rintro ⟨layer, hlayer, hname⟩
      have hshown : l.sketch.on layer ≠ [] := by simpa using (List.mem_filter.mp hlayer).2
      cases layer with
      | background => exact hshown l.on_background_sketch
      | lifeline => exact absurd hname (by decide +kernel)
      | arrow => exact absurd hname (by decide +kernel)
      | content => exact absurd hname (by decide +kernel)
      | text => exact absurd hname (by decide +kernel)
    rw [hzero, occurrences_eq_zero_iff] at hcount
    have hattribute : assignment "data-layer" ("background".toList ++ ['"']) <:+: backgroundTag :=
      ⟨"<g ".toList, ">".toList, by decide +kernel⟩
    exact hcount (hattribute.trans hwithin)

/-- A background adds its group to the markup of a described diagram, right behind the only
definition in it, and changes nothing else. -/
theorem IsDescribed.exists_render_background (hd : d.IsDescribed) {text : List Char}
    {color : Color} (hcolor : Color.ofText text = .ok color) :
    ∃ p q before after, d.render {} = .ok p ∧ d.render { background := some text } = .ok q ∧
      q.kind = p.kind ∧ q.extent = p.extent ∧
      p.markup = before ++ "</defs>".toList ++ after ∧
      q.markup = before ++ "</defs>".toList ++ backgroundGroup color p.extent ++ after ∧
      occurrences "</defs>".toList p.markup = 1 ∧ occurrences "</defs>".toList q.markup = 1 ∧
      occurrences backgroundTag p.markup = 0 ∧ occurrences backgroundTag q.markup = 1 := by
  obtain ⟨l, hl⟩ := hd.exists_layout (α := Float32)
  have hbackground : ({ background := some text } : Config).backgroundColor = .ok (some color) := by
    simp only [Config.backgroundColor, hcolor]
  obtain ⟨before, after, hhead, hplain, hcolored⟩ := Picture.exists_markup_eq color l
  obtain ⟨hdefs, htag⟩ := occurrences_markup hl
  obtain ⟨hdefs', htag'⟩ := occurrences_backgroundGroup color l.extent
  -- what does not reach across lines occurs in the group or in the rest
  have hinsert : ∀ known, known ≠ [] → '\n' ∉ known →
      occurrences known (Picture.ofLayout (some color) l).markup =
        occurrences known (Picture.ofLayout none l).markup +
          occurrences known (backgroundGroup color l.extent) := by
    intro known hne hbreak
    have hseam : IsSeam [known] '\n' :=
      isSeam_of_forall_not_mem (List.forall_mem_singleton.mpr hbreak)
    rw [hplain, hcolored]
    exact occurrences_insert hne hseam rfl hhead
  refine ⟨.ofLayout none l, .ofLayout (some color) l, before, after,
    Diagram.render_eq_ok_iff.mpr ⟨l, none, hl, rfl, rfl⟩,
    Diagram.render_eq_ok_iff.mpr ⟨l, some color, hl, hbackground, rfl⟩, rfl, rfl, hplain, hcolored,
    hdefs, ?_, htag, ?_⟩
  · rw [hinsert _ (by decide +kernel) (by decide +kernel), hdefs, hdefs']
  · rw [hinsert _ (by decide +kernel) (by decide +kernel), htag, htag']

/-- A message whose text imitates the end of the definitions. -/
def closingImitation : Diagram :=
  .sequence (.ofEvents [.send ['A'] ['B'] "</defs>".toList])

theorem exists_render_background_red : closingImitation.IsDescribed ∧
    Color.ofText "red".toList = .ok (.named "red".toList) ∧
    ∃ p q before after, closingImitation.render {} = .ok p ∧
      closingImitation.render { background := some "red".toList } = .ok q ∧
      q.kind = p.kind ∧ q.extent = p.extent ∧
      p.markup = before ++ "</defs>".toList ++ after ∧
      q.markup = before ++ "</defs>".toList ++
        backgroundGroup (.named "red".toList) p.extent ++ after ∧
      occurrences "</defs>".toList p.markup = 1 ∧ occurrences "</defs>".toList q.markup = 1 ∧
      occurrences backgroundTag p.markup = 0 ∧ occurrences backgroundTag q.markup = 1 := by
  have hdescribed : closingImitation.IsDescribed := .sequence _
  have hred : Color.ofText "red".toList = .ok (.named "red".toList) := by rfl
  exact ⟨hdescribed, hred, hdescribed.exists_render_background hred⟩

end Diagram

end TextDiagram
