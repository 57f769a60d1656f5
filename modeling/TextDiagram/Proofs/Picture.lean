import TextDiagram.CodeBlock
import TextDiagram.Proofs.Except
import TextDiagram.Proofs.Svg.Node
import TextDiagram.Proofs.Svg.Sketch

/-!
# Pictures and their background

No part of a diagram lies on the background (`on_background_sketch`), so that a backdrop adds a
group of its own and makes the markup longer (`length_markup_lt`). Main statements: a source becomes
a picture in three steps (`render_eq_ok_iff`), and it is shown as that picture exactly when no
background is configured (`display_eq_markup_iff`). What a source is shown as opens as a picture or
as a block of code (`opening_display`).
-/

namespace TextDiagram

open Coordinate Svg

/-! ## The layers of figures -/

section Layers

variable {α : Type}

theorem Arrow.on_background_sketch (a : Arrow α) : a.sketch.on .background = [] := rfl

variable [Coordinate α]

theorem Lifeline.on_background_draw (l : Lifeline α) (p : Point α) :
    (l.draw p).on .background = [] := rfl

theorem Label.on_background_draw (l : Label) (p : Point α) : (l.draw p).on .background = [] := by
  unfold Label.draw
  split
  · rfl
  · rfl

theorem Box.on_background_draw (b : Box α) (p : Point α) : (b.draw p).on .background = [] := by
  unfold Box.draw
  split
  · rfl
  · next label _ =>
    rw [Sketch.on_append, label.on_background_draw, List.append_nil]
    rfl

/-- No part of a diagram lies on the background. -/
theorem Layout.on_background_sketch (l : Layout α) : l.sketch.on .background = [] := by
  cases l with
  | flow layout =>
    refine Sketch.on_join_eq_nil fun s hs => ?_
    rcases List.mem_append.mp hs with hs | hs
    · obtain ⟨n, _, rfl⟩ := List.mem_map.mp hs
      exact n.box.figure.on_background_draw n.box.position
    · obtain ⟨a, _, rfl⟩ := List.mem_map.mp hs
      exact a.on_background_sketch
  | sequence layout =>
    refine Sketch.on_join_eq_nil fun s hs => ?_
    rcases List.mem_append.mp hs with hs | hs
    · obtain ⟨p, _, rfl⟩ := List.mem_map.mp hs
      have hhead : p.head.sketch.on .background = [] :=
        p.head.figure.on_background_draw p.head.position
      have hlifeline : p.lifeline.sketch.on .background = [] :=
        p.lifeline.figure.on_background_draw p.lifeline.position
      rw [Sequence.PlacedParticipant.sketch, Sketch.on_append, hhead, hlifeline, List.append_nil]
    · obtain ⟨m, _, rfl⟩ := List.mem_map.mp hs
      unfold Sequence.PlacedMessage.sketch
      split
      · exact m.arrow.on_background_sketch
      · next label _ =>
        have hlabel : label.sketch.on .background = [] :=
          label.figure.on_background_draw label.position
        rw [Sketch.on_append, m.arrow.on_background_sketch, hlabel, List.append_nil]

/-- A backdrop is a group of its own, below all others. -/
theorem Layout.groups_sketchOn_some (color : Color) (l : Layout α) :
    (l.sketchOn (some color)).groups =
      (backdrop color l.extent).groups ++ (l.sketchOn none).groups := by
  rw [backdrop, Sketch.groups_single]
  exact Sketch.groups_append_single l.on_background_sketch _

end Layers

/-! ## The markup -/

/-- A backdrop makes the markup longer. -/
theorem Picture.length_markup_lt (color : Color) (l : Layout Float32) :
    (Picture.ofLayout none l).markup.length < (Picture.ofLayout (some color) l).markup.length := by
  show (Node.print Single.text (root l.extent (l.sketchOn none).groups)).length <
    (Node.print Single.text (root l.extent (l.sketchOn (some color)).groups)).length
  rw [l.groups_sketchOn_some, backdrop, Sketch.groups_single]
  exact length_print_lt Single.text "svg" _ _ _ _

/-- The markup of a picture opens with the tag of its root. -/
theorem Picture.opening_markup (background : Option Color) (l : Layout Float32) :
    "<svg".toList <+: (Picture.ofLayout background l).markup := by
  show "<svg".toList <+: Node.print Single.text (root l.extent (l.sketchOn background).groups)
  rw [root, print_element]
  exact List.prefix_append _ _

/-! ## From a source to a picture -/

/-- A configuration without a background has no colour for it, and only such a configuration. -/
theorem Config.backgroundColor_eq_none_iff {config : Config} :
    config.backgroundColor = .ok none ↔ config.background = none := by
  unfold Config.backgroundColor
  cases config.background with
  | none => simp
  | some text =>
    cases hc : Color.ofText text with
    | ok color => simp [hc]
    | error fault => simp [hc]

/-- A diagram becomes a picture when it can be laid out and the background is a colour. -/
theorem Diagram.render_eq_ok_iff {config : Config} {d : Diagram} {p : Picture} :
    d.render config = .ok p ↔ ∃ l background, d.layout = .ok l ∧
      config.backgroundColor = .ok background ∧ p = .ofLayout background l := by
  unfold render
  simp only [bind_eq_ok_iff, mapError_eq_ok_iff]
  constructor
  · rintro ⟨l, hl, background, hb, hp⟩
    exact ⟨l, background, hl, hb, (Except.ok.inj hp).symm⟩
  · rintro ⟨l, background, hl, hb, rfl⟩
    exact ⟨l, hl, background, hb, rfl⟩

/-- A source becomes a picture when it describes a diagram that can be laid out, and the background
is a colour. -/
theorem render_eq_ok_iff {config : Config} {source : List Char} {p : Picture} :
    render config source = .ok p ↔ ∃ d l background, Diagram.ofSource source = .ok d ∧
      d.layout = .ok l ∧ config.backgroundColor = .ok background ∧
        p = .ofLayout background l := by
  unfold render
  simp only [bind_eq_ok_iff, mapError_eq_ok_iff, Diagram.render_eq_ok_iff]
  constructor
  · rintro ⟨d, hd, l, background, hl, hb, hp⟩
    exact ⟨d, l, background, hd, hl, hb, hp⟩
  · rintro ⟨d, l, background, hd, hl, hb, hp⟩
    exact ⟨d, hd, l, background, hl, hb, hp⟩

theorem opening_markup_of_render {config : Config} {source : List Char} {p : Picture}
    (h : render config source = .ok p) : "<svg".toList <+: p.markup := by
  obtain ⟨d, l, background, -, -, -, rfl⟩ := render_eq_ok_iff.mp h
  exact Picture.opening_markup background l

/-- What a source is shown as opens as a picture or as a block of code. -/
theorem opening_display (source : List Char) :
    "<svg".toList <+: display source ∨ codeBlockOpening <+: display source := by
  cases h : picture source with
  | ok p =>
    rw [display_eq_markup h]
    exact Or.inl (opening_markup_of_render (mapError_eq_ok_iff.mp h))
  | error e =>
    rw [display_eq_codeBlock h, codeBlock, List.append_assoc]
    exact Or.inr (List.prefix_append _ _)

/-- A source that becomes a picture is shown as the same picture if no background is configured, and
only then. -/
theorem display_eq_markup_iff {config : Config} {source : List Char} {p : Picture}
    (h : render config source = .ok p) : display source = p.markup ↔ config.background = none := by
  obtain ⟨d, l, background, hd, hl, hb, rfl⟩ := render_eq_ok_iff.mp h
  have hplain : picture source = .ok (.ofLayout none l) := by
    have hrender : render {} source = .ok (.ofLayout none l) :=
      render_eq_ok_iff.mpr ⟨d, l, none, hd, hl, rfl, rfl⟩
    rw [picture, hrender]
    rfl
  rw [display_eq_markup hplain, ← Config.backgroundColor_eq_none_iff, hb]
  cases background with
  | none => simp
  | some color =>
    have hlt := Picture.length_markup_lt color l
    have hne : (Picture.ofLayout none l).markup ≠ (Picture.ofLayout (some color) l).markup :=
      fun he => absurd (congrArg List.length he) (Nat.ne_of_lt hlt)
    simp [hne]

end TextDiagram
