import TextDiagram.Proofs.Diagram
import TextDiagram.Proofs.Flow.Layout
import TextDiagram.Proofs.Picture
import TextDiagram.Proofs.Sequence.Layout

/-!
# Which sources become pictures

A diagram that is described step by step is closed: its edges and messages end at nodes and
participants that it has. So its layout never fails (`Diagram.IsDescribed.exists_layout`), and every
source describes such a diagram or none (`Diagram.isDescribed_of_ofSource`). Main statement: a
source becomes a picture unless it describes no diagram or the background is no colour, and the
first of these is the error (`render_outcome`).
-/

namespace TextDiagram

/-! ## Described diagrams -/

/-- A diagram is described by a list of mentions, or of events. -/
inductive Diagram.IsDescribed : Diagram → Prop
  /-- A flow chart is described by what its statements mention. -/
  | flow (history : List Flow.Mention) (direction : Flow.Direction) :
    IsDescribed (.flow (.ofMentions history) direction)
  /-- A sequence diagram is described by what happens in it. -/
  | sequence (events : List Sequence.Event) : IsDescribed (.sequence (.ofEvents events))

namespace Diagram

variable {α : Type} [Coordinate α] {d : Diagram}

theorem layout_flow_eq_ok_iff {c : Flow.Chart} {direction : Flow.Direction} {l : Layout α} :
    (flow c direction).layout = .ok l ↔ ∃ l', c.layout direction = .ok l' ∧ .flow l' = l := by
  unfold layout
  simp only [map_eq_ok_iff, mapError_eq_ok_iff]

theorem layout_sequence_eq_ok_iff {c : Sequence.Conversation} {l : Layout α} :
    (sequence c).layout = .ok l ↔ ∃ l', c.layout = .ok l' ∧ .sequence l' = l := by
  unfold layout
  simp only [map_eq_ok_iff, mapError_eq_ok_iff]

/-- A layout is that of a flow chart or that of a conversation. -/
theorem cases_of_layout {l : Layout α} (h : d.layout = .ok l) :
    (∃ c direction l', d = .flow c direction ∧ c.layout direction = .ok l' ∧ l = .flow l') ∨
      ∃ c l', d = .sequence c ∧ c.layout = .ok l' ∧ l = .sequence l' := by
  cases d with
  | flow c direction =>
    obtain ⟨l', hl, rfl⟩ := layout_flow_eq_ok_iff.mp h
    exact .inl ⟨c, direction, l', rfl, hl, rfl⟩
  | sequence c =>
    obtain ⟨l', hl, rfl⟩ := layout_sequence_eq_ok_iff.mp h
    exact .inr ⟨c, l', rfl, hl, rfl⟩

theorem IsDescribed.isClosed_flow {c : Flow.Chart} {direction : Flow.Direction}
    (h : (Diagram.flow c direction).IsDescribed) : c.IsClosed := by
  cases h
  exact Flow.Chart.isClosed_ofMentions _

theorem IsDescribed.isClosed_sequence {c : Sequence.Conversation}
    (h : (Diagram.sequence c).IsDescribed) : c.IsClosed := by
  cases h
  exact Sequence.Conversation.isClosed_ofEvents _

/-- A described diagram can be laid out. -/
theorem IsDescribed.exists_layout (h : d.IsDescribed) : ∃ l : Layout α, d.layout = .ok l := by
  cases h with
  | flow history direction =>
    obtain ⟨l, hl⟩ := (Flow.Chart.isClosed_ofMentions history).exists_layout (α := α) direction
    exact ⟨.flow l, layout_flow_eq_ok_iff.mpr ⟨l, hl, rfl⟩⟩
  | sequence events =>
    obtain ⟨l, hl⟩ := (Sequence.Conversation.isClosed_ofEvents events).exists_layout (α := α)
    exact ⟨.sequence l, layout_sequence_eq_ok_iff.mpr ⟨l, hl, rfl⟩⟩

/-- The diagram of a source is described by its statements. -/
theorem isDescribed_of_ofSource {source : List Char} (h : ofSource source = .ok d) :
    d.IsDescribed := by
  obtain ⟨first, rest, -, ⟨-, h⟩ | ⟨direction, -, h⟩ | ⟨-, h⟩⟩ := ofSource_eq_ok_iff.mp h
  · obtain ⟨-, -, rfl⟩ := ofSequence_eq_ok_iff.mp h
    exact .sequence _
  · obtain ⟨-, rfl⟩ := ofFlow_eq_ok_iff.mp h
    exact .flow _ direction
  · obtain ⟨-, rfl⟩ := ofFlow_eq_ok_iff.mp h
    exact .flow _ .down

end Diagram

/-! ## The steps of rendering -/

/-- A configuration asks for a background, and this is no colour for a reason. -/
def Config.IsRefused (config : Config) (text : List Char) (fault : ColorError) : Prop :=
  config.background = some text ∧ Color.ofText text = .error fault

theorem Config.backgroundColor_eq_error_iff {config : Config} {e : RenderError} :
    config.backgroundColor = .error e ↔
      ∃ text fault, config.IsRefused text fault ∧ e = .background text fault := by
  unfold Config.backgroundColor Config.IsRefused
  cases config.background with
  | none => simp
  | some text =>
    simp only [Option.some.injEq]
    cases hc : Color.ofText text with
    | ok color =>
      constructor
      · intro h
        cases h
      · rintro ⟨text', fault, ⟨rfl, hc'⟩, -⟩
        rw [hc] at hc'
        cases hc'
    | error fault =>
      constructor
      · intro h
        exact ⟨text, fault, ⟨rfl, hc⟩, (Except.error.inj h).symm⟩
      · rintro ⟨text', fault', ⟨rfl, hc'⟩, rfl⟩
        rw [Except.error.inj (hc.symm.trans hc')]

namespace Diagram

variable {config : Config} {d : Diagram}

/-- A described diagram fails to be rendered only for its background. -/
theorem IsDescribed.render_eq_error_iff (h : d.IsDescribed) {e : RenderError} :
    d.render config = .error e ↔
      ∃ text fault, config.IsRefused text fault ∧ e = .background text fault := by
  obtain ⟨l, hl⟩ := h.exists_layout (α := Float32)
  rw [← Config.backgroundColor_eq_error_iff]
  unfold render
  rw [hl]
  show (config.backgroundColor >>= fun background => .ok (Picture.ofLayout background l)) =
    .error e ↔ config.backgroundColor = .error e
  rw [bind_eq_error_iff]
  simp

end Diagram

/-- A source fails to become a picture if it describes no diagram, and otherwise only for the
background. -/
theorem render_eq_error_iff {config : Config} {source : List Char} {e : RenderError} :
    render config source = .error e ↔
      (∃ fault, Diagram.ofSource source = .error fault ∧ e = .source fault) ∨
      ((∃ d, Diagram.ofSource source = .ok d) ∧
        ∃ text fault, config.IsRefused text fault ∧ e = .background text fault) := by
  unfold render
  rw [bind_eq_error_iff]
  simp only [mapError_eq_error_iff, mapError_eq_ok_iff]
  constructor
  · rintro (⟨fault, hfault, rfl⟩ | ⟨d, hd, he⟩)
    · exact Or.inl ⟨fault, hfault, rfl⟩
    · have hdescribed : d.IsDescribed := Diagram.isDescribed_of_ofSource hd
      exact Or.inr ⟨⟨d, hd⟩, hdescribed.render_eq_error_iff.mp he⟩
  · rintro (⟨fault, hfault, rfl⟩ | ⟨⟨d, hd⟩, hrefused⟩)
    · exact Or.inl ⟨fault, hfault, rfl⟩
    · have hdescribed : d.IsDescribed := Diagram.isDescribed_of_ofSource hd
      exact Or.inr ⟨d, hd, hdescribed.render_eq_error_iff.mpr hrefused⟩

theorem Config.exists_backgroundColor {config : Config}
    (h : ∀ text fault, ¬ config.IsRefused text fault) :
    ∃ background, config.backgroundColor = .ok background := by
  cases hb : config.backgroundColor with
  | ok background => exact ⟨background, rfl⟩
  | error e =>
    obtain ⟨text, fault, hrefused, -⟩ := backgroundColor_eq_error_iff.mp hb
    exact absurd hrefused (h text fault)

/-- What becomes of a source: it is refused as the source of a diagram; or else the background is
refused as a colour; or else it becomes a picture of the kind of the diagram and with the extent of
its layout. No layout fails, neither that of a source nor that of any other described diagram. -/
theorem render_outcome (config : Config) (source : List Char) :
    (∀ fault, render config source = .error (.source fault) ↔
      Diagram.ofSource source = .error fault) ∧
    (∀ text fault, render config source = .error (.background text fault) ↔
      (∃ d, Diagram.ofSource source = .ok d) ∧ config.IsRefused text fault) ∧
    (∀ d, Diagram.ofSource source = .ok d → (∀ text fault, ¬ config.IsRefused text fault) →
      ∃ l p, d.layout = .ok l ∧ render config source = .ok p ∧
        p.kind = d.kind ∧ p.extent = l.extent) ∧
    (∀ fault, render config source ≠ .error (.layout fault)) ∧
    (∀ d : Diagram, d.IsDescribed → ∀ fault, d.render config ≠ .error (.layout fault)) ∧
    ((∃ p, picture source = .ok p) ↔ ∃ d, Diagram.ofSource source = .ok d) := by
  refine ⟨fun fault => ?_, fun text fault => ?_, fun d hd hb => ?_, fun fault h => ?_,
    fun d hdescribed fault h => ?_, ?_⟩
  · rw [render_eq_error_iff]
    simp
  · rw [render_eq_error_iff]
    simp
  · obtain ⟨l, hl⟩ := (Diagram.isDescribed_of_ofSource hd).exists_layout (α := Float32)
    obtain ⟨background, hbackground⟩ := Config.exists_backgroundColor hb
    have hrender : render config source = .ok (.ofLayout background l) :=
      render_eq_ok_iff.mpr ⟨d, l, background, hd, hl, hbackground, rfl⟩
    exact ⟨l, _, hl, hrender, Diagram.kind_layout hl, rfl⟩
  · rcases render_eq_error_iff.mp h with ⟨_, -, h⟩ | ⟨-, _, _, -, h⟩
    · cases h
    · cases h
  · obtain ⟨_, _, -, h⟩ := hdescribed.render_eq_error_iff.mp h
    cases h
  · unfold picture
    simp only [mapError_eq_ok_iff, render_eq_ok_iff]
    constructor
    · rintro ⟨p, d, l, background, hd, -⟩
      exact ⟨d, hd⟩
    · rintro ⟨d, hd⟩
      obtain ⟨l, hl⟩ := (Diagram.isDescribed_of_ofSource hd).exists_layout (α := Float32)
      exact ⟨_, d, l, none, hd, hl, rfl, rfl⟩

end TextDiagram
