import TextDiagram.Proofs.Rendering
import TextDiagram.Proofs.Svg.Escape

/-!
# What is shown as code

A source that describes no diagram is shown as code, and one that does is shown as its picture
(`picture_eq_error_iff`). The closing tags of a block of code occur at its end only
(`eq_nil_of_codeBlock_eq`). Main statement: nothing of a source is lost in the block of code as which
it is shown, so that different sources have different blocks (`display_lossless`).
-/

namespace TextDiagram

open Svg Text

theorem picture_eq_error_iff {source : List Char} {e : Unrenderable} :
    picture source = .error e ↔ ∃ fault, Diagram.ofSource source = .error fault := by
  unfold picture
  simp only [mapError_eq_error_iff, render_eq_error_iff]
  constructor
  · rintro ⟨_, ⟨fault, hfault, -⟩ | ⟨-, _, _, ⟨hbackground, -⟩, -⟩, -⟩
    · exact ⟨fault, hfault⟩
    · cases hbackground
  · rintro ⟨fault, hfault⟩
    exact ⟨.source fault, Or.inl ⟨fault, hfault, rfl⟩, trivial⟩

/-- In front of the closing tags of a block of code no tag is closed. -/
theorem slash_not_infix_of_codeBlock {code : List Char} (h : '<' ∉ code) :
    ¬ ['<', '/'] <:+: codeBlockOpening ++ code := by
  have hopening : codeBlockOpening = "<pre><code class=\"language-mermaid\"".toList ++ ['>'] := rfl
  rw [hopening, List.append_assoc, List.singleton_append, infix_append_cons_iff (by decide), not_or]
  constructor
  · decide +kernel
  · intro hwithin
    exact h (hwithin.subset (List.mem_cons_self ..))

theorem eq_nil_of_codeBlock_eq {code a b : List Char} (h : '<' ∉ code)
    (heq : codeBlockOpening ++ code ++ codeBlockClosing = a ++ codeBlockClosing ++ b) : b = [] := by
  have hclosing : codeBlockClosing = '<' :: '/' :: "code></pre>".toList := rfl
  rw [List.append_assoc a] at heq
  rcases List.append_eq_append_iff.mp heq with ⟨r, -, hr⟩ | ⟨r, hr, hb⟩
  · -- the tags stand behind the code, where there is room only for themselves
    have hlength := congrArg List.length hr
    simp only [List.length_append] at hlength
    exact List.length_eq_zero_iff.mp (by omega)
  · -- the tags begin within the block, so that a tag would be closed there
    rw [hclosing] at hb
    match r, hb with
    | [], hb =>
      exact (List.append_right_eq_self.mp hb)
    | [d], hb => simp at hb
    | d :: d' :: r, hb =>
      simp only [List.cons_append, List.cons.injEq] at hb
      obtain ⟨rfl, rfl, -⟩ := hb
      refine absurd ?_ (slash_not_infix_of_codeBlock h)
      rw [hr]
      exact ⟨a, r, by simp⟩

theorem display_of_ofSource_eq_error {source : List Char} {fault : SourceError}
    (h : Diagram.ofSource source = .error fault) : display source = codeBlock source :=
  display_eq_codeBlock (e := ⟨⟩) (picture_eq_error_iff.mpr ⟨fault, h⟩)

theorem opening_display_iff {source : List Char} :
    "<svg".toList <+: display source ↔ ∃ d, Diagram.ofSource source = .ok d := by
  cases h : Diagram.ofSource source with
  | error fault =>
    rw [display_of_ofSource_eq_error h, codeBlock, List.append_assoc]
    constructor
    · intro hprefix
      rcases List.prefix_or_prefix_of_prefix hprefix (List.prefix_append ..) with hp | hp
      · exact absurd hp (by decide +kernel)
      · exact absurd hp (by decide +kernel)
    · rintro ⟨d, hd⟩
      cases hd
  | ok d =>
    cases hp : picture source with
    | error e =>
      obtain ⟨fault, hfault⟩ := picture_eq_error_iff.mp hp
      rw [h] at hfault
      cases hfault
    | ok p =>
      have hopening := opening_markup_of_render (mapError_eq_ok_iff.mp hp)
      rw [display_eq_markup hp]
      exact iff_of_true hopening ⟨d, rfl⟩

/-- A source is shown as a picture if it describes a diagram. Otherwise it is shown as a block of
code that holds nothing which opens or closes markup or quotes, in which every ampersand begins an
entity, and which gives the source back when the entities are replaced. The closing tags occur at the
end of the block only, and no other source is shown as the same block. -/
theorem display_lossless (source : List Char) :
    ("<svg".toList <+: display source ↔ ∃ d, Diagram.ofSource source = .ok d) ∧
    ∀ fault, Diagram.ofSource source = .error fault →
      ∃ code, display source =
          "<pre><code class=\"language-mermaid\">".toList ++ code ++ "</code></pre>".toList ∧
        (∀ c ∈ ['<', '>', '"', '\''], c ∉ code) ∧
        (∀ a b, code = a ++ '&' :: b → ∃ entity ∈ entities, entity <+: '&' :: b) ∧
        unescape code = source ∧
        (∀ a b, display source = a ++ "</code></pre>".toList ++ b → b = []) ∧
        ∀ other fault', Diagram.ofSource other = .error fault' →
          display other = display source → other = source := by
  refine ⟨opening_display_iff, fun fault hfault => ?_⟩
  have hshown : display source = codeBlock source := display_of_ofSource_eq_error hfault
  refine ⟨escape source, hshown, fun c hc => not_mem_escape hc source,
    fun a b => exists_entity_prefix_of_escape_eq, unescape_escape source, fun a b heq => ?_,
    fun other fault' hfault' heq => ?_⟩
  · rw [hshown] at heq
    exact eq_nil_of_codeBlock_eq (not_mem_escape (by simp) source) heq
  · rw [hshown, display_of_ofSource_eq_error hfault', codeBlock, codeBlock] at heq
    exact escape_injective (List.append_cancel_left (List.append_cancel_right heq))

/-- A source that describes no diagram and holds what looks like an entity and a closing tag. -/
def escapedSource : List Char := "pie &amp;lt; '</code></pre>'".toList

theorem display_lossless_escaped :
    Diagram.ofSource escapedSource = .error (.unrecognized "pie &amp".toList) ∧
    Diagram.ofSource "pie".toList = .error (.unrecognized "pie".toList) ∧
    ∃ code, display escapedSource =
        "<pre><code class=\"language-mermaid\">".toList ++ code ++ "</code></pre>".toList ∧
      unescape code = escapedSource ∧ '<' ∉ code ∧
      (∀ a b, display escapedSource = a ++ "</code></pre>".toList ++ b → b = []) ∧
      display "pie".toList ≠ display escapedSource := by
  have hsource : Diagram.ofSource escapedSource = .error (.unrecognized "pie &amp".toList) := by
    rfl
  have hother : Diagram.ofSource "pie".toList = .error (.unrecognized "pie".toList) := by
    rfl
  obtain ⟨-, h⟩ := display_lossless escapedSource
  obtain ⟨code, hshown, hquiet, -, hcode, hclosing, hdifferent⟩ := h _ hsource
  refine ⟨hsource, hother, code, hshown, hcode, hquiet '<' (by simp), hclosing, fun heq => ?_⟩
  exact absurd (hdifferent _ _ hother heq) (by decide +kernel)

end TextDiagram
