import TextDiagram.Proofs.CodeBlock
import TextDiagram.Proofs.Command.Fallback
import TextDiagram.Proofs.Markup

/-!
# Files as XML

What a request writes is the picture of its source, on the background of its configuration if it has
one, or with the fallback a block of code in its place. Main statement: a picture is an element of
XML unless it shows a character of the source that is not permitted, also as it stands in the file
that is written (`isXmlUnlessShown_picture_and_file`).
-/

namespace TextDiagram.Command

open Svg Text

/-- The result of a request is an element of XML unless it shows a character that is not permitted,
if its source becomes a picture. If not, the request has the fallback, and the result is code. -/
theorem isXmlUnlessShown_of_prepare {look : Path → Found} {system : Option Path} {r : Request}
    {text : List Char} (h : r.prepare look system = .ok text) :
    ∃ source, (look r.input).text = .ok source ∧
      ((∃ p, picture source = .ok p) → IsXmlUnlessShown source text) ∧
      ∀ e, picture source = .error e → r.fallback = true ∧ text = codeBlock source := by
  obtain ⟨source, hsource, ⟨config, p, hp, rfl⟩ | ⟨hfallback, rfl⟩⟩ := exists_of_prepare_eq_ok h
  · refine ⟨source, hsource, fun _ => isXmlUnlessShown_of_render hp, fun e he => ?_⟩
    obtain ⟨fault, hfault⟩ := picture_eq_error_iff.mp he
    obtain ⟨d, -, -, hd, -⟩ := render_eq_ok_iff.mp hp
    rw [hfault] at hd
    cases hd
  · refine ⟨source, hsource, ?_, fun e he => ⟨hfallback, display_eq_codeBlock he⟩⟩
    rintro ⟨p, hp⟩
    rw [display_eq_markup hp]
    exact isXmlUnlessShown_of_render (mapError_eq_ok_iff.mp hp)

/-- The markup of a picture is an element of XML unless a label shows a character of the source that
is not permitted, and so is what a request writes to its file if the source becomes a picture. -/
theorem isXmlUnlessShown_picture_and_file :
    (∀ source p, picture source = .ok p → IsXmlUnlessShown source p.markup) ∧
    ∀ (workingFolder : Place) (system : Option Path) (r : Request) (d : Disk workingFolder),
      (r.run system d).1 = .ok () → ∃ source place text, (d.look r.input).text = .ok source ∧
        (r.run system d).2.target r.output = .file place (.text text) ∧
        ((∃ p, picture source = .ok p) → IsXmlUnlessShown source text) ∧
        ∀ e, picture source = .error e → r.fallback = true ∧ text = codeBlock source := by
  constructor
  · intro source p hp
    exact isXmlUnlessShown_of_render (mapError_eq_ok_iff.mp hp)
  · intro workingFolder system r d h
    obtain ⟨place, text, hprepare, htarget, -⟩ := exists_of_run_eq_ok h
    obtain ⟨source, hsource, hshown, hcode⟩ := isXmlUnlessShown_of_prepare hprepare
    exact ⟨source, place, text, hsource, htarget, hshown, hcode⟩

/-- The picture of two nodes, by itself and on a background in a file. -/
theorem isXmlUnlessShown_picture_and_file_red :
    (∃ p, picture "A --> B".toList = .ok p ∧ IsXmlElement p.markup) ∧
    ∃ place text, (redRequest.run none redDisk).2.target redRequest.output =
      .file place (.text text) ∧ IsXmlElement text := by
  obtain ⟨hpicture, hfile⟩ := isXmlUnlessShown_picture_and_file
  have hall : "A --> B".toList.all isXmlChar = true := by decide +kernel
  have hpermitted : ∀ x ∈ "A --> B".toList, isBlank x = false → isXmlChar x = true :=
    fun x hx _ => List.all_eq_true.mp hall x hx
  have hok : ((picture "A --> B".toList).map fun _ => ()) = .ok () :=
    eq_ok_of_toOption (by decide +kernel)
  obtain ⟨p, hp, -⟩ := map_eq_ok_iff.mp hok
  have hrun : (redRequest.run none redDisk).1 = .ok () := eq_ok_of_toOption (by decide +kernel)
  obtain ⟨source, place, text, hsource, htarget, hshown, -⟩ := hfile _ none redRequest redDisk hrun
  have heq : (redDisk.look redRequest.input).text = .ok "A --> B".toList :=
    eq_ok_of_toOption (by decide +kernel)
  obtain rfl : "A --> B".toList = source := Except.ok.inj (heq.symm.trans hsource)
  exact ⟨⟨p, hp, ((hpicture _ p hp).permitted hpermitted).2⟩, place, text, htarget,
    ((hshown ⟨p, hp⟩).permitted hpermitted).2⟩

/-- A label with a character that XML does not permit. -/
def bellSource : List Char := "flowchart TD\nA[a\x01b]".toList

/-- Not all characters of a picture are permitted: nothing takes a character out of a label. -/
theorem not_forall_isXmlChar_markup :
    ¬ ∀ source p, picture source = .ok p → ∀ x ∈ p.markup, isXmlChar x = true := by
  intro h
  have hok : ((picture bellSource).map fun _ => ()) = .ok () :=
    eq_ok_of_toOption (by decide +kernel)
  obtain ⟨p, hp, -⟩ := map_eq_ok_iff.mp hok
  obtain ⟨-, ⟨d, hd, hshown⟩, -, -⟩ := isXmlUnlessShown_of_render (mapError_eq_ok_iff.mp hp)
  have hlines : ((Diagram.ofSource bellSource).map Diagram.shownLines) =
      .ok ["a\x01b".toList] := eq_ok_of_toOption (by decide +kernel)
  rw [hd] at hlines
  have hmem : '\x01' ∈ p.markup :=
    (hshown '\x01' rfl).mpr ⟨"a\x01b".toList, by simp [Except.ok.inj hlines], by decide⟩
  exact absurd (h bellSource p hp '\x01' hmem) (by decide)

end TextDiagram.Command
