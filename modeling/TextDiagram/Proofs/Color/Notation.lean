import Mathlib.Tactic.Common
import TextDiagram.Color.Notation
import TextDiagram.Proofs.Decimal.Single
import TextDiagram.Proofs.Except
import TextDiagram.Proofs.Svg.Xml

/-!
# Colours as they are shown

Pictures rely on little in a reader of colours: what it reads is shown in characters that XML permits
(`ReadsXmlColors`). A scanner yields results of some kind if all that it returns is of that kind
(`Yields`), so that the names under which colours are shown are those that are known
(`isKnown_of_ofText`). Main statement: the reader of colours is one on which pictures can rely
(`readsXmlColors_ofText`).
-/

namespace TextDiagram

open Svg Text

/-- What pictures rely on in a reader of colours. -/
structure Color.ReadsXmlColors (read : List Char → Except ColorError Color) : Prop where
  /-- A colour that is read is shown in characters that XML permits. -/
  all_isXmlChar_css : ∀ {t : List Char} {color : Color}, read t = .ok color →
    color.css.all isXmlChar = true

/-! ## Numbers -/

theorem isXmlChar_of_isNumeric {c : Char} (h : isNumeric c = true) : isXmlChar c = true := by
  rw [isNumeric, Bool.or_eq_true] at h
  rcases h with h | h
  · exact isXmlChar_of_isAlphanum (by simp [Char.isAlphanum, h])
  · have hall : ".-infNa".toList.all isXmlChar = true := by decide +kernel
    exact List.all_eq_true.mp hall c (by simpa using h)

theorem Single.all_isXmlChar_text (x : Float32) : (text x).all isXmlChar = true :=
  List.all_eq_true.mpr fun _ hc => isXmlChar_of_isNumeric (isNumeric_of_mem_text hc)

namespace Color

/-- A colour is shown by its components, or by a name that is known. -/
def IsKnown : Color → Prop
  | named name => String.ofList name ∈ names
  | rgb _ | function _ _ | inSpace _ _ => True

/-! ## What scanners return -/

/-- All that a scanner returns has a property. -/
def Yields {β : Type} (Q : β → Prop) (scan : Scan β) : Prop :=
  ∀ t b rest, scan.run t = .ok (b, rest) → Q b

namespace Yields

variable {β γ : Type} {Q : β → Prop}

theorem pure {b : β} (h : Q b) : Yields Q (Pure.pure b) := by
  intro t b' rest hrun
  cases hrun
  exact h

theorem throw (e : ColorError) : Yields Q (MonadExcept.throw e) := by
  intro t b rest hrun
  cases hrun

theorem bind {scan : Scan γ} {next : γ → Scan β} (h : ∀ a, Yields Q (next a)) :
    Yields Q (scan >>= next) := by
  intro t b rest hrun
  rw [StateT.run_bind] at hrun
  obtain ⟨⟨a, t'⟩, -, hnext⟩ := bind_eq_ok_iff.mp hrun
  exact h a t' b rest hnext

end Yields

/-! ## Functions -/

theorem yields_redGreenBlue : Yields IsKnown redGreenBlue := by
  unfold redGreenBlue
  repeat refine .bind fun _ => ?_
  exact .pure trivial

theorem yields_axes (space : ColorSpace) (limit percent : Float) :
    Yields IsKnown (axes space limit percent) := by
  unfold axes
  repeat refine .bind fun _ => ?_
  exact .pure trivial

theorem yields_polar (space : ColorSpace) (limit percent : Float) :
    Yields IsKnown (polar space limit percent) := by
  unfold polar
  repeat refine .bind fun _ => ?_
  exact .pure trivial

theorem yields_hueSaturationLightness : Yields IsKnown hueSaturationLightness := by
  unfold hueSaturationLightness
  repeat refine .bind fun _ => ?_
  exact .pure trivial

theorem yields_hueWhiteBlack : Yields IsKnown hueWhiteBlack := by
  unfold hueWhiteBlack
  repeat refine .bind fun _ => ?_
  split
  · exact .pure trivial
  · exact .pure trivial

theorem yields_anySpace : Yields IsKnown anySpace := by
  unfold anySpace
  repeat refine .bind fun _ => ?_
  split
  · split
    · repeat refine .bind fun _ => ?_
      exact .pure trivial
    · exact .throw _
  · exact .throw _

/-- No function yields a colour by name. -/
theorem yields_of_function? {ident : List Char} {arguments : Scan Color}
    (h : function? ident = some arguments) : Yields IsKnown arguments := by
  unfold function? at h
  repeat' split at h
  all_goals cases h
  · exact yields_redGreenBlue
  · exact yields_axes _ _ _
  · exact yields_axes _ _ _
  · exact yields_polar _ _ _
  · exact yields_polar _ _ _
  · exact yields_hueSaturationLightness
  · exact yields_hueWhiteBlack
  · exact yields_anySpace

/-! ## Colours -/

theorem isKnown_of_ofName? {name : List Char} {color : Color} (h : ofName? name = some color) :
    color.IsKnown := by
  unfold ofName? at h
  simp only at h
  split at h
  · next hname =>
    cases h
    show String.ofList (lowercase name) ∈ names
    simpa using hname
  · cases h

theorem isKnown_of_ofHexDigits? {digits : List Nat} {color : Color}
    (h : ofHexDigits? digits = some color) : color.IsKnown := by
  unfold ofHexDigits? at h
  split at h <;> cases h <;> trivial

theorem yields_hex : Yields IsKnown hex := by
  intro t color rest hrun
  simp only [hex, StateT.run] at hrun
  split at hrun
  · next hdigits =>
    cases hrun
    exact isKnown_of_ofHexDigits? hdigits
  · cases hrun

theorem yields_identified : Yields IsKnown identified := by
  unfold identified
  refine .bind fun ident => ?_
  split
  · split
    · next h => exact yields_of_function? h
    · split
      · next h => exact .pure (isKnown_of_ofName? h)
      · exact .throw _
  · exact .throw _

/-- A text that is a colour is shown by its components, or by a name that is known. -/
theorem isKnown_of_ofText {t : List Char} {color : Color} (h : ofText t = .ok color) :
    color.IsKnown := by
  have hscan : Yields IsKnown scan := by
    refine .bind fun isHex => ?_
    split
    · exact yields_hex
    · exact yields_identified
  unfold ofText at h
  split at h
  · cases h
  · next hrun =>
    cases h
    exact hscan _ _ _ hrun
  · cases h

/-! ## Colours in a picture -/

theorem all_isXmlChar_name (space : ColorSpace) : space.name.all isXmlChar = true := by
  cases space <;> rfl

theorem all_isXmlChar_showComponent (scale : Float32) (x : Option Float32) :
    (showComponent scale x).all isXmlChar = true := by
  cases x with
  | none => rfl
  | some x => exact Single.all_isXmlChar_text _

theorem all_isXmlChar_written (c : Components) (scale : Float32) (separator stroke : List Char)
    (hseparator : separator.all isXmlChar = true) (hstroke : stroke.all isXmlChar = true) :
    (c.written scale separator stroke).all isXmlChar = true := by
  unfold Components.written
  rw [List.all_append, Bool.and_eq_true]
  constructor
  · simp [List.intercalate_cons_cons, all_isXmlChar_showComponent, hseparator, -List.all_eq_true]
  · split
    · rw [List.all_append, hstroke, all_isXmlChar_showComponent]
      rfl
    · rfl

/-- A colour that is known is shown with characters that XML permits. -/
theorem all_isXmlChar_css {color : Color} (h : color.IsKnown) : color.css.all isXmlChar = true := by
  cases color with
  | named name =>
    have hall : names.all (fun name => name.toList.all isXmlChar) = true := by decide +kernel
    have hmem : String.ofList name ∈ names := h
    have hname := List.all_eq_true.mp hall _ hmem
    rwa [String.toList_ofList] at hname
  | rgb c =>
    have hopening : (if c.isTranslucent then "rgba(".toList else "rgb(".toList).all isXmlChar =
        true := by
      split <;> rfl
    have hwritten := all_isXmlChar_written c 255 ", ".toList ", ".toList rfl rfl
    show ((if c.isTranslucent then "rgba(".toList else "rgb(".toList) ++
      c.written 255 ", ".toList ", ".toList ++ [')']).all isXmlChar = true
    rw [List.all_append, List.all_append, hopening, hwritten]
    rfl
  | function space c =>
    have hwritten := all_isXmlChar_written c 1 [' '] " / ".toList rfl rfl
    show (space.name ++ '(' :: c.written 1 [' '] " / ".toList ++ [')']).all isXmlChar = true
    rw [List.all_append, List.all_append, all_isXmlChar_name, List.all_cons, hwritten]
    rfl
  | inSpace space c =>
    have hwritten := all_isXmlChar_written c 1 [' '] " / ".toList rfl rfl
    show ("color(".toList ++ space.name ++ ' ' :: c.written 1 [' '] " / ".toList ++ [')']).all
      isXmlChar = true
    rw [List.all_append, List.all_append, List.all_append, all_isXmlChar_name, List.all_cons, hwritten]
    rfl

/-- The reader of colours is one on which pictures can rely. -/
theorem readsXmlColors_ofText : ReadsXmlColors ofText where
  all_isXmlChar_css h := all_isXmlChar_css (isKnown_of_ofText h)

end Color

end TextDiagram
