import Mathlib.Data.List.Basic
import Mathlib.Tactic.Common
import TextDiagram.Svg.Escape

/-!
# Escaped texts are read back

An ampersand in an escaped text begins one of the five entities
(`exists_entity_prefix_of_escape_eq`), and replacing entities by the characters for which they stand
gives the text back that was escaped (`unescape_escape`).
-/

namespace TextDiagram.Svg

/-- The entities in escaped texts. -/
def entities : List (List Char) :=
  ["&amp;".toList, "&lt;".toList, "&gt;".toList, "&quot;".toList, "&apos;".toList]

/-- Replaces entities by the characters for which they stand, from left to right and each once. -/
def unescape : List Char → List Char
  | '&' :: 'a' :: 'm' :: 'p' :: ';' :: t => '&' :: unescape t
  | '&' :: 'l' :: 't' :: ';' :: t => '<' :: unescape t
  | '&' :: 'g' :: 't' :: ';' :: t => '>' :: unescape t
  | '&' :: 'q' :: 'u' :: 'o' :: 't' :: ';' :: t => '"' :: unescape t
  | '&' :: 'a' :: 'p' :: 'o' :: 's' :: ';' :: t => '\'' :: unescape t
  | c :: t => c :: unescape t
  | [] => []

theorem unescape_cons_of_ne {c : Char} (h : c ≠ '&') (t : List Char) :
    unescape (c :: t) = c :: unescape t := by
  rw [unescape]
  all_goals
    intros
    simp_all

theorem unescape_escapeChar_append (c : Char) (t : List Char) :
    unescape (escapeChar c ++ t) = c :: unescape t := by
  unfold escapeChar
  split
  case h_6 hne _ _ _ _ => exact unescape_cons_of_ne hne t
  all_goals rfl

theorem unescape_escape (t : List Char) : unescape (escape t) = t := by
  induction t with
  | nil => rfl
  | cons c t ih => rw [escape_cons, unescape_escapeChar_append, ih]

/-- Escaping again is undone only once. -/
example : unescape "&amp;lt;&lt;".toList = "&lt;<".toList := by decide

theorem escape_injective {s t : List Char} (h : escape s = escape t) : s = t := by
  rw [← unescape_escape s, h, unescape_escape]

/-- A character that is not special stands in an escaped text as it is. -/
theorem mem_escape {t : List Char} {c : Char} (h : c ∈ t)
    (hplain : c ∉ ['&', '<', '>', '"', '\'']) : c ∈ escape t := by
  refine List.mem_flatMap.mpr ⟨c, h, ?_⟩
  unfold escapeChar
  split
  case h_6 => exact List.mem_singleton_self c
  all_goals exact absurd (by decide) hplain

/-! ## Ampersands -/

theorem escapeChar_cases (c : Char) :
    escapeChar c ∈ entities ∨ (c ≠ '&' ∧ escapeChar c = [c]) := by
  unfold escapeChar
  split
  case h_6 hne _ _ _ _ => exact Or.inr ⟨hne, rfl⟩
  all_goals exact Or.inl (by decide)

/-- An ampersand in what stands for a character begins an entity that is all of it. -/
theorem escapeChar_eq_append_ampersand {c : Char} {a r : List Char}
    (h : escapeChar c = a ++ '&' :: r) : a = [] ∧ escapeChar c ∈ entities := by
  rcases escapeChar_cases c with hentity | ⟨hne, hc⟩
  · have htails : ∀ entity ∈ entities, '&' ∉ entity.tail := by decide
    refine ⟨?_, hentity⟩
    cases a with
    | nil => rfl
    | cons d a => exact absurd (by simp [h]) (htails _ hentity)
  · have hmem : '&' ∈ escapeChar c := by simp [h]
    rw [hc, List.mem_singleton] at hmem
    exact absurd hmem.symm hne

theorem exists_entity_prefix_of_escape_eq {t a b : List Char} (h : escape t = a ++ '&' :: b) :
    ∃ entity ∈ entities, entity <+: '&' :: b := by
  induction t generalizing a with
  | nil => simp at h
  | cons c t ih =>
    rw [escape_cons] at h
    rcases List.append_eq_append_iff.mp h with ⟨a', rfl, ht⟩ | ⟨r, hc, hb⟩
    · exact ih ht
    cases r with
    | nil => exact ih (a := []) hb.symm
    | cons d r =>
      obtain ⟨rfl, -⟩ := List.cons.inj hb
      obtain ⟨rfl, hentity⟩ := escapeChar_eq_append_ampersand hc
      rw [List.nil_append] at hc
      rw [hb, ← hc]
      exact ⟨_, hentity, List.prefix_append _ _⟩

end TextDiagram.Svg
