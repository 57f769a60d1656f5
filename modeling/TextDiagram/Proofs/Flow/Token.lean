import TextDiagram.Flow.Token
import TextDiagram.Proofs.Text.Words

/-!
# Reading node tokens

Main statements: a trimmed text is read as the id at its start and the brackets that follow
(`ofText?_append`), what brackets enclose is read by these brackets (`findSome?_body?`), and a label
in quotes is read as it is (`label?_quoted`).
-/

namespace TextDiagram.Flow

open Text

/-- A blank is no character of an id. -/
theorem isBlank_of_isIdChar {c : Char} (h : isIdChar c = true) : isBlank c = false := by
  by_contra hb
  rw [Bool.not_eq_false] at hb
  simp only [isIdChar, isAlphanumeric_eq_false_of_isBlank hb, Bool.false_or, Bool.or_eq_true,
    beq_iff_eq] at h
  rcases h with rfl | rfl
  · exact absurd hb (by decide)
  · exact absurd hb (by decide)

/-- A text of characters of ids is its own trim. -/
theorem trim_of_isIdChar {id : List Char} (h : ∀ c ∈ id, isIdChar c = true) : trim id = id :=
  trim_eq_self_iff.mpr ⟨fun c hc => isBlank_of_isIdChar (h c (List.mem_of_mem_head? hc)),
    fun c hc => isBlank_of_isIdChar (h c (List.mem_of_mem_getLast? hc))⟩

/-- A trimmed text is read as the id at its start and what the brackets behind it enclose. -/
theorem Token.ofText?_append {id rest : List Char} (hne : id ≠ [])
    (hid : ∀ c ∈ id, isIdChar c = true) (hrest : ∀ c ∈ rest.head?, isIdChar c = false)
    (htrim : trim (id ++ rest) = id ++ rest) :
    ofText? (id ++ rest) =
      if rest = [] then some ⟨id, none, .bare⟩
      else Brackets.all.findSome? fun b =>
        (b.body? rest).map fun body => ⟨id, label? body, b.shape⟩ := by
  obtain ⟨htake, hdrop⟩ := run_append hid hrest
  unfold ofText?
  rw [htrim, htake, hdrop]
  simp [hne]

/-- An id alone is a bare node. -/
theorem Token.ofText?_id {id : List Char} (hne : id ≠ []) (hid : ∀ c ∈ id, isIdChar c = true) :
    ofText? id = some ⟨id, none, .bare⟩ := by
  have htrim : trim (id ++ []) = id ++ [] := by
    rw [List.append_nil]
    exact trim_of_isIdChar hid
  have h := ofText?_append hne hid (by simp) htrim
  rw [List.append_nil, if_pos rfl] at h
  exact h

/-! ## Labels in quotes -/

/-- A label in double quotes is read as it is. -/
theorem label?_quoted {label : List Char} (hne : label ≠ []) (htrim : trim label = label) :
    label? ('"' :: label ++ ['"']) = some label := by
  have hbody : trim ('"' :: label ++ ['"']) = '"' :: label ++ ['"'] := by
    rw [trim_eq_self_iff]
    constructor
    · intro c hc
      cases hc
      decide
    · intro c hc
      rw [List.getLast?_concat] at hc
      cases hc
      decide
  have hopen : withoutOpeningQuote ('"' :: label ++ ['"']) = label ++ ['"'] := rfl
  have hclose : withoutClosingQuote (label ++ ['"']) = label := by
    rw [withoutClosingQuote, List.reverse_concat]
    exact List.reverse_reverse label
  unfold label?
  rw [hbody, hopen, hclose, htrim]
  simp [hne]

namespace Brackets

/-- What brackets enclose stands between them. -/
theorem body?_eq_some_iff {b : Brackets} {t body : List Char} :
    b.body? t = some body ↔ t = b.opening ++ (body ++ b.closing) := by
  rw [body?, Option.bind_eq_some_iff]
  simp only [after?_eq_some_iff, before?_eq_some_iff]
  constructor
  · rintro ⟨rest, rfl, rfl⟩
    rfl
  · rintro rfl
    exact ⟨_, rfl, rfl⟩

/-- What brackets enclose is read. -/
theorem body?_enclosed (b : Brackets) (body : List Char) :
    b.body? (b.opening ++ body ++ b.closing) = some body :=
  body?_eq_some_iff.mpr (List.append_assoc ..)

/-- A text in brackets is read by these: those that are tried before do not fit, since a quote stands
behind the opening bracket. -/
theorem findSome?_body? {β : Type} {b : Brackets} (hb : b ∈ all) (body : List Char)
    (f : Brackets → List Char → β) :
    (all.findSome? fun b' => (b'.body? (b.opening ++ '"' :: body ++ b.closing)).map (f b')) =
      some (f b ('"' :: body)) := by
  -- double brackets are tried before single ones, and would need a bracket where the quote stands
  have hself := body?_enclosed b ('"' :: body)
  simp only [all, List.mem_cons, List.not_mem_nil, or_false] at hb
  rcases hb with rfl | rfl | rfl | rfl
  · rw [all, List.findSome?_cons, hself]
    rfl
  · rw [all, List.findSome?_cons, List.findSome?_cons, hself]
    rfl
  · rw [all, List.findSome?_cons, List.findSome?_cons, List.findSome?_cons, hself]
    rfl
  · rw [all, List.findSome?_cons, List.findSome?_cons, List.findSome?_cons, List.findSome?_cons,
      hself]
    rfl

end Brackets

end TextDiagram.Flow
