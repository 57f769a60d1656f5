import TextDiagram.Proofs.Sequence.History
import TextDiagram.Proofs.Sequence.Statement

/-!
# What the statements of a sequence diagram add

A declaration is never a message as well (`message?_eq_none_of_declaration?`), so that it does not
matter which of the two is tried first, and what a statement adds is said once
(`mem_events_read_iff`). Main statements: a conversation is without participants exactly if none of
its statements declares or sends anything (`participants_ofStatements_eq_nil_iff`), and without
messages if none sends anything (`messages_ofStatements_eq_nil_iff`).
-/

namespace TextDiagram.Sequence

open Text
open scoped ItemByItem

/-! ## Declarations and messages -/

/-- A letter of a word that opens a declaration may stand in an id, whatever its case. -/
theorem isIdChar_of_toLower_mem {word : List Char} (hw : word ∈ declarers) {c : Char}
    (h : c.toLower ∈ lowercase word) : isIdChar c = true := by
  have hsmall : ∀ word ∈ declarers, ∀ d ∈ lowercase word, isIdChar d = true := by decide
  unfold Char.toLower at h
  split at h
  · next hupper =>
    -- a capital letter is neither blank nor one of the signs of an arrow
    have hrange : CharRanges.has [(65, 90)] c = true :=
      CharRanges.has_iff.mpr ⟨(65, 90), by simp, UInt32.le_iff_toNat_le.mp hupper.1,
        UInt32.le_iff_toNat_le.mp hupper.2⟩
    have hblank : isBlank c = false := has_eq_false_of_apart (by decide) hrange
    have hsign : c ∉ ['-', '<', '>', '=', ':', '+'] := by
      intro hc
      have hnot : ∀ d ∈ ['-', '<', '>', '=', ':', '+'], CharRanges.has [(65, 90)] d = false := by
        decide
      rw [hnot c hc] at hrange
      cases hrange
    simp only [isIdChar, hblank, Bool.not_false, Bool.true_and, Bool.not_eq_true',
      List.contains_eq_mem, decide_eq_false_iff_not]
    exact hsign
  · exact hsmall word hw c h

/-- What is read of a word differs from it at most in the case of its letters. -/
theorem exists_of_afterWord? {word t rest : List Char} (h : afterWord? word t = some rest) :
    ∃ w, t = w ++ rest ∧ lowercase w = lowercase word := by
  unfold afterWord? at h
  split at h
  · next hsame =>
    rw [sameIgnoringCase, beq_iff_eq] at hsame
    refine ⟨t.take word.length, ?_, hsame.symm⟩
    rw [← Option.some.inj h, List.take_append_drop]
  · cases h

/-- A gap that is required stands at the start. -/
theorem exists_of_afterGap? {t rest : List Char} (h : afterGap? t = some rest) :
    ∃ g u, t = g :: u ∧ isGap g = true ∧ afterGap t = rest := by
  cases t with
  | nil => cases h
  | cons g u =>
    rw [afterGap?] at h
    split at h
    · next hg =>
      refine ⟨g, u, rfl, hg, ?_⟩
      rw [← Option.some.inj h, afterGap, List.dropWhile_cons_of_pos hg, afterGap]
    · cases h

/-- An id begins with one of its characters. -/
theorem exists_of_splitId? {t id rest : List Char} (h : splitId? t = some (id, rest)) :
    ∃ c u, t = c :: u ∧ isIdChar c = true := by
  obtain ⟨hid, rfl⟩ := splitId?_eq_some h
  obtain ⟨c, u, rfl⟩ := List.exists_cons_of_ne_nil hid.ne_nil
  exact ⟨c, u ++ rest, rfl, hid.isIdChar c (List.mem_cons_self ..)⟩

/-- No operator begins with a character of an id. -/
theorem afterOperator?_eq_none {c : Char} (hc : isIdChar c = true) (t : List Char) :
    afterOperator? (c :: t) = none := by
  have hne : ∀ op ∈ operators, op ≠ [] := by decide
  have hhead : ∀ op ∈ operators, op.head?.any isIdChar = false := by decide
  refine List.findSome?_eq_none_iff.mpr fun op hop => ?_
  obtain ⟨d, op', rfl⟩ := List.exists_cons_of_ne_nil (hne op hop)
  have hdc : d ≠ c := by
    rintro rfl
    have hd : isIdChar d = false := hhead _ hop
    rw [hd] at hc
    cases hc
  rw [after?, if_neg hdc]

/-- A declaration sends no message: its opening word would be the sender, and in place of an
operator there stands the id that is declared. -/
theorem message?_eq_none_of_declaration? {s : List Char} {declared : Declaration}
    (h : declaration? s = some declared) : message? s = none := by
  unfold declaration? at h
  simp only [Option.bind_eq_bind, Option.bind_eq_some_iff] at h
  obtain ⟨t, ht, u, hu, ⟨id, rest⟩, hid, -⟩ := h
  obtain ⟨word, hword, hafter⟩ := List.exists_of_findSome?_eq_some ht
  obtain ⟨w, hw, hsame⟩ := exists_of_afterWord? hafter
  obtain ⟨g, t', rfl, hg, hgap⟩ := exists_of_afterGap? hu
  obtain ⟨c, u', rfl, hc⟩ := exists_of_splitId? hid
  have hsender : IsId w := by
    have hlong : ∀ word ∈ declarers, lowercase word ≠ [] := by decide
    refine ⟨?_, fun d hd => isIdChar_of_toLower_mem hword (hsame ▸ List.mem_map.mpr ⟨d, hd, rfl⟩)⟩
    rintro rfl
    exact hlong word hword hsame.symm
  have hstop : ∀ d ∈ (g :: t').head?, isIdChar d = false := by
    rintro d hd
    cases hd
    exact (not_sign_of_isGap hg).1
  unfold message?
  rw [hw, hsender.splitId?_append hstop]
  simp only [Option.bind_eq_bind, Option.bind_some]
  rw [hgap, afterOperator?_eq_none hc, Option.bind_none]

/-! ## What a statement adds -/

/-- A statement is passed over because of its first word. -/
def IsSkipped (s : List Char) : Prop :=
  opensWithKeyword s = true

/-- A statement declares a participant. -/
def IsDeclaration (s : List Char) : Prop :=
  ∃ declared, declaration? s = some declared

/-- A statement sends a message. -/
def IsMessage (s : List Char) : Prop :=
  ∃ sent, message? s = some sent

/-- A statement that is not passed over adds what it declares or sends. -/
theorem mem_events_read_iff {s : List Char} {e : Event} :
    e ∈ (read s).events ↔ ¬ IsSkipped s ∧
      ((∃ declared, declaration? s = some declared ∧ e = .declare declared.id declared.label) ∨
        ∃ sent, message? s = some sent ∧
          e = .send sent.sender sent.receiver (shorten textLimit sent.text)) := by
  unfold read
  by_cases hkey : opensWithKeyword s = true
  · rw [if_pos hkey]
    simp [Reading.events, IsSkipped, hkey]
  rw [if_neg hkey]
  have hskip : ¬ IsSkipped s := hkey
  cases hdeclared : declaration? s with
  | some declared =>
    have hnone : message? s = none := message?_eq_none_of_declaration? hdeclared
    simp [Reading.events, hskip, hnone]
  | none =>
    cases hsent : message? s with
    | some sent => simp [Reading.events, hskip]
    | none => simp [Reading.events]

theorem events_read_eq_nil_iff {s : List Char} :
    (read s).events = [] ↔ ¬ (¬ IsSkipped s ∧ (IsDeclaration s ∨ IsMessage s)) := by
  rw [List.eq_nil_iff_forall_not_mem]
  constructor
  · rintro h ⟨hskip, ⟨declared, hdeclared⟩ | ⟨sent, hsent⟩⟩
    · exact h _ (mem_events_read_iff.mpr ⟨hskip, .inl ⟨declared, hdeclared, rfl⟩⟩)
    · exact h _ (mem_events_read_iff.mpr ⟨hskip, .inr ⟨sent, hsent, rfl⟩⟩)
  · intro h e he
    obtain ⟨hskip, ⟨declared, hdeclared, -⟩ | ⟨sent, hsent, -⟩⟩ := mem_events_read_iff.mp he
    · exact h ⟨hskip, .inl ⟨declared, hdeclared⟩⟩
    · exact h ⟨hskip, .inr ⟨sent, hsent⟩⟩

theorem messages_read_eq_nil_iff {s : List Char} :
    (read s).events.filterMap Event.message? = [] ↔ ¬ (¬ IsSkipped s ∧ IsMessage s) := by
  rw [List.filterMap_eq_nil_iff]
  constructor
  · rintro h ⟨hskip, sent, hsent⟩
    cases h _ (mem_events_read_iff.mpr ⟨hskip, .inr ⟨sent, hsent, rfl⟩⟩)
  · intro h e he
    obtain ⟨hskip, ⟨declared, -, rfl⟩ | ⟨sent, hsent, -⟩⟩ := mem_events_read_iff.mp he
    · rfl
    · exact absurd ⟨hskip, sent, hsent⟩ h

namespace Conversation

variable {statements : List (List Char)}

theorem participants_ofStatements_eq_nil_iff : (ofStatements statements).participants = [] ↔
    ∀ s ∈ statements, ¬ (¬ IsSkipped s ∧ (IsDeclaration s ∨ IsMessage s)) := by
  unfold ofStatements
  rw [participants_ofEvents_eq_nil_iff, List.flatMap_eq_nil_iff]
  simp only [events_read_eq_nil_iff]

theorem messages_ofStatements_eq_nil_iff : (ofStatements statements).messages = [] ↔
    ∀ s ∈ statements, ¬ (¬ IsSkipped s ∧ IsMessage s) := by
  unfold ofStatements
  rw [messages_ofEvents, List.filterMap_flatMap, List.flatMap_eq_nil_iff]
  simp only [messages_read_eq_nil_iff]

end Conversation

end TextDiagram.Sequence
