import TextDiagram.Proofs.Sequence.Reading

/-!
# The grammar of messages

A message is a sender, an arrow, a receiver and a text behind a colon, and gaps may stand between
them. An arrow may be taken apart in more than one way, since an operator with a mark behind it may
be another operator, but this changes nothing of the message. Main statement: a statement is read as
a message exactly if it is written as that message, in whatever way, and then it is no declaration
(`message?_eq_some_iff_isWrittenAs`).
-/

namespace TextDiagram.Sequence

open Text

/-- A text is written as a message: the sender, an operator, perhaps a mark of activation, the
receiver, a colon, and the text, with gaps around the arrow and in front of the colon. -/
def Message.IsWrittenAs (m : Message) (t : List Char) : Prop :=
  IsId m.sender ∧ IsId m.receiver ∧ ∃ operator ∈ operators, ∃ mark ∈ marks, ∃ gap₁ gap₂ gap₃,
    IsGap gap₁ ∧ IsGap gap₂ ∧ IsGap gap₃ ∧
      t = m.sender ++ gap₁ ++ operator ++ mark ++ gap₂ ++ m.receiver ++ gap₃ ++ [':'] ++ m.text

/-! ## Parts of a message -/

theorem exists_gap_append_afterGap (t : List Char) : ∃ gap, IsGap gap ∧ t = gap ++ afterGap t :=
  ⟨t.takeWhile isGap, fun _ hc => List.mem_takeWhile_imp hc,
    (List.takeWhile_append_dropWhile ..).symm⟩

theorem exists_operator_append {t rest : List Char} (h : afterOperator? t = some rest) :
    ∃ operator ∈ operators, t = operator ++ rest := by
  obtain ⟨operator, hop, hrest⟩ := List.exists_of_findSome?_eq_some h
  exact ⟨operator, hop, after?_eq_some_iff.mp hrest⟩

theorem exists_mark_append_afterActivation (t : List Char) :
    ∃ mark ∈ marks, t = mark ++ afterActivation t := by
  cases t with
  | nil => exact ⟨[], List.mem_cons_self .., rfl⟩
  | cons c t =>
    rw [afterActivation]
    split
    · next hc =>
      refine ⟨[c], ?_, rfl⟩
      rw [Bool.or_eq_true, beq_iff_eq, beq_iff_eq] at hc
      rcases hc with rfl | rfl
      · decide
      · decide
    · exact ⟨[], List.mem_cons_self .., rfl⟩

/-! ## Messages -/

theorem isWrittenAs_of_message? {s : List Char} {m : Message} (h : message? s = some m) :
    m.IsWrittenAs (trim s) := by
  unfold message? at h
  simp only [Option.bind_eq_bind, Option.bind_eq_some_iff] at h
  obtain ⟨⟨sender, t⟩, hsender, u, hu, ⟨receiver, v⟩, hreceiver, htext⟩ := h
  obtain ⟨hs, hstart⟩ := splitId?_eq_some hsender
  obtain ⟨hr, hbehind⟩ := splitId?_eq_some hreceiver
  obtain ⟨operator, hop, harrow⟩ := exists_operator_append hu
  obtain ⟨mark, hmark, hrest⟩ := exists_mark_append_afterActivation u
  obtain ⟨gap₁, h₁, hgap₁⟩ := exists_gap_append_afterGap t
  obtain ⟨gap₂, h₂, hgap₂⟩ := exists_gap_append_afterGap (afterActivation u)
  obtain ⟨gap₃, h₃, hgap₃⟩ := exists_gap_append_afterGap v
  split at htext
  · next text hcolon =>
    cases htext
    refine ⟨hs, hr, operator, hop, mark, hmark, gap₁, gap₂, gap₃, h₁, h₂, h₃, ?_⟩
    calc trim s = sender ++ (gap₁ ++ (operator ++ u)) := by rw [hstart, hgap₁, harrow]
      _ = sender ++ (gap₁ ++ (operator ++ (mark ++ (gap₂ ++ (receiver ++ v))))) := by
        rw [hrest, hgap₂, hbehind]
      _ = sender ++ gap₁ ++ operator ++ mark ++ gap₂ ++ receiver ++ gap₃ ++ [':'] ++ text := by
        rw [hgap₃, hcolon]
        simp only [List.append_assoc, List.singleton_append]
  · cases htext

theorem message?_of_isWrittenAs {s : List Char} {m : Message} (h : m.IsWrittenAs (trim s)) :
    message? s = some m := by
  obtain ⟨hs, hr, operator, hop, mark, hmark, gap₁, gap₂, gap₃, h₁, h₂, h₃, ht⟩ := h
  refine message?_gapped hs hr ⟨operator, mark, hop, hmark⟩ h₁ h₂ h₃ ?_
  rw [ht]
  simp only [gappedLine, Arrow.written, List.append_assoc, List.singleton_append]

/-- A statement is read as a message exactly if it is written as that message, so that it is written
as no other, and it is never a declaration as well. -/
theorem message?_eq_some_iff_isWrittenAs (s : List Char) :
    (∀ m, message? s = some m ↔ m.IsWrittenAs (trim s)) ∧ ¬ (IsDeclaration s ∧ IsMessage s) := by
  refine ⟨fun m => ⟨isWrittenAs_of_message?, message?_of_isWrittenAs⟩, ?_⟩
  rintro ⟨⟨declared, hdeclared⟩, sent, hsent⟩
  rw [message?_eq_none_of_declaration? hdeclared] at hsent
  cases hsent

/-- The operator `<--`, or `<-` with a mark. -/
example : message? "A <--B : hi".toList = some ⟨['A'], ['B'], " hi".toList⟩ := by
  decide +kernel

end TextDiagram.Sequence
