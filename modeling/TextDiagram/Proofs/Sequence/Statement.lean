import TextDiagram.Proofs.Text.Words
import TextDiagram.Sequence.Statement

/-!
# Reading the statements of a sequence diagram

An arrow is an operator with a mark of activation. The operators overlap with each other and with
the marks, but every arrow in front of a gap or an id is read as a whole (`afterOperator?_arrow`).
Main statements: a message is read with its parts (`message?_gapped`), and one without gaps is
neither a declaration nor passed over (`read_message`), and a declaration is read with its parts
(`read_declaration`).
-/

namespace TextDiagram.Sequence

open Text
open scoped ItemByItem

/-! ## Gaps and ids -/

/-- What is not blank is no gap. -/
theorem isGap_eq_false_of_isBlank {c : Char} (h : isBlank c = false) : isGap c = false := by
  by_contra hg
  simp only [isGap, Bool.not_eq_false, Bool.or_eq_true, beq_iff_eq] at hg
  rcases hg with rfl | rfl
  · exact absurd h (by decide)
  · exact absurd h (by decide)

theorem isBlank_of_isIdChar {c : Char} (h : isIdChar c = true) : isBlank c = false := by
  rw [isIdChar, Bool.and_eq_true, Bool.not_eq_true'] at h
  exact h.1

/-- A gap: spaces and tabs, or nothing at all. -/
def IsGap (g : List Char) : Prop :=
  ∀ c ∈ g, isGap c = true

/-- A gap ends an id and an arrow. -/
theorem not_sign_of_isGap {c : Char} (h : isGap c = true) :
    isIdChar c = false ∧ c ∉ ['-', '<', '>', '+'] := by
  simp only [isGap, Bool.or_eq_true, beq_iff_eq] at h
  rcases h with rfl | rfl
  · decide
  · decide

/-- A gap is passed over as a whole. -/
theorem IsGap.afterGap_append {g t : List Char} (hg : IsGap g)
    (ht : ∀ c ∈ t.head?, isGap c = false) : afterGap (g ++ t) = t :=
  (run_append hg ht).2

/-- No gap is passed over at the start of a text that does not start with one. -/
theorem afterGap_eq_self {t : List Char} (h : ∀ c ∈ t.head?, isGap c = false) :
    afterGap t = t := by
  cases t with
  | nil => rfl
  | cons c t => exact List.dropWhile_cons_of_neg (by simp [h c rfl])

theorem afterGap?_cons_space {t : List Char} (h : ∀ c ∈ t.head?, isGap c = false) :
    afterGap? (' ' :: t) = some t := by
  have ht : afterGap? (' ' :: t) = some (afterGap t) := rfl
  rw [ht, afterGap_eq_self h]

theorem afterGap?_eq_none {t : List Char} (h : ∀ c ∈ t.head?, isGap c = false) :
    afterGap? t = none := by
  cases t with
  | nil => rfl
  | cons c t =>
    rw [afterGap?, if_neg]
    simpa using h c rfl

/-- An id: some characters of ids. -/
structure IsId (id : List Char) : Prop where
  ne_nil : id ≠ []
  isIdChar : ∀ c ∈ id, isIdChar c = true

namespace IsId

variable {id : List Char} (h : IsId id)
include h

theorem isBlank_eq_false : ∀ c ∈ id, isBlank c = false :=
  fun c hc => isBlank_of_isIdChar (h.isIdChar c hc)

theorem isBlank_head (t : List Char) : ∀ c ∈ (id ++ t).head?, isBlank c = false := by
  intro c hc
  rw [List.head?_append_of_ne_nil id h.ne_nil] at hc
  exact h.isBlank_eq_false c (List.mem_of_mem_head? hc)

theorem isGap_head (t : List Char) : ∀ c ∈ (id ++ t).head?, isGap c = false :=
  fun c hc => isGap_eq_false_of_isBlank (h.isBlank_head t c hc)

/-- An id does not go on with the signs of arrows. -/
theorem sign_head (t : List Char) : ∀ c ∈ (id ++ t).head?, c ∉ ['-', '<', '>', '+'] := by
  intro c hc hsign
  rw [List.head?_append_of_ne_nil id h.ne_nil] at hc
  have hid : Sequence.isIdChar c = true := h.isIdChar c (List.mem_of_mem_head? hc)
  have hnot : ∀ d ∈ ['-', '<', '>', '+'], Sequence.isIdChar d = false := by decide
  rw [hnot c hsign] at hid
  cases hid

/-- An id reaches up to the first character that belongs to no id. -/
theorem splitId?_append {t : List Char} (ht : ∀ c ∈ t.head?, Sequence.isIdChar c = false) :
    splitId? (id ++ t) = some (id, t) := by
  obtain ⟨htake, hdrop⟩ := run_append h.isIdChar ht
  unfold splitId?
  rw [htake, hdrop]
  exact if_neg (by simpa using h.ne_nil)

end IsId

/-- An id and what follows it make up the text. -/
theorem splitId?_eq_some {t id rest : List Char} (h : splitId? t = some (id, rest)) :
    IsId id ∧ t = id ++ rest := by
  unfold splitId? at h
  simp only at h
  split at h
  · cases h
  · next hne =>
    cases h
    exact ⟨⟨by simpa using hne, fun c hc => List.mem_takeWhile_imp hc⟩,
      (List.takeWhile_append_dropWhile ..).symm⟩

/-! ## Arrows -/

/-- The marks of activation, with the missing one. -/
def marks : List (List Char) :=
  [[], ['+'], ['-']]

/-- An arrow: an operator, perhaps with a mark of activation. -/
structure Arrow where
  /-- The operator. -/
  operator : List Char
  /-- The mark of activation, which may be missing. -/
  mark : List Char
  operator_mem : operator ∈ operators
  mark_mem : mark ∈ marks

namespace Arrow

/-- The arrow as a text. -/
def written (a : Arrow) : List Char :=
  a.operator ++ a.mark

/-- An arrow starts with a character that belongs to no id and to no word, and is no gap. -/
theorem exists_written_eq_cons (a : Arrow) : ∃ c t, a.written = c :: t ∧ isIdChar c = false ∧
    isGap c = false ∧ ∀ word ∈ keywords ++ declarers, c.toLower ∉ lowercase word := by
  have hhead : ∀ op ∈ operators, ∃ c ∈ ['-', '<', '='], ∃ t, op = c :: t := by
    intro op hop
    simp only [operators, List.mem_cons, List.not_mem_nil, or_false] at hop
    rcases hop with rfl | rfl | rfl | rfl | rfl | rfl | rfl | rfl | rfl | rfl <;>
      exact ⟨_, by decide, _, rfl⟩
  have hchar : ∀ c ∈ ['-', '<', '='], isIdChar c = false ∧ isGap c = false ∧
      ∀ word ∈ keywords ++ declarers, c.toLower ∉ lowercase word := by
    decide
  obtain ⟨c, hc, t, heq⟩ := hhead a.operator a.operator_mem
  refine ⟨c, t ++ a.mark, ?_, hchar c hc⟩
  rw [written, heq, List.cons_append]

/-- The characters of an arrow are not blank and separate no statements. -/
theorem written_char (a : Arrow) :
    ∀ c ∈ a.written, isBlank c = false ∧ c ≠ '\n' ∧ c ≠ ';' := by
  have hop : ∀ op ∈ operators, ∀ c ∈ op, isBlank c = false ∧ c ≠ '\n' ∧ c ≠ ';' := by decide
  have hmark : ∀ m ∈ marks, ∀ c ∈ m, isBlank c = false ∧ c ≠ '\n' ∧ c ≠ ';' := by decide
  exact List.forall_mem_append.mpr ⟨hop _ a.operator_mem, hmark _ a.mark_mem⟩

/-- An arrow is read as a whole if no sign follows with which it could go on. Where an operator and
the mark behind it make up another operator, that one is read without a mark. -/
theorem afterOperator?_arrow (a : Arrow) {t : List Char}
    (ht : ∀ c ∈ t.head?, c ∉ ['-', '<', '>', '+']) :
    (afterOperator? (a.written ++ t)).map afterActivation = some t := by
  -- the operators share their beginnings, so each of them has to be tried with each mark
  obtain ⟨op, m, hop, hm⟩ := a
  simp only [operators, marks, List.mem_cons, List.not_mem_nil, or_false] at hop hm
  cases t with
  | nil =>
    rcases hm with rfl | rfl | rfl <;>
      rcases hop with rfl | rfl | rfl | rfl | rfl | rfl | rfl | rfl | rfl | rfl <;> rfl
  | cons c t =>
    obtain ⟨h1, h2, h3, h4⟩ : c ≠ '-' ∧ c ≠ '<' ∧ c ≠ '>' ∧ c ≠ '+' := by
      simpa using ht c rfl
    rcases hm with rfl | rfl | rfl <;>
      rcases hop with rfl | rfl | rfl | rfl | rfl | rfl | rfl | rfl | rfl | rfl <;>
        simp [written, afterOperator?, operators, after?, afterActivation, h1, h4, h1.symm, h3.symm]

end Arrow

/-! ## Words in front of other characters -/

section Word

variable {s : List Char} {c : Char}

/-- A character that a word does not hold, in letters of either case, bounds what is read of the
word. -/
theorem exists_suffix_of_afterWord? {word rest : List Char} (hw : c.toLower ∉ lowercase word)
    {t : List Char} (h : afterWord? word (s ++ c :: t) = some rest) :
    ∃ s', s' <:+ s ∧ rest = s' ++ c :: t := by
  unfold afterWord? at h
  split at h
  · next hsame =>
    have hlen : word.length ≤ s.length := by
      by_contra hlt
      have hmem : c ∈ (s ++ c :: t).take word.length := by
        rw [List.take_append, List.mem_append]
        obtain ⟨k, hk⟩ : ∃ k, word.length - s.length = k + 1 := ⟨word.length - s.length - 1, by omega⟩
        rw [hk, List.take_succ_cons]
        exact Or.inr (List.mem_cons_self ..)
      rw [sameIgnoringCase, beq_iff_eq] at hsame
      exact hw (hsame ▸ List.mem_map.mpr ⟨c, hmem, rfl⟩)
    rw [List.drop_append_of_le_length hlen] at h
    exact ⟨s.drop word.length, List.drop_suffix _ _, (Option.some.inj h).symm⟩
  · cases h

variable (hs : ∀ d ∈ s, isBlank d = false) (hc : isBlank c = false)
include hs hc

/-- A statement with a character in its first word that no keyword holds is not passed over. -/
theorem opensWithKeyword_append_cons (hw : ∀ word ∈ keywords, c.toLower ∉ lowercase word)
    (t : List Char) : opensWithKeyword (s ++ c :: t) = false := by
  have hsplit : s ++ c :: t = (s ++ [c]) ++ t := by simp
  have hblank : ∀ d ∈ s ++ [c], isBlank d = false :=
    List.forall_mem_append.mpr ⟨hs, List.forall_mem_singleton.mpr hc⟩
  have hfirst := prefix_firstWord_append (by simp) hblank t
  refine List.any_eq_false.mpr fun word hword hsame => hw word hword ?_
  rw [sameIgnoringCase, beq_iff_eq] at hsame
  rw [hsame, hsplit]
  exact List.mem_map.mpr ⟨c, hfirst.subset (by simp), rfl⟩

/-- A statement with a character in its first word that no declarer holds declares nothing. -/
theorem declaration?_append_cons (hw : ∀ word ∈ declarers, c.toLower ∉ lowercase word)
    {t : List Char} (htrim : trim (s ++ c :: t) = s ++ c :: t) :
    declaration? (s ++ c :: t) = none := by
  have hnone : ∀ rest, declarers.findSome? (fun word => afterWord? word (s ++ c :: t)) = some rest →
      afterGap? rest = none := by
    intro rest hrest
    obtain ⟨word, hword, h⟩ := List.exists_of_findSome?_eq_some hrest
    obtain ⟨s', hs', rfl⟩ := exists_suffix_of_afterWord? (hw word hword) h
    -- what follows the declarer starts within the first word, so that no gap comes first
    refine afterGap?_eq_none fun d hd => isGap_eq_false_of_isBlank ?_
    cases s' with
    | nil =>
      cases hd
      exact hc
    | cons e s' =>
      rw [List.cons_append, List.head?_cons, Option.mem_some_iff] at hd
      exact hs d (hs'.subset (hd ▸ List.mem_cons_self ..))
  unfold declaration?
  rw [htrim]
  cases hf : declarers.findSome? fun word => afterWord? word (s ++ c :: t) with
  | none => rfl
  | some rest => simp only [Option.bind_eq_bind, Option.bind_some, hnone rest hf, Option.bind_none]

end Word

/-! ## Messages -/

section Message

variable {sender receiver : List Char} (hs : IsId sender) (hr : IsId receiver) (a : Arrow)
  {text : List Char}

/-- A message with gaps around its arrow and in front of its colon, and the text behind the colon. -/
def gappedLine (sender gap₁ : List Char) (a : Arrow) (gap₂ receiver gap₃ text : List Char) :
    List Char :=
  sender ++ (gap₁ ++ (a.written ++ (gap₂ ++ (receiver ++ (gap₃ ++ ':' :: text)))))

/-- A message without gaps in front of its colon, and the text behind the colon. -/
def messageLine (sender : List Char) (a : Arrow) (receiver text : List Char) : List Char :=
  sender ++ (a.written ++ (receiver ++ ':' :: text))

include hs hr

/-- A message is read with its sender, its receiver and its text, whatever its gaps. -/
theorem message?_gapped {gap₁ gap₂ gap₃ s : List Char} (h₁ : IsGap gap₁) (h₂ : IsGap gap₂)
    (h₃ : IsGap gap₃) (htrim : trim s = gappedLine sender gap₁ a gap₂ receiver gap₃ text) :
    message? s = some ⟨sender, receiver, text⟩ := by
  obtain ⟨c, t, hc, hid, hgapless, _⟩ := a.exists_written_eq_cons
  have hsender : splitId? (trim s) = some (sender,
      gap₁ ++ (a.written ++ (gap₂ ++ (receiver ++ (gap₃ ++ ':' :: text))))) := by
    rw [htrim]
    refine hs.splitId?_append
      (forall_head?_append (fun d hd => (not_sign_of_isGap (h₁ d hd)).1) ?_)
    rw [hc]
    intro d hd
    cases hd
    exact hid
  have hgap : afterGap (gap₁ ++ (a.written ++ (gap₂ ++ (receiver ++ (gap₃ ++ ':' :: text))))) =
      a.written ++ (gap₂ ++ (receiver ++ (gap₃ ++ ':' :: text))) := by
    refine h₁.afterGap_append ?_
    rw [hc]
    intro d hd
    cases hd
    exact hgapless
  obtain ⟨rest, hrest, hact⟩ : ∃ rest,
      afterOperator? (a.written ++ (gap₂ ++ (receiver ++ (gap₃ ++ ':' :: text)))) = some rest ∧
        afterActivation rest = gap₂ ++ (receiver ++ (gap₃ ++ ':' :: text)) := by
    refine Option.map_eq_some_iff.mp (a.afterOperator?_arrow (forall_head?_append ?_ ?_))
    · exact fun d hd => (not_sign_of_isGap (h₂ d hd)).2
    · exact hr.sign_head _
  have hreceiver : splitId? (afterGap (gap₂ ++ (receiver ++ (gap₃ ++ ':' :: text)))) =
      some (receiver, gap₃ ++ ':' :: text) := by
    rw [h₂.afterGap_append (hr.isGap_head _)]
    refine hr.splitId?_append
      (forall_head?_append (fun d hd => (not_sign_of_isGap (h₃ d hd)).1) ?_)
    intro d hd
    cases hd
    decide
  have hcolon : afterGap (gap₃ ++ ':' :: text) = ':' :: text := by
    refine h₃.afterGap_append ?_
    intro d hd
    cases hd
    decide
  unfold message?
  rw [hsender]
  simp only [Option.bind_eq_bind, Option.bind_some]
  rw [hgap, hrest, Option.bind_some, hact, hreceiver, Option.bind_some]
  simp only [hcolon]

/-- A message is read as such: it is neither passed over nor a declaration. -/
theorem read_message (htrim : trim (messageLine sender a receiver text) =
      messageLine sender a receiver text) :
    read (messageLine sender a receiver text) = .message ⟨sender, receiver, text⟩ := by
  obtain ⟨c, t, hc, _, _, hword⟩ := a.exists_written_eq_cons
  have hline : messageLine sender a receiver text =
      sender ++ c :: (t ++ (receiver ++ ':' :: text)) := by
    rw [messageLine, hc, List.cons_append]
  have hblank : isBlank c = false := (a.written_char c (by simp [hc])).1
  have hopens : opensWithKeyword (messageLine sender a receiver text) = false := by
    rw [hline]
    exact opensWithKeyword_append_cons hs.isBlank_eq_false hblank
      (fun word h => hword word (List.mem_append_left _ h)) _
  have hnone : declaration? (messageLine sender a receiver text) = none := by
    rw [hline] at htrim ⊢
    exact declaration?_append_cons hs.isBlank_eq_false hblank
      (fun word h => hword word (List.mem_append_right _ h)) htrim
  have hgapless : IsGap [] := nofun
  have hgapped : trim (messageLine sender a receiver text) =
      gappedLine sender [] a [] receiver [] text := htrim
  have hsome := message?_gapped hs hr a hgapless hgapless hgapless hgapped
  unfold read
  rw [if_neg (by simp [hopens]), hnone, hsome]

end Message

/-! ## Declarations -/

/-- The declaration of a participant with a name to show. -/
def declarationLine (id label : List Char) : List Char :=
  "participant ".toList ++ (id ++ (" as ".toList ++ label))

section Declaration

variable {id label : List Char} (h : IsId id) (hne : label ≠ []) (hlabel : trim label = label)

include hne hlabel

/-- A declaration with a trimmed label is its own trim. -/
theorem trim_declarationLine (id : List Char) :
    trim (declarationLine id label) = declarationLine id label := by
  refine trim_eq_self_iff.mpr ⟨?_, ?_⟩
  · intro c hc
    cases hc
    decide
  · intro c hc
    refine (trim_eq_self_iff.mp hlabel).2 c ?_
    unfold declarationLine at hc
    rwa [List.getLast?_append_of_ne_nil _ (by simp), List.getLast?_append_of_ne_nil _ (by simp),
      List.getLast?_append_of_ne_nil _ hne] at hc

include h

/-- A declaration is read with its id and its label. -/
theorem read_declaration : read (declarationLine id label) = .declaration ⟨id, some label⟩ := by
  have hgap : ∀ c ∈ label.head?, isGap c = false := fun c hc =>
    isGap_eq_false_of_isBlank ((trim_eq_self_iff.mp hlabel).1 c hc)
  have hword : firstWord ("participant".toList ++ ' ' :: (id ++ (" as ".toList ++ label))) =
      "participant".toList :=
    firstWord_append_cons (by decide) (by decide) (by decide) _
  have hopens : opensWithKeyword (declarationLine id label) = false := by
    have hline : declarationLine id label =
        "participant".toList ++ ' ' :: (id ++ (" as ".toList ++ label)) := rfl
    rw [opensWithKeyword, hline, hword]
    decide
  have hdeclarer : declarers.findSome? (fun word => afterWord? word (declarationLine id label)) =
      some (' ' :: (id ++ (" as ".toList ++ label))) := rfl
  have hid : afterGap? (' ' :: (id ++ (" as ".toList ++ label))) =
      some (id ++ (" as ".toList ++ label)) :=
    afterGap?_cons_space fun c hc => isGap_eq_false_of_isBlank (h.isBlank_head _ c hc)
  have hsplit : splitId? (id ++ (" as ".toList ++ label)) = some (id, " as ".toList ++ label) := by
    refine h.splitId?_append fun c hc => ?_
    cases hc
    decide
  have halias : alias? (" as ".toList ++ label) = some label := by
    have hlast : afterGap? (' ' :: label) = some label := afterGap?_cons_space hgap
    exact hlast
  unfold read
  rw [if_neg (by simp [hopens])]
  unfold declaration?
  rw [trim_declarationLine hne hlabel, hdeclarer]
  simp only [Option.bind_eq_bind, Option.bind_some]
  rw [hid, Option.bind_some, hsplit, Option.bind_some]
  simp only [halias, hlabel]
  rw [Option.filter_some, if_pos (by simpa using hne)]

end Declaration

end TextDiagram.Sequence
