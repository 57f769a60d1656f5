import TextDiagram.Diagram
import TextDiagram.Proofs.Sequence.Statement
import TextDiagram.Proofs.Statement
import TextDiagram.Proofs.Text.Collapsed

/-!
# Writing a conversation

A conversation with an arrow for each message makes a script, which can be written as a source: a
heading, then a declaration of each participant, then a line for each message. Main statement: the
source of a script describes its conversation, whichever arrows were chosen (`ofSource_source`).
-/

namespace TextDiagram.Sequence

open Text
open scoped ItemByItem

/-! ## Scripts -/

/-- A participant as a line. -/
def Participant.line (p : Participant) : List Char :=
  declarationLine p.id p.label

/-- A message as a line, with an arrow. -/
def Message.line (m : Message) (a : Arrow) : List Char :=
  messageLine m.sender a m.receiver (' ' :: m.text)

/-- A conversation with an arrow for each message. -/
structure Script where
  /-- The participants. -/
  participants : List Participant
  /-- The messages with their arrows. -/
  sent : List (Message × Arrow)

namespace Script

/-- The conversation of a script. -/
def conversation (s : Script) : Conversation :=
  ⟨s.participants, s.sent.map Prod.fst⟩

/-- The lines below the heading of a script. -/
def body (s : Script) : List (List Char) :=
  s.participants.map Participant.line ++ s.sent.map fun entry => entry.1.line entry.2

/-- The lines of a script. -/
def lines (s : Script) : List (List Char) :=
  "sequenceDiagram".toList :: s.body

/-- A script as a source. -/
def source (s : Script) : List Char :=
  ['\n'].intercalate s.lines

end Script

/-! ## What can be written -/

/-- An id that can be written: it does not end the statement either. -/
structure IsWritableId (id : List Char) : Prop extends IsId id where
  no_semicolon : ';' ∉ id

/-- A participant that can be written. -/
structure Participant.IsWritable (p : Participant) : Prop where
  id : IsWritableId p.id
  label_ne_nil : p.label ≠ []
  label_trim : trim p.label = p.label
  label_no_newline : '\n' ∉ p.label
  label_no_semicolon : ';' ∉ p.label

/-- A message that can be written: its sender opens no comment, and its text is short enough to be
kept. -/
structure Message.IsWritable (m : Message) : Prop where
  no_comment : ¬ commentMark <+: m.sender
  text_fits : shorten textLimit m.text = m.text
  text_no_semicolon : ';' ∉ m.text

/-- A conversation that can be written: it has a participant and a message, its ids are distinct,
and its messages go from participant to participant. -/
structure Conversation.IsWritable (c : Conversation) : Prop where
  participants_ne_nil : c.participants ≠ []
  messages_ne_nil : c.messages ≠ []
  nodup : c.ids.Nodup
  participants : ∀ p ∈ c.participants, p.IsWritable
  messages : ∀ m ∈ c.messages, m.IsWritable
  ends : ∀ m ∈ c.messages, m.sender ∈ c.ids ∧ m.receiver ∈ c.ids

instance (id : List Char) : Decidable (IsWritableId id) :=
  decidable_of_iff (id ≠ [] ∧ (∀ c ∈ id, isIdChar c = true) ∧ ';' ∉ id)
    ⟨fun ⟨h₁, h₂, h₃⟩ => ⟨⟨h₁, h₂⟩, h₃⟩, fun ⟨⟨h₁, h₂⟩, h₃⟩ => ⟨h₁, h₂, h₃⟩⟩

instance (p : Participant) : Decidable p.IsWritable :=
  decidable_of_iff
    (IsWritableId p.id ∧ p.label ≠ [] ∧ trim p.label = p.label ∧ '\n' ∉ p.label ∧ ';' ∉ p.label)
    ⟨fun ⟨h₁, h₂, h₃, h₄, h₅⟩ => ⟨h₁, h₂, h₃, h₄, h₅⟩,
      fun ⟨h₁, h₂, h₃, h₄, h₅⟩ => ⟨h₁, h₂, h₃, h₄, h₅⟩⟩

instance (m : Message) : Decidable m.IsWritable :=
  decidable_of_iff
    (¬ commentMark <+: m.sender ∧ shorten textLimit m.text = m.text ∧ ';' ∉ m.text)
    ⟨fun ⟨h₁, h₂, h₃⟩ => ⟨h₁, h₂, h₃⟩, fun ⟨h₁, h₂, h₃⟩ => ⟨h₁, h₂, h₃⟩⟩

instance (c : Conversation) : Decidable c.IsWritable :=
  decidable_of_iff
    (c.participants ≠ [] ∧ c.messages ≠ [] ∧ c.ids.Nodup ∧ (∀ p ∈ c.participants, p.IsWritable) ∧
      (∀ m ∈ c.messages, m.IsWritable) ∧ ∀ m ∈ c.messages, m.sender ∈ c.ids ∧ m.receiver ∈ c.ids)
    ⟨fun ⟨h₁, h₂, h₃, h₄, h₅, h₆⟩ => ⟨h₁, h₂, h₃, h₄, h₅, h₆⟩,
      fun ⟨h₁, h₂, h₃, h₄, h₅, h₆⟩ => ⟨h₁, h₂, h₃, h₄, h₅, h₆⟩⟩

/-! ## Lines -/

/-- An id that can be written holds no separator. -/
theorem IsWritableId.isSeparator_eq_false {id : List Char} (h : IsWritableId id) :
    ∀ c ∈ id, isSeparator c = false :=
  isSeparator_eq_false_of_not_mem (fun hc => absurd (h.isIdChar '\n' hc) (by decide))
    h.no_semicolon

namespace Participant

variable {p : Participant} (h : p.IsWritable)
include h

/-- The declaration of a participant is a statement of its own. -/
theorem line_standsAlone :
    (∀ c ∈ p.line, isSeparator c = false) ∧ isStatement (trim p.line) = true := by
  have hlabel : ∀ c ∈ p.label, isSeparator c = false :=
    isSeparator_eq_false_of_not_mem h.label_no_newline h.label_no_semicolon
  refine ⟨?_, ?_⟩
  · refine List.forall_mem_append.mpr ⟨by decide, ?_⟩
    refine List.forall_mem_append.mpr ⟨h.id.isSeparator_eq_false, ?_⟩
    exact List.forall_mem_append.mpr ⟨by decide, hlabel⟩
  · rw [line, trim_declarationLine h.label_ne_nil h.label_trim]
    rfl

/-- The declaration of a participant is read with its id and its label. -/
theorem events_line : (read (trim p.line)).events = [.declare p.id (some p.label)] := by
  rw [line, trim_declarationLine h.label_ne_nil h.label_trim,
    read_declaration h.id.toIsId h.label_ne_nil h.label_trim]
  rfl

end Participant

namespace Message

variable {m : Message} (h : m.IsWritable) (hs : IsWritableId m.sender)
  (hr : IsWritableId m.receiver) (a : Arrow)

/-- Of a message, only blanks at the end of its text are trimmed. -/
theorem trim_messageLine (hs : IsId m.sender) (t : List Char) :
    trim (messageLine m.sender a m.receiver t) =
      messageLine m.sender a m.receiver (trimEnd t) := by
  have hfront : trim (m.sender ++ (a.written ++ (m.receiver ++ [':']))) =
      m.sender ++ (a.written ++ (m.receiver ++ [':'])) := by
    refine trim_eq_self_iff.mpr ⟨?_, ?_⟩
    · intro c hc
      exact hs.isBlank_head _ c hc
    · intro c hc
      rw [← List.append_assoc, ← List.append_assoc, List.getLast?_concat] at hc
      cases hc
      decide
  have hsplit : ∀ t, messageLine m.sender a m.receiver t =
      m.sender ++ (a.written ++ (m.receiver ++ [':'])) ++ t := by
    intro t
    simp [messageLine]
  rw [hsplit, hsplit, trim_append (by simp [hs.ne_nil]) hfront]

include hs hr h

/-- The line of a message is a statement of its own. -/
theorem line_standsAlone :
    (∀ c ∈ m.line a, isSeparator c = false) ∧ isStatement (trim (m.line a)) = true := by
  have harrow : ∀ c ∈ a.written, isSeparator c = false :=
    isSeparator_eq_false_of_not_mem (fun hc => (a.written_char _ hc).2.1 rfl)
      fun hc => (a.written_char _ hc).2.2 rfl
  have htext : ∀ c ∈ m.text, isSeparator c = false := by
    refine isSeparator_eq_false_of_not_mem (fun hc => ?_) h.text_no_semicolon
    rw [← h.text_fits] at hc
    exact absurd ((isCollapsed_shorten _ _).eq_space _ hc (by decide)) (by decide)
  refine ⟨?_, ?_⟩
  · refine List.forall_mem_append.mpr ⟨hs.isSeparator_eq_false, ?_⟩
    refine List.forall_mem_append.mpr ⟨harrow, ?_⟩
    refine List.forall_mem_append.mpr ⟨hr.isSeparator_eq_false, ?_⟩
    exact List.forall_mem_cons.mpr ⟨by decide, List.forall_mem_cons.mpr ⟨by decide, htext⟩⟩
  · rw [line, trim_messageLine a hs.toIsId, isStatement_iff]
    refine ⟨by simp [messageLine, hs.ne_nil], fun hp => h.no_comment ?_⟩
    obtain ⟨c, t, hc, hid, _⟩ := a.exists_written_eq_cons
    have hmark : ∀ d ∈ commentMark, isIdChar d = true := by decide
    rw [messageLine, hc, List.cons_append] at hp
    refine prefix_of_prefix_append_cons hp fun hmem => ?_
    rw [hmark c hmem] at hid
    cases hid

/-- The line of a message is read as the message. -/
theorem events_line :
    (read (trim (m.line a))).events = [.send m.sender m.receiver m.text] := by
  have htrim := trim_messageLine a hs.toIsId (' ' :: m.text)
  have hwords : words (trimEnd (' ' :: m.text)) = words m.text := by
    rw [words_trimEnd, words_cons_of_isBlank (by decide)]
  have hself : trim (messageLine m.sender a m.receiver (trimEnd (' ' :: m.text))) =
      messageLine m.sender a m.receiver (trimEnd (' ' :: m.text)) := by
    rw [← htrim, trim_trim]
  have hread := read_message hs.toIsId hr.toIsId a hself
  rw [line, htrim, hread, Reading.events, shorten_eq_of_words_eq hwords, h.text_fits]

end Message

/-! ## Declaring and sending -/

namespace Conversation

/-- The declaration of a new participant adds the participant. -/
theorem declare_of_not_mem {c : Conversation} {p : Participant} (h : p.id ∉ c.ids)
    (hne : p.label ≠ []) :
    c.declare p.id (some p.label) = { c with participants := c.participants ++ [p] } := by
  have hlabel : (!p.label.isEmpty) = true := by simpa using hne
  have hold : ∀ q ∈ c.participants, q.id ≠ p.id := by
    intro q hq he
    exact h (he ▸ List.mem_map.mpr ⟨q, hq, rfl⟩)
  have hjoin : c.join p.id = { c with participants := c.participants ++ [⟨p.id, p.id⟩] } := by
    unfold join
    rw [if_neg (by simpa using h)]
  unfold declare
  rw [Option.filter_some, if_pos hlabel]
  simp only [hjoin, rename, List.map_append, List.map_cons, List.map_nil, if_true]
  congr 2
  refine (List.map_congr_left fun q hq => ?_).trans (List.map_id' _)
  exact if_neg (hold q hq)

/-- A participant that is known does not appear again. -/
theorem join_of_mem {c : Conversation} {id : List Char} (h : id ∈ c.ids) : c.join id = c := by
  unfold join
  rw [if_pos (by simpa using h)]

/-- A message between known participants only adds itself. -/
theorem send_of_mem {c : Conversation} {m : Message} (hs : m.sender ∈ c.ids)
    (hr : m.receiver ∈ c.ids) :
    c.send m.sender m.receiver m.text = { c with messages := c.messages ++ [m] } := by
  unfold send
  rw [join_of_mem hs, join_of_mem hr]

/-- The declarations of some new participants add the participants. -/
theorem foldl_next_declare {ps : List Participant} {c : Conversation}
    (hne : ∀ p ∈ ps, p.label ≠ []) (hnd : (c.ids ++ ps.map Participant.id).Nodup) :
    (ps.map fun p => Event.declare p.id (some p.label)).foldl next c =
      { c with participants := c.participants ++ ps } := by
  induction ps generalizing c with
  | nil => simp
  | cons p ps ih =>
    have hnew : p.id ∉ c.ids := by
      intro hc
      exact (List.nodup_append.mp hnd).2.2 _ hc p.id (List.mem_cons_self ..) rfl
    have hnext : c.next (.declare p.id (some p.label)) =
        { c with participants := c.participants ++ [p] } :=
      declare_of_not_mem hnew (hne p (List.mem_cons_self ..))
    rw [List.map_cons, List.foldl_cons, hnext, ih fun q hq => hne q (List.mem_cons_of_mem _ hq)]
    · simp
    · simpa [ids] using hnd

/-- Some messages between known participants add themselves. -/
theorem foldl_next_send {ms : List Message} {c : Conversation}
    (h : ∀ m ∈ ms, m.sender ∈ c.ids ∧ m.receiver ∈ c.ids) :
    (ms.map fun m => Event.send m.sender m.receiver m.text).foldl next c =
      { c with messages := c.messages ++ ms } := by
  induction ms generalizing c with
  | nil => simp
  | cons m ms ih =>
    obtain ⟨hs, hr⟩ := h m (List.mem_cons_self ..)
    have hnext : c.next (.send m.sender m.receiver m.text) =
        { c with messages := c.messages ++ [m] } :=
      send_of_mem hs hr
    have hrest := ih (c := ⟨c.participants, c.messages ++ [m]⟩) fun q hq =>
      h q (List.mem_cons_of_mem _ hq)
    rw [List.map_cons, List.foldl_cons, hnext, hrest, List.append_assoc]
    rfl

/-- The declarations of the participants and the messages make up the conversation. -/
theorem ofEvents_of_isWritable {c : Conversation} (h : c.IsWritable) :
    ofEvents (c.participants.map (fun p => Event.declare p.id (some p.label)) ++
      c.messages.map fun m => Event.send m.sender m.receiver m.text) = c := by
  have hdeclare := foldl_next_declare (c := empty) (fun p hp => (h.participants p hp).label_ne_nil)
    h.nodup
  have hsend := foldl_next_send (c := ⟨c.participants, []⟩) h.ends
  unfold ofEvents
  rw [List.foldl_append, hdeclare]
  exact hsend

end Conversation

/-! ## Scripts as sources -/

namespace Script

variable {s : Script} (h : s.conversation.IsWritable)
include h

/-- The ends of a message have ids that can be written. -/
theorem isWritableId_ends : ∀ m ∈ s.conversation.messages,
    IsWritableId m.sender ∧ IsWritableId m.receiver := by
  have hid : ∀ id ∈ s.conversation.ids, IsWritableId id := by
    intro id hmem
    obtain ⟨p, hp, rfl⟩ := List.mem_map.mp hmem
    exact (h.participants p hp).id
  exact fun m hm => ⟨hid _ (h.ends m hm).1, hid _ (h.ends m hm).2⟩

/-- Every line of a script is a statement of its own. -/
theorem lines_standAlone : ∀ l ∈ s.lines,
    (∀ c ∈ l, isSeparator c = false) ∧ isStatement (trim l) = true := by
  intro l hl
  rcases List.mem_cons.mp hl with rfl | hl
  · decide
  · rcases List.mem_append.mp hl with hl | hl
    · obtain ⟨p, hp, rfl⟩ := List.mem_map.mp hl
      exact Participant.line_standsAlone (h.participants p hp)
    · obtain ⟨⟨m, a⟩, hm, rfl⟩ := List.mem_map.mp hl
      have hmem : m ∈ s.conversation.messages := List.mem_map.mpr ⟨_, hm, rfl⟩
      obtain ⟨hs, hr⟩ := isWritableId_ends h m hmem
      exact Message.line_standsAlone (h.messages m hmem) hs hr a

/-- The lines below the heading describe the conversation. -/
theorem ofStatements_body : Conversation.ofStatements (s.body.map trim) = s.conversation := by
  have hdeclare : s.participants.flatMap (fun p => (read (trim p.line)).events) =
      s.participants.map fun p => Event.declare p.id (some p.label) := by
    rw [List.map_eq_flatMap]
    exact List.flatMap_congr fun p hp => Participant.events_line (h.participants p hp)
  have hsend : s.sent.flatMap (fun entry => (read (trim (entry.1.line entry.2))).events) =
      s.conversation.messages.map fun m => Event.send m.sender m.receiver m.text := by
    rw [conversation, List.map_map, List.map_eq_flatMap]
    refine List.flatMap_congr fun (m, a) hm => ?_
    have hmem : m ∈ s.conversation.messages := List.mem_map.mpr ⟨_, hm, rfl⟩
    obtain ⟨hs, hr⟩ := isWritableId_ends h m hmem
    exact Message.events_line (h.messages m hmem) hs hr a
  unfold Conversation.ofStatements body
  rw [List.flatMap_map, List.flatMap_append, List.flatMap_map, List.flatMap_map, hdeclare, hsend]
  exact Conversation.ofEvents_of_isWritable h

/-- The source of a script, with or without a last newline, describes the conversation: its
participants with their labels and its messages, in their order. -/
theorem ofSource_source : Diagram.ofSource s.source = .ok (.sequence s.conversation) ∧
    Diagram.ofSource (s.source ++ ['\n']) = .ok (.sequence s.conversation) := by
  have hheading : trim "sequenceDiagram".toList = "sequenceDiagram".toList := by decide
  have hread : Diagram.ofStatements (s.lines.map trim) = .ok (.sequence s.conversation) := by
    have hopening : ∀ rest, Heading.ofStatements? "sequenceDiagram".toList rest = some .sequence :=
      fun _ => rfl
    rw [lines, List.map_cons, hheading]
    simp only [Diagram.ofStatements, hopening, Diagram.ofSequence]
    rw [ofStatements_body h, if_neg (by simpa using h.participants_ne_nil),
      if_neg (by simpa using h.messages_ne_nil)]
  have hlines := lines_standAlone h
  obtain ⟨hplain, hnewline⟩ := statements_intercalate_newline (fun l hl => (hlines l hl).1)
    fun l hl => (hlines l hl).2
  unfold Diagram.ofSource source
  rw [hplain, hnewline]
  exact ⟨hread, hread⟩

omit h

/-- A script with words of the language as ids, an operator that makes up another one with its mark,
a colon in a text and a message without text. -/
def crossed : Script where
  participants :=
    [⟨"par".toList, "as participant".toList⟩, ⟨"participant".toList, "%% -> :".toList⟩]
  sent :=
    [(⟨"par".toList, "participant".toList, "a: b ->> c".toList⟩,
        ⟨"<-".toList, ['-'], by decide, by decide⟩),
     (⟨"participant".toList, "participant".toList, []⟩,
        ⟨"-->>".toList, ['+'], by decide, by decide⟩),
     (⟨"par".toList, "par".toList, "note".toList⟩, ⟨"->".toList, [], by decide, by decide⟩)]

theorem ofSource_source_crossed : crossed.conversation.IsWritable ∧
    Diagram.ofSource crossed.source = .ok (.sequence crossed.conversation) ∧
      Diagram.ofSource (crossed.source ++ ['\n']) = .ok (.sequence crossed.conversation) :=
  ⟨by decide +kernel, ofSource_source (by decide +kernel)⟩

end Script

end TextDiagram.Sequence
