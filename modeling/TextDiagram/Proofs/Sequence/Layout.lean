import TextDiagram.Proofs.Except
import TextDiagram.Proofs.Keys
import TextDiagram.Proofs.Plane
import TextDiagram.Proofs.Sequence.History
import TextDiagram.Proofs.Svg.Sketch
import TextDiagram.Sequence.Layout

/-!
# Columns and rows

The layout of a closed conversation succeeds (`exists_layout`): each end of a message is found at
its place among the participants (`placeMessage_eq_ok`). Main statement: the participants of every
conversation stand in columns, side by side above their lifelines, and its messages follow each
other in rows between these lifelines (`exists_layout_columns_rows`).
-/

namespace TextDiagram.Sequence

open Coordinate

/-! ## The steps of a layout -/

namespace Conversation

variable {α : Type} [Coordinate α] {c : Conversation}

theorem IsClosed.column?_eq_ok (h : c.IsClosed) {i : Nat} (hi : i < c.participants.length) :
    c.column? c.participants[i].id = .ok (columnCenter i : α) := by
  have hindex : c.index? c.participants[i].id = some i := findIdx?_key h.nodup hi
  rw [column?, hindex]

/-- A message of a closed conversation goes between two columns, in each row. -/
theorem IsClosed.placeMessage_eq_ok (h : c.IsClosed) {m : Message} (hm : m ∈ c.messages) :
    ∃ i j, ∃ (hi : i < c.participants.length) (hj : j < c.participants.length),
      c.participants[i].id = m.sender ∧ c.participants[j].id = m.receiver ∧
      ∀ row, c.placeMessage m row = .ok (α := PlacedMessage α)
        ⟨rowCenter row, m.placedArrow (columnCenter i) (columnCenter j) (rowCenter row),
          m.placedLabel (m.placedArrow (columnCenter i) (columnCenter j) (rowCenter row))
            (rowCenter row)⟩ := by
  obtain ⟨hsender, hreceiver⟩ := h.ends m hm
  obtain ⟨i, hi, hid⟩ := exists_getElem_of_mem_keys hsender
  obtain ⟨j, hj, hjd⟩ := exists_getElem_of_mem_keys hreceiver
  refine ⟨i, j, hi, hj, hid, hjd, fun row => ?_⟩
  unfold placeMessage
  rw [← hid, ← hjd, h.column?_eq_ok hi, h.column?_eq_ok hj]
  rfl

/-- A layout consists of the participants in their columns and the messages in their rows. -/
theorem layout_eq_ok_iff {l : Layout α} : c.layout = .ok l ↔
    (l.messages.length = c.messages.length ∧
      ∀ row (hrow : row < c.messages.length) (hl : row < l.messages.length),
        c.placeMessage c.messages[row] row = .ok l.messages[row]) ∧
      l.participants = c.placedParticipants ∧ l.extent = c.extent := by
  unfold layout
  simp only [bind_eq_ok_iff]
  constructor
  · rintro ⟨messages, hmessages, hl⟩
    rw [← Except.ok.inj hl]
    exact ⟨mapM_zipIdx_eq_ok_iff.mp hmessages, rfl, rfl⟩
  · rintro ⟨hmessages, hparticipants, hextent⟩
    refine ⟨l.messages, mapM_zipIdx_eq_ok_iff.mpr hmessages, ?_⟩
    rw [← hparticipants, ← hextent]
    rfl

theorem IsClosed.exists_layout (h : c.IsClosed) : ∃ l : Layout α, c.layout = .ok l := by
  have hplace : ∀ entry ∈ c.messages.zipIdx,
      ∃ b : PlacedMessage α, c.placeMessage entry.1 entry.2 = .ok b := by
    intro entry hentry
    obtain ⟨_, _, _, _, _, _, hb⟩ :=
      h.placeMessage_eq_ok (α := α) (List.fst_mem_of_mem_zipIdx hentry)
    exact ⟨_, hb entry.2⟩
  obtain ⟨messages, hmessages⟩ := exists_mapM_eq_ok hplace
  exact ⟨⟨c.placedParticipants, messages, c.extent⟩,
    layout_eq_ok_iff.mpr ⟨mapM_zipIdx_eq_ok_iff.mp hmessages, rfl, rfl⟩⟩

@[simp] theorem length_placedParticipants (c : Conversation) :
    (c.placedParticipants : List (PlacedParticipant α)).length = c.participants.length := by
  simp [placedParticipants]

theorem getElem_placedParticipants (c : Conversation) {i : Nat} (hi : i < c.participants.length)
    (hp : i < (c.placedParticipants : List (PlacedParticipant α)).length) :
    c.placedParticipants[i] = c.participants[i].place c.extent.height i := by
  simp [placedParticipants]

theorem heads_placedParticipants (c : Conversation) :
    c.placedParticipants.map (fun p : PlacedParticipant α => (p.id, p.head.figure)) =
      c.participants.map fun p => (p.id, p.head) := by
  refine List.ext_getElem (by simp) fun i _ hi => ?_
  have hlt : i < c.participants.length := by simpa using hi
  rw [List.getElem_map, List.getElem_map, getElem_placedParticipants c hlt]
  rfl

end Conversation

/-! ## Columns and rows on the rational plane -/

@[simp] theorem columnCenter_rat (i : Nat) : (columnCenter i : Rat) = 105 + 170 * i := by
  simp only [columnCenter, whole_rat, half_rat, padding, columnWidth]
  push_cast
  ring

@[simp] theorem lifelineTop_rat : (lifelineTop : Rat) = 54 := by
  simp only [lifelineTop, whole_rat, padding, headHeight]
  norm_num

@[simp] theorem rowCenter_rat (row : Nat) : (rowCenter row : Rat) = 96 + 36 * row := by
  simp only [rowCenter, whole_rat, half_rat, padding, headHeight, headGap, rowHeight]
  push_cast
  ring

@[simp] theorem Conversation.width_extent (c : Conversation) :
    (c.extent : Extent Rat).width = 40 + 170 * c.participants.length := by
  simp only [extent, whole_rat, padding, columnWidth]
  push_cast
  ring

@[simp] theorem Conversation.height_extent (c : Conversation) :
    (c.extent : Extent Rat).height = 106 + 36 * c.messages.length := by
  simp only [extent, whole_rat, padding, headHeight, headGap, rowHeight, bottomMargin]
  push_cast
  ring

theorem frame_head_place (p : Participant) (bottom : Rat) (i : Nat) :
    (p.place bottom i).head.frame = ⟨45 + 170 * i, 20, 165 + 170 * i, 54⟩ := by
  have hframe : (p.place bottom i).head.frame =
      (⟨columnCenter i, whole padding + half (whole headHeight)⟩ : Point Rat).frame
        ⟨whole headWidth, whole headHeight⟩ := rfl
  rw [hframe]
  ext <;> simp [padding, headHeight, headWidth] <;> ring

/-- The middle and the length of a lifeline are such that it reaches from the head to the bottom. -/
theorem frame_lifeline_place (p : Participant) (bottom : Rat) (i : Nat) :
    (p.place bottom i).lifeline.frame.top = 54 ∧
      (p.place bottom i).lifeline.frame.bottom = bottom := by
  have hframe : (p.place bottom i).lifeline.frame =
      (⟨columnCenter i, half (lifelineTop + bottom)⟩ : Point Rat).frame
        ⟨whole Lifeline.strokeWidth, bottom - lifelineTop⟩ := rfl
  rw [hframe]
  constructor
  · rw [top_frame, half_rat, lifelineTop_rat]
    ring
  · rw [bottom_frame, half_rat, lifelineTop_rat]
    ring

/-- A label lies around its position. -/
theorem contains_position_label (t : Placed Label Rat) : t.frame.Contains t.position := by
  have hwidth : (0 : Rat) ≤ (t.figure.extent : Extent Rat).width :=
    mul_nonneg (Nat.cast_nonneg _) (Nat.cast_nonneg _)
  have hheight : (0 : Rat) ≤ (t.figure.extent : Extent Rat).height :=
    mul_nonneg (Nat.cast_nonneg _) (Nat.cast_nonneg _)
  have hframe : t.frame = t.position.frame t.figure.extent := rfl
  rw [hframe]
  constructor <;> simp only [left_frame, right_frame, top_frame, bottom_frame] <;> linarith

/-- The frame of a single line is as high as a line. -/
theorem frame_single (line style : List Char) (p : Point Rat) :
    (⟨.single line style, p⟩ : Placed Label Rat).frame.top = p.y - 8 ∧
      (⟨.single line style, p⟩ : Placed Label Rat).frame.bottom = p.y + 8 := by
  have hheight : (Figure.extent (Label.single line style) : Extent Rat).height = 16 := by
    simp [Figure.extent, Label.extent, Label.single, Label.lineHeight]
  constructor
  · rw [Placed.frame, top_frame, hheight]
    ring
  · rw [Placed.frame, bottom_frame, hheight]
    ring

namespace Message

variable {m : Message} {a : Arrow Rat}

theorem isSome_placedLabel (m : Message) (a : Arrow Rat) (y : Rat) :
    (m.placedLabel a y).isSome = true ↔ m.text ≠ [] := by
  cases h : m.text <;> simp [placedLabel, h]

/-- The label of a message is its text, above the middle of the arrow. -/
theorem eq_of_mem_placedLabel {y : Rat} {t : Placed Label Rat} (h : t ∈ m.placedLabel a y) :
    t = ⟨.single m.text "pn-mermaid-message-label".toList,
      ⟨(a.start.x + a.finish.x) / 2, y - 9⟩⟩ := by
  unfold placedLabel at h
  split at h
  · cases h
  · rw [← Option.some.inj h, Point.midpoint, half_rat]
    rfl

theorem placedArrow_of_ne (h : m.sender ≠ m.receiver) (sender receiver y : Rat) :
    m.placedArrow sender receiver y =
      ⟨⟨sender, y⟩, ⟨receiver, y⟩, "pn-mermaid-message".toList⟩ := by
  rw [placedArrow, isToSelf, if_neg (by simpa using h)]

theorem placedArrow_of_eq (h : m.sender = m.receiver) (sender receiver y : Rat) :
    m.placedArrow sender receiver y =
      ⟨⟨sender + whole returnWidth, y⟩, ⟨sender, y⟩, "pn-mermaid-message".toList⟩ := by
  rw [placedArrow, isToSelf, if_pos (by simpa using h)]

end Message

theorem column_lt_returnStart (i : Nat) :
    (columnCenter i : Rat) < columnCenter i + whole returnWidth := by
  rw [whole_rat, returnWidth]
  norm_num

/-- The arrow of a message to its sender begins short of the next column. -/
theorem returnStart_lt_column {i k : Nat} (h : (columnCenter i : Rat) < columnCenter k) :
    (columnCenter i + whole returnWidth : Rat) < columnCenter k := by
  rw [columnCenter_rat, columnCenter_rat] at h
  have hlt : (i : Rat) < k := by linarith
  have hstep : (i : Rat) + 1 ≤ k := by exact_mod_cast hlt
  rw [columnCenter_rat, columnCenter_rat, whole_rat, returnWidth]
  push_cast
  linarith

/-! ## Columns -/

/-- The participants of a conversation stand in columns: their heads side by side within the
picture, in order, and below the middle of each head its lifeline, straight down to the bottom. -/
structure Layout.HasColumns (l : Layout Rat) (c : Conversation) : Prop where
  heads : l.participants.map (fun p => (p.id, p.head.figure)) =
    c.participants.map fun p => (p.id, p.head)
  nodup : (l.participants.map PlacedParticipant.id).Nodup
  apart : l.participants.Pairwise fun p q => p.head.frame.right + 50 ≤ q.head.frame.left
  inside : ∀ p ∈ l.participants, p.head.frame.Within (l.extent.inset 0)
  lifelines : ∀ p ∈ l.participants, p.lifeline.sketch.IsLine .lifeline
    (p.head.frame.middle .bottom) ⟨(p.head.frame.middle .bottom).x, l.extent.height⟩

namespace Conversation

variable {c : Conversation}

/-- A participant of a layout stands in the column for some place. -/
theorem exists_place_of_mem {l : Layout Rat} (hl : c.layout = .ok l) {p : PlacedParticipant Rat}
    (hp : p ∈ l.participants) :
    ∃ i, ∃ hi : i < c.participants.length, p = c.participants[i].place l.extent.height i := by
  obtain ⟨-, hparticipants, hextent⟩ := layout_eq_ok_iff.mp hl
  rw [hparticipants] at hp
  obtain ⟨i, hi, rfl⟩ := List.getElem_of_mem hp
  have hlt : i < c.participants.length := by simpa using hi
  exact ⟨i, hlt, by rw [getElem_placedParticipants c hlt, hextent]⟩

theorem ids_placedParticipants (c : Conversation) :
    (c.placedParticipants : List (PlacedParticipant Rat)).map PlacedParticipant.id = c.ids := by
  have h := congrArg (List.map Prod.fst) (heads_placedParticipants (α := Rat) c)
  simpa [ids, List.map_map, Function.comp_def] using h

/-- A lifeline is drawn from the middle of the lower side of its head down to the bottom. -/
theorem isLine_lifeline_place (p : Participant) (bottom : Rat) (i : Nat) :
    (p.place bottom i).lifeline.sketch.IsLine .lifeline
      ((p.place bottom i).head.frame.middle .bottom)
      ⟨((p.place bottom i).head.frame.middle .bottom).x, bottom⟩ := by
  obtain ⟨htop, hbottom⟩ := frame_lifeline_place p bottom i
  have hmiddle : (p.place bottom i).head.frame.middle .bottom =
      ⟨(p.place bottom i).lifeline.position.x, (p.place bottom i).lifeline.frame.top⟩ := by
    rw [htop, frame_head_place]
    ext
    · show (45 + 170 * (i : Rat) + (165 + 170 * (i : Rat))) / 2 = columnCenter i
      rw [columnCenter_rat]
      ring
    · rfl
  rw [hmiddle]
  refine ⟨_, rfl, rfl, rfl, rfl, ?_⟩
  exact congrArg (fun y => some (Svg.Value.number y)) hbottom

/-- The layout of a closed conversation has its participants in columns. -/
theorem IsClosed.hasColumns (h : c.IsClosed) {l : Layout Rat} (hl : c.layout = .ok l) :
    l.HasColumns c := by
  obtain ⟨-, hparticipants, hextent⟩ := layout_eq_ok_iff.mp hl
  constructor
  case heads =>
    rw [hparticipants]
    exact heads_placedParticipants c
  case nodup =>
    rw [hparticipants, ids_placedParticipants]
    exact h.nodup
  case apart =>
    rw [hparticipants]
    refine List.pairwise_iff_getElem.mpr fun i j hpi hpj hij => ?_
    have hi : i < c.participants.length := by simpa using hpi
    have hj : j < c.participants.length := by simpa using hpj
    have hstep : (i : Rat) + 1 ≤ j := by exact_mod_cast hij
    rw [getElem_placedParticipants c hi, getElem_placedParticipants c hj, frame_head_place,
      frame_head_place]
    show 165 + 170 * (i : Rat) + 50 ≤ 45 + 170 * (j : Rat)
    linarith
  case inside =>
    intro p hp
    obtain ⟨i, hi, rfl⟩ := exists_place_of_mem hl hp
    have hle : (i : Rat) + 1 ≤ c.participants.length := by exact_mod_cast hi
    have hnonneg : (0 : Rat) ≤ i := Nat.cast_nonneg i
    have hmessages : (0 : Rat) ≤ c.messages.length := Nat.cast_nonneg _
    rw [frame_head_place, hextent]
    constructor <;> simp only [Extent.inset, width_extent, height_extent] <;> linarith
  case lifelines =>
    intro p hp
    obtain ⟨i, hi, rfl⟩ := exists_place_of_mem hl hp
    exact isLine_lifeline_place _ _ i

end Conversation

/-! ## Rows -/

/-- The participant of an id, with head and lifeline. -/
def Layout.participant? (l : Layout Rat) (id : List Char) : Option (PlacedParticipant Rat) :=
  l.participants.find? fun p => p.id == id

/-- A point lies on the lifeline of a participant. -/
structure PlacedParticipant.Carries (p : PlacedParticipant Rat) (q : Point Rat) : Prop where
  x_eq : q.x = p.lifeline.position.x
  top_le : p.lifeline.frame.top ≤ q.y
  le_bottom : q.y ≤ p.lifeline.frame.bottom

/-- A layout shows a message by a horizontal arrow from the lifeline of the sender to that of the
receiver. A message to its sender comes in from the right, from within the picture and short of the
next lifeline. A text that is not empty stands over the middle of the arrow. -/
structure Layout.Shows (l : Layout Rat) (m : Message) (b : PlacedMessage Rat) : Prop where
  horizontal : b.arrow.start.y = b.y ∧ b.arrow.finish.y = b.y
  between : m.sender ≠ m.receiver → ∃ s r, l.participant? m.sender = some s ∧
    l.participant? m.receiver = some r ∧ s.Carries b.arrow.start ∧ r.Carries b.arrow.finish
  back : m.sender = m.receiver → ∃ s, l.participant? m.sender = some s ∧
    s.Carries b.arrow.finish ∧ s.lifeline.position.x < b.arrow.start.x ∧
    b.arrow.start.x < l.extent.width ∧ ∀ p ∈ l.participants,
      s.lifeline.position.x < p.lifeline.position.x → b.arrow.start.x < p.lifeline.position.x
  label_iff : b.label.isSome = true ↔ m.text ≠ []
  label_text : ∀ t ∈ b.label, t.figure.lines = [m.text]
  label_framed : ∀ t ∈ b.label, t.frame.Contains t.position
  label_centred : ∀ t ∈ b.label, t.position.x = (b.arrow.start.x + b.arrow.finish.x) / 2
  label_above : ∀ t ∈ b.label, t.frame.bottom < b.y

/-- The messages of a conversation are shown in rows, in order: each one below the heads and all
rows before it, with its label, and above the lower edge of the picture. -/
structure Layout.HasRows (l : Layout Rat) (c : Conversation) : Prop where
  shows : List.Forall₂ l.Shows c.messages l.messages
  increasing : l.messages.Pairwise fun m n => m.y < n.y
  below_heads : ∀ m ∈ l.messages, ∀ p ∈ l.participants, p.head.frame.bottom < m.y
  above_bottom : ∀ m ∈ l.messages, m.y < l.extent.height
  label_below_heads : ∀ m ∈ l.messages, ∀ t ∈ m.label, ∀ p ∈ l.participants,
    p.head.frame.bottom < t.frame.top
  label_below_rows : l.messages.Pairwise fun m n => ∀ t ∈ n.label, m.y < t.frame.top

namespace Conversation

variable {c : Conversation} {l : Layout Rat}

theorem IsClosed.participant?_eq_some (h : c.IsClosed) (hl : c.layout = .ok l) {i : Nat}
    (hi : i < c.participants.length) : l.participant? c.participants[i].id =
      some (c.participants[i].place l.extent.height i) := by
  obtain ⟨-, hparticipants, hextent⟩ := layout_eq_ok_iff.mp hl
  have hlt : i < (c.placedParticipants : List (PlacedParticipant Rat)).length := by simpa using hi
  have hmem := List.getElem_mem hlt
  rw [getElem_placedParticipants c hi, ← hparticipants, ← hextent] at hmem
  have hnodup : (l.participants.map PlacedParticipant.id).Nodup := by
    rw [hparticipants, ids_placedParticipants]
    exact h.nodup
  exact find?_key hnodup hmem

/-- Every row crosses the lifelines. -/
theorem carries_place (hl : c.layout = .ok l) (p : Participant) (i : Nat) {row : Nat}
    (hrow : row < c.messages.length) :
    (p.place l.extent.height i).Carries ⟨columnCenter i, rowCenter row⟩ := by
  obtain ⟨htop, hbottom⟩ := frame_lifeline_place p l.extent.height i
  obtain ⟨-, -, hextent⟩ := layout_eq_ok_iff.mp hl
  have hle : (row : Rat) + 1 ≤ c.messages.length := by exact_mod_cast hrow
  have hnonneg : (0 : Rat) ≤ row := Nat.cast_nonneg row
  refine ⟨rfl, ?_, ?_⟩
  · rw [htop, rowCenter_rat]
    linarith
  · rw [hbottom, rowCenter_rat, hextent, height_extent]
    linarith

/-- The arrow of a message to its sender begins within the picture. -/
theorem returnStart_lt_width {i : Nat} (hi : i < c.participants.length) :
    (columnCenter i + whole returnWidth : Rat) < (c.extent : Extent Rat).width := by
  have hle : (i : Rat) + 1 ≤ c.participants.length := by exact_mod_cast hi
  rw [width_extent, columnCenter_rat, whole_rat, returnWidth]
  push_cast
  linarith

/-- The layout of a closed conversation shows its messages. -/
theorem IsClosed.shows (h : c.IsClosed) (hl : c.layout = .ok l) {m : Message}
    (hm : m ∈ c.messages) {row : Nat} (hrow : row < c.messages.length) {b : PlacedMessage Rat}
    (hb : c.placeMessage m row = .ok b) : l.Shows m b := by
  obtain ⟨-, -, hextent⟩ := layout_eq_ok_iff.mp hl
  obtain ⟨i, j, hi, hj, hsender, hreceiver, hplace⟩ := h.placeMessage_eq_ok (α := Rat) hm
  obtain rfl := Except.ok.inj ((hplace row).symm.trans hb)
  have hs := h.participant?_eq_some hl hi
  have hr := h.participant?_eq_some hl hj
  rw [hsender] at hs
  rw [hreceiver] at hr
  constructor
  case horizontal =>
    by_cases hself : m.sender = m.receiver
    · rw [Message.placedArrow_of_eq hself]
      exact ⟨rfl, rfl⟩
    · rw [Message.placedArrow_of_ne hself]
      exact ⟨rfl, rfl⟩
  case between =>
    intro hne
    rw [Message.placedArrow_of_ne hne]
    exact ⟨_, _, hs, hr, carries_place hl _ i hrow, carries_place hl _ j hrow⟩
  case back =>
    intro heq
    rw [Message.placedArrow_of_eq heq]
    refine ⟨_, hs, carries_place hl _ i hrow, column_lt_returnStart i, ?_, ?_⟩
    · rw [hextent]
      exact returnStart_lt_width hi
    · intro p hp hright
      obtain ⟨k, hk, rfl⟩ := exists_place_of_mem hl hp
      exact returnStart_lt_column hright
  case label_iff => exact m.isSome_placedLabel _ _
  case label_text =>
    intro t ht
    rw [Message.eq_of_mem_placedLabel ht]
    rfl
  case label_framed => exact fun t ht => contains_position_label t
  case label_centred =>
    intro t ht
    rw [Message.eq_of_mem_placedLabel ht]
  case label_above =>
    intro t ht
    rw [Message.eq_of_mem_placedLabel ht, (frame_single _ _ _).2]
    linarith

/-- A message stands at the height of its row, and its label in the upper half of it. -/
theorem IsClosed.y_messages (h : c.IsClosed) (hl : c.layout = .ok l) {row : Nat}
    (hrow : row < l.messages.length) : l.messages[row].y = 96 + 36 * row ∧
      ∀ t ∈ l.messages[row].label, t.frame.top = 79 + 36 * row := by
  obtain ⟨⟨hlength, hplaced⟩, -, -⟩ := layout_eq_ok_iff.mp hl
  have hrow' : row < c.messages.length := hlength ▸ hrow
  obtain ⟨_, _, _, _, _, _, hplace⟩ := h.placeMessage_eq_ok (α := Rat) (List.getElem_mem hrow')
  rw [← Except.ok.inj ((hplace row).symm.trans (hplaced row hrow' hrow))]
  refine ⟨rowCenter_rat row, fun t ht => ?_⟩
  rw [Message.eq_of_mem_placedLabel ht, (frame_single _ _ _).1, rowCenter_rat]
  ring

/-- The layout of a closed conversation has its messages in rows. -/
theorem IsClosed.hasRows (h : c.IsClosed) (hl : c.layout = .ok l) : l.HasRows c := by
  obtain ⟨⟨hlength, hplaced⟩, -, hextent⟩ := layout_eq_ok_iff.mp hl
  have hheads : ∀ p ∈ l.participants, p.head.frame.bottom = 54 := by
    intro p hp
    obtain ⟨i, hi, rfl⟩ := exists_place_of_mem hl hp
    rw [frame_head_place]
  constructor
  case shows =>
    refine List.forall₂_iff_get.mpr ⟨hlength.symm, fun row hrow hrow' => ?_⟩
    exact h.shows hl (List.getElem_mem hrow) hrow (hplaced row hrow hrow')
  case increasing =>
    refine List.pairwise_iff_getElem.mpr fun i j hi hj hij => ?_
    have hlt : (i : Rat) < j := by exact_mod_cast hij
    rw [(h.y_messages hl hi).1, (h.y_messages hl hj).1]
    linarith
  case below_heads =>
    intro m hm p hp
    obtain ⟨row, hrow, rfl⟩ := List.getElem_of_mem hm
    have hnonneg : (0 : Rat) ≤ row := Nat.cast_nonneg row
    rw [hheads p hp, (h.y_messages hl hrow).1]
    linarith
  case above_bottom =>
    intro m hm
    obtain ⟨row, hrow, rfl⟩ := List.getElem_of_mem hm
    have hle : (row : Rat) + 1 ≤ c.messages.length := by exact_mod_cast hlength ▸ hrow
    rw [(h.y_messages hl hrow).1, hextent, height_extent]
    linarith
  case label_below_heads =>
    intro m hm t ht p hp
    obtain ⟨row, hrow, rfl⟩ := List.getElem_of_mem hm
    have hnonneg : (0 : Rat) ≤ row := Nat.cast_nonneg row
    rw [hheads p hp, (h.y_messages hl hrow).2 t ht]
    linarith
  case label_below_rows =>
    refine List.pairwise_iff_getElem.mpr fun i j hi hj hij t ht => ?_
    have hle : (i : Rat) + 1 ≤ j := by exact_mod_cast hij
    rw [(h.y_messages hl hi).1, (h.y_messages hl hj).2 t ht]
    linarith

/-- Every conversation can be laid out, with its participants in columns and its messages in
rows. -/
theorem exists_layout_columns_rows (events : List Event) :
    ∃ l : Layout Rat, (ofEvents events).layout = .ok l ∧
      l.HasColumns (ofEvents events) ∧ l.HasRows (ofEvents events) := by
  have hclosed : (ofEvents events).IsClosed := isClosed_ofEvents events
  obtain ⟨l, hl⟩ := hclosed.exists_layout (α := Rat)
  exact ⟨l, hl, hclosed.hasColumns hl, hclosed.hasRows hl⟩

end Conversation

end TextDiagram.Sequence
