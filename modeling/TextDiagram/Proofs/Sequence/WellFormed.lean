import TextDiagram.Proofs.Sequence.Grammar
import TextDiagram.Proofs.Text.Collapsed

/-!
# What the statements of a sequence diagram can describe

Ids and labels are cut out of the statements (`of_declaration?_eq_some`, `of_message?_eq_some`), and
what holds of every participant as events give it holds of all participants
(`forall_participants_ofEvents`). Main statement: every conversation that statements describe is
well formed (`isWellFormed_ofStatements`).
-/

namespace TextDiagram.Sequence

open Text

/-! ## Statements -/

theorem afterGap_suffix (t : List Char) : afterGap t <:+ t :=
  List.dropWhile_suffix isGap

theorem afterGap?_suffix {t rest : List Char} (h : afterGap? t = some rest) : rest <:+ t := by
  obtain ⟨g, u, -, -, rfl⟩ := exists_of_afterGap? h
  exact afterGap_suffix t

theorem afterWord?_suffix {word t rest : List Char} (h : afterWord? word t = some rest) :
    rest <:+ t := by
  obtain ⟨w, rfl, -⟩ := exists_of_afterWord? h
  exact List.suffix_append w rest

theorem alias?_suffix {t label : List Char} (h : alias? t = some label) : label <:+ t := by
  unfold alias? at h
  simp only [Option.bind_eq_bind, Option.bind_eq_some_iff] at h
  obtain ⟨u, hu, v, hv, hlabel⟩ := h
  exact (afterGap?_suffix hlabel).trans ((afterWord?_suffix hv).trans (afterGap?_suffix hu))

/-- A declaration names an id in the statement, and perhaps a label that is trimmed. -/
theorem of_declaration?_eq_some {s : List Char} {declared : Declaration}
    (h : declaration? s = some declared) : IsId declared.id ∧ declared.id <:+: s ∧
      ∀ label ∈ declared.label, label ≠ [] ∧ trim label = label ∧ label <:+: s := by
  unfold declaration? at h
  simp only [Option.bind_eq_bind, Option.bind_eq_some_iff] at h
  obtain ⟨t, ht, u, hu, ⟨id, rest⟩, hid, hrest⟩ := h
  obtain ⟨word, -, hword⟩ := List.exists_of_findSome?_eq_some ht
  obtain ⟨hisid, rfl⟩ := splitId?_eq_some hid
  have hstatement : id ++ rest <:+: s := ((afterGap?_suffix hu).trans
    (afterWord?_suffix hword)).isInfix.trans <| trim_infix s
  have hidpart : id <:+: s := (List.prefix_append id rest).isInfix.trans hstatement
  split at hrest
  · next label hlabel =>
    cases hrest
    refine ⟨hisid, hidpart, fun l hl => ?_⟩
    have hkept : ((some (trim label)).filter fun label => !label.isEmpty) = some l := hl
    obtain ⟨heq, hne⟩ := Option.filter_eq_some_iff.mp hkept
    cases heq
    have hlabelpart : label <:+: s :=
      ((alias?_suffix hlabel).trans (List.suffix_append id rest)).isInfix.trans hstatement
    have htrim := trim_infix label
    exact ⟨by simpa using hne, trim_trim label, htrim.trans hlabelpart⟩
  · split at hrest
    · cases hrest
      exact ⟨hisid, hidpart, nofun⟩
    · cases hrest

/-- A message names two ids in the statement. -/
theorem of_message?_eq_some {s : List Char} {sent : Message} (h : message? s = some sent) :
    (IsId sent.sender ∧ sent.sender <:+: s) ∧ IsId sent.receiver ∧ sent.receiver <:+: s := by
  obtain ⟨hs, hr, operator, -, mark, -, gap₁, gap₂, gap₃, -, -, -, ht⟩ := isWrittenAs_of_message? h
  have hstatement := trim_infix s
  have hsender : sent.sender <:+: trim s := by
    rw [ht]
    simp only [List.append_assoc]
    exact (List.prefix_append _ _).isInfix
  have hreceiver : sent.receiver <:+: trim s := by
    refine ⟨sent.sender ++ gap₁ ++ operator ++ mark ++ gap₂, gap₃ ++ [':'] ++ sent.text, ?_⟩
    rw [ht]
    simp only [List.append_assoc]
  exact ⟨⟨hs, hsender.trans hstatement⟩, hr, hreceiver.trans hstatement⟩

/-! ## Participants -/

/-- A property holds of the participants as an event gives them. -/
def Event.Gives (P : Participant → Prop) : Event → Prop
  | .join id => P ⟨id, id⟩
  | .declare id label => P ⟨id, id⟩ ∧ ∀ l ∈ label, P ⟨id, l⟩
  | .send sender receiver _ => P ⟨sender, sender⟩ ∧ P ⟨receiver, receiver⟩

namespace Conversation

variable {P : Participant → Prop} {c : Conversation}

theorem forall_participants_join (h : ∀ p ∈ c.participants, P p) {id : List Char}
    (hid : P ⟨id, id⟩) : ∀ p ∈ (c.join id).participants, P p := by
  unfold join
  split
  · exact h
  · intro p hp
    rcases List.mem_append.mp hp with hp | hp
    · exact h p hp
    · rw [List.mem_singleton.mp hp]
      exact hid

theorem forall_participants_rename (h : ∀ p ∈ c.participants, P p) {id label : List Char}
    (hlabel : P ⟨id, label⟩) : ∀ p ∈ (c.rename id label).participants, P p := by
  intro p hp
  obtain ⟨q, hq, rfl⟩ := List.mem_map.mp hp
  split
  · next hid =>
    rw [hid]
    exact hlabel
  · exact h q hq

/-- What holds of all participants and of those that an event gives holds of all after the event. -/
theorem forall_participants_next (h : ∀ p ∈ c.participants, P p) {e : Event} (he : e.Gives P) :
    ∀ p ∈ (c.next e).participants, P p := by
  cases e with
  | join id => exact forall_participants_join h he
  | declare id label =>
    show ∀ p ∈ (c.declare id label).participants, P p
    unfold declare
    split
    · exact forall_participants_join h he.1
    · next l hl =>
      have hgiven : label = some l := (Option.filter_eq_some_iff.mp hl).1
      exact forall_participants_rename (forall_participants_join h he.1) (he.2 l hgiven)
  | send sender receiver text =>
    exact forall_participants_join (forall_participants_join h he.1) he.2

/-- What holds of the participants as the events give them holds of all participants. -/
theorem forall_participants_ofEvents {events : List Event} (h : ∀ e ∈ events, e.Gives P) :
    ∀ p ∈ (ofEvents events).participants, P p := by
  induction events using List.reverseRecOn with
  | nil => exact fun p hp => absurd hp List.not_mem_nil
  | append_singleton events e ih =>
    rw [ofEvents, List.foldl_append, List.foldl_cons, List.foldl_nil]
    refine forall_participants_next (ih fun e' he' => h e' ?_) (h e ?_)
    · exact List.mem_append_left _ he'
    · exact List.mem_append_right _ (List.mem_singleton_self e)

end Conversation

/-! ## Conversations -/

/-- A participant as a statement says it: the id and the label are parts of the statement, the id of
the characters of ids, and the label not empty and trimmed. -/
structure Participant.IsReadIn (s : List Char) (p : Participant) : Prop where
  id : IsId p.id
  id_isInfix : p.id <:+: s
  label_ne_nil : p.label ≠ []
  label_trim : trim p.label = p.label
  label_isInfix : p.label <:+: s

/-- An id is shown as it is. -/
theorem IsId.isReadIn {id s : List Char} (h : IsId id) (hs : id <:+: s) :
    (⟨id, id⟩ : Participant).IsReadIn s := by
  have htrim : trim id = id := trim_eq_self_iff.mpr
    ⟨fun c hc => h.isBlank_eq_false c (List.mem_of_mem_head? hc),
      fun c hc => h.isBlank_eq_false c (List.mem_of_mem_getLast? hc)⟩
  exact ⟨h, hs, h.ne_nil, htrim, hs⟩

/-- The participants that a statement gives are read in it. -/
theorem gives_of_mem_events_read {s : List Char} {e : Event} (h : e ∈ (read s).events) :
    e.Gives (Participant.IsReadIn s) := by
  obtain ⟨-, ⟨declared, hdeclared, rfl⟩ | ⟨sent, hsent, rfl⟩⟩ := mem_events_read_iff.mp h
  · obtain ⟨hid, hpart, hlabel⟩ := of_declaration?_eq_some hdeclared
    refine ⟨hid.isReadIn hpart, fun l hl => ?_⟩
    obtain ⟨hne, htrim, hlabelpart⟩ := hlabel l hl
    exact ⟨hid, hpart, hne, htrim, hlabelpart⟩
  · obtain ⟨⟨hsender, hspart⟩, hreceiver, hrpart⟩ := of_message?_eq_some hsent
    exact ⟨hsender.isReadIn hspart, hreceiver.isReadIn hrpart⟩

/-- What a message says is a part of the statement. -/
theorem text_isInfix_of_message? {s : List Char} {sent : Message} (h : message? s = some sent) :
    sent.text <:+: s := by
  obtain ⟨-, -, operator, -, mark, -, gap₁, gap₂, gap₃, -, -, -, ht⟩ := isWrittenAs_of_message? h
  have hend : sent.text <:+ trim s := by
    rw [ht]
    exact List.suffix_append _ _
  exact hend.isInfix.trans <| trim_infix s

/-- The text of a message that a statement sends is a part of the statement, shortened. -/
theorem exists_of_message?_of_mem_events {s : List Char} {e : Event} {m : Message}
    (h : e ∈ (read s).events) (hm : e.message? = some m) :
    ∃ t, t <:+: s ∧ m.text = shorten textLimit t := by
  obtain ⟨-, ⟨declared, -, rfl⟩ | ⟨sent, hsent, rfl⟩⟩ := mem_events_read_iff.mp h
  · cases hm
  · cases hm
    exact ⟨sent.text, text_isInfix_of_message? hsent, rfl⟩

namespace Conversation

/-- A conversation that statements can describe: somebody takes part and something is sent, the ids
of the participants are distinct, each participant is read in one of the statements, ids hold no
blank, no separator and no sign of an arrow, messages go from participant to participant, and their
texts are kept in full when they are shortened again. -/
structure IsWellFormed (statements : List (List Char)) (c : Conversation) : Prop where
  participants_ne_nil : c.participants ≠ []
  messages_ne_nil : c.messages ≠ []
  nodup : c.ids.Nodup
  participants : ∀ p ∈ c.participants, ∃ s ∈ statements, p.IsReadIn s
  no_sign : ∀ p ∈ c.participants, ∀ x ∈ p.id,
    isBlank x = false ∧ x ∉ [';', '-', '<', '>', '=', ':', '+']
  ends : ∀ m ∈ c.messages, m.sender ∈ c.ids ∧ m.receiver ∈ c.ids
  text : ∀ m ∈ c.messages, m.text.length ≤ 44 ∧ shorten 44 m.text = m.text

/-- More statements can describe no less. -/
theorem IsWellFormed.mono {statements more : List (List Char)} {c : Conversation}
    (h : c.IsWellFormed statements) (hsub : statements ⊆ more) : c.IsWellFormed more :=
  { h with
    participants := fun p hp =>
      let ⟨s, hs, hread⟩ := h.participants p hp
      ⟨s, hsub hs, hread⟩ }

variable {statements : List (List Char)}

/-- Each participant of a conversation is read in one of the statements. -/
theorem exists_isReadIn_of_mem_participants :
    ∀ p ∈ (ofStatements statements).participants, ∃ s ∈ statements, p.IsReadIn s := by
  refine forall_participants_ofEvents fun e he => ?_
  obtain ⟨s, hs, hread⟩ := List.mem_flatMap.mp he
  have hgives := gives_of_mem_events_read hread
  cases e with
  | join id => exact ⟨s, hs, hgives⟩
  | declare id label => exact ⟨⟨s, hs, hgives.1⟩, fun l hl => ⟨s, hs, hgives.2 l hl⟩⟩
  | send sender receiver text => exact ⟨⟨s, hs, hgives.1⟩, s, hs, hgives.2⟩

/-- The text of a message of a conversation is a part of one of the statements, shortened. -/
theorem exists_text_eq_shorten {m : Message} (h : m ∈ (ofStatements statements).messages) :
    ∃ s ∈ statements, ∃ t, t <:+: s ∧ m.text = shorten textLimit t := by
  unfold ofStatements at h
  rw [messages_ofEvents] at h
  obtain ⟨e, he, hm⟩ := List.mem_filterMap.mp h
  obtain ⟨s, hs, hread⟩ := List.mem_flatMap.mp he
  exact ⟨s, hs, exists_of_message?_of_mem_events hread hm⟩

/-- The conversation of some statements is well formed, if somebody takes part and something is
sent. -/
theorem isWellFormed_ofStatements (hp : (ofStatements statements).participants ≠ [])
    (hm : (ofStatements statements).messages ≠ [])
    (hsep : ∀ s ∈ statements, '\n' ∉ s ∧ ';' ∉ s) :
    (ofStatements statements).IsWellFormed statements := by
  have hclosed : (ofStatements statements).IsClosed := isClosed_ofEvents _
  refine ⟨hp, hm, hclosed.nodup, exists_isReadIn_of_mem_participants, ?_, hclosed.ends, ?_⟩
  · intro p hp x hx
    obtain ⟨s, hs, hread⟩ := exists_isReadIn_of_mem_participants p hp
    have hchar := hread.id.isIdChar x hx
    simp only [isIdChar, Bool.and_eq_true, Bool.not_eq_true', List.contains_eq_mem,
      decide_eq_false_iff_not] at hchar
    refine ⟨hchar.1, fun hmem => ?_⟩
    -- a semicolon is a character of ids, but it ends statements
    rcases List.mem_cons.mp hmem with rfl | hmem
    · exact (hsep s hs).2 (hread.id_isInfix.subset hx)
    · exact hchar.2 hmem
  · intro m hm
    obtain ⟨-, -, t, -, ht⟩ := exists_text_eq_shorten hm
    rw [ht]
    exact ⟨length_shorten_le (by decide) t, shorten_shorten textLimit t⟩

end Conversation

end TextDiagram.Sequence
