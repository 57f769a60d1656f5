import TextDiagram.Proofs.Flow.Token

/-!
# The grammar of node tokens

A node is an id and perhaps a label in brackets behind it. The id reaches as far as it can, and the
body of the brackets up to the end, whatever brackets it holds itself. Doubled round brackets are
meant where they can be, and single ones if they are not closed as doubled ones. Main statement: a
text is read as a node exactly if it is written as that node, and it is written as some node exactly
if a pair of single brackets, or nothing, stands around what follows the id
(`Token.ofText?_eq_some_iff_isWrittenAs`).
-/

namespace TextDiagram.Flow

open Text

/-! ## Ids -/

/-- A text is the longest start of another that is made up of characters of ids. -/
structure IsLongestId (id t : List Char) : Prop where
  isPrefix : id <+: t
  isIdChar : ∀ c ∈ id, isIdChar c = true
  length_le : ∀ s, s <+: t → (∀ c ∈ s, Flow.isIdChar c = true) → s.length ≤ id.length

theorem isLongestId_append_iff {id rest : List Char} : IsLongestId id (id ++ rest) ↔
    (∀ c ∈ id, isIdChar c = true) ∧ ∀ c ∈ rest.head?, isIdChar c = false := by
  constructor
  · intro h
    refine ⟨h.isIdChar, fun c hc => ?_⟩
    by_contra hid
    -- with one more character of ids there would be a longer one
    obtain ⟨u, rfl⟩ := List.head?_eq_some_iff.mp hc
    have hlonger := h.length_le (id ++ [c]) ⟨u, by simp⟩
      (List.forall_mem_append.mpr ⟨h.isIdChar, by simpa using hid⟩)
    rw [List.length_append, List.length_singleton] at hlonger
    omega
  · rintro ⟨hid, hrest⟩
    refine ⟨List.prefix_append id rest, hid, ?_⟩
    rintro s ⟨u, hu⟩ hs
    have hrun : s ++ u.takeWhile isIdChar = id := by
      rw [← (run_append hid hrest).1, ← hu, List.takeWhile_append_of_pos hs]
    rw [← hrun, List.length_append]
    omega

theorem isLongestId_takeWhile (t : List Char) : IsLongestId (t.takeWhile isIdChar) t := by
  have h : IsLongestId (t.takeWhile isIdChar)
      (t.takeWhile isIdChar ++ t.dropWhile isIdChar) := by
    refine isLongestId_append_iff.mpr ⟨fun c hc => List.mem_takeWhile_imp hc, ?_⟩
    intro c hc
    have hstop := List.head?_dropWhile_not isIdChar t
    rw [Option.mem_def.mp hc] at hstop
    simpa using hstop
  rwa [List.takeWhile_append_dropWhile] at h

/-! ## Brackets -/

/-- A text begins with one text and ends with another, and has room for both. -/
structure IsEnclosed (opening closing t : List Char) : Prop where
  starts : opening <+: t
  ends : closing <:+ t
  apart : opening.length + closing.length ≤ t.length

theorem isEnclosed_iff {opening closing t : List Char} :
    IsEnclosed opening closing t ↔ ∃ body, t = opening ++ (body ++ closing) := by
  constructor
  · rintro ⟨⟨rest, rfl⟩, hclosing, hlength⟩
    rw [List.length_append] at hlength
    obtain ⟨body, rfl⟩ : closing <:+ rest :=
      List.suffix_of_suffix_length_le hclosing (List.suffix_append opening rest) (by omega)
    exact ⟨body, rfl⟩
  · rintro ⟨body, rfl⟩
    refine ⟨List.prefix_append _ _, ?_, ?_⟩
    · rw [← List.append_assoc]
      exact List.suffix_append _ _
    · rw [List.length_append, List.length_append]
      omega

/-- Doubled round brackets stand around a text. -/
def IsDoubled (t : List Char) : Prop :=
  IsEnclosed "((".toList "))".toList t

/-- Single brackets of some kind stand around a text. -/
def IsBracketed (t : List Char) : Prop :=
  IsEnclosed ['['] [']'] t ∨ IsEnclosed ['('] [')'] t ∨ IsEnclosed ['\x7b'] ['\x7d'] t

namespace Brackets

/-- The doubled round brackets, which are tried before the single ones. -/
def doubled : Brackets :=
  ⟨"((".toList, "))".toList, .circle⟩

theorem eq_doubled_of_mem_all {b : Brackets} (hb : b ∈ all) (hshape : b.shape = .circle) :
    b = doubled := by
  simp only [all, List.mem_cons, List.not_mem_nil, or_false] at hb
  rcases hb with rfl | rfl | rfl | rfl
  · rfl
  · cases hshape
  · cases hshape
  · cases hshape

variable {β : Type} {f : Brackets → List Char → β} {rest : List Char}

/-- Doubled brackets are read as such. -/
theorem findSome?_body?_of_doubled {body : List Char} (h : doubled.body? rest = some body) :
    (all.findSome? fun b => (b.body? rest).map (f b)) = some (f doubled body) := by
  have hall : all = doubled :: all.tail := rfl
  rw [hall, List.findSome?_cons, h]
  rfl

/-- Single brackets are read by their first character, unless they are doubled. -/
theorem findSome?_body?_of_single {b : Brackets} (hb : b ∈ all) {body : List Char}
    (h : b.body? rest = some body) (hdoubled : doubled.body? rest = none) :
    (all.findSome? fun b => (b.body? rest).map (f b)) = some (f b body) := by
  have hall : all = doubled :: all.tail := rfl
  have htail : (all.findSome? fun b => (b.body? rest).map (f b)) =
      all.tail.findSome? fun b => (b.body? rest).map (f b) := by
    rw [hall, List.findSome?_cons, hdoubled]
    rfl
  rw [htail]
  simp only [all, List.mem_cons, List.not_mem_nil, or_false] at hb
  rcases hb with rfl | rfl | rfl | rfl
  · rw [doubled, h] at hdoubled
    cases hdoubled
  · rw [all, List.tail_cons, List.findSome?_cons, h]
    rfl
  · obtain rfl := body?_eq_some_iff.mp h
    rw [all, List.tail_cons, List.findSome?_cons, List.findSome?_cons, h]
    rfl
  · obtain rfl := body?_eq_some_iff.mp h
    rw [all, List.tail_cons, List.findSome?_cons, List.findSome?_cons, List.findSome?_cons, h]
    rfl

/-- Of the brackets that enclose a text, the doubled ones are read if they are among them. -/
theorem findSome?_eq_some_iff {x : β} :
    (all.findSome? fun b => (b.body? rest).map (f b)) = some x ↔
      ∃ b ∈ all, ∃ body, rest = b.opening ++ (body ++ b.closing) ∧
        (b.shape = .circle ↔ IsDoubled rest) ∧ f b body = x := by
  by_cases hd : IsDoubled rest
  · obtain ⟨inner, hinner⟩ := isEnclosed_iff.mp hd
    have hself : doubled.body? rest = some inner := body?_eq_some_iff.mpr hinner
    rw [findSome?_body?_of_doubled hself]
    constructor
    · intro h
      exact ⟨doubled, List.mem_cons_self .., inner, hinner, iff_of_true rfl hd, Option.some.inj h⟩
    · rintro ⟨b, hb, body, hbody, hshape, rfl⟩
      obtain rfl := eq_doubled_of_mem_all hb (hshape.mpr hd)
      rw [body?_eq_some_iff.mpr hbody] at hself
      rw [Option.some.inj hself]
  · have hnone : doubled.body? rest = none := by
      refine Option.eq_none_iff_forall_ne_some.mpr fun body hbody => hd ?_
      exact isEnclosed_iff.mpr ⟨body, body?_eq_some_iff.mp hbody⟩
    constructor
    · intro h
      obtain ⟨b, hb, hread⟩ := List.exists_of_findSome?_eq_some h
      obtain ⟨body, hbody, rfl⟩ := Option.map_eq_some_iff.mp hread
      refine ⟨b, hb, body, body?_eq_some_iff.mp hbody, iff_of_false (fun hshape => ?_) hd, rfl⟩
      rw [eq_doubled_of_mem_all hb hshape, hnone] at hbody
      cases hbody
    · rintro ⟨b, hb, body, hbody, -, rfl⟩
      exact findSome?_body?_of_single hb (body?_eq_some_iff.mpr hbody) hnone

end Brackets

/-- Brackets of some kind stand around a text exactly if single ones do. -/
theorem isBracketed_iff {t : List Char} : IsBracketed t ↔
    ∃ b ∈ Brackets.all, ∃ body, t = b.opening ++ (body ++ b.closing) ∧
      (b.shape = .circle ↔ IsDoubled t) := by
  have hround : ∀ c : Char, c ≠ '(' → ∀ u, ¬ IsDoubled (c :: u) := by
    intro c hc u h
    obtain ⟨body, hbody⟩ := isEnclosed_iff.mp h
    exact hc (List.cons.inj hbody).1
  constructor
  · intro h
    simp only [IsBracketed, isEnclosed_iff] at h
    rcases h with ⟨body, rfl⟩ | ⟨body, rfl⟩ | ⟨body, rfl⟩
    · exact ⟨⟨['['], [']'], .square⟩, by simp [Brackets.all], body, rfl,
        iff_of_false (by decide) (hround '[' (by decide) _)⟩
    · by_cases hd : IsDoubled (['('] ++ (body ++ [')']))
      · obtain ⟨inner, hinner⟩ := isEnclosed_iff.mp hd
        exact ⟨.doubled, List.mem_cons_self .., inner, hinner, iff_of_true rfl hd⟩
      · exact ⟨⟨['('], [')'], .round⟩, by simp [Brackets.all], body, rfl, iff_of_false (by decide) hd⟩
    · exact ⟨⟨['\x7b'], ['\x7d'], .rhombus⟩, by simp [Brackets.all], body, rfl,
        iff_of_false (by decide) (hround '\x7b' (by decide) _)⟩
  · rintro ⟨b, hb, body, rfl, -⟩
    simp only [IsBracketed, isEnclosed_iff]
    simp only [Brackets.all, List.mem_cons, List.not_mem_nil, or_false] at hb
    rcases hb with rfl | rfl | rfl | rfl
    · -- the inner ones of the doubled brackets belong to the body of the outer ones
      exact Or.inr (Or.inl ⟨'(' :: (body ++ [')']), by simp⟩)
    · exact Or.inl ⟨body, rfl⟩
    · exact Or.inr (Or.inl ⟨body, rfl⟩)
    · exact Or.inr (Or.inr ⟨body, rfl⟩)

/-! ## Nodes -/

/-- A text is written as a node: its id is the longest there is, and behind it stands nothing or
brackets around a body. The shape is that of the brackets, a circle if doubled ones can be meant,
and the label is what the body holds. -/
def Token.IsWrittenAs (token : Token) (t : List Char) : Prop :=
  token.id ≠ [] ∧ IsLongestId token.id t ∧ ∃ rest, t = token.id ++ rest ∧
    (rest = [] ∧ token.shape = .bare ∧ token.label = none ∨
      ∃ b ∈ Brackets.all, ∃ body, rest = b.opening ++ (body ++ b.closing) ∧
        (b.shape = .circle ↔ IsDoubled rest) ∧ token.shape = b.shape ∧ token.label = label? body)

theorem Token.ofText?_trim (t : List Char) : ofText? (trim t) = ofText? t := by
  unfold ofText?
  rw [trim_trim]

/-- A text is read by what stands behind its longest id. -/
theorem Token.ofText?_of_isLongestId {t id rest : List Char} (hne : id ≠ [])
    (hlong : IsLongestId id (trim t)) (hsplit : trim t = id ++ rest) :
    ofText? t = if rest = [] then some ⟨id, none, .bare⟩ else
      Brackets.all.findSome? fun b => (b.body? rest).map fun body => ⟨id, label? body, b.shape⟩ := by
  rw [hsplit] at hlong
  obtain ⟨hid, hrest⟩ := isLongestId_append_iff.mp hlong
  have htrim : trim (id ++ rest) = id ++ rest := by rw [← hsplit, trim_trim]
  rw [← ofText?_trim, hsplit, ofText?_append hne hid hrest htrim]

theorem Token.ofText?_eq_some_iff {t : List Char} {token : Token} :
    ofText? t = some token ↔ token.IsWrittenAs (trim t) := by
  constructor
  · intro h
    obtain ⟨hid, hne⟩ := ofText?_eq_some h
    have hlong : IsLongestId token.id (trim t) := hid ▸ isLongestId_takeWhile (trim t)
    obtain ⟨rest, hsplit⟩ := hlong.isPrefix
    refine ⟨hne, hlong, rest, hsplit.symm, ?_⟩
    rw [ofText?_of_isLongestId hne hlong hsplit.symm] at h
    split at h
    · next hrest =>
      rw [← Option.some.inj h]
      exact Or.inl ⟨hrest, rfl, rfl⟩
    · obtain ⟨b, hb, body, hbody, hshape, htoken⟩ := Brackets.findSome?_eq_some_iff.mp h
      refine Or.inr ⟨b, hb, body, hbody, hshape, ?_⟩
      rw [← htoken]
      exact ⟨rfl, rfl⟩
  · rintro ⟨hne, hlong, rest, hsplit, hcases⟩
    rw [ofText?_of_isLongestId hne hlong hsplit]
    rcases hcases with ⟨hrest, hbare, hlabel⟩ | ⟨b, hb, body, hbody, hshape, hbshape, hlabel⟩
    · rw [if_pos hrest, ← hbare, ← hlabel]
    · have hopening : ∀ b ∈ Brackets.all, b.opening ≠ [] := by decide
      have hrest : rest ≠ [] := by
        rw [hbody]
        exact List.append_ne_nil_of_left_ne_nil (hopening b hb) _
      rw [if_neg hrest]
      refine Brackets.findSome?_eq_some_iff.mpr ⟨b, hb, body, hbody, hshape, ?_⟩
      rw [← hbshape, ← hlabel]

/-- A token is bare and an id alone, or it is an id with brackets behind it and has the label in the
body of the brackets. -/
theorem Token.cases_of_ofText? {t : List Char} {token : Token} (h : ofText? t = some token) :
    (trim t = token.id ∧ token.shape = .bare ∧ token.label = none) ∨
      ∃ b ∈ Brackets.all, ∃ body, trim t = token.id ++ (b.opening ++ (body ++ b.closing)) ∧
        b.shape = token.shape ∧ token.label = label? body := by
  obtain ⟨-, -, rest, hsplit, hcases⟩ := ofText?_eq_some_iff.mp h
  rcases hcases with ⟨rfl, hshape, hlabel⟩ | ⟨b, hb, body, rfl, -, hshape, hlabel⟩
  · rw [List.append_nil] at hsplit
    exact Or.inl ⟨hsplit, hshape, hlabel⟩
  · exact Or.inr ⟨b, hb, body, hsplit, hshape.symm, hlabel⟩

/-- A text is read as a node exactly if it is written as that node. It is written as a node if it
begins with an id and nothing follows, or brackets of one kind around whatever there is. -/
theorem Token.ofText?_eq_some_iff_isWrittenAs (t : List Char) :
    (∀ token, ofText? t = some token ↔ token.IsWrittenAs (trim t)) ∧
      ((∃ token, ofText? t = some token) ↔ ∃ id rest, id ≠ [] ∧ IsLongestId id (trim t) ∧
        trim t = id ++ rest ∧ (rest = [] ∨ IsBracketed rest)) := by
  refine ⟨fun token => ofText?_eq_some_iff, ?_⟩
  constructor
  · rintro ⟨token, htoken⟩
    obtain ⟨hne, hlong, rest, hsplit, hcases⟩ := ofText?_eq_some_iff.mp htoken
    refine ⟨token.id, rest, hne, hlong, hsplit, ?_⟩
    rcases hcases with ⟨hrest, -, -⟩ | ⟨b, hb, body, hbody, hshape, -, -⟩
    · exact Or.inl hrest
    · exact Or.inr (isBracketed_iff.mpr ⟨b, hb, body, hbody, hshape⟩)
  · rintro ⟨id, rest, hne, hlong, hsplit, hrest | hrest⟩
    · exact ⟨⟨id, none, .bare⟩, ofText?_eq_some_iff.mpr
        ⟨hne, hlong, rest, hsplit, Or.inl ⟨hrest, rfl, rfl⟩⟩⟩
    · obtain ⟨b, hb, body, hbody, hshape⟩ := isBracketed_iff.mp hrest
      exact ⟨⟨id, label? body, b.shape⟩, ofText?_eq_some_iff.mpr
        ⟨hne, hlong, rest, hsplit, Or.inr ⟨b, hb, body, hbody, hshape, rfl, rfl⟩⟩⟩

/-- Two brackets that are closed by one are a single one and the body. -/
example : Token.ofText? "A(()".toList = some ⟨['A'], some ['('], .round⟩ := by
  decide +kernel

end TextDiagram.Flow
