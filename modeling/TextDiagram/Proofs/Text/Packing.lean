import Mathlib.Data.List.Flatten
import TextDiagram.Proofs.Text.Fit

/-!
# Words packed into lines

A text is wrapped by packing its words into lines one after the other, as many into each line as it
holds (`wrap_eq_map_pack`). Main statement: no way of cutting the words into lines that hold them
shows more of them, and none that shows all of them needs fewer lines (`wrap_isLongestCutting`).
-/

namespace TextDiagram.Text

/-! ## Lines of words -/

theorem joined_append {ws vs : List (List Char)} (hws : ws ≠ []) (hvs : vs ≠ []) :
    joined (ws ++ vs) = joined ws ++ ' ' :: joined vs := by
  induction ws with
  | nil => exact absurd rfl hws
  | cons w ws ih =>
    by_cases hne : ws = []
    · rw [hne, List.singleton_append, joined_cons hvs, joined_singleton]
    · rw [List.cons_append, joined_cons (by simp [hne]), joined_cons hne, ih hne,
        List.append_assoc, List.cons_append]

theorem joined_concat {ws : List (List Char)} (hne : ws ≠ []) (w : List Char) :
    joined (ws ++ [w]) = joined ws ++ ' ' :: w := by
  rw [joined_append hne (List.cons_ne_nil w []), joined_singleton]

/-- A line has the characters of its words and the spaces between them. -/
theorem length_joined (ws : List (List Char)) :
    (joined ws).length = ws.flatten.length + (ws.length - 1) := by
  induction ws with
  | nil => rfl
  | cons w ws ih =>
    by_cases hne : ws = []
    · simp [hne]
    · have hpos := List.length_pos_iff.mpr hne
      rw [joined_cons hne, List.length_append, List.length_cons, ih, List.flatten_cons,
        List.length_append, List.length_cons]
      omega

theorem length_joined_le {ws vs : List (List Char)} (h : ws.Sublist vs) :
    (joined ws).length ≤ (joined vs).length := by
  rw [length_joined, length_joined]
  have hchars := h.flatten.length_le
  have hwords := h.length_le
  omega

/-- The words of a line are those of which it is made. -/
theorem words_joined {ws : List (List Char)} (hne : ∀ w ∈ ws, w ≠ [])
    (hws : ∀ w ∈ ws, ∀ c ∈ w, isBlank c = false) : words (joined ws) = ws := by
  induction ws with
  | nil => exact words_nil
  | cons w ws ih =>
    obtain ⟨hw, hws⟩ := List.forall_mem_cons.mp hws
    obtain ⟨hwne, hne⟩ := List.forall_mem_cons.mp hne
    by_cases hnil : ws = []
    · rw [hnil, joined_singleton, words_eq_singleton hwne hw]
    · rw [joined_cons hnil, words_append_cons (by decide), words_eq_singleton hwne hw, ih hne hws,
        List.singleton_append]

/-! ## Cuttings -/

/-- Words share a line of some width: there are words, and they fit, or there is only one. -/
structure ShareLine (width : Nat) (ws : List (List Char)) : Prop where
  ne_nil : ws ≠ []
  fits : (joined ws).length ≤ width ∨ ws.length = 1

instance (width : Nat) (ws : List (List Char)) : Decidable (ShareLine width ws) :=
  decidable_of_iff (ws ≠ [] ∧ ((joined ws).length ≤ width ∨ ws.length = 1))
    ⟨fun h => ⟨h.1, h.2⟩, fun h => ⟨h.ne_nil, h.fits⟩⟩

/-- The first of some words are cut into lines: there are at most `limit` lines, and each of them
holds its words. -/
structure IsCutting (width limit : Nat) (ws : List (List Char)) (cut : List (List (List Char))) :
    Prop where
  length_le : cut.length ≤ limit
  share : ∀ line ∈ cut, ShareLine width line
  isPrefix : cut.flatten <+: ws

/-- All of some words can be cut into at most `limit` lines. -/
def HaveRoom (width limit : Nat) (ws : List (List Char)) : Prop :=
  ∃ cut, IsCutting width limit ws cut ∧ cut.flatten = ws

theorem IsCutting.mono {width k limit : Nat} {ws : List (List Char)} {cut : List (List (List Char))}
    (h : IsCutting width k ws cut) (hk : k ≤ limit) : IsCutting width limit ws cut :=
  { h with length_le := h.length_le.trans hk }

/-! ## Packing -/

/-- The number of the next words that join a line. -/
def joining (width : Nat) : (line : List Char) → List (List Char) → Nat
  | _, [] => 0
  | line, word :: rest =>
    if line.length + 1 + word.length ≤ width then joining width (line ++ ' ' :: word) rest + 1
    else 0

/-- Packs words into at most `limit` lines, into each as many as it holds. -/
def pack (width : Nat) : (limit : Nat) → List (List Char) → List (List (List Char))
  | 0, _ => []
  | _, [] => []
  | limit + 1, word :: rest =>
    (word :: rest.take (joining width word rest)) ::
      pack width limit (rest.drop (joining width word rest))

section Joining

variable {width : Nat} {line : List (List Char)}

theorem fill_cons (width more : Nat) (line word : List Char) (rest : List (List Char)) :
    fill width more line (word :: rest) =
      if line.length + 1 + word.length ≤ width then fill width more (line ++ ' ' :: word) rest
      else line :: match more with
        | 0 => []
        | more + 1 => fill width more word rest := by
  cases more with
  | zero => rfl
  | succ more => rfl

/-- A line goes on with the words that join it, and the words behind them begin the next line. -/
theorem fill_joined (width : Nat) (hne : line ≠ []) (more : Nat) (rest : List (List Char)) :
    fill width more (joined line) rest =
      joined (line ++ rest.take (joining width (joined line) rest)) ::
        match more, rest.drop (joining width (joined line) rest) with
        | 0, _ | _, [] => []
        | more + 1, word :: rest => fill width more word rest := by
  -- each word that joins makes the line longer, hence over all lines
  induction rest generalizing line with
  | nil =>
    cases more with
    | zero => simp [fill]
    | succ more => simp [fill]
  | cons word rest ih =>
    by_cases hfits : (joined line).length + 1 + word.length ≤ width
    · have hconcat : line ++ [word] ≠ [] := by simp
      have hnext := ih hconcat
      rw [joined_concat hne] at hnext
      rw [fill_cons, if_pos hfits, joining, if_pos hfits, hnext, List.take_succ_cons,
        List.drop_succ_cons, List.append_assoc, List.singleton_append]
    · rw [fill_cons, if_neg hfits, joining, if_neg hfits, List.take_zero, List.drop_zero,
        List.append_nil]
      cases more with
      | zero => rfl
      | succ more => rfl

theorem length_joined_joining_le (hne : line ≠ []) {rest : List (List Char)}
    (h : joining width (joined line) rest ≠ 0) :
    (joined (line ++ rest.take (joining width (joined line) rest))).length ≤ width := by
  induction rest generalizing line with
  | nil => exact absurd rfl h
  | cons word rest ih =>
    by_cases hfits : (joined line).length + 1 + word.length ≤ width
    · have hconcat := joined_concat hne word
      rw [joining, if_pos hfits, List.take_succ_cons, ← hconcat]
      by_cases hlast : joining width (joined (line ++ [word])) rest = 0
      · rw [hlast, List.take_zero, hconcat, List.length_append, List.length_cons]
        omega
      · have hnext := ih (by simp) hlast
        rwa [List.append_assoc, List.singleton_append] at hnext
    · rw [joining, if_neg hfits] at h
      exact absurd rfl h

/-- No more words fit than those that join the line. -/
theorem length_le_joining (hne : line ≠ []) {next rest : List (List Char)} (hnext : next <+: rest)
    (hfits : (joined (line ++ next)).length ≤ width) :
    next.length ≤ joining width (joined line) rest := by
  induction rest generalizing line next with
  | nil =>
    rw [List.prefix_nil.mp hnext]
    exact Nat.zero_le _
  | cons word rest ih =>
    cases next with
    | nil => exact Nat.zero_le _
    | cons w next =>
      obtain ⟨rfl, hrest⟩ := List.cons_prefix_cons.mp hnext
      rw [← List.singleton_append, ← List.append_assoc] at hfits
      -- the line with the first of the words is a part of the line that fits
      have hfirst := length_joined_le (List.sublist_append_left (line ++ [w]) next)
      rw [joined_concat hne, List.length_append, List.length_cons] at hfirst
      have hroom : (joined line).length + 1 + w.length ≤ width := by omega
      rw [joining, if_pos hroom, ← joined_concat hne, List.length_cons]
      exact Nat.succ_le_succ (ih (by simp) hrest hfits)

end Joining

section Pack

variable {width limit : Nat} {ws : List (List Char)}

/-- A word goes on with those that join it, and the words behind them begin the next line. -/
theorem fill_word (more : Nat) (word : List Char) (rest : List (List Char)) :
    fill width more word rest =
      joined (word :: rest.take (joining width word rest)) ::
        match more, rest.drop (joining width word rest) with
        | 0, _ | _, [] => []
        | more + 1, word :: rest => fill width more word rest := by
  have hline := fill_joined width (List.cons_ne_nil word []) more rest
  rwa [joined_singleton] at hline

theorem fill_eq_map_pack (more : Nat) (word : List Char) (rest : List (List Char)) :
    fill width more word rest = (pack width (more + 1) (word :: rest)).map joined := by
  induction more generalizing word rest with
  | zero =>
    rw [fill_word]
    rfl
  | succ more ih =>
    rw [fill_word, pack, List.map_cons]
    cases rest.drop (joining width word rest) with
    | nil => rfl
    | cons next rest => exact congrArg _ (ih next rest)

/-- Wrapping packs the words of the text. -/
theorem wrap_eq_map_pack (width limit : Nat) (t : List Char) :
    wrap width limit t = (pack width limit (words t)).map joined := by
  unfold wrap
  cases limit with
  | zero => rfl
  | succ more =>
    cases words t with
    | nil => rfl
    | cons word rest => exact fill_eq_map_pack more word rest

theorem isCutting_pack (width limit : Nat) (ws : List (List Char)) :
    IsCutting width limit ws (pack width limit ws) := by
  fun_induction pack width limit ws with
  | case1 ws => exact ⟨Nat.le_refl 0, by simp, List.nil_prefix⟩
  | case2 limit _ => exact ⟨Nat.zero_le limit, by simp, List.nil_prefix⟩
  | case3 limit word rest ih =>
    refine ⟨Nat.succ_le_succ ih.length_le, List.forall_mem_cons.mpr ⟨⟨by simp, ?_⟩, ih.share⟩, ?_⟩
    · by_cases hnone : joining width word rest = 0
      · simp [hnone]
      · have hjoining : joining width (joined [word]) rest ≠ 0 := by rwa [joined_singleton]
        have hfits := length_joined_joining_le (List.cons_ne_nil word []) hjoining
        rw [joined_singleton] at hfits
        exact Or.inl hfits
    · rw [List.flatten_cons, List.cons_append, List.prefix_cons_inj]
      calc rest.take (joining width word rest) ++
            (pack width limit (rest.drop (joining width word rest))).flatten
          <+: rest.take (joining width word rest) ++ rest.drop (joining width word rest) :=
            (List.prefix_append_right_inj _).mpr ih.isPrefix
        _ = rest := List.take_append_drop ..

/-- With a smaller limit the same lines are packed as far as they go. -/
theorem take_pack {fewer : Nat} (h : fewer ≤ limit) (ws : List (List Char)) :
    (pack width limit ws).take fewer = pack width fewer ws := by
  induction fewer generalizing limit ws with
  | zero => rw [List.take_zero, pack]
  | succ fewer ih =>
    obtain ⟨limit, rfl⟩ : ∃ l, limit = l + 1 := ⟨limit - 1, by omega⟩
    cases ws with
    | nil => simp [pack]
    | cons word rest =>
      rw [pack, pack, List.take_succ_cons, ih (by omega)]

/-- Words are left over only if all lines are taken. -/
theorem length_pack_of_flatten_ne (h : (pack width limit ws).flatten ≠ ws) :
    (pack width limit ws).length = limit := by
  fun_induction pack width limit ws with
  | case1 ws => rfl
  | case2 limit _ => exact absurd rfl h
  | case3 limit word rest ih =>
    rw [List.length_cons, ih fun hrest => h ?_]
    rw [List.flatten_cons, hrest, List.cons_append, List.take_append_drop]

/-- A line that may have begun before some words ends no later than the line packed with them. -/
theorem length_le_packed {start rest line : List (List Char)} {word : List Char}
    (h : ShareLine width line) (hstart : line <+: start ++ word :: rest) :
    line.length ≤ (start ++ word :: rest.take (joining width word rest)).length := by
  rw [List.length_append, List.length_cons, List.length_take]
  by_cases hshort : line.length ≤ start.length
  · omega
  · obtain ⟨next, rfl⟩ := List.prefix_of_prefix_length_le (List.prefix_append start _) hstart
      (Nat.le_of_not_le hshort)
    have hnext : next <+: word :: rest := (List.prefix_append_right_inj start).mp hstart
    cases next with
    | nil => simp at hshort
    | cons w next =>
      obtain ⟨rfl, hrest⟩ := List.cons_prefix_cons.mp hnext
      have hlength := hrest.length_le
      rw [List.length_append, List.length_cons]
      rcases h.fits with hfits | hone
      · -- the words that the line has behind the start fit, and so they join the packed line
        have hpart := length_joined_le (List.sublist_append_right start (w :: next))
        have hjoin := length_le_joining (List.cons_ne_nil w []) hrest (hpart.trans hfits)
        rw [joined_singleton] at hjoin
        omega
      · rw [List.length_append, List.length_cons] at hone
        omega

/-- Packing stays ahead: a cutting that had a start shows at most the start and what is packed. -/
theorem length_flatten_le_start_add {start : List (List Char)} {other : List (List (List Char))}
    (h : IsCutting width limit (start ++ ws) other) :
    other.flatten.length ≤ start.length + (pack width limit ws).flatten.length := by
  -- the start is what the packed lines so far show more than those of the other cutting
  induction limit generalizing start ws other with
  | zero =>
    rw [List.eq_nil_of_length_eq_zero (Nat.le_zero.mp h.length_le)]
    exact Nat.zero_le _
  | succ limit ih =>
    cases ws with
    | nil =>
      have hlength := h.isPrefix.length_le
      rw [List.append_nil] at hlength
      exact hlength.trans (Nat.le_add_right _ _)
    | cons word rest =>
      cases other with
      | nil => exact Nat.zero_le _
      | cons line others =>
        obtain ⟨hline, hothers⟩ := List.forall_mem_cons.mp h.share
        have hall : line ++ others.flatten <+: start ++ word :: rest := h.isPrefix
        have hends := length_le_packed hline ((List.prefix_append line _).trans hall)
        set packed := word :: rest.take (joining width word rest) with hpacked
        set behind := rest.drop (joining width word rest) with hbehind
        have hsplit : start ++ word :: rest = (start ++ packed) ++ behind := by
          rw [List.append_assoc, hpacked, hbehind, List.cons_append, List.take_append_drop]
        rw [hsplit] at hall
        -- what the packed line shows more than the other one is the start of the next line
        obtain ⟨ahead, hahead⟩ := List.prefix_of_prefix_length_le
          ((List.prefix_append line _).trans hall) (List.prefix_append (start ++ packed) behind) hends
        rw [← hahead, List.append_assoc, List.prefix_append_right_inj] at hall
        have hrest := ih ⟨Nat.le_of_succ_le_succ h.length_le, hothers, hall⟩
        have hlength := congrArg List.length hahead
        rw [List.length_append, List.length_append] at hlength
        rw [pack, ← hpacked, ← hbehind, List.flatten_cons, List.flatten_cons, List.length_append,
          List.length_append]
        omega

/-- No cutting shows more words than are packed. -/
theorem length_flatten_le_pack {other : List (List (List Char))}
    (h : IsCutting width limit ws other) :
    other.flatten.length ≤ (pack width limit ws).flatten.length := by
  have hstart : IsCutting width limit ([] ++ ws) other := h
  have hahead := length_flatten_le_start_add hstart
  rwa [List.length_nil, Nat.zero_add] at hahead

theorem flatten_pack_of_haveRoom (h : HaveRoom width limit ws) :
    (pack width limit ws).flatten = ws := by
  obtain ⟨other, hother, hall⟩ := h
  have hlength := length_flatten_le_pack hother
  rw [hall] at hlength
  exact (isCutting_pack width limit ws).isPrefix.eq_of_length_le hlength

/-- No more lines are packed than all words need. -/
theorem length_pack_le_of_haveRoom {k : Nat} (hk : k ≤ limit) (h : HaveRoom width k ws) :
    (pack width limit ws).length ≤ k := by
  rw [← List.drop_eq_nil_iff]
  have hcutting := isCutting_pack width limit ws
  have hflatten : ws ++ ((pack width limit ws).drop k).flatten = (pack width limit ws).flatten := by
    conv_rhs => rw [← List.take_append_drop k (pack width limit ws), List.flatten_append,
      take_pack hk, flatten_pack_of_haveRoom h]
  -- the lines behind the first `k` would have words that are not left
  have hlength := hcutting.isPrefix.length_le
  rw [← hflatten, List.length_append] at hlength
  have hnone : ((pack width limit ws).drop k).flatten = [] :=
    List.eq_nil_of_length_eq_zero (by omega)
  refine List.eq_nil_iff_forall_not_mem.mpr fun line hline => ?_
  exact (hcutting.share line (List.mem_of_mem_drop hline)).ne_nil
    (List.flatten_eq_nil_iff.mp hnone line hline)

end Pack

/-! ## Wrapped texts -/

/-- The lines of a wrapped text have the words that are packed into them. -/
theorem map_words_wrap (width limit : Nat) (t : List Char) :
    (wrap width limit t).map words = pack width limit (words t) := by
  rw [wrap_eq_map_pack, List.map_map]
  refine (List.map_congr_left fun line hline => ?_).trans (List.map_id _)
  -- the words on a line are words of the text
  have hmem : ∀ w ∈ line, w ∈ words t := fun w hw =>
    (isCutting_pack width limit (words t)).isPrefix.subset (List.mem_flatten_of_mem hline hw)
  exact words_joined (fun w hw => ne_nil_of_mem_words (hmem w hw))
    fun w hw => isBlank_eq_false_of_mem_words (hmem w hw)

theorem ne_nil_of_mem_wrap {width limit : Nat} {t line : List Char}
    (h : line ∈ wrap width limit t) : line ≠ [] := by
  have hpacked : words line ∈ pack width limit (words t) :=
    map_words_wrap width limit t ▸ List.mem_map_of_mem h
  intro hnil
  refine ((isCutting_pack width limit (words t)).share _ hpacked).ne_nil ?_
  rw [hnil, words_nil]

theorem flatMap_words_wrap (width limit : Nat) (t : List Char) :
    (wrap width limit t).flatMap words = (pack width limit (words t)).flatten := by
  rw [← map_words_wrap, List.flatMap_def]

/-- A wrapped text shows all of its words if they have room, and only then. -/
theorem haveRoom_iff {width limit : Nat} {t : List Char} :
    HaveRoom width limit (words t) ↔ (wrap width limit t).flatMap words = words t := by
  rw [flatMap_words_wrap]
  constructor
  · exact flatten_pack_of_haveRoom
  · exact fun h => ⟨_, isCutting_pack width limit (words t), h⟩

/-- A wrapped text has at most `limit` lines. Each of them is made of words of the text with single
spaces between neighbours, and has at most `width` characters or is a single word; the words of all
lines are the first ones of the text. However else the first words are cut into such lines, there
are no more of them; and where all words can be cut into `k` such lines, the wrapped text shows all
of them on at most `k` lines. -/
theorem wrap_isLongestCutting (width limit : Nat) (t : List Char) :
    (∀ line ∈ wrap width limit t, line = joined (words line)) ∧
    IsCutting width limit (words t) ((wrap width limit t).map words) ∧
    (∀ other, IsCutting width limit (words t) other →
      other.flatten.length ≤ ((wrap width limit t).map words).flatten.length) ∧
    ∀ k ≤ limit, ∀ other, IsCutting width k (words t) other → other.flatten = words t →
      ((wrap width limit t).map words).flatten = words t ∧ (wrap width limit t).length ≤ k := by
  have hpack := map_words_wrap width limit t
  have hcutting := isCutting_pack width limit (words t)
  refine ⟨fun line hline => ?_, hpack ▸ hcutting, fun other hother => ?_,
    fun k hk other hother hall => ?_⟩
  · have hlines : (wrap width limit t).map id = (wrap width limit t).map (joined ∘ words) := by
      rw [List.map_id, ← List.map_map, hpack, wrap_eq_map_pack]
    exact List.map_inj_left.mp hlines line hline
  · rw [hpack]
    exact length_flatten_le_pack hother
  · have hroom : HaveRoom width limit (words t) := ⟨other, hother.mono hk, hall⟩
    have hlength := length_pack_le_of_haveRoom hk ⟨other, hother, hall⟩
    rw [← hpack, List.length_map] at hlength
    exact ⟨hpack ▸ flatten_pack_of_haveRoom hroom, hlength⟩

/-! ### A word that is longer than a line -/

/-- The first word is longer than a line of nine characters. -/
def overlongText : List Char :=
  "incomprehensible at first sight".toList

theorem wrap_isLongestCutting_overlong :
    [["incomprehensible".toList], ["at".toList]].flatten.length ≤
      ((wrap 9 2 overlongText).map words).flatten.length ∧
    ((wrap 9 5 overlongText).map words).flatten = words overlongText ∧
      (wrap 9 5 overlongText).length ≤ 3 := by
  obtain ⟨-, -, hlongest, -⟩ := wrap_isLongestCutting 9 2 overlongText
  obtain ⟨-, -, -, hfewest⟩ := wrap_isLongestCutting 9 5 overlongText
  refine ⟨hlongest _ ⟨by decide, by decide, by decide +kernel⟩, hfewest 3 (by decide)
    [["incomprehensible".toList], ["at".toList, "first".toList], ["sight".toList]]
    ⟨by decide, by decide, by decide +kernel⟩ (by decide +kernel)⟩

end TextDiagram.Text
