import Mathlib.Data.List.Chain
import TextDiagram.Proofs.Text.Fit

/-!
# Collapsed texts

In a collapsed text the words stand with a single space between neighbours (`IsCollapsed`). Such a
text is its own collapse (`collapse_eq_self_iff`), and it stays collapsed when it is cut short or
goes on with a character that is not blank. Main statement: shortening a text twice is shortening it
once to the smaller limit, and what is shown is all of the text or a marked start of it
(`shorten_min_isShortening`).
-/

namespace TextDiagram.Text

/-- No blank stands at either end of a text or next to another blank, and every blank is a space. -/
structure IsCollapsed (t : List Char) : Prop where
  trim_eq : trim t = t
  apart : t.IsChain fun c d => isBlank c = true → isBlank d = false
  eq_space : ∀ c ∈ t, isBlank c = true → c = ' '

namespace IsCollapsed

variable {s t : List Char}

theorem of_forall (h : ∀ c ∈ t, isBlank c = false) : IsCollapsed t where
  trim_eq := trim_eq_self_iff.mpr
    ⟨fun c hc => h c (List.mem_of_mem_head? hc), fun c hc => h c (List.mem_of_mem_getLast? hc)⟩
  apart := by
    refine List.Pairwise.isChain (List.pairwise_of_forall_mem_list ?_)
    exact fun c _ d hd _ => h d hd
  eq_space := fun c hc hblank => by
    rw [h c hc] at hblank
    cases hblank

/-- A word in front of a collapsed text, with a space between the two. -/
theorem word_append {w : List Char} (hne : w ≠ []) (hw : ∀ c ∈ w, isBlank c = false)
    (ht : IsCollapsed t) (htne : t ≠ []) : IsCollapsed (w ++ ' ' :: t) := by
  have hword := of_forall hw
  obtain ⟨hhead, hlast⟩ := trim_eq_self_iff.mp ht.trim_eq
  refine ⟨trim_eq_self_iff.mpr ⟨?_, ?_⟩, ?_, ?_⟩
  · intro c hc
    rw [List.head?_append_of_ne_nil w hne] at hc
    exact hw c (List.mem_of_mem_head? hc)
  · intro c hc
    rw [List.getLast?_append_of_ne_nil w (List.cons_ne_nil ' ' t),
      List.getLast?_cons_of_ne_nil htne] at hc
    exact hlast c hc
  · refine List.isChain_append.mpr ⟨hword.apart, ?_, ?_⟩
    · exact List.isChain_cons.mpr ⟨fun c hc _ => hhead c hc, ht.apart⟩
    · intro c hc d _ hblank
      rw [hw c (List.mem_of_mem_getLast? hc)] at hblank
      cases hblank
  · intro c hc hblank
    rcases List.mem_append.mp hc with hc | hc
    · exact hword.eq_space c hc hblank
    · rcases List.mem_cons.mp hc with rfl | hc
      · rfl
      · exact ht.eq_space c hc hblank

/-- The start of a collapsed text is collapsed without the blank at its end. -/
theorem trimEnd_of_isPrefix (h : IsCollapsed t) (hs : s <+: t) : IsCollapsed (trimEnd s) := by
  have hstart : trimEnd s <+: t := (trimEnd_isPrefix s).trans hs
  have hend : trimEnd (trimEnd s) = trimEnd s := List.rdropWhile_idempotent isBlank s
  refine ⟨trim_eq_self_iff.mpr ⟨?_, trimEnd_eq_self_iff.mp hend⟩, ?_, ?_⟩
  · intro c hc
    obtain ⟨u, hu⟩ := hstart
    refine (trim_eq_self_iff.mp h.trim_eq).1 c ?_
    rw [← hu, List.head?_append, Option.mem_def.mp hc]
    rfl
  · obtain ⟨u, hu⟩ := hstart
    exact (List.isChain_append.mp (hu ▸ h.apart)).1
  · exact fun c hc => h.eq_space c (hstart.subset hc)

/-- A collapsed text may go on with a character that is not blank. -/
theorem concat (h : IsCollapsed t) {c : Char} (hc : isBlank c = false) :
    IsCollapsed (t ++ [c]) := by
  refine ⟨trim_eq_self_iff.mpr ⟨?_, ?_⟩, ?_, ?_⟩
  · intro d hd
    cases t with
    | nil => cases hd; exact hc
    | cons e t => exact (trim_eq_self_iff.mp h.trim_eq).1 d hd
  · intro d hd
    rw [List.getLast?_concat] at hd
    cases hd
    exact hc
  · refine List.isChain_append.mpr ⟨h.apart, List.isChain_singleton c, ?_⟩
    rintro d _ e he -
    cases he
    exact hc
  · intro d hd hblank
    rcases List.mem_append.mp hd with hd | hd
    · exact h.eq_space d hd hblank
    · rw [List.mem_singleton.mp hd, hc] at hblank
      cases hblank

end IsCollapsed

/-- The line that words make is collapsed. -/
theorem isCollapsed_joined {ws : List (List Char)} (hne : ∀ w ∈ ws, w ≠ [])
    (hws : ∀ w ∈ ws, ∀ c ∈ w, isBlank c = false) : IsCollapsed (joined ws) := by
  induction ws with
  | nil => exact .of_forall nofun
  | cons w ws ih =>
    obtain ⟨hw, hws⟩ := List.forall_mem_cons.mp hws
    obtain ⟨hwne, hne⟩ := List.forall_mem_cons.mp hne
    by_cases hnil : ws = []
    · rw [hnil, joined_singleton]
      exact .of_forall hw
    · rw [joined_cons hnil]
      exact (ih hne hws).word_append hwne hw (joined_ne_nil hnil hne)

theorem isCollapsed_collapse (t : List Char) : IsCollapsed (collapse t) :=
  isCollapsed_joined (fun _ hw => ne_nil_of_mem_words hw)
    fun _ hw => isBlank_eq_false_of_mem_words hw

/-- Between the blanks of a collapsed text there is always something. -/
theorem IsCollapsed.nil_not_mem_splitOnP {t : List Char} (h : IsCollapsed t) (hne : t ≠ []) :
    [] ∉ t.splitOnP isBlank := by
  obtain ⟨hhead, hlast⟩ := trim_eq_self_iff.mp h.trim_eq
  have hapart := h.apart
  clear h
  induction t using separator_induction (p := isBlank) with
  | piece xs hxs =>
    rw [List.splitOnP_eq_singleton hxs, List.mem_singleton]
    exact Ne.symm hne
  | cut xs c ys hxs hc ih =>
    rw [List.splitOnP_append_cons xs ys hc, List.splitOnP_eq_singleton hxs, List.singleton_append,
      List.mem_cons, not_or]
    have hxsne : xs ≠ [] := by
      rintro rfl
      have hblank : isBlank c = false := hhead c rfl
      rw [hc] at hblank
      cases hblank
    have hysne : ys ≠ [] := by
      rintro rfl
      have hblank : isBlank c = false := hlast c (by simp)
      rw [hc] at hblank
      cases hblank
    have hrest := (List.isChain_append.mp hapart).2.1
    obtain ⟨hnext, hysapart⟩ := List.isChain_cons.mp hrest
    refine ⟨Ne.symm hxsne, ih hysne (fun d hd => hnext d hd hc) (fun d hd => hlast d ?_) hysapart⟩
    rw [List.getLast?_append_of_ne_nil xs (List.cons_ne_nil c ys),
      List.getLast?_cons_of_ne_nil hysne]
    exact hd

/-- The collapsed texts are those that collapsing does not change. -/
theorem collapse_eq_self_iff {t : List Char} : collapse t = t ↔ IsCollapsed t := by
  constructor
  · intro h
    rw [← h]
    exact isCollapsed_collapse t
  · intro h
    by_cases hne : t = []
    · rw [hne]
      rfl
    · have hblanks : t.splitOnP isBlank = t.splitOn ' ' := by
        rw [List.splitOn_eq_splitOnP]
        refine splitOnP_congr fun c hc => Bool.eq_iff_iff.mpr ?_
        rw [beq_iff_eq]
        exact ⟨h.eq_space c hc, fun hspace => hspace ▸ by decide⟩
      have hwords : words t = t.splitOn ' ' := by
        rw [words, ← hblanks]
        refine List.filter_eq_self.mpr fun piece hpiece => ?_
        cases piece with
        | nil => exact absurd hpiece (h.nil_not_mem_splitOnP hne)
        | cons c piece => rfl
      rw [collapse, hwords, List.intercalate_splitOn]

/-! ## Shortened texts -/

theorem shorten_of_length_le {limit : Nat} {t : List Char} (h : (collapse t).length ≤ limit) :
    shorten limit t = collapse t :=
  if_pos h

theorem shorten_of_lt_length {limit : Nat} {t : List Char} (h : limit < (collapse t).length) :
    shorten limit t = trimEnd ((collapse t).take (limit - 1)) ++ [ellipsis] :=
  if_neg (by omega)

/-- A shortened text is collapsed. -/
theorem isCollapsed_shorten (limit : Nat) (t : List Char) : IsCollapsed (shorten limit t) := by
  have hcollapsed := isCollapsed_collapse t
  unfold shorten
  split
  · exact hcollapsed
  · exact (hcollapsed.trimEnd_of_isPrefix (List.take_prefix _ _)).concat (by decide)

@[simp] theorem collapse_collapse (t : List Char) : collapse (collapse t) = collapse t :=
  collapse_eq_self_iff.mpr (isCollapsed_collapse t)

@[simp] theorem collapse_shorten (limit : Nat) (t : List Char) :
    collapse (shorten limit t) = shorten limit t :=
  collapse_eq_self_iff.mpr (isCollapsed_shorten limit t)

@[simp] theorem shorten_collapse (limit : Nat) (t : List Char) :
    shorten limit (collapse t) = shorten limit t := by
  unfold shorten
  rw [collapse_collapse]

/-- What is kept of a text that is cut leaves room for the mark. -/
theorem length_trimEnd_take_le (n : Nat) (t : List Char) : (trimEnd (t.take n)).length ≤ n := by
  have hcut := (trimEnd_isPrefix (t.take n)).length_le
  have htake := List.length_take_le n t
  omega

/-- A shortened text fits, unless there is room for nothing. -/
theorem length_shorten_le {limit : Nat} (h : 0 < limit) (t : List Char) :
    (shorten limit t).length ≤ limit := by
  unfold shorten
  split
  · assumption
  · have hcut := length_trimEnd_take_le (limit - 1) (collapse t)
    rw [List.length_append, List.length_singleton]
    omega

/-! ## Shortening again -/

/-- The start of a text has the same end, apart from blanks, if it reaches that far. -/
theorem trimEnd_eq_of_isPrefix {s t : List Char} (h : s <+: t)
    (hlen : (trimEnd t).length ≤ s.length) : trimEnd s = trimEnd t := by
  obtain ⟨u, rfl⟩ := h
  by_cases hu : trimEnd u = []
  · rw [trimEnd_append, if_pos hu]
  · -- what stands behind the start and is not blank would be kept
    rw [trimEnd_append, if_neg hu, List.length_append] at hlen
    have hpos : 0 < (trimEnd u).length := List.length_pos_of_ne_nil hu
    omega

/-- Shortening a text twice is shortening it once to the smaller limit. -/
theorem shorten_shorten_min (a b : Nat) (t : List Char) :
    shorten b (shorten a t) = shorten (min a b) t := by
  by_cases hfits : (collapse t).length ≤ a
  · rw [shorten_of_length_le hfits, shorten_collapse]
    by_cases hagain : (collapse t).length ≤ b
    · rw [shorten_of_length_le hagain, shorten_of_length_le (by omega)]
    · rw [Nat.min_eq_right (by omega)]
  · have hshort : shorten a t = trimEnd ((collapse t).take (a - 1)) ++ [ellipsis] :=
      shorten_of_lt_length (by omega)
    set front := trimEnd ((collapse t).take (a - 1)) with hfront
    have hlength : (shorten a t).length = front.length + 1 := by
      rw [hshort, List.length_append, List.length_singleton]
    have hle : front.length ≤ a - 1 := length_trimEnd_take_le (a - 1) (collapse t)
    by_cases hagain : front.length + 1 ≤ b
    · -- the limits differ by blanks that the first cut has taken off
      have hstart : (collapse t).take (min a b - 1) <+: (collapse t).take (a - 1) :=
        List.take_prefix_take_left (by omega)
      have hreach : front.length ≤ ((collapse t).take (min a b - 1)).length := by
        rw [List.length_take]
        omega
      have hcut : shorten (min a b) t = front ++ [ellipsis] := by
        rw [shorten_of_lt_length (by omega), trimEnd_eq_of_isPrefix hstart hreach]
      rw [shorten_of_length_le (by rw [collapse_shorten, hlength]; exact hagain), collapse_shorten,
        hshort, hcut]
    · -- the second cut falls within what the first has kept
      have hmin : min a b = b := by omega
      have htake : (shorten a t).take (b - 1) = (collapse t).take (b - 1) := by
        obtain ⟨u, hu⟩ := (trimEnd_isPrefix ((collapse t).take (a - 1))).trans (List.take_prefix _ _)
        rw [hshort, ← hu, ← hfront, List.take_append_of_le_length (by omega),
          List.take_append_of_le_length (by omega)]
      rw [hmin, shorten_of_lt_length (by rw [collapse_shorten, hlength]; omega), collapse_shorten,
        htake, shorten_of_lt_length (by omega)]

@[simp] theorem shorten_shorten (limit : Nat) (t : List Char) :
    shorten limit (shorten limit t) = shorten limit t := by
  rw [shorten_shorten_min, Nat.min_self]

/-- What is shown of a text in one line: all of it if it fits, and otherwise a start of it that ends
without a blank, and the mark of the cut. -/
structure IsShortening (limit : Nat) (t shown : List Char) : Prop where
  length_le : shown.length ≤ max limit 1
  eq_or_cut : (collapse t).length ≤ limit ∧ shown = collapse t ∨
    limit < (collapse t).length ∧ ∃ front, front <+: collapse t ∧ front ≠ collapse t ∧
      (∀ c ∈ front.getLast?, isBlank c = false) ∧ shown = front ++ [ellipsis]

theorem isShortening_shorten (limit : Nat) (t : List Char) :
    IsShortening limit t (shorten limit t) := by
  by_cases hfits : (collapse t).length ≤ limit
  · rw [shorten_of_length_le hfits]
    exact ⟨by omega, Or.inl ⟨hfits, rfl⟩⟩
  · have hlt : limit < (collapse t).length := by omega
    rw [shorten_of_lt_length hlt]
    have hle := length_trimEnd_take_le (limit - 1) (collapse t)
    refine ⟨?_, Or.inr ⟨hlt, _, ?_, ?_, ?_, rfl⟩⟩
    · rw [List.length_append, List.length_singleton]
      omega
    · exact (trimEnd_isPrefix _).trans (List.take_prefix _ _)
    · intro heq
      rw [heq] at hle
      omega
    · exact trimEnd_eq_self_iff.mp (List.rdropWhile_idempotent isBlank _)

/-- Shortening a text twice is shortening it once to the smaller limit, and what is shown of a text
is all of it if it fits, and otherwise a start of it and the mark of the cut. -/
theorem shorten_min_isShortening (a b : Nat) (t : List Char) :
    shorten b (shorten a t) = shorten (min a b) t ∧ IsShortening a t (shorten a t) :=
  ⟨shorten_shorten_min a b t, isShortening_shorten a t⟩

end TextDiagram.Text
