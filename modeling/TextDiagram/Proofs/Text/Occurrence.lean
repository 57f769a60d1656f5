import Mathlib.Data.List.Infix
import TextDiagram.Proofs.Text.Words

/-!
# Where known texts occur

The known texts that occur in a text, one for each place where one of them begins (`occurring`). A
text may be taken to pieces at characters with which known texts begin or that they do not hold
(`occurring_flatten`), and a piece that is put in adds what occurs in it (`occurrences_insert`).
Where a character stands only once, the known texts that hold it occur across that place or not at
all (`occurring_across`).
-/

namespace TextDiagram.Text

/-- The known texts as they occur in a text, place by place. -/
def occurring (knowns : List (List Char)) (t : List Char) : List (List Char) :=
  t.tails.flatMap fun rest => knowns.filter fun known => known.isPrefixOf rest

/-- The number of places at which a known text occurs. -/
def occurrences (known t : List Char) : Nat :=
  (occurring [known] t).length

/-- No known text goes on with this character: it stands at its start or nowhere. -/
def IsSeam (knowns : List (List Char)) (c : Char) : Prop :=
  ∀ known ∈ knowns, c ∉ known.tail

variable {knowns : List (List Char)} {c : Char} {a b t : List Char}

theorem isSeam_of_forall_not_mem (h : ∀ known ∈ knowns, c ∉ known) : IsSeam knowns c :=
  fun known hknown hmem => h known hknown (List.mem_of_mem_tail hmem)

theorem occurring_cons (c : Char) (t : List Char) : occurring knowns (c :: t) =
    (knowns.filter fun known => known.isPrefixOf (c :: t)) ++ occurring knowns t := by
  rw [occurring, List.tails_cons, List.flatMap_cons]
  rfl

/-! ## Texts without known texts -/

/-- No known text occurs if each of them holds a character that the text lacks. -/
theorem occurring_eq_nil (h : ∀ known ∈ knowns, ∃ c ∈ known, c ∉ t) : occurring knowns t = [] := by
  rw [occurring, List.flatMap_eq_nil_iff]
  intro rest hrest
  rw [List.filter_eq_nil_iff]
  intro known hknown hprefix
  obtain ⟨c, hc, hct⟩ := h known hknown
  have hmem : c ∈ rest := (List.isPrefixOf_iff_prefix.mp hprefix).subset hc
  exact hct (((List.mem_tails _ _).mp hrest).subset hmem)

theorem occurring_singleton_eq_nil {known : List Char} (hc : c ∈ known) (ht : c ∉ t) :
    occurring [known] t = [] :=
  occurring_eq_nil (List.forall_mem_singleton.mpr ⟨c, hc, ht⟩)

/-- A known text occurs nowhere unless it stands within the text. -/
theorem occurrences_eq_zero_iff {known : List Char} :
    occurrences known t = 0 ↔ ¬ known <:+: t := by
  rw [occurrences, List.length_eq_zero_iff, occurring, List.flatMap_eq_nil_iff,
    List.infix_iff_prefix_suffix]
  constructor
  · rintro h ⟨rest, hprefix, hsuffix⟩
    have hnone := h rest ((List.mem_tails _ _).mpr hsuffix)
    rw [List.filter_eq_nil_iff] at hnone
    exact hnone known (List.mem_singleton_self _) (List.isPrefixOf_iff_prefix.mpr hprefix)
  · intro h rest hrest
    rw [List.filter_eq_nil_iff]
    intro k hk hprefix
    rw [List.mem_singleton.mp hk] at hprefix
    exact h ⟨rest, List.isPrefixOf_iff_prefix.mp hprefix, (List.mem_tails _ _).mp hrest⟩

theorem occurring_nil (hne : [] ∉ knowns) : occurring knowns [] = [] := by
  refine occurring_eq_nil fun known hknown => ?_
  cases known with
  | nil => exact absurd hknown hne
  | cons c known => exact ⟨c, List.mem_cons_self .., List.not_mem_nil⟩

theorem occurring_cons_of_forall (h : ∀ known ∈ knowns, c ∉ known) (hne : [] ∉ knowns)
    (t : List Char) : occurring knowns (c :: t) = occurring knowns t := by
  have hnone : knowns.filter (fun known => known.isPrefixOf (c :: t)) = [] := by
    rw [List.filter_eq_nil_iff]
    intro known hknown hprefix
    rcases List.prefix_cons_iff.mp (List.isPrefixOf_iff_prefix.mp hprefix) with rfl | ⟨_, rfl, _⟩
    · exact hne hknown
    · exact h _ hknown (List.mem_cons_self ..)
  rw [occurring_cons, hnone, List.nil_append]

/-! ## Pieces of a text -/

/-- Known texts do not reach across a seam. -/
theorem occurring_append_cons (hne : [] ∉ knowns) (hc : IsSeam knowns c) (a b : List Char) :
    occurring knowns (a ++ c :: b) = occurring knowns a ++ occurring knowns (c :: b) := by
  induction a with
  | nil => rw [List.nil_append, occurring_nil hne, List.nil_append]
  | cons d a ih =>
    have hshort : ∀ known ∈ knowns,
        known.isPrefixOf (d :: (a ++ c :: b)) = known.isPrefixOf (d :: a) := by
      intro known hknown
      rw [Bool.eq_iff_iff, List.isPrefixOf_iff_prefix, List.isPrefixOf_iff_prefix]
      constructor
      · intro h
        rcases List.prefix_cons_iff.mp h with rfl | ⟨rest, rfl, hrest⟩
        · exact List.nil_prefix
        · have hrest' : rest <+: a := prefix_of_prefix_append_cons hrest (hc _ hknown)
          exact List.cons_prefix_cons.mpr ⟨rfl, hrest'⟩
      · intro h
        exact h.trans (List.prefix_append (d :: a) (c :: b))
    rw [List.cons_append, occurring_cons, occurring_cons, ih, List.filter_congr hshort,
      List.append_assoc]

theorem occurring_append (hne : [] ∉ knowns) (h : ∀ c ∈ b.head?, IsSeam knowns c) :
    occurring knowns (a ++ b) = occurring knowns a ++ occurring knowns b := by
  cases b with
  | nil => rw [occurring_nil hne, List.append_nil, List.append_nil]
  | cons c b => exact occurring_append_cons hne (h c rfl) a b

/-- A text that is put in between seams adds the known texts in it. -/
theorem occurrences_insert {known inserted : List Char} (hne : known ≠ [])
    (hseam : IsSeam [known] c) (hinserted : inserted.head? = some c) (hb : b.head? = some c) :
    occurrences known (a ++ inserted ++ b) =
      occurrences known (a ++ b) + occurrences known inserted := by
  have hnil : [] ∉ [known] := fun hmem => hne (List.mem_singleton.mp hmem).symm
  have hhead : ∀ {u : List Char}, u.head? = some c → ∀ d ∈ u.head?, IsSeam [known] d := by
    intro u hu d hd
    rw [hu] at hd
    cases hd
    exact hseam
  unfold occurrences
  rw [occurring_append hnil (hhead hb), occurring_append hnil (hhead hinserted),
    occurring_append hnil (hhead hb)]
  simp only [List.length_append]
  omega

/-- In a text of pieces that begin with seams, known texts occur within the pieces. -/
theorem occurring_flatten (hne : [] ∉ knowns) {pieces : List (List Char)}
    (h : ∀ piece ∈ pieces, ∃ c ∈ piece.head?, IsSeam knowns c) :
    occurring knowns pieces.flatten = pieces.flatMap (occurring knowns) := by
  induction pieces with
  | nil => exact occurring_nil hne
  | cons piece pieces ih =>
    have hrest := ih fun p hp => h p (List.mem_cons_of_mem _ hp)
    have hhead : ∀ c ∈ pieces.flatten.head?, IsSeam knowns c := by
      intro c hc
      cases pieces with
      | nil => cases hc
      | cons next pieces =>
        obtain ⟨d, hd, hseam⟩ := h next (by simp)
        rw [List.flatten_cons, List.head?_append, Option.mem_def.mp hd] at hc
        rw [← Option.some.inj hc]
        exact hseam
    rw [List.flatten_cons, occurring_append hne hhead, hrest, List.flatMap_cons]

/-! ## A character that stands only once -/

/-- Where a character stands only once, a text that holds it is the same up to there. -/
theorem append_cons_prefix_iff {key v : List Char} (ha : c ∉ a) (hb : c ∉ b) :
    key ++ c :: v <+: a ++ c :: b ↔ key = a ∧ v <+: b := by
  constructor
  · rintro ⟨t, ht⟩
    rw [List.append_assoc, List.cons_append] at ht
    obtain ⟨rfl, -, rfl⟩ := (List.append_cons_inj_of_notMem ha hb).mp ht.symm
    exact ⟨rfl, List.prefix_append v t⟩
  · rintro ⟨rfl, hv⟩
    exact (List.prefix_append_right_inj _).mpr (List.cons_prefix_cons.mpr ⟨rfl, hv⟩)

/-- Known texts that hold a character occur across the only place where it stands: what precedes it
in them ends the text before that place, and what follows it begins the text behind. -/
theorem occurring_across (key : List Char) (values : List (List Char)) (ha : c ∉ a) (hb : c ∉ b) :
    occurring (values.map fun v => key ++ c :: v) (a ++ c :: b) =
      if key <:+ a then (values.filter fun v => v.isPrefixOf b).map fun v => key ++ c :: v
      else [] := by
  have hhere : ∀ a', c ∉ a' → (values.map fun v => key ++ c :: v).filter
      (fun known => known.isPrefixOf (a' ++ c :: b)) =
        if key = a' then (values.filter fun v => v.isPrefixOf b).map fun v => key ++ c :: v
        else [] := by
    intro a' ha'
    rw [List.filter_map]
    have hiff : ∀ v, (key ++ c :: v).isPrefixOf (a' ++ c :: b) = true ↔
        key = a' ∧ v.isPrefixOf b = true := by
      intro v
      rw [List.isPrefixOf_iff_prefix, List.isPrefixOf_iff_prefix, append_cons_prefix_iff ha' hb]
    split
    · next h =>
      refine congrArg _ (List.filter_congr fun v _ => ?_)
      rw [Function.comp_apply, Bool.eq_iff_iff, hiff]
      exact ⟨And.right, fun hv => ⟨h, hv⟩⟩
    · next h =>
      rw [List.map_eq_nil_iff, List.filter_eq_nil_iff]
      exact fun v _ hv => h ((hiff v).mp hv).1
  induction a with
  | nil =>
    have hrest : occurring (values.map fun v => key ++ c :: v) b = [] := by
      refine occurring_eq_nil fun known hknown => ?_
      obtain ⟨v, -, rfl⟩ := List.mem_map.mp hknown
      exact ⟨c, by simp, hb⟩
    have h := hhere [] List.not_mem_nil
    rw [List.nil_append] at h ⊢
    rw [occurring_cons, h, hrest, List.append_nil]
    simp only [List.suffix_nil]
  | cons d a ih =>
    have hrest := ih fun hmem => ha (List.mem_cons_of_mem _ hmem)
    rw [List.cons_append, occurring_cons, ← List.cons_append, hhere (d :: a) ha, hrest]
    by_cases heq : key = d :: a
    · -- the whole start is too long to end what follows its first character
      have hnot : ¬ key <:+ a := by
        intro h
        have hlength := h.length_le
        rw [heq, List.length_cons] at hlength
        omega
      have hsuffix : key <:+ d :: a := heq ▸ List.suffix_rfl
      rw [if_pos heq, if_neg hnot, if_pos hsuffix, List.append_nil]
    · have hiff : key <:+ d :: a ↔ key <:+ a := by
        rw [List.suffix_cons_iff]
        exact ⟨fun h => h.resolve_left heq, Or.inr⟩
      rw [if_neg heq, List.nil_append]
      simp only [hiff]

end TextDiagram.Text
