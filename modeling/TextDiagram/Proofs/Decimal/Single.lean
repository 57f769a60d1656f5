import Mathlib.Tactic.Common
import TextDiagram.Decimal.Single

/-!
# The characters of numbers

A number is written with digits, a point and a sign, or with the letters of the results that are no
numbers (`isNumeric_of_mem_text`).
-/

namespace TextDiagram

/-- The characters with which numbers are written. -/
def isNumeric (c : Char) : Bool :=
  c.isDigit || ".-infNa".toList.contains c

namespace Decimal

theorem isNumeric_of_mem_digitChars {n : Nat} {c : Char} (h : c ∈ digitChars n) :
    isNumeric c = true := by
  have hdigit : c.isDigit = true := Nat.isDigit_of_mem_toDigits (by decide) (by decide) h
  rw [isNumeric, hdigit]
  rfl

theorem isNumeric_of_mem_replicate {k : Nat} {c : Char} (h : c ∈ List.replicate k '0') :
    isNumeric c = true := by
  rw [List.eq_of_mem_replicate h]
  rfl

theorem isNumeric_of_mem_positional {d : Decimal} {c : Char} (h : c ∈ d.positional) :
    isNumeric c = true := by
  simp only [positional] at h
  split at h
  · rcases List.mem_append.mp h with h | h
    · exact isNumeric_of_mem_digitChars h
    · exact isNumeric_of_mem_replicate h
  split at h
  · rcases List.mem_append.mp h with h | h
    · exact isNumeric_of_mem_digitChars (List.mem_of_mem_take h)
    rcases List.mem_cons.mp h with rfl | h
    · rfl
    · exact isNumeric_of_mem_digitChars (List.mem_of_mem_drop h)
  · rcases List.mem_append.mp h with h | h
    · rcases List.mem_cons.mp h with rfl | h
      · rfl
      rcases List.mem_cons.mp h with rfl | h
      · rfl
      · exact isNumeric_of_mem_replicate h
    · exact isNumeric_of_mem_digitChars h

end Decimal

namespace Single

theorem isNumeric_of_mem_signed {negative : Bool} {t : List Char}
    (ht : ∀ c ∈ t, isNumeric c = true) {c : Char} (h : c ∈ signed negative t) :
    isNumeric c = true := by
  unfold signed at h
  split at h
  · rcases List.mem_cons.mp h with rfl | h
    · rfl
    · exact ht c h
  · exact ht c h

/-- A number is written with numeric characters only. -/
theorem isNumeric_of_mem_text {x : Float32} {c : Char} (h : c ∈ text x) : isNumeric c = true := by
  have hclosed : ∀ t ∈ ["NaN".toList, "inf".toList, ['0']], t.all isNumeric = true := by decide
  have hletters : ∀ t ∈ ["NaN".toList, "inf".toList, ['0']], ∀ c ∈ t, isNumeric c = true :=
    fun t ht => List.all_eq_true.mp (hclosed t ht)
  unfold text at h
  split at h
  · exact hletters _ (by simp) c h
  · exact isNumeric_of_mem_signed (hletters _ (by simp)) h
  · exact isNumeric_of_mem_signed (hletters _ (by simp)) h
  · exact isNumeric_of_mem_signed (fun c hc => Decimal.isNumeric_of_mem_positional hc) h

end Single

end TextDiagram
