/-!
# Starts and ends of texts

Cutting a known text off the start or the end of another leaves the rest. Main statements: the known
text and the rest make up the text again, and this says when there is a rest
(`after?_eq_some_iff`, `before?_eq_some_iff`).
-/

namespace TextDiagram.Text

/-- What follows a known text at the start of a text. -/
def after? : (known t : List Char) → Option (List Char)
  | [], t => some t
  | c :: known, d :: t => if c = d then after? known t else none
  | _ :: _, [] => none

/-- What precedes a known text at the end of a text. -/
def before? (known t : List Char) : Option (List Char) :=
  (after? known.reverse t.reverse).map List.reverse

/-- The known text and what follows it make up the text. -/
theorem after?_eq_some_iff {known t rest : List Char} :
    after? known t = some rest ↔ t = known ++ rest := by
  fun_induction after? known t with
  | case1 t => simp
  | case2 c known t ih => simp [ih]
  | case3 c known d t h => simp [Ne.symm h]
  | case4 => simp

/-- What precedes the known text and that text make up the text. -/
theorem before?_eq_some_iff {known t rest : List Char} :
    before? known t = some rest ↔ t = rest ++ known := by
  simp only [before?, Option.map_eq_some_iff, after?_eq_some_iff]
  constructor
  · rintro ⟨front, h, rfl⟩
    simpa using congrArg List.reverse h
  · rintro rfl
    exact ⟨rest.reverse, by simp, by simp⟩

/-- The known text itself is cut off a text that begins with it. -/
@[simp] theorem after?_append (known rest : List Char) :
    after? known (known ++ rest) = some rest :=
  after?_eq_some_iff.2 rfl

end TextDiagram.Text
