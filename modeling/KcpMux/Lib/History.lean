import Mathlib.Data.List.Basic

/-!
Histories: logs, newest entry first, in which each entry is allowed by the ones before it.
-/

namespace History

variable {α : Type*} {R : List α → α → Prop}

/-- Every entry of the log was allowed by the entries before it. -/
def Legal (R : List α → α → Prop) : List α → Prop
  | [] => True
  | a :: older => R older a ∧ Legal R older

@[simp] lemma legal_nil : Legal R [] := trivial

@[simp] lemma legal_cons {a : α} {older : List α} :
    Legal R (a :: older) ↔ R older a ∧ Legal R older := Iff.rfl

/-- An entry in the middle was allowed by what is older. -/
lemma Legal.split {newer older : List α} {a : α} (h : Legal R (newer ++ a :: older)) :
    R older a := by
  induction newer with
  | nil => exact h.1
  | cons _ newer ih => exact ih h.2

end History
