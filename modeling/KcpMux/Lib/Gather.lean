import Mathlib.Tactic

/-!
Gathering from fragments.

A cursor into a list of fragments is the number of a fragment and an offset in it; `rest` is
what it has still to deliver.  A step inside the fragment drops from the rest (`rest_add`),
and the end of a fragment is the beginning of the next one (`rest_succ`), so that an empty
fragment is passed for nothing.

`slices n l` are the consecutive pieces of `l` of length `n`, the last of them shorter.
-/

namespace Gather

variable {α : Type*}

/-! ### Cursors -/

/-- What a cursor at `offset` in the fragment `index` has still to deliver. -/
def rest (frags : List (List α)) (index offset : ℕ) : List α :=
  (frags.drop index).flatten.drop offset

variable {frags : List (List α)} {index offset n : ℕ}

@[simp] lemma rest_zero (frags : List (List α)) : rest frags 0 0 = frags.flatten := rfl

lemma rest_add (frags : List (List α)) (index offset n : ℕ) :
    rest frags index (offset + n) = (rest frags index offset).drop n := by
  rw [rest, rest, List.drop_drop]

/-- Past the last fragment nothing is left. -/
lemma rest_of_le (h : frags.length ≤ index) : rest frags index offset = [] := by
  rw [rest, List.drop_eq_nil_of_le h, List.flatten_nil, List.drop_nil]

lemma lt_length_of_rest (h : 0 < (rest frags index offset).length) : index < frags.length := by
  by_contra hle
  rw [rest_of_le (not_lt.mp hle)] at h
  exact absurd h (by simp)

lemma drop_flatten (h : index < frags.length) :
    (frags.drop index).flatten = frags.getD index [] ++ (frags.drop (index + 1)).flatten := by
  rw [List.drop_eq_getElem_cons h, List.flatten_cons,
    List.getD_eq_getElem?_getD, List.getElem?_eq_getElem h, Option.getD_some]

/-- The rest begins with the rest of the fragment. -/
lemma rest_eq (h : index < frags.length) (ho : offset ≤ (frags.getD index []).length) :
    rest frags index offset =
      (frags.getD index []).drop offset ++ (frags.drop (index + 1)).flatten := by
  rw [rest, drop_flatten h, List.drop_append_of_le_length ho]

/-- The end of a fragment is the beginning of the next one. -/
lemma rest_succ (h : index < frags.length) :
    rest frags (index + 1) 0 = rest frags index (frags.getD index []).length := by
  rw [rest_eq h le_rfl, List.drop_length, List.nil_append, rest, List.drop_zero]

/-- What is taken of the rest within the fragment is taken of the fragment. -/
lemma take_rest (h : index < frags.length) (ho : offset ≤ (frags.getD index []).length)
    (hn : n ≤ (frags.getD index []).length - offset) :
    (rest frags index offset).take n = ((frags.getD index []).drop offset).take n := by
  rw [rest_eq h ho, List.take_append_of_le_length (by simpa using hn)]

/-! ### Slices -/

/-- The consecutive pieces of length `n`. -/
def slices (n : ℕ) (l : List α) : List (List α) :=
  (List.range ((l.length + n - 1) / n)).map fun i => (l.drop (i * n)).take n

@[simp] lemma slices_nil (hn : 0 < n) : slices n ([] : List α) = [] := by
  rw [slices, List.length_nil, zero_add, Nat.div_eq_of_lt (by omega)]
  rfl

/-- The first piece and the pieces of what follows. -/
lemma slices_eq_cons (hn : 0 < n) {l : List α} (hl : l ≠ []) :
    slices n l = l.take n :: slices n (l.drop n) := by
  have hlen : 0 < l.length := List.length_pos_iff.mpr hl
  have hcount : (l.length + n - 1) / n = ((l.drop n).length + n - 1) / n + 1 := by
    rw [List.length_drop]
    by_cases hle : l.length ≤ n
    · have hzero : (l.length - n + n - 1) / n = 0 := Nat.div_eq_of_lt (by omega)
      rw [hzero, zero_add, Nat.div_eq_iff hn]
      omega
    · have heq : l.length + n - 1 = (l.length - n + n - 1) + n := by omega
      rw [heq, Nat.add_div_right _ hn]
  rw [slices, hcount, List.range_succ_eq_map, List.map_cons, List.map_map, zero_mul, List.drop_zero]
  congr 1
  refine List.map_congr_left fun i _ => ?_
  rw [Function.comp_apply, List.drop_drop, Nat.succ_mul, add_comm (i * n) n]

end Gather
