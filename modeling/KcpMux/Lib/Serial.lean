import Mathlib.Tactic
import Mathlib.Logic.Function.Iterate

/-!
Serial numbers on the ring of 32-bit integers.

One party hands out numbers in steps of two and puts `first` in the place of zero (`next`);
another one takes `y` for newer than `x` if it is ahead by less than half the ring (`Newer`).
`newer_iterate` says that they agree for fewer than `2 ^ 30 - 1` steps: an odd number never
meets zero, and an even one meets it at most once on such a way (`iterate_odd`,
`iterate_even`), which costs one more step of two.  No number comes back before the ring is used
up (`iterate_ne`).

A party that takes newer numbers only comes back to a number after more than half the ring
(`lt_advance_of_newer`).
-/

namespace Serial

/-- The number after `id`. -/
def next (first id : UInt32) : UInt32 := if id + 2 = 0 then first else id + 2

/-- The number `y` is ahead of `x` by less than half the ring. -/
def Newer (x y : UInt32) : Prop := y - x ≠ 0 ∧ y - x < 0x80000000

lemma add_two_toNat (x : UInt32) : (x + 2).toNat = (x.toNat + 2) % 2 ^ 32 := by
  rw [UInt32.toNat_add]
  rfl

/-- Zero is passed when the sum is the size of the ring. -/
lemma add_two_eq_zero_iff (x : UInt32) : x + 2 = 0 ↔ x.toNat + 2 = 2 ^ 32 := by
  have hlt := x.toNat_lt
  rw [← UInt32.toNat_inj, add_two_toNat]
  show (x.toNat + 2) % 2 ^ 32 = 0 ↔ _
  by_cases h : x.toNat + 2 < 2 ^ 32
  · rw [Nat.mod_eq_of_lt h]
    omega
  · have hx : x.toNat + 2 = 2 ^ 32 ∨ x.toNat + 2 = 2 ^ 32 + 1 := by omega
    rcases hx with hx | hx <;> rw [hx] <;> decide

/-- Odd numbers go round the ring without a gap. -/
lemma iterate_odd (first : UInt32) {x : UInt32} (hx : x.toNat % 2 = 1) (k : ℕ) :
    ((next first)^[k] x).toNat = (x.toNat + 2 * k) % 2 ^ 32 := by
  induction k with
  | zero =>
      rw [Function.iterate_zero_apply]
      exact (Nat.mod_eq_of_lt x.toNat_lt).symm
  | succ k ih =>
      rw [Function.iterate_succ_apply']
      generalize (next first)^[k] x = y at ih
      have hne : y + 2 ≠ 0 := by
        rw [Ne, add_two_eq_zero_iff]
        omega
      rw [next, if_neg hne, add_two_toNat, ih]
      omega

/-- Even numbers pass zero at most once in less than half a round. -/
lemma iterate_even {x : UInt32} (hx : x.toNat % 2 = 0) (k : ℕ) (hk : k < 2 ^ 30) :
    (((next 2)^[k] x).toNat = x.toNat + 2 * k) ∨
      (2 ^ 32 ≤ x.toNat + 2 * k ∧ ((next 2)^[k] x).toNat + 2 ^ 32 = x.toNat + 2 * k + 2) := by
  induction k with
  | zero => exact Or.inl rfl
  | succ k ih =>
      rw [Function.iterate_succ_apply']
      have ih := ih (by omega)
      generalize (next 2)^[k] x = y at ih
      have hlt := y.toNat_lt
      have hxlt := x.toNat_lt
      by_cases hz : y + 2 = 0
      · -- the way round starts again at two
        rw [next, if_pos hz]
        have hy := (add_two_eq_zero_iff y).mp hz
        right
        rcases ih with ih | ih
        · refine ⟨by omega, ?_⟩
          show 2 + 2 ^ 32 = _
          omega
        · omega
      · have hy := mt (add_two_eq_zero_iff y).mpr hz
        have hy2 : (y + 2).toNat = y.toNat + 2 := by
          rw [add_two_toNat]
          refine Nat.mod_eq_of_lt ?_
          rcases ih with ih | ih <;> omega
        rw [next, if_neg hz, hy2]
        rcases ih with ih | ih
        · exact Or.inl (by omega)
        · exact Or.inr ⟨by omega, by omega⟩

/-- Even numbers other than zero go round a ring of their own. -/
lemma iterate_even_ring {x : UInt32} (hx : x.toNat % 2 = 0) (h0 : x ≠ 0) (k : ℕ) :
    ((next 2)^[k] x).toNat = 2 * ((x.toNat / 2 - 1 + k) % (2 ^ 31 - 1)) + 2 := by
  have hpos : 0 < x.toNat := Nat.pos_of_ne_zero fun h => h0 (UInt32.toNat_inj.mp h)
  induction k with
  | zero =>
      have hlt := x.toNat_lt
      rw [Function.iterate_zero_apply]
      omega
  | succ k ih =>
      rw [Function.iterate_succ_apply']
      generalize (next 2)^[k] x = y at ih
      by_cases hz : y + 2 = 0
      · have hy := (add_two_eq_zero_iff y).mp hz
        rw [next, if_pos hz]
        show 2 = _
        omega
      · have hy := mt (add_two_eq_zero_iff y).mpr hz
        rw [next, if_neg hz, add_two_toNat]
        omega

/-- **The numbers do not repeat** before the ring is used up. -/
lemma iterate_ne {first x : UInt32}
    (hx : first = 1 ∧ x.toNat % 2 = 1 ∨ first = 2 ∧ x.toNat % 2 = 0) (h0 : x ≠ 0) {i j : ℕ}
    (hij : i < j) (hj : j < 2 ^ 31 - 1) : (next first)^[i] x ≠ (next first)^[j] x := by
  intro heq
  have hnat := congrArg UInt32.toNat heq
  rcases hx with ⟨rfl, hx⟩ | ⟨rfl, hx⟩
  · rw [iterate_odd 1 hx, iterate_odd 1 hx] at hnat
    omega
  · rw [iterate_even_ring hx h0, iterate_even_ring hx h0] at hnat
    omega

/-- **Numbers that were handed out later are newer**, on both sides of the ring. -/
lemma newer_iterate {first x : UInt32}
    (hx : first = 1 ∧ x.toNat % 2 = 1 ∨ first = 2 ∧ x.toNat % 2 = 0) {k : ℕ} (h0 : 0 < k)
    (hk : k < 2 ^ 30 - 1) : Newer x ((next first)^[k] x) := by
  -- the distance is two per step, and two more across zero
  have hdist : ((next first)^[k] x - x).toNat = 2 * k ∨
      ((next first)^[k] x - x).toNat = 2 * k + 2 := by
    rw [UInt32.toNat_sub]
    have hxlt := x.toNat_lt
    rcases hx with ⟨rfl, hx⟩ | ⟨rfl, hx⟩
    · left
      rw [iterate_odd 1 hx k]
      omega
    · rcases iterate_even hx k (by omega) with h | h
      · left
        have hlt := ((next 2)^[k] x).toNat_lt
        omega
      · right
        omega
  rw [Newer, ← UInt32.toNat_inj.ne, UInt32.lt_iff_toNat_lt]
  show _ ≠ 0 ∧ _ < 0x80000000
  omega

/-! ### Coming back -/

/-- How far the numbers of a list move along the ring, step by step. -/
def advance : List UInt32 → ℕ
  | x :: y :: l => (y - x).toNat + advance (y :: l)
  | _ => 0

/-- The last number, from the first one and the steps. -/
lemma getLast_toNat (l : List UInt32) : ∀ x : UInt32,
    ((x :: l).getLast (List.cons_ne_nil x l)).toNat = (x.toNat + advance (x :: l)) % 2 ^ 32 := by
  induction l with
  | nil => exact fun x => (Nat.mod_eq_of_lt x.toNat_lt).symm
  | cons y l ih =>
      intro x
      have hx := x.toNat_lt
      have hy := y.toNat_lt
      have hstep : (y - x).toNat = (2 ^ 32 - x.toNat + y.toNat) % 2 ^ 32 := UInt32.toNat_sub y x
      rw [List.getLast_cons (List.cons_ne_nil y l), ih y, advance, hstep]
      omega

/-- **A number that is newer than the last one has been left behind by more than half the
ring.** -/
lemma lt_advance_of_newer {x : UInt32} {l : List UInt32}
    (h : Newer ((x :: l).getLast (List.cons_ne_nil x l)) x) : 2 ^ 31 < advance (x :: l) := by
  have hlast := getLast_toNat l x
  generalize (x :: l).getLast (List.cons_ne_nil x l) = y at h hlast
  obtain ⟨hne, hlt⟩ := h
  rw [← UInt32.toNat_inj.ne, UInt32.toNat_sub] at hne
  rw [UInt32.lt_iff_toNat_lt, UInt32.toNat_sub] at hlt
  have hx := x.toNat_lt
  have hy := y.toNat_lt
  have hhalf : UInt32.toNat 0x80000000 = 2 ^ 31 := rfl
  have hzero : UInt32.toNat 0 = 0 := rfl
  omega

end Serial
