import Mathlib.Tactic

/-!
Numbers as big-endian byte strings.

`beBytes n v` are the last `n` base-256 digits of `v`, most significant first, and
`beValue` reads such a string back (`beValue_beBytes`).
-/

namespace BigEndian

/-- The last `n` bytes of a number, most significant first. -/
def beBytes : ℕ → ℕ → List UInt8
  | 0, _ => []
  | n + 1, v => UInt8.ofNat (v / 256 ^ n) :: beBytes n v

/-- The number a byte string stands for. -/
def beValue (l : List UInt8) : ℕ := l.foldl (fun v b => v * 256 + b.toNat) 0

@[simp] lemma length_beBytes (n v : ℕ) : (beBytes n v).length = n := by
  induction n with
  | zero => rfl
  | succ n ih => rw [beBytes, List.length_cons, ih]

/-- Reading with a number already read in front. -/
lemma foldl_beBytes (n v acc : ℕ) :
    (beBytes n v).foldl (fun v b => v * 256 + b.toNat) acc = acc * 256 ^ n + v % 256 ^ n := by
  induction n generalizing acc with
  | zero => simp [beBytes, Nat.mod_one]
  | succ n ih =>
      have hb : (UInt8.ofNat (v / 256 ^ n)).toNat = v / 256 ^ n % 256 := by simp
      have hs : v % 256 ^ (n + 1) = v % 256 ^ n + 256 ^ n * (v / 256 ^ n % 256) :=
        Nat.mod_pow_succ
      rw [beBytes, List.foldl_cons, ih, hb, hs]
      ring

/-- A string of `n` bytes is a number below `256 ^ n`. -/
lemma beValue_lt (l : List UInt8) : beValue l < 256 ^ l.length := by
  have key : ∀ acc, l.foldl (fun v b => v * 256 + b.toNat) acc < (acc + 1) * 256 ^ l.length := by
    induction l with
    | nil => simp
    | cons b l ih =>
        intro acc
        have hb := b.toNat_lt
        calc (b :: l).foldl (fun v b => v * 256 + b.toNat) acc
            < (acc * 256 + b.toNat + 1) * 256 ^ l.length := ih _
          _ ≤ ((acc + 1) * 256) * 256 ^ l.length := Nat.mul_le_mul_right _ (by omega)
          _ = (acc + 1) * 256 ^ (b :: l).length := by rw [List.length_cons]; ring
  simpa [beValue] using key 0

/-- Shifting bytes together is counting in base 256. -/
lemma shiftLeft_or_byte (a b : ℕ) (hb : b < 256) (n : ℕ) :
    a <<< (n + 8) ||| b <<< n = (a * 256 + b) <<< n := by
  rw [Nat.add_comm n 8, Nat.shiftLeft_add, ← Nat.shiftLeft_or_distrib,
    ← Nat.shiftLeft_add_eq_or_of_lt (by omega : b < 2 ^ 8), Nat.shiftLeft_eq _ 8]

/-- **Reading back** what was written. -/
lemma beValue_beBytes (n v : ℕ) : beValue (beBytes n v) = v % 256 ^ n := by
  rw [beValue, foldl_beBytes, Nat.zero_mul, Nat.zero_add]

end BigEndian
