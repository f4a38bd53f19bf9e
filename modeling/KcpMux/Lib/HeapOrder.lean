import Mathlib.Tactic
import Mathlib.Order.Defs.LinearOrder
import Mathlib.Logic.Function.Basic

/-!
Binary heaps in array layout, seen through their keys alone.

The keys of a heap of `n` slots are a function `k : ℕ → κ` into a linear order;
slot `0` is the root and slot `i` has the children `2i+1` and `2i+2`, so its
parent is `(i-1)/2`.

* **The order.** `HeapOrdered k n`: no slot is below its parent.  `root_le` turns
  this local condition into the global one, that the root is a minimum.
* **The hole.** A sift carries one key through the array and leaves a hole behind.
  `Hole k n h` says that every pair off the hole is in order and that the hole can
  be bridged, `Hole.up` and `Hole.down` move it one level, and `Hole.fill` puts the
  carried key in once it fits between its new neighbours.
* **Removal.** `HeapOrdered.hole` opens a hole anywhere in an ordered heap, which is
  how both a removal and a key change start.
-/

namespace HeapOrder

variable {κ : Type*} [LinearOrder κ]

/-- The parent of a slot. -/
def parent (i : ℕ) : ℕ := (i - 1) / 2

lemma parent_lt {i : ℕ} (h : 0 < i) : parent i < i := by
  unfold parent; omega

lemma parent_left (i : ℕ) : parent (i * 2 + 1) = i := by
  unfold parent; omega

lemma parent_right (i : ℕ) : parent (i * 2 + 1 + 1) = i := by
  unfold parent; omega

/-- The children of a slot are the two slots after its double. -/
lemma eq_child_of_parent {i j : ℕ} (h0 : 0 < j) (h : parent j = i) :
    j = i * 2 + 1 ∨ j = i * 2 + 1 + 1 := by
  unfold parent at h; omega

/-- The first `n` slots are in heap order: no slot is below its parent. -/
def HeapOrdered (k : ℕ → κ) (n : ℕ) : Prop :=
  ∀ i, 0 < i → i < n → k (parent i) ≤ k i

/-- The heap order of a prefix. -/
lemma HeapOrdered.mono {k : ℕ → κ} {n m : ℕ} (h : HeapOrdered k n) (hm : m ≤ n) :
    HeapOrdered k m :=
  fun i h0 hi => h i h0 (hi.trans_le hm)

/-- The heap order reads the first `n` slots only. -/
lemma HeapOrdered.congr {k k' : ℕ → κ} {n : ℕ} (h : HeapOrdered k n)
    (hk : ∀ i < n, k' i = k i) : HeapOrdered k' n := by
  intro i h0 hi
  rw [hk i hi, hk _ ((parent_lt h0).trans hi)]
  exact h i h0 hi

/-- **The root is a minimum** of an ordered heap. -/
theorem HeapOrdered.root_le {k : ℕ → κ} {n : ℕ} (h : HeapOrdered k n) :
    ∀ i < n, k 0 ≤ k i := by
  intro i
  induction i using Nat.strong_induction_on with
  | _ i ih =>
      intro hi
      rcases Nat.eq_zero_or_pos i with rfl | h0
      · exact le_refl _
      · have hp := parent_lt h0
        exact (ih (parent i) hp (hp.trans hi)).trans (h i h0 hi)

/-- A heap with a hole at `h`: the pairs that do not touch the hole are in order,
and the children of the hole are not below its parent, so that the hole can be
closed over. -/
structure Hole (k : ℕ → κ) (n h : ℕ) : Prop where
  lt : h < n
  off : ∀ i, 0 < i → i < n → i ≠ h → parent i ≠ h → k (parent i) ≤ k i
  bridge : 0 < h → ∀ i, 0 < i → i < n → parent i = h → k (parent h) ≤ k i

/-- Any slot of an ordered heap can be opened as a hole. -/
lemma HeapOrdered.hole {k : ℕ → κ} {n h : ℕ} (ho : HeapOrdered k n) (hh : h < n) :
    Hole k n h where
  lt := hh
  off := fun i h0 hi _ _ => ho i h0 hi
  bridge := by
    intro h0 i hi0 hi hp
    have h1 := ho h h0 hh
    have h2 := ho i hi0 hi
    rw [hp] at h2
    exact h1.trans h2

/-- A hole reads the slots other than its own only. -/
lemma Hole.congr {k k' : ℕ → κ} {n h : ℕ} (ho : Hole k n h)
    (hk : ∀ i < n, i ≠ h → k' i = k i) : Hole k' n h where
  lt := ho.lt
  off := by
    intro i h0 hi hne hp
    rw [hk i hi hne, hk _ ((parent_lt h0).trans hi) hp]
    exact ho.off i h0 hi hne hp
  bridge := by
    intro hh i h0 hi hp
    have hlt := parent_lt h0
    have hph := parent_lt hh
    rw [hk i hi (by omega), hk _ (hph.trans ho.lt) (by omega)]
    exact ho.bridge hh i h0 hi hp

/-- **The hole moves up**: its parent's key drops into it. -/
lemma Hole.up {k : ℕ → κ} {n h : ℕ} (ho : Hole k n h) (h0 : 0 < h) :
    Hole (Function.update k h (k (parent h))) n (parent h) := by
  have hph := parent_lt h0
  refine ⟨hph.trans ho.lt, ?_, ?_⟩
  · intro i hi0 hi hne hp
    by_cases hih : i = h
    · exact absurd (by rw [hih]) hp
    · rw [Function.update_of_ne hih]
      by_cases hpi : parent i = h
      · rw [hpi, Function.update_self]
        exact ho.bridge h0 i hi0 hi hpi
      · rw [Function.update_of_ne hpi]
        exact ho.off i hi0 hi hih hpi
  · intro hp0 i hi0 hi hpi
    have hpp := parent_lt hp0
    -- the grandparent pair is off the old hole
    have hgrand : k (parent (parent h)) ≤ k (parent h) :=
      ho.off (parent h) hp0 (hph.trans ho.lt) (by omega) (by omega)
    rw [Function.update_of_ne (show parent (parent h) ≠ h by omega)]
    by_cases hih : i = h
    · rw [hih, Function.update_self]; exact hgrand
    · rw [Function.update_of_ne hih]
      have hsib := ho.off i hi0 hi hih (by omega)
      rw [hpi] at hsib
      exact hgrand.trans hsib

/-- After a move up, a key below the dropped one is below the children of the new
hole as well. -/
lemma Hole.le_children_up {k : ℕ → κ} {n h : ℕ} (ho : Hole k n h) (h0 : 0 < h) {x : κ}
    (hx : x ≤ k (parent h)) :
    ∀ i, 0 < i → i < n → parent i = parent h → x ≤ Function.update k h (k (parent h)) i := by
  intro i hi0 hi hpi
  by_cases hih : i = h
  · rw [hih, Function.update_self]; exact hx
  · have hph := parent_lt h0
    rw [Function.update_of_ne hih]
    have hsib := ho.off i hi0 hi hih (by omega)
    rw [hpi] at hsib
    exact hx.trans hsib

/-- **The hole moves down** to a child that is not above its sibling: the child's
key climbs into it. -/
lemma Hole.down {k : ℕ → κ} {n h c : ℕ} (ho : Hole k n h) (hc0 : 0 < c) (hc : c < n)
    (hp : parent c = h) (hmin : ∀ i, 0 < i → i < n → parent i = h → k c ≤ k i) :
    Hole (Function.update k h (k c)) n c := by
  have hlt := parent_lt hc0
  refine ⟨hc, ?_, ?_⟩
  · intro i hi0 hi hne hpi
    by_cases hih : i = h
    · rw [hih] at hi0
      have hpar := parent_lt hi0
      rw [hih, Function.update_self, Function.update_of_ne (show parent h ≠ h by omega)]
      exact ho.bridge hi0 c hc0 hc hp
    · rw [Function.update_of_ne hih]
      by_cases hpih : parent i = h
      · rw [hpih, Function.update_self]
        exact hmin i hi0 hi hpih
      · rw [Function.update_of_ne hpih]
        exact ho.off i hi0 hi hih hpih
  · intro _ i hi0 hi hpi
    have hpar := parent_lt hi0
    rw [hp, Function.update_self, Function.update_of_ne (show i ≠ h by omega)]
    have hgrand := ho.off i hi0 hi (by omega) (by omega)
    rwa [hpi] at hgrand

/-- **The hole is filled** with a key that fits between its parent and its
children. -/
lemma Hole.fill {k : ℕ → κ} {n h : ℕ} (ho : Hole k n h) {x : κ}
    (habove : 0 < h → k (parent h) ≤ x)
    (hbelow : ∀ i, 0 < i → i < n → parent i = h → x ≤ k i) :
    HeapOrdered (Function.update k h x) n := by
  intro i hi0 hi
  have hpar := parent_lt hi0
  by_cases hih : i = h
  · rw [hih] at hpar hi0
    rw [hih, Function.update_self, Function.update_of_ne (by omega)]
    exact habove hi0
  · rw [Function.update_of_ne hih]
    by_cases hpi : parent i = h
    · rw [hpi, Function.update_self]
      exact hbelow i hi0 hi hpi
    · rw [Function.update_of_ne hpi]
      exact ho.off i hi0 hi hih hpi

end HeapOrder
