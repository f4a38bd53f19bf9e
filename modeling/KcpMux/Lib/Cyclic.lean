import Mathlib.Tactic
import Mathlib.Data.Finset.Card

/-!
Windows on the ring of 32-bit numbers.

`off base x` is how far `x` is ahead of `base`.  A list is a `Window base n` when it goes up from `base`
in less than `n` steps; the comparison never looks at the numbers themselves, so a window may run
over the end of the ring.  Windows are cut (`Window.sublist`), extended at the end (`Window.snoc`) and
in the middle (`Window.insert`), and followed along a moving base (`Window.rebase`).
-/

namespace Cyclic

/-- How far `x` is ahead of `base`. -/
def off (base x : UInt32) : ℕ := (x - base).toNat

variable {base base' x y : UInt32} {n : ℕ} {l l' : List UInt32}

lemma off_eq (base x : UInt32) : off base x = (2 ^ 32 - base.toNat + x.toNat) % 2 ^ 32 := by
  rw [off, UInt32.toNat_sub]

lemma off_lt (base x : UInt32) : off base x < 2 ^ 32 := (x - base).toNat_lt

@[simp] lemma off_self (base : UInt32) : off base base = 0 := by simp [off]

lemma off_inj : off base x = off base y ↔ x = y := by
  rw [off_eq, off_eq, ← UInt32.toNat_inj]
  have h1 := base.toNat_lt
  have h2 := x.toNat_lt
  have h3 := y.toNat_lt
  omega

lemma off_eq_zero : off base x = 0 ↔ x = base := by
  rw [← off_self base, off_inj]

/-- The distance from a base between the two. -/
lemma off_rebase (h : off base base' ≤ off base x) : off base' x = off base x - off base base' := by
  rw [off_eq] at h ⊢
  rw [off_eq] at h ⊢
  rw [off_eq]
  have h1 := base.toNat_lt
  have h2 := base'.toNat_lt
  have h3 := x.toNat_lt
  omega

lemma off_add_one (h : off base x + 1 < 2 ^ 32) : off base (x + 1) = off base x + 1 := by
  rw [off_eq] at h ⊢
  rw [off_eq, UInt32.toNat_add]
  have h1 := base.toNat_lt
  have h3 := x.toNat_lt
  have h4 : (1 : UInt32).toNat = 1 := rfl
  omega

/-- The numbers go up from `base` and stay below `n` steps. -/
structure Window (base : UInt32) (n : ℕ) (l : List UInt32) : Prop where
  sorted : l.Pairwise fun x y => off base x < off base y
  bound : ∀ x ∈ l, off base x < n

lemma Window.nil : Window base n [] := ⟨List.Pairwise.nil, by simp⟩

lemma Window.mono {m : ℕ} (h : Window base n l) (hm : n ≤ m) : Window base m l :=
  ⟨h.sorted, fun x hx => (h.bound x hx).trans_le hm⟩

lemma Window.sublist (h : Window base n l) (hs : l'.Sublist l) : Window base n l' :=
  ⟨h.sorted.sublist hs, fun x hx => h.bound x (hs.subset hx)⟩

/-- No number comes twice. -/
lemma Window.nodup (h : Window base n l) : l.Nodup :=
  h.sorted.imp fun hlt heq => absurd hlt (by rw [heq]; exact lt_irrefl _)

/-- A window of `n` steps has room for `n` numbers. -/
lemma Window.length_le (h : Window base n l) : l.length ≤ n := by
  have hnodup : (l.map (off base)).Nodup :=
    h.nodup.map fun x y hxy => off_inj.mp hxy
  have hsub : (l.map (off base)).toFinset ⊆ Finset.range n := by
    intro i hi
    obtain ⟨x, hx, rfl⟩ := List.mem_map.mp (List.mem_toFinset.mp hi)
    exact Finset.mem_range.mpr (h.bound x hx)
  calc l.length = (l.map (off base)).length := (List.length_map _).symm
    _ = (l.map (off base)).toFinset.card := (List.toFinset_card_of_nodup hnodup).symm
    _ ≤ (Finset.range n).card := Finset.card_le_card hsub
    _ = n := Finset.card_range n

/-- The first number is the nearest one. -/
lemma Window.head_le (h : Window base n (x :: l)) (hy : y ∈ x :: l) : off base x ≤ off base y := by
  rcases List.mem_cons.mp hy with rfl | hy
  · exact le_rfl
  · exact (List.rel_of_pairwise_cons h.sorted hy).le

/-- The base moves up to a place that no number is before. -/
lemma Window.rebase (h : Window base n l) (hle : ∀ x ∈ l, off base base' ≤ off base x) :
    Window base' (n - off base base') l := by
  refine ⟨h.sorted.imp_of_mem fun hx hy hlt => ?_, fun x hx => ?_⟩
  · rw [off_rebase (hle _ hx), off_rebase (hle _ hy)]
    have := hle _ hx
    omega
  · rw [off_rebase (hle x hx)]
    have := h.bound x hx
    have := hle x hx
    omega

/-- The next number goes to the end. -/
lemma Window.snoc (h : Window base (off base x) l) : Window base (off base x + 1) (l ++ [x]) := by
  refine ⟨List.pairwise_append.mpr ⟨h.sorted, List.pairwise_singleton _ _, fun y hy z hz => ?_⟩,
    fun y hy => ?_⟩
  · rw [List.mem_singleton.mp hz]
    exact h.bound y hy
  · rcases List.mem_append.mp hy with hy | hy
    · exact (h.bound y hy).trans (Nat.lt_succ_self _)
    · rw [List.mem_singleton.mp hy]
      exact Nat.lt_succ_self _

/-- A number goes between those before and those after it. -/
lemma Window.insert (h : Window base n (l ++ l')) (hx : off base x < n)
    (hl : ∀ y ∈ l, off base y < off base x) (hl' : ∀ y ∈ l', off base x < off base y) :
    Window base n (l ++ x :: l') := by
  obtain ⟨h1, h2, h3⟩ := List.pairwise_append.mp h.sorted
  refine ⟨List.pairwise_append.mpr ⟨h1, List.pairwise_cons.mpr ⟨hl', h2⟩, fun y hy z hz => ?_⟩,
    fun y hy => ?_⟩
  · rcases List.mem_cons.mp hz with rfl | hz
    · exact hl y hy
    · exact h3 y hy z hz
  · rcases List.mem_append.mp hy with hy | hy
    · exact h.bound y (List.mem_append_left _ hy)
    · rcases List.mem_cons.mp hy with rfl | hy
      · exact hx
      · exact h.bound y (List.mem_append_right _ hy)

end Cyclic
