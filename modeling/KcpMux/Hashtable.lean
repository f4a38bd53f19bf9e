import Mathlib.Tactic

/-!
The chained hash table (`src/internal/kcpmux_hashtable.c`).

A table is an array of `size` bucket lists with an element count.  The intrusive list
nodes are the elements themselves, a comparison callback is a predicate on elements, and
`htbDel` unlinks a node from whichever bucket it is in.

`Htb.Holds t S hash` says that `t` is an exact table of the elements in `S`: each is in the
bucket of its hash and nothing else is in any bucket.  Lookups, insertions and deletions on
such a table are what they are on the set `S` (`find_eq_some`, `find_eq_none`, `add`,
`del`), whatever the hash function.
-/

namespace KcpMux

variable {α : Type}

/-- `kcpmux_htb_t`.  `num` is an `int` in the source, which agrees with the natural number here
below `2 ^ 31` elements. -/
structure Htb (α : Type) where
  hashtable : ℕ → List α
  num : ℕ
  size : ℕ

/-- `kcpmux_htb_new`, for an allocation that succeeds. -/
def htbNew (α : Type) (size : ℕ) : Htb α where
  hashtable := fun _ => []
  num := 0
  size := max 11 size

/-- `kcpmux_htb_find`. -/
def htbFind (ht : Htb α) (cmp : α → Bool) (hash : UInt32) : Option α :=
  (ht.hashtable (hash.toNat % ht.size)).find? cmp

/-- `kcpmux_htb_add`: a node goes in front of its bucket unless its key is there. -/
def htbAdd (ht : Htb α) (node : α) (cmp : α → Bool) (hash : UInt32) : Htb α :=
  if (htbFind ht cmp hash).isNone then
    { ht with
      hashtable := Function.update ht.hashtable (hash.toNat % ht.size)
        (node :: ht.hashtable (hash.toNat % ht.size))
      num := ht.num + 1 }
  else ht

/-- Some bucket holds the node: its list node is linked. -/
def htbLinked [DecidableEq α] (ht : Htb α) (node : α) : Bool :=
  (List.range ht.size).any fun i => (ht.hashtable i).contains node

/-- `kcpmux_htb_del`. -/
def htbDel [DecidableEq α] (ht : Htb α) (node : α) : Htb α :=
  if htbLinked ht node then
    { ht with hashtable := fun i => (ht.hashtable i).erase node, num := ht.num - 1 }
  else ht

@[simp] lemma htbDel_size [DecidableEq α] (ht : Htb α) (node : α) :
    (htbDel ht node).size = ht.size := by
  rw [htbDel]
  split_ifs <;> rfl

namespace Htb

/-- The table holds exactly the elements of `S`, each in the bucket of its hash. -/
structure Holds (t : Htb α) (S : α → Prop) (hash : α → UInt32) : Prop where
  pos : 0 < t.size
  mem : ∀ i x, x ∈ t.hashtable i ↔ S x ∧ (hash x).toNat % t.size = i
  nodup : ∀ i, (t.hashtable i).Nodup

namespace Holds

variable {t : Htb α} {S S' : α → Prop} {hash hash' : α → UInt32}

/-- A fresh table is empty. -/
lemma empty (size : ℕ) (hash : α → UInt32) : (htbNew α size).Holds (fun _ => False) hash := by
  refine ⟨?_, fun i x => ?_, fun i => List.nodup_nil⟩
  · exact lt_of_lt_of_le (by decide) (le_max_left 11 size)
  · simp [htbNew]

/-- Only the elements and their hashes matter. -/
lemma congr (h : t.Holds S hash) (hS : ∀ x, S x ↔ S' x) (hh : ∀ x, S x → hash x = hash' x) :
    t.Holds S' hash' := by
  refine ⟨h.pos, fun i x => ?_, h.nodup⟩
  rw [h.mem, ← hS]
  constructor
  · rintro ⟨hx, hi⟩
    exact ⟨hx, by rw [← hh x hx]; exact hi⟩
  · rintro ⟨hx, hi⟩
    exact ⟨hx, by rw [hh x hx]; exact hi⟩

/-- A table says what its elements are. -/
lemma same (h : t.Holds S hash) (h' : t.Holds S' hash') (x : α) : S x ↔ S' x := by
  constructor
  · exact fun hx => ((h'.mem _ x).mp ((h.mem _ x).mpr ⟨hx, rfl⟩)).1
  · exact fun hx => ((h.mem _ x).mp ((h'.mem _ x).mpr ⟨hx, rfl⟩)).1

/-- **A lookup finds the element with the key**, if there is one. -/
lemma find_eq_some (h : t.Holds S hash) {cmp : α → Bool} {k : UInt32}
    (hk : ∀ x, S x → cmp x = true → hash x = k)
    (huniq : ∀ x y, S x → S y → cmp x = true → cmp y = true → x = y) (x : α) :
    htbFind t cmp k = some x ↔ S x ∧ cmp x = true := by
  rw [htbFind]
  constructor
  · intro hf
    exact ⟨((h.mem _ x).mp (List.mem_of_find?_eq_some hf)).1, List.find?_some hf⟩
  · rintro ⟨hx, hc⟩
    have hmem : x ∈ t.hashtable (k.toNat % t.size) := (h.mem _ x).mpr ⟨hx, by rw [hk x hx hc]⟩
    cases hf : (t.hashtable (k.toNat % t.size)).find? cmp with
    | none => exact absurd hc (List.find?_eq_none.mp hf x hmem)
    | some y =>
        have hy := ((h.mem _ y).mp (List.mem_of_find?_eq_some hf)).1
        rw [huniq y x hy hx (List.find?_some hf) hc]

/-- A lookup fails when no element has the key. -/
lemma find_eq_none (h : t.Holds S hash) {cmp : α → Bool} {k : UInt32}
    (hk : ∀ x, S x → cmp x = true → hash x = k) :
    htbFind t cmp k = none ↔ ∀ x, S x → cmp x = false := by
  rw [htbFind, List.find?_eq_none]
  constructor
  · intro hf x hx
    rw [Bool.eq_false_iff]
    intro hc
    exact hf x ((h.mem _ x).mpr ⟨hx, by rw [hk x hx hc]⟩) hc
  · intro hf x hx hc
    rw [hf x ((h.mem _ x).mp hx).1] at hc
    cases hc

/-- **An insertion under a fresh key** adds the element. -/
lemma add (h : t.Holds S hash) {node : α} {cmp : α → Bool} (hnode : ¬ S node)
    (hfresh : htbFind t cmp (hash node) = none) :
    (htbAdd t node cmp (hash node)).Holds (fun x => x = node ∨ S x) hash := by
  rw [htbAdd, hfresh]
  refine ⟨h.pos, fun i x => ?_, fun i => ?_⟩
  · by_cases hi : i = (hash node).toNat % t.size
    · subst hi
      simp only [Option.isNone_none, if_true, Function.update_self, List.mem_cons, h.mem]
      constructor
      · rintro (rfl | ⟨hx, he⟩)
        · exact ⟨Or.inl rfl, rfl⟩
        · exact ⟨Or.inr hx, he⟩
      · rintro ⟨rfl | hx, he⟩
        · exact Or.inl rfl
        · exact Or.inr ⟨hx, he⟩
    · simp only [Option.isNone_none, if_true, Function.update_of_ne hi, h.mem]
      constructor
      · rintro ⟨hx, he⟩
        exact ⟨Or.inr hx, he⟩
      · rintro ⟨rfl | hx, he⟩
        · exact absurd he.symm hi
        · exact ⟨hx, he⟩
  · by_cases hi : i = (hash node).toNat % t.size
    · subst hi
      simp only [Option.isNone_none, if_true, Function.update_self]
      exact List.nodup_cons.mpr ⟨fun hm => hnode ((h.mem _ _).mp hm).1, h.nodup _⟩
    · simp only [Option.isNone_none, if_true, Function.update_of_ne hi]
      exact h.nodup i

variable [DecidableEq α]

/-- A node is linked when it is an element. -/
lemma linked_iff (h : t.Holds S hash) (node : α) : htbLinked t node = true ↔ S node := by
  rw [htbLinked, List.any_eq_true]
  constructor
  · rintro ⟨i, -, hi⟩
    exact ((h.mem i node).mp (List.contains_iff_mem.mp hi)).1
  · intro hx
    refine ⟨(hash node).toNat % t.size, List.mem_range.mpr (Nat.mod_lt _ h.pos), ?_⟩
    exact List.contains_iff_mem.mpr ((h.mem _ _).mpr ⟨hx, rfl⟩)

/-- **A deletion** removes the element. -/
lemma del (h : t.Holds S hash) {node : α} (hnode : S node) :
    (htbDel t node).Holds (fun x => S x ∧ x ≠ node) hash := by
  rw [htbDel, if_pos ((h.linked_iff node).mpr hnode)]
  refine ⟨h.pos, fun i x => ?_, fun i => (h.nodup i).erase node⟩
  rw [(h.nodup i).mem_erase_iff, h.mem]
  constructor
  · rintro ⟨hne, hx, hi⟩
    exact ⟨⟨hx, hne⟩, hi⟩
  · rintro ⟨⟨hx, hne⟩, hi⟩
    exact ⟨hne, hx, hi⟩

lemma del_num (h : t.Holds S hash) {node : α} (hnode : S node) :
    (htbDel t node).num = t.num - 1 := by
  rw [htbDel, if_pos ((h.linked_iff node).mpr hnode)]

end Holds

lemma add_num {t : Htb α} {node : α} {cmp : α → Bool} {k : UInt32}
    (hfresh : htbFind t cmp k = none) : (htbAdd t node cmp k).num = t.num + 1 := by
  rw [htbAdd, hfresh]
  rfl

end Htb

end KcpMux
