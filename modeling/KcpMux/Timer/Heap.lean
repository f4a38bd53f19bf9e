import Mathlib.Data.Prod.Lex
import KcpMux.Lib.HeapOrder
import KcpMux.Timer.Frame

/-!
The timer heap is an indexed heap.

`TimerManager.Valid` collects what holds between two timer operations: the first
`size` slots hold the nodes in state `heap`, each under the slot it records
(`Indexed`), their keys `(deadline, insertion_sequence)` are in heap order, and the
due list holds the nodes in state `due`, once each.

A sift works on a manager with a hole and one node in hand (`Carrying`);
`timerSiftUpLoop_spec` and `timerSiftDownLoop_spec` follow the hole through the array
with the rules of `HeapOrder`.  From them come `schedule_valid`, `cancel_valid` and
`collectDueLoop_valid`: every operation keeps a valid manager valid.
-/

namespace KcpMux

open HeapOrder TimerNode

/-- The order of the heap: the deadline first, the insertion sequence on ties. -/
def TimerNode.key (n : TimerNode) : ℤ ×ₗ ℕ := toLex (n.deadlineMs, n.insertionSequence)

lemma timerLess_iff (a b : TimerNode) : timerLess a b = true ↔ a.key < b.key := by
  rw [timerLess, TimerNode.key, TimerNode.key, Prod.Lex.toLex_lt_toLex]
  split_ifs with h
  · simp [h]
  · have h' : a.deadlineMs = b.deadlineMs := not_not.mp h
    simp [h']

lemma TimerNode.SameBut.key {n n' : TimerNode} (h : SameBut n n') : n'.key = n.key := by
  rw [TimerNode.key, TimerNode.key, h.deadlineMs, h.insertionSequence]

variable {P : Type}

namespace TimerManager

/-- The keys of the slots. -/
def keys (m : TimerManager P) (i : ℕ) : ℤ ×ₗ ℕ := (m.node (m.heap i)).key

/-- The slots in use and the nodes of the set `S` point at each other. -/
structure Indexed (m : TimerManager P) (S : P → Prop) : Prop where
  slot : ∀ i < m.size, (m.node (m.heap i)).heapIndex = i ∧ S (m.heap i)
  back : ∀ q, S q → ∃ i < m.size, m.heap i = q

/-- The node is in the heap. -/
def InHeap (m : TimerManager P) (q : P) : Prop := (m.node q).state = .heap

/-- What holds between two timer operations. -/
structure Valid (m : TimerManager P) : Prop where
  indexed : m.Indexed m.InHeap
  ordered : HeapOrdered m.keys m.size
  due_iff : ∀ q, q ∈ m.due ↔ (m.node q).state = .due
  due_nodup : m.due.Nodup

/-- A manager in the middle of a sift: slot `hole` is free and the node `p` is in
hand. -/
structure Carrying (m : TimerManager P) (S : P → Prop) (hole : ℕ) (p : P) : Prop where
  lt : hole < m.size
  slot : ∀ i < m.size, i ≠ hole →
    (m.node (m.heap i)).heapIndex = i ∧ S (m.heap i) ∧ m.heap i ≠ p
  back : ∀ q, S q → q ≠ p → ∃ i < m.size, i ≠ hole ∧ m.heap i = q
  mine : S p

namespace Indexed

variable {m : TimerManager P} {S : P → Prop}

/-- A node records the slot it is in. -/
lemma heap_heapIndex (h : m.Indexed S) {p : P} (hp : S p) :
    (m.node p).heapIndex < m.size ∧ m.heap (m.node p).heapIndex = p := by
  obtain ⟨i, hi, rfl⟩ := h.back p hp
  rw [(h.slot i hi).1]
  exact ⟨hi, rfl⟩

/-- Two slots never hold the same node. -/
lemma inj (h : m.Indexed S) {i j : ℕ} (hi : i < m.size) (hj : j < m.size)
    (he : m.heap i = m.heap j) : i = j := by
  have h1 := (h.slot i hi).1
  rw [he, (h.slot j hj).1] at h1
  exact h1.symm

/-- Any slot can be opened. -/
lemma carrying (h : m.Indexed S) {i : ℕ} (hi : i < m.size) : m.Carrying S i (m.heap i) where
  lt := hi
  slot := fun j hj hne => ⟨(h.slot j hj).1, (h.slot j hj).2, fun he => hne (h.inj hj hi he)⟩
  back := by
    intro q hq hne
    obtain ⟨j, hj, rfl⟩ := h.back q hq
    exact ⟨j, hj, fun he => hne (by rw [he]), rfl⟩
  mine := (h.slot i hi).2

/-- Indexing reads the slots in use and the nodes they hold. -/
lemma congr (h : m.Indexed S) {m' : TimerManager P} {S' : P → Prop} (hsize : m'.size = m.size)
    (hheap : ∀ i < m.size, m'.heap i = m.heap i) (hS : ∀ q, S' q ↔ S q)
    (hnode : ∀ q, S q → (m'.node q).heapIndex = (m.node q).heapIndex) : m'.Indexed S' := by
  refine ⟨fun i hi => ?_, fun q hq => ?_⟩
  · rw [hsize] at hi
    rw [hheap i hi, hS, hnode _ (h.slot i hi).2]
    exact h.slot i hi
  · obtain ⟨i, hi, he⟩ := h.back q ((hS q).mp hq)
    exact ⟨i, by rwa [hsize], by rw [hheap i hi, he]⟩

end Indexed

variable [DecidableEq P]

/-- The keys after a node went into a slot. -/
lemma keys_timerSet (m : TimerManager P) (i : ℕ) (p : P) :
    (timerSet m i p).keys = Function.update m.keys i (m.node p).key := by
  funext j
  have hk := ((timerSet_shuffled m i p).node ((timerSet m i p).heap j)).key
  rw [keys, hk]
  by_cases hj : j = i
  · subst hj; simp [timerSet]
  · simp [timerSet, hj, keys]

namespace Carrying

variable {m : TimerManager P} {S : P → Prop} {hole : ℕ} {p : P}

/-- The hole moves to another slot, whose node drops into the old one. -/
lemma move (h : m.Carrying S hole p) {j : ℕ} (hj : j < m.size) (hne : j ≠ hole) :
    (timerSet m hole (m.heap j)).Carrying S j p := by
  obtain ⟨hidx, hS, hjp⟩ := h.slot j hj hne
  refine ⟨hj, ?_, ?_, h.mine⟩
  · intro i hi hij
    by_cases hih : i = hole
    · subst hih
      simp [timerSet, hS, hjp]
    · obtain ⟨hidx', hS', hip⟩ := h.slot i hi hih
      have hdiff : m.heap i ≠ m.heap j := by
        intro he
        rw [he, hidx] at hidx'
        exact hij hidx'.symm
      simp [timerSet, hih, hdiff, hidx', hS', hip]
  · intro q hq hqp
    obtain ⟨i, hi, hih, rfl⟩ := h.back q hq hqp
    by_cases hij : i = j
    · subst hij
      exact ⟨hole, h.lt, Ne.symm hne, by simp [timerSet]⟩
    · exact ⟨i, hi, hij, by simp [timerSet, hih]⟩

/-- The node in hand is put down. -/
lemma place (h : m.Carrying S hole p) : (timerSet m hole p).Indexed S := by
  refine ⟨?_, ?_⟩
  · intro i hi
    by_cases hih : i = hole
    · subst hih; simp [timerSet, h.mine]
    · obtain ⟨hidx, hS, hip⟩ := h.slot i hi hih
      simp [timerSet, hih, hip, hidx, hS]
  · intro q hq
    by_cases hqp : q = p
    · subst hqp
      exact ⟨hole, h.lt, by simp [timerSet]⟩
    · obtain ⟨i, hi, hih, rfl⟩ := h.back q hq hqp
      exact ⟨i, hi, by simp [timerSet, hih]⟩

end Carrying

end TimerManager

open TimerManager

variable [DecidableEq P]

/-! ### Sifting up -/

/-- What a sift up leaves at the slot `j` it stopped in: the node is down, and only
the pairs below `j` may still be out of order. -/
structure RaisedTo (m : TimerManager P) (S : P → Prop) (p : P) (j : ℕ) : Prop where
  lt : j < m.size
  here : m.heap j = p
  indexed : m.Indexed S
  hole : Hole m.keys m.size j
  above : 0 < j → m.keys (parent j) ≤ m.keys j

/-- The round that puts the node down. -/
lemma raisedTo_place {m : TimerManager P} {S : P → Prop} {p : P} {i : ℕ}
    (hc : m.Carrying S i p)
    (ho : Hole m.keys m.size i) (hstop : 0 < i → m.keys (parent i) ≤ (m.node p).key) :
    RaisedTo (timerSet m i p) S p i := by
  refine ⟨hc.lt, by simp [timerSet], hc.place, ?_, ?_⟩
  · refine ho.congr fun j hj hne => ?_
    rw [keys_timerSet, Function.update_of_ne hne]
  · intro h0
    rw [keys_timerSet, Function.update_self, Function.update_of_ne (parent_lt h0).ne]
    exact hstop h0

/-- **The sift up**: it ends in a slot whose parent is not above the node; a node that
started at or below the children of its slot ends at or below those of its last one. -/
lemma timerSiftUpLoop_spec (S : P → Prop) (p : P) : ∀ (rounds : ℕ) (m : TimerManager P) (i : ℕ),
    i ≤ rounds → m.Carrying S i p → Hole m.keys m.size i →
    RaisedTo (timerSiftUpLoop p rounds m i).1 S p (timerSiftUpLoop p rounds m i).2 ∧
      ((∀ j, 0 < j → j < m.size → parent j = i → (m.node p).key ≤ m.keys j) →
        ∀ j, 0 < j → j < m.size → parent j = (timerSiftUpLoop p rounds m i).2 →
          (m.node p).key ≤ (timerSiftUpLoop p rounds m i).1.keys j) := by
  intro rounds
  induction rounds with
  | zero =>
      intro m i hr hc ho
      have h0 : i = 0 := by omega
      subst h0
      refine ⟨raisedTo_place hc ho fun h => absurd h (by omega), fun hb j hj0 hj hp => ?_⟩
      have hlt := parent_lt hj0
      show (m.node p).key ≤ (timerSet m 0 p).keys j
      rw [keys_timerSet, Function.update_of_ne (by omega)]
      exact hb j hj0 hj hp
  | succ rounds ih =>
      intro m i hr hc ho
      -- stopping here leaves the keys of the children as they were
      have stop : (0 < i → m.keys (parent i) ≤ (m.node p).key) →
          RaisedTo (timerSet m i p) S p i ∧
            ((∀ j, 0 < j → j < m.size → parent j = i → (m.node p).key ≤ m.keys j) →
              ∀ j, 0 < j → j < m.size → parent j = i →
                (m.node p).key ≤ (timerSet m i p).keys j) := by
        intro hstop
        refine ⟨raisedTo_place hc ho hstop, fun hb j hj0 hj hp => ?_⟩
        have hlt := parent_lt hj0
        rw [keys_timerSet, Function.update_of_ne (by omega)]
        exact hb j hj0 hj hp
      rw [timerSiftUpLoop]
      by_cases h0 : i > 0
      · rw [if_pos h0]
        by_cases hl : timerLess (m.node p) (m.node (m.heap ((i - 1) / 2))) = true
        · rw [if_pos hl]
          have hlt : parent i < i := parent_lt h0
          have hps : parent i < m.size := hlt.trans hc.lt
          have hkey : (m.node p).key < m.keys (parent i) := (timerLess_iff _ _).mp hl
          have hc' := hc.move hps hlt.ne
          have hkeys : (timerSet m i (m.heap (parent i))).keys =
              Function.update m.keys i (m.keys (parent i)) := keys_timerSet _ _ _
          have ho' : Hole (timerSet m i (m.heap (parent i))).keys m.size (parent i) := by
            rw [hkeys]; exact ho.up h0
          have hnode : ((timerSet m i (m.heap (parent i))).node p).key = (m.node p).key :=
            ((timerSet_shuffled m i (m.heap (parent i))).node p).key
          obtain ⟨hr1, hr2⟩ := ih (timerSet m i (m.heap (parent i))) (parent i) (by omega) hc' ho'
          refine ⟨hr1, fun _ => ?_⟩
          rw [hnode] at hr2
          refine hr2 fun j hj0 hj hp => ?_
          rw [hkeys]
          exact ho.le_children_up h0 hkey.le j hj0 hj hp
        · rw [if_neg hl]
          exact stop fun _ => not_lt.mp fun h => hl ((timerLess_iff _ _).mpr h)
      · rw [if_neg h0]
        exact stop fun h => absurd h h0

/-! ### Sifting down -/

omit [DecidableEq P] in
/-- The child a sift down looks at is a child, and not above the other one. -/
lemma timerChild_spec (m : TimerManager P) {i : ℕ} (h : i * 2 + 1 < m.size) :
    0 < timerChild m i ∧ timerChild m i < m.size ∧ parent (timerChild m i) = i ∧
      ∀ j, 0 < j → j < m.size → parent j = i → m.keys (timerChild m i) ≤ m.keys j := by
  rw [timerChild]
  split_ifs with hc
  · refine ⟨by omega, hc.1, parent_right i, fun j hj0 hj hp => ?_⟩
    rcases eq_child_of_parent hj0 hp with rfl | rfl
    · exact ((timerLess_iff _ _).mp hc.2).le
    · exact le_refl _
  · refine ⟨by omega, h, parent_left i, fun j hj0 hj hp => ?_⟩
    rcases eq_child_of_parent hj0 hp with rfl | rfl
    · exact le_refl _
    · exact not_lt.mp fun hlt => hc ⟨hj, (timerLess_iff _ _).mpr hlt⟩

/-- **The sift down**: it ends with the node down and the heap in order. -/
lemma timerSiftDownLoop_spec (S : P → Prop) (p : P) : ∀ (rounds : ℕ) (m : TimerManager P) (i : ℕ),
    m.size ≤ rounds + i → m.Carrying S i p → Hole m.keys m.size i →
    (0 < i → m.keys (parent i) ≤ (m.node p).key) →
    (timerSiftDownLoop p rounds m i).Indexed S ∧
      HeapOrdered (timerSiftDownLoop p rounds m i).keys m.size := by
  intro rounds
  induction rounds with
  | zero =>
      intro m i hr hc
      exact absurd hc.lt (by omega)
  | succ rounds ih =>
      intro m i hr hc ho habove
      have stop : (∀ j, 0 < j → j < m.size → parent j = i → (m.node p).key ≤ m.keys j) →
          (timerSet m i p).Indexed S ∧ HeapOrdered (timerSet m i p).keys m.size := by
        intro hb
        refine ⟨hc.place, ?_⟩
        rw [keys_timerSet]
        exact ho.fill habove hb
      rw [timerSiftDownLoop]
      by_cases hs : i * 2 + 1 ≥ m.size
      · rw [if_pos hs]
        refine stop fun j hj0 hj hp => ?_
        rcases eq_child_of_parent hj0 hp with rfl | rfl <;> omega
      · rw [if_neg hs]
        obtain ⟨hc0, hcs, hcp, hmin⟩ := timerChild_spec m (not_le.mp hs)
        generalize hch : timerChild m i = c at hc0 hcs hcp hmin ⊢
        by_cases hl : timerLess (m.node (m.heap c)) (m.node p) = true
        · rw [if_pos hl]
          have hlt := parent_lt hc0
          have hkey : m.keys c < (m.node p).key := (timerLess_iff _ _).mp hl
          have hkeys : (timerSet m i (m.heap c)).keys = Function.update m.keys i (m.keys c) :=
            keys_timerSet _ _ _
          refine ih (timerSet m i (m.heap c)) c ?_ (hc.move hcs (by omega)) ?_ ?_
          · show m.size ≤ rounds + c
            omega
          · rw [hkeys]; exact ho.down hc0 hcs hcp hmin
          · intro _
            rw [((timerSet_shuffled m i (m.heap c)).node p).key, hkeys, hcp, Function.update_self]
            exact hkey.le
        · rw [if_neg hl]
          refine stop fun j hj0 hj hp => ?_
          exact (not_lt.mp fun h => hl ((timerLess_iff _ _).mpr h)).trans (hmin j hj0 hj hp)

/-- The two sifts together repair a heap in which one key is out of place. -/
lemma timerSift_spec {m : TimerManager P} {S : P → Prop} {i : ℕ} (hx : m.Indexed S)
    (ho : Hole m.keys m.size i) :
    (timerSiftDown (timerSiftUp m i).1 (timerSiftUp m i).2).Indexed S ∧
      HeapOrdered (timerSiftDown (timerSiftUp m i).1 (timerSiftUp m i).2).keys m.size := by
  obtain ⟨hr, -⟩ := timerSiftUpLoop_spec S (m.heap i) i m i le_rfl (hx.carrying ho.lt) ho
  have hsz : (timerSiftUp m i).1.size = m.size := (timerSiftUp_shuffled m i).size
  rw [timerSiftUp] at hsz ⊢
  generalize timerSiftUpLoop (m.heap i) i m i = r at hr hsz ⊢
  rw [timerSiftDown, ← hsz]
  exact timerSiftDownLoop_spec S (r.1.heap r.2) r.1.size r.1 r.2 (by omega)
    (hr.indexed.carrying hr.lt) hr.hole hr.above

/-! ### The operations keep the heap -/

omit [DecidableEq P] in
/-- What is left to check when the nodes of a manager have been shuffled. -/
lemma TimerManager.Valid.of_shuffled {m m' : TimerManager P} (hsh : Shuffled m m')
    (hx : m'.Indexed m.InHeap) (ho : HeapOrdered m'.keys m.size)
    (hdue : ∀ q, q ∈ m.due ↔ (m.node q).state = .due) (hnd : m.due.Nodup) : m'.Valid := by
  refine ⟨hx.congr rfl (fun _ _ => rfl) (fun q => ?_) (fun _ _ => rfl), ?_, fun q => ?_, ?_⟩
  · rw [InHeap, InHeap, (hsh.node q).state]
  · rw [hsh.size]
    exact ho
  · rw [hsh.due, (hsh.node q).state]
    exact hdue q
  · rw [hsh.due]
    exact hnd

/-- A new deadline for a node of the heap puts at most its own key out of place. -/
lemma TimerManager.Valid.rekey {m m1 : TimerManager P} (hv : m.Valid) {p : P} {d : ℤ}
    (h : (m.node p).state = .heap)
    (hm1 : m1 = m.setNode p { m.node p with deadlineMs := d }) :
    m1.Indexed m1.InHeap ∧ Hole m1.keys m1.size (m.node p).heapIndex ∧
      ∀ q, (m1.node q).state = (m.node q).state := by
  have hp := hv.indexed.heap_heapIndex h
  have hnode : ∀ q, (m1.node q).state = (m.node q).state ∧
      (m1.node q).heapIndex = (m.node q).heapIndex := by
    intro q
    by_cases hq : q = p
    · subst hq
      simp [hm1]
    · rw [hm1, setNode_node_of_ne m hq]
      exact ⟨rfl, rfl⟩
  have hsize : m1.size = m.size := by rw [hm1]; rfl
  have hheap : m1.heap = m.heap := by rw [hm1]; rfl
  refine ⟨?_, ?_, fun q => (hnode q).1⟩
  · exact hv.indexed.congr hsize (fun i _ => congrFun hheap i)
      (fun q => by rw [InHeap, InHeap, (hnode q).1]) fun q _ => (hnode q).2
  · rw [hsize]
    refine (hv.ordered.hole hp.1).congr fun i hi hne => ?_
    have hip : m.heap i ≠ p := by
      intro he
      exact hne (hv.indexed.inj hi hp.1 (he.trans hp.2.symm))
    rw [TimerManager.keys, hheap, hm1, setNode_node_of_ne m hip]
    rfl

/-- A node that has come in at the end is sifted up. -/
lemma timerSiftUp_spec {m : TimerManager P} {S : P → Prop} {i : ℕ}
    (hc : m.Carrying S i (m.heap i)) (ho : Hole m.keys m.size i) (hlast : m.size = i + 1) :
    (timerSiftUp m i).1.Indexed S ∧ HeapOrdered (timerSiftUp m i).1.keys m.size := by
  have hleaf : ∀ j, 0 < j → j < m.size → parent j ≠ i := by
    intro j hj0 hj
    have := parent_lt hj0
    omega
  obtain ⟨hr, hb⟩ := timerSiftUpLoop_spec S (m.heap i) i m i le_rfl hc ho
  have hbelow := hb fun j hj0 hj hpj => absurd hpj (hleaf j hj0 hj)
  have hsh := timerSiftUp_shuffled m i
  rw [timerSiftUp] at hsh ⊢
  generalize timerSiftUpLoop (m.heap i) i m i = r at hr hbelow hsh ⊢
  refine ⟨hr.indexed, ?_⟩
  have hfill := hr.hole.fill hr.above fun j hj0 hj hpj => by
    rw [hsh.size] at hj
    have hk := hbelow j hj0 hj hpj
    rwa [← (hsh.node (m.heap i)).key, ← hr.here] at hk
  rwa [Function.update_eq_self, hsh.size] at hfill

section Enter

variable {m : TimerManager P} {p : P} (hv : m.Valid) (h : (m.node p).state ≠ .heap) (d : ℤ)
  (capacity : ℕ)

include hv h

/-- The slots that were in use before. -/
lemma TimerManager.Valid.enter_slot {i : ℕ} (hi : i < m.size) :
    m.heap i ≠ p ∧ (timerEnter m p d capacity).heap i = m.heap i ∧
      (timerEnter m p d capacity).node (m.heap i) = m.node (m.heap i) := by
  have hp : m.heap i ≠ p := by
    intro hip
    exact h (hip ▸ (hv.indexed.slot i hi).2)
  exact ⟨hp, by simp [timerEnter, hi.ne], timerEnter_node_of_ne m d capacity hp⟩

lemma TimerManager.Valid.enter_carrying :
    (timerEnter m p d capacity).Carrying (timerEnter m p d capacity).InHeap m.size
      ((timerEnter m p d capacity).heap m.size) := by
  have hend : (timerEnter m p d capacity).heap m.size = p := by simp [timerEnter]
  rw [hend]
  refine ⟨Nat.lt_succ_self _, fun i hi hne => ?_, fun q hq hqp => ?_, by simp [InHeap, timerEnter]⟩
  · have hi' : i < m.size := lt_of_le_of_ne (Nat.lt_succ_iff.mp hi) hne
    obtain ⟨hip, hheap, hnode⟩ := hv.enter_slot h d capacity hi'
    rw [hheap, InHeap, hnode]
    exact ⟨(hv.indexed.slot i hi').1, (hv.indexed.slot i hi').2, hip⟩
  · rw [InHeap, timerEnter_node_of_ne m d capacity hqp] at hq
    obtain ⟨i, hi, hiq⟩ := hv.indexed.back q hq
    exact ⟨i, Nat.lt_succ_of_lt hi, hi.ne, (hv.enter_slot h d capacity hi).2.1.trans hiq⟩

lemma TimerManager.Valid.enter_hole :
    Hole (timerEnter m p d capacity).keys (timerEnter m p d capacity).size m.size := by
  have hkeys : ∀ i < m.size, (timerEnter m p d capacity).keys i = m.keys i := by
    intro i hi
    obtain ⟨-, hheap, hnode⟩ := hv.enter_slot h d capacity hi
    rw [TimerManager.keys, hheap, hnode]
    rfl
  refine ⟨Nat.lt_succ_self _, fun i h0 hi hne _ => ?_, fun _ i h0 hi hpi => ?_⟩
  · have hi' : i < m.size := lt_of_le_of_ne (Nat.lt_succ_iff.mp hi) hne
    rw [hkeys i hi', hkeys _ ((parent_lt h0).trans hi')]
    exact hv.ordered i h0 hi'
  · have hlt := parent_lt h0
    have : i < m.size + 1 := hi
    omega

/-- A node that was due has left the due list. -/
lemma TimerManager.Valid.enter_due :
    (∀ q, q ∈ (timerEnter m p d capacity).due ↔
      ((timerEnter m p d capacity).node q).state = .due) ∧
      (timerEnter m p d capacity).due.Nodup := by
  have hdue : (timerEnter m p d capacity).due =
      if (m.node p).state = .due then m.due.erase p else m.due := rfl
  rw [hdue]
  refine ⟨fun q => ?_, ?_⟩
  · by_cases hq : q = p
    · subst hq
      have hp1 : ((timerEnter m q d capacity).node q).state = .heap := by simp [timerEnter]
      rw [hp1]
      split_ifs with hd
      · simp [hv.due_nodup.not_mem_erase]
      · simp [hv.due_iff, hd]
    · rw [timerEnter_node_of_ne m d capacity hq, ← hv.due_iff q]
      split_ifs
      · exact List.mem_erase_of_ne hq
      · exact Iff.rfl
  · split_ifs
    · exact hv.due_nodup.erase p
    · exact hv.due_nodup

end Enter

/-- **Scheduling keeps a valid manager valid.** -/
lemma schedule_valid {m : TimerManager P} (hv : m.Valid) (p : P) (d : ℤ) (realloc : Bool) :
    (timerSchedule m p d realloc).2.Valid := by
  by_cases h : (m.node p).state = .heap
  · -- the key of `p` changes in place
    rw [timerSchedule_move m d realloc h]
    generalize hm1 : m.setNode p { m.node p with deadlineMs := d } = m1
    obtain ⟨hx, ho, hst⟩ := hv.rekey h hm1.symm
    obtain ⟨hx', ho'⟩ := timerSift_spec hx ho
    have hdue : m1.due = m.due := by rw [← hm1]; rfl
    refine .of_shuffled (timerSift_shuffled m1 _) hx' ho' (fun q => ?_) (hdue ▸ hv.due_nodup)
    rw [hst, hdue]
    exact hv.due_iff q
  · rcases timerSchedule_enter m d realloc h with ⟨capacity, he⟩ | ⟨_, he⟩
    · -- the node enters at the end and is sifted up
      rw [he]
      obtain ⟨hx, ho⟩ := timerSiftUp_spec (hv.enter_carrying h d capacity)
        (hv.enter_hole h d capacity) rfl
      obtain ⟨hdue, hnd⟩ := hv.enter_due h d capacity
      exact .of_shuffled (timerSiftUp_shuffled _ _) hx ho hdue hnd
    · rw [he]
      exact hv

/-- Removing a slot leaves the other nodes of the heap indexed and in order. -/
lemma timerRemoveAt_spec {m : TimerManager P} (hv : m.Valid) {i : ℕ} (hi : i < m.size) :
    (timerRemoveAt m i).Indexed (fun q => m.InHeap q ∧ q ≠ m.heap i) ∧
      HeapOrdered (timerRemoveAt m i).keys (m.size - 1) := by
  set p := m.heap i with hp
  set S : P → Prop := fun q => m.InHeap q ∧ q ≠ p with hS
  -- recording the invalid slot in `p` does not matter: `p` is not in `S`
  have finish : ∀ m' : TimerManager P, m'.size = m.size - 1 → m'.Indexed S →
      HeapOrdered m'.keys (m.size - 1) →
      (m'.setNode p { m'.node p with heapIndex := timerInvalidIndex }).Indexed S ∧
        HeapOrdered (m'.setNode p { m'.node p with heapIndex := timerInvalidIndex }).keys
          (m.size - 1) := by
    intro m' hsz hx ho
    refine ⟨hx.congr rfl (fun _ _ => rfl) (fun _ => Iff.rfl) fun q hq => ?_, ?_⟩
    · rw [setNode_node_of_ne _ hq.2]
    · refine ho.congr fun j _ => ?_
      exact ((setNode_shuffled m' p timerInvalidIndex).node (m'.heap j)).key
  have hother : ∀ j < m.size, j ≠ i → S (m.heap j) := fun j hj hne =>
    ⟨(hv.indexed.slot j hj).2, fun he => hne (hv.indexed.inj hj hi he)⟩
  have hback : ∀ q, S q → ∃ j < m.size, j ≠ i ∧ m.heap j = q := by
    intro q hq
    obtain ⟨j, hj, rfl⟩ := hv.indexed.back q hq.1
    exact ⟨j, hj, fun he => hq.2 (by rw [he]), rfl⟩
  rw [timerRemoveAt]
  dsimp only
  split_ifs with hlt
  · -- the last node fills the hole
    set m0 : TimerManager P := { m with size := m.size - 1 } with hm0
    have hc : m0.Carrying S i (m.heap (m.size - 1)) := by
      refine ⟨hlt, fun j hj hne => ?_, fun q hq hql => ?_, hother _ (by omega) (by omega)⟩
      · have hj' : j < m.size - 1 := hj
        refine ⟨(hv.indexed.slot j (by omega)).1, hother j (by omega) hne, fun he => ?_⟩
        have := hv.indexed.inj (by omega) (by omega) he
        omega
      · obtain ⟨j, hj, hji, rfl⟩ := hback q hq
        refine ⟨j, ?_, hji, rfl⟩
        have : j ≠ m.size - 1 := fun he => hql (by rw [he])
        show j < m.size - 1
        omega
    have ho : Hole (timerSet m0 i (m.heap (m.size - 1))).keys m0.size i := by
      refine ((hv.ordered.mono (Nat.sub_le _ 1)).hole hlt).congr fun j _ hne => ?_
      rw [keys_timerSet, Function.update_of_ne hne]
      rfl
    obtain ⟨hx', ho'⟩ := timerSift_spec hc.place ho
    exact finish _ (timerSift_shuffled _ _).size hx' ho'
  · -- the last node itself goes
    have hlast : i = m.size - 1 := by omega
    refine finish { m with size := m.size - 1 } rfl ⟨fun j hj => ?_, fun q hq => ?_⟩ ?_
    · have hj' : j < m.size - 1 := hj
      exact ⟨(hv.indexed.slot j (by omega)).1, hother j (by omega) (by omega)⟩
    · obtain ⟨j, hj, hji, rfl⟩ := hback q hq
      exact ⟨j, by show j < m.size - 1; omega, rfl⟩
    · exact hv.ordered.mono (Nat.sub_le _ 1)

/-- The manager after the node in slot `i` was removed and put in a state outside the
heap, with a due list to match. -/
lemma removeAt_valid {m : TimerManager P} (hv : m.Valid) {i : ℕ} (hi : i < m.size)
    (st : TimerState) (hst : st ≠ .heap) (due : List P)
    (hdue : ∀ q, q ∈ due ↔ (q ≠ m.heap i ∧ q ∈ m.due) ∨ (q = m.heap i ∧ st = .due))
    (hnd : due.Nodup) :
    ({ (timerRemoveAt m i).setNode (m.heap i)
        { (timerRemoveAt m i).node (m.heap i) with state := st } with due := due } :
      TimerManager P).Valid := by
  obtain ⟨hx, ho⟩ := timerRemoveAt_spec hv hi
  have hsh := timerRemoveAt_shuffled m i
  set m' := timerRemoveAt m i with hm'
  set p := m.heap i with hp
  have hstate : ∀ q, ((m'.setNode p { m'.node p with state := st }).node q).state =
      if q = p then st else (m.node q).state := by
    intro q
    by_cases hq : q = p
    · subst hq; simp
    · rw [setNode_node_of_ne _ hq, if_neg hq]; exact (hsh.node q).state
  refine ⟨hx.congr rfl (fun _ _ => rfl) (fun q => ?_) fun q hq => ?_, ?_, fun q => ?_, hnd⟩
  · show (_ = TimerState.heap) ↔ _
    rw [hstate]
    split_ifs with hq
    · simp [hq, hst]
    · simp [hq, InHeap]
  · show ((m'.setNode p _).node q).heapIndex = _
    rw [setNode_node_of_ne _ hq.2]
  · show HeapOrdered _ m'.size
    rw [hsh.size]
    refine ho.congr fun j _ => ?_
    show ((m'.setNode p _).node (m'.heap j)).key = _
    by_cases hq : m'.heap j = p
    · rw [hq, setNode_node_self, TimerManager.keys, hq]; rfl
    · rw [setNode_node_of_ne _ hq]; rfl
  · show q ∈ due ↔ ((m'.setNode p _).node q).state = .due
    rw [hdue, hstate]
    split_ifs with hq
    · simp [hq]
    · simp [hq, hv.due_iff]

/-- A node outside the heap is rewritten and stays outside, with a due list to match. -/
lemma setNode_valid {m : TimerManager P} (hv : m.Valid) {p : P} (h : (m.node p).state ≠ .heap)
    (n : TimerNode) (hn : n.state ≠ .heap) (due : List P)
    (hdue : ∀ q, q ∈ due ↔ (q ≠ p ∧ q ∈ m.due) ∨ (q = p ∧ n.state = .due)) (hnd : due.Nodup) :
    ({ m.setNode p n with due := due } : TimerManager P).Valid := by
  have hstate : ∀ q, ((m.setNode p n).node q).state =
      if q = p then n.state else (m.node q).state := by
    intro q
    by_cases hq : q = p
    · subst hq; simp
    · rw [setNode_node_of_ne _ hq, if_neg hq]
  refine ⟨hv.indexed.congr rfl (fun _ _ => rfl) (fun q => ?_) fun q hq => ?_, ?_, fun q => ?_, hnd⟩
  · show (_ = TimerState.heap) ↔ _
    rw [hstate]
    split_ifs with hq
    · simp [hq, hn, InHeap, h]
    · exact Iff.rfl
  · show ((m.setNode p _).node q).heapIndex = _
    rw [setNode_node_of_ne _ (show q ≠ p from fun he => h (he ▸ hq))]
  · refine hv.ordered.congr fun j hj => ?_
    have hne : m.heap j ≠ p := fun he => h (he ▸ (hv.indexed.slot j hj).2)
    show ((m.setNode p _).node (m.heap j)).key = _
    rw [setNode_node_of_ne _ hne]
    rfl
  · show q ∈ due ↔ ((m.setNode p _).node q).state = .due
    rw [hdue, hstate]
    split_ifs with hq
    · simp [hq]
    · simp [hq, hv.due_iff]

/-- **Cancelling keeps a valid manager valid.** -/
lemma cancel_valid {m : TimerManager P} (hv : m.Valid) (p : P) : (timerCancel m p).Valid := by
  rw [timerCancel_eq, timerUnlink]
  split_ifs with h1 h2
  · obtain ⟨hlt, hhp⟩ := hv.indexed.heap_heapIndex h1
    have hpd : p ∉ m.due := by rw [hv.due_iff, h1]; decide
    have hr := removeAt_valid hv hlt .idle (by decide) m.due
      (fun q => by
        rw [hhp]
        by_cases hq : q = p
        · subst hq; simp [hpd]
        · simp [hq]) hv.due_nodup
    have hdue := (timerRemoveAt_shuffled m (m.node p).heapIndex).due
    rw [hhp] at hr
    convert hr using 1
    rw [TimerManager.setNode, hdue]
  · refine setNode_valid hv h1 { m.node p with state := .idle } (by simp) (m.due.erase p)
      (fun q => ?_) (hv.due_nodup.erase p)
    simp [hv.due_nodup.mem_erase_iff]
  · refine setNode_valid hv h1 { m.node p with state := .idle } (by simp) m.due (fun q => ?_)
      hv.due_nodup
    by_cases hq : q = p
    · subst hq; simp [hv.due_iff, h2]
    · simp [hq]

/-- Registering a node that is not in use. -/
lemma nodeInit_valid {m : TimerManager P} (hv : m.Valid) {p : P} (h : (m.node p).state = .idle)
    (capacity : ℕ) : (timerNodeInit { m with capacity } p).Valid := by
  have hv' : ({ m with capacity } : TimerManager P).Valid :=
    ⟨⟨hv.indexed.slot, hv.indexed.back⟩, hv.ordered, hv.due_iff, hv.due_nodup⟩
  refine setNode_valid hv' (by simp [h]) _ (by decide) m.due (fun q => ?_) hv.due_nodup
  by_cases hq : q = p
  · subst hq; simp [hv.due_iff, h]
  · simp [hq]

/-- `kcpmux_engine_unregister_timer_node` cancels a node and clears its owner. -/
def timerUnregister (m : TimerManager P) (p : P) : TimerManager P :=
  (timerCancel m p).setNode p { (timerCancel m p).node p with owner := false }

lemma unregister_valid {m : TimerManager P} (hv : m.Valid) (p : P) : (timerUnregister m p).Valid := by
  have hc := cancel_valid hv p
  have hs := timerCancel_self_state m p
  refine setNode_valid hc (by simp) _ (by simp) (timerCancel m p).due (fun q => ?_) hc.due_nodup
  by_cases hq : q = p
  · subst hq; simp [hc.due_iff]
  · simp [hq]

lemma timerUnregister_other (m : TimerManager P) {p q : P} (hq : q ≠ p) :
    SameBut (m.node q) ((timerUnregister m p).node q) := by
  rw [timerUnregister, setNode_node_of_ne _ hq]
  exact timerCancel_other m hq

@[simp] lemma timerUnregister_self (m : TimerManager P) (p : P) :
    ((timerUnregister m p).node p).owner = false ∧
      ((timerUnregister m p).node p).state = .idle := by
  simp [timerUnregister]

omit [DecidableEq P] in
/-- A set that has all heap nodes is at least as large as the heap. -/
lemma TimerManager.Valid.size_le_card {m : TimerManager P} (hv : m.Valid) (S : Finset P)
    (h : ∀ q, m.InHeap q → q ∈ S) : m.size ≤ S.card := by
  rw [← Finset.card_range m.size]
  refine Finset.card_le_card_of_injOn m.heap (fun i hi => ?_) fun i hi j hj he => ?_
  · exact h _ (hv.indexed.slot i (Finset.mem_range.mp hi)).2
  · exact hv.indexed.inj (Finset.mem_range.mp hi) (Finset.mem_range.mp hj) he

/-- One round of the collection: the root goes to the end of the due list. -/
def timerCollectOne (m : TimerManager P) : TimerManager P :=
  { (timerRemoveAt m 0).setNode (m.heap 0)
      { (timerRemoveAt m 0).node (m.heap 0) with state := .due } with
    due := m.due ++ [m.heap 0] }

lemma timerCollectDueLoop_succ (nowMs : ℤ) (rounds : ℕ) (m : TimerManager P) :
    timerCollectDueLoop nowMs (rounds + 1) m =
      if 0 < m.size ∧ (m.node (m.heap 0)).deadlineMs ≤ nowMs then
        timerCollectDueLoop nowMs rounds (timerCollectOne m)
      else m := by
  have hdue := (timerRemoveAt_shuffled m 0).due
  rw [timerCollectDueLoop, timerPeek]
  by_cases h0 : m.size = 0
  · simp [h0]
  · simp only [h0, if_false, Nat.pos_of_ne_zero h0, true_and]
    by_cases hd : (m.node (m.heap 0)).deadlineMs ≤ nowMs
    · rw [if_neg (not_lt.mpr hd), if_pos hd, timerCollectOne]
      simp only [TimerManager.setNode, hdue]
    · rw [if_pos (not_le.mp hd), if_neg hd]

lemma collectOne_valid {m : TimerManager P} (hv : m.Valid) (h : 0 < m.size) :
    (timerCollectOne m).Valid := by
  have hpd : m.heap 0 ∉ m.due := by
    rw [hv.due_iff, (hv.indexed.slot 0 h).2]; decide
  refine removeAt_valid hv h .due (by decide) _ (fun q => ?_) ?_
  · by_cases hq : q = m.heap 0
    · simp [hq]
    · simp [hq]
  · refine List.nodup_append.mpr ⟨hv.due_nodup, List.nodup_singleton _, ?_⟩
    intro a ha b hb he
    rw [List.mem_singleton] at hb
    exact hpd (hb ▸ he ▸ ha)

/-- **A collection keeps a valid manager valid.** -/
lemma collectDue_valid {m : TimerManager P} (hv : m.Valid) (nowMs : ℤ) :
    (timerCollectDue m nowMs).Valid := by
  have key : ∀ (rounds : ℕ) (m : TimerManager P), m.Valid →
      (timerCollectDueLoop nowMs rounds m).Valid := by
    intro rounds
    induction rounds with
    | zero => exact fun m hv => hv
    | succ rounds ih =>
        intro m hv
        rw [timerCollectDueLoop_succ]
        split_ifs with h
        · exact ih _ (collectOne_valid hv h.1)
        · exact hv
  exact key m.size m hv

omit [DecidableEq P] in
/-- A manager without scheduled nodes. -/
lemma init_valid [Inhabited P] {node : P → TimerNode} (h : ∀ q, (node q).state = .idle) :
    ({ timerManagerInit P with node := node } : TimerManager P).Valid where
  indexed :=
    ⟨fun i hi => absurd hi (Nat.not_lt_zero i), fun q hq => by
      have : (node q).state = .heap := hq
      rw [h q] at this
      cases this⟩
  ordered := fun i _ hi => absurd hi (Nat.not_lt_zero i)
  due_iff := fun q => by simp [timerManagerInit, h q]
  due_nodup := List.nodup_nil

/-- What a collection makes of a node: it stays as it is, or was due and is taken out of the
heap. -/
structure Collected (nowMs : ℤ) (n n' : TimerNode) : Prop where
  owner : n'.owner = n.owner
  deadlineMs : n'.deadlineMs = n.deadlineMs
  state : n'.state = n.state ∨ (n.state = .heap ∧ n.deadlineMs ≤ nowMs ∧ n'.state = .due)

lemma Collected.trans {nowMs : ℤ} {a b c : TimerNode} (h : Collected nowMs a b)
    (h' : Collected nowMs b c) : Collected nowMs a c := by
  refine ⟨h'.owner.trans h.owner, h'.deadlineMs.trans h.deadlineMs, ?_⟩
  rcases h.state with hs | ⟨hs, hd, hb⟩
  · rw [← hs, ← h.deadlineMs]
    exact h'.state
  · rcases h'.state with hs' | ⟨hs', -, -⟩
    · exact Or.inr ⟨hs, hd, hs'.trans hb⟩
    · rw [hb] at hs'
      cases hs'

lemma collectOne_node {m : TimerManager P} (hv : m.Valid) (h : 0 < m.size) {nowMs : ℤ}
    (hd : (m.node (m.heap 0)).deadlineMs ≤ nowMs) (q : P) :
    Collected nowMs (m.node q) ((timerCollectOne m).node q) := by
  have hsame := (timerRemoveAt_shuffled m 0).node q
  by_cases hq : q = m.heap 0
  · subst hq
    have hnode : (timerCollectOne m).node (m.heap 0) =
        { (timerRemoveAt m 0).node (m.heap 0) with state := .due } := by
      simp [timerCollectOne, TimerManager.setNode]
    rw [hnode]
    exact ⟨hsame.owner, hsame.deadlineMs, Or.inr ⟨(hv.indexed.slot 0 h).2, hd, rfl⟩⟩
  · have hnode : (timerCollectOne m).node q = (timerRemoveAt m 0).node q := by
      simp [timerCollectOne, TimerManager.setNode, hq]
    rw [hnode]
    exact ⟨hsame.owner, hsame.deadlineMs, Or.inl hsame.state⟩

lemma timerCollectDue_capacity (m : TimerManager P) (nowMs : ℤ) :
    (timerCollectDue m nowMs).capacity = m.capacity := by
  have key : ∀ (rounds : ℕ) (m : TimerManager P),
      (timerCollectDueLoop nowMs rounds m).capacity = m.capacity := by
    intro rounds
    induction rounds with
    | zero => exact fun m => rfl
    | succ rounds ih =>
        intro m
        rw [timerCollectDueLoop_succ]
        split_ifs
        · exact (ih _).trans (timerRemoveAt_shuffled m 0).capacity
        · rfl
  exact key m.size m

/-- **A collection, node by node.** -/
lemma collectDue_node {m : TimerManager P} (hv : m.Valid) (nowMs : ℤ) (q : P) :
    Collected nowMs (m.node q) ((timerCollectDue m nowMs).node q) := by
  have key : ∀ (rounds : ℕ) (m : TimerManager P), m.Valid →
      Collected nowMs (m.node q) ((timerCollectDueLoop nowMs rounds m).node q) := by
    intro rounds
    induction rounds with
    | zero => exact fun m _ => ⟨rfl, rfl, Or.inl rfl⟩
    | succ rounds ih =>
        intro m hv
        rw [timerCollectDueLoop_succ]
        split_ifs with h
        · exact (collectOne_node hv h.1 h.2 q).trans (ih _ (collectOne_valid hv h.1))
        · exact ⟨rfl, rfl, Or.inl rfl⟩
  exact key m.size m hv

/-- The keys of the nodes are untouched by a round of a collection. -/
lemma collectOne_key (m : TimerManager P) (q : P) :
    ((timerCollectOne m).node q).key = (m.node q).key := by
  have hsame := (timerRemoveAt_shuffled m 0).node q
  by_cases hq : q = m.heap 0
  · subst hq
    simp only [timerCollectOne, setNode_node_self]
    exact hsame.key
  · simp only [timerCollectOne]
    rw [setNode_node_of_ne _ hq]
    exact hsame.key

/-- `l` lists the nodes of the heap that are due, in ascending order. -/
structure DueNodes (m : TimerManager P) (nowMs : ℤ) (l : List P) : Prop where
  sorted : l.Pairwise fun a b => (m.node a).key ≤ (m.node b).key
  mem : ∀ q, q ∈ l ↔ m.InHeap q ∧ (m.node q).deadlineMs ≤ nowMs

/-- The root is collected first. -/
lemma DueNodes.cons {m : TimerManager P} {nowMs : ℤ} {l : List P} (hv : m.Valid) (h0 : 0 < m.size)
    (hd : (m.node (m.heap 0)).deadlineMs ≤ nowMs) (h : DueNodes (timerCollectOne m) nowMs l) :
    DueNodes m nowMs (m.heap 0 :: l) := by
  have hin : ∀ q, (timerCollectOne m).InHeap q ↔ q ≠ m.heap 0 ∧ m.InHeap q := by
    intro q
    rw [TimerManager.InHeap, TimerManager.InHeap, ← ((timerRemoveAt_shuffled m 0).node q).state]
    by_cases hq : q = m.heap 0
    · subst hq
      simp [timerCollectOne]
    · simp [timerCollectOne, setNode_node_of_ne _ hq, hq]
  have hdl : ∀ q, ((timerCollectOne m).node q).deadlineMs = (m.node q).deadlineMs := fun q =>
    (collectOne_node hv h0 hd q).deadlineMs
  refine ⟨List.pairwise_cons.mpr ⟨fun q hq => ?_, by simpa only [collectOne_key] using h.sorted⟩,
    fun q => ?_⟩
  · obtain ⟨i, hi, rfl⟩ := hv.indexed.back q ((hin q).mp ((h.mem q).mp hq).1).2
    exact hv.ordered.root_le i hi
  · rw [List.mem_cons, h.mem, hin, hdl]
    by_cases hq : q = m.heap 0
    · subst hq
      simp [(hv.indexed.slot 0 h0).2, hd]
    · simp [hq]

/-- **The order of a collection**: the due nodes go to the end of the due list, in ascending
order. -/
lemma collectDue_sorted {m : TimerManager P} (hv : m.Valid) (nowMs : ℤ) :
    ∃ l, (timerCollectDue m nowMs).due = m.due ++ l ∧ DueNodes m nowMs l := by
  have hempty : ∀ m : TimerManager P, (∀ q, m.InHeap q → nowMs < (m.node q).deadlineMs) →
      DueNodes m nowMs [] := fun m h => ⟨.nil, fun q => by
    simpa using fun hq => h q hq⟩
  -- the rounds bound the slots that are left
  have key : ∀ (rounds : ℕ) (m : TimerManager P), m.Valid → m.size ≤ rounds →
      ∃ l, (timerCollectDueLoop nowMs rounds m).due = m.due ++ l ∧ DueNodes m nowMs l := by
    intro rounds
    induction rounds with
    | zero =>
        intro m hv hsize
        refine ⟨[], by simp [timerCollectDueLoop], hempty m fun q hq => ?_⟩
        obtain ⟨i, hi, -⟩ := hv.indexed.back q hq
        omega
    | succ rounds ih =>
        intro m hv hsize
        rw [timerCollectDueLoop_succ]
        split_ifs with h
        · have hless : (timerCollectOne m).size ≤ rounds := by
            have hsz := (timerRemoveAt_shuffled m 0).size
            simp only at hsz
            show (timerRemoveAt m 0).size ≤ rounds
            omega
          obtain ⟨l, hdue, hl⟩ := ih _ (collectOne_valid hv h.1) hless
          exact ⟨m.heap 0 :: l, by rw [hdue]; simp [timerCollectOne], hl.cons hv h.1 h.2⟩
        · -- the root is in the future, and so is every node after it
          refine ⟨[], by simp, hempty m fun q hq => ?_⟩
          obtain ⟨i, hi, rfl⟩ := hv.indexed.back q hq
          have hroot : nowMs < (m.node (m.heap 0)).deadlineMs :=
            not_le.mp fun hd => h ⟨by omega, hd⟩
          rcases Prod.Lex.le_iff.mp (hv.ordered.root_le i hi) with hlt | heq
          · exact hroot.trans hlt
          · exact hroot.trans_eq heq.1
  exact key m.size m hv le_rfl

end KcpMux
