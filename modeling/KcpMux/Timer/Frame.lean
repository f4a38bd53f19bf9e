import KcpMux.Timer.Manager

/-!
What the timer operations leave alone.

A sift only permutes the slots: every node keeps its deadline, its sequence number,
its state and its owner, and changes at most its recorded slot.  `Shuffled` is this
relation, and every operation is a shuffle apart from the one node it is about
(`timerSchedule_other`, `timerCancel_other`).  None of this needs the heap to be in
order.
-/

namespace KcpMux

namespace TimerNode

/-- Two nodes that differ at most in the recorded slot. -/
def SameBut (n n' : TimerNode) : Prop :=
  n' = { n with heapIndex := n'.heapIndex }

lemma SameBut.refl (n : TimerNode) : SameBut n n := rfl

lemma SameBut.trans {a b c : TimerNode} (h : SameBut a b) (h' : SameBut b c) : SameBut a c := by
  cases a; cases b; cases c
  simp_all [SameBut]

lemma SameBut.deadlineMs {n n' : TimerNode} (h : SameBut n n') : n'.deadlineMs = n.deadlineMs := by
  rw [h]

lemma SameBut.insertionSequence {n n' : TimerNode} (h : SameBut n n') :
    n'.insertionSequence = n.insertionSequence := by
  rw [h]

lemma SameBut.owner {n n' : TimerNode} (h : SameBut n n') : n'.owner = n.owner := by
  rw [h]

lemma SameBut.state {n n' : TimerNode} (h : SameBut n n') : n'.state = n.state := by
  rw [h]

end TimerNode

open TimerNode

variable {P : Type}

/-- The managers differ at most in the arrangement of the heap. -/
structure Shuffled (m m' : TimerManager P) : Prop where
  size : m'.size = m.size
  capacity : m'.capacity = m.capacity
  nextSequence : m'.nextSequence = m.nextSequence
  due : m'.due = m.due
  node : ∀ q, SameBut (m.node q) (m'.node q)

namespace Shuffled

lemma refl (m : TimerManager P) : Shuffled m m :=
  ⟨rfl, rfl, rfl, rfl, fun _ => SameBut.refl _⟩

lemma trans {a b c : TimerManager P} (h : Shuffled a b) (h' : Shuffled b c) : Shuffled a c :=
  ⟨h'.size.trans h.size, h'.capacity.trans h.capacity, h'.nextSequence.trans h.nextSequence,
    h'.due.trans h.due, fun q => (h.node q).trans (h'.node q)⟩

end Shuffled

variable [DecidableEq P]

lemma timerSet_shuffled (m : TimerManager P) (i : ℕ) (p : P) : Shuffled m (timerSet m i p) := by
  refine ⟨rfl, rfl, rfl, rfl, fun q => ?_⟩
  by_cases h : q = p
  · subst h; simp [timerSet, SameBut]
  · simp [timerSet, SameBut, h]

lemma timerSiftUpLoop_shuffled (p : P) : ∀ (rounds : ℕ) (m : TimerManager P) (i : ℕ),
    Shuffled m (timerSiftUpLoop p rounds m i).1
  | 0, m, i => timerSet_shuffled m i p
  | rounds + 1, m, i => by
      rw [timerSiftUpLoop]
      split_ifs
      · exact (timerSet_shuffled m i _).trans (timerSiftUpLoop_shuffled p rounds _ _)
      · exact timerSet_shuffled m i p
      · exact timerSet_shuffled m i p

lemma timerSiftUp_shuffled (m : TimerManager P) (i : ℕ) : Shuffled m (timerSiftUp m i).1 :=
  timerSiftUpLoop_shuffled _ _ _ _

lemma timerSiftDownLoop_shuffled (p : P) : ∀ (rounds : ℕ) (m : TimerManager P) (i : ℕ),
    Shuffled m (timerSiftDownLoop p rounds m i)
  | 0, m, i => timerSet_shuffled m i p
  | rounds + 1, m, i => by
      rw [timerSiftDownLoop]
      split_ifs
      · exact timerSet_shuffled m i p
      · exact (timerSet_shuffled m i _).trans (timerSiftDownLoop_shuffled p rounds _ _)
      · exact timerSet_shuffled m i p

lemma timerSiftDown_shuffled (m : TimerManager P) (i : ℕ) : Shuffled m (timerSiftDown m i) :=
  timerSiftDownLoop_shuffled _ _ _ _

/-- The two sifts that repair a slot are one shuffle. -/
lemma timerSift_shuffled (m : TimerManager P) (i : ℕ) :
    Shuffled m (timerSiftDown (timerSiftUp m i).1 (timerSiftUp m i).2) :=
  (timerSiftUp_shuffled m i).trans (timerSiftDown_shuffled _ _)

lemma setNode_shuffled (m : TimerManager P) (p : P) (i : ℕ) :
    Shuffled m (m.setNode p { m.node p with heapIndex := i }) := by
  refine ⟨rfl, rfl, rfl, rfl, fun q => ?_⟩
  by_cases h : q = p
  · subst h; simp [TimerManager.setNode, SameBut]
  · simp [TimerManager.setNode, SameBut, h]

/-- A removal shrinks the heap by one slot and is a shuffle otherwise. -/
lemma timerRemoveAt_shuffled (m : TimerManager P) (i : ℕ) :
    Shuffled { m with size := m.size - 1 } (timerRemoveAt m i) := by
  simp only [timerRemoveAt]
  refine Shuffled.trans ?_ (setNode_shuffled _ _ _)
  split_ifs
  · exact (timerSet_shuffled _ _ _).trans (timerSift_shuffled _ _)
  · exact Shuffled.refl _

@[simp] lemma setNode_node_self (m : TimerManager P) (p : P) (n : TimerNode) :
    (m.setNode p n).node p = n := by
  simp [TimerManager.setNode]

lemma setNode_node_of_ne (m : TimerManager P) {p q : P} (h : q ≠ p) (n : TimerNode) :
    (m.setNode p n).node q = m.node q := by
  simp [TimerManager.setNode, h]

omit [DecidableEq P] in
/-- A reservation changes the capacity only, and nothing when it fails. -/
lemma timerManagerReserve_frame (m : TimerManager P) (n : ℕ) (realloc : Bool) :
    (∃ capacity, (timerManagerReserve m n realloc).2 = { m with capacity := capacity }) ∧
      ((timerManagerReserve m n realloc).1 ≠ errOk → (timerManagerReserve m n realloc).2 = m) := by
  by_cases h : n ≤ m.capacity
  · rw [timerManagerReserve, if_pos h]
    exact ⟨⟨m.capacity, rfl⟩, fun _ => rfl⟩
  · rw [timerManagerReserve, if_neg h]
    dsimp only
    generalize timerGrow n 64 (if m.capacity = 0 then 8 else m.capacity) = new
    split
    · exact ⟨⟨m.capacity, rfl⟩, fun _ => rfl⟩
    · cases realloc
      · exact ⟨⟨m.capacity, rfl⟩, fun _ => rfl⟩
      · exact ⟨⟨_, rfl⟩, fun h => absurd rfl h⟩

/-! ### Scheduling -/

/-- The manager `timerSchedule` leaves when the node enters the heap, before the sift. -/
def timerEnter (m : TimerManager P) (p : P) (d : ℤ) (capacity : ℕ) : TimerManager P where
  heap := Function.update m.heap m.size p
  size := m.size + 1
  capacity := capacity
  nextSequence := (m.nextSequence + 1) % 2 ^ 64
  node := Function.update m.node p
    ⟨m.size, d, m.nextSequence, (m.node p).owner, .heap⟩
  due := if (m.node p).state = .due then m.due.erase p else m.due

lemma timerEnter_node_of_ne (m : TimerManager P) {p q : P} (d : ℤ) (capacity : ℕ) (hq : q ≠ p) :
    (timerEnter m p d capacity).node q = m.node q := by
  simp [timerEnter, hq]

/-- A node in the heap is moved in place. -/
lemma timerSchedule_move (m : TimerManager P) {p : P} (d : ℤ) (realloc : Bool)
    (h : (m.node p).state = .heap) :
    timerSchedule m p d realloc =
      (errOk, timerSiftDown
        (timerSiftUp (m.setNode p { m.node p with deadlineMs := d }) (m.node p).heapIndex).1
        (timerSiftUp (m.setNode p { m.node p with deadlineMs := d }) (m.node p).heapIndex).2) := by
  rw [timerSchedule, if_pos h]
  simp

/-- A node outside the heap enters it, or nothing happens for want of memory. -/
lemma timerSchedule_enter (m : TimerManager P) {p : P} (d : ℤ) (realloc : Bool)
    (h : (m.node p).state ≠ .heap) :
    (∃ capacity, timerSchedule m p d realloc =
        (errOk, (timerSiftUp (timerEnter m p d capacity) m.size).1)) ∨
      ((timerSchedule m p d realloc).1 ≠ errOk ∧ (timerSchedule m p d realloc).2 = m) := by
  obtain ⟨⟨capacity, hcap⟩, hfail⟩ := timerManagerReserve_frame m (m.size + 1) realloc
  by_cases hr : (timerManagerReserve m (m.size + 1) realloc).1 = errOk
  · left
    refine ⟨capacity, ?_⟩
    rw [timerSchedule, if_neg h]
    dsimp only
    rw [if_neg (not_not.mpr hr), hcap]
    by_cases hd : (m.node p).state = .due
    · simp [timerEnter, timerSet, TimerManager.setNode, hd]
    · simp [timerEnter, timerSet, TimerManager.setNode, hd]
  · right
    rw [timerSchedule, if_neg h]
    dsimp only
    rw [if_pos hr]
    exact ⟨hr, hfail hr⟩

/-- Scheduling one node leaves every other node alone. -/
lemma timerSchedule_other (m : TimerManager P) {p q : P} (hq : q ≠ p) (d : ℤ) (realloc : Bool) :
    SameBut (m.node q) ((timerSchedule m p d realloc).2.node q) := by
  by_cases h : (m.node p).state = .heap
  · rw [timerSchedule_move m d realloc h]
    have hs := (timerSift_shuffled (m.setNode p { m.node p with deadlineMs := d })
      (m.node p).heapIndex).node q
    rwa [setNode_node_of_ne m hq] at hs
  · rcases timerSchedule_enter m d realloc h with ⟨capacity, he⟩ | ⟨_, he⟩
    · rw [he]
      have hs := (timerSiftUp_shuffled (timerEnter m p d capacity) m.size).node q
      rwa [timerEnter_node_of_ne m d capacity hq] at hs
    · rw [he]; exact SameBut.refl _

/-- **A scheduled node is in the heap at its deadline.** -/
lemma timerSchedule_self (m : TimerManager P) (p : P) (d : ℤ) (realloc : Bool)
    (hok : (timerSchedule m p d realloc).1 = errOk) :
    ((timerSchedule m p d realloc).2.node p).state = .heap ∧
      ((timerSchedule m p d realloc).2.node p).deadlineMs = d := by
  by_cases h : (m.node p).state = .heap
  · rw [timerSchedule_move m d realloc h]
    have hs := (timerSift_shuffled (m.setNode p { m.node p with deadlineMs := d })
      (m.node p).heapIndex).node p
    rw [setNode_node_self] at hs
    exact ⟨hs.state.trans h, hs.deadlineMs⟩
  · rcases timerSchedule_enter m d realloc h with ⟨capacity, he⟩ | ⟨hne, _⟩
    · rw [he]
      have hs := (timerSiftUp_shuffled (timerEnter m p d capacity) m.size).node p
      have hn : (timerEnter m p d capacity).node p =
          ⟨m.size, d, m.nextSequence, (m.node p).owner, .heap⟩ := by simp [timerEnter]
      rw [hn] at hs
      exact ⟨hs.state, hs.deadlineMs⟩
    · exact absurd hok hne

/-- Scheduling never changes an owner. -/
lemma timerSchedule_owner (m : TimerManager P) (p q : P) (d : ℤ) (realloc : Bool) :
    ((timerSchedule m p d realloc).2.node q).owner = (m.node q).owner := by
  by_cases hq : q = p
  · subst hq
    by_cases h : (m.node q).state = .heap
    · rw [timerSchedule_move m d realloc h]
      have hs := (timerSift_shuffled (m.setNode q { m.node q with deadlineMs := d })
        (m.node q).heapIndex).node q
      rw [setNode_node_self] at hs
      exact hs.owner
    · rcases timerSchedule_enter m d realloc h with ⟨capacity, he⟩ | ⟨_, he⟩
      · rw [he]
        have hs := (timerSiftUp_shuffled (timerEnter m q d capacity) m.size).node q
        have hn : (timerEnter m q d capacity).node q =
            ⟨m.size, d, m.nextSequence, (m.node q).owner, .heap⟩ := by simp [timerEnter]
        rw [hn] at hs
        exact hs.owner
      · rw [he]
  · exact (timerSchedule_other m hq d realloc).owner

/-- A failed schedule changes nothing. -/
lemma timerSchedule_fail (m : TimerManager P) (p : P) (d : ℤ) (realloc : Bool)
    (hne : (timerSchedule m p d realloc).1 ≠ errOk) : (timerSchedule m p d realloc).2 = m := by
  by_cases h : (m.node p).state = .heap
  · rw [timerSchedule_move m d realloc h] at hne
    exact absurd rfl hne
  · rcases timerSchedule_enter m d realloc h with ⟨capacity, he⟩ | ⟨_, he⟩
    · rw [he] at hne; exact absurd rfl hne
    · exact he

/-- **With room in the heap scheduling succeeds**, and needs no memory. -/
lemma timerSchedule_ok (m : TimerManager P) (p : P) (d : ℤ) (realloc : Bool)
    (h : (m.node p).state = .heap ∨ m.size < m.capacity) :
    (timerSchedule m p d realloc).1 = errOk ∧
      (timerSchedule m p d realloc).2.capacity = m.capacity := by
  by_cases hp : (m.node p).state = .heap
  · rw [timerSchedule_move m d realloc hp]
    exact ⟨rfl, (timerSift_shuffled _ _).capacity⟩
  · have hcap : m.size + 1 ≤ m.capacity := h.resolve_left hp
    have hr : timerManagerReserve m (m.size + 1) realloc = (errOk, m) := by
      rw [timerManagerReserve, if_pos hcap]
    rw [timerSchedule, if_neg hp, hr]
    dsimp only
    rw [if_neg (not_not.mpr rfl)]
    refine ⟨rfl, (timerSiftUp_shuffled _ _).capacity.trans ?_⟩
    split_ifs <;> rfl

/-- Scheduling takes the node off the due list. -/
lemma timerSchedule_due (m : TimerManager P) (p : P) (d : ℤ) (realloc : Bool)
    (hok : (timerSchedule m p d realloc).1 = errOk) :
    (timerSchedule m p d realloc).2.due =
      if (m.node p).state = .due then m.due.erase p else m.due := by
  by_cases h : (m.node p).state = .heap
  · rw [timerSchedule_move m d realloc h]
    have hs := (timerSift_shuffled (m.setNode p { m.node p with deadlineMs := d })
      (m.node p).heapIndex).due
    rw [hs, if_neg (by rw [h]; decide)]
    rfl
  · rcases timerSchedule_enter m d realloc h with ⟨capacity, he⟩ | ⟨hne, _⟩
    · rw [he]
      exact (timerSiftUp_shuffled (timerEnter m p d capacity) m.size).due
    · exact absurd hok hne

/-! ### Cancelling -/

/-- The manager `timerCancel` leaves before the node is marked idle. -/
def timerUnlink (m : TimerManager P) (p : P) : TimerManager P :=
  if (m.node p).state = .heap then timerRemoveAt m (m.node p).heapIndex
  else if (m.node p).state = .due then { m with due := m.due.erase p }
  else m

lemma timerCancel_eq (m : TimerManager P) (p : P) :
    timerCancel m p =
      (timerUnlink m p).setNode p { (timerUnlink m p).node p with state := .idle } := rfl

lemma timerUnlink_node (m : TimerManager P) (p q : P) :
    SameBut (m.node q) ((timerUnlink m p).node q) := by
  rw [timerUnlink]
  split_ifs
  · exact (timerRemoveAt_shuffled m _).node q
  · exact SameBut.refl _
  · exact SameBut.refl _

/-- Cancelling one node leaves every other node alone. -/
lemma timerCancel_other (m : TimerManager P) {p q : P} (hq : q ≠ p) :
    SameBut (m.node q) ((timerCancel m p).node q) := by
  rw [timerCancel_eq, setNode_node_of_ne _ hq]
  exact timerUnlink_node m p q

/-- **A cancelled node is idle.** -/
@[simp] lemma timerCancel_self_state (m : TimerManager P) (p : P) :
    ((timerCancel m p).node p).state = .idle := by
  rw [timerCancel_eq, setNode_node_self]

/-- Cancelling never changes an owner. -/
lemma timerCancel_owner (m : TimerManager P) (p q : P) :
    ((timerCancel m p).node q).owner = (m.node q).owner := by
  by_cases hq : q = p
  · subst hq
    rw [timerCancel_eq, setNode_node_self]
    exact (timerUnlink_node m q q).owner
  · exact (timerCancel_other m hq).owner

lemma timerCancel_nextSequence (m : TimerManager P) (p : P) :
    (timerCancel m p).nextSequence = m.nextSequence := by
  rw [timerCancel_eq]
  show (timerUnlink m p).nextSequence = _
  rw [timerUnlink]
  split_ifs
  · exact (timerRemoveAt_shuffled m _).nextSequence
  · rfl
  · rfl

lemma timerCancel_capacity (m : TimerManager P) (p : P) :
    (timerCancel m p).capacity = m.capacity := by
  rw [timerCancel_eq]
  show (timerUnlink m p).capacity = _
  rw [timerUnlink]
  split_ifs
  · exact (timerRemoveAt_shuffled m _).capacity
  · rfl
  · rfl

/-- Cancelling takes the node off the due list. -/
lemma timerCancel_due (m : TimerManager P) (p : P) :
    (timerCancel m p).due = if (m.node p).state = .due then m.due.erase p else m.due := by
  rw [timerCancel_eq]
  show (timerUnlink m p).due = _
  rw [timerUnlink]
  split_ifs with h1 h2
  · rw [h1] at h2; cases h2
  · exact (timerRemoveAt_shuffled m _).due
  · rfl
  · rfl

end KcpMux
