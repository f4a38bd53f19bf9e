import Mathlib.Data.List.Sort
import KcpMux.Timer.Heap

/-!
The timer heap refines an ordered set.

`OrderedTimers` is what the scheduler is for: the scheduled nodes as one list in
ascending `(deadline, sequence)` order, from which the due nodes are cut off in front.
`Refines` relates a manager to it, every operation keeps the relation
(`schedule_refines`, `cancel_refines`, `collectDue_refines`), and
`timer_refines_orderedTimers` reads off what this means for the heap after any
sequence of operations.
-/

namespace KcpMux

open HeapOrder TimerNode TimerManager

variable {P : Type}

/-- A scheduled node. -/
structure Entry (P : Type) where
  deadline : ℤ
  sequence : ℕ
  node : P
  deriving DecidableEq

/-- The order of the entries. -/
def Entry.key (x : Entry P) : ℤ ×ₗ ℕ := toLex (x.deadline, x.sequence)

/-- The reference: the scheduled nodes in ascending order, the next sequence number, and
the nodes collected and not yet run. -/
structure OrderedTimers (P : Type) where
  entries : List (Entry P)
  next : ℕ
  due : List P

namespace OrderedTimers

/-- Nothing is scheduled. -/
def empty : OrderedTimers P := ⟨[], 0, []⟩

/-- An entry goes to its place in the order. -/
def insert (x : Entry P) (l : List (Entry P)) : List (Entry P) :=
  l.orderedInsert (fun a b => a.key ≤ b.key) x

variable [DecidableEq P]

/-- A scheduled node moves and keeps its sequence number; any other node takes the next
one and leaves the due list. -/
def schedule (r : OrderedTimers P) (p : P) (d : ℤ) : OrderedTimers P :=
  match r.entries.find? (·.node = p) with
  | some x => { r with entries := insert ⟨d, x.sequence, p⟩ (r.entries.filter (·.node ≠ p)) }
  | none => ⟨insert ⟨d, r.next, p⟩ r.entries, r.next + 1, r.due.erase p⟩

/-- A cancelled node is neither scheduled nor due. -/
def cancel (r : OrderedTimers P) (p : P) : OrderedTimers P :=
  { r with entries := r.entries.filter (·.node ≠ p), due := r.due.erase p }

/-- The entries up to `now` go to the due list, in order. -/
def collectDue (r : OrderedTimers P) (now : ℤ) : OrderedTimers P :=
  { r with
    entries := r.entries.filter (now < ·.deadline)
    due := r.due ++ (r.entries.filter (·.deadline ≤ now)).map (·.node) }

end OrderedTimers

open OrderedTimers

/-- A manager and the ordered set it stands for. -/
structure Refines (m : TimerManager P) (r : OrderedTimers P) : Prop where
  valid : m.Valid
  mem : ∀ x : Entry P, x ∈ r.entries ↔ (m.node x.node).state = .heap ∧
    (m.node x.node).deadlineMs = x.deadline ∧ (m.node x.node).insertionSequence = x.sequence
  sorted : r.entries.Pairwise fun a b => a.key ≤ b.key
  nodup : r.entries.Nodup
  inj : ∀ x ∈ r.entries, ∀ y ∈ r.entries, x.sequence = y.sequence → x = y
  below : ∀ x ∈ r.entries, x.sequence < r.next
  next : m.nextSequence = r.next
  due : m.due = r.due

namespace Refines

variable {m : TimerManager P} {r : OrderedTimers P}

/-- The entry of a node in the heap. -/
lemma mem_of_inHeap (h : Refines m r) {p : P} (hp : (m.node p).state = .heap) :
    (⟨(m.node p).deadlineMs, (m.node p).insertionSequence, p⟩ : Entry P) ∈ r.entries :=
  (h.mem _).mpr ⟨hp, rfl, rfl⟩

/-- An entry has the key of its node. -/
lemma key_eq (h : Refines m r) {x : Entry P} (hx : x ∈ r.entries) : (m.node x.node).key = x.key := by
  obtain ⟨-, hd, hs⟩ := (h.mem x).mp hx
  rw [TimerNode.key, Entry.key, hd, hs]

/-- A node has one entry. -/
lemma eq_of_node_eq (h : Refines m r) {x y : Entry P} (hx : x ∈ r.entries) (hy : y ∈ r.entries)
    (he : x.node = y.node) : x = y := by
  obtain ⟨-, -, hsx⟩ := (h.mem x).mp hx
  obtain ⟨-, -, hsy⟩ := (h.mem y).mp hy
  exact h.inj x hx y hy (by rw [← hsx, ← hsy, he])

/-- Different entries have different keys. -/
lemma eq_of_key_eq (h : Refines m r) {x y : Entry P} (hx : x ∈ r.entries) (hy : y ∈ r.entries)
    (he : x.key = y.key) : x = y := by
  have hs := congrArg (fun k => (ofLex k).2) he
  exact h.inj x hx y hy hs

/-- An empty heap stands for an empty set. -/
lemma entries_eq_nil (h : Refines m r) (h0 : m.size = 0) : r.entries = [] := by
  refine List.eq_nil_iff_forall_not_mem.mpr fun x hx => ?_
  obtain ⟨i, hi, -⟩ := h.valid.indexed.back x.node ((h.mem x).mp hx).1
  omega

/-- The entries ascend strictly. -/
lemma sorted_lt (h : Refines m r) : r.entries.Pairwise fun a b => a.key < b.key := by
  refine (h.sorted.and h.nodup).imp_of_mem fun {a b} ha hb hab => ?_
  exact lt_of_le_of_ne hab.1 fun hk => hab.2 (h.eq_of_key_eq ha hb hk)

/-- **The root is the least entry.** -/
lemma heap_zero_eq (h : Refines m r) {x : Entry P} {l : List (Entry P)} (he : r.entries = x :: l) :
    0 < m.size ∧ m.heap 0 = x.node := by
  have hx : x ∈ r.entries := by rw [he]; exact List.mem_cons_self
  obtain ⟨i, hi, hix⟩ := h.valid.indexed.back x.node ((h.mem x).mp hx).1
  have h0 : 0 < m.size := by omega
  refine ⟨h0, ?_⟩
  set y : Entry P := ⟨(m.node (m.heap 0)).deadlineMs, (m.node (m.heap 0)).insertionSequence,
    m.heap 0⟩ with hy
  have hymem : y ∈ r.entries := h.mem_of_inHeap (h.valid.indexed.slot 0 h0).2
  have hle : y.key ≤ x.key := by
    have hroot := h.valid.ordered.root_le i hi
    rw [TimerManager.keys, TimerManager.keys, hix, h.key_eq hx] at hroot
    exact hroot
  have hge : x.key ≤ y.key := by
    have hs := h.sorted
    rw [he, List.pairwise_cons] at hs
    rw [he] at hymem
    rcases List.mem_cons.mp hymem with rfl | hyl
    · exact le_refl _
    · exact hs.1 y hyl
  exact congrArg Entry.node (h.eq_of_key_eq hymem hx (le_antisymm hle hge))

/-- Parents are strictly before their children. -/
lemma timerLess_parent (h : Refines m r) {i : ℕ} (h0 : 0 < i) (hi : i < m.size) :
    timerLess (m.node (m.heap ((i - 1) / 2))) (m.node (m.heap i)) = true := by
  have hlt := parent_lt h0
  have hp := h.mem_of_inHeap (h.valid.indexed.slot (parent i) (hlt.trans hi)).2
  have hc := h.mem_of_inHeap (h.valid.indexed.slot i hi).2
  rw [timerLess_iff]
  refine lt_of_le_of_ne (h.valid.ordered i h0 hi) fun hk => ?_
  have he := h.eq_of_key_eq hp hc hk
  have hnode : m.heap (parent i) = m.heap i := congrArg Entry.node he
  exact hlt.ne (h.valid.indexed.inj (hlt.trans hi) hi hnode)

/-- `timerPeek` is the least entry. -/
lemma timerPeek_eq (h : Refines m r) : timerPeek m = r.entries.head?.map (·.node) := by
  rw [timerPeek]
  cases he : r.entries with
  | nil =>
      rcases Nat.eq_zero_or_pos m.size with h0 | h0
      · simp [h0]
      · have := h.mem_of_inHeap (h.valid.indexed.slot 0 h0).2
        rw [he] at this
        exact absurd this List.not_mem_nil
  | cons x l =>
      obtain ⟨h0, hx⟩ := h.heap_zero_eq he
      simp [h0.ne', hx]

end Refines

/-! ### The operations -/

lemma mem_insert {x y : Entry P} {l : List (Entry P)} :
    y ∈ OrderedTimers.insert x l ↔ y = x ∨ y ∈ l :=
  List.mem_orderedInsert _

lemma insert_sorted (x : Entry P) {l : List (Entry P)}
    (h : l.Pairwise fun a b => a.key ≤ b.key) :
    (OrderedTimers.insert x l).Pairwise fun a b => a.key ≤ b.key := by
  have : Std.Total fun a b : Entry P => a.key ≤ b.key := ⟨fun a b => le_total a.key b.key⟩
  have : IsTrans (Entry P) fun a b => a.key ≤ b.key := ⟨fun _ _ _ h h' => h.trans h'⟩
  exact List.Pairwise.orderedInsert x l h

lemma insert_nodup {x : Entry P} {l : List (Entry P)} (hx : x ∉ l) (h : l.Nodup) :
    (OrderedTimers.insert x l).Nodup :=
  (List.perm_orderedInsert _ x l).nodup_iff.mpr (List.nodup_cons.mpr ⟨hx, h⟩)

/-- The node `p` goes to its place among the entries of the other nodes. -/
lemma Refines.insert {m m' : TimerManager P} {r : OrderedTimers P} (h : Refines m r)
    (hv : m'.Valid) {p : P} {x : Entry P} (hx : x.node = p)
    (hself : (m'.node p).state = .heap ∧ (m'.node p).deadlineMs = x.deadline ∧
      (m'.node p).insertionSequence = x.sequence)
    (hother : ∀ q, q ≠ p → SameBut (m.node q) (m'.node q)) {l : List (Entry P)}
    (hl : l.Sublist r.entries) (hmem : ∀ y, y ∈ l ↔ y ∈ r.entries ∧ y.node ≠ p)
    (hfresh : ∀ y ∈ l, y.sequence ≠ x.sequence) (hle : r.next ≤ m'.nextSequence)
    (hlt : x.sequence < m'.nextSequence) :
    Refines m' ⟨OrderedTimers.insert x l, m'.nextSequence, m'.due⟩ := by
  have hnot : x ∉ l := fun hm => ((hmem x).mp hm).2 hx
  refine ⟨hv, fun y => ?_, insert_sorted _ (h.sorted.sublist hl), insert_nodup hnot
    (h.nodup.sublist hl), fun y hy z hz hs => ?_, fun y hy => ?_, rfl, rfl⟩
  · rw [mem_insert, hmem]
    by_cases hy : y.node = p
    · rw [hy, hself.1, hself.2.1, hself.2.2]
      simp only [ne_eq, not_true_eq_false, and_false, or_false, true_and]
      refine ⟨fun he => he ▸ ⟨rfl, rfl⟩, fun ⟨hd, hs⟩ => ?_⟩
      cases x
      cases y
      cases hd
      cases hs
      cases hx
      cases hy
      rfl
    · have hne : y ≠ x := fun he => hy (by rw [he, hx])
      have ho := hother y.node hy
      rw [ho.state, ho.deadlineMs, ho.insertionSequence, ← h.mem]
      simp [hne, hy]
  · rw [mem_insert] at hy hz
    rcases hy with rfl | hy <;> rcases hz with rfl | hz
    · rfl
    · exact absurd hs.symm (hfresh z hz)
    · exact absurd hs (hfresh y hy)
    · exact h.inj y (hl.subset hy) z (hl.subset hz) hs
  · rcases mem_insert.mp hy with rfl | hy
    · exact hlt
    · exact (h.below y (hl.subset hy)).trans_le hle

variable [DecidableEq P]

section Schedule

variable {m : TimerManager P} {r : OrderedTimers P} (h : Refines m r) {p : P} (d : ℤ)
  (realloc : Bool) (hok : (timerSchedule m p d realloc).1 = errOk)

include h hok

/-- A node of the heap moves and keeps its sequence number. -/
lemma schedule_refines_move (hp : (m.node p).state = .heap) :
    Refines (timerSchedule m p d realloc).2 (r.schedule p d) := by
  obtain ⟨x, hx⟩ : ∃ x, r.entries.find? (·.node = p) = some x := by
    rw [← Option.isSome_iff_exists, List.find?_isSome]
    exact ⟨_, h.mem_of_inHeap hp, by simp⟩
  have hxm := List.mem_of_find?_eq_some hx
  have hxp : x.node = p := by simpa using List.find?_some hx
  have hseq : (m.node p).insertionSequence = x.sequence := by
    rw [← hxp]
    exact ((h.mem x).mp hxm).2.2
  have hshape := timerSchedule_move m d realloc hp
  have hsh := timerSift_shuffled (m.setNode p { m.node p with deadlineMs := d })
    (m.node p).heapIndex
  have hseq' : ((timerSchedule m p d realloc).2.node p).insertionSequence = x.sequence := by
    rw [hshape, (hsh.node p).insertionSequence, setNode_node_self]
    exact hseq
  have hnext : (timerSchedule m p d realloc).2.nextSequence = r.next := by
    rw [hshape, hsh.nextSequence]
    exact h.next
  have hdue : (timerSchedule m p d realloc).2.due = r.due := by
    rw [timerSchedule_due m p d realloc hok, if_neg (by rw [hp]; decide), h.due]
  obtain ⟨hstate, hd⟩ := timerSchedule_self m p d realloc hok
  have hins := h.insert (x := ⟨d, x.sequence, p⟩) (schedule_valid h.valid p d realloc) rfl
    ⟨hstate, hd, hseq'⟩ (fun q hq => timerSchedule_other m hq d realloc)
    (List.filter_sublist (p := (·.node ≠ p))) (by simp) (fun y hy hs => ?_) hnext.ge
    (hnext ▸ h.below x hxm)
  · rw [hnext, hdue] at hins
    rw [OrderedTimers.schedule, hx]
    exact hins
  · -- no other entry has this sequence number
    obtain ⟨hy, hyp⟩ := List.mem_filter.mp hy
    have hyx := h.inj y hy x hxm hs
    simp [hyx, hxp] at hyp

/-- A node from outside takes the next sequence number. -/
lemma schedule_refines_enter (hnext : (r.schedule p d).next < 2 ^ 64)
    (hp : (m.node p).state ≠ .heap) :
    Refines (timerSchedule m p d realloc).2 (r.schedule p d) := by
  have hpx : ∀ y ∈ r.entries, y.node ≠ p := fun y hy he => hp (he ▸ ((h.mem y).mp hy).1)
  have hnone : r.entries.find? (·.node = p) = none :=
    List.find?_eq_none.mpr fun x hx => by simpa using hpx x hx
  rw [OrderedTimers.schedule, hnone] at hnext ⊢
  obtain ⟨capacity, he⟩ :=
    (timerSchedule_enter m d realloc hp).resolve_right fun hne => hne.1 hok
  have hsh := timerSiftUp_shuffled (timerEnter m p d capacity) m.size
  have hseq : ((timerSchedule m p d realloc).2.node p).insertionSequence = r.next := by
    rw [he, (hsh.node p).insertionSequence]
    simp [timerEnter, h.next]
  have hseq' : (timerSchedule m p d realloc).2.nextSequence = r.next + 1 := by
    rw [he, hsh.nextSequence]
    show (m.nextSequence + 1) % 2 ^ 64 = r.next + 1
    rw [h.next, Nat.mod_eq_of_lt hnext]
  have hdue : (timerSchedule m p d realloc).2.due = r.due.erase p := by
    rw [timerSchedule_due m p d realloc hok, h.due]
    split_ifs with hd
    · rfl
    · rw [List.erase_of_not_mem]
      rw [← h.due, h.valid.due_iff]
      exact hd
  obtain ⟨hstate, hd⟩ := timerSchedule_self m p d realloc hok
  have hins := h.insert (x := ⟨d, r.next, p⟩) (schedule_valid h.valid p d realloc) rfl
    ⟨hstate, hd, hseq⟩ (fun q hq => timerSchedule_other m hq d realloc) (List.Sublist.refl _)
    (fun y => ⟨fun hy => ⟨hy, hpx y hy⟩, And.left⟩) (fun y hy => (h.below y hy).ne)
    (hseq' ▸ Nat.le_succ _) (hseq' ▸ Nat.lt_succ_self _)
  rw [hseq', hdue] at hins
  exact hins

end Schedule

/-- **Scheduling**: the heap follows the ordered set whenever it returns `OK`. -/
lemma schedule_refines {m : TimerManager P} {r : OrderedTimers P} (h : Refines m r)
    (p : P) (d : ℤ) (realloc : Bool) (hnext : (r.schedule p d).next < 2 ^ 64)
    (hok : (timerSchedule m p d realloc).1 = errOk) :
    Refines (timerSchedule m p d realloc).2 (r.schedule p d) := by
  by_cases hp : (m.node p).state = .heap
  · exact schedule_refines_move h d realloc hok hp
  · exact schedule_refines_enter h d realloc hok hnext hp

/-- **Cancelling**, whatever the state of the node. -/
lemma cancel_refines {m : TimerManager P} {r : OrderedTimers P} (h : Refines m r) (p : P) :
    Refines (timerCancel m p) (r.cancel p) := by
  refine ⟨cancel_valid h.valid p, fun y => ?_, h.sorted.filter _, h.nodup.filter _, ?_, ?_, ?_, ?_⟩
  · rw [OrderedTimers.cancel, List.mem_filter]
    by_cases hy : y.node = p
    · simp [hy]
    · have ho := timerCancel_other m hy
      rw [ho.state, ho.deadlineMs, ho.insertionSequence, h.mem]
      simp [hy]
  · intro x hx y hy
    exact h.inj x (List.mem_of_mem_filter hx) y (List.mem_of_mem_filter hy)
  · exact fun x hx => h.below x (List.mem_of_mem_filter hx)
  · exact (timerCancel_nextSequence m p).trans h.next
  · rw [timerCancel_due, h.due]
    split_ifs with hd
    · rfl
    · refine (List.erase_of_not_mem ?_).symm
      rwa [← h.due, h.valid.due_iff]

/-- One round of a collection takes the first entry. -/
lemma collectOne_refines {m : TimerManager P} {r : OrderedTimers P} (h : Refines m r)
    {x : Entry P} {l : List (Entry P)} (he : r.entries = x :: l) :
    Refines (timerCollectOne m) { r with entries := l, due := r.due ++ [x.node] } := by
  obtain ⟨h0, hx⟩ := h.heap_zero_eq he
  have hsub : ∀ y ∈ l, y ∈ r.entries := fun y hy => by rw [he]; exact List.mem_cons_of_mem x hy
  have hsorted := h.sorted
  have hnodup := h.nodup
  rw [he, List.pairwise_cons] at hsorted
  rw [he, List.nodup_cons] at hnodup
  have hsh := timerRemoveAt_shuffled m 0
  refine ⟨collectOne_valid h.valid h0, fun y => ?_, hsorted.2, hnodup.2, ?_, ?_, ?_, ?_⟩
  · by_cases hy : y.node = x.node
    · have hyl : y ∉ l := by
        intro hyl
        have hyx := h.eq_of_node_eq (hsub y hyl) (by rw [he]; exact List.mem_cons_self) hy
        exact hnodup.1 (hyx ▸ hyl)
      simp [timerCollectOne, hx, hy, hyl]
    · have hne : y.node ≠ m.heap 0 := by rw [hx]; exact hy
      have hn : (timerCollectOne m).node y.node = (timerRemoveAt m 0).node y.node := by
        rw [timerCollectOne]; exact setNode_node_of_ne _ hne _
      have hs := hsh.node y.node
      rw [hn, hs.state, hs.deadlineMs, hs.insertionSequence]
      refine Iff.trans ?_ (h.mem y)
      rw [he, List.mem_cons]
      constructor
      · exact Or.inr
      · rintro (rfl | hyl)
        · exact absurd rfl hy
        · exact hyl
  · exact fun y hy z hz => h.inj y (hsub y hy) z (hsub z hz)
  · exact fun y hy => h.below y (hsub y hy)
  · exact hsh.nextSequence.trans h.next
  · show m.due ++ [m.heap 0] = r.due ++ [x.node]
    rw [h.due, hx]

/-- **Collecting**: the entries up to `nowMs` leave the heap, in order. -/
lemma collectDue_refines {m : TimerManager P} {r : OrderedTimers P} (h : Refines m r) (nowMs : ℤ) :
    Refines (timerCollectDue m nowMs) (r.collectDue nowMs) := by
  -- the rounds bound the slots that are left
  have key : ∀ (rounds : ℕ) (m : TimerManager P) (r : OrderedTimers P), Refines m r →
      m.size ≤ rounds → Refines (timerCollectDueLoop nowMs rounds m) (r.collectDue nowMs) := by
    intro rounds
    induction rounds with
    | zero =>
        intro m r h hsize
        have hnil := h.entries_eq_nil (Nat.le_zero.mp hsize)
        have hr : r.collectDue nowMs = r := by
          cases r
          simp_all [OrderedTimers.collectDue]
        rw [hr]
        exact h
    | succ rounds ih =>
        intro m r h hsize
        rw [timerCollectDueLoop_succ]
        cases he : r.entries with
        | nil =>
            have hr : r.collectDue nowMs = r := by
              cases r
              simp_all [OrderedTimers.collectDue]
            have h0 : ¬ 0 < m.size := fun h0 => by
              have := h.mem_of_inHeap (h.valid.indexed.slot 0 h0).2
              rw [he] at this
              exact absurd this List.not_mem_nil
            rw [if_neg fun hc => h0 hc.1, hr]
            exact h
        | cons x l =>
            obtain ⟨h0, hx⟩ := h.heap_zero_eq he
            have hxm : x ∈ r.entries := by rw [he]; exact List.mem_cons_self
            have hdl : (m.node (m.heap 0)).deadlineMs = x.deadline := by
              rw [hx]; exact ((h.mem x).mp hxm).2.1
            rw [hdl]
            by_cases hd : x.deadline ≤ nowMs
            · rw [if_pos ⟨h0, hd⟩]
              have hr : r.collectDue nowMs =
                  OrderedTimers.collectDue { r with entries := l, due := r.due ++ [x.node] }
                    nowMs := by
                simp [OrderedTimers.collectDue, he, hd, not_lt.mpr hd]
              rw [hr]
              refine ih _ _ (collectOne_refines h he) ?_
              have := (timerRemoveAt_shuffled m 0).size
              show (timerRemoveAt m 0).size ≤ rounds
              simp only at this
              omega
            · -- the first entry is in the future, and so are the others
              rw [if_neg fun hc => hd hc.2]
              have hlate : ∀ y ∈ r.entries, nowMs < y.deadline := by
                intro y hy
                have hs := h.sorted
                rw [he, List.pairwise_cons] at hs
                rw [he] at hy
                rcases List.mem_cons.mp hy with rfl | hyl
                · exact not_le.mp hd
                · have hk := (Prod.Lex.le_iff.mp (hs.1 y hyl))
                  rcases hk with hk | hk
                  · exact (not_le.mp hd).trans hk
                  · exact (not_le.mp hd).trans_eq hk.1
              have hr : r.collectDue nowMs = r := by
                have h1 : r.entries.filter (nowMs < ·.deadline) = r.entries :=
                  List.filter_eq_self.mpr fun y hy => by simpa using hlate y hy
                have h2 : r.entries.filter (·.deadline ≤ nowMs) = [] :=
                  List.filter_eq_nil_iff.mpr fun y hy => by simpa using hlate y hy
                rw [OrderedTimers.collectDue, h1, h2]
                simp
              rw [hr]
              exact h
  exact key m.size m r h le_rfl

/-- The nodes a collection leaves in the heap are those that are not due. -/
lemma collectDue_state_iff {m : TimerManager P} {r : OrderedTimers P} (h : Refines m r)
    (nowMs : ℤ) (q : P) :
    ((timerCollectDue m nowMs).node q).state = .heap ↔
      (m.node q).state = .heap ∧ nowMs < (m.node q).deadlineMs := by
  have h' := collectDue_refines h nowMs
  constructor
  · intro hq
    have hmem := List.mem_filter.mp (h'.mem_of_inHeap hq)
    obtain ⟨hs, hd, -⟩ := (h.mem _).mp hmem.1
    refine ⟨hs, ?_⟩
    rw [hd]
    exact of_decide_eq_true hmem.2
  · rintro ⟨hs, hd⟩
    have hmem : (⟨(m.node q).deadlineMs, (m.node q).insertionSequence, q⟩ : Entry P) ∈
        (r.collectDue nowMs).entries :=
      List.mem_filter.mpr ⟨h.mem_of_inHeap hs, decide_eq_true hd⟩
    exact ((h'.mem _).mp hmem).1

/-! ### Runs -/

/-- A call on the manager; a schedule may find its reallocation refused. -/
inductive TimerCall (P : Type) where
  | schedule (p : P) (deadlineMs : ℤ) (realloc : Bool)
  | cancel (p : P)
  | collectDue (nowMs : ℤ)

/-- A call on the manager and on the reference next to it.  A schedule that returned an
error has not happened. -/
def TimerCall.step (s : TimerManager P × OrderedTimers P) :
    TimerCall P → TimerManager P × OrderedTimers P
  | .schedule p d realloc =>
      let out := timerSchedule s.1 p d realloc
      (out.2, if out.1 = errOk then s.2.schedule p d else s.2)
  | .cancel p => (timerCancel s.1 p, s.2.cancel p)
  | .collectDue nowMs => (timerCollectDue s.1 nowMs, s.2.collectDue nowMs)

/-- A fresh manager with every node initialised, next to the empty reference. -/
def timerStart (P : Type) [Inhabited P] : TimerManager P × OrderedTimers P :=
  ({ timerManagerInit P with node := fun _ => ⟨timerInvalidIndex, 0, 0, true, .idle⟩ },
    OrderedTimers.empty)

/-- A sequence of calls. -/
def timerRun [Inhabited P] (calls : List (TimerCall P)) : TimerManager P × OrderedTimers P :=
  calls.foldl TimerCall.step (timerStart P)

omit [DecidableEq P] in
lemma timerStart_refines [Inhabited P] : Refines (timerStart P).1 (timerStart P).2 where
  valid := init_valid fun _ => rfl
  mem := fun x => by simp [timerStart, OrderedTimers.empty]
  sorted := List.Pairwise.nil
  nodup := List.nodup_nil
  inj := fun x hx => absurd hx List.not_mem_nil
  below := fun x hx => absurd hx List.not_mem_nil
  next := rfl
  due := rfl

/-- A call never takes a sequence number back. -/
lemma TimerCall.next_le (s : TimerManager P × OrderedTimers P) (c : TimerCall P) :
    s.2.next ≤ (c.step s).2.next := by
  cases c with
  | schedule p d realloc =>
      simp only [TimerCall.step]
      split_ifs
      · rw [OrderedTimers.schedule]
        split
        · exact le_rfl
        · exact Nat.le_succ _
      · exact le_rfl
  | cancel p => exact le_rfl
  | collectDue nowMs => exact le_rfl

/-- **One call keeps the relation.** -/
lemma TimerCall.step_refines {s : TimerManager P × OrderedTimers P} (h : Refines s.1 s.2)
    (c : TimerCall P) (hnext : (c.step s).2.next < 2 ^ 64) :
    Refines (c.step s).1 (c.step s).2 := by
  cases c with
  | schedule p d realloc =>
      simp only [TimerCall.step] at hnext ⊢
      split_ifs at hnext ⊢ with hok
      · exact schedule_refines h p d realloc hnext hok
      · rw [timerSchedule_fail _ _ _ _ hok]
        exact h
  | cancel p => exact cancel_refines h p
  | collectDue nowMs => exact collectDue_refines h nowMs

lemma timerRun_refines [Inhabited P] (calls : List (TimerCall P))
    (hnext : (timerRun calls).2.next < 2 ^ 64) :
    Refines (timerRun calls).1 (timerRun calls).2 := by
  induction calls using List.reverseRecOn with
  | nil => exact timerStart_refines
  | append_singleton calls c ih =>
      have hstep : timerRun (calls ++ [c]) = c.step (timerRun calls) := by
        rw [timerRun, List.foldl_append]; rfl
      rw [hstep] at hnext ⊢
      exact TimerCall.step_refines (ih ((TimerCall.next_le _ c).trans_lt hnext)) c hnext

/-- **The heap refines the ordered set.**  After any calls with fewer than `2 ^ 64`
insertions every slot below `size` holds a node in state `heap` that records the slot,
parents come strictly before their children, the nodes in the heap with their deadlines
and sequence numbers are the entries of the reference, `timerPeek` is its least entry, and
a further collection removes exactly the nodes that are due and appends them in ascending
order. -/
theorem timer_refines_orderedTimers [Inhabited P] (calls : List (TimerCall P))
    (hnext : (timerRun calls).2.next < 2 ^ 64) :
    (∀ i < (timerRun calls).1.size,
      ((timerRun calls).1.node ((timerRun calls).1.heap i)).heapIndex = i ∧
        ((timerRun calls).1.node ((timerRun calls).1.heap i)).state = .heap) ∧
    (∀ i, 0 < i → i < (timerRun calls).1.size →
      timerLess ((timerRun calls).1.node ((timerRun calls).1.heap ((i - 1) / 2)))
        ((timerRun calls).1.node ((timerRun calls).1.heap i)) = true) ∧
    (∀ x : Entry P, x ∈ (timerRun calls).2.entries ↔
      ∃ i < (timerRun calls).1.size, (timerRun calls).1.heap i = x.node ∧
        ((timerRun calls).1.node x.node).deadlineMs = x.deadline ∧
        ((timerRun calls).1.node x.node).insertionSequence = x.sequence) ∧
    timerPeek (timerRun calls).1 = (timerRun calls).2.entries.head?.map (·.node) ∧
    ((timerRun calls).2.entries.Pairwise fun a b => a.key < b.key) ∧
    (timerRun calls).1.due = (timerRun calls).2.due ∧
    (∀ nowMs : ℤ,
      (timerCollectDue (timerRun calls).1 nowMs).due = (timerRun calls).1.due ++
        ((timerRun calls).2.entries.filter (·.deadline ≤ nowMs)).map (·.node) ∧
      ∀ q, ((timerCollectDue (timerRun calls).1 nowMs).node q).state = .heap ↔
        ((timerRun calls).1.node q).state = .heap ∧
          nowMs < ((timerRun calls).1.node q).deadlineMs) := by
  have h := timerRun_refines calls hnext
  generalize timerRun calls = s at h
  obtain ⟨m, r⟩ := s
  refine ⟨fun i hi => h.valid.indexed.slot i hi, fun i h0 hi => h.timerLess_parent h0 hi,
    fun x => ?_, h.timerPeek_eq, ?_, h.due, fun nowMs => ⟨?_, fun q => ?_⟩⟩
  · rw [h.mem]
    constructor
    · rintro ⟨hs, hd, hq⟩
      obtain ⟨i, hi, hix⟩ := h.valid.indexed.back x.node hs
      exact ⟨i, hi, hix, hd, hq⟩
    · rintro ⟨i, hi, hix, hd, hq⟩
      exact ⟨hix ▸ (h.valid.indexed.slot i hi).2, hd, hq⟩
  · exact h.sorted_lt
  · rw [(collectDue_refines h nowMs).due, h.due]
    rfl
  · exact collectDue_state_iff h nowMs q

/-- Two nodes, the second of them due first and moved behind the other. -/
theorem timer_refines_moved_node :
    (timerRun [.schedule false 5 true, .schedule true 3 true, .schedule true 7 true]).2.next
      < 2 ^ 64 ∧
    timerPeek (timerRun [.schedule false 5 true, .schedule true 3 true,
      .schedule true 7 true]).1 = some false := by
  refine ⟨by decide, ?_⟩
  rw [(timer_refines_orderedTimers [.schedule false 5 true, .schedule true 3 true,
    .schedule true 7 true] (by decide)).2.2.2.1]
  decide

end KcpMux
