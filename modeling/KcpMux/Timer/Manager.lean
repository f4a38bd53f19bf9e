import Mathlib.Logic.Function.Basic
import KcpMux.Types

/-!
The deadline scheduler (`src/kcpmux_timer.c`): an indexed binary min-heap of timer
nodes, each of which records its own slot.

The nodes live in a memory `node`, a function of node pointers, and the heap is an
array of pointers of which the first `size` slots are in use.  A node that has been
collected is threaded on a due list through its `due_link`; that list is the field
`due`.  Loops carry an explicit bound on their rounds: a sift up halves its index, a
sift down leaves the heap after at most `size` rounds, a collection removes a node
each round, and the capacity doubles.
-/

namespace KcpMux

/-- `kcpmux_timer_state_t`. -/
inductive TimerState where
  | idle | heap | due | running
  deriving DecidableEq, Repr

/-- `kcpmux_timer_node_t`.  `owner` tells whether the owner and callback pointers are
set; they are set and cleared together. -/
structure TimerNode where
  heapIndex : ℕ
  deadlineMs : ℤ
  insertionSequence : ℕ
  owner : Bool
  state : TimerState
  deriving DecidableEq, Repr

/-- `KCPMUX_TIMER_INVALID_INDEX`. -/
def timerInvalidIndex : ℕ := sizeMax

/-- A node as it stands in zeroed memory. -/
instance : Inhabited TimerNode := ⟨⟨0, 0, 0, false, .idle⟩⟩

/-- `kcpmux_timer_manager_t`, with the memory of the nodes and the list their
`due_link` members are threaded on. -/
structure TimerManager (P : Type) where
  heap : ℕ → P
  size : ℕ
  capacity : ℕ
  nextSequence : ℕ
  node : P → TimerNode
  due : List P

/-- `kcpmux_timer_less`. -/
def timerLess (left right : TimerNode) : Bool :=
  if left.deadlineMs ≠ right.deadlineMs then left.deadlineMs < right.deadlineMs
  else left.insertionSequence < right.insertionSequence

variable {P : Type} [DecidableEq P]

namespace TimerManager

/-- Rewrites one node. -/
def setNode (m : TimerManager P) (p : P) (n : TimerNode) : TimerManager P :=
  { m with node := Function.update m.node p n }

end TimerManager

/-- `kcpmux_timer_set`: a node goes into a slot and records it. -/
def timerSet (m : TimerManager P) (index : ℕ) (p : P) : TimerManager P :=
  { m with
    heap := Function.update m.heap index p
    node := Function.update m.node p { m.node p with heapIndex := index } }

/-- The loop of `kcpmux_timer_sift_up`, carrying the node `p`. -/
def timerSiftUpLoop (p : P) : ℕ → TimerManager P → ℕ → TimerManager P × ℕ
  | 0, m, index => (timerSet m index p, index)
  | rounds + 1, m, index =>
      if index > 0 then
        if timerLess (m.node p) (m.node (m.heap ((index - 1) / 2))) then
          timerSiftUpLoop p rounds (timerSet m index (m.heap ((index - 1) / 2)))
            ((index - 1) / 2)
        else (timerSet m index p, index)
      else (timerSet m index p, index)

/-- `kcpmux_timer_sift_up`: the manager, and the slot the node ended in. -/
def timerSiftUp (m : TimerManager P) (index : ℕ) : TimerManager P × ℕ :=
  timerSiftUpLoop (m.heap index) index m index

/-- The child a sift down looks at: the right one when it exists and is less than
the left one. -/
def timerChild (m : TimerManager P) (index : ℕ) : ℕ :=
  let left := index * 2 + 1
  let right := left + 1
  if right < m.size ∧ timerLess (m.node (m.heap right)) (m.node (m.heap left)) then right
  else left

/-- The loop of `kcpmux_timer_sift_down`, carrying the node `p`. -/
def timerSiftDownLoop (p : P) : ℕ → TimerManager P → ℕ → TimerManager P
  | 0, m, index => timerSet m index p
  | rounds + 1, m, index =>
      if index * 2 + 1 ≥ m.size then timerSet m index p
      else if timerLess (m.node (m.heap (timerChild m index))) (m.node p) then
        timerSiftDownLoop p rounds (timerSet m index (m.heap (timerChild m index)))
          (timerChild m index)
      else timerSet m index p

/-- `kcpmux_timer_sift_down`. -/
def timerSiftDown (m : TimerManager P) (index : ℕ) : TimerManager P :=
  timerSiftDownLoop (m.heap index) m.size m index

/-- `kcpmux_timer_remove_at`, without the returned pointer, which is `heap index`.
The `NULL` stored past the last slot is not modelled: no slot at or beyond `size` is
read. -/
def timerRemoveAt (m : TimerManager P) (index : ℕ) : TimerManager P :=
  let removed := m.heap index
  let last := m.heap (m.size - 1)
  let m := { m with size := m.size - 1 }
  let m :=
    if index < m.size then
      let r := timerSiftUp (timerSet m index last) index
      timerSiftDown r.1 r.2
    else m
  m.setNode removed { m.node removed with heapIndex := timerInvalidIndex }

/-- `kcpmux_timer_node_init`. -/
def timerNodeInit (m : TimerManager P) (p : P) : TimerManager P :=
  m.setNode p ⟨timerInvalidIndex, 0, 0, true, .idle⟩

/-- The loop of `kcpmux_timer_manager_reserve` that doubles the capacity. -/
def timerGrow (capacity : ℕ) : ℕ → ℕ → ℕ
  | 0, new => new
  | rounds + 1, new =>
      if new < capacity then
        if new > sizeMax / 2 then capacity else timerGrow capacity rounds (new * 2)
      else new

/-- `kcpmux_timer_manager_reserve`; `realloc` tells whether the reallocation, should
there be one, succeeds.  A pointer has eight bytes. -/
def timerManagerReserve (m : TimerManager P) (capacity : ℕ) (realloc : Bool) :
    ℤ × TimerManager P :=
  if capacity ≤ m.capacity then (errOk, m)
  else
    let new := timerGrow capacity 64 (if m.capacity = 0 then 8 else m.capacity)
    if new > sizeMax / 8 then (errOom, m)
    else if realloc then (errOk, { m with capacity := new })
    else (errOom, m)

/-- `kcpmux_timer_schedule`. -/
def timerSchedule (m : TimerManager P) (p : P) (deadlineMs : ℤ) (realloc : Bool) :
    ℤ × TimerManager P :=
  if (m.node p).state = .heap then
    let m := m.setNode p { m.node p with deadlineMs := deadlineMs }
    let r := timerSiftUp m (m.node p).heapIndex
    (errOk, timerSiftDown r.1 r.2)
  else
    let r := timerManagerReserve m (m.size + 1) realloc
    if r.1 ≠ errOk then r
    else
      let m := r.2
      let m := if (m.node p).state = .due then { m with due := m.due.erase p } else m
      let m := m.setNode p { m.node p with
        deadlineMs := deadlineMs, insertionSequence := m.nextSequence, state := .heap }
      let m := { m with nextSequence := (m.nextSequence + 1) % 2 ^ 64 }
      let index := m.size
      let m := timerSet { m with size := m.size + 1 } index p
      (errOk, (timerSiftUp m index).1)

/-- `kcpmux_timer_cancel`. -/
def timerCancel (m : TimerManager P) (p : P) : TimerManager P :=
  let m :=
    if (m.node p).state = .heap then timerRemoveAt m (m.node p).heapIndex
    else if (m.node p).state = .due then { m with due := m.due.erase p }
    else m
  m.setNode p { m.node p with state := .idle }

/-- `kcpmux_timer_peek`. -/
def timerPeek (m : TimerManager P) : Option P :=
  if m.size = 0 then none else some (m.heap 0)

/-- The loop of `kcpmux_timer_collect_due`. -/
def timerCollectDueLoop (nowMs : ℤ) : ℕ → TimerManager P → TimerManager P
  | 0, m => m
  | rounds + 1, m =>
      match timerPeek m with
      | none => m
      | some p =>
          if (m.node p).deadlineMs > nowMs then m
          else
            let m := timerRemoveAt m 0
            let m := m.setNode p { m.node p with state := .due }
            timerCollectDueLoop nowMs rounds { m with due := m.due ++ [p] }

/-- `kcpmux_timer_collect_due`. -/
def timerCollectDue (m : TimerManager P) (nowMs : ℤ) : TimerManager P :=
  timerCollectDueLoop nowMs m.size m

/-- `kcpmux_timer_manager_init`, over nodes in zeroed memory. -/
def timerManagerInit (P : Type) [Inhabited P] : TimerManager P where
  heap := fun _ => default
  size := 0
  capacity := 0
  nextSequence := 0
  node := fun _ => default
  due := []

end KcpMux
