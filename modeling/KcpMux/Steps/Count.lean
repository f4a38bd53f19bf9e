import KcpMux.Steps.Act

/-!
The counters of an engine.

`Counted` says that the counters and totals agree with the live objects: `conn_count`, the
element count of the connection table, every `stream_count`, the statistics that mirror them,
and `timer_node_count`, for which the timer heap has room.  Hence scheduling the node of a
live object never fails (`Counted.room`).
-/

namespace KcpMux

variable {K : Type}

namespace Engine

/-- The live connections. -/
def liveConns (e : Engine K) : Finset ℕ :=
  (Finset.range e.nconns).filter fun c => (e.conns c).internalClosed = false

/-- The live streams. -/
def liveStreams (e : Engine K) : Finset ℕ :=
  (Finset.range e.nstreams).filter fun s => (e.streams s).internalClosed = false

/-- The live streams of a connection. -/
def liveStreamsOf (e : Engine K) (c : ℕ) : Finset ℕ :=
  e.liveStreams.filter fun s => (e.streams s).conn = c

/-- The live objects. -/
def liveOwners (e : Engine K) : Finset Owner :=
  e.liveConns.image Owner.conn ∪ e.liveStreams.image Owner.stream

@[simp] lemma mem_liveConns (e : Engine K) (c : ℕ) : c ∈ e.liveConns ↔ e.LiveConn c := by
  simp [liveConns, LiveConn]

@[simp] lemma mem_liveStreams (e : Engine K) (s : ℕ) : s ∈ e.liveStreams ↔ e.LiveStream s := by
  simp [liveStreams, LiveStream]

@[simp] lemma mem_liveStreamsOf (e : Engine K) (c s : ℕ) :
    s ∈ e.liveStreamsOf c ↔ e.LiveIn c s := by
  simp [liveStreamsOf, LiveIn]

@[simp] lemma mem_liveOwners (e : Engine K) (o : Owner) : o ∈ e.liveOwners ↔ e.Live o := by
  cases o <;> simp [liveOwners]

lemma card_liveOwners (e : Engine K) :
    e.liveOwners.card = e.liveConns.card + e.liveStreams.card := by
  have hdisj : Disjoint (e.liveConns.image Owner.conn) (e.liveStreams.image Owner.stream) := by
    rw [Finset.disjoint_left]
    intro o hc hs
    obtain ⟨c, -, rfl⟩ := Finset.mem_image.mp hc
    obtain ⟨s, -, hs⟩ := Finset.mem_image.mp hs
    cases hs
  rw [liveOwners, Finset.card_union_of_disjoint hdisj]
  rw [Finset.card_image_of_injective _ fun a b h => Owner.conn.inj h]
  rw [Finset.card_image_of_injective _ fun a b h => Owner.stream.inj h]

end Engine

/-- The counters agree with the live objects. -/
structure Counted (e : Engine K) : Prop where
  connCount : e.connCount = e.liveConns.card
  connMap : e.connMap.num = e.connCount
  statConns : e.stats.connCount = e.connCount
  connTotals : e.stats.connCreatedTotal = e.stats.connClosedTotal + e.connCount
  statStreams : e.stats.streamCount = e.liveStreams.card
  streamTotals : e.stats.streamCreatedTotal = e.stats.streamClosedTotal + e.stats.streamCount
  streamCount : ∀ c < e.nconns, (e.conns c).streamCount = (e.liveStreamsOf c).card
  timerNodes : e.timerNodeCount = e.liveConns.card + e.liveStreams.card
  capacity : e.timerNodeCount ≤ e.timerManager.capacity

variable {env : Env K} {op : Call} {e e' : Engine K}

/-! ### Room in the heap -/

/-- The heap has at most the nodes of the live objects. -/
lemma Own.size_le (h : Own env e) :
    e.timerManager.size ≤ e.liveConns.card + e.liveStreams.card := by
  rw [← e.card_liveOwners]
  refine h.valid.size_le_card _ fun q hq => ?_
  rw [Engine.mem_liveOwners]
  by_contra hl
  rw [TimerManager.InHeap, h.idle q hl] at hq
  cases hq

/-- The node of a live object is in the heap, or the heap has room for it. -/
lemma Counted.room (hc : Counted e) (h : Own env e) {o : Owner} (ho : e.Live o) :
    (e.timerManager.node o).state = .heap ∨ e.timerManager.size < e.timerManager.capacity := by
  by_cases hh : (e.timerManager.node o).state = .heap
  · exact Or.inl hh
  · right
    have hsize : e.timerManager.size ≤ (e.liveOwners.erase o).card := by
      refine h.valid.size_le_card _ fun q hq => ?_
      rw [Finset.mem_erase, Engine.mem_liveOwners]
      refine ⟨fun he => hh (he ▸ hq), ?_⟩
      by_contra hl
      rw [TimerManager.InHeap, h.idle q hl] at hq
      cases hq
    have hmem : o ∈ e.liveOwners := (e.mem_liveOwners o).mpr ho
    have hcard := e.card_liveOwners
    have hpos : 0 < e.liveOwners.card := Finset.card_pos.mpr ⟨o, hmem⟩
    rw [Finset.card_erase_of_mem hmem] at hsize
    have h1 := hc.timerNodes
    have h2 := hc.capacity
    omega

/-- A move of the node of a live object leaves the capacity alone. -/
lemma TimerMove.Did.capacity {mv : TimerMove} {m m' : TimerManager Owner} {o : Owner}
    (h : mv.Did env m o m') (hr : (m.node o).state = .heap ∨ m.size < m.capacity) :
    m'.capacity = m.capacity := by
  cases mv with
  | keep => cases h; rfl
  | schedule d now =>
      obtain ⟨k, rfl⟩ := h
      exact (timerSchedule_ok m o _ _ hr).2
  | cancel => cases h; exact timerCancel_capacity m o

/-- What a move leaves of the node `n` of its object. -/
def TimerMove.Leaves (n : TimerNode) : TimerMove → TimerNode → Prop
  | .keep, n' => n.SameBut n'
  | .schedule d now, n' => n'.state = .heap ∧ n'.deadlineMs = max d now
  | .cancel, n' => n'.state = .idle

lemma TimerMove.Did.leaves {mv : TimerMove} {m m' : TimerManager Owner} {o : Owner}
    (h : mv.Did env m o m') (hr : (m.node o).state = .heap ∨ m.size < m.capacity) :
    mv.Leaves (m.node o) (m'.node o) := by
  cases mv with
  | keep => cases h; exact TimerNode.SameBut.refl _
  | schedule d now =>
      obtain ⟨k, rfl⟩ := h
      exact timerSchedule_self m o _ _ (timerSchedule_ok m o _ _ hr).1
  | cancel => cases h; exact timerCancel_self_state m o

/-! ### Steps that keep the live objects -/

lemma liveConns_congr (h : ∀ c, e'.LiveConn c ↔ e.LiveConn c) : e'.liveConns = e.liveConns := by
  ext c
  rw [Engine.mem_liveConns, Engine.mem_liveConns, h]

lemma liveStreams_congr (h : ∀ s, e'.LiveStream s ↔ e.LiveStream s) :
    e'.liveStreams = e.liveStreams := by
  ext s
  rw [Engine.mem_liveStreams, Engine.mem_liveStreams, h]

lemma liveStreamsOf_congr {c : ℕ} (h : ∀ s, e'.LiveIn c s ↔ e.LiveIn c s) :
    e'.liveStreamsOf c = e.liveStreamsOf c := by
  ext s
  rw [Engine.mem_liveStreamsOf, Engine.mem_liveStreamsOf, h]

/-- A step that leaves ownership and the counters alone. -/
lemma Counted.of_same (h : Counted e) (hs : SameOwn e e') (hst : e'.stats.life = e.stats.life)
    (hc : e'.connCount = e.connCount) (hn : e'.timerNodeCount = e.timerNodeCount)
    (hcap : e'.timerManager.capacity = e.timerManager.capacity) : Counted e' := by
  simp only [EngineStats.life, Prod.mk.injEq] at hst
  obtain ⟨h1, h2, h3, h4, h5, h6⟩ := hst
  have hlc := liveConns_congr hs.liveConn
  have hls := liveStreams_congr hs.liveStream
  refine ⟨?_, ?_, ?_, ?_, ?_, ?_, fun c hlt => ?_, ?_, ?_⟩
  · rw [hc, hlc, h.connCount]
  · rw [hs.connMap, hc, h.connMap]
  · rw [h1, hc, h.statConns]
  · rw [h3, h4, hc, h.connTotals]
  · rw [h2, hls, h.statStreams]
  · rw [h5, h6, h2, h.streamTotals]
  · rw [liveStreamsOf_congr (hs.liveIn c), ← h.streamCount c (hs.nconns ▸ hlt)]
    exact congrArg ConnOwn.streamCount (hs.conn c).own
  · rw [hn, hlc, hls, h.timerNodes]
  · rw [hn, hcap]
    exact h.capacity

/-! ### Steps that finalise -/

lemma liveStreams_finalStream (e : Engine K) (s : ℕ) (reason : UInt8) :
    (e.finalStream s reason).liveStreams = e.liveStreams.erase s := by
  ext q
  rw [Engine.mem_liveStreams, finalStream_liveStream, Finset.mem_erase, Engine.mem_liveStreams]
  exact and_comm

lemma liveStreamsOf_finalStream (e : Engine K) (c s : ℕ) (reason : UInt8) :
    (e.finalStream s reason).liveStreamsOf c = (e.liveStreamsOf c).erase s := by
  ext q
  rw [Engine.mem_liveStreamsOf, finalStream_liveIn, Finset.mem_erase, Engine.mem_liveStreamsOf]
  exact and_comm

lemma liveConns_beginConn (e : Engine K) (c : ℕ) :
    (e.beginConn c).liveConns = e.liveConns.erase c := by
  ext d
  rw [Engine.mem_liveConns, beginConn_liveConn, Finset.mem_erase, Engine.mem_liveConns]
  exact and_comm

lemma timerUnregister_capacity (m : TimerManager Owner) (o : Owner) :
    (timerUnregister m o).capacity = m.capacity := timerCancel_capacity m o

/-- A finalised stream leaves every count. -/
lemma Counted.finalStream (h : Counted e) {s : ℕ} (hl : e.LiveStream s) (reason : UInt8) :
    Counted (e.finalStream s reason) := by
  have hc : (e.finalStream s reason).liveConns = e.liveConns :=
    liveConns_congr fun c => finalStream_liveConn reason c
  have hmem : s ∈ e.liveStreams := (e.mem_liveStreams s).mpr hl
  have hpos : 0 < e.liveStreams.card := Finset.card_pos.mpr ⟨s, hmem⟩
  have hcard : (e.finalStream s reason).liveStreams.card = e.liveStreams.card - 1 := by
    rw [liveStreams_finalStream, Finset.card_erase_of_mem hmem]
  have hst := h.statStreams
  have htot := h.streamTotals
  refine ⟨?_, h.connMap, h.statConns, h.connTotals, ?_, ?_, fun c hlt => ?_, ?_, ?_⟩
  · rw [hc]
    exact h.connCount
  · rw [hcard]
    show e.stats.streamCount - 1 = _
    rw [hst]
  · show e.stats.streamCreatedTotal = e.stats.streamClosedTotal + 1 + (e.stats.streamCount - 1)
    omega
  · rw [liveStreamsOf_finalStream, finalStream_conns]
    show (if c = (e.streams s).conn then (e.conns c).streamCount - 1
      else (e.conns c).streamCount) = _
    have hcount := h.streamCount c hlt
    by_cases hcs : c = (e.streams s).conn
    · have hin : s ∈ e.liveStreamsOf c := (e.mem_liveStreamsOf c s).mpr ⟨hl, hcs.symm⟩
      rw [Finset.card_erase_of_mem hin, if_pos hcs, hcount]
    · have hin : s ∉ e.liveStreamsOf c := fun hm =>
        hcs ((e.mem_liveStreamsOf c s).mp hm).2.symm
      rw [Finset.erase_eq_of_notMem hin, if_neg hcs, hcount]
  · rw [hc, hcard]
    show e.timerNodeCount - 1 = _
    have := h.timerNodes
    omega
  · show e.timerNodeCount - 1 ≤ (timerUnregister e.timerManager (.stream s)).capacity
    rw [timerUnregister_capacity]
    exact (Nat.sub_le _ _).trans h.capacity

/-- A connection that leaves the tables leaves every count. -/
lemma Counted.beginConn (h : Counted e) (ho : Own env e) {c : ℕ} (hl : e.LiveConn c) :
    Counted (e.beginConn c) := by
  have hs : (e.beginConn c).liveStreams = e.liveStreams := liveStreams_congr fun s => Iff.rfl
  have hmem : c ∈ e.liveConns := (e.mem_liveConns c).mpr hl
  have hpos : 0 < e.liveConns.card := Finset.card_pos.mpr ⟨c, hmem⟩
  have hcard : (e.beginConn c).liveConns.card = e.liveConns.card - 1 := by
    rw [liveConns_beginConn, Finset.card_erase_of_mem hmem]
  have hcc := h.connCount
  have htot := h.connTotals
  refine ⟨?_, ?_, rfl, ?_, ?_, h.streamTotals, fun d hlt => ?_, ?_, ?_⟩
  · rw [hcard, ← hcc]
    rfl
  · show (htbDel e.connMap c).num = e.connCount - 1
    rw [ho.connTable.del_num hl, h.connMap]
  · show e.stats.connCreatedTotal = e.stats.connClosedTotal + 1 + (e.connCount - 1)
    omega
  · rw [hs]
    exact h.statStreams
  · rw [liveStreamsOf_congr fun s => Iff.rfl, beginConn_conns]
    exact h.streamCount d hlt
  · rw [hs, hcard]
    show e.timerNodeCount - 1 = _
    have := h.timerNodes
    omega
  · show e.timerNodeCount - 1 ≤ (timerUnregister e.timerManager (.conn c)).capacity
    rw [timerUnregister_capacity]
    exact (Nat.sub_le _ _).trans h.capacity

lemma Counted.endConn (h : Counted e) (c : ℕ) (reason : UInt8) :
    Counted (e.endConn c reason) := by
  have hconns : ∀ d, ((e.endConn c reason).conns d).internalClosed = (e.conns d).internalClosed ∧
      ((e.endConn c reason).conns d).streamCount = (e.conns d).streamCount := by
    intro d
    by_cases hd : d = c
    · subst hd
      simp [Engine.endConn]
    · simp [Engine.endConn, hd]
  have hc : (e.endConn c reason).liveConns = e.liveConns := liveConns_congr fun d => by
    rw [Engine.LiveConn, Engine.LiveConn, (hconns d).1]
    exact Iff.rfl
  refine ⟨?_, h.connMap, h.statConns, h.connTotals, h.statStreams, h.streamTotals,
    fun d hlt => ?_, ?_, h.capacity⟩
  · rw [hc]
    exact h.connCount
  · rw [(hconns d).2]
    exact h.streamCount d hlt
  · rw [hc]
    exact h.timerNodes

/-- A connection is finalised with its streams. -/
lemma Counted.connFinal (h : Counted e) (ho : Own env e) {c : ℕ} {reason : UInt8}
    (hd : 0 < e.operationDepth) (hl : e.LiveConn c) :
    Counted (connCloseInternal env e c reason) :=
  connFinal_induct (P := Counted) (Q := Counted) ho hd hl (h.beginConn ho hl)
    (fun _ _ _ _ _ hs hP => hP.finalStream hs.1 _) fun _ _ _ _ _ _ hP => hP.endConn _ _

/-! ### Steps that create -/

/-- A new connection enters every count. -/
lemma Counted.newConn (h : Counted e) (ho : Own env e) {x : Conn} {t capacity : ℕ}
    (hx : FreshConn env e x) (hid : e.nextConnectionId ≠ 0) (hcap : e.timerNodeCount < capacity) :
    Counted (e.newConn env x (timerNodeInit { e.timerManager with capacity } (.conn e.nconns)) t
      { e.stats with connCreatedTotal := e.stats.connCreatedTotal + 1 }) := by
  generalize hm : timerNodeInit { e.timerManager with capacity } (.conn e.nconns) = m
  generalize hst : ({ e.stats with connCreatedTotal := e.stats.connCreatedTotal + 1 } :
    EngineStats) = st
  have hmcap : m.capacity = capacity := by rw [← hm]; rfl
  have hs : (e.newConn env x m t st).liveStreams = e.liveStreams :=
    liveStreams_congr fun s => Iff.rfl
  have hc : (e.newConn env x m t st).liveConns = insert e.nconns e.liveConns := by
    ext c
    rw [Engine.mem_liveConns, newConn_liveConn hx, Finset.mem_insert, Engine.mem_liveConns]
  have hfresh : e.nconns ∉ e.liveConns := fun hm =>
    lt_irrefl _ ((e.mem_liveConns _).mp hm).1
  have hcard : (e.newConn env x m t st).liveConns.card = e.liveConns.card + 1 := by
    rw [hc, Finset.card_insert_of_notMem hfresh]
  have hcc := h.connCount
  have htot := h.connTotals
  refine ⟨?_, ?_, rfl, ?_, ?_, ?_, fun c hlt => ?_, ?_, ?_⟩
  · rw [hcard, ← hcc]
    rfl
  · have hnum : (e.newConn env x m t st).connMap.num = e.connMap.num + 1 :=
      Htb.add_num (connFind_fresh ho hx hid)
    rw [hnum, h.connMap]
    rfl
  · rw [← hst]
    show e.stats.connCreatedTotal + 1 = e.stats.connClosedTotal + (e.connCount + 1)
    omega
  · rw [hs, ← hst]
    exact h.statStreams
  · rw [← hst]
    exact h.streamTotals
  · have hof : (e.newConn env x m t st).liveStreamsOf c = e.liveStreamsOf c :=
      liveStreamsOf_congr fun s => Iff.rfl
    rw [hof]
    by_cases hcn : c = e.nconns
    · subst hcn
      rw [newConn_conns_self]
      have hnone : e.liveStreamsOf e.nconns = ∅ := by
        refine Finset.eq_empty_of_forall_notMem fun s hm => ?_
        obtain ⟨hl, hsc⟩ := (e.mem_liveStreamsOf _ s).mp hm
        have := ho.connOf_lt s hl.1
        omega
      rw [hnone]
      exact hx.streamCount
    · have hlt' : c < e.nconns := by
        rw [newConn_nconns] at hlt
        omega
      rw [newConn_conns_of_lt hlt']
      exact h.streamCount c hlt'
  · rw [hs, hcard]
    show e.timerNodeCount + 1 = _
    have := h.timerNodes
    omega
  · show e.timerNodeCount + 1 ≤ m.capacity
    omega

/-- A new stream enters every count. -/
lemma Counted.newStream (h : Counted e) (ho : Own env e) {c : ℕ} {x : Stream K}
    {latest : Option UInt32} {evs : List Event} {t capacity : ℕ} {m : TimerManager Owner}
    {mv : TimerMove} (hx : FreshStream env e c x) (hcap : e.timerNodeCount < capacity)
    (hm : mv.Did env (timerNodeInit { e.timerManager with capacity } (.stream e.nstreams))
      (.stream e.nstreams) m) :
    Counted (e.newStream env c x evs m t
      { e.stats with
        streamCreatedTotal := e.stats.streamCreatedTotal + 1
        streamOpenedTotal := e.stats.streamOpenedTotal + 1 } latest) := by
  have hmcap : m.capacity = capacity := by
    refine hm.capacity (Or.inr ?_)
    show e.timerManager.size < capacity
    have h1 := ho.size_le
    have h2 := h.timerNodes
    omega
  generalize hst : ({ e.stats with
    streamCreatedTotal := e.stats.streamCreatedTotal + 1
    streamOpenedTotal := e.stats.streamOpenedTotal + 1 } : EngineStats) = st
  have hc : (e.newStream env c x evs m t st latest).liveConns = e.liveConns :=
    liveConns_congr newStream_liveConn
  have hs : (e.newStream env c x evs m t st latest).liveStreams =
      insert e.nstreams e.liveStreams := by
    ext s
    rw [Engine.mem_liveStreams, newStream_liveStream hx, Finset.mem_insert,
      Engine.mem_liveStreams]
  have hfresh : e.nstreams ∉ e.liveStreams := fun hm =>
    lt_irrefl _ ((e.mem_liveStreams _).mp hm).1
  have hcard : (e.newStream env c x evs m t st latest).liveStreams.card =
      e.liveStreams.card + 1 := by
    rw [hs, Finset.card_insert_of_notMem hfresh]
  refine ⟨?_, h.connMap, ?_, ?_, ?_, ?_, fun d hlt => ?_, ?_, ?_⟩
  · rw [hc]
    exact h.connCount
  · rw [← hst]
    exact h.statConns
  · rw [← hst]
    exact h.connTotals
  · rw [hcard, ← h.statStreams, ← hst]
    rfl
  · rw [← hst]
    have htot := h.streamTotals
    show e.stats.streamCreatedTotal + 1 = e.stats.streamClosedTotal + (e.stats.streamCount + 1)
    omega
  · rw [newStream_conns]
    show (if d = c then (e.conns d).streamCount + 1 else (e.conns d).streamCount) = _
    by_cases hdc : d = c
    · have hof : (e.newStream env c x evs m t st latest).liveStreamsOf d =
          insert e.nstreams (e.liveStreamsOf d) := by
        ext s
        rw [Engine.mem_liveStreamsOf, newStream_liveIn hx, Finset.mem_insert,
          Engine.mem_liveStreamsOf]
        simp [hdc]
      have hnot : e.nstreams ∉ e.liveStreamsOf d := fun hm =>
        lt_irrefl _ ((e.mem_liveStreamsOf _ _).mp hm).1.1
      rw [if_pos hdc, hof, Finset.card_insert_of_notMem hnot, h.streamCount d hlt]
    · have hof : (e.newStream env c x evs m t st latest).liveStreamsOf d = e.liveStreamsOf d :=
        liveStreamsOf_congr fun s => by simp [newStream_liveIn hx, hdc]
      rw [if_neg hdc, hof]
      exact h.streamCount d hlt
  · rw [hc, hcard]
    show e.timerNodeCount + 1 = _
    have := h.timerNodes
    omega
  · show e.timerNodeCount + 1 ≤ m.capacity
    omega

/-- A stream that failed is in no count. -/
lemma Counted.deadStream (h : Counted e) {x : Stream K} (evs : List Event)
    (t : ℕ) (hx : x.internalClosed = true) : Counted (e.deadStream x evs t) := by
  have hlive : ∀ s, (e.deadStream x evs t).LiveStream s ↔ e.LiveStream s := by
    intro s
    rw [Engine.LiveStream, Engine.LiveStream]
    by_cases hs : s = e.nstreams
    · subst hs
      simp [Engine.deadStream, hx]
    · simp only [Engine.deadStream, ne_eq, hs, not_false_eq_true, Function.update_of_ne]
      exact and_congr_left fun _ => by omega
  have hin : ∀ c s, (e.deadStream x evs t).LiveIn c s ↔ e.LiveIn c s := by
    intro c s
    rw [Engine.LiveIn, Engine.LiveIn, hlive]
    refine and_congr_right fun hl => ?_
    simp [Engine.deadStream, Nat.ne_of_lt hl.1]
  have hs := liveStreams_congr hlive
  refine ⟨h.connCount, h.connMap, h.statConns, h.connTotals, ?_, h.streamTotals,
    fun c hlt => ?_, ?_, h.capacity⟩
  · rw [hs]
    exact h.statStreams
  · rw [liveStreamsOf_congr (hin c)]
    exact h.streamCount c hlt
  · rw [hs]
    exact h.timerNodes

/-- **Every step keeps the counters.** -/
lemma Act.counted (ha : Act env op e e') (ho : Own env e) (h : Counted e) : Counted e' := by
  cases ha with
  | @conn c t x evs now m st cs hl ht hx hm hst =>
      exact h.of_same (SameOwn.stepConn hl hx.kept hm hx.subject) hst rfl rfl
        (hm.capacity (h.room ho (o := .conn c) hl))
  | @stream s t x evs mv p m st cs hl ht hx hm hst =>
      exact h.of_same (SameOwn.stepStream hl hx.own hx.pend hm hx.subject) hst rfl rfl
        (hm.capacity (h.room ho (o := .stream s) hl))
  | quiet ht hst =>
      simp only [EngineStats.life, Prod.mk.injEq] at hst
      obtain ⟨h1, h2, h3, h4, h5, h6⟩ := hst
      exact
        { h with
          statConns := h1.trans h.statConns
          connTotals := by simpa only [h3, h4] using h.connTotals
          statStreams := h2.trans h.statStreams
          streamTotals := by simpa only [h2, h5, h6] using h.streamTotals }
  | idLost => exact { h with }
  | popBatch => exact { h with }
  | connNew ht hid hcap hx => exact h.newConn ho (hx.fresh ho) hid hcap
  | streamNew hl hs ht hcap hx hm => exact h.newStream ho (hx.fresh ho hl.1) hcap hm
  | streamFailed ht hc hx => exact h.deadStream _ _ hx.1
  | streamFinal hd hl => exact h.finalStream hl _
  | @streamLast s t x evs mv m st cs reason hd hl ht hx hm hst =>
      have hs : SameOwn e (e.stepStream s x evs m t st cs .keep) :=
        SameOwn.stepStream hl hx.own hx.pend hm hx.subject
      have h1 := h.of_same hs hst rfl rfl (hm.capacity (h.room ho (o := .stream s) hl))
      exact h1.finalStream ((hs.liveStream s).mpr hl) _
  | connFinal hd hl => exact h.connFinal ho hd hl
  | @connLast c t x evs st cs hd hl ht hx hst =>
      have hs := SameOwn.connLast env hl hx t st cs
      exact (h.of_same hs hst rfl rfl rfl).connFinal (ho.of_same hs) hd ((hs.liveConn _).mpr hl)

end KcpMux
