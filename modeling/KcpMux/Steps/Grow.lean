import KcpMux.Steps.Act

/-!
What never goes back in the course of an operation.

`Grows e e'`: the clock of host interactions, the handles in use and the log only grow; what
identifies an object stays; a finalised object stays finalised and no connection goes back to
`INIT`; nothing is put on the due list and no node starts to run; the host's timer and the
operation depth are left alone.
-/

namespace KcpMux

variable {K : Type}

/-! ### Timers -/

/-- No node becomes due or starts to run, and a node that is still due has its old deadline. -/
structure TimerCalm (m m' : TimerManager Owner) : Prop where
  due : m'.due.Sublist m.due
  running : ∀ q, (m'.node q).state = .running → (m.node q).state = .running
  kept : ∀ q, (m'.node q).state = .due →
    (m.node q).state = .due ∧ (m'.node q).deadlineMs = (m.node q).deadlineMs

namespace TimerCalm

variable {env : Env K} {m m' m'' : TimerManager Owner} {o : Owner} {mv : TimerMove}

lemma refl (m : TimerManager Owner) : TimerCalm m m :=
  ⟨List.Sublist.refl _, fun _ => id, fun _ h => ⟨h, rfl⟩⟩

lemma trans (h : TimerCalm m m') (h' : TimerCalm m' m'') : TimerCalm m m'' := by
  refine ⟨h'.due.trans h.due, fun q hq => h.running q (h'.running q hq), fun q hq => ?_⟩
  obtain ⟨h1, h2⟩ := h'.kept q hq
  obtain ⟨h3, h4⟩ := h.kept q h1
  exact ⟨h3, h2.trans h4⟩

/-- Only the node of `o` is touched, and it is left idle or in the heap. -/
lemma of_other (hdue : m'.due.Sublist m.due)
    (ho : (m'.node o).state = .idle ∨ (m'.node o).state = .heap)
    (hq : ∀ q, q ≠ o → (m.node q).SameBut (m'.node q)) : TimerCalm m m' := by
  refine ⟨hdue, fun q hr => ?_, fun q hr => ?_⟩
  · by_cases hqo : q = o
    · subst hqo
      rcases ho with ho | ho <;> simp [ho] at hr
    · rwa [(hq q hqo).state] at hr
  · by_cases hqo : q = o
    · subst hqo
      rcases ho with ho | ho <;> simp [ho] at hr
    · rw [(hq q hqo).state] at hr
      exact ⟨hr, (hq q hqo).deadlineMs⟩

lemma cancel (m : TimerManager Owner) (o : Owner) : TimerCalm m (timerCancel m o) := by
  refine of_other ?_ (Or.inl (timerCancel_self_state m o)) fun q hq => timerCancel_other m hq
  rw [timerCancel_due]
  split_ifs
  · exact List.erase_sublist
  · exact List.Sublist.refl _

lemma of_did (h : mv.Did env m o m') : TimerCalm m m' := by
  cases mv with
  | keep => cases h; exact refl m
  | schedule d now =>
      obtain ⟨k, rfl⟩ := h
      by_cases hok : (timerSchedule m o (max d now) (env.alloc k)).1 = errOk
      · refine of_other ?_ (Or.inr (timerSchedule_self m o _ _ hok).1) fun q hq =>
          timerSchedule_other m hq _ _
        rw [timerSchedule_due m o _ _ hok]
        split_ifs
        · exact List.erase_sublist
        · exact List.Sublist.refl _
      · rw [timerSchedule_fail m o _ _ hok]
        exact refl m
  | cancel => cases h; exact cancel m o

lemma unregister (m : TimerManager Owner) (o : Owner) : TimerCalm m (timerUnregister m o) :=
  of_other (cancel m o).due (Or.inl (timerUnregister_self m o).2) fun _ hq =>
    timerUnregister_other m hq

lemma nodeInit (m : TimerManager Owner) (o : Owner) (capacity : ℕ) :
    TimerCalm m (timerNodeInit { m with capacity } o) := by
  refine of_other (o := o) (List.Sublist.refl _) (Or.inl (by simp [timerNodeInit])) fun q hq => ?_
  rw [timerNodeInit, setNode_node_of_ne _ hq]
  exact TimerNode.SameBut.refl _

end TimerCalm

/-! ### Engines -/

/-- What identifies a connection. -/
def Conn.ident (x : Conn) : Bool × UInt64 × Addr := (x.isInitiator, x.localConnectionId, x.peerAddr)

/-- What identifies a stream. -/
def Stream.ident (x : Stream K) : UInt32 × Bool × ℕ := (x.streamId, x.isInitiator, x.conn)

/-- What never goes back. -/
structure Grows (e e' : Engine K) : Prop where
  depth : e'.operationDepth = e.operationDepth
  armed : e'.externalTimerArmed = e.externalTimerArmed
  deadline : e'.externalTimerDeadlineMs = e.externalTimerDeadlineMs
  defaults : (e'.defaultConnConfig, e'.defaultStreamConfig) =
    (e.defaultConnConfig, e.defaultStreamConfig)
  tick : e.tick ≤ e'.tick
  nconns : e.nconns ≤ e'.nconns
  nstreams : e.nstreams ≤ e'.nstreams
  trace : e.trace <:+ e'.trace
  timer : TimerCalm e.timerManager e'.timerManager
  conn : ∀ c < e.nconns, (e'.conns c).ident = (e.conns c).ident ∧
    ((e.conns c).internalClosed = true → (e'.conns c).internalClosed = true) ∧
    ((e'.conns c).state = .init → (e.conns c).state = .init)
  stream : ∀ s < e.nstreams, (e'.streams s).ident = (e.streams s).ident ∧
    ((e.streams s).internalClosed = true → (e'.streams s).internalClosed = true)

namespace Grows

variable {e e' e'' : Engine K}

lemma refl (e : Engine K) : Grows e e :=
  ⟨rfl, rfl, rfl, rfl, le_rfl, le_rfl, le_rfl, List.suffix_rfl, TimerCalm.refl _,
    fun _ _ => ⟨rfl, id, id⟩, fun _ _ => ⟨rfl, id⟩⟩

lemma trans (h : Grows e e') (h' : Grows e' e'') : Grows e e'' where
  depth := h'.depth.trans h.depth
  armed := h'.armed.trans h.armed
  deadline := h'.deadline.trans h.deadline
  defaults := h'.defaults.trans h.defaults
  tick := h.tick.trans h'.tick
  nconns := h.nconns.trans h'.nconns
  nstreams := h.nstreams.trans h'.nstreams
  trace := h.trace.trans h'.trace
  timer := h.timer.trans h'.timer
  conn := fun c hc => by
    have h1 := h.conn c hc
    have h2 := h'.conn c (hc.trans_le h.nconns)
    exact ⟨h2.1.trans h1.1, fun hcl => h2.2.1 (h1.2.1 hcl), fun hst => h1.2.2 (h2.2.2 hst)⟩
  stream := fun s hs => by
    have h1 := h.stream s hs
    have h2 := h'.stream s (hs.trans_le h.nstreams)
    exact ⟨h2.1.trans h1.1, fun hcl => h2.2 (h1.2 hcl)⟩

end Grows

variable {env : Env K} {op : Call} {e e' : Engine K}

lemma ConnOwn.ident_eq {x y : Conn} (h : x.own = y.own) : x.ident = y.ident :=
  congrArg (fun o : ConnOwn => (o.isInitiator, o.localConnectionId, o.peerAddr)) h

lemma StreamOwn.ident_eq {x y : Stream K} (h : x.own = y.own) : x.ident = y.ident :=
  congrArg (fun o : StreamOwn => (o.streamId, o.isInitiator, o.conn)) h

/-- No step leads back to `INIT`. -/
lemma ConnTrans.init {t c : ℕ} {x x' : Conn} {evs : List Event} {now : Option ℤ}
    (h : ConnTrans env op t c x x' evs now) (hs : x'.state = .init) : x.state = .init := by
  cases h <;> first | exact hs | cases hs

section Step

variable {mv : TimerMove} {m : TimerManager Owner} {evs : List Event} {t : ℕ}
  {st : EngineStats} {cs : ℕ → ConnStats}

lemma Grows.stepConn {c : ℕ} {x : Conn} (ht : e.tick ≤ t) (hk : x.own = (e.conns c).own)
    (hst : x.state = .init → (e.conns c).state = .init)
    (hm : mv.Did env e.timerManager (.conn c) m) : Grows e (e.stepConn c x evs m t st cs) := by
  refine
    { Grows.refl e with
      tick := ht, trace := List.suffix_append _ _, timer := TimerCalm.of_did hm
      conn := fun d _ => ?_ }
  by_cases hd : d = c
  · subst hd
    simp only [Engine.stepConn, Function.update_self]
    exact ⟨ConnOwn.ident_eq hk, fun h => (congrArg ConnOwn.internalClosed hk).trans h, hst⟩
  · simp [Engine.stepConn, hd]

lemma Grows.stepStream {s : ℕ} {x : Stream K} {p : PendMove} (ht : e.tick ≤ t)
    (hk : x.own = (e.streams s).own) (hm : mv.Did env e.timerManager (.stream s) m) :
    Grows e (e.stepStream s x evs m t st cs p) := by
  refine
    { Grows.refl e with
      tick := ht, trace := List.suffix_append _ _, timer := TimerCalm.of_did hm
      stream := fun d _ => ?_ }
  by_cases hd : d = s
  · subst hd
    simp only [Engine.stepStream, Function.update_self]
    exact ⟨StreamOwn.ident_eq hk, fun h => (congrArg StreamOwn.internalClosed hk).trans h⟩
  · simp [Engine.stepStream, hd]

end Step

lemma Grows.finalStream (e : Engine K) (s : ℕ) (reason : UInt8) :
    Grows e (e.finalStream s reason) := by
  refine
    { Grows.refl e with
      tick := Nat.le_succ _, trace := List.suffix_append _ _
      timer := TimerCalm.unregister _ _, conn := fun c _ => ?_
      stream := fun q _ => ?_ }
  · rw [finalStream_conns]
    exact ⟨rfl, id, id⟩
  · by_cases hq : q = s
    · subst hq
      rw [finalStream_streams_self]
      exact ⟨rfl, fun _ => rfl⟩
    · rw [finalStream_streams_of_ne reason hq]
      exact ⟨rfl, id⟩

lemma Grows.beginConn (e : Engine K) (c : ℕ) : Grows e (e.beginConn c) := by
  refine
    { Grows.refl e with
      tick := Nat.le_succ _, timer := TimerCalm.unregister _ _, conn := fun d _ => ?_ }
  rw [beginConn_conns]
  refine ⟨rfl, fun h => ?_, id⟩
  by_cases hd : d = c
  · simp [hd]
  · simpa [hd] using h

lemma Grows.endConn (e : Engine K) (c : ℕ) (reason : UInt8) : Grows e (e.endConn c reason) := by
  refine { Grows.refl e with trace := List.suffix_append _ _, conn := fun d _ => ?_ }
  by_cases hd : d = c
  · subst hd
    simp only [Engine.endConn, Function.update_self]
    refine ⟨rfl, id, fun h => ?_⟩
    split_ifs at h
  · simp [Engine.endConn, hd]

lemma Grows.connFinal (h : Own env e) {c : ℕ} {reason : UInt8} (hd : 0 < e.operationDepth)
    (hl : e.LiveConn c) : Grows e (connCloseInternal env e c reason) := by
  refine connFinal_induct (P := Grows e) (Q := Grows e) h hd hl (Grows.beginConn e c) ?_ ?_
  · intro e1 s _ _ _ _ hP
    exact hP.trans (Grows.finalStream e1 s _)
  · intro e1 _ _ _ _ _ hP
    exact hP.trans (Grows.endConn e1 _ _)

/-- **Every step** only grows. -/
lemma Act.grows (ha : Act env op e e') (h : Own env e) : Grows e e' := by
  cases ha with
  | conn hl ht hx hm hst => exact Grows.stepConn ht hx.kept.own hx.init hm
  | stream hl ht hx hm hst => exact Grows.stepStream ht hx.own hm
  | quiet ht hst => exact { Grows.refl e with tick := ht }
  | idLost ht hid => exact { Grows.refl e with tick := ht }
  | popBatch => exact { Grows.refl e with }
  | connNew ht hid hcap hx =>
      refine
        { Grows.refl e with
          tick := ht, nconns := Nat.le_succ _, timer := TimerCalm.nodeInit _ _ _
          conn := fun c hc => ?_ }
      rw [newConn_conns_of_lt hc]
      exact ⟨rfl, id, id⟩
  | streamNew hl hs ht hcap hx hm =>
      refine
        { Grows.refl e with
          tick := ht, nstreams := Nat.le_succ _, trace := List.suffix_append _ _
          timer := (TimerCalm.nodeInit _ _ _).trans (TimerCalm.of_did hm)
          conn := fun c _ => ?_, stream := fun s hs => ?_ }
      · rw [newStream_conns]
        exact ⟨rfl, id, id⟩
      · rw [newStream_streams_of_lt hs]
        exact ⟨rfl, id⟩
  | streamFailed ht hc hx =>
      refine
        { Grows.refl e with
          tick := ht, nstreams := Nat.le_succ _, trace := List.suffix_append _ _
          stream := fun s hs => ?_ }
      simp [Engine.deadStream, Nat.ne_of_lt hs]
  | streamFinal hd hl => exact Grows.finalStream e _ _
  | streamLast hd hl ht hx hm hst =>
      exact (Grows.stepStream ht hx.own hm).trans (Grows.finalStream _ _ _)
  | connFinal hd hl => exact Grows.connFinal h hd hl
  | @connLast c t x evs st cs hd hl ht hx hst =>
      have hs := SameOwn.connLast env hl hx t st cs
      have hm : TimerMove.keep.Did env e.timerManager (.conn c) e.timerManager := rfl
      refine (Grows.stepConn ht hx.kept.own ?_ hm).trans
        (Grows.connFinal (h.of_same hs) hd ((hs.liveConn _).mpr hl))
      cases hx
      exact id

lemma Acts.grows (ha : Acts env op e e') (h : Own env e) : Grows e e' := by
  induction ha using Relation.ReflTransGen.head_induction_on with
  | refl => exact Grows.refl _
  | head hstep _ ih => exact (hstep.grows h).trans (ih (hstep.own h))

/-! ### Connections in the making -/

/-- A connection that has left `INIT` does not come back to it. -/
lemma Acts.settled (ha : Acts env op e e') (h : Own env e) {c : ℕ} (hc : c < e.nconns)
    (hs : (e.conns c).state ≠ .init) : (e'.conns c).state ≠ .init :=
  fun h' => hs (((ha.grows h).conn c hc).2.2 h')

/-- No live connection is in `INIT`. -/
def Engine.NoInit (e : Engine K) : Prop := ∀ c, e.LiveConn c → (e.conns c).state ≠ .init

/-- A connection that is still live was live before. -/
lemma Grows.settled (h : Grows e e') (hi : e.NoInit) {c : ℕ} (hc : c < e.nconns)
    (hl : e'.LiveConn c) : (e'.conns c).state ≠ .init := by
  obtain ⟨-, hcl, hback⟩ := h.conn c hc
  intro hst
  refine hi c ⟨hc, ?_⟩ (hback hst)
  by_contra hdead
  rw [Bool.not_eq_false] at hdead
  exact absurd (hcl hdead) (by simp [hl.2])

/-- Without new connections none is in `INIT` afterwards. -/
lemma Grows.noInit (h : Grows e e') (hn : e'.nconns = e.nconns) (hi : e.NoInit) : e'.NoInit :=
  fun _ hl => h.settled hi (hn ▸ hl.1) hl

/-- One new connection, which is not in `INIT` if it is live. -/
lemma Grows.noInit_succ (h : Grows e e') (hn : e'.nconns = e.nconns + 1) (hi : e.NoInit)
    (hnew : e'.LiveConn e.nconns → (e'.conns e.nconns).state ≠ .init) : e'.NoInit := by
  intro c hl
  rcases Nat.lt_succ_iff_lt_or_eq.mp (hn ▸ hl.1) with hc | rfl
  · exact h.settled hi hc hl
  · exact hnew hl

/-- Whether a call can create a connection. -/
def Call.Connects : Call → Prop
  | .connConnect _ _ _ _ => True
  | .input d _ => Buf.of d 0 = msgConnConnect
  | _ => False

lemma NewConn.connects {t : ℕ} {x : Conn} (h : NewConn env op e t x) : op.Connects := by
  cases h with
  | initiator hop => rw [hop]; trivial
  | passive hop hd => rw [hop]; exact hd.type

lemma connCloseInternal_nconns (h : Own env e) (hd : 0 < e.operationDepth) {c : ℕ}
    (hl : e.LiveConn c) (reason : UInt8) :
    (connCloseInternal env e c reason).nconns = e.nconns ∧
      (connCloseInternal env e c reason).nstreams = e.nstreams :=
  connFinal_induct (P := fun e' => e'.nconns = e.nconns ∧ e'.nstreams = e.nstreams)
    (Q := fun e' => e'.nconns = e.nconns ∧ e'.nstreams = e.nstreams) h hd hl ⟨rfl, rfl⟩
    (fun _ _ _ _ _ _ hP => hP) fun _ _ _ _ _ _ hP => hP

/-- A finalised connection is dead. -/
lemma connCloseInternal_closed (h : Own env e) (hd : 0 < e.operationDepth) {c : ℕ}
    (hl : e.LiveConn c) (reason : UInt8) :
    ((connCloseInternal env e c reason).conns c).internalClosed = true := by
  refine connFinal_induct (P := fun _ => True)
    (Q := fun e' => (e'.conns c).internalClosed = true) h hd hl trivial
    (fun _ _ _ _ _ _ _ => trivial) fun e' _ _ _ hcl _ _ => ?_
  simpa [Engine.endConn] using hcl

/-- A call that creates no connection leaves their number alone. -/
lemma Acts.nconns (ha : Acts env op e e') (h : Own env e) (hop : ¬ op.Connects) :
    e'.nconns = e.nconns := by
  induction ha using Relation.ReflTransGen.head_induction_on with
  | refl => rfl
  | head hstep _ ih =>
      refine (ih (hstep.own h)).trans ?_
      cases hstep with
      | connNew _ _ _ hx => exact absurd hx.connects hop
      | connFinal hd hl => exact (connCloseInternal_nconns h hd hl _).1
      | @connLast c t x evs st cs hd hl ht hx hst =>
          have hs := SameOwn.connLast env hl hx t st cs
          exact (connCloseInternal_nconns (h.of_same hs) hd ((hs.liveConn _).mpr hl) _).1
      | _ => rfl

lemma Acts.noInit (ha : Acts env op e e') (h : Own env e) (hop : ¬ op.Connects)
    (hi : e.NoInit) : e'.NoInit :=
  (ha.grows h).noInit (ha.nconns h hop) hi

/-- A clock reading stays in the past. -/
lemma Read.mono {t t' : ℕ} {now : ℤ} (h : Read env t now) (ht : t ≤ t') : Read env t' now := by
  obtain ⟨k, hk, rfl⟩ := h
  exact ⟨k, hk.trans_le ht, rfl⟩

end KcpMux
