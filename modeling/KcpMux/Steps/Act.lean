import KcpMux.Steps.Cascade
import KcpMux.Steps.Create

/-!
The steps an engine is made of.

`Act env op` is one step in the course of the call `op`: a change of one object
(`ConnTrans`, `StreamTrans`), bookkeeping, or the creation or finalisation of an object.  An
operation is a chain of such steps (`Acts`).  The finalisation of a connection is one step,
which `connFinal_induct` takes apart.

* `Sound`: ownership, and every live stream has a live connection;
* `Act.sound`, `Acts.sound`: a chain of steps keeps it;
* `Act.grows`, `Acts.grows`: what never goes back in the course of a run.
-/

namespace KcpMux

variable {K : Type}

/-- The condition under which `kcpmux_stream_finish_batch_at` does something about a live
stream. -/
def Engine.Batched (e : Engine K) (s : ℕ) : Prop :=
  (e.streams s).pendingCount ≠ 0 ∧ (e.streams s).state = .opened ∧
    (e.connOf s).state = .connected ∧
    ((e.streams s).config.batchThreshold > 1 →
      (e.streams s).pendingCount < (e.streams s).config.batchThreshold)

/-- One step in the course of the call `op`. -/
inductive Act (env : Env K) (op : Call) : Engine K → Engine K → Prop
  | conn {e : Engine K} {c t : ℕ} {x : Conn} {evs : List Event} {now : Option ℤ}
      {m : TimerManager Owner} {st : EngineStats} {cs : ℕ → ConnStats} (hl : e.LiveConn c)
      (ht : e.tick ≤ t) (h : ConnTrans env op t c (e.conns c) x evs now)
      (hm : (connMoveAt x now).Did env e.timerManager (.conn c) m)
      (hst : st.life = e.stats.life) : Act env op e (e.stepConn c x evs m t st cs)
  | stream {e : Engine K} {s t : ℕ} {x : Stream K} {evs : List Event} {mv : TimerMove}
      {p : PendMove} {m : TimerManager Owner} {st : EngineStats} {cs : ℕ → ConnStats}
      (hl : e.LiveStream s) (ht : e.tick ≤ t)
      (h : StreamTrans env op e t s (e.connOf s) (e.streams s) x evs mv p)
      (hm : mv.Did env e.timerManager (.stream s) m) (hst : st.life = e.stats.life) :
      Act env op e (e.stepStream s x evs m t st cs p)
  | quiet {e : Engine K} {t : ℕ} {st : EngineStats} {cs : ℕ → ConnStats} (ht : e.tick ≤ t)
      (hst : st.life = e.stats.life) :
      Act env op e { e with tick := t, stats := st, connStats := cs }
  | idLost {e : Engine K} {t : ℕ} (ht : e.tick ≤ t) (hid : e.nextConnectionId ≠ 0) :
      Act env op e { e with tick := t, nextConnectionId := e.nextConnectionId + 1 }
  | popBatch {e : Engine K} {s : ℕ} {rest : List ℕ} (h : e.pendingBatchStreams = s :: rest)
      (hb : ¬ e.Batched s) :
      Act env op e { e with pendingBatchStreams := rest }
  | connNew {e : Engine K} {x : Conn} {t : ℕ} {capacity : ℕ} (ht : e.tick ≤ t)
      (hid : e.nextConnectionId ≠ 0) (hcap : e.timerNodeCount < capacity)
      (hx : NewConn env op e t x) :
      Act env op e (e.newConn env x
        (timerNodeInit { e.timerManager with capacity } (.conn e.nconns)) t
        { e.stats with connCreatedTotal := e.stats.connCreatedTotal + 1 })
  | streamNew {e : Engine K} {c t : ℕ} {x : Stream K} {latest : Option UInt32} {r : ℤ}
      {capacity : ℕ} {m : TimerManager Owner} (hl : e.LiveConn c)
      (hs : (e.conns c).state = .connected) (ht : e.tick ≤ t)
      (hcap : e.timerNodeCount < capacity) (hx : NewStream env op e t c x latest)
      (hm : (refreshMove (e.conns c) x x.readBlockStartTs r).Did env
        (timerNodeInit { e.timerManager with capacity } (.stream e.nstreams))
        (.stream e.nstreams) m) :
      Act env op e (e.newStream env c x
        (.kcp e.nstreams (.check x.readBlockStartTs r) :: streamNewEvents e.nstreams x.config)
        m t
        { e.stats with
          streamCreatedTotal := e.stats.streamCreatedTotal + 1
          streamOpenedTotal := e.stats.streamOpenedTotal + 1 } latest)
  | streamFailed {e : Engine K} {t : ℕ} {x : Stream K} (ht : e.tick ≤ t)
      (hc : e.LiveConn x.conn)
      (hx : x.internalClosed = true ∧ x.kcp = none ∧ x.inStreamMap = false ∧
        x.callbacks = {} ∧ x.closePhase = .none ∧ x.state = .opened) :
      Act env op e (e.deadStream x
        (.release (.stream e.nstreams) :: .kcp e.nstreams .release ::
          streamNewEvents e.nstreams x.config) t)
  | streamFinal {e : Engine K} {s : ℕ} {reason : UInt8} (hd : 0 < e.operationDepth)
      (hl : e.LiveStream s) :
      Act env op e (e.finalStream s reason)
  | streamLast {e : Engine K} {s t : ℕ} {x : Stream K} {evs : List Event} {mv : TimerMove}
      {m : TimerManager Owner} {st : EngineStats} {cs : ℕ → ConnStats} {reason : UInt8}
      (hd : 0 < e.operationDepth) (hl : e.LiveStream s) (ht : e.tick ≤ t)
      (h : StreamLast env t s (e.connOf s) (e.streams s) x evs mv)
      (hm : mv.Did env e.timerManager (.stream s) m) (hst : st.life = e.stats.life) :
      Act env op e ((e.stepStream s x evs m t st cs .keep).finalStream s reason)
  | connFinal {e : Engine K} {c : ℕ} {reason : UInt8} (hd : 0 < e.operationDepth)
      (hl : e.LiveConn c) (hs : (e.conns c).state ≠ .init) :
      Act env op e (connCloseInternal env e c reason)
  | connLast {e : Engine K} {c t : ℕ} {x : Conn} {evs : List Event} {st : EngineStats}
      {cs : ℕ → ConnStats} (hd : 0 < e.operationDepth) (hl : e.LiveConn c) (ht : e.tick ≤ t)
      (h : ConnLast c (e.conns c) x evs) (hst : st.life = e.stats.life) :
      Act env op e (connCloseInternal env (e.stepConn c x evs e.timerManager t st cs) c
        closeReasonRejected)

/-- A chain of steps. -/
abbrev Acts (env : Env K) (op : Call) : Engine K → Engine K → Prop :=
  Relation.ReflTransGen (Act env op)

variable {env : Env K} {op : Call} {e e' : Engine K}

/-! ### Ownership -/

/-- A connection that is about to be refused. -/
lemma SameOwn.connLast {c : ℕ} {x : Conn} {evs : List Event} (env : Env K) (hl : e.LiveConn c)
    (h : ConnLast c (e.conns c) x evs) (t : ℕ) (st : EngineStats) (cs : ℕ → ConnStats) :
    SameOwn e (e.stepConn c x evs e.timerManager t st cs) := by
  have hm : TimerMove.keep.Did env e.timerManager (.conn c) e.timerManager := rfl
  exact SameOwn.stepConn hl h.kept hm h.subject

lemma streamNewEvents_subject (s : ℕ) (config : StreamConfig) :
    ∀ ev ∈ streamNewEvents s config, ev.subject = some (.stream s) := by
  simp [streamNewEvents, Event.subject]

/-- **Every step keeps ownership.** -/
lemma Act.own (ha : Act env op e e') (h : Own env e) : Own env e' := by
  cases ha with
  | conn hl ht hx hm hst => exact h.of_same (SameOwn.stepConn hl hx.kept hm hx.subject)
  | stream hl ht hx hm hst =>
      exact h.of_same (SameOwn.stepStream hl hx.own hx.pend hm hx.subject)
  | quiet ht hst =>
      exact h.of_same
        { nconns := rfl, nstreams := rfl, connMap := rfl, handshakeMap := rfl
          nextConnectionId := rfl, conn := fun _ => ConnKept.refl _, stream := fun _ => rfl
          owner := fun _ => rfl, idle := fun _ _ => rfl, valid := id, batch := id
          known := fun _ hev => Or.inl hev }
  | idLost ht hid =>
      refine { h with connId := fun c hc => ⟨(h.connId c hc).1, ?_⟩ }
      have hlt := ((h.connId c hc).2).resolve_left hid
      exact (next_zero_or_lt e.nextConnectionId).imp_right (UInt64.lt_trans hlt)
  | popBatch hp =>
      refine { h with batch := ?_ }
      have hb := h.batch
      rw [Engine.BatchOk, hp] at hb
      exact ⟨(List.nodup_cons.mp hb.1).2, fun s hs => hb.2 s (List.mem_cons_of_mem _ hs)⟩
  | connNew ht hid hcap hx => exact h.newConn (hx.fresh h) hid _
  | streamNew hl hs ht hcap hx hm =>
      refine h.newStream (hx.fresh h hl.1) hl.1 hm fun ev hev => ?_
      rcases List.mem_cons.mp hev with rfl | hev
      · rfl
      · exact streamNewEvents_subject _ _ ev hev
  | streamFailed ht hc hx =>
      refine h.deadStream hc.1 hx.1 hx.2.1 hx.2.2.1 fun ev hev => ?_
      rcases List.mem_cons.mp hev with rfl | hev
      · rfl
      · rcases List.mem_cons.mp hev with rfl | hev
        · rfl
        · exact streamNewEvents_subject _ _ ev hev
  | streamFinal hd hl => exact h.finalStream _ hl
  | @streamLast s t x evs mv m st cs reason hd hl ht hx hm hst =>
      have hs : SameOwn e (e.stepStream s x evs m t st cs .keep) :=
        SameOwn.stepStream hl hx.own hx.pend hm hx.subject
      exact (h.of_same hs).finalStream _ ((hs.liveStream _).mpr hl)
  | connFinal hd hl => exact h.connFinal hd hl
  | @connLast c t x evs st cs hd hl ht hx hst =>
      have hs := SameOwn.connLast env hl hx t st cs
      exact (h.of_same hs).connFinal hd ((hs.liveConn _).mpr hl)

/-- Between two steps a live stream has a live connection, its state and close phase agree, and
its KCP instance has come about by operations. -/
structure Sound (env : Env K) (e : Engine K) : Prop extends Own env e where
  settled : ∀ s, e.LiveStream s → (e.connOf s).internalClosed = false
  phased : ∀ s, e.LiveStream s → (e.streams s).Phased
  ran : ∀ s, e.LiveStream s → (e.streams s).Ran env

/-- The connection of a live stream. -/
lemma Sound.liveConn (h : Sound env e) {s : ℕ} (hs : e.LiveStream s) :
    e.LiveConn (e.streams s).conn :=
  ⟨h.connOf_lt s hs.1, h.settled s hs⟩

/-- A step that closes nothing keeps streams on live connections. -/
lemma settled_of_same (h : Sound env e) (hs : SameOwn e e') (s : ℕ) (hl : e'.LiveStream s) :
    (e'.connOf s).internalClosed = false := by
  rw [Engine.connOf, hs.streamConn]
  exact (congrArg ConnOwn.internalClosed (hs.conn _).own).trans
    (h.settled s ((hs.liveStream s).mp hl))

lemma settled_finalStream {reason : UInt8} {s : ℕ}
    (h : ∀ q, e.LiveStream q → (e.connOf q).internalClosed = false) (q : ℕ)
    (hq : (e.finalStream s reason).LiveStream q) :
    ((e.finalStream s reason).connOf q).internalClosed = false := by
  rw [Engine.connOf, finalStream_conns, finalStream_streams_conn]
  exact h q ((finalStream_liveStream reason q).mp hq).1

lemma settled_connFinal (h : Own env e)
    (hs : ∀ q, e.LiveStream q → (e.connOf q).internalClosed = false) {c : ℕ} {reason : UInt8}
    (hd : 0 < e.operationDepth) (hl : e.LiveConn c) :
    ∀ q, (connCloseInternal env e c reason).LiveStream q →
      ((connCloseInternal env e c reason).connOf q).internalClosed = false := by
  -- during the cascade only streams of `c` have a dead connection
  refine connFinal_induct
    (P := fun e' => ∀ q, e'.LiveStream q →
      (e'.connOf q).internalClosed = true → (e'.streams q).conn = c)
    (Q := fun e' => ∀ q, e'.LiveStream q → (e'.connOf q).internalClosed = false)
    h hd hl ?_ ?_ ?_
  · intro q hq hcl
    by_contra hne
    rw [Engine.connOf, beginConn_conns, if_neg hne] at hcl
    have hopen : (e.conns (e.streams q).conn).internalClosed = false := hs q hq
    exact absurd (hopen.symm.trans hcl) (by decide)
  · intro e1 s ho hd1 hc1 hs hP q hq hcl
    rw [Engine.connOf, finalStream_conns] at hcl
    rw [finalStream_streams_conn] at hcl ⊢
    exact hP q ((finalStream_liveStream _ q).mp hq).1 hcl
  · intro e1 ho hd1 hlt hc1 hnone hP q hq
    have hne : (e1.streams q).conn ≠ c := fun hc => hnone q ⟨hq, hc⟩
    have hq1 := mt (hP q hq) hne
    rw [Bool.not_eq_true] at hq1
    simpa [Engine.connOf, Engine.endConn, hne] using hq1

/-- Every step leaves live streams on live connections. -/
lemma Act.settled (ha : Act env op e e') (h : Sound env e) (s : ℕ) (hs : e'.LiveStream s) :
    (e'.connOf s).internalClosed = false := by
  revert s
  cases ha with
  | conn hl ht hx hm hst => exact settled_of_same h (SameOwn.stepConn hl hx.kept hm hx.subject)
  | stream hl ht hx hm hst =>
      exact settled_of_same h (SameOwn.stepStream hl hx.own hx.pend hm hx.subject)
  | quiet => exact h.settled
  | idLost => exact h.settled
  | popBatch => exact h.settled
  | connNew ht hid hcap hx =>
      intro s hs
      have hs' : e.LiveStream s := hs
      rw [Engine.connOf, newConn_streams, newConn_conns_of_lt (h.connOf_lt s hs'.1)]
      exact h.settled s hs'
  | streamNew hl hs ht hcap hx hm =>
      have hf := hx.fresh h.toOwn hl.1
      intro s hs
      rw [newStream_liveStream hf] at hs
      rw [Engine.connOf, newStream_conns]
      rcases hs with rfl | hs
      · rw [newStream_streams_self]
        simpa [hf.conn] using hl.2
      · rw [newStream_streams_of_lt hs.1]
        exact h.settled s hs
  | streamFailed ht hc hx =>
      intro s hs
      by_cases hsn : s = e.nstreams
      · subst hsn
        simp [Engine.LiveStream, Engine.deadStream, hx.1] at hs
      · have hs' : e.LiveStream s := by
          simp only [Engine.LiveStream, Engine.deadStream, hsn, ne_eq, not_false_eq_true,
            Function.update_of_ne] at hs
          exact ⟨by omega, hs.2⟩
        simpa [Engine.connOf, Engine.deadStream, hsn] using h.settled s hs'
  | streamFinal hd hl => exact settled_finalStream h.settled
  | streamLast hd hl ht hx hm hst =>
      exact settled_finalStream (settled_of_same h
        (SameOwn.stepStream (p := .keep) hl hx.own hx.pend hm hx.subject))
  | connFinal hd hl => exact settled_connFinal h.toOwn h.settled hd hl
  | @connLast c t x evs st cs hd hl ht hx hst =>
      have hs := SameOwn.connLast env hl hx t st cs
      exact settled_connFinal (h.toOwn.of_same hs) (settled_of_same h hs) hd
        ((hs.liveConn _).mpr hl)

section LiveForall

variable {P : Stream K → Prop}

lemma finalStream_forall {reason : UInt8} {s : ℕ} (hp : ∀ q, e.LiveStream q → P (e.streams q))
    (q : ℕ) (hq : (e.finalStream s reason).LiveStream q) :
    P ((e.finalStream s reason).streams q) := by
  obtain ⟨hl, hne⟩ := (finalStream_liveStream reason q).mp hq
  rw [finalStream_streams_of_ne reason hne]
  exact hp q hl

lemma connFinal_forall (h : Own env e) (hp : ∀ q, e.LiveStream q → P (e.streams q))
    {c : ℕ} {reason : UInt8} (hd : 0 < e.operationDepth) (hl : e.LiveConn c) :
    ∀ q, (connCloseInternal env e c reason).LiveStream q →
      P ((connCloseInternal env e c reason).streams q) :=
  connFinal_induct (P := fun e' => ∀ q, e'.LiveStream q → P (e'.streams q))
    (Q := fun e' => ∀ q, e'.LiveStream q → P (e'.streams q)) h hd hl hp
    (fun _ _ _ _ _ _ hP => finalStream_forall hP) fun _ _ _ _ _ _ hP => hP

/-- What holds of every live stream, when it holds of new streams and is kept by the changes of a
stream. -/
lemma Act.live_forall (ha : Act env op e e') (h : Own env e)
    (hnew : ∀ {t c x latest}, NewStream env op e t c x latest → P { x with inStreamMap := true })
    (htrans : ∀ {t s x evs mv p},
      StreamTrans env op e t s (e.connOf s) (e.streams s) x evs mv p → P (e.streams s) → P x)
    (hp : ∀ s, e.LiveStream s → P (e.streams s)) :
    ∀ s, e'.LiveStream s → P (e'.streams s) := by
  cases ha with
  | conn => exact hp
  | @stream s t x evs mv p m st cs hl ht hx hm hst =>
      intro q hq
      by_cases hqs : q = s
      · subst hqs
        simpa [Engine.stepStream] using htrans hx (hp q hl)
      · simp only [Engine.LiveStream, Engine.stepStream, ne_eq, hqs, not_false_eq_true,
          Function.update_of_ne] at hq ⊢
        exact hp q hq
  | quiet => exact hp
  | idLost => exact hp
  | popBatch => exact hp
  | connNew => exact hp
  | streamNew hl hs ht hcap hx hm =>
      intro q hq
      rcases (newStream_liveStream (hx.fresh h hl.1) q).mp hq with rfl | hq
      · rw [newStream_streams_self]
        exact hnew hx
      · rw [newStream_streams_of_lt hq.1]
        exact hp q hq
  | streamFailed ht hc hx =>
      intro q hq
      by_cases hqn : q = e.nstreams
      · subst hqn
        simp [Engine.LiveStream, Engine.deadStream, hx.1] at hq
      · simp only [Engine.LiveStream, Engine.deadStream, ne_eq, hqn, not_false_eq_true,
          Function.update_of_ne] at hq ⊢
        exact hp q ⟨by omega, hq.2⟩
  | streamFinal hd hl => exact finalStream_forall hp
  | @streamLast s t x evs mv m st cs reason hd hl ht hx hm hst =>
      intro q hq
      obtain ⟨hl1, hne⟩ := (finalStream_liveStream reason q).mp hq
      rw [finalStream_streams_of_ne reason hne]
      simp only [Engine.LiveStream, Engine.stepStream, ne_eq, hne, not_false_eq_true,
        Function.update_of_ne] at hl1 ⊢
      exact hp q hl1
  | connFinal hd hl => exact connFinal_forall h hp hd hl
  | @connLast c t x evs st cs hd hl ht hx hst =>
      have hs := SameOwn.connLast env hl hx t st cs
      exact connFinal_forall (h.of_same hs) hp hd ((hs.liveConn _).mpr hl)

end LiveForall

/-- Every step keeps state and close phase of live streams in agreement. -/
lemma Act.phased (ha : Act env op e e') (h : Sound env e) :
    ∀ s, e'.LiveStream s → (e'.streams s).Phased := by
  refine ha.live_forall h.toOwn (fun hx => ?_) (fun hx hp => hx.phased hp) h.phased
  cases hx <;> exact Or.inl ⟨rfl, rfl⟩

/-- Every step leaves live streams with instances that have come about by operations. -/
lemma Act.ran (ha : Act env op e e') (h : Sound env e) :
    ∀ s, e'.LiveStream s → (e'.streams s).Ran env := by
  refine ha.live_forall (P := Stream.Ran env) h.toOwn (fun hx => ?_) (fun hx hp => hx.ran hp) h.ran
  cases hx with
  | «local» hop hc hid hpar hfresh hnow hk =>
      rintro k ⟨⟩
      exact .new hc hk
  | peer hop hd hc hid hpar hnew hcb hfresh hnow hk =>
      rintro k ⟨⟩
      exact .new hc hk

/-- **Every step keeps the engine sound.** -/
lemma Act.sound (ha : Act env op e e') (h : Sound env e) : Sound env e' :=
  ⟨ha.own h.toOwn, ha.settled h, ha.phased h, ha.ran h⟩

lemma Acts.sound (ha : Acts env op e e') (h : Sound env e) : Sound env e' := by
  induction ha with
  | refl => exact h
  | tail _ hstep ih => exact hstep.sound ih

end KcpMux
