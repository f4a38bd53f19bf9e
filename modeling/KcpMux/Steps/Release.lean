import KcpMux.Steps.Act

/-!
The release of finalised objects.

An object that is finalised is queued, and released at the end of the outermost operation.
`Engine.releaseOrder` is the queue together with the releases in the log, newest first: a
release leaves it as it is.  `Queue` says that it holds each finalised object once, and no
stream after its connection.
-/

namespace KcpMux

variable {K : Type}

/-- The object an entry of the log releases. -/
def Event.released : Event → Option Owner
  | .release o => some o
  | _ => none

/-- The objects that were released or wait for it, newest first. -/
def Engine.releaseOrder (e : Engine K) : List Owner :=
  e.pendingReleaseList.reverse ++ e.trace.filterMap Event.released

/-- Finalised objects are queued or released, once, and no stream after its connection;
`c` is a connection that is about to be queued. -/
structure QueueBut (c : Option ℕ) (e : Engine K) : Prop where
  nodup : e.releaseOrder.Nodup
  mem : ∀ o, o ∈ e.releaseOrder ↔ e.Known o ∧ ¬ e.Live o ∧ ∀ d, c = some d → o ≠ .conn d
  order : e.releaseOrder.Pairwise fun newer older =>
    ∀ d s, older = .conn d → newer = .stream s → (e.streams s).conn ≠ d

/-- Between two steps no connection is about to be queued. -/
abbrev Queue (e : Engine K) : Prop := QueueBut none e

variable {env : Env K} {op : Call} {e e' : Engine K}

lemma Queue.mem_iff (h : Queue e) (o : Owner) :
    o ∈ e.releaseOrder ↔ e.Known o ∧ ¬ e.Live o := by
  rw [h.mem]
  simp

/-! ### Steps that finalise nothing -/

lemma releaseOrder_append {evs : List Event} (hp : e'.pendingReleaseList = e.pendingReleaseList)
    (ht : e'.trace = evs ++ e.trace) (hev : ∀ ev ∈ evs, ev.released = none) :
    e'.releaseOrder = e.releaseOrder := by
  rw [Engine.releaseOrder, Engine.releaseOrder, hp, ht, List.filterMap_append,
    List.filterMap_eq_nil_iff.mpr hev, List.nil_append]

lemma ConnTrans.released {t c : ℕ} {x x' : Conn} {evs : List Event} {now : Option ℤ}
    (h : ConnTrans env op t c x x' evs now) : ∀ ev ∈ evs, ev.released = none := by
  have hst : ∀ st, ∀ ev ∈ connStateEvents c x st, ev.released = none := by
    intro st
    rw [connStateEvents]
    split_ifs <;> simp [Event.released]
  cases h with
  | established => exact hst _
  | accept =>
      intro ev hev
      rcases List.mem_cons.mp hev with rfl | hev
      · rfl
      · rcases List.mem_append.mp hev with hev | hev
        · exact hst _ ev hev
        · rw [List.mem_singleton.mp hev]
          rfl
  | close => exact hst _
  | idle => exact hst _
  | sendClose => split_ifs <;> simp [Event.released]
  | _ => simp [Event.released]

lemma ConnLast.released {c : ℕ} {x x' : Conn} {evs : List Event} (h : ConnLast c x x' evs) :
    ∀ ev ∈ evs, ev.released = none := by
  cases h with
  | reject hi hs hr hev => rcases hev with rfl | ⟨-, rfl | rfl⟩ <;> simp [Event.released]

lemma refreshEvents_released (s : ℕ) (conn : Conn) (x : Stream K) (now r : ℤ) :
    ∀ ev ∈ refreshEvents s conn x now r, ev.released = none := by
  rw [refreshEvents]
  split_ifs <;> simp [Event.released]

lemma streamCloseEvents_released (s : ℕ) (x : Stream K) (phase : ClosePhase)
    {refresh : List Event} (h : ∀ ev ∈ refresh, ev.released = none) :
    ∀ ev ∈ streamCloseEvents s x phase refresh, ev.released = none := by
  intro ev hev
  rw [streamCloseEvents, List.mem_append, List.mem_append] at hev
  rcases hev with (hev | hev) | hev
  · split_ifs at hev <;> simp_all [Event.released]
  · exact h ev hev
  · simp_all [Event.released]

lemma StreamTrans.released {t s : ℕ} {conn : Conn} {x x' : Stream K} {evs : List Event}
    {mv : TimerMove} {p : PendMove} (h : StreamTrans env op e t s conn x x' evs mv p) :
    ∀ ev ∈ evs, ev.released = none := by
  cases h with
  | flow h =>
      cases h with
      | unblockWrite => split_ifs <;> simp [Event.released]
      | unblockRead => split_ifs <;> simp [Event.released]
      | _ => simp
  | refresh => exact refreshEvents_released _ _ _ _ _
  | config => exact refreshEvents_released _ _ _ _ _
  | startClose => exact streamCloseEvents_released _ _ _ (refreshEvents_released _ _ _ _ _)
  | remoteClose => exact streamCloseEvents_released _ _ _ (by simp)
  | _ => simp [Event.released, streamCloseWrite]

lemma StreamLast.released {t s : ℕ} {conn : Conn} {x x' : Stream K} {evs : List Event}
    {mv : TimerMove} (h : StreamLast env t s conn x x' evs mv) :
    ∀ ev ∈ evs, ev.released = none := by
  cases h with
  | drainExpired hnow hs hp =>
      intro ev hev
      rcases List.mem_append.mp hev with hev | hev
      · exact refreshEvents_released _ _ _ _ _ ev hev
      · simp_all [Event.released, streamCloseWrite]
  | fail => simp

lemma streamNewEvents_released (s : ℕ) (config : StreamConfig) :
    ∀ ev ∈ streamNewEvents s config, ev.released = none := by
  simp [streamNewEvents, Event.released]

/-- A step that leaves the life of every object and the release order alone. -/
lemma QueueBut.of_same {c : Option ℕ} (h : QueueBut c e) (hs : SameOwn e e')
    (ho : e'.releaseOrder = e.releaseOrder) : QueueBut c e' := by
  have hk : ∀ o, e'.Known o ↔ e.Known o := by
    intro o
    cases o with
    | conn d => rw [Engine.Known, Engine.Known, hs.nconns]
    | stream s => rw [Engine.Known, Engine.Known, hs.nstreams]
  refine ⟨ho ▸ h.nodup, fun o => ?_, ?_⟩
  · rw [ho, h.mem, hk, hs.live]
  · rw [ho]
    refine h.order.imp fun hpair d s hd hst => ?_
    rw [hs.streamConn]
    exact hpair d s hd hst

/-! ### Steps that finalise -/

section Final

variable {reason : UInt8} {s c : ℕ}

lemma finalStream_releaseOrder (e : Engine K) (s : ℕ) (reason : UInt8) :
    (e.finalStream s reason).releaseOrder = .stream s :: e.releaseOrder := by
  have hev : (finalStreamEvents s (e.streams s) reason).filterMap Event.released = [] := by
    rw [finalStreamEvents]
    split_ifs <;> rfl
  simp [Engine.releaseOrder, Engine.finalStream, List.filterMap_append, hev]

lemma endConn_releaseOrder (e : Engine K) (c : ℕ) (reason : UInt8) :
    (e.endConn c reason).releaseOrder = .conn c :: e.releaseOrder := by
  have hev : (endConnEvents c (e.conns c) reason).filterMap Event.released = [] := by
    rw [endConnEvents]
    split_ifs <;> rfl
  simp [Engine.releaseOrder, Engine.endConn, List.filterMap_append, hev]

/-- A finalised stream is queued. -/
lemma QueueBut.finalStream {b : Option ℕ} (h : QueueBut b e) (hl : e.LiveStream s)
    (hc : .conn (e.streams s).conn ∉ e.releaseOrder) : QueueBut b (e.finalStream s reason) := by
  have hnew : .stream s ∉ e.releaseOrder := fun hm => ((h.mem _).mp hm).2.1 hl
  refine ⟨?_, fun o => ?_, ?_⟩
  · rw [finalStream_releaseOrder]
    exact List.nodup_cons.mpr ⟨hnew, h.nodup⟩
  · have hk : (e.finalStream s reason).Known o ↔ e.Known o := by cases o <;> rfl
    rw [finalStream_releaseOrder, List.mem_cons, h.mem, finalStream_live, hk]
    constructor
    · rintro (rfl | ⟨h1, h2, h3⟩)
      · exact ⟨hl.1, by simp, by simp⟩
      · exact ⟨h1, fun h => h2 h.1, h3⟩
    · rintro ⟨h1, h2, h3⟩
      by_cases ho : o = .stream s
      · exact Or.inl ho
      · exact Or.inr ⟨h1, fun hlo => h2 ⟨hlo, ho⟩, h3⟩
  · rw [finalStream_releaseOrder]
    refine List.pairwise_cons.mpr ⟨fun older hm d q hd hq => ?_, h.order.imp ?_⟩
    · cases hq
      subst hd
      rw [finalStream_streams_conn]
      rintro rfl
      exact hc hm
    · intro newer older hpair d q hd hq
      rw [finalStream_streams_conn]
      exact hpair d q hd hq

/-- A connection that leaves the tables is about to be queued. -/
lemma QueueBut.beginConn (h : Queue e) (hl : e.LiveConn c) :
    QueueBut (some c) (e.beginConn c) := by
  refine ⟨h.nodup, fun o => ?_, h.order⟩
  have hk : (e.beginConn c).Known o ↔ e.Known o := by cases o <;> rfl
  have hm : o ∈ (e.beginConn c).releaseOrder ↔ o ∈ e.releaseOrder := Iff.rfl
  rw [hm, h.mem, hk, beginConn_live]
  constructor
  · rintro ⟨h1, h2, -⟩
    refine ⟨h1, fun h => h2 h.1, ?_⟩
    rintro d hd rfl
    cases hd
    exact h2 hl
  · rintro ⟨h1, h2, h3⟩
    exact ⟨h1, fun hlo => h2 ⟨hlo, h3 c rfl⟩, by simp⟩

/-- The connection is queued after its streams. -/
lemma QueueBut.endConn (h : QueueBut (some c) e) (hlt : c < e.nconns)
    (hcl : (e.conns c).internalClosed = true) : Queue (e.endConn c reason) := by
  have hconn : ∀ d, ((e.endConn c reason).conns d).internalClosed =
      (e.conns d).internalClosed := by
    intro d
    by_cases hd : d = c
    · subst hd; simp [Engine.endConn]
    · simp [Engine.endConn, hd]
  have hlive : ∀ o, (e.endConn c reason).Live o ↔ e.Live o := by
    intro o
    cases o with
    | conn d =>
        simp only [Engine.live_conn, Engine.LiveConn, hconn]
        exact Iff.rfl
    | stream s => exact Iff.rfl
  have hk : ∀ o, (e.endConn c reason).Known o ↔ e.Known o := by intro o; cases o <;> rfl
  have hnew : .conn c ∉ e.releaseOrder := fun hm => ((h.mem _).mp hm).2.2 c rfl rfl
  refine ⟨?_, fun o => ?_, ?_⟩
  · rw [endConn_releaseOrder]
    exact List.nodup_cons.mpr ⟨hnew, h.nodup⟩
  · rw [endConn_releaseOrder, List.mem_cons, h.mem, hlive, hk]
    constructor
    · rintro (rfl | ⟨h1, h2, -⟩)
      · exact ⟨hlt, fun h => by simp [Engine.LiveConn, hcl] at h, by simp⟩
      · exact ⟨h1, h2, by simp⟩
    · rintro ⟨h1, h2, -⟩
      by_cases ho : o = .conn c
      · exact Or.inl ho
      · refine Or.inr ⟨h1, h2, ?_⟩
        rintro d hd rfl
        cases hd
        exact ho rfl
  · rw [endConn_releaseOrder]
    refine List.pairwise_cons.mpr ⟨?_, h.order⟩
    rintro older - d q - hq
    cases hq

/-- A connection is queued with its streams. -/
lemma Queue.connFinal (hq : Queue e) (h : Own env e) (hd : 0 < e.operationDepth)
    (hl : e.LiveConn c) : Queue (connCloseInternal env e c reason) := by
  -- in the cascade a stream that is finalised belongs to `c`, which is not queued yet
  refine connFinal_induct (P := QueueBut (some c)) (Q := fun e1 => Queue e1) h hd hl
    (QueueBut.beginConn hq hl) ?_ ?_
  · intro e1 s ho hd1 hc1 hs hP
    refine hP.finalStream hs.1 fun hm => ((hP.mem _).mp hm).2.2 c rfl ?_
    rw [hs.2]
  · intro e1 ho hd1 hlt hc1 hnone hP
    exact hP.endConn hlt hc1

end Final

/-! ### Steps that create -/

lemma Queue.newConn {x : Conn} {m : TimerManager Owner} {t : ℕ} {st : EngineStats}
    (h : Queue e) (hx : FreshConn env e x) : Queue (e.newConn env x m t st) := by
  refine ⟨h.nodup, fun o => ?_, h.order⟩
  have hm : o ∈ (e.newConn env x m t st).releaseOrder ↔ o ∈ e.releaseOrder := Iff.rfl
  rw [hm, h.mem_iff, newConn_live hx]
  cases o with
  | conn c =>
      have hk : (e.newConn env x m t st).Known (.conn c) ↔ c = e.nconns ∨ e.Known (.conn c) := by
        simp only [Engine.Known, newConn_nconns]
        omega
      rw [hk]
      by_cases hc : c = e.nconns
      · subst hc
        simp [Engine.Known]
      · simp [hc]
  | stream s =>
      have hk : (e.newConn env x m t st).Known (.stream s) ↔ e.Known (.stream s) := Iff.rfl
      rw [hk]
      simp

/-- A handle that is not in use yet is not released. -/
lemma Queue.not_mem_new (h : Queue e) : .stream e.nstreams ∉ e.releaseOrder := fun hm =>
  absurd ((h.mem_iff _).mp hm).1 (lt_irrefl _)

/-- The streams in the release order keep their connections when a handle is added. -/
lemma Queue.order_update (h : Queue e) (x : Stream K) :
    e.releaseOrder.Pairwise fun newer older => ∀ d s, older = .conn d → newer = .stream s →
      (Function.update e.streams e.nstreams x s).conn ≠ d := by
  refine h.order.imp_of_mem fun hn _ hpair d s hd hs => ?_
  subst hs
  have hne : s ≠ e.nstreams := fun he => h.not_mem_new (he ▸ hn)
  rw [Function.update_of_ne hne]
  exact hpair d s hd rfl

lemma Queue.newStream {c : ℕ} {x : Stream K} {evs : List Event} {m : TimerManager Owner} {t : ℕ}
    {st : EngineStats} {latest : Option UInt32} (h : Queue e) (hx : FreshStream env e c x)
    (hev : ∀ ev ∈ evs, ev.released = none) :
    Queue (e.newStream env c x evs m t st latest) := by
  have ho : (e.newStream env c x evs m t st latest).releaseOrder = e.releaseOrder :=
    releaseOrder_append rfl rfl hev
  refine ⟨ho ▸ h.nodup, fun o => ?_, ?_⟩
  · rw [ho, h.mem_iff, newStream_live hx]
    cases o with
    | conn d =>
        have hk : (e.newStream env c x evs m t st latest).Known (.conn d) ↔ e.Known (.conn d) :=
          Iff.rfl
        rw [hk]
        simp
    | stream s =>
        have hk : (e.newStream env c x evs m t st latest).Known (.stream s) ↔
            s = e.nstreams ∨ e.Known (.stream s) := by
          simp only [Engine.Known, newStream_nstreams]
          omega
        rw [hk]
        by_cases hs : s = e.nstreams
        · subst hs
          simp [Engine.Known]
        · simp [hs]
  · rw [ho]
    exact h.order_update _

/-- A stream that failed is released at once. -/
lemma Queue.deadStream {x : Stream K} {evs : List Event} {t : ℕ} (h : Queue e)
    (hcl : x.internalClosed = true) (hc : e.LiveConn x.conn)
    (hev : ∀ ev ∈ evs, ev.released = none) :
    Queue (e.deadStream x (.release (.stream e.nstreams) :: evs) t) := by
  have hnil : evs.filterMap Event.released = [] := List.filterMap_eq_nil_iff.mpr hev
  have ho : (e.deadStream x (.release (.stream e.nstreams) :: evs) t).releaseOrder =
      e.pendingReleaseList.reverse ++
        .stream e.nstreams :: e.trace.filterMap Event.released := by
    simp [Engine.releaseOrder, Engine.deadStream, List.filterMap_append, hnil, Event.released]
  have hperm : (e.deadStream x (.release (.stream e.nstreams) :: evs) t).releaseOrder.Perm
      (.stream e.nstreams :: e.releaseOrder) := by
    rw [ho]
    exact List.perm_middle
  refine ⟨?_, fun o => ?_, ?_⟩
  · rw [hperm.nodup_iff]
    exact List.nodup_cons.mpr ⟨h.not_mem_new, h.nodup⟩
  · rw [hperm.mem_iff, List.mem_cons, h.mem_iff]
    cases o with
    | conn c => simp [Engine.Known, Engine.LiveConn, Engine.deadStream]
    | stream s =>
        by_cases hs : s = e.nstreams
        · subst hs
          simp [Engine.Known, Engine.LiveStream, Engine.deadStream, hcl]
        · simp only [Engine.Known, Engine.live_stream, Engine.LiveStream, Engine.deadStream,
            Owner.stream.injEq, hs, false_or, ne_eq, not_false_eq_true, Function.update_of_ne]
          have hlt : s < e.nstreams + 1 ↔ s < e.nstreams := by omega
          simp [hlt]
  · obtain ⟨h1, h2, h3⟩ := List.pairwise_append.mp (h.order_update x)
    have hmem : ∀ o ∈ e.trace.filterMap Event.released, o ∈ e.releaseOrder := fun o hm =>
      List.mem_append_right _ hm
    rw [ho]
    refine List.pairwise_append.mpr ⟨h1, List.pairwise_cons.mpr ⟨?_, h2⟩, ?_⟩
    · -- the connection of the failed stream is live, so it is not released
      intro older hm d s hd hs
      cases hs
      subst hd
      have hdead : ¬ e.LiveConn d := ((h.mem_iff _).mp (hmem _ hm)).2
      simp only [Engine.deadStream, Function.update_self]
      rintro rfl
      exact hdead hc
    · intro newer hn older hm d s hd hs
      rcases List.mem_cons.mp hm with rfl | hm
      · cases hd
      · exact h3 newer hn older hm d s hd hs

/-- **Every step keeps the release order.** -/
lemma Act.queue (ha : Act env op e e') (h : Sound env e) (hq : Queue e) : Queue e' := by
  have hlive : ∀ s, e.LiveStream s → .conn (e.streams s).conn ∉ e.releaseOrder := fun s hs hm =>
    ((hq.mem_iff _).mp hm).2 (h.liveConn hs)
  cases ha with
  | conn hl ht hx hm hst =>
      exact hq.of_same (SameOwn.stepConn hl hx.kept hm hx.subject)
        (releaseOrder_append rfl rfl hx.released)
  | stream hl ht hx hm hst =>
      exact hq.of_same (SameOwn.stepStream hl hx.own hx.pend hm hx.subject)
        (releaseOrder_append rfl rfl hx.released)
  | quiet => exact ⟨hq.nodup, hq.mem, hq.order⟩
  | idLost => exact ⟨hq.nodup, hq.mem, hq.order⟩
  | popBatch => exact ⟨hq.nodup, hq.mem, hq.order⟩
  | connNew ht hid hcap hx => exact hq.newConn (hx.fresh h.toOwn)
  | streamNew hl hs ht hcap hx hm =>
      refine hq.newStream (hx.fresh h.toOwn hl.1) fun ev hev => ?_
      rcases List.mem_cons.mp hev with rfl | hev
      · rfl
      · exact streamNewEvents_released _ _ ev hev
  | streamFailed ht hc hx =>
      refine hq.deadStream hx.1 hc fun ev hev => ?_
      rcases List.mem_cons.mp hev with rfl | hev
      · rfl
      · exact streamNewEvents_released _ _ ev hev
  | streamFinal hd hl => exact hq.finalStream hl (hlive _ hl)
  | @streamLast s t x evs mv m st cs reason hd hl ht hx hm hst =>
      have hs : SameOwn e (e.stepStream s x evs m t st cs .keep) :=
        SameOwn.stepStream hl hx.own hx.pend hm hx.subject
      have ho : (e.stepStream s x evs m t st cs .keep).releaseOrder = e.releaseOrder :=
        releaseOrder_append rfl rfl hx.released
      refine (hq.of_same hs ho).finalStream ((hs.liveStream s).mpr hl) ?_
      rw [hs.streamConn, ho]
      exact hlive s hl
  | connFinal hd hl => exact hq.connFinal h.toOwn hd hl
  | @connLast c t x evs st cs hd hl ht hx hst =>
      have hs := SameOwn.connLast env hl hx t st cs
      have hq' : Queue (e.stepConn c x evs e.timerManager t st cs) :=
        hq.of_same hs (releaseOrder_append rfl rfl hx.released)
      exact hq'.connFinal (h.toOwn.of_same hs) hd ((hs.liveConn _).mpr hl)

end KcpMux
