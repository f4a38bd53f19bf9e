import KcpMux.Runs.Calls
import KcpMux.Steps.Count
import KcpMux.Steps.Release

/-!
Whole runs as chains of moves.

A `Move` is a step (`Act`) or one of the few things that happen around steps: the operation
bracket with its releases, the host's timer, and the dispatch of due timer nodes.  Every
call is a chain of moves (`Call.exec_moves`), so that what every move keeps holds in every
reachable engine (`Reachable.induct`).

* `Steady`: soundness, the release order and the counters, at any point of a run;
* `Boundary`: in addition what holds when control is back at the host.
-/

namespace KcpMux

variable {K : Type}

/-- One move in the course of the call `op`. -/
inductive Move (env : Env K) (op : Call) : Engine K → Engine K → Prop
  | act {e e' : Engine K} (h : Act env op e e') : Move env op e e'
  | enter {e : Engine K} : Move env op e (engineOperationEnter e)
  | exit {e : Engine K} (hd : e.operationDepth = 1) (hp : e.pendingReleaseList = []) :
      Move env op e { e with operationDepth := 0 }
  | release {e : Engine K} {o : Owner} {rest : List Owner}
      (h : e.pendingReleaseList = o :: rest) :
      Move env op e { e with pendingReleaseList := rest, trace := .release o :: e.trace }
  | rearm {e : Engine K} {now : ℤ} : Move env op e (engineRearmTimer e now)
  | collect {e : Engine K} : Move env op e (engineCollect env e)
  | dispatch {e : Engine K} {o : Owner} {rest : List Owner}
      (h : e.timerManager.due = o :: rest) : Move env op e (engineDispatchBegin e o)
  | settle {e : Engine K} {o : Owner} : Move env op e (engineDispatchEnd e o)
  | destroying {e : Engine K} : Move env op e { e with destroying := true }

/-- A chain of moves. -/
abbrev Moves (env : Env K) (op : Call) : Engine K → Engine K → Prop :=
  Relation.ReflTransGen (Move env op)

/-- What holds at any point of a run. -/
structure Steady (env : Env K) (e : Engine K) : Prop extends Sound env e where
  queue : Queue e
  counted : Counted e

variable {env : Env K} {op : Call} {e e' : Engine K}

lemma Acts.moves (h : Acts env op e e') : Moves env op e e' := by
  induction h with
  | refl => exact .refl
  | tail _ hstep ih => exact ih.tail (.act hstep)

/-! ### Moves keep the engine steady -/

/-- The engine differs at most in the timer nodes of live objects, in entries of the log that
release nothing, and in fields that ownership does not read. -/
lemma Steady.frame (h : Steady env e) (evs : List Event) {m : TimerManager Owner}
    (hev : ∀ ev ∈ evs, ev.subject = none) (ho : ∀ o, (m.node o).owner = (e.timerManager.node o).owner)
    (hidle : ∀ o, ¬ e.Live o → (m.node o).state = (e.timerManager.node o).state) (hv : m.Valid)
    (hcap : m.capacity = e.timerManager.capacity) (armed destroying : Bool) (deadline : ℤ) (count t depth : ℕ) :
    Steady env { e with
      timerManager := m, trace := evs ++ e.trace, externalTimerArmed := armed
      externalTimerDeadlineMs := deadline, timerDispatchCount := count, tick := t
      operationDepth := depth, destroying := destroying } := by
  have hs : SameOwn e { e with
      timerManager := m, trace := evs ++ e.trace, externalTimerArmed := armed
      externalTimerDeadlineMs := deadline, timerDispatchCount := count, tick := t
      operationDepth := depth, destroying := destroying } :=
    { nconns := rfl, nstreams := rfl, connMap := rfl, handshakeMap := rfl
      nextConnectionId := rfl, conn := fun _ => ConnKept.refl _, stream := fun _ => rfl
      owner := ho, idle := hidle, valid := fun _ => hv, batch := id
      known := fun ev hm => by
        rcases List.mem_append.mp hm with hm | hm
        · exact Or.inr fun o ho => by rw [hev ev hm] at ho; cases ho
        · exact Or.inl hm }
  refine ⟨⟨h.toOwn.of_same hs, settled_of_same h.toSound hs, h.phased, h.ran⟩,
    h.queue.of_same hs (releaseOrder_append rfl rfl fun ev hm => ?_),
    h.counted.of_same hs rfl rfl rfl hcap⟩
  have := hev ev hm
  cases ev <;> simp_all [Event.subject, Event.released]

lemma Steady.rearm (h : Steady env e) (now : ℤ) : Steady env (engineRearmTimer e now) := by
  obtain ⟨a, d, evs, heq, hev⟩ := engineRearmTimer_eq e now
  rw [heq]
  exact h.frame evs (fun ev hm => (hev ev hm).subject) (fun _ => rfl) (fun _ _ => rfl) h.valid rfl
    a e.destroying d _ _ _

lemma Steady.collect (h : Steady env e) : Steady env (engineCollect env e) := by
  have hc := collectDue_node h.valid (engineNow env e)
  refine h.frame [.update (engineNow env e)] (by simp [Event.subject])
    (fun o => (hc o).owner) (fun o hl => ?_) (collectDue_valid h.valid _)
    (timerCollectDue_capacity _ _) _ _ _ _ _ _
  rcases (hc o).state with hs | ⟨hs, -, -⟩
  · exact hs
  · rw [h.idle o hl] at hs
    cases hs

/-- A node on the due list belongs to a live object. -/
lemma Own.live_of_due (h : Own env e) {o : Owner} (ho : o ∈ e.timerManager.due) : e.Live o := by
  by_contra hl
  have hs := (h.valid.due_iff o).mp ho
  rw [h.idle o hl] at hs
  cases hs

lemma dispatch_valid {m : TimerManager Owner} (hv : m.Valid) {o : Owner} (ho : o ∈ m.due) :
    ({ m with
      due := m.due.erase o
      node := Function.update m.node o { m.node o with state := .running } } :
      TimerManager Owner).Valid := by
  refine setNode_valid hv ?_ { m.node o with state := .running } (by simp) (m.due.erase o)
    (fun q => ?_) (hv.due_nodup.erase o)
  · rw [(hv.due_iff o).mp ho]
    decide
  · simp [hv.due_nodup.mem_erase_iff]

lemma Steady.dispatch (h : Steady env e) {o : Owner} {rest : List Owner}
    (hd : e.timerManager.due = o :: rest) : Steady env (engineDispatchBegin e o) := by
  have ho : o ∈ e.timerManager.due := by simp [hd]
  refine h.frame [] (by simp) (fun q => ?_) (fun q hq => ?_)
    (dispatch_valid h.valid ho) rfl _ _ _ _ _ _
  · by_cases hqo : q = o
    · subst hqo; simp
    · simp [hqo]
  · have hqo : q ≠ o := fun he => hq (he ▸ h.live_of_due ho)
    simp [hqo]

lemma settle_valid {m : TimerManager Owner} (hv : m.Valid) {o : Owner}
    (ho : (m.node o).state = .running) :
    (m.setNode o { m.node o with state := .idle }).Valid := by
  refine setNode_valid hv (by simp [ho]) { m.node o with state := .idle } (by simp) m.due
    (fun q => ?_) hv.due_nodup
  by_cases hq : q = o
  · subst hq; simp [hv.due_iff, ho]
  · simp [hq]

lemma Steady.settle (h : Steady env e) (o : Owner) : Steady env (engineDispatchEnd e o) := by
  rw [engineDispatchEnd]
  split_ifs with hr
  · refine h.frame [] (by simp) (fun q => ?_) (fun q hq => ?_)
      (settle_valid h.valid hr) rfl _ _ _ _ _ _
    · by_cases hqo : q = o
      · subst hqo; simp
      · rw [setNode_node_of_ne _ hqo]
    · by_cases hqo : q = o
      · subst hqo
        rw [h.idle q hq] at hr
        cases hr
      · rw [setNode_node_of_ne _ hqo]
  · exact h

lemma Steady.release (h : Steady env e) {o : Owner} {rest : List Owner}
    (hp : e.pendingReleaseList = o :: rest) :
    Steady env { e with pendingReleaseList := rest, trace := .release o :: e.trace } := by
  have horder : ({ e with pendingReleaseList := rest, trace := .release o :: e.trace } :
      Engine K).releaseOrder = e.releaseOrder := by
    simp [Engine.releaseOrder, hp, Event.released]
  have hk : e.Known o :=
    ((h.queue.mem_iff o).mp (by simp [Engine.releaseOrder, hp])).1
  have hs : SameOwn e { e with pendingReleaseList := rest, trace := .release o :: e.trace } :=
    { nconns := rfl, nstreams := rfl, connMap := rfl, handshakeMap := rfl
      nextConnectionId := rfl, conn := fun _ => ConnKept.refl _, stream := fun _ => rfl
      owner := fun _ => rfl, idle := fun _ _ => rfl, valid := id, batch := id
      known := fun ev hm => by
        rcases List.mem_cons.mp hm with rfl | hm
        · exact Or.inr fun q hq => by cases hq; exact hk
        · exact Or.inl hm }
  exact ⟨⟨h.toOwn.of_same hs, settled_of_same h.toSound hs, h.phased, h.ran⟩,
    h.queue.of_same hs horder, h.counted.of_same hs rfl rfl rfl rfl⟩

/-- **Every move keeps the engine steady.** -/
lemma Move.steady (hm : Move env op e e') (h : Steady env e) : Steady env e' := by
  have hsame : ∀ depth flag, Steady env { e with operationDepth := depth, destroying := flag } :=
    fun depth flag => h.frame [] (by simp) (fun _ => rfl) (fun _ _ => rfl) h.valid rfl
      e.externalTimerArmed flag e.externalTimerDeadlineMs e.timerDispatchCount e.tick depth
  cases hm with
  | act ha =>
      exact ⟨ha.sound h.toSound, ha.queue h.toSound h.queue, ha.counted h.toOwn h.counted⟩
  | enter => exact hsame _ e.destroying
  | exit hd hp => exact hsame 0 e.destroying
  | release hp => exact h.release hp
  | rearm => exact h.rearm _
  | collect => exact h.collect
  | dispatch hd => exact h.dispatch hd
  | settle => exact h.settle _
  | destroying => exact hsame e.operationDepth true

lemma Moves.steady (hm : Moves env op e e') (h : Steady env e) : Steady env e' := by
  induction hm with
  | refl => exact h
  | tail _ hstep ih => exact hstep.steady ih

/-- The clock of the host goes on. -/
lemma Move.tick (hm : Move env op e e') (h : Steady env e) : e.tick ≤ e'.tick := by
  cases hm with
  | act ha => exact (ha.grows h.toOwn).tick
  | rearm =>
      obtain ⟨a, d, evs, heq, -⟩ := engineRearmTimer_eq e _
      rw [heq]
  | collect => exact Nat.le_succ _
  | settle =>
      rw [engineDispatchEnd]
      split_ifs <;> exact le_rfl
  | enter | exit | release | dispatch | destroying => exact le_rfl

lemma Moves.tick (hm : Moves env op e e') (h : Steady env e) : e.tick ≤ e'.tick := by
  induction hm with
  | refl => exact le_rfl
  | tail hpre hstep ih => exact ih.trans (hstep.tick (Moves.steady hpre h))

/-! ### The operation bracket -/

/-- The releases at the end of an operation. -/
lemma engineDrainPendingRelease_eq (e : Engine K) :
    engineDrainPendingRelease e = { e with
      pendingReleaseList := []
      trace := (e.pendingReleaseList.map Event.release).reverse ++ e.trace } := by
  have key : ∀ (l : List Owner) (e : Engine K), e.pendingReleaseList = l →
      l.foldl (fun e o => { e with
        pendingReleaseList := e.pendingReleaseList.tail, trace := .release o :: e.trace }) e =
      { e with pendingReleaseList := [], trace := (l.map Event.release).reverse ++ e.trace } := by
    intro l
    induction l with
    | nil =>
        intro e hl
        cases e
        simp_all
    | cons o l ih =>
        intro e hl
        rw [List.foldl_cons, ih _ (by simp [hl])]
        simp
  exact key _ e rfl

/-- The engine an operation leaves behind, before the host's timer is rearmed. -/
def Engine.left (e : Engine K) : Engine K :=
  { e with
    operationDepth := 0, pendingReleaseList := [], tick := e.tick + 1
    trace := (e.pendingReleaseList.map Event.release).reverse ++ e.trace }

/-- **The end of the outermost operation.** -/
lemma engineOperationLeave_eq (env : Env K) (hd : e.operationDepth = 1) :
    engineOperationLeave env e = engineRearmTimer e.left (engineNow env e) := by
  rw [engineOperationLeave, if_neg (by omega)]
  dsimp only
  rw [if_neg (by simp [hd]), engineDrainPendingRelease_eq]
  rfl

lemma release_moves (l : List Owner) : ∀ e : Engine K, e.pendingReleaseList = l →
    Moves env op e { e with
      pendingReleaseList := [], trace := (l.map Event.release).reverse ++ e.trace } := by
  induction l with
  | nil =>
      intro e hl
      have he : ({ e with
          pendingReleaseList := []
          trace := (List.map Event.release []).reverse ++ e.trace } : Engine K) = e := by
        cases e
        simp_all
      rw [he]
  | cons o l ih =>
      intro e hl
      have h : Moves env op e _ := .head (.release hl) (ih _ rfl)
      simpa using h

lemma left_moves (hd : e.operationDepth = 1) : Moves env op e e.left := by
  have h1 : Moves env op e _ := release_moves _ e rfl
  have h2 := h1.tail (.exit (by exact hd) rfl)
  exact h2.tail (.act (quiet_act op (Nat.le_succ _)))

lemma engineOperationLeave_moves (hd : e.operationDepth = 1) :
    Moves env op e (engineOperationLeave env e) := by
  rw [engineOperationLeave_eq env hd]
  exact (left_moves hd).tail .rearm

/-- What the end of the outermost operation leaves. -/
lemma engineOperationLeave_did (env : Env K) (hd : e.operationDepth = 1) :
    ∃ armed deadline evs, engineOperationLeave env e = { e.left with
      externalTimerArmed := armed, externalTimerDeadlineMs := deadline
      trace := evs ++ e.left.trace } ∧ ∀ ev ∈ evs, ev.subject = none := by
  obtain ⟨a, d, evs, heq, hev⟩ := engineRearmTimer_eq e.left (engineNow env e)
  rw [engineOperationLeave_eq env hd, heq]
  exact ⟨a, d, evs, rfl, fun ev hm => (hev ev hm).subject⟩

/-- The bracket of `kcpmux_engine_input`. -/
lemma opened_moves {t : ℕ} {st : EngineStats} (ht : e.tick ≤ t) (hst : st.life = e.stats.life) :
    Moves env op e (e.opened t st) := by
  have hq : Moves env op e { e with tick := t, stats := st, connStats := e.connStats } :=
    .single (.act (.quiet ht hst))
  exact hq.tail .enter

/-! ### The dispatch of due nodes -/

/-- The top of the dispatch loop. -/
structure Round (env : Env K) (now : ℤ) (e : Engine K) : Prop extends Steady env e where
  depth : e.operationDepth = 1
  running : ∀ o, (e.timerManager.node o).state ≠ .running
  read : Read env e.tick now

/-- One round of the dispatch loop. -/
def engineDispatch (env : Env K) (now : ℤ) (e : Engine K) (o : Owner) : Engine K :=
  engineDispatchEnd (timeoutCallback env o now (engineDispatchBegin e o)) o

lemma Round.inside {now : ℤ} (h : Round env now e) {o : Owner} {rest : List Owner}
    (hd : e.timerManager.due = o :: rest) : Inside env (engineDispatchBegin e o) :=
  ⟨(h.toSteady.dispatch hd).toSound, by
    have : (engineDispatchBegin e o).operationDepth = 1 := h.depth
    omega⟩

/-- The timer callback of a due node is a chain of steps. -/
lemma Round.callback {now : ℤ} (h : Round env now e) {o : Owner} {rest : List Owner}
    (hd : e.timerManager.due = o :: rest) :
    Acts env .update (engineDispatchBegin e o)
      (timeoutCallback env o now (engineDispatchBegin e o)) := by
  have hl : e.Live o := h.live_of_due (by simp [hd])
  cases o with
  | conn c => exact connUpdate_acts (h.inside hd) hl.1 h.read
  | stream s => exact streamUpdate_acts (h.inside hd) h.read hl.1 (Or.inl rfl) fun _ => rfl

lemma Round.moves {now : ℤ} (h : Round env now e) {o : Owner} {rest : List Owner}
    (hd : e.timerManager.due = o :: rest) : Moves env .update e (engineDispatch env now e o) :=
  (Relation.ReflTransGen.head (.dispatch hd) (h.callback hd).moves).tail .settle

lemma Round.noInit {now : ℤ} (h : Round env now e) {o : Owner} {rest : List Owner}
    (hd : e.timerManager.due = o :: rest) (hi : e.NoInit) : (engineDispatch env now e o).NoInit := by
  have hi1 : (timeoutCallback env o now (engineDispatchBegin e o)).NoInit :=
    Acts.noInit (h.callback hd) (h.inside hd).toOwn id hi
  rw [engineDispatch, engineDispatchEnd]
  split_ifs <;> exact hi1

/-- The nodes that run after a round, and what is left to dispatch. -/
lemma Round.next {now : ℤ} (h : Round env now e) {o : Owner} {rest : List Owner}
    (hd : e.timerManager.due = o :: rest) :
    Round env now (engineDispatch env now e o) ∧
      (engineDispatch env now e o).timerManager.due.Sublist rest := by
  have hacts := h.callback hd
  have hg := hacts.grows (h.inside hd).toOwn
  have hst := Moves.steady (h.moves hd) h.toSteady
  rw [engineDispatch] at hst ⊢
  generalize timeoutCallback env o now (engineDispatchBegin e o) = e2 at hacts hg hst ⊢
  have hdue : (engineDispatchEnd e2 o).timerManager.due = e2.timerManager.due := by
    rw [engineDispatchEnd]
    split_ifs <;> rfl
  have hdep : (engineDispatchEnd e2 o).operationDepth = e2.operationDepth := by
    rw [engineDispatchEnd]
    split_ifs <;> rfl
  have htick : (engineDispatchEnd e2 o).tick = e2.tick := by
    rw [engineDispatchEnd]
    split_ifs <;> rfl
  have hrun : ∀ q, q ≠ o → (e2.timerManager.node q).state ≠ .running := by
    intro q hq hr
    have hb := hg.timer.running q hr
    simp only [engineDispatchBegin, ne_eq, hq, not_false_eq_true, Function.update_of_ne] at hb
    exact h.running q hb
  refine ⟨⟨hst, hdep.trans (hg.depth.trans h.depth), fun q => ?_, ?_⟩, ?_⟩
  · rw [engineDispatchEnd]
    by_cases hq : q = o
    · subst hq
      split_ifs with hr
      · simp
      · exact hr
    · split_ifs
      · rw [setNode_node_of_ne _ hq]
        exact hrun q hq
      · exact hrun q hq
  · rw [htick]
    exact h.read.mono hg.tick
  · rw [hdue]
    have hs := hg.timer.due
    simpa [engineDispatchBegin, hd] using hs

/-- **The rule for the dispatch loop**: with a round for every due node it dispatches them
all, and keeps what every round keeps. -/
lemma engineDispatchLoop_induct {now : ℤ} {P : Engine K → Prop}
    (hP : ∀ e o rest, Round env now e → e.timerManager.due = o :: rest → P e →
      P (engineDispatch env now e o)) (rounds : ℕ) :
    ∀ e : Engine K, Round env now e → e.timerManager.due.length ≤ rounds → P e →
      let e' := engineDispatchLoop (timeoutCallback env) now rounds e
      Round env now e' ∧ e'.timerManager.due = [] ∧ P e' := by
  induction rounds with
  | zero =>
      intro e h hlen hp
      exact ⟨h, List.length_eq_zero_iff.mp (Nat.le_zero.mp hlen), hp⟩
  | succ rounds ih =>
      intro e h hlen hp
      rw [engineDispatchLoop]
      cases hd : e.timerManager.due with
      | nil => exact ⟨h, hd, hp⟩
      | cons o rest =>
          have hown : ((engineDispatchBegin e o).timerManager.node o).owner = true := by
            simpa [engineDispatchBegin] using (h.owner o).mpr (h.live_of_due (by simp [hd]))
          obtain ⟨h1, hsub⟩ := h.next hd
          dsimp only
          rw [if_pos hown]
          refine ih (engineDispatch env now e o) h1 ?_ (hP e o rest h hd hp)
          have := hsub.length_le
          rw [hd, List.length_cons] at hlen
          omega

/-! ### Control at the host -/

/-- What holds when control is back at the host. -/
structure Boundary (env : Env K) (e : Engine K) : Prop extends Steady env e where
  depth : e.operationDepth = 0
  due : e.timerManager.due = []
  running : ∀ o, (e.timerManager.node o).state ≠ .running
  released : e.pendingReleaseList = []
  noInit : e.NoInit

/-- Outside the bracket nothing is queued for release. -/
lemma Act.pendingReleaseList (ha : Act env op e e') (hd : e.operationDepth = 0) :
    e'.pendingReleaseList = e.pendingReleaseList := by
  cases ha with
  | streamFinal hd' => omega
  | streamLast hd' => omega
  | connFinal hd' => omega
  | connLast hd' => omega
  | _ => rfl

lemma Acts.pendingReleaseList (ha : Acts env op e e') (h : Own env e)
    (hd : e.operationDepth = 0) : e'.pendingReleaseList = e.pendingReleaseList := by
  induction ha with
  | refl => rfl
  | tail hpre hstep ih =>
      exact (hstep.pendingReleaseList ((Acts.grows hpre h).depth.trans hd)).trans ih

/-- Steps outside the bracket. -/
lemma Boundary.acts (h : Boundary env e) (hop : ¬ op.Connects) (ha : Acts env op e e') :
    Boundary env e' := by
  have hg := ha.grows h.toOwn
  refine ⟨Moves.steady ha.moves h.toSteady, hg.depth.trans h.depth, ?_, ?_, ?_,
    ha.noInit h.toOwn hop h.noInit⟩
  · have hdue := hg.timer.due
    rw [h.due] at hdue
    exact List.sublist_nil.mp hdue
  · exact fun o ho => h.running o (hg.timer.running o ho)
  · rw [ha.pendingReleaseList h.toOwn h.depth, h.released]

lemma Boundary.rearm (h : Boundary env e) (now : ℤ) : Boundary env (engineRearmTimer e now) := by
  have hst := h.toSteady.rearm now
  obtain ⟨a, d, evs, heq, -⟩ := engineRearmTimer_eq e now
  rw [heq] at hst ⊢
  exact ⟨hst, h.depth, h.due, h.running, h.released, h.noInit⟩

/-- The end of the outermost operation. -/
lemma Boundary.leave (h : Steady env e) (hd : e.operationDepth = 1)
    (hdue : e.timerManager.due = []) (hrun : ∀ o, (e.timerManager.node o).state ≠ .running)
    (hini : e.NoInit) : Boundary env (engineOperationLeave env e) := by
  rw [engineOperationLeave_eq env hd]
  have hleft : Boundary env e.left :=
    ⟨Moves.steady (left_moves hd : Moves env .update e _) h, rfl, hdue, hrun, rfl, hini⟩
  exact hleft.rearm _

lemma Boundary.round (h : Boundary env e) :
    Round env (engineNow env e) (engineOperationEnter (engineCollect env e)) := by
  refine ⟨Move.steady (.enter : Move env .update _ _) h.toSteady.collect, ?_, fun o => ?_,
    ⟨e.tick, Nat.lt_succ_self _, rfl⟩⟩
  · show e.operationDepth + 1 = 1
    rw [h.depth]
  · show ((timerCollectDue e.timerManager _).node o).state ≠ .running
    rcases (collectDue_node h.valid (engineNow env e) o).state with hs | ⟨-, -, hs⟩
    · rw [hs]
      exact h.running o
    · rw [hs]
      decide

/-- The dispatch loop of `kcpmux_engine_update` runs to its end. -/
lemma Boundary.dispatched (h : Boundary env e) {P : Engine K → Prop}
    (hP : ∀ e' o rest, Round env (engineNow env e) e' → e'.timerManager.due = o :: rest → P e' →
      P (engineDispatch env (engineNow env e) e' o))
    (h0 : P (engineOperationEnter (engineCollect env e))) :
    ∃ e1, Round env (engineNow env e) e1 ∧ e1.timerManager.due = [] ∧ P e1 ∧
      engineUpdate env e = engineOperationLeave env e1 := by
  obtain ⟨h1, h2, h3⟩ := engineDispatchLoop_induct hP _ _ h.round le_rfl h0
  exact ⟨_, h1, h2, h3, rfl⟩

/-- `e0` is the engine in which `kcpmux_engine_input` hands a datagram to the protocol. -/
structure Received (env : Env K) (e : Engine K) (d : Bytes) (addr : Addr) (e0 : Engine K) :
    Prop where
  opened : ∃ st, st.life = e.stats.life ∧ e0 = e.opened (e.tick + 1) st
  steady : Steady env e0
  inside : Inside env e0
  noInit : e0.NoInit
  read : Read env e0.tick (env.monotonicTimeMs e.tick)
  depth : (protocolInput env e0 (Buf.of d) d.length addr
    (env.monotonicTimeMs e.tick)).2.operationDepth = 1
  result : engineInput env e d addr =
    ((protocolInput env e0 (Buf.of d) d.length addr (env.monotonicTimeMs e.tick)).1,
      engineOperationLeave env
        (protocolInput env e0 (Buf.of d) d.length addr (env.monotonicTimeMs e.tick)).2)

/-- **The reception of a datagram.** -/
lemma Boundary.received (h : Boundary env e) {d : Bytes} (hd : d ≠ []) (addr : Addr) :
    ∃ e0, Received env e d addr e0 := by
  set st : EngineStats := { e.stats with
    rxPackets := e.stats.rxPackets + 1, rxBytes := e.stats.rxBytes + d.length } with hst
  have hlife : st.life = e.stats.life := rfl
  have hm : Moves env (.input d addr) e (e.opened (e.tick + 1) st) :=
    opened_moves (Nat.le_succ _) hlife
  have hi : Inside env (e.opened (e.tick + 1) st) := h.toSound.opened (Nat.le_succ _) hlife
  have hread : Read env (e.opened (e.tick + 1) st).tick (env.monotonicTimeMs e.tick) :=
    ⟨e.tick, Nat.lt_succ_self _, rfl⟩
  have hself : Call.input d addr = .input d addr := rfl
  have ha := (protocolInput_acts hi hself hread h.noInit).1
  refine ⟨e.opened (e.tick + 1) st, ⟨st, hlife, rfl⟩, Moves.steady hm h.toSteady, hi, h.noInit,
    hread, ?_, engineInput_opened env e hd addr rfl⟩
  rw [(ha.grows hi.toOwn).depth]
  show e.operationDepth + 1 = 1
  rw [h.depth]

/-- **Every valid call is a chain of moves** and leaves the host in control. -/
lemma Boundary.exec (h : Boundary env e) (hv : op.Valid e) :
    Moves env op e (op.exec env e) ∧ Boundary env (op.exec env e) := by
  have hform := Call.exec_form h.toSound h.noInit hv
  generalize op.exec env e = e' at hform ⊢
  cases hform with
  | bare hop hb =>
      obtain ⟨e1, ha, -, rfl | ⟨now, -, e2, ha2, hr⟩⟩ := hb
      · exact ⟨ha.moves, h.acts hop ha⟩
      · have h2 : Acts env op e e2 := ha.tail ha2
        cases hr with
        | rearm => exact ⟨h2.moves.tail .rearm, (h.acts hop h2).rearm _⟩
        | failed => exact ⟨h2.moves, h.acts hop h2⟩
  | @bracket t st e1 ht hst ha hop =>
      have h0 : Moves env op e (engineOperationEnter { e with tick := t, stats := st }) := by
        have hq : Moves env op e { e with tick := t, stats := st, connStats := e.connStats } :=
          .single (.act (.quiet ht hst))
        exact hq.tail .enter
      have hst0 := Moves.steady h0 h.toSteady
      have hg := ha.grows hst0.toOwn
      have hd1 : e1.operationDepth = 1 := by
        rw [hg.depth]
        show e.operationDepth + 1 = 1
        rw [h.depth]
      have h1 : Moves env op e e1 := h0.trans ha.moves
      refine ⟨h1.trans (engineOperationLeave_moves hd1),
        Boundary.leave (Moves.steady h1 h.toSteady) hd1 ?_ (fun o ho => ?_) ?_⟩
      · have hdue := hg.timer.due
        exact List.sublist_nil.mp (h.due ▸ hdue)
      · exact h.running o (hg.timer.running o ho)
      · exact (em op.Connects).elim hop fun hno => ha.noInit hst0.toOwn hno h.noInit
  | update hop =>
      subst hop
      have h0 : Moves env .update e (engineOperationEnter (engineCollect env e)) :=
        (Relation.ReflTransGen.single .collect).tail .enter
      obtain ⟨e1, hr, hdue, ⟨hm, hini⟩, heq⟩ := h.dispatched
        (P := fun e' => Moves env .update e e' ∧ e'.NoInit)
        (fun e' o rest hr hd hm => ⟨hm.1.trans (hr.moves hd), hr.noInit hd hm.2⟩) ⟨h0, h.noInit⟩
      rw [heq]
      exact ⟨hm.trans (engineOperationLeave_moves hr.depth),
        Boundary.leave hr.toSteady hr.depth hdue hr.running hini⟩

/-! ### Reachable engines -/

lemma engineCreate_eq {connConfig : Option ConnConfig} {streamConfig : Option StreamConfig}
    (h : engineCreate env connConfig streamConfig = some e) :
    ∃ cc sc id, id ≠ 0 ∧ e = { (engineBlank cc sc : Engine K) with
      nextConnectionId := id, tick := 4 } := by
  simp only [engineCreate, Option.bind_eq_bind, Option.bind_eq_some_iff] at h
  obtain ⟨cc, -, sc, -, h⟩ := h
  split_ifs at h with ha hz
  · exact ⟨cc, sc, 1, by decide, (Option.some.inj h).symm⟩
  · exact ⟨cc, sc, _, hz, (Option.some.inj h).symm⟩

/-- A created engine. -/
lemma boundary_create {connConfig : Option ConnConfig} {streamConfig : Option StreamConfig}
    (h : engineCreate env connConfig streamConfig = some e) : Boundary env e := by
  obtain ⟨cc, sc, id, hid, rfl⟩ := engineCreate_eq h
  have hown : Own env { (engineBlank cc sc : Engine K) with nextConnectionId := id, tick := 4 } :=
    { connTable := (Htb.Holds.empty 64 fun _ => 0).congr (fun c => by simp [Engine.LiveConn, engineBlank])
        (fun _ h => h.elim)
      handshakeTable := (Htb.Holds.empty 64 fun _ => 0).congr
        (fun c => by simp [Engine.LivePassive, Engine.LiveConn, engineBlank]) (fun _ h => h.elim)
      streamTable := by simp [engineBlank], connId := by simp [engineBlank]
      connIdInj := by simp [engineBlank]
      handshakeKey := by simp [Engine.LivePassive, Engine.LiveConn, engineBlank]
      streamKey := by simp [Engine.LiveStream, engineBlank]
      streamId := by simp [Engine.LiveStream, engineBlank], nextId := by simp [engineBlank]
      initiator := by simp [engineBlank], inEngineMap := by simp [engineBlank]
      inStreamMap := by simp [engineBlank], connOf_lt := by simp [engineBlank]
      kcp := by simp [engineBlank]
      owner := fun o => by
        cases o <;> simp [Engine.Live, Engine.LiveConn, Engine.LiveStream, engineBlank, timerManagerInit]
      idle := fun _ _ => rfl
      valid := init_valid fun _ => rfl
      batch := by simp [Engine.BatchOk, engineBlank], known := by simp [engineBlank] }
  refine ⟨⟨⟨hown, by simp [Engine.LiveStream, engineBlank], by simp [Engine.LiveStream, engineBlank],
      by simp [Engine.LiveStream, engineBlank]⟩,
    ⟨by simp [Engine.releaseOrder, engineBlank], fun o => ?_, by simp [Engine.releaseOrder, engineBlank]⟩,
    ⟨rfl, rfl, rfl, rfl, rfl, rfl, by simp [engineBlank], rfl, le_rfl⟩⟩,
    rfl, rfl, fun o => ?_, rfl, by simp [Engine.NoInit, Engine.LiveConn, engineBlank]⟩
  · cases o <;> simp [Engine.releaseOrder, engineBlank, Engine.Known]
  · show TimerState.idle ≠ .running
    decide

/-- **Every reachable engine** has control at the host. -/
lemma Reachable.boundary (h : Reachable env e) : Boundary env e := by
  induction h with
  | create h => exact boundary_create h
  | call _ op hv ih => exact (ih.exec hv).2

/-- What every move keeps, a chain of moves keeps. -/
lemma Moves.induct {P : Engine K → Prop} (hm : Moves env op e e') (h : Steady env e) (h0 : P e)
    (hmove : ∀ e1 e2, Steady env e1 → Move env op e1 e2 → P e1 → P e2) : P e' := by
  induction hm with
  | refl => exact h0
  | tail hpre hstep ih => exact hmove _ _ (Moves.steady hpre h) hstep ih

/-- **The rule for runs**: what holds on creation and is kept by every move holds in every
reachable engine. -/
lemma Reachable.induct {P : Engine K → Prop}
    (hcreate : ∀ (connConfig : Option ConnConfig) (streamConfig : Option StreamConfig) (e : Engine K),
      engineCreate env connConfig streamConfig = some e → P e)
    (hmove : ∀ (op : Call) (e e' : Engine K), Steady env e → Move env op e e' → P e → P e')
    (h : Reachable env e) : P e := by
  induction h with
  | create h => exact hcreate _ _ _ h
  | @call e hr op hv ih =>
      exact (hr.boundary.exec hv).1.induct hr.boundary.toSteady ih (hmove op)

/-- The engine at some point of a run: a call of a reachable engine has come to it. -/
def Midway (env : Env K) (e : Engine K) : Prop :=
  ∃ e0 op, Reachable env e0 ∧ Moves env op e0 e

lemma Reachable.midway (h : Reachable env e) : Midway env e :=
  ⟨e, .update, h, .refl⟩

lemma Midway.steady (h : Midway env e) : Steady env e := by
  obtain ⟨e0, op, hr, hm⟩ := h
  exact Moves.steady hm hr.boundary.toSteady

/-- What every move keeps holds at every point of a run. -/
lemma Midway.induct {P : Engine K → Prop}
    (hcreate : ∀ (connConfig : Option ConnConfig) (streamConfig : Option StreamConfig) (e : Engine K),
      engineCreate env connConfig streamConfig = some e → P e)
    (hmove : ∀ (op : Call) (e e' : Engine K), Steady env e → Move env op e e' → P e → P e')
    (h : Midway env e) : P e := by
  obtain ⟨e0, op, hr, hm⟩ := h
  exact hm.induct hr.boundary.toSteady (hr.induct hcreate hmove) (hmove op)

/-- A run of valid calls from one engine to another. -/
inductive Run (env : Env K) (e : Engine K) : Engine K → Prop
  | refl : Run env e e
  | call {e' : Engine K} (h : Run env e e') (op : Call) (hv : op.Valid e') :
      Run env e (op.exec env e')

lemma Run.reachable (h : Run env e e') (hr : Reachable env e) : Reachable env e' := by
  induction h with
  | refl => exact hr
  | call _ op hv ih => exact .call ih op hv

/-- What every move keeps from some point on holds to the end of the run. -/
lemma Run.induct {P : Engine K → Prop} (h : Run env e e') (hr : Reachable env e) (h0 : P e)
    (hmove : ∀ (op : Call) (e1 e2 : Engine K), Steady env e1 → Move env op e1 e2 → P e1 → P e2) :
    P e' := by
  induction h with
  | refl => exact h0
  | call h' op hv ih =>
      have hb := (h'.reachable hr).boundary
      exact (hb.exec hv).1.induct hb.toSteady ih (hmove op)

/-- The engines of the runs in which every call meets the condition `G`. -/
inductive ReachableWhen (env : Env K) (G : Engine K → Call → Prop) : Engine K → Prop
  | create {connConfig : Option ConnConfig} {streamConfig : Option StreamConfig} {e : Engine K}
      (h : engineCreate env connConfig streamConfig = some e) : ReachableWhen env G e
  | call {e : Engine K} (h : ReachableWhen env G e) (op : Call) (hv : op.Valid e) (hg : G e op) :
      ReachableWhen env G (op.exec env e)

lemma ReachableWhen.reachable {G : Engine K → Call → Prop} (h : ReachableWhen env G e) :
    Reachable env e := by
  induction h with
  | create h => exact .create h
  | call _ op hv _ ih => exact .call ih op hv

end KcpMux
