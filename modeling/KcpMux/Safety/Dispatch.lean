import KcpMux.Runs.Moves

/-!
The dispatch of due timers, whatever their callbacks do.

`engineUpdateWith` is `kcpmux_engine_update` over any timer callback.  A callback is given by
its effects on the timers (`TimerEffect`): it may schedule, cancel and unregister any nodes,
register fresh ones, and do anything else that leaves the timers alone.  `engineUpdateCalls`
lists the callbacks that are invoked, in order, each with the engine it starts from.

* `ManagerStep.due_iff`, `ManagerStep.scheduled`: what one effect does to the due list and to
  the heap;
* `engineDispatchLoop_calls`: the dispatch loop, by induction over its rounds;
* `update_dispatches_snapshot`: the whole update;
* `engineUpdate_eq_callbackOf`: the callbacks of the engine itself are among these callbacks.
-/

namespace KcpMux

open TimerManager

variable {K : Type}

/-- `kcpmux_engine_update` over any timer callback. -/
def engineUpdateWith (env : Env K) (callback : Owner → ℤ → Engine K → Engine K) (e : Engine K) :
    Engine K :=
  let now := engineNow env e
  let e := engineOperationEnter (engineCollect env e)
  engineOperationLeave env (engineDispatchLoop callback now e.timerManager.due.length e)

lemma engineUpdate_eq_with (env : Env K) (e : Engine K) :
    engineUpdate env e = engineUpdateWith env (timeoutCallback env) e := rfl

/-- The callbacks the dispatch loop invokes, each with the engine it starts from. -/
def engineDispatchCalls (callback : Owner → ℤ → Engine K → Engine K) (nowMs : ℤ) :
    ℕ → Engine K → List (Owner × Engine K)
  | 0, _ => []
  | rounds + 1, e =>
      match e.timerManager.due with
      | [] => []
      | o :: _ =>
          let e := engineDispatchBegin e o
          if (e.timerManager.node o).owner then
            (o, e) :: engineDispatchCalls callback nowMs rounds
              (engineDispatchEnd (callback o nowMs e) o)
          else engineDispatchCalls callback nowMs rounds (engineDispatchEnd e o)

/-- The callbacks an update invokes. -/
def engineUpdateCalls (env : Env K) (callback : Owner → ℤ → Engine K → Engine K) (e : Engine K) :
    List (Owner × Engine K) :=
  let now := engineNow env e
  let e := engineOperationEnter (engineCollect env e)
  engineDispatchCalls callback now e.timerManager.due.length e

/-! ### Callbacks -/

/-- One thing a callback can do.  `other` stands for whatever leaves the timers and the
operation bracket alone. -/
inductive TimerEffect (K : Type) where
  | schedule (o : Owner) (deadlineMs nowMs : ℤ)
  | cancel (o : Owner) (nowMs : ℤ)
  | unregister (o : Owner)
  | register (o : Owner)
  | other (f : { f : Engine K → Engine K //
      ∀ e, (f e).timerManager = e.timerManager ∧ (f e).operationDepth = e.operationDepth })

/-- The effect takes place.  Only a fresh node is registered. -/
def TimerEffect.apply (env : Env K) (e : Engine K) : TimerEffect K → Engine K
  | .schedule o deadlineMs nowMs => (engineScheduleTimerNode env e o deadlineMs nowMs).2
  | .cancel o nowMs => engineCancelTimerNode e o nowMs
  | .unregister o => engineUnregisterTimerNode env e o
  | .register o =>
      if (e.timerManager.node o).owner then e else (engineRegisterTimerNode env e o).2
  | .other f => f.1 e

/-- The callback with the given effects, which may depend on everything. -/
def callbackOf (env : Env K) (effects : Owner → ℤ → Engine K → List (TimerEffect K)) (o : Owner)
    (nowMs : ℤ) (e : Engine K) : Engine K :=
  (effects o nowMs e).foldl (TimerEffect.apply env) e

/-- The effect cancels, unregisters or reschedules the node `q`. -/
def TimerEffect.Takes (env : Env K) (e : Engine K) (q : Owner) : TimerEffect K → Prop
  | .schedule o deadlineMs nowMs =>
      o = q ∧ (engineScheduleTimerNode env e o deadlineMs nowMs).1 = errOk
  | .cancel o _ => o = q
  | .unregister o => o = q
  | .register _ => False
  | .other _ => False

/-- One of the effects, from `e` on, takes the node `q`. -/
def Taken (env : Env K) (q : Owner) : Engine K → List (TimerEffect K) → Prop
  | _, [] => False
  | e, f :: fs => f.Takes env e q ∨ Taken env q (f.apply env e) fs

/-- The deadline of a node in the heap. -/
def Engine.scheduled (e : Engine K) (q : Owner) : Option ℤ :=
  if (e.timerManager.node q).state = .heap then some (e.timerManager.node q).deadlineMs else none

/-- The deadline under which `q` is in the heap after the effect, if it was there under `w`
before. -/
def TimerEffect.word (env : Env K) (e : Engine K) (q : Owner) (w : Option ℤ) :
    TimerEffect K → Option ℤ
  | .schedule o deadlineMs nowMs =>
      if o = q ∧ (engineScheduleTimerNode env e o deadlineMs nowMs).1 = errOk then
        some (max deadlineMs nowMs)
      else w
  | .cancel o _ => if o = q then none else w
  | .unregister o => if o = q then none else w
  | .register _ => w
  | .other _ => w

/-- The last word of the effects on the node `q`. -/
def wordAfter (env : Env K) (q : Owner) : Engine K → Option ℤ → List (TimerEffect K) → Option ℤ
  | _, w, [] => w
  | e, w, f :: fs => wordAfter env q (f.apply env e) (f.word env e q w) fs

/-! ### One effect -/

/-- The engine in the course of an update. -/
structure Turning (e : Engine K) : Prop where
  valid : e.timerManager.Valid
  depth : e.operationDepth = 1
  fresh : ∀ o, (e.timerManager.node o).owner = false → (e.timerManager.node o).state = .idle

variable {env : Env K} {e e' : Engine K} {o q : Owner}

/-- A node on the due list has its callback. -/
lemma Turning.owner (h : Turning e) (ho : o ∈ e.timerManager.due) :
    (e.timerManager.node o).owner = true := by
  by_contra hn
  have hidle := h.fresh o (by simpa using hn)
  rw [(h.valid.due_iff o).mp ho] at hidle
  cases hidle

/-- Scheduling inside an operation: it fails and changes nothing, or the node is scheduled. -/
lemma engineScheduleTimerNode_inside (env : Env K) (hd : 0 < e.operationDepth) (o : Owner)
    (d now : ℤ) :
    (engineScheduleTimerNode env e o d now).2.operationDepth = e.operationDepth ∧
      (((engineScheduleTimerNode env e o d now).1 ≠ errOk ∧
        (engineScheduleTimerNode env e o d now).2.timerManager = e.timerManager) ∨
      ((engineScheduleTimerNode env e o d now).1 = errOk ∧
        (e.timerManager.node o).owner = true ∧
        ∃ realloc, (timerSchedule e.timerManager o (max d now) realloc).1 = errOk ∧
          (engineScheduleTimerNode env e o d now).2.timerManager =
            (timerSchedule e.timerManager o (max d now) realloc).2)) := by
  rw [engineScheduleTimerNode]
  by_cases ho : (e.timerManager.node o).owner = false
  · rw [if_pos ho]
    exact ⟨rfl, Or.inl ⟨show errInvalidParam ≠ errOk by decide, rfl⟩⟩
  · rw [if_neg ho]
    simp only [← max_def_lt]
    split_ifs with hok
    · rw [engineRearmTimer_of_depth (by exact hd)]
      exact ⟨rfl, Or.inr ⟨hok, by simpa using ho, env.alloc e.tick, hok, rfl⟩⟩
    · exact ⟨rfl, Or.inl ⟨hok, timerSchedule_fail _ _ _ _ hok⟩⟩

/-- What an effect does to the timer manager. -/
inductive ManagerStep (env : Env K) (e : Engine K) :
    TimerEffect K → TimerManager Owner → Prop
  | same {f : TimerEffect K} (ht : ∀ q, ¬ f.Takes env e q) (hw : ∀ q w, f.word env e q w = w) :
      ManagerStep env e f e.timerManager
  | schedule {o : Owner} {d now : ℤ} {realloc : Bool}
      (hret : (engineScheduleTimerNode env e o d now).1 = errOk)
      (ho : (e.timerManager.node o).owner = true)
      (hok : (timerSchedule e.timerManager o (max d now) realloc).1 = errOk) :
      ManagerStep env e (.schedule o d now)
        (timerSchedule e.timerManager o (max d now) realloc).2
  | cancel {o : Owner} {now : ℤ} : ManagerStep env e (.cancel o now) (timerCancel e.timerManager o)
  | unregister {o : Owner} : ManagerStep env e (.unregister o) (timerUnregister e.timerManager o)
  | skip {o : Owner} (ho : (e.timerManager.node o).owner = false) :
      ManagerStep env e (.unregister o) e.timerManager
  | register {o : Owner} {capacity : ℕ} (ho : (e.timerManager.node o).owner = false) :
      ManagerStep env e (.register o) (timerNodeInit { e.timerManager with capacity } o)

lemma TimerEffect.step (env : Env K) (h : Turning e) (f : TimerEffect K) :
    (f.apply env e).operationDepth = e.operationDepth ∧
      ManagerStep env e f (f.apply env e).timerManager := by
  have hd : 0 < e.operationDepth := by
    rw [h.depth]
    exact Nat.one_pos
  cases f with
  | schedule o d now =>
      obtain ⟨hdep, ⟨hret, hm⟩ | ⟨hret, ho, realloc, hok, hm⟩⟩ :=
        engineScheduleTimerNode_inside env hd o d now
      · refine ⟨hdep, ?_⟩
        rw [TimerEffect.apply, hm]
        exact .same (fun q hq => hret hq.2) fun q w => if_neg fun hq => hret hq.2
      · refine ⟨hdep, ?_⟩
        rw [TimerEffect.apply, hm]
        exact .schedule hret ho hok
  | cancel o now =>
      rw [TimerEffect.apply, engineCancelTimerNode, engineRearmTimer_of_depth (by exact hd)]
      exact ⟨rfl, .cancel⟩
  | unregister o =>
      rw [TimerEffect.apply, engineUnregisterTimerNode]
      split_ifs with ho
      · exact ⟨rfl, .skip ho⟩
      · rw [engineRearmTimer_of_depth (by exact hd)]
        exact ⟨rfl, .unregister⟩
  | register o =>
      rw [TimerEffect.apply]
      split_ifs with ho
      · exact ⟨rfl, .same (fun _ => id) fun _ _ => rfl⟩
      · rw [engineRegisterTimerNode]
        obtain ⟨⟨capacity, hcap⟩, -⟩ := timerManagerReserve_frame e.timerManager
          (e.timerNodeCount + 1) (env.alloc e.tick)
        split_ifs with hfull
        · exact ⟨rfl, .same (fun _ => id) fun _ _ => rfl⟩
        · dsimp only
          split_ifs
          · exact ⟨rfl, .same (fun _ => id) fun _ _ => rfl⟩
          · refine ⟨rfl, ?_⟩
            rw [hcap]
            exact .register (by simpa using ho)
  | other f =>
      rw [TimerEffect.apply, (f.2 e).1]
      exact ⟨(f.2 e).2, .same (fun _ => id) fun _ _ => rfl⟩

/-- The due list without a node that is marked as due. -/
lemma TimerManager.Valid.mem_taken {m : TimerManager Owner} (hv : m.Valid) (o q : Owner) :
    (q ∈ if (m.node o).state = .due then m.due.erase o else m.due) ↔ q ∈ m.due ∧ o ≠ q := by
  split_ifs with hs
  · rw [hv.due_nodup.mem_erase_iff]
    exact ⟨fun h => ⟨h.2, Ne.symm h.1⟩, fun h => ⟨Ne.symm h.2, h.1⟩⟩
  · refine ⟨fun h => ⟨h, ?_⟩, fun h => h.1⟩
    rintro rfl
    exact hs ((hv.due_iff o).mp h)

lemma taken_sublist (m : TimerManager Owner) (o : Owner) :
    (if (m.node o).state = .due then m.due.erase o else m.due).Sublist m.due := by
  split_ifs
  · exact List.erase_sublist
  · exact List.Sublist.refl _

section Step

variable {f : TimerEffect K} {m : TimerManager Owner}

lemma ManagerStep.valid (h : Turning e) (hs : ManagerStep env e f m) : m.Valid := by
  cases hs with
  | same => exact h.valid
  | schedule => exact schedule_valid h.valid _ _ _
  | cancel => exact cancel_valid h.valid _
  | unregister => exact unregister_valid h.valid _
  | skip => exact h.valid
  | register ho => exact nodeInit_valid h.valid (h.fresh _ ho) _

lemma ManagerStep.due (hs : ManagerStep env e f m) : m.due.Sublist e.timerManager.due := by
  cases hs with
  | same => exact List.Sublist.refl _
  | schedule hret ho hok =>
      rw [timerSchedule_due _ _ _ _ hok]
      exact taken_sublist _ _
  | cancel =>
      rw [timerCancel_due]
      exact taken_sublist _ _
  | @unregister o =>
      show (timerCancel e.timerManager o).due.Sublist _
      rw [timerCancel_due]
      exact taken_sublist _ _
  | skip => exact List.Sublist.refl _
  | register => exact List.Sublist.refl _

/-- A due node stays due unless the effect takes it. -/
lemma ManagerStep.due_iff (h : Turning e) (hs : ManagerStep env e f m) (q : Owner) :
    q ∈ m.due ↔ q ∈ e.timerManager.due ∧ ¬ f.Takes env e q := by
  cases hs with
  | same ht => simp [ht q]
  | @schedule o d now realloc hret ho hok =>
      rw [timerSchedule_due _ _ _ _ hok, h.valid.mem_taken]
      simp [TimerEffect.Takes, hret]
  | cancel =>
      rw [timerCancel_due, h.valid.mem_taken]
      rfl
  | @unregister o =>
      show q ∈ (timerCancel e.timerManager o).due ↔ _
      rw [timerCancel_due, h.valid.mem_taken]
      rfl
  | @skip o ho =>
      refine ⟨fun hq => ⟨hq, ?_⟩, fun hq => hq.1⟩
      rintro rfl
      exact absurd ho (by simp [h.owner hq])
  | register => exact (and_iff_left id).symm

/-- No node starts to run, and a node without owner is idle. -/
lemma ManagerStep.node (h : Turning e) (hs : ManagerStep env e f m) (q : Owner) :
    ((m.node q).state = .running → (e.timerManager.node q).state = .running) ∧
      ((m.node q).owner = false → (m.node q).state = .idle) := by
  have hsame : ∀ n, TimerNode.SameBut (e.timerManager.node q) n →
      (n.state = .running → (e.timerManager.node q).state = .running) ∧
        (n.owner = false → n.state = .idle) := by
    intro n hn
    rw [hn.state, hn.owner]
    exact ⟨id, h.fresh q⟩
  cases hs with
  | same => exact hsame _ (.refl _)
  | @schedule o d now realloc hret ho hok =>
      by_cases hq : q = o
      · subst hq
        rw [(timerSchedule_self _ _ _ _ hok).1, timerSchedule_owner]
        exact ⟨by simp, by simp [ho]⟩
      · exact hsame _ (timerSchedule_other _ hq _ _)
  | @cancel o =>
      by_cases hq : q = o
      · subst hq
        simp
      · exact hsame _ (timerCancel_other _ hq)
  | @unregister o =>
      by_cases hq : q = o
      · subst hq
        simp
      · exact hsame _ (timerUnregister_other _ hq)
  | skip => exact hsame _ (.refl _)
  | @register o capacity ho =>
      by_cases hq : q = o
      · subst hq
        simp [timerNodeInit]
      · rw [timerNodeInit, setNode_node_of_ne _ hq]
        exact hsame _ (.refl _)

/-- The heap follows the word of the effect. -/
lemma ManagerStep.scheduled (h : Turning e) (hs : ManagerStep env e f m) (q : Owner) :
    (if (m.node q).state = .heap then some (m.node q).deadlineMs else none) =
      f.word env e q (e.scheduled q) := by
  have hsame : ∀ n, TimerNode.SameBut (e.timerManager.node q) n →
      (if n.state = .heap then some n.deadlineMs else none) = e.scheduled q := by
    intro n hn
    rw [hn.state, hn.deadlineMs]
    rfl
  cases hs with
  | same ht hw =>
      rw [hw]
      rfl
  | @schedule o d now realloc hret ho hok =>
      rw [TimerEffect.word]
      by_cases hq : q = o
      · subst hq
        obtain ⟨h1, h2⟩ := timerSchedule_self _ _ _ _ hok
        rw [if_pos h1, if_pos ⟨rfl, hret⟩, h2]
      · rw [if_neg fun hc : o = q ∧ _ => hq hc.1.symm]
        exact hsame _ (timerSchedule_other _ hq _ _)
  | @cancel o =>
      rw [TimerEffect.word]
      by_cases hq : q = o
      · subst hq
        simp
      · rw [if_neg fun hc : o = q => hq hc.symm]
        exact hsame _ (timerCancel_other _ hq)
  | @unregister o =>
      rw [TimerEffect.word]
      by_cases hq : q = o
      · subst hq
        simp
      · rw [if_neg fun hc : o = q => hq hc.symm]
        exact hsame _ (timerUnregister_other _ hq)
  | @skip o ho =>
      rw [TimerEffect.word]
      by_cases hq : q = o
      · subst hq
        simp [h.fresh q ho]
      · rw [if_neg fun hc : o = q => hq hc.symm]
        rfl
  | @register o capacity ho =>
      rw [TimerEffect.word]
      by_cases hq : q = o
      · subst hq
        simp [timerNodeInit, Engine.scheduled, h.fresh q ho]
      · rw [timerNodeInit, setNode_node_of_ne _ hq]
        rfl

end Step

/-! ### A callback -/

/-- What a callback leaves behind. -/
structure Called (env : Env K) (e : Engine K) (fs : List (TimerEffect K)) (e' : Engine K) :
    Prop where
  turning : Turning e'
  due : e'.timerManager.due.Sublist e.timerManager.due
  due_iff : ∀ q, q ∈ e'.timerManager.due ↔ q ∈ e.timerManager.due ∧ ¬ Taken env q e fs
  running : ∀ q, (e'.timerManager.node q).state = .running →
    (e.timerManager.node q).state = .running
  scheduled : ∀ q, e'.scheduled q = wordAfter env q e (e.scheduled q) fs

/-- **The effects of a callback**, one after the other. -/
lemma called_foldl (fs : List (TimerEffect K)) : ∀ e : Engine K, Turning e →
    Called env e fs (fs.foldl (TimerEffect.apply env) e) := by
  induction fs with
  | nil =>
      exact fun e h => ⟨h, List.Sublist.refl _, fun q => (and_iff_left id).symm, fun _ => id,
        fun _ => rfl⟩
  | cons f fs ih =>
      intro e h
      obtain ⟨hdep, hs⟩ := f.step env h
      have h1 : Turning (f.apply env e) :=
        ⟨hs.valid h, hdep.trans h.depth, fun q => (hs.node h q).2⟩
      have hc := ih _ h1
      refine ⟨hc.turning, hc.due.trans hs.due, fun q => ?_, fun q hq => (hs.node h q).1 (hc.running q hq),
        fun q => ?_⟩
      · rw [List.foldl_cons, hc.due_iff, hs.due_iff h, Taken, not_or, and_assoc]
      · have hw : (f.apply env e).scheduled q = f.word env e q (e.scheduled q) := hs.scheduled h q
        rw [List.foldl_cons, hc.scheduled, wordAfter, hw]

/-! ### The loop -/

variable {effects : Owner → ℤ → Engine K → List (TimerEffect K)} {now : ℤ}

lemma engineDispatchBegin_due (e : Engine K) {rest : List Owner}
    (hd : e.timerManager.due = o :: rest) : (engineDispatchBegin e o).timerManager.due = rest := by
  simp [engineDispatchBegin, hd]

lemma Turning.begin (h : Turning e) {rest : List Owner} (hd : e.timerManager.due = o :: rest) :
    Turning (engineDispatchBegin e o) := by
  have ho : o ∈ e.timerManager.due := by simp [hd]
  refine ⟨dispatch_valid h.valid ho, h.depth, fun q hq => ?_⟩
  by_cases hqo : q = o
  · subst hqo
    simp [engineDispatchBegin, h.owner ho] at hq
  · simp only [engineDispatchBegin, ne_eq, hqo, not_false_eq_true, Function.update_of_ne] at hq ⊢
    exact h.fresh q hq

lemma engineDispatchBegin_scheduled (h : Turning e) (ho : o ∈ e.timerManager.due) (q : Owner) :
    (engineDispatchBegin e o).scheduled q = e.scheduled q := by
  by_cases hq : q = o
  · subst hq
    simp [Engine.scheduled, engineDispatchBegin, (h.valid.due_iff q).mp ho]
  · simp [Engine.scheduled, engineDispatchBegin, hq]

lemma Turning.settle (h : Turning e) (o : Owner) : Turning (engineDispatchEnd e o) := by
  rw [engineDispatchEnd]
  split_ifs with hr
  · refine ⟨settle_valid h.valid hr, h.depth, fun q hq => ?_⟩
    by_cases hqo : q = o
    · subst hqo
      simp
    · rw [setNode_node_of_ne _ hqo] at hq ⊢
      exact h.fresh q hq
  · exact h

lemma engineDispatchEnd_due (e : Engine K) (o : Owner) :
    (engineDispatchEnd e o).timerManager.due = e.timerManager.due := by
  rw [engineDispatchEnd]
  split_ifs <;> rfl

lemma engineDispatchEnd_scheduled (e : Engine K) (o q : Owner) :
    (engineDispatchEnd e o).scheduled q = e.scheduled q := by
  rw [engineDispatchEnd]
  split_ifs with hr
  · by_cases hq : q = o
    · subst hq
      simp [Engine.scheduled, hr]
    · simp [Engine.scheduled, setNode_node_of_ne _ hq]
  · rfl

lemma engineDispatchEnd_running (h : ((engineDispatchEnd e o).timerManager.node q).state = .running) :
    (e.timerManager.node q).state = .running ∧ q ≠ o := by
  rw [engineDispatchEnd] at h
  split_ifs at h with hr
  · by_cases hq : q = o
    · subst hq
      simp at h
    · rw [setNode_node_of_ne _ hq] at h
      exact ⟨h, hq⟩
  · refine ⟨h, ?_⟩
    rintro rfl
    exact hr h

/-- What the dispatch loop makes of the engine, invoking the callbacks `calls`. -/
structure Dispatched (env : Env K) (effects : Owner → ℤ → Engine K → List (TimerEffect K))
    (now : ℤ) (e e' : Engine K) (calls : List (Owner × Engine K)) : Prop where
  depth : e'.operationDepth = 1
  idle : ∀ q, (e'.timerManager.node q).state ≠ .due ∧ (e'.timerManager.node q).state ≠ .running
  order : (calls.map Prod.fst).Sublist e.timerManager.due
  called : ∀ q ∈ e.timerManager.due, (q ∈ calls.map Prod.fst ↔
    ∀ x ∈ calls.takeWhile (·.1 ≠ q), ¬ Taken env q x.2 (effects x.1 now x.2))
  scheduled : ∀ q, e'.scheduled q =
    calls.foldl (fun w x => wordAfter env q x.2 w (effects x.1 now x.2)) (e.scheduled q)

/-- The first callback, and what is left of the due list. -/
lemma Dispatched.cons {e1 e2 : Engine K} {rest : List Owner} {calls : List (Owner × Engine K)}
    (hd : e.timerManager.due = o :: rest)
    (hdue : ∀ q, q ∈ e2.timerManager.due ↔ q ∈ rest ∧ ¬ Taken env q e1 (effects o now e1))
    (hsub : e2.timerManager.due.Sublist rest)
    (hw : ∀ q, e2.scheduled q = wordAfter env q e1 (e.scheduled q) (effects o now e1))
    (h : Dispatched env effects now e2 e' calls) :
    Dispatched env effects now e e' ((o, e1) :: calls) := by
  refine ⟨h.depth, h.idle, ?_, fun q hq => ?_, fun q => ?_⟩
  · rw [hd]
    exact (h.order.trans hsub).cons_cons o
  · rw [List.map_cons, List.mem_cons]
    by_cases hqo : q = o
    · subst hqo
      simp
    · have hrest : q ∈ rest := (List.mem_cons.mp (hd ▸ hq)).resolve_left hqo
      rw [or_iff_right hqo, List.takeWhile_cons_of_pos (by simpa using Ne.symm hqo),
        List.forall_mem_cons]
      by_cases ht : Taken env q e1 (effects o now e1)
      · -- a node that is taken leaves the due list for good
        refine iff_of_false (fun hmem => ?_) fun hc => hc.1 ht
        exact ((hdue q).mp (h.order.subset hmem)).2 ht
      · rw [and_iff_right ht]
        exact h.called q ((hdue q).mpr ⟨hrest, ht⟩)
  · rw [h.scheduled, hw, List.foldl_cons]

/-- **The dispatch loop** over the callbacks with the given effects: a round for every due node
is enough. -/
lemma engineDispatchLoop_calls (rounds : ℕ) : ∀ e : Engine K, Turning e →
    (∀ q, (e.timerManager.node q).state ≠ .running) → e.timerManager.due.length ≤ rounds →
    Dispatched env effects now e (engineDispatchLoop (callbackOf env effects) now rounds e)
      (engineDispatchCalls (callbackOf env effects) now rounds e) := by
  have hdone : ∀ e : Engine K, Turning e → (∀ q, (e.timerManager.node q).state ≠ .running) →
      e.timerManager.due = [] → Dispatched env effects now e e [] := by
    intro e h hrun hd
    refine ⟨h.depth, fun q => ⟨fun hq => ?_, hrun q⟩, by simp, by simp [hd], fun _ => rfl⟩
    rw [← h.valid.due_iff, hd] at hq
    cases hq
  induction rounds with
  | zero => exact fun e h hrun hlen => hdone e h hrun (List.length_eq_zero_iff.mp (Nat.le_zero.mp hlen))
  | succ rounds ih =>
      intro e h hrun hlen
      rw [engineDispatchLoop, engineDispatchCalls]
      cases hd : e.timerManager.due with
      | nil => exact hdone e h hrun hd
      | cons o rest =>
          have ho : o ∈ e.timerManager.due := by simp [hd]
          have h1 := h.begin hd
          have hown : ((engineDispatchBegin e o).timerManager.node o).owner = true := by
            simpa [engineDispatchBegin] using h.owner ho
          have hbegin := engineDispatchBegin_scheduled h ho
          have hdue := engineDispatchBegin_due e hd
          have hrun1 : ∀ q, q ≠ o →
              ((engineDispatchBegin e o).timerManager.node q).state ≠ .running := by
            intro q hq
            simpa [engineDispatchBegin, hq] using hrun q
          dsimp only
          rw [if_pos hown, if_pos hown]
          generalize engineDispatchBegin e o = e1 at h1 hown hbegin hdue hrun1
          have hc : Called env e1 (effects o now e1) (callbackOf env effects o now e1) :=
            called_foldl _ _ h1
          generalize callbackOf env effects o now e1 = e2 at hc
          have hsub : (engineDispatchEnd e2 o).timerManager.due.Sublist rest := by
            rw [engineDispatchEnd_due, ← hdue]
            exact hc.due
          refine Dispatched.cons hd (fun q => ?_) hsub (fun q => ?_)
            (ih _ (hc.turning.settle o) (fun q hq => ?_) ?_)
          · rw [engineDispatchEnd_due, hc.due_iff, hdue]
          · rw [engineDispatchEnd_scheduled, hc.scheduled, hbegin]
          · obtain ⟨hq, hqo⟩ := engineDispatchEnd_running hq
            exact hrun1 q hqo (hc.running q hq)
          · have := hsub.length_le
            rw [hd, List.length_cons] at hlen
            omega

/-! ### The update -/

/-- An engine between two operations, with any nodes in its heap. -/
structure Resting (e : Engine K) : Prop where
  valid : e.timerManager.Valid
  depth : e.operationDepth = 0
  due : e.timerManager.due = []
  running : ∀ o, (e.timerManager.node o).state ≠ .running
  fresh : ∀ o, (e.timerManager.node o).owner = false → (e.timerManager.node o).state = .idle

lemma Boundary.resting (h : Boundary env e) : Resting e where
  valid := h.valid
  depth := h.depth
  due := h.due
  running := h.running
  fresh := fun o ho => h.idle o fun hl => by simp [(h.owner o).mpr hl] at ho

/-- The node is in the heap and due. -/
def Engine.Due (e : Engine K) (now : ℤ) (q : Owner) : Prop :=
  (e.timerManager.node q).state = .heap ∧ (e.timerManager.node q).deadlineMs ≤ now

/-- What a collection leaves in the heap. -/
lemma engineCollect_scheduled (env : Env K) (h : Resting e) (q : Owner) :
    (engineCollect env e).scheduled q =
      (e.scheduled q).filter fun d => engineNow env e < d := by
  obtain ⟨l, hdue, hl⟩ := collectDue_sorted h.valid (engineNow env e)
  have hnode := collectDue_node h.valid (engineNow env e) q
  have hmem := (collectDue_valid h.valid (engineNow env e)).due_iff q
  rw [hdue, h.due, List.nil_append, hl.mem] at hmem
  show (if ((timerCollectDue e.timerManager (engineNow env e)).node q).state = .heap then
    some ((timerCollectDue e.timerManager (engineNow env e)).node q).deadlineMs else none) = _
  generalize (timerCollectDue e.timerManager (engineNow env e)).node q = n at hnode hmem ⊢
  rw [Engine.scheduled, hnode.deadlineMs]
  by_cases hs : (e.timerManager.node q).state = .heap
  · by_cases hd : (e.timerManager.node q).deadlineMs ≤ engineNow env e
    · simp [hs, hmem.mp ⟨hs, hd⟩, Option.filter, not_lt.mpr hd]
    · have hn : n.state = .heap :=
        (hnode.state.resolve_right fun hc => hd hc.2.1).trans hs
      simp [hs, hn, Option.filter, not_le.mp hd]
  · have hn : n.state ≠ .heap := by
      rcases hnode.state with hn | ⟨hn, -, -⟩
      · rwa [hn]
      · exact absurd hn hs
    simp [hs, hn]

/-- The heap is not touched when the operation ends. -/
lemma engineOperationLeave_timerManager (env : Env K) (hd : e.operationDepth = 1) :
    (engineOperationLeave env e).timerManager = e.timerManager := by
  rw [engineOperationLeave_eq env hd]
  obtain ⟨a, d, evs, heq, -⟩ := engineRearmTimer_eq e.left (engineNow env e)
  rw [heq]
  rfl

/-- **Update dispatch.**  From any heap, at any time and for any effects of the callbacks, an
update invokes each callback at most once, in the order the nodes had at its start.  A node's
callback is invoked just if the node was due and no callback before has cancelled, unregistered
or rescheduled it.  The heap then holds what the last word on each node says, so that what was
scheduled meanwhile stays there, and no node is left due or running. -/
theorem update_dispatches_snapshot (h : Resting e)
    (effects : Owner → ℤ → Engine K → List (TimerEffect K)) :
    ((engineUpdateCalls env (callbackOf env effects) e).map Prod.fst).Nodup ∧
    (((engineUpdateCalls env (callbackOf env effects) e).map Prod.fst).Pairwise fun a b =>
      (e.timerManager.node a).key ≤ (e.timerManager.node b).key) ∧
    (∀ q, q ∈ (engineUpdateCalls env (callbackOf env effects) e).map Prod.fst ↔
      e.Due (engineNow env e) q ∧
        ∀ x ∈ (engineUpdateCalls env (callbackOf env effects) e).takeWhile (·.1 ≠ q),
          ¬ Taken env q x.2 (effects x.1 (engineNow env e) x.2)) ∧
    (∀ q, (engineUpdateWith env (callbackOf env effects) e).scheduled q =
      (engineUpdateCalls env (callbackOf env effects) e).foldl
        (fun w x => wordAfter env q x.2 w (effects x.1 (engineNow env e) x.2))
        ((e.scheduled q).filter fun d => engineNow env e < d)) ∧
    ∀ q, ((engineUpdateWith env (callbackOf env effects) e).timerManager.node q).state ≠ .due ∧
      ((engineUpdateWith env (callbackOf env effects) e).timerManager.node q).state ≠ .running := by
  obtain ⟨l, hdue, hl⟩ := collectDue_sorted h.valid (engineNow env e)
  have hnode := collectDue_node h.valid (engineNow env e)
  have hvalid := collectDue_valid h.valid (engineNow env e)
  rw [h.due, List.nil_append] at hdue
  have hscheduled := engineCollect_scheduled env h
  have h0 : Turning (engineOperationEnter (engineCollect env e)) := by
    refine ⟨hvalid, congrArg (· + 1) h.depth, fun o ho => ?_⟩
    have hidle := h.fresh o ((hnode o).owner.symm.trans ho)
    rcases (hnode o).state with hs | ⟨hs, -, -⟩
    · exact hs.trans hidle
    · rw [hidle] at hs
      cases hs
  have hrun : ∀ q, ((engineOperationEnter (engineCollect env e)).timerManager.node q).state ≠
      .running := by
    intro q
    rcases (hnode q).state with hs | ⟨-, -, hs⟩
    · exact fun hr => h.running q (hs.symm.trans hr)
    · exact fun hr => absurd (hs.symm.trans hr) (by decide)
  have hd : Dispatched env effects (engineNow env e) _ _ (engineUpdateCalls env _ e) :=
    engineDispatchLoop_calls _ _ h0 hrun le_rfl
  have hman : (engineUpdateWith env (callbackOf env effects) e).timerManager = _ :=
    engineOperationLeave_timerManager env hd.depth
  have horder : ((engineUpdateCalls env (callbackOf env effects) e).map Prod.fst).Sublist l :=
    hdue ▸ hd.order
  refine ⟨(hdue ▸ hvalid.due_nodup : l.Nodup).sublist horder, hl.sorted.sublist horder,
    fun q => ?_, fun q => ?_, fun q => ?_⟩
  · by_cases hq : q ∈ l
    · have hdue' : e.Due (engineNow env e) q := (hl.mem q).mp hq
      rw [and_iff_right hdue']
      exact hd.called q (by exact hdue ▸ hq)
    · exact iff_of_false (fun hm => hq (horder.subset hm)) fun hm => hq ((hl.mem q).mpr hm.1)
  · rw [Engine.scheduled, hman, ← hscheduled]
    exact hd.scheduled q
  · rw [hman]
    exact hd.idle q

/-- A host whose clock moves by 100 seconds with every interaction. -/
def rushedHost : Env Unit := { idealHost 0 0 with monotonicTimeMs := fun t => 100000 * t }

/-- A connection with two streams; the timers of all three are due. -/
def rushed : Engine Unit :=
  execAll rushedHost
    [.input plainConnect [10], .streamCreate 0 none none, .streamCreate 0 none none] idealEngine

lemma rushed_reachable : Reachable rushedHost rushed := by
  have hcreate : engineCreate rushedHost none none = some idealEngine := by
    rw [← idealEngine_create 0 0]
    rfl
  exact Reachable.execAll (.create hcreate) (by decide +kernel)

/-- Callbacks that reschedule their own node at once and cancel the timer of the first stream. -/
def meddling (o : Owner) (now : ℤ) (_ : Engine Unit) : List (TimerEffect Unit) :=
  [.schedule o now now, .cancel (.stream 0) now]

/-- Of the three due nodes the first and the last are called; the second has been cancelled, and
what was rescheduled waits for the next update. -/
theorem update_dispatches_snapshot_rushed :
    (∀ q ∈ [.conn 0, .stream 0, .stream 1], rushed.Due (engineNow rushedHost rushed) q) ∧
      (engineUpdateCalls rushedHost (callbackOf rushedHost meddling) rushed).map Prod.fst =
        [.conn 0, .stream 1] ∧
      (∃ x ∈ (engineUpdateCalls rushedHost (callbackOf rushedHost meddling) rushed).takeWhile
          (·.1 ≠ .stream 0),
        Taken rushedHost (.stream 0) x.2 (meddling x.1 (engineNow rushedHost rushed) x.2)) ∧
      (engineUpdateWith rushedHost (callbackOf rushedHost meddling) rushed).scheduled (.conn 0) =
        some (engineNow rushedHost rushed) ∧
      ∀ q, ((engineUpdateWith rushedHost (callbackOf rushedHost meddling)
        rushed).timerManager.node q).state ≠ .running := by
  have h := @update_dispatches_snapshot Unit rushedHost rushed rushed_reachable.boundary.resting
    meddling
  have hdue : ∀ q ∈ [.conn 0, .stream 0, .stream 1],
      rushed.Due (engineNow rushedHost rushed) q := by
    simp only [List.forall_mem_cons]
    refine ⟨?_, ?_, ?_, fun _ hq => by cases hq⟩ <;> exact ⟨by decide +kernel, by decide +kernel⟩
  have hcalls : (engineUpdateCalls rushedHost (callbackOf rushedHost meddling) rushed).map
      Prod.fst = [.conn 0, .stream 1] := by decide +kernel
  refine ⟨hdue, hcalls, ?_, by decide +kernel, fun q => (h.2.2.2.2 q).2⟩
  -- the second node was due, so that somebody has taken it
  by_contra hnone
  have hmem := (h.2.2.1 (.stream 0)).mpr
    ⟨hdue _ (by simp), fun x hx ht => hnone ⟨x, hx, ht⟩⟩
  rw [hcalls] at hmem
  exact absurd hmem (by decide)

/-! ### The callbacks of the engine -/

/-- Some effects take the engine `e` to `e'`. -/
def Effected (env : Env K) (e e' : Engine K) : Prop :=
  ∃ fs : List (TimerEffect K), fs.foldl (TimerEffect.apply env) e = e'

lemma Effected.trans {e1 e2 : Engine K} (h1 : Effected env e e1) (h2 : Effected env e1 e2) :
    Effected env e e2 := by
  obtain ⟨fs, rfl⟩ := h1
  obtain ⟨gs, rfl⟩ := h2
  exact ⟨fs ++ gs, List.foldl_append⟩

/-- Whatever leaves the timers alone. -/
lemma Effected.other (hm : e'.timerManager = e.timerManager)
    (hd : e'.operationDepth = e.operationDepth) : Effected env e e' := by
  refine ⟨[.other ⟨fun x => { e' with
    timerManager := x.timerManager, operationDepth := x.operationDepth }, fun _ => ⟨rfl, rfl⟩⟩], ?_⟩
  rw [List.foldl_cons, List.foldl_nil, TimerEffect.apply]
  dsimp only
  rw [← hm, ← hd]

/-- One effect on the timers, and whatever else goes with it. -/
lemma Effected.one {e1 : Engine K} (f : TimerEffect K) (hf : f.apply env e = e1)
    (hm : e'.timerManager = e1.timerManager) (hd : e'.operationDepth = e1.operationDepth) :
    Effected env e e' :=
  Effected.trans ⟨[f], hf⟩ (.other hm hd)

/-- A node with its owner that moves. -/
lemma TimerMove.Did.effected {mv : TimerMove} {m : TimerManager Owner}
    (h : mv.Did env e.timerManager o m) (hd : 0 < e.operationDepth)
    (ho : (e.timerManager.node o).owner = true) (hm : e'.timerManager = m)
    (hd' : e'.operationDepth = e.operationDepth) : Effected env e e' := by
  cases mv with
  | keep => exact .other (hm.trans h) hd'
  | schedule d now =>
      -- the allocation is the one of the tick `k`
      obtain ⟨k, rfl⟩ := h
      have h0 : Effected env e { e with tick := k } := .other rfl rfl
      obtain ⟨hdep, hcase⟩ := engineScheduleTimerNode_inside env (e := { e with tick := k }) hd o d now
      refine h0.trans (.one (.schedule o d now) rfl ?_ (hd'.trans hdep.symm))
      show e'.timerManager = (engineScheduleTimerNode env { e with tick := k } o d now).2.timerManager
      rw [hm, engineScheduleTimerNode, if_neg (by simp [ho])]
      simp only [← max_def_lt]
      split_ifs with hok
      · rw [engineRearmTimer_of_depth (by exact hd)]
      · rfl
  | cancel =>
      refine .one (.cancel o 0) rfl ?_ (hd'.trans ?_)
      · rw [hm, TimerEffect.apply, engineCancelTimerNode, engineRearmTimer_of_depth (by exact hd)]
        exact h
      · rw [TimerEffect.apply, engineCancelTimerNode, engineRearmTimer_of_depth (by exact hd)]

/-- A node with its owner that is unregistered. -/
lemma Effected.unregister (hd : 0 < e.operationDepth) (ho : (e.timerManager.node o).owner = true)
    (hm : e'.timerManager = timerUnregister e.timerManager o)
    (hd' : e'.operationDepth = e.operationDepth) : Effected env e e' := by
  have heq : engineUnregisterTimerNode env e o = _ := engineUnregisterTimerNode_eq hd ho
  exact .one (.unregister o) heq hm hd'

/-- The finalisation of a connection. -/
lemma connCloseInternal_effected (h : Own env e) (hd : 0 < e.operationDepth) {c : ℕ}
    (hl : e.LiveConn c) (reason : UInt8) : Effected env e (connCloseInternal env e c reason) := by
  refine connFinal_induct (P := fun e1 => Effected env e e1) (Q := fun e1 => Effected env e e1) h hd
    hl ?_ (fun e1 s ho hd1 _ hs h1 => ?_) fun e1 _ _ _ _ _ h1 => h1.trans (.other rfl rfl)
  · exact .unregister (o := .conn c) hd ((h.owner (.conn c)).mpr hl) rfl rfl
  · exact h1.trans (.unregister (o := .stream s) hd1 ((ho.owner (.stream s)).mpr hs.1) rfl rfl)

/-- **Every step of a timer callback** is made of effects. -/
lemma Act.effected (ha : Act env .update e e') (h : Own env e) (hd : 0 < e.operationDepth) :
    Effected env e e' := by
  cases ha with
  | @conn c t x evs now m st cs hl ht hx hm hst =>
      exact hm.effected hd ((h.owner (.conn c)).mpr hl) rfl rfl
  | @stream s t x evs mv p m st cs hl ht hx hm hst =>
      exact hm.effected hd ((h.owner (.stream s)).mpr hl) rfl rfl
  | connNew ht hid hcap hx => cases hx <;> contradiction
  | streamNew hl hs ht hcap hx => cases hx <;> contradiction
  | @streamFinal s reason hd hl =>
      exact .unregister (o := .stream s) hd ((h.owner (.stream s)).mpr hl) rfl rfl
  | @streamLast s t x evs mv m st cs reason hd hl ht hx hm hst =>
      have ho := (h.owner (.stream s)).mpr hl
      have h1 : Effected env e (e.stepStream s x evs m t st cs .keep) :=
        hm.effected hd ho rfl rfl
      have ho1 : (m.node (.stream s)).owner = true := by rw [hm.owner]; exact ho
      exact h1.trans (.unregister (o := .stream s) hd ho1 rfl rfl)
  | connFinal hd hl => exact connCloseInternal_effected h hd hl _
  | @connLast c t x evs st cs hd hl ht hx hst =>
      have hs := SameOwn.connLast env hl hx t st cs
      have h1 : Effected env e (e.stepConn c x evs e.timerManager t st cs) := .other rfl rfl
      exact h1.trans (connCloseInternal_effected (h.of_same hs) hd ((hs.liveConn c).mpr hl) _)
  | _ => exact .other rfl rfl

lemma Acts.effected (ha : Acts env .update e e') (h : Own env e) (hd : 0 < e.operationDepth) :
    Effected env e e' := by
  induction ha using Relation.ReflTransGen.head_induction_on with
  | refl => exact .other rfl rfl
  | head hstep _ ih =>
      exact (hstep.effected h hd).trans (ih (hstep.own h) ((hstep.grows h).depth ▸ hd))

open Classical in
/-- The effects of a timer callback of the engine. -/
noncomputable def timeoutEffects (env : Env K) (o : Owner) (nowMs : ℤ) (e : Engine K) :
    List (TimerEffect K) :=
  if h : Effected env e (timeoutCallback env o nowMs e) then h.choose else []

lemma Round.callbackOf (h : Round env now e) {rest : List Owner}
    (hd : e.timerManager.due = o :: rest) :
    callbackOf env (timeoutEffects env) o now (engineDispatchBegin e o) =
      timeoutCallback env o now (engineDispatchBegin e o) := by
  have hi := h.inside hd
  have heff := (h.callback hd).effected hi.toOwn hi.depth
  rw [KcpMux.callbackOf, timeoutEffects, dif_pos heff]
  exact heff.choose_spec

/-- **The engine's own update** is one of those of `update_dispatches_snapshot`. -/
theorem engineUpdate_eq_callbackOf (h : Reachable env e) :
    engineUpdate env e = engineUpdateWith env (callbackOf env (timeoutEffects env)) e ∧
      engineUpdateCalls env (timeoutCallback env) e =
        engineUpdateCalls env (callbackOf env (timeoutEffects env)) e := by
  have key : ∀ (rounds : ℕ) (e1 : Engine K), Round env (engineNow env e) e1 →
      engineDispatchLoop (timeoutCallback env) (engineNow env e) rounds e1 =
          engineDispatchLoop (callbackOf env (timeoutEffects env)) (engineNow env e) rounds e1 ∧
        engineDispatchCalls (timeoutCallback env) (engineNow env e) rounds e1 =
          engineDispatchCalls (callbackOf env (timeoutEffects env)) (engineNow env e) rounds e1 := by
    intro rounds
    induction rounds with
    | zero => exact fun e1 _ => ⟨rfl, rfl⟩
    | succ rounds ih =>
        intro e1 hr
        rw [engineDispatchLoop, engineDispatchLoop, engineDispatchCalls, engineDispatchCalls]
        cases hd : e1.timerManager.due with
        | nil => exact ⟨rfl, rfl⟩
        | cons o rest =>
            have hown : ((engineDispatchBegin e1 o).timerManager.node o).owner = true := by
              simpa [engineDispatchBegin] using (hr.owner o).mpr (hr.live_of_due (by simp [hd]))
            obtain ⟨h1, h2⟩ := ih _ (hr.next hd).1
            dsimp only
            rw [if_pos hown, if_pos hown, if_pos hown, if_pos hown, hr.callbackOf hd]
            exact ⟨h1, congrArg _ h2⟩
  exact ⟨congrArg (engineOperationLeave env) (key _ _ h.boundary.round).1,
    (key _ _ h.boundary.round).2⟩

/-- Of the three due nodes the connection comes first; it times out, and its streams go with it. -/
theorem engineUpdate_eq_callbackOf_rushed :
    (engineUpdateCalls rushedHost (callbackOf rushedHost (timeoutEffects rushedHost)) rushed).map
      Prod.fst = [.conn 0] := by
  rw [← (engineUpdate_eq_callbackOf rushed_reachable).2]
  decide +kernel

end KcpMux
