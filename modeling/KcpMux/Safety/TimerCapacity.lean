import KcpMux.Safety.Dispatch

/-!
Scheduling needs no memory.

`Stocked m count` says that a timer manager has `count` registered nodes and room for all of
them.  Registration reserves that room and nothing else takes it away, so the heap never has
more nodes than are registered, and the reservation inside `kcpmux_timer_schedule` finds what
it asks for.

* `Stocked.effect`, `Stocked.update`: the operations on timer nodes, and updates whose callbacks
  do anything with them;
* `timerGrow_stable`: the loop of `kcpmux_timer_manager_reserve` stops;
* `scheduling_needs_no_memory`: all of it, for runs of these operations and for runs of the
  engine.
-/

namespace KcpMux

open TimerManager

variable {K : Type} {env : Env K} {e : Engine K} {m m' : TimerManager Owner} {n : ℕ} {o : Owner}

/-- The manager has `count` registered nodes and room for all of them. -/
structure Stocked (m : TimerManager Owner) (count : ℕ) : Prop where
  valid : m.Valid
  fresh : ∀ o, (m.node o).owner = false → (m.node o).state = .idle
  registered : ∃ nodes : Finset Owner, (∀ o, o ∈ nodes ↔ (m.node o).owner = true) ∧
    nodes.card = count
  capacity : count ≤ m.capacity

namespace Stocked

/-- Only registered nodes are in the heap. -/
lemma owner_of_inHeap (h : Stocked m n) (ho : m.InHeap o) : (m.node o).owner = true := by
  by_contra hn
  have hidle := h.fresh o (by simpa using hn)
  rw [TimerManager.InHeap, hidle] at ho
  cases ho

lemma size_le (h : Stocked m n) : m.size ≤ n := by
  obtain ⟨nodes, hmem, hcard⟩ := h.registered
  rw [← hcard]
  exact h.valid.size_le_card nodes fun q hq => (hmem q).mpr (h.owner_of_inHeap hq)

/-- **The node of a registered owner** is in the heap, or the heap has room for it. -/
lemma room (h : Stocked m n) (ho : (m.node o).owner = true) :
    (m.node o).state = .heap ∨ m.size < m.capacity := by
  by_cases hheap : (m.node o).state = .heap
  · exact Or.inl hheap
  · right
    obtain ⟨nodes, hmem, hcard⟩ := h.registered
    have ho' : o ∈ nodes := (hmem o).mpr ho
    have hsize : m.size ≤ (nodes.erase o).card := by
      refine h.valid.size_le_card _ fun q hq => ?_
      rw [Finset.mem_erase, hmem]
      exact ⟨fun heq => hheap (heq ▸ hq), h.owner_of_inHeap hq⟩
    have hpos : 0 < nodes.card := Finset.card_pos.mpr ⟨o, ho'⟩
    rw [Finset.card_erase_of_mem ho'] at hsize
    have hcap := h.capacity
    omega

/-! ### Operations on the manager -/

/-- An operation that registers nothing and keeps the capacity. -/
lemma of_nodes (h : Stocked m n) (hv : m'.Valid)
    (howner : ∀ o, (m'.node o).owner = (m.node o).owner) (hcap : m'.capacity = m.capacity)
    (hfresh : ∀ o, (m'.node o).owner = false → (m'.node o).state = .idle) : Stocked m' n := by
  obtain ⟨nodes, hmem, hcard⟩ := h.registered
  exact ⟨hv, hfresh, ⟨nodes, fun o => by rw [howner]; exact hmem o, hcard⟩, hcap ▸ h.capacity⟩

lemma schedule (h : Stocked m n) (ho : (m.node o).owner = true) (d : ℤ) (realloc : Bool) :
    Stocked (timerSchedule m o d realloc).2 n := by
  refine h.of_nodes (schedule_valid h.valid _ _ _) (fun q => timerSchedule_owner m o q d realloc)
    (timerSchedule_ok m o d realloc (h.room ho)).2 fun q hq => ?_
  rw [timerSchedule_owner] at hq
  have hne : q ≠ o := by
    rintro rfl
    simp [ho] at hq
  rw [(timerSchedule_other m hne d realloc).state]
  exact h.fresh q hq

lemma cancel (h : Stocked m n) (o : Owner) : Stocked (timerCancel m o) n := by
  refine h.of_nodes (cancel_valid h.valid _) (timerCancel_owner m o) (timerCancel_capacity m o)
    fun q hq => ?_
  rw [timerCancel_owner] at hq
  by_cases hqo : q = o
  · subst hqo
    exact timerCancel_self_state m q
  · rw [(timerCancel_other m hqo).state]
    exact h.fresh q hq

lemma unregister (h : Stocked m n) (ho : (m.node o).owner = true) :
    Stocked (timerUnregister m o) (n - 1) := by
  obtain ⟨nodes, hmem, hcard⟩ := h.registered
  have hself := timerUnregister_self m o
  refine ⟨unregister_valid h.valid o, fun q hq => ?_, ⟨nodes.erase o, fun q => ?_, ?_⟩, ?_⟩
  · by_cases hqo : q = o
    · rw [hqo]
      exact hself.2
    · have hother := timerUnregister_other m hqo
      rw [hother.state]
      exact h.fresh q (hother.owner.symm.trans hq)
  · rw [Finset.mem_erase, hmem]
    by_cases hqo : q = o
    · subst hqo
      simp
    · rw [(timerUnregister_other m hqo).owner]
      exact and_iff_right hqo
  · rw [Finset.card_erase_of_mem ((hmem o).mpr ho), hcard]
  · rw [timerUnregister_capacity]
    exact (Nat.sub_le n 1).trans h.capacity

lemma register (h : Stocked m n) (ho : (m.node o).owner = false) {capacity : ℕ}
    (hcap : n + 1 ≤ capacity) : Stocked (timerNodeInit { m with capacity } o) (n + 1) := by
  obtain ⟨nodes, hmem, hcard⟩ := h.registered
  have hnew : o ∉ nodes := by
    rw [hmem, ho]
    decide
  refine ⟨nodeInit_valid h.valid (h.fresh o ho) capacity, fun q hq => ?_,
    ⟨insert o nodes, fun q => ?_, ?_⟩, hcap⟩
  · by_cases hqo : q = o
    · subst hqo
      simp [timerNodeInit] at hq
    · rw [timerNodeInit, setNode_node_of_ne _ hqo] at hq ⊢
      exact h.fresh q hq
  · rw [Finset.mem_insert, hmem]
    by_cases hqo : q = o
    · subst hqo
      simp [timerNodeInit]
    · rw [timerNodeInit, setNode_node_of_ne _ hqo]
      exact or_iff_right hqo
  · rw [Finset.card_insert_of_notMem hnew, hcard]

lemma collectDue (h : Stocked m n) (now : ℤ) : Stocked (timerCollectDue m now) n := by
  have hnode := collectDue_node h.valid now
  refine h.of_nodes (collectDue_valid h.valid now) (fun q => (hnode q).owner)
    (timerCollectDue_capacity m now) fun q hq => ?_
  have hidle := h.fresh q ((hnode q).owner.symm.trans hq)
  rcases (hnode q).state with hs | ⟨hs, -, -⟩
  · exact hs.trans hidle
  · rw [hidle] at hs
    cases hs

/-! ### Operations of the engine -/

lemma rearm (h : Stocked e.timerManager e.timerNodeCount) (now : ℤ) :
    Stocked (engineRearmTimer e now).timerManager (engineRearmTimer e now).timerNodeCount := by
  obtain ⟨a, d, evs, heq, -⟩ := engineRearmTimer_eq e now
  rw [heq]
  exact h

end Stocked

/-- Whatever else a callback does, it leaves the count of nodes to the timer functions. -/
def TimerEffect.Plain : TimerEffect K → Prop
  | .other f => ∀ e, (f.1 e).timerNodeCount = e.timerNodeCount
  | _ => True

/-- **One operation on timer nodes.** -/
lemma Stocked.effect (h : Stocked e.timerManager e.timerNodeCount) {f : TimerEffect K}
    (hf : f.Plain) :
    Stocked (f.apply env e).timerManager (f.apply env e).timerNodeCount := by
  cases f with
  | schedule o d now =>
      rw [TimerEffect.apply, engineScheduleTimerNode]
      dsimp only
      generalize (if d < now then now else d) = deadline
      split_ifs with ho hok
      · exact h
      · exact Stocked.rearm (h.schedule (by simpa using ho) _ _) now
      · exact h.schedule (by simpa using ho) _ _
  | cancel o now => exact Stocked.rearm (h.cancel o) now
  | unregister o =>
      rw [TimerEffect.apply, engineUnregisterTimerNode]
      split_ifs with ho
      · exact h
      · exact Stocked.rearm (h.unregister (by simpa using ho)) _
  | register o =>
      rw [TimerEffect.apply]
      split_ifs with ho
      · exact h
      rw [engineRegisterTimerNode]
      split_ifs with hfull
      · exact h
      have hsize : e.timerNodeCount + 1 ≤ sizeMax := by
        have : 2 ≤ sizeMax := by decide
        omega
      dsimp only
      rcases timerManagerReserve_eq e.timerManager hsize (env.alloc e.tick) with
        ⟨hok, capacity, hcap, heq⟩ | ⟨hne, -⟩
      · rw [if_neg (not_not.mpr hok), heq]
        exact h.register (by simpa using ho) hcap
      · rw [if_pos hne]
        exact h
  | other f =>
      rw [TimerEffect.apply, (f.2 e).1, hf e]
      exact h

lemma Stocked.callback (fs : List (TimerEffect K)) : ∀ e : Engine K,
    Stocked e.timerManager e.timerNodeCount → (∀ f ∈ fs, f.Plain) →
    Stocked (fs.foldl (TimerEffect.apply env) e).timerManager
      (fs.foldl (TimerEffect.apply env) e).timerNodeCount := by
  induction fs with
  | nil => exact fun e h _ => h
  | cons f fs ih =>
      intro e h hf
      exact ih _ (h.effect (hf f (by simp))) fun f' hf' => hf f' (by simp [hf'])

lemma Stocked.begin (h : Stocked e.timerManager e.timerNodeCount)
    (ho : o ∈ e.timerManager.due) :
    Stocked (engineDispatchBegin e o).timerManager (engineDispatchBegin e o).timerNodeCount := by
  have hown : ∀ q, ((engineDispatchBegin e o).timerManager.node q).owner =
      (e.timerManager.node q).owner := by
    intro q
    by_cases hqo : q = o
    · subst hqo
      simp [engineDispatchBegin]
    · simp [engineDispatchBegin, hqo]
  refine h.of_nodes (dispatch_valid h.valid ho) hown rfl fun q hq => ?_
  rw [hown] at hq
  have hidle := h.fresh q hq
  have hqo : q ≠ o := by
    rintro rfl
    rw [(h.valid.due_iff q).mp ho] at hidle
    cases hidle
  simpa [engineDispatchBegin, hqo] using hidle

lemma Stocked.finish (h : Stocked e.timerManager e.timerNodeCount) (o : Owner) :
    Stocked (engineDispatchEnd e o).timerManager (engineDispatchEnd e o).timerNodeCount := by
  rw [engineDispatchEnd]
  split_ifs with hr
  · have hown : ∀ q, ((e.timerManager.setNode o { e.timerManager.node o with
        state := .idle }).node q).owner = (e.timerManager.node q).owner := by
      intro q
      by_cases hqo : q = o
      · subst hqo
        simp
      · rw [setNode_node_of_ne _ hqo]
    refine h.of_nodes (settle_valid h.valid hr) hown rfl fun q hq => ?_
    by_cases hqo : q = o
    · subst hqo
      simp
    · rw [hown] at hq
      show ((e.timerManager.setNode o _).node q).state = _
      rw [setNode_node_of_ne _ hqo]
      exact h.fresh q hq
  · exact h

section Update

variable {effects : Owner → ℤ → Engine K → List (TimerEffect K)}

lemma Stocked.loop (hf : ∀ o now e, ∀ f ∈ effects o now e, f.Plain) (now : ℤ) (rounds : ℕ) :
    ∀ e : Engine K, Stocked e.timerManager e.timerNodeCount →
      Stocked (engineDispatchLoop (callbackOf env effects) now rounds e).timerManager
        (engineDispatchLoop (callbackOf env effects) now rounds e).timerNodeCount := by
  induction rounds with
  | zero => exact fun e h => h
  | succ rounds ih =>
      intro e h
      rw [engineDispatchLoop]
      cases hd : e.timerManager.due with
      | nil => exact h
      | cons o rest =>
          have h1 := h.begin (o := o) (by simp [hd])
          dsimp only
          generalize engineDispatchBegin e o = e1 at h1 ⊢
          split_ifs
          · exact ih _ ((Stocked.callback _ _ h1 (hf o now e1)).finish o)
          · exact ih _ (h1.finish o)

/-- The end of an operation leaves the timers alone. -/
lemma Stocked.leave (h : Stocked e.timerManager e.timerNodeCount) :
    Stocked (engineOperationLeave env e).timerManager
      (engineOperationLeave env e).timerNodeCount := by
  rw [engineOperationLeave]
  dsimp only
  split_ifs
  · exact h
  · exact h
  · rw [engineDrainPendingRelease_eq]
    refine Stocked.rearm ?_ _
    exact h

/-- **An update**, whatever its callbacks do with the nodes. -/
lemma Stocked.update (h : Stocked e.timerManager e.timerNodeCount)
    (hf : ∀ o now e, ∀ f ∈ effects o now e, f.Plain) :
    Stocked (engineUpdateWith env (callbackOf env effects) e).timerManager
      (engineUpdateWith env (callbackOf env effects) e).timerNodeCount := by
  have hcollect : Stocked (engineOperationEnter (engineCollect env e)).timerManager
      (engineOperationEnter (engineCollect env e)).timerNodeCount := h.collectDue (engineNow env e)
  exact (Stocked.loop hf _ _ _ hcollect).leave

end Update

/-! ### Runs -/

/-- The engines that operations on timer nodes lead to: registrations, schedules, cancels,
unregistrations, and updates whose callbacks do the same. -/
inductive TimerRun (env : Env K) : Engine K → Prop
  | create {connConfig : Option ConnConfig} {streamConfig : Option StreamConfig} {e : Engine K}
      (h : engineCreate env connConfig streamConfig = some e) : TimerRun env e
  | effect {e : Engine K} (h : TimerRun env e) (f : TimerEffect K) (hf : f.Plain) :
      TimerRun env (f.apply env e)
  | update {e : Engine K} (h : TimerRun env e)
      (effects : Owner → ℤ → Engine K → List (TimerEffect K))
      (hf : ∀ o now e, ∀ f ∈ effects o now e, f.Plain) :
      TimerRun env (engineUpdateWith env (callbackOf env effects) e)

lemma TimerRun.stocked (h : TimerRun env e) : Stocked e.timerManager e.timerNodeCount := by
  induction h with
  | create h =>
      obtain ⟨cc, sc, id, -, rfl⟩ := engineCreate_eq h
      exact ⟨init_valid fun _ => rfl, fun _ _ => rfl, ⟨∅, fun o => by simp [engineBlank, timerManagerInit], rfl⟩,
        le_rfl⟩
  | effect _ f hf ih => exact ih.effect hf
  | update _ effects hf ih => exact ih.update hf

/-- At any point of a run of the engine its timers are stocked: the registered nodes are those
of the live objects. -/
lemma Midway.stocked (h : Midway env e) : Stocked e.timerManager e.timerNodeCount := by
  have hs := h.steady
  refine ⟨hs.valid, fun o ho => ?_, ⟨e.liveOwners, fun o => ?_, ?_⟩, hs.counted.capacity⟩
  · exact hs.idle o fun hl => by simp [(hs.owner o).mpr hl] at ho
  · rw [Engine.mem_liveOwners, hs.owner]
  · rw [e.card_liveOwners, hs.counted.timerNodes]

/-! ### Reservations -/

/-- Once the capacity is reached, more rounds of the loop change nothing. -/
lemma timerGrow_stable {capacity : ℕ} : ∀ {rounds new : ℕ}, capacity ≤ new * 2 ^ rounds →
    ∀ more, timerGrow capacity (rounds + more) new = timerGrow capacity rounds new
  | 0, new, h, more => by
      have hle : ¬ new < capacity := by omega
      cases more with
      | zero => rfl
      | succ more => simp [timerGrow, hle]
  | rounds + 1, new, h, more => by
      rw [Nat.succ_add_eq_add_succ, Nat.add_succ, timerGrow, timerGrow]
      split_ifs
      · rfl
      · exact timerGrow_stable (by rw [pow_succ] at h; linarith) more
      · rfl

/-- The nodes of the engine have room, and scheduling a registered one cannot fail. -/
structure Supplied (env : Env K) (e : Engine K) : Prop where
  size : e.timerManager.size ≤ e.timerNodeCount
  count : e.timerNodeCount ≤ e.timerManager.capacity
  reserved : ∀ o, (e.timerManager.node o).owner = true →
    (e.timerManager.node o).state = .heap ∨ e.timerManager.size + 1 ≤ e.timerManager.capacity
  manager : ∀ o, (e.timerManager.node o).owner = true → ∀ d realloc,
    (timerSchedule e.timerManager o d realloc).1 = errOk ∧
      timerSchedule e.timerManager o d realloc = timerSchedule e.timerManager o d false
  engine : ∀ o, (e.timerManager.node o).owner = true → ∀ d now,
    (engineScheduleTimerNode env e o d now).1 = errOk ∧
      ((engineScheduleTimerNode env e o d now).2.timerManager.node o).state = .heap ∧
      ((engineScheduleTimerNode env e o d now).2.timerManager.node o).deadlineMs = max d now

lemma Stocked.supplied (env : Env K) (h : Stocked e.timerManager e.timerNodeCount) :
    Supplied env e := by
  refine ⟨h.size_le, h.capacity, fun o ho => h.room ho, fun o ho d realloc => ?_,
    fun o ho d now => ?_⟩
  · refine ⟨(timerSchedule_ok _ o d realloc (h.room ho)).1, ?_⟩
    rcases h.room ho with hheap | hroom
    · rw [timerSchedule_move _ d realloc hheap, timerSchedule_move _ d false hheap]
    · have hreserve : ∀ r, timerManagerReserve e.timerManager (e.timerManager.size + 1) r =
          (errOk, e.timerManager) := fun r => by
          rw [timerManagerReserve, if_pos (show e.timerManager.size + 1 ≤ _ from hroom)]
      rw [timerSchedule, timerSchedule, hreserve, hreserve]
  · have hok := (timerSchedule_ok e.timerManager o (max d now) (env.alloc e.tick) (h.room ho)).1
    have hself := timerSchedule_self e.timerManager o (max d now) (env.alloc e.tick) hok
    rw [engineScheduleTimerNode, if_neg (by simp [ho])]
    simp only [← max_def_lt, if_pos hok]
    obtain ⟨a, t, evs, heq, -⟩ := engineRearmTimer_eq ({ e.tock with
      timerManager := (timerSchedule e.timerManager o (max d now) (env.alloc e.tick)).2 }) now
    rw [heq]
    exact ⟨hok, hself⟩

/-- **Scheduling never needs memory.**  After any operations on timer nodes, and at any point of
a run of the engine, the heap has at most as many nodes as are registered, and its capacity is
at least that.  So `kcpmux_timer_schedule` on a registered node does not reallocate and does
not fail.  `kcpmux_timer_manager_reserve` stops for every capacity; it provides what is asked
for and keeps the heap, or changes nothing. -/
theorem scheduling_needs_no_memory (env : Env K) :
    (∀ e, TimerRun env e ∨ Midway env e → Supplied env e) ∧
      ∀ (m : TimerManager Owner) (capacity : ℕ), capacity ≤ sizeMax → ∀ realloc : Bool,
        (∀ more, timerGrow capacity (64 + more) (if m.capacity = 0 then 8 else m.capacity) =
            timerGrow capacity 64 (if m.capacity = 0 then 8 else m.capacity)) ∧
          ((timerManagerReserve m capacity realloc).1 = errOk ∧
              (∃ new, capacity ≤ new ∧
                (timerManagerReserve m capacity realloc).2 = { m with capacity := new }) ∨
            (timerManagerReserve m capacity realloc).1 ≠ errOk ∧
              (timerManagerReserve m capacity realloc).2 = m) := by
  refine ⟨fun e he => ?_, fun m capacity hc realloc => ⟨fun more => ?_, ?_⟩⟩
  · rcases he with h | h
    · exact h.stocked.supplied env
    · exact h.stocked.supplied env
  · refine timerGrow_stable ?_ more
    have hpos : 1 ≤ if m.capacity = 0 then 8 else m.capacity := by split_ifs <;> omega
    calc capacity ≤ 1 * 2 ^ 64 := hc.trans (by decide)
      _ ≤ _ := Nat.mul_le_mul_right _ hpos
  · exact timerManagerReserve_eq m hc realloc

/-- A node is registered and scheduled. -/
theorem scheduling_needs_no_memory_registered :
    (engineScheduleTimerNode (idealHost 0 0)
        ((TimerEffect.register (.conn 0)).apply (idealHost 0 0) idealEngine) (.conn 0) 5 0).1 =
        errOk ∧
      streaming.timerManager.size ≤ streaming.timerNodeCount ∧
      (timerManagerReserve streaming.timerManager 100 true).1 = errOk := by
  have hrun : TimerRun (idealHost 0 0)
      ((TimerEffect.register (.conn 0)).apply (idealHost 0 0) idealEngine) :=
    .effect (.create (idealEngine_create 0 0)) (.register (.conn 0)) trivial
  obtain ⟨h1, h2⟩ := scheduling_needs_no_memory (idealHost 0 0)
  refine ⟨((h1 _ (Or.inl hrun)).engine (.conn 0) (by decide +kernel) 5 0).1,
    (h1 _ (Or.inr streaming_reachable.midway)).size, ?_⟩
  rcases (h2 streaming.timerManager 100 (by decide) true).2 with h | h
  · exact h.1
  · exact absurd (show (timerManagerReserve streaming.timerManager 100 true).1 = errOk by
      decide +kernel) h.1

end KcpMux
