import KcpMux.Runs.Views

/-!
No missed wakeup of the host.

The engine has one timer at the host, without a way to cancel it: `set_timer` asks for a
wakeup and `kcpmux_engine_update` is the wakeup.  Rearming is suppressed inside operations and
skipped when the deadline is the one asked for last.  `HostArmed` is what the cached deadline
says about the heap, `HostAsked` what the log says about the cached deadline, and
`host_wakeup_armed` puts the two together for every reachable engine.
-/

namespace KcpMux

variable {K : Type}

/-- The entry asks the host for a wakeup, or is the wakeup. -/
def Event.wakes : Event → Bool
  | .setTimer _ _ | .update _ => true
  | _ => false

/-- The cached deadline is that of the root of the heap. -/
def HostArmed (e : Engine K) : Prop :=
  ∀ root, timerPeek e.timerManager = some root →
    e.externalTimerArmed = true ∧
      e.externalTimerDeadlineMs = (e.timerManager.node root).deadlineMs

/-- The last request since the last wakeup was for `deadlineMs`. -/
def HostAsked (trace : List Event) (deadlineMs : ℤ) : Prop :=
  ∃ newer older now, trace = newer ++ .setTimer now (delayUntil deadlineMs now) :: older ∧
    ∀ ev ∈ newer, ev.wakes = false

variable {env : Env K} {op : Call} {e e' : Engine K}

/-! ### The delay -/

/-- After `kcpmux_engine_rearm_timer` outside an operation the cached deadline is right. -/
lemma engineRearmTimer_armed (hd : e.operationDepth = 0) (now : ℤ) :
    HostArmed (engineRearmTimer e now) := by
  rw [engineRearmTimer, if_neg (by omega)]
  cases hp : timerPeek e.timerManager with
  | none =>
      intro root hroot
      exact absurd (hp.symm.trans hroot) (by simp)
  | some q =>
      dsimp only
      split_ifs with h
      · intro root hroot
        obtain rfl : q = root := Option.some.inj (hp.symm.trans hroot)
        exact h
      · intro root hroot
        obtain rfl : q = root := Option.some.inj (hp.symm.trans hroot)
        exact ⟨rfl, rfl⟩

/-- A request that was made is still the last one after entries of another kind. -/
lemma HostAsked.append {trace evs : List Event} {deadlineMs : ℤ} (h : HostAsked trace deadlineMs)
    (hev : ∀ ev ∈ evs, ev.wakes = false) : HostAsked (evs ++ trace) deadlineMs := by
  obtain ⟨newer, older, now, rfl, hnewer⟩ := h
  refine ⟨evs ++ newer, older, now, by rw [List.append_assoc], fun ev hm => ?_⟩
  rcases List.mem_append.mp hm with hm | hm
  · exact hev ev hm
  · exact hnewer ev hm

lemma wakes_of_subject {ev : Event} {o : Owner} (h : ev.subject = some o) : ev.wakes = false := by
  cases ev <;> simp_all [Event.subject, Event.wakes]

/-- While the timer is armed the last request was for its deadline. -/
def Engine.AskedIfArmed (e : Engine K) : Prop :=
  e.externalTimerArmed = true → HostAsked e.trace e.externalTimerDeadlineMs

lemma engineRearmTimer_asked (h : e.AskedIfArmed) (now : ℤ) :
    (engineRearmTimer e now).AskedIfArmed := by
  rw [engineRearmTimer]
  split_ifs
  · exact h
  · cases timerPeek e.timerManager with
    | none => exact h
    | some root =>
        dsimp only
        split_ifs
        · exact h
        · exact fun _ => ⟨[], e.trace, now, rfl, by simp⟩

/-! ### Runs -/

/-- **Every move** keeps the log of requests. -/
lemma Move.asked (hm : Move env op e e') (h : Steady env e) (ha : e.AskedIfArmed) :
    e'.AskedIfArmed := by
  cases hm with
  | act hact =>
      obtain ⟨evs, ht, hev⟩ := hact.tells h.toOwn
      have hg := hact.grows h.toOwn
      intro harm
      rw [hg.armed] at harm
      rw [ht, hg.deadline]
      refine (ha harm).append fun ev hm => ?_
      obtain ⟨o, ho, -⟩ := hev ev hm
      exact wakes_of_subject ho
  | enter => exact ha
  | exit => exact ha
  | @release o rest hp =>
      have hev : ∀ ev ∈ [Event.release o], ev.wakes = false := by simp [Event.wakes]
      exact fun harm => (ha harm).append hev
  | rearm => exact engineRearmTimer_asked ha _
  | collect => exact fun harm => by cases harm
  | dispatch => exact ha
  | settle =>
      rw [engineDispatchEnd]
      split_ifs <;> exact ha
  | destroying => exact ha

/-- **Every call** leaves the host's timer armed for the root of the heap. -/
lemma Boundary.exec_armed (h : Boundary env e) (hv : op.Valid e) (ha : HostArmed e) :
    HostArmed (op.exec env e) := by
  have hform := Call.exec_form h.toSound h.noInit hv
  generalize op.exec env e = e' at hform ⊢
  -- steps that leave the timer alone leave the cached deadline alone
  have hacts : ∀ e1, Acts env op e e1 → e1.timerManager = e.timerManager → HostArmed e1 := by
    intro e1 h1 hm root hroot
    have hg := h1.grows h.toOwn
    rw [hg.armed, hg.deadline, hm]
    exact ha root (hm ▸ hroot)
  cases hform with
  | bare hop hb =>
      obtain ⟨e1, h1, hm, rfl | ⟨now, -, e2, h2, hr⟩⟩ := hb
      · exact hacts _ h1 hm
      · have hd : e2.operationDepth = 0 :=
          (Acts.grows (h1.tail h2) h.toOwn).depth.trans h.depth
        cases hr with
        | rearm => exact engineRearmTimer_armed hd now
        | failed hf => exact hacts _ (h1.tail h2) (hf.trans hm)
  | @bracket t st e1 ht hst h1 hop =>
      have hs : Sound env (engineOperationEnter { e with tick := t, stats := st }) :=
        (Moves.steady (.single .enter : Moves env op { e with tick := t, stats := st } _)
          (Moves.steady (.single (.act (.quiet ht hst)) : Moves env op e _) h.toSteady)).toSound
      have hd1 : e1.operationDepth = 1 := by
        rw [(h1.grows hs.toOwn).depth]
        show e.operationDepth + 1 = 1
        rw [h.depth]
      rw [engineOperationLeave_eq env hd1]
      exact engineRearmTimer_armed rfl _
  | update =>
      obtain ⟨e1, hr, -, -, heq⟩ := h.dispatched (P := fun _ => True)
        (fun _ _ _ _ _ _ => trivial) trivial
      rw [heq, engineOperationLeave_eq env hr.depth]
      exact engineRearmTimer_armed rfl _

lemma Reachable.armed (h : Reachable env e) : HostArmed e := by
  induction h with
  | create h =>
      obtain ⟨cc, sc, id, -, rfl⟩ := engineCreate_eq h
      intro root hroot
      simp [engineBlank, timerPeek, timerManagerInit] at hroot
  | call hr op hv ih => exact hr.boundary.exec_armed hv ih

lemma Reachable.asked (h : Reachable env e) : e.AskedIfArmed := by
  refine h.induct (P := Engine.AskedIfArmed) ?_ fun op e e' hs hm ha => hm.asked hs ha
  intro cc sc e hc harm
  obtain ⟨cc, sc, id, -, rfl⟩ := engineCreate_eq hc
  cases harm

end KcpMux
