import KcpMux.Steps.Grow

/-!
The timer functions and the socket as steps.

A function that schedules or cancels a node ends by rearming the host's timer
(`Rearmed`), which does nothing inside an operation.  The lemmas here say what is left
besides: a move of the node, host interactions, entries in the log.
-/

namespace KcpMux

variable {K : Type} {env : Env K} {e : Engine K}

/-! ### Moves of timer nodes -/

/-- A function that has taken the timer manager from `m` to that of `e` ends by rearming the
host's timer, or has failed to change the manager. -/
inductive Rearmed (now : ℤ) (m : TimerManager Owner) (e : Engine K) : Engine K → Prop
  | rearm : Rearmed now m e (engineRearmTimer e now)
  | failed (h : e.timerManager = m) : Rearmed now m e e

lemma Rearmed.eq_of_depth {now : ℤ} {m : TimerManager Owner} {e e' : Engine K}
    (h : Rearmed now m e e') (hd : 0 < e.operationDepth) : e' = e := by
  cases h with
  | rearm => exact engineRearmTimer_of_depth hd now
  | failed h => rfl

/-- The entry is a request to the host's timer. -/
def Event.SetsTimer (ev : Event) : Prop := ∃ nowMs wakeAfterMs, ev = .setTimer nowMs wakeAfterMs

lemma Event.SetsTimer.subject {ev : Event} (h : ev.SetsTimer) : ev.subject = none := by
  obtain ⟨_, _, rfl⟩ := h
  rfl

/-- Rearming touches the host's timer and the log only. -/
lemma engineRearmTimer_eq (e : Engine K) (now : ℤ) :
    ∃ a d evs, engineRearmTimer e now =
      { e with externalTimerArmed := a, externalTimerDeadlineMs := d, trace := evs ++ e.trace } ∧
      ∀ ev ∈ evs, ev.SetsTimer := by
  rw [engineRearmTimer]
  split_ifs
  · exact ⟨e.externalTimerArmed, e.externalTimerDeadlineMs, [], rfl, by simp⟩
  · cases timerPeek e.timerManager with
    | none => exact ⟨e.externalTimerArmed, e.externalTimerDeadlineMs, [], rfl, by simp⟩
    | some root =>
        dsimp only
        split_ifs
        · exact ⟨e.externalTimerArmed, e.externalTimerDeadlineMs, [], rfl, by simp⟩
        · exact ⟨_, _, [_], rfl, by simp [Event.SetsTimer]⟩

lemma Rearmed.tick {now : ℤ} {m : TimerManager Owner} {e e' : Engine K}
    (h : Rearmed now m e e') : e'.tick = e.tick := by
  cases h with
  | rearm =>
      obtain ⟨a, d, evs, h, -⟩ := engineRearmTimer_eq e now
      rw [h]
  | failed h => rfl

lemma engineScheduleTimerNode_did (env : Env K) {o : Owner} (ho : (e.timerManager.node o).owner = true)
    (d now : ℤ) :
    ∃ m, (TimerMove.schedule d now).Did env e.timerManager o m ∧
      Rearmed now e.timerManager { e with timerManager := m, tick := e.tick + 1 }
        (engineScheduleTimerNode env e o d now).2 := by
  refine ⟨(timerSchedule e.timerManager o (max d now) (env.alloc e.tick)).2, ⟨e.tick, rfl⟩, ?_⟩
  rw [engineScheduleTimerNode, if_neg (by simp [ho])]
  simp only [← max_def_lt, Engine.tock]
  split_ifs with hok
  · exact Rearmed.rearm
  · exact Rearmed.failed (timerSchedule_fail _ _ _ _ hok)

lemma connRefreshTimer_did (env : Env K) {c : ℕ} (hl : (e.conns c).internalClosed = false)
    (ho : (e.timerManager.node (.conn c)).owner = true) (now : ℤ) :
    ∃ m t, e.tick ≤ t ∧ (connMove (e.conns c) now).Did env e.timerManager (.conn c) m ∧
      Rearmed now e.timerManager { e with timerManager := m, tick := t }
        (connRefreshTimer env e c now) := by
  rw [connRefreshTimer, if_neg (by simp [hl]), connMove]
  cases connCalculateDeadline (e.conns c) with
  | none => exact ⟨_, e.tick, le_rfl, rfl, Rearmed.rearm⟩
  | some d =>
      obtain ⟨m, hm, hr⟩ := engineScheduleTimerNode_did env ho d now
      exact ⟨m, e.tick + 1, Nat.le_succ _, hm, hr⟩

/-- What a query leaves behind. -/
lemma kcpAsk_snd (e : Engine K) (s : ℕ) (op : ℕ → K → ℤ) (call : ℤ → KcpCall) :
    (kcpAsk e s op call).2 =
      { e with trace := .kcp s (call (kcpAsk e s op call).1) :: e.trace, tick := e.tick + 1 } :=
  rfl

/-- The deadline that `kcpmux_stream_refresh_timer` comes to. -/
lemma streamRefreshDeadline_eq (env : Env K) {s : ℕ}
    (hl : (e.streams s).internalClosed = false) (now : ℤ) :
    ∃ r t, e.tick ≤ t ∧ streamRefreshDeadline env e s now =
      (refreshDeadline (e.connOf s) (e.streams s) now r,
        { e with trace := refreshEvents s (e.connOf s) (e.streams s) now r ++ e.trace
                 tick := t }) := by
  rw [streamRefreshDeadline, if_neg (by simp [hl])]
  by_cases hc : (e.connOf s).internalClosed = true ∨ (e.connOf s).state ≠ .connected
  · refine ⟨0, e.tick, le_rfl, ?_⟩
    have hev : refreshEvents s (e.connOf s) (e.streams s) now 0 = [] := by
      rw [refreshEvents, if_neg]
      rintro ⟨h1, h2, -⟩
      rcases hc with hc | hc
      · rw [h1] at hc; cases hc
      · exact hc h2
    simp [hc, refreshDeadline, hev]
  · have hc' : (e.connOf s).internalClosed = false ∧ (e.connOf s).state = .connected := by
      simpa using hc
    rw [if_neg hc]
    simp only [refreshDeadline, refreshEvents, hc', true_and]
    have hmin : ∀ a b : ℤ, (if a < b then a else b) = min a b := by
      intro a b
      rcases lt_or_ge a b with h | h
      · rw [if_pos h, min_eq_left h.le]
      · rw [if_neg (not_lt.mpr h), min_eq_right h]
    cases hst : (e.streams s).state with
    | opened =>
        refine ⟨(kcpCheck env e s now).1, e.tick + 1, Nat.le_succ _, ?_⟩
        simp [streamKcpActive, hst, kcpCheck, kcpAsk_snd]
    | closing =>
        cases hph : (e.streams s).closePhase with
        | localDrain =>
            refine ⟨(kcpCheck env e s now).1, e.tick + 1, Nat.le_succ _, ?_⟩
            simp [streamKcpActive, hst, hph, kcpCheck, kcpAsk_snd]
            exact hmin _ _
        | _ =>
            refine ⟨0, e.tick, le_rfl, ?_⟩
            simp [streamKcpActive, hst, hph]
    | _ =>
        refine ⟨0, e.tick, le_rfl, ?_⟩
        simp [streamKcpActive, hst]

lemma streamRefreshTimer_did (env : Env K) {s : ℕ} (hl : (e.streams s).internalClosed = false)
    (ho : (e.timerManager.node (.stream s)).owner = true) (now : ℤ) :
    ∃ m t r, e.tick ≤ t ∧
      (refreshMove (e.connOf s) (e.streams s) now r).Did env e.timerManager (.stream s) m ∧
      Rearmed now e.timerManager
        { e with
          timerManager := m, tick := t
          trace := refreshEvents s (e.connOf s) (e.streams s) now r ++ e.trace }
        (streamRefreshTimer env e s now) := by
  obtain ⟨r, t, ht, heq⟩ := streamRefreshDeadline_eq env hl now
  rw [streamRefreshTimer, if_neg (by simp [ho]), heq]
  cases hd : refreshDeadline (e.connOf s) (e.streams s) now r with
  | none => exact ⟨_, t, r, ht, by rw [refreshMove, hd]; rfl, Rearmed.rearm⟩
  | some d =>
      obtain ⟨m, hm, hr⟩ := engineScheduleTimerNode_did env
        (e := { e with
          trace := refreshEvents s (e.connOf s) (e.streams s) now r ++ e.trace, tick := t })
        (o := .stream s) ho d now
      exact ⟨m, t + 1, r, ht.trans (Nat.le_succ _), by rw [refreshMove, hd]; exact hm, hr⟩

/-! ### The socket -/

lemma connWriteSocketv_timer (env : Env K) (e : Engine K) (o : Owner) (c : ℕ)
    (iov : List Bytes) : (connWriteSocketv env e o c iov).2.timerManager = e.timerManager := by
  simp only [connWriteSocketv, engineWriteSocketv, Engine.log, Engine.tock]
  split_ifs <;> rfl

/-- The transmission counters of a connection. -/
def ConnStats.sent (st : ConnStats) (size : ℕ) (ok : Bool) : ConnStats :=
  if ok then { st with txPackets := st.txPackets + 1, txBytes := st.txBytes + size } else st

/-- The counters of the engine that do not count datagrams. -/
def EngineStats.lasting (st : EngineStats) : EngineStats :=
  { st with txPackets := 0, txBytes := 0, rxPackets := 0, rxBytes := 0, txErrorPackets := 0 }

/-- The counters of a connection that do not count datagrams. -/
def ConnStats.lasting (st : ConnStats) : ConnStats :=
  { st with txPackets := 0, txBytes := 0, rxPackets := 0, rxBytes := 0 }

lemma EngineStats.sent_lasting (st : EngineStats) (size : ℕ) (ok : Bool) :
    (st.sent size ok).lasting = st.lasting := by
  rw [EngineStats.sent]
  split_ifs <;> rfl

lemma ConnStats.sent_lasting (st : ConnStats) (size : ℕ) (ok : Bool) :
    (st.sent size ok).lasting = st.lasting := by
  rw [ConnStats.sent]
  split_ifs <;> rfl

lemma EngineStats.life_of_lasting {st st' : EngineStats} (h : st.lasting = st'.lasting) :
    st.life = st'.life := by
  have hlife : ∀ st : EngineStats, st.lasting.life = st.life := fun _ => rfl
  rw [← hlife st, h, hlife]

/-- **A datagram** that is handed to the socket. -/
lemma connWriteSocketv_eq (env : Env K) (e : Engine K) (o : Owner) (c : ℕ) {iov : List Bytes}
    (h : iov ≠ []) :
    connWriteSocketv env e o c iov =
      (if env.writeSocketv e.tick then 0 else -errNetwork,
        { e with
          trace := .write o (e.conns c).peerAddr iov.flatten (env.writeSocketv e.tick) :: e.trace
          tick := e.tick + 1
          stats := e.stats.sent iov.flatten.length (env.writeSocketv e.tick)
          connStats := Function.update e.connStats c
            ((e.connStats c).sent iov.flatten.length (env.writeSocketv e.tick)) }) := by
  simp only [connWriteSocketv, engineWriteSocketv, if_neg h, Engine.log, Engine.tock]
  cases hok : env.writeSocketv e.tick with
  | true => simp [ConnStats.sent]
  | false => simp [errNetwork, ConnStats.sent]

/-- The counters that mirror the live objects do not move with it. -/
lemma connWriteSocketv_did (env : Env K) (e : Engine K) (o : Owner) (c : ℕ) {iov : List Bytes}
    (h : iov ≠ []) :
    ∃ st cs, st.life = e.stats.life ∧ connWriteSocketv env e o c iov =
      (if env.writeSocketv e.tick then 0 else -errNetwork,
        { e with
          trace := .write o (e.conns c).peerAddr iov.flatten (env.writeSocketv e.tick) :: e.trace
          tick := e.tick + 1, stats := st, connStats := cs }) := by
  exact ⟨_, _, EngineStats.life_of_lasting (EngineStats.sent_lasting _ _ _),
    connWriteSocketv_eq env e o c h⟩

end KcpMux
