import KcpMux.Runs.Kcp

/-!
The functions on one stream as steps.

Inside an operation (`Inside`) a function on a live stream is a chain of steps (`Acts`);
most of them leave the life cycle of the stream alone (`Still`).
-/

namespace KcpMux

variable {K : Type} {env : Env K} {op : Call} {e e' : Engine K}

/-- A sound engine in the middle of an operation. -/
structure Inside (env : Env K) (e : Engine K) : Prop extends Sound env e where
  depth : 0 < e.operationDepth

/-- The operation bracket is entered, with a call counted. -/
lemma Sound.enter (h : Sound env e) (st : EngineStats) (hst : st.life = e.stats.life) :
    Inside env (engineOperationEnter { e with stats := st }) := by
  have hs : Sound env { e with tick := e.tick, stats := st, connStats := e.connStats } :=
    Act.sound (.quiet le_rfl hst : Act env .update e _) h
  exact ⟨⟨{ hs.toOwn with }, hs.settled, hs.phased, hs.ran⟩, Nat.succ_pos _⟩

lemma Acts.inside (ha : Acts env op e e') (h : Inside env e) : Inside env e' :=
  ⟨ha.sound h.toSound, (ha.grows h.toOwn).depth ▸ h.depth⟩

lemma Still.inside (ha : Still env op e e') (h : Inside env e) : Inside env e' :=
  ha.acts.inside h

lemma Acts.tick (ha : Acts env op e e') (h : Own env e) : e.tick ≤ e'.tick := (ha.grows h).tick

/-- A step, and the host's timer. -/
def ActRearmed (env : Env K) (op : Call) (now : ℤ) (e e' : Engine K) : Prop :=
  ∃ e1, Act env op e e1 ∧ Rearmed now e.timerManager e1 e'

/-- Inside an operation the host's timer is left alone. -/
lemma ActRearmed.act {now : ℤ} (h : ActRearmed env op now e e') (hi : Inside env e) :
    Act env op e e' := by
  obtain ⟨e1, ha, hr⟩ := h
  rw [hr.eq_of_depth ((ha.grows hi.toOwn).depth ▸ hi.depth)]
  exact ha

variable {s : ℕ}

lemma Own.stream_owner (h : Own env e) (hl : e.LiveStream s) :
    (e.timerManager.node (.stream s)).owner = true :=
  (h.owner (.stream s)).mpr hl

lemma Own.conn_owner (h : Own env e) {c : ℕ} (hl : e.LiveConn c) :
    (e.timerManager.node (.conn c)).owner = true :=
  (h.owner (.conn c)).mpr hl

/-! ### Batching and the timer -/

lemma streamClearPending_still (hl : e.LiveStream s) (hop : op.Drives s) :
    Still env op e (streamClearPending e s) := by
  have h : Still env op e (e.stepStream s { e.streams s with pendingCount := 0 } []
      e.timerManager e.tick e.stats e.connStats .erase) :=
    Still.stream hl le_rfl (.clear hop) rfl rfl rfl
  exact h

/-- A schedule of the node of a stream that leaves its record alone. -/
lemma schedule_still (hi : Inside env e) (hl : e.LiveStream s) {d now : ℤ}
    (h : StreamTrans env op e (e.tick + 1) s (e.connOf s) (e.streams s) (e.streams s) []
      (.schedule d now) .keep) :
    Still env op e (engineScheduleTimerNode env e (.stream s) d now).2 := by
  obtain ⟨m, hm, hr⟩ := engineScheduleTimerNode_did env (hi.stream_owner hl) d now
  rw [hr.eq_of_depth hi.depth]
  have h1 : Still env op e (e.stepStream s (e.streams s) [] m (e.tick + 1) e.stats e.connStats
      .keep) := Still.stream hl (Nat.le_succ _) h hm rfl rfl
  simpa [Engine.stepStream, PendMove.apply] using h1

lemma streamAccumulateUpdate_still (hi : Inside env e) (hl : e.LiveStream s) {now : ℤ}
    (hnow : Read env e.tick now) (ha : streamKcpActive (e.streams s) = true) :
    Still env op e (streamAccumulateUpdate env e s now) := by
  have hread : Read env (e.tick + 1) now := hnow.mono (Nat.le_succ _)
  rw [streamAccumulateUpdate]
  dsimp only
  by_cases h1 : (e.streams s).config.batchThreshold ≤ 1
  · rw [if_pos h1]
    exact schedule_still hi hl (.wake hread ha)
  rw [if_neg h1]
  by_cases h2 : (e.streams s).pendingCount ≥ (e.streams s).config.batchThreshold
  · rw [if_pos h2]
    exact Still.refl e
  rw [if_neg h2]
  have h1' : 1 < (e.streams s).config.batchThreshold := UInt32.not_le.mp h1
  have h2' : (e.streams s).pendingCount < (e.streams s).config.batchThreshold :=
    UInt32.not_le.mp h2
  by_cases h3 : (e.streams s).pendingCount + 1 = (e.streams s).config.batchThreshold
  · rw [if_pos h3]
    have h0 : (e.streams s).pendingCount ≠ 0 := by
      intro h0
      rw [h0] at h3
      rw [← h3] at h1'
      exact absurd h1' (by decide)
    rw [if_neg h0]
    obtain ⟨m, hm, hr⟩ := engineScheduleTimerNode_did env
      (e := { e.setStream s { e.streams s with pendingCount := (e.streams s).pendingCount + 1 } with
        pendingBatchStreams := e.pendingBatchStreams.erase s })
      (o := .stream s) (hi.stream_owner hl) now now
    have heq := hr.eq_of_depth hi.depth
    have h4 : Still env op e (e.stepStream s
        { e.streams s with pendingCount := (e.streams s).pendingCount + 1 } [] m (e.tick + 1)
        e.stats e.connStats .erase) :=
      Still.stream hl (Nat.le_succ _) (.fill hread ha h1' h3) hm rfl rfl
    exact heq ▸ h4
  · rw [if_neg h3]
    have h4 : Still env op e (e.stepStream s
        { e.streams s with pendingCount := (e.streams s).pendingCount + 1 } [] e.timerManager
        e.tick e.stats e.connStats
        (if (e.streams s).pendingCount = 0 then .append else .keep)) := by
      refine Still.stream hl le_rfl (.bump ha h1' h2' h3) ?_ rfl rfl
      rfl
    by_cases h0 : (e.streams s).pendingCount = 0
    · rw [if_pos h0] at h4 ⊢
      exact h4
    · rw [if_neg h0] at h4 ⊢
      exact h4

lemma streamClearPending_pendingCount (e : Engine K) (s : ℕ) :
    ((streamClearPending e s).streams s).pendingCount = 0 := by
  simp [streamClearPending, Engine.setStream]

/-- `kcpmux_stream_refresh_timer`. -/
lemma streamRefreshTimer_still (hi : Inside env e) (hl : e.LiveStream s) {now : ℤ}
    (hnow : Read env e.tick now) (hs : (e.streams s).state = .closing) (hop : op.Drives s) :
    Still env op e (streamRefreshTimer env e s now) := by
  obtain ⟨m, t, r, ht, hm, hr⟩ := streamRefreshTimer_did env hl.2 (hi.stream_owner hl) now
  rw [hr.eq_of_depth hi.depth]
  have h1 : Still env op e (e.stepStream s (e.streams s)
      (refreshEvents s (e.connOf s) (e.streams s) now r) m t e.stats e.connStats .keep) :=
    Still.stream hl ht (.refresh (hnow.mono ht) hs hop) hm rfl rfl
  simpa [Engine.stepStream, PendMove.apply] using h1

/-- `kcpmux_stream_finish_batch_at`, where it does nothing. -/
lemma streamFinishBatchAt_of_not (env : Env K) (hb : ¬ e.Batched s) (now : ℤ) :
    streamFinishBatchAt env e s now = e := by
  rw [streamFinishBatchAt]
  dsimp only
  by_cases h1 : (e.streams s).internalClosed = true ∨ (e.streams s).pendingCount = 0
  · rw [if_pos h1]
  rw [if_neg h1]
  by_cases h2 : (e.streams s).state ≠ .opened ∨ (e.connOf s).state ≠ .connected
  · rw [if_pos h2]
  rw [if_neg h2, if_pos]
  by_contra h3
  simp only [not_or, not_not, ne_eq] at h1 h2
  exact hb ⟨h1.2, h2.1, h2.2, fun h => UInt32.not_le.mp fun hle => h3 ⟨h, hle⟩⟩

/-- `kcpmux_stream_finish_batch_at`, where it does something. -/
lemma streamFinishBatchAt_of_batched (env : Env K) (hl : e.LiveStream s) (hb : e.Batched s)
    (now : ℤ) :
    streamFinishBatchAt env e s now = (engineScheduleTimerNode env
      ({ e with pendingBatchStreams := e.pendingBatchStreams.erase s }.setStream s
        { e.streams s with pendingCount :=
          if (e.streams s).config.batchThreshold > 1 then (e.streams s).config.batchThreshold
          else 0 }) (.stream s) now now).2 := by
  obtain ⟨hp, hs, hc, ht⟩ := hb
  rw [streamFinishBatchAt]
  dsimp only
  rw [if_neg (by simp [hl.2, hp]), if_neg (by simp [hs, hc]), if_neg fun h => UInt32.not_lt.mpr h.2 (ht h.1)]

lemma streamFinishBatchAt_act (h : Own env e) (hl : e.LiveStream s) (hb : e.Batched s) {now : ℤ}
    (hnow : Read env e.tick now) :
    ActRearmed env op now e (streamFinishBatchAt env e s now) := by
  obtain ⟨m, hm, hr⟩ := engineScheduleTimerNode_did env
    (e := { e with pendingBatchStreams := e.pendingBatchStreams.erase s }.setStream s
      { e.streams s with pendingCount :=
        if (e.streams s).config.batchThreshold > 1 then (e.streams s).config.batchThreshold
        else 0 })
    (o := .stream s) (h.stream_owner hl) now now
  have hact : Act env op e (e.stepStream s { e.streams s with pendingCount :=
      if (e.streams s).config.batchThreshold > 1 then (e.streams s).config.batchThreshold
      else 0 } [] m (e.tick + 1) e.stats e.connStats .erase) :=
    .stream hl (Nat.le_succ _) (.finish (hnow.mono (Nat.le_succ _)) hb.2.1 hb.2.2.1 hb.1) hm rfl
  rw [streamFinishBatchAt_of_batched env hl hb]
  exact ⟨_, hact, hr⟩

/-- The first stream of the list is taken off it either way. -/
lemma streamFinishBatchAt_head (env : Env K) {rest : List ℕ} (hl : e.LiveStream s)
    (hb : e.Batched s) (hp : e.pendingBatchStreams = s :: rest) (hn : s ∉ rest) (now : ℤ) :
    streamFinishBatchAt env { e with pendingBatchStreams := rest } s now =
      streamFinishBatchAt env e s now := by
  rw [streamFinishBatchAt_of_batched env hl hb, streamFinishBatchAt_of_batched env
    (e := { e with pendingBatchStreams := rest }) hl hb]
  simp [hp, List.erase_of_not_mem hn]

/-! ### Flow control -/

lemma Stream.core_unblockWrite (x : Stream K) (now : ℤ) : (x.unblockWrite now).core = x.core := by
  rw [Stream.unblockWrite]
  split_ifs <;> rfl

lemma Stream.core_unblockRead (x : Stream K) (now : ℤ) : (x.unblockRead now).core = x.core := by
  simp only [Stream.unblockRead]
  split_ifs <;> rfl

lemma streamRecoverWrite_pendingCount (env : Env K) (e : Engine K) (s : ℕ) (now : ℤ) :
    ((streamRecoverWrite env e s now).streams s).pendingCount = (e.streams s).pendingCount := by
  rw [streamRecoverWrite]
  dsimp only
  split_ifs <;>
    simp [kcpWaitsnd, kcpAsk, Engine.setStream, Engine.log, Engine.tock, Stream.unblockWrite,
      apply_ite Stream.pendingCount]

/-- A change of flow control or of a counter. -/
lemma Still.flow (hl : e.LiveStream s) {x : Stream K} {evs : List Event}
    (h : Flow env op e.tick s (e.connOf s) (e.streams s) x evs) (hx : x.core = (e.streams s).core) :
    Still env op e ({ e with trace := evs ++ e.trace }.setStream s x) := by
  have h1 : Still env op e (e.stepStream s x evs e.timerManager e.tick e.stats e.connStats
      .keep) := Still.stream hl le_rfl (.flow h) rfl rfl hx
  exact h1

lemma Still.silent (hl : e.LiveStream s) {x : Stream K}
    (h : Flow env op e.tick s (e.connOf s) (e.streams s) x []) (hx : x.core = (e.streams s).core) :
    Still env op e (e.setStream s x) :=
  Still.flow hl h hx

lemma streamMarkReadBlocked_still (hl : e.LiveStream s) {now : ℤ} (hnow : Read env e.tick now)
    (hop : ∃ n, op = .streamRecv s n) : Still env op e (streamMarkReadBlocked e s now) := by
  rw [streamMarkReadBlocked]
  split_ifs with h
  · exact Still.refl e
  · exact Still.silent hl (.blockRead hnow (by simpa using h) hop) rfl

lemma streamMarkWriteBlocked_still (hl : e.LiveStream s) {now : ℤ} (hnow : Read env e.tick now)
    (hs : (e.streams s).state = .opened) (hop : op.SendsOn s) :
    Still env op e (streamMarkWriteBlocked e s now) := by
  rw [streamMarkWriteBlocked]
  split_ifs with h
  · exact Still.refl e
  · exact Still.silent hl (.blockWrite hnow (by simpa using h) hs hop) rfl

/-- The recovery of a write-blocked stream. -/
lemma streamRecoverWrite_still (hs : Sound env e) (hl : e.LiveStream s) {now : ℤ}
    (hnow : Read env e.tick now) (ho : (e.streams s).state = .opened) (hop : op = .update) :
    Still env op e (streamRecoverWrite env e s now) := by
  rw [streamRecoverWrite]
  dsimp only
  by_cases hb : (e.streams s).writeBlocked = false
  · rw [if_pos hb]
    exact Still.refl e
  rw [if_neg hb]
  have h1 : Still env op e (kcpWaitsnd env e s).2 := kcpWaitsnd_still hs hl
  have hx : (kcpWaitsnd env e s).2.streams s = e.streams s := rfl
  by_cases hw : (kcpWaitsnd env e s).1 <
      ((kcpWaitsnd env e s).2.streams s).config.sendResumeThreshold.toInt32.toInt
  · rw [if_pos hw]
    have h2 : Still env op (kcpWaitsnd env e s).2
        ({ (kcpWaitsnd env e s).2 with
          trace := (if (e.streams s).callbacks.streamWriteNotify then
            [Event.streamWriteNotify s] else []) ++ (kcpWaitsnd env e s).2.trace }.setStream s
          ((e.streams s).unblockWrite now)) := by
      refine Still.flow (h1.calm.liveStream hl) ?_ (Stream.core_unblockWrite _ _)
      exact .unblockWrite (hnow.mono (h1.tick hs)) ((Bool.not_eq_false _).mp hb) ho hop
    refine h1.trans ?_
    have hcb : ((e.streams s).unblockWrite now).callbacks = (e.streams s).callbacks := by
      rw [Stream.unblockWrite]
      split_ifs <;> rfl
    by_cases hn : (e.streams s).callbacks.streamWriteNotify = true
    · simpa [Engine.setStream, Engine.log, hcb, hn, hx] using h2
    · simpa [Engine.setStream, hcb, hn, hx] using h2
  · rw [if_neg hw]
    exact h1

/-- The recovery of a read-blocked stream. -/
lemma streamRecoverRead_still (hs : Sound env e) (hl : e.LiveStream s) {now : ℤ}
    (hnow : Read env e.tick now)
    (hop : ∃ d b, op = .input d (e.connOf s).peerAddr ∧
      PayloadDatagram d (e.connOf s).localConnectionId (e.streams s).streamId b) :
    Still env op e (streamRecoverRead env e s now) := by
  rw [streamRecoverRead]
  dsimp only
  by_cases hb : (e.streams s).state = .opened ∧ (e.streams s).readBlocked = true
  · rw [if_pos hb]
    have h1 : Still env op e (kcpPeeksize env e s).2 := kcpPeeksize_still hs hl
    have hx : (kcpPeeksize env e s).2.streams s = e.streams s := rfl
    by_cases hw : (kcpPeeksize env e s).1 > 0
    · rw [if_pos hw]
      have h2 : Still env op (kcpPeeksize env e s).2
          ({ (kcpPeeksize env e s).2 with
            trace := (if (e.streams s).callbacks.streamReadNotify then
              [Event.streamReadNotify s] else []) ++ (kcpPeeksize env e s).2.trace }.setStream s
            ((e.streams s).unblockRead now)) := by
        refine Still.flow (h1.calm.liveStream hl) ?_ (Stream.core_unblockRead _ _)
        exact .unblockRead (hnow.mono (h1.tick hs)) hb.2 hb.1 hop
      refine h1.trans ?_
      have hcb : ((e.streams s).unblockRead now).callbacks = (e.streams s).callbacks := by
        simp only [Stream.unblockRead]
        split_ifs <;> rfl
      by_cases hn : (e.streams s).callbacks.streamReadNotify = true
      · simpa [Engine.setStream, Engine.log, hcb, hn, hx] using h2
      · simpa [Engine.setStream, hcb, hn, hx] using h2
    · rw [if_neg hw]
      exact h1
  · rw [if_neg hb]
    exact Still.refl e

/-! ### Payload -/

lemma streamKcpActive_of_opened {x : Stream K} (h : x.state = .opened) :
    streamKcpActive x = true := by
  simp [streamKcpActive, h]

/-- A payload for a stream whose KCP instance is being driven. -/
lemma streamHandlePayload_still (hi : Inside env e) (hl : e.LiveStream s) {now : ℤ}
    (hnow : Read env e.tick now) {b : Bytes}
    (hd : ∃ d, op = .input d (e.connOf s).peerAddr ∧
      PayloadDatagram d (e.connOf s).localConnectionId (e.streams s).streamId b) :
    Still env op e (streamHandlePayload env e s b now).2 := by
  rw [streamHandlePayload]
  dsimp only
  by_cases hb : b = []
  · rw [if_pos hb]
    exact Still.refl e
  rw [if_neg hb, if_neg (by simp [hl.2])]
  by_cases ha : streamKcpActive (e.streams s) = false
  · rw [if_pos ha]
    exact Still.refl e
  rw [if_neg ha]
  rw [Bool.not_eq_false] at ha
  set e1 := e.setStream s { e.streams s with stats := { (e.streams s).stats with
    rxPackets := (e.streams s).stats.rxPackets + 1
    rxBytes := (e.streams s).stats.rxBytes + b.length } } with he1
  have h1 : Still env op e e1 := Still.silent hl (.received b.length) rfl
  have h2 : Still env op e1 (kcpCurrentUpdate env e1 s now) :=
    kcpCurrentUpdate_still (h1.sound hi.toSound) (h1.calm.liveStream hl)
      ((h1.calm.active s).trans ha) now
  have h12 := h1.trans h2
  have h3 : Still env op (kcpCurrentUpdate env e1 s now)
      (kcpInput env (kcpCurrentUpdate env e1 s now) s b).2 := by
    refine kcpInput_still (h12.sound hi.toSound) (h12.calm.liveStream hl) b fun r => ?_
    refine ⟨(h12.calm.active s).trans ha, ?_⟩
    rw [h12.calm.connOf, h12.calm.streamId]
    exact hd
  have h13 := h12.trans h3
  have h4 : Still env op (kcpInput env (kcpCurrentUpdate env e1 s now) s b).2
      (streamAccumulateUpdate env (kcpInput env (kcpCurrentUpdate env e1 s now) s b).2 s now) :=
    streamAccumulateUpdate_still (h13.inside hi) (h13.calm.liveStream hl)
      (hnow.mono (h13.tick hi.toSound)) ((h13.calm.active s).trans ha)
  have h14 := h13.trans h4
  by_cases hr : (kcpInput env (kcpCurrentUpdate env e1 s now) s b).1 < 0
  · rw [if_pos hr]
    exact h14
  · rw [if_neg hr]
    exact h14.trans (streamRecoverRead_still (h14.sound hi.toSound) (h14.calm.liveStream hl)
      (hnow.mono (h14.tick hi.toSound)) (by
        rw [h14.calm.connOf, h14.calm.streamId]
        exact hd.imp fun d h => ⟨b, h⟩))

end KcpMux
