import KcpMux.Runs.Stream

/-!
The close handshake of a stream and its timer callback as steps.
-/

namespace KcpMux

variable {K : Type} {env : Env K} {op : Call} {e e' : Engine K} {s : ℕ}

/-! ### Finalisation -/

/-- A step of a live stream that does not close it. -/
lemma liveStream_stepStream {x : Stream K} {evs : List Event} {m : TimerManager Owner} {t : ℕ}
    {st : EngineStats} {cs : ℕ → ConnStats} {p : PendMove} (hl : e.LiveStream s)
    (hx : x.internalClosed = false) : (e.stepStream s x evs m t st cs p).LiveStream s :=
  ⟨hl.1, by simpa [Engine.stepStream] using hx⟩

/-- `kcpmux_stream_close_internal` on a live stream. -/
lemma streamCloseInternal_act (hi : Inside env e) (hl : e.LiveStream s) (reason : UInt8) :
    Act env op e (streamCloseInternal env e s reason) := by
  rw [streamCloseInternal_eq hi.depth hi.toOwn hl]
  exact .streamFinal hi.depth hl

/-- The last change of a stream, and its finalisation. -/
lemma streamLast_act (hi : Inside env e) (hl : e.LiveStream s) {t : ℕ} {x : Stream K}
    {evs : List Event} {mv : TimerMove} {m : TimerManager Owner} {st : EngineStats}
    {cs : ℕ → ConnStats} (ht : e.tick ≤ t)
    (h : StreamLast env t s (e.connOf s) (e.streams s) x evs mv)
    (hm : mv.Did env e.timerManager (.stream s) m) (hst : st.life = e.stats.life)
    (reason : UInt8) :
    Act env op e (streamCloseInternal env (e.stepStream s x evs m t st cs .keep) s reason) ∧
      ¬ (streamCloseInternal env (e.stepStream s x evs m t st cs .keep) s reason).LiveStream s := by
  have hs : SameOwn e (e.stepStream s x evs m t st cs .keep) :=
    SameOwn.stepStream hl h.own h.pend hm h.subject
  rw [streamCloseInternal_eq (by exact hi.depth) (hi.of_same hs) ((hs.liveStream s).mpr hl)]
  exact ⟨.streamLast hi.depth hl ht h hm hst,
    fun hl' => ((finalStream_liveStream reason s).mp hl').2 rfl⟩

/-- `kcpmux_stream_schedule_finalize`. -/
lemma streamScheduleFinalize_act (h : Own env e) (hl : e.LiveStream s) {now : ℤ}
    (hnow : Read env e.tick now) (reason : UInt8) (hs : (e.streams s).state = .closing)
    (hp : (e.streams s).closePhase = .localDrain ∨ (e.streams s).closePhase = .waitAck ∨
      (e.streams s).closePhase = .remoteDrain) :
    ActRearmed env op now e (streamScheduleFinalize env e s reason now) := by
  rw [streamScheduleFinalize]
  dsimp only
  set e1 := streamClearPending ((e.setStream s { e.streams s with
    closeReason := reason }).setClosePhase s .finalize) s with he1
  have htm : e1.timerManager = e.timerManager := by
    simp only [he1, streamClearPending, Engine.setClosePhase, Engine.setStream, Engine.log]
  obtain ⟨m, hm, hr⟩ := engineScheduleTimerNode_did env (e := e1) (o := .stream s)
    (by rw [htm]; exact h.stream_owner hl) now now
  rw [htm] at hm hr
  have hact : Act env op e (e.stepStream s
      { e.streams s with closeReason := reason, closePhase := .finalize, pendingCount := 0 }
      [.closePhase s (e.streams s).closePhase .finalize] m (e.tick + 1) e.stats e.connStats
      .erase) :=
    .stream hl (Nat.le_succ _) (.finalizeSoon (hnow.mono (Nat.le_succ _)) hs hp) hm rfl
  refine ⟨_, hact, ?_⟩
  convert hr using 1
  simp [he1, Engine.stepStream, streamClearPending, Engine.setClosePhase, Engine.setStream,
    Engine.log, PendMove.apply]

/-! ### Messages -/

/-- `kcpmux_stream_send_close`. -/
lemma streamSendClose_did (env : Env K) (hd : 0 < e.operationDepth)
    (hl : (e.streams s).internalClosed = false)
    (ho : (e.timerManager.node (.stream s)).owner = true) (reason : UInt8) :
    ∃ now m t r st cs ok, e.tick ≤ t ∧ Read env t now ∧ st.life = e.stats.life ∧
      (refreshMove (e.connOf s) { e.streams s with lastCtrlTs := now } now r).Did env
        e.timerManager (.stream s) m ∧
      (streamSendClose env e s reason).2 =
        e.stepStream s { e.streams s with lastCtrlTs := now }
          (refreshEvents s (e.connOf s) (e.streams s) now r ++
            [streamCloseWrite s (e.connOf s) (e.streams s) msgStreamClose reason ok])
          m t st cs .keep := by
  rw [streamSendClose, if_neg (by simp [hl])]
  dsimp only
  set now := engineNow env e with hnow
  set e1 := e.tock.setStream s { e.streams s with lastCtrlTs := now } with he1
  have hx1 : e1.streams s = { e.streams s with lastCtrlTs := now } := by
    simp [he1, Engine.setStream]
  have hc1 : e1.connOf s = e.connOf s := by rw [Engine.connOf, hx1]; rfl
  rw [protocolSendStreamClose]
  obtain ⟨st, cs, hst, heq⟩ := connWriteSocketv_did env e1 (.stream s) (e1.streams s).conn
    (List.cons_ne_nil (streamCloseMsg msgStreamClose (e1.connOf s) (e1.streams s).streamId reason)
      [])
  rw [connWriteSocket, heq]
  dsimp only
  set e2 : Engine K := { e1 with
    trace := .write (.stream s) (e1.conns (e1.streams s).conn).peerAddr
      [streamCloseMsg msgStreamClose (e1.connOf s) (e1.streams s).streamId reason].flatten
      (env.writeSocketv e1.tick) :: e1.trace
    tick := e1.tick + 1, stats := st, connStats := cs } with he2
  have hx2 : e2.streams s = { e.streams s with lastCtrlTs := now } := hx1
  have hc2 : e2.connOf s = e.connOf s := hc1
  obtain ⟨m, t, r, ht, hm, hr⟩ := streamRefreshTimer_did env (e := e2) (s := s)
    (by rw [hx2]; exact hl) ho now
  have ht' : e.tick + 1 + 1 ≤ t := ht
  refine ⟨now, m, t, r, st, cs, env.writeSocketv e1.tick, by omega, ⟨e.tick, by omega, rfl⟩,
    hst, ?_, ?_⟩
  · rw [hx2, hc2] at hm
    exact hm
  · rw [hr.eq_of_depth hd, hx2, hc2]
    have hw : refreshEvents s (e.connOf s) { e.streams s with lastCtrlTs := now } now r =
        refreshEvents s (e.connOf s) (e.streams s) now r := rfl
    rw [hw]
    simp [he2, he1, Engine.stepStream, Engine.setStream, PendMove.apply, streamCloseWrite,
      Engine.connOf, Engine.tock]

/-- `kcpmux_stream_set_state`. -/
lemma streamSetState_did (env : Env K) (hd : 0 < e.operationDepth)
    (hl : (e.streams s).internalClosed = false)
    (ho : (e.timerManager.node (.stream s)).owner = true) (newState : StreamState)
    (hne : (e.streams s).state ≠ newState) :
    ∃ m t r, e.tick < t ∧
      (refreshMove (e.connOf s) { e.streams s with state := newState } (engineNow env e) r).Did
        env e.timerManager (.stream s) m ∧
      streamSetState env e s newState =
        e.stepStream s { e.streams s with state := newState }
          ((if newState ≠ .closed ∧ newState ≠ .error ∧
              (e.streams s).callbacks.streamStateChanged = true then
            [.streamStateChanged s (e.streams s).state newState] else []) ++
            refreshEvents s (e.connOf s) { e.streams s with state := newState }
              (engineNow env e) r)
          m t e.stats e.connStats .keep := by
  rw [streamSetState, if_neg hne]
  dsimp only
  set now := engineNow env e with hnow
  set e1 := (e.setStream s { e.streams s with state := newState }).tock with he1
  have hx1 : e1.streams s = { e.streams s with state := newState } := by
    simp [he1, Engine.setStream, Engine.tock]
  have hc1 : e1.connOf s = e.connOf s := by rw [Engine.connOf, hx1]; rfl
  have hn1 : engineNow env (e.setStream s { e.streams s with state := newState }) = now := rfl
  rw [hn1]
  obtain ⟨m, t, r, ht, hm, hr⟩ := streamRefreshTimer_did env (e := e1) (s := s)
    (by rw [hx1]; exact hl) ho now
  rw [hr.eq_of_depth hd]
  rw [hx1, hc1] at hm ⊢
  refine ⟨m, t, r, ht, hm, ?_⟩
  by_cases hcb : newState ≠ .closed ∧ newState ≠ .error ∧
      (e.streams s).callbacks.streamStateChanged = true
  · rw [if_pos hcb, if_pos hcb]
    simp [he1, Engine.stepStream, Engine.setStream, PendMove.apply, Engine.tock, Engine.log]
  · rw [if_neg hcb, if_neg hcb]
    simp [he1, Engine.stepStream, Engine.setStream, PendMove.apply, Engine.tock]

lemma refreshEvents_of_inactive {conn : Conn} {x : Stream K} {now r : ℤ}
    (h : streamKcpActive x = false) : refreshEvents s conn x now r = [] := by
  simp [refreshEvents, h]

/-- `STREAM_CLOSE` is sent again. -/
lemma streamResend_act (hi : Inside env e) (hl : e.LiveStream s) {n : UInt32}
    (hs : (e.streams s).state = .closing) (hp : (e.streams s).closePhase = .waitAck)
    (hn : Retried (e.streams s).config.closeRetries (e.streams s).retryCount n) :
    Act env op e (streamSendClose env (e.setStream s { e.streams s with retryCount := n }) s
        (e.streams s).closeReason).2 ∧
      (streamSendClose env (e.setStream s { e.streams s with retryCount := n }) s
        (e.streams s).closeReason).2.LiveStream s := by
  set e1 := e.setStream s { e.streams s with retryCount := n } with he1
  have hx1 : e1.streams s = { e.streams s with retryCount := n } := by
    simp [he1, Engine.setStream]
  have hc1 : e1.connOf s = e.connOf s := by rw [Engine.connOf, hx1]; rfl
  obtain ⟨now, m, t, r, st, cs, ok, ht, hnow, hst, hm, heq⟩ := streamSendClose_did env (e := e1) (s := s) hi.depth (by rw [hx1]; exact hl.2) (hi.stream_owner hl)
    (e.streams s).closeReason
  have hev : refreshEvents s (e1.connOf s) (e1.streams s) now r = [] :=
    refreshEvents_of_inactive (by simp [hx1, streamKcpActive, hs, hp])
  have hmv : refreshMove (e1.connOf s) { e1.streams s with lastCtrlTs := now } now r =
      refreshMove (e.connOf s) { e.streams s with lastCtrlTs := now } now 0 := by
    rw [hx1, hc1]
    simp [refreshMove, refreshDeadline, hs, hp]
  rw [hmv] at hm
  have hform : (streamSendClose env e1 s (e.streams s).closeReason).2 = e.stepStream s
      { e.streams s with retryCount := n, lastCtrlTs := now }
      [streamCloseWrite s (e.connOf s) (e.streams s) msgStreamClose (e.streams s).closeReason ok]
      m t st cs .keep := by
    rw [heq, hev, hx1, hc1]
    simp [he1, Engine.stepStream, Engine.setStream, streamCloseWrite]
  rw [hform]
  exact ⟨.stream hl ht (.resend hnow hs hp hn) hm hst, liveStream_stepStream hl hl.2⟩

/-- `kcpmux_stream_send_close_ack`. -/
lemma streamSendCloseAck_still (hl : e.LiveStream s) (reason : UInt8) :
    Still env op e (streamSendCloseAck env e s reason).2 := by
  rw [streamSendCloseAck, protocolSendStreamCloseAck, connWriteSocket]
  obtain ⟨st, cs, hst, heq⟩ := connWriteSocketv_did env e (.stream s) (e.streams s).conn
    (List.cons_ne_nil (streamCloseMsg msgStreamCloseAck (e.connOf s) (e.streams s).streamId
      reason) [])
  rw [heq]
  have h1 : Still env op e (e.stepStream s (e.streams s)
      [streamCloseWrite s (e.connOf s) (e.streams s) msgStreamCloseAck reason
        (env.writeSocketv e.tick)] e.timerManager (e.tick + 1) st cs .keep) :=
    Still.stream hl (Nat.le_succ _) .closeAck rfl hst rfl
  simpa [Engine.stepStream, PendMove.apply, streamCloseWrite, Engine.connOf] using h1

/-! ### The local close -/

/-- The first `STREAM_CLOSE` of a drained stream. -/
lemma streamFirstClose_act (hi : Inside env e) (hl : e.LiveStream s) {old : List Event}
    (hs : (e.streams s).state = .closing) (hp : (e.streams s).closePhase = .localDrain)
    (hw : e.trace = .kcp s (.waitsnd 0) :: old) {e' : Engine K}
    (he' : e' = (e.setClosePhase s .waitAck).setStream s
      { (e.setClosePhase s .waitAck).streams s with retryCount := 0 }) :
    Act env op e (streamSendClose env e' s closeReasonNormal).2 ∧
      (streamSendClose env e' s closeReasonNormal).2.LiveStream s := by
  have hx : e'.streams s = { e.streams s with closePhase := .waitAck, retryCount := 0 } := by
    simp [he', Engine.setStream, Engine.setClosePhase]
  have hc : e'.connOf s = e.connOf s := by rw [Engine.connOf, hx, he']; rfl
  have htm : e'.timerManager = e.timerManager := by
    simp only [he', Engine.setStream, Engine.setClosePhase, Engine.log]
  have hdp : 0 < e'.operationDepth := by
    simpa only [he', Engine.setStream, Engine.setClosePhase, Engine.log] using hi.depth
  obtain ⟨now, m, t, r, st, cs, ok, ht, hnow, hst, hm, heq⟩ := streamSendClose_did env (e := e')
    (s := s) hdp (by rw [hx]; exact hl.2) (by rw [htm]; exact hi.stream_owner hl)
    closeReasonNormal
  have htick : e.tick ≤ t := by
    simpa only [he', Engine.setStream, Engine.setClosePhase, Engine.log] using ht
  have hst' : st.life = e.stats.life := by
    simpa only [he', Engine.setStream, Engine.setClosePhase, Engine.log] using hst
  have hev : refreshEvents s (e'.connOf s) (e'.streams s) now r = [] :=
    refreshEvents_of_inactive (by simp [hx, streamKcpActive, hs])
  have hmv : refreshMove (e'.connOf s) { e'.streams s with lastCtrlTs := now } now r =
      refreshMove (e.connOf s)
        { e.streams s with closePhase := .waitAck, lastCtrlTs := now } now 0 := by
    rw [hx, hc]
    simp [refreshMove, refreshDeadline, hs]
  rw [hmv, htm] at hm
  have hform : (streamSendClose env e' s closeReasonNormal).2 = e.stepStream s
      { e.streams s with closePhase := .waitAck, retryCount := 0, lastCtrlTs := now }
      [streamCloseWrite s (e.connOf s) (e.streams s) msgStreamClose closeReasonNormal ok,
        .closePhase s .localDrain .waitAck] m t st cs .keep := by
    rw [heq, hev, hx, hc]
    simp [he', Engine.stepStream, Engine.setStream, Engine.setClosePhase, Engine.log, hp,
      streamCloseWrite, PendMove.apply]
  rw [hform]
  exact ⟨.stream hl htick (.waitAck hnow hs hp hw) hm hst', liveStream_stepStream hl hl.2⟩

/-- `kcpmux_stream_advance_local_close`. -/
lemma streamAdvanceLocalClose_acts (hi : Inside env e) (hl : e.LiveStream s)
    (hs : (e.streams s).state = .closing) :
    Acts env op e (streamAdvanceLocalClose env e s) := by
  rw [streamAdvanceLocalClose]
  dsimp only
  by_cases hp : (e.streams s).closePhase = .localDrain
  swap
  · rw [if_pos (Or.inr hp)]
  rw [if_neg (by simp [hl.2, hp])]
  have h1 : Still env op e (kcpWaitsnd env e s).2 := kcpWaitsnd_still hi.toSound hl
  by_cases hw : (kcpWaitsnd env e s).1 ≠ 0
  · rw [if_pos hw]
    exact h1.acts
  rw [if_neg hw]
  rw [not_not] at hw
  have htr : (kcpWaitsnd env e s).2.trace = .kcp s (.waitsnd 0) :: e.trace := by rw [← hw]; rfl
  obtain ⟨h2, hl2⟩ : Act env op _ _ ∧ _ :=
    streamFirstClose_act (h1.inside hi) (h1.calm.liveStream hl) hs hp htr rfl
  have h3 : Acts env op e _ := h1.acts.tail h2
  by_cases hz : ((streamSendClose env (((kcpWaitsnd env e s).2.setClosePhase s .waitAck).setStream
      s { ((kcpWaitsnd env e s).2.setClosePhase s .waitAck).streams s with retryCount := 0 }) s
      closeReasonNormal).2.streams s).config.closeRetries = 0
  · rw [if_pos hz]
    exact h3.tail (streamCloseInternal_act (h3.inside hi) hl2 _)
  · rw [if_neg hz]
    exact h3

/-- A local drain that ran out of time. -/
lemma streamDrainExpired_act (hi : Inside env e) (hl : e.LiveStream s)
    (hs : (e.streams s).state = .closing) (hp : (e.streams s).closePhase = .localDrain) :
    Act env op e (streamCloseInternal env (streamSendClose env
      (e.setStream s { e.streams s with closeReason := closeReasonTimeout }) s
      closeReasonTimeout).2 s closeReasonTimeout) ∧
    ¬ (streamCloseInternal env (streamSendClose env
      (e.setStream s { e.streams s with closeReason := closeReasonTimeout }) s
      closeReasonTimeout).2 s closeReasonTimeout).LiveStream s := by
  set e1 := e.setStream s { e.streams s with closeReason := closeReasonTimeout } with he1
  have hx1 : e1.streams s = { e.streams s with closeReason := closeReasonTimeout } := by
    simp [he1, Engine.setStream]
  have hc1 : e1.connOf s = e.connOf s := by rw [Engine.connOf, hx1]; rfl
  obtain ⟨now, m, t, r, st, cs, ok, ht, hnow, hst, hm, heq⟩ := streamSendClose_did env (e := e1)
    (s := s) hi.depth (by rw [hx1]; exact hl.2) (hi.stream_owner hl) closeReasonTimeout
  have hmv : refreshMove (e1.connOf s) { e1.streams s with lastCtrlTs := now } now r =
      refreshMove (e.connOf s) (e.streams s) now r := by
    rw [hx1, hc1]
    simp [refreshMove, refreshDeadline, hs, hp]
  have hev : refreshEvents s (e1.connOf s) (e1.streams s) now r =
      refreshEvents s (e.connOf s) (e.streams s) now r := by
    rw [hx1, hc1]
    rfl
  rw [hmv] at hm
  have hlast : StreamLast env t s (e.connOf s) (e.streams s)
      { e.streams s with closeReason := closeReasonTimeout, lastCtrlTs := now }
      (refreshEvents s (e.connOf s) (e.streams s) now r ++
        [streamCloseWrite s (e.connOf s) (e.streams s) msgStreamClose closeReasonTimeout ok])
      (refreshMove (e.connOf s) (e.streams s) now r) := .drainExpired hnow hs hp
  have hform : (streamSendClose env e1 s closeReasonTimeout).2 = e.stepStream s
      { e.streams s with closeReason := closeReasonTimeout, lastCtrlTs := now }
      (refreshEvents s (e.connOf s) (e.streams s) now r ++
        [streamCloseWrite s (e.connOf s) (e.streams s) msgStreamClose closeReasonTimeout ok])
      m t st cs .keep := by
    rw [heq, hev, hx1, hc1]
    simp [he1, Engine.stepStream, Engine.setStream, streamCloseWrite, PendMove.apply]
  rw [hform]
  exact streamLast_act hi hl ht hlast hm hst _

/-! ### The timer callback -/

/-- The case `OPEN`. -/
lemma streamUpdateOpen_still (hi : Inside env e) (hl : e.LiveStream s) {now : ℤ}
    (hnow : Read env e.tick now) (hs : (e.streams s).state = .opened) (hop : op = .update) :
    Still env op e (streamUpdateOpen env e s now) := by
  rw [streamUpdateOpen]
  have h1 : Still env op e (streamClearPending e s) := streamClearPending_still hl (Or.inl hop)
  have h2 : Still env op e (kcpUpdate env (streamClearPending e s) s now) :=
    h1.trans (kcpUpdate_still (h1.sound hi.toSound) (h1.calm.liveStream hl)
      (streamKcpActive_of_opened ((h1.calm.state s).trans hs)) now)
  set e2 := kcpUpdate env (streamClearPending e s) s now
  have h3 : Still env op e (streamRecoverWrite env e2 s now) :=
    h2.trans (streamRecoverWrite_still (h2.sound hi.toSound) (h2.calm.liveStream hl)
      (hnow.mono (h2.tick hi.toSound)) ((h2.calm.state s).trans hs) hop)
  set e3 := streamRecoverWrite env e2 s now
  have h4 : Still env op e (kcpCheck env e3 s now).2 :=
    h3.trans (kcpCheck_still (h3.sound hi.toSound) (h3.calm.liveStream hl) now)
  refine h4.trans (schedule_still (h4.inside hi) (h4.calm.liveStream hl)
    (.poll (hnow.mono ((h4.tick hi.toSound).trans (Nat.le_succ _)))
      ((h4.calm.state s).trans hs) ?_ (Or.inl hop)))
  show ((streamRecoverWrite env e2 s now).streams s).pendingCount = 0
  rw [streamRecoverWrite_pendingCount]
  exact (kcpRun_pendingCount ..).trans (streamClearPending_pendingCount e s)

/-- The case `LOCAL_DRAIN`. -/
lemma streamUpdateLocalDrain_acts (hi : Inside env e) (hl : e.LiveStream s) {now : ℤ}
    (hnow : Read env e.tick now) (hs : (e.streams s).state = .closing)
    (hp : (e.streams s).closePhase = .localDrain) (hop : op.Drives s) :
    Acts env op e (streamUpdateLocalDrain env e s now) := by
  rw [streamUpdateLocalDrain]
  have h1 : Still env op e (streamClearPending e s) := streamClearPending_still hl hop
  have ha : streamKcpActive ((streamClearPending e s).streams s) = true := by
    rw [h1.calm.active, streamKcpActive, hs, hp]
    rfl
  have h2 : Still env op e (kcpUpdate env (streamClearPending e s) s now) :=
    h1.trans (kcpUpdate_still (h1.sound hi.toSound) (h1.calm.liveStream hl) ha now)
  set e2 := kcpUpdate env (streamClearPending e s) s now
  have h3 : Still env op e (kcpWaitsnd env e2 s).2 :=
    h2.trans (kcpWaitsnd_still (h2.sound hi.toSound) (h2.calm.liveStream hl))
  have hi3 := h3.inside hi
  have hl3 := h3.calm.liveStream hl
  have hs3 := (h3.calm.state s).trans hs
  by_cases hw : (kcpWaitsnd env e2 s).1 = 0
  · rw [if_pos hw]
    exact h3.acts.trans (streamAdvanceLocalClose_acts hi3 hl3 hs3)
  rw [if_neg hw]
  by_cases hd : now ≥ deadlineAfter ((kcpWaitsnd env e2 s).2.streams s).drainStartedTs
      ((kcpWaitsnd env e2 s).2.streams s).config.drainTimeoutMs
  · rw [if_pos hd]
    exact h3.acts.tail (streamDrainExpired_act hi3 hl3 hs3 ((h3.calm.closePhase s).trans hp)).1
  · rw [if_neg hd]
    exact h3.acts.trans
      (streamRefreshTimer_still hi3 hl3 (hnow.mono (h3.tick hi.toSound)) hs3 hop).acts

/-- The case `WAIT_ACK`. -/
lemma streamUpdateWaitAck_acts (hi : Inside env e) (hl : e.LiveStream s) {now : ℤ}
    (hs : (e.streams s).state = .closing) (hp : (e.streams s).closePhase = .waitAck) :
    Acts env op e (streamUpdateWaitAck env e s now) := by
  rw [streamUpdateWaitAck]
  dsimp only
  by_cases hd : now ≥ deadlineAfter (e.streams s).lastCtrlTs (e.streams s).config.ctrlTimeoutMs
  swap
  · rw [if_neg hd]
  rw [if_pos hd]
  by_cases hr : (e.streams s).retryCount < (e.streams s).config.closeRetries
  · rw [if_pos hr]
    obtain ⟨h1, hl1⟩ : Act env op _ _ ∧ _ := streamResend_act hi hl hs hp (Or.inr ⟨hr, rfl⟩)
    have h2 : Acts env op e _ := .single h1
    split_ifs
    · exact h2.tail (streamCloseInternal_act (h2.inside hi) hl1 _)
    · exact h2
  · rw [if_neg hr]
    exact .single (streamCloseInternal_act hi hl _)

/-- **`kcpmux_stream_update`.** -/
lemma streamUpdate_acts (hi : Inside env e) {now : ℤ} (hnow : Read env e.tick now)
    (hk : s < e.nstreams) (hdr : op.Drives s) (hop : (e.streams s).state = .opened → op = .update) :
    Acts env op e (streamUpdate env e s now) := by
  rw [streamUpdate]
  by_cases hg : (e.streams s).internalClosed = true ∨ (e.connOf s).internalClosed = true ∨
      (e.connOf s).state ≠ .connected
  · rw [if_pos hg]
  rw [if_neg hg]
  have hl : e.LiveStream s := ⟨hk, by simpa using fun h => hg (Or.inl h)⟩
  cases hs : (e.streams s).state with
  | opened => exact (streamUpdateOpen_still hi hl hnow hs (hop hs)).acts
  | closing =>
      cases hp : (e.streams s).closePhase with
      | none => exact .refl
      | localDrain => exact streamUpdateLocalDrain_acts hi hl hnow hs hp hdr
      | waitAck => exact streamUpdateWaitAck_acts hi hl hs hp
      | remoteDrain =>
          dsimp only
          split_ifs
          · exact .single (streamCloseInternal_act hi hl _)
          · exact .refl
      | finalize => exact .single (streamCloseInternal_act hi hl _)
  | closed =>
      rcases hi.phased s hl with h | h
      · rw [hs] at h; cases h.1
      · rw [hs] at h; cases h.1
  | error =>
      rcases hi.phased s hl with h | h
      · rw [hs] at h; cases h.1
      · rw [hs] at h; cases h.1

/-! ### Incoming messages and the public functions -/

/-- `OPEN` becomes `CLOSING` in the phase `phase`: the change of `e1`, which differs from `e`
in the fields of `x1` and in the phase, as one step from `e`. -/
lemma streamEnterClosing_eq (env : Env K) (hd : 0 < e.operationDepth)
    (ho : (e.timerManager.node (.stream s)).owner = true) {x1 : Stream K} {phase : ClosePhase} (hc : x1.internalClosed = false)
    (hconn : x1.conn = (e.streams s).conn) (hs : x1.state = .opened)
    {e1 : Engine K} (he1 : e1 = (e.setStream s x1).setClosePhase s phase) :
    ∃ now m t r, e.tick ≤ t ∧ Read env t now ∧
      (refreshMove (e.connOf s) { x1 with closePhase := phase, state := .closing } now r).Did
        env e.timerManager (.stream s) m ∧
      streamSetState env e1 s .closing =
        e.stepStream s { x1 with closePhase := phase, state := .closing }
          ((if x1.callbacks.streamStateChanged = true then
            [.streamStateChanged s .opened .closing] else []) ++
            refreshEvents s (e.connOf s) { x1 with closePhase := phase, state := .closing } now r ++
            [.closePhase s x1.closePhase phase]) m t e.stats e.connStats .keep := by
  have hx : e1.streams s = { x1 with closePhase := phase } := by
    simp [he1, Engine.setStream, Engine.setClosePhase]
  have hco : e1.connOf s = e.connOf s := by
    rw [Engine.connOf, Engine.connOf, hx, ← hconn, he1]
    rfl
  have htm : e1.timerManager = e.timerManager := by
    simp only [he1, Engine.setStream, Engine.setClosePhase, Engine.log]
  have hdp : 0 < e1.operationDepth := by
    simpa only [he1, Engine.setStream, Engine.setClosePhase, Engine.log] using hd
  obtain ⟨m, t, r, ht, hm, heq⟩ := streamSetState_did env (e := e1) (s := s) hdp
    (by rw [hx]; exact hc) (by rw [htm]; exact ho) .closing
    (by rw [hx]; simp [hs])
  have htick : e.tick < t := by
    simpa only [he1, Engine.setStream, Engine.setClosePhase, Engine.log] using ht
  have hnow : engineNow env e1 = engineNow env e := by
    simp only [he1, Engine.setStream, Engine.setClosePhase, Engine.log, engineNow]
  rw [hx, hco, htm, hnow] at hm
  rw [hx, hco, hnow] at heq
  refine ⟨engineNow env e, m, t, r, htick.le, ⟨e.tick, htick, rfl⟩, hm, ?_⟩
  rw [heq]
  simp [he1, Engine.stepStream, Engine.setStream, Engine.setClosePhase, Engine.log, hs,
    PendMove.apply]

/-- The peer's `STREAM_CLOSE` reaches an open stream. -/
lemma streamRemoteClose_act (hi : Inside env e) (hl : e.LiveStream s) {now : ℤ}
    (hnow : Read env e.tick now) (hs : (e.streams s).state = .opened) {e1 e2 : Engine K}
    (he1 : e1 = (e.setStream s { e.streams s with
      closeReason := closeReasonNormal, drainStartedTs := now }).setClosePhase s .remoteDrain)
    (he2 : e2 = streamSetState env e1 s .closing) :
    Act env op e e2 ∧ e2.LiveStream s ∧ (e2.streams s).state = .closing ∧
      (e2.streams s).closePhase = .remoteDrain := by
  obtain ⟨now', m, t, r, ht, hnow', hm, heq⟩ := streamEnterClosing_eq env hi.depth (hi.stream_owner hl)
    (by exact hl.2) (by rfl) (by exact hs) he1
  have hev : refreshEvents s (e.connOf s) { e.streams s with
      closeReason := closeReasonNormal, drainStartedTs := now, closePhase := .remoteDrain
      state := .closing } now' r = [] := refreshEvents_of_inactive rfl
  have hmv : refreshMove (e.connOf s) { e.streams s with
      closeReason := closeReasonNormal, drainStartedTs := now, closePhase := .remoteDrain
      state := .closing } now' r = refreshMove (e.connOf s) { e.streams s with
      drainStartedTs := now, closePhase := .remoteDrain, state := .closing } now' 0 := rfl
  dsimp only at hm heq
  rw [hmv] at hm
  rw [he2, heq, hev, List.append_nil]
  refine ⟨?_, liveStream_stepStream hl hl.2, by simp [Engine.stepStream],
    by simp [Engine.stepStream]⟩
  have hact : Act env op e (e.stepStream s
      { e.streams s with
        closeReason := closeReasonNormal, drainStartedTs := now, closePhase := .remoteDrain
        state := .closing }
      (streamCloseEvents s (e.streams s) .remoteDrain []) m t e.stats e.connStats .keep) :=
    .stream hl ht (.remoteClose (hnow.mono ht) hnow' hs) hm rfl
  simpa [streamCloseEvents, hs] using hact

/-- **`kcpmux_stream_handle_close`.** -/
lemma streamHandleClose_acts (hi : Inside env e) (hl : e.LiveStream s) (reason : UInt8) :
    Acts env op e (streamHandleClose env e s reason).2 := by
  rw [streamHandleClose, if_neg (by simp [hl.2])]
  by_cases hr : reason ≠ closeReasonNormal
  · rw [if_pos hr]
    have h1 : Still env op e (streamSendCloseAck env e s reason).2 := streamSendCloseAck_still hl _
    exact h1.acts.tail (streamCloseInternal_act (h1.inside hi) (h1.calm.liveStream hl) _)
  rw [if_neg hr]
  rw [not_not] at hr
  subst hr
  dsimp only
  have h0 : Still env op e e.tock := Still.quiet (Nat.le_succ _) rfl
  have h1 : Still env op e (streamSendCloseAck env e.tock s closeReasonNormal).2 :=
    h0.trans (streamSendCloseAck_still (h0.calm.liveStream hl) _)
  have hi1 := h1.inside hi
  have hl1 := h1.calm.liveStream hl
  have hnow1 : Read env (streamSendCloseAck env e.tock s closeReasonNormal).2.tick
      (engineNow env e) := by
    have h0' : Read env e.tock.tick (engineNow env e) := ⟨e.tick, Nat.lt_succ_self _, rfl⟩
    have hack : Still env op e.tock (streamSendCloseAck env e.tock s closeReasonNormal).2 :=
      streamSendCloseAck_still (h0.calm.liveStream hl) _
    exact h0'.mono (hack.tick (h0.sound hi.toSound))
  have hfinal : ∀ {e2 : Engine K} {now : ℤ}, Inside env e2 → e2.LiveStream s →
      Read env e2.tick now → (e2.streams s).state = .closing →
      ((e2.streams s).closePhase = .localDrain ∨ (e2.streams s).closePhase = .waitAck ∨
        (e2.streams s).closePhase = .remoteDrain) →
      Act env op e2 (streamScheduleFinalize env e2 s closeReasonNormal now) :=
    fun hi2 hl2 hn2 hs2 hp2 => (streamScheduleFinalize_act hi2.toOwn hl2 hn2 _ hs2 hp2).act hi2
  cases hs : (e.tock.streams s).state with
  | closing =>
      have hs1 := (h1.calm.state s).trans hs
      cases hp : (e.tock.streams s).closePhase with
      | localDrain =>
          exact h1.acts.tail (hfinal hi1 hl1 hnow1 hs1
            (Or.inl ((h1.calm.closePhase s).trans hp)))
      | waitAck =>
          exact h1.acts.tail (hfinal hi1 hl1 hnow1 hs1
            (Or.inr (Or.inl ((h1.calm.closePhase s).trans hp))))
      | remoteDrain => exact h1.acts
      | finalize => exact h1.acts
      | none => exact h0.acts
  | opened =>
      have hs1 := (h1.calm.state s).trans hs
      obtain ⟨h2, hl2, hs2, hp2⟩ : Act env op _ _ ∧ _ :=
        streamRemoteClose_act hi1 hl1 hnow1 hs1 rfl rfl
      have h3 : Acts env op e _ := h1.acts.tail h2
      have hi3 := h3.inside hi
      have h4 : Still env op _ _ := kcpPeeksize_still hi3.toSound hl2
      dsimp only
      split_ifs
      · refine (h3.trans h4.acts).tail (hfinal (h4.inside hi3) (h4.calm.liveStream hl2) ?_
          ((h4.calm.state s).trans hs2)
          (Or.inr (Or.inr ((h4.calm.closePhase s).trans hp2))))
        refine hnow1.mono (((Acts.tick (.single h2) hi1.toOwn)).trans (h4.tick hi3.toSound))
      · exact h3.trans h4.acts
  | closed => exact h0.acts
  | error => exact h0.acts

end KcpMux
