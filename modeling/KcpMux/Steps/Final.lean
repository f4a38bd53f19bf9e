import KcpMux.Steps.Own

/-!
Finalisation in closed form.

`finalStream` is `kcpmux_stream_close_internal` on a live stream inside an operation, as one
update of the engine (`streamCloseInternal_eq`).  `kcpmux_conn_close_internal` is its
beginning, the cascade over the streams, and its end (`connCloseInternal_eq`), with
`beginConn` and `endConn` in closed form.
-/

namespace KcpMux

open TimerNode

variable {K : Type} {env : Env K} {e : Engine K}

/-- Inside an operation the host's timer is left alone. -/
lemma engineRearmTimer_of_depth (hd : 0 < e.operationDepth) (now : ℤ) :
    engineRearmTimer e now = e := by
  rw [engineRearmTimer, if_pos hd]

/-- Unregistering inside an operation. -/
lemma engineUnregisterTimerNode_eq (hd : 0 < e.operationDepth) {o : Owner}
    (ho : (e.timerManager.node o).owner = true) :
    engineUnregisterTimerNode env e o = { e with
      timerManager := timerUnregister e.timerManager o
      timerNodeCount := e.timerNodeCount - 1, tick := e.tick + 1 } := by
  rw [engineUnregisterTimerNode, if_neg (by simp [ho])]
  exact engineRearmTimer_of_depth (by exact hd) _

/-- A stream that is in the table of its connection leaves it. -/
lemma connRemoveStream_eq {c s : ℕ} (h : (e.streams s).inStreamMap = true) :
    connRemoveStream e c s = { e with
      conns := Function.update e.conns c { e.conns c with
        streamMap := htbDel (e.conns c).streamMap s, streamCount := (e.conns c).streamCount - 1 }
      streams := Function.update e.streams s { e.streams s with inStreamMap := false }
      stats := { e.stats with streamCount := e.stats.streamCount - 1 } } := by
  rw [connRemoveStream, if_neg (by simp [h])]
  rfl

lemma streamReleaseKcp_eq {s : ℕ} (h : (e.streams s).kcp.isSome = true) :
    streamReleaseKcp e s = { e with
      streams := Function.update e.streams s { e.streams s with kcp := none }
      trace := .kcp s .release :: e.trace } := by
  rw [streamReleaseKcp, if_pos h]
  rfl

lemma streamCloseNotify_eq (s : ℕ) (reason : UInt8) :
    streamCloseNotify e s reason = { e with
      streams := Function.update e.streams s { e.streams s with
        state := if (e.streams s).state = .error then .error else .closed }
      trace := (if (e.streams s).callbacks.streamCloseNotify then
        [.streamCloseNotify s reason] else []) ++ e.trace
      pendingReleaseList := e.pendingReleaseList ++ [.stream s] } := by
  simp only [streamCloseNotify]
  by_cases hst : (e.streams s).state = .error
  · have hx : { e.streams s with state := .error } = e.streams s := by rw [← hst]
    rw [if_neg (not_not.mpr hst)]
    by_cases hcb : (e.streams s).callbacks.streamCloseNotify = true
    · simp [hst, hcb, hx, engineQueueRelease, Engine.log]
    · simp [hst, hcb, hx, engineQueueRelease]
  · rw [if_pos hst]
    by_cases hcb : (e.streams s).callbacks.streamCloseNotify = true
    · simp [hst, hcb, engineQueueRelease, Engine.log, Engine.setStream]
    · simp [hst, hcb, engineQueueRelease, Engine.setStream]

lemma streamCloseInternal_eq (hd : 0 < e.operationDepth) (h : Own env e) {s : ℕ}
    (hl : e.LiveStream s) (reason : UInt8) :
    streamCloseInternal env e s reason = e.finalStream s reason := by
  have ho : (e.timerManager.node (.stream s)).owner = true := (h.owner _).mpr hl
  have hm : (e.streams s).inStreamMap = true := by rw [h.inStreamMap s hl.1, hl.2]; rfl
  have hk : (e.streams s).kcp.isSome = true := by rw [h.kcp s hl.1, hl.2]; rfl
  rw [streamCloseInternal, if_neg (by rw [hl.2]; decide)]
  dsimp only
  rw [engineUnregisterTimerNode_eq (e := streamClearPending (e.setStream s _) s) hd ho]
  rw [connRemoveStream_eq (by simp [streamClearPending, Engine.setStream, hm])]
  rw [streamReleaseKcp_eq (by simp [streamClearPending, Engine.setStream, hk])]
  rw [streamCloseNotify_eq]
  simp [streamClearPending, Engine.setStream, Engine.finalStream, finalStreamEvents, Engine.connOf]

/-! ### Connections -/

lemma engineRemoveConn_eq {c : ℕ} (h : (e.conns c).inEngineMap = true) :
    engineRemoveConn e c = { e with
      conns := Function.update e.conns c { e.conns c with inEngineMap := false }
      handshakeMap :=
        if (e.conns c).isInitiator then e.handshakeMap else htbDel e.handshakeMap c
      connMap := htbDel e.connMap c
      connCount := e.connCount - 1
      stats := { e.stats with connCount := e.connCount - 1 } } := by
  rw [engineRemoveConn, if_neg (by simp [h])]
  rfl

lemma connCloseBegin_eq (hd : 0 < e.operationDepth) (h : Own env e) {c : ℕ}
    (hl : e.LiveConn c) : connCloseBegin env e c = e.beginConn c := by
  have ho : (e.timerManager.node (.conn c)).owner = true := (h.owner _).mpr hl
  have hm : (e.conns c).inEngineMap = true := by rw [h.inEngineMap c hl.1, hl.2]; rfl
  rw [connCloseBegin]
  dsimp only
  rw [engineUnregisterTimerNode_eq (e := e.setConn c _) hd ho]
  rw [engineRemoveConn_eq (by simp [Engine.setConn, hm])]
  simp [Engine.setConn, Engine.beginConn]

lemma connCloseEnd_eq (c : ℕ) (reason : UInt8) : connCloseEnd e c reason = e.endConn c reason := by
  simp only [connCloseEnd]
  by_cases hst : (e.conns c).state = .error
  · have hx : { e.conns c with state := .error } = e.conns c := by rw [← hst]
    rw [if_neg (not_not.mpr hst)]
    by_cases hcb : (e.conns c).callbacks.connCloseNotify = true
    · simp [hst, hcb, hx, engineQueueRelease, Engine.log, Engine.endConn, endConnEvents]
    · simp [hst, hcb, hx, engineQueueRelease, Engine.endConn, endConnEvents]
  · rw [if_pos hst]
    by_cases hcb : (e.conns c).callbacks.connCloseNotify = true
    · simp [hst, hcb, engineQueueRelease, Engine.log, Engine.setConn, Engine.assignConnState,
        Engine.endConn, endConnEvents]
    · simp [hst, hcb, engineQueueRelease, Engine.log, Engine.setConn, Engine.assignConnState,
        Engine.endConn, endConnEvents]

lemma connCloseInternal_eq (hd : 0 < e.operationDepth) (h : Own env e) {c : ℕ}
    (hl : e.LiveConn c) (reason : UInt8) :
    connCloseInternal env e c reason =
      (connCloseStreams env (e.beginConn c) c reason).endConn c reason := by
  rw [connCloseInternal, if_neg (by rw [hl.2]; decide), connCloseBegin_eq hd h hl, connCloseEnd_eq]

end KcpMux
