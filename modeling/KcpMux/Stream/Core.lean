import KcpMux.Stream.Kcp
import KcpMux.Conn.Streams

/-!
Streams (`src/kcpmux_stream.c`): batching, the deadline timer, creation and finalisation,
the close handshake, the timer callback and the handlers of incoming messages.
-/

namespace KcpMux

variable {K : Type} (env : Env K)

/-- Assigns `close_phase` and logs the assignment. -/
def Engine.setClosePhase (e : Engine K) (s : ℕ) (phase : ClosePhase) : Engine K :=
  (e.log (.closePhase s (e.streams s).closePhase phase)).setStream s
    { e.streams s with closePhase := phase }

/-! ### Batching -/

/-- `kcpmux_stream_clear_pending`. -/
def streamClearPending (e : Engine K) (s : ℕ) : Engine K :=
  let e := e.setStream s { e.streams s with pendingCount := 0 }
  { e with pendingBatchStreams := e.pendingBatchStreams.erase s }

/-- `kcpmux_stream_accumulate_update`. -/
def streamAccumulateUpdate (e : Engine K) (s : ℕ) (nowMs : ℤ) : Engine K :=
  let x := e.streams s
  let threshold := x.config.batchThreshold
  if threshold ≤ 1 then (engineScheduleTimerNode env e (.stream s) nowMs nowMs).2
  else if x.pendingCount ≥ threshold then e
  else
    let e :=
      if x.pendingCount = 0 then { e with pendingBatchStreams := e.pendingBatchStreams ++ [s] }
      else e
    let e := e.setStream s { x with pendingCount := x.pendingCount + 1 }
    if x.pendingCount + 1 = threshold then
      let e := { e with pendingBatchStreams := e.pendingBatchStreams.erase s }
      (engineScheduleTimerNode env e (.stream s) nowMs nowMs).2
    else e

/-! ### The deadline timer -/

/-- The deadline `kcpmux_stream_refresh_timer` schedules, or nothing when it cancels the
node. -/
def streamRefreshDeadline (e : Engine K) (s : ℕ) (now : ℤ) : Option ℤ × Engine K :=
  let x := e.streams s
  if x.internalClosed = true then (none, e)
  else if (e.connOf s).internalClosed = true ∨ (e.connOf s).state ≠ .connected then (none, e)
  else
    match x.state with
    | .opened =>
        let r := kcpCheck env e s now
        (some r.1, r.2)
    | .closing =>
        match x.closePhase with
        | .localDrain =>
            let r := kcpCheck env e s now
            let drain := deadlineAfter x.drainStartedTs x.config.drainTimeoutMs
            (some (if r.1 < drain then r.1 else drain), r.2)
        | .waitAck => (some (deadlineAfter x.lastCtrlTs x.config.ctrlTimeoutMs), e)
        | .remoteDrain => (some (deadlineAfter x.drainStartedTs x.config.drainTimeoutMs), e)
        | .finalize => (some now, e)
        | .none => (none, e)
    | .closed | .error => (none, e)

/-- `kcpmux_stream_refresh_timer`. -/
def streamRefreshTimer (e : Engine K) (s : ℕ) (now : ℤ) : Engine K :=
  if (e.timerManager.node (.stream s)).owner = false then e
  else
    let r := streamRefreshDeadline env e s now
    match r.1 with
    | none => engineCancelTimerNode r.2 (.stream s) now
    | some deadlineMs => (engineScheduleTimerNode env r.2 (.stream s) deadlineMs now).2

/-- `kcpmux_stream_schedule_finalize`. -/
def streamScheduleFinalize (e : Engine K) (s : ℕ) (reason : UInt8) (now : ℤ) : Engine K :=
  let e := e.setStream s { e.streams s with closeReason := reason }
  let e := e.setClosePhase s .finalize
  let e := streamClearPending e s
  (engineScheduleTimerNode env e (.stream s) now now).2

/-! ### State -/

/-- `kcpmux_stream_set_state`. -/
def streamSetState (e : Engine K) (s : ℕ) (newState : StreamState) : Engine K :=
  let oldState := (e.streams s).state
  if oldState = newState then e
  else
    let e := e.setStream s { e.streams s with state := newState }
    let e := streamRefreshTimer env e.tock s (engineNow env e)
    if newState ≠ .closed ∧ newState ≠ .error ∧ (e.streams s).callbacks.streamStateChanged then
      e.log (.streamStateChanged s oldState newState)
    else e

/-- A stream starts to wait for data. -/
def Stream.blockRead (x : Stream K) (now : ℤ) : Stream K :=
  { x with
    readBlockStartTs := now, readBlocked := true
    stats := { x.stats with readBlockCount := x.stats.readBlockCount + 1 } }

/-- `kcpmux_stream_mark_read_blocked`. -/
def streamMarkReadBlocked (e : Engine K) (s : ℕ) (now : ℤ) : Engine K :=
  if (e.streams s).readBlocked then e else e.setStream s ((e.streams s).blockRead now)

/-! ### Creation and finalisation -/

/-- The record `kcpmux_stream_new` fills in before it registers the timer node. -/
def streamRecord (c : ℕ) (streamId : UInt32) (config : StreamConfig) (isInitiator : Bool)
    (kcp : K) : Stream K :=
  { (default : Stream K) with streamId, isInitiator, conn := c, config, kcp := some kcp }

/-- The end of `kcpmux_stream_new`: the timer node is registered and the stream opens.  A
stream whose node cannot be registered has already used its handle for the KCP instance; its
record stays closed. -/
def streamNewRegister (e : Engine K) (s : ℕ) (x : Stream K) : Option ℕ × Engine K :=
  let r := engineRegisterTimerNode env e (.stream s)
  let e := r.2
  if r.1 ≠ errOk then
    (none, ((e.log (.kcp s .release)).log (.release (.stream s))).setStream s
      { x with internalClosed := true, kcp := none })
  else
    let e := e.setStream s x
    let e := streamMarkReadBlocked e.tock s (engineNow env e)
    let e := { e with stats := { e.stats with
      streamOpenedTotal := e.stats.streamOpenedTotal + 1
      streamCreatedTotal := e.stats.streamCreatedTotal + 1 } }
    (some s, streamRefreshTimer env e s (e.streams s).readBlockStartTs)

/-- `kcpmux_stream_new`. -/
def streamNew (e : Engine K) (c : ℕ) (streamId : UInt32) (config : Option StreamConfig)
    (isInitiator : Bool) : Option ℕ × Engine K :=
  if streamId = 0 then (none, e)
  else if env.alloc e.tick = false then (none, e.tock)
  else
    let e := e.tock
    match streamConfigPrepare (config.getD e.defaultStreamConfig) with
    | none => (none, e)
    | some config =>
        match env.kcp.create e.tick streamId with
        | none => (none, e.tock)
        | some kcp =>
            let s := e.nstreams
            let e := { e.tock with nstreams := e.nstreams + 1 }
            let e := e.log (.kcp s .create)
            let kcp := env.kcp.setmss e.tick kcp config.kcpMss
            let e := (e.log (.kcp s (.setmss config.kcpMss))).tock
            let e := e.log (.kcp s .setoutput)
            streamNewRegister env e s (streamRecord c streamId config isInitiator kcp)

/-- The release of the KCP instance in `kcpmux_stream_close_internal`. -/
def streamReleaseKcp (e : Engine K) (s : ℕ) : Engine K :=
  if (e.streams s).kcp.isSome then
    (e.log (.kcp s .release)).setStream s { e.streams s with kcp := none }
  else e

/-- The end of `kcpmux_stream_close_internal`: the final state, the notification, and the
release queue. -/
def streamCloseNotify (e : Engine K) (s : ℕ) (reason : UInt8) : Engine K :=
  let e :=
    if (e.streams s).state ≠ .error then e.setStream s { e.streams s with state := .closed }
    else e
  let e :=
    if (e.streams s).callbacks.streamCloseNotify then e.log (.streamCloseNotify s reason)
    else e
  engineQueueRelease e (.stream s)

/-- `kcpmux_stream_close_internal`. -/
def streamCloseInternal (e : Engine K) (s : ℕ) (reason : UInt8) : Engine K :=
  if (e.streams s).internalClosed then e
  else
    let e := e.setStream s { e.streams s with internalClosed := true }
    let e := streamClearPending e s
    let e := engineUnregisterTimerNode env e (.stream s)
    let e := connRemoveStream e (e.streams s).conn s
    let e := { e with stats := { e.stats with
      streamClosedTotal := e.stats.streamClosedTotal + 1 } }
    streamCloseNotify (streamReleaseKcp e s) s reason

/-! ### The close handshake -/

/-- `kcpmux_stream_send_close`. -/
def streamSendClose (e : Engine K) (s : ℕ) (reason : UInt8) : ℤ × Engine K :=
  if (e.streams s).internalClosed then (-errClosed, e)
  else
    let now := engineNow env e
    let e := e.tock.setStream s { e.streams s with lastCtrlTs := now }
    let r := protocolSendStreamClose env e s reason
    (r.1, streamRefreshTimer env r.2 s now)

/-- `kcpmux_stream_send_close_ack`. -/
def streamSendCloseAck (e : Engine K) (s : ℕ) (reason : UInt8) : ℤ × Engine K :=
  protocolSendStreamCloseAck env e s reason

/-- `kcpmux_stream_advance_local_close`. -/
def streamAdvanceLocalClose (e : Engine K) (s : ℕ) : Engine K :=
  if (e.streams s).internalClosed = true ∨ (e.streams s).closePhase ≠ .localDrain then e
  else
    let r := kcpWaitsnd env e s
    let e := r.2
    if r.1 ≠ 0 then e
    else
      let e := e.setClosePhase s .waitAck
      let e := e.setStream s { e.streams s with retryCount := 0 }
      let e := (streamSendClose env e s closeReasonNormal).2
      if (e.streams s).config.closeRetries = 0 then
        streamCloseInternal env e s closeReasonNormal
      else e

/-! ### The timer callback -/

/-- A write-blocked stream becomes writable: the time it was blocked is counted. -/
def Stream.unblockWrite (x : Stream K) (now : ℤ) : Stream K :=
  if x.writeBlockStartTs > 0 then
    { x with
      stats := { x.stats with
        writeBlockTimeMs := x.stats.writeBlockTimeMs + UInt64.ofInt (now - x.writeBlockStartTs) }
      writeBlockStartTs := 0, writeBlocked := false }
  else { x with writeBlocked := false }

/-- The flow-control recovery of `kcpmux_stream_update`: a blocked stream whose send queue
has shrunk becomes writable. -/
def streamRecoverWrite (e : Engine K) (s : ℕ) (now : ℤ) : Engine K :=
  if (e.streams s).writeBlocked = false then e
  else
    let r := kcpWaitsnd env e s
    let e := r.2
    if r.1 < (e.streams s).config.sendResumeThreshold.toInt32.toInt then
      let e := e.setStream s ((e.streams s).unblockWrite now)
      if (e.streams s).callbacks.streamWriteNotify then e.log (.streamWriteNotify s) else e
    else e

/-- The case `OPEN` of `kcpmux_stream_update`. -/
def streamUpdateOpen (e : Engine K) (s : ℕ) (now : ℤ) : Engine K :=
  let e := streamClearPending e s
  let e := kcpUpdate env e s now
  let e := streamRecoverWrite env e s now
  let r := kcpCheck env e s now
  (engineScheduleTimerNode env r.2 (.stream s) r.1 now).2

/-- The case `LOCAL_DRAIN` of `kcpmux_stream_update`. -/
def streamUpdateLocalDrain (e : Engine K) (s : ℕ) (now : ℤ) : Engine K :=
  let e := streamClearPending e s
  let e := kcpUpdate env e s now
  let r := kcpWaitsnd env e s
  let e := r.2
  let x := e.streams s
  if r.1 = 0 then streamAdvanceLocalClose env e s
  else if now ≥ deadlineAfter x.drainStartedTs x.config.drainTimeoutMs then
    let e := e.setStream s { x with closeReason := closeReasonTimeout }
    let e := (streamSendClose env e s closeReasonTimeout).2
    streamCloseInternal env e s closeReasonTimeout
  else streamRefreshTimer env e s now

/-- The case `WAIT_ACK` of `kcpmux_stream_update`. -/
def streamUpdateWaitAck (e : Engine K) (s : ℕ) (now : ℤ) : Engine K :=
  let x := e.streams s
  if now ≥ deadlineAfter x.lastCtrlTs x.config.ctrlTimeoutMs then
    if x.retryCount < x.config.closeRetries then
      let e := e.setStream s { x with retryCount := x.retryCount + 1 }
      let e := (streamSendClose env e s x.closeReason).2
      if (e.streams s).retryCount = (e.streams s).config.closeRetries then
        streamCloseInternal env e s (e.streams s).closeReason
      else e
    else streamCloseInternal env e s x.closeReason
  else e

/-- `kcpmux_stream_update`. -/
def streamUpdate (e : Engine K) (s : ℕ) (now : ℤ) : Engine K :=
  let x := e.streams s
  if x.internalClosed = true ∨ (e.connOf s).internalClosed = true ∨
      (e.connOf s).state ≠ .connected then e
  else
    match x.state with
    | .opened => streamUpdateOpen env e s now
    | .closing =>
        match x.closePhase with
        | .localDrain => streamUpdateLocalDrain env e s now
        | .waitAck => streamUpdateWaitAck env e s now
        | .remoteDrain =>
            if now ≥ deadlineAfter x.drainStartedTs x.config.drainTimeoutMs then
              streamCloseInternal env e s closeReasonTimeout
            else e
        | .finalize => streamCloseInternal env e s x.closeReason
        | .none => e
    | .closed | .error => engineCancelTimerNode e (.stream s) now

/-! ### Incoming messages -/

/-- A stream that was waiting for data becomes readable: the time it waited is counted, and
is the time to the first byte when it waited for the first time. -/
def Stream.unblockRead (x : Stream K) (recvTimeMs : ℤ) : Stream K :=
  let elapsed := UInt64.ofInt (recvTimeMs - x.readBlockStartTs)
  if x.readBlockStartTs > 0 then
    { x with
      stats := { x.stats with
        ttfbTimeMs := if x.stats.readBlockCount = 1 then elapsed else x.stats.ttfbTimeMs
        readBlockTimeMs := x.stats.readBlockTimeMs + elapsed }
      readBlockStartTs := 0, readBlocked := false }
  else { x with readBlocked := false }

/-- The flow-control recovery of `kcpmux_stream_handle_payload`: a stream that was waiting
for data becomes readable. -/
def streamRecoverRead (e : Engine K) (s : ℕ) (recvTimeMs : ℤ) : Engine K :=
  if (e.streams s).state = .opened ∧ (e.streams s).readBlocked = true then
    let r := kcpPeeksize env e s
    let e := r.2
    if r.1 > 0 then
      let e := e.setStream s ((e.streams s).unblockRead recvTimeMs)
      if (e.streams s).callbacks.streamReadNotify then e.log (.streamReadNotify s) else e
    else e
  else e

/-- `kcpmux_stream_handle_payload`. -/
def streamHandlePayload (e : Engine K) (s : ℕ) (buf : Bytes) (recvTimeMs : ℤ) :
    ℤ × Engine K :=
  let x := e.streams s
  if buf = [] then (-errInvalidParam, e)
  else if x.internalClosed then (-errClosed, e)
  else if streamKcpActive x = false then (-errState, e)
  else
    let e := e.setStream s { x with stats := { x.stats with
      rxPackets := x.stats.rxPackets + 1, rxBytes := x.stats.rxBytes + buf.length } }
    let e := kcpCurrentUpdate env e s recvTimeMs
    let r := kcpInput env e s buf
    let e := streamAccumulateUpdate env r.2 s recvTimeMs
    if r.1 < 0 then (-errKcpRet r.1, e)
    else (0, streamRecoverRead env e s recvTimeMs)

/-- `kcpmux_stream_handle_close`. -/
def streamHandleClose (e : Engine K) (s : ℕ) (reason : UInt8) : ℤ × Engine K :=
  if (e.streams s).internalClosed then (-errClosed, e)
  else if reason ≠ closeReasonNormal then
    let e := (streamSendCloseAck env e s reason).2
    (0, streamCloseInternal env e s reason)
  else
    let now := engineNow env e
    let e := e.tock
    match (e.streams s).state with
    | .closing =>
        match (e.streams s).closePhase with
        | .localDrain | .waitAck =>
            let e := (streamSendCloseAck env e s reason).2
            (0, streamScheduleFinalize env e s closeReasonNormal now)
        | .remoteDrain | .finalize => (0, (streamSendCloseAck env e s reason).2)
        | .none => (-errState, e)
    | .opened =>
        let e := (streamSendCloseAck env e s reason).2
        let e := e.setStream s { e.streams s with closeReason := reason, drainStartedTs := now }
        let e := e.setClosePhase s .remoteDrain
        let e := streamSetState env e s .closing
        let r := kcpPeeksize env e s
        if r.1 ≤ 0 then (0, streamScheduleFinalize env r.2 s reason now) else (0, r.2)
    | .closed | .error => (-errState, e)

end KcpMux
