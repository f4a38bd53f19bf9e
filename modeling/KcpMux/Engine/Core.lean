import KcpMux.Engine.State

/-!
The engine's own functions (`src/kcpmux_engine.c`), apart from the entry points that need
connections and streams: the operation bracket with its deferred releases, timer nodes and
the host's one-shot timer, the socket, and the two connection tables.

A call into the host is followed by `tock`.  `engineNow` is the clock reading of the
current tick.
-/

namespace KcpMux

variable {K : Type} (env : Env K)

/-- `kcpmux_engine_now`. -/
def engineNow (e : Engine K) : ℤ := env.monotonicTimeMs e.tick

/-! ### The host's one-shot timer -/

/-- The `delay_ms` of `kcpmux_engine_rearm_timer`. -/
def delayUntil (deadlineMs nowMs : ℤ) : UInt64 :=
  if deadlineMs ≤ nowMs then 0 else UInt64.ofInt deadlineMs - UInt64.ofInt nowMs

/-- `kcpmux_engine_rearm_timer`. -/
def engineRearmTimer (e : Engine K) (nowMs : ℤ) : Engine K :=
  if e.operationDepth > 0 then e
  else
    match timerPeek e.timerManager with
    | none => e
    | some root =>
        let deadlineMs := (e.timerManager.node root).deadlineMs
        if e.externalTimerArmed = true ∧ e.externalTimerDeadlineMs = deadlineMs then e
        else
          let e := { e with externalTimerArmed := true, externalTimerDeadlineMs := deadlineMs }
          e.log (.setTimer nowMs (delayUntil deadlineMs nowMs))

/-! ### Timer nodes -/

/-- `kcpmux_engine_register_timer_node`. -/
def engineRegisterTimerNode (e : Engine K) (o : Owner) : ℤ × Engine K :=
  if e.timerNodeCount > sizeMax - 2 then (errOom, e)
  else
    let r := timerManagerReserve e.timerManager (e.timerNodeCount + 1) (env.alloc e.tick)
    let e := e.tock
    if r.1 ≠ errOk then (r.1, e)
    else
      (errOk, { e with
        timerManager := timerNodeInit r.2 o
        timerNodeCount := e.timerNodeCount + 1 })

/-- `kcpmux_engine_unregister_timer_node`. -/
def engineUnregisterTimerNode (e : Engine K) (o : Owner) : Engine K :=
  if (e.timerManager.node o).owner = false then e
  else
    let now := engineNow env e
    let e := e.tock
    let m := timerCancel e.timerManager o
    let m := m.setNode o { m.node o with owner := false }
    let e := { e with timerManager := m, timerNodeCount := e.timerNodeCount - 1 }
    engineRearmTimer e now

/-- `kcpmux_engine_schedule_timer_node`. -/
def engineScheduleTimerNode (e : Engine K) (o : Owner) (deadlineMs nowMs : ℤ) : ℤ × Engine K :=
  if (e.timerManager.node o).owner = false then (errInvalidParam, e)
  else
    let deadlineMs := if deadlineMs < nowMs then nowMs else deadlineMs
    let r := timerSchedule e.timerManager o deadlineMs (env.alloc e.tick)
    let e := { e.tock with timerManager := r.2 }
    if r.1 = errOk then (r.1, engineRearmTimer e nowMs) else (r.1, e)

/-- `kcpmux_engine_cancel_timer_node`. -/
def engineCancelTimerNode (e : Engine K) (o : Owner) (nowMs : ℤ) : Engine K :=
  engineRearmTimer { e with timerManager := timerCancel e.timerManager o } nowMs

/-! ### The operation bracket -/

/-- `kcpmux_engine_operation_enter`. -/
def engineOperationEnter (e : Engine K) : Engine K :=
  { e with operationDepth := e.operationDepth + 1 }

/-- `kcpmux_engine_drain_pending_release`: the release hooks only free memory, so the list
is worked off from its head. -/
def engineDrainPendingRelease (e : Engine K) : Engine K :=
  e.pendingReleaseList.foldl
    (fun e o => { e with
      pendingReleaseList := e.pendingReleaseList.tail, trace := .release o :: e.trace }) e

/-- `kcpmux_engine_operation_leave`. -/
def engineOperationLeave (e : Engine K) : Engine K :=
  if e.operationDepth = 0 then e
  else
    let e := { e with operationDepth := e.operationDepth - 1 }
    if e.operationDepth ≠ 0 then e
    else
      let e := engineDrainPendingRelease { e with operationDepth := 1 }
      let e := { e with operationDepth := 0 }
      engineRearmTimer e.tock (engineNow env e)

/-- `kcpmux_engine_queue_release`. -/
def engineQueueRelease (e : Engine K) (o : Owner) : Engine K :=
  { e with pendingReleaseList := e.pendingReleaseList ++ [o] }

/-! ### The socket -/

/-- The transmission counters of `kcpmux_engine_write_socketv`. -/
def EngineStats.sent (st : EngineStats) (size : ℕ) (ok : Bool) : EngineStats :=
  if ok then { st with txPackets := st.txPackets + 1, txBytes := st.txBytes + size }
  else { st with txErrorPackets := st.txErrorPackets + 1 }

/-- `kcpmux_engine_write_socketv`. -/
def engineWriteSocketv (e : Engine K) (o : Owner) (iov : List Bytes) (addr : Addr) :
    ℤ × Engine K :=
  if iov = [] then (-errInvalidParam, e)
  else
    let ok := env.writeSocketv e.tick
    let e := (e.log (.write o addr iov.flatten ok)).tock
    let e := { e with stats := e.stats.sent iov.flatten.length ok }
    (if ok then 0 else -errNetwork, e)

/-! ### The connection tables -/

/-- The bytes of a 64-bit value in memory. -/
def u64Memory (x : UInt64) : Bytes :=
  (List.range 8).map fun i => (x >>> (8 * i).toUInt64).toUInt8

/-- The bytes of a 32-bit value in memory. -/
def u32Memory (x : UInt32) : Bytes :=
  (List.range 4).map fun i => (x >>> (8 * i).toUInt32).toUInt8

/-- `kcpmux_conn_key_hash`. -/
def connKeyHash (addr : Addr) (id : UInt64) : UInt32 :=
  env.hash32 addr ^^^ env.hash32 (u64Memory id)

/-- `kcpmux_conn_key_matches`. -/
def connKeyMatches (addr : Addr) (id : UInt64) (conn : Conn) (connId : UInt64) : Bool :=
  id == connId && addr == conn.peerAddr

/-- `__conn_cmp`. -/
def connCmp (e : Engine K) (addr : Addr) (id : UInt64) (c : ℕ) : Bool :=
  connKeyMatches addr id (e.conns c) (e.conns c).localConnectionId

/-- `__handshake_cmp`. -/
def handshakeCmp (e : Engine K) (addr : Addr) (id : UInt64) (c : ℕ) : Bool :=
  connKeyMatches addr id (e.conns c) (e.conns c).peerConnectionId

/-- `kcpmux_engine_add_conn`. -/
def engineAddConn (e : Engine K) (c : ℕ) : Engine K :=
  let x := e.conns c
  if x.internalClosed = true ∨ x.inEngineMap = true then e
  else
    let connMap := htbAdd e.connMap c (connCmp e x.peerAddr x.localConnectionId)
      (connKeyHash env x.peerAddr x.localConnectionId)
    let handshakeMap :=
      if x.isInitiator then e.handshakeMap
      else htbAdd e.handshakeMap c (handshakeCmp e x.peerAddr x.peerConnectionId)
        (connKeyHash env x.peerAddr x.peerConnectionId)
    let e := { e with
      connMap := connMap, handshakeMap := handshakeMap, connCount := e.connCount + 1 }
    let e := e.setConn c { x with inEngineMap := true }
    { e with stats := { e.stats with connCount := e.connCount } }

/-- `kcpmux_engine_remove_conn`. -/
def engineRemoveConn (e : Engine K) (c : ℕ) : Engine K :=
  let x := e.conns c
  if x.inEngineMap = false then e
  else
    let e := { e with
      handshakeMap := if x.isInitiator then e.handshakeMap else htbDel e.handshakeMap c
      connMap := htbDel e.connMap c
      connCount := e.connCount - 1 }
    let e := e.setConn c { x with inEngineMap := false }
    { e with stats := { e.stats with connCount := e.connCount } }

/-- `kcpmux_engine_get_conn_by_id`. -/
def engineGetConnById (e : Engine K) (addr : Addr) (localConnectionId : UInt64) : Option ℕ :=
  if addr = [] ∨ addr.length > addrMaxLen ∨ localConnectionId = 0 then none
  else htbFind e.connMap (connCmp e addr localConnectionId)
    (connKeyHash env addr localConnectionId)

/-- `kcpmux_engine_get_passive_conn`. -/
def engineGetPassiveConn (e : Engine K) (addr : Addr) (peerConnectionId : UInt64) : Option ℕ :=
  if addr = [] ∨ addr.length > addrMaxLen ∨ peerConnectionId = 0 then none
  else htbFind e.handshakeMap (handshakeCmp e addr peerConnectionId)
    (connKeyHash env addr peerConnectionId)

/-! ### Creation -/

/-- An engine in zeroed memory with its two tables. -/
def engineBlank (connConfig : ConnConfig) (streamConfig : StreamConfig) : Engine K where
  defaultConnConfig := connConfig
  defaultStreamConfig := streamConfig
  connMap := htbNew ℕ 64
  handshakeMap := htbNew ℕ 64
  nextConnectionId := 0
  connCount := 0
  stats := {}
  timerManager := timerManagerInit Owner
  timerNodeCount := 0
  externalTimerArmed := false
  externalTimerDeadlineMs := 0
  timerDispatchCount := 0
  destroying := false
  pendingBatchStreams := []
  operationDepth := 0
  pendingReleaseList := []
  conns := fun _ => default
  connStats := fun _ => {}
  streams := fun _ => default
  nconns := 0
  nstreams := 0
  tick := 0
  trace := []

/-- `kcpmux_engine_create`.  The required callbacks and operations are always there: they
are the fields of `env`. -/
def engineCreate (defaultConnConfig : Option ConnConfig)
    (defaultStreamConfig : Option StreamConfig) : Option (Engine K) := do
  let connConfig ← defaultConnConfig.elim (some connConfigInit) connConfigPrepare
  let streamConfig ← defaultStreamConfig.elim (some streamConfigInit) streamConfigPrepare
  -- the engine, its connection table and its handshake table
  if env.alloc 0 && env.alloc 1 && env.alloc 2 then
    let id := env.randomU64 3 &&& ((0xffffffffffffffff : UInt64) >>> 1)
    some { engineBlank connConfig streamConfig with
      nextConnectionId := if id = 0 then 1 else id
      tick := 4 }
  else none

end KcpMux
