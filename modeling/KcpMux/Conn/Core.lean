import KcpMux.Stream.Core

/-!
Connections (`src/kcpmux_conn.c`): the deadline, creation and finalisation with the cascade
over the streams, state changes, the control messages with their retries, the timer
callback, and the public functions on connections.
-/

namespace KcpMux

variable {K : Type} (env : Env K)

/-- Assigns `state` and logs the assignment. -/
def Engine.assignConnState (e : Engine K) (c : ℕ) (newState : ConnState) : Engine K :=
  (e.log (.connState c (e.conns c).state newState)).setConn c
    { e.conns c with state := newState }

/-! ### The deadline timer -/

/-- The three deadlines of a connected connection. -/
def connConnectedDeadline (x : Conn) : ℤ :=
  let deadline := deadlineAfter x.lastRecvTs x.config.keepaliveTimeoutMs
  let deadline :=
    if x.config.keepaliveIntervalMs > 0 then
      let candidate := deadlineAfter x.lastKeepaliveTs x.config.keepaliveIntervalMs
      if candidate < deadline then candidate else deadline
    else deadline
  if x.config.idleTimeoutMs > 0 then
    let candidate := deadlineAfter x.lastPayloadTs x.config.idleTimeoutMs
    if candidate < deadline then candidate else deadline
  else deadline

/-- `kcpmux_conn_calculate_deadline`. -/
def connCalculateDeadline (x : Conn) : Option ℤ :=
  if x.internalClosed then none
  else
    let deadline := match x.state with
      | .connecting | .closing => deadlineAfter x.lastCtrlTs x.config.ctrlTimeoutMs
      | .connected => connConnectedDeadline x
      | .init | .closed | .error => int64Max
    if deadline = int64Max then none else some deadline

/-- `kcpmux_conn_refresh_timer`. -/
def connRefreshTimer (e : Engine K) (c : ℕ) (now : ℤ) : Engine K :=
  if (e.conns c).internalClosed then e
  else
    match connCalculateDeadline (e.conns c) with
    | none => engineCancelTimerNode e (.conn c) now
    | some deadlineMs => (engineScheduleTimerNode env e (.conn c) deadlineMs now).2

/-- `kcpmux_conn_note_receive`. -/
def connNoteReceive (e : Engine K) (c : ℕ) (recvTimeMs : ℤ) (isPayload : Bool) : Engine K :=
  let x := e.conns c
  if x.internalClosed then e
  else
    let e := e.setConn c { x with
      lastRecvTs := if recvTimeMs > x.lastRecvTs then recvTimeMs else x.lastRecvTs
      lastPayloadTs :=
        if isPayload = true ∧ recvTimeMs > x.lastPayloadTs then recvTimeMs else x.lastPayloadTs }
    connRefreshTimer env e c recvTimeMs

/-- `kcpmux_conn_set_state`. -/
def connSetState (e : Engine K) (c : ℕ) (newState : ConnState) : Engine K :=
  let oldState := (e.conns c).state
  if (e.conns c).internalClosed = true ∨ oldState = newState then e
  else
    let e := e.assignConnState c newState
    let e :=
      if newState = .connected then
        let now := engineNow env e
        let e := { e.tock with connStats := Function.update e.connStats c { e.connStats c with
          handshakeTimeMs := UInt64.ofInt (now - (e.conns c).createdTs) } }
        { e with stats := { e.stats with connConnectedTotal := e.stats.connConnectedTotal + 1 } }
      else e
    let e := connRefreshTimer env e.tock c (engineNow env e)
    if newState ≠ .closed ∧ newState ≠ .error ∧ (e.conns c).callbacks.connStateChanged then
      e.log (.connStateChanged c oldState newState)
    else e

/-! ### Creation and finalisation -/

/-- The record `kcpmux_conn_new` fills in. -/
def connRecord (isInitiator : Bool) (id : UInt64) (peerAddr : Addr) (config : ConnConfig)
    (nextStreamId : UInt32) (now : ℤ) : Conn :=
  { (default : Conn) with
    isInitiator, localConnectionId := id, peerAddr, config, nextStreamId
    streamMap := htbNew ℕ 32, createdTs := now, lastRecvTs := now, lastKeepaliveTs := now
    lastPayloadTs := now }

/-- The first local stream id: odd for the initiator, even and nonzero for the acceptor. -/
def firstStreamId (isInitiator : Bool) (random : UInt64) : UInt32 :=
  if isInitiator then random.toUInt32 ||| 1
  else if random.toUInt32 &&& ~~~1 = 0 then 2 else random.toUInt32 &&& ~~~1

/-- `kcpmux_conn_new`. -/
def connNew (e : Engine K) (peerAddr : Addr) (config : Option ConnConfig) (isInitiator : Bool) :
    Option ℕ × Engine K :=
  if peerAddr = [] ∨ peerAddr.length > addrMaxLen then (none, e)
  else if env.alloc e.tick = false then (none, e.tock)
  else
    let e := e.tock
    if e.nextConnectionId = 0 then (none, e)
    else
      let id := e.nextConnectionId
      let e := { e with nextConnectionId := id + 1 }
      match connConfigPrepare (config.getD e.defaultConnConfig) with
      | none => (none, e)
      | some config =>
          let nextStreamId := firstStreamId isInitiator (env.randomU64 e.tick)
          let e := e.tock
          if env.alloc e.tick = false then (none, e.tock)
          else
            let e := e.tock
            let c := e.nconns
            let r := engineRegisterTimerNode env e (.conn c)
            let e := r.2
            if r.1 ≠ errOk then (none, e)
            else
              let now := engineNow env e
              let e := { e.tock with nconns := e.nconns + 1 }
              let e := e.setConn c (connRecord isInitiator id peerAddr config nextStreamId now)
              (some c, { e with stats := { e.stats with
                connCreatedTotal := e.stats.connCreatedTotal + 1 } })

/-- The cascade of `kcpmux_conn_close_internal`: bucket by bucket, each with the safe
iterator, which has read the next node before the current one is closed. -/
def connCloseStreams (e : Engine K) (c : ℕ) (reason : UInt8) : Engine K :=
  (List.range (e.conns c).streamMap.size).foldl
    (fun e i => ((e.conns c).streamMap.hashtable i).foldl
      (fun e s => streamCloseInternal env e s reason) e) e

/-- The start of `kcpmux_conn_close_internal`: the connection leaves the engine's tables. -/
def connCloseBegin (e : Engine K) (c : ℕ) : Engine K :=
  let e := e.setConn c { e.conns c with internalClosed := true }
  let e := engineUnregisterTimerNode env e (.conn c)
  let e := engineRemoveConn e c
  { e with stats := { e.stats with connClosedTotal := e.stats.connClosedTotal + 1 } }

/-- The end of `kcpmux_conn_close_internal`: the final state, the notification, and the
release queue. -/
def connCloseEnd (e : Engine K) (c : ℕ) (reason : UInt8) : Engine K :=
  let e := if (e.conns c).state ≠ .error then e.assignConnState c .closed else e
  let e :=
    if (e.conns c).callbacks.connCloseNotify then e.log (.connCloseNotify c reason) else e
  engineQueueRelease e (.conn c)

/-- `kcpmux_conn_close_internal`. -/
def connCloseInternal (e : Engine K) (c : ℕ) (reason : UInt8) : Engine K :=
  if (e.conns c).internalClosed then e
  else connCloseEnd (connCloseStreams env (connCloseBegin env e c) c reason) c reason

/-! ### Control messages -/

/-- `kcpmux_conn_send_connect`. -/
def connSendConnect (e : Engine K) (c : ℕ) : ℤ × Engine K :=
  if (e.conns c).internalClosed then (-errClosed, e)
  else
    let now := engineNow env e
    let e := e.tock.setConn c { e.conns c with lastCtrlTs := now }
    let r := protocolSendConnConnect env e c
    (r.1, connRefreshTimer env r.2 c now)

/-- `kcpmux_conn_send_connect_ack`. -/
def connSendConnectAck (e : Engine K) (c : ℕ) (result : UInt8) : ℤ × Engine K :=
  protocolSendConnConnectAck env e c result

/-- `kcpmux_conn_send_keepalive`. -/
def connSendKeepalive (e : Engine K) (c : ℕ) : ℤ × Engine K :=
  if (e.conns c).internalClosed then (-errClosed, e)
  else
    let now := engineNow env e
    let e := e.tock.setConn c { e.conns c with
      lastKeepaliveTs := now, keepaliveSeq := (e.conns c).keepaliveSeq + 1 }
    let r := protocolSendConnKeepalive env e c
    (r.1, connRefreshTimer env r.2 c now)

/-- `kcpmux_conn_send_close`. -/
def connSendClose (e : Engine K) (c : ℕ) (reason : UInt8) : ℤ × Engine K :=
  if (e.conns c).internalClosed then (-errClosed, e)
  else
    let now := engineNow env e
    let e := e.tock.setConn c { e.conns c with lastCtrlTs := now }
    let r := protocolSendConnClose env e c reason
    (r.1, connRefreshTimer env r.2 c now)

/-- `kcpmux_conn_send_close_ack`. -/
def connSendCloseAck (e : Engine K) (c : ℕ) (reason : UInt8) : ℤ × Engine K :=
  protocolSendConnCloseAck env e c reason

/-! ### The timer callback -/

/-- The case `CONNECTING` of `kcpmux_conn_update`. -/
def connUpdateConnecting (e : Engine K) (c : ℕ) (now : ℤ) : Engine K :=
  let x := e.conns c
  if now ≥ deadlineAfter x.lastCtrlTs x.config.ctrlTimeoutMs then
    if x.retryCount < x.config.connectRetries then
      let e := e.setConn c { x with retryCount := x.retryCount + 1 }
      let e := (connSendConnect env e c).2
      connRefreshTimer env e c now
    else
      let e := connSetState env e c .error
      connCloseInternal env e c closeReasonTimeout
  else connRefreshTimer env e c now

/-- The case `CONNECTED` of `kcpmux_conn_update`. -/
def connUpdateConnected (e : Engine K) (c : ℕ) (now : ℤ) : Engine K :=
  let x := e.conns c
  if now ≥ deadlineAfter x.lastRecvTs x.config.keepaliveTimeoutMs then
    let e := connSetState env e c .error
    let e := { e with stats := { e.stats with
      connKeepaliveTimeoutTotal := e.stats.connKeepaliveTimeoutTotal + 1 } }
    connCloseInternal env e c closeReasonTimeout
  else if x.config.idleTimeoutMs > 0 ∧
      now ≥ deadlineAfter x.lastPayloadTs x.config.idleTimeoutMs then
    let e := connSetState env e c .closing
    let e := (connSendClose env e c closeReasonIdle).2
    let e := { e with stats := { e.stats with
      connIdleTimeoutTotal := e.stats.connIdleTimeoutTotal + 1 } }
    connCloseInternal env e c closeReasonIdle
  else
    let e :=
      if x.config.keepaliveIntervalMs > 0 ∧
          now ≥ deadlineAfter x.lastKeepaliveTs x.config.keepaliveIntervalMs then
        (connSendKeepalive env e c).2
      else e
    connRefreshTimer env e c now

/-- The case `CLOSING` of `kcpmux_conn_update`. -/
def connUpdateClosing (e : Engine K) (c : ℕ) (now : ℤ) : Engine K :=
  let x := e.conns c
  if now ≥ deadlineAfter x.lastCtrlTs x.config.ctrlTimeoutMs then
    if x.retryCount < x.config.closeRetries then
      let e := e.setConn c { x with retryCount := x.retryCount + 1 }
      let e := (connSendClose env e c x.closeReason).2
      if (e.conns c).retryCount = (e.conns c).config.closeRetries then
        connCloseInternal env e c (e.conns c).closeReason
      else connRefreshTimer env e c now
    else connCloseInternal env e c x.closeReason
  else connRefreshTimer env e c now

/-- `kcpmux_conn_update`. -/
def connUpdate (e : Engine K) (c : ℕ) (now : ℤ) : Engine K :=
  if (e.conns c).internalClosed then e
  else
    let late := match connCalculateDeadline (e.conns c) with
      | none => false
      | some deadlineMs => decide (deadlineMs ≤ now)
    if late = false then connRefreshTimer env e c now
    else
      match (e.conns c).state with
      | .connecting => connUpdateConnecting env e c now
      | .connected => connUpdateConnected env e c now
      | .closing => connUpdateClosing env e c now
      | .init | .closed | .error => connRefreshTimer env e c now

/-! ### The public functions -/

/-- `kcpmux_conn_connect`.  Only the first `KCPMUX_PROTO_EXT_MAX_LEN` bytes of the caller's
extension are kept. -/
def connConnect (e : Engine K) (peerAddr : Addr) (config : Option ConnConfig)
    (protoExt : Bytes) (callbacks : Option ConnCallbacks) : Option ℕ × Engine K :=
  let e := engineOperationEnter e
  let e := { e with stats := { e.stats with apiConnConnectCalls := e.stats.apiConnConnectCalls + 1 } }
  let r := connNew env e peerAddr config true
  let e := r.2
  match r.1 with
  | none => (none, engineOperationLeave env e)
  | some c =>
      let e := e.setConn c { e.conns c with
        callbacks := callbacks.getD (e.conns c).callbacks, selfProtoExt := .clip protoExt }
      let e := engineAddConn env e c
      let now := engineNow env e
      let e := e.tock.setConn c { e.conns c with lastCtrlTs := now }
      let e := e.assignConnState c .connecting
      let e := connRefreshTimer env e c now
      let e := (connSendConnect env e c).2
      (some c, engineOperationLeave env e)

/-- `kcpmux_conn_close`. -/
def connClose (e : Engine K) (c : ℕ) : Engine K :=
  let e := engineOperationEnter e
  let e := { e with stats := { e.stats with apiConnCloseCalls := e.stats.apiConnCloseCalls + 1 } }
  let x := e.conns c
  if x.internalClosed = true ∨ x.state = .closing ∨ x.state = .closed ∨ x.state = .error then
    engineOperationLeave env e
  else
    let now := engineNow env e
    let e := e.tock.setConn c { x with
      lastCtrlTs := now, closeReason := closeReasonNormal, retryCount := 0 }
    let e := connSetState env e c .closing
    let e := (connSendClose env e c closeReasonNormal).2
    let e :=
      if (e.conns c).config.closeRetries = 0 then connCloseInternal env e c closeReasonNormal
      else e
    engineOperationLeave env e

/-- `kcpmux_conn_set_config`. -/
def connSetConfig (e : Engine K) (c : ℕ) (config : ConnConfig) : Engine K :=
  if (e.conns c).internalClosed then e
  else
    match connConfigPrepare config with
    | none => e
    | some prepared =>
        let e := e.setConn c { e.conns c with config := prepared }
        connRefreshTimer env e.tock c (engineNow env e)

/-- `kcpmux_conn_set_callbacks`. -/
def connSetCallbacks (e : Engine K) (c : ℕ) (callbacks : Option ConnCallbacks) : Engine K :=
  if (e.conns c).internalClosed then e
  else e.setConn c { e.conns c with callbacks := callbacks.getD {} }

/-- A setter called from the acceptance callback. -/
def ConnSetter.apply (c : ℕ) (e : Engine K) : ConnSetter → Engine K
  | .config prepared => connSetConfig env e c prepared
  | .callbacks installed => connSetCallbacks e c installed

end KcpMux
