import KcpMux.Engine.Api

/-!
What can happen to one object.

`ConnTrans` and `StreamTrans` list every change of a live connection or stream that the
code makes in one piece: the record before and after, the log entries, newest first, and
what becomes of the object's timer node.  Each constructor states the guard under which the
code gets there.  Everything that holds in all runs is derived from these two lists and
from the few steps of `KcpMux.Steps.Act` that create and finalise objects.
-/

namespace KcpMux

variable {K : Type}

/-- `stream_create_notify` was called for the stream. -/
def Engine.NotifiedStream (e : Engine K) (s : ℕ) : Prop :=
  ∃ r, .streamCreateNotify s r ∈ e.trace

/-- The clock was read as `now` before tick `t`. -/
def Read (env : Env K) (t : ℕ) (now : ℤ) : Prop := ∃ k < t, env.monotonicTimeMs k = now

/-! ### Timer nodes -/

/-- What a step does to the timer node of its object. -/
inductive TimerMove where
  | keep
  | schedule (deadlineMs nowMs : ℤ)
  | cancel

/-- The move takes the manager `m` to `m'`.  A deadline in the past is moved up to now. -/
def TimerMove.Did (env : Env K) (m : TimerManager Owner) (o : Owner) :
    TimerMove → TimerManager Owner → Prop
  | .keep, m' => m' = m
  | .schedule d now, m' => ∃ k, m' = (timerSchedule m o (max d now) (env.alloc k)).2
  | .cancel, m' => m' = timerCancel m o

/-- The move of `kcpmux_conn_refresh_timer`. -/
def connMove (x : Conn) (now : ℤ) : TimerMove :=
  match connCalculateDeadline x with
  | none => .cancel
  | some d => .schedule d now

/-- The deadline `kcpmux_stream_refresh_timer` comes to, where `r` is what the KCP instance
answers to `check`. -/
def refreshDeadline (conn : Conn) (x : Stream K) (now r : ℤ) : Option ℤ :=
  if conn.internalClosed = true ∨ conn.state ≠ .connected then none
  else
    match x.state with
    | .opened => some r
    | .closing =>
        match x.closePhase with
        | .localDrain => some (min r (deadlineAfter x.drainStartedTs x.config.drainTimeoutMs))
        | .waitAck => some (deadlineAfter x.lastCtrlTs x.config.ctrlTimeoutMs)
        | .remoteDrain => some (deadlineAfter x.drainStartedTs x.config.drainTimeoutMs)
        | .finalize => some now
        | .none => none
    | .closed | .error => none

/-- The move of `kcpmux_stream_refresh_timer`. -/
def refreshMove (conn : Conn) (x : Stream K) (now r : ℤ) : TimerMove :=
  match refreshDeadline conn x now r with
  | none => .cancel
  | some d => .schedule d now

/-- The log of `kcpmux_stream_refresh_timer`: it asks the KCP instance while that is being
driven. -/
def refreshEvents (s : ℕ) (conn : Conn) (x : Stream K) (now r : ℤ) : List Event :=
  if conn.internalClosed = false ∧ conn.state = .connected ∧ streamKcpActive x = true then
    [.kcp s (.check now r)]
  else []

/-! ### Datagrams -/

/-- A well-formed `CONN_CONNECT` from the id `id`. -/
structure ConnectDatagram (d : Bytes) (id : UInt64) (ext : Bytes) : Prop where
  type : Buf.of d 0 = msgConnConnect
  source : readU64 (Buf.of d) protoCommonLen = id
  source_ne : id ≠ 0
  version : Buf.of d (protoCommonLen + 8) = KcpMux.version
  ext_eq : ext = (Buf.of d).slice protoConnectLen (readU16 (Buf.of d) (protoCommonLen + 9)).toNat
  ext_le : (readU16 (Buf.of d) (protoCommonLen + 9)).toNat ≤ protoExtMaxLen
  len : protoConnectLen + (readU16 (Buf.of d) (protoCommonLen + 9)).toNat ≤ d.length

/-- A well-formed `CONN_CONNECT_ACK` that accepts: from the id `id` to the id `dest`. -/
structure AckDatagram (d : Bytes) (dest id : UInt64) (ext : Bytes) : Prop where
  type : Buf.of d 0 = msgConnConnectAck
  dest_eq : readU64 (Buf.of d) 1 = dest
  source : readU64 (Buf.of d) protoCommonLen = id
  source_ne : id ≠ 0
  version : Buf.of d (protoCommonLen + 8) = KcpMux.version
  result : Buf.of d (protoCommonLen + 9) = UInt8.ofInt ackResultOk
  ext_eq : ext =
    (Buf.of d).slice protoConnectAckLen (readU16 (Buf.of d) (protoCommonLen + 10)).toNat
  ext_le : (readU16 (Buf.of d) (protoCommonLen + 10)).toNat ≤ protoExtMaxLen
  len : protoConnectAckLen + (readU16 (Buf.of d) (protoCommonLen + 10)).toNat ≤ d.length

/-- A well-formed `CONN_CLOSE` to the id `dest`. -/
structure ConnCloseDatagram (d : Bytes) (dest : UInt64) : Prop where
  type : Buf.of d 0 = msgConnClose
  dest_eq : readU64 (Buf.of d) 1 = dest
  len : protoConnCloseLen ≤ d.length

/-- A `STREAM_PAYLOAD` to the id `dest`. -/
structure PayloadDatagram (d : Bytes) (dest : UInt64) (streamId : UInt32) (payload : Bytes) :
    Prop where
  type : Buf.of d 0 = msgStreamPayload
  dest_eq : readU64 (Buf.of d) 1 = dest
  stream : readU32 (Buf.of d) protoCommonLen = streamId
  len : protoStreamHeaderLen ≤ d.length
  payload_eq : payload =
    (Buf.of d).slice protoStreamHeaderLen (d.length - protoStreamHeaderLen)

/-! ### Connections -/

/-- The log of an assignment to `state` with its callback. -/
def connStateEvents (c : ℕ) (x : Conn) (newState : ConnState) : List Event :=
  if x.callbacks.connStateChanged then
    [.connStateChanged c x.state newState, .connState c x.state newState]
  else [.connState c x.state newState]

/-- The retry counter of a control message that is sent again, or for the first time. -/
def Retried (limit n n' : UInt32) : Prop := n' = n ∨ (n < limit ∧ n' = n + 1)

/-- What a call `op` can do to a live connection in one piece.  The last index is the time
at which the timer node is refreshed for the new record, if it is. -/
inductive ConnTrans (env : Env K) (op : Call) (t c : ℕ) :
    Conn → Conn → List Event → Option ℤ → Prop
  | receive {x : Conn} {now : ℤ} {d : Bytes} (isPayload : Bool) (hnow : Read env t now)
      (hop : op = .input d x.peerAddr) :
      ConnTrans env op t c x
        { x with
          lastRecvTs := if now > x.lastRecvTs then now else x.lastRecvTs
          lastPayloadTs :=
            if isPayload = true ∧ now > x.lastPayloadTs then now else x.lastPayloadTs }
        [] (some now)
  | connecting {x : Conn} {now : ℤ} (hnow : Read env t now) (hi : x.isInitiator = true)
      (hs : x.state = .init) :
      ConnTrans env op t c x { x with lastCtrlTs := now, state := .connecting }
        [.connState c .init .connecting] (some now)
  | sendConnect {x : Conn} {now : ℤ} {n : UInt32} {ok : Bool} (hnow : Read env t now)
      (hs : x.state = .connecting) (hn : Retried x.config.connectRetries x.retryCount n) :
      ConnTrans env op t c x { x with retryCount := n, lastCtrlTs := now }
        [.write (.conn c) x.peerAddr (connConnectMsg x) ok] (some now)
  | established {x : Conn} {now : ℤ} {d : Bytes} {id : UInt64} {ext : Bytes}
      (hnow : Read env t now) (hs : x.state = .connecting) (hop : op = .input d x.peerAddr)
      (hd : AckDatagram d x.localConnectionId id ext) :
      ConnTrans env op t c x
        { x with
          peerConnectionId := id
          peerProtoExt := if ext = [] then x.peerProtoExt else .clip ext
          state := .connected }
        (connStateEvents c x .connected) (some now)
  | accept {x : Conn} {ext : ProtoExt} {now : ℤ} {ok : Bool} (hnow : Read env t now)
      (hi : x.isInitiator = false) (hs : x.state = .init) :
      ConnTrans env op t c x { x with selfProtoExt := ext, state := .connected }
        (.write (.conn c) x.peerAddr
            (connConnectAckMsg { x with selfProtoExt := ext } (UInt8.ofInt ackResultOk)) ok ::
          (connStateEvents c x .connected ++ [.connConnectNotify c ackResultOk])) (some now)
  | ack {x : Conn} {result : UInt8} {ok : Bool} (hi : x.isInitiator = false)
      (hs : x.state ≠ .init)
      (hr : result = UInt8.ofInt ackResultOk ∧ x.state = .connected ∨
        result = UInt8.ofInt ackResultVersion) :
      ConnTrans env op t c x x
        [.write (.conn c) x.peerAddr (connConnectAckMsg x result) ok] none
  | close {x : Conn} {now now' : ℤ} (hnow : Read env t now) (hnow' : Read env t now')
      (hs : x.state = .connecting ∨ x.state = .connected) :
      ConnTrans env op t c x
        { x with
          lastCtrlTs := now, closeReason := closeReasonNormal, retryCount := 0
          state := .closing }
        (connStateEvents c x .closing) (some now')
  | idle {x : Conn} {now : ℤ} (hnow : Read env t now) (hs : x.state = .connected) :
      ConnTrans env op t c x { x with state := .closing } (connStateEvents c x .closing)
        (some now)
  | fail {x : Conn} {now : ℤ} (hnow : Read env t now)
      (hs : x.state = .connecting ∨ x.state = .connected) :
      ConnTrans env op t c x { x with state := .error } [.connState c x.state .error] (some now)
  | sendClose {x : Conn} {now : ℤ} {n : UInt32} {reason : UInt8} {ok : Bool}
      (hnow : Read env t now) (hs : x.state = .closing)
      (hn : Retried x.config.closeRetries x.retryCount n) :
      ConnTrans env op t c x { x with retryCount := n, lastCtrlTs := now }
        (if x.peerConnectionId = 0 then []
          else [.write (.conn c) x.peerAddr (connCloseMsg msgConnClose x reason) ok])
        (some now)
  | keepalive {x : Conn} {now : ℤ} {time : UInt32} {ok : Bool} (hnow : Read env t now)
      (hs : x.state = .connected) :
      ConnTrans env op t c x
        { x with lastKeepaliveTs := now, keepaliveSeq := x.keepaliveSeq + 1 }
        [.write (.conn c) x.peerAddr
          (connKeepaliveMsg { x with keepaliveSeq := x.keepaliveSeq + 1 } time) ok] (some now)
  | closeAck {x : Conn} {d : Bytes} {reason : UInt8} {ok : Bool} (hop : op = .input d x.peerAddr)
      (hs : x.state ≠ .init) (hd : ConnCloseDatagram d x.localConnectionId) :
      ConnTrans env op t c x x
        [.write (.conn c) x.peerAddr (connCloseMsg msgConnCloseAck x reason) ok] none
  | refresh {x : Conn} {now : ℤ} (hnow : Read env t now) : ConnTrans env op t c x x [] (some now)
  | config {x : Conn} {config prepared : ConnConfig} {now : ℤ} (hnow : Read env t now)
      (h : connConfigPrepare config = some prepared) :
      ConnTrans env op t c x { x with config := prepared } [] (some now)
  | callbacks {x : Conn} {callbacks : ConnCallbacks}
      (h : (∃ y, op = .connSetCallbacks c y) ∨ x.state = .init) :
      ConnTrans env op t c x { x with callbacks := callbacks } [] none
  | nextId {x : Conn} {id : UInt32} (hop : ∃ config callbacks, op = .streamCreate c config callbacks)
      (h : id = if x.nextStreamId = 0 then (if x.isInitiator then 1 else 2) else x.nextStreamId) :
      ConnTrans env op t c x { x with nextStreamId := id + 2 } [] none

/-- The last change of a connection that is finalised with it: `conn_connect_notify` refused
it with `r`, or accepted it with an extension that is too long. -/
inductive ConnLast (c : ℕ) : Conn → Conn → List Event → Prop
  | reject {x : Conn} {r : ℤ} {ok : Bool} {evs : List Event} (hi : x.isInitiator = false)
      (hs : x.state = .init) (hr : r ≠ ackResultOk)
      (hev : evs = [.connConnectNotify c r] ∨ (r = ackResultError ∧
        (evs = [] ∨ evs = [.connConnectNotify c ackResultOk]))) :
      ConnLast c x { x with callbacks := {}, selfProtoExt := .empty }
        (.write (.conn c) x.peerAddr
          (connConnectAckMsg { x with selfProtoExt := .empty } (UInt8.ofInt r)) ok :: evs)

/-! ### Streams -/

/-- A KCP operation takes the instance `k` to `k'` and outputs the datagrams `out`. -/
inductive KcpStep (env : Env K) (k : K) : KcpCall → K → List Bytes → Prop
  | send (t : ℕ) (b : Bytes) :
      KcpStep env k (.send b (env.kcp.send t k b).ret) (env.kcp.send t k b).kcp
        (env.kcp.send t k b).output
  | sendv {f : ℕ → K → List Bytes → ℕ → ℕ → KcpOut K} (h : env.kcp.sendv = some f) (t : ℕ)
      (iov : List Bytes) (off len : ℕ) :
      KcpStep env k (.sendv iov off len (f t k iov off len).ret) (f t k iov off len).kcp
        (f t k iov off len).output
  | input (t : ℕ) (b : Bytes) :
      KcpStep env k (.input b (env.kcp.input t k b).ret) (env.kcp.input t k b).kcp
        (env.kcp.input t k b).output
  | recv (t : ℕ) (len : ℤ) :
      KcpStep env k (.recv len (env.kcp.recv t k len).ret) (env.kcp.recv t k len).kcp
        (env.kcp.recv t k len).output
  | update (t : ℕ) (now : ℤ) :
      KcpStep env k (.update now) (env.kcp.update t k now).kcp (env.kcp.update t k now).output
  | currentUpdate (t : ℕ) (now : ℤ) :
      KcpStep env k (.currentUpdate now) (env.kcp.currentUpdate t k now).kcp
        (env.kcp.currentUpdate t k now).output

/-- The instance `kcpmux_stream_new` sets up for a stream. -/
def KcpNew (env : Env K) (id : UInt32) (config : StreamConfig) (kcp : K) : Prop :=
  ∃ t k, env.kcp.create t id = some k ∧ kcp = env.kcp.setmss (t + 1) k config.kcpMss

/-- The instances of a stream with the id `id`: a new one, and what operations make of it. -/
inductive KcpRan (env : Env K) (id : UInt32) : K → Prop
  | new {config prepared : StreamConfig} {k : K} (hc : streamConfigPrepare config = some prepared)
      (h : KcpNew env id prepared k) : KcpRan env id k
  | step {k k' : K} {call : KcpCall} {out : List Bytes} (h : KcpRan env id k)
      (hs : KcpStep env k call k' out) : KcpRan env id k'

/-- The instance of the stream, if it has one, has come about by operations. -/
def Stream.Ran (env : Env K) (x : Stream K) : Prop :=
  ∀ k, x.kcp = some k → KcpRan env x.streamId k

/-- A query of the instance `k`. -/
inductive KcpQuery (env : Env K) (k : K) : KcpCall → Prop
  | peeksize (t : ℕ) : KcpQuery env k (.peeksize (env.kcp.peeksize t k))
  | waitsnd (t : ℕ) : KcpQuery env k (.waitsnd (env.kcp.waitsnd t k))
  | check (t : ℕ) (now : ℤ) : KcpQuery env k (.check now (env.kcp.check t k now))

/-- The call is a send on the stream. -/
def Call.SendsOn (op : Call) (s : ℕ) : Prop :=
  (∃ b flush, op = .streamSend s b flush) ∨ ∃ iov flush, op = .streamSendv s iov flush

/-- The calls that take the work of the stream in hand: its timer callback, a send and a close. -/
def Call.Drives (op : Call) (s : ℕ) : Prop := op = .update ∨ op.SendsOn s ∨ op = .streamClose s

/-- When the code makes a call that advances the instance. -/
def KcpAllowed (op : Call) (s : ℕ) (conn : Conn) (x : Stream K) : KcpCall → Prop
  | .send _ _ | .sendv _ _ _ _ =>
      x.state = .opened ∧ conn.state = .connected ∧
        ((∃ b flush, op = .streamSend s b flush) ∨ ∃ iov flush, op = .streamSendv s iov flush)
  | .input b _ => streamKcpActive x = true ∧ ∃ d, op = .input d conn.peerAddr ∧
      PayloadDatagram d conn.localConnectionId x.streamId b
  | .recv _ _ => (x.state = .opened ∨ (x.state = .closing ∧ x.closePhase = .remoteDrain)) ∧
      ∃ n, op = .streamRecv s n
  | _ => streamKcpActive x = true

/-- The changes of the flow-control fields and counters. -/
inductive Flow (env : Env K) (op : Call) (t s : ℕ) (conn : Conn) :
    Stream K → Stream K → List Event → Prop
  | blockWrite {x : Stream K} {now : ℤ} (hnow : Read env t now) (h : x.writeBlocked = false)
      (hs : x.state = .opened) (hop : op.SendsOn s) :
      Flow env op t s conn x (x.blockWrite now) []
  | unblockWrite {x : Stream K} {now : ℤ} (hnow : Read env t now) (h : x.writeBlocked = true)
      (hs : x.state = .opened) (hop : op = .update) :
      Flow env op t s conn x (x.unblockWrite now)
        (if x.callbacks.streamWriteNotify then [.streamWriteNotify s] else [])
  | blockRead {x : Stream K} {now : ℤ} (hnow : Read env t now) (h : x.readBlocked = false)
      (hop : ∃ n, op = .streamRecv s n) :
      Flow env op t s conn x (x.blockRead now) []
  | unblockRead {x : Stream K} {now : ℤ} (hnow : Read env t now) (h : x.readBlocked = true)
      (hs : x.state = .opened)
      (hop : ∃ d b, op = .input d conn.peerAddr ∧
        PayloadDatagram d conn.localConnectionId x.streamId b) :
      Flow env op t s conn x (x.unblockRead now)
        (if x.callbacks.streamReadNotify then [.streamReadNotify s] else [])
  | sent {x : Stream K} (n : ℕ) (hs : x.state = .opened) :
      Flow env op t s conn x { x with stats := { x.stats with upSentBytes := x.stats.upSentBytes + n } } []
  | taken {x : Stream K} (n : ℕ) :
      Flow env op t s conn x { x with stats := { x.stats with upRecvBytes := x.stats.upRecvBytes + n } } []
  | received {x : Stream K} (n : ℕ) :
      Flow env op t s conn x { x with stats := { x.stats with
        rxPackets := x.stats.rxPackets + 1, rxBytes := x.stats.rxBytes + n } } []

/-- What a step does to `pending_batch_streams`. -/
inductive PendMove where
  | keep
  | append
  | erase

/-- The list after the move. -/
def PendMove.apply (s : ℕ) : PendMove → List ℕ → List ℕ
  | .keep, l => l
  | .append, l => l ++ [s]
  | .erase, l => l.erase s

/-- The log of a change to `CLOSING` with its callback, which comes after the phase was
assigned and the timer refreshed. -/
def streamCloseEvents (s : ℕ) (x : Stream K) (phase : ClosePhase) (refresh : List Event) :
    List Event :=
  (if x.callbacks.streamStateChanged then [.streamStateChanged s x.state .closing] else []) ++
    refresh ++ [.closePhase s x.closePhase phase]

/-- A `STREAM_CLOSE` or its acknowledgement. -/
def streamCloseWrite (s : ℕ) (conn : Conn) (x : Stream K) (type reason : UInt8) (ok : Bool) :
    Event :=
  .write (.stream s) conn.peerAddr (streamCloseMsg type conn x.streamId reason) ok

/-- What a call `op` can do to a live stream of `conn` in one piece, except for its
finalisation. -/
inductive StreamTrans (env : Env K) (op : Call) (e : Engine K) (t s : ℕ) (conn : Conn) :
    Stream K → Stream K → List Event → TimerMove → PendMove → Prop
  | emit {x : Stream K} {k k' : K} {call : KcpCall} {out : List Bytes} {b : Bytes}
      (hr : KcpRan env x.streamId k) (hk : x.kcp = some k') (h : KcpStep env k call k' out)
      (hm : b ∈ out) :
      StreamTrans env op e t s conn x x [.kcpOutput s b] .keep .keep
  | output {x : Stream K} {k k' : K} {call : KcpCall} {out : List Bytes} {b : Bytes} {ok : Bool}
      (hk : x.kcp = some k') (h : KcpStep env k call k' out) (hm : b ∈ out)
      (ha : streamKcpActive x = true) (hc : conn.state = .connected) (hb : b ≠ [])
      (hlen : protoStreamHeaderLen + b.length ≤ protoMsgMaxLen)
      (hout : .kcpOutput s b ∈ e.trace) :
      StreamTrans env op e t s conn x
        (if ok then { x with stats := { x.stats with
          txPackets := x.stats.txPackets + 1, txBytes := x.stats.txBytes + b.length } } else x)
        [.write (.stream s) conn.peerAddr
          (streamHeader msgStreamPayload conn x.streamId ++ b) ok] .keep .keep
  | call {x : Stream K} {k k' : K} {call : KcpCall} {out : List Bytes} (hk : x.kcp = some k)
      (h : KcpStep env k call k' out) (ha : KcpAllowed op s conn x call) :
      StreamTrans env op e t s conn x { x with kcp := some k' } [.kcp s call] .keep .keep
  | query {x : Stream K} {k : K} {call : KcpCall} (hk : x.kcp = some k)
      (h : KcpQuery env k call) : StreamTrans env op e t s conn x x [.kcp s call] .keep .keep
  | flow {x x' : Stream K} {evs : List Event} (h : Flow env op t s conn x x' evs) :
      StreamTrans env op e t s conn x x' evs .keep .keep
  | clear {x : Stream K} (hop : op.Drives s) :
      StreamTrans env op e t s conn x { x with pendingCount := 0 } [] .keep .erase
  | bump {x : Stream K} (ha : streamKcpActive x = true) (h1 : 1 < x.config.batchThreshold)
      (h2 : x.pendingCount < x.config.batchThreshold)
      (h3 : x.pendingCount + 1 ≠ x.config.batchThreshold) :
      StreamTrans env op e t s conn x { x with pendingCount := x.pendingCount + 1 } [] .keep
        (if x.pendingCount = 0 then .append else .keep)
  | fill {x : Stream K} {now : ℤ} (hnow : Read env t now) (ha : streamKcpActive x = true)
      (h1 : 1 < x.config.batchThreshold) (h3 : x.pendingCount + 1 = x.config.batchThreshold) :
      StreamTrans env op e t s conn x { x with pendingCount := x.pendingCount + 1 } []
        (.schedule now now) .erase
  | finish {x : Stream K} {now : ℤ} (hnow : Read env t now) (hs : x.state = .opened)
      (hc : conn.state = .connected) (hp : x.pendingCount ≠ 0) :
      StreamTrans env op e t s conn x
        { x with pendingCount :=
          if x.config.batchThreshold > 1 then x.config.batchThreshold else 0 } []
        (.schedule now now) .erase
  | wake {x : Stream K} {now : ℤ} (hnow : Read env t now) (ha : streamKcpActive x = true) :
      StreamTrans env op e t s conn x x [] (.schedule now now) .keep
  | poll {x : Stream K} {now r : ℤ} (hnow : Read env t now) (hs : x.state = .opened)
      (hp : x.pendingCount = 0) (hop : op.Drives s) :
      StreamTrans env op e t s conn x x [] (.schedule r now) .keep
  | refresh {x : Stream K} {now r : ℤ} (hnow : Read env t now) (hs : x.state = .closing)
      (hop : op.Drives s) :
      StreamTrans env op e t s conn x x (refreshEvents s conn x now r) (refreshMove conn x now r)
        .keep
  | config {x : Stream K} {config prepared : StreamConfig} {now r : ℤ} (hnow : Read env t now)
      (h : streamConfigPrepare config = some prepared)
      (hop : (∃ y, op = .streamSetConfig s y) ∨ (x.isInitiator = false ∧ ¬ e.NotifiedStream s)) :
      StreamTrans env op e t s conn x
        { x with config := { prepared with kcpMss := x.config.kcpMss }, pendingCount := 0 }
        (refreshEvents s conn x now r)
        (refreshMove conn { x with config := { prepared with kcpMss := x.config.kcpMss } } now r)
        .erase
  | callbacks {x : Stream K} {callbacks : StreamCallbacks} (h : ¬ e.RejectedStream s) :
      StreamTrans env op e t s conn x { x with callbacks := callbacks } [] .keep .keep
  | startClose {x : Stream K} {now now' r : ℤ} (hnow : Read env t now) (hnow' : Read env t now')
      (hs : x.state = .opened) (hop : op = .streamClose s) :
      StreamTrans env op e t s conn x
        { x with
          lastCtrlTs := now, drainStartedTs := now, closeReason := closeReasonNormal
          retryCount := 0, closePhase := .localDrain, state := .closing }
        (streamCloseEvents s x .localDrain (refreshEvents s conn
          { x with closePhase := .localDrain, state := .closing } now' r))
        (refreshMove conn
          { x with drainStartedTs := now, closePhase := .localDrain, state := .closing } now' r)
        .keep
  | waitAck {x : Stream K} {now : ℤ} {ok : Bool} {old : List Event} (hnow : Read env t now)
      (hs : x.state = .closing) (hp : x.closePhase = .localDrain)
      (hw : e.trace = .kcp s (.waitsnd 0) :: old) :
      StreamTrans env op e t s conn x
        { x with closePhase := .waitAck, retryCount := 0, lastCtrlTs := now }
        [streamCloseWrite s conn x msgStreamClose closeReasonNormal ok,
          .closePhase s .localDrain .waitAck]
        (refreshMove conn { x with closePhase := .waitAck, lastCtrlTs := now } now 0) .keep
  | accept {x : Stream K} (hi : x.isInitiator = false) (hs : x.state = .opened)
      (hfirst : ¬ e.NotifiedStream s) :
      StreamTrans env op e t s conn x x [.streamCreateNotify s 0] .keep .keep
  | reject {x : Stream K} {now now' r : ℤ} (hnow : Read env t now) (hnow' : Read env t now')
      (hi : x.isInitiator = false) (hs : x.state = .opened) (hr : r ≠ 0)
      (hfirst : ¬ e.NotifiedStream s) :
      StreamTrans env op e t s conn x
        { x with
          callbacks := {}, closeReason := closeReasonRejected, retryCount := 0
          lastCtrlTs := now, closePhase := .waitAck, state := .closing }
        [.closePhase s x.closePhase .waitAck, .streamCreateNotify s r]
        (refreshMove conn { x with lastCtrlTs := now, closePhase := .waitAck, state := .closing }
          now' 0) .keep
  | resend {x : Stream K} {now : ℤ} {n : UInt32} {ok : Bool} (hnow : Read env t now)
      (hs : x.state = .closing) (hp : x.closePhase = .waitAck)
      (hn : Retried x.config.closeRetries x.retryCount n) :
      StreamTrans env op e t s conn x { x with retryCount := n, lastCtrlTs := now }
        [streamCloseWrite s conn x msgStreamClose x.closeReason ok]
        (refreshMove conn { x with lastCtrlTs := now } now 0) .keep
  | closeAck {x : Stream K} {reason : UInt8} {ok : Bool} :
      StreamTrans env op e t s conn x x [streamCloseWrite s conn x msgStreamCloseAck reason ok]
        .keep .keep
  | remoteClose {x : Stream K} {now now' : ℤ} (hnow : Read env t now) (hnow' : Read env t now')
      (hs : x.state = .opened) :
      StreamTrans env op e t s conn x
        { x with
          closeReason := closeReasonNormal, drainStartedTs := now, closePhase := .remoteDrain
          state := .closing }
        (streamCloseEvents s x .remoteDrain [])
        (refreshMove conn
          { x with drainStartedTs := now, closePhase := .remoteDrain, state := .closing } now' 0)
        .keep
  | finalizeSoon {x : Stream K} {now : ℤ} {reason : UInt8} (hnow : Read env t now)
      (hs : x.state = .closing)
      (hp : x.closePhase = .localDrain ∨ x.closePhase = .waitAck ∨ x.closePhase = .remoteDrain) :
      StreamTrans env op e t s conn x
        { x with closeReason := reason, closePhase := .finalize, pendingCount := 0 }
        [.closePhase s x.closePhase .finalize] (.schedule now now) .erase

/-- The last change of a stream that is finalised with it: a local drain that ran out of
time, or a first payload that could not be delivered. -/
inductive StreamLast (env : Env K) (t s : ℕ) (conn : Conn) :
    Stream K → Stream K → List Event → TimerMove → Prop
  | drainExpired {x : Stream K} {now r : ℤ} {ok : Bool} (hnow : Read env t now)
      (hs : x.state = .closing) (hp : x.closePhase = .localDrain) :
      StreamLast env t s conn x { x with closeReason := closeReasonTimeout, lastCtrlTs := now }
        (refreshEvents s conn x now r ++
          [streamCloseWrite s conn x msgStreamClose closeReasonTimeout ok])
        (refreshMove conn x now r)
  | fail {x : Stream K} (hs : x.state = .opened) :
      StreamLast env t s conn x { x with state := .error } [] .cancel

end KcpMux
