import KcpMux.Hashtable
import KcpMux.Timer.Manager

/-!
The state of an engine and the host around it (`src/kcpmux_engine.h`,
`src/kcpmux_conn.h`, `src/kcpmux_stream.h`, `include/kcpmux/kcpmux_kcp.h`).

Objects live in memories indexed by natural numbers, their handles.  A handle is never
reused: a released object leaves its last record behind, so that a statement can speak of
it.  A callback structure is the record of which callbacks are installed.

`Env` is the host: the clock, the socket, the random source, the allocator, the decisions
of the two acceptance callbacks, and the KCP implementation.  Every answer is a function of
`tick`, the number of host interactions so far, so a statement about every `Env` covers
every host, also one that reacts to what it has seen.  `trace` is the log of what the
engine did to the host, newest first.
-/

namespace KcpMux

/-- The object behind a timer node or a release item. -/
inductive Owner where
  | conn (c : ℕ)
  | stream (s : ℕ)
  deriving DecidableEq, Repr

instance : Inhabited Owner := ⟨.conn 0⟩

/-- `kcpmux_conn_callbacks_t`: which callbacks are installed. -/
structure ConnCallbacks where
  connStateChanged : Bool := false
  connCloseNotify : Bool := false
  streamCreateNotify : Bool := false
  deriving DecidableEq, Repr

/-- `kcpmux_stream_callbacks_t`: which callbacks are installed. -/
structure StreamCallbacks where
  streamStateChanged : Bool := false
  streamReadNotify : Bool := false
  streamWriteNotify : Bool := false
  streamCloseNotify : Bool := false
  deriving DecidableEq, Repr

/-! ### The KCP interface -/

/-- What a KCP operation that may advance the instance leaves: its result, the instance,
the bytes it received, and the datagrams it passed to the output callback. -/
structure KcpOut (K : Type) where
  ret : ℤ
  kcp : K
  data : Bytes := []
  output : List Bytes := []

/-- `kcpmux_kcp_ops_t` over instances `K`.  The queries return a number and touch
nothing. -/
structure KcpOps (K : Type) where
  create : ℕ → UInt32 → Option K
  setmss : ℕ → K → UInt16 → K
  send : ℕ → K → Bytes → KcpOut K
  input : ℕ → K → Bytes → KcpOut K
  recv : ℕ → K → ℤ → KcpOut K
  peeksize : ℕ → K → ℤ
  waitsnd : ℕ → K → ℤ
  update : ℕ → K → ℤ → KcpOut K
  check : ℕ → K → ℤ → ℤ
  currentUpdate : ℕ → K → ℤ → KcpOut K
  sendv : Option (ℕ → K → List Bytes → ℕ → ℕ → KcpOut K)

/-- A call of a KCP operation, with its result. -/
inductive KcpCall where
  | create
  | setmss (mss : UInt16)
  | setoutput
  | send (buf : Bytes) (ret : ℤ)
  | sendv (iov : List Bytes) (firstOffset len : ℕ) (ret : ℤ)
  | input (data : Bytes) (ret : ℤ)
  | recv (len : ℤ) (ret : ℤ)
  | peeksize (ret : ℤ)
  | waitsnd (ret : ℤ)
  | update (current : ℤ)
  | check (current : ℤ) (ret : ℤ)
  | currentUpdate (current : ℤ)
  | release
  deriving DecidableEq, Repr

/-! ### The host -/

/-- A setter an acceptance callback may call on the connection it is asked about. -/
inductive ConnSetter where
  | config (config : ConnConfig)
  | callbacks (callbacks : Option ConnCallbacks)

/-- A setter an acceptance callback may call on the stream it is asked about. -/
inductive StreamSetter where
  | config (config : StreamConfig)
  | callbacks (callbacks : Option StreamCallbacks)

/-- What `conn_connect_notify` does: the setters it calls, the result it returns, and the
response extension it leaves, whose length is the `len` it wrote. -/
structure ConnectReply where
  setters : List ConnSetter := []
  result : ℤ
  respProtoExt : Bytes := []

/-- What `stream_create_notify` does. -/
structure CreateReply where
  setters : List StreamSetter := []
  result : ℤ

/-- The host of an engine. -/
structure Env (K : Type) where
  hash32 : Bytes → UInt32
  monotonicTimeMs : ℕ → ℤ
  randomU64 : ℕ → UInt64
  writeSocketv : ℕ → Bool
  alloc : ℕ → Bool
  connConnectNotify : Option (ℕ → ConnectReply)
  streamCreateNotify : ℕ → CreateReply
  kcp : KcpOps K

/-- The log.  `connState` and `closePhase` record the assignments to these two fields;
`kcpOutput` is what the KCP instance of a stream passes to `__kcp_output`; every other entry is a
call into the host, logged when it returns, or a release.  A `write` names the object that
sends. -/
inductive Event where
  | update (nowMs : ℤ)
  | setTimer (nowMs : ℤ) (wakeAfterMs : UInt64)
  | write (o : Owner) (addr : Addr) (datagram : Bytes) (ok : Bool)
  | connConnectNotify (c : ℕ) (result : ℤ)
  | connStateChanged (c : ℕ) (oldState newState : ConnState)
  | connCloseNotify (c : ℕ) (reason : UInt8)
  | streamCreateNotify (s : ℕ) (result : ℤ)
  | streamStateChanged (s : ℕ) (oldState newState : StreamState)
  | streamReadNotify (s : ℕ)
  | streamWriteNotify (s : ℕ)
  | streamCloseNotify (s : ℕ) (reason : UInt8)
  | kcp (s : ℕ) (call : KcpCall)
  | kcpOutput (s : ℕ) (buf : Bytes)
  | release (o : Owner)
  | connState (c : ℕ) (oldState newState : ConnState)
  | closePhase (s : ℕ) (oldPhase newPhase : ClosePhase)
  deriving DecidableEq, Repr

/-! ### Objects -/

/-- `struct kcpmux_conn_s`.  Its traffic counters are `Engine.connStats`. -/
structure Conn where
  state : ConnState
  isInitiator : Bool
  internalClosed : Bool
  inEngineMap : Bool
  peerStreamIdInitialized : Bool
  localConnectionId : UInt64
  peerConnectionId : UInt64
  config : ConnConfig
  callbacks : ConnCallbacks
  peerProtoExt : ProtoExt
  selfProtoExt : ProtoExt
  peerAddr : Addr
  streamMap : Htb ℕ
  streamCount : ℕ
  nextStreamId : UInt32
  latestPeerStreamId : UInt32
  lastRecvTs : ℤ
  lastKeepaliveTs : ℤ
  keepaliveSeq : UInt32
  createdTs : ℤ
  lastPayloadTs : ℤ
  lastCtrlTs : ℤ
  retryCount : UInt32
  closeReason : UInt8

/-- A connection in zeroed memory. -/
instance : Inhabited Conn where
  default :=
    { state := .init, isInitiator := false, internalClosed := false, inEngineMap := false
      peerStreamIdInitialized := false, localConnectionId := 0, peerConnectionId := 0
      config := ⟨0, 0, 0, 0, 0, 0⟩, callbacks := {}, peerProtoExt := .empty
      selfProtoExt := .empty, peerAddr := [], streamMap := ⟨fun _ => [], 0, 0⟩
      streamCount := 0, nextStreamId := 0, latestPeerStreamId := 0, lastRecvTs := 0
      lastKeepaliveTs := 0, keepaliveSeq := 0, createdTs := 0, lastPayloadTs := 0
      lastCtrlTs := 0, retryCount := 0, closeReason := 0 }

/-- `struct kcpmux_stream_s`. -/
structure Stream (K : Type) where
  streamId : UInt32
  state : StreamState
  isInitiator : Bool
  internalClosed : Bool
  inStreamMap : Bool
  conn : ℕ
  config : StreamConfig
  callbacks : StreamCallbacks
  kcp : Option K
  lastCtrlTs : ℤ
  retryCount : UInt32
  closeReason : UInt8
  closePhase : ClosePhase
  drainStartedTs : ℤ
  readBlocked : Bool
  writeBlocked : Bool
  pendingCount : UInt32
  readBlockStartTs : ℤ
  writeBlockStartTs : ℤ
  stats : StreamStats

/-- A stream in zeroed memory. -/
instance {K : Type} : Inhabited (Stream K) where
  default :=
    { streamId := 0, state := .opened, isInitiator := false, internalClosed := false
      inStreamMap := false, conn := 0, config := ⟨0, 0, 0, 0, 0, 0, 0⟩, callbacks := {}
      kcp := none, lastCtrlTs := 0, retryCount := 0, closeReason := 0, closePhase := .none
      drainStartedTs := 0, readBlocked := false, writeBlocked := false, pendingCount := 0
      readBlockStartTs := 0, writeBlockStartTs := 0, stats := {} }

/-- `struct kcpmux_engine_s`, with the memory of its objects, the number of host
interactions so far, and the log.  `conn_count` is a `uint32_t` in the source, which agrees with
the natural number here below `2 ^ 32` live connections. -/
structure Engine (K : Type) where
  defaultConnConfig : ConnConfig
  defaultStreamConfig : StreamConfig
  connMap : Htb ℕ
  handshakeMap : Htb ℕ
  nextConnectionId : UInt64
  connCount : ℕ
  stats : EngineStats
  timerManager : TimerManager Owner
  timerNodeCount : ℕ
  externalTimerArmed : Bool
  externalTimerDeadlineMs : ℤ
  timerDispatchCount : ℕ
  destroying : Bool
  pendingBatchStreams : List ℕ
  operationDepth : ℕ
  pendingReleaseList : List Owner
  conns : ℕ → Conn
  connStats : ℕ → ConnStats
  streams : ℕ → Stream K
  nconns : ℕ
  nstreams : ℕ
  tick : ℕ
  trace : List Event

variable {K : Type}

namespace Engine

/-- One host interaction has taken place. -/
def tock (e : Engine K) : Engine K := { e with tick := e.tick + 1 }

/-- One more entry in the log. -/
def log (e : Engine K) (ev : Event) : Engine K := { e with trace := ev :: e.trace }

/-- Rewrites one connection. -/
def setConn (e : Engine K) (c : ℕ) (x : Conn) : Engine K :=
  { e with conns := Function.update e.conns c x }

/-- Rewrites one stream. -/
def setStream (e : Engine K) (s : ℕ) (x : Stream K) : Engine K :=
  { e with streams := Function.update e.streams s x }

/-- The connection of a stream. -/
def connOf (e : Engine K) (s : ℕ) : Conn := e.conns (e.streams s).conn

end Engine

end KcpMux
