import KcpMux.Steps.Trans
import KcpMux.Timer.Heap

/-!
The shapes of a step: what it makes of the engine, as one update of the record.

`stepConn` and `stepStream` are the steps of one object, `newConn` and `newStream` put an
object into the tables, `finalStream` takes a stream out of them, and `beginConn` and
`endConn` are the two ends of the finalisation of a connection.
-/

namespace KcpMux

variable {K : Type}

/-- The counters that mirror the live objects. -/
def EngineStats.life (st : EngineStats) : ℕ × ℕ × ℕ × ℕ × ℕ × ℕ :=
  (st.connCount, st.streamCount, st.connCreatedTotal, st.connClosedTotal,
    st.streamCreatedTotal, st.streamClosedTotal)

/-- The log of a finalised stream. -/
def finalStreamEvents (s : ℕ) (x : Stream K) (reason : UInt8) : List Event :=
  (if x.callbacks.streamCloseNotify then [.streamCloseNotify s reason] else []) ++
    [.kcp s .release]

/-- The log of the end of a connection's finalisation. -/
def endConnEvents (c : ℕ) (x : Conn) (reason : UInt8) : List Event :=
  (if x.callbacks.connCloseNotify then [.connCloseNotify c reason] else []) ++
    (if x.state = .error then [] else [.connState c x.state .closed])

/-- The connection a new stream is entered in. -/
def Conn.enter (env : Env K) (e : Engine K) (c : ℕ) (x : Stream K) (latest : Option UInt32) :
    Conn :=
  { e.conns c with
    streamMap := htbAdd (e.conns c).streamMap e.nstreams
      (fun s => x.streamId == (Function.update e.streams e.nstreams x s).streamId)
      (env.hash32 (u32Memory x.streamId))
    streamCount := (e.conns c).streamCount + 1
    latestPeerStreamId := latest.getD (e.conns c).latestPeerStreamId
    peerStreamIdInitialized := latest.isSome || (e.conns c).peerStreamIdInitialized }

namespace Engine

/-- A step of one connection. -/
def stepConn (e : Engine K) (c : ℕ) (x : Conn) (evs : List Event) (m : TimerManager Owner)
    (t : ℕ) (st : EngineStats) (cs : ℕ → ConnStats) : Engine K :=
  { e with
    conns := Function.update e.conns c x, trace := evs ++ e.trace, timerManager := m, tick := t
    stats := st, connStats := cs }

/-- A step of one stream. -/
def stepStream (e : Engine K) (s : ℕ) (x : Stream K) (evs : List Event)
    (m : TimerManager Owner) (t : ℕ) (st : EngineStats) (cs : ℕ → ConnStats) (p : PendMove) :
    Engine K :=
  { e with
    streams := Function.update e.streams s x, trace := evs ++ e.trace, timerManager := m
    tick := t, stats := st, connStats := cs
    pendingBatchStreams := p.apply s e.pendingBatchStreams }

/-- A new connection under the next id, before it enters the tables. -/
def placeConn (e : Engine K) (x : Conn) (m : TimerManager Owner) (t : ℕ) (st : EngineStats) :
    Engine K :=
  { e with
    conns := Function.update e.conns e.nconns x, nconns := e.nconns + 1
    nextConnectionId := e.nextConnectionId + 1, timerManager := m
    timerNodeCount := e.timerNodeCount + 1, tick := t, stats := st }

/-- A new stream, before it enters the table of its connection. -/
def placeStream (e : Engine K) (x : Stream K) (evs : List Event) (m : TimerManager Owner)
    (t : ℕ) (st : EngineStats) : Engine K :=
  { e with
    streams := Function.update e.streams e.nstreams x, nstreams := e.nstreams + 1
    timerManager := m, timerNodeCount := e.timerNodeCount + 1, tick := t, stats := st
    trace := evs ++ e.trace }

/-- The latest id of a peer stream, when the peer has created one. -/
def noteLatest (e : Engine K) (c : ℕ) : Option UInt32 → Engine K
  | none => e
  | some id => e.setConn c { e.conns c with
      latestPeerStreamId := id, peerStreamIdInitialized := true }

/-- A new connection in the tables. -/
def newConn (env : Env K) (e : Engine K) (x : Conn) (m : TimerManager Owner) (t : ℕ)
    (st : EngineStats) : Engine K :=
  { e with
    conns := Function.update e.conns e.nconns { x with inEngineMap := true }
    nconns := e.nconns + 1, nextConnectionId := e.nextConnectionId + 1, timerManager := m
    timerNodeCount := e.timerNodeCount + 1, tick := t, connCount := e.connCount + 1
    stats := { st with connCount := e.connCount + 1 }
    connMap := htbAdd e.connMap e.nconns
      (connCmp (e.placeConn x m t st) x.peerAddr x.localConnectionId)
      (connKeyHash env x.peerAddr x.localConnectionId)
    handshakeMap :=
      if x.isInitiator then e.handshakeMap
      else htbAdd e.handshakeMap e.nconns
        (handshakeCmp (e.placeConn x m t st) x.peerAddr x.peerConnectionId)
        (connKeyHash env x.peerAddr x.peerConnectionId) }

/-- A new stream in the table of its connection. -/
def newStream (env : Env K) (e : Engine K) (c : ℕ) (x : Stream K) (evs : List Event)
    (m : TimerManager Owner) (t : ℕ) (st : EngineStats) (latest : Option UInt32) : Engine K :=
  { e with
    streams := Function.update e.streams e.nstreams { x with inStreamMap := true }
    nstreams := e.nstreams + 1, timerManager := m, timerNodeCount := e.timerNodeCount + 1
    tick := t, stats := { st with streamCount := st.streamCount + 1 }
    conns := Function.update e.conns c (Conn.enter env e c x latest)
    trace := evs ++ e.trace }

/-- A stream whose timer node could not be registered: its handle is dead. -/
def deadStream (e : Engine K) (x : Stream K) (evs : List Event) (t : ℕ) : Engine K :=
  { e with
    streams := Function.update e.streams e.nstreams x, nstreams := e.nstreams + 1, tick := t
    trace := evs ++ e.trace }

/-- A stream is finalised. -/
def finalStream (e : Engine K) (s : ℕ) (reason : UInt8) : Engine K :=
  { e with
    streams := Function.update e.streams s { e.streams s with
      internalClosed := true, pendingCount := 0, inStreamMap := false, kcp := none
      state := if (e.streams s).state = .error then .error else .closed }
    pendingBatchStreams := e.pendingBatchStreams.erase s
    timerManager := timerUnregister e.timerManager (.stream s)
    timerNodeCount := e.timerNodeCount - 1
    tick := e.tick + 1
    conns := Function.update e.conns (e.streams s).conn { e.connOf s with
      streamMap := htbDel (e.connOf s).streamMap s, streamCount := (e.connOf s).streamCount - 1 }
    stats := { e.stats with
      streamCount := e.stats.streamCount - 1, streamClosedTotal := e.stats.streamClosedTotal + 1 }
    trace := finalStreamEvents s (e.streams s) reason ++ e.trace
    pendingReleaseList := e.pendingReleaseList ++ [.stream s] }

/-- A connection leaves the tables. -/
def beginConn (e : Engine K) (c : ℕ) : Engine K :=
  { e with
    conns := Function.update e.conns c { e.conns c with
      internalClosed := true, inEngineMap := false }
    timerManager := timerUnregister e.timerManager (.conn c)
    timerNodeCount := e.timerNodeCount - 1
    tick := e.tick + 1
    handshakeMap :=
      if (e.conns c).isInitiator then e.handshakeMap else htbDel e.handshakeMap c
    connMap := htbDel e.connMap c
    connCount := e.connCount - 1
    stats := { e.stats with
      connCount := e.connCount - 1, connClosedTotal := e.stats.connClosedTotal + 1 } }

/-- A connection whose streams are finalised is notified and queued for release. -/
def endConn (e : Engine K) (c : ℕ) (reason : UInt8) : Engine K :=
  { e with
    conns := Function.update e.conns c { e.conns c with
      state := if (e.conns c).state = .error then .error else .closed }
    trace := endConnEvents c (e.conns c) reason ++ e.trace
    pendingReleaseList := e.pendingReleaseList ++ [.conn c] }

end Engine

/-- The log of a new stream up to its first deadline, newest first. -/
def streamNewEvents (s : ℕ) (config : StreamConfig) : List Event :=
  [.kcp s .setoutput, .kcp s (.setmss config.kcpMss), .kcp s .create]

/-- The connection a call puts into the tables. -/
inductive NewConn (env : Env K) (op : Call) (e : Engine K) (t : ℕ) : Conn → Prop
  | initiator {addr : Addr} {config : Option ConnConfig} {ext : Bytes}
      {callbacks : Option ConnCallbacks} {prepared : ConnConfig} {next : UInt32} {now : ℤ}
      (hop : op = .connConnect addr config ext callbacks)
      (hc : connConfigPrepare (config.getD e.defaultConnConfig) = some prepared)
      (hn : ∃ k, next = firstStreamId true (env.randomU64 k)) (hnow : Read env t now)
      (ha : addr ≠ [] ∧ addr.length ≤ addrMaxLen) :
      NewConn env op e t
        { connRecord true e.nextConnectionId addr prepared next now with
          callbacks := callbacks.getD {}, selfProtoExt := .clip ext }
  | passive {addr : Addr} {d ext : Bytes} {id : UInt64} {prepared : ConnConfig} {next : UInt32}
      {now recv : ℤ} (hop : op = .input d addr) (hd : ConnectDatagram d id ext)
      (hc : connConfigPrepare e.defaultConnConfig = some prepared)
      (hn : ∃ k, next = firstStreamId false (env.randomU64 k)) (hnow : Read env t now)
      (hrecv : Read env t recv) (ha : addr ≠ [] ∧ addr.length ≤ addrMaxLen)
      (hfresh : engineGetPassiveConn env e addr id = none) :
      NewConn env op e t
        { connRecord false e.nextConnectionId addr prepared next now with
          peerConnectionId := id, peerProtoExt := .clip ext
          lastRecvTs := if recv > now then recv else now }

/-- The stream a call puts into the table of the connection `c`, and the peer id that is
noted with it. -/
inductive NewStream (env : Env K) (op : Call) (e : Engine K) (t c : ℕ) :
    Stream K → Option UInt32 → Prop
  | local {id : UInt32} {config : Option StreamConfig} {callbacks : Option StreamCallbacks}
      {prepared : StreamConfig} {kcp : K} {now : ℤ} (hop : op = .streamCreate c config callbacks)
      (hc : streamConfigPrepare (config.getD e.defaultStreamConfig) = some prepared)
      (hid : id ≠ 0) (hpar : (id % 2 == 1) = (e.conns c).isInitiator)
      (hfresh : connGetStreamById env e c id = none) (hnow : Read env t now)
      (hk : KcpNew env id prepared kcp) :
      NewStream env op e t c
        { (streamRecord c id prepared true kcp).blockRead now with
          callbacks := callbacks.getD {} } none
  | peer {id : UInt32} {d payload : Bytes} {prepared : StreamConfig} {kcp : K} {now : ℤ}
      (hop : op = .input d (e.conns c).peerAddr)
      (hd : PayloadDatagram d (e.conns c).localConnectionId id payload)
      (hc : streamConfigPrepare e.defaultStreamConfig = some prepared) (hid : id ≠ 0)
      (hpar : (id % 2 == 1) ≠ (e.conns c).isInitiator)
      (hnew : connIsNewPeerStreamId (e.conns c) id = true)
      (hcb : (e.conns c).callbacks.streamCreateNotify = true)
      (hfresh : connGetStreamById env e c id = none) (hnow : Read env t now)
      (hk : KcpNew env id prepared kcp) :
      NewStream env op e t c ((streamRecord c id prepared false kcp).blockRead now) (some id)

/-- The move of the timer node that goes with the refresh of a connection. -/
def connMoveAt (x : Conn) : Option ℤ → TimerMove
  | none => .keep
  | some now => connMove x now

end KcpMux
