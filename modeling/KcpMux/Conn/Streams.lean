import KcpMux.Engine.Core

/-!
The streams of a connection (the section "Stream management" of `src/kcpmux_conn.c`): the
table of live streams, the allocator of local stream ids, and the test for a new peer id.
-/

namespace KcpMux

variable {K : Type} (env : Env K)

/-- `__stream_cmp`. -/
def streamCmp (e : Engine K) (streamId : UInt32) (s : ℕ) : Bool :=
  streamId == (e.streams s).streamId

/-- `kcpmux_conn_add_stream`. -/
def connAddStream (e : Engine K) (c s : ℕ) : Engine K :=
  let x := e.conns c
  let y := e.streams s
  if x.internalClosed = true ∨ y.internalClosed = true ∨ y.inStreamMap = true then e
  else
    let map := htbAdd x.streamMap s (streamCmp e y.streamId) (env.hash32 (u32Memory y.streamId))
    let e := e.setConn c { x with streamMap := map, streamCount := x.streamCount + 1 }
    let e := e.setStream s { y with inStreamMap := true }
    { e with stats := { e.stats with streamCount := e.stats.streamCount + 1 } }

/-- `kcpmux_conn_remove_stream`. -/
def connRemoveStream (e : Engine K) (c s : ℕ) : Engine K :=
  let x := e.conns c
  let y := e.streams s
  if y.inStreamMap = false then e
  else
    let e := e.setConn c { x with
      streamMap := htbDel x.streamMap s, streamCount := x.streamCount - 1 }
    let e := e.setStream s { y with inStreamMap := false }
    { e with stats := { e.stats with streamCount := e.stats.streamCount - 1 } }

/-- `kcpmux_conn_get_stream_by_id`. -/
def connGetStreamById (e : Engine K) (c : ℕ) (streamId : UInt32) : Option ℕ :=
  htbFind (e.conns c).streamMap (streamCmp e streamId) (env.hash32 (u32Memory streamId))

/-- The loop of `kcpmux_conn_alloc_stream_id`. -/
def connAllocStreamIdLoop (c : ℕ) : ℕ → Engine K → UInt32 × Engine K
  | 0, e => (0, e)
  | attempts + 1, e =>
      let x := e.conns c
      let id := if x.nextStreamId = 0 then (if x.isInitiator then 1 else 2) else x.nextStreamId
      let e := e.setConn c { x with nextStreamId := id + 2 }
      if (connGetStreamById env e c id).isNone then (id, e)
      else connAllocStreamIdLoop c attempts e

/-- `kcpmux_conn_alloc_stream_id`. -/
def connAllocStreamId (e : Engine K) (c : ℕ) : UInt32 × Engine K :=
  connAllocStreamIdLoop env c ((e.conns c).streamCount + 1) e

/-- `kcpmux_conn_is_new_peer_stream_id`. -/
def connIsNewPeerStreamId (conn : Conn) (streamId : UInt32) : Bool :=
  if streamId = 0 then false
  else if ((streamId &&& 1) == 1) = conn.isInitiator then false
  else if conn.peerStreamIdInitialized = false then true
  else
    let delta := streamId - conn.latestPeerStreamId
    delta ≠ 0 ∧ delta < 0x80000000

end KcpMux
