import KcpMux.Protocol.Wire
import KcpMux.Engine.Core

/-!
Sending (the second half of `src/kcpmux_protocol.c`, and
`kcpmux_conn_write_socketv` of `src/kcpmux_conn.c`).  Every function returns its status
code and the engine.
-/

namespace KcpMux

variable {K : Type} (env : Env K)

/-- `kcpmux_conn_write_socketv`. -/
def connWriteSocketv (e : Engine K) (o : Owner) (c : ℕ) (iov : List Bytes) : ℤ × Engine K :=
  let r := engineWriteSocketv env e o iov (e.conns c).peerAddr
  let e := r.2
  if r.1 = 0 then
    let st := e.connStats c
    (r.1, { e with connStats := Function.update e.connStats c { st with
      txPackets := st.txPackets + 1, txBytes := st.txBytes + iov.flatten.length } })
  else r

/-- `kcpmux_conn_write_socket`. -/
def connWriteSocket (e : Engine K) (o : Owner) (c : ℕ) (buf : Bytes) : ℤ × Engine K :=
  connWriteSocketv env e o c [buf]

/-- `kcpmux_protocol_send_conn_connect`. -/
def protocolSendConnConnect (e : Engine K) (c : ℕ) : ℤ × Engine K :=
  if protoConnectLen + (e.conns c).selfProtoExt.len > protoMsgMaxLen then (-errInvalidParam, e)
  else connWriteSocket env e (.conn c) c (connConnectMsg (e.conns c))

/-- `kcpmux_protocol_send_conn_connect_ack`. -/
def protocolSendConnConnectAck (e : Engine K) (c : ℕ) (result : UInt8) : ℤ × Engine K :=
  if protoConnectAckLen + (e.conns c).selfProtoExt.len > protoMsgMaxLen then
    (-errInvalidParam, e)
  else connWriteSocket env e (.conn c) c (connConnectAckMsg (e.conns c) result)

/-- `kcpmux_protocol_send_conn_keepalive`. -/
def protocolSendConnKeepalive (e : Engine K) (c : ℕ) : ℤ × Engine K :=
  let time := UInt32.ofInt (engineNow env e)
  connWriteSocket env e.tock (.conn c) c (connKeepaliveMsg (e.conns c) time)

/-- `kcpmux_protocol_send_conn_close`. -/
def protocolSendConnClose (e : Engine K) (c : ℕ) (reason : UInt8) : ℤ × Engine K :=
  if (e.conns c).peerConnectionId = 0 then (-errState, e)
  else connWriteSocket env e (.conn c) c (connCloseMsg msgConnClose (e.conns c) reason)

/-- `kcpmux_protocol_send_conn_close_ack`: unlike its sibling it does not look at the peer
id. -/
def protocolSendConnCloseAck (e : Engine K) (c : ℕ) (reason : UInt8) : ℤ × Engine K :=
  connWriteSocket env e (.conn c) c (connCloseMsg msgConnCloseAck (e.conns c) reason)

/-- `kcpmux_protocol_send_stream_close`. -/
def protocolSendStreamClose (e : Engine K) (s : ℕ) (reason : UInt8) : ℤ × Engine K :=
  connWriteSocket env e (.stream s) (e.streams s).conn
    (streamCloseMsg msgStreamClose (e.connOf s) (e.streams s).streamId reason)

/-- `kcpmux_protocol_send_stream_close_ack`. -/
def protocolSendStreamCloseAck (e : Engine K) (s : ℕ) (reason : UInt8) : ℤ × Engine K :=
  connWriteSocket env e (.stream s) (e.streams s).conn
    (streamCloseMsg msgStreamCloseAck (e.connOf s) (e.streams s).streamId reason)

/-- `kcpmux_protocol_send_stream_payload`. -/
def protocolSendStreamPayload (e : Engine K) (s : ℕ) (kcpData : Bytes) : ℤ × Engine K :=
  if kcpData = [] then (-errInvalidParam, e)
  else if protoStreamHeaderLen + kcpData.length > protoMsgMaxLen then (-errInvalidParam, e)
  else connWriteSocketv env e (.stream s) (e.streams s).conn
    [streamHeader msgStreamPayload (e.connOf s) (e.streams s).streamId, kcpData]

end KcpMux
