import KcpMux.Lib.BigEndian
import KcpMux.Engine.State

/-!
The wire format (`src/kcpmux_protocol.h` and the encoders of `src/kcpmux_protocol.c`).

A received datagram is a memory `ℕ → UInt8` with a size, as the source has a pointer and a
length; a sent one is a byte string.
-/

namespace KcpMux

open BigEndian

/-! ### Message types and lengths -/

def msgConnConnect : UInt8 := 0x81
def msgConnConnectAck : UInt8 := 0x82
def msgConnKeepalive : UInt8 := 0x83
def msgConnClose : UInt8 := 0x84
def msgConnCloseAck : UInt8 := 0x85
def msgStreamClose : UInt8 := 0x93
def msgStreamCloseAck : UInt8 := 0x94
def msgStreamPayload : UInt8 := 0xa1

/-- `KCPMUX_PROTO_CONNECT_LEN`. -/
def protoConnectLen : ℕ := protoCommonLen + 11

/-- `KCPMUX_PROTO_CONNECT_ACK_LEN`. -/
def protoConnectAckLen : ℕ := protoCommonLen + 12

/-- `KCPMUX_PROTO_KEEPALIVE_LEN`. -/
def protoKeepaliveLen : ℕ := protoCommonLen + 8

/-- `KCPMUX_PROTO_CONN_CLOSE_LEN`. -/
def protoConnCloseLen : ℕ := protoCommonLen + 1

/-- `KCPMUX_PROTO_STREAM_CLOSE_LEN`. -/
def protoStreamCloseLen : ℕ := protoStreamHeaderLen + 1

/-! ### Byte order -/

/-- `__write_u16`. -/
def writeU16 (val : UInt16) : Bytes := [(val >>> 8).toUInt8, (val &&& 0xff).toUInt8]

/-- `__write_u32`. -/
def writeU32 (val : UInt32) : Bytes :=
  [(val >>> 24).toUInt8, ((val >>> 16) &&& 0xff).toUInt8, ((val >>> 8) &&& 0xff).toUInt8,
    (val &&& 0xff).toUInt8]

/-- `__write_u64`. -/
def writeU64 (val : UInt64) : Bytes :=
  (List.range 8).map fun i => (val >>> (56 - i * 8).toUInt64).toUInt8

/-- A buffer: the memory behind a pointer. -/
abbrev Buf := ℕ → UInt8

/-- The buffer that holds a datagram. -/
def Buf.of (d : Bytes) : Buf := fun i => d.getD i 0

/-- The `len` bytes at `off`. -/
def Buf.slice (buf : Buf) (off len : ℕ) : Bytes := (List.range len).map fun i => buf (off + i)

/-- `__read_u16`. -/
def readU16 (buf : Buf) (off : ℕ) : UInt16 :=
  ((buf off).toUInt16 <<< 8) ||| (buf (off + 1)).toUInt16

/-- `__read_u32`. -/
def readU32 (buf : Buf) (off : ℕ) : UInt32 :=
  ((buf off).toUInt32 <<< 24) ||| ((buf (off + 1)).toUInt32 <<< 16) |||
    ((buf (off + 2)).toUInt32 <<< 8) ||| (buf (off + 3)).toUInt32

/-- `__read_u64`. -/
def readU64 (buf : Buf) (off : ℕ) : UInt64 :=
  (List.range 8).foldl (fun val i => (val <<< 8) ||| (buf (off + i)).toUInt64) 0

/-! ### Messages -/

/-- `__write_common`: the type and the destination id, which is zero in a `CONNECT`. -/
def writeCommon (type : UInt8) (conn : Conn) : Bytes :=
  type :: writeU64 (if type = msgConnConnect then 0 else conn.peerConnectionId)

/-- The datagram of `kcpmux_protocol_send_conn_connect`. -/
def connConnectMsg (conn : Conn) : Bytes :=
  writeCommon msgConnConnect conn ++ writeU64 conn.localConnectionId ++ [version] ++
    writeU16 conn.selfProtoExt.len.toUInt16 ++ conn.selfProtoExt.data

/-- The datagram of `kcpmux_protocol_send_conn_connect_ack`. -/
def connConnectAckMsg (conn : Conn) (result : UInt8) : Bytes :=
  writeCommon msgConnConnectAck conn ++ writeU64 conn.localConnectionId ++ [version] ++
    [result] ++ writeU16 conn.selfProtoExt.len.toUInt16 ++ conn.selfProtoExt.data

/-- The datagram of `kcpmux_protocol_send_conn_keepalive`. -/
def connKeepaliveMsg (conn : Conn) (time : UInt32) : Bytes :=
  writeCommon msgConnKeepalive conn ++ writeU32 time ++ writeU32 conn.keepaliveSeq

/-- The datagrams of `kcpmux_protocol_send_conn_close` and of its acknowledgement. -/
def connCloseMsg (type : UInt8) (conn : Conn) (reason : UInt8) : Bytes :=
  writeCommon type conn ++ [reason]

/-- The header of every stream datagram. -/
def streamHeader (type : UInt8) (conn : Conn) (streamId : UInt32) : Bytes :=
  writeCommon type conn ++ writeU32 streamId

/-- The datagrams of `kcpmux_protocol_send_stream_close` and of its acknowledgement. -/
def streamCloseMsg (type : UInt8) (conn : Conn) (streamId : UInt32) (reason : UInt8) : Bytes :=
  streamHeader type conn streamId ++ [reason]

end KcpMux
