import KcpMux.Conn.Core
import KcpMux.Stream.Api

/-!
The datagram handler (`kcpmux_protocol_input` of `src/kcpmux_protocol.c`), with one
definition for each message type.
-/

namespace KcpMux

variable {K : Type} (env : Env K)

/-- The receive counters of a connection. -/
def Engine.countReceived (e : Engine K) (c size : ℕ) : Engine K :=
  let st := e.connStats c
  { e with connStats := Function.update e.connStats c { st with
    rxPackets := st.rxPackets + 1, rxBytes := st.rxBytes + size } }

/-! ### Handshake -/

/-- A rejected handshake: the acknowledgement carries the low byte of the callback's
result, the callbacks are dropped and the connection is finalised. -/
def protocolReject (e : Engine K) (c : ℕ) (result : ℤ) : Engine K :=
  let e := { e with stats := { e.stats with connRejectedTotal := e.stats.connRejectedTotal + 1 } }
  let e := (connSendConnectAck env e c (UInt8.ofInt result)).2
  let e := e.setConn c { e.conns c with callbacks := {} }
  connCloseInternal env e c closeReasonRejected

/-- The call of `conn_connect_notify`: the result that counts and the engine, with the
response extension in place. -/
def protocolConnectNotify (e : Engine K) (c : ℕ) : ℤ × Engine K :=
  let e := e.setConn c { e.conns c with selfProtoExt := .empty }
  match env.connConnectNotify with
  | none => (ackResultError, e)
  | some notify =>
      let reply := notify e.tick
      let e := reply.setters.foldl (ConnSetter.apply env c) e.tock
      let e := e.log (.connConnectNotify c reply.result)
      let result :=
        if reply.result = ackResultOk ∧ reply.respProtoExt.length > protoExtMaxLen then
          ackResultError
        else reply.result
      let ext := if result = ackResultOk then ProtoExt.clip reply.respProtoExt else .empty
      (result, e.setConn c { e.conns c with selfProtoExt := ext })

/-- A `CONN_CONNECT` from a peer that is not known yet. -/
def protocolAccept (e : Engine K) (peerAddr : Addr) (sourceId : UInt64) (ext : Bytes)
    (recvTimeMs : ℤ) : ℤ × Engine K :=
  let r := connNew env e peerAddr none false
  let e := r.2
  match r.1 with
  | none => (-errOom, e)
  | some c =>
      let e := e.setConn c { e.conns c with
        peerConnectionId := sourceId, peerProtoExt := .clip ext }
      let e := connNoteReceive env e c recvTimeMs false
      let e := engineAddConn env e c
      let r := protocolConnectNotify env e c
      let e := r.2
      if r.1 = ackResultOk then
        let e := connSetState env e c .connected
        (0, (connSendConnectAck env e c (UInt8.ofInt ackResultOk)).2)
      else (0, protocolReject env e c r.1)

/-- `CONN_CONNECT`. -/
def inputConnect (e : Engine K) (buf : Buf) (size : ℕ) (peerAddr : Addr) (recvTimeMs : ℤ) :
    ℤ × Engine K :=
  if size < protoConnectLen ∨ readU64 buf 1 ≠ 0 then (-errInvalidFormat, e)
  else
    let sourceId := readU64 buf protoCommonLen
    if sourceId = 0 then (-errInvalidFormat, e)
    else
      let peerVersion := buf (protoCommonLen + 8)
      let extLen := (readU16 buf (protoCommonLen + 9)).toNat
      if extLen > protoExtMaxLen then (-errInvalidFormat, e)
      else if size < protoConnectLen + extLen then (-errInvalidFormat, e)
      else
        let conn := engineGetPassiveConn env e peerAddr sourceId
        if peerVersion ≠ version then
          match conn with
          | some c => (-errNok, (connSendConnectAck env e c (UInt8.ofInt ackResultVersion)).2)
          | none => (-errNok, e)
        else
          match conn with
          | some c =>
              if (e.conns c).state ≠ .connected then (-errState, e)
              else
                let e := e.countReceived c size
                let e := connNoteReceive env e c recvTimeMs false
                (0, (connSendConnectAck env e c (UInt8.ofInt ackResultOk)).2)
          | none =>
              protocolAccept env e peerAddr sourceId (buf.slice protoConnectLen extLen) recvTimeMs

/-- `CONN_CONNECT_ACK`. -/
def inputConnectAck (e : Engine K) (c : ℕ) (buf : Buf) (size : ℕ) (recvTimeMs : ℤ) :
    ℤ × Engine K :=
  if (e.conns c).state ≠ .connecting then (-errState, e)
  else if size < protoConnectAckLen then (-errInvalidFormat, e)
  else
    let sourceId := readU64 buf protoCommonLen
    if sourceId = 0 then (-errInvalidFormat, e)
    else
      let peerVersion := buf (protoCommonLen + 8)
      let result := buf (protoCommonLen + 9)
      let extLen := (readU16 buf (protoCommonLen + 10)).toNat
      if extLen > protoExtMaxLen then (-errInvalidFormat, e)
      else if size < protoConnectAckLen + extLen then (-errInvalidFormat, e)
      else
        let e := connNoteReceive env e c recvTimeMs false
        if peerVersion = version ∧ result = UInt8.ofInt ackResultOk then
          let x := e.conns c
          let e := e.setConn c { x with
            peerConnectionId := sourceId
            peerProtoExt :=
              if extLen > 0 then .clip (buf.slice protoConnectAckLen extLen)
              else x.peerProtoExt }
          (0, connSetState env e c .connected)
        else
          let e := { e with stats := { e.stats with
            connRejectedTotal := e.stats.connRejectedTotal + 1 } }
          let e := connSetState env e c .error
          let reason :=
            if peerVersion ≠ version ∨ result = UInt8.ofInt ackResultVersion then
              closeReasonVersion
            else closeReasonRejected
          (0, connCloseInternal env e c reason)

/-! ### Connection messages -/

/-- `CONN_KEEPALIVE`. -/
def inputKeepalive (e : Engine K) (c size : ℕ) (recvTimeMs : ℤ) : ℤ × Engine K :=
  if size < protoKeepaliveLen then (-errInvalidFormat, e)
  else (0, connNoteReceive env e c recvTimeMs false)

/-- `CONN_CLOSE`. -/
def inputConnClose (e : Engine K) (c : ℕ) (buf : Buf) (size : ℕ) (recvTimeMs : ℤ) :
    ℤ × Engine K :=
  if size < protoConnCloseLen then (-errInvalidFormat, e)
  else
    let reason := buf protoCommonLen
    let e := connNoteReceive env e c recvTimeMs false
    let e := (connSendCloseAck env e c reason).2
    (0, connCloseInternal env e c reason)

/-- `CONN_CLOSE_ACK`. -/
def inputConnCloseAck (e : Engine K) (c size : ℕ) (recvTimeMs : ℤ) : ℤ × Engine K :=
  if (e.conns c).state ≠ .closing then (-errState, e)
  else if size < protoConnCloseLen then (-errInvalidFormat, e)
  else
    let e := connNoteReceive env e c recvTimeMs false
    (0, connCloseInternal env e c (e.conns c).closeReason)

/-! ### Stream messages -/

/-- `STREAM_CLOSE`. -/
def inputStreamClose (e : Engine K) (c : ℕ) (buf : Buf) (size : ℕ) (recvTimeMs : ℤ) :
    ℤ × Engine K :=
  if size < protoStreamCloseLen then (-errInvalidFormat, e)
  else
    let streamId := readU32 buf protoCommonLen
    if streamId = 0 then (-errInvalidFormat, e)
    else
      match connGetStreamById env e c streamId with
      | none => (-errNotFound, e)
      | some s =>
          let e := connNoteReceive env e c recvTimeMs false
          streamHandleClose env e s (buf protoStreamHeaderLen)

/-- `STREAM_CLOSE_ACK`. -/
def inputStreamCloseAck (e : Engine K) (c : ℕ) (buf : Buf) (size : ℕ) (recvTimeMs : ℤ) :
    ℤ × Engine K :=
  if size < protoStreamCloseLen then (-errInvalidFormat, e)
  else
    let streamId := readU32 buf protoCommonLen
    if streamId = 0 then (-errInvalidFormat, e)
    else
      match connGetStreamById env e c streamId with
      | none => (-errState, e)
      | some s =>
          if (e.streams s).state ≠ .closing ∨ (e.streams s).closePhase ≠ .waitAck then
            (-errState, e)
          else
            let e := connNoteReceive env e c recvTimeMs false
            (0, streamCloseInternal env e s (e.streams s).closeReason)

/-- A payload-created stream that `stream_create_notify` refused. -/
def protocolRejectStream (e : Engine K) (s : ℕ) (recvTimeMs : ℤ) : Engine K :=
  let e := e.setStream s { e.streams s with
    callbacks := {}, closeReason := closeReasonRejected, retryCount := 0
    lastCtrlTs := recvTimeMs }
  let e := e.setClosePhase s .waitAck
  let e := streamSetState env e s .closing
  let e := (streamSendClose env e s closeReasonRejected).2
  if (e.streams s).config.closeRetries = 0 then streamCloseInternal env e s closeReasonRejected
  else e

/-- The first payload of a stream that was accepted. -/
def protocolFirstPayload (e : Engine K) (c s : ℕ) (payload : Bytes) (recvTimeMs : ℤ) :
    ℤ × Engine K :=
  let r := streamHandlePayload env e s payload recvTimeMs
  let e := r.2
  if r.1 ≠ 0 then
    let e := streamSetState env e s .error
    (r.1, streamCloseInternal env e s closeReasonError)
  else (r.1, connNoteReceive env e c recvTimeMs true)

/-- A payload for a stream id that is not known yet. -/
def protocolCreateStream (e : Engine K) (c : ℕ) (streamId : UInt32) (payload : Bytes)
    (recvTimeMs : ℤ) : ℤ × Engine K :=
  if (streamId % 2 == 1) = (e.conns c).isInitiator then (-errInvalidFormat, e)
  else if connIsNewPeerStreamId (e.conns c) streamId = false then (-errNotFound, e)
  else if (e.conns c).callbacks.streamCreateNotify = false then (-errNotFound, e)
  else
    let r := streamNew env e c streamId none false
    let e := r.2
    match r.1 with
    | none => (-errOom, e)
    | some s =>
        let e := connAddStream env e c s
        let e := e.setConn c { e.conns c with
          latestPeerStreamId := streamId, peerStreamIdInitialized := true }
        let reply := env.streamCreateNotify e.tick
        let e := reply.setters.foldl (StreamSetter.apply env s) e.tock
        let e := e.log (.streamCreateNotify s reply.result)
        if reply.result ≠ 0 then (0, protocolRejectStream env e s recvTimeMs)
        else protocolFirstPayload env e c s payload recvTimeMs

/-- `STREAM_PAYLOAD`. -/
def inputStreamPayload (e : Engine K) (c : ℕ) (buf : Buf) (size : ℕ) (recvTimeMs : ℤ) :
    ℤ × Engine K :=
  if (e.conns c).state ≠ .connected then (-errState, e)
  else if size < protoStreamHeaderLen then (-errInvalidFormat, e)
  else
    let streamId := readU32 buf protoCommonLen
    let payload := buf.slice protoStreamHeaderLen (size - protoStreamHeaderLen)
    if streamId = 0 then (-errInvalidFormat, e)
    else
      match connGetStreamById env e c streamId with
      | none => protocolCreateStream env e c streamId payload recvTimeMs
      | some s =>
          let r := streamHandlePayload env e s payload recvTimeMs
          if r.1 = 0 then (r.1, connNoteReceive env r.2 c recvTimeMs true) else r

/-! ### Dispatch -/

/-- The messages other than `CONN_CONNECT`, for the connection they name. -/
def inputConn (e : Engine K) (c : ℕ) (buf : Buf) (size : ℕ) (recvTimeMs : ℤ) : ℤ × Engine K :=
  let type := buf 0
  if type = msgConnConnectAck then inputConnectAck env e c buf size recvTimeMs
  else if type = msgConnKeepalive then inputKeepalive env e c size recvTimeMs
  else if type = msgConnClose then inputConnClose env e c buf size recvTimeMs
  else if type = msgConnCloseAck then inputConnCloseAck env e c size recvTimeMs
  else if type = msgStreamClose then inputStreamClose env e c buf size recvTimeMs
  else if type = msgStreamCloseAck then inputStreamCloseAck env e c buf size recvTimeMs
  else if type = msgStreamPayload then inputStreamPayload env e c buf size recvTimeMs
  else (-errInvalidFormat, e)

/-- `kcpmux_protocol_input`. -/
def protocolInput (e : Engine K) (buf : Buf) (size : ℕ) (peerAddr : Addr) (recvTimeMs : ℤ) :
    ℤ × Engine K :=
  if size < 1 then (-errInvalidParam, e)
  else if peerAddr = [] ∨ peerAddr.length > addrMaxLen then (-errInvalidParam, e)
  else if size < protoCommonLen then (-errInvalidFormat, e)
  else if buf 0 = msgConnConnect then inputConnect env e buf size peerAddr recvTimeMs
  else
    let destinationId := readU64 buf 1
    if destinationId = 0 then (-errInvalidFormat, e)
    else
      match engineGetConnById env e peerAddr destinationId with
      | none => (-errNotFound, e)
      | some c => inputConn env (e.countReceived c size) c buf size recvTimeMs

end KcpMux
