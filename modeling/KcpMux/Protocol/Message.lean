import KcpMux.Engine.Api

/-!
Messages, and how `kcpmux_protocol_input` reads them.

`Reads` collects, for each message type, the length checks the handler makes and the fields at the
offsets where it looks for them.  `Message.handle` is what is done with a message whose fields are
known: no buffer occurs in it.

* `Reads.protocolInput`: a datagram that reads as a message is handled as this message, so the
  handler passes all its checks and finds these fields;
* `protocolInput_accepts_messages`: a datagram that the handler accepts reads as a message.
-/

namespace KcpMux

/-- A message as the peer sees it. -/
inductive Message where
  | connect (source : UInt64) (version : UInt8) (ext : Bytes)
  | connectAck (dest source : UInt64) (version result : UInt8) (ext : Bytes)
  | keepalive (dest : UInt64)
  | connClose (dest : UInt64) (reason : UInt8)
  | connCloseAck (dest : UInt64) (reason : UInt8)
  | streamClose (dest : UInt64) (stream : UInt32) (reason : UInt8)
  | streamCloseAck (dest : UInt64) (stream : UInt32) (reason : UInt8)
  | streamPayload (dest : UInt64) (stream : UInt32) (payload : Bytes)

/-- The type byte and the destination id, which every message has. -/
structure ReadsCommon (d : Bytes) (type : UInt8) (dest : UInt64) : Prop where
  type : Buf.of d 0 = type
  dest : readU64 (Buf.of d) 1 = dest
  len : protoCommonLen ≤ d.length

/-- What `kcpmux_protocol_input` reads from a datagram: for each type the length checks of its
handler, and the fields at the offsets where the handler looks for them. -/
inductive Reads (d : Bytes) : Message → Prop
  | connect {source : UInt64} {version : UInt8} {ext : Bytes}
      (common : ReadsCommon d msgConnConnect 0) (len : protoConnectLen ≤ d.length)
      (hsource : readU64 (Buf.of d) protoCommonLen = source)
      (hversion : Buf.of d (protoCommonLen + 8) = version)
      (extLen : (readU16 (Buf.of d) (protoCommonLen + 9)).toNat ≤ protoExtMaxLen)
      (size : protoConnectLen + (readU16 (Buf.of d) (protoCommonLen + 9)).toNat ≤ d.length)
      (hext : (Buf.of d).slice protoConnectLen
        (readU16 (Buf.of d) (protoCommonLen + 9)).toNat = ext) :
      Reads d (.connect source version ext)
  | connectAck {dest source : UInt64} {version result : UInt8} {ext : Bytes}
      (common : ReadsCommon d msgConnConnectAck dest) (len : protoConnectAckLen ≤ d.length)
      (hsource : readU64 (Buf.of d) protoCommonLen = source)
      (hversion : Buf.of d (protoCommonLen + 8) = version)
      (hresult : Buf.of d (protoCommonLen + 9) = result)
      (extLen : (readU16 (Buf.of d) (protoCommonLen + 10)).toNat ≤ protoExtMaxLen)
      (size : protoConnectAckLen + (readU16 (Buf.of d) (protoCommonLen + 10)).toNat ≤ d.length)
      (hext : (Buf.of d).slice protoConnectAckLen
        (readU16 (Buf.of d) (protoCommonLen + 10)).toNat = ext) :
      Reads d (.connectAck dest source version result ext)
  | keepalive {dest : UInt64} (common : ReadsCommon d msgConnKeepalive dest)
      (len : protoKeepaliveLen ≤ d.length) : Reads d (.keepalive dest)
  | connClose {dest : UInt64} {reason : UInt8} (common : ReadsCommon d msgConnClose dest)
      (len : protoConnCloseLen ≤ d.length) (hreason : Buf.of d protoCommonLen = reason) :
      Reads d (.connClose dest reason)
  | connCloseAck {dest : UInt64} {reason : UInt8} (common : ReadsCommon d msgConnCloseAck dest)
      (len : protoConnCloseLen ≤ d.length) (hreason : Buf.of d protoCommonLen = reason) :
      Reads d (.connCloseAck dest reason)
  | streamClose {dest : UInt64} {stream : UInt32} {reason : UInt8}
      (common : ReadsCommon d msgStreamClose dest) (len : protoStreamCloseLen ≤ d.length)
      (hstream : readU32 (Buf.of d) protoCommonLen = stream)
      (hreason : Buf.of d protoStreamHeaderLen = reason) :
      Reads d (.streamClose dest stream reason)
  | streamCloseAck {dest : UInt64} {stream : UInt32} {reason : UInt8}
      (common : ReadsCommon d msgStreamCloseAck dest) (len : protoStreamCloseLen ≤ d.length)
      (hstream : readU32 (Buf.of d) protoCommonLen = stream)
      (hreason : Buf.of d protoStreamHeaderLen = reason) :
      Reads d (.streamCloseAck dest stream reason)
  | streamPayload {dest : UInt64} {stream : UInt32} {payload : Bytes}
      (common : ReadsCommon d msgStreamPayload dest) (len : protoStreamHeaderLen ≤ d.length)
      (hstream : readU32 (Buf.of d) protoCommonLen = stream)
      (hpayload : (Buf.of d).slice protoStreamHeaderLen (d.length - protoStreamHeaderLen) =
        payload) :
      Reads d (.streamPayload dest stream payload)

/-! ### Handling -/

variable {K : Type}

section Handle

variable (env : Env K) (e : Engine K)

/-- A message for the connection with the id `dest`. -/
def handleAt (size : ℕ) (peerAddr : Addr) (dest : UInt64) (handle : Engine K → ℕ → ℤ × Engine K) :
    ℤ × Engine K :=
  if dest = 0 then (-errInvalidFormat, e)
  else
    match engineGetConnById env e peerAddr dest with
    | none => (-errNotFound, e)
    | some c => handle (e.countReceived c size) c

/-- A `CONN_CONNECT` with these fields. -/
def handleConnect (size : ℕ) (peerAddr : Addr) (recvTimeMs : ℤ) (source : UInt64)
    (peerVersion : UInt8) (ext : Bytes) : ℤ × Engine K :=
  if source = 0 then (-errInvalidFormat, e)
  else
    match engineGetPassiveConn env e peerAddr source with
    | some c =>
        if peerVersion ≠ version then
          (-errNok, (connSendConnectAck env e c (UInt8.ofInt ackResultVersion)).2)
        else if (e.conns c).state ≠ .connected then (-errState, e)
        else
          let e := connNoteReceive env (e.countReceived c size) c recvTimeMs false
          (0, (connSendConnectAck env e c (UInt8.ofInt ackResultOk)).2)
    | none =>
        if peerVersion ≠ version then (-errNok, e)
        else protocolAccept env e peerAddr source ext recvTimeMs

/-- A `CONN_CONNECT_ACK` with these fields. -/
def handleConnectAck (c : ℕ) (recvTimeMs : ℤ) (source : UInt64) (peerVersion result : UInt8)
    (ext : Bytes) : ℤ × Engine K :=
  if (e.conns c).state ≠ .connecting then (-errState, e)
  else if source = 0 then (-errInvalidFormat, e)
  else
    let e := connNoteReceive env e c recvTimeMs false
    if peerVersion = version ∧ result = UInt8.ofInt ackResultOk then
      let e := e.setConn c { e.conns c with
        peerConnectionId := source
        peerProtoExt := if ext = [] then (e.conns c).peerProtoExt else .clip ext }
      (0, connSetState env e c .connected)
    else
      let e := { e with stats := { e.stats with
        connRejectedTotal := e.stats.connRejectedTotal + 1 } }
      let e := connSetState env e c .error
      (0, connCloseInternal env e c
        (if peerVersion ≠ version ∨ result = UInt8.ofInt ackResultVersion then closeReasonVersion
          else closeReasonRejected))

/-- A `STREAM_CLOSE` with these fields. -/
def handleStreamClose (c : ℕ) (recvTimeMs : ℤ) (stream : UInt32) (reason : UInt8) :
    ℤ × Engine K :=
  if stream = 0 then (-errInvalidFormat, e)
  else
    match connGetStreamById env e c stream with
    | none => (-errNotFound, e)
    | some s => streamHandleClose env (connNoteReceive env e c recvTimeMs false) s reason

/-- A `STREAM_CLOSE_ACK` for this stream. -/
def handleStreamCloseAck (c : ℕ) (recvTimeMs : ℤ) (stream : UInt32) : ℤ × Engine K :=
  if stream = 0 then (-errInvalidFormat, e)
  else
    match connGetStreamById env e c stream with
    | none => (-errState, e)
    | some s =>
        if (e.streams s).state ≠ .closing ∨ (e.streams s).closePhase ≠ .waitAck then (-errState, e)
        else
          let e := connNoteReceive env e c recvTimeMs false
          (0, streamCloseInternal env e s (e.streams s).closeReason)

/-- A `STREAM_PAYLOAD` with these fields. -/
def handleStreamPayload (c : ℕ) (recvTimeMs : ℤ) (stream : UInt32) (payload : Bytes) :
    ℤ × Engine K :=
  if (e.conns c).state ≠ .connected then (-errState, e)
  else if stream = 0 then (-errInvalidFormat, e)
  else
    match connGetStreamById env e c stream with
    | none => protocolCreateStream env e c stream payload recvTimeMs
    | some s =>
        let r := streamHandlePayload env e s payload recvTimeMs
        if r.1 = 0 then (r.1, connNoteReceive env r.2 c recvTimeMs true) else r

/-- What is done with a message from `peerAddr` that came in a datagram of `size` bytes. -/
def Message.handle (size : ℕ) (peerAddr : Addr) (recvTimeMs : ℤ) : Message → ℤ × Engine K
  | .connect source peerVersion ext =>
      handleConnect env e size peerAddr recvTimeMs source peerVersion ext
  | .connectAck dest source peerVersion result ext =>
      handleAt env e size peerAddr dest fun e c =>
        handleConnectAck env e c recvTimeMs source peerVersion result ext
  | .keepalive dest =>
      handleAt env e size peerAddr dest fun e c => (0, connNoteReceive env e c recvTimeMs false)
  | .connClose dest reason =>
      handleAt env e size peerAddr dest fun e c =>
        let e := connNoteReceive env e c recvTimeMs false
        (0, connCloseInternal env (connSendCloseAck env e c reason).2 c reason)
  | .connCloseAck dest _ =>
      handleAt env e size peerAddr dest fun e c =>
        if (e.conns c).state ≠ .closing then (-errState, e)
        else
          let e := connNoteReceive env e c recvTimeMs false
          (0, connCloseInternal env e c (e.conns c).closeReason)
  | .streamClose dest stream reason =>
      handleAt env e size peerAddr dest fun e c =>
        handleStreamClose env e c recvTimeMs stream reason
  | .streamCloseAck dest stream _ =>
      handleAt env e size peerAddr dest fun e c => handleStreamCloseAck env e c recvTimeMs stream
  | .streamPayload dest stream payload =>
      handleAt env e size peerAddr dest fun e c =>
        handleStreamPayload env e c recvTimeMs stream payload

end Handle

/-! ### The handler -/

variable {env : Env K} {e : Engine K} {d : Bytes} {m : Message} {addr : Addr} {now : ℤ}

lemma Buf.length_slice (buf : Buf) (off len : ℕ) : (buf.slice off len).length = len := by
  simp [Buf.slice]

/-- A datagram with the common part of a message other than `CONN_CONNECT` goes to its
connection. -/
lemma ReadsCommon.protocolInput {type : UInt8} {dest : UInt64} (h : ReadsCommon d type dest)
    (ha : addr ≠ [] ∧ addr.length ≤ addrMaxLen) (hconn : type ≠ msgConnConnect) :
    protocolInput env e (Buf.of d) d.length addr now =
      handleAt env e d.length addr dest fun e c => inputConn env e c (Buf.of d) d.length now := by
  have hlen := h.len
  have hcommon : protoCommonLen = 9 := rfl
  rewrite [KcpMux.protocolInput, if_neg (by omega), if_neg (not_or.mpr ⟨ha.1, not_lt.mpr ha.2⟩),
    if_neg (not_lt.mpr hlen), h.type, if_neg hconn, handleAt, h.dest]
  rfl

lemma inputConnectAck_eq {c : ℕ} {source : UInt64} {peerVersion result : UInt8} {ext : Bytes}
    (len : protoConnectAckLen ≤ d.length)
    (hsource : readU64 (Buf.of d) protoCommonLen = source)
    (hversion : Buf.of d (protoCommonLen + 8) = peerVersion)
    (hresult : Buf.of d (protoCommonLen + 9) = result)
    (extLen : (readU16 (Buf.of d) (protoCommonLen + 10)).toNat ≤ protoExtMaxLen)
    (size : protoConnectAckLen + (readU16 (Buf.of d) (protoCommonLen + 10)).toNat ≤ d.length)
    (hext : (Buf.of d).slice protoConnectAckLen
      (readU16 (Buf.of d) (protoCommonLen + 10)).toNat = ext) :
    inputConnectAck env e c (Buf.of d) d.length now =
      handleConnectAck env e c now source peerVersion result ext := by
  have hpos : (readU16 (Buf.of d) (protoCommonLen + 10)).toNat > 0 ↔ ¬ ext = [] := by
    have hlen := Buf.length_slice (Buf.of d) protoConnectAckLen
      (readU16 (Buf.of d) (protoCommonLen + 10)).toNat
    rw [← hlen, hext]
    exact List.length_pos_iff
  rw [inputConnectAck, handleConnectAck]
  dsimp only
  rw [if_neg (not_lt.mpr len), hsource, hversion, hresult, if_neg (not_lt.mpr extLen),
    if_neg (not_lt.mpr size), hext]
  simp only [hpos, ite_not]

/-- **A datagram that reads as a message** is handled as this message. -/
lemma Reads.protocolInput (h : Reads d m) (ha : addr ≠ [] ∧ addr.length ≤ addrMaxLen) :
    protocolInput env e (Buf.of d) d.length addr now = m.handle env e d.length addr now := by
  cases h with
  | @connect source peerVersion ext common len hsource hversion extLen size hext =>
      have hlen := common.len
      have hcommon : protoCommonLen = 9 := rfl
      rw [KcpMux.protocolInput, if_neg (by omega), if_neg (not_or.mpr ⟨ha.1, not_lt.mpr ha.2⟩),
        if_neg (not_lt.mpr hlen), if_pos common.type, inputConnect,
        if_neg (not_or.mpr ⟨not_lt.mpr len, not_not.mpr common.dest⟩), Message.handle, handleConnect]
      dsimp only
      rw [hsource, hversion, if_neg (not_lt.mpr extLen), if_neg (not_lt.mpr size), hext]
      cases engineGetPassiveConn env e addr source with
      | none => rfl
      | some c => rfl
  | connectAck common len hsource hversion hresult extLen size hext =>
      rw [common.protocolInput ha (by decide), Message.handle]
      simp only [inputConn, common.type, if_true,
        inputConnectAck_eq len hsource hversion hresult extLen size hext]
  | keepalive common len =>
      rw [common.protocolInput ha (by decide), Message.handle]
      simp only [inputConn, common.type, inputKeepalive, if_neg (not_lt.mpr len)]
      rfl
  | connClose common len hreason =>
      rw [common.protocolInput ha (by decide), Message.handle]
      simp only [inputConn, common.type, inputConnClose, if_neg (not_lt.mpr len), hreason]
      rfl
  | connCloseAck common len hreason =>
      rw [common.protocolInput ha (by decide), Message.handle]
      simp only [inputConn, common.type, inputConnCloseAck, if_neg (not_lt.mpr len)]
      rfl
  | streamClose common len hstream hreason =>
      rw [common.protocolInput ha (by decide), Message.handle]
      simp only [inputConn, common.type, inputStreamClose, if_neg (not_lt.mpr len), hstream, hreason]
      rfl
  | streamCloseAck common len hstream hreason =>
      rw [common.protocolInput ha (by decide), Message.handle]
      simp only [inputConn, common.type, inputStreamCloseAck, if_neg (not_lt.mpr len), hstream]
      rfl
  | streamPayload common len hstream hpayload =>
      rw [common.protocolInput ha (by decide), Message.handle]
      simp only [inputConn, common.type, inputStreamPayload, if_neg (not_lt.mpr len), hstream,
        hpayload]
      rfl

/-! ### Acceptance -/

lemma refused_param : -errInvalidParam ≠ 0 := by decide

lemma refused_format : -errInvalidFormat ≠ 0 := by decide

lemma refused_state : -errState ≠ 0 := by decide

lemma inputConnect_reads (hlen : protoCommonLen ≤ d.length) (ht : Buf.of d 0 = msgConnConnect)
    (h : (inputConnect env e (Buf.of d) d.length addr now).1 = 0) : ∃ m, Reads d m := by
  rw [inputConnect] at h
  dsimp only at h
  split_ifs at h with h1 h2 h3 h4
  · exact absurd h refused_format
  · exact absurd h refused_format
  · exact absurd h refused_format
  · exact absurd h refused_format
  all_goals
    exact ⟨_, .connect ⟨ht, not_not.mp (not_or.mp h1).2, hlen⟩ (not_lt.mp (not_or.mp h1).1) rfl rfl
      (not_lt.mp h3) (not_lt.mp h4) rfl⟩

lemma inputConnectAck_reads {c : ℕ} (hlen : protoCommonLen ≤ d.length)
    (ht : Buf.of d 0 = msgConnConnectAck)
    (h : (inputConnectAck env e c (Buf.of d) d.length now).1 = 0) : ∃ m, Reads d m := by
  rw [inputConnectAck] at h
  dsimp only at h
  split_ifs at h with h0 h1 h2 h3 h4
  · exact absurd h refused_state
  · exact absurd h refused_format
  · exact absurd h refused_format
  · exact absurd h refused_format
  · exact absurd h refused_format
  all_goals
    exact ⟨_, .connectAck ⟨ht, rfl, hlen⟩ (not_lt.mp h1) rfl rfl rfl (not_lt.mp h3) (not_lt.mp h4) rfl⟩

/-- A message for a connection that is handled with the result 0 has the length of its type. -/
lemma inputConn_reads {c : ℕ} (hlen : protoCommonLen ≤ d.length)
    (h : (inputConn env e c (Buf.of d) d.length now).1 = 0) : ∃ m, Reads d m := by
  rw [inputConn] at h
  split_ifs at h with h1 h2 h3 h4 h5 h6 h7
  · exact inputConnectAck_reads hlen h1 h
  · rw [inputKeepalive] at h
    split_ifs at h with hl
    · exact absurd h refused_format
    · exact ⟨_, .keepalive ⟨h2, rfl, hlen⟩ (not_lt.mp hl)⟩
  · rw [inputConnClose] at h
    split_ifs at h with hl
    · exact absurd h refused_format
    · exact ⟨_, .connClose ⟨h3, rfl, hlen⟩ (not_lt.mp hl) rfl⟩
  · rw [inputConnCloseAck] at h
    split_ifs at h with hs hl
    · exact absurd h refused_state
    · exact absurd h refused_format
    · exact ⟨_, .connCloseAck ⟨h4, rfl, hlen⟩ (not_lt.mp hl) rfl⟩
  · rw [inputStreamClose] at h
    split_ifs at h with hl
    · exact absurd h refused_format
    · exact ⟨_, .streamClose ⟨h5, rfl, hlen⟩ (not_lt.mp hl) rfl rfl⟩
  · rw [inputStreamCloseAck] at h
    split_ifs at h with hl
    · exact absurd h refused_format
    · exact ⟨_, .streamCloseAck ⟨h6, rfl, hlen⟩ (not_lt.mp hl) rfl rfl⟩
  · rw [inputStreamPayload] at h
    split_ifs at h with hs hl
    · exact absurd h refused_state
    · exact absurd h refused_format
    · exact ⟨_, .streamPayload ⟨h7, rfl, hlen⟩ (not_lt.mp hl) rfl rfl⟩
  · exact absurd h refused_format

/-- **What is accepted is well formed.**  A datagram that is handled with the result 0 reads as a
message, and what is done is done from the fields of this message alone. -/
theorem protocolInput_accepts_messages
    (h : (protocolInput env e (Buf.of d) d.length addr now).1 = 0) :
    ∃ m, Reads d m ∧
      protocolInput env e (Buf.of d) d.length addr now = m.handle env e d.length addr now := by
  have ha : addr ≠ [] ∧ addr.length ≤ addrMaxLen := by
    by_contra hn
    have hbad : addr = [] ∨ addr.length > addrMaxLen := by
      rw [not_and_or, not_not, not_le] at hn
      exact hn
    rw [protocolInput, if_pos hbad, ite_self] at h
    exact absurd h refused_param
  have hm : ∃ m, Reads d m := by
    rw [protocolInput] at h
    dsimp only at h
    split_ifs at h with h1 h2 h3 h4 h5
    · exact absurd h refused_param
    · exact absurd h refused_param
    · exact absurd h refused_format
    · exact inputConnect_reads (not_lt.mp h3) h4 h
    · exact absurd h refused_format
    · cases hc : engineGetConnById env e addr (readU64 (Buf.of d) 1) with
      | none =>
          rw [hc] at h
          exact absurd h (show -errNotFound ≠ 0 by decide)
      | some c =>
          rw [hc] at h
          exact inputConn_reads (not_lt.mp h3) h
  obtain ⟨m, hm⟩ := hm
  exact ⟨m, hm, hm.protocolInput ha⟩

/-- A `CONN_CONNECT` that is accepted. -/
theorem protocolInput_accepts_messages_connect :
    ∃ m, Reads plainConnect m ∧
      protocolInput (idealHost 0 0) (engineOperationEnter idealEngine) (Buf.of plainConnect)
          plainConnect.length [10] 5 =
        m.handle (idealHost 0 0) (engineOperationEnter idealEngine) plainConnect.length [10] 5 :=
  protocolInput_accepts_messages (by decide +kernel)

end KcpMux
