import KcpMux.Engine.Api
import KcpMux.Protocol.Message

/-!
The wire round trip: what the encoders write, `kcpmux_protocol_input` reads back.

The hand-written byte loops of three widths are big-endian numbers (`writeU64_eq`,
`readU64_toNat` and their siblings), so a field is read back wherever it stands in a datagram
(`readU64_at`).  `wire_round_trip` shows that every send function writes a datagram of at most
1500 bytes that reads as the message that was meant, and that any engine handles it as this
message.
-/

namespace KcpMux

open BigEndian

/-! ### Slices -/

lemma Buf.of_append_right (pre l : Bytes) (i : ℕ) :
    Buf.of (pre ++ l) (pre.length + i) = Buf.of l i := by
  rw [Buf.of, Buf.of, List.getD_eq_getElem?_getD, List.getD_eq_getElem?_getD,
    List.getElem?_append_right (by omega), Nat.add_sub_cancel_left]

/-- The bytes of a field, wherever it stands. -/
lemma Buf.slice_append (pre mid post : Bytes) :
    (Buf.of (pre ++ (mid ++ post))).slice pre.length mid.length = mid := by
  apply List.ext_getElem (by simp [Buf.slice])
  intro i h1 h2
  simp only [Buf.slice, List.getElem_map, List.getElem_range]
  rw [Buf.of_append_right, Buf.of, List.getD_eq_getElem?_getD,
    List.getElem?_append_left h2, List.getElem?_eq_getElem h2, Option.getD_some]

/-! ### Numbers -/

/-- One round of the reading loop of `__read_u64`. -/
lemma shift_or_toNat (val : UInt64) (b : UInt8) :
    ((val <<< 8) ||| b.toUInt64).toNat = (val.toNat * 256 + b.toNat) % 2 ^ 64 := by
  have hb : b.toNat < 2 ^ 8 := b.toNat_lt
  have hv : val.toNat < 2 ^ 64 := val.toNat_lt
  have h : val.toNat <<< ((8 : UInt64).toNat % 64) % 2 ^ 64 = (val.toNat % 2 ^ 56) <<< 8 := by
    rw [Nat.shiftLeft_eq, Nat.shiftLeft_eq]
    have h8 : (8 : UInt64).toNat % 64 = 8 := rfl
    rw [h8]
    omega
  rw [UInt64.toNat_or, UInt64.toNat_shiftLeft, h, UInt8.toNat_toUInt64,
    ← Nat.shiftLeft_add_eq_or_of_lt hb, Nat.shiftLeft_eq]
  omega

/-- The whole loop, which keeps the last 64 bits of what it has read. -/
lemma foldl_shift_or_toNat (l : Bytes) (val : UInt64) :
    (l.foldl (fun (val : UInt64) b => (val <<< 8) ||| b.toUInt64) val).toNat =
      l.foldl (fun v b => v * 256 + b.toNat) val.toNat % 2 ^ 64 := by
  have hmod : ∀ (l : Bytes) (a b : ℕ), a % 2 ^ 64 = b % 2 ^ 64 →
      l.foldl (fun v b => v * 256 + b.toNat) a % 2 ^ 64 =
        l.foldl (fun v b => v * 256 + b.toNat) b % 2 ^ 64 := by
    intro l
    induction l with
    | nil => exact fun _ _ h => h
    | cons x l ih => exact fun a b h => ih _ _ (by dsimp only; omega)
  induction l generalizing val with
  | nil => exact (Nat.mod_eq_of_lt val.toNat_lt).symm
  | cons b l ih =>
      rw [List.foldl_cons, List.foldl_cons, ih, shift_or_toNat]
      exact hmod l _ _ (Nat.mod_mod _ _)

lemma readU64_toNat (buf : Buf) (off : ℕ) :
    (readU64 buf off).toNat = beValue (buf.slice off 8) := by
  have h : readU64 buf off =
      (buf.slice off 8).foldl (fun (val : UInt64) b => (val <<< 8) ||| b.toUInt64) 0 := by
    rw [Buf.slice, List.foldl_map]
    rfl
  have hlen : (buf.slice off 8).length = 8 := by simp [Buf.slice]
  have hlt := beValue_lt (buf.slice off 8)
  rw [hlen] at hlt
  rw [h, foldl_shift_or_toNat]
  exact Nat.mod_eq_of_lt (hlt.trans_eq (by norm_num))

lemma readU32_toNat (buf : Buf) (off : ℕ) :
    (readU32 buf off).toNat = beValue (buf.slice off 4) := by
  have hb : ∀ (b : UInt8) (n : UInt32), n.toNat ≤ 24 →
      (b.toUInt32 <<< n).toNat = b.toNat <<< n.toNat := by
    intro b n hn
    have hlt := b.toNat_lt
    have h32 : n.toNat % 32 = n.toNat := Nat.mod_eq_of_lt (by omega)
    rw [UInt32.toNat_shiftLeft, h32, UInt8.toNat_toUInt32, Nat.shiftLeft_eq]
    refine Nat.mod_eq_of_lt ?_
    calc b.toNat * 2 ^ n.toNat ≤ 255 * 2 ^ 24 :=
          Nat.mul_le_mul (by omega) (Nat.pow_le_pow_right (by decide) hn)
      _ < 2 ^ 32 := by decide
  rw [readU32, UInt32.toNat_or, UInt32.toNat_or, UInt32.toNat_or, hb _ 24 (by decide),
    hb _ 16 (by decide), hb _ 8 (by decide), UInt8.toNat_toUInt32]
  have e1 := shiftLeft_or_byte (buf off).toNat _ (buf (off + 1)).toNat_lt 16
  have e2 := shiftLeft_or_byte ((buf off).toNat * 256 + (buf (off + 1)).toNat) _
    (buf (off + 2)).toNat_lt 8
  have e3 := shiftLeft_or_byte (((buf off).toNat * 256 + (buf (off + 1)).toNat) * 256 +
    (buf (off + 2)).toNat) _ (buf (off + 3)).toNat_lt 0
  simp only [UInt32.reduceToNat, Nat.reduceAdd, Nat.shiftLeft_zero] at *
  rw [e1, e2, e3]
  simp [beValue, Buf.slice, List.range_succ]

lemma readU16_toNat (buf : Buf) (off : ℕ) :
    (readU16 buf off).toNat = beValue (buf.slice off 2) := by
  have h0 := (buf off).toNat_lt
  have h8 : ((buf off).toUInt16 <<< 8).toNat = (buf off).toNat <<< 8 := by
    have h16 : (8 : UInt16).toNat % 16 = 8 := rfl
    rw [UInt16.toNat_shiftLeft, h16, UInt8.toNat_toUInt16, Nat.shiftLeft_eq]
    omega
  have e := shiftLeft_or_byte (buf off).toNat _ (buf (off + 1)).toNat_lt 0
  simp only [Nat.zero_add, Nat.shiftLeft_zero] at e
  rw [readU16, UInt16.toNat_or, h8, UInt8.toNat_toUInt16, e]
  simp [beValue, Buf.slice, List.range_succ]

lemma writeU64_eq (val : UInt64) : writeU64 val = beBytes 8 val.toNat := by
  have hbyte : ∀ n : UInt64, n.toNat < 64 →
      (val >>> n).toUInt8 = UInt8.ofNat (val.toNat / 2 ^ n.toNat) := by
    intro n hn
    apply UInt8.toNat_inj.mp
    simp [Nat.shiftRight_eq_div_pow, Nat.mod_eq_of_lt hn]
  simp only [writeU64, List.range_succ, List.range_zero, beBytes, List.map_cons, List.map_nil,
    List.nil_append, List.cons_append, Nat.reduceMul, Nat.reduceSub]
  rw [hbyte _ (by decide), hbyte _ (by decide), hbyte _ (by decide), hbyte _ (by decide),
    hbyte _ (by decide), hbyte _ (by decide), hbyte _ (by decide), hbyte _ (by decide)]
  rfl

lemma writeU32_eq (val : UInt32) : writeU32 val = beBytes 4 val.toNat := by
  have hv := val.toNat_lt
  have hand : ∀ n : ℕ, n &&& 255 = n % 256 := fun n => Nat.and_two_pow_sub_one_eq_mod n 8
  simp only [writeU32, beBytes, List.cons.injEq, and_true]
  refine ⟨?_, ?_, ?_, ?_⟩ <;> apply UInt8.toNat_inj.mp <;>
    simp [Nat.shiftRight_eq_div_pow, hand]

lemma writeU16_eq (val : UInt16) : writeU16 val = beBytes 2 val.toNat := by
  have hv := val.toNat_lt
  have hand : ∀ n : ℕ, n &&& 255 = n % 256 := fun n => Nat.and_two_pow_sub_one_eq_mod n 8
  simp only [writeU16, beBytes, List.cons.injEq, and_true]
  refine ⟨?_, ?_⟩ <;> apply UInt8.toNat_inj.mp <;> simp [Nat.shiftRight_eq_div_pow, hand]

/-! ### Fields -/

@[simp] lemma length_writeU64 (val : UInt64) : (writeU64 val).length = 8 := by
  rw [writeU64_eq, length_beBytes]

@[simp] lemma length_writeU32 (val : UInt32) : (writeU32 val).length = 4 := rfl

@[simp] lemma length_writeU16 (val : UInt16) : (writeU16 val).length = 2 := rfl

/-- **A 64-bit field** is read back where it stands. -/
lemma readU64_at {d p q : Bytes} {val : UInt64} (hd : d = p ++ (writeU64 val ++ q))
    {off : ℕ} (hoff : off = p.length) : readU64 (Buf.of d) off = val := by
  have h : (Buf.of d).slice off 8 = beBytes 8 val.toNat := by
    rw [← writeU64_eq, hd, hoff, ← length_writeU64 val]
    exact Buf.slice_append p _ q
  apply UInt64.toNat_inj.mp
  rw [readU64_toNat, h, beValue_beBytes]
  exact Nat.mod_eq_of_lt val.toNat_lt

/-- **A 32-bit field** is read back where it stands. -/
lemma readU32_at {d p q : Bytes} {val : UInt32} (hd : d = p ++ (writeU32 val ++ q))
    {off : ℕ} (hoff : off = p.length) : readU32 (Buf.of d) off = val := by
  have h : (Buf.of d).slice off 4 = beBytes 4 val.toNat := by
    rw [← writeU32_eq, hd, hoff, ← length_writeU32 val]
    exact Buf.slice_append p _ q
  apply UInt32.toNat_inj.mp
  rw [readU32_toNat, h, beValue_beBytes]
  exact Nat.mod_eq_of_lt val.toNat_lt

/-- **A 16-bit field** is read back where it stands. -/
lemma readU16_at {d p q : Bytes} {val : UInt16} (hd : d = p ++ (writeU16 val ++ q))
    {off : ℕ} (hoff : off = p.length) : readU16 (Buf.of d) off = val := by
  have h : (Buf.of d).slice off 2 = beBytes 2 val.toNat := by
    rw [← writeU16_eq, hd, hoff, ← length_writeU16 val]
    exact Buf.slice_append p _ q
  apply UInt16.toNat_inj.mp
  rw [readU16_toNat, h, beValue_beBytes]
  exact Nat.mod_eq_of_lt val.toNat_lt

/-- **A byte** is read back where it stands. -/
lemma byte_at {d p q : Bytes} {b : UInt8} (hd : d = p ++ (b :: q)) {off : ℕ}
    (hoff : off = p.length) : Buf.of d off = b := by
  rw [hd, hoff, ← Nat.add_zero p.length, Buf.of_append_right]
  rfl

/-- **A tail of bytes** is read back where it stands. -/
lemma tail_at {d p q : Bytes} (hd : d = p ++ q) {off len : ℕ} (hoff : off = p.length)
    (hlen : len = q.length) : (Buf.of d).slice off len = q := by
  have h := Buf.slice_append p q []
  rw [List.append_nil] at h
  rw [hd, hoff, hlen, h]

/-! ### Messages -/

@[simp] lemma length_writeCommon (type : UInt8) (conn : Conn) :
    (writeCommon type conn).length = protoCommonLen := by
  simp [writeCommon, protoCommonLen]

/-- The destination of a message: a `CONNECT` has none. -/
lemma readsCommon_append {d rest : Bytes} {type : UInt8} {conn : Conn}
    (hd : d = writeCommon type conn ++ rest) :
    ReadsCommon d type (if type = msgConnConnect then 0 else conn.peerConnectionId) where
  type := by rw [hd]; rfl
  dest := readU64_at (p := [type]) (by rw [hd]; rfl) rfl
  len := by rw [hd]; simp

/-- The length of an extension survives the 16-bit field. -/
lemma ext_len_toNat (x : ProtoExt) : x.len.toUInt16.toNat = x.len := by
  have h : x.len ≤ 512 := x.len_le
  have h16 : x.len < 2 ^ 16 := by omega
  rw [UInt16.toNat_ofNat', Nat.mod_eq_of_lt h16]

lemma reads_connConnectMsg (x : Conn) :
    Reads (connConnectMsg x) (.connect x.localConnectionId version x.selfProtoExt.data) := by
  generalize hd : connConnectMsg x = d
  rw [connConnectMsg] at hd
  -- the datagram, split in front of each field
  have h1 : d = writeCommon msgConnConnect x ++ (writeU64 x.localConnectionId ++ ([version] ++
      (writeU16 x.selfProtoExt.len.toUInt16 ++ x.selfProtoExt.data))) := by
    simp only [← hd, List.append_assoc]
  have h2 : d = (writeCommon msgConnConnect x ++ writeU64 x.localConnectionId) ++ (version ::
      (writeU16 x.selfProtoExt.len.toUInt16 ++ x.selfProtoExt.data)) := by
    simp only [h1, List.append_assoc, List.singleton_append]
  have h3 : d = (writeCommon msgConnConnect x ++ writeU64 x.localConnectionId ++ [version]) ++
      (writeU16 x.selfProtoExt.len.toUInt16 ++ x.selfProtoExt.data) := by
    simp only [h1, List.append_assoc]
  have hlen : d.length = protoConnectLen + x.selfProtoExt.len := by
    simp [h1, protoConnectLen, ProtoExt.len]
    omega
  have hext : (readU16 (Buf.of d) (protoCommonLen + 9)).toNat = x.selfProtoExt.len := by
    rw [readU16_at h3 (by simp), ext_len_toNat]
  refine .connect (readsCommon_append h1) (by omega) (readU64_at h1 (by simp))
    (byte_at h2 (by simp)) ?_ (by omega) ?_
  · rw [hext]
    exact x.selfProtoExt.len_le
  · rw [hext]
    exact tail_at hd.symm (by simp [protoConnectLen]) rfl

lemma reads_connConnectAckMsg (x : Conn) (result : UInt8) :
    Reads (connConnectAckMsg x result) (.connectAck x.peerConnectionId x.localConnectionId version
      result x.selfProtoExt.data) := by
  generalize hd : connConnectAckMsg x result = d
  rw [connConnectAckMsg] at hd
  have h1 : d = writeCommon msgConnConnectAck x ++ (writeU64 x.localConnectionId ++ ([version] ++
      ([result] ++ (writeU16 x.selfProtoExt.len.toUInt16 ++ x.selfProtoExt.data)))) := by
    simp only [← hd, List.append_assoc]
  have h2 : d = (writeCommon msgConnConnectAck x ++ writeU64 x.localConnectionId) ++ (version ::
      (result :: (writeU16 x.selfProtoExt.len.toUInt16 ++ x.selfProtoExt.data))) := by
    simp only [h1, List.append_assoc, List.singleton_append]
  have h3 : d = (writeCommon msgConnConnectAck x ++ writeU64 x.localConnectionId ++ [version]) ++
      (result :: (writeU16 x.selfProtoExt.len.toUInt16 ++ x.selfProtoExt.data)) := by
    simp only [h1, List.append_assoc, List.singleton_append]
  have h4 : d = (writeCommon msgConnConnectAck x ++ writeU64 x.localConnectionId ++ [version] ++
      [result]) ++ (writeU16 x.selfProtoExt.len.toUInt16 ++ x.selfProtoExt.data) := by
    simp only [h1, List.append_assoc]
  have hlen : d.length = protoConnectAckLen + x.selfProtoExt.len := by
    simp [h1, protoConnectAckLen, ProtoExt.len]
    omega
  have hext : (readU16 (Buf.of d) (protoCommonLen + 10)).toNat = x.selfProtoExt.len := by
    rw [readU16_at h4 (by simp), ext_len_toNat]
  refine .connectAck (readsCommon_append h1) (by omega) (readU64_at h1 (by simp))
    (byte_at h2 (by simp)) (byte_at h3 (by simp)) ?_ (by omega) ?_
  · rw [hext]
    exact x.selfProtoExt.len_le
  · rw [hext]
    exact tail_at hd.symm (by simp [protoConnectAckLen]) rfl

lemma reads_connKeepaliveMsg (x : Conn) (time : UInt32) :
    Reads (connKeepaliveMsg x time) (.keepalive x.peerConnectionId) :=
  .keepalive (readsCommon_append (by rw [connKeepaliveMsg, List.append_assoc]))
    (by simp [connKeepaliveMsg, protoKeepaliveLen])

lemma reads_connCloseMsg (x : Conn) (reason : UInt8) :
    Reads (connCloseMsg msgConnClose x reason) (.connClose x.peerConnectionId reason) ∧
      Reads (connCloseMsg msgConnCloseAck x reason) (.connCloseAck x.peerConnectionId reason) :=
  ⟨.connClose (readsCommon_append rfl) (by simp [connCloseMsg, protoConnCloseLen])
      (byte_at rfl (by simp)),
    .connCloseAck (readsCommon_append rfl) (by simp [connCloseMsg, protoConnCloseLen])
      (byte_at rfl (by simp))⟩

lemma streamCloseMsg_eq (type : UInt8) (conn : Conn) (id : UInt32) (reason : UInt8) :
    streamCloseMsg type conn id reason = writeCommon type conn ++ (writeU32 id ++ [reason]) := by
  rw [streamCloseMsg, streamHeader, List.append_assoc]

lemma reads_streamCloseMsg (conn : Conn) (id : UInt32) (reason : UInt8) :
    Reads (streamCloseMsg msgStreamClose conn id reason)
        (.streamClose conn.peerConnectionId id reason) ∧
      Reads (streamCloseMsg msgStreamCloseAck conn id reason)
        (.streamCloseAck conn.peerConnectionId id reason) := by
  have hlen : ∀ type, protoStreamCloseLen ≤ (streamCloseMsg type conn id reason).length := by
    intro type
    simp [streamCloseMsg_eq, protoStreamCloseLen, protoStreamHeaderLen]
  have hreason : ∀ type, Buf.of (streamCloseMsg type conn id reason) protoStreamHeaderLen =
      reason := fun type => byte_at (p := streamHeader type conn id) rfl
    (by simp [streamHeader, protoStreamHeaderLen])
  exact ⟨.streamClose (readsCommon_append (streamCloseMsg_eq _ _ _ _)) (hlen _)
      (readU32_at (streamCloseMsg_eq _ _ _ _) (by simp)) (hreason _),
    .streamCloseAck (readsCommon_append (streamCloseMsg_eq _ _ _ _)) (hlen _)
      (readU32_at (streamCloseMsg_eq _ _ _ _) (by simp)) (hreason _)⟩

lemma reads_streamPayload (conn : Conn) (id : UInt32) (payload : Bytes) :
    Reads (streamHeader msgStreamPayload conn id ++ payload)
      (.streamPayload conn.peerConnectionId id payload) := by
  have hd : streamHeader msgStreamPayload conn id ++ payload =
      writeCommon msgStreamPayload conn ++ (writeU32 id ++ payload) := by
    rw [streamHeader, List.append_assoc]
  have hlen : (streamHeader msgStreamPayload conn id).length = protoStreamHeaderLen := by
    simp [streamHeader, protoStreamHeaderLen]
  refine .streamPayload (readsCommon_append hd) (by simp [hlen]) (readU32_at hd (by simp)) ?_
  exact tail_at rfl hlen.symm (by simp [hlen])

/-! ### Senders -/

variable {K : Type}

/-- Any engine that gets the datagram handles it as the message `m`. -/
def HandledAs (d : Bytes) (m : Message) : Prop :=
  ∀ (K : Type) (env : Env K) (e : Engine K) (addr : Addr) (now : ℤ),
    addr ≠ [] ∧ addr.length ≤ addrMaxLen →
      protocolInput env e (Buf.of d) d.length addr now = m.handle env e d.length addr now

/-- The step hands one datagram to the socket, of at most 1500 bytes, that reads as `m` and is
handled as `m`. -/
def Sends (e e' : Engine K) (m : Message) : Prop :=
  ∃ o addr d ok, e'.trace = .write o addr d ok :: e.trace ∧ d.length ≤ protoMsgMaxLen ∧
    Reads d m ∧ HandledAs d m

lemma sends_socketv (env : Env K) (e : Engine K) (o : Owner) (c : ℕ) {iov : List Bytes}
    (hiov : iov ≠ []) {m : Message} (hlen : iov.flatten.length ≤ protoMsgMaxLen)
    (hm : Reads iov.flatten m) : Sends e (connWriteSocketv env e o c iov).2 m := by
  refine ⟨o, (e.conns c).peerAddr, iov.flatten, env.writeSocketv e.tick, ?_, hlen, hm,
    fun _ _ _ _ _ ha => hm.protocolInput ha⟩
  rw [connWriteSocketv, engineWriteSocketv, if_neg hiov]
  dsimp only
  split_ifs <;> rfl

lemma sends_socket (env : Env K) (e : Engine K) (o : Owner) (c : ℕ) {d : Bytes} {m : Message}
    (hlen : d.length ≤ protoMsgMaxLen) (hm : Reads d m) :
    Sends e (connWriteSocket env e o c d).2 m :=
  sends_socketv env e o c (List.cons_ne_nil d []) (by simpa using hlen) (by simpa using hm)

/-- **Wire round trip.**  Whatever the fields of the connection and the stream are, the
datagram of each send function has at most 1500 bytes and is read back as it was meant:
`kcpmux_protocol_input` takes it past every check and works with these fields.  A `CONN_CLOSE` is
sent once the peer's id is known. -/
theorem wire_round_trip (env : Env K) (e : Engine K) (c s : ℕ) (result reason : UInt8)
    (data : Bytes) (hdata : data ≠ []) (hlen : data.length ≤ 1487) :
    let x := e.conns c
    let conn := e.connOf s
    let id := (e.streams s).streamId
    Sends e (protocolSendConnConnect env e c).2
        (.connect x.localConnectionId version x.selfProtoExt.data) ∧
      Sends e (protocolSendConnConnectAck env e c result).2
        (.connectAck x.peerConnectionId x.localConnectionId version result x.selfProtoExt.data) ∧
      Sends e (protocolSendConnKeepalive env e c).2 (.keepalive x.peerConnectionId) ∧
      (x.peerConnectionId ≠ 0 → Sends e (protocolSendConnClose env e c reason).2
        (.connClose x.peerConnectionId reason)) ∧
      Sends e (protocolSendConnCloseAck env e c reason).2
        (.connCloseAck x.peerConnectionId reason) ∧
      Sends e (protocolSendStreamClose env e s reason).2
        (.streamClose conn.peerConnectionId id reason) ∧
      Sends e (protocolSendStreamCloseAck env e s reason).2
        (.streamCloseAck conn.peerConnectionId id reason) ∧
      Sends e (protocolSendStreamPayload env e s data).2
        (.streamPayload conn.peerConnectionId id data) := by
  intro x conn id
  have hext : x.selfProtoExt.len ≤ 512 := x.selfProtoExt.len_le
  have hconnect : (connConnectMsg x).length ≤ protoMsgMaxLen := by
    rw [ProtoExt.len] at hext
    simp only [connConnectMsg, List.length_append, length_writeCommon, length_writeU64,
      length_writeU16, List.length_singleton, protoCommonLen, protoMsgMaxLen]
    omega
  have hack : (connConnectAckMsg x result).length ≤ protoMsgMaxLen := by
    rw [ProtoExt.len] at hext
    simp only [connConnectAckMsg, List.length_append, length_writeCommon, length_writeU64,
      length_writeU16, List.length_singleton, protoCommonLen, protoMsgMaxLen]
    omega
  have hclose : ∀ type, (connCloseMsg type x reason).length ≤ protoMsgMaxLen := fun type => by
    simp [connCloseMsg, protoCommonLen, protoMsgMaxLen]
  have hstream : ∀ type, (streamCloseMsg type conn id reason).length ≤ protoMsgMaxLen :=
    fun type => by simp [streamCloseMsg, streamHeader, protoCommonLen, protoMsgMaxLen]
  refine ⟨?_, ?_, ?_, fun hp => ?_, ?_, ?_, ?_, ?_⟩
  · have hfit : ¬ protoConnectLen + x.selfProtoExt.len > protoMsgMaxLen := by
      simp only [protoConnectLen, protoCommonLen, protoMsgMaxLen]
      omega
    rw [protocolSendConnConnect, if_neg hfit]
    exact sends_socket env e _ c hconnect (reads_connConnectMsg x)
  · have hfit : ¬ protoConnectAckLen + x.selfProtoExt.len > protoMsgMaxLen := by
      simp only [protoConnectAckLen, protoCommonLen, protoMsgMaxLen]
      omega
    rw [protocolSendConnConnectAck, if_neg hfit]
    exact sends_socket env e _ c hack (reads_connConnectAckMsg x result)
  · exact sends_socket env e.tock _ c (by simp [connKeepaliveMsg, protoCommonLen, protoMsgMaxLen])
      (reads_connKeepaliveMsg x _)
  · rw [protocolSendConnClose, if_neg hp]
    exact sends_socket env e _ c (hclose _) (reads_connCloseMsg x reason).1
  · exact sends_socket env e _ c (hclose _) (reads_connCloseMsg x reason).2
  · exact sends_socket env e _ _ (hstream _) (reads_streamCloseMsg conn id reason).1
  · exact sends_socket env e _ _ (hstream _) (reads_streamCloseMsg conn id reason).2
  · have hhead : (streamHeader msgStreamPayload conn id).length = 13 := by
      simp [streamHeader, protoCommonLen]
    have hfit : ¬ protoStreamHeaderLen + data.length > protoMsgMaxLen := by
      simp only [protoStreamHeaderLen, protoCommonLen, protoMsgMaxLen]
      omega
    rw [protocolSendStreamPayload, if_neg hdata, if_neg hfit]
    have hflat : [streamHeader msgStreamPayload conn id, data].flatten =
        streamHeader msgStreamPayload conn id ++ data := by simp
    refine sends_socketv env e _ _ (List.cons_ne_nil _ _) ?_ ?_
    · rw [hflat, List.length_append]
      simp only [protoMsgMaxLen]
      omega
    · rw [hflat]
      exact reads_streamPayload conn id data

/-- An engine whose connections know the peer's id. -/
def knownPeerEngine : Engine Unit :=
  { idealEngine with conns := fun _ => { (default : Conn) with peerConnectionId := 5 } }

/-- A close with the reason 3, and a payload of one byte. -/
theorem wire_round_trip_known_peer :
    Sends knownPeerEngine (protocolSendConnClose (idealHost 0 0) knownPeerEngine 0 3).2
        (.connClose 5 3) ∧
      Sends knownPeerEngine (protocolSendStreamPayload (idealHost 0 0) knownPeerEngine 0 [7]).2
        (.streamPayload 5 0 [7]) := by
  obtain ⟨-, -, -, hclose, -, -, -, hpayload⟩ :=
    wire_round_trip (idealHost 0 0) knownPeerEngine 0 0 0 3 [7] (by decide) (by decide)
  exact ⟨hclose (by decide), hpayload⟩

end KcpMux
