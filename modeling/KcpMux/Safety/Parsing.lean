import KcpMux.Runs.Counters
import KcpMux.Runs.Views

/-!
A datagram is read inside its bounds.

* `Buf.Agree`: two buffers hold the same bytes below a size;
* `Extending`: two runs of a handler, the second on a buffer that holds more bytes, come to the same
  result, unless the first one refuses the format.  Each test of a handler has its rule, and a
  handler is followed test by test;
* `Act.ext`: an extension is stored only from the bytes that the datagram declares;
* `datagram_bounds`: the three facts together, for `kcpmux_protocol_input` in every reachable
  engine.
-/

namespace KcpMux

variable {K : Type} {env : Env K} {e : Engine K} {c size size' off : ℕ} {buf buf' : Buf}

/-! ### Buffers -/

/-- The buffers hold the same bytes below `size`. -/
def Buf.Agree (size : ℕ) (buf buf' : Buf) : Prop := ∀ i < size, buf' i = buf i

namespace Buf.Agree

lemma readU64 (h : Buf.Agree size buf buf') (hoff : off + 8 ≤ size) :
    readU64 buf' off = readU64 buf off := by
  rw [KcpMux.readU64, KcpMux.readU64]
  refine List.foldl_ext _ _ _ fun val i hi => ?_
  have hi8 : i < 8 := List.mem_range.mp hi
  rw [h (off + i) (by omega)]

lemma readU32 (h : Buf.Agree size buf buf') (hoff : off + 4 ≤ size) :
    readU32 buf' off = readU32 buf off := by
  rw [KcpMux.readU32, KcpMux.readU32, h off (by omega), h (off + 1) (by omega),
    h (off + 2) (by omega), h (off + 3) (by omega)]

lemma readU16 (h : Buf.Agree size buf buf') (hoff : off + 2 ≤ size) :
    readU16 buf' off = readU16 buf off := by
  rw [KcpMux.readU16, KcpMux.readU16, h off (by omega), h (off + 1) (by omega)]

lemma slice (h : Buf.Agree size buf buf') {len : ℕ} (hoff : off + len ≤ size) :
    buf'.slice off len = buf.slice off len := by
  refine List.map_congr_left fun i hi => h (off + i) ?_
  have hlen : i < len := List.mem_range.mp hi
  omega

end Buf.Agree

/-- The bytes of a datagram are where they were when more bytes follow. -/
lemma Buf.agree_append (d t : Bytes) : Buf.Agree d.length (Buf.of d) (Buf.of (d ++ t)) := by
  intro i hi
  simp [Buf.of, List.getD_eq_getElem?_getD, List.getElem?_append_left hi]

/-! ### Two runs of a handler -/

/-- A second run, on `size'` bytes instead of `size`, comes to a result that `R` allows, unless
the first run refuses the format. -/
def Extending (R : ℤ × Engine K → ℤ × Engine K → Prop) (size size' : ℕ) (r r' : ℤ × Engine K) : Prop :=
  size' = size ∨ size ≤ size' ∧ r.1 ≠ -errInvalidFormat → R r r'

namespace Extending

variable {R : ℤ × Engine K → ℤ × Engine K → Prop} {p p' : Prop} [Decidable p] [Decidable p']
  {r r' q q' : ℤ × Engine K}

lemma of (h : R r r') : Extending R size size' r r' := fun _ => h

/-- A test of the contents, which comes out the same. -/
lemma ite (hp : p' ↔ p) (hr : p → Extending R size size' r r') (hq : ¬ p → Extending R size size' q q') :
    Extending R size size' (if p then r else q) (if p' then r' else q') := by
  by_cases h : p
  · rw [if_pos h, if_pos (hp.mpr h)]
    exact hr h
  · rw [if_neg h, if_neg (mt hp.mp h)]
    exact hq h

/-- A test that refuses the format: with more bytes it may only come out better. -/
lemma refuse (hR : ∀ r, R r r) (heq : size' = size → (p' ↔ p)) (hle : size ≤ size' → p' → p)
    (hq : ¬ p → Extending R size size' q q') :
    Extending R size size' (if p then (-errInvalidFormat, e) else q)
      (if p' then (-errInvalidFormat, e) else q') := by
  intro hfit
  by_cases h : p
  · rw [if_pos h] at hfit ⊢
    rcases hfit with hsize | ⟨-, hne⟩
    · rw [if_pos ((heq hsize).mpr h)]
      exact hR _
    · exact absurd rfl hne
  · have h' : ¬ p' := hfit.elim (fun hs => mt (heq hs).mp h) fun hs => mt (hle hs.1) h
    rw [if_neg h] at hfit ⊢
    rw [if_neg h']
    exact hq h hfit

/-- A test of the length. -/
lemma short (hR : ∀ r, R r r) {k k' : ℕ} (hk : k' = k) (hq : k ≤ size → Extending R size size' q q') :
    Extending R size size' (if size < k then (-errInvalidFormat, e) else q)
      (if size' < k' then (-errInvalidFormat, e) else q') := by
  subst hk
  exact refuse hR (fun h => by rw [h]) (fun h => h.trans_lt) fun h => hq (not_lt.mp h)

/-- A test of the contents that refuses the format. -/
lemma bad (hR : ∀ r, R r r) (hp : p' ↔ p) (hq : ¬ p → Extending R size size' q q') :
    Extending R size size' (if p then (-errInvalidFormat, e) else q)
      (if p' then (-errInvalidFormat, e) else q') :=
  refuse hR (fun _ => hp) (fun _ => hp.mp) hq

end Extending

/-! ### Messages to a connection -/

/-- The two results are the same. -/
def Same (r r' : ℤ × Engine K) : Prop := r' = r

lemma Same.refl (r : ℤ × Engine K) : Same r r := rfl

section

variable (h : Buf.Agree size buf buf') (recv : ℤ)

include h

lemma inputConnectAck_extending :
    Extending Same size size' (inputConnectAck env e c buf size recv)
      (inputConnectAck env e c buf' size' recv) := by
  rw [inputConnectAck, inputConnectAck]
  refine .ite Iff.rfl (fun _ => .of rfl) fun _ => .short Same.refl rfl fun hlen => ?_
  have hlen' : 21 ≤ size := hlen
  have hid : readU64 buf' protoCommonLen = readU64 buf protoCommonLen :=
    h.readU64 (by rw [protoCommonLen]; omega)
  have hext : readU16 buf' (protoCommonLen + 10) = readU16 buf (protoCommonLen + 10) :=
    h.readU16 (by rw [protoCommonLen]; omega)
  have hver : buf' (protoCommonLen + 8) = buf (protoCommonLen + 8) :=
    h _ (by rw [protoCommonLen]; omega)
  have hres : buf' (protoCommonLen + 9) = buf (protoCommonLen + 9) :=
    h _ (by rw [protoCommonLen]; omega)
  rw [hid, hext, hver, hres]
  refine .bad Same.refl Iff.rfl fun _ => .bad Same.refl Iff.rfl fun _ =>
    .short Same.refl rfl fun hfits => ?_
  rw [h.slice hfits]
  exact .of rfl

lemma inputConnClose_extending :
    Extending Same size size' (inputConnClose env e c buf size recv)
      (inputConnClose env e c buf' size' recv) := by
  rw [inputConnClose, inputConnClose]
  refine .short Same.refl rfl fun hlen => .of ?_
  have hlen' : 10 ≤ size := hlen
  rw [h protoCommonLen (by rw [protoCommonLen]; omega)]
  rfl

lemma inputStreamClose_extending :
    Extending Same size size' (inputStreamClose env e c buf size recv)
      (inputStreamClose env e c buf' size' recv) := by
  rw [inputStreamClose, inputStreamClose]
  refine .short Same.refl rfl fun hlen => .of ?_
  have hlen' : 14 ≤ size := hlen
  rw [h.readU32 (by rw [protoCommonLen]; omega), h protoStreamHeaderLen hlen']
  rfl

lemma inputStreamCloseAck_extending :
    Extending Same size size' (inputStreamCloseAck env e c buf size recv)
      (inputStreamCloseAck env e c buf' size' recv) := by
  rw [inputStreamCloseAck, inputStreamCloseAck]
  refine .short Same.refl rfl fun hlen => .of ?_
  have hlen' : 14 ≤ size := hlen
  rw [h.readU32 (by rw [protoCommonLen]; omega)]
  rfl

omit h in
lemma inputStreamPayload_agree (h : Buf.Agree size buf buf') :
    inputStreamPayload env e c buf' size recv = inputStreamPayload env e c buf size recv := by
  rw [inputStreamPayload, inputStreamPayload]
  by_cases hlen : size < protoStreamHeaderLen
  · rw [if_pos hlen, if_pos hlen]
  · have hlen' : 13 ≤ size := not_lt.mp hlen
    rw [h.readU32 (by rw [protoCommonLen]; omega), h.slice (by omega)]

/-- **A message to a connection.** -/
lemma inputConn_extending (h0 : 0 < size) (hp : size' = size ∨ buf 0 ≠ msgStreamPayload) :
    Extending Same size size' (inputConn env e c buf size recv) (inputConn env e c buf' size' recv) := by
  rw [inputConn, inputConn, h 0 h0]
  refine .ite Iff.rfl (fun _ => inputConnectAck_extending h recv) fun _ => ?_
  refine .ite Iff.rfl (fun _ => ?_) fun _ => ?_
  · rw [inputKeepalive, inputKeepalive]
    exact .short Same.refl rfl fun _ => .of rfl
  refine .ite Iff.rfl (fun _ => inputConnClose_extending h recv) fun _ => ?_
  refine .ite Iff.rfl (fun _ => ?_) fun _ => ?_
  · rw [inputConnCloseAck, inputConnCloseAck]
    exact .ite Iff.rfl (fun _ => .of rfl) fun _ => .short Same.refl rfl fun _ => .of rfl
  refine .ite Iff.rfl (fun _ => inputStreamClose_extending h recv) fun _ => ?_
  refine .ite Iff.rfl (fun _ => inputStreamCloseAck_extending h recv) fun _ => ?_
  refine .ite Iff.rfl (fun hpay => ?_) fun _ => .of rfl
  obtain rfl := hp.resolve_right (not_not.mpr hpay)
  exact .of (inputStreamPayload_agree recv h)

end

/-! ### The dispatch -/

/-- The two results are the same up to at most `k` received bytes of one connection. -/
def Recounted (k : ℕ) (r r' : ℤ × Engine K) : Prop :=
  ∃ c n, n ≤ k ∧ r' = (r.1, r.2.addRx c n)

lemma addRx_zero (e : Engine K) (c : ℕ) : e.addRx c 0 = e := by
  have h : (e.connStats c).addRx 0 = e.connStats c := rfl
  rw [Engine.addRx, h, Function.update_eq_self]

lemma Recounted.refl {k : ℕ} (r : ℤ × Engine K) : Recounted k r r :=
  ⟨0, 0, Nat.zero_le k, by rw [addRx_zero]⟩

lemma Recounted.same {r r' : ℤ × Engine K} (h : Recounted 0 r r') : r' = r := by
  obtain ⟨c, n, hn, rfl⟩ := h
  rw [Nat.le_zero.mp hn, addRx_zero]

lemma countReceived_addRx (e : Engine K) (c : ℕ) (hle : size ≤ size') :
    e.countReceived c size' = (e.countReceived c size).addRx c (size' - size) := by
  have hsum : (e.connStats c).rxBytes + size + (size' - size) = (e.connStats c).rxBytes + size' := by
    omega
  simp [Engine.countReceived, Engine.addRx, ConnStats.addRx, hsum]

section

variable (h : Buf.Agree size buf buf') (hle : size ≤ size') (peerAddr : Addr) (recv : ℤ)

include h hle

lemma inputConnect_extending (hcommon : protoCommonLen ≤ size) :
    Extending (Recounted (size' - size)) size size' (inputConnect env e buf size peerAddr recv)
      (inputConnect env e buf' size' peerAddr recv) := by
  have hdest : readU64 buf' 1 = readU64 buf 1 := h.readU64 hcommon
  rw [inputConnect, inputConnect, hdest]
  refine .refuse Recounted.refl (fun hs => by rw [hs]) (fun hs => Or.imp_left hs.trans_lt)
    fun hlen => ?_
  have hlen' : 20 ≤ size := not_lt.mp (not_or.mp hlen).1
  have hid : readU64 buf' protoCommonLen = readU64 buf protoCommonLen :=
    h.readU64 (by rw [protoCommonLen]; omega)
  have hext : readU16 buf' (protoCommonLen + 9) = readU16 buf (protoCommonLen + 9) :=
    h.readU16 (by rw [protoCommonLen]; omega)
  have hver : buf' (protoCommonLen + 8) = buf (protoCommonLen + 8) :=
    h _ (by rw [protoCommonLen]; omega)
  rw [hid, hext, hver]
  refine .bad Recounted.refl Iff.rfl fun _ => .bad Recounted.refl Iff.rfl fun _ =>
    .short Recounted.refl rfl fun hfits => ?_
  rw [h.slice hfits]
  refine .ite Iff.rfl (fun _ => .of (Recounted.refl _)) fun _ => ?_
  cases engineGetPassiveConn env e peerAddr (readU64 buf protoCommonLen) with
  | none => exact .of (Recounted.refl _)
  | some c =>
      refine .ite Iff.rfl (fun _ => .of (Recounted.refl _)) fun _ =>
        .of ⟨c, size' - size, le_rfl, ?_⟩
      dsimp only
      rw [countReceived_addRx e c hle, connNoteReceive_addRx, connSendConnectAck_addRx]

/-- **A datagram and one that goes on** are worked off alike. -/
lemma protocolInput_extending (env : Env K) (e : Engine K) (h0 : 0 < size)
    (hp : size' = size ∨ buf 0 ≠ msgStreamPayload) :
    Extending (Recounted (size' - size)) size size' (protocolInput env e buf size peerAddr recv)
      (protocolInput env e buf' size' peerAddr recv) := by
  rw [protocolInput, protocolInput, if_neg (show ¬ size < 1 by omega),
    if_neg (show ¬ size' < 1 by omega), h 0 h0]
  refine .ite Iff.rfl (fun _ => .of (Recounted.refl _)) fun _ =>
    .short Recounted.refl rfl fun hcommon => ?_
  have hdest : readU64 buf' 1 = readU64 buf 1 := h.readU64 hcommon
  refine .ite Iff.rfl (fun _ => inputConnect_extending h hle peerAddr recv hcommon) fun _ => ?_
  rw [hdest]
  refine .bad Recounted.refl Iff.rfl fun _ => ?_
  cases engineGetConnById env e peerAddr (readU64 buf 1) with
  | none => exact .of (Recounted.refl _)
  | some c =>
      intro hfit
      have hsame : inputConn env (e.countReceived c size) c buf' size' recv =
          inputConn env (e.countReceived c size) c buf size recv :=
        inputConn_extending h recv h0 hp hfit
      dsimp only
      rcases hp with rfl | hp
      · rw [hsame]
        exact Recounted.refl _
      · rw [countReceived_addRx e c hle, inputConn_addRx env _ c _ c buf' (by rwa [h 0 h0]) size'
          recv, hsame]
        exact ⟨c, size' - size, le_rfl, rfl⟩

end

/-! ### The stored extension -/

/-- The datagram declares an extension of `len` bytes at the offset `off`: `ext_len` stands right
before it. -/
inductive DeclaresExt (d : Bytes) : (off len : ℕ) → Prop
  | connect (h : Buf.of d 0 = msgConnConnect) :
      DeclaresExt d protoConnectLen (readU16 (Buf.of d) (protoCommonLen + 9)).toNat
  | connectAck (h : Buf.of d 0 = msgConnConnectAck) :
      DeclaresExt d protoConnectAckLen (readU16 (Buf.of d) (protoCommonLen + 10)).toNat

/-- The extension is the one that the datagram declares, with all its bytes.  They are at most 512
and lie inside the datagram. -/
def StoredFrom (d : Bytes) (ext : ProtoExt) : Prop :=
  ∃ off len, DeclaresExt d off len ∧ len ≤ protoExtMaxLen ∧ off + len ≤ d.length ∧
    ext.data = (Buf.of d).slice off len

lemma StoredFrom.clip {d ext : Bytes} {len : ℕ} (hdecl : DeclaresExt d off len)
    (hext : ext = (Buf.of d).slice off len) (hlen : len ≤ protoExtMaxLen)
    (hfits : off + len ≤ d.length) : StoredFrom d (.clip ext) := by
  refine ⟨off, len, hdecl, hlen, hfits, ?_⟩
  rw [ProtoExt.clip_data (by rw [hext]; simpa [Buf.slice] using hlen), hext]

variable {d : Bytes} {addr : Addr} {e' : Engine K} {q : ℕ}

lemma ConnTrans.ext {t : ℕ} {x x' : Conn} {evs : List Event} {now : Option ℤ}
    (h : ConnTrans env (.input d addr) t c x x' evs now) :
    x'.peerProtoExt = x.peerProtoExt ∨ StoredFrom d x'.peerProtoExt := by
  cases h with
  | @established now d' id ext hnow hs hop hd =>
      cases hop
      by_cases hext : ext = []
      · exact Or.inl (if_pos hext)
      · refine Or.inr ?_
        have hsome : (if ext = [] then x.peerProtoExt else .clip ext) = .clip ext := if_neg hext
        show StoredFrom d (if ext = [] then x.peerProtoExt else .clip ext)
        rw [hsome]
        exact .clip (.connectAck hd.type) hd.ext_eq hd.ext_le hd.len
  | _ => exact Or.inl rfl

/-- **An extension that changes** is stored from the datagram. -/
lemma Act.ext (ha : Act env (.input d addr) e e') (h : Sound env e) (hq : q < e'.nconns) :
    q < e.nconns ∧ (e'.conns q).peerProtoExt = (e.conns q).peerProtoExt ∨
      StoredFrom d (e'.conns q).peerProtoExt := by
  by_cases hlt : q < e.nconns
  · obtain ⟨evs, hv, -⟩ := ha.connViewed h hlt
    generalize e'.conns q = x at hv ⊢
    cases hv with
    | trans hl ht hx => exact hx.ext.imp_left fun hext => ⟨hlt, hext⟩
    | last hl hx =>
        cases hx
        exact Or.inl ⟨hlt, rfl⟩
    | _ => exact Or.inl ⟨hlt, rfl⟩
  · rcases ha.nconns h.toOwn with hn | ⟨t, x, hx, hn, hx', -⟩
    · omega
    · obtain rfl : q = e.nconns := by omega
      rw [hx']
      cases hx with
      | initiator hop => cases hop
      | passive hop hd =>
          cases hop
          exact Or.inr (.clip (.connect hd.type) hd.ext_eq hd.ext_le hd.len)

lemma Acts.ext (ha : Acts env (.input d addr) e e') (h : Sound env e) (hq : q < e'.nconns) :
    q < e.nconns ∧ (e'.conns q).peerProtoExt = (e.conns q).peerProtoExt ∨
      StoredFrom d (e'.conns q).peerProtoExt := by
  induction ha with
  | refl => exact Or.inl ⟨hq, rfl⟩
  | tail h1 h2 ih =>
      rcases h2.ext (Acts.sound h1 h) hq with ⟨hq1, hext⟩ | hstored
      · rw [hext]
        exact ih hq1
      · exact Or.inr hstored

/-! ### The datagram -/

/-- The engine in which `kcpmux_engine_input` hands `d` to `kcpmux_protocol_input`. -/
def Engine.receiving (e : Engine K) (d : Bytes) : Engine K :=
  e.opened (e.tick + 1) { e.stats with
    rxPackets := e.stats.rxPackets + 1, rxBytes := e.stats.rxBytes + d.length }

/-- **A datagram is read inside its bounds.**  In every reachable engine, while
`kcpmux_engine_input` works off a datagram `d`:
* the result depends only on the bytes of `d`, whatever lies behind them in memory;
* every connection keeps the extension of its peer, or takes the one that `d` declares, of at most
  512 bytes that lie inside `d`;
* bytes that follow a control message which is not refused for its format change nothing but
  the count of received bytes of one connection. -/
theorem datagram_bounds (h : Reachable env e) (hd : d ≠ []) (addr : Addr) {recv : ℤ}
    (hrecv : recv = env.monotonicTimeMs e.tick) {r : ℤ × Engine K}
    (hr : r = protocolInput env (e.receiving d) (Buf.of d) d.length addr recv) :
    (∀ buf, Buf.Agree d.length (Buf.of d) buf →
        protocolInput env (e.receiving d) buf d.length addr recv = r) ∧
      (∀ q < r.2.nconns,
        q < e.nconns ∧ (r.2.conns q).peerProtoExt = (e.conns q).peerProtoExt ∨
          StoredFrom d (r.2.conns q).peerProtoExt) ∧
      (Buf.of d 0 ≠ msgStreamPayload → r.1 ≠ -errInvalidFormat → ∀ t, ∃ c n,
        protocolInput env (e.receiving d) (Buf.of (d ++ t)) (d ++ t).length addr recv =
          (r.1, r.2.addRx c n)) := by
  have h0 : 0 < d.length := List.length_pos_iff.mpr hd
  refine ⟨fun buf hbuf => ?_, fun q hq => ?_, fun htype hres t => ?_⟩
  · have hext := protocolInput_extending hbuf le_rfl addr recv env (e.receiving d) h0 (Or.inl rfl)
    rw [Nat.sub_self, ← hr] at hext
    exact (hext (Or.inl rfl)).same
  · have hi : Inside env (e.receiving d) := h.boundary.toSound.opened (Nat.le_succ _) rfl
    have hread : Read env (e.receiving d).tick recv := ⟨e.tick, Nat.lt_succ_self _, hrecv.symm⟩
    have hacts : Acts env (.input d addr) (e.receiving d) _ :=
      (protocolInput_acts hi rfl hread h.boundary.noInit).1
    rw [← hr] at hacts
    exact hacts.ext hi.toSound hq
  · have hle : d.length ≤ (d ++ t).length := by
      rw [List.length_append]
      omega
    have hext := protocolInput_extending (Buf.agree_append d t) hle addr recv env (e.receiving d) h0
      (Or.inr htype)
    rw [← hr] at hext
    obtain ⟨c, n, -, heq⟩ := hext (Or.inr ⟨hle, hres⟩)
    exact ⟨c, n, heq⟩

/-- A repeated `CONN_CONNECT` with a byte behind it. -/
theorem datagram_bounds_repeated : ∃ c n,
    protocolInput (idealHost 0 0) (accepted.receiving plainConnect)
      (Buf.of (plainConnect ++ [1])) (plainConnect ++ [1]).length [10] accepted.tick =
      ((protocolInput (idealHost 0 0) (accepted.receiving plainConnect) (Buf.of plainConnect)
          plainConnect.length [10] accepted.tick).1,
        (protocolInput (idealHost 0 0) (accepted.receiving plainConnect) (Buf.of plainConnect)
          plainConnect.length [10] accepted.tick).2.addRx c n) :=
  (datagram_bounds accepted_reachable (by decide) [10] rfl rfl).2.2 (by decide)
    (by decide +kernel) [1]

end KcpMux
