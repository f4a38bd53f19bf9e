import KcpMux.Safety.Identifiers

/-!
Refused datagrams.

A datagram that `kcpmux_engine_input` refuses with one of the codes of `Refusal` leaves the
engine alone: only counters of datagrams move, and a `CONN_CONNECT` of another version may be
answered.  The code validates before it acts in every branch but one.  A `STREAM_PAYLOAD`
without a payload is found invalid by `kcpmux_stream_handle_payload`, and for a new stream of the
peer that is after the stream was created and offered to the host (`EmptyFirstPayload`).
-/

namespace KcpMux

variable {K : Type}

/-- The results with which a datagram is refused by the protocol: not `KCP` errors, and not a
lack of memory. -/
def Refusal (r : ℤ) : Prop :=
  r = -errInvalidParam ∨ r = -errInvalidFormat ∨ r = -errNotFound ∨ r = -errState ∨ r = -errNok

/-- The log of the answer to a `CONN_CONNECT` of another version. -/
def VersionAck (e : Engine K) (evs : List Event) : Prop :=
  ∃ c ok, evs = [.write (.conn c) (e.conns c).peerAddr
    (connConnectAckMsg (e.conns c) (UInt8.ofInt ackResultVersion)) ok]

/-- The engine differs at most in the counters of datagrams and by one answer to a
`CONN_CONNECT` of another version. -/
def Disregarded (e e' : Engine K) : Prop :=
  ∃ t st cs evs, st.lasting = e.stats.lasting ∧ (∀ c, (cs c).lasting = (e.connStats c).lasting) ∧
    (evs = [] ∨ VersionAck e evs) ∧
    e' = { e with tick := t, stats := st, connStats := cs, trace := evs ++ e.trace }

/-- A `STREAM_PAYLOAD` without a payload that opens a stream of the connection `c`. -/
def OpensEmpty (e : Engine K) (c : ℕ) (d : Bytes) : Prop :=
  (e.conns c).state = .connected ∧ ∃ id ≠ 0,
    PayloadDatagram d (e.conns c).localConnectionId id [] ∧
      PeerAcceptable (e.conns c) id ∧ ∀ s, e.LiveIn c s → (e.streams s).streamId ≠ id

/-- The datagram from `addr` opens a stream and has no payload for it. -/
def EmptyFirstPayload (e : Engine K) (d : Bytes) (addr : Addr) : Prop :=
  ∃ c, e.LiveConn c ∧ (e.conns c).peerAddr = addr ∧ OpensEmpty e c d

variable {env : Env K} {op : Call} {e e' : Engine K} {c s : ℕ} {d : Bytes} {recv : ℤ}

/-! ### Results -/

lemma not_refusal_zero : ¬ Refusal 0 := by
  simp [Refusal, errInvalidParam, errInvalidFormat, errNotFound, errState, errNok]

lemma not_refusal_oom : ¬ Refusal (-errOom) := by
  simp [Refusal, errInvalidParam, errInvalidFormat, errNotFound, errState, errNok, errOom]

/-- The errors of the KCP instance are offset by 300. -/
lemma not_refusal_kcp {ret : ℤ} (h : ret < 0) : ¬ Refusal (-errKcpRet ret) := by
  simp only [Refusal, errInvalidParam, errInvalidFormat, errNotFound, errState, errNok, errKcpRet]
  omega

/-- A payload is refused before the stream is touched. -/
lemma streamHandlePayload_refused (hl : e.LiveStream s) {b : Bytes} {now : ℤ}
    (hr : Refusal (streamHandlePayload env e s b now).1) :
    (streamHandlePayload env e s b now).2 = e ∧
      (b = [] ∨ streamKcpActive (e.streams s) = false) := by
  rw [streamHandlePayload] at hr ⊢
  dsimp only at hr ⊢
  split_ifs at hr ⊢ with hb hcl ha hret
  · exact ⟨rfl, Or.inl hb⟩
  · exact absurd (hl.2.symm.trans hcl) (by decide)
  · exact ⟨rfl, Or.inr ha⟩
  · exact absurd hr (not_refusal_kcp hret)
  · exact absurd hr not_refusal_zero

/-- A live stream is never in a state in which `STREAM_CLOSE` is refused. -/
lemma streamHandleClose_ret (h : Sound env e) (hl : e.LiveStream s) (reason : UInt8) :
    (streamHandleClose env e s reason).1 = 0 := by
  rw [streamHandleClose, if_neg (by simp [hl.2])]
  split_ifs with hn
  · rfl
  dsimp only
  rcases h.phased s hl with ⟨hst, -⟩ | ⟨hst, hp⟩
  · have hst' : (e.tock.streams s).state = .opened := hst
    rw [hst']
    dsimp only
    split_ifs <;> rfl
  · have hst' : (e.tock.streams s).state = .closing := hst
    have hp' : (e.tock.streams s).closePhase ≠ .none := hp
    rw [hst']
    dsimp only
    cases hph : (e.tock.streams s).closePhase with
    | none => exact absurd hph hp'
    | localDrain | waitAck | remoteDrain | finalize => rfl

/-! ### The handshake -/

lemma Disregarded.refl (e : Engine K) : Disregarded e e :=
  ⟨e.tick, e.stats, e.connStats, [], rfl, fun _ => rfl, Or.inl rfl, rfl⟩

/-- The answer to a `CONN_CONNECT` of another version. -/
lemma connSendConnectAck_untouched (env : Env K) (e : Engine K) (c : ℕ) :
    Disregarded e (connSendConnectAck env e c (UInt8.ofInt ackResultVersion)).2 := by
  rw [connSendConnectAck, protocolSendConnConnectAck_eq, connWriteSocket,
    connWriteSocketv_eq env e (.conn c) c (List.cons_ne_nil _ _)]
  simp only [List.flatten_cons, List.flatten_nil, List.append_nil]
  refine ⟨_, _, _, [_], ?_, fun q => ?_, ?_, rfl⟩
  · exact EngineStats.sent_lasting _ _ _
  · by_cases hq : q = c
    · subst hq
      rw [Function.update_self, ConnStats.sent_lasting]
    · rw [Function.update_of_ne hq]
  · exact Or.inr ⟨c, _, rfl⟩

lemma protocolAccept_ret (env : Env K) (e : Engine K) (addr : Addr) (id : UInt64) (ext : Bytes)
    (recv : ℤ) : ¬ Refusal (protocolAccept env e addr id ext recv).1 := by
  rw [protocolAccept]
  dsimp only
  split
  · exact not_refusal_oom
  · split_ifs <;> exact not_refusal_zero

/-- `CONN_CONNECT`. -/
lemma inputConnect_refused {buf : Buf} {size : ℕ} {addr : Addr}
    (hr : Refusal (inputConnect env e buf size addr recv).1) :
    Disregarded e (inputConnect env e buf size addr recv).2 := by
  rw [inputConnect] at hr ⊢
  dsimp only at hr ⊢
  split_ifs at hr ⊢ with h1 h2 h3 h4 hv
  · exact .refl e
  · exact .refl e
  · exact .refl e
  · exact .refl e
  · cases engineGetPassiveConn env e addr (readU64 buf protoCommonLen) with
    | none => exact .refl e
    | some c => exact connSendConnectAck_untouched env e c
  · cases hc : engineGetPassiveConn env e addr (readU64 buf protoCommonLen) with
    | none =>
        rw [hc] at hr
        exact absurd hr (protocolAccept_ret _ _ _ _ _ _)
    | some c =>
        rw [hc] at hr
        dsimp only at hr ⊢
        split_ifs at hr ⊢
        · exact .refl e
        · exact absurd hr not_refusal_zero

/-! ### Messages of a connection -/

/-- A payload for a stream that is not known yet. -/
lemma PeerCreated.of_refusal {id : UInt32} {payload : Bytes} {r : ℤ × Engine K}
    (h : PeerCreated env op d c id payload recv e r) (hi : Inside env e)
    (hp : PayloadDatagram d (e.conns c).localConnectionId id payload) (ha : Addressed op d e c)
    (hrecv : Read env e.tick recv) (hr : Refusal r.1) :
    r.2 = e ∧ ¬ PeerAcceptable (e.conns c) id ∨
      e.nstreams < r.2.nstreams ∧ PeerAcceptable (e.conns c) id ∧ payload = [] := by
  have hacts := h.acts hi hp ha hrecv
  cases h with
  | refused hno => exact Or.inl ⟨rfl, hno⟩
  | failed => exact absurd hr not_refusal_oom
  | rejected => exact absurd hr not_refusal_zero
  | @admitted e1 e2 hacc h =>
      obtain ⟨h3, ha3, hl3, hconn, hopen, hp3⟩ := h.admitted ha hp rfl
      refine Or.inr ⟨?_, hacc, ?_⟩
      · have h4 := protocolFirstPayload_acts (h3.inside hi) ha3 hl3 hconn hopen hp3
          (hrecv.mono (Acts.tick h3 hi.toOwn))
        have hn4 := (h4.grows (h3.inside hi).toOwn).nstreams
        exact lt_of_lt_of_le hl3.1 hn4
      · rw [protocolFirstPayload] at hr
        dsimp only at hr
        have hr' : Refusal (streamHandlePayload env (e2.log (.streamCreateNotify e.nstreams 0))
            e.nstreams payload recv).1 := by
          split_ifs at hr <;> exact hr
        refine (streamHandlePayload_refused hl3 hr').2.resolve_right fun hina => ?_
        rw [streamKcpActive_of_opened hopen] at hina
        cases hina

/-- `STREAM_PAYLOAD`. -/
lemma inputStreamPayload_refused (hi : Inside env e) (ha : Addressed op d e c)
    (htype : Buf.of d 0 = msgStreamPayload) (hrecv : Read env e.tick recv)
    (hr : Refusal (inputStreamPayload env e c (Buf.of d) d.length recv).1) :
    (inputStreamPayload env e c (Buf.of d) d.length recv).2 = e ∧ ¬ OpensEmpty e c d ∨
      e.nstreams < (inputStreamPayload env e c (Buf.of d) d.length recv).2.nstreams ∧
        OpensEmpty e c d := by
  rw [inputStreamPayload] at hr ⊢
  dsimp only at hr ⊢
  split_ifs at hr ⊢ with hst hlen hid
  · exact Or.inl ⟨rfl, fun h => hst h.1⟩
  · refine Or.inl ⟨rfl, ?_⟩
    rintro ⟨_, _, _, hp, _⟩
    exact absurd hp.len (not_le.mpr hlen)
  · refine Or.inl ⟨rfl, ?_⟩
    rintro ⟨_, id, h0, hp, _⟩
    exact h0 (hp.stream ▸ hid)
  have hp : PayloadDatagram d (e.conns c).localConnectionId
      (readU32 (Buf.of d) protoCommonLen)
      ((Buf.of d).slice protoStreamHeaderLen (d.length - protoStreamHeaderLen)) :=
    ⟨htype, ha.dest, rfl, not_lt.mp hlen, rfl⟩
  cases hs : connGetStreamById env e c (readU32 (Buf.of d) protoCommonLen) with
  | none =>
      rw [hs] at hr
      dsimp only at hr ⊢
      rcases (protocolCreateStream_created hi ha (not_not.mp hst) hid hs hp recv).of_refusal hi hp
        ha hrecv hr with ⟨heq, hno⟩ | ⟨hn, hacc, hempty⟩
      · refine Or.inl ⟨heq, ?_⟩
        rintro ⟨_, id, _, hp', hacc, _⟩
        refine hno ?_
        rw [hp'.stream]
        exact hacc
      · refine Or.inr ⟨hn, not_not.mp hst, _, hid, hempty ▸ hp, hacc, fun s hin hsid => ?_⟩
        have hsome := (connGetStreamById_eq_some hi.toOwn ha.live.1).mpr ⟨hin, hsid⟩
        exact absurd (hs.symm.trans hsome) (by simp)
  | some s =>
      rw [hs] at hr
      dsimp only at hr ⊢
      obtain ⟨hin, hsid⟩ := (connGetStreamById_eq_some hi.toOwn ha.live.1).mp hs
      have hr' : Refusal (streamHandlePayload env e s ((Buf.of d).slice protoStreamHeaderLen
          (d.length - protoStreamHeaderLen)) recv).1 := by
        split_ifs at hr <;> exact hr
      obtain ⟨heq, -⟩ := streamHandlePayload_refused hin.1 hr'
      refine Or.inl ⟨?_, ?_⟩
      · split_ifs with h0
        · exact absurd (h0 ▸ hr') not_refusal_zero
        · exact heq
      · rintro ⟨_, id, _, hp', _, hfree⟩
        exact hfree s hin (hsid.trans hp'.stream)

/-- The messages other than `CONN_CONNECT`, for the connection they name. -/
lemma inputConn_refused (hi : Inside env e) (ha : Addressed op d e c)
    (hrecv : Read env e.tick recv)
    (hr : Refusal (inputConn env e c (Buf.of d) d.length recv).1) :
    (inputConn env e c (Buf.of d) d.length recv).2 = e ∧ ¬ OpensEmpty e c d ∨
      e.nstreams < (inputConn env e c (Buf.of d) d.length recv).2.nstreams ∧
        OpensEmpty e c d := by
  have hopens : ∀ {type : UInt8}, Buf.of d 0 = type → type ≠ msgStreamPayload →
      ¬ OpensEmpty e c d := fun htype hne ⟨_, _, _, hp, _⟩ => hne (htype.symm.trans hp.type)
  rw [inputConn] at hr ⊢
  split_ifs at hr ⊢ with h1 h2 h3 h4 h5 h6 h7
  · refine Or.inl ⟨?_, hopens h1 (by decide)⟩
    rw [inputConnectAck] at hr ⊢
    dsimp only at hr ⊢
    split_ifs at hr ⊢ <;> first | rfl | exact absurd hr not_refusal_zero
  · refine Or.inl ⟨?_, hopens h2 (by decide)⟩
    rw [inputKeepalive] at hr ⊢
    split_ifs at hr ⊢
    · rfl
    · exact absurd hr not_refusal_zero
  · refine Or.inl ⟨?_, hopens h3 (by decide)⟩
    rw [inputConnClose] at hr ⊢
    split_ifs at hr ⊢
    · rfl
    · exact absurd hr not_refusal_zero
  · refine Or.inl ⟨?_, hopens h4 (by decide)⟩
    rw [inputConnCloseAck] at hr ⊢
    split_ifs at hr ⊢
    · rfl
    · rfl
    · exact absurd hr not_refusal_zero
  · refine Or.inl ⟨?_, hopens h5 (by decide)⟩
    rw [inputStreamClose] at hr ⊢
    dsimp only at hr ⊢
    split_ifs at hr ⊢
    · rfl
    · rfl
    · cases hs : connGetStreamById env e c (readU32 (Buf.of d) protoCommonLen) with
      | none => rfl
      | some s =>
          rw [hs] at hr
          dsimp only at hr
          obtain ⟨hin, -⟩ := (connGetStreamById_eq_some hi.toOwn ha.live.1).mp hs
          obtain ⟨hnote, -, hx, hn, -⟩ := ha.note hi hrecv false rfl
          have hl : (connNoteReceive env e c recv false).LiveStream s :=
            ⟨hn ▸ hin.1.1, by rw [hx]; exact hin.1.2⟩
          rw [streamHandleClose_ret (hnote.sound hi.toSound) hl] at hr
          exact absurd hr not_refusal_zero
  · refine Or.inl ⟨?_, hopens h6 (by decide)⟩
    rw [inputStreamCloseAck] at hr ⊢
    dsimp only at hr ⊢
    split_ifs at hr ⊢
    · rfl
    · rfl
    · cases hs : connGetStreamById env e c (readU32 (Buf.of d) protoCommonLen) with
      | none => rfl
      | some s =>
          rw [hs] at hr
          dsimp only at hr ⊢
          split_ifs at hr ⊢
          · rfl
          · exact absurd hr not_refusal_zero
  · exact inputStreamPayload_refused hi ha h7 hrecv hr
  · exact Or.inl ⟨rfl, hopens rfl h7⟩

/-! ### Input -/

lemma countReceived_untouched (e : Engine K) (c size : ℕ) : Disregarded e (e.countReceived c size) := by
  refine ⟨e.tick, e.stats, _, [], rfl, fun q => ?_, Or.inl rfl, rfl⟩
  by_cases hq : q = c
  · subst hq
    rw [Function.update_self]
    rfl
  · rw [Function.update_of_ne hq]

/-- **`kcpmux_protocol_input`.** -/
lemma protocolInput_refused (hi : Inside env e) {addr : Addr} (hrecv : Read env e.tick recv)
    (hn : e.NoInit) (hv : e.EachConn ValidAddr)
    (hr : Refusal (protocolInput env e (Buf.of d) d.length addr recv).1) :
    Disregarded e (protocolInput env e (Buf.of d) d.length addr recv).2 ∧
        ¬ EmptyFirstPayload e d addr ∨
      e.nstreams < (protocolInput env e (Buf.of d) d.length addr recv).2.nstreams ∧
        EmptyFirstPayload e d addr := by
  rw [protocolInput] at hr ⊢
  dsimp only at hr ⊢
  split_ifs at hr ⊢ with hlen haddr hshort htype hid
  · refine Or.inl ⟨.refl e, ?_⟩
    rintro ⟨_, _, _, _, _, _, hp, _⟩
    have := hp.len
    simp only [protoStreamHeaderLen, protoCommonLen] at this
    omega
  · refine Or.inl ⟨.refl e, ?_⟩
    rintro ⟨c, hl, hpeer, _⟩
    obtain ⟨h1, h2⟩ := hv c hl.1
    rw [hpeer] at h1 h2
    exact haddr.elim h1 (not_lt.mpr h2)
  · refine Or.inl ⟨.refl e, ?_⟩
    rintro ⟨_, _, _, _, _, _, hp, _⟩
    have := hp.len
    simp only [protoStreamHeaderLen] at this
    omega
  · refine Or.inl ⟨inputConnect_refused hr, ?_⟩
    rintro ⟨_, _, _, _, _, _, hp, _⟩
    exact absurd (htype.symm.trans hp.type) (by decide)
  · refine Or.inl ⟨.refl e, ?_⟩
    rintro ⟨c, hl, _, _, _, _, hp, _⟩
    exact (hi.connId c hl.1).1 (hp.dest_eq.symm.trans hid)
  have hfind := fun c => engineGetConnById_eq_some (c := c) hi.toOwn (by simpa using haddr) hid
  cases hc : engineGetConnById env e addr (readU64 (Buf.of d) 1) with
  | none =>
      refine Or.inl ⟨.refl e, ?_⟩
      rintro ⟨c, hl, hpeer, _, _, _, hp, _⟩
      have hsome := (hfind c).mpr ⟨hl, hp.dest_eq.symm, hpeer⟩
      exact absurd (hc.symm.trans hsome) (by simp)
  | some c =>
      rw [hc] at hr
      dsimp only at hr ⊢
      obtain ⟨hl, hdest, hpeer⟩ := (hfind c).mp hc
      have h0 : Acts env (.input d addr) e (e.countReceived c d.length) :=
        .single (countReceived_act c _)
      have ha : Addressed (.input d addr) d (e.countReceived c d.length) c :=
        ⟨hl, hn c hl, by rw [← hpeer]; rfl, hdest.symm⟩
      rcases inputConn_refused (h0.inside hi) ha (hrecv.mono (h0.tick hi.toOwn)) hr with
        ⟨heq, hno⟩ | ⟨hns, hopens⟩
      · rw [heq]
        refine Or.inl ⟨countReceived_untouched e c _, ?_⟩
        rintro ⟨c', hl', _, hopens⟩
        refine hno ?_
        obtain ⟨_, _, _, hp, _⟩ := id hopens
        have hcc : c' = c := hi.connIdInj c' hl'.1 c hl.1 (hp.dest_eq.symm.trans hdest.symm)
        subst hcc
        exact hopens
      · exact Or.inr ⟨hns, c, hl, hpeer, hopens⟩

lemma Disregarded.nstreams (h : Disregarded e e') : e'.nstreams = e.nstreams := by
  obtain ⟨t, st, cs, evs, -, -, -, rfl⟩ := h
  rfl

/-- **Refused datagrams change nothing**, unless they open a stream without a payload for it. -/
theorem refused_untouched_iff (h : Reachable env e) (d : Bytes) (addr : Addr)
    (hr : Refusal (engineInput env e d addr).1) :
    Disregarded e (engineInput env e d addr).2 ↔ ¬ EmptyFirstPayload e d addr := by
  have hb := h.boundary
  by_cases hd : d = []
  · rw [engineInput, if_pos hd]
    refine iff_of_true (.refl e) ?_
    rintro ⟨_, _, _, _, _, _, hp, _⟩
    have := hp.len
    simp [hd, protoStreamHeaderLen, protoCommonLen] at this
  obtain ⟨t, st, now, hlife, ht, hnow, hst, heq⟩ := engineInput_eq env e hd addr
  have hi : Inside env (e.opened t st) := hb.toSound.opened ht hlife
  rw [heq] at hr ⊢
  have hacts := (protocolInput_acts hi (rfl : Call.input d addr = _) hnow hb.noInit).1
  have hd1 : (protocolInput env (e.opened t st) (Buf.of d) d.length addr now).2.operationDepth =
      1 := by
    rw [(hacts.grows hi.toOwn).depth]
    show e.operationDepth + 1 = 1
    rw [hb.depth]
  rcases protocolInput_refused hi hnow hb.noInit h.validAddr hr with
    ⟨⟨t', st', cs', evs, hst', hcs, hev, heq'⟩, hno⟩ | ⟨hn, hopens⟩
  · refine iff_of_true ?_ hno
    rw [heq']
    refine ⟨t' + 1, st', cs', evs, hst'.trans (by rw [hst]; rfl), hcs, hev, ?_⟩
    exact hb.leave_eq h.armed t' st' cs' evs
  · refine iff_of_false (fun hu => ?_) fun hno => hno hopens
    obtain ⟨armed, deadline, evs, heq', -⟩ := engineOperationLeave_did env hd1
    have hns := hu.nstreams
    rw [heq'] at hns
    have : e.nstreams < e.nstreams := lt_of_lt_of_eq hn hns
    exact lt_irrefl _ this

/-- A `CONN_CONNECT` of another version for a connection that was accepted before. -/
def otherVersion : Bytes :=
  [0x81, 0, 0, 0, 0, 0, 0, 0, 0, 0, 0, 0, 0, 0, 0, 0, 7, version + 1, 0, 0]

/-- It is answered, and nothing else happens. -/
theorem refused_untouched_other_version :
    Disregarded accepted (engineInput (idealHost 0 0) accepted otherVersion [10]).2 := by
  refine (refused_untouched_iff accepted_reachable otherVersion [10] ?_).mpr ?_
  · have hret : (engineInput (idealHost 0 0) accepted otherVersion [10]).1 = -errNok := by
      decide +kernel
    rw [hret]
    exact Or.inr (Or.inr (Or.inr (Or.inr rfl)))
  · rintro ⟨_, _, _, _, _, _, hp, _⟩
    exact absurd hp.type (by decide)

/-- A `STREAM_PAYLOAD` for a new stream, without a payload. -/
def emptyPayload : Bytes := [0xa1, 0, 0, 0, 0, 0, 0, 0, 1, 0, 0, 0, 1]

/-- The engine after it was refused. -/
def offered : Engine Unit := (engineInput (idealHost 0 0) offering emptyPayload [10]).2

/-- The datagram is refused, and it has created a stream, called the host and moved the
high-water mark. -/
theorem refused_untouched_empty_payload :
    Reachable (idealHost 0 0) offering ∧
      (engineInput (idealHost 0 0) offering emptyPayload [10]).1 = -errInvalidParam ∧
      offering.nstreams = 0 ∧ offered.nstreams = 1 ∧
      .streamCreateNotify 0 0 ∈ offered.trace ∧ .streamCreateNotify 0 0 ∉ offering.trace ∧
      (offering.conns 0).peerStreamIdInitialized = false ∧
      (offered.conns 0).peerStreamIdInitialized = true := by
  refine ⟨offering_reachable, ?_, ?_, ?_, ?_, ?_, ?_, ?_⟩ <;> decide +kernel

end KcpMux
