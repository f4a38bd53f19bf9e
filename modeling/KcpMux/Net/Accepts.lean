import KcpMux.Net.Handshake

/-!
How often a host is asked to accept a connection.

An engine recognises a repeated `CONN_CONNECT` by the live passive connection with the same peer:
`handshake_map` forgets a connection when it is finalised.

* `Boundary.input_nconns`: a `CONN_CONNECT` creates at most one connection, and none while a
  passive connection with the same peer is live;
* `accepted_at_most_once`: no initiator is accepted twice, in every run in which no
  `CONN_CONNECT` arrives after the connection that was accepted for it has been finalised;
* `accepted_at_most_once_late`: one that arrives later is accepted again.
-/

namespace KcpMux

variable {K L : Type} {env : Env K} {op : Call} {e e' : Engine K} {c t : ℕ} {x : Conn}
  {evs log : List Event} {d : Bytes} {addr : Addr}

/-! ### What a `CONN_CONNECT` creates -/

lemma connSendConnectAck_nconns (env : Env K) (e : Engine K) (c : ℕ) (result : UInt8) :
    (connSendConnectAck env e c result).2.nconns = e.nconns := by
  rw [connSendConnectAck, protocolSendConnConnectAck_eq]
  obtain ⟨st, cs, ok, -, heq⟩ := connWrite_did env e c (connConnectAckMsg (e.conns c) result)
  rw [heq]
  rfl

lemma inputConnect_nconns (hi : Inside env e) (hop : op = .input d addr)
    (htype : Buf.of d 0 = msgConnConnect) (ha : addr ≠ [] ∧ addr.length ≤ addrMaxLen) {recv : ℤ}
    (hrecv : Read env e.tick recv) :
    (inputConnect env e (Buf.of d) d.length addr recv).2.nconns = e.nconns ∨
      ((inputConnect env e (Buf.of d) d.length addr recv).2.nconns = e.nconns + 1 ∧
        readU64 (Buf.of d) protoCommonLen ≠ 0 ∧
        engineGetPassiveConn env e addr (readU64 (Buf.of d) protoCommonLen) = none) := by
  rw [inputConnect]
  dsimp only
  split_ifs with hlen hid hextLen hshort hver
  · exact Or.inl rfl
  · exact Or.inl rfl
  · exact Or.inl rfl
  · exact Or.inl rfl
  · cases hc : engineGetPassiveConn env e addr (readU64 (Buf.of d) protoCommonLen) with
    | none => exact Or.inl rfl
    | some c => exact Or.inl (connSendConnectAck_nconns env e c _)
  · cases hc : engineGetPassiveConn env e addr (readU64 (Buf.of d) protoCommonLen) with
    | some c =>
        have hl := ((engineGetPassiveConn_eq_some hi.toOwn ha hid).mp hc).1.1
        dsimp only
        split_ifs with hst
        · exact Or.inl rfl
        · obtain ⟨m, t, -, -, heq⟩ := connNoteReceive_did env (e := e.countReceived c d.length)
            hi.depth hl.2 (hi.conn_owner hl) recv false
          rw [connSendConnectAck_nconns, heq]
          exact Or.inl rfl
    | none =>
        rw [not_not] at hver
        have hent := protocolAccept_entered hi hop
          ⟨htype, rfl, hid, hver, rfl, not_lt.mp hextLen, not_lt.mp hshort⟩ ha hc hrecv
        dsimp only
        generalize protocolAccept env e addr _ _ recv = r at hent ⊢
        cases hent with
        | failed h hn => exact Or.inl hn
        | entered h1 hl1 hlate hn1 h hn => exact Or.inr ⟨hn.trans hn1, hid, rfl⟩

/-- **What a `CONN_CONNECT` creates**: at most one connection, and none while a passive
connection with the same peer is live. -/
lemma Boundary.input_nconns (hb : Boundary env e) (addr : Addr)
    (htype : Buf.of d 0 = msgConnConnect) :
    ((Call.input d addr).exec env e).nconns = e.nconns ∨
      (((Call.input d addr).exec env e).nconns = e.nconns + 1 ∧
        ∀ q, e.LivePassive q → (e.conns q).peerAddr = addr →
          (e.conns q).peerConnectionId ≠ readU64 (Buf.of d) protoCommonLen) := by
  have hne : d ≠ [] := by
    rintro rfl
    exact absurd htype (by decide)
  obtain ⟨e0, hr⟩ := hb.received hne addr
  obtain ⟨st, -, he0⟩ := hr.opened
  obtain ⟨armed, deadline, evs, heq, -⟩ := engineOperationLeave_did env hr.depth
  have hexec : ((Call.input d addr).exec env e).nconns =
      (protocolInput env e0 (Buf.of d) d.length addr (env.monotonicTimeMs e.tick)).2.nconns := by
    show (engineInput env e d addr).2.nconns = _
    rw [hr.result, heq]
    rfl
  have hn0 : e0.nconns = e.nconns := by rw [he0]; rfl
  rw [hexec, protocolInput, ← hn0]
  split_ifs with hlen haddr hshort
  · exact Or.inl rfl
  · exact Or.inl rfl
  · exact Or.inl rfl
  · have ha : addr ≠ [] ∧ addr.length ≤ addrMaxLen := by simpa using haddr
    have hself : Call.input d addr = .input d addr := rfl
    rcases inputConnect_nconns hr.inside hself htype ha hr.read with hn | ⟨hn, hid, hnone⟩
    · exact Or.inl hn
    · refine Or.inr ⟨hn, fun q hq hqa hqp => ?_⟩
      have hq0 : e0.LivePassive q ∧ (e0.conns q).peerConnectionId =
          readU64 (Buf.of d) protoCommonLen ∧ (e0.conns q).peerAddr = addr := by
        rw [he0]
        exact ⟨hq, hqp, hqa⟩
      rw [(engineGetPassiveConn_eq_some hr.inside.toOwn ha hid).mpr hq0] at hnone
      cases hnone

/-! ### Who is asked about -/

/-- The entry is the acceptance of a connection with the peer id `id` at `addr`. -/
def Engine.accepts (e : Engine K) (addr : Addr) (id : UInt64) : Event → Bool
  | .connConnectNotify c r =>
      r = ackResultOk && (e.conns c).peerAddr = addr && (e.conns c).peerConnectionId = id
  | _ => false

/-- The host has accepted the passive connection `c`, with the peer id `id` at `addr`. -/
structure AcceptedFor (e : Engine K) (addr : Addr) (id : UInt64) (c : ℕ) : Prop where
  lt : c < e.nconns
  passive : (e.conns c).isInitiator = false
  addr_eq : (e.conns c).peerAddr = addr
  id_eq : (e.conns c).peerConnectionId = id
  ok : .connConnectNotify c ackResultOk ∈ e.trace

/-- No peer was accepted twice. -/
def AcceptedOnce (e : Engine K) : Prop :=
  ∀ addr id c c', AcceptedFor e addr id c → AcceptedFor e addr id c' → c = c'

/-- The call is not a `CONN_CONNECT` for which a connection was accepted that has been
finalised since. -/
def NoLateConnect (e : Engine K) (op : Call) : Prop :=
  ∀ d addr id ext c, op = .input d addr → ConnectDatagram d id ext → AcceptedFor e addr id c →
    e.LiveConn c

/-- A connection past `INIT` is not asked about. -/
lemma ConnTrans.unasked {x' : Conn} {now : Option ℤ} (h : ConnTrans env op t c x x' evs now)
    (hs : x.state ≠ .init) : x'.state ≠ .init ∧ ∀ ev ∈ evs, ev.decides = false := by
  have hstate : ∀ new, ∀ ev ∈ connStateEvents c x new, ev.decides = false := by
    intro new ev hev
    rw [connStateEvents] at hev
    split_ifs at hev <;> simp at hev
    · rcases hev with rfl | rfl <;> rfl
    · subst hev
      rfl
  cases h with
  | accept _ _ hini => exact absurd hini hs
  | connecting => exact ⟨by simp, by simp [Event.decides]⟩
  | established => exact ⟨by simp, hstate _⟩
  | close => exact ⟨by simp, hstate _⟩
  | idle => exact ⟨by simp, hstate _⟩
  | fail => exact ⟨by simp, by simp [Event.decides]⟩
  | sendClose =>
      refine ⟨hs, fun ev hev => ?_⟩
      split_ifs at hev <;> simp at hev
      subst hev
      rfl
  | _ => exact ⟨hs, by simp [Event.decides]⟩

lemma ConnView.unasked (hv : ConnView env op e c x evs) (hc : c < e.nconns)
    (hs : e.LiveConn c → (e.conns c).state ≠ .init) :
    (x.internalClosed = false → x.state ≠ .init) ∧ ∀ ev ∈ evs, ev.decides = false := by
  cases hv with
  | same => exact ⟨fun hl => hs ⟨hc, hl⟩, by simp⟩
  | trans hl ht h =>
      obtain ⟨hst, hev⟩ := h.unasked (hs hl)
      exact ⟨fun _ => hst, hev⟩
  | streams hl => exact ⟨fun _ => hs hl, by simp⟩
  | final hl hst =>
      refine ⟨fun hcl => ?_, fun ev hev => ?_⟩
      · cases hcl
      · rw [endConnEvents] at hev
        split_ifs at hev <;> simp at hev <;> rcases hev with rfl | rfl <;> rfl
  | last hl h =>
      cases h with
      | reject _ hst => exact absurd hst (hs hl)
  | release hl => exact ⟨fun hcl => absurd ⟨hc, hcl⟩ hl, by simp [Event.decides]⟩

/-- What a call does to the connections there were when it began, `e`, and to those it has
created. -/
structure Asks (op : Call) (e e1 : Engine K) : Prop where
  ext : Extends e e1
  hist : e1.EachConn ConnHist
  settled : ∀ c < e.nconns, e1.LiveConn c → (e1.conns c).state ≠ .init
  old : ∀ c < e.nconns, ∀ r, .connConnectNotify c r ∈ e1.trace → .connConnectNotify c r ∈ e.trace
  peer : ∀ c < e.nconns, (e.conns c).isInitiator = false →
    (e1.conns c).peerConnectionId = (e.conns c).peerConnectionId
  new : ∀ c < e1.nconns, e.nconns ≤ c → (e1.conns c).isInitiator = false →
    ∃ d ext, op = .input d (e1.conns c).peerAddr ∧
      ConnectDatagram d (e1.conns c).peerConnectionId ext

lemma Asks.refl (hb : Boundary env e) (hh : e.EachConn ConnHist) : Asks op e e :=
  ⟨.refl e, hh, fun c _ hl => hb.noInit c hl, fun _ _ _ hr => hr, fun _ _ _ => rfl,
    fun _ hc hle => absurd hc (not_lt.mpr hle)⟩

lemma Asks.move {e1 e2 : Engine K} (h : Asks op e e1) (hs : Steady env e1)
    (hm : Move env op e1 e2) : Asks op e e2 where
  ext := h.ext.trans (hm.extends hs)
  hist := hm.connHist hs h.hist
  settled c hc hl := by
    have hlt := hc.trans_le h.ext.nconns
    obtain ⟨evs, hv, -⟩ := hm.connViewed hs hlt
    exact (hv.unasked hlt (h.settled c hc)).1 hl.2
  old c hc r hr := by
    have hlt := hc.trans_le h.ext.nconns
    obtain ⟨evs, hv, hlog⟩ := hm.connViewed hs hlt
    have hmem : .connConnectNotify c r ∈ e2.logOf (.conn c) := mem_logOf.mpr ⟨hr, rfl⟩
    rw [hlog] at hmem
    rcases List.mem_append.mp hmem with hev | hold
    · exact absurd ((hv.unasked hlt (h.settled c hc)).2 _ hev) (by simp [Event.decides])
    · exact h.old c hc r (mem_logOf.mp hold).1
  peer c hc hi := by
    have hlt := hc.trans_le h.ext.nconns
    obtain ⟨evs, hv, -⟩ := hm.connViewed hs hlt
    have hi1 : (e1.conns c).isInitiator = false :=
      (congrArg (fun i => i.1) (h.ext.conn c hc).1).trans hi
    rw [hv.peer_eq (h.hist c hlt).1 ((h.hist c hlt).1.passive hi1)]
    exact h.peer c hc hi
  new c hc hle hi := by
    by_cases hlt : c < e1.nconns
    · obtain ⟨evs, hv, -⟩ := hm.connViewed hs hlt
      obtain ⟨hini, -, haddr⟩ : (e2.conns c).isInitiator = (e1.conns c).isInitiator ∧
          (e2.conns c).localConnectionId = (e1.conns c).localConnectionId ∧
          (e2.conns c).peerAddr = (e1.conns c).peerAddr := by
        simpa [Conn.ident] using ((hm.extends hs).conn c hlt).1
      rw [hini] at hi
      rw [haddr, hv.peer_eq (h.hist c hlt).1 ((h.hist c hlt).1.passive hi)]
      exact h.new c hlt hle hi
    · rcases hm.nconns hs with hn | ⟨t, x, hx, hn, hrec, -⟩
      · exact absurd (hn ▸ hc) hlt
      · obtain rfl : c = e1.nconns := by omega
        rw [hrec] at hi ⊢
        cases hx with
        | initiator => cases hi
        | @passive addr d ext id _ _ _ _ hop hd => exact ⟨d, ext, hop, hd⟩

lemma Reachable.asks (h : Reachable env e) (hv : op.Valid e) : Asks op e (op.exec env e) :=
  (h.boundary.exec hv).1.induct h.boundary.toSteady (Asks.refl h.boundary h.connHist)
    fun _ _ hs hm h1 => h1.move hs hm

/-- A connection that was there before the call was accepted before it. -/
lemma Asks.acceptedFor {id : UInt64} (h : Asks op e e') (hc : c < e.nconns)
    (ha : AcceptedFor e' addr id c) : AcceptedFor e addr id c := by
  obtain ⟨hini, -, haddr⟩ : (e'.conns c).isInitiator = (e.conns c).isInitiator ∧
      (e'.conns c).localConnectionId = (e.conns c).localConnectionId ∧
      (e'.conns c).peerAddr = (e.conns c).peerAddr := by
    simpa [Conn.ident] using (h.ext.conn c hc).1
  have hi : (e.conns c).isInitiator = false := hini.symm.trans ha.passive
  exact ⟨hc, hi, haddr.symm.trans ha.addr_eq, (h.peer c hc hi).symm.trans ha.id_eq,
    h.old c hc _ ha.ok⟩

/-- A peer that was accepted before is not accepted by the call. -/
lemma Reachable.accepted_new {id : UInt64} {c' : ℕ} (h : Reachable env e) (hv : op.Valid e)
    (hg : NoLateConnect e op) (hc : AcceptedFor e addr id c)
    (ha : AcceptedFor (op.exec env e) addr id c') : c' < e.nconns := by
  by_contra hlt
  obtain ⟨d, ext, hop, hd⟩ := (h.asks hv).new c' ha.lt (not_lt.mp hlt) ha.passive
  rw [ha.addr_eq] at hop
  rw [ha.id_eq] at hd
  subst hop
  rcases h.boundary.input_nconns addr hd.type with hn | ⟨-, hnone⟩
  · exact hlt (hn ▸ ha.lt)
  · have hlive := hg d addr id ext c rfl hd hc
    exact hnone c ⟨hlive, hc.passive⟩ hc.addr_eq (hc.id_eq.trans hd.source.symm)

/-- **One call** accepts no peer that was accepted before, and none twice. -/
lemma Reachable.acceptedOnce_exec (h : Reachable env e) (hv : op.Valid e)
    (hg : NoLateConnect e op) (ho : AcceptedOnce e) : AcceptedOnce (op.exec env e) := by
  intro addr id c c' hc hc'
  have hasks := h.asks hv
  by_cases hlt : c < e.nconns
  · have hold := hasks.acceptedFor hlt hc
    exact ho addr id c c' hold (hasks.acceptedFor (h.accepted_new hv hg hold hc') hc')
  by_cases hlt' : c' < e.nconns
  · have hold := hasks.acceptedFor hlt' hc'
    exact absurd (h.accepted_new hv hg hold hc) hlt
  -- both were created by this call
  · obtain ⟨d, ext, hop, hd⟩ := hasks.new c hc.lt (not_lt.mp hlt) hc.passive
    have hn : (op.exec env e).nconns ≤ e.nconns + 1 := by
      rw [hop]
      rcases h.boundary.input_nconns ((op.exec env e).conns c).peerAddr hd.type with
        hn | ⟨hn, -⟩ <;> omega
    have h1 := hc.lt
    have h2 := hc'.lt
    omega

/-! ### Two engines -/

variable {envA : Env K} {envB : Env L} {addrA addrB : Addr} {a : Engine K} {b : Engine L}

lemma SessionWhen.acceptedOnce
    (h : SessionWhen envA envB addrA addrB (fun _ _ => True) NoLateConnect a b) :
    AcceptedOnce b := by
  refine (SessionWhen.knows h.symm (I := fun _ e => AcceptedOnce e) ?_ ?_ ?_).1
  · exact fun _ _ _ _ h => h
  · intro D cc sc e hcreate
    obtain ⟨cc, sc, id, -, rfl⟩ := engineCreate_eq hcreate
    exact fun _ _ c _ hc => absurd hc.lt (Nat.not_lt_zero c)
  · exact fun D e op hr ho hv hg _ => hr.acceptedOnce_exec hv hg ho

/-- The acceptances of one peer are decisions about one connection. -/
lemma Reachable.countP_accepts (h : Reachable env e) (ho : AcceptedOnce e) (id : UInt64) :
    e.trace.countP (e.accepts addr id) ≤ 1 := by
  by_cases hnone : e.trace.countP (e.accepts addr id) = 0
  · omega
  have haccepted : ∀ ev ∈ e.trace, e.accepts addr id ev = true →
      ∃ c, ev = .connConnectNotify c ackResultOk ∧ AcceptedFor e addr id c := by
    intro ev hev hacc
    cases ev with
    | connConnectNotify c r =>
        have hc := h.boundary.known _ hev (.conn c) rfl
        simp only [Engine.accepts, Bool.and_eq_true, decide_eq_true_eq] at hacc
        obtain ⟨⟨rfl, haddr⟩, hid⟩ := hacc
        have hasked := (h.connSpeaks c hc).asked
        have hpos : 0 < (e.logOf (.conn c)).countP Event.decides :=
          List.countP_pos_iff.mpr ⟨_, mem_logOf.mpr ⟨hev, rfl⟩, rfl⟩
        refine ⟨c, rfl, hc, ?_, haddr, hid, hev⟩
        cases hi : (e.conns c).isInitiator with
        | false => rfl
        | true =>
            rw [hi, if_pos rfl] at hasked
            omega
    | _ => cases hacc
  obtain ⟨ev, hev, hacc⟩ := List.countP_pos_iff.mp (Nat.pos_of_ne_zero hnone)
  obtain ⟨c, rfl, hc⟩ := haccepted ev hev hacc
  calc e.trace.countP (e.accepts addr id)
      ≤ e.trace.countP (fun ev => ev.decides && decide (ev.subject = some (.conn c))) := by
        refine List.countP_mono_left fun ev hev hacc => ?_
        obtain ⟨c', rfl, hc'⟩ := haccepted ev hev hacc
        rw [ho addr id c' c hc' hc]
        simp [Event.decides, Event.subject]
    _ = (e.logOf (.conn c)).countP Event.decides := by
        rw [Engine.logOf, List.countP_filter]
    _ ≤ 1 := (h.connSpeaks c hc.lt).asked.trans (by split_ifs <;> omega)

/-- **Acceptance at most once.**  In every run of two engines in which no `CONN_CONNECT` reaches
`b` after the connection that was accepted for it has been finalised, the host of `b` accepts
each initiator of `a` at most once, and a `CONN_CONNECT` for which `b` has a live passive
connection creates no second one. -/
theorem accepted_at_most_once
    (h : SessionWhen envA envB addrA addrB (fun _ _ => True) NoLateConnect a b) :
    (∀ c < a.nconns, (a.conns c).isInitiator = true →
      b.trace.countP (b.accepts addrA (a.conns c).localConnectionId) ≤ 1) ∧
    ∀ q d ext, b.LivePassive q → (b.conns q).peerAddr = addrA →
      ConnectDatagram d (b.conns q).peerConnectionId ext →
      ((Call.input d addrA).exec envB b).nconns = b.nconns := by
  have hb := h.reachable.2
  refine ⟨fun c _ _ => hb.countP_accepts h.acceptedOnce _, fun q d ext hq haddr hd => ?_⟩
  rcases hb.boundary.input_nconns addrA hd.type with hn | ⟨-, hnone⟩
  · exact hn
  · exact absurd hd.source.symm (hnone q hq haddr)

/-- The `CONN_CONNECT` of an accepted call arrives a second time. -/
def askedTwice : Engine Unit :=
  (Call.input (connConnectMsg (dialling.conns 0)) [10]).exec (idealHost 0 0) (answering 0)

/-- The host is asked once. -/
theorem accepted_at_most_once_asked_twice :
    askedTwice.nconns = 1 ∧ askedTwice.trace.countP
      (askedTwice.accepts [10] ((answered 0).conns 0).localConnectionId) ≤ 1 := by
  have h1 : SessionWhen (idealHost 0 0) (idealHost 0 0) [10] [11] (fun _ _ => True) NoLateConnect
      (answered 0) (answering 0) :=
    answered_sessionWhen (fun _ _ _ _ c _ _ hc => absurd hc.lt (Nat.not_lt_zero c))
      (by decide +kernel)
  have hlive : NoLateConnect (answering 0) (.input (connConnectMsg (dialling.conns 0)) [10]) := by
    intro d addr id ext c _ _ hc
    have hone : (answering 0).nconns = 1 := by decide +kernel
    have hlt := hc.lt
    obtain rfl : c = 0 := by omega
    decide +kernel
  have h2 : SessionWhen (idealHost 0 0) (idealHost 0 0) [10] [11] (fun _ _ => True) NoLateConnect
      (answered 0) askedTwice :=
    .toRight h1 ⟨.conn 0, true, by decide +kernel⟩ ⟨hlive, rfl⟩
  exact ⟨by decide +kernel,
    (accepted_at_most_once h2).1 0 (by decide +kernel) (by decide +kernel)⟩

/-- The caller hangs up. -/
def hangingUp : Engine Unit := (Call.connClose 0).exec (idealHost 0 0) (answered 0)

/-- The passive connection is finalised. -/
def hungUp : Engine Unit :=
  (Call.input (connCloseMsg msgConnClose ((answered 0).conns 0) closeReasonNormal) [10]).exec
    (idealHost 0 0) (answering 0)

/-- The `CONN_CONNECT` arrives once more. -/
def acceptedAgain : Engine Unit :=
  (Call.input (connConnectMsg (dialling.conns 0)) [10]).exec (idealHost 0 0) hungUp

/-- A `CONN_CONNECT` that is delivered again after the connection was closed: the host accepts
the same initiator a second time. -/
theorem accepted_at_most_once_late :
    Session (idealHost 0 0) (idealHost 0 0) [10] [11] hangingUp acceptedAgain ∧
      (hangingUp.conns 0).isInitiator = true ∧
      acceptedAgain.trace.countP
        (acceptedAgain.accepts [10] (hangingUp.conns 0).localConnectionId) = 2 ∧
      acceptedAgain.nconns = 2 ∧ (acceptedAgain.conns 1).isInitiator = false ∧
      (acceptedAgain.conns 1).state = .connected := by
  have h0 : Session (idealHost 0 0) (idealHost 0 0) [10] [11] (answered 0) (answering 0) :=
    answered_session (by decide +kernel)
  have h1 : Session (idealHost 0 0) (idealHost 0 0) [10] [11] hangingUp (answering 0) :=
    .left h0 ⟨.connClose 0, ⟨by decide +kernel, by decide +kernel⟩, by simp, trivial, rfl⟩
  have hclose : .write (.conn 0) [11]
      (connCloseMsg msgConnClose ((answered 0).conns 0) closeReasonNormal) true ∈
        hangingUp.trace := by decide +kernel
  have h2 : Session (idealHost 0 0) (idealHost 0 0) [10] [11] hangingUp hungUp :=
    .toRight h1 ⟨.conn 0, true, hclose⟩ ⟨trivial, rfl⟩
  have hsent : .write (.conn 0) [11] (connConnectMsg (dialling.conns 0)) true ∈
      hangingUp.trace := by decide +kernel
  exact ⟨.toRight h2 ⟨.conn 0, true, hsent⟩ ⟨trivial, rfl⟩, by decide +kernel, by decide +kernel,
    by decide +kernel, by decide +kernel, by decide +kernel⟩

end KcpMux
