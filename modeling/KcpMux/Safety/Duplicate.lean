import KcpMux.Safety.Identifiers
import KcpMux.Safety.StateMachine

/-!
Duplicates of `CONN_CONNECT`.

A peer sends `CONN_CONNECT` again until it is acknowledged, so an accepted connection sees
duplicates.  While it is connected it answers each with the acknowledgement it was accepted
with, and nothing else happens: `duplicate_connect_idempotent`.
-/

namespace KcpMux

variable {K : Type}

/-- The acknowledgement a passive connection has been accepted with. -/
def AcceptedWith (c : ℕ) (x : Conn) (log : List Event) : Prop :=
  ∃ newer older ok,
    log = newer ++ .write (.conn c) x.peerAddr
      (connConnectAckMsg x (UInt8.ofInt ackResultOk)) ok :: older ∧
    .connConnectNotify c ackResultOk ∈ older ∧ ∀ o addr d ok', .write o addr d ok' ∉ older

/-- A connected passive connection has sent its acknowledgement. -/
def AckSent (c : ℕ) (x : Conn) (log : List Event) : Prop :=
  x.isInitiator = false → x.state = .connected → AcceptedWith c x log

/-- The step from `e` to `e'` did nothing but make the connection `c` send `ack` and note the
time: what differs otherwise is the connection's own timer node, the host's timer, the clock and
the counters of datagrams of the engine and of `c`. -/
def Answered (c : ℕ) (ack : Bytes) (e e' : Engine K) : Prop :=
  ∃ now m t st cs armed deadline evs ok, st.lasting = e.stats.lasting ∧
    (cs c).lasting = (e.connStats c).lasting ∧ (∀ q, q ≠ c → cs q = e.connStats q) ∧
    (∀ q, q ≠ .conn c → TimerNode.SameBut (e.timerManager.node q) (m.node q)) ∧
    m.due = e.timerManager.due ∧ (∀ ev ∈ evs, ev.SetsTimer) ∧
    e' = { e with
      conns := Function.update e.conns c
        { e.conns c with lastRecvTs := max (e.conns c).lastRecvTs now }
      timerManager := m, tick := t, stats := st, connStats := cs, externalTimerArmed := armed
      externalTimerDeadlineMs := deadline
      trace := evs ++ .write (.conn c) (e.conns c).peerAddr ack ok :: e.trace }

variable {env : Env K} {op : Call} {e e' : Engine K} {c t : ℕ} {x x' : Conn} {log : List Event}

/-! ### The acknowledgement -/

lemma AcceptedWith.append (h : AcceptedWith c x log) (evs : List Event)
    (hm : connConnectAckMsg x' (UInt8.ofInt ackResultOk) =
      connConnectAckMsg x (UInt8.ofInt ackResultOk)) (ha : x'.peerAddr = x.peerAddr) :
    AcceptedWith c x' (evs ++ log) := by
  obtain ⟨newer, older, ok, rfl, hn, hw⟩ := h
  exact ⟨evs ++ newer, older, ok, by rw [hm, ha, List.append_assoc], hn, hw⟩

/-- A connected connection keeps what its acknowledgement says. -/
lemma ConnTrans.ackMsg {evs : List Event} {now : Option ℤ} (h : ConnTrans env op t c x x' evs now)
    (hs : x.state = .connected) (result : UInt8) :
    connConnectAckMsg x' result = connConnectAckMsg x result ∧ x'.peerAddr = x.peerAddr := by
  cases h with
  | connecting _ _ hs' | sendConnect _ hs' | established _ hs' | accept _ _ hs' =>
      exact absurd (hs.symm.trans hs') (by decide)
  | _ => exact ⟨rfl, rfl⟩

/-- Only a connected connection, or one on its way there, is connected afterwards. -/
lemma ConnTrans.connected {evs : List Event} {now : Option ℤ}
    (h : ConnTrans env op t c x x' evs now) (hi : x.isInitiator = false)
    (hx : x.state = .connecting → x.isInitiator = true) (hs : x'.state = .connected) :
    x.state = .connected ∨ ∃ ext now ok, x.state = .init ∧
      x' = { x with selfProtoExt := ext, state := .connected } ∧
      evs = .write (.conn c) x.peerAddr
        (connConnectAckMsg { x with selfProtoExt := ext } (UInt8.ofInt ackResultOk)) ok ::
          (connStateEvents c x .connected ++ [.connConnectNotify c ackResultOk]) ∧ Read env t now := by
  cases h with
  | established _ hs' => exact absurd (hi.symm.trans (hx hs')) (by decide)
  | @accept ext now ok hnow hini hs' => exact Or.inr ⟨ext, now, ok, hs', rfl, rfl, hnow⟩
  | connecting | close | idle | fail => cases hs
  | _ => exact Or.inl hs

lemma connStateEvents_not_write (c : ℕ) (x : Conn) (new : ConnState) {o : Owner} {addr : Addr}
    {d : Bytes} {ok : Bool} : .write o addr d ok ∉ connStateEvents c x new := by
  rw [connStateEvents]
  split_ifs <;> simp

lemma ConnView.ackSent {evs : List Event} (hv : ConnView env op e c x evs)
    (hh : ConnHist c (e.conns c) log) (ha : AckSent c (e.conns c) log) :
    AckSent c x (evs ++ log) := by
  intro hi hs
  cases hv with
  | same => exact ha hi hs
  | trans hl ht h =>
      have hi' : (e.conns c).isInitiator = false := by
        have := congrArg ConnOwn.isInitiator h.kept.own
        exact this.symm.trans hi
      rcases h.connected hi' hh.1.connecting hs with hs' | ⟨ext, now, ok, hs', rfl, rfl, -⟩
      · obtain ⟨hm, haddr⟩ := h.ackMsg hs' (UInt8.ofInt ackResultOk)
        exact (ha hi' hs').append evs hm haddr
      · refine ⟨[], connStateEvents c (e.conns c) .connected ++
          [.connConnectNotify c ackResultOk] ++ log, ok, rfl, by simp, ?_⟩
        -- the connection had no history before
        rw [hh.2 hl.2 hs']
        intro o addr d ok' hw
        simp [connStateEvents_not_write] at hw
  | streams => exact ha hi hs
  | final => rw [Conn.final] at hs; split_ifs at hs
  | last => rw [Conn.final] at hs; split_ifs at hs
  | release => exact (ha hi hs).append _ rfl rfl

lemma Reachable.ackSent (h : Reachable env e) : e.EachConn AckSent := by
  have key : e.EachConn fun c x log => ConnHist c x log ∧ AckSent c x log := by
    refine h.eachConn (fun _ _ _ _ hx => ⟨⟨hx.path, fun _ _ => rfl⟩, fun _ hs => ?_⟩)
      fun _ _ c x evs _ hc hv hi => ⟨⟨hv.path hi.1.1, hv.unborn hc hi.1.2⟩, hv.ackSent hi.1 hi.2⟩
    cases hx <;> cases hs
  exact fun c hc => (key c hc).2

/-! ### The datagram -/

/-- A datagram moves only counters of datagrams. -/
lemma connWrite_lasting (env : Env K) (e : Engine K) (c : ℕ) (msg : Bytes) :
    ∃ st cs ok, st.lasting = e.stats.lasting ∧ (cs c).lasting = (e.connStats c).lasting ∧
      (∀ q, q ≠ c → cs q = e.connStats q) ∧ (connWriteSocket env e (.conn c) c msg).2 =
        e.stepConn c (e.conns c) [.write (.conn c) (e.conns c).peerAddr msg ok] e.timerManager
          (e.tick + 1) st cs := by
  refine ⟨e.stats.sent msg.length (env.writeSocketv e.tick), Function.update e.connStats c
    ((e.connStats c).sent msg.length (env.writeSocketv e.tick)), env.writeSocketv e.tick,
    EngineStats.sent_lasting _ _ _, ?_, fun q hq => Function.update_of_ne hq _ _, ?_⟩
  · rw [Function.update_self, ConnStats.sent_lasting]
  · rw [connWriteSocket, connWriteSocketv_eq env e (.conn c) c (List.cons_ne_nil msg [])]
    simp [Engine.stepConn]

/-- **A duplicate of `CONN_CONNECT`** inside its operation: one acknowledgement. -/
lemma inputConnect_duplicate (hi : Inside env e) (hp : e.LivePassive c)
    (hs : (e.conns c).state = .connected) {d ext : Bytes}
    (hd : ConnectDatagram d (e.conns c).peerConnectionId ext) (hz : readU64 (Buf.of d) 1 = 0)
    (ha : (e.conns c).peerAddr ≠ [] ∧ (e.conns c).peerAddr.length ≤ addrMaxLen) (now : ℤ) :
    ∃ m t st cs ok, st.lasting = e.stats.lasting ∧ (cs c).lasting = (e.connStats c).lasting ∧
      (∀ q, q ≠ c → cs q = e.connStats q) ∧
      (∀ q, q ≠ .conn c → TimerNode.SameBut (e.timerManager.node q) (m.node q)) ∧
      inputConnect env e (Buf.of d) d.length (e.conns c).peerAddr now =
        (0, e.stepConn c ((e.conns c).received now false)
          [.write (.conn c) (e.conns c).peerAddr
            (connConnectAckMsg (e.conns c) (UInt8.ofInt ackResultOk)) ok] m t st cs) := by
  have hlen := hd.len
  simp only [protoConnectLen, protoCommonLen] at hlen
  have hget : engineGetPassiveConn env e (e.conns c).peerAddr (e.conns c).peerConnectionId =
      some c := (engineGetPassiveConn_eq_some hi.toOwn ha hd.source_ne).mpr ⟨hp, rfl, rfl⟩
  rw [inputConnect,
    if_neg (not_or.mpr ⟨by simp only [protoConnectLen, protoCommonLen]; omega, not_not.mpr hz⟩)]
  dsimp only
  rw [hd.source, if_neg hd.source_ne, if_neg (not_lt.mpr hd.ext_le), if_neg (not_lt.mpr hd.len),
    if_neg (not_not.mpr hd.version), hget]
  dsimp only
  rw [if_neg (not_not.mpr hs)]
  obtain ⟨m, t, ht, hm, heq⟩ := connNoteReceive_did env (e := e.countReceived c d.length) hi.depth
    hp.1.2 (hi.conn_owner hp.1) now false
  rw [heq, connSendConnectAck, protocolSendConnConnectAck_eq]
  set e1 := (e.countReceived c d.length).stepConn c
    (((e.countReceived c d.length).conns c).received now false) [] m t
    (e.countReceived c d.length).stats (e.countReceived c d.length).connStats with he1
  have hx1 : e1.conns c = (e.conns c).received now false := by rw [he1, stepConn_conns_self]; rfl
  obtain ⟨st, cs, ok, hst, hself, hcs, heq2⟩ := connWrite_lasting env e1 c
    (connConnectAckMsg (e1.conns c) (UInt8.ofInt ackResultOk))
  have hcount : (e1.connStats c).lasting = (e.connStats c).lasting := by
    rw [he1]
    simp [Engine.stepConn, Engine.countReceived, ConnStats.lasting]
  have hother : ∀ q, q ≠ c → e1.connStats q = e.connStats q := by
    intro q hq
    simp [he1, Engine.stepConn, Engine.countReceived, hq]
  refine ⟨m, e1.tick + 1, st, cs, ok, hst, hself.trans hcount,
    fun q hq => (hcs q hq).trans (hother q hq), fun q hq => hm.other hq, ?_⟩
  rw [heq2, hx1]
  simp [he1, Engine.stepConn, Engine.countReceived, Conn.received, connConnectAckMsg, writeCommon]

lemma received_false (x : Conn) (now : ℤ) :
    x.received now false = { x with lastRecvTs := max x.lastRecvTs now } := by
  have hmax : (if now > x.lastRecvTs then now else x.lastRecvTs) = max x.lastRecvTs now := by
    rcases le_or_gt now x.lastRecvTs with h | h
    · rw [if_neg (not_lt.mpr h), max_eq_left h]
    · rw [if_pos h, max_eq_right h.le]
  rw [Conn.received, hmax, if_neg (by simp)]

/-- **Duplicates of `CONN_CONNECT`.**  In every reachable engine a well-formed `CONN_CONNECT` of
the current version, with whatever extension, from the peer of a connected passive connection
returns 0 and does nothing but send one acknowledgement, the same bytes the connection was
accepted with. -/
theorem duplicate_connect_idempotent (h : Reachable env e) (c : ℕ) (hp : e.LivePassive c)
    (hs : (e.conns c).state = .connected) (d ext : Bytes)
    (hd : ConnectDatagram d (e.conns c).peerConnectionId ext) (hz : readU64 (Buf.of d) 1 = 0) :
    (engineInput env e d (e.conns c).peerAddr).1 = 0 ∧
      Answered c (connConnectAckMsg (e.conns c) (UInt8.ofInt ackResultOk)) e
        (engineInput env e d (e.conns c).peerAddr).2 ∧
      AcceptedWith c (e.conns c) (e.logOf (.conn c)) := by
  have hb := h.boundary
  have hlen := hd.len
  simp only [protoConnectLen, protoCommonLen] at hlen
  have hne : d ≠ [] := by
    rintro rfl
    exact absurd hd.type (by decide)
  have ha := h.validAddr c hp.1.1
  have hdue : (engineInput env e d (e.conns c).peerAddr).2.timerManager.due = [] :=
    (Reachable.call h (.input d (e.conns c).peerAddr) trivial).boundary.due
  obtain ⟨t0, st0, now, hlife, ht0, -, hst0, hopen⟩ :=
    engineInput_eq env e hne (e.conns c).peerAddr
  have hlasting : st0.lasting = e.stats.lasting := by rw [hst0]; rfl
  have hi := hb.toSound.opened ht0 hlife
  obtain ⟨m, t, st, cs, ok, hst, hself, hcs, hm, heq⟩ :=
    inputConnect_duplicate (e := e.opened t0 st0) hi hp hs hd hz ha now
  have hin : protocolInput env (e.opened t0 st0) (Buf.of d) d.length (e.conns c).peerAddr now =
      inputConnect env (e.opened t0 st0) (Buf.of d) d.length (e.conns c).peerAddr now := by
    rw [protocolInput, if_neg (by omega), if_neg (not_or.mpr ⟨ha.1, not_lt.mpr ha.2⟩),
      if_neg (by simp only [protoCommonLen]; omega), if_pos hd.type]
  have heq' : inputConnect env (e.opened t0 st0) (Buf.of d) d.length (e.conns c).peerAddr now =
      (0, (e.opened t0 st0).stepConn c ((e.conns c).received now false)
        [.write (.conn c) (e.conns c).peerAddr
          (connConnectAckMsg (e.conns c) (UInt8.ofInt ackResultOk)) ok] m t st cs) := heq
  rw [hin, heq'] at hopen
  generalize he1 : (e.opened t0 st0).stepConn c ((e.conns c).received now false)
    [.write (.conn c) (e.conns c).peerAddr
      (connConnectAckMsg (e.conns c) (UInt8.ofInt ackResultOk)) ok] m t st cs = e1 at hopen
  have hd1 : e1.operationDepth = 1 := by
    rw [← he1]
    show e.operationDepth + 1 = 1
    rw [hb.depth]
  obtain ⟨armed, deadline, evs, hr, hev⟩ := engineRearmTimer_eq e1.left (engineNow env e1)
  rw [engineOperationLeave_eq env hd1, hr] at hopen
  rw [hopen] at hdue ⊢
  have hm1 : e1.left.timerManager = m := by rw [← he1]; rfl
  refine ⟨rfl, ⟨now, m, t + 1, st, cs, armed, deadline, evs, ok, hst.trans hlasting, hself, hcs, hm,
    ?_, hev, ?_⟩, h.ackSent c hp.1.1 hp.2 hs⟩
  · rw [hb.due, ← hm1]
    exact hdue
  · rw [← he1, received_false]
    have hdepth := hb.depth
    have hrel := hb.released
    clear * - hdepth hrel
    cases e
    simp_all [Engine.left, Engine.stepConn, Engine.opened, engineOperationEnter]

lemma connectDatagram_plainConnect : ConnectDatagram plainConnect 7 [] :=
  ⟨by decide, by decide, by decide, by decide, by decide, by decide, by decide⟩

/-- The peer sends its `CONN_CONNECT` again. -/
theorem duplicate_connect_idempotent_plain :
    (engineInput (idealHost 0 0) accepted plainConnect (accepted.conns 0).peerAddr).1 = 0 ∧
      Answered 0 (connConnectAckMsg (accepted.conns 0) (UInt8.ofInt ackResultOk)) accepted
        (engineInput (idealHost 0 0) accepted plainConnect (accepted.conns 0).peerAddr).2 ∧
      AcceptedWith 0 (accepted.conns 0) (accepted.logOf (.conn 0)) := by
  have hid : (accepted.conns 0).peerConnectionId = 7 := by decide +kernel
  exact duplicate_connect_idempotent accepted_reachable 0
    ⟨⟨by decide +kernel, by decide +kernel⟩, by decide +kernel⟩ (by decide +kernel) plainConnect []
    (hid ▸ connectDatagram_plainConnect) (by decide)

end KcpMux
