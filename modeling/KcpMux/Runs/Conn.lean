import KcpMux.Runs.StreamApi

/-!
The functions on one connection as steps: state changes, control messages with their
retries, the timer callback, and the public functions.
-/

namespace KcpMux

variable {K : Type} {env : Env K} {op : Call} {e e' : Engine K} {c : ℕ}

/-! ### Steps of one connection -/

/-- A step of a live connection, which stays live. -/
lemma conn_act {t : ℕ} {x : Conn} {evs : List Event} {now : Option ℤ} {m : TimerManager Owner}
    {st : EngineStats} {cs : ℕ → ConnStats} (hl : e.LiveConn c) (ht : e.tick ≤ t)
    (h : ConnTrans env op t c (e.conns c) x evs now)
    (hm : (connMoveAt x now).Did env e.timerManager (.conn c) m)
    (hst : st.life = e.stats.life) :
    Act env op e (e.stepConn c x evs m t st cs) ∧ (e.stepConn c x evs m t st cs).LiveConn c := by
  have hs : SameOwn e (e.stepConn c x evs m t st cs) :=
    SameOwn.stepConn hl h.kept hm h.subject
  exact ⟨.conn hl ht h hm hst, (hs.liveConn c).mpr hl⟩

@[simp] lemma stepConn_conns_self (e : Engine K) (c : ℕ) (x : Conn) (evs : List Event)
    (m : TimerManager Owner) (t : ℕ) (st : EngineStats) (cs : ℕ → ConnStats) :
    (e.stepConn c x evs m t st cs).conns c = x := by
  simp [Engine.stepConn]

/-- `kcpmux_conn_close_internal` on a live connection past its `INIT` state. -/
lemma connCloseInternal_act (hi : Inside env e) (hl : e.LiveConn c)
    (hs : (e.conns c).state ≠ .init) (reason : UInt8) :
    Act env op e (connCloseInternal env e c reason) :=
  .connFinal hi.depth hl hs

/-- `kcpmux_conn_refresh_timer`. -/
lemma connRefreshTimer_act (hi : Inside env e) (hl : e.LiveConn c) {now : ℤ}
    (hnow : Read env e.tick now) : Act env op e (connRefreshTimer env e c now) := by
  obtain ⟨m, t, ht, hm, hr⟩ := connRefreshTimer_did env hl.2 (hi.conn_owner hl) now
  rw [hr.eq_of_depth hi.depth]
  have h : Act env op e (e.stepConn c (e.conns c) [] m t e.stats e.connStats) :=
    (conn_act hl ht (.refresh (hnow.mono ht)) hm rfl).1
  simpa [Engine.stepConn] using h

/-- The record after `kcpmux_conn_note_receive`. -/
def Conn.received (x : Conn) (now : ℤ) (isPayload : Bool) : Conn :=
  { x with
    lastRecvTs := if now > x.lastRecvTs then now else x.lastRecvTs
    lastPayloadTs := if isPayload = true ∧ now > x.lastPayloadTs then now else x.lastPayloadTs }

/-- `kcpmux_conn_note_receive` inside an operation. -/
lemma connNoteReceive_did (env : Env K) (hd : 0 < e.operationDepth)
    (hl : (e.conns c).internalClosed = false)
    (ho : (e.timerManager.node (.conn c)).owner = true) (now : ℤ) (isPayload : Bool) :
    ∃ m t, e.tick ≤ t ∧
      (connMove ((e.conns c).received now isPayload) now).Did env e.timerManager (.conn c) m ∧
      connNoteReceive env e c now isPayload =
        e.stepConn c ((e.conns c).received now isPayload) [] m t e.stats e.connStats := by
  rw [connNoteReceive, if_neg (by simp [hl])]
  dsimp only
  change ∃ m t, e.tick ≤ t ∧ _ ∧
    connRefreshTimer env (e.setConn c ((e.conns c).received now isPayload)) c now = _
  have hx1 : (e.setConn c ((e.conns c).received now isPayload)).conns c =
      (e.conns c).received now isPayload := by
    simp [Engine.setConn]
  obtain ⟨m, t, ht, hm, hr⟩ := connRefreshTimer_did env
    (e := e.setConn c ((e.conns c).received now isPayload)) (c := c) (by rw [hx1]; exact hl) ho now
  rw [hx1] at hm
  exact ⟨m, t, ht, hm, hr.eq_of_depth hd⟩

/-- `kcpmux_conn_note_receive`. -/
lemma connNoteReceive_act (hi : Inside env e) (hl : e.LiveConn c) {now : ℤ} {d : Bytes}
    (hnow : Read env e.tick now) (hop : op = .input d (e.conns c).peerAddr)
    (isPayload : Bool) :
    ∃ x m t, Act env op e (connNoteReceive env e c now isPayload) ∧
      connNoteReceive env e c now isPayload = e.stepConn c x [] m t e.stats e.connStats ∧
      x = { e.conns c with lastRecvTs := x.lastRecvTs, lastPayloadTs := x.lastPayloadTs } := by
  obtain ⟨m, t, ht, hm, heq⟩ := connNoteReceive_did env hi.depth hl.2 (hi.conn_owner hl) now isPayload
  rw [heq]
  exact ⟨_, m, t, (conn_act hl ht (.receive isPayload (hnow.mono ht) hop) hm rfl).1, rfl, rfl⟩

/-- `kcpmux_conn_set_state`. -/
lemma connSetState_did (env : Env K) (hd : 0 < e.operationDepth)
    (hl : (e.conns c).internalClosed = false)
    (ho : (e.timerManager.node (.conn c)).owner = true) (newState : ConnState)
    (hne : (e.conns c).state ≠ newState) :
    ∃ now m t st cs, e.tick ≤ t ∧ Read env t now ∧ st.life = e.stats.life ∧
      (connMove { e.conns c with state := newState } now).Did env e.timerManager (.conn c) m ∧
      connSetState env e c newState =
        e.stepConn c { e.conns c with state := newState }
          (if newState = .closed ∨ newState = .error then
            [.connState c (e.conns c).state newState]
          else connStateEvents c (e.conns c) newState) m t st cs := by
  rw [connSetState, if_neg (by simp [hl, hne])]
  dsimp only
  set e1 := e.assignConnState c newState with he1
  obtain ⟨t1, st, cs, ht1, hst, he2⟩ : ∃ t1 st cs, e.tick ≤ t1 ∧ st.life = e.stats.life ∧
      (if newState = .connected then
        { e1.tock with
          connStats := Function.update e1.connStats c { e1.connStats c with
            handshakeTimeMs := UInt64.ofInt (engineNow env e1 - (e1.conns c).createdTs) }
          stats := { e1.stats with connConnectedTotal := e1.stats.connConnectedTotal + 1 } }
      else e1) = { e1 with tick := t1, stats := st, connStats := cs } := by
    split_ifs
    · exact ⟨e.tick + 1, { e.stats with connConnectedTotal := e.stats.connConnectedTotal + 1 },
        _, Nat.le_succ _, rfl, rfl⟩
    · exact ⟨e.tick, e.stats, e.connStats, le_rfl, rfl, rfl⟩
  generalize hg : ite (newState = ConnState.connected) _ e1 = e2
  have he2' : e2 = { e1 with tick := t1, stats := st, connStats := cs } := hg.symm.trans he2
  have hx2 : e2.conns c = { e.conns c with state := newState } := by
    simp [he2', he1, Engine.assignConnState, Engine.setConn, Engine.log]
  obtain ⟨m, t, ht, hm, hr⟩ := connRefreshTimer_did env (e := e2.tock) (c := c)
    (by exact (congrArg Conn.internalClosed hx2).trans hl) (by rw [he2']; exact ho)
    (engineNow env e2)
  have ht2 : e2.tick + 1 ≤ t := ht
  have htm : e2.tock.timerManager = e.timerManager := by rw [he2']; rfl
  have htick : e.tick ≤ e2.tick := by rw [he2']; exact ht1
  rw [hr.eq_of_depth (by rw [he2']; exact hd)]
  refine ⟨engineNow env e2, m, t, st, cs, by omega, ⟨e2.tick, by omega, rfl⟩, hst, ?_, ?_⟩
  · have hx2' : e2.tock.conns c = { e.conns c with state := newState } := hx2
    rwa [hx2', htm] at hm
  · simp only [Engine.tock, hx2]
    by_cases hcl : newState = .closed ∨ newState = .error
    · have hn : ¬ (newState ≠ .closed ∧ newState ≠ .error ∧
          (e.conns c).callbacks.connStateChanged = true) := fun h => hcl.elim h.1 h.2.1
      rw [if_pos hcl, if_neg hn]
      simp [he2', he1, Engine.stepConn, Engine.assignConnState, Engine.setConn, Engine.log]
    · rw [if_neg hcl, connStateEvents]
      rw [not_or] at hcl
      simp only [hcl, ne_eq, not_false_eq_true, true_and]
      split_ifs <;>
        simp [he2', he1, Engine.stepConn, Engine.assignConnState, Engine.setConn, Engine.log]

/-! ### Control messages -/

/-- A control message with its refresh. -/
lemma connSend_did (env : Env K) (hd : 0 < e.operationDepth)
    (ho : (e.timerManager.node (.conn c)).owner = true) {x : Conn}
    (hx : x.internalClosed = false) (msg : Bytes) (now : ℤ) (t0 : ℕ) :
    ∃ m t st cs ok, t0 ≤ t ∧ st.life = e.stats.life ∧
      (connMove x now).Did env e.timerManager (.conn c) m ∧
      connRefreshTimer env
          (connWriteSocket env ({ e with tick := t0 }.setConn c x) (.conn c) c msg).2 c now =
        e.stepConn c x [.write (.conn c) x.peerAddr msg ok] m t st cs := by
  set e1 := { e with tick := t0 }.setConn c x with he1
  have hx1 : e1.conns c = x := by simp [he1, Engine.setConn]
  obtain ⟨st, cs, hst, heq⟩ := connWriteSocketv_did env e1 (.conn c) c
    (List.cons_ne_nil msg [])
  rw [connWriteSocket, heq]
  dsimp only
  set e2 : Engine K := { e1 with
    trace := .write (.conn c) (e1.conns c).peerAddr [msg].flatten (env.writeSocketv e1.tick) ::
      e1.trace
    tick := e1.tick + 1, stats := st, connStats := cs } with he2
  have hx2 : e2.conns c = x := hx1
  obtain ⟨m, t, ht, hm, hr⟩ := connRefreshTimer_did env (e := e2) (c := c)
    (by rw [hx2]; exact hx) ho now
  have ht' : t0 + 1 ≤ t := ht
  refine ⟨m, t, st, cs, env.writeSocketv e1.tick, by omega, hst, ?_, ?_⟩
  · rw [hx2] at hm
    exact hm
  · rw [hr.eq_of_depth hd]
    simp only [he2, hx1, List.flatten_singleton]
    rfl

/-- The connection becomes `x` with the log `evs`, and its timer is refreshed at `now`. -/
def ConnStepped (env : Env K) (e : Engine K) (c : ℕ) (x : Conn) (evs : List Event) (now : ℤ)
    (e1 : Engine K) : Prop :=
  ∃ m t st cs, e.tick ≤ t ∧ st.life = e.stats.life ∧
    (connMove x now).Did env e.timerManager (.conn c) m ∧ e1 = e.stepConn c x evs m t st cs

/-- `kcpmux_conn_send_connect`, first or again. -/
lemma connSendConnect_eq (env : Env K) (hd : 0 < e.operationDepth) (hl : e.LiveConn c)
    (ho : (e.timerManager.node (.conn c)).owner = true) (n : UInt32) :
    ∃ ok, ConnStepped env { e with tick := e.tick + 1 } c
      { e.conns c with retryCount := n, lastCtrlTs := engineNow env e }
      [.write (.conn c) (e.conns c).peerAddr (connConnectMsg (e.conns c)) ok] (engineNow env e)
      (connSendConnect env (e.setConn c { e.conns c with retryCount := n }) c).2 := by
  have hext : ¬ protoConnectLen + (e.conns c).selfProtoExt.len > protoMsgMaxLen := by
    have hle := (e.conns c).selfProtoExt.len_le
    simp only [ProtoExt.len, protoConnectLen, protoCommonLen, protoMsgMaxLen,
      protoExtMaxLen] at hle ⊢
    omega
  obtain ⟨m, t, st, cs, ok, ht, hst, hm, heq⟩ := connSend_did env hd ho
    (x := { e.conns c with retryCount := n, lastCtrlTs := engineNow env e }) hl.2
    (connConnectMsg (e.conns c)) (engineNow env e) (e.tick + 1)
  refine ⟨ok, m, t, st, cs, ht, hst, hm, ?_⟩
  show _ = e.stepConn c _ _ m t st cs
  rw [← heq, connSendConnect, if_neg (by simp [Engine.setConn, hl.2])]
  simp [protocolSendConnConnect, Engine.setConn, Engine.tock, hext, connConnectMsg, writeCommon,
    engineNow]

lemma connSendConnect_act (hi : Inside env e) (hl : e.LiveConn c)
    (hs : (e.conns c).state = .connecting) {n : UInt32}
    (hn : Retried (e.conns c).config.connectRetries (e.conns c).retryCount n) {e1 : Engine K}
    (he1 : e1 = (connSendConnect env (e.setConn c { e.conns c with retryCount := n }) c).2) :
    Act env op e e1 ∧ e1.LiveConn c ∧ e1.nconns = e.nconns := by
  obtain ⟨ok, m, t, st, cs, ht, hst, hm, heq⟩ :=
    connSendConnect_eq env hi.depth hl (hi.conn_owner hl) n
  have ht : e.tick + 1 ≤ t := ht
  rw [he1, heq]
  obtain ⟨ha, hl1⟩ : Act env op e (e.stepConn c _ _ m t st cs) ∧ _ :=
    conn_act hl (by omega) (.sendConnect ⟨e.tick, by omega, rfl⟩ hs hn) hm hst
  exact ⟨ha, hl1, rfl⟩

/-- `kcpmux_conn_send_close`, first or again.  Without a peer id nothing is sent, and only the
timer is refreshed. -/
lemma connSendClose_eq (env : Env K) (hd : 0 < e.operationDepth) (hl : e.LiveConn c)
    (ho : (e.timerManager.node (.conn c)).owner = true) (reason : UInt8) (n : UInt32) :
    ∃ ok, ConnStepped env { e with tick := e.tick + 1 } c
      { e.conns c with retryCount := n, lastCtrlTs := engineNow env e }
      (if (e.conns c).peerConnectionId = 0 then []
        else [.write (.conn c) (e.conns c).peerAddr (connCloseMsg msgConnClose (e.conns c) reason)
          ok]) (engineNow env e)
      (connSendClose env (e.setConn c { e.conns c with retryCount := n }) c reason).2 := by
  by_cases hp : (e.conns c).peerConnectionId = 0
  · set x : Conn := { e.conns c with retryCount := n, lastCtrlTs := engineNow env e } with hx
    set e2 := { e with tick := e.tick + 1 }.setConn c x with he2
    have hx2 : e2.conns c = x := by simp [he2, Engine.setConn]
    obtain ⟨m, t, ht, hm, hr⟩ := connRefreshTimer_did env (e := e2) (c := c)
      (by rw [hx2]; exact hl.2) ho (engineNow env e)
    rw [hx2] at hm
    refine ⟨true, m, t, e.stats, e.connStats, ht, rfl, hm, ?_⟩
    have hee := hr.eq_of_depth hd
    rw [connSendClose, if_neg (by simp [Engine.setConn, hl.2]), if_pos hp]
    simp only [Engine.setConn, Function.update_self, Engine.tock, Function.update_idem]
    rw [protocolSendConnClose, if_pos (by simpa using hp)]
    exact hee
  · obtain ⟨m, t, st, cs, ok, ht, hst, hm, heq⟩ := connSend_did env hd ho
      (x := { e.conns c with retryCount := n, lastCtrlTs := engineNow env e }) hl.2
      (connCloseMsg msgConnClose (e.conns c) reason) (engineNow env e) (e.tick + 1)
    refine ⟨ok, m, t, st, cs, ht, hst, hm, ?_⟩
    show _ = e.stepConn c _ _ m t st cs
    rw [if_neg hp]
    refine Eq.trans ?_ heq
    rw [connSendClose, if_neg (by simp [Engine.setConn, hl.2])]
    simp [protocolSendConnClose, Engine.setConn, Engine.tock, hp, connCloseMsg, writeCommon,
      engineNow]

lemma connSendClose_act (hi : Inside env e) (hl : e.LiveConn c)
    (hs : (e.conns c).state = .closing) (reason : UInt8) {n : UInt32}
    (hn : Retried (e.conns c).config.closeRetries (e.conns c).retryCount n) {e1 : Engine K}
    (he1 : e1 = (connSendClose env (e.setConn c { e.conns c with retryCount := n }) c reason).2) :
    Act env op e e1 ∧ e1.LiveConn c := by
  obtain ⟨ok, m, t, st, cs, ht, hst, hm, heq⟩ :=
    connSendClose_eq env hi.depth hl (hi.conn_owner hl) reason n
  have ht : e.tick + 1 ≤ t := ht
  rw [he1, heq]
  exact conn_act hl (by omega) (.sendClose ⟨e.tick, by omega, rfl⟩ hs hn) hm hst

/-- `kcpmux_conn_send_keepalive`. -/
lemma connSendKeepalive_eq (env : Env K) (hd : 0 < e.operationDepth) (hl : e.LiveConn c)
    (ho : (e.timerManager.node (.conn c)).owner = true) {x : Conn}
    (hx : x = { e.conns c with
      lastKeepaliveTs := engineNow env e, keepaliveSeq := (e.conns c).keepaliveSeq + 1 }) :
    ∃ time ok, ConnStepped env { e with tick := e.tick + 1 } c x
      [.write (.conn c) (e.conns c).peerAddr (connKeepaliveMsg x time) ok] (engineNow env e)
      (connSendKeepalive env e c).2 := by
  set time := UInt32.ofInt (env.monotonicTimeMs (e.tick + 1)) with htime
  have hcl : x.internalClosed = false := by rw [hx]; exact hl.2
  obtain ⟨m, t, st, cs, ok, ht, hst, hm, heq⟩ := connSend_did env hd ho
    (x := x) hcl (connKeepaliveMsg x time) (engineNow env e) (e.tick + 2)
  have ht' : e.tick + 1 ≤ t := by omega
  refine ⟨time, ok, m, t, st, cs, ht', hst, hm, ?_⟩
  show _ = e.stepConn c x _ m t st cs
  have hpeer : x.peerAddr = (e.conns c).peerAddr := by rw [hx]
  rw [← hpeer, ← heq, connSendKeepalive, if_neg (by simp [hl.2])]
  simp [protocolSendConnKeepalive, Engine.setConn, Engine.tock, engineNow, htime, hx]

lemma connSendKeepalive_act (hi : Inside env e) (hl : e.LiveConn c)
    (hs : (e.conns c).state = .connected) {e1 : Engine K}
    (he1 : e1 = (connSendKeepalive env e c).2) : Act env op e e1 ∧ e1.LiveConn c := by
  obtain ⟨time, ok, m, t, st, cs, ht, hst, hm, heq⟩ :=
    connSendKeepalive_eq env hi.depth hl (hi.conn_owner hl) rfl
  have ht : e.tick + 1 ≤ t := ht
  rw [he1, heq]
  exact conn_act hl (by omega) (.keepalive ⟨e.tick, by omega, rfl⟩ hs) hm hst

/-! ### The timer callback -/

@[simp] lemma setConn_retryCount_self (e : Engine K) (c : ℕ) :
    e.setConn c { e.conns c with retryCount := (e.conns c).retryCount } = e := by
  simp [Engine.setConn]

/-- A connection fails: its state becomes `ERROR`. -/
lemma connError_act (hi : Inside env e) (hl : e.LiveConn c)
    (hs : (e.conns c).state = .connecting ∨ (e.conns c).state = .connected) :
    Act env op e (connSetState env e c .error) ∧ (connSetState env e c .error).LiveConn c ∧
      ((connSetState env e c .error).conns c).state = .error := by
  obtain ⟨now, m, t, st, cs, ht, hnow, hst, hm, heq⟩ := connSetState_did env hi.depth hl.2
    (hi.conn_owner hl) .error (by rcases hs with h | h <;> simp [h])
  rw [if_pos (Or.inr rfl)] at heq
  obtain ⟨ha, hl1⟩ : Act env op e (e.stepConn c _ _ m t st cs) ∧ _ :=
    conn_act hl ht (.fail hnow hs) hm hst
  rw [heq]
  exact ⟨ha, hl1, by rw [stepConn_conns_self]⟩

/-- A connection that has failed is finalised. -/
lemma connFail_acts (hi : Inside env e) (hl : e.LiveConn c)
    (hs : (e.conns c).state = .connecting ∨ (e.conns c).state = .connected) (reason : UInt8)
    {e1 : Engine K} {st' : EngineStats} (he1 : e1 = connSetState env e c .error)
    (hst' : st'.life = e1.stats.life) :
    Acts env op e (connCloseInternal env { e1 with stats := st' } c reason) := by
  obtain ⟨ha, hl1, hs1⟩ : Act env op e _ ∧ _ := connError_act hi hl hs
  rw [← he1] at ha hl1 hs1
  have hq : Act env op e1 { e1 with tick := e1.tick, stats := st', connStats := e1.connStats } :=
    .quiet le_rfl hst'
  have h2 : Acts env op e _ := (Relation.ReflTransGen.single ha).tail hq
  have hs2 : (e1.conns c).state ≠ .init := by rw [hs1]; decide
  exact h2.tail (connCloseInternal_act (h2.inside hi) hl1 hs2 _)

/-- An idle connection tells its peer that it is closed. -/
lemma connIdle_acts (hi : Inside env e) (hl : e.LiveConn c) (hs : (e.conns c).state = .connected)
    {e1 : Engine K} (he1 : e1 = (connSendClose env (connSetState env e c .closing) c
      closeReasonIdle).2) :
    Acts env op e { e1 with stats := { e1.stats with
        connIdleTimeoutTotal := e1.stats.connIdleTimeoutTotal + 1 } } ∧ e1.LiveConn c ∧
      (e1.conns c).state = .closing := by
  obtain ⟨now', m, t, st, cs, ht, hnow', hst, hm, heq⟩ := connSetState_did env hi.depth hl.2
    (hi.conn_owner hl) .closing (by simp [hs])
  rw [if_neg (by decide)] at heq
  obtain ⟨ha, hl1⟩ : Act env op e (e.stepConn c _ _ m t st cs) ∧ _ :=
    conn_act hl ht (.idle hnow' hs) hm hst
  have h1 : Acts env op e _ := .single ha
  obtain ⟨hb, hl2⟩ : Act env op _ _ ∧ _ := connSendClose_act (h1.inside hi) hl1 (by simp)
    closeReasonIdle (Or.inl rfl) rfl
  obtain ⟨ok, m', t', st', cs', -, -, -, heq'⟩ := connSendClose_eq env (h1.inside hi).depth hl1
    ((h1.inside hi).conn_owner hl1) closeReasonIdle _
  rw [setConn_retryCount_self, ← heq, ← he1] at hb hl2 heq'
  rw [← heq] at h1
  have hq : Act env op e1 { e1 with
      tick := e1.tick, connStats := e1.connStats
      stats := { e1.stats with connIdleTimeoutTotal := e1.stats.connIdleTimeoutTotal + 1 } } :=
    .quiet le_rfl rfl
  exact ⟨(h1.tail hb).tail hq, hl2, by rw [heq', stepConn_conns_self, heq, stepConn_conns_self]⟩

lemma connUpdateConnecting_acts (hi : Inside env e) (hl : e.LiveConn c)
    (hs : (e.conns c).state = .connecting) {now : ℤ} (hnow : Read env e.tick now) :
    Acts env op e (connUpdateConnecting env e c now) := by
  rw [connUpdateConnecting]
  dsimp only
  split_ifs with hdue hretry
  · obtain ⟨ha, hl1, -⟩ : Act env op _ _ ∧ _ := connSendConnect_act hi hl hs
      (Or.inr ⟨hretry, rfl⟩) rfl
    exact (Relation.ReflTransGen.single ha).tail (connRefreshTimer_act
      (Acts.inside (.single ha) hi) hl1 (hnow.mono (Acts.tick (.single ha) hi.toOwn)))
  · exact connFail_acts hi hl (Or.inl hs) _ rfl rfl
  · exact .single (connRefreshTimer_act hi hl hnow)

lemma connUpdateConnected_acts (hi : Inside env e) (hl : e.LiveConn c)
    (hs : (e.conns c).state = .connected) {now : ℤ} (hnow : Read env e.tick now) :
    Acts env op e (connUpdateConnected env e c now) := by
  rw [connUpdateConnected]
  dsimp only
  split_ifs with hrecv hidle hkeep
  · exact connFail_acts hi hl (Or.inr hs) _ rfl rfl
  · obtain ⟨h1, hl1, -⟩ : Acts env op e _ ∧ _ := connIdle_acts hi hl hs rfl
    exact h1.tail (connCloseInternal_act (h1.inside hi) hl1
      (h1.settled hi.toOwn hl.1 (by simp [hs])) _)
  · obtain ⟨ha, hl1⟩ : Act env op _ _ ∧ _ := connSendKeepalive_act hi hl hs rfl
    exact (Relation.ReflTransGen.single ha).tail (connRefreshTimer_act
      (Acts.inside (.single ha) hi) hl1 (hnow.mono (Acts.tick (.single ha) hi.toOwn)))
  · exact .single (connRefreshTimer_act hi hl hnow)

lemma connUpdateClosing_acts (hi : Inside env e) (hl : e.LiveConn c)
    (hs : (e.conns c).state = .closing) {now : ℤ} (hnow : Read env e.tick now) :
    Acts env op e (connUpdateClosing env e c now) := by
  rw [connUpdateClosing]
  dsimp only
  split_ifs with hdue hretry hlast
  · obtain ⟨ha, hl1⟩ : Act env op _ _ ∧ _ := connSendClose_act hi hl hs (e.conns c).closeReason
      (Or.inr ⟨hretry, rfl⟩) rfl
    exact (Relation.ReflTransGen.single ha).tail
      (connCloseInternal_act (Acts.inside (.single ha) hi) hl1
        (Acts.settled (.single ha) hi.toOwn hl.1 (by simp [hs])) _)
  · obtain ⟨ha, hl1⟩ : Act env op _ _ ∧ _ := connSendClose_act hi hl hs (e.conns c).closeReason
      (Or.inr ⟨hretry, rfl⟩) rfl
    exact (Relation.ReflTransGen.single ha).tail (connRefreshTimer_act
      (Acts.inside (.single ha) hi) hl1 (hnow.mono (Acts.tick (.single ha) hi.toOwn)))
  · exact .single (connCloseInternal_act hi hl (by simp [hs]) _)
  · exact .single (connRefreshTimer_act hi hl hnow)

/-- **`kcpmux_conn_update`.** -/
lemma connUpdate_acts (hi : Inside env e) (hk : c < e.nconns) {now : ℤ}
    (hnow : Read env e.tick now) : Acts env op e (connUpdate env e c now) := by
  rw [connUpdate]
  split_ifs with hcl
  · rfl
  · have hl : e.LiveConn c := ⟨hk, by simpa using hcl⟩
    have href : Act env op e _ := connRefreshTimer_act hi hl hnow
    dsimp only
    split_ifs
    · exact .single href
    · cases hs : (e.conns c).state with
      | connecting => exact connUpdateConnecting_acts hi hl hs hnow
      | connected => exact connUpdateConnected_acts hi hl hs hnow
      | closing => exact connUpdateClosing_acts hi hl hs hnow
      | init => exact .single href
      | closed => exact .single href
      | error => exact .single href

/-! ### The public functions -/

/-- **`kcpmux_conn_close`**, inside its bracket. -/
lemma connClose_acts (hs : Sound env e) (hl : e.LiveConn c) (hini : (e.conns c).state ≠ .init) :
    ∃ e1, Acts env op
        (engineOperationEnter { e with stats := { e.stats with
          apiConnCloseCalls := e.stats.apiConnCloseCalls + 1 } }) e1 ∧
      connClose env e c = engineOperationLeave env e1 := by
  set e0 := engineOperationEnter { e with stats := { e.stats with
    apiConnCloseCalls := e.stats.apiConnCloseCalls + 1 } } with he0
  have hi0 : Inside env e0 := hs.enter _ rfl
  have hl0 : e0.LiveConn c := hl
  set x : Conn := { e0.conns c with
    lastCtrlTs := engineNow env e0, closeReason := closeReasonNormal, retryCount := 0 } with hx
  set e1 := e0.tock.setConn c x with he1
  have hclose : connClose env e c =
      if (e0.conns c).internalClosed = true ∨ (e0.conns c).state = .closing ∨
          (e0.conns c).state = .closed ∨ (e0.conns c).state = .error then
        engineOperationLeave env e0
      else
        let e := (connSendClose env (connSetState env e1 c .closing) c closeReasonNormal).2
        engineOperationLeave env
          (if (e.conns c).config.closeRetries = 0 then
            connCloseInternal env e c closeReasonNormal
          else e) := rfl
  rw [hclose]
  split_ifs with hst
  · exact ⟨e0, .refl, rfl⟩
  · simp only [not_or] at hst
    have hini0 : (e0.conns c).state ≠ .init := hini
    have hst' : (e0.conns c).state = .connecting ∨ (e0.conns c).state = .connected := by
      cases hs : (e0.conns c).state <;> simp_all
    have hx1 : e1.conns c = x := by simp [he1, Engine.setConn]
    obtain ⟨now, m, t, st, cs, ht, hnow, hlife, hm, heq⟩ := connSetState_did env (e := e1)
      (c := c) hi0.depth (by rw [hx1]; exact hl0.2) (hi0.conn_owner hl0) .closing
      (by rw [hx1]; exact hst.2.1)
    rw [if_neg (by decide), hx1] at heq
    rw [hx1] at hm
    have ht' : e0.tick + 1 ≤ t := ht
    obtain ⟨ha, hl1⟩ : Act env op e0 (e0.stepConn c _ _ m t st cs) ∧ _ := conn_act hl0 (by omega)
      (.close ⟨e0.tick, by omega, rfl⟩ hnow hst') hm hlife
    have hstep : connSetState env e1 c .closing = e0.stepConn c { x with state := .closing }
        (connStateEvents c (e0.conns c) .closing) m t st cs := by
      rw [heq, he1]
      simp [Engine.stepConn, Engine.setConn, Engine.tock, connStateEvents, hx]
    rw [hstep]
    have h1 : Acts env op e0 _ := .single ha
    obtain ⟨hb, hl2⟩ : Act env op _ _ ∧ _ := connSendClose_act (h1.inside hi0) hl1 (by simp)
      closeReasonNormal (Or.inl rfl) rfl
    rw [setConn_retryCount_self] at hb hl2
    have h2 : Acts env op e0 _ := h1.tail hb
    refine ⟨_, ?_, rfl⟩
    split_ifs
    · exact h2.tail (connCloseInternal_act (h2.inside hi0) hl2 (h2.settled hi0.toOwn hl0.1 hini0) _)
    · exact h2

/-- `kcpmux_conn_set_config`. -/
lemma connSetConfig_act (h : Own env e) (hl : e.LiveConn c) (config : ConnConfig) :
    connSetConfig env e c config = e ∨
      ∃ now prepared m t, Read env (connSetConfig env e c config).tick now ∧
        Act env op e (e.stepConn c { e.conns c with config := prepared } [] m t e.stats
          e.connStats) ∧
        Rearmed now e.timerManager
          (e.stepConn c { e.conns c with config := prepared } [] m t e.stats e.connStats)
          (connSetConfig env e c config) := by
  rw [connSetConfig, if_neg (by simp [hl.2])]
  cases hc : connConfigPrepare config with
  | none => exact Or.inl rfl
  | some prepared =>
      dsimp only
      set x : Conn := { e.conns c with config := prepared } with hx
      set e1 := (e.setConn c x).tock with he1
      have hnow : engineNow env (e.setConn c x) = engineNow env e := rfl
      have hx1 : e1.conns c = x := by simp [he1, Engine.setConn, Engine.tock]
      rw [hnow]
      obtain ⟨m, t, ht, hm, hr⟩ := connRefreshTimer_did env (e := e1) (c := c)
        (by rw [hx1]; exact hl.2) (h.conn_owner hl) (engineNow env e)
      rw [hx1] at hm
      have ht' : e.tick + 1 ≤ t := ht
      have hread : Read env t (engineNow env e) := ⟨e.tick, ht', rfl⟩
      exact Or.inr ⟨engineNow env e, prepared, m, t, hread.mono (by rw [hr.tick]),
        (conn_act hl (by omega) (.config hread hc) hm rfl).1, hr⟩

/-- `kcpmux_conn_set_callbacks`. -/
lemma connSetCallbacks_act (hl : e.LiveConn c) (callbacks : Option ConnCallbacks)
    (h : (∃ y, op = .connSetCallbacks c y) ∨ (e.conns c).state = .init) :
    Act env op e (e.stepConn c { e.conns c with callbacks := callbacks.getD {} } []
        e.timerManager e.tick e.stats e.connStats) ∧
      connSetCallbacks e c callbacks =
        e.stepConn c { e.conns c with callbacks := callbacks.getD {} } [] e.timerManager e.tick
          e.stats e.connStats := by
  rw [connSetCallbacks, if_neg (by simp [hl.2])]
  exact ⟨(conn_act hl le_rfl (.callbacks h) rfl rfl).1, rfl⟩

/-- The setters of an acceptance callback have run on the connection `c`. -/
structure ConnTuned (env : Env K) (op : Call) (c : ℕ) (e e' : Engine K) : Prop where
  acts : Acts env op e e'
  live : e'.LiveConn c
  nconns : e'.nconns = e.nconns
  conn : ∃ config callbacks, e'.conns c =
    { e.conns c with config := config, callbacks := callbacks }

lemma ConnSetter.apply_tuned (hi : Inside env e) (hl : e.LiveConn c)
    (hs : (e.conns c).state = .init) (setter : ConnSetter) :
    ConnTuned env op c e (setter.apply env c e) := by
  cases setter with
  | config config =>
      rcases connSetConfig_act hi.toOwn hl config with heq | ⟨now, prepared, m, t, -, ha, hr⟩
      · rw [ConnSetter.apply, heq]
        exact ⟨.refl, hl, rfl, _, _, rfl⟩
      · rw [ConnSetter.apply, hr.eq_of_depth hi.depth]
        exact ⟨.single ha, ⟨hl.1, by simpa using hl.2⟩, rfl, prepared, (e.conns c).callbacks,
          by simp⟩
  | callbacks callbacks =>
      obtain ⟨ha, heq⟩ : Act env op _ _ ∧ _ := connSetCallbacks_act hl callbacks (Or.inr hs)
      rw [ConnSetter.apply, heq]
      exact ⟨.single ha, ⟨hl.1, by simpa using hl.2⟩, rfl, (e.conns c).config, callbacks.getD {},
        by simp⟩

/-- The setters a callback makes, one after the other. -/
lemma connSetters_tuned (setters : List ConnSetter) (hi : Inside env e) (hl : e.LiveConn c)
    (hs : (e.conns c).state = .init) :
    ConnTuned env op c e (setters.foldl (ConnSetter.apply env c) e) := by
  induction setters generalizing e with
  | nil => exact ⟨.refl, hl, rfl, _, _, rfl⟩
  | cons setter setters ih =>
      have h1 : ConnTuned env op c e _ := setter.apply_tuned hi hl hs
      obtain ⟨config, callbacks, hx⟩ := h1.conn
      have h2 := ih (h1.acts.inside hi) h1.live (by rw [hx]; exact hs)
      obtain ⟨config', callbacks', hx'⟩ := h2.conn
      exact ⟨h1.acts.trans h2.acts, h2.live, h2.nconns.trans h1.nconns, config', callbacks',
        by rw [List.foldl_cons, hx', hx]⟩

end KcpMux
