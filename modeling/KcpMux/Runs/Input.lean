import KcpMux.Runs.Create

/-!
The datagram handler as steps.

Each message type has its lemma; `protocolInput_acts` puts them together: a datagram is a
chain of steps, whatever its bytes are.
-/

namespace KcpMux

variable {K : Type} {env : Env K} {op : Call} {e e' : Engine K} {c : ℕ}

/-! ### Lookups -/

/-- **The connection table** finds the live connection with the key, and no other. -/
lemma engineGetConnById_eq_some (h : Own env e) {addr : Addr} {id : UInt64}
    (ha : addr ≠ [] ∧ addr.length ≤ addrMaxLen) (hid : id ≠ 0) :
    engineGetConnById env e addr id = some c ↔
      e.LiveConn c ∧ (e.conns c).localConnectionId = id ∧ (e.conns c).peerAddr = addr := by
  have hcmp : ∀ d, connCmp e addr id d = true ↔
      (e.conns d).localConnectionId = id ∧ (e.conns d).peerAddr = addr := by
    intro d
    rw [connCmp, connKeyMatches_iff]
    exact and_congr eq_comm eq_comm
  rw [engineGetConnById, if_neg (by simp [ha, hid]), h.connTable.find_eq_some, hcmp]
  · intro d _ hd
    rw [Engine.connHash, ((hcmp d).mp hd).1, ((hcmp d).mp hd).2]
  · intro d d' hd hd' hm hm'
    exact h.connIdInj d hd.1 d' hd'.1 (((hcmp d).mp hm).1.trans ((hcmp d').mp hm').1.symm)

/-- **The handshake table** finds the live passive connection with the key, and no other. -/
lemma engineGetPassiveConn_eq_some (h : Own env e) {addr : Addr} {id : UInt64}
    (ha : addr ≠ [] ∧ addr.length ≤ addrMaxLen) (hid : id ≠ 0) :
    engineGetPassiveConn env e addr id = some c ↔
      e.LivePassive c ∧ (e.conns c).peerConnectionId = id ∧ (e.conns c).peerAddr = addr := by
  have hcmp : ∀ d, handshakeCmp e addr id d = true ↔
      (e.conns d).peerConnectionId = id ∧ (e.conns d).peerAddr = addr := by
    intro d
    rw [handshakeCmp, connKeyMatches_iff]
    exact and_congr eq_comm eq_comm
  rw [engineGetPassiveConn, if_neg (by simp [ha, hid]), h.handshakeTable.find_eq_some, hcmp]
  · intro d _ hd
    rw [Engine.handshakeHash, ((hcmp d).mp hd).1, ((hcmp d).mp hd).2]
  · intro d d' hd hd' hm hm'
    refine h.handshakeKey d d' hd hd' ?_ ?_
    · exact ((hcmp d).mp hm).2.trans ((hcmp d').mp hm').2.symm
    · exact ((hcmp d).mp hm).1.trans ((hcmp d').mp hm').1.symm

/-- **The stream table** of a connection finds its live stream with the id, and no other. -/
lemma connGetStreamById_eq_some (h : Own env e) (hc : c < e.nconns) {id : UInt32} {s : ℕ} :
    connGetStreamById env e c id = some s ↔ e.LiveIn c s ∧ (e.streams s).streamId = id := by
  have hcmp : ∀ q, streamCmp e id q = true ↔ (e.streams q).streamId = id := by
    intro q
    rw [streamCmp, beq_iff_eq, eq_comm]
  rw [connGetStreamById, (h.streamTable c hc).find_eq_some, hcmp]
  · intro q _ hq
    rw [Engine.streamHash, (hcmp q).mp hq]
  · intro q q' hq hq' hm hm'
    exact h.streamKey q q' hq.1 hq'.1 (hq.2.trans hq'.2.symm)
      (((hcmp q).mp hm).trans ((hcmp q').mp hm').symm)

/-! ### The handshake -/

/-- A datagram without a refresh. -/
lemma connWrite_did (env : Env K) (e : Engine K) (c : ℕ) (msg : Bytes) :
    ∃ st cs ok, st.life = e.stats.life ∧ (connWriteSocket env e (.conn c) c msg).2 =
      e.stepConn c (e.conns c) [.write (.conn c) (e.conns c).peerAddr msg ok] e.timerManager
        (e.tick + 1) st cs := by
  obtain ⟨st, cs, hst, heq⟩ := connWriteSocketv_did env e (.conn c) c (List.cons_ne_nil msg [])
  refine ⟨st, cs, env.writeSocketv e.tick, hst, ?_⟩
  rw [connWriteSocket, heq]
  simp [Engine.stepConn]

/-- The acknowledgement fits in a datagram. -/
lemma protocolSendConnConnectAck_eq (env : Env K) (e : Engine K) (c : ℕ) (result : UInt8) :
    protocolSendConnConnectAck env e c result =
      connWriteSocket env e (.conn c) c (connConnectAckMsg (e.conns c) result) := by
  have hext : ¬ protoConnectAckLen + (e.conns c).selfProtoExt.len > protoMsgMaxLen := by
    have hle := (e.conns c).selfProtoExt.len_le
    simp only [ProtoExt.len, protoConnectAckLen, protoCommonLen, protoMsgMaxLen,
      protoExtMaxLen] at hle ⊢
    omega
  rw [protocolSendConnConnectAck, if_neg hext]

/-- `kcpmux_conn_send_connect_ack` on a connection that stays. -/
lemma connSendConnectAck_act (hl : e.LiveConn c) (hini : (e.conns c).isInitiator = false)
    (hs : (e.conns c).state ≠ .init) {result : UInt8}
    (hr : result = UInt8.ofInt ackResultOk ∧ (e.conns c).state = .connected ∨
      result = UInt8.ofInt ackResultVersion) :
    Act env op e (connSendConnectAck env e c result).2 ∧
      (connSendConnectAck env e c result).2.nconns = e.nconns := by
  rw [connSendConnectAck, protocolSendConnConnectAck_eq]
  obtain ⟨st, cs, ok, hst, heq⟩ := connWrite_did env e c (connConnectAckMsg (e.conns c) result)
  rw [heq]
  exact ⟨(conn_act hl (Nat.le_succ _) (.ack hini hs hr) rfl hst).1, rfl⟩

/-- The engine in which a refused connection is finalised. -/
def protocolRejecting (env : Env K) (e : Engine K) (c : ℕ) (result : ℤ) : Engine K :=
  let e := { e with stats := { e.stats with connRejectedTotal := e.stats.connRejectedTotal + 1 } }
  let e := (connSendConnectAck env e c (UInt8.ofInt result)).2
  e.setConn c { e.conns c with callbacks := {} }

lemma protocolReject_eq (env : Env K) (e : Engine K) (c : ℕ) (r : ℤ) :
    protocolReject env e c r =
      connCloseInternal env (protocolRejecting env e c r) c closeReasonRejected :=
  rfl

/-- A refused handshake has its acknowledgement. -/
lemma protocolRejecting_eq (env : Env K) (e : Engine K) (c : ℕ) (r : ℤ) (evs : List Event) :
    ∃ ok st cs, st.life = e.stats.life ∧
      protocolRejecting env ({ e with trace := evs ++ e.trace }.setConn c
        { e.conns c with selfProtoExt := .empty }) c r =
      e.stepConn c { e.conns c with callbacks := {}, selfProtoExt := .empty }
        (.write (.conn c) (e.conns c).peerAddr
          (connConnectAckMsg { e.conns c with selfProtoExt := .empty } (UInt8.ofInt r)) ok :: evs)
        e.timerManager (e.tick + 1) st cs := by
  set x : Conn := { e.conns c with selfProtoExt := .empty } with hx
  set e1 : Engine K := { { e with trace := evs ++ e.trace }.setConn c x with
    stats := { e.stats with connRejectedTotal := e.stats.connRejectedTotal + 1 } } with he1
  have hx1 : e1.conns c = x := by simp [he1, Engine.setConn]
  obtain ⟨st, cs, ok, hst, heq⟩ := connWrite_did env e1 c
    (connConnectAckMsg (e1.conns c) (UInt8.ofInt r))
  have hrej : protocolRejecting env ({ e with trace := evs ++ e.trace }.setConn c x) c r =
      (e1.stepConn c (e1.conns c) [.write (.conn c) (e1.conns c).peerAddr
        (connConnectAckMsg (e1.conns c) (UInt8.ofInt r)) ok] e1.timerManager (e1.tick + 1) st
        cs).setConn c { e1.conns c with callbacks := {} } := by
    rw [protocolRejecting, connSendConnectAck, protocolSendConnConnectAck_eq]
    have hz := congrArg (fun z : Engine K => z.setConn c { z.conns c with callbacks := {} }) heq
    dsimp only at hz
    rw [stepConn_conns_self] at hz
    exact hz
  refine ⟨ok, st, cs, hst, ?_⟩
  rw [hrej, hx1]
  simp [he1, hx, Engine.stepConn, Engine.setConn]

section

variable {r : ℤ} {evs : List Event} (hi : Inside env e) (hl : e.LiveConn c)
  (hini : (e.conns c).isInitiator = false) (hs : (e.conns c).state = .init)
  (hr : r ≠ ackResultOk) (hev : evs = [.connConnectNotify c r] ∨ (r = ackResultError ∧
    (evs = [] ∨ evs = [.connConnectNotify c ackResultOk])))

include hi hl hini hs hr hev

lemma protocolRejecting_own {e1 : Engine K}
    (he1 : e1 = protocolRejecting env ({ e with trace := evs ++ e.trace }.setConn c
      { e.conns c with selfProtoExt := .empty }) c r) :
    Own env e1 ∧ 0 < e1.operationDepth ∧ e1.LiveConn c ∧ e1.nconns = e.nconns := by
  obtain ⟨ok, st, cs, hst, heq⟩ := protocolRejecting_eq env e c r evs
  have hlast : ConnLast c (e.conns c) { e.conns c with callbacks := {}, selfProtoExt := .empty }
      (.write (.conn c) (e.conns c).peerAddr
        (connConnectAckMsg { e.conns c with selfProtoExt := .empty } (UInt8.ofInt r)) ok :: evs) :=
    .reject hini hs hr hev
  have hsame := SameOwn.connLast env hl hlast (e.tick + 1) st cs
  rw [he1, heq]
  exact ⟨hi.toOwn.of_same hsame, hi.depth, (hsame.liveConn c).mpr hl, rfl⟩

lemma protocolReject_acts {e1 : Engine K}
    (he1 : e1 = protocolReject env ({ e with trace := evs ++ e.trace }.setConn c
      { e.conns c with selfProtoExt := .empty }) c r) :
    Acts env op e e1 ∧ e1.nconns = e.nconns ∧ (e1.conns c).internalClosed = true := by
  obtain ⟨hown, hd, hl1, hn⟩ := protocolRejecting_own hi hl hini hs hr hev rfl
  obtain ⟨ok, st, cs, hst, heq⟩ := protocolRejecting_eq env e c r evs
  rw [he1, protocolReject_eq]
  refine ⟨.single ?_, (connCloseInternal_nconns hown hd hl1 _).1.trans hn,
    connCloseInternal_closed hown hd hl1 _⟩
  rw [heq]
  exact .connLast hi.depth hl (Nat.le_succ _) (.reject hini hs hr hev) hst

end

/-- How the acceptance callback can end: the connection has been tuned and is to be accepted,
or to be refused with `r`. -/
inductive Notified (env : Env K) (op : Call) (e : Engine K) (c : ℕ) : ℤ × Engine K → Prop
  | accepted {e' : Engine K} {ext : ProtoExt} (h : Acts env op e e')
      (hn : e'.nconns = e.nconns) (hl : e'.LiveConn c)
      (hx : (e'.conns c).isInitiator = false ∧ (e'.conns c).state = .init) :
      Notified env op e c (ackResultOk, (e'.log (.connConnectNotify c ackResultOk)).setConn c
        { e'.conns c with selfProtoExt := ext })
  | refused {e' : Engine K} {r : ℤ} {evs : List Event} (h : Acts env op e e')
      (hn : e'.nconns = e.nconns) (hl : e'.LiveConn c)
      (hx : (e'.conns c).isInitiator = false ∧ (e'.conns c).state = .init)
      (hr : r ≠ ackResultOk)
      (hev : evs = [.connConnectNotify c r] ∨ (r = ackResultError ∧
        (evs = [] ∨ evs = [.connConnectNotify c ackResultOk]))) :
      Notified env op e c (r, { e' with trace := evs ++ e'.trace }.setConn c
        { e'.conns c with selfProtoExt := .empty })

/-- **The call of `conn_connect_notify`.** -/
lemma protocolConnectNotify_notified (hi : Inside env e) (hl : e.LiveConn c)
    (hini : (e.conns c).isInitiator = false) (hs : (e.conns c).state = .init)
    (hext : (e.conns c).selfProtoExt = .empty) :
    Notified env op e c (protocolConnectNotify env e c) := by
  have hself : e.setConn c { e.conns c with selfProtoExt := .empty } = e := by
    rw [← hext]
    simp [Engine.setConn]
  have herr : ackResultError ≠ ackResultOk := by decide
  rw [protocolConnectNotify, hself]
  cases env.connConnectNotify with
  | none =>
      dsimp only
      have h : Notified env op e c (ackResultError, ({ e with trace := [] ++ e.trace }.setConn c
          { e.conns c with selfProtoExt := .empty })) :=
        .refused .refl rfl hl ⟨hini, hs⟩ herr (Or.inr ⟨rfl, Or.inl rfl⟩)
      simpa [hself] using h
  | some notify =>
      dsimp only
      set reply := notify e.tick with hreply
      have hq : Act env op e e.tock := quiet_act op (Nat.le_succ _)
      have ht : ConnTuned env op c e.tock (reply.setters.foldl (ConnSetter.apply env c) e.tock) :=
        connSetters_tuned _ (Acts.inside (.single hq) hi) hl hs
      generalize reply.setters.foldl (ConnSetter.apply env c) e.tock = e1 at ht ⊢
      have hacts : Acts env op e e1 := .head hq ht.acts
      have hx : (e1.conns c).isInitiator = false ∧ (e1.conns c).state = .init := by
        obtain ⟨config, callbacks, hx⟩ := ht.conn
        rw [hx]
        exact ⟨hini, hs⟩
      by_cases hres : reply.result = ackResultOk
      · by_cases hlong : reply.respProtoExt.length > protoExtMaxLen
        · rw [if_pos ⟨hres, hlong⟩, if_neg herr, hres]
          exact .refused hacts ht.nconns ht.live hx herr (Or.inr ⟨rfl, Or.inr rfl⟩)
        · rw [if_neg (fun h => hlong h.2), hres, if_pos rfl]
          exact .accepted hacts ht.nconns ht.live hx
      · rw [if_neg (fun h => hres h.1), if_neg hres]
        exact .refused hacts ht.nconns ht.live hx hres (Or.inl rfl)

/-- A node that was just registered is not in the heap. -/
lemma timerCancel_timerNodeInit {P : Type} [DecidableEq P] (m : TimerManager P) (p : P) :
    timerCancel (timerNodeInit m p) p = timerNodeInit m p := by
  simp [timerCancel, timerNodeInit, TimerManager.setNode]

/-- `kcpmux_conn_note_receive` on a connection that is not in the tables yet. -/
lemma connNoteReceive_placeConn (hd : 0 < e.operationDepth) {x : Conn} (hx : x.state = .init)
    (hcl : x.internalClosed = false) (m : TimerManager Owner) (t : ℕ) (st : EngineStats)
    (recv : ℤ) :
    connNoteReceive env (e.placeConn x (timerNodeInit m (.conn e.nconns)) t st) e.nconns recv
        false =
      e.placeConn { x with lastRecvTs := if recv > x.lastRecvTs then recv else x.lastRecvTs }
        (timerNodeInit m (.conn e.nconns)) t st := by
  rw [connNoteReceive, placeConn_conns_self, if_neg (by simp [hcl]), placeConn_setConn,
    connRefreshTimer, placeConn_conns_self, if_neg (by simp [hcl])]
  simp only [connCalculateDeadline, hcl, hx, Bool.false_eq_true, if_false, if_true, false_and]
  rw [engineCancelTimerNode, engineRearmTimer_of_depth (by exact hd)]
  simp only [Engine.placeConn, timerCancel_timerNodeInit]

/-- An accepted connection enters `CONNECTED` and is acknowledged. -/
lemma connAccept_act (hi : Inside env e) (hl : e.LiveConn c)
    (hini : (e.conns c).isInitiator = false) (hs : (e.conns c).state = .init) {ext : ProtoExt}
    {e0 e1 : Engine K}
    (he0 : e0 = (e.log (.connConnectNotify c ackResultOk)).setConn c
      { e.conns c with selfProtoExt := ext })
    (he1 : e1 = (connSendConnectAck env (connSetState env e0 c .connected) c
      (UInt8.ofInt ackResultOk)).2) :
    Act env op e e1 ∧ (e1.conns c).state = .connected ∧ e1.nconns = e.nconns := by
  generalize hy : ({ e.conns c with selfProtoExt := ext } : Conn) = y at he0
  have hy0 : e0.conns c = y := by simp [he0, Engine.setConn]
  have hys : y.state = .init := by rw [← hy]; exact hs
  have ht0 : e0.tick = e.tick := by rw [he0]; rfl
  have hm0 : e0.timerManager = e.timerManager := by rw [he0]; rfl
  have hst0 : e0.stats = e.stats := by rw [he0]; rfl
  obtain ⟨now, m, t, st, cs, ht, hnow, hst, hm, heq⟩ := connSetState_did env (e := e0) (c := c)
    (by rw [he0]; exact hi.depth) (by rw [hy0, ← hy]; exact hl.2)
    (by rw [hm0]; exact hi.conn_owner hl) .connected (by simp [hy0, hys])
  rw [if_neg (by decide), hy0] at heq
  rw [hy0, hm0] at hm
  rw [ht0] at ht
  rw [hst0] at hst
  generalize hx : ({ y with state := .connected } : Conn) = x at hm heq
  have hstep0 : e0.stepConn c x (connStateEvents c y .connected) m t st cs =
      e.stepConn c x (connStateEvents c y .connected ++ [.connConnectNotify c ackResultOk]) m t
        st cs := by
    rw [he0]
    simp [Engine.stepConn, Engine.setConn, Engine.log]
  rw [hstep0] at heq
  obtain ⟨st', cs', ok, hst', hw⟩ := connWrite_did env
    (e.stepConn c x (connStateEvents c y .connected ++ [.connConnectNotify c ackResultOk]) m t st
      cs) c (connConnectAckMsg x (UInt8.ofInt ackResultOk))
  have hev : connStateEvents c y .connected = connStateEvents c (e.conns c) .connected := by
    rw [← hy]; rfl
  have hmsg : connConnectAckMsg x (UInt8.ofInt ackResultOk) =
      connConnectAckMsg y (UInt8.ofInt ackResultOk) := by rw [← hx]; rfl
  have hpeer : x.peerAddr = (e.conns c).peerAddr := by rw [← hx, ← hy]
  have hstep : e1 = e.stepConn c x (.write (.conn c) (e.conns c).peerAddr
      (connConnectAckMsg y (UInt8.ofInt ackResultOk)) ok ::
        (connStateEvents c (e.conns c) .connected ++ [.connConnectNotify c ackResultOk])) m
        (t + 1) st' cs' := by
    rw [he1, heq, connSendConnectAck, protocolSendConnConnectAck_eq, stepConn_conns_self, hw,
      stepConn_conns_self, hmsg, hpeer, hev]
    simp [Engine.stepConn]
  have htrans : ConnTrans env op (t + 1) c (e.conns c) x (.write (.conn c) (e.conns c).peerAddr
      (connConnectAckMsg y (UInt8.ofInt ackResultOk)) ok ::
        (connStateEvents c (e.conns c) .connected ++ [.connConnectNotify c ackResultOk]))
        (some now) := by
    rw [← hx, ← hy]
    exact .accept (hnow.mono (Nat.le_succ t)) hini hs
  have hact : Act env op e (e.stepConn c x _ m (t + 1) st' cs') :=
    .conn hl (Nat.le_succ_of_le ht) htrans hm (hst'.trans hst)
  rw [hstep]
  exact ⟨hact, by rw [stepConn_conns_self, ← hx], rfl⟩

/-- How a `CONN_CONNECT` from a peer that is not known yet is handled: there is no memory for a
connection, or there is one, which has heard from the peer and is accepted or refused. -/
inductive Entered (env : Env K) (op : Call) (recv : ℤ) (e : Engine K) : ℤ × Engine K → Prop
  | failed {e' : Engine K} (h : Acts env op e e') (hn : e'.nconns = e.nconns) :
      Entered env op recv e (-errOom, e')
  | entered {e1 e' : Engine K} (h1 : Act env op e e1) (hl1 : e1.LiveConn e.nconns)
      (hrecv : recv ≤ (e1.conns e.nconns).lastRecvTs) (hn1 : e1.nconns = e.nconns + 1)
      (h : Acts env op e1 e') (hn : e'.nconns = e1.nconns)
      (hx : e'.LiveConn e.nconns → (e'.conns e.nconns).state ≠ .init) :
      Entered env op recv e (0, e')

lemma protocolAccept_entered (hi : Inside env e) {d : Bytes} {addr : Addr} {id : UInt64}
    {ext : Bytes} (hop : op = .input d addr) (hd : ConnectDatagram d id ext)
    (ha : addr ≠ [] ∧ addr.length ≤ addrMaxLen)
    (hfresh : engineGetPassiveConn env e addr id = none) {recv : ℤ}
    (hrecv : Read env e.tick recv) :
    Entered env op recv e (protocolAccept env e addr id ext recv) := by
  rw [protocolAccept]
  have hnew : ConnNewed env op e addr none false (connNew env e addr none false) :=
    connNew_newed addr none false
  generalize connNew env e addr none false = r at hnew ⊢
  cases hnew with
  | failed h hn => exact .failed h hn
  | @created prepared next now t capacity hid _ hc hn ht hnow hcap =>
      dsimp only
      rw [placeConn_conns_self, placeConn_setConn, connNoteReceive_placeConn hi.depth rfl rfl]
      have hnc : NewConn env op e t
          { connRecord false e.nextConnectionId addr prepared next now with
            peerConnectionId := id, peerProtoExt := .clip ext
            lastRecvTs := if recv > now then recv else now } :=
        .passive hop hd hc hn hnow (hrecv.mono ht) ha hfresh
      generalize hadd : engineAddConn env _ e.nconns = e1
      obtain ⟨h1, hl1, hx1, hn1⟩ := engineAddConn_act hi.toOwn ht hid hcap hnc hadd.symm
      have hlate : recv ≤ (e1.conns e.nconns).lastRecvTs := by
        rw [hx1]
        dsimp only
        split_ifs <;> omega
      have hi1 : Inside env e1 := Acts.inside (.single h1) hi
      have hnot : Notified env op e1 e.nconns (protocolConnectNotify env e1 e.nconns) :=
        protocolConnectNotify_notified hi1 hl1 (by rw [hx1]; rfl) (by rw [hx1]; rfl)
          (by rw [hx1]; rfl)
      generalize protocolConnectNotify env e1 e.nconns = r at hnot ⊢
      cases hnot with
      | refused h hn2 hl hx hr hev =>
          rw [if_neg hr]
          obtain ⟨h3, hn3, hcl⟩ : Acts env op _ _ ∧ _ :=
            protocolReject_acts (h.inside hi1) hl hx.1 hx.2 hr hev rfl
          refine .entered h1 hl1 hlate hn1 (h.trans h3) (hn3.trans hn2) fun hl => ?_
          exact absurd (hcl.symm.trans hl.2) (by decide)
      | accepted h hn2 hl hx =>
          rw [if_pos rfl]
          obtain ⟨h3, hs3, hn3⟩ : Act env op _ _ ∧ _ :=
            connAccept_act (h.inside hi1) hl hx.1 hx.2 rfl rfl
          refine .entered h1 hl1 hlate hn1 (h.tail h3) (hn3.trans hn2) fun _ => ?_
          rw [hs3]
          decide

/-- **A `CONN_CONNECT` from a peer that is not known yet.** -/
lemma Entered.acts {recv : ℤ} {r : ℤ × Engine K} (h : Entered env op recv e r) (ho : Own env e)
    (hn0 : e.NoInit) : Acts env op e r.2 ∧ r.2.NoInit := by
  cases h with
  | failed h hn => exact ⟨h, (h.grows ho).noInit hn hn0⟩
  | entered h1 _ _ hn1 h hn hx =>
      have hB : Acts env op e _ := h.head h1
      exact ⟨hB, (hB.grows ho).noInit_succ (hn.trans hn1) hn0 hx⟩

lemma countReceived_act (c size : ℕ) : Act env op e (e.countReceived c size) :=
  .quiet le_rfl rfl

/-- **`CONN_CONNECT`.** -/
lemma inputConnect_acts (hi : Inside env e) {d : Bytes} {addr : Addr} (hop : op = .input d addr)
    (htype : Buf.of d 0 = msgConnConnect) (ha : addr ≠ [] ∧ addr.length ≤ addrMaxLen) {recv : ℤ}
    (hrecv : Read env e.tick recv) (hn : e.NoInit) :
    Acts env op e (inputConnect env e (Buf.of d) d.length addr recv).2 ∧
      (inputConnect env e (Buf.of d) d.length addr recv).2.NoInit := by
  rw [inputConnect]
  dsimp only
  split_ifs with hlen hid hextLen hshort hver
  · exact ⟨.refl, hn⟩
  · exact ⟨.refl, hn⟩
  · exact ⟨.refl, hn⟩
  · exact ⟨.refl, hn⟩
  · cases hc : engineGetPassiveConn env e addr (readU64 (Buf.of d) protoCommonLen) with
    | none => exact ⟨.refl, hn⟩
    | some c =>
        have hp := ((engineGetPassiveConn_eq_some hi.toOwn ha hid).mp hc).1
        obtain ⟨h1, hn1⟩ : Act env op _ _ ∧ _ :=
          connSendConnectAck_act hp.1 hp.2 (hn c hp.1) (Or.inr rfl)
        exact ⟨.single h1, (Acts.grows (.single h1) hi.toOwn).noInit hn1 hn⟩
  · cases hc : engineGetPassiveConn env e addr (readU64 (Buf.of d) protoCommonLen) with
    | some c =>
        obtain ⟨hp, -, haddr⟩ := (engineGetPassiveConn_eq_some hi.toOwn ha hid).mp hc
        dsimp only
        split_ifs with hst
        · exact ⟨.refl, hn⟩
        · rw [not_not] at hst
          have h0 : Act env op e (e.countReceived c d.length) := countReceived_act c _
          have h0' : Acts env op e _ := .single h0
          obtain ⟨x, m, t, h1, heq, hx⟩ := connNoteReceive_act (h0'.inside hi) hp.1
            (hrecv.mono (h0'.tick hi.toOwn)) (hop.trans (by rw [← haddr]; rfl)) false
          generalize connNoteReceive env (e.countReceived c d.length) c recv false = e1 at h1 heq ⊢
          have hx1 : e1.conns c = x := by rw [heq, stepConn_conns_self]
          have hn1 : e1.nconns = e.nconns := by rw [heq]; rfl
          have hst1 : (e1.conns c).state = .connected := by rw [hx1, hx]; exact hst
          obtain ⟨h2, hn2⟩ :
              Act env op e1 (connSendConnectAck env e1 c (UInt8.ofInt ackResultOk)).2 ∧ _ :=
            connSendConnectAck_act ⟨hn1 ▸ hp.1.1, by rw [hx1, hx]; exact hp.1.2⟩
              (by rw [hx1, hx]; exact hp.2) (by simp [hst1]) (Or.inl ⟨rfl, hst1⟩)
          have hB : Acts env op e _ := (h0'.tail h1).tail h2
          exact ⟨hB, (hB.grows hi.toOwn).noInit (hn2.trans hn1) hn⟩
    | none =>
        rw [not_not] at hver
        refine (protocolAccept_entered hi hop ⟨htype, rfl, hid, hver, rfl, ?_, ?_⟩ ha hc hrecv).acts
          hi.toOwn hn
        · exact not_lt.mp hextLen
        · exact not_lt.mp hshort

/-! ### Messages to a connection -/

/-- The datagram `d` is handled for the live connection `c`. -/
structure Addressed (op : Call) (d : Bytes) (e : Engine K) (c : ℕ) : Prop where
  live : e.LiveConn c
  settled : (e.conns c).state ≠ .init
  op_eq : op = .input d (e.conns c).peerAddr
  dest : readU64 (Buf.of d) 1 = (e.conns c).localConnectionId

/-- The reception is noted, and the datagram is still handled for the connection. -/
lemma Addressed.note {d : Bytes} (h : Addressed op d e c) (hi : Inside env e) {recv : ℤ}
    (hrecv : Read env e.tick recv) (isPayload : Bool) {e1 : Engine K}
    (he1 : e1 = connNoteReceive env e c recv isPayload) :
    Acts env op e e1 ∧ Addressed op d e1 c ∧ e1.streams = e.streams ∧
      e1.nstreams = e.nstreams ∧ (e1.conns c).state = (e.conns c).state ∧
      (e1.conns c).closeReason = (e.conns c).closeReason := by
  obtain ⟨x, m, t, ha, heq, hx⟩ := connNoteReceive_act hi h.live hrecv h.op_eq isPayload
  rw [← he1] at ha heq
  have hx1 : e1.conns c = x := by rw [heq, stepConn_conns_self]
  refine ⟨.single ha, ⟨⟨?_, ?_⟩, ?_, ?_, ?_⟩, by rw [heq]; rfl, by rw [heq]; rfl, ?_, ?_⟩
  · rw [heq]
    exact h.live.1
  · rw [hx1, hx]
    exact h.live.2
  · rw [hx1, hx]
    exact h.settled
  · rw [hx1, hx]
    exact h.op_eq
  · rw [hx1, hx]
    exact h.dest
  · rw [hx1, hx]
  · rw [hx1, hx]

variable {d : Bytes} {recv : ℤ}

/-- An accepted handshake: the initiator enters `CONNECTED`. -/
lemma connEstablish_act (hi : Inside env e) (ha : Addressed op d e c)
    (hs : (e.conns c).state = .connecting) {id : UInt64} {ext : Bytes}
    (hd : AckDatagram d (e.conns c).localConnectionId id ext) {y : Conn}
    (hy : y = { e.conns c with
      peerConnectionId := id
      peerProtoExt := if ext = [] then (e.conns c).peerProtoExt else .clip ext }) :
    Act env op e (connSetState env (e.setConn c y) c .connected) := by
  have hy1 : (e.setConn c y).conns c = y := by simp [Engine.setConn]
  have hys : y.state = .connecting := by rw [hy]; exact hs
  obtain ⟨now, m, t, st, cs, ht, hnow, hst, hm, heq⟩ := connSetState_did env
    (e := e.setConn c y) (c := c) hi.depth (by rw [hy1, hy]; exact ha.live.2)
    (hi.conn_owner ha.live) .connected (by simp [hy1, hys])
  rw [if_neg (by decide), hy1] at heq
  rw [hy1] at hm
  have hact : Act env op e (e.stepConn c { y with state := .connected }
      (connStateEvents c (e.conns c) .connected) m t st cs) := by
    subst hy
    exact (conn_act ha.live ht (.established hnow hs ha.op_eq hd) hm hst).1
  have hev : connStateEvents c y .connected = connStateEvents c (e.conns c) .connected := by
    rw [hy]
    rfl
  have hstep : (e.setConn c y).stepConn c { y with state := .connected }
        (connStateEvents c y .connected) m t st cs =
      e.stepConn c { y with state := .connected }
        (connStateEvents c (e.conns c) .connected) m t st cs := by
    rw [hev]
    simp [Engine.stepConn, Engine.setConn]
  rw [heq, hstep]
  exact hact

/-- A `CONN_CONNECT_ACK` is dropped, or its reception is noted first. -/
lemma inputConnectAck_noted (hi : Inside env e) (ha : Addressed op d e c)
    (htype : Buf.of d 0 = msgConnConnectAck) (hrecv : Read env e.tick recv) :
    (∃ r ≠ 0, inputConnectAck env e c (Buf.of d) d.length recv = (r, e)) ∨
      Acts env op (connNoteReceive env e c recv false)
        (inputConnectAck env e c (Buf.of d) d.length recv).2 := by
  rw [inputConnectAck]
  dsimp only
  generalize hreason : (if Buf.of d (protoCommonLen + 8) ≠ version ∨
    Buf.of d (protoCommonLen + 9) = UInt8.ofInt ackResultVersion then closeReasonVersion
    else closeReasonRejected) = reason
  set ext := (Buf.of d).slice protoConnectAckLen (readU16 (Buf.of d) (protoCommonLen + 10)).toNat
    with hext
  obtain ⟨h1, ha1, -, -, hs1, -⟩ := ha.note hi hrecv false rfl
  have hi1 := h1.inside hi
  generalize connNoteReceive env e c recv false = e1 at hi1 ha1 hs1 ⊢
  generalize hp : (if (readU16 (Buf.of d) (protoCommonLen + 10)).toNat > 0 then ProtoExt.clip ext
    else (e1.conns c).peerProtoExt) = peerExt
  have hpe : peerExt = if ext = [] then (e1.conns c).peerProtoExt else .clip ext := by
    rw [← hp]
    have hlen : ext.length = (readU16 (Buf.of d) (protoCommonLen + 10)).toNat := by
      simp [hext, Buf.slice]
    rcases Nat.eq_zero_or_pos ext.length with h0 | h0
    · rw [if_neg (by omega), if_pos (List.length_eq_zero_iff.mp h0)]
    · rw [if_pos (by omega), if_neg (List.length_pos_iff.mp h0)]
  split_ifs with hst hlen hid hextLen hshort hok
  · exact Or.inl ⟨_, by decide, rfl⟩
  · exact Or.inl ⟨_, by decide, rfl⟩
  · exact Or.inl ⟨_, by decide, rfl⟩
  · exact Or.inl ⟨_, by decide, rfl⟩
  · exact Or.inl ⟨_, by decide, rfl⟩
  · rw [not_not] at hst
    exact Or.inr (.single (connEstablish_act hi1 ha1 (hs1.trans hst)
      ⟨htype, ha1.dest, rfl, hid, hok.1, hok.2, rfl, not_lt.mp hextLen, not_lt.mp hshort⟩
      (by rw [hpe])))
  · rw [not_not] at hst
    have h2 : Acts env op e1 { e1 with
        tick := e1.tick, connStats := e1.connStats
        stats := { e1.stats with connRejectedTotal := e1.stats.connRejectedTotal + 1 } } :=
      .single (.quiet le_rfl rfl)
    exact Or.inr (h2.trans
      (connFail_acts (h2.inside hi1) ha1.live (Or.inl (hs1.trans hst)) reason rfl rfl))

/-- **`CONN_CONNECT_ACK`.** -/
lemma inputConnectAck_acts (hi : Inside env e) (ha : Addressed op d e c)
    (htype : Buf.of d 0 = msgConnConnectAck) (hrecv : Read env e.tick recv) :
    Acts env op e (inputConnectAck env e c (Buf.of d) d.length recv).2 := by
  rcases inputConnectAck_noted hi ha htype hrecv with ⟨r, -, heq⟩ | h
  · rw [heq]
  · exact (ha.note hi hrecv false rfl).1.trans h

/-- **`CONN_KEEPALIVE`.** -/
lemma inputKeepalive_acts (hi : Inside env e) (ha : Addressed op d e c) (size : ℕ)
    (hrecv : Read env e.tick recv) : Acts env op e (inputKeepalive env e c size recv).2 := by
  rw [inputKeepalive]
  split_ifs
  · rfl
  · exact (ha.note hi hrecv false rfl).1

/-- The acknowledgement of a `CONN_CLOSE`. -/
lemma connSendCloseAck_act (ha : Addressed op d e c) (htype : Buf.of d 0 = msgConnClose)
    (hlen : protoConnCloseLen ≤ d.length) (reason : UInt8) :
    Act env op e (connSendCloseAck env e c reason).2 ∧
      (connSendCloseAck env e c reason).2.LiveConn c := by
  rw [connSendCloseAck, protocolSendConnCloseAck]
  obtain ⟨st, cs, ok, hst, heq⟩ := connWrite_did env e c
    (connCloseMsg msgConnCloseAck (e.conns c) reason)
  rw [heq]
  exact conn_act ha.live (Nat.le_succ _) (.closeAck ha.op_eq ha.settled ⟨htype, ha.dest, hlen⟩) rfl
    hst

/-- **`CONN_CLOSE`.** -/
lemma inputConnClose_acts (hi : Inside env e) (ha : Addressed op d e c)
    (htype : Buf.of d 0 = msgConnClose) (hrecv : Read env e.tick recv) :
    Acts env op e (inputConnClose env e c (Buf.of d) d.length recv).2 := by
  rw [inputConnClose]
  dsimp only
  split_ifs with hlen
  · rfl
  · obtain ⟨h1, ha1, -⟩ := ha.note hi hrecv false rfl
    obtain ⟨h2, hl2⟩ : Act env op _ _ ∧ _ :=
      connSendCloseAck_act ha1 htype (not_lt.mp hlen) (Buf.of d protoCommonLen)
    exact (h1.tail h2).tail (connCloseInternal_act (Acts.inside (h1.tail h2) hi) hl2
      (Acts.settled (h1.tail h2) hi.toOwn ha.live.1 ha.settled) _)

/-- **`CONN_CLOSE_ACK`.** -/
lemma inputConnCloseAck_acts (hi : Inside env e) (ha : Addressed op d e c) (size : ℕ)
    (hrecv : Read env e.tick recv) : Acts env op e (inputConnCloseAck env e c size recv).2 := by
  rw [inputConnCloseAck]
  split_ifs
  · rfl
  · rfl
  · obtain ⟨h1, ha1, -⟩ := ha.note hi hrecv false rfl
    exact h1.tail (connCloseInternal_act (Acts.inside h1 hi) ha1.live ha1.settled _)

/-! ### Messages to a stream -/

/-- **`STREAM_CLOSE`.** -/
lemma inputStreamClose_acts (hi : Inside env e) (ha : Addressed op d e c) (buf : Buf) (size : ℕ)
    (hrecv : Read env e.tick recv) :
    Acts env op e (inputStreamClose env e c buf size recv).2 := by
  rw [inputStreamClose]
  dsimp only
  split_ifs with hlen hid
  · rfl
  · rfl
  · cases hs : connGetStreamById env e c (readU32 buf protoCommonLen) with
    | none => rfl
    | some s =>
        have hin := ((connGetStreamById_eq_some hi.toOwn ha.live.1).mp hs).1
        obtain ⟨h1, -, hst, hns, -⟩ := ha.note hi hrecv false rfl
        have hl1 : (connNoteReceive env e c recv false).LiveStream s := by
          rw [Engine.LiveStream, hst, hns]
          exact hin.1
        exact h1.trans (streamHandleClose_acts (Acts.inside h1 hi) hl1 _)

/-- **`STREAM_CLOSE_ACK`.** -/
lemma inputStreamCloseAck_acts (hi : Inside env e) (ha : Addressed op d e c) (buf : Buf)
    (size : ℕ) (hrecv : Read env e.tick recv) :
    Acts env op e (inputStreamCloseAck env e c buf size recv).2 := by
  rw [inputStreamCloseAck]
  dsimp only
  split_ifs with hlen hid
  · rfl
  · rfl
  · cases hs : connGetStreamById env e c (readU32 buf protoCommonLen) with
    | none => rfl
    | some s =>
        have hin := ((connGetStreamById_eq_some hi.toOwn ha.live.1).mp hs).1
        dsimp only
        split_ifs
        · rfl
        · obtain ⟨h1, -, hst, hns, -⟩ := ha.note hi hrecv false rfl
          have hl1 : (connNoteReceive env e c recv false).LiveStream s := by
            rw [Engine.LiveStream, hst, hns]
            exact hin.1
          exact h1.tail (streamCloseInternal_act (Acts.inside h1 hi) hl1 _)

lemma setStream_retryCount_self (e : Engine K) (s : ℕ) :
    e.setStream s { e.streams s with retryCount := (e.streams s).retryCount } = e := by
  simp [Engine.setStream]

/-- A payload-created stream that `stream_create_notify` refused. -/
lemma protocolRejectStream_acts {s : ℕ} (hi : Inside env e) (hl : e.LiveStream s)
    (hini : (e.streams s).isInitiator = false) (hs : (e.streams s).state = .opened) {r : ℤ}
    (hr : r ≠ 0) (hnot : ¬ e.NotifiedStream s) (hrecv : Read env e.tick recv) :
    Acts env op e (protocolRejectStream env (e.log (.streamCreateNotify s r)) s recv) ∧
      .streamCreateNotify s r ∈
        (protocolRejectStream env (e.log (.streamCreateNotify s r)) s recv).trace := by
  set e0 := e.log (.streamCreateNotify s r) with he0
  set x1 : Stream K := { e0.streams s with
    callbacks := {}, closeReason := closeReasonRejected, retryCount := 0
    lastCtrlTs := recv } with hx1
  obtain ⟨now, m, t, q, ht, hnow, hm, heq⟩ := streamEnterClosing_eq env (e := e0) hi.depth
    (hi.stream_owner hl) (by exact hl.2) (by rfl) (by exact hs)
    (rfl : (e0.setStream s x1).setClosePhase s .waitAck = _)
  have hev : refreshEvents s (e0.connOf s) { x1 with closePhase := .waitAck, state := .closing }
      now q = [] := refreshEvents_of_inactive rfl
  have hmv : refreshMove (e0.connOf s) { x1 with closePhase := .waitAck, state := .closing } now q =
      refreshMove (e.connOf s) { e.streams s with
        lastCtrlTs := recv, closePhase := .waitAck, state := .closing } now 0 := rfl
  rw [hmv] at hm
  have h1 : Act env op e (e.stepStream s
      { e.streams s with
        callbacks := {}, closeReason := closeReasonRejected, retryCount := 0
        lastCtrlTs := recv, closePhase := .waitAck, state := .closing }
      [.closePhase s (e.streams s).closePhase .waitAck, .streamCreateNotify s r] m t e.stats
      e.connStats .keep) :=
    .stream hl ht (.reject (hrecv.mono ht) hnow hini hs hr hnot) hm rfl
  generalize he2 : e.stepStream s _ _ m t e.stats e.connStats .keep = e2 at h1
  have hx2 : e2.streams s = { e.streams s with
      callbacks := {}, closeReason := closeReasonRejected, retryCount := 0
      lastCtrlTs := recv, closePhase := .waitAck, state := .closing } := by
    rw [← he2]
    simp [Engine.stepStream]
  have hl2 : e2.LiveStream s := ⟨by rw [← he2]; exact hl.1, by rw [hx2]; exact hl.2⟩
  have hset : streamSetState env ((e0.setStream s x1).setClosePhase s .waitAck) s .closing = e2 := by
    rw [heq, hev, ← he2]
    simp [Engine.stepStream, he0, hx1, Engine.log]
  obtain ⟨h3, hl3⟩ : Act env op e2 _ ∧ _ :=
    streamResend_act (Acts.inside (.single h1) hi) hl2 (by rw [hx2]) (by rw [hx2]) (Or.inl rfl)
  rw [setStream_retryCount_self, show (e2.streams s).closeReason = closeReasonRejected by rw [hx2]]
    at h3 hl3
  -- the call of the callback is logged first
  have hlogged : ∀ e', Acts env op e2 e' → Acts env op e e' ∧ .streamCreateNotify s r ∈ e'.trace := by
    intro e' h
    have hmem : .streamCreateNotify s r ∈ e2.trace := by
      rw [← he2]
      simp [Engine.stepStream]
    exact ⟨.head h1 h, (h.grows (Acts.inside (.single h1) hi).toOwn).trace.mem hmem⟩
  have hA : Acts env op e2 _ := .single h3
  rw [protocolRejectStream]
  dsimp only
  rw [hset]
  split_ifs
  · exact hlogged _ (hA.tail (streamCloseInternal_act ((hlogged _ hA).1.inside hi) hl3 _))
  · exact hlogged _ hA

lemma Addressed.calm (h : Addressed op d e c) (hc : Calm e e') : Addressed op d e' c :=
  ⟨hc.liveConn h.live, by rw [hc.conns]; exact h.settled, by rw [hc.conns]; exact h.op_eq,
    by rw [hc.conns]; exact h.dest⟩

/-- A stream fails: its state becomes `ERROR` and it is finalised. -/
lemma streamFail_act {s : ℕ} (hi : Inside env e) (hl : e.LiveStream s)
    (hs : (e.streams s).state = .opened) (reason : UInt8) :
    Act env op e (streamCloseInternal env (streamSetState env e s .error) s reason) ∧
      ¬ (streamCloseInternal env (streamSetState env e s .error) s reason).LiveStream s := by
  obtain ⟨m, t, r, ht, hm, heq⟩ := streamSetState_did env hi.depth hl.2 (hi.stream_owner hl)
    .error (by simp [hs])
  have hmv : refreshMove (e.connOf s) { e.streams s with state := .error } (engineNow env e) r =
      .cancel := by
    rw [refreshMove, refreshDeadline]
    split_ifs <;> rfl
  have hev : refreshEvents s (e.connOf s) { e.streams s with state := .error } (engineNow env e)
      r = [] := refreshEvents_of_inactive rfl
  rw [hmv] at hm
  rw [hev, if_neg (fun h => h.2.1 rfl), List.append_nil] at heq
  rw [heq]
  exact streamLast_act hi hl ht.le (.fail hs) hm rfl reason

section Payload

variable {s : ℕ} {payload : Bytes}

/-- The payload of a live stream, as its connection's datagram. -/
lemma payload_still (hi : Inside env e) (ha : Addressed op d e c) (hl : e.LiveStream s)
    (hc : (e.streams s).conn = c)
    (hp : PayloadDatagram d (e.conns c).localConnectionId (e.streams s).streamId payload)
    (hrecv : Read env e.tick recv) :
    Still env op e (streamHandlePayload env e s payload recv).2 := by
  refine streamHandlePayload_still hi hl hrecv ⟨d, ?_, ?_⟩
  · rw [Engine.connOf, hc]
    exact ha.op_eq
  · rw [Engine.connOf, hc]
    exact hp

/-- The first payload of a stream that was accepted. -/
lemma protocolFirstPayload_acts (hi : Inside env e) (ha : Addressed op d e c)
    (hl : e.LiveStream s) (hc : (e.streams s).conn = c) (hs : (e.streams s).state = .opened)
    (hp : PayloadDatagram d (e.conns c).localConnectionId (e.streams s).streamId payload)
    (hrecv : Read env e.tick recv) :
    Acts env op e (protocolFirstPayload env e c s payload recv).2 := by
  have h1 : Still env op e _ := payload_still hi ha hl hc hp hrecv
  rw [protocolFirstPayload]
  dsimp only
  generalize streamHandlePayload env e s payload recv = r at h1 ⊢
  split_ifs
  · exact h1.acts.tail (streamFail_act (h1.inside hi) (h1.calm.liveStream hl)
      ((h1.calm.state s).trans hs) _).1
  · exact h1.acts.trans ((ha.calm h1.calm).note (h1.inside hi)
      (hrecv.mono (Acts.tick h1.acts hi.toOwn)) true rfl).1

/-- A fresh handle has no history. -/
lemma not_notifiedStream_new (h : Own env e) : ¬ e.NotifiedStream e.nstreams := by
  rintro ⟨r, hmem⟩
  exact absurd (h.known _ hmem (.stream e.nstreams) rfl) (lt_irrefl _)

/-- The connection takes a new stream of its peer with this id. -/
def PeerAcceptable (x : Conn) (id : UInt32) : Prop :=
  (id % 2 == 1) ≠ x.isInitiator ∧ connIsNewPeerStreamId x id = true ∧
    x.callbacks.streamCreateNotify = true

/-- The stream of the peer was created: `stream_create_notify` is called in `e1`, and `e2` is
what its setters leave. -/
structure PeerStream (env : Env K) (op : Call) (d : Bytes) (c : ℕ) (id : UInt32)
    (e e1 e2 : Engine K) : Prop where
  new : Act env op e e1
  nstreams : e1.nstreams = e.nstreams + 1
  live : e1.LiveStream e.nstreams
  stream : (e1.streams e.nstreams).conn = c ∧ (e1.streams e.nstreams).streamId = id ∧
    (e1.streams e.nstreams).isInitiator = false ∧ (e1.streams e.nstreams).state = .opened
  addressed : Addressed op d e1 c
  tuned : ∀ op', StreamTuned env op' e.nstreams e1.tock e2
  unnotified : ¬ e1.NotifiedStream e.nstreams

/-- How a payload for a stream id that is not known yet is handled. -/
inductive PeerCreated (env : Env K) (op : Call) (d : Bytes) (c : ℕ) (id : UInt32)
    (payload : Bytes) (recv : ℤ) (e : Engine K) : ℤ × Engine K → Prop
  | refused {r : ℤ} (hno : ¬ PeerAcceptable (e.conns c) id)
      (hr : r = -errInvalidFormat ∨ r = -errNotFound) :
      PeerCreated env op d c id payload recv e (r, e)
  | failed {e1 : Engine K} (hp : PeerAcceptable (e.conns c) id) (h : ∀ op', Acts env op' e e1)
      (hlive : ∀ s, e1.LiveStream s → e.LiveStream s) :
      PeerCreated env op d c id payload recv e (-errOom, e1)
  | rejected {e1 e2 : Engine K} {r : ℤ} (hp : PeerAcceptable (e.conns c) id)
      (h : PeerStream env op d c id e e1 e2) (hr : r ≠ 0) :
      PeerCreated env op d c id payload recv e (0, protocolRejectStream env
        (e2.log (.streamCreateNotify e.nstreams r)) e.nstreams recv)
  | admitted {e1 e2 : Engine K} (hp : PeerAcceptable (e.conns c) id)
      (h : PeerStream env op d c id e e1 e2) :
      PeerCreated env op d c id payload recv e (protocolFirstPayload env
        (e2.log (.streamCreateNotify e.nstreams 0)) c e.nstreams payload recv)

/-- **A payload for a stream id that is not known yet.** -/
lemma protocolCreateStream_created (hi : Inside env e) (ha : Addressed op d e c) {id : UInt32}
    (hst : (e.conns c).state = .connected) (hid : id ≠ 0)
    (hfresh : connGetStreamById env e c id = none)
    (hp : PayloadDatagram d (e.conns c).localConnectionId id payload) (recv : ℤ) :
    PeerCreated env op d c id payload recv e (protocolCreateStream env e c id payload recv) := by
  rw [protocolCreateStream]
  split_ifs with hpar hnew hcb
  · exact .refused (fun h => h.1 hpar) (Or.inl rfl)
  · exact .refused (fun h => absurd (hnew.symm.trans h.2.1) (by decide)) (Or.inr rfl)
  · exact .refused (fun h => absurd (hcb.symm.trans h.2.2) (by decide)) (Or.inr rfl)
  have hacc : PeerAcceptable (e.conns c) id := ⟨hpar, by simpa using hnew, by simpa using hcb⟩
  have hsn : StreamNewed env e c id none false (streamNew env e c id none false) :=
    streamNew_newed hi.depth ha.live hst _ _ _
  generalize streamNew env e c id none false = r at hsn ⊢
  cases hsn with
  | failed h hlive => exact .failed hacc h hlive
  | @created prepared kcp now q t capacity m _ hc hk ht hnow hcap hm =>
      have hns : NewStream env op e t c
          ((streamRecord c id prepared false kcp).blockRead now) (some id) :=
        .peer ha.op_eq hp hc hid hpar hacc.2.1 hacc.2.2 hfresh hnow hk
      have hf := hns.fresh hi.toOwn ha.live.1
      dsimp only
      generalize hadd : Engine.setConn _ c _ = e1
      have he1 : e1 = e.newStream env c ((streamRecord c id prepared false kcp).blockRead now)
          (.kcp e.nstreams (.check now q) :: streamNewEvents e.nstreams prepared) m t
          { e.stats with
            streamCreatedTotal := e.stats.streamCreatedTotal + 1
            streamOpenedTotal := e.stats.streamOpenedTotal + 1 } (some id) := by
        rw [← connAddStream_placeStream hf ha.live, ← hadd]
        rfl
      have h1 : Act env op e e1 := he1 ▸ .streamNew ha.live hst ht hcap hns hm
      have hx1 : e1.streams e.nstreams = { (streamRecord c id prepared false kcp).blockRead now with
          inStreamMap := true } := by
        rw [he1, newStream_streams_self]
      have hl1 : e1.LiveStream e.nstreams := by
        rw [he1]
        exact (newStream_liveStream hf _).mpr (Or.inl rfl)
      have ha1 : Addressed op d e1 c := by
        have hcc : e1.conns c = Conn.enter env e c
            ((streamRecord c id prepared false kcp).blockRead now) (some id) := by
          rw [he1]
          simp [Engine.newStream]
        refine ⟨⟨by rw [he1]; exact ha.live.1, ?_⟩, ?_, ?_, ?_⟩
        · rw [hcc]
          exact ha.live.2
        · rw [hcc]
          exact ha.settled
        · rw [hcc]
          exact ha.op_eq
        · rw [hcc]
          exact ha.dest
      have hini : (e1.tock.streams e.nstreams).isInitiator = false := by
        show (e1.streams e.nstreams).isInitiator = false
        rw [hx1]
        rfl
      have hnot : ¬ e1.NotifiedStream e.nstreams := by
        refine mt (notifiedStream_of_append (by rw [he1]; rfl) fun r => ?_)
          (not_notifiedStream_new hi.toOwn)
        simp [streamNewEvents]
      have h2 : Acts env op e e1.tock :=
        (Relation.ReflTransGen.single h1).tail (quiet_act op (Nat.le_succ _))
      have hpeer : PeerStream env op d c id e e1
          ((env.streamCreateNotify e1.tick).setters.foldl
            (StreamSetter.apply env e.nstreams) e1.tock) :=
        { new := h1
          nstreams := by rw [he1]; rfl
          live := hl1
          stream := by rw [hx1]; exact ⟨rfl, rfl, rfl, rfl⟩
          addressed := ha1
          tuned := fun _ => streamSetters_tuned _ (h2.inside hi) hl1 hini hnot
          unnotified := hnot }
      split_ifs with hres
      · exact .rejected hacc hpeer hres
      · rw [not_not] at hres
        rw [hres]
        exact .admitted hacc hpeer

namespace PeerStream

variable {e1 e2 : Engine K} {id : UInt32}

lemma entered (h : PeerStream env op d c id e e1 e2) : Acts env op e e1.tock :=
  (Relation.ReflTransGen.single h.new).tail (quiet_act op (Nat.le_succ _))

lemma acts (h : PeerStream env op d c id e e1 e2) : Acts env op e e2 :=
  h.entered.trans (h.tuned op).acts

/-- The setters leave the life cycle of the new stream alone. -/
lemma stream_tuned (h : PeerStream env op d c id e e1 e2) :
    (e2.streams e.nstreams).conn = c ∧ (e2.streams e.nstreams).streamId = id ∧
      (e2.streams e.nstreams).isInitiator = false ∧ (e2.streams e.nstreams).state = .opened := by
  obtain ⟨config, callbacks, n, hx⟩ := (h.tuned op).stream
  rw [hx]
  exact h.stream

lemma addressed_tuned (h : PeerStream env op d c id e e1 e2) : Addressed op d e2 c := by
  have hc : e2.conns = e1.conns := (h.tuned op).conns
  refine ⟨⟨?_, ?_⟩, ?_, ?_, ?_⟩
  · exact (h.tuned op).nconns ▸ h.addressed.live.1
  · exact hc ▸ h.addressed.live.2
  · exact hc ▸ h.addressed.settled
  · exact hc ▸ h.addressed.op_eq
  · exact hc ▸ h.addressed.dest

lemma unnotified_tuned (h : PeerStream env op d c id e e1 e2) : ¬ e2.NotifiedStream e.nstreams :=
  mt (h.tuned op).notified h.unnotified

/-- The stream is admitted. -/
lemma accepted (h : PeerStream env op d c id e e1 e2) :
    Act env op e2 (e2.log (.streamCreateNotify e.nstreams 0)) := by
  obtain ⟨-, -, hini, hopen⟩ := h.stream_tuned
  have h1 : Act env op e2 (e2.stepStream e.nstreams (e2.streams e.nstreams)
      [.streamCreateNotify e.nstreams 0] e2.timerManager e2.tick e2.stats e2.connStats .keep) :=
    .stream (h.tuned op).live le_rfl (.accept hini hopen h.unnotified_tuned) rfl rfl
  have hstep : e2.stepStream e.nstreams (e2.streams e.nstreams)
      [.streamCreateNotify e.nstreams 0] e2.timerManager e2.tick e2.stats e2.connStats .keep =
      e2.log (.streamCreateNotify e.nstreams 0) := by
    simp [Engine.stepStream, Engine.log, PendMove.apply]
  rwa [hstep] at h1

/-- The admitted stream waits for the payload of the datagram. -/
lemma admitted (h : PeerStream env op d c id e e1 e2) (ha : Addressed op d e c)
    (hp : PayloadDatagram d (e.conns c).localConnectionId id payload) {e3 : Engine K}
    (he3 : e3 = e2.log (.streamCreateNotify e.nstreams 0)) :
    Acts env op e e3 ∧ Addressed op d e3 c ∧ e3.LiveStream e.nstreams ∧
      (e3.streams e.nstreams).conn = c ∧ (e3.streams e.nstreams).state = .opened ∧
      PayloadDatagram d (e3.conns c).localConnectionId (e3.streams e.nstreams).streamId payload := by
  obtain ⟨hconn, hsid, -, hopen⟩ := h.stream_tuned
  have ha2 := h.addressed_tuned
  have hdest : (e2.conns c).localConnectionId = (e.conns c).localConnectionId :=
    ha2.dest.symm.trans ha.dest
  subst he3
  exact ⟨h.acts.tail h.accepted, ⟨ha2.live, ha2.settled, ha2.op_eq, ha2.dest⟩, (h.tuned op).live,
    hconn, hopen, hdest.symm ▸ hsid.symm ▸ hp⟩

end PeerStream

lemma PeerCreated.acts (hi : Inside env e) {id : UInt32} {r : ℤ × Engine K}
    (h : PeerCreated env op d c id payload recv e r)
    (hp : PayloadDatagram d (e.conns c).localConnectionId id payload) (hd : Addressed op d e c)
    (hrecv : Read env e.tick recv) : Acts env op e r.2 := by
  cases h with
  | refused => rfl
  | failed _ h => exact h op
  | rejected _ h hr =>
      obtain ⟨-, -, hini, hopen⟩ := h.stream_tuned
      exact h.acts.trans (protocolRejectStream_acts (h.acts.inside hi) (h.tuned op).live hini hopen
        hr h.unnotified_tuned (hrecv.mono (Acts.tick h.acts hi.toOwn))).1
  | admitted _ h =>
      obtain ⟨h3, ha3, hl3, hconn, hopen, hp3⟩ := h.admitted hd hp rfl
      exact h3.trans (protocolFirstPayload_acts (h3.inside hi) ha3 hl3 hconn hopen hp3
        (hrecv.mono (Acts.tick h3 hi.toOwn)))

lemma protocolCreateStream_acts (hi : Inside env e) (ha : Addressed op d e c) {id : UInt32}
    (hst : (e.conns c).state = .connected) (hid : id ≠ 0)
    (hfresh : connGetStreamById env e c id = none)
    (hp : PayloadDatagram d (e.conns c).localConnectionId id payload)
    (hrecv : Read env e.tick recv) :
    Acts env op e (protocolCreateStream env e c id payload recv).2 :=
  (protocolCreateStream_created hi ha hst hid hfresh hp recv).acts hi hp ha hrecv

end Payload

/-- **`STREAM_PAYLOAD`.** -/
lemma inputStreamPayload_acts (hi : Inside env e) (ha : Addressed op d e c)
    (htype : Buf.of d 0 = msgStreamPayload) (hrecv : Read env e.tick recv) :
    Acts env op e (inputStreamPayload env e c (Buf.of d) d.length recv).2 := by
  rw [inputStreamPayload]
  dsimp only
  split_ifs with hst hlen hid
  · rfl
  · rfl
  · rfl
  have hp : PayloadDatagram d (e.conns c).localConnectionId
      (readU32 (Buf.of d) protoCommonLen)
      ((Buf.of d).slice protoStreamHeaderLen (d.length - protoStreamHeaderLen)) :=
    ⟨htype, ha.dest, rfl, not_lt.mp hlen, rfl⟩
  cases hs : connGetStreamById env e c (readU32 (Buf.of d) protoCommonLen) with
  | none => exact protocolCreateStream_acts hi ha (not_not.mp hst) hid hs hp hrecv
  | some s =>
      obtain ⟨hin, hsid⟩ := (connGetStreamById_eq_some hi.toOwn ha.live.1).mp hs
      dsimp only
      rw [← hsid] at hp
      have h1 : Still env op e _ := payload_still hi ha hin.1 hin.2 hp hrecv
      generalize streamHandlePayload env e s _ recv = r at h1 ⊢
      split_ifs
      · exact h1.acts.trans ((ha.calm h1.calm).note (h1.inside hi)
          (hrecv.mono (Acts.tick h1.acts hi.toOwn)) true rfl).1
      · exact h1.acts

/-! ### Dispatch -/

lemma inputConn_acts (hi : Inside env e) (ha : Addressed op d e c)
    (hrecv : Read env e.tick recv) :
    Acts env op e (inputConn env e c (Buf.of d) d.length recv).2 := by
  rw [inputConn]
  split_ifs with h1 h2 h3 h4 h5 h6 h7
  · exact inputConnectAck_acts hi ha h1 hrecv
  · exact inputKeepalive_acts hi ha _ hrecv
  · exact inputConnClose_acts hi ha h3 hrecv
  · exact inputConnCloseAck_acts hi ha _ hrecv
  · exact inputStreamClose_acts hi ha _ _ hrecv
  · exact inputStreamCloseAck_acts hi ha _ _ hrecv
  · exact inputStreamPayload_acts hi ha h7 hrecv
  · rfl

/-- **`kcpmux_protocol_input`**: whatever the datagram, the engine takes steps only. -/
lemma protocolInput_acts (hi : Inside env e) {addr : Addr} (hop : op = .input d addr)
    (hrecv : Read env e.tick recv) (hn : e.NoInit) :
    Acts env op e (protocolInput env e (Buf.of d) d.length addr recv).2 ∧
      (op.Connects → (protocolInput env e (Buf.of d) d.length addr recv).2.NoInit) := by
  rw [protocolInput]
  split_ifs with hlen haddr hshort htype
  · exact ⟨.refl, fun _ => hn⟩
  · exact ⟨.refl, fun _ => hn⟩
  · exact ⟨.refl, fun _ => hn⟩
  · obtain ⟨h1, h2⟩ := inputConnect_acts hi hop htype (by simpa using haddr) hrecv hn
    exact ⟨h1, fun _ => h2⟩
  have hno : ¬ op.Connects := by
    rw [hop]
    exact htype
  refine ⟨?_, fun h => absurd h hno⟩
  dsimp only
  split_ifs with hid
  · rfl
  cases hc : engineGetConnById env e addr (readU64 (Buf.of d) 1) with
  | none => rfl
  | some c =>
      obtain ⟨hl, hdest, hpeer⟩ :=
        (engineGetConnById_eq_some hi.toOwn (by simpa using haddr) hid).mp hc
      have h0 : Acts env op e (e.countReceived c d.length) := .single (countReceived_act c _)
      have ha : Addressed op d (e.countReceived c d.length) c :=
        ⟨hl, hn c hl, hop.trans (by rw [← hpeer]; rfl), hdest.symm⟩
      exact h0.trans (inputConn_acts (h0.inside hi) ha (hrecv.mono (h0.tick hi.toOwn)))

/-- How a payload is handled: it is dropped, or it is for a known stream, or its id is not known
yet. -/
inductive Delivered (env : Env K) (op : Call) (d : Bytes) (recv : ℤ) (e : Engine K) :
    ℤ × Engine K → Prop
  | dropped {r : ℤ} {e0 : Engine K} (hr : r < 0)
      (he0 : e0 = e ∨ ∃ c, e0 = e.countReceived c d.length) : Delivered env op d recv e (r, e0)
  | known {e0 : Engine K} {c s : ℕ} {payload : Bytes} {r : ℤ × Engine K}
      (he0 : e0 = e.countReceived c d.length) (ha : Addressed op d e0 c)
      (hst : (e0.conns c).state = .connected) (hl : e0.LiveStream s)
      (hc : (e0.streams s).conn = c)
      (hfound : connGetStreamById env e0 c (readU32 (Buf.of d) protoCommonLen) = some s)
      (hp : PayloadDatagram d (e0.conns c).localConnectionId (e0.streams s).streamId payload)
      (hr : r = streamHandlePayload env e0 s payload recv) :
      Delivered env op d recv e
        (if r.1 = 0 then (r.1, connNoteReceive env r.2 c recv true) else r)
  | unknown {e0 : Engine K} {c : ℕ} {id : UInt32} {payload : Bytes} {r : ℤ × Engine K}
      (he0 : e0 = e.countReceived c d.length) (ha : Addressed op d e0 c)
      (hst : (e0.conns c).state = .connected) (hid : id ≠ 0)
      (hfound : connGetStreamById env e0 c id = none)
      (hp : PayloadDatagram d (e0.conns c).localConnectionId id payload)
      (h : PeerCreated env op d c id payload recv e0 r) : Delivered env op d recv e r

/-- **The reception of a payload.** -/
lemma protocolInput_delivered (hi : Inside env e) {addr : Addr} (hop : op = .input d addr)
    (htype : Buf.of d 0 = msgStreamPayload) (hn : e.NoInit) :
    Delivered env op d recv e (protocolInput env e (Buf.of d) d.length addr recv) := by
  have hother : ∀ t, t ≠ msgStreamPayload → ¬ Buf.of d 0 = t := fun t h ht => h (ht.symm.trans htype)
  rw [protocolInput, if_neg (hother msgConnConnect (by decide))]
  split_ifs with hlen haddr hshort
  · exact .dropped (by decide) (Or.inl rfl)
  · exact .dropped (by decide) (Or.inl rfl)
  · exact .dropped (by decide) (Or.inl rfl)
  dsimp only
  split_ifs with hid
  · exact .dropped (by decide) (Or.inl rfl)
  cases hc : engineGetConnById env e addr (readU64 (Buf.of d) 1) with
  | none => exact .dropped (by decide) (Or.inl rfl)
  | some c =>
      obtain ⟨hl, hdest, hpeer⟩ :=
        (engineGetConnById_eq_some hi.toOwn (by simpa using haddr) hid).mp hc
      have h0 : Acts env op e (e.countReceived c d.length) := .single (countReceived_act c _)
      have ha : Addressed op d (e.countReceived c d.length) c :=
        ⟨hl, hn c hl, hop.trans (by rw [← hpeer]; rfl), hdest.symm⟩
      have hi0 := h0.inside hi
      generalize he0 : e.countReceived c d.length = e0 at ha hi0
      dsimp only
      rw [he0, inputConn]
      rw [if_neg (hother _ (by decide)), if_neg (hother _ (by decide)), if_neg (hother _ (by decide)),
        if_neg (hother _ (by decide)), if_neg (hother _ (by decide)), if_neg (hother _ (by decide)),
        if_pos htype, inputStreamPayload]
      dsimp only
      split_ifs with hst hlen' hid'
      · exact .dropped (by decide) (Or.inr ⟨c, he0.symm⟩)
      · exact .dropped (by decide) (Or.inr ⟨c, he0.symm⟩)
      · exact .dropped (by decide) (Or.inr ⟨c, he0.symm⟩)
      have hp : PayloadDatagram d (e0.conns c).localConnectionId
          (readU32 (Buf.of d) protoCommonLen)
          ((Buf.of d).slice protoStreamHeaderLen (d.length - protoStreamHeaderLen)) :=
        ⟨htype, ha.dest, rfl, not_lt.mp hlen', rfl⟩
      cases hget : connGetStreamById env e0 c (readU32 (Buf.of d) protoCommonLen) with
      | none =>
          exact .unknown he0.symm ha (not_not.mp hst) hid' hget hp
            (protocolCreateStream_created hi0 ha (not_not.mp hst) hid' hget hp recv)
      | some s =>
          obtain ⟨hin, hsid⟩ := (connGetStreamById_eq_some hi0.toOwn ha.live.1).mp hget
          rw [← hsid] at hp
          exact .known he0.symm ha (not_not.mp hst) hin.1 hin.2 hget hp rfl

/-- **`kcpmux_engine_input`**, inside its bracket. -/
lemma engineInput_acts (hs : Sound env e) (hd : d ≠ []) {addr : Addr}
    (hop : op = .input d addr) (hn : e.NoInit) :
    ∃ e1, Acts env op
        (engineOperationEnter { e with stats := { e.stats with
          rxPackets := e.stats.rxPackets + 1, rxBytes := e.stats.rxBytes + d.length } }) e1 ∧
      (op.Connects → e1.NoInit) ∧ (engineInput env e d addr).2 = engineOperationLeave env e1 := by
  set e0 := engineOperationEnter { e with stats := { e.stats with
    rxPackets := e.stats.rxPackets + 1, rxBytes := e.stats.rxBytes + d.length } } with he0
  have hi0 : Inside env e0 := hs.enter _ rfl
  have hq : Acts env op e0 e0.tock := .single (quiet_act op (Nat.le_succ _))
  obtain ⟨h1, h2⟩ := protocolInput_acts (hq.inside hi0) hop ⟨e0.tick, Nat.lt_succ_self _, rfl⟩ hn
  rw [engineInput, if_neg hd]
  exact ⟨_, hq.trans h1, h2, rfl⟩

/-- The engine inside the bracket of `kcpmux_engine_input`. -/
def Engine.opened (e : Engine K) (t : ℕ) (st : EngineStats) : Engine K :=
  { engineOperationEnter e with tick := t, stats := st }

/-- `kcpmux_engine_input` around `kcpmux_protocol_input`. -/
lemma engineInput_opened (env : Env K) (e : Engine K) (hd : d ≠ []) (addr : Addr) {e0 : Engine K}
    (he0 : e0 = e.opened (e.tick + 1) { e.stats with
      rxPackets := e.stats.rxPackets + 1, rxBytes := e.stats.rxBytes + d.length }) :
    engineInput env e d addr =
      ((protocolInput env e0 (Buf.of d) d.length addr (env.monotonicTimeMs e.tick)).1,
        engineOperationLeave env
          (protocolInput env e0 (Buf.of d) d.length addr (env.monotonicTimeMs e.tick)).2) := by
  rw [engineInput, if_neg hd, he0]
  rfl

lemma engineInput_eq (env : Env K) (e : Engine K) (hd : d ≠ []) (addr : Addr) :
    ∃ t st now, st.life = e.stats.life ∧ e.tick ≤ t ∧ Read env t now ∧
      st = { e.stats with
        rxPackets := e.stats.rxPackets + 1, rxBytes := e.stats.rxBytes + d.length } ∧
      engineInput env e d addr =
      ((protocolInput env (e.opened t st) (Buf.of d) d.length addr now).1,
        engineOperationLeave env
          (protocolInput env (e.opened t st) (Buf.of d) d.length addr now).2) := by
  refine ⟨_, _, _, ?_, ?_, ?_, rfl, engineInput_opened env e hd addr rfl⟩
  · rfl
  · exact Nat.le_succ _
  · exact ⟨e.tick, Nat.lt_succ_self _, rfl⟩

lemma Sound.opened (hs : Sound env e) {t : ℕ} (ht : e.tick ≤ t) {st : EngineStats}
    (hst : st.life = e.stats.life) : Inside env (e.opened t st) := by
  have hq : Inside env (engineOperationEnter { e with stats := st }) := hs.enter st hst
  have h : Act env .update (engineOperationEnter { e with stats := st }) (e.opened t st) :=
    .quiet ht rfl
  exact Acts.inside (.single h) hq

end KcpMux
