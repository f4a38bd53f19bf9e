import KcpMux.Runs.Conn

/-!
The creation of connections and streams as steps.

`ConnNewed` and `StreamNewed` say how the two constructors can end: without an object and
with steps that leave none behind, or with one object that is not in a table yet.
-/

namespace KcpMux

variable {K : Type} {env : Env K} {op : Call} {e e' : Engine K} {c : ℕ}

/-! ### Timer nodes -/

/-- Doubling reaches the capacity asked for within its rounds. -/
lemma le_timerGrow {capacity : ℕ} : ∀ {rounds new : ℕ}, capacity ≤ new * 2 ^ rounds →
    capacity ≤ timerGrow capacity rounds new
  | 0, new, h => by simpa [timerGrow] using h
  | rounds + 1, new, h => by
      rw [timerGrow]
      split_ifs with h1 h2
      · exact le_rfl
      · exact le_timerGrow (by rw [pow_succ] at h; linarith)
      · omega

/-- `kcpmux_timer_manager_reserve`. -/
lemma timerManagerReserve_eq {P : Type} [DecidableEq P] (m : TimerManager P) {capacity : ℕ}
    (hc : capacity ≤ sizeMax) (realloc : Bool) :
    (timerManagerReserve m capacity realloc).1 = errOk ∧
        (∃ new, capacity ≤ new ∧
          (timerManagerReserve m capacity realloc).2 = { m with capacity := new }) ∨
      (timerManagerReserve m capacity realloc).1 ≠ errOk ∧
        (timerManagerReserve m capacity realloc).2 = m := by
  rw [timerManagerReserve]
  dsimp only
  have hgrow : capacity ≤ timerGrow capacity 64 (if m.capacity = 0 then 8 else m.capacity) := by
    apply le_timerGrow
    have h1 : 1 ≤ if m.capacity = 0 then 8 else m.capacity := by split_ifs <;> omega
    calc capacity ≤ 1 * 2 ^ 64 := hc.trans (by decide)
      _ ≤ _ := Nat.mul_le_mul_right _ h1
  generalize timerGrow capacity 64 _ = new at hgrow ⊢
  have hoom : errOom ≠ errOk := by decide
  split_ifs with h1 h2 h3
  · exact Or.inl ⟨rfl, m.capacity, h1, rfl⟩
  · exact Or.inr ⟨hoom, rfl⟩
  · exact Or.inl ⟨rfl, new, hgrow, rfl⟩
  · exact Or.inr ⟨hoom, rfl⟩

/-- `kcpmux_engine_register_timer_node`: the heap has room for one more node, or nothing
has happened. -/
lemma engineRegisterTimerNode_eq (env : Env K) (e : Engine K) (o : Owner) :
    ∃ t, e.tick ≤ t ∧
      ((engineRegisterTimerNode env e o).1 = errOk ∧
        (∃ capacity, e.timerNodeCount < capacity ∧ (engineRegisterTimerNode env e o).2 =
          { e with
            timerManager := timerNodeInit { e.timerManager with capacity } o
            timerNodeCount := e.timerNodeCount + 1, tick := t }) ∨
        (engineRegisterTimerNode env e o).1 ≠ errOk ∧
          (engineRegisterTimerNode env e o).2 = { e with tick := t }) := by
  rw [engineRegisterTimerNode]
  by_cases hmax : e.timerNodeCount > sizeMax - 2
  · rw [if_pos hmax]
    have hoom : errOom ≠ errOk := by decide
    exact ⟨e.tick, le_rfl, Or.inr ⟨hoom, rfl⟩⟩
  · rw [if_neg hmax]
    have hsize : e.timerNodeCount + 1 ≤ sizeMax := by
      have : 2 ≤ sizeMax := by decide
      omega
    refine ⟨e.tick + 1, Nat.le_succ _, ?_⟩
    dsimp only
    rcases timerManagerReserve_eq e.timerManager hsize (env.alloc e.tick) with
      ⟨hok, new, hnew, heq⟩ | ⟨hne, -⟩
    · rw [if_neg (by simp [hok])]
      exact Or.inl ⟨rfl, new, hnew, by rw [heq]; rfl⟩
    · rw [if_pos hne]
      exact Or.inr ⟨hne, rfl⟩

/-! ### Connections -/

/-- How `kcpmux_conn_new` can end. -/
inductive ConnNewed (env : Env K) (op : Call) (e : Engine K) (addr : Addr)
    (config : Option ConnConfig) (isInitiator : Bool) : Option ℕ × Engine K → Prop
  | failed {e' : Engine K} (h : Acts env op e e') (hn : e'.nconns = e.nconns) :
      ConnNewed env op e addr config isInitiator (none, e')
  | created {prepared : ConnConfig} {next : UInt32} {now : ℤ} {t capacity : ℕ}
      (hid : e.nextConnectionId ≠ 0) (ha : addr ≠ [] ∧ addr.length ≤ addrMaxLen)
      (hc : connConfigPrepare (config.getD e.defaultConnConfig) = some prepared)
      (hn : ∃ k, next = firstStreamId isInitiator (env.randomU64 k)) (ht : e.tick ≤ t)
      (hnow : Read env t now) (hcap : e.timerNodeCount < capacity) :
      ConnNewed env op e addr config isInitiator
        (some e.nconns, e.placeConn
          (connRecord isInitiator e.nextConnectionId addr prepared next now)
          (timerNodeInit { e.timerManager with capacity } (.conn e.nconns)) t
          { e.stats with connCreatedTotal := e.stats.connCreatedTotal + 1 })

lemma quiet_act (op : Call) {t : ℕ} (ht : e.tick ≤ t) : Act env op e { e with tick := t } :=
  .quiet ht rfl

/-- **`kcpmux_conn_new`.** -/
lemma connNew_newed (addr : Addr) (config : Option ConnConfig) (isInitiator : Bool) :
    ConnNewed env op e addr config isInitiator (connNew env e addr config isInitiator) := by
  rw [connNew]
  split_ifs with haddr halloc
  · exact .failed .refl rfl
  · exact .failed (.single (quiet_act op (Nat.le_succ _))) rfl
  · dsimp only
    have ha : addr ≠ [] ∧ addr.length ≤ addrMaxLen := by simpa using haddr
    by_cases hid : e.nextConnectionId = 0
    · rw [if_pos (by exact hid)]
      exact .failed (.single (quiet_act op (Nat.le_succ _))) rfl
    · rw [if_neg (by exact hid)]
      -- from here on the id is used up, with or without a connection
      have hlost : ∀ t, e.tick ≤ t → Act env op e
          { e with tick := t, nextConnectionId := e.nextConnectionId + 1 } :=
        fun t ht => .idLost ht hid
      have hdef : e.tock.defaultConnConfig = e.defaultConnConfig := rfl
      rw [hdef]
      cases hc : connConfigPrepare (config.getD e.defaultConnConfig) with
      | none => exact .failed (.single (hlost _ (Nat.le_succ _))) rfl
      | some prepared =>
          dsimp only
          set e1 : Engine K := { e with
            tick := e.tick + 1 + 1 + 1, nextConnectionId := e.nextConnectionId + 1 } with he1
          by_cases halloc2 : env.alloc (e.tick + 1 + 1) = false
          · rw [if_pos (by exact halloc2)]
            exact .failed (.single (hlost (e.tick + 1 + 1 + 1) (by omega))) rfl
          · rw [if_neg (by exact halloc2)]
            generalize hreg : engineRegisterTimerNode env _ _ = r
            have hreg1 : engineRegisterTimerNode env e1 (.conn e.nconns) = r := hreg
            obtain ⟨t, ht, h⟩ := engineRegisterTimerNode_eq env e1 (.conn e.nconns)
            have ht' : e.tick + 1 + 1 + 1 ≤ t := ht
            rw [hreg1] at h
            rcases h with ⟨hok, capacity, hcap, heq⟩ | ⟨hne, heq⟩
            · have hcreated : ConnNewed env op e addr config isInitiator (some e.nconns, _) :=
                .created hid ha hc ⟨e.tick + 1, rfl⟩ (by omega : e.tick ≤ t + 1)
                  ⟨t, Nat.lt_succ_self _, rfl⟩ hcap
              rw [if_neg (by simp [hok]), heq]
              exact hcreated
            · rw [if_pos hne, heq]
              exact .failed (.single (hlost t (by omega))) rfl

/-- A new connection enters the tables. -/
lemma engineAddConn_act (h : Own env e) {x : Conn} {t capacity : ℕ} (ht : e.tick ≤ t)
    (hid : e.nextConnectionId ≠ 0) (hcap : e.timerNodeCount < capacity)
    (hx : NewConn env op e t x) {e1 : Engine K}
    (he1 : e1 = engineAddConn env (e.placeConn x
      (timerNodeInit { e.timerManager with capacity } (.conn e.nconns)) t
      { e.stats with connCreatedTotal := e.stats.connCreatedTotal + 1 }) e.nconns) :
    Act env op e e1 ∧ e1.LiveConn e.nconns ∧
      e1.conns e.nconns = { x with inEngineMap := true } ∧ e1.nconns = e.nconns + 1 := by
  have hf := hx.fresh h
  rw [engineAddConn_placeConn hf] at he1
  subst he1
  exact ⟨.connNew ht hid hcap hx, ⟨by simp, by simpa using hf.closed⟩, by simp, rfl⟩

/-- A record that is changed before it enters the tables. -/
lemma placeConn_setConn (e : Engine K) (x y : Conn) (m : TimerManager Owner) (t : ℕ)
    (st : EngineStats) :
    (e.placeConn x m t st).setConn e.nconns y = e.placeConn y m t st := by
  simp [Engine.placeConn, Engine.setConn]

@[simp] lemma placeConn_conns_self (e : Engine K) (x : Conn) (m : TimerManager Owner) (t : ℕ)
    (st : EngineStats) : (e.placeConn x m t st).conns e.nconns = x := by
  simp [Engine.placeConn]

/-- A new connection of the initiator starts the handshake. -/
lemma connStart_act (hi : Inside env e) (hl : e.LiveConn c)
    (hini : (e.conns c).isInitiator = true) (hs : (e.conns c).state = .init) {e1 : Engine K}
    (he1 : e1 = connRefreshTimer env ((e.tock.setConn c { e.conns c with
      lastCtrlTs := engineNow env e }).assignConnState c .connecting) c (engineNow env e)) :
    Act env op e e1 ∧ e1.LiveConn c ∧ (e1.conns c).state = .connecting ∧
      e1.nconns = e.nconns := by
  set x : Conn := { e.conns c with
    lastCtrlTs := engineNow env e, state := .connecting } with hx
  set e2 := (e.tock.setConn c { e.conns c with
    lastCtrlTs := engineNow env e }).assignConnState c .connecting with he2
  have hx2 : e2.conns c = x := by
    simp [he2, hx, Engine.assignConnState, Engine.setConn, Engine.log, Engine.tock]
  obtain ⟨m, t, ht, hm, hr⟩ := connRefreshTimer_did env (e := e2) (c := c)
    (by rw [hx2]; exact hl.2) (hi.conn_owner hl) (engineNow env e)
  rw [hx2] at hm
  have ht' : e.tick + 1 ≤ t := ht
  have hstep : e1 = e.stepConn c x [.connState c .init .connecting] m t e.stats e.connStats := by
    rw [he1, hr.eq_of_depth hi.depth]
    simp [he2, hx, Engine.stepConn, Engine.assignConnState, Engine.setConn, Engine.log,
      Engine.tock, hs]
  obtain ⟨ha, hl1⟩ : Act env op e (e.stepConn c x _ m t e.stats e.connStats) ∧ _ :=
    conn_act hl (by omega) (.connecting ⟨e.tick, ht', rfl⟩ hini hs) hm rfl
  rw [hstep]
  exact ⟨ha, hl1, by simp [hx], rfl⟩

/-- **`kcpmux_conn_connect`**, inside its bracket. -/
lemma connConnect_acts (hs : Sound env e) {addr : Addr} {config : Option ConnConfig}
    {ext : Bytes} {callbacks : Option ConnCallbacks}
    (hop : op = .connConnect addr config ext callbacks) (hi : e.NoInit) :
    ∃ e1, Acts env op
        (engineOperationEnter { e with stats := { e.stats with
          apiConnConnectCalls := e.stats.apiConnConnectCalls + 1 } }) e1 ∧
      (op.Connects → e1.NoInit) ∧
      (connConnect env e addr config ext callbacks).2 = engineOperationLeave env e1 := by
  set e0 := engineOperationEnter { e with stats := { e.stats with
    apiConnConnectCalls := e.stats.apiConnConnectCalls + 1 } } with he0
  have hi0 : Inside env e0 := hs.enter _ rfl
  rw [connConnect]
  dsimp only
  generalize hr : connNew env _ addr config true = r
  have hr0 : connNew env e0 addr config true = r := hr
  have hnew : ConnNewed env op e0 addr config true r := hr0 ▸ connNew_newed addr config true
  cases hnew with
  | failed h hn => exact ⟨_, h, fun _ => (h.grows hi0.toOwn).noInit hn hi, rfl⟩
  | @created prepared next now t capacity hid ha hc hn ht hnow hcap =>
      set x : Conn := { connRecord true e0.nextConnectionId addr prepared next now with
        callbacks := callbacks.getD {}, selfProtoExt := .clip ext } with hx
      have hnc : NewConn env op e0 t x := .initiator hop hc hn hnow ha
      obtain ⟨h1, hl1, hx1, hn1⟩ := engineAddConn_act hi0.toOwn ht hid hcap hnc rfl
      have hA : Acts env op e0 _ := .single h1
      obtain ⟨h2, hl2, hs2, hn2⟩ : Act env op _ _ ∧ _ :=
        connStart_act (hA.inside hi0) hl1 (by rw [hx1]; rfl) (by rw [hx1]; rfl) rfl
      have hB : Acts env op e0 _ := hA.tail h2
      obtain ⟨h3, -, hn3⟩ : Act env op _ _ ∧ _ :=
        connSendConnect_act (hB.inside hi0) hl2 hs2 (Or.inl rfl) rfl
      rw [setConn_retryCount_self] at h3 hn3
      have hC : Acts env op e0 _ := hB.tail h3
      refine ⟨_, hC, fun _ => ?_, ?_⟩
      · refine (hC.grows hi0.toOwn).noInit_succ (hn3.trans (hn2.trans hn1)) hi fun _ => ?_
        exact Acts.settled (.single h3) (hB.inside hi0).toOwn hl2.1 (by rw [hs2]; decide)
      dsimp only
      rw [placeConn_conns_self, placeConn_setConn]
      rfl

/-! ### Streams -/

/-- The allocator has moved the next local stream id of `c`, and nothing else. -/
structure NextIdMoved (env : Env K) (op : Call) (c : ℕ) (e e' : Engine K) : Prop where
  acts : Acts env op e e'
  live : e'.LiveConn c
  conn : ∃ next, e' = e.setConn c { e.conns c with nextStreamId := next }

lemma connAllocStreamIdLoop_moved (h : Sound env e) (hl : e.LiveConn c)
    (hop : ∃ config callbacks, op = .streamCreate c config callbacks) (attempts : ℕ) :
    NextIdMoved env op c e (connAllocStreamIdLoop env c attempts e).2 ∧
      ((connAllocStreamIdLoop env c attempts e).1 ≠ 0 →
        ParityOk (e.conns c) (connAllocStreamIdLoop env c attempts e).1 ∧
          connGetStreamById env (connAllocStreamIdLoop env c attempts e).2 c
            (connAllocStreamIdLoop env c attempts e).1 = none) := by
  induction attempts generalizing e with
  | zero =>
      refine ⟨⟨.refl, hl, (e.conns c).nextStreamId, ?_⟩, fun h0 => absurd rfl h0⟩
      simp [connAllocStreamIdLoop, Engine.setConn]
  | succ attempts ih =>
      rw [connAllocStreamIdLoop]
      set id := if (e.conns c).nextStreamId = 0 then (if (e.conns c).isInitiator then 1 else 2)
        else (e.conns c).nextStreamId with hid
      set e1 := e.setConn c { e.conns c with nextStreamId := id + 2 } with he1
      obtain ⟨ha, hl1⟩ : Act env op e (e.stepConn c { e.conns c with nextStreamId := id + 2 } []
          e.timerManager e.tick e.stats e.connStats) ∧ _ :=
        conn_act hl le_rfl (.nextId hop hid) rfl rfl
      have hpar : ParityOk (e.conns c) id := parityOk_next (h.nextId c hl.1) hid
      by_cases hfree : (connGetStreamById env e1 c id).isNone = true
      · rw [if_pos hfree]
        exact ⟨⟨.single ha, hl1, _, rfl⟩, fun _ => ⟨hpar, Option.isNone_iff_eq_none.mp hfree⟩⟩
      · rw [if_neg hfree]
        obtain ⟨hmoved, hres⟩ := ih (e := e1) (ha.sound h) hl1
        obtain ⟨next, hnext⟩ := hmoved.conn
        have hx1 : e1.conns c = { e.conns c with nextStreamId := id + 2 } := by
          simp [he1, Engine.setConn]
        refine ⟨⟨.head ha hmoved.acts, hmoved.live, next, ?_⟩, fun h0 => ?_⟩
        · rw [hnext, hx1]
          simp [he1, Engine.setConn]
        · have hp := (hres h0).1
          rw [hx1] at hp
          exact ⟨hp, (hres h0).2⟩

/-- How `kcpmux_stream_new` can end. -/
inductive StreamNewed (env : Env K) (e : Engine K) (c : ℕ) (id : UInt32)
    (config : Option StreamConfig) (isInitiator : Bool) : Option ℕ × Engine K → Prop
  | failed {e' : Engine K} (h : ∀ op, Acts env op e e')
      (hlive : ∀ s, e'.LiveStream s → e.LiveStream s) :
      StreamNewed env e c id config isInitiator (none, e')
  | created {prepared : StreamConfig} {kcp : K} {now r : ℤ} {t capacity : ℕ}
      {m : TimerManager Owner} (hid : id ≠ 0)
      (hc : streamConfigPrepare (config.getD e.defaultStreamConfig) = some prepared)
      (hk : KcpNew env id prepared kcp) (ht : e.tick ≤ t) (hnow : Read env t now)
      (hcap : e.timerNodeCount < capacity)
      (hm : (refreshMove (e.conns c) ((streamRecord c id prepared isInitiator kcp).blockRead now)
        now r).Did env (timerNodeInit { e.timerManager with capacity } (.stream e.nstreams))
        (.stream e.nstreams) m) :
      StreamNewed env e c id config isInitiator
        (some e.nstreams, e.placeStream
          ((streamRecord c id prepared isInitiator kcp).blockRead now)
          (.kcp e.nstreams (.check now r) :: streamNewEvents e.nstreams prepared) m t
          { e.stats with
            streamCreatedTotal := e.stats.streamCreatedTotal + 1
            streamOpenedTotal := e.stats.streamOpenedTotal + 1 })

/-- A stream whose timer node could not be registered. -/
lemma streamFailed_act (hl : e.LiveConn c) {t : ℕ} (ht : e.tick ≤ t) (id : UInt32)
    (prepared : StreamConfig) (isInitiator : Bool) (kcp : K) :
    Act env op e (e.deadStream
      { streamRecord c id prepared isInitiator kcp with internalClosed := true, kcp := none }
      (.release (.stream e.nstreams) :: .kcp e.nstreams .release ::
        streamNewEvents e.nstreams prepared) t) :=
  .streamFailed ht hl ⟨rfl, rfl, rfl, rfl, rfl, rfl⟩

lemma deadStream_liveStream {x : Stream K} (hx : x.internalClosed = true) (evs : List Event)
    (t : ℕ) {s : ℕ} (hs : (e.deadStream x evs t).LiveStream s) : e.LiveStream s := by
  obtain ⟨hk, hcl⟩ := hs
  have hne : s ≠ e.nstreams := by
    rintro rfl
    simp [Engine.deadStream, hx] at hcl
  have hlt : s < e.nstreams + 1 := hk
  exact ⟨by omega, by simpa [Engine.deadStream, hne] using hcl⟩

/-- The first deadline of a new stream. -/
lemma streamNew_refresh (env : Env K) (hd : 0 < e.operationDepth) (hl : e.LiveConn c)
    (hs : (e.conns c).state = .connected) {x : Stream K} (hx : x.internalClosed = false)
    (hst : x.state = .opened) (hc : x.conn = c) {m : TimerManager Owner}
    (ho : (m.node (.stream e.nstreams)).owner = true) (evs : List Event) (t : ℕ)
    (st : EngineStats) (now : ℤ) :
    ∃ m' t' r, t ≤ t' ∧
      (refreshMove (e.conns c) x now r).Did env m (.stream e.nstreams) m' ∧
      streamRefreshTimer env (e.placeStream x evs m t st) e.nstreams now =
        e.placeStream x (.kcp e.nstreams (.check now r) :: evs) m' t' st := by
  have hx1 : (e.placeStream x evs m t st).streams e.nstreams = x := by
    simp [Engine.placeStream]
  have hc1 : (e.placeStream x evs m t st).connOf e.nstreams = e.conns c := by
    rw [Engine.connOf, hx1, hc]
    rfl
  obtain ⟨m', t', r, ht, hm, hr⟩ := streamRefreshTimer_did env
    (e := e.placeStream x evs m t st) (s := e.nstreams) (by rw [hx1]; exact hx) ho now
  rw [hx1, hc1] at hm
  refine ⟨m', t', r, ht, hm, ?_⟩
  rw [hr.eq_of_depth hd, hx1, hc1, refreshEvents,
    if_pos ⟨hl.2, hs, by rw [streamKcpActive, hst]; rfl⟩]
  rfl

/-- The stream under the next handle, with its KCP instance in place. -/
lemma streamNewRegister_newed (hd : 0 < e.operationDepth) (hl : e.LiveConn c)
    (hs : (e.conns c).state = .connected) {id : UInt32} {config : Option StreamConfig}
    {isInitiator : Bool} {prepared : StreamConfig} {kcp : K} (hid : id ≠ 0)
    (hc : streamConfigPrepare (config.getD e.defaultStreamConfig) = some prepared)
    (hk : KcpNew env id prepared kcp) {t0 : ℕ}
    (ht0 : e.tick ≤ t0) {e1 : Engine K} (he1 : e1 = { e with
      tick := t0, nstreams := e.nstreams + 1
      trace := streamNewEvents e.nstreams prepared ++ e.trace }) :
    StreamNewed env e c id config isInitiator
      (streamNewRegister env e1 e.nstreams (streamRecord c id prepared isInitiator kcp)) := by
  obtain ⟨t, ht, h⟩ := engineRegisterTimerNode_eq env e1 (.stream e.nstreams)
  rw [he1] at ht
  have ht' : e.tick ≤ t := ht0.trans ht
  rw [streamNewRegister]
  dsimp only
  rcases h with ⟨hok, capacity, hcap, heq⟩ | ⟨hne, heq⟩
  · rw [if_neg (by simp [hok]), heq, he1]
    rw [he1] at hcap
    obtain ⟨m, t', r, ht1, hm, hr⟩ := streamNew_refresh env hd hl hs
      (x := (streamRecord c id prepared isInitiator kcp).blockRead (env.monotonicTimeMs t))
      rfl rfl rfl
      (m := timerNodeInit { e.timerManager with capacity } (.stream e.nstreams))
      (by simp [timerNodeInit]) (streamNewEvents e.nstreams prepared) (t + 1)
      { e.stats with
        streamCreatedTotal := e.stats.streamCreatedTotal + 1
        streamOpenedTotal := e.stats.streamOpenedTotal + 1 } (env.monotonicTimeMs t)
    have hcreated : StreamNewed env e c id config isInitiator
        (some e.nstreams, e.placeStream _ _ m t' _) :=
      .created hid hc hk (by omega) ⟨t, by omega, rfl⟩ hcap hm
    rw [← hr] at hcreated
    simpa [streamMarkReadBlocked, Engine.setStream, Engine.tock, engineNow, streamRecord,
      Stream.blockRead, Engine.placeStream] using hcreated
  · rw [if_pos hne, heq, he1]
    exact .failed (fun _ => .single (streamFailed_act hl ht' id prepared isInitiator kcp))
      fun s hs => deadStream_liveStream rfl [] t hs

/-- **`kcpmux_stream_new`.** -/
lemma streamNew_newed (hd : 0 < e.operationDepth) (hl : e.LiveConn c)
    (hs : (e.conns c).state = .connected) (id : UInt32) (config : Option StreamConfig)
    (isInitiator : Bool) :
    StreamNewed env e c id config isInitiator (streamNew env e c id config isInitiator) := by
  rw [streamNew]
  split_ifs with hid halloc
  · exact .failed (fun _ => .refl) fun _ h => h
  · exact .failed (fun op => .single (quiet_act op (Nat.le_succ _))) fun _ h => h
  · dsimp only
    have hdef : e.tock.defaultStreamConfig = e.defaultStreamConfig := rfl
    rw [hdef]
    cases hc : streamConfigPrepare (config.getD e.defaultStreamConfig) with
    | none => exact .failed (fun op => .single (quiet_act op (Nat.le_succ _))) fun _ h => h
    | some prepared =>
        dsimp only
        cases hk : env.kcp.create e.tock.tick id with
        | none =>
            exact .failed (fun op => .single (quiet_act op (by simp [Engine.tock]; omega)))
              fun _ h => h
        | some kcp =>
            exact streamNewRegister_newed hd hl hs hid hc ⟨_, _, hk, rfl⟩
              (by omega : e.tick ≤ e.tick + 1 + 1 + 1)
              (by simp [Engine.log, Engine.tock, streamNewEvents])

/-- A record that is changed before it enters the table of its connection. -/
lemma placeStream_setStream (e : Engine K) (x y : Stream K) (evs : List Event)
    (m : TimerManager Owner) (t : ℕ) (st : EngineStats) :
    (e.placeStream x evs m t st).setStream e.nstreams y = e.placeStream y evs m t st := by
  simp [Engine.placeStream, Engine.setStream]

@[simp] lemma placeStream_streams_self (e : Engine K) (x : Stream K) (evs : List Event)
    (m : TimerManager Owner) (t : ℕ) (st : EngineStats) :
    (e.placeStream x evs m t st).streams e.nstreams = x := by
  simp [Engine.placeStream]

/-- `kcpmux_stream_create` on a live connection, from the engine `e0` inside its bracket. -/
lemma streamCreate_eq (env : Env K) (hl : e.LiveConn c) (config : Option StreamConfig)
    (callbacks : Option StreamCallbacks) {e0 : Engine K}
    (he0 : e0 = engineOperationEnter { e with stats := { e.stats with
      apiStreamCreateCalls := e.stats.apiStreamCreateCalls + 1 } }) :
    streamCreate env e c config callbacks =
      if (e0.conns c).state ≠ .connected then (none, engineOperationLeave env e0)
      else
        let r := connAllocStreamId env e0 c
        if r.1 = 0 then (none, engineOperationLeave env r.2)
        else
          let q := streamNew env r.2 c r.1 config true
          match q.1 with
          | none => (none, engineOperationLeave env q.2)
          | some s =>
              (some s, engineOperationLeave env (connAddStream env (q.2.setStream s
                { q.2.streams s with callbacks := callbacks.getD (q.2.streams s).callbacks }) c s))
      := by
  subst he0
  rw [streamCreate, if_neg (by simp [hl.2])]
  rfl

/-- **`kcpmux_stream_create`**, inside its bracket. -/
lemma streamCreate_acts (hs : Sound env e) (hl : e.LiveConn c) {config : Option StreamConfig}
    {callbacks : Option StreamCallbacks} (hop : op = .streamCreate c config callbacks) :
    ∃ e1, Acts env op
        (engineOperationEnter { e with stats := { e.stats with
          apiStreamCreateCalls := e.stats.apiStreamCreateCalls + 1 } }) e1 ∧
      (streamCreate env e c config callbacks).2 = engineOperationLeave env e1 := by
  set e0 := engineOperationEnter { e with stats := { e.stats with
    apiStreamCreateCalls := e.stats.apiStreamCreateCalls + 1 } } with he0
  have hi0 : Inside env e0 := hs.enter _ rfl
  have hl0 : e0.LiveConn c := hl
  rw [streamCreate_eq env hl config callbacks he0]
  split_ifs with hst
  · exact ⟨e0, .refl, rfl⟩
  · rw [not_not] at hst
    obtain ⟨hmoved, hres⟩ : NextIdMoved env op c e0 _ ∧ _ :=
      connAllocStreamIdLoop_moved hi0.toSound hl0 ⟨config, callbacks, hop⟩
        ((e0.conns c).streamCount + 1)
    rw [connAllocStreamId]
    dsimp only
    generalize connAllocStreamIdLoop env c ((e0.conns c).streamCount + 1) e0 = r at hmoved hres ⊢
    have hi1 : Inside env r.2 := hmoved.acts.inside hi0
    obtain ⟨next, hnext⟩ := hmoved.conn
    have hx1 : r.2.conns c = { e0.conns c with nextStreamId := next } := by
      rw [hnext]
      simp [Engine.setConn]
    split_ifs with hid
    · exact ⟨r.2, hmoved.acts, rfl⟩
    · have hnew : StreamNewed env r.2 c r.1 config true (streamNew env r.2 c r.1 config true) :=
        streamNew_newed hi1.depth hmoved.live (by rw [hx1]; exact hst) _ _ _
      generalize streamNew env r.2 c r.1 config true = q at hnew ⊢
      cases hnew with
      | failed h => exact ⟨_, hmoved.acts.trans (h op), rfl⟩
      | @created prepared kcp now rr t capacity m hid' hc hk ht hnow hcap hm =>
          have hns : NewStream env op r.2 t c
              { (streamRecord c r.1 prepared true kcp).blockRead now with
                callbacks := callbacks.getD {} } none := by
            refine .local hop hc hid' ?_ (hres hid).2 hnow hk
            rw [hx1]
            exact (hres hid).1
          have h1 : Act env op r.2 _ := .streamNew hmoved.live (by rw [hx1]; exact hst) ht hcap hns hm
          refine ⟨_, hmoved.acts.tail h1, ?_⟩
          rw [← connAddStream_placeStream (hns.fresh hi1.toOwn hmoved.live.1) hmoved.live]
          dsimp only
          rw [placeStream_streams_self, placeStream_setStream]
          rfl

end KcpMux
