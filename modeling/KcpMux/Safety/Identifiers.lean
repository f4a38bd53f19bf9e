import KcpMux.Safety.Wakeup

/-!
Local connection ids.

An engine hands out `nextConnectionId` and moves it up by one, also for a creation that fails
later on; once it has wrapped to zero no connection can be created any more.  So an id is
never used twice, and a datagram that names the id of a finalised connection reaches nobody.
-/

namespace KcpMux

variable {K : Type}

/-- The engines differ in the clock, the engine's counters of datagrams and the number of
`kcpmux_conn_connect` calls only. -/
def Counts (e e' : Engine K) : Prop :=
  ∃ t st, { st.lasting with apiConnConnectCalls := e.stats.apiConnConnectCalls } =
    e.stats.lasting ∧ e' = { e with tick := t, stats := st }

/-- The ids assigned on the way from `e` to `e'` are new ones. -/
structure NewIds (e e' : Engine K) : Prop where
  stuck : e.nextConnectionId = 0 → e'.nextConnectionId = 0 ∧ e'.nconns = e.nconns
  next : e'.nextConnectionId = 0 ∨ e.nextConnectionId ≤ e'.nextConnectionId
  new : ∀ c, e.nconns ≤ c → c < e'.nconns →
    e.nextConnectionId ≤ (e'.conns c).localConnectionId ∧
      (e'.nextConnectionId = 0 ∨ (e'.conns c).localConnectionId < e'.nextConnectionId)

variable {env : Env K} {op : Call} {e e' : Engine K}

/-! ### The next id -/

lemma connCloseInternal_nextConnectionId (h : Own env e) (hd : 0 < e.operationDepth) {c : ℕ}
    (hl : e.LiveConn c) (reason : UInt8) :
    (connCloseInternal env e c reason).nextConnectionId = e.nextConnectionId :=
  connFinal_induct (P := fun e1 => e1.nextConnectionId = e.nextConnectionId)
    (Q := fun e1 => e1.nextConnectionId = e.nextConnectionId) h hd hl rfl
    (fun _ _ _ _ _ _ hP => hP) fun _ _ _ _ _ _ hP => hP

/-- What a move does to the next id. -/
inductive IdMove (e e' : Engine K) : Prop
  | same (h : e'.nextConnectionId = e.nextConnectionId) (hn : e'.nconns = e.nconns)
  | lost (h0 : e.nextConnectionId ≠ 0) (h : e'.nextConnectionId = e.nextConnectionId + 1)
      (hn : e'.nconns = e.nconns)
  | used (h0 : e.nextConnectionId ≠ 0) (h : e'.nextConnectionId = e.nextConnectionId + 1)
      (hn : e'.nconns = e.nconns + 1)
      (hid : (e'.conns e.nconns).localConnectionId = e.nextConnectionId)

lemma NewConn.localConnectionId {t : ℕ} {x : Conn} (h : NewConn env op e t x) :
    x.localConnectionId = e.nextConnectionId := by
  cases h <;> rfl

lemma Move.idMove (hm : Move env op e e') (h : Steady env e) : IdMove e e' := by
  cases hm with
  | act ha =>
      cases ha with
      | idLost ht hid => exact .lost hid rfl rfl
      | connNew ht hid hcap hx => exact .used hid rfl rfl (by simpa using hx.localConnectionId)
      | connFinal hd hl =>
          exact .same (connCloseInternal_nextConnectionId h.toOwn hd hl _)
            (connCloseInternal_nconns h.toOwn hd hl _).1
      | @connLast c t x evs st cs hd hl ht hx hst =>
          have hs := SameOwn.connLast env hl hx t st cs
          have hl' := (hs.liveConn c).mpr hl
          exact .same (connCloseInternal_nextConnectionId (h.toOwn.of_same hs) hd hl' _)
            (connCloseInternal_nconns (h.toOwn.of_same hs) hd hl' _).1
      | _ => exact .same rfl rfl
  | rearm =>
      obtain ⟨a, d, evs, heq, -⟩ := engineRearmTimer_eq e _
      rw [heq]
      exact .same rfl rfl
  | settle =>
      rw [engineDispatchEnd]
      split_ifs <;> exact .same rfl rfl
  | _ => exact .same rfl rfl

lemma NewIds.refl (e : Engine K) : NewIds e e :=
  ⟨fun h => ⟨h, rfl⟩, Or.inr (UInt64.le_refl _), fun _ h1 h2 => absurd h2 (not_lt.mpr h1)⟩

/-- One move further. -/
lemma NewIds.move {e1 e2 : Engine K} (h : NewIds e e1) (hm : IdMove e1 e2)
    (hid : ∀ c < e1.nconns, (e2.conns c).localConnectionId = (e1.conns c).localConnectionId) :
    NewIds e e2 := by
  -- the ids of `e1` stay below the next id
  have hold : ∀ c, e.nconns ≤ c → c < e1.nconns →
      (e2.nextConnectionId = 0 ∨ e1.nextConnectionId ≤ e2.nextConnectionId) →
      (e1.nextConnectionId = 0 → e2.nextConnectionId = 0) →
      e.nextConnectionId ≤ (e2.conns c).localConnectionId ∧
        (e2.nextConnectionId = 0 ∨ (e2.conns c).localConnectionId < e2.nextConnectionId) := by
    intro c hc hlt hle hz
    rw [hid c hlt]
    obtain ⟨h1, h2⟩ := h.new c hc hlt
    refine ⟨h1, ?_⟩
    rcases h2 with h2 | h2
    · exact Or.inl (hz h2)
    · exact hle.imp_right fun hle => UInt64.lt_of_lt_of_le h2 hle
  have hup : e1.nextConnectionId + 1 = 0 ∨ e1.nextConnectionId < e1.nextConnectionId + 1 :=
    next_zero_or_lt _
  cases hm with
  | same h2 hn =>
      refine ⟨fun h0 => ?_, h2 ▸ h.next, fun c hc hlt => hold c hc (hn ▸ hlt) ?_ ?_⟩
      · rw [h2, hn]
        exact h.stuck h0
      · exact Or.inr (h2 ▸ UInt64.le_refl _)
      · exact fun h0 => h2.trans h0
  | lost h0 h2 hn =>
      refine ⟨fun hz => absurd (h.stuck hz).1 h0, ?_, fun c hc hlt => hold c hc (hn ▸ hlt) ?_ ?_⟩
      · rw [h2]
        exact hup.imp_right fun hlt => UInt64.le_trans (h.next.resolve_left h0) (UInt64.le_of_lt hlt)
      · rw [h2]
        exact hup.imp_right UInt64.le_of_lt
      · exact fun hz => absurd hz h0
  | used h0 h2 hn hnew =>
      refine ⟨fun hz => absurd (h.stuck hz).1 h0, ?_, fun c hc hlt => ?_⟩
      · rw [h2]
        exact hup.imp_right fun hlt => UInt64.le_trans (h.next.resolve_left h0) (UInt64.le_of_lt hlt)
      · rcases Nat.lt_succ_iff_lt_or_eq.mp (hn ▸ hlt) with hlt | rfl
        · refine hold c hc hlt ?_ fun hz => absurd hz h0
          rw [h2]
          exact hup.imp_right UInt64.le_of_lt
        · rw [hnew, h2]
          exact ⟨h.next.resolve_left h0, hup⟩

lemma Move.localConnectionId (hm : Move env op e e') (h : Steady env e) {c : ℕ}
    (hc : c < e.nconns) : (e'.conns c).localConnectionId = (e.conns c).localConnectionId := by
  have hid := ((hm.extends h).conn c hc).1
  exact congrArg (fun i => i.2.1) hid

lemma Run.newIds (h : Run env e e') (hr : Reachable env e) : NewIds e e' :=
  h.induct hr (.refl e) fun _ _ _ hs hm h1 =>
    h1.move (hm.idMove hs) fun _ hc => hm.localConnectionId hs hc

/-- Handles that are created later have larger ids. -/
def IdsAscend (e : Engine K) : Prop :=
  ∀ c c', c < c' → c' < e.nconns →
    (e.conns c).localConnectionId < (e.conns c').localConnectionId

lemma Move.idsAscend (hm : Move env op e e') (h : Steady env e) (ha : IdsAscend e) :
    IdsAscend e' := by
  intro c c' hlt hc'
  by_cases hc : c' < e.nconns
  · rw [hm.localConnectionId h hc, hm.localConnectionId h (hlt.trans hc)]
    exact ha c c' hlt hc
  · cases hm.idMove h with
    | same _ hn => exact absurd (hn ▸ hc') hc
    | lost _ _ hn => exact absurd (hn ▸ hc') hc
    | used h0 h2 hn hnew =>
        obtain rfl : c' = e.nconns := by omega
        rw [hnew, hm.localConnectionId h hlt]
        exact ((h.connId c hlt).2).resolve_left h0

lemma Reachable.idsAscend (h : Reachable env e) : IdsAscend e := by
  refine h.induct (P := IdsAscend) ?_ fun op e e' hs hm ha => hm.idsAscend hs ha
  intro cc sc e hc
  obtain ⟨cc, sc, id, -, rfl⟩ := engineCreate_eq hc
  exact fun c c' _ hc' => absurd hc' (Nat.not_lt_zero c')

/-! ### Addresses -/

/-- The address of a connection is a valid one. -/
def ValidAddr (_ : ℕ) (x : Conn) (_ : List Event) : Prop :=
  x.peerAddr ≠ [] ∧ x.peerAddr.length ≤ addrMaxLen

lemma Move.peerAddr (hm : Move env op e e') (h : Steady env e) {c : ℕ} (hc : c < e.nconns) :
    (e'.conns c).peerAddr = (e.conns c).peerAddr := by
  have hid := ((hm.extends h).conn c hc).1
  exact congrArg (fun i => i.2.2) hid

lemma Reachable.validAddr (h : Reachable env e) : e.EachConn ValidAddr := by
  refine h.induct (P := Engine.EachConn ValidAddr) ?_ fun op e e' hs hm hp c hc => ?_
  · intro cc sc e hc
    obtain ⟨cc, sc, id, -, rfl⟩ := engineCreate_eq hc
    exact fun c hc => absurd hc (Nat.not_lt_zero c)
  · rcases hm.nconns hs with hn | ⟨t, x, hx, hn, hx', -⟩
    · rw [hn] at hc
      rw [ValidAddr, hm.peerAddr hs hc]
      exact hp c hc
    · rcases Nat.lt_succ_iff_lt_or_eq.mp (hn ▸ hc) with hc | rfl
      · rw [ValidAddr, hm.peerAddr hs hc]
        exact hp c hc
      · rw [ValidAddr, hx']
        cases hx with
        | initiator hop hcf hn hnow ha => exact ha
        | passive hop hd hcf hn hnow hrecv ha => exact ha

/-- **The connection table** finds the live connection with a key, for any key. -/
lemma Reachable.engineGetConnById (h : Reachable env e) (addr : Addr) (id : UInt64) (c : ℕ) :
    engineGetConnById env e addr id = some c ↔
      e.LiveConn c ∧ (e.conns c).localConnectionId = id ∧ (e.conns c).peerAddr = addr := by
  have hb := h.boundary
  by_cases hk : addr = [] ∨ addr.length > addrMaxLen ∨ id = 0
  · rw [KcpMux.engineGetConnById, if_pos hk]
    refine ⟨fun hn => (Option.some_ne_none c hn.symm).elim, ?_⟩
    rintro ⟨hl, rfl, rfl⟩
    obtain ⟨h1, h2⟩ := h.validAddr c hl.1
    rcases hk with hk | hk | hk
    · exact absurd hk h1
    · exact absurd h2 (not_le.mpr hk)
    · exact absurd hk (hb.connId c hl.1).1
  · simp only [not_or, gt_iff_lt, not_lt] at hk
    exact engineGetConnById_eq_some hb.toOwn ⟨hk.1, hk.2.1⟩ hk.2.2

/-! ### Calls that change nothing -/

/-- An operation that moved the counters and the log only. -/
lemma Boundary.leave_eq (h : Boundary env e) (ha : HostArmed e) (t : ℕ) (st : EngineStats)
    (cs : ℕ → ConnStats) (evs : List Event) :
    engineOperationLeave env { engineOperationEnter e with
        tick := t, stats := st, connStats := cs, trace := evs ++ e.trace } =
      { e with tick := t + 1, stats := st, connStats := cs, trace := evs ++ e.trace } := by
  have hd : ({ engineOperationEnter e with
      tick := t, stats := st, connStats := cs, trace := evs ++ e.trace } :
        Engine K).operationDepth = 1 := by
    show e.operationDepth + 1 = 1
    rw [h.depth]
  have hleft : ({ engineOperationEnter e with
      tick := t, stats := st, connStats := cs, trace := evs ++ e.trace } : Engine K).left =
        { e with tick := t + 1, stats := st, connStats := cs, trace := evs ++ e.trace } := by
    have hp := h.released
    have hd := h.depth
    cases e
    simp_all [Engine.left, engineOperationEnter]
  rw [engineOperationLeave_eq env hd, hleft, engineRearmTimer,
    if_neg (by show ¬ e.operationDepth > 0; rw [h.depth]; decide)]
  cases hp : timerPeek e.timerManager with
  | none => rfl
  | some root => exact if_pos (ha root hp)

lemma Boundary.leave_counts (h : Boundary env e) (ha : HostArmed e) {t : ℕ} {st : EngineStats}
    (hst : { st.lasting with apiConnConnectCalls := e.stats.apiConnConnectCalls } =
      e.stats.lasting) :
    Counts e (engineOperationLeave env { engineOperationEnter e with tick := t, stats := st }) :=
  ⟨t + 1, st, hst, h.leave_eq ha t st e.connStats []⟩

/-- Without ids no connection is created. -/
lemma connNew_exhausted (env : Env K) (h0 : e.nextConnectionId = 0) (addr : Addr)
    (config : Option ConnConfig) (isInitiator : Bool) :
    ∃ t, connNew env e addr config isInitiator = (none, { e with tick := t }) := by
  rw [connNew]
  split_ifs with h1 h2
  · exact ⟨e.tick, rfl⟩
  · exact ⟨e.tick + 1, rfl⟩
  · exact ⟨e.tick + 1, if_pos h0⟩

/-- `kcpmux_conn_connect` without ids. -/
lemma connConnect_exhausted (h : Boundary env e) (ha : HostArmed e) (h0 : e.nextConnectionId = 0)
    (addr : Addr) (config : Option ConnConfig) (ext : Bytes) (callbacks : Option ConnCallbacks) :
    (connConnect env e addr config ext callbacks).1 = none ∧
      Counts e (connConnect env e addr config ext callbacks).2 := by
  rw [connConnect]
  dsimp only
  generalize hst : ({ (engineOperationEnter e).stats with
    apiConnConnectCalls := (engineOperationEnter e).stats.apiConnConnectCalls + 1 } :
      EngineStats) = st
  have hcount : { st.lasting with apiConnConnectCalls := e.stats.apiConnConnectCalls } =
      e.stats.lasting := by
    rw [← hst]
    rfl
  obtain ⟨t, heq⟩ := connNew_exhausted env
    (e := { engineOperationEnter e with stats := st }) h0 addr config true
  rw [heq]
  exact ⟨rfl, h.leave_counts ha hcount⟩

/-- The frame of `kcpmux_engine_input` around a datagram that changes nothing. -/
lemma engineInput_counts (h : Boundary env e) (ha : HostArmed e) {d : Bytes} {addr : Addr} {r : ℤ}
    (hd : d ≠ [])
    (hin : ∀ t st now, ∃ t', protocolInput env (e.opened t st) (Buf.of d) d.length addr now =
      (r, { e.opened t st with tick := t' })) :
    (engineInput env e d addr).1 = r ∧ Counts e (engineInput env e d addr).2 := by
  obtain ⟨t, st, now, -, -, -, hst, heq⟩ := engineInput_eq env e hd addr
  obtain ⟨t', heq'⟩ := hin t st now
  rw [heq, heq']
  exact ⟨rfl, h.leave_counts ha (by rw [hst]; rfl)⟩

/-- A `CONN_CONNECT` of an unknown peer, without ids. -/
lemma protocolInput_exhausted (h0 : e.nextConnectionId = 0) {d : Bytes} {addr : Addr}
    {id : UInt64} {ext : Bytes} (ha : addr ≠ [] ∧ addr.length ≤ addrMaxLen)
    (hd : ConnectDatagram d id ext) (hz : readU64 (Buf.of d) 1 = 0)
    (hnew : engineGetPassiveConn env e addr id = none) (now : ℤ) :
    ∃ t, protocolInput env e (Buf.of d) d.length addr now = (-errOom, { e with tick := t }) := by
  have hlen := hd.len
  simp only [protoConnectLen, protoCommonLen] at hlen
  obtain ⟨t, heq⟩ := connNew_exhausted env h0 addr none false
  refine ⟨t, ?_⟩
  rw [protocolInput, if_neg (by omega), if_neg (by simpa using ha),
    if_neg (by simp only [protoCommonLen]; omega), if_pos hd.type, inputConnect,
    if_neg (not_or.mpr ⟨by simp only [protoConnectLen, protoCommonLen]; omega, not_not.mpr hz⟩)]
  dsimp only
  rw [hd.source, if_neg hd.source_ne, if_neg (not_lt.mpr hd.ext_le), if_neg (not_lt.mpr hd.len),
    if_neg (not_not.mpr hd.version), hnew]
  show protocolAccept env e addr id _ now = _
  rw [protocolAccept, heq]

/-- A datagram for an id nobody has. -/
lemma protocolInput_unknown {d : Bytes} {addr : Addr} {id : UInt64}
    (ha : addr ≠ [] ∧ addr.length ≤ addrMaxLen) (hlen : protoCommonLen ≤ d.length)
    (ht : Buf.of d 0 ≠ msgConnConnect) (hid : readU64 (Buf.of d) 1 = id) (h0 : id ≠ 0)
    (hnone : engineGetConnById env e addr id = none) (now : ℤ) :
    protocolInput env e (Buf.of d) d.length addr now = (-errNotFound, e) := by
  rw [protocolInput, if_neg (by simp only [protoCommonLen] at hlen; omega),
    if_neg (by simpa using ha), if_neg (not_lt.mpr hlen), if_neg ht]
  dsimp only
  rw [hid, if_neg h0, hnone]

/-- **No id is used twice.**  The ids of an engine are nonzero and ascend in the order of
creation, along whole runs and across creations that fail; when they have run out (the next id
has wrapped to zero) every further creation fails and changes no connection, table, counter of
objects or timer; the connection table finds exactly the live connection with a key; so a
datagram that names the id of a finalised connection is answered with `NOT_FOUND` and changes
nothing. -/
theorem stale_ids_reach_nobody (h : Reachable env e) :
    (∀ c < e.nconns, (e.conns c).localConnectionId ≠ 0 ∧
      (e.nextConnectionId = 0 ∨ (e.conns c).localConnectionId < e.nextConnectionId)) ∧
    (∀ c c', c < c' → c' < e.nconns →
      (e.conns c).localConnectionId < (e.conns c').localConnectionId) ∧
    (∀ e', Run env e e' → NewIds e e' ∧
      ∀ c < e.nconns, (e'.conns c).localConnectionId = (e.conns c).localConnectionId) ∧
    (e.nextConnectionId = 0 →
      (∀ addr config ext callbacks, (connConnect env e addr config ext callbacks).1 = none ∧
        Counts e (connConnect env e addr config ext callbacks).2) ∧
      ∀ addr d id ext, addr ≠ [] ∧ addr.length ≤ addrMaxLen → ConnectDatagram d id ext →
        readU64 (Buf.of d) 1 = 0 → engineGetPassiveConn env e addr id = none →
        (engineInput env e d addr).1 = -errOom ∧ Counts e (engineInput env e d addr).2) ∧
    (∀ addr id c, engineGetConnById env e addr id = some c ↔
      e.LiveConn c ∧ (e.conns c).localConnectionId = id ∧ (e.conns c).peerAddr = addr) ∧
    ∀ c < e.nconns, (e.conns c).internalClosed = true → ∀ addr d,
      addr ≠ [] ∧ addr.length ≤ addrMaxLen → protoCommonLen ≤ d.length →
      Buf.of d 0 ≠ msgConnConnect → readU64 (Buf.of d) 1 = (e.conns c).localConnectionId →
      (engineInput env e d addr).1 = -errNotFound ∧ Counts e (engineInput env e d addr).2 := by
  have hb := h.boundary
  refine ⟨hb.connId, h.idsAscend, fun e' hrun => ⟨hrun.newIds h, fun c hc => ?_⟩,
    fun h0 => ⟨connConnect_exhausted hb h.armed h0, ?_⟩, h.engineGetConnById, ?_⟩
  · exact congrArg (fun i => i.2.1) ((hrun.extends h).conn c hc).1
  · intro addr d id ext ha hd hz hnew
    have hne : d ≠ [] := by
      rintro rfl
      exact absurd hd.type (by decide)
    exact engineInput_counts hb h.armed hne fun t st now =>
      protocolInput_exhausted (e := e.opened t st) h0 ha hd hz hnew now
  · intro c hc hcl addr d ha hlen ht hid
    have hne : d ≠ [] := by
      rintro rfl
      exact absurd hlen (by decide)
    -- a live connection with this id would be `c` itself
    have hnone : engineGetConnById env e addr (e.conns c).localConnectionId = none := by
      refine Option.eq_none_iff_forall_not_mem.mpr fun c' hc' => ?_
      obtain ⟨hl, hid', -⟩ := (h.engineGetConnById _ _ _).mp hc'
      rw [hb.connIdInj c' hl.1 c hc hid'] at hl
      exact absurd (hcl.symm.trans hl.2) (by decide)
    exact engineInput_counts hb h.armed hne fun t st now =>
      ⟨t, protocolInput_unknown (e := e.opened t st) ha hlen ht hid (hb.connId c hc).1 hnone now⟩

/-- A `CONN_KEEPALIVE` for the id 1. -/
def plainKeepalive : Bytes := [0x83, 0, 0, 0, 0, 0, 0, 0, 1, 0, 0, 0, 0, 0, 0, 0, 0]

/-- The peer has closed its connection and opened a new one, with the same source id. -/
def reconnected : Engine Unit :=
  (Call.input plainConnect [10]).exec (idealHost 0 0)
    ((Call.input (plainConnClose 1) [10]).exec (idealHost 0 0) accepted)

lemma reconnected_reachable : Reachable (idealHost 0 0) reconnected :=
  .call (.call accepted_reachable (.input (plainConnClose 1) [10]) trivial) (.input plainConnect [10])
    trivial

/-- A keepalive for the closed connection comes late, from the address of the new one. -/
theorem stale_ids_reach_nobody_reconnected :
    ((reconnected.conns 0).internalClosed = true ∧ reconnected.LiveConn 1 ∧
        (reconnected.conns 1).peerAddr = [10]) ∧
      (engineInput (idealHost 0 0) reconnected plainKeepalive [10]).1 = -errNotFound ∧
      Counts reconnected (engineInput (idealHost 0 0) reconnected plainKeepalive [10]).2 := by
  refine ⟨⟨by decide +kernel, ⟨by decide +kernel, by decide +kernel⟩, by decide +kernel⟩, ?_⟩
  exact (stale_ids_reach_nobody reconnected_reachable).2.2.2.2.2 0 (by decide +kernel)
    (by decide +kernel) [10] plainKeepalive (by decide) (by decide) (by decide) (by decide +kernel)

end KcpMux
