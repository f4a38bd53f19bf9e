import KcpMux.Steps.Sound

/-!
Creation keeps ownership.

A new connection enters the engine's tables under keys that no live connection has: its
local id is the next one, and a passive connection is created only when the handshake table
has no entry for its peer.  A new stream enters the table of its connection under an id that
the lookup did not find.
-/

namespace KcpMux

open TimerNode

variable {K : Type} {env : Env K} {e : Engine K}

/-! ### Connections -/

/-- The first local stream id has the parity of the connection. -/
lemma firstStreamId_parity (isInitiator : Bool) (random : UInt64) :
    (firstStreamId isInitiator random % 2 == 1) = isInitiator := by
  have hmod : ∀ a : UInt32, (a % 2 == 1) = decide (a.toNat % 2 = 1) := by
    intro a
    rw [Bool.eq_iff_iff, beq_iff_eq, decide_eq_true_iff, ← UInt32.toNat_inj]
    simp
  rw [hmod, firstStreamId]
  cases isInitiator with
  | true => simp [Nat.or_mod_two_eq_one]
  | false =>
      simp only [Bool.false_eq_true, if_false, decide_eq_false_iff_not]
      split_ifs with h
      · decide
      · rw [UInt32.toNat_and, Nat.and_mod_two_eq_one]
        simp

/-- The id counter runs up to its end and stays there. -/
lemma next_zero_or_lt (a : UInt64) : a + 1 = 0 ∨ a < a + 1 := by
  rw [or_iff_not_imp_left]
  intro h
  rw [UInt64.lt_iff_toNat_lt]
  have hne : (a + 1).toNat ≠ 0 := fun h0 => h (UInt64.toNat_inj.mp (by simpa using h0))
  have hlt := a.toNat_lt
  simp only [UInt64.toNat_add, UInt64.reduceToNat] at hne ⊢
  omega

/-- What ownership needs to know about a new connection. -/
structure FreshConn (env : Env K) (e : Engine K) (x : Conn) : Prop where
  closed : x.internalClosed = false
  inEngineMap : x.inEngineMap = false
  id : x.localConnectionId = e.nextConnectionId
  state : x.state = .init
  streamMap : x.streamMap = htbNew ℕ 32
  streamCount : x.streamCount = 0
  nextId : ParityOk x x.nextStreamId
  fresh : x.isInitiator = false → ∀ c, e.LivePassive c →
    connKeyMatches x.peerAddr x.peerConnectionId (e.conns c) (e.conns c).peerConnectionId = false

lemma connKeyMatches_iff {addr : Addr} {id id' : UInt64} {x : Conn} :
    connKeyMatches addr id x id' = true ↔ id = id' ∧ addr = x.peerAddr := by
  simp [connKeyMatches]

/-- The lookup among the passive connections. -/
lemma engineGetPassiveConn_eq_none (h : Own env e) {addr : Addr} {id : UInt64}
    (ha : addr ≠ [] ∧ addr.length ≤ addrMaxLen) (hid : id ≠ 0)
    (hn : engineGetPassiveConn env e addr id = none) (c : ℕ) (hc : e.LivePassive c) :
    connKeyMatches addr id (e.conns c) (e.conns c).peerConnectionId = false := by
  rw [engineGetPassiveConn, if_neg (by simp [ha, hid])] at hn
  refine (h.handshakeTable.find_eq_none ?_).mp hn c hc
  intro d _ hd
  obtain ⟨h1, h2⟩ := connKeyMatches_iff.mp hd
  rw [Engine.handshakeHash, h1, h2]

lemma NewConn.fresh {op : Call} {t : ℕ} {x : Conn} (h : Own env e)
    (hx : NewConn env op e t x) : FreshConn env e x := by
  cases hx with
  | initiator hop hc hn hnow ha =>
      obtain ⟨k, rfl⟩ := hn
      exact ⟨rfl, rfl, rfl, rfl, rfl, rfl, firstStreamId_parity true _, fun hi => by cases hi⟩
  | passive hop hd hc hn hnow hrecv ha hfresh =>
      obtain ⟨k, rfl⟩ := hn
      exact ⟨rfl, rfl, rfl, rfl, rfl, rfl, firstStreamId_parity false _, fun _ =>
        engineGetPassiveConn_eq_none h ha hd.source_ne hfresh⟩

section NewConn

variable {x : Conn} {m : TimerManager Owner} {t : ℕ} {st : EngineStats}

lemma engineAddConn_placeConn (hx : FreshConn env e x) :
    engineAddConn env (e.placeConn x m t st) e.nconns = e.newConn env x m t st := by
  have hself : (e.placeConn x m t st).conns e.nconns = x := by simp [Engine.placeConn]
  rw [engineAddConn, hself, if_neg (by simp [hx.closed, hx.inEngineMap])]
  simp [Engine.newConn, Engine.setConn, Engine.placeConn]

lemma newConn_conns_of_lt {c : ℕ} (hc : c < e.nconns) :
    (e.newConn env x m t st).conns c = e.conns c := by
  simp [Engine.newConn, Nat.ne_of_lt hc]

@[simp] lemma newConn_conns_self :
    (e.newConn env x m t st).conns e.nconns = { x with inEngineMap := true } := by
  simp [Engine.newConn]

@[simp] lemma newConn_nconns : (e.newConn env x m t st).nconns = e.nconns + 1 := rfl
@[simp] lemma newConn_nstreams : (e.newConn env x m t st).nstreams = e.nstreams := rfl
@[simp] lemma newConn_streams : (e.newConn env x m t st).streams = e.streams := rfl

lemma newConn_liveConn (hx : FreshConn env e x) (c : ℕ) :
    (e.newConn env x m t st).LiveConn c ↔ c = e.nconns ∨ e.LiveConn c := by
  rw [Engine.LiveConn, Engine.LiveConn]
  by_cases hc : c = e.nconns
  · subst hc; simp [hx.closed]
  · simp only [Engine.newConn, hc, ne_eq, not_false_eq_true, Function.update_of_ne, false_or]
    exact and_congr_left fun _ => by omega

lemma newConn_live (hx : FreshConn env e x) (o : Owner) :
    (e.newConn env x m t st).Live o ↔ o = .conn e.nconns ∨ e.Live o := by
  cases o with
  | conn c => simp [newConn_liveConn hx]
  | stream s => simp [Engine.LiveStream]

lemma newConn_livePassive (hx : FreshConn env e x) (c : ℕ) :
    (e.newConn env x m t st).LivePassive c ↔
      (c = e.nconns ∧ x.isInitiator = false) ∨ e.LivePassive c := by
  rw [Engine.LivePassive, Engine.LivePassive, newConn_liveConn hx]
  by_cases hc : c = e.nconns
  · subst hc; simp [Engine.LiveConn]
  · simp [hc, Engine.newConn]

/-- A new object's node. -/
lemma owner_nodeInit {m : TimerManager Owner} {o : Owner} {L L' : Owner → Prop}
    (h : ∀ q, (m.node q).owner = true ↔ L q) (hL : ∀ q, L' q ↔ q = o ∨ L q) (capacity : ℕ)
    (q : Owner) : ((timerNodeInit { m with capacity } o).node q).owner = true ↔ L' q := by
  rw [hL, timerNodeInit]
  by_cases hq : q = o
  · subst hq; simp
  · rw [setNode_node_of_ne _ hq]
    simp [hq, h]

lemma idle_nodeInit {m : TimerManager Owner} {o : Owner} {L L' : Owner → Prop}
    (h : ∀ q, ¬ L q → (m.node q).state = .idle) (hL : ∀ q, L' q ↔ q = o ∨ L q) (capacity : ℕ)
    (q : Owner) (hq : ¬ L' q) : ((timerNodeInit { m with capacity } o).node q).state = .idle := by
  rw [hL, not_or] at hq
  rw [timerNodeInit, setNode_node_of_ne _ hq.1]
  exact h q hq.2

/-- What every connection satisfies, when the new one does. -/
lemma newConn_forall {Q : Conn → Prop} (h : ∀ c < e.nconns, Q (e.conns c))
    (hx : Q { x with inEngineMap := true }) :
    ∀ c < (e.newConn env x m t st).nconns, Q ((e.newConn env x m t st).conns c) := by
  intro c hc
  rcases Nat.lt_succ_iff_lt_or_eq.mp hc with hlt | rfl
  · rw [newConn_conns_of_lt hlt]
    exact h c hlt
  · rw [newConn_conns_self]
    exact hx

lemma placeConn_conns_of_lt {c : ℕ} (hc : c < e.nconns) :
    (e.placeConn x m t st).conns c = e.conns c := by
  simp [Engine.placeConn, Nat.ne_of_lt hc]

section

variable (h : Own env e) (hx : FreshConn env e x)

include h hx

/-- The ids in use lie below the next one. -/
lemma FreshConn.id_lt (hid : e.nextConnectionId ≠ 0) {c : ℕ} (hc : c < e.nconns) :
    (e.conns c).localConnectionId < x.localConnectionId := by
  rw [hx.id]
  exact ((h.connId c hc).2).resolve_left hid

/-- The key of a new connection is not in the table. -/
lemma connFind_fresh (hid : e.nextConnectionId ≠ 0) :
    htbFind e.connMap (connCmp (e.placeConn x m t st) x.peerAddr x.localConnectionId)
      (connKeyHash env x.peerAddr x.localConnectionId) = none := by
  refine (h.connTable.find_eq_none fun c hl hc => ?_).mpr fun c hl => ?_
  · rw [connCmp, placeConn_conns_of_lt hl.1, connKeyMatches_iff] at hc
    rw [Engine.connHash, hc.1, hc.2]
  · rw [connCmp, placeConn_conns_of_lt hl.1, Bool.eq_false_iff]
    intro hc
    have hlt := hx.id_lt h hid hl.1
    rw [← (connKeyMatches_iff.mp hc).1] at hlt
    exact UInt64.lt_irrefl _ hlt

lemma newConn_connTable (hid : e.nextConnectionId ≠ 0) :
    (e.newConn env x m t st).connMap.Holds (e.newConn env x m t st).LiveConn
      ((e.newConn env x m t st).connHash env) := by
  have ht : e.connMap.Holds e.LiveConn ((e.newConn env x m t st).connHash env) :=
    h.connTable.congr (fun _ => Iff.rfl) fun c hc => by
      rw [Engine.connHash, Engine.connHash, newConn_conns_of_lt hc.1]
  have hhash : connKeyHash env x.peerAddr x.localConnectionId =
      (e.newConn env x m t st).connHash env e.nconns := by
    rw [Engine.connHash, newConn_conns_self]
  show (htbAdd e.connMap e.nconns _ (connKeyHash env x.peerAddr x.localConnectionId)).Holds _ _
  rw [hhash]
  refine (ht.add (fun hl => lt_irrefl _ hl.1) ?_).congr (fun c => (newConn_liveConn hx c).symm)
    fun _ _ => rfl
  rw [← hhash]
  exact connFind_fresh h hx hid

/-- Nor is the key of a new passive connection in the handshake table. -/
lemma handshakeFind_fresh (hi : x.isInitiator = false) :
    htbFind e.handshakeMap (handshakeCmp (e.placeConn x m t st) x.peerAddr x.peerConnectionId)
      (connKeyHash env x.peerAddr x.peerConnectionId) = none := by
  refine (h.handshakeTable.find_eq_none fun c hl hc => ?_).mpr fun c hl => ?_
  · rw [handshakeCmp, placeConn_conns_of_lt hl.1.1, connKeyMatches_iff] at hc
    rw [Engine.handshakeHash, hc.1, hc.2]
  · rw [handshakeCmp, placeConn_conns_of_lt hl.1.1]
    exact hx.fresh hi c hl

lemma newConn_handshakeTable :
    (e.newConn env x m t st).handshakeMap.Holds (e.newConn env x m t st).LivePassive
      ((e.newConn env x m t st).handshakeHash env) := by
  have ht : e.handshakeMap.Holds e.LivePassive ((e.newConn env x m t st).handshakeHash env) :=
    h.handshakeTable.congr (fun _ => Iff.rfl) fun c hc => by
      rw [Engine.handshakeHash, Engine.handshakeHash, newConn_conns_of_lt hc.1.1]
  cases hi : x.isInitiator with
  | true =>
      have hmap : (e.newConn env x m t st).handshakeMap = e.handshakeMap := by
        simp [Engine.newConn, hi]
      rw [hmap]
      refine ht.congr (fun c => ?_) fun _ _ => rfl
      rw [newConn_livePassive hx, hi]
      simp
  | false =>
      have hhash : connKeyHash env x.peerAddr x.peerConnectionId =
          (e.newConn env x m t st).handshakeHash env e.nconns := by
        rw [Engine.handshakeHash, newConn_conns_self]
      have hmap : (e.newConn env x m t st).handshakeMap = htbAdd e.handshakeMap e.nconns
          (handshakeCmp (e.placeConn x m t st) x.peerAddr x.peerConnectionId)
          ((e.newConn env x m t st).handshakeHash env e.nconns) := by
        rw [← hhash]
        simp [Engine.newConn, hi]
      rw [hmap]
      refine (ht.add (fun hl => lt_irrefl _ hl.1.1) ?_).congr (fun c => ?_) fun _ _ => rfl
      · rw [← hhash]
        exact handshakeFind_fresh h hx hi
      · rw [newConn_livePassive hx, hi]
        simp

/-- A new connection has no streams. -/
lemma newConn_streamTable : ∀ c < (e.newConn env x m t st).nconns,
    ((e.newConn env x m t st).conns c).streamMap.Holds ((e.newConn env x m t st).LiveIn c)
      ((e.newConn env x m t st).streamHash env) := by
  intro c hc
  rcases Nat.lt_succ_iff_lt_or_eq.mp hc with hlt | rfl
  · rw [newConn_conns_of_lt hlt]
    exact h.streamTable c hlt
  · rw [newConn_conns_self, hx.streamMap]
    refine (Htb.Holds.empty 32 (e.streamHash env)).congr (fun s => ?_) fun _ hf => hf.elim
    refine iff_of_false id fun hs => ?_
    have hlt := h.connOf_lt s hs.1.1
    rw [show (e.streams s).conn = e.nconns from hs.2] at hlt
    exact lt_irrefl _ hlt

lemma newConn_connId (hid : e.nextConnectionId ≠ 0) : ∀ c < (e.newConn env x m t st).nconns,
    ((e.newConn env x m t st).conns c).localConnectionId ≠ 0 ∧
      ((e.newConn env x m t st).nextConnectionId = 0 ∨
        ((e.newConn env x m t st).conns c).localConnectionId <
          (e.newConn env x m t st).nextConnectionId) := by
  have hsucc : e.nextConnectionId + 1 = 0 ∨ e.nextConnectionId < e.nextConnectionId + 1 :=
    next_zero_or_lt e.nextConnectionId
  refine newConn_forall (Q := fun y => y.localConnectionId ≠ 0 ∧ (e.nextConnectionId + 1 = 0 ∨
    y.localConnectionId < e.nextConnectionId + 1)) (fun c hc => ?_) ⟨hx.id ▸ hid, hx.id ▸ hsucc⟩
  exact ⟨(h.connId c hc).1, hsucc.imp_right (UInt64.lt_trans (hx.id ▸ hx.id_lt h hid hc))⟩

lemma newConn_connIdInj (hid : e.nextConnectionId ≠ 0) :
    ∀ c < (e.newConn env x m t st).nconns, ∀ d < (e.newConn env x m t st).nconns,
      ((e.newConn env x m t st).conns c).localConnectionId =
        ((e.newConn env x m t st).conns d).localConnectionId → c = d := by
  intro c hc d hd hcd
  rcases Nat.lt_succ_iff_lt_or_eq.mp hc with hc | rfl <;>
    rcases Nat.lt_succ_iff_lt_or_eq.mp hd with hd | rfl
  · rw [newConn_conns_of_lt hc, newConn_conns_of_lt hd] at hcd
    exact h.connIdInj c hc d hd hcd
  · rw [newConn_conns_self, newConn_conns_of_lt hc] at hcd
    exact absurd (hx.id_lt h hid hc) (hcd ▸ UInt64.lt_irrefl _)
  · rw [newConn_conns_self, newConn_conns_of_lt hd] at hcd
    exact absurd (hx.id_lt h hid hd) (hcd ▸ UInt64.lt_irrefl _)
  · rfl

lemma newConn_handshakeKey : ∀ c d, (e.newConn env x m t st).LivePassive c →
    (e.newConn env x m t st).LivePassive d →
    ((e.newConn env x m t st).conns c).peerAddr = ((e.newConn env x m t st).conns d).peerAddr →
    ((e.newConn env x m t st).conns c).peerConnectionId =
      ((e.newConn env x m t st).conns d).peerConnectionId → c = d := by
  have hfresh : x.isInitiator = false → ∀ c, e.LivePassive c →
      ¬ (x.peerConnectionId = (e.conns c).peerConnectionId ∧ x.peerAddr = (e.conns c).peerAddr) := by
    intro hi c hc hk
    have := hx.fresh hi c hc
    rw [connKeyMatches_iff.mpr hk] at this
    cases this
  intro c d hc hd ha hp
  rw [newConn_livePassive hx] at hc hd
  rcases hc with ⟨rfl, hi⟩ | hc <;> rcases hd with ⟨rfl, hi'⟩ | hd
  · rfl
  · rw [newConn_conns_self, newConn_conns_of_lt hd.1.1] at ha hp
    exact absurd ⟨hp, ha⟩ (hfresh hi d hd)
  · rw [newConn_conns_self, newConn_conns_of_lt hc.1.1] at ha hp
    exact absurd ⟨hp.symm, ha.symm⟩ (hfresh hi' c hc)
  · rw [newConn_conns_of_lt hc.1.1, newConn_conns_of_lt hd.1.1] at ha hp
    exact h.handshakeKey c d hc hd ha hp

/-- **A new connection** keeps ownership. -/
lemma Own.newConn (hid : e.nextConnectionId ≠ 0) (capacity : ℕ) :
    Own env (e.newConn env x
      (timerNodeInit { e.timerManager with capacity } (.conn e.nconns)) t st) where
  connTable := newConn_connTable h hx hid
  handshakeTable := newConn_handshakeTable h hx
  streamTable := newConn_streamTable h hx
  connId := newConn_connId h hx hid
  connIdInj := newConn_connIdInj h hx hid
  handshakeKey := newConn_handshakeKey h hx
  streamKey := h.streamKey
  streamId := by
    intro s hs
    rw [Engine.connOf, newConn_streams, newConn_conns_of_lt (h.connOf_lt s hs.1)]
    exact h.streamId s hs
  nextId := newConn_forall (Q := fun y => ParityOk y y.nextStreamId) h.nextId hx.nextId
  initiator := newConn_forall (Q := fun y => y.state = .connecting → y.isInitiator = true)
    h.initiator (by simp [hx.state])
  inEngineMap := newConn_forall (Q := fun y => y.inEngineMap = !y.internalClosed) h.inEngineMap
    (by simp [hx.closed])
  inStreamMap := h.inStreamMap
  connOf_lt := fun s hs => Nat.lt_succ_of_lt (h.connOf_lt s hs)
  kcp := h.kcp
  owner := owner_nodeInit h.owner (newConn_live hx) capacity
  idle := idle_nodeInit h.idle (newConn_live hx) capacity
  valid := nodeInit_valid h.valid (h.idle (.conn e.nconns) fun hl => lt_irrefl _ hl.1) capacity
  batch := h.batch
  known := by
    intro ev hev o ho
    have hk := h.known ev hev o ho
    cases o with
    | conn c => exact Nat.lt_succ_of_lt hk
    | stream s => exact hk

end

end NewConn

/-! ### Streams -/

/-- What ownership needs to know about a new stream of `c`. -/
structure FreshStream (env : Env K) (e : Engine K) (c : ℕ) (x : Stream K) : Prop where
  closed : x.internalClosed = false
  inStreamMap : x.inStreamMap = false
  conn : x.conn = c
  kcp : x.kcp.isSome = true
  id : x.streamId ≠ 0
  parity : ParityOk (e.conns c) x.streamId ↔ x.isInitiator = true
  fresh : ∀ s, e.LiveIn c s → (e.streams s).streamId ≠ x.streamId

/-- The lookup among the streams of a connection. -/
lemma connGetStreamById_eq_none (h : Own env e) {c : ℕ} (hc : c < e.nconns) {id : UInt32}
    (hn : connGetStreamById env e c id = none) (s : ℕ) (hs : e.LiveIn c s) :
    (e.streams s).streamId ≠ id := by
  have hk : ∀ q, e.LiveIn c q → streamCmp e id q = true →
      e.streamHash env q = env.hash32 (u32Memory id) := by
    intro q _ hq
    rw [Engine.streamHash, beq_iff_eq.mp hq]
  have := ((h.streamTable c hc).find_eq_none hk).mp hn s hs
  rw [streamCmp, beq_eq_false_iff_ne] at this
  exact this.symm

lemma NewStream.fresh {op : Call} {t c : ℕ} {x : Stream K} {latest : Option UInt32}
    (h : Own env e) (hc : c < e.nconns) (hx : NewStream env op e t c x latest) :
    FreshStream env e c x := by
  cases hx with
  | «local» hop hcfg hid hpar hfresh hnow hk =>
      refine ⟨rfl, rfl, rfl, rfl, hid, ?_, connGetStreamById_eq_none h hc hfresh⟩
      exact ⟨fun _ => rfl, fun _ => hpar⟩
  | peer hop hd hcfg hid hpar hnew hcb hfresh hnow hk =>
      refine ⟨rfl, rfl, rfl, rfl, hid, ?_, connGetStreamById_eq_none h hc hfresh⟩
      exact ⟨fun hp => absurd hp hpar, fun hi => by cases hi⟩

/-- The log of a new stream is about the handle that it takes. -/
lemma Own.known_newStream (h : Own env e) {e' : Engine K} {evs : List Event}
    (hc : e'.nconns = e.nconns) (hs : e'.nstreams = e.nstreams + 1)
    (ht : e'.trace = evs ++ e.trace)
    (hsub : ∀ ev ∈ evs, ev.subject = some (.stream e.nstreams)) :
    ∀ ev ∈ e'.trace, ∀ o, ev.subject = some o → e'.Known o := by
  intro ev hev o ho
  rw [ht] at hev
  rcases List.mem_append.mp hev with hev | hev
  · rw [hsub ev hev, Option.some.injEq] at ho
    subst ho
    exact (Nat.lt_succ_self e.nstreams).trans_eq hs.symm
  · have hk := h.known ev hev o ho
    cases o with
    | conn d => exact (show d < e.nconns from hk).trans_eq hc.symm
    | stream s => exact (Nat.lt_succ_of_lt hk).trans_eq hs.symm

section NewStream

variable {x : Stream K} {c : ℕ} {evs : List Event} {m : TimerManager Owner} {t : ℕ}
  {st : EngineStats} {latest : Option UInt32}

lemma connAddStream_placeStream (hx : FreshStream env e c x) (hl : e.LiveConn c) :
    (connAddStream env (e.placeStream x evs m t st) c e.nstreams).noteLatest c latest =
      e.newStream env c x evs m t st latest := by
  have hself : (e.placeStream x evs m t st).streams e.nstreams = x := by
    simp [Engine.placeStream]
  have hconn : (e.placeStream x evs m t st).conns c = e.conns c := rfl
  rw [connAddStream, hself, hconn, if_neg (by simp [hx.closed, hx.inStreamMap, hl.2])]
  have hcmp : streamCmp (e.placeStream x evs m t st) x.streamId =
      fun s => x.streamId == (Function.update e.streams e.nstreams x s).streamId := rfl
  rw [hcmp]
  cases latest with
  | none =>
      simp [Engine.newStream, Engine.noteLatest, Engine.setConn, Engine.setStream,
        Engine.placeStream, Conn.enter]
  | some id =>
      simp [Engine.newStream, Engine.noteLatest, Engine.setConn, Engine.setStream,
        Engine.placeStream, Conn.enter]

@[simp] lemma newStream_nconns : (e.newStream env c x evs m t st latest).nconns = e.nconns := rfl
@[simp] lemma newStream_nstreams :
    (e.newStream env c x evs m t st latest).nstreams = e.nstreams + 1 := rfl

lemma newStream_conns (d : ℕ) :
    (e.newStream env c x evs m t st latest).conns d = { e.conns d with
      streamMap := if d = c then (Conn.enter env e c x latest).streamMap
        else (e.conns d).streamMap
      streamCount := if d = c then (e.conns d).streamCount + 1 else (e.conns d).streamCount
      latestPeerStreamId := if d = c then latest.getD (e.conns d).latestPeerStreamId
        else (e.conns d).latestPeerStreamId
      peerStreamIdInitialized :=
        if d = c then latest.isSome || (e.conns d).peerStreamIdInitialized
        else (e.conns d).peerStreamIdInitialized } := by
  by_cases h : d = c
  · subst h; simp [Engine.newStream, Conn.enter]
  · simp [Engine.newStream, h]

@[simp] lemma newStream_streams_self :
    (e.newStream env c x evs m t st latest).streams e.nstreams =
      { x with inStreamMap := true } := by
  simp [Engine.newStream]

lemma newStream_streams_of_lt {s : ℕ} (hs : s < e.nstreams) :
    (e.newStream env c x evs m t st latest).streams s = e.streams s := by
  simp [Engine.newStream, Nat.ne_of_lt hs]

lemma newStream_liveConn (d : ℕ) :
    (e.newStream env c x evs m t st latest).LiveConn d ↔ e.LiveConn d := by
  rw [Engine.LiveConn, Engine.LiveConn, newStream_conns, newStream_nconns]

lemma newStream_livePassive (d : ℕ) :
    (e.newStream env c x evs m t st latest).LivePassive d ↔ e.LivePassive d := by
  rw [Engine.LivePassive, Engine.LivePassive, newStream_liveConn, newStream_conns]

lemma newStream_liveStream (hx : FreshStream env e c x) (s : ℕ) :
    (e.newStream env c x evs m t st latest).LiveStream s ↔ s = e.nstreams ∨ e.LiveStream s := by
  rw [Engine.LiveStream, Engine.LiveStream]
  by_cases hs : s = e.nstreams
  · subst hs; simp [hx.closed]
  · simp only [Engine.newStream, hs, ne_eq, not_false_eq_true, Function.update_of_ne, false_or]
    exact and_congr_left fun _ => by omega

lemma newStream_live (hx : FreshStream env e c x) (o : Owner) :
    (e.newStream env c x evs m t st latest).Live o ↔ o = .stream e.nstreams ∨ e.Live o := by
  cases o with
  | conn d => simp [newStream_liveConn]
  | stream s => simp [newStream_liveStream hx]

lemma newStream_liveIn (hx : FreshStream env e c x) (d s : ℕ) :
    (e.newStream env c x evs m t st latest).LiveIn d s ↔
      (s = e.nstreams ∧ d = c) ∨ e.LiveIn d s := by
  rw [Engine.LiveIn, Engine.LiveIn, newStream_liveStream hx]
  by_cases hs : s = e.nstreams
  · subst hs
    have hdead : ¬ e.LiveIn d e.nstreams := fun hl => lt_irrefl _ hl.1.1
    rw [Engine.LiveIn] at hdead
    simp [hx.conn, hdead, @eq_comm ℕ d c]
  · simp [hs, Engine.newStream]

/-- What every stream satisfies, when the new one does. -/
lemma newStream_forall {Q : Stream K → Prop} (h : ∀ s < e.nstreams, Q (e.streams s))
    (hx : Q { x with inStreamMap := true }) :
    ∀ s < (e.newStream env c x evs m t st latest).nstreams,
      Q ((e.newStream env c x evs m t st latest).streams s) := by
  intro s hs
  rcases Nat.lt_succ_iff_lt_or_eq.mp hs with hlt | rfl
  · rw [newStream_streams_of_lt hlt]
    exact h s hlt
  · rw [newStream_streams_self]
    exact hx

section

variable (h : Own env e) (hx : FreshStream env e c x)

include h hx

/-- The table of a connection that gets the stream, and of one that does not. -/
lemma newStream_streamTable : ∀ d < e.nconns,
    ((e.newStream env c x evs m t st latest).conns d).streamMap.Holds
      ((e.newStream env c x evs m t st latest).LiveIn d)
      ((e.newStream env c x evs m t st latest).streamHash env) := by
  intro d hd
  have ht : (e.conns d).streamMap.Holds (e.LiveIn d)
      ((e.newStream env c x evs m t st latest).streamHash env) :=
    (h.streamTable d hd).congr (fun _ => Iff.rfl) fun s hs => by
      rw [Engine.streamHash, Engine.streamHash, newStream_streams_of_lt hs.1.1]
  by_cases hdc : d = c
  · subst hdc
    have hhash : env.hash32 (u32Memory x.streamId) =
        (e.newStream env d x evs m t st latest).streamHash env e.nstreams := by
      rw [Engine.streamHash, newStream_streams_self]
    have hmap : ((e.newStream env d x evs m t st latest).conns d).streamMap =
        htbAdd (e.conns d).streamMap e.nstreams
          (fun s => x.streamId == (Function.update e.streams e.nstreams x s).streamId)
          ((e.newStream env d x evs m t st latest).streamHash env e.nstreams) := by
      rw [← hhash]
      simp [newStream_conns, Conn.enter]
    rw [hmap]
    refine (ht.add (fun hl => lt_irrefl _ hl.1.1) ?_).congr (fun s => ?_) fun _ _ => rfl
    · -- the id is not in the table
      refine (ht.find_eq_none fun s hs hk => ?_).mpr fun s hs => ?_
      · rw [Function.update_of_ne (Nat.ne_of_lt hs.1.1), beq_iff_eq] at hk
        rw [← hhash, Engine.streamHash, newStream_streams_of_lt hs.1.1, hk]
      · rw [Function.update_of_ne (Nat.ne_of_lt hs.1.1), beq_eq_false_iff_ne]
        exact (hx.fresh s hs).symm
    · rw [newStream_liveIn hx]
      simp
  · have hmap : ((e.newStream env c x evs m t st latest).conns d).streamMap =
        (e.conns d).streamMap := by simp [newStream_conns, hdc]
    rw [hmap]
    refine ht.congr (fun s => ?_) fun _ _ => rfl
    rw [newStream_liveIn hx]
    simp [hdc]

lemma newStream_streamKey : ∀ s s', (e.newStream env c x evs m t st latest).LiveStream s →
    (e.newStream env c x evs m t st latest).LiveStream s' →
    ((e.newStream env c x evs m t st latest).streams s).conn =
      ((e.newStream env c x evs m t st latest).streams s').conn →
    ((e.newStream env c x evs m t st latest).streams s).streamId =
      ((e.newStream env c x evs m t st latest).streams s').streamId → s = s' := by
  intro s s' hs hs' hcc hii
  rw [newStream_liveStream hx] at hs hs'
  rcases hs with rfl | hs <;> rcases hs' with rfl | hs'
  · rfl
  · rw [newStream_streams_self, newStream_streams_of_lt hs'.1] at hcc hii
    exact absurd hii.symm (hx.fresh s' ⟨hs', hcc.symm.trans hx.conn⟩)
  · rw [newStream_streams_self, newStream_streams_of_lt hs.1] at hcc hii
    exact absurd hii (hx.fresh s ⟨hs, hcc.trans hx.conn⟩)
  · rw [newStream_streams_of_lt hs.1, newStream_streams_of_lt hs'.1] at hcc hii
    exact h.streamKey s s' hs hs' hcc hii

lemma newStream_streamId : ∀ s, (e.newStream env c x evs m t st latest).LiveStream s →
    ((e.newStream env c x evs m t st latest).streams s).streamId ≠ 0 ∧
      (ParityOk ((e.newStream env c x evs m t st latest).connOf s)
          ((e.newStream env c x evs m t st latest).streams s).streamId ↔
        ((e.newStream env c x evs m t st latest).streams s).isInitiator = true) := by
  intro s hs
  rw [newStream_liveStream hx] at hs
  rcases hs with rfl | hs
  · rw [Engine.connOf, newStream_streams_self, ParityOk, newStream_conns, hx.conn]
    exact ⟨hx.id, hx.parity⟩
  · rw [Engine.connOf, newStream_streams_of_lt hs.1, ParityOk, newStream_conns]
    exact h.streamId s hs

lemma newStream_batch : (e.newStream env c x evs m t st latest).BatchOk := by
  refine ⟨h.batch.1, fun s hs => ?_⟩
  have hs' := h.batch.2 s hs
  rw [newStream_liveStream hx, newStream_streams_of_lt hs'.1.1]
  exact ⟨Or.inr hs'.1, hs'.2⟩

/-- **A new stream** keeps ownership. -/
lemma Own.newStream (hc : c < e.nconns) {capacity : ℕ} {mv : TimerMove}
    (hm : mv.Did env (timerNodeInit { e.timerManager with capacity } (.stream e.nstreams))
      (.stream e.nstreams) m)
    (hsub : ∀ ev ∈ evs, ev.subject = some (.stream e.nstreams)) :
    Own env (e.newStream env c x evs m t st latest) where
  connTable := h.connTable.congr (fun d => (newStream_liveConn d).symm) fun d _ => by
    rw [Engine.connHash, Engine.connHash, newStream_conns]
  handshakeTable := h.handshakeTable.congr (fun d => (newStream_livePassive d).symm) fun d _ => by
    rw [Engine.handshakeHash, Engine.handshakeHash, newStream_conns]
  streamTable := newStream_streamTable h hx
  connId := fun d hd => by
    rw [newStream_conns]
    exact h.connId d hd
  connIdInj := fun d hd d' hd' hdd => by
    rw [newStream_conns, newStream_conns] at hdd
    exact h.connIdInj d hd d' hd' hdd
  handshakeKey := fun d d' hd hd' ha hp => by
    rw [newStream_livePassive] at hd hd'
    rw [newStream_conns, newStream_conns] at ha hp
    exact h.handshakeKey d d' hd hd' ha hp
  streamKey := newStream_streamKey h hx
  streamId := newStream_streamId h hx
  nextId := fun d hd => by
    rw [ParityOk, newStream_conns]
    exact h.nextId d hd
  initiator := fun d hd => by
    rw [newStream_conns]
    exact h.initiator d hd
  inEngineMap := fun d hd => by
    rw [newStream_conns]
    exact h.inEngineMap d hd
  inStreamMap := newStream_forall (Q := fun y => y.inStreamMap = !y.internalClosed) h.inStreamMap
    (by simp [hx.closed])
  connOf_lt := newStream_forall (Q := fun y => y.conn < e.nconns) h.connOf_lt
    (by simpa [hx.conn] using hc)
  kcp := newStream_forall (Q := fun y => y.kcp.isSome = !y.internalClosed) h.kcp
    (by simp [hx.closed, hx.kcp])
  owner := fun o => (hm.owner o).symm ▸ owner_nodeInit h.owner (newStream_live hx) capacity o
  idle := by
    intro o ho
    have hne : o ≠ .stream e.nstreams := by
      rintro rfl
      exact ho ((newStream_live hx _).mpr (Or.inl rfl))
    show (m.node o).state = .idle
    rw [(hm.other hne).state]
    exact idle_nodeInit h.idle (newStream_live hx) capacity o ho
  valid := hm.valid (nodeInit_valid h.valid
    (h.idle (.stream e.nstreams) fun hl => lt_irrefl _ hl.1) capacity)
  batch := newStream_batch h hx
  known := h.known_newStream rfl rfl rfl hsub

end

end NewStream

/-! ### A stream that could not be registered -/

/-- **A failed creation** keeps ownership: its handle is dead from the start. -/
lemma Own.deadStream (h : Own env e) {x : Stream K} {evs : List Event} {t : ℕ}
    (hc : x.conn < e.nconns) (hcl : x.internalClosed = true) (hk : x.kcp = none)
    (hm : x.inStreamMap = false)
    (hsub : ∀ ev ∈ evs, ev.subject = some (.stream e.nstreams)) :
    Own env (e.deadStream x evs t) := by
  set e' : Engine K := e.deadStream x evs t with he'
  have hself : e'.streams e.nstreams = x := by simp [he', Engine.deadStream]
  have hof : ∀ {s}, s < e.nstreams → e'.streams s = e.streams s := by
    intro s hs
    simp [he', Engine.deadStream, Nat.ne_of_lt hs]
  have hlive : ∀ s, e'.LiveStream s ↔ e.LiveStream s := by
    intro s
    by_cases hs : s = e.nstreams
    · subst hs
      simp [Engine.LiveStream, hself, hcl]
    · rw [Engine.LiveStream, Engine.LiveStream]
      simp only [he', Engine.deadStream, hs, ne_eq, not_false_eq_true, Function.update_of_ne]
      exact and_congr_left fun _ => by omega
  have hlt : ∀ {s}, s < e'.nstreams → s ≠ e.nstreams → s < e.nstreams := fun hs hne =>
    lt_of_le_of_ne (Nat.lt_succ_iff.mp hs) hne
  have hliveO : ∀ o, e'.Live o ↔ e.Live o := by
    intro o
    cases o with
    | conn c => exact Iff.rfl
    | stream s => exact hlive s
  refine
    { connTable := h.connTable, handshakeTable := h.handshakeTable, streamTable := ?_
      connId := h.connId, connIdInj := h.connIdInj, handshakeKey := h.handshakeKey
      streamKey := ?_, streamId := ?_, nextId := h.nextId, initiator := h.initiator
      inEngineMap := h.inEngineMap, inStreamMap := ?_, connOf_lt := ?_, kcp := ?_
      owner := fun o => (h.owner o).trans (hliveO o).symm
      idle := fun o ho => h.idle o fun hl => ho ((hliveO o).mpr hl), valid := h.valid
      batch := ?_, known := h.known_newStream rfl rfl rfl hsub }
  · intro c hc
    refine (h.streamTable c hc).congr (fun s => ?_) fun s hs => ?_
    · rw [Engine.LiveIn, Engine.LiveIn, hlive]
      refine and_congr_right fun hl => ?_
      rw [hof hl.1]
    · rw [Engine.streamHash, Engine.streamHash, hof hs.1.1]
  · intro s s' hs hs' hcc hii
    rw [hlive] at hs hs'
    rw [hof hs.1, hof hs'.1] at hcc hii
    exact h.streamKey s s' hs hs' hcc hii
  · intro s hs
    rw [hlive] at hs
    rw [Engine.connOf, hof hs.1]
    exact h.streamId s hs
  · intro s hs
    by_cases hsn : s = e.nstreams
    · rw [hsn, hself, hm, hcl]; rfl
    · rw [hof (hlt hs hsn)]
      exact h.inStreamMap s (hlt hs hsn)
  · intro s hs
    by_cases hsn : s = e.nstreams
    · rw [hsn, hself]; exact hc
    · rw [hof (hlt hs hsn)]
      exact h.connOf_lt s (hlt hs hsn)
  · intro s hs
    by_cases hsn : s = e.nstreams
    · rw [hsn, hself, hk, hcl]; rfl
    · rw [hof (hlt hs hsn)]
      exact h.kcp s (hlt hs hsn)
  · refine ⟨h.batch.1, fun s hs => ?_⟩
    have hs' := h.batch.2 s hs
    rw [hlive, hof hs'.1.1]
    exact hs'

end KcpMux
