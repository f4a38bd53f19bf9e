import KcpMux.Protocol.RoundTrip
import KcpMux.Safety.StateMachine

/-!
Destinations.

Every datagram but `CONN_CONNECT` has to name the connection it is for.  The engine keeps to
that as long as no `CONN_CLOSE` reaches a connection that does not know its peer's id yet:
`kcpmux_protocol_send_conn_close_ack`, unlike its sibling for `CONN_CLOSE`, does not look
whether there is one.
-/

namespace KcpMux

variable {K : Type}

/-- The datagram names a destination, unless it opens a connection. -/
def Routable (d : Bytes) : Prop :=
  d.head? ≠ some msgConnConnect → readU64 (Buf.of d) 1 ≠ 0

/-- The call is not a `CONN_CLOSE` for a connection that does not know its peer. -/
def NoEarlyClose (e : Engine K) (op : Call) : Prop :=
  ∀ d c, e.LiveConn c → op = .input d (e.conns c).peerAddr →
    ConnCloseDatagram d (e.conns c).localConnectionId → (e.conns c).peerConnectionId ≠ 0

variable {env : Env K} {op : Call} {e e' : Engine K} {c s : ℕ} {x : Conn} {log : List Event}

/-! ### Headers -/

/-- The destination of a datagram with a common header. -/
lemma routable_of_common {d : Bytes} (type : UInt8) (hd : ∃ rest, d = writeCommon type x ++ rest)
    (ht : type ≠ msgConnConnect) (hp : x.peerConnectionId ≠ 0) : Routable d := by
  intro _
  obtain ⟨rest, hd⟩ := hd
  have h := (readsCommon_append hd).dest
  rw [if_neg ht] at h
  rwa [h]

lemma routable_connConnectAckMsg (x : Conn) (result : UInt8) (hp : x.peerConnectionId ≠ 0) :
    Routable (connConnectAckMsg x result) :=
  routable_of_common msgConnConnectAck
    ⟨_, by rw [connConnectAckMsg]; simp only [List.append_assoc]; rfl⟩ (by decide) hp

/-- A connected connection knows its peer. -/
lemma ConnInv.peer_ne (h : ConnInv x log) (hs : x.state = .connected) :
    x.peerConnectionId ≠ 0 := by
  cases hi : x.isInitiator with
  | false => exact h.passive hi
  | true =>
      exact (h.initiator hi).mpr (entersConnected_of_stateOf (h.state.symm.trans hs))

/-! ### Peers of streams -/

/-- The connection of a live stream knows its peer. -/
def PeersKnown (e : Engine K) : Prop :=
  ∀ s, e.LiveStream s → (e.connOf s).peerConnectionId ≠ 0

lemma Move.peer_ne (hm : Move env op e e') (h : Steady env e) (hp : e.EachConn ConnHist)
    (hc : c < e.nconns) (hne : (e.conns c).peerConnectionId ≠ 0) :
    (e'.conns c).peerConnectionId ≠ 0 := by
  obtain ⟨evs, hv, -⟩ := hm.connViewed h hc
  rwa [hv.peer_eq (hp c hc).1 hne]

lemma Move.peersKnown (hm : Move env op e e') (h : Steady env e) (hp : e.EachConn ConnHist)
    (hk : PeersKnown e) : PeersKnown e' := by
  intro s hs
  by_cases hlt : s < e.nstreams
  · have hl : e.LiveStream s := (hm.extends h).liveStream hlt hs
    have hconn : (e'.streams s).conn = (e.streams s).conn :=
      congrArg (fun i => i.2.2) ((hm.extends h).stream s hlt).1
    rw [Engine.connOf, hconn]
    exact hm.peer_ne h hp (h.connOf_lt s hlt) (hk s hl)
  · rcases hm.nstreams h with hn | ⟨evs, hb, hn, -⟩
    · exact absurd (hn ▸ hs.1) hlt
    · obtain rfl : s = e.nstreams := by have := hs.1; omega
      rw [Engine.connOf]
      have hcl := hs.2
      generalize e'.streams e.nstreams = x at hb hcl ⊢
      cases hb with
      | live hl hst hx =>
          have hconn := (hx.fresh h.toOwn hl.1).conn
          show (e'.conns _).peerConnectionId ≠ 0
          rw [hconn]
          exact hm.peer_ne h hp hl.1 ((hp _ hl.1).1.peer_ne hst)
      | dead _ hx => exact absurd (hx.1.symm.trans hcl) (by decide)

/-! ### Datagrams -/

lemma ConnSend.routable {d : Bytes} (h : ConnSend op x d) (hi : ConnInv x log)
    (hclose : ∀ d, op = .input d x.peerAddr → ConnCloseDatagram d x.localConnectionId →
      x.peerConnectionId ≠ 0) : Routable d := by
  cases h with
  | connect => exact fun h => absurd rfl h
  | accept hini => exact routable_connConnectAckMsg _ _ (hi.passive hini)
  | reject hini => exact routable_connConnectAckMsg _ _ (hi.passive hini)
  | ack hini => exact routable_connConnectAckMsg _ _ (hi.passive hini)
  | version hini => exact routable_connConnectAckMsg _ _ (hi.passive hini)
  | keepalive hs hy =>
      exact routable_of_common msgConnKeepalive
        ⟨_, by rw [connKeepaliveMsg]; simp only [List.append_assoc]; rfl⟩ (by decide)
        (hy ▸ hi.peer_ne hs)
  | close hp => exact routable_of_common msgConnClose ⟨_, rfl⟩ (by decide) hp
  | closeAck hop hd => exact routable_of_common msgConnCloseAck ⟨_, rfl⟩ (by decide) (hclose _ hop hd)

/-- Every datagram in the log of an object is routable. -/
def AllRoutable (log : List Event) : Prop := ∀ o addr d ok, .write o addr d ok ∈ log → Routable d

lemma StreamWrite.routable {id : UInt32} {o : Owner} {addr : Addr} {d : Bytes} {ok : Bool}
    (h : StreamWrite s x id (.write o addr d ok)) (hp : x.peerConnectionId ≠ 0) : Routable d := by
  obtain ⟨-, -, type, rest, ht, rfl⟩ := h
  refine routable_of_common type ⟨writeU32 id ++ rest, ?_⟩ ?_ hp
  · rw [streamHeader, List.append_assoc]
  · rcases ht with rfl | rfl | rfl <;> decide

/-- What holds at any point of a call that starts from `e`. -/
structure Routes (op : Call) (e e1 : Engine K) : Prop where
  hist : e1.EachConn ConnHist
  peers : PeersKnown e1
  conns : e1.EachConn fun _ _ log => AllRoutable log
  streams : e1.EachStream fun _ _ log => AllRoutable log
  ext : Extends e e1
  known : ∀ c < e.nconns, (e.conns c).peerConnectionId ≠ 0 → (e1.conns c).peerConnectionId ≠ 0
  nconns : e1.nconns = e.nconns ∨ op.Connects

lemma Routes.move {e1 e2 : Engine K} (h : Routes op e e1) (hs : Steady env e1)
    (hm : Move env op e1 e2) (hg : NoEarlyClose e op) : Routes op e e2 where
  hist := hm.connHist hs h.hist
  peers := hm.peersKnown hs h.hist h.peers
  conns := by
    refine hm.eachConn hs (fun _ _ _ _ _ _ _ hw => by cases hw) (fun c x evs hc hv hr => ?_) h.conns
    intro o addr d ok hw
    rcases List.mem_append.mp hw with hw | hw
    · refine (hv.write _ hw).2.2.routable (h.hist c hc).1 fun d hop hd => ?_
      -- a `CONN_CLOSE` creates no connection: this one was there when the call began
      have hlt : c < e.nconns := by
        rcases h.nconns with hn | hconn
        · omega
        · rw [hop, Call.Connects, hd.type] at hconn
          exact absurd hconn (by decide)
      obtain ⟨hini, hloc, haddr⟩ : (e1.conns c).isInitiator = (e.conns c).isInitiator ∧
          (e1.conns c).localConnectionId = (e.conns c).localConnectionId ∧
          (e1.conns c).peerAddr = (e.conns c).peerAddr := by
        simpa [Conn.ident] using (h.ext.conn c hlt).1
      exact h.known c hlt (hg d c (h.ext.liveConn hlt (hv.live_of_write hw)) (haddr ▸ hop)
        (hloc ▸ hd))
    · exact hr o addr d ok hw
  streams := by
    refine hm.eachStream hs (fun x evs hb o addr d ok hw => ?_) (fun s x evs _ hv hr => ?_) h.streams
    · exact absurd hw hb.not_write
    · intro o addr d ok hw
      rcases List.mem_append.mp hw with hw | hw
      · exact (hv.write _ hw).routable (h.peers s (hv.live_of_mem hw (by simp)))
      · exact hr o addr d ok hw
  ext := h.ext.trans (hm.extends hs)
  known := fun c hc hp => hm.peer_ne hs h.hist (hc.trans_le h.ext.nconns) (h.known c hc hp)
  nconns := by
    rcases hm.nconns hs with hn | ⟨t, x, hx, -, -, -⟩
    · rw [hn]
      exact h.nconns
    · exact Or.inr hx.connects

/-- What holds between two calls. -/
structure AllRouted (e : Engine K) : Prop where
  hist : e.EachConn ConnHist
  peers : PeersKnown e
  conns : e.EachConn fun _ _ log => AllRoutable log
  streams : e.EachStream fun _ _ log => AllRoutable log

/-- **Destinations.**  In every run in which no `CONN_CLOSE` reaches a connection that does not
know its peer's id, every datagram but `CONN_CONNECT` names a destination. -/
theorem destinations_routable (h : ReachableWhen env NoEarlyClose e) (o : Owner) (addr : Addr)
    (d : Bytes) (ok : Bool) (hw : .write o addr d ok ∈ e.trace) : Routable d := by
  have hall : AllRouted e := by
    clear hw
    induction h with
    | create hc =>
        obtain ⟨cc, sc, id, -, rfl⟩ := engineCreate_eq hc
        exact ⟨fun c hc => absurd hc (Nat.not_lt_zero c),
          fun s hs => absurd hs.1 (Nat.not_lt_zero s), fun c hc => absurd hc (Nat.not_lt_zero c),
          fun s hs => absurd hs (Nat.not_lt_zero s)⟩
    | @call e hr op hv hg ih =>
        have hb := hr.reachable.boundary
        have h0 : Routes op e e :=
          ⟨ih.hist, ih.peers, ih.conns, ih.streams, .refl e, fun _ _ hp => hp, Or.inl rfl⟩
        have h1 : Routes op e (op.exec env e) := (hb.exec hv).1.induct hb.toSteady h0
          fun e1 e2 hs hm hr => hr.move hs hm hg
        exact ⟨h1.hist, h1.peers, h1.conns, h1.streams⟩
  have hk := h.reachable.boundary.known _ hw o rfl
  cases o with
  | conn c => exact hall.conns c hk _ _ _ _ (mem_logOf.mpr ⟨hw, rfl⟩)
  | stream s => exact hall.streams s hk _ _ _ _ (mem_logOf.mpr ⟨hw, rfl⟩)

/-- The acknowledgement of a `CONN_CONNECT`. -/
theorem destinations_routable_accepted :
    Routable [0x82, 0, 0, 0, 0, 0, 0, 0, 7, 0, 0, 0, 0, 0, 0, 0, 1, version, 0, 0, 0] := by
  have hr : ReachableWhen (idealHost 0 0) NoEarlyClose
      ((Call.input plainConnect [10]).exec (idealHost 0 0) idealEngine) := by
    refine .call (.create (idealEngine_create 0 0)) _ trivial fun d c _ hop hd => ?_
    obtain ⟨rfl, -⟩ := Call.input.inj hop
    exact absurd hd.type (by decide)
  exact destinations_routable hr (.conn 0) [10] _ true (by decide +kernel)

/-- A `CONN_CLOSE` for the first connection of an engine, from its peer. -/
def earlyClose : Bytes := [0x84, 0, 0, 0, 0, 0, 0, 0, 1, 0]

/-- The `CONN_CLOSE` arrives while the connection still waits for its `CONN_CONNECT_ACK`. -/
def closedEarly : Engine Unit :=
  (Call.input earlyClose [10]).exec (idealHost 0 0)
    ((Call.connConnect [10] none [] none).exec (idealHost 0 0) idealEngine)

/-- The answer has the destination zero. -/
theorem destinations_routable_early_close :
    Reachable (idealHost 0 0) closedEarly ∧
      .write (.conn 0) [10] [0x85, 0, 0, 0, 0, 0, 0, 0, 0, 0] true ∈ closedEarly.trace ∧
      ¬ Routable [0x85, 0, 0, 0, 0, 0, 0, 0, 0, 0] := by
  refine ⟨?_, ?_, ?_⟩
  · exact .call (.call (idealEngine_reachable 0 0) (.connConnect [10] none [] none) trivial)
      (.input earlyClose [10]) trivial
  · decide +kernel
  · intro h
    exact h (by decide) (by decide)

end KcpMux
