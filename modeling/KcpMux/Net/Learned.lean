import KcpMux.Net.Sent
import KcpMux.Net.Session
import KcpMux.Protocol.RoundTrip

/-!
What an engine has learned from its peer.

An engine that is handed datagrams of a set `D` only, from one address, knows of its peer what
these datagrams say:

* `Learned`: a connection has its peer's id and extension from one datagram of `D`;
* `FedIn`: what KCP was given is the payload of a datagram of `D` for this stream;
* `SessionWhen.learned`, `SessionWhen.fed`: the same of two engines, where `D` is what the other
  one has sent;
* `Reachable.ack_origin`, `Reachable.connect_origin`, `Reachable.payload_origin`: who has sent
  such a datagram.
-/

namespace KcpMux

variable {K L : Type} {env : Env K} {op : Call} {e e' : Engine K} {c s t : ℕ} {x x' : Conn}
  {log evs : List Event} {d : Bytes} {D D' : Set Bytes} {peer : Addr}

/-- The calls that hand the engine a datagram hand it one of `D`, from `peer`. -/
def Call.Hands (D : Set Bytes) (peer : Addr) (op : Call) : Prop :=
  ∀ d addr, op = .input d addr → d ∈ D ∧ addr = peer

/-! ### Connections -/

/-- What a connection knows of its peer is what a datagram of `D` said. -/
structure Learned (D : Set Bytes) (peer : Addr) (x : Conn) : Prop where
  initiator : x.isInitiator = true → x.peerConnectionId ≠ 0 → x.peerAddr = peer ∧
    ∃ d ∈ D, AckDatagram d x.localConnectionId x.peerConnectionId x.peerProtoExt.data
  unknown : x.isInitiator = true → x.peerConnectionId = 0 → x.peerProtoExt = .empty
  passive : x.isInitiator = false → x.peerAddr = peer ∧
    ∃ d ∈ D, ConnectDatagram d x.peerConnectionId x.peerProtoExt.data

lemma Learned.mono (h : Learned D peer x) (hD : D ⊆ D') : Learned D' peer x where
  initiator hi hp := by
    obtain ⟨ha, d, hd, hack⟩ := h.initiator hi hp
    exact ⟨ha, d, hD hd, hack⟩
  unknown := h.unknown
  passive hi := by
    obtain ⟨ha, d, hd, hcon⟩ := h.passive hi
    exact ⟨ha, d, hD hd, hcon⟩

/-- A change of what was not learned. -/
lemma Learned.congr (h : Learned D peer x) (hi : x'.isInitiator = x.isInitiator)
    (hl : x'.localConnectionId = x.localConnectionId)
    (hp : x'.peerConnectionId = x.peerConnectionId) (ha : x'.peerAddr = x.peerAddr)
    (he : x'.peerProtoExt = x.peerProtoExt) : Learned D peer x' := by
  obtain ⟨h1, h2, h3⟩ := h
  rw [← hi] at h1 h2 h3
  rw [← hp, ← ha, ← he] at h1 h3
  rw [← hp, ← he] at h2
  rw [← hl] at h1
  exact ⟨h1, h2, h3⟩

lemma AckDatagram.ext_length {dest id : UInt64} {ext : Bytes} (h : AckDatagram d dest id ext) :
    ext.length ≤ protoExtMaxLen := by
  rw [h.ext_eq]
  simpa [Buf.slice] using h.ext_le

lemma ConnectDatagram.ext_length {id : UInt64} {ext : Bytes} (h : ConnectDatagram d id ext) :
    ext.length ≤ protoExtMaxLen := by
  rw [h.ext_eq]
  simpa [Buf.slice] using h.ext_le

lemma NewConn.learned (hx : NewConn env op e t x) (hop : op.Hands D peer) :
    Learned D peer { x with inEngineMap := true } := by
  cases hx with
  | initiator => exact ⟨fun _ h => absurd rfl h, fun _ _ => rfl, fun h => by cases h⟩
  | @passive addr d ext id prepared next now recv ho hd =>
      obtain ⟨hD, rfl⟩ := hop d addr ho
      refine ⟨fun h => (by cases h), fun h => (by cases h), fun _ => ⟨rfl, d, hD, ?_⟩⟩
      show ConnectDatagram d id (ProtoExt.clip ext).data
      rw [ProtoExt.clip_data hd.ext_length]
      exact hd

lemma ConnView.learned (hv : ConnView env op e c x evs) (hh : ConnHist c (e.conns c) log)
    (hop : op.Hands D peer) (hl : Learned D peer (e.conns c)) : Learned D peer x := by
  cases hv with
  | trans hlive ht h =>
      cases h with
      | @established now d id ext hnow hs ho hd =>
          obtain ⟨hD, haddr⟩ := hop d _ ho
          have hi : (e.conns c).isInitiator = true := hh.1.connecting hs
          -- it has not been connected before, so it knew nothing of the peer
          have hzero : (e.conns c).peerConnectionId = 0 := by
            by_contra hne
            have hpos := (hh.1.initiator hi).mp hne
            have hnone := hh.1.early (Or.inr hs)
            omega
          have hext : (if ext = [] then (e.conns c).peerProtoExt else .clip ext).data = ext := by
            split_ifs with hnil
            · rw [hl.unknown hi hzero, hnil]
              rfl
            · exact ProtoExt.clip_data hd.ext_length
          refine ⟨fun _ _ => ⟨haddr, d, hD, ?_⟩, fun _ h => absurd h hd.source_ne,
            fun h => absurd (hi.symm.trans h) (by decide)⟩
          show AckDatagram d _ id
            (if ext = [] then (e.conns c).peerProtoExt else .clip ext).data
          rw [hext]
          exact hd
      | _ => exact hl.congr rfl rfl rfl rfl rfl
  | last hlive h =>
      cases h with
      | reject => exact hl.congr rfl rfl rfl rfl rfl
  | _ => exact hl.congr rfl rfl rfl rfl rfl

/-- **What a call teaches the connections.** -/
lemma Reachable.learned_exec (h : Reachable env e) (hv : op.Valid e) (hop : op.Hands D peer)
    (hl : e.EachConn fun _ x _ => Learned D peer x) :
    (op.exec env e).EachConn fun _ x _ => Learned D peer x := by
  have hb := h.boundary
  have key : (op.exec env e).EachConn fun c x log => ConnHist c x log ∧ Learned D peer x := by
    refine (hb.exec hv).1.induct hb.toSteady (fun c hc => ⟨h.connHist c hc, hl c hc⟩)
      fun e1 e2 hs hm hi => hm.eachConn hs
        (fun t x hx => ⟨⟨hx.path, fun _ _ => rfl⟩, hx.learned hop⟩)
        (fun c x evs hc hv hi => ⟨⟨hv.path hi.1.1, hv.unborn hc hi.1.2⟩,
          hv.learned hi.1 hop hi.2⟩) hi
  exact fun c hc => (key c hc).2

variable {envA : Env K} {envB : Env L} {addrA addrB : Addr} {G : Engine K → Call → Prop}
  {H : Engine L → Call → Prop} {a : Engine K} {b : Engine L}

/-- **What the connections of `a` have learned**, they have learned from `b`. -/
lemma SessionWhen.learned (h : SessionWhen envA envB addrA addrB G H a b) (hc : c < a.nconns) :
    Learned ((engineParty envB addrA H).sent b) addrB (a.conns c) := by
  refine (h.knows (I := fun D e => e.EachConn fun _ x _ => Learned D addrB x) ?_ ?_ ?_).1 c hc
  · exact fun D D' e hD hI c hc => (hI c hc).mono hD
  · intro D cc sc e hcreate
    obtain ⟨cc, sc, id, -, rfl⟩ := engineCreate_eq hcreate
    exact fun c hc => absurd hc (Nat.not_lt_zero c)
  · exact fun D e op hr hI hv _ hop => hr.learned_exec hv hop hI

/-! ### Streams -/

/-- What was fed to KCP instances in `evs` are payloads of `D`, each for the stream that it was
fed to. -/
def FedIn (evs : List Event) (D : Set Bytes) (peer : Addr) (e : Engine K) : Prop :=
  ∀ s b ret, .kcp s (.input b ret) ∈ evs → s < e.nstreams ∧ (e.connOf s).peerAddr = peer ∧
    ∃ d ∈ D, PayloadDatagram d (e.connOf s).localConnectionId (e.streams s).streamId b

lemma FedIn.nil (D : Set Bytes) (peer : Addr) (e : Engine K) : FedIn [] D peer e :=
  fun _ _ _ hw => by cases hw

lemma FedIn.append {evs' : List Event} (h : FedIn evs D peer e) (h' : FedIn evs' D peer e) :
    FedIn (evs ++ evs') D peer e :=
  fun s b ret hw => (List.mem_append.mp hw).elim (h s b ret) (h' s b ret)

lemma FedIn.mono (h : FedIn evs D peer e) (hD : D ⊆ D') : FedIn evs D' peer e := by
  intro s b ret hw
  obtain ⟨hs, ha, d, hd, hp⟩ := h s b ret hw
  exact ⟨hs, ha, d, hD hd, hp⟩

/-- A stream and its connection stay what they are. -/
lemma FedIn.extends (h : FedIn evs D peer e) (ho : Own env e) (hext : Extends e e') :
    FedIn evs D peer e' := by
  intro s b ret hw
  obtain ⟨hs, ha, d, hd, hp⟩ := h s b ret hw
  obtain ⟨hid, -, hconn⟩ : (e'.streams s).streamId = (e.streams s).streamId ∧
      (e'.streams s).isInitiator = (e.streams s).isInitiator ∧
      (e'.streams s).conn = (e.streams s).conn := by
    simpa [Stream.ident] using (hext.stream s hs).1
  obtain ⟨-, hloc, haddr⟩ : (e'.conns (e.streams s).conn).isInitiator =
        (e.connOf s).isInitiator ∧
      (e'.conns (e.streams s).conn).localConnectionId = (e.connOf s).localConnectionId ∧
      (e'.conns (e.streams s).conn).peerAddr = (e.connOf s).peerAddr := by
    simpa [Conn.ident, Engine.connOf] using (hext.conn _ (ho.connOf_lt s hs)).1
  rw [Engine.connOf, hconn, hloc, haddr, hid]
  exact ⟨hs.trans_le hext.nstreams, ha, d, hd, hp⟩

/-- Only a datagram for the stream is fed to it. -/
lemma StreamView.fed {y : Stream K} {b : Bytes} {ret : ℤ} (hv : StreamView env op e s y evs)
    (hw : .kcp s (.input b ret) ∈ evs) : ∃ d, op = .input d (e.connOf s).peerAddr ∧
      PayloadDatagram d (e.connOf s).localConnectionId (e.streams s).streamId b := by
  cases hv.entry _ hw with
  | @fed d _ _ _ hop hd => exact ⟨d, hop, hd⟩
  | other h => exact h.elim

lemma StreamBorn.not_fed {y : Stream K} {b : Bytes} {ret : ℤ} (h : StreamBorn env op e y evs) :
    .kcp s (.input b ret) ∉ evs := by
  cases h <;> simp [streamNewEvents]

/-- **What a move feeds to KCP instances.** -/
lemma Move.fedIn (hm : Move env op e e') (h : Steady env e) (hop : op.Hands D peer)
    (htr : e'.trace = evs ++ e.trace) : FedIn evs D peer e' := by
  intro s b ret hw
  have hlt : s < e.nstreams := by
    rcases hm.nstreams h with hn | ⟨evs', hb, -, htr'⟩
    · rw [← hn]
      exact (hm.steady h).known _ (htr ▸ List.mem_append_left _ hw) (.stream s) rfl
    · rw [List.append_cancel_right (htr.symm.trans htr')] at hw
      exact absurd hw hb.not_fed
  obtain ⟨evs', hv, hlog⟩ := hm.streamViewed h hlt
  have hw' : .kcp s (.input b ret) ∈ evs' := by
    rw [← List.append_cancel_right ((logOf_append htr).symm.trans hlog)]
    exact List.mem_filter.mpr ⟨hw, by simp [Event.subject]⟩
  obtain ⟨d, ho, hd⟩ := hv.fed hw'
  obtain ⟨hD, hp⟩ := hop d _ ho
  have hfed : FedIn [.kcp s (.input b ret)] D peer e := by
    intro s' b' ret' hmem
    cases List.mem_singleton.mp hmem
    exact ⟨hlt, hp, d, hD, hd⟩
  exact hfed.extends h.toOwn (hm.extends h) s b ret (List.mem_singleton_self _)

/-- **What a call feeds to KCP instances.** -/
lemma Reachable.fedIn_exec (h : Reachable env e) (hv : op.Valid e) (hop : op.Hands D peer) :
    ∃ evs, (op.exec env e).trace = evs ++ e.trace ∧ FedIn evs D peer (op.exec env e) := by
  refine (h.boundary.exec hv).1.induct
    (P := fun e1 => ∃ evs, e1.trace = evs ++ e.trace ∧ FedIn evs D peer e1) h.boundary.toSteady
    ⟨[], rfl, .nil D peer e⟩ fun e1 e2 hs hm h1 => ?_
  obtain ⟨evs, htr, hfed⟩ := h1
  obtain ⟨evs', htr'⟩ := (hm.extends hs).trace
  refine ⟨evs' ++ evs, by rw [← htr', htr, List.append_assoc], ?_⟩
  exact (hm.fedIn hs hop htr'.symm).append (hfed.extends hs.toOwn (hm.extends hs))

/-- **What the streams of `a` were fed**, `b` has sent. -/
lemma SessionWhen.fed (h : SessionWhen envA envB addrA addrB G H a b) :
    FedIn a.trace ((engineParty envB addrA H).sent b) addrB a := by
  refine (h.knows (I := fun D e => FedIn e.trace D addrB e) ?_ ?_ ?_).1
  · exact fun D D' e hD hI => hI.mono hD
  · intro D cc sc e hcreate
    obtain ⟨cc, sc, id, -, rfl⟩ := engineCreate_eq hcreate
    exact FedIn.nil D addrB _
  · intro D e op hr hI hv _ hop
    obtain ⟨evs, htr, hfed⟩ := hr.fedIn_exec hv hop
    rw [htr]
    exact hfed.append (hI.extends hr.boundary.toOwn
      ((hr.boundary.exec hv).1.extends hr.boundary.toSteady))

/-! ### Who has sent it -/

/-- The types a connection sends under, and from which side. -/
lemma ConnSent.type (h : ConnSent c x log d) :
    (Buf.of d 0 = msgConnConnect ∧ x.isInitiator = true ∧ d = connConnectMsg x) ∨
      (Buf.of d 0 = msgConnConnectAck ∧ x.isInitiator = false ∧
        ∃ r, d = connConnectAckMsg x r ∧ Decided c log r) ∨
      (Buf.of d 0 ≠ msgConnConnect ∧ Buf.of d 0 ≠ msgConnConnectAck ∧
        Buf.of d 0 ≠ msgStreamPayload) := by
  cases h with
  | connect hi => exact Or.inl ⟨rfl, hi, rfl⟩
  | @ack r hi hr => exact Or.inr (Or.inl ⟨rfl, hi, r, rfl, hr⟩)
  | other h1 h2 h3 => exact Or.inr (Or.inr ⟨h1, h2, h3⟩)

/-- The types a stream sends under. -/
lemma StreamSent.type {conn : Conn} {id : UInt32} (h : StreamSent s conn id log d) :
    (Buf.of d 0 = msgStreamPayload ∧ ∃ b, d = streamHeader msgStreamPayload conn id ++ b ∧
        .kcpOutput s b ∈ log) ∨
      Buf.of d 0 = msgStreamClose ∨ Buf.of d 0 = msgStreamCloseAck := by
  cases h with
  | @payload b hb => exact Or.inl ⟨rfl, b, rfl, hb⟩
  | close ht => exact Or.inr ht

/-- A datagram of the handshake was sent by a connection. -/
lemma Reachable.handshake_origin (h : Reachable env e) {o : Owner} {addr : Addr} {ok : Bool}
    (hw : .write o addr d ok ∈ e.trace)
    (ht : Buf.of d 0 = msgConnConnect ∨ Buf.of d 0 = msgConnConnectAck) :
    ∃ c < e.nconns, o = .conn c ∧ addr = (e.conns c).peerAddr ∧
      ConnSent c (e.conns c) (e.logOf (.conn c)) d := by
  have hk := h.boundary.known _ hw o rfl
  cases o with
  | conn c =>
      obtain ⟨haddr, hs⟩ := (h.connSpeaks c hk).sent _ _ _ _ (mem_logOf.mpr ⟨hw, rfl⟩)
      exact ⟨c, hk, rfl, haddr, hs⟩
  | stream s =>
      obtain ⟨-, -, hs⟩ := h.streamsSpeak s hk _ _ _ _ (mem_logOf.mpr ⟨hw, rfl⟩)
      rcases hs.type with ⟨ht', -⟩ | ht' | ht' <;> rw [ht'] at ht <;> exact absurd ht (by decide)

/-- An acknowledgement that accepts was sent by a passive connection. -/
lemma Reachable.ack_origin (h : Reachable env e) {o : Owner} {addr : Addr} {ok : Bool}
    {dest id : UInt64} {ext : Bytes} (hw : .write o addr d ok ∈ e.trace)
    (hd : AckDatagram d dest id ext) : ∃ c < e.nconns, o = .conn c ∧
      (e.conns c).isInitiator = false ∧ addr = (e.conns c).peerAddr ∧
      (e.conns c).peerConnectionId = dest ∧ (e.conns c).localConnectionId = id ∧
      (e.conns c).selfProtoExt.data = ext ∧
      d = connConnectAckMsg (e.conns c) (UInt8.ofInt ackResultOk) ∧
      Decided c (e.logOf (.conn c)) (UInt8.ofInt ackResultOk) := by
  obtain ⟨c, hc, ho, haddr, hs⟩ := h.handshake_origin hw (Or.inr hd.type)
  rcases hs.type with ⟨ht, -⟩ | ⟨-, hi, r, rfl, hr⟩ | ⟨-, ht, -⟩
  · exact absurd (ht.symm.trans hd.type) (by decide)
  · cases reads_connConnectAckMsg (e.conns c) r with
    | connectAck common len hsource hversion hresult extLen size hext =>
        obtain rfl : r = UInt8.ofInt ackResultOk := hresult.symm.trans hd.result
        exact ⟨c, hc, ho, hi, haddr, common.dest.symm.trans hd.dest_eq,
          hsource.symm.trans hd.source, hext.symm.trans hd.ext_eq.symm, rfl, hr⟩
  · exact absurd hd.type ht

/-- A `CONN_CONNECT` was sent by an initiator. -/
lemma Reachable.connect_origin (h : Reachable env e) {o : Owner} {addr : Addr} {ok : Bool}
    {id : UInt64} {ext : Bytes} (hw : .write o addr d ok ∈ e.trace)
    (hd : ConnectDatagram d id ext) : ∃ c < e.nconns, o = .conn c ∧
      (e.conns c).isInitiator = true ∧ addr = (e.conns c).peerAddr ∧
      (e.conns c).localConnectionId = id ∧ (e.conns c).selfProtoExt.data = ext := by
  obtain ⟨c, hc, ho, haddr, hs⟩ := h.handshake_origin hw (Or.inl hd.type)
  rcases hs.type with ⟨-, hi, rfl⟩ | ⟨ht, -⟩ | ⟨ht, -⟩
  · cases reads_connConnectMsg (e.conns c) with
    | connect common len hsource hversion extLen size hext =>
        exact ⟨c, hc, ho, hi, haddr, hsource.symm.trans hd.source,
          hext.symm.trans hd.ext_eq.symm⟩
  · exact absurd (ht.symm.trans hd.type) (by decide)
  · exact absurd hd.type ht

/-- A payload was output by the KCP instance of the stream that it names. -/
lemma Reachable.payload_origin (h : Reachable env e) {o : Owner} {addr : Addr} {ok : Bool}
    {dest : UInt64} {id : UInt32} {b : Bytes} (hw : .write o addr d ok ∈ e.trace)
    (hd : PayloadDatagram d dest id b) : ∃ s < e.nstreams, o = .stream s ∧
      addr = (e.connOf s).peerAddr ∧ (e.connOf s).peerConnectionId = dest ∧
      (e.streams s).streamId = id ∧ .kcpOutput s b ∈ e.trace := by
  have hk := h.boundary.known _ hw o rfl
  cases o with
  | conn c =>
      obtain ⟨-, hs⟩ := (h.connSpeaks c hk).sent _ _ _ _ (mem_logOf.mpr ⟨hw, rfl⟩)
      rcases hs.type with ⟨ht, -⟩ | ⟨ht, -⟩ | ⟨-, -, ht⟩
      · exact absurd (ht.symm.trans hd.type) (by decide)
      · exact absurd (ht.symm.trans hd.type) (by decide)
      · exact absurd hd.type ht
  | stream s =>
      obtain ⟨-, haddr, hs⟩ := h.streamsSpeak s hk _ _ _ _ (mem_logOf.mpr ⟨hw, rfl⟩)
      rcases hs.type with ⟨-, b', rfl, hb⟩ | ht | ht
      · cases reads_streamPayload (e.connOf s) (e.streams s).streamId b' with
        | streamPayload common len hstream hpayload =>
            obtain rfl : b' = b := hpayload.symm.trans hd.payload_eq.symm
            exact ⟨s, hk, rfl, haddr, common.dest.symm.trans hd.dest_eq,
              hstream.symm.trans hd.stream, (mem_logOf.mp hb).1⟩
      · exact absurd (ht.symm.trans hd.type) (by decide)
      · exact absurd (ht.symm.trans hd.type) (by decide)

end KcpMux
