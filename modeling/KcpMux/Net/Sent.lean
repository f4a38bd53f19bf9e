import KcpMux.Safety.Duplicate
import KcpMux.Safety.Routing

/-!
What an engine sends.

Every datagram in the log of an engine is traced back to the object that sent it and to what
that object's record says now: the fields a `CONN_CONNECT`, a `CONN_CONNECT_ACK` or the header of
a stream's datagram is made of do not change once it has been sent.

* `ConnSpeaks`: the datagrams of a connection, and the one decision of `conn_connect_notify`;
* `StreamsSpeak`: the datagrams of streams; a `STREAM_PAYLOAD` carries what the stream's KCP
  instance has output.
-/

namespace KcpMux

variable {K : Type} {env : Env K} {op : Call} {e e' : Engine K} {c s t : ℕ} {x x' : Conn}
  {log evs : List Event} {d : Bytes}

/-! ### Connections -/

/-- The decision behind an acknowledgement with the result byte `r`: a byte that says
`KCPMUX_ACK_RESULT_OK` stands for an accepted connection, or for a result that has this low
byte. -/
def Decided (c : ℕ) (log : List Event) (r : UInt8) : Prop :=
  r = UInt8.ofInt ackResultOk →
    (.connConnectNotify c ackResultOk ∈ log ∧ 0 < log.countP Event.entersConnected) ∨
      ∃ result, result ≠ ackResultOk ∧ UInt8.ofInt result = UInt8.ofInt ackResultOk ∧
        .connConnectNotify c result ∈ log

/-- A datagram that the connection `c` has sent, in terms of its record now. -/
inductive ConnSent (c : ℕ) (x : Conn) (log : List Event) : Bytes → Prop
  | connect (hi : x.isInitiator = true) : ConnSent c x log (connConnectMsg x)
  | ack {r : UInt8} (hi : x.isInitiator = false) (hr : Decided c log r) :
      ConnSent c x log (connConnectAckMsg x r)
  | other {type : UInt8} {y : Conn} {rest : Bytes} (ht : type ≠ msgConnConnect)
      (ht' : type ≠ msgConnConnectAck) (ht'' : type ≠ msgStreamPayload) :
      ConnSent c x log (writeCommon type y ++ rest)

/-- The entry is a decision of `conn_connect_notify`. -/
def Event.decides : Event → Bool
  | .connConnectNotify _ _ => true
  | _ => false

/-- What a connection has said, and what was asked about it. -/
structure ConnSpeaks (c : ℕ) (x : Conn) (log : List Event) : Prop where
  sent : ∀ o addr d ok, .write o addr d ok ∈ log → addr = x.peerAddr ∧ ConnSent c x log d
  asked : log.countP Event.decides ≤ if x.isInitiator then 0 else 1

/-- The entry is neither a datagram nor a decision. -/
def Event.Aside : Event → Prop
  | .write _ _ _ _ | .connConnectNotify _ _ => False
  | _ => True

lemma Decided.mono {r : UInt8} (h : Decided c log r) (evs : List Event) :
    Decided c (evs ++ log) r := by
  intro hr
  rcases h hr with ⟨hn, hc⟩ | ⟨result, h1, h2, hn⟩
  · refine Or.inl ⟨List.mem_append_right _ hn, ?_⟩
    rw [List.countP_append]
    omega
  · exact Or.inr ⟨result, h1, h2, List.mem_append_right _ hn⟩

lemma ConnSent.mono (h : ConnSent c x log d) (evs : List Event)
    (hi : x'.isInitiator = x.isInitiator)
    (hc : x.isInitiator = true → connConnectMsg x' = connConnectMsg x)
    (ha : x.isInitiator = false → ∀ r, connConnectAckMsg x' r = connConnectAckMsg x r) :
    ConnSent c x' (evs ++ log) d := by
  cases h with
  | connect hx =>
      rw [← hc hx]
      exact .connect (hi.trans hx)
  | ack hx hr =>
      rw [← ha hx]
      exact .ack (hi.trans hx) (hr.mono evs)
  | other h1 h2 h3 => exact .other h1 h2 h3

namespace ConnSpeaks

/-- Entries that say nothing, and a record that says the same. -/
lemma aside (h : ConnSpeaks c x log) (hev : ∀ ev ∈ evs, ev.Aside) (hp : x'.peerAddr = x.peerAddr)
    (hi : x'.isInitiator = x.isInitiator)
    (hc : x.isInitiator = true → connConnectMsg x' = connConnectMsg x)
    (ha : x.isInitiator = false → ∀ r, connConnectAckMsg x' r = connConnectAckMsg x r) :
    ConnSpeaks c x' (evs ++ log) where
  sent o addr d ok hw := by
    obtain ⟨haddr, hs⟩ := h.sent o addr d ok
      ((List.mem_append.mp hw).resolve_left fun hw => hev _ hw)
    exact ⟨haddr.trans hp.symm, hs.mono evs hi hc ha⟩
  asked := by
    have hnone : evs.countP Event.decides = 0 := by
      refine List.countP_eq_zero.mpr fun ev hm hd => ?_
      cases ev with
      | connConnectNotify => exact hev _ hm
      | _ => cases hd
    rw [List.countP_append, hnone, Nat.zero_add, hi]
    exact h.asked

/-- A record that says the same. -/
lemma congr (h : ConnSpeaks c x log) (hp : x'.peerAddr = x.peerAddr)
    (hi : x'.isInitiator = x.isInitiator)
    (hc : x.isInitiator = true → connConnectMsg x' = connConnectMsg x)
    (ha : x.isInitiator = false → ∀ r, connConnectAckMsg x' r = connConnectAckMsg x r) :
    ConnSpeaks c x' log := by
  have key : ConnSpeaks c x' ([] ++ log) := h.aside (by simp) hp hi hc ha
  exact key

/-- One more datagram. -/
lemma say {o : Owner} {addr : Addr} {ok : Bool} (h : ConnSpeaks c x log)
    (ha : addr = x.peerAddr) (hd : ConnSent c x (.write o addr d ok :: log) d) :
    ConnSpeaks c x (.write o addr d ok :: log) where
  sent o' addr' d' ok' hw := by
    rcases List.mem_cons.mp hw with heq | hw
    · cases heq
      exact ⟨ha, hd⟩
    · obtain ⟨haddr, hs⟩ := h.sent o' addr' d' ok' hw
      exact ⟨haddr, hs.mono [_] rfl (fun _ => rfl) fun _ _ => rfl⟩
  asked := by
    rw [List.countP_cons_of_neg (by simp [Event.decides])]
    exact h.asked

/-- A connection without a history. -/
lemma nil (c : ℕ) (x : Conn) : ConnSpeaks c x [] :=
  ⟨by simp, by simp⟩

/-- The first entry is the decision. -/
lemma ask (c : ℕ) (x : Conn) (r : ℤ) (hi : x.isInitiator = false) :
    ConnSpeaks c x [.connConnectNotify c r] :=
  ⟨by simp, by simp [hi, Event.decides]⟩

end ConnSpeaks

lemma connStateEvents_aside (c : ℕ) (x : Conn) (new : ConnState) :
    ∀ ev ∈ connStateEvents c x new, ev.Aside := by
  intro ev hev
  rw [connStateEvents] at hev
  split_ifs at hev <;> simp at hev
  · rcases hev with rfl | rfl <;> trivial
  · subst hev
    trivial

lemma endConnEvents_aside (c : ℕ) (x : Conn) (reason : UInt8) :
    ∀ ev ∈ endConnEvents c x reason, ev.Aside := by
  intro ev hev
  rw [endConnEvents] at hev
  split_ifs at hev <;> simp at hev <;> rcases hev with rfl | rfl <;> trivial

lemma connStateEvents_entersConnected (c : ℕ) (x : Conn) :
    0 < (connStateEvents c x .connected).countP Event.entersConnected := by
  rw [connStateEvents]
  split_ifs <;> simp [Event.entersConnected]

lemma connCloseMsg_sent {type reason : UInt8} {y : Conn} (h1 : type ≠ msgConnConnect)
    (h2 : type ≠ msgConnConnectAck) (h3 : type ≠ msgStreamPayload) :
    ConnSent c x log (connCloseMsg type y reason) :=
  .other h1 h2 h3

/-- **What happens to a live connection**, in what it says. -/
lemma ConnTrans.speaks {now : Option ℤ} (h : ConnTrans env op t c x x' evs now)
    (hl : x.internalClosed = false) (hh : ConnHist c x log) (ha : AckSent c x log)
    (hs : ConnSpeaks c x log) : ConnSpeaks c x' (evs ++ log) := by
  cases h with
  | connecting =>
      exact hs.aside (fun ev hev => by rw [List.mem_singleton.mp hev]; trivial) rfl rfl
        (fun _ => rfl) fun _ _ => rfl
  | sendConnect hnow hst hn =>
      refine ConnSpeaks.say ?_ rfl (.connect (hh.1.connecting hst))
      exact hs.congr rfl rfl (fun _ => rfl) fun _ _ => rfl
  | established hnow hst hop hd =>
      refine hs.aside (connStateEvents_aside _ _ _) rfl rfl (fun _ => rfl) fun hi => ?_
      exact absurd ((hh.1.connecting hst).symm.trans hi) (by decide)
  | @accept ext now ok hnow hi hst =>
      -- the connection has no history yet
      obtain rfl := hh.2 hl hst
      rw [List.append_nil]
      have hask := ConnSpeaks.ask c { x with selfProtoExt := ext, state := .connected }
        ackResultOk hi
      refine ConnSpeaks.say (hask.aside (connStateEvents_aside _ _ _) rfl rfl (fun _ => rfl)
        fun _ _ => rfl) rfl
        (ConnSent.ack hi fun _ => Or.inl ⟨by simp, ?_⟩)
      have henter := connStateEvents_entersConnected c x
      rw [List.countP_cons, List.countP_append]
      omega
  | ack hi hst hr =>
      refine hs.say rfl (.ack hi ?_)
      rcases hr with ⟨rfl, hst'⟩ | rfl
      · intro _
        have hin := entersConnected_of_stateOf (hh.1.state.symm.trans hst')
        obtain ⟨newer, older, ok, rfl, hn, -⟩ := ha hi hst'
        refine Or.inl ⟨by simp [hn], ?_⟩
        rw [List.countP_cons]
        omega
      · exact fun h => absurd h (by decide)
  | close => exact hs.aside (connStateEvents_aside _ _ _) rfl rfl (fun _ => rfl) fun _ _ => rfl
  | idle => exact hs.aside (connStateEvents_aside _ _ _) rfl rfl (fun _ => rfl) fun _ _ => rfl
  | fail =>
      exact hs.aside (fun ev hev => by rw [List.mem_singleton.mp hev]; trivial) rfl rfl
        (fun _ => rfl) fun _ _ => rfl
  | sendClose hnow hst hn =>
      split_ifs
      · exact hs.congr rfl rfl (fun _ => rfl) fun _ _ => rfl
      · refine ConnSpeaks.say ?_ rfl (connCloseMsg_sent (by decide) (by decide) (by decide))
        exact hs.congr rfl rfl (fun _ => rfl) fun _ _ => rfl
  | keepalive hnow hst =>
      refine ConnSpeaks.say ?_ rfl ?_
      · exact hs.congr rfl rfl (fun _ => rfl) fun _ _ => rfl
      · rw [connKeepaliveMsg, List.append_assoc]
        exact .other (by decide) (by decide) (by decide)
  | closeAck => exact hs.say rfl (connCloseMsg_sent (by decide) (by decide) (by decide))
  | receive | refresh | config | callbacks | nextId =>
      exact hs.congr rfl rfl (fun _ => rfl) fun _ _ => rfl

lemma ConnLast.speaks (h : ConnLast c x x' evs) (hh : ConnHist c x log)
    (hl : x.internalClosed = false) : ConnSpeaks c x' (evs ++ log) := by
  cases h with
  | @reject r ok evs hi hst hr hev =>
      obtain rfl := hh.2 hl hst
      rw [List.append_nil]
      rcases hev with rfl | ⟨rfl, rfl | rfl⟩
      · exact ConnSpeaks.say (ConnSpeaks.ask c _ r hi) rfl
          (.ack hi fun h => Or.inr ⟨r, hr, h, by simp⟩)
      · exact ConnSpeaks.say (ConnSpeaks.nil c _) rfl (.ack hi fun h => absurd h (by decide))
      · exact ConnSpeaks.say (ConnSpeaks.ask c _ ackResultOk hi) rfl
          (.ack hi fun h => absurd h (by decide))

lemma Conn.final_says (x : Conn) (streamMap : Htb ℕ) (streamCount : ℕ) :
    (x.final streamMap streamCount).peerAddr = x.peerAddr ∧
      (x.final streamMap streamCount).isInitiator = x.isInitiator ∧
      connConnectMsg (x.final streamMap streamCount) = connConnectMsg x ∧
      ∀ r, connConnectAckMsg (x.final streamMap streamCount) r = connConnectAckMsg x r := by
  rw [Conn.final]
  split_ifs <;> exact ⟨rfl, rfl, rfl, fun _ => rfl⟩

lemma ConnSpeaks.final (h : ConnSpeaks c x log) (streamMap : Htb ℕ) (streamCount : ℕ)
    (reason : UInt8) :
    ConnSpeaks c (x.final streamMap streamCount) (endConnEvents c x reason ++ log) := by
  obtain ⟨hp, hi, hc, ha⟩ := x.final_says streamMap streamCount
  exact h.aside (endConnEvents_aside c x reason) hp hi (fun _ => hc) fun _ => ha

lemma ConnView.speaks (hv : ConnView env op e c x evs) (hh : ConnHist c (e.conns c) log)
    (ha : AckSent c (e.conns c) log) (hs : ConnSpeaks c (e.conns c) log) :
    ConnSpeaks c x (evs ++ log) := by
  cases hv with
  | same => exact hs
  | trans hl ht h => exact h.speaks hl.2 hh ha hs
  | streams => exact hs.congr rfl rfl (fun _ => rfl) fun _ _ => rfl
  | final => exact hs.final _ _ _
  | last hl h =>
      rw [List.append_assoc]
      exact (h.speaks hh hl.2).final _ _ _
  | release =>
      exact hs.aside (fun ev hev => by rw [List.mem_singleton.mp hev]; trivial) rfl rfl
        (fun _ => rfl) fun _ _ => rfl

/-- **What the connections of an engine have said.** -/
lemma Reachable.connSpeaks (h : Reachable env e) : e.EachConn ConnSpeaks := by
  have key : e.EachConn fun c x log =>
      ConnHist c x log ∧ AckSent c x log ∧ ConnSpeaks c x log := by
    refine h.eachConn (fun _ _ _ _ hx => ⟨⟨hx.path, fun _ _ => rfl⟩, fun _ hs => ?_, .nil _ _⟩)
      fun _ _ c x evs _ hc hv hi => ⟨⟨hv.path hi.1.1, hv.unborn hc hi.1.2⟩,
        hv.ackSent hi.1 hi.2.1, hv.speaks hi.1 hi.2.1 hi.2.2⟩
    cases hx <;> cases hs
  exact fun c hc => (key c hc).2.2

/-! ### Streams -/

/-- A datagram that the stream `s` with the id `id` of `conn` has sent. -/
inductive StreamSent (s : ℕ) (conn : Conn) (id : UInt32) (log : List Event) : Bytes → Prop
  | payload {b : Bytes} (hb : .kcpOutput s b ∈ log) :
      StreamSent s conn id log (streamHeader msgStreamPayload conn id ++ b)
  | close {type : UInt8} {rest : Bytes} (ht : type = msgStreamClose ∨ type = msgStreamCloseAck) :
      StreamSent s conn id log (streamHeader type conn id ++ rest)

/-- What the streams of an engine have said. -/
def StreamsSpeak (e : Engine K) : Prop :=
  ∀ s < e.nstreams, ∀ o addr d ok, .write o addr d ok ∈ e.logOf (.stream s) →
    (e.connOf s).peerConnectionId ≠ 0 ∧ addr = (e.connOf s).peerAddr ∧
      StreamSent s (e.connOf s) (e.streams s).streamId (e.logOf (.stream s)) d

lemma StreamSent.mono {conn conn' : Conn} {id id' : UInt32} (h : StreamSent s conn id log d)
    (evs : List Event) (hc : conn'.peerConnectionId = conn.peerConnectionId) (hi : id' = id) :
    StreamSent s conn' id' (evs ++ log) d := by
  have hh : ∀ type, streamHeader type conn id = streamHeader type conn' id' := fun type => by
    rw [streamHeader, streamHeader, writeCommon, writeCommon, hc, hi]
  cases h with
  | payload hb =>
      rw [hh]
      exact .payload (List.mem_append_right _ hb)
  | close ht =>
      rw [hh]
      exact .close ht

/-- Only KCP's output is sent as a payload. -/
lemma StreamView.sent {x : Stream K} {o : Owner} {addr : Addr} {ok : Bool}
    (hv : StreamView env op e s x evs) (hw : .write o addr d ok ∈ evs) :
    addr = (e.connOf s).peerAddr ∧
      StreamSent s (e.connOf s) (e.streams s).streamId (e.logOf (.stream s)) d := by
  have hentry := hv.entry _ hw
  generalize hev : Event.write o addr d ok = ev at hentry
  cases hentry with
  | emitted => cases hev
  | payload hout =>
      cases hev
      exact ⟨rfl, .payload (mem_logOf.mpr ⟨hout, rfl⟩)⟩
  | close ht =>
      cases hev
      exact ⟨rfl, .close ht⟩
  | fed => cases hev
  | other h =>
      subst hev
      exact h.elim

lemma Move.streamsSpeak (hm : Move env op e e') (h : Steady env e) (hh : e.EachConn ConnHist)
    (hk : PeersKnown e) (hs : StreamsSpeak e) : StreamsSpeak e' := by
  intro s hlt' o addr d ok hw
  by_cases hlt : s < e.nstreams
  · obtain ⟨evs, hv, hlog⟩ := hm.streamViewed h hlt
    have hext := hm.extends h
    obtain ⟨hid, -, hconn⟩ : (e'.streams s).streamId = (e.streams s).streamId ∧
        (e'.streams s).isInitiator = (e.streams s).isInitiator ∧
        (e'.streams s).conn = (e.streams s).conn := by
      simpa [Stream.ident] using (hext.stream s hlt).1
    have hc := h.connOf_lt s hlt
    -- whatever it has sent, its connection knew the peer by then
    have hsent : (e.connOf s).peerConnectionId ≠ 0 ∧ addr = (e.connOf s).peerAddr ∧
        StreamSent s (e.connOf s) (e.streams s).streamId (e.logOf (.stream s)) d := by
      rw [hlog] at hw
      rcases List.mem_append.mp hw with hw | hw
      · exact ⟨hk s (hv.live_of_mem hw (by simp)), hv.sent hw⟩
      · exact hs s hlt o addr d ok hw
    obtain ⟨evs', hv', -⟩ := hm.connViewed h hc
    have hpeer := hv'.peer_eq (hh _ hc).1 hsent.1
    have haddr : (e'.conns (e.streams s).conn).peerAddr = (e.connOf s).peerAddr :=
      congrArg (fun i => i.2.2) (hext.conn _ hc).1
    rw [Engine.connOf, hconn, hlog]
    exact ⟨hpeer ▸ hsent.1, hsent.2.1.trans haddr.symm, hsent.2.2.mono evs hpeer hid⟩
  · rcases hm.nstreams h with hn | ⟨evs, hb, hn, htr⟩
    · exact absurd (hn ▸ hlt') hlt
    · obtain rfl : s = e.nstreams := by omega
      obtain ⟨hw, hsub⟩ := mem_logOf.mp hw
      rw [htr] at hw
      rcases List.mem_append.mp hw with hw | hw
      · exact absurd hw hb.not_write
      · exact absurd (h.known _ hw _ hsub) (lt_irrefl _)

/-- **What the streams of an engine have said.** -/
lemma Reachable.streamsSpeak (h : Reachable env e) : StreamsSpeak e := by
  have key : e.EachConn ConnHist ∧ PeersKnown e ∧ StreamsSpeak e := by
    refine h.induct (P := fun e => e.EachConn ConnHist ∧ PeersKnown e ∧ StreamsSpeak e) ?_
      fun op e e' hs hm hi => ⟨hm.connHist hs hi.1, hm.peersKnown hs hi.1 hi.2.1,
        hm.streamsSpeak hs hi.1 hi.2.1 hi.2.2⟩
    intro cc sc e hc
    obtain ⟨cc, sc, id, -, rfl⟩ := engineCreate_eq hc
    exact ⟨fun c hc => absurd hc (Nat.not_lt_zero c), fun s hs => absurd hs.1 (Nat.not_lt_zero s),
      fun s hs => absurd hs (Nat.not_lt_zero s)⟩
  exact key.2.2

end KcpMux
