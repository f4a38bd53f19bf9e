import KcpMux.Safety.StreamIds

/-!
The streams of the peer are not created twice.

A payload for an unknown id creates a stream if the id is newer than
`latest_peer_stream_id`, which then becomes the new mark.  `Engine.peerIds` lists the ids that
have created a stream of a connection.  Every move leaves the list alone or appends an id that
is newer than the mark (`Move.peer`), so that the mark is the last id of the list and the list
is a chain of newer ids (`PeerOrder`); an id can come back only after the mark has moved by more
than half the ring (`Serial.lt_advance_of_newer`).  `peer_streams_not_recreated` is the
result.
-/

namespace KcpMux

variable {K : Type} {env : Env K} {op : Call} {e e' : Engine K} {c s : ℕ}

/-- `kcpmux_stream_new` returned the stream.  One whose timer node could not be registered is
closed from the start and never leaves `OPEN`. -/
def Stream.created (x : Stream K) : Bool := !x.internalClosed || x.state != .opened

/-- A payload of the peer of `c` created the stream. -/
def Stream.isPeerOf (c : ℕ) (x : Stream K) : Bool := x.conn == c && !x.isInitiator && x.created

/-- The streams that the peer of `c` has created, oldest first. -/
def Engine.peerStreams (e : Engine K) (c : ℕ) : List ℕ :=
  (List.range e.nstreams).filter fun s => (e.streams s).isPeerOf c

/-- Their ids. -/
def Engine.peerIds (e : Engine K) (c : ℕ) : List UInt32 :=
  (e.peerStreams c).map fun s => (e.streams s).streamId

/-- The high-water mark of the peer's ids. -/
def Conn.peerMark (x : Conn) : Option UInt32 :=
  if x.peerStreamIdInitialized then some x.latestPeerStreamId else none

/-! ### What a move does to the list -/

/-- A stream that was created stays so, and no other becomes it. -/
lemma StreamView.created {x : Stream K} {evs : List Event} (hv : StreamView env op e s x evs) :
    x.created = (e.streams s).created := by
  have hfinal : ∀ y : Stream K, y.final.created = true := by
    intro y
    rw [Stream.created, Stream.final]
    split_ifs <;> rfl
  have hlive : e.LiveStream s → (e.streams s).created = true := fun hl => by
    rw [Stream.created, hl.2]
    rfl
  cases hv with
  | same => rfl
  | trans hl ht h =>
      have hx : x.internalClosed = false :=
        (congrArg StreamOwn.internalClosed h.own).trans hl.2
      rw [hlive hl, Stream.created, hx]
      rfl
  | last hl => rw [hlive hl, hfinal]
  | final hl => rw [hlive hl, hfinal]
  | release => rfl

lemma StreamView.ident {x : Stream K} {evs : List Event} (hv : StreamView env op e s x evs) :
    x.ident = (e.streams s).ident := by
  have hown : ∀ {x y : Stream K}, x.own = y.own → x.ident = y.ident := fun h => by
    rw [Stream.ident, Stream.ident]
    exact congrArg (fun o => (o.streamId, o.isInitiator, o.conn)) h
  cases hv with
  | same => rfl
  | trans hl ht h => exact hown h.own
  | @last t y evs mv reason hl ht h => exact (hown h.own : y.ident = _)
  | final hl => rfl
  | release => rfl

/-- What a chain of moves leaves of the streams it finds. -/
lemma Moves.stream (hm : Moves env op e e') (h : Steady env e) (hs : s < e.nstreams) :
    e.nstreams ≤ e'.nstreams ∧ e.trace <:+ e'.trace ∧
      (e'.streams s).ident = (e.streams s).ident ∧
      (e'.streams s).created = (e.streams s).created := by
  refine hm.induct (P := fun e1 => e.nstreams ≤ e1.nstreams ∧ e.trace <:+ e1.trace ∧
    (e1.streams s).ident = (e.streams s).ident ∧ (e1.streams s).created = (e.streams s).created)
    h ⟨le_rfl, List.suffix_rfl, rfl, rfl⟩ ?_
  rintro e1 e2 hs1 hmv ⟨hn, ht, hid, hcr⟩
  have hx := hmv.extends hs1
  obtain ⟨evs, hv, -⟩ := hmv.streamViewed hs1 (hs.trans_le hn)
  exact ⟨hn.trans hx.nstreams, ht.trans hx.trace, (hx.stream s (hs.trans_le hn)).1.trans hid,
    hv.created.trans hcr⟩

lemma Stream.isPeerOf_congr {x y : Stream K} (hid : x.ident = y.ident)
    (hcr : x.created = y.created) : x.isPeerOf c = y.isPeerOf c := by
  have h1 : x.isInitiator = y.isInitiator := congrArg (fun i => i.2.1) hid
  have h2 : x.conn = y.conn := congrArg (fun i => i.2.2) hid
  rw [Stream.isPeerOf, Stream.isPeerOf, h1, h2, hcr]

/-- The streams of the peer of `c` that `e'` has and `e` had not. -/
def Engine.newPeerStreams (e e' : Engine K) (c : ℕ) : List ℕ :=
  ((List.range (e'.nstreams - e.nstreams)).map (e.nstreams + ·)).filter fun s =>
    (e'.streams s).isPeerOf c

/-- The streams that were there stay in the list, and come first. -/
lemma Moves.peerStreams (hm : Moves env op e e') (h : Steady env e) (c : ℕ) :
    e'.peerStreams c = e.peerStreams c ++ e.newPeerStreams e' c ∧
      e'.peerIds c =
        e.peerIds c ++ (e.newPeerStreams e' c).map fun s => (e'.streams s).streamId := by
  have hn : e.nstreams ≤ e'.nstreams :=
    hm.induct (P := fun e1 => e.nstreams ≤ e1.nstreams) h le_rfl fun e1 e2 hs1 hmv hle =>
      hle.trans (hmv.extends hs1).nstreams
  have hold : (List.range e.nstreams).filter (fun s => (e'.streams s).isPeerOf c) =
      e.peerStreams c := by
    refine List.filter_congr fun s hs => ?_
    obtain ⟨-, -, hid, hcr⟩ := hm.stream h (List.mem_range.mp hs)
    exact Stream.isPeerOf_congr hid hcr
  have happ : e'.peerStreams c = e.peerStreams c ++ e.newPeerStreams e' c := by
    rw [← hold, Engine.peerStreams, Engine.newPeerStreams, ← List.filter_append, ← List.range_add,
      Nat.add_sub_of_le hn]
  refine ⟨happ, ?_⟩
  rw [Engine.peerIds, happ, List.map_append, Engine.peerIds]
  congr 1
  refine List.map_congr_left fun s hs => ?_
  have hs : s < e.nstreams := List.mem_range.mp (List.mem_filter.mp hs).1
  exact congrArg Prod.fst (hm.stream h hs).2.2.1

lemma newPeerStreams_of_eq (hn : e'.nstreams = e.nstreams) : e.newPeerStreams e' c = [] := by
  rw [Engine.newPeerStreams, hn, Nat.sub_self]
  rfl

lemma newPeerStreams_of_succ (hn : e'.nstreams = e.nstreams + 1) :
    e.newPeerStreams e' c =
      if (e'.streams e.nstreams).isPeerOf c then [e.nstreams] else [] := by
  rw [Engine.newPeerStreams, hn, Nat.add_sub_cancel_left]
  simp [List.filter_cons]

/-- **A step leaves the mark of a connection and the streams of its peer alone**, or it creates
a stream of the peer and its id becomes the mark. -/
lemma Act.peer (ha : Act env op e e') (h : Sound env e) (hc : c < e.nconns) :
    ((e'.conns c).peerMark = (e.conns c).peerMark ∧ (e'.nstreams = e.nstreams ∨
      (e'.nstreams = e.nstreams + 1 ∧ (e'.streams e.nstreams).isPeerOf c = false))) ∨
    ∃ t x id, NewStream env op e t c x (some id) ∧ (e'.conns c).peerMark = some id ∧
      e'.nstreams = e.nstreams + 1 ∧ e'.streams e.nstreams = { x with inStreamMap := true } := by
  cases ha with
  | @conn d t x evs now m st cs hl ht hx hm hst =>
      refine Or.inl ⟨?_, Or.inl rfl⟩
      by_cases hd : c = d
      · subst hd
        rw [stepConn_conns_self]
        cases hx <;> rfl
      · simp [Engine.stepConn, hd]
  | stream => exact Or.inl ⟨rfl, Or.inl rfl⟩
  | quiet => exact Or.inl ⟨rfl, Or.inl rfl⟩
  | idLost => exact Or.inl ⟨rfl, Or.inl rfl⟩
  | popBatch => exact Or.inl ⟨rfl, Or.inl rfl⟩
  | connNew => exact Or.inl ⟨by rw [newConn_conns_of_lt hc], Or.inl rfl⟩
  | @streamNew d t x latest r capacity m hl hs ht hcap hx hm =>
      cases hx with
      | «local» =>
          refine Or.inl ⟨?_, Or.inr ⟨rfl, ?_⟩⟩
          · rw [newStream_conns]
            by_cases hd : c = d <;> simp [Conn.peerMark, hd]
          · rw [newStream_streams_self]
            simp [Stream.isPeerOf, streamRecord, Stream.blockRead]
      | @peer id dg payload prepared kcp now hop hd hcfg hid hpar hnew hcb hfresh hnow hk =>
          by_cases hdc : c = d
          · subst hdc
            refine Or.inr ⟨t, _, id, .peer hop hd hcfg hid hpar hnew hcb hfresh hnow hk, ?_, rfl,
              newStream_streams_self⟩
            rw [newStream_conns]
            simp [Conn.peerMark]
          · refine Or.inl ⟨?_, Or.inr ⟨rfl, ?_⟩⟩
            · rw [newStream_conns]
              simp [Conn.peerMark, hdc]
            · rw [newStream_streams_self]
              simp [Stream.isPeerOf, streamRecord, Stream.blockRead, Ne.symm hdc]
  | streamFailed ht hl hx =>
      refine Or.inl ⟨rfl, Or.inr ⟨rfl, ?_⟩⟩
      simp [Engine.deadStream, Stream.isPeerOf, Stream.created, hx.1, hx.2.2.2.2.2]
  | streamFinal hd hl =>
      refine Or.inl ⟨?_, Or.inl rfl⟩
      rw [finalStream_conns]
      rfl
  | @streamLast s t x evs mv m st cs reason hd hl ht hx hm hst =>
      refine Or.inl ⟨?_, Or.inl rfl⟩
      rw [finalStream_conns]
      rfl
  | @connFinal d reason hd hl hs =>
      obtain ⟨-, hother, m, n, hx, -⟩ := connCloseInternal_views h.toOwn hd hl reason
      refine Or.inl ⟨?_, Or.inl (connCloseInternal_nconns h.toOwn hd hl _).2⟩
      by_cases hdc : c = d
      · subst hdc
        rw [hx]
        rfl
      · rw [(hother c hdc).1]
  | @connLast d t x evs st cs hd hl ht hx hst =>
      have hs := SameOwn.connLast env hl hx t st cs
      have hl' := (hs.liveConn d).mpr hl
      obtain ⟨-, hother, m, n, hx', -⟩ := connCloseInternal_views (h.toOwn.of_same hs) hd hl'
        closeReasonRejected
      refine Or.inl ⟨?_, Or.inl (connCloseInternal_nconns (h.toOwn.of_same hs) hd hl' _).2⟩
      by_cases hdc : c = d
      · subst hdc
        rw [hx', stepConn_conns_self]
        cases hx
        rfl
      · rw [(hother c hdc).1]
        simp [Engine.stepConn, hdc]

/-- A new peer id, in the terms of the mark. -/
lemma newer_of_isNewPeerStreamId {x : Conn} {id : UInt32}
    (h : connIsNewPeerStreamId x id = true) : ∀ y ∈ x.peerMark, Serial.Newer y id := by
  intro y hy
  rw [Conn.peerMark] at hy
  by_cases hinit : x.peerStreamIdInitialized = true
  · rw [if_pos hinit] at hy
    rw [connIsNewPeerStreamId, if_neg (by simp [hinit] : ¬ x.peerStreamIdInitialized = false)] at h
    split_ifs at h
    cases Option.some.inj hy
    have hnewer := of_decide_eq_true h
    exact hnewer
  · rw [if_neg hinit] at hy
    cases hy

/-- The ids that created a stream are a chain of newer ids up to the mark, and could be ids of
the peer. -/
structure PeerOrder (e : Engine K) (c : ℕ) : Prop where
  mark : (e.conns c).peerMark = (e.peerIds c).getLast?
  chain : (e.peerIds c).IsChain Serial.Newer
  ids : ∀ id ∈ e.peerIds c, id ≠ 0 ∧ (id % 2 == 1) ≠ (e.conns c).isInitiator

/-- **Every move keeps the order of the peer's ids.** -/
lemma Move.peerOrder (hm : Move env op e e') (hs : Steady env e) (hc : c < e.nconns)
    (h : PeerOrder e c) : PeerOrder e' c := by
  have hids := (Moves.peerStreams (.single hm) hs c).2
  have hini : (e'.conns c).isInitiator = (e.conns c).isInitiator :=
    congrArg Prod.fst ((hm.extends hs).conn c hc).1
  have hsame : (e'.conns c).peerMark = (e.conns c).peerMark → e.newPeerStreams e' c = [] →
      PeerOrder e' c := by
    intro hmark hnone
    rw [hnone, List.map_nil, List.append_nil] at hids
    exact ⟨by rw [hmark, hids, h.mark], hids ▸ h.chain, fun id hid => hini ▸ h.ids id (hids ▸ hid)⟩
  rcases hm.frame hs with ha | ⟨hcs, -, -, hn, -⟩
  · rcases ha.peer hs.toSound hc with ⟨hmark, hn | ⟨hn, hno⟩⟩ | ⟨t, x, id, hx, hmark, hn, hself⟩
    · exact hsame hmark (newPeerStreams_of_eq hn)
    · exact hsame hmark (by rw [newPeerStreams_of_succ hn, hno]; rfl)
    · cases hx with
      | @peer _ d payload prepared kcp now hop hd hcfg hid hpar hfirst hcb hfresh hnow hk =>
          have hpeer : (e'.streams e.nstreams).isPeerOf c = true := by
            have hlive : (default : Stream K).internalClosed = false := rfl
            rw [hself]
            simp [Stream.isPeerOf, Stream.created, streamRecord, Stream.blockRead, hlive]
          have hsid : (e'.streams e.nstreams).streamId = id := by
            rw [hself]
            rfl
          rw [newPeerStreams_of_succ hn, if_pos hpeer, List.map_singleton, hsid] at hids
          refine ⟨by rw [hmark, hids, List.getLast?_concat], ?_, fun y hy => ?_⟩
          · rw [hids, List.isChain_append]
            refine ⟨h.chain, List.isChain_singleton _, fun y hy z hz => ?_⟩
            rw [← h.mark] at hy
            cases Option.some.inj hz
            exact newer_of_isNewPeerStreamId hfirst y hy
          · rw [hids] at hy
            rw [hini]
            rcases List.mem_append.mp hy with hy | hy
            · exact h.ids y hy
            · rw [List.mem_singleton.mp hy]
              exact ⟨hid, hpar⟩
  · exact hsame (by rw [hcs]) (newPeerStreams_of_eq hn)

/-- A new connection has no streams. -/
lemma Move.peerOrder_new (hm : Move env op e e') (hs : Steady env e) (hc : c < e'.nconns)
    (hnew : ¬ c < e.nconns) : PeerOrder e' c := by
  rcases hm.nconns hs with hn | ⟨t, x, hx, hn, hx', ht⟩
  · omega
  · have hcn : c = e.nconns := by omega
    subst hcn
    have hmark : (e'.conns e.nconns).peerMark = none := by
      rw [hx']
      cases hx <;> rfl
    have hn' : e'.nstreams = e.nstreams := by
      rcases hm.nstreams hs with hn' | ⟨evs, hb, -, ht'⟩
      · exact hn'
      · rw [ht] at ht'
        have hevs : evs = [] := List.append_left_eq_self.mp ht'.symm
        generalize e'.streams e.nstreams = y at hb
        cases hb <;> cases hevs
    have hnone : e.peerStreams e.nconns = [] := by
      refine List.filter_eq_nil_iff.mpr fun s hmem hp => ?_
      have hlt := hs.connOf_lt s (List.mem_range.mp hmem)
      simp only [Stream.isPeerOf, Bool.and_eq_true, beq_iff_eq] at hp
      omega
    have hnil : e'.peerIds e.nconns = [] := by
      rw [(Moves.peerStreams (.single hm) hs e.nconns).2, newPeerStreams_of_eq hn', Engine.peerIds,
        hnone]
      rfl
    exact ⟨by rw [hmark, hnil]; rfl, by rw [hnil]; exact List.isChain_nil, by simp [hnil]⟩

lemma Reachable.peerOrder (h : Reachable env e) (hc : c < e.nconns) : PeerOrder e c := by
  refine h.induct (P := fun e => ∀ c < e.nconns, PeerOrder e c) ?_ ?_ c hc
  · intro cc sc e hcr c hc
    obtain ⟨cc, sc, id, -, rfl⟩ := engineCreate_eq hcr
    exact absurd hc (Nat.not_lt_zero c)
  · intro op e e' hs hm hP c hc
    by_cases hlt : c < e.nconns
    · exact hm.peerOrder hs hlt (hP c hlt)
    · exact hm.peerOrder_new hs hc hlt

/-! ### The callback -/

/-- The entry is a call of `stream_create_notify` for the stream `s`. -/
def Event.notifies (s : ℕ) : Event → Bool
  | .streamCreateNotify q _ => q == s
  | _ => false

lemma countP_notifies_eq_zero {evs : List Event} :
    evs.countP (Event.notifies s) = 0 ↔ ∀ r, .streamCreateNotify s r ∉ evs := by
  rw [List.countP_eq_zero]
  constructor
  · exact fun h r hm => h _ hm (beq_self_eq_true s)
  · intro h ev hm hn
    cases ev with
    | streamCreateNotify q r =>
        have hq : q = s := by simpa [Event.notifies] using hn
        exact h r (hq ▸ hm)
    | _ => cases hn

lemma not_rejectedStream (h : e.trace.countP (Event.notifies s) = 0) : ¬ e.RejectedStream s := by
  rintro ⟨r, -, hr⟩
  exact countP_notifies_eq_zero.mp h r hr

/-- The calls for a stream, in its log. -/
lemma countP_notifies_logOf (e : Engine K) (s : ℕ) :
    (e.logOf (.stream s)).countP (Event.notifies s) = e.trace.countP (Event.notifies s) := by
  rw [Engine.logOf, List.countP_filter]
  refine List.countP_congr fun ev _ => ?_
  cases ev with
  | streamCreateNotify q r => by_cases hq : q = s <;> simp [Event.notifies, Event.subject, hq]
  | _ => simp [Event.notifies]

lemma notifiedStream_iff : e.NotifiedStream s ↔ 0 < e.trace.countP (Event.notifies s) := by
  rw [Nat.pos_iff_ne_zero, Ne, countP_notifies_eq_zero]
  simp [Engine.NotifiedStream]

/-- A step calls `stream_create_notify` for no stream, or for the first time for a stream of the
peer. -/
lemma StreamTrans.notifies {t : ℕ} {conn : Conn} {x x' : Stream K} {evs : List Event}
    {mv : TimerMove} {p : PendMove} (h : StreamTrans env op e t s conn x x' evs mv p) :
    evs.countP (Event.notifies s) = 0 ∨
      (evs.countP (Event.notifies s) = 1 ∧ ¬ e.NotifiedStream s ∧ x.isInitiator = false) := by
  have hrefresh : ∀ conn (x : Stream K) now r,
      (refreshEvents s conn x now r).countP (Event.notifies s) = 0 := by
    intro conn x now r
    rw [refreshEvents]
    split_ifs <;> rfl
  have hclose : ∀ (x : Stream K) phase refresh, refresh.countP (Event.notifies s) = 0 →
      (streamCloseEvents s x phase refresh).countP (Event.notifies s) = 0 := by
    intro x phase refresh hr
    rw [streamCloseEvents, List.countP_append, List.countP_append, hr]
    split_ifs <;> rfl
  cases h with
  | flow h =>
      left
      cases h with
      | unblockWrite | unblockRead => split_ifs <;> rfl
      | _ => rfl
  | refresh => exact Or.inl (hrefresh _ _ _ _)
  | config => exact Or.inl (hrefresh _ _ _ _)
  | startClose => exact Or.inl (hclose _ _ _ (hrefresh _ _ _ _))
  | remoteClose => exact Or.inl (hclose _ _ _ rfl)
  | accept hi hs hfirst => exact Or.inr ⟨by simp [Event.notifies], hfirst, hi⟩
  | reject hnow hnow' hi hs hr hfirst => exact Or.inr ⟨by simp [Event.notifies], hfirst, hi⟩
  | _ => exact Or.inl rfl

/-- The callback is called at most once for a stream, and for the created streams of the peer
only. -/
def NotifiedOnce (s : ℕ) (x : Stream K) (log : List Event) : Prop :=
  log.countP (Event.notifies s) ≤ 1 ∧
    (0 < log.countP (Event.notifies s) → x.isInitiator = false ∧ x.created = true)

lemma StreamView.notifiedOnce {x : Stream K} {evs : List Event}
    (hv : StreamView env op e s x evs)
    (h : NotifiedOnce s (e.streams s) (e.logOf (.stream s))) :
    NotifiedOnce s x (evs ++ e.logOf (.stream s)) := by
  have hini : x.isInitiator = (e.streams s).isInitiator := congrArg (fun i => i.2.1) hv.ident
  -- entries that are no calls
  have hquiet : evs.countP (Event.notifies s) = 0 → NotifiedOnce s x (evs ++ e.logOf (.stream s)) := by
    intro h0
    rw [NotifiedOnce, List.countP_append, h0, Nat.zero_add, hini, hv.created]
    exact h
  have hfinal : ∀ (y : Stream K) reason,
      (finalStreamEvents s y reason).countP (Event.notifies s) = 0 := by
    intro y reason
    rw [finalStreamEvents, List.countP_append]
    split_ifs <;> rfl
  have hcr := hv.created
  cases hv with
  | same => exact hquiet rfl
  | trans hl ht hx =>
      rcases hx.notifies with h0 | ⟨h1, hfirst, hi⟩
      · exact hquiet h0
      · rw [notifiedStream_iff, ← countP_notifies_logOf, Nat.pos_iff_ne_zero, not_not] at hfirst
        rw [NotifiedOnce, List.countP_append, h1, hfirst, hini, hcr, Stream.created, hl.2]
        exact ⟨le_rfl, fun _ => ⟨hi, rfl⟩⟩
  | last hl ht hx =>
      refine hquiet ?_
      rw [List.countP_append, hfinal]
      cases hx with
      | drainExpired =>
          rw [List.countP_append, refreshEvents]
          split_ifs <;> rfl
      | fail => rfl
  | final hl => exact hquiet (hfinal _ _)
  | release => exact hquiet rfl

lemma StreamBorn.notifiedOnce {x : Stream K} {evs : List Event} (h : StreamBorn env op e x evs) :
    NotifiedOnce e.nstreams x evs := by
  have h0 : evs.countP (Event.notifies e.nstreams) = 0 := by cases h <;> rfl
  rw [NotifiedOnce, h0]
  exact ⟨Nat.zero_le _, fun hpos => absurd hpos (lt_irrefl _)⟩

lemma Reachable.notifiedOnce (h : Reachable env e) (hs : s < e.nstreams) :
    NotifiedOnce s (e.streams s) (e.logOf (.stream s)) := by
  exact h.eachStream (P := NotifiedOnce) (fun _ _ _ _ hb => hb.notifiedOnce)
    (fun _ _ _ _ _ _ _ hv hP => hv.notifiedOnce hP) s hs

/-- The callback was called for every created stream of a peer, except for `q`. -/
def Engine.Announced (q : Option ℕ) (e : Engine K) : Prop :=
  ∀ s < e.nstreams, some s ≠ q → (e.streams s).isInitiator = false →
    (e.streams s).created = true → e.NotifiedStream s

section Announced

variable {q : Option ℕ}

/-- New streams are all there is to check. -/
lemma Moves.announced_of (hm : Moves env op e e') (hs : Steady env e) (h : e.Announced q)
    (hnew : ∀ s, e.nstreams ≤ s → s < e'.nstreams → some s ≠ q →
      (e'.streams s).isInitiator = false → (e'.streams s).created = true → e'.NotifiedStream s) :
    e'.Announced q := by
  intro s hlt hq hini hcr
  by_cases hold : s < e.nstreams
  · obtain ⟨-, ht, hid, hcr'⟩ := hm.stream hs hold
    have hini' : (e'.streams s).isInitiator = (e.streams s).isInitiator :=
      congrArg (fun i => i.2.1) hid
    obtain ⟨r, hmem⟩ := h s hold hq (hini'.symm.trans hini) (hcr'.symm.trans hcr)
    exact ⟨r, ht.mem hmem⟩
  · exact hnew s (not_lt.mp hold) hlt hq hini hcr

lemma Moves.announced_of_eq (hm : Moves env op e e') (hs : Steady env e) (h : e.Announced q)
    (hn : e'.nstreams = e.nstreams) : e'.Announced q :=
  hm.announced_of hs h fun s hle hlt => by omega

/-- The call delivers a payload. -/
def Call.Delivers : Call → Prop
  | .input d _ => Buf.of d 0 = msgStreamPayload
  | _ => False

/-- Without a payload no stream of a peer is created. -/
lemma Move.announced (hm : Move env op e e') (hs : Steady env e) (hop : ¬ op.Delivers)
    (h : e.Announced q) : e'.Announced q := by
  refine Moves.announced_of (.single hm) hs h fun s hle hlt _ hini hcr => ?_
  rcases hm.nstreams hs with hn | ⟨evs, hb, hn, -⟩
  · omega
  · have hsn : s = e.nstreams := by omega
    subst hsn
    generalize e'.streams e.nstreams = y at hb hini hcr
    cases hb with
    | live hl hc hx =>
        cases hx with
        | «local» => cases hini
        | peer hop' hd =>
            refine absurd ?_ hop
            rw [hop']
            exact hd.type
    | dead hc hx => simp [Stream.created, hx.1, hx.2.2.2.2.2] at hcr

lemma Moves.announced (hm : Moves env op e e') (hs : Steady env e) (hop : ¬ op.Delivers)
    (h : e.Announced q) : e'.Announced q :=
  hm.induct hs h fun _ _ hs1 hmv h1 => hmv.announced hs1 hop h1

/-- The callback is called for the stream that was left. -/
lemma Engine.Announced.all {r : ℤ} (h : e.Announced (some s)) (hr : .streamCreateNotify s r ∈ e.trace) :
    e.Announced none := by
  intro q hlt _ hini hcr
  by_cases hq : q = s
  · exact ⟨r, hq ▸ hr⟩
  · exact h q hlt (by simpa using hq) hini hcr

end Announced

section Deliver

variable {d payload : Bytes} {recv : ℤ} {id : UInt32}

/-- Until the callback is called, the new stream is the only one that is left. -/
lemma PeerStream.announced {e1 e2 : Engine K} (h : PeerStream env op d c id e e1 e2)
    (hs : Steady env e) (ha : e.Announced none) : e2.Announced (some e.nstreams) := by
  have h1 : e1.Announced (some e.nstreams) := by
    have h0 : e.Announced (some e.nstreams) := fun s hlt _ => ha s hlt (by simp)
    refine Moves.announced_of (.single (.act h.new)) hs h0 fun s hle hlt hne => ?_
    have hn := h.nstreams
    exact absurd (congrArg some (by omega : s = e.nstreams)) hne
  have hs1 : Steady env e1 := Move.steady (.act h.new) hs
  have ht : Moves env .update e1 e2 :=
    .head (.act (quiet_act .update (Nat.le_succ _))) (h.tuned .update).acts.moves
  exact ht.announced hs1 not_false h1

/-- **A payload for an unknown id** leaves no stream without the callback. -/
lemma PeerCreated.announced {r : ℤ × Engine K} (h : PeerCreated env op d c id payload recv e r)
    (hs : Steady env e) (hi : Inside env e)
    (hp : PayloadDatagram d (e.conns c).localConnectionId id payload) (hd : Addressed op d e c)
    (hrecv : Read env e.tick recv) (ha : e.Announced none) : r.2.Announced none := by
  cases h with
  | refused => exact ha
  | failed _ h => exact (h .update).moves.announced hs not_false ha
  | @rejected e1 e2 r _ h hr =>
      obtain ⟨-, -, hini, hopen⟩ := h.stream_tuned
      have hs2 : Steady env e2 := Moves.steady h.acts.moves hs
      obtain ⟨hrej, hmem⟩ : Acts env .update e2 (protocolRejectStream env
          (e2.log (.streamCreateNotify e.nstreams r)) e.nstreams recv) ∧ _ :=
        protocolRejectStream_acts (h.acts.inside hi) (h.tuned op).live hini hopen hr
          h.unnotified_tuned (hrecv.mono (Acts.tick h.acts hi.toOwn))
      exact (hrej.moves.announced hs2 not_false (h.announced hs ha)).all hmem
  | @admitted e1 e2 _ h =>
      obtain ⟨h3, ha3, hl3, hconn, hopen, hp3⟩ := h.admitted hd hp rfl
      have hs2 : Steady env e2 := Moves.steady h.acts.moves hs
      have hi3 := h3.inside hi
      have hs3 : Steady env (e2.log (.streamCreateNotify e.nstreams 0)) := Moves.steady h3.moves hs
      have hrecv3 := hrecv.mono (Acts.tick h3 hi.toOwn)
      have hall : (e2.log (.streamCreateNotify e.nstreams 0)).Announced none :=
        (Moves.announced_of_eq (.single (.act h.accepted)) hs2 (h.announced hs ha) rfl).all
          (r := 0) (List.mem_cons_self ..)
      generalize e2.log (.streamCreateNotify e.nstreams 0) = e3 at *
      have h4 : Still env op e3 _ := payload_still hi3 ha3 hl3 hconn hp3 hrecv3
      have hall4 := h4.acts.moves.announced_of_eq hs3 hall h4.calm.nstreams
      have hs4 := Moves.steady h4.acts.moves hs3
      rw [protocolFirstPayload]
      dsimp only
      generalize streamHandlePayload env e3 e.nstreams payload recv = r at h4 hall4 hs4 ⊢
      split_ifs
      · have hf : Act env .update r.2 _ := (streamFail_act (h4.inside hi3) (h4.calm.liveStream hl3)
          ((h4.calm.state _).trans hopen) closeReasonError).1
        exact (Acts.moves (.single hf)).announced hs4 not_false hall4
      · obtain ⟨hn, -, -, hns, -⟩ := (ha3.calm h4.calm).note (h4.inside hi3)
          (hrecv3.mono (Acts.tick h4.acts hi3.toOwn)) true rfl
        exact hn.moves.announced_of_eq hs4 hall4 hns

/-- **A payload** leaves no stream without the callback. -/
lemma protocolInput_announced (hs : Steady env e) (hi : Inside env e) {addr : Addr}
    (hop : op = .input d addr) (htype : Buf.of d 0 = msgStreamPayload)
    (hrecv : Read env e.tick recv) (hn : e.NoInit) (ha : e.Announced none) :
    (protocolInput env e (Buf.of d) d.length addr recv).2.Announced none := by
  have h : Delivered env op d recv e _ := protocolInput_delivered hi hop htype hn
  have h0 : ∀ c, Acts env op e (e.countReceived c d.length) := fun c =>
    .single (countReceived_act c _)
  generalize protocolInput env e (Buf.of d) d.length addr recv = r at h ⊢
  cases h with
  | dropped hr he0 =>
      rcases he0 with rfl | ⟨c, rfl⟩
      · exact ha
      · exact ha
  | @known e0 c s payload r he0 hd hst hl hc hfound hp hr =>
      have hs0 : Steady env e0 := he0 ▸ Moves.steady (h0 c).moves hs
      have hi0 : Inside env e0 := he0 ▸ (h0 c).inside hi
      have hrecv0 : Read env e0.tick recv := he0 ▸ hrecv.mono ((h0 c).tick hi.toOwn)
      have ha0 : e0.Announced none := he0 ▸ ha
      have h1 : Still env op e0 r.2 := hr ▸ payload_still hi0 hd hl hc hp hrecv0
      have ha1 := h1.acts.moves.announced_of_eq hs0 ha0 h1.calm.nstreams
      split_ifs
      · obtain ⟨hn1, -, -, hns, -⟩ := (hd.calm h1.calm).note (h1.inside hi0)
          (hrecv0.mono (Acts.tick h1.acts hi0.toOwn)) true rfl
        exact hn1.moves.announced_of_eq (Moves.steady h1.acts.moves hs0) ha1 hns
      · exact ha1
  | @unknown e0 c id payload r he0 hd hst hid hfound hp h =>
      exact h.announced (he0 ▸ Moves.steady (h0 c).moves hs) (he0 ▸ (h0 c).inside hi) hp hd
        (he0 ▸ hrecv.mono ((h0 c).tick hi.toOwn)) (he0 ▸ ha)

end Deliver

/-- **Every call announces the streams it creates.** -/
lemma Boundary.announced (h : Boundary env e) (hv : op.Valid e) (ha : e.Announced none) :
    (op.exec env e).Announced none := by
  by_cases hop : op.Delivers
  · cases op with
    | input d addr =>
        by_cases hd : d = []
        · subst hd
          exact ha
        · obtain ⟨e0, hrec⟩ := h.received hd addr
          have hself : Call.input d addr = .input d addr := rfl
          have ha0 : e0.Announced none := by
            obtain ⟨st, -, rfl⟩ := hrec.opened
            exact ha
          have ha1 := protocolInput_announced hrec.steady hrec.inside hself hop hrec.read
            hrec.noInit ha0
          have hm1 := (protocolInput_acts hrec.inside hself hrec.read hrec.noInit).1
          have hleave : Moves env .update _ _ := engineOperationLeave_moves hrec.depth
          show (engineInput env e d addr).2.Announced none
          rw [hrec.result]
          exact hleave.announced (Moves.steady hm1.moves hrec.steady) not_false ha1
    | _ => exact absurd hop not_false
  · exact (h.exec hv).1.announced h.toSteady hop ha

lemma Reachable.announced (h : Reachable env e) : e.Announced none := by
  induction h with
  | create h =>
      obtain ⟨cc, sc, id, -, rfl⟩ := engineCreate_eq h
      exact fun s hs => absurd hs (Nat.not_lt_zero s)
  | call hr op hv ih => exact hr.boundary.announced hv ih

/-- The callback was called exactly once for every stream of a peer. -/
lemma Reachable.notified_once (h : Reachable env e) (hs : s ∈ e.peerStreams c) :
    e.trace.countP (Event.notifies s) = 1 := by
  obtain ⟨hlt, hp⟩ := List.mem_filter.mp hs
  have hlt := List.mem_range.mp hlt
  simp only [Stream.isPeerOf, Bool.and_eq_true, Bool.not_eq_true'] at hp
  have h1 := (h.notifiedOnce hlt).1
  have h2 := notifiedStream_iff.mp (h.announced s hlt (by simp) hp.1.2 hp.2)
  rw [countP_notifies_logOf] at h1
  omega

/-- **Closed peer streams are not created again.**  In every reachable engine the ids that
created a stream of a connection are nonzero ids of the peer's parity, each ahead of the one
before by less than half the ring, and the last one is the mark; an id occurs again only after
the mark has moved by more than `2 ^ 31` from it.  The callback is called exactly once for
each of these streams and for no other.  Every call leaves the streams that were created in
place and appends to them. -/
theorem peer_streams_not_recreated (h : Reachable env e) (hc : c < e.nconns) :
    (e.peerIds c).IsChain (fun x y => 0 < (y - x).toNat ∧ (y - x).toNat < 2 ^ 31) ∧
    (e.conns c).peerMark = (e.peerIds c).getLast? ∧
    (∀ older x between newer, e.peerIds c = older ++ (x :: between) ++ (x :: newer) →
      2 ^ 31 < Serial.advance (x :: between)) ∧
    (∀ s ∈ e.peerStreams c, e.trace.countP (Event.notifies s) = 1) ∧
    (∀ s r, .streamCreateNotify s r ∈ e.trace → s ∈ e.peerStreams (e.streams s).conn) ∧
    (∀ id ∈ e.peerIds c, id ≠ 0 ∧ (id % 2 == 1) ≠ (e.conns c).isInitiator) ∧
    ∀ op : Call, op.Valid e → ∃ new, (op.exec env e).peerStreams c = e.peerStreams c ++ new ∧
      (op.exec env e).peerIds c =
        e.peerIds c ++ new.map fun s => ((op.exec env e).streams s).streamId := by
  have hord := h.peerOrder hc
  have hnewer : ∀ x y : UInt32, Serial.Newer x y ↔ 0 < (y - x).toNat ∧ (y - x).toNat < 2 ^ 31 := by
    intro x y
    rw [Serial.Newer, ← UInt32.toNat_inj.ne, UInt32.lt_iff_toNat_lt, Nat.pos_iff_ne_zero]
    rfl
  refine ⟨?_, hord.mark, ?_, fun s hs => h.notified_once hs, ?_, hord.ids, ?_⟩
  · exact hord.chain.imp fun x y => (hnewer x y).mp
  · intro older x between newer heq
    have hchain := hord.chain
    rw [heq, List.isChain_append] at hchain
    refine Serial.lt_advance_of_newer (hchain.2.2 _ ?_ x rfl)
    rw [List.getLast?_append_of_ne_nil _ (List.cons_ne_nil x between)]
    exact List.getLast?_eq_getLast_of_ne_nil _
  · intro s r hmem
    have hlt : s < e.nstreams := h.boundary.known _ hmem (.stream s) rfl
    have hpos := notifiedStream_iff.mp ⟨r, hmem⟩
    rw [← countP_notifies_logOf] at hpos
    obtain ⟨hini, hcr⟩ := (h.notifiedOnce hlt).2 hpos
    refine List.mem_filter.mpr ⟨List.mem_range.mpr hlt, ?_⟩
    simp [Stream.isPeerOf, hini, hcr]
  · exact fun op hv => ⟨_, (h.boundary.exec hv).1.peerStreams h.boundary.toSteady c⟩

/-- A `STREAM_CLOSE` for the stream `1` that gives an error as its reason. -/
def plainStreamClose : Bytes := [0x93, 0, 0, 0, 0, 0, 0, 0, 1, 0, 0, 0, 1, closeReasonError]

/-- A host that takes streams has received payloads for the ids `1` and `5`; the peer has closed
the first stream, and another payload comes for it. -/
def peered : Engine Unit :=
  execAll (idealHost 0 0)
    [.input (plainPayload 1 1 7) [10], .input (plainPayload 1 5 7) [10],
      .input plainStreamClose [10], .input (plainPayload 1 1 7) [10]] offering

/-- The stream that was closed is not created again. -/
theorem peer_streams_not_recreated_peered :
    ¬ peered.LiveStream 0 ∧ peered.peerIds 0 = [1, 5] ∧
      ∀ s ∈ peered.peerStreams 0, peered.trace.countP (Event.notifies s) = 1 := by
  have hr : Reachable (idealHost 0 0) peered := offering_reachable.execAll (by decide +kernel)
  exact ⟨by decide +kernel, by decide +kernel,
    (peer_streams_not_recreated hr (by decide +kernel : 0 < peered.nconns)).2.2.2.1⟩

end KcpMux
