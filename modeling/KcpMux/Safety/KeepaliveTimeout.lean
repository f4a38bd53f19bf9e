import KcpMux.Safety.Isolation

/-!
Packets and the keepalive timeout.

`last_recv_ts` never goes back (`Run.lastRecvTs_le`), and a datagram that is handled with the
result zero raises it to the time of its reception, except the first payload of a stream that
the host refuses (`engineInput_heard`).  `engineUpdate_keepalive` is the other side: an update
that takes a connection from `CONNECTED` to `ERROR` finds `last_recv_ts` as old as the keepalive
timeout.  `keepalive_timeout_silent` puts them together.
-/

namespace KcpMux

variable {K : Type} {env : Env K} {op : Call} {S : Owner → Prop} {C : ℕ → Prop}
  {e e' e1 : Engine K} {c s : ℕ} {d : Bytes} {recv : ℤ}

/-! ### The time of the last packet -/

lemma ConnTrans.lastRecvTs_le {t : ℕ} {x y : Conn} {evs : List Event} {now : Option ℤ}
    (h : ConnTrans env op t c x y evs now) : x.lastRecvTs ≤ y.lastRecvTs := by
  cases h with
  | receive =>
      dsimp only
      split_ifs <;> omega
  | _ => exact le_rfl

lemma ConnView.lastRecvTs_le {x : Conn} {evs : List Event} (h : ConnView env op e c x evs) :
    (e.conns c).lastRecvTs ≤ x.lastRecvTs := by
  cases h with
  | trans _ _ hx => exact hx.lastRecvTs_le
  | last _ hx =>
      cases hx
      exact le_rfl
  | _ => exact le_rfl

lemma Act.lastRecvTs_le (ha : Act env op e e') (h : Sound env e) (hc : c < e.nconns) :
    (e.conns c).lastRecvTs ≤ (e'.conns c).lastRecvTs := by
  obtain ⟨evs, hv, -⟩ := ha.connViewed h hc
  exact hv.lastRecvTs_le

lemma Acts.lastRecvTs_le (ha : Acts env op e e') (h : Sound env e) (hc : c < e.nconns) :
    (e.conns c).lastRecvTs ≤ (e'.conns c).lastRecvTs := by
  induction ha with
  | refl => exact le_rfl
  | tail hpre hact ih =>
      exact ih.trans (hact.lastRecvTs_le (Acts.sound hpre h)
        (hc.trans_le (Acts.grows hpre h.toOwn).nconns))

/-- **The time of the last packet never goes back.** -/
lemma Run.lastRecvTs_le (h : Run env e e') (hr : Reachable env e) (hc : c < e.nconns) :
    (e.conns c).lastRecvTs ≤ (e'.conns c).lastRecvTs := by
  refine (h.induct (P := fun e1 => c < e1.nconns ∧ (e.conns c).lastRecvTs ≤ (e1.conns c).lastRecvTs)
    hr ⟨hc, le_rfl⟩ fun _ e1 e2 hs hm h1 => ⟨?_, ?_⟩).2
  · exact h1.1.trans_le (hm.extends hs).nconns
  · obtain ⟨evs, hv, -⟩ := hm.connViewed hs h1.1
    exact h1.2.trans hv.lastRecvTs_le

/-- A connection has heard from its peer when it is created. -/
lemma Reachable.createdTs_le (h : Reachable env e) (hc : c < e.nconns) :
    (e.conns c).createdTs ≤ (e.conns c).lastRecvTs := by
  refine h.eachConn (P := fun _ x _ => x.createdTs ≤ x.lastRecvTs) ?_ ?_ c hc
  · intro op e t x hx
    cases hx with
    | initiator => exact le_rfl
    | passive =>
        dsimp only [connRecord]
        split_ifs <;> omega
  · intro op e c x evs _ _ hv hle
    have hcr : x.createdTs = (e.conns c).createdTs := by
      cases hv with
      | trans _ _ hx => cases hx <;> rfl
      | last _ hx => cases hx; rfl
      | _ => rfl
    rw [hcr]
    exact hle.trans hv.lastRecvTs_le

/-! ### Datagrams for a connection -/

/-- A handler that returned zero has noted the reception. -/
def Heard (c : ℕ) (recv : ℤ) (r : ℤ × Engine K) : Prop :=
  r.1 = 0 → c < r.2.nconns ∧ recv ≤ (r.2.conns c).lastRecvTs

lemma Heard.error {r : ℤ} (h : r ≠ 0) : Heard c recv (r, e) :=
  fun hret => absurd hret h

lemma connNoteReceive_late (hi : Inside env e) (hl : e.LiveConn c) (recv : ℤ) (isPayload : Bool) :
    recv ≤ ((connNoteReceive env e c recv isPayload).conns c).lastRecvTs := by
  obtain ⟨m, t, -, -, heq⟩ :=
    connNoteReceive_did env hi.depth hl.2 (hi.conn_owner hl) recv isPayload
  rw [heq, stepConn_conns_self]
  dsimp only [Conn.received]
  split_ifs <;> omega

/-- What is done after the reception has been noted keeps the note. -/
lemma Acts.heard (h : Acts env op e e') (hs : Sound env e) (hc : c < e.nconns)
    (hrecv : recv ≤ (e.conns c).lastRecvTs) (r : ℤ) : Heard c recv (r, e') :=
  fun _ => ⟨hc.trans_le (h.grows hs.toOwn).nconns, hrecv.trans (h.lastRecvTs_le hs hc)⟩

lemma Addressed.heard (ha : Addressed op d e c) (hi : Inside env e) (hrecv : Read env e.tick recv)
    (isPayload : Bool) (h : Acts env op (connNoteReceive env e c recv isPayload) e') (r : ℤ) :
    Heard c recv (r, e') := by
  obtain ⟨h1, ha1, -⟩ := ha.note hi hrecv isPayload rfl
  exact h.heard (h1.inside hi).toSound ha1.live.1 (connNoteReceive_late hi ha.live recv isPayload) r

section

variable (hi : Inside env e) (ha : Addressed op d e c) (hrecv : Read env e.tick recv)

include hi ha hrecv

lemma inputConnectAck_heard (htype : Buf.of d 0 = msgConnConnectAck) :
    Heard c recv (inputConnectAck env e c (Buf.of d) d.length recv) := by
  rcases inputConnectAck_noted hi ha htype hrecv with ⟨r, hr, heq⟩ | h
  · rw [heq]
    exact .error hr
  · exact ha.heard hi hrecv false h _

lemma inputKeepalive_heard (size : ℕ) : Heard c recv (inputKeepalive env e c size recv) := by
  rw [inputKeepalive]
  split_ifs
  · exact .error (by decide)
  · exact ha.heard hi hrecv false .refl 0

lemma inputConnClose_heard (htype : Buf.of d 0 = msgConnClose) :
    Heard c recv (inputConnClose env e c (Buf.of d) d.length recv) := by
  rw [inputConnClose]
  dsimp only
  split_ifs with hlen
  · exact .error (by decide)
  · obtain ⟨h1, ha1, -⟩ := ha.note hi hrecv false rfl
    obtain ⟨h2, hl2⟩ : Act env op _ _ ∧ _ :=
      connSendCloseAck_act ha1 htype (not_lt.mp hlen) (Buf.of d protoCommonLen)
    have h3 : Act env op _ _ := connCloseInternal_act (Acts.inside (h1.tail h2) hi) hl2
      (Acts.settled (h1.tail h2) hi.toOwn ha.live.1 ha.settled) (Buf.of d protoCommonLen)
    exact ha.heard hi hrecv false ((Relation.ReflTransGen.single h2).tail h3) 0

lemma inputConnCloseAck_heard (size : ℕ) :
    Heard c recv (inputConnCloseAck env e c size recv) := by
  rw [inputConnCloseAck]
  split_ifs
  · exact .error (by decide)
  · exact .error (by decide)
  · obtain ⟨h1, ha1, -⟩ := ha.note hi hrecv false rfl
    exact ha.heard hi hrecv false
      (.single (connCloseInternal_act (Acts.inside h1 hi) ha1.live ha1.settled _)) 0

/-- A stream of the connection after the note. -/
lemma Addressed.noteStream {id : UInt32} (hs : connGetStreamById env e c id = some s) :
    Inside env (connNoteReceive env e c recv false) ∧
      (connNoteReceive env e c recv false).LiveStream s := by
  have hin := ((connGetStreamById_eq_some hi.toOwn ha.live.1).mp hs).1
  obtain ⟨h1, -, hst, hns, -⟩ := ha.note hi hrecv false rfl
  refine ⟨h1.inside hi, ?_⟩
  rw [Engine.LiveStream, hst, hns]
  exact hin.1

lemma inputStreamClose_heard (buf : Buf) (size : ℕ) :
    Heard c recv (inputStreamClose env e c buf size recv) := by
  rw [inputStreamClose]
  dsimp only
  split_ifs
  · exact .error (by decide)
  · exact .error (by decide)
  · cases hs : connGetStreamById env e c (readU32 buf protoCommonLen) with
    | none => exact .error (by decide)
    | some s =>
        obtain ⟨hi1, hl1⟩ := ha.noteStream hi hrecv hs
        exact ha.heard hi hrecv false (streamHandleClose_acts hi1 hl1 _) _

lemma inputStreamCloseAck_heard (buf : Buf) (size : ℕ) :
    Heard c recv (inputStreamCloseAck env e c buf size recv) := by
  rw [inputStreamCloseAck]
  dsimp only
  split_ifs
  · exact .error (by decide)
  · exact .error (by decide)
  · cases hs : connGetStreamById env e c (readU32 buf protoCommonLen) with
    | none => exact .error (by decide)
    | some s =>
        dsimp only
        split_ifs
        · exact .error (by decide)
        · obtain ⟨hi1, hl1⟩ := ha.noteStream hi hrecv hs
          exact ha.heard hi hrecv false (.single (streamCloseInternal_act hi1 hl1 _)) 0

/-- A payload that reaches its stream. -/
lemma payload_heard (hl : e.LiveStream s) (hc : (e.streams s).conn = c) {payload : Bytes}
    (hp : PayloadDatagram d (e.conns c).localConnectionId (e.streams s).streamId payload) (r : ℤ) :
    Heard c recv (r, connNoteReceive env (streamHandlePayload env e s payload recv).2 c recv true) := by
  have h1 : Still env op e _ := payload_still hi ha hl hc hp hrecv
  generalize streamHandlePayload env e s payload recv = q at h1 ⊢
  exact (ha.calm h1.calm).heard (h1.inside hi) (hrecv.mono (Acts.tick h1.acts hi.toOwn)) true .refl r

/-- The first payload of a stream that the host does not refuse. -/
lemma PeerCreated.heard {id : UInt32} {payload : Bytes} {r : ℤ × Engine K}
    (h : PeerCreated env op d c id payload recv e r)
    (hp : PayloadDatagram d (e.conns c).localConnectionId id payload)
    (hw : ¬ r.2.RejectedStream e.nstreams) : Heard c recv r := by
  cases h with
  | refused _ hr =>
      refine .error ?_
      rcases hr with rfl | rfl <;> decide
  | failed => exact .error (by decide)
  | rejected _ h hr =>
      obtain ⟨-, -, hini, hopen⟩ := h.stream_tuned
      obtain ⟨-, hmem⟩ : Acts env op _ _ ∧ _ :=
        protocolRejectStream_acts (h.acts.inside hi) (h.tuned op).live hini hopen hr
          h.unnotified_tuned (hrecv.mono (Acts.tick h.acts hi.toOwn))
      exact absurd ⟨_, hr, hmem⟩ hw
  | admitted _ h =>
      obtain ⟨h3, ha3, hl3, hconn, -, hp3⟩ := h.admitted ha hp rfl
      rw [protocolFirstPayload]
      dsimp only
      split_ifs with hres
      · exact .error hres
      · exact payload_heard (h3.inside hi) ha3 (hrecv.mono (Acts.tick h3 hi.toOwn)) hl3 hconn hp3 _

end

section

variable (hi : Inside env e) (ha : Addressed op d e c) (hrecv : Read env e.tick recv)

include hi ha hrecv

lemma inputStreamPayload_heard (htype : Buf.of d 0 = msgStreamPayload)
    (hw : ¬ (inputStreamPayload env e c (Buf.of d) d.length recv).2.RejectedStream e.nstreams) :
    Heard c recv (inputStreamPayload env e c (Buf.of d) d.length recv) := by
  revert hw
  rw [inputStreamPayload]
  dsimp only
  split_ifs with hst hlen hid
  · exact fun _ => .error (by decide)
  · exact fun _ => .error (by decide)
  · exact fun _ => .error (by decide)
  have hp : PayloadDatagram d (e.conns c).localConnectionId
      (readU32 (Buf.of d) protoCommonLen)
      ((Buf.of d).slice protoStreamHeaderLen (d.length - protoStreamHeaderLen)) :=
    ⟨htype, ha.dest, rfl, not_lt.mp hlen, rfl⟩
  cases hs : connGetStreamById env e c (readU32 (Buf.of d) protoCommonLen) with
  | none =>
      exact (protocolCreateStream_created hi ha (not_not.mp hst) hid hs hp recv).heard hi ha hrecv
        hp
  | some s =>
      intro _
      obtain ⟨hin, hsid⟩ := (connGetStreamById_eq_some hi.toOwn ha.live.1).mp hs
      rw [← hsid] at hp
      dsimp only
      split_ifs with hres
      · exact payload_heard hi ha hrecv hin.1 hin.2 hp _
      · exact .error hres

lemma inputConn_heard
    (hw : ¬ (inputConn env e c (Buf.of d) d.length recv).2.RejectedStream e.nstreams) :
    Heard c recv (inputConn env e c (Buf.of d) d.length recv) := by
  revert hw
  rw [inputConn]
  split_ifs with h1 h2 h3 h4 h5 h6 h7
  · exact fun _ => inputConnectAck_heard hi ha hrecv h1
  · exact fun _ => inputKeepalive_heard hi ha hrecv _
  · exact fun _ => inputConnClose_heard hi ha hrecv h3
  · exact fun _ => inputConnCloseAck_heard hi ha hrecv _
  · exact fun _ => inputStreamClose_heard hi ha hrecv _ _
  · exact fun _ => inputStreamCloseAck_heard hi ha hrecv _ _
  · exact inputStreamPayload_heard hi ha hrecv h7
  · exact fun _ => .error (by decide)

end

/-! ### All datagrams -/

/-- The connection that a datagram is for: the one it is keyed to, or a new one. -/
def Engine.Routed (e : Engine K) (d : Bytes) (addr : Addr) (c : ℕ) : Prop :=
  e.Target d addr c ∨
    Buf.of d 0 = msgConnConnect ∧ c = e.nconns ∧ ∀ q, ¬ e.Target d addr q

lemma inputConnect_heard (hi : Inside env e) {addr : Addr} (hop : op = .input d addr)
    (htype : Buf.of d 0 = msgConnConnect) (ha : addr ≠ [] ∧ addr.length ≤ addrMaxLen)
    (hrecv : Read env e.tick recv) (hc : e.Routed d addr c) :
    Heard c recv (inputConnect env e (Buf.of d) d.length addr recv) := by
  have htarget : ∀ q, readU64 (Buf.of d) protoCommonLen ≠ 0 →
      (engineGetPassiveConn env e addr (readU64 (Buf.of d) protoCommonLen) = some q ↔
        e.Target d addr q) := by
    intro q hid
    rw [engineGetPassiveConn_eq_some hi.toOwn ha hid, Engine.Target, if_pos htype]
    exact ⟨fun h => ⟨h.1.1, h.2.2, h.1.2, h.2.1⟩, fun h => ⟨⟨h.1, h.2.2.1⟩, h.2.2.2, h.2.1⟩⟩
  rw [inputConnect]
  dsimp only
  split_ifs with hlen hid hextLen hshort hver
  · exact .error (by decide)
  · exact .error (by decide)
  · exact .error (by decide)
  · exact .error (by decide)
  · cases engineGetPassiveConn env e addr (readU64 (Buf.of d) protoCommonLen) with
    | none => exact .error (by decide)
    | some q => exact .error (by decide)
  · cases hq : engineGetPassiveConn env e addr (readU64 (Buf.of d) protoCommonLen) with
    | some q =>
        have hqt := (htarget q hid).mp hq
        have hcq : c = q := by
          rcases hc with hc | ⟨-, -, hnone⟩
          · exact hc.unique hi.toOwn hqt
          · exact absurd hqt (hnone q)
        subst hcq
        have hl : e.LiveConn c := hqt.1
        have hpas : (e.conns c).isInitiator = false := by
          have hkey := hqt.2.2
          rw [if_pos htype] at hkey
          exact hkey.1
        dsimp only
        split_ifs with hst
        · exact .error (by decide)
        · rw [not_not] at hst
          have h0 : Acts env op e (e.countReceived c d.length) := .single (countReceived_act c _)
          have hlate := connNoteReceive_late (h0.inside hi) hl recv false
          obtain ⟨x, m, t, h1, heq, hx⟩ := connNoteReceive_act (h0.inside hi) hl
            (hrecv.mono (h0.tick hi.toOwn)) (hop.trans (by rw [← hqt.2.1]; rfl)) false
          have hi1 : Inside env _ := Acts.inside (h0.tail h1) hi
          generalize connNoteReceive env (e.countReceived c d.length) c recv false = e1
            at hlate h1 heq hi1 ⊢
          have hx1 : e1.conns c = x := by rw [heq, stepConn_conns_self]
          have hl1 : e1.LiveConn c := ⟨by rw [heq]; exact hl.1, by rw [hx1, hx]; exact hl.2⟩
          have hst1 : (e1.conns c).state = .connected := by rw [hx1, hx]; exact hst
          obtain ⟨h2, -⟩ : Act env op e1 _ ∧ _ := connSendConnectAck_act hl1
            (by rw [hx1, hx]; exact hpas) (by simp [hst1]) (Or.inl ⟨rfl, hst1⟩)
          exact Acts.heard (.single h2) hi1.toSound hl1.1 hlate 0
    | none =>
        rw [not_not] at hver
        have hnone : ∀ q, ¬ e.Target d addr q := by
          intro q hqt
          rw [(htarget q hid).mpr hqt] at hq
          cases hq
        have hcn : c = e.nconns := by
          rcases hc with hc | ⟨-, hc, -⟩
          · exact absurd hc (hnone c)
          · exact hc
        subst hcn
        have hent : Entered env op recv e _ := protocolAccept_entered hi hop
          ⟨htype, rfl, hid, hver, rfl, not_lt.mp hextLen, not_lt.mp hshort⟩ ha hq hrecv
        dsimp only
        generalize protocolAccept env e addr _ _ recv = r at hent ⊢
        cases hent with
        | failed => exact .error (by decide)
        | entered h1 hl1 hlate _ h =>
            exact h.heard (Acts.inside (.single h1) hi).toSound hl1.1 hlate 0

lemma protocolInput_heard (hi : Inside env e) {addr : Addr} (hop : op = .input d addr)
    (hrecv : Read env e.tick recv) (hn : e.NoInit) (hc : e.Routed d addr c)
    (hw : ¬ (protocolInput env e (Buf.of d) d.length addr recv).2.RejectedStream e.nstreams) :
    Heard c recv (protocolInput env e (Buf.of d) d.length addr recv) := by
  revert hw
  rw [protocolInput]
  split_ifs with hlen haddr hshort htype
  · exact fun _ => .error (by decide)
  · exact fun _ => .error (by decide)
  · exact fun _ => .error (by decide)
  · exact fun _ => inputConnect_heard hi hop htype (by simpa using haddr) hrecv hc
  dsimp only
  split_ifs with hid
  · exact fun _ => .error (by decide)
  cases hq : engineGetConnById env e addr (readU64 (Buf.of d) 1) with
  | none => exact fun _ => .error (by decide)
  | some q =>
      obtain ⟨hl, hdest, hpeer⟩ :=
        (engineGetConnById_eq_some hi.toOwn (by simpa using haddr) hid).mp hq
      have hqt : e.Target d addr q := ⟨hl, hpeer, by rw [if_neg htype]; exact hdest⟩
      have hcq : c = q := by
        rcases hc with hc | ⟨hct, -⟩
        · exact hc.unique hi.toOwn hqt
        · exact absurd hct htype
      subst hcq
      have h0 : Acts env op e (e.countReceived c d.length) := .single (countReceived_act c _)
      have ha : Addressed op d (e.countReceived c d.length) c :=
        ⟨hl, hn c hl, hop.trans (by rw [← hpeer]; rfl), hdest.symm⟩
      exact inputConn_heard (h0.inside hi) ha (hrecv.mono (h0.tick hi.toOwn))

/-- The host does not refuse the stream that this datagram creates, if it creates one: its
handle would be the next one. -/
def Welcomes (env : Env K) (e : Engine K) (d : Bytes) (addr : Addr) : Prop :=
  ¬ (engineInput env e d addr).2.RejectedStream e.nstreams

instance (e : Engine K) (addr : Addr) : Decidable (Welcomes env e d addr) :=
  inferInstanceAs (Decidable (¬ _))

/-- **A datagram that is handled with the result zero** pushes the time of the last packet. -/
lemma engineInput_heard (hb : Boundary env e) {addr : Addr} (hc : e.Routed d addr c)
    (hw : Welcomes env e d addr) (hret : (engineInput env e d addr).1 = 0) :
    c < (engineInput env e d addr).2.nconns ∧
      env.monotonicTimeMs e.tick ≤ ((engineInput env e d addr).2.conns c).lastRecvTs := by
  have hd : d ≠ [] := by
    rintro rfl
    rw [engineInput, if_pos rfl] at hret
    exact absurd hret (show ¬ (-errInvalidParam = 0) by decide)
  obtain ⟨e0, hr⟩ := hb.received hd addr
  obtain ⟨st, -, he0⟩ := hr.opened
  have hc0 : e0.Routed d addr c := by rw [he0]; exact hc
  have hs0 : e0.nstreams = e.nstreams := by rw [he0]; rfl
  have hself : Call.input d addr = .input d addr := rfl
  have hheard := protocolInput_heard hr.inside hself hr.read hr.noInit hc0
  rw [Welcomes, hr.result] at hw
  rw [hr.result] at hret ⊢
  obtain ⟨armed, deadline, evs, heq, -⟩ := engineOperationLeave_did env hr.depth
  rw [heq] at hw ⊢
  refine hheard (fun hrej => hw ?_) hret
  obtain ⟨v, hv, hmem⟩ := hrej
  rw [hs0] at hmem
  exact ⟨v, hv, List.mem_append_right _ (List.mem_append_right _ hmem)⟩

/-! ### The update -/

/-- `y` is what an update at the time `now` may make of the record `x` of a `CONNECTED`
connection. -/
structure Watched (x : Conn) (now : ℤ) (y : Conn) : Prop where
  waits : y.internalClosed = true ∨
    y.state = .connected ∧ y.lastRecvTs = x.lastRecvTs ∧ y.config = x.config
  error : y.state = .error → deadlineAfter x.lastRecvTs x.config.keepaliveTimeoutMs ≤ now

lemma Watched.of_connected {x y : Conn} {now : ℤ} (hs : y.state = .connected)
    (hr : y.lastRecvTs = x.lastRecvTs) (hc : y.config = x.config) : Watched x now y :=
  ⟨Or.inr ⟨hs, hr, hc⟩, by simp [hs]⟩

lemma Watched.of_apart {x y y' : Conn} {now : ℤ} (h : Watched x now y) (heq : y'.apart = y.apart) :
    Watched x now y' := by
  have hcl : y'.apart.internalClosed = y.apart.internalClosed := by rw [heq]
  have hst : y'.apart.state = y.apart.state := by rw [heq]
  have hrecv : y'.apart.lastRecvTs = y.apart.lastRecvTs := by rw [heq]
  have hcfg : y'.apart.config = y.apart.config := by rw [heq]
  simp only [Conn.apart] at hcl hst hrecv hcfg
  obtain ⟨h1, h2⟩ := h
  rw [← hcl, ← hst, ← hrecv, ← hcfg] at h1
  rw [← hst] at h2
  exact ⟨h1, h2⟩

/-- Only the time of the last packet and the timeout matter. -/
lemma Watched.congr {x x' y : Conn} {now : ℤ} (h : Watched x now y)
    (hr : x.lastRecvTs = x'.lastRecvTs) (hc : x.config = x'.config) : Watched x' now y := by
  obtain ⟨h1, h2⟩ := h
  rw [hr, hc] at h1 h2
  exact ⟨h1, h2⟩

section

variable {now : ℤ} (hi : Inside env e) (hl : e.LiveConn c)

include hi hl

lemma connRefreshTimer_conns : (connRefreshTimer env e c now).conns = e.conns := by
  obtain ⟨m, t, -, -, hr⟩ := connRefreshTimer_did env hl.2 (hi.conn_owner hl) now
  rw [hr.eq_of_depth hi.depth]

/-- The record of a connection that is finalised. -/
lemma connCloseInternal_record (reason : UInt8) :
    ∃ m n, (connCloseInternal env e c reason).conns c = (e.conns c).final m n := by
  obtain ⟨-, -, m, n, heq, -⟩ := connCloseInternal_views hi.toOwn hi.depth hl reason
  exact ⟨m, n, heq⟩

lemma connUpdateConnected_watched (hst : (e.conns c).state = .connected) :
    Watched (e.conns c) now ((connUpdateConnected env e c now).conns c) := by
  rw [connUpdateConnected]
  dsimp only
  split_ifs with hdue
  · obtain ⟨h1, hl1, -⟩ : Act env .update e _ ∧ _ := connError_act hi hl (Or.inr hst)
    generalize connSetState env e c .error = e1 at h1 hl1 ⊢
    have h2 : Act env .update e1 { e1 with
        tick := e1.tick, connStats := e1.connStats
        stats := { e1.stats with
          connKeepaliveTimeoutTotal := e1.stats.connKeepaliveTimeoutTotal + 1 } } :=
      .quiet le_rfl rfl
    obtain ⟨m, n, heq⟩ := connCloseInternal_record
      (Acts.inside ((Relation.ReflTransGen.single h1).tail h2) hi) hl1 closeReasonTimeout
    rw [heq]
    exact ⟨Or.inl rfl, fun _ => hdue⟩
  · obtain ⟨h1, hl1, hcl⟩ : Acts env .update e _ ∧ _ := connIdle_acts hi hl hst rfl
    obtain ⟨m, n, heq⟩ := connCloseInternal_record (h1.inside hi) hl1 closeReasonIdle
    rw [heq]
    refine ⟨Or.inl rfl, fun herr => ?_⟩
    simp [Conn.final, hcl] at herr
  · obtain ⟨h1, hl1⟩ : Act env .update _ _ ∧ _ := connSendKeepalive_act hi hl hst rfl
    rw [connRefreshTimer_conns (Acts.inside (.single h1) hi) hl1]
    obtain ⟨time, ok, m, t, st, cs, -, -, -, heq⟩ :=
      connSendKeepalive_eq env hi.depth hl (hi.conn_owner hl) rfl
    rw [heq, stepConn_conns_self]
    exact .of_connected hst rfl rfl
  · rw [connRefreshTimer_conns hi hl]
    exact .of_connected hst rfl rfl

/-- The callback of the connection itself. -/
lemma connUpdate_watched (hst : (e.conns c).state = .connected) :
    Watched (e.conns c) now ((connUpdate env e c now).conns c) := by
  rw [connUpdate, if_neg (by simp [hl.2])]
  dsimp only
  split_ifs
  · rw [connRefreshTimer_conns hi hl]
    exact .of_connected hst rfl rfl
  · rw [hst]
    exact connUpdateConnected_watched hi hl hst

end

/-- One round of the dispatch loop. -/
lemma Round.watched {now : ℤ} (h : Round env now e) {o : Owner} {rest : List Owner}
    (hd : e.timerManager.due = o :: rest) {x : Conn} (hw : Watched x now (e.conns c)) :
    Watched x now ((engineDispatch env now e o).conns c) := by
  by_cases ho : o = .conn c
  · subst ho
    have hl : e.Live (.conn c) := h.live_of_due (by simp [hd])
    have hi := h.inside hd
    have hend : ∀ e1 : Engine K, (engineDispatchEnd e1 (.conn c)).conns = e1.conns := by
      intro e1
      rw [engineDispatchEnd]
      split_ifs <;> rfl
    rw [engineDispatch, hend, timeoutCallback]
    have hl0 : (engineDispatchBegin e (.conn c)).LiveConn c := hl
    have hw0 : Watched x now ((engineDispatchBegin e (.conn c)).conns c) := hw
    generalize engineDispatchBegin e (.conn c) = e0 at hi hl0 hw0 ⊢
    rcases hw0.waits with hcl | ⟨hst, hrecv, hcfg⟩
    · exact absurd hcl (by simp [hl0.2])
    · exact (connUpdate_watched hi hl0 hst).congr hrecv hcfg
  · refine hw.of_apart ((h.within hd).conn c ?_)
    cases o with
    | conn q => exact fun hq => ho (by rw [show c = q from hq])
    | stream s => exact fun hq => Owner.noConfusion hq

/-- **An update that takes a connection from `CONNECTED` to `ERROR`** finds the last packet as
old as the keepalive timeout. -/
lemma engineUpdate_keepalive (hb : Boundary env e) (hst : (e.conns c).state = .connected)
    (herr : ((engineUpdate env e).conns c).state = .error) :
    deadlineAfter (e.conns c).lastRecvTs (e.conns c).config.keepaliveTimeoutMs ≤
      engineNow env e := by
  have hround : ∀ e' o rest, Round env (engineNow env e) e' → e'.timerManager.due = o :: rest →
      Watched (e.conns c) (engineNow env e) (e'.conns c) →
      Watched (e.conns c) (engineNow env e)
        ((engineDispatch env (engineNow env e) e' o).conns c) :=
    fun _ _ _ hr hd => hr.watched hd
  obtain ⟨e1, h1, -, hw, heq⟩ := hb.dispatched hround (.of_connected hst rfl rfl)
  obtain ⟨armed, deadline, evs, hleave, -⟩ := engineOperationLeave_did env h1.depth
  rw [heq, hleave] at herr
  exact hw.error herr

lemma le_of_deadlineAfter_le {anchor now : ℤ} {interval : UInt32}
    (h : deadlineAfter anchor interval ≤ now) (hnow : now < int64Max) :
    anchor + interval.toNat ≤ now := by
  rw [deadlineAfter] at h
  split_ifs at h
  · omega
  · exact h

/-- **A keepalive timeout comes after silence.**  When an update takes a connection from
`CONNECTED` to `ERROR`, every datagram for it that was handled with the result zero is as old
as the keepalive timeout, and so is the connection; unless the datagram was the first payload of
a stream and the host refused that stream. -/
theorem keepalive_timeout_silent (h1 : Reachable env e1) {addr : Addr}
    (hc : e1.Routed d addr c) (hret : (engineInput env e1 d addr).1 = 0)
    (hw : Welcomes env e1 d addr) (hrun : Run env (engineInput env e1 d addr).2 e)
    (hst : (e.conns c).state = .connected)
    (herr : ((engineUpdate env e).conns c).state = .error)
    (hclock : engineNow env e < int64Max) :
    env.monotonicTimeMs e1.tick + (e.conns c).config.keepaliveTimeoutMs.toNat ≤ engineNow env e ∧
      (e.conns c).createdTs + (e.conns c).config.keepaliveTimeoutMs.toNat ≤ engineNow env e := by
  have hvalid : (Call.input d addr).Valid e1 := trivial
  have hr2 : Reachable env (engineInput env e1 d addr).2 := .call h1 (.input d addr) hvalid
  have hr : Reachable env e := hrun.reachable hr2
  obtain ⟨hlt, hheard⟩ := engineInput_heard h1.boundary hc hw hret
  have hlast := hrun.lastRecvTs_le hr2 hlt
  have hle := le_of_deadlineAfter_le (engineUpdate_keepalive hr.boundary hst herr) hclock
  have hcreated := hr.createdTs_le (hlt.trans_le (hrun.extends hr2).nconns)
  omega

/-- An engine whose connection gives up after a millisecond. -/
def hasty : Engine Unit :=
  (Call.connSetConfig 0 { connConfigInit with keepaliveTimeoutMs := 1 }).exec (idealHost 0 0)
    accepted

lemma hasty_reachable : Reachable (idealHost 0 0) hasty :=
  .call accepted_reachable (.connSetConfig 0 _) ⟨by decide +kernel, by decide +kernel⟩

/-- The connection has heard from the peer, and times out. -/
theorem keepalive_timeout_silent_hasty :
    (idealHost 0 0).monotonicTimeMs hasty.tick +
        (((engineInput (idealHost 0 0) hasty plainConnect [10]).2.conns
          0).config.keepaliveTimeoutMs.toNat : ℤ) ≤
      engineNow (idealHost 0 0) (engineInput (idealHost 0 0) hasty plainConnect [10]).2 := by
  have hroute : hasty.Routed plainConnect [10] 0 := by
    refine Or.inl ⟨⟨?_, ?_⟩, ?_, ?_⟩
    all_goals decide +kernel
  have hret : (engineInput (idealHost 0 0) hasty plainConnect [10]).1 = 0 := by decide +kernel
  have hw : Welcomes (idealHost 0 0) hasty plainConnect [10] := by decide +kernel
  have hst : ((engineInput (idealHost 0 0) hasty plainConnect [10]).2.conns 0).state =
      .connected := by decide +kernel
  have herr : ((engineUpdate (idealHost 0 0)
      (engineInput (idealHost 0 0) hasty plainConnect [10]).2).conns 0).state = .error := by
    decide +kernel
  have hclock : engineNow (idealHost 0 0)
      (engineInput (idealHost 0 0) hasty plainConnect [10]).2 < int64Max := by decide +kernel
  exact (keepalive_timeout_silent hasty_reachable hroute hret hw .refl hst herr hclock).1

/-- An engine whose host refuses streams, with a connection that has not heard from its peer
for a while. -/
def snubbing : Engine Unit :=
  (Call.connSetConfig 0 { connConfigInit with keepaliveTimeoutMs := 20 }).exec (idealHost 0 1)
    ((Call.connSetCallbacks 0 (some { streamCreateNotify := true })).exec (idealHost 0 1)
      ((Call.input plainConnect [10]).exec (idealHost 0 1) idealEngine))

lemma snubbing_reachable : Reachable (idealHost 0 1) snubbing := by
  refine .call (.call (.call (idealEngine_reachable 0 1) (.input plainConnect [10]) trivial)
    (.connSetCallbacks 0 _) ⟨?_, ?_⟩) (.connSetConfig 0 _) ⟨?_, ?_⟩
  all_goals decide +kernel

/-- A payload arrives, the host refuses its stream, and the connection times out before the
timeout has passed since then. -/
theorem keepalive_timeout_after_packet :
    Reachable (idealHost 0 1) snubbing ∧ snubbing.Target (plainPayload 1 1 5) [10] 0 ∧
      (engineInput (idealHost 0 1) snubbing (plainPayload 1 1 5) [10]).1 = 0 ∧
      ((engineInput (idealHost 0 1) snubbing (plainPayload 1 1 5) [10]).2.conns 0).state = .connected ∧
      ((engineUpdate (idealHost 0 1)
        (engineInput (idealHost 0 1) snubbing (plainPayload 1 1 5) [10]).2).conns 0).state = .error ∧
      engineNow (idealHost 0 1) (engineInput (idealHost 0 1) snubbing (plainPayload 1 1 5) [10]).2 <
        (idealHost 0 1).monotonicTimeMs snubbing.tick + 20 := by
  refine ⟨snubbing_reachable, ⟨⟨?_, ?_⟩, ?_, ?_⟩, ?_, ?_, ?_, ?_⟩
  all_goals decide +kernel

end KcpMux
