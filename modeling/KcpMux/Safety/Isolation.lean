import KcpMux.Runs.Rounds
import KcpMux.Runs.Views

/-!
A datagram concerns one connection.

`Engine.Target` is the live connection a datagram from an address is keyed to, of which there
is at most one.  The handlers of `kcpmux_protocol_input` are followed with `Within`, from the
message types to the dispatch; `Covers` says which objects they may touch.  `input_isolated`
shows that `kcpmux_engine_input` leaves every connection but the target as it was, with its
streams, their timer nodes and their places in the batching list.
-/

namespace KcpMux

variable {K : Type} {env : Env K} {op : Call} {S : Owner → Prop} {C : ℕ → Prop}
  {e e1 : Engine K} {c s : ℕ} {d : Bytes} {recv : ℤ}

/-! ### Messages to a connection -/

lemma inputKeepalive_within (hS : Covers S e c) (size : ℕ) :
    Within S C e (inputKeepalive env e c size recv).2 := by
  rw [inputKeepalive]
  split_ifs
  · exact Within.refl e
  · exact (Within.refl e).connNoteReceive hS.conn recv false

section

variable (hi : Inside env e) (ha : Addressed op d e c) (hS : Covers S e c)

include hi ha hS

lemma inputConnectAck_within (hrecv : Read env e.tick recv) :
    Within S C e (inputConnectAck env e c (Buf.of d) d.length recv).2 := by
  obtain ⟨h1, ha1, -, -, hs1, -⟩ := ha.note hi hrecv false rfl
  have hnote : Within S C e (connNoteReceive env e c recv false) :=
    (Within.refl e).connNoteReceive hS.conn recv false
  rw [inputConnectAck]
  dsimp only
  generalize (if Buf.of d (protoCommonLen + 8) ≠ version ∨
    Buf.of d (protoCommonLen + 9) = UInt8.ofInt ackResultVersion then closeReasonVersion
    else closeReasonRejected) = reason
  generalize connNoteReceive env e c recv false = e1 at h1 ha1 hs1 hnote ⊢
  generalize (if (readU16 (Buf.of d) (protoCommonLen + 10)).toNat > 0 then
    ProtoExt.clip ((Buf.of d).slice protoConnectAckLen _)
    else (e1.conns c).peerProtoExt) = peerExt
  split_ifs with hst
  · exact Within.refl e
  · exact Within.refl e
  · exact Within.refl e
  · exact Within.refl e
  · exact Within.refl e
  · exact (hnote.setConn hS.conn _).connSetState hS.conn _
  · rw [not_not] at hst
    set e2 : Engine K := { e1 with
      stats := { e1.stats with connRejectedTotal := e1.stats.connRejectedTotal + 1 } }
    have h2 : Acts env op e { e2 with tick := e2.tick, connStats := e2.connStats } :=
      h1.tail (.quiet le_rfl rfl)
    obtain ⟨h3, hl3, -⟩ : Act env op e2 _ ∧ _ :=
      connError_act (h2.inside hi) ha1.live (Or.inl (hs1.trans hst))
    exact hS.close ((hnote.stats _).connSetState hS.conn _) (Acts.inside (h2.tail h3) hi) hl3 reason

lemma inputConnClose_within (hrecv : Read env e.tick recv) (htype : Buf.of d 0 = msgConnClose) :
    Within S C e (inputConnClose env e c (Buf.of d) d.length recv).2 := by
  rw [inputConnClose]
  dsimp only
  split_ifs with hlen
  · exact Within.refl e
  · obtain ⟨h1, ha1, -⟩ := ha.note hi hrecv false rfl
    obtain ⟨h2, hl2⟩ : Act env op _ _ ∧ _ :=
      connSendCloseAck_act ha1 htype (not_lt.mp hlen) (Buf.of d protoCommonLen)
    have hnote : Within S C e (connNoteReceive env e c recv false) :=
      (Within.refl e).connNoteReceive hS.conn recv false
    exact hS.close (hnote.connSendCloseAck hS.conn _) (Acts.inside (h1.tail h2) hi) hl2 _

lemma inputConnCloseAck_within (hrecv : Read env e.tick recv) (size : ℕ) :
    Within S C e (inputConnCloseAck env e c size recv).2 := by
  rw [inputConnCloseAck]
  split_ifs
  · exact Within.refl e
  · exact Within.refl e
  · obtain ⟨h1, ha1, -⟩ := ha.note hi hrecv false rfl
    exact hS.close ((Within.refl e).connNoteReceive hS.conn recv false) (h1.inside hi) ha1.live _

/-! ### Messages to a stream -/

lemma inputStreamClose_within (buf : Buf) (size : ℕ) :
    Within S C e (inputStreamClose env e c buf size recv).2 := by
  rw [inputStreamClose]
  dsimp only
  split_ifs
  · exact Within.refl e
  · exact Within.refl e
  · cases hs : connGetStreamById env e c (readU32 buf protoCommonLen) with
    | none => exact Within.refl e
    | some s =>
        have hin := ((connGetStreamById_eq_some hi.toOwn ha.live.1).mp hs).1
        exact ((Within.refl e).connNoteReceive hS.conn recv false).streamHandleClose
          (hS.home (Within.refl e) hin.2 hin.1.1) _

lemma inputStreamCloseAck_within (buf : Buf) (size : ℕ) :
    Within S C e (inputStreamCloseAck env e c buf size recv).2 := by
  rw [inputStreamCloseAck]
  dsimp only
  split_ifs
  · exact Within.refl e
  · exact Within.refl e
  · cases hs : connGetStreamById env e c (readU32 buf protoCommonLen) with
    | none => exact Within.refl e
    | some s =>
        have hin := ((connGetStreamById_eq_some hi.toOwn ha.live.1).mp hs).1
        dsimp only
        split_ifs
        · exact Within.refl e
        · exact ((Within.refl e).connNoteReceive hS.conn recv false).streamCloseInternal
            (hS.home (Within.refl e) hin.2 hin.1.1) _

end

/-! ### The first payload of a stream -/

/-- A stream that the host refuses. -/
lemma protocolRejectStream_within (h : Within S C e e1) (hs : Within.Home S C e s) (recv : ℤ) :
    Within S C e (protocolRejectStream env e1 s recv) := by
  have hset := h.setStream hs.own (by rfl) (x := { e1.streams s with
    callbacks := {}, closeReason := closeReasonRejected, retryCount := 0, lastCtrlTs := recv })
  have hstate : Within S C e (streamSetState env _ s .closing) :=
    (hset.setClosePhase hs .waitAck).streamSetState hs .closing
  have hsend : Within S C e (streamSendClose env _ s closeReasonRejected).2 :=
    hstate.streamSendClose hs closeReasonRejected
  rw [protocolRejectStream]
  dsimp only
  split_ifs
  · exact hsend.streamCloseInternal hs _
  · exact hsend

lemma protocolFirstPayload_within (h : Within S C e e1) (hs : Within.Home S C e s)
    (hc : S (.conn c)) (payload : Bytes) (recv : ℤ) :
    Within S C e (protocolFirstPayload env e1 c s payload recv).2 := by
  have hpay : Within S C e (streamHandlePayload env e1 s payload recv).2 :=
    h.streamHandlePayload hs payload recv
  rw [protocolFirstPayload]
  dsimp only
  split_ifs
  · exact (hpay.streamSetState hs _).streamCloseInternal hs _
  · exact hpay.connNoteReceive hc recv true

/-- A stream of the peer is created. -/
lemma protocolCreateStream_within (hi : Inside env e) (hl : e.LiveConn c) (hS : Covers S e c)
    (hst : (e.conns c).state = .connected) (id : UInt32) (payload : Bytes) (recv : ℤ) :
    Within S C e (protocolCreateStream env e c id payload recv).2 := by
  have hs : S (.stream e.nstreams) := hS.stream _ fun h => absurd h (lt_irrefl _)
  have hnew : Within S C e (streamNew env e c id none false).2 :=
    (Within.refl e).streamNew hs (Or.inl hS.conn) id none false
  have hsn : StreamNewed env e c id none false (streamNew env e c id none false) :=
    streamNew_newed hi.depth hl hst id none false
  rw [protocolCreateStream]
  split_ifs
  · exact Within.refl e
  · exact Within.refl e
  · exact Within.refl e
  generalize streamNew env e c id none false = r at hnew hsn ⊢
  cases hsn with
  | failed => exact hnew
  | @created prepared kcp now q t capacity m =>
      dsimp only at hnew ⊢
      generalize hplace : e.placeStream _ _ m t _ = e1 at hnew ⊢
      have hconn : (e1.streams e.nstreams).conn = c := by
        rw [← hplace]
        simp [Engine.placeStream, streamRecord, Stream.blockRead]
      -- the new stream is at home from its placement on
      have hhome : Within.Home S C e1 e.nstreams :=
        hS.home hnew hconn (by rw [← hplace]; exact Nat.lt_succ_self _)
      refine hnew.trans ?_
      have hadd : Within S C e1 (connAddStream env e1 c e.nstreams) :=
        (Within.refl e1).connAddStream hs hS.conn
      have h2 : Within S C e1 _ := hadd.setConn hS.conn
        { (connAddStream env e1 c e.nstreams).conns c with
          latestPeerStreamId := id, peerStreamIdInitialized := true }
      generalize (connAddStream env e1 c e.nstreams).setConn c _ = e2 at h2 ⊢
      have hset : Within S C e1 ((env.streamCreateNotify e2.tick).setters.foldl
          (StreamSetter.apply env e.nstreams) e2.tock) :=
        h2.tock.streamSetters hhome (env.streamCreateNotify e2.tick).setters
      have h3 := hset.logged
        (.streamCreateNotify e.nstreams (env.streamCreateNotify e2.tick).result)
        fun o ho => by cases ho; exact hs
      split_ifs
      · exact protocolRejectStream_within h3 hhome recv
      · exact protocolFirstPayload_within h3 hhome hS.conn payload recv

section

variable (hi : Inside env e) (ha : Addressed op d e c) (hS : Covers S e c)

include hi ha hS

lemma inputStreamPayload_within (buf : Buf) (size : ℕ) (recv : ℤ) :
    Within S C e (inputStreamPayload env e c buf size recv).2 := by
  rw [inputStreamPayload]
  dsimp only
  split_ifs with hst
  · exact Within.refl e
  · exact Within.refl e
  · exact Within.refl e
  cases hs : connGetStreamById env e c (readU32 buf protoCommonLen) with
  | none => exact protocolCreateStream_within hi ha.live hS (not_not.mp hst) _ _ recv
  | some s =>
      have hin := ((connGetStreamById_eq_some hi.toOwn ha.live.1).mp hs).1
      have hpay : Within S C e (streamHandlePayload env e s _ recv).2 :=
        (Within.refl e).streamHandlePayload (hS.home (Within.refl e) hin.2 hin.1.1)
          (buf.slice protoStreamHeaderLen (size - protoStreamHeaderLen)) recv
      dsimp only
      split_ifs
      · exact hpay.connNoteReceive hS.conn recv true
      · exact hpay

/-- **A message to a connection** touches the connection and its streams. -/
lemma inputConn_within (hrecv : Read env e.tick recv) :
    Within S C e (inputConn env e c (Buf.of d) d.length recv).2 := by
  rw [inputConn]
  split_ifs with h1 h2 h3 h4 h5 h6 h7
  · exact inputConnectAck_within hi ha hS hrecv
  · exact inputKeepalive_within hS _
  · exact inputConnClose_within hi ha hS hrecv h3
  · exact inputConnCloseAck_within hi ha hS hrecv _
  · exact inputStreamClose_within hi ha hS _ _
  · exact inputStreamCloseAck_within hi ha hS _ _
  · exact inputStreamPayload_within hi ha hS _ _ recv
  · exact Within.refl e

end

/-! ### The handshake -/

lemma protocolConnectNotify_within (h : Within S C e e1) (hc : S (.conn c)) :
    Within S C e (protocolConnectNotify env e1 c).2 := by
  rw [protocolConnectNotify]
  have h1 : Within S C e (e1.setConn c { e1.conns c with selfProtoExt := .empty }) :=
    h.setConn hc _
  dsimp only
  generalize e1.setConn c _ = e2 at h1 ⊢
  cases env.connConnectNotify with
  | none => exact h1
  | some notify =>
      have h2 : Within S C e ((notify e2.tick).setters.foldl (ConnSetter.apply env c) e2.tock) :=
        h1.tock.connSetters hc (notify e2.tick).setters
      have h3 := h2.logged (.connConnectNotify c (notify e2.tick).result)
        fun o ho => by cases ho; exact hc
      exact h3.setConn hc _

lemma protocolRejecting_within (h : Within S C e e1) (hc : S (.conn c)) (r : ℤ) :
    Within S C e (protocolRejecting env e1 c r) :=
  ((h.stats _).connSendConnectAck hc (UInt8.ofInt r)).setConn hc _

/-- A new connection of a peer enters the tables. -/
lemma protocolEnter_within (env : Env K) (h : Within S C e e1) (hc : S (.conn c)) (id : UInt64)
    (ext : Bytes) (recv : ℤ) :
    Within S C e (engineAddConn env (connNoteReceive env (e1.setConn c { e1.conns c with
      peerConnectionId := id, peerProtoExt := .clip ext }) c recv false) c) :=
  ((h.setConn hc _).connNoteReceive hc recv false).engineAddConn hc

/-- **A handshake with a peer that is not known yet** touches the new connection. -/
lemma protocolAccept_within (hi : Inside env e) {addr : Addr} {id : UInt64} {ext : Bytes}
    (hop : op = .input d addr) (hd : ConnectDatagram d id ext)
    (ha : addr ≠ [] ∧ addr.length ≤ addrMaxLen)
    (hfresh : engineGetPassiveConn env e addr id = none) (hrecv : Read env e.tick recv)
    (hS : Covers S e e.nconns) : Within S C e (protocolAccept env e addr id ext recv).2 := by
  rw [protocolAccept]
  have hwithin : Within S C e (connNew env e addr none false).2 :=
    (Within.refl e).connNew hS.conn addr none false
  have hnew : ConnNewed env op e addr none false (connNew env e addr none false) :=
    connNew_newed addr none false
  generalize connNew env e addr none false = r at hwithin hnew ⊢
  cases hnew with
  | failed => exact hwithin
  | @created prepared next now t capacity hid _ hc hn ht hnow hcap =>
      dsimp only at hwithin ⊢
      have hadded := protocolEnter_within env hwithin hS.conn id ext recv
      rw [placeConn_conns_self, placeConn_setConn, connNoteReceive_placeConn hi.depth rfl rfl]
        at hadded ⊢
      have hnc : NewConn env op e t
          { connRecord false e.nextConnectionId addr prepared next now with
            peerConnectionId := id, peerProtoExt := .clip ext
            lastRecvTs := if recv > now then recv else now } :=
        .passive hop hd hc hn hnow (hrecv.mono ht) ha hfresh
      generalize hadd : engineAddConn env _ e.nconns = e1 at hadded ⊢
      obtain ⟨h1, hl1, hx1, -⟩ := engineAddConn_act hi.toOwn ht hid hcap hnc hadd.symm
      have hA : Acts env op e e1 := .single h1
      have hnot : Notified env op e1 e.nconns (protocolConnectNotify env e1 e.nconns) :=
        protocolConnectNotify_notified (hA.inside hi) hl1 (by rw [hx1]; rfl) (by rw [hx1]; rfl)
          (by rw [hx1]; rfl)
      have hnotified : Within S C e (protocolConnectNotify env e1 e.nconns).2 :=
        protocolConnectNotify_within hadded hS.conn
      generalize protocolConnectNotify env e1 e.nconns = r at hnot hnotified ⊢
      cases hnot with
      | accepted =>
          rw [if_pos rfl]
          exact (hnotified.connSetState hS.conn _).connSendConnectAck hS.conn _
      | @refused e2 r evs h _ hl hx hr hev =>
          rw [if_neg hr, protocolReject_eq]
          have hrej : Within S C e (protocolRejecting env _ e.nconns r) :=
            protocolRejecting_within hnotified hS.conn r
          obtain ⟨hown, hdep, hl2, -⟩ :=
            protocolRejecting_own (Acts.inside (hA.trans h) hi) hl hx.1 hx.2 hr hev rfl
          exact hrej.connCloseInternal hS.conn hown hdep hl2.1
            (fun q hq => hS.of_conn hrej hq.2) _

/-! ### Dispatch -/

/-- The live connection that a datagram from `addr` is keyed to. -/
def Engine.Target (e : Engine K) (d : Bytes) (addr : Addr) (c : ℕ) : Prop :=
  e.LiveConn c ∧ (e.conns c).peerAddr = addr ∧
    if Buf.of d 0 = msgConnConnect then
      (e.conns c).isInitiator = false ∧
        (e.conns c).peerConnectionId = readU64 (Buf.of d) protoCommonLen
    else (e.conns c).localConnectionId = readU64 (Buf.of d) 1

/-- **There is at most one.** -/
lemma Engine.Target.unique (h : Own env e) {addr : Addr} {c' : ℕ} (hc : e.Target d addr c)
    (hc' : e.Target d addr c') : c = c' := by
  obtain ⟨hl, haddr, hkey⟩ := hc
  obtain ⟨hl', haddr', hkey'⟩ := hc'
  split_ifs at hkey hkey' with htype
  · exact h.handshakeKey c c' ⟨hl, hkey.1⟩ ⟨hl', hkey'.1⟩ (haddr.trans haddr'.symm)
      (hkey.2.trans hkey'.2.symm)
  · exact h.connIdInj c hl.1 c' hl'.1 (hkey.trans hkey'.symm)

lemma countReceived_within (hc : S (.conn c)) (size : ℕ) :
    Within S C e (e.countReceived c size) :=
  (Within.refl e).connStats hc _

lemma inputConnect_within (hi : Inside env e) {addr : Addr} (hop : op = .input d addr)
    (htype : Buf.of d 0 = msgConnConnect) (ha : addr ≠ [] ∧ addr.length ≤ addrMaxLen)
    (hrecv : Read env e.tick recv) :
    ∃ c, (c = e.nconns ∨ e.Target d addr c) ∧
      Within (e.Around c) C e (inputConnect env e (Buf.of d) d.length addr recv).2 := by
  have hrefl : ∃ c, (c = e.nconns ∨ e.Target d addr c) ∧ Within (e.Around c) C e e :=
    ⟨e.nconns, Or.inl rfl, Within.refl e⟩
  have htarget : ∀ c, readU64 (Buf.of d) protoCommonLen ≠ 0 →
      engineGetPassiveConn env e addr (readU64 (Buf.of d) protoCommonLen) = some c →
      e.Target d addr c := by
    intro c hid hc
    obtain ⟨hp, hpeer, haddr⟩ := (engineGetPassiveConn_eq_some hi.toOwn ha hid).mp hc
    exact ⟨hp.1, haddr, by rw [if_pos htype]; exact ⟨hp.2, hpeer⟩⟩
  rw [inputConnect]
  dsimp only
  split_ifs with hlen hid hextLen hshort hver
  · exact hrefl
  · exact hrefl
  · exact hrefl
  · exact hrefl
  · cases hc : engineGetPassiveConn env e addr (readU64 (Buf.of d) protoCommonLen) with
    | none => exact hrefl
    | some c =>
        have hin : e.Around c (.conn c) := rfl
        exact ⟨c, Or.inr (htarget c hid hc), (Within.refl e).connSendConnectAck hin _⟩
  · cases hc : engineGetPassiveConn env e addr (readU64 (Buf.of d) protoCommonLen) with
    | some c =>
        dsimp only
        split_ifs
        · exact hrefl
        · have hin : e.Around c (.conn c) := rfl
          have hcount : Within (e.Around c) C e (e.countReceived c d.length) :=
            countReceived_within hin _
          exact ⟨c, Or.inr (htarget c hid hc),
            (hcount.connNoteReceive hin recv false).connSendConnectAck hin _⟩
    | none =>
        rw [not_not] at hver
        exact ⟨e.nconns, Or.inl rfl, protocolAccept_within hi hop
          ⟨htype, rfl, hid, hver, rfl, not_lt.mp hextLen, not_lt.mp hshort⟩ ha hc hrecv
          (e.covers_around _)⟩

/-- **`kcpmux_protocol_input`** touches the connection the datagram is keyed to, or a new one. -/
lemma protocolInput_within (hi : Inside env e) {addr : Addr} (hop : op = .input d addr)
    (hrecv : Read env e.tick recv) (hn : e.NoInit) :
    ∃ c, (c = e.nconns ∨ e.Target d addr c) ∧
      Within (e.Around c) C e (protocolInput env e (Buf.of d) d.length addr recv).2 := by
  have hrefl : ∃ c, (c = e.nconns ∨ e.Target d addr c) ∧ Within (e.Around c) C e e :=
    ⟨e.nconns, Or.inl rfl, Within.refl e⟩
  rw [protocolInput]
  split_ifs with hlen haddr hshort htype
  · exact hrefl
  · exact hrefl
  · exact hrefl
  · exact inputConnect_within hi hop htype (by simpa using haddr) hrecv
  dsimp only
  split_ifs with hid
  · exact hrefl
  cases hc : engineGetConnById env e addr (readU64 (Buf.of d) 1) with
  | none => exact hrefl
  | some c =>
      obtain ⟨hl, hdest, hpeer⟩ :=
        (engineGetConnById_eq_some hi.toOwn (by simpa using haddr) hid).mp hc
      have h0 : Acts env op e (e.countReceived c d.length) := .single (countReceived_act c _)
      have ha : Addressed op d (e.countReceived c d.length) c :=
        ⟨hl, hn c hl, hop.trans (by rw [← hpeer]; rfl), hdest.symm⟩
      have hin : e.Around c (.conn c) := rfl
      have hcount : Within (e.Around c) C e (e.countReceived c d.length) :=
        countReceived_within hin _
      refine ⟨c, Or.inr ⟨hl, hpeer, by rw [if_neg htype]; exact hdest⟩, hcount.trans ?_⟩
      exact inputConn_within (h0.inside hi) ha
        ((e.countReceived c d.length).covers_around c) (hrecv.mono (h0.tick hi.toOwn))

/-! ### The whole call -/

/-- The end of the outermost operation releases what the operation has finalised. -/
lemma Within.leave (env : Env K) (h : Within S C e e1) (hq : e.pendingReleaseList = [])
    (hd : e1.operationDepth = 1) : Within S C e (engineOperationLeave env e1) := by
  rw [engineOperationLeave_eq env hd]
  refine Within.rearm ?_ _
  have hlog : Within S C e
      { e1 with trace := (e1.pendingReleaseList.map Event.release).reverse ++ e1.trace } := by
    refine h.logs _ fun ev hev o ho => ?_
    rw [List.mem_reverse, List.mem_map] at hev
    obtain ⟨q, hqm, rfl⟩ := hev
    cases ho
    simpa [hq] using h.queue o hqm
  exact { hlog with queue := by simp [Engine.left] }

/-- The connection `c` and its streams are in `e'` what they are in `e`. -/
structure Engine.Untouched (e e' : Engine K) (c : ℕ) : Prop where
  conn : e'.conns c = e.conns c
  connStats : e'.connStats c = e.connStats c
  node : (e.timerManager.node (.conn c)).SameBut (e'.timerManager.node (.conn c))
  streams : ∀ s, e'.LiveIn c s ↔ e.LiveIn c s
  stream : ∀ s < e.nstreams, (e.streams s).conn = c → e'.streams s = e.streams s
  streamNode : ∀ s < e.nstreams, (e.streams s).conn = c →
    (e.timerManager.node (.stream s)).SameBut (e'.timerManager.node (.stream s))
  batch : ∀ s < e.nstreams, (e.streams s).conn = c →
    (s ∈ e'.pendingBatchStreams ↔ s ∈ e.pendingBatchStreams)
  log : ∃ evs, e'.trace = evs ++ e.trace ∧ ∀ ev ∈ evs, ∀ o, ev.subject = some o →
    o ≠ .conn c ∧ ∀ s < e.nstreams, (e.streams s).conn = c → o ≠ .stream s

lemma Within.untouched {q : ℕ} (h : Within (e.Around c) (fun _ => False) e e1) (ho : Own env e)
    (ho1 : Own env e1) (hn : e.nconns ≤ e1.nconns) (hq : q < e.nconns) (hne : q ≠ c) :
    e.Untouched e1 q := by
  have hconn : ¬ e.Around c (.conn q) := hne
  have hstream : ∀ s < e.nstreams, (e.streams s).conn = q → ¬ e.Around c (.stream s) :=
    fun s hs hsq hA => hne (hsq.symm.trans (hA hs))
  obtain ⟨hx, hst⟩ := h.table q hconn id
  obtain ⟨evs, ht, hev⟩ := h.log
  refine ⟨hx, hst, h.node _ hconn, fun s => ?_, fun s hs hsq => h.stream s (hstream s hs hsq),
    fun s hs hsq => h.node _ (hstream s hs hsq), fun s hs hsq => h.batch s (hstream s hs hsq),
    evs, ht, fun ev hm o hso => ⟨?_, ?_⟩⟩
  · have h1 := ho1.streamTable q (hq.trans_le hn)
    rw [hx] at h1
    exact h1.same (ho.streamTable q hq) s
  · rintro rfl
    exact hconn (hev ev hm _ hso)
  · rintro s hs hsq rfl
    exact hstream s hs hsq (hev ev hm _ hso)

lemma Engine.Untouched.refl (e : Engine K) (c : ℕ) : e.Untouched e c :=
  ⟨rfl, rfl, TimerNode.SameBut.refl _, fun _ => Iff.rfl, fun _ _ _ => rfl,
    fun _ _ _ => TimerNode.SameBut.refl _, fun _ _ _ => Iff.rfl, [], rfl, by simp⟩

/-- **A datagram modifies at most one connection**: the live one it is keyed to.  Every other
connection and its streams stay as they are, in the tables, in the heap and in the batching
list, and so does every connection with another address. -/
theorem input_isolated (h : Reachable env e) (d : Bytes) (addr : Addr) :
    (∀ c c', e.Target d addr c → e.Target d addr c' → c = c') ∧
      (∀ c < e.nconns, ¬ e.Target d addr c → e.Untouched (engineInput env e d addr).2 c) ∧
      ∀ c < e.nconns, (e.conns c).peerAddr ≠ addr →
        e.Untouched (engineInput env e d addr).2 c := by
  have hb : Boundary env e := h.boundary
  have hrest : ∀ c < e.nconns, ¬ e.Target d addr c →
      e.Untouched (engineInput env e d addr).2 c := by
    intro c hlt hc
    by_cases hd : d = []
    · rw [engineInput, if_pos hd]
      exact .refl e c
    have hvalid : (Call.input d addr).Valid e := trivial
    obtain ⟨hm, hb'⟩ := hb.exec hvalid
    have hexec : (Call.input d addr).exec env e = (engineInput env e d addr).2 := rfl
    rw [hexec] at hm hb'
    obtain ⟨e0, hr⟩ := hb.received hd addr
    obtain ⟨st, -, he0⟩ := hr.opened
    obtain ⟨k, hk, hin⟩ := protocolInput_within (C := fun _ => False) hr.inside rfl hr.read hr.noInit
    have hne : c ≠ k := by
      rintro rfl
      rcases hk with hk | hk
      · rw [he0] at hk
        exact absurd hlt (by rw [hk]; exact lt_irrefl _)
      · rw [he0] at hk
        exact hc hk
    have hopen : Within (e.Around k) (fun _ => False) e e0 := by
      rw [he0]
      exact (Within.refl e).bare rfl rfl rfl rfl rfl rfl rfl rfl
    have hA : e0.Around k = e.Around k := by rw [he0]; rfl
    rw [hA] at hin
    have hall := (hopen.trans hin).leave env hb.released hr.depth
    have hres : (engineInput env e d addr).2 = _ := congrArg Prod.snd hr.result
    rw [hres] at hm hb' ⊢
    exact hall.untouched hb.toOwn hb'.toOwn (hm.extends hb.toSteady).nconns hlt hne
  refine ⟨fun c c' => Engine.Target.unique hb.toOwn, hrest, fun c hlt hne => ?_⟩
  exact hrest c hlt fun hT => hne hT.2.1

/-- The connection of one peer and the handshake of another one with the same id. -/
theorem input_isolated_accepted :
    accepted.Untouched (engineInput (idealHost 0 0) accepted plainConnect [11]).2 0 :=
  (input_isolated accepted_reachable plainConnect [11]).2.2 0 (by decide +kernel)
    (by decide +kernel)

end KcpMux
