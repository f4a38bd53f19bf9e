import KcpMux.Net.Learned

/-!
The handshake between two engines.

What an initiator of one engine knows is what a passive connection of the other one has said,
and the other way round:

* `SessionWhen.bound`: an initiator that knows its peer's id has it from the acknowledgement of a
  passive connection, which says that its own id was read from this initiator;
* `SessionWhen.offered`: a passive connection has its peer's extension from the initiator whose
  id it noted;
* `handshake_binding`: both ends of a handshake agree on the ids and on the extensions;
* `acceptance_agreement`: an initiator is connected only if the other host accepted it, provided
  that this host rejects with results that differ from `KCPMUX_ACK_RESULT_OK` in their low byte,
  the only byte that is sent.
-/

namespace KcpMux

variable {K L : Type} {env : Env K} {op : Call} {e e' : Engine K} {c c' t : ℕ} {x : Conn}
  {evs log : List Event} {envA : Env K} {envB : Env L} {addrA addrB : Addr}
  {G : Engine K → Call → Prop} {H : Engine L → Call → Prop} {a : Engine K} {b : Engine L}

/-! ### The extension of an initiator -/

/-- The extension of the initiator `c` is what the host passed to `kcpmux_conn_connect` for it,
cut off after 512 bytes. -/
def FromCaller (env : Env K) (e : Engine K) (c : ℕ) : Prop :=
  ∃ e0 addr config ext callbacks, Reachable env e0 ∧ e0.nconns ≤ c ∧
    c < ((Call.connConnect addr config ext callbacks).exec env e0).nconns ∧
    Run env ((Call.connConnect addr config ext callbacks).exec env e0) e ∧
    (e.conns c).selfProtoExt.data = ext.take protoExtMaxLen

lemma ConnView.selfProtoExt (hv : ConnView env op e c x evs) :
    x.isInitiator = (e.conns c).isInitiator ∧
      ((e.conns c).isInitiator = true → x.selfProtoExt = (e.conns c).selfProtoExt) := by
  cases hv with
  | trans hl ht h =>
      cases h with
      | accept hnow hi => exact ⟨rfl, fun h => absurd (hi.symm.trans h) (by decide)⟩
      | _ => exact ⟨rfl, fun _ => rfl⟩
  | last hl h =>
      cases h with
      | reject hi => exact ⟨rfl, fun h => absurd (hi.symm.trans h) (by decide)⟩
  | _ => exact ⟨rfl, fun _ => rfl⟩

/-- Where the extensions of the initiators come from, in terms of the call that started in
`e`. -/
def Offers (op : Call) (e e1 : Engine K) : Prop :=
  e1.EachConn fun c x _ => x.isInitiator = true →
    (c < e.nconns ∧ (e.conns c).isInitiator = true ∧ x.selfProtoExt = (e.conns c).selfProtoExt) ∨
      (e.nconns ≤ c ∧ ∃ addr config ext callbacks,
        op = .connConnect addr config ext callbacks ∧ x.selfProtoExt = .clip ext)

lemma Reachable.offers (h : Reachable env e) (hv : op.Valid e) : Offers op e (op.exec env e) := by
  have hb := h.boundary
  have key : Extends e (op.exec env e) ∧ Offers op e (op.exec env e) := by
    refine (hb.exec hv).1.induct (P := fun e1 => Extends e e1 ∧ Offers op e e1) hb.toSteady
      ⟨.refl e, fun c hc hi => Or.inl ⟨hc, hi, rfl⟩⟩ fun e1 e2 hs hm h1 => ?_
    refine ⟨h1.1.trans (hm.extends hs), hm.eachConn hs ?_ ?_ h1.2⟩
    · intro t x hx hi
      cases hx with
      | @initiator addr config ext callbacks _ _ _ hop =>
          exact Or.inr ⟨h1.1.nconns, addr, config, ext, callbacks, hop, rfl⟩
      | passive => cases hi
    · intro c x evs hc hv hP hi
      obtain ⟨hini, hself⟩ := hv.selfProtoExt
      rw [hini] at hi
      rw [hself hi]
      exact hP hi
  exact key.2

lemma Reachable.fromCaller (h : Reachable env e) (hc : c < e.nconns)
    (hi : (e.conns c).isInitiator = true) : FromCaller env e c := by
  induction h with
  | create hcreate =>
      obtain ⟨cc, sc, id, -, rfl⟩ := engineCreate_eq hcreate
      exact absurd hc (Nat.not_lt_zero c)
  | @call e h op hv ih =>
      rcases h.offers hv c hc hi with ⟨hlt, hini, hself⟩ | ⟨hle, addr, config, ext, cb, rfl, hself⟩
      · obtain ⟨e0, addr, config, ext, cb, hr, hle, hlt', hrun, hdata⟩ := ih hlt hini
        exact ⟨e0, addr, config, ext, cb, hr, hle, hlt', hrun.call op hv, by rw [hself]; exact hdata⟩
      · exact ⟨e, addr, config, ext, cb, h, hle, hc, .refl, by rw [hself]; rfl⟩

/-! ### Both ends -/

/-- **The peer of an initiator.** -/
lemma SessionWhen.bound (h : SessionWhen envA envB addrA addrB G H a b) (hc : c < a.nconns)
    (hi : (a.conns c).isInitiator = true) (hp : (a.conns c).peerConnectionId ≠ 0) :
    ∃ c' < b.nconns, (b.conns c').isInitiator = false ∧
      (b.conns c').localConnectionId = (a.conns c).peerConnectionId ∧
      (b.conns c').peerAddr = addrA ∧
      (b.conns c').peerConnectionId = (a.conns c).localConnectionId ∧
      (∃ ok, .write (.conn c') addrA
        (connConnectAckMsg (b.conns c') (UInt8.ofInt ackResultOk)) ok ∈ b.trace) ∧
      (a.conns c).peerProtoExt = (b.conns c').selfProtoExt ∧
      Decided c' (b.logOf (.conn c')) (UInt8.ofInt ackResultOk) := by
  obtain ⟨-, d, ⟨o, ok, hw⟩, hd⟩ := (h.learned hc).initiator hi hp
  obtain ⟨c', hc', rfl, hi', haddr, hdest, hid, hext, rfl, hdec⟩ := h.reachable.2.ack_origin hw hd
  exact ⟨c', hc', hi', hid, haddr.symm, hdest, ⟨ok, hw⟩, ProtoExt.ext hext.symm, hdec⟩

/-- **The peer of a passive connection.** -/
lemma SessionWhen.offered (h : SessionWhen envA envB addrA addrB G H a b) (hc : c' < b.nconns)
    (hi : (b.conns c').isInitiator = false) :
    ∃ c < a.nconns, (a.conns c).isInitiator = true ∧
      (a.conns c).localConnectionId = (b.conns c').peerConnectionId ∧
      (b.conns c').peerProtoExt = (a.conns c).selfProtoExt := by
  obtain ⟨-, d, ⟨o, ok, hw⟩, hd⟩ := (h.symm.learned hc).passive hi
  obtain ⟨c, hc, -, hini, -, hid, hext⟩ := h.reachable.1.connect_origin hw hd
  exact ⟨c, hc, hini, hid, ProtoExt.ext hext.symm⟩

/-- **Handshake binding.**  Whatever two engines do and whatever the network loses, repeats and
reorders: if an initiator `c` of `a` knows its peer's id, then `b` gave this id to a passive
connection whose peer is `c`, at the address of `a`; each of the two has the extension of the
other, the initiator the one that was sent with an acknowledgement and the passive connection
the one that the host of `a` passed to `kcpmux_conn_connect`; and no other initiator of `a` has
this peer id. -/
theorem handshake_binding (h : Session envA envB addrA addrB a b) (c : ℕ) (hc : c < a.nconns)
    (hi : (a.conns c).isInitiator = true) (hp : (a.conns c).peerConnectionId ≠ 0) :
    (∃ c' < b.nconns, (b.conns c').isInitiator = false ∧
      (b.conns c').localConnectionId = (a.conns c).peerConnectionId ∧
      (b.conns c').peerAddr = addrA ∧
      (b.conns c').peerConnectionId = (a.conns c).localConnectionId ∧
      (∃ ok, .write (.conn c') addrA
        (connConnectAckMsg (b.conns c') (UInt8.ofInt ackResultOk)) ok ∈ b.trace) ∧
      (a.conns c).peerProtoExt = (b.conns c').selfProtoExt ∧
      (b.conns c').peerProtoExt = (a.conns c).selfProtoExt) ∧
    FromCaller envA a c ∧
    ∀ q < a.nconns, (a.conns q).isInitiator = true →
      (a.conns q).peerConnectionId = (a.conns c).peerConnectionId → q = c := by
  have ha := h.reachable.1.boundary
  have hb := h.reachable.2.boundary
  obtain ⟨c', hc', hi', hid, haddr, hpeer, hack, hext, -⟩ := h.bound hc hi hp
  refine ⟨⟨c', hc', hi', hid, haddr, hpeer, hack, hext, ?_⟩, h.reachable.1.fromCaller hc hi, ?_⟩
  · obtain ⟨q, hq, -, hqid, hqext⟩ := h.offered hc' hi'
    -- the initiator it has heard from is `c`: they have the same id
    obtain rfl : q = c := ha.connIdInj q hq c hc (hqid.trans hpeer)
    exact hqext
  · intro q hq hqi hqp
    obtain ⟨q', hq', -, hqid, -, hqpeer, -⟩ := h.bound hq hqi (hqp ▸ hp)
    obtain rfl : q' = c' := hb.connIdInj q' hq' c' hc' (by rw [hqid, hqp, hid])
    exact ha.connIdInj q hq c hc (hqpeer.symm.trans hpeer)

/-- An initiator with an extension, before it is answered. -/
def dialling : Engine Unit := (Call.connConnect [11] none [5] none).exec (idealHost 0 0) idealEngine

/-- The engine it calls; its host returns `result`. -/
def answering (result : ℤ) : Engine Unit :=
  (Call.input (connConnectMsg (dialling.conns 0)) [10]).exec (idealHost result 0) idealEngine

/-- The initiator with the answer. -/
def answered (result : ℤ) : Engine Unit :=
  (Call.input (connConnectAckMsg ((answering result).conns 0) (UInt8.ofInt ackResultOk)) [11]).exec
    (idealHost 0 0) dialling

lemma dialling_sent :
    .write (.conn 0) [11] (connConnectMsg (dialling.conns 0)) true ∈ dialling.trace := by
  decide +kernel

lemma answered_sessionWhen {result : ℤ} {H : Engine Unit → Call → Prop}
    (hH : H idealEngine (.input (connConnectMsg (dialling.conns 0)) [10]))
    (hw : .write (.conn 0) [10]
      (connConnectAckMsg ((answering result).conns 0) (UInt8.ofInt ackResultOk)) true ∈
        (answering result).trace) :
    SessionWhen (idealHost 0 0) (idealHost result 0) [10] [11] (fun _ _ => True) H
      (answered result) (answering result) := by
  have h0 : SessionWhen (idealHost 0 0) (idealHost result 0) [10] [11] (fun _ _ => True) H
      idealEngine idealEngine :=
    .init ⟨none, none, idealEngine_create 0 0⟩ ⟨none, none, idealEngine_create result 0⟩
  have h1 : SessionWhen (idealHost 0 0) (idealHost result 0) [10] [11] (fun _ _ => True) H
      dialling idealEngine :=
    .left h0 ⟨.connConnect [11] none [5] none, trivial, by simp, trivial, rfl⟩
  have h2 : SessionWhen (idealHost 0 0) (idealHost result 0) [10] [11] (fun _ _ => True) H
      dialling (answering result) :=
    .toRight h1 ⟨.conn 0, true, dialling_sent⟩ ⟨hH, rfl⟩
  exact .toLeft h2 ⟨.conn 0, true, hw⟩ ⟨trivial, rfl⟩

lemma answered_session {result : ℤ}
    (hw : .write (.conn 0) [10]
      (connConnectAckMsg ((answering result).conns 0) (UInt8.ofInt ackResultOk)) true ∈
        (answering result).trace) :
    Session (idealHost 0 0) (idealHost result 0) [10] [11] (answered result)
      (answering result) :=
  answered_sessionWhen trivial hw

/-- The ends of an accepted call. -/
theorem handshake_binding_answered :
    ((answering 0).conns 0).peerProtoExt = ((answered 0).conns 0).selfProtoExt ∧
      ((answered 0).conns 0).peerConnectionId ≠ 0 := by
  have hp : ((answered 0).conns 0).peerConnectionId ≠ 0 := by decide +kernel
  obtain ⟨⟨c', hc', -, -, -, -, -, -, hext⟩, -⟩ := handshake_binding
    (answered_session (by decide +kernel)) 0 (by decide +kernel) (by decide +kernel) hp
  have hone : (answering 0).nconns = 1 := by decide +kernel
  obtain rfl : c' = 0 := by omega
  exact ⟨hext, hp⟩

/-! ### Acceptance -/

/-- Every result with which the host has refused a connection differs from
`KCPMUX_ACK_RESULT_OK` in its low byte. -/
def RejectsClearly (e : Engine K) : Prop :=
  ∀ c r, .connConnectNotify c r ∈ e.trace → r ≠ ackResultOk →
    UInt8.ofInt r ≠ UInt8.ofInt ackResultOk

/-- `conn_connect_notify` decides once. -/
lemma ConnSpeaks.decision_eq (h : ConnSpeaks c x log) {r r' : ℤ}
    (hr : .connConnectNotify c r ∈ log) (hr' : .connConnectNotify c r' ∈ log) : r = r' := by
  have hlen : log.countP Event.decides ≤ 1 := h.asked.trans (by split_ifs <;> omega)
  rw [List.countP_eq_length_filter] at hlen
  have hm : Event.connConnectNotify c r ∈ log.filter Event.decides := List.mem_filter.mpr ⟨hr, rfl⟩
  have hm' : Event.connConnectNotify c r' ∈ log.filter Event.decides :=
    List.mem_filter.mpr ⟨hr', rfl⟩
  obtain ⟨ev, hev⟩ := List.length_eq_one_iff.mp
    (le_antisymm hlen (List.length_pos_of_mem hm))
  rw [hev, List.mem_singleton] at hm hm'
  exact (Event.connConnectNotify.inj (hm.trans hm'.symm)).2

/-- The assignment of `CONNECTED`, in the log of its connection. -/
lemma entered_of_countP (h : 0 < (e.logOf (.conn c)).countP Event.entersConnected) :
    ∃ old, .connState c old .connected ∈ e.trace := by
  obtain ⟨ev, hm, hev⟩ := List.countP_pos_iff.mp h
  obtain ⟨htrace, hsub⟩ := mem_logOf.mp hm
  cases ev with
  | connState d old new =>
      cases new with
      | connected =>
          obtain rfl : d = c := Owner.conn.inj (Option.some.inj hsub)
          exact ⟨old, htrace⟩
      | _ => cases hev
  | _ => cases hev

/-- **Acceptance agreement.**  Whatever two engines do and whatever the network loses, repeats
and reorders, as long as the host of `b` rejects with results that differ from
`KCPMUX_ACK_RESULT_OK` in their low byte: if an initiator of `a` has entered `CONNECTED`, then its
peer id is the id of one passive connection of `b`, for which `conn_connect_notify` returned
`KCPMUX_ACK_RESULT_OK` and nothing else and which has entered `CONNECTED` as well. -/
theorem acceptance_agreement (h : Session envA envB addrA addrB a b) (hclear : RejectsClearly b)
    (c : ℕ) (hi : (a.conns c).isInitiator = true) (old : ConnState)
    (hin : .connState c old .connected ∈ a.trace) :
    ∃ c' < b.nconns, (b.conns c').isInitiator = false ∧
      (b.conns c').localConnectionId = (a.conns c).peerConnectionId ∧
      .connConnectNotify c' ackResultOk ∈ b.trace ∧
      (∀ r, .connConnectNotify c' r ∈ b.trace → r = ackResultOk) ∧
      (∃ old', .connState c' old' .connected ∈ b.trace) ∧
      ∀ q < b.nconns, (b.conns q).localConnectionId = (a.conns c).peerConnectionId → q = c' := by
  obtain ⟨ha, hb⟩ := h.reachable
  have hc : c < a.nconns := ha.boundary.known _ hin (.conn c) rfl
  have hp : (a.conns c).peerConnectionId ≠ 0 := by
    refine ((ha.connHist c hc).1.initiator hi).mpr (List.countP_pos_iff.mpr ?_)
    exact ⟨_, mem_logOf.mpr ⟨hin, rfl⟩, rfl⟩
  obtain ⟨c', hc', hi', hid, -, -, -, -, hdec⟩ := h.bound hc hi hp
  obtain ⟨hok, hentered⟩ : .connConnectNotify c' ackResultOk ∈ b.logOf (.conn c') ∧
      0 < (b.logOf (.conn c')).countP Event.entersConnected := by
    rcases hdec rfl with hok | ⟨r, hne, hlow, hr⟩
    · exact hok
    · exact absurd hlow (hclear c' r (mem_logOf.mp hr).1 hne)
  refine ⟨c', hc', hi', hid, (mem_logOf.mp hok).1, fun r hr => ?_, entered_of_countP hentered,
    fun q hq hqid => hb.boundary.connIdInj q hq c' hc' (hqid.trans hid.symm)⟩
  exact (hb.connSpeaks c' hc').decision_eq (mem_logOf.mpr ⟨hr, rfl⟩) hok

/-- An accepted call. -/
theorem acceptance_agreement_answered : .connConnectNotify 0 ackResultOk ∈ (answering 0).trace := by
  have hclear : RejectsClearly (answering 0) := by
    have hall : ∀ ev ∈ (answering 0).trace, ev.decides = true →
        ev = .connConnectNotify 0 ackResultOk := by decide +kernel
    intro c r hr hne
    exact absurd (Event.connConnectNotify.inj (hall _ hr rfl)).2 hne
  obtain ⟨c', hc', -, -, hok, -⟩ := acceptance_agreement
    (answered_session (by decide +kernel)) hclear 0 (by decide +kernel) .connecting (by decide +kernel)
  have hone : (answering 0).nconns = 1 := by decide +kernel
  obtain rfl : c' = 0 := by omega
  exact hok

/-- A host that rejects with 256: the byte that is sent says `KCPMUX_ACK_RESULT_OK`, and the
initiator is connected to a connection that never was. -/
theorem acceptance_agreement_low_byte :
    Session (idealHost 0 0) (idealHost 256 0) [10] [11] (answered 256) (answering 256) ∧
      ((answered 256).conns 0).isInitiator = true ∧
      ((answered 256).conns 0).state = .connected ∧
      .connState 0 .connecting .connected ∈ (answered 256).trace ∧
      ((answering 256).conns 0).localConnectionId = ((answered 256).conns 0).peerConnectionId ∧
      .connConnectNotify 0 256 ∈ (answering 256).trace ∧
      .connConnectNotify 0 ackResultOk ∉ (answering 256).trace ∧
      (answering 256).trace.countP Event.entersConnected = 0 :=
  ⟨answered_session (by decide +kernel), by decide +kernel, by decide +kernel, by decide +kernel,
    by decide +kernel, by decide +kernel, by decide +kernel, by decide +kernel⟩

end KcpMux
