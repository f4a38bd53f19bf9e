import KcpMux.Ikcp.Link
import KcpMux.Lib.Network

/-!
What two instances of the default KCP deliver over a network that loses, repeats, delays and reorders
datagrams.

* `ikcp_delivers_in_order`: the messages that one side has handed out are the first ones that the
  other side has accepted, in order, without gaps and without repetition.
* `ikcp_drained_delivered`: when the sender has nothing left and the receiver has nothing to read,
  every message has been handed out.

Sends have memory (`Ikcpcb.Fits`), and fewer than `2 ^ 31` fragments are sent in each direction.
-/

namespace KcpMux

open Relation (ReflTransGen)

/-- An instance on a network. -/
def ikcpParty (conv : UInt32) : Network.Party IkcpEnd Bytes where
  init e := ∃ kcp : Ikcpcb, kcp.Fresh ∧ kcp.conv = conv ∧ e = { kcp := kcp }
  act := IkcpCall Ikcpcb.Fits
  receive d e e' := e' = (e.input d).2
  sent e := { d | d ∈ e.put }

variable {H : IkcpHeader → Bytes → Prop} {a a' b e e' : IkcpEnd} {conv : UInt32}

/-! ### The two ends -/

/-- The messages that were handed out are those of the fragments that were read. -/
structure IkcpEnd.ReadOk (e : IkcpEnd) : Prop where
  received : e.received = ikcpMessages e.popped
  whole : Whole e.popped

/-- What flows from `a` to `b`. -/
structure IkcpFlow (a b : IkcpEnd) : Prop where
  snd : a.SndOk
  rcv : b.RcvOk
  agree : Arq.Agree a.sender b.receiver
  said : ∀ d ∈ a.put, Spoken a.Stands d
  read : b.ReadOk

/-- Two instances that talk to each other. -/
structure IkcpLinked (a b : IkcpEnd) : Prop where
  left : a.Steady
  right : b.Steady
  conv : a.kcp.conv = b.kcp.conv
  there : IkcpFlow a b
  back : IkcpFlow b a

lemma IkcpLinked.symm (h : IkcpLinked a b) : IkcpLinked b a := ⟨h.right, h.left, h.conv.symm, h.back, h.there⟩

/-- What has been taken is a part of what was accepted. -/
lemma IkcpFlow.length_le (h : IkcpFlow a b) : b.taken.length ≤ a.accepted.length :=
  h.agree.length.trans h.agree.next

/-! ### Steps -/

lemma IkcpTrans.accepted (h : IkcpTrans H e e') : e.accepted <+: e'.accepted := by
  cases h with
  | send => exact List.prefix_append _ _
  | _ => exact List.prefix_rfl

/-- Nothing that was put out is taken back, and what is put out is said now. -/
lemma IkcpTrans.put_cases (h : IkcpTrans H e e') :
    e'.put = e.put ∨ ∃ ds, e'.put = e.put ++ ds ∧ ∀ d ∈ ds, Spoken e.Says d := by
  cases h with
  | flush hds => exact Or.inr ⟨_, rfl, fun d hd => (hds d hd).2⟩
  | _ => exact Or.inl rfl

/-- A message is read as a whole when the fragments count down. -/
lemma IkcpTrans.read (h : IkcpTrans H e e') (hr : e.ReadOk) (hd : CountsDown e.taken) : e'.ReadOk := by
  cases h with
  | pop hpeek =>
      have hqueue : CountsDown (e.kcp.rcvQueue.map IkcpSeg.frag) :=
        List.IsChain.right_of_append hd
      obtain ⟨hw, hm⟩ := ikcpMessage_countsDown hqueue hpeek
      refine ⟨?_, whole_append hr.whole hw⟩
      show e.received ++ _ = ikcpMessages (e.popped ++ _)
      rw [ikcpMessages_append hr.whole, hm, hr.received]
  | _ => exact ⟨hr.received, hr.whole⟩

/-- **A step of one end**, which is fed what the other one says. -/
lemma IkcpLinked.step (hl : IkcpLinked a b) (h : IkcpTrans b.Heard a a') (ha : a'.accepted.length < 2 ^ 31)
    (hb : b.accepted.length < 2 ^ 31) : IkcpLinked a' b := by
  have ha0 : a.accepted.length < 2 ^ 31 := h.accepted.length_le.trans_lt ha
  have hsteady : a'.Steady := hl.left.moves (.single h)
  have hconv : a'.kcp.conv = a.kcp.conv := congrArg IkcpSettings.conv h.settings
  obtain ⟨hs, hsnd⟩ := h.sends hl.there.snd hl.left.mss ha (hl.there.length_le.trans_lt ha0)
  obtain ⟨hr, hrcv⟩ := h.takes hl.back.rcv hb (hl.back.length_le.trans_lt hb)
  have hsaid : ∀ d ∈ a'.put, Spoken a'.Stands d := by
    intro d hd
    have hmono : ∀ seg, a.Stands seg → a'.Stands seg := fun seg hst => hst.mono hconv hs hr
    rcases h.put_cases with hput | ⟨ds, hput, hds⟩
    · rw [hput] at hd
      exact (hl.there.said d hd).mono hmono
    · rw [hput] at hd
      rcases List.mem_append.mp hd with hd | hd
      · exact (hl.there.said d hd).mono hmono
      · exact (hds d hd).mono fun seg hsay =>
          hmono seg (IkcpEnd.stands_of_says hl.left.formed hl.there.snd hl.back.rcv hsay)
  have hdown : CountsDown a.taken := by
    obtain ⟨rest, hrest⟩ := hl.back.agree.taken
    have hd := hl.back.snd.down
    rw [← show a.taken ++ rest = b.accepted from hrest] at hd
    exact List.IsChain.left_of_append hd
  have hread : a'.ReadOk := h.read hl.back.read hdown
  exact ⟨hsteady, hl.right, hconv.trans hl.conv,
    ⟨hsnd, hl.there.rcv, hl.there.agree.senders hs, hsaid, hl.there.read⟩,
    ⟨hl.back.snd, hrcv, hl.back.agree.receivers hr, hl.back.said, hread⟩⟩

/-- Any number of steps. -/
lemma IkcpLinked.moves (hl : IkcpLinked a b) (h : IkcpMoves b.Heard a a') (ha : a'.accepted.length < 2 ^ 31)
    (hb : b.accepted.length < 2 ^ 31) : IkcpLinked a' b := by
  induction h with
  | refl => exact hl
  | tail _ ht ih => exact (ih (ht.accepted.length_le.trans_lt ha)).step ht ha hb

/-! ### Calls and datagrams -/

lemma IkcpEnd.record_accepted (buf : Bytes) (r : ℤ × Ikcpcb) :
    e.accepted <+: (e.record buf r).2.accepted := by
  rw [IkcpEnd.record]
  dsimp only
  split_ifs
  · exact List.prefix_append _ _
  · exact List.prefix_rfl

lemma IkcpCall.accepted {G : Ikcpcb → (ℕ → Bool) → ℕ → Prop} (h : IkcpCall G e e') :
    e.accepted <+: e'.accepted := by
  cases h with
  | send => exact IkcpEnd.record_accepted _ _
  | sendv => exact IkcpEnd.record_accepted _ _
  | recv len =>
      rw [IkcpEnd.recv]
      dsimp only
      split_ifs <;> exact List.prefix_rfl
  | update => exact List.prefix_rfl
  | currentUpdate => exact List.prefix_rfl

/-- A datagram of the other end is made of segments that stand. -/
lemma IkcpLinked.heard (hl : IkcpLinked a b) {d : Bytes} (hd : d ∈ b.put) :
    ∀ q ∈ ikcpParse a.kcp.conv d.length d, b.Heard q.1 q.2 := by
  obtain ⟨segs, rfl, hstands⟩ := hl.back.said d hd
  have hsend : ∀ s ∈ segs, s.Sendable a.kcp.conv := fun s hs =>
    hl.conv ▸ (hstands s hs).sendable
  have hlen : segs.length ≤ (ikcpWire segs).length := by
    have h24 := length_le_ikcpWire segs
    have hover : ikcpOverhead = 24 := rfl
    rw [hover] at h24
    omega
  rw [ikcpParse_wire hsend hlen]
  intro q hq
  obtain ⟨s, hs, rfl⟩ := List.mem_map.mp hq
  exact ⟨s, hstands s hs, rfl, rfl⟩

lemma IkcpLinked.init {k k' : Ikcpcb} (hk : k.Fresh) (hk' : k'.Fresh) (hc : k.conv = k'.conv) :
    IkcpLinked { kcp := k } { kcp := k' } := by
  have hflow : ∀ {k k' : Ikcpcb}, k.Fresh → k'.Fresh → IkcpFlow { kcp := k } { kcp := k' } := by
    intro k k' h h'
    refine ⟨⟨?_, ?_, ?_, by simp, rfl, whole_nil, List.isChain_nil⟩, ⟨?_, ?_⟩, ?_, by simp,
      ⟨rfl, whole_nil⟩⟩
    · show k.sndQueue.map IkcpSeg.frag <:+ []
      rw [h.sndQueue]
      exact List.suffix_rfl
    · show k.sndNxt.toNat = 0 - k.sndQueue.length
      rw [h.sndNxt, Nat.zero_sub]
      rfl
    · show ∀ s ∈ k.sndBuf, _
      rw [h.sndBuf]
      simp
    · show k'.rcvNxt.toNat = ([] ++ k'.rcvQueue.map IkcpSeg.frag).length
      rw [h'.rcvNxt, h'.rcvQueue]
      rfl
    · show ∀ ack ∈ k'.acklist, _
      rw [h'.acklist]
      simp
    · have hs : IkcpEnd.sender { kcp := k } = ⟨[], 0, ∅⟩ := by
        simp [IkcpEnd.sender, h.sndBuf]
      have hr : IkcpEnd.receiver { kcp := k' } = ⟨[], ∅⟩ := by
        simp [IkcpEnd.receiver, IkcpEnd.taken, h'.rcvBuf, h'.rcvQueue]
      rw [hs, hr]
      exact Arq.Agree.init
  exact ⟨hk.steady, hk'.steady, hc, hflow hk hk', hflow hk' hk⟩

/-- **Every reachable pair is linked**, as long as the numbers stay below half the ring. -/
lemma ikcp_linked (h : Network.Reachable (ikcpParty conv) (ikcpParty conv) a b)
    (ha : a.accepted.length < 2 ^ 31) (hb : b.accepted.length < 2 ^ 31) : IkcpLinked a b := by
  have hact : ∀ {a a' b : IkcpEnd}, IkcpLinked a b → IkcpCall Ikcpcb.Fits a a' →
      a'.accepted.length < 2 ^ 31 → b.accepted.length < 2 ^ 31 → IkcpLinked a' b := fun hl hc ha hb =>
    hl.moves (hc.moves hl.left.stream hl.left.mss) ha hb
  have hinput : ∀ {a b : IkcpEnd} {d : Bytes}, IkcpLinked a b → d ∈ b.put →
      a.accepted.length < 2 ^ 31 → b.accepted.length < 2 ^ 31 → IkcpLinked (a.input d).2 b :=
    fun hl hd ha hb => hl.moves (IkcpEnd.input_moves (hl.heard hd)) ha hb
  induction h with
  | init hs ht =>
      obtain ⟨k, hk, hc, rfl⟩ := hs
      obtain ⟨k', hk', hc', rfl⟩ := ht
      exact IkcpLinked.init hk hk' (hc.trans hc'.symm)
  | left _ hs ih => exact hact (ih (hs.accepted.length_le.trans_lt ha) hb) hs ha hb
  | right _ ht ih => exact (hact (ih ha (ht.accepted.length_le.trans_lt hb)).symm ht hb ha).symm
  | toLeft _ hm hs ih =>
      subst hs
      exact hinput (ih ha hb) hm ha hb
  | toRight _ hm ht ih =>
      subst ht
      exact (hinput (ih ha hb).symm hm hb ha).symm

/-! ### Delivery -/

/-- **Messages are delivered in order**: what one side has handed out is an initial part of what the
other one has accepted. -/
theorem ikcp_delivers_in_order (h : Network.Reachable (ikcpParty conv) (ikcpParty conv) a b)
    (ha : a.accepted.length < 2 ^ 31) (hb : b.accepted.length < 2 ^ 31) : b.received <+: a.sent := by
  have hl := ikcp_linked h ha hb
  obtain ⟨rest, hrest⟩ := hl.there.agree.taken
  have hsplit : a.accepted = b.popped ++ (b.kcp.rcvQueue.map IkcpSeg.frag ++ rest) := by
    rw [← List.append_assoc]
    exact hrest.symm
  rw [hl.there.read.received, ← hl.there.snd.messages, hsplit,
    ikcpMessages_append hl.there.read.whole]
  exact List.prefix_append _ _

/-- `helloSent` after a second message. -/
def laterSent : IkcpEnd := ((helloSent.send (fun _ => true) [4, 5]).2).update (fun _ => true) 200

/-- The datagram of the second message. -/
def laterDatagram : Bytes := laterSent.put.getLastD []

/-- The peer has got the second message before the first one, and the first one twice; it has read
both. -/
def crossed : IkcpEnd :=
  ((((((({ kcp := ikcpBlank 7 } : IkcpEnd).input laterDatagram).2.input helloDatagram).2.input
    helloDatagram).2).recv 64).2.2.recv 64).2.2

lemma crossed_reachable : Network.Reachable (ikcpParty 7) (ikcpParty 7) laterSent crossed := by
  have hinit : Network.Reachable (ikcpParty 7) (ikcpParty 7) { kcp := ikcpBlank 7 }
      { kcp := ikcpBlank 7 } :=
    .init ⟨_, ikcpBlank_fresh 7, rfl, rfl⟩ ⟨_, ikcpBlank_fresh 7, rfl, rfl⟩
  have hsent : Network.Reachable (ikcpParty 7) (ikcpParty 7) helloSent { kcp := ikcpBlank 7 } :=
    (hinit.left (.send (Or.inl fun _ => rfl))).left (.update (fun _ => true) 100)
  have hlater : Network.Reachable (ikcpParty 7) (ikcpParty 7) laterSent { kcp := ikcpBlank 7 } :=
    (hsent.left (.send (Or.inl fun _ => rfl))).left (.update (fun _ => true) 200)
  have hfirst : helloDatagram ∈ laterSent.put := by decide +kernel
  have hsecond : laterDatagram ∈ laterSent.put := by decide +kernel
  exact ((((hlater.toRight hsecond rfl).toRight hfirst rfl).toRight hfirst rfl).right
    (.recv 64)).right (.recv 64)

/-- The messages come out in order. -/
theorem ikcp_delivers_in_order_crossed : crossed.received = [[1, 2, 3], [4, 5]] ∧
    crossed.received <+: laterSent.sent :=
  ⟨by decide +kernel,
    ikcp_delivers_in_order crossed_reachable (by decide +kernel) (by decide +kernel)⟩

/-! ### Nothing stays behind -/

/-- What is next in `rcv_buf` is there only because the queue is full. -/
def Ikcpcb.Blocked (kcp : Ikcpcb) : Prop :=
  ∀ seg rest, kcp.rcvBuf = seg :: rest → seg.sn = kcp.rcvNxt →
    kcp.rcvWnd.toNat ≤ kcp.rcvQueue.length

lemma ikcpMoveRcv_blocked (l : List IkcpSeg) (kcp : Ikcpcb) : (ikcpMoveRcv kcp l).Blocked := by
  induction l generalizing kcp with
  | nil =>
      intro seg rest h
      cases h
  | cons s l ih =>
      rw [ikcpMoveRcv]
      split_ifs with h
      · exact ih _
      · intro seg rest hb hsn
        obtain ⟨rfl, rfl⟩ : s = seg ∧ l = rest := by simpa using hb
        exact not_lt.mp fun hlt => h ⟨hsn, hlt⟩

/-- The receiving half as it lies in memory. -/
def Ikcpcb.inbox (kcp : Ikcpcb) : List IkcpSeg × List IkcpSeg × UInt32 × UInt32 :=
  (kcp.rcvBuf, kcp.rcvQueue, kcp.rcvNxt, kcp.rcvWnd)

lemma Ikcpcb.Blocked.of_inbox {k k' : Ikcpcb} (h : k.Blocked) (hi : k'.inbox = k.inbox) :
    k'.Blocked := by
  have h1 : k'.rcvBuf = k.rcvBuf := congrArg Prod.fst hi
  have h2 : k'.rcvQueue = k.rcvQueue := congrArg (fun q => q.2.1) hi
  have h3 : k'.rcvNxt = k.rcvNxt := congrArg (fun q => q.2.2.1) hi
  have h4 : k'.rcvWnd = k.rcvWnd := congrArg (fun q => q.2.2.2) hi
  rw [Ikcpcb.Blocked, h1, h2, h3, h4]
  exact h

lemma Ikcpcb.inbox_of_core {k k' : Ikcpcb} (h : k'.core = k.core) : k'.inbox = k.inbox :=
  congrArg (fun c : IkcpCore => (c.rcvBuf, c.rcvQueue, c.rcvNxt, c.rcvWnd)) h

lemma ikcpMoveSnd_inbox (wnd cwnd : UInt32) (current : ℤ) (l : List IkcpSeg) (kcp : Ikcpcb) :
    (ikcpMoveSnd wnd cwnd current kcp l).inbox = kcp.inbox := by
  induction l generalizing kcp with
  | nil => rfl
  | cons seg rest ih =>
      rw [ikcpMoveSnd]
      split_ifs
      · exact ih (kcp.number wnd current seg)
      · rfl

/-- An update leaves the receiving half alone. -/
lemma ikcpUpdate_inbox (ok : ℕ → Bool) (kcp : Ikcpcb) (current : ℤ) :
    (ikcpUpdate ok kcp current).1.inbox = kcp.inbox := by
  obtain ⟨hcore, hseg, hf⟩ := ikcpUpdateHead_spec (P := fun _ => True) current
    (fun _ _ _ => trivial) kcp.le_longest.1 kcp.le_longest.2.1
  have hhead : (ikcpUpdateHead kcp current).1.inbox = kcp.inbox :=
    congrArg (fun c : IkcpCore => (c.rcvBuf, c.rcvQueue, c.rcvNxt, c.rcvWnd)) hcore
  rw [ikcpUpdate]
  split_ifs
  · have hidle := (ikcpUpdateIdle_spec (P := fun _ => True) (ikcpUpdateHead kcp current).1
      (fun _ _ _ => trivial) hseg hf kcp.le_longest.2.1).1
    exact (Ikcpcb.inbox_of_core hidle).trans hhead
  · rw [ikcpUpdateData]
    dsimp only
    rw [Ikcpcb.inbox_of_core (ikcpShrinkCwnd_core _ _ _ _)]
    refine (ikcpMoveSnd_inbox _ _ _ _ _).trans ?_
    split_ifs
    · exact hhead
    · exact hhead

lemma ikcpInputSeg_blocked {kcp : Ikcpcb} (h : kcp.Blocked) (current : ℤ) (hd : IkcpHeader)
    (data : Bytes) : (ikcpInputSeg kcp current hd data).Blocked := by
  obtain ⟨l, u, -, heq⟩ := ikcpParseUna_shrink { kcp with rmtWnd := hd.wnd.toUInt32 } hd.una
  have huna : (ikcpShrinkBuf (ikcpParseUna { kcp with rmtWnd := hd.wnd.toUInt32 } hd.una)).Blocked := by
    rw [heq]
    exact h.of_inbox rfl
  rw [ikcpInputSeg]
  generalize ikcpShrinkBuf (ikcpParseUna { kcp with rmtWnd := hd.wnd.toUInt32 } hd.una) = k at huna ⊢
  split_ifs
  · rw [ikcpInputAck]
    have hrtt : ∀ k' : Ikcpcb, k'.core = k.core → (ikcpShrinkBuf (ikcpParseAck k' hd.sn)).Blocked := by
      intro k' hc
      obtain ⟨l, u, -, heq⟩ := ikcpParseAck_shrink k' hd.sn
      rw [heq]
      have hk' := huna.of_inbox (Ikcpcb.inbox_of_core hc)
      exact hk'.of_inbox rfl
    apply hrtt
    split_ifs
    · exact ikcpUpdateAck_core _ _
    · rfl
  · rw [ikcpInputPush]
    dsimp only
    split_ifs
    · have hdata : (ikcpParseData (ikcpAckPush k hd.sn hd.ts) (hd.segment data)).Blocked := by
        rw [ikcpParseData]
        split_ifs
        · exact huna.of_inbox rfl
        · exact ikcpMoveRcv_blocked _ _
      exact hdata.of_inbox rfl
    · exact huna.of_inbox rfl
    · exact huna
  · exact huna.of_inbox rfl
  · exact huna

lemma IkcpEnd.input_blocked (h : e.kcp.Blocked) (data : Bytes) : (e.input data).2.kcp.Blocked := by
  have hloop : ∀ (l : List (IkcpHeader × Bytes)) (k : Ikcpcb) (current : ℤ), k.Blocked →
      (l.foldl (fun k q => ikcpInputSeg k current q.1 q.2) k).Blocked := by
    intro l
    induction l with
    | nil => exact fun _ _ h => h
    | cons q l ih => exact fun k current hk => ih _ current (ikcpInputSeg_blocked hk current _ _)
  show (ikcpInput e.kcp data).2.Blocked
  rw [ikcpInput]
  split_ifs
  · exact h
  have hkcp := hloop (ikcpParse e.kcp.conv data.length data) e.kcp e.kcp.tsCurrent h
  rw [← ikcpInputLoop_kcp e.kcp.tsCurrent data.length e.kcp none data] at hkcp
  dsimp only
  generalize ikcpInputLoop e.kcp.tsCurrent data.length e.kcp none data = r at hkcp ⊢
  obtain ⟨ret, m, k⟩ := r
  cases ret with
  | some ret => exact hkcp
  | none =>
      cases m with
      | none => exact hkcp.of_inbox (Ikcpcb.inbox_of_core (ikcpGrow_core _ _))
      | some ack =>
          exact hkcp.of_inbox
            (Ikcpcb.inbox_of_core ((ikcpGrow_core _ _).trans (ikcpParseFastack_core _ _ _)))

lemma IkcpCall.blocked {G : Ikcpcb → (ℕ → Bool) → ℕ → Prop} (h : IkcpCall G e e')
    (hs : e.kcp.stream = false) (hb : e.kcp.Blocked) : e'.kcp.Blocked := by
  have hsend : ∀ alloc buf, (e.send alloc buf).2.kcp.Blocked := by
    intro alloc buf
    obtain ⟨segs, sent, accepted, heq, -⟩ := IkcpEnd.send_queue hs alloc buf
    rw [heq]
    exact hb.of_inbox rfl
  cases h with
  | send => exact hsend _ _
  | @sendv alloc iov firstOffset len _ =>
      rcases e.sendv_eq alloc iov firstOffset len with heq | heq
      · rw [heq]
        exact hb
      · rw [heq]
        exact hsend _ _
  | recv len =>
      have hkcp : (e.recv len).2.2.kcp = (ikcpRecv e.kcp len).2.2 := by
        rw [IkcpEnd.recv]
        dsimp only
        split_ifs <;> rfl
      rw [hkcp]
      rcases ikcpRecv_cases e.kcp len with ⟨ret, -, heq⟩ | ⟨-, recover, heq⟩
      · rw [heq]
        exact hb
      · rw [heq]
        exact (ikcpMoveRcv_blocked _ _).of_inbox (Ikcpcb.inbox_of_core (ikcpRecover_core _ _))
  | update ok current => exact hb.of_inbox (ikcpUpdate_inbox ok e.kcp current)
  | currentUpdate => exact hb.of_inbox rfl

/-- In every run. -/
lemma IkcpReach.blocked (h : IkcpReach e) : e.kcp.Blocked := by
  induction h with
  | fresh h =>
      intro seg rest hb
      rw [show ({ kcp := _ } : IkcpEnd).kcp.rcvBuf = [] from h.rcvBuf] at hb
      cases hb
  | call h hc ih => exact hc.blocked h.steady.stream ih
  | input _ data ih => exact IkcpEnd.input_blocked ih data

lemma IkcpCall.any {G : Ikcpcb → (ℕ → Bool) → ℕ → Prop} (h : IkcpCall G e e') :
    IkcpCall (fun _ _ _ => True) e e' := by
  cases h with
  | send => exact .send trivial
  | sendv => exact .sendv trivial
  | recv len => exact .recv len
  | update ok current => exact .update ok current
  | currentUpdate current => exact .currentUpdate current

/-- On a network an instance is in one of its own runs. -/
lemma ikcp_reach (h : Network.Reachable (ikcpParty conv) (ikcpParty conv) a b) :
    IkcpReach a ∧ IkcpReach b := by
  induction h with
  | init hs ht =>
      obtain ⟨k, hk, -, rfl⟩ := hs
      obtain ⟨k', hk', -, rfl⟩ := ht
      exact ⟨.fresh hk, .fresh hk'⟩
  | left _ hs ih => exact ⟨ih.1.call hs.any, ih.2⟩
  | right _ ht ih => exact ⟨ih.1, ih.2.call ht.any⟩
  | toLeft _ _ hs ih =>
      subst hs
      exact ⟨ih.1.input _, ih.2⟩
  | toRight _ _ ht ih =>
      subst ht
      exact ⟨ih.1, ih.2.input _⟩

/-- A queue that counts down and ends with a message begins with a complete one. -/
lemma frg_lt_length {q : List IkcpSeg} (hd : CountsDown (q.map IkcpSeg.frag))
    (hw : Whole (q.map IkcpSeg.frag)) {seg : IkcpSeg} (hseg : q.head? = some seg) :
    seg.frg.toNat < q.length := by
  induction q generalizing seg with
  | nil => cases hseg
  | cons s rest ih =>
      obtain rfl : s = seg := by simpa using hseg
      cases rest with
      | nil =>
          have h0 : s.frg = 0 := hw s.frag rfl
          rw [h0]
          exact Nat.one_pos
      | cons s' rest =>
          by_cases h0 : s.frg = 0
          · rw [h0]
            exact Nat.succ_pos _
          · have hnext : s'.frg.toNat + 1 = s.frg.toNat :=
              List.IsChain.rel_head? hd (y := s'.frag) rfl h0
            have hw' : Whole ((s' :: rest).map IkcpSeg.frag) := fun f hf => hw f (by
              rw [List.map_cons, List.getLast?_cons_of_ne_nil (by simp)]
              exact hf)
            have := ih (List.IsChain.tail hd) hw' rfl
            rw [List.length_cons]
            omega

lemma ikcpPeeksize_nonneg {kcp : Ikcpcb} {seg : IkcpSeg} (hseg : kcp.rcvQueue.head? = some seg)
    (hlen : seg.frg.toNat < kcp.rcvQueue.length) : 0 ≤ ikcpPeeksize kcp := by
  rw [ikcpPeeksize.eq_def]
  cases hq : kcp.rcvQueue with
  | nil => rw [hq] at hseg; cases hseg
  | cons s rest =>
      rw [hq] at hseg hlen
      obtain rfl : s = seg := by simpa using hseg
      dsimp only
      split_ifs <;> omega

/-- When everything has arrived and nothing can be read, everything has been taken. -/
lemma IkcpLinked.taken_all (hl : IkcpLinked a b) (hblock : b.kcp.Blocked)
    (hwait : ikcpWaitsnd a.kcp = 0) (hpeek : ikcpPeeksize b.kcp < 0) : b.taken = a.accepted := by
  rw [ikcpWaitsnd] at hwait
  have hbuf : a.kcp.sndBuf = [] := List.length_eq_zero_iff.mp (by omega)
  have hqueue : a.kcp.sndQueue.length = 0 := by omega
  have hpending : a.sender.pending = ∅ := by simp [IkcpEnd.sender, hbuf]
  have hnext : a.sender.next = a.sender.accepted.length := by
    show a.accepted.length - a.kcp.sndQueue.length = a.accepted.length
    omega
  refine hl.there.agree.taken.eq_of_length (le_antisymm hl.there.length_le ?_)
  by_contra hlt
  have hlt' : b.taken.length < a.accepted.length := not_le.mp hlt
  -- the next fragment has come, so it is kept back by a full queue
  have hw := hl.right.windowed.rcvBuf
  rcases hl.there.agree.complete hpending hnext hlt' with habs | ⟨f, s, hs, heq⟩
  · exact absurd habs (lt_irrefl _)
  have hsn : s.sn = b.kcp.rcvNxt := by
    apply UInt32.toNat_inj.mp
    rw [hl.there.rcv.nxt]
    exact (congrArg Prod.fst heq).symm
  obtain ⟨x, rest, hx⟩ : ∃ x rest, b.kcp.rcvBuf = x :: rest :=
    List.exists_cons_of_ne_nil (List.ne_nil_of_mem hs)
  have hhead : x.sn = b.kcp.rcvNxt := by
    rw [hx] at hs hw
    have hle := hw.head_le (List.mem_map_of_mem (f := IkcpSeg.sn) hs)
    rw [hsn, Cyclic.off_self] at hle
    exact Cyclic.off_eq_zero.mp (Nat.le_zero.mp hle)
  have hfull := hblock x rest hx hhead
  rw [hl.right.rcvWnd] at hfull
  cases hq : b.kcp.rcvQueue with
  | nil =>
      rw [hq] at hfull
      exact absurd hfull (by decide)
  | cons seg queue =>
      have hmem : seg.frag ∈ a.accepted := by
        refine hl.there.agree.taken.subset ?_
        show seg.frag ∈ b.popped ++ b.kcp.rcvQueue.map IkcpSeg.frag
        rw [hq]
        simp
      have hfrg := hl.there.snd.counts _ hmem
      have hhead' : b.kcp.rcvQueue.head? = some seg := by rw [hq]; rfl
      exact absurd (ikcpPeeksize_nonneg hhead' (hfrg.trans_le hfull)) (not_le.mpr hpeek)

/-- **Nothing stays behind**: when the sender has nothing left to send and no acknowledgement to
wait for, and the receiver has nothing to read, every message has been handed out. -/
theorem ikcp_drained_delivered (h : Network.Reachable (ikcpParty conv) (ikcpParty conv) a b)
    (ha : a.accepted.length < 2 ^ 31) (hb : b.accepted.length < 2 ^ 31)
    (hwait : ikcpWaitsnd a.kcp = 0) (hpeek : ikcpPeeksize b.kcp < 0) : b.received = a.sent := by
  have hl := ikcp_linked h ha hb
  have htaken := hl.taken_all (ikcp_reach h).2.blocked hwait hpeek
  have hsplit : b.popped ++ b.kcp.rcvQueue.map IkcpSeg.frag = a.accepted := htaken
  have hqueue : b.kcp.rcvQueue = [] := by
    cases hq : b.kcp.rcvQueue with
    | nil => rfl
    | cons seg queue =>
        have hne : b.kcp.rcvQueue.map IkcpSeg.frag ≠ [] := by rw [hq]; simp
        have hdown : CountsDown (b.kcp.rcvQueue.map IkcpSeg.frag) := by
          have hd := hl.there.snd.down
          rw [← hsplit] at hd
          exact List.IsChain.right_of_append hd
        have hwhole : Whole (b.kcp.rcvQueue.map IkcpSeg.frag) := by
          have hw := hl.there.snd.whole
          rw [← hsplit] at hw
          exact fun f hf => hw f (by rw [List.getLast?_append_of_ne_nil _ hne]; exact hf)
        have hhead : b.kcp.rcvQueue.head? = some seg := by rw [hq]; rfl
        exact absurd (ikcpPeeksize_nonneg hhead (frg_lt_length hdown hwhole hhead))
          (not_le.mpr hpeek)
  rw [hqueue, List.map_nil, List.append_nil] at hsplit
  rw [hl.there.read.received, hsplit, hl.there.snd.messages]

/-- `laterSent` after its messages have been acknowledged. -/
def laterAcked : IkcpEnd :=
  (laterSent.input ((crossed.update (fun _ => true) 300).put.headD [])).2

/-- The sender has nothing to wait for, and both messages have been read. -/
theorem ikcp_drained_delivered_crossed : ikcpWaitsnd laterSent.kcp = 2 ∧
    ikcpWaitsnd laterAcked.kcp = 0 ∧
    (crossed.update (fun _ => true) 300).received = laterAcked.sent := by
  have hreach : Network.Reachable (ikcpParty 7) (ikcpParty 7) laterAcked
      (crossed.update (fun _ => true) 300) :=
    (crossed_reachable.right (.update (fun _ => true) 300)).toLeft
      (show _ ∈ (crossed.update (fun _ => true) 300).put by decide +kernel) rfl
  have hwait : ikcpWaitsnd laterAcked.kcp = 0 := by decide +kernel
  exact ⟨by decide +kernel, hwait, ikcp_drained_delivered hreach (by decide +kernel)
    (by decide +kernel) hwait (by decide +kernel)⟩

end KcpMux
