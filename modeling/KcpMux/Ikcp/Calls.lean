import KcpMux.Ikcp.Trace

/-!
Sends, receives and inputs of the default KCP as sequences of steps.

* `IkcpEnd.send_moves`, `IkcpEnd.sendv_eq`: a send queues its message or changes nothing, and a
  vectored send is a send.
* `IkcpEnd.recv_moves`: a receive takes a message off the queue, or only looks at it, and moves up
  what is in order.
* `IkcpEnd.input_moves`: a datagram is taken apart (`ikcpParse`), and each segment is a few steps.
-/

namespace KcpMux

variable {H : IkcpHeader → Bytes → Prop} {e : IkcpEnd}

/-! ### Sending -/

lemma IkcpEnd.send_moves {alloc : ℕ → Bool} {buf : Bytes} (hs : e.kcp.stream = false)
    (hm : 0 < e.kcp.mss.toNat) (hf : e.kcp.Fits alloc buf.length) :
    IkcpMoves H e (e.send alloc buf).2 := by
  rw [IkcpEnd.send, IkcpEnd.record]
  rcases ikcpSend_eq hs hm hf with heq | ⟨hcount, heq⟩
  · rw [heq]
    exact .single (.tune rfl)
  · rw [heq]
    dsimp only
    rw [if_pos (by omega)]
    exact .single (.send buf hcount)

/-- **A vectored send** refuses its range, or is the send of the bytes there. -/
lemma IkcpEnd.sendv_eq (alloc : ℕ → Bool) (iov : List Bytes) (firstOffset len : ℕ) :
    e.sendv alloc iov firstOffset len = (-1, e) ∨
      e.sendv alloc iov firstOffset len =
        e.send alloc ((iov.flatten.drop firstOffset).take len) := by
  rw [IkcpEnd.sendv, IkcpEnd.send]
  by_cases h0 : len = 0
  · refine Or.inr ?_
    rw [ikcpSendv.eq_def, if_pos h0, h0, List.take_zero]
  by_cases hgood : (∀ item, iov.head? = some item → firstOffset ≤ item.length) ∧
      firstOffset + len ≤ iov.flatten.length
  · exact Or.inr (by rw [ikcpSendv_eq alloc e.kcp hgood.1 hgood.2])
  · refine Or.inl ?_
    have hrefused : ikcpSendv alloc e.kcp iov firstOffset len = (-1, e.kcp) := by
      rw [ikcpSendv.eq_def, if_neg h0]
      cases iov with
      | nil => rfl
      | cons item rest =>
          dsimp only
          by_cases hoff : firstOffset > item.length
          · rw [if_pos hoff]
          rw [if_neg hoff]
          refine if_pos ?_
          by_contra hlen
          refine hgood ⟨fun x hx => ?_, by omega⟩
          obtain rfl : item = x := by simpa using hx
          omega
    rw [hrefused]
    rfl

/-! ### Receiving -/

/-- What is in order is moved one by one. -/
lemma ikcpMoveRcv_moves (l : List IkcpSeg) (kcp : Ikcpcb) :
    IkcpMoves H { e with kcp := { kcp with rcvBuf := l } } { e with kcp := ikcpMoveRcv kcp l } := by
  induction l generalizing kcp with
  | nil => exact .refl
  | cons seg rest ih =>
      rw [ikcpMoveRcv]
      split_ifs with h
      · exact .head (.take rfl h.1 h.2)
          (ih { kcp with rcvQueue := kcp.rcvQueue ++ [seg], rcvNxt := kcp.rcvNxt + 1 })
      · exact .refl

lemma ikcpRecover_core (recover : Bool) (kcp : Ikcpcb) :
    (ikcpRecover recover kcp).core = kcp.core := by
  rw [ikcpRecover]
  split_ifs <;> rfl

/-- **`ikcp_recv`** fails and leaves everything as it is, or finds a complete message, which it
takes off the queue unless it only peeks. -/
lemma ikcpRecv_cases (kcp : Ikcpcb) (len : ℤ) :
    (∃ ret < 0, ikcpRecv kcp len = (ret, [], kcp)) ∨
      0 ≤ ikcpPeeksize kcp ∧ ∃ recover, ikcpRecv kcp len =
        (((ikcpBytes (ikcpMessage kcp.rcvQueue).1).length : ℤ),
          ikcpBytes (ikcpMessage kcp.rcvQueue).1,
          ikcpRecover recover (ikcpMoveRcv
            (if len < 0 then kcp else { kcp with rcvQueue := (ikcpMessage kcp.rcvQueue).2 })
            kcp.rcvBuf)) := by
  rw [ikcpRecv]
  by_cases hnil : kcp.rcvQueue = []
  · rw [if_pos hnil]
    exact Or.inl ⟨-1, by omega, rfl⟩
  rw [if_neg hnil]
  dsimp only
  by_cases h2 : ikcpPeeksize kcp < 0
  · rw [if_pos h2]
    exact Or.inl ⟨-2, by omega, rfl⟩
  rw [if_neg h2]
  by_cases h3 : ikcpPeeksize kcp > if len < 0 then -len else len
  · rw [if_pos h3]
    exact Or.inl ⟨-3, by omega, rfl⟩
  rw [if_neg h3]
  refine Or.inr ⟨not_lt.mp h2, decide (kcp.rcvQueue.length ≥ kcp.rcvWnd.toNat), ?_⟩
  by_cases hlen : len < 0 <;> simp [hlen]

lemma IkcpEnd.recv_moves (len : ℤ) : IkcpMoves H e (e.recv len).2.2 := by
  rw [IkcpEnd.recv]
  dsimp only
  rcases ikcpRecv_cases e.kcp len with ⟨ret, hret, heq⟩ | ⟨hpeek, recover, heq⟩
  · rw [heq]
    dsimp only
    rw [if_neg (by omega)]
  rw [heq]
  dsimp only
  by_cases hlen : len < 0
  · rw [if_neg (by omega), if_pos hlen]
    exact (ikcpMoveRcv_moves (e := e) e.kcp.rcvBuf e.kcp).tail (.tune (ikcpRecover_core _ _))
  · rw [if_pos (by omega), if_neg hlen]
    refine .head (.pop hpeek) (.tail (ikcpMoveRcv_moves (e := { e with
      received := e.received ++ [ikcpBytes (ikcpMessage e.kcp.rcvQueue).1]
      popped := e.popped ++ (ikcpMessage e.kcp.rcvQueue).1.map IkcpSeg.frag }) e.kcp.rcvBuf
      { e.kcp with rcvQueue := (ikcpMessage e.kcp.rcvQueue).2 }) (.tune (ikcpRecover_core _ _)))

/-! ### Datagrams that come in -/

lemma ikcpUpdateAck_core (kcp : Ikcpcb) (rtt : ℤ) : (ikcpUpdateAck kcp rtt).core = kcp.core := by
  rw [ikcpUpdateAck]
  dsimp only
  split_ifs <;> rfl

lemma ikcpGrow_core (kcp : Ikcpcb) (prevUna : UInt32) : (ikcpGrow kcp prevUna).core = kcp.core := by
  rw [ikcpGrow]
  dsimp only
  by_cases h : itimediff kcp.sndUna prevUna > 0 ∧ kcp.cwnd < kcp.rmtWnd
  · rw [if_pos h]
    by_cases h' : kcp.cwnd < kcp.ssthresh
    · rw [if_pos h']
      split_ifs <;> rfl
    · rw [if_neg h']
      split_ifs <;> rfl
  · rw [if_neg h]

lemma ikcpParseFastackLoop_bare (sn ts : UInt32) (l : List IkcpSeg) :
    (ikcpParseFastackLoop sn ts l).map IkcpSeg.bare = l.map IkcpSeg.bare := by
  induction l with
  | nil => rfl
  | cons seg rest ih =>
      rw [ikcpParseFastackLoop]
      split_ifs
      · rfl
      · exact congrArg (seg.bare :: ·) ih
      · exact congrArg (seg.bare :: ·) ih
      · exact congrArg (seg.bare :: ·) ih

lemma ikcpParseFastack_core (kcp : Ikcpcb) (sn ts : UInt32) :
    (ikcpParseFastack kcp sn ts).core = kcp.core := by
  rw [ikcpParseFastack]
  by_cases h : itimediff sn kcp.sndUna < 0 ∨ itimediff sn kcp.sndNxt ≥ 0
  · rw [if_pos h]
  · rw [if_neg h]
    simp only [Ikcpcb.core, ikcpParseFastackLoop_bare]

/-- A segment with data. -/
lemma ikcpInputPush_moves {h : IkcpHeader} {data : Bytes} (hh : H h data)
    (hcmd : h.cmd.toUInt32 = ikcpCmdPush) :
    IkcpMoves H e { e with kcp := ikcpInputPush e.kcp h data } := by
  rw [ikcpInputPush]
  by_cases hhi : itimediff h.sn (e.kcp.rcvNxt + e.kcp.rcvWnd) < 0
  · rw [if_pos hhi]
    dsimp only
    by_cases hlo : itimediff h.sn e.kcp.rcvNxt ≥ 0
    · rw [if_pos (show itimediff h.sn (ikcpAckPush e.kcp h.sn h.ts).rcvNxt ≥ 0 from hlo),
        ikcpParseData, if_neg]
      · exact .head (.keep hh hcmd hlo hhi)
          (.tail (ikcpMoveRcv_moves _ (ikcpAckPush e.kcp h.sn h.ts)) (.tune rfl))
      · rintro (hc | hc)
        · exact absurd hhi (not_lt.mpr hc)
        · exact absurd hlo (not_le.mpr hc)
    · rw [if_neg (show ¬ itimediff h.sn (ikcpAckPush e.kcp h.sn h.ts).rcvNxt ≥ 0 from hlo)]
      exact .single (.stale hh hcmd (not_le.mp hlo))
  · rw [if_neg hhi]

/-- An acknowledgement. -/
lemma ikcpInputAck_moves {h : IkcpHeader} {data : Bytes} (hh : H h data)
    (hcmd : h.cmd.toUInt32 = ikcpCmdAck) (current : ℤ) :
    IkcpMoves H e { e with kcp := ikcpInputAck e.kcp current h } := by
  rw [ikcpInputAck]
  have hrtt : ∀ kcp : Ikcpcb, kcp.core = e.kcp.core →
      IkcpMoves H e { e with kcp := ikcpShrinkBuf (ikcpParseAck kcp h.sn) } := fun kcp hcore =>
    .head (.tune hcore) (.single (.ack (e := { e with kcp := kcp }) hh hcmd))
  apply hrtt
  split_ifs
  · exact ikcpUpdateAck_core _ _
  · rfl

/-- A segment of a datagram. -/
lemma ikcpInputSeg_moves {h : IkcpHeader} {data : Bytes} (hh : H h data) (current : ℤ) :
    IkcpMoves H e { e with kcp := ikcpInputSeg e.kcp current h data } := by
  have hwnd : IkcpTrans H e { e with kcp := { e.kcp with rmtWnd := h.wnd.toUInt32 } } := .tune rfl
  rw [ikcpInputSeg]
  generalize { e.kcp with rmtWnd := h.wnd.toUInt32 } = kcp at hwnd ⊢
  have huna : IkcpMoves H e { e with kcp := ikcpShrinkBuf (ikcpParseUna kcp h.una) } :=
    .head hwnd (.single (.una hh))
  generalize ikcpShrinkBuf (ikcpParseUna kcp h.una) = kcp at huna ⊢
  refine huna.trans ?_
  split_ifs with hack hpush hwask
  · exact ikcpInputAck_moves (e := { e with kcp := kcp }) hh hack current
  · exact ikcpInputPush_moves (e := { e with kcp := kcp }) hh hpush
  · exact .single (.tune rfl)
  · exact .refl

/-- The segments that `ikcp_input` finds in a datagram, up to the first one it refuses. -/
def ikcpParse (conv : UInt32) : ℕ → Bytes → List (IkcpHeader × Bytes)
  | 0, _ => []
  | rounds + 1, data =>
      if data.length < ikcpOverhead then []
      else
        let r := ikcpDecodeSeg data
        if r.1.conv ≠ conv then []
        else if r.2.length < r.1.len.toNat ∨ r.1.len.toNat ≥ 2 ^ 31 then []
        else if ¬ r.1.Known then []
        else (r.1, r.2.take r.1.len.toNat) :: ikcpParse conv rounds (r.2.drop r.1.len.toNat)

lemma ikcpInputSeg_conv (kcp : Ikcpcb) (current : ℤ) (h : IkcpHeader) (data : Bytes) :
    (ikcpInputSeg kcp current h data).conv = kcp.conv := by
  have hmoves : IkcpMoves (fun _ _ => True) { kcp := kcp }
      { kcp := ikcpInputSeg kcp current h data } := ikcpInputSeg_moves trivial current
  exact congrArg IkcpSettings.conv hmoves.settings

/-- **The loop of `ikcp_input`** takes the segments of the datagram one after the other. -/
lemma ikcpInputLoop_kcp (current : ℤ) (rounds : ℕ) (kcp : Ikcpcb) (m : IkcpMaxAck) (data : Bytes) :
    (ikcpInputLoop current rounds kcp m data).2.2 =
      (ikcpParse kcp.conv rounds data).foldl (fun kcp p => ikcpInputSeg kcp current p.1 p.2) kcp := by
  induction rounds generalizing kcp m data with
  | zero => rfl
  | succ rounds ih =>
      rw [ikcpInputLoop, ikcpParse]
      dsimp only
      by_cases h1 : data.length < ikcpOverhead
      · rw [if_pos h1, if_pos h1]
        rfl
      rw [if_neg h1, if_neg h1]
      generalize ikcpDecodeSeg data = r
      by_cases h2 : r.1.conv ≠ kcp.conv
      · rw [if_pos h2, if_pos h2]
        rfl
      rw [if_neg h2, if_neg h2]
      by_cases h3 : r.2.length < r.1.len.toNat ∨ r.1.len.toNat ≥ 2 ^ 31
      · rw [if_pos h3, if_pos h3]
        rfl
      rw [if_neg h3, if_neg h3]
      by_cases h4 : ¬ r.1.Known
      · rw [if_pos h4, if_pos h4]
        rfl
      rw [if_neg h4, if_neg h4, ih, ikcpInputSeg_conv]
      rfl

lemma IkcpEnd.input_moves {data : Bytes}
    (hH : ∀ p ∈ ikcpParse e.kcp.conv data.length data, H p.1 p.2) :
    IkcpMoves H e (e.input data).2 := by
  have hfold : ∀ (l : List (IkcpHeader × Bytes)) (kcp : Ikcpcb) (current : ℤ),
      (∀ p ∈ l, H p.1 p.2) → IkcpMoves H { e with kcp := kcp }
        { e with kcp := l.foldl (fun kcp p => ikcpInputSeg kcp current p.1 p.2) kcp } := by
    intro l
    induction l with
    | nil => exact fun _ _ _ => .refl
    | cons p l ih =>
        intro kcp current hl
        exact (ikcpInputSeg_moves (e := { e with kcp := kcp }) (hl p List.mem_cons_self) current).trans
          (ih _ current fun q hq => hl q (List.mem_cons_of_mem _ hq))
  rw [IkcpEnd.input, ikcpInput]
  by_cases hlen : data.length < ikcpOverhead
  · rw [if_pos hlen]
  rw [if_neg hlen]
  have hloop := hfold _ e.kcp e.kcp.tsCurrent hH
  rw [← ikcpInputLoop_kcp e.kcp.tsCurrent data.length e.kcp none data] at hloop
  dsimp only
  generalize ikcpInputLoop e.kcp.tsCurrent data.length e.kcp none data = r at hloop ⊢
  obtain ⟨ret, m, kcp⟩ := r
  cases ret with
  | some ret => exact hloop
  | none =>
      cases m with
      | none => exact hloop.tail (.tune (ikcpGrow_core _ _))
      | some ack =>
          exact hloop.tail (.tune ((ikcpGrow_core _ _).trans (ikcpParseFastack_core _ _ _)))

end KcpMux
