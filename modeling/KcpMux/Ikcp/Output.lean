import KcpMux.Ikcp.Calls

/-!
What `ikcp_update` puts out.

* `ikcpFlushAcks_speaks`, `ikcpFlushData_speaks`: acknowledgements are of segments that came, and
  data is what is in flight; no datagram is longer than it has to be.
* `IkcpEnd.update_moves`: an update numbers segments and puts out such datagrams.
-/

namespace KcpMux

variable {H : IkcpHeader → Bytes → Prop} {e : IkcpEnd}

/-! ### Datagrams that go out -/

namespace IkcpFlush

variable {f : IkcpFlush} {P : IkcpSeg → Prop} {B : ℕ}

/-- What has been put out and what is in the buffer consists of such segments and is not too
long. -/
structure Speaks (f : IkcpFlush) (P : IkcpSeg → Prop) (B : ℕ) : Prop where
  out : ∀ d ∈ f.out, (d ≠ [] ∧ Spoken P d) ∧ d.length ≤ B
  buffer : Spoken P f.buffer
  length : f.buffer.length ≤ B

lemma Speaks.output (h : f.Speaks P B) : f.output.Speaks P B := by
  rw [IkcpFlush.output]
  split_ifs with hne
  · exact h
  · refine ⟨fun d hd => ?_, h.buffer, h.length⟩
    rcases List.mem_append.mp hd with hd | hd
    · exact h.out d hd
    · rw [List.mem_singleton.mp hd]
      exact ⟨⟨hne, h.buffer⟩, h.length⟩

/-- A segment goes into the buffer, after room has been made for it. -/
lemma Speaks.segment (h : f.Speaks P B) {mtu : UInt32} (hmtu : mtu.toNat ≤ B) {seg : IkcpSeg}
    (hseg : P seg) (hlen : ikcpOverhead + seg.data.length ≤ B) :
    Speaks
      { (f.makeRoom mtu (ikcpOverhead + seg.data.length)).put seg with
        buffer := ((f.makeRoom mtu (ikcpOverhead + seg.data.length)).put seg).buffer ++ seg.data }
      P B := by
  rw [makeRoom]
  split_ifs with hroom
  · refine ⟨h.output.out, Spoken.nil.snoc hseg, ?_⟩
    simpa [IkcpFlush.put] using hlen
  · refine ⟨h.out, h.buffer.snoc hseg, ?_⟩
    simp only [IkcpFlush.put, List.length_append, ikcpEncodeSeg_length]
    omega

/-- A segment without data. -/
lemma Speaks.header (h : f.Speaks P B) {mtu : UInt32} (hmtu : mtu.toNat ≤ B) {seg : IkcpSeg}
    (hseg : P seg) (hdata : seg.data = []) (hB : ikcpOverhead ≤ B) :
    ((f.makeRoom mtu ikcpOverhead).put seg).Speaks P B := by
  have := h.segment hmtu hseg (by simpa [hdata] using hB)
  simpa [hdata] using this

end IkcpFlush

/-- The header that acknowledgements and probes are written with. -/
def Ikcpcb.Control (kcp : Ikcpcb) (seg : IkcpSeg) : Prop :=
  seg.una = kcp.rcvNxt ∧ seg.conv = kcp.conv ∧ seg.frg = 0 ∧ seg.data = []

/-- Acknowledgements of what is in the list, and probes. -/
def Ikcpcb.Acks (kcp : Ikcpcb) (P : IkcpSeg → Prop) : Prop :=
  ∀ seg, kcp.Control seg → (seg.cmd = ikcpCmdAck ∧ (∃ ack ∈ kcp.acklist, ack.1 = seg.sn) ∨
    seg.cmd = ikcpCmdWask ∨ seg.cmd = ikcpCmdWins) → P seg

lemma ikcpRttAck_mem {una : UInt32} {acks : List (UInt32 × UInt32)} {ack : UInt32 × UInt32}
    (h : ikcpRttAck una acks = some ack) : ack ∈ acks := by
  have hlater : ∀ (best : Option (UInt32 × UInt32)) (a : UInt32 × UInt32), a ∈ acks →
      (∀ b, best = some b → b ∈ acks) → ikcpLaterAck best a ∈ acks := by
    intro best a ha hb
    cases best with
    | none => exact ha
    | some b =>
        rw [ikcpLaterAck]
        split_ifs
        · exact ha
        · exact hb b rfl
  have hfold : ∀ (l : List (UInt32 × UInt32)) (best : Option (UInt32 × UInt32)),
      (∀ b, best = some b → b ∈ acks) → (∀ a ∈ l, a ∈ acks) →
      l.foldl (fun best ack =>
        if itimediff ack.1 una < 0 then some (ikcpLaterAck best ack) else best) best = some ack →
      ack ∈ acks := by
    intro l
    induction l with
    | nil => exact fun best hb _ he => hb ack he
    | cons a l ih =>
        intro best hb hl he
        refine ih _ (fun b hbe => ?_) (fun x hx => hl x (List.mem_cons_of_mem _ hx)) he
        dsimp only at hbe
        split_ifs at hbe
        · rw [← Option.some.inj hbe]
          exact hlater best a (hl a List.mem_cons_self) hb
        · exact hb b hbe
  exact hfold acks none (by simp) (fun _ h => h) h

section Flush

variable {kcp : Ikcpcb} {P : IkcpSeg → Prop} {B : ℕ}

lemma ikcpFlushAcks_speaks (hP : kcp.Acks P) (hmtu : kcp.mtu.toNat ≤ B) (hB : ikcpOverhead ≤ B)
    {seg : IkcpSeg} (hseg : kcp.Control seg) (hcmd : seg.cmd = ikcpCmdAck) :
    kcp.Control (ikcpFlushAcks kcp seg).1 ∧ (ikcpFlushAcks kcp seg).2.Speaks P B := by
  have hack : ∀ ack ∈ kcp.acklist, ∀ s : IkcpSeg, kcp.Control s → s.cmd = ikcpCmdAck →
      P { s with sn := ack.1, ts := ack.2 } := fun ack hm s hs hc =>
    hP _ hs (Or.inl ⟨hc, ack, hm, rfl⟩)
  have hnil : ({} : IkcpFlush).Speaks P B := ⟨by simp, Spoken.nil, Nat.zero_le _⟩
  -- every acknowledgement leaves the header as it is but for its number and time
  have hfold : ∀ (l : List (UInt32 × UInt32)) (r : IkcpSeg × IkcpFlush),
      (∀ a ∈ l, a ∈ kcp.acklist) → kcp.Control r.1 → r.1.cmd = ikcpCmdAck → r.2.Speaks P B →
      let r' := l.foldl (fun r ack =>
        if itimediff ack.1 kcp.rcvNxt ≥ 0 then
          let f := r.2.makeRoom kcp.mtu ikcpOverhead
          let seg := { r.1 with sn := ack.1, ts := ack.2 }
          (seg, f.put seg)
        else r) r
      kcp.Control r'.1 ∧ r'.2.Speaks P B := by
    intro l
    induction l with
    | nil => exact fun r _ hc _ hs => ⟨hc, hs⟩
    | cons a l ih =>
        intro r hl hc hcmd hs
        have hl' : ∀ x ∈ l, x ∈ kcp.acklist := fun x hx => hl x (List.mem_cons_of_mem _ hx)
        rw [List.foldl_cons]
        by_cases hge : itimediff a.1 kcp.rcvNxt ≥ 0
        · rw [if_pos hge]
          exact ih _ hl' hc hcmd
            (hs.header hmtu (hack a (hl a List.mem_cons_self) r.1 hc hcmd) hc.2.2.2 hB)
        · rw [if_neg hge]
          exact ih r hl' hc hcmd hs
  rw [ikcpFlushAcks]
  cases hr : ikcpRttAck kcp.rcvNxt kcp.acklist with
  | none => exact hfold _ _ (fun _ h => h) hseg hcmd hnil
  | some ack =>
      refine hfold _ _ (fun _ h => h) hseg hcmd ?_
      have h := hnil.header hmtu (hack ack (ikcpRttAck_mem hr) seg hseg hcmd) hseg.2.2.2 hB
      rw [IkcpFlush.makeRoom] at h
      simpa [IkcpFlush.output] using h

lemma ikcpFlushProbe_speaks {kcp' : Ikcpcb} (hP : kcp.Acks P) (hmtu : kcp'.mtu.toNat ≤ B)
    (hB : ikcpOverhead ≤ B) {mask cmd : UInt32} (hcmd : cmd = ikcpCmdWask ∨ cmd = ikcpCmdWins)
    {r : IkcpSeg × IkcpFlush} (hr : kcp.Control r.1 ∧ r.2.Speaks P B) :
    kcp.Control (ikcpFlushProbe kcp' mask cmd r).1 ∧
      (ikcpFlushProbe kcp' mask cmd r).2.Speaks P B := by
  rw [ikcpFlushProbe]
  split_ifs
  · exact ⟨hr.1, hr.2.header hmtu (hP _ hr.1 (Or.inr hcmd)) hr.1.2.2.2 hB⟩
  · exact hr

lemma ikcpSent_bare (current : ℤ) (rtomin : UInt32) (seg : IkcpSeg) (sending : IkcpSending) :
    (ikcpSent kcp current rtomin seg sending).bare = seg.bare := by
  cases sending <;> rfl

/-- The loop over the data segments puts out what is in flight. -/
lemma ikcpFlushData_speaks (ok : ℕ → Bool) (wnd : UInt32) (current : ℤ) (resent rtomin : UInt32)
    (hmtu : kcp.mtu.toNat ≤ B) (l : List IkcpSeg) (st : IkcpSendState)
    (hP : ∀ s ∈ l, ∀ seg : IkcpSeg, seg.una = kcp.rcvNxt → s.bare = seg.bare → P seg)
    (hlen : ∀ s ∈ l, ikcpOverhead + s.data.length ≤ B) (hst : st.flush.Speaks P B) :
    (ikcpFlushData ok kcp wnd current resent rtomin l st).1.map IkcpSeg.bare = l.map IkcpSeg.bare ∧
      (ikcpFlushData ok kcp wnd current resent rtomin l st).2.flush.Speaks P B := by
  induction l generalizing st with
  | nil => exact ⟨rfl, hst⟩
  | cons s rest ih =>
      have ih' := fun st => ih st (fun x hx => hP x (List.mem_cons_of_mem _ hx))
        (fun x hx => hlen x (List.mem_cons_of_mem _ hx))
      rw [ikcpFlushData]
      generalize ikcpSending kcp current resent s = sending
      by_cases hnone : sending = .none
      · rw [if_pos hnone]
        exact ⟨congrArg (s.bare :: ·) (ih' st hst).1, (ih' st hst).2⟩
      rw [if_neg hnone]
      dsimp only
      have hbare : (ikcpStamp kcp wnd current (ikcpSent kcp current rtomin s sending)).bare = s.bare :=
        ikcpSent_bare current rtomin s sending
      have hseg : P (ikcpStamp kcp wnd current (ikcpSent kcp current rtomin s sending)) :=
        hP s List.mem_cons_self _ rfl hbare.symm
      generalize ikcpStamp kcp wnd current (ikcpSent kcp current rtomin s sending) = seg
        at hbare hseg ⊢
      have hdata : ikcpOverhead + seg.data.length ≤ B := by
        rw [(IkcpSeg.bare_eq_iff.mp hbare).2.2.2.2]
        exact hlen s List.mem_cons_self
      have hnote : (st.note sending).flush = st.flush := by cases sending <;> rfl
      generalize st.note sending = st' at hnote ⊢
      rw [← hnote] at hst
      split_ifs
      · exact ⟨congrArg (· :: rest.map IkcpSeg.bare) hbare, hst.output⟩
      · refine ⟨?_, ?_⟩
        · rw [List.map_cons, List.map_cons, hbare, (ih' _ (hst.segment hmtu hseg hdata)).1]
        · exact (ih' _ (hst.segment hmtu hseg hdata)).2
      · refine ⟨?_, ?_⟩
        · rw [List.map_cons, List.map_cons, hbare, (ih' _ (hst.segment hmtu hseg hdata)).1]
        · exact (ih' _ (hst.segment hmtu hseg hdata)).2

end Flush

lemma ikcpProbeWindow_core (kcp : Ikcpcb) (current : ℤ) :
    (ikcpProbeWindow kcp current).core = kcp.core := by
  rw [ikcpProbeWindow]
  dsimp only
  by_cases h : kcp.rmtWnd = 0
  · rw [if_pos h]
    by_cases h' : kcp.probeWait = 0
    · rw [if_pos h']
      rfl
    · rw [if_neg h']
      by_cases h'' : itime64diff current kcp.tsProbe ≥ 0
      · rw [if_pos h'']
        rfl
      · rw [if_neg h'']
  · rw [if_neg h]
    rfl

lemma ikcpShrinkCwnd_core (kcp : Ikcpcb) (cwnd : UInt32) (change lost : Bool) :
    (ikcpShrinkCwnd kcp cwnd change lost).core = kcp.core := by
  have hmin : ∀ kcp : Ikcpcb, (if kcp.cwnd < ikcpCwndMin then
      { kcp with cwnd := ikcpCwndMin, incr := ikcpCwndMin * kcp.mss } else kcp).core = kcp.core := by
    intro kcp
    split_ifs <;> rfl
  rw [ikcpShrinkCwnd]
  dsimp only
  rw [hmin]
  cases change <;> cases lost <;> simp only [Bool.false_eq_true, if_false, if_true] <;>
    split_ifs <;> rfl

/-- The first part of `ikcp_update`. -/
lemma ikcpUpdateHead_spec {kcp : Ikcpcb} (current : ℤ) {P : IkcpSeg → Prop} {B : ℕ}
    (hP : kcp.Acks P) (hmtu : kcp.mtu.toNat ≤ B) (hB : ikcpOverhead ≤ B) :
    (ikcpUpdateHead kcp current).1.core = { kcp.core with acklist := [] } ∧
      kcp.Control (ikcpUpdateHead kcp current).2.1 ∧
      (ikcpUpdateHead kcp current).2.2.Speaks P B := by
  rw [ikcpUpdateHead]
  dsimp only
  have hcore := ikcpProbeWindow_core { kcp with
    updated := true, tsCurrent := current, tsFlush := current + kcp.interval, acklist := [] } current
  generalize ikcpProbeWindow _ current = kcp' at hcore ⊢
  have hmtu' : kcp'.mtu.toNat ≤ B := by
    rw [show kcp'.mtu = kcp.mtu from congrArg IkcpCore.mtu hcore]
    exact hmtu
  refine ⟨hcore, ikcpFlushProbe_speaks hP hmtu' hB (Or.inr rfl)
    (ikcpFlushProbe_speaks hP hmtu' hB (Or.inl rfl) ?_)⟩
  have hP' : Ikcpcb.Acks { kcp with
      updated := true, tsCurrent := current, tsFlush := current + kcp.interval } P := hP
  exact ikcpFlushAcks_speaks hP' hmtu hB ⟨rfl, rfl, rfl, rfl⟩ rfl

/-- The fast path of `ikcp_update`. -/
lemma ikcpUpdateIdle_spec (kcp' : Ikcpcb) {kcp : Ikcpcb} {seg : IkcpSeg} {f : IkcpFlush} {P : IkcpSeg → Prop}
    {B : ℕ} (hP : kcp.Acks P) (hseg : kcp.Control seg) (hf : f.Speaks P B) (hB : ikcpOverhead ≤ B) :
    (ikcpUpdateIdle kcp' seg f).1.core = kcp'.core ∧
      ∀ d ∈ (ikcpUpdateIdle kcp' seg f).2, (d ≠ [] ∧ Spoken P d) ∧ d.length ≤ B := by
  rw [ikcpUpdateIdle]
  dsimp only
  refine ⟨by split_ifs <;> rfl, ?_⟩
  by_cases h : kcp'.reminds > 0 ∧ f.buffer = []
  · rw [if_pos h]
    have hput : (f.put { seg with cmd := ikcpCmdWins }).Speaks P B := by
      have hseg' : P { seg with cmd := ikcpCmdWins } := hP _ hseg (Or.inr (Or.inr rfl))
      refine ⟨hf.out, ?_, ?_⟩
      · have := Spoken.nil.snoc hseg'
        rw [IkcpFlush.put, h.2]
        simpa [hseg.2.2.2] using this
      · simpa [IkcpFlush.put, h.2] using hB
    exact hput.output.out
  · rw [if_neg h]
    exact hf.output.out

/-- Segments get their numbers one by one. -/
lemma ikcpMoveSnd_moves {wnd cwnd : UInt32} {current : ℤ} (l : List IkcpSeg) (kcp : Ikcpcb)
    (hc : cwnd ≤ kcp.sndWnd) :
    IkcpMoves H { e with kcp := { kcp with sndQueue := l } }
      { e with kcp := ikcpMoveSnd wnd cwnd current kcp l } := by
  induction l generalizing kcp with
  | nil => exact .refl
  | cons seg rest ih =>
      rw [ikcpMoveSnd]
      split_ifs with h
      · exact .head (.number (kcp.numbered wnd current seg) rfl ⟨rfl, rfl, rfl, rfl⟩ hc h) (ih (kcp.number wnd current seg) hc)
      · exact .refl

lemma ikcpMoveSnd_acklist (wnd cwnd : UInt32) (current : ℤ) (acks : List (UInt32 × UInt32))
    (l : List IkcpSeg) (kcp : Ikcpcb) :
    ikcpMoveSnd wnd cwnd current { kcp with acklist := acks } l =
      { ikcpMoveSnd wnd cwnd current kcp l with acklist := acks } := by
  induction l generalizing kcp with
  | nil => rfl
  | cons seg rest ih =>
      rw [ikcpMoveSnd, ikcpMoveSnd]
      split_ifs
      · exact ih (kcp.number wnd current seg)
      · rfl

lemma ikcpMoveSnd_frame (wnd cwnd : UInt32) (current : ℤ) (l : List IkcpSeg) (kcp : Ikcpcb) :
    (ikcpMoveSnd wnd cwnd current kcp l).conv = kcp.conv ∧
      (ikcpMoveSnd wnd cwnd current kcp l).rcvNxt = kcp.rcvNxt ∧
      (ikcpMoveSnd wnd cwnd current kcp l).mtu = kcp.mtu ∧
      (ikcpMoveSnd wnd cwnd current kcp l).acklist = kcp.acklist := by
  induction l generalizing kcp with
  | nil => exact ⟨rfl, rfl, rfl, rfl⟩
  | cons seg rest ih =>
      rw [ikcpMoveSnd]
      split_ifs
      · exact ih _
      · exact ⟨rfl, rfl, rfl, rfl⟩

lemma imin_le_left (a b : UInt32) : imin a b ≤ a := by
  rw [imin]
  split_ifs with h
  · exact UInt32.le_refl _
  · exact UInt32.le_of_lt (UInt32.not_le.mp h)

lemma imin_le_right (a b : UInt32) : imin a b ≤ b := by
  rw [imin]
  split_ifs with h
  · exact h
  · exact UInt32.le_refl _

lemma le_foldl_max (l : List ℕ) (m : ℕ) : m ≤ l.foldl max m ∧ ∀ x ∈ l, x ≤ l.foldl max m := by
  induction l generalizing m with
  | nil => simp
  | cons a l ih =>
      obtain ⟨h1, h2⟩ := ih (max m a)
      rw [List.foldl_cons]
      refine ⟨(le_max_left _ _).trans h1, fun x hx => ?_⟩
      rcases List.mem_cons.mp hx with rfl | hx
      · exact (le_max_right _ _).trans h1
      · exact h2 x hx

lemma Ikcpcb.le_longest (kcp : Ikcpcb) : kcp.mtu.toNat ≤ kcp.longest ∧ ikcpOverhead ≤ kcp.longest ∧
    ∀ seg ∈ kcp.sndBuf, ikcpOverhead + seg.data.length ≤ kcp.longest := by
  obtain ⟨h1, h2⟩ := le_foldl_max (kcp.sndBuf.map fun seg => ikcpOverhead + seg.data.length)
    (max kcp.mtu.toNat ikcpOverhead)
  exact ⟨(le_max_left _ _).trans h1, (le_max_right _ _).trans h1,
    fun seg hs => h2 _ (List.mem_map_of_mem hs)⟩

/-- The second part of `ikcp_update`. -/
lemma ikcpUpdateData_moves {kcp : Ikcpcb} {seg : IkcpSeg} {f : IkcpFlush} (ok : ℕ → Bool)
    (current : ℤ) (hcore : kcp.core = { e.kcp.core with acklist := [] })
    (hf : ∀ P B, e.kcp.Acks P → e.kcp.mtu.toNat ≤ B → ikcpOverhead ≤ B → f.Speaks P B) :
    IkcpMoves H e { e with
      kcp := (ikcpUpdateData ok kcp current seg f).1
      put := e.put ++ (ikcpUpdateData ok kcp current seg f).2 } := by
  rw [ikcpUpdateData]
  dsimp only
  have hinit : (if kcp.cwnd < 1 then { kcp with cwnd := ikcpCwndInit, incr := ikcpCwndInit * kcp.mss }
      else kcp).core = { e.kcp.core with acklist := [] } := by
    split_ifs
    · exact hcore
    · exact hcore
  generalize (if kcp.cwnd < 1 then { kcp with cwnd := ikcpCwndInit, incr := ikcpCwndInit * kcp.mss }
      else kcp) = kcp0 at hinit ⊢
  have hcwnd : (if kcp0.nocwnd = true then imin kcp0.sndWnd kcp0.rmtWnd
      else imin kcp0.cwnd (imin kcp0.sndWnd kcp0.rmtWnd)) ≤ kcp0.sndWnd := by
    split_ifs
    · exact imin_le_left _ _
    · exact UInt32.le_trans (imin_le_right _ _) (imin_le_left _ _)
  generalize (if kcp0.nocwnd = true then imin kcp0.sndWnd kcp0.rmtWnd
      else imin kcp0.cwnd (imin kcp0.sndWnd kcp0.rmtWnd)) = cwnd at hcwnd ⊢
  -- the acknowledgements are written before, but go out with the data
  have hnumber : IkcpMoves H e { e with
      kcp := { ikcpMoveSnd seg.wnd cwnd current kcp0 kcp0.sndQueue with acklist := e.kcp.acklist } } := by
    rw [← ikcpMoveSnd_acklist]
    refine .head (.tune ?_) (ikcpMoveSnd_moves kcp0.sndQueue { kcp0 with acklist := e.kcp.acklist } hcwnd)
    exact congrArg (fun c : IkcpCore => { c with acklist := e.kcp.acklist }) hinit
  obtain ⟨hconv, hrcv, hmtu, hacks⟩ := ikcpMoveSnd_frame seg.wnd cwnd current kcp0.sndQueue kcp0
  rw [show kcp0.conv = e.kcp.conv from congrArg IkcpCore.conv hinit] at hconv
  rw [show kcp0.rcvNxt = e.kcp.rcvNxt from congrArg IkcpCore.rcvNxt hinit] at hrcv
  rw [show kcp0.mtu = e.kcp.mtu from congrArg IkcpCore.mtu hinit] at hmtu
  rw [show kcp0.acklist = [] from congrArg IkcpCore.acklist hinit] at hacks
  generalize ikcpMoveSnd seg.wnd cwnd current kcp0 kcp0.sndQueue = kcp1
    at hnumber hconv hrcv hmtu hacks ⊢
  refine hnumber.trans ?_
  obtain ⟨hm, hB, hlong⟩ := kcp1.le_longest
  have hst : f.Speaks (IkcpEnd.Says { e with kcp := { kcp1 with acklist := e.kcp.acklist } })
      kcp1.longest := by
    refine hf _ _ (fun s hs hcmd => ⟨hs.1.trans hrcv.symm, Or.inr ⟨hs.2.1.trans hconv.symm, hs.2.2.1,
      hs.2.2.2, hcmd⟩⟩) (hmtu ▸ hm) hB
  obtain ⟨hbare, hspeaks⟩ := ikcpFlushData_speaks ok seg.wnd current
    (if kcp1.fastresend > 0 then UInt32.ofInt kcp1.fastresend else 0xffffffff)
    (if kcp1.nodelay = 0 then kcp1.rxRto >>> 3 else 0) hm kcp1.sndBuf
    { flush := f, xmit := kcp1.xmit, state := kcp1.state }
    (fun s hs x hx hb => ⟨hx, Or.inl ⟨s, hs, hb⟩⟩) hlong hst
  generalize ikcpFlushData ok kcp1 seg.wnd current _ _ kcp1.sndBuf _ = r at hbare hspeaks ⊢
  refine .head (.flush (fun d hd => (hspeaks.output.out d hd).1) fun d hd =>
    (hspeaks.output.out d hd).2) (.single (.tune ?_))
  rw [ikcpShrinkCwnd_core]
  simp only [Ikcpcb.core, hbare, hacks]

/-- **`ikcp_update`**: segments get their numbers, and datagrams go out. -/
lemma IkcpEnd.update_moves (ok : ℕ → Bool) (current : ℤ) : IkcpMoves H e (e.update ok current) := by
  rw [IkcpEnd.update, ikcpUpdate]
  by_cases hidle : ikcpWaitsnd (ikcpUpdateHead e.kcp current).1 = 0
  · rw [if_pos hidle]
    have hP : e.kcp.Acks e.Says := fun seg hc hcmd => ⟨hc.1, Or.inr ⟨hc.2.1, hc.2.2.1, hc.2.2.2, hcmd⟩⟩
    obtain ⟨hmtu, hB, -⟩ := e.kcp.le_longest
    obtain ⟨hcore, hseg, hf⟩ := ikcpUpdateHead_spec current hP hmtu hB
    obtain ⟨hcore', hout⟩ := ikcpUpdateIdle_spec (ikcpUpdateHead e.kcp current).1
      hP hseg hf hB
    exact .head (.flush (fun d hd => (hout d hd).1) fun d hd => (hout d hd).2)
      (.single (.tune (hcore'.trans hcore)))
  rw [if_neg hidle]
  refine ikcpUpdateData_moves ok current ?_ fun P B hP hmtu hB => ?_
  · exact (ikcpUpdateHead_spec (P := fun _ => True) current (fun _ _ _ => trivial)
      e.kcp.le_longest.1 e.kcp.le_longest.2.1).1
  · exact (ikcpUpdateHead_spec current hP hmtu hB).2.2

lemma IkcpEnd.currentUpdate_moves (current : ℤ) : IkcpMoves H e (e.currentUpdate current) :=
  .single (.tune rfl)

end KcpMux
