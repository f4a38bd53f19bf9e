import KcpMux.Ikcp.Window

/-!
Runs of the default KCP: an instance as kcp-mux sets it up, the calls that are made, and any datagrams
that come in.

* `ikcp_windows_bounded`: what an instance keeps is bounded by its windows, in every run.
* `ikcp_datagrams_fit`: every datagram it puts out has at most `mtu` bytes, and any instance with
  the same `conv` takes it in without an error.
-/

namespace KcpMux

variable {H : IkcpHeader → Bytes → Prop} {e e' : IkcpEnd} {kcp : Ikcpcb}

/-! ### Runs -/

/-- An instance before its first message: no numbers are used, and the settings are in order. -/
structure Ikcpcb.Fresh (kcp : Ikcpcb) : Prop where
  sndUna : kcp.sndUna = 0
  sndNxt : kcp.sndNxt = 0
  rcvNxt : kcp.rcvNxt = 0
  sndQueue : kcp.sndQueue = []
  rcvQueue : kcp.rcvQueue = []
  sndBuf : kcp.sndBuf = []
  rcvBuf : kcp.rcvBuf = []
  acklist : kcp.acklist = []
  stream : kcp.stream = false
  sndWnd : kcp.sndWnd = ikcpWndSnd
  rcvWnd : kcp.rcvWnd = ikcpWndRcv
  mss : 0 < kcp.mss.toNat
  mtu : kcp.mtu.toNat = kcp.mss.toNat + ikcpOverhead
  bound : kcp.mtu.toNat < 2 ^ 31

lemma ikcpBlank_fresh (conv : UInt32) : (ikcpBlank conv).Fresh := by
  refine ⟨rfl, rfl, rfl, rfl, rfl, rfl, rfl, rfl, rfl, rfl, rfl, ?_, rfl, ?_⟩
  · show (0 : ℕ) < 1376
    omega
  · show (1400 : ℕ) < 2 ^ 31
    omega

lemma ikcpNodelay_fresh (h : kcp.Fresh) (nodelay interval resend nc : ℤ) :
    (ikcpNodelay kcp nodelay interval resend nc).Fresh := by
  have hcore : (ikcpNodelay kcp nodelay interval resend nc).core = kcp.core := by
    rw [ikcpNodelay]
    by_cases h1 : nodelay ≥ 0 <;> by_cases h2 : interval ≥ 0 <;> by_cases h3 : resend ≥ 0 <;>
      by_cases h4 : nc ≥ 0 <;> simp only [h1, h2, h3, h4, if_true, if_false] <;> rfl
  have hbuf : (ikcpNodelay kcp nodelay interval resend nc).sndBuf.map IkcpSeg.bare =
      kcp.sndBuf.map IkcpSeg.bare := congrArg IkcpCore.sndBuf hcore
  rw [h.sndBuf, List.map_nil, List.map_eq_nil_iff] at hbuf
  have hmtu : (ikcpNodelay kcp nodelay interval resend nc).mtu = kcp.mtu :=
    congrArg IkcpCore.mtu hcore
  have hmss : (ikcpNodelay kcp nodelay interval resend nc).mss = kcp.mss :=
    congrArg IkcpCore.mss hcore
  exact ⟨(congrArg IkcpCore.sndUna hcore).trans h.sndUna,
    (congrArg IkcpCore.sndNxt hcore).trans h.sndNxt, (congrArg IkcpCore.rcvNxt hcore).trans h.rcvNxt,
    (congrArg IkcpCore.sndQueue hcore).trans h.sndQueue,
    (congrArg IkcpCore.rcvQueue hcore).trans h.rcvQueue, hbuf,
    (congrArg IkcpCore.rcvBuf hcore).trans h.rcvBuf,
    (congrArg IkcpCore.acklist hcore).trans h.acklist,
    (congrArg IkcpCore.stream hcore).trans h.stream,
    (congrArg IkcpCore.sndWnd hcore).trans h.sndWnd,
    (congrArg IkcpCore.rcvWnd hcore).trans h.rcvWnd, by rw [hmss]; exact h.mss,
    by rw [hmss, hmtu]; exact h.mtu, by rw [hmtu]; exact h.bound⟩

/-- A refused `mtu` leaves the one before. -/
lemma ikcpSetmtu_fresh (h : kcp.Fresh) (alloc : ℕ → Bool) {mtu : ℤ} (hmtu : mtu < 2 ^ 31) :
    (ikcpSetmtu alloc kcp mtu).2.Fresh := by
  rw [ikcpSetmtu]
  by_cases h1 : mtu < 50 ∨ mtu < ikcpOverhead
  · rw [if_pos h1]
    exact h
  rw [if_neg h1]
  by_cases h2 : alloc 0 = false
  · rw [if_pos h2]
    exact h
  rw [if_neg h2]
  have hnat : (UInt32.ofInt mtu).toNat = mtu.toNat := by
    rw [UInt32.ofInt, UInt32.toNat_ofNat']
    omega
  have h24 : (UInt32.ofNat ikcpOverhead).toNat = 24 := rfl
  have hsub : (UInt32.ofInt mtu - UInt32.ofNat ikcpOverhead).toNat = mtu.toNat - 24 := by
    rw [UInt32.toNat_sub, hnat, h24]
    omega
  refine ⟨h.sndUna, h.sndNxt, h.rcvNxt, h.sndQueue, h.rcvQueue, h.sndBuf, h.rcvBuf, h.acklist,
    h.stream, h.sndWnd, h.rcvWnd, ?_, ?_, ?_⟩
  · show 0 < (UInt32.ofInt mtu - UInt32.ofNat ikcpOverhead).toNat
    omega
  · show (UInt32.ofInt mtu).toNat = (UInt32.ofInt mtu - UInt32.ofNat ikcpOverhead).toNat + 24
    omega
  · show (UInt32.ofInt mtu).toNat < 2 ^ 31
    omega

/-- The user's calls.  `G` restricts what memory there is for a send. -/
inductive IkcpCall (G : Ikcpcb → (ℕ → Bool) → ℕ → Prop) : IkcpEnd → IkcpEnd → Prop
  | send {e : IkcpEnd} {alloc : ℕ → Bool} {buf : Bytes} (h : G e.kcp alloc buf.length) :
      IkcpCall G e (e.send alloc buf).2
  | sendv {e : IkcpEnd} {alloc : ℕ → Bool} {iov : List Bytes} {firstOffset len : ℕ}
      (h : G e.kcp alloc ((iov.flatten.drop firstOffset).take len).length) :
      IkcpCall G e (e.sendv alloc iov firstOffset len).2
  | recv {e : IkcpEnd} (len : ℤ) : IkcpCall G e (e.recv len).2.2
  | update {e : IkcpEnd} (ok : ℕ → Bool) (current : ℤ) : IkcpCall G e (e.update ok current)
  | currentUpdate {e : IkcpEnd} (current : ℤ) : IkcpCall G e (e.currentUpdate current)

/-- When there is memory, every call is a sequence of steps. -/
lemma IkcpCall.moves (h : IkcpCall Ikcpcb.Fits e e') (hs : e.kcp.stream = false)
    (hm : 0 < e.kcp.mss.toNat) : IkcpMoves H e e' := by
  cases h with
  | send h => exact IkcpEnd.send_moves hs hm h
  | @sendv alloc iov firstOffset len h =>
      rcases e.sendv_eq alloc iov firstOffset len with heq | heq
      · rw [heq]
      · rw [heq]
        exact IkcpEnd.send_moves hs hm h
  | recv len => exact IkcpEnd.recv_moves len
  | update ok current => exact IkcpEnd.update_moves ok current
  | currentUpdate current => exact IkcpEnd.currentUpdate_moves current

/-- The states of an instance that is called in any way and fed any datagrams. -/
inductive IkcpReach : IkcpEnd → Prop
  | fresh {kcp : Ikcpcb} (h : kcp.Fresh) : IkcpReach { kcp := kcp }
  | call {e e' : IkcpEnd} (h : IkcpReach e) (hc : IkcpCall (fun _ _ _ => True) e e') : IkcpReach e'
  | input {e : IkcpEnd} (h : IkcpReach e) (data : Bytes) : IkcpReach (e.input data).2

/-! ### Sends without memory -/

section Queue

variable (alloc : ℕ → Bool) {C : Type} {copy : C → ℕ → Bytes × C}

lemma ikcpSendLoop_queue (hcopy : ∀ c n, (copy c n).1.length ≤ n) (n : ℕ) :
    ∀ (kcp : Ikcpcb) (i : ℕ) (c : C) (len : ℕ) (sent : ℤ),
      ∃ segs, (ikcpSendLoop alloc copy kcp i n c len sent).2 = kcp.enqueue segs ∧
        ∀ s ∈ segs, s.data.length ≤ kcp.mss.toNat := by
  induction n with
  | zero =>
      intro kcp i c len sent
      exact ⟨[], by simp [ikcpSendLoop, Ikcpcb.enqueue], by simp⟩
  | succ n ih =>
      intro kcp i c len sent
      rw [ikcpSendLoop]
      dsimp only
      by_cases ha : alloc i = false
      · rw [if_pos ha]
        exact ⟨[], by simp [Ikcpcb.enqueue], by simp⟩
      rw [if_neg ha]
      have hsize : (if len > kcp.mss.toNat then kcp.mss.toNat else len) ≤ kcp.mss.toNat := by
        split_ifs <;> omega
      generalize (if len > kcp.mss.toNat then kcp.mss.toNat else len) = size at hsize ⊢
      have hb := (hcopy c size).trans hsize
      generalize copy c size = r at hb ⊢
      obtain ⟨segs, hsegs, hlen⟩ := ih
        (kcp.enqueue [{ data := r.1, frg := if kcp.stream then 0 else UInt32.ofNat n }])
        (i + 1) r.2 (len - size) (sent + size)
      rw [hsegs, Ikcpcb.enqueue_enqueue]
      refine ⟨_, rfl, fun s hs => ?_⟩
      rcases List.mem_append.mp hs with hs | hs
      · rw [List.mem_singleton.mp hs]
        exact hb
      · exact hlen s hs

/-- **Whatever memory there is**, a send only adds segments to the queue that are not too long. -/
lemma ikcpSendFrom_queue (hcopy : ∀ c n, (copy c n).1.length ≤ n) (hs : kcp.stream = false) (c : C)
    (len : ℕ) :
    ∃ segs, (ikcpSendFrom alloc copy kcp c len).2 = kcp.enqueue segs ∧
      ∀ s ∈ segs, s.data.length ≤ kcp.mss.toNat := by
  rw [ikcpSendFrom]
  dsimp only
  rw [if_neg (by simp [hs])]
  by_cases h : ikcpCount kcp len ≥ ikcpWndRcv.toNat
  · rw [if_pos h]
    exact ⟨[], by simp [Ikcpcb.enqueue], by simp⟩
  · rw [if_neg h]
    exact ikcpSendLoop_queue alloc hcopy _ kcp 0 c len 0

end Queue

lemma IkcpEnd.send_queue (hs : e.kcp.stream = false) (alloc : ℕ → Bool) (buf : Bytes) :
    ∃ segs sent accepted, (e.send alloc buf).2 =
        { e with kcp := e.kcp.enqueue segs, sent := sent, accepted := accepted } ∧
      ∀ s ∈ segs, s.data.length ≤ e.kcp.mss.toNat := by
  have hcopy : ∀ (c : Bytes) n, (bufferCopy c n).1.length ≤ n := fun c n => by
    rw [bufferCopy, List.length_take]
    exact min_le_left _ _
  obtain ⟨segs, hsegs, hlen⟩ := ikcpSendFrom_queue alloc hcopy hs buf buf.length
  rw [IkcpEnd.send, IkcpEnd.record]
  dsimp only
  rw [show (ikcpSend alloc e.kcp buf).2 = e.kcp.enqueue segs from hsegs]
  split_ifs
  · exact ⟨segs, _, _, rfl, hlen⟩
  · exact ⟨segs, _, _, rfl, hlen⟩

/-! ### Reading back -/

/-- A segment that `ikcp_input` accepts when it meets it in a datagram. -/
def IkcpSeg.Sendable (conv : UInt32) (seg : IkcpSeg) : Prop :=
  seg.conv = conv ∧ (seg.cmd = ikcpCmdPush ∨ seg.cmd = ikcpCmdAck ∨ seg.cmd = ikcpCmdWask ∨
    seg.cmd = ikcpCmdWins) ∧ seg.data.length < 2 ^ 31

lemma IkcpSeg.Sendable.known {conv : UInt32} {seg : IkcpSeg} (h : seg.Sendable conv) :
    seg.header.Known ∧ seg.header.cmd.toUInt32 = seg.cmd := by
  rw [IkcpHeader.Known]
  show ((seg.cmd.toUInt8.toUInt32 = _ ∨ seg.cmd.toUInt8.toUInt32 = _ ∨
    seg.cmd.toUInt8.toUInt32 = _ ∨ seg.cmd.toUInt8.toUInt32 = _) ∧ seg.cmd.toUInt8.toUInt32 = seg.cmd)
  rcases h.2.1 with hc | hc | hc | hc <;> rw [hc] <;> decide

lemma ikcpWire_cons (seg : IkcpSeg) (segs : List IkcpSeg) :
    ikcpWire (seg :: segs) = ikcpEncodeSeg seg ++ (seg.data ++ ikcpWire segs) := by
  simp [ikcpWire]

lemma length_le_ikcpWire (segs : List IkcpSeg) : ikcpOverhead * segs.length ≤ (ikcpWire segs).length := by
  induction segs with
  | nil => exact le_rfl
  | cons seg segs ih =>
      rw [ikcpWire_cons, List.length_append, List.length_append, ikcpEncodeSeg_length,
        List.length_cons, Nat.mul_succ]
      omega

/-- One round of reading takes one segment off. -/
lemma ikcpDecodeSeg_wire {conv : UInt32} {seg : IkcpSeg} (h : seg.Sendable conv)
    (segs : List IkcpSeg) :
    ¬ (ikcpWire (seg :: segs)).length < ikcpOverhead ∧
      ikcpDecodeSeg (ikcpWire (seg :: segs)) = (seg.header, seg.data ++ ikcpWire segs) ∧
      seg.header.len.toNat = seg.data.length := by
  have hlen : seg.header.len.toNat = seg.data.length := by
    show (UInt32.ofNat seg.data.length).toNat = _
    rw [UInt32.toNat_ofNat']
    have := h.2.2
    omega
  refine ⟨?_, ?_, hlen⟩
  · rw [ikcpWire_cons, List.length_append, ikcpEncodeSeg_length]
    omega
  · rw [ikcpWire_cons, ikcpDecodeSeg_encode]

/-- **Segments on the wire are read back.** -/
lemma ikcpParse_wire {conv : UInt32} {segs : List IkcpSeg} (h : ∀ s ∈ segs, s.Sendable conv)
    {rounds : ℕ} (hr : segs.length ≤ rounds) :
    ikcpParse conv rounds (ikcpWire segs) = segs.map fun s => (s.header, s.data) := by
  induction segs generalizing rounds with
  | nil =>
      cases rounds with
      | zero => rfl
      | succ rounds =>
          rw [ikcpParse, if_pos (by show (0 : ℕ) < 24; omega)]
          rfl
  | cons seg segs ih =>
      cases rounds with
      | zero => simp at hr
      | succ rounds =>
          have hseg := h seg List.mem_cons_self
          obtain ⟨h1, h2, h3⟩ := ikcpDecodeSeg_wire hseg segs
          rw [ikcpParse, if_neg h1, h2]
          dsimp only
          rw [h3, if_neg (show ¬ seg.header.conv ≠ _ from not_not.mpr hseg.1), if_neg,
            if_neg (not_not.mpr hseg.known.1),
            List.take_left, List.drop_left, ih (fun s hs => h s (List.mem_cons_of_mem _ hs))
            (by simpa using hr)]
          · rfl
          · have := hseg.2.2
            rw [List.length_append]
            omega

/-- Such a datagram is read to its end. -/
lemma ikcpInputLoop_wire (current : ℤ) {segs : List IkcpSeg} (rounds : ℕ) (kcp : Ikcpcb)
    (m : IkcpMaxAck) (h : ∀ s ∈ segs, s.Sendable kcp.conv) :
    (ikcpInputLoop current rounds kcp m (ikcpWire segs)).1 = none := by
  induction segs generalizing rounds kcp m with
  | nil =>
      cases rounds with
      | zero => rfl
      | succ rounds =>
          rw [ikcpInputLoop, if_pos (by show (0 : ℕ) < 24; omega)]
  | cons seg segs ih =>
      cases rounds with
      | zero => rfl
      | succ rounds =>
          have hseg := h seg List.mem_cons_self
          obtain ⟨h1, h2, h3⟩ := ikcpDecodeSeg_wire hseg segs
          rw [ikcpInputLoop, if_neg h1, h2]
          dsimp only
          rw [h3, if_neg (show ¬ seg.header.conv ≠ _ from not_not.mpr hseg.1), if_neg,
            if_neg (not_not.mpr hseg.known.1),
            List.take_left, List.drop_left]
          · apply ih
            rw [ikcpInputSeg_conv]
            exact fun s hs => h s (List.mem_cons_of_mem _ hs)
          · have := hseg.2.2
            rw [List.length_append]
            omega

/-- **A datagram of such segments is accepted**, whatever state the instance is in. -/
lemma ikcpInput_spoken {d : Bytes} (hne : d ≠ []) (hd : Spoken (IkcpSeg.Sendable kcp.conv) d) :
    (ikcpInput kcp d).1 = 0 := by
  obtain ⟨segs, rfl, hP⟩ := hd
  have hlen : ¬ (ikcpWire segs).length < ikcpOverhead := by
    cases segs with
    | nil => exact absurd rfl hne
    | cons seg segs => exact (ikcpDecodeSeg_wire (hP seg List.mem_cons_self) segs).1
  rw [ikcpInput, if_neg hlen]
  dsimp only
  rw [ikcpInputLoop_wire kcp.tsCurrent _ kcp none hP]

/-! ### Form and size -/

/-- The segments that are queued and in flight are cut to size, and so are the datagrams. -/
structure IkcpEnd.Formed (e : IkcpEnd) : Prop where
  mtu : e.kcp.mtu.toNat = e.kcp.mss.toNat + ikcpOverhead
  bound : e.kcp.mtu.toNat < 2 ^ 31
  queue : ∀ s ∈ e.kcp.sndQueue, s.data.length ≤ e.kcp.mss.toNat
  buf : ∀ s ∈ e.kcp.sndBuf,
    s.conv = e.kcp.conv ∧ s.cmd = ikcpCmdPush ∧ s.data.length ≤ e.kcp.mss.toNat
  put : ∀ d ∈ e.put, d ≠ [] ∧ Spoken (IkcpSeg.Sendable e.kcp.conv) d ∧ d.length ≤ e.kcp.mtu.toNat

lemma length_ikcpFragments {mss n : ℕ} {buf : Bytes} {f : IkcpFrag}
    (h : f ∈ ikcpFragments mss n buf) : f.2.length ≤ mss := by
  induction n generalizing buf with
  | zero => cases h
  | succ n ih =>
      rw [ikcpFragments] at h
      rcases List.mem_cons.mp h with rfl | h
      · rw [List.length_take]
        exact min_le_left _ _
      · exact ih h

lemma foldl_max_le {l : List ℕ} {m B : ℕ} (hm : m ≤ B) (hl : ∀ x ∈ l, x ≤ B) : l.foldl max m ≤ B := by
  induction l generalizing m with
  | nil => exact hm
  | cons a l ih =>
      exact ih (max_le hm (hl a List.mem_cons_self)) fun x hx => hl x (List.mem_cons_of_mem _ hx)

/-- What an instance says has the right form. -/
lemma IkcpEnd.Formed.sendable (h : e.Formed) {seg : IkcpSeg} (hs : e.Says seg) :
    seg.Sendable e.kcp.conv := by
  rcases hs.body with ⟨s, hm, hb⟩ | ⟨hconv, -, hdata, hcmd⟩
  · obtain ⟨h1, h2, -, -, h5⟩ := IkcpSeg.bare_eq_iff.mp hb
    obtain ⟨hc, hp, hl⟩ := h.buf s hm
    refine ⟨h1 ▸ hc, Or.inl (h2 ▸ hp), ?_⟩
    have := h.bound
    have := h.mtu
    rw [← h5]
    omega
  · refine ⟨hconv, ?_, by rw [hdata]; exact Nat.two_pow_pos 31⟩
    rcases hcmd with ⟨hc, -⟩ | hc | hc
    · exact Or.inr (Or.inl hc)
    · exact Or.inr (Or.inr (Or.inl hc))
    · exact Or.inr (Or.inr (Or.inr hc))

lemma IkcpEnd.Formed.longest_le (h : e.Formed) : e.kcp.longest ≤ e.kcp.mtu.toNat := by
  have hmtu := h.mtu
  refine foldl_max_le (max_le le_rfl (by omega)) fun x hx => ?_
  obtain ⟨s, hs, rfl⟩ := List.mem_map.mp hx
  have := (h.buf s hs).2.2
  omega

/-- Segments in flight only go away, and other things change. -/
lemma IkcpEnd.Formed.of_sublist (h : e.Formed) {kcp : Ikcpcb} {l : List IkcpSeg}
    (hset : kcp.settings = e.kcp.settings) (hq : kcp.sndQueue = e.kcp.sndQueue)
    (hl : l.Sublist (e.kcp.sndBuf.map IkcpSeg.bare)) (hb : kcp.sndBuf.map IkcpSeg.bare = l) :
    IkcpEnd.Formed { e with kcp := kcp } := by
  have hconv : kcp.conv = e.kcp.conv := congrArg IkcpSettings.conv hset
  have hmtu : kcp.mtu = e.kcp.mtu := congrArg IkcpSettings.mtu hset
  have hmss : kcp.mss = e.kcp.mss := congrArg IkcpSettings.mss hset
  refine ⟨?_, ?_, ?_, fun s hs => ?_, ?_⟩
  · show kcp.mtu.toNat = kcp.mss.toNat + _
    rw [hmtu, hmss]
    exact h.mtu
  · show kcp.mtu.toNat < _
    rw [hmtu]
    exact h.bound
  · show ∀ s ∈ kcp.sndQueue, s.data.length ≤ kcp.mss.toNat
    rw [hq, hmss]
    exact h.queue
  · have hm : s.bare ∈ e.kcp.sndBuf.map IkcpSeg.bare := by
      refine hl.subset ?_
      rw [← hb]
      exact List.mem_map_of_mem hs
    obtain ⟨s', hs', hbare⟩ := List.mem_map.mp hm
    obtain ⟨h1, h2, -, -, h5⟩ := IkcpSeg.bare_eq_iff.mp hbare
    show s.conv = kcp.conv ∧ s.cmd = ikcpCmdPush ∧ s.data.length ≤ kcp.mss.toNat
    rw [hconv, hmss, ← h1, ← h2, ← h5]
    exact h.buf s' hs'
  · show ∀ d ∈ e.put, d ≠ [] ∧ Spoken (IkcpSeg.Sendable kcp.conv) d ∧ d.length ≤ kcp.mtu.toNat
    rw [hconv, hmtu]
    exact h.put

/-- **Every step keeps form and size.** -/
lemma IkcpTrans.formed (h : IkcpTrans H e e') (hf : e.Formed) : e'.Formed := by
  have hset := h.settings
  cases h with
  | tune hc =>
      exact hf.of_sublist hset (congrArg IkcpCore.sndQueue hc) (List.Sublist.refl _)
        (congrArg IkcpCore.sndBuf hc)
  | send buf =>
      refine ⟨hf.mtu, hf.bound, fun s hs => ?_, hf.buf, hf.put⟩
      rcases List.mem_append.mp hs with hs | hs
      · exact hf.queue s hs
      · obtain ⟨f, hfm, rfl⟩ := List.mem_map.mp hs
        exact length_ikcpFragments hfm
  | @number seg rest cwnd new hq hnew hcwnd hwnd =>
      have hqueue := hf.queue
      rw [hq] at hqueue
      refine ⟨hf.mtu, hf.bound, fun s hs => hqueue s (List.mem_cons_of_mem _ hs), fun s hs => ?_,
        hf.put⟩
      rcases List.mem_append.mp hs with hs | hs
      · exact hf.buf s hs
      · rw [List.mem_singleton.mp hs]
        have hdata : new.data = seg.data := congrArg Prod.snd hnew.2.2.2
        exact ⟨hnew.1, hnew.2.1,
          (congrArg List.length hdata).trans_le (hqueue seg List.mem_cons_self)⟩
  | @una h data hh =>
      obtain ⟨l, u, hl, heq⟩ := ikcpParseUna_shrink e.kcp h.una
      rw [heq]
      exact hf.of_sublist rfl rfl (hl.map _) rfl
  | @ack h data hh hcmd =>
      obtain ⟨l, u, hl, heq⟩ := ikcpParseAck_shrink e.kcp h.sn
      rw [heq]
      exact hf.of_sublist rfl rfl (hl.map _) rfl
  | stale => exact ⟨hf.mtu, hf.bound, hf.queue, hf.buf, hf.put⟩
  | keep => exact ⟨hf.mtu, hf.bound, hf.queue, hf.buf, hf.put⟩
  | take => exact ⟨hf.mtu, hf.bound, hf.queue, hf.buf, hf.put⟩
  | pop => exact ⟨hf.mtu, hf.bound, hf.queue, hf.buf, hf.put⟩
  | flush hds hlen =>
      refine ⟨hf.mtu, hf.bound, hf.queue, hf.buf, fun d hd => ?_⟩
      rcases List.mem_append.mp hd with hd | hd
      · exact hf.put d hd
      · exact ⟨(hds d hd).1, (hds d hd).2.mono fun seg hs => hf.sendable hs,
          (hlen d hd).trans hf.longest_le⟩

/-- What has been put out fits, and is taken in at the other end. -/
lemma IkcpEnd.Formed.put_fits (h : e.Formed) {d : Bytes} (hd : d ∈ e.put) :
    ikcpOverhead ≤ d.length ∧ d.length ≤ e.kcp.mtu.toNat ∧
      ∀ kcp : Ikcpcb, kcp.conv = e.kcp.conv → (ikcpInput kcp d).1 = 0 := by
  obtain ⟨hne, hspoken, hlen⟩ := h.put d hd
  refine ⟨?_, hlen, fun kcp hconv => ikcpInput_spoken hne (hconv ▸ hspoken)⟩
  obtain ⟨segs, rfl, hP⟩ := hspoken
  cases segs with
  | nil => exact absurd rfl hne
  | cons seg segs => exact not_lt.mp (ikcpDecodeSeg_wire (hP seg List.mem_cons_self) segs).1

lemma IkcpMoves.formed (h : IkcpMoves H e e') (hf : e.Formed) : e'.Formed := by
  induction h with
  | refl => exact hf
  | tail _ ht ih => exact ht.formed ih

/-! ### Every run -/

/-- What holds in every run. -/
structure IkcpEnd.Steady (e : IkcpEnd) : Prop where
  stream : e.kcp.stream = false
  mss : 0 < e.kcp.mss.toNat
  sndWnd : e.kcp.sndWnd = ikcpWndSnd
  rcvWnd : e.kcp.rcvWnd = ikcpWndRcv
  windowed : e.kcp.Windowed
  formed : e.Formed

lemma Ikcpcb.Fresh.steady (h : kcp.Fresh) : IkcpEnd.Steady { kcp := kcp } := by
  refine ⟨h.stream, h.mss, h.sndWnd, h.rcvWnd, ⟨?_, ?_, ?_, ?_, ?_, ?_, ?_⟩, ?_⟩
  · rw [h.sndWnd]; decide
  · rw [h.rcvWnd]; decide
  · rw [h.sndBuf, h.sndUna, h.sndNxt]; rfl
  · rw [h.sndUna, h.sndNxt, Cyclic.off_self]; exact Nat.zero_le _
  · rw [h.sndBuf]; exact Cyclic.Window.nil
  · rw [h.rcvBuf]; exact Cyclic.Window.nil
  · rw [h.rcvQueue]; exact Nat.zero_le _
  · refine ⟨h.mtu, h.bound, ?_, ?_, ?_⟩
    · show ∀ s ∈ kcp.sndQueue, _
      rw [h.sndQueue]
      simp
    · show ∀ s ∈ kcp.sndBuf, _
      rw [h.sndBuf]
      simp
    · exact fun d hd => absurd hd List.not_mem_nil

/-- The windows bound what is kept. -/
lemma IkcpEnd.Steady.bounded (h : e.Steady) :
    e.kcp.sndBuf.length ≤ ikcpWndSnd.toNat ∧ e.kcp.rcvBuf.length ≤ ikcpWndRcv.toNat ∧
      e.kcp.rcvQueue.length ≤ ikcpWndRcv.toNat := by
  have hsnd := h.windowed.sndBuf.length_le
  have hflight := h.windowed.flight
  have hrcv := h.windowed.rcvBuf.length_le
  have hq := h.windowed.rcvQueue
  rw [List.length_map] at hsnd hrcv
  rw [h.sndWnd] at hflight
  rw [h.rcvWnd] at hrcv hq
  exact ⟨hsnd.trans hflight, hrcv, hq⟩

lemma IkcpEnd.Steady.moves (h : e.Steady) (hm : IkcpMoves H e e') : e'.Steady := by
  have hset := hm.settings
  have hmss : e'.kcp.mss = e.kcp.mss := congrArg IkcpSettings.mss hset
  exact ⟨(congrArg IkcpSettings.stream hset).trans h.stream, by rw [hmss]; exact h.mss,
    (congrArg IkcpSettings.sndWnd hset).trans h.sndWnd,
    (congrArg IkcpSettings.rcvWnd hset).trans h.rcvWnd, hm.windowed h.windowed, hm.formed h.formed⟩

/-- A send, whatever memory there is. -/
lemma IkcpEnd.Steady.send (h : e.Steady) (alloc : ℕ → Bool) (buf : Bytes) :
    (e.send alloc buf).2.Steady := by
  obtain ⟨segs, sent, accepted, heq, hlen⟩ := IkcpEnd.send_queue h.stream alloc buf
  have hw := h.windowed
  rw [heq]
  refine ⟨h.stream, h.mss, h.sndWnd, h.rcvWnd,
    ⟨hw.sndWnd, hw.rcvWnd, hw.una, hw.flight, hw.sndBuf, hw.rcvBuf, hw.rcvQueue⟩,
    ⟨h.formed.mtu, h.formed.bound, fun s hs => ?_, h.formed.buf, h.formed.put⟩⟩
  rcases List.mem_append.mp hs with hs | hs
  · exact h.formed.queue s hs
  · exact hlen s hs

lemma IkcpEnd.Steady.call (h : e.Steady) (hc : IkcpCall (fun _ _ _ => True) e e') : e'.Steady := by
  cases hc with
  | @send alloc buf _ => exact h.send alloc buf
  | @sendv alloc iov firstOffset len _ =>
      rcases e.sendv_eq alloc iov firstOffset len with heq | heq
      · rw [heq]
        exact h
      · rw [heq]
        exact h.send alloc _
  | recv len => exact h.moves (IkcpEnd.recv_moves (H := fun _ _ => True) len)
  | update ok current => exact h.moves (IkcpEnd.update_moves (H := fun _ _ => True) ok current)
  | currentUpdate current =>
      exact h.moves (IkcpEnd.currentUpdate_moves (H := fun _ _ => True) current)

/-- Calls keep the settings. -/
lemma IkcpCall.settings (hc : IkcpCall (fun _ _ _ => True) e e') (hs : e.kcp.stream = false) :
    e'.kcp.settings = e.kcp.settings := by
  have hsend : ∀ alloc buf, (e.send alloc buf).2.kcp.settings = e.kcp.settings := by
    intro alloc buf
    obtain ⟨segs, sent, accepted, heq, -⟩ := IkcpEnd.send_queue hs alloc buf
    rw [heq]
    rfl
  cases hc with
  | send _ => exact hsend _ _
  | @sendv alloc iov firstOffset len _ =>
      rcases e.sendv_eq alloc iov firstOffset len with heq | heq
      · rw [heq]
      · rw [heq]
        exact hsend _ _
  | recv len => exact (IkcpEnd.recv_moves (H := fun _ _ => True) len).settings
  | update ok current => exact (IkcpEnd.update_moves (H := fun _ _ => True) ok current).settings
  | currentUpdate current =>
      exact (IkcpEnd.currentUpdate_moves (H := fun _ _ => True) current).settings

lemma IkcpReach.steady (h : IkcpReach e) : e.Steady := by
  induction h with
  | fresh h => exact h.steady
  | call _ hc ih => exact ih.call hc
  | input _ data ih =>
      exact ih.moves (IkcpEnd.input_moves (H := fun _ _ => True) fun _ _ => trivial)

/-- An instance that has sent a message of three bytes and put it out. -/
def helloSent : IkcpEnd :=
  ((({ kcp := ikcpBlank 7 } : IkcpEnd).send (fun _ => true) [1, 2, 3]).2).update (fun _ => true) 100

lemma helloSent_reach : IkcpReach helloSent :=
  (IkcpReach.call (.fresh (ikcpBlank_fresh 7)) (.send trivial)).call (.update _ _)

/-- **What an instance keeps is bounded by its windows**, whatever calls are made and whatever
datagrams it is fed: the send window bounds what is in flight, and the receive window what came
early and what has not been read.  The numbers in flight go up from `snd_una` and those that came
early from `rcv_nxt`, so none of them comes twice. -/
theorem ikcp_windows_bounded (h : IkcpReach e) :
    e.kcp.sndBuf.length ≤ ikcpWndSnd.toNat ∧ e.kcp.rcvBuf.length ≤ ikcpWndRcv.toNat ∧
      e.kcp.rcvQueue.length ≤ ikcpWndRcv.toNat ∧
      Cyclic.Window e.kcp.sndUna (Cyclic.off e.kcp.sndUna e.kcp.sndNxt) (e.kcp.sndBuf.map IkcpSeg.sn) ∧
      Cyclic.Window e.kcp.rcvNxt ikcpWndRcv.toNat (e.kcp.rcvBuf.map IkcpSeg.sn) := by
  have hs := h.steady
  have hrcv := hs.windowed.rcvBuf
  rw [hs.rcvWnd] at hrcv
  obtain ⟨hsnd, hbuf, hq⟩ := hs.bounded
  exact ⟨hsnd, hbuf, hq, hs.windowed.sndBuf, hrcv⟩

/-- One segment is in flight. -/
theorem ikcp_windows_bounded_hello : helloSent.kcp.sndBuf.length = 1 ∧
    helloSent.kcp.sndBuf.length ≤ ikcpWndSnd.toNat :=
  ⟨by decide +kernel, (ikcp_windows_bounded helloSent_reach).1⟩

/-- **The datagrams fit.**  Every datagram that an instance puts out has at least the bytes of a
header and at most `mtu` bytes, and an instance with the same `conv` takes it in without an error,
whatever state that one is in. -/
theorem ikcp_datagrams_fit (h : IkcpReach e) {d : Bytes} (hd : d ∈ e.put) :
    ikcpOverhead ≤ d.length ∧ d.length ≤ e.kcp.mtu.toNat ∧
      ∀ kcp : Ikcpcb, kcp.conv = e.kcp.conv → (ikcpInput kcp d).1 = 0 :=
  h.steady.formed.put_fits hd

/-- The datagram of `helloSent`. -/
def helloDatagram : Bytes := helloSent.put.headD []

lemma helloDatagram_mem : helloDatagram ∈ helloSent.put := by decide +kernel

/-- A new instance takes in the datagram, of a header and three bytes. -/
theorem ikcp_datagrams_fit_hello : helloDatagram.length = 27 ∧
    (ikcpInput (ikcpBlank 7) helloDatagram).1 = 0 :=
  ⟨by decide +kernel, (ikcp_datagrams_fit helloSent_reach helloDatagram_mem).2.2 _ (by decide +kernel)⟩

end KcpMux
