import KcpMux.Ikcp.Output
import KcpMux.Lib.Cyclic

/-!
The windows of the default KCP.

Whatever datagrams come in, the numbers in flight go up from `snd_una` and stay below `snd_nxt`, which
is never more than the send window ahead, and the numbers in `rcv_buf` go up from `rcv_nxt` within the
receive window (`Ikcpcb.Windowed`).  Nothing is assumed about the numbers themselves, so this holds
over the end of the 32-bit ring.  It bounds what an instance keeps, and with it what a peer can make
it keep.
-/

namespace KcpMux

variable {H : IkcpHeader → Bytes → Prop} {e e' : IkcpEnd} {kcp : Ikcpcb}

/-! ### Comparisons -/

lemma itimediff_off (a b : UInt32) : itimediff a b =
    if Cyclic.off b a < 2 ^ 31 then (Cyclic.off b a : ℤ) else (Cyclic.off b a : ℤ) - 2 ^ 32 :=
  itimediff_eq a b

/-- Two numbers of a window are compared by their distance from its base. -/
lemma itimediff_pos_iff {base x y : UInt32} (hx : Cyclic.off base x < 2 ^ 31)
    (hy : Cyclic.off base y < 2 ^ 31) : 0 < itimediff x y ↔ Cyclic.off base y < Cyclic.off base x := by
  rw [itimediff_off]
  simp only [Cyclic.off_eq] at hx hy ⊢
  have h1 := base.toNat_lt
  have h2 := x.toNat_lt
  have h3 := y.toNat_lt
  split_ifs <;> omega

/-- A number is before the end of a window. -/
lemma itimediff_add_neg_iff {base x c : UInt32} (hx : Cyclic.off base x < 2 ^ 31)
    (hc : c.toNat < 2 ^ 31) : itimediff x (base + c) < 0 ↔ Cyclic.off base x < c.toNat := by
  rw [itimediff_off]
  simp only [Cyclic.off_eq, UInt32.toNat_add] at hx ⊢
  have h1 := base.toNat_lt
  have h2 := x.toNat_lt
  split_ifs <;> omega

/-! ### The place of a new segment -/

/-- What the search from the end of `rcv_buf` finds. -/
lemma ikcpInsert_spec (new : IkcpSeg) (r : List IkcpSeg) :
    (ikcpInsert new r = none ∧ ∃ s ∈ r, s.sn = new.sn) ∨
      ∃ r1 r2, r = r1 ++ r2 ∧ ikcpInsert new r = some (r1 ++ new :: r2) ∧
        (∀ s ∈ r1, s.sn ≠ new.sn ∧ ¬ 0 < itimediff new.sn s.sn) ∧
        ∀ s, r2.head? = some s → 0 < itimediff new.sn s.sn := by
  induction r with
  | nil => exact Or.inr ⟨[], [], rfl, rfl, by simp, by simp⟩
  | cons s rest ih =>
      rw [ikcpInsert]
      by_cases heq : s.sn = new.sn
      · rw [if_pos heq]
        exact Or.inl ⟨rfl, s, List.mem_cons_self, heq⟩
      rw [if_neg heq]
      by_cases hgt : itimediff new.sn s.sn > 0
      · rw [if_pos hgt]
        refine Or.inr ⟨[], s :: rest, rfl, rfl, by simp, fun x hx => ?_⟩
        obtain rfl : s = x := by simpa using hx
        exact hgt
      rw [if_neg hgt]
      rcases ih with ⟨hn, x, hx, he⟩ | ⟨r1, r2, hr, hins, h1, h2⟩
      · rw [hn]
        exact Or.inl ⟨rfl, x, List.mem_cons_of_mem _ hx, he⟩
      · rw [hins]
        refine Or.inr ⟨s :: r1, r2, by rw [hr, List.cons_append], rfl, fun x hx => ?_, h2⟩
        rcases List.mem_cons.mp hx with rfl | hx
        · exact ⟨heq, hgt⟩
        · exact h1 x hx

/-- **The place of a new segment**: the buffer has its number already, or the segment goes between
those that are not before it and one that is. -/
lemma ikcpPlace_spec (new : IkcpSeg) (buf : List IkcpSeg) :
    (ikcpPlace new buf = buf ∧ ∃ s ∈ buf, s.sn = new.sn) ∨
      ∃ l1 l2, buf = l1 ++ l2 ∧ ikcpPlace new buf = l1 ++ new :: l2 ∧
        (∀ s ∈ l2, s.sn ≠ new.sn ∧ ¬ 0 < itimediff new.sn s.sn) ∧
        ∀ s, l1.getLast? = some s → 0 < itimediff new.sn s.sn := by
  rw [ikcpPlace]
  rcases ikcpInsert_spec new buf.reverse with ⟨hn, s, hs, he⟩ | ⟨r1, r2, hr, hins, h1, h2⟩
  · rw [hn]
    exact Or.inl ⟨rfl, s, List.mem_reverse.mp hs, he⟩
  · rw [hins]
    refine Or.inr ⟨r2.reverse, r1.reverse, ?_, ?_, fun s hs => h1 s (List.mem_reverse.mp hs), ?_⟩
    · rw [← List.reverse_append, ← hr, List.reverse_reverse]
    · simp
    · intro s hs
      rw [List.getLast?_reverse] at hs
      exact h2 s hs

lemma mem_ikcpPlace {new s : IkcpSeg} {buf : List IkcpSeg} (h : s ∈ ikcpPlace new buf) :
    s = new ∨ s ∈ buf := by
  rcases ikcpPlace_spec new buf with ⟨hp, -⟩ | ⟨l1, l2, hb, hp, -⟩
  · rw [hp] at h
    exact Or.inr h
  · rw [hp] at h
    rw [hb]
    simpa [or_left_comm] using h

lemma mem_ikcpPlace_of_mem (new : IkcpSeg) {s : IkcpSeg} {buf : List IkcpSeg} (h : s ∈ buf) :
    s ∈ ikcpPlace new buf := by
  rcases ikcpPlace_spec new buf with ⟨hp, -⟩ | ⟨l1, l2, hb, hp, -⟩
  · rw [hp]
    exact h
  · rw [hp]
    rw [hb] at h
    simp only [List.mem_append, List.mem_cons] at h ⊢
    exact h.imp_right Or.inr

/-- The number is in the buffer then. -/
lemma exists_mem_ikcpPlace (new : IkcpSeg) (buf : List IkcpSeg) :
    ∃ s ∈ ikcpPlace new buf, s.sn = new.sn := by
  rcases ikcpPlace_spec new buf with ⟨hp, h⟩ | ⟨l1, l2, -, hp, -⟩
  · rw [hp]
    exact h
  · rw [hp]
    exact ⟨new, by simp, rfl⟩

/-- In a window the buffer stays sorted. -/
lemma window_ikcpPlace {base : UInt32} {n : ℕ} (hn : n < 2 ^ 31) {new : IkcpSeg}
    {buf : List IkcpSeg} (h : Cyclic.Window base n (buf.map IkcpSeg.sn))
    (hnew : Cyclic.off base new.sn < n) : Cyclic.Window base n ((ikcpPlace new buf).map IkcpSeg.sn) := by
  have hlt : ∀ s ∈ buf, Cyclic.off base s.sn < 2 ^ 31 := fun s hs =>
    (h.bound _ (List.mem_map_of_mem hs)).trans hn
  rcases ikcpPlace_spec new buf with ⟨hp, -⟩ | ⟨l1, l2, hb, hp, h2, h1⟩
  · rw [hp]
    exact h
  rw [hp, List.map_append, List.map_cons]
  rw [hb] at h hlt
  rw [List.map_append] at h
  refine h.insert hnew (fun y hy => ?_) fun y hy => ?_
  · -- the last of those before is the nearest
    obtain ⟨s, hs, rfl⟩ := List.mem_map.mp hy
    have hne : l1 ≠ [] := List.ne_nil_of_mem hs
    have hlast := (itimediff_pos_iff (hnew.trans hn) (hlt _ (List.mem_append_left _
      (List.getLast_mem hne)))).mp (h1 _ (List.getLast?_eq_getLast_of_ne_nil hne))
    rw [← List.dropLast_append_getLast hne] at hs
    rcases List.mem_append.mp hs with hs | hs
    · refine lt_trans ?_ hlast
      have hsort := (List.pairwise_append.mp h.sorted).1
      rw [← List.dropLast_append_getLast hne, List.map_append] at hsort
      exact (List.pairwise_append.mp hsort).2.2 _ (List.mem_map_of_mem hs) _ (by simp)
    · rw [List.mem_singleton.mp hs]
      exact hlast
  · obtain ⟨s, hs, rfl⟩ := List.mem_map.mp hy
    have hle := mt (itimediff_pos_iff (hnew.trans hn) (hlt s (List.mem_append_right _ hs))).mpr
      (h2 s hs).2
    refine lt_of_le_of_ne (not_lt.mp hle) fun he => (h2 s hs).1 (Cyclic.off_inj.mp he).symm

/-! ### The windows -/

/-- The numbers in flight and the numbers that came early are in their windows. -/
structure Ikcpcb.Windowed (kcp : Ikcpcb) : Prop where
  sndWnd : kcp.sndWnd.toNat < 2 ^ 31
  rcvWnd : kcp.rcvWnd.toNat < 2 ^ 31
  una : kcp.sndUna = (kcp.sndBuf.map IkcpSeg.sn).head?.getD kcp.sndNxt
  flight : Cyclic.off kcp.sndUna kcp.sndNxt ≤ kcp.sndWnd.toNat
  sndBuf : Cyclic.Window kcp.sndUna (Cyclic.off kcp.sndUna kcp.sndNxt) (kcp.sndBuf.map IkcpSeg.sn)
  rcvBuf : Cyclic.Window kcp.rcvNxt kcp.rcvWnd.toNat (kcp.rcvBuf.map IkcpSeg.sn)
  rcvQueue : kcp.rcvQueue.length ≤ kcp.rcvWnd.toNat

namespace Ikcpcb.Windowed

/-- The windows are part of the core. -/
lemma of_core {kcp' : Ikcpcb} (h : kcp.Windowed) (hc : kcp'.core = kcp.core) : kcp'.Windowed := by
  have hbuf := Ikcpcb.sn_of_core hc
  have hsw : kcp'.sndWnd = kcp.sndWnd := congrArg IkcpCore.sndWnd hc
  have hrw : kcp'.rcvWnd = kcp.rcvWnd := congrArg IkcpCore.rcvWnd hc
  have hu : kcp'.sndUna = kcp.sndUna := congrArg IkcpCore.sndUna hc
  have hn : kcp'.sndNxt = kcp.sndNxt := congrArg IkcpCore.sndNxt hc
  have hr : kcp'.rcvNxt = kcp.rcvNxt := congrArg IkcpCore.rcvNxt hc
  have hrb : kcp'.rcvBuf = kcp.rcvBuf := congrArg IkcpCore.rcvBuf hc
  have hrq : kcp'.rcvQueue = kcp.rcvQueue := congrArg IkcpCore.rcvQueue hc
  constructor
  · rw [hsw]; exact h.sndWnd
  · rw [hrw]; exact h.rcvWnd
  · rw [hbuf, hu, hn]; exact h.una
  · rw [hsw, hu, hn]; exact h.flight
  · rw [hbuf, hu, hn]; exact h.sndBuf
  · rw [hr, hrw, hrb]; exact h.rcvBuf
  · rw [hrq, hrw]; exact h.rcvQueue

/-- Acknowledged segments go, and `snd_una` moves to the first one that is left. -/
lemma shrink (h : kcp.Windowed) {l : List IkcpSeg} (hl : l.Sublist kcp.sndBuf) :
    (ikcpShrinkBuf { kcp with sndBuf := l }).Windowed := by
  have hw : Cyclic.Window kcp.sndUna _ (l.map IkcpSeg.sn) := h.sndBuf.sublist (hl.map _)
  cases l with
  | nil =>
      refine ⟨h.sndWnd, h.rcvWnd, rfl, ?_, Cyclic.Window.nil, h.rcvBuf, h.rcvQueue⟩
      show Cyclic.off kcp.sndNxt kcp.sndNxt ≤ _
      rw [Cyclic.off_self]
      exact Nat.zero_le _
  | cons s rest =>
      have hs : Cyclic.off kcp.sndUna s.sn < Cyclic.off kcp.sndUna kcp.sndNxt :=
        hw.bound _ List.mem_cons_self
      have hoff : Cyclic.off s.sn kcp.sndNxt = _ := Cyclic.off_rebase hs.le
      refine ⟨h.sndWnd, h.rcvWnd, rfl, ?_, ?_, h.rcvBuf, h.rcvQueue⟩
      · show Cyclic.off s.sn kcp.sndNxt ≤ kcp.sndWnd.toNat
        have := h.flight
        omega
      · show Cyclic.Window s.sn (Cyclic.off s.sn kcp.sndNxt) _
        rw [hoff]
        exact hw.rebase fun x hx => hw.head_le hx

/-- A segment gets the next number. -/
lemma number (h : kcp.Windowed) {rest : List IkcpSeg} {new : IkcpSeg} {cwnd : UInt32}
    (hsn : new.sn = kcp.sndNxt) (hc : cwnd ≤ kcp.sndWnd)
    (hwnd : itimediff kcp.sndNxt (kcp.sndUna + cwnd) < 0) :
    Ikcpcb.Windowed { kcp with
      sndQueue := rest, sndBuf := kcp.sndBuf ++ [new], sndNxt := kcp.sndNxt + 1 } := by
  have hc' : cwnd.toNat ≤ kcp.sndWnd.toNat := UInt32.le_iff_toNat_le.mp hc
  have hflight : Cyclic.off kcp.sndUna kcp.sndNxt < cwnd.toNat :=
    (itimediff_add_neg_iff (h.flight.trans_lt h.sndWnd) (hc'.trans_lt h.sndWnd)).mp hwnd
  have hoff : Cyclic.off kcp.sndUna (kcp.sndNxt + 1) = Cyclic.off kcp.sndUna kcp.sndNxt + 1 :=
    Cyclic.off_add_one (by have := h.sndWnd; omega)
  refine ⟨h.sndWnd, h.rcvWnd, ?_, ?_, ?_, h.rcvBuf, h.rcvQueue⟩
  · have hu := h.una
    show kcp.sndUna = ((kcp.sndBuf ++ [new]).map IkcpSeg.sn).head?.getD (kcp.sndNxt + 1)
    cases hb : kcp.sndBuf with
    | nil =>
        rw [hb] at hu
        exact hu.trans hsn.symm
    | cons s l =>
        rw [hb] at hu
        exact hu
  · show Cyclic.off kcp.sndUna (kcp.sndNxt + 1) ≤ kcp.sndWnd.toNat
    omega
  · show Cyclic.Window kcp.sndUna (Cyclic.off kcp.sndUna (kcp.sndNxt + 1)) _
    rw [hoff, List.map_append, List.map_singleton, hsn]
    exact h.sndBuf.snoc

/-- The next segment moves to the queue. -/
lemma take (h : kcp.Windowed) {seg : IkcpSeg} {rest : List IkcpSeg} (hb : kcp.rcvBuf = seg :: rest)
    (hsn : seg.sn = kcp.rcvNxt) (hroom : kcp.rcvQueue.length < kcp.rcvWnd.toNat) :
    Ikcpcb.Windowed { kcp with
      rcvBuf := rest, rcvQueue := kcp.rcvQueue ++ [seg], rcvNxt := kcp.rcvNxt + 1 } := by
  refine ⟨h.sndWnd, h.rcvWnd, h.una, h.flight, h.sndBuf, ?_, ?_⟩
  · have hw := h.rcvBuf
    rw [hb, List.map_cons, hsn] at hw
    have hone : Cyclic.off kcp.rcvNxt (kcp.rcvNxt + 1) = 1 := by
      rw [Cyclic.off_add_one (by rw [Cyclic.off_self]; omega), Cyclic.off_self]
    have hrest : Cyclic.Window kcp.rcvNxt kcp.rcvWnd.toNat (rest.map IkcpSeg.sn) :=
      hw.sublist (List.sublist_cons_self _ _)
    refine (hrest.rebase fun x hx => ?_).mono (Nat.sub_le _ _)
    have hlt := List.rel_of_pairwise_cons hw.sorted hx
    rw [Cyclic.off_self] at hlt
    rw [hone]
    exact hlt
  · show (kcp.rcvQueue ++ [seg]).length ≤ _
    rw [List.length_append, List.length_singleton]
    exact hroom

/-- A segment of the window is put in its place. -/
lemma keep (h : kcp.Windowed) {new : IkcpSeg} {acks : List (UInt32 × UInt32)}
    (hlo : 0 ≤ itimediff new.sn kcp.rcvNxt)
    (hhi : itimediff new.sn (kcp.rcvNxt + kcp.rcvWnd) < 0) :
    Ikcpcb.Windowed { kcp with acklist := acks, rcvBuf := ikcpPlace new kcp.rcvBuf } := by
  have hlt : Cyclic.off kcp.rcvNxt new.sn < 2 ^ 31 := by
    rw [itimediff_off] at hlo
    have := Cyclic.off_lt kcp.rcvNxt new.sn
    split_ifs at hlo
    · assumption
    · omega
  exact ⟨h.sndWnd, h.rcvWnd, h.una, h.flight, h.sndBuf,
    window_ikcpPlace h.rcvWnd h.rcvBuf ((itimediff_add_neg_iff hlt h.rcvWnd).mp hhi), h.rcvQueue⟩

end Ikcpcb.Windowed

/-- **Every step keeps the windows.** -/
lemma IkcpTrans.windowed (h : IkcpTrans H e e') (hw : e.kcp.Windowed) : e'.kcp.Windowed := by
  cases h with
  | tune hc => exact hw.of_core hc
  | send buf => exact ⟨hw.sndWnd, hw.rcvWnd, hw.una, hw.flight, hw.sndBuf, hw.rcvBuf, hw.rcvQueue⟩
  | number _ _ hnew hc hwnd => exact hw.number hnew.2.2.1 hc hwnd
  | una _ => exact hw.shrink (List.dropWhile_sublist _)
  | @ack h _ _ _ =>
      obtain ⟨l, hl, heq⟩ := ikcpParseAck_eq e.kcp h.sn
      rw [heq]
      exact hw.shrink hl
  | stale => exact ⟨hw.sndWnd, hw.rcvWnd, hw.una, hw.flight, hw.sndBuf, hw.rcvBuf, hw.rcvQueue⟩
  | keep _ _ hlo hhi => exact hw.keep hlo hhi
  | take hb hsn hroom => exact hw.take hb hsn hroom
  | pop =>
      refine ⟨hw.sndWnd, hw.rcvWnd, hw.una, hw.flight, hw.sndBuf, hw.rcvBuf, ?_⟩
      have hlen := congrArg List.length (ikcpMessage_append e.kcp.rcvQueue)
      rw [List.length_append] at hlen
      have := hw.rcvQueue
      show (ikcpMessage e.kcp.rcvQueue).2.length ≤ e.kcp.rcvWnd.toNat
      omega
  | flush => exact ⟨hw.sndWnd, hw.rcvWnd, hw.una, hw.flight, hw.sndBuf, hw.rcvBuf, hw.rcvQueue⟩

lemma IkcpMoves.windowed (h : IkcpMoves H e e') (hw : e.kcp.Windowed) : e'.kcp.Windowed := by
  induction h with
  | refl => exact hw
  | tail _ ht ih => exact ht.windowed ih

end KcpMux
