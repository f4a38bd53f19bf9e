import KcpMux.Ikcp.Core
import Mathlib.Data.List.Chain

/-!
Messages and fragments of the default KCP.

A message is cut into fragments (`ikcpFragments`), which count down to zero, so that a sequence of
fragments has one reading as messages (`ikcpMessages`).  `ikcpSend_eq`: a send leaves the fragments of
its message in the queue, or nothing.  `ikcpSendv_eq`: a vectored send is the send of the bytes it
is pointed at.  `ikcpMessage_countsDown`: in a queue that counts down, the message that `ikcp_peeksize`
finds complete is the next one.
-/

namespace KcpMux

/-! ### Fragments -/

/-- What the peer gets to see of a segment: how many fragments follow it, and its bytes. -/
abbrev IkcpFrag := UInt32 × Bytes

def IkcpSeg.frag (seg : IkcpSeg) : IkcpFrag := (seg.frg, seg.data)

/-- The segment that a fragment is queued as. -/
def IkcpFrag.queued (f : IkcpFrag) : IkcpSeg := { frg := f.1, data := f.2 }

/-- The `n` fragments of a message. -/
def ikcpFragments (mss : ℕ) : ℕ → Bytes → List IkcpFrag
  | 0, _ => []
  | n + 1, buf => (UInt32.ofNat n, buf.take mss) :: ikcpFragments mss n (buf.drop mss)

/-- The complete messages of a sequence of fragments; `part` are the bytes of the one it begins
in. -/
def ikcpMessagesFrom (part : Bytes) : List IkcpFrag → List Bytes
  | [] => []
  | f :: rest =>
      if f.1 = 0 then (part ++ f.2) :: ikcpMessagesFrom [] rest
      else ikcpMessagesFrom (part ++ f.2) rest

/-- The complete messages of a sequence of fragments. -/
def ikcpMessages (l : List IkcpFrag) : List Bytes := ikcpMessagesFrom [] l

/-- The sequence ends where a message ends. -/
def Whole (l : List IkcpFrag) : Prop := ∀ f, l.getLast? = some f → f.1 = 0

lemma whole_nil : Whole [] := by simp [Whole]

lemma ikcpMessagesFrom_append {part : Bytes} {l : List IkcpFrag} (hw : Whole l) (hne : l ≠ [])
    (l' : List IkcpFrag) :
    ikcpMessagesFrom part (l ++ l') = ikcpMessagesFrom part l ++ ikcpMessages l' := by
  induction l generalizing part with
  | nil => exact absurd rfl hne
  | cons f l ih =>
      rw [List.cons_append, ikcpMessagesFrom, ikcpMessagesFrom]
      by_cases hl : l = []
      · subst hl
        have hf : f.1 = 0 := hw f rfl
        rw [if_pos hf, if_pos hf]
        rfl
      · have hw' : Whole l := fun g hg => hw g (by rw [List.getLast?_cons_of_ne_nil hl]; exact hg)
        split_ifs
        · rw [ih hw' hl, List.cons_append]
        · exact ih hw' hl

/-- Messages are read one after the other. -/
lemma ikcpMessages_append {l : List IkcpFrag} (hw : Whole l) (l' : List IkcpFrag) :
    ikcpMessages (l ++ l') = ikcpMessages l ++ ikcpMessages l' := by
  by_cases hl : l = []
  · subst hl
    rfl
  · exact ikcpMessagesFrom_append hw hl l'

lemma whole_append {l l' : List IkcpFrag} (h : Whole l) (h' : Whole l') : Whole (l ++ l') := by
  intro f hf
  by_cases hl : l' = []
  · subst hl
    rw [List.append_nil] at hf
    exact h f hf
  · rw [List.getLast?_append_of_ne_nil _ hl] at hf
    exact h' f hf

/-- The fragments of a message are whole. -/
lemma whole_fragments (mss n : ℕ) (buf : Bytes) : Whole (ikcpFragments mss n buf) := by
  induction n generalizing buf with
  | zero => exact whole_nil
  | succ n ih =>
      intro f hf
      rw [ikcpFragments] at hf
      cases n with
      | zero =>
          obtain rfl : (UInt32.ofNat 0, buf.take mss) = f := by simpa [ikcpFragments] using hf
          rfl
      | succ n =>
          rw [List.getLast?_cons_of_ne_nil (by simp [ikcpFragments])] at hf
          exact ih _ f hf

lemma ofNat_ne_zero {n : ℕ} (h0 : 0 < n) (hn : n < 2 ^ 32) : UInt32.ofNat n ≠ 0 := by
  intro h
  have := congrArg UInt32.toNat h
  rw [UInt32.toNat_ofNat', Nat.mod_eq_of_lt hn] at this
  exact absurd this (by simpa using h0.ne')

/-- **The fragments of a message are read as the message.** -/
lemma ikcpMessagesFrom_fragments {mss n : ℕ} (hn : 0 < n) (hlt : n < 2 ^ 32) {buf : Bytes}
    (hlen : buf.length ≤ n * mss) (part : Bytes) :
    ikcpMessagesFrom part (ikcpFragments mss n buf) = [part ++ buf] := by
  induction n generalizing buf part with
  | zero => exact absurd hn (lt_irrefl 0)
  | succ n ih =>
      rw [ikcpFragments, ikcpMessagesFrom]
      by_cases h0 : n = 0
      · subst h0
        have hz : (UInt32.ofNat 0, buf.take mss).1 = 0 := rfl
        rw [if_pos hz, List.take_of_length_le (by simpa using hlen)]
        rfl
      · have hpos : 0 < n := Nat.pos_of_ne_zero h0
        rw [if_neg (ofNat_ne_zero hpos (Nat.lt_of_succ_lt hlt)), ih hpos (Nat.lt_of_succ_lt hlt)]
        · rw [List.append_assoc, List.take_append_drop]
        · rw [List.length_drop]
          rw [Nat.succ_mul] at hlen
          omega

/-! ### Counting down -/

/-- Each fragment but the last one of a message is followed by the one that its number says. -/
def CountsDown (l : List IkcpFrag) : Prop :=
  l.IsChain fun f g => f.1 ≠ 0 → g.1.toNat + 1 = f.1.toNat

lemma countsDown_fragments (mss : ℕ) {n : ℕ} (hn : n < 2 ^ 32) (buf : Bytes) :
    CountsDown (ikcpFragments mss n buf) := by
  induction n generalizing buf with
  | zero => exact List.isChain_nil
  | succ n ih =>
      rw [ikcpFragments]
      refine List.IsChain.cons (ih (Nat.lt_of_succ_lt hn) _) fun g hg _ => ?_
      cases n with
      | zero => simp [ikcpFragments] at hg
      | succ n =>
          obtain rfl : (UInt32.ofNat n, (buf.drop mss).take mss) = g := by
            simpa [ikcpFragments] using hg
          rw [UInt32.toNat_ofNat', UInt32.toNat_ofNat', Nat.mod_eq_of_lt (by omega),
            Nat.mod_eq_of_lt (by omega)]

lemma countsDown_append {l l' : List IkcpFrag} (hw : Whole l) (h : CountsDown l) (h' : CountsDown l') :
    CountsDown (l ++ l') :=
  List.IsChain.append h h' fun f hf _ _ hne => absurd (hw f hf) hne

lemma ikcpMessage_append (q : List IkcpSeg) : (ikcpMessage q).1 ++ (ikcpMessage q).2 = q := by
  induction q with
  | nil => rfl
  | cons seg rest ih =>
      rw [ikcpMessage]
      split_ifs
      · rfl
      · exact congrArg (seg :: ·) ih

/-- In a queue that counts down and is long enough, the first message is complete. -/
lemma ikcpMessage_whole {q : List IkcpSeg} (hc : CountsDown (q.map IkcpSeg.frag)) {seg : IkcpSeg}
    (hseg : q.head? = some seg) (hlen : seg.frg.toNat < q.length) :
    (ikcpMessage q).1 ≠ [] ∧ Whole ((ikcpMessage q).1.map IkcpSeg.frag) := by
  induction q generalizing seg with
  | nil => cases hseg
  | cons s rest ih =>
      obtain rfl : s = seg := by simpa using hseg
      rw [ikcpMessage]
      by_cases h0 : s.frg = 0
      · rw [if_pos h0]
        refine ⟨by simp, fun f hf => ?_⟩
        obtain rfl : s.frag = f := by simpa using hf
        exact h0
      rw [if_neg h0]
      refine ⟨by simp, ?_⟩
      cases rest with
      | nil =>
          have : s.frg.toNat ≠ 0 := fun h => h0 (UInt32.toNat_inj.mp h)
          simp at hlen
          omega
      | cons s' rest =>
          have hnext : s'.frg.toNat + 1 = s.frg.toNat :=
            List.IsChain.rel_head? hc (y := s'.frag) rfl h0
          obtain ⟨hne, hw⟩ := ih (List.IsChain.tail hc) rfl (by
            rw [List.length_cons] at hlen
            omega)
          intro f hf
          rw [List.map_cons, List.getLast?_cons_of_ne_nil (by simpa using hne)] at hf
          exact hw f hf

/-- The bytes of a complete message are read as the message. -/
lemma ikcpMessagesFrom_message (q : List IkcpSeg) (part : Bytes)
    (hne : (ikcpMessage q).1 ≠ []) (hw : Whole ((ikcpMessage q).1.map IkcpSeg.frag)) :
    ikcpMessagesFrom part ((ikcpMessage q).1.map IkcpSeg.frag) =
      [part ++ ikcpBytes (ikcpMessage q).1] := by
  induction q generalizing part with
  | nil => exact absurd rfl hne
  | cons s rest ih =>
      rw [ikcpMessage] at hne hw ⊢
      by_cases h0 : s.frg = 0
      · rw [if_pos h0, List.map_singleton, ikcpMessagesFrom]
        rw [if_pos (show s.frag.1 = 0 from h0)]
        simp [ikcpMessagesFrom, ikcpBytes, IkcpSeg.frag]
      rw [if_neg h0] at hw ⊢
      dsimp only at hw ⊢
      have hrest : (ikcpMessage rest).1 ≠ [] := by
        intro hnil
        rw [hnil] at hw
        exact h0 (hw s.frag rfl)
      rw [List.map_cons, ikcpMessagesFrom, if_neg (show ¬ s.frag.1 = 0 from h0), ih _ hrest]
      · simp [ikcpBytes, IkcpSeg.frag]
      · intro f hf
        refine hw f ?_
        rw [List.map_cons, List.getLast?_cons_of_ne_nil (by simpa using hrest)]
        exact hf

/-- **The message that `ikcp_peeksize` finds complete**, in a queue that counts down. -/
lemma ikcpMessage_countsDown {kcp : Ikcpcb} (hc : CountsDown (kcp.rcvQueue.map IkcpSeg.frag))
    (hpeek : 0 ≤ ikcpPeeksize kcp) :
    Whole ((ikcpMessage kcp.rcvQueue).1.map IkcpSeg.frag) ∧
      ikcpMessages ((ikcpMessage kcp.rcvQueue).1.map IkcpSeg.frag) =
        [ikcpBytes (ikcpMessage kcp.rcvQueue).1] := by
  obtain ⟨hne, hw⟩ : (ikcpMessage kcp.rcvQueue).1 ≠ [] ∧
      Whole ((ikcpMessage kcp.rcvQueue).1.map IkcpSeg.frag) := by
    rw [ikcpPeeksize.eq_def] at hpeek
    cases hq : kcp.rcvQueue with
    | nil => rw [hq] at hpeek; simp at hpeek
    | cons seg rest =>
        rw [hq] at hc hpeek
        refine ikcpMessage_whole hc rfl ?_
        dsimp only at hpeek
        by_cases h0 : seg.frg = 0
        · rw [h0]
          simp
        · rw [if_neg h0] at hpeek
          by_contra hlt
          rw [if_pos (by omega)] at hpeek
          omega
  exact ⟨hw, ikcpMessagesFrom_message _ [] hne hw⟩

/-! ### Sends -/

section Send

variable {alloc : ℕ → Bool} {kcp : Ikcpcb} {C : Type} {copy : C → ℕ → Bytes × C}

/-- A cursor that reads a byte string. -/
structure CursorReads (copy : C → ℕ → Bytes × C) (P : C → Bytes → Prop) : Prop where
  bytes : ∀ c buf n, P c buf → n ≤ buf.length → (copy c n).1 = buf.take n
  rest : ∀ c buf n, P c buf → n ≤ buf.length → P (copy c n).2 (buf.drop n)

lemma bufferCopy_cursorReads : CursorReads bufferCopy Eq where
  bytes := by
    rintro c _ n rfl -
    rfl
  rest := by
    rintro c _ n rfl -
    rfl

/-- The loop over the fragments, when every allocation succeeds. -/
lemma ikcpSendLoop_eq {P : C → Bytes → Prop} (hc : CursorReads copy P) (halloc : ∀ i, alloc i = true)
    (n : ℕ) : ∀ (kcp : Ikcpcb) (i : ℕ) (cursor : C) (buf : Bytes) (sent : ℤ),
    kcp.stream = false → P cursor buf → buf.length ≤ n * kcp.mss.toNat →
    ikcpSendLoop alloc copy kcp i n cursor buf.length sent =
      (sent + buf.length,
        kcp.enqueue ((ikcpFragments kcp.mss.toNat n buf).map IkcpFrag.queued)) := by
  induction n with
  | zero =>
      intro kcp i cursor buf sent _ _ hlen
      obtain rfl : buf = [] := List.length_eq_zero_iff.mp (by omega)
      simp [ikcpSendLoop, ikcpFragments, Ikcpcb.enqueue]
  | succ n ih =>
      intro kcp i cursor buf sent hs hP hlen
      obtain ⟨size, hsize⟩ : ∃ size,
          size = if buf.length > kcp.mss.toNat then kcp.mss.toNat else buf.length := ⟨_, rfl⟩
      have hcase : size = kcp.mss.toNat ∧ kcp.mss.toNat ≤ buf.length ∨
          size = buf.length ∧ buf.length ≤ kcp.mss.toNat := by
        split_ifs at hsize <;> omega
      have hle : size ≤ buf.length := by omega
      have htake : buf.take size = buf.take kcp.mss.toNat := by
        rcases hcase with ⟨h, -⟩ | ⟨h, hm⟩
        · rw [h]
        · rw [h, List.take_of_length_le le_rfl, List.take_of_length_le hm]
      have hdrop : buf.drop size = buf.drop kcp.mss.toNat := by
        rcases hcase with ⟨h, -⟩ | ⟨h, hm⟩
        · rw [h]
        · rw [h, List.drop_of_length_le le_rfl, List.drop_of_length_le hm]
      have hrest : (buf.drop kcp.mss.toNat).length = buf.length - size := by
        rw [← hdrop, List.length_drop]
      have hb := hc.bytes cursor buf size hP hle
      have hp := hc.rest cursor buf size hP hle
      rw [ikcpSendLoop]
      dsimp only
      rw [← hsize, if_neg (by simp [halloc])]
      generalize copy cursor size = r at hb hp ⊢
      rw [hdrop] at hp
      have hfit : (buf.drop kcp.mss.toNat).length ≤ n * kcp.mss.toNat := by
        rw [Nat.succ_mul] at hlen
        omega
      rw [hb, htake, ← hrest, ih _ (i + 1) r.2 _ (sent + size) (by simpa using hs) hp
        (by simpa using hfit), Ikcpcb.enqueue_enqueue, hs]
      refine Prod.ext ?_ rfl
      show sent + (size : ℤ) + ((buf.drop kcp.mss.toNat).length : ℤ) = sent + buf.length
      omega

/-- The number of fragments is enough for the bytes. -/
lemma ikcpCount_spec (kcp : Ikcpcb) (hm : 0 < kcp.mss.toNat) (len : ℕ) :
    0 < ikcpCount kcp len ∧ len ≤ ikcpCount kcp len * kcp.mss.toNat := by
  rw [ikcpCount]
  split_ifs with h
  · exact ⟨Nat.one_pos, by omega⟩
  · have hdiv := Nat.lt_div_mul_add (a := len + kcp.mss.toNat - 1) hm
    refine ⟨Nat.div_pos (by omega) hm, by omega⟩

/-- The fragments of a message, as this instance cuts it. -/
def Ikcpcb.fragments (kcp : Ikcpcb) (buf : Bytes) : List IkcpFrag :=
  ikcpFragments kcp.mss.toNat (ikcpCount kcp buf.length) buf

/-- A message of one segment, or one for which there is memory. -/
def Ikcpcb.Fits (kcp : Ikcpcb) (alloc : ℕ → Bool) (len : ℕ) : Prop :=
  (∀ i, alloc i = true) ∨ len ≤ kcp.mss.toNat

/-- The part that the two sends share: the message is refused, or its fragments are queued. -/
lemma ikcpSendFrom_eq {P : C → Bytes → Prop} (hc : CursorReads copy P) (hs : kcp.stream = false)
    (hm : 0 < kcp.mss.toNat) {cursor : C} {buf : Bytes} (hP : P cursor buf)
    (hf : kcp.Fits alloc buf.length) :
    ikcpSendFrom alloc copy kcp cursor buf.length = (-2, kcp) ∨
      ikcpCount kcp buf.length < ikcpWndRcv.toNat ∧
      ikcpSendFrom alloc copy kcp cursor buf.length =
        ((buf.length : ℤ), kcp.enqueue ((kcp.fragments buf).map IkcpFrag.queued)) := by
  rw [ikcpSendFrom]
  dsimp only
  rw [if_neg (by simp [hs])]
  by_cases hcount : ikcpCount kcp buf.length ≥ ikcpWndRcv.toNat
  · rw [if_pos hcount, if_neg (by simp [hs])]
    exact Or.inl rfl
  rw [if_neg hcount]
  obtain ⟨hpos, hle⟩ := ikcpCount_spec kcp hm buf.length
  have hall : ∀ alloc : ℕ → Bool, (∀ i, alloc i = true) →
      ikcpSendLoop alloc copy kcp 0 (ikcpCount kcp buf.length) cursor buf.length 0 =
        ((buf.length : ℤ), kcp.enqueue ((kcp.fragments buf).map IkcpFrag.queued)) := fun alloc h => by
    rw [ikcpSendLoop_eq hc h _ kcp 0 cursor buf 0 hs hP hle, zero_add]
    rfl
  rcases hf with h | hlen
  · exact Or.inr ⟨not_le.mp hcount, hall alloc h⟩
  · -- there is one allocation, which decides
    have hone : ikcpCount kcp buf.length = 1 := by rw [ikcpCount, if_pos hlen]
    have htrue := hall (fun _ => true) fun _ => rfl
    have hcount' := not_le.mp hcount
    rw [hone] at htrue hcount' ⊢
    rw [ikcpSendLoop] at htrue ⊢
    by_cases h0 : alloc 0 = false
    · rw [if_pos h0]
      exact Or.inl rfl
    · rw [if_neg h0]
      exact Or.inr ⟨hcount', htrue⟩

end Send

/-- **`ikcp_send`**: the message is refused, or its fragments are queued. -/
lemma ikcpSend_eq {alloc : ℕ → Bool} {kcp : Ikcpcb} (hs : kcp.stream = false)
    (hm : 0 < kcp.mss.toNat) {buf : Bytes} (hf : kcp.Fits alloc buf.length) :
    ikcpSend alloc kcp buf = (-2, kcp) ∨
      ikcpCount kcp buf.length < ikcpWndRcv.toNat ∧
      ikcpSend alloc kcp buf =
        ((buf.length : ℤ), kcp.enqueue ((kcp.fragments buf).map IkcpFrag.queued)) :=
  ikcpSendFrom_eq bufferCopy_cursorReads hs hm rfl hf

/-! ### Vectored sends -/

section Sendv

variable {alloc : ℕ → Bool} {C C' : Type} {copy : C → ℕ → Bytes × C} {copy' : C' → ℕ → Bytes × C'}
  {P : C → Bytes → Prop} {P' : C' → Bytes → Prop}

/-- The loop does not depend on where the bytes come from. -/
lemma ikcpSendLoop_congr (hc : CursorReads copy P) (hc' : CursorReads copy' P') (n : ℕ) :
    ∀ (kcp : Ikcpcb) (i : ℕ) (c : C) (c' : C') (buf : Bytes) (sent : ℤ), P c buf → P' c' buf →
    ikcpSendLoop alloc copy kcp i n c buf.length sent =
      ikcpSendLoop alloc copy' kcp i n c' buf.length sent := by
  induction n with
  | zero => exact fun _ _ _ _ _ _ _ _ => rfl
  | succ n ih =>
      intro kcp i c c' buf sent hP hP'
      rw [ikcpSendLoop, ikcpSendLoop]
      dsimp only
      have hle : (if buf.length > kcp.mss.toNat then kcp.mss.toNat else buf.length) ≤ buf.length := by
        split_ifs <;> omega
      generalize (if buf.length > kcp.mss.toNat then kcp.mss.toNat else buf.length) = size at hle ⊢
      by_cases h0 : alloc i = false
      · rw [if_pos h0, if_pos h0]
      · rw [if_neg h0, if_neg h0, hc.bytes c buf size hP hle, hc'.bytes c' buf size hP' hle,
          ← List.length_drop]
        exact ih _ _ _ _ _ _ (hc.rest c buf size hP hle) (hc'.rest c' buf size hP' hle)

/-- Neither does the whole send. -/
lemma ikcpSendFrom_congr (hc : CursorReads copy P) (hc' : CursorReads copy' P') (kcp : Ikcpcb) {c : C} {c' : C'}
    {buf : Bytes} (hP : P c buf) (hP' : P' c' buf) :
    ikcpSendFrom alloc copy kcp c buf.length = ikcpSendFrom alloc copy' kcp c' buf.length := by
  have hloop : ∀ kcp i sent, ikcpSendLoop alloc copy kcp i (ikcpCount kcp buf.length) c buf.length
      sent = ikcpSendLoop alloc copy' kcp i (ikcpCount kcp buf.length) c' buf.length sent :=
    fun kcp i sent => ikcpSendLoop_congr hc hc' _ kcp i c c' buf sent hP hP'
  rw [ikcpSendFrom, ikcpSendFrom]
  dsimp only
  cases kcp.sndQueue.getLast? with
  | none => simp only [hloop]
  | some old =>
      dsimp only
      have hle : (if buf.length < kcp.mss.toNat - old.data.length then buf.length
          else kcp.mss.toNat - old.data.length) ≤ buf.length := by
        split_ifs <;> omega
      generalize (if buf.length < kcp.mss.toNat - old.data.length then buf.length
          else kcp.mss.toNat - old.data.length) = size at hle ⊢
      have hrest : ∀ kcp i sent, ikcpSendLoop alloc copy kcp i (ikcpCount kcp (buf.length - size))
          (copy c size).2 (buf.length - size) sent =
          ikcpSendLoop alloc copy' kcp i (ikcpCount kcp (buf.length - size))
            (copy' c' size).2 (buf.length - size) sent := by
        intro kcp i sent
        rw [← List.length_drop]
        exact ikcpSendLoop_congr hc hc' _ kcp i _ _ _ sent (hc.rest c buf size hP hle)
          (hc'.rest c' buf size hP' hle)
      simp only [hloop, hrest, hc.bytes c buf size hP hle, hc'.bytes c' buf size hP' hle]

end Sendv

/-- The cursor stands before these bytes. -/
def IovAt (cursor : List Bytes × ℕ) (buf : Bytes) : Prop :=
  buf <+: cursor.1.flatten.drop cursor.2 ∧
    ∀ item, cursor.1.head? = some item → cursor.2 ≤ item.length

/-- The loop of `ikcp_iov_copy` takes the next bytes of the array. -/
lemma ikcpIovCopyLoop_spec (iov : List Bytes) : ∀ offset len : ℕ,
    (∀ item, iov.head? = some item → offset ≤ item.length) →
    len ≤ (iov.flatten.drop offset).length →
    (ikcpIovCopyLoop iov offset len).1 = (iov.flatten.drop offset).take len ∧
      (ikcpIovCopyLoop iov offset len).2.1.flatten.drop (ikcpIovCopyLoop iov offset len).2.2 =
        (iov.flatten.drop offset).drop len ∧
      ∀ item, (ikcpIovCopyLoop iov offset len).2.1.head? = some item →
        (ikcpIovCopyLoop iov offset len).2.2 ≤ item.length := by
  induction iov with
  | nil =>
      intro offset len _ hlen
      obtain rfl : len = 0 := by simpa using hlen
      simp [ikcpIovCopyLoop]
  | cons item rest ih =>
      intro offset len hoff hlen
      have ho : offset ≤ item.length := hoff item rfl
      have hdrop : (item :: rest).flatten.drop offset = item.drop offset ++ rest.flatten := by
        rw [List.flatten_cons, List.drop_append_of_le_length ho]
      rw [hdrop] at hlen ⊢
      rw [List.length_append, List.length_drop] at hlen
      rw [ikcpIovCopyLoop]
      by_cases h0 : len = 0
      · subst h0
        rw [if_pos rfl]
        exact ⟨rfl, hdrop, hoff⟩
      rw [if_neg h0]
      dsimp only
      by_cases hav : item.length - offset < len
      · -- the fragment is used up
        rw [if_pos hav, if_pos (by omega)]
        obtain ⟨h1, h2, h3⟩ := ih 0 (len - (item.length - offset)) (fun _ _ => Nat.zero_le _)
          (by rw [List.drop_zero]; omega)
        have hl : (item.drop offset).length = item.length - offset := List.length_drop
        refine ⟨?_, ?_, h3⟩
        · rw [h1, List.drop_zero, List.take_append, hl, List.take_of_length_le hl.le,
            List.take_of_length_le (hl.trans_le hav.le)]
        · rw [h2, List.drop_zero, List.drop_append, hl,
            List.drop_of_length_le (hl.trans_le hav.le), List.nil_append]
      rw [if_neg hav]
      have hin : len ≤ (item.drop offset).length := by
        rw [List.length_drop]
        omega
      rw [List.take_append_of_le_length hin, List.drop_append_of_le_length hin]
      by_cases hend : offset + len = item.length
      · rw [if_pos hend, Nat.sub_self]
        obtain ⟨h1, h2, h3⟩ := ih 0 0 (fun _ _ => Nat.zero_le _) (Nat.zero_le _)
        refine ⟨by rw [h1, List.take_zero, List.append_nil], ?_, h3⟩
        rw [h2, List.drop_zero, List.drop_zero, List.drop_drop, List.drop_of_length_le (by omega),
          List.nil_append]
      · rw [if_neg hend]
        refine ⟨rfl, ?_, fun x hx => ?_⟩
        · rw [List.flatten_cons, ← List.drop_drop, List.drop_append_of_le_length ho,
            List.drop_append_of_le_length hin]
        · obtain rfl : item = x := by simpa using hx
          rw [List.length_drop] at hin
          show offset + len ≤ item.length
          omega

lemma ikcpIovCopy_cursorReads : CursorReads ikcpIovCopy IovAt where
  bytes := by
    rintro ⟨iov, offset⟩ buf n ⟨hpre, hoff⟩ hn
    rw [ikcpIovCopy, (ikcpIovCopyLoop_spec iov offset n hoff (hn.trans hpre.length_le)).1]
    obtain ⟨t, ht⟩ := hpre
    dsimp only at ht
    rw [← ht, List.take_append_of_le_length hn]
  rest := by
    rintro ⟨iov, offset⟩ buf n ⟨hpre, hoff⟩ hn
    obtain ⟨-, h2, h3⟩ := ikcpIovCopyLoop_spec iov offset n hoff (hn.trans hpre.length_le)
    refine ⟨?_, h3⟩
    rw [ikcpIovCopy, h2]
    exact hpre.drop n

/-- **`ikcp_sendv` is `ikcp_send`** of the bytes it is pointed at. -/
lemma ikcpSendv_eq (alloc : ℕ → Bool) (kcp : Ikcpcb) {iov : List Bytes} {firstOffset len : ℕ}
    (hoff : ∀ item, iov.head? = some item → firstOffset ≤ item.length)
    (hlen : firstOffset + len ≤ iov.flatten.length) :
    ikcpSendv alloc kcp iov firstOffset len =
      ikcpSend alloc kcp ((iov.flatten.drop firstOffset).take len) := by
  rw [ikcpSendv.eq_def]
  by_cases h0 : len = 0
  · rw [if_pos h0, h0, List.take_zero]
  rw [if_neg h0]
  have hl : ((iov.flatten.drop firstOffset).take len).length = len := by
    rw [List.length_take, List.length_drop]
    omega
  cases hiov : iov with
  | nil =>
      rw [hiov] at hlen
      simp at hlen
      omega
  | cons item rest =>
      rw [hiov] at hoff hlen hl
      dsimp only
      rw [if_neg (not_lt.mpr (hoff item rfl)), if_neg (by omega), ikcpSend, hl]
      have hat : IovAt (item :: rest, firstOffset)
          (((item :: rest).flatten.drop firstOffset).take len) := ⟨List.take_prefix _ _, hoff⟩
      have h : ikcpSendFrom alloc _ _ _ _ = _ :=
        ikcpSendFrom_congr ikcpIovCopy_cursorReads bufferCopy_cursorReads kcp hat rfl
      rwa [hl] at h

end KcpMux
