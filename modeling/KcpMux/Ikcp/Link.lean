import KcpMux.Ikcp.Runs
import KcpMux.Lib.Arq
import Mathlib.Data.List.TakeWhile

/-!
Two instances of the default KCP, as the two ends of a selective repeat protocol.

The abstract sender and receiver of an instance are read off its queues and its history
(`IkcpEnd.sender`, `IkcpEnd.receiver`).  A segment `Stands` when what it says is true: data is what
the sender has under this number, and acknowledgements are of what the receiver has.  An instance
that is fed such segments takes steps of the abstract protocol (`IkcpTrans.sends`,
`IkcpTrans.takes`), and what it says stands (`IkcpEnd.stands_of_says`).

All numbers are below half the ring, so that the comparisons of the source are those of the numbers.
-/

namespace KcpMux

open Relation (ReflTransGen)

namespace IkcpEnd

/-! ### The two halves -/

/-- The fragments that have come in order. -/
def taken (e : IkcpEnd) : List IkcpFrag := e.popped ++ e.kcp.rcvQueue.map IkcpSeg.frag

/-- The instance as a sender. -/
def sender (e : IkcpEnd) : Arq.Sender IkcpFrag where
  accepted := e.accepted
  next := e.accepted.length - e.kcp.sndQueue.length
  pending := { i | ∃ x ∈ e.kcp.sndBuf.map IkcpSeg.sn, x.toNat = i }

/-- The instance as a receiver. -/
def receiver (e : IkcpEnd) : Arq.Receiver IkcpFrag where
  taken := e.taken
  ahead := { p | ∃ s ∈ e.kcp.rcvBuf, p = (s.sn.toNat, s.frag) }

variable {e e' p : IkcpEnd}

/-- The sending half is in order: the queue is the end of what was accepted, the next number counts
the rest, and what is in flight is under its number. -/
structure SndOk (e : IkcpEnd) : Prop where
  queue : e.kcp.sndQueue.map IkcpSeg.frag <:+ e.accepted
  nxt : e.kcp.sndNxt.toNat = e.sender.next
  buf : ∀ s ∈ e.kcp.sndBuf, e.sender.Offers s.sn.toNat s.frag
  counts : ∀ f ∈ e.accepted, f.1.toNat < ikcpWndRcv.toNat
  messages : ikcpMessages e.accepted = e.sent
  whole : Whole e.accepted
  down : CountsDown e.accepted

/-- The receiving half is in order: the next number counts what has been taken, and every
acknowledgement is of something that came. -/
structure RcvOk (e : IkcpEnd) : Prop where
  nxt : e.kcp.rcvNxt.toNat = e.taken.length
  acks : ∀ ack ∈ e.kcp.acklist, e.receiver.Has ack.1.toNat

/-- What a segment says is true of the instance that sends it. -/
structure Stands (e : IkcpEnd) (seg : IkcpSeg) : Prop where
  sendable : seg.Sendable e.kcp.conv
  una : seg.una.toNat ≤ e.taken.length
  push : seg.cmd = ikcpCmdPush → e.sender.Offers seg.sn.toNat seg.frag ∧ seg.frg.toNat < 256
  ack : seg.cmd = ikcpCmdAck → e.receiver.Has seg.sn.toNat

/-- A header and its data that stand. -/
def Heard (e : IkcpEnd) (h : IkcpHeader) (data : Bytes) : Prop :=
  ∃ seg, e.Stands seg ∧ h = seg.header ∧ data = seg.data

/-! ### What is said stands -/

lemma SndOk.length_le (h : e.SndOk) : e.kcp.sndQueue.length ≤ e.accepted.length := by
  simpa using h.queue.length_le

/-- What is offered has a small fragment number. -/
lemma SndOk.frg_lt (h : e.SndOk) {i : ℕ} {f : IkcpFrag} (ho : e.sender.Offers i f) :
    f.1.toNat < ikcpWndRcv.toNat := h.counts f (List.mem_of_getElem? ho.2)

lemma stands_of_says (hf : e.Formed) (hs : e.SndOk) (hr : e.RcvOk) {seg : IkcpSeg}
    (h : e.Says seg) : e.Stands seg := by
  refine ⟨hf.sendable h, ?_, fun hc => ?_, fun hc => ?_⟩
  · rw [h.una, hr.nxt]
  · rcases h.body with ⟨s, hm, hb⟩ | ⟨-, -, -, hcmd⟩
    · obtain ⟨-, -, h3, h4, h5⟩ := IkcpSeg.bare_eq_iff.mp hb
      have hoff := hs.buf s hm
      have hfrag : s.frag = seg.frag := by rw [IkcpSeg.frag, IkcpSeg.frag, h3, h5]
      have hlt := hs.frg_lt hoff
      rw [h4, hfrag] at hoff
      refine ⟨hoff, ?_⟩
      have hwnd : ikcpWndRcv.toNat = 128 := rfl
      have h3' : s.frag.1.toNat = seg.frg.toNat := congrArg UInt32.toNat h3
      omega
    · rw [hc] at hcmd
      rcases hcmd with ⟨hcmd, -⟩ | hcmd | hcmd <;> exact absurd hcmd (by decide)
  · rcases h.body with ⟨s, hm, hb⟩ | ⟨-, -, -, hcmd⟩
    · have h2 := (IkcpSeg.bare_eq_iff.mp hb).2.1
      rw [(hf.buf s hm).2.1, hc] at h2
      exact absurd h2 (by decide)
    · rw [hc] at hcmd
      rcases hcmd with ⟨-, ack, hm, hsn⟩ | hcmd | hcmd
      · rw [← hsn]
        exact hr.acks ack hm
      · exact absurd hcmd (by decide)
      · exact absurd hcmd (by decide)

/-- What stood once stands for ever. -/
lemma Stands.mono {has : ℕ → Prop} {offers : ℕ → IkcpFrag → Prop} {seg : IkcpSeg}
    (h : e.Stands seg) (hconv : e'.kcp.conv = e.kcp.conv)
    (hs : ReflTransGen (Arq.Sender.Step has) e.sender e'.sender)
    (hr : ReflTransGen (Arq.Receiver.Step offers) e.receiver e'.receiver) : e'.Stands seg := by
  exact ⟨hconv ▸ h.sendable, h.una.trans (Arq.Receiver.length_of_steps hr),
    fun hc => ⟨Arq.Sender.offers_of_steps hs (h.push hc).1, (h.push hc).2⟩,
    fun hc => Arq.Receiver.has_of_steps hr (h.ack hc)⟩

/-- What a header that stands says. -/
lemma Heard.spec {h : IkcpHeader} {data : Bytes} (hh : e.Heard h data) :
    h.una.toNat ≤ e.taken.length ∧
      (h.cmd.toUInt32 = ikcpCmdPush →
        e.sender.Offers h.sn.toNat (h.segment data).frag) ∧
      (h.cmd.toUInt32 = ikcpCmdAck → e.receiver.Has h.sn.toNat) := by
  obtain ⟨seg, hst, rfl, rfl⟩ := hh
  have hcmd := hst.sendable.known.2
  refine ⟨hst.una, fun hc => ?_, fun hc => hst.ack (hcmd.symm.trans hc)⟩
  obtain ⟨hoff, hlt⟩ := hst.push (hcmd.symm.trans hc)
  have hfrg : seg.frg.toUInt8.toUInt32 = seg.frg := by
    apply UInt32.toNat_inj.mp
    simp only [UInt8.toNat_toUInt32, UInt32.toNat_toUInt8]
    omega
  have hfrag : (seg.header.segment seg.data).frag = seg.frag := by
    show (seg.frg.toUInt8.toUInt32, seg.data) = (seg.frg, seg.data)
    rw [hfrg]
  rw [hfrag]
  exact hoff

end IkcpEnd

variable {e e' p : IkcpEnd}

/-! ### Steps of the sender -/

lemma frg_ikcpFragments {mss n : ℕ} (hn : n ≤ 2 ^ 32) {buf : Bytes} {f : IkcpFrag}
    (h : f ∈ ikcpFragments mss n buf) : f.1.toNat < n := by
  induction n generalizing buf with
  | zero => cases h
  | succ n ih =>
      rw [ikcpFragments] at h
      rcases List.mem_cons.mp h with rfl | h
      · rw [UInt32.toNat_ofNat']
        omega
      · exact (ih (by omega) h).trans (Nat.lt_succ_self n)

/-- Nothing changes for the sender. -/
lemma IkcpEnd.SndOk.of_eq (h : e.SndOk) (hs : e'.sender = e.sender)
    (hq : e'.kcp.sndQueue = e.kcp.sndQueue) (hn : e'.kcp.sndNxt = e.kcp.sndNxt)
    (hsent : e'.sent = e.sent)
    (hb : ∀ s ∈ e'.kcp.sndBuf, ∃ s' ∈ e.kcp.sndBuf, s'.sn = s.sn ∧ s'.frag = s.frag) : e'.SndOk := by
  have hacc : e'.accepted = e.accepted := congrArg Arq.Sender.accepted hs
  refine ⟨?_, ?_, fun s hm => ?_, ?_, ?_, ?_, ?_⟩
  · rw [hq, hacc]; exact h.queue
  · rw [hn, hs]; exact h.nxt
  · obtain ⟨s', hm', h1, h2⟩ := hb s hm
    rw [hs, ← h1, ← h2]
    exact h.buf s' hm'
  · rw [hacc]; exact h.counts
  · rw [hacc, hsent]; exact h.messages
  · rw [hacc]; exact h.whole
  · rw [hacc]; exact h.down

/-- A message is accepted. -/
lemma IkcpEnd.SndOk.send (h : e.SndOk) (hm : 0 < e.kcp.mss.toNat) {buf : Bytes}
    (hcount : ikcpCount e.kcp buf.length < ikcpWndRcv.toNat) {e' : IkcpEnd}
    (he : e' = { e with
      kcp := e.kcp.enqueue ((e.kcp.fragments buf).map IkcpFrag.queued)
      sent := e.sent ++ [buf]
      accepted := e.accepted ++ e.kcp.fragments buf }) :
    e'.sender = { e.sender with accepted := e.sender.accepted ++ e.kcp.fragments buf } ∧ e'.SndOk := by
  have hle := h.length_le
  have hwnd : ikcpWndRcv.toNat = 128 := rfl
  have hnext : e'.sender.next = e.sender.next := by
    rw [he]
    show (e.accepted ++ e.kcp.fragments buf).length -
      (e.kcp.sndQueue ++ (e.kcp.fragments buf).map IkcpFrag.queued).length = _ - _
    rw [List.length_append, List.length_append, List.length_map]
    omega
  have hsender : e'.sender = { e.sender with accepted := e.sender.accepted ++ e.kcp.fragments buf } := by
    show e'.sender = ⟨e.accepted ++ e.kcp.fragments buf, e.sender.next, e.sender.pending⟩
    rw [← hnext, he]
    rfl
  obtain ⟨hpos, hlen⟩ := ikcpCount_spec e.kcp hm buf.length
  refine ⟨hsender, ?_, ?_, fun s hs => ?_, fun f hf => ?_, ?_, ?_, ?_⟩
  · rw [he]
    show (e.kcp.sndQueue ++ (e.kcp.fragments buf).map IkcpFrag.queued).map IkcpSeg.frag <:+
      e.accepted ++ e.kcp.fragments buf
    have hid : (e.kcp.fragments buf).map (IkcpSeg.frag ∘ IkcpFrag.queued) = e.kcp.fragments buf := by
      rw [show IkcpSeg.frag ∘ IkcpFrag.queued = id from rfl, List.map_id]
    rw [List.map_append, List.map_map, hid]
    obtain ⟨t, ht⟩ := h.queue
    exact ⟨t, by rw [← List.append_assoc, ht]⟩
  · rw [hnext, ← h.nxt, he]
    rfl
  · have hs' : s ∈ e.kcp.sndBuf := by rwa [he] at hs
    obtain ⟨h1, h2⟩ := h.buf s hs'
    rw [hsender]
    exact ⟨h1, by rw [List.getElem?_append_left (List.getElem?_eq_some_iff.mp h2).1]; exact h2⟩
  · rw [he] at hf
    rcases List.mem_append.mp hf with hf | hf
    · exact h.counts f hf
    · exact (frg_ikcpFragments (by omega) hf).trans hcount
  · rw [he]
    show ikcpMessages (e.accepted ++ e.kcp.fragments buf) = e.sent ++ [buf]
    rw [ikcpMessages_append h.whole, h.messages, ikcpMessages, Ikcpcb.fragments,
      ikcpMessagesFrom_fragments hpos (by omega) hlen, List.nil_append]
  · rw [he]
    exact whole_append h.whole (whole_fragments _ _ _)
  · rw [he]
    exact countsDown_append h.whole h.down (countsDown_fragments _ (by omega) _)

/-- A segment gets its number. -/
lemma IkcpEnd.SndOk.number (h : e.SndOk) {seg new : IkcpSeg} {rest : List IkcpSeg}
    (hq : e.kcp.sndQueue = seg :: rest)
    (hnew : new.sn = e.kcp.sndNxt ∧ new.frag = seg.frag) (hb : e.accepted.length < 2 ^ 31)
    {e' : IkcpEnd} (he : e' = { e with kcp := { e.kcp with
      sndQueue := rest, sndBuf := e.kcp.sndBuf ++ [new], sndNxt := e.kcp.sndNxt + 1 } }) :
    e.sender.next < e.sender.accepted.length ∧
      e'.sender = { e.sender with
        next := e.sender.next + 1, pending := insert e.sender.next e.sender.pending } ∧ e'.SndOk := by
  have hle := h.length_le
  have hlen : e.kcp.sndQueue.length = rest.length + 1 := by rw [hq]; rfl
  have hnext0 : e.sender.next = e.accepted.length - e.kcp.sndQueue.length := rfl
  have hlt : e.sender.next < e.sender.accepted.length := by
    show e.sender.next < e.accepted.length
    omega
  have hnext : e.accepted.length - rest.length = e.sender.next + 1 := by omega
  -- the head of the queue is the first item without a number
  have hhead : e.accepted[e.sender.next]? = some seg.frag := by
    have hdrop := List.suffix_iff_eq_drop.mp h.queue
    rw [List.length_map, ← hnext0, hq] at hdrop
    have hget := congrArg List.head? hdrop
    rw [List.head?_drop] at hget
    exact hget.symm
  have hpending : e'.sender.pending = insert e.sender.next e.sender.pending := by
    rw [he]
    ext i
    show (∃ x ∈ (e.kcp.sndBuf ++ [new]).map IkcpSeg.sn, x.toNat = i) ↔
      i = e.sender.next ∨ ∃ x ∈ e.kcp.sndBuf.map IkcpSeg.sn, x.toNat = i
    rw [List.map_append, List.map_singleton, hnew.1, ← h.nxt]
    simp only [List.mem_append, List.mem_singleton]
    constructor
    · rintro ⟨x, hx | rfl, rfl⟩
      · exact Or.inr ⟨x, hx, rfl⟩
      · exact Or.inl rfl
    · rintro (rfl | ⟨x, hx, rfl⟩)
      · exact ⟨_, Or.inr rfl, rfl⟩
      · exact ⟨x, Or.inl hx, rfl⟩
  have hsender : e'.sender = { e.sender with
      next := e.sender.next + 1, pending := insert e.sender.next e.sender.pending } := by
    rw [← hpending, ← hnext, he]
    rfl
  refine ⟨hlt, hsender, ?_, ?_, fun s hs => ?_, ?_, ?_, ?_, ?_⟩
  · rw [he]
    have hqueue := h.queue
    rw [hq] at hqueue
    exact (List.suffix_cons _ _).trans hqueue
  · rw [hsender, he]
    show (e.kcp.sndNxt + 1).toNat = e.sender.next + 1
    have hone : (1 : UInt32).toNat = 1 := rfl
    have hnxt := h.nxt
    rw [UInt32.toNat_add, hone, hnxt]
    omega
  · rw [he] at hs
    rw [hsender]
    rcases List.mem_append.mp hs with hs | hs
    · obtain ⟨h1, h2⟩ := h.buf s hs
      exact ⟨h1.trans (Nat.lt_succ_self _), h2⟩
    · rw [List.mem_singleton.mp hs, hnew.1, hnew.2, h.nxt]
      exact ⟨Nat.lt_succ_self _, hhead⟩
  · rw [he]; exact h.counts
  · rw [he]; exact h.messages
  · rw [he]; exact h.whole
  · rw [he]; exact h.down

/-- Acknowledged segments are dropped. -/
lemma IkcpEnd.SndOk.release (h : e.SndOk) {has : ℕ → Prop} {l : List IkcpSeg} {u : UInt32}
    (hl : l.Sublist e.kcp.sndBuf) (hhas : ∀ s ∈ e.kcp.sndBuf, s ∉ l → has s.sn.toNat) :
    Arq.Sender.Step has e.sender (IkcpEnd.sender { e with kcp := e.kcp.released l u }) ∧
      IkcpEnd.SndOk { e with kcp := e.kcp.released l u } := by
  constructor
  · refine Arq.Sender.Step.drop (P := { i | ∃ x ∈ l.map IkcpSeg.sn, x.toNat = i }) ?_ ?_
    · rintro i ⟨x, hx, rfl⟩
      exact ⟨x, (hl.map _).subset hx, rfl⟩
    · rintro i ⟨x, hx, rfl⟩ hni
      obtain ⟨s, hs, rfl⟩ := List.mem_map.mp hx
      exact hhas s hs fun hm => hni ⟨s.sn, List.mem_map_of_mem hm, rfl⟩
  · exact ⟨h.queue, h.nxt, fun s hs => h.buf s (hl.subset hs), h.counts, h.messages, h.whole, h.down⟩

lemma mem_ikcpParseAckLoop {sn : UInt32} {l : List IkcpSeg} {s : IkcpSeg} (hs : s ∈ l)
    (hn : s ∉ ikcpParseAckLoop sn l) : s.sn = sn := by
  induction l with
  | nil => cases hs
  | cons x rest ih =>
      rw [ikcpParseAckLoop] at hn
      split_ifs at hn with h1 h2
      · rcases List.mem_cons.mp hs with rfl | hs
        · exact h1.symm
        · exact absurd hs hn
      · exact absurd hs hn
      · rcases List.mem_cons.mp hs with rfl | hs
        · exact absurd List.mem_cons_self hn
        · exact ih hs fun hm => hn (List.mem_cons_of_mem _ hm)

lemma itimediff_pos_of_dropped {una : UInt32} {l : List IkcpSeg} {s : IkcpSeg} (hs : s ∈ l)
    (hn : s ∉ l.dropWhile fun s => decide (itimediff una s.sn > 0)) : itimediff una s.sn > 0 := by
  rw [← List.takeWhile_append_dropWhile (p := fun s : IkcpSeg => decide (itimediff una s.sn > 0))
    (l := l)] at hs
  have hp := List.mem_takeWhile_imp ((List.mem_append.mp hs).resolve_right hn)
  exact of_decide_eq_true hp

/-- **Every step is one of the abstract sender's**, which drops what the peer has. -/
lemma IkcpTrans.sends (h : IkcpTrans p.Heard e e') (ho : e.SndOk) (hm : 0 < e.kcp.mss.toNat)
    (hb : e'.accepted.length < 2 ^ 31) (hp : p.taken.length < 2 ^ 31) :
    ReflTransGen (Arq.Sender.Step p.receiver.Has) e.sender e'.sender ∧ e'.SndOk := by
  have hself : ∀ s ∈ e.kcp.sndBuf, ∃ s' ∈ e.kcp.sndBuf, s'.sn = s.sn ∧ s'.frag = s.frag :=
    fun s hs => ⟨s, hs, rfl, rfl⟩
  cases h with
  | @tune kcp hc =>
      have hsender : IkcpEnd.sender { e with kcp := kcp } = e.sender := by
        rw [IkcpEnd.sender, IkcpEnd.sender]
        dsimp only
        rw [Ikcpcb.sn_of_core hc, show kcp.sndQueue = e.kcp.sndQueue from congrArg IkcpCore.sndQueue hc]
      refine ⟨by rw [hsender], ho.of_eq hsender (congrArg IkcpCore.sndQueue hc)
        (congrArg IkcpCore.sndNxt hc) rfl fun s hs => ?_⟩
      have hmem : s.bare ∈ e.kcp.sndBuf.map IkcpSeg.bare := by
        have hbares : kcp.sndBuf.map IkcpSeg.bare = e.kcp.sndBuf.map IkcpSeg.bare :=
          congrArg IkcpCore.sndBuf hc
        rw [← hbares]
        exact List.mem_map_of_mem hs
      obtain ⟨s', hs', hbare⟩ := List.mem_map.mp hmem
      obtain ⟨-, -, h3, h4, h5⟩ := IkcpSeg.bare_eq_iff.mp hbare
      exact ⟨s', hs', h4, by rw [IkcpSeg.frag, IkcpSeg.frag, h3, h5]⟩
  | send buf hcount =>
      obtain ⟨hs, hok⟩ := ho.send hm hcount rfl
      exact ⟨by rw [hs]; exact Arq.Sender.accepts _ _ _, hok⟩
  | number new hq hnew _ _ =>
      obtain ⟨hlt, hs, hok⟩ := ho.number hq hnew.2.2 hb rfl
      exact ⟨by rw [hs]; exact .single (.number hlt), hok⟩
  | @una h data hh =>
      obtain ⟨u, hu⟩ := ikcpShrinkBuf_eq (ikcpParseUna e.kcp h.una)
      rw [hu]
      have hhas : ∀ s ∈ e.kcp.sndBuf,
          s ∉ e.kcp.sndBuf.dropWhile (fun s => decide (itimediff h.una s.sn > 0)) →
          p.receiver.Has s.sn.toNat := by
        intro s hs hn
        have hpos := itimediff_pos_of_dropped hs hn
        have hle := hh.spec.1
        have hoff := (ho.buf s hs).1
        have hnext : e.sender.next ≤ e.accepted.length := Nat.sub_le _ _
        rw [itimediff_of_lt (hle.trans_lt hp) ((hoff.trans_le hnext).trans hb)] at hpos
        refine Or.inl ?_
        show s.sn.toNat < p.taken.length
        omega
      obtain ⟨hstep, hok⟩ := ho.release (u := u) (List.dropWhile_sublist _) hhas
      exact ⟨.single hstep, hok⟩
  | @ack h data hh hcmd =>
      obtain ⟨u, hu⟩ := ikcpShrinkBuf_eq (ikcpParseAck e.kcp h.sn)
      obtain ⟨l, hl, heq, hrest⟩ : ∃ l, l.Sublist e.kcp.sndBuf ∧
          ikcpParseAck e.kcp h.sn = { e.kcp with sndBuf := l } ∧
          ∀ s ∈ e.kcp.sndBuf, s ∉ l → s.sn = h.sn := by
        rw [ikcpParseAck]
        by_cases hc : itimediff h.sn e.kcp.sndUna < 0 ∨ itimediff h.sn e.kcp.sndNxt ≥ 0
        · exact ⟨e.kcp.sndBuf, List.Sublist.refl _, if_pos hc, fun s hs hn => absurd hs hn⟩
        · exact ⟨_, ikcpParseAckLoop_sublist _ _, if_neg hc, fun s hs hn => mem_ikcpParseAckLoop hs hn⟩
      rw [hu, heq]
      have hhas : ∀ s ∈ e.kcp.sndBuf, s ∉ l → p.receiver.Has s.sn.toNat := by
        intro s hs hn
        rw [hrest s hs hn]
        exact hh.spec.2.2 hcmd
      obtain ⟨hstep, hok⟩ := ho.release (u := u) hl hhas
      exact ⟨.single hstep, hok⟩
  | stale => exact ⟨.refl, ho.of_eq rfl rfl rfl rfl hself⟩
  | keep => exact ⟨.refl, ho.of_eq rfl rfl rfl rfl hself⟩
  | take => exact ⟨.refl, ho.of_eq rfl rfl rfl rfl hself⟩
  | pop => exact ⟨.refl, ho.of_eq rfl rfl rfl rfl hself⟩
  | flush => exact ⟨.refl, ho.of_eq rfl rfl rfl rfl hself⟩

/-! ### Steps of the receiver -/

namespace IkcpEnd

lemma receiver_eq {T : List IkcpFrag} {B : List IkcpSeg} (ht : e.taken = T) (hb : e.kcp.rcvBuf = B) :
    e.receiver = ⟨T, { q | ∃ s ∈ B, q = (s.sn.toNat, s.frag) }⟩ := by
  rw [receiver, ht, hb]

/-- Nothing changes for the receiver. -/
lemma RcvOk.of_eq (h : e.RcvOk) (ht : e'.taken = e.taken) (hb : e'.kcp.rcvBuf = e.kcp.rcvBuf)
    (hn : e'.kcp.rcvNxt = e.kcp.rcvNxt) (ha : e'.kcp.acklist ⊆ e.kcp.acklist) :
    e'.receiver = e.receiver ∧ e'.RcvOk := by
  have hr : e'.receiver = e.receiver := receiver_eq ht hb
  refine ⟨hr, by rw [hn, ht]; exact h.nxt, fun ack hm => ?_⟩
  rw [hr]
  exact h.acks ack (ha hm)

/-- A segment is put in its place. -/
lemma RcvOk.keep (h : e.RcvOk) {offers : ℕ → IkcpFrag → Prop} {new : IkcpSeg} (ts : UInt32)
    (hoff : offers new.sn.toNat new.frag) (ht : e'.taken = e.taken)
    (hb : e'.kcp.rcvBuf = ikcpPlace new e.kcp.rcvBuf) (hn : e'.kcp.rcvNxt = e.kcp.rcvNxt)
    (ha : e'.kcp.acklist = e.kcp.acklist ++ [(new.sn, ts)]) :
    ReflTransGen (Arq.Receiver.Step offers) e.receiver e'.receiver ∧ e'.RcvOk := by
  have hr : e'.receiver = e.receiver ∨
      e'.receiver = { e.receiver with
        ahead := insert (new.sn.toNat, new.frag) e.receiver.ahead } := by
    rw [receiver_eq ht hb]
    rcases ikcpPlace_spec new e.kcp.rcvBuf with ⟨hpl, -⟩ | ⟨l1, l2, hbuf, hpl, -⟩
    · rw [hpl]
      exact Or.inl rfl
    · refine Or.inr (congrArg (Arq.Receiver.mk e.taken) (Set.ext fun q => ?_))
      show (∃ s ∈ ikcpPlace new e.kcp.rcvBuf, q = (s.sn.toNat, s.frag)) ↔
        q = (new.sn.toNat, new.frag) ∨ ∃ s ∈ e.kcp.rcvBuf, q = (s.sn.toNat, s.frag)
      constructor
      · rintro ⟨s, hs, rfl⟩
        rcases mem_ikcpPlace hs with rfl | hs
        · exact Or.inl rfl
        · exact Or.inr ⟨s, hs, rfl⟩
      · rintro (rfl | ⟨s, hs, rfl⟩)
        · exact ⟨new, by rw [hpl]; simp, rfl⟩
        · exact ⟨s, mem_ikcpPlace_of_mem new hs, rfl⟩
  have hmono : ∀ i, e.receiver.Has i → e'.receiver.Has i := by
    intro i hi
    rcases hr with hr | hr
    · rw [hr]
      exact hi
    · rw [hr]
      exact (Arq.Receiver.Step.keep hoff).has_mono hi
  refine ⟨?_, by rw [hn, ht]; exact h.nxt, fun ack hm => ?_⟩
  · rcases hr with hr | hr
    · rw [hr]
    · rw [hr]
      exact .single (.keep hoff)
  · rw [ha] at hm
    rcases List.mem_append.mp hm with hm | hm
    · exact hmono _ (h.acks ack hm)
    · obtain ⟨s, hs, hsn⟩ := exists_mem_ikcpPlace new e.kcp.rcvBuf
      rw [List.mem_singleton.mp hm, receiver_eq ht hb]
      exact Or.inr ⟨s.frag, s, hs, by rw [hsn]⟩

/-- The next segment is moved to the queue. -/
lemma RcvOk.take (h : e.RcvOk) (offers : ℕ → IkcpFrag → Prop) {seg : IkcpSeg} {rest : List IkcpSeg}
    (hlt : e.taken.length < 2 ^ 31) (hbuf : e.kcp.rcvBuf = seg :: rest) (hsn : seg.sn = e.kcp.rcvNxt)
    (ht : e'.taken = e.taken ++ [seg.frag]) (hb : e'.kcp.rcvBuf = rest)
    (hn : e'.kcp.rcvNxt = e.kcp.rcvNxt + 1) (ha : e'.kcp.acklist = e.kcp.acklist) :
    Arq.Receiver.Step offers e.receiver e'.receiver ∧ e'.RcvOk := by
  have hnat : seg.sn.toNat = e.taken.length := by rw [hsn, h.nxt]
  have hstep : Arq.Receiver.Step offers e.receiver e'.receiver := by
    rw [receiver_eq ht hb]
    refine .take ⟨seg, by rw [hbuf]; exact List.mem_cons_self, ?_⟩ ?_ ?_
    · exact Prod.ext hnat.symm rfl
    · rintro q ⟨s, hs, rfl⟩
      exact ⟨s, by rw [hbuf]; exact List.mem_cons_of_mem _ hs, rfl⟩
    · rintro q ⟨s, hs, rfl⟩ hne
      rw [hbuf] at hs
      rcases List.mem_cons.mp hs with rfl | hs
      · exact absurd hnat hne
      · exact ⟨s, hs, rfl⟩
  refine ⟨hstep, ?_, fun ack hm => hstep.has_mono (h.acks ack (ha ▸ hm))⟩
  have hone : (1 : UInt32).toNat = 1 := rfl
  rw [ht, hn, List.length_append, List.length_singleton, UInt32.toNat_add, hone, h.nxt]
  omega

end IkcpEnd

/-- **Every step is one of the abstract receiver's**, which takes up what the peer offers. -/
lemma IkcpTrans.takes (h : IkcpTrans p.Heard e e') (ho : e.RcvOk) (hb : p.accepted.length < 2 ^ 31)
    (ht : e.taken.length < 2 ^ 31) :
    ReflTransGen (Arq.Receiver.Step p.sender.Offers) e.receiver e'.receiver ∧ e'.RcvOk := by
  -- most steps leave the receiver alone
  have hsame : e'.taken = e.taken → e'.kcp.rcvBuf = e.kcp.rcvBuf → e'.kcp.rcvNxt = e.kcp.rcvNxt →
      e'.kcp.acklist ⊆ e.kcp.acklist →
      ReflTransGen (Arq.Receiver.Step p.sender.Offers) e.receiver e'.receiver ∧ e'.RcvOk := by
    intro h1 h2 h3 h4
    obtain ⟨hr, hok⟩ := ho.of_eq h1 h2 h3 h4
    exact ⟨by rw [hr], hok⟩
  cases h with
  | @tune kcp hc =>
      refine hsame ?_ (congrArg IkcpCore.rcvBuf hc) (congrArg IkcpCore.rcvNxt hc) ?_
      · show e.popped ++ kcp.rcvQueue.map IkcpSeg.frag = _
        rw [show kcp.rcvQueue = e.kcp.rcvQueue from congrArg IkcpCore.rcvQueue hc]
        rfl
      · show kcp.acklist ⊆ _
        rw [show kcp.acklist = e.kcp.acklist from congrArg IkcpCore.acklist hc]
        exact List.Subset.refl _
  | send => exact hsame rfl rfl rfl (List.Subset.refl _)
  | number => exact hsame rfl rfl rfl (List.Subset.refl _)
  | @una h data hh =>
      obtain ⟨l, u, -, heq⟩ := ikcpParseUna_shrink e.kcp h.una
      rw [heq] at hsame ⊢
      exact hsame rfl rfl rfl (List.Subset.refl _)
  | @ack h data hh hcmd =>
      obtain ⟨l, u, -, heq⟩ := ikcpParseAck_shrink e.kcp h.sn
      rw [heq] at hsame ⊢
      exact hsame rfl rfl rfl (List.Subset.refl _)
  | @stale h data hh hcmd hold =>
      refine ⟨.refl, ho.nxt, fun ack hm => ?_⟩
      rcases List.mem_append.mp hm with hm | hm
      · exact ho.acks ack hm
      · have hoff := (hh.spec.2.1 hcmd).1
        have hnext : p.sender.next ≤ p.accepted.length := Nat.sub_le _ _
        rw [itimediff_of_lt ((hoff.trans_le hnext).trans hb) (ho.nxt.trans_lt ht), ho.nxt] at hold
        rw [List.mem_singleton.mp hm]
        refine Or.inl ?_
        show h.sn.toNat < e.taken.length
        omega
  | @keep h data hh hcmd hlo hhi =>
      have hoff : p.sender.Offers (h.segment data).sn.toNat (h.segment data).frag :=
        hh.spec.2.1 hcmd
      exact ho.keep h.ts hoff rfl rfl rfl rfl
  | @take seg rest hbuf hsn hroom =>
      have htaken : IkcpEnd.taken { e with kcp := { e.kcp with
          rcvBuf := rest, rcvQueue := e.kcp.rcvQueue ++ [seg], rcvNxt := e.kcp.rcvNxt + 1 } } =
          e.taken ++ [seg.frag] := by
        show e.popped ++ (e.kcp.rcvQueue ++ [seg]).map IkcpSeg.frag = _
        rw [List.map_append, ← List.append_assoc]
        rfl
      obtain ⟨hstep, hok⟩ := ho.take p.sender.Offers ht hbuf hsn htaken rfl rfl rfl
      exact ⟨.single hstep, hok⟩
  | pop hpeek =>
      refine hsame ?_ rfl rfl (List.Subset.refl _)
      show e.popped ++ _ ++ (ikcpMessage e.kcp.rcvQueue).2.map IkcpSeg.frag = _
      rw [List.append_assoc, ← List.map_append, ikcpMessage_append]
      rfl
  | flush => exact hsame rfl rfl rfl (List.nil_subset _)

end KcpMux
