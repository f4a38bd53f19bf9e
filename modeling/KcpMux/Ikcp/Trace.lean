import KcpMux.Ikcp.Update
import KcpMux.Ikcp.Fragments

/-!
What the calls of the default KCP do, step by step.

`IkcpEnd` is an instance with its history: the messages it has accepted and handed out, and the
datagrams it has put out.  `IkcpTrans H` lists the changes a call can make to it, where `H` holds of
the segments of the datagrams it is fed: a message is queued, a segment gets its number, an
acknowledgement removes one, a segment arrives, is moved to the queue, and is read.  Everything else
(times, windows, the record of transmissions) is one step that leaves the `core` alone.
That every call is a sequence of these changes is shown in the two modules after this one.
-/

namespace KcpMux

/-! ### Histories -/

/-- An instance with its history: the messages that were accepted and those that were handed out,
with the fragments of both, and the datagrams that were put out. -/
structure IkcpEnd where
  kcp : Ikcpcb
  sent : List Bytes := []
  accepted : List IkcpFrag := []
  received : List Bytes := []
  popped : List IkcpFrag := []
  put : List Bytes := []
  deriving DecidableEq, Repr

namespace IkcpEnd

variable (e : IkcpEnd)

/-- A message goes into the history. -/
def record (buf : Bytes) (r : ℤ × Ikcpcb) : ℤ × IkcpEnd :=
  (r.1,
    if r.1 ≥ 0 then
      { e with
        kcp := r.2, sent := e.sent ++ [buf], accepted := e.accepted ++ e.kcp.fragments buf }
    else { e with kcp := r.2 })

/-- `ikcp_send`. -/
def send (alloc : ℕ → Bool) (buf : Bytes) : ℤ × IkcpEnd := e.record buf (ikcpSend alloc e.kcp buf)

/-- `ikcp_sendv`. -/
def sendv (alloc : ℕ → Bool) (iov : List Bytes) (firstOffset len : ℕ) : ℤ × IkcpEnd :=
  e.record ((iov.flatten.drop firstOffset).take len) (ikcpSendv alloc e.kcp iov firstOffset len)

/-- `ikcp_recv`. -/
def recv (len : ℤ) : ℤ × Bytes × IkcpEnd :=
  let r := ikcpRecv e.kcp len
  (r.1, r.2.1,
    if r.1 ≥ 0 ∧ len ≥ 0 then
      { e with
        kcp := r.2.2
        received := e.received ++ [r.2.1]
        popped := e.popped ++ (ikcpMessage e.kcp.rcvQueue).1.map IkcpSeg.frag }
    else { e with kcp := r.2.2 })

/-- `ikcp_input`. -/
def input (data : Bytes) : ℤ × IkcpEnd :=
  let r := ikcpInput e.kcp data
  (r.1, { e with kcp := r.2 })

/-- `ikcp_update`. -/
def update (ok : ℕ → Bool) (current : ℤ) : IkcpEnd :=
  let r := ikcpUpdate ok e.kcp current
  { e with kcp := r.1, put := e.put ++ r.2 }

/-- `ikcp_current_update`. -/
def currentUpdate (current : ℤ) : IkcpEnd := { e with kcp := ikcpCurrentUpdate e.kcp current }

end IkcpEnd

/-! ### The core -/

/-- A segment without the record of its transmissions. -/
def IkcpSeg.bare (seg : IkcpSeg) : IkcpSeg :=
  { conv := seg.conv, cmd := seg.cmd, frg := seg.frg, sn := seg.sn, data := seg.data }

lemma IkcpSeg.bare_eq_iff {s s' : IkcpSeg} : s.bare = s'.bare ↔
    s.conv = s'.conv ∧ s.cmd = s'.cmd ∧ s.frg = s'.frg ∧ s.sn = s'.sn ∧ s.data = s'.data := by
  simp [IkcpSeg.bare]

/-- What the protocol rests on. -/
structure IkcpCore where
  conv : UInt32
  mtu : UInt32
  mss : UInt32
  stream : Bool
  sndUna : UInt32
  sndNxt : UInt32
  rcvNxt : UInt32
  sndWnd : UInt32
  rcvWnd : UInt32
  sndQueue : List IkcpSeg
  rcvQueue : List IkcpSeg
  sndBuf : List IkcpSeg
  rcvBuf : List IkcpSeg
  acklist : List (UInt32 × UInt32)

def Ikcpcb.core (kcp : Ikcpcb) : IkcpCore where
  conv := kcp.conv
  mtu := kcp.mtu
  mss := kcp.mss
  stream := kcp.stream
  sndUna := kcp.sndUna
  sndNxt := kcp.sndNxt
  rcvNxt := kcp.rcvNxt
  sndWnd := kcp.sndWnd
  rcvWnd := kcp.rcvWnd
  sndQueue := kcp.sndQueue
  rcvQueue := kcp.rcvQueue
  sndBuf := kcp.sndBuf.map IkcpSeg.bare
  rcvBuf := kcp.rcvBuf
  acklist := kcp.acklist

/-- The numbers in flight are part of the core. -/
lemma Ikcpcb.sn_of_core {kcp kcp' : Ikcpcb} (h : kcp'.core = kcp.core) :
    kcp'.sndBuf.map IkcpSeg.sn = kcp.sndBuf.map IkcpSeg.sn := by
  have hmap := congrArg (fun c : IkcpCore => c.sndBuf.map IkcpSeg.sn) h
  simp only [Ikcpcb.core, List.map_map] at hmap
  exact hmap

/-! ### Datagrams -/

/-- Segments on the wire, one after the other. -/
def ikcpWire (segs : List IkcpSeg) : Bytes :=
  (segs.map fun seg => ikcpEncodeSeg seg ++ seg.data).flatten

/-- A datagram of segments of this kind. -/
def Spoken (P : IkcpSeg → Prop) (d : Bytes) : Prop := ∃ segs, d = ikcpWire segs ∧ ∀ seg ∈ segs, P seg

lemma Spoken.mono {P Q : IkcpSeg → Prop} {d : Bytes} (h : Spoken P d) (hPQ : ∀ seg, P seg → Q seg) :
    Spoken Q d := by
  obtain ⟨segs, hd, hP⟩ := h
  exact ⟨segs, hd, fun seg hs => hPQ seg (hP seg hs)⟩

lemma Spoken.nil {P : IkcpSeg → Prop} : Spoken P [] := ⟨[], rfl, by simp⟩

lemma Spoken.snoc {P : IkcpSeg → Prop} {d : Bytes} (h : Spoken P d) {seg : IkcpSeg} (hseg : P seg) :
    Spoken P (d ++ ikcpEncodeSeg seg ++ seg.data) := by
  obtain ⟨segs, rfl, hP⟩ := h
  refine ⟨segs ++ [seg], by simp [ikcpWire], fun s hs => ?_⟩
  rcases List.mem_append.mp hs with hs | hs
  · exact hP s hs
  · rw [List.mem_singleton.mp hs]
    exact hseg

/-- What an instance says: data it has in flight, acknowledgements it has noted, and probes. -/
structure IkcpEnd.Says (e : IkcpEnd) (seg : IkcpSeg) : Prop where
  una : seg.una = e.kcp.rcvNxt
  body : (∃ s ∈ e.kcp.sndBuf, s.bare = seg.bare) ∨
    seg.conv = e.kcp.conv ∧ seg.frg = 0 ∧ seg.data = [] ∧
      (seg.cmd = ikcpCmdAck ∧ (∃ ack ∈ e.kcp.acklist, ack.1 = seg.sn) ∨
        seg.cmd = ikcpCmdWask ∨ seg.cmd = ikcpCmdWins)

/-- How long a datagram can get: the segments in flight have been cut already. -/
def Ikcpcb.longest (kcp : Ikcpcb) : ℕ :=
  (kcp.sndBuf.map fun seg => ikcpOverhead + seg.data.length).foldl max (max kcp.mtu.toNat ikcpOverhead)

/-! ### Steps -/

/-- The changes that calls make, when the segments they are fed satisfy `H`. -/
inductive IkcpTrans (H : IkcpHeader → Bytes → Prop) : IkcpEnd → IkcpEnd → Prop
  /-- Something outside the core changes. -/
  | tune {e : IkcpEnd} {kcp : Ikcpcb} (h : kcp.core = e.kcp.core) : IkcpTrans H e { e with kcp := kcp }
  /-- A message is queued. -/
  | send {e : IkcpEnd} (buf : Bytes) (hcount : ikcpCount e.kcp buf.length < ikcpWndRcv.toNat) :
      IkcpTrans H e { e with
        kcp := e.kcp.enqueue ((e.kcp.fragments buf).map IkcpFrag.queued)
        sent := e.sent ++ [buf]
        accepted := e.accepted ++ e.kcp.fragments buf }
  /-- The first segment of the queue gets its number. -/
  | number {e : IkcpEnd} {seg : IkcpSeg} {rest : List IkcpSeg} {cwnd : UInt32} (new : IkcpSeg)
      (hq : e.kcp.sndQueue = seg :: rest)
      (hnew : new.conv = e.kcp.conv ∧ new.cmd = ikcpCmdPush ∧ new.sn = e.kcp.sndNxt ∧
        new.frag = seg.frag)
      (hcwnd : cwnd ≤ e.kcp.sndWnd) (hwnd : itimediff e.kcp.sndNxt (e.kcp.sndUna + cwnd) < 0) :
      IkcpTrans H e { e with kcp := { e.kcp with
        sndQueue := rest, sndBuf := e.kcp.sndBuf ++ [new], sndNxt := e.kcp.sndNxt + 1 } }
  /-- The peer says how far it has come. -/
  | una {e : IkcpEnd} {h : IkcpHeader} {data : Bytes} (hh : H h data) :
      IkcpTrans H e { e with kcp := ikcpShrinkBuf (ikcpParseUna e.kcp h.una) }
  /-- The peer acknowledges a segment. -/
  | ack {e : IkcpEnd} {h : IkcpHeader} {data : Bytes} (hh : H h data)
      (hcmd : h.cmd.toUInt32 = ikcpCmdAck) :
      IkcpTrans H e { e with kcp := ikcpShrinkBuf (ikcpParseAck e.kcp h.sn) }
  /-- A segment comes that was moved to the queue before. -/
  | stale {e : IkcpEnd} {h : IkcpHeader} {data : Bytes} (hh : H h data)
      (hcmd : h.cmd.toUInt32 = ikcpCmdPush) (hlt : itimediff h.sn e.kcp.rcvNxt < 0) :
      IkcpTrans H e { e with kcp := ikcpAckPush e.kcp h.sn h.ts }
  /-- A segment of the window comes. -/
  | keep {e : IkcpEnd} {h : IkcpHeader} {data : Bytes} (hh : H h data)
      (hcmd : h.cmd.toUInt32 = ikcpCmdPush) (hlo : 0 ≤ itimediff h.sn e.kcp.rcvNxt)
      (hhi : itimediff h.sn (e.kcp.rcvNxt + e.kcp.rcvWnd) < 0) :
      IkcpTrans H e { e with kcp := { ikcpAckPush e.kcp h.sn h.ts with
        rcvBuf := ikcpPlace (h.segment data) e.kcp.rcvBuf } }
  /-- The next segment is moved to the queue. -/
  | take {e : IkcpEnd} {seg : IkcpSeg} {rest : List IkcpSeg} (hb : e.kcp.rcvBuf = seg :: rest)
      (hsn : seg.sn = e.kcp.rcvNxt) (hroom : e.kcp.rcvQueue.length < e.kcp.rcvWnd.toNat) :
      IkcpTrans H e { e with kcp := { e.kcp with
        rcvBuf := rest, rcvQueue := e.kcp.rcvQueue ++ [seg], rcvNxt := e.kcp.rcvNxt + 1 } }
  /-- A message is read. -/
  | pop {e : IkcpEnd} (hpeek : 0 ≤ ikcpPeeksize e.kcp) :
      IkcpTrans H e { e with
        kcp := { e.kcp with rcvQueue := (ikcpMessage e.kcp.rcvQueue).2 }
        received := e.received ++ [ikcpBytes (ikcpMessage e.kcp.rcvQueue).1]
        popped := e.popped ++ (ikcpMessage e.kcp.rcvQueue).1.map IkcpSeg.frag }
  /-- Datagrams are put out, and the acknowledgements are done with. -/
  | flush {e : IkcpEnd} {ds : List Bytes} (hds : ∀ d ∈ ds, d ≠ [] ∧ Spoken e.Says d)
      (hlen : ∀ d ∈ ds, d.length ≤ e.kcp.longest) :
      IkcpTrans H e { e with kcp := { e.kcp with acklist := [] }, put := e.put ++ ds }

/-- Any number of changes. -/
abbrev IkcpMoves (H : IkcpHeader → Bytes → Prop) : IkcpEnd → IkcpEnd → Prop :=
  Relation.ReflTransGen (IkcpTrans H)

variable {H : IkcpHeader → Bytes → Prop} {e e' : IkcpEnd}

/-- What is set once and for all. -/
structure IkcpSettings where
  conv : UInt32
  mtu : UInt32
  mss : UInt32
  stream : Bool
  sndWnd : UInt32
  rcvWnd : UInt32

def Ikcpcb.settings (kcp : Ikcpcb) : IkcpSettings :=
  ⟨kcp.conv, kcp.mtu, kcp.mss, kcp.stream, kcp.sndWnd, kcp.rcvWnd⟩

lemma ikcpShrinkBuf_eq (kcp : Ikcpcb) :
    ∃ una, ikcpShrinkBuf kcp = { kcp with sndUna := una } := by
  rw [ikcpShrinkBuf.eq_def]
  split <;> exact ⟨_, rfl⟩

lemma ikcpParseAckLoop_sublist (sn : UInt32) (l : List IkcpSeg) :
    (ikcpParseAckLoop sn l).Sublist l := by
  induction l with
  | nil => exact List.Sublist.refl _
  | cons s rest ih =>
      rw [ikcpParseAckLoop]
      split_ifs
      · exact List.sublist_cons_self _ _
      · exact List.Sublist.refl _
      · exact ih.cons_cons s

lemma ikcpParseAck_eq (kcp : Ikcpcb) (sn : UInt32) :
    ∃ l, l.Sublist kcp.sndBuf ∧ ikcpParseAck kcp sn = { kcp with sndBuf := l } := by
  rw [ikcpParseAck]
  by_cases h : itimediff sn kcp.sndUna < 0 ∨ itimediff sn kcp.sndNxt ≥ 0
  · exact ⟨kcp.sndBuf, List.Sublist.refl _, if_pos h⟩
  · exact ⟨_, ikcpParseAckLoop_sublist sn _, if_neg h⟩

/-- Segments are removed from `snd_buf`, and `snd_una` is set. -/
def Ikcpcb.released (kcp : Ikcpcb) (l : List IkcpSeg) (una : UInt32) : Ikcpcb :=
  { kcp with sndBuf := l, sndUna := una }

lemma ikcpParseUna_shrink (kcp : Ikcpcb) (una : UInt32) :
    ∃ l u, l.Sublist kcp.sndBuf ∧ ikcpShrinkBuf (ikcpParseUna kcp una) = kcp.released l u := by
  obtain ⟨u, hu⟩ := ikcpShrinkBuf_eq (ikcpParseUna kcp una)
  exact ⟨_, u, List.dropWhile_sublist _, hu⟩

lemma ikcpParseAck_shrink (kcp : Ikcpcb) (sn : UInt32) :
    ∃ l u, l.Sublist kcp.sndBuf ∧ ikcpShrinkBuf (ikcpParseAck kcp sn) = kcp.released l u := by
  obtain ⟨l, hl, heq⟩ := ikcpParseAck_eq kcp sn
  obtain ⟨u, hu⟩ := ikcpShrinkBuf_eq (ikcpParseAck kcp sn)
  exact ⟨l, u, hl, by rw [hu, heq]; rfl⟩

/-- **The settings stay.** -/
lemma IkcpTrans.settings (h : IkcpTrans H e e') : e'.kcp.settings = e.kcp.settings := by
  cases h with
  | tune h =>
      exact congrArg (fun c : IkcpCore => IkcpSettings.mk c.conv c.mtu c.mss c.stream c.sndWnd c.rcvWnd) h
  | @una h data hh =>
      obtain ⟨l, u, -, heq⟩ := ikcpParseUna_shrink e.kcp h.una
      rw [heq]
      rfl
  | @ack h data hh hcmd =>
      obtain ⟨l, u, -, heq⟩ := ikcpParseAck_shrink e.kcp h.sn
      rw [heq]
      rfl
  | _ => rfl

lemma IkcpMoves.settings (h : IkcpMoves H e e') : e'.kcp.settings = e.kcp.settings := by
  induction h with
  | refl => rfl
  | tail _ ht ih => exact ht.settings.trans ih

end KcpMux
