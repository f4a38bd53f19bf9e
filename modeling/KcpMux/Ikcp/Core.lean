import KcpMux.Ikcp.Segment

/-!
The control block of the default KCP and the user's side of it (`third_party/kcp/ikcp.c`): creation
and settings, `ikcp_send`, `ikcp_sendv`, `ikcp_peeksize` and `ikcp_recv`.

The queues are lists, head first, and the counters `nsnd_que`, `nsnd_buf`, `nrcv_que`, `nrcv_buf` are
their lengths; `acklist` with `ackcount` is a list.  `alloc i` says whether the `i`-th allocation of
a call succeeds.  The hooks `quotah`, `losth` and `writelog`, which kcp-mux leaves unset, are left
out.
-/

namespace KcpMux

/-! ### The control block -/

/-- `IKCPCB`. -/
structure Ikcpcb where
  conv : UInt32
  mtu : UInt32
  mss : UInt32
  state : UInt32
  sndUna : UInt32
  sndNxt : UInt32
  rcvNxt : UInt32
  ssthresh : UInt32
  rxRttval : ℤ
  rxSrtt : ℤ
  rxRto : UInt32
  rxMinrto : UInt32
  sndWnd : UInt32
  rcvWnd : UInt32
  rmtWnd : UInt32
  cwnd : UInt32
  probe : UInt32
  interval : ℤ
  tsCurrent : ℤ
  tsFlush : ℤ
  reminds : UInt32
  xmit : UInt32
  nodelay : ℤ
  updated : Bool
  tsProbe : ℤ
  probeWait : ℤ
  deadLink : UInt32
  incr : UInt32
  sndQueue : List IkcpSeg
  rcvQueue : List IkcpSeg
  sndBuf : List IkcpSeg
  rcvBuf : List IkcpSeg
  acklist : List (UInt32 × UInt32)
  fastresend : ℤ
  fastlimit : ℤ
  nocwnd : Bool
  stream : Bool
  deriving DecidableEq, Repr

/-- The control block `ikcp_create` fills in. -/
def ikcpBlank (conv : UInt32) : Ikcpcb where
  conv := conv
  mtu := ikcpMtuDef
  mss := ikcpMtuDef - UInt32.ofNat ikcpOverhead
  state := 0
  sndUna := 0
  sndNxt := 0
  rcvNxt := 0
  ssthresh := ikcpThreshInit
  rxRttval := 0
  rxSrtt := 0
  rxRto := ikcpRtoDef
  rxMinrto := ikcpRtoMin
  sndWnd := ikcpWndSnd
  rcvWnd := ikcpWndRcv
  rmtWnd := ikcpWndRcv
  cwnd := 0
  probe := 0
  interval := ikcpInterval
  tsCurrent := 0
  tsFlush := ikcpInterval
  reminds := 0
  xmit := 0
  nodelay := 0
  updated := false
  tsProbe := 0
  probeWait := 0
  deadLink := ikcpDeadlink
  incr := 0
  sndQueue := []
  rcvQueue := []
  sndBuf := []
  rcvBuf := []
  acklist := []
  fastresend := 0
  fastlimit := ikcpFastackLimit
  nocwnd := false
  stream := false

/-- `ikcp_create`: the control block and its buffer are allocated. -/
def ikcpCreate (alloc : ℕ → Bool) (conv : UInt32) : Option Ikcpcb :=
  if alloc 0 = false then none
  else if alloc 1 = false then none
  else some (ikcpBlank conv)

/-- `ikcp_setmtu`. -/
def ikcpSetmtu (alloc : ℕ → Bool) (kcp : Ikcpcb) (mtu : ℤ) : ℤ × Ikcpcb :=
  if mtu < 50 ∨ mtu < ikcpOverhead then (-1, kcp)
  else if alloc 0 = false then (-2, kcp)
  else (0, { kcp with mtu := UInt32.ofInt mtu, mss := UInt32.ofInt mtu - UInt32.ofNat ikcpOverhead })

/-- `ikcp_nodelay`. -/
def ikcpNodelay (kcp : Ikcpcb) (nodelay interval resend nc : ℤ) : Ikcpcb :=
  let kcp :=
    if nodelay ≥ 0 then
      { kcp with nodelay := nodelay, rxMinrto := if nodelay ≠ 0 then ikcpRtoNdl else ikcpRtoMin }
    else kcp
  let kcp :=
    if interval ≥ 0 then
      { kcp with interval := if interval > 5000 then 5000 else if interval < 10 then 10 else interval }
    else kcp
  let kcp := if resend ≥ 0 then { kcp with fastresend := resend } else kcp
  if nc ≥ 0 then { kcp with nocwnd := decide (nc ≠ 0) } else kcp

/-- `ikcp_waitsnd`. -/
def ikcpWaitsnd (kcp : Ikcpcb) : ℕ := kcp.sndBuf.length + kcp.sndQueue.length

/-- `ikcp_wnd_unused`. -/
def ikcpWndUnused (kcp : Ikcpcb) : UInt32 :=
  if kcp.rcvQueue.length < kcp.rcvWnd.toNat then kcp.rcvWnd - UInt32.ofNat kcp.rcvQueue.length else 0

/-- `ikcp_current_update`. -/
def ikcpCurrentUpdate (kcp : Ikcpcb) (current : ℤ) : Ikcpcb := { kcp with tsCurrent := current }

/-! ### Sending -/

/-- Segments are appended to `snd_queue`. -/
def Ikcpcb.enqueue (kcp : Ikcpcb) (segs : List IkcpSeg) : Ikcpcb :=
  { kcp with sndQueue := kcp.sndQueue ++ segs }

@[simp] lemma Ikcpcb.enqueue_mss (kcp : Ikcpcb) (segs : List IkcpSeg) :
    (kcp.enqueue segs).mss = kcp.mss := rfl

@[simp] lemma Ikcpcb.enqueue_stream (kcp : Ikcpcb) (segs : List IkcpSeg) :
    (kcp.enqueue segs).stream = kcp.stream := rfl

lemma Ikcpcb.enqueue_enqueue (kcp : Ikcpcb) (l l' : List IkcpSeg) :
    (kcp.enqueue l).enqueue l' = kcp.enqueue (l ++ l') := by
  simp [Ikcpcb.enqueue]

section Send

variable (alloc : ℕ → Bool) {C : Type} (copy : C → ℕ → Bytes × C)

/-- The loop over the fragments of a message.  The bytes come from a cursor; `i` counts
allocations and `n` the fragments that are left, so that the next one has `n - 1` after it. -/
def ikcpSendLoop (kcp : Ikcpcb) : ℕ → ℕ → C → ℕ → ℤ → ℤ × Ikcpcb
  | _, 0, _, _, sent => (sent, kcp)
  | i, n + 1, cursor, len, sent =>
      let size := if len > kcp.mss.toNat then kcp.mss.toNat else len
      if alloc i = false then (-2, kcp)
      else
        let r := copy cursor size
        ikcpSendLoop
          (kcp.enqueue [{ data := r.1, frg := if kcp.stream then 0 else UInt32.ofNat n }])
          (i + 1) n r.2 (len - size) (sent + size)
  termination_by structural _ n _ _ _ => n

/-- The number of fragments of a message of `len` bytes. -/
def ikcpCount (kcp : Ikcpcb) (len : ℕ) : ℕ :=
  if len ≤ kcp.mss.toNat then 1 else (len + kcp.mss.toNat - 1) / kcp.mss.toNat

/-- The part that `ikcp_send` and `ikcp_sendv` share, with the bytes behind a cursor: in stream mode
the last segment of the queue is filled up first, then the rest becomes fragments. -/
def ikcpSendFrom (kcp : Ikcpcb) (cursor : C) (len : ℕ) : ℤ × Ikcpcb :=
  let fragment (kcp : Ikcpcb) (i : ℕ) (cursor : C) (len sent : ℕ) : ℤ × Ikcpcb :=
    if ikcpCount kcp len ≥ ikcpWndRcv.toNat then
      (if kcp.stream ∧ sent > 0 then (sent : ℤ) else -2, kcp)
    else ikcpSendLoop alloc copy kcp i (ikcpCount kcp len) cursor len sent
  if kcp.stream then
    match kcp.sndQueue.getLast? with
    | some old =>
        if old.data.length < kcp.mss.toNat then
          let capacity := kcp.mss.toNat - old.data.length
          let extend := if len < capacity then len else capacity
          if alloc 0 = false then (-2, kcp)
          else
            let r := copy cursor extend
            let kcp := { kcp with
              sndQueue := kcp.sndQueue.dropLast ++ [{ data := old.data ++ r.1, frg := 0 }] }
            if len - extend = 0 then ((extend : ℤ), kcp)
            else fragment kcp 1 r.2 (len - extend) extend
        else if len = 0 then (0, kcp)
        else fragment kcp 0 cursor len 0
    | none => if len = 0 then (0, kcp) else fragment kcp 0 cursor len 0
  else fragment kcp 0 cursor len 0

end Send

/-- Bytes are copied from the front of a buffer. -/
def bufferCopy (buffer : Bytes) (size : ℕ) : Bytes × Bytes := (buffer.take size, buffer.drop size)

/-- `ikcp_send`. -/
def ikcpSend (alloc : ℕ → Bool) (kcp : Ikcpcb) (buffer : Bytes) : ℤ × Ikcpcb :=
  ikcpSendFrom alloc bufferCopy kcp buffer buffer.length

/-- The loop of `ikcp_iov_copy`: the bytes, and the fragments and the offset where the cursor stands
then.  The list has the fragment of the cursor first. -/
def ikcpIovCopyLoop : List Bytes → ℕ → ℕ → Bytes × (List Bytes × ℕ)
  | [], offset, _ => ([], ([], offset))
  | item :: rest, offset, len =>
      if len = 0 then ([], (item :: rest, offset))
      else
        let available := item.length - offset
        let take := if available < len then available else len
        let bytes := (item.drop offset).take take
        if offset + take = item.length then
          let r := ikcpIovCopyLoop rest 0 (len - take)
          (bytes ++ r.1, r.2)
        else (bytes, (item :: rest, offset + take))

/-- `ikcp_iov_copy`. -/
def ikcpIovCopy (cursor : List Bytes × ℕ) (len : ℕ) : Bytes × (List Bytes × ℕ) :=
  ikcpIovCopyLoop cursor.1 cursor.2 len

/-- `ikcp_sendv`. -/
def ikcpSendv (alloc : ℕ → Bool) (kcp : Ikcpcb) (iov : List Bytes) (firstOffset len : ℕ) :
    ℤ × Ikcpcb :=
  if len = 0 then ikcpSend alloc kcp []
  else
    match iov with
    | [] => (-1, kcp)
    | item :: _ =>
        if firstOffset > item.length then (-1, kcp)
        else if iov.flatten.length - firstOffset < len then (-1, kcp)
        else ikcpSendFrom alloc ikcpIovCopy kcp (iov, firstOffset) len

/-! ### Receiving -/

/-- The first message of a queue of segments: its segments up to the last fragment, and what
follows them. -/
def ikcpMessage : List IkcpSeg → List IkcpSeg × List IkcpSeg
  | [] => ([], [])
  | seg :: rest =>
      if seg.frg = 0 then ([seg], rest)
      else
        let r := ikcpMessage rest
        (seg :: r.1, r.2)

/-- The bytes of a list of segments. -/
def ikcpBytes (segs : List IkcpSeg) : Bytes := (segs.map IkcpSeg.data).flatten

/-- `ikcp_peeksize`. -/
def ikcpPeeksize (kcp : Ikcpcb) : ℤ :=
  match kcp.rcvQueue with
  | [] => -1
  | seg :: _ =>
      if seg.frg = 0 then seg.data.length
      else if kcp.rcvQueue.length < seg.frg.toNat + 1 then -1
      else (ikcpBytes (ikcpMessage kcp.rcvQueue).1).length

/-- What is in order moves from `rcv_buf` to `rcv_queue`, as far as there is room. -/
def ikcpMoveRcv (kcp : Ikcpcb) : List IkcpSeg → Ikcpcb
  | [] => { kcp with rcvBuf := [] }
  | seg :: rest =>
      if seg.sn = kcp.rcvNxt ∧ kcp.rcvQueue.length < kcp.rcvWnd.toNat then
        ikcpMoveRcv { kcp with rcvQueue := kcp.rcvQueue ++ [seg], rcvNxt := kcp.rcvNxt + 1 } rest
      else { kcp with rcvBuf := seg :: rest }
  termination_by structural l => l

/-- The peer is told when a queue that was full has room again. -/
def ikcpRecover (recover : Bool) (kcp : Ikcpcb) : Ikcpcb :=
  if kcp.rcvQueue.length < kcp.rcvWnd.toNat ∧ recover = true then
    { kcp with probe := kcp.probe ||| ikcpAskTell, reminds := ikcpRemindLimit }
  else kcp

/-- `ikcp_recv` with a buffer of `len` bytes: the result, the bytes, and the control block.  A
negative `len` peeks. -/
def ikcpRecv (kcp : Ikcpcb) (len : ℤ) : ℤ × Bytes × Ikcpcb :=
  if kcp.rcvQueue = [] then (-1, [], kcp)
  else
    let ispeek := decide (len < 0)
    let len := if len < 0 then -len else len
    let peeksize := ikcpPeeksize kcp
    if peeksize < 0 then (-2, [], kcp)
    else if peeksize > len then (-3, [], kcp)
    else
      let recover := decide (kcp.rcvQueue.length ≥ kcp.rcvWnd.toNat)
      let r := ikcpMessage kcp.rcvQueue
      let kcp := if ispeek then kcp else { kcp with rcvQueue := r.2 }
      ((ikcpBytes r.1).length, ikcpBytes r.1, ikcpRecover recover (ikcpMoveRcv kcp kcp.rcvBuf))

end KcpMux
