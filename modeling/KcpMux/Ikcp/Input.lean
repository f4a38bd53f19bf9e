import KcpMux.Ikcp.Core

/-!
What the default KCP does with a datagram (`third_party/kcp/ikcp.c`): acknowledgements, data, window
probes, and the loop of `ikcp_input` over the segments of the datagram.

A segment that cannot be allocated ends the program (`assert`), so every allocation here succeeds.
-/

namespace KcpMux

/-! ### Acknowledgements -/

/-- A value of the type `IINT32`. -/
def iint32 (x : ℤ) : ℤ := x.bmod (2 ^ 32)

/-- `ikcp_update_ack`: the round trip time and the retransmission timeout.  The arithmetic is that
of `IINT32`, where `delta` is a `long`. -/
def ikcpUpdateAck (kcp : Ikcpcb) (rtt : ℤ) : Ikcpcb :=
  let kcp :=
    if kcp.rxSrtt = 0 then { kcp with rxSrtt := rtt, rxRttval := rtt.tdiv 2 }
    else
      let delta := iint32 (rtt - kcp.rxSrtt)
      let delta := if delta < 0 then -delta else delta
      let rttval :=
        if rtt < iint32 (kcp.rxSrtt - kcp.rxRttval) then
          iint32 ((iint32 (31 * kcp.rxRttval) + delta).tdiv 32)
        else iint32 ((iint32 (3 * kcp.rxRttval) + delta).tdiv 4)
      let srtt := (iint32 (iint32 (7 * kcp.rxSrtt) + rtt)).tdiv 8
      { kcp with rxRttval := rttval, rxSrtt := if srtt < 1 then 1 else srtt }
  let rto := UInt32.ofInt kcp.rxSrtt +
    imax (UInt32.ofInt kcp.interval + ikcpRtoGRed) (UInt32.ofInt (4 * kcp.rxRttval))
  { kcp with rxRto := ibound kcp.rxMinrto rto ikcpRtoMax }

/-- `ikcp_shrink_buf`. -/
def ikcpShrinkBuf (kcp : Ikcpcb) : Ikcpcb :=
  match kcp.sndBuf with
  | seg :: _ => { kcp with sndUna := seg.sn }
  | [] => { kcp with sndUna := kcp.sndNxt }

/-- The loop of `ikcp_parse_ack`. -/
def ikcpParseAckLoop (sn : UInt32) : List IkcpSeg → List IkcpSeg
  | [] => []
  | seg :: rest =>
      if sn = seg.sn then rest
      else if itimediff sn seg.sn < 0 then seg :: rest
      else seg :: ikcpParseAckLoop sn rest

/-- `ikcp_parse_ack`. -/
def ikcpParseAck (kcp : Ikcpcb) (sn : UInt32) : Ikcpcb :=
  if itimediff sn kcp.sndUna < 0 ∨ itimediff sn kcp.sndNxt ≥ 0 then kcp
  else { kcp with sndBuf := ikcpParseAckLoop sn kcp.sndBuf }

/-- `ikcp_parse_una`. -/
def ikcpParseUna (kcp : Ikcpcb) (una : UInt32) : Ikcpcb :=
  { kcp with sndBuf := kcp.sndBuf.dropWhile fun seg => decide (itimediff una seg.sn > 0) }

/-- The loop of `ikcp_parse_fastack`. -/
def ikcpParseFastackLoop (sn ts : UInt32) : List IkcpSeg → List IkcpSeg
  | [] => []
  | seg :: rest =>
      if itimediff sn seg.sn < 0 then seg :: rest
      else if sn ≠ seg.sn then
        (if itimediff ts seg.ts ≥ 0 then { seg with fastack := seg.fastack + 1 } else seg) ::
          ikcpParseFastackLoop sn ts rest
      else seg :: ikcpParseFastackLoop sn ts rest

/-- `ikcp_parse_fastack`. -/
def ikcpParseFastack (kcp : Ikcpcb) (sn ts : UInt32) : Ikcpcb :=
  if itimediff sn kcp.sndUna < 0 ∨ itimediff sn kcp.sndNxt ≥ 0 then kcp
  else { kcp with sndBuf := ikcpParseFastackLoop sn ts kcp.sndBuf }

/-- `ikcp_ack_push`. -/
def ikcpAckPush (kcp : Ikcpcb) (sn ts : UInt32) : Ikcpcb :=
  { kcp with acklist := kcp.acklist ++ [(sn, ts)] }

/-! ### Data -/

/-- The place of a new segment in `rcv_buf`, which the source looks for from the end: the list has
the last segment first.  A repeated segment has no place. -/
def ikcpInsert (newseg : IkcpSeg) : List IkcpSeg → Option (List IkcpSeg)
  | [] => some [newseg]
  | seg :: rest =>
      if seg.sn = newseg.sn then none
      else if itimediff newseg.sn seg.sn > 0 then some (newseg :: seg :: rest)
      else (ikcpInsert newseg rest).map (seg :: ·)

/-- `rcv_buf` with a new segment, or as it was when the segment is a repeated one. -/
def ikcpPlace (newseg : IkcpSeg) (rcvBuf : List IkcpSeg) : List IkcpSeg :=
  match ikcpInsert newseg rcvBuf.reverse with
  | some l => l.reverse
  | none => rcvBuf

/-- `ikcp_parse_data`. -/
def ikcpParseData (kcp : Ikcpcb) (newseg : IkcpSeg) : Ikcpcb :=
  if itimediff newseg.sn (kcp.rcvNxt + kcp.rcvWnd) ≥ 0 ∨ itimediff newseg.sn kcp.rcvNxt < 0 then kcp
  else ikcpMoveRcv kcp (ikcpPlace newseg kcp.rcvBuf)

/-! ### Datagrams -/

/-- The largest acknowledged number of a datagram and its time: `flag`, `maxack`, `latest_ts`. -/
abbrev IkcpMaxAck := Option (UInt32 × UInt32)

/-- An acknowledgement moves the largest one up. -/
def IkcpMaxAck.next (m : IkcpMaxAck) (sn ts : UInt32) : IkcpMaxAck :=
  match m with
  | none => some (sn, ts)
  | some (maxack, latestTs) =>
      if itimediff sn maxack > 0 ∧ itimediff ts latestTs > 0 then some (sn, ts)
      else some (maxack, latestTs)

/-- The segment that `ikcp_input` makes of a header and the bytes after it. -/
def IkcpHeader.segment (h : IkcpHeader) (data : Bytes) : IkcpSeg :=
  { conv := h.conv, cmd := h.cmd.toUInt32, frg := h.frg.toUInt32, wnd := h.wnd.toUInt32
    ts := h.ts, sn := h.sn, una := h.una, data := data }

/-- `IKCP_CMD_ACK`. -/
def ikcpInputAck (kcp : Ikcpcb) (current : ℤ) (h : IkcpHeader) : Ikcpcb :=
  let kcp :=
    if itimediff (UInt32.ofInt current) h.ts ≥ 0 then
      ikcpUpdateAck kcp (itimediff (UInt32.ofInt current) h.ts)
    else kcp
  ikcpShrinkBuf (ikcpParseAck kcp h.sn)

/-- `IKCP_CMD_PUSH`. -/
def ikcpInputPush (kcp : Ikcpcb) (h : IkcpHeader) (data : Bytes) : Ikcpcb :=
  if itimediff h.sn (kcp.rcvNxt + kcp.rcvWnd) < 0 then
    let kcp := ikcpAckPush kcp h.sn h.ts
    if itimediff h.sn kcp.rcvNxt ≥ 0 then
      { ikcpParseData kcp (h.segment data) with reminds := ikcpRemindLimit }
    else kcp
  else kcp

/-- What `ikcp_input` does with a segment that passes its checks. -/
def ikcpInputSeg (kcp : Ikcpcb) (current : ℤ) (h : IkcpHeader) (data : Bytes) : Ikcpcb :=
  let kcp := ikcpShrinkBuf (ikcpParseUna { kcp with rmtWnd := h.wnd.toUInt32 } h.una)
  if h.cmd.toUInt32 = ikcpCmdAck then ikcpInputAck kcp current h
  else if h.cmd.toUInt32 = ikcpCmdPush then ikcpInputPush kcp h data
  else if h.cmd.toUInt32 = ikcpCmdWask then
    { kcp with probe := kcp.probe ||| ikcpAskTell, reminds := ikcpRemindLimit }
  else kcp

/-- The command is known. -/
def IkcpHeader.Known (h : IkcpHeader) : Prop :=
  h.cmd.toUInt32 = ikcpCmdPush ∨ h.cmd.toUInt32 = ikcpCmdAck ∨ h.cmd.toUInt32 = ikcpCmdWask ∨
    h.cmd.toUInt32 = ikcpCmdWins

instance (h : IkcpHeader) : Decidable h.Known := inferInstanceAs (Decidable (_ ∨ _))

/-- The loop of `ikcp_input`: the error that ended it, if one did, the largest acknowledgement, and
the control block.  Every round but the last takes the bytes of a header at least. -/
def ikcpInputLoop (current : ℤ) : ℕ → Ikcpcb → IkcpMaxAck → Bytes → Option ℤ × IkcpMaxAck × Ikcpcb
  | 0, kcp, m, _ => (none, m, kcp)
  | rounds + 1, kcp, m, data =>
      if data.length < ikcpOverhead then (none, m, kcp)
      else
        let r := ikcpDecodeSeg data
        if r.1.conv ≠ kcp.conv then (some (-1), m, kcp)
        else if r.2.length < r.1.len.toNat ∨ r.1.len.toNat ≥ 2 ^ 31 then (some (-2), m, kcp)
        else if ¬ r.1.Known then (some (-3), m, kcp)
        else
          ikcpInputLoop current rounds
            (ikcpInputSeg kcp current r.1 (r.2.take r.1.len.toNat))
            (if r.1.cmd.toUInt32 = ikcpCmdAck then m.next r.1.sn r.1.ts else m)
            (r.2.drop r.1.len.toNat)

/-- The congestion window grows when something new is acknowledged. -/
def ikcpGrow (kcp : Ikcpcb) (prevUna : UInt32) : Ikcpcb :=
  if itimediff kcp.sndUna prevUna > 0 ∧ kcp.cwnd < kcp.rmtWnd then
    let mss := kcp.mss
    let kcp : Ikcpcb :=
      if kcp.cwnd < kcp.ssthresh then { kcp with cwnd := kcp.cwnd + 1, incr := kcp.incr + mss }
      else
        let incr := if kcp.incr < mss then mss else kcp.incr
        let incr := incr + ((mss * mss) / incr + (mss / 16))
        { kcp with
          incr := incr
          cwnd :=
            if (kcp.cwnd + 1) * mss ≤ incr then (incr + mss - 1) / (if mss > 0 then mss else 1)
            else kcp.cwnd }
    if kcp.cwnd > kcp.rmtWnd then { kcp with cwnd := kcp.rmtWnd, incr := kcp.rmtWnd * mss } else kcp
  else kcp

/-- `ikcp_input`. -/
def ikcpInput (kcp : Ikcpcb) (data : Bytes) : ℤ × Ikcpcb :=
  if data.length < ikcpOverhead then (-1, kcp)
  else
    let r := ikcpInputLoop kcp.tsCurrent data.length kcp none data
    match r.1 with
    | some ret => (ret, r.2.2)
    | none =>
        let fast := match r.2.1 with
          | some (maxack, latestTs) => ikcpParseFastack r.2.2 maxack latestTs
          | none => r.2.2
        (0, ikcpGrow fast kcp.sndUna)

end KcpMux
