import KcpMux.Ikcp.Input

/-!
What the default KCP puts out (`third_party/kcp/ikcp.c`): `ikcp_update`, which sends
acknowledgements, window probes and data, and `ikcp_check`, which says when to call it next.

`ok i` is the result of the `i`-th output of a call, where it is looked at: when the buffer is full
in the loop over the data segments.
-/

namespace KcpMux

/-! ### The buffer -/

/-- The datagrams a call has put out so far, and the buffer. -/
structure IkcpFlush where
  out : List Bytes := []
  buffer : Bytes := []
  deriving DecidableEq, Repr

/-- `ikcp_output` of the buffer. -/
def IkcpFlush.output (f : IkcpFlush) : IkcpFlush :=
  if f.buffer = [] then f else { f with out := f.out ++ [f.buffer] }

/-- The buffer is put out when there is no room for `need` more bytes. -/
def IkcpFlush.makeRoom (f : IkcpFlush) (mtu : UInt32) (need : ℕ) : IkcpFlush :=
  if f.buffer.length + need > mtu.toNat then { f.output with buffer := [] } else f

/-- A header is appended to the buffer. -/
def IkcpFlush.put (f : IkcpFlush) (seg : IkcpSeg) : IkcpFlush :=
  { f with buffer := f.buffer ++ ikcpEncodeSeg seg }

/-! ### Acknowledgements and probes -/

/-- The later of two acknowledgements. -/
def ikcpLaterAck (best : Option (UInt32 × UInt32)) (ack : UInt32 × UInt32) : UInt32 × UInt32 :=
  match best with
  | none => ack
  | some b => if itimediff ack.1 b.1 > 0 then ack else b

/-- The largest acknowledgement below `una`, which is kept for the round trip time. -/
def ikcpRttAck (una : UInt32) (acks : List (UInt32 × UInt32)) : Option (UInt32 × UInt32) :=
  acks.foldl (fun best ack =>
    if itimediff ack.1 una < 0 then some (ikcpLaterAck best ack) else best) none

/-- The acknowledgements: first the one for the round trip time, then those of segments that came
out of order.  `seg` is the header they are written with, which keeps the last number and time. -/
def ikcpFlushAcks (kcp : Ikcpcb) (seg : IkcpSeg) : IkcpSeg × IkcpFlush :=
  let first : IkcpSeg × IkcpFlush :=
    match ikcpRttAck kcp.rcvNxt kcp.acklist with
    | some ack =>
        let seg := { seg with sn := ack.1, ts := ack.2 }
        (seg, ({} : IkcpFlush).put seg)
    | none => (seg, {})
  kcp.acklist.foldl (fun r ack =>
    if itimediff ack.1 kcp.rcvNxt ≥ 0 then
      let f := r.2.makeRoom kcp.mtu ikcpOverhead
      let seg := { r.1 with sn := ack.1, ts := ack.2 }
      (seg, f.put seg)
    else r) first

/-- The window of the peer is probed when it is closed. -/
def ikcpProbeWindow (kcp : Ikcpcb) (current : ℤ) : Ikcpcb :=
  if kcp.rmtWnd = 0 then
    if kcp.probeWait = 0 then
      { kcp with probeWait := ikcpProbeInit, tsProbe := current + ikcpProbeInit }
    else if itime64diff current kcp.tsProbe ≥ 0 then
      let wait := if kcp.probeWait < ikcpProbeInit then ikcpProbeInit else kcp.probeWait
      let wait := wait + wait.tdiv 2
      let wait := if wait > ikcpProbeLimit then ikcpProbeLimit else wait
      { kcp with probeWait := wait, tsProbe := current + wait, probe := kcp.probe ||| ikcpAskSend }
    else kcp
  else { kcp with tsProbe := 0, probeWait := 0 }

/-- A probe or its answer, if `mask` asks for it. -/
def ikcpFlushProbe (kcp : Ikcpcb) (mask cmd : UInt32) (r : IkcpSeg × IkcpFlush) :
    IkcpSeg × IkcpFlush :=
  if kcp.probe &&& mask ≠ 0 then
    let seg := { r.1 with cmd := cmd }
    (seg, (r.2.makeRoom kcp.mtu ikcpOverhead).put seg)
  else r

/-! ### Data -/

/-- A segment with the next number, before its first transmission. -/
def Ikcpcb.numbered (kcp : Ikcpcb) (wnd : UInt32) (current : ℤ) (seg : IkcpSeg) : IkcpSeg :=
  { seg with
    conv := kcp.conv, cmd := ikcpCmdPush, wnd := wnd, ts := UInt32.ofInt current
    sn := kcp.sndNxt, una := kcp.rcvNxt, resendts := current, rto := kcp.rxRto
    fastack := 0, xmit := 0 }

/-- A segment is appended to `snd_buf` under the next number. -/
def Ikcpcb.number (kcp : Ikcpcb) (wnd : UInt32) (current : ℤ) (seg : IkcpSeg) : Ikcpcb :=
  { kcp with
    sndBuf := kcp.sndBuf ++ [kcp.numbered wnd current seg]
    sndNxt := kcp.sndNxt + 1 }

/-- Segments move from `snd_queue` to `snd_buf` as far as the window allows, and get their
numbers. -/
def ikcpMoveSnd (wnd cwnd : UInt32) (current : ℤ) (kcp : Ikcpcb) : List IkcpSeg → Ikcpcb
  | [] => { kcp with sndQueue := [] }
  | seg :: rest =>
      if itimediff kcp.sndNxt (kcp.sndUna + cwnd) < 0 then
        ikcpMoveSnd wnd cwnd current (kcp.number wnd current seg) rest
      else { kcp with sndQueue := seg :: rest }
  termination_by structural l => l

/-- Why a segment is sent: for the first time, after its timeout, or because later ones have been
acknowledged. -/
inductive IkcpSending where
  | none
  | first
  | timeout
  | fast
  deriving DecidableEq, Repr

/-- Whether a segment is to be sent now. -/
def ikcpSending (kcp : Ikcpcb) (current : ℤ) (resent : UInt32) (seg : IkcpSeg) : IkcpSending :=
  if seg.xmit = 0 then .first
  else if itime64diff current seg.resendts ≥ 0 then .timeout
  else if seg.fastack ≥ resent then
    if seg.xmit.toInt32.toInt ≤ kcp.fastlimit ∨ kcp.fastlimit ≤ 0 then .fast else .none
  else .none

/-- The record of a segment that is sent. -/
def ikcpSent (kcp : Ikcpcb) (current : ℤ) (rtomin : UInt32) (seg : IkcpSeg) : IkcpSending → IkcpSeg
  | .none => seg
  | .first =>
      { seg with
        xmit := seg.xmit + 1, rto := kcp.rxRto
        resendts := current + kcp.rxRto.toNat + rtomin.toNat }
  | .timeout =>
      let rto :=
        if kcp.nodelay = 0 then seg.rto + imax seg.rto kcp.rxRto
        else
          let step := if kcp.nodelay < 2 then seg.rto.toInt32.toInt else (kcp.rxRto.toNat : ℤ)
          seg.rto + UInt32.ofInt (step.tdiv 2)
      { seg with xmit := seg.xmit + 1, rto := rto, resendts := current + rto.toNat }
  | .fast => { seg with xmit := seg.xmit + 1, fastack := 0, resendts := current + seg.rto.toNat }

/-- The fields of a segment that are filled in whenever it is sent. -/
def ikcpStamp (kcp : Ikcpcb) (wnd : UInt32) (current : ℤ) (seg : IkcpSeg) : IkcpSeg :=
  { seg with ts := UInt32.ofInt current, wnd := wnd, una := kcp.rcvNxt }

/-- What the loop over the data segments has come to. -/
structure IkcpSendState where
  flush : IkcpFlush
  change : Bool := false
  lost : Bool := false
  xmit : UInt32
  state : UInt32
  deriving DecidableEq, Repr

/-- The counters of a segment that is sent. -/
def IkcpSendState.note (st : IkcpSendState) : IkcpSending → IkcpSendState
  | .timeout => { st with xmit := st.xmit + 1, lost := true }
  | .fast => { st with change := true }
  | _ => st

/-- The loop over the data segments.  It ends early when an output fails; the buffer is then still
full. -/
def ikcpFlushData (ok : ℕ → Bool) (kcp : Ikcpcb) (wnd : UInt32) (current : ℤ)
    (resent rtomin : UInt32) : List IkcpSeg → IkcpSendState → List IkcpSeg × IkcpSendState
  | [], st => ([], st)
  | seg :: rest, st =>
      let sending := ikcpSending kcp current resent seg
      if sending = .none then
        let r := ikcpFlushData ok kcp wnd current resent rtomin rest st
        (seg :: r.1, r.2)
      else
        let seg := ikcpStamp kcp wnd current (ikcpSent kcp current rtomin seg sending)
        let st := st.note sending
        let need := ikcpOverhead + seg.data.length
        if st.flush.buffer.length + need > kcp.mtu.toNat ∧ st.flush.buffer ≠ [] ∧
            ok st.flush.out.length = false then
          (seg :: rest, { st with flush := st.flush.output })
        else
          let f := (st.flush.makeRoom kcp.mtu need).put seg
          let st := { st with
            flush := { f with buffer := f.buffer ++ seg.data }
            state := if seg.xmit ≥ kcp.deadLink then 0xffffffff else st.state }
          let r := ikcpFlushData ok kcp wnd current resent rtomin rest st
          (seg :: r.1, r.2)

/-- The congestion window after the data: a fast retransmission and a timeout lower the threshold,
a timeout the window as well. -/
def ikcpShrinkCwnd (kcp : Ikcpcb) (cwnd : UInt32) (change lost : Bool) : Ikcpcb :=
  let kcp :=
    if change then
      let half := (kcp.sndNxt - kcp.sndUna) / 2
      { kcp with ssthresh := if half < ikcpThreshMin then ikcpThreshMin else half }
    else kcp
  let kcp :=
    if lost then
      let half := cwnd / 2
      let kcp := { kcp with ssthresh := if half < ikcpThreshMin then ikcpThreshMin else half }
      if kcp.cwnd > ikcpCwndLow then
        { kcp with cwnd := kcp.cwnd - kcp.cwnd / 8, incr := (kcp.cwnd - kcp.cwnd / 8) * kcp.mss }
      else kcp
    else kcp
  if kcp.cwnd < ikcpCwndMin then { kcp with cwnd := ikcpCwndMin, incr := ikcpCwndMin * kcp.mss }
  else kcp

/-! ### `ikcp_update` -/

/-- Times and acknowledgements: the first part of `ikcp_update`, up to the fast path. -/
def ikcpUpdateHead (kcp : Ikcpcb) (current : ℤ) : Ikcpcb × IkcpSeg × IkcpFlush :=
  let kcp := { kcp with updated := true, tsCurrent := current, tsFlush := current + kcp.interval }
  let seg : IkcpSeg :=
    { conv := kcp.conv, cmd := ikcpCmdAck, frg := 0, wnd := ikcpWndUnused kcp, una := kcp.rcvNxt }
  let r := ikcpFlushAcks kcp seg
  let kcp := ikcpProbeWindow { kcp with acklist := [] } current
  let r := ikcpFlushProbe kcp ikcpAskSend ikcpCmdWask r
  let r := ikcpFlushProbe kcp ikcpAskTell ikcpCmdWins r
  ({ kcp with probe := 0 }, r)

/-- The fast path of `ikcp_update`: there is no data, and the peer is reminded of the window a few
times. -/
def ikcpUpdateIdle (kcp : Ikcpcb) (seg : IkcpSeg) (f : IkcpFlush) : Ikcpcb × List Bytes :=
  let f' :=
    if kcp.reminds > 0 ∧ f.buffer = [] then f.put { seg with cmd := ikcpCmdWins } else f
  let kcp := if kcp.reminds > 0 then { kcp with reminds := kcp.reminds - 1 } else kcp
  (kcp, f'.output.out)

/-- The rest of `ikcp_update`: there is data to send or to wait for. -/
def ikcpUpdateData (ok : ℕ → Bool) (kcp : Ikcpcb) (current : ℤ) (seg : IkcpSeg) (f : IkcpFlush) :
    Ikcpcb × List Bytes :=
  let kcp :=
    if kcp.cwnd < 1 then { kcp with cwnd := ikcpCwndInit, incr := ikcpCwndInit * kcp.mss } else kcp
  let cwnd := imin kcp.sndWnd kcp.rmtWnd
  let cwnd := if kcp.nocwnd then cwnd else imin kcp.cwnd cwnd
  let kcp := ikcpMoveSnd seg.wnd cwnd current kcp kcp.sndQueue
  let resent := if kcp.fastresend > 0 then UInt32.ofInt kcp.fastresend else 0xffffffff
  let rtomin := if kcp.nodelay = 0 then kcp.rxRto >>> 3 else 0
  let r := ikcpFlushData ok kcp seg.wnd current resent rtomin kcp.sndBuf
    { flush := f, xmit := kcp.xmit, state := kcp.state }
  let kcp := { kcp with sndBuf := r.1, xmit := r.2.xmit, state := r.2.state }
  (ikcpShrinkCwnd kcp cwnd r.2.change r.2.lost, r.2.flush.output.out)

/-- `ikcp_update`: the control block, and the datagrams it has put out. -/
def ikcpUpdate (ok : ℕ → Bool) (kcp : Ikcpcb) (current : ℤ) : Ikcpcb × List Bytes :=
  let r := ikcpUpdateHead kcp current
  if ikcpWaitsnd r.1 = 0 then ikcpUpdateIdle r.1 r.2.1 r.2.2
  else ikcpUpdateData ok r.1 current r.2.1 r.2.2

/-! ### `ikcp_check` -/

/-- The loop of `ikcp_check`: the time to the next transmission of a segment, or nothing when one is
due. -/
def ikcpCheckLoop (kcp : Ikcpcb) (current : ℤ) : List IkcpSeg → ℤ → Option ℤ
  | [], tmPacket => some tmPacket
  | seg :: rest, tmPacket =>
      let diff := if seg.xmit = 0 then kcp.interval else itime64diff seg.resendts current
      if diff ≤ 0 then none
      else ikcpCheckLoop kcp current rest (if diff < tmPacket then diff else tmPacket)

/-- `ikcp_check`. -/
def ikcpCheck (kcp : Ikcpcb) (current : ℤ) : ℤ :=
  if kcp.updated = false then current
  else
    let tsFlush :=
      if itime64diff current kcp.tsFlush ≥ 10000 ∨ itime64diff current kcp.tsFlush < -10000 then
        current
      else kcp.tsFlush
    if itime64diff current tsFlush ≥ 0 then current
    else
      let tmFlush := itime64diff tsFlush current
      match ikcpCheckLoop kcp current kcp.sndBuf 0x7fffffff with
      | none => current
      | some tmPacket =>
          let minimal := if tmPacket < tmFlush then tmPacket else tmFlush
          current + if minimal ≥ kcp.interval then kcp.interval else minimal

end KcpMux
