import KcpMux.Protocol.Send

/-!
The calls of a stream into its KCP instance, and the instance's calls back into
`__kcp_output` (`src/kcpmux_stream.c`).

An operation that may advance the instance hands its datagrams to the output callback
before it returns.  A call on a stream without an instance is logged as well; the results
below show that there is none.
-/

namespace KcpMux

variable {K : Type} (env : Env K)

/-- `kcpmux_stream_kcp_active`. -/
def streamKcpActive (x : Stream K) : Bool :=
  x.state == .opened || (x.state == .closing && x.closePhase == .localDrain)

/-- `__kcp_output`, without the status that only the KCP instance sees. -/
def kcpOutput (s : ℕ) (e : Engine K) (buf : Bytes) : Engine K :=
  let x := e.streams s
  if x.internalClosed = true ∨ streamKcpActive x = false ∨ (e.connOf s).internalClosed = true ∨
      (e.connOf s).state ≠ .connected then e
  else
    let r := protocolSendStreamPayload env e s buf
    let e := r.2
    if r.1 = 0 then
      let x := e.streams s
      e.setStream s { x with stats := { x.stats with
        txPackets := x.stats.txPackets + 1, txBytes := x.stats.txBytes + buf.length } }
    else e

/-- The KCP instance of a stream calls its output function. -/
def kcpEmit (s : ℕ) (e : Engine K) (buf : Bytes) : Engine K :=
  kcpOutput env s (e.log (.kcpOutput s buf)) buf

/-- An operation on the KCP instance of a stream that may advance it. -/
def kcpRun (e : Engine K) (s : ℕ) (op : ℕ → K → KcpOut K) (call : ℤ → KcpCall) :
    KcpOut Unit × Engine K :=
  match (e.streams s).kcp with
  | none => (⟨0, (), [], []⟩, (e.log (.kcp s (call 0))).tock)
  | some kcp =>
      let r := op e.tick kcp
      let e := (e.log (.kcp s (call r.ret))).tock
      let e := e.setStream s { e.streams s with kcp := some r.kcp }
      (⟨r.ret, (), r.data, r.output⟩, r.output.foldl (kcpEmit env s) e)

/-- A query of the KCP instance of a stream. -/
def kcpAsk (e : Engine K) (s : ℕ) (op : ℕ → K → ℤ) (call : ℤ → KcpCall) : ℤ × Engine K :=
  let ret := match (e.streams s).kcp with
    | none => 0
    | some kcp => op e.tick kcp
  (ret, (e.log (.kcp s (call ret))).tock)

/-- `ops->send`. -/
def kcpSend (e : Engine K) (s : ℕ) (buf : Bytes) : ℤ × Engine K :=
  let r := kcpRun env e s (fun t k => env.kcp.send t k buf) (.send buf)
  (r.1.ret, r.2)

/-- `ops->sendv`. -/
def kcpSendv (sendv : ℕ → K → List Bytes → ℕ → ℕ → KcpOut K) (e : Engine K) (s : ℕ)
    (iov : List Bytes) (firstOffset len : ℕ) : ℤ × Engine K :=
  let r := kcpRun env e s (fun t k => sendv t k iov firstOffset len) (.sendv iov firstOffset len)
  (r.1.ret, r.2)

/-- `ops->input`. -/
def kcpInput (e : Engine K) (s : ℕ) (data : Bytes) : ℤ × Engine K :=
  let r := kcpRun env e s (fun t k => env.kcp.input t k data) (.input data)
  (r.1.ret, r.2)

/-- `ops->recv`: the result, the bytes received, and the engine. -/
def kcpRecv (e : Engine K) (s : ℕ) (len : ℤ) : ℤ × Bytes × Engine K :=
  let r := kcpRun env e s (fun t k => env.kcp.recv t k len) (.recv len)
  (r.1.ret, r.1.data, r.2)

/-- `ops->update`. -/
def kcpUpdate (e : Engine K) (s : ℕ) (current : ℤ) : Engine K :=
  (kcpRun env e s (fun t k => env.kcp.update t k current) (fun _ => .update current)).2

/-- `ops->current_update`. -/
def kcpCurrentUpdate (e : Engine K) (s : ℕ) (current : ℤ) : Engine K :=
  (kcpRun env e s (fun t k => env.kcp.currentUpdate t k current)
    (fun _ => .currentUpdate current)).2

/-- `ops->peeksize`. -/
def kcpPeeksize (e : Engine K) (s : ℕ) : ℤ × Engine K := kcpAsk e s env.kcp.peeksize .peeksize

/-- `ops->waitsnd`. -/
def kcpWaitsnd (e : Engine K) (s : ℕ) : ℤ × Engine K := kcpAsk e s env.kcp.waitsnd .waitsnd

/-- `ops->check`. -/
def kcpCheck (e : Engine K) (s : ℕ) (current : ℤ) : ℤ × Engine K :=
  kcpAsk e s (fun t k => env.kcp.check t k current) (.check current)

end KcpMux
