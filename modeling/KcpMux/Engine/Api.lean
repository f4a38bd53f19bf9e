import KcpMux.Protocol.Input

/-!
The entry points of an engine (`src/kcpmux_engine.c`), the calls a host can make, and the
runs they make up.

A call names live handles only: a handle is invalid once its close callback has returned,
and a rejected stream is not retained.  `Reachable` collects the engines between two calls.
-/

namespace KcpMux

variable {K : Type} (env : Env K)

/-! ### The main loop -/

/-- The timer callbacks. -/
def timeoutCallback (o : Owner) (nowMs : ℤ) (e : Engine K) : Engine K :=
  match o with
  | .conn c => connUpdate env e c nowMs
  | .stream s => streamUpdate env e s nowMs

/-- A due node is taken off the list and marked as running. -/
def engineDispatchBegin (e : Engine K) (o : Owner) : Engine K :=
  { e with
    timerManager := { e.timerManager with
      due := e.timerManager.due.erase o
      node := Function.update e.timerManager.node o
        { e.timerManager.node o with state := .running } }
    timerDispatchCount := e.timerDispatchCount + 1 }

/-- A node its callback has not rescheduled becomes idle. -/
def engineDispatchEnd (e : Engine K) (o : Owner) : Engine K :=
  if (e.timerManager.node o).state = .running then
    { e with timerManager :=
      e.timerManager.setNode o { e.timerManager.node o with state := .idle } }
  else e

/-- The dispatch loop of `kcpmux_engine_update`, over any timer callback. -/
def engineDispatchLoop (callback : Owner → ℤ → Engine K → Engine K) (nowMs : ℤ) :
    ℕ → Engine K → Engine K
  | 0, e => e
  | rounds + 1, e =>
      match e.timerManager.due with
      | [] => e
      | o :: _ =>
          let e := engineDispatchBegin e o
          let e := if (e.timerManager.node o).owner then callback o nowMs e else e
          engineDispatchLoop callback nowMs rounds (engineDispatchEnd e o)

/-- The start of `kcpmux_engine_update`: the armed one-shot is consumed and the due nodes
are collected. -/
def engineCollect (e : Engine K) : Engine K :=
  let now := engineNow env e
  let e := (e.log (.update now)).tock
  { e with externalTimerArmed := false, timerManager := timerCollectDue e.timerManager now }

/-- `kcpmux_engine_update`. -/
def engineUpdate (e : Engine K) : Engine K :=
  let now := engineNow env e
  let e := engineOperationEnter (engineCollect env e)
  engineOperationLeave env
    (engineDispatchLoop (timeoutCallback env) now e.timerManager.due.length e)

/-- `kcpmux_engine_input`. -/
def engineInput (e : Engine K) (datagram : Bytes) (peerAddr : Addr) : ℤ × Engine K :=
  if datagram = [] then (-errInvalidParam, e)
  else
    let e := engineOperationEnter e
    let e := { e with stats := { e.stats with
      rxPackets := e.stats.rxPackets + 1, rxBytes := e.stats.rxBytes + datagram.length } }
    let r := protocolInput env e.tock (Buf.of datagram) datagram.length peerAddr
      (engineNow env e)
    (r.1, engineOperationLeave env r.2)

/-- The loop of `kcpmux_engine_finish_batch`. -/
def engineFinishBatchLoop (now : ℤ) : ℕ → Engine K → Engine K
  | 0, e => e
  | rounds + 1, e =>
      match e.pendingBatchStreams with
      | [] => e
      | s :: rest =>
          engineFinishBatchLoop now rounds
            (streamFinishBatchAt env { e with pendingBatchStreams := rest } s now)

/-- `kcpmux_engine_finish_batch`. -/
def engineFinishBatch (e : Engine K) : Engine K :=
  let now := engineNow env e
  let e := engineOperationEnter e.tock
  engineOperationLeave env (engineFinishBatchLoop env now e.pendingBatchStreams.length e)

/-- A call of the host. -/
inductive Call where
  | update
  | input (datagram : Bytes) (peerAddr : Addr)
  | finishBatch
  | connConnect (peerAddr : Addr) (config : Option ConnConfig) (protoExt : Bytes)
      (callbacks : Option ConnCallbacks)
  | connClose (c : ℕ)
  | connSetConfig (c : ℕ) (config : ConnConfig)
  | connSetCallbacks (c : ℕ) (callbacks : Option ConnCallbacks)
  | streamCreate (c : ℕ) (config : Option StreamConfig) (callbacks : Option StreamCallbacks)
  | streamClose (s : ℕ)
  | streamSetConfig (s : ℕ) (config : StreamConfig)
  | streamSetCallbacks (s : ℕ) (callbacks : Option StreamCallbacks)
  | streamSend (s : ℕ) (buf : Bytes) (flush : Bool)
  | streamSendv (s : ℕ) (iov : List Bytes) (flush : Bool)
  | streamFinishBatch (s : ℕ)
  | streamPeekSize (s : ℕ)
  | streamRecv (s size : ℕ)

/-- What a call does. -/
def Call.exec (e : Engine K) : Call → Engine K
  | .update => engineUpdate env e
  | .input d addr => (engineInput env e d addr).2
  | .finishBatch => engineFinishBatch env e
  | .connConnect addr config ext callbacks => (KcpMux.connConnect env e addr config ext callbacks).2
  | .connClose c => KcpMux.connClose env e c
  | .connSetConfig c config => KcpMux.connSetConfig env e c config
  | .connSetCallbacks c callbacks => KcpMux.connSetCallbacks e c callbacks
  | .streamCreate c config callbacks => (KcpMux.streamCreate env e c config callbacks).2
  | .streamClose s => KcpMux.streamClose env e s
  | .streamSetConfig s config => KcpMux.streamSetConfig env e s config
  | .streamSetCallbacks s callbacks => KcpMux.streamSetCallbacks e s callbacks
  | .streamSend s buf flush => (KcpMux.streamSend env e s buf flush).2
  | .streamSendv s iov flush => (KcpMux.streamSendv env e s iov flush).2
  | .streamFinishBatch s => KcpMux.streamFinishBatch env e s
  | .streamPeekSize s => (KcpMux.streamPeekSize env e s).2
  | .streamRecv s size => (KcpMux.streamRecv env e s size).2.2

/-- The connection is live. -/
def Engine.LiveConn (e : Engine K) (c : ℕ) : Prop :=
  c < e.nconns ∧ (e.conns c).internalClosed = false

/-- The stream is live. -/
def Engine.LiveStream (e : Engine K) (s : ℕ) : Prop :=
  s < e.nstreams ∧ (e.streams s).internalClosed = false

/-- `stream_create_notify` refused the stream. -/
def Engine.RejectedStream (e : Engine K) (s : ℕ) : Prop :=
  ∃ r, r ≠ 0 ∧ .streamCreateNotify s r ∈ e.trace

/-- The host may use the stream's handle. -/
def Engine.UsableStream (e : Engine K) (s : ℕ) : Prop :=
  e.LiveStream s ∧ ¬ e.RejectedStream s

/-- The call names usable handles. -/
def Call.Valid (e : Engine K) : Call → Prop
  | .update | .input _ _ | .finishBatch | .connConnect _ _ _ _ => True
  | .connClose c | .connSetConfig c _ | .connSetCallbacks c _ | .streamCreate c _ _ =>
      e.LiveConn c
  | .streamClose s | .streamSetConfig s _ | .streamSetCallbacks s _ | .streamSend s _ _
  | .streamSendv s _ _ | .streamFinishBatch s | .streamPeekSize s | .streamRecv s _ =>
      e.UsableStream s

/-- The engines a host can hold: created, and taken through valid calls. -/
inductive Reachable : Engine K → Prop
  | create {connConfig : Option ConnConfig} {streamConfig : Option StreamConfig} {e : Engine K}
      (h : engineCreate env connConfig streamConfig = some e) : Reachable e
  | call {e : Engine K} (h : Reachable e) (op : Call) (hv : op.Valid e) : Reachable (op.exec env e)

/-! ### Several calls -/

/-- Calls, one after the other. -/
def execAll (env : Env K) : List Call → Engine K → Engine K
  | [], e => e
  | op :: ops, e => execAll env ops (op.exec env e)

/-- Each of the calls names usable handles when it is made. -/
def ValidAll (env : Env K) : List Call → Engine K → Prop
  | [], _ => True
  | op :: ops, e => op.Valid e ∧ ValidAll env ops (op.exec env e)

variable {env} in
lemma Reachable.execAll {ops : List Call} {e : Engine K} (h : Reachable env e)
    (hv : ValidAll env ops e) : Reachable env (execAll env ops e) := by
  induction ops generalizing e with
  | nil => exact h
  | cons op ops ih => exact ih (.call h op hv.1) hv.2

/-- The entry says that `stream_create_notify` refused the stream. -/
def Event.rejects (s : ℕ) : Event → Bool
  | .streamCreateNotify q r => q = s ∧ r ≠ 0
  | _ => false

instance (e : Engine K) (s : ℕ) : Decidable (e.RejectedStream s) :=
  decidable_of_iff (∃ ev ∈ e.trace, ev.rejects s = true) <| by
    constructor
    · rintro ⟨ev, hev, h⟩
      cases ev with
      | streamCreateNotify q r =>
          obtain ⟨rfl, hr⟩ : q = s ∧ r ≠ 0 := by simpa [Event.rejects] using h
          exact ⟨r, hr, hev⟩
      | _ => cases h
    · rintro ⟨r, hr, hev⟩
      exact ⟨_, hev, by simp [Event.rejects, hr]⟩

instance (e : Engine K) (c : ℕ) : Decidable (e.LiveConn c) :=
  inferInstanceAs (Decidable (_ ∧ _))

instance (e : Engine K) (s : ℕ) : Decidable (e.LiveStream s) :=
  inferInstanceAs (Decidable (_ ∧ _))

instance (e : Engine K) (s : ℕ) : Decidable (e.UsableStream s) :=
  inferInstanceAs (Decidable (_ ∧ _))

instance (e : Engine K) : (op : Call) → Decidable (op.Valid e)
  | .update | .input _ _ | .finishBatch | .connConnect _ _ _ _ => inferInstanceAs (Decidable True)
  | .connClose c | .connSetConfig c _ | .connSetCallbacks c _ | .streamCreate c _ _ =>
      inferInstanceAs (Decidable (e.LiveConn c))
  | .streamClose s | .streamSetConfig s _ | .streamSetCallbacks s _ | .streamSend s _ _
  | .streamSendv s _ _ | .streamFinishBatch s | .streamPeekSize s | .streamRecv s _ =>
      inferInstanceAs (Decidable (e.UsableStream s))

/-- Valid calls can be checked one by one. -/
def decideValidAll (env : Env K) :
    (ops : List Call) → (e : Engine K) → Decidable (ValidAll env ops e)
  | [], _ => inferInstanceAs (Decidable True)
  | op :: ops, e =>
      have := decideValidAll env ops (op.exec env e)
      inferInstanceAs (Decidable (_ ∧ _))

instance (env : Env K) (ops : List Call) (e : Engine K) : Decidable (ValidAll env ops e) :=
  decideValidAll env ops e

/-! ### A host -/

/-- A KCP that delivers nothing and keeps nothing. -/
def voidKcp : KcpOps Unit where
  create := fun _ _ => some ()
  setmss := fun _ k _ => k
  send := fun _ k _ => { ret := 0, kcp := k }
  input := fun _ k _ => { ret := 0, kcp := k }
  recv := fun _ k _ => { ret := -1, kcp := k }
  peeksize := fun _ _ => 0
  waitsnd := fun _ _ => 0
  update := fun _ k _ => { ret := 0, kcp := k }
  check := fun _ _ current => current + 10
  currentUpdate := fun _ k _ => { ret := 0, kcp := k }
  sendv := none

/-- A host on which every call succeeds and whose clock moves with every interaction; its
acceptance callbacks return `connResult` and `streamResult`. -/
def idealHost (connResult streamResult : ℤ) : Env Unit where
  hash32 := fun _ => 0
  monotonicTimeMs := fun t => t
  randomU64 := fun _ => 1
  writeSocketv := fun _ => true
  alloc := fun _ => true
  connConnectNotify := some fun _ => { result := connResult }
  streamCreateNotify := fun _ => { result := streamResult }
  kcp := voidKcp

/-- The same host with a KCP that puts out what it is given to send. -/
def relayHost : Env Unit :=
  { idealHost 0 0 with
    kcp := { voidKcp with send := fun _ k b => { ret := 0, kcp := k, output := [b] } } }

/-- The engine such a host starts with. -/
def idealEngine : Engine Unit :=
  { engineBlank connConfigInit streamConfigInit with nextConnectionId := 1, tick := 4 }

lemma idealEngine_create (connResult streamResult : ℤ) :
    engineCreate (idealHost connResult streamResult) none none = some idealEngine := by
  have hid : (1 : UInt64) &&& ((0xffffffffffffffff : UInt64) >>> 1) = 1 := by decide
  simp [engineCreate, idealHost, idealEngine, hid]

lemma idealEngine_create_relay : engineCreate relayHost none none = some idealEngine := by
  rw [← idealEngine_create 0 0]
  rfl

lemma idealEngine_reachable (connResult streamResult : ℤ) :
    Reachable (idealHost connResult streamResult) idealEngine :=
  .create (idealEngine_create connResult streamResult)

/-- A `CONN_CONNECT` of the id 7 without an extension. -/
def plainConnect : Bytes :=
  [0x81, 0, 0, 0, 0, 0, 0, 0, 0, 0, 0, 0, 0, 0, 0, 0, 7, version, 0, 0]

/-- A `CONN_CLOSE` to the id `dest`. -/
def plainConnClose (dest : UInt8) : Bytes := [0x84, 0, 0, 0, 0, 0, 0, 0, dest, 0]

/-- A `STREAM_PAYLOAD` of one byte to the id `dest` for the stream `id`. -/
def plainPayload (dest id b : UInt8) : Bytes := [0xa1, 0, 0, 0, 0, 0, 0, 0, dest, 0, 0, 0, id, b]

/-- An engine that has accepted a connection. -/
def accepted : Engine Unit := (Call.input plainConnect [10]).exec (idealHost 0 0) idealEngine

lemma accepted_reachable : Reachable (idealHost 0 0) accepted :=
  .call (idealEngine_reachable 0 0) (.input plainConnect [10]) trivial

/-- The host of the connection takes streams from the peer. -/
def offering : Engine Unit :=
  (Call.connSetCallbacks 0 (some { streamCreateNotify := true })).exec (idealHost 0 0) accepted

lemma offering_reachable : Reachable (idealHost 0 0) offering :=
  .call accepted_reachable (.connSetCallbacks 0 _) ⟨by decide +kernel, by decide +kernel⟩

/-- The host has opened a stream on the connection. -/
def streaming : Engine Unit := (Call.streamCreate 0 none none).exec (idealHost 0 0) accepted

lemma streaming_reachable : Reachable (idealHost 0 0) streaming :=
  .call accepted_reachable (.streamCreate 0 none none) ⟨by decide +kernel, by decide +kernel⟩

/-- The host calls a peer and gives up.  It accepts two connections: the peer of the first one
closes it, and the second one has a stream of its own, a stream of the peer and a stream that has
been closed. -/
def busyCalls : List Call :=
  [.connConnect [11] none [] none, .input plainConnect [12], .input plainConnect [10],
    .connSetCallbacks 2 (some { streamCreateNotify := true, connStateChanged := true }),
    .input (plainConnClose 2) [12], .streamCreate 2 none none, .input (plainPayload 3 1 7) [10],
    .streamCreate 2 none none, .streamClose 0, .connClose 0]

def busy : Engine Unit := execAll (idealHost 0 0) busyCalls idealEngine

lemma busy_reachable : Reachable (idealHost 0 0) busy :=
  (idealEngine_reachable 0 0).execAll (by decide +kernel)

end KcpMux
