import KcpMux.Runs.Timer

/-!
The calls into the KCP instance as steps, and the frame they leave.

`Calm e e'` says that no life cycle moves: connections are as before, and streams differ at
most in their KCP instance, their counters and their flow control.  `Still` is a chain of
steps that is calm.
-/

namespace KcpMux

variable {K : Type} {env : Env K} {op : Call} {e e' e'' : Engine K}

/-! ### Calm steps -/

/-- A stream without its KCP instance, its counters and its flow control. -/
def Stream.core (x : Stream K) : Stream K :=
  { x with
    kcp := none, stats := {}, readBlocked := false, writeBlocked := false, pendingCount := 0
    readBlockStartTs := 0, writeBlockStartTs := 0 }

/-- No life cycle moves. -/
structure Calm (e e' : Engine K) : Prop where
  conns : e'.conns = e.conns
  nconns : e'.nconns = e.nconns
  nstreams : e'.nstreams = e.nstreams
  depth : e'.operationDepth = e.operationDepth
  core : ∀ s, (e'.streams s).core = (e.streams s).core

namespace Calm

lemma refl (e : Engine K) : Calm e e := ⟨rfl, rfl, rfl, rfl, fun _ => rfl⟩

lemma trans (h : Calm e e') (h' : Calm e' e'') : Calm e e'' :=
  ⟨h'.conns.trans h.conns, h'.nconns.trans h.nconns, h'.nstreams.trans h.nstreams,
    h'.depth.trans h.depth, fun s => (h'.core s).trans (h.core s)⟩

lemma of_core {β : Type} {x y : Stream K} (f : Stream K → β) (hf : ∀ z, f z.core = f z)
    (h : x.core = y.core) : f x = f y := by
  rw [← hf x, ← hf y, h]

lemma state (h : Calm e e') (s : ℕ) : (e'.streams s).state = (e.streams s).state :=
  of_core Stream.state (fun _ => rfl) (h.core s)

lemma closePhase (h : Calm e e') (s : ℕ) :
    (e'.streams s).closePhase = (e.streams s).closePhase :=
  of_core Stream.closePhase (fun _ => rfl) (h.core s)

lemma config (h : Calm e e') (s : ℕ) : (e'.streams s).config = (e.streams s).config :=
  of_core Stream.config (fun _ => rfl) (h.core s)

lemma streamConn (h : Calm e e') (s : ℕ) : (e'.streams s).conn = (e.streams s).conn :=
  of_core Stream.conn (fun _ => rfl) (h.core s)

lemma closed (h : Calm e e') (s : ℕ) :
    (e'.streams s).internalClosed = (e.streams s).internalClosed :=
  of_core Stream.internalClosed (fun _ => rfl) (h.core s)

lemma streamId (h : Calm e e') (s : ℕ) : (e'.streams s).streamId = (e.streams s).streamId :=
  of_core Stream.streamId (fun _ => rfl) (h.core s)

lemma connOf (h : Calm e e') (s : ℕ) : e'.connOf s = e.connOf s := by
  rw [Engine.connOf, Engine.connOf, h.conns, h.streamConn]

lemma active (h : Calm e e') (s : ℕ) :
    streamKcpActive (e'.streams s) = streamKcpActive (e.streams s) := by
  rw [streamKcpActive, streamKcpActive, h.state, h.closePhase]

lemma liveStream (h : Calm e e') {s : ℕ} (hl : e.LiveStream s) : e'.LiveStream s := by
  rw [Engine.LiveStream, h.nstreams, h.closed]
  exact hl

lemma liveConn (h : Calm e e') {c : ℕ} (hl : e.LiveConn c) : e'.LiveConn c := by
  rw [Engine.LiveConn, h.nconns, h.conns]
  exact hl

/-- A step of one stream that leaves its core alone. -/
lemma stepStream {s : ℕ} {x : Stream K} {evs : List Event} {m : TimerManager Owner} {t : ℕ}
    {st : EngineStats} {cs : ℕ → ConnStats} {p : PendMove} (hx : x.core = (e.streams s).core) :
    Calm e (e.stepStream s x evs m t st cs p) := by
  refine ⟨rfl, rfl, rfl, rfl, fun q => ?_⟩
  by_cases hq : q = s
  · subst hq
    simpa [Engine.stepStream] using hx
  · simp [Engine.stepStream, hq]

end Calm

/-- A chain of steps in which no life cycle moves. -/
structure Still (env : Env K) (op : Call) (e e' : Engine K) : Prop where
  acts : Acts env op e e'
  calm : Calm e e'

namespace Still

lemma refl (e : Engine K) : Still env op e e := ⟨.refl, Calm.refl e⟩

lemma trans (h : Still env op e e') (h' : Still env op e' e'') : Still env op e e'' :=
  ⟨h.acts.trans h'.acts, h.calm.trans h'.calm⟩

/-- A step of one stream that leaves its core alone. -/
lemma stream {s t : ℕ} {x : Stream K} {evs : List Event} {mv : TimerMove}
    {p : PendMove} {m : TimerManager Owner} {st : EngineStats} {cs : ℕ → ConnStats}
    (hl : e.LiveStream s) (ht : e.tick ≤ t)
    (h : StreamTrans env op e t s (e.connOf s) (e.streams s) x evs mv p)
    (hm : mv.Did env e.timerManager (.stream s) m) (hst : st.life = e.stats.life)
    (hx : x.core = (e.streams s).core) : Still env op e (e.stepStream s x evs m t st cs p) :=
  ⟨.single (.stream hl ht h hm hst), Calm.stepStream hx⟩

/-- Host interactions and traffic counters. -/
lemma quiet {t : ℕ} {st : EngineStats} {cs : ℕ → ConnStats} (ht : e.tick ≤ t)
    (hst : st.life = e.stats.life) :
    Still env op e { e with tick := t, stats := st, connStats := cs } :=
  ⟨.single (.quiet ht hst), ⟨rfl, rfl, rfl, rfl, fun _ => rfl⟩⟩

lemma sound (h : Still env op e e') (hs : Sound env e) : Sound env e' := h.acts.sound hs

lemma tick (h : Still env op e e') (hs : Sound env e) : e.tick ≤ e'.tick :=
  (h.acts.grows hs.toOwn).tick

end Still

/-! ### Calls of the KCP instance -/

/-- The instance of a live stream. -/
lemma Own.kcp_some (h : Own env e) {s : ℕ} (hl : e.LiveStream s) :
    ∃ k, (e.streams s).kcp = some k := by
  rw [← Option.isSome_iff_exists, h.kcp s hl.1, hl.2]
  rfl

/-- A datagram that `__kcp_output` hands on. -/
lemma kcpOutput_eq {s : ℕ} (hl : e.LiveStream s) {b : Bytes}
    (ha : streamKcpActive (e.streams s) = true) (hcl : (e.connOf s).internalClosed = false)
    (hc : (e.connOf s).state = .connected) (hb : b ≠ [])
    (hlen : protoStreamHeaderLen + b.length ≤ protoMsgMaxLen) :
    ∃ st cs, st.life = e.stats.life ∧ kcpOutput env s e b =
      e.stepStream s
        (if env.writeSocketv e.tick then { e.streams s with stats := { (e.streams s).stats with
          txPackets := (e.streams s).stats.txPackets + 1
          txBytes := (e.streams s).stats.txBytes + b.length } } else e.streams s)
        [.write (.stream s) (e.connOf s).peerAddr
          (streamHeader msgStreamPayload (e.connOf s) (e.streams s).streamId ++ b)
          (env.writeSocketv e.tick)] e.timerManager (e.tick + 1) st cs .keep := by
  obtain ⟨st, cs, hst, heq⟩ := connWriteSocketv_did env e (.stream s) (e.streams s).conn
    (List.cons_ne_nil (streamHeader msgStreamPayload (e.connOf s) (e.streams s).streamId) [b])
  refine ⟨st, cs, hst, ?_⟩
  rw [kcpOutput, if_neg (by simp [hl.2, ha, hcl, hc]), protocolSendStreamPayload, if_neg hb,
    if_neg (not_lt.mpr hlen), heq]
  cases env.writeSocketv e.tick with
  | true => simp [Engine.stepStream, Engine.setStream, PendMove.apply, Engine.connOf]
  | false => simp [Engine.stepStream, PendMove.apply, Engine.connOf, errNetwork]

/-- `__kcp_output` hands on a datagram that a KCP operation has just output. -/
lemma kcpOutput_still {s : ℕ} (hl : e.LiveStream s) {k k' : K} {call : KcpCall}
    {out : List Bytes} (hk : (e.streams s).kcp = some k') (hstep : KcpStep env k call k' out)
    {b : Bytes} (hm : b ∈ out) (hout : .kcpOutput s b ∈ e.trace) :
    Still env op e (kcpOutput env s e b) ∧ ((kcpOutput env s e b).streams s).kcp = some k' := by
  by_cases hg : (e.streams s).internalClosed = true ∨ streamKcpActive (e.streams s) = false ∨
      (e.connOf s).internalClosed = true ∨ (e.connOf s).state ≠ .connected
  · rw [kcpOutput, if_pos hg]
    exact ⟨Still.refl e, hk⟩
  by_cases hb : b = [] ∨ protoStreamHeaderLen + b.length > protoMsgMaxLen
  · rw [kcpOutput, if_neg hg, protocolSendStreamPayload]
    rcases hb with hb | hb
    · simp [hb, errInvalidParam, Still.refl, hk]
    · simp [hb, errInvalidParam, Still.refl, hk]
  simp only [not_or, Bool.not_eq_true, Bool.not_eq_false, not_not, ne_eq] at hg
  obtain ⟨-, ha, hcl, hc⟩ := hg
  rw [not_or, not_lt] at hb
  obtain ⟨st, cs, hst, heq⟩ := kcpOutput_eq hl ha hcl hc hb.1 hb.2
  rw [heq]
  refine ⟨Still.stream hl (Nat.le_succ _) (.output hk hstep hm ha hc hb.1 hb.2 hout) rfl hst ?_, ?_⟩
  · split_ifs <;> rfl
  · simp only [Engine.stepStream, Function.update_self]
    split_ifs <;> exact hk

/-- KCP calls its output function. -/
lemma emit_still {s : ℕ} (hl : e.LiveStream s) {k k' : K} {call : KcpCall} {out : List Bytes}
    (hr : KcpRan env (e.streams s).streamId k) (hk : (e.streams s).kcp = some k')
    (hstep : KcpStep env k call k' out) {b : Bytes} (hm : b ∈ out) :
    Still env op e (e.log (.kcpOutput s b)) := by
  have h1 : Still env op e (e.stepStream s (e.streams s) [.kcpOutput s b] e.timerManager e.tick
      e.stats e.connStats .keep) :=
    Still.stream hl le_rfl (.emit hr hk hstep hm) rfl rfl rfl
  simpa [Engine.stepStream, PendMove.apply, Engine.log] using h1

/-- The datagrams of one KCP operation. -/
lemma kcpOutputs_still {s : ℕ} {k k' : K} {call : KcpCall} {out : List Bytes}
    (hstep : KcpStep env k call k' out) (l : List Bytes) :
    ∀ {e : Engine K}, e.LiveStream s → KcpRan env (e.streams s).streamId k →
      (e.streams s).kcp = some k' → (∀ b ∈ l, b ∈ out) →
      Still env op e (l.foldl (kcpEmit env s) e) := by
  induction l with
  | nil => exact fun _ _ _ _ => Still.refl _
  | cons b l ih =>
      intro e hl hr hk hsub
      have hb : b ∈ out := hsub b List.mem_cons_self
      have h0 : Still env op e (e.log (.kcpOutput s b)) := emit_still hl hr hk hstep hb
      obtain ⟨h1, hk1⟩ : Still env op _ (kcpEmit env s e b) ∧ _ :=
        kcpOutput_still (h0.calm.liveStream hl) hk hstep hb List.mem_cons_self
      have h2 := h0.trans h1
      exact h2.trans (ih (h2.calm.liveStream hl) (h2.calm.streamId s ▸ hr) hk1 fun b' hb' =>
        hsub b' (List.mem_cons_of_mem b hb'))

/-- **A call that may advance the instance.** -/
lemma kcpRun_still (hs : Sound env e) {s : ℕ} (hl : e.LiveStream s) {f : ℕ → K → KcpOut K}
    {call : ℤ → KcpCall}
    (hstep : ∀ k, KcpStep env k (call (f e.tick k).ret) (f e.tick k).kcp (f e.tick k).output)
    (ha : ∀ r, KcpAllowed op s (e.connOf s) (e.streams s) (call r)) :
    Still env op e (kcpRun env e s f call).2 := by
  obtain ⟨k, hk⟩ := hs.kcp_some hl
  rw [kcpRun, hk]
  have h1 : Still env op e (e.stepStream s { e.streams s with kcp := some (f e.tick k).kcp }
      [.kcp s (call (f e.tick k).ret)] e.timerManager (e.tick + 1) e.stats e.connStats .keep) :=
    Still.stream hl (Nat.le_succ _) (.call hk (hstep k) (ha _)) rfl rfl rfl
  exact h1.trans (kcpOutputs_still (hstep k) _ (h1.calm.liveStream hl)
    (h1.calm.streamId s ▸ hs.ran s hl k hk) (by simp [Engine.stepStream]) fun _ hb => hb)

/-- A query of the instance. -/
lemma kcpAsk_still (hs : Sound env e) {s : ℕ} (hl : e.LiveStream s) {f : ℕ → K → ℤ}
    {call : ℤ → KcpCall} (hq : ∀ k, KcpQuery env k (call (f e.tick k))) :
    Still env op e (kcpAsk e s f call).2 := by
  obtain ⟨k, hk⟩ := hs.kcp_some hl
  have h1 : Still env op e (e.stepStream s (e.streams s) [.kcp s (call (f e.tick k))]
      e.timerManager (e.tick + 1) e.stats e.connStats .keep) :=
    Still.stream hl (Nat.le_succ _) (.query hk (hq k)) rfl rfl rfl
  have heq : (kcpAsk e s f call).2 = e.stepStream s (e.streams s) [.kcp s (call (f e.tick k))]
      e.timerManager (e.tick + 1) e.stats e.connStats .keep := by
    simp [kcpAsk, hk, Engine.stepStream, Engine.log, Engine.tock, PendMove.apply]
  rw [heq]
  exact h1

section Calls

variable (hs : Sound env e) {s : ℕ} (hl : e.LiveStream s)
include hs hl

lemma kcpSend_still (ha : ∀ b r, KcpAllowed op s (e.connOf s) (e.streams s) (.send b r))
    (b : Bytes) : Still env op e (kcpSend env e s b).2 :=
  kcpRun_still hs hl (fun _ => .send e.tick b) (ha b)

lemma kcpSendv_still {f : ℕ → K → List Bytes → ℕ → ℕ → KcpOut K} (hf : env.kcp.sendv = some f)
    (iov : List Bytes) (off len : ℕ)
    (ha : ∀ r, KcpAllowed op s (e.connOf s) (e.streams s) (.sendv iov off len r)) :
    Still env op e (kcpSendv env f e s iov off len).2 :=
  kcpRun_still hs hl (fun _ => .sendv hf e.tick iov off len) ha

lemma kcpInput_still (b : Bytes)
    (ha : ∀ r, KcpAllowed op s (e.connOf s) (e.streams s) (.input b r)) :
    Still env op e (kcpInput env e s b).2 :=
  kcpRun_still hs hl (fun _ => .input e.tick b) ha

lemma kcpRecv_still (len : ℤ)
    (ha : ∀ r, KcpAllowed op s (e.connOf s) (e.streams s) (.recv len r)) :
    Still env op e (kcpRecv env e s len).2.2 :=
  kcpRun_still hs hl (fun _ => .recv e.tick len) ha

lemma kcpUpdate_still (ha : streamKcpActive (e.streams s) = true) (now : ℤ) :
    Still env op e (kcpUpdate env e s now) :=
  kcpRun_still hs hl (fun _ => .update e.tick now) fun _ => ha

lemma kcpCurrentUpdate_still (ha : streamKcpActive (e.streams s) = true) (now : ℤ) :
    Still env op e (kcpCurrentUpdate env e s now) :=
  kcpRun_still hs hl (fun _ => .currentUpdate e.tick now) fun _ => ha

lemma kcpPeeksize_still : Still env op e (kcpPeeksize env e s).2 :=
  kcpAsk_still hs hl fun _ => .peeksize e.tick

lemma kcpWaitsnd_still : Still env op e (kcpWaitsnd env e s).2 :=
  kcpAsk_still hs hl fun _ => .waitsnd e.tick

lemma kcpCheck_still (now : ℤ) : Still env op e (kcpCheck env e s now).2 :=
  kcpAsk_still hs hl fun _ => .check e.tick now

end Calls

/-! ### The record of the stream -/

/-- `__kcp_output` counts. -/
lemma kcpOutput_stream (env : Env K) (s : ℕ) (e : Engine K) (b : Bytes) :
    ∃ stats, (kcpOutput env s e b).streams s = { e.streams s with stats } := by
  have hsend : (protocolSendStreamPayload env e s b).2.streams = e.streams := by
    rw [protocolSendStreamPayload]
    split_ifs
    · rfl
    · rfl
    · simp [connWriteSocketv_eq]
  rw [kcpOutput]
  dsimp only
  split_ifs
  · exact ⟨_, rfl⟩
  · rw [Engine.setStream, hsend]
    exact ⟨_, Function.update_self ..⟩
  · exact ⟨_, by rw [hsend]⟩

lemma kcpOutputs_stream (env : Env K) (s : ℕ) (l : List Bytes) : ∀ e : Engine K,
    ∃ stats, (l.foldl (kcpEmit env s) e).streams s = { e.streams s with stats } := by
  induction l with
  | nil => exact fun e => ⟨_, rfl⟩
  | cons b l ih =>
      intro e
      obtain ⟨st, h⟩ := kcpOutput_stream env s (e.log (.kcpOutput s b)) b
      obtain ⟨st', h'⟩ := ih (kcpEmit env s e b)
      exact ⟨st', h'.trans (by rw [kcpEmit, h]; rfl)⟩

/-- **A KCP operation** changes the instance of the stream and its counters. -/
lemma kcpRun_stream (env : Env K) (e : Engine K) (s : ℕ) (f : ℕ → K → KcpOut K)
    (call : ℤ → KcpCall) :
    ∃ kcp stats, (kcpRun env e s f call).2.streams s = { e.streams s with kcp, stats } := by
  rw [kcpRun]
  cases (e.streams s).kcp with
  | none => exact ⟨_, _, rfl⟩
  | some k =>
      dsimp only
      obtain ⟨st, h⟩ := kcpOutputs_stream env s (f e.tick k).output
        ((e.log (.kcp s (call (f e.tick k).ret))).tock.setStream s
          { e.streams s with kcp := some (f e.tick k).kcp })
      refine ⟨some (f e.tick k).kcp, st, h.trans ?_⟩
      dsimp only [Engine.setStream]
      rw [Function.update_self]

lemma kcpRun_pendingCount (env : Env K) (e : Engine K) (s : ℕ) (f : ℕ → K → KcpOut K)
    (call : ℤ → KcpCall) :
    ((kcpRun env e s f call).2.streams s).pendingCount = (e.streams s).pendingCount := by
  obtain ⟨kcp, stats, h⟩ := kcpRun_stream env e s f call
  rw [h]

/-! ### The timer -/

lemma kcpOutput_timer (env : Env K) (s : ℕ) (e : Engine K) (b : Bytes) :
    (kcpOutput env s e b).timerManager = e.timerManager := by
  have h : (protocolSendStreamPayload env e s b).2.timerManager = e.timerManager := by
    rw [protocolSendStreamPayload]
    split_ifs
    · rfl
    · rfl
    · exact connWriteSocketv_timer env e _ _ _
  rw [kcpOutput]
  dsimp only
  split_ifs
  · rfl
  · exact h
  · exact h

lemma kcpPeeksize_timer (env : Env K) (e : Engine K) (s : ℕ) :
    (kcpPeeksize env e s).2.timerManager = e.timerManager := rfl

lemma setStream_timer (e : Engine K) (s : ℕ) (x : Stream K) :
    (e.setStream s x).timerManager = e.timerManager := rfl

/-- The KCP instance does not touch the timer. -/
lemma kcpRun_timer (e : Engine K) (s : ℕ) (f : ℕ → K → KcpOut K) (call : ℤ → KcpCall) :
    (kcpRun env e s f call).2.timerManager = e.timerManager := by
  have hfold : ∀ (l : List Bytes) (e : Engine K),
      (l.foldl (kcpEmit env s) e).timerManager = e.timerManager := by
    intro l
    induction l with
    | nil => exact fun _ => rfl
    | cons b l ih => exact fun e => (ih _).trans (kcpOutput_timer env s (e.log _) b)
  rw [kcpRun]
  cases (e.streams s).kcp with
  | none => rfl
  | some k => exact hfold _ _

end KcpMux
