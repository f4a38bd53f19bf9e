import KcpMux.Lib.Gather
import KcpMux.Runs.Moves

/-!
The two sends of a stream (`kcpmux_stream_send`, `kcpmux_stream_sendv`) do the same.

The cursor of a vectored send is a cursor into the fragments: what it has still to deliver is
`VectoredSendContext.rest`.  A round of its loops reads a fragment of the array and drops what
it took from the rest (`VectoredSendContext.Ok.forward`), so the loops end
(`vectoredLoops_rounds`), and both the copy and the advance follow the flat bytes
(`VectoredRounds.spec`).

Two engines are `Alike` if they differ in the counters of the two calls and in the form in
which a message was handed to the KCP instance.  Every part of a send keeps that
(`sendChunkLoop_alike`, `streamSendFinish_alike`).  The messages of a flat send are the slices
of its bytes up to the first one that is refused (`sendChunkLoop_sent`).
-/

namespace KcpMux

variable {K : Type} {env : Env K} {s : ℕ}

/-! ### The cursor -/

namespace VectoredSendContext

/-- The bytes the cursor has still to deliver. -/
def rest (context : VectoredSendContext) : Bytes :=
  Gather.rest context.iov context.index context.offset

/-- The cursor stands inside its fragment or at the end of it. -/
def Ok (context : VectoredSendContext) : Prop :=
  context.offset ≤ (context.iov.getD context.index []).length

/-- The cursor stands at an empty fragment. -/
def AtEmpty (context : VectoredSendContext) : Prop :=
  context.index < context.iov.length ∧ (context.iov.getD context.index []).length = 0

variable {context : VectoredSendContext} {size : ℕ}

lemma take_le (context : VectoredSendContext) (size : ℕ) :
    context.take size ≤ size ∧
      context.take size ≤ (context.iov.getD context.index []).length - context.offset := by
  rw [take]
  split_ifs <;> omega

@[simp] lemma forward_iov (context : VectoredSendContext) (n : ℕ) :
    (context.forward n).iov = context.iov := by
  rw [forward]
  split_ifs <;> rfl

/-- **One round of the cursor** reads a fragment of the array and delivers its bytes. -/
lemma Ok.forward (h : context.Ok) (hs : 0 < size) (hle : size ≤ context.rest.length) :
    context.index < context.iov.length ∧
      (context.forward (context.take size)).Ok ∧
      (context.forward (context.take size)).rest = context.rest.drop (context.take size) ∧
      (size - context.take size) +
          (context.iov.length - (context.forward (context.take size)).index) <
        size + (context.iov.length - context.index) := by
  have hlt : context.index < context.iov.length :=
    Gather.lt_length_of_rest (lt_of_lt_of_le hs hle)
  obtain ⟨ht1, ht2⟩ := context.take_le size
  have ho : context.offset ≤ (context.iov.getD context.index []).length := h
  refine ⟨hlt, ?_⟩
  rw [VectoredSendContext.forward]
  split_ifs with hend
  · refine ⟨Nat.zero_le _, ?_, ?_⟩
    · show Gather.rest context.iov (context.index + 1) 0 = _
      rw [Gather.rest_succ hlt, ← hend, Gather.rest_add]
      rfl
    · show size - context.take size + (context.iov.length - (context.index + 1)) < _
      omega
  · refine ⟨?_, Gather.rest_add _ _ _ _, ?_⟩
    · show context.offset + context.take size ≤ (context.iov.getD context.index []).length
      omega
    · -- the fragment is not used up, so the round took all that was asked for
      have htake : context.take size = size := by
        rw [take] at hend ⊢
        split_ifs at hend ⊢ <;> omega
      show size - context.take size + (context.iov.length - context.index) < _
      omega

end VectoredSendContext

/-- The rounds of the cursor over `size` bytes as the source runs them, and the bytes they read:
each round reads from a fragment of the array, and the last one leaves nothing to do. -/
inductive VectoredRounds : VectoredSendContext → ℕ → Bytes → VectoredSendContext → Prop
  | done (context : VectoredSendContext) : VectoredRounds context 0 [] context
  | round {context context' : VectoredSendContext} {size : ℕ} {read : Bytes} (hs : 0 < size)
      (hi : context.index < context.iov.length)
      (h : VectoredRounds (context.forward (context.take size)) (size - context.take size) read
        context') :
      VectoredRounds context size
        (((context.iov.getD context.index []).drop context.offset).take (context.take size) ++ read)
        context'

/-- The loop of `kcpmux_vectored_copy` and the first one of `kcpmux_vectored_advance` make the same
rounds, and end after at most `size + iovcnt` of them. -/
lemma vectoredLoops_rounds (rounds : ℕ) : ∀ {context : VectoredSendContext} {size : ℕ},
    context.Ok → size ≤ context.rest.length →
    size + (context.iov.length - context.index) ≤ rounds →
    VectoredRounds context size (vectoredCopyLoop rounds context size)
      (vectoredAdvanceLoop rounds context size) := by
  induction rounds with
  | zero =>
      intro context size h hle hfuel
      have hs : size = 0 := by omega
      subst hs
      exact .done _
  | succ rounds ih =>
      intro context size h hle hfuel
      rw [vectoredCopyLoop, vectoredAdvanceLoop]
      split_ifs with hs
      · obtain ⟨hlt, hok, hrest, hless⟩ := h.forward hs hle
        have htake := (context.take_le size).1
        exact .round hs hlt (ih hok (by rw [hrest, List.length_drop]; omega)
          (by rw [context.forward_iov]; omega))
      · have hz : size = 0 := by omega
        subst hz
        exact .done _

/-- The rounds read the next bytes and leave the others. -/
lemma VectoredRounds.spec {context context' : VectoredSendContext} {size : ℕ} {read : Bytes}
    (h : VectoredRounds context size read context') (hok : context.Ok)
    (hle : size ≤ context.rest.length) :
    read = context.rest.take size ∧ context'.Ok ∧ context'.rest = context.rest.drop size ∧
      context'.iov = context.iov := by
  induction h with
  | done => exact ⟨List.take_zero.symm, hok, rfl, rfl⟩
  | @round context context' size read hs hi h ih =>
      obtain ⟨-, hok1, hrest, -⟩ := hok.forward hs hle
      obtain ⟨ht1, ht2⟩ := context.take_le size
      obtain ⟨h1, h2, h3, h4⟩ := ih hok1 (by rw [hrest, List.length_drop]; omega)
      refine ⟨?_, h2, ?_, h4.trans (context.forward_iov _)⟩
      · rw [h1, hrest, ← Gather.take_rest hi hok ht2]
        show context.rest.take _ ++ (context.rest.drop _).take _ = _
        rw [← List.take_add, Nat.add_sub_cancel' ht1]
      · rw [h3, hrest, List.drop_drop, Nat.add_sub_cancel' ht1]

/-- The loop that skips empty fragments ends and changes nothing that is delivered. -/
lemma vectoredSkip_eq (rounds : ℕ) : ∀ {context : VectoredSendContext},
    context.Ok → context.iov.length - context.index ≤ rounds →
    (vectoredSkip rounds context).Ok ∧ (vectoredSkip rounds context).rest = context.rest ∧
      (vectoredSkip rounds context).iov = context.iov ∧
      ¬ (vectoredSkip rounds context).AtEmpty := by
  induction rounds with
  | zero =>
      intro context h hfuel
      refine ⟨h, rfl, rfl, fun he => ?_⟩
      have hlt : context.index < context.iov.length := he.1
      omega
  | succ rounds ih =>
      intro context h hfuel
      rw [vectoredSkip]
      split_ifs with he
      · have hoff : context.offset = 0 := Nat.le_zero.mp (he.2 ▸ h)
        have hok : VectoredSendContext.Ok { context with index := context.index + 1 } := by
          show context.offset ≤ _
          rw [hoff]
          exact Nat.zero_le _
        obtain ⟨h1, h2, h3, h4⟩ := ih hok
          (by show context.iov.length - (context.index + 1) ≤ rounds; omega)
        refine ⟨h1, h2.trans ?_, h3, h4⟩
        show Gather.rest context.iov (context.index + 1) context.offset =
          Gather.rest context.iov context.index context.offset
        rw [hoff, Gather.rest_succ he.1, he.2]
      · exact ⟨h, rfl, rfl, he⟩

/-- The cursor of a vectored send of `iov` after `n` bytes. -/
inductive CursorAt (iov : List Bytes) : ℕ → VectoredSendContext → Prop
  | start : CursorAt iov 0 (vectoredSkip iov.length ⟨iov, 0, 0⟩)
  | advance {n size : ℕ} {context : VectoredSendContext} (h : CursorAt iov n context)
      (hle : n + size ≤ iov.flatten.length) :
      CursorAt iov (n + size) (vectoredAdvance context size)

/-- The cursor follows the flat bytes. -/
lemma CursorAt.spec {iov : List Bytes} {n : ℕ} {context : VectoredSendContext}
    (h : CursorAt iov n context) :
    context.Ok ∧ context.rest = iov.flatten.drop n ∧ context.iov = iov ∧ ¬ context.AtEmpty := by
  induction h with
  | start => exact vectoredSkip_eq _ (Nat.zero_le _) le_rfl
  | @advance n size context h hle ih =>
      obtain ⟨hok, hrest, hiov, -⟩ := ih
      have hsize : size ≤ context.rest.length := by
        rw [hrest, List.length_drop]
        omega
      obtain ⟨-, h2, h3, h4⟩ :=
        (vectoredLoops_rounds (size + context.iov.length) hok hsize (by omega)).spec hok hsize
      obtain ⟨h5, h6, h7, h8⟩ := vectoredSkip_eq context.iov.length h2 (by rw [h4]; omega)
      refine ⟨h5, ?_, (h7.trans h4).trans hiov, h8⟩
      rw [vectoredAdvance, h6, h3, hrest, List.drop_drop]

section Cursor

variable {iov : List Bytes} {n size : ℕ} {context : VectoredSendContext}
  (h : CursorAt iov n context) (hle : n + size ≤ iov.flatten.length)

include h hle

lemma CursorAt.size_le : size ≤ context.rest.length := by
  rw [h.spec.2.1, List.length_drop]
  omega

/-- Every round of the loops over a message reads a fragment of the array, and they end. -/
lemma CursorAt.rounds :
    VectoredRounds context size (vectoredCopyLoop (size + context.iov.length) context size)
      (vectoredAdvanceLoop (size + context.iov.length) context size) :=
  vectoredLoops_rounds _ h.spec.1 (h.size_le hle) (by omega)

lemma CursorAt.copy : vectoredCopy context size = (iov.flatten.drop n).take size := by
  rw [vectoredCopy, ((h.rounds hle).spec h.spec.1 (h.size_le hle)).1, h.spec.2.1]

/-- The fragments handed to `sendv` hold the message at the offset. -/
lemma CursorAt.fragments (hs : 0 < size) :
    ((context.iov.drop context.index).flatten.drop context.offset).take size =
      (iov.flatten.drop n).take size ∧
    context.offset + size ≤ (context.iov.drop context.index).flatten.length := by
  have hrest : (context.iov.drop context.index).flatten.drop context.offset = iov.flatten.drop n :=
    h.spec.2.1
  have hsize : size ≤ ((context.iov.drop context.index).flatten.drop context.offset).length :=
    h.size_le hle
  refine ⟨by rw [hrest], ?_⟩
  rw [List.length_drop] at hsize
  omega

end Cursor

/-! ### Engines that differ in the form of a message -/

/-- A message handed over in fragments, as the message it is. -/
def KcpCall.flat : KcpCall → KcpCall
  | .sendv iov firstOffset len ret => .send ((iov.flatten.drop firstOffset).take len) ret
  | call => call

/-- A log entry with the message of a `sendv` in one piece. -/
def Event.flat : Event → Event
  | .kcp s call => .kcp s call.flat
  | ev => ev

/-- The statistics without the counters of the two calls. -/
def EngineStats.uncalled (st : EngineStats) : EngineStats :=
  { st with apiStreamSendCalls := 0, apiStreamSendvCalls := 0 }

/-- The engines differ at most in the counters of the two calls and in the form in which
messages were handed to the KCP instances. -/
def Alike (e1 e2 : Engine K) : Prop :=
  ∃ trace stats, trace.map Event.flat = e2.trace.map Event.flat ∧
    stats.uncalled = e2.stats.uncalled ∧ e1 = { e2 with trace := trace, stats := stats }

section Alike

variable {e1 e2 : Engine K}

lemma Alike.refl (e : Engine K) : Alike e e := ⟨e.trace, e.stats, rfl, rfl, rfl⟩

lemma Alike.tock (h : Alike e1 e2) : Alike e1.tock e2.tock := by
  obtain ⟨tr, st, htr, hst, rfl⟩ := h
  exact ⟨tr, st, htr, hst, rfl⟩

lemma Alike.log {ev1 ev2 : Event} (h : Alike e1 e2) (hev : ev1.flat = ev2.flat) :
    Alike (e1.log ev1) (e2.log ev2) := by
  obtain ⟨tr, st, htr, hst, rfl⟩ := h
  exact ⟨ev1 :: tr, st, by simp [Engine.log, hev, htr], hst, rfl⟩

lemma Alike.setStream (h : Alike e1 e2) (s : ℕ) (x : Stream K) :
    Alike (e1.setStream s x) (e2.setStream s x) := by
  obtain ⟨tr, st, htr, hst, rfl⟩ := h
  exact ⟨tr, st, htr, hst, rfl⟩

lemma Alike.streams (h : Alike e1 e2) : e1.streams = e2.streams := by
  obtain ⟨tr, st, htr, hst, rfl⟩ := h
  rfl

lemma Alike.conns (h : Alike e1 e2) : e1.conns = e2.conns := by
  obtain ⟨tr, st, htr, hst, rfl⟩ := h
  rfl

lemma Alike.tick (h : Alike e1 e2) : e1.tick = e2.tick := by
  obtain ⟨tr, st, htr, hst, rfl⟩ := h
  rfl

lemma Alike.clearPending (h : Alike e1 e2) (s : ℕ) :
    Alike (streamClearPending e1 s) (streamClearPending e2 s) := by
  obtain ⟨tr, st, htr, hst, rfl⟩ := h
  exact ⟨tr, st, htr, hst, rfl⟩

lemma EngineStats.uncalled_sent (st : EngineStats) (size : ℕ) (ok : Bool) :
    (st.sent size ok).uncalled = st.uncalled.sent size ok := by
  cases ok <;> rfl

lemma Alike.write (h : Alike e1 e2) (env : Env K) (o : Owner) (c : ℕ) {iov : List Bytes} (hiov : iov ≠ []) :
    (connWriteSocketv env e1 o c iov).1 = (connWriteSocketv env e2 o c iov).1 ∧
      Alike (connWriteSocketv env e1 o c iov).2 (connWriteSocketv env e2 o c iov).2 := by
  obtain ⟨tr, st, htr, hst, rfl⟩ := h
  rw [connWriteSocketv_eq _ _ _ _ hiov, connWriteSocketv_eq _ _ _ _ hiov]
  refine ⟨rfl, _, _, ?_, ?_, rfl⟩
  · simp [htr]
  · rw [EngineStats.uncalled_sent, EngineStats.uncalled_sent, hst]

/-! ### The calls into the KCP instance -/

lemma Alike.connOf (h : Alike e1 e2) (s : ℕ) : e1.connOf s = e2.connOf s := by
  rw [Engine.connOf, Engine.connOf, h.streams, h.conns]

lemma Alike.payload (h : Alike e1 e2) (env : Env K) (s : ℕ) (b : Bytes) :
    (protocolSendStreamPayload env e1 s b).1 = (protocolSendStreamPayload env e2 s b).1 ∧
      Alike (protocolSendStreamPayload env e1 s b).2 (protocolSendStreamPayload env e2 s b).2 := by
  rw [protocolSendStreamPayload, protocolSendStreamPayload, h.connOf, h.streams]
  split_ifs
  · exact ⟨rfl, h⟩
  · exact ⟨rfl, h⟩
  · exact h.write env _ _ (by simp)

lemma Alike.output (h : Alike e1 e2) (env : Env K) (s : ℕ) (b : Bytes) :
    Alike (kcpOutput env s e1 b) (kcpOutput env s e2 b) := by
  obtain ⟨h1, h2⟩ := h.payload env s b
  rw [kcpOutput, kcpOutput, h.streams, h.connOf]
  dsimp only
  rw [h1, h2.streams]
  split_ifs
  · exact h
  · exact h2.setStream _ _
  · exact h2

lemma Alike.outputs (env : Env K) (s : ℕ) (l : List Bytes) : ∀ {e1 e2 : Engine K}, Alike e1 e2 →
    Alike (l.foldl (kcpEmit env s) e1) (l.foldl (kcpEmit env s) e2) := by
  induction l with
  | nil => exact id
  | cons b l ih => exact fun h => ih ((h.log (rfl : (Event.kcpOutput s b).flat = _)).output env s b)

/-- One operation under two names. -/
lemma Alike.run (h : Alike e1 e2) (env : Env K) (s : ℕ) {f g : ℕ → K → KcpOut K}
    (call call' : ℤ → KcpCall)
    (hfg : ∀ t k, f t k = g t k) (hcall : ∀ r, (call r).flat = (call' r).flat) :
    (kcpRun env e1 s f call).1 = (kcpRun env e2 s g call').1 ∧
      Alike (kcpRun env e1 s f call).2 (kcpRun env e2 s g call').2 := by
  obtain rfl : f = g := funext fun t => funext (hfg t)
  have hev : ∀ r, (Event.kcp s (call r)).flat = (Event.kcp s (call' r)).flat :=
    fun r => congrArg (Event.kcp s) (hcall r)
  rw [kcpRun, kcpRun, h.streams]
  cases (e2.streams s).kcp with
  | none => exact ⟨rfl, (h.log (hev 0)).tock⟩
  | some k =>
      dsimp only
      rw [h.tick]
      refine ⟨rfl, Alike.outputs env s _ ?_⟩
      have hlog := (h.log (hev (f e2.tick k).ret)).tock
      rw [hlog.streams]
      exact hlog.setStream _ _

lemma Alike.ask (h : Alike e1 e2) (s : ℕ) (f : ℕ → K → ℤ) (call : ℤ → KcpCall) :
    (kcpAsk e1 s f call).1 = (kcpAsk e2 s f call).1 ∧
      Alike (kcpAsk e1 s f call).2 (kcpAsk e2 s f call).2 := by
  rw [kcpAsk, kcpAsk, h.streams, h.tick]
  exact ⟨rfl, (h.log rfl).tock⟩

lemma Alike.update (h : Alike e1 e2) (env : Env K) (s : ℕ) (now : ℤ) :
    Alike (kcpUpdate env e1 s now) (kcpUpdate env e2 s now) :=
  (h.run env s _ _ (fun _ _ => rfl) fun _ => rfl).2

lemma Alike.currentUpdate (h : Alike e1 e2) (env : Env K) (s : ℕ) (now : ℤ) :
    Alike (kcpCurrentUpdate env e1 s now) (kcpCurrentUpdate env e2 s now) :=
  (h.run env s _ _ (fun _ _ => rfl) fun _ => rfl).2

/-! ### The timer -/

lemma Alike.rearm (h : Alike e1 e2) (now : ℤ) :
    Alike (engineRearmTimer e1 now) (engineRearmTimer e2 now) := by
  obtain ⟨tr, st, htr, hst, rfl⟩ := h
  rw [engineRearmTimer, engineRearmTimer]
  dsimp only
  split_ifs
  · exact ⟨tr, st, htr, hst, rfl⟩
  · cases timerPeek e2.timerManager with
    | none => exact ⟨tr, st, htr, hst, rfl⟩
    | some root =>
        dsimp only
        split_ifs
        · exact ⟨tr, st, htr, hst, rfl⟩
        · exact ⟨_, st, by simp [Engine.log, htr], hst, rfl⟩

lemma Alike.timer (h : Alike e1 e2) (m : TimerManager Owner) :
    Alike { e1 with timerManager := m } { e2 with timerManager := m } := by
  obtain ⟨tr, st, htr, hst, rfl⟩ := h
  exact ⟨tr, st, htr, hst, rfl⟩

lemma Alike.timerManager (h : Alike e1 e2) : e1.timerManager = e2.timerManager := by
  obtain ⟨tr, st, htr, hst, rfl⟩ := h
  rfl

lemma Alike.schedule (h : Alike e1 e2) (env : Env K) (o : Owner) (d now : ℤ) :
    Alike (engineScheduleTimerNode env e1 o d now).2 (engineScheduleTimerNode env e2 o d now).2 := by
  rw [engineScheduleTimerNode, engineScheduleTimerNode, h.timerManager, h.tick]
  dsimp only
  generalize (if d < now then now else d) = deadline
  split_ifs
  · exact h
  · exact (h.tock.timer _).rearm now
  · exact h.tock.timer _

lemma Alike.accumulate (h : Alike e1 e2) (env : Env K) (s : ℕ) (now : ℤ) :
    Alike (streamAccumulateUpdate env e1 s now) (streamAccumulateUpdate env e2 s now) := by
  rw [streamAccumulateUpdate, streamAccumulateUpdate, h.streams]
  dsimp only
  split_ifs
  · exact h.schedule env _ _ _
  · exact h
  · refine Alike.schedule ?_ env _ _ _
    obtain ⟨tr, st, htr, hst, rfl⟩ := h
    exact ⟨tr, st, htr, hst, rfl⟩
  · refine Alike.schedule ?_ env _ _ _
    obtain ⟨tr, st, htr, hst, rfl⟩ := h
    exact ⟨tr, st, htr, hst, rfl⟩
  · obtain ⟨tr, st, htr, hst, rfl⟩ := h
    exact ⟨tr, st, htr, hst, rfl⟩
  · exact h.setStream s _

/-! ### The two sends -/

lemma Alike.finish (h : Alike e1 e2) (env : Env K) (s : ℕ) (flush : Bool) (now : ℤ) :
    Alike (streamSendFinish env e1 s flush now) (streamSendFinish env e2 s flush now) := by
  rw [streamSendFinish, streamSendFinish]
  split_ifs
  · obtain ⟨h1, h2⟩ := ((h.clearPending s).update env s now).ask s
      (fun t k => env.kcp.check t k now) (.check now)
    dsimp only [kcpCheck]
    rw [h1]
    exact h2.schedule env _ _ _
  · exact h.accumulate env s now

lemma Alike.leave (h : Alike e1 e2) (env : Env K) :
    Alike (engineOperationLeave env e1) (engineOperationLeave env e2) := by
  obtain ⟨tr, st, htr, hst, rfl⟩ := h
  rw [engineOperationLeave, engineOperationLeave]
  dsimp only
  rw [engineDrainPendingRelease_eq, engineDrainPendingRelease_eq]
  split_ifs
  · exact ⟨tr, st, htr, hst, rfl⟩
  · exact ⟨tr, st, htr, hst, rfl⟩
  · refine Alike.rearm ?_ _
    exact ⟨_, st, by simp [Engine.tock, htr], hst, rfl⟩

end Alike

/-- `sendv` takes the `len` flattened bytes from `first_offset` on as its message. -/
def SendvFlat (env : Env K) : Prop :=
  ∀ sendv, env.kcp.sendv = some sendv → ∀ t k (iov : List Bytes) firstOffset len, 0 < len →
    firstOffset + len ≤ iov.flatten.length →
    sendv t k iov firstOffset len = env.kcp.send t k ((iov.flatten.drop firstOffset).take len)

section Sends

variable {e1 e2 : Engine K} {iov : List Bytes} {n size : ℕ} {context : VectoredSendContext}

/-- **One message** of the two sends. -/
lemma sendChunk_alike (hf : SendvFlat env) (h : Alike e1 e2) (hc : CursorAt iov n context)
    (hs : 0 < size) (hle : n + size ≤ iov.flatten.length) :
    let r1 := streamSendVectoredChunk env s e1 context size
    let r2 := streamSendContiguousChunk env s e2 ⟨iov.flatten, n⟩ size
    r1.1 = r2.1 ∧ Alike r1.2.1 r2.2.1 ∧ (0 ≤ r1.1 →
      r1.2.2 = vectoredAdvance context size ∧ r2.2.2 = ⟨iov.flatten, n + size⟩) := by
  have key : ∀ r : ℤ × Engine K,
      r.1 = (kcpSend env e2 s ((iov.flatten.drop n).take size)).1 →
      Alike r.2 (kcpSend env e2 s ((iov.flatten.drop n).take size)).2 →
      let r1 : ℤ × Engine K × VectoredSendContext :=
        (r.1, r.2, if r.1 ≥ 0 then vectoredAdvance context size else context)
      let r2 := streamSendContiguousChunk env s e2 ⟨iov.flatten, n⟩ size
      r1.1 = r2.1 ∧ Alike r1.2.1 r2.2.1 ∧ (0 ≤ r1.1 →
        r1.2.2 = vectoredAdvance context size ∧ r2.2.2 = ⟨iov.flatten, n + size⟩) := by
    intro r h1 h2
    refine ⟨h1, h2, fun h0 => ?_⟩
    dsimp only [streamSendContiguousChunk] at h0 ⊢
    rw [if_pos h0, ← h1, if_pos h0]
    exact ⟨rfl, rfl⟩
  rw [streamSendVectoredChunk]
  dsimp only
  cases hv : env.kcp.sendv with
  | none =>
      dsimp only
      rw [hc.copy hle]
      obtain ⟨h1, h2⟩ := h.run env s (.send ((iov.flatten.drop n).take size))
        (.send ((iov.flatten.drop n).take size))
        (f := fun t k => env.kcp.send t k ((iov.flatten.drop n).take size)) (fun _ _ => rfl)
        fun _ => rfl
      exact key (kcpSend env e1 s ((iov.flatten.drop n).take size)) (congrArg KcpOut.ret h1) h2
  | some sendv =>
      dsimp only
      obtain ⟨hmsg, hroom⟩ := hc.fragments hle hs
      obtain ⟨h1, h2⟩ := h.run env s
        (.sendv (context.iov.drop context.index) context.offset size)
        (.send ((iov.flatten.drop n).take size))
        (fun t k => (hf sendv hv t k _ _ _ hs hroom).trans (congrArg (env.kcp.send t k) hmsg))
        fun r => by rw [KcpCall.flat, hmsg]; rfl
      exact key (kcpSendv env sendv e1 s (context.iov.drop context.index) context.offset size)
        (congrArg KcpOut.ret h1) h2

/-- The loops over the messages. -/
lemma sendChunkLoop_alike (hf : SendvFlat env) {chunkSize : ℕ} (hm : 0 < chunkSize) (rounds : ℕ) :
    ∀ {e1 e2 : Engine K} {n : ℕ} {context : VectoredSendContext} (remaining total : ℕ),
      Alike e1 e2 → CursorAt iov n context → n + remaining = iov.flatten.length →
      let r1 := sendChunkLoop (streamSendVectoredChunk env s) chunkSize rounds e1 context remaining
        total
      let r2 := sendChunkLoop (streamSendContiguousChunk env s) chunkSize rounds e2
        ⟨iov.flatten, n⟩ remaining total
      r1.1 = r2.1 ∧ r1.2.1 = r2.2.1 ∧ Alike r1.2.2 r2.2.2 := by
  induction rounds with
  | zero => exact fun _ _ h _ _ => ⟨rfl, rfl, h⟩
  | succ rounds ih =>
      intro e1 e2 n context remaining total h hc hn
      rw [sendChunkLoop, sendChunkLoop]
      by_cases hr : remaining = 0
      · rw [if_pos hr, if_pos hr]
        exact ⟨rfl, rfl, h⟩
      rw [if_neg hr, if_neg hr]
      dsimp only
      generalize hsize : (if remaining < chunkSize then remaining else chunkSize) = size
      have hsz : 0 < size ∧ size ≤ remaining := by
        rw [← hsize]
        split_ifs <;> omega
      obtain ⟨h1, h2, h3⟩ := sendChunk_alike (s := s) hf h hc hsz.1
        (by omega : n + size ≤ iov.flatten.length)
      by_cases hneg : (streamSendVectoredChunk env s e1 context size).1 < 0
      · rw [if_pos hneg, if_pos (h1 ▸ hneg)]
        exact ⟨congrArg some h1, rfl, h2⟩
      · obtain ⟨h4, h5⟩ := h3 (not_lt.mp hneg)
        rw [if_neg hneg, if_neg (h1 ▸ hneg), h4, h5]
        exact ih _ _ h2 (hc.advance (by omega)) (by omega)

/-- A KCP operation leaves the configuration of the stream alone. -/
lemma kcpRun_config (env : Env K) (e : Engine K) (s : ℕ) (f : ℕ → K → KcpOut K)
    (call : ℤ → KcpCall) :
    ((kcpRun env e s f call).2.streams s).config = (e.streams s).config := by
  obtain ⟨kcp, stats, h⟩ := kcpRun_stream env e s f call
  rw [h]

lemma streamSendBody_alike (hf : SendvFlat env) (h : Alike e1 e2)
    (hm : 0 < (e2.streams s).config.kcpMss.toNat) (flush : Bool) (now : ℤ) :
    let r1 := streamSendBody env (streamSendVectoredChunk env s) e1 s iov.flatten.length flush
      (vectoredSkip iov.length ⟨iov, 0, 0⟩) now
    let r2 := streamSendBody env (streamSendContiguousChunk env s) e2 s iov.flatten.length flush
      ⟨iov.flatten, 0⟩ now
    r1.1 = r2.1 ∧ Alike r1.2 r2.2 := by
  have h0 := h.currentUpdate env s now
  have hm0 : 0 < ((kcpCurrentUpdate env e2 s now).streams s).config.kcpMss.toNat := by
    rw [kcpCurrentUpdate, kcpRun_config]
    exact hm
  rw [streamSendBody, streamSendBody]
  dsimp only
  rw [h0.streams]
  obtain ⟨h1, h2, h3⟩ := sendChunkLoop_alike (s := s) hf hm0 iov.flatten.length iov.flatten.length 0
    h0 .start (Nat.zero_add _)
  generalize sendChunkLoop (streamSendVectoredChunk env s) _ _ _ _ _ _ = r1 at h1 h2 h3 ⊢
  generalize sendChunkLoop (streamSendContiguousChunk env s) _ _ _ _ _ _ = r2 at h1 h2 h3 ⊢
  obtain ⟨stop, sent, e1'⟩ := r1
  obtain ⟨stop', sent', e2'⟩ := r2
  dsimp only at h1 h2 h3 ⊢
  subst h1 h2
  rw [h3.streams]
  have hend : ∀ x : Stream K,
      let f := fun e : Engine K =>
        if sent = 0 ∧ flush = false then ((0 : ℤ), e.setStream s x)
        else ((sent : ℤ), streamSendFinish env (e.setStream s x) s flush now)
      (f e1').1 = (f e2').1 ∧ Alike (f e1').2 (f e2').2 := by
    intro x
    dsimp only
    split_ifs
    · exact ⟨rfl, h3.setStream _ _⟩
    · exact ⟨rfl, (h3.setStream _ _).finish env _ _ _⟩
  cases stop with
  | none => exact hend _
  | some ret =>
      dsimp only
      by_cases hz : sent = 0
      · rw [if_pos hz]
        exact ⟨rfl, h3⟩
      · rw [if_neg hz]
        exact hend _

lemma Alike.markWriteBlocked (h : Alike e1 e2) (s : ℕ) (now : ℤ) :
    Alike (streamMarkWriteBlocked e1 s now) (streamMarkWriteBlocked e2 s now) := by
  rw [streamMarkWriteBlocked, streamMarkWriteBlocked, h.streams]
  split_ifs
  · exact h
  · exact h.setStream _ _

lemma streamSendGuarded_alike (hf : SendvFlat env) (h : Alike e1 e2)
    (hm : 0 < (e2.streams s).config.kcpMss.toNat) (flush : Bool) (now : ℤ) :
    let r1 := streamSendGuarded env (streamSendVectoredChunk env s) e1 s iov.flatten.length flush
      (vectoredSkip iov.length ⟨iov, 0, 0⟩) now
    let r2 := streamSendGuarded env (streamSendContiguousChunk env s) e2 s iov.flatten.length flush
      ⟨iov.flatten, 0⟩ now
    r1.1 = r2.1 ∧ Alike r1.2 r2.2 := by
  obtain ⟨ha1, ha2⟩ := h.ask s env.kcp.waitsnd .waitsnd
  rw [streamSendGuarded, streamSendGuarded, h.streams, h.connOf]
  dsimp only [kcpWaitsnd]
  rw [ha1]
  split_ifs
  · exact ⟨rfl, h⟩
  · exact ⟨rfl, h⟩
  · exact ⟨rfl, ha2.markWriteBlocked s now⟩
  · exact streamSendBody_alike hf ha2 hm flush now
  · exact streamSendBody_alike hf h hm flush now

/-- **The vectored send does what the flat send does.** -/
lemma streamSendv_alike (hf : SendvFlat env) (e : Engine K)
    (hm : 0 < (e.streams s).config.kcpMss.toNat) (iov : List Bytes) (flush : Bool) :
    (streamSendv env e s iov flush).1 = (streamSend env e s iov.flatten flush).1 ∧
      Alike (streamSendv env e s iov flush).2 (streamSend env e s iov.flatten flush).2 := by
  have hnil : iov.flatten.length = 0 ↔ iov.flatten = [] := List.length_eq_zero_iff
  rw [streamSendv, streamSend]
  by_cases hbad : iov.flatten.length > intMax ∨ (iov.flatten = [] ∧ flush = false)
  · rw [if_pos (by rwa [hnil]), if_pos hbad]
    exact ⟨rfl, .refl e⟩
  · rw [if_neg (by rwa [hnil]), if_neg hbad]
    have h0 : Alike
        { engineOperationEnter e.tock with stats := { e.stats with
          apiStreamSendvCalls := e.stats.apiStreamSendvCalls + 1 } }
        { engineOperationEnter e.tock with stats := { e.stats with
          apiStreamSendCalls := e.stats.apiStreamSendCalls + 1 } } :=
      ⟨e.trace, { e.stats with apiStreamSendvCalls := e.stats.apiStreamSendvCalls + 1 }, rfl, rfl,
        rfl⟩
    obtain ⟨h1, h2⟩ := @streamSendGuarded_alike K env s _ _ iov hf h0 hm flush (engineNow env e)
    exact ⟨h1, h2.leave env⟩

end Sends

/-! ### The messages -/

/-- The message an entry of the log hands to the KCP instance of the stream `s`, with the
answer. -/
def Event.message (s : ℕ) : Event → Option (Bytes × ℤ)
  | .kcp q (.send buf ret) => if q = s then some (buf, ret) else none
  | .kcp q (.sendv iov firstOffset len ret) =>
      if q = s then some ((iov.flatten.drop firstOffset).take len, ret) else none
  | _ => none

/-- The messages the stream has handed to its KCP instance, with the answers, oldest
first. -/
def Engine.messages (e : Engine K) (s : ℕ) : List (Bytes × ℤ) :=
  e.trace.reverse.filterMap (Event.message s)

lemma Event.message_flat (s : ℕ) (ev : Event) : ev.flat.message s = ev.message s := by
  cases ev with
  | kcp q call => cases call <;> rfl
  | _ => rfl

lemma Alike.messages {e1 e2 : Engine K} (h : Alike e1 e2) (s : ℕ) : e1.messages s = e2.messages s := by
  obtain ⟨tr, st, htr, hst, rfl⟩ := h
  have key : ∀ l : List Event, l.reverse.filterMap (Event.message s) =
      (l.map Event.flat).reverse.filterMap (Event.message s) := by
    intro l
    rw [← List.map_reverse, List.filterMap_map]
    exact List.filterMap_congr fun ev _ => (Event.message_flat s ev).symm
  calc tr.reverse.filterMap (Event.message s)
      = (tr.map Event.flat).reverse.filterMap (Event.message s) := key tr
    _ = (e2.trace.map Event.flat).reverse.filterMap (Event.message s) := by rw [htr]
    _ = e2.trace.reverse.filterMap (Event.message s) := (key e2.trace).symm

/-- No message is handed over from `e` to `e'`. -/
def Mute (s : ℕ) (e e' : Engine K) : Prop :=
  ∃ evs, e'.trace = evs ++ e.trace ∧ ∀ ev ∈ evs, ev.message s = none

section Messages

variable {e e1 e2 : Engine K}

lemma Mute.of_trace (h : e1.trace = e.trace) : Mute s e e1 := ⟨[], h, by simp⟩

lemma Mute.trans (h : Mute s e e1) (h' : Mute s e1 e2) : Mute s e e2 := by
  obtain ⟨evs, h1, h2⟩ := h
  obtain ⟨evs', h1', h2'⟩ := h'
  refine ⟨evs' ++ evs, by rw [h1', h1, List.append_assoc], fun ev hev => ?_⟩
  exact (List.mem_append.mp hev).elim (h2' ev) (h2 ev)

lemma Mute.messages (h : Mute s e e1) : e1.messages s = e.messages s := by
  obtain ⟨evs, h1, h2⟩ := h
  rw [Engine.messages, Engine.messages, h1, List.reverse_append, List.filterMap_append]
  rw [List.filterMap_eq_nil_iff.mpr fun ev hev => h2 ev (List.mem_reverse.mp hev), List.append_nil]

lemma kcpOutput_mute (env : Env K) (e : Engine K) (b : Bytes) : Mute s e (kcpOutput env s e b) := by
  rw [kcpOutput]
  dsimp only
  rw [protocolSendStreamPayload]
  split_ifs
  all_goals first
    | exact Mute.of_trace rfl
    | exact ⟨[.write _ _ _ _], by rw [connWriteSocketv_eq _ _ _ _ (by simp)]; rfl,
        by simp [Event.message]⟩

lemma kcpOutputs_mute (env : Env K) (l : List Bytes) : ∀ e : Engine K,
    Mute s e (l.foldl (kcpEmit env s) e) := by
  induction l with
  | nil => exact fun e => Mute.of_trace rfl
  | cons b l ih =>
      intro e
      have hlog : Mute s e (e.log (.kcpOutput s b)) :=
        ⟨[.kcpOutput s b], rfl, by simp [Event.message]⟩
      exact (hlog.trans (kcpOutput_mute env _ b)).trans (ih _)

/-- A KCP operation is logged before it puts out datagrams. -/
lemma kcpRun_mute (env : Env K) (e : Engine K) (f : ℕ → K → KcpOut K) (call : ℤ → KcpCall) :
    Mute s (e.log (.kcp s (call (kcpRun env e s f call).1.ret))) (kcpRun env e s f call).2 := by
  rw [kcpRun]
  cases (e.streams s).kcp with
  | none => exact Mute.of_trace rfl
  | some k => exact (Mute.of_trace rfl).trans (kcpOutputs_mute env _ _)

lemma log_mute (e : Engine K) {ev : Event} (h : ev.message s = none) : Mute s e (e.log ev) :=
  ⟨[ev], rfl, by simpa using h⟩

lemma kcpAsk_mute (e : Engine K) (f : ℕ → K → ℤ) (call : ℤ → KcpCall)
    (h : ∀ r, (Event.kcp s (call r)).message s = none) : Mute s e (kcpAsk e s f call).2 :=
  (log_mute e (h _)).trans (Mute.of_trace rfl)

lemma kcpSend_messages (env : Env K) (e : Engine K) (b : Bytes) :
    (kcpSend env e s b).2.messages s = e.messages s ++ [(b, (kcpSend env e s b).1)] := by
  have h := (kcpRun_mute (s := s) env e (fun t k => env.kcp.send t k b) (.send b)).messages
  rw [kcpSend]
  rw [h]
  simp [Engine.messages, Engine.log, Event.message]

/-- What comes of the messages of a send: all of them are taken, or the first one that is
refused ends it. -/
inductive SendOutcome (mss : ℕ) (buf : Bytes) : List ℤ → ℤ → Prop
  | all {answers : List ℤ} (hlen : answers.length = (Gather.slices mss buf).length)
      (h : ∀ r ∈ answers, 0 ≤ r) : SendOutcome mss buf answers buf.length
  | first {r : ℤ} (hr : r < 0) (hne : buf ≠ []) : SendOutcome mss buf [r] (-errKcpRet r)
  | later {answers : List ℤ} {r : ℤ} (h : ∀ r ∈ answers, 0 ≤ r) (hne : answers ≠ [])
      (hlen : answers.length < (Gather.slices mss buf).length) (hr : r < 0) :
      SendOutcome mss buf (answers ++ [r]) ((answers.length * mss : ℕ) : ℤ)

/-- What the loop over the messages `ms` has done when it returns `r`: it took them all, or
stopped at the first one that was refused. -/
def LoopSent (s mss : ℕ) (ms : List Bytes) (e : Engine K) (total remaining : ℕ)
    (r : Option ℤ × ℕ × Engine K) : Prop :=
  ∃ answers : List ℤ, (∀ a ∈ answers, 0 ≤ a) ∧
    ((r.1 = none ∧ answers.length = ms.length ∧ r.2.1 = total + remaining ∧
        r.2.2.messages s = e.messages s ++ ms.zip answers) ∨
      ∃ a, r.1 = some a ∧ a < 0 ∧ answers.length < ms.length ∧
        r.2.1 = total + answers.length * mss ∧
        r.2.2.messages s = e.messages s ++ ms.zip (answers ++ [a]))

lemma LoopSent.nil (mss : ℕ) (e : Engine K) (total : ℕ) :
    LoopSent s mss [] e total 0 (none, total, e) :=
  ⟨[], by simp, Or.inl ⟨rfl, rfl, rfl, by simp⟩⟩

/-- The first message is refused. -/
lemma LoopSent.stop {mss total remaining : ℕ} {m : Bytes} {ms : List Bytes} {a : ℤ} (ha : a < 0)
    (hmsg : e1.messages s = e.messages s ++ [(m, a)]) :
    LoopSent s mss (m :: ms) e total remaining (some a, total, e1) :=
  ⟨[], by simp, Or.inr ⟨a, rfl, ha, Nat.succ_pos _, by simp, by simpa using hmsg⟩⟩

/-- The first message is taken; if another one follows, it was of full size. -/
lemma LoopSent.cons {mss total remaining size : ℕ} {m : Bytes} {ms : List Bytes} {a : ℤ}
    {r : Option ℤ × ℕ × Engine K} (ha : 0 ≤ a) (hmsg : e1.messages s = e.messages s ++ [(m, a)])
    (hsize : size ≤ remaining) (hfull : ms ≠ [] → size = mss)
    (h : LoopSent s mss ms e1 (total + size) (remaining - size) r) :
    LoopSent s mss (m :: ms) e total remaining r := by
  obtain ⟨answers, hpos, hrest⟩ := h
  refine ⟨a :: answers, by simpa using ⟨ha, hpos⟩, ?_⟩
  rcases hrest with ⟨h1, h2, h3, h4⟩ | ⟨a', h1, h2, h3, h4, h5⟩
  · refine Or.inl ⟨h1, by simp [h2], by rw [h3]; omega, ?_⟩
    rw [h4, hmsg]
    simp
  · have hne : ms ≠ [] := by
      rintro rfl
      exact absurd h3 (Nat.not_lt_zero _)
    refine Or.inr ⟨a', h1, h2, by simpa using h3, ?_, ?_⟩
    · rw [h4, hfull hne, List.length_cons, Nat.succ_mul]
      omega
    · rw [h5, hmsg]
      simp

/-- The loop over the messages of a flat send, from the byte `n` on. -/
lemma sendChunkLoop_sent (env : Env K) {mss : ℕ} (hm : 0 < mss) (buf : Bytes) (rounds : ℕ) :
    ∀ (e : Engine K) (n remaining total : ℕ), remaining ≤ rounds → n + remaining = buf.length →
      LoopSent s mss (Gather.slices mss (buf.drop n)) e total remaining
        (sendChunkLoop (streamSendContiguousChunk env s) mss rounds e ⟨buf, n⟩ remaining total) := by
  have hdone : ∀ (e : Engine K) (n remaining total : ℕ), remaining = 0 →
      n + remaining = buf.length →
      LoopSent s mss (Gather.slices mss (buf.drop n)) e total remaining (none, total, e) := by
    rintro e n _ total rfl hn
    rw [List.drop_eq_nil_of_le (by omega), Gather.slices_nil hm]
    exact LoopSent.nil mss e total
  induction rounds with
  | zero => exact fun e n remaining total hle hn => hdone e n remaining total (by omega) hn
  | succ rounds ih =>
      intro e n remaining total hle hn
      rw [sendChunkLoop]
      by_cases hr : remaining = 0
      · rw [if_pos hr]
        exact hdone e n remaining total hr hn
      rw [if_neg hr]
      dsimp only
      generalize hsize : (if remaining < mss then remaining else mss) = size
      have hsz : 0 < size ∧ size ≤ remaining ∧ (size = mss ∨ size = remaining ∧ size < mss) := by
        rw [← hsize]
        split_ifs <;> omega
      -- the chunk is the first slice of what is left, and leaves the others
      have hcut : Gather.slices mss (buf.drop n) =
          (buf.drop n).take size :: Gather.slices mss (buf.drop (n + size)) := by
        rw [Gather.slices_eq_cons hm (by rw [Ne, List.drop_eq_nil_iff]; omega), List.drop_drop]
        rcases hsz.2.2 with rfl | ⟨hall, hlt⟩
        · rfl
        · have hlen : (buf.drop n).length = size := by
            rw [List.length_drop]
            omega
          have hrest : buf.drop (n + mss) = [] := List.drop_eq_nil_of_le (by omega)
          have hrest' : buf.drop (n + size) = [] := List.drop_eq_nil_of_le (by omega)
          rw [List.take_of_length_le (by omega), List.take_of_length_le hlen.le, hrest, hrest']
      have hmsg := kcpSend_messages (s := s) env e ((buf.drop n).take size)
      rw [hcut, streamSendContiguousChunk]
      dsimp only
      generalize kcpSend env e s ((buf.drop n).take size) = q at hmsg ⊢
      by_cases hneg : q.1 < 0
      · rw [if_pos hneg]
        exact LoopSent.stop hneg hmsg
      · rw [if_neg hneg, if_pos (not_lt.mp hneg)]
        refine LoopSent.cons (not_lt.mp hneg) hmsg hsz.2.1 (fun hne => ?_)
          (ih q.2 (n + size) _ _ (by omega) (by omega))
        refine hsz.2.2.resolve_right fun hlast => hne ?_
        rw [List.drop_eq_nil_of_le (by omega), Gather.slices_nil hm]

/-! ### A whole send -/

lemma engineRearmTimer_mute (e : Engine K) (now : ℤ) : Mute s e (engineRearmTimer e now) := by
  obtain ⟨a, d, evs, heq, hev⟩ := engineRearmTimer_eq e now
  rw [heq]
  refine ⟨evs, rfl, fun ev hm => ?_⟩
  have := (hev ev hm).subject
  cases ev <;> simp_all [Event.subject, Event.message]

lemma engineScheduleTimerNode_mute (env : Env K) (e : Engine K) (o : Owner) (d now : ℤ) :
    Mute s e (engineScheduleTimerNode env e o d now).2 := by
  rw [engineScheduleTimerNode]
  dsimp only
  generalize (if d < now then now else d) = deadline
  split_ifs
  · exact Mute.of_trace rfl
  · exact (Mute.of_trace rfl).trans (engineRearmTimer_mute _ now)
  · exact Mute.of_trace rfl

lemma streamAccumulateUpdate_mute (env : Env K) (e : Engine K) (now : ℤ) :
    Mute s e (streamAccumulateUpdate env e s now) := by
  rw [streamAccumulateUpdate]
  dsimp only
  split_ifs
  · exact engineScheduleTimerNode_mute env e _ _ _
  · exact Mute.of_trace rfl
  · exact (Mute.of_trace rfl).trans (engineScheduleTimerNode_mute env _ _ _ _)
  · exact (Mute.of_trace rfl).trans (engineScheduleTimerNode_mute env _ _ _ _)
  · exact Mute.of_trace rfl
  · exact Mute.of_trace rfl

lemma kcpUpdate_mute (env : Env K) (e : Engine K) (now : ℤ) : Mute s e (kcpUpdate env e s now) :=
  (log_mute e rfl).trans (kcpRun_mute env e _ fun _ => .update now)

lemma kcpCurrentUpdate_mute (env : Env K) (e : Engine K) (now : ℤ) :
    Mute s e (kcpCurrentUpdate env e s now) :=
  (log_mute e rfl).trans (kcpRun_mute env e _ fun _ => .currentUpdate now)

lemma streamSendFinish_mute (env : Env K) (e : Engine K) (flush : Bool) (now : ℤ) :
    Mute s e (streamSendFinish env e s flush now) := by
  rw [streamSendFinish]
  split_ifs
  · have h1 : Mute s e (streamClearPending e s) := Mute.of_trace rfl
    have h2 := h1.trans (kcpUpdate_mute env _ now)
    have h3 := h2.trans (kcpAsk_mute _ (fun t k => env.kcp.check t k now) (.check now) fun _ => rfl)
    exact h3.trans (engineScheduleTimerNode_mute env _ _ _ _)
  · exact streamAccumulateUpdate_mute env e now

/-- The messages of the part of a flat send after the write-block check. -/
lemma streamSendBody_sent (env : Env K) (e : Engine K) {buf : Bytes}
    (hm : 0 < (e.streams s).config.kcpMss.toNat) (flush : Bool) (now : ℤ) :
    let r := streamSendBody env (streamSendContiguousChunk env s) e s buf.length flush ⟨buf, 0⟩ now
    ∃ answers, SendOutcome (e.streams s).config.kcpMss.toNat buf answers r.1 ∧
      r.2.messages s = e.messages s ++
        (Gather.slices (e.streams s).config.kcpMss.toNat buf).zip answers := by
  have hcfg : ((kcpCurrentUpdate env e s now).streams s).config = (e.streams s).config := by
    rw [kcpCurrentUpdate, kcpRun_config]
  have hmsg0 := (kcpCurrentUpdate_mute (s := s) env e now).messages
  rw [streamSendBody]
  dsimp only
  rw [hcfg]
  obtain ⟨answers, hpos, hloop⟩ := sendChunkLoop_sent (s := s) env hm buf buf.length
    (kcpCurrentUpdate env e s now) 0 buf.length 0 le_rfl (Nat.zero_add _)
  rw [List.drop_zero, hmsg0] at hloop
  generalize sendChunkLoop (streamSendContiguousChunk env s) _ _ _ _ _ _ = r at hloop ⊢
  obtain ⟨stop, sent, e1⟩ := r
  dsimp only at hloop ⊢
  -- what follows the loop hands over no message
  have hend : ∀ x : Stream K,
      let r : ℤ × Engine K := if sent = 0 ∧ flush = false then (0, e1.setStream s x)
        else (sent, streamSendFinish env (e1.setStream s x) s flush now)
      r.1 = sent ∧ r.2.messages s = e1.messages s := by
    intro x
    have hset : Mute s e1 (e1.setStream s x) := Mute.of_trace rfl
    dsimp only
    split_ifs with hz
    · exact ⟨by rw [hz.1]; rfl, hset.messages⟩
    · exact ⟨rfl, (hset.trans (streamSendFinish_mute env _ flush now)).messages⟩
  rcases hloop with ⟨rfl, hlen, rfl, hmsg⟩ | ⟨a, rfl, ha, hlen, rfl, hmsg⟩
  · refine ⟨answers, ?_, ?_⟩
    · rw [(hend _).1, Nat.zero_add]
      exact .all hlen hpos
    · rw [(hend _).2, hmsg]
  · refine ⟨answers ++ [a], ?_⟩
    by_cases hnil : answers = []
    · subst hnil
      have hne : buf ≠ [] := by
        rintro rfl
        rw [Gather.slices_nil hm] at hlen
        exact absurd hlen (Nat.not_lt_zero _)
      have hsent : 0 + ([] : List ℤ).length * (e.streams s).config.kcpMss.toNat = 0 := by simp
      dsimp only
      rw [if_pos hsent]
      exact ⟨.first ha hne, hmsg⟩
    · have hsent : 0 + answers.length * (e.streams s).config.kcpMss.toNat ≠ 0 := by
        rw [Nat.zero_add]
        exact Nat.mul_ne_zero (by simpa using hnil) hm.ne'
      dsimp only
      rw [if_neg hsent]
      refine ⟨?_, by rw [(hend _).2, hmsg]⟩
      rw [(hend _).1, Nat.zero_add]
      exact .later hpos hnil hlen ha

lemma engineOperationLeave_mute (env : Env K) (e : Engine K) :
    Mute s e (engineOperationLeave env e) := by
  rw [engineOperationLeave]
  dsimp only
  rw [engineDrainPendingRelease_eq]
  split_ifs
  · exact Mute.of_trace rfl
  · exact Mute.of_trace rfl
  · refine Mute.trans ?_ (engineRearmTimer_mute _ _)
    exact ⟨(e.pendingReleaseList.map Event.release).reverse, rfl, by simp [Event.message]⟩

/-- The send gets as far as the KCP instance: its arguments are in order, the stream is open on
a connected connection, and it is not write-blocked. -/
def SendOpen (env : Env K) (e : Engine K) (s : ℕ) (buf : Bytes) (flush : Bool) : Prop :=
  ¬ (buf.length > intMax ∨ (buf = [] ∧ flush = false)) ∧ (e.streams s).internalClosed = false ∧
    (e.streams s).state = .opened ∧ (e.connOf s).state = .connected ∧
    (buf ≠ [] →
      (kcpWaitsnd env e.tock s).1 < (e.streams s).config.sendPauseThreshold.toInt32.toInt)

/-- The messages of a flat send, or none if it is turned away. -/
lemma streamSendGuarded_sent (env : Env K) (e : Engine K) (buf : Bytes)
    (hm : 0 < (e.streams s).config.kcpMss.toNat) (flush : Bool) (now : ℤ) :
    let r := streamSendGuarded env (streamSendContiguousChunk env s) e s buf.length flush
      ⟨buf, 0⟩ now
    let opened := (e.streams s).internalClosed = false ∧ (e.streams s).state = .opened ∧
      (e.connOf s).state = .connected ∧
      (buf ≠ [] → (kcpWaitsnd env e s).1 < (e.streams s).config.sendPauseThreshold.toInt32.toInt)
    (opened → ∃ answers, SendOutcome (e.streams s).config.kcpMss.toNat buf answers r.1 ∧
      r.2.messages s = e.messages s ++
        (Gather.slices (e.streams s).config.kcpMss.toNat buf).zip answers) ∧
    (¬ opened → r.1 ≤ 0 ∧ r.2.messages s = e.messages s) := by
  have hask : Mute s e (kcpWaitsnd env e s).2 := kcpAsk_mute e _ _ fun _ => rfl
  have hmark : ∀ e : Engine K, Mute s e (streamMarkWriteBlocked e s now) := by
    intro e
    rw [streamMarkWriteBlocked]
    split_ifs <;> exact Mute.of_trace rfl
  have hcode : -errClosed ≤ 0 ∧ -errState ≤ 0 := by decide
  rw [streamSendGuarded]
  dsimp only
  split_ifs with hcl hst hsize hblock
  · exact ⟨fun h => absurd (h.1.symm.trans hcl) (by decide), fun _ => ⟨hcode.1, rfl⟩⟩
  · exact ⟨fun h => absurd hst (by simp [h.2.1, h.2.2.1]), fun _ => ⟨hcode.2, rfl⟩⟩
  · have hne : buf ≠ [] := List.length_pos_iff.mp hsize
    exact ⟨fun h => absurd (h.2.2.2 hne) (not_lt.mpr hblock),
      fun _ => ⟨le_rfl, (hask.trans (hmark _)).messages⟩⟩
  · refine ⟨fun _ => ?_, fun h => absurd ⟨by simpa using hcl, ?_, ?_, fun _ => not_le.mp hblock⟩ h⟩
    · rw [← hask.messages]
      exact streamSendBody_sent env (kcpWaitsnd env e s).2 hm flush now
    · exact not_not.mp (not_or.mp hst).1
    · exact not_not.mp (not_or.mp hst).2
  · have hnil : buf = [] := List.length_eq_zero_iff.mp (by omega)
    refine ⟨fun _ => streamSendBody_sent env e hm flush now,
      fun h => absurd ⟨by simpa using hcl, ?_, ?_, fun hne => absurd hnil hne⟩ h⟩
    · exact not_not.mp (not_or.mp hst).1
    · exact not_not.mp (not_or.mp hst).2

lemma streamSend_sent (env : Env K) (e : Engine K) (buf : Bytes)
    (hm : 0 < (e.streams s).config.kcpMss.toNat) (flush : Bool) :
    (SendOpen env e s buf flush → ∃ answers,
      SendOutcome (e.streams s).config.kcpMss.toNat buf answers (streamSend env e s buf flush).1 ∧
      (streamSend env e s buf flush).2.messages s = e.messages s ++
        (Gather.slices (e.streams s).config.kcpMss.toNat buf).zip answers) ∧
    (¬ SendOpen env e s buf flush → (streamSend env e s buf flush).1 ≤ 0 ∧
      (streamSend env e s buf flush).2.messages s = e.messages s) := by
  rw [streamSend]
  by_cases hbad : buf.length > intMax ∨ (buf = [] ∧ flush = false)
  · rw [if_pos hbad]
    have hcode : -errInvalidParam ≤ 0 := by decide
    exact ⟨fun h => absurd hbad h.1, fun _ => ⟨hcode, rfl⟩⟩
  · rw [if_neg hbad]
    obtain ⟨h1, h2⟩ := streamSendGuarded_sent (s := s) env
      { engineOperationEnter e.tock with stats := { e.stats with
        apiStreamSendCalls := e.stats.apiStreamSendCalls + 1 } } buf hm flush (engineNow env e)
    rw [streamSendChunks]
    dsimp only
    rw [(engineOperationLeave_mute env _).messages]
    exact ⟨fun h => h1 h.2, fun h => h2 fun ho => h ⟨hbad, ho⟩⟩

end Messages

/-- **A vectored send equals a flat send** of the concatenated bytes: the same result, the
same messages, and the same engine up to the counter of the call.  The messages of a send that
gets as far as the KCP instance are the slices of the input, up to the first one that is
refused; if some were taken before, the result is their length.  Every round of the copy and of the
advance reads a fragment of the array, and they end. -/
theorem sendv_equals_send (hf : SendvFlat env) (e : Engine K) (s : ℕ)
    (hm : 0 < (e.streams s).config.kcpMss.toNat) (iov : List Bytes) (flush : Bool) :
    (streamSendv env e s iov flush).1 = (streamSend env e s iov.flatten flush).1 ∧
    Alike (streamSendv env e s iov flush).2 (streamSend env e s iov.flatten flush).2 ∧
    (streamSendv env e s iov flush).2.messages s =
      (streamSend env e s iov.flatten flush).2.messages s ∧
    (SendOpen env e s iov.flatten flush → ∃ answers,
      SendOutcome (e.streams s).config.kcpMss.toNat iov.flatten answers
        (streamSendv env e s iov flush).1 ∧
      (streamSendv env e s iov flush).2.messages s = e.messages s ++
        (Gather.slices (e.streams s).config.kcpMss.toNat iov.flatten).zip answers) ∧
    (¬ SendOpen env e s iov.flatten flush → (streamSendv env e s iov flush).1 ≤ 0 ∧
      (streamSendv env e s iov flush).2.messages s = e.messages s) ∧
    ∀ n context size, CursorAt iov n context → n + size ≤ iov.flatten.length →
      VectoredRounds context size (vectoredCopyLoop (size + context.iov.length) context size)
        (vectoredAdvanceLoop (size + context.iov.length) context size) ∧
      vectoredCopy context size = (iov.flatten.drop n).take size ∧ ¬ context.AtEmpty := by
  obtain ⟨h1, h2⟩ := streamSendv_alike hf e hm iov flush
  have hmsg := h2.messages s
  obtain ⟨hopen, hclosed⟩ := streamSend_sent env e iov.flatten hm flush
  refine ⟨h1, h2, hmsg, ?_, ?_, fun n context size hc hle => ⟨hc.rounds hle, hc.copy hle, hc.spec.2.2.2⟩⟩
  · rw [h1, hmsg]
    exact hopen
  · rw [h1, hmsg]
    exact hclosed

/-- A host whose KCP takes messages in fragments. -/
def gatherHost : Env Unit :=
  { idealHost 0 0 with kcp := { voidKcp with
    sendv := some fun t k iov firstOffset len =>
      voidKcp.send t k ((iov.flatten.drop firstOffset).take len) } }

/-- Three fragments, one of them empty, are sent as one message of three bytes. -/
theorem sendv_equals_send_three_fragments :
    SendvFlat gatherHost ∧ 0 < (streaming.streams 0).config.kcpMss.toNat ∧
      (streamSendv gatherHost streaming 0 [[1, 2], [], [3]] true).1 =
        (streamSend gatherHost streaming 0 [1, 2, 3] true).1 ∧
      (streamSendv gatherHost streaming 0 [[1, 2], [], [3]] true).1 = 3 := by
  have hf : SendvFlat gatherHost := by
    intro sendv h t k iov firstOffset len _ _
    cases h
    rfl
  have hm : 0 < (streaming.streams 0).config.kcpMss.toNat := by decide +kernel
  exact ⟨hf, hm, (sendv_equals_send hf streaming 0 hm [[1, 2], [], [3]] true).1, by decide +kernel⟩

end KcpMux
