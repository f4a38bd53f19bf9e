import KcpMux.Safety.PeerStreams
import KcpMux.Safety.Backpressure
import KcpMux.Safety.ReadWakeup

/-!
The times a stream was blocked.

A stream stamps the time at which it becomes read- or write-blocked, and when it is released
the time since then is added to a counter.  `BlockMove` is what a call can do to a stream that
exists: every stamp and every release uses a reading of the clock from within the call, so that
the stamp that is subtracted lies before it and nothing wraps (`BlockMove.timely`).  The
exception is a payload that creates its stream: the stamp is read after the receive time, and
the first release subtracts it from the receive time.  `block_times_never_wrap` is about the
runs in which the clock stands still between these two readings.
-/

namespace KcpMux

variable {K : Type}

namespace Blocks

/-- A new stream waits for data from the time `now` on. -/
def born (now : ℤ) : Blocks where
  readBlocked := true
  readStart := now
  readTime := 0
  ttfb := 0
  writeBlocked := false
  writeStart := 0
  writeTime := 0

def blockRead (b : Blocks) (now : ℤ) : Blocks := { b with readStart := now, readBlocked := true }

def blockWrite (b : Blocks) (now : ℤ) : Blocks := { b with writeStart := now, writeBlocked := true }

/-- The reader has waited until `now`, for the first time if `first`. -/
def unblockRead (b : Blocks) (first : Bool) (now : ℤ) : Blocks :=
  if 0 < b.readStart then
    { b with
      ttfb := if first then UInt64.ofInt (now - b.readStart) else b.ttfb
      readTime := b.readTime + UInt64.ofInt (now - b.readStart)
      readStart := 0, readBlocked := false }
  else { b with readBlocked := false }

def unblockWrite (b : Blocks) (now : ℤ) : Blocks :=
  if 0 < b.writeStart then
    { b with
      writeTime := b.writeTime + UInt64.ofInt (now - b.writeStart)
      writeStart := 0, writeBlocked := false }
  else { b with writeBlocked := false }

@[simp] lemma unblockRead_readBlocked (b : Blocks) (first : Bool) (now : ℤ) :
    (b.unblockRead first now).readBlocked = false := by
  rw [unblockRead]
  split_ifs <;> rfl

end Blocks

lemma Stream.blocks_unblockRead (x : Stream K) (now : ℤ) :
    (x.unblockRead now).blocks = x.blocks.unblockRead (x.stats.readBlockCount = 1) now := by
  rw [Stream.unblockRead, Blocks.unblockRead]
  by_cases h : 0 < x.blocks.readStart
  · rw [if_pos h, if_pos (show x.readBlockStartTs > 0 from h)]
    by_cases h1 : x.stats.readBlockCount = 1
    · simp only [Stream.blocks, h1, if_true, decide_true]
    · simp only [Stream.blocks, h1, if_false, decide_false, Bool.false_eq_true]
  · rw [if_neg h, if_neg (show ¬ x.readBlockStartTs > 0 from h)]
    rfl

lemma Stream.blocks_unblockWrite (x : Stream K) (now : ℤ) :
    (x.unblockWrite now).blocks = x.blocks.unblockWrite now := by
  rw [Stream.unblockWrite, Blocks.unblockWrite]
  by_cases h : 0 < x.blocks.writeStart
  · rw [if_pos h, if_pos (show x.writeBlockStartTs > 0 from h)]
    rfl
  · rw [if_neg h, if_neg (show ¬ x.writeBlockStartTs > 0 from h)]
    rfl

/-! ### Counters and the clock -/

/-- A clock of the host: it does not go back, and its readings are `int64_t` values. -/
structure HostClock (clock : ℕ → ℤ) : Prop where
  mono : Monotone clock
  lower : ∀ k, -2 ^ 63 ≤ clock k
  upper : ∀ k, clock k < 2 ^ 63

/-- The counter `time` is at most what had passed since `born` at some reading up to `t`, and
the stamp of a blocked stream was read from then on. -/
def Elapsed (clock : ℕ → ℤ) (t : ℕ) (born : ℤ) (blocked : Bool) (start : ℤ) (time : UInt64) :
    Prop :=
  ∃ k ≤ t, (time.toNat : ℤ) ≤ clock k - born ∧
    (blocked = true → 0 < start → ∃ j, k ≤ j ∧ j ≤ t ∧ clock j = start)

section Clock

variable {clock : ℕ → ℤ} {t t' : ℕ} {born start : ℤ} {blocked : Bool} {time : UInt64}

lemma Elapsed.mono (ht : t ≤ t') (h : Elapsed clock t born blocked start time) :
    Elapsed clock t' born blocked start time := by
  obtain ⟨k, hk, htime, hb⟩ := h
  refine ⟨k, hk.trans ht, htime, fun h1 h2 => ?_⟩
  obtain ⟨j, hkj, hj, hs⟩ := hb h1 h2
  exact ⟨j, hkj, hj.trans ht, hs⟩

/-- The stream becomes blocked. -/
lemma Elapsed.block {j : ℕ} (htj : t ≤ j) (hj : j ≤ t')
    (h : Elapsed clock t born blocked start time) : Elapsed clock t' born true (clock j) time := by
  obtain ⟨k, hk, htime, -⟩ := h
  exact ⟨k, by omega, htime, fun _ _ => ⟨j, by omega, hj, rfl⟩⟩

/-- A stream that is not blocked has no stamp. -/
lemma Elapsed.unblocked (ht : t ≤ t') {start' : ℤ} (h : Elapsed clock t born blocked start time) :
    Elapsed clock t' born false start' time := by
  obtain ⟨k, hk, htime, -⟩ := h
  exact ⟨k, hk.trans ht, htime, fun h => by cases h⟩

/-- **The stream is released.**  The stamp was read before, so the time since then is added
and nothing wraps. -/
lemma Elapsed.release (hc : HostClock clock) {j : ℕ} (htj : t ≤ j) (hj : j ≤ t')
    (hborn : -2 ^ 63 ≤ born) (hb : blocked = true) (hpos : 0 < start)
    (h : Elapsed clock t born blocked start time) :
    Elapsed clock t' born false 0 (time + UInt64.ofInt (clock j - start)) ∧
      (time + UInt64.ofInt (clock j - start)).toNat =
        time.toNat + (UInt64.ofInt (clock j - start)).toNat := by
  obtain ⟨k, hk, htime, hstamp⟩ := h
  obtain ⟨i, hki, hi, rfl⟩ := hstamp hb hpos
  have hij : clock i ≤ clock j := hc.mono (by omega)
  have hki : clock k ≤ clock i := hc.mono hki
  have hup := hc.upper j
  have helapsed : ((UInt64.ofInt (clock j - clock i)).toNat : ℤ) = clock j - clock i := by
    simp [UInt64.ofInt]
    omega
  have hsum : (time + UInt64.ofInt (clock j - clock i)).toNat =
      time.toNat + (UInt64.ofInt (clock j - clock i)).toNat := by
    rw [UInt64.toNat_add]
    exact Nat.mod_eq_of_lt (by omega)
  refine ⟨⟨j, hj, ?_, fun h => by cases h⟩, hsum⟩
  rw [hsum]
  push_cast
  omega

/-- The counters of a stream that was created at the time `born`. -/
structure Timely (clock : ℕ → ℤ) (t : ℕ) (born : ℤ) (b : Blocks) : Prop where
  lower : -2 ^ 63 ≤ born
  read : Elapsed clock t born b.readBlocked b.readStart b.readTime
  write : Elapsed clock t born b.writeBlocked b.writeStart b.writeTime
  ttfb : b.ttfb.toNat ≤ b.readTime.toNat

/-- What a call between the ticks `t0` and `t` does to the blocked times of a stream. -/
inductive BlockMove (clock : ℕ → ℤ) (t0 t : ℕ) (b : Blocks) : Blocks → Prop
  | same : BlockMove clock t0 t b b
  | blockRead {k : ℕ} (h0 : t0 ≤ k) (hk : k ≤ t) : BlockMove clock t0 t b (b.blockRead (clock k))
  | unblockRead {k : ℕ} (first : Bool) (h0 : t0 ≤ k) (hk : k ≤ t) (hb : b.readBlocked = true) :
      BlockMove clock t0 t b (b.unblockRead first (clock k))
  | blockWrite {k : ℕ} (h0 : t0 ≤ k) (hk : k ≤ t) : BlockMove clock t0 t b (b.blockWrite (clock k))
  | unblockWrite {k : ℕ} (h0 : t0 ≤ k) (hk : k ≤ t) (hb : b.writeBlocked = true) :
      BlockMove clock t0 t b (b.unblockWrite (clock k))

/-- **No duration is negative** in a call: the counters stay timely and do not decrease. -/
lemma BlockMove.timely (hc : HostClock clock) {b b' : Blocks} (h : BlockMove clock t t' b b')
    (ht : t ≤ t') (hb : Timely clock t born b) :
    Timely clock t' born b' ∧ b.readTime.toNat ≤ b'.readTime.toNat ∧
      b.writeTime.toNat ≤ b'.writeTime.toNat := by
  have hr := hb.read
  have hw := hb.write
  cases h with
  | same => exact ⟨⟨hb.lower, hr.mono ht, hw.mono ht, hb.ttfb⟩, le_rfl, le_rfl⟩
  | blockRead h0 hk => exact ⟨⟨hb.lower, hr.block h0 hk, hw.mono ht, hb.ttfb⟩, le_rfl, le_rfl⟩
  | blockWrite h0 hk => exact ⟨⟨hb.lower, hr.mono ht, hw.block h0 hk, hb.ttfb⟩, le_rfl, le_rfl⟩
  | unblockRead first h0 hk hblocked =>
      rw [Blocks.unblockRead]
      by_cases hpos : 0 < b.readStart
      · obtain ⟨hr', hsum⟩ := hr.release hc h0 hk hb.lower hblocked hpos
        rw [if_pos hpos]
        refine ⟨⟨hb.lower, hr', hw.mono ht, ?_⟩, ?_, le_rfl⟩
        · have := hb.ttfb
          dsimp only
          rw [hsum]
          split_ifs <;> omega
        · dsimp only
          rw [hsum]
          exact Nat.le_add_right _ _
      · rw [if_neg hpos]
        exact ⟨⟨hb.lower, hr.unblocked ht, hw.mono ht, hb.ttfb⟩, le_rfl, le_rfl⟩
  | unblockWrite h0 hk hblocked =>
      rw [Blocks.unblockWrite]
      by_cases hpos : 0 < b.writeStart
      · obtain ⟨hw', hsum⟩ := hw.release hc h0 hk hb.lower hblocked hpos
        rw [if_pos hpos]
        refine ⟨⟨hb.lower, hr.mono ht, hw', hb.ttfb⟩, le_rfl, ?_⟩
        dsimp only
        rw [hsum]
        exact Nat.le_add_right _ _
      · rw [if_neg hpos]
        exact ⟨⟨hb.lower, hr.mono ht, hw.unblocked ht, hb.ttfb⟩, le_rfl, le_rfl⟩

/-- A new stream. -/
lemma timely_born (hc : HostClock clock) {k : ℕ} (hk : k ≤ t) :
    Timely clock t (clock k) (Blocks.born (clock k)) := by
  refine ⟨hc.lower k, ⟨k, hk, ?_, fun _ _ => ⟨k, le_rfl, hk, rfl⟩⟩,
    ⟨k, hk, ?_, fun h => by cases h⟩, le_rfl⟩
  all_goals simp [Blocks.born]

end Clock

/-! ### The functions that stamp and release -/

section Functions

variable {env : Env K} {e e' : Engine K} {s : ℕ}

lemma streamAccumulateUpdate_calm (env : Env K) (s : ℕ) (e : Engine K) (now : ℤ) :
    FlowCalm s e (streamAccumulateUpdate env e s now) := by
  rw [streamAccumulateUpdate]
  dsimp only
  have hbump : ∀ l, FlowCalm s e { e.setStream s { e.streams s with
      pendingCount := (e.streams s).pendingCount + 1 } with pendingBatchStreams := l } := by
    intro l
    constructor <;> simp +contextual [Engine.setStream, Stream.blocks]
  split_ifs
  · exact engineScheduleTimerNode_calm env s e _ _ _
  · exact FlowCalm.refl s e
  · exact (hbump _).trans (engineScheduleTimerNode_calm env s _ _ _ _)
  · exact (hbump _).trans (engineScheduleTimerNode_calm env s _ _ _ _)
  · exact hbump _
  · exact hbump _

/-- **Data arrives**: a waiting reader is released at the receive time. -/
lemma streamHandlePayload_blocks (env : Env K) (e : Engine K) (s : ℕ) (buf : Bytes) (recv : ℤ) :
    ((streamHandlePayload env e s buf recv).2.streams s).blocks = (e.streams s).blocks ∨
      (e.streams s).blocks.readBlocked = true ∧ ∃ first,
        ((streamHandlePayload env e s buf recv).2.streams s).blocks =
          (e.streams s).blocks.unblockRead first recv := by
  rw [streamHandlePayload]
  dsimp only
  have h1 : FlowCalm s e (e.setStream s { e.streams s with stats := { (e.streams s).stats with
      rxPackets := (e.streams s).stats.rxPackets + 1
      rxBytes := (e.streams s).stats.rxBytes + buf.length } }) := by
    constructor <;> simp +contextual [Engine.setStream, Stream.blocks]
  generalize e.setStream s _ = e1 at h1
  have h4 : FlowCalm s e (streamAccumulateUpdate env
      (kcpInput env (kcpCurrentUpdate env e1 s recv) s buf).2 s recv) :=
    ((h1.trans (kcpRun_calm env s e1 _ _)).trans (kcpRun_calm env s _ _ _)).trans
      (streamAccumulateUpdate_calm env s _ recv)
  split_ifs
  · exact Or.inl rfl
  · exact Or.inl rfl
  · exact Or.inl rfl
  · exact Or.inl h4.blocks
  generalize streamAccumulateUpdate env _ s recv = e4 at h4 ⊢
  rw [streamRecoverRead]
  dsimp only
  by_cases hb : (e4.streams s).state = .opened ∧ (e4.streams s).readBlocked = true
  · rw [if_pos hb]
    split_ifs with hpeek hcb
    · refine Or.inr ⟨(congrArg Blocks.readBlocked h4.blocks).symm.trans hb.2,
        decide ((e4.streams s).stats.readBlockCount = 1), ?_⟩
      rw [← h4.blocks, ← Stream.blocks_unblockRead]
      simp [kcpPeeksize, kcpAsk, Engine.setStream, Engine.log, Engine.tock]
    · refine Or.inr ⟨(congrArg Blocks.readBlocked h4.blocks).symm.trans hb.2,
        decide ((e4.streams s).stats.readBlockCount = 1), ?_⟩
      rw [← h4.blocks, ← Stream.blocks_unblockRead]
      simp [kcpPeeksize, kcpAsk, Engine.setStream, Engine.log, Engine.tock]
    · exact Or.inl h4.blocks
  · rw [if_neg hb]
    exact Or.inl h4.blocks

/-- No writer is released, or a blocked one at `now`. -/
def WriteReleased (now : ℤ) (b b' : Blocks) : Prop :=
  b' = b ∨ b.writeBlocked = true ∧ b' = b.unblockWrite now

lemma WriteReleased.trans {now : ℤ} {b b1 b2 : Blocks} (h : WriteReleased now b b1)
    (h' : WriteReleased now b1 b2) : WriteReleased now b b2 := by
  rcases h with rfl | ⟨hb, rfl⟩
  · exact h'
  · rcases h' with rfl | ⟨hb1, -⟩
    · exact Or.inr ⟨hb, rfl⟩
    · rw [Blocks.unblockWrite] at hb1
      split_ifs at hb1

lemma streamRecoverWrite_blocks (env : Env K) (e : Engine K) (s : ℕ) (now : ℤ) :
    WriteReleased now (e.streams s).blocks ((streamRecoverWrite env e s now).streams s).blocks ∧
      ∀ q, q ≠ s → (streamRecoverWrite env e s now).streams q = e.streams q := by
  rw [streamRecoverWrite]
  by_cases hb : (e.streams s).writeBlocked = false
  · rw [if_pos hb]
    exact ⟨Or.inl rfl, fun _ _ => rfl⟩
  · rw [if_neg hb]
    dsimp only
    have hb' : (e.streams s).blocks.writeBlocked = true := (Bool.not_eq_false _).mp hb
    split_ifs with hlow hcb
    · refine ⟨Or.inr ⟨hb', ?_⟩, ?_⟩
      · rw [← Stream.blocks_unblockWrite]
        simp [kcpWaitsnd, kcpAsk, Engine.setStream, Engine.log, Engine.tock]
      · simp +contextual [kcpWaitsnd, kcpAsk, Engine.setStream, Engine.log, Engine.tock]
    · refine ⟨Or.inr ⟨hb', ?_⟩, ?_⟩
      · rw [← Stream.blocks_unblockWrite]
        simp [kcpWaitsnd, kcpAsk, Engine.setStream, Engine.log, Engine.tock]
      · simp +contextual [kcpWaitsnd, kcpAsk, Engine.setStream, Engine.log, Engine.tock]
    · exact ⟨Or.inl rfl, fun _ _ => rfl⟩

/-- **The timer of an open stream** releases a blocked writer at the time of the update. -/
lemma streamUpdateOpen_blocks (env : Env K) (e : Engine K) (s : ℕ) (now : ℤ) :
    WriteReleased now (e.streams s).blocks ((streamUpdateOpen env e s now).streams s).blocks ∧
      ∀ q, q ≠ s → (streamUpdateOpen env e s now).streams q = e.streams q := by
  rw [streamUpdateOpen]
  have h1 : FlowCalm s e (kcpUpdate env (streamClearPending e s) s now) :=
    (streamClearPending_calm s e).trans (kcpRun_calm env s _ _ _)
  generalize kcpUpdate env (streamClearPending e s) s now = e1 at h1 ⊢
  obtain ⟨hrel, hother⟩ := streamRecoverWrite_blocks env e1 s now
  generalize streamRecoverWrite env e1 s now = e2 at hrel hother ⊢
  have h3 : FlowCalm s e2 (engineScheduleTimerNode env (kcpCheck env e2 s now).2 (.stream s)
      (kcpCheck env e2 s now).1 now).2 :=
    (kcpAsk_calm s _ _ _).trans (engineScheduleTimerNode_calm env s _ _ _ _)
  refine ⟨?_, fun q hq => ?_⟩
  · rw [h3.blocks, ← h1.blocks]
    exact hrel
  · exact (h3.others q hq).trans ((hother q hq).trans (h1.others q hq))

section Send

variable {C : Type} {f : SendChunk K C}

/-- The chunk senders leave the blocked times alone. -/
lemma streamSendContiguousChunk_calm (env : Env K) (s : ℕ) (e : Engine K)
    (context : ContiguousSendContext) (size : ℕ) :
    FlowCalm s e (streamSendContiguousChunk env s e context size).2.1 := kcpRun_calm env s e _ _

lemma streamSendVectoredChunk_calm (env : Env K) (s : ℕ) (e : Engine K)
    (context : VectoredSendContext) (size : ℕ) :
    FlowCalm s e (streamSendVectoredChunk env s e context size).2.1 := by
  rw [streamSendVectoredChunk]
  dsimp only
  cases env.kcp.sendv with
  | none => exact kcpRun_calm env s e _ _
  | some sendv => exact kcpRun_calm env s e _ _

lemma sendChunkLoop_calm (hf : ∀ e context size, FlowCalm s e (f e context size).2.1)
    (chunkSize rounds : ℕ) : ∀ (e : Engine K) (context : C) (remaining total : ℕ),
      FlowCalm s e (sendChunkLoop f chunkSize rounds e context remaining total).2.2 := by
  induction rounds with
  | zero => exact fun e _ _ _ => FlowCalm.refl s e
  | succ rounds ih =>
      intro e context remaining total
      rw [sendChunkLoop]
      dsimp only
      generalize (if remaining < chunkSize then remaining else chunkSize) = size
      split_ifs
      · exact FlowCalm.refl s e
      · exact hf e context size
      · exact (hf e context size).trans (ih _ _ _ _)

lemma streamSendFinish_calm (env : Env K) (s : ℕ) (e : Engine K) (flush : Bool) (now : ℤ) :
    FlowCalm s e (streamSendFinish env e s flush now) := by
  rw [streamSendFinish]
  split_ifs
  · exact (((streamClearPending_calm s e).trans (kcpRun_calm env s _ _ _)).trans
      (kcpAsk_calm s _ _ _)).trans (engineScheduleTimerNode_calm env s _ _ _ _)
  · exact streamAccumulateUpdate_calm env s e now

lemma streamSendBody_calm (hf : ∀ e context size, FlowCalm s e (f e context size).2.1)
    (e : Engine K) (size : ℕ) (flush : Bool) (context : C) (now : ℤ) :
    FlowCalm s e (streamSendBody env f e s size flush context now).2 := by
  rw [streamSendBody]
  dsimp only
  have h1 : FlowCalm s e (kcpCurrentUpdate env e s now) := kcpRun_calm env s e _ _
  generalize kcpCurrentUpdate env e s now = e1 at h1 ⊢
  have h2 := h1.trans (sendChunkLoop_calm hf (e1.streams s).config.kcpMss.toNat size e1 context size 0)
  generalize sendChunkLoop f (e1.streams s).config.kcpMss.toNat size e1 context size 0 = r at h2 ⊢
  obtain ⟨stop, total, e2⟩ := r
  have h3 : FlowCalm s e2 (e2.setStream s { e2.streams s with stats := { (e2.streams s).stats with
      upSentBytes := (e2.streams s).stats.upSentBytes + total } }) := by
    constructor <;> simp +contextual [Engine.setStream, Stream.blocks]
  have hend : FlowCalm s e (if total = 0 ∧ flush = false then ((0 : ℤ), e2.setStream s
      { e2.streams s with stats := { (e2.streams s).stats with
        upSentBytes := (e2.streams s).stats.upSentBytes + total } })
      else ((total : ℤ), streamSendFinish env (e2.setStream s
        { e2.streams s with stats := { (e2.streams s).stats with
          upSentBytes := (e2.streams s).stats.upSentBytes + total } }) s flush now)).2 := by
    split_ifs
    · exact h2.trans h3
    · exact (h2.trans h3).trans (streamSendFinish_calm env s _ flush now)
  cases stop with
  | none => exact hend
  | some a =>
      dsimp only
      by_cases htotal : total = 0
      · rw [if_pos htotal]
        exact h2
      · rw [if_neg htotal]
        exact hend

/-- **A send** marks a stream as blocked at the time it began. -/
lemma streamSendChunks_blocks (hf : ∀ e context size, FlowCalm s e (f e context size).2.1)
    (e : Engine K) (size : ℕ) (flush vectored : Bool) (context : C) :
    ((streamSendChunks env f e s size flush vectored context).2.streams s).blocks =
        (e.streams s).blocks ∨
      ((streamSendChunks env f e s size flush vectored context).2.streams s).blocks =
        (e.streams s).blocks.blockWrite (env.monotonicTimeMs e.tick) := by
  rw [streamSendChunks]
  dsimp only
  rw [(engineOperationLeave_objects env _).2]
  have henter : ∀ e1 : Engine K, e1.streams = e.streams →
      ((streamSendGuarded env f e1 s size flush context (engineNow env e)).2.streams s).blocks =
          (e.streams s).blocks ∨
        ((streamSendGuarded env f e1 s size flush context (engineNow env e)).2.streams s).blocks =
          (e.streams s).blocks.blockWrite (env.monotonicTimeMs e.tick) := by
    intro e1 hst
    rw [streamSendGuarded, ← hst]
    dsimp only
    have hask : FlowCalm s e1 (kcpWaitsnd env e1 s).2 := kcpAsk_calm s e1 _ _
    split_ifs
    · exact Or.inl rfl
    · exact Or.inl rfl
    · rw [streamMarkWriteBlocked]
      split_ifs
      · exact Or.inl hask.blocks
      · refine Or.inr ?_
        rw [← hask.blocks]
        simp [Engine.setStream]
        rfl
    · exact Or.inl (hask.trans (streamSendBody_calm hf _ size flush context _)).blocks
    · exact Or.inl (streamSendBody_calm hf _ size flush context _).blocks
  cases vectored <;> exact henter _ rfl

end Send

/-- The reader is not marked as waiting, or at a time that was read in between. -/
def ReadMarked (env : Env K) (s : ℕ) (e e' : Engine K) : Prop :=
  (e'.streams s).blocks = (e.streams s).blocks ∨
    ∃ k, e.tick ≤ k ∧ k ≤ e'.tick ∧
      (e'.streams s).blocks = (e.streams s).blocks.blockRead (env.monotonicTimeMs k)

lemma ReadMarked.of_calm {e1 : Engine K} (h : FlowCalm s e e1) (h' : ReadMarked env s e1 e') :
    ReadMarked env s e e' := by
  rcases h' with heq | ⟨k, hk, hk', heq⟩
  · exact Or.inl (heq.trans h.blocks)
  · exact Or.inr ⟨k, h.tick.trans hk, hk', by rw [heq, h.blocks]⟩

lemma streamMarkReadBlocked_marked (env : Env K) (e : Engine K) (s : ℕ) :
    ReadMarked env s e (streamMarkReadBlocked e.tock s (engineNow env e)) := by
  rw [streamMarkReadBlocked]
  split_ifs
  · exact Or.inl rfl
  · refine Or.inr ⟨e.tick, le_rfl, Nat.le_succ _, ?_⟩
    simp [Engine.setStream]
    rfl

lemma streamScheduleFinalize_calm (env : Env K) (e : Engine K) (s : ℕ) (reason : UInt8) (now : ℤ) :
    FlowCalm s e (streamScheduleFinalize env e s reason now) := by
  rw [streamScheduleFinalize]
  refine FlowCalm.trans ?_ ((streamClearPending_calm s _).trans
    (engineScheduleTimerNode_calm env s _ _ _ _))
  constructor <;> simp +contextual [Engine.setClosePhase, Engine.setStream, Engine.log, Stream.blocks]

lemma streamRecvDrained_marked (env : Env K) (e : Engine K) (s : ℕ) :
    ReadMarked env s e (streamRecvDrained env e s) := by
  rw [streamRecvDrained]
  have htock : FlowCalm s e e.tock := ⟨rfl, rfl, rfl, fun _ _ => rfl, rfl, Nat.le_succ _⟩
  split_ifs
  · exact Or.inl (htock.trans (streamScheduleFinalize_calm env _ s _ _)).blocks
  · exact streamMarkReadBlocked_marked env e s
  · exact Or.inl rfl

/-- **A read** that leaves nothing marks the reader as waiting. -/
lemma streamRecv_marked (env : Env K) (e : Engine K) (s size : ℕ) :
    ReadMarked env s e (streamRecv env e s size).2.2 := by
  have hpeek : ∀ e1 : Engine K, FlowCalm s e1 (streamPeekSize env e1 s).2 := by
    intro e1
    rw [streamPeekSize]
    dsimp only
    split_ifs
    · exact FlowCalm.refl s e1
    · exact FlowCalm.refl s e1
    · exact kcpAsk_calm s e1 _ _
    · exact kcpAsk_calm s e1 _ _
  rw [streamRecv]
  dsimp only
  set e0 : Engine K := { e with stats := { e.stats with
    apiStreamRecvCalls := e.stats.apiStreamRecvCalls + 1 } }
  have h0 : FlowCalm s e e0 := ⟨rfl, rfl, rfl, fun _ _ => rfl, rfl, le_rfl⟩
  have h1 : FlowCalm s e (streamPeekSize env e0 s).2 := h0.trans (hpeek e0)
  generalize streamPeekSize env e0 s = p at h1 ⊢
  have h2 : FlowCalm s e (kcpRecv env p.2 s p.1).2.2 := h1.trans (kcpRun_calm env s p.2 _ _)
  generalize kcpRecv env p.2 s p.1 = r at h2 ⊢
  have h3 : FlowCalm s r.2.2 (r.2.2.setStream s { r.2.2.streams s with
      stats := { (r.2.2.streams s).stats with
        upRecvBytes := (r.2.2.streams s).stats.upRecvBytes + r.1.toNat } }) := by
    constructor <;> simp +contextual [Engine.setStream, Stream.blocks]
  generalize r.2.2.setStream s _ = e3 at h3 ⊢
  have h4 : FlowCalm s e (kcpPeeksize env e3 s).2 := (h2.trans h3).trans (kcpAsk_calm s e3 _ _)
  split_ifs
  · exact Or.inl rfl
  · exact Or.inl h1.blocks
  · exact Or.inl h1.blocks
  · exact .of_calm h1 (streamMarkReadBlocked_marked env p.2 s)
  · exact Or.inl h2.blocks
  · exact .of_calm h4 (streamRecvDrained_marked env _ s)
  · exact Or.inl h4.blocks

end Functions

/-! ### Streams that a call does not touch -/

section Views

variable {env : Env K} {op : Call} {e e' : Engine K} {s : ℕ}

/-- The call may stamp or release the stream. -/
def TouchesBlocks (op : Call) (s : ℕ) (conn : Conn) (x : Stream K) : Prop :=
  op.SendsOn s ∨ (op = .update ∧ x.blocks.writeBlocked = true) ∨ ReadsStream op s conn x

lemma Flow.blocks {t : ℕ} {conn : Conn} {x x' : Stream K} {evs : List Event}
    (h : Flow env op t s conn x x' evs) (hno : ¬ TouchesBlocks op s conn x) :
    x'.blocks = x.blocks := by
  cases h with
  | blockWrite hnow hb hs hop => exact absurd (Or.inl hop) hno
  | unblockWrite hnow hb hs hop => exact absurd (Or.inr (Or.inl ⟨hop, hb⟩)) hno
  | blockRead hnow hb hop => exact absurd (Or.inr (Or.inr (Or.inl hop))) hno
  | unblockRead hnow hb hs hop => exact absurd (Or.inr (Or.inr (Or.inr hop))) hno
  | sent | taken | received => rfl

lemma StreamTrans.blocks {t : ℕ} {conn : Conn} {x x' : Stream K} {evs : List Event}
    {mv : TimerMove} {p : PendMove} (h : StreamTrans env op e t s conn x x' evs mv p)
    (hno : ¬ TouchesBlocks op s conn x) : x'.blocks = x.blocks := by
  cases h with
  | output => split_ifs <;> rfl
  | flow h => exact h.blocks hno
  | _ => rfl

lemma Stream.final_blocks (x : Stream K) : x.final.blocks = x.blocks := by
  rw [Stream.final]
  split_ifs <;> rfl

lemma StreamView.blocks {x : Stream K} {evs : List Event} (hv : StreamView env op e s x evs)
    (hno : e.LiveStream s → ¬ TouchesBlocks op s (e.connOf s) (e.streams s)) :
    x.blocks = (e.streams s).blocks := by
  cases hv with
  | same => rfl
  | trans hl ht h => exact h.blocks (hno hl)
  | last hl ht h => cases h <;> exact Stream.final_blocks _
  | final hl => exact Stream.final_blocks _
  | release => rfl

/-- The call does not touch the stream, whatever point it has come to. -/
def LeavesBlocks (op : Call) (e : Engine K) (s : ℕ) : Prop :=
  ∀ e1, Extends e e1 → (e1.streams s).blocks = (e.streams s).blocks → e1.LiveStream s →
    ¬ TouchesBlocks op s (e1.connOf s) (e1.streams s)

lemma Moves.blocks (hm : Moves env op e e') (h : Steady env e) (hk : s < e.nstreams)
    (hno : LeavesBlocks op e s) : (e'.streams s).blocks = (e.streams s).blocks := by
  refine (hm.induct (P := fun e1 => Extends e e1 ∧ (e1.streams s).blocks = (e.streams s).blocks) h
    ⟨.refl e, rfl⟩ ?_).2
  rintro e1 e2 hs hm ⟨hext, hb⟩
  obtain ⟨evs, hv, -⟩ := hm.streamViewed hs (hk.trans_le hext.nstreams)
  exact ⟨hext.trans (hm.extends hs), (hv.blocks (hno e1 hext hb)).trans hb⟩

end Views

/-! ### Calls on existing streams -/

section Calls

variable {env : Env K} {op : Call} {e e' : Engine K} {s : ℕ}

/-- A call that neither sends, reads nor updates. -/
lemma LeavesBlocks.of_lt (h : Own env e) (hk : s < e.nstreams) (hsend : ¬ op.SendsOn s)
    (hup : op ≠ .update) (hread : e.LiveStream s → ¬ ReadsStream op s (e.connOf s) (e.streams s)) :
    LeavesBlocks op e s := by
  rintro e1 hext - hl (h1 | ⟨h1, -⟩ | h1)
  · exact hsend h1
  · exact hup h1
  · exact Deaf.of_lt h hk hread e1 hext hl h1

/-- A call that is made for no stream. -/
lemma finishBatch_leaves (e : Engine K) (s : ℕ) : LeavesBlocks .finishBatch e s := by
  rintro e1 - - - ((⟨b, flush, h⟩ | ⟨iov, flush, h⟩) | ⟨h, -⟩ | ⟨n, h⟩ | ⟨d, b, h, -⟩) <;> cases h

/-- A close neither sends, reads nor updates. -/
lemma streamClose_leaves (e : Engine K) (q s : ℕ) : LeavesBlocks (.streamClose q) e s := by
  rintro e1 - - - ((⟨b, flush, h⟩ | ⟨iov, flush, h⟩) | ⟨h, -⟩ | ⟨n, h⟩ | ⟨d, b, h, -⟩) <;> cases h

/-- One timer callback. -/
lemma streamUpdate_blocks {q : ℕ} (hs : Steady env e) (hi : Inside env e) {now : ℤ}
    (hnow : Read env e.tick now) (hq : q < e.nstreams) (hk : s < e.nstreams) :
    WriteReleased now (e.streams s).blocks ((streamUpdate env e q now).streams s).blocks := by
  by_cases ho : (e.streams q).state = .opened
  · rw [streamUpdate, ho]
    dsimp only
    split_ifs
    · exact Or.inl rfl
    · obtain ⟨hself, hother⟩ := streamUpdateOpen_blocks env e q now
      by_cases hsq : s = q
      · exact hsq ▸ hself
      · exact Or.inl (congrArg Stream.blocks (hother s hsq))
  · have ha : Acts env (.streamClose q) e (streamUpdate env e q now) :=
      streamUpdate_acts hi hnow hq (Or.inr (Or.inr rfl)) fun h => absurd h ho
    exact Or.inl (ha.moves.blocks hs hk (streamClose_leaves e q s))

/-- **`kcpmux_engine_update`** releases blocked writers at the time it began. -/
lemma Boundary.update_blocks (h : Boundary env e) (hk : s < e.nstreams) :
    WriteReleased (env.monotonicTimeMs e.tick) (e.streams s).blocks
      ((engineUpdate env e).streams s).blocks := by
  set P : Engine K → Prop := fun e1 => e.nstreams ≤ e1.nstreams ∧
    WriteReleased (env.monotonicTimeMs e.tick) (e.streams s).blocks (e1.streams s).blocks with hP
  have hround : ∀ e1 o rest, Round env (engineNow env e) e1 → e1.timerManager.due = o :: rest →
      P e1 → P (engineDispatch env (engineNow env e) e1 o) := by
    rintro e1 o rest hr hd ⟨hn, hrel⟩
    refine ⟨hn.trans (Moves.extends (hr.moves hd) hr.toSteady).nstreams, hrel.trans ?_⟩
    have hs0 := hr.toSteady.dispatch hd
    have hi0 := hr.inside hd
    have hl : e1.Live o := hr.live_of_due (by simp [hd])
    have hk1 : s < (engineDispatchBegin e1 o).nstreams := hk.trans_le hn
    have hend : ∀ e2 : Engine K, ((engineDispatchEnd e2 o).streams s).blocks =
        (e2.streams s).blocks := by
      intro e2
      rw [engineDispatchEnd]
      split_ifs <;> rfl
    rw [engineDispatch, hend]
    cases o with
    | conn c =>
        have ha : Acts env .finishBatch _ (connUpdate env (engineDispatchBegin e1 (.conn c)) c
            (engineNow env e)) := connUpdate_acts hi0 hl.1 hr.read
        exact Or.inl (ha.moves.blocks hs0 hk1 (finishBatch_leaves _ s))
    | stream q => exact streamUpdate_blocks hs0 hi0 hr.read hl.1 hk1
  obtain ⟨e1, -, -, ⟨-, hrel⟩, heq⟩ := h.dispatched hround ⟨le_rfl, Or.inl rfl⟩
  rw [heq, (engineOperationLeave_objects env e1).2]
  exact hrel

/-- **A payload** releases its reader at the receive time. -/
lemma Boundary.input_blocks (h : Boundary env e) {d : Bytes} {addr : Addr}
    (hl : e.LiveStream s)
    (hread : ReadsStream (.input d addr) s (e.connOf s) (e.streams s)) :
    ((engineInput env e d addr).2.streams s).blocks = (e.streams s).blocks ∨
      (e.streams s).blocks.readBlocked = true ∧ ∃ first,
        ((engineInput env e d addr).2.streams s).blocks =
          (e.streams s).blocks.unblockRead first (env.monotonicTimeMs e.tick) := by
  by_cases hd : d = []
  · rw [engineInput, if_pos hd]
    exact Or.inl rfl
  obtain ⟨n, hop⟩ | ⟨d', b, hop, hp⟩ := id hread
  · cases hop
  obtain ⟨rfl, haddr⟩ := Call.input.inj hop
  obtain ⟨e0, hrec⟩ := h.received hd addr
  have hself : Call.input d addr = .input d addr := rfl
  have hdel : Delivered env (.input d addr) d (env.monotonicTimeMs e.tick) e0 _ :=
    protocolInput_delivered hrec.inside hself hp.type hrec.noInit
  rw [hrec.result, (engineOperationLeave_objects env _).2]
  generalize protocolInput env e0 (Buf.of d) d.length addr (env.monotonicTimeMs e.tick) = r at hdel ⊢
  -- up to here the datagram has been counted, and no stream has changed
  obtain ⟨st, -, he0⟩ := hrec.opened
  have h0 : ∀ c, Acts env (.input d addr) e0 (e0.countReceived c d.length) := fun c =>
    .single (countReceived_act c _)
  have hi1 : ∀ c, Inside env (e0.countReceived c d.length) := fun c => (h0 c).inside hrec.inside
  have hfound : ∀ c, Addressed (.input d addr) d (e0.countReceived c d.length) c →
      connGetStreamById env (e0.countReceived c d.length) c (readU32 (Buf.of d) protoCommonLen) =
        some s := by
    intro c ha
    refine ha.found (hi1 c).toOwn ?_ ?_
    · rw [he0]
      exact hl
    · rw [he0]
      exact hread
  have hx : e0.streams s = e.streams s := by
    rw [he0]
    rfl
  rw [← hx]
  cases hdel with
  | dropped hr he1 => rcases he1 with rfl | ⟨c, rfl⟩ <;> exact Or.inl rfl
  | @known e1 c q payload r he1 ha hst hl1 hc hget hp hr =>
      subst he1
      obtain rfl : s = q := Option.some.inj ((hfound c ha).symm.trans hget)
      have hrecv1 := hrec.read.mono ((h0 c).tick hrec.inside.toOwn)
      have h1 : Still env (.input d addr) _ r.2 := hr ▸ payload_still (hi1 c) ha hl1 hc hp hrecv1
      have hnote : (if r.1 = 0 then (r.1, connNoteReceive env r.2 c (env.monotonicTimeMs e.tick) true)
          else r).2.streams = r.2.streams := by
        split_ifs
        · exact ((ha.calm h1.calm).note (h1.inside (hi1 c))
            (hrecv1.mono (Acts.tick h1.acts (hi1 c).toOwn)) true rfl).2.2.1
        · rfl
      rw [hnote, hr]
      exact streamHandlePayload_blocks env _ s payload _
  | @unknown e1 c id payload r he1 ha hst hid hget hp' h =>
      subst he1
      have hsome := hfound c ha
      rw [hp'.stream, hget] at hsome
      cases hsome

/-- **What a call does to the blocked times of a stream that exists.** -/
lemma Boundary.exec_blockMove (h : Boundary env e) (hv : op.Valid e) (hk : s < e.nstreams) :
    BlockMove env.monotonicTimeMs e.tick (op.exec env e).tick (e.streams s).blocks
      ((op.exec env e).streams s).blocks := by
  have hm := (h.exec hv).1
  have htick := Moves.tick hm h.toSteady
  by_cases hup : op = .update
  · subst hup
    rcases h.update_blocks hk with heq | ⟨hb, heq⟩
    · exact heq ▸ .same
    · exact heq ▸ .unblockWrite le_rfl htick hb
  by_cases hsend : op.SendsOn s
  · have hmark : ((op.exec env e).streams s).blocks = (e.streams s).blocks ∨
        ((op.exec env e).streams s).blocks =
          (e.streams s).blocks.blockWrite (env.monotonicTimeMs e.tick) := by
      rcases hsend with ⟨b, flush, rfl⟩ | ⟨iov, flush, rfl⟩
      · rw [Call.exec, streamSend]
        split_ifs
        · exact Or.inl rfl
        · exact streamSendChunks_blocks (streamSendContiguousChunk_calm env s) e _ _ _ _
      · rw [Call.exec, streamSendv]
        split_ifs
        · exact Or.inl rfl
        · exact streamSendChunks_blocks (streamSendVectoredChunk_calm env s) e _ _ _ _
    rcases hmark with heq | heq
    · exact heq ▸ .same
    · exact heq ▸ .blockWrite le_rfl htick
  by_cases hread : e.LiveStream s ∧ ReadsStream op s (e.connOf s) (e.streams s)
  · obtain ⟨hl, hr⟩ := hread
    rcases id hr with ⟨n, rfl⟩ | ⟨d, b, rfl, -⟩
    · rcases streamRecv_marked env e s n with heq | ⟨k, h0, hk, heq⟩
      · rw [Call.exec, heq]
        exact .same
      · rw [Call.exec, heq]
        exact .blockRead h0 hk
    · rcases h.input_blocks hl hr with heq | ⟨hb, first, heq⟩
      · rw [Call.exec, heq]
        exact .same
      · rw [Call.exec, heq]
        exact .unblockRead first le_rfl htick hb
  · rw [hm.blocks h.toSteady hk
      (.of_lt h.toOwn hk hsend hup fun hl hr => hread ⟨hl, hr⟩)]
    exact .same

end Calls

/-! ### New streams -/

/-- The time that a call of `check` was made for. -/
def Event.checkTime : Event → Option ℤ
  | .kcp _ (.check now _) => some now
  | _ => none

/-- When `kcpmux_stream_new` created the stream: the time of its first `check`. -/
def Engine.createdAt (e : Engine K) (s : ℕ) : Option ℤ :=
  (e.logOf (.stream s)).reverse.findSome? Event.checkTime

section Born

variable {env : Env K} {op : Call} {e e' : Engine K} {s n : ℕ} {born : ℤ}

/-- The log is never rewritten. -/
lemma createdAt_of_suffix (ht : e.trace <:+ e'.trace) (h : e.createdAt s = some born) :
    e'.createdAt s = some born := by
  obtain ⟨evs, hevs⟩ := ht
  rw [Engine.createdAt] at h ⊢
  rw [logOf_append hevs.symm, List.reverse_append, List.findSome?_append, h]
  rfl

/-- The stream was created at the time `born`, and has been neither stamped nor released
since. -/
structure BornAt (env : Env K) (e : Engine K) (s : ℕ) (born : ℤ) : Prop where
  time : e.createdAt s = some born
  blocks : (e.streams s).blocks = .born born
  read : Read env e.tick born

lemma Act.readStart (ha : Act env op e e') (h : Own env e) (hn : e'.nstreams = e.nstreams + 1)
    (hcr : (e'.streams e.nstreams).created = true) :
    Read env e'.tick (e'.streams e.nstreams).readBlockStartTs := by
  cases ha with
  | streamNew hl hs ht hcap hx hm =>
      rw [newStream_streams_self]
      cases hx with
      | «local» hop hc hid hpar hfresh hnow hk => exact hnow
      | peer hop hd hc hid hpar hnew hcb hfresh hnow hk => exact hnow
  | streamFailed ht hc hx => simp [Engine.deadStream, Stream.created, hx.1, hx.2.2.2.2.2] at hcr
  | connFinal hd hl =>
      have := (connCloseInternal_nconns h hd hl _).2.symm.trans hn
      omega
  | @connLast d t x evs st cs hd hl ht hx hst =>
      have hs := SameOwn.connLast env hl hx t st cs
      have := (connCloseInternal_nconns (h.of_same hs) hd ((hs.liveConn d).mpr hl) _).2.symm.trans hn
      exact absurd this (Nat.lt_succ_self _).ne
  | _ => exact absurd hn (Nat.lt_succ_self _).ne

/-- A stream that a move creates. -/
lemma Move.bornAt (hm : Move env op e e') (h : Steady env e) (hk : e.nstreams < e'.nstreams)
    (hcr : (e'.streams e.nstreams).created = true) : ∃ born, BornAt env e' e.nstreams born := by
  rcases hm.nstreams h with hn | ⟨evs, hb, hn, ht⟩
  · omega
  have hread : Read env e'.tick (e'.streams e.nstreams).readBlockStartTs := by
    rcases hm.frame h with ha | ⟨-, -, -, hn', -⟩
    · exact ha.readStart h.toOwn hn hcr
    · omega
  have hlog : e'.logOf (.stream e.nstreams) = evs := by
    rw [logOf_append_self ht hb.subject, h.toOwn.logOf_unknown (o := .stream e.nstreams) (lt_irrefl _),
      List.append_nil]
  refine ⟨_, ?_, ?_, hread⟩
  · rw [Engine.createdAt, hlog]
    generalize e'.streams e.nstreams = y at hb hcr
    cases hb with
    | live hl hs hx => rfl
    | dead hc hx => simp [Stream.created, hx.1, hx.2.2.2.2.2] at hcr
  · generalize e'.streams e.nstreams = y at hb hcr
    cases hb with
    | live hl hs hx => cases hx <;> rfl
    | dead hc hx => simp [Stream.created, hx.1, hx.2.2.2.2.2] at hcr

/-- The streams from the handle `n` on are new. -/
def Engine.NewBorn (env : Env K) (n : ℕ) (e : Engine K) : Prop :=
  ∀ s, n ≤ s → s < e.nstreams → (e.streams s).created = true → ∃ born, BornAt env e s born

/-- The call is made for none of the streams from the handle `n` on. -/
def Call.Spares (op : Call) (n : ℕ) : Prop :=
  ¬ op.Delivers ∧ ∀ s, n ≤ s → ¬ op.SendsOn s ∧ ∀ size, op ≠ .streamRecv s size

lemma finishBatch_spares (n : ℕ) : Call.finishBatch.Spares n := by
  refine ⟨not_false, fun s _ => ⟨?_, fun size h => by cases h⟩⟩
  rintro (⟨b, flush, h⟩ | ⟨iov, flush, h⟩) <;> cases h

/-- A stream that was left alone. -/
lemma BornAt.of_eq (h : BornAt env e s born) (ht : e.trace <:+ e'.trace) (htick : e.tick ≤ e'.tick)
    (hb : (e'.streams s).blocks = (e.streams s).blocks) : BornAt env e' s born :=
  ⟨createdAt_of_suffix ht h.time, hb.trans h.blocks, h.read.mono htick⟩

lemma Move.newBorn (hm : Move env op e e') (hs : Steady env e) (hop : op.Spares n)
    (h : e.NewBorn env n) : e'.NewBorn env n := by
  intro s hns hlt hcr
  by_cases hold : s < e.nstreams
  · obtain ⟨evs, hv, -⟩ := hm.streamViewed hs hold
    obtain ⟨born, hb⟩ := h s hns hold (hv.created.symm.trans hcr)
    refine ⟨born, hb.of_eq (hm.extends hs).trace (hm.tick hs) (hv.blocks fun hl => ?_)⟩
    rintro (h1 | ⟨-, h1⟩ | ⟨size, h1⟩ | ⟨d, b, h1, hp⟩)
    · exact (hop.2 s hns).1 h1
    · rw [hb.blocks] at h1
      cases h1
    · exact (hop.2 s hns).2 size h1
    · refine hop.1 ?_
      rw [h1]
      exact hp.type
  · rcases hm.nstreams hs with hn | ⟨evs, -, hn, -⟩
    · omega
    · obtain rfl : s = e.nstreams := by omega
      exact hm.bornAt hs hlt hcr

lemma Moves.newBorn (hm : Moves env op e e') (hs : Steady env e) (hop : op.Spares n)
    (h : e.NewBorn env n) : e'.NewBorn env n :=
  hm.induct hs h fun _ _ hs1 hmv h1 => hmv.newBorn hs1 hop h1

lemma newBorn_self (env : Env K) (e : Engine K) : e.NewBorn env e.nstreams :=
  fun _ hle hlt => absurd hlt (not_lt.mpr hle)

/-- The counters of the streams from the handle `n` on are timely. -/
def Engine.NewTimely (env : Env K) (n : ℕ) (e : Engine K) : Prop :=
  ∀ s, n ≤ s → s < e.nstreams → (e.streams s).created = true →
    ∃ born, e.createdAt s = some born ∧
      Timely env.monotonicTimeMs e.tick born (e.streams s).blocks

lemma Engine.NewBorn.newTimely (hc : HostClock env.monotonicTimeMs) (h : e.NewBorn env n) :
    e.NewTimely env n := by
  intro s hle hlt hcr
  obtain ⟨_, htime, hblocks, k, hk, rfl⟩ := h s hle hlt hcr
  exact ⟨_, htime, hblocks ▸ timely_born hc hk.le⟩

/-- A chain of moves that leaves the blocked times alone. -/
lemma Engine.NewTimely.of_eq (h : e.NewTimely env n) (hc : HostClock env.monotonicTimeMs)
    (hm : Moves env op e e') (hs : Steady env e) (hnew : e'.NewBorn env e.nstreams)
    (hb : ∀ s < e.nstreams, (e'.streams s).blocks = (e.streams s).blocks) : e'.NewTimely env n := by
  intro s hle hlt hcr
  by_cases hold : s < e.nstreams
  · obtain ⟨-, ht, -, hcr'⟩ := hm.stream hs hold
    obtain ⟨born, htime, htimely⟩ := h s hle hold (hcr'.symm.trans hcr)
    refine ⟨born, createdAt_of_suffix ht htime, ?_⟩
    rw [hb s hold]
    exact (BlockMove.same.timely hc (hm.tick hs) htimely).1
  · exact hnew.newTimely hc s (not_lt.mp hold) hlt hcr

section Deliver

variable {c : ℕ} {d payload : Bytes} {id : UInt32} {recv : ℤ} {e1 e2 : Engine K}

/-- The stream of a peer, when its acceptance callback has returned. -/
lemma PeerStream.bornAt (h : PeerStream env op d c id e e1 e2) (hs : Steady env e) :
    (∃ born, BornAt env e2 e.nstreams born) ∧ e2.NewBorn env e.nstreams := by
  have hs1 : Steady env e1 := Move.steady (.act h.new) hs
  have hcr : (e1.streams e.nstreams).created = true := by simp [Stream.created, h.live.2]
  obtain ⟨born, hb⟩ := Move.bornAt (.act h.new) hs h.live.1 hcr
  have h1 : e1.NewBorn env e.nstreams := by
    intro q hle hlt _
    have hn := h.nstreams
    obtain rfl : q = e.nstreams := by omega
    exact ⟨born, hb⟩
  have ht : Moves env .finishBatch e1 e2 :=
    .head (.act (quiet_act .finishBatch (Nat.le_succ _))) (h.tuned .finishBatch).acts.moves
  have hx := ht.extends hs1
  have h2 := ht.newBorn hs1 (finishBatch_spares _) h1
  have hcr2 := (ht.stream hs1 h.live.1).2.2.2
  exact ⟨h2 e.nstreams le_rfl (h.live.1.trans_le hx.nstreams) (hcr2.trans hcr), h2⟩

/-- If the stream has been readable, then it was created at the time `recv`. -/
def Engine.StampedAt (e : Engine K) (s : ℕ) (recv : ℤ) : Prop :=
  ∀ stamp, e.createdAt s = some stamp → (e.streams s).readBlocked = false → stamp = recv

lemma Engine.StampedAt.before (h : e'.StampedAt s recv) (ht : e.trace <:+ e'.trace)
    (hb : (e'.streams s).blocks = (e.streams s).blocks) : e.StampedAt s recv := by
  intro stamp htime hfree
  refine h stamp (createdAt_of_suffix ht htime) ?_
  exact (congrArg Blocks.readBlocked hb).trans hfree

/-- What follows the first payload leaves the blocked times alone. -/
lemma protocolFirstPayload_rest (hs : Steady env e) (hi : Inside env e) (ha : Addressed op d e c)
    (hl : e.LiveStream s) (hconn : (e.streams s).conn = c) (ho : (e.streams s).state = .opened)
    (hp : PayloadDatagram d (e.conns c).localConnectionId (e.streams s).streamId payload)
    (hrecv : Read env e.tick recv) {e1 e2 : Engine K}
    (he1 : (streamHandlePayload env e s payload recv).2 = e1)
    (he2 : (protocolFirstPayload env e c s payload recv).2 = e2) :
    (∃ op', Moves env op' e1 e2) ∧ e2.NewBorn env e1.nstreams ∧
      ∀ q < e1.nstreams, (e2.streams q).blocks = (e1.streams q).blocks := by
  have h1 : Still env op e (streamHandlePayload env e s payload recv).2 :=
    payload_still hi ha hl hconn hp hrecv
  have hs1 := Moves.steady h1.acts.moves hs
  have hi1 := h1.inside hi
  have hread1 := hrecv.mono (h1.tick hi.toSound)
  have hl1 := h1.calm.liveStream hl
  have ho1 := (h1.calm.state s).trans ho
  have hcalm := h1.calm
  rw [protocolFirstPayload] at he2
  dsimp only at he2
  generalize streamHandlePayload env e s payload recv = r at *
  obtain rfl := he1
  split_ifs at he2
  · have hf : Acts env .finishBatch r.2 _ := .single (streamFail_act hi1 hl1 ho1 closeReasonError).1
    obtain rfl := he2
    exact ⟨⟨_, hf.moves⟩, hf.moves.newBorn hs1 (finishBatch_spares _) (newBorn_self env r.2),
      fun q hq => hf.moves.blocks hs1 hq (finishBatch_leaves _ q)⟩
  · obtain ⟨hacts, -, hx, hn, -⟩ := (ha.calm hcalm).note hi1 hread1 true rfl
    obtain rfl := he2
    exact ⟨⟨_, hacts.moves⟩, hn ▸ newBorn_self env _, fun q _ => by rw [hx]⟩

/-- The first payload of a stream that was created at the receive time if the payload makes it
readable. -/
lemma protocolFirstPayload_timely (hc : HostClock env.monotonicTimeMs) (hs : Steady env e)
    (hi : Inside env e) (ha : Addressed op d e c) (hl : e.LiveStream s)
    (hconn : (e.streams s).conn = c) (ho : (e.streams s).state = .opened)
    (hp : PayloadDatagram d (e.conns c).localConnectionId (e.streams s).streamId payload)
    (hrecv : Read env e.tick recv) (hb : BornAt env e s born) (hlast : e.nstreams = s + 1)
    (hclock : (protocolFirstPayload env e c s payload recv).2.StampedAt s recv) :
    (protocolFirstPayload env e c s payload recv).2.NewTimely env s := by
  have h1 : Still env op e (streamHandlePayload env e s payload recv).2 :=
    payload_still hi ha hl hconn hp hrecv
  obtain ⟨⟨_, hrest⟩, hborn2, hblocks⟩ := protocolFirstPayload_rest hs hi ha hl hconn ho hp hrecv rfl rfl
  have hs1 := Moves.steady h1.acts.moves hs
  have htick1 := h1.tick hi.toSound
  have hn1 := h1.calm.nstreams
  have htime1 := createdAt_of_suffix (h1.acts.moves.extends hs).trace hb.time
  have htime2 := createdAt_of_suffix (hrest.extends hs1).trace htime1
  refine Engine.NewTimely.of_eq (fun q hle hlt _ => ?_) hc hrest hs1 hborn2 hblocks
  obtain rfl : q = s := by omega
  refine ⟨born, htime1, ?_⟩
  rcases streamHandlePayload_blocks env e q payload recv with heq | ⟨hblocked, first, heq⟩
  · obtain ⟨k, hk, rfl⟩ := hb.read
    rw [heq, hb.blocks]
    exact (BlockMove.same.timely hc (hk.le.trans htick1) (timely_born hc (le_refl k))).1
  · -- the payload made the stream readable: the stamp is the receive time
    have hfree : ((protocolFirstPayload env e c q payload recv).2.streams q).readBlocked = false := by
      have h2 := congrArg Blocks.readBlocked ((hblocks q hlt).trans heq)
      rw [Blocks.unblockRead_readBlocked] at h2
      exact h2
    obtain rfl : born = recv := hclock born htime2 hfree
    obtain ⟨k, hk, rfl⟩ := hb.read
    rw [heq, hb.blocks]
    exact ((BlockMove.unblockRead first le_rfl (hk.le.trans htick1) rfl).timely hc
      (hk.le.trans htick1) (timely_born hc (le_refl k))).1

/-- **A payload for an unknown id.** -/
lemma PeerCreated.timely (hc : HostClock env.monotonicTimeMs) {r : ℤ × Engine K}
    (h : PeerCreated env op d c id payload recv e r) (hs : Steady env e) (hi : Inside env e)
    (hp : PayloadDatagram d (e.conns c).localConnectionId id payload) (ha : Addressed op d e c)
    (hrecv : Read env e.tick recv)
    (hclock : r.2.StampedAt e.nstreams recv) : r.2.NewTimely env e.nstreams := by
  cases h with
  | refused => exact (newBorn_self env e).newTimely hc
  | failed _ h =>
      exact ((h .finishBatch).moves.newBorn hs (finishBatch_spares _) (newBorn_self env e)).newTimely hc
  | @rejected e1 e2 r _ h hr =>
      obtain ⟨-, -, hini, hopen⟩ := h.stream_tuned
      have hrej : Acts env .finishBatch e2 (protocolRejectStream env
          (e2.log (.streamCreateNotify e.nstreams r)) e.nstreams recv) :=
        (protocolRejectStream_acts (h.acts.inside hi) (h.tuned op).live hini hopen hr
          h.unnotified_tuned (hrecv.mono (Acts.tick h.acts hi.toOwn))).1
      exact (hrej.moves.newBorn (Moves.steady h.acts.moves hs) (finishBatch_spares _)
        (h.bornAt hs).2).newTimely hc
  | @admitted e1 e2 _ h =>
      obtain ⟨h3, ha3, hl3, hconn, hopen, hp3⟩ := h.admitted ha hp rfl
      obtain ⟨born, hb⟩ := (h.bornAt hs).1
      have hb3 : BornAt env (e2.log (.streamCreateNotify e.nstreams 0)) e.nstreams born :=
        hb.of_eq (List.suffix_cons _ _) le_rfl rfl
      have hn2 : e2.nstreams = e.nstreams + 1 := (h.tuned op).nstreams.trans h.nstreams
      exact protocolFirstPayload_timely hc (Moves.steady h3.moves hs) (h3.inside hi) ha3 hl3 hconn
        hopen hp3 (hrecv.mono (Acts.tick h3 hi.toOwn)) hb3 hn2 hclock

end Deliver

/-- The clock stands still while a datagram creates a stream and makes it readable: the reading
that stamps the stream is the one that gives the receive time, the first of the call. -/
def ClockStill (env : Env K) (e : Engine K) (op : Call) : Prop :=
  ∀ d addr, op = .input d addr → (op.exec env e).StampedAt e.nstreams (engineNow env e)

/-- **The streams a call creates.** -/
lemma Boundary.exec_newTimely (hc : HostClock env.monotonicTimeMs) (h : Boundary env e)
    (hv : op.Valid e) (hg : ClockStill env e op) : (op.exec env e).NewTimely env e.nstreams := by
  by_cases hop : op.Delivers
  · cases op with
    | input d addr =>
        by_cases hd : d = []
        · subst hd
          exact (newBorn_self env e).newTimely hc
        obtain ⟨e0, hrec⟩ := h.received hd addr
        have hself : Call.input d addr = .input d addr := rfl
        have hdel : Delivered env (.input d addr) d (env.monotonicTimeMs e.tick) e0 _ :=
          protocolInput_delivered hrec.inside hself hop hrec.noInit
        have hacts := (protocolInput_acts hrec.inside hself hrec.read hrec.noInit).1
        have hleave : Moves env .finishBatch _ _ := engineOperationLeave_moves hrec.depth
        have hs1 := Moves.steady hacts.moves hrec.steady
        have hstill := hg d addr rfl
        rw [Call.exec, hrec.result] at hstill ⊢
        refine Engine.NewTimely.of_eq ?_ hc hleave hs1
          (hleave.newBorn hs1 (finishBatch_spares _) (newBorn_self env _)) fun q hq =>
            hleave.blocks hs1 hq (finishBatch_leaves _ q)
        obtain ⟨armed, deadline, evs, hsame, -⟩ := engineOperationLeave_did env hrec.depth
        replace hstill := hstill.before (hleave.extends hs1).trace (by rw [hsame]; rfl)
        clear hacts hleave hs1 hsame
        generalize protocolInput env e0 (Buf.of d) d.length addr (env.monotonicTimeMs e.tick) = r
          at hdel hstill ⊢
        obtain ⟨st, -, he0⟩ := hrec.opened
        have hn0 : e0.nstreams = e.nstreams := by rw [he0]; rfl
        have h0 : ∀ c, Acts env (.input d addr) e0 (e0.countReceived c d.length) := fun c =>
          .single (countReceived_act c _)
        rw [← hn0] at hstill ⊢
        cases hdel with
        | dropped hr he1 =>
            rcases he1 with rfl | ⟨c, rfl⟩
            · exact (newBorn_self env _).newTimely hc
            · exact (newBorn_self env (e0.countReceived c d.length)).newTimely hc
        | @known e1 c q payload r he1 ha hst hl1 hconn hget hp hr =>
            subst he1
            have hi1 := (h0 c).inside hrec.inside
            have hrecv1 := hrec.read.mono ((h0 c).tick hrec.inside.toOwn)
            have h1 : Still env (.input d addr) _ r.2 := hr ▸ payload_still hi1 ha hl1 hconn hp hrecv1
            have hn1 : r.2.nstreams = e0.nstreams := h1.calm.nstreams
            obtain ⟨-, -, -, hn2, -⟩ := (ha.calm h1.calm).note (h1.inside hi1)
              (hrecv1.mono (Acts.tick h1.acts hi1.toOwn)) true rfl
            refine Engine.NewBorn.newTimely hc ?_
            rw [← hn1]
            split_ifs
            · exact hn2 ▸ newBorn_self env _
            · exact newBorn_self env r.2
        | @unknown e1 c id payload r he1 ha hst hid hget hp h =>
            subst he1
            exact h.timely hc (Moves.steady (h0 c).moves hrec.steady) ((h0 c).inside hrec.inside) hp
              ha (hrec.read.mono ((h0 c).tick hrec.inside.toOwn)) hstill
    | _ => exact absurd hop not_false
  · refine ((h.exec hv).1.newBorn h.toSteady ⟨hop, fun s hle => ⟨?_, ?_⟩⟩
      (newBorn_self env e)).newTimely hc
    · rintro (⟨b, flush, rfl⟩ | ⟨iov, flush, rfl⟩) <;> exact absurd hv.1.1 (not_lt.mpr hle)
    · rintro size rfl
      exact absurd hv.1.1 (not_lt.mpr hle)

/-- In every guarded run the counters of all streams are timely. -/
lemma ReachableWhen.newTimely (hc : HostClock env.monotonicTimeMs)
    (h : ReachableWhen env (ClockStill env) e) : e.NewTimely env 0 := by
  induction h with
  | create hcr =>
      obtain ⟨cc, sc, id, -, rfl⟩ := engineCreate_eq hcr
      exact fun s _ hs => absurd hs (Nat.not_lt_zero s)
  | @call e hr op hv hg ih =>
      have hb := hr.reachable.boundary
      have hm := (hb.exec hv).1
      intro s _ hlt hcr
      by_cases hold : s < e.nstreams
      · obtain ⟨-, ht, -, hcr'⟩ := hm.stream hb.toSteady hold
        obtain ⟨born, htime, htimely⟩ := ih s (Nat.zero_le s) hold (hcr'.symm.trans hcr)
        exact ⟨born, createdAt_of_suffix ht htime,
          ((hb.exec_blockMove hv hold).timely hc (hm.tick hb.toSteady) htimely).1⟩
      · exact hb.exec_newTimely hc hv hg s (not_lt.mp hold) hlt hcr

lemma Elapsed.le {clock : ℕ → ℤ} (hc : HostClock clock) {t : ℕ} {start : ℤ} {blocked : Bool}
    {time : UInt64} (h : Elapsed clock t born blocked start time) :
    (time.toNat : ℤ) ≤ clock t - born := by
  obtain ⟨k, hk, htime, -⟩ := h
  have := hc.mono hk
  omega

/-- **Block times never wrap.**  In every run in which the clock stands still between the two
readings that go with the first payload of a stream, the three counters of a created stream are
at most the time since its creation, and no call makes the two sums smaller. -/
theorem block_times_never_wrap (hc : HostClock env.monotonicTimeMs)
    (h : ReachableWhen env (ClockStill env) e) :
    (∀ s < e.nstreams, (e.streams s).created = true → ∃ born, e.createdAt s = some born ∧
      ((e.streams s).stats.readBlockTimeMs.toNat : ℤ) ≤ env.monotonicTimeMs e.tick - born ∧
      ((e.streams s).stats.writeBlockTimeMs.toNat : ℤ) ≤ env.monotonicTimeMs e.tick - born ∧
      ((e.streams s).stats.ttfbTimeMs.toNat : ℤ) ≤ env.monotonicTimeMs e.tick - born) ∧
    ∀ op : Call, op.Valid e → ∀ s < e.nstreams, (e.streams s).created = true →
      (e.streams s).stats.readBlockTimeMs.toNat ≤
        ((op.exec env e).streams s).stats.readBlockTimeMs.toNat ∧
      (e.streams s).stats.writeBlockTimeMs.toNat ≤
        ((op.exec env e).streams s).stats.writeBlockTimeMs.toNat := by
  have hb := h.reachable.boundary
  have htimely := h.newTimely hc
  refine ⟨fun s hs hcr => ?_, fun op hv s hs hcr => ?_⟩
  · obtain ⟨born, htime, ht⟩ := htimely s (Nat.zero_le s) hs hcr
    have hread : ((e.streams s).stats.readBlockTimeMs.toNat : ℤ) ≤ _ := ht.read.le hc
    have hfirst : (e.streams s).stats.ttfbTimeMs.toNat ≤
        (e.streams s).stats.readBlockTimeMs.toNat := ht.ttfb
    exact ⟨born, htime, hread, ht.write.le hc, by omega⟩
  · obtain ⟨born, -, ht⟩ := htimely s (Nat.zero_le s) hs hcr
    exact ((hb.exec_blockMove hv hs).timely hc ((hb.exec hv).1.tick hb.toSteady) ht).2

/-! ### A host with its own clock -/

/-- The host of `countingHost` with another clock. -/
def pacedHost (clock : ℕ → ℤ) : Env ℕ := { countingHost with monotonicTimeMs := clock }

lemma pacedHost_create (clock : ℕ → ℤ) :
    engineCreate (pacedHost clock) none none = some countingEngine := countingEngine_create

/-- A clock that advances by a millisecond at every twelfth step of the host. -/
def slowClock (t : ℕ) : ℤ := (min (t / 12) 1000 : ℕ)

lemma slowClock_hostClock : HostClock slowClock where
  mono := by
    intro i j hij
    have : i / 12 ≤ j / 12 := Nat.div_le_div_right hij
    simp only [slowClock]
    omega
  lower := fun k => by
    simp only [slowClock]
    omega
  upper := fun k => by
    simp only [slowClock]
    omega

/-- The engine accepts a connection, takes streams of the peer, and has a stream of its own whose
reader waits twice. -/
def waitingTwice : List Call :=
  [.input plainConnect [10], .connSetCallbacks 0 (some { streamCreateNotify := true }),
    .streamCreate 0 none none, .input (plainPayload 1 2 7) [10], .streamRecv 0 100, .update,
    .input (plainPayload 1 2 7) [10]]

/-- It then gets the first payload of a stream of the peer, right away or after an update. -/
def firstRead (ops : List Call) : Engine ℕ :=
  execAll (pacedHost slowClock) (waitingTwice ++ ops ++ [.input (plainPayload 1 1 7) [10]])
    countingEngine

instance (e : Engine ℕ) (s : ℕ) (recv : ℤ) : Decidable (e.StampedAt s recv) :=
  decidable_of_iff (∀ stamp ∈ e.createdAt s, (e.streams s).readBlocked = false → stamp = recv) Iff.rfl

/-- After the update the clock stands still while the payload is handled.  The readers of both
streams have waited, two milliseconds in all and not at all. -/
theorem block_times_never_wrap_twice :
    ((firstRead [.update]).streams 0).stats.readBlockTimeMs = 2 ∧
    ((firstRead [.update]).streams 1).readBlocked = false ∧
    ∀ s < 2, ∃ born, (firstRead [.update]).createdAt s = some born ∧
      (((firstRead [.update]).streams s).stats.readBlockTimeMs.toNat : ℤ) ≤
        slowClock (firstRead [.update]).tick - born ∧
      (((firstRead [.update]).streams s).stats.writeBlockTimeMs.toNat : ℤ) ≤
        slowClock (firstRead [.update]).tick - born ∧
      (((firstRead [.update]).streams s).stats.ttfbTimeMs.toNat : ℤ) ≤
        slowClock (firstRead [.update]).tick - born := by
  have hquiet : ∀ (e : Engine ℕ) (op : Call), (∀ d addr, op ≠ .input d addr) →
      ClockStill (pacedHost slowClock) e op := fun e op hno d addr hop => absurd hop (hno d addr)
  have h0 : ReachableWhen (pacedHost slowClock) (ClockStill (pacedHost slowClock))
      countingEngine := .create (pacedHost_create _)
  have h1 := h0.call (.input plainConnect [10]) trivial fun _ _ _ => by decide +kernel
  have h2 := h1.call (.connSetCallbacks 0 (some { streamCreateNotify := true })) (by decide +kernel)
    (hquiet _ _ (by simp))
  have h3 := h2.call (.streamCreate 0 none none) (by decide +kernel) (hquiet _ _ (by simp))
  have h4 := h3.call (.input (plainPayload 1 2 7) [10]) trivial fun _ _ _ => by decide +kernel
  have h5 := h4.call (.streamRecv 0 100) (by decide +kernel) (hquiet _ _ (by simp))
  have h6 := h5.call .update trivial (hquiet _ _ (by simp))
  have h7 := h6.call (.input (plainPayload 1 2 7) [10]) trivial fun _ _ _ => by decide +kernel
  have h8 := h7.call .update trivial (hquiet _ _ (by simp))
  have h9 : ReachableWhen (pacedHost slowClock) (ClockStill (pacedHost slowClock))
      (firstRead [.update]) :=
    h8.call (.input (plainPayload 1 1 7) [10]) trivial fun _ _ _ => by decide +kernel
  refine ⟨by decide +kernel, by decide +kernel, fun s hs => ?_⟩
  exact (block_times_never_wrap slowClock_hostClock h9).1 s
    (hs.trans_eq (by decide +kernel)) (by interval_cases s <;> decide +kernel)

/-- When the clock advances by a millisecond between the reading of the receive time and the one
that stamps the stream, both counters are one below `2 ^ 64`. -/
theorem block_times_never_wrap_first_byte :
    HostClock slowClock ∧ Reachable (pacedHost slowClock) (firstRead []) ∧
      ((firstRead []).streams 1).created = true ∧ (firstRead []).createdAt 1 =
        some (engineNow (pacedHost slowClock)
          (execAll (pacedHost slowClock) waitingTwice countingEngine) + 1) ∧
      ((firstRead []).streams 1).stats.ttfbTimeMs.toNat = 2 ^ 64 - 1 ∧
      ((firstRead []).streams 1).stats.readBlockTimeMs.toNat = 2 ^ 64 - 1 := by
  refine ⟨slowClock_hostClock, ?_, ?_⟩
  · exact Reachable.execAll (.create (pacedHost_create slowClock)) (by decide +kernel)
  · decide +kernel

end Born

end KcpMux
