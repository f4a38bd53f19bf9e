import KcpMux.Safety.StreamIds
import KcpMux.Safety.VectoredSend

/-!
Backpressure: when a send is refused, and when a write-blocked stream is woken.

Both decisions compare the length of the send queue with a threshold of the configuration,
an unsigned 32-bit number that is read as an `int` (`toInt_toInt32`).  A send of some bytes
is refused exactly when the queue reaches the pause threshold so read
(`streamSendChunks_refused_iff`), and the update of an open stream wakes the writer exactly
when the queue is below the resume threshold so read (`streamUpdate_woken_iff`).  So the
decisions are the intended ones up to `INT_MAX`; beyond it, and with a resume threshold of
zero, they are not (`backpressure_iff`).
-/

namespace KcpMux

variable {K : Type} {env : Env K} {e e' e'' : Engine K} {s : ℕ}

/-- The value of a threshold read as an `int`. -/
lemma toInt_toInt32 (x : UInt32) :
    x.toInt32.toInt = if x.toNat ≤ intMax then (x.toNat : ℤ) else x.toNat - 2 ^ 32 := by
  have hx := x.toNat_lt
  show BitVec.toInt x.toBitVec = _
  rw [BitVec.toInt_eq_toNat_cond, intMax]
  simp only [UInt32.toNat_toBitVec]
  split_ifs <;> omega

/-- The cast decides as the threshold itself does, for the values that are an `int`. -/
lemma toInt32_le_iff (x : UInt32) {w : ℤ} (hw : 0 ≤ w) (hmax : w ≤ intMax) :
    ((x.toInt32.toInt ≤ w ↔ (x.toNat : ℤ) ≤ w) ↔ x.toNat ≤ intMax) := by
  have hx := x.toNat_lt
  rw [toInt_toInt32]
  rw [intMax] at hmax ⊢
  split_ifs <;> omega

lemma toInt32_pos_iff (x : UInt32) :
    0 < x.toInt32.toInt ↔ 0 < x.toNat ∧ x.toNat ≤ intMax := by
  have hx := x.toNat_lt
  rw [toInt_toInt32]
  rw [intMax]
  split_ifs <;> omega

/-! ### Sends -/

/-- The send was refused as write-blocked: it returned zero, the stream is marked, and no
message reached the KCP instance. -/
def SendRefused (e : Engine K) (s : ℕ) (r : ℤ × Engine K) : Prop :=
  r.1 = 0 ∧ (r.2.streams s).writeBlocked = true ∧ r.2.messages s = e.messages s

section Send

variable {C : Type}

/-- The loop over the messages never takes back what was sent. -/
lemma sendChunkLoop_total (f : SendChunk K C) (chunkSize rounds : ℕ) :
    ∀ (e : Engine K) (context : C) (remaining total : ℕ),
      total ≤ (sendChunkLoop f chunkSize rounds e context remaining total).2.1 := by
  induction rounds with
  | zero => exact fun _ _ _ _ => le_rfl
  | succ rounds ih =>
      intro e context remaining total
      rw [sendChunkLoop]
      dsimp only
      generalize (if remaining < chunkSize then remaining else chunkSize) = size
      split_ifs
      · exact le_rfl
      · exact le_rfl
      · exact (Nat.le_add_right _ _).trans (ih _ _ _ _)

/-- The first message of some bytes is refused, or its bytes are counted. -/
lemma sendChunkLoop_first (f : SendChunk K C) {chunkSize size : ℕ} (hm : 0 < chunkSize)
    (hs : 0 < size) (e : Engine K) (context : C) :
    (∃ a < 0, (sendChunkLoop f chunkSize size e context size 0).1 = some a ∧
      (sendChunkLoop f chunkSize size e context size 0).2.1 = 0) ∨
    0 < (sendChunkLoop f chunkSize size e context size 0).2.1 := by
  obtain ⟨rounds, rfl⟩ : ∃ n, size = n + 1 := ⟨size - 1, by omega⟩
  have hfirst : 0 < if rounds + 1 < chunkSize then rounds + 1 else chunkSize := by
    split_ifs <;> omega
  rw [sendChunkLoop, if_neg (by omega)]
  dsimp only
  generalize (if rounds + 1 < chunkSize then rounds + 1 else chunkSize) = size at hfirst ⊢
  by_cases hneg : (f e context size).1 < 0
  · rw [if_pos hneg]
    exact Or.inl ⟨_, hneg, rfl, rfl⟩
  · rw [if_neg hneg]
    have hle := sendChunkLoop_total f chunkSize rounds (f e context size).2.1
      (f e context size).2.2 (rounds + 1 - size) (0 + size)
    exact Or.inr (by omega)

/-- A send of some bytes that gets as far as the KCP instance does not return zero. -/
lemma streamSendBody_ne_zero (f : SendChunk K C) (e : Engine K) {size : ℕ} (hs : 0 < size)
    (hm : 0 < (e.streams s).config.kcpMss.toNat) (flush : Bool) (context : C) (now : ℤ) :
    (streamSendBody env f e s size flush context now).1 ≠ 0 := by
  have hcfg : ((kcpCurrentUpdate env e s now).streams s).config = (e.streams s).config :=
    kcpRun_config env e s _ _
  rw [← hcfg] at hm
  rw [streamSendBody]
  dsimp only
  generalize kcpCurrentUpdate env e s now = e1 at hm
  have hloop := sendChunkLoop_first f hm hs e1 context
  generalize sendChunkLoop f (e1.streams s).config.kcpMss.toNat size e1 context size 0 = r at hloop
  obtain ⟨stop, total, e2⟩ := r
  rcases hloop with ⟨a, ha, hstop, htotal⟩ | hpos
  · dsimp only at hstop htotal
    subst hstop htotal
    show -errKcpRet a ≠ 0
    rw [errKcpRet]
    omega
  · dsimp only at hpos
    have hne : ¬ (total = 0) := hpos.ne'
    have hend : ∀ e3 e4 : Engine K,
        (if total = 0 ∧ flush = false then ((0 : ℤ), e3) else ((total : ℤ), e4)).1 ≠ 0 := by
      intro e3 e4
      rw [if_neg fun h => hne h.1]
      exact Int.natCast_ne_zero.mpr hne
    cases stop with
    | none => exact hend _ _
    | some a =>
        dsimp only
        rw [if_neg hne]
        exact hend _ _

/-- **A send of some bytes is refused exactly at the pause threshold**, as it is read. -/
lemma streamSendChunks_refused_iff (f : SendChunk K C) {size : ℕ} (hs : 0 < size)
    (hcl : (e.streams s).internalClosed = false) (hopen : (e.streams s).state = .opened)
    (hconn : (e.connOf s).state = .connected) (hm : 0 < (e.streams s).config.kcpMss.toNat)
    (flush vectored : Bool) (context : C) :
    SendRefused e s (streamSendChunks env f e s size flush vectored context) ↔
      (e.streams s).config.sendPauseThreshold.toInt32.toInt ≤ (kcpWaitsnd env e.tock s).1 := by
  rw [streamSendChunks]
  dsimp only
  -- the bracket and the call counter change nothing that the send reads
  have henter : ∀ e1 : Engine K, e1.streams = e.streams → e1.conns = e.conns → e1.tick = e.tick + 1 →
      e1.trace = e.trace →
      (SendRefused e s ((streamSendGuarded env f e1 s size flush context (engineNow env e)).1,
          engineOperationLeave env
            (streamSendGuarded env f e1 s size flush context (engineNow env e)).2) ↔
        (e.streams s).config.sendPauseThreshold.toInt32.toInt ≤ (kcpWaitsnd env e.tock s).1) := by
    intro e1 hst hcs htick htr
    have hwait : (kcpWaitsnd env e1 s).1 = (kcpWaitsnd env e.tock s).1 := by
      rw [kcpWaitsnd, kcpWaitsnd, kcpAsk, kcpAsk, hst, htick]
      rfl
    have hco : e1.connOf s = e.connOf s := by rw [Engine.connOf, Engine.connOf, hst, hcs]
    rw [streamSendGuarded, hst, hco, hcl, if_neg (by decide), if_neg (by simp [hopen, hconn]),
      if_pos hs]
    dsimp only
    rw [hwait]
    by_cases hblock : (e.streams s).config.sendPauseThreshold.toInt32.toInt ≤
        (kcpWaitsnd env e.tock s).1
    · rw [if_pos hblock]
      refine iff_of_true ⟨rfl, ?_, ?_⟩ hblock
      · show ((engineOperationLeave env _).streams s).writeBlocked = true
        rw [(engineOperationLeave_objects env _).2, streamMarkWriteBlocked]
        split_ifs with hw
        · exact hw
        · simp [Engine.setStream, Stream.blockWrite]
      · have hmark : Mute s e (streamMarkWriteBlocked (kcpWaitsnd env e1 s).2 s (engineNow env e)) := by
          have h1 : Mute s e1 (kcpWaitsnd env e1 s).2 := kcpAsk_mute e1 _ _ fun _ => rfl
          refine ((Mute.of_trace htr).trans h1).trans ?_
          rw [streamMarkWriteBlocked]
          split_ifs <;> exact Mute.of_trace rfl
        exact (hmark.trans (engineOperationLeave_mute env _)).messages
    · rw [if_neg hblock]
      refine iff_of_false (fun h => ?_) hblock
      have hm1 : 0 < ((kcpWaitsnd env e1 s).2.streams s).config.kcpMss.toNat := by
        rw [← hst] at hm
        exact hm
      exact streamSendBody_ne_zero f _ hs hm1 flush context _ h.1
  cases vectored <;> exact henter _ rfl rfl rfl rfl

end Send

/-! ### The wakeup of the writer -/

/-- What a stream remembers of the times it was blocked. -/
structure Blocks where
  readBlocked : Bool
  readStart : ℤ
  readTime : UInt64
  ttfb : UInt64
  writeBlocked : Bool
  writeStart : ℤ
  writeTime : UInt64

def Stream.blocks (x : Stream K) : Blocks where
  readBlocked := x.readBlocked
  readStart := x.readBlockStartTs
  readTime := x.stats.readBlockTimeMs
  ttfb := x.stats.ttfbTimeMs
  writeBlocked := x.writeBlocked
  writeStart := x.writeBlockStartTs
  writeTime := x.stats.writeBlockTimeMs

/-- The two engines agree on what the flow control of the stream reads, and on the wakeups
its writer got. -/
structure FlowCalm (s : ℕ) (e e' : Engine K) : Prop where
  config : (e'.streams s).config = (e.streams s).config
  callbacks : (e'.streams s).callbacks = (e.streams s).callbacks
  blocks : (e'.streams s).blocks = (e.streams s).blocks
  others : ∀ q, q ≠ s → e'.streams q = e.streams q
  notified : e'.trace.count (.streamWriteNotify s) = e.trace.count (.streamWriteNotify s)
  tick : e.tick ≤ e'.tick

lemma FlowCalm.refl (s : ℕ) (e : Engine K) : FlowCalm s e e :=
  ⟨rfl, rfl, rfl, fun _ _ => rfl, rfl, le_rfl⟩

lemma FlowCalm.trans (h : FlowCalm s e e') (h' : FlowCalm s e' e'') : FlowCalm s e e'' :=
  ⟨h'.config.trans h.config, h'.callbacks.trans h.callbacks, h'.blocks.trans h.blocks,
    fun q hq => (h'.others q hq).trans (h.others q hq), h'.notified.trans h.notified,
    h.tick.trans h'.tick⟩

lemma FlowCalm.writeBlocked (h : FlowCalm s e e') :
    (e'.streams s).writeBlocked = (e.streams s).writeBlocked := congrArg Blocks.writeBlocked h.blocks

lemma kcpOutput_calm (env : Env K) (s : ℕ) (e : Engine K) (b : Bytes) :
    FlowCalm s e (kcpOutput env s e b) := by
  rw [kcpOutput]
  dsimp only
  rw [protocolSendStreamPayload]
  split_ifs <;> constructor <;>
    simp +contextual [connWriteSocketv_eq, Engine.setStream, Stream.blocks]

lemma kcpOutputs_calm (env : Env K) (s : ℕ) (l : List Bytes) : ∀ e : Engine K,
    FlowCalm s e (l.foldl (kcpEmit env s) e) := by
  induction l with
  | nil => exact FlowCalm.refl s
  | cons b l ih =>
      intro e
      have hlog : FlowCalm s e (e.log (.kcpOutput s b)) := by
        constructor <;> simp [Engine.log]
      exact (hlog.trans (kcpOutput_calm env s _ b)).trans (ih _)

lemma kcpRun_calm (env : Env K) (s : ℕ) (e : Engine K) (f : ℕ → K → KcpOut K)
    (call : ℤ → KcpCall) : FlowCalm s e (kcpRun env e s f call).2 := by
  rw [kcpRun]
  cases (e.streams s).kcp with
  | none => constructor <;> simp [Engine.log, Engine.tock]
  | some k =>
      refine FlowCalm.trans ?_ (kcpOutputs_calm env s _ _)
      constructor <;> simp +contextual [Engine.setStream, Engine.log, Engine.tock, Stream.blocks]

lemma kcpAsk_calm (s : ℕ) (e : Engine K) (f : ℕ → K → ℤ) (call : ℤ → KcpCall) :
    FlowCalm s e (kcpAsk e s f call).2 :=
  ⟨rfl, rfl, rfl, fun _ _ => rfl, by simp [kcpAsk, Engine.log, Engine.tock], Nat.le_succ _⟩

lemma streamClearPending_calm (s : ℕ) (e : Engine K) : FlowCalm s e (streamClearPending e s) := by
  constructor <;> simp +contextual [streamClearPending, Engine.setStream, Stream.blocks]

lemma engineScheduleTimerNode_calm (env : Env K) (s : ℕ) (e : Engine K) (o : Owner) (d now : ℤ) :
    FlowCalm s e (engineScheduleTimerNode env e o d now).2 := by
  have hrearm : ∀ e : Engine K, FlowCalm s e (engineRearmTimer e now) := by
    intro e
    obtain ⟨a, dl, evs, heq, hev⟩ := engineRearmTimer_eq e now
    rw [heq]
    refine ⟨rfl, rfl, rfl, fun _ _ => rfl, ?_, le_rfl⟩
    have hnone : evs.count (.streamWriteNotify s) = 0 :=
      List.count_eq_zero.mpr fun hm => by cases (hev _ hm).subject
    show (evs ++ e.trace).count _ = _
    rw [List.count_append, hnone, Nat.zero_add]
  rw [engineScheduleTimerNode]
  dsimp only
  generalize (if d < now then now else d) = deadline
  split_ifs
  · exact FlowCalm.refl s e
  · refine FlowCalm.trans ?_ (hrearm _)
    exact ⟨rfl, rfl, rfl, fun _ _ => rfl, rfl, Nat.le_succ _⟩
  · exact ⟨rfl, rfl, rfl, fun _ _ => rfl, rfl, Nat.le_succ _⟩

/-- The writer was woken: the mark is gone, and the callback, if there is one, was called
once. -/
def WriterWoken (e : Engine K) (s : ℕ) (e' : Engine K) : Prop :=
  (e'.streams s).writeBlocked = false ∧
    e'.trace.count (.streamWriteNotify s) = e.trace.count (.streamWriteNotify s) +
      if (e.streams s).callbacks.streamWriteNotify then 1 else 0

lemma WriterWoken.of_calm {e1 e2 : Engine K} (h : FlowCalm s e e1) (h' : FlowCalm s e2 e') :
    WriterWoken e s e' ↔ WriterWoken e1 s e2 := by
  rw [WriterWoken, WriterWoken, h'.writeBlocked, h'.notified, h.callbacks, h.notified]

lemma Stream.unblockWrite_writeBlocked (x : Stream K) (now : ℤ) :
    (x.unblockWrite now).writeBlocked = false ∧ (x.unblockWrite now).callbacks = x.callbacks := by
  rw [Stream.unblockWrite]
  split_ifs <;> exact ⟨rfl, rfl⟩

/-- The recovery wakes a blocked writer exactly below the resume threshold, as it is read. -/
lemma streamRecoverWrite_woken_iff (hb : (e.streams s).writeBlocked = true) (now : ℤ) :
    WriterWoken e s (streamRecoverWrite env e s now) ↔
      (kcpWaitsnd env e s).1 < (e.streams s).config.sendResumeThreshold.toInt32.toInt := by
  obtain ⟨hclear, hcb⟩ := (e.streams s).unblockWrite_writeBlocked now
  rw [streamRecoverWrite, if_neg (by simp [hb])]
  dsimp only
  have hcfg : ((kcpWaitsnd env e s).2.streams s) = e.streams s := rfl
  rw [hcfg]
  by_cases hlow : (kcpWaitsnd env e s).1 < (e.streams s).config.sendResumeThreshold.toInt32.toInt
  · rw [if_pos hlow]
    refine iff_of_true ?_ hlow
    simp only [Engine.setStream, Function.update_self, hcb]
    split_ifs with hn
    · exact ⟨by simpa [Engine.log] using hclear, by simp [Engine.log, hn, kcpWaitsnd, kcpAsk, Engine.tock]⟩
    · exact ⟨by simpa using hclear, by simp [Engine.log, hn, kcpWaitsnd, kcpAsk, Engine.tock]⟩
  · rw [if_neg hlow]
    refine iff_of_false (fun h => ?_) hlow
    have := h.1
    rw [hcfg, hb] at this
    cases this

/-- **The update of an open stream wakes a blocked writer exactly below the resume
threshold**, as it is read. -/
lemma streamUpdate_woken_iff (hcl : (e.streams s).internalClosed = false)
    (hopen : (e.streams s).state = .opened) (hccl : (e.connOf s).internalClosed = false)
    (hconn : (e.connOf s).state = .connected) (hb : (e.streams s).writeBlocked = true) (now : ℤ) :
    WriterWoken e s (streamUpdate env e s now) ↔
      (kcpWaitsnd env (kcpUpdate env (streamClearPending e s) s now) s).1 <
        (e.streams s).config.sendResumeThreshold.toInt32.toInt := by
  rw [streamUpdate]
  rw [if_neg (by simp [hcl, hccl, hconn]), hopen]
  dsimp only [streamUpdateOpen]
  have h1 : FlowCalm s e (kcpUpdate env (streamClearPending e s) s now) :=
    (streamClearPending_calm s e).trans (kcpRun_calm env s _ _ _)
  generalize kcpUpdate env (streamClearPending e s) s now = e1 at h1 ⊢
  have hcheck : FlowCalm s (streamRecoverWrite env e1 s now)
      (kcpCheck env (streamRecoverWrite env e1 s now) s now).2 := kcpAsk_calm s _ _ _
  rw [WriterWoken.of_calm h1 (hcheck.trans (engineScheduleTimerNode_calm env s _ _ _ _)),
    streamRecoverWrite_woken_iff (h1.writeBlocked.trans hb), h1.config]

/-- **Backpressure decides as intended exactly for thresholds that are a positive `int`.**  On
an open stream with an accepted configuration, a send of some bytes is refused if and only if
the queue has reached the pause threshold, provided the pause threshold is at most `INT_MAX`
and not otherwise; it is then not refused with an empty queue.  An update that leaves the
queue empty wakes a blocked writer if and only if the resume threshold is positive and at
most `INT_MAX`. -/
theorem backpressure_iff
    (hwait : ∀ t k, 0 ≤ env.kcp.waitsnd t k ∧ env.kcp.waitsnd t k ≤ intMax)
    (hcfg : ∃ config, streamConfigPrepare config = some (e.streams s).config)
    (hcl : (e.streams s).internalClosed = false) (hopen : (e.streams s).state = .opened)
    (hccl : (e.connOf s).internalClosed = false) (hconn : (e.connOf s).state = .connected) :
    let pause := (e.streams s).config.sendPauseThreshold.toNat
    let resume := (e.streams s).config.sendResumeThreshold.toNat
    let queued := (kcpWaitsnd env e.tock s).1
    (∀ buf flush, buf ≠ [] → buf.length ≤ intMax →
      ((SendRefused e s (streamSend env e s buf flush) ↔ (pause : ℤ) ≤ queued) ↔
        pause ≤ intMax) ∧
      (pause ≤ intMax → queued = 0 → ¬ SendRefused e s (streamSend env e s buf flush))) ∧
    (∀ iov flush, iov.flatten ≠ [] → iov.flatten.length ≤ intMax →
      ((SendRefused e s (streamSendv env e s iov flush) ↔ (pause : ℤ) ≤ queued) ↔
        pause ≤ intMax) ∧
      (pause ≤ intMax → queued = 0 → ¬ SendRefused e s (streamSendv env e s iov flush))) ∧
    ∀ now, (e.streams s).writeBlocked = true →
      (kcpWaitsnd env (kcpUpdate env (streamClearPending e s) s now) s).1 = 0 →
      (WriterWoken e s (streamUpdate env e s now) ↔ 0 < resume ∧ resume ≤ intMax) := by
  intro pause resume queued
  obtain ⟨config, hprep⟩ := hcfg
  rw [streamConfigPrepare] at hprep
  split_ifs at hprep with hbad
  obtain rfl : config = (e.streams s).config := Option.some.inj hprep
  have hmss : 0 < (e.streams s).config.kcpMss.toNat := by
    refine Nat.pos_of_ne_zero fun h => hbad (Or.inr (Or.inr (Or.inl ?_)))
    exact UInt16.toNat.inj (h.trans UInt16.toNat_zero.symm)
  have hpause : 0 < pause := by
    refine Nat.pos_of_ne_zero fun h => hbad (Or.inr (Or.inr (Or.inr (Or.inr (Or.inl ?_)))))
    exact UInt32.toNat.inj (h.trans UInt32.toNat_zero.symm)
  have hq : 0 ≤ queued ∧ queued ≤ intMax := by
    show 0 ≤ (kcpAsk e.tock s env.kcp.waitsnd .waitsnd).1 ∧
      (kcpAsk e.tock s env.kcp.waitsnd .waitsnd).1 ≤ intMax
    rw [kcpAsk]
    cases (e.tock.streams s).kcp with
    | none => exact ⟨le_rfl, Int.natCast_nonneg _⟩
    | some k => exact hwait _ k
  -- what holds of any send that is refused at the threshold as it is read
  have hsend : ∀ refused : Prop,
      (refused ↔ (e.streams s).config.sendPauseThreshold.toInt32.toInt ≤ queued) →
      ((refused ↔ (pause : ℤ) ≤ queued) ↔ pause ≤ intMax) ∧
        (pause ≤ intMax → queued = 0 → ¬ refused) := by
    intro refused h
    have hiff := toInt32_le_iff (e.streams s).config.sendPauseThreshold hq.1 hq.2
    refine ⟨by rw [h]; exact hiff, fun hle h0 hr => ?_⟩
    have : (pause : ℤ) ≤ queued := (hiff.mpr hle).mp (h.mp hr)
    omega
  refine ⟨fun buf flush hne hlen => hsend _ ?_, fun iov flush hne hlen => hsend _ ?_,
    fun now hb h0 => ?_⟩
  · rw [streamSend, if_neg (by simp [hne]; omega)]
    exact streamSendChunks_refused_iff _ (List.length_pos_iff.mpr hne) hcl hopen hconn hmss _ _ _
  · have hpos : 0 < iov.flatten.length := List.length_pos_iff.mpr hne
    rw [streamSendv, if_neg (by omega)]
    exact streamSendChunks_refused_iff _ hpos hcl hopen hconn hmss _ _ _
  · rw [streamUpdate_woken_iff hcl hopen hccl hconn hb now, h0, toInt32_pos_iff]

/-- A configuration that is accepted: the pause threshold is beyond `INT_MAX`, and the resume
threshold is zero. -/
def wideConfig : StreamConfig :=
  { streamConfigInit with sendPauseThreshold := 0x80000000, sendResumeThreshold := 0 }

/-- An accepted connection with a stream of that configuration. -/
def wide : Engine Unit := (Call.streamCreate 0 (some wideConfig) none).exec (idealHost 0 0) accepted

/-- With the default thresholds a first message is sent. -/
theorem backpressure_iff_default :
    (streaming.streams 0).config.sendPauseThreshold.toNat ≤ intMax ∧
      ¬ SendRefused streaming 0 (streamSend (idealHost 0 0) streaming 0 [1] true) := by
  have h := @backpressure_iff Unit (idealHost 0 0) streaming 0
    (fun _ _ => ⟨le_rfl, Int.natCast_nonneg _⟩) ⟨streamConfigInit, by decide +kernel⟩ (by decide +kernel)
    (by decide +kernel) (by decide +kernel) (by decide +kernel)
  have hle : (streaming.streams 0).config.sendPauseThreshold.toNat ≤ intMax := by decide +kernel
  exact ⟨hle, (h.1 [1] true (by decide) (by decide)).2 hle (by decide +kernel)⟩

/-- The stream is write-blocked although its queue is empty, and no update wakes it. -/
theorem backpressure_iff_wedged :
    streamConfigPrepare wideConfig = some wideConfig ∧ Reachable (idealHost 0 0) wide ∧
      (wide.streams 0).config = wideConfig ∧
      (kcpWaitsnd (idealHost 0 0) wide.tock 0).1 = 0 ∧
      (streamSend (idealHost 0 0) wide 0 [1] true).1 = 0 ∧
      ((streamSend (idealHost 0 0) wide 0 [1] true).2.streams 0).writeBlocked = true ∧
      ((streamUpdate (idealHost 0 0) (streamSend (idealHost 0 0) wide 0 [1] true).2 0 99).streams
        0).writeBlocked = true := by
  refine ⟨by decide, .call accepted_reachable (.streamCreate 0 (some wideConfig) none)
    ⟨by decide +kernel, by decide +kernel⟩, ?_⟩
  decide +kernel

end KcpMux
