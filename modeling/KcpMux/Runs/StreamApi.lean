import KcpMux.Runs.Close

/-!
The public functions on streams as steps: sending over the chunk loop, receiving, closing,
and the setters.
-/

namespace KcpMux

variable {K : Type} {env : Env K} {op : Call} {e e' : Engine K} {s : ℕ}

/-! ### Sending -/

/-- A chunk sender makes calm steps of an open stream. -/
def ChunkStill {C : Type} (env : Env K) (op : Call) (s : ℕ) (f : SendChunk K C) : Prop :=
  ∀ (e : Engine K) (context : C) (size : ℕ), Sound env e → e.LiveStream s →
    (e.streams s).state = .opened → (e.connOf s).state = .connected →
    Still env op e (f e context size).2.1

lemma streamSendContiguousChunk_still (hop : op.SendsOn s) :
    ChunkStill env op s (streamSendContiguousChunk env s) :=
  fun _ _ _ hs hl ho hc => kcpSend_still hs hl (fun _ _ => ⟨ho, hc, hop⟩) _

lemma streamSendVectoredChunk_still (hop : op.SendsOn s) :
    ChunkStill env op s (streamSendVectoredChunk env s) := by
  intro e context size hs hl ho hc
  rw [streamSendVectoredChunk]
  cases hv : env.kcp.sendv with
  | none => exact kcpSend_still hs hl (fun _ _ => ⟨ho, hc, hop⟩) _
  | some f => exact kcpSendv_still hs hl hv _ _ _ fun _ => ⟨ho, hc, hop⟩

/-- The chunk loop. -/
lemma sendChunkLoop_still {C : Type} {f : SendChunk K C} (hf : ChunkStill env op s f)
    (chunkSize : ℕ) : ∀ (rounds : ℕ) (e : Engine K) (context : C) (remaining total : ℕ),
      Sound env e → e.LiveStream s → (e.streams s).state = .opened →
      (e.connOf s).state = .connected →
      Still env op e (sendChunkLoop f chunkSize rounds e context remaining total).2.2 := by
  intro rounds
  induction rounds with
  | zero => exact fun e _ _ _ _ _ _ _ => Still.refl e
  | succ rounds ih =>
      intro e context remaining total hs hl ho hc
      rw [sendChunkLoop]
      by_cases hr : remaining = 0
      · rw [if_pos hr]
        exact Still.refl e
      rw [if_neg hr]
      dsimp only
      generalize (if remaining < chunkSize then remaining else chunkSize) = n
      have h1 := hf e context n hs hl ho hc
      split_ifs
      · exact h1
      · exact h1.trans (ih _ _ _ _ (h1.sound hs) (h1.calm.liveStream hl)
          ((h1.calm.state s).trans ho) (by rw [h1.calm.connOf]; exact hc))

/-- The end of a send. -/
lemma streamSendFinish_still (hi : Inside env e) (hl : e.LiveStream s) {now : ℤ}
    (hnow : Read env e.tick now) (ho : (e.streams s).state = .opened) (hop : op.SendsOn s)
    (flush : Bool) : Still env op e (streamSendFinish env e s flush now) := by
  rw [streamSendFinish]
  cases flush with
  | false => exact streamAccumulateUpdate_still hi hl hnow (streamKcpActive_of_opened ho)
  | true =>
      rw [if_pos rfl]
      have h1 : Still env op e (streamClearPending e s) := streamClearPending_still hl (Or.inr (Or.inl hop))
      have h2 : Still env op e (kcpUpdate env (streamClearPending e s) s now) :=
        h1.trans (kcpUpdate_still (h1.sound hi.toSound) (h1.calm.liveStream hl)
          (streamKcpActive_of_opened ((h1.calm.state s).trans ho)) now)
      have h3 : Still env op e
          (kcpCheck env (kcpUpdate env (streamClearPending e s) s now) s now).2 :=
        h2.trans (kcpCheck_still (h2.sound hi.toSound) (h2.calm.liveStream hl) now)
      refine h3.trans (schedule_still (h3.inside hi) (h3.calm.liveStream hl)
        (.poll (hnow.mono ((h3.tick hi.toSound).trans (Nat.le_succ _)))
          ((h3.calm.state s).trans ho) ?_ (Or.inr (Or.inl hop))))
      show ((kcpUpdate env (streamClearPending e s) s now).streams s).pendingCount = 0
      rw [kcpUpdate, kcpRun_pendingCount, streamClearPending_pendingCount]

lemma streamSendBody_still {C : Type} {f : SendChunk K C} (hf : ChunkStill env op s f)
    (hop : op.SendsOn s) (hi : Inside env e) (hl : e.LiveStream s) {now : ℤ} (hnow : Read env e.tick now)
    (ho : (e.streams s).state = .opened) (hc : (e.connOf s).state = .connected) (size : ℕ)
    (flush : Bool) (context : C) :
    Still env op e (streamSendBody env f e s size flush context now).2 := by
  rw [streamSendBody]
  have h1 : Still env op e (kcpCurrentUpdate env e s now) :=
    kcpCurrentUpdate_still hi.toSound hl (streamKcpActive_of_opened ho) now
  set e1 := kcpCurrentUpdate env e s now
  have h2 := h1.trans (sendChunkLoop_still hf (e1.streams s).config.kcpMss.toNat size e1 context
    size 0 (h1.sound hi.toSound) (h1.calm.liveStream hl) ((h1.calm.state s).trans ho)
    (by rw [h1.calm.connOf]; exact hc))
  set r := sendChunkLoop f (e1.streams s).config.kcpMss.toNat size e1 context size 0
  dsimp only
  set e3 := r.2.2.setStream s { r.2.2.streams s with
    stats := { (r.2.2.streams s).stats with
      upSentBytes := (r.2.2.streams s).stats.upSentBytes + r.2.1 } }
  have hsent : Still env op e e3 :=
    h2.trans (Still.silent (h2.calm.liveStream hl) (.sent r.2.1 ((h2.calm.state s).trans ho)) rfl)
  have hend : Still env op e (if r.2.1 = 0 ∧ flush = false then ((0 : ℤ), e3)
      else ((r.2.1 : ℤ), streamSendFinish env e3 s flush now)).2 := by
    by_cases hz : r.2.1 = 0 ∧ flush = false
    · rw [if_pos hz]
      exact hsent
    · rw [if_neg hz]
      exact hsent.trans (streamSendFinish_still (hsent.inside hi) (hsent.calm.liveStream hl)
        (hnow.mono (hsent.tick hi.toSound)) ((hsent.calm.state s).trans ho) hop flush)
  cases hr : r.1 with
  | none => exact hend
  | some ret =>
      dsimp only
      by_cases hz : r.2.1 = 0
      · rw [if_pos hz]
        exact h2
      · rw [if_neg hz]
        exact hend

lemma streamSendGuarded_still {C : Type} {f : SendChunk K C} (hf : ChunkStill env op s f)
    (hop : op.SendsOn s) (hi : Inside env e) (hl : e.LiveStream s) {now : ℤ} (hnow : Read env e.tick now) (size : ℕ)
    (flush : Bool) (context : C) :
    Still env op e (streamSendGuarded env f e s size flush context now).2 := by
  rw [streamSendGuarded, if_neg (by simp [hl.2])]
  by_cases hg : (e.streams s).state ≠ .opened ∨ (e.connOf s).state ≠ .connected
  · rw [if_pos hg]
    exact Still.refl e
  rw [if_neg hg]
  simp only [not_or, not_not, ne_eq] at hg
  by_cases hz : size > 0
  · rw [if_pos hz]
    have h1 : Still env op e (kcpWaitsnd env e s).2 := kcpWaitsnd_still hi.toSound hl
    have hnow1 := hnow.mono (h1.tick hi.toSound)
    have ho1 := (h1.calm.state s).trans hg.1
    dsimp only
    split_ifs
    · exact h1.trans (streamMarkWriteBlocked_still (h1.calm.liveStream hl) hnow1 ho1 hop)
    · exact h1.trans (streamSendBody_still hf hop (h1.inside hi) (h1.calm.liveStream hl) hnow1 ho1
        (by rw [h1.calm.connOf]; exact hg.2) _ _ _)
  · rw [if_neg hz]
    exact streamSendBody_still hf hop hi hl hnow hg.1 hg.2 _ _ _

/-! ### Calls outside the operation bracket -/

/-- A call that is not bracketed as an operation: steps that leave the timer alone, and then
at most one that moves a node and rearms the host's timer. -/
def Bare (env : Env K) (op : Call) (e e' : Engine K) : Prop :=
  ∃ e1, Acts env op e e1 ∧ e1.timerManager = e.timerManager ∧
    (e' = e1 ∨ ∃ now, Read env e'.tick now ∧ ActRearmed env op now e1 e')

lemma Bare.of_acts (h : Acts env op e e') (ht : e'.timerManager = e.timerManager) :
    Bare env op e e' :=
  ⟨e', h, ht, Or.inl rfl⟩

lemma Bare.refl (e : Engine K) : Bare env op e e := Bare.of_acts .refl rfl

lemma ActRearmed.tick (h : Own env e) {now : ℤ} (ha : ActRearmed env op now e e') :
    e.tick ≤ e'.tick := by
  obtain ⟨e1, h1, hr⟩ := ha
  rw [hr.tick]
  exact (h1.grows h).tick

/-- `kcpmux_stream_peek_size`. -/
lemma streamPeekSize_still (hs : Sound env e) (hl : e.LiveStream s) :
    Still env op e (streamPeekSize env e s).2 ∧
      (streamPeekSize env e s).2.timerManager = e.timerManager ∧
      (0 ≤ (streamPeekSize env e s).1 → (e.streams s).state = .opened ∨
        ((e.streams s).state = .closing ∧ (e.streams s).closePhase = .remoteDrain)) := by
  rw [streamPeekSize]
  dsimp only
  rw [if_neg (by simp [hl.2])]
  by_cases hg : (e.streams s).state ≠ .opened ∧
      ¬ ((e.streams s).state = .closing ∧ (e.streams s).closePhase = .remoteDrain)
  · rw [if_pos hg]
    exact ⟨Still.refl e, rfl, fun h => absurd h (by simp [errState])⟩
  · rw [if_neg hg]
    refine ⟨kcpPeeksize_still hs hl, rfl, fun _ => ?_⟩
    rw [ne_eq, not_and_or, not_not, not_not] at hg
    exact hg

lemma streamMarkReadBlocked_timer (e : Engine K) (s : ℕ) (now : ℤ) :
    (streamMarkReadBlocked e s now).timerManager = e.timerManager := by
  rw [streamMarkReadBlocked]
  split_ifs <;> rfl

/-- The last complete message is consumed. -/
lemma streamRecvDrained_bare (hs : Sound env e) (hl : e.LiveStream s)
    (hop : ∃ n, op = .streamRecv s n) : Bare env op e (streamRecvDrained env e s) := by
  have h0 : Still env op e e.tock := Still.quiet (Nat.le_succ _) rfl
  have hl0 := h0.calm.liveStream hl
  have hnow : Read env e.tock.tick (engineNow env e) := ⟨e.tick, Nat.lt_succ_self _, rfl⟩
  rw [streamRecvDrained]
  by_cases hd : (e.tock.streams s).state = .closing ∧
      (e.tock.streams s).closePhase = .remoteDrain
  · rw [if_pos hd]
    have hact : ActRearmed env op (engineNow env e) e.tock (streamScheduleFinalize env e.tock s
        (e.tock.streams s).closeReason (engineNow env e)) :=
      streamScheduleFinalize_act (h0.sound hs).toOwn hl0 hnow _ hd.1 (Or.inr (Or.inr hd.2))
    exact ⟨e.tock, h0.acts, rfl,
      Or.inr ⟨_, hnow.mono (hact.tick (h0.sound hs).toOwn), hact⟩⟩
  rw [if_neg hd]
  by_cases ho : (e.tock.streams s).state = .opened
  · rw [if_pos ho]
    exact Bare.of_acts (h0.trans (streamMarkReadBlocked_still hl0 hnow hop)).acts
      (streamMarkReadBlocked_timer _ _ _)
  · rw [if_neg ho]
    exact Bare.of_acts h0.acts rfl

lemma Bare.after {e1 : Engine K} (h : Acts env op e e1) (ht : e1.timerManager = e.timerManager)
    (hb : Bare env op e1 e') : Bare env op e e' := by
  obtain ⟨e2, h2, ht2, hr⟩ := hb
  exact ⟨e2, h.trans h2, ht2.trans ht, hr⟩

/-- **`kcpmux_stream_recv`.** -/
lemma streamRecv_bare (hs : Sound env e) (hl : e.LiveStream s) (size : ℕ)
    (hop : ∃ n, op = .streamRecv s n) : Bare env op e (streamRecv env e s size).2.2 := by
  rw [streamRecv]
  by_cases hz : size = 0
  · rw [if_pos hz]
    exact Bare.refl e
  rw [if_neg hz]
  dsimp only
  set e0 : Engine K := { e with stats := { e.stats with
    apiStreamRecvCalls := e.stats.apiStreamRecvCalls + 1 } } with he0
  have h0 : Still env op e e0 := Still.quiet le_rfl rfl
  obtain ⟨h1, ht1, hg⟩ : Still env op e0 _ ∧ _ :=
    streamPeekSize_still (h0.sound hs) (h0.calm.liveStream hl)
  have h01 := h0.trans h1
  have ht01 : (streamPeekSize env e0 s).2.timerManager = e.timerManager := ht1
  have hs1 := h01.sound hs
  have hl1 := h01.calm.liveStream hl
  set p := streamPeekSize env e0 s with hp
  by_cases hneg : p.1 < 0
  · rw [if_pos hneg]
    exact Bare.of_acts h01.acts ht01
  rw [if_neg hneg]
  by_cases hbig : p.1 > size
  · rw [if_pos hbig]
    exact Bare.of_acts h01.acts ht01
  rw [if_neg hbig]
  by_cases hzero : p.1 = 0
  · rw [if_pos hzero]
    have h2 : Still env op p.2 p.2.tock := Still.quiet (Nat.le_succ _) rfl
    have h3 : Still env op p.2.tock (streamMarkReadBlocked p.2.tock s (engineNow env p.2)) :=
      streamMarkReadBlocked_still (h2.calm.liveStream hl1) ⟨p.2.tick, Nat.lt_succ_self _, rfl⟩
        hop
    exact Bare.of_acts (h01.trans (h2.trans h3)).acts
      ((streamMarkReadBlocked_timer _ _ _).trans ht01)
  rw [if_neg hzero]
  have hg1 : (p.2.streams s).state = .opened ∨
      ((p.2.streams s).state = .closing ∧ (p.2.streams s).closePhase = .remoteDrain) := by
    rw [h1.calm.state, h1.calm.closePhase]
    exact hg (not_lt.mp hneg)
  have h2 : Still env op p.2 (kcpRecv env p.2 s p.1).2.2 :=
    kcpRecv_still hs1 hl1 p.1 fun _ => ⟨hg1, hop⟩
  have h02 := h01.trans h2
  have ht02 : (kcpRecv env p.2 s p.1).2.2.timerManager = e.timerManager :=
    (kcpRun_timer _ _ _ _).trans ht01
  set r := kcpRecv env p.2 s p.1
  by_cases hr : r.1 < 0
  · rw [if_pos hr]
    exact Bare.of_acts h02.acts ht02
  rw [if_neg hr]
  set e3 := r.2.2.setStream s { r.2.2.streams s with
    stats := { (r.2.2.streams s).stats with
      upRecvBytes := (r.2.2.streams s).stats.upRecvBytes + r.1.toNat } }
  have h3 : Still env op r.2.2 e3 :=
    Still.silent (h02.calm.liveStream hl) (.taken _) rfl
  have h03 := h02.trans h3
  have h4 := h03.trans (kcpPeeksize_still (h03.sound hs) (h03.calm.liveStream hl))
  have ht4 : (kcpPeeksize env e3 s).2.timerManager = e.timerManager :=
    (kcpPeeksize_timer env e3 s).trans ((setStream_timer r.2.2 s _).trans ht02)
  dsimp only
  split_ifs
  · exact Bare.after h4.acts ht4 (streamRecvDrained_bare (h4.sound hs) (h4.calm.liveStream hl) hop)
  · exact Bare.of_acts h4.acts ht4

/-! ### Setters -/

/-- `kcpmux_stream_set_config`. -/
lemma streamSetConfig_act (h : Own env e) (hl : e.LiveStream s) (config : StreamConfig)
    (hop : (∃ y, op = .streamSetConfig s y) ∨
      ((e.streams s).isInitiator = false ∧ ¬ e.NotifiedStream s)) :
    streamSetConfig env e s config = e ∨
      ∃ now r prepared m t, Read env (streamSetConfig env e s config).tick now ∧
        Act env op e (e.stepStream s { e.streams s with config := prepared, pendingCount := 0 }
          (refreshEvents s (e.connOf s) (e.streams s) now r) m t e.stats e.connStats .erase) ∧
        Rearmed now e.timerManager
          (e.stepStream s { e.streams s with config := prepared, pendingCount := 0 }
            (refreshEvents s (e.connOf s) (e.streams s) now r) m t e.stats e.connStats .erase)
          (streamSetConfig env e s config) := by
  rw [streamSetConfig, if_neg (by simp [hl.2])]
  cases hc : streamConfigPrepare config with
  | none => exact Or.inl rfl
  | some prepared =>
      dsimp only
      set x1 : Stream K := { e.streams s with
        config := { prepared with kcpMss := (e.streams s).config.kcpMss } } with hx1
      set e1 := (streamClearPending (e.setStream s x1) s).tock with he1
      have hnow : engineNow env (streamClearPending (e.setStream s x1) s) = engineNow env e := rfl
      have hx : e1.streams s = { x1 with pendingCount := 0 } := by
        simp [he1, streamClearPending, Engine.setStream, Engine.tock]
      have hco : e1.connOf s = e.connOf s := by rw [Engine.connOf, hx, he1]; rfl
      have htm : e1.timerManager = e.timerManager := by
        simp only [he1, streamClearPending, Engine.setStream, Engine.tock]
      rw [hnow]
      obtain ⟨m, t, r, ht, hm, hr⟩ := streamRefreshTimer_did env (e := e1) (s := s)
        (by rw [hx]; exact hl.2) (by rw [htm]; exact h.stream_owner hl) (engineNow env e)
      rw [hx, hco, htm] at hm
      rw [hx, hco, htm] at hr
      have htick : e.tick + 1 ≤ t := ht
      have hread : Read env t (engineNow env e) := ⟨e.tick, htick, rfl⟩
      refine Or.inr ⟨engineNow env e, r, _, m, t, hread.mono (by rw [hr.tick]),
        .stream hl (by omega) (.config hread hc hop) hm rfl, ?_⟩
      convert hr using 1
      simp [he1, Engine.stepStream, streamClearPending, Engine.setStream, Engine.tock,
        PendMove.apply, refreshEvents, streamKcpActive, hx1]

/-- `kcpmux_stream_set_callbacks`. -/
lemma streamSetCallbacks_act (hl : e.LiveStream s) (hr : ¬ e.RejectedStream s)
    (callbacks : Option StreamCallbacks) :
    Act env op e (e.stepStream s { e.streams s with callbacks := callbacks.getD {} } []
        e.timerManager e.tick e.stats e.connStats .keep) ∧
      streamSetCallbacks e s callbacks =
        e.stepStream s { e.streams s with callbacks := callbacks.getD {} } [] e.timerManager
          e.tick e.stats e.connStats .keep := by
  rw [streamSetCallbacks, if_neg (by simp [hl.2])]
  exact ⟨.stream hl le_rfl (.callbacks hr) rfl rfl, rfl⟩

/-- The setters of an acceptance callback have run on the stream `s`. -/
structure StreamTuned (env : Env K) (op : Call) (s : ℕ) (e e' : Engine K) : Prop where
  acts : Acts env op e e'
  live : e'.LiveStream s
  conns : e'.conns = e.conns
  nconns : e'.nconns = e.nconns
  nstreams : e'.nstreams = e.nstreams
  stream : ∃ config callbacks pendingCount, e'.streams s =
    { e.streams s with config := config, callbacks := callbacks, pendingCount := pendingCount }
  notified : e'.NotifiedStream s → e.NotifiedStream s

lemma notifiedStream_of_append {evs : List Event} (he : e'.trace = evs ++ e.trace)
    (hev : ∀ r, .streamCreateNotify s r ∉ evs) (h : e'.NotifiedStream s) :
    e.NotifiedStream s := by
  obtain ⟨r, hmem⟩ := h
  rw [he, List.mem_append] at hmem
  exact ⟨r, hmem.resolve_left (hev r)⟩

/-- A stream the host has not heard of was not refused. -/
lemma Engine.RejectedStream.notified (h : e.RejectedStream s) : e.NotifiedStream s := by
  obtain ⟨r, -, hmem⟩ := h
  exact ⟨r, hmem⟩

lemma StreamSetter.apply_tuned (hi : Inside env e) (hl : e.LiveStream s)
    (hini : (e.streams s).isInitiator = false) (hnot : ¬ e.NotifiedStream s) (setter : StreamSetter) :
    StreamTuned env op s e (setter.apply env s e) := by
  cases setter with
  | config config =>
      rcases streamSetConfig_act hi.toOwn hl config (Or.inr ⟨hini, hnot⟩) with
        heq | ⟨now, r, prepared, m, t, -, ha, hr⟩
      · rw [StreamSetter.apply, heq]
        exact ⟨.refl, hl, rfl, rfl, rfl, ⟨_, _, _, rfl⟩, id⟩
      · rw [StreamSetter.apply, hr.eq_of_depth hi.depth]
        refine ⟨.single ha, ⟨hl.1, by simpa [Engine.stepStream] using hl.2⟩, rfl, rfl, rfl,
          ⟨prepared, (e.streams s).callbacks, 0, by simp [Engine.stepStream]⟩,
          notifiedStream_of_append rfl fun r' => ?_⟩
        rw [refreshEvents]
        split_ifs <;> simp
  | callbacks callbacks =>
      obtain ⟨ha, heq⟩ := streamSetCallbacks_act hl (mt Engine.RejectedStream.notified hnot) callbacks
      rw [StreamSetter.apply, heq]
      exact ⟨.single ha, ⟨hl.1, by simpa [Engine.stepStream] using hl.2⟩, rfl, rfl, rfl,
        ⟨(e.streams s).config, callbacks.getD {}, (e.streams s).pendingCount,
          by simp [Engine.stepStream]⟩, id⟩

/-- The setters a callback makes, one after the other. -/
lemma streamSetters_tuned (setters : List StreamSetter) (hi : Inside env e)
    (hl : e.LiveStream s) (hini : (e.streams s).isInitiator = false)
    (hnot : ¬ e.NotifiedStream s) :
    StreamTuned env op s e (setters.foldl (StreamSetter.apply env s) e) := by
  induction setters generalizing e with
  | nil => exact ⟨.refl, hl, rfl, rfl, rfl, ⟨_, _, _, rfl⟩, id⟩
  | cons setter setters ih =>
      have h1 : StreamTuned env op s e _ := setter.apply_tuned hi hl hini hnot
      obtain ⟨config, callbacks, n, hx⟩ := h1.stream
      have h2 := ih (h1.acts.inside hi) h1.live (by rw [hx]; exact hini) (mt h1.notified hnot)
      obtain ⟨config', callbacks', n', hx'⟩ := h2.stream
      exact ⟨h1.acts.trans h2.acts, h2.live, h2.conns.trans h1.conns, h2.nconns.trans h1.nconns,
        h2.nstreams.trans h1.nstreams, ⟨config', callbacks', n', by rw [List.foldl_cons, hx', hx]⟩, h1.notified ∘ h2.notified⟩

/-! ### Closing -/

/-- An open stream is closed locally. -/
lemma streamStartClose_act (hi : Inside env e) (hl : e.LiveStream s) (hop : op = .streamClose s)
    {now : ℤ} (hnow : Read env e.tick now) (hs : (e.streams s).state = .opened)
    {e1 e2 : Engine K}
    (he1 : e1 = (e.setStream s { e.streams s with
      lastCtrlTs := now, drainStartedTs := now, closeReason := closeReasonNormal
      retryCount := 0 }).setClosePhase s .localDrain)
    (he2 : e2 = streamSetState env e1 s .closing) :
    Act env op e e2 ∧ e2.LiveStream s ∧ (e2.streams s).state = .closing ∧
      (e2.streams s).closePhase = .localDrain := by
  obtain ⟨now', m, t, r, ht, hnow', hm, heq⟩ := streamEnterClosing_eq env hi.depth (hi.stream_owner hl)
    (by exact hl.2) (by rfl) (by exact hs) he1
  have hact : Act env op e (e.stepStream s
      { e.streams s with
        lastCtrlTs := now, drainStartedTs := now, closeReason := closeReasonNormal
        retryCount := 0, closePhase := .localDrain, state := .closing }
      (streamCloseEvents s (e.streams s) .localDrain (refreshEvents s (e.connOf s)
        { e.streams s with closePhase := .localDrain, state := .closing } now' r))
      m t e.stats e.connStats .keep) :=
    .stream hl ht (.startClose (hnow.mono ht) hnow' hs hop) hm rfl
  rw [he2, heq]
  refine ⟨?_, liveStream_stepStream hl hl.2, by simp [Engine.stepStream],
    by simp [Engine.stepStream]⟩
  simpa [streamCloseEvents, hs, refreshEvents, streamKcpActive] using hact

/-- **`kcpmux_stream_close`**, inside its bracket. -/
lemma streamClose_acts (hs : Sound env e) (hl : e.LiveStream s) (hop : op = .streamClose s) :
    ∃ e1, Acts env op
        (engineOperationEnter { e with stats := { e.stats with
          apiStreamCloseCalls := e.stats.apiStreamCloseCalls + 1 } }) e1 ∧
      streamClose env e s = engineOperationLeave env e1 := by
  set e0 := engineOperationEnter { e with stats := { e.stats with
    apiStreamCloseCalls := e.stats.apiStreamCloseCalls + 1 } } with he0
  have hi0 : Inside env e0 := hs.enter _ rfl
  have hl0 : e0.LiveStream s := hl
  have hq : Still env op e0 e0.tock := Still.quiet (Nat.le_succ _) rfl
  have hnow : Read env e0.tock.tick (engineNow env e0) := ⟨e0.tick, Nat.lt_succ_self _, rfl⟩
  have henter : ({ engineOperationEnter e with stats := { (engineOperationEnter e).stats with
      apiStreamCloseCalls := (engineOperationEnter e).stats.apiStreamCloseCalls + 1 } } : Engine K) =
      e0 := rfl
  rw [streamClose, henter]
  cases hst : (e0.streams s).state with
  | closing =>
      by_cases hp : (e0.streams s).closePhase = .remoteDrain
      · refine ⟨_, hq.acts.tail ((streamScheduleFinalize_act (hq.inside hi0).toOwn
          (hq.calm.liveStream hl0) hnow closeReasonNormal hst (Or.inr (Or.inr hp))).act
          (hq.inside hi0)), ?_⟩
        simp only [if_pos hp]
      · exact ⟨e0, .refl, by simp only [if_neg hp]⟩
  | closed => exact ⟨e0, .refl, rfl⟩
  | error => exact ⟨e0, .refl, rfl⟩
  | opened =>
      obtain ⟨h1, hl1, hs1, hp1⟩ : Act env op _ _ ∧ _ :=
        streamStartClose_act (hq.inside hi0) (hq.calm.liveStream hl0) hop hnow hst rfl rfl
      have h2 : Acts env op e0 _ := hq.acts.tail h1
      have hi2 := h2.inside hi0
      dsimp only
      split_ifs
      · exact ⟨_, h2.tail (streamCloseInternal_act hi2 hl1 _), rfl⟩
      · have hread := hnow.mono (Acts.tick (.single h1) (hq.inside hi0).toOwn)
        have h3 : Still env op _ _ := schedule_still hi2 hl1
          (.wake (hread.mono (Nat.le_succ _)) (by rw [streamKcpActive, hs1, hp1]; rfl))
        exact ⟨_, (h2.trans h3.acts).trans (streamAdvanceLocalClose_acts (h3.inside hi2)
          (h3.calm.liveStream hl1) ((h3.calm.state s).trans hs1)), rfl⟩

end KcpMux
