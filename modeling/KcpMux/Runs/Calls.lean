import KcpMux.Runs.Input

/-!
The calls of the host.

A call is one of three things (`CallForm`): a few steps outside the operation bracket, a
chain of steps inside it, or `kcpmux_engine_update`.  `Call.exec_form` sorts the calls.
-/

namespace KcpMux

variable {K : Type} {env : Env K} {op : Call} {e e' : Engine K} {s : ℕ}

/-! ### Batches -/

lemma engineFinishBatchLoop_acts {now : ℤ} (rounds : ℕ) (hi : Inside env e)
    (hnow : Read env e.tick now) :
    Acts env op e (engineFinishBatchLoop env now rounds e) := by
  induction rounds generalizing e with
  | zero => rfl
  | succ rounds ih =>
      rw [engineFinishBatchLoop]
      cases hp : e.pendingBatchStreams with
      | nil => rfl
      | cons s rest =>
          have hl : e.LiveStream s := (hi.batch.2 s (by simp [hp])).1
          have h1 : Acts env op e
              (streamFinishBatchAt env { e with pendingBatchStreams := rest } s now) := by
            by_cases hb : e.Batched s
            · have hn : s ∉ rest := (List.nodup_cons.mp (hp ▸ hi.batch.1)).1
              rw [streamFinishBatchAt_head env hl hb hp hn]
              exact .single ((streamFinishBatchAt_act hi.toOwn hl hb hnow).act hi)
            · rw [streamFinishBatchAt_of_not env (e := { e with pendingBatchStreams := rest }) hb]
              exact .single (.popBatch hp hb)
          exact h1.trans (ih (h1.inside hi) (hnow.mono (h1.tick hi.toOwn)))

/-- `kcpmux_stream_finish_batch`. -/
lemma streamFinishBatch_bare (hs : Sound env e) (hl : e.LiveStream s) :
    Bare env op e (streamFinishBatch env e s) := by
  have hq : Acts env op e e.tock := .single (quiet_act op (Nat.le_succ _))
  have hnow : Read env e.tock.tick (engineNow env e) := ⟨e.tick, Nat.lt_succ_self _, rfl⟩
  rw [streamFinishBatch]
  by_cases hb : e.tock.Batched s
  · have ha : ActRearmed env op _ _ _ := streamFinishBatchAt_act (hq.sound hs).toOwn hl hb hnow
    exact ⟨e.tock, hq, rfl, Or.inr ⟨_, hnow.mono (ha.tick (hq.sound hs).toOwn), ha⟩⟩
  · rw [streamFinishBatchAt_of_not env hb]
    exact Bare.of_acts hq rfl

/-! ### The calls -/

/-- What a call comes to. -/
inductive CallForm (env : Env K) (op : Call) (e : Engine K) : Engine K → Prop
  | bare {e' : Engine K} (hop : ¬ op.Connects) (h : Bare env op e e') : CallForm env op e e'
  | bracket {t : ℕ} {st : EngineStats} {e1 : Engine K} (ht : e.tick ≤ t)
      (hst : st.life = e.stats.life)
      (h : Acts env op (engineOperationEnter { e with tick := t, stats := st }) e1)
      (hop : op.Connects → e1.NoInit) : CallForm env op e (engineOperationLeave env e1)
  | update (h : op = .update) : CallForm env op e (engineUpdate env e)

/-- A call inside the operation bracket. -/
lemma CallForm.of_acts {st : EngineStats}
    (h : ∃ e1, Acts env op (engineOperationEnter { e with stats := st }) e1 ∧
      e' = engineOperationLeave env e1) (hst : st.life = e.stats.life) (hop : ¬ op.Connects) :
    CallForm env op e e' := by
  obtain ⟨e1, h1, rfl⟩ := h
  exact .bracket le_rfl hst h1 fun h => absurd h hop

/-- A call inside the operation bracket that may create a connection. -/
lemma CallForm.of_connects {st : EngineStats}
    (h : ∃ e1, Acts env op (engineOperationEnter { e with stats := st }) e1 ∧
      (op.Connects → e1.NoInit) ∧ e' = engineOperationLeave env e1)
    (hst : st.life = e.stats.life) : CallForm env op e e' := by
  obtain ⟨e1, h1, h2, rfl⟩ := h
  exact .bracket le_rfl hst h1 h2

/-- The two sends. -/
lemma streamSendChunks_form {C : Type} {f : SendChunk K C} (hf : ChunkStill env op s f)
    (hsend : op.SendsOn s) (hop : ¬ op.Connects) (hs : Sound env e) (hl : e.LiveStream s) (size : ℕ)
    (flush vectored : Bool) (context : C) :
    CallForm env op e (streamSendChunks env f e s size flush vectored context).2 := by
  rw [streamSendChunks]
  dsimp only
  generalize hst : (if vectored = true then _ else _ : EngineStats) = st
  have hlife : st.life = e.stats.life := by
    rw [← hst]
    split_ifs <;> rfl
  have hq : Sound env e.tock := (quiet_act op (Nat.le_succ _)).sound hs
  have hi : Inside env (engineOperationEnter { e.tock with stats := st }) := hq.enter st hlife
  exact .bracket (Nat.le_succ _) hlife (streamSendGuarded_still hf hsend hi hl
    ⟨e.tick, Nat.lt_succ_self _, rfl⟩ size flush context).acts fun h => absurd h hop

/-- **Every valid call has one of the three forms.** -/
lemma Call.exec_form (hs : Sound env e) (hn : e.NoInit) (hv : op.Valid e) :
    CallForm env op e (op.exec env e) := by
  cases op with
  | update => exact .update rfl
  | input d addr =>
      rw [Call.exec]
      by_cases hd : d = []
      · rw [engineInput, if_pos hd]
        exact .bare (by simp [hd, Call.Connects, Buf.of, msgConnConnect]) (Bare.refl e)
      · exact CallForm.of_connects (engineInput_acts hs hd rfl hn) rfl
  | finishBatch =>
      have hq : Sound env e.tock := (quiet_act .finishBatch (Nat.le_succ _)).sound hs
      exact .bracket (Nat.le_succ _) rfl (engineFinishBatchLoop_acts _ (hq.enter _ rfl)
        ⟨e.tick, Nat.lt_succ_self _, rfl⟩) False.elim
  | connConnect addr config ext callbacks =>
      exact CallForm.of_connects (connConnect_acts hs rfl hn) rfl
  | connClose c => exact CallForm.of_acts (connClose_acts hs hv (hn c hv)) rfl id
  | connSetConfig c config =>
      rw [Call.exec]
      rcases connSetConfig_act hs.toOwn hv config with heq | ⟨now, prepared, m, t, hr, ha, hre⟩
      · rw [heq]
        exact .bare id (Bare.refl e)
      · exact .bare id ⟨e, .refl, rfl, Or.inr ⟨now, hr, _, ha, hre⟩⟩
  | connSetCallbacks c callbacks =>
      obtain ⟨ha, heq⟩ := connSetCallbacks_act hv callbacks (Or.inl ⟨callbacks, rfl⟩)
      rw [Call.exec, heq]
      exact .bare id (Bare.of_acts (.single ha) rfl)
  | streamCreate c config callbacks => exact CallForm.of_acts (streamCreate_acts hs hv rfl) rfl id
  | streamClose s => exact CallForm.of_acts (streamClose_acts hs hv.1 rfl) rfl id
  | streamSetConfig s config =>
      rw [Call.exec]
      rcases streamSetConfig_act hs.toOwn hv.1 config (Or.inl ⟨config, rfl⟩) with
        heq | ⟨now, r, prepared, m, t, hr, ha, hre⟩
      · rw [heq]
        exact .bare id (Bare.refl e)
      · exact .bare id ⟨e, .refl, rfl, Or.inr ⟨now, hr, _, ha, hre⟩⟩
  | streamSetCallbacks s callbacks =>
      obtain ⟨ha, heq⟩ := streamSetCallbacks_act hv.1 hv.2 callbacks
      rw [Call.exec, heq]
      exact .bare id (Bare.of_acts (.single ha) rfl)
  | streamSend s buf flush =>
      rw [Call.exec, KcpMux.streamSend]
      split_ifs
      · exact .bare id (Bare.refl e)
      · exact streamSendChunks_form (streamSendContiguousChunk_still (Or.inl ⟨_, _, rfl⟩))
          (Or.inl ⟨_, _, rfl⟩) id hs hv.1 _ _ _ _
  | streamSendv s iov flush =>
      rw [Call.exec, KcpMux.streamSendv]
      split_ifs
      · exact .bare id (Bare.refl e)
      · exact streamSendChunks_form (streamSendVectoredChunk_still (Or.inr ⟨_, _, rfl⟩))
          (Or.inr ⟨_, _, rfl⟩) id hs hv.1 _ _ _ _
  | streamFinishBatch s => exact .bare id (streamFinishBatch_bare hs hv.1)
  | streamPeekSize s =>
      obtain ⟨h, ht, -⟩ := streamPeekSize_still hs hv.1
      exact .bare id (Bare.of_acts h.acts ht)
  | streamRecv s size => exact .bare id (streamRecv_bare hs hv.1 size ⟨size, rfl⟩)

end KcpMux
