import KcpMux.Protocol.Input
import KcpMux.Runs.Timer

/-!
Nothing depends on the count of received bytes.

`Engine.addRx c n` adds `n` to the received bytes of the connection `c`.  Every function that
works off a control message commutes with it: each lemma here is about one function, and reads
off that the function neither looks at the counter nor sets it.
-/

namespace KcpMux

variable {K : Type}

/-- `n` more received bytes. -/
def ConnStats.addRx (n : ℕ) (st : ConnStats) : ConnStats := { st with rxBytes := st.rxBytes + n }

/-- `n` more received bytes for the connection `c`. -/
def Engine.addRx (c n : ℕ) (e : Engine K) : Engine K :=
  { e with connStats := Function.update e.connStats c ((e.connStats c).addRx n) }

/-! ### Branches and sequences -/

section

variable {c n : ℕ} {p : Prop} [Decidable p]

lemma addRx_ite {a b a' b' : Engine K} (ha : a' = a.addRx c n) (hb : b' = b.addRx c n) :
    (if p then a' else b') = (if p then a else b).addRx c n := by
  rw [apply_ite (Engine.addRx c n), ha, hb]

lemma addRx_ite_pair {α : Type} {a b a' b' : α × Engine K} (ha : a' = (a.1, a.2.addRx c n))
    (hb : b' = (b.1, b.2.addRx c n)) :
    (if p then a' else b') = ((if p then a else b).1, (if p then a else b).2.addRx c n) := by
  split_ifs
  · exact ha
  · exact hb

omit [Decidable p] in
lemma addRx_then {a a' : Engine K} (f : Engine K → Engine K)
    (hf : ∀ e, f (e.addRx c n) = (f e).addRx c n) (ha : a' = a.addRx c n) :
    f a' = (f a).addRx c n := by
  rw [ha, hf]

end

variable (env : Env K) (e : Engine K) (c n : ℕ)

/-- An update of other counters. -/
lemma setConnStats_addRx (f : ConnStats → ConnStats)
    (hf : ∀ st, f (st.addRx n) = (f st).addRx n) (q : ℕ) :
    ({ e.addRx c n with
        connStats := Function.update (e.addRx c n).connStats q
          (f ((e.addRx c n).connStats q)) } : Engine K) =
      Engine.addRx c n
        { e with connStats := Function.update e.connStats q (f (e.connStats q)) } := by
  simp only [Engine.addRx]
  by_cases h : q = c
  · subst h
    simp [hf]
  · simp [h, Ne.symm h, Function.update_comm (Ne.symm h)]

/-! ### Timer nodes -/

lemma engineRearmTimer_addRx (now : ℤ) :
    engineRearmTimer (e.addRx c n) now = (engineRearmTimer e now).addRx c n := by
  rw [engineRearmTimer, engineRearmTimer]
  refine addRx_ite rfl ?_
  have hm : (e.addRx c n).timerManager = e.timerManager := rfl
  rw [hm]
  cases timerPeek e.timerManager with
  | none => rfl
  | some root => exact addRx_ite rfl rfl

lemma engineScheduleTimerNode_addRx (o : Owner) (d now : ℤ) :
    engineScheduleTimerNode env (e.addRx c n) o d now =
      ((engineScheduleTimerNode env e o d now).1,
        (engineScheduleTimerNode env e o d now).2.addRx c n) := by
  rw [engineScheduleTimerNode, engineScheduleTimerNode]
  refine addRx_ite_pair rfl (addRx_ite_pair ?_ rfl)
  exact Prod.ext rfl (engineRearmTimer_addRx { e.tock with timerManager := _ } c n now)

lemma engineCancelTimerNode_addRx (o : Owner) (now : ℤ) :
    engineCancelTimerNode (e.addRx c n) o now = (engineCancelTimerNode e o now).addRx c n :=
  engineRearmTimer_addRx { e with timerManager := timerCancel e.timerManager o } c n now

lemma engineUnregisterTimerNode_addRx (o : Owner) :
    engineUnregisterTimerNode env (e.addRx c n) o =
      (engineUnregisterTimerNode env e o).addRx c n := by
  rw [engineUnregisterTimerNode, engineUnregisterTimerNode]
  exact addRx_ite rfl (engineRearmTimer_addRx { e.tock with
    timerManager := timerUnregister e.timerManager o, timerNodeCount := e.timerNodeCount - 1 }
    c n (engineNow env e))

/-! ### The socket -/

lemma connWriteSocketv_addRx (o : Owner) (q : ℕ) (iov : List Bytes) :
    connWriteSocketv env (e.addRx c n) o q iov =
      ((connWriteSocketv env e o q iov).1, (connWriteSocketv env e o q iov).2.addRx c n) := by
  by_cases hiov : iov = []
  · subst hiov
    rfl
  · have hcs := setConnStats_addRx { e with
        trace := .write o (e.conns q).peerAddr iov.flatten (env.writeSocketv e.tick) :: e.trace
        tick := e.tick + 1
        stats := e.stats.sent iov.flatten.length (env.writeSocketv e.tick) } c n
      (fun st => st.sent iov.flatten.length (env.writeSocketv e.tick))
      (fun st => by simp only [ConnStats.sent]; split_ifs <;> rfl) q
    rw [connWriteSocketv_eq env _ o q hiov, connWriteSocketv_eq env _ o q hiov]
    exact Prod.ext rfl hcs

lemma connSendConnectAck_addRx (q : ℕ) (result : UInt8) :
    connSendConnectAck env (e.addRx c n) q result =
      ((connSendConnectAck env e q result).1, (connSendConnectAck env e q result).2.addRx c n) := by
  rw [connSendConnectAck, connSendConnectAck, protocolSendConnConnectAck,
    protocolSendConnConnectAck]
  exact addRx_ite_pair rfl (connWriteSocketv_addRx env e c n _ _ _)

lemma connSendCloseAck_addRx (q : ℕ) (reason : UInt8) :
    connSendCloseAck env (e.addRx c n) q reason =
      ((connSendCloseAck env e q reason).1, (connSendCloseAck env e q reason).2.addRx c n) :=
  connWriteSocketv_addRx env e c n _ _ _

lemma streamSendCloseAck_addRx (s : ℕ) (reason : UInt8) :
    streamSendCloseAck env (e.addRx c n) s reason =
      ((streamSendCloseAck env e s reason).1, (streamSendCloseAck env e s reason).2.addRx c n) :=
  connWriteSocketv_addRx env e c n _ _ _

/-! ### Streams -/

lemma streamRefreshDeadline_addRx (s : ℕ) (now : ℤ) :
    streamRefreshDeadline env (e.addRx c n) s now =
      ((streamRefreshDeadline env e s now).1, (streamRefreshDeadline env e s now).2.addRx c n) := by
  rw [streamRefreshDeadline, streamRefreshDeadline]
  refine addRx_ite_pair rfl (addRx_ite_pair rfl ?_)
  have hs : (e.addRx c n).streams = e.streams := rfl
  rw [hs]
  cases (e.streams s).state with
  | closing => cases (e.streams s).closePhase <;> rfl
  | opened | closed | error => rfl

lemma streamRefreshTimer_addRx (s : ℕ) (now : ℤ) :
    streamRefreshTimer env (e.addRx c n) s now = (streamRefreshTimer env e s now).addRx c n := by
  rw [streamRefreshTimer, streamRefreshTimer]
  refine addRx_ite rfl ?_
  rw [streamRefreshDeadline_addRx]
  dsimp only
  cases (streamRefreshDeadline env e s now).1 with
  | none => exact engineCancelTimerNode_addRx _ c n _ _
  | some d => exact congrArg Prod.snd (engineScheduleTimerNode_addRx env _ c n _ _ _)

lemma streamSetState_addRx (s : ℕ) (new : StreamState) :
    streamSetState env (e.addRx c n) s new = (streamSetState env e s new).addRx c n := by
  rw [streamSetState, streamSetState]
  refine addRx_ite rfl ?_
  exact addRx_then (fun e' =>
      if new ≠ .closed ∧ new ≠ .error ∧ (e'.streams s).callbacks.streamStateChanged then
        e'.log (.streamStateChanged s (e.streams s).state new)
      else e')
    (fun e' => addRx_ite rfl rfl)
    (streamRefreshTimer_addRx env (e.setStream s { e.streams s with state := new }).tock c n s
      (engineNow env (e.setStream s { e.streams s with state := new })))

lemma streamScheduleFinalize_addRx (s : ℕ) (reason : UInt8) (now : ℤ) :
    streamScheduleFinalize env (e.addRx c n) s reason now =
      (streamScheduleFinalize env e s reason now).addRx c n :=
  congrArg Prod.snd (engineScheduleTimerNode_addRx env (streamClearPending ((e.setStream s
    { e.streams s with closeReason := reason }).setClosePhase s .finalize) s) c n (.stream s)
    now now)

lemma connRemoveStream_addRx (q s : ℕ) :
    connRemoveStream (e.addRx c n) q s = (connRemoveStream e q s).addRx c n := by
  rw [connRemoveStream, connRemoveStream]
  exact addRx_ite rfl rfl

lemma streamReleaseKcp_addRx (s : ℕ) :
    streamReleaseKcp (e.addRx c n) s = (streamReleaseKcp e s).addRx c n := by
  rw [streamReleaseKcp, streamReleaseKcp]
  exact addRx_ite rfl rfl

lemma streamCloseNotify_addRx (s : ℕ) (reason : UInt8) :
    streamCloseNotify (e.addRx c n) s reason = (streamCloseNotify e s reason).addRx c n := by
  rw [streamCloseNotify, streamCloseNotify]
  refine addRx_then (engineQueueRelease · (.stream s)) (fun _ => rfl) ?_
  exact addRx_then (fun e' => if (e'.streams s).callbacks.streamCloseNotify then
    e'.log (.streamCloseNotify s reason) else e') (fun _ => addRx_ite rfl rfl) (addRx_ite rfl rfl)

lemma streamCloseInternal_addRx (s : ℕ) (reason : UInt8) :
    streamCloseInternal env (e.addRx c n) s reason =
      (streamCloseInternal env e s reason).addRx c n := by
  rw [streamCloseInternal, streamCloseInternal]
  refine addRx_ite rfl ?_
  have h1 := engineUnregisterTimerNode_addRx env
    (streamClearPending (e.setStream s { e.streams s with internalClosed := true }) s) c n
    (.stream s)
  have h2 := addRx_then (fun e' => connRemoveStream e' (e'.streams s).conn s)
    (fun e' => connRemoveStream_addRx e' c n _ s) h1
  have h3 := addRx_then (fun e' => streamReleaseKcp { e' with stats := { e'.stats with
      streamClosedTotal := e'.stats.streamClosedTotal + 1 } } s)
    (fun e' => streamReleaseKcp_addRx { e' with stats := { e'.stats with
      streamClosedTotal := e'.stats.streamClosedTotal + 1 } } c n s) h2
  exact addRx_then (streamCloseNotify · s reason) (fun e' => streamCloseNotify_addRx e' c n s reason)
    h3

lemma streamHandleClose_addRx (s : ℕ) (reason : UInt8) :
    streamHandleClose env (e.addRx c n) s reason =
      ((streamHandleClose env e s reason).1, (streamHandleClose env e s reason).2.addRx c n) := by
  have hs : (e.addRx c n).tock.streams = e.streams := rfl
  have hack : (streamSendCloseAck env (e.addRx c n).tock s reason).2 =
      (streamSendCloseAck env e.tock s reason).2.addRx c n :=
    congrArg Prod.snd (streamSendCloseAck_addRx env e.tock c n s reason)
  rw [streamHandleClose, streamHandleClose]
  refine addRx_ite_pair rfl (addRx_ite_pair (Prod.ext rfl ?_) ?_)
  · exact addRx_then (streamCloseInternal env · s reason)
      (fun e' => streamCloseInternal_addRx env e' c n s reason)
      (congrArg Prod.snd (streamSendCloseAck_addRx env e c n s reason))
  have hs' : e.tock.streams = e.streams := rfl
  have hnow : engineNow env (e.addRx c n) = engineNow env e := rfl
  dsimp only
  rw [hs, hs', hack, hnow]
  generalize (streamSendCloseAck env e.tock s reason).2 = e1
  generalize engineNow env e = now
  cases (e.streams s).state with
  | closing =>
      cases (e.streams s).closePhase with
      | localDrain | waitAck =>
          exact Prod.ext rfl (streamScheduleFinalize_addRx env e1 c n s closeReasonNormal now)
      | remoteDrain | finalize | none => rfl
  | opened =>
      have h2 := streamSetState_addRx env ((e1.setStream s { e1.streams s with
        closeReason := reason, drainStartedTs := now }).setClosePhase s .remoteDrain) c n s .closing
      let f : Engine K → ℤ × Engine K := fun e2 =>
        if (kcpPeeksize env e2 s).1 ≤ 0 then
          (0, streamScheduleFinalize env (kcpPeeksize env e2 s).2 s reason now)
        else (0, (kcpPeeksize env e2 s).2)
      have hf : ∀ e2, f (e2.addRx c n) = ((f e2).1, (f e2).2.addRx c n) := fun e2 =>
        addRx_ite_pair (Prod.ext rfl
          (streamScheduleFinalize_addRx env (kcpPeeksize env e2 s).2 c n s reason now)) rfl
      exact (congrArg f h2).trans (hf _)
  | closed | error => rfl

/-! ### Connections -/

lemma connRefreshTimer_addRx (q : ℕ) (now : ℤ) :
    connRefreshTimer env (e.addRx c n) q now = (connRefreshTimer env e q now).addRx c n := by
  rw [connRefreshTimer, connRefreshTimer]
  refine addRx_ite rfl ?_
  have hc : (e.addRx c n).conns = e.conns := rfl
  rw [hc]
  cases connCalculateDeadline (e.conns q) with
  | none => exact engineCancelTimerNode_addRx e c n _ _
  | some d => exact congrArg Prod.snd (engineScheduleTimerNode_addRx env e c n _ _ _)

lemma connNoteReceive_addRx (q : ℕ) (now : ℤ) (isPayload : Bool) :
    connNoteReceive env (e.addRx c n) q now isPayload =
      (connNoteReceive env e q now isPayload).addRx c n := by
  rw [connNoteReceive, connNoteReceive]
  exact addRx_ite rfl (connRefreshTimer_addRx env (e.setConn q _) c n q now)

lemma connSetState_addRx (q : ℕ) (new : ConnState) :
    connSetState env (e.addRx c n) q new = (connSetState env e q new).addRx c n := by
  rw [connSetState, connSetState]
  refine addRx_ite rfl ?_
  set e1 := e.assignConnState q new
  have h1 := setConnStats_addRx
    { e1.tock with stats := { e1.stats with connConnectedTotal := e1.stats.connConnectedTotal + 1 } }
    c n (fun st => { st with
      handshakeTimeMs := UInt64.ofInt (engineNow env e1 - (e1.conns q).createdTs) })
    (fun _ => rfl) q
  have h2 := addRx_ite (p := new = .connected) h1 (rfl : e1.addRx c n = _)
  have h3 := addRx_then (fun e' => connRefreshTimer env e'.tock q (engineNow env e'))
    (fun e' => connRefreshTimer_addRx env e'.tock c n q _) h2
  exact addRx_then (fun e' =>
      if new ≠ .closed ∧ new ≠ .error ∧ (e'.conns q).callbacks.connStateChanged then
        e'.log (.connStateChanged q (e.conns q).state new)
      else e') (fun _ => addRx_ite rfl rfl) h3

lemma engineRemoveConn_addRx (q : ℕ) :
    engineRemoveConn (e.addRx c n) q = (engineRemoveConn e q).addRx c n := by
  rw [engineRemoveConn, engineRemoveConn]
  exact addRx_ite rfl rfl

lemma connCloseBegin_addRx (q : ℕ) :
    connCloseBegin env (e.addRx c n) q = (connCloseBegin env e q).addRx c n := by
  have h1 := engineUnregisterTimerNode_addRx env
    (e.setConn q { e.conns q with internalClosed := true }) c n (.conn q)
  have h2 := addRx_then (engineRemoveConn · q) (fun e' => engineRemoveConn_addRx e' c n q) h1
  exact addRx_then (fun e' => { e' with stats := { e'.stats with
    connClosedTotal := e'.stats.connClosedTotal + 1 } }) (fun _ => rfl) h2

lemma foldl_addRx {α : Type} (f : Engine K → α → Engine K)
    (hf : ∀ e a, f (e.addRx c n) a = (f e a).addRx c n) (l : List α) :
    l.foldl f (e.addRx c n) = (l.foldl f e).addRx c n := by
  induction l generalizing e with
  | nil => rfl
  | cons a l ih => rw [List.foldl_cons, List.foldl_cons, hf, ih]

lemma connCloseStreams_addRx (q : ℕ) (reason : UInt8) :
    connCloseStreams env (e.addRx c n) q reason = (connCloseStreams env e q reason).addRx c n :=
  foldl_addRx e c n
    (fun e i => ((e.conns q).streamMap.hashtable i).foldl
      (fun e s => streamCloseInternal env e s reason) e)
    (fun e _ => foldl_addRx e c n (fun e s => streamCloseInternal env e s reason)
      (fun e s => streamCloseInternal_addRx env e c n s reason) _) _

lemma connCloseEnd_addRx (q : ℕ) (reason : UInt8) :
    connCloseEnd (e.addRx c n) q reason = (connCloseEnd e q reason).addRx c n := by
  rw [connCloseEnd, connCloseEnd]
  refine addRx_then (engineQueueRelease · (.conn q)) (fun _ => rfl) ?_
  exact addRx_then (fun e' => if (e'.conns q).callbacks.connCloseNotify then
    e'.log (.connCloseNotify q reason) else e') (fun _ => addRx_ite rfl rfl) (addRx_ite rfl rfl)

lemma connCloseInternal_addRx (q : ℕ) (reason : UInt8) :
    connCloseInternal env (e.addRx c n) q reason = (connCloseInternal env e q reason).addRx c n := by
  rw [connCloseInternal, connCloseInternal]
  refine addRx_ite rfl ?_
  rw [connCloseBegin_addRx, connCloseStreams_addRx, connCloseEnd_addRx]

/-! ### Messages -/

lemma inputConnectAck_addRx (q : ℕ) (buf : Buf) (size : ℕ) (recv : ℤ) :
    inputConnectAck env (e.addRx c n) q buf size recv =
      ((inputConnectAck env e q buf size recv).1,
        (inputConnectAck env e q buf size recv).2.addRx c n) := by
  rw [inputConnectAck, inputConnectAck]
  refine addRx_ite_pair rfl (addRx_ite_pair rfl (addRx_ite_pair rfl (addRx_ite_pair rfl
    (addRx_ite_pair rfl ?_))))
  rw [connNoteReceive_addRx]
  dsimp only
  generalize connNoteReceive env e q recv false = e1
  refine addRx_ite_pair (Prod.ext rfl ?_) (Prod.ext rfl ?_)
  · exact connSetState_addRx env (e1.setConn q _) c n q .connected
  · exact addRx_then (fun e' => connCloseInternal env e' q _)
      (fun e' => connCloseInternal_addRx env e' c n q _)
      (connSetState_addRx env { e1 with stats := { e1.stats with
        connRejectedTotal := e1.stats.connRejectedTotal + 1 } } c n q .error)

lemma inputKeepalive_addRx (q size : ℕ) (recv : ℤ) :
    inputKeepalive env (e.addRx c n) q size recv =
      ((inputKeepalive env e q size recv).1, (inputKeepalive env e q size recv).2.addRx c n) := by
  rw [inputKeepalive, inputKeepalive]
  exact addRx_ite_pair rfl (Prod.ext rfl (connNoteReceive_addRx env e c n q recv false))

lemma inputConnClose_addRx (q : ℕ) (buf : Buf) (size : ℕ) (recv : ℤ) :
    inputConnClose env (e.addRx c n) q buf size recv =
      ((inputConnClose env e q buf size recv).1,
        (inputConnClose env e q buf size recv).2.addRx c n) := by
  rw [inputConnClose, inputConnClose]
  refine addRx_ite_pair rfl (Prod.ext rfl ?_)
  dsimp only
  rw [connNoteReceive_addRx, connSendCloseAck_addRx, connCloseInternal_addRx]

lemma inputConnCloseAck_addRx (q size : ℕ) (recv : ℤ) :
    inputConnCloseAck env (e.addRx c n) q size recv =
      ((inputConnCloseAck env e q size recv).1,
        (inputConnCloseAck env e q size recv).2.addRx c n) := by
  rw [inputConnCloseAck, inputConnCloseAck]
  refine addRx_ite_pair rfl (addRx_ite_pair rfl (Prod.ext rfl ?_))
  dsimp only
  rw [connNoteReceive_addRx, connCloseInternal_addRx]
  rfl

lemma inputStreamClose_addRx (q : ℕ) (buf : Buf) (size : ℕ) (recv : ℤ) :
    inputStreamClose env (e.addRx c n) q buf size recv =
      ((inputStreamClose env e q buf size recv).1,
        (inputStreamClose env e q buf size recv).2.addRx c n) := by
  have hget : ∀ id, connGetStreamById env (e.addRx c n) q id = connGetStreamById env e q id :=
    fun _ => rfl
  rw [inputStreamClose, inputStreamClose]
  refine addRx_ite_pair rfl (addRx_ite_pair rfl ?_)
  rw [hget]
  cases connGetStreamById env e q (readU32 buf protoCommonLen) with
  | none => rfl
  | some s =>
      dsimp only
      rw [connNoteReceive_addRx, streamHandleClose_addRx]

lemma inputStreamCloseAck_addRx (q : ℕ) (buf : Buf) (size : ℕ) (recv : ℤ) :
    inputStreamCloseAck env (e.addRx c n) q buf size recv =
      ((inputStreamCloseAck env e q buf size recv).1,
        (inputStreamCloseAck env e q buf size recv).2.addRx c n) := by
  have hget : ∀ id, connGetStreamById env (e.addRx c n) q id = connGetStreamById env e q id :=
    fun _ => rfl
  rw [inputStreamCloseAck, inputStreamCloseAck]
  refine addRx_ite_pair rfl (addRx_ite_pair rfl ?_)
  rw [hget]
  cases connGetStreamById env e q (readU32 buf protoCommonLen) with
  | none => rfl
  | some s =>
      refine addRx_ite_pair rfl (Prod.ext rfl ?_)
      dsimp only
      rw [connNoteReceive_addRx, streamCloseInternal_addRx]
      rfl

/-- **A control message** does not depend on the bytes that were received before. -/
lemma inputConn_addRx (q : ℕ) (buf : Buf) (hbuf : buf 0 ≠ msgStreamPayload) (size : ℕ)
    (recv : ℤ) :
    inputConn env (e.addRx c n) q buf size recv =
      ((inputConn env e q buf size recv).1, (inputConn env e q buf size recv).2.addRx c n) := by
  rw [inputConn, inputConn]
  refine addRx_ite_pair (inputConnectAck_addRx env e c n q buf size recv) ?_
  refine addRx_ite_pair (inputKeepalive_addRx env e c n q size recv) ?_
  refine addRx_ite_pair (inputConnClose_addRx env e c n q buf size recv) ?_
  refine addRx_ite_pair (inputConnCloseAck_addRx env e c n q size recv) ?_
  refine addRx_ite_pair (inputStreamClose_addRx env e c n q buf size recv) ?_
  refine addRx_ite_pair (inputStreamCloseAck_addRx env e c n q buf size recv) ?_
  rw [if_neg hbuf, if_neg hbuf]

end KcpMux
