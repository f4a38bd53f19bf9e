import KcpMux.Runs.Timer

/-!
What a function leaves alone.

`Within S C e e'` says that between the engines `e` and `e'` only objects of `S` were touched,
and beyond them only the stream tables and traffic counters of the connections of `C`.  Each
lemma here is about one function, takes what was left alone before the call, and needs no
invariant, except for the cascade of a connection over its streams.
-/

namespace KcpMux

variable {K : Type} {env : Env K} {S : Owner → Prop} {C : ℕ → Prop} {e e1 e2 : Engine K}
  {s c : ℕ} {o : Owner}

/-- A connection without its stream table. -/
def Conn.apart (x : Conn) : Conn :=
  { x with streamMap := ⟨fun _ => [], 0, 0⟩, streamCount := 0 }

/-- Only objects of `S` were touched, and tables and counters of connections of `C`. -/
structure Within (S : Owner → Prop) (C : ℕ → Prop) (e e' : Engine K) : Prop where
  conn : ∀ c, ¬ S (.conn c) → (e'.conns c).apart = (e.conns c).apart
  table : ∀ c, ¬ S (.conn c) → ¬ C c →
    e'.conns c = e.conns c ∧ e'.connStats c = e.connStats c
  stream : ∀ s, ¬ S (.stream s) → e'.streams s = e.streams s
  home : ∀ s < e.nstreams, (e'.streams s).conn = (e.streams s).conn
  nstreams : e.nstreams ≤ e'.nstreams
  node : ∀ o, ¬ S o → (e.timerManager.node o).SameBut (e'.timerManager.node o)
  batch : ∀ s, ¬ S (.stream s) → (s ∈ e'.pendingBatchStreams ↔ s ∈ e.pendingBatchStreams)
  queue : ∀ o ∈ e'.pendingReleaseList, S o ∨ o ∈ e.pendingReleaseList
  log : ∃ evs, e'.trace = evs ++ e.trace ∧ ∀ ev ∈ evs, ∀ o, ev.subject = some o → S o

namespace Within

lemma refl (e : Engine K) : Within S C e e where
  conn _ _ := rfl
  table _ _ _ := ⟨rfl, rfl⟩
  stream _ _ := rfl
  home _ _ := rfl
  nstreams := le_rfl
  node _ _ := TimerNode.SameBut.refl _
  batch _ _ := Iff.rfl
  queue _ := Or.inr
  log := ⟨[], rfl, by simp⟩

lemma trans (h : Within S C e e1) (h' : Within S C e1 e2) : Within S C e e2 where
  conn c hc := (h'.conn c hc).trans (h.conn c hc)
  table c hc hC :=
    ⟨(h'.table c hc hC).1.trans (h.table c hc hC).1, (h'.table c hc hC).2.trans (h.table c hc hC).2⟩
  stream s hs := (h'.stream s hs).trans (h.stream s hs)
  home s hs := (h'.home s (hs.trans_le h.nstreams)).trans (h.home s hs)
  nstreams := h.nstreams.trans h'.nstreams
  node o ho := (h.node o ho).trans (h'.node o ho)
  batch s hs := (h'.batch s hs).trans (h.batch s hs)
  queue o ho := (h'.queue o ho).elim Or.inl (h.queue o)
  log := by
    obtain ⟨evs, ht, hs⟩ := h.log
    obtain ⟨evs', ht', hs'⟩ := h'.log
    refine ⟨evs' ++ evs, by rw [ht', ht, List.append_assoc], fun ev hev => ?_⟩
    exact (List.mem_append.mp hev).elim (hs' ev) (hs ev)

/-- A change of fields no object owns. -/
lemma bare (h : Within S C e e1) (hc : e2.conns = e1.conns) (hcs : e2.connStats = e1.connStats)
    (hs : e2.streams = e1.streams) (hn : e2.nstreams = e1.nstreams)
    (hm : e2.timerManager = e1.timerManager)
    (hb : e2.pendingBatchStreams = e1.pendingBatchStreams)
    (hq : e2.pendingReleaseList = e1.pendingReleaseList) (ht : e2.trace = e1.trace) :
    Within S C e e2 where
  conn := by rw [hc]; exact h.conn
  table := by rw [hc, hcs]; exact h.table
  stream := by rw [hs]; exact h.stream
  home := by rw [hs]; exact h.home
  nstreams := by rw [hn]; exact h.nstreams
  node := by rw [hm]; exact h.node
  batch := by rw [hb]; exact h.batch
  queue := by rw [hq]; exact h.queue
  log := by rw [ht]; exact h.log

lemma tock (h : Within S C e e1) : Within S C e e1.tock :=
  h.bare rfl rfl rfl rfl rfl rfl rfl rfl

lemma stats (h : Within S C e e1) (st : EngineStats) : Within S C e { e1 with stats := st } :=
  h.bare rfl rfl rfl rfl rfl rfl rfl rfl

lemma logs (h : Within S C e e1) (evs : List Event)
    (hev : ∀ ev ∈ evs, ∀ o, ev.subject = some o → S o) :
    Within S C e { e1 with trace := evs ++ e1.trace } := by
  obtain ⟨evs', ht, hs⟩ := h.log
  refine { h with log := ⟨evs ++ evs', by rw [ht, List.append_assoc], fun ev hev' => ?_⟩ }
  exact (List.mem_append.mp hev').elim (hev ev) (hs ev)

lemma logged (h : Within S C e e1) (ev : Event) (hev : ∀ o, ev.subject = some o → S o) :
    Within S C e (e1.log ev) :=
  h.logs [ev] fun ev' hev' => by rw [List.mem_singleton.mp hev']; exact hev

lemma setConn (h : Within S C e e1) (hc : S (.conn c)) (x : Conn) :
    Within S C e (e1.setConn c x) := by
  have hne : ∀ q, ¬ S (.conn q) → (e1.setConn c x).conns q = e1.conns q := by
    intro q hq
    have hqc : q ≠ c := by rintro rfl; exact hq hc
    simp [Engine.setConn, hqc]
  exact { h with
    conn := fun q hq => by rw [hne q hq]; exact h.conn q hq
    table := fun q hq hC => by rw [hne q hq]; exact h.table q hq hC }

lemma setStream (h : Within S C e e1) (hs : S (.stream s)) {x : Stream K}
    (hx : x.conn = (e1.streams s).conn) : Within S C e (e1.setStream s x) := by
  refine { h with stream := fun q hq => ?_, home := fun q hq => ?_ }
  · have hqs : q ≠ s := by rintro rfl; exact hq hs
    simpa [Engine.setStream, hqs] using h.stream q hq
  · by_cases hqs : q = s
    · subst hqs
      simpa [Engine.setStream, hx] using h.home q hq
    · simpa [Engine.setStream, hqs] using h.home q hq

/-- A change of the timer node of an object of `S`. -/
lemma timer (h : Within S C e e1) (ho : S o) {m : TimerManager Owner}
    (hm : ∀ q, q ≠ o → (e1.timerManager.node q).SameBut (m.node q)) :
    Within S C e { e1 with timerManager := m } :=
  { h with node := fun q hq => (h.node q hq).trans (hm q (by rintro rfl; exact hq ho)) }

lemma erase (h : Within S C e e1) (hs : S (.stream s)) :
    Within S C e { e1 with pendingBatchStreams := e1.pendingBatchStreams.erase s } := by
  refine { h with batch := fun q hq => ?_ }
  have hqs : q ≠ s := by rintro rfl; exact hq hs
  exact (List.mem_erase_of_ne hqs).trans (h.batch q hq)

lemma append (h : Within S C e e1) (hs : S (.stream s)) :
    Within S C e { e1 with pendingBatchStreams := e1.pendingBatchStreams ++ [s] } := by
  refine { h with batch := fun q hq => ?_ }
  have hqs : q ≠ s := by rintro rfl; exact hq hs
  simpa [hqs] using h.batch q hq

lemma queued (h : Within S C e e1) (ho : S o) : Within S C e (engineQueueRelease e1 o) := by
  refine { h with queue := fun q hq => ?_ }
  rcases List.mem_append.mp hq with hq | hq
  · exact h.queue q hq
  · rw [List.mem_singleton.mp hq]
    exact Or.inl ho

/-! ### Timer nodes -/

lemma rearm (h : Within S C e e1) (now : ℤ) : Within S C e (engineRearmTimer e1 now) := by
  obtain ⟨a, d, evs, heq, hev⟩ := engineRearmTimer_eq e1 now
  rw [heq]
  have h1 := h.logs evs fun ev hev' o ho => by
    rw [(hev ev hev').subject] at ho
    cases ho
  exact h1.bare rfl rfl rfl rfl rfl rfl rfl rfl

lemma schedule (h : Within S C e e1) (ho : S o) (d now : ℤ) :
    Within S C e (engineScheduleTimerNode env e1 o d now).2 := by
  rw [engineScheduleTimerNode]
  by_cases hown : (e1.timerManager.node o).owner = false
  · rw [if_pos hown]
    exact h
  · rw [if_neg hown]
    dsimp only
    generalize (if d < now then now else d) = d'
    have h1 : Within S C e { e1.tock with
        timerManager := (timerSchedule e1.timerManager o d' (env.alloc e1.tick)).2 } :=
      h.tock.timer ho fun q hq => timerSchedule_other _ hq _ _
    split_ifs
    · exact h1.rearm now
    · exact h1

lemma cancel (h : Within S C e e1) (ho : S o) (now : ℤ) :
    Within S C e (engineCancelTimerNode e1 o now) := by
  rw [engineCancelTimerNode]
  exact (h.timer ho fun q hq => timerCancel_other _ hq).rearm now

lemma unregister (h : Within S C e e1) (ho : S o) :
    Within S C e (engineUnregisterTimerNode env e1 o) := by
  rw [engineUnregisterTimerNode]
  split_ifs
  · exact h
  · refine rearm ?_ _
    refine (h.tock.timer ho (m := timerUnregister e1.timerManager o) fun q hq => ?_).bare
      rfl rfl rfl rfl rfl rfl rfl rfl
    rw [timerUnregister, setNode_node_of_ne _ hq]
    exact timerCancel_other _ hq

/-! ### The socket -/

lemma write (h : Within S C e e1) (ho : S o) (hc : S (.conn c) ∨ C c) (iov : List Bytes) :
    Within S C e (connWriteSocketv env e1 o c iov).2 := by
  by_cases hiov : iov = []
  · rw [connWriteSocketv, engineWriteSocketv, if_pos hiov,
      if_neg (show ¬ -errInvalidParam = 0 by decide)]
    exact h
  · rw [connWriteSocketv_eq env e1 o c hiov]
    have h1 := h.logged (.write o (e1.conns c).peerAddr iov.flatten (env.writeSocketv e1.tick))
      fun q hq => by cases hq; exact ho
    refine { h1 with table := fun q hq hC => ⟨(h.table q hq hC).1, ?_⟩ }
    have hqc : q ≠ c := by
      rintro rfl
      exact hc.elim hq hC
    simpa [hqc] using (h.table q hq hC).2

/-! ### The KCP instance -/

/-- The stream is in `S`, and the table of its connection may change. -/
structure Home (S : Owner → Prop) (C : ℕ → Prop) (e : Engine K) (s : ℕ) : Prop where
  own : S (.stream s)
  home : S (.conn (e.streams s).conn) ∨ C (e.streams s).conn
  lt : s < e.nstreams

lemma at_home (h : Within S C e e1) (hs : Home S C e s) :
    S (.conn (e1.streams s).conn) ∨ C (e1.streams s).conn := by
  rw [h.home s hs.lt]
  exact hs.home

section

variable (h : Within S C e e1) (hs : Home S C e s)

include h hs

lemma kcpOutput (b : Bytes) : Within S C e (kcpOutput env s e1 b) := by
  have hsend : Within S C e (protocolSendStreamPayload env e1 s b).2 := by
    rw [protocolSendStreamPayload]
    split_ifs
    · exact h
    · exact h
    · exact h.write hs.own (h.at_home hs) _
  rw [KcpMux.kcpOutput]
  dsimp only
  split_ifs
  · exact h
  · exact hsend.setStream hs.own (by rfl)
  · exact hsend

omit h in
lemma kcpOutputs (out : List Bytes) {e1 : Engine K} (h : Within S C e e1) :
    Within S C e (out.foldl (kcpEmit env s) e1) := by
  induction out generalizing e1 with
  | nil => exact h
  | cons b out ih =>
      have hlog : Within S C e (e1.log (.kcpOutput s b)) :=
        h.logged _ fun o ho => by cases ho; exact hs.own
      exact ih (hlog.kcpOutput hs b)

lemma kcpLog (call : KcpCall) : Within S C e (e1.log (.kcp s call)).tock :=
  (h.logged _ fun o ho => by cases ho; exact hs.own).tock

lemma kcpRun (f : ℕ → K → KcpOut K) (call : ℤ → KcpCall) :
    Within S C e (kcpRun env e1 s f call).2 := by
  rw [KcpMux.kcpRun]
  cases (e1.streams s).kcp with
  | none => exact h.kcpLog hs _
  | some k => exact kcpOutputs hs _ ((h.kcpLog hs _).setStream hs.own (by rfl))

lemma kcpAsk (f : ℕ → K → ℤ) (call : ℤ → KcpCall) : Within S C e (kcpAsk e1 s f call).2 :=
  h.kcpLog hs _

/-! ### Streams -/

lemma setClosePhase (phase : ClosePhase) : Within S C e (e1.setClosePhase s phase) :=
  (h.logged _ fun o ho => by cases ho; exact hs.own).setStream hs.own (by rfl)

lemma streamClearPending : Within S C e (streamClearPending e1 s) :=
  (h.setStream hs.own (by rfl)).erase hs.own

lemma streamAccumulateUpdate (now : ℤ) : Within S C e (streamAccumulateUpdate env e1 s now) := by
  rw [KcpMux.streamAccumulateUpdate]
  dsimp only
  have happ : Within S C e (if (e1.streams s).pendingCount = 0 then
      { e1 with pendingBatchStreams := e1.pendingBatchStreams ++ [s] } else e1) := by
    split_ifs
    · exact h.append hs.own
    · exact h
  have hconn : (e1.streams s).conn = ((if (e1.streams s).pendingCount = 0 then
      { e1 with pendingBatchStreams := e1.pendingBatchStreams ++ [s] } else e1).streams s).conn := by
    split_ifs <;> rfl
  generalize (if (e1.streams s).pendingCount = 0 then
    { e1 with pendingBatchStreams := e1.pendingBatchStreams ++ [s] } else e1) = e2 at happ hconn ⊢
  have hset : Within S C e (e2.setStream s { e1.streams s with
      pendingCount := (e1.streams s).pendingCount + 1 }) :=
    happ.setStream hs.own (by exact hconn)
  split_ifs
  · exact h.schedule hs.own _ _
  · exact h
  · exact (hset.erase hs.own).schedule hs.own _ _
  · exact hset

lemma streamRefreshDeadline (now : ℤ) : Within S C e (streamRefreshDeadline env e1 s now).2 := by
  have hcheck : Within S C e (kcpCheck env e1 s now).2 := h.kcpAsk hs _ _
  rw [KcpMux.streamRefreshDeadline]
  dsimp only
  by_cases h1 : (e1.streams s).internalClosed = true
  · rw [if_pos h1]
    exact h
  rw [if_neg h1]
  by_cases h2 : (e1.connOf s).internalClosed = true ∨ (e1.connOf s).state ≠ .connected
  · rw [if_pos h2]
    exact h
  rw [if_neg h2]
  cases (e1.streams s).state with
  | opened => exact hcheck
  | closing =>
      cases (e1.streams s).closePhase with
      | localDrain => exact hcheck
      | waitAck | remoteDrain | finalize | none => exact h
  | closed | error => exact h

lemma streamRefreshTimer (now : ℤ) : Within S C e (streamRefreshTimer env e1 s now) := by
  have hdl : Within S C e (KcpMux.streamRefreshDeadline env e1 s now).2 :=
    h.streamRefreshDeadline hs now
  rw [KcpMux.streamRefreshTimer]
  split_ifs
  · exact h
  · dsimp only
    cases (KcpMux.streamRefreshDeadline env e1 s now).1 with
    | none => exact hdl.cancel hs.own _
    | some d => exact hdl.schedule hs.own _ _

lemma streamScheduleFinalize (reason : UInt8) (now : ℤ) :
    Within S C e (streamScheduleFinalize env e1 s reason now) :=
  (((h.setStream hs.own (by rfl)).setClosePhase hs _).streamClearPending hs).schedule hs.own _ _

lemma streamSetState (newState : StreamState) :
    Within S C e (streamSetState env e1 s newState) := by
  rw [KcpMux.streamSetState]
  dsimp only
  have h1 : Within S C e (KcpMux.streamRefreshTimer env
      (e1.setStream s { e1.streams s with state := newState }).tock s
      (engineNow env (e1.setStream s { e1.streams s with state := newState }))) :=
    ((h.setStream hs.own (by rfl)).tock).streamRefreshTimer hs _
  split_ifs
  · exact h
  · exact h1.logged _ fun o ho => by cases ho; exact hs.own
  · exact h1

lemma streamMarkReadBlocked (now : ℤ) : Within S C e (streamMarkReadBlocked e1 s now) := by
  rw [KcpMux.streamMarkReadBlocked]
  split_ifs
  · exact h
  · exact h.setStream hs.own (by rfl)

lemma connRemoveStream {q : ℕ} (hq : S (.conn q) ∨ C q) :
    Within S C e (connRemoveStream e1 q s) := by
  rw [KcpMux.connRemoveStream]
  dsimp only
  split_ifs
  · exact h
  · refine stats (setStream ?_ hs.own (by rfl)) _
    have hne : ∀ d, d ≠ q → ∀ x : Conn, (e1.setConn q x).conns d = e1.conns d := by
      intro d hd x
      simp [Engine.setConn, hd]
    refine { h with conn := fun d hd => ?_, table := fun d hd hC => ?_ }
    · by_cases hdq : d = q
      · subst hdq
        simpa [Engine.setConn, Conn.apart] using h.conn d hd
      · rw [hne d hdq]
        exact h.conn d hd
    · have hdq : d ≠ q := by
        rintro rfl
        exact hq.elim hd hC
      rw [hne d hdq]
      exact h.table d hd hC

lemma streamReleaseKcp : Within S C e (streamReleaseKcp e1 s) := by
  rw [KcpMux.streamReleaseKcp]
  split_ifs
  · exact (h.logged _ fun o ho => by cases ho; exact hs.own).setStream hs.own (by rfl)
  · exact h

lemma streamCloseNotify (reason : UInt8) : Within S C e (streamCloseNotify e1 s reason) := by
  rw [KcpMux.streamCloseNotify]
  dsimp only
  have h1 : Within S C e (if (e1.streams s).state ≠ .error then
      e1.setStream s { e1.streams s with state := .closed } else e1) := by
    split_ifs
    · exact h.setStream hs.own (by rfl)
    · exact h
  generalize (if (e1.streams s).state ≠ .error then
    e1.setStream s { e1.streams s with state := .closed } else e1) = e2 at h1 ⊢
  split_ifs
  · exact (h1.logged _ fun o ho => by cases ho; exact hs.own).queued hs.own
  · exact h1.queued hs.own

lemma streamCloseInternal (reason : UInt8) :
    Within S C e (streamCloseInternal env e1 s reason) := by
  rw [KcpMux.streamCloseInternal]
  split_ifs
  · exact h
  · have hset : Within S C e (e1.setStream s { e1.streams s with internalClosed := true }) :=
      h.setStream hs.own (by rfl)
    have hunreg : Within S C e (engineUnregisterTimerNode env _ (.stream s)) :=
      (hset.streamClearPending hs).unregister hs.own
    have hrem := hunreg.connRemoveStream hs (hunreg.at_home hs)
    exact ((hrem.stats _).streamReleaseKcp hs).streamCloseNotify hs reason

lemma streamSendClose (reason : UInt8) : Within S C e (streamSendClose env e1 s reason).2 := by
  rw [KcpMux.streamSendClose]
  split_ifs
  · exact h
  · dsimp only
    have h1 : Within S C e (e1.tock.setStream s { e1.streams s with
        lastCtrlTs := engineNow env e1 }) := h.tock.setStream hs.own (by rfl)
    have h2 : Within S C e (protocolSendStreamClose env (e1.tock.setStream s { e1.streams s with
        lastCtrlTs := engineNow env e1 }) s reason).2 :=
      h1.write hs.own (h1.at_home hs) _
    exact h2.streamRefreshTimer hs _

lemma streamSendCloseAck (reason : UInt8) :
    Within S C e (streamSendCloseAck env e1 s reason).2 :=
  h.write hs.own (h.at_home hs) _

lemma streamAdvanceLocalClose : Within S C e (streamAdvanceLocalClose env e1 s) := by
  have hask : Within S C e (kcpWaitsnd env e1 s).2 := h.kcpAsk hs _ _
  rw [KcpMux.streamAdvanceLocalClose]
  by_cases h1 : (e1.streams s).internalClosed = true ∨ (e1.streams s).closePhase ≠ .localDrain
  · rw [if_pos h1]
    exact h
  rw [if_neg h1]
  dsimp only
  by_cases h2 : (kcpWaitsnd env e1 s).1 ≠ 0
  · rw [if_pos h2]
    exact hask
  rw [if_neg h2]
  have hset := (hask.setClosePhase hs .waitAck).setStream hs.own (by rfl) (x :=
    { ((kcpWaitsnd env e1 s).2.setClosePhase s .waitAck).streams s with retryCount := 0 })
  have hsend : Within S C e (KcpMux.streamSendClose env _ s closeReasonNormal).2 :=
    hset.streamSendClose hs closeReasonNormal
  split_ifs
  · exact hsend.streamCloseInternal hs _
  · exact hsend

lemma streamRecoverWrite (now : ℤ) : Within S C e (streamRecoverWrite env e1 s now) := by
  have hask : Within S C e (kcpWaitsnd env e1 s).2 := h.kcpAsk hs _ _
  have hset : Within S C e ((kcpWaitsnd env e1 s).2.setStream s
      (((kcpWaitsnd env e1 s).2.streams s).unblockWrite now)) := by
    refine hask.setStream hs.own ?_
    rw [Stream.unblockWrite]
    split_ifs <;> rfl
  rw [KcpMux.streamRecoverWrite]
  dsimp only
  split_ifs
  · exact h
  · exact hset.logged _ fun o ho => by cases ho; exact hs.own
  · exact hset
  · exact hask

lemma streamUpdateOpen (now : ℤ) : Within S C e (streamUpdateOpen env e1 s now) := by
  have h1 : Within S C e (kcpUpdate env (KcpMux.streamClearPending e1 s) s now) :=
    (h.streamClearPending hs).kcpRun hs _ _
  have h2 : Within S C e (kcpCheck env (KcpMux.streamRecoverWrite env
      (kcpUpdate env (KcpMux.streamClearPending e1 s) s now) s now) s now).2 :=
    (h1.streamRecoverWrite hs now).kcpAsk hs _ _
  exact h2.schedule hs.own _ _

lemma streamUpdateLocalDrain (now : ℤ) : Within S C e (streamUpdateLocalDrain env e1 s now) := by
  have h1 : Within S C e (kcpUpdate env (KcpMux.streamClearPending e1 s) s now) :=
    (h.streamClearPending hs).kcpRun hs _ _
  have h2 : Within S C e (kcpWaitsnd env (kcpUpdate env (KcpMux.streamClearPending e1 s) s now) s).2 :=
    h1.kcpAsk hs _ _
  rw [KcpMux.streamUpdateLocalDrain]
  dsimp only
  generalize kcpWaitsnd env (kcpUpdate env (KcpMux.streamClearPending e1 s) s now) s = r at h2 ⊢
  split_ifs
  · exact h2.streamAdvanceLocalClose hs
  · exact ((h2.setStream hs.own (by rfl)).streamSendClose hs _).streamCloseInternal hs _
  · exact h2.streamRefreshTimer hs _

lemma streamUpdateWaitAck (now : ℤ) : Within S C e (streamUpdateWaitAck env e1 s now) := by
  have hsend : Within S C e (KcpMux.streamSendClose env (e1.setStream s { e1.streams s with
      retryCount := (e1.streams s).retryCount + 1 }) s (e1.streams s).closeReason).2 :=
    (h.setStream hs.own (by rfl)).streamSendClose hs _
  rw [KcpMux.streamUpdateWaitAck]
  dsimp only
  generalize (KcpMux.streamSendClose env (e1.setStream s _) s _).2 = e2 at hsend ⊢
  split_ifs
  · exact hsend.streamCloseInternal hs _
  · exact hsend
  · exact h.streamCloseInternal hs _
  · exact h

/-- **`kcpmux_stream_update`.** -/
lemma streamUpdate (now : ℤ) : Within S C e (streamUpdate env e1 s now) := by
  have hclose : ∀ reason, Within S C e (KcpMux.streamCloseInternal env e1 s reason) :=
    fun reason => h.streamCloseInternal hs reason
  rw [KcpMux.streamUpdate]
  by_cases hc : (e1.streams s).internalClosed = true ∨ (e1.connOf s).internalClosed = true ∨
      (e1.connOf s).state ≠ .connected
  · rw [if_pos hc]
    exact h
  rw [if_neg hc]
  cases (e1.streams s).state with
  | opened => exact h.streamUpdateOpen hs now
  | closing =>
      cases (e1.streams s).closePhase with
      | localDrain => exact h.streamUpdateLocalDrain hs now
      | waitAck => exact h.streamUpdateWaitAck hs now
      | remoteDrain =>
          dsimp only
          split_ifs
          · exact hclose _
          · exact h
      | finalize => exact hclose _
      | none => exact h
  | closed | error => exact h.cancel hs.own _

/-! ### Incoming stream messages -/

lemma streamRecoverRead (recv : ℤ) : Within S C e (streamRecoverRead env e1 s recv) := by
  have hask : Within S C e (kcpPeeksize env e1 s).2 := h.kcpAsk hs _ _
  have hset : Within S C e ((kcpPeeksize env e1 s).2.setStream s
      (((kcpPeeksize env e1 s).2.streams s).unblockRead recv)) := by
    refine hask.setStream hs.own ?_
    rw [Stream.unblockRead]
    split_ifs <;> rfl
  rw [KcpMux.streamRecoverRead]
  dsimp only
  split_ifs
  · exact hset.logged _ fun o ho => by cases ho; exact hs.own
  · exact hset
  · exact hask
  · exact h

lemma streamHandlePayload (b : Bytes) (recv : ℤ) :
    Within S C e (streamHandlePayload env e1 s b recv).2 := by
  rw [KcpMux.streamHandlePayload]
  dsimp only
  set e2 := e1.setStream s { e1.streams s with stats := { (e1.streams s).stats with
    rxPackets := (e1.streams s).stats.rxPackets + 1
    rxBytes := (e1.streams s).stats.rxBytes + b.length } }
  have h2 : Within S C e e2 := h.setStream hs.own (by rfl)
  have h3 : Within S C e (kcpInput env (kcpCurrentUpdate env e2 s recv) s b).2 := by
    have hcur : Within S C e (kcpCurrentUpdate env e2 s recv) := h2.kcpRun hs _ _
    exact hcur.kcpRun hs _ _
  have h4 : Within S C e (KcpMux.streamAccumulateUpdate env
      (kcpInput env (kcpCurrentUpdate env e2 s recv) s b).2 s recv) :=
    h3.streamAccumulateUpdate hs recv
  split_ifs
  · exact h
  · exact h
  · exact h
  · exact h4
  · exact h4.streamRecoverRead hs recv

lemma streamHandleClose (reason : UInt8) :
    Within S C e (streamHandleClose env e1 s reason).2 := by
  have hack : ∀ e2 : Engine K, Within S C e e2 →
      Within S C e (KcpMux.streamSendCloseAck env e2 s reason).2 :=
    fun e2 h2 => h2.streamSendCloseAck hs reason
  rw [KcpMux.streamHandleClose]
  by_cases h1 : (e1.streams s).internalClosed = true
  · rw [if_pos h1]
    exact h
  rw [if_neg h1]
  by_cases h2 : reason ≠ closeReasonNormal
  · rw [if_pos h2]
    exact (hack _ h).streamCloseInternal hs reason
  rw [if_neg h2]
  dsimp only
  cases (e1.tock.streams s).state with
  | closing =>
      cases (e1.tock.streams s).closePhase with
      | localDrain | waitAck => exact (hack _ h.tock).streamScheduleFinalize hs _ _
      | remoteDrain | finalize => exact hack _ h.tock
      | none => exact h.tock
  | opened =>
      have hset := (hack _ h.tock).setStream hs.own (by rfl) (x :=
        { (KcpMux.streamSendCloseAck env e1.tock s reason).2.streams s with
          closeReason := reason, drainStartedTs := engineNow env e1 })
      have hstate : Within S C e (KcpMux.streamSetState env _ s .closing) :=
        (hset.setClosePhase hs .remoteDrain).streamSetState hs .closing
      have hask := hstate.kcpAsk hs env.kcp.peeksize .peeksize
      dsimp only
      split_ifs
      · exact hask.streamScheduleFinalize hs _ _
      · exact hask
  | closed | error => exact h.tock

lemma streamSetter (setter : StreamSetter) : Within S C e (setter.apply env s e1) := by
  cases setter with
  | config config =>
      rw [StreamSetter.apply, streamSetConfig]
      split_ifs
      · exact h
      · cases streamConfigPrepare config with
        | none => exact h
        | some prepared =>
            exact (((h.setStream hs.own (by rfl)).streamClearPending hs).tock).streamRefreshTimer hs _
  | callbacks callbacks =>
      rw [StreamSetter.apply, streamSetCallbacks]
      split_ifs
      · exact h
      · exact h.setStream hs.own (by rfl)

omit h in
lemma streamSetters (setters : List StreamSetter) {e1 : Engine K} (h : Within S C e e1) :
    Within S C e (setters.foldl (StreamSetter.apply env s) e1) := by
  induction setters generalizing e1 with
  | nil => exact h
  | cons setter setters ih => exact ih (h.streamSetter hs setter)

end

/-! ### Connections -/

section

variable (h : Within S C e e1) (hc : S (.conn c))

include h hc

lemma connRefreshTimer (now : ℤ) : Within S C e (connRefreshTimer env e1 c now) := by
  rw [KcpMux.connRefreshTimer]
  split_ifs
  · exact h
  · cases connCalculateDeadline (e1.conns c) with
    | none => exact h.cancel hc _
    | some d => exact h.schedule hc _ _

lemma connNoteReceive (recv : ℤ) (isPayload : Bool) :
    Within S C e (connNoteReceive env e1 c recv isPayload) := by
  rw [KcpMux.connNoteReceive]
  by_cases h1 : (e1.conns c).internalClosed = true
  · rw [if_pos h1]
    exact h
  · rw [if_neg h1]
    exact (h.setConn hc _).connRefreshTimer hc recv

lemma assignConnState (newState : ConnState) : Within S C e (e1.assignConnState c newState) :=
  (h.logged _ fun o ho => by cases ho; exact hc).setConn hc _

/-- Counters of a connection of `S`. -/
lemma connStats (st : ConnStats) :
    Within S C e { e1 with connStats := Function.update e1.connStats c st } := by
  refine { h with table := fun q hq hC => ⟨(h.table q hq hC).1, ?_⟩ }
  have hqc : q ≠ c := by rintro rfl; exact hq hc
  simpa [hqc] using (h.table q hq hC).2

lemma connSetState (newState : ConnState) : Within S C e (connSetState env e1 c newState) := by
  rw [KcpMux.connSetState]
  by_cases h1 : (e1.conns c).internalClosed = true ∨ (e1.conns c).state = newState
  · rw [if_pos h1]
    exact h
  rw [if_neg h1]
  dsimp only
  have h2 := h.assignConnState hc newState
  generalize e1.assignConnState c newState = e2 at h2 ⊢
  have h3 : Within S C e (if newState = .connected then
      { e2.tock with
        connStats := Function.update e2.connStats c { e2.connStats c with
          handshakeTimeMs := UInt64.ofInt (engineNow env e2 - (e2.conns c).createdTs) }
        stats := { e2.stats with connConnectedTotal := e2.stats.connConnectedTotal + 1 } }
      else e2) := by
    split_ifs
    · exact (h2.tock.connStats hc _).stats _
    · exact h2
  generalize hg : ite (newState = ConnState.connected) _ e2 = e3
  have h4 : Within S C e (KcpMux.connRefreshTimer env e3.tock c (engineNow env e3)) := by
    rw [← hg]
    exact h3.tock.connRefreshTimer hc _
  split_ifs
  · exact h4.logged _ fun o ho => by cases ho; exact hc
  · exact h4

lemma connSendConnectAck (result : UInt8) :
    Within S C e (connSendConnectAck env e1 c result).2 := by
  rw [KcpMux.connSendConnectAck, protocolSendConnConnectAck]
  split_ifs
  · exact h
  · exact h.write hc (Or.inl hc) _

lemma connSendCloseAck (reason : UInt8) : Within S C e (connSendCloseAck env e1 c reason).2 :=
  h.write hc (Or.inl hc) _

lemma connSendConnect : Within S C e (connSendConnect env e1 c).2 := by
  rw [KcpMux.connSendConnect]
  dsimp only
  have h1 := h.tock.setConn hc { e1.conns c with lastCtrlTs := engineNow env e1 }
  generalize e1.tock.setConn c _ = e2 at h1 ⊢
  have h2 : Within S C e (protocolSendConnConnect env e2 c).2 := by
    rw [protocolSendConnConnect]
    split_ifs
    · exact h1
    · exact h1.write hc (Or.inl hc) _
  split_ifs
  · exact h
  · exact h2.connRefreshTimer hc _

lemma connSendKeepalive : Within S C e (connSendKeepalive env e1 c).2 := by
  rw [KcpMux.connSendKeepalive]
  dsimp only
  have h1 := h.tock.setConn hc { e1.conns c with
    lastKeepaliveTs := engineNow env e1, keepaliveSeq := (e1.conns c).keepaliveSeq + 1 }
  generalize e1.tock.setConn c _ = e2 at h1 ⊢
  have h2 : Within S C e (protocolSendConnKeepalive env e2 c).2 :=
    h1.tock.write hc (Or.inl hc) _
  split_ifs
  · exact h
  · exact h2.connRefreshTimer hc _

lemma connSendClose (reason : UInt8) : Within S C e (connSendClose env e1 c reason).2 := by
  rw [KcpMux.connSendClose]
  dsimp only
  have h1 := h.tock.setConn hc { e1.conns c with lastCtrlTs := engineNow env e1 }
  generalize e1.tock.setConn c _ = e2 at h1 ⊢
  have h2 : Within S C e (protocolSendConnClose env e2 c reason).2 := by
    rw [protocolSendConnClose]
    split_ifs
    · exact h1
    · exact h1.write hc (Or.inl hc) _
  split_ifs
  · exact h
  · exact h2.connRefreshTimer hc _

lemma connSetter (setter : ConnSetter) : Within S C e (setter.apply env c e1) := by
  cases setter with
  | config config =>
      rw [ConnSetter.apply, connSetConfig]
      split_ifs
      · exact h
      · cases connConfigPrepare config with
        | none => exact h
        | some prepared => exact ((h.setConn hc _).tock).connRefreshTimer hc _
  | callbacks callbacks =>
      rw [ConnSetter.apply, connSetCallbacks]
      split_ifs
      · exact h
      · exact h.setConn hc _

omit h in
lemma connSetters (setters : List ConnSetter) {e1 : Engine K} (h : Within S C e e1) :
    Within S C e (setters.foldl (ConnSetter.apply env c) e1) := by
  induction setters generalizing e1 with
  | nil => exact h
  | cons setter setters ih => exact ih (h.connSetter hc setter)

lemma engineAddConn : Within S C e (engineAddConn env e1 c) := by
  rw [KcpMux.engineAddConn]
  dsimp only
  have h1 := h.setConn hc { e1.conns c with inEngineMap := true }
  split_ifs
  · exact h
  · exact h1.bare rfl rfl rfl rfl rfl rfl rfl rfl
  · exact h1.bare rfl rfl rfl rfl rfl rfl rfl rfl

/-- **The finalisation of a connection** touches its streams besides. -/
lemma connCloseInternal (ho : Own env e1) (hd : 0 < e1.operationDepth) (hk : c < e1.nconns)
    (hstreams : ∀ q, e1.LiveIn c q → S (.stream q)) (reason : UInt8) :
    Within S C e (connCloseInternal env e1 c reason) := by
  by_cases hcl : (e1.conns c).internalClosed = true
  · rw [KcpMux.connCloseInternal, if_pos hcl]
    exact h
  have hl : e1.LiveConn c := ⟨hk, by simpa using hcl⟩
  refine connFinal_induct
    (P := fun e' => Within S C e e' ∧ ∀ q, e'.LiveIn c q → S (.stream q)) ho hd hl ?_ ?_ ?_
  · refine ⟨?_, hstreams⟩
    have h1 : Within S C e { e1.setConn c { e1.conns c with
        internalClosed := true, inEngineMap := false } with
        timerManager := timerUnregister e1.timerManager (.conn c) } := by
      refine (h.setConn hc _).timer hc fun q hq => ?_
      rw [timerUnregister, setNode_node_of_ne _ hq]
      exact timerCancel_other _ hq
    exact h1.bare rfl rfl rfl rfl rfl rfl rfl rfl
  · rintro e2 q ho2 hd2 hc2 hq ⟨h2, hS⟩
    refine ⟨?_, fun p hp => hS p ((finalStream_liveIn reason c p).mp hp).1⟩
    rw [← streamCloseInternal_eq hd2 ho2 hq.1]
    have hhome : Home S C e2 q := ⟨hS q hq, Or.inl (by rw [hq.2]; exact hc), hq.1.1⟩
    exact h2.trans ((refl e2).streamCloseInternal hhome reason)
  · rintro e2 ho2 hd2 hlt hc2 hnone ⟨h2, -⟩
    have hlog : Within S C e { e2.setConn c { e2.conns c with
        state := if (e2.conns c).state = .error then .error else .closed } with
        trace := endConnEvents c (e2.conns c) reason ++ e2.trace } := by
      refine (h2.setConn hc _).logs _ fun ev hev o ho => ?_
      rw [endConnEvents_subject c _ reason ev hev] at ho
      cases ho
      exact hc
    exact hlog.queued hc

end

/-! ### Creation -/

lemma register (h : Within S C e e1) (ho : S o) :
    Within S C e (engineRegisterTimerNode env e1 o).2 := by
  obtain ⟨⟨capacity, hcap⟩, -⟩ := timerManagerReserve_frame e1.timerManager
    (e1.timerNodeCount + 1) (env.alloc e1.tick)
  rw [engineRegisterTimerNode]
  dsimp only
  split_ifs
  · exact h
  · exact h.tock
  · rw [hcap]
    refine (h.tock.timer ho (m := timerNodeInit { e1.timerManager with capacity } o)
      fun q hq => ?_).bare rfl rfl rfl rfl rfl rfl rfl rfl
    rw [timerNodeInit, setNode_node_of_ne _ hq]
    exact TimerNode.SameBut.refl _

lemma connNew (h : Within S C e e1) (hc : S (.conn e1.nconns)) (addr : Addr)
    (config : Option ConnConfig) (isInitiator : Bool) :
    Within S C e (connNew env e1 addr config isInitiator).2 := by
  rw [KcpMux.connNew]
  dsimp only
  by_cases h1 : addr = [] ∨ addr.length > addrMaxLen
  · rw [if_pos h1]
    exact h
  rw [if_neg h1]
  by_cases h2 : env.alloc e1.tick = false
  · rw [if_pos h2]
    exact h.tock
  rw [if_neg h2]
  by_cases h3 : e1.tock.nextConnectionId = 0
  · rw [if_pos h3]
    exact h.tock
  rw [if_neg h3]
  have h4 : Within S C e { e1.tock with nextConnectionId := e1.tock.nextConnectionId + 1 } :=
    h.tock.bare rfl rfl rfl rfl rfl rfl rfl rfl
  have hc4 : S (.conn ({ e1.tock with
    nextConnectionId := e1.tock.nextConnectionId + 1 } : Engine K).nconns) := hc
  generalize ({ e1.tock with nextConnectionId := e1.tock.nextConnectionId + 1 } : Engine K) = e2
    at h4 hc4 ⊢
  cases connConfigPrepare (config.getD e1.tock.defaultConnConfig) with
  | none => exact h4
  | some prepared =>
      dsimp only
      have h5 : Within S C e
          (engineRegisterTimerNode env e2.tock.tock (.conn e2.tock.tock.nconns)).2 :=
        (h4.tock.tock).register hc4
      generalize engineRegisterTimerNode env e2.tock.tock _ = r at h5 ⊢
      have h6 : Within S C e { r.2.tock with nconns := r.2.tock.nconns + 1 } :=
        h5.tock.bare rfl rfl rfl rfl rfl rfl rfl rfl
      split_ifs
      · exact h4.tock.tock
      · exact h5
      · exact (h6.setConn hc4 _).stats _

/-- A new handle. -/
lemma setNewStream (h : Within S C e e1) (hs : S (.stream s)) (hge : e.nstreams ≤ s)
    (x : Stream K) : Within S C e (e1.setStream s x) := by
  refine { h with stream := fun q hq => ?_, home := fun q hq => ?_ }
  · have hqs : q ≠ s := by rintro rfl; exact hq hs
    simpa [Engine.setStream, hqs] using h.stream q hq
  · have hqs : q ≠ s := by omega
    simpa [Engine.setStream, hqs] using h.home q hq

lemma streamNewRegister (h : Within S C e e1) (hs : S (.stream s)) (hge : e.nstreams ≤ s)
    (hlt : s < e1.nstreams) {x : Stream K} (hx : S (.conn x.conn) ∨ C x.conn) :
    Within S C e (streamNewRegister env e1 s x).2 := by
  have hreg : Within S C e (engineRegisterTimerNode env e1 (.stream s)).2 := h.register hs
  have hn : (engineRegisterTimerNode env e1 (.stream s)).2.nstreams = e1.nstreams := by
    rw [engineRegisterTimerNode]
    dsimp only
    split_ifs <;> rfl
  rw [KcpMux.streamNewRegister]
  dsimp only
  generalize engineRegisterTimerNode env e1 (.stream s) = r at hreg hn ⊢
  split_ifs
  · have h1 := hreg.logged (.kcp s .release) fun o ho => by cases ho; exact hs
    have h2 := h1.logged (.release (.stream s)) fun o ho => by cases ho; exact hs
    exact h2.setNewStream hs hge _
  · have h1 : Within S C e (r.2.setStream s x) := hreg.setNewStream hs hge x
    have hhome : Home S C (r.2.setStream s x) s :=
      ⟨hs, by simpa [Engine.setStream] using hx, by rw [← hn] at hlt; exact hlt⟩
    have h2 := ((refl (r.2.setStream s x)).tock.streamMarkReadBlocked hhome
      (engineNow env (r.2.setStream s x)))
    exact h1.trans ((h2.stats _).streamRefreshTimer hhome _)

lemma streamNew (h : Within S C e e1) (hs : S (.stream e1.nstreams)) (hc : S (.conn c) ∨ C c)
    (id : UInt32) (config : Option StreamConfig) (isInitiator : Bool) :
    Within S C e (streamNew env e1 c id config isInitiator).2 := by
  rw [KcpMux.streamNew]
  by_cases h1 : id = 0
  · rw [if_pos h1]
    exact h
  rw [if_neg h1]
  by_cases h2 : env.alloc e1.tick = false
  · rw [if_pos h2]
    exact h.tock
  rw [if_neg h2]
  dsimp only
  cases streamConfigPrepare (config.getD e1.tock.defaultStreamConfig) with
  | none => exact h.tock
  | some prepared =>
      dsimp only
      cases env.kcp.create e1.tock.tick id with
      | none => exact h.tock.tock
      | some kcp =>
          dsimp only
          have h3 : Within S C e ({ e1.tock.tock with
              nstreams := e1.tock.nstreams + 1 } : Engine K) :=
            { h with nstreams := h.nstreams.trans (Nat.le_succ _) }
          have hlog : ∀ (e2 : Engine K) (call : KcpCall), Within S C e e2 →
              Within S C e (e2.log (.kcp e1.nstreams call)) :=
            fun e2 call h2 => h2.logged _ fun o ho => by cases ho; exact hs
          have h4 := hlog _ .setoutput (hlog _ (.setmss prepared.kcpMss) (hlog _ .create h3)).tock
          exact h4.streamNewRegister hs h.nstreams (Nat.lt_succ_self _) hc

lemma connAddStream (h : Within S C e e1) (hs : S (.stream s)) (hc : S (.conn c)) :
    Within S C e (connAddStream env e1 c s) := by
  rw [KcpMux.connAddStream]
  dsimp only
  split_ifs
  · exact h
  · exact ((h.setConn hc _).setStream hs (by rfl)).stats _

end Within

end KcpMux
