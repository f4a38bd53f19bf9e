import KcpMux.Safety.Work

/-!
No work is left behind when a batch is finished.

* `finish_batch_asks`: in every run in which `kcpmux_stream_set_config` is not called on a stream
  with work, and in which no payload comes for a stream in `LOCAL_DRAIN` that batches, all work is
  due when `kcpmux_engine_finish_batch` returns.
* `finish_batch_leaves_behind`: in these two cases work is left behind.
-/

namespace KcpMux

variable {K : Type} {env : Env K} {op : Call} {e e' : Engine K} {o : Owner} {c s : ℕ}

/-! ### The timer callback -/

lemma Hushed.streamRecoverWrite (env : Env K) (e : Engine K) (now : ℤ) :
    Hushed s e (streamRecoverWrite env e s now) := by
  rw [KcpMux.streamRecoverWrite]
  split_ifs
  · exact .refl e
  · have h1 : Hushed s e (kcpWaitsnd env e s).2 := .kcpAsk e _ _ fun _ => rfl
    dsimp only
    split_ifs
    · exact (h1.trans (.setStream _ s _)).trans (.logged _ rfl)
    · exact h1.trans (.setStream _ s _)
    · exact h1

/-- The case `OPEN`. -/
lemma streamUpdateOpen_done (hi : Inside env e) (hl : e.LiveStream s) {now : ℤ}
    (hnow : Read env e.tick now) (hst : (e.streams s).state = .opened) :
    ¬ (streamUpdateOpen env e s now).Unserved s := by
  intro hu
  rw [streamUpdateOpen] at hu
  have h1 : Still env .update e (streamClearPending e s) := streamClearPending_still hl (Or.inl rfl)
  have h2 : Still env .update e (kcpUpdate env (streamClearPending e s) s now) :=
    h1.trans (kcpUpdate_still (h1.sound hi.toSound) (h1.calm.liveStream hl)
      (streamKcpActive_of_opened ((h1.calm.state s).trans hst)) now)
  have hno := kcpUpdate_served (s := s) env (streamClearPending e s) now
  set e2 := kcpUpdate env (streamClearPending e s) s now
  have h3 : Still env .update e (streamRecoverWrite env e2 s now) :=
    h2.trans (streamRecoverWrite_still (h2.sound hi.toSound) (h2.calm.liveStream hl)
      (hnow.mono (h2.tick hi.toSound)) ((h2.calm.state s).trans hst) rfl)
  have hq : Hushed s e2 (kcpCheck env (streamRecoverWrite env e2 s now) s now).2 :=
    (Hushed.streamRecoverWrite env e2 now).trans (.kcpAsk _ _ _ fun _ => rfl)
  have hd : 0 < (kcpCheck env (streamRecoverWrite env e2 s now) s now).2.operationDepth :=
    (h3.inside hi).depth
  exact hno (hq.unserved_of (hu.of_trace (engineScheduleTimerNode_trace env hd _ _ _)))

/-- The case `LOCAL_DRAIN`. -/
lemma streamUpdateLocalDrain_done (hs : Steady env e) (hd : 0 < e.operationDepth)
    (hl : e.LiveStream s) {now : ℤ} (hst : (e.streams s).state = .closing)
    (hp : (e.streams s).closePhase = .localDrain)
    (hdr : (streamUpdateLocalDrain env e s now).Driven s) :
    ¬ (streamUpdateLocalDrain env e s now).Unserved s := by
  have hi : Inside env e := ⟨hs.toSound, hd⟩
  rw [streamUpdateLocalDrain] at hdr ⊢
  have h1 : Still env .update e (streamClearPending e s) := streamClearPending_still hl (Or.inl rfl)
  have ha : streamKcpActive ((streamClearPending e s).streams s) = true := by
    rw [h1.calm.active, streamKcpActive, hst, hp]
    rfl
  have h2 : Still env .update e (kcpUpdate env (streamClearPending e s) s now) :=
    h1.trans (kcpUpdate_still (h1.sound hs.toSound) (h1.calm.liveStream hl) ha now)
  have hno := kcpUpdate_served (s := s) env (streamClearPending e s) now
  set e2 := kcpUpdate env (streamClearPending e s) s now
  have h3 : Still env .update e (kcpWaitsnd env e2 s).2 :=
    h2.trans (kcpWaitsnd_still (h2.sound hs.toSound) (h2.calm.liveStream hl))
  have hq3 : Hushed s e2 (kcpWaitsnd env e2 s).2 := .kcpAsk e2 _ _ fun _ => rfl
  have hs3 := Moves.steady h3.acts.moves hs
  have hl3 := h3.calm.liveStream hl
  have hd3 := (h3.inside hi).depth
  have hst3 := (h3.calm.state s).trans hst
  have hp3 := (h3.calm.closePhase s).trans hp
  dsimp only at hdr ⊢
  split_ifs at hdr ⊢ with hw hdue
  · rcases streamAdvanceLocalClose_rests hs3 hd3 hl3 hst3 with ⟨hh, -⟩ | hnot
    · exact fun hu => hno ((hq3.trans hh).unserved_of hu)
    · exact absurd hdr hnot
  · obtain ⟨-, hdead⟩ : Act env .update _ _ ∧ _ :=
      streamDrainExpired_act (h3.inside hi) hl3 hst3 hp3
    exact absurd hdr.1 hdead
  · intro hu
    obtain ⟨m, t, r, -, -, hr⟩ := streamRefreshTimer_did env hl3.2 ((hs3.owner (.stream s)).mpr hl3) now
    rw [hr.eq_of_depth hd3, Engine.Unserved, logOf_append rfl] at hu
    refine hno (hq3.unserved_of (unserved_append (fun ev hm => ?_) hu))
    exact refreshEvents_feeds _ _ _ _ _ ev (List.mem_filter.mp hm).1

/-- **The callback of a stream** does its work. -/
lemma streamUpdate_done (hs : Steady env e) (hd : 0 < e.operationDepth) (hk : s < e.nstreams)
    {now : ℤ} (hnow : Read env e.tick now) (hdr : (streamUpdate env e s now).Driven s)
    (hc : ((streamUpdate env e s now).connOf s).state = .connected) :
    ¬ (streamUpdate env e s now).Unserved s := by
  have hi : Inside env e := ⟨hs.toSound, hd⟩
  have hacts : Acts env .update e (streamUpdate env e s now) :=
    streamUpdate_acts hi hnow hk (Or.inl rfl) fun _ => rfl
  obtain ⟨hl, hact⟩ := hacts.driven_of hs hk hdr
  rw [streamUpdate] at hdr hc ⊢
  by_cases hg : (e.streams s).internalClosed = true ∨ (e.connOf s).internalClosed = true ∨
      (e.connOf s).state ≠ .connected
  · rw [if_pos hg] at hc
    simp [hl.2, hs.settled s hl, hc] at hg
  rw [if_neg hg] at hdr ⊢
  rcases hs.phased s hl with ⟨hst, -⟩ | ⟨hst, hph⟩
  · rw [hst]
    exact streamUpdateOpen_done hi hl hnow hst
  · rw [hst] at hdr ⊢
    dsimp only at hdr ⊢
    have hp : (e.streams s).closePhase = .localDrain := by
      rw [streamKcpActive, hst] at hact
      simpa using hact
    rw [hp] at hdr ⊢
    exact streamUpdateLocalDrain_done hs hd hl hst hp hdr

/-! ### Updates -/

/-- The moves of a call that hands over nothing. -/
lemma Moves.work_of (hm : Moves env op e e') (hs : Steady env e) (hsend : ¬ op.SendsOn s)
    (hin : ∀ conn (x : Stream K), ¬ op.Feeds conn x) (hl : e'.LiveStream s) (hu : e'.Unserved s) :
    e.LiveStream s ∧ e.Unserved s := by
  induction hm with
  | refl => exact ⟨hl, hu⟩
  | @tail e1 e2 hpre hstep ih =>
      have hs1 := Moves.steady hpre hs
      rcases hstep.aside hs1 with ha | ⟨ha, -⟩
      · obtain ⟨hl1, hu1⟩ := ha.work_of hs1 hsend (fun _ => hin _ _) hl hu
        exact ih hl1 hu1
      · have hl1 := ha.liveStream.mp hl
        rw [Engine.Unserved, ha.log (.stream s) hl1] at hu
        exact ih hl1 hu

lemma Call.update_handsOver (s : ℕ) : ¬ Call.update.SendsOn s ∧
    ∀ conn (x : Stream K), ¬ Call.update.Feeds conn x := by
  refine ⟨?_, ?_⟩
  · rintro (⟨b, flush, h⟩ | ⟨iov, flush, h⟩) <;> cases h
  · rintro conn x ⟨d, b, h, -⟩
    cases h

lemma Call.finishBatch_leavesWork (e : Engine K) (s : ℕ) : Call.finishBatch.LeavesWork e s where
  drives := by
    rintro (h | (⟨b, flush, h⟩ | ⟨iov, flush, h⟩) | h) <;> cases h
  config y h := by cases h
  feeds := by
    rintro e1 - - ⟨d, b, h, -⟩
    cases h

/-- A callback that does not touch the stream. -/
lemma Within.unstranded {S : Owner → Prop} {C : ℕ → Prop} (h : Within S C e e')
    (hs : ¬ S (.stream s)) (hc : ∀ c, ¬ S (.conn c)) (ht : e.tick ≤ e'.tick)
    (hl : e.LiveStream s) (hu : e.Unstranded env s) : e'.Unstranded env s := by
  intro _ hconn hact hun
  have hlog : e'.logOf (.stream s) = e.logOf (.stream s) := by
    obtain ⟨evs, htr, hev⟩ := h.log
    exact logOf_append_other htr fun ev hm hsub => hs (hev ev hm _ hsub)
  have hst : (e'.connOf s).state = (e.connOf s).state := by
    rw [Engine.connOf, Engine.connOf, h.stream s hs]
    have happ := congrArg Conn.state (h.conn (e.streams s).conn (hc _))
    exact happ
  rw [Engine.Unserved, hlog] at hun
  rw [hst] at hconn
  rw [h.stream s hs] at hact
  obtain ⟨h1, h2⟩ := hu hl hconn hact hun
  rw [Engine.Asked, (h.node _ hs).state, (h.node _ hs).deadlineMs, h.stream s hs, h.batch s hs]
  exact ⟨h1, h2.imp_left fun hr => hr.mono ht⟩

/-- The work of a stream that waits at the end of a round waited at its beginning, and no callback
but its own touches it. -/
lemma Turn.unstranded (hr : Reachable env e) (ht : Turn env (Batches env) e e')
    {rest : List Owner} (hd : e'.timerManager.due = o :: rest) (hu : e'.Unstranded env s) :
    (engineDispatch env (engineNow env e) e' o).Unstranded env s := by
  intro hl hc hact hun
  have hmoves := ht.toRound.moves hd
  have hhands := Call.update_handsOver (K := K) s
  obtain ⟨hl1, hu1⟩ := hmoves.work_of ht.toSteady hhands.1 hhands.2 hl hun
  obtain ⟨hl0, hu0⟩ := ht.moves.work_of hr.boundary.toSteady hhands.1 hhands.2 hl1 hu1
  obtain ⟨hb1, hb2⟩ := engineDispatchBegin_aside e' o
  have hs1 := ht.toSteady.dispatch hd
  have hlive := ht.toRound.live_of_due (o := o) (by simp [hd])
  cases o with
  | conn c =>
      -- the callback of a connection closes its streams or leaves their work alone
      have hacts : Acts env .finishBatch (engineDispatchBegin e' (.conn c))
          (timeoutCallback env (.conn c) (engineNow env e) (engineDispatchBegin e' (.conn c))) :=
        connUpdate_acts (ht.toRound.inside hd) hlive.1 ht.toRound.read
      have hpass : Passing env e (engineDispatchBegin e' (.conn c)) s :=
        ⟨batches_kept.aside _ _ hb1 hb2 ht.holds,
          Moves.extends (ht.moves.tail (.dispatch hd)) hr.boundary.toSteady, fun _ _ => ⟨hl0, hu0⟩,
          hu.aside hb1 (hb2 _)⟩
      have h2 := hpass.acts (Call.finishBatch_leavesWork e s) (hr.introduced s) hs1 hacts
      refine h2.unstranded.aside (engineDispatchEnd_aside _ _) (fun hi => ?_) hl hc hact hun
      rwa [engineDispatch, engineDispatchEnd_node_of_ne (by simp)] at hi
  | stream q =>
      by_cases hq : s = q
      · -- the callback of the stream does the work
        subst hq
        have ha := engineDispatchEnd_aside (timeoutCallback env (.stream s) (engineNow env e)
          (engineDispatchBegin e' (.stream s))) (.stream s)
        have hl2 := ha.liveStream.mp hl
        rw [engineDispatch, ha.connOf] at hc
        rw [engineDispatch, ha.streams] at hact
        rw [engineDispatch, Engine.Unserved, ha.log (.stream s) hl2] at hun
        exact absurd hun (streamUpdate_done hs1 (ht.toRound.inside hd).depth hlive.1
          ht.toRound.read ⟨hl2, hact⟩ hc)
      · refine (ht.toRound.within hd).unstranded (fun h => hq ?_) (fun c h => ?_)
          (hmoves.tick ht.toSteady) hl1 hu hl hc hact hun
        · cases h
          rfl
        · cases h

/-- **An update** does the work of the streams whose timers have run out, and leaves that of the
others alone. -/
lemma Reachable.updated_unstranded (h : Reachable env e) (hu : e.Unstranded env s) :
    (Call.update.exec env e).Unstranded env s := by
  have hb := h.boundary
  obtain ⟨hc1, hc2⟩ := engineCollect_aside hb.toSteady
  obtain ⟨e1, hr1, -, ht, heq⟩ := hb.dispatched
    (P := fun e1 => Turn env (Batches env) e e1 ∧ e1.Unstranded env s)
    (fun _ _ _ _ hd ht => ⟨batches_kept.next h ht.1 hd, ht.1.unstranded h hd ht.2⟩)
    ⟨batches_kept.first hb h.batches, (hu.aside hc1 (hc2 _)).aside
      ⟨rfl, rfl, rfl, rfl, rfl, le_rfl, fun _ => rfl, fun _ _ => rfl⟩ id⟩
  obtain ⟨h3, h4⟩ := engineOperationLeave_aside hr1.toSteady hr1.depth
  show (engineUpdate env e).Unstranded env s
  rw [heq]
  exact ht.2.aside h3 (h4 _)

/-! ### Input -/

section Input

variable {d payload : Bytes} {id : UInt32} {recv : ℤ}

lemma Hushed.streamRecoverRead (env : Env K) (e : Engine K) (now : ℤ) :
    Hushed s e (streamRecoverRead env e s now) := by
  rw [KcpMux.streamRecoverRead]
  split_ifs
  · have h1 : Hushed s e (kcpPeeksize env e s).2 := .kcpAsk e _ _ fun _ => rfl
    dsimp only
    split_ifs
    · exact (h1.trans (.setStream _ s _)).trans (.logged _ rfl)
    · exact h1.trans (.setStream _ s _)
    · exact h1
  · exact .refl e

lemma Hushed.asked {e1 : Engine K} (h : Hushed s e e1)
    (hst : (e1.streams s).state = (e.streams s).state) (ha : e.Asked env s) : e1.Asked env s := by
  rw [Engine.Asked, h.timers, h.batch, hst]
  exact ⟨ha.1, ha.2.imp_left fun hr => hr.mono h.tick⟩

/-- In `LOCAL_DRAIN` the stream does not batch. -/
def Stream.DrainsAtOnce (x : Stream K) : Prop :=
  x.state = .closing → x.closePhase = .localDrain → x.config.batchThreshold ≤ 1

/-- **`kcpmux_stream_handle_payload`** asks for the update that the payload needs. -/
lemma streamHandlePayload_unstranded (hs : Steady env e) (hi : Inside env e) (hb : Batches env e)
    (hl : e.LiveStream s) {now : ℤ} (hnow : Read env e.tick now) {b : Bytes}
    (hd : ∃ d, op = .input d (e.connOf s).peerAddr ∧
      PayloadDatagram d (e.connOf s).localConnectionId (e.streams s).streamId b)
    (hdrain : (e.streams s).DrainsAtOnce) (hu : e.Unstranded env s) :
    (streamHandlePayload env e s b now).2.Unstranded env s := by
  have hstill := streamHandlePayload_still hi hl hnow hd
  by_cases hc : (e.connOf s).state = .connected
  swap
  · intro _ hc'
    rw [hstill.calm.connOf] at hc'
    exact absurd hc' hc
  rw [streamHandlePayload]
  dsimp only
  by_cases hb0 : b = []
  · rw [if_pos hb0]
    exact hu
  rw [if_neg hb0, if_neg (by simp [hl.2])]
  by_cases ha : streamKcpActive (e.streams s) = false
  · rw [if_pos ha]
    exact hu
  rw [if_neg ha]
  rw [Bool.not_eq_false] at ha
  set e1 := e.setStream s { e.streams s with stats := { (e.streams s).stats with
    rxPackets := (e.streams s).stats.rxPackets + 1
    rxBytes := (e.streams s).stats.rxBytes + b.length } }
  have h1 : Still env op e e1 := Still.silent hl (.received b.length) rfl
  have h2 : Still env op e (kcpCurrentUpdate env e1 s now) :=
    h1.trans (kcpCurrentUpdate_still (h1.sound hi.toSound) (h1.calm.liveStream hl)
      ((h1.calm.active s).trans ha) now)
  have h3 : Still env op e (kcpInput env (kcpCurrentUpdate env e1 s now) s b).2 := by
    refine h2.trans (kcpInput_still (h2.sound hi.toSound) (h2.calm.liveStream hl) b fun r => ?_)
    refine ⟨(h2.calm.active s).trans ha, ?_⟩
    rw [h2.calm.connOf, h2.calm.streamId]
    exact hd
  generalize kcpInput env (kcpCurrentUpdate env e1 s now) s b = r at h3 ⊢
  have hl3 := h3.calm.liveStream hl
  have hnow3 := hnow.mono (h3.tick hi.toSound)
  have hask : (streamAccumulateUpdate env r.2 s now).Asked env s := by
    refine streamAccumulateUpdate_asked (Moves.steady h3.acts.moves hs) (h3.inside hi).depth hl3
      hnow3 ?_
    rcases hs.phased s hl with ⟨hst, -⟩ | ⟨hst, -⟩
    · have hst3 := (h3.calm.state s).trans hst
      refine Or.inl ⟨hst3, (batches_kept.acts hs h3.acts hb).stream s hl3 hst3 ?_⟩
      rw [h3.calm.connOf]
      exact hc
    · right
      rw [h3.calm.config]
      refine hdrain hst ?_
      rw [streamKcpActive, hst] at ha
      simpa using ha
  have h4 : Still env op e (streamAccumulateUpdate env r.2 s now) :=
    h3.trans (streamAccumulateUpdate_still (h3.inside hi) hl3 hnow3 ((h3.calm.active s).trans ha))
  split_ifs
  · exact fun _ _ _ _ => hask
  · have h5 : Still env op _ (streamRecoverRead env (streamAccumulateUpdate env r.2 s now) s now) :=
      streamRecoverRead_still (h4.sound hi.toSound) (h4.calm.liveStream hl)
        (hnow.mono (h4.tick hi.toSound)) (by
          rw [h4.calm.connOf, h4.calm.streamId]
          exact hd.imp fun d h => ⟨b, h⟩)
    exact fun _ _ _ _ => (Hushed.streamRecoverRead env _ now).asked (h5.calm.state s) hask

/-- What is noted about a connection leaves its streams alone. -/
lemma connNoteReceive_unstranded (hi : Inside env e) (hl : e.LiveConn c) (recv : ℤ)
    (isPayload : Bool) (hu : e.Unstranded env s) :
    (connNoteReceive env e c recv isPayload).Unstranded env s := by
  obtain ⟨m, t, ht, hm, heq⟩ := connNoteReceive_did env hi.depth hl.2 (hi.conn_owner hl) recv isPayload
  rw [heq]
  intro hl' hc hact hun
  have hst : ((e.stepConn c ((e.conns c).received recv isPayload) [] m t e.stats e.connStats).connOf
      s).state = (e.connOf s).state := by
    simp only [Engine.connOf, Engine.stepConn, Function.update_apply]
    split_ifs with h
    · rw [h]
      rfl
    · rfl
  rw [hst] at hc
  obtain ⟨h1, h2⟩ := hu hl' hc hact hun
  have hn : TimerNode.SameBut _ (m.node (.stream s)) := hm.other (q := .stream s) (by simp)
  refine ⟨?_, ?_⟩
  · show (m.node (.stream s)).state ≠ .idle
    rw [hn.state]
    exact h1
  · show Read env t (m.node (.stream s)).deadlineMs ∨ _
    rw [hn.deadlineMs]
    exact h2.imp_left fun hr => hr.mono ht

/-- **The first payload of a stream** that was admitted. -/
lemma protocolFirstPayload_unstranded (hs : Steady env e) (hi : Inside env e) (hb : Batches env e)
    (ha : Addressed op d e c) (hl : e.LiveStream s) (ho : (e.streams s).state = .opened)
    (hc : (e.streams s).conn = c)
    (hp : PayloadDatagram d (e.conns c).localConnectionId (e.streams s).streamId payload)
    (hrecv : Read env e.tick recv) (hu : e.Unstranded env s) :
    (protocolFirstPayload env e c s payload recv).2.Unstranded env s := by
  have h1 : Still env op e (streamHandlePayload env e s payload recv).2 :=
    payload_still hi ha hl hc hp hrecv
  have hd : op = .input d (e.connOf s).peerAddr ∧
      PayloadDatagram d (e.connOf s).localConnectionId (e.streams s).streamId payload := by
    rw [Engine.connOf, hc]
    exact ⟨ha.op_eq, hp⟩
  have hu1 := streamHandlePayload_unstranded hs hi hb hl hrecv ⟨d, hd⟩
    (fun h => by rw [ho] at h; cases h) hu
  rw [protocolFirstPayload]
  dsimp only
  split_ifs
  · have hfail : Act env op _ _ ∧ _ := streamFail_act (h1.inside hi) (h1.calm.liveStream hl)
      ((h1.calm.state s).trans ho) closeReasonError
    exact fun hlive => absurd hlive hfail.2
  · exact connNoteReceive_unstranded (h1.inside hi) (h1.calm.liveConn ha.live) recv true hu1

/-- **A payload for a stream that is not known yet**: what it means for a new stream. -/
lemma PeerCreated.unstranded {r : ℤ × Engine K} (h : PeerCreated env op d c id payload recv e r)
    (hs : Steady env e) (hi : Inside env e) (hb : Batches env e)
    (hp : PayloadDatagram d (e.conns c).localConnectionId id payload) (ha : Addressed op d e c)
    (hrecv : Read env e.tick recv) (hk : ¬ s < e.nstreams) : r.2.Unstranded env s := by
  have hhands := Call.update_handsOver (K := K) s
  -- the new stream has no work when the host has accepted it
  have hnew : ∀ {e1 e2 : Engine K}, PeerStream env op d c id e e1 e2 → e2.LiveStream s →
      ¬ e2.Unserved s := by
    intro e1 e2 h hl hun
    have hs1 : Steady env e1.tock := Moves.steady h.entered.moves hs
    obtain ⟨hl1, hu1⟩ := Moves.work_of (Acts.moves (h.tuned .update).acts) hs1 hhands.1 hhands.2 hl hun
    exact h.new.unserved_new hs hk hl1 hu1
  cases h with
  | refused => exact fun hl => absurd hl.1 hk
  | failed _ _ hlive => exact fun hl => absurd (hlive s hl).1 hk
  | @rejected e1 e2 r _ h hr =>
      intro hl _ _ hun
      have hs2 : Steady env e2 := Moves.steady h.acts.moves hs
      obtain ⟨-, -, hini, hst⟩ := h.stream_tuned
      have hrej : Acts env .update e2 (protocolRejectStream env
          (e2.log (.streamCreateNotify e.nstreams r)) e.nstreams recv) :=
        (protocolRejectStream_acts (h.acts.inside hi) (h.tuned op).live hini hst hr
          h.unnotified_tuned (hrecv.mono (Acts.tick h.acts hi.toOwn))).1
      obtain ⟨hl2, hu2⟩ := hrej.moves.work_of hs2 hhands.1 hhands.2 hl hun
      exact absurd hu2 (hnew h hl2)
  | @admitted e1 e2 _ h =>
      intro hl
      obtain ⟨h3, ha3, hl3, hconn, ho, hp3⟩ := h.admitted ha hp rfl
      have hs3 : Steady env (e2.log (.streamCreateNotify e.nstreams 0)) := Moves.steady h3.moves hs
      have hrecv3 := hrecv.mono (Acts.tick h3 hi.toOwn)
      have hl3' : (e2.log (.streamCreateNotify e.nstreams 0)).LiveStream s :=
        protocolFirstPayload_liveStream hs3 (h3.inside hi) ha3 hl3 hconn ho hp3 hrecv3 hl
      have hl2 : e2.LiveStream s := hl3'
      obtain rfl := h.eq_new hs hl2 hk
      refine protocolFirstPayload_unstranded hs3 (h3.inside hi) (batches_kept.acts hs h3 hb) ha3
        hl3 ho hconn hp3 hrecv3 (fun _ _ _ hun => ?_) hl
      exact absurd ((Hushed.logged e2 rfl).unserved_of hun) (hnew h hl2)

/-- **`kcpmux_protocol_input`.** -/
lemma protocolInput_unstranded (hs : Steady env e) (hi : Inside env e) {addr : Addr}
    (hop : op = .input d addr) (hrecv : Read env e.tick recv) (hn : e.NoInit) (hb : Batches env e)
    (hin : e.Introduced s)
    (hdrain : e.LiveStream s → op.Feeds (e.connOf s) (e.streams s) → (e.streams s).DrainsAtOnce)
    (hu : e.Unstranded env s) :
    (protocolInput env e (Buf.of d) d.length addr recv).2.Unstranded env s := by
  have hacts := (protocolInput_acts hi hop hrecv hn).1
  -- a stream the datagram is not for
  have hspared : (∀ e1, Extends e e1 → e1.LiveStream s →
      ¬ op.Feeds (e1.connOf s) (e1.streams s)) →
      (protocolInput env e (Buf.of d) d.length addr recv).2.Unstranded env s := by
    intro hfeeds
    have h0 : Passing env e e s := ⟨hb, .refl e, fun hl hu => ⟨hl, hu⟩, hu⟩
    refine (h0.acts ⟨?_, ?_, hfeeds⟩ hin hs hacts).unstranded
    · rw [hop]
      rintro (h | (⟨b, flush, h⟩ | ⟨iov, flush, h⟩) | h) <;> cases h
    · rw [hop]
      rintro y h
      cases h
  by_cases hother : s < e.nstreams ∧ (e.LiveStream s → ¬ op.Feeds (e.connOf s) (e.streams s))
  · refine hspared fun e1 hext hl hf => ?_
    have hdeaf : Deaf op e s := Deaf.of_lt hs.toOwn hother.1 fun hl0 hr =>
      hother.2 hl0 (hr.resolve_left (by rw [hop]; simp))
    exact hdeaf e1 hext hl (Or.inr hf)
  by_cases htype : Buf.of d 0 = msgStreamPayload
  · have h : Delivered env op d recv e _ := protocolInput_delivered hi hop htype hn
    have h0 : ∀ c, Acts env op e (e.countReceived c d.length) := fun c =>
      .single (countReceived_act c _)
    generalize protocolInput env e (Buf.of d) d.length addr recv = r at h ⊢
    cases h with
    | dropped hr he0 =>
        rcases he0 with rfl | ⟨c, rfl⟩
        · exact hu
        · exact hu
    | @known e0 c q payload r he0 ha hst hl hc hfound hp hr =>
        have hs0 : Steady env e0 := he0 ▸ Moves.steady (h0 c).moves hs
        have hi0 : Inside env e0 := he0 ▸ (h0 c).inside hi
        have hb0 : Batches env e0 := he0 ▸ batches_kept.acts hs (h0 c) hb
        have hrecv0 : Read env e0.tick recv := he0 ▸ hrecv.mono ((h0 c).tick hi.toOwn)
        have h1 : Still env op e0 r.2 := hr ▸ payload_still hi0 ha hl hc hp hrecv0
        suffices hend : r.2.Unstranded env s by
          split_ifs
          · exact connNoteReceive_unstranded (h1.inside hi0) (h1.calm.liveConn ha.live) recv true hend
          · exact hend
        intro hl1
        have hl0 : e0.LiveStream s :=
          (h1.acts.grows hi0.toOwn).extends.liveStream (h1.calm.nstreams ▸ hl1.1) hl1
        have hfed : op.Feeds (e.connOf s) (e.streams s) := by
          by_contra hno
          exact hother ⟨(he0 ▸ hl0 : (e.countReceived c d.length).LiveStream s).1, fun _ => hno⟩
        obtain rfl : q = s := by
          subst he0
          exact Option.some.inj (hfound.symm.trans (ha.found hs0.toOwn hl0 (Or.inr hfed)))
        have hd : op = .input d (e0.connOf q).peerAddr ∧
            PayloadDatagram d (e0.connOf q).localConnectionId (e0.streams q).streamId payload := by
          rw [Engine.connOf, hc]
          exact ⟨ha.op_eq, hp⟩
        subst hr
        refine streamHandlePayload_unstranded hs0 hi0 hb0 hl hrecv0 ⟨d, hd⟩ ?_ ?_ hl1
        · subst he0
          exact hdrain hl0 hfed
        · subst he0
          exact hu
    | @unknown e0 c id payload r he0 ha hst hid hfound hp h =>
        have hs0 : Steady env e0 := he0 ▸ Moves.steady (h0 c).moves hs
        have hk : ¬ s < e0.nstreams := by
          subst he0
          intro hk
          by_cases hno : e.LiveStream s → ¬ op.Feeds (e.connOf s) (e.streams s)
          · exact hother ⟨hk, hno⟩
          obtain ⟨hl, hf⟩ : e.LiveStream s ∧ op.Feeds (e.connOf s) (e.streams s) := by
            simpa using hno
          have hget := ha.found hs0.toOwn hl (Or.inr hf)
          rw [hp.stream, hfound] at hget
          cases hget
        exact h.unstranded hs0 (he0 ▸ (h0 c).inside hi) (he0 ▸ batches_kept.acts hs (h0 c) hb) hp ha
          (he0 ▸ hrecv.mono ((h0 c).tick hi.toOwn)) hk
  · refine hspared ?_
    rintro e1 - - ⟨d', b, hop', hp⟩
    obtain ⟨rfl, -⟩ := Call.input.inj (hop.symm.trans hop')
    exact htype hp.type

end Input

/-! ### Runs -/

/-- The call keeps the work that waits: it does not set a valid configuration of a stream with
work, and brings no payload for a stream in `LOCAL_DRAIN` that batches. -/
def KeepsWork (e : Engine K) (op : Call) : Prop :=
  ∀ s, e.LiveStream s →
    (∀ config, op = .streamSetConfig s config → streamConfigPrepare config ≠ none →
      ¬ e.Unserved s) ∧
    (op.Feeds (e.connOf s) (e.streams s) → (e.streams s).DrainsAtOnce)

/-- **`kcpmux_engine_input`.** -/
lemma Reachable.received_unstranded (h : Reachable env e) {d : Bytes} {addr : Addr}
    (hg : KeepsWork e (.input d addr)) (hu : e.Unstranded env s) :
    ((Call.input d addr).exec env e).Unstranded env s := by
  rw [Call.exec]
  by_cases hd : d = []
  · rw [engineInput, if_pos hd]
    exact hu
  obtain ⟨e0, hrec⟩ := h.boundary.received hd addr
  obtain ⟨st, hst, he0⟩ := hrec.opened
  rw [hrec.result]
  have hb0 : Batches env e0 := by
    have hq : Acts env .update e { e with tick := e.tick + 1, stats := st, connStats := e.connStats } :=
      .single (.quiet (Nat.le_succ _) hst)
    rw [he0]
    exact batches_kept.enter (batches_kept.acts h.boundary.toSteady hq h.batches)
  have hu0 : e0.Unstranded env s := by
    rw [he0]
    exact hu.aside ⟨rfl, rfl, rfl, rfl, rfl, Nat.le_succ _, fun _ => rfl, fun _ _ => rfl⟩ id
  have hacts := (protocolInput_acts hrec.inside (rfl : Call.input d addr = _) hrec.read hrec.noInit).1
  have hu1 := protocolInput_unstranded (s := s) hrec.steady hrec.inside rfl hrec.read hrec.noInit hb0
    (by rw [he0]; exact h.introduced s) (by rw [he0]; exact fun hl => (hg s hl).2) hu0
  obtain ⟨h3, h4⟩ := engineOperationLeave_aside (Moves.steady hacts.moves hrec.steady) hrec.depth
  exact hu1.aside h3 (h4 _)

/-- **Every call** that keeps the work that waits leaves it asked for. -/
lemma Reachable.exec_unstranded (h : Reachable env e) (hv : op.Valid e) (hg : KeepsWork e op)
    (hu : e.Unstranded env s) : (op.exec env e).Unstranded env s := by
  by_cases hin : ∃ d addr, op = .input d addr
  · obtain ⟨d, addr, rfl⟩ := hin
    exact h.received_unstranded hg hu
  by_cases hdr : op.Drives s
  · rcases hdr with rfl | hop | rfl
    · exact h.updated_unstranded hu
    · exact h.sent_unstranded hop hv hu
    · exact h.closed_unstranded hv.1 hu
  by_cases hno : ∃ config, op = .streamSetConfig s config ∧ streamConfigPrepare config = none
  · -- a configuration that is refused changes nothing
    obtain ⟨config, rfl, hnone⟩ := hno
    rw [Call.exec, streamSetConfig, if_neg (by simp [hv.1.2]), hnone]
    exact hu
  refine h.boundary.spared hv (fun hop => hdr (Or.inl hop)) ⟨hdr, ?_, ?_⟩ (h.introduced s) h.batches hu
  · rintro y rfl
    exact (hg s hv.1).1 y rfl fun hnone => hno ⟨y, rfl, hnone⟩
  · rintro e1 - - ⟨d, b, hop, -⟩
    exact hin ⟨d, _, hop⟩

lemma ReachableWhen.unstranded (h : ReachableWhen env KeepsWork e) (s : ℕ) :
    e.Unstranded env s := by
  induction h with
  | create hc =>
      obtain ⟨cc, sc, id, -, rfl⟩ := engineCreate_eq hc
      exact fun hl => absurd hl.1 (Nat.not_lt_zero s)
  | call hr op hv hg ih => exact hr.reachable.exec_unstranded hv hg ih

/-- **No work is left behind.**  In every run whose calls keep the work that waits, when
`kcpmux_engine_finish_batch` returns at the time `t`, the timer node of every live stream of a
`CONNECTED` connection whose KCP instance is driven, and that has had a successful send without
flush or a payload since its last update, is in the heap for a time that has come. -/
theorem finish_batch_asks (h : ReachableWhen env KeepsWork e) {t : ℤ}
    (ht : ∀ now, Read env (Call.finishBatch.exec env e).tick now → now ≤ t) :
    ∀ s, (Call.finishBatch.exec env e).LiveStream s →
      ((Call.finishBatch.exec env e).connOf s).state = .connected →
      streamKcpActive ((Call.finishBatch.exec env e).streams s) = true →
      (Call.finishBatch.exec env e).Unserved s →
      (Call.finishBatch.exec env e).Armed (.stream s) ∧
        ((Call.finishBatch.exec env e).timerManager.node (.stream s)).deadlineMs ≤ t := by
  intro s hl hc hact hun
  have hr := h.reachable
  have hend : Boundary env (Call.finishBatch.exec env e) := (hr.call .finishBatch trivial).boundary
  have hu : (Call.finishBatch.exec env e).Unstranded env s :=
    hr.boundary.spared trivial (by simp) (Call.finishBatch_leavesWork e s) (hr.introduced s)
      hr.batches (h.unstranded s)
  obtain ⟨h1, h2⟩ := hu hl hc hact hun
  refine ⟨hend.armed h1, ?_⟩
  rcases h2 with hread | ⟨-, hm⟩
  · exact ht _ hread
  · rw [Call.exec, hr.boundary.finishBatch] at hm
    cases hm

/-- A stream with a threshold of two that has accepted one send. -/
theorem finish_batch_asks_batching :
    ReachableWhen stoppingHost KeepsWork batching ∧
    (Call.finishBatch.exec stoppingHost batching).Unserved 0 ∧
    (Call.finishBatch.exec stoppingHost batching).Armed (.stream 0) ∧
      ((Call.finishBatch.exec stoppingHost batching).timerManager.node (.stream 0)).deadlineMs ≤
        1000 := by
  -- no call of this run brings a payload, and the only change of a configuration comes before work
  have hkeeps : ∀ (e : Engine Unit) (op : Call), (∀ s config, op ≠ .streamSetConfig s config) →
      (∀ conn (x : Stream Unit), ¬ op.Feeds conn x) → KeepsWork e op :=
    fun e op h1 h2 s _ => ⟨fun config hop => absurd hop (h1 s config), fun hf => absurd hf (h2 _ _)⟩
  have h0 : ReachableWhen stoppingHost KeepsWork idealEngine := .create stoppingHost_create
  have h1 := h0.call (.input plainConnect [10]) trivial
    fun s hl => absurd hl.1 (Nat.not_lt_zero s)
  have h2 : ReachableWhen stoppingHost KeepsWork opening :=
    h1.call (.streamCreate 0 none none) ⟨by decide +kernel, by decide +kernel⟩
      (hkeeps _ _ (by simp) (by rintro _ _ ⟨d, b, h, -⟩; cases h))
  have h3 : ReachableWhen stoppingHost KeepsWork thresholded :=
    h2.call (.streamSetConfig 0 { streamConfigInit with batchThreshold := 2 })
      ⟨⟨by decide +kernel, by decide +kernel⟩, not_rejectedStream (by decide +kernel)⟩
      (fun s hl => ⟨fun config hop _ => by
        obtain ⟨rfl, -⟩ := Call.streamSetConfig.inj hop
        rw [Engine.Unserved]
        decide +kernel, by rintro ⟨d, b, h, -⟩; cases h⟩)
  have h4 : ReachableWhen stoppingHost KeepsWork batching :=
    h3.call (.streamSend 0 [1] false)
      ⟨⟨by decide +kernel, by decide +kernel⟩, not_rejectedStream (by decide +kernel)⟩
      (hkeeps _ _ (by simp) (by rintro _ _ ⟨d, b, h, -⟩; cases h))
  have hun : (Call.finishBatch.exec stoppingHost batching).Unserved 0 := by
    rw [Engine.Unserved]
    decide +kernel
  have ht : ∀ now, Read stoppingHost (Call.finishBatch.exec stoppingHost batching).tick now →
      now ≤ 1000 := by
    rintro now ⟨k, -, rfl⟩
    exact min_le_right _ _
  exact ⟨h4, hun, finish_batch_asks h4 ht 0 ⟨by decide +kernel, by decide +kernel⟩
    (by decide +kernel) (by decide +kernel) hun⟩

/-! ### Work that is left behind -/

/-- A host whose KCP instances have data in flight and no hurry. -/
def lazyHost : Env Unit :=
  { stoppingHost with
    kcp := { voidKcp with check := fun _ _ current => current + 5000, waitsnd := fun _ _ => 1 } }

/-- A threshold of two. -/
def pairConfig : StreamConfig := { streamConfigInit with batchThreshold := 2 }

/-- A stream with a threshold of two has accepted one send. -/
def lazyBatching : Engine Unit :=
  (Call.streamSend 0 [1] false).exec lazyHost
    ((Call.streamSetConfig 0 pairConfig).exec lazyHost
      ((Call.streamCreate 0 none none).exec lazyHost
        ((Call.input plainConnect [10]).exec lazyHost idealEngine)))

/-- Its configuration is set once more. -/
def reconfigured : Engine Unit := (Call.streamSetConfig 0 pairConfig).exec lazyHost lazyBatching

/-- It is closed, its timer runs out, and a payload comes while it drains. -/
def drainingFed : Engine Unit :=
  (Call.input (plainPayload 1 2 7) [10]).exec lazyHost
    (Call.update.exec lazyHost ((Call.streamClose 0).exec lazyHost lazyBatching))

lemma lazyBatching_reachable : Reachable lazyHost lazyBatching := by
  have h0 : Reachable lazyHost idealEngine := .create (idealEngine_create 0 0)
  have h1 := h0.call (.input plainConnect [10]) trivial
  have h2 := h1.call (.streamCreate 0 none none) ⟨by decide +kernel, by decide +kernel⟩
  have h3 := h2.call (.streamSetConfig 0 pairConfig)
    ⟨⟨by decide +kernel, by decide +kernel⟩, not_rejectedStream (by decide +kernel)⟩
  exact h3.call (.streamSend 0 [1] false)
    ⟨⟨by decide +kernel, by decide +kernel⟩, not_rejectedStream (by decide +kernel)⟩

/-- The work of the stream waits, and `kcpmux_engine_finish_batch` does not ask for it. -/
def LeftBehind (env : Env Unit) (e : Engine Unit) : Prop :=
  (Call.finishBatch.exec env e).LiveStream 0 ∧
    ((Call.finishBatch.exec env e).connOf 0).state = .connected ∧
    streamKcpActive ((Call.finishBatch.exec env e).streams 0) = true ∧
    (Call.finishBatch.exec env e).Unserved 0 ∧
    ∀ now, Read env (Call.finishBatch.exec env e).tick now →
      now < ((Call.finishBatch.exec env e).timerManager.node (.stream 0)).deadlineMs

/-- **Work is left behind** when the configuration of the stream is set while a send waits, and when
a payload comes for a stream that batches while it drains. -/
theorem finish_batch_leaves_behind :
    Reachable lazyHost reconfigured ∧ LeftBehind lazyHost reconfigured ∧
    Reachable lazyHost drainingFed ∧ 0 ∈ drainingFed.pendingBatchStreams ∧
      LeftBehind lazyHost drainingFed := by
  have hclock : ∀ (t : ℕ) (d : ℤ), 1000 < d → ∀ now, Read lazyHost t now → now < d := by
    rintro t d hd now ⟨k, -, rfl⟩
    exact lt_of_le_of_lt (min_le_right _ _) hd
  have h1 : Reachable lazyHost reconfigured := lazyBatching_reachable.call (.streamSetConfig 0 pairConfig)
    ⟨⟨by decide +kernel, by decide +kernel⟩, not_rejectedStream (by decide +kernel)⟩
  have h2 := lazyBatching_reachable.call (.streamClose 0)
    ⟨⟨by decide +kernel, by decide +kernel⟩, not_rejectedStream (by decide +kernel)⟩
  have h3 : Reachable lazyHost drainingFed :=
    (h2.call .update trivial).call (.input (plainPayload 1 2 7) [10]) trivial
  refine ⟨h1, ⟨⟨by decide +kernel, by decide +kernel⟩, by decide +kernel, by decide +kernel, ?_,
    hclock _ _ (by decide +kernel)⟩, h3, by decide +kernel,
    ⟨⟨by decide +kernel, by decide +kernel⟩, by decide +kernel, by decide +kernel, ?_,
    hclock _ _ (by decide +kernel)⟩⟩
  · rw [Engine.Unserved]
    decide +kernel
  · rw [Engine.Unserved]
    decide +kernel

end KcpMux
