import KcpMux.Safety.Batching
import KcpMux.Safety.ReadWakeup

/-!
Work that waits for an update of the KCP instance.

A successful send without flush and the input of a payload leave work behind that the next
`ops->update` does.  The log of a stream says whether there is such work (`Engine.Unserved`).  It is
asked for when the timer node is set for a time that has come, or when the stream is listed in
`pending_batch_streams` (`Engine.Asked`).

* `Boundary.spared`: a call that neither brings work for a stream nor takes it in hand leaves it
  asked for.
* `Reachable.sent_unstranded`, `Reachable.closed_unstranded`: sends and closes ask for the work they
  bring.
-/

namespace KcpMux

variable {K : Type} {env : Env K} {op : Call} {e e' : Engine K} {o : Owner} {c s : ℕ}

/-! ### Work -/

/-- The entry is an update of the KCP instance of the stream `s`. -/
def Event.updates (s : ℕ) : Event → Bool
  | .kcp q (.update _) => q == s
  | _ => false

/-- The entry hands work to the KCP instance of the stream `s`: a message that it accepts, or a
payload. -/
def Event.feeds (s : ℕ) : Event → Bool
  | .kcp q (.send _ ret) => q == s && decide (0 ≤ ret)
  | .kcp q (.sendv _ _ _ ret) => q == s && decide (0 ≤ ret)
  | .kcp q (.input _ _) => q == s
  | _ => false

/-- There is work since the last update; the log has its newest entry first. -/
def unserved (s : ℕ) : List Event → Bool
  | [] => false
  | ev :: log => !ev.updates s && (ev.feeds s || unserved s log)

/-- The stream has work that no update has done yet. -/
def Engine.Unserved (e : Engine K) (s : ℕ) : Prop := unserved s (e.logOf (.stream s)) = true

/-- The next update of the KCP instance is due, or the stream is listed. -/
def Engine.Asked (env : Env K) (e : Engine K) (s : ℕ) : Prop :=
  (e.timerManager.node (.stream s)).state ≠ .idle ∧
    (Read env e.tick (e.timerManager.node (.stream s)).deadlineMs ∨
      ((e.streams s).state = .opened ∧ s ∈ e.pendingBatchStreams))

/-- **The work of the stream is asked for.** -/
def Engine.Unstranded (env : Env K) (e : Engine K) (s : ℕ) : Prop :=
  e.LiveStream s → (e.connOf s).state = .connected → streamKcpActive (e.streams s) = true →
    e.Unserved s → e.Asked env s

lemma unserved_append {log evs : List Event} (hev : ∀ ev ∈ evs, ev.feeds s = false)
    (h : unserved s (evs ++ log) = true) : unserved s log = true := by
  induction evs with
  | nil => exact h
  | cons ev evs ih =>
      rw [List.cons_append, unserved, hev ev List.mem_cons_self, Bool.false_or,
        Bool.and_eq_true] at h
      exact ih (fun ev' hm => hev ev' (List.mem_cons_of_mem _ hm)) h.2

/-! ### Steps that neither take work in hand nor bring any -/

/-- The call brings a payload for the stream `x` of `conn`. -/
def Call.Feeds (op : Call) (conn : Conn) (x : Stream K) : Prop :=
  ∃ d b, op = .input d conn.peerAddr ∧
    PayloadDatagram d conn.localConnectionId x.streamId b

section

variable {t : ℕ} {conn : Conn} {x x' : Stream K} {evs : List Event} {mv : TimerMove} {p : PendMove}

lemma refreshEvents_feeds (q : ℕ) (conn : Conn) (x : Stream K) (now r : ℤ) :
    ∀ ev ∈ refreshEvents q conn x now r, ev.feeds s = false := by
  rw [refreshEvents]
  split_ifs <;> simp [Event.feeds]

lemma streamCloseEvents_feeds (q : ℕ) (x : Stream K) (phase : ClosePhase) {refresh : List Event}
    (h : ∀ ev ∈ refresh, ev.feeds s = false) :
    ∀ ev ∈ streamCloseEvents q x phase refresh, ev.feeds s = false := by
  intro ev hm
  simp only [streamCloseEvents, List.mem_append, List.mem_singleton] at hm
  rcases hm with (hm | hm) | rfl
  · split_ifs at hm
    · rw [List.mem_singleton.mp hm]
      rfl
    · cases hm
  · exact h ev hm
  · rfl

lemma Flow.feeds (h : Flow env op t s conn x x' evs) : ∀ ev ∈ evs, ev.feeds s = false := by
  cases h with
  | unblockWrite => split_ifs <;> simp [Event.feeds]
  | unblockRead => split_ifs <;> simp [Event.feeds]
  | _ => simp

/-- A step of a call that neither sends on the stream nor brings a payload hands over no work. -/
lemma StreamTrans.feeds (h : StreamTrans env op e t s conn x x' evs mv p)
    (hsend : ¬ op.SendsOn s) (hin : ¬ op.Feeds conn x) : ∀ ev ∈ evs, ev.feeds s = false := by
  cases h with
  | call hk h ha =>
      rw [List.forall_mem_singleton]
      cases h with
      | send => exact absurd ha.2.2 hsend
      | sendv => exact absurd ha.2.2 hsend
      | input t b =>
          obtain ⟨-, d, hop, hd⟩ := ha
          exact absurd ⟨d, b, hop, hd⟩ hin
      | _ => rfl
  | query hk h =>
      rw [List.forall_mem_singleton]
      cases h <;> rfl
  | flow h => exact h.feeds
  | refresh => exact refreshEvents_feeds _ _ _ _ _
  | config => exact refreshEvents_feeds _ _ _ _ _
  | startClose => exact streamCloseEvents_feeds _ _ _ (refreshEvents_feeds _ _ _ _ _)
  | remoteClose => exact streamCloseEvents_feeds _ _ _ (by simp)
  | _ => simp [Event.feeds, streamCloseWrite]

/-- An instance that is driven was driven before. -/
lemma StreamTrans.active_of (h : StreamTrans env op e t s conn x x' evs mv p)
    (ha : streamKcpActive x' = true) : streamKcpActive x = true := by
  cases h with
  | output => split_ifs at ha <;> exact ha
  | flow h =>
      obtain ⟨_, _, _, _, _, rfl⟩ := h.record
      exact ha
  | startClose _ _ hs => simp [streamKcpActive, hs]
  | waitAck _ hs => simp [streamKcpActive, hs] at ha
  | reject => simp [streamKcpActive] at ha
  | resend _ hs hp => simp [streamKcpActive, hs, hp] at ha
  | remoteClose => simp [streamKcpActive] at ha
  | finalizeSoon _ hs => simp [streamKcpActive, hs] at ha
  | _ => exact ha

/-- **What such a step does for the work of a stream**: nothing, or the timer node is set for the
time of the step. -/
lemma StreamTrans.asks (h : StreamTrans env op e t s conn x x' evs mv p) (hdr : ¬ op.Drives s)
    (hcfg : ¬ ∃ y, op = .streamSetConfig s y)
    (hknown : x.isInitiator = true ∨ e.NotifiedStream s) (ha : streamKcpActive x' = true) :
    (x.state = .opened → x'.state = .opened) ∧
      ((mv = .keep ∧ (p = .keep ∨ p = .append)) ∨
        ∃ now, mv = .schedule now now ∧ Read env t now) := by
  cases h with
  | output =>
      refine ⟨fun h => ?_, Or.inl ⟨rfl, Or.inl rfl⟩⟩
      split_ifs <;> exact h
  | flow h =>
      obtain ⟨_, _, _, _, _, rfl⟩ := h.record
      exact ⟨id, Or.inl ⟨rfl, Or.inl rfl⟩⟩
  | clear hop => exact absurd hop hdr
  | bump =>
      refine ⟨id, Or.inl ⟨rfl, ?_⟩⟩
      split_ifs
      · exact Or.inr rfl
      · exact Or.inl rfl
  | fill hnow => exact ⟨id, Or.inr ⟨_, rfl, hnow⟩⟩
  | finish hnow => exact ⟨id, Or.inr ⟨_, rfl, hnow⟩⟩
  | wake hnow => exact ⟨id, Or.inr ⟨_, rfl, hnow⟩⟩
  | poll _ _ _ hop => exact absurd hop hdr
  | refresh _ _ hop => exact absurd hop hdr
  | config _ _ hop =>
      rcases hop with hop | ⟨hini, hnot⟩
      · exact absurd hop hcfg
      · rcases hknown with h | h
        · rw [hini] at h
          cases h
        · exact absurd h hnot
  | startClose _ _ _ hop => exact absurd (Or.inr (Or.inr hop)) hdr
  | waitAck _ hs => simp [streamKcpActive, hs] at ha
  | reject => simp [streamKcpActive] at ha
  | resend _ hs hp => simp [streamKcpActive, hs, hp] at ha
  | remoteClose => simp [streamKcpActive] at ha
  | finalizeSoon _ hs => simp [streamKcpActive, hs] at ha
  | _ => exact ⟨id, Or.inl ⟨rfl, Or.inl rfl⟩⟩

end

/-- No work comes out of such a step. -/
lemma Act.unserved_of (ha : Act env op e e') (hs : Steady env e) (hk : s < e.nstreams)
    (hl : e'.LiveStream s) (hsend : ¬ op.SendsOn s) (hin : ¬ op.Feeds (e.connOf s) (e.streams s))
    (hu : e'.Unserved s) : e.Unserved s := by
  rw [Engine.Unserved] at hu ⊢
  cases ha.streamTimed hs hk hl with
  | kept _ _ hlog => rwa [hlog] at hu
  | trans _ hx _ hlog =>
      rw [hlog] at hu
      exact unserved_append (hx.feeds hsend hin) hu

/-- A new stream has no work. -/
lemma Act.unserved_new (ha : Act env op e e') (hs : Steady env e) (hk : ¬ s < e.nstreams)
    (hl : e'.LiveStream s) : ¬ e'.Unserved s := by
  obtain ⟨now, r, hlog⟩ := (ha.streamFresh hs hk hl).log
  rw [Engine.Unserved, hlog]
  simp [unserved, streamNewEvents, Event.updates, Event.feeds]

/-- The work after such a step was there before it. -/
lemma Act.work_of (ha : Act env op e e') (hs : Steady env e) (hsend : ¬ op.SendsOn s)
    (hin : e.LiveStream s → ¬ op.Feeds (e.connOf s) (e.streams s)) (hl : e'.LiveStream s)
    (hu : e'.Unserved s) : e.LiveStream s ∧ e.Unserved s := by
  by_cases hk : s < e.nstreams
  · have hl0 := ((ha.grows hs.toOwn).liveStream hk hl).1
    exact ⟨hl0, ha.unserved_of hs hk hl hsend (hin hl0) hu⟩
  · exact absurd hu (ha.unserved_new hs hk hl)

/-- **A step that neither takes the work of the stream in hand nor brings any.** -/
lemma StreamTimed.unstranded (h : StreamTimed env op e e' s) (hb : Batches env e)
    (ht : e.tick ≤ e'.tick) (hl : e.LiveStream s) (hc : (e.connOf s).state = .connected)
    (hdr : ¬ op.Drives s) (hcfg : ¬ ∃ y, op = .streamSetConfig s y)
    (hknown : (e.streams s).isInitiator = true ∨ e.NotifiedStream s)
    (hact : streamKcpActive (e'.streams s) = true)
    (hask : streamKcpActive (e.streams s) = true → e.Asked env s) : e'.Asked env s := by
  cases h with
  | kept hx hn _ hp =>
      rw [hx] at hact
      obtain ⟨h1, h2⟩ := hask hact
      rw [Engine.Asked, hn.state, hn.deadlineMs, hx]
      refine ⟨h1, h2.imp (fun h => h.mono ht) fun hlist => ⟨hlist.1, ?_⟩⟩
      rcases hp with hp | ⟨hm, hnb⟩
      · exact hp.mpr hlist.2
      · exact absurd ((hb.stream s hl hlist.1 hc).batched hlist.1 hc hm) hnb
  | trans _ hx hn _ hp =>
      obtain ⟨hst, hmv⟩ := hx.asks hdr hcfg hknown hact
      obtain ⟨h1, h2⟩ := hask (hx.active_of hact)
      rcases hmv with ⟨rfl, hpm⟩ | ⟨now, rfl, hnow⟩
      · have hsame : TimerNode.SameBut _ _ := hn
        rw [Engine.Asked, hsame.state, hsame.deadlineMs, hp]
        refine ⟨h1, h2.imp (fun h => h.mono ht) fun hlist => ⟨hst hlist.1, ?_⟩⟩
        rcases hpm with rfl | rfl
        · exact hlist.2
        · exact List.mem_append_left _ hlist.2
      · rw [Engine.Asked, hn.1, hn.2, max_self]
        exact ⟨by decide, Or.inl hnow⟩

/-! ### Calls that neither take work in hand nor bring any -/

/-- The call leaves the work of the stream alone. -/
structure Call.LeavesWork (op : Call) (e : Engine K) (s : ℕ) : Prop where
  drives : ¬ op.Drives s
  config : ∀ y, op = .streamSetConfig s y → ¬ e.Unserved s
  feeds : ∀ e1, Extends e e1 → e1.LiveStream s → ¬ op.Feeds (e1.connOf s) (e1.streams s)

/-- Every live stream of the peer is known to the host. -/
def Engine.Introduced (e : Engine K) (s : ℕ) : Prop :=
  e.LiveStream s → (e.streams s).isInitiator = true ∨ e.NotifiedStream s

lemma Reachable.introduced (h : Reachable env e) (s : ℕ) : e.Introduced s := by
  intro hl
  by_cases hini : (e.streams s).isInitiator = true
  · exact Or.inl hini
  · refine Or.inr (h.announced s hl.1 (by simp) (by simpa using hini) ?_)
    rw [Stream.created, hl.2]
    rfl

lemma Engine.Asked.aside (h : e.Asked env s) (ha : Aside e e')
    (hn : (e'.timerManager.node (.stream s)).state = .idle →
      (e.timerManager.node (.stream s)).state = .idle) : e'.Asked env s := by
  rw [Engine.Asked, ha.deadline, ha.streams, ha.batch]
  exact ⟨fun hi => h.1 (hn hi), h.2.imp_left fun h => h.mono ha.tick⟩

lemma Engine.Unstranded.aside (h : e.Unstranded env s) (ha : Aside e e')
    (hn : (e'.timerManager.node (.stream s)).state = .idle →
      (e.timerManager.node (.stream s)).state = .idle) : e'.Unstranded env s := by
  intro hl hc hact hu
  have hl0 := ha.liveStream.mp hl
  rw [ha.connOf] at hc
  rw [ha.streams] at hact
  rw [Engine.Unserved, ha.log (.stream s) hl0] at hu
  exact (h hl0 hc hact hu).aside ha hn

/-- In the course of a call that began in `e0`. -/
structure Passing (env : Env K) (e0 e : Engine K) (s : ℕ) : Prop where
  batches : Batches env e
  steps : Extends e0 e
  work : e.LiveStream s → e.Unserved s → e0.LiveStream s ∧ e0.Unserved s
  unstranded : e.Unstranded env s

lemma Passing.act {e0 : Engine K} (h : Passing env e0 e s) (hsp : op.LeavesWork e0 s)
    (hin : e0.Introduced s) (hs : Steady env e) (ha : Act env op e e') : Passing env e0 e' s := by
  have hg := ha.grows hs.toOwn
  have hsend : ¬ op.SendsOn s := fun h => hsp.drives (Or.inr (Or.inl h))
  have hwork : e'.LiveStream s → e'.Unserved s → e.LiveStream s ∧ e.Unserved s :=
    ha.work_of hs hsend (hsp.feeds e h.steps)
  refine ⟨ha.batches hs h.batches, h.steps.trans hg.extends, fun hl hu => ?_,
    fun hl hc hact hu => ?_⟩
  · obtain ⟨hl0, hu0⟩ := hwork hl hu
    exact h.work hl0 hu0
  · obtain ⟨hl0, hu0⟩ := hwork hl hu
    obtain ⟨hlive, hun⟩ := h.work hl0 hu0
    have hc0 := ha.connected hs h.batches.joined hl0.1 hl hc
    refine (ha.streamTimed hs hl0.1 hl).unstranded h.batches hg.tick hl0 hc0 hsp.drives ?_ ?_ hact
      fun hact0 => h.unstranded hl0 hc0 hact0 hu0
    · rintro ⟨y, hop⟩
      exact hsp.config y hop hun
    · have hid : (e.streams s).isInitiator = (e0.streams s).isInitiator :=
        congrArg (fun i => i.2.1) (h.steps.stream s hlive.1).1
      rw [hid]
      refine (hin hlive).imp_right fun hnot => ?_
      obtain ⟨r, hr⟩ := hnot
      exact ⟨r, h.steps.trace.mem hr⟩

/-- Steps that leave the work of the stream alone. -/
lemma Passing.acts {e0 : Engine K} (h : Passing env e0 e s) (hsp : op.LeavesWork e0 s)
    (hin : e0.Introduced s) (hs : Steady env e) (ha : Acts env op e e') : Passing env e0 e' s := by
  induction ha with
  | refl => exact h
  | tail hpre hstep ih => exact ih.act hsp hin (Moves.steady (Acts.moves hpre) hs) hstep

/-- **A call that is not an update** and leaves the work of the stream alone. -/
lemma Boundary.spared (h : Boundary env e) (hv : op.Valid e) (hup : op ≠ .update)
    (hsp : op.LeavesWork e s) (hin : e.Introduced s) (hb : Batches env e) (hu : e.Unstranded env s) :
    (op.exec env e).Unstranded env s := by
  have h0 : Passing env e e s := ⟨hb, .refl e, fun hl hu => ⟨hl, hu⟩, hu⟩
  have hform := Call.exec_form h.toSound h.noInit hv
  generalize op.exec env e = e' at hform ⊢
  cases hform with
  | bare hop hbare =>
      obtain ⟨e1, ha, -, rfl | ⟨now, -, e2, ha2, hre⟩⟩ := hbare
      · exact (h0.acts hsp hin h.toSteady ha).unstranded
      · have h2 := h0.acts hsp hin h.toSteady (ha.tail ha2)
        cases hre with
        | failed => exact h2.unstranded
        | rearm =>
            refine h2.unstranded.aside (engineRearmTimer_aside e2 now) fun hi => ?_
            obtain ⟨a, d, evs, heq, -⟩ := engineRearmTimer_eq e2 now
            rwa [heq] at hi
  | @bracket t st e1 ht hst ha hop =>
      have hq : Acts env op e { e with tick := t, stats := st, connStats := e.connStats } :=
        .single (.quiet ht hst)
      have hs0 : Steady env (engineOperationEnter { e with tick := t, stats := st }) :=
        Moves.steady (hq.moves.tail .enter) h.toSteady
      have h1 := h0.acts hsp hin h.toSteady hq
      have h2 : Passing env e (engineOperationEnter { e with tick := t, stats := st }) s :=
        ⟨batches_kept.enter h1.batches, ⟨le_rfl, le_rfl, List.suffix_rfl, fun _ _ => ⟨rfl, id⟩,
          fun _ _ => ⟨rfl, id⟩⟩, h1.work, h1.unstranded⟩
      have hd1 : e1.operationDepth = 1 := by
        rw [(ha.grows hs0.toOwn).depth]
        show e.operationDepth + 1 = 1
        rw [h.depth]
      obtain ⟨h3, h4⟩ := engineOperationLeave_aside (Moves.steady ha.moves hs0) hd1
      exact (h2.acts hsp hin hs0 ha).unstranded.aside h3 (h4 _)
  | update hop => exact absurd hop hup

/-! ### What asks for an update -/

/-- A schedule in `e1`, which has the timers of `e`. -/
lemma engineScheduleTimerNode_set (hs : Steady env e) (ho : e.Live o) {e1 : Engine K}
    (htm : e1.timerManager = e.timerManager) (hd : 0 < e1.operationDepth) (d now : ℤ) :
    ((engineScheduleTimerNode env e1 o d now).2.timerManager.node o).state = .heap ∧
      ((engineScheduleTimerNode env e1 o d now).2.timerManager.node o).deadlineMs = max d now ∧
      (engineScheduleTimerNode env e1 o d now).2.tick = e1.tick + 1 := by
  obtain ⟨m, hm, hr⟩ := engineScheduleTimerNode_did env
    (by rw [htm]; exact (hs.owner o).mpr ho) d now
  rw [hr.eq_of_depth hd]
  rw [htm] at hm
  obtain ⟨h1, h2⟩ := hm.leaves (hs.counted.room hs.toOwn ho)
  exact ⟨h1, h2, rfl⟩

/-- A schedule for now. -/
lemma engineScheduleTimerNode_asked (hs : Steady env e) (hl : e.LiveStream s) {e1 : Engine K}
    (htm : e1.timerManager = e.timerManager) (hd : 0 < e1.operationDepth) {now : ℤ}
    (hnow : Read env e1.tick now) :
    (engineScheduleTimerNode env e1 (.stream s) now now).2.Asked env s := by
  obtain ⟨h1, h2, h3⟩ := engineScheduleTimerNode_set (o := .stream s) hs hl htm hd now now
  rw [Engine.Asked, h1, h2, h3, max_self]
  exact ⟨by decide, Or.inl (hnow.mono (Nat.le_succ _))⟩

/-- **`kcpmux_stream_accumulate_update`** asks for the update of an `OPEN` stream, and of every
stream that does not batch. -/
lemma streamAccumulateUpdate_asked (hs : Steady env e) (hd : 0 < e.operationDepth)
    (hl : e.LiveStream s) {now : ℤ} (hnow : Read env e.tick now)
    (hr : ((e.streams s).state = .opened ∧ e.Remembers env s) ∨
      (e.streams s).config.batchThreshold ≤ 1) :
    (streamAccumulateUpdate env e s now).Asked env s := by
  rw [streamAccumulateUpdate]
  dsimp only
  by_cases h1 : (e.streams s).config.batchThreshold ≤ 1
  · rw [if_pos h1]
    exact engineScheduleTimerNode_asked hs hl rfl hd hnow
  obtain ⟨hst, hr⟩ := hr.resolve_right h1
  rw [if_neg h1]
  by_cases h2 : (e.streams s).pendingCount ≥ (e.streams s).config.batchThreshold
  · -- the counter is full, so the update has been asked for
    rw [if_pos h2]
    exact ⟨hr.armed, Or.inl (hr.full ⟨UInt32.le_antisymm hr.tallied.le h2, UInt32.not_le.mp h1⟩)⟩
  rw [if_neg h2]
  by_cases h3 : (e.streams s).pendingCount + 1 = (e.streams s).config.batchThreshold
  · rw [if_pos h3]
    refine engineScheduleTimerNode_asked hs hl ?_ ?_ ?_
    · split_ifs <;> rfl
    · split_ifs <;> exact hd
    · split_ifs <;> exact hnow
  · rw [if_neg h3]
    have hlisted : s ∈ (if (e.streams s).pendingCount = 0 then
        { e with pendingBatchStreams := e.pendingBatchStreams ++ [s] } else e).pendingBatchStreams := by
      by_cases h0 : (e.streams s).pendingCount = 0
      · rw [if_pos h0]
        simp
      · rw [if_neg h0]
        exact hr.tallied.listed_iff.mpr ⟨UInt32.pos_iff_ne_zero.mpr h0, UInt32.not_le.mp h2⟩
    refine ⟨?_, Or.inr ⟨?_, hlisted⟩⟩
    · have harmed := hr.armed
      split_ifs <;> exact harmed
    · simp [Engine.setStream, hst]

/-! ### The log of a send -/

/-- Timers and list stay, and the log grows by entries that are neither work nor updates. -/
structure Hushed (s : ℕ) (e e1 : Engine K) : Prop where
  timers : e1.timerManager = e.timerManager
  batch : e1.pendingBatchStreams = e.pendingBatchStreams
  tick : e.tick ≤ e1.tick
  log : ∃ evs, e1.trace = evs ++ e.trace ∧ ∀ ev ∈ evs, ev.feeds s = false

namespace Hushed

variable {e1 e2 : Engine K}

lemma refl (e : Engine K) : Hushed s e e := ⟨rfl, rfl, le_rfl, [], rfl, by simp⟩

lemma trans (h : Hushed s e e1) (h' : Hushed s e1 e2) : Hushed s e e2 := by
  obtain ⟨evs, h1, h2⟩ := h.log
  obtain ⟨evs', h1', h2'⟩ := h'.log
  refine ⟨h'.timers.trans h.timers, h'.batch.trans h.batch, h.tick.trans h'.tick, evs' ++ evs,
    by rw [h1', h1, List.append_assoc], fun ev hm => ?_⟩
  exact (List.mem_append.mp hm).elim (h2' ev) (h2 ev)

lemma logged (e : Engine K) {ev : Event} (h : ev.feeds s = false) : Hushed s e (e.log ev) :=
  ⟨rfl, rfl, le_rfl, [ev], rfl, by simpa using h⟩

lemma setStream (e : Engine K) (q : ℕ) (x : Stream K) : Hushed s e (e.setStream q x) :=
  ⟨rfl, rfl, le_rfl, [], rfl, by simp⟩

lemma unserved_of (h : Hushed s e e1) (hu : e1.Unserved s) : e.Unserved s := by
  obtain ⟨evs, h1, h2⟩ := h.log
  rw [Engine.Unserved, logOf_append h1] at hu
  exact unserved_append (fun ev hm => h2 ev (List.mem_filter.mp hm).1) hu

/-- The work of the stream is asked for as before. -/
lemma unstranded (h : Hushed s e e1) (hc : Calm e e1) (hl : e.LiveStream s)
    (hu : e.Unstranded env s) : e1.Unstranded env s := by
  intro _ hconn hact hun
  rw [hc.connOf] at hconn
  rw [hc.active] at hact
  obtain ⟨h1, h2⟩ := hu hl hconn hact (h.unserved_of hun)
  rw [Engine.Asked, h.timers, h.batch, hc.state]
  exact ⟨h1, h2.imp_left fun hr => hr.mono h.tick⟩

lemma protocolSendStreamPayload (env : Env K) (e : Engine K) (q : ℕ) (b : Bytes) :
    Hushed s e (protocolSendStreamPayload env e q b).2 := by
  rw [KcpMux.protocolSendStreamPayload]
  split_ifs
  · exact refl e
  · exact refl e
  · rw [connWriteSocketv_eq _ _ _ _ (by simp)]
    exact ⟨rfl, rfl, Nat.le_succ _, [.write _ _ _ _], rfl, by simp [Event.feeds]⟩

lemma kcpOutput (env : Env K) (q : ℕ) (e : Engine K) (b : Bytes) :
    Hushed s e (kcpOutput env q e b) := by
  rw [KcpMux.kcpOutput]
  dsimp only
  split_ifs
  · exact refl e
  · exact (protocolSendStreamPayload env e q b).trans (setStream _ q _)
  · exact protocolSendStreamPayload env e q b

lemma kcpOutputs (env : Env K) (q : ℕ) (l : List Bytes) : ∀ e : Engine K,
    Hushed s e (l.foldl (kcpEmit env q) e) := by
  induction l with
  | nil => exact refl
  | cons b l ih =>
      intro e
      exact ((logged e rfl).trans (kcpOutput env q _ b)).trans (ih _)

/-- A KCP operation is logged before it puts out datagrams. -/
lemma kcpRun (env : Env K) (e : Engine K) (f : ℕ → K → KcpOut K) (call : ℤ → KcpCall) :
    Hushed s (e.log (.kcp s (call (kcpRun env e s f call).1.ret))) (kcpRun env e s f call).2 := by
  rw [KcpMux.kcpRun]
  cases (e.streams s).kcp with
  | none => exact ⟨rfl, rfl, Nat.le_succ _, [], rfl, by simp⟩
  | some k =>
      have hset : Hushed s (e.log (.kcp s (call (f e.tick k).ret)))
          ((e.log (.kcp s (call (f e.tick k).ret))).tock.setStream s
            { e.streams s with kcp := some (f e.tick k).kcp }) :=
        ⟨rfl, rfl, Nat.le_succ _, [], rfl, by simp⟩
      exact hset.trans (kcpOutputs env s _ _)

lemma kcpAsk (e : Engine K) (f : ℕ → K → ℤ) (call : ℤ → KcpCall)
    (hcall : ∀ r, (Event.kcp s (call r)).feeds s = false) : Hushed s e (kcpAsk e s f call).2 :=
  ⟨rfl, rfl, Nat.le_succ _, [.kcp s (call _)], rfl, by simpa using hcall _⟩

lemma kcpSend (env : Env K) (e : Engine K) (b : Bytes) (hr : (kcpSend env e s b).1 < 0) :
    Hushed s e (kcpSend env e s b).2 := by
  refine (logged e ?_).trans (kcpRun env e _ (.send b))
  simp only [Event.feeds, beq_self_eq_true, Bool.true_and, decide_eq_false_iff_not, not_le]
  exact hr

lemma kcpSendv (env : Env K) (sendv : ℕ → K → List Bytes → ℕ → ℕ → KcpOut K) (e : Engine K)
    (iov : List Bytes) (off len : ℕ) (hr : (kcpSendv env sendv e s iov off len).1 < 0) :
    Hushed s e (kcpSendv env sendv e s iov off len).2 := by
  refine (logged e ?_).trans (kcpRun env e _ (.sendv iov off len))
  simp only [Event.feeds, beq_self_eq_true, Bool.true_and, decide_eq_false_iff_not, not_le]
  exact hr

lemma kcpCurrentUpdate (env : Env K) (e : Engine K) (now : ℤ) :
    Hushed s e (kcpCurrentUpdate env e s now) :=
  (logged e rfl).trans (kcpRun env e _ fun _ => .currentUpdate now)

end Hushed

/-- **An update does the work.** -/
lemma kcpUpdate_served (env : Env K) (e : Engine K) (now : ℤ) :
    ¬ (kcpUpdate env e s now).Unserved s := by
  intro hu
  have h : Hushed s (e.log (.kcp s (.update now))) (kcpUpdate env e s now) :=
    Hushed.kcpRun env e _ fun _ => .update now
  have hlog : (e.log (.kcp s (.update now))).logOf (.stream s) =
      .kcp s (.update now) :: e.logOf (.stream s) := by
    have htr : (e.log (.kcp s (.update now))).trace = [.kcp s (.update now)] ++ e.trace := rfl
    exact logOf_append_self htr (by simp [Event.subject])
  have := h.unserved_of hu
  rw [Engine.Unserved, hlog] at this
  simp [unserved, Event.updates] at this

/-- Inside an operation a schedule logs nothing. -/
lemma engineScheduleTimerNode_trace (env : Env K) (hd : 0 < e.operationDepth) (o : Owner)
    (d now : ℤ) : (engineScheduleTimerNode env e o d now).2.trace = e.trace := by
  by_cases ho : (e.timerManager.node o).owner = true
  · obtain ⟨m, -, hr⟩ := engineScheduleTimerNode_did env ho d now
    rw [hr.eq_of_depth hd]
  · rw [engineScheduleTimerNode, if_pos (by simpa using ho)]

lemma Engine.Unserved.of_trace {e1 : Engine K} (h : e1.trace = e.trace) (hu : e1.Unserved s) :
    e.Unserved s := by
  rwa [Engine.Unserved, Engine.logOf, h] at hu

/-- A chunk sender that fails hands over no work. -/
def ChunkHushed {C : Type} (s : ℕ) (f : SendChunk K C) : Prop :=
  ∀ (e : Engine K) (context : C) (size : ℕ), (f e context size).1 < 0 →
    Hushed s e (f e context size).2.1

lemma streamSendContiguousChunk_hushed (env : Env K) (s : ℕ) :
    ChunkHushed s (streamSendContiguousChunk env s) :=
  fun e _ _ hr => Hushed.kcpSend env e _ hr

lemma streamSendVectoredChunk_hushed (env : Env K) (s : ℕ) :
    ChunkHushed s (streamSendVectoredChunk env s) := by
  intro e context size hr
  rw [streamSendVectoredChunk] at hr ⊢
  dsimp only at hr ⊢
  cases hv : env.kcp.sendv with
  | none =>
      rw [hv] at hr
      exact Hushed.kcpSend env e _ hr
  | some f =>
      rw [hv] at hr
      exact Hushed.kcpSendv env f e _ _ _ hr

section

variable {C : Type} {f : SendChunk K C}

lemma sendChunkLoop_le (chunkSize : ℕ) : ∀ (rounds : ℕ) (e : Engine K) (context : C)
    (remaining total : ℕ),
    total ≤ (sendChunkLoop f chunkSize rounds e context remaining total).2.1 := by
  intro rounds
  induction rounds with
  | zero => exact fun _ _ _ _ => le_rfl
  | succ rounds ih =>
      intro e context remaining total
      rw [sendChunkLoop]
      dsimp only
      generalize (if remaining < chunkSize then remaining else chunkSize) = n
      split_ifs
      · exact le_rfl
      · exact le_rfl
      · exact (Nat.le_add_right _ _).trans (ih _ _ _ _)

/-- A chunk loop that sends nothing hands over no work. -/
lemma sendChunkLoop_hushed (hf : ChunkHushed s f) {chunkSize : ℕ} (hm : 0 < chunkSize)
    (rounds : ℕ) (e : Engine K) (context : C) (remaining : ℕ)
    (h : (sendChunkLoop f chunkSize rounds e context remaining 0).2.1 = 0) :
    Hushed s e (sendChunkLoop f chunkSize rounds e context remaining 0).2.2 := by
  cases rounds with
  | zero => exact .refl e
  | succ rounds =>
      rw [sendChunkLoop] at h ⊢
      by_cases hr : remaining = 0
      · rw [if_pos hr]
        exact .refl e
      rw [if_neg hr] at h ⊢
      have hn : 0 < (if remaining < chunkSize then remaining else chunkSize) := by
        split_ifs <;> omega
      dsimp only at h ⊢
      generalize (if remaining < chunkSize then remaining else chunkSize) = n at h hn ⊢
      split_ifs at h ⊢ with hneg
      · exact hf e context n hneg
      · have hle := sendChunkLoop_le (f := f) chunkSize rounds (f e context n).2.1
          (f e context n).2.2 (remaining - n) (0 + n)
        omega

/-- **The end of a send**: its work is done at once or asked for. -/
lemma streamSendFinish_asked (hs : Steady env e) (hd : 0 < e.operationDepth) (hl : e.LiveStream s)
    {now : ℤ} (hnow : Read env e.tick now) (hst : (e.streams s).state = .opened)
    (hr : e.Remembers env s) (flush : Bool) :
    ¬ (streamSendFinish env e s flush now).Unserved s ∨
      (streamSendFinish env e s flush now).Asked env s := by
  rw [streamSendFinish]
  cases flush with
  | false => exact Or.inr (streamAccumulateUpdate_asked hs hd hl hnow (Or.inl ⟨hst, hr⟩))
  | true =>
      left
      rw [if_pos rfl]
      have hop : (Call.streamSend s [] true).SendsOn s := Or.inl ⟨[], true, rfl⟩
      have h1 : Still env (.streamSend s [] true) e (streamClearPending e s) :=
        streamClearPending_still hl (Or.inr (Or.inl hop))
      have h2 : Still env (.streamSend s [] true) e (kcpUpdate env (streamClearPending e s) s now) :=
        h1.trans (kcpUpdate_still (h1.sound hs.toSound) (h1.calm.liveStream hl)
          (streamKcpActive_of_opened ((h1.calm.state s).trans hst)) now)
      intro hu
      have hd3 : 0 < (kcpCheck env (kcpUpdate env (streamClearPending e s) s now) s now).2.operationDepth := by
        show 0 < (kcpUpdate env (streamClearPending e s) s now).operationDepth
        rw [h2.calm.depth]
        exact hd
      have hu3 := hu.of_trace (engineScheduleTimerNode_trace env hd3 _ _ _)
      exact kcpUpdate_served env _ now ((Hushed.kcpAsk _ _ _ fun _ => rfl).unserved_of hu3)

/-- What a send leaves behind: no work of its own, no work at all, or work that is asked for. -/
def SendLeaves (env : Env K) (s : ℕ) (e e1 : Engine K) : Prop :=
  Hushed s e e1 ∨ ¬ e1.Unserved s ∨ e1.Asked env s

lemma streamSendBody_leaves (hf : ChunkHushed s f) (hstill : ChunkStill env op s f) (hs : Steady env e) (hd : 0 < e.operationDepth)
    (hb : Batches env e) (hl : e.LiveStream s)
    {now : ℤ} (hnow : Read env e.tick now) (hst : (e.streams s).state = .opened)
    (hc : (e.connOf s).state = .connected) (hm : 0 < (e.streams s).config.kcpMss.toNat) (size : ℕ)
    (flush : Bool) (context : C) :
    SendLeaves env s e (streamSendBody env f e s size flush context now).2 := by
  rw [streamSendBody]
  have h1 : Still env op e (kcpCurrentUpdate env e s now) :=
    kcpCurrentUpdate_still hs.toSound hl (streamKcpActive_of_opened hst) now
  have hq1 : Hushed s e (kcpCurrentUpdate env e s now) := Hushed.kcpCurrentUpdate env e now
  set e1 := kcpCurrentUpdate env e s now
  have h2 := h1.trans (sendChunkLoop_still hstill (e1.streams s).config.kcpMss.toNat size e1 context
    size 0 (h1.sound hs.toSound) (h1.calm.liveStream hl) ((h1.calm.state s).trans hst)
    (by rw [h1.calm.connOf]; exact hc))
  have hq2 : (sendChunkLoop f (e1.streams s).config.kcpMss.toNat size e1 context size 0).2.1 = 0 →
      Hushed s e (sendChunkLoop f (e1.streams s).config.kcpMss.toNat size e1 context size 0).2.2 :=
    fun h => hq1.trans (sendChunkLoop_hushed hf (by rw [h1.calm.config]; exact hm) _ _ _ _ h)
  generalize sendChunkLoop f (e1.streams s).config.kcpMss.toNat size e1 context size 0 = r
    at h2 hq2 ⊢
  dsimp only
  set e3 := r.2.2.setStream s { r.2.2.streams s with
    stats := { (r.2.2.streams s).stats with
      upSentBytes := (r.2.2.streams s).stats.upSentBytes + r.2.1 } }
  have hsent : Still env op e e3 :=
    h2.trans (Still.silent (h2.calm.liveStream hl) (.sent r.2.1 ((h2.calm.state s).trans hst)) rfl)
  have hst3 := (hsent.calm.state s).trans hst
  have hl3 := hsent.calm.liveStream hl
  have hend : SendLeaves env s e (if r.2.1 = 0 ∧ flush = false then ((0 : ℤ), e3)
      else ((r.2.1 : ℤ), streamSendFinish env e3 s flush now)).2 := by
    by_cases hz : r.2.1 = 0 ∧ flush = false
    · rw [if_pos hz]
      exact Or.inl ((hq2 hz.1).trans (Hushed.setStream _ s _))
    · rw [if_neg hz]
      have hs3 := Moves.steady hsent.acts.moves hs
      have hd3 : 0 < e3.operationDepth := by
        rw [hsent.calm.depth]
        exact hd
      have hb3 : Batches env e3 := batches_kept.acts hs hsent.acts hb
      have hc3 : (e3.connOf s).state = .connected := by
        rw [hsent.calm.connOf]
        exact hc
      exact Or.inr (streamSendFinish_asked hs3 hd3 hl3 (hnow.mono (hsent.tick hs.toSound)) hst3
        (hb3.stream s hl3 hst3 hc3) flush)
  cases hr : r.1 with
  | none => exact hend
  | some ret =>
      dsimp only
      by_cases hz : r.2.1 = 0
      · rw [if_pos hz]
        exact Or.inl (hq2 hz)
      · rw [if_neg hz]
        exact hend

lemma SendLeaves.of_hushed {e1 e2 : Engine K} (h : Hushed s e e1) (h' : SendLeaves env s e1 e2) :
    SendLeaves env s e e2 := h'.imp_left h.trans

lemma streamSendGuarded_leaves (hf : ChunkHushed s f) (hstill : ChunkStill env op s f) (hs : Steady env e) (hd : 0 < e.operationDepth)
    (hb : Batches env e) (hl : e.LiveStream s) {now : ℤ} (hnow : Read env e.tick now)
    (hm : 0 < (e.streams s).config.kcpMss.toNat) (size : ℕ) (flush : Bool) (context : C) :
    SendLeaves env s e (streamSendGuarded env f e s size flush context now).2 := by
  rw [streamSendGuarded, if_neg (by simp [hl.2])]
  by_cases hg : (e.streams s).state ≠ .opened ∨ (e.connOf s).state ≠ .connected
  · rw [if_pos hg]
    exact Or.inl (.refl e)
  rw [if_neg hg]
  simp only [not_or, not_not, ne_eq] at hg
  by_cases hz : size > 0
  · rw [if_pos hz]
    have h1 : Still env op e (kcpWaitsnd env e s).2 := kcpWaitsnd_still hs.toSound hl
    have hq1 : Hushed s e (kcpWaitsnd env e s).2 := Hushed.kcpAsk e _ _ fun _ => rfl
    dsimp only
    split_ifs
    · refine Or.inl (hq1.trans ?_)
      rw [streamMarkWriteBlocked]
      split_ifs
      · exact .refl _
      · exact Hushed.setStream _ s _
    · exact .of_hushed hq1 (streamSendBody_leaves hf hstill (Moves.steady h1.acts.moves hs)
        (by rw [h1.calm.depth]; exact hd) (batches_kept.acts hs h1.acts hb) (h1.calm.liveStream hl)
        (hnow.mono (h1.tick hs.toSound)) ((h1.calm.state s).trans hg.1)
        (by rw [h1.calm.connOf]; exact hg.2) (by rw [h1.calm.config]; exact hm) _ _ _)
  · rw [if_neg hz]
    exact streamSendBody_leaves hf hstill hs hd hb hl hnow hg.1 hg.2 hm _ _ _

/-- **A send** leaves no work behind that is not asked for. -/
lemma streamSendChunks_unstranded (hop : op.SendsOn s) (hf : ChunkHushed s f)
    (hstill : ChunkStill env op s f) (h : Boundary env e) (hb : Batches env e)
    (hl : e.LiveStream s) (hm : 0 < (e.streams s).config.kcpMss.toNat) (hu : e.Unstranded env s)
    (size : ℕ) (flush vectored : Bool) (context : C) :
    (streamSendChunks env f e s size flush vectored context).2.Unstranded env s := by
  rw [streamSendChunks]
  dsimp only
  generalize hst : (if vectored = true then _ else _ : EngineStats) = st
  have hlife : st.life = e.stats.life := by
    rw [← hst]
    split_ifs <;> rfl
  change (engineOperationLeave env (streamSendGuarded env f
    (engineOperationEnter { e.tock with stats := st }) s size flush context
      (engineNow env e)).2).Unstranded env s
  set e1 : Engine K := engineOperationEnter { e.tock with stats := st }
  have hq : Acts env op e { e with tick := e.tick + 1, stats := st, connStats := e.connStats } :=
    .single (.quiet (Nat.le_succ _) hlife)
  have hs1 : Steady env e1 := Moves.steady (hq.moves.tail .enter) h.toSteady
  have hi1 : Inside env e1 := ⟨hs1.toSound, Nat.succ_pos _⟩
  have hb1 : Batches env e1 := batches_kept.enter (batches_kept.acts h.toSteady hq hb)
  have haside : Aside e e1 :=
    ⟨rfl, rfl, rfl, rfl, rfl, Nat.le_succ _, fun _ => rfl, fun _ _ => rfl⟩
  have hu1 : e1.Unstranded env s := hu.aside haside id
  have hnow : Read env e1.tick (engineNow env e) := ⟨e.tick, Nat.lt_succ_self _, rfl⟩
  have hstill2 := streamSendGuarded_still hstill hop hi1 hl hnow size flush context
  have hleaves := streamSendGuarded_leaves hf hstill hs1 (Nat.succ_pos _) hb1 hl hnow hm size flush
    context
  generalize streamSendGuarded env f e1 s size flush context (engineNow env e) = r
    at hstill2 hleaves ⊢
  have hu2 : r.2.Unstranded env s := by
    rcases hleaves with hh | hno | hask
    · exact hh.unstranded hstill2.calm hl hu1
    · exact fun _ _ _ hun => absurd hun hno
    · exact fun _ _ _ _ => hask
  have hd2 : r.2.operationDepth = 1 := by
    rw [hstill2.calm.depth]
    show e.operationDepth + 1 = 1
    rw [h.depth]
  obtain ⟨h3, h4⟩ := engineOperationLeave_aside (Moves.steady hstill2.acts.moves hs1) hd2
  exact hu2.aside h3 (h4 _)

end

/-- The segment size of a stream is positive. -/
lemma Reachable.kcpMss_pos (h : Reachable env e) (hl : e.LiveStream s) :
    0 < (e.streams s).config.kcpMss.toNat := by
  refine h.eachStream (P := fun _ x _ => x.internalClosed = false → 0 < x.config.kcpMss.toNat)
    (fun op e x evs hx hopen => ?_) (fun op e s x evs _ _ hv hP hopen => ?_) s hl.1 hl.2
  · have hprep : ∀ {config prepared : StreamConfig}, streamConfigPrepare config = some prepared →
        0 < prepared.kcpMss.toNat := by
      intro config prepared hc
      rw [streamConfigPrepare] at hc
      split_ifs at hc with hbad
      obtain rfl := Option.some.inj hc
      refine Nat.pos_of_ne_zero fun h0 => hbad (Or.inr (Or.inr (Or.inl ?_)))
      exact UInt16.toNat.inj (h0.trans UInt16.toNat_zero.symm)
    cases hx with
    | live _ _ hx =>
        cases hx with
        | «local» _ hc => exact hprep hc
        | peer _ _ hc => exact hprep hc
    | dead _ hx =>
        rw [hx.1] at hopen
        cases hopen
  · cases hv with
    | trans hl _ h =>
        have hP := hP hl.2
        cases h with
        | output =>
            dsimp only
            split_ifs <;> exact hP
        | flow h =>
            obtain ⟨_, _, _, _, _, rfl⟩ := h.record
            exact hP
        | _ => exact hP
    | last => cases hopen
    | final => cases hopen
    | same => exact hP hopen
    | release => exact hP hopen

/-- **A send**, flat or vectored. -/
lemma Reachable.sent_unstranded (h : Reachable env e) (hop : op.SendsOn s) (hv : op.Valid e)
    (hu : e.Unstranded env s) : (op.exec env e).Unstranded env s := by
  rcases hop with ⟨b, flush, rfl⟩ | ⟨iov, flush, rfl⟩
  · have hop : (Call.streamSend s b flush).SendsOn s := Or.inl ⟨b, flush, rfl⟩
    show (streamSend env e s b flush).2.Unstranded env s
    rw [streamSend]
    split_ifs
    · exact hu
    · exact streamSendChunks_unstranded hop (streamSendContiguousChunk_hushed env s)
        (streamSendContiguousChunk_still hop) h.boundary h.batches hv.1 (h.kcpMss_pos hv.1) hu _ _ _ _
  · have hop : (Call.streamSendv s iov flush).SendsOn s := Or.inr ⟨iov, flush, rfl⟩
    show (streamSendv env e s iov flush).2.Unstranded env s
    rw [streamSendv]
    split_ifs
    · exact hu
    · exact streamSendChunks_unstranded hop (streamSendVectoredChunk_hushed env s)
        (streamSendVectoredChunk_still hop) h.boundary h.batches hv.1 (h.kcpMss_pos hv.1) hu _ _ _ _

/-! ### A close -/

/-- The KCP instance of the stream is driven. -/
def Engine.Driven (e : Engine K) (s : ℕ) : Prop :=
  e.LiveStream s ∧ streamKcpActive (e.streams s) = true

lemma Acts.driven_of (ha : Acts env op e e') (hs : Steady env e) (hk : s < e.nstreams)
    (h : e'.Driven s) : e.Driven s := by
  induction ha with
  | refl => exact h
  | @tail e1 e2 hpre hstep ih =>
      have hs1 := Moves.steady (Acts.moves hpre) hs
      have hk1 : s < e1.nstreams := lt_of_lt_of_le hk (Acts.grows hpre hs.toOwn).nstreams
      refine ih ⟨((hstep.grows hs1.toOwn).liveStream hk1 h.1).1, ?_⟩
      cases hstep.streamTimed hs1 hk1 h.1 with
      | kept hx => exact hx ▸ h.2
      | trans _ hx => exact hx.active_of h.2

/-- `kcpmux_stream_advance_local_close` asks the KCP instance at most, or the drain is over. -/
lemma streamAdvanceLocalClose_rests (hs : Steady env e) (hd : 0 < e.operationDepth)
    (hl : e.LiveStream s) (hst : (e.streams s).state = .closing) :
    Hushed s e (streamAdvanceLocalClose env e s) ∧ Calm e (streamAdvanceLocalClose env e s) ∨
      ¬ (streamAdvanceLocalClose env e s).Driven s := by
  rw [streamAdvanceLocalClose]
  by_cases hg : (e.streams s).internalClosed = true ∨ (e.streams s).closePhase ≠ .localDrain
  · rw [if_pos hg]
    exact Or.inl ⟨.refl e, Calm.refl e⟩
  rw [if_neg hg]
  have hp : (e.streams s).closePhase = .localDrain := by
    simpa using fun h => hg (Or.inr h)
  have hi : Inside env e := ⟨hs.toSound, hd⟩
  have h1 : Still env (.streamClose s) e (kcpWaitsnd env e s).2 := kcpWaitsnd_still hs.toSound hl
  dsimp only
  by_cases hw : (kcpWaitsnd env e s).1 = 0
  swap
  · rw [if_pos hw]
    exact Or.inl ⟨Hushed.kcpAsk e _ _ fun _ => rfl, h1.calm⟩
  rw [if_neg (not_not.mpr hw)]
  right
  have hl1 := h1.calm.liveStream hl
  have htr : (kcpWaitsnd env e s).2.trace = .kcp s (.waitsnd 0) :: e.trace := by rw [← hw]; rfl
  obtain ⟨h2, hl2⟩ : Act env (.streamClose s) _ _ ∧ _ :=
    streamFirstClose_act (h1.inside hi) hl1 hst hp htr rfl
  have hph : ((streamSendClose env (((kcpWaitsnd env e s).2.setClosePhase s .waitAck).setStream s
      { ((kcpWaitsnd env e s).2.setClosePhase s .waitAck).streams s with retryCount := 0 }) s
      closeReasonNormal).2.streams s).closePhase = .waitAck := by
    obtain ⟨now, m, t, r, st, cs, ok, -, -, -, -, heq⟩ := streamSendClose_did env
      (e := ((kcpWaitsnd env e s).2.setClosePhase s .waitAck).setStream s
        { ((kcpWaitsnd env e s).2.setClosePhase s .waitAck).streams s with retryCount := 0 })
      (s := s) (h1.inside hi).depth
      (by simp only [Engine.setStream, Engine.setClosePhase, Function.update_self]; exact hl1.2)
      ((h1.inside hi).stream_owner hl1) closeReasonNormal
    rw [heq]
    simp [Engine.stepStream, Engine.setStream, Engine.setClosePhase]
  split_ifs
  · have hs2 := Moves.steady (.single (.act h2)) (Moves.steady h1.acts.moves hs)
    exact fun hdr => streamCloseInternal_dead hs2
      (Acts.inside (.single h2) (h1.inside hi)).depth hl2 _ hdr.1
  · rintro ⟨hlive, hact⟩
    have hpd := (Act.sound h2 (h1.inside hi).toSound).phased s hlive
    rw [streamKcpActive, hph] at hact
    rcases hpd with ⟨hso, hpo⟩ | ⟨hsc, -⟩
    · rw [hph] at hpo
      cases hpo
    · rw [hsc] at hact
      cases hact

/-- **A local close** has the work of the stream done at once. -/
lemma Reachable.closed_unstranded (h : Reachable env e) (hl : e.LiveStream s)
    (hu : e.Unstranded env s) : ((Call.streamClose s).exec env e).Unstranded env s := by
  have hb := h.boundary
  set e0 := engineOperationEnter { e with stats := { e.stats with
    apiStreamCloseCalls := e.stats.apiStreamCloseCalls + 1 } } with he0
  have hq0 : Acts env (.streamClose s) e
      { e with tick := e.tick, stats := { e.stats with
        apiStreamCloseCalls := e.stats.apiStreamCloseCalls + 1 }, connStats := e.connStats } :=
    .single (.quiet le_rfl rfl)
  have hs0 : Steady env e0 := Moves.steady (hq0.moves.tail .enter) hb.toSteady
  have hi0 : Inside env e0 := ⟨hs0.toSound, Nat.succ_pos _⟩
  have hl0 : e0.LiveStream s := hl
  have hu0 : e0.Unstranded env s :=
    hu.aside ⟨rfl, rfl, rfl, rfl, rfl, le_rfl, fun _ => rfl, fun _ _ => rfl⟩ id
  -- what is left to do when the close has come to `e1`
  have hleave : ∀ {e1 : Engine K}, Acts env (.streamClose s) e0 e1 → e1.Unstranded env s →
      (engineOperationLeave env e1).Unstranded env s := by
    intro e1 ha hu1
    have hd1 : e1.operationDepth = 1 := by
      rw [(ha.grows hs0.toOwn).depth]
      show e.operationDepth + 1 = 1
      rw [hb.depth]
    obtain ⟨h3, h4⟩ := engineOperationLeave_aside (Moves.steady ha.moves hs0) hd1
    exact hu1.aside h3 (h4 _)
  have henter : ({ engineOperationEnter e with stats := { (engineOperationEnter e).stats with
      apiStreamCloseCalls := (engineOperationEnter e).stats.apiStreamCloseCalls + 1 } } : Engine K) =
      e0 := rfl
  have hq : Still env (.streamClose s) e0 e0.tock := Still.quiet (Nat.le_succ _) rfl
  have hnow : Read env e0.tock.tick (engineNow env e0) := ⟨e0.tick, Nat.lt_succ_self _, rfl⟩
  rw [Call.exec, streamClose, henter]
  cases hst : (e0.streams s).state with
  | closing =>
      dsimp only
      by_cases hp : (e0.streams s).closePhase = .remoteDrain
      · rw [if_pos hp]
        have h1 : Act env (.streamClose s) e0.tock _ := (streamScheduleFinalize_act (hq.inside hi0).toOwn
          (hq.calm.liveStream hl0) hnow closeReasonNormal hst (Or.inr (Or.inr hp))).act (hq.inside hi0)
        refine hleave (hq.acts.tail h1) fun hl1 _ hact _ => ?_
        have hdr := Acts.driven_of (hq.acts.tail h1) hs0 hl0.1 ⟨hl1, hact⟩
        rw [Engine.Driven, streamKcpActive, hst, hp] at hdr
        cases hdr.2
      · rw [if_neg hp]
        exact hleave .refl hu0
  | closed => exact hleave .refl hu0
  | error => exact hleave .refl hu0
  | opened =>
      obtain ⟨h1, hl1, hs1, hp1⟩ : Act env (.streamClose s) _ _ ∧ _ :=
        streamStartClose_act (hq.inside hi0) (hq.calm.liveStream hl0) rfl hnow hst rfl rfl
      have h2 : Acts env (.streamClose s) e0 _ := hq.acts.tail h1
      have hi2 := h2.inside hi0
      have hs2 := Moves.steady h2.moves hs0
      dsimp only
      split_ifs
      · refine hleave (h2.tail (streamCloseInternal_act hi2 hl1 _)) fun hlive => ?_
        exact absurd hlive (streamCloseInternal_dead hs2 hi2.depth hl1 _)
      · have hread := hnow.mono (Acts.tick (.single h1) (hq.inside hi0).toOwn)
        have h3 : Still env (.streamClose s) _ _ := schedule_still hi2 hl1
          (.wake (hread.mono (Nat.le_succ _)) (by rw [streamKcpActive, hs1, hp1]; rfl))
        have hask := engineScheduleTimerNode_asked hs2 hl1 rfl hi2.depth hread
        have hs3 := Moves.steady h3.acts.moves hs2
        have hl3 := h3.calm.liveStream hl1
        have hst3 := (h3.calm.state s).trans hs1
        refine hleave ((h2.trans h3.acts).trans (streamAdvanceLocalClose_acts (h3.inside hi2) hl3 hst3)) ?_
        rcases streamAdvanceLocalClose_rests hs3 (h3.inside hi2).depth hl3 hst3 with ⟨hh, hcalm⟩ | hno
        · exact hh.unstranded hcalm hl3 fun _ _ _ _ => hask
        · exact fun hlive _ hact _ => absurd ⟨hlive, hact⟩ hno

end KcpMux
