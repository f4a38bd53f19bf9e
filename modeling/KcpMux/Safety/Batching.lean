import KcpMux.Safety.Timers

/-!
Batched work.

The counter `pending_count` of a stream is at once the number of operations since the last update
and the mark of a stream whose update has been asked for, and `pending_batch_streams` lists the
streams in between.  `Batches` relates counter, list and timer node for the `OPEN` streams of
`CONNECTED` connections.

* `batching_list`: it holds in every run between two operations, and
  `kcpmux_engine_finish_batch` leaves the list empty.
-/

namespace KcpMux

variable {K : Type} {env : Env K} {op : Call} {e e' : Engine K} {o : Owner} {s : ℕ}

/-! ### One record -/

/-- The counter of the stream `x` fits its place in the list. -/
structure Stream.Tallied (x : Stream K) (listed : Prop) : Prop where
  listed_iff : listed ↔ 0 < x.pendingCount ∧ x.pendingCount < x.config.batchThreshold
  le : x.pendingCount ≤ x.config.batchThreshold
  unbatched : x.config.batchThreshold ≤ 1 → x.pendingCount = 0

/-- The update of the stream `x` has been asked for. -/
def Stream.Full (x : Stream K) : Prop :=
  x.pendingCount = x.config.batchThreshold ∧ 1 < x.config.batchThreshold

lemma Stream.Full.ne_zero {x : Stream K} (h : x.Full) : x.pendingCount ≠ 0 := by
  intro h0
  have h1 := h.2
  rw [← h.1, h0] at h1
  exact absurd h1 (by decide)

lemma Stream.Tallied.congr {x x' : Stream K} {l l' : Prop} (h : x.Tallied l)
    (hp : x'.pendingCount = x.pendingCount) (hc : x'.config = x.config) (hl : l' ↔ l) :
    x'.Tallied l' := by
  constructor
  · rw [hl, hp, hc]
    exact h.listed_iff
  · rw [hp, hc]
    exact h.le
  · rw [hp, hc]
    exact h.unbatched

/-- A stream without work that is not listed. -/
lemma Stream.tallied_zero {x : Stream K} {l : Prop} (h : x.pendingCount = 0) (hl : ¬ l) :
    x.Tallied l where
  listed_iff := by simp [h, hl]
  le := by
    rw [h]
    exact UInt32.zero_le
  unbatched _ := h

lemma uint32_succ_lt {a b : UInt32} (h : a < b) (hne : a + 1 ≠ b) : 0 < a + 1 ∧ a + 1 < b := by
  have hb := b.toNat_lt
  rw [UInt32.lt_iff_toNat_lt] at h
  have hne' : (a + 1).toNat ≠ b.toNat := fun heq => hne (UInt32.toNat_inj.mp heq)
  have h1 : (a + 1).toNat = a.toNat + 1 := by
    rw [UInt32.toNat_add]
    exact Nat.mod_eq_of_lt (by simp; omega)
  rw [UInt32.lt_iff_toNat_lt, UInt32.lt_iff_toNat_lt, h1]
  exact ⟨Nat.succ_pos _, by omega⟩

section

variable {t : ℕ} {conn : Conn} {x x' : Stream K} {evs : List Event} {mv : TimerMove} {p : PendMove}

lemma StreamTrans.opened_of (h : StreamTrans env op e t s conn x x' evs mv p)
    (hs : x'.state = .opened) : x.state = .opened := by
  cases h with
  | output => split_ifs at hs <;> exact hs
  | flow h =>
      obtain ⟨_, _, _, _, _, rfl⟩ := h.record
      exact hs
  | startClose => cases hs
  | reject => cases hs
  | remoteClose => cases hs
  | _ => exact hs

/-- **A step keeps the counter right.** -/
lemma StreamTrans.tallied (h : StreamTrans env op e t s conn x x' evs mv p)
    (hs : x'.state = .opened) {l : List ℕ} (hl : l.Nodup) (hx : x.Tallied (s ∈ l)) :
    x'.Tallied (s ∈ p.apply s l) := by
  have herase : s ∉ PendMove.erase.apply s l := hl.not_mem_erase
  cases h with
  | output =>
      split_ifs
      · exact hx.congr rfl rfl Iff.rfl
      · exact hx
  | flow h =>
      obtain ⟨_, _, _, _, _, rfl⟩ := h.record
      exact hx.congr rfl rfl Iff.rfl
  | clear => exact Stream.tallied_zero rfl herase
  | bump _ h1 h2 h3 =>
      have hlt := uint32_succ_lt h2 h3
      refine ⟨⟨fun _ => hlt, fun _ => ?_⟩, UInt32.le_of_lt hlt.2, fun hle => ?_⟩
      · by_cases h0 : x.pendingCount = 0
        · simp [h0, PendMove.apply]
        · rw [if_neg h0]
          exact hx.listed_iff.mpr ⟨UInt32.pos_iff_ne_zero.mpr h0, h2⟩
      · exact absurd h1 (UInt32.not_lt.mpr hle)
  | fill _ _ h1 h3 =>
      exact ⟨by simp [herase, h3], UInt32.le_of_eq h3, fun hle => absurd h1 (UInt32.not_lt.mpr hle)⟩
  | finish =>
      by_cases h1 : x.config.batchThreshold > 1
      · rw [if_pos h1]
        exact ⟨by simp [herase], UInt32.le_refl _, fun hle => absurd h1 (UInt32.not_lt.mpr hle)⟩
      · rw [if_neg h1]
        exact Stream.tallied_zero rfl herase
  | config => exact Stream.tallied_zero rfl herase
  | finalizeSoon => exact Stream.tallied_zero rfl herase
  | startClose => cases hs
  | reject => cases hs
  | remoteClose => cases hs
  | _ => exact hx.congr rfl rfl Iff.rfl

/-- **A step and a stream whose update has been asked for.**  It was so before and the timer node
stays, or the node is set for the time of the step. -/
lemma StreamTrans.full (h : StreamTrans env op e t s conn x x' evs mv p)
    (hs : x'.state = .opened) (hf : x'.Full) :
    (mv = .keep ∧ x.Full) ∨ ∃ now, mv = .schedule now now ∧ Read env t now := by
  cases h with
  | output =>
      refine Or.inl ⟨rfl, ?_⟩
      split_ifs at hf <;> exact hf
  | flow h =>
      obtain ⟨_, _, _, _, _, rfl⟩ := h.record
      exact Or.inl ⟨rfl, hf⟩
  | clear => exact absurd rfl hf.ne_zero
  | bump _ _ _ h3 => exact absurd hf.1 h3
  | fill hnow => exact Or.inr ⟨_, rfl, hnow⟩
  | finish hnow => exact Or.inr ⟨_, rfl, hnow⟩
  | wake hnow => exact Or.inr ⟨_, rfl, hnow⟩
  | poll _ _ hp => exact absurd hp hf.ne_zero
  | refresh _ hcl =>
      rw [hcl] at hs
      cases hs
  | config => exact absurd rfl hf.ne_zero
  | waitAck _ hcl =>
      rw [hcl] at hs
      cases hs
  | resend _ hcl =>
      rw [hcl] at hs
      cases hs
  | startClose => cases hs
  | reject => cases hs
  | remoteClose => cases hs
  | finalizeSoon => exact absurd rfl hf.ne_zero
  | _ => exact Or.inl ⟨rfl, hf⟩

end

/-! ### Runs -/

/-- The batched work of the stream `s` is remembered. -/
structure Engine.Remembers (env : Env K) (e : Engine K) (s : ℕ) : Prop where
  armed : (e.timerManager.node (.stream s)).state ≠ .idle
  tallied : (e.streams s).Tallied (s ∈ e.pendingBatchStreams)
  full : (e.streams s).Full → Read env e.tick (e.timerManager.node (.stream s)).deadlineMs

/-- **Counters, list and timer nodes fit.** -/
structure Batches (env : Env K) (e : Engine K) : Prop where
  joined : ∀ s, e.LiveStream s → (e.connOf s).Joined
  stream : ∀ s, e.LiveStream s → (e.streams s).state = .opened →
    (e.connOf s).state = .connected → e.Remembers env s

/-- A stream that is listed has work that was not asked for. -/
lemma Engine.Remembers.batched (h : e.Remembers env s) (hs : (e.streams s).state = .opened)
    (hc : (e.connOf s).state = .connected) (hm : s ∈ e.pendingBatchStreams) : e.Batched s := by
  obtain ⟨h1, h2⟩ := h.tallied.listed_iff.mp hm
  exact ⟨UInt32.pos_iff_ne_zero.mp h1, hs, hc, fun _ => h2⟩

/-- Every step keeps the work of an old stream. -/
lemma StreamTimed.remembers (h : StreamTimed env op e e' s) (hs : Steady env e)
    (ht : e.tick ≤ e'.tick) (hl : e.LiveStream s) (hst : (e'.streams s).state = .opened)
    (hc : (e.connOf s).state = .connected)
    (hr : (e.streams s).state = .opened → e.Remembers env s) : e'.Remembers env s := by
  cases h with
  | kept hx hn _ hp =>
      rw [hx] at hst
      have hr := hr hst
      have hlist : s ∈ e'.pendingBatchStreams ↔ s ∈ e.pendingBatchStreams := by
        rcases hp with hp | ⟨hm, hb⟩
        · exact hp
        · exact absurd (hr.batched hst hc hm) hb
      refine ⟨?_, ?_, ?_⟩
      · rw [hn.state]
        exact hr.armed
      · exact hr.tallied.congr (by rw [hx]) (by rw [hx]) hlist
      · rw [hx, hn.deadlineMs]
        exact fun hf => (hr.full hf).mono ht
  | trans _ hx hn _ hp =>
      have hr := hr (hx.opened_of hst)
      refine ⟨?_, ?_, fun hf => ?_⟩
      · rcases hx.rearms (hs.phased s hl) (hs.settled s hl) hc with ⟨rfl, -⟩ | ⟨d, now, rfl, -, -⟩
        · have hsame : TimerNode.SameBut _ _ := hn
          rw [hsame.state]
          exact hr.armed
        · rw [hn.1]
          decide
      · rw [hp]
        exact hx.tallied hst hs.batch.1 hr.tallied
      · rcases hx.full hst hf with ⟨rfl, hf⟩ | ⟨now, rfl, hnow⟩
        · have hsame : TimerNode.SameBut _ _ := hn
          rw [hsame.deadlineMs]
          exact (hr.full hf).mono ht
        · rw [hn.2, max_self]
          exact hnow

lemma Act.batches (ha : Act env op e e') (hs : Steady env e) (h : Batches env e) :
    Batches env e' where
  joined _ hl := ha.joined hs h.joined hl
  stream s hl hst hc := by
    have hg := ha.grows hs.toOwn
    by_cases hk : s < e.nstreams
    · have hl0 := (hg.liveStream hk hl).1
      have hc0 := ha.connected hs h.joined hk hl hc
      exact (ha.streamTimed hs hk hl).remembers hs hg.tick hl0 hst hc0 fun hst0 =>
        h.stream s hl0 hst0 hc0
    · have hf := ha.streamFresh hs hk hl
      exact ⟨by simp [hf.node], Stream.tallied_zero hf.pendingCount hf.batch,
        fun hfull => absurd hf.pendingCount hfull.ne_zero⟩

lemma Batches.aside (h : Batches env e) (ha : Aside e e')
    (hn : ∀ s, e.LiveStream s → (e.streams s).state = .opened → (e.connOf s).state = .connected →
      (e'.timerManager.node (.stream s)).state = .idle →
        (e.timerManager.node (.stream s)).state = .idle) : Batches env e' where
  joined s hl := by
    rw [ha.connOf]
    exact h.joined s (ha.liveStream.mp hl)
  stream s hl hst hc := by
    rw [ha.connOf] at hc
    rw [ha.streams] at hst
    have hl := ha.liveStream.mp hl
    have hr := h.stream s hl hst hc
    refine ⟨fun hi => hr.armed (hn s hl hst hc hi), ?_, ?_⟩
    · rw [ha.streams, ha.batch]
      exact hr.tallied
    · rw [ha.streams, ha.deadline]
      exact fun hf => (hr.full hf).mono ha.tick

/-- A stream does not come back to `OPEN`. -/
lemma Acts.opened_of (ha : Acts env op e e') (hs : Steady env e) (hk : s < e.nstreams)
    (hl : e'.LiveStream s) (hst : (e'.streams s).state = .opened) :
    (e.streams s).state = .opened := by
  induction ha with
  | refl => exact hst
  | @tail e1 e2 hpre hstep ih =>
      have hs1 := Moves.steady (Acts.moves hpre) hs
      have hg := hstep.grows hs1.toOwn
      have hk1 : s < e1.nstreams := lt_of_lt_of_le hk (Acts.grows hpre hs.toOwn).nstreams
      refine ih (hg.liveStream hk1 hl).1 ?_
      cases hstep.streamTimed hs1 hk1 hl with
      | kept hx => exact hx ▸ hst
      | trans _ hx => exact hx.opened_of hst

/-- A round of the dispatch loop: the callback of an `OPEN` stream sets its timer again. -/
lemma Round.batches {now : ℤ} (hr : Round env now e) {rest : List Owner}
    (hd : e.timerManager.due = o :: rest)
    (h2 : Batches env (timeoutCallback env o now (engineDispatchBegin e o))) :
    Batches env (engineDispatch env now e o) := by
  have hs1 := hr.toSteady.dispatch hd
  rw [engineDispatch]
  refine h2.aside (engineDispatchEnd_aside _ o) fun s hl hst hc hi => ?_
  by_cases hso : .stream s = o
  swap
  · rwa [engineDispatchEnd_node_of_ne hso] at hi
  subst hso
  have hlive : e.LiveStream s := hr.live_of_due (o := .stream s) (by simp [hd])
  have hst1 : (e.streams s).state = .opened :=
    (hr.callback hd).opened_of hs1 (s := s) hlive.1 hl hst
  by_cases hc1 : ((engineDispatchBegin e (.stream s)).connOf s).state = .connected
  · have hheap : StreamServed (streamUpdate env (engineDispatchBegin e (.stream s)) s now) s := by
      have hset := hs1.settled s hlive
      have hst0 : ((engineDispatchBegin e (.stream s)).streams s).state = .opened := hst1
      rw [streamUpdate, if_neg (by simp [hset, hc1]; exact hlive.2), hst0]
      exact streamUpdateOpen_served hs1 (hr.inside hd).depth hlive hst1 hr.read
    rcases hheap with hdead | hheap
    · exact absurd hl hdead
    · rwa [engineDispatchEnd_of_ne (by rw [timeoutCallback, hheap]; decide)] at hi
  · rw [timeoutCallback, streamUpdate, if_pos (Or.inr (Or.inr hc1))] at hc
    exact absurd hc hc1

/-- **Counters, list and timer nodes fit in every run.** -/
lemma batches_kept : Kept env (Batches env) where
  act _ _ _ hs ha h := ha.batches hs h
  aside _ _ ha hn h := h.aside ha fun s _ _ _ => hn (.stream s)
  round _ _ _ _ _ hr hd _ _ h2 := hr.batches hd h2

lemma Reachable.batches (h : Reachable env e) : Batches env e := by
  refine batches_kept.reachable (fun connConfig streamConfig e h => ?_) h
  obtain ⟨cc, sc, id, -, rfl⟩ := engineCreate_eq h
  exact ⟨by simp [Engine.LiveStream, engineBlank], by simp [Engine.LiveStream, engineBlank]⟩

/-! ### The loop -/

lemma engineScheduleTimerNode_batch (env : Env K) (e : Engine K) (o : Owner) (d now : ℤ) :
    (engineScheduleTimerNode env e o d now).2.pendingBatchStreams = e.pendingBatchStreams := by
  rw [engineScheduleTimerNode]
  dsimp only
  generalize (if d < now then now else d) = deadline
  split_ifs
  · rfl
  · obtain ⟨a, d, evs, heq, -⟩ := engineRearmTimer_eq
      { e.tock with timerManager := (timerSchedule e.timerManager o deadline (env.alloc e.tick)).2 } now
    rw [heq]
    rfl
  · rfl

/-- A stream that is finished comes off the list, and no other goes on it. -/
lemma streamFinishBatchAt_batch (env : Env K) (e : Engine K) (s : ℕ) (now : ℤ) :
    (streamFinishBatchAt env e s now).pendingBatchStreams.length ≤ e.pendingBatchStreams.length := by
  rw [streamFinishBatchAt]
  dsimp only
  split_ifs
  all_goals first
    | exact le_rfl
    | rw [engineScheduleTimerNode_batch]
      exact List.length_erase_le

/-- **The loop of `kcpmux_engine_finish_batch` empties the list.** -/
lemma engineFinishBatchLoop_batch (env : Env K) (now : ℤ) (rounds : ℕ) (e : Engine K)
    (h : e.pendingBatchStreams.length ≤ rounds) :
    (engineFinishBatchLoop env now rounds e).pendingBatchStreams = [] := by
  induction rounds generalizing e with
  | zero => exact List.length_eq_zero_iff.mp (Nat.le_zero.mp h)
  | succ rounds ih =>
      rw [engineFinishBatchLoop]
      cases hp : e.pendingBatchStreams with
      | nil => exact hp
      | cons s rest =>
          refine ih _ ((streamFinishBatchAt_batch env _ s now).trans ?_)
          rw [hp] at h
          exact Nat.le_of_succ_le_succ h

lemma Boundary.finishBatch (h : Boundary env e) :
    (engineFinishBatch env e).pendingBatchStreams = [] := by
  have hq : Acts env .finishBatch e e.tock := .single (quiet_act .finishBatch (Nat.le_succ _))
  have hi : Inside env (engineOperationEnter e.tock) := (hq.sound h.toSound).enter e.tock.stats rfl
  rw [engineFinishBatch]
  have hacts : Acts env .finishBatch (engineOperationEnter e.tock)
      (engineFinishBatchLoop env (engineNow env e)
        (engineOperationEnter e.tock).pendingBatchStreams.length (engineOperationEnter e.tock)) :=
    engineFinishBatchLoop_acts _ hi ⟨e.tick, Nat.lt_succ_self _, rfl⟩
  have hd := (hacts.grows hi.toOwn).depth
  obtain ⟨armed, deadline, evs, heq, -⟩ := engineOperationLeave_did env
    (hd.trans (congrArg (· + 1) h.depth))
  rw [heq]
  exact engineFinishBatchLoop_batch env _ _ _ le_rfl

/-- **The batching list.**  In every run, between two operations, for every live `OPEN` stream of a
`CONNECTED` connection: it is listed iff its counter lies strictly between zero and the threshold,
and then once; the counter does not pass the threshold, and stays zero where there is no batching;
where it has reached the threshold, the timer node is in the heap for a time that has come.  The
list has live streams only, and `kcpmux_engine_finish_batch` leaves it empty. -/
theorem batching_list (h : Reachable env e) {t : ℤ} (ht : ∀ now, Read env e.tick now → now ≤ t) :
    (∀ s, e.LiveStream s → (e.streams s).state = .opened → (e.connOf s).state = .connected →
      (s ∈ e.pendingBatchStreams ↔ 0 < (e.streams s).pendingCount ∧
        (e.streams s).pendingCount < (e.streams s).config.batchThreshold) ∧
      (s ∈ e.pendingBatchStreams → e.pendingBatchStreams.count s = 1) ∧
      (e.streams s).pendingCount ≤ (e.streams s).config.batchThreshold ∧
      ((e.streams s).config.batchThreshold ≤ 1 → (e.streams s).pendingCount = 0) ∧
      ((e.streams s).pendingCount = (e.streams s).config.batchThreshold →
        1 < (e.streams s).config.batchThreshold →
        e.Armed (.stream s) ∧ (e.timerManager.node (.stream s)).deadlineMs ≤ t)) ∧
    (∀ s ∈ e.pendingBatchStreams, e.LiveStream s) ∧
    (Call.finishBatch.exec env e).pendingBatchStreams = [] := by
  have hb := h.boundary
  refine ⟨fun s hl hst hc => ?_, fun s hm => (hb.batch.2 s hm).1, hb.finishBatch⟩
  have hr := h.batches.stream s hl hst hc
  refine ⟨hr.tallied.listed_iff, List.count_eq_one_of_mem hb.batch.1, hr.tallied.le,
    hr.tallied.unbatched, fun h1 h2 => ⟨hb.armed hr.armed, ht _ (hr.full ⟨h1, h2⟩)⟩⟩

/-- The stream gets a threshold of two. -/
def thresholded : Engine Unit :=
  (Call.streamSetConfig 0 { streamConfigInit with batchThreshold := 2 }).exec stoppingHost opening

/-- The first operation of a batch. -/
def batching : Engine Unit := (Call.streamSend 0 [1] false).exec stoppingHost thresholded

/-- The second one, which fills it. -/
def batchFull : Engine Unit := (Call.streamSend 0 [2] false).exec stoppingHost batching

lemma thresholded_reachable : Reachable stoppingHost thresholded :=
  opening_reachable.call _ ⟨⟨by decide +kernel, by decide +kernel⟩, not_rejectedStream (by decide +kernel)⟩

lemma batching_reachable : Reachable stoppingHost batching :=
  thresholded_reachable.call _ ⟨⟨by decide +kernel, by decide +kernel⟩,
    not_rejectedStream (by decide +kernel)⟩

lemma batchFull_reachable : Reachable stoppingHost batchFull :=
  batching_reachable.call _ ⟨⟨by decide +kernel, by decide +kernel⟩,
    not_rejectedStream (by decide +kernel)⟩

/-- A stream that is listed, and one whose update has been asked for. -/
theorem batching_list_full :
    (0 ∈ batching.pendingBatchStreams ∧ batching.pendingBatchStreams.count 0 = 1 ∧
      (Call.finishBatch.exec stoppingHost batching).pendingBatchStreams = []) ∧
    (batchFull.streams 0).pendingCount = 2 ∧ batchFull.Armed (.stream 0) ∧
      (batchFull.timerManager.node (.stream 0)).deadlineMs ≤ 1000 := by
  have ht : ∀ (e : Engine Unit) now, Read stoppingHost e.tick now → now ≤ 1000 := by
    rintro e now ⟨k, -, rfl⟩
    exact min_le_right _ _
  obtain ⟨h1, -, h3⟩ := batching_list batching_reachable (ht batching)
  obtain ⟨h4, -, -⟩ := batching_list batchFull_reachable (ht batchFull)
  have hm : 0 ∈ batching.pendingBatchStreams := by decide +kernel
  obtain ⟨-, hcount, -, -, -⟩ := h1 0 ⟨by decide +kernel, by decide +kernel⟩ (by decide +kernel)
    (by decide +kernel)
  obtain ⟨-, -, -, -, hfull⟩ := h4 0 ⟨by decide +kernel, by decide +kernel⟩ (by decide +kernel)
    (by decide +kernel)
  exact ⟨⟨hm, hcount hm, h3⟩, by decide +kernel, hfull (by decide +kernel) (by decide +kernel)⟩

end KcpMux
