import KcpMux.Runs.Nodes
import KcpMux.Safety.ConnDeadline
import KcpMux.Safety.Dispatch
import KcpMux.Safety.PeerStreams

/-!
No live object is left without a timer.

The deadline of a connection is a function of its record; that of a stream is for the KCP
instance to say, except in the close phases in which the stream waits for the peer or for the
reader.  `Timed` relates records, timer nodes and the clock: every step keeps it
(`Act.timed`), and a timer callback sets the node again or finalises its object
(`connUpdate_rearmed`, `streamUpdate_rearmed`).

* `timers_armed`: between two operations the node of every live connection and stream is in the
  heap, for a time that is not too late, and a callback never comes too early for its phase.
-/

namespace KcpMux

variable {K : Type} {env : Env K} {op : Call} {e e' : Engine K} {o : Owner} {c s : ℕ}

/-! ### The deadline of a stream -/

/-- The due time of a close phase in which a stream waits for the peer or for the reader. -/
def Stream.phaseDeadline (x : Stream K) : Option ℤ :=
  match x.closePhase with
  | .waitAck => some (deadlineAfter x.lastCtrlTs x.config.ctrlTimeoutMs)
  | .remoteDrain => some (deadlineAfter x.drainStartedTs x.config.drainTimeoutMs)
  | .none | .localDrain | .finalize => none

lemma Stream.Phased.phaseDeadline_of_opened {x : Stream K} (hp : x.Phased) (hs : x.state = .opened) :
    x.phaseDeadline = none := by
  rcases hp with ⟨-, hp⟩ | ⟨hs', -⟩
  · rw [Stream.phaseDeadline, hp]
  · rw [hs] at hs'
    cases hs'

/-- A stream whose KCP instance is driven waits for nothing else. -/
lemma Stream.Phased.phaseDeadline_of_active {x : Stream K} (hp : x.Phased)
    (ha : streamKcpActive x = true) : x.phaseDeadline = none := by
  rcases hp with ⟨hs, hp⟩ | ⟨hs, hp⟩
  · rw [Stream.phaseDeadline, hp]
  · rw [streamKcpActive, hs] at ha
    rw [Stream.phaseDeadline]
    cases hph : x.closePhase <;> simp_all

/-- A refresh of the timer of a stream of a `CONNECTED` connection. -/
lemma refreshMove_schedule {conn : Conn} {x : Stream K} (hc : conn.internalClosed = false)
    (hs : conn.state = .connected) (hp : x.Phased) (now r : ℤ) :
    ∃ d, refreshMove conn x now r = .schedule d now ∧ ∀ d', x.phaseDeadline = some d' → d = d' := by
  rw [refreshMove, refreshDeadline, if_neg (by simp [hc, hs])]
  rcases hp with ⟨hst, hph⟩ | ⟨hst, hph⟩
  · rw [hst]
    exact ⟨r, rfl, by simp [Stream.phaseDeadline, hph]⟩
  · rw [hst, Stream.phaseDeadline]
    cases hp : x.closePhase with
    | none => exact absurd hp hph
    | localDrain => exact ⟨_, rfl, by simp⟩
    | waitAck => exact ⟨_, rfl, by simp⟩
    | remoteDrain => exact ⟨_, rfl, by simp⟩
    | finalize => exact ⟨_, rfl, by simp⟩

/-- **A step and the deadline of its stream.**  It leaves both alone, or the timer node is set for
the due time of the phase. -/
lemma StreamTrans.rearms {t : ℕ} {conn : Conn} {x x' : Stream K} {evs : List Event}
    {mv : TimerMove} {p : PendMove} (h : StreamTrans env op e t s conn x x' evs mv p)
    (hp : x.Phased) (hc : conn.internalClosed = false) (hs : conn.state = .connected) :
    (mv = .keep ∧ x'.phaseDeadline = x.phaseDeadline) ∨
      ∃ d now, mv = .schedule d now ∧ Read env t now ∧ ∀ d', x'.phaseDeadline = some d' → d = d' := by
  -- a refresh is for the record `y`, which agrees with the new one on the phase
  have hrefresh : ∀ {y : Stream K} {now r : ℤ}, Read env t now → y.Phased →
      x'.phaseDeadline = y.phaseDeadline →
      ∃ d now', refreshMove conn y now r = .schedule d now' ∧ Read env t now' ∧
        ∀ d', x'.phaseDeadline = some d' → d = d' := by
    intro y now r hnow hy heq
    obtain ⟨d, hmv, hd⟩ := refreshMove_schedule hc hs hy now r
    exact ⟨d, now, hmv, hnow, fun d' hd' => hd d' (heq ▸ hd')⟩
  cases h with
  | output =>
      left
      refine ⟨rfl, ?_⟩
      split_ifs <;> rfl
  | flow h =>
      obtain ⟨_, _, _, _, _, rfl⟩ := h.record
      exact Or.inl ⟨rfl, rfl⟩
  | fill hnow ha =>
      refine Or.inr ⟨_, _, rfl, hnow, fun d' hd' => ?_⟩
      cases (hp.phaseDeadline_of_active ha).symm.trans hd'
  | finish hnow hst =>
      refine Or.inr ⟨_, _, rfl, hnow, fun d' hd' => ?_⟩
      cases (hp.phaseDeadline_of_opened hst).symm.trans hd'
  | wake hnow ha =>
      refine Or.inr ⟨_, _, rfl, hnow, fun d' hd' => ?_⟩
      cases (hp.phaseDeadline_of_active ha).symm.trans hd'
  | poll hnow hst =>
      refine Or.inr ⟨_, _, rfl, hnow, fun d' hd' => ?_⟩
      cases (hp.phaseDeadline_of_opened hst).symm.trans hd'
  | refresh hnow => exact Or.inr (hrefresh hnow hp rfl)
  | config hnow => exact Or.inr (hrefresh hnow hp rfl)
  | startClose hnow hnow' => exact Or.inr (hrefresh hnow' (Or.inr ⟨rfl, by simp⟩) rfl)
  | waitAck hnow hst => exact Or.inr (hrefresh hnow (Or.inr ⟨hst, by simp⟩) rfl)
  | reject hnow hnow' => exact Or.inr (hrefresh hnow' (Or.inr ⟨rfl, by simp⟩) rfl)
  | resend hnow hst hph => exact Or.inr (hrefresh hnow (Or.inr ⟨hst, by simp [hph]⟩) rfl)
  | remoteClose hnow hnow' => exact Or.inr (hrefresh hnow' (Or.inr ⟨rfl, by simp⟩) rfl)
  | finalizeSoon hnow =>
      exact Or.inr ⟨_, _, rfl, hnow, by simp [Stream.phaseDeadline]⟩
  | _ => exact Or.inl ⟨rfl, rfl⟩

/-! ### The connection of a stream -/

/-- A connection past its handshake. -/
def Conn.Joined (x : Conn) : Prop := x.state ≠ .init ∧ x.state ≠ .connecting

/-- A connection past its handshake does not come back to it, and is `CONNECTED` only if it was. -/
lemma ConnTrans.joined {t : ℕ} {x x' : Conn} {evs : List Event} {now : Option ℤ}
    (h : ConnTrans env op t c x x' evs now) (hj : x.Joined) :
    x'.Joined ∧ (x'.state = .connected → x.state = .connected) := by
  cases h with
  | connecting _ _ hs => exact absurd hs hj.1
  | established _ hs => exact absurd hs hj.2
  | accept _ _ hs => exact absurd hs hj.1
  | close => exact ⟨⟨by simp, by simp⟩, by simp⟩
  | idle => exact ⟨⟨by simp, by simp⟩, by simp⟩
  | fail => exact ⟨⟨by simp, by simp⟩, by simp⟩
  | _ => exact ⟨hj, id⟩

lemma ConnTimed.joined (h : ConnTimed env op e e' c) (hj : (e.conns c).Joined) :
    (e'.conns c).Joined ∧ ((e'.conns c).state = .connected → (e.conns c).state = .connected) := by
  cases h with
  | kept hx =>
      rw [hx]
      exact ⟨hj, id⟩
  | trans _ h => exact h.joined hj

/-- A handle that is in use and live was live before. -/
lemma Grows.liveConn (h : Grows e e') (hc : c < e.nconns) (hl : e'.LiveConn c) : e.LiveConn c := by
  refine ⟨hc, Bool.eq_false_iff.mpr fun hcl => ?_⟩
  have := (h.conn c hc).2.1 hcl
  rw [hl.2] at this
  cases this

lemma Grows.liveStream (h : Grows e e') (hs : s < e.nstreams) (hl : e'.LiveStream s) :
    e.LiveStream s ∧ (e'.streams s).conn = (e.streams s).conn := by
  refine ⟨⟨hs, Bool.eq_false_iff.mpr fun hcl => ?_⟩, congrArg (fun i => i.2.2) (h.stream s hs).1⟩
  have := (h.stream s hs).2 hcl
  rw [hl.2] at this
  cases this

/-- The connection of a stream that the step finds. -/
lemma Act.connTimed_of (ha : Act env op e e') (hs : Steady env e) (hk : s < e.nstreams)
    (hl : e'.LiveStream s) : ConnTimed env op e e' (e.streams s).conn ∧
      e'.connOf s = e'.conns (e.streams s).conn := by
  obtain ⟨-, hc⟩ := (ha.grows hs.toOwn).liveStream hk hl
  have hlc := (ha.sound hs.toSound).liveConn hl
  rw [hc] at hlc
  exact ⟨ha.connTimed hs (hs.connOf_lt s hk) hlc, by rw [Engine.connOf, hc]⟩

/-- The connection of a live stream is past its handshake. -/
lemma Act.joined (ha : Act env op e e') (hs : Steady env e)
    (hj : ∀ s, e.LiveStream s → (e.connOf s).Joined) (hl : e'.LiveStream s) :
    (e'.connOf s).Joined := by
  by_cases hk : s < e.nstreams
  · obtain ⟨ht, heq⟩ := ha.connTimed_of hs hk hl
    rw [heq]
    exact (ht.joined (hj s ((ha.grows hs.toOwn).liveStream hk hl).1)).1
  · have hst := (ha.streamFresh hs hk hl).conn
    exact ⟨by simp [hst], by simp [hst]⟩

/-- Where it is `CONNECTED` it was so before. -/
lemma Act.connected (ha : Act env op e e') (hs : Steady env e)
    (hj : ∀ s, e.LiveStream s → (e.connOf s).Joined) (hk : s < e.nstreams) (hl : e'.LiveStream s)
    (hc : (e'.connOf s).state = .connected) : (e.connOf s).state = .connected := by
  obtain ⟨ht, heq⟩ := ha.connTimed_of hs hk hl
  rw [heq] at hc
  exact (ht.joined (hj s ((ha.grows hs.toOwn).liveStream hk hl).1)).2 hc

/-! ### Records, nodes and the clock -/

/-- The timer node of `o` is set for `d`, or for a time at which `d` had passed. -/
def Engine.SetFor (env : Env K) (e : Engine K) (o : Owner) (d : ℤ) : Prop :=
  ∃ now, Read env e.tick now ∧ (e.timerManager.node o).deadlineMs = max d now

/-- **The timer nodes fit the records.** -/
structure Timed (env : Env K) (e : Engine K) : Prop where
  joined : ∀ s, e.LiveStream s → (e.connOf s).Joined
  conn : ∀ c d, e.LiveConn c → connCalculateDeadline (e.conns c) = some d →
    (e.timerManager.node (.conn c)).state ≠ .idle ∧ e.SetFor env (.conn c) d
  stream : ∀ s, e.LiveStream s → (e.connOf s).state = .connected →
    (e.timerManager.node (.stream s)).state ≠ .idle ∧
      ∀ d, (e.streams s).phaseDeadline = some d → e.SetFor env (.stream s) d

lemma Engine.SetFor.congr {d : ℤ} (h : e.SetFor env o d) (ht : e.tick ≤ e'.tick)
    (hd : (e'.timerManager.node o).deadlineMs = (e.timerManager.node o).deadlineMs) :
    e'.SetFor env o d := by
  obtain ⟨now, hnow, heq⟩ := h
  exact ⟨now, hnow.mono ht, hd.trans heq⟩

lemma Timed.aside (h : Timed env e) (ha : Aside e e')
    (hn : ∀ o, (e'.timerManager.node o).state = .idle → (e.timerManager.node o).state = .idle) :
    Timed env e' where
  joined s hl := by
    rw [ha.connOf]
    exact h.joined s (ha.liveStream.mp hl)
  conn c d hl hd := by
    rw [ha.conns] at hd
    obtain ⟨h1, h2⟩ := h.conn c d (ha.liveConn.mp hl) hd
    exact ⟨fun hi => h1 (hn _ hi), h2.congr ha.tick (ha.deadline _)⟩
  stream s hl hc := by
    rw [ha.connOf] at hc
    obtain ⟨h1, h2⟩ := h.stream s (ha.liveStream.mp hl) hc
    refine ⟨fun hi => h1 (hn _ hi), fun d hd => ?_⟩
    rw [ha.streams] at hd
    exact (h2 d hd).congr ha.tick (ha.deadline _)

/-- A step that sets no timer leaves the deadline alone. -/
lemma ConnTrans.deadline_of_none {t : ℕ} {x x' : Conn} {evs : List Event}
    (h : ConnTrans env op t c x x' evs none) :
    connCalculateDeadline x' = connCalculateDeadline x := by
  cases h <;> rfl

lemma ConnTrans.read {t : ℕ} {x x' : Conn} {evs : List Event} {now : ℤ}
    (h : ConnTrans env op t c x x' evs (some now)) : Read env t now := by
  cases h <;> assumption

/-- A step, for the deadline of a connection. -/
lemma Act.connTimed_set (ha : Act env op e e') (hs : Steady env e) (h : Timed env e) {d : ℤ}
    (hl : e'.LiveConn c) (hd : connCalculateDeadline (e'.conns c) = some d) :
    (e'.timerManager.node (.conn c)).state ≠ .idle ∧ e'.SetFor env (.conn c) d := by
  have hg := ha.grows hs.toOwn
  by_cases hc : c < e.nconns
  swap
  · -- a new connection has no deadline yet
    rw [connCalculateDeadline, if_neg (by simp [hl.2]), ha.connFresh hs.toOwn hc hl] at hd
    simp at hd
  have hold := h.conn c d (hg.liveConn hc hl)
  cases ha.connTimed hs hc hl with
  | kept hx hn =>
      rw [hx] at hd
      obtain ⟨h1, h2⟩ := hold hd
      rw [hn.state]
      exact ⟨h1, h2.congr hg.tick hn.deadlineMs⟩
  | @trans evs now _ hx hn =>
      cases now with
      | none =>
          rw [hx.deadline_of_none] at hd
          obtain ⟨h1, h2⟩ := hold hd
          have hsame : TimerNode.SameBut _ _ := hn
          rw [hsame.state]
          exact ⟨h1, h2.congr hg.tick hsame.deadlineMs⟩
      | some now =>
          simp only [connMoveAt, connMove, hd, TimerMove.Leaves] at hn
          exact ⟨by simp [hn.1], now, hx.read, hn.2⟩

/-- **Every step keeps the timer nodes right.** -/
lemma Act.timed (ha : Act env op e e') (hs : Steady env e) (h : Timed env e) : Timed env e' := by
  have hg := ha.grows hs.toOwn
  have hsound := ha.sound hs.toSound
  have hj := h.joined
  refine ⟨fun s hl => ?_, fun c d hl hd => ha.connTimed_set hs h hl hd, fun s hl hc => ?_⟩
  · exact ha.joined hs hj hl
  · by_cases hk : s < e.nstreams
    swap
    · have hf := ha.streamFresh hs hk hl
      refine ⟨by simp [hf.node], fun d hd => ?_⟩
      cases ((hsound.phased s hl).phaseDeadline_of_opened hf.state).symm.trans hd
    obtain ⟨hl0, -⟩ := hg.liveStream hk hl
    have hc0 := ha.connected hs hj hk hl hc
    obtain ⟨h1, h2⟩ := h.stream s hl0 hc0
    cases ha.streamTimed hs hk hl with
    | kept hx hn =>
        rw [hx, hn.state]
        exact ⟨h1, fun d hd => (h2 d hd).congr hg.tick hn.deadlineMs⟩
    | trans _ hx hn =>
        rcases hx.rearms (hs.phased s hl0) (hs.settled s hl0) hc0 with
          ⟨rfl, heq⟩ | ⟨d, now, rfl, hnow, hd⟩
        · have hsame : TimerNode.SameBut _ _ := hn
          rw [heq, hsame.state]
          exact ⟨h1, fun d hd => (h2 d hd).congr hg.tick hsame.deadlineMs⟩
        · refine ⟨by rw [hn.1]; decide, fun d' hd' => ⟨now, hnow, ?_⟩⟩
          rw [hn.2, hd d' hd']

/-! ### The timer callbacks -/

lemma ConnArmed.not_running {now : ℤ} (h : ConnArmed e c now) :
    (e.timerManager.node (.conn c)).state ≠ .running := by
  rw [ConnArmed] at h
  cases hd : connCalculateDeadline (e.conns c) with
  | none =>
      rw [hd] at h
      simp [h]
  | some d =>
      rw [hd] at h
      simp [h.2.1]

/-- **The callback of a connection** sets its timer node or leaves it idle. -/
lemma connUpdate_rearmed (hs : Steady env e) (hd : 0 < e.operationDepth) (hl : e.LiveConn c)
    (hcfg : (e.conns c).config.ctrlTimeoutMs ≠ 0) {now : ℤ} (hnow : now ≤ engineNow env e) :
    ((connUpdate env e c now).timerManager.node (.conn c)).state ≠ .running := by
  by_cases hlate : ∃ d, connCalculateDeadline (e.conns c) = some d ∧ d ≤ now
  · obtain ⟨d, hc, hle⟩ := hlate
    rcases (connUpdate_late hs hd hl hcfg hnow hc hle).rested with hdone | harmed
    · simp [hdone.2]
    · exact harmed.not_running
  · refine (connUpdate_early hs hd hl fun d hc => ?_).2.not_running
    exact not_le.mp fun hle => hlate ⟨d, hc, hle⟩

/-- The stream is finalised, or its timer node is in the heap. -/
def StreamServed (e : Engine K) (s : ℕ) : Prop :=
  ¬ e.LiveStream s ∨ (e.timerManager.node (.stream s)).state = .heap

/-- `waitsnd` is a query: its answer depends on the instance only. -/
def WaitsndPure (env : Env K) : Prop := ∀ t k, env.kcp.waitsnd t k = env.kcp.waitsnd 0 k

lemma engineScheduleTimerNode_heap (hs : Steady env e) (hd : 0 < e.operationDepth) (ho : e.Live o)
    (d now : ℤ) :
    ((engineScheduleTimerNode env e o d now).2.timerManager.node o).state = .heap := by
  obtain ⟨m, hm, hr⟩ := engineScheduleTimerNode_did env ((hs.owner o).mpr ho) d now
  rw [hr.eq_of_depth hd]
  exact (hm.leaves (hs.counted.room hs.toOwn ho)).1

section

variable {now : ℤ} (hs : Steady env e) (hd : 0 < e.operationDepth) (hl : e.LiveStream s)
  (hc : (e.connOf s).state = .connected)

include hs hd hl hc

lemma streamRefreshTimer_heap (now : ℤ) :
    ((streamRefreshTimer env e s now).timerManager.node (.stream s)).state = .heap := by
  obtain ⟨m, t, r, ht, hm, hr⟩ := streamRefreshTimer_did env hl.2 (hs.stream_owner hl) now
  obtain ⟨d, hmv, -⟩ := refreshMove_schedule (hs.settled s hl) hc (hs.phased s hl) now r
  rw [hmv] at hm
  rw [hr.eq_of_depth hd]
  exact (hm.leaves (hs.counted.room (o := .stream s) hs.toOwn hl)).1

/-- A `STREAM_CLOSE` of a stream that has just been changed to `e1`. -/
lemma streamSendClose_heap (e1 : Engine K) (htm : e1.timerManager = e.timerManager)
    (hdp : e1.operationDepth = e.operationDepth) (hcn : e1.connOf s = e.connOf s)
    (hopen : (e1.streams s).internalClosed = false) (hp : (e1.streams s).Phased) (reason : UInt8) :
    ((streamSendClose env e1 s reason).2.timerManager.node (.stream s)).state = .heap := by
  obtain ⟨now, m, t, r, st, cs, ok, -, -, -, hm, heq⟩ := streamSendClose_did env (e := e1)
    (s := s) (by rw [hdp]; exact hd) hopen (by rw [htm]; exact hs.stream_owner hl) reason
  have hp' : ({ e1.streams s with lastCtrlTs := now } : Stream K).Phased := hp
  have hc' : (e1.connOf s).state = .connected := by rw [hcn]; exact hc
  obtain ⟨d, hmv, -⟩ := refreshMove_schedule (by rw [hcn]; exact hs.settled s hl) hc' hp' now r
  rw [hmv, htm] at hm
  rw [heq]
  exact (hm.leaves (hs.counted.room (o := .stream s) hs.toOwn hl)).1

omit hc in
lemma streamCloseInternal_dead (reason : UInt8) :
    ¬ (streamCloseInternal env e s reason).LiveStream s := by
  rw [streamCloseInternal_eq hd hs.toOwn hl]
  exact fun hl' => ((finalStream_liveStream reason s).mp hl').2 rfl

omit hc in
lemma streamUpdateOpen_served (hst : (e.streams s).state = .opened) (hnow : Read env e.tick now) :
    StreamServed (streamUpdateOpen env e s now) s := by
  have hi : Inside env e := ⟨hs.toSound, hd⟩
  right
  rw [streamUpdateOpen]
  have h1 : Still env .update e (streamClearPending e s) := streamClearPending_still hl (Or.inl rfl)
  have h2 : Still env .update e (kcpUpdate env (streamClearPending e s) s now) :=
    h1.trans (kcpUpdate_still (h1.sound hs.toSound) (h1.calm.liveStream hl)
      (streamKcpActive_of_opened ((h1.calm.state s).trans hst)) now)
  set e2 := kcpUpdate env (streamClearPending e s) s now
  have h3 : Still env .update e (streamRecoverWrite env e2 s now) :=
    h2.trans (streamRecoverWrite_still (h2.sound hs.toSound) (h2.calm.liveStream hl)
      (hnow.mono (h2.tick hs.toSound)) ((h2.calm.state s).trans hst) rfl)
  set e3 := streamRecoverWrite env e2 s now
  have h4 : Still env .update e (kcpCheck env e3 s now).2 :=
    h3.trans (kcpCheck_still (h3.sound hs.toSound) (h3.calm.liveStream hl) now)
  exact engineScheduleTimerNode_heap (o := .stream s) (Moves.steady h4.acts.moves hs)
    (h4.inside hi).depth (h4.calm.liveStream hl) _ _

/-- A drained stream sends its first `STREAM_CLOSE`. -/
lemma streamAdvanceLocalClose_served (hst : (e.streams s).state = .closing)
    (hp : (e.streams s).closePhase = .localDrain) (hw : (kcpWaitsnd env e s).1 = 0) :
    StreamServed (streamAdvanceLocalClose env e s) s := by
  have hi : Inside env e := ⟨hs.toSound, hd⟩
  have h1 : Still env .update e (kcpWaitsnd env e s).2 := kcpWaitsnd_still hs.toSound hl
  have hs1 := Moves.steady h1.acts.moves hs
  have hl1 := h1.calm.liveStream hl
  have htr : (kcpWaitsnd env e s).2.trace = .kcp s (.waitsnd 0) :: e.trace := by rw [← hw]; rfl
  have hc1 : ((kcpWaitsnd env e s).2.connOf s).state = .connected := hc
  rw [streamAdvanceLocalClose, if_neg (by simp [hl.2, hp])]
  dsimp only
  rw [if_neg (not_not.mpr hw)]
  obtain ⟨h2, hl2⟩ : Act env .update _ _ ∧ _ :=
    streamFirstClose_act (h1.inside hi) hl1 hst hp htr rfl
  have hheap := streamSendClose_heap hs1 (h1.inside hi).depth hl1 hc1
    (((kcpWaitsnd env e s).2.setClosePhase s .waitAck).setStream s
      { ((kcpWaitsnd env e s).2.setClosePhase s .waitAck).streams s with retryCount := 0 })
    rfl rfl (by simp [Engine.connOf, Engine.setStream, Engine.setClosePhase, Engine.log])
    (by simp [Engine.setStream, Engine.setClosePhase, hl1.2])
    (Or.inr (by simp [Engine.setStream, Engine.setClosePhase, kcpWaitsnd, kcpAsk, Engine.log,
      Engine.tock, hst])) closeReasonNormal
  split_ifs
  · exact Or.inl (streamCloseInternal_dead (Moves.steady (.single (.act h2)) hs1)
      (Acts.inside (.single h2) (h1.inside hi)).depth hl2 _)
  · exact Or.inr hheap

lemma streamUpdateLocalDrain_served (hpure : WaitsndPure env)
    (hst : (e.streams s).state = .closing) (hp : (e.streams s).closePhase = .localDrain) :
    StreamServed (streamUpdateLocalDrain env e s now) s := by
  have hi : Inside env e := ⟨hs.toSound, hd⟩
  rw [streamUpdateLocalDrain]
  have h1 : Still env .update e (streamClearPending e s) := streamClearPending_still hl (Or.inl rfl)
  have ha : streamKcpActive ((streamClearPending e s).streams s) = true := by
    rw [h1.calm.active, streamKcpActive, hst, hp]
    rfl
  have h2 : Still env .update e (kcpUpdate env (streamClearPending e s) s now) :=
    h1.trans (kcpUpdate_still (h1.sound hs.toSound) (h1.calm.liveStream hl) ha now)
  set e2 := kcpUpdate env (streamClearPending e s) s now
  have h3 : Still env .update e (kcpWaitsnd env e2 s).2 :=
    h2.trans (kcpWaitsnd_still (h2.sound hs.toSound) (h2.calm.liveStream hl))
  have hs3 := Moves.steady h3.acts.moves hs
  have hl3 := h3.calm.liveStream hl
  have hd3 := (h3.inside hi).depth
  have hst3 := (h3.calm.state s).trans hst
  have hp3 := (h3.calm.closePhase s).trans hp
  have hc3 : ((kcpWaitsnd env e2 s).2.connOf s).state = .connected := by
    rw [h3.calm.connOf]
    exact hc
  dsimp only
  split_ifs with hw hdue
  · refine streamAdvanceLocalClose_served hs3 hd3 hl3 hc3 hst3 hp3 ?_
    -- the instance is asked a second time, and answers the same
    rw [← hw, kcpWaitsnd, kcpWaitsnd, kcpAsk, kcpAsk]
    cases hk : (e2.streams s).kcp with
    | none => simp [Engine.log, Engine.tock, hk]
    | some k =>
        simp only [Engine.log, Engine.tock, hk]
        rw [hpure (e2.tick + 1), hpure e2.tick]
  · obtain ⟨-, hdead⟩ : Act env .update _ _ ∧ _ :=
      streamDrainExpired_act (h3.inside hi) hl3 hst3 hp3
    exact Or.inl hdead
  · exact Or.inr (streamRefreshTimer_heap hs3 hd3 hl3 hc3 now)

lemma streamUpdateWaitAck_served (hst : (e.streams s).state = .closing)
    (hp : (e.streams s).closePhase = .waitAck)
    (hdue : deadlineAfter (e.streams s).lastCtrlTs (e.streams s).config.ctrlTimeoutMs ≤ now) :
    StreamServed (streamUpdateWaitAck env e s now) s := by
  have hi : Inside env e := ⟨hs.toSound, hd⟩
  rw [streamUpdateWaitAck]
  dsimp only
  rw [if_pos hdue]
  by_cases hr : (e.streams s).retryCount < (e.streams s).config.closeRetries
  · rw [if_pos hr]
    obtain ⟨h1, hl1⟩ : Act env .update _ _ ∧ _ := streamResend_act hi hl hst hp (Or.inr ⟨hr, rfl⟩)
    have hheap := streamSendClose_heap hs hd hl hc
      (e.setStream s { e.streams s with retryCount := (e.streams s).retryCount + 1 }) rfl rfl
      (by simp [Engine.connOf, Engine.setStream]) (by simp [Engine.setStream, hl.2])
      (Or.inr (by simp [Engine.setStream, hst, hp])) (e.streams s).closeReason
    split_ifs
    · exact Or.inl (streamCloseInternal_dead (Moves.steady (.single (.act h1)) hs)
        (Acts.inside (.single h1) hi).depth hl1 _)
    · exact Or.inr hheap
  · rw [if_neg hr]
    exact Or.inl (streamCloseInternal_dead hs hd hl _)

/-- **The callback of a stream** that comes in time sets the timer node again, or finalises the
stream. -/
lemma streamUpdate_rearmed (hpure : WaitsndPure env) (hnow : Read env e.tick now)
    (hdue : ∀ d, (e.streams s).phaseDeadline = some d → d ≤ now) :
    StreamServed (streamUpdate env e s now) s := by
  have hdead : ∀ reason, StreamServed (streamCloseInternal env e s reason) s := fun reason =>
    Or.inl (streamCloseInternal_dead hs hd hl reason)
  rw [streamUpdate, if_neg (by simp [hl.2, hs.settled s hl, hc])]
  rcases hs.phased s hl with ⟨hst, -⟩ | ⟨hst, hph⟩
  · rw [hst]
    exact streamUpdateOpen_served hs hd hl hst hnow
  · rw [hst]
    dsimp only
    cases hp : (e.streams s).closePhase with
    | none => exact absurd hp hph
    | localDrain => exact streamUpdateLocalDrain_served hs hd hl hc hpure hst hp
    | waitAck =>
        exact streamUpdateWaitAck_served hs hd hl hc hst hp
          (hdue _ (by rw [Stream.phaseDeadline, hp]))
    | remoteDrain =>
        dsimp only
        rw [if_pos (hdue _ (by rw [Stream.phaseDeadline, hp]))]
        exact hdead _
    | finalize => exact hdead _

end

/-! ### Runs -/

/-- The end of a callback that could do nothing for its stream. -/
lemma Timed.settle (h : Timed env e) (hc : (e.connOf s).state ≠ .connected) :
    Timed env (engineDispatchEnd e (.stream s)) := by
  have ha := engineDispatchEnd_aside e (.stream s)
  refine ⟨fun q hl => ?_, fun c d hl hd => ?_, fun q hl hcq => ?_⟩
  · rw [ha.connOf]
    exact h.joined q (ha.liveStream.mp hl)
  · rw [ha.conns] at hd
    obtain ⟨h1, h2⟩ := h.conn c d (ha.liveConn.mp hl) hd
    rw [engineDispatchEnd_node_of_ne (by simp)]
    exact ⟨h1, h2.congr ha.tick (ha.deadline _)⟩
  · rw [ha.connOf] at hcq
    have hq : q ≠ s := by
      rintro rfl
      exact hc hcq
    obtain ⟨h1, h2⟩ := h.stream q (ha.liveStream.mp hl) hcq
    rw [engineDispatchEnd_node_of_ne (by simpa using hq), ha.streams]
    exact ⟨h1, fun d hd => (h2 d hd).congr ha.tick (ha.deadline _)⟩

lemma engineDispatchEnd_of_ne (h : (e.timerManager.node o).state ≠ .running) :
    engineDispatchEnd e o = e := if_neg h

/-- A callback that is due comes in time for the phase of its stream. -/
lemma Timed.due (h : Timed env e) {now : ℤ} (ho : Overdue now e)
    (hst : (e.timerManager.node (.stream s)).state = .due) (hl : e.LiveStream s)
    (hc : (e.connOf s).state = .connected) {d : ℤ} (hd : (e.streams s).phaseDeadline = some d) :
    d ≤ now := by
  obtain ⟨now0, -, heq⟩ := (h.stream s hl hc).2 d hd
  have hle := ho _ hst
  rw [heq] at hle
  exact (le_max_left _ _).trans hle

/-- A round of the dispatch loop. -/
lemma Round.timed (hmono : Monotone env.monotonicTimeMs) (hpure : WaitsndPure env) {now : ℤ}
    (hm : Midway env e) (hr : Round env now e) {rest : List Owner}
    (hd : e.timerManager.due = o :: rest) (ho : Overdue now e) (h : Timed env e)
    (h2 : Timed env (timeoutCallback env o now (engineDispatchBegin e o))) :
    Timed env (engineDispatch env now e o) := by
  have hdue : o ∈ e.timerManager.due := by simp [hd]
  have hs1 := hr.toSteady.dispatch hd
  have hdepth := (hr.inside hd).depth
  have hlive : e.Live o := hr.live_of_due hdue
  have hdone : ((timeoutCallback env o now (engineDispatchBegin e o)).timerManager.node o).state ≠
      .running → Timed env (engineDispatch env now e o) := fun hne => by
    rw [engineDispatch, engineDispatchEnd_of_ne hne]
    exact h2
  cases o with
  | conn c =>
      obtain ⟨k, hk, hkn⟩ := hr.read
      have hnow : now ≤ engineNow env (engineDispatchBegin e (.conn c)) := hkn ▸ hmono hk.le
      exact hdone (connUpdate_rearmed hs1 hdepth hlive (hm.preparedConfigs c hlive.1).1 hnow)
  | stream s =>
      by_cases hc : (e.connOf s).state = .connected
      · refine hdone ?_
        have hserved : StreamServed (streamUpdate env (engineDispatchBegin e (.stream s)) s now) s :=
          streamUpdate_rearmed hs1 hdepth hlive hc hpure hr.read fun d hph =>
            h.due ho ((hr.valid.due_iff _).mp hdue) hlive hc hph
        show ((streamUpdate env _ s now).timerManager.node (.stream s)).state ≠ .running
        rcases hserved with hdead | hheap
        · have hown := ((hr.callback hd).sound hs1.toSound).toOwn
          have hidle := hown.idle (.stream s) hdead
          exact fun hrun => by cases hidle.symm.trans hrun
        · rw [hheap]
          decide
      · -- the callback does nothing, and the stream needs no timer any more
        have hc1 : ((engineDispatchBegin e (.stream s)).connOf s).state ≠ .connected := hc
        have heq : timeoutCallback env (.stream s) now (engineDispatchBegin e (.stream s)) =
            engineDispatchBegin e (.stream s) := by
          rw [timeoutCallback, streamUpdate, if_pos (Or.inr (Or.inr hc1))]
        rw [heq] at h2
        rw [engineDispatch, heq]
        exact h2.settle hc1

/-- **The timer nodes fit the records in every run.** -/
lemma timed_kept (hmono : Monotone env.monotonicTimeMs) (hpure : WaitsndPure env) :
    Kept env (Timed env) where
  act _ _ _ hs ha h := ha.timed hs h
  aside _ _ ha hn h := h.aside ha hn
  round _ _ _ _ hm hr hd ho h h2 := hr.timed hmono hpure hm hd ho h h2

lemma timed_create {connConfig : Option ConnConfig} {streamConfig : Option StreamConfig}
    (h : engineCreate env connConfig streamConfig = some e) : Timed env e := by
  obtain ⟨cc, sc, id, -, rfl⟩ := engineCreate_eq h
  exact ⟨by simp [Engine.LiveStream, engineBlank], by simp [Engine.LiveConn, engineBlank],
    by simp [Engine.LiveStream, engineBlank]⟩

lemma Reachable.timed (h : Reachable env e) (hmono : Monotone env.monotonicTimeMs)
    (hpure : WaitsndPure env) : Timed env e :=
  (timed_kept hmono hpure).reachable (fun _ _ _ => timed_create) h

/-- Every callback of an update comes at a turn of its dispatch loop. -/
lemma Kept.calls {P : Engine K → Prop} (hk : Kept env P) (hr : Reachable env e) (hP : P e)
    {q : Owner} {e1 : Engine K} (hq : (q, e1) ∈ engineUpdateCalls env (timeoutCallback env) e) :
    ∃ e0 rest, Turn env P e e0 ∧ e0.timerManager.due = q :: rest ∧
      e1 = engineDispatchBegin e0 q := by
  have key : ∀ (rounds : ℕ) (e0 : Engine K), Turn env P e e0 →
      (q, e1) ∈ engineDispatchCalls (timeoutCallback env) (engineNow env e) rounds e0 →
      ∃ e0 rest, Turn env P e e0 ∧ e0.timerManager.due = q :: rest ∧
        e1 = engineDispatchBegin e0 q := by
    intro rounds
    induction rounds with
    | zero => exact fun _ _ hmem => by cases hmem
    | succ rounds ih =>
        intro e0 h0 hmem
        rw [engineDispatchCalls] at hmem
        cases hd : e0.timerManager.due with
        | nil =>
            rw [hd] at hmem
            cases hmem
        | cons o rest =>
            rw [hd] at hmem
            have hown : ((engineDispatchBegin e0 o).timerManager.node o).owner = true := by
              simpa [engineDispatchBegin] using (h0.owner o).mpr (h0.live_of_due (by simp [hd]))
            dsimp only at hmem
            rw [if_pos hown] at hmem
            rcases List.mem_cons.mp hmem with heq | hmem
            · cases heq
              exact ⟨e0, rest, h0, hd, rfl⟩
            · exact ih _ (hk.next hr h0 hd) hmem
  exact key _ _ (hk.first hr.boundary hP) hq

/-! ### Times that have been read -/

/-- A clock that does not go back and stays well below the end of time. -/
structure SteadyClock (clock : ℕ → ℤ) : Prop where
  mono : Monotone clock
  upper : ∀ k, clock k < int64Max - 2 ^ 32

lemma SteadyClock.read (h : SteadyClock env.monotonicTimeMs) {t : ℕ} {now : ℤ}
    (hn : Read env t now) : now < int64Max - 2 ^ 32 := by
  obtain ⟨k, -, rfl⟩ := hn
  exact h.upper k

/-- The anchors of a connection are times that were read. -/
lemma Reachable.connAnchors (h : Reachable env e) (hclock : SteadyClock env.monotonicTimeMs)
    (hc : c < e.nconns) :
    (e.conns c).lastCtrlTs < int64Max - 2 ^ 32 ∧ (e.conns c).lastRecvTs < int64Max - 2 ^ 32 := by
  refine h.eachConn (P := fun _ x _ => x.lastCtrlTs < int64Max - 2 ^ 32 ∧
    x.lastRecvTs < int64Max - 2 ^ 32) (fun op e t x hx => ?_) (fun op e c x evs _ _ hv hP => ?_) c hc
  · cases hx with
    | initiator _ _ _ hnow => exact ⟨show (0 : ℤ) < _ by decide, hclock.read hnow⟩
    | passive _ _ _ _ hnow hrecv =>
        have h1 := hclock.read hnow
        have h2 := hclock.read hrecv
        refine ⟨show (0 : ℤ) < _ by decide, ?_⟩
        dsimp only [connRecord]
        split_ifs <;> assumption
  · cases hv with
    | trans _ _ h =>
        cases h with
        | receive _ hnow =>
            have h1 := hclock.read hnow
            refine ⟨hP.1, ?_⟩
            dsimp only
            split_ifs
            · exact h1
            · exact hP.2
        | connecting hnow => exact ⟨hclock.read hnow, hP.2⟩
        | sendConnect hnow => exact ⟨hclock.read hnow, hP.2⟩
        | close hnow => exact ⟨hclock.read hnow, hP.2⟩
        | sendClose hnow => exact ⟨hclock.read hnow, hP.2⟩
        | _ => exact hP
    | last _ h => cases h; exact hP
    | _ => exact hP

/-- The anchors of a live stream are times that were read. -/
lemma Midway.streamAnchors (h : Midway env e) (hclock : SteadyClock env.monotonicTimeMs)
    (hl : e.LiveStream s) :
    (e.streams s).lastCtrlTs < int64Max - 2 ^ 32 ∧
      (e.streams s).drainStartedTs < int64Max - 2 ^ 32 := by
  refine h.eachStream (P := fun _ x _ => x.internalClosed = false →
    x.lastCtrlTs < int64Max - 2 ^ 32 ∧ x.drainStartedTs < int64Max - 2 ^ 32)
    (fun op e x evs hx hopen => ?_) (fun op e s x evs _ _ hv hP hopen => ?_) s hl.1 hl.2
  · cases hx with
    | live _ _ hx => cases hx <;> exact ⟨show (0 : ℤ) < _ by decide, show (0 : ℤ) < _ by decide⟩
    | dead _ hx =>
        rw [hx.1] at hopen
        cases hopen
  · cases hv with
    | trans hl _ h =>
        have hP := hP hl.2
        cases h with
        | output =>
            dsimp only
            split_ifs <;> exact hP
        | flow h =>
            obtain ⟨_, _, _, _, _, rfl⟩ := h.record
            exact hP
        | startClose hnow => exact ⟨hclock.read hnow, hclock.read hnow⟩
        | waitAck hnow => exact ⟨hclock.read hnow, hP.2⟩
        | reject hnow => exact ⟨hclock.read hnow, hP.2⟩
        | resend hnow => exact ⟨hclock.read hnow, hP.2⟩
        | remoteClose hnow => exact ⟨hP.1, hclock.read hnow⟩
        | _ => exact hP
    | last => cases hopen
    | final => cases hopen
    | same => exact hP hopen
    | release => exact hP hopen

/-! ### The result -/

/-- The timer node of `o` is in the heap. -/
def Engine.Armed (e : Engine K) (o : Owner) : Prop := (e.timerManager.node o).state = .heap

/-- The timer node of `o` is not set for earlier than `due`, and not for later unless `due` had
passed by the time `t`. -/
def Engine.SetBetween (e : Engine K) (o : Owner) (due t : ℤ) : Prop :=
  due ≤ (e.timerManager.node o).deadlineMs ∧ (e.timerManager.node o).deadlineMs ≤ max due t

lemma Engine.SetFor.between {d t : ℤ} (h : e.SetFor env o d)
    (ht : ∀ now, Read env e.tick now → now ≤ t) : e.SetBetween o d t := by
  obtain ⟨now, hnow, heq⟩ := h
  rw [Engine.SetBetween, heq]
  exact ⟨le_max_left _ _, max_le_max le_rfl (ht now hnow)⟩

/-- Between two operations no node is due or running. -/
lemma Boundary.armed (h : Boundary env e) (hn : (e.timerManager.node o).state ≠ .idle) :
    e.Armed o := by
  rw [Engine.Armed]
  cases hst : (e.timerManager.node o).state with
  | idle => exact absurd hst hn
  | heap => rfl
  | due =>
      have hdue := (h.valid.due_iff o).mpr hst
      rw [h.due] at hdue
      cases hdue
  | running => exact absurd hst (h.running o)

/-- A connection in one of the three states with a deadline has one. -/
lemma connCalculateDeadline_exists {x : Conn} (hx : x.internalClosed = false)
    (hs : x.state = .connecting ∨ x.state = .connected ∨ x.state = .closing)
    (hctrl : x.lastCtrlTs < int64Max - 2 ^ 32) (hrecv : x.lastRecvTs < int64Max - 2 ^ 32) :
    ∃ d, connCalculateDeadline x = some d := by
  have h1 := deadlineAfter_lt hctrl x.config.ctrlTimeoutMs
  have h2 := deadlineAfter_lt hrecv x.config.keepaliveTimeoutMs
  rcases hs with hs | hs | hs
  · exact ⟨_, (connCalculateDeadline_some hx).mpr ⟨h1.ne, Or.inl ⟨Or.inl hs, rfl⟩⟩⟩
  · have hle : connConnectedDeadline x ≤ deadlineAfter x.lastRecvTs x.config.keepaliveTimeoutMs :=
      (connConnectedDeadline_le x _).mpr (Or.inl le_rfl)
    exact ⟨_, (connCalculateDeadline_some hx).mpr ⟨(hle.trans_lt h2).ne, Or.inr ⟨hs, rfl⟩⟩⟩
  · exact ⟨_, (connCalculateDeadline_some hx).mpr ⟨h1.ne, Or.inl ⟨Or.inr hs, rfl⟩⟩⟩

/-- **No live object is left without a timer.**  In every run, with a clock that does not go back
and stays below the end of time, and with `waitsnd` a query, whenever no operation is in progress:
every live connection in `CONNECTING`, `CONNECTED` or `CLOSING` has its timer node in the heap, for
no later than its deadline or the present time `t`; every live stream of a `CONNECTED` connection
has its timer node in the heap, and while it waits in `WAIT_ACK` or `REMOTE_DRAIN` the node is set
between the due time of the phase and the later of this and `t`.  In the update that follows no
callback of such a stream comes before the due time. -/
theorem timers_armed (hclock : SteadyClock env.monotonicTimeMs) (hpure : WaitsndPure env)
    (h : Reachable env e) {t : ℤ} (ht : ∀ now, Read env e.tick now → now ≤ t) :
    (∀ c, e.LiveConn c → ((e.conns c).state = .connecting ∨ (e.conns c).state = .connected ∨
        (e.conns c).state = .closing) →
      ∃ d, connCalculateDeadline (e.conns c) = some d ∧ e.Armed (.conn c) ∧
        (e.timerManager.node (.conn c)).deadlineMs ≤ max d t) ∧
    (∀ s, e.LiveStream s → (e.connOf s).state = .connected → e.Armed (.stream s) ∧
      ((e.streams s).closePhase = .waitAck → e.SetBetween (.stream s)
        ((e.streams s).lastCtrlTs + (e.streams s).config.ctrlTimeoutMs.toNat) t) ∧
      ((e.streams s).closePhase = .remoteDrain → e.SetBetween (.stream s)
        ((e.streams s).drainStartedTs + (e.streams s).config.drainTimeoutMs.toNat) t)) ∧
    ∀ s e1, (.stream s, e1) ∈ engineUpdateCalls env (timeoutCallback env) e →
      (e1.connOf s).state = .connected →
      ((e1.streams s).closePhase = .waitAck →
        (e1.streams s).lastCtrlTs + (e1.streams s).config.ctrlTimeoutMs.toNat ≤ engineNow env e) ∧
      ((e1.streams s).closePhase = .remoteDrain →
        (e1.streams s).drainStartedTs + (e1.streams s).config.drainTimeoutMs.toNat ≤
          engineNow env e) := by
  have htimed := h.timed hclock.mono hpure
  refine ⟨fun c hl hst => ?_, fun s hl hc => ?_, fun s e1 hcall hc => ?_⟩
  · obtain ⟨hctrl, hrecv⟩ := h.connAnchors hclock hl.1
    obtain ⟨d, hd⟩ := connCalculateDeadline_exists hl.2 hst hctrl hrecv
    obtain ⟨hn, hset⟩ := htimed.conn c d hl hd
    exact ⟨d, hd, h.boundary.armed hn, (hset.between ht).2⟩
  · obtain ⟨hn, hset⟩ := htimed.stream s hl hc
    obtain ⟨hctrl, hdrain⟩ := h.midway.streamAnchors hclock hl
    refine ⟨h.boundary.armed hn, fun hp => ?_, fun hp => ?_⟩
    · rw [← deadlineAfter_eq hctrl]
      exact (hset _ (by rw [Stream.phaseDeadline, hp])).between ht
    · rw [← deadlineAfter_eq hdrain]
      exact (hset _ (by rw [Stream.phaseDeadline, hp])).between ht
  · obtain ⟨e0, rest, hturn, hd, rfl⟩ := (timed_kept hclock.mono hpure).calls h htimed hcall
    have hdue : .stream s ∈ e0.timerManager.due := by simp [hd]
    have hl : e0.LiveStream s := hturn.live_of_due hdue
    have hm : Midway env e0 := ⟨e, .update, h, hturn.moves⟩
    obtain ⟨hctrl, hdrain⟩ := hm.streamAnchors hclock hl
    have hin : ∀ d, (e0.streams s).phaseDeadline = some d → d ≤ engineNow env e := fun d hph =>
      hturn.holds.due hturn.overdue ((hturn.valid.due_iff _).mp hdue) hl hc hph
    refine ⟨fun hp => ?_, fun hp => ?_⟩
    · have hp0 : (e0.streams s).closePhase = .waitAck := hp
      have hle := hin _ (by rw [Stream.phaseDeadline, hp0])
      rwa [deadlineAfter_eq hctrl] at hle
    · have hp0 : (e0.streams s).closePhase = .remoteDrain := hp
      have hle := hin _ (by rw [Stream.phaseDeadline, hp0])
      rwa [deadlineAfter_eq hdrain] at hle

/-- A host whose clock stops after a second. -/
def stoppingHost : Env Unit := { idealHost 0 0 with monotonicTimeMs := fun t => min t 1000 }

lemma stoppingHost_clock : SteadyClock stoppingHost.monotonicTimeMs where
  mono := fun a b hab => min_le_min (Int.ofNat_le.mpr hab) le_rfl
  upper := fun _ => (min_le_right _ _).trans_lt (by decide)

lemma stoppingHost_create : engineCreate stoppingHost none none = some idealEngine :=
  idealEngine_create 0 0

/-- A peer has connected, and the host has opened a stream. -/
def opening : Engine Unit :=
  (Call.streamCreate 0 none none).exec stoppingHost
    ((Call.input plainConnect [10]).exec stoppingHost idealEngine)

/-- It has sent a byte. -/
def talking : Engine Unit := (Call.streamSend 0 [1] true).exec stoppingHost opening

/-- It has closed the stream. -/
def awaiting : Engine Unit := (Call.streamClose 0).exec stoppingHost talking

lemma opening_reachable : Reachable stoppingHost opening := by
  have h0 : Reachable stoppingHost idealEngine := .create stoppingHost_create
  have h1 := h0.call (.input plainConnect [10]) trivial
  exact h1.call (.streamCreate 0 none none) ⟨by decide +kernel, by decide +kernel⟩

lemma awaiting_reachable : Reachable stoppingHost awaiting := by
  have h1 : Reachable stoppingHost talking := opening_reachable.call (.streamSend 0 [1] true)
    ⟨⟨by decide +kernel, by decide +kernel⟩, not_rejectedStream (by decide +kernel)⟩
  exact h1.call (.streamClose 0)
    ⟨⟨by decide +kernel, by decide +kernel⟩, not_rejectedStream (by decide +kernel)⟩

/-- The stream that waits for the acknowledgement of its close. -/
theorem timers_armed_awaiting :
    (awaiting.streams 0).closePhase = .waitAck ∧ awaiting.Armed (.stream 0) ∧
      awaiting.SetBetween (.stream 0) ((awaiting.streams 0).lastCtrlTs +
        (awaiting.streams 0).config.ctrlTimeoutMs.toNat) 1000 := by
  have ht : ∀ now, Read stoppingHost awaiting.tick now → now ≤ 1000 := by
    rintro now ⟨k, -, rfl⟩
    exact min_le_right _ _
  have hl : awaiting.LiveStream 0 := ⟨by decide +kernel, by decide +kernel⟩
  have hc : (awaiting.connOf 0).state = .connected := by decide +kernel
  have hp : (awaiting.streams 0).closePhase = .waitAck := by decide +kernel
  obtain ⟨-, hstream, -⟩ := timers_armed stoppingHost_clock (fun _ _ => rfl) awaiting_reachable ht
  obtain ⟨h1, h2, -⟩ := hstream 0 hl hc
  exact ⟨hp, h1, h2 hp⟩

end KcpMux
