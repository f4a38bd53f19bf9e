import KcpMux.Runs.Rounds
import KcpMux.Runs.Views

/-!
Timer nodes in the course of a run.

`Act.connTimed` and `Act.streamTimed` say what a step means for a live object together with its
timer node and, for a stream, its place in `pending_batch_streams`; `Move.aside` says what the
other moves do.  The only move that takes the deadline away from an object is the end of its timer
callback.

* `Kept.reachable`: the rule for runs in which such a round is taken as a whole;
* `Turn`: what then holds whenever a callback is due, in particular that its deadline has passed.
-/

namespace KcpMux

variable {K : Type} {env : Env K} {op : Call} {e e' : Engine K} {o : Owner} {c s : ℕ}

/-! ### Steps -/

/-- What a step means for a live connection, its log and its timer node. -/
inductive ConnTimed (env : Env K) (op : Call) (e e' : Engine K) (c : ℕ) : Prop
  | kept {streamMap : Htb ℕ} {streamCount : ℕ} {latest : UInt32} {initialized : Bool}
      (hx : e'.conns c = { e.conns c with
        streamMap := streamMap, streamCount := streamCount, latestPeerStreamId := latest
        peerStreamIdInitialized := initialized })
      (hn : (e.timerManager.node (.conn c)).SameBut (e'.timerManager.node (.conn c)))
      (hlog : e'.logOf (.conn c) = e.logOf (.conn c))
  | trans {evs : List Event} {now : Option ℤ} (hl : e.LiveConn c)
      (h : ConnTrans env op e'.tick c (e.conns c) (e'.conns c) evs now)
      (hn : (connMoveAt (e'.conns c) now).Leaves (e.timerManager.node (.conn c))
        (e'.timerManager.node (.conn c)))
      (hlog : e'.logOf (.conn c) = evs ++ e.logOf (.conn c))

/-- What a step means for a live stream, its log, its timer node and its place in
`pending_batch_streams`. -/
inductive StreamTimed (env : Env K) (op : Call) (e e' : Engine K) (s : ℕ) : Prop
  | kept (hx : e'.streams s = e.streams s)
      (hn : (e.timerManager.node (.stream s)).SameBut (e'.timerManager.node (.stream s)))
      (hlog : e'.logOf (.stream s) = e.logOf (.stream s))
      (hp : (s ∈ e'.pendingBatchStreams ↔ s ∈ e.pendingBatchStreams) ∨
        s ∈ e.pendingBatchStreams ∧ ¬ e.Batched s)
  | trans {evs : List Event} {mv : TimerMove} {p : PendMove} (hl : e.LiveStream s)
      (h : StreamTrans env op e e'.tick s (e.connOf s) (e.streams s) (e'.streams s) evs mv p)
      (hn : mv.Leaves (e.timerManager.node (.stream s)) (e'.timerManager.node (.stream s)))
      (hlog : e'.logOf (.stream s) = evs ++ e.logOf (.stream s))
      (hp : e'.pendingBatchStreams = p.apply s e.pendingBatchStreams)
      (hc : e'.conns = e.conns)

lemma ConnTimed.of_eq (hx : e'.conns c = e.conns c)
    (hn : (e.timerManager.node (.conn c)).SameBut (e'.timerManager.node (.conn c)))
    (hlog : e'.logOf (.conn c) = e.logOf (.conn c)) : ConnTimed env op e e' c :=
  .kept hx hn hlog

/-- The finalisation of a connection touches no object that is live afterwards. -/
lemma connCloseInternal_spares (h : Own env e) (hd : 0 < e.operationDepth) (hl : e.LiveConn c)
    {reason : UInt8} (hs : Sound env (connCloseInternal env e c reason)) :
    Within (fun o => ¬ (connCloseInternal env e c reason).Live o) (fun _ => False) e
      (connCloseInternal env e c reason) := by
  have hdead := connCloseInternal_closed h hd hl reason
  refine (Within.refl e).connCloseInternal (fun hc => ?_) h hd hl.1 (fun q hq hlive => ?_) reason
  · rw [hc.2] at hdead
    cases hdead
  · have hg : Grows e (connCloseInternal env e c reason) := Grows.connFinal h hd hl
    have hhome : ((connCloseInternal env e c reason).streams q).conn = (e.streams q).conn :=
      congrArg (fun i => i.2.2) (hg.stream q hq.1.1).1
    have hopen := hs.settled q hlive
    rw [Engine.connOf, hhome, hq.2, hdead] at hopen
    cases hopen

lemma Within.logOf {S : Owner → Prop} {C : ℕ → Prop} (h : Within S C e e') (ho : ¬ S o) :
    e'.logOf o = e.logOf o := by
  obtain ⟨evs, ht, hev⟩ := h.log
  exact logOf_append_other ht fun ev hm hsub => ho (hev ev hm o hsub)

/-- **A step, for a live connection with its timer node.** -/
lemma Act.connTimed (ha : Act env op e e') (h : Steady env e) (hc : c < e.nconns)
    (hl : e'.LiveConn c) : ConnTimed env op e e' c := by
  have hsound := ha.sound h.toSound
  cases ha with
  | @conn d t x evs now m st cs hld ht hx hm hst =>
      by_cases hd : c = d
      · subst hd
        have hleaves := hm.leaves (h.counted.room h.toOwn hld)
        have hlog : (e.stepConn c x evs m t st cs).logOf (.conn c) = evs ++ e.logOf (.conn c) :=
          logOf_append_self rfl hx.subject
        rw [← stepConn_conns_self e c x evs m t st cs] at hx hleaves
        exact .trans hld hx hleaves hlog
      · exact .of_eq (by simp [Engine.stepConn, hd]) (hm.other (by simpa using hd))
          (logOf_append_of_ne rfl hx.subject (by simpa using Ne.symm hd))
  | stream hl ht hx hm hst =>
      exact .of_eq rfl (hm.other (by simp)) (logOf_append_of_ne rfl hx.subject (by simp))
  | quiet => exact .of_eq rfl (TimerNode.SameBut.refl _) rfl
  | idLost => exact .of_eq rfl (TimerNode.SameBut.refl _) rfl
  | popBatch => exact .of_eq rfl (TimerNode.SameBut.refl _) rfl
  | connNew =>
      refine .of_eq (newConn_conns_of_lt hc) ?_ rfl
      show TimerNode.SameBut _ ((timerNodeInit _ _).node _)
      rw [timerNodeInit, setNode_node_of_ne _ (by simpa using Nat.ne_of_lt hc)]
      exact TimerNode.SameBut.refl _
  | @streamNew d t x latest r capacity m hld hs ht hcap hx hm =>
      refine .kept (newStream_conns c) ?_ ?_
      · have hother := hm.other (q := .conn c) (by simp)
        rw [timerNodeInit, setNode_node_of_ne _ (by simp)] at hother
        exact hother
      · have hb : StreamBorn env op e _ (.kcp e.nstreams (.check x.readBlockStartTs r) :: _) :=
          .live hld hs hx
        exact logOf_append_of_ne rfl hb.subject (by simp)
  | streamFailed ht hlc hx =>
      have hb : StreamBorn env op e _ _ := .dead hlc hx
      exact .of_eq rfl (TimerNode.SameBut.refl _) (logOf_append_of_ne rfl hb.subject (by simp))
  | streamFinal hd hls =>
      exact .kept (finalStream_conns _ c) (timerUnregister_other _ (by simp))
        (finalStream_logOf_of_ne _ (by simp))
  | @streamLast q t x evs mv m st cs reason hd hls ht hx hm hst =>
      refine .kept (finalStream_conns _ c) ?_ ?_
      · exact (hm.other (by simp)).trans (timerUnregister_other _ (by simp))
      · rw [finalStream_logOf_of_ne _ (by simp)]
        exact logOf_append_of_ne rfl hx.subject (by simp)
  | connFinal hd hld =>
      have hw := connCloseInternal_spares h.toOwn hd hld hsound
      exact .of_eq (hw.table c (not_not.mpr hl) id).1 (hw.node _ (not_not.mpr hl))
        (hw.logOf (not_not.mpr hl))
  | @connLast d t x evs st cs hd hld ht hx hst =>
      have hs := SameOwn.connLast env hld hx t st cs
      have hw := connCloseInternal_spares (h.toOwn.of_same hs) hd ((hs.liveConn d).mpr hld) hsound
      have hne : c ≠ d := by
        rintro rfl
        have := connCloseInternal_closed (h.toOwn.of_same hs) hd ((hs.liveConn c).mpr hld)
          closeReasonRejected
        rw [hl.2] at this
        cases this
      refine .of_eq ?_ (hw.node _ (not_not.mpr hl)) ?_
      · rw [(hw.table c (not_not.mpr hl) id).1]
        simp [Engine.stepConn, hne]
      · rw [hw.logOf (o := .conn c) (not_not.mpr hl)]
        exact logOf_append_of_ne rfl hx.subject (by simpa using hne.symm)

/-- **A step, for a live stream with its timer node.** -/
lemma Act.streamTimed (ha : Act env op e e') (h : Steady env e) (hk : s < e.nstreams)
    (hl : e'.LiveStream s) : StreamTimed env op e e' s := by
  have hsound := ha.sound h.toSound
  cases ha with
  | conn hlc ht hx hm hst =>
      exact .kept rfl (hm.other (by simp)) (logOf_append_of_ne rfl hx.subject (by simp))
        (Or.inl Iff.rfl)
  | @stream q t x evs mv p m st cs hlq ht hx hm hst =>
      by_cases hq : s = q
      · subst hq
        have hself : (e.stepStream s x evs m t st cs p).streams s = x := by
          simp [Engine.stepStream]
        refine .trans hlq ?_ (hm.leaves (h.counted.room h.toOwn hlq))
          (logOf_append_self rfl hx.subject) rfl rfl
        rw [hself]
        exact hx
      · refine .kept (by simp [Engine.stepStream, hq]) (hm.other (by simpa using hq))
          (logOf_append_of_ne rfl hx.subject (by simpa using Ne.symm hq)) (Or.inl ?_)
        cases p with
        | keep => exact Iff.rfl
        | append => simp [Engine.stepStream, PendMove.apply, hq]
        | erase => exact List.mem_erase_of_ne hq
  | quiet => exact .kept rfl (TimerNode.SameBut.refl _) rfl (Or.inl Iff.rfl)
  | idLost => exact .kept rfl (TimerNode.SameBut.refl _) rfl (Or.inl Iff.rfl)
  | @popBatch q rest hp hb =>
      refine .kept rfl (TimerNode.SameBut.refl _) rfl ?_
      by_cases hq : s = q
      · exact Or.inr ⟨by simp [hp, hq], hq ▸ hb⟩
      · exact Or.inl (by simp [hp, hq])
  | connNew =>
      refine .kept rfl ?_ rfl (Or.inl Iff.rfl)
      show TimerNode.SameBut _ ((timerNodeInit _ _).node _)
      rw [timerNodeInit, setNode_node_of_ne _ (by simp)]
      exact TimerNode.SameBut.refl _
  | @streamNew d t x latest r capacity m hld hs ht hcap hx hm =>
      have hne : (.stream s : Owner) ≠ .stream e.nstreams := by simpa using Nat.ne_of_lt hk
      refine .kept (newStream_streams_of_lt hk) ?_ ?_ (Or.inl Iff.rfl)
      · have hother := hm.other hne
        rw [timerNodeInit, setNode_node_of_ne _ hne] at hother
        exact hother
      · have hb : StreamBorn env op e _ (.kcp e.nstreams (.check x.readBlockStartTs r) :: _) :=
          .live hld hs hx
        exact logOf_append_of_ne rfl hb.subject hne.symm
  | streamFailed ht hlc hx =>
      have hb : StreamBorn env op e _ _ := .dead hlc hx
      exact .kept (by simp [Engine.deadStream, Nat.ne_of_lt hk]) (TimerNode.SameBut.refl _)
        (logOf_append_of_ne rfl hb.subject (by simpa using (Nat.ne_of_lt hk).symm))
        (Or.inl Iff.rfl)
  | @streamFinal q reason hd hlq =>
      have hq : s ≠ q := ((finalStream_liveStream reason s).mp hl).2
      exact .kept (finalStream_streams_of_ne reason hq)
        (timerUnregister_other _ (by simpa using hq))
        (finalStream_logOf_of_ne reason (by simpa using hq)) (Or.inl (List.mem_erase_of_ne hq))
  | @streamLast q t x evs mv m st cs reason hd hlq ht hx hm hst =>
      have hq : s ≠ q := ((finalStream_liveStream reason s).mp hl).2
      refine .kept ?_ ?_ ?_ (Or.inl (List.mem_erase_of_ne hq))
      · rw [finalStream_streams_of_ne reason hq]
        simp [Engine.stepStream, hq]
      · exact (hm.other (by simpa using hq)).trans (timerUnregister_other _ (by simpa using hq))
      · rw [finalStream_logOf_of_ne reason (by simpa using hq)]
        exact logOf_append_of_ne rfl hx.subject (by simpa using Ne.symm hq)
  | connFinal hd hld =>
      have hw := connCloseInternal_spares h.toOwn hd hld hsound
      exact .kept (hw.stream s (not_not.mpr hl)) (hw.node _ (not_not.mpr hl))
        (hw.logOf (not_not.mpr hl)) (Or.inl (hw.batch s (not_not.mpr hl)))
  | @connLast d t x evs st cs hd hld ht hx hst =>
      have hs := SameOwn.connLast env hld hx t st cs
      have hw := connCloseInternal_spares (h.toOwn.of_same hs) hd ((hs.liveConn d).mpr hld) hsound
      refine .kept (hw.stream s (not_not.mpr hl)) (hw.node _ (not_not.mpr hl)) ?_
        (Or.inl (hw.batch s (not_not.mpr hl)))
      rw [hw.logOf (o := .stream s) (not_not.mpr hl)]
      exact logOf_append_of_ne rfl hx.subject (by simp)

/-- A connection that a step creates has not left `INIT`. -/
lemma Act.connFresh (ha : Act env op e e') (h : Own env e) (hc : ¬ c < e.nconns)
    (hl : e'.LiveConn c) : (e'.conns c).state = .init := by
  rcases ha.nconns h with hn | ⟨t, x, hx, hn, hx', -⟩
  · exact absurd (hn ▸ hl.1) hc
  · have hlt := hl.1
    obtain rfl : c = e.nconns := by omega
    rw [hx']
    cases hx <;> rfl

/-- What is known of a stream that a step creates. -/
structure StreamFresh (e' : Engine K) (s : ℕ) : Prop where
  state : (e'.streams s).state = .opened
  pendingCount : (e'.streams s).pendingCount = 0
  conn : (e'.connOf s).state = .connected
  node : (e'.timerManager.node (.stream s)).state = .heap
  batch : s ∉ e'.pendingBatchStreams
  log : ∃ now r, e'.logOf (.stream s) =
    .kcp s (.check now r) :: streamNewEvents s (e'.streams s).config

lemma Act.streamFresh (ha : Act env op e e') (h : Steady env e) (hs : ¬ s < e.nstreams)
    (hl : e'.LiveStream s) : StreamFresh e' s := by
  cases ha with
  | @streamNew c t x latest r capacity m hlc hst ht hcap hx hm =>
      have hlt : s < e.nstreams + 1 := hl.1
      obtain rfl : s = e.nstreams := by omega
      have hb : StreamBorn env op e _ (.kcp e.nstreams (.check x.readBlockStartTs r) :: _) :=
        .live hlc hst hx
      have hx0 : x.state = .opened ∧ x.pendingCount = 0 ∧ x.conn = c := by
        cases hx <;> exact ⟨rfl, rfl, rfl⟩
      have hmv : refreshMove (e.conns c) x x.readBlockStartTs r =
          .schedule r x.readBlockStartTs := by
        rw [refreshMove, refreshDeadline, if_neg (by simp [hlc.2, hst]), hx0.1]
      rw [hmv] at hm
      have hroom : e.timerManager.size < capacity := by
        have h1 := h.toOwn.size_le
        have h2 := h.counted.timerNodes
        omega
      refine ⟨?_, ?_, ?_, (hm.leaves (Or.inr hroom)).1, fun hmem => ?_, x.readBlockStartTs, r, ?_⟩
      · rw [newStream_streams_self]
        exact hx0.1
      · rw [newStream_streams_self]
        exact hx0.2.1
      · rw [Engine.connOf, newStream_streams_self, newStream_conns]
        show (e.conns x.conn).state = .connected
        rw [hx0.2.2]
        exact hst
      · exact lt_irrefl _ (h.batch.2 _ hmem).1.1
      · rw [newStream_streams_self, logOf_append_self rfl hb.subject, h.logOf_unknown (o := .stream e.nstreams)
          (lt_irrefl _), List.append_nil]
  | streamFailed ht hc hx =>
      have hlt : s < e.nstreams + 1 := hl.1
      obtain rfl : s = e.nstreams := by omega
      have hdead := hl.2
      simp only [Engine.deadStream, Function.update_self, hx.1] at hdead
      cases hdead
  | connFinal hd hlc =>
      exact absurd ((connCloseInternal_nconns h.toOwn hd hlc _).2 ▸ hl.1) hs
  | @connLast d t x evs st cs hd hlc ht hx hst =>
      have hsame := SameOwn.connLast env hlc hx t st cs
      exact absurd ((connCloseInternal_nconns (h.toOwn.of_same hsame) hd
        ((hsame.liveConn d).mpr hlc) _).2 ▸ hl.1) hs
  | _ => exact absurd hl.1 hs

/-! ### The moves around the steps -/

/-- No object is touched, and no timer node gets another deadline. -/
structure Aside (e e' : Engine K) : Prop where
  conns : e'.conns = e.conns
  streams : e'.streams = e.streams
  nconns : e'.nconns = e.nconns
  nstreams : e'.nstreams = e.nstreams
  batch : e'.pendingBatchStreams = e.pendingBatchStreams
  tick : e.tick ≤ e'.tick
  deadline : ∀ o, (e'.timerManager.node o).deadlineMs = (e.timerManager.node o).deadlineMs
  log : ∀ o, e.Live o → e'.logOf o = e.logOf o

lemma Aside.liveConn (h : Aside e e') : e'.LiveConn c ↔ e.LiveConn c := by
  rw [Engine.LiveConn, Engine.LiveConn, h.conns, h.nconns]

lemma Aside.liveStream (h : Aside e e') : e'.LiveStream s ↔ e.LiveStream s := by
  rw [Engine.LiveStream, Engine.LiveStream, h.streams, h.nstreams]

lemma Aside.connOf (h : Aside e e') (s : ℕ) : e'.connOf s = e.connOf s := by
  rw [Engine.connOf, Engine.connOf, h.conns, h.streams]

/-- No timer node becomes idle. -/
def StaysArmed (e e' : Engine K) : Prop :=
  ∀ o, (e'.timerManager.node o).state = .idle → (e.timerManager.node o).state = .idle

lemma engineDispatchEnd_aside (e : Engine K) (o : Owner) : Aside e (engineDispatchEnd e o) := by
  rw [engineDispatchEnd]
  split_ifs
  · refine ⟨rfl, rfl, rfl, rfl, rfl, le_rfl, fun q => ?_, fun _ _ => rfl⟩
    by_cases hq : q = o
    · subst hq
      simp
    · rw [setNode_node_of_ne _ hq]
  · exact ⟨rfl, rfl, rfl, rfl, rfl, le_rfl, fun _ => rfl, fun _ _ => rfl⟩

lemma engineDispatchEnd_node_of_ne {q : Owner} (hq : q ≠ o) :
    (engineDispatchEnd e o).timerManager.node q = e.timerManager.node q := by
  rw [engineDispatchEnd]
  split_ifs
  · exact setNode_node_of_ne _ hq _
  · rfl

lemma engineCollect_aside (h : Steady env e) :
    Aside e (engineCollect env e) ∧ StaysArmed e (engineCollect env e) := by
  have hc := collectDue_node h.valid (engineNow env e)
  refine ⟨⟨rfl, rfl, rfl, rfl, rfl, Nat.le_succ _, fun o => (hc o).deadlineMs, fun o _ => ?_⟩,
    fun o ho => ?_⟩
  · have htrace : (engineCollect env e).trace = [.update (engineNow env e)] ++ e.trace := rfl
    exact logOf_append_other htrace (by simp [Event.subject])
  · rcases (hc o).state with hs | ⟨-, -, hs⟩
    · exact hs ▸ ho
    · have hidle : ((timerCollectDue e.timerManager (engineNow env e)).node o).state = .idle := ho
      rw [hs] at hidle
      cases hidle

lemma engineDispatchBegin_aside (e : Engine K) (o : Owner) :
    Aside e (engineDispatchBegin e o) ∧ StaysArmed e (engineDispatchBegin e o) := by
  refine ⟨⟨rfl, rfl, rfl, rfl, rfl, le_rfl, fun q => ?_, fun _ _ => rfl⟩, fun q hq => ?_⟩
  · by_cases hqo : q = o
    · subst hqo
      simp [engineDispatchBegin]
    · simp [engineDispatchBegin, hqo]
  · by_cases hqo : q = o
    · subst hqo
      simp [engineDispatchBegin] at hq
    · simpa [engineDispatchBegin, hqo] using hq

/-- **The moves around the steps.**  Only the end of a timer callback may leave a node idle. -/
lemma Move.aside (hm : Move env op e e') (h : Steady env e) :
    Act env op e e' ∨ Aside e e' ∧ (StaysArmed e e' ∨ ∃ o, e' = engineDispatchEnd e o) := by
  have hlog : ∀ o, ¬ Act env op e e' → e.Live o → e'.logOf o = e.logOf o := by
    intro o hna hl
    rcases hm.frame h with ha | ⟨-, -, -, -, evs, ht, hev⟩
    · exact absurd ha hna
    refine logOf_append_other ht fun ev hm hsub => ?_
    rcases hev with hev | ⟨q, rfl, -, hdead, -⟩
    · rw [hev ev hm] at hsub
      cases hsub
    · rw [List.mem_singleton.mp hm] at hsub
      exact hdead (Option.some.inj hsub ▸ hl)
  refine (em (Act env op e e')).imp_right fun hna => ?_
  have hlog := fun o => hlog o hna
  cases hm with
  | act ha => exact absurd ha hna
  | enter => exact ⟨⟨rfl, rfl, rfl, rfl, rfl, le_rfl, fun _ => rfl, hlog⟩, Or.inl fun _ => id⟩
  | exit => exact ⟨⟨rfl, rfl, rfl, rfl, rfl, le_rfl, fun _ => rfl, hlog⟩, Or.inl fun _ => id⟩
  | release => exact ⟨⟨rfl, rfl, rfl, rfl, rfl, le_rfl, fun _ => rfl, hlog⟩, Or.inl fun _ => id⟩
  | @rearm now =>
      obtain ⟨a, d, evs, heq, hev⟩ := engineRearmTimer_eq e now
      rw [heq] at hlog ⊢
      exact ⟨⟨rfl, rfl, rfl, rfl, rfl, le_rfl, fun _ => rfl, hlog⟩, Or.inl fun _ => id⟩
  | collect => exact (engineCollect_aside h).imp_right Or.inl
  | dispatch => exact (engineDispatchBegin_aside e _).imp_right Or.inl
  | settle => exact ⟨engineDispatchEnd_aside e _, Or.inr ⟨_, rfl⟩⟩
  | destroying =>
      exact ⟨⟨rfl, rfl, rfl, rfl, rfl, le_rfl, fun _ => rfl, hlog⟩, Or.inl fun _ => id⟩

/-! ### Rounds -/

/-- The deadlines of the nodes that wait for their callback have passed. -/
def Overdue (now : ℤ) (e : Engine K) : Prop :=
  ∀ o, (e.timerManager.node o).state = .due → (e.timerManager.node o).deadlineMs ≤ now

lemma Boundary.overdue (h : Boundary env e) :
    Overdue (engineNow env e) (engineOperationEnter (engineCollect env e)) := by
  intro o ho
  have hc := collectDue_node h.valid (engineNow env e) o
  have hst : ((timerCollectDue e.timerManager (engineNow env e)).node o).state = .due := ho
  rcases hc.state with hs | ⟨-, hle, -⟩
  · have hdue := (h.valid.due_iff o).mpr (hs ▸ hst)
    rw [h.due] at hdue
    cases hdue
  · show ((timerCollectDue e.timerManager (engineNow env e)).node o).deadlineMs ≤ _
    rw [hc.deadlineMs]
    exact hle

lemma Round.overdue {now : ℤ} (h : Round env now e) {rest : List Owner}
    (hd : e.timerManager.due = o :: rest) (ho : Overdue now e) :
    Overdue now (engineDispatch env now e o) := by
  intro q hq
  have hg := ((h.callback hd).grows (h.inside hd).toOwn).timer
  rw [engineDispatch] at hq ⊢
  generalize timeoutCallback env o now (engineDispatchBegin e o) = e2 at hg hq ⊢
  rw [(engineDispatchEnd_aside e2 o).deadline]
  have hq2 : (e2.timerManager.node q).state = .due := by
    rw [engineDispatchEnd] at hq
    split_ifs at hq with hr
    · by_cases hqo : q = o
      · subst hqo
        simp at hq
      · rwa [setNode_node_of_ne _ hqo] at hq
    · exact hq
  obtain ⟨h1, h2⟩ := hg.kept q hq2
  rw [h2]
  by_cases hqo : q = o
  · subst hqo
    simp [engineDispatchBegin] at h1
  · simp only [engineDispatchBegin, ne_eq, hqo, not_false_eq_true, Function.update_of_ne] at h1 ⊢
    exact ho q h1

/-- The host's timer touches no object. -/
lemma engineRearmTimer_aside (e : Engine K) (now : ℤ) : Aside e (engineRearmTimer e now) := by
  obtain ⟨a, d, evs, heq, hev⟩ := engineRearmTimer_eq e now
  rw [heq]
  refine ⟨rfl, rfl, rfl, rfl, rfl, le_rfl, fun _ => rfl, fun o _ => ?_⟩
  exact logOf_append_other rfl fun ev hm => by simp [(hev ev hm).subject]

/-- The end of the outermost operation touches no object. -/
lemma engineOperationLeave_aside (h : Steady env e) (hd : e.operationDepth = 1) :
    Aside e (engineOperationLeave env e) ∧ StaysArmed e (engineOperationLeave env e) := by
  obtain ⟨armed, deadline, evs, heq, hev⟩ := engineOperationLeave_did env hd
  rw [heq]
  refine ⟨⟨rfl, rfl, rfl, rfl, rfl, Nat.le_succ _, fun _ => rfl, fun o hl => ?_⟩, fun _ => id⟩
  have htrace : evs ++ e.left.trace =
      (evs ++ (e.pendingReleaseList.map Event.release).reverse) ++ e.trace :=
    (List.append_assoc _ _ _).symm
  refine logOf_append_other htrace fun ev hm hsub => ?_
  rcases List.mem_append.mp hm with hm | hm
  · rw [hev ev hm] at hsub
    cases hsub
  · simp only [List.mem_reverse, List.mem_map] at hm
    obtain ⟨q, hq, rfl⟩ := hm
    have hmem : q ∈ e.releaseOrder := by simp [Engine.releaseOrder, hq]
    exact ((h.queue.mem_iff q).mp hmem).2 (Option.some.inj hsub ▸ hl)

/-- `P` is kept by every step, by every move that leaves no timer node idle, and by every round of
the dispatch loop as a whole. -/
structure Kept (env : Env K) (P : Engine K → Prop) : Prop where
  act : ∀ (op : Call) (e e' : Engine K), Steady env e → Act env op e e' → P e → P e'
  aside : ∀ e e' : Engine K, Aside e e' → StaysArmed e e' → P e → P e'
  round : ∀ (now : ℤ) (e : Engine K) (o : Owner) (rest : List Owner), Midway env e →
    Round env now e → e.timerManager.due = o :: rest → Overdue now e → P e →
    P (timeoutCallback env o now (engineDispatchBegin e o)) → P (engineDispatch env now e o)

/-- What holds at the top of the dispatch loop of an update of the engine `e`. -/
structure Turn (env : Env K) (P : Engine K → Prop) (e e' : Engine K) : Prop
    extends Round env (engineNow env e) e' where
  moves : Moves env .update e e'
  overdue : Overdue (engineNow env e) e'
  holds : P e'

namespace Kept

variable {P : Engine K → Prop} (hk : Kept env P)

include hk

lemma acts (hs : Steady env e) (ha : Acts env op e e') (hP : P e) : P e' := by
  induction ha with
  | refl => exact hP
  | tail hpre hstep ih => exact hk.act _ _ _ (Moves.steady (Acts.moves hpre) hs) hstep ih

lemma enter (hP : P e) : P (engineOperationEnter e) :=
  hk.aside e _ ⟨rfl, rfl, rfl, rfl, rfl, le_rfl, fun _ => rfl, fun _ _ => rfl⟩ (fun _ => id) hP

lemma rearm (now : ℤ) (hP : P e) : P (engineRearmTimer e now) := by
  obtain ⟨a, d, evs, heq, -⟩ := engineRearmTimer_eq e now
  refine hk.aside e _ (engineRearmTimer_aside e now) (fun o => ?_) hP
  rw [heq]
  exact id

lemma leave (hs : Steady env e) (hd : e.operationDepth = 1) (hP : P e) :
    P (engineOperationLeave env e) := by
  obtain ⟨h1, h2⟩ := engineOperationLeave_aside hs hd
  exact hk.aside _ _ h1 h2 hP

/-- The first turn of the dispatch loop. -/
lemma first (hb : Boundary env e) (hP : P e) :
    Turn env P e (engineOperationEnter (engineCollect env e)) := by
  obtain ⟨h1, h2⟩ := engineCollect_aside hb.toSteady
  exact ⟨hb.round, (Relation.ReflTransGen.single .collect).tail .enter, hb.overdue,
    hk.enter (hk.aside _ _ h1 h2 hP)⟩

/-- From turn to turn. -/
lemma next (hr : Reachable env e) (h : Turn env P e e') {rest : List Owner}
    (hd : e'.timerManager.due = o :: rest) :
    Turn env P e (engineDispatch env (engineNow env e) e' o) := by
  obtain ⟨h1, h2⟩ := engineDispatchBegin_aside e' o
  exact ⟨(h.toRound.next hd).1, h.moves.trans (h.toRound.moves hd), h.toRound.overdue hd h.overdue,
    hk.round _ e' o rest ⟨e, .update, hr, h.moves⟩ h.toRound hd h.overdue h.holds
      (hk.acts (h.toSteady.dispatch hd) (h.toRound.callback hd) (hk.aside _ _ h1 h2 h.holds))⟩

/-- **The rule for runs.** -/
lemma reachable
    (hcreate : ∀ (connConfig : Option ConnConfig) (streamConfig : Option StreamConfig) (e : Engine K),
      engineCreate env connConfig streamConfig = some e → P e)
    (h : Reachable env e) : P e := by
  induction h with
  | create h => exact hcreate _ _ _ h
  | @call e hr op hv ih =>
      have hb := hr.boundary
      have hform := Call.exec_form hb.toSound hb.noInit hv
      generalize op.exec env e = e' at hform ⊢
      cases hform with
      | bare hop hbare =>
          obtain ⟨e1, ha, -, rfl | ⟨now, -, e2, ha2, hre⟩⟩ := hbare
          · exact hk.acts hb.toSteady ha ih
          · have h2 : Acts env op e e2 := ha.tail ha2
            have hP2 := hk.acts hb.toSteady h2 ih
            cases hre with
            | failed => exact hP2
            | rearm => exact hk.rearm now hP2
      | @bracket t st e1 ht hst ha hop =>
          have hq : Acts env op e { e with tick := t, stats := st, connStats := e.connStats } :=
            .single (.quiet ht hst)
          have hP0 : P (engineOperationEnter { e with tick := t, stats := st }) :=
            hk.enter (hk.acts hb.toSteady hq ih)
          have hs0 : Steady env (engineOperationEnter { e with tick := t, stats := st }) :=
            Moves.steady (hq.moves.tail .enter) hb.toSteady
          have hd1 : e1.operationDepth = 1 := by
            rw [(ha.grows hs0.toOwn).depth]
            show e.operationDepth + 1 = 1
            rw [hb.depth]
          exact hk.leave (Moves.steady ha.moves hs0) hd1 (hk.acts hs0 ha hP0)
      | update hop =>
          subst hop
          obtain ⟨e1, hr1, -, ht, heq⟩ := hb.dispatched (P := Turn env P e)
            (fun _ _ _ _ hd ht => hk.next hr ht hd) (hk.first hb ih)
          rw [heq]
          exact hk.leave hr1.toSteady hr1.depth ht.holds

end Kept

end KcpMux
