import KcpMux.Steps.Final

/-!
Steps and finalisations keep ownership.

* `Own.stepConn`, `Own.stepStream`: the steps of one object;
* `Own.finalStream`, `Own.beginConn`, `Own.endConn`: finalisation.
-/

namespace KcpMux

open TimerNode

variable {K : Type} {env : Env K} {e : Engine K}

/-! ### Steps of one object -/

section Step

variable {m : TimerManager Owner} {mv : TimerMove} {evs : List Event} {t : ℕ}
  {st : EngineStats} {cs : ℕ → ConnStats}

/-- A move of a live object's node touches no dead node. -/
lemma TimerMove.Did.idle {o : Owner} (h : mv.Did env e.timerManager o m) (hl : e.Live o) :
    ∀ q, ¬ e.Live q → (m.node q).state = (e.timerManager.node q).state := by
  intro q hq
  have hne : q ≠ o := by rintro rfl; exact hq hl
  exact (h.other hne).state

/-- New entries about a known object keep the log in order. -/
lemma known_append {o : Owner} (ho : e.Known o) (hsub : ∀ ev ∈ evs, ev.subject = some o) :
    ∀ ev ∈ evs ++ e.trace, ev ∈ e.trace ∨ ∀ q, ev.subject = some q → e.Known q := by
  intro ev hev
  rcases List.mem_append.mp hev with hev | hev
  · refine Or.inr fun q hq => ?_
    rw [hsub ev hev, Option.some.injEq] at hq
    exact hq ▸ ho
  · exact Or.inl hev

lemma SameOwn.stepConn {c : ℕ} {x : Conn} (hl : e.LiveConn c) (hk : ConnKept (e.conns c) x)
    (hm : mv.Did env e.timerManager (.conn c) m)
    (hsub : ∀ ev ∈ evs, ev.subject = some (.conn c)) :
    SameOwn e (e.stepConn c x evs m t st cs) := by
  refine
    { nconns := rfl, nstreams := rfl, connMap := rfl, handshakeMap := rfl
      nextConnectionId := rfl, conn := fun d => ?_, stream := fun _ => rfl, owner := hm.owner
      idle := hm.idle hl, valid := hm.valid, batch := fun hb => ?_
      known := known_append (o := .conn c) hl.1 hsub }
  · by_cases hd : d = c
    · subst hd
      simpa [Engine.stepConn] using hk
    · simpa [Engine.stepConn, hd] using ConnKept.refl (e.conns d)
  · exact hb

/-- A step of a stream keeps the batching list in order. -/
lemma Engine.BatchOk.stepStream {s : ℕ} {x : Stream K} {p : PendMove} (hb : e.BatchOk)
    (hl : e.LiveStream s) (hc : x.internalClosed = (e.streams s).internalClosed)
    (hp : p.Ok (e.streams s) x) : (e.stepStream s x evs m t st cs p).BatchOk := by
  have hlive : ∀ q, (e.stepStream s x evs m t st cs p).LiveStream q ↔ e.LiveStream q := by
    intro q
    rw [Engine.LiveStream, Engine.LiveStream]
    by_cases hq : q = s
    · subst hq; simp [Engine.stepStream, hc]
    · simp [Engine.stepStream, hq]
  have hother : ∀ q ∈ e.pendingBatchStreams, q ≠ s →
      (e.stepStream s x evs m t st cs p).LiveStream q ∧
        ((e.stepStream s x evs m t st cs p).streams q).pendingCount ≠ 0 := by
    intro q hq hqs
    rw [hlive]
    simpa [Engine.stepStream, hqs] using hb.2 q hq
  have hself : x.pendingCount ≠ 0 → (e.stepStream s x evs m t st cs p).LiveStream s ∧
      ((e.stepStream s x evs m t st cs p).streams s).pendingCount ≠ 0 := by
    intro h0
    rw [hlive]
    simpa [Engine.stepStream, hl] using h0
  cases p with
  | keep =>
      refine ⟨hb.1, fun q hq => ?_⟩
      by_cases hqs : q = s
      · subst hqs
        exact hself (hp (hb.2 q hq).2)
      · exact hother q hq hqs
  | append =>
      have hs : s ∉ e.pendingBatchStreams := fun hm => (hb.2 s hm).2 hp.1
      refine ⟨List.nodup_append.mpr ⟨hb.1, List.nodup_singleton s, ?_⟩, fun q hq => ?_⟩
      · rintro a ha b hb rfl
        rw [List.mem_singleton] at hb
        exact hs (hb ▸ ha)
      · rcases List.mem_append.mp hq with hq | hq
        · exact hother q hq fun h => hs (h ▸ hq)
        · rw [List.mem_singleton.mp hq]
          exact hself hp.2
  | erase =>
      refine ⟨hb.1.erase s, fun q hq => ?_⟩
      obtain ⟨hqs, hq⟩ := hb.1.mem_erase_iff.mp hq
      exact hother q hq hqs

lemma SameOwn.stepStream {s : ℕ} {x : Stream K} {p : PendMove} (hl : e.LiveStream s)
    (hk : x.own = (e.streams s).own) (hp : p.Ok (e.streams s) x)
    (hm : mv.Did env e.timerManager (.stream s) m)
    (hsub : ∀ ev ∈ evs, ev.subject = some (.stream s)) :
    SameOwn e (e.stepStream s x evs m t st cs p) := by
  refine
    { nconns := rfl, nstreams := rfl, connMap := rfl, handshakeMap := rfl
      nextConnectionId := rfl, conn := fun _ => ConnKept.refl _, stream := fun d => ?_
      owner := hm.owner, idle := hm.idle hl, valid := hm.valid
      batch := fun hb => hb.stepStream hl (congrArg StreamOwn.internalClosed hk) hp
      known := known_append (o := .stream s) hl.1 hsub }
  by_cases hd : d = s
  · subst hd
    simpa [Engine.stepStream] using hk
  · simp [Engine.stepStream, hd]

end Step

/-! ### Finalisation -/

section FinalStream

variable {s : ℕ} (reason : UInt8)

@[simp] lemma finalStream_nconns : (e.finalStream s reason).nconns = e.nconns := rfl
@[simp] lemma finalStream_nstreams : (e.finalStream s reason).nstreams = e.nstreams := rfl

/-- Of the connections only the stream's own is touched, in its table and count. -/
lemma finalStream_conns (c : ℕ) :
    (e.finalStream s reason).conns c = { e.conns c with
      streamMap :=
        if c = (e.streams s).conn then htbDel (e.conns c).streamMap s else (e.conns c).streamMap
      streamCount :=
        if c = (e.streams s).conn then (e.conns c).streamCount - 1
        else (e.conns c).streamCount } := by
  by_cases h : c = (e.streams s).conn
  · subst h
    simp [Engine.finalStream, Engine.connOf]
  · simp [Engine.finalStream, h]

lemma finalStream_streams_of_ne {q : ℕ} (h : q ≠ s) :
    (e.finalStream s reason).streams q = e.streams q := by
  simp [Engine.finalStream, h]

lemma finalStream_streams_self :
    (e.finalStream s reason).streams s = { e.streams s with
      internalClosed := true, pendingCount := 0, inStreamMap := false, kcp := none
      state := if (e.streams s).state = .error then .error else .closed } := by
  simp [Engine.finalStream]

lemma finalStream_streams_conn (q : ℕ) :
    ((e.finalStream s reason).streams q).conn = (e.streams q).conn := by
  by_cases h : q = s
  · subst h; rw [finalStream_streams_self]
  · rw [finalStream_streams_of_ne reason h]

lemma finalStream_liveConn (c : ℕ) : (e.finalStream s reason).LiveConn c ↔ e.LiveConn c := by
  rw [Engine.LiveConn, Engine.LiveConn, finalStream_conns, finalStream_nconns]

lemma finalStream_liveStream (q : ℕ) :
    (e.finalStream s reason).LiveStream q ↔ e.LiveStream q ∧ q ≠ s := by
  rw [Engine.LiveStream, Engine.LiveStream, finalStream_nstreams]
  by_cases h : q = s
  · subst h; simp [finalStream_streams_self]
  · simp [finalStream_streams_of_ne reason h, h]

lemma finalStream_liveIn (c q : ℕ) :
    (e.finalStream s reason).LiveIn c q ↔ e.LiveIn c q ∧ q ≠ s := by
  rw [Engine.LiveIn, Engine.LiveIn, finalStream_liveStream, finalStream_streams_conn]
  tauto

lemma finalStream_livePassive (c : ℕ) :
    (e.finalStream s reason).LivePassive c ↔ e.LivePassive c := by
  rw [Engine.LivePassive, Engine.LivePassive, finalStream_liveConn, finalStream_conns]

/-- A finalised object leaves the timer. -/
lemma owner_unregister {m : TimerManager Owner} {o : Owner} {L L' : Owner → Prop}
    (h : ∀ q, (m.node q).owner = true ↔ L q) (hL : ∀ q, L' q ↔ L q ∧ q ≠ o) (q : Owner) :
    ((timerUnregister m o).node q).owner = true ↔ L' q := by
  rw [hL]
  by_cases hq : q = o
  · subst hq
    simp
  · rw [(timerUnregister_other m hq).owner, h]
    simp [hq]

lemma idle_unregister {m : TimerManager Owner} {o : Owner} {L L' : Owner → Prop}
    (h : ∀ q, ¬ L q → (m.node q).state = .idle) (hL : ∀ q, L' q ↔ L q ∧ q ≠ o) (q : Owner)
    (hq : ¬ L' q) : ((timerUnregister m o).node q).state = .idle := by
  by_cases ho : q = o
  · subst ho
    exact (timerUnregister_self m q).2
  · rw [(timerUnregister_other m ho).state]
    exact h q fun hl => hq ((hL q).mpr ⟨hl, ho⟩)

lemma finalStream_live (q : Owner) :
    (e.finalStream s reason).Live q ↔ e.Live q ∧ q ≠ .stream s := by
  cases q with
  | conn c => simp [finalStream_liveConn]
  | stream q => simp [finalStream_liveStream]

lemma finalStreamEvents_subject (x : Stream K) :
    ∀ ev ∈ finalStreamEvents s x reason, ev.subject = some (.stream s) := by
  intro ev hev
  rw [finalStreamEvents] at hev
  split_ifs at hev <;> simp at hev
  · rcases hev with rfl | rfl <;> rfl
  · rw [hev]; rfl

/-- **Finalising a stream** keeps ownership. -/
lemma Own.finalStream (h : Own env e) (hl : e.LiveStream s) :
    Own env (e.finalStream s reason) := by
  have hlt : ∀ {c}, c < (e.finalStream s reason).nconns → c < e.nconns := fun hc => hc
  refine
    { connTable := ?_, handshakeTable := ?_, streamTable := ?_, connId := ?_, connIdInj := ?_
      handshakeKey := ?_, streamKey := ?_, streamId := ?_, nextId := ?_, initiator := ?_
      inEngineMap := ?_, inStreamMap := ?_, connOf_lt := ?_, kcp := ?_
      owner := owner_unregister h.owner (finalStream_live reason)
      idle := idle_unregister h.idle (finalStream_live reason)
      valid := unregister_valid h.valid _, batch := ?_, known := ?_ }
  · refine h.connTable.congr (fun c => (finalStream_liveConn reason c).symm) fun c _ => ?_
    rw [Engine.connHash, Engine.connHash, finalStream_conns]
  · refine h.handshakeTable.congr (fun c => (finalStream_livePassive reason c).symm) fun c _ => ?_
    rw [Engine.handshakeHash, Engine.handshakeHash, finalStream_conns]
  · intro c hc
    have ht := h.streamTable c (hlt hc)
    have hhash : ∀ q, e.LiveIn c q ∧ q ≠ s →
        e.streamHash env q = (e.finalStream s reason).streamHash env q := by
      intro q hq
      rw [Engine.streamHash, Engine.streamHash, finalStream_streams_of_ne reason hq.2]
    rw [finalStream_conns]
    by_cases hcs : c = (e.streams s).conn
    · rw [if_pos hcs]
      exact (ht.del ⟨hl, hcs.symm⟩).congr (fun q => (finalStream_liveIn reason c q).symm) hhash
    · have hns : ∀ q, e.LiveIn c q → q ≠ s := by
        rintro q hq rfl
        exact hcs hq.2.symm
      rw [if_neg hcs]
      refine ht.congr (fun q => ?_) fun q hq => hhash q ⟨hq, hns q hq⟩
      rw [finalStream_liveIn]
      exact ⟨fun hq => ⟨hq, hns q hq⟩, And.left⟩
  · intro c hc
    rw [finalStream_conns]
    exact h.connId c (hlt hc)
  · intro c hc d hd hcd
    rw [finalStream_conns, finalStream_conns] at hcd
    exact h.connIdInj c (hlt hc) d (hlt hd) hcd
  · intro c d hc hd ha hp
    rw [finalStream_livePassive] at hc hd
    rw [finalStream_conns, finalStream_conns] at ha hp
    exact h.handshakeKey c d hc hd ha hp
  · intro q q' hq hq' hc hi
    rw [finalStream_liveStream] at hq hq'
    rw [finalStream_streams_of_ne reason hq.2, finalStream_streams_of_ne reason hq'.2] at hc hi
    exact h.streamKey q q' hq.1 hq'.1 hc hi
  · intro q hq
    rw [finalStream_liveStream] at hq
    rw [Engine.connOf, ParityOk, finalStream_conns, finalStream_streams_of_ne reason hq.2]
    exact h.streamId q hq.1
  · intro c hc
    rw [ParityOk, finalStream_conns]
    exact h.nextId c (hlt hc)
  · intro c hc
    rw [finalStream_conns]
    exact h.initiator c (hlt hc)
  · intro c hc
    rw [finalStream_conns]
    exact h.inEngineMap c (hlt hc)
  · intro q hq
    by_cases hqs : q = s
    · subst hqs; rw [finalStream_streams_self]; rfl
    · rw [finalStream_streams_of_ne reason hqs]; exact h.inStreamMap q hq
  · intro q hq
    rw [finalStream_streams_conn]
    exact h.connOf_lt q hq
  · intro q hq
    by_cases hqs : q = s
    · subst hqs; rw [finalStream_streams_self]; rfl
    · rw [finalStream_streams_of_ne reason hqs]; exact h.kcp q hq
  · refine ⟨h.batch.1.erase s, fun q hq => ?_⟩
    obtain ⟨hqs, hq⟩ := h.batch.1.mem_erase_iff.mp hq
    rw [finalStream_liveStream, finalStream_streams_of_ne reason hqs]
    exact ⟨⟨(h.batch.2 q hq).1, hqs⟩, (h.batch.2 q hq).2⟩
  · intro ev hev o ho
    rcases known_append (o := .stream s) hl.1
      (finalStreamEvents_subject reason (e.streams s)) ev hev with hev | hev
    · exact h.known ev hev o ho
    · exact hev o ho

end FinalStream

section BeginConn

variable {c : ℕ}

@[simp] lemma beginConn_nconns : (e.beginConn c).nconns = e.nconns := rfl
@[simp] lemma beginConn_nstreams : (e.beginConn c).nstreams = e.nstreams := rfl
@[simp] lemma beginConn_streams : (e.beginConn c).streams = e.streams := rfl

lemma beginConn_conns (d : ℕ) :
    (e.beginConn c).conns d = { e.conns d with
      internalClosed := if d = c then true else (e.conns d).internalClosed
      inEngineMap := if d = c then false else (e.conns d).inEngineMap } := by
  by_cases h : d = c
  · subst h; simp [Engine.beginConn]
  · simp [Engine.beginConn, h]

lemma beginConn_liveConn (d : ℕ) : (e.beginConn c).LiveConn d ↔ e.LiveConn d ∧ d ≠ c := by
  rw [Engine.LiveConn, Engine.LiveConn, beginConn_conns]
  by_cases h : d = c <;> simp [h]

lemma beginConn_livePassive (d : ℕ) :
    (e.beginConn c).LivePassive d ↔ e.LivePassive d ∧ d ≠ c := by
  rw [Engine.LivePassive, Engine.LivePassive, beginConn_liveConn, beginConn_conns]
  tauto

lemma beginConn_live (q : Owner) : (e.beginConn c).Live q ↔ e.Live q ∧ q ≠ .conn c := by
  cases q with
  | conn d => simp [beginConn_liveConn]
  | stream s => simp [Engine.LiveStream]

/-- **The start of a connection's finalisation** keeps ownership. -/
lemma Own.beginConn (h : Own env e) (hl : e.LiveConn c) : Own env (e.beginConn c) := by
  have hlt : ∀ {d}, d < (e.beginConn c).nconns → d < e.nconns := fun hd => hd
  refine
    { connTable := ?_, handshakeTable := ?_, streamTable := ?_, connId := ?_, connIdInj := ?_
      handshakeKey := ?_, streamKey := h.streamKey, streamId := ?_, nextId := ?_
      initiator := ?_, inEngineMap := ?_, inStreamMap := h.inStreamMap
      connOf_lt := h.connOf_lt, kcp := h.kcp, owner := owner_unregister h.owner beginConn_live
      idle := idle_unregister h.idle beginConn_live, valid := unregister_valid h.valid _
      batch := h.batch, known := h.known }
  · refine (h.connTable.del hl).congr (fun d => (beginConn_liveConn d).symm) fun d _ => ?_
    rw [Engine.connHash, Engine.connHash, beginConn_conns]
  · have hhash : ∀ d, e.handshakeHash env d = (e.beginConn c).handshakeHash env d := by
      intro d
      rw [Engine.handshakeHash, Engine.handshakeHash, beginConn_conns]
    by_cases hi : (e.conns c).isInitiator = true
    · have ht : (e.beginConn c).handshakeMap = e.handshakeMap := by simp [Engine.beginConn, hi]
      rw [ht]
      refine h.handshakeTable.congr (fun d => ?_) fun d _ => hhash d
      rw [beginConn_livePassive]
      refine ⟨fun hd => ⟨hd, ?_⟩, And.left⟩
      rintro rfl
      rw [hd.2] at hi
      cases hi
    · rw [Bool.not_eq_true] at hi
      have ht : (e.beginConn c).handshakeMap = htbDel e.handshakeMap c := by
        simp [Engine.beginConn, hi]
      rw [ht]
      exact (h.handshakeTable.del ⟨hl, hi⟩).congr (fun d => (beginConn_livePassive d).symm)
        fun d _ => hhash d
  · intro d hd
    rw [beginConn_conns]
    exact h.streamTable d (hlt hd)
  · intro d hd
    rw [beginConn_conns]
    exact h.connId d (hlt hd)
  · intro d hd d' hd' hdd
    rw [beginConn_conns, beginConn_conns] at hdd
    exact h.connIdInj d (hlt hd) d' (hlt hd') hdd
  · intro d d' hd hd' ha hp
    rw [beginConn_livePassive] at hd hd'
    rw [beginConn_conns, beginConn_conns] at ha hp
    exact h.handshakeKey d d' hd.1 hd'.1 ha hp
  · intro q hq
    rw [Engine.connOf, ParityOk, beginConn_conns]
    exact h.streamId q hq
  · intro d hd
    rw [ParityOk, beginConn_conns]
    exact h.nextId d (hlt hd)
  · intro d hd
    rw [beginConn_conns]
    exact h.initiator d (hlt hd)
  · intro d hd
    rw [beginConn_conns]
    by_cases hdc : d = c
    · simp [hdc]
    · simpa [hdc] using h.inEngineMap d (hlt hd)

end BeginConn

lemma endConnEvents_subject (c : ℕ) (x : Conn) (reason : UInt8) :
    ∀ ev ∈ endConnEvents c x reason, ev.subject = some (.conn c) := by
  intro ev hev
  rw [endConnEvents] at hev
  split_ifs at hev <;> simp at hev
  · rw [hev]; rfl
  · rcases hev with rfl | rfl <;> rfl
  · rw [hev]; rfl

/-- **The end of a connection's finalisation** keeps ownership. -/
lemma Own.endConn (h : Own env e) {c : ℕ} (hc : c < e.nconns) (reason : UInt8) :
    Own env (e.endConn c reason) := by
  refine h.of_same
    { nconns := rfl, nstreams := rfl, connMap := rfl, handshakeMap := rfl
      nextConnectionId := rfl, conn := fun d => ?_, stream := fun _ => rfl
      owner := fun _ => rfl, idle := fun _ _ => rfl, valid := id, batch := id, known := ?_ }
  · by_cases hd : d = c
    · subst hd
      have hst : (if (e.conns d).state = .error then ConnState.error else .closed)
          ≠ .connecting := by split_ifs <;> decide
      simp only [Engine.endConn, Function.update_self]
      exact ⟨rfl, fun _ => rfl, id, fun h => absurd h hst⟩
    · simpa [Engine.endConn, hd] using ConnKept.refl (e.conns d)
  · exact known_append (o := .conn c) hc (endConnEvents_subject c (e.conns c) reason)

end KcpMux
