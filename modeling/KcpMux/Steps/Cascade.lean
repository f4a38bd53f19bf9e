import KcpMux.Steps.Sound

/-!
The cascade: what the finalisation of a connection does to its streams.

`kcpmux_conn_close_internal` walks the buckets of the stream table while the table shrinks
under it.  `connCloseStreams_induct` shows that this finalises every live stream of the
connection, one after the other, and `connFinal_induct` is the resulting rule: what the
beginning, the finalisation of one stream and the end preserve, the whole preserves.
-/

namespace KcpMux

variable {K : Type} {env : Env K} {e : Engine K}

/-- A state of the cascade over the streams of `c`, with a property `P` that it keeps. -/
structure Cascade (env : Env K) (c : ℕ) (P : Engine K → Prop) (e : Engine K) : Prop where
  own : Own env e
  depth : 0 < e.operationDepth
  lt : c < e.nconns
  closed : (e.conns c).internalClosed = true
  holds : P e

/-- The rounds of the cascade keep `P`. -/
def CascadeKeeps (env : Env K) (c : ℕ) (reason : UInt8) (P : Engine K → Prop) : Prop :=
  ∀ e s, Own env e → 0 < e.operationDepth → (e.conns c).internalClosed = true → e.LiveIn c s →
    P e → P (e.finalStream s reason)

variable {c : ℕ} {reason : UInt8} {P : Engine K → Prop}

/-- One round of the cascade. -/
lemma Cascade.step (hstep : CascadeKeeps env c reason P) (h : Cascade env c P e) {s : ℕ}
    (hs : e.LiveIn c s) : Cascade env c P (streamCloseInternal env e s reason) := by
  rw [streamCloseInternal_eq h.depth h.own hs.1]
  refine ⟨h.own.finalStream reason hs.1, h.depth, h.lt, ?_,
    hstep e s h.own h.depth h.closed hs h.holds⟩
  rw [finalStream_conns]
  exact h.closed

/-- The streams of one bucket. -/
lemma Cascade.bucket (hstep : CascadeKeeps env c reason P) :
    ∀ (l : List ℕ) (e : Engine K), Cascade env c P e → l.Nodup → (∀ s ∈ l, e.LiveIn c s) →
      Cascade env c P (l.foldl (fun e s => streamCloseInternal env e s reason) e) ∧
        ((l.foldl (fun e s => streamCloseInternal env e s reason) e).conns c).streamMap.size =
          (e.conns c).streamMap.size ∧
        ∀ q, (l.foldl (fun e s => streamCloseInternal env e s reason) e).LiveIn c q →
          (e.LiveIn c q ∧ q ∉ l) ∧
            (l.foldl (fun e s => streamCloseInternal env e s reason) e).streamHash env q =
              e.streamHash env q := by
  intro l
  induction l with
  | nil => exact fun e h _ _ => ⟨h, rfl, fun q hq => ⟨⟨hq, by simp⟩, rfl⟩⟩
  | cons s l ih =>
      intro e h hnd hl
      rw [List.nodup_cons] at hnd
      have hs : e.LiveIn c s := hl s List.mem_cons_self
      have hlive : ∀ q, (streamCloseInternal env e s reason).LiveIn c q ↔
          e.LiveIn c q ∧ q ≠ s := by
        intro q
        rw [streamCloseInternal_eq h.depth h.own hs.1, finalStream_liveIn]
      have hrest : ∀ q ∈ l, (streamCloseInternal env e s reason).LiveIn c q := by
        intro q hq
        refine (hlive q).mpr ⟨hl q (List.mem_cons_of_mem s hq), ?_⟩
        rintro rfl
        exact hnd.1 hq
      obtain ⟨h1, h2, h3⟩ := ih _ (h.step hstep hs) hnd.2 hrest
      refine ⟨h1, h2.trans ?_, fun q hq => ?_⟩
      · rw [streamCloseInternal_eq h.depth h.own hs.1, finalStream_conns]
        simp [hs.2.symm, htbDel_size]
      · obtain ⟨⟨hq1, hq2⟩, hq3⟩ := h3 q hq
        obtain ⟨hq1, hqs⟩ := (hlive q).mp hq1
        refine ⟨⟨hq1, by simp [hqs, hq2]⟩, hq3.trans ?_⟩
        rw [streamCloseInternal_eq h.depth h.own hs.1, Engine.streamHash, Engine.streamHash,
          finalStream_streams_of_ne reason hqs]

/-- The buckets of a list of indices: a stream that is still live hashes elsewhere. -/
lemma Cascade.buckets (hstep : CascadeKeeps env c reason P) :
    ∀ (l : List ℕ) (e : Engine K), Cascade env c P e →
      let e' := l.foldl (fun e i => ((e.conns c).streamMap.hashtable i).foldl
        (fun e s => streamCloseInternal env e s reason) e) e
      Cascade env c P e' ∧ (e'.conns c).streamMap.size = (e.conns c).streamMap.size ∧
        ∀ q, e'.LiveIn c q → e.LiveIn c q ∧ e'.streamHash env q = e.streamHash env q ∧
          (e.streamHash env q).toNat % (e.conns c).streamMap.size ∉ l := by
  intro l
  induction l with
  | nil => exact fun e h => ⟨h, rfl, fun q hq => ⟨hq, rfl, by simp⟩⟩
  | cons i l ih =>
      intro e h
      have ht := h.own.streamTable c h.lt
      obtain ⟨h1, h2, h3⟩ := Cascade.bucket hstep ((e.conns c).streamMap.hashtable i) e h
        (ht.nodup i) fun s hs => ((ht.mem i s).mp hs).1
      obtain ⟨g1, g2, g3⟩ := ih _ h1
      refine ⟨g1, g2.trans h2, fun q hq => ?_⟩
      obtain ⟨hq1, hq2, hq3⟩ := g3 q hq
      obtain ⟨⟨hq4, hq5⟩, hq6⟩ := h3 q hq1
      refine ⟨hq4, hq2.trans hq6, ?_⟩
      rw [hq6, h2] at hq3
      rw [List.mem_cons, not_or]
      exact ⟨fun hi => hq5 ((ht.mem i q).mpr ⟨hq4, hi⟩), hq3⟩

/-- **The cascade finalises every live stream of the connection**, and keeps what each
finalisation keeps. -/
lemma connCloseStreams_induct (hstep : CascadeKeeps env c reason P) (h : Cascade env c P e) :
    Cascade env c P (connCloseStreams env e c reason) ∧
      ∀ q, ¬ (connCloseStreams env e c reason).LiveIn c q := by
  obtain ⟨h1, -, h3⟩ := Cascade.buckets hstep (List.range (e.conns c).streamMap.size) e h
  refine ⟨h1, fun q hq => ?_⟩
  obtain ⟨-, -, hq⟩ := h3 q hq
  exact hq (List.mem_range.mpr (Nat.mod_lt _ (h.own.streamTable c h.lt).pos))

/-- **The rule for the finalisation of a connection.** -/
lemma connFinal_induct (h : Own env e) (hd : 0 < e.operationDepth) (hl : e.LiveConn c)
    (hbegin : P (e.beginConn c)) (hstep : CascadeKeeps env c reason P) {Q : Engine K → Prop}
    (hend : ∀ e', Own env e' → 0 < e'.operationDepth → c < e'.nconns →
      (e'.conns c).internalClosed = true → (∀ q, ¬ e'.LiveIn c q) → P e' →
      Q (e'.endConn c reason)) : Q (connCloseInternal env e c reason) := by
  rw [connCloseInternal_eq hd h hl]
  have h0 : Cascade env c P (e.beginConn c) :=
    ⟨h.beginConn hl, hd, hl.1, by simp [beginConn_conns], hbegin⟩
  obtain ⟨h1, h2⟩ := connCloseStreams_induct hstep h0
  exact hend _ h1.own h1.depth h1.lt h1.closed h2 h1.holds

/-- **Finalising a connection** keeps ownership. -/
lemma Own.connFinal (h : Own env e) (hd : 0 < e.operationDepth) (hl : e.LiveConn c) :
    Own env (connCloseInternal env e c reason) :=
  connFinal_induct (P := fun _ => True) h hd hl trivial (fun _ _ _ _ _ _ _ => trivial)
    fun _ ho _ hc _ _ _ => ho.endConn hc reason

end KcpMux
