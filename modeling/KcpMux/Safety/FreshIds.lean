import KcpMux.Safety.StreamIds

/-!
The search for a stream id does not give up.

`kcpmux_conn_alloc_stream_id` tries `stream_count + 1` ids.  They are the numbers that follow
`next_stream_id` (`connAllocStreamIdLoop_tries`), which do not repeat, and at most
`stream_count` of them are in use; so one of them is free (`stream_id_allocation`).
-/

namespace KcpMux

variable {K : Type} {env : Env K} {e : Engine K} {c : ℕ}

/-- The first id that the allocator tries. -/
def Conn.startStreamId (x : Conn) : UInt32 :=
  if x.nextStreamId = 0 then x.firstStreamId else x.nextStreamId

/-- The ids that the allocator tries, one after the other. -/
def Conn.candidate (x : Conn) (k : ℕ) : UInt32 := (Serial.next x.firstStreamId)^[k] x.startStreamId

lemma Conn.firstStreamId_ne_zero (x : Conn) : x.firstStreamId ≠ 0 := by
  rw [Conn.firstStreamId]
  split_ifs <;> decide

lemma Conn.firstStreamId_parity (x : Conn) : ParityOk x x.firstStreamId := by
  rw [ParityOk, Conn.firstStreamId]
  cases x.isInitiator <;> decide

lemma Conn.startStreamId_ne_zero (x : Conn) : x.startStreamId ≠ 0 := by
  rw [Conn.startStreamId]
  split_ifs with h
  · exact x.firstStreamId_ne_zero
  · exact h

/-- Every candidate is an id that the connection may hand out. -/
lemma Conn.candidate_ok (x : Conn) (h : x.nextStreamId = 0 ∨ ParityOk x x.nextStreamId) (k : ℕ) :
    x.candidate k ≠ 0 ∧ ParityOk x (x.candidate k) := by
  induction k with
  | zero =>
      refine ⟨x.startStreamId_ne_zero, ?_⟩
      show ParityOk x x.startStreamId
      rw [Conn.startStreamId]
      split_ifs with h0
      · exact x.firstStreamId_parity
      · exact h.resolve_left h0
  | succ k ih =>
      rw [Conn.candidate, Function.iterate_succ_apply', ← Conn.candidate, Serial.next]
      split_ifs with h0
      · exact ⟨x.firstStreamId_ne_zero, x.firstStreamId_parity⟩
      · exact ⟨h0, parityOk_add_two ih.2⟩

lemma connGetStreamById_setConn (x : Conn) (hx : x.streamMap = (e.conns c).streamMap) (id : UInt32) :
    connGetStreamById env (e.setConn c x) c id = connGetStreamById env e c id := by
  have hcmp : streamCmp (e.setConn c x) id = streamCmp e id := rfl
  rw [connGetStreamById, connGetStreamById, hcmp]
  simp [Engine.setConn, hx]

/-- **The loop of the allocator** returns the first candidate that is free, or all of them are
taken. -/
lemma connAllocStreamIdLoop_tries (env : Env K) (c attempts : ℕ) : ∀ e : Engine K,
    (∃ k, (connAllocStreamIdLoop env c attempts e).1 = (e.conns c).candidate k ∧
        connGetStreamById env e c ((e.conns c).candidate k) = none ∧
        ((connAllocStreamIdLoop env c attempts e).2.conns c).nextStreamId =
          (e.conns c).candidate k + 2) ∨
      ∀ k < attempts, connGetStreamById env e c ((e.conns c).candidate k) ≠ none := by
  induction attempts with
  | zero => exact fun e => Or.inr fun k hk => absurd hk (Nat.not_lt_zero k)
  | succ attempts ih =>
      intro e
      have hstart : (if (e.conns c).nextStreamId = 0 then
          (if (e.conns c).isInitiator then 1 else 2) else (e.conns c).nextStreamId) =
          (e.conns c).startStreamId := rfl
      rw [connAllocStreamIdLoop]
      simp only [hstart]
      set x : Conn := { e.conns c with nextStreamId := (e.conns c).startStreamId + 2 } with hx
      have hself : (e.setConn c x).conns c = x := by simp [Engine.setConn]
      have hget : ∀ id, connGetStreamById env (e.setConn c x) c id = connGetStreamById env e c id :=
        connGetStreamById_setConn x rfl
      -- the candidates of the next round are those of this one without the first
      have hcand : ∀ k, x.candidate k = (e.conns c).candidate (k + 1) := fun k => by
        rw [Conn.candidate, Conn.candidate, Function.iterate_succ_apply]
        rfl
      by_cases hfree : (connGetStreamById env (e.setConn c x) c (e.conns c).startStreamId).isNone
      · rw [if_pos hfree]
        rw [hget, Option.isNone_iff_eq_none] at hfree
        exact Or.inl ⟨0, rfl, hfree, by rw [hself]; rfl⟩
      · rw [if_neg hfree]
        rw [hget, Option.isNone_iff_eq_none] at hfree
        rcases ih (e.setConn c x) with ⟨k, h1, h2, h3⟩ | hall
        · rw [hself, hcand] at h1 h2 h3
          rw [hget] at h2
          exact Or.inl ⟨k + 1, h1, h2, h3⟩
        · refine Or.inr fun k hk => ?_
          cases k with
          | zero => exact hfree
          | succ k =>
              have := hall k (by omega)
              rwa [hself, hcand, hget] at this

/-- Fewer candidates are taken than there are streams. -/
lemma Steady.exists_free (h : Steady env e) (hc : c < e.nconns) {x : Conn}
    (hx : x.nextStreamId = 0 ∨ ParityOk x x.nextStreamId)
    (hcount : (e.conns c).streamCount < 2 ^ 31 - 1) :
    ∃ k < (e.conns c).streamCount + 1, connGetStreamById env e c (x.candidate k) = none := by
  by_contra hall
  push Not at hall
  have hfound : ∀ k : ℕ, ∃ s, k < (e.conns c).streamCount + 1 →
      e.LiveIn c s ∧ (e.streams s).streamId = x.candidate k := by
    intro k
    by_cases hk : k < (e.conns c).streamCount + 1
    · obtain ⟨s, hs⟩ := Option.ne_none_iff_exists'.mp (hall k hk)
      exact ⟨s, fun _ => (connGetStreamById_eq_some h.toOwn hc).mp hs⟩
    · exact ⟨0, fun hk' => absurd hk' hk⟩
  choose s hs using hfound
  have hpar := (x.candidate_ok hx 0).2.first
  have hne : ∀ i j, i < j → j < (e.conns c).streamCount + 1 → x.candidate i ≠ x.candidate j :=
    fun i j hij hj => Serial.iterate_ne hpar x.startStreamId_ne_zero hij (by omega)
  have hcard : (Finset.range ((e.conns c).streamCount + 1)).card ≤ (e.liveStreamsOf c).card := by
    refine Finset.card_le_card_of_injOn s (fun k hk => ?_) fun i hi' j hj' hij => ?_
    · exact (e.mem_liveStreamsOf c _).mpr (hs k (Finset.mem_range.mp hk)).1
    · have hi1 := Finset.mem_range.mp hi'
      have hj1 := Finset.mem_range.mp hj'
      have hsame : x.candidate i = x.candidate j := by
        rw [← (hs i hi1).2, ← (hs j hj1).2, hij]
      rcases lt_trichotomy i j with hlt | heq | hlt
      · exact absurd hsame (hne i j hlt hj1)
      · exact heq
      · exact absurd hsame.symm (hne j i hlt hi1)
  rw [Finset.card_range, ← h.counted.streamCount c hc] at hcard
  omega

/-- The id `r.1` is one that the connection may hand out, it is not in use, and the engine `r.2`
is ready for the next one. -/
structure FreshId (env : Env K) (e : Engine K) (c : ℕ) (r : UInt32 × Engine K) : Prop where
  ne_zero : r.1 ≠ 0
  parity : ParityOk (e.conns c) r.1
  unused : connGetStreamById env e c r.1 = none
  fresh : ∀ s, e.LiveIn c s → (e.streams s).streamId ≠ r.1
  next : ParityOk (e.conns c) (r.2.conns c).nextStreamId

/-- **A stream id is always found.**  For every connection with fewer than `2 ^ 31 - 1` streams
the allocator returns an id that is not zero, has the connection's parity and is not in use; it
leaves `next_stream_id` with the same parity.  This holds wherever `next_stream_id` stands. -/
theorem stream_id_allocation (h : Reachable env e) (hc : c < e.nconns)
    (hcount : (e.conns c).streamCount < 2 ^ 31 - 1) :
    FreshId env e c (connAllocStreamId env e c) ∧
      ∀ n, n = 0 ∨ ParityOk (e.conns c) n →
        FreshId env e c
          (connAllocStreamId env (e.setConn c { e.conns c with nextStreamId := n }) c) := by
  have hs := h.boundary.toSteady
  have hany : ∀ n, n = 0 ∨ ParityOk (e.conns c) n → FreshId env e c
      (connAllocStreamId env (e.setConn c { e.conns c with nextStreamId := n }) c) := by
    intro n hn
    set x : Conn := { e.conns c with nextStreamId := n } with hx
    have hself : (e.setConn c x).conns c = x := by simp [Engine.setConn]
    have hget : ∀ id, connGetStreamById env (e.setConn c x) c id = connGetStreamById env e c id :=
      connGetStreamById_setConn x rfl
    rw [connAllocStreamId, hself]
    show FreshId env e c (connAllocStreamIdLoop env c ((e.conns c).streamCount + 1) _)
    rcases connAllocStreamIdLoop_tries env c ((e.conns c).streamCount + 1) (e.setConn c x) with
      ⟨k, h1, h2, h3⟩ | hall
    · rw [hself] at h1 h2 h3
      rw [hget] at h2
      obtain ⟨hne, hpar⟩ := x.candidate_ok hn k
      refine ⟨h1 ▸ hne, h1 ▸ hpar, h1 ▸ h2, fun s hin hid => ?_, h3 ▸ parityOk_add_two hpar⟩
      rw [h1] at hid
      rw [(connGetStreamById_eq_some hs.toOwn hc).mpr ⟨hin, hid⟩] at h2
      cases h2
    · obtain ⟨k, hk, hfree⟩ := hs.exists_free hc (x := x) hn hcount
      have := hall k hk
      rw [hself, hget] at this
      exact absurd hfree this
  have hown := hany _ (Or.inr (hs.nextId c hc))
  have hsetself : e.setConn c { e.conns c with nextStreamId := (e.conns c).nextStreamId } = e := by
    simp [Engine.setConn]
  rw [hsetself] at hown
  exact ⟨hown, hany⟩

/-- The search at the wrap of the id space. -/
theorem stream_id_allocation_streaming :
    FreshId (idealHost 0 0) streaming 0 (connAllocStreamId (idealHost 0 0)
      (streaming.setConn 0 { streaming.conns 0 with nextStreamId := 0 }) 0) :=
  (stream_id_allocation streaming_reachable (by decide +kernel) (by decide +kernel)).2 0 (Or.inl rfl)

end KcpMux
