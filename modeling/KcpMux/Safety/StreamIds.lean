import KcpMux.Lib.Serial
import KcpMux.Runs.Views

/-!
Stream ids: what one side allocates the other side accepts.

`next_stream_id` of a connection moves only in `kcpmux_conn_alloc_stream_id`, once for every id
that is tried.  `AllocRun` is a run with the number of these steps.  An id is `Serial.next` of the
id before, so that `Serial.newer_iterate` relates two ids of a run, however many are skipped
(`AllocRun.next`); `stream_ids_agree` is the result for the test of the peer.
-/

namespace KcpMux

variable {K : Type}

/-- The id that stands for zero. -/
def Conn.firstStreamId (x : Conn) : UInt32 := if x.isInitiator then 1 else 2

/-- The `next_stream_id` after one step of the allocator. -/
def allocNext (first next : UInt32) : UInt32 := (if next = 0 then first else next) + 2

variable (env : Env K)

/-- The ids that the loop of `kcpmux_conn_alloc_stream_id` tries. -/
def connAllocStreamIdSteps (c : ℕ) : ℕ → Engine K → ℕ
  | 0, _ => 0
  | attempts + 1, e =>
      let x := e.conns c
      let id := if x.nextStreamId = 0 then (if x.isInitiator then 1 else 2) else x.nextStreamId
      let e := e.setConn c { x with nextStreamId := id + 2 }
      if (connGetStreamById env e c id).isNone then 1
      else connAllocStreamIdSteps c attempts e + 1

/-- The allocator steps of a call on the connection `c`. -/
def Call.allocSteps (c : ℕ) (e : Engine K) : Call → ℕ
  | .streamCreate d _ _ =>
      if d = c ∧ (e.conns c).state = .connected then
        connAllocStreamIdSteps env c ((e.conns c).streamCount + 1) e
      else 0
  | _ => 0

/-- A run with the number of its allocator steps on the connection `c`. -/
inductive AllocRun (c : ℕ) (e : Engine K) : ℕ → Engine K → Prop
  | refl : AllocRun c e 0 e
  | call {n : ℕ} {e' : Engine K} (h : AllocRun c e n e') (op : Call) (hv : op.Valid e') :
      AllocRun c e (n + op.allocSteps env c e') (op.exec env e')

variable {env} {op : Call} {e e' : Engine K} {c : ℕ}

/-! ### The allocator -/

/-- The steps are counted on the connection and its streams. -/
lemma connAllocStreamIdSteps_congr (attempts : ℕ) : ∀ e e' : Engine K, e'.conns = e.conns →
    e'.streams = e.streams →
    connAllocStreamIdSteps env c attempts e' = connAllocStreamIdSteps env c attempts e := by
  induction attempts with
  | zero => exact fun _ _ _ _ => rfl
  | succ attempts ih =>
      intro e e' hc hs
      have hfind : ∀ (x : Conn) id, connGetStreamById env (e'.setConn c x) c id =
          connGetStreamById env (e.setConn c x) c id := by
        intro x id
        have hcmp : streamCmp (e'.setConn c x) id = streamCmp (e.setConn c x) id := by
          funext s
          rw [streamCmp, streamCmp]
          show (id == (e'.streams s).streamId) = (id == (e.streams s).streamId)
          rw [hs]
        rw [connGetStreamById, connGetStreamById, hcmp]
        simp [Engine.setConn]
      have hrest : ∀ x : Conn, connAllocStreamIdSteps env c attempts (e'.setConn c x) =
          connAllocStreamIdSteps env c attempts (e.setConn c x) := fun x =>
        ih _ _ (by simp [Engine.setConn, hc]) hs
      rw [connAllocStreamIdSteps, connAllocStreamIdSteps]
      simp only [hc, hfind, hrest]

/-- **The allocator** moves `next_stream_id` once for every id it tries, and returns the last
one. -/
lemma connAllocStreamIdLoop_next (env : Env K) (c attempts : ℕ) : ∀ e : Engine K,
    ((connAllocStreamIdLoop env c attempts e).2.conns c).nextStreamId =
        (allocNext (e.conns c).firstStreamId)^[connAllocStreamIdSteps env c attempts e]
          (e.conns c).nextStreamId ∧
      ((connAllocStreamIdLoop env c attempts e).1 ≠ 0 →
        ((connAllocStreamIdLoop env c attempts e).2.conns c).nextStreamId =
            (connAllocStreamIdLoop env c attempts e).1 + 2 ∧
          0 < connAllocStreamIdSteps env c attempts e) := by
  induction attempts with
  | zero => exact fun e => ⟨rfl, fun h => absurd rfl h⟩
  | succ attempts ih =>
      intro e
      obtain ⟨id, hid⟩ : ∃ id, id = if (e.conns c).nextStreamId = 0 then
        (if (e.conns c).isInitiator then 1 else 2) else (e.conns c).nextStreamId := ⟨_, rfl⟩
      have hself : ∀ x : Conn, (e.setConn c x).conns c = x := fun x => by simp [Engine.setConn]
      have hnext : id + 2 = allocNext (e.conns c).firstStreamId (e.conns c).nextStreamId := by
        rw [hid]
        rfl
      rw [connAllocStreamIdLoop, connAllocStreamIdSteps]
      simp only [← hid]
      by_cases hfree : (connGetStreamById env (e.setConn c { e.conns c with nextStreamId := id + 2 })
          c id).isNone = true
      · rw [if_pos hfree, if_pos hfree, hself]
        exact ⟨hnext, fun _ => ⟨rfl, Nat.one_pos⟩⟩
      · obtain ⟨h1, h2⟩ := ih (e.setConn c { e.conns c with nextStreamId := id + 2 })
        rw [hself] at h1
        rw [if_neg hfree, if_neg hfree]
        refine ⟨?_, fun h0 => ⟨(h2 h0).1, Nat.succ_pos _⟩⟩
        rw [h1, Function.iterate_succ_apply, ← hnext]
        rfl

/-- One step of the allocator after an id is the next number. -/
lemma allocNext_iterate (first id : UInt32) (k : ℕ) :
    (allocNext first)^[k] (id + 2) = (Serial.next first)^[k] id + 2 := by
  induction k with
  | zero => rfl
  | succ k ih =>
      rw [Function.iterate_succ_apply', Function.iterate_succ_apply', ih]
      rfl

/-! ### Calls -/

/-- Only the creation of a stream moves `next_stream_id`. -/
lemma ConnView.nextStreamId {x : Conn} {evs : List Event} (hv : ConnView env op e c x evs)
    (hop : ¬ ∃ config callbacks, op = .streamCreate c config callbacks) :
    x.nextStreamId = (e.conns c).nextStreamId := by
  cases hv with
  | trans hl ht h =>
      cases h with
      | nextId h => exact absurd h hop
      | _ => rfl
  | last hl h =>
      cases h
      rfl
  | _ => rfl

/-- Steps of another call leave `next_stream_id` alone. -/
lemma Acts.nextStreamId (ha : Acts env op e e') (h : Sound env e) (hc : c < e.nconns)
    (hop : ¬ ∃ config callbacks, op = .streamCreate c config callbacks) :
    (e'.conns c).nextStreamId = (e.conns c).nextStreamId := by
  induction ha with
  | refl => rfl
  | tail hpre hstep ih =>
      have hc1 := hc.trans_le (Acts.grows hpre h.toOwn).nconns
      obtain ⟨evs, hv, -⟩ := hstep.connViewed (Acts.sound hpre h) hc1
      exact (hv.nextStreamId hop).trans ih

lemma Moves.nextStreamId (hm : Moves env op e e') (h : Steady env e) (hc : c < e.nconns)
    (hop : ¬ ∃ config callbacks, op = .streamCreate c config callbacks) :
    (e'.conns c).nextStreamId = (e.conns c).nextStreamId := by
  refine (hm.induct (P := fun e1 => e.nconns ≤ e1.nconns ∧
    (e1.conns c).nextStreamId = (e.conns c).nextStreamId) h ⟨le_rfl, rfl⟩ ?_).2
  intro e1 e2 hs hmv hP
  obtain ⟨evs, hv, -⟩ := hmv.connViewed hs (hc.trans_le hP.1)
  exact ⟨hP.1.trans (hmv.extends hs).nconns, (hv.nextStreamId hop).trans hP.2⟩

lemma engineRearmTimer_objects (e : Engine K) (now : ℤ) :
    (engineRearmTimer e now).conns = e.conns ∧ (engineRearmTimer e now).streams = e.streams := by
  obtain ⟨a, d, evs, heq, -⟩ := engineRearmTimer_eq e now
  rw [heq]
  exact ⟨rfl, rfl⟩

lemma engineOperationLeave_objects (env : Env K) (e : Engine K) :
    (engineOperationLeave env e).conns = e.conns ∧
      (engineOperationLeave env e).streams = e.streams := by
  rw [engineOperationLeave]
  split_ifs with h0
  · exact ⟨rfl, rfl⟩
  · dsimp only
    split_ifs with h1
    · exact ⟨rfl, rfl⟩
    · rw [engineDrainPendingRelease_eq]
      exact engineRearmTimer_objects _ _

/-- The table of the streams does not count the steps. -/
lemma connAddStream_objects (env : Env K) (e : Engine K) (c s : ℕ) :
    ((connAddStream env e c s).conns c).nextStreamId = (e.conns c).nextStreamId ∧
      ((connAddStream env e c s).streams s).streamId = (e.streams s).streamId := by
  rw [connAddStream]
  dsimp only
  split_ifs
  · exact ⟨rfl, rfl⟩
  · simp [Engine.setConn, Engine.setStream]

lemma allocSteps_connected (config : Option StreamConfig) (callbacks : Option StreamCallbacks)
    (hst : (e.conns c).state = .connected) :
    (Call.streamCreate c config callbacks).allocSteps env c e =
      connAllocStreamIdSteps env c ((e.conns c).streamCount + 1) e := if_pos ⟨rfl, hst⟩

/-- **`kcpmux_stream_create`** takes the steps of its allocator, and the id of the new stream is
the last one it tried. -/
lemma streamCreate_next (h : Sound env e) (hl : e.LiveConn c) (config : Option StreamConfig)
    (callbacks : Option StreamCallbacks) :
    ((streamCreate env e c config callbacks).2.conns c).nextStreamId =
        (allocNext (e.conns c).firstStreamId)^[(Call.streamCreate c config callbacks).allocSteps
          env c e] (e.conns c).nextStreamId ∧
      ∀ s, (streamCreate env e c config callbacks).1 = some s →
        ((streamCreate env e c config callbacks).2.conns c).nextStreamId =
            ((streamCreate env e c config callbacks).2.streams s).streamId + 2 ∧
          0 < (Call.streamCreate c config callbacks).allocSteps env c e ∧
          ((streamCreate env e c config callbacks).2.streams s).streamId ≠ 0 ∧
          ParityOk (e.conns c) ((streamCreate env e c config callbacks).2.streams s).streamId := by
  obtain ⟨e0, he0⟩ : ∃ e0, e0 = engineOperationEnter { e with stats := { e.stats with
    apiStreamCreateCalls := e.stats.apiStreamCreateCalls + 1 } } := ⟨_, rfl⟩
  have hi0 : Inside env e0 := he0 ▸ h.enter _ rfl
  have hconns : e0.conns = e.conns := by rw [he0]; rfl
  have hstreams : e0.streams = e.streams := by rw [he0]; rfl
  have hl0 : e0.LiveConn c := by rw [he0]; exact hl
  have hx0 : e0.conns c = e.conns c := congrFun hconns c
  rw [streamCreate_eq env hl config callbacks he0, hx0]
  by_cases hst : (e.conns c).state = .connected
  · obtain ⟨hnext, hid⟩ := connAllocStreamIdLoop_next env c
      ((e0.conns c).streamCount + 1) e0
    obtain ⟨hmoved, hres⟩ : NextIdMoved env (.streamCreate c config callbacks) c e0 _ ∧ _ :=
      connAllocStreamIdLoop_moved hi0.toSound hl0 ⟨config, callbacks, rfl⟩
        ((e0.conns c).streamCount + 1)
    rw [connAllocStreamIdSteps_congr _ e e0 hconns hstreams] at hnext hid
    rw [if_neg (not_not.mpr hst), allocSteps_connected config callbacks hst, connAllocStreamId, hx0]
    rw [hx0] at hnext hid hmoved hres
    generalize connAllocStreamIdLoop env c ((e.conns c).streamCount + 1) e0 = r
      at hnext hid hmoved hres ⊢
    have hi1 : Inside env r.2 := hmoved.acts.inside hi0
    obtain ⟨next, hr⟩ := hmoved.conn
    have hx1 : (r.2.conns c).state = .connected := by
      rw [hr]
      simpa [Engine.setConn, hx0] using hst
    dsimp only
    split_ifs with hz
    · rw [(engineOperationLeave_objects env r.2).1]
      exact ⟨hnext, fun s hs => by cases hs⟩
    · have hnew : StreamNewed env r.2 c r.1 config true
          (streamNew env r.2 c r.1 config true) :=
        streamNew_newed hi1.depth hmoved.live hx1 _ _ _
      generalize streamNew env r.2 c r.1 config true = q at hnew ⊢
      cases hnew with
      | failed ha =>
          refine ⟨?_, fun s hs => by cases hs⟩
          rw [(engineOperationLeave_objects env _).1, ← hnext]
          exact (ha .update).nextStreamId hi1.toSound hmoved.live.1 (by simp)
      | created =>
          simp only [placeStream_streams_self, placeStream_setStream]
          rw [(engineOperationLeave_objects env _).1,
            (engineOperationLeave_objects env _).2]
          refine ⟨?_, fun s hs => ?_⟩
          · rw [(connAddStream_objects env _ c _).1]
            exact hnext
          · cases Option.some.inj hs
            rw [(connAddStream_objects env _ c _).1, (connAddStream_objects env _ c _).2,
              placeStream_streams_self]
            exact ⟨(hid hz).1, (hid hz).2, hz, (hres hz).1⟩
  · have hsteps : (Call.streamCreate c config callbacks).allocSteps env c e = 0 :=
      if_neg fun hc => hst hc.2
    rw [if_pos hst, hsteps, (engineOperationLeave_objects env e0).1, hx0]
    exact ⟨rfl, fun s hs => by cases hs⟩

/-! ### Runs -/

/-- **Every call** moves `next_stream_id` by its allocator steps. -/
lemma Boundary.exec_next (h : Boundary env e) (hv : op.Valid e) (hc : c < e.nconns) :
    ((op.exec env e).conns c).nextStreamId =
      (allocNext (e.conns c).firstStreamId)^[op.allocSteps env c e] (e.conns c).nextStreamId := by
  by_cases hop : ∃ config callbacks, op = .streamCreate c config callbacks
  · obtain ⟨config, callbacks, rfl⟩ := hop
    exact (streamCreate_next h.toSound hv config callbacks).1
  · have hsteps : op.allocSteps env c e = 0 := by
      cases op with
      | streamCreate d config callbacks =>
          refine if_neg fun hd => hop ⟨config, callbacks, ?_⟩
          rw [hd.1]
      | _ => rfl
    rw [hsteps]
    exact (h.exec hv).1.nextStreamId h.toSteady hc hop

lemma AllocRun.reachable {n : ℕ} (h : AllocRun env c e n e') (hr : Reachable env e) :
    Reachable env e' := by
  induction h with
  | refl => exact hr
  | call _ op hv ih => exact .call ih op hv

/-- **A run** moves `next_stream_id` by its allocator steps. -/
lemma AllocRun.next {n : ℕ} (h : AllocRun env c e n e') (hr : Reachable env e)
    (hc : c < e.nconns) :
    c < e'.nconns ∧ (e'.conns c).isInitiator = (e.conns c).isInitiator ∧
      (e'.conns c).nextStreamId =
        (allocNext (e.conns c).firstStreamId)^[n] (e.conns c).nextStreamId := by
  induction h with
  | refl => exact ⟨hc, rfl, rfl⟩
  | call hrun op hv ih =>
      obtain ⟨hc1, hi1, hn1⟩ := ih
      have hr1 := hrun.reachable hr
      have hx := (Run.refl.call op hv).extends hr1
      refine ⟨hc1.trans_le hx.nconns, (congrArg (·.1) (hx.conn c hc1).1).trans hi1, ?_⟩
      rw [hr1.boundary.exec_next hv hc1, hn1, Conn.firstStreamId, hi1, add_comm,
        Function.iterate_add_apply]
      rfl

/-! ### The peer -/

lemma and_one_eq_mod_two (id : UInt32) : id &&& 1 = id % 2 := by
  rw [← UInt32.toNat_inj, UInt32.toNat_and, UInt32.toNat_mod]
  exact Nat.and_one_is_mod _

/-- Ids of a connection pass the parity test of the peer. -/
lemma ParityOk.peer {x peer : Conn} {id : UInt32} (h : ParityOk x id)
    (hp : peer.isInitiator = !x.isInitiator) : (id % 2 == 1) ≠ peer.isInitiator := by
  rw [hp, h]
  cases x.isInitiator <;> decide

/-- The parity of an id, as a number. -/
lemma ParityOk.first {x : Conn} {id : UInt32} (h : ParityOk x id) :
    x.firstStreamId = 1 ∧ id.toNat % 2 = 1 ∨ x.firstStreamId = 2 ∧ id.toNat % 2 = 0 := by
  have hmod : (id % 2).toNat = id.toNat % 2 := UInt32.toNat_mod _ _
  rw [ParityOk] at h
  rw [Conn.firstStreamId]
  cases hi : x.isInitiator with
  | true =>
      rw [hi, beq_iff_eq] at h
      rw [h] at hmod
      exact Or.inl ⟨rfl, hmod.symm⟩
  | false =>
      rw [hi, beq_eq_false_iff_ne, Ne, ← UInt32.toNat_inj, hmod] at h
      refine Or.inr ⟨rfl, ?_⟩
      have h1 : id.toNat % 2 ≠ 1 := h
      omega

/-- **A new id of the right parity** is accepted if it is newer than the last one. -/
lemma connIsNewPeerStreamId_of_newer {peer : Conn} {id : UInt32} (h0 : id ≠ 0)
    (hpar : (id % 2 == 1) ≠ peer.isInitiator)
    (hnew : peer.peerStreamIdInitialized = false ∨ Serial.Newer peer.latestPeerStreamId id) :
    connIsNewPeerStreamId peer id = true := by
  rw [connIsNewPeerStreamId, if_neg h0, and_one_eq_mod_two, if_neg hpar]
  split_ifs with hinit
  · rfl
  · exact decide_eq_true (hnew.resolve_left hinit)

/-- **The allocator and the acceptor agree.**  An id that `kcpmux_stream_create` allocates has a
parity the peer accepts, and if the peer has last accepted `x`, it accepts every id allocated
after `x` in the run, up to fewer than `2 ^ 30 - 1` steps of the allocator. -/
theorem stream_ids_agree (h : Reachable env e) (hl : e.LiveConn c) {config : Option StreamConfig}
    {callbacks : Option StreamCallbacks} {s : ℕ}
    (hx : (streamCreate env e c config callbacks).1 = some s) (peer : Conn)
    (hp : peer.isInitiator = !(e.conns c).isInitiator) :
    ((((streamCreate env e c config callbacks).2.streams s).streamId % 2 == 1) ≠ peer.isInitiator ∧
      connIsNewPeerStreamId { peer with peerStreamIdInitialized := false }
        ((streamCreate env e c config callbacks).2.streams s).streamId = true) ∧
    ∀ n e' config' callbacks' s',
      AllocRun env c (streamCreate env e c config callbacks).2 n e' → e'.LiveConn c →
      (streamCreate env e' c config' callbacks').1 = some s' →
      n + (Call.streamCreate c config' callbacks').allocSteps env c e' < 2 ^ 30 - 1 →
      peer.latestPeerStreamId = ((streamCreate env e c config callbacks).2.streams s).streamId →
      connIsNewPeerStreamId peer
        ((streamCreate env e' c config' callbacks').2.streams s').streamId = true := by
  have hv : (Call.streamCreate c config callbacks).Valid e := hl
  have hr1 : Reachable env (streamCreate env e c config callbacks).2 := h.call _ hv
  have hext : Extends e (streamCreate env e c config callbacks).2 := (Run.refl.call _ hv).extends h
  obtain ⟨-, hcreated⟩ := streamCreate_next h.boundary.toSound hl config callbacks
  obtain ⟨hnext, -, h0, hpar⟩ := hcreated s hx
  generalize streamCreate env e c config callbacks = r at hx hr1 hext hnext h0 hpar ⊢
  refine ⟨⟨hpar.peer hp, connIsNewPeerStreamId_of_newer h0 (hpar.peer hp) (Or.inl rfl)⟩, ?_⟩
  intro n e' config' callbacks' s' hrun hl' hy hk hlatest
  obtain ⟨-, hi', hn'⟩ := hrun.next hr1 (hl.1.trans_le hext.nconns)
  have hi : (r.2.conns c).isInitiator = (e.conns c).isInitiator :=
    congrArg (·.1) (hext.conn c hl.1).1
  obtain ⟨hnext', hcreated'⟩ :=
    streamCreate_next (hrun.reachable hr1).boundary.toSound hl' config' callbacks'
  obtain ⟨hid, hpos, h0', hpar'⟩ := hcreated' s' hy
  generalize (Call.streamCreate c config' callbacks').allocSteps env c e' = k at hk hnext' hpos
  generalize streamCreate env e' c config' callbacks' = r' at hid hnext' h0' hpar' ⊢
  have hfirst : (e'.conns c).firstStreamId = (e.conns c).firstStreamId := by
    rw [Conn.firstStreamId, Conn.firstStreamId, hi', hi]
  have hfirst1 : (r.2.conns c).firstStreamId = (e.conns c).firstStreamId := by
    rw [Conn.firstStreamId, Conn.firstStreamId, hi]
  -- the later id is so many numbers after the earlier one
  have hsteps : (r'.2.streams s').streamId =
      (Serial.next (e.conns c).firstStreamId)^[n + k] (r.2.streams s).streamId := by
    rw [hid, hfirst, hn', hfirst1, hnext, ← Function.iterate_add_apply, add_comm k n,
      allocNext_iterate] at hnext'
    exact (UInt32.add_left_inj 2).mp hnext'
  refine connIsNewPeerStreamId_of_newer h0' (hpar'.peer (by rw [hp, hi', hi])) (Or.inr ?_)
  rw [hlatest, hsteps]
  exact Serial.newer_iterate hpar.first (by omega) hk

/-- The other side of an accepted connection, after its first stream. -/
def streamingPeer : Conn :=
  { (default : Conn) with
    isInitiator := true, peerStreamIdInitialized := true
    latestPeerStreamId := (streaming.streams 0).streamId }

/-- Two streams of an accepted connection, one after the other. -/
theorem stream_ids_agree_second_stream :
    (streamCreate (idealHost 0 0) streaming 0 none none).1 = some 1 ∧
      connIsNewPeerStreamId streamingPeer
        ((streamCreate (idealHost 0 0) streaming 0 none none).2.streams 1).streamId = true := by
  have hfirst : (streamCreate (idealHost 0 0) accepted 0 none none).1 = some 0 := by
    decide +kernel
  have hsecond : (streamCreate (idealHost 0 0) streaming 0 none none).1 = some 1 := by
    decide +kernel
  have hlive : accepted.LiveConn 0 := ⟨by decide +kernel, by decide +kernel⟩
  have hlive' : streaming.LiveConn 0 := ⟨by decide +kernel, by decide +kernel⟩
  have hpassive : (accepted.conns 0).isInitiator = false := by decide +kernel
  have hsteps : 0 + (Call.streamCreate 0 none none).allocSteps (idealHost 0 0) 0 streaming <
      2 ^ 30 - 1 := by decide +kernel
  have hstream : (streamCreate (idealHost 0 0) accepted 0 none none).2 = streaming := rfl
  have hlatest : streamingPeer.latestPeerStreamId = (streaming.streams 0).streamId := by
    rw [streamingPeer]
  have key := (stream_ids_agree accepted_reachable hlive hfirst streamingPeer
    (by rw [hpassive]; rfl)).2 0 streaming none none 1
  rw [hstream] at key
  exact ⟨hsecond, key .refl hlive' hsecond hsteps hlatest⟩

end KcpMux
