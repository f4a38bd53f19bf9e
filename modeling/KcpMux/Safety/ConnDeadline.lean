import KcpMux.Runs.Views

/-!
The deadline of a connection and its timer callback.

`kcpmux_conn_calculate_deadline` takes the earliest of up to three deadlines, and
`kcpmux_conn_update` tests the same deadlines again, one by one.

* `connConnectedDeadline_le`: the earliest has passed when one of the three has;
* `Engine.PreparedConfigs`: at every point of a run the intervals of a connection that its
  deadlines are counted with are not zero;
* `connUpdate_agrees`: before the deadline the callback only sets the timer node, afterwards
  it acts, and what it leaves is not due at the same time.
-/

namespace KcpMux

variable {K : Type} {env : Env K} {op : Call} {e e' : Engine K} {c : ℕ}

/-! ### Deadlines -/

lemma deadlineAfter_le_int64Max (a : ℤ) (i : UInt32) : deadlineAfter a i ≤ int64Max := by
  rw [deadlineAfter]
  split_ifs <;> omega

/-- A deadline counted from now lies ahead, unless it is the end of time. -/
lemma lt_deadlineAfter {now a : ℤ} {i : UInt32} (ha : now ≤ a) (hi : i ≠ 0) :
    now < deadlineAfter a i ∨ deadlineAfter a i = int64Max := by
  have hpos : 0 < i.toNat := Nat.pos_of_ne_zero fun h => hi (UInt32.toNat_inj.mp h)
  rw [deadlineAfter]
  split_ifs
  · exact Or.inr rfl
  · exact Or.inl (by omega)

/-- The deadline of a connected connection has passed when one of its three deadlines has. -/
lemma connConnectedDeadline_le (x : Conn) (now : ℤ) :
    connConnectedDeadline x ≤ now ↔
      deadlineAfter x.lastRecvTs x.config.keepaliveTimeoutMs ≤ now ∨
      (x.config.keepaliveIntervalMs > 0 ∧
        deadlineAfter x.lastKeepaliveTs x.config.keepaliveIntervalMs ≤ now) ∨
      (x.config.idleTimeoutMs > 0 ∧
        deadlineAfter x.lastPayloadTs x.config.idleTimeoutMs ≤ now) := by
  rw [connConnectedDeadline]
  generalize deadlineAfter x.lastRecvTs _ = a
  generalize deadlineAfter x.lastKeepaliveTs _ = b
  generalize deadlineAfter x.lastPayloadTs _ = d
  by_cases hk : x.config.keepaliveIntervalMs > 0 <;> by_cases hi : x.config.idleTimeoutMs > 0 <;>
    simp only [hk, hi, if_true, if_false, true_and, false_and, or_false, false_or] <;>
    (try split_ifs) <;> omega

/-- The deadline of a live connection in one of the three states with a deadline. -/
lemma connCalculateDeadline_some {x : Conn} (hx : x.internalClosed = false) {d : ℤ} :
    connCalculateDeadline x = some d ↔ d ≠ int64Max ∧
      ((x.state = .connecting ∨ x.state = .closing) ∧
          d = deadlineAfter x.lastCtrlTs x.config.ctrlTimeoutMs ∨
        x.state = .connected ∧ d = connConnectedDeadline x) := by
  rw [connCalculateDeadline, if_neg (by simp [hx])]
  cases x.state <;> dsimp only <;> split_ifs with h <;> constructor <;> intro h' <;>
    simp_all

/-! ### Configurations -/

/-- The intervals a connection counts its deadlines with are not zero. -/
def Engine.PreparedConfigs (e : Engine K) : Prop :=
  ∀ c < e.nconns, (e.conns c).config.ctrlTimeoutMs ≠ 0 ∧
    (e.conns c).config.keepaliveTimeoutMs ≠ 0

lemma connConfigPrepare_intervals {config prepared : ConnConfig}
    (h : connConfigPrepare config = some prepared) :
    prepared.ctrlTimeoutMs ≠ 0 ∧ prepared.keepaliveTimeoutMs ≠ 0 := by
  rw [connConfigPrepare] at h
  split_ifs at h with h1 h2
  · obtain rfl := Option.some.inj h
    exact ⟨h1, show defaultKeepaliveTimeoutMs ≠ 0 by decide⟩
  · obtain rfl := Option.some.inj h
    exact ⟨h1, h2⟩

/-- **At every point of a run** every connection has a prepared configuration. -/
lemma Midway.preparedConfigs (h : Midway env e) : e.PreparedConfigs := by
  refine h.eachConn (P := fun _ x _ => x.config.ctrlTimeoutMs ≠ 0 ∧
    x.config.keepaliveTimeoutMs ≠ 0) (fun op e t x hx => ?_) fun op e c x evs _ _ hv hP => ?_
  · cases hx with
    | initiator _ hc => exact connConfigPrepare_intervals hc
    | passive _ _ hc => exact connConfigPrepare_intervals hc
  · cases hv with
    | trans _ _ h =>
        cases h with
        | config _ hc => exact connConfigPrepare_intervals hc
        | _ => exact hP
    | last _ h => cases h; exact hP
    | _ => exact hP

/-! ### The timer node after a refresh -/

/-- No deadline of the connection has passed, and its timer node is set for the next one. -/
def ConnArmed (e : Engine K) (c : ℕ) (now : ℤ) : Prop :=
  match connCalculateDeadline (e.conns c) with
  | none => (e.timerManager.node (.conn c)).state = .idle
  | some d => now < d ∧ (e.timerManager.node (.conn c)).state = .heap ∧
      (e.timerManager.node (.conn c)).deadlineMs = d

lemma ConnArmed.lt {now d : ℤ} (h : ConnArmed e c now)
    (hd : connCalculateDeadline (e.conns c) = some d) : now < d := by
  rw [ConnArmed, hd] at h
  exact h.1

/-- A refreshed node with its deadline ahead. -/
lemma connArmed_of_leaves {n : TimerNode} {x : Conn} {now : ℤ} (hx : e.conns c = x)
    (h : (connMove x now).Leaves n (e.timerManager.node (.conn c)))
    (hd : ∀ d, connCalculateDeadline x = some d → now < d) : ConnArmed e c now := by
  rw [connMove] at h
  rw [ConnArmed, hx]
  cases hc : connCalculateDeadline x with
  | none => simpa [hc, TimerMove.Leaves] using h
  | some d =>
      have hlt := hd d hc
      simp only [hc, TimerMove.Leaves, max_eq_left hlt.le] at h
      exact ⟨hlt, h⟩

/-- The deadline of a control message that has just been sent. -/
lemma ctrl_ahead {x : Conn} {now : ℤ} (hx : x.internalClosed = false)
    (hs : x.state ≠ .connected) (hcfg : x.config.ctrlTimeoutMs ≠ 0) (hnow : now ≤ x.lastCtrlTs)
    (d : ℤ) (hd : connCalculateDeadline x = some d) : now < d := by
  obtain ⟨hne, ⟨-, rfl⟩ | ⟨hs', -⟩⟩ := (connCalculateDeadline_some hx).mp hd
  · exact (lt_deadlineAfter hnow hcfg).resolve_right hne
  · exact absurd hs' hs

/-- The deadline after a keepalive that was the only thing due. -/
lemma keepalive_ahead {x : Conn} {now : ℤ} (hx : x.internalClosed = false)
    (hs : x.state = .connected)
    (hrecv : ¬ now ≥ deadlineAfter x.lastRecvTs x.config.keepaliveTimeoutMs)
    (hidle : ¬ (x.config.idleTimeoutMs > 0 ∧
      now ≥ deadlineAfter x.lastPayloadTs x.config.idleTimeoutMs))
    (hnow : now ≤ x.lastKeepaliveTs) (d : ℤ) (hd : connCalculateDeadline x = some d) : now < d := by
  obtain ⟨-, ⟨hs', -⟩ | ⟨-, rfl⟩⟩ := (connCalculateDeadline_some hx).mp hd
  · rw [hs] at hs'
    simp at hs'
  · by_contra hle
    rcases (connConnectedDeadline_le x now).mp (not_lt.mp hle) with h | ⟨hk, h⟩ | h
    · exact hrecv h
    · have hne : x.config.keepaliveIntervalMs ≠ 0 := (UInt32.ne_of_lt hk).symm
      have hmax := deadlineAfter_le_int64Max x.lastRecvTs x.config.keepaliveTimeoutMs
      rcases lt_deadlineAfter hnow hne with hlt | heq
      · omega
      · omega
    · exact hidle h

/-- A node that is refreshed twice for the same record. -/
lemma connMove_twice {x : Conn} {now now' : ℤ} {m m1 m2 : TimerManager Owner} {o : Owner}
    (hr : (m.node o).state = .heap ∨ m.size < m.capacity)
    (h1 : (connMove x now).Did env m o m1) (h2 : (connMove x now').Did env m1 o m2) :
    (connMove x now').Leaves (m.node o) (m2.node o) := by
  rw [connMove] at h1 h2 ⊢
  cases hc : connCalculateDeadline x with
  | none =>
      rw [hc] at h2
      cases h2
      exact timerCancel_self_state m1 o
  | some d =>
      rw [hc] at h1 h2
      -- the first refresh has put the node into the heap, where the second finds it
      exact h2.leaves (Or.inl (h1.leaves hr).1)

/-- A control message has been sent and the timer is refreshed once more. -/
lemma ConnStepped.refreshed {x : Conn} {evs : List Event} {now : ℤ} {e1 : Engine K} {t0 : ℕ}
    (h : ConnStepped env { e with tick := t0 } c x evs now e1) (hs : Steady env e)
    (hd : 0 < e.operationDepth) (hl : e.LiveConn c) (hx : x.internalClosed = false) (now' : ℤ)
    (hahead : ∀ d, connCalculateDeadline x = some d → now' < d) :
    ∃ m t st cs, connRefreshTimer env e1 c now' = e.stepConn c x evs m t st cs ∧
      ConnArmed (e.stepConn c x evs m t st cs) c now' := by
  obtain ⟨m1, t1, st, cs, -, -, hm1, rfl⟩ := h
  have ho : (m1.node (.conn c)).owner = true := by
    rw [hm1.owner]
    exact (hs.owner (.conn c)).mpr hl
  obtain ⟨m2, t2, -, hm2, hr2⟩ := connRefreshTimer_did env
    (e := { e with tick := t0 }.stepConn c x evs m1 t1 st cs) (c := c) (by simpa using hx) ho now'
  rw [stepConn_conns_self] at hm2
  exact ⟨m2, t2, st, cs, hr2.eq_of_depth hd, connArmed_of_leaves (stepConn_conns_self ..)
    (connMove_twice (hs.counted.room hs.toOwn hl) hm1 hm2) hahead⟩

/-! ### The timer callback -/

/-- The engines differ at most in the timer node of the connection. -/
def OnlyNode (c : ℕ) (e e' : Engine K) : Prop :=
  ∃ m t, e' = { e with timerManager := m, tick := t } ∧
    ∀ q, q ≠ .conn c → (e.timerManager.node q).SameBut (m.node q)

/-- What `kcpmux_conn_update` does about a deadline that has passed: the control message of
the state is sent again, a keepalive is sent, or the connection is finalised.  A `CONN_CLOSE`
goes out only to a peer whose id is known; without one the attempt is only counted. -/
inductive ConnActed (c : ℕ) (e e' : Engine K) : Prop
  | connect (ok : Bool) (hs : (e.conns c).state = .connecting)
      (hn : (e'.conns c).retryCount = (e.conns c).retryCount + 1)
      (ht : e'.trace = .write (.conn c) (e.conns c).peerAddr (connConnectMsg (e.conns c)) ok ::
        e.trace)
  | close (ok : Bool) (hs : (e.conns c).state = .closing) (hp : (e.conns c).peerConnectionId ≠ 0)
      (hn : (e'.conns c).retryCount = (e.conns c).retryCount + 1)
      (ht : e'.trace = .write (.conn c) (e.conns c).peerAddr
        (connCloseMsg msgConnClose (e.conns c) (e.conns c).closeReason) ok :: e.trace)
  | count (hs : (e.conns c).state = .closing) (hp : (e.conns c).peerConnectionId = 0)
      (hn : (e'.conns c).retryCount = (e.conns c).retryCount + 1) (ht : e'.trace = e.trace)
  | keepalive (time : UInt32) (ok : Bool) (hs : (e.conns c).state = .connected)
      (ht : e'.trace = .write (.conn c) (e.conns c).peerAddr
        (connKeepaliveMsg (e'.conns c) time) ok :: e.trace)
  | final (h : (e'.conns c).internalClosed = true)

/-- The connection is finalised and its timer node is idle. -/
def ConnDone (e : Engine K) (c : ℕ) : Prop :=
  (e.conns c).internalClosed = true ∧ (e.timerManager.node (.conn c)).state = .idle

/-- The callback has acted, and nothing is due any more. -/
structure ConnServed (c : ℕ) (now : ℤ) (e e' : Engine K) : Prop where
  acted : ConnActed c e e'
  rested : ConnDone e' c ∨ ConnArmed e' c now

lemma ConnServed.done {now : ℤ} (h : ConnDone e' c) : ConnServed c now e e' :=
  ⟨.final h.1, Or.inl h⟩

section

variable {now : ℤ} (hs : Steady env e) (hd : 0 < e.operationDepth) (hl : e.LiveConn c)

include hs hd hl

/-- A refresh before the deadline. -/
lemma connRefreshTimer_early
    (hearly : ∀ d, connCalculateDeadline (e.conns c) = some d → now < d) :
    OnlyNode c e (connRefreshTimer env e c now) ∧ ConnArmed (connRefreshTimer env e c now) c now := by
  obtain ⟨m, t, -, hm, hr⟩ := connRefreshTimer_did env hl.2 ((hs.owner (.conn c)).mpr hl) now
  rw [hr.eq_of_depth hd]
  exact ⟨⟨m, t, rfl, fun q hq => hm.other hq⟩,
    connArmed_of_leaves rfl (hm.leaves (hs.counted.room hs.toOwn hl)) hearly⟩

/-- A connection that is finalised after a chain of steps. -/
lemma Acts.connDone {e1 : Engine K} (ha : Acts env op e e1) (reason : UInt8) :
    ConnDone (connCloseInternal env e1 c reason) c := by
  have hg := ha.grows hs.toOwn
  have hown := (ha.sound hs.toSound).toOwn
  by_cases hcl : (e1.conns c).internalClosed = true
  · rw [connCloseInternal, if_pos hcl]
    exact ⟨hcl, hown.idle _ fun hl' => absurd hcl (by simp [hl'.2])⟩
  · have hd1 : 0 < e1.operationDepth := by rw [hg.depth]; exact hd
    have hl1 : e1.LiveConn c := ⟨hl.1.trans_le hg.nconns, by simpa using hcl⟩
    have hdead := connCloseInternal_closed hown hd1 hl1 reason
    exact ⟨hdead, (hown.connFinal hd1 hl1).idle _ fun hl' => absurd hdead (by simp [hl'.2])⟩

/-- A connection that fails is finalised. -/
lemma connFail_served
    (hst : (e.conns c).state = .connecting ∨ (e.conns c).state = .connected) {e1 : Engine K}
    (he1 : Acts env .update (connSetState env e c .error) e1) (reason : UInt8) :
    ConnServed c now e (connCloseInternal env e1 c reason) := by
  have hi : Inside env e := ⟨hs.toSound, hd⟩
  have ha : Acts env .update e e1 := he1.head (connError_act hi hl hst).1
  exact .done (ha.connDone hs hd hl reason)

lemma connUpdateConnecting_served (hst : (e.conns c).state = .connecting)
    (hcfg : (e.conns c).config.ctrlTimeoutMs ≠ 0) (hnow : now ≤ engineNow env e)
    (hdue : deadlineAfter (e.conns c).lastCtrlTs (e.conns c).config.ctrlTimeoutMs ≤ now) :
    ConnServed c now e (connUpdateConnecting env e c now) := by
  have hi : Inside env e := ⟨hs.toSound, hd⟩
  rw [connUpdateConnecting]
  dsimp only
  rw [if_pos hdue]
  split_ifs with hretry
  · obtain ⟨ok, hstep⟩ := connSendConnect_eq env hd hl (hi.conn_owner hl)
      ((e.conns c).retryCount + 1)
    obtain ⟨m, t, st, cs, heq, harmed⟩ := hstep.refreshed hs hd hl hl.2 now
      (ctrl_ahead hl.2 (by simp [hst]) hcfg hnow)
    rw [heq]
    exact ⟨.connect ok hst (by simp) rfl, Or.inr harmed⟩
  · exact connFail_served hs hd hl (Or.inl hst) .refl _

lemma connUpdateConnected_served (hst : (e.conns c).state = .connected)
    (hnow : now ≤ engineNow env e) (hdue : connConnectedDeadline (e.conns c) ≤ now) :
    ConnServed c now e (connUpdateConnected env e c now) := by
  have hi : Inside env e := ⟨hs.toSound, hd⟩
  rw [connUpdateConnected]
  dsimp only
  split_ifs with hrecv hidle hkeep
  · refine connFail_served hs hd hl (Or.inr hst) ?_ _
    generalize connSetState env e c .error = e1
    have hq : Act env .update e1 { e1 with
        tick := e1.tick, connStats := e1.connStats
        stats := { e1.stats with
          connKeepaliveTimeoutTotal := e1.stats.connKeepaliveTimeoutTotal + 1 } } :=
      .quiet le_rfl rfl
    exact .single hq
  · have hidle : Acts env .update e _ := (connIdle_acts hi hl hst rfl).1
    exact .done (hidle.connDone hs hd hl _)
  · obtain ⟨time, ok, hstep⟩ := connSendKeepalive_eq env hd hl (hi.conn_owner hl) rfl
    obtain ⟨m, t, st, cs, heq, harmed⟩ := hstep.refreshed hs hd hl hl.2 now
      (keepalive_ahead hl.2 hst hrecv hidle hnow)
    rw [heq]
    refine ⟨.keepalive time ok hst ?_, Or.inr harmed⟩
    rw [stepConn_conns_self]
    rfl
  · -- one of the three deadlines has passed
    rcases (connConnectedDeadline_le _ _).mp hdue with h | h | h
    · exact absurd h hrecv
    · exact absurd h hkeep
    · exact absurd h hidle

lemma connUpdateClosing_served (hst : (e.conns c).state = .closing)
    (hcfg : (e.conns c).config.ctrlTimeoutMs ≠ 0) (hnow : now ≤ engineNow env e)
    (hdue : deadlineAfter (e.conns c).lastCtrlTs (e.conns c).config.ctrlTimeoutMs ≤ now) :
    ConnServed c now e (connUpdateClosing env e c now) := by
  have hi : Inside env e := ⟨hs.toSound, hd⟩
  rw [connUpdateClosing]
  dsimp only
  rw [if_pos hdue]
  split_ifs with hretry hlast
  · obtain ⟨ha, -⟩ : Act env .update _ _ ∧ _ := connSendClose_act hi hl hst
      (e.conns c).closeReason (Or.inr ⟨hretry, rfl⟩) rfl
    exact .done (Acts.connDone hs hd hl (.single ha) _)
  · obtain ⟨ok, hstep⟩ := connSendClose_eq env hd hl (hi.conn_owner hl)
      (e.conns c).closeReason ((e.conns c).retryCount + 1)
    obtain ⟨m, t, st, cs, heq, harmed⟩ := hstep.refreshed hs hd hl hl.2 now
      (ctrl_ahead hl.2 (by simp [hst]) hcfg hnow)
    rw [heq]
    refine ⟨?_, Or.inr harmed⟩
    by_cases hp : (e.conns c).peerConnectionId = 0
    · refine .count hst hp (by simp) ?_
      simp [Engine.stepConn, hp]
    · refine .close ok hst hp (by simp) ?_
      simp [Engine.stepConn, hp]
  · have hnone : Acts env .update e e := .refl
    exact .done (hnone.connDone hs hd hl _)

/-- The callback after the deadline. -/
lemma connUpdate_late {d : ℤ} (hcfg : (e.conns c).config.ctrlTimeoutMs ≠ 0)
    (hnow : now ≤ engineNow env e) (hc : connCalculateDeadline (e.conns c) = some d)
    (hdue : d ≤ now) : ConnServed c now e (connUpdate env e c now) := by
  rw [connUpdate, if_neg (by simp [hl.2])]
  simp only [hc, hdue, decide_true, Bool.true_eq_false, if_false]
  obtain ⟨-, ⟨hst | hst, rfl⟩ | ⟨hst, rfl⟩⟩ := (connCalculateDeadline_some hl.2).mp hc
  · rw [hst]
    exact connUpdateConnecting_served hs hd hl hst hcfg hnow hdue
  · rw [hst]
    exact connUpdateClosing_served hs hd hl hst hcfg hnow hdue
  · rw [hst]
    exact connUpdateConnected_served hs hd hl hst hnow hdue

/-- The callback before the deadline. -/
lemma connUpdate_early
    (hearly : ∀ d, connCalculateDeadline (e.conns c) = some d → now < d) :
    OnlyNode c e (connUpdate env e c now) ∧ ConnArmed (connUpdate env e c now) c now := by
  have heq : connUpdate env e c now = connRefreshTimer env e c now := by
    rw [connUpdate, if_neg (by simp [hl.2])]
    cases hc : connCalculateDeadline (e.conns c) with
    | none => simp
    | some d => simp [hearly d hc]
  rw [heq]
  exact connRefreshTimer_early hs hd hl hearly

end

/-- **The deadline of a connection and its timer callback agree.**  At any point of a run and
at a time `now` that the clock has reached: before the deadline of a live connection its
callback changes nothing but the timer node; after it the callback acts, and the connection
is finalised or its next deadline lies ahead.  In every case the timer node is idle or set
for a later time.  The one way to act without a datagram and without an end is the close of a
connection whose peer is not known (`ConnActed.count`). -/
theorem connUpdate_agrees (h : Midway env e) (hd : 0 < e.operationDepth) (hl : e.LiveConn c)
    {now : ℤ} (hnow : now ≤ engineNow env e) :
    ((∀ d, connCalculateDeadline (e.conns c) = some d → now < d) →
        OnlyNode c e (connUpdate env e c now) ∧ ConnArmed (connUpdate env e c now) c now) ∧
      ∀ d, connCalculateDeadline (e.conns c) = some d → d ≤ now →
        ConnActed c e (connUpdate env e c now) ∧
          (ConnDone (connUpdate env e c now) c ∨
            (∀ d', connCalculateDeadline ((connUpdate env e c now).conns c) = some d' → now < d') ∧
              ConnArmed (connUpdate env e c now) c now) := by
  have hs := h.steady
  refine ⟨connUpdate_early hs hd hl, fun d hc hdue => ?_⟩
  have hserved := connUpdate_late hs hd hl (h.preparedConfigs c hl.1).1 hnow hc hdue
  exact ⟨hserved.acted, hserved.rested.imp_right fun harmed => ⟨fun d' => harmed.lt, harmed⟩⟩

/-- An engine that has called a peer and is to call again after a millisecond. -/
def calling : Engine Unit :=
  (Call.connConnect [10] (some { connConfigInit with ctrlTimeoutMs := 1 }) [] none).exec
    (idealHost 0 0) idealEngine

lemma calling_midway : Midway (idealHost 0 0) (engineOperationEnter calling) :=
  ⟨calling, .update, .call (idealEngine_reachable 0 0)
    (.connConnect [10] (some { connConfigInit with ctrlTimeoutMs := 1 }) [] none) trivial,
    .single .enter⟩

/-- The callback for `calling`, at time zero and as soon as possible. -/
theorem connUpdate_agrees_calling :
    OnlyNode 0 (engineOperationEnter calling)
        (connUpdate (idealHost 0 0) (engineOperationEnter calling) 0 0) ∧
      ConnActed 0 (engineOperationEnter calling)
        (connUpdate (idealHost 0 0) (engineOperationEnter calling) 0 12) := by
  have hl : (engineOperationEnter calling).LiveConn 0 := ⟨by decide +kernel, by decide +kernel⟩
  have hd : 0 < (engineOperationEnter calling).operationDepth := by decide +kernel
  have hc : connCalculateDeadline ((engineOperationEnter calling).conns 0) = some 12 := by
    decide +kernel
  have hearly : ∀ d, connCalculateDeadline ((engineOperationEnter calling).conns 0) = some d →
      0 < d := by
    intro d hd
    rw [hc] at hd
    cases hd
    decide
  have h0 : (0 : ℤ) ≤ engineNow (idealHost 0 0) (engineOperationEnter calling) := by
    decide +kernel
  have h12 : (12 : ℤ) ≤ engineNow (idealHost 0 0) (engineOperationEnter calling) := by
    decide +kernel
  exact ⟨((connUpdate_agrees calling_midway hd hl h0).1 hearly).1,
    ((connUpdate_agrees calling_midway hd hl h12).2 12 hc le_rfl).1⟩

/-- An engine that has called a peer and closes the connection before there is an answer. -/
def quitting : Engine Unit :=
  execAll (idealHost 0 0)
    [.connConnect [10] (some { connConfigInit with ctrlTimeoutMs := 1, closeRetries := 2 }) [] none,
      .connClose 0] idealEngine

lemma quitting_midway : Midway (idealHost 0 0) (engineOperationEnter quitting) :=
  ⟨quitting, .update, Reachable.execAll (idealEngine_reachable 0 0) (by decide +kernel),
    .single .enter⟩

/-- The deadline of a connection that closes without knowing its peer has passed, and the callback
neither sends anything nor finalises it. -/
theorem connUpdate_agrees_unknown_peer :
    Midway (idealHost 0 0) (engineOperationEnter quitting) ∧
      (engineOperationEnter quitting).LiveConn 0 ∧
      (∃ d ≤ (21 : ℤ), connCalculateDeadline ((engineOperationEnter quitting).conns 0) = some d) ∧
      (21 : ℤ) ≤ engineNow (idealHost 0 0) (engineOperationEnter quitting) ∧
      (connUpdate (idealHost 0 0) (engineOperationEnter quitting) 0 21).trace =
        (engineOperationEnter quitting).trace ∧
      ((connUpdate (idealHost 0 0) (engineOperationEnter quitting) 0 21).conns 0).internalClosed =
        false ∧
      ((connUpdate (idealHost 0 0) (engineOperationEnter quitting) 0 21).conns 0).state =
        .closing := by
  refine ⟨quitting_midway, ⟨by decide +kernel, by decide +kernel⟩, ⟨19, by decide, ?_⟩,
    by decide +kernel, by decide +kernel, by decide +kernel, by decide +kernel⟩
  decide +kernel

end KcpMux
