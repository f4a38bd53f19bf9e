import KcpMux.Runs.Frame
import KcpMux.Runs.Moves

/-!
What a round of the dispatch loop leaves alone.

The callback of a connection touches the connection and its streams; the callback of a stream
touches the stream, and the table and the counters of its connection.  `Round.within` puts them
together for one round of `kcpmux_engine_update`.
-/

namespace KcpMux

variable {K : Type} {env : Env K} {op : Call} {S : Owner → Prop} {C : ℕ → Prop}
  {e e1 : Engine K} {c s : ℕ} {now : ℤ}

/-! ### A connection and its streams -/

/-- `S` has the connection `c`, its streams, and the streams that are still to be created. -/
structure Covers (S : Owner → Prop) (e : Engine K) (c : ℕ) : Prop where
  conn : S (.conn c)
  stream : ∀ s, (s < e.nstreams → (e.streams s).conn = c) → S (.stream s)

lemma Covers.of_conn (hS : Covers S e c) (h : Within S C e e1) (hs : (e1.streams s).conn = c) :
    S (.stream s) :=
  hS.stream s fun hlt => (h.home s hlt).symm.trans hs

lemma Covers.home (hS : Covers S e c) (h : Within S C e e1) (hs : (e1.streams s).conn = c)
    (hlt : s < e1.nstreams) : Within.Home S C e1 s :=
  ⟨hS.of_conn h hs, Or.inl (by rw [hs]; exact hS.conn), hlt⟩

/-- A covered connection is finalised. -/
lemma Covers.close (hS : Covers S e c) (h : Within S C e e1) (hi : Inside env e1)
    (hl : e1.LiveConn c) (reason : UInt8) :
    Within S C e (connCloseInternal env e1 c reason) :=
  h.connCloseInternal hS.conn hi.toOwn hi.depth hl.1 (fun _ hq => hS.of_conn h hq.2) reason

/-- The connection `c`, its streams, and the streams that are still to be created. -/
def Engine.Around (e : Engine K) (c : ℕ) : Owner → Prop
  | .conn q => q = c
  | .stream s => s < e.nstreams → (e.streams s).conn = c

lemma Engine.covers_around (e : Engine K) (c : ℕ) : Covers (e.Around c) e c :=
  ⟨rfl, fun _ h => h⟩

/-! ### The timer callbacks -/

section

variable (hi : Inside env e) (hl : e.LiveConn c) (hS : Covers S e c)

include hi hl hS

lemma connUpdateConnecting_within (hst : (e.conns c).state = .connecting) :
    Within S C e (connUpdateConnecting env e c now) := by
  have href : Within S C e (connRefreshTimer env e c now) :=
    (Within.refl e).connRefreshTimer hS.conn now
  rw [connUpdateConnecting]
  dsimp only
  split_ifs
  · exact (((Within.refl e).setConn hS.conn _).connSendConnect hS.conn).connRefreshTimer hS.conn now
  · obtain ⟨h1, hl1, -⟩ : Act env .update e _ ∧ _ := connError_act hi hl (Or.inl hst)
    exact hS.close ((Within.refl e).connSetState hS.conn _) (Acts.inside (.single h1) hi) hl1 _
  · exact href

lemma connUpdateConnected_within (hst : (e.conns c).state = .connected) :
    Within S C e (connUpdateConnected env e c now) := by
  rw [connUpdateConnected]
  dsimp only
  split_ifs
  · obtain ⟨h1, hl1, -⟩ : Act env .update e _ ∧ _ := connError_act hi hl (Or.inr hst)
    have hset : Within S C e (connSetState env e c .error) :=
      (Within.refl e).connSetState hS.conn _
    generalize connSetState env e c .error = e1 at h1 hl1 hset ⊢
    have h2 : Act env .update e1 { e1 with
        tick := e1.tick, connStats := e1.connStats
        stats := { e1.stats with
          connKeepaliveTimeoutTotal := e1.stats.connKeepaliveTimeoutTotal + 1 } } :=
      .quiet le_rfl rfl
    exact hS.close (hset.stats _) (Acts.inside ((Relation.ReflTransGen.single h1).tail h2) hi) hl1 _
  · obtain ⟨h1, hl1, -⟩ : Acts env .update e _ ∧ _ := connIdle_acts hi hl hst rfl
    have hclose : Within S C e (connSendClose env (connSetState env e c .closing) c
        closeReasonIdle).2 :=
      ((Within.refl e).connSetState hS.conn _).connSendClose hS.conn _
    exact hS.close (hclose.stats _) (h1.inside hi) hl1 _
  · exact ((Within.refl e).connSendKeepalive hS.conn).connRefreshTimer hS.conn now
  · exact (Within.refl e).connRefreshTimer hS.conn now

lemma connUpdateClosing_within (hst : (e.conns c).state = .closing) :
    Within S C e (connUpdateClosing env e c now) := by
  have hsend : Within S C e (connSendClose env (e.setConn c { e.conns c with
      retryCount := (e.conns c).retryCount + 1 }) c (e.conns c).closeReason).2 :=
    ((Within.refl e).setConn hS.conn _).connSendClose hS.conn _
  rw [connUpdateClosing]
  dsimp only
  split_ifs with hdue hretry
  · obtain ⟨h1, hl1⟩ : Act env .update _ _ ∧ _ := connSendClose_act hi hl hst
      (e.conns c).closeReason (Or.inr ⟨hretry, rfl⟩) rfl
    exact hS.close hsend (Acts.inside (.single h1) hi) hl1 _
  · exact hsend.connRefreshTimer hS.conn now
  · exact hS.close (Within.refl e) hi hl _
  · exact (Within.refl e).connRefreshTimer hS.conn now

omit hl in
/-- **The callback of a connection** touches the connection and its streams. -/
lemma connUpdate_within (hk : c < e.nconns) (now : ℤ) :
    Within S C e (connUpdate env e c now) := by
  have href : Within S C e (connRefreshTimer env e c now) :=
    (Within.refl e).connRefreshTimer hS.conn now
  rw [connUpdate]
  split_ifs with hcl
  · exact Within.refl e
  · have hl : e.LiveConn c := ⟨hk, by simpa using hcl⟩
    dsimp only
    split_ifs
    · exact href
    · cases hst : (e.conns c).state with
      | connecting => exact connUpdateConnecting_within hi hl hS hst
      | connected => exact connUpdateConnected_within hi hl hS hst
      | closing => exact connUpdateClosing_within hi hl hS hst
      | init => exact href
      | closed => exact href
      | error => exact href

end

/-! ### Rounds -/

/-- The objects a callback may touch. -/
def Engine.Reach (e : Engine K) : Owner → Owner → Prop
  | .conn c, q => e.Around c q
  | .stream s, q => q = .stream s

/-- The connections whose table and counters a callback may touch besides. -/
def Engine.Lent (e : Engine K) : Owner → ℕ → Prop
  | .conn _, _ => False
  | .stream s, c => c = (e.streams s).conn

/-- **A round touches what its callback may touch.** -/
lemma Round.within (h : Round env now e) {o : Owner} {rest : List Owner}
    (hd : e.timerManager.due = o :: rest) :
    Within (e.Reach o) (e.Lent o) e (engineDispatch env now e o) := by
  have hl : e.Live o := h.live_of_due (by simp [hd])
  have hi := h.inside hd
  have hself : e.Reach o o := by cases o <;> rfl
  have hbegin : Within (e.Reach o) (e.Lent o) e (engineDispatchBegin e o) := by
    refine ((Within.refl e).timer hself (m := (engineDispatchBegin e o).timerManager)
      fun q hq => ?_).bare rfl rfl rfl rfl rfl rfl rfl rfl
    simp [engineDispatchBegin, hq, TimerNode.SameBut.refl]
  have hcall : Within (e.Reach o) (e.Lent o) (engineDispatchBegin e o)
      (timeoutCallback env o now (engineDispatchBegin e o)) := by
    cases o with
    | conn c =>
        exact connUpdate_within hi ((engineDispatchBegin e (.conn c)).covers_around c) hl.1 now
    | stream s =>
        have hhome : Within.Home (e.Reach (.stream s)) (e.Lent (.stream s))
            (engineDispatchBegin e (.stream s)) s := ⟨rfl, Or.inr rfl, hl.1⟩
        exact (Within.refl _).streamUpdate hhome now
  rw [engineDispatch, engineDispatchEnd]
  generalize timeoutCallback env o now (engineDispatchBegin e o) = e1 at hcall ⊢
  have h1 := hbegin.trans hcall
  split_ifs
  · refine h1.timer hself fun q hq => ?_
    rw [setNode_node_of_ne _ hq]
    exact TimerNode.SameBut.refl _
  · exact h1

end KcpMux
