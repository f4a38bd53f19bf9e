import KcpMux.Lib.History
import KcpMux.Runs.Views

/-!
The state machine of a connection.

The log of a connection records every assignment to `state`.  `ConnState.Next` is the
relation the assignments follow, and `ConnAllowed` says what may be logged after which
entries; `ConnPath` collects what holds of a connection with its log.  `conn_state_machine`
is the result for all runs.
-/

namespace KcpMux

open History

variable {K : Type}

/-- The transitions of the state machine. -/
def ConnState.Next (isInitiator : Bool) : ConnState → ConnState → Prop
  | .init, .connecting => isInitiator = true
  | .init, .connected | .init, .closed => isInitiator = false
  | .connecting, .connected | .connecting, .closing | .connecting, .closed | .connecting, .error
  | .connected, .closing | .connected, .closed | .connected, .error
  | .closing, .closed => True
  | _, _ => False

/-- The state that was assigned last. -/
def stateOf : List Event → ConnState
  | [] => .init
  | .connState _ _ new :: _ => new
  | _ :: older => stateOf older

/-- What may be logged for a connection after the entries `older`: an assignment along the
state machine, `conn_state_changed` right after an assignment of `CONNECTED` or `CLOSING`,
a `CONN_KEEPALIVE` in `CONNECTED`. -/
def ConnAllowed (isInitiator : Bool) (older : List Event) : Event → Prop
  | .connState _ old new => old = stateOf older ∧ old.Next isInitiator new
  | .connStateChanged c old new =>
      (new = .connected ∨ new = .closing) ∧ older.head? = some (.connState c old new)
  | .write _ _ d _ => d.head? = some msgConnKeepalive → stateOf older = .connected
  | _ => True

/-- The entry is an assignment of `CONNECTED`. -/
def Event.entersConnected : Event → Bool
  | .connState _ _ .connected => true
  | _ => false

/-- A connection and its log follow the state machine. -/
structure ConnPath (x : Conn) (log : List Event) : Prop where
  state : x.state = stateOf log
  legal : Legal (ConnAllowed x.isInitiator) log
  once : log.countP Event.entersConnected ≤ 1
  initiator : x.isInitiator = true →
    (x.peerConnectionId ≠ 0 ↔ 0 < log.countP Event.entersConnected)
  passive : x.isInitiator = false → x.peerConnectionId ≠ 0

/-- `ConnPath` with what carries it through a run. -/
structure ConnInv (x : Conn) (log : List Event) : Prop extends ConnPath x log where
  early : x.state = .init ∨ x.state = .connecting → log.countP Event.entersConnected = 0
  connecting : x.state = .connecting → x.isInitiator = true
  notClosed : x.internalClosed = false → x.state ≠ .closed

variable {env : Env K} {op : Call} {e e' : Engine K} {c t : ℕ} {x x' : Conn} {log : List Event}

/-- A log that leads to `CONNECTED` has entered it. -/
lemma entersConnected_of_stateOf (h : stateOf log = .connected) :
    0 < log.countP Event.entersConnected := by
  induction log with
  | nil => cases h
  | cons ev log ih =>
      rw [List.countP_cons]
      cases ev with
      | connState d old new =>
          have hn : new = .connected := h
          subst hn
          simp [Event.entersConnected]
      | _ => exact Nat.lt_of_lt_of_le (ih h) (Nat.le_add_right _ _)

/-! ### Steps -/

/-- A change of fields the state machine does not read. -/
lemma ConnInv.congr (h : ConnInv x log) (hs : x'.state = x.state)
    (hi : x'.isInitiator = x.isInitiator) (hp : x'.peerConnectionId = x.peerConnectionId)
    (hc : x'.internalClosed = x.internalClosed) : ConnInv x' log := by
  obtain ⟨⟨h1, h2, h3, h4, h5⟩, h6, h7, h8⟩ := h
  rw [← hs] at h1 h6 h7 h8
  rw [← hi] at h2 h4 h5 h7
  rw [← hp] at h4 h5
  rw [← hc] at h8
  exact ⟨⟨h1, h2, h3, h4, h5⟩, h6, h7, h8⟩

/-- An entry that assigns nothing. -/
lemma ConnInv.entry (h : ConnInv x log) {ev : Event} (ha : ConnAllowed x.isInitiator log ev)
    (hev : ∀ d old new, ev ≠ .connState d old new) : ConnInv x (ev :: log) := by
  have hstate : stateOf (ev :: log) = stateOf log := by
    cases ev <;> first | rfl | exact absurd rfl (hev _ _ _)
  have henter : ev.entersConnected = false := by
    cases ev <;> first | rfl | exact absurd rfl (hev _ _ _)
  have hcount : (ev :: log).countP Event.entersConnected = log.countP Event.entersConnected := by
    simp [henter]
  exact ⟨⟨by rw [hstate]; exact h.state, ⟨ha, h.legal⟩, by rw [hcount]; exact h.once,
    by rw [hcount]; exact h.initiator, h.passive⟩, by rw [hcount]; exact h.early,
    h.connecting, h.notClosed⟩

/-- An assignment other than that of `CONNECTED`. -/
lemma ConnInv.assign (h : ConnInv x log) {new : ConnState} (hn : x.state.Next x.isInitiator new)
    (hne : new ≠ .connected) (hs : x'.state = new) (hi : x'.isInitiator = x.isInitiator)
    (hp : x'.peerConnectionId = x.peerConnectionId) (hc : x'.internalClosed = false → new ≠ .closed) :
    ConnInv x' (.connState c x.state new :: log) := by
  have henter : (Event.connState c x.state new).entersConnected = false := by
    cases new <;> first | rfl | exact absurd rfl hne
  have hcount : (Event.connState c x.state new :: log).countP Event.entersConnected =
      log.countP Event.entersConnected := by
    simp [henter]
  refine ⟨⟨hs, ⟨⟨h.state, ?_⟩, ?_⟩, ?_, ?_, ?_⟩, fun hx => ?_, fun hx => ?_, fun hx => ?_⟩
  · rw [hi]
    exact hn
  · rw [hi]
    exact h.legal
  · rw [hcount]
    exact h.once
  · rw [hcount, hi, hp]
    exact h.initiator
  · rw [hi, hp]
    exact h.passive
  · rw [hcount]
    rw [hs] at hx
    rcases hx with rfl | rfl
    · exact absurd hn (by cases x.state <;> simp [ConnState.Next])
    · refine h.early (Or.inl ?_)
      cases hst : x.state <;> simp_all [ConnState.Next]
  · rw [hs] at hx
    subst hx
    rw [hi]
    cases hst : x.state <;> simp_all [ConnState.Next]
  · rw [hs]
    exact hc hx

/-- The assignment of `CONNECTED`. -/
lemma ConnInv.establish (h : ConnInv x log) (hn : x.state.Next x.isInitiator .connected)
    (hs : x'.state = .connected) (hi : x'.isInitiator = x.isInitiator)
    (hp : x'.peerConnectionId ≠ 0) : ConnInv x' (.connState c x.state .connected :: log) := by
  have hearly : log.countP Event.entersConnected = 0 := by
    refine h.early ?_
    cases hst : x.state <;> simp_all [ConnState.Next]
  have hcount : (Event.connState c x.state .connected :: log).countP Event.entersConnected = 1 := by
    rw [List.countP_cons_of_pos rfl, hearly]
  refine ⟨⟨hs, ⟨⟨h.state, ?_⟩, ?_⟩, hcount.le, fun _ => ?_, fun _ => hp⟩,
    fun hx => ?_, fun hx => ?_, fun _ => ?_⟩
  · rw [hi]
    exact hn
  · rw [hi]
    exact h.legal
  · rw [hcount]
    exact ⟨fun _ => one_pos, fun _ => hp⟩
  · rcases hx with hx | hx <;> rw [hs] at hx <;> cases hx
  · rw [hs] at hx
    cases hx
  · rw [hs]
    decide

/-- The callback after the assignment of `CONNECTED` or `CLOSING`. -/
lemma ConnInv.note {new : ConnState} (h : ConnInv x' (.connState c x.state new :: log))
    (hn : new = .connected ∨ new = .closing) : ConnInv x' (connStateEvents c x new ++ log) := by
  rw [connStateEvents]
  split_ifs
  · exact h.entry ⟨hn, rfl⟩ (by simp)
  · exact h

/-- A datagram that is no keepalive. -/
lemma ConnInv.write (h : ConnInv x log) {type : UInt8} {o : Owner} {addr : Addr} {d : Bytes}
    {ok : Bool} (hd : d.head? = some type) (ht : type ≠ msgConnKeepalive) :
    ConnInv x (.write o addr d ok :: log) :=
  h.entry (fun hk => absurd (Option.some.inj (hd.symm.trans hk)) ht) (by simp)

/-- **What happens to a live connection** follows the state machine. -/
lemma ConnTrans.path {evs : List Event} {now : Option ℤ} (h : ConnTrans env op t c x x' evs now)
    (hi : ConnInv x log) : ConnInv x' (evs ++ log) := by
  cases h with
  | receive => exact hi.congr rfl rfl rfl rfl
  | connecting hnow hini hs =>
      have hn : x.state.Next x.isInitiator .connecting := by rw [hs]; exact hini
      rw [← hs]
      exact hi.assign hn (by decide) rfl rfl rfl (by simp)
  | sendConnect hnow hs hn =>
      refine ConnInv.write ?_ rfl (by decide)
      exact hi.congr rfl rfl rfl rfl
  | established hnow hs hop hd =>
      have hn : x.state.Next x.isInitiator .connected := by rw [hs]; trivial
      refine ConnInv.note ?_ (Or.inl rfl)
      exact hi.establish hn rfl rfl hd.source_ne
  | accept hnow hini hs =>
      have hn : x.state.Next x.isInitiator .connected := by rw [hs]; exact hini
      have h1 : ConnInv x (.connConnectNotify c ackResultOk :: log) := hi.entry trivial (by simp)
      rw [List.cons_append, List.append_assoc]
      refine ConnInv.write ?_ rfl (by decide)
      refine ConnInv.note ?_ (Or.inl rfl)
      exact h1.establish hn rfl rfl (hi.passive hini)
  | ack => exact hi.write rfl (by decide)
  | close hnow hnow' hs =>
      have hn : x.state.Next x.isInitiator .closing := by
        rcases hs with hs | hs <;> rw [hs] <;> trivial
      refine ConnInv.note ?_ (Or.inr rfl)
      exact hi.assign hn (by decide) rfl rfl rfl (by simp)
  | idle hnow hs =>
      have hn : x.state.Next x.isInitiator .closing := by rw [hs]; trivial
      refine ConnInv.note ?_ (Or.inr rfl)
      exact hi.assign hn (by decide) rfl rfl rfl (by simp)
  | fail hnow hs =>
      have hn : x.state.Next x.isInitiator .error := by
        rcases hs with hs | hs <;> rw [hs] <;> trivial
      exact hi.assign hn (by decide) rfl rfl rfl (by simp)
  | sendClose hnow hs hn =>
      split_ifs
      · exact hi.congr rfl rfl rfl rfl
      · refine ConnInv.write ?_ rfl (by decide)
        exact hi.congr rfl rfl rfl rfl
  | keepalive hnow hs =>
      refine ConnInv.entry ?_ (fun _ => hi.state.symm.trans hs) (by simp)
      exact hi.congr rfl rfl rfl rfl
  | closeAck => exact hi.write rfl (by decide)
  | refresh => exact hi
  | config => exact hi.congr rfl rfl rfl rfl
  | callbacks => exact hi.congr rfl rfl rfl rfl
  | nextId => exact hi.congr rfl rfl rfl rfl

/-- The end of a connection. -/
lemma ConnInv.final (h : ConnInv x log) (hl : x.internalClosed = false)
    (hs : x.state = .init → x.isInitiator = false) (streamMap : Htb ℕ) (streamCount : ℕ)
    (reason : UInt8) :
    ConnInv (x.final streamMap streamCount) (endConnEvents c x reason ++ log) := by
  have hend : ConnInv (x.final streamMap streamCount)
      ((if x.state = .error then [] else [.connState c x.state .closed]) ++ log) := by
    split_ifs with he
    · obtain ⟨⟨h1, h2, h3, h4, h5⟩, h6, h7, h8⟩ := h
      have hst : (x.final streamMap streamCount).state = x.state := by
        rw [Conn.final, if_pos he, he]
      exact ⟨⟨hst.trans h1, h2, h3, h4, h5⟩, by rwa [hst], by rwa [hst], fun hx => by cases hx⟩
    · have hn : x.state.Next x.isInitiator .closed := by
        have := h.notClosed hl
        cases hst : x.state <;> simp_all [ConnState.Next]
      refine h.assign hn (by decide) ?_ rfl rfl fun hx => by cases hx
      rw [Conn.final, if_neg he]
  rw [endConnEvents, List.append_assoc]
  by_cases hcb : x.callbacks.connCloseNotify = true
  · rw [if_pos hcb, List.singleton_append]
    exact hend.entry trivial (by simp)
  · rw [if_neg hcb, List.nil_append]
    exact hend

lemma ConnLast.path {evs : List Event} (h : ConnLast c x x' evs) (hi : ConnInv x log) :
    ConnInv x' (evs ++ log) ∧ x'.internalClosed = x.internalClosed ∧ x'.isInitiator = false := by
  cases h with
  | @reject r ok evs hini hs hr hev =>
      have h1 : ConnInv x (evs ++ log) := by
        rcases hev with rfl | ⟨-, rfl | rfl⟩
        · exact hi.entry trivial (by simp)
        · exact hi
        · exact hi.entry trivial (by simp)
      refine ⟨?_, rfl, hini⟩
      rw [List.cons_append]
      refine ConnInv.write ?_ rfl (by decide)
      exact h1.congr rfl rfl rfl rfl

/-- **What a move means for a connection** follows the state machine. -/
lemma ConnView.path {evs : List Event} (hv : ConnView env op e c x evs)
    (hi : ConnInv (e.conns c) log) : ConnInv x (evs ++ log) := by
  cases hv with
  | same => exact hi
  | trans hl ht h => exact h.path hi
  | streams hl => exact hi.congr rfl rfl rfl rfl
  | final hl hs => exact hi.final hl.2 (fun h => absurd h hs) _ _ _
  | last hl h =>
      obtain ⟨h1, hc, hini⟩ := h.path hi
      rw [List.append_assoc]
      exact h1.final (hc.trans hl.2) (fun _ => hini) _ _ _
  | release => exact hi.entry trivial (by simp)

/-- A connection that has no history yet. -/
lemma ConnInv.blank (hs : x.state = .init)
    (hp : x.isInitiator = true ↔ x.peerConnectionId = 0) : ConnInv x [] := by
  refine ⟨⟨hs, trivial, by simp, fun hi => ?_, fun hi h0 => ?_⟩, fun _ => rfl, ?_, ?_⟩
  · simp [hp.mp hi]
  · exact absurd (hp.mpr h0) (by simp [hi])
  · simp [hs]
  · simp [hs]

/-- A new connection. -/
lemma NewConn.path (hx : NewConn env op e t x) : ConnInv { x with inEngineMap := true } [] := by
  cases hx with
  | initiator hop hc hn hnow ha => exact .blank rfl (by simp [connRecord, default])
  | passive hop hd hc hn hnow hrecv ha hfresh =>
      exact .blank rfl (by simp [connRecord, hd.source_ne])

/-- A live connection in `INIT` has no history. -/
def Unborn (x : Conn) (log : List Event) : Prop :=
  x.internalClosed = false → x.state = .init → log = []

lemma ConnTrans.silent {evs : List Event} {now : Option ℤ}
    (h : ConnTrans env op t c x x' evs now) (hs : x'.state = .init) :
    x.state = .init ∧ evs = [] := by
  cases h with
  | sendConnect _ hx => exact absurd (hx.symm.trans hs) (by decide)
  | ack _ hx => exact absurd hs hx
  | sendClose _ hx => exact absurd (hx.symm.trans hs) (by decide)
  | keepalive _ hx => exact absurd (hx.symm.trans hs) (by decide)
  | closeAck _ hx => exact absurd hs hx
  | receive | refresh | config | callbacks | nextId => exact ⟨hs, rfl⟩
  | _ => cases hs

lemma ConnView.unborn {evs : List Event} (hv : ConnView env op e c x evs) (hc : c < e.nconns)
    (hu : Unborn (e.conns c) log) : Unborn x (evs ++ log) := by
  cases hv with
  | same => exact hu
  | trans hl ht h =>
      intro _ hs
      obtain ⟨hs', rfl⟩ := h.silent hs
      exact hu hl.2 hs'
  | streams hl => exact hu
  | final => exact fun h => by cases h
  | last => exact fun h => by cases h
  | release hl => exact fun h => absurd ⟨hc, h⟩ hl

/-! ### The callback -/

/-- The change of state the callback reports. -/
def Event.reported : Event → Option (ConnState × ConnState)
  | .connStateChanged _ old new => some (old, new)
  | _ => none

/-- The change of state the callback has to report. -/
def Event.reportable : Event → Option (ConnState × ConnState)
  | .connState _ old new => if new = .connected ∨ new = .closing then some (old, new) else none
  | _ => none

/-- The callback has reported each change into `CONNECTED` and `CLOSING` among `evs` once if it
is installed, and nothing otherwise. -/
def Reported (installed : Bool) (evs : List Event) : Prop :=
  evs.filterMap Event.reported = if installed then evs.filterMap Event.reportable else []

lemma Reported.nil (installed : Bool) : Reported installed [] := by simp [Reported]

lemma Reported.append {installed : Bool} {evs evs' : List Event} (h : Reported installed evs)
    (h' : Reported installed evs') : Reported installed (evs ++ evs') := by
  rw [Reported, List.filterMap_append, h, h']
  cases installed <;> simp

lemma reported_connStateEvents (x : Conn) {new : ConnState}
    (hn : new = .connected ∨ new = .closing) :
    Reported x.callbacks.connStateChanged (connStateEvents c x new) := by
  cases hcb : x.callbacks.connStateChanged <;>
    simp [Reported, connStateEvents, List.filterMap_cons, hcb, Event.reported, Event.reportable, hn]

/-- Entries that are neither reports nor reportable. -/
lemma Reported.of_none {installed : Bool} {evs : List Event}
    (h : ∀ ev ∈ evs, ev.reported = none ∧ ev.reportable = none) : Reported installed evs := by
  have h1 : evs.filterMap Event.reported = [] :=
    List.filterMap_eq_nil_iff.mpr fun ev hev => (h ev hev).1
  have h2 : evs.filterMap Event.reportable = [] :=
    List.filterMap_eq_nil_iff.mpr fun ev hev => (h ev hev).2
  rw [Reported, h1, h2]
  cases installed <;> rfl

/-- Outside `kcpmux_conn_set_callbacks`, what happens to a connection that has a history leaves
the callbacks alone and is reported. -/
lemma ConnTrans.reported {evs : List Event} {now : Option ℤ}
    (h : ConnTrans env op t c x x' evs now) (hop : ∀ y, op ≠ .connSetCallbacks c y) :
    (x'.callbacks = x.callbacks ∨ (x.state = .init ∧ evs = [])) ∧
      Reported x'.callbacks.connStateChanged evs := by
  cases h with
  | established => exact ⟨Or.inl rfl, reported_connStateEvents x (Or.inl rfl)⟩
  | @accept ext now ok hnow hini hs =>
      refine ⟨Or.inl rfl, ?_⟩
      have h1 : Reported x.callbacks.connStateChanged [.connConnectNotify c ackResultOk] :=
        .of_none (by simp [Event.reported, Event.reportable])
      have h3 : Reported x.callbacks.connStateChanged [.write (.conn c) x.peerAddr
          (connConnectAckMsg { x with selfProtoExt := ext } (UInt8.ofInt ackResultOk)) ok] :=
        .of_none (by simp [Event.reported, Event.reportable])
      exact h3.append ((reported_connStateEvents x (Or.inl rfl)).append h1)
  | close => exact ⟨Or.inl rfl, reported_connStateEvents x (Or.inr rfl)⟩
  | idle => exact ⟨Or.inl rfl, reported_connStateEvents x (Or.inr rfl)⟩
  | callbacks hc =>
      obtain ⟨y, hy⟩ | hs := hc
      · exact absurd hy (hop y)
      · exact ⟨Or.inr ⟨hs, rfl⟩, .nil _⟩
  | sendClose =>
      refine ⟨Or.inl rfl, ?_⟩
      split_ifs
      · exact .nil _
      · exact .of_none (by simp [Event.reported, Event.reportable])
  | _ => exact ⟨Or.inl rfl, .of_none (by simp [Event.reported, Event.reportable])⟩

lemma reported_endConnEvents (x : Conn) (installed : Bool) (reason : UInt8) :
    Reported installed (endConnEvents c x reason) := by
  refine .of_none fun ev hev => ?_
  rw [endConnEvents] at hev
  split_ifs at hev <;> simp at hev <;> rcases hev with rfl | rfl <;> exact ⟨rfl, rfl⟩

lemma ConnLast.reported {evs : List Event} (h : ConnLast c x x' evs) :
    x.state = .init ∧ Reported x'.callbacks.connStateChanged evs := by
  cases h with
  | reject hini hs hr hev =>
      refine ⟨hs, .of_none fun ev hm => ?_⟩
      rcases hev with rfl | ⟨-, rfl | rfl⟩ <;> simp at hm
      · rcases hm with rfl | rfl <;> exact ⟨rfl, rfl⟩
      · subst hm
        exact ⟨rfl, rfl⟩
      · rcases hm with rfl | rfl <;> exact ⟨rfl, rfl⟩

/-- The reports in the course of a call, from `older` on. -/
lemma ConnView.reported {evs older newer : List Event} (hv : ConnView env op e c x evs)
    (hop : ∀ y, op ≠ .connSetCallbacks c y) (hu : Unborn (e.conns c) (newer ++ older))
    (h : Reported (e.conns c).callbacks.connStateChanged newer) :
    Reported x.callbacks.connStateChanged (evs ++ newer) := by
  cases hv with
  | same => exact h
  | trans hl ht hx =>
      obtain ⟨hcb | ⟨hs, rfl⟩, hr⟩ := hx.reported hop
      · rw [hcb] at hr ⊢
        exact hr.append h
      · obtain ⟨rfl, -⟩ := List.append_eq_nil_iff.mp (hu hl.2 hs)
        exact .nil _
  | streams hl => exact h
  | final hl hs => exact (reported_endConnEvents _ _ _).append h
  | last hl hx =>
      obtain ⟨hs, hr⟩ := hx.reported
      obtain ⟨rfl, -⟩ := List.append_eq_nil_iff.mp (hu hl.2 hs)
      rw [List.append_nil]
      exact (reported_endConnEvents _ _ _).append hr
  | release =>
      refine Reported.append ?_ h
      exact .of_none (by simp [Event.reported, Event.reportable])

/-! ### Runs -/

/-- The peer's id of a connection is set once. -/
lemma ConnView.peer_eq {evs : List Event} (hv : ConnView env op e c x evs)
    (hi : ConnInv (e.conns c) log) (hp : (e.conns c).peerConnectionId ≠ 0) :
    x.peerConnectionId = (e.conns c).peerConnectionId := by
  cases hv with
  | trans hl ht h =>
      cases h with
      | established hnow hs hop hd =>
          have h1 := (hi.initiator (hi.connecting hs)).mp hp
          rw [hi.early (Or.inr hs)] at h1
          exact absurd h1 (lt_irrefl 0)
      | _ => rfl
  | last hl h =>
      cases h with
      | reject => rfl
  | _ => rfl

/-- What holds of every connection and its log at any point of a run. -/
def ConnHist (_ : ℕ) (x : Conn) (log : List Event) : Prop := ConnInv x log ∧ Unborn x log

lemma Move.connHist (hm : Move env op e e') (h : Steady env e) (hp : e.EachConn ConnHist) :
    e'.EachConn ConnHist :=
  hm.eachConn h (fun _ _ hx => ⟨hx.path, fun _ _ => rfl⟩)
    (fun _ _ _ hc hv hi => ⟨hv.path hi.1, hv.unborn hc hi.2⟩) hp

lemma Reachable.connHist (h : Reachable env e) : e.EachConn ConnHist :=
  h.eachConn (fun _ _ _ _ hx => ⟨hx.path, fun _ _ => rfl⟩)
    fun _ _ _ _ _ _ hc hv hi => ⟨hv.path hi.1, hv.unborn hc hi.2⟩

/-- What a move does to the log of a connection. -/
lemma Move.logOf_conn (hm : Move env op e e') (h : Steady env e) (c : ℕ) :
    (∃ evs, c < e.nconns ∧ ConnView env op e c (e'.conns c) evs ∧
        e'.logOf (.conn c) = evs ++ e.logOf (.conn c)) ∨
      (e.logOf (.conn c) = [] ∧ e'.logOf (.conn c) = []) := by
  by_cases hlt : c < e.nconns
  · obtain ⟨evs, hv, hlog⟩ := hm.connViewed h hlt
    exact Or.inl ⟨evs, hlt, hv, hlog⟩
  · have hnil : e.logOf (.conn c) = [] := h.logOf_unknown (o := .conn c) hlt
    rcases hm.nconns h with hn | ⟨t, x, -, -, -, ht⟩
    · have hlt' : ¬ e'.Known (.conn c) := by
        show ¬ c < e'.nconns
        rwa [hn]
      exact Or.inr ⟨hnil, (hm.steady h).logOf_unknown hlt'⟩
    · refine Or.inr ⟨hnil, ?_⟩
      rw [Engine.logOf, ht]
      exact hnil

/-- The reports in the course of one call. -/
lemma Moves.reported (hm : Moves env op e e') (h : Steady env e) (hp : e.EachConn ConnHist)
    (hop : ∀ y, op ≠ .connSetCallbacks c y) :
    ∃ evs, e'.logOf (.conn c) = evs ++ e.logOf (.conn c) ∧
      Reported (e'.conns c).callbacks.connStateChanged evs := by
  have key : e'.EachConn ConnHist ∧ ∃ evs, e'.logOf (.conn c) = evs ++ e.logOf (.conn c) ∧
      Reported (e'.conns c).callbacks.connStateChanged evs := by
    refine hm.induct (P := fun e1 => e1.EachConn ConnHist ∧
      ∃ evs, e1.logOf (.conn c) = evs ++ e.logOf (.conn c) ∧
        Reported (e1.conns c).callbacks.connStateChanged evs) h ⟨hp, [], rfl, .nil _⟩ ?_
    rintro e1 e2 hs hm ⟨hp1, newer, hlog, hr⟩
    refine ⟨hm.connHist hs hp1, ?_⟩
    rcases hm.logOf_conn hs c with ⟨evs, hlt, hv, hlog'⟩ | ⟨hnil, hnil'⟩
    · refine ⟨evs ++ newer, by rw [hlog', hlog, List.append_assoc], ?_⟩
      exact hv.reported hop (hlog ▸ (hp1 c hlt).2) hr
    · obtain ⟨rfl, hold⟩ := List.append_eq_nil_iff.mp (hlog.symm.trans hnil)
      exact ⟨[], by rw [hnil', hold]; rfl, .nil _⟩
  exact key.2

/-- The peer's id stays in the course of a run. -/
lemma Run.peer_eq (h : Run env e e') (hr : Reachable env e) (hc : c < e.nconns)
    (hp : (e.conns c).peerConnectionId ≠ 0) :
    (e'.conns c).peerConnectionId = (e.conns c).peerConnectionId := by
  have key : e'.EachConn ConnHist ∧ c < e'.nconns ∧
      (e'.conns c).peerConnectionId = (e.conns c).peerConnectionId := by
    refine h.induct (P := fun e1 => e1.EachConn ConnHist ∧ c < e1.nconns ∧
      (e1.conns c).peerConnectionId = (e.conns c).peerConnectionId) hr
      ⟨hr.connHist, hc, rfl⟩ ?_
    rintro op e1 e2 hs hm ⟨hp1, hc1, heq⟩
    obtain ⟨evs, hv, -⟩ := hm.connViewed hs hc1
    refine ⟨hm.connHist hs hp1, ?_, (hv.peer_eq (hp1 c hc1).1 (heq ▸ hp)).trans heq⟩
    rcases hm.nconns hs with hn | ⟨_, _, -, hn, -⟩ <;> omega
  exact key.2.2

end KcpMux
