import KcpMux.Runs.Views

/-!
The end of every object, and of the engine.

`Event.ends` marks the entries that belong to the end of an object: the close notification, the
release of the KCP instance and the release of the object itself.  A live object has none of them
in its log; the log of a finalised one ends with them in a fixed order (`ConnEnd`, `StreamEnd`).
`kcpmux_engine_destroy` finalises what is left, and `destroy_exactly_once` is the result.
-/

namespace KcpMux

variable {K : Type}

/-- The entry belongs to the end of an object. -/
def Event.ends : Event → Bool
  | .connCloseNotify _ _ | .streamCloseNotify _ _ | .release _ | .kcp _ .release => true
  | _ => false

/-- The log has nothing of an end. -/
def Unended (log : List Event) : Prop := ∀ ev ∈ log, ev.ends = false

/-- The log of a finalised connection: the close notification if it is installed, and nothing
after it but the release. -/
def ConnEnd (c : ℕ) (x : Conn) (log : List Event) : Prop :=
  ∃ rel reason log0, (rel = [] ∨ rel = [.release (.conn c)]) ∧ Unended log0 ∧
    log = rel ++ (if x.callbacks.connCloseNotify then [.connCloseNotify c reason] else []) ++ log0

/-- The log of a finalised stream: the release of the KCP instance, the close notification if
it is installed, and nothing after it but the release. -/
def StreamEnd (s : ℕ) (x : Stream K) (log : List Event) : Prop :=
  ∃ rel reason log0, (rel = [] ∨ rel = [.release (.stream s)]) ∧ Unended log0 ∧
    log = rel ++ (if x.callbacks.streamCloseNotify then [.streamCloseNotify s reason] else []) ++
      .kcp s .release :: log0

/-- What the log of a connection says about its end. -/
structure ConnEnds (c : ℕ) (x : Conn) (log : List Event) : Prop where
  live : x.internalClosed = false → Unended log
  dead : x.internalClosed = true → ConnEnd c x log
  rejected : ∀ r, r ≠ ackResultOk → .connConnectNotify c r ∈ log →
    x.internalClosed = true ∧ x.callbacks.connCloseNotify = false

/-- What the log of a stream says about its end. -/
structure StreamEnds (s : ℕ) (x : Stream K) (log : List Event) : Prop where
  live : x.internalClosed = false → Unended log
  dead : x.internalClosed = true → StreamEnd s x log
  rejected : ∀ r, r ≠ 0 → .streamCreateNotify s r ∈ log →
    x.callbacks.streamCloseNotify = false

variable {env : Env K} {op : Call} {e e' : Engine K} {c s t : ℕ} {log : List Event}

lemma Unended.append {evs : List Event} (h : Unended evs) (h' : Unended log) :
    Unended (evs ++ log) := fun ev hev => (List.mem_append.mp hev).elim (h ev) (h' ev)

/-! ### Connections -/

lemma connStateEvents_unended (c : ℕ) (x : Conn) (new : ConnState) :
    Unended (connStateEvents c x new) := by
  rw [connStateEvents]
  split_ifs <;> simp [Unended, Event.ends]

lemma ConnTrans.unended {x x' : Conn} {evs : List Event} {now : Option ℤ}
    (h : ConnTrans env op t c x x' evs now) : Unended evs := by
  cases h with
  | established => exact connStateEvents_unended _ _ _
  | accept =>
      intro ev hev
      rcases List.mem_cons.mp hev with rfl | hev
      · rfl
      · rcases List.mem_append.mp hev with hev | hev
        · exact connStateEvents_unended _ _ _ ev hev
        · rw [List.mem_singleton.mp hev]
          rfl
  | close => exact connStateEvents_unended _ _ _
  | idle => exact connStateEvents_unended _ _ _
  | sendClose => split_ifs <;> simp [Unended, Event.ends]
  | _ => simp [Unended, Event.ends]

/-- No refusal is logged for a connection that stays. -/
lemma ConnTrans.not_rejected {x x' : Conn} {evs : List Event} {now : Option ℤ}
    (h : ConnTrans env op t c x x' evs now) {r : ℤ} (hr : r ≠ ackResultOk) :
    .connConnectNotify c r ∉ evs := by
  have hst : ∀ new, .connConnectNotify c r ∉ connStateEvents c x new := by
    intro new
    rw [connStateEvents]
    split_ifs <;> simp
  cases h with
  | established => exact hst _
  | accept => simp [hst, hr]
  | close => exact hst _
  | idle => exact hst _
  | sendClose => split_ifs <;> simp
  | _ => simp

/-- The end of a connection. -/
lemma ConnEnd.of_final {x : Conn} (h : Unended log) (streamMap : Htb ℕ) (streamCount : ℕ)
    (reason : UInt8) :
    ConnEnd c (x.final streamMap streamCount) (endConnEvents c x reason ++ log) := by
  refine ⟨[], reason, (if x.state = .error then [] else [.connState c x.state .closed]) ++ log,
    Or.inl rfl, Unended.append ?_ h, ?_⟩
  · split_ifs <;> simp [Unended, Event.ends]
  · rw [endConnEvents, List.nil_append, List.append_assoc]
    rfl

lemma ConnLast.unended {x x' : Conn} {evs : List Event} (h : ConnLast c x x' evs) :
    Unended evs ∧ x'.callbacks = {} := by
  cases h with
  | reject hi hs hr hev =>
      refine ⟨?_, rfl⟩
      rcases hev with rfl | ⟨-, rfl | rfl⟩ <;> simp [Unended, Event.ends]

/-- **What a move means for the end of a connection.** -/
lemma ConnView.ends {x : Conn} {evs : List Event} (hv : ConnView env op e c x evs)
    (hc : c < e.nconns) (h : ConnEnds c (e.conns c) (e.logOf (.conn c))) :
    ConnEnds c x (evs ++ e.logOf (.conn c)) := by
  cases hv with
  | same => exact h
  | trans hl ht hx =>
      have hcl : x.internalClosed = false :=
        (congrArg ConnOwn.internalClosed hx.kept.own).trans hl.2
      refine ⟨fun _ => hx.unended.append (h.live hl.2), fun hd => ?_, fun r hr hm => ?_⟩
      · exact absurd (hcl.symm.trans hd) (by decide)
      · rcases List.mem_append.mp hm with hm | hm
        · exact absurd hm (hx.not_rejected hr)
        · exact absurd ((h.rejected r hr hm).1.symm.trans hl.2) (by decide)
  | streams hl => exact ⟨h.live, fun hd => absurd (hl.2.symm.trans hd) (by decide), h.rejected⟩
  | final hl hs =>
      refine ⟨fun hx => (by cases hx), fun _ => .of_final (h.live hl.2) _ _ _, fun r hr hm => ?_⟩
      rcases List.mem_append.mp hm with hm | hm
      · rw [endConnEvents] at hm
        split_ifs at hm <;> simp at hm
      · exact absurd ((h.rejected r hr hm).1.symm.trans hl.2) (by decide)
  | @last y evs streamMap streamCount hl hx =>
      obtain ⟨hun, hcb⟩ := hx.unended
      refine ⟨fun hx => (by cases hx), fun _ => ?_, fun _ _ _ => ⟨rfl, ?_⟩⟩
      · rw [List.append_assoc]
        exact .of_final (hun.append (h.live hl.2)) _ _ _
      · show y.callbacks.connCloseNotify = false
        rw [hcb]
  | release hl hnew =>
      have hd : (e.conns c).internalClosed = true := by
        by_contra hx
        exact hl ⟨hc, by simpa using hx⟩
      refine ⟨fun hx => absurd (hd.symm.trans hx) (by decide), fun _ => ?_, fun r hr hm => ?_⟩
      · obtain ⟨rel, reason, log0, hrel, hun, hlog⟩ := h.dead hd
        rcases hrel with rfl | rfl
        · exact ⟨[.release (.conn c)], reason, log0, Or.inr rfl, hun, by rw [hlog]; rfl⟩
        · refine absurd ?_ hnew
          have : .release (.conn c) ∈ e.logOf (.conn c) := by rw [hlog]; simp
          exact (mem_logOf.mp this).1
      · rcases List.mem_cons.mp hm with hm | hm
        · cases hm
        · exact h.rejected r hr hm

lemma Move.connEnds (hm : Move env op e e') (hs : Steady env e) (h : e.EachConn ConnEnds) :
    e'.EachConn ConnEnds := by
  refine hm.eachConn hs (fun _ x hx => ?_) (fun _ _ _ hc hv hi => hv.ends hc hi) h
  refine ⟨fun _ => by simp [Unended], fun hd => ?_, fun _ _ hm => by cases hm⟩
  cases hx <;> cases hd

/-! ### Streams -/

lemma refreshEvents_unended (s : ℕ) (conn : Conn) (x : Stream K) (now r : ℤ) :
    Unended (refreshEvents s conn x now r) := by
  rw [refreshEvents]
  split_ifs <;> simp [Unended, Event.ends]

lemma streamCloseEvents_unended (s : ℕ) (x : Stream K) (phase : ClosePhase)
    {refresh : List Event} (h : Unended refresh) :
    Unended (streamCloseEvents s x phase refresh) := by
  rw [streamCloseEvents]
  refine Unended.append (Unended.append ?_ h) (by simp [Unended, Event.ends])
  split_ifs <;> simp [Unended, Event.ends]

lemma KcpStep.not_release {k k' : K} {call : KcpCall} {out : List Bytes}
    (h : KcpStep env k call k' out) : call ≠ .release := by
  cases h <;> simp

lemma KcpQuery.not_release {k : K} {call : KcpCall} (h : KcpQuery env k call) :
    call ≠ .release := by
  cases h <;> simp

lemma unended_kcp {call : KcpCall} (h : call ≠ .release) : Unended [.kcp s call] := by
  intro ev hev
  rw [List.mem_singleton.mp hev]
  cases call <;> first | rfl | exact absurd rfl h

lemma StreamTrans.unended {conn : Conn} {x x' : Stream K} {evs : List Event} {mv : TimerMove}
    {p : PendMove} (h : StreamTrans env op e t s conn x x' evs mv p) : Unended evs := by
  cases h with
  | call hk h => exact unended_kcp h.not_release
  | query hk h => exact unended_kcp h.not_release
  | flow h =>
      cases h with
      | unblockWrite => split_ifs <;> simp [Unended, Event.ends]
      | unblockRead => split_ifs <;> simp [Unended, Event.ends]
      | _ => simp [Unended]
  | refresh => exact refreshEvents_unended _ _ _ _ _
  | config => exact refreshEvents_unended _ _ _ _ _
  | startClose => exact streamCloseEvents_unended _ _ _ (refreshEvents_unended _ _ _ _ _)
  | remoteClose => exact streamCloseEvents_unended _ _ _ (by simp [Unended])
  | _ => simp [Unended, Event.ends, streamCloseWrite]

lemma StreamLast.unended {conn : Conn} {x x' : Stream K} {evs : List Event} {mv : TimerMove}
    (h : StreamLast env t s conn x x' evs mv) : Unended evs ∧ x'.callbacks = x.callbacks := by
  cases h with
  | drainExpired =>
      refine ⟨(refreshEvents_unended _ _ _ _ _).append ?_, rfl⟩
      simp [Unended, Event.ends, streamCloseWrite]
  | fail => exact ⟨by simp [Unended], rfl⟩

lemma StreamLast.not_create {conn : Conn} {x x' : Stream K} {evs : List Event} {mv : TimerMove}
    (h : StreamLast env t s conn x x' evs mv) (r : ℤ) : .streamCreateNotify s r ∉ evs := by
  cases h with
  | drainExpired =>
      rw [refreshEvents]
      split_ifs <;> simp [streamCloseWrite]
  | fail => simp

/-- A step keeps a refused stream without callbacks. -/
lemma StreamTrans.rejected {conn : Conn} {x x' : Stream K} {evs : List Event} {mv : TimerMove}
    {p : PendMove} (h : StreamTrans env op e t s conn x x' evs mv p) :
    (x'.callbacks = x.callbacks ∧ ∀ r, r ≠ 0 → .streamCreateNotify s r ∉ evs) ∨
      x'.callbacks = {} ∨ (¬ e.RejectedStream s ∧ evs = []) := by
  have hrefresh : ∀ conn (x : Stream K) now r r', .streamCreateNotify s r' ∉
      refreshEvents s conn x now r := by
    intro conn x now r r'
    rw [refreshEvents]
    split_ifs <;> simp
  cases h with
  | output => refine Or.inl ⟨by split_ifs <;> rfl, by simp⟩
  | flow h =>
      refine Or.inl ⟨?_, fun r _ hm => ?_⟩
      · obtain ⟨_, _, _, _, _, rfl⟩ := h.record
        rfl
      · cases h with
        | unblockWrite => split_ifs at hm <;> simp at hm
        | unblockRead => split_ifs at hm <;> simp at hm
        | _ => cases hm
  | refresh => exact Or.inl ⟨rfl, fun r _ => hrefresh _ _ _ _ _⟩
  | config => exact Or.inl ⟨rfl, fun r _ => hrefresh _ _ _ _ _⟩
  | callbacks h => exact Or.inr (Or.inr ⟨h, rfl⟩)
  | startClose =>
      refine Or.inl ⟨rfl, fun r _ hm => ?_⟩
      rw [streamCloseEvents, List.mem_append, List.mem_append] at hm
      rcases hm with (hm | hm) | hm
      · split_ifs at hm <;> simp at hm
      · exact hrefresh _ _ _ _ _ hm
      · simp at hm
  | remoteClose =>
      refine Or.inl ⟨rfl, fun r _ hm => ?_⟩
      rw [streamCloseEvents, List.mem_append, List.mem_append] at hm
      rcases hm with (hm | hm) | hm
      · split_ifs at hm <;> simp at hm
      · cases hm
      · simp at hm
  | accept => exact Or.inl ⟨rfl, fun r hr hm => hr (by simpa using hm)⟩
  | reject => exact Or.inr (Or.inl rfl)
  | _ => exact Or.inl ⟨rfl, by simp [streamCloseWrite]⟩

/-- The end of a stream. -/
lemma StreamEnd.of_final {x : Stream K} (h : Unended log) (reason : UInt8) :
    StreamEnd s x.final (finalStreamEvents s x reason ++ log) := by
  refine ⟨[], reason, log, Or.inl rfl, h, ?_⟩
  rw [finalStreamEvents, List.nil_append, List.append_assoc]
  rfl

/-- **What a move means for the end of a stream.** -/
lemma StreamView.ends {x : Stream K} {evs : List Event} (hv : StreamView env op e s x evs)
    (hs : s < e.nstreams) (h : StreamEnds s (e.streams s) (e.logOf (.stream s))) :
    StreamEnds s x (evs ++ e.logOf (.stream s)) := by
  have hfinal : ∀ (y : Stream K) reason r, .streamCreateNotify s r ∉ finalStreamEvents s y reason := by
    intro y reason r
    rw [finalStreamEvents]
    split_ifs <;> simp
  cases hv with
  | same => exact h
  | trans hl ht hx =>
      have hcl : x.internalClosed = false :=
        (congrArg StreamOwn.internalClosed hx.own).trans hl.2
      refine ⟨fun _ => hx.unended.append (h.live hl.2), fun hd => ?_, fun r hr hm => ?_⟩
      · exact absurd (hcl.symm.trans hd) (by decide)
      · rcases hx.rejected with ⟨hcb, hnew⟩ | hcb | ⟨hnot, rfl⟩
        · rw [hcb]
          exact h.rejected r hr ((List.mem_append.mp hm).resolve_left (hnew r hr))
        · rw [hcb]
        · exact absurd ⟨r, hr, (mem_logOf.mp hm).1⟩ hnot
  | final hl =>
      refine ⟨fun hx => (by cases hx), fun _ => .of_final (h.live hl.2) _, fun r hr hm => ?_⟩
      exact h.rejected r hr ((List.mem_append.mp hm).resolve_left (hfinal _ _ _))
  | @last t y evs mv reason hl ht hx =>
      obtain ⟨hun, hcb⟩ := hx.unended
      refine ⟨fun hx => (by cases hx), fun _ => ?_, fun r hr hm => ?_⟩
      · rw [List.append_assoc]
        exact .of_final (hun.append (h.live hl.2)) _
      · rw [List.append_assoc] at hm
        have hm := (List.mem_append.mp hm).resolve_left (hfinal _ _ _)
        show y.callbacks.streamCloseNotify = false
        rw [hcb]
        exact h.rejected r hr ((List.mem_append.mp hm).resolve_left (hx.not_create r))
  | release hl hnew =>
      have hd : (e.streams s).internalClosed = true := by
        by_contra hx
        exact hl ⟨hs, by simpa using hx⟩
      refine ⟨fun hx => absurd (hd.symm.trans hx) (by decide), fun _ => ?_, fun r hr hm => ?_⟩
      · obtain ⟨rel, reason, log0, hrel, hun, hlog⟩ := h.dead hd
        rcases hrel with rfl | rfl
        · exact ⟨[.release (.stream s)], reason, log0, Or.inr rfl, hun, by rw [hlog]; rfl⟩
        · refine absurd ?_ hnew
          have : .release (.stream s) ∈ e.logOf (.stream s) := by rw [hlog]; simp
          exact (mem_logOf.mp this).1
      · rcases List.mem_cons.mp hm with hm | hm
        · cases hm
        · exact h.rejected r hr hm

lemma StreamBorn.ends {x : Stream K} {evs : List Event} (h : StreamBorn env op e x evs) :
    StreamEnds e.nstreams x evs := by
  have hun : Unended (streamNewEvents e.nstreams x.config) := by
    simp [Unended, streamNewEvents, Event.ends]
  cases h with
  | @live c t x latest r hl hs hx =>
      have hcl : x.internalClosed = false := by cases hx <;> rfl
      refine ⟨fun _ => ?_, fun hd => absurd (hcl.symm.trans hd) (by decide), fun r _ hm => ?_⟩
      · have h1 : Unended [.kcp e.nstreams (.check x.readBlockStartTs r)] := by
          simp [Unended, Event.ends]
        exact h1.append hun
      · simp [streamNewEvents] at hm
  | dead hc hx =>
      refine ⟨fun hl => absurd (hl.symm.trans hx.1) (by decide), fun _ => ?_, fun r _ hm => ?_⟩
      · refine ⟨[.release (.stream e.nstreams)], 0, _, Or.inr rfl, hun, ?_⟩
        rw [hx.2.2.2.1]
        rfl
      · simp [streamNewEvents] at hm

lemma Move.streamEnds (hm : Move env op e e') (hs : Steady env e) (h : e.EachStream StreamEnds) :
    e'.EachStream StreamEnds :=
  hm.eachStream hs (fun _ _ hx => hx.ends) (fun _ _ _ hk hv hi => hv.ends hk hi) h

/-! ### Connections and their streams -/

/-- After the close notification of a connection its streams are only released. -/
def CloseOrder (e : Engine K) : Prop :=
  ∀ newer older c r, e.trace = newer ++ .connCloseNotify c r :: older → ∀ ev ∈ newer, ∀ s,
    ev.subject = some (.stream s) → (e.streams s).conn = c → ev = .release (.stream s)

/-- A step writes the entries `evs` and then `top`, of which only `top` has close notifications
of connections, and that has nothing about streams. -/
def Closes (e e' : Engine K) : Prop :=
  ∃ top evs, e'.trace = top ++ (evs ++ e.trace) ∧
    (∀ ev ∈ top, ∀ s, ev.subject ≠ some (.stream s)) ∧
    ∀ ev ∈ evs, ∀ c r, ev ≠ .connCloseNotify c r

lemma Closes.of_append (evs : List Event) (ht : e'.trace = evs ++ e.trace)
    (hev : ∀ ev ∈ evs, ∀ c r, ev ≠ .connCloseNotify c r) : Closes e e' :=
  ⟨[], evs, ht, by simp, hev⟩

lemma Unended.not_closeNotify {evs : List Event} (h : Unended evs) :
    ∀ ev ∈ evs, ∀ c r, ev ≠ .connCloseNotify c r := by
  rintro ev hev c r rfl
  cases h _ hev

lemma not_closeNotify_of_stream {evs : List Event}
    (h : ∀ ev ∈ evs, ev.subject = some (.stream s)) :
    ∀ ev ∈ evs, ∀ c r, ev ≠ .connCloseNotify c r := by
  rintro ev hev c r rfl
  cases h _ hev

lemma connCloseInternal_closes (h : Own env e) (hd : 0 < e.operationDepth) (hl : e.LiveConn c)
    (reason : UInt8) : Closes e (connCloseInternal env e c reason) := by
  refine connFinal_induct
    (P := fun e1 => ∃ evs, e1.trace = evs ++ e.trace ∧
      ∀ ev ∈ evs, ∀ c r, ev ≠ .connCloseNotify c r)
    (Q := fun e1 => Closes e e1) h hd hl ⟨[], rfl, by simp⟩ ?_ ?_
  · rintro e1 s - - - hs ⟨evs, ht, hev⟩
    refine ⟨finalStreamEvents s (e1.streams s) reason ++ evs, ?_, fun ev hm => ?_⟩
    · rw [List.append_assoc, ← ht]
      rfl
    · rcases List.mem_append.mp hm with hm | hm
      · exact not_closeNotify_of_stream (finalStreamEvents_subject reason _) ev hm
      · exact hev ev hm
  · rintro e1 - - - - - ⟨evs, ht, hev⟩
    refine ⟨endConnEvents c (e1.conns c) reason, evs, ?_, fun ev hm s hs => ?_, hev⟩
    · rw [← ht]
      rfl
    · rw [endConnEvents_subject c _ reason ev hm] at hs
      cases hs

lemma Act.closes (ha : Act env op e e') (h : Own env e) : Closes e e' := by
  have hquiet : e'.trace = e.trace → Closes e e' := fun ht => .of_append [] ht (by simp)
  cases ha with
  | conn hl ht hx => exact .of_append _ rfl hx.unended.not_closeNotify
  | stream hl ht hx => exact .of_append _ rfl hx.unended.not_closeNotify
  | quiet => exact hquiet rfl
  | idLost => exact hquiet rfl
  | popBatch => exact hquiet rfl
  | connNew => exact hquiet rfl
  | @streamNew c t x latest r capacity m hl hs ht hcap hx hm =>
      have hb : StreamBorn env op e _ (.kcp e.nstreams (.check x.readBlockStartTs r) :: _) :=
        .live hl hs hx
      exact .of_append _ rfl (not_closeNotify_of_stream hb.subject)
  | streamFailed ht hc hx =>
      have hb : StreamBorn env op e _ _ := .dead hc hx
      exact .of_append _ rfl (not_closeNotify_of_stream hb.subject)
  | streamFinal hd hl =>
      exact .of_append _ rfl (not_closeNotify_of_stream (finalStreamEvents_subject _ _))
  | @streamLast s t x evs mv m st cs reason hd hl ht hx hm hst =>
      refine .of_append (finalStreamEvents s _ reason ++ evs)
        (List.append_assoc _ _ _).symm (not_closeNotify_of_stream (s := s) fun ev hev => ?_)
      rcases List.mem_append.mp hev with hev | hev
      · exact finalStreamEvents_subject reason _ ev hev
      · exact hx.subject ev hev
  | connFinal hd hl => exact connCloseInternal_closes h hd hl _
  | @connLast c t x evs st cs hd hl ht hx hst =>
      have hs := SameOwn.connLast env hl hx t st cs
      obtain ⟨top, evs', ht', htop, hev⟩ := connCloseInternal_closes (h.of_same hs) hd
        ((hs.liveConn c).mpr hl) closeReasonRejected
      refine ⟨top, evs' ++ evs, ?_, htop, fun ev hm => ?_⟩
      · rw [ht', List.append_assoc]
        rfl
      · exact (List.mem_append.mp hm).elim (hev ev) (hx.unended.1.not_closeNotify ev)

/-- A connection with a close notification is finalised. -/
lemma Engine.EachConn.not_live (h : e.EachConn ConnEnds) {r : UInt8}
    (hm : .connCloseNotify c r ∈ e.trace) : ¬ e.LiveConn c := fun hl =>
  absurd ((h c hl.1).live hl.2 _ (mem_logOf.mpr ⟨hm, rfl⟩)) (by simp [Event.ends])

lemma CloseOrder.next (h : CloseOrder e) (ho : Own env e) (top evs : List Event)
    (ht : e'.trace = top ++ (evs ++ e.trace))
    (htop : ∀ ev ∈ top, ∀ s, ev.subject ≠ some (.stream s))
    (hevs : ∀ ev ∈ evs, ∀ c r, ev ≠ .connCloseNotify c r)
    (hconn : ∀ s < e.nstreams, (e'.streams s).conn = (e.streams s).conn)
    (hnew : ∀ ev ∈ evs, ∀ s, ev.subject = some (.stream s) → ∀ r,
      .connCloseNotify (e'.streams s).conn r ∈ e.trace → ev = .release (.stream s)) :
    CloseOrder e' := by
  intro newer older c r htr ev hev s hsub hc
  rw [ht] at htr
  rcases List.append_eq_append_iff.mp htr with ⟨as, rfl, hrest⟩ | ⟨bs, rfl, -⟩
  · rcases List.mem_append.mp hev with hev | hev
    · exact absurd hsub (htop ev hev s)
    · clear htr
      rcases List.append_eq_append_iff.mp hrest with ⟨as, rfl, htr⟩ | ⟨bs, rfl, htr⟩
      · rcases List.mem_append.mp hev with hev | hev
        · exact hnew ev hev s hsub r (by rw [hc, htr]; simp)
        · have hmem : ev ∈ e.trace := by
            rw [htr]
            simp [hev]
          refine h as older c r htr ev hev s hsub ?_
          rw [← hconn s (ho.known ev hmem _ hsub), hc]
      · cases bs with
        | nil =>
            refine hnew ev (by simpa using hev) s hsub r ?_
            rw [hc, ← List.nil_append e.trace, ← htr]
            simp
        | cons b bs =>
            obtain ⟨rfl, -⟩ := List.cons_eq_cons.mp htr
            exact absurd rfl (hevs (.connCloseNotify c r) (by simp) c r)
  · exact absurd hsub (htop ev (List.mem_append_left _ hev) s)

lemma StreamBorn.liveConn {x : Stream K} {evs : List Event} (h : StreamBorn env op e x evs) :
    e.LiveConn x.conn := by
  cases h with
  | live hl hs hx => cases hx <;> exact hl
  | dead hc => exact hc

/-- The entries a step makes about streams are about streams of live connections. -/
lemma Act.liveConn_of_tells (ha : Act env op e e') (hs : Steady env e) {ev : Event}
    (hev : ∃ o, ev.subject = some o ∧ (e.Live o ∨ ¬ e.Known o)) (hm : ev ∈ e'.trace)
    (hsub : ev.subject = some (.stream s)) : e.LiveConn (e'.streams s).conn := by
  obtain ⟨o, ho, hl⟩ := hev
  rw [hsub] at ho
  cases Option.some.inj ho
  have hmv : Move env op e e' := .act ha
  rcases hl with hl | hk
  · have hc : (e'.streams s).conn = (e.streams s).conn :=
      congrArg (·.2.2) ((hmv.extends hs).stream s hl.1).1
    rw [hc]
    exact hs.liveConn hl
  · have hlt : s < e'.nstreams := (hmv.steady hs).known ev hm _ hsub
    have hge : e.nstreams ≤ s := Nat.le_of_not_lt hk
    rcases hmv.nstreams hs with hn | ⟨evs, hb, hn, -⟩
    · omega
    · have hsn : s = e.nstreams := by omega
      rw [hsn]
      exact hb.liveConn

lemma Move.closeOrder (hm : Move env op e e') (hs : Steady env e) (hc : e.EachConn ConnEnds)
    (h : CloseOrder e) : CloseOrder e' := by
  have hconn : ∀ s < e.nstreams, (e'.streams s).conn = (e.streams s).conn := fun s hk =>
    congrArg (·.2.2) ((hm.extends hs).stream s hk).1
  rcases hm.frame hs with ha | ⟨-, -, -, -, evs, ht, hev | ⟨o, rfl, -⟩⟩
  · obtain ⟨top, evs, ht, htop, hev⟩ := ha.closes hs.toOwn
    obtain ⟨all, ht', htells⟩ := ha.tells hs.toOwn
    have hall : all = top ++ evs :=
      List.append_cancel_right (ht'.symm.trans (ht.trans (List.append_assoc _ _ _).symm))
    refine h.next hs.toOwn _ _ ht htop hev hconn fun ev hm' s hsub r hr => ?_
    have hmem : ev ∈ e'.trace := by
      rw [ht]
      simp [hm']
    exact absurd (ha.liveConn_of_tells hs (htells ev (by simp [hall, hm'])) hmem hsub)
      (hc.not_live hr)
  · refine h.next hs.toOwn evs [] ht (fun ev hm' s => ?_) (by simp) hconn (by simp)
    simp [hev ev hm']
  · refine h.next hs.toOwn [] [.release o] ht (by simp) (by simp) hconn ?_
    intro ev hm' s hsub r _
    rw [List.mem_singleton.mp hm'] at hsub ⊢
    cases hsub
    rfl

/-- What every log says about the end of its object. -/
structure Ends (e : Engine K) : Prop where
  conns : e.EachConn ConnEnds
  streams : e.EachStream StreamEnds
  order : CloseOrder e

/-- **Every move keeps the ends in order.** -/
lemma Move.ends (hm : Move env op e e') (hs : Steady env e) (h : Ends e) : Ends e' :=
  ⟨hm.connEnds hs h.conns, hm.streamEnds hs h.streams, hm.closeOrder hs h.conns h.order⟩

lemma Reachable.ends (h : Reachable env e) : Ends e := by
  refine h.induct (fun cc sc e he => ?_) fun op e e' hs hm hi => hm.ends hs hi
  obtain ⟨cc, sc, id, -, rfl⟩ := engineCreate_eq he
  refine ⟨fun c hc => absurd hc (Nat.not_lt_zero c), fun s hk => absurd hk (Nat.not_lt_zero s), ?_⟩
  intro newer older c r ht
  simp [engineBlank] at ht

/-! ### The destruction of the engine -/

end KcpMux
