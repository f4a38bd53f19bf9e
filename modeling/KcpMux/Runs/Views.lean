import KcpMux.Runs.Moves

/-!
The history of one object.

A run is a chain of moves of the whole engine; most properties are about one connection or
one stream and the entries of the log that name it.  `ConnView` and `StreamView` list what a
single move can mean for one object, and `Move.connView`, `Move.streamView` show that there is
nothing else.  `Move.eachConn` and `Move.eachStream` are the resulting rules: a property of
records and their logs that every view keeps, every move keeps for all objects.
-/

namespace KcpMux

variable {K : Type}

/-- The entries of the log about one object, newest first. -/
def Engine.logOf (e : Engine K) (o : Owner) : List Event :=
  e.trace.filter fun ev => ev.subject = some o

/-- The record a finalised stream leaves behind. -/
def Stream.final (x : Stream K) : Stream K :=
  { x with
    internalClosed := true, pendingCount := 0, inStreamMap := false, kcp := none
    state := if x.state = .error then .error else .closed }

/-- The record a finalised connection leaves behind. -/
def Conn.final (x : Conn) (streamMap : Htb ℕ) (streamCount : ℕ) : Conn :=
  { x with
    internalClosed := true, inEngineMap := false, streamMap := streamMap
    streamCount := streamCount, state := if x.state = .error then .error else .closed }

/-- What a move of the engine can mean for the connection `c`: its record and the new entries
of its log. -/
inductive ConnView (env : Env K) (op : Call) (e : Engine K) (c : ℕ) : Conn → List Event → Prop
  | same : ConnView env op e c (e.conns c) []
  | trans {t : ℕ} {x : Conn} {evs : List Event} {now : Option ℤ} (hl : e.LiveConn c)
      (ht : e.tick ≤ t) (h : ConnTrans env op t c (e.conns c) x evs now) :
      ConnView env op e c x evs
  | streams {streamMap : Htb ℕ} {streamCount : ℕ} {latest : UInt32} {initialized : Bool}
      (hl : e.LiveConn c) :
      ConnView env op e c { e.conns c with
        streamMap := streamMap, streamCount := streamCount, latestPeerStreamId := latest
        peerStreamIdInitialized := initialized } []
  | final {streamMap : Htb ℕ} {streamCount : ℕ} {reason : UInt8} (hl : e.LiveConn c)
      (hs : (e.conns c).state ≠ .init) :
      ConnView env op e c ((e.conns c).final streamMap streamCount)
        (endConnEvents c (e.conns c) reason)
  | last {x : Conn} {evs : List Event} {streamMap : Htb ℕ} {streamCount : ℕ} (hl : e.LiveConn c)
      (h : ConnLast c (e.conns c) x evs) :
      ConnView env op e c (x.final streamMap streamCount)
        (endConnEvents c x closeReasonRejected ++ evs)
  | release (hl : ¬ e.LiveConn c) (hnew : .release (.conn c) ∉ e.trace) :
      ConnView env op e c (e.conns c) [.release (.conn c)]

/-- What a move of the engine can mean for the stream `s`. -/
inductive StreamView (env : Env K) (op : Call) (e : Engine K) (s : ℕ) :
    Stream K → List Event → Prop
  | same : StreamView env op e s (e.streams s) []
  | trans {t : ℕ} {x : Stream K} {evs : List Event} {mv : TimerMove} {p : PendMove}
      (hl : e.LiveStream s) (ht : e.tick ≤ t)
      (h : StreamTrans env op e t s (e.connOf s) (e.streams s) x evs mv p) :
      StreamView env op e s x evs
  | last {t : ℕ} {x : Stream K} {evs : List Event} {mv : TimerMove} {reason : UInt8}
      (hl : e.LiveStream s) (ht : e.tick ≤ t)
      (h : StreamLast env t s (e.connOf s) (e.streams s) x evs mv) :
      StreamView env op e s x.final (finalStreamEvents s x reason ++ evs)
  | final {reason : UInt8} (hl : e.LiveStream s) :
      StreamView env op e s (e.streams s).final (finalStreamEvents s (e.streams s) reason)
  | release (hl : ¬ e.LiveStream s) (hnew : .release (.stream s) ∉ e.trace) :
      StreamView env op e s (e.streams s) [.release (.stream s)]

variable {env : Env K} {op : Call} {e e' : Engine K} {o : Owner} {c s : ℕ}

/-! ### Logs -/

lemma logOf_append {evs : List Event} (ht : e'.trace = evs ++ e.trace) :
    e'.logOf o = (evs.filter fun ev => ev.subject = some o) ++ e.logOf o := by
  rw [Engine.logOf, ht, List.filter_append]
  rfl

/-- Entries about the object. -/
lemma logOf_append_self {evs : List Event} (ht : e'.trace = evs ++ e.trace)
    (hsub : ∀ ev ∈ evs, ev.subject = some o) : e'.logOf o = evs ++ e.logOf o := by
  rw [logOf_append ht, List.filter_eq_self.mpr fun ev hev => decide_eq_true (hsub ev hev)]

/-- Entries about other objects. -/
lemma logOf_append_other {evs : List Event} (ht : e'.trace = evs ++ e.trace)
    (hsub : ∀ ev ∈ evs, ev.subject ≠ some o) : e'.logOf o = e.logOf o := by
  rw [logOf_append ht, List.filter_eq_nil_iff.mpr fun ev hev => by simpa using hsub ev hev,
    List.nil_append]

lemma logOf_append_of_ne {evs : List Event} {q : Owner} (ht : e'.trace = evs ++ e.trace)
    (hsub : ∀ ev ∈ evs, ev.subject = some q) (hq : q ≠ o) : e'.logOf o = e.logOf o :=
  logOf_append_other ht fun ev hev h => hq (Option.some.inj ((hsub ev hev).symm.trans h))

lemma mem_logOf {ev : Event} : ev ∈ e.logOf o ↔ ev ∈ e.trace ∧ ev.subject = some o := by
  simp [Engine.logOf]

/-- A handle that is not in use yet has no history. -/
lemma Own.logOf_unknown (h : Own env e) (ho : ¬ e.Known o) : e.logOf o = [] := by
  rw [Engine.logOf, List.filter_eq_nil_iff]
  intro ev hev hs
  exact ho (h.known ev hev o (by simpa using hs))

/-! ### The cascade -/

lemma finalStream_streams (e : Engine K) (s : ℕ) (reason : UInt8) :
    (e.finalStream s reason).streams = Function.update e.streams s (e.streams s).final := rfl

/-- During the finalisation of `c` from `e` on, the streams are untouched, or they were live
streams of `c` and are finalised. -/
def Cascaded (c : ℕ) (reason : UInt8) (e e' : Engine K) (s : ℕ) : Prop :=
  (e'.streams s = e.streams s ∧ e'.logOf (.stream s) = e.logOf (.stream s)) ∨
    (e.LiveIn c s ∧ e'.streams s = (e.streams s).final ∧
      e'.logOf (.stream s) =
        finalStreamEvents s (e.streams s) reason ++ e.logOf (.stream s))

lemma finalStream_logOf_self (e : Engine K) (s : ℕ) (reason : UInt8) :
    (e.finalStream s reason).logOf (.stream s) =
      finalStreamEvents s (e.streams s) reason ++ e.logOf (.stream s) :=
  logOf_append_self rfl (finalStreamEvents_subject reason _)

lemma finalStream_logOf_of_ne (reason : UInt8) (ho : o ≠ .stream s) :
    (e.finalStream s reason).logOf o = e.logOf o :=
  logOf_append_of_ne rfl (finalStreamEvents_subject reason _) (Ne.symm ho)

/-- A stream finalised in the course of the cascade. -/
lemma Cascaded.step {e1 : Engine K} {reason : UInt8} (hn : e1.nstreams = e.nstreams)
    (h : ∀ q, Cascaded c reason e e1 q) (hs : e1.LiveIn c s) (q : ℕ) :
    Cascaded c reason e (e1.finalStream s reason) q := by
  by_cases hq : q = s
  · subst hq
    -- a stream that is live in the cascade has not been touched yet
    rcases h q with ⟨hx, hlog⟩ | ⟨-, hx, -⟩
    · have hlive : e.LiveIn c q := by
        rw [Engine.LiveIn, Engine.LiveStream, ← hn, ← hx]
        exact hs
      exact Or.inr ⟨hlive, by rw [finalStream_streams, Function.update_self, hx],
        by rw [finalStream_logOf_self, hx, hlog]⟩
    · have hdead := hs.1.2
      rw [hx] at hdead
      cases hdead
  · have hx : (e1.finalStream s reason).streams q = e1.streams q :=
      finalStream_streams_of_ne reason hq
    have hlog : (e1.finalStream s reason).logOf (.stream q) = e1.logOf (.stream q) :=
      finalStream_logOf_of_ne reason (by simpa using hq)
    rw [Cascaded, hx, hlog]
    exact h q

/-- What the finalisation of `c` means for the connections. -/
def ConnsFinal (c : ℕ) (x : Htb ℕ → ℕ → Conn) (evs : List Event) (e e' : Engine K) : Prop :=
  (∀ d ≠ c, e'.conns d = e.conns d ∧ e'.logOf (.conn d) = e.logOf (.conn d)) ∧
    ∃ m n, e'.conns c = x m n ∧ e'.logOf (.conn c) = evs ++ e.logOf (.conn c)

/-- **The finalisation of a connection**, object by object. -/
lemma connCloseInternal_views (h : Own env e) (hd : 0 < e.operationDepth) (hl : e.LiveConn c)
    (reason : UInt8) :
    (∀ s, Cascaded c reason e (connCloseInternal env e c reason) s) ∧
      ConnsFinal c (e.conns c).final (endConnEvents c (e.conns c) reason) e
        (connCloseInternal env e c reason) := by
  refine connFinal_induct
    (P := fun e1 => e1.nstreams = e.nstreams ∧ (∀ s, Cascaded c reason e e1 s) ∧
      ConnsFinal c (fun m n => { e.conns c with
        internalClosed := true, inEngineMap := false, streamMap := m, streamCount := n }) [] e e1)
    (Q := fun e1 => (∀ s, Cascaded c reason e e1 s) ∧
      ConnsFinal c (e.conns c).final (endConnEvents c (e.conns c) reason) e e1)
    h hd hl ?_ ?_ ?_
  · refine ⟨rfl, fun s => Or.inl ⟨rfl, rfl⟩, fun d hdc => ⟨by simp [Engine.beginConn, hdc], rfl⟩,
      (e.conns c).streamMap, (e.conns c).streamCount, by simp [Engine.beginConn], rfl⟩
  · rintro e1 s - - - hs ⟨hn, h1, h2, m, n, h3, h4⟩
    have hlog : ∀ d, (e1.finalStream s reason).logOf (.conn d) = e1.logOf (.conn d) := fun d =>
      finalStream_logOf_of_ne reason (by simp)
    refine ⟨hn, Cascaded.step hn h1 hs, fun d hdc => ?_,
      htbDel (e1.conns c).streamMap s, (e1.conns c).streamCount - 1, ?_, by rw [hlog, h4]⟩
    · rw [hlog, finalStream_conns, if_neg (by rw [hs.2]; exact hdc),
        if_neg (by rw [hs.2]; exact hdc)]
      exact h2 d hdc
    · rw [finalStream_conns, if_pos hs.2.symm, if_pos hs.2.symm]
      simp only [h3]
  · rintro e1 - - - - - ⟨-, h1, h2, m, n, h3, h4⟩
    have hev : ∀ d ≠ c, (e1.endConn c reason).logOf (.conn d) = e1.logOf (.conn d) := fun d hdc =>
      logOf_append_of_ne rfl (endConnEvents_subject c _ reason) (by simpa using hdc.symm)
    have hstream : ∀ s, (e1.endConn c reason).logOf (.stream s) = e1.logOf (.stream s) := fun s =>
      logOf_append_of_ne rfl (endConnEvents_subject c _ reason) (by simp)
    have hself : (e1.endConn c reason).logOf (.conn c) =
        endConnEvents c (e1.conns c) reason ++ e1.logOf (.conn c) :=
      logOf_append_self rfl (endConnEvents_subject c _ reason)
    refine ⟨fun s => ?_, fun d hdc => ?_, m, n, ?_, ?_⟩
    · rw [Cascaded, hstream]
      exact h1 s
    · rw [hev d hdc]
      exact ⟨by simpa [Engine.endConn, hdc] using (h2 d hdc).1, (h2 d hdc).2⟩
    · simp [Engine.endConn, h3, Conn.final]
    · rw [hself, h3, h4]
      rfl

/-! ### Moves -/

/-- The step from `e` to `e'` has a view of the connection `c`. -/
def ConnViewed (env : Env K) (op : Call) (e e' : Engine K) (c : ℕ) : Prop :=
  ∃ evs, ConnView env op e c (e'.conns c) evs ∧ e'.logOf (.conn c) = evs ++ e.logOf (.conn c)

/-- The step from `e` to `e'` has a view of the stream `s`. -/
def StreamViewed (env : Env K) (op : Call) (e e' : Engine K) (s : ℕ) : Prop :=
  ∃ evs, StreamView env op e s (e'.streams s) evs ∧
    e'.logOf (.stream s) = evs ++ e.logOf (.stream s)

lemma ConnViewed.of_eq (hx : e'.conns c = e.conns c)
    (hlog : e'.logOf (.conn c) = e.logOf (.conn c)) : ConnViewed env op e e' c :=
  ⟨[], hx ▸ .same, hlog⟩

lemma StreamViewed.of_eq (hx : e'.streams s = e.streams s)
    (hlog : e'.logOf (.stream s) = e.logOf (.stream s)) : StreamViewed env op e e' s :=
  ⟨[], hx ▸ .same, hlog⟩

/-- A connection of which at most the streams have changed. -/
lemma ConnViewed.of_finalStream {e1 : Engine K} {reason : UInt8} (h : Sound env e)
    (hl : e.LiveStream s) (hx : e1.conns = e.conns) (hsc : (e1.streams s).conn = (e.streams s).conn)
    (hlog : e1.logOf (.conn c) = e.logOf (.conn c)) :
    ConnViewed env op e (e1.finalStream s reason) c := by
  refine ⟨[], ?_, (finalStream_logOf_of_ne reason (by simp)).trans hlog⟩
  rw [finalStream_conns, hx, hsc]
  by_cases hc : c = (e.streams s).conn
  · exact .streams (hc ▸ h.liveConn hl)
  · rw [if_neg hc, if_neg hc]
    exact .same

/-- **A step means one of these things for a connection.** -/
lemma Act.connViewed (ha : Act env op e e') (h : Sound env e) (hc : c < e.nconns) :
    ConnViewed env op e e' c := by
  cases ha with
  | @conn d t x evs now m st cs hl ht hx hm hst =>
      by_cases hd : c = d
      · subst hd
        refine ⟨evs, ?_, logOf_append_self rfl hx.subject⟩
        rw [stepConn_conns_self]
        exact .trans hl ht hx
      · exact .of_eq (by simp [Engine.stepConn, hd])
          (logOf_append_of_ne rfl hx.subject (by simpa using Ne.symm hd))
  | stream hl ht hx hm hst => exact .of_eq rfl (logOf_append_of_ne rfl hx.subject (by simp))
  | quiet => exact .of_eq rfl rfl
  | idLost => exact .of_eq rfl rfl
  | popBatch => exact .of_eq rfl rfl
  | connNew => exact .of_eq (newConn_conns_of_lt hc) rfl
  | @streamNew d t x latest r capacity m hl hs ht hcap hx hm =>
      refine ⟨[], ?_, logOf_append_of_ne (q := .stream e.nstreams) rfl (fun ev hev => ?_) (by simp)⟩
      · rw [newStream_conns]
        by_cases hd : c = d
        · subst hd
          exact .streams hl
        · simp only [hd, if_false]
          exact .same
      · rcases List.mem_cons.mp hev with rfl | hev
        · rfl
        · exact streamNewEvents_subject _ _ ev hev
  | streamFailed =>
      refine .of_eq rfl (logOf_append_of_ne (q := .stream e.nstreams) rfl (fun ev hev => ?_)
        (by simp))
      rcases List.mem_cons.mp hev with rfl | hev
      · rfl
      · rcases List.mem_cons.mp hev with rfl | hev
        · rfl
        · exact streamNewEvents_subject _ _ ev hev
  | streamFinal hd hl => exact .of_finalStream h hl rfl rfl rfl
  | @streamLast s t x evs mv m st cs reason hd hl ht hx hm hst =>
      refine .of_finalStream h hl rfl ?_ (logOf_append_of_ne rfl hx.subject (by simp))
      have hcn : x.conn = (e.streams s).conn := congrArg StreamOwn.conn hx.own
      simpa [Engine.stepStream] using hcn
  | @connFinal d reason hd hl hs =>
      obtain ⟨-, hother, m, n, hx, hlog⟩ := connCloseInternal_views h.toOwn hd hl reason
      by_cases hdc : c = d
      · subst hdc
        exact ⟨_, hx ▸ .final hl hs, hlog⟩
      · exact .of_eq (hother c hdc).1 (hother c hdc).2
  | @connLast d t x evs st cs hd hl ht hx hst =>
      have hs := SameOwn.connLast env hl hx t st cs
      obtain ⟨-, hother, m, n, hx', hlog⟩ := connCloseInternal_views (h.toOwn.of_same hs) hd
        ((hs.liveConn d).mpr hl) closeReasonRejected
      by_cases hdc : c = d
      · subst hdc
        rw [stepConn_conns_self] at hx' hlog
        refine ⟨endConnEvents c x closeReasonRejected ++ evs, hx' ▸ .last hl hx, hlog.trans ?_⟩
        rw [logOf_append_self rfl hx.subject, List.append_assoc]
      · exact .of_eq ((hother c hdc).1.trans (by simp [Engine.stepConn, hdc]))
          ((hother c hdc).2.trans
            (logOf_append_of_ne rfl hx.subject (by simpa using Ne.symm hdc)))

/-- **A step means one of these things for a stream.** -/
lemma Act.streamViewed (ha : Act env op e e') (h : Sound env e) (hk : s < e.nstreams) :
    StreamViewed env op e e' s := by
  have hnew : (.stream e.nstreams : Owner) ≠ .stream s := by simpa using (Nat.ne_of_lt hk).symm
  cases ha with
  | conn hl ht hx hm hst => exact .of_eq rfl (logOf_append_of_ne rfl hx.subject (by simp))
  | @stream q t x evs mv p m st cs hl ht hx hm hst =>
      by_cases hq : s = q
      · subst hq
        refine ⟨evs, ?_, logOf_append_self rfl hx.subject⟩
        simp only [Engine.stepStream, Function.update_self]
        exact .trans hl ht hx
      · exact .of_eq (by simp [Engine.stepStream, hq])
          (logOf_append_of_ne rfl hx.subject (by simpa using Ne.symm hq))
  | quiet => exact .of_eq rfl rfl
  | idLost => exact .of_eq rfl rfl
  | popBatch => exact .of_eq rfl rfl
  | connNew => exact .of_eq rfl rfl
  | streamNew hl hs ht hcap hx hm =>
      refine .of_eq (newStream_streams_of_lt hk) (logOf_append_of_ne rfl (fun ev hev => ?_) hnew)
      rcases List.mem_cons.mp hev with rfl | hev
      · rfl
      · exact streamNewEvents_subject _ _ ev hev
  | streamFailed =>
      refine .of_eq (by simp [Engine.deadStream, Nat.ne_of_lt hk])
        (logOf_append_of_ne rfl (fun ev hev => ?_) hnew)
      rcases List.mem_cons.mp hev with rfl | hev
      · rfl
      · rcases List.mem_cons.mp hev with rfl | hev
        · rfl
        · exact streamNewEvents_subject _ _ ev hev
  | @streamFinal q reason hd hl =>
      by_cases hq : s = q
      · subst hq
        refine ⟨_, ?_, finalStream_logOf_self e s reason⟩
        rw [finalStream_streams, Function.update_self]
        exact .final hl
      · exact .of_eq (finalStream_streams_of_ne reason hq)
          (finalStream_logOf_of_ne reason (by simpa using hq))
  | @streamLast q t x evs mv m st cs reason hd hl ht hx hm hst =>
      by_cases hq : s = q
      · subst hq
        refine ⟨finalStreamEvents s x reason ++ evs, ?_, ?_⟩
        · rw [finalStream_streams, Function.update_self]
          simp only [Engine.stepStream, Function.update_self]
          exact .last hl ht hx
        · rw [finalStream_logOf_self, List.append_assoc]
          congr 1
          · simp [Engine.stepStream]
          · exact logOf_append_self rfl hx.subject
      · refine .of_eq ?_ ?_
        · rw [finalStream_streams_of_ne reason hq]
          simp [Engine.stepStream, hq]
        · rw [finalStream_logOf_of_ne reason (by simpa using hq)]
          exact logOf_append_of_ne rfl hx.subject (by simpa using Ne.symm hq)
  | @connFinal d reason hd hl hs =>
      obtain ⟨hstream, -⟩ := connCloseInternal_views h.toOwn hd hl reason
      rcases hstream s with ⟨hx, hlog⟩ | ⟨hin, hx, hlog⟩
      · exact .of_eq hx hlog
      · exact ⟨_, hx ▸ .final hin.1, hlog⟩
  | @connLast d t x evs st cs hd hl ht hx hst =>
      have hs := SameOwn.connLast env hl hx t st cs
      obtain ⟨hstream, -⟩ := connCloseInternal_views (h.toOwn.of_same hs) hd
        ((hs.liveConn d).mpr hl) closeReasonRejected
      have hlog0 : (e.stepConn d x evs e.timerManager t st cs).logOf (.stream s) =
          e.logOf (.stream s) := logOf_append_of_ne rfl hx.subject (by simp)
      rcases hstream s with ⟨hx', hlog⟩ | ⟨hin, hx', hlog⟩
      · exact .of_eq hx' (hlog.trans hlog0)
      · rw [hlog0] at hlog
        exact ⟨_, hx' ▸ .final hin.1, hlog⟩

/-- A move that is not a step touches no record; it may release an object. -/
lemma Move.frame (hm : Move env op e e') (hs : Steady env e) :
    Act env op e e' ∨ (e'.conns = e.conns ∧ e'.streams = e.streams ∧ e'.nconns = e.nconns ∧
      e'.nstreams = e.nstreams ∧
      ∃ evs, e'.trace = evs ++ e.trace ∧
        ((∀ ev ∈ evs, ev.subject = none) ∨
          ∃ o, evs = [.release o] ∧ e.Known o ∧ ¬ e.Live o ∧ .release o ∉ e.trace)) := by
  have hquiet : ∃ evs, e.trace = evs ++ e.trace ∧ ((∀ ev ∈ evs, ev.subject = none) ∨
      ∃ o, evs = [.release o] ∧ e.Known o ∧ ¬ e.Live o ∧ .release o ∉ e.trace) :=
    ⟨[], rfl, Or.inl (by simp)⟩
  cases hm with
  | act ha => exact Or.inl ha
  | enter => exact Or.inr ⟨rfl, rfl, rfl, rfl, hquiet⟩
  | exit => exact Or.inr ⟨rfl, rfl, rfl, rfl, hquiet⟩
  | @release o rest hp =>
      refine Or.inr ⟨rfl, rfl, rfl, rfl, [.release o], rfl, Or.inr ⟨o, rfl, ?_⟩⟩
      have hmem : o ∈ e.releaseOrder := by simp [Engine.releaseOrder, hp]
      obtain ⟨hk, hl⟩ := (hs.queue.mem_iff o).mp hmem
      refine ⟨hk, hl, fun hrel => ?_⟩
      have hnd := hs.queue.nodup
      rw [Engine.releaseOrder, hp, List.reverse_cons, List.nodup_append] at hnd
      exact hnd.2.2 o (by simp) o (List.mem_filterMap.mpr ⟨_, hrel, rfl⟩) rfl
  | @rearm now =>
      obtain ⟨a, d, evs, heq, hev⟩ := engineRearmTimer_eq e now
      rw [heq]
      exact Or.inr ⟨rfl, rfl, rfl, rfl, evs, rfl, Or.inl fun ev hm => (hev ev hm).subject⟩
  | collect =>
      exact Or.inr ⟨rfl, rfl, rfl, rfl, [.update (engineNow env e)], rfl,
        Or.inl (by simp [Event.subject])⟩
  | dispatch => exact Or.inr ⟨rfl, rfl, rfl, rfl, hquiet⟩
  | settle =>
      rw [engineDispatchEnd]
      split_ifs <;> exact Or.inr ⟨rfl, rfl, rfl, rfl, hquiet⟩
  | destroying => exact Or.inr ⟨rfl, rfl, rfl, rfl, hquiet⟩

/-- **A move means one of these things for a connection.** -/
lemma Move.connViewed (hm : Move env op e e') (h : Steady env e) (hc : c < e.nconns) :
    ConnViewed env op e e' c := by
  rcases hm.frame h with ha | ⟨hx, -, -, -, evs, ht, hev | ⟨o, rfl, -, hl, hnew⟩⟩
  · exact ha.connViewed h.toSound hc
  · exact .of_eq (congrFun hx c) (logOf_append_other ht fun ev hm => by simp [hev ev hm])
  · by_cases ho : o = .conn c
    · subst ho
      exact ⟨_, congrFun hx c ▸ .release hl hnew, logOf_append_self ht (by simp [Event.subject])⟩
    · exact .of_eq (congrFun hx c) (logOf_append_of_ne ht (by simp [Event.subject]) ho)

/-- **A move means one of these things for a stream.** -/
lemma Move.streamViewed (hm : Move env op e e') (h : Steady env e) (hk : s < e.nstreams) :
    StreamViewed env op e e' s := by
  rcases hm.frame h with ha | ⟨-, hx, -, -, evs, ht, hev | ⟨o, rfl, -, hl, hnew⟩⟩
  · exact ha.streamViewed h.toSound hk
  · exact .of_eq (congrFun hx s) (logOf_append_other ht fun ev hm => by simp [hev ev hm])
  · by_cases ho : o = .stream s
    · subst ho
      exact ⟨_, congrFun hx s ▸ .release hl hnew, logOf_append_self ht (by simp [Event.subject])⟩
    · exact .of_eq (congrFun hx s) (logOf_append_of_ne ht (by simp [Event.subject]) ho)

/-- The stream a move creates, with its record and its log. -/
inductive StreamBorn (env : Env K) (op : Call) (e : Engine K) : Stream K → List Event → Prop
  | live {c t : ℕ} {x : Stream K} {latest : Option UInt32} {r : ℤ} (hl : e.LiveConn c)
      (hs : (e.conns c).state = .connected) (hx : NewStream env op e t c x latest) :
      StreamBorn env op e { x with inStreamMap := true }
        (.kcp e.nstreams (.check x.readBlockStartTs r) :: streamNewEvents e.nstreams x.config)
  | dead {x : Stream K} (hc : e.LiveConn x.conn)
      (hx : x.internalClosed = true ∧ x.kcp = none ∧ x.inStreamMap = false ∧
        x.callbacks = {} ∧ x.closePhase = .none ∧ x.state = .opened) :
      StreamBorn env op e x
        (.release (.stream e.nstreams) :: .kcp e.nstreams .release ::
          streamNewEvents e.nstreams x.config)

lemma StreamBorn.subject {x : Stream K} {evs : List Event} (h : StreamBorn env op e x evs) :
    ∀ ev ∈ evs, ev.subject = some (.stream e.nstreams) := by
  cases h <;> simp [streamNewEvents, Event.subject]

/-! ### Datagrams of a connection -/

/-- The datagrams that the call `op` makes a connection send, with the record `x` it has when
the step begins. -/
inductive ConnSend (op : Call) (x : Conn) : Bytes → Prop
  | connect (hs : x.state = .connecting) : ConnSend op x (connConnectMsg x)
  | accept {ext : ProtoExt} (hi : x.isInitiator = false) (hs : x.state = .init) :
      ConnSend op x (connConnectAckMsg { x with selfProtoExt := ext } (UInt8.ofInt ackResultOk))
  | reject {r : ℤ} (hi : x.isInitiator = false) (hs : x.state = .init) (hr : r ≠ ackResultOk) :
      ConnSend op x (connConnectAckMsg { x with selfProtoExt := .empty } (UInt8.ofInt r))
  | ack (hi : x.isInitiator = false) (hs : x.state = .connected) :
      ConnSend op x (connConnectAckMsg x (UInt8.ofInt ackResultOk))
  | version (hi : x.isInitiator = false) (hs : x.state ≠ .init) :
      ConnSend op x (connConnectAckMsg x (UInt8.ofInt ackResultVersion))
  | keepalive {y : Conn} {time : UInt32} (hs : x.state = .connected)
      (hy : y.peerConnectionId = x.peerConnectionId) : ConnSend op x (connKeepaliveMsg y time)
  | close {reason : UInt8} (hp : x.peerConnectionId ≠ 0) :
      ConnSend op x (connCloseMsg msgConnClose x reason)
  | closeAck {d : Bytes} {reason : UInt8} (hop : op = .input d x.peerAddr)
      (hd : ConnCloseDatagram d x.localConnectionId) :
      ConnSend op x (connCloseMsg msgConnCloseAck x reason)

/-- The entry, if it is a datagram, is one the connection `c` sends to its peer. -/
def ConnWrite (op : Call) (c : ℕ) (x : Conn) : Event → Prop
  | .write o addr d _ => o = .conn c ∧ addr = x.peerAddr ∧ ConnSend op x d
  | _ => True

lemma connStateEvents_write (c : ℕ) (x y : Conn) (new : ConnState) :
    ∀ ev ∈ connStateEvents c x new, ConnWrite op c y ev := by
  intro ev hev
  rw [connStateEvents] at hev
  split_ifs at hev <;> simp only [List.mem_cons, List.not_mem_nil, or_false] at hev
  · rcases hev with rfl | rfl <;> trivial
  · subst hev
    trivial

/-- **Every datagram of a live connection.** -/
lemma ConnTrans.write {t : ℕ} {x x' : Conn} {evs : List Event} {now : Option ℤ}
    (h : ConnTrans env op t c x x' evs now) : ∀ ev ∈ evs, ConnWrite op c x ev := by
  intro ev hev
  cases h with
  | connecting | fail =>
      rw [List.mem_singleton.mp hev]
      trivial
  | sendConnect hnow hs =>
      rw [List.mem_singleton.mp hev]
      exact ⟨rfl, rfl, .connect hs⟩
  | established => exact connStateEvents_write _ _ _ _ ev hev
  | accept hnow hi hs =>
      rcases List.mem_cons.mp hev with rfl | hev
      · exact ⟨rfl, rfl, .accept hi hs⟩
      · rcases List.mem_append.mp hev with hev | hev
        · exact connStateEvents_write _ _ _ _ ev hev
        · rw [List.mem_singleton.mp hev]
          trivial
  | ack hi hs hr =>
      rw [List.mem_singleton.mp hev]
      rcases hr with ⟨rfl, hs'⟩ | rfl
      · exact ⟨rfl, rfl, .ack hi hs'⟩
      · exact ⟨rfl, rfl, .version hi hs⟩
  | close => exact connStateEvents_write _ _ _ _ ev hev
  | idle => exact connStateEvents_write _ _ _ _ ev hev
  | sendClose hnow hs hn =>
      split_ifs at hev with hp
      · cases hev
      · rw [List.mem_singleton.mp hev]
        exact ⟨rfl, rfl, .close hp⟩
  | keepalive hnow hs =>
      rw [List.mem_singleton.mp hev]
      exact ⟨rfl, rfl, .keepalive hs rfl⟩
  | closeAck hop hs hd =>
      rw [List.mem_singleton.mp hev]
      exact ⟨rfl, rfl, .closeAck hop hd⟩
  | _ => cases hev

lemma endConnEvents_write (c : ℕ) (x y : Conn) (reason : UInt8) :
    ∀ ev ∈ endConnEvents c x reason, ConnWrite op c y ev := by
  intro ev hev
  rw [endConnEvents] at hev
  split_ifs at hev <;> simp only [List.append_nil, List.nil_append, List.cons_append,
    List.mem_cons, List.not_mem_nil, or_false] at hev
  · subst hev
    trivial
  · rcases hev with rfl | rfl <;> trivial
  · subst hev
    trivial

lemma ConnLast.write {x x' : Conn} {evs : List Event} (h : ConnLast c x x' evs) :
    ∀ ev ∈ evs, ConnWrite op c x ev := by
  cases h with
  | reject hi hs hr hev =>
      intro ev hm
      rcases List.mem_cons.mp hm with rfl | hm
      · exact ⟨rfl, rfl, .reject hi hs hr⟩
      · rcases hev with rfl | ⟨-, rfl | rfl⟩ <;> simp only [List.mem_cons, List.not_mem_nil,
          or_false] at hm <;> subst hm <;> trivial

/-- The datagrams of a connection, in its log. -/
lemma ConnView.write {x : Conn} {evs : List Event} (hv : ConnView env op e c x evs) :
    ∀ ev ∈ evs, ConnWrite op c (e.conns c) ev := by
  intro ev hev
  cases hv with
  | same => cases hev
  | trans hl ht h => exact h.write ev hev
  | streams => cases hev
  | final => exact endConnEvents_write _ _ _ _ ev hev
  | last hl h =>
      rcases List.mem_append.mp hev with hev | hev
      · exact endConnEvents_write _ _ _ _ ev hev
      · exact h.write ev hev
  | release =>
      rw [List.mem_singleton.mp hev]
      trivial

/-- Only a live connection sends. -/
lemma ConnView.live_of_write {x : Conn} {evs : List Event} (hv : ConnView env op e c x evs)
    {o : Owner} {addr : Addr} {d : Bytes} {ok : Bool} (hw : .write o addr d ok ∈ evs) :
    e.LiveConn c := by
  cases hv with
  | same => cases hw
  | trans hl => exact hl
  | streams => cases hw
  | final hl => exact hl
  | last hl => exact hl
  | release => simp at hw

/-! ### Datagrams of a stream -/

/-- A datagram the stream `s` sends to the peer of `conn`. -/
def StreamWrite (s : ℕ) (conn : Conn) (id : UInt32) : Event → Prop
  | .write o addr d _ => o = .stream s ∧ addr = conn.peerAddr ∧ ∃ type rest,
      (type = msgStreamPayload ∨ type = msgStreamClose ∨ type = msgStreamCloseAck) ∧
        d = streamHeader type conn id ++ rest
  | _ => True

/-- The entry is neither a datagram nor data from or for KCP. -/
def Event.Private : Event → Prop
  | .write _ _ _ _ | .kcpOutput _ _ | .kcp _ (.input _ _) => False
  | _ => True

/-- What can be logged for the stream `s` of `conn` with the record `x`: data that its KCP instance
outputs, a payload that was output before, a `STREAM_CLOSE` or its acknowledgement, a payload that
was received for it, and what stays private. -/
inductive StreamEntry (env : Env K) (op : Call) (e : Engine K) (s : ℕ) (conn : Conn) (x : Stream K) :
    Event → Prop
  | emitted {k k' : K} {call : KcpCall} {out : List Bytes} {b : Bytes}
      (hr : KcpRan env x.streamId k) (h : KcpStep env k call k' out) (hm : b ∈ out) :
      StreamEntry env op e s conn x (.kcpOutput s b)
  | payload {b : Bytes} {ok : Bool} (hout : .kcpOutput s b ∈ e.trace) :
      StreamEntry env op e s conn x
        (.write (.stream s) conn.peerAddr (streamHeader msgStreamPayload conn x.streamId ++ b) ok)
  | close {type reason : UInt8} {ok : Bool} (ht : type = msgStreamClose ∨ type = msgStreamCloseAck) :
      StreamEntry env op e s conn x
        (.write (.stream s) conn.peerAddr (streamCloseMsg type conn x.streamId reason) ok)
  | fed {d b : Bytes} {t : ℕ} {k : K} (hop : op = .input d conn.peerAddr)
      (hd : PayloadDatagram d conn.localConnectionId x.streamId b) (hk : x.kcp = some k) :
      StreamEntry env op e s conn x (.kcp s (.input b (env.kcp.input t k b).ret))
  | other {ev : Event} (h : ev.Private) : StreamEntry env op e s conn x ev

lemma StreamEntry.write {conn : Conn} {x : Stream K} {ev : Event}
    (h : StreamEntry env op e s conn x ev) : StreamWrite s conn x.streamId ev := by
  cases h with
  | emitted => trivial
  | @payload b => exact ⟨rfl, rfl, msgStreamPayload, b, Or.inl rfl, rfl⟩
  | @close type reason ok ht => exact ⟨rfl, rfl, type, [reason], Or.inr ht, rfl⟩
  | fed => trivial
  | other h =>
      cases ev with
      | write => exact h.elim
      | _ => trivial

lemma StreamEntry.others {conn : Conn} {x : Stream K} {evs : List Event}
    (h : ∀ ev ∈ evs, ev.Private) : ∀ ev ∈ evs, StreamEntry env op e s conn x ev :=
  fun ev hev => .other (h ev hev)

lemma refreshEvents_private (s : ℕ) (conn : Conn) (x : Stream K) (now r : ℤ) :
    ∀ ev ∈ refreshEvents s conn x now r, ev.Private := by
  rw [refreshEvents]
  split_ifs <;> simp [Event.Private]

lemma streamCloseEvents_private (s : ℕ) (x : Stream K) (phase : ClosePhase) {refresh : List Event}
    (hr : ∀ ev ∈ refresh, ev.Private) :
    ∀ ev ∈ streamCloseEvents s x phase refresh, ev.Private := by
  intro ev hev
  rw [streamCloseEvents] at hev
  rcases List.mem_append.mp hev with hev | hev
  · rcases List.mem_append.mp hev with hev | hev
    · split_ifs at hev <;> simp at hev
      subst hev
      trivial
    · exact hr ev hev
  · rw [List.mem_singleton.mp hev]
    trivial

lemma finalStreamEvents_private (s : ℕ) (x : Stream K) (reason : UInt8) :
    ∀ ev ∈ finalStreamEvents s x reason, ev.Private := by
  rw [finalStreamEvents]
  split_ifs <;> simp [Event.Private]

lemma KcpStep.entry {conn : Conn} {x : Stream K} {k k' : K} {call : KcpCall} {out : List Bytes}
    (h : KcpStep env k call k' out) (hk : x.kcp = some k) (ha : KcpAllowed op s conn x call) :
    StreamEntry env op e s conn x (.kcp s call) := by
  cases h with
  | input =>
      obtain ⟨-, d, hop, hd⟩ := ha
      exact .fed hop hd hk
  | _ => exact .other trivial

/-- **What is logged for a live stream.** -/
lemma StreamTrans.entry {t : ℕ} {conn : Conn} {x x' : Stream K} {evs : List Event} {mv : TimerMove}
    {p : PendMove} (h : StreamTrans env op e t s conn x x' evs mv p) :
    ∀ ev ∈ evs, StreamEntry env op e s conn x ev := by
  cases h with
  | emit hr hk h hm =>
      intro ev hev
      rw [List.mem_singleton.mp hev]
      exact .emitted hr h hm
  | @output k k' call out b ok hk h hm ha hc hb hlen hout =>
      intro ev hev
      rw [List.mem_singleton.mp hev]
      exact .payload hout
  | call hk h ha =>
      intro ev hev
      rw [List.mem_singleton.mp hev]
      exact h.entry hk ha
  | query hk h =>
      intro ev hev
      rw [List.mem_singleton.mp hev]
      cases h <;> exact .other trivial
  | flow h =>
      refine .others ?_
      cases h with
      | unblockWrite | unblockRead => split_ifs <;> simp [Event.Private]
      | _ => simp
  | refresh => exact .others (refreshEvents_private _ _ _ _ _)
  | config => exact .others (refreshEvents_private _ _ _ _ _)
  | startClose => exact .others (streamCloseEvents_private _ _ _ (refreshEvents_private _ _ _ _ _))
  | waitAck =>
      intro ev hev
      rcases List.mem_cons.mp hev with rfl | hev
      · exact .close (Or.inl rfl)
      · rw [List.mem_singleton.mp hev]
        exact .other trivial
  | resend =>
      intro ev hev
      rw [List.mem_singleton.mp hev]
      exact .close (Or.inl rfl)
  | closeAck =>
      intro ev hev
      rw [List.mem_singleton.mp hev]
      exact .close (Or.inr rfl)
  | remoteClose => exact .others (streamCloseEvents_private _ _ _ (by simp))
  | _ => exact .others (by simp [Event.Private])

/-- The entries of a stream, in its log. -/
lemma StreamView.entry {x : Stream K} {evs : List Event} (hv : StreamView env op e s x evs) :
    ∀ ev ∈ evs, StreamEntry env op e s (e.connOf s) (e.streams s) ev := by
  cases hv with
  | same => exact .others (by simp)
  | trans hl ht h => exact h.entry
  | last hl ht h =>
      intro ev hev
      rcases List.mem_append.mp hev with hf | hw
      · exact .other (finalStreamEvents_private _ _ _ ev hf)
      · cases h with
        | drainExpired =>
            rcases List.mem_append.mp hw with hr | hw
            · exact .other (refreshEvents_private _ _ _ _ _ ev hr)
            · rw [List.mem_singleton.mp hw]
              exact .close (Or.inl rfl)
        | fail => cases hw
  | final hl => exact .others (finalStreamEvents_private _ _ _)
  | release => exact .others (by simp [Event.Private])

/-- The datagrams of a stream, in its log. -/
lemma StreamView.write {x : Stream K} {evs : List Event} (hv : StreamView env op e s x evs) :
    ∀ ev ∈ evs, StreamWrite s (e.connOf s) (e.streams s).streamId ev :=
  fun ev hev => (hv.entry ev hev).write

/-- A stream sends nothing while it is created. -/
lemma StreamBorn.not_write {x : Stream K} {evs : List Event} (h : StreamBorn env op e x evs)
    {o : Owner} {addr : Addr} {d : Bytes} {ok : Bool} : .write o addr d ok ∉ evs := by
  cases h <;> simp [streamNewEvents]

/-- A stream that is logged is live, up to its release. -/
lemma StreamView.live_of_mem {x : Stream K} {evs : List Event} (hv : StreamView env op e s x evs)
    {ev : Event} (hev : ev ∈ evs) (hne : ev ≠ .release (.stream s)) : e.LiveStream s := by
  cases hv with
  | same => cases hev
  | trans hl => exact hl
  | last hl => exact hl
  | final hl => exact hl
  | release => exact absurd (List.mem_singleton.mp hev) hne

/-! ### What a step writes -/

/-- The new entries are about objects that were live, or are new. -/
def Tells (e : Engine K) (evs : List Event) : Prop :=
  ∀ ev ∈ evs, ∃ o, ev.subject = some o ∧ (e.Live o ∨ ¬ e.Known o)

lemma Tells.of_subject {evs : List Event} (hsub : ∀ ev ∈ evs, ev.subject = some o)
    (ho : e.Live o ∨ ¬ e.Known o) : Tells e evs := fun ev hev => ⟨o, hsub ev hev, ho⟩

lemma Tells.append {evs evs' : List Event} (h : Tells e evs) (h' : Tells e evs') :
    Tells e (evs ++ evs') := fun ev hev => (List.mem_append.mp hev).elim (h ev) (h' ev)

/-- The finalisation of a connection tells of it and of its streams. -/
lemma connCloseInternal_tells (h : Own env e) (hd : 0 < e.operationDepth) (hl : e.LiveConn c)
    (reason : UInt8) :
    ∃ evs, (connCloseInternal env e c reason).trace = evs ++ e.trace ∧ Tells e evs := by
  refine connFinal_induct
    (P := fun e1 => (∃ evs, e1.trace = evs ++ e.trace ∧ Tells e evs) ∧
      ∀ q, e1.LiveStream q → e.LiveStream q)
    (Q := fun e1 => ∃ evs, e1.trace = evs ++ e.trace ∧ Tells e evs)
    h hd hl ⟨⟨[], rfl, by simp [Tells]⟩, fun _ hq => hq⟩ ?_ ?_
  · rintro e1 s - - - hs ⟨⟨evs, ht, hev⟩, hlive⟩
    refine ⟨⟨finalStreamEvents s (e1.streams s) reason ++ evs, ?_, ?_⟩, fun q hq => ?_⟩
    · rw [List.append_assoc, ← ht]
      rfl
    · exact (Tells.of_subject (o := .stream s) (finalStreamEvents_subject reason _)
        (Or.inl (hlive s hs.1))).append hev
    · exact hlive q ((finalStream_liveStream reason q).mp hq).1
  · rintro e1 - - - - - ⟨⟨evs, ht, hev⟩, -⟩
    refine ⟨endConnEvents c (e1.conns c) reason ++ evs, ?_, ?_⟩
    · rw [List.append_assoc, ← ht]
      rfl
    · exact (Tells.of_subject (o := .conn c) (endConnEvents_subject c _ reason) (Or.inl hl)).append hev

/-- **What a step writes** is about live objects and new ones. -/
lemma Act.tells (ha : Act env op e e') (h : Own env e) :
    ∃ evs, e'.trace = evs ++ e.trace ∧ Tells e evs := by
  have hnone : ∃ evs, e.trace = evs ++ e.trace ∧ Tells e evs := ⟨[], rfl, by simp [Tells]⟩
  have hnew : e.Live (.stream e.nstreams) ∨ ¬ e.Known (.stream e.nstreams) :=
    Or.inr (lt_irrefl _)
  cases ha with
  | @conn c t x evs now m st cs hl ht hx hm hst =>
      exact ⟨evs, rfl, .of_subject (o := .conn c) hx.subject (Or.inl hl)⟩
  | @stream s t x evs mv p m st cs hl ht hx hm hst =>
      exact ⟨evs, rfl, .of_subject (o := .stream s) hx.subject (Or.inl hl)⟩
  | quiet => exact hnone
  | idLost => exact hnone
  | popBatch => exact hnone
  | connNew => exact hnone
  | @streamNew c t x latest r capacity m hl hs ht hcap hx hm =>
      have hb : StreamBorn env op e _ (.kcp e.nstreams (.check x.readBlockStartTs r) :: _) :=
        .live hl hs hx
      exact ⟨_, rfl, .of_subject hb.subject hnew⟩
  | streamFailed ht hc hx =>
      have hb : StreamBorn env op e _ _ := .dead hc hx
      exact ⟨_, rfl, .of_subject hb.subject hnew⟩
  | @streamFinal s reason hd hl =>
      exact ⟨_, rfl, .of_subject (o := .stream s) (finalStreamEvents_subject reason _) (Or.inl hl)⟩
  | @streamLast s t x evs mv m st cs reason hd hl ht hx hm hst =>
      refine ⟨finalStreamEvents s _ reason ++ evs, (List.append_assoc _ _ _).symm, ?_⟩
      exact (Tells.of_subject (o := .stream s) (finalStreamEvents_subject reason _)
        (Or.inl hl)).append (.of_subject (o := .stream s) hx.subject (Or.inl hl))
  | connFinal hd hl => exact connCloseInternal_tells h hd hl _
  | @connLast c t x evs st cs hd hl ht hx hst =>
      have hs := SameOwn.connLast env hl hx t st cs
      obtain ⟨evs', ht', hev⟩ := connCloseInternal_tells (h.of_same hs) hd
        ((hs.liveConn c).mpr hl) closeReasonRejected
      refine ⟨evs' ++ evs, ht'.trans (List.append_assoc _ _ _).symm, ?_⟩
      have hev' : Tells e evs' := fun ev hm => by
        obtain ⟨o, ho, hlo⟩ := hev ev hm
        refine ⟨o, ho, hlo.imp (hs.live o).mp fun hk => ?_⟩
        cases o <;> exact hk
      exact hev'.append (.of_subject (o := .conn c) hx.subject (Or.inl hl))

/-! ### What stays -/

/-- No handle is lost, no entry of the log, and nothing that identifies an object; a finalised
object stays finalised. -/
structure Extends (e e' : Engine K) : Prop where
  nconns : e.nconns ≤ e'.nconns
  nstreams : e.nstreams ≤ e'.nstreams
  trace : e.trace <:+ e'.trace
  conn : ∀ c < e.nconns, (e'.conns c).ident = (e.conns c).ident ∧
    ((e.conns c).internalClosed = true → (e'.conns c).internalClosed = true)
  stream : ∀ s < e.nstreams, (e'.streams s).ident = (e.streams s).ident ∧
    ((e.streams s).internalClosed = true → (e'.streams s).internalClosed = true)

lemma Extends.refl (e : Engine K) : Extends e e :=
  ⟨le_rfl, le_rfl, List.suffix_rfl, fun _ _ => ⟨rfl, id⟩, fun _ _ => ⟨rfl, id⟩⟩

lemma Extends.trans {e1 e2 : Engine K} (h : Extends e e1) (h' : Extends e1 e2) : Extends e e2 where
  nconns := h.nconns.trans h'.nconns
  nstreams := h.nstreams.trans h'.nstreams
  trace := h.trace.trans h'.trace
  conn := fun c hc =>
    ⟨(h'.conn c (hc.trans_le h.nconns)).1.trans (h.conn c hc).1,
      fun hcl => (h'.conn c (hc.trans_le h.nconns)).2 ((h.conn c hc).2 hcl)⟩
  stream := fun s hs =>
    ⟨(h'.stream s (hs.trans_le h.nstreams)).1.trans (h.stream s hs).1,
      fun hcl => (h'.stream s (hs.trans_le h.nstreams)).2 ((h.stream s hs).2 hcl)⟩

/-- What is live now was live before, if it was there. -/
lemma Extends.liveConn (h : Extends e e') (hc : c < e.nconns) (hl : e'.LiveConn c) :
    e.LiveConn c := by
  refine ⟨hc, ?_⟩
  by_contra hdead
  rw [Bool.not_eq_false] at hdead
  exact absurd ((h.conn c hc).2 hdead) (by simp [hl.2])

lemma Extends.liveStream (h : Extends e e') (hs : s < e.nstreams) (hl : e'.LiveStream s) :
    e.LiveStream s := by
  refine ⟨hs, ?_⟩
  by_contra hdead
  rw [Bool.not_eq_false] at hdead
  exact absurd ((h.stream s hs).2 hdead) (by simp [hl.2])

lemma Grows.extends (hg : Grows e e') : Extends e e' :=
  ⟨hg.nconns, hg.nstreams, hg.trace, fun c hc => ⟨(hg.conn c hc).1, (hg.conn c hc).2.1⟩, hg.stream⟩

lemma Move.extends (hm : Move env op e e') (h : Steady env e) : Extends e e' := by
  rcases hm.frame h with ha | ⟨hc, hs, hnc, hns, evs, ht, -⟩
  · exact (ha.grows h.toOwn).extends
  · refine ⟨hnc.ge, hns.ge, ht ▸ List.suffix_append _ _, fun c _ => ?_, fun s _ => ?_⟩
    · rw [hc]
      exact ⟨rfl, id⟩
    · rw [hs]
      exact ⟨rfl, id⟩

lemma Moves.extends (hm : Moves env op e e') (h : Steady env e) : Extends e e' :=
  hm.induct h (.refl e) fun _ _ hs hmv h1 => h1.trans (hmv.extends hs)

lemma Run.extends (h : Run env e e') (hr : Reachable env e) : Extends e e' :=
  h.induct hr (.refl e) fun _ _ _ hs hm h1 => h1.trans (hm.extends hs)

/-! ### Rules -/

/-- Every connection has the property, with its log. -/
def Engine.EachConn (P : ℕ → Conn → List Event → Prop) (e : Engine K) : Prop :=
  ∀ c < e.nconns, P c (e.conns c) (e.logOf (.conn c))

/-- Every stream has the property, with its log. -/
def Engine.EachStream (P : ℕ → Stream K → List Event → Prop) (e : Engine K) : Prop :=
  ∀ s < e.nstreams, P s (e.streams s) (e.logOf (.stream s))

/-- The handles a move creates. -/
lemma Act.nconns (ha : Act env op e e') (h : Own env e) : e'.nconns = e.nconns ∨
    ∃ t x, NewConn env op e t x ∧ e'.nconns = e.nconns + 1 ∧
      e'.conns e.nconns = { x with inEngineMap := true } ∧ e'.trace = e.trace := by
  cases ha with
  | connNew ht hid hcap hx => exact Or.inr ⟨_, _, hx, rfl, by simp [Engine.newConn], rfl⟩
  | connFinal hd hl => exact Or.inl (connCloseInternal_nconns h hd hl _).1
  | @connLast d t x evs st cs hd hl ht hx hst =>
      have hs := SameOwn.connLast env hl hx t st cs
      exact Or.inl (connCloseInternal_nconns (h.of_same hs) hd ((hs.liveConn d).mpr hl) _).1
  | _ => exact Or.inl rfl

lemma Move.nconns (hm : Move env op e e') (h : Steady env e) : e'.nconns = e.nconns ∨
    ∃ t x, NewConn env op e t x ∧ e'.nconns = e.nconns + 1 ∧
      e'.conns e.nconns = { x with inEngineMap := true } ∧ e'.trace = e.trace := by
  rcases hm.frame h with ha | ⟨-, -, hn, -⟩
  · exact ha.nconns h.toOwn
  · exact Or.inl hn

/-- **The rule for connections.** -/
lemma Move.eachConn {P : ℕ → Conn → List Event → Prop} (hm : Move env op e e')
    (h : Steady env e)
    (hnew : ∀ t x, NewConn env op e t x → P e.nconns { x with inEngineMap := true } [])
    (hview : ∀ c x evs, c < e.nconns → ConnView env op e c x evs →
      P c (e.conns c) (e.logOf (.conn c)) → P c x (evs ++ e.logOf (.conn c)))
    (hP : e.EachConn P) : e'.EachConn P := by
  intro c hc
  by_cases hlt : c < e.nconns
  · obtain ⟨evs, hv, hlog⟩ := hm.connViewed h hlt
    rw [hlog]
    exact hview c _ evs hlt hv (hP c hlt)
  · rcases hm.nconns h with hn | ⟨t, x, hx, hn, hx', ht⟩
    · omega
    · have hcn : c = e.nconns := by omega
      subst hcn
      have hlog : e'.logOf (.conn e.nconns) = [] := by
        rw [Engine.logOf, ht]
        exact h.logOf_unknown (o := .conn e.nconns) (lt_irrefl _)
      rw [hlog, hx']
      exact hnew t x hx

lemma Move.nstreams (hm : Move env op e e') (h : Steady env e) : e'.nstreams = e.nstreams ∨
    ∃ evs, StreamBorn env op e (e'.streams e.nstreams) evs ∧ e'.nstreams = e.nstreams + 1 ∧
      e'.trace = evs ++ e.trace := by
  rcases hm.frame h with ha | ⟨-, -, -, hn, -⟩
  · cases ha with
    | streamNew hl hs ht hcap hx hm =>
        refine Or.inr ⟨_, ?_, rfl, rfl⟩
        rw [newStream_streams_self]
        exact .live hl hs hx
    | streamFailed ht hc hx =>
        refine Or.inr ⟨_, ?_, rfl, rfl⟩
        simp only [Engine.deadStream, Function.update_self]
        exact .dead hc hx
    | connFinal hd hl => exact Or.inl (connCloseInternal_nconns h.toOwn hd hl _).2
    | @connLast d t x evs st cs hd hl ht hx hst =>
        have hs := SameOwn.connLast env hl hx t st cs
        exact Or.inl (connCloseInternal_nconns (h.toOwn.of_same hs) hd
          ((hs.liveConn d).mpr hl) _).2
    | _ => exact Or.inl rfl
  · exact Or.inl hn

/-- **The rule for streams.** -/
lemma Move.eachStream {P : ℕ → Stream K → List Event → Prop} (hm : Move env op e e')
    (h : Steady env e)
    (hnew : ∀ x evs, StreamBorn env op e x evs → P e.nstreams x evs)
    (hview : ∀ s x evs, s < e.nstreams → StreamView env op e s x evs →
      P s (e.streams s) (e.logOf (.stream s)) → P s x (evs ++ e.logOf (.stream s)))
    (hP : e.EachStream P) : e'.EachStream P := by
  intro s hs
  by_cases hlt : s < e.nstreams
  · obtain ⟨evs, hv, hlog⟩ := hm.streamViewed h hlt
    rw [hlog]
    exact hview s _ evs hlt hv (hP s hlt)
  · rcases hm.nstreams h with hn | ⟨evs, hx, hn, ht⟩
    · omega
    · have hsn : s = e.nstreams := by omega
      subst hsn
      have hlog : e'.logOf (.stream e.nstreams) = evs := by
        rw [logOf_append_self ht hx.subject,
          h.logOf_unknown (o := .stream e.nstreams) (lt_irrefl _), List.append_nil]
      rw [hlog]
      exact hnew _ evs hx

/-- **The rule for connections, over runs.** -/
lemma Midway.eachConn {P : ℕ → Conn → List Event → Prop} (h : Midway env e)
    (hnew : ∀ op (e : Engine K) t x, NewConn env op e t x →
      P e.nconns { x with inEngineMap := true } [])
    (hview : ∀ op (e : Engine K) c x evs, Steady env e → c < e.nconns →
      ConnView env op e c x evs → P c (e.conns c) (e.logOf (.conn c)) →
      P c x (evs ++ e.logOf (.conn c))) : e.EachConn P := by
  refine h.induct (P := Engine.EachConn P) ?_ fun op e e' hs hm hP =>
    hm.eachConn hs (hnew op e) (fun c x evs hc hv => hview op e c x evs hs hc hv) hP
  intro cc sc e hc
  obtain ⟨cc, sc, id, -, rfl⟩ := engineCreate_eq hc
  exact fun c hc => absurd hc (Nat.not_lt_zero c)

lemma Reachable.eachConn {P : ℕ → Conn → List Event → Prop} (h : Reachable env e)
    (hnew : ∀ op (e : Engine K) t x, NewConn env op e t x →
      P e.nconns { x with inEngineMap := true } [])
    (hview : ∀ op (e : Engine K) c x evs, Steady env e → c < e.nconns →
      ConnView env op e c x evs → P c (e.conns c) (e.logOf (.conn c)) →
      P c x (evs ++ e.logOf (.conn c))) : e.EachConn P :=
  h.midway.eachConn hnew hview

/-- **The rule for streams, over runs.** -/
lemma Midway.eachStream {P : ℕ → Stream K → List Event → Prop} (h : Midway env e)
    (hnew : ∀ op (e : Engine K) x evs, StreamBorn env op e x evs → P e.nstreams x evs)
    (hview : ∀ op (e : Engine K) s x evs, Steady env e → s < e.nstreams →
      StreamView env op e s x evs → P s (e.streams s) (e.logOf (.stream s)) →
      P s x (evs ++ e.logOf (.stream s))) : e.EachStream P := by
  refine h.induct (P := Engine.EachStream P) ?_ fun op e e' hs hm hP =>
    hm.eachStream hs (hnew op e) (fun s x evs hlt hv => hview op e s x evs hs hlt hv) hP
  intro cc sc e hc
  obtain ⟨cc, sc, id, -, rfl⟩ := engineCreate_eq hc
  exact fun s hs => absurd hs (Nat.not_lt_zero s)

lemma Reachable.eachStream {P : ℕ → Stream K → List Event → Prop} (h : Reachable env e)
    (hnew : ∀ op (e : Engine K) x evs, StreamBorn env op e x evs → P e.nstreams x evs)
    (hview : ∀ op (e : Engine K) s x evs, Steady env e → s < e.nstreams →
      StreamView env op e s x evs → P s (e.streams s) (e.logOf (.stream s)) →
      P s x (evs ++ e.logOf (.stream s))) : e.EachStream P :=
  h.midway.eachStream hnew hview

end KcpMux
