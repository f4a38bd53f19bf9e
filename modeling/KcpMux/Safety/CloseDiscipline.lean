import KcpMux.Lib.History
import KcpMux.Protocol.RoundTrip
import KcpMux.Safety.Termination

/-!
How a stream closes.

The log of a stream records every assignment to `close_phase`, every call of its KCP instance
and every datagram it sends.  `StreamAllowed` says what may be logged after which entries: the
phases move along `ClosePhase.Next`, payload and KCP input belong to the phases in which the
instance is driven, sends to the open stream, a `STREAM_CLOSE` ends all that, and nothing of it
follows the end of the stream (`Unended`).  `stream_close_discipline` is the result for all runs.
-/

namespace KcpMux

open History

variable {K : Type}

/-- The moves of `close_phase`. -/
def ClosePhase.Next : ClosePhase → ClosePhase → Prop
  | .none, .localDrain | .none, .waitAck | .none, .remoteDrain
  | .localDrain, .waitAck | .localDrain, .finalize | .waitAck, .finalize
  | .remoteDrain, .finalize => True
  | _, _ => False

/-- The phase that was assigned last. -/
def phaseOf : List Event → ClosePhase
  | [] => .none
  | .closePhase _ _ new :: _ => new
  | _ :: older => phaseOf older

/-- The reason a `STREAM_CLOSE` carries. -/
def Event.streamCloseReason : Event → Option UInt8
  | .write _ _ d _ =>
      if d.head? = some msgStreamClose then some (Buf.of d protoStreamHeaderLen) else none
  | _ => none

/-- The reasons of all `STREAM_CLOSE` datagrams sent, newest first. -/
def closeReasons (log : List Event) : List UInt8 := log.filterMap Event.streamCloseReason

/-- The entry hands data to the KCP instance. -/
def Event.sends : Event → Bool
  | .kcp _ (.send _ _) | .kcp _ (.sendv _ _ _ _) => true
  | _ => false

/-- The KCP instance has reported that nothing is unacknowledged, after the last send. -/
def Drained (s : ℕ) (log : List Event) : Prop :=
  ∃ newer older, log = newer ++ .kcp s (.waitsnd 0) :: older ∧ ∀ ev ∈ newer, ev.sends = false

/-- The phases in which the KCP instance is driven. -/
def ClosePhase.Drives (phase : ClosePhase) : Prop := phase = .none ∨ phase = .localDrain

/-- The stream is live and `OPEN` or in `LOCAL_DRAIN` after these entries. -/
def Driven (log : List Event) : Prop := Unended log ∧ (phaseOf log).Drives

/-- What may be logged for the stream `s` after the entries `older`. -/
def StreamAllowed (s : ℕ) (older : List Event) : Event → Prop
  | .closePhase _ old new => Unended older ∧ old = phaseOf older ∧ old.Next new
  | .write _ _ d _ =>
      (d.head? = some msgStreamPayload → Driven older ∧ closeReasons older = []) ∧
      (d.head? = some msgStreamClose → Unended older ∧
        (∀ reason ∈ closeReasons older, reason = Buf.of d protoStreamHeaderLen) ∧
        (Buf.of d protoStreamHeaderLen = closeReasonNormal → closeReasons older = [] →
          Drained s older))
  | .kcp _ (.input _ _) => Driven older
  | .kcp _ (.send _ _) | .kcp _ (.sendv _ _ _ _) => Unended older ∧ phaseOf older = .none
  | _ => True

/-- A stream and its log keep to the discipline. -/
structure StreamPath (s : ℕ) (x : Stream K) (log : List Event) : Prop where
  phase : x.closePhase = phaseOf log
  legal : Legal (StreamAllowed s) log

/-- `StreamPath` with what carries it through a run: a live stream has sent no `STREAM_CLOSE`
before `WAIT_ACK`, and there only ones with the reason it keeps. -/
structure StreamInv (s : ℕ) (x : Stream K) (log : List Event) : Prop extends
    StreamPath s x log where
  early : x.internalClosed = false → x.closePhase.Drives → closeReasons log = []
  drain : x.internalClosed = false → x.closePhase = .localDrain →
    x.closeReason = closeReasonNormal
  wait : x.internalClosed = false → x.closePhase = .waitAck →
    ∀ reason ∈ closeReasons log, reason = x.closeReason
  sent : x.internalClosed = false → x.closePhase = .waitAck →
    x.closeReason = closeReasonNormal → closeReasons log ≠ []

variable {env : Env K} {op : Call} {e e' : Engine K} {s t : ℕ} {x x' : Stream K}
  {log : List Event} {conn : Conn}

/-! ### Entries -/

/-- A change of fields the discipline does not read. -/
lemma StreamInv.congr (h : StreamInv s x log) (hp : x'.closePhase = x.closePhase)
    (hr : x'.closeReason = x.closeReason) (hc : x'.internalClosed = x.internalClosed) :
    StreamInv s x' log := by
  obtain ⟨⟨h1, h2⟩, h3, h4, h5, h6⟩ := h
  rw [← hp] at h1 h3 h4 h5 h6
  rw [← hr] at h4 h5 h6
  rw [← hc] at h3 h4 h5 h6
  exact ⟨⟨h1, h2⟩, h3, h4, h5, h6⟩

/-- An entry that is neither an assignment nor a `STREAM_CLOSE`. -/
lemma StreamInv.entry (h : StreamInv s x log) {ev : Event} (ha : StreamAllowed s log ev)
    (hp : phaseOf (ev :: log) = phaseOf log) (hr : ev.streamCloseReason = none) :
    StreamInv s x (ev :: log) := by
  have hc : closeReasons (ev :: log) = closeReasons log := by
    rw [closeReasons, List.filterMap_cons_none hr]
    rfl
  obtain ⟨⟨h1, h2⟩, h3, h4, h5, h6⟩ := h
  exact ⟨⟨h1.trans hp.symm, ha, h2⟩, by rwa [hc], h4, by rwa [hc], by rwa [hc]⟩

/-- The entry is of no interest here. -/
def Event.silent : Event → Bool
  | .closePhase _ _ _ | .write _ _ _ _ | .kcp _ (.input _ _) | .kcp _ (.send _ _)
  | .kcp _ (.sendv _ _ _ _) => false
  | _ => true

lemma StreamAllowed.of_silent {ev : Event} (hev : ev.silent = true) : StreamAllowed s log ev := by
  cases ev with
  | kcp q call => cases call <;> trivial
  | closePhase | write => cases hev
  | _ => trivial

lemma phaseOf_silent {ev : Event} (hev : ev.silent = true) : phaseOf (ev :: log) = phaseOf log := by
  cases ev <;> first | rfl | cases hev

lemma closeReason_silent {ev : Event} (hev : ev.silent = true) : ev.streamCloseReason = none := by
  cases ev <;> first | rfl | cases hev

lemma StreamInv.silent (h : StreamInv s x log) (evs : List Event)
    (hev : ∀ ev ∈ evs, ev.silent = true) : StreamInv s x (evs ++ log) := by
  induction evs with
  | nil => exact h
  | cons ev evs ih =>
      have h1 := ih fun ev' hm => hev ev' (List.mem_cons_of_mem _ hm)
      have hs := hev ev List.mem_cons_self
      exact h1.entry (.of_silent hs) (phaseOf_silent hs) (closeReason_silent hs)

lemma refreshEvents_silent (s : ℕ) (conn : Conn) (x : Stream K) (now r : ℤ) :
    ∀ ev ∈ refreshEvents s conn x now r, ev.silent = true := by
  intro ev hev
  rw [refreshEvents] at hev
  split_ifs at hev
  · rw [List.mem_singleton.mp hev]
    rfl
  · cases hev

/-- A `STREAM_CLOSE` carries its reason. -/
lemma streamCloseReason_write (s : ℕ) (conn : Conn) (x : Stream K) (reason : UInt8) (ok : Bool) :
    (streamCloseWrite s conn x msgStreamClose reason ok).streamCloseReason = some reason := by
  have hr : Buf.of (streamCloseMsg msgStreamClose conn x.streamId reason) protoStreamHeaderLen =
      reason := by
    cases (reads_streamCloseMsg conn x.streamId reason).1 with
    | streamClose _ _ _ hr => exact hr
  have hhead : (streamCloseMsg msgStreamClose conn x.streamId reason).head? =
      some msgStreamClose := rfl
  rw [streamCloseWrite, Event.streamCloseReason, if_pos hhead, hr]

/-! ### Steps -/

/-- A stream whose instance is driven has sent no `STREAM_CLOSE`. -/
lemma StreamInv.active (h : StreamInv s x log) (hl : x.internalClosed = false) (hu : Unended log)
    (hp : x.Phased) (ha : streamKcpActive x = true) : Driven log ∧ closeReasons log = [] := by
  have hd : x.closePhase.Drives := by
    rw [streamKcpActive] at ha
    rcases hp with ⟨-, hn⟩ | ⟨hs, hn⟩
    · exact Or.inl hn
    · simp only [hs] at ha
      exact Or.inr (by simpa using ha)
  exact ⟨⟨hu, h.phase ▸ hd⟩, h.early hl hd⟩

lemma StreamInv.opened (h : StreamInv s x log) (hp : x.Phased) (hs : x.state = .opened) :
    phaseOf log = .none := by
  rcases hp with ⟨-, hn⟩ | ⟨hc, -⟩
  · exact h.phase.symm.trans hn
  · exact absurd (hs.symm.trans hc) (by decide)

/-- A datagram that is neither payload nor `STREAM_CLOSE`. -/
lemma StreamInv.ackWrite (h : StreamInv s x log) (conn : Conn) (y : Stream K) (reason : UInt8)
    (ok : Bool) : StreamInv s x (streamCloseWrite s conn y msgStreamCloseAck reason ok :: log) := by
  have hhead : (streamCloseMsg msgStreamCloseAck conn y.streamId reason).head? =
      some msgStreamCloseAck := rfl
  refine h.entry ⟨fun hp => ?_, fun hp => ?_⟩ rfl ?_
  · exact absurd (hhead.symm.trans hp) (by decide)
  · exact absurd (hhead.symm.trans hp) (by decide)
  · rw [streamCloseWrite, Event.streamCloseReason, if_neg (by rw [hhead]; decide)]

/-- Payload of a stream whose instance is driven. -/
lemma StreamInv.payload (h : StreamInv s x log) (hl : x.internalClosed = false) (hu : Unended log)
    (hp : x.Phased) (ha : streamKcpActive x = true) (conn : Conn) (id : UInt32) (b : Bytes) (o : Owner)
    (addr : Addr) (ok : Bool) :
    StreamInv s x (.write o addr (streamHeader msgStreamPayload conn id ++ b) ok :: log) := by
  have hhead : (streamHeader msgStreamPayload conn id ++ b).head? = some msgStreamPayload := rfl
  refine h.entry ⟨fun _ => h.active hl hu hp ha, fun hc => ?_⟩ rfl ?_
  · exact absurd (hhead.symm.trans hc) (by decide)
  · rw [Event.streamCloseReason, if_neg (by rw [hhead]; decide)]

/-- A call of the KCP instance. -/
lemma StreamInv.call (h : StreamInv s x log) (hl : x.internalClosed = false) (hu : Unended log)
    (hp : x.Phased) {call : KcpCall} (ha : KcpAllowed op s conn x call) :
    StreamInv s x (.kcp s call :: log) := by
  have hallowed : StreamAllowed s log (.kcp s call) := by
    cases call with
    | send | sendv => exact ⟨hu, h.opened hp ha.1⟩
    | input => exact (h.active hl hu hp ha.1).1
    | _ => trivial
  refine h.entry hallowed rfl rfl

/-- A phase in which the stream says nothing more. -/
lemma StreamInv.leave (h : StreamInv s x log) (hu : Unended log) {new : ClosePhase}
    (hn : x.closePhase.Next new) (hnew : new = .remoteDrain ∨ new = .finalize) (hp : x'.closePhase = new) :
    StreamInv s x' (.closePhase s x.closePhase new :: log) := by
  refine ⟨⟨hp, ⟨hu, h.phase, hn⟩, h.legal⟩, ?_, ?_, ?_, ?_⟩ <;> intro _ hx <;> rw [hp] at hx <;>
    rcases hnew with rfl | rfl
  · rcases hx with hx | hx <;> cases hx
  · rcases hx with hx | hx <;> cases hx
  all_goals cases hx

/-- The log of `kcpmux_stream_close` and of a `STREAM_CLOSE` that is received. -/
lemma streamCloseEvents_eq (s : ℕ) (x : Stream K) (phase : ClosePhase) (refresh : List Event)
    (hr : ∀ ev ∈ refresh, ev.silent = true) :
    ∃ evs, streamCloseEvents s x phase refresh = evs ++ [.closePhase s x.closePhase phase] ∧
      ∀ ev ∈ evs, ev.silent = true := by
  refine ⟨_, rfl, fun ev hev => ?_⟩
  rcases List.mem_append.mp hev with hev | hev
  · split_ifs at hev
    · rw [List.mem_singleton.mp hev]
      rfl
    · cases hev
  · exact hr ev hev

lemma Flow.path {evs : List Event} (h : Flow env op t s conn x x' evs) (hi : StreamInv s x log) :
    StreamInv s x' (evs ++ log) := by
  have hev : ∀ ev ∈ evs, ev.silent = true := by
    intro ev hev
    cases h with
    | unblockWrite | unblockRead =>
        split_ifs at hev
        · rw [List.mem_singleton.mp hev]
          rfl
        · cases hev
    | _ => cases hev
  obtain ⟨_, _, _, _, _, rfl⟩ := h.record
  exact (hi.silent evs hev).congr rfl rfl rfl

/-- The start of a local drain. -/
lemma StreamInv.startDrain (h : StreamInv s x log) (hl : x.internalClosed = false)
    (hu : Unended log) (hn : x.closePhase = .none) (hp : x'.closePhase = .localDrain)
    (hr : x'.closeReason = closeReasonNormal) :
    StreamInv s x' (.closePhase s x.closePhase .localDrain :: log) := by
  refine ⟨⟨hp, ⟨hu, h.phase, by rw [hn]; trivial⟩, h.legal⟩, fun _ _ => h.early hl (Or.inl hn),
    fun _ _ => hr, ?_, ?_⟩ <;> intro _ hx <;> rw [hp] at hx <;> cases hx

/-- A refused stream starts to close. -/
lemma StreamInv.startReject (h : StreamInv s x log) (hl : x.internalClosed = false)
    (hu : Unended log) (hn : x.closePhase = .none) (hp : x'.closePhase = .waitAck)
    (hr : x'.closeReason = closeReasonRejected) :
    StreamInv s x' (.closePhase s x.closePhase .waitAck :: log) := by
  have hearly : closeReasons (.closePhase s x.closePhase .waitAck :: log) = [] :=
    h.early hl (Or.inl hn)
  refine ⟨⟨hp, ⟨hu, h.phase, by rw [hn]; trivial⟩, h.legal⟩, fun _ hx => ?_, fun _ hx => ?_,
    fun _ _ reason hm => ?_, fun _ _ hx => ?_⟩
  · rw [hp] at hx
    rcases hx with hx | hx <;> cases hx
  · rw [hp] at hx
    cases hx
  · rw [hearly] at hm
    cases hm
  · rw [hr] at hx
    exact absurd hx (by decide)

/-- A `STREAM_CLOSE` is legal with the reason of those before it, and with `NORMAL` after the
drain. -/
lemma StreamAllowed.closeWrite {reason : UInt8} (x : Stream K) (ok : Bool) (hu : Unended log)
    (hr : ∀ r ∈ closeReasons log, r = reason)
    (hd : reason = closeReasonNormal → closeReasons log = [] → Drained s log) :
    StreamAllowed s log (streamCloseWrite s conn x msgStreamClose reason ok) := by
  have hhead : (streamCloseMsg msgStreamClose conn x.streamId reason).head? =
      some msgStreamClose := rfl
  have hbyte := streamCloseReason_write s conn x reason ok
  rw [streamCloseWrite, Event.streamCloseReason, if_pos hhead] at hbyte
  refine ⟨fun hp => ?_, fun _ => ?_⟩
  · exact absurd (hhead.symm.trans hp) (by decide)
  · rw [Option.some.inj hbyte]
    exact ⟨hu, hr, hd⟩

lemma closeReasons_closeWrite (s : ℕ) (conn : Conn) (x : Stream K) (log : List Event)
    (reason : UInt8) (ok : Bool) :
    closeReasons (streamCloseWrite s conn x msgStreamClose reason ok :: log) =
      reason :: closeReasons log := by
  rw [closeReasons, List.filterMap_cons_some (streamCloseReason_write s conn x reason ok)]
  rfl

/-- **What happens to a live stream** keeps to the discipline. -/
lemma StreamTrans.path {evs : List Event} {mv : TimerMove} {p : PendMove}
    (h : StreamTrans env op e t s conn x x' evs mv p) (hi : StreamInv s x log)
    (hl : x.internalClosed = false) (hu : Unended log) (hp : x.Phased)
    (hlog : log = e.logOf (.stream s)) :
    StreamInv s x' (evs ++ log) := by
  cases h with
  | emit => exact hi.silent [_] fun ev hev => by rw [List.mem_singleton.mp hev]; rfl
  | @output k k' call out b ok hk h hm ha hc hb hlen =>
      have h1 := hi.payload hl hu hp ha conn x.streamId b (.stream s) conn.peerAddr ok
      split_ifs
      · exact h1.congr rfl rfl rfl
      · exact h1
  | call hk h ha => exact (hi.call hl hu hp ha).congr rfl rfl rfl
  | query hk h =>
      refine hi.silent [_] fun ev hev => ?_
      rw [List.mem_singleton.mp hev]
      cases h <;> rfl
  | flow h => exact h.path hi
  | clear => exact hi.congr rfl rfl rfl
  | bump => exact hi.congr rfl rfl rfl
  | fill => exact hi.congr rfl rfl rfl
  | finish => exact hi.congr rfl rfl rfl
  | wake => exact hi
  | poll => exact hi
  | refresh => exact hi.silent _ (refreshEvents_silent _ _ _ _ _)
  | config => exact (hi.silent _ (refreshEvents_silent _ _ _ _ _)).congr rfl rfl rfl
  | callbacks => exact hi.congr rfl rfl rfl
  | startClose hnow hnow' hs hop =>
      have hnone : x.closePhase = .none := hi.phase.trans (hi.opened hp hs)
      obtain ⟨evs, heq, hev⟩ := streamCloseEvents_eq s x .localDrain _
        (refreshEvents_silent s conn { x with closePhase := .localDrain, state := .closing } _ _)
      rw [heq, List.append_assoc]
      exact StreamInv.silent (hi.startDrain hl hu hnone rfl rfl) evs hev
  | @waitAck now ok old hnow hs hph hw =>
      have hd : x.closePhase.Drives := Or.inr hph
      have hearly := hi.early hl hd
      -- the report of the KCP instance is the newest entry
      have hdrained : Drained s (.closePhase s .localDrain .waitAck :: log) := by
        refine ⟨[.closePhase s .localDrain .waitAck],
          old.filter fun ev => ev.subject = some (.stream s), ?_, by simp [Event.sends]⟩
        rw [hlog, Engine.logOf, hw, List.filter_cons_of_pos (by simp [Event.subject])]
        rfl
      have hreasons := closeReasons_closeWrite s conn x
        (.closePhase s .localDrain .waitAck :: log) closeReasonNormal ok
      have hold : closeReasons (.closePhase s .localDrain .waitAck :: log) = [] := hearly
      rw [hold] at hreasons
      rw [List.cons_append, List.singleton_append]
      refine ⟨⟨rfl, ?_, ⟨hu, hph.symm.trans hi.phase, trivial⟩, hi.legal⟩, fun _ hx => ?_,
        fun _ hx => ?_, fun _ _ reason hm => ?_, fun _ _ _ => ?_⟩
      · have hu1 : Unended [.closePhase s .localDrain .waitAck] := by simp [Unended, Event.ends]
        refine StreamAllowed.closeWrite x ok (hu1.append hu) (fun r hr => ?_) fun _ _ => hdrained
        rw [hold] at hr
        cases hr
      · rcases hx with hx | hx <;> cases hx
      · cases hx
      · rw [show reason = closeReasonNormal by simpa [hreasons] using hm]
        exact (hi.drain hl hph).symm
      · simp [hreasons]
  | accept => exact hi.silent [_] (by simp [Event.silent])
  | @reject now now' r hnow hnow' hini hs hr =>
      have hnone : x.closePhase = .none := hi.phase.trans (hi.opened hp hs)
      have h1 : StreamInv s x (.streamCreateNotify s r :: log) :=
        hi.silent [_] (by simp [Event.silent])
      have hu1 : Unended [.streamCreateNotify s r] := by simp [Unended, Event.ends]
      exact h1.startReject hl (hu1.append hu) hnone rfl rfl
  | @resend now n ok hnow hs hph hn =>
      have hallowed : StreamAllowed s log (streamCloseWrite s conn x msgStreamClose x.closeReason ok) :=
        .closeWrite x ok hu (hi.wait hl hph) fun hr hnil => absurd hnil (hi.sent hl hph hr)
      have hreasons := closeReasons_closeWrite s conn x log x.closeReason ok
      refine ⟨⟨hi.phase, hallowed, hi.legal⟩, fun _ hx => ?_, fun _ hx => ?_,
        fun _ _ reason hm => ?_, fun _ _ _ => ?_⟩
      · rw [hph] at hx
        rcases hx with hx | hx <;> cases hx
      · exact absurd (hph.symm.trans hx) (by decide)
      · rw [List.singleton_append, hreasons] at hm
        rcases List.mem_cons.mp hm with rfl | hm
        · rfl
        · exact hi.wait hl hph reason hm
      · simp [hreasons]
  | closeAck => exact hi.ackWrite _ _ _ _
  | remoteClose hnow hnow' hs =>
      have hnone : x.closePhase = .none := hi.phase.trans (hi.opened hp hs)
      obtain ⟨evs, heq, hev⟩ := streamCloseEvents_eq s x .remoteDrain []
        (fun ev hev => by cases hev)
      rw [heq, List.append_assoc]
      refine StreamInv.silent (hi.leave hu ?_ (Or.inl rfl) rfl) evs hev
      rw [hnone]
      trivial
  | finalizeSoon hnow hs hph =>
      refine hi.leave hu ?_ (Or.inr rfl) rfl
      rcases hph with hph | hph | hph <;> rw [hph] <;> trivial

/-- Nothing is left to keep for a stream that is no longer live. -/
lemma StreamPath.dead (h : StreamPath s x log) (hc : x.internalClosed = true) :
    StreamInv s x log :=
  { h with
    early := fun hl => absurd (hc.symm.trans hl) (by decide)
    drain := fun hl => absurd (hc.symm.trans hl) (by decide)
    wait := fun hl => absurd (hc.symm.trans hl) (by decide)
    sent := fun hl => absurd (hc.symm.trans hl) (by decide) }

lemma finalStreamEvents_silent (s : ℕ) (x : Stream K) (reason : UInt8) :
    ∀ ev ∈ finalStreamEvents s x reason, ev.silent = true := by
  intro ev hev
  rw [finalStreamEvents] at hev
  rcases List.mem_append.mp hev with hev | hev
  · split_ifs at hev
    · rw [List.mem_singleton.mp hev]
      rfl
    · cases hev
  · rw [List.mem_singleton.mp hev]
    rfl

/-- The end of a stream. -/
lemma StreamPath.final (h : StreamPath s x log) (reason : UInt8) :
    StreamInv s x.final (finalStreamEvents s x reason ++ log) := by
  have h1 : StreamPath s x.final log := ⟨h.phase, h.legal⟩
  exact (h1.dead rfl).silent _ (finalStreamEvents_silent s x reason)

/-- A local drain that ran out of time ends with a `STREAM_CLOSE` of its own. -/
lemma StreamLast.path {evs : List Event} {mv : TimerMove} (h : StreamLast env t s conn x x' evs mv)
    (hi : StreamInv s x log) (hl : x.internalClosed = false) (hu : Unended log) :
    StreamPath s x' (evs ++ log) := by
  cases h with
  | @drainExpired now r ok hnow hs hph =>
      have hearly := hi.early hl (Or.inr hph)
      have hallowed : StreamAllowed s log
          (streamCloseWrite s conn x msgStreamClose closeReasonTimeout ok) := by
        refine .closeWrite x ok hu (fun r hr => ?_) fun hr => absurd hr (by decide)
        rw [hearly] at hr
        cases hr
      have h1 : StreamPath s ({ x with internalClosed := true } : Stream K)
          (streamCloseWrite s conn x msgStreamClose closeReasonTimeout ok :: log) :=
        ⟨hi.phase, hallowed, hi.legal⟩
      have h2 := (h1.dead rfl).silent _ (refreshEvents_silent s conn x now r)
      rw [List.append_assoc]
      exact ⟨h2.phase, h2.legal⟩
  | fail hs => exact ⟨hi.phase, hi.legal⟩

/-- A new stream. -/
lemma StreamBorn.path {evs : List Event} (h : StreamBorn env op e x evs) :
    StreamInv e.nstreams x evs := by
  have hev : ∀ ev ∈ evs, ev.silent = true := by
    cases h <;> simp [streamNewEvents, Event.silent]
  have h0 : StreamInv e.nstreams x [] := by
    have hnone : x.closePhase = .none := by
      cases h with
      | live hl hs hx => cases hx <;> rfl
      | dead hc hx => exact hx.2.2.2.2.1
    refine ⟨⟨hnone, trivial⟩, fun _ _ => rfl, fun _ hx => ?_, fun _ hx => ?_, fun _ hx => ?_⟩ <;>
      rw [hnone] at hx <;> cases hx
  simpa using h0.silent evs hev

/-- **What a move means for a stream** keeps to the discipline. -/
lemma StreamView.path {evs : List Event} (hv : StreamView env op e s x evs) (h : Steady env e)
    (hi : StreamInv s (e.streams s) (e.logOf (.stream s)))
    (he : StreamEnds s (e.streams s) (e.logOf (.stream s))) :
    StreamInv s x (evs ++ e.logOf (.stream s)) := by
  cases hv with
  | same => exact hi
  | trans hl ht hx => exact hx.path hi hl.2 (he.live hl.2) (h.phased s hl) rfl
  | last hl ht hx =>
      rw [List.append_assoc]
      exact (hx.path hi hl.2 (he.live hl.2)).final _
  | final hl => exact hi.toStreamPath.final _
  | release => exact hi.silent [_] (by simp [Event.silent])

/-- **How a stream closes.**  In every run the state of a live stream goes with its close phase,
the phases move along `ClosePhase.Next`, payload is sent and fed to the KCP instance only while
the stream is open or drains, sends happen only while it is open, the first `STREAM_CLOSE` with
the reason `NORMAL` goes out when the instance has nothing unacknowledged left after the last
send, no payload follows a `STREAM_CLOSE`, all of them carry one reason, and none of this happens
after the stream has been finalised. -/
theorem stream_close_discipline (h : Reachable env e) (s : ℕ) :
    (e.LiveStream s →
      ((e.streams s).state = .opened ↔ (e.streams s).closePhase = .none) ∧
      ((e.streams s).state = .closing ↔ (e.streams s).closePhase ≠ .none)) ∧
    (s < e.nstreams → StreamPath s (e.streams s) (e.logOf (.stream s)) ∧
      (Unended (e.logOf (.stream s)) ↔ (e.streams s).internalClosed = false)) := by
  refine ⟨fun hl => ?_, fun hs => ?_⟩
  · rcases h.boundary.phased s hl with ⟨h1, h2⟩ | ⟨h1, h2⟩ <;> simp [h1, h2]
  · have key : e.EachStream fun s x log => StreamInv s x log ∧ StreamEnds s x log :=
      h.eachStream (fun _ _ _ _ hb => ⟨hb.path, hb.ends⟩)
        fun _ _ _ _ _ hs hk hv hi => ⟨hv.path hs hi.1 hi.2, hv.ends hk hi.2⟩
    obtain ⟨hi, he⟩ := key s hs
    refine ⟨hi.toStreamPath, fun hu => ?_, he.live⟩
    by_contra hd
    obtain ⟨rel, reason, log0, -, -, hlog⟩ := he.dead (by simpa using hd)
    have hrel := hu (.kcp s .release) (by rw [hlog]; simp)
    exact absurd hrel (by simp [Event.ends])

/-- A stream is opened, sends and receives a byte, is closed, and the peer acknowledges that. -/
def streamLife : List Call :=
  [.input plainConnect [10], .streamCreate 0 none none, .streamSend 0 [5] true,
    .input (plainPayload 1 2 9) [10], .streamClose 0,
    .input [0x94, 0, 0, 0, 0, 0, 0, 0, 1, 0, 0, 0, 2, 0] [10]]

/-- The engine after the life of its stream. -/
def streamGone : Engine Unit := execAll relayHost streamLife idealEngine

lemma streamGone_reachable : Reachable relayHost streamGone :=
  Reachable.execAll (.create idealEngine_create_relay) (by decide +kernel)

/-- The whole life of a stream: payload in both directions, one `STREAM_CLOSE`, and the end. -/
theorem stream_close_discipline_closed :
    ((streamGone.logOf (.stream 0)).any fun ev => ev.sends) = true ∧
      .kcp 0 (.input [9] 0) ∈ streamGone.logOf (.stream 0) ∧
      closeReasons (streamGone.logOf (.stream 0)) = [closeReasonNormal] ∧
      (streamGone.streams 0).closePhase = .waitAck ∧
      StreamPath 0 (streamGone.streams 0) (streamGone.logOf (.stream 0)) ∧
      ¬ Unended (streamGone.logOf (.stream 0)) := by
  have h := (stream_close_discipline streamGone_reachable 0).2 (by decide +kernel)
  refine ⟨by decide +kernel, by decide +kernel, by decide +kernel, by decide +kernel, h.1, ?_⟩
  rw [h.2]
  decide +kernel

end KcpMux
