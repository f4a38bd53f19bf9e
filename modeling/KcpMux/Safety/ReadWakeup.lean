import KcpMux.Runs.Views

/-!
No missed wakeup of a reader.

`stream_read_notify` is edge-triggered: the host is told once, and not again before it has
emptied the queue.  `read_blocked` is what the stream knows of that queue.  A call that has
nothing to do with a stream leaves both alone (`Moves.readKept`); what is left is
`kcpmux_stream_recv` and the payloads, taken function by function.  The flag stays right as
long as a KCP operation that fails does not move the queue between empty and not empty:
`kcpmux_stream_handle_payload` returns the error of the instance before it looks at the queue.
-/

namespace KcpMux

variable {K : Type}

/-- The instance has a complete message. -/
def Env.readable (env : Env K) (k : K) : Bool := decide (0 < env.kcp.peeksize 0 k)

/-- The instance of the stream has a complete message. -/
def Stream.readable (env : Env K) (x : Stream K) : Bool := x.kcp.any env.readable

/-- The queue of complete messages is empty at first, grows only through `input`, and shrinks
only through `recv`. -/
structure MessageQueue (env : Env K) : Prop where
  peeksize : ∀ t k, env.kcp.peeksize t k = env.kcp.peeksize 0 k
  create : ∀ t id k, env.kcp.create t id = some k → env.readable k = false
  setmss : ∀ t k n, env.readable (env.kcp.setmss t k n) = env.readable k
  send : ∀ t k b, env.readable (env.kcp.send t k b).kcp = env.readable k
  sendv : ∀ f, env.kcp.sendv = some f → ∀ t k iov off len,
    env.readable (f t k iov off len).kcp = env.readable k
  update : ∀ t k now, env.readable (env.kcp.update t k now).kcp = env.readable k
  currentUpdate : ∀ t k now, env.readable (env.kcp.currentUpdate t k now).kcp = env.readable k
  input : ∀ t k b, env.readable k = true → env.readable (env.kcp.input t k b).kcp = true
  recv : ∀ t k len, env.readable k = false → env.readable (env.kcp.recv t k len).kcp = false

/-- An `input` of `b` that fails leaves an empty queue empty. -/
def InputClean (env : Env K) (k : K) (b : Bytes) : Prop :=
  ∀ t, (env.kcp.input t k b).ret < 0 → env.readable k = false →
    env.readable (env.kcp.input t k b).kcp = false

/-- The call reads the stream `s` or brings a payload for it. -/
def ReadsStream (op : Call) (s : ℕ) (conn : Conn) (x : Stream K) : Prop :=
  (∃ n, op = .streamRecv s n) ∨
    ∃ d b, op = .input d conn.peerAddr ∧ PayloadDatagram d conn.localConnectionId x.streamId b

/-- The stream is open. -/
def Engine.OpenStream (e : Engine K) (s : ℕ) : Prop :=
  e.LiveStream s ∧ (e.streams s).state = .opened

/-- The flag of the stream; a stream that does not exist yet starts blocked. -/
def Engine.readBlocked (e : Engine K) (s : ℕ) : Bool :=
  if s < e.nstreams then (e.streams s).readBlocked else true

/-- The stream exists and is readable. -/
def Engine.readable (env : Env K) (e : Engine K) (s : ℕ) : Bool :=
  if s < e.nstreams then (e.streams s).readable env else false

/-- How often the reader of the stream has been told. -/
def Engine.readNotified (e : Engine K) (s : ℕ) : ℕ :=
  e.trace.count (.streamReadNotify s)

variable {env : Env K} {op : Call} {e e' e1 e2 : Engine K} {s : ℕ}

/-! ### Calls that do not read -/

lemma KcpStep.readable (hq : MessageQueue env) {k k' : K} {call : KcpCall} {out : List Bytes}
    (h : KcpStep env k call k' out) (hin : ∀ b r, call ≠ .input b r)
    (hrecv : ∀ n r, call ≠ .recv n r) : env.readable k' = env.readable k := by
  cases h with
  | send t b => exact hq.send t k b
  | sendv hf t iov off len => exact hq.sendv _ hf t k iov off len
  | input t b => exact absurd rfl (hin b _)
  | recv t len => exact absurd rfl (hrecv len _)
  | update t now => exact hq.update t k now
  | currentUpdate t now => exact hq.currentUpdate t k now

/-- The reader's side of a stream is as before, and the reader is told nothing. -/
structure ReadSame (env : Env K) (s : ℕ) (x x' : Stream K) (evs : List Event) : Prop where
  blocked : x'.readBlocked = x.readBlocked
  readable : x'.readable env = x.readable env
  quiet : .streamReadNotify s ∉ evs

lemma refreshEvents_quiet (s : ℕ) (conn : Conn) (x : Stream K) (now r : ℤ) :
    .streamReadNotify s ∉ refreshEvents s conn x now r := by
  rw [refreshEvents]
  split_ifs <;> simp

lemma streamCloseEvents_quiet (s : ℕ) (x : Stream K) (phase : ClosePhase) {refresh : List Event}
    (hr : .streamReadNotify s ∉ refresh) :
    .streamReadNotify s ∉ streamCloseEvents s x phase refresh := by
  rw [streamCloseEvents]
  split_ifs <;> simp [hr]

lemma Flow.readSame {t : ℕ} {conn : Conn} {x x' : Stream K} {evs : List Event}
    (h : Flow env op t s conn x x' evs) (hno : ¬ ReadsStream op s conn x) :
    ReadSame env s x x' evs := by
  cases h with
  | unblockWrite hnow hb hs =>
      refine ⟨?_, ?_, ?_⟩
      · rw [Stream.unblockWrite]
        split_ifs <;> rfl
      · rw [Stream.unblockWrite]
        split_ifs <;> rfl
      · split_ifs <;> simp
  | blockRead hnow hb hop => exact absurd (Or.inl hop) hno
  | unblockRead hnow hb hs hop => exact absurd (Or.inr hop) hno
  | blockWrite | sent | taken | received => exact ⟨rfl, rfl, by simp⟩

/-- **A step of a stream that the call does not read.** -/
lemma StreamTrans.readSame (hq : MessageQueue env) {t : ℕ} {conn : Conn} {x x' : Stream K}
    {evs : List Event} {mv : TimerMove} {p : PendMove}
    (h : StreamTrans env op e t s conn x x' evs mv p) (hno : ¬ ReadsStream op s conn x) :
    ReadSame env s x x' evs := by
  cases h with
  | output => split_ifs <;> exact ⟨rfl, rfl, by simp⟩
  | @call k k' call out hk h ha =>
      refine ⟨rfl, ?_, by simp⟩
      have hr : env.readable k' = env.readable k := by
        refine h.readable hq ?_ ?_
        · rintro b r rfl
          exact hno (Or.inr (ha.2.imp fun d hd => ⟨b, hd⟩))
        · rintro n r rfl
          exact hno (Or.inl ha.2)
      simp [Stream.readable, hk, hr]
  | flow h => exact h.readSame hno
  | refresh | config => exact ⟨rfl, rfl, refreshEvents_quiet _ _ _ _ _⟩
  | startClose =>
      exact ⟨rfl, rfl, streamCloseEvents_quiet _ _ _ (refreshEvents_quiet _ _ _ _ _)⟩
  | remoteClose => exact ⟨rfl, rfl, streamCloseEvents_quiet _ _ _ (by simp)⟩
  | waitAck | resend | closeAck => exact ⟨rfl, rfl, by simp [streamCloseWrite]⟩
  | _ => exact ⟨rfl, rfl, by simp⟩

lemma StreamView.readSame (hq : MessageQueue env) {x : Stream K} {evs : List Event}
    (hv : StreamView env op e s x evs)
    (hno : e.LiveStream s → ¬ ReadsStream op s (e.connOf s) (e.streams s))
    (hl : x.internalClosed = false) : ReadSame env s (e.streams s) x evs := by
  cases hv with
  | same => exact ⟨rfl, rfl, by simp⟩
  | trans hl ht h => exact h.readSame hq (hno hl)
  | last => cases hl
  | final => cases hl
  | release => exact ⟨rfl, rfl, by simp⟩

/-- A stream is created unreadable and blocked. -/
lemma StreamBorn.read (hq : MessageQueue env) {x : Stream K} {evs : List Event}
    (hb : StreamBorn env op e x evs) (hl : x.internalClosed = false) :
    x.readBlocked = true ∧ x.readable env = false ∧ .streamReadNotify e.nstreams ∉ evs := by
  have hnew : ∀ {id : UInt32} {config : StreamConfig} {k : K}, KcpNew env id config k →
      env.readable k = false := by
    rintro id config k ⟨t, k0, hk0, rfl⟩
    rw [hq.setmss]
    exact hq.create t id k0 hk0
  cases hb with
  | live hl' hs hx =>
      refine ⟨?_, ?_, by simp [streamNewEvents]⟩
      · cases hx <;> rfl
      · cases hx with
        | «local» hop hc hid hpar hfresh hnow hk => exact hnew hk
        | peer hop hd hc hid hpar hn hcb hfresh hnow hk => exact hnew hk
  | dead hc hx => exact absurd (hx.1.symm.trans hl) (by decide)

/-! ### The engine -/

/-- If the stream is live in `e1`, it was live in `e` or is new, and its reader's side is as
before. -/
def ReadKept (env : Env K) (s : ℕ) (e e1 : Engine K) : Prop :=
  e1.LiveStream s → (s < e.nstreams → e.LiveStream s) ∧ e1.readBlocked s = e.readBlocked s ∧
    e1.readable env s = e.readable env s ∧ e1.readNotified s = e.readNotified s

lemma readBlocked_of_lt (hk : s < e.nstreams) : e.readBlocked s = (e.streams s).readBlocked :=
  if_pos hk

lemma readable_of_lt (hk : s < e.nstreams) : e.readable env s = (e.streams s).readable env :=
  if_pos hk

lemma readNotified_eq (e : Engine K) (s : ℕ) :
    e.readNotified s = (e.logOf (.stream s)).count (.streamReadNotify s) := by
  rw [Engine.logOf, List.count_filter (by simp [Event.subject])]
  rfl

/-- A stream that does not exist yet. -/
lemma Own.read_new (h : Own env e) (hk : ¬ s < e.nstreams) :
    e.readBlocked s = true ∧ e.readable env s = false ∧ e.readNotified s = 0 := by
  refine ⟨if_neg hk, if_neg hk, ?_⟩
  rw [readNotified_eq, h.logOf_unknown (o := .stream s) hk]
  rfl

lemma ReadKept.trans (h : ReadKept env s e e1) (h' : ReadKept env s e1 e2) (ho : Own env e)
    (ho1 : Own env e1) (hn : e.nstreams ≤ e1.nstreams) : ReadKept env s e e2 := by
  intro hopen
  obtain ⟨hold, hb, hr, hc⟩ := h' hopen
  by_cases hk : s < e1.nstreams
  · obtain ⟨hold', hb', hr', hc'⟩ := h (hold hk)
    exact ⟨hold', hb.trans hb', hr.trans hr', hc.trans hc'⟩
  · have hk0 : ¬ s < e.nstreams := fun hlt => hk (hlt.trans_le hn)
    obtain ⟨hb0, hr0, hc0⟩ := ho.read_new (s := s) hk0
    obtain ⟨hb1, hr1, hc1⟩ := ho1.read_new (s := s) hk
    exact ⟨fun hlt => absurd hlt hk0, hb.trans (hb1.trans hb0.symm),
      hr.trans (hr1.trans hr0.symm), hc.trans (hc1.trans hc0.symm)⟩

/-- The entries of one step. -/
lemma readNotified_append {evs : List Event}
    (hlog : e'.logOf (.stream s) = evs ++ e.logOf (.stream s))
    (hq : .streamReadNotify s ∉ evs) : e'.readNotified s = e.readNotified s := by
  rw [readNotified_eq, readNotified_eq, hlog, List.count_append, List.count_eq_zero_of_not_mem hq,
    Nat.zero_add]

lemma StreamViewed.readKept (hq : MessageQueue env) (hv : StreamViewed env op e e' s)
    (hext : Extends e e') (hk : s < e.nstreams)
    (hno : e.LiveStream s → ¬ ReadsStream op s (e.connOf s) (e.streams s)) : ReadKept env s e e' := by
  intro hl
  obtain ⟨evs, hview, hlog⟩ := hv
  have h := hview.readSame hq hno hl.2
  refine ⟨fun _ => hext.liveStream hk hl, ?_, ?_, readNotified_append hlog h.quiet⟩
  · rw [readBlocked_of_lt hl.1, readBlocked_of_lt hk, h.blocked]
  · rw [readable_of_lt hl.1, readable_of_lt hk, h.readable]

/-- **A move of a call that does not read the stream.** -/
lemma Move.readKept (hq : MessageQueue env) (hm : Move env op e e') (h : Steady env e)
    (hno : e.LiveStream s → ¬ ReadsStream op s (e.connOf s) (e.streams s)) : ReadKept env s e e' := by
  by_cases hk : s < e.nstreams
  · exact (hm.streamViewed h hk).readKept hq (hm.extends h) hk hno
  intro hl
  rcases hm.nstreams h with hn | ⟨evs, hb, hn, ht⟩
  · exact absurd (hn ▸ hl.1) hk
  obtain rfl : s = e.nstreams := by
    have := hl.1
    omega
  obtain ⟨hblk, hread, hquiet⟩ := hb.read hq hl.2
  obtain ⟨hb0, hr0, hc0⟩ := h.toOwn.read_new (s := e.nstreams) hk
  refine ⟨fun hlt => absurd hlt hk, ?_, ?_, ?_⟩
  · rw [readBlocked_of_lt hl.1, hblk, hb0]
  · rw [readable_of_lt hl.1, hread, hr0]
  · exact readNotified_append (logOf_append_self ht hb.subject) hquiet

/-- The call does not read the stream, whatever point it has come to. -/
def Deaf (op : Call) (e : Engine K) (s : ℕ) : Prop :=
  ∀ e1, Extends e e1 → e1.LiveStream s → ¬ ReadsStream op s (e1.connOf s) (e1.streams s)

/-- **A call that does not read the stream.** -/
lemma Moves.readKept (hq : MessageQueue env) (hm : Moves env op e e') (h : Steady env e)
    (hno : Deaf op e s) : ReadKept env s e e' := by
  refine (hm.induct (P := fun e1 => Extends e e1 ∧ Own env e1 ∧ ReadKept env s e e1) h
    ⟨.refl e, h.toOwn, fun ho => ⟨fun _ => ho, rfl, rfl, rfl⟩⟩ ?_).2.2
  rintro e1 e2 hs hm ⟨hext, ho1, hkept⟩
  exact ⟨hext.trans (hm.extends hs), (hm.steady hs).toOwn,
    hkept.trans (hm.readKept hq hs (hno e1 hext)) h.toOwn ho1 hext.nstreams⟩

/-- No stream is opened again. -/
lemma StreamTrans.opened {t : ℕ} {conn : Conn} {x x' : Stream K} {evs : List Event}
    {mv : TimerMove} {p : PendMove} (h : StreamTrans env op e t s conn x x' evs mv p)
    (ho : x'.state = .opened) : x.state = .opened := by
  cases h with
  | output => split_ifs at ho <;> exact ho
  | flow h =>
      cases h with
      | unblockWrite hnow hb hs => exact hs
      | unblockRead hnow hb hs => exact hs
      | _ => exact ho
  | startClose | reject | remoteClose => cases ho
  | _ => exact ho

/-- What the call does for the stream is decided when it begins. -/
lemma Deaf.of_lt (h : Own env e) (hk : s < e.nstreams)
    (hno : e.LiveStream s → ¬ ReadsStream op s (e.connOf s) (e.streams s)) : Deaf op e s := by
  intro e1 hext hl
  obtain ⟨hid, -, hconn⟩ : (e1.streams s).streamId = (e.streams s).streamId ∧
      (e1.streams s).isInitiator = (e.streams s).isInitiator ∧
      (e1.streams s).conn = (e.streams s).conn := by
    simpa [Stream.ident] using (hext.stream s hk).1
  obtain ⟨-, hloc, haddr⟩ : (e1.connOf s).isInitiator = (e.connOf s).isInitiator ∧
      (e1.connOf s).localConnectionId = (e.connOf s).localConnectionId ∧
      (e1.connOf s).peerAddr = (e.connOf s).peerAddr := by
    rw [Engine.connOf, Engine.connOf, hconn]
    simpa [Conn.ident] using (hext.conn _ (h.connOf_lt s hk)).1
  rw [ReadsStream, hid, hloc, haddr]
  exact hno (hext.liveStream hk hl)

/-! ### Operations on the instance -/

/-- Steps that are made in any call, and so in one that reads nothing. -/
lemma Acts.readKept (hq : MessageQueue env) (ha : Acts env .update e e1) (h : Sound env e)
    (hk : s < e.nstreams) : ReadKept env s e e1 := by
  induction ha with
  | refl => exact fun ho => ⟨fun _ => ho, rfl, rfl, rfl⟩
  | @tail e1 e2 hpre hstep ih =>
      have hs1 : Sound env e1 := Acts.sound hpre h
      have hn : e.nstreams ≤ e1.nstreams := (Acts.grows hpre h.toOwn).nstreams
      have hno : e1.LiveStream s → ¬ ReadsStream .update s (e1.connOf s) (e1.streams s) := by
        rintro - (⟨n, hop⟩ | ⟨d, b, hop, -⟩) <;> cases hop
      exact ih.trans ((hstep.streamViewed hs1 (hk.trans_le hn)).readKept hq
        (hstep.grows hs1.toOwn).extends (hk.trans_le hn) hno) h.toOwn hs1.toOwn hn

/-- The stream stays open, with its flag, and the reader is told nothing. -/
structure ReadFrame (s : ℕ) (e e1 : Engine K) : Prop where
  opened : e1.OpenStream s
  callbacks : (e1.streams s).callbacks = (e.streams s).callbacks
  blocked : (e1.streams s).readBlocked = (e.streams s).readBlocked
  notified : e1.readNotified s = e.readNotified s

lemma ReadFrame.trans (h : ReadFrame s e e1) (h' : ReadFrame s e1 e2) : ReadFrame s e e2 :=
  ⟨h'.opened, h'.callbacks.trans h.callbacks, h'.blocked.trans h.blocked,
    h'.notified.trans h.notified⟩

lemma Still.readFrame (hq : MessageQueue env) (h : Still env .update e e1) (hs : Sound env e)
    (ho : e.OpenStream s) :
    ReadFrame s e e1 ∧ (e1.streams s).readable env = (e.streams s).readable env := by
  have hl1 := h.calm.liveStream ho.1
  have ho1 : e1.OpenStream s := ⟨hl1, (h.calm.state s).trans ho.2⟩
  obtain ⟨-, hb, hr, hn⟩ := Acts.readKept hq h.acts hs ho.1.1 hl1
  rw [readBlocked_of_lt hl1.1, readBlocked_of_lt ho.1.1] at hb
  rw [readable_of_lt hl1.1, readable_of_lt ho.1.1] at hr
  have hcb : (e1.streams s).core.callbacks = (e.streams s).core.callbacks := by
    rw [h.calm.core]
  exact ⟨⟨ho1, hcb, hb, hn⟩, hr⟩

lemma kcpOutputs_kcp (env : Env K) (s : ℕ) (l : List Bytes) (e : Engine K) :
    ((l.foldl (kcpEmit env s) e).streams s).kcp = (e.streams s).kcp := by
  obtain ⟨stats, h⟩ := kcpOutputs_stream env s l e
  rw [h]

/-- **An operation of the call on the instance.**  The datagrams it outputs do not matter to the
reader. -/
lemma kcpRun_read (op : Call) (hq : MessageQueue env) (hs : Sound env e) (ho : e.OpenStream s) {k : K}
    (hk : (e.streams s).kcp = some k) {f : ℕ → K → KcpOut K} {call : ℤ → KcpCall}
    (hstep : ∀ k, KcpStep env k (call (f e.tick k).ret) (f e.tick k).kcp (f e.tick k).output)
    (ha : ∀ r, KcpAllowed op s (e.connOf s) (e.streams s) (call r)) :
    ReadFrame s e (kcpRun env e s f call).2 ∧
      ((kcpRun env e s f call).2.streams s).kcp = some (f e.tick k).kcp ∧
      (kcpRun env e s f call).1.ret = (f e.tick k).ret := by
  rw [kcpRun, hk]
  set e1 := e.stepStream s { e.streams s with kcp := some (f e.tick k).kcp }
    [.kcp s (call (f e.tick k).ret)] e.timerManager (e.tick + 1) e.stats e.connStats .keep with he1
  have h1 : Still env op e e1 :=
    Still.stream ho.1 (Nat.le_succ _) (.call hk (hstep k) (ha _)) rfl rfl rfl
  have hx1 : e1.streams s = { e.streams s with kcp := some (f e.tick k).kcp } := by
    simp [he1, Engine.stepStream]
  have ho1 : e1.OpenStream s :=
    ⟨h1.calm.liveStream ho.1, by rw [hx1]; exact ho.2⟩
  have hf1 : ReadFrame s e e1 :=
    ⟨ho1, by rw [hx1], by rw [hx1], List.count_cons_of_ne (by simp)⟩
  have hout : Still env .update e1 ((f e.tick k).output.foldl (kcpEmit env s) e1) :=
    kcpOutputs_still (hstep k) _ ho1.1 (h1.calm.streamId s ▸ hs.ran s ho.1 k hk) (by rw [hx1])
      fun _ hb => hb
  have hkcp := kcpOutputs_kcp env s (f e.tick k).output e1
  rw [hx1] at hkcp
  exact ⟨hf1.trans (hout.readFrame hq (h1.sound hs) ho1).1, hkcp, rfl⟩

lemma kcpPeeksize_read (ho : e.OpenStream s) : ReadFrame s e (kcpPeeksize env e s).2 := by
  exact ⟨ho, rfl, rfl, List.count_cons_of_ne (by simp)⟩

/-- What `peeksize` says. -/
lemma kcpPeeksize_fst (hq : MessageQueue env) {k : K} (hk : (e.streams s).kcp = some k) :
    (kcpPeeksize env e s).1 = env.kcp.peeksize 0 k := by
  rw [kcpPeeksize, kcpAsk, hk]
  exact hq.peeksize e.tick k

lemma kcpPeeksize_pos (hq : MessageQueue env) {k : K} (hk : (e.streams s).kcp = some k) :
    0 < (kcpPeeksize env e s).1 ↔ (e.streams s).readable env = true := by
  rw [kcpPeeksize_fst hq hk, Stream.readable, hk]
  simp [Env.readable]

/-! ### Payload -/

/-- The flag of the open stream is right, and its reader has been told if it became readable
since `e`. -/
structure ReadStep (env : Env K) (s : ℕ) (e e' : Engine K) : Prop where
  flag : (e'.streams s).readBlocked = !(e'.streams s).readable env
  told : e'.readNotified s = e.readNotified s +
    if (e'.streams s).callbacks.streamReadNotify && !e.readable env s &&
      (e'.streams s).readable env then 1 else 0

/-- The stream has not become readable, and the reader has been told nothing. -/
lemma ReadStep.of_shrunk (hk : s < e.nstreams)
    (hflag : (e'.streams s).readBlocked = !(e'.streams s).readable env)
    (hr : (e.streams s).readable env = false → (e'.streams s).readable env = false)
    (hn : e'.readNotified s = e.readNotified s) : ReadStep env s e e' := by
  refine ⟨hflag, ?_⟩
  rw [hn, readable_of_lt hk]
  cases h : (e.streams s).readable env with
  | true => simp
  | false => simp [hr h]

/-- Neither the flag nor the queue has changed. -/
lemma ReadStep.of_same (hk : s < e.nstreams)
    (hflag : (e.streams s).readBlocked = !(e.streams s).readable env)
    (hb : (e'.streams s).readBlocked = (e.streams s).readBlocked)
    (hr : (e'.streams s).readable env = (e.streams s).readable env)
    (hn : e'.readNotified s = e.readNotified s) : ReadStep env s e e' :=
  .of_shrunk hk (by rw [hb, hr, hflag]) hr.trans hn

lemma Stream.unblockRead_read (x : Stream K) (now : ℤ) :
    (x.unblockRead now).readBlocked = false ∧ (x.unblockRead now).kcp = x.kcp ∧
      (x.unblockRead now).callbacks = x.callbacks ∧ (x.unblockRead now).state = x.state ∧
      (x.unblockRead now).internalClosed = x.internalClosed := by
  rw [Stream.unblockRead]
  dsimp only
  split_ifs <;> exact ⟨rfl, rfl, rfl, rfl, rfl⟩

/-- **The recovery** clears the flag of a readable stream and tells its reader. -/
lemma streamRecoverRead_read (hq : MessageQueue env) (ho : e.OpenStream s) {k : K}
    (hk : (e.streams s).kcp = some k) (now : ℤ) :
    (streamRecoverRead env e s now).OpenStream s ∧
      ((streamRecoverRead env e s now).streams s).callbacks = (e.streams s).callbacks ∧
      ((streamRecoverRead env e s now).streams s).readable env = (e.streams s).readable env ∧
      ((streamRecoverRead env e s now).streams s).readBlocked =
        ((e.streams s).readBlocked && !(e.streams s).readable env) ∧
      (streamRecoverRead env e s now).readNotified s = e.readNotified s +
        if (e.streams s).callbacks.streamReadNotify && (e.streams s).readBlocked &&
          (e.streams s).readable env then 1 else 0 := by
  obtain ⟨hub, huk, huc, hus, hui⟩ := (e.streams s).unblockRead_read now
  have hpeek : (kcpPeeksize env e s).2.readNotified s = e.readNotified s :=
    (kcpPeeksize_read ho).notified
  have hpos := kcpPeeksize_pos hq hk
  rw [streamRecoverRead]
  by_cases hb : (e.streams s).readBlocked = true
  · rw [if_pos ⟨ho.2, hb⟩]
    dsimp only
    by_cases hr : (e.streams s).readable env = true
    · rw [if_pos (hpos.mpr hr)]
      have hx : (kcpPeeksize env e s).2.streams s = e.streams s := rfl
      have hur : ((e.streams s).unblockRead now).readable env = true := by
        rw [Stream.readable, huk]
        exact hr
      have hlive : s < e.nstreams ∧ ((e.streams s).unblockRead now).internalClosed = false :=
        ⟨ho.1.1, hui.trans ho.1.2⟩
      have hopen : ((e.streams s).unblockRead now).state = .opened := hus.trans ho.2
      simp only [hx, Engine.setStream, Function.update_self, huc, hb, hr, Bool.and_true,
        Bool.not_true, Bool.and_false]
      by_cases hcb : (e.streams s).callbacks.streamReadNotify = true
      · rw [if_pos hcb, if_pos hcb]
        refine ⟨?_, ?_, ?_, ?_, ?_⟩
        · simpa [Engine.OpenStream, Engine.LiveStream, Engine.log] using ⟨hlive, hopen⟩
        · simpa [Engine.log] using huc
        · simpa [Engine.log] using hur
        · simpa [Engine.log] using hub
        · rw [← hpeek]
          simp [Engine.readNotified, Engine.log]
      · rw [if_neg hcb, if_neg hcb]
        refine ⟨?_, ?_, ?_, ?_, ?_⟩
        · simpa [Engine.OpenStream, Engine.LiveStream] using ⟨hlive, hopen⟩
        · simpa using huc
        · simpa using hur
        · simpa using hub
        · rw [Nat.add_zero, ← hpeek]
          rfl
    · rw [if_neg (mt hpos.mp hr)]
      rw [Bool.not_eq_true] at hr
      refine ⟨ho, rfl, rfl, ?_, ?_⟩
      · rw [hr, Bool.not_false, Bool.and_true]
        rfl
      · rw [hpeek, hr, Bool.and_false]
        rfl
  · rw [if_neg fun h => hb h.2]
    rw [Bool.not_eq_true] at hb
    exact ⟨ho, rfl, rfl, by rw [hb, Bool.false_and], by rw [hb]; simp⟩

/-- **A payload for an open stream.**  The flag is right afterwards, unless the instance took
part of the payload and returned an error. -/
lemma streamHandlePayload_read (hq : MessageQueue env) (hi : Inside env e) (ho : e.OpenStream s)
    {now : ℤ} (hnow : Read env e.tick now) {b : Bytes}
    (hd : ∃ d, op = .input d (e.connOf s).peerAddr ∧
      PayloadDatagram d (e.connOf s).localConnectionId (e.streams s).streamId b)
    (hflag : (e.streams s).readBlocked = !(e.streams s).readable env)
    (hclean : b ≠ [] → (streamHandlePayload env e s b now).1 ≠ 0 → ∀ k, (e.streams s).kcp = some k →
      ∀ t, InputClean env (env.kcp.currentUpdate t k now).kcp b) :
    (streamHandlePayload env e s b now).2.OpenStream s ∧
      ReadStep env s e (streamHandlePayload env e s b now).2 := by
  have hact : streamKcpActive (e.streams s) = true := streamKcpActive_of_opened ho.2
  rw [streamHandlePayload] at hclean ⊢
  dsimp only at hclean ⊢
  by_cases hb : b = []
  · rw [if_pos hb]
    exact ⟨ho, .of_same ho.1.1 hflag rfl rfl rfl⟩
  rw [if_neg hb, if_neg (by simp [ho.1.2]), if_neg (by simp [hact])] at hclean ⊢
  obtain ⟨k, hk⟩ := hi.kcp_some ho.1
  set e1 := e.setStream s { e.streams s with stats := { (e.streams s).stats with
    rxPackets := (e.streams s).stats.rxPackets + 1
    rxBytes := (e.streams s).stats.rxBytes + b.length } } with he1
  have h1 : ∀ op, Still env op e e1 := fun op => Still.silent ho.1 (.received b.length) rfl
  obtain ⟨hf1, -⟩ := (h1 .update).readFrame hq hi.toSound ho
  have hk1 : (e1.streams s).kcp = some k := by
    simpa [he1, Engine.setStream] using hk
  set k1 := (env.kcp.currentUpdate e1.tick k now).kcp with hk1'
  have h2 : Still env op e1 (kcpCurrentUpdate env e1 s now) :=
    kcpCurrentUpdate_still ((h1 op).sound hi.toSound) hf1.opened.1
      (((h1 op).calm.active s).trans hact) now
  obtain ⟨hf2, hk2, -⟩ : ReadFrame s e1 (kcpCurrentUpdate env e1 s now) ∧
      ((kcpCurrentUpdate env e1 s now).streams s).kcp = some k1 ∧ _ :=
    kcpRun_read op hq ((h1 op).sound hi.toSound) hf1.opened hk1
      (fun _ => .currentUpdate e1.tick now) fun _ => ((h1 op).calm.active s).trans hact
  have h12 := (h1 op).trans h2
  set e2 := kcpCurrentUpdate env e1 s now with he2
  set k2 := (env.kcp.input e2.tick k1 b) with hk2'
  have hallow : ∀ r, KcpAllowed op s (e2.connOf s) (e2.streams s) (.input b r) := by
    intro r
    refine ⟨(h12.calm.active s).trans hact, ?_⟩
    rw [h12.calm.connOf, h12.calm.streamId]
    exact hd
  have h3 : Still env op e2 (kcpInput env e2 s b).2 :=
    kcpInput_still (h12.sound hi.toSound) hf2.opened.1 b hallow
  obtain ⟨hf3, hk3, hret⟩ : ReadFrame s e2 (kcpInput env e2 s b).2 ∧
      ((kcpInput env e2 s b).2.streams s).kcp = some k2.kcp ∧ (kcpInput env e2 s b).1 = k2.ret :=
    kcpRun_read op hq (h12.sound hi.toSound) hf2.opened hk2 (fun _ => .input e2.tick b) hallow
  have h13 := h12.trans h3
  have h4 : Still env .update (kcpInput env e2 s b).2
      (streamAccumulateUpdate env (kcpInput env e2 s b).2 s now) :=
    streamAccumulateUpdate_still (h13.inside hi) hf3.opened.1 (hnow.mono (h13.tick hi.toSound))
      ((h13.calm.active s).trans hact)
  have hs4 := h4.sound (h13.sound hi.toSound)
  obtain ⟨hf4, hr4⟩ := h4.readFrame hq (h13.sound hi.toSound) hf3.opened
  have hf := ((hf1.trans hf2).trans hf3).trans hf4
  generalize streamAccumulateUpdate env (kcpInput env e2 s b).2 s now = e4 at hs4 hf4 hr4 hf hclean ⊢
  have hread : (e4.streams s).readable env = env.readable k2.kcp := by
    rw [hr4, Stream.readable, hk3]
    rfl
  have hread0 : (e.streams s).readable env = env.readable k1 := by
    rw [hk1', hq.currentUpdate, Stream.readable, hk]
    rfl
  have hgrow : (e.streams s).readable env = true → (e4.streams s).readable env = true := by
    rw [hread, hread0]
    exact hq.input e2.tick k1 b
  rw [hret] at hclean ⊢
  by_cases hneg : k2.ret < 0
  · rw [if_pos hneg] at hclean ⊢
    have hne : -errKcpRet k2.ret ≠ 0 := by
      rw [errKcpRet]
      omega
    refine ⟨hf.opened, .of_same ho.1.1 hflag hf.blocked ?_ hf.notified⟩
    cases hr : (e.streams s).readable env with
    | true => exact hgrow hr
    | false =>
        rw [hread]
        exact hclean hb hne k hk e1.tick e2.tick hneg (hread0.symm.trans hr)
  · rw [if_neg hneg]
    obtain ⟨k4, hk4⟩ := hs4.kcp_some hf.opened.1
    obtain ⟨ho5, hc5, hr5, hb5, hn5⟩ := streamRecoverRead_read hq hf.opened hk4 now
    refine ⟨ho5, ?_, ?_⟩
    · rw [hb5, hr5, hf.blocked, hflag]
      cases hr : (e.streams s).readable env with
      | true => simp [hgrow hr]
      | false => simp
    · rw [hn5, hf.notified, hc5, hr5, hf.blocked, hflag, readable_of_lt ho.1.1]

/-! ### `kcpmux_stream_recv` -/

section Input

variable {d : Bytes} {c : ℕ} {id : UInt32} {payload : Bytes} {recv : ℤ}

/-- What follows does not touch the streams. -/
lemma ReadStep.of_eq (h : ReadStep env s e e1) (hx : e2.streams s = e1.streams s)
    (hn : e2.readNotified s = e1.readNotified s) : ReadStep env s e e2 :=
  ⟨by rw [hx]; exact h.flag, by rw [hn, hx]; exact h.told⟩

lemma connNoteReceive_read (hi : Inside env e) (hl : e.LiveConn c) (recv : ℤ) (isPayload : Bool) :
    (connNoteReceive env e c recv isPayload).streams = e.streams ∧
      (connNoteReceive env e c recv isPayload).nstreams = e.nstreams ∧
      (connNoteReceive env e c recv isPayload).readNotified s = e.readNotified s := by
  obtain ⟨m, t, -, -, heq⟩ := connNoteReceive_did env hi.depth hl.2 (hi.conn_owner hl) recv isPayload
  rw [heq]
  exact ⟨rfl, rfl, rfl⟩

/-- Only the calls that open streams do so. -/
lemma Moves.liveStream_of_update (hm : Moves env .update e e') (h : Steady env e)
    (hl : e'.LiveStream s) : e.LiveStream s := by
  refine hm.induct (P := fun e1 => e1.LiveStream s → e.LiveStream s) h id ?_ hl
  intro e1 e2 hs hm ih hl2
  rcases hm.nstreams hs with hn | ⟨evs, hb, hn, -⟩
  · exact ih ((hm.extends hs).liveStream (hn ▸ hl2.1) hl2)
  · by_cases hk : s < e1.nstreams
    · exact ih ((hm.extends hs).liveStream hk hl2)
    obtain rfl : s = e1.nstreams := by
      have := hl2.1
      omega
    have hcl := hl2.2
    generalize e2.streams e1.nstreams = x at hb hcl
    cases hb with
    | live _ _ hx => cases hx with
      | «local» hop => cases hop
      | peer hop => cases hop
    | dead _ hx => exact absurd (hx.1.symm.trans hcl) (by decide)

/-- The new stream of a peer, when its acceptance callback has returned. -/
lemma PeerStream.read (hq : MessageQueue env) (h : PeerStream env op d c id e e1 e2)
    (hs : Steady env e) :
    e2.OpenStream e.nstreams ∧ (e2.streams e.nstreams).readBlocked = true ∧
      (e2.streams e.nstreams).readable env = false ∧ e2.readNotified e.nstreams = 0 := by
  have hnew : ReadKept env e.nstreams e e1 :=
    Move.readKept hq (.act h.new) hs fun hl => absurd hl.1 (lt_irrefl _)
  have hkept : ReadKept env e.nstreams e e1.tock := hnew
  have hs1 : Sound env e1.tock := h.entered.sound hs.toSound
  have hg1 := h.entered.grows hs.toOwn
  have hopen : e2.OpenStream e.nstreams := ⟨(h.tuned op).live, h.stream_tuned.2.2.2⟩
  have hall : ReadKept env e.nstreams e e2 :=
    hkept.trans (Acts.readKept hq (h.tuned .update).acts hs1 h.live.1) hs.toOwn hs1.toOwn hg1.nstreams
  obtain ⟨-, hb, hr, hn⟩ := hall hopen.1
  obtain ⟨hb0, hr0, hc0⟩ := hs.toOwn.read_new (s := e.nstreams) (lt_irrefl _)
  rw [readBlocked_of_lt hopen.1.1, hb0] at hb
  rw [readable_of_lt hopen.1.1, hr0] at hr
  exact ⟨hopen, hb, hr, hn.trans hc0⟩

/-- **The first payload of a stream** that was admitted in `e2`. -/
lemma protocolFirstPayload_read (hq : MessageQueue env) (hi : Inside env e)
    (ho : e.OpenStream s) (hb : (e.streams s).readBlocked = true)
    (hr : (e.streams s).readable env = false) (ha : Addressed op d e c)
    (hc : (e.streams s).conn = c)
    (hp : PayloadDatagram d (e.conns c).localConnectionId (e.streams s).streamId payload)
    (hrecv : Read env e.tick recv)
    (hopen : (protocolFirstPayload env e c s payload recv).2.OpenStream s) :
    ReadStep env s e (protocolFirstPayload env e c s payload recv).2 := by
  rw [protocolFirstPayload] at hopen ⊢
  dsimp only at hopen ⊢
  have h1 : Still env op e (streamHandlePayload env e s payload recv).2 :=
    payload_still hi ha ho.1 hc hp hrecv
  have hd : ∃ d, op = .input d (e.connOf s).peerAddr ∧
      PayloadDatagram d (e.connOf s).localConnectionId (e.streams s).streamId payload := by
    rw [Engine.connOf, hc]
    exact ⟨d, ha.op_eq, hp⟩
  have hread := streamHandlePayload_read hq hi ho hrecv hd (by rw [hb, hr]; rfl)
  by_cases hret : (streamHandlePayload env e s payload recv).1 ≠ 0
  · rw [if_pos hret] at hopen
    have hfail : Act env op _ _ ∧ _ := streamFail_act (h1.inside hi) (h1.calm.liveStream ho.1)
      ((h1.calm.state s).trans ho.2) closeReasonError
    exact absurd hopen.1 hfail.2
  · rw [if_neg hret]
    obtain ⟨-, hstep⟩ := hread fun _ h => absurd h hret
    obtain ⟨hx, -, hn⟩ := connNoteReceive_read (s := s) (h1.inside hi)
      (h1.calm.liveConn ha.live) recv true
    exact hstep.of_eq (congrFun hx s) hn

/-- The first payload creates nothing. -/
lemma protocolFirstPayload_liveStream {q : ℕ} (hs : Steady env e) (hi : Inside env e)
    (ha : Addressed op d e c) (hl : e.LiveStream s) (hc : (e.streams s).conn = c)
    (ho : (e.streams s).state = .opened)
    (hp : PayloadDatagram d (e.conns c).localConnectionId (e.streams s).streamId payload)
    (hrecv : Read env e.tick recv)
    (hlive : (protocolFirstPayload env e c s payload recv).2.LiveStream q) : e.LiveStream q := by
  have h1 : Still env op e _ := payload_still hi ha hl hc hp hrecv
  have hs1 := Moves.steady h1.acts.moves hs
  have hback : (streamHandlePayload env e s payload recv).2.LiveStream q → e.LiveStream q :=
    fun h => (h1.acts.grows hi.toOwn).extends.liveStream (h1.calm.nstreams ▸ h.1) h
  rw [protocolFirstPayload] at hlive
  dsimp only at hlive
  generalize streamHandlePayload env e s payload recv = r at h1 hs1 hback hlive
  split_ifs at hlive
  · have hfail : Act env .update r.2 _ ∧ _ := streamFail_act (h1.inside hi) (h1.calm.liveStream hl)
      ((h1.calm.state s).trans ho) closeReasonError
    exact hback (Moves.liveStream_of_update (.single (.act hfail.1)) hs1 hlive)
  · obtain ⟨hx, hn, -⟩ := connNoteReceive_read (s := s) (h1.inside hi)
      (h1.calm.liveConn ha.live) recv true
    exact hback ⟨hn ▸ hlive.1, hx ▸ hlive.2⟩

/-- **A payload is for one live stream**, the one the lookup finds. -/
lemma Addressed.found (ha : Addressed op d e c) (h : Own env e) (hl : e.LiveStream s)
    (hr : ReadsStream op s (e.connOf s) (e.streams s)) :
    connGetStreamById env e c (readU32 (Buf.of d) protoCommonLen) = some s := by
  rcases hr with ⟨n, hop⟩ | ⟨d', b, hop, hp⟩
  · exact absurd (ha.op_eq.symm.trans hop) (by simp)
  · obtain ⟨rfl, -⟩ := Call.input.inj (ha.op_eq.symm.trans hop)
    have hc : (e.streams s).conn = c :=
      h.connIdInj _ (h.connOf_lt s hl.1) c ha.live.1 (hp.dest_eq.symm.trans ha.dest)
    rw [hp.stream]
    exact (connGetStreamById_eq_some h ha.live.1).mpr ⟨⟨hl, hc⟩, rfl⟩

/-- The stream under the next handle is the only one that can be new. -/
lemma PeerStream.eq_new (h : PeerStream env op d c id e e1 e2) (hs : Steady env e)
    (hl : e2.LiveStream s) (hk : ¬ s < e.nstreams) : s = e.nstreams := by
  have hs1 : Steady env e1.tock := Moves.steady h.entered.moves hs
  have hl1 : e1.tock.LiveStream s :=
    Moves.liveStream_of_update (Acts.moves (h.tuned .update).acts) hs1 hl
  have hlt : s < e1.nstreams := hl1.1
  have hn := h.nstreams
  omega

/-- **A payload for a stream that is not known yet**: what it means for a new stream. -/
lemma PeerCreated.read (hq : MessageQueue env) {r : ℤ × Engine K}
    (h : PeerCreated env op d c id payload recv e r) (hs : Steady env e) (hi : Inside env e)
    (hp : PayloadDatagram d (e.conns c).localConnectionId id payload) (ha : Addressed op d e c)
    (hrecv : Read env e.tick recv) (hk : ¬ s < e.nstreams) (hopen : r.2.OpenStream s) :
    ReadStep env s e r.2 := by
  obtain ⟨-, hr0, hn0⟩ := hs.toOwn.read_new (s := s) hk
  cases h with
  | refused => exact absurd hopen.1.1 hk
  | failed _ _ hlive => exact absurd (hlive s hopen.1).1 hk
  | @rejected e1 e2 r _ h hr =>
      have hs2 : Steady env e2 := Moves.steady h.acts.moves hs
      obtain ⟨-, -, hini, hst⟩ := h.stream_tuned
      have hrej : Acts env .update e2 (protocolRejectStream env
          (e2.log (.streamCreateNotify e.nstreams r)) e.nstreams recv) :=
        (protocolRejectStream_acts (h.acts.inside hi) (h.tuned op).live hini hst hr
          h.unnotified_tuned (hrecv.mono (Acts.tick h.acts hi.toOwn))).1
      have hl2 : e2.LiveStream s := Moves.liveStream_of_update hrej.moves hs2 hopen.1
      obtain rfl := h.eq_new hs hl2 hk
      obtain ⟨ho2, hb2, hr2, hn2⟩ := h.read hq hs
      obtain ⟨-, hb, hr, hn⟩ := Acts.readKept hq hrej hs2.toSound hl2.1 hopen.1
      rw [readBlocked_of_lt hopen.1.1, readBlocked_of_lt hl2.1, hb2] at hb
      rw [readable_of_lt hopen.1.1, readable_of_lt hl2.1, hr2] at hr
      refine ⟨by rw [hb, hr]; rfl, ?_⟩
      rw [hn, hr, hn2, hn0]
      simp
  | @admitted e1 e2 _ h =>
      obtain ⟨h3, ha3, hl3, hconn, hst, hp3⟩ := h.admitted ha hp rfl
      obtain ⟨-, hb2, hr2, hn2⟩ := h.read hq hs
      have hs3 : Steady env (e2.log (.streamCreateNotify e.nstreams 0)) := Moves.steady h3.moves hs
      have hrecv3 := hrecv.mono (Acts.tick h3 hi.toOwn)
      have hl3' : (e2.log (.streamCreateNotify e.nstreams 0)).LiveStream s :=
        protocolFirstPayload_liveStream hs3 (h3.inside hi) ha3 hl3 hconn hst hp3 hrecv3 hopen.1
      have hl2 : e2.LiveStream s := hl3'
      obtain rfl := h.eq_new hs hl2 hk
      have hstep := protocolFirstPayload_read hq (h3.inside hi) ⟨hl3, hst⟩ hb2 hr2 ha3 hconn hp3
        hrecv3 hopen
      have hn3 : (e2.log (.streamCreateNotify e.nstreams 0)).readNotified e.nstreams =
          e2.readNotified e.nstreams :=
        List.count_cons_of_ne (by simp)
      have hr3 : (e2.log (.streamCreateNotify e.nstreams 0)).readable env e.nstreams = false :=
        (readable_of_lt hl3.1).trans hr2
      refine ⟨hstep.flag, ?_⟩
      rw [hstep.told, hn3, hn2, hn0, hr3, hr0]

end Input

/-! ### Runs -/

/-- Every payload is a message; one that ends in a zero is taken and reported as an error. -/
def countingKcp : KcpOps ℕ where
  create := fun _ _ => some 0
  setmss := fun _ k _ => k
  send := fun _ k _ => { ret := 0, kcp := k }
  input := fun _ k b => { ret := if b.getLast? = some 0 then -1 else 0, kcp := k + 1 }
  recv := fun _ k _ => { ret := 1, kcp := k - 1 }
  peeksize := fun _ k => k
  waitsnd := fun _ _ => 0
  update := fun _ k _ => { ret := 0, kcp := k }
  check := fun _ _ current => current + 10
  currentUpdate := fun _ k _ => { ret := 0, kcp := k }
  sendv := none

/-- A host on which every call succeeds. -/
def countingHost : Env ℕ where
  hash32 := fun _ => 0
  monotonicTimeMs := fun t => t
  randomU64 := fun _ => 1
  writeSocketv := fun _ => true
  alloc := fun _ => true
  connConnectNotify := some fun _ => { result := 0 }
  streamCreateNotify := fun _ => { result := 0 }
  kcp := countingKcp

/-- The engine it starts with. -/
def countingEngine : Engine ℕ :=
  { engineBlank connConfigInit streamConfigInit with nextConnectionId := 1, tick := 4 }

lemma countingEngine_create : engineCreate countingHost none none = some countingEngine := by
  have hid : (1 : UInt64) &&& ((0xffffffffffffffff : UInt64) >>> 1) = 1 := by decide
  simp [engineCreate, countingHost, countingEngine, hid]

end KcpMux
