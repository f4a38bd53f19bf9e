import KcpMux.Steps.Forms

/-!
Ownership: which objects are live, and where they are recorded.

`Own` is what the tables, the flags and the timer nodes say about the live objects at every
point of a run, also in the middle of an operation: the connection table holds exactly the
live connections, the handshake table the live passive ones, the stream table of every
connection exactly its live streams; keys are distinct; a timer node has an owner while its
object lives and is idle otherwise.  `SameOwn` is a step that leaves all of this alone, and
`Own.of_same` transports it.
-/

namespace KcpMux

open TimerNode

variable {K : Type}

namespace Engine

/-- The object is live. -/
def Live (e : Engine K) : Owner → Prop
  | .conn c => e.LiveConn c
  | .stream s => e.LiveStream s

@[simp] lemma live_conn (e : Engine K) (c : ℕ) : e.Live (.conn c) ↔ e.LiveConn c := Iff.rfl
@[simp] lemma live_stream (e : Engine K) (s : ℕ) : e.Live (.stream s) ↔ e.LiveStream s := Iff.rfl

/-- The handle is in use, or was. -/
def Known (e : Engine K) : Owner → Prop
  | .conn c => c < e.nconns
  | .stream s => s < e.nstreams

/-- The hash under which a connection is filed. -/
def connHash (env : Env K) (e : Engine K) (c : ℕ) : UInt32 :=
  connKeyHash env (e.conns c).peerAddr (e.conns c).localConnectionId

/-- The hash under which a passive connection is filed. -/
def handshakeHash (env : Env K) (e : Engine K) (c : ℕ) : UInt32 :=
  connKeyHash env (e.conns c).peerAddr (e.conns c).peerConnectionId

/-- The hash under which a stream is filed. -/
def streamHash (env : Env K) (e : Engine K) (s : ℕ) : UInt32 :=
  env.hash32 (u32Memory (e.streams s).streamId)

/-- The connection is live and passive. -/
def LivePassive (e : Engine K) (c : ℕ) : Prop := e.LiveConn c ∧ (e.conns c).isInitiator = false

/-- The streams with batched work are live, counted, and listed once. -/
def BatchOk (e : Engine K) : Prop :=
  e.pendingBatchStreams.Nodup ∧
    ∀ s ∈ e.pendingBatchStreams, e.LiveStream s ∧ (e.streams s).pendingCount ≠ 0

/-- The stream is live and belongs to `c`. -/
def LiveIn (e : Engine K) (c s : ℕ) : Prop := e.LiveStream s ∧ (e.streams s).conn = c

end Engine

/-- The object an entry of the log is about. -/
def Event.subject : Event → Option Owner
  | .update _ | .setTimer _ _ => none
  | .write o _ _ _ | .release o => some o
  | .connConnectNotify c _ | .connStateChanged c _ _ | .connCloseNotify c _
  | .connState c _ _ => some (.conn c)
  | .streamCreateNotify s _ | .streamStateChanged s _ _ | .streamReadNotify s
  | .streamWriteNotify s | .streamCloseNotify s _ | .kcp s _ | .kcpOutput s _
  | .closePhase s _ _ =>
      some (.stream s)

/-- The ids a connection hands out are odd for the initiator and even for the acceptor. -/
def ParityOk (x : Conn) (id : UInt32) : Prop := (id % 2 == 1) = x.isInitiator

/-- Ownership at any point of a run. -/
structure Own (env : Env K) (e : Engine K) : Prop where
  connTable : e.connMap.Holds e.LiveConn (e.connHash env)
  handshakeTable : e.handshakeMap.Holds e.LivePassive (e.handshakeHash env)
  streamTable : ∀ c < e.nconns, (e.conns c).streamMap.Holds (e.LiveIn c) (e.streamHash env)
  connId : ∀ c < e.nconns, (e.conns c).localConnectionId ≠ 0 ∧
    (e.nextConnectionId = 0 ∨ (e.conns c).localConnectionId < e.nextConnectionId)
  connIdInj : ∀ c < e.nconns, ∀ d < e.nconns,
    (e.conns c).localConnectionId = (e.conns d).localConnectionId → c = d
  handshakeKey : ∀ c d, e.LivePassive c → e.LivePassive d →
    (e.conns c).peerAddr = (e.conns d).peerAddr →
    (e.conns c).peerConnectionId = (e.conns d).peerConnectionId → c = d
  streamKey : ∀ s s', e.LiveStream s → e.LiveStream s' →
    (e.streams s).conn = (e.streams s').conn →
    (e.streams s).streamId = (e.streams s').streamId → s = s'
  streamId : ∀ s, e.LiveStream s → (e.streams s).streamId ≠ 0 ∧
    (ParityOk (e.connOf s) (e.streams s).streamId ↔ (e.streams s).isInitiator = true)
  nextId : ∀ c < e.nconns, ParityOk (e.conns c) (e.conns c).nextStreamId
  initiator : ∀ c < e.nconns, (e.conns c).state = .connecting → (e.conns c).isInitiator = true
  inEngineMap : ∀ c < e.nconns, (e.conns c).inEngineMap = !(e.conns c).internalClosed
  inStreamMap : ∀ s < e.nstreams, (e.streams s).inStreamMap = !(e.streams s).internalClosed
  connOf_lt : ∀ s < e.nstreams, (e.streams s).conn < e.nconns
  kcp : ∀ s < e.nstreams, (e.streams s).kcp.isSome = !(e.streams s).internalClosed
  owner : ∀ o, (e.timerManager.node o).owner = true ↔ e.Live o
  idle : ∀ o, ¬ e.Live o → (e.timerManager.node o).state = .idle
  valid : e.timerManager.Valid
  batch : e.BatchOk
  known : ∀ ev ∈ e.trace, ∀ o, ev.subject = some o → e.Known o

/-! ### Steps that change no ownership -/

/-- The fields of a connection that ownership reads. -/
structure ConnOwn where
  isInitiator : Bool
  internalClosed : Bool
  inEngineMap : Bool
  localConnectionId : UInt64
  peerAddr : Addr
  streamMap : Htb ℕ
  streamCount : ℕ

/-- The fields of a connection that ownership reads. -/
def Conn.own (x : Conn) : ConnOwn :=
  ⟨x.isInitiator, x.internalClosed, x.inEngineMap, x.localConnectionId, x.peerAddr,
    x.streamMap, x.streamCount⟩

/-- The fields of a stream that ownership reads. -/
structure StreamOwn where
  streamId : UInt32
  isInitiator : Bool
  internalClosed : Bool
  inStreamMap : Bool
  conn : ℕ
  kcp : Bool

/-- The fields of a stream that ownership reads. -/
def Stream.own (x : Stream K) : StreamOwn :=
  ⟨x.streamId, x.isInitiator, x.internalClosed, x.inStreamMap, x.conn, x.kcp.isSome⟩

/-- What a connection keeps in a step of its own. -/
structure ConnKept (x x' : Conn) : Prop where
  own : x'.own = x.own
  peer : x.state ≠ .connecting → x'.peerConnectionId = x.peerConnectionId
  nextId : ParityOk x x.nextStreamId → ParityOk x' x'.nextStreamId
  initiator : x'.state = .connecting → x.state = .connecting ∨ x.isInitiator = true

lemma ConnKept.refl (x : Conn) : ConnKept x x := ⟨rfl, fun _ => rfl, id, Or.inl⟩

/-- The step leaves ownership alone. -/
structure SameOwn (e e' : Engine K) : Prop where
  nconns : e'.nconns = e.nconns
  nstreams : e'.nstreams = e.nstreams
  connMap : e'.connMap = e.connMap
  handshakeMap : e'.handshakeMap = e.handshakeMap
  nextConnectionId : e'.nextConnectionId = e.nextConnectionId
  conn : ∀ c, ConnKept (e.conns c) (e'.conns c)
  stream : ∀ s, (e'.streams s).own = (e.streams s).own
  owner : ∀ o, (e'.timerManager.node o).owner = (e.timerManager.node o).owner
  idle : ∀ o, ¬ e.Live o → (e'.timerManager.node o).state = (e.timerManager.node o).state
  valid : e.timerManager.Valid → e'.timerManager.Valid
  batch : e.BatchOk → e'.BatchOk
  known : ∀ ev ∈ e'.trace, ev ∈ e.trace ∨ ∀ o, ev.subject = some o → e.Known o

namespace SameOwn

variable {e e' : Engine K}

lemma isInitiator (h : SameOwn e e') (c : ℕ) :
    (e'.conns c).isInitiator = (e.conns c).isInitiator :=
  congrArg ConnOwn.isInitiator (h.conn c).own

lemma localConnectionId (h : SameOwn e e') (c : ℕ) :
    (e'.conns c).localConnectionId = (e.conns c).localConnectionId :=
  congrArg ConnOwn.localConnectionId (h.conn c).own

lemma peerAddr (h : SameOwn e e') (c : ℕ) : (e'.conns c).peerAddr = (e.conns c).peerAddr :=
  congrArg ConnOwn.peerAddr (h.conn c).own

lemma streamIdEq (h : SameOwn e e') (s : ℕ) :
    (e'.streams s).streamId = (e.streams s).streamId :=
  congrArg StreamOwn.streamId (h.stream s)

lemma streamConn (h : SameOwn e e') (s : ℕ) : (e'.streams s).conn = (e.streams s).conn :=
  congrArg StreamOwn.conn (h.stream s)

lemma liveConn (h : SameOwn e e') (c : ℕ) : e'.LiveConn c ↔ e.LiveConn c := by
  rw [Engine.LiveConn, Engine.LiveConn, h.nconns]
  rw [show (e'.conns c).internalClosed = (e.conns c).internalClosed from
    congrArg ConnOwn.internalClosed (h.conn c).own]

lemma liveStream (h : SameOwn e e') (s : ℕ) : e'.LiveStream s ↔ e.LiveStream s := by
  rw [Engine.LiveStream, Engine.LiveStream, h.nstreams]
  rw [show (e'.streams s).internalClosed = (e.streams s).internalClosed from
    congrArg StreamOwn.internalClosed (h.stream s)]

lemma live (h : SameOwn e e') (o : Owner) : e'.Live o ↔ e.Live o := by
  cases o with
  | conn c => exact h.liveConn c
  | stream s => exact h.liveStream s

lemma livePassive (h : SameOwn e e') (c : ℕ) : e'.LivePassive c ↔ e.LivePassive c := by
  rw [Engine.LivePassive, Engine.LivePassive, h.liveConn, h.isInitiator]

lemma liveIn (h : SameOwn e e') (c s : ℕ) : e'.LiveIn c s ↔ e.LiveIn c s := by
  rw [Engine.LiveIn, Engine.LiveIn, h.liveStream, h.streamConn]

end SameOwn

/-- **Ownership survives** a step that leaves it alone. -/
lemma Own.of_same {env : Env K} {e e' : Engine K} (h : Own env e) (hs : SameOwn e e') :
    Own env e' := by
  -- a passive connection is never in `CONNECTING`, so its peer id stays
  have hpeer : ∀ c, e.LivePassive c →
      (e'.conns c).peerConnectionId = (e.conns c).peerConnectionId := by
    intro c hc
    refine (hs.conn c).peer fun hst => ?_
    have hi := hc.2
    rw [h.initiator c hc.1.1 hst] at hi
    cases hi
  refine
    { connTable := ?_, handshakeTable := ?_, streamTable := ?_, connId := ?_, connIdInj := ?_
      handshakeKey := ?_, streamKey := ?_, streamId := ?_, nextId := ?_, initiator := ?_
      inEngineMap := ?_, inStreamMap := ?_, connOf_lt := ?_, kcp := ?_, owner := ?_, idle := ?_
      valid := hs.valid h.valid, batch := hs.batch h.batch, known := ?_ }
  · rw [hs.connMap]
    refine h.connTable.congr (fun c => (hs.liveConn c).symm) fun c _ => ?_
    rw [Engine.connHash, Engine.connHash, hs.peerAddr, hs.localConnectionId]
  · rw [hs.handshakeMap]
    refine h.handshakeTable.congr (fun c => (hs.livePassive c).symm) fun c hc => ?_
    rw [Engine.handshakeHash, Engine.handshakeHash, hs.peerAddr, hpeer c hc]
  · intro c hc
    rw [hs.nconns] at hc
    rw [show (e'.conns c).streamMap = (e.conns c).streamMap from
      congrArg ConnOwn.streamMap (hs.conn c).own]
    refine (h.streamTable c hc).congr (fun s => (hs.liveIn c s).symm) fun s _ => ?_
    rw [Engine.streamHash, Engine.streamHash, hs.streamIdEq]
  · intro c hc
    rw [hs.localConnectionId, hs.nextConnectionId]
    exact h.connId c (hs.nconns ▸ hc)
  · intro c hc d hd hcd
    rw [hs.localConnectionId, hs.localConnectionId] at hcd
    exact h.connIdInj c (hs.nconns ▸ hc) d (hs.nconns ▸ hd) hcd
  · intro c d hc hd ha hp
    rw [hs.livePassive] at hc hd
    rw [hs.peerAddr, hs.peerAddr] at ha
    rw [hpeer c hc, hpeer d hd] at hp
    exact h.handshakeKey c d hc hd ha hp
  · intro s s' h1 h2 hc hi
    rw [hs.liveStream] at h1 h2
    rw [hs.streamConn, hs.streamConn] at hc
    rw [hs.streamIdEq, hs.streamIdEq] at hi
    exact h.streamKey s s' h1 h2 hc hi
  · intro s hl
    rw [hs.liveStream] at hl
    have hp := h.streamId s hl
    rw [Engine.connOf, ParityOk, hs.streamIdEq, hs.streamConn, hs.isInitiator]
    rw [show (e'.streams s).isInitiator = (e.streams s).isInitiator from
      congrArg StreamOwn.isInitiator (hs.stream s)]
    exact hp
  · intro c hc
    exact (hs.conn c).nextId (h.nextId c (hs.nconns ▸ hc))
  · intro c hc hst
    rw [hs.isInitiator]
    rcases (hs.conn c).initiator hst with hst | hi
    · exact h.initiator c (hs.nconns ▸ hc) hst
    · exact hi
  · intro c hc
    have := congrArg (fun o : ConnOwn => (o.inEngineMap, o.internalClosed)) (hs.conn c).own
    simp only [Conn.own, Prod.mk.injEq] at this
    rw [this.1, this.2]
    exact h.inEngineMap c (hs.nconns ▸ hc)
  · intro s hl
    have := congrArg (fun o : StreamOwn => (o.inStreamMap, o.internalClosed)) (hs.stream s)
    simp only [Stream.own, Prod.mk.injEq] at this
    rw [this.1, this.2]
    exact h.inStreamMap s (hs.nstreams ▸ hl)
  · intro s hl
    rw [hs.streamConn, hs.nconns]
    exact h.connOf_lt s (hs.nstreams ▸ hl)
  · intro s hl
    have := congrArg (fun o : StreamOwn => (o.kcp, o.internalClosed)) (hs.stream s)
    simp only [Stream.own, Prod.mk.injEq] at this
    rw [this.1, this.2]
    exact h.kcp s (hs.nstreams ▸ hl)
  · intro o
    rw [hs.owner, hs.live, h.owner]
  · intro o ho
    rw [hs.live] at ho
    rw [hs.idle o ho, h.idle o ho]
  · intro ev hev o ho
    have hk : e.Known o := by
      rcases hs.known ev hev with hev | hev
      · exact h.known ev hev o ho
      · exact hev o ho
    cases o with
    | conn c => rw [Engine.Known, hs.nconns]; exact hk
    | stream s => rw [Engine.Known, hs.nstreams]; exact hk

/-! ### Moves of timer nodes -/

namespace TimerMove.Did

variable {env : Env K} {m m' : TimerManager Owner} {o : Owner} {mv : TimerMove}

/-- A move leaves the other nodes alone. -/
lemma other (h : mv.Did env m o m') {q : Owner} (hq : q ≠ o) : SameBut (m.node q) (m'.node q) := by
  cases mv with
  | keep => cases h; exact SameBut.refl _
  | schedule d now =>
      obtain ⟨k, rfl⟩ := h
      exact timerSchedule_other m hq _ _
  | cancel => cases h; exact timerCancel_other m hq

lemma owner (h : mv.Did env m o m') (q : Owner) : (m'.node q).owner = (m.node q).owner := by
  cases mv with
  | keep => cases h; rfl
  | schedule d now =>
      obtain ⟨k, rfl⟩ := h
      exact timerSchedule_owner m o q _ _
  | cancel => cases h; exact timerCancel_owner m o q

lemma valid (h : mv.Did env m o m') (hv : m.Valid) : m'.Valid := by
  cases mv with
  | keep => cases h; exact hv
  | schedule d now =>
      obtain ⟨k, rfl⟩ := h
      exact schedule_valid hv o _ _
  | cancel => cases h; exact cancel_valid hv o

end TimerMove.Did

/-! ### Steps of one object -/

/-- The allocator keeps the parity. -/
lemma parityOk_next {x : Conn} (h : ParityOk x x.nextStreamId) {id : UInt32}
    (hid : id = if x.nextStreamId = 0 then (if x.isInitiator then 1 else 2) else x.nextStreamId) :
    ParityOk x id := by
  rw [hid, ParityOk]
  split_ifs with h0 hi
  · rw [hi]; decide
  · rw [Bool.not_eq_true] at hi
    rw [hi]; decide
  · exact h

lemma parityOk_add_two {x : Conn} {id : UInt32} (h : ParityOk x id) : ParityOk x (id + 2) := by
  rw [ParityOk] at *
  rw [← h]
  have : (id + 2) % 2 = id % 2 := by
    apply UInt32.toNat_inj.mp
    have := id.toNat_lt
    simp only [UInt32.toNat_mod, UInt32.toNat_add, UInt32.reduceToNat]
    omega
  rw [this]

/-- **A step of a connection** keeps what ownership reads. -/
lemma ConnTrans.kept {env : Env K} {op : Call} {t c : ℕ} {x x' : Conn} {evs : List Event}
    {now : Option ℤ} (h : ConnTrans env op t c x x' evs now) : ConnKept x x' := by
  cases h with
  | connecting hnow hi hs => exact ⟨rfl, fun _ => rfl, id, fun _ => Or.inr hi⟩
  | established hnow hs hop hd => exact ⟨rfl, fun hne => absurd hs hne, id, fun h => by cases h⟩
  | nextId hop hid =>
      refine ⟨rfl, fun _ => rfl, fun hp => ?_, Or.inl⟩
      exact parityOk_add_two (x := x) (parityOk_next hp hid)
  | accept hnow hi hs => exact ⟨rfl, fun _ => rfl, id, fun h => by cases h⟩
  | close hnow hnow' hs => exact ⟨rfl, fun _ => rfl, id, fun h => by cases h⟩
  | idle hnow hs => exact ⟨rfl, fun _ => rfl, id, fun h => by cases h⟩
  | fail hnow hs => exact ⟨rfl, fun _ => rfl, id, fun h => by cases h⟩
  | _ => exact ⟨rfl, fun _ => rfl, id, Or.inl⟩

/-- The log of a step of a connection is about it. -/
lemma ConnTrans.subject {env : Env K} {op : Call} {t c : ℕ} {x x' : Conn} {evs : List Event}
    {now : Option ℤ} (h : ConnTrans env op t c x x' evs now) :
    ∀ ev ∈ evs, ev.subject = some (.conn c) := by
  have hstate : ∀ y newState, ∀ ev ∈ connStateEvents c y newState,
      ev.subject = some (.conn c) := by
    intro y newState ev hev
    rw [connStateEvents] at hev
    split_ifs at hev <;> simp only [List.mem_cons, List.not_mem_nil, or_false] at hev
    · rcases hev with rfl | rfl <;> rfl
    · rw [hev]; rfl
  intro ev hev
  cases h with
  | established | close | idle => exact hstate _ _ ev hev
  | accept =>
      rcases List.mem_cons.mp hev with rfl | hev
      · rfl
      · rcases List.mem_append.mp hev with hev | hev
        · exact hstate _ _ ev hev
        · rw [List.mem_singleton.mp hev]
          rfl
  | sendClose hnow hs hn => split_ifs at hev <;> simp at hev; rw [hev]; rfl
  | _ => simp at hev <;> rw [hev] <;> rfl

lemma ConnLast.kept {c : ℕ} {x x' : Conn} {evs : List Event} (h : ConnLast c x x' evs) :
    ConnKept x x' := by
  cases h
  exact ⟨rfl, fun _ => rfl, id, Or.inl⟩

lemma ConnLast.subject {c : ℕ} {x x' : Conn} {evs : List Event} (h : ConnLast c x x' evs) :
    ∀ ev ∈ evs, ev.subject = some (.conn c) := by
  cases h with
  | reject hi hs hr hevs => rcases hevs with rfl | ⟨-, rfl | rfl⟩ <;> simp [Event.subject]

lemma refreshEvents_subject {s : ℕ} {conn : Conn} {x : Stream K} {now r : ℤ} :
    ∀ ev ∈ refreshEvents s conn x now r, ev.subject = some (.stream s) := by
  intro ev hev
  rw [refreshEvents] at hev
  split_ifs at hev <;> simp at hev
  rw [hev]
  rfl

lemma streamCloseEvents_subject {s : ℕ} {x : Stream K} {phase : ClosePhase} {l : List Event}
    (hl : ∀ ev ∈ l, ev.subject = some (.stream s)) :
    ∀ ev ∈ streamCloseEvents s x phase l, ev.subject = some (.stream s) := by
  intro ev hev
  rw [streamCloseEvents] at hev
  simp only [List.mem_append, List.mem_singleton] at hev
  rcases hev with (hev | hev) | rfl
  · split_ifs at hev <;> simp at hev
    rw [hev]
    rfl
  · exact hl ev hev
  · rfl

/-- Flow control marks the two directions and counts; it keeps the rest of the record. -/
lemma Flow.record {env : Env K} {op : Call} {t s : ℕ} {conn : Conn} {x x' : Stream K}
    {evs : List Event} (h : Flow env op t s conn x x' evs) :
    ∃ writeBlocked writeBlockStartTs readBlocked readBlockStartTs stats,
      x' = { x with writeBlocked, writeBlockStartTs, readBlocked, readBlockStartTs, stats } := by
  cases h with
  | unblockWrite =>
      rw [Stream.unblockWrite]
      split_ifs <;> exact ⟨_, _, _, _, _, rfl⟩
  | unblockRead =>
      simp only [Stream.unblockRead]
      split_ifs <;> exact ⟨_, _, _, _, _, rfl⟩
  | _ => exact ⟨_, _, _, _, _, rfl⟩

lemma Flow.subject {env : Env K} {op : Call} {t s : ℕ} {conn : Conn} {x x' : Stream K}
    {evs : List Event} (h : Flow env op t s conn x x' evs) :
    ∀ ev ∈ evs, ev.subject = some (.stream s) := by
  intro ev hev
  cases h with
  | unblockWrite => split_ifs at hev <;> simp at hev; rw [hev]; rfl
  | unblockRead => split_ifs at hev <;> simp at hev; rw [hev]; rfl
  | _ => cases hev

/-- **A step of a stream** keeps what ownership reads. -/
lemma StreamTrans.own {env : Env K} {op : Call} {e : Engine K} {t s : ℕ} {conn : Conn}
    {x x' : Stream K} {evs : List Event} {mv : TimerMove} {p : PendMove}
    (h : StreamTrans env op e t s conn x x' evs mv p) : x'.own = x.own := by
  cases h with
  | output => split_ifs <;> rfl
  | call hk => simp [Stream.own, hk]
  | flow h =>
      obtain ⟨_, _, _, _, _, rfl⟩ := h.record
      rfl
  | _ => rfl

/-- The log of a step of a stream is about it. -/
lemma StreamTrans.subject {env : Env K} {op : Call} {e : Engine K} {t s : ℕ} {conn : Conn}
    {x x' : Stream K} {evs : List Event} {mv : TimerMove} {p : PendMove}
    (h : StreamTrans env op e t s conn x x' evs mv p) :
    ∀ ev ∈ evs, ev.subject = some (.stream s) := by
  cases h with
  | flow h => exact h.subject
  | refresh => exact refreshEvents_subject
  | config => exact refreshEvents_subject
  | startClose => exact streamCloseEvents_subject refreshEvents_subject
  | remoteClose => exact streamCloseEvents_subject (fun ev hev => by cases hev)
  | _ => simp [streamCloseWrite, Event.subject]

/-- State and close phase of a live stream agree. -/
def Stream.Phased (x : Stream K) : Prop :=
  (x.state = .opened ∧ x.closePhase = .none) ∨ (x.state = .closing ∧ x.closePhase ≠ .none)

/-- A step of a stream keeps state and phase in agreement. -/
lemma StreamTrans.phased {env : Env K} {op : Call} {e : Engine K} {t s : ℕ} {conn : Conn}
    {x x' : Stream K} {evs : List Event} {mv : TimerMove} {p : PendMove}
    (h : StreamTrans env op e t s conn x x' evs mv p) (hx : x.Phased) : x'.Phased := by
  cases h with
  | output => split_ifs <;> exact hx
  | flow h =>
      obtain ⟨_, _, _, _, _, rfl⟩ := h.record
      exact hx
  | startClose | reject | remoteClose => exact Or.inr ⟨rfl, by simp⟩
  | waitAck hnow hs | finalizeSoon hnow hs => exact Or.inr ⟨hs, by simp⟩
  | _ => exact hx

/-- A step of a stream runs its instance by the operations of KCP only. -/
lemma StreamTrans.ran {env : Env K} {op : Call} {e : Engine K} {t s : ℕ} {conn : Conn}
    {x x' : Stream K} {evs : List Event} {mv : TimerMove} {p : PendMove}
    (h : StreamTrans env op e t s conn x x' evs mv p) (hx : x.Ran env) : x'.Ran env := by
  cases h with
  | output => split_ifs <;> exact hx
  | flow h =>
      obtain ⟨_, _, _, _, _, rfl⟩ := h.record
      exact hx
  | call hk hs =>
      rintro k ⟨⟩
      exact (hx _ hk).step hs
  | _ => exact hx

/-- The batching count goes with the list: a stream is appended when its count leaves zero,
and stays on the list while its count is nonzero. -/
def PendMove.Ok (x x' : Stream K) : PendMove → Prop
  | .keep => x.pendingCount ≠ 0 → x'.pendingCount ≠ 0
  | .append => x.pendingCount = 0 ∧ x'.pendingCount ≠ 0
  | .erase => True

/-- A count below another one does not wrap. -/
lemma add_one_ne_zero_of_lt {n limit : UInt32} (h : n < limit) : n + 1 ≠ 0 := by
  intro h0
  have hn : n.toNat < limit.toNat := UInt32.lt_iff_toNat_lt.mp h
  have hlt := limit.toNat_lt
  have := congrArg UInt32.toNat h0
  simp only [UInt32.toNat_add, UInt32.reduceToNat] at this
  omega

lemma StreamTrans.pend {env : Env K} {op : Call} {e : Engine K} {t s : ℕ} {conn : Conn}
    {x x' : Stream K} {evs : List Event} {mv : TimerMove} {p : PendMove}
    (h : StreamTrans env op e t s conn x x' evs mv p) : p.Ok x x' := by
  cases h with
  | output => split_ifs <;> exact id
  | flow h =>
      obtain ⟨_, _, _, _, _, rfl⟩ := h.record
      exact id
  | bump ha h1 h2 h3 =>
      have hne := add_one_ne_zero_of_lt h2
      split_ifs with h0
      · exact ⟨h0, hne⟩
      · exact fun _ => hne
  | clear | fill | finish | config | finalizeSoon => trivial
  | _ => exact id

lemma StreamLast.own {env : Env K} {t s : ℕ} {conn : Conn} {x x' : Stream K} {evs : List Event}
    {mv : TimerMove} (h : StreamLast env t s conn x x' evs mv) : x'.own = x.own := by
  cases h <;> rfl

lemma StreamLast.pend {env : Env K} {t s : ℕ} {conn : Conn} {x x' : Stream K}
    {evs : List Event} {mv : TimerMove} (h : StreamLast env t s conn x x' evs mv) :
    PendMove.keep.Ok x x' := by
  cases h <;> exact id

lemma StreamLast.subject {env : Env K} {t s : ℕ} {conn : Conn} {x x' : Stream K}
    {evs : List Event} {mv : TimerMove} (h : StreamLast env t s conn x x' evs mv) :
    ∀ ev ∈ evs, ev.subject = some (.stream s) := by
  intro ev hev
  cases h with
  | drainExpired =>
      rcases List.mem_append.mp hev with hev | hev
      · exact refreshEvents_subject ev hev
      · rw [List.mem_singleton.mp hev]; rfl
  | fail => cases hev

end KcpMux
