import KcpMux.Runs.Moves

/-!
The containers of an engine between two calls.

Every object is linked in up to five containers, each with its own membership flag, and the
tables ignore an insertion under a key they have.  `ExactContainers` is what the containers
and counters of an engine should say, and `ownership_containers_exact` shows it for every
reachable engine, with whatever hash function the host supplies: it puts together `Own`, the
release order `Queue` and the counters `Counted`.
-/

namespace KcpMux

variable {K : Type}

/-- A finalised object is nowhere any more: it is in no table, in no slot of the timer heap,
on no due list and in no batch, and it has been released. -/
structure Engine.Gone (e : Engine K) (o : Owner) : Prop where
  connMap : ∀ c i, o = .conn c → c ∉ e.connMap.hashtable i
  handshakeMap : ∀ c i, o = .conn c → c ∉ e.handshakeMap.hashtable i
  streamMap : ∀ s, o = .stream s → ∀ c < e.nconns, ∀ i, s ∉ (e.conns c).streamMap.hashtable i
  batch : ∀ s, o = .stream s → s ∉ e.pendingBatchStreams
  heap : ∀ i < e.timerManager.size, e.timerManager.heap i ≠ o
  due : o ∉ e.timerManager.due
  released : .release o ∈ e.trace

/-- The containers and the counters agree with the live objects. -/
structure ExactContainers (env : Env K) (e : Engine K) : Prop where
  connMap : e.connMap.Holds e.LiveConn (e.connHash env)
  connKeys : ∀ c d, e.LiveConn c → e.LiveConn d → (e.conns c).peerAddr = (e.conns d).peerAddr →
    (e.conns c).localConnectionId = (e.conns d).localConnectionId → c = d
  handshakeMap : e.handshakeMap.Holds e.LivePassive (e.handshakeHash env)
  handshakeKeys : ∀ c d, e.LivePassive c → e.LivePassive d →
    (e.conns c).peerAddr = (e.conns d).peerAddr →
    (e.conns c).peerConnectionId = (e.conns d).peerConnectionId → c = d
  streamMap : ∀ c < e.nconns, (e.conns c).streamMap.Holds (e.LiveIn c) (e.streamHash env)
  streamKeys : ∀ c s q, e.LiveIn c s → e.LiveIn c q →
    (e.streams s).streamId = (e.streams q).streamId → s = q
  streamIds : ∀ c s, e.LiveIn c s → (e.streams s).streamId ≠ 0 ∧
    (((e.streams s).streamId % 2 == 1) = (e.conns c).isInitiator ↔
      (e.streams s).isInitiator = true)
  connCount : e.connCount = e.liveConns.card ∧ e.stats.connCount = e.connCount ∧
    e.connMap.num = e.connCount ∧
    e.stats.connCreatedTotal = e.stats.connClosedTotal + e.connCount
  streamCount : ∑ c ∈ e.liveConns, (e.conns c).streamCount = e.liveStreams.card ∧
    e.stats.streamCount = e.liveStreams.card ∧
    e.stats.streamCreatedTotal = e.stats.streamClosedTotal + e.stats.streamCount
  timerNodeCount : e.timerNodeCount = e.liveConns.card + e.liveStreams.card
  finalised : ∀ o, e.Known o → ¬ e.Live o → e.Gone o
  released : e.pendingReleaseList = []

variable {env : Env K} {e : Engine K}

/-- The stream counts add up to the live streams. -/
lemma Counted.sum_streamCount (h : Counted e) (hs : Sound env e) :
    ∑ c ∈ e.liveConns, (e.conns c).streamCount = e.liveStreams.card := by
  have hmaps : ∀ s ∈ e.liveStreams, (e.streams s).conn ∈ e.liveConns := fun s hm =>
    (e.mem_liveConns _).mpr (hs.liveConn ((e.mem_liveStreams s).mp hm))
  rw [Finset.card_eq_sum_card_fiberwise hmaps]
  refine Finset.sum_congr rfl fun c hc => ?_
  exact h.streamCount c ((e.mem_liveConns c).mp hc).1

/-- Between two calls a finalised object is gone. -/
lemma Boundary.gone (h : Boundary env e) {o : Owner} (hk : e.Known o) (hl : ¬ e.Live o) :
    e.Gone o where
  connMap := by
    rintro c i rfl hm
    exact hl ((h.connTable.mem i c).mp hm).1
  handshakeMap := by
    rintro c i rfl hm
    exact hl ((h.handshakeTable.mem i c).mp hm).1.1
  streamMap := by
    rintro s rfl c hc i hm
    exact hl (((h.streamTable c hc).mem i s).mp hm).1.1
  batch := by
    rintro s rfl hm
    exact hl (h.batch.2 s hm).1
  heap := by
    rintro i hi rfl
    have hs : (e.timerManager.node (e.timerManager.heap i)).state = .heap :=
      (h.valid.indexed.slot i hi).2
    rw [h.idle _ hl] at hs
    cases hs
  due := by simp [h.due]
  released := by
    have hm := (h.queue.mem_iff o).mpr ⟨hk, hl⟩
    rw [Engine.releaseOrder, h.released, List.reverse_nil, List.nil_append,
      List.mem_filterMap] at hm
    obtain ⟨ev, hev, hr⟩ := hm
    cases ev <;> simp only [Event.released, Option.some.injEq, reduceCtorEq] at hr
    subst hr
    exact hev

/-- **Ownership containers are exact** in every reachable engine. -/
theorem ownership_containers_exact (h : Reachable env e) : ExactContainers env e := by
  have hb := h.boundary
  have hc := hb.counted
  exact
    { connMap := hb.connTable
      connKeys := fun c d hl hl' _ hid => hb.connIdInj c hl.1 d hl'.1 hid
      handshakeMap := hb.handshakeTable
      handshakeKeys := hb.handshakeKey
      streamMap := hb.streamTable
      streamKeys := fun c s q hs hq hid => hb.streamKey s q hs.1 hq.1 (hs.2.trans hq.2.symm) hid
      streamIds := by
        rintro c s ⟨hs, rfl⟩
        exact hb.streamId s hs
      connCount := ⟨hc.connCount, hc.statConns, hc.connMap, hc.connTotals⟩
      streamCount := ⟨hc.sum_streamCount hb.toSound, hc.statStreams, hc.streamTotals⟩
      timerNodeCount := hc.timerNodes
      finalised := fun _ hk hl => hb.gone hk hl
      released := hb.released }

/-- An engine with live and finalised connections and streams, on a host whose hash function is
constant. -/
theorem ownership_containers_exact_busy :
    busy.nconns = 3 ∧ busy.connCount = 2 ∧ busy.nstreams = 3 ∧ (busy.conns 2).streamCount = 2 ∧
      ExactContainers (idealHost 0 0) busy :=
  ⟨by decide +kernel, by decide +kernel, by decide +kernel, by decide +kernel,
    ownership_containers_exact busy_reachable⟩

end KcpMux
