import KcpMux.Ikcp.Ops
import KcpMux.Net.Provenance

/-!
Engines with the default KCP.

The instance of a stream has come about by operations (`Sound.ran`), and with the default KCP these
are calls of one instance of `Ikcp/Runs.lean`, whose conversation is the id of the stream
(`KcpRan.hosted`).  So what every run of an instance keeps, every engine keeps for its streams:

* `default_kcp_streams`: the data of a stream fits into a message, and the windows bound what the
  stream keeps;
* `default_kcp_payloads`: between two engines, no payload is refused by the instance it is fed to.
-/

namespace KcpMux

variable {env : Env Ikcpcb} {mem ok : ℕ → ℕ → Bool} {e : Engine Ikcpcb} {s : ℕ} {id : UInt32}

/-! ### Instances and their histories -/

/-- A history of the instance of a stream with the id `id`. -/
structure IkcpEnd.Hosted (a : IkcpEnd) (id : UInt32) : Prop where
  reach : IkcpReach a
  conv : a.kcp.conv = id
  fits : protoStreamHeaderLen + a.kcp.mtu.toNat ≤ protoMsgMaxLen

lemma Ikcpcb.Opens.hosted {kcp : Ikcpcb} (h : kcp.Opens id) : IkcpEnd.Hosted { kcp := kcp } id :=
  ⟨.fresh h.fresh, h.conv, h.fits⟩

namespace IkcpEnd.Hosted

variable {a a' : IkcpEnd}

lemma of_settings (h : a.Hosted id) (hr : IkcpReach a') (hset : a'.kcp.settings = a.kcp.settings) :
    a'.Hosted id := by
  have hconv : a'.kcp.conv = a.kcp.conv := congrArg IkcpSettings.conv hset
  have hmtu : a'.kcp.mtu = a.kcp.mtu := congrArg IkcpSettings.mtu hset
  exact ⟨hr, hconv.trans h.conv, hmtu ▸ h.fits⟩

lemma call (h : a.Hosted id) (hc : IkcpCall (fun _ _ _ => True) a a') : a'.Hosted id :=
  h.of_settings (h.reach.call hc) (hc.settings h.reach.steady.stream)

lemma input (h : a.Hosted id) (data : Bytes) : (a.input data).2.Hosted id :=
  h.of_settings (h.reach.input data)
    (IkcpEnd.input_moves (H := fun _ _ => True) fun _ _ => trivial).settings

end IkcpEnd.Hosted

lemma IkcpEnd.record_kcp (a : IkcpEnd) (buf : Bytes) (r : ℤ × Ikcpcb) :
    (a.record buf r).2.kcp = r.2 := by
  rw [IkcpEnd.record]
  dsimp only
  split_ifs <;> rfl

lemma IkcpEnd.recv_kcp (a : IkcpEnd) (len : ℤ) :
    (a.recv len).2.2.kcp = (ikcpRecv a.kcp len).2.2 := by
  rw [IkcpEnd.recv]
  dsimp only
  split_ifs <;> rfl

/-- **One operation** continues the history, and what it outputs has been put out. -/
lemma KcpStep.hosted (henv : env.kcp = kcpmuxDefaultKcpOps mem ok) {k k' : Ikcpcb} {call : KcpCall}
    {out : List Bytes} (hs : KcpStep env k call k' out) {a : IkcpEnd} (h : a.Hosted id)
    (hk : a.kcp = k) : ∃ a' : IkcpEnd, a'.Hosted id ∧ a'.kcp = k' ∧ ∀ b ∈ out, b ∈ a'.put := by
  have silent : ∀ {l : List Bytes}, ∀ b ∈ ([] : List Bytes), b ∈ l := fun _ hb => by cases hb
  subst hk
  cases hs with
  | send t b =>
      rw [henv]
      exact ⟨(a.send (mem t) b).2, h.call (.send trivial), a.record_kcp _ _, silent⟩
  | sendv hf t iov off len =>
      rw [henv] at hf
      obtain rfl := Option.some.inj hf
      exact ⟨(a.sendv (mem t) iov off len).2, h.call (.sendv trivial), a.record_kcp _ _, silent⟩
  | input t b =>
      rw [henv]
      exact ⟨(a.input b).2, h.input b, rfl, silent⟩
  | recv t len =>
      rw [henv]
      exact ⟨(a.recv len).2.2, h.call (.recv len), a.recv_kcp len, silent⟩
  | update t now =>
      rw [henv]
      exact ⟨a.update (ok t) now, h.call (.update _ now), rfl, fun b hb => List.mem_append_right _ hb⟩
  | currentUpdate t now =>
      rw [henv]
      exact ⟨a.currentUpdate now, h.call (.currentUpdate now), rfl, silent⟩

lemma streamConfigPrepare_kcpMss {config prepared : StreamConfig}
    (h : streamConfigPrepare config = some prepared) :
    prepared.kcpMss.toNat ≤ protoMsgMaxLen - protoStreamHeaderLen - ikcpOverhead := by
  rw [streamConfigPrepare] at h
  split_ifs at h with hc
  cases h
  simp only [not_or, not_lt] at hc
  exact hc.2.2.2.1

/-- **The instance of a stream** has a history. -/
lemma KcpRan.hosted (henv : env.kcp = kcpmuxDefaultKcpOps mem ok) {k : Ikcpcb}
    (h : KcpRan env id k) : ∃ a : IkcpEnd, a.Hosted id ∧ a.kcp = k := by
  induction h with
  | new hc h =>
      obtain ⟨t, blank, hcreate, rfl⟩ := h
      rw [henv] at hcreate ⊢
      exact ⟨_, (kcpmuxDefaultKcpOps_opens hcreate (streamConfigPrepare_kcpMss hc)).hosted, rfl⟩
  | step _ hs ih =>
      obtain ⟨a, ha, hk⟩ := ih
      obtain ⟨a', ha', hk', -⟩ := hs.hosted henv ha hk
      exact ⟨a', ha', hk'⟩

/-! ### One engine -/

/-- Data of the stream with the id `id`: it has the header of a segment, there is room for it in a
message, and every instance of the stream takes it. -/
structure StreamData (id : UInt32) (b : Bytes) : Prop where
  header : ikcpOverhead ≤ b.length
  fits : protoStreamHeaderLen + b.length ≤ protoMsgMaxLen
  taken : ∀ kcp : Ikcpcb, kcp.conv = id → (ikcpInput kcp b).1 = 0

lemma IkcpEnd.Hosted.streamData {a : IkcpEnd} (h : a.Hosted id) {b : Bytes} (hb : b ∈ a.put) :
    StreamData id b := by
  obtain ⟨hlo, hhi, htaken⟩ := h.reach.steady.formed.put_fits hb
  have hfits := h.fits
  exact ⟨hlo, by omega, fun kcp hconv => htaken kcp (hconv.trans h.conv.symm)⟩

/-- What the log of a stream says about its instance. -/
structure KcpLog (s : ℕ) (x : Stream Ikcpcb) (log : List Event) : Prop where
  output : ∀ b, .kcpOutput s b ∈ log → StreamData x.streamId b
  input : ∀ b ret, .kcp s (.input b ret) ∈ log → StreamData x.streamId b → ret = 0

/-- **One entry of the log.** -/
lemma StreamView.kcpLog (henv : env.kcp = kcpmuxDefaultKcpOps mem ok) {op : Call} {x : Stream Ikcpcb}
    {evs : List Event} (hs : Sound env e) (hv : StreamView env op e s x evs) :
    KcpLog s (e.streams s) evs := by
  refine ⟨fun b hb => ?_, fun b ret hb hd => ?_⟩
  · cases hv.entry _ hb with
    | emitted hr hstep hm =>
        obtain ⟨a, ha, hk⟩ := hr.hosted henv
        obtain ⟨a', ha', -, hput⟩ := hstep.hosted henv ha hk
        exact ha'.streamData (hput b hm)
    | other h => exact h.elim
  · have hl := hv.live_of_mem hb (by simp)
    generalize hev : Event.kcp s (.input b ret) = ev at hb
    cases hv.entry _ hb with
    | @fed _ _ t k hop hp hk =>
        cases hev
        obtain ⟨a, ha, rfl⟩ := (hs.ran s hl k hk).hosted henv
        rw [henv]
        exact hd.taken a.kcp ha.conv
    | other h =>
        subst hev
        exact h.elim
    | _ => cases hev

lemma Reachable.kcpLog (henv : env.kcp = kcpmuxDefaultKcpOps mem ok) (h : Reachable env e) :
    e.EachStream KcpLog := by
  refine h.eachStream (fun _ e x evs hb => ⟨fun b hm => ?_, fun b ret hm => absurd hm hb.not_fed⟩)
    fun op e s x evs hs hlt hv hi => ?_
  · cases hb <;> simp [streamNewEvents] at hm
  · have hnew := hv.kcpLog henv hs.toSound
    have hid : x.streamId = (e.streams s).streamId := congrArg Prod.fst hv.ident
    refine ⟨fun b hm => ?_, fun b ret hm hd => ?_⟩
    · rw [hid]
      exact (List.mem_append.mp hm).elim (hnew.output b) (hi.output b)
    · rw [hid] at hd
      exact (List.mem_append.mp hm).elim (hnew.input b ret · hd) (hi.input b ret · hd)

/-- **The default KCP under an engine.**  In every reachable engine: the data that the instance of a
stream outputs fits into a message and is taken by every instance of the stream, so that
`kcpmux_protocol_send_stream_payload` refuses none of it for its size; the instance of a live stream
has the id of the stream as its conversation; and its windows bound what it keeps. -/
theorem default_kcp_streams (henv : env.kcp = kcpmuxDefaultKcpOps mem ok) (h : Reachable env e) :
    (∀ s b, .kcpOutput s b ∈ e.trace → StreamData (e.streams s).streamId b) ∧
      ∀ s, e.LiveStream s → ∃ kcp, (e.streams s).kcp = some kcp ∧
        kcp.conv = (e.streams s).streamId ∧ kcp.sndBuf.length ≤ ikcpWndSnd.toNat ∧
        kcp.rcvBuf.length ≤ ikcpWndRcv.toNat ∧ kcp.rcvQueue.length ≤ ikcpWndRcv.toNat := by
  have hs := h.boundary.toSteady.toSound
  refine ⟨fun s b hb => ?_, fun s hl => ?_⟩
  · have hlt : s < e.nstreams := hs.known _ hb (.stream s) rfl
    exact (h.kcpLog henv s hlt).output b (mem_logOf.mpr ⟨hb, rfl⟩)
  · obtain ⟨kcp, hk⟩ := hs.kcp_some hl
    obtain ⟨a, ha, rfl⟩ := (hs.ran s hl kcp hk).hosted henv
    exact ⟨a.kcp, hk, ha.conv, ha.reach.steady.bounded⟩

/-- A host on which every call succeeds, with the default KCP. -/
def kcpHost : Env Ikcpcb where
  hash32 := fun _ => 0
  monotonicTimeMs := fun t => t
  randomU64 := fun _ => 1
  writeSocketv := fun _ => true
  alloc := fun _ => true
  connConnectNotify := some fun _ => { result := 0 }
  streamCreateNotify := fun _ => { result := 0 }
  kcp := kcpmuxDefaultKcpOps (fun _ _ => true) fun _ _ => true

/-- The engine such a host starts with. -/
def kcpEngine : Engine Ikcpcb :=
  { engineBlank connConfigInit streamConfigInit with nextConnectionId := 1, tick := 4 }

lemma kcpEngine_create : engineCreate kcpHost none none = some kcpEngine := by
  have hid : (1 : UInt64) &&& ((0xffffffffffffffff : UInt64) >>> 1) = 1 := by decide
  simp [engineCreate, kcpHost, kcpEngine, hid]

/-- An initiator. -/
def kcpDialling : Engine Ikcpcb := (Call.connConnect [11] none [] none).exec kcpHost kcpEngine

/-- The engine it calls. -/
def kcpAnswering : Engine Ikcpcb :=
  (Call.input (connConnectMsg (kcpDialling.conns 0)) [10]).exec kcpHost kcpEngine

/-- That one opens a stream. -/
def kcpStreaming : Engine Ikcpcb := (Call.streamCreate 0 none none).exec kcpHost kcpAnswering

/-- It sends three bytes. -/
def kcpSending : Engine Ikcpcb := (Call.streamSend 0 [1, 2, 3] true).exec kcpHost kcpStreaming

/-- What KCP makes of the three bytes. -/
def kcpData : Bytes :=
  [2, 0, 0, 0, 81, 0, 128, 0, 24, 0, 0, 0, 0, 0, 0, 0, 0, 0, 0, 0, 3, 0, 0, 0, 1, 2, 3]

lemma kcpData_sent : .kcpOutput 0 kcpData ∈ kcpSending.trace := by decide +kernel

/-- The initiator is connected. -/
def kcpAnswered : Engine Ikcpcb :=
  (Call.input (connConnectAckMsg (kcpAnswering.conns 0) (UInt8.ofInt ackResultOk)) [11]).exec kcpHost
    kcpDialling

/-- Its host takes streams. -/
def kcpOffering : Engine Ikcpcb :=
  (Call.connSetCallbacks 0 (some { streamCreateNotify := true })).exec kcpHost kcpAnswered

/-- The datagram of the three bytes. -/
def kcpDatagram : Bytes :=
  streamHeader msgStreamPayload (kcpSending.conns 0) (kcpSending.streams 0).streamId ++ kcpData

/-- It has received the three bytes. -/
def kcpReceived : Engine Ikcpcb := (Call.input kcpDatagram [11]).exec kcpHost kcpOffering

lemma kcp_session : Session kcpHost kcpHost [10] [11] kcpReceived kcpSending := by
  have h0 : Session kcpHost kcpHost [10] [11] kcpEngine kcpEngine :=
    .init ⟨none, none, kcpEngine_create⟩ ⟨none, none, kcpEngine_create⟩
  have h1 : Session kcpHost kcpHost [10] [11] kcpDialling kcpEngine :=
    .left h0 ⟨.connConnect [11] none [] none, trivial, by simp, trivial, rfl⟩
  have hcall : .write (.conn 0) [11] (connConnectMsg (kcpDialling.conns 0)) true ∈
      kcpDialling.trace := by decide +kernel
  have h2 : Session kcpHost kcpHost [10] [11] kcpDialling kcpAnswering :=
    .toRight h1 ⟨.conn 0, true, hcall⟩ ⟨trivial, rfl⟩
  have hack : .write (.conn 0) [10]
      (connConnectAckMsg (kcpAnswering.conns 0) (UInt8.ofInt ackResultOk)) true ∈
        kcpAnswering.trace := by decide +kernel
  have h3 : Session kcpHost kcpHost [10] [11] kcpAnswered kcpAnswering :=
    .toLeft h2 ⟨.conn 0, true, hack⟩ ⟨trivial, rfl⟩
  have h4 : Session kcpHost kcpHost [10] [11] kcpOffering kcpAnswering :=
    .left h3 ⟨.connSetCallbacks 0 (some { streamCreateNotify := true }),
      ⟨by decide +kernel, by decide +kernel⟩, by simp, trivial, rfl⟩
  have h5 : Session kcpHost kcpHost [10] [11] kcpOffering kcpStreaming :=
    .right h4 ⟨.streamCreate 0 none none, ⟨by decide +kernel, by decide +kernel⟩, by simp,
      trivial, rfl⟩
  have hfresh : ¬ kcpStreaming.RejectedStream 0 := not_rejectedStream (by decide +kernel)
  have h6 : Session kcpHost kcpHost [10] [11] kcpOffering kcpSending :=
    .right h5 ⟨.streamSend 0 [1, 2, 3] true, ⟨⟨by decide +kernel, by decide +kernel⟩, hfresh⟩,
      by simp, trivial, rfl⟩
  have hsent : .write (.stream 0) [10] kcpDatagram true ∈ kcpSending.trace := by decide +kernel
  exact .toLeft h6 ⟨.stream 0, true, hsent⟩ ⟨trivial, rfl⟩

/-- The three bytes make a segment for the stream 2. -/
theorem default_kcp_streams_hello :
    .kcpOutput 0 kcpData ∈ kcpSending.trace ∧ StreamData (kcpSending.streams 0).streamId kcpData :=
  ⟨kcpData_sent, (default_kcp_streams rfl kcp_session.reachable.2).1 0 kcpData kcpData_sent⟩

/-! ### Two engines -/

/-- **The default KCP between two engines.**  Whatever the network loses, repeats and reorders: every
payload that is fed to the instance of a stream is data of the stream with the same id at the other
end of the connection, and the instance takes it. -/
theorem default_kcp_payloads {envA envB : Env Ikcpcb} {memA okA memB okB : ℕ → ℕ → Bool}
    {addrA addrB : Addr} {a b : Engine Ikcpcb} (hA : envA.kcp = kcpmuxDefaultKcpOps memA okA)
    (hB : envB.kcp = kcpmuxDefaultKcpOps memB okB) (h : Session envA envB addrA addrB a b) {s : ℕ}
    {payload : Bytes} {ret : ℤ} (hin : .kcp s (.input payload ret) ∈ a.trace) :
    ret = 0 ∧ ∃ s', Paired addrA a s b s' ∧ .kcpOutput s' payload ∈ b.trace ∧
      StreamData (a.streams s).streamId payload := by
  obtain ⟨ha, hb⟩ := h.reachable
  obtain ⟨hlt, -, d, ⟨o, ok, hsent⟩, hd⟩ := h.fed s payload ret hin
  obtain ⟨s', -, hpaired, hout⟩ := hb.paired hsent hd
  have hdata : StreamData (a.streams s).streamId payload := by
    rw [← hpaired.stream]
    exact (hb.kcpLog hB s' hpaired.lt).output payload (mem_logOf.mpr ⟨hout, rfl⟩)
  have hret := (ha.kcpLog hA s hlt).input payload ret (mem_logOf.mpr ⟨hin, rfl⟩) hdata
  exact ⟨hret, s', hpaired, hout, hdata⟩

lemma kcpData_received : .kcp 0 (.input kcpData 0) ∈ kcpReceived.trace := by decide +kernel

/-- The segment arrives. -/
theorem default_kcp_payloads_hello : .kcp 0 (.input kcpData 0) ∈ kcpReceived.trace ∧
    ∃ s', Paired [10] kcpReceived 0 kcpSending s' ∧ .kcpOutput s' kcpData ∈ kcpSending.trace ∧
      StreamData (kcpReceived.streams 0).streamId kcpData :=
  ⟨kcpData_received, (default_kcp_payloads rfl rfl kcp_session kcpData_received).2⟩

end KcpMux
