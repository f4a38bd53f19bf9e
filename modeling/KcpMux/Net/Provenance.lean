import KcpMux.Net.Handshake
import KcpMux.Safety.PeerStreams

/-!
Where the payloads come from.

`payload_provenance`: whatever is fed to the KCP instance of a stream has been output by the KCP
instance of the stream with the same id at the other end of the connection, and a datagram feeds
no other stream than the one that its header names.
-/

namespace KcpMux

variable {K L : Type} {envA : Env K} {envB : Env L} {addrA addrB : Addr}
  {G : Engine K → Call → Prop} {H : Engine L → Call → Prop} {a : Engine K} {b : Engine L}

/-- The stream `s'` of `b` and the stream `s` of `a`, at the address `addrA`, are the two ends of
one stream. -/
structure Paired (addrA : Addr) (a : Engine K) (s : ℕ) (b : Engine L) (s' : ℕ) : Prop where
  lt : s' < b.nstreams
  stream : (b.streams s').streamId = (a.streams s).streamId
  addr : (b.connOf s').peerAddr = addrA
  conn : (b.connOf s').peerConnectionId = (a.connOf s).localConnectionId

/-- The payload of a datagram that `b` has sent is KCP output of the stream that it names. -/
lemma Reachable.paired {o : Owner} {ok : Bool} {d payload : Bytes} {s : ℕ} (h : Reachable envB b)
    (hw : .write o addrA d ok ∈ b.trace)
    (hd : PayloadDatagram d (a.connOf s).localConnectionId (a.streams s).streamId payload) :
    ∃ s', o = .stream s' ∧ Paired addrA a s b s' ∧ .kcpOutput s' payload ∈ b.trace := by
  obtain ⟨s', hs', ho, haddr, hdest, hid, hout⟩ := h.payload_origin hw hd
  exact ⟨s', ho, ⟨hs', hid, haddr.symm, hdest⟩, hout⟩

/-- **Payload provenance.**  Whatever two engines do and whatever the network loses, repeats and
reorders: the bytes that are fed to the KCP instance of a stream of `a` are one output of the KCP
instance of a stream of `b` with the same id, on a connection whose peer is the connection of
the stream that is fed.  And when a datagram that an object of `b` has sent is handed to `a`, it
feeds nothing but this object's output, and only to the stream at the other end. -/
theorem payload_provenance (h : Session envA envB addrA addrB a b) :
    (∀ s payload ret, .kcp s (.input payload ret) ∈ a.trace →
      ∃ s', Paired addrA a s b s' ∧ .kcpOutput s' payload ∈ b.trace) ∧
    ∀ o d ok, .write o addrA d ok ∈ b.trace →
      ∃ evs, ((Call.input d addrB).exec envA a).trace = evs ++ a.trace ∧
        ∀ s payload ret, .kcp s (.input payload ret) ∈ evs →
          ∃ s', o = .stream s' ∧ Paired addrA ((Call.input d addrB).exec envA a) s b s' ∧
            .kcpOutput s' payload ∈ b.trace := by
  obtain ⟨ha, hb⟩ := h.reachable
  constructor
  · intro s payload ret hw
    obtain ⟨-, -, d, ⟨o, ok, hsent⟩, hd⟩ := h.fed s payload ret hw
    obtain ⟨s', -, hpaired, hout⟩ := hb.paired hsent hd
    exact ⟨s', hpaired, hout⟩
  · intro o d ok hsent
    have hhands : (Call.input d addrB).Hands {d} addrB := by
      intro d' addr heq
      cases heq
      exact ⟨rfl, rfl⟩
    have hvalid : (Call.input d addrB).Valid a := trivial
    obtain ⟨evs, htr, hfed⟩ := ha.fedIn_exec hvalid hhands
    refine ⟨evs, htr, fun s payload ret hw => ?_⟩
    obtain ⟨-, -, d', rfl, hd⟩ := hfed s payload ret hw
    exact hb.paired hsent hd

/-- The engine at the other end, with a connection. -/
def relayAnswering : Engine Unit :=
  (Call.input (connConnectMsg (dialling.conns 0)) [10]).exec relayHost idealEngine

/-- It opens a stream. -/
def relayStreaming : Engine Unit := (Call.streamCreate 0 none none).exec relayHost relayAnswering

/-- It sends three bytes. -/
def relaySending : Engine Unit :=
  (Call.streamSend 0 [1, 2, 3] true).exec relayHost relayStreaming

/-- The initiator is connected. -/
def relayAnswered : Engine Unit :=
  (Call.input (connConnectAckMsg (relayAnswering.conns 0) (UInt8.ofInt ackResultOk)) [11]).exec
    (idealHost 0 0) dialling

/-- Its host takes streams. -/
def relayOffering : Engine Unit :=
  (Call.connSetCallbacks 0 (some { streamCreateNotify := true })).exec (idealHost 0 0) relayAnswered

/-- It has received the three bytes. -/
def relayReceived : Engine Unit :=
  (Call.input (streamHeader msgStreamPayload (relaySending.conns 0)
    (relaySending.streams 0).streamId ++ [1, 2, 3]) [11]).exec (idealHost 0 0) relayOffering

lemma relay_session :
    Session (idealHost 0 0) relayHost [10] [11] relayReceived relaySending := by
  have h0 : Session (idealHost 0 0) relayHost [10] [11] idealEngine idealEngine :=
    .init ⟨none, none, idealEngine_create 0 0⟩ ⟨none, none, idealEngine_create_relay⟩
  have h1 : Session (idealHost 0 0) relayHost [10] [11] dialling idealEngine :=
    .left h0 ⟨.connConnect [11] none [5] none, trivial, by simp, trivial, rfl⟩
  have h2 : Session (idealHost 0 0) relayHost [10] [11] dialling relayAnswering :=
    .toRight h1 ⟨.conn 0, true, dialling_sent⟩ ⟨trivial, rfl⟩
  have hack : .write (.conn 0) [10]
      (connConnectAckMsg (relayAnswering.conns 0) (UInt8.ofInt ackResultOk)) true ∈
        relayAnswering.trace := by decide +kernel
  have h3 : Session (idealHost 0 0) relayHost [10] [11] relayAnswered relayAnswering :=
    .toLeft h2 ⟨.conn 0, true, hack⟩ ⟨trivial, rfl⟩
  have h4 : Session (idealHost 0 0) relayHost [10] [11] relayOffering relayAnswering :=
    .left h3 ⟨.connSetCallbacks 0 (some { streamCreateNotify := true }),
      ⟨by decide +kernel, by decide +kernel⟩, by simp, trivial, rfl⟩
  have h5 : Session (idealHost 0 0) relayHost [10] [11] relayOffering relayStreaming :=
    .right h4 ⟨.streamCreate 0 none none, ⟨by decide +kernel, by decide +kernel⟩, by simp,
      trivial, rfl⟩
  have hfresh : ¬ relayStreaming.RejectedStream 0 := not_rejectedStream (by decide +kernel)
  have h6 : Session (idealHost 0 0) relayHost [10] [11] relayOffering relaySending :=
    .right h5 ⟨.streamSend 0 [1, 2, 3] true, ⟨⟨by decide +kernel, by decide +kernel⟩, hfresh⟩,
      by simp, trivial, rfl⟩
  have hsent : .write (.stream 0) [10] (streamHeader msgStreamPayload (relaySending.conns 0)
      (relaySending.streams 0).streamId ++ [1, 2, 3]) true ∈ relaySending.trace := by
    decide +kernel
  exact .toLeft h6 ⟨.stream 0, true, hsent⟩ ⟨trivial, rfl⟩

/-- The three bytes. -/
theorem payload_provenance_relay :
    ∃ s', Paired [10] relayReceived 0 relaySending s' ∧
      .kcpOutput s' [1, 2, 3] ∈ relaySending.trace :=
  (payload_provenance relay_session).1 0 [1, 2, 3] 0 (by decide +kernel)

end KcpMux
