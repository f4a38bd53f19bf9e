import KcpMux.Lib.Network
import KcpMux.Runs.Views

/-!
Two engines and a network.

Each engine is a party of `Network`: on its own it makes any valid call but
`kcpmux_engine_input`, and `kcpmux_engine_input` hands it a datagram that the other engine has
passed to the socket for this one's address, whether the socket took it or not.  `Session` is
what the two reach together, `SessionWhen` the same with conditions on the calls of each side.
-/

namespace KcpMux

variable {K L : Type}

/-- An engine as a party: `peer` is the address of the other one, and the calls meet the
condition `G`. -/
def engineParty (env : Env K) (peer : Addr) (G : Engine K → Call → Prop) :
    Network.Party (Engine K) Bytes where
  init e := ∃ connConfig streamConfig, engineCreate env connConfig streamConfig = some e
  act e e' := ∃ op : Call, op.Valid e ∧ (∀ d addr, op ≠ .input d addr) ∧ G e op ∧
    e' = op.exec env e
  receive d e e' := G e (.input d peer) ∧ e' = (Call.input d peer).exec env e
  sent e := { d | ∃ o ok, .write o peer d ok ∈ e.trace }

/-- The engines `a`, at the address `addrA`, and `b`, at `addrB`, reach these states together,
with calls that meet `G` and `H`. -/
def SessionWhen (envA : Env K) (envB : Env L) (addrA addrB : Addr) (G : Engine K → Call → Prop)
    (H : Engine L → Call → Prop) : Engine K → Engine L → Prop :=
  Network.Reachable (engineParty envA addrB G) (engineParty envB addrA H)

/-- The same without conditions. -/
def Session (envA : Env K) (envB : Env L) (addrA addrB : Addr) : Engine K → Engine L → Prop :=
  SessionWhen envA envB addrA addrB (fun _ _ => True) (fun _ _ => True)

variable {env : Env K} {envA : Env K} {envB : Env L} {addrA addrB peer : Addr}
  {G : Engine K → Call → Prop} {H : Engine L → Call → Prop} {e e' : Engine K} {a : Engine K}
  {b : Engine L}

/-! ### One side -/

/-- A step of either kind is a valid call. -/
lemma engineParty_step (h : Reachable env e)
    (hstep : (engineParty env peer G).act e e' ∨ ∃ d, (engineParty env peer G).receive d e e') :
    Reachable env e' ∧ (engineParty env peer G).sent e ⊆ (engineParty env peer G).sent e' := by
  obtain ⟨op, hv, rfl⟩ : ∃ op : Call, op.Valid e ∧ e' = op.exec env e := by
    rcases hstep with ⟨op, hv, -, -, rfl⟩ | ⟨d, -, rfl⟩
    · exact ⟨op, hv, rfl⟩
    · exact ⟨.input d peer, trivial, rfl⟩
  refine ⟨.call h op hv, ?_⟩
  rintro d ⟨o, ok, hw⟩
  have hext := (h.boundary.exec hv).1.extends h.boundary.toSteady
  exact ⟨o, ok, hext.trace.subset hw⟩

/-- **What one engine knows.**  An invariant of the runs in which an engine is only handed
datagrams of `D`, from its peer, holds for what the peer has sent. -/
lemma SessionWhen.knows {I : Set Bytes → Engine K → Prop}
    (h : SessionWhen envA envB addrA addrB G H a b)
    (mono : ∀ D D' e, D ⊆ D' → I D e → I D' e)
    (create : ∀ D connConfig streamConfig e,
      engineCreate envA connConfig streamConfig = some e → I D e)
    (call : ∀ D e (op : Call), Reachable envA e → I D e → op.Valid e → G e op →
      (∀ d addr, op = .input d addr → d ∈ D ∧ addr = addrB) → I D (op.exec envA e)) :
    I ((engineParty envB addrA H).sent b) a ∧ Reachable envA a ∧ Reachable envB b := by
  have key := Network.Reachable.knows (I := fun D e => I D e ∧ Reachable envA e)
    (J := Reachable envB) h (fun D D' e hD hI => ⟨mono D D' e hD hI.1, hI.2⟩) ?_ ?_ ?_ ?_
    (fun t t' hr ht => engineParty_step hr (Or.inl ht))
    (fun t t' m hr ht => engineParty_step hr (Or.inr ⟨m, ht⟩))
  · exact ⟨key.1.1, key.1.2, key.2⟩
  · rintro D e ⟨cc, sc, hc⟩
    exact ⟨create D cc sc e hc, .create hc⟩
  · rintro D e e' ⟨hI, hr⟩ hact
    refine ⟨?_, (engineParty_step hr (Or.inl hact)).1⟩
    obtain ⟨op, hv, hop, hg, rfl⟩ := hact
    exact call D e op hr hI hv hg fun d addr h => absurd h (hop d addr)
  · rintro D e e' d ⟨hI, hr⟩ hd hrecv
    refine ⟨?_, (engineParty_step hr (Or.inr ⟨d, hrecv⟩)).1⟩
    obtain ⟨hg, rfl⟩ := hrecv
    exact call D e _ hr hI trivial hg fun d' addr h => by cases h; exact ⟨hd, rfl⟩
  · rintro t ⟨cc, sc, hc⟩
    exact .create hc

lemma SessionWhen.symm (h : SessionWhen envA envB addrA addrB G H a b) :
    SessionWhen envB envA addrB addrA H G b a :=
  Network.Reachable.symm h

lemma SessionWhen.reachable (h : SessionWhen envA envB addrA addrB G H a b) :
    Reachable envA a ∧ Reachable envB b :=
  (h.knows (I := fun _ _ => True) (fun _ _ _ _ h => h) (fun _ _ _ _ _ => trivial)
    fun _ _ _ _ _ _ _ _ => trivial).2

end KcpMux
