import KcpMux.Engine.State
import KcpMux.Ikcp.Runs

/-!
The default KCP as the operations of an engine (`kcpmux_kcp.c`).

`mem t i` says whether the `i`-th allocation of a call succeeds and `ok t i` what the `i`-th output of
a call returns, where `t` is the time of the call.  `kcpmuxDefaultKcpOps_opens` says what an instance is
when its stream has been created.
-/

namespace KcpMux

/-! ### The operations -/

def kcpmuxKcpNodelay : ℤ := 0
def kcpmuxKcpNodelayInterval : ℤ := 10
def kcpmuxKcpNodelayFastack : ℤ := 3
def kcpmuxKcpNodelayFlowctrl : Bool := true

/-- `kcpmux_default_ikcp_create`. -/
def kcpmuxDefaultIkcpCreate (alloc : ℕ → Bool) (conv : UInt32) : Option Ikcpcb :=
  (ikcpCreate alloc conv).map fun kcp =>
    ikcpNodelay kcp kcpmuxKcpNodelay kcpmuxKcpNodelayInterval kcpmuxKcpNodelayFastack
      (if kcpmuxKcpNodelayFlowctrl then 0 else 1)

/-- `kcpmux_default_ikcp_setmss`. -/
def kcpmuxDefaultIkcpSetmss (alloc : ℕ → Bool) (kcp : Ikcpcb) (mss : UInt16) : Ikcpcb :=
  (ikcpSetmtu alloc kcp (mss.toNat + ikcpOverhead)).2

/-- `kcpmux_default_kcp_ops`. -/
def kcpmuxDefaultKcpOps (mem ok : ℕ → ℕ → Bool) : KcpOps Ikcpcb where
  create t conv := kcpmuxDefaultIkcpCreate (mem t) conv
  setmss t kcp mss := kcpmuxDefaultIkcpSetmss (mem t) kcp mss
  send t kcp buf := { ret := (ikcpSend (mem t) kcp buf).1, kcp := (ikcpSend (mem t) kcp buf).2 }
  input _ kcp data := { ret := (ikcpInput kcp data).1, kcp := (ikcpInput kcp data).2 }
  recv _ kcp len :=
    { ret := (ikcpRecv kcp len).1, kcp := (ikcpRecv kcp len).2.2, data := (ikcpRecv kcp len).2.1 }
  peeksize _ kcp := ikcpPeeksize kcp
  waitsnd _ kcp := ikcpWaitsnd kcp
  update t kcp current :=
    { ret := 0
      kcp := (ikcpUpdate (ok t) kcp current).1
      output := (ikcpUpdate (ok t) kcp current).2 }
  check _ kcp current := ikcpCheck kcp current
  currentUpdate _ kcp current := { ret := 0, kcp := ikcpCurrentUpdate kcp current }
  sendv := some fun t kcp iov firstOffset len =>
    { ret := (ikcpSendv (mem t) kcp iov firstOffset len).1
      kcp := (ikcpSendv (mem t) kcp iov firstOffset len).2 }

/-! ### Creation -/

variable {mem ok : ℕ → ℕ → Bool}

/-- An instance that has not been used, with the conversation of the stream `id` and an `mtu` that
leaves room for the header of a stream message. -/
structure Ikcpcb.Opens (kcp : Ikcpcb) (id : UInt32) : Prop where
  fresh : kcp.Fresh
  conv : kcp.conv = id
  fits : protoStreamHeaderLen + kcp.mtu.toNat ≤ protoMsgMaxLen

lemma ikcpNodelay_settings (kcp : Ikcpcb) (nodelay interval resend nc : ℤ) :
    (ikcpNodelay kcp nodelay interval resend nc).settings = kcp.settings := by
  rw [ikcpNodelay]
  by_cases h1 : nodelay ≥ 0 <;> by_cases h2 : interval ≥ 0 <;> by_cases h3 : resend ≥ 0 <;>
    by_cases h4 : nc ≥ 0 <;> simp only [h1, h2, h3, h4, if_true, if_false] <;> rfl

/-- **A new instance.**  A `kcp_mss` that is refused as too small leaves the default, which fits as
well. -/
lemma kcpmuxDefaultKcpOps_opens {t t' : ℕ} {id : UInt32} {k : Ikcpcb} {mss : UInt16}
    (h : (kcpmuxDefaultKcpOps mem ok).create t id = some k)
    (hmss : mss.toNat ≤ protoMsgMaxLen - protoStreamHeaderLen - ikcpOverhead) :
    ((kcpmuxDefaultKcpOps mem ok).setmss t' k mss).Opens id := by
  obtain ⟨blank, hblank, rfl⟩ := Option.map_eq_some_iff.mp h
  obtain rfl : ikcpBlank id = blank := by
    rw [ikcpCreate] at hblank
    split_ifs at hblank
    exact Option.some.inj hblank
  have hset := ikcpNodelay_settings (ikcpBlank id) kcpmuxKcpNodelay kcpmuxKcpNodelayInterval
    kcpmuxKcpNodelayFastack (if kcpmuxKcpNodelayFlowctrl then 0 else 1)
  have hfresh := ikcpNodelay_fresh (ikcpBlank_fresh id) kcpmuxKcpNodelay kcpmuxKcpNodelayInterval
    kcpmuxKcpNodelayFastack (if kcpmuxKcpNodelayFlowctrl then 0 else 1)
  generalize ikcpNodelay (ikcpBlank id) kcpmuxKcpNodelay kcpmuxKcpNodelayInterval
    kcpmuxKcpNodelayFastack (if kcpmuxKcpNodelayFlowctrl then 0 else 1) = kcp at hset hfresh
  have hmax : protoMsgMaxLen - protoStreamHeaderLen - ikcpOverhead = 1463 := rfl
  have hover : ikcpOverhead = 24 := rfl
  have hhead : protoStreamHeaderLen = 13 := rfl
  have hlen : protoMsgMaxLen = 1500 := rfl
  have hmtu : kcp.mtu.toNat = 1400 := congrArg UInt32.toNat (congrArg IkcpSettings.mtu hset)
  refine ⟨ikcpSetmtu_fresh hfresh _ (by omega), ?_, ?_⟩
  · show (ikcpSetmtu _ kcp _).2.conv = id
    rw [ikcpSetmtu]
    split_ifs <;> exact congrArg IkcpSettings.conv hset
  · show protoStreamHeaderLen + (ikcpSetmtu _ kcp _).2.mtu.toNat ≤ _
    rw [ikcpSetmtu]
    split_ifs
    · show protoStreamHeaderLen + kcp.mtu.toNat ≤ _
      omega
    · show protoStreamHeaderLen + kcp.mtu.toNat ≤ _
      omega
    · show protoStreamHeaderLen + (UInt32.ofInt (mss.toNat + ikcpOverhead)).toNat ≤ _
      rw [UInt32.ofInt, UInt32.toNat_ofNat']
      omega

end KcpMux
