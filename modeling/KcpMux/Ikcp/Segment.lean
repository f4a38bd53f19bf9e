import KcpMux.Types

/-!
The segments of the default KCP (`third_party/kcp/ikcp.h`, `third_party/kcp/ikcp.c`): the constants,
the comparison of 32-bit numbers and of times, and the 24 bytes of a header.

A segment is written little-endian.  `ikcpDecodeSeg_encode`: the decoding steps of `ikcp_input` read
back what `ikcp_encode_seg` writes.
-/

namespace KcpMux

/-! ### Constants -/

def ikcpRtoNdl : UInt32 := 50
def ikcpRtoMin : UInt32 := 100
def ikcpRtoDef : UInt32 := 200
def ikcpRtoMax : UInt32 := 60000
def ikcpRtoGRed : UInt32 := 10
def ikcpCmdPush : UInt32 := 81
def ikcpCmdAck : UInt32 := 82
def ikcpCmdWask : UInt32 := 83
def ikcpCmdWins : UInt32 := 84
def ikcpAskSend : UInt32 := 1
def ikcpAskTell : UInt32 := 2
def ikcpWndSnd : UInt32 := 128
def ikcpWndRcv : UInt32 := 128
def ikcpMtuDef : UInt32 := 1400
def ikcpInterval : ℤ := 100
def ikcpDeadlink : UInt32 := 20
def ikcpThreshInit : UInt32 := 16
def ikcpThreshMin : UInt32 := 16
def ikcpCwndInit : UInt32 := 8
def ikcpCwndLow : UInt32 := 24
def ikcpCwndMin : UInt32 := 4
def ikcpProbeInit : ℤ := 7000
def ikcpProbeLimit : ℤ := 120000
def ikcpFastackLimit : ℤ := 5
def ikcpRemindLimit : UInt32 := 3

/-! ### Numbers and times -/

/-- `_imin_`. -/
def imin (a b : UInt32) : UInt32 := if a ≤ b then a else b

/-- `_imax_`. -/
def imax (a b : UInt32) : UInt32 := if a ≥ b then a else b

/-- `_ibound_`. -/
def ibound (lower middle upper : UInt32) : UInt32 := imin (imax lower middle) upper

/-- `_itimediff`: how far `later` is ahead on the ring of 32-bit numbers. -/
def itimediff (later earlier : UInt32) : ℤ := (later - earlier).toInt32.toInt

/-- `_itime64diff`: the last 32 bits of the difference of two times. -/
def itime64diff (later earlier : ℤ) : ℤ := (Int32.ofInt (later - earlier)).toInt

/-- Ahead by less than half the ring. -/
lemma itimediff_eq (a b : UInt32) :
    itimediff a b = if (a - b).toNat < 2 ^ 31 then ((a - b).toNat : ℤ)
      else ((a - b).toNat : ℤ) - 2 ^ 32 := by
  have h : itimediff a b = (a - b).toBitVec.toInt := rfl
  rw [h, BitVec.toInt_eq_toNat_cond]
  have hn : (a - b).toBitVec.toNat = (a - b).toNat := rfl
  rw [hn]
  split_ifs <;> first | rfl | omega

/-- Below half the ring the comparison is the one of the numbers. -/
lemma itimediff_of_lt {a b : UInt32} (ha : a.toNat < 2 ^ 31) (hb : b.toNat < 2 ^ 31) :
    itimediff a b = (a.toNat : ℤ) - b.toNat := by
  rw [itimediff_eq, UInt32.toNat_sub]
  split_ifs <;> omega

/-! ### Byte order -/

/-- `ikcp_encode16u`. -/
def ikcpEncode16u (w : UInt16) : Bytes := [(w &&& 255).toUInt8, (w >>> 8).toUInt8]

/-- `ikcp_encode32u`. -/
def ikcpEncode32u (l : UInt32) : Bytes :=
  [(l >>> 0 &&& 0xff).toUInt8, (l >>> 8 &&& 0xff).toUInt8, (l >>> 16 &&& 0xff).toUInt8,
    (l >>> 24 &&& 0xff).toUInt8]

/-- `ikcp_decode8u`: the value, and the bytes after it. -/
def ikcpDecode8u (p : Bytes) : UInt8 × Bytes := (p.getD 0 0, p.drop 1)

/-- `ikcp_decode16u`. -/
def ikcpDecode16u (p : Bytes) : UInt16 × Bytes :=
  let w := (p.getD 1 0).toUInt16
  ((p.getD 0 0).toUInt16 + (w <<< 8), p.drop 2)

/-- `ikcp_decode32u`. -/
def ikcpDecode32u (p : Bytes) : UInt32 × Bytes :=
  let l := (p.getD 3 0).toUInt32
  let l := (p.getD 2 0).toUInt32 + (l <<< 8)
  let l := (p.getD 1 0).toUInt32 + (l <<< 8)
  let l := (p.getD 0 0).toUInt32 + (l <<< 8)
  (l, p.drop 4)

lemma ikcpDecode16u_encode (w : UInt16) (rest : Bytes) :
    ikcpDecode16u (ikcpEncode16u w ++ rest) = (w, rest) := by
  refine Prod.ext ?_ rfl
  have hw := w.toNat_lt
  apply UInt16.toNat_inj.mp
  have hand : ∀ n : ℕ, n &&& 255 = n % 256 := fun n => Nat.and_two_pow_sub_one_eq_mod n 8
  simp [ikcpDecode16u, ikcpEncode16u, UInt16.toNat_add, UInt16.toNat_shiftLeft,
    Nat.shiftRight_eq_div_pow, Nat.shiftLeft_eq, hand]
  omega

lemma ikcpDecode32u_encode (l : UInt32) (rest : Bytes) :
    ikcpDecode32u (ikcpEncode32u l ++ rest) = (l, rest) := by
  refine Prod.ext ?_ rfl
  have hl := l.toNat_lt
  apply UInt32.toNat_inj.mp
  have hand : ∀ n : ℕ, n &&& 255 = n % 256 := fun n => Nat.and_two_pow_sub_one_eq_mod n 8
  simp [ikcpDecode32u, ikcpEncode32u, UInt32.toNat_add, UInt32.toNat_shiftLeft,
    Nat.shiftRight_eq_div_pow, Nat.shiftLeft_eq, hand]
  omega

/-! ### Segments -/

/-- `IKCPSEG`: a segment of a message, with its header and the record of its transmissions.  Its
field `len` is the number of its bytes. -/
structure IkcpSeg where
  conv : UInt32 := 0
  cmd : UInt32 := 0
  frg : UInt32 := 0
  wnd : UInt32 := 0
  ts : UInt32 := 0
  sn : UInt32 := 0
  una : UInt32 := 0
  resendts : ℤ := 0
  rto : UInt32 := 0
  fastack : UInt32 := 0
  xmit : UInt32 := 0
  data : Bytes := []
  deriving DecidableEq, Repr

/-- The field `len`. -/
def IkcpSeg.len (seg : IkcpSeg) : UInt32 := UInt32.ofNat seg.data.length

/-- `ikcp_encode_seg`: the header. -/
def ikcpEncodeSeg (seg : IkcpSeg) : Bytes :=
  ikcpEncode32u seg.conv ++ [seg.cmd.toUInt8] ++ [seg.frg.toUInt8] ++
    ikcpEncode16u seg.wnd.toUInt16 ++ ikcpEncode32u seg.ts ++ ikcpEncode32u seg.sn ++
    ikcpEncode32u seg.una ++ ikcpEncode32u seg.len

@[simp] lemma ikcpEncodeSeg_length (seg : IkcpSeg) : (ikcpEncodeSeg seg).length = ikcpOverhead := rfl

/-- The header of a received segment. -/
structure IkcpHeader where
  conv : UInt32
  cmd : UInt8
  frg : UInt8
  wnd : UInt16
  ts : UInt32
  sn : UInt32
  una : UInt32
  len : UInt32
  deriving DecidableEq, Repr

/-- The decoding steps of `ikcp_input`: the header, and the bytes after it. -/
def ikcpDecodeSeg (data : Bytes) : IkcpHeader × Bytes :=
  let conv := ikcpDecode32u data
  let cmd := ikcpDecode8u conv.2
  let frg := ikcpDecode8u cmd.2
  let wnd := ikcpDecode16u frg.2
  let ts := ikcpDecode32u wnd.2
  let sn := ikcpDecode32u ts.2
  let una := ikcpDecode32u sn.2
  let len := ikcpDecode32u una.2
  (⟨conv.1, cmd.1, frg.1, wnd.1, ts.1, sn.1, una.1, len.1⟩, len.2)

/-- What a segment shows on the wire. -/
def IkcpSeg.header (seg : IkcpSeg) : IkcpHeader :=
  ⟨seg.conv, seg.cmd.toUInt8, seg.frg.toUInt8, seg.wnd.toUInt16, seg.ts, seg.sn, seg.una, seg.len⟩

/-- **A header is read back.** -/
lemma ikcpDecodeSeg_encode (seg : IkcpSeg) (rest : Bytes) :
    ikcpDecodeSeg (ikcpEncodeSeg seg ++ rest) = (seg.header, rest) := by
  have h8 : ∀ (c : UInt8) (l : Bytes), ikcpDecode8u ([c] ++ l) = (c, l) := fun _ _ => rfl
  simp only [ikcpEncodeSeg, List.append_assoc]
  rw [ikcpDecodeSeg]
  simp only [ikcpDecode32u_encode, ikcpDecode16u_encode, h8]
  rfl

end KcpMux
