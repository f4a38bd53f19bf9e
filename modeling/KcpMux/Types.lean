import Mathlib.Tactic

/-!
The public data of kcp-mux (`include/kcpmux/kcpmux_types.h`): status codes, close
reasons, object states, configurations with their checks and defaults, the
protocol extension, and the statistics records.

Fixed-width fields keep their width (`UInt8`, `UInt16`, `UInt32`, `UInt64`);
times are `int64_t` milliseconds, read as integers, and the saturating addition
`deadlineAfter` keeps the `INT64_MAX` guard of the source; the packet, byte and
object counters are natural numbers.
-/

namespace KcpMux

/-- A byte string: a datagram, a fragment of one, or an address. -/
abbrev Bytes := List UInt8

/-- A peer address: its `addrlen` bytes. -/
abbrev Addr := List UInt8

/-- `INT64_MAX`. -/
def int64Max : ℤ := 9223372036854775807

/-- `INT_MAX`. -/
def intMax : ℕ := 2147483647

/-- `SIZE_MAX`. -/
def sizeMax : ℕ := 18446744073709551615

/-! ### Protocol constants -/

/-- `KCPMUX_VERSION`. -/
def version : UInt8 := 4

/-- `KCPMUX_ADDR_MAX_LEN`. -/
def addrMaxLen : ℕ := 64

/-- `KCPMUX_PROTO_EXT_MAX_LEN`. -/
def protoExtMaxLen : ℕ := 512

/-! ### Status codes -/

def errOk : ℤ := 0
def errNok : ℤ := 1
def errOom : ℤ := 8
def errNotFound : ℤ := 10
def errNetwork : ℤ := 19
def errInvalidFormat : ℤ := 41
def errInvalidParam : ℤ := 42
def errState : ℤ := 200
def errClosed : ℤ := 201
def errBufferTooSmall : ℤ := 202

/-- `KCPMUX_ERR_KCPRET`: a negative KCP result moved past the other codes. -/
def errKcpRet (ret : ℤ) : ℤ := 300 - ret

/-! ### Handshake results and close reasons -/

/-- `KCPMUX_ACK_RESULT_OK`, as the acceptance callback returns it. -/
def ackResultOk : ℤ := 0
def ackResultError : ℤ := 1
def ackResultVersion : ℤ := 2

def closeReasonNormal : UInt8 := 0
def closeReasonError : UInt8 := 1
def closeReasonVersion : UInt8 := 2
def closeReasonRejected : UInt8 := 3
def closeReasonIdle : UInt8 := 4
def closeReasonTimeout : UInt8 := 5

/-! ### Object states -/

/-- `kcpmux_conn_state_t`. -/
inductive ConnState where
  | init | connecting | connected | closing | closed | error
  deriving DecidableEq, Repr

/-- `kcpmux_stream_state_t`; `opened` is `KCPMUX_STREAM_STATE_OPEN`. -/
inductive StreamState where
  | opened | closing | closed | error
  deriving DecidableEq, Repr

/-- `kcpmux_stream_close_phase_t`. -/
inductive ClosePhase where
  | none | localDrain | waitAck | remoteDrain | finalize
  deriving DecidableEq, Repr

/-! ### Configurations -/

/-- `kcpmux_conn_config_t`. -/
structure ConnConfig where
  ctrlTimeoutMs : UInt32
  connectRetries : UInt32
  closeRetries : UInt32
  keepaliveIntervalMs : UInt32
  keepaliveTimeoutMs : UInt32
  idleTimeoutMs : UInt32
  deriving DecidableEq, Repr

/-- `kcpmux_stream_config_t`. -/
structure StreamConfig where
  ctrlTimeoutMs : UInt32
  closeRetries : UInt32
  drainTimeoutMs : UInt32
  kcpMss : UInt16
  sendPauseThreshold : UInt32
  sendResumeThreshold : UInt32
  batchThreshold : UInt32
  deriving DecidableEq, Repr

/-- `KCPMUX_DEFAULT_KEEPALIVE_TIMEOUT_MS`. -/
def defaultKeepaliveTimeoutMs : UInt32 := 30000

/-- `kcpmux_conn_config_init`. -/
def connConfigInit : ConnConfig where
  ctrlTimeoutMs := 400
  connectRetries := 2
  closeRetries := 1
  keepaliveIntervalMs := 10000
  keepaliveTimeoutMs := defaultKeepaliveTimeoutMs
  idleTimeoutMs := 60000

/-- `kcpmux_stream_config_init`. -/
def streamConfigInit : StreamConfig where
  ctrlTimeoutMs := 600
  closeRetries := 1
  drainTimeoutMs := 5000
  kcpMss := 1200
  sendPauseThreshold := 256
  sendResumeThreshold := 128
  batchThreshold := 1

/-- `KCPMUX_PROTO_MSG_MAX_LEN`. -/
def protoMsgMaxLen : ℕ := 1500

/-- `KCPMUX_PROTO_COMMON_LEN`: the type byte and the destination id. -/
def protoCommonLen : ℕ := 9

/-- `KCPMUX_PROTO_STREAM_HEADER_LEN`: the common header and the stream id. -/
def protoStreamHeaderLen : ℕ := protoCommonLen + 4

/-- `KCPMUX_IKCP_OVERHEAD`. -/
def ikcpOverhead : ℕ := 24

/-- `kcpmux_conn_config_prepare`: the normalised configuration, or nothing when it
is refused. -/
def connConfigPrepare (src : ConnConfig) : Option ConnConfig :=
  if src.ctrlTimeoutMs = 0 then none
  else if src.keepaliveTimeoutMs = 0 then
    some { src with keepaliveTimeoutMs := defaultKeepaliveTimeoutMs }
  else some src

/-- `kcpmux_stream_config_prepare`. -/
def streamConfigPrepare (src : StreamConfig) : Option StreamConfig :=
  if src.ctrlTimeoutMs = 0 ∨ src.drainTimeoutMs = 0 ∨ src.kcpMss = 0 ∨
      src.kcpMss.toNat > protoMsgMaxLen - protoStreamHeaderLen - ikcpOverhead ∨
      src.sendPauseThreshold = 0 ∨ src.sendResumeThreshold > src.sendPauseThreshold then none
  else some src

/-- The defaults pass their own checks. -/
lemma config_init_prepare :
    connConfigPrepare connConfigInit = some connConfigInit ∧
      streamConfigPrepare streamConfigInit = some streamConfigInit := by
  decide

/-- `kcpmux_timer_deadline_after`: addition that saturates at `INT64_MAX`. -/
def deadlineAfter (anchorMs : ℤ) (intervalMs : UInt32) : ℤ :=
  if anchorMs > int64Max - intervalMs.toNat then int64Max else anchorMs + intervalMs.toNat

/-- Below the saturation point a deadline is a plain sum. -/
lemma deadlineAfter_eq {a : ℤ} (h : a < int64Max - 2 ^ 32) (i : UInt32) :
    deadlineAfter a i = a + i.toNat := by
  have hi : i.toNat < 2 ^ 32 := i.toNat_lt
  unfold deadlineAfter
  rw [if_neg (by omega)]

/-- Below the saturation point a deadline is never `INT64_MAX`, the value that stands
for "no deadline". -/
lemma deadlineAfter_lt {a : ℤ} (h : a < int64Max - 2 ^ 32) (i : UInt32) :
    deadlineAfter a i < int64Max := by
  have hi : i.toNat < 2 ^ 32 := i.toNat_lt
  rw [deadlineAfter_eq h]
  omega

/-! ### Protocol extensions -/

/-- `kcpmux_proto_ext_t`: the first `len` bytes of the 512-byte buffer. -/
structure ProtoExt where
  data : Bytes
  len_le : data.length ≤ protoExtMaxLen
  deriving DecidableEq

namespace ProtoExt

/-- `len`. -/
def len (x : ProtoExt) : ℕ := x.data.length

/-- The extension of length zero. -/
def empty : ProtoExt := ⟨[], by decide⟩

/-- At most 512 bytes of a longer buffer. -/
def clip (b : Bytes) : ProtoExt :=
  ⟨b.take protoExtMaxLen, by rw [List.length_take]; exact Nat.min_le_left _ _⟩

instance : Inhabited ProtoExt := ⟨empty⟩

@[ext] lemma ext {x y : ProtoExt} (h : x.data = y.data) : x = y := by
  cases x; cases y; cases h; rfl

/-- A buffer that fits is not clipped. -/
lemma clip_data {b : Bytes} (h : b.length ≤ protoExtMaxLen) : (clip b).data = b :=
  List.take_of_length_le h

end ProtoExt

/-! ### Statistics

The source keeps these counters in `uint64_t`; here they are natural numbers, which agree with them
below `2 ^ 64`.  Only the times, which are fed with differences, keep their width. -/

/-- `kcpmux_engine_stats_t`. -/
structure EngineStats where
  txPackets : ℕ := 0
  txBytes : ℕ := 0
  rxPackets : ℕ := 0
  rxBytes : ℕ := 0
  txErrorPackets : ℕ := 0
  connCount : ℕ := 0
  streamCount : ℕ := 0
  connCreatedTotal : ℕ := 0
  connClosedTotal : ℕ := 0
  connConnectedTotal : ℕ := 0
  connRejectedTotal : ℕ := 0
  connIdleTimeoutTotal : ℕ := 0
  connKeepaliveTimeoutTotal : ℕ := 0
  streamCreatedTotal : ℕ := 0
  streamClosedTotal : ℕ := 0
  streamOpenedTotal : ℕ := 0
  apiConnConnectCalls : ℕ := 0
  apiConnCloseCalls : ℕ := 0
  apiStreamCreateCalls : ℕ := 0
  apiStreamCloseCalls : ℕ := 0
  apiStreamSendCalls : ℕ := 0
  apiStreamSendvCalls : ℕ := 0
  apiStreamRecvCalls : ℕ := 0
  deriving DecidableEq, Repr

/-- `kcpmux_conn_stats_t`; the handshake time is an unsigned difference of clock
readings. -/
structure ConnStats where
  txPackets : ℕ := 0
  txBytes : ℕ := 0
  rxPackets : ℕ := 0
  rxBytes : ℕ := 0
  handshakeTimeMs : UInt64 := 0
  deriving DecidableEq, Repr

/-- `kcpmux_stream_stats_t`; the three durations are unsigned 64-bit counters fed
with signed differences. -/
structure StreamStats where
  txPackets : ℕ := 0
  txBytes : ℕ := 0
  rxPackets : ℕ := 0
  rxBytes : ℕ := 0
  upSentBytes : ℕ := 0
  upRecvBytes : ℕ := 0
  ttfbTimeMs : UInt64 := 0
  writeBlockCount : ℕ := 0
  writeBlockTimeMs : UInt64 := 0
  readBlockCount : ℕ := 0
  readBlockTimeMs : UInt64 := 0
  deriving DecidableEq, Repr

end KcpMux
