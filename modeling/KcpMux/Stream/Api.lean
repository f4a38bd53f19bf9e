import KcpMux.Stream.Core

/-!
The public functions on streams (`src/kcpmux_stream.c`): creation, close, configuration,
the two sends over one chunk loop, batch boundaries, and reception.

The cursor of a vectored send is modelled as in the source, with its loops bounded by the
bytes and fragments they pass.
-/

namespace KcpMux

variable {K : Type} (env : Env K)

/-- `kcpmux_stream_create`. -/
def streamCreate (e : Engine K) (c : ℕ) (config : Option StreamConfig)
    (callbacks : Option StreamCallbacks) : Option ℕ × Engine K :=
  if (e.conns c).internalClosed then (none, e)
  else
    let e := engineOperationEnter e
    let e := { e with stats := { e.stats with
      apiStreamCreateCalls := e.stats.apiStreamCreateCalls + 1 } }
    if (e.conns c).state ≠ .connected then (none, engineOperationLeave env e)
    else
      let r := connAllocStreamId env e c
      let e := r.2
      if r.1 = 0 then (none, engineOperationLeave env e)
      else
        let q := streamNew env e c r.1 config true
        let e := q.2
        match q.1 with
        | none => (none, engineOperationLeave env e)
        | some s =>
            let e := e.setStream s { e.streams s with
              callbacks := callbacks.getD (e.streams s).callbacks }
            let e := connAddStream env e c s
            (some s, engineOperationLeave env e)

/-- `kcpmux_stream_close`. -/
def streamClose (e : Engine K) (s : ℕ) : Engine K :=
  let e := engineOperationEnter e
  let e := { e with stats := { e.stats with
    apiStreamCloseCalls := e.stats.apiStreamCloseCalls + 1 } }
  match (e.streams s).state with
  | .closing =>
      let e :=
        if (e.streams s).closePhase = .remoteDrain then
          streamScheduleFinalize env e.tock s closeReasonNormal (engineNow env e)
        else e
      engineOperationLeave env e
  | .closed | .error => engineOperationLeave env e
  | .opened =>
      let now := engineNow env e
      let e := e.tock.setStream s { e.streams s with
        lastCtrlTs := now, drainStartedTs := now, closeReason := closeReasonNormal
        retryCount := 0 }
      let e := e.setClosePhase s .localDrain
      let e := streamSetState env e s .closing
      -- a stream the peer has never heard of needs no handshake
      if (e.streams s).isInitiator = true ∧ (e.streams s).stats.upSentBytes = 0 then
        engineOperationLeave env (streamCloseInternal env e s closeReasonNormal)
      else
        let e := (engineScheduleTimerNode env e (.stream s) now now).2
        engineOperationLeave env (streamAdvanceLocalClose env e s)

/-- `kcpmux_stream_set_config`.  The segment size stays as it was at creation. -/
def streamSetConfig (e : Engine K) (s : ℕ) (config : StreamConfig) : Engine K :=
  if (e.streams s).internalClosed then e
  else
    match streamConfigPrepare config with
    | none => e
    | some prepared =>
        let x := e.streams s
        let e := e.setStream s { x with config := { prepared with kcpMss := x.config.kcpMss } }
        let e := streamClearPending e s
        streamRefreshTimer env e.tock s (engineNow env e)

/-- `kcpmux_stream_set_callbacks`. -/
def streamSetCallbacks (e : Engine K) (s : ℕ) (callbacks : Option StreamCallbacks) : Engine K :=
  if (e.streams s).internalClosed then e
  else e.setStream s { e.streams s with callbacks := callbacks.getD {} }

/-- A setter called from the acceptance callback. -/
def StreamSetter.apply (s : ℕ) (e : Engine K) : StreamSetter → Engine K
  | .config prepared => streamSetConfig env e s prepared
  | .callbacks installed => streamSetCallbacks e s installed

/-! ### Sending -/

/-- `kcpmux_contiguous_send_context_t`. -/
structure ContiguousSendContext where
  buf : Bytes
  offset : ℕ

/-- `kcpmux_vectored_send_context_t`; the scratch buffer is the value of
`vectoredCopy`. -/
structure VectoredSendContext where
  iov : List Bytes
  index : ℕ
  offset : ℕ

/-- The loop that skips empty fragments. -/
def vectoredSkip : ℕ → VectoredSendContext → VectoredSendContext
  | 0, context => context
  | rounds + 1, context =>
      if context.index < context.iov.length ∧ (context.iov.getD context.index []).length = 0 then
        vectoredSkip rounds { context with index := context.index + 1 }
      else context

/-- One round of the cursor: `take` bytes of the current fragment are used up. -/
def VectoredSendContext.forward (context : VectoredSendContext) (take : ℕ) :
    VectoredSendContext :=
  if context.offset + take = (context.iov.getD context.index []).length then
    { context with index := context.index + 1, offset := 0 }
  else { context with offset := context.offset + take }

/-- The bytes of the current fragment that one round takes. -/
def VectoredSendContext.take (context : VectoredSendContext) (size : ℕ) : ℕ :=
  let available := (context.iov.getD context.index []).length - context.offset
  if available < size then available else size

/-- The first loop of `kcpmux_vectored_advance`. -/
def vectoredAdvanceLoop : ℕ → VectoredSendContext → ℕ → VectoredSendContext
  | 0, context, _ => context
  | rounds + 1, context, size =>
      if size > 0 then
        vectoredAdvanceLoop rounds (context.forward (context.take size))
          (size - context.take size)
      else context

/-- `kcpmux_vectored_advance`. -/
def vectoredAdvance (context : VectoredSendContext) (size : ℕ) : VectoredSendContext :=
  vectoredSkip context.iov.length
    (vectoredAdvanceLoop (size + context.iov.length) context size)

/-- The loop of `kcpmux_vectored_copy`. -/
def vectoredCopyLoop : ℕ → VectoredSendContext → ℕ → Bytes
  | 0, _, _ => []
  | rounds + 1, context, size =>
      if size > 0 then
        let take := context.take size
        (((context.iov.getD context.index []).drop context.offset).take take) ++
          vectoredCopyLoop rounds (context.forward take) (size - take)
      else []

/-- `kcpmux_vectored_copy`. -/
def vectoredCopy (context : VectoredSendContext) (size : ℕ) : Bytes :=
  vectoredCopyLoop (size + context.iov.length) context size

/-- A chunk sender: the result, the engine and the context. -/
abbrev SendChunk (K C : Type) := Engine K → C → ℕ → ℤ × Engine K × C

/-- `kcpmux_stream_send_contiguous_chunk`. -/
def streamSendContiguousChunk (s : ℕ) : SendChunk K ContiguousSendContext :=
  fun e context size =>
    let r := kcpSend env e s ((context.buf.drop context.offset).take size)
    (r.1, r.2, if r.1 ≥ 0 then { context with offset := context.offset + size } else context)

/-- `kcpmux_stream_send_vectored_chunk`. -/
def streamSendVectoredChunk (s : ℕ) : SendChunk K VectoredSendContext :=
  fun e context size =>
    let r := match env.kcp.sendv with
      | some sendv =>
          kcpSendv env sendv e s (context.iov.drop context.index) context.offset size
      | none => kcpSend env e s (vectoredCopy context size)
    (r.1, r.2, if r.1 ≥ 0 then vectoredAdvance context size else context)

/-- The loop of `kcpmux_stream_send_chunks`: the result that stopped it, if one did, the
bytes sent, and the engine. -/
def sendChunkLoop {C : Type} (sendChunk : SendChunk K C) (chunkSize : ℕ) :
    ℕ → Engine K → C → ℕ → ℕ → Option ℤ × ℕ × Engine K
  | 0, e, _, _, totalSent => (none, totalSent, e)
  | rounds + 1, e, context, remaining, totalSent =>
      if remaining = 0 then (none, totalSent, e)
      else
        let sendSize := if remaining < chunkSize then remaining else chunkSize
        let r := sendChunk e context sendSize
        if r.1 < 0 then (some r.1, totalSent, r.2.1)
        else sendChunkLoop sendChunk chunkSize rounds r.2.1 r.2.2 (remaining - sendSize)
          (totalSent + sendSize)

/-- The end of `kcpmux_stream_send_chunks` when something was sent or a flush is
requested. -/
def streamSendFinish (e : Engine K) (s : ℕ) (flush : Bool) (now : ℤ) : Engine K :=
  if flush then
    let e := streamClearPending e s
    let e := kcpUpdate env e s now
    let r := kcpCheck env e s now
    (engineScheduleTimerNode env r.2 (.stream s) r.1 now).2
  else streamAccumulateUpdate env e s now

/-- The part of `kcpmux_stream_send_chunks` after the write-block check. -/
def streamSendBody {C : Type} (sendChunk : SendChunk K C) (e : Engine K) (s size : ℕ)
    (flush : Bool) (context : C) (now : ℤ) : ℤ × Engine K :=
  let e := kcpCurrentUpdate env e s now
  let r := sendChunkLoop sendChunk (e.streams s).config.kcpMss.toNat size e context size 0
  let totalSent := r.2.1
  let e := r.2.2
  let failed := match r.1 with
    | some ret => if totalSent = 0 then some ret else none
    | none => none
  match failed with
  | some ret => (-errKcpRet ret, e)
  | none =>
      let x := e.streams s
      let e := e.setStream s { x with stats := { x.stats with
        upSentBytes := x.stats.upSentBytes + totalSent } }
      if totalSent = 0 ∧ flush = false then (0, e)
      else (totalSent, streamSendFinish env e s flush now)

/-- A stream becomes write-blocked. -/
def Stream.blockWrite (x : Stream K) (now : ℤ) : Stream K :=
  { x with
    writeBlockStartTs := now, writeBlocked := true
    stats := { x.stats with writeBlockCount := x.stats.writeBlockCount + 1 } }

/-- The entry in the write-blocked state. -/
def streamMarkWriteBlocked (e : Engine K) (s : ℕ) (now : ℤ) : Engine K :=
  if (e.streams s).writeBlocked then e else e.setStream s ((e.streams s).blockWrite now)

/-- The part of `kcpmux_stream_send_chunks` inside the operation bracket. -/
def streamSendGuarded {C : Type} (sendChunk : SendChunk K C) (e : Engine K) (s size : ℕ)
    (flush : Bool) (context : C) (now : ℤ) : ℤ × Engine K :=
  if (e.streams s).internalClosed then (-errClosed, e)
  else if (e.streams s).state ≠ .opened ∨ (e.connOf s).state ≠ .connected then (-errState, e)
  else if size > 0 then
    let r := kcpWaitsnd env e s
    if r.1 ≥ (e.streams s).config.sendPauseThreshold.toInt32.toInt then
      (0, streamMarkWriteBlocked r.2 s now)
    else streamSendBody env sendChunk r.2 s size flush context now
  else streamSendBody env sendChunk e s size flush context now

/-- `kcpmux_stream_send_chunks`. -/
def streamSendChunks {C : Type} (sendChunk : SendChunk K C) (e : Engine K) (s size : ℕ)
    (flush vectored : Bool) (context : C) : ℤ × Engine K :=
  let now := engineNow env e
  let e := engineOperationEnter e.tock
  let e := { e with stats :=
    if vectored then { e.stats with apiStreamSendvCalls := e.stats.apiStreamSendvCalls + 1 }
    else { e.stats with apiStreamSendCalls := e.stats.apiStreamSendCalls + 1 } }
  let r := streamSendGuarded env sendChunk e s size flush context now
  (r.1, engineOperationLeave env r.2)

/-- `kcpmux_stream_send`. -/
def streamSend (e : Engine K) (s : ℕ) (buf : Bytes) (flush : Bool) : ℤ × Engine K :=
  if buf.length > intMax ∨ (buf = [] ∧ flush = false) then (-errInvalidParam, e)
  else streamSendChunks env (streamSendContiguousChunk env s) e s buf.length flush false ⟨buf, 0⟩

/-- `kcpmux_stream_sendv`. -/
def streamSendv (e : Engine K) (s : ℕ) (iov : List Bytes) (flush : Bool) : ℤ × Engine K :=
  let total := iov.flatten.length
  if total > intMax ∨ (total = 0 ∧ flush = false) then (-errInvalidParam, e)
  else streamSendChunks env (streamSendVectoredChunk env s) e s total flush true
    (vectoredSkip iov.length ⟨iov, 0, 0⟩)

/-! ### Batch boundaries -/

/-- `kcpmux_stream_finish_batch_at`. -/
def streamFinishBatchAt (e : Engine K) (s : ℕ) (now : ℤ) : Engine K :=
  let x := e.streams s
  if x.internalClosed = true ∨ x.pendingCount = 0 then e
  else if x.state ≠ .opened ∨ (e.connOf s).state ≠ .connected then e
  else if x.config.batchThreshold > 1 ∧ x.pendingCount ≥ x.config.batchThreshold then e
  else
    let e := { e with pendingBatchStreams := e.pendingBatchStreams.erase s }
    let e := e.setStream s { x with
      pendingCount := if x.config.batchThreshold > 1 then x.config.batchThreshold else 0 }
    (engineScheduleTimerNode env e (.stream s) now now).2

/-- `kcpmux_stream_finish_batch`. -/
def streamFinishBatch (e : Engine K) (s : ℕ) : Engine K :=
  streamFinishBatchAt env e.tock s (engineNow env e)

/-! ### Receiving -/

/-- `kcpmux_stream_peek_size`. -/
def streamPeekSize (e : Engine K) (s : ℕ) : ℤ × Engine K :=
  let x := e.streams s
  if x.internalClosed then (-errClosed, e)
  else if x.state ≠ .opened ∧ ¬ (x.state = .closing ∧ x.closePhase = .remoteDrain) then
    (-errState, e)
  else
    let r := kcpPeeksize env e s
    (if r.1 > 0 then r.1 else 0, r.2)

/-- What `kcpmux_stream_recv` does when it has consumed the last complete message. -/
def streamRecvDrained (e : Engine K) (s : ℕ) : Engine K :=
  let now := engineNow env e
  let e := e.tock
  if (e.streams s).state = .closing ∧ (e.streams s).closePhase = .remoteDrain then
    streamScheduleFinalize env e s (e.streams s).closeReason now
  else if (e.streams s).state = .opened then streamMarkReadBlocked e s now
  else e

/-- `kcpmux_stream_recv`: the result, the bytes left in the caller's buffer, and the
engine. -/
def streamRecv (e : Engine K) (s size : ℕ) : ℤ × Bytes × Engine K :=
  if size = 0 then (-errInvalidParam, [], e)
  else
    let e := { e with stats := { e.stats with apiStreamRecvCalls := e.stats.apiStreamRecvCalls + 1 } }
    let p := streamPeekSize env e s
    let e := p.2
    if p.1 < 0 then (p.1, [], e)
    else if p.1 > size then (-errBufferTooSmall, [], e)
    else if p.1 = 0 then (0, [], streamMarkReadBlocked e.tock s (engineNow env e))
    else
      let r := kcpRecv env e s p.1
      let e := r.2.2
      if r.1 < 0 then (-errKcpRet r.1, [], e)
      else
        let x := e.streams s
        let e := e.setStream s { x with stats := { x.stats with
          upRecvBytes := x.stats.upRecvBytes + r.1.toNat } }
        let q := kcpPeeksize env e s
        let e := q.2
        (r.1, r.2.1, if q.1 ≤ 0 then streamRecvDrained env e s else e)

end KcpMux
