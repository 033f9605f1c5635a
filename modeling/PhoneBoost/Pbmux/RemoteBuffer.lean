import PhoneBoost.Lib.Chunks
import PhoneBoost.Pbmux.FrameCodec

/-! Requests and results of the remote buffer channel. The data of a PUT and of a
GET may take several frames, all other messages take one. -/

namespace PhoneBoost.Pbmux
open Chunks
open Wire (okOr)

def remoteBufferAllocLen : Nat := 64
def remoteBufferRangePrefixLen : Nat := 64
def remoteBufferHandleLen : Nat := 48
def remoteBufferResultPrefixLen : Nat := 100
def maxPutBody : Nat := maxLogicalMessage - remoteBufferRangePrefixLen
def maxDataBody : Nat := maxLogicalMessage - remoteBufferResultPrefixLen
def remoteBufferDefaultTtlMs : Nat := 300000
def remoteBufferMaxTtlMs : Nat := 1800000

/-- Only the three low bits can be set: `from_bits` is the sole constructor. -/
structure AllocationFlags where
  bits : UInt32
  known : bits &&& ~~~7 = 0
deriving DecidableEq, Repr

def AllocationFlags.fromBits (bits : UInt32) : Option AllocationFlags :=
  if known : bits &&& ~~~7 = 0 then some ⟨bits, known⟩ else none

inductive RemoteBufferRequest where
  | alloc (leaseId workerIncarnationId reservationId : Bytes16) (sizeBytes : UInt64) (allocationFlags : AllocationFlags)
  | put (leaseId workerIncarnationId bufferId : Bytes16) (offset : UInt64) (data : List UInt8)
  | get (leaseId workerIncarnationId bufferId : Bytes16) (offset : UInt64) (length : UInt32)
  | free (leaseId workerIncarnationId bufferId : Bytes16)
  | stat (leaseId workerIncarnationId bufferId : Bytes16)
  | touch (leaseId workerIncarnationId bufferId : Bytes16)
deriving DecidableEq, Repr

namespace RemoteBufferRequest

def leaseId : RemoteBufferRequest → Bytes16
  | .alloc leaseId .. | .put leaseId .. | .get leaseId .. | .free leaseId .. | .stat leaseId .. | .touch leaseId .. =>
    leaseId

def workerIncarnationId : RemoteBufferRequest → Bytes16
  | .alloc _ incarnation .. | .put _ incarnation .. | .get _ incarnation .. | .free _ incarnation _
  | .stat _ incarnation _ | .touch _ incarnation _ => incarnation

end RemoteBufferRequest

inductive BufferReason where
  | none | staleControllerLease | bufferNotFound | bufferNotOwned | bufferWrongIncarnation | bufferInvalidState
  | bufferLost | bufferFreed | bufferEvicted | bufferRangeInvalid | bufferRangeBusy | payloadTooLarge
  | resourceExhausted | reservationInvalid | unsupportedMessage | internalError
deriving DecidableEq, Repr

namespace BufferReason

def code : BufferReason → UInt16
  | .none => 0
  | .staleControllerLease => 1
  | .bufferNotFound => 2
  | .bufferNotOwned => 3
  | .bufferWrongIncarnation => 4
  | .bufferInvalidState => 5
  | .bufferLost => 6
  | .bufferFreed => 7
  | .bufferEvicted => 8
  | .bufferRangeInvalid => 9
  | .bufferRangeBusy => 10
  | .payloadTooLarge => 11
  | .resourceExhausted => 12
  | .reservationInvalid => 13
  | .unsupportedMessage => 14
  | .internalError => 15

def tryFrom (value : UInt16) : Option BufferReason :=
  if value = 0 then some .none
  else if value = 1 then some .staleControllerLease
  else if value = 2 then some .bufferNotFound
  else if value = 3 then some .bufferNotOwned
  else if value = 4 then some .bufferWrongIncarnation
  else if value = 5 then some .bufferInvalidState
  else if value = 6 then some .bufferLost
  else if value = 7 then some .bufferFreed
  else if value = 8 then some .bufferEvicted
  else if value = 9 then some .bufferRangeInvalid
  else if value = 10 then some .bufferRangeBusy
  else if value = 11 then some .payloadTooLarge
  else if value = 12 then some .resourceExhausted
  else if value = 13 then some .reservationInvalid
  else if value = 14 then some .unsupportedMessage
  else if value = 15 then some .internalError
  else Option.none

end BufferReason

inductive BufferState where
  | allocated | ready | inUse | evicted | lost | freed
deriving DecidableEq, Repr

def BufferState.code : BufferState → UInt8
  | .allocated => 1
  | .ready => 2
  | .inUse => 3
  | .evicted => 4
  | .lost => 5
  | .freed => 6

def BufferState.tryFrom (value : UInt8) : Option BufferState :=
  if value = 1 then some .allocated
  else if value = 2 then some .ready
  else if value = 3 then some .inUse
  else if value = 4 then some .evicted
  else if value = 5 then some .lost
  else if value = 6 then some .freed
  else none

def BufferState.isTerminal : BufferState → Bool
  | .evicted | .lost | .freed => true
  | _ => false

structure BufferResultRef where
  bufferId : Bytes16
  state : BufferState
  allocationFlags : AllocationFlags
  sizeBytes : UInt64
  ttlRemainingMs : UInt32
deriving DecidableEq, Repr

structure BufferResult where
  completed : Bool
  reason : BufferReason
  leaseId : Bytes16
  workerIncarnationId : Bytes16
  buffer : Option BufferResultRef
  reservationId : Option Bytes16
  offset : UInt64
  dataLen : UInt32
  data : List UInt8
deriving DecidableEq, Repr

inductive RemoteBufferResponseKind where
  | allocAck | put | data | free | stat | touch
deriving DecidableEq, Repr

def RemoteBufferResponseKind.messageType : RemoteBufferResponseKind → UInt16
  | .allocAck => 2
  | .put => 3
  | .data => 5
  | .free => 6
  | .stat => 7
  | .touch => 8

def RemoteBufferResponseKind.tryFrom (value : UInt16) : Option RemoteBufferResponseKind :=
  if value = 2 then some .allocAck
  else if value = 3 then some .put
  else if value = 5 then some .data
  else if value = 6 then some .free
  else if value = 7 then some .stat
  else if value = 8 then some .touch
  else none

def invalidRemoteBuffer : PbmuxError := .logical .invalidRemoteBufferPayload

/-- One fragment of a logical payload of `total` bytes that takes `count` frames.
Both directions cut a payload alike; `ack` is the flag that only requests carry. -/
def fragment (messageType ack : UInt16) (requestId sequence : UInt64) (total count index : Nat) (chunk : List UInt8) :
    Frame where
  header := {
    channel := .remoteBuffer
    flags :=
      if count = 1 then flagStart ||| flagEnd ||| ack
      else if index = 0 then flagStart ||| ack
      else if index + 1 = count then flagEnd ||| ack
      else ack
    messageType
    requestId
    sequence
    fragmentIndex := UInt32.ofNat index
    payloadLen := UInt32.ofNat chunk.length
    logicalMessageLen := if index = 0 then UInt32.ofNat total else 0 }
  payload := chunk

/-- Numbering past the last sequence number fails. -/
def fragmentsFrom (messageType ack : UInt16) (requestId firstSequence : UInt64) (total count : Nat) :
    Nat → List (List UInt8) → Except PbmuxError (List Frame)
  | _, [] => .ok []
  | index, chunk :: rest => do
    let sequence ← okOr (checkedAdd firstSequence.toNat index) invalidRemoteBuffer
    let frames ← fragmentsFrom messageType ack requestId firstSequence total count (index + 1) rest
    return fragment messageType ack requestId (UInt64.ofNat sequence) total count index chunk :: frames

def divCeil (a b : Nat) : Nat := (a + b - 1) / b

def fragments (messageType ack : UInt16) (requestId firstSequence : UInt64) (payload : List UInt8) :
    Except PbmuxError (List Frame) :=
  fragmentsFrom messageType ack requestId firstSequence payload.length (divCeil payload.length maxPbmuxPayload) 0
    (chunks maxPbmuxPayload payload)

/-- The type and the payload that one request appends to, before the size check. -/
def requestPayload (request : RemoteBufferRequest) : Except PbmuxError (UInt16 × List UInt8) :=
  let head := request.leaseId.toList ++ request.workerIncarnationId.toList
  match request with
  | .alloc _ _ reservationId sizeBytes allocationFlags =>
    if !nonzero reservationId then .error invalidRemoteBuffer
    else
      .ok (1, head
        ++ reservationId.toList
        ++ toBeBytes 8 sizeBytes.toNat
        ++ toBeBytes 4 allocationFlags.bits.toNat
        ++ [0, 0, 0, 0])
  | .put _ _ bufferId offset data =>
    if !nonzero bufferId || maxPutBody < data.length then .error invalidRemoteBuffer
    else
      .ok (3, head
        ++ bufferId.toList
        ++ toBeBytes 8 offset.toNat
        ++ toBeBytes 4 (UInt32.ofNat data.length).toNat
        ++ [0, 0, 0, 0]
        ++ data)
  | .get _ _ bufferId offset length =>
    if !nonzero bufferId then .error invalidRemoteBuffer
    else
      .ok (4, head
        ++ bufferId.toList
        ++ toBeBytes 8 offset.toNat
        ++ toBeBytes 4 length.toNat
        ++ [0, 0, 0, 0])
  | .free _ _ bufferId => if !nonzero bufferId then .error invalidRemoteBuffer else .ok (6, head ++ bufferId.toList)
  | .stat _ _ bufferId => if !nonzero bufferId then .error invalidRemoteBuffer else .ok (7, head ++ bufferId.toList)
  | .touch _ _ bufferId => if !nonzero bufferId then .error invalidRemoteBuffer else .ok (8, head ++ bufferId.toList)

def encodeRequest (request : RemoteBufferRequest) : Except PbmuxError (UInt16 × List UInt8) := do
  let (messageType, payload) ← requestPayload request
  if maxLogicalMessage < payload.length then .error invalidRemoteBuffer else return (messageType, payload)

def buildRemoteBufferRequestFrames (request : RemoteBufferRequest) (requestId firstSequence : UInt64) :
    Except PbmuxError (List Frame) :=
  if requestId = 0 || !nonzero request.leaseId || !nonzero request.workerIncarnationId then .error invalidRemoteBuffer
  else do
    let (messageType, payload) ← encodeRequest request
    if 1 < divCeil payload.length maxPbmuxPayload && messageType ≠ 3 then .error invalidRemoteBuffer
    else fragments messageType flagAckRequired requestId firstSequence payload

/-- The rules for one fragment of a message that may take several frames. -/
def fragmentRules (ack : UInt16) (header : Header) : Except PbmuxError Unit :=
  let start := header.flags &&& flagStart != 0
  let last := header.flags &&& flagEnd != 0
  if start && last then
    if header.flags ≠ flagStart ||| flagEnd ||| ack || header.fragmentIndex ≠ 0
        || header.logicalMessageLen ≠ header.payloadLen then .error invalidRemoteBuffer
    else .ok ()
  else if start then
    if header.flags ≠ flagStart ||| ack || header.fragmentIndex ≠ 0
        || maxLogicalMessage < header.logicalMessageLen.toNat
        || header.logicalMessageLen ≤ header.payloadLen then .error invalidRemoteBuffer
    else .ok ()
  else if last then
    if header.flags ≠ flagEnd ||| ack || header.fragmentIndex = 0 || header.logicalMessageLen ≠ 0 then
      .error invalidRemoteBuffer
    else .ok ()
  else if header.flags ≠ ack || header.fragmentIndex = 0 || header.logicalMessageLen ≠ 0 then .error invalidRemoteBuffer
  else .ok ()

/-- The payload length of the request types that take one frame. -/
def fixedRequestLen (messageType : UInt16) : Option Nat :=
  if messageType = 1 || messageType = 4 then some remoteBufferAllocLen
  else if messageType = 6 || messageType = 7 || messageType = 8 then some remoteBufferHandleLen
  else none

def validateRemoteBufferRequestFragment (frame : Frame) : Except PbmuxError Unit :=
  if frame.header.channel ≠ .remoteBuffer || frame.header.requestId = 0 then .error invalidRemoteBuffer
  else if frame.header.messageType ≠ 3 then do
    let expected ← okOr (fixedRequestLen frame.header.messageType) invalidRemoteBuffer
    if !singleProfile .remoteBuffer (flagStart ||| flagEnd ||| flagAckRequired) expected frame then
      .error invalidRemoteBuffer
    else return ()
  else if frame.header.flags &&& flagAckRequired = 0 then .error invalidRemoteBuffer
  else fragmentRules flagAckRequired frame.header

def parseRemoteBufferRequestPayload (messageType : UInt16) (payload : List UInt8) :
    Except PbmuxError RemoteBufferRequest :=
  let expected :=
    if messageType = 3 then
      if payload.length < remoteBufferRangePrefixLen || maxLogicalMessage < payload.length then none
      else some payload.length
    else fixedRequestLen messageType
  if expected ≠ some payload.length then .error invalidRemoteBuffer
  else
    let leaseId := array 16 payload 0
    let workerIncarnationId := array 16 payload 16
    let objectId := array 16 payload 32
    if !nonzero leaseId || !nonzero workerIncarnationId || !nonzero objectId then .error invalidRemoteBuffer
    else if messageType = 1 then
      if slice payload 60 64 ≠ [0, 0, 0, 0] then .error invalidRemoteBuffer
      else do
        let allocationFlags ← okOr (AllocationFlags.fromBits (readU32 payload 56)) invalidRemoteBuffer
        return .alloc leaseId workerIncarnationId objectId (readU64 payload 48) allocationFlags
    else if messageType = 3 then
      if slice payload 60 64 ≠ [0, 0, 0, 0] then .error invalidRemoteBuffer
      else
        let dataLen := (readU32 payload 56).toNat
        if dataLen ≠ payload.length - remoteBufferRangePrefixLen || maxPutBody < dataLen then .error invalidRemoteBuffer
        else
          .ok (.put leaseId workerIncarnationId objectId (readU64 payload 48) (payload.drop remoteBufferRangePrefixLen))
    else if messageType = 4 then
      if slice payload 60 64 ≠ [0, 0, 0, 0] then .error invalidRemoteBuffer
      else .ok (.get leaseId workerIncarnationId objectId (readU64 payload 48) (readU32 payload 56))
    else if messageType = 6 then .ok (.free leaseId workerIncarnationId objectId)
    else if messageType = 7 then .ok (.stat leaseId workerIncarnationId objectId)
    else if messageType = 8 then .ok (.touch leaseId workerIncarnationId objectId)
    else .error invalidRemoteBuffer

def invalidBufferRef (buffer : BufferResultRef) : Bool :=
  !nonzero buffer.bufferId || buffer.sizeBytes = 0
    || (if buffer.state.isTerminal then buffer.ttlRemainingMs ≠ 0
      else buffer.ttlRemainingMs = 0 || remoteBufferMaxTtlMs < buffer.ttlRemainingMs.toNat)

/-- A result that touches no bytes. -/
def noRange (result : BufferResult) : Bool := result.offset = 0 && result.dataLen = 0 && result.data.isEmpty

/-- The result matrix of a completed request, one row for each kind. -/
def completedMatrix (kind : RemoteBufferResponseKind) (result : BufferResult) (buffer : BufferResultRef) : Bool :=
  match kind with
  | .allocAck =>
    buffer.state = .allocated && result.reservationId.isSome && noRange result
      && buffer.ttlRemainingMs.toNat ≤ remoteBufferDefaultTtlMs
  | .put =>
    (buffer.state = .allocated || buffer.state = .ready) && result.reservationId.isNone && result.dataLen ≠ 0
      && result.data.isEmpty
  | .data =>
    buffer.state = .ready && result.reservationId.isNone && result.dataLen.toNat = result.data.length
      && result.data.length ≤ maxDataBody
  | .free => buffer.state = .freed && result.reservationId.isNone && noRange result
  | .stat => !buffer.state.isTerminal && result.reservationId.isSome && noRange result
  | .touch => !buffer.state.isTerminal && result.reservationId.isNone && noRange result

def validateBufferResult (kind : RemoteBufferResponseKind) (result : BufferResult) : Except PbmuxError Unit :=
  if !nonzero result.leaseId || !nonzero result.workerIncarnationId then .error invalidRemoteBuffer
  else if result.completed != (result.reason == .none) then .error invalidRemoteBuffer
  else if result.buffer.any invalidBufferRef then .error invalidRemoteBuffer
  else if result.reservationId.any (!nonzero ·) then .error invalidRemoteBuffer
  else if !result.completed then
    if !noRange result || result.reservationId.isSome then .error invalidRemoteBuffer else .ok ()
  else
    match result.buffer with
    | none => .error invalidRemoteBuffer
    | some buffer => if completedMatrix kind result buffer then .ok () else .error invalidRemoteBuffer

def encodeBufferResult (kind : RemoteBufferResponseKind) (result : BufferResult) : Except PbmuxError (List UInt8) := do
  validateBufferResult kind result
  return ([if result.completed then 2 else 3, if result.buffer.isSome then 1 else 0]
    ++ toBeBytes 2 result.reason.code.toNat
    ++ result.leaseId.toList
    ++ result.workerIncarnationId.toList
    ++ (result.buffer.elim (Vector.replicate 16 0) BufferResultRef.bufferId).toList
    ++ [if result.reservationId.isSome then 1 else 0]
    ++ (result.reservationId.getD (Vector.replicate 16 0)).toList
    ++ [result.buffer.elim 0 (·.state.code)]
    ++ [0, 0]
    ++ toBeBytes 4 (result.buffer.elim 0 (·.allocationFlags.bits)).toNat
    ++ toBeBytes 8 (result.buffer.elim 0 BufferResultRef.sizeBytes).toNat
    ++ toBeBytes 8 result.offset.toNat
    ++ toBeBytes 4 result.dataLen.toNat
    ++ toBeBytes 4 (result.buffer.elim 0 BufferResultRef.ttlRemainingMs).toNat
    ++ result.data)

def buildRemoteBufferResultFrames (kind : RemoteBufferResponseKind) (result : BufferResult)
    (requestId firstSequence : UInt64) : Except PbmuxError (List Frame) :=
  if requestId = 0 then .error invalidRemoteBuffer
  else do
    let payload ← encodeBufferResult kind result
    if maxLogicalMessage < payload.length || (maxPbmuxPayload < payload.length && kind ≠ .data) then
      .error invalidRemoteBuffer
    else fragments kind.messageType 0 requestId firstSequence payload

def validateRemoteBufferResultFragment (frame : Frame) : Except PbmuxError Unit :=
  if frame.header.channel ≠ .remoteBuffer || frame.header.requestId = 0
      || (RemoteBufferResponseKind.tryFrom frame.header.messageType).isNone then .error invalidRemoteBuffer
  else if frame.header.messageType ≠ 5 then
    if !singleProfile .remoteBuffer (flagStart ||| flagEnd) remoteBufferResultPrefixLen frame then
      .error invalidRemoteBuffer
    else .ok ()
  else if frame.header.flags &&& flagAckRequired ≠ 0 then .error invalidRemoteBuffer
  else fragmentRules 0 frame.header

def parseBufferRef (bytes : List UInt8) : Except PbmuxError (Option BufferResultRef) :=
  if bytes.getD 1 0 = 0 then
    if slice bytes 36 52 ≠ List.replicate 16 0 || bytes.getD 69 0 ≠ 0 || readU32 bytes 72 ≠ 0
        || readU64 bytes 76 ≠ 0 || readU32 bytes 96 ≠ 0 then .error invalidRemoteBuffer
    else .ok none
  else do
    let state ← okOr (BufferState.tryFrom (bytes.getD 69 0)) invalidRemoteBuffer
    let allocationFlags ← okOr (AllocationFlags.fromBits (readU32 bytes 72)) invalidRemoteBuffer
    return some {
      bufferId := array 16 bytes 36
      state
      allocationFlags
      sizeBytes := readU64 bytes 76
      ttlRemainingMs := readU32 bytes 96 }

def parseReservationId (bytes : List UInt8) : Except PbmuxError (Option Bytes16) :=
  if bytes.getD 52 0 = 0 then
    if slice bytes 53 69 ≠ List.replicate 16 0 then .error invalidRemoteBuffer else .ok none
  else .ok (some (array 16 bytes 53))

def completedCode (value : UInt8) : Option Bool :=
  if value = 2 then some true
  else if value = 3 then some false
  else none

def parseRemoteBufferResultPayload (kind : RemoteBufferResponseKind) (bytes : List UInt8) :
    Except PbmuxError BufferResult :=
  if bytes.length < remoteBufferResultPrefixLen || maxLogicalMessage < bytes.length || 1 < bytes.getD 1 0
      || 1 < bytes.getD 52 0 || slice bytes 70 72 ≠ [0, 0] then .error invalidRemoteBuffer
  else do
    let completed ← okOr (completedCode (bytes.getD 0 0)) invalidRemoteBuffer
    let reason ← okOr (BufferReason.tryFrom (readU16 bytes 2)) invalidRemoteBuffer
    let dataLen := (readU32 bytes 92).toNat
    let bodyLen := bytes.length - remoteBufferResultPrefixLen
    if (kind = .data && dataLen ≠ bodyLen) || (kind ≠ .data && bodyLen ≠ 0) then .error invalidRemoteBuffer
    else
      let buffer ← parseBufferRef bytes
      let reservationId ← parseReservationId bytes
      let result : BufferResult := {
        completed
        reason
        leaseId := array 16 bytes 4
        workerIncarnationId := array 16 bytes 20
        buffer
        reservationId
        offset := readU64 bytes 84
        dataLen := readU32 bytes 92
        data := bytes.drop remoteBufferResultPrefixLen }
      validateBufferResult kind result
      return result

end PhoneBoost.Pbmux
