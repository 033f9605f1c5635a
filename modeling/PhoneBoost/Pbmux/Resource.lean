import PhoneBoost.Pbmux.FrameCodec

/-! The resource channel: requests, their results and the notice that a
reservation expired. -/

namespace PhoneBoost.Pbmux
open Wire (okOr)

def resourceRequestLen : Nat := 48
def resourceResultLen : Nat := 72
def resourceReservationTtlMs : Nat := 30000
def resourceMaxBytes : Nat := 128 * 1024 * 1024
def nativeOpScratchMaxBytes : Nat := 8 * 1024 * 1024

inductive ResourceClass where
  | remoteBufferBytes | nativeOpScratchBytes
deriving DecidableEq, Repr

namespace ResourceClass

def code : ResourceClass → UInt8
  | .remoteBufferBytes => 1
  | .nativeOpScratchBytes => 2

def maxBytes : ResourceClass → Nat
  | .remoteBufferBytes => resourceMaxBytes
  | .nativeOpScratchBytes => nativeOpScratchMaxBytes

def tryFrom (value : UInt8) : Option ResourceClass :=
  if value = 1 then some .remoteBufferBytes
  else if value = 2 then some .nativeOpScratchBytes
  else none

end ResourceClass

inductive ResourceRequest where
  | reserve (leaseId workerIncarnationId : Bytes16) (resourceClass : ResourceClass) (requestedBytes : UInt64)
  | commit (leaseId workerIncarnationId reservationId : Bytes16)
  | release (leaseId workerIncarnationId reservationId : Bytes16)
deriving DecidableEq, Repr

namespace ResourceRequest

def leaseId : ResourceRequest → Bytes16
  | .reserve leaseId .. | .commit leaseId .. | .release leaseId .. => leaseId

def workerIncarnationId : ResourceRequest → Bytes16
  | .reserve _ incarnation .. | .commit _ incarnation _ | .release _ incarnation _ => incarnation

end ResourceRequest

inductive ResourceResultState where
  | completed | failed
deriving DecidableEq, Repr

def ResourceResultState.code : ResourceResultState → UInt8
  | .completed => 2
  | .failed => 3

inductive ResourceReason where
  | none | staleControllerLease | refusedStaleState | resourceExhausted | reservationNotFound
  | reservationNotCommitted | reservationExpired | reservationAlreadyConsumed | commitRefusedSafety
  | requestIdConflict | idempotenceTableFull | unsupportedMessage | internalError
deriving DecidableEq, Repr

def ResourceReason.code : ResourceReason → Nat
  | .none => 0
  | .staleControllerLease => 1
  | .refusedStaleState => 2
  | .resourceExhausted => 3
  | .reservationNotFound => 4
  | .reservationNotCommitted => 5
  | .reservationExpired => 6
  | .reservationAlreadyConsumed => 7
  | .commitRefusedSafety => 8
  | .requestIdConflict => 9
  | .idempotenceTableFull => 10
  | .unsupportedMessage => 11
  | .internalError => 12

def ResourceReason.tryFrom (value : UInt16) : Option ResourceReason :=
  if value = 0 then some .none
  else if value = 1 then some .staleControllerLease
  else if value = 2 then some .refusedStaleState
  else if value = 3 then some .resourceExhausted
  else if value = 4 then some .reservationNotFound
  else if value = 5 then some .reservationNotCommitted
  else if value = 6 then some .reservationExpired
  else if value = 7 then some .reservationAlreadyConsumed
  else if value = 8 then some .commitRefusedSafety
  else if value = 9 then some .requestIdConflict
  else if value = 10 then some .idempotenceTableFull
  else if value = 11 then some .unsupportedMessage
  else if value = 12 then some .internalError
  else Option.none

inductive ReservationState where
  | reserved | committed | consumed | released | expired | refusedSafety | consumedReleased
deriving DecidableEq, Repr

def ReservationState.code : ReservationState → UInt8
  | .reserved => 1
  | .committed => 2
  | .consumed => 3
  | .released => 4
  | .expired => 5
  | .refusedSafety => 6
  | .consumedReleased => 7

def ReservationState.tryFrom (value : UInt8) : Option ReservationState :=
  if value = 1 then some .reserved
  else if value = 2 then some .committed
  else if value = 3 then some .consumed
  else if value = 4 then some .released
  else if value = 5 then some .expired
  else if value = 6 then some .refusedSafety
  else if value = 7 then some .consumedReleased
  else none

/-- Byte counts and times on the wire are `u64` and `u32` fields. -/
structure ReservationResultRef where
  reservationId : Bytes16
  state : ReservationState
  resourceClass : ResourceClass
  grantedBytes : UInt64
  ttlRemainingMs : UInt32
deriving DecidableEq, Repr

structure ResourceResult where
  state : ResourceResultState
  reason : ResourceReason
  leaseId : Bytes16
  workerIncarnationId : Bytes16
  reservation : Option ReservationResultRef
deriving DecidableEq, Repr

inductive ResourceResponseKind where
  | reserveAck | commit | release
deriving DecidableEq, Repr

def ResourceResponseKind.messageType : ResourceResponseKind → UInt16
  | .reserveAck => 2
  | .commit => 3
  | .release => 4

def invalidResource : PbmuxError := .logical .invalidResourcePayload

def fixedRequestProfile (frame : Frame) : Bool :=
  frame.header.channel = .resource
    && (frame.header.messageType = 1 || frame.header.messageType = 3 || frame.header.messageType = 4)
    && frame.header.flags = flagStart ||| flagEnd ||| flagAckRequired
    && frame.header.requestId ≠ 0
    && frame.header.fragmentIndex = 0
    && frame.header.payloadLen = UInt32.ofNat resourceRequestLen
    && frame.header.logicalMessageLen = UInt32.ofNat resourceRequestLen
    && frame.payload.length = resourceRequestLen

/-- The message type and the payload of a request whose two leading identifiers
are checked by the builder. -/
def encodeResourceRequest : ResourceRequest → Except PbmuxError (UInt16 × List UInt8)
  | .reserve leaseId workerIncarnationId resourceClass requestedBytes =>
    if requestedBytes = 0 || resourceClass.maxBytes < requestedBytes.toNat then .error invalidResource
    else
      .ok (1, leaseId.toList
        ++ workerIncarnationId.toList
        ++ [resourceClass.code]
        ++ [0, 0, 0]
        ++ toBeBytes 8 requestedBytes.toNat
        ++ toBeBytes 4 resourceReservationTtlMs)
  | .commit leaseId workerIncarnationId reservationId =>
    if !nonzero reservationId then .error invalidResource
    else .ok (3, leaseId.toList ++ workerIncarnationId.toList ++ reservationId.toList)
  | .release leaseId workerIncarnationId reservationId =>
    if !nonzero reservationId then .error invalidResource
    else .ok (4, leaseId.toList ++ workerIncarnationId.toList ++ reservationId.toList)

def buildResourceRequestFrame (request : ResourceRequest) (requestId sequence : UInt64) : Except PbmuxError Frame :=
  if requestId = 0 || !nonzero request.leaseId || !nonzero request.workerIncarnationId then .error invalidResource
  else do
    let (messageType, payload) ← encodeResourceRequest request
    return ⟨singleHeader .resource (flagStart ||| flagEnd ||| flagAckRequired) messageType requestId sequence
      resourceRequestLen, payload⟩

def parseResourceRequestFrame (frame : Frame) : Except PbmuxError ResourceRequest :=
  if !fixedRequestProfile frame then .error invalidResource
  else
    let payload := frame.payload
    let leaseId := array 16 payload 0
    let workerIncarnationId := array 16 payload 16
    if !nonzero leaseId || !nonzero workerIncarnationId then .error invalidResource
    else if frame.header.messageType = 1 then
      match ResourceClass.tryFrom (payload.getD 32 0) with
      | none => .error invalidResource
      | some resourceClass =>
        if slice payload 33 36 ≠ [0, 0, 0] || slice payload 44 48 ≠ toBeBytes 4 resourceReservationTtlMs then
          .error invalidResource
        else
          let requestedBytes := readU64 payload 36
          if requestedBytes = 0 || resourceClass.maxBytes < requestedBytes.toNat then .error invalidResource
          else .ok (.reserve leaseId workerIncarnationId resourceClass requestedBytes)
    else if frame.header.messageType = 3 || frame.header.messageType = 4 then
      let reservationId := array 16 payload 32
      if !nonzero reservationId then .error invalidResource
      else if frame.header.messageType = 3 then .ok (.commit leaseId workerIncarnationId reservationId)
      else .ok (.release leaseId workerIncarnationId reservationId)
    else .error invalidResource

def ttlValid (reservation : ReservationResultRef) : Bool :=
  match reservation.state with
  | .reserved =>
    1 ≤ reservation.ttlRemainingMs.toNat && reservation.ttlRemainingMs.toNat ≤ resourceReservationTtlMs
  | _ => reservation.ttlRemainingMs = 0

def expectedState : ResourceResponseKind → ReservationState
  | .reserveAck => .reserved
  | .commit => .committed
  | .release => .released

/-- The result checks of `resource.rs`; an accepted result encodes to exactly
one frame. -/
def validateResult (kind : ResourceResponseKind) (result : ResourceResult) : Except PbmuxError Unit :=
  if !nonzero result.leaseId || !nonzero result.workerIncarnationId then .error invalidResource
  else if (result.state == .completed) != (result.reason == .none) then .error invalidResource
  else if result.reservation.any fun reservation =>
      !nonzero reservation.reservationId || reservation.grantedBytes == 0
        || decide (reservation.resourceClass.maxBytes < reservation.grantedBytes.toNat) || !ttlValid reservation then
    .error invalidResource
  else if result.state = .completed ∧ result.reservation.map ReservationResultRef.state ≠ some (expectedState kind) then
    .error invalidResource
  else .ok ()

def encodeResult (kind : ResourceResponseKind) (result : ResourceResult) : Except PbmuxError (List UInt8) :=
  match validateResult kind result with
  | .error error => .error error
  | .ok () =>
    .ok ([result.state.code, if result.reservation.isSome then 1 else 0]
      ++ toBeBytes 2 result.reason.code
      ++ result.leaseId.toList
      ++ result.workerIncarnationId.toList
      ++ (match result.reservation with
        | some reservation =>
          reservation.reservationId.toList
            ++ [reservation.state.code, reservation.resourceClass.code, 0, 0]
            ++ toBeBytes 8 reservation.grantedBytes.toNat
            ++ toBeBytes 4 reservation.ttlRemainingMs.toNat
        | none => List.replicate 32 0)
      ++ [0, 0, 0, 0])

def buildResourceResultFrame (kind : ResourceResponseKind) (result : ResourceResult) (requestId sequence : UInt64) :
    Except PbmuxError Frame :=
  if requestId = 0 then .error invalidResource
  else
    match encodeResult kind result with
    | .error error => .error error
    | .ok payload =>
      .ok {
        header := {
          channel := .resource
          flags := flagStart ||| flagEnd
          messageType := kind.messageType
          requestId
          sequence
          fragmentIndex := 0
          payloadLen := UInt32.ofNat resourceResultLen
          logicalMessageLen := UInt32.ofNat resourceResultLen }
        payload }

def ResourceResponseKind.tryFrom (value : UInt16) : Option ResourceResponseKind :=
  if value = 2 then some .reserveAck
  else if value = 3 then some .commit
  else if value = 4 then some .release
  else none

def ResourceResultState.tryFrom (value : UInt8) : Option ResourceResultState :=
  if value = 2 then some .completed
  else if value = 3 then some .failed
  else none

def parseReservationRef (bytes : List UInt8) : Except PbmuxError (Option ReservationResultRef) :=
  if bytes.getD 1 0 = 0 then
    if slice bytes 36 68 ≠ List.replicate 32 0 then .error invalidResource else .ok none
  else do
    let state ← okOr (ReservationState.tryFrom (bytes.getD 52 0)) invalidResource
    let resourceClass ← okOr (ResourceClass.tryFrom (bytes.getD 53 0)) invalidResource
    return some {
      reservationId := array 16 bytes 36
      state
      resourceClass
      grantedBytes := readU64 bytes 56
      ttlRemainingMs := readU32 bytes 64 }

def parseResourceResultPayload (kind : ResourceResponseKind) (bytes : List UInt8) : Except PbmuxError ResourceResult :=
  if 1 < bytes.getD 1 0 || slice bytes 54 56 ≠ [0, 0] || slice bytes 68 72 ≠ [0, 0, 0, 0] then .error invalidResource
  else do
    let state ← okOr (ResourceResultState.tryFrom (bytes.getD 0 0)) invalidResource
    let reason ← okOr (ResourceReason.tryFrom (readU16 bytes 2)) invalidResource
    let reservation ← parseReservationRef bytes
    let result : ResourceResult := {
      state
      reason
      leaseId := array 16 bytes 4
      workerIncarnationId := array 16 bytes 20
      reservation }
    validateResult kind result
    return result

def parseResourceResultFrame (frame : Frame) : Except PbmuxError (ResourceResponseKind × ResourceResult) := do
  let kind ← okOr (ResourceResponseKind.tryFrom frame.header.messageType) invalidResource
  if !singleProfile .resource (flagStart ||| flagEnd) resourceResultLen frame || frame.header.requestId = 0 then
    .error invalidResource
  else
    let result ← parseResourceResultPayload kind frame.payload
    return (kind, result)

end PhoneBoost.Pbmux
