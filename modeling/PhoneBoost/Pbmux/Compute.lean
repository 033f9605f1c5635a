import PhoneBoost.Pbmux.FrameCodec

/-! Requests and responses of the compute channel. -/

namespace PhoneBoost.Pbmux
open Wire (okOr)

def computeSubmitLen : Nat := 84
def computeJobRequestLen : Nat := 48
def computeStatusLen : Nat := 56
def computeResultLen : Nat := 88
def maxComputeInputBytes : Nat := 128 * 1024 * 1024
def blake3ProviderId : UInt8 := 1
def blake3ProviderVersion : UInt8 := 1
def remoteBufferInputKind : UInt8 := 1

structure ComputeSubmit where
  leaseId : Bytes16
  workerIncarnationId : Bytes16
  reservationId : Bytes16
  providerId : UInt8
  providerVersion : UInt8
  inputKind : UInt8
  bufferId : Bytes16
  inputOffset : UInt64
  inputLength : UInt64
deriving DecidableEq, Repr

structure ComputeJobRequest where
  leaseId : Bytes16
  workerIncarnationId : Bytes16
  jobId : Bytes16
deriving DecidableEq, Repr

inductive ComputeRequest where
  | submit (request : ComputeSubmit)
  | status (request : ComputeJobRequest)
  | cancel (request : ComputeJobRequest)
deriving DecidableEq, Repr

namespace ComputeRequest

def leaseId : ComputeRequest → Bytes16
  | .submit request => request.leaseId
  | .status request | .cancel request => request.leaseId

def workerIncarnationId : ComputeRequest → Bytes16
  | .submit request => request.workerIncarnationId
  | .status request | .cancel request => request.workerIncarnationId

end ComputeRequest

inductive ComputeJobState where
  | invalid | accepted | running | completed | failed | cancelled
deriving DecidableEq, Repr

def ComputeJobState.code : ComputeJobState → UInt8
  | .invalid => 0
  | .accepted => 1
  | .running => 2
  | .completed => 3
  | .failed => 4
  | .cancelled => 5

def ComputeJobState.tryFrom (value : UInt8) : Option ComputeJobState :=
  if value = 0 then some .invalid
  else if value = 1 then some .accepted
  else if value = 2 then some .running
  else if value = 3 then some .completed
  else if value = 4 then some .failed
  else if value = 5 then some .cancelled
  else none

def ComputeJobState.isTerminal : ComputeJobState → Bool
  | .completed | .failed | .cancelled => true
  | _ => false

inductive ComputeReason where
  | none | staleControllerLease | wrongWorkerIncarnation | unsupportedProvider | invalidInput | bufferNotFound
  | bufferNotOwned | bufferWrongIncarnation | bufferInvalidState | bufferLost | bufferFreed | bufferEvicted
  | inputTooLarge | reservationInvalid | resourceExhausted | requestIdConflict | idempotenceTableFull | jobNotFound
  | jobNotOwned | jobNotCancellable | providerTimeout | providerFailed | sessionLost | unsupportedMessage
  | internalError
deriving DecidableEq, Repr

namespace ComputeReason

def code : ComputeReason → UInt16
  | .none => 0
  | .staleControllerLease => 1
  | .wrongWorkerIncarnation => 2
  | .unsupportedProvider => 3
  | .invalidInput => 4
  | .bufferNotFound => 5
  | .bufferNotOwned => 6
  | .bufferWrongIncarnation => 7
  | .bufferInvalidState => 8
  | .bufferLost => 9
  | .bufferFreed => 10
  | .bufferEvicted => 11
  | .inputTooLarge => 12
  | .reservationInvalid => 13
  | .resourceExhausted => 14
  | .requestIdConflict => 15
  | .idempotenceTableFull => 16
  | .jobNotFound => 17
  | .jobNotOwned => 18
  | .jobNotCancellable => 19
  | .providerTimeout => 20
  | .providerFailed => 21
  | .sessionLost => 22
  | .unsupportedMessage => 23
  | .internalError => 24

def tryFrom (value : UInt16) : Option ComputeReason :=
  if value = 0 then some .none
  else if value = 1 then some .staleControllerLease
  else if value = 2 then some .wrongWorkerIncarnation
  else if value = 3 then some .unsupportedProvider
  else if value = 4 then some .invalidInput
  else if value = 5 then some .bufferNotFound
  else if value = 6 then some .bufferNotOwned
  else if value = 7 then some .bufferWrongIncarnation
  else if value = 8 then some .bufferInvalidState
  else if value = 9 then some .bufferLost
  else if value = 10 then some .bufferFreed
  else if value = 11 then some .bufferEvicted
  else if value = 12 then some .inputTooLarge
  else if value = 13 then some .reservationInvalid
  else if value = 14 then some .resourceExhausted
  else if value = 15 then some .requestIdConflict
  else if value = 16 then some .idempotenceTableFull
  else if value = 17 then some .jobNotFound
  else if value = 18 then some .jobNotOwned
  else if value = 19 then some .jobNotCancellable
  else if value = 20 then some .providerTimeout
  else if value = 21 then some .providerFailed
  else if value = 22 then some .sessionLost
  else if value = 23 then some .unsupportedMessage
  else if value = 24 then some .internalError
  else Option.none

end ComputeReason

structure ComputeJobRef where
  jobId : Bytes16
  providerId : UInt8
  providerVersion : UInt8
deriving DecidableEq, Repr

structure ComputeStatus where
  state : ComputeJobState
  reason : ComputeReason
  leaseId : Bytes16
  workerIncarnationId : Bytes16
  job : Option ComputeJobRef
deriving DecidableEq, Repr

structure ComputeResult where
  state : ComputeJobState
  reason : ComputeReason
  leaseId : Bytes16
  workerIncarnationId : Bytes16
  job : Option ComputeJobRef
  digest : Option Bytes32
deriving DecidableEq, Repr

inductive ComputeResponse where
  | status (status : ComputeStatus)
  | result (result : ComputeResult)
  | cancel (status : ComputeStatus)
deriving DecidableEq, Repr

def invalidCompute : PbmuxError := .logical .invalidComputePayload

def requestProfile (frame : Frame) (expectedLen : Nat) : Bool :=
  singleProfile .compute (flagStart ||| flagEnd ||| flagAckRequired) expectedLen frame && frame.header.requestId ≠ 0

def responseProfile (frame : Frame) (expectedLen : Nat) : Bool :=
  singleProfile .compute (flagStart ||| flagEnd) expectedLen frame && frame.header.requestId ≠ 0

def invalidSubmit (request : ComputeSubmit) : Bool :=
  !nonzero request.leaseId || !nonzero request.workerIncarnationId || !nonzero request.reservationId
    || !nonzero request.bufferId

def invalidJobRequest (request : ComputeJobRequest) : Bool :=
  !nonzero request.leaseId || !nonzero request.workerIncarnationId || !nonzero request.jobId

def encodeComputeRequest : ComputeRequest → Except PbmuxError (UInt16 × List UInt8)
  | .submit request =>
    if invalidSubmit request then .error invalidCompute
    else
      .ok (1, request.leaseId.toList
        ++ request.workerIncarnationId.toList
        ++ request.reservationId.toList
        ++ [request.providerId, request.providerVersion, request.inputKind, 0]
        ++ request.bufferId.toList
        ++ toBeBytes 8 request.inputOffset.toNat
        ++ toBeBytes 8 request.inputLength.toNat)
  | .status request =>
    if invalidJobRequest request then .error invalidCompute
    else .ok (2, request.leaseId.toList ++ request.workerIncarnationId.toList ++ request.jobId.toList)
  | .cancel request =>
    if invalidJobRequest request then .error invalidCompute
    else .ok (4, request.leaseId.toList ++ request.workerIncarnationId.toList ++ request.jobId.toList)

def buildComputeRequestFrame (request : ComputeRequest) (requestId sequence : UInt64) : Except PbmuxError Frame :=
  if requestId = 0 then .error invalidCompute
  else do
    let (messageType, payload) ← encodeComputeRequest request
    return ⟨singleHeader .compute (flagStart ||| flagEnd ||| flagAckRequired) messageType requestId sequence payload.length,
      payload⟩

def parseComputeRequestFrame (frame : Frame) : Except PbmuxError ComputeRequest :=
  if frame.header.messageType = 1 then
    if !requestProfile frame computeSubmitLen || frame.payload.getD 51 0 ≠ 0 then .error invalidCompute
    else
      let request : ComputeSubmit := {
        leaseId := array 16 frame.payload 0
        workerIncarnationId := array 16 frame.payload 16
        reservationId := array 16 frame.payload 32
        providerId := frame.payload.getD 48 0
        providerVersion := frame.payload.getD 49 0
        inputKind := frame.payload.getD 50 0
        bufferId := array 16 frame.payload 52
        inputOffset := readU64 frame.payload 68
        inputLength := readU64 frame.payload 76 }
      if invalidSubmit request then .error invalidCompute else .ok (.submit request)
  else if frame.header.messageType = 2 || frame.header.messageType = 4 then
    if !requestProfile frame computeJobRequestLen then .error invalidCompute
    else
      let request : ComputeJobRequest := {
        leaseId := array 16 frame.payload 0
        workerIncarnationId := array 16 frame.payload 16
        jobId := array 16 frame.payload 32 }
      if invalidJobRequest request then .error invalidCompute
      else if frame.header.messageType = 2 then .ok (.status request)
      else .ok (.cancel request)
  else .error invalidCompute

def validAbsentLookupReason : ComputeReason → Bool
  | .staleControllerLease | .wrongWorkerIncarnation | .jobNotFound | .jobNotOwned | .unsupportedMessage
  | .internalError => true
  | _ => false

def invalidJobRef (job : ComputeJobRef) : Bool :=
  !nonzero job.jobId || (job.providerId, job.providerVersion) ≠ (blake3ProviderId, blake3ProviderVersion)

def validateStatus (status : ComputeStatus) (cancel : Bool) : Except PbmuxError Unit :=
  if !nonzero status.leaseId || !nonzero status.workerIncarnationId then .error invalidCompute
  else
    match status.job with
    | none =>
      if status.state ≠ .invalid || !validAbsentLookupReason status.reason then .error invalidCompute else .ok ()
    | some job =>
      let valid : Bool :=
        if cancel then
          (status.state = .cancelled && status.reason = .none)
            || (status.state.isTerminal && status.reason = .jobNotCancellable)
        else (status.state = .accepted || status.state = .running) && status.reason = .none
      if invalidJobRef job then .error invalidCompute
      else if !valid then .error invalidCompute
      else .ok ()

def validAdmissionReason : ComputeReason → Bool
  | .staleControllerLease | .wrongWorkerIncarnation | .unsupportedProvider | .invalidInput | .bufferNotFound
  | .bufferNotOwned | .bufferWrongIncarnation | .bufferInvalidState | .bufferLost | .bufferFreed | .bufferEvicted
  | .inputTooLarge | .reservationInvalid | .resourceExhausted | .requestIdConflict | .idempotenceTableFull
  | .unsupportedMessage | .internalError => true
  | _ => false

def validFailureReason : ComputeReason → Bool
  | .bufferInvalidState | .bufferLost | .bufferFreed | .bufferEvicted | .resourceExhausted | .providerTimeout
  | .providerFailed | .sessionLost | .internalError => true
  | _ => false

def validateComputeResult (result : ComputeResult) : Except PbmuxError Unit :=
  if !nonzero result.leaseId || !nonzero result.workerIncarnationId then .error invalidCompute
  else
    match result.job with
    | none =>
      if result.state ≠ .invalid || !validAdmissionReason result.reason || result.digest.isSome then .error invalidCompute
      else .ok ()
    | some job =>
      let valid : Bool :=
        match result.state with
        | .completed => result.reason = .none && result.digest.isSome
        | .failed => validFailureReason result.reason && result.digest.isNone
        | .cancelled => (result.reason = .none || result.reason = .sessionLost) && result.digest.isNone
        | _ => false
      if invalidJobRef job then .error invalidCompute
      else if !valid then .error invalidCompute
      else .ok ()

def encodeStatus (status : ComputeStatus) (cancel : Bool) : Except PbmuxError (List UInt8) := do
  validateStatus status cancel
  return ([status.state.code, if status.job.isSome then 1 else 0]
    ++ toBeBytes 2 status.reason.code.toNat
    ++ status.leaseId.toList
    ++ status.workerIncarnationId.toList
    ++ (match status.job with
      | some job => job.jobId.toList ++ [job.providerId, job.providerVersion]
      | none => List.replicate 18 0)
    ++ [0, 0])

def encodeComputeResult (result : ComputeResult) : Except PbmuxError (List UInt8) := do
  validateComputeResult result
  return ([result.state.code, if result.job.isSome then 1 else 0]
    ++ toBeBytes 2 result.reason.code.toNat
    ++ [if result.digest.isSome then 1 else 0]
    ++ (match result.job with
      | some job => [job.providerId, job.providerVersion]
      | none => [0, 0])
    ++ [0]
    ++ result.leaseId.toList
    ++ result.workerIncarnationId.toList
    ++ (result.job.elim (Vector.replicate 16 0) ComputeJobRef.jobId).toList
    ++ (result.digest.getD (Vector.replicate 32 0)).toList)

def encodeComputeResponse : ComputeResponse → Except PbmuxError (UInt16 × List UInt8)
  | .status status => do return (2, ← encodeStatus status false)
  | .result result => do return (3, ← encodeComputeResult result)
  | .cancel status => do return (4, ← encodeStatus status true)

def buildComputeResponseFrame (response : ComputeResponse) (requestId sequence : UInt64) : Except PbmuxError Frame :=
  if requestId = 0 then .error invalidCompute
  else do
    let (messageType, payload) ← encodeComputeResponse response
    return ⟨singleHeader .compute (flagStart ||| flagEnd) messageType requestId sequence payload.length, payload⟩

def decodeJobRef (payload : List UInt8) (present : UInt8) (offset : Nat) : Except PbmuxError (Option ComputeJobRef) :=
  let job : ComputeJobRef :=
    ⟨array 16 payload offset, payload.getD (offset + 16) 0, payload.getD (offset + 17) 0⟩
  if 1 < present then .error invalidCompute
  else if present = 0 then
    if job.jobId ≠ Vector.replicate 16 0 || job.providerId ≠ 0 || job.providerVersion ≠ 0 then .error invalidCompute
    else .ok none
  else .ok (some job)

def parseStatusPayload (cancel : Bool) (payload : List UInt8) : Except PbmuxError ComputeStatus :=
  if slice payload 54 56 ≠ [0, 0] then .error invalidCompute
  else do
    let state ← okOr (ComputeJobState.tryFrom (payload.getD 0 0)) invalidCompute
    let reason ← okOr (ComputeReason.tryFrom (readU16 payload 2)) invalidCompute
    let job ← decodeJobRef payload (payload.getD 1 0) 36
    let status : ComputeStatus := {
      state
      reason
      leaseId := array 16 payload 4
      workerIncarnationId := array 16 payload 20
      job }
    validateStatus status cancel
    return status

/-- The result keeps the provider of its job apart from the job identifier. -/
def decodeResultJob (payload : List UInt8) : Except PbmuxError (Option ComputeJobRef) :=
  let job : ComputeJobRef := ⟨array 16 payload 40, payload.getD 5 0, payload.getD 6 0⟩
  if payload.getD 1 0 = 0 then
    if job.jobId ≠ Vector.replicate 16 0 || job.providerId ≠ 0 || job.providerVersion ≠ 0 then .error invalidCompute
    else .ok none
  else if payload.getD 1 0 = 1 then .ok (some job)
  else .error invalidCompute

def decodeDigest (payload : List UInt8) : Except PbmuxError (Option Bytes32) :=
  let digest := array 32 payload 56
  if payload.getD 4 0 = 0 then
    if digest ≠ Vector.replicate 32 0 then .error invalidCompute else .ok none
  else .ok (some digest)

def parseResultPayload (payload : List UInt8) : Except PbmuxError ComputeResult :=
  if payload.getD 7 0 ≠ 0 || 1 < payload.getD 4 0 then .error invalidCompute
  else do
    let job ← decodeResultJob payload
    let digest ← decodeDigest payload
    let state ← okOr (ComputeJobState.tryFrom (payload.getD 0 0)) invalidCompute
    let reason ← okOr (ComputeReason.tryFrom (readU16 payload 2)) invalidCompute
    let result : ComputeResult := {
      state
      reason
      leaseId := array 16 payload 8
      workerIncarnationId := array 16 payload 24
      job
      digest }
    validateComputeResult result
    return result

def parseComputeResponseFrame (frame : Frame) : Except PbmuxError ComputeResponse :=
  if frame.header.messageType = 2 || frame.header.messageType = 4 then
    if !responseProfile frame computeStatusLen then .error invalidCompute
    else do
      let cancel : Bool := frame.header.messageType = 4
      let status ← parseStatusPayload cancel frame.payload
      return if cancel then .cancel status else .status status
  else if frame.header.messageType = 3 then
    if !responseProfile frame computeResultLen then .error invalidCompute
    else do return .result (← parseResultPayload frame.payload)
  else .error invalidCompute

end PhoneBoost.Pbmux
