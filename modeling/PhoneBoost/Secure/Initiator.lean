import PhoneBoost.Pbmux.Compute
import PhoneBoost.Pbmux.Control
import PhoneBoost.Pbmux.RemoteBuffer
import PhoneBoost.Pbmux.Resource
import PhoneBoost.Secure.Runtime

/-! The requests of an initiator. A client queues a request together with the
channel that its answer comes back on; the session builds the frames of one
request at a time and remembers which response may answer it. -/

namespace PhoneBoost.Secure
open Pbmux

def initiatorRequestTimeoutMs : Nat := 35000
def sessionPollMs : Nat := 20
def heartbeatIntervalMs : Nat := 2000
def deviceOfflineTimeoutMs : Nat := 10000

inductive InitiatorClientError where
  | notAuthenticated | busy | invalidRequest | sessionLost | unknownAfterDisconnect | responseMismatch | timeout
deriving DecidableEq, Repr

inductive InitiatorRequest where
  | command (request : CommandPayload)
  | resource (request : ResourceRequest)
  | remoteBuffer (request : RemoteBufferRequest)
  | compute (request : ComputeRequest)

inductive InitiatorResponse where
  | command (ack : AckPayload)
  | resource (result : ResourceResult)
  | remoteBuffer (result : BufferResult)
  | compute (response : ComputeResponse)

/-- `response` names the channel of the waiting client. -/
structure PendingInitiatorRequest where
  requestId : Option UInt64
  request : InitiatorRequest
  response : Nat

/-- A message on the channel of a client. -/
abbrev ClientReply := Nat × Except InitiatorClientError InitiatorResponse

inductive ExpectedInitiatorResponse where
  | command (commandSeq : UInt64)
  | resource (kind : ResourceResponseKind)
  | remoteBuffer (kind : RemoteBufferResponseKind)
  | computeSubmit
  | computeStatus (jobId : Bytes16)
  | computeCancel (jobId : Bytes16)
deriving DecidableEq

structure InitiatorOutstanding where
  requestId : UInt64
  expected : ExpectedInitiatorResponse
  sentAt : Nat
  response : Nat

def resourceKindOf : ResourceRequest → ResourceResponseKind
  | .reserve .. => .reserveAck
  | .commit .. => .commit
  | .release .. => .release

def remoteBufferKindOf : RemoteBufferRequest → RemoteBufferResponseKind
  | .alloc .. => .allocAck
  | .put .. => .put
  | .get .. => .data
  | .free .. => .free
  | .stat .. => .stat
  | .touch .. => .touch

def ExpectedInitiatorResponse.ofCompute : ComputeRequest → ExpectedInitiatorResponse
  | .submit _ => .computeSubmit
  | .status request => .computeStatus request.jobId
  | .cancel request => .computeCancel request.jobId

/-- A job that is absent from the answer is no mismatch. -/
def ExpectedInitiatorResponse.acceptsCompute (expected : ExpectedInitiatorResponse) (response : ComputeResponse) : Bool :=
  match expected, response with
  | .computeSubmit, .status _ | .computeSubmit, .result _ => true
  | .computeStatus jobId, .status status | .computeCancel jobId, .cancel status => status.job.all (·.jobId = jobId)
  | .computeStatus jobId, .result result => result.job.all (·.jobId = jobId)
  | _, _ => false

/-- The frames of a request from the sequence number on, with the response that
may answer them. -/
def buildInitiatorRequest (request : InitiatorRequest) (requestId sequence : UInt64) :
    Except PbmuxError (List Frame × ExpectedInitiatorResponse) :=
  match request with
  | .command request => do
    let frame ← buildCommandFrame request requestId sequence
    return ([frame], .command request.commandSeq)
  | .resource request => do
    let frame ← buildResourceRequestFrame request requestId sequence
    return ([frame], .resource (resourceKindOf request))
  | .remoteBuffer request => do
    let frames ← buildRemoteBufferRequestFrames request requestId sequence
    return (frames, .remoteBuffer (remoteBufferKindOf request))
  | .compute request => do
    let frame ← buildComputeRequestFrame request requestId sequence
    return ([frame], .ofCompute request)

def initiatorTransportExpired (lastAuthenticatedTrafficAge : Nat) (outstandingRequestAge : Option Nat) : Bool :=
  deviceOfflineTimeoutMs ≤ lastAuthenticatedTrafficAge &&
    outstandingRequestAge.all (fun age => initiatorRequestTimeoutMs ≤ age)

end PhoneBoost.Secure
