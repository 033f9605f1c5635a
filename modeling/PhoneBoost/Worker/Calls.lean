import PhoneBoost.Lib.Machine
import PhoneBoost.Worker.Core

/-! Calls from outside the worker. A call carries what it observes: the clock
reading at its start, the random reads, the allocator's answers, and for a
SUBMIT the observations of the provider run. -/

namespace PhoneBoost.Worker
open Pbmux (BufferResult ComputeRequest ComputeResponse HeartbeatPayload RemoteBufferRequest RemoteBufferResponseKind
  ResourceRequest ResourceResponseKind ResourceResult)

inductive Call where
  | controllerCommand (session : VerifiedPeerSession) (command : ControllerCommand) (nowMs : Nat) (reads : Entropy)
  | resourceRequest (session : VerifiedPeerSession) (requestId : UInt64) (request : ResourceRequest) (nowMs : Nat)
      (reads : Entropy)
  | remoteBufferRequest (session : VerifiedPeerSession) (request : RemoteBufferRequest) (nowMs : Nat)
      (memory : Nat → Bool) (reads : Entropy)
  | computeRequest (session : VerifiedPeerSession) (requestId : UInt64) (request : ComputeRequest) (nowMs : Nat)
      (run : ProviderRun) (reads : Entropy)
  | recordLocalHealth (sample : HealthSample) (nowMs : Nat)
  | heartbeatPayload (session : VerifiedPeerSession) (nowMs : Nat)
  | authenticatedSessionEnded (session : VerifiedPeerSession) (nowMs : Nat)

inductive Reply where
  | command (outcome : CommandOutcome)
  | resource (kind : ResourceResponseKind) (result : ResourceResult)
  | remoteBuffer (kind : RemoteBufferResponseKind) (result : BufferResult)
  | compute (response : ComputeResponse)
  | health (status : HealthStatus)
  | heartbeat (payload : Option HeartbeatPayload)
  | sessionEnded

def step (hasher : Hasher) (core : WorkerCore) : Call → Reply × WorkerCore
  | .controllerCommand session command nowMs reads =>
    let (outcome, core) := core.applyControllerCommand session command nowMs reads
    (.command outcome, core)
  | .resourceRequest session requestId request nowMs reads =>
    let ((kind, result), core) := core.applyResourceRequest session requestId request nowMs reads
    (.resource kind result, core)
  | .remoteBufferRequest session request nowMs memory reads =>
    let ((kind, result), core) := core.applyRemoteBufferRequest session request nowMs memory reads
    (.remoteBuffer kind result, core)
  | .computeRequest session requestId request nowMs run reads =>
    let (response, core) := core.applyComputeRequest hasher session requestId request nowMs run reads
    (.compute response, core)
  | .recordLocalHealth sample nowMs =>
    let (status, core) := core.recordLocalHealth sample nowMs
    (.health status, core)
  | .heartbeatPayload session nowMs =>
    let (payload, core) := core.heartbeatPayload session nowMs
    (.heartbeat payload, core)
  | .authenticatedSessionEnded session nowMs => (.sessionEnded, core.authenticatedSessionEnded session nowMs)

namespace Call

/-- The clock reading taken at the start. -/
def startMs : Call → Nat
  | .controllerCommand _ _ nowMs _ | .resourceRequest _ _ _ nowMs _ | .remoteBufferRequest _ _ nowMs _ _
  | .computeRequest _ _ _ nowMs _ _ | .recordLocalHealth _ nowMs | .heartbeatPayload _ nowMs
  | .authenticatedSessionEnded _ nowMs => nowMs

/-- The last clock reading that the call can take. -/
def finishMs : Call → Nat
  | .computeRequest _ _ _ _ run _ => run.finishedMs
  | call => call.startMs

def reads : Call → Entropy
  | .controllerCommand _ _ _ reads | .resourceRequest _ _ _ _ reads | .remoteBufferRequest _ _ _ _ reads
  | .computeRequest _ _ _ _ _ reads => reads
  | _ => []

def session? : Call → Option VerifiedPeerSession
  | .controllerCommand session .. | .resourceRequest session .. | .remoteBufferRequest session ..
  | .computeRequest session .. | .heartbeatPayload session _ | .authenticatedSessionEnded session _ => some session
  | .recordLocalHealth .. => none

/-- The readings inside one call do not run backwards. -/
def Ordered : Call → Prop
  | .computeRequest _ _ _ nowMs run _ =>
    (∀ index, nowMs ≤ run.clock index ∧ run.clock index ≤ run.clock (index + 1) ∧
      run.clock index ≤ run.finishedMs) ∧ nowMs ≤ run.finishedMs
  | _ => True

end Call

/-- Clock readings are `u64` values that never decrease. -/
structure Clocked (calls : List Call) : Prop where
  each : ∀ call ∈ calls, call.Ordered ∧ call.finishMs ≤ u64Max
  between : calls.Pairwise fun earlier later => earlier.finishMs ≤ later.startMs

/-- No identifier is drawn twice in the whole run. -/
abbrev Fresh (calls : List Call) : Prop := Machine.Distinct (fun call => drawn call.reads) calls

end PhoneBoost.Worker
