import PhoneBoost.Secure.Loops
import PhoneBoost.Worker.Core

/-! The handler that the phone's library registers for authenticated requests.
It reaches the worker through a slot that is empty until the worker has started,
and translates commands and their outcomes to the payloads of the wire. -/

namespace PhoneBoost.Worker
open Pbmux (AckPayload CommandPayload)
open Secure (Handler HandlerError)

/-- What the worker observes while it serves a session. -/
structure Observed where
  nowMs : Nat
  reads : Entropy
  memory : Nat → Bool
  run : ProviderRun

def withWorker (apply : WorkerCore → Except HandlerError α × WorkerCore) (slot : Option WorkerCore) :
    Except HandlerError α × Option WorkerCore :=
  match slot with
  | none => (.error .unavailable, none)
  | some worker =>
    let (answer, worker) := apply worker
    (answer, some worker)

def controllerCommand (command : CommandPayload) : ControllerCommand :=
  if command.commandType = 1 then .acquire
  else if command.commandType = 2 then .renew ⟨command.leaseId⟩ command.commandSeq.toNat
  else if command.commandType = 3 then .release ⟨command.leaseId⟩ command.commandSeq.toNat
  else .unsupported command.commandSeq.toNat

def ControllerFailureReason.code : ControllerFailureReason → UInt16
  | .controllerBusy => 1
  | .staleControllerLease => 2
  | .outOfOrder => 3
  | .duplicateResultEvicted => 4
  | .unsupportedMessage => 5

/-- An acknowledgement without a lease, an expected number or a digest. -/
def plainAck (ackState : UInt8) (reasonCode : UInt16) (commandSeq : Nat) : AckPayload where
  ackState
  reasonCode
  commandSeq := .ofNat commandSeq
  expectedPresent := 0
  expected := 0
  resultRefPresent := 0
  leaseId := .replicate 16 0
  workerIncarnation := .replicate 16 0
  ttlRemainingMs := 0
  nextCommandSeq := 0
  digestPresent := 0
  digest := .replicate 32 0

def controllerAck : ControllerCommandResult → AckPayload
  | .completed commandSeq none => plainAck 2 0 commandSeq
  | .completed commandSeq (some lease) => { plainAck 2 0 commandSeq with
      resultRefPresent := 1
      leaseId := lease.leaseId.bytes
      workerIncarnation := lease.workerIncarnationId.bytes
      ttlRemainingMs := .ofNat lease.ttlRemainingMs
      nextCommandSeq := .ofNat lease.nextCommandSeq }
  | .failed commandSeq reason expectedNextSeq => { plainAck 3 reason.code commandSeq with
      expectedPresent := if expectedNextSeq.isSome then 1 else 0
      expected := .ofNat (expectedNextSeq.getD 0) }

/-- `AndroidAuthenticatedCommandHandler` for one session. -/
def authenticatedCommandHandler (hasher : Hasher) (session : VerifiedPeerSession) (observed : Observed) :
    Handler (Option WorkerCore) where
  command _ command := withWorker fun worker =>
    match worker.applyControllerCommand session (controllerCommand command) observed.nowMs observed.reads with
    | (.ok result, worker) => (.ok (controllerAck result), worker)
    | (.error _, worker) => (.error .failed, worker)
  resource requestId request := withWorker fun worker =>
    let (answer, worker) := worker.applyResourceRequest session requestId request observed.nowMs observed.reads
    (.ok answer, worker)
  remoteBuffer _ request := withWorker fun worker =>
    let (answer, worker) := worker.applyRemoteBufferRequest session request observed.nowMs observed.memory observed.reads
    (.ok answer, worker)
  compute requestId request := withWorker fun worker =>
    let (response, worker) :=
      worker.applyComputeRequest hasher session requestId request observed.nowMs observed.run observed.reads
    (.ok response, worker)
  heartbeat := withWorker fun worker =>
    let (payload, worker) := worker.heartbeatPayload session observed.nowMs
    (.ok payload, worker)
  sessionEnded := withWorker fun worker => (.ok (), worker.authenticatedSessionEnded session observed.nowMs)

end PhoneBoost.Worker
