import PhoneBoost.Host.Placement
import PhoneBoost.Worker.Calls
import PhoneBoost.Worker.Handler

/-! The controller lease between host and worker. `acquire_lease` and
`renew_lease` note the instant before they send, and `lease_from_ack` adds the
remaining time to it that the worker measured when it handled the command. Both
sides serve one session at a time, so a command of a lost connection is handled
before the next connection stands or not at all. -/

namespace PhoneBoost.Host.Controller
open Pbmux (AckPayload CommandPayload)
open Worker (Call ControllerLeaseManager WorkerCore)

def renewalInterval : Nat := 20 * 1000000000
def initiatorRequestTimeout : Nat := 35 * 1000000000

def RemoteFailure.known (reason : AutoUseReason) : RemoteFailure := ⟨reason, false, false⟩

def controllerCommand (commandType : UInt8) (leaseId : Option Bytes16) (commandSeq : UInt64) : CommandPayload where
  commandType
  leasePresent := if leaseId.isSome then 1 else 0
  leaseId := leaseId.getD (.replicate 16 0)
  commandSeq
  traceId := .replicate 16 0x41
  providerPresent := 0
  providerId := 0
  payloadLen := 0

def leaseFromAck (ack : AckPayload) (previous : Option LeaseContext) (sentAt : Nat) : Except RemoteFailure LeaseContext :=
  let expectedCommandSeq := (previous.map LeaseContext.nextCommandSeq).getD 0
  if ack.ackState ≠ 2 || ack.reasonCode ≠ 0 || ack.commandSeq ≠ expectedCommandSeq || ack.resultRefPresent ≠ 1
      || ack.leaseId = .replicate 16 0 || ack.workerIncarnation = .replicate 16 0 || ack.ttlRemainingMs = 0
      || previous.any (fun old => old.leaseId ≠ ack.leaseId || old.incarnation ≠ ack.workerIncarnation)
      || previous.any (fun _ => ack.nextCommandSeq.toNat ≠ saturatingAdd expectedCommandSeq.toNat 1) then
    .error (.known .leaseUnavailable)
  else
    .ok ⟨ack.leaseId, ack.workerIncarnation, ack.nextCommandSeq, sentAt + ack.ttlRemainingMs.toNat * 1000000⟩

/-- What `acquire_lease` sends, and what `renew_lease` sends for the lease it is given. -/
def request : Option LeaseContext → CommandPayload
  | none => controllerCommand 1 none 0
  | some lease => controllerCommand 2 (some lease.leaseId) lease.nextCommandSeq

/-- How the worker came to the lease of an acknowledgement. -/
structure Handled where
  nowMs : Nat
  before : ControllerLeaseManager
  after : ControllerLeaseManager

/-- A lease of the host with the exchange that it comes from. -/
structure Held where
  context : LeaseContext
  sentAt : Nat
  handled : Handled

/-- Where `run_connection` is. -/
inductive Phase where
  | closed
  | acquiring
  | asking (previous : Option Held) (sentAt : Nat)
  | preparing (held : Held)
  | available (held : Held) (nextRenewal : Nat)

def Phase.held : Phase → Option Held
  | .closed | .acquiring => none
  | .asking previous _ => previous
  | .preparing held | .available held _ => some held

inductive Exchange where
  | idle
  | asked (command : CommandPayload)
  | answered (ack : AckPayload) (handled : Handled)

structure Line where
  now : Nat
  worker : WorkerCore
  phase : Phase
  exchange : Exchange

inductive LineEvent where
  | connect | acquire | renew | receive | enter | lost
  | handle (session : VerifiedSessionId) (reads : Entropy)
  | sessionEnded (session : VerifiedSessionId)
  | call (call : Call)

/-- Every step takes its time. -/
structure Moment where
  elapsed : Nat
  event : LineEvent

def Moment.reads (moment : Moment) : Entropy :=
  match moment.event with
  | .handle _ reads => reads
  | .call call => call.reads
  | _ => []

section Step
variable (hasher : Worker.Hasher) (peer : PeerId) (origin : Nat)

/-- The worker counts whole milliseconds from its own origin. -/
def workerMs (now : Nat) : Nat := (now - origin) / 1000000

/-- Only the host sends ACQUIRE and RENEW as this peer. -/
def foreign : Call → Bool
  | .controllerCommand session .acquire _ _ | .controllerCommand session (.renew ..) _ _ => session.peerId ≠ peer
  | _ => true

def Line.handle (line : Line) (command : CommandPayload) (session : VerifiedSessionId) (reads : Entropy) : Line :=
  let nowMs := workerMs origin line.now
  match line.worker.applyControllerCommand ⟨peer, session⟩ (Worker.controllerCommand command) nowMs reads with
  | (.ok result, worker) => { line with
      worker
      exchange := .answered (Worker.controllerAck result) ⟨nowMs, line.worker.leaseManager, worker.leaseManager⟩ }
  | (.error _, worker) => { line with worker, exchange := .idle }

/-- A failed ACQUIRE is tried again, a failed RENEW ends the connection. -/
def Line.receive (line : Line) (ack : AckPayload) (handled : Handled) (previous : Option Held) (sentAt : Nat) : Line :=
  match leaseFromAck ack (previous.map Held.context) sentAt, previous with
  | .ok context, none => { line with phase := .preparing ⟨context, sentAt, handled⟩, exchange := .idle }
  | .ok context, some _ => { line with
      phase := .available ⟨context, sentAt, handled⟩ (line.now + renewalInterval)
      exchange := .idle }
  | .error _, none => { line with phase := .acquiring, exchange := .idle }
  | .error _, some _ => { line with phase := .closed, exchange := .idle }

/-- An event that cannot happen in a state leaves it as it is. -/
def Line.react (line : Line) : LineEvent → Line
  | .connect =>
    match line.phase, line.exchange with
    | .closed, .idle => { line with phase := .acquiring }
    | _, _ => line
  | .acquire =>
    match line.phase with
    | .acquiring => { line with phase := .asking none line.now, exchange := .asked (request none) }
    | _ => line
  | .renew =>
    match line.phase with
    | .available held nextRenewal =>
      if nextRenewal ≤ line.now then { line with
        phase := .asking (some held) line.now
        exchange := .asked (request (some held.context)) }
      else line
    | _ => line
  | .handle session reads =>
    match line.exchange with
    | .asked command => line.handle peer origin command session reads
    | _ => line
  | .receive =>
    match line.phase, line.exchange with
    | .asking previous sentAt, .answered ack handled =>
      if line.now ≤ sentAt + initiatorRequestTimeout then line.receive ack handled previous sentAt
      else { line with phase := .closed }
    | _, _ => line
  | .enter =>
    match line.phase with
    | .preparing held => { line with phase := .available held (line.now + renewalInterval) }
    | _ => line
  | .lost => { line with phase := .closed }
  | .sessionEnded session => { line with
      worker := line.worker.authenticatedSessionEnded ⟨peer, session⟩ (workerMs origin line.now)
      exchange := .idle }
  | .call call =>
    if foreign peer call && call.startMs = workerMs origin line.now then
      { line with worker := (Worker.step hasher line.worker call).2 }
    else line

def Line.step (line : Line) (moment : Moment) : Line :=
  { line with now := line.now + moment.elapsed }.react hasher peer origin moment.event

/-- The worker has started at its origin, and the host may start later. -/
def lineRun (start : WorkerCore) (moments : List Moment) : Line :=
  Machine.run (Line.step hasher peer origin) ⟨origin, start, .closed, .idle⟩ moments

end Step
end PhoneBoost.Host.Controller
