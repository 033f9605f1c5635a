import PhoneBoost.Lib.Chunks
import PhoneBoost.Worker.RemoteBuffer

/-! The compute job store and the hash provider. A job runs inside the call that
publishes it. BLAKE3 itself is a third-party hasher and stays a parameter. -/

namespace PhoneBoost.Worker
open Keyed Chunks
open Pbmux (ComputeJobRef ComputeJobRequest ComputeJobState ComputeReason ComputeResponse ComputeResult ComputeStatus
  ComputeSubmit)

def computeIdempotenceCapacityPerLease : Nat := 256
def computeTerminalRetentionMs : Nat := 5 * 60000
def providerTimeoutMs : Nat := 30000
def hashChunkBytes : Nat := 1024 * 1024

structure Hasher where
  State : Type
  new : State
  update : State → List UInt8 → State
  finalize : State → Bytes32

/-- What one call observes while the provider runs: the answers of the liveness
callback and the clock readings at each check, and the reading after the run. -/
structure ProviderRun where
  live : Nat → Bool
  clock : Nat → Nat
  finishedMs : Nat

structure InputReference where
  bufferId : Bytes16
  offset : Nat
  length : Nat
deriving DecidableEq, Repr

structure JobRecord where
  jobId : Bytes16
  ownerPeerId : PeerId
  controllerLeaseId : LeaseId
  workerIncarnationId : WorkerIncarnationId
  sessionId : SessionBinding
  providerId : UInt8
  providerVersion : UInt8
  input : InputReference
  scratchReservationId : ReservationId
  scratchBytes : Nat
  state : ComputeJobState
  reason : ComputeReason
  createdMonoMs : Nat
  startedMonoMs : Option Nat
  terminalMonoMs : Option Nat
  digest : Option Bytes32
  submitRequestId : UInt64
  scratchReleased : Bool
deriving DecidableEq, Repr

namespace JobRecord

def jobRef (record : JobRecord) : ComputeJobRef := ⟨record.jobId, record.providerId, record.providerVersion⟩

def result (record : JobRecord) : ComputeResponse :=
  .result {
    state := record.state
    reason := record.reason
    leaseId := record.controllerLeaseId.bytes
    workerIncarnationId := record.workerIncarnationId.bytes
    job := some record.jobRef
    digest := record.digest }

end JobRecord

structure SubmitCacheEntry where
  sessionId : SessionBinding
  request : ComputeSubmit
  response : ComputeResponse
  terminalMonoMs : Option Nat
deriving DecidableEq, Repr

structure CancelCacheEntry where
  sessionId : SessionBinding
  request : ComputeJobRequest
  response : ComputeResponse
  terminalMonoMs : Nat
deriving DecidableEq, Repr

inductive SubmitLookup where
  | vacant
  | replay (response : ComputeResponse)
  | conflict
  | full
deriving DecidableEq, Repr

structure ComputeJobStore where
  jobs : Table Bytes16 JobRecord
  submits : Table (LeaseId × UInt64) SubmitCacheEntry
  cancels : Table (LeaseId × UInt64) CancelCacheEntry
deriving DecidableEq

def providerCheck (run : ProviderRun) (index startedMs : Nat) : Except ComputeReason Unit :=
  if !run.live index then .error .sessionLost
  else if providerTimeoutMs < run.clock index - startedMs then .error .providerTimeout
  else .ok ()

def hashChunks (hasher : Hasher) (run : ProviderRun) (startedMs : Nat) :
    Nat → hasher.State → List (List UInt8) → Except ComputeReason (Nat × hasher.State)
  | index, state, [] => .ok (index, state)
  | index, state, chunk :: rest =>
    match providerCheck run index startedMs with
    | .error reason => .error reason
    | .ok () => hashChunks hasher run startedMs (index + 1) (hasher.update state chunk) rest

def blake3DigestBounded (hasher : Hasher) (run : ProviderRun) (input : List UInt8) (startedMs : Nat) :
    Except ComputeReason Bytes32 :=
  match hashChunks hasher run startedMs 0 hasher.new (chunks hashChunkBytes input) with
  | .error reason => .error reason
  | .ok (index, state) =>
    match providerCheck run index startedMs with
    | .error reason => .error reason
    | .ok () => .ok (hasher.finalize state)

def absentResult (submit : ComputeSubmit) (incarnation : WorkerIncarnationId) (reason : ComputeReason) :
    ComputeResponse :=
  .result {
    state := .invalid
    reason
    leaseId := submit.leaseId
    workerIncarnationId := incarnation.bytes
    job := none
    digest := none }

def absentJob (request : ComputeJobRequest) (incarnation : WorkerIncarnationId) (reason : ComputeReason) :
    ComputeStatus where
  state := .invalid
  reason
  leaseId := request.leaseId
  workerIncarnationId := incarnation.bytes
  job := none

def absentStatus (request : ComputeJobRequest) (incarnation : WorkerIncarnationId) (reason : ComputeReason) :
    ComputeResponse := .status (absentJob request incarnation reason)

def absentCancel (request : ComputeJobRequest) (incarnation : WorkerIncarnationId) (reason : ComputeReason) :
    ComputeResponse := .cancel (absentJob request incarnation reason)

namespace ComputeJobStore

def new : ComputeJobStore := ⟨.empty, .empty, .empty⟩

def owns (record : JobRecord) (proof : LeaseProof) (sessionId : SessionBinding) : Bool :=
  record.ownerPeerId = proof.peerId && record.controllerLeaseId = proof.leaseId
    && record.workerIncarnationId = proof.incarnation && record.sessionId = sessionId

def retained (nowMs : Nat) (terminalMonoMs : Option Nat) : Bool :=
  terminalMonoMs.all fun terminal => nowMs - terminal ≤ computeTerminalRetentionMs

def purge (store : ComputeJobStore) (nowMs : Nat) : ComputeJobStore where
  jobs := store.jobs.retain fun _ record => retained nowMs record.terminalMonoMs
  submits := store.submits.retain fun _ entry => retained nowMs entry.terminalMonoMs
  cancels := store.cancels.retain fun _ entry => nowMs - entry.terminalMonoMs ≤ computeTerminalRetentionMs

def checkSubmit (store : ComputeJobStore) (leaseId : LeaseId) (requestId : UInt64) (sessionId : SessionBinding)
    (request : ComputeSubmit) (nowMs : Nat) : SubmitLookup × ComputeJobStore :=
  let store := store.purge nowMs
  let key := (leaseId, requestId)
  let store :=
    if (store.submits.get? key).any fun entry => entry.sessionId ≠ sessionId then
      { store with submits := store.submits.erase key }
    else store
  match store.submits.get? key with
  | some entry => (if entry.request = request then .replay entry.response else .conflict, store)
  | none =>
    if computeIdempotenceCapacityPerLease ≤ store.submits.count fun (cachedLease, _) _ => cachedLease = leaseId then
      (.full, store)
    else (.vacant, store)

def cacheRefusal (store : ComputeJobStore) (leaseId : LeaseId) (requestId : UInt64) (sessionId : SessionBinding)
    (request : ComputeSubmit) (response : ComputeResponse) (nowMs : Nat) : ComputeJobStore :=
  { store with
    submits := store.submits.insert (leaseId, requestId) ⟨sessionId, request, response, some nowMs⟩ }

def stage (store : ComputeJobStore) (proof : LeaseProof) (sessionId : SessionBinding) (requestId : UInt64)
    (request : ComputeSubmit) (scratchBytes nowMs : Nat) (reads : Entropy) : Option JobRecord :=
  (drawUnused (fun id => (store.jobs.get? id).isSome) 8 reads).map fun jobId => {
    jobId
    ownerPeerId := proof.peerId
    controllerLeaseId := proof.leaseId
    workerIncarnationId := proof.incarnation
    sessionId
    providerId := request.providerId
    providerVersion := request.providerVersion
    input := ⟨request.bufferId, request.inputOffset.toNat, request.inputLength.toNat⟩
    scratchReservationId := ⟨request.reservationId⟩
    scratchBytes
    state := .accepted
    reason := .none
    createdMonoMs := nowMs
    startedMonoMs := none
    terminalMonoMs := none
    digest := none
    submitRequestId := requestId
    scratchReleased := false }

def publishRunning (store : ComputeJobStore) (staged : JobRecord) (request : ComputeSubmit) (nowMs : Nat) :
    Bytes16 × ComputeJobStore :=
  let record := { staged with state := .running, startedMonoMs := some nowMs }
  let response : ComputeResponse := .status {
    state := .running
    reason := .none
    leaseId := record.controllerLeaseId.bytes
    workerIncarnationId := record.workerIncarnationId.bytes
    job := some record.jobRef }
  (record.jobId, { store with
    submits := store.submits.insert (record.controllerLeaseId, record.submitRequestId)
      ⟨record.sessionId, request, response, none⟩
    jobs := store.jobs.insert record.jobId record })

def finished (record : JobRecord) (state : ComputeJobState) (reason : ComputeReason) (digest : Option Bytes32)
    (nowMs : Nat) : JobRecord :=
  { record with state, reason, digest, terminalMonoMs := some nowMs, scratchReleased := true }

def finishRecord (record : JobRecord) (guard : ResourceGuard) (state : ComputeJobState) (reason : ComputeReason)
    (digest : Option Bytes32) (nowMs : Nat) : JobRecord × ResourceGuard :=
  if record.state.isTerminal then (record, guard)
  else
    (finished record state reason digest nowMs,
      if record.scratchReleased then guard
      else guard.releaseConsumedCompute record.scratchReservationId record.scratchBytes nowMs)

/-- Writes the result of a finished job into the entry of its SUBMIT. -/
def answerSubmit (store : ComputeJobStore) (record : JobRecord) (nowMs : Nat) : ComputeJobStore :=
  { store with
    submits := store.submits.modify (record.controllerLeaseId, record.submitRequestId) fun entry =>
      { entry with response := record.result, terminalMonoMs := some nowMs } }

/-- `none` is the panic of `expect`: the caller has just published the job. -/
def terminalize (store : ComputeJobStore) (guard : ResourceGuard) (jobId : Bytes16) (sessionId : SessionBinding)
    (outcome : Except ComputeReason Bytes32) (nowMs : Nat) :
    Option (ComputeResponse × ComputeJobStore × ResourceGuard) :=
  (store.jobs.get? jobId).map fun record =>
    if record.state.isTerminal then (record.result, store, guard)
    else
      let (record, guard) :=
        if record.sessionId ≠ sessionId then finishRecord record guard .failed .sessionLost none nowMs
        else if providerTimeoutMs < nowMs - record.startedMonoMs.getD record.createdMonoMs then
          finishRecord record guard .failed .providerTimeout none nowMs
        else
          match outcome with
          | .ok digest => finishRecord record guard .completed .none (some digest) nowMs
          | .error reason => finishRecord record guard .failed reason none nowMs
      let store := { store with jobs := store.jobs.modify jobId fun _ => record }
      (record.result, store.answerSubmit record nowMs, guard)

def status (store : ComputeJobStore) (proof : LeaseProof) (sessionId : SessionBinding) (request : ComputeJobRequest)
    (nowMs : Nat) : ComputeResponse × ComputeJobStore :=
  let store := store.purge nowMs
  match store.jobs.get? request.jobId with
  | none => (absentStatus request proof.incarnation .jobNotFound, store)
  | some record =>
    if !owns record proof sessionId then (absentStatus request proof.incarnation .jobNotOwned, store)
    else if record.state.isTerminal then (record.result, store)
    else
      (.status {
        state := record.state
        reason := .none
        leaseId := request.leaseId
        workerIncarnationId := proof.incarnation.bytes
        job := some record.jobRef }, store)

def cancel (store : ComputeJobStore) (guard : ResourceGuard) (proof : LeaseProof) (sessionId : SessionBinding)
    (requestId : UInt64) (request : ComputeJobRequest) (nowMs : Nat) :
    ComputeResponse × ComputeJobStore × ResourceGuard :=
  let store := store.purge nowMs
  let key := (proof.leaseId, requestId)
  match store.cancels.get? key with
  | some entry =>
    if entry.sessionId = sessionId && entry.request = request then (entry.response, store, guard)
    else (absentCancel request proof.incarnation .internalError, store, guard)
  | none =>
    let answer (state : ComputeJobState) (reason : ComputeReason) (record : JobRecord) : ComputeResponse := .cancel {
      state
      reason
      leaseId := request.leaseId
      workerIncarnationId := proof.incarnation.bytes
      job := some record.jobRef }
    let (response, store, guard) :=
      match store.jobs.get? request.jobId with
      | none => (absentCancel request proof.incarnation .jobNotFound, store, guard)
      | some record =>
        if !owns record proof sessionId then (absentCancel request proof.incarnation .jobNotOwned, store, guard)
        else if record.state.isTerminal then (answer record.state .jobNotCancellable record, store, guard)
        else
          let (record, guard) := finishRecord record guard .cancelled .none none nowMs
          let store := { store with jobs := store.jobs.modify request.jobId fun _ => record }
          (answer .cancelled .none record, store.answerSubmit record nowMs, guard)
    (response, { store with cancels := store.cancels.insert key ⟨sessionId, request, response, nowMs⟩ }, guard)

/-- The loop shared by session loss and lease end. -/
def finishWhere (store : ComputeJobStore) (guard : ResourceGuard) (test : JobRecord → Bool) (state : ComputeJobState)
    (reason : ComputeReason) (nowMs : Nat) : ComputeJobStore × ResourceGuard :=
  let (jobs, guard) := store.jobs.sweep (fun guard record =>
    if test record && !record.state.isTerminal then finishRecord record guard state reason none nowMs
    else (record, guard)) guard
  ({ store with jobs }, guard)

def sessionLost (store : ComputeJobStore) (guard : ResourceGuard) (sessionId : SessionBinding) (nowMs : Nat) :
    ComputeJobStore × ResourceGuard :=
  let (store, guard) :=
    store.finishWhere guard (fun record => record.sessionId = sessionId) .failed .sessionLost nowMs
  ({ store with
    submits := store.submits.retain fun _ entry => entry.sessionId ≠ sessionId
    cancels := store.cancels.retain fun _ entry => entry.sessionId ≠ sessionId }, guard)

def leaseEnded (store : ComputeJobStore) (guard : ResourceGuard) (leaseId : LeaseId) (nowMs : Nat) :
    ComputeJobStore × ResourceGuard :=
  let (store, guard) :=
    store.finishWhere guard (fun record => record.controllerLeaseId = leaseId) .cancelled .none nowMs
  ({ store with
    submits := store.submits.retain fun (cachedLease, _) _ => cachedLease ≠ leaseId
    cancels := store.cancels.retain fun (cachedLease, _) _ => cachedLease ≠ leaseId }, guard)

def jobInput (store : ComputeJobStore) (jobId : Bytes16) : Option InputReference :=
  (store.jobs.get? jobId).map JobRecord.input

end ComputeJobStore
end PhoneBoost.Worker
