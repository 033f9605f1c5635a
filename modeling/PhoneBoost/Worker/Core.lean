import PhoneBoost.Pbmux.Control
import PhoneBoost.Worker.Compute

/-! The worker core: four stores behind the entry points that an authenticated
session reaches. Each entry point reads the clock once at its start, ends an
expired lease first, and then asks the lease manager for authority. -/

namespace PhoneBoost.Worker
open Keyed
open Pbmux (BufferReason BufferResult ComputeReason ComputeRequest ComputeResponse ComputeSubmit HeartbeatPayload
  RemoteBufferRequest RemoteBufferResponseKind ReservationResultRef ResourceReason ResourceRequest ResourceResponseKind ResourceResult
  blake3ProviderId blake3ProviderVersion maxComputeInputBytes nativeOpScratchMaxBytes remoteBufferInputKind)

structure ResourceRequestCacheEntry where
  request : ResourceRequest
  kind : ResourceResponseKind
  result : ResourceResult
  terminalAtMs : Nat
deriving DecidableEq, Repr

structure WorkerCore where
  incarnation : WorkerIncarnationId
  leaseManager : ControllerLeaseManager
  resourceGuard : ResourceGuard
  remoteBuffers : RemoteBufferStore
  computeJobs : ComputeJobStore
  resourceRequests : Table (LeaseId × UInt64) ResourceRequestCacheEntry
deriving DecidableEq

def resourceResponseKind : ResourceRequest → ResourceResponseKind
  | .reserve .. => .reserveAck
  | .commit .. => .commit
  | .release .. => .release

/-- An unknown class has no reservation; the source marks that case unreachable. -/
def wireClass : ResourceClass → Pbmux.ResourceClass
  | .remoteBufferBytes | .unknown => .remoteBufferBytes
  | .nativeOpScratchBytes => .nativeOpScratchBytes

def workerClass : Pbmux.ResourceClass → ResourceClass
  | .remoteBufferBytes => .remoteBufferBytes
  | .nativeOpScratchBytes => .nativeOpScratchBytes

def resultRef (snapshot : ReservationSnapshot) : ReservationResultRef where
  reservationId := snapshot.reservationId.bytes
  state := snapshot.wireState
  resourceClass := wireClass snapshot.resourceClass
  grantedBytes := UInt64.ofNat snapshot.bytes
  ttlRemainingMs := UInt32.ofNat snapshot.ttlRemainingMs

def resourceSuccess (leaseId : Bytes16) (incarnation : WorkerIncarnationId) (snapshot : ReservationSnapshot) :
    ResourceResult where
  state := .completed
  reason := .none
  leaseId
  workerIncarnationId := incarnation.bytes
  reservation := some (resultRef snapshot)

def resourceFailureWithSnapshot (leaseId : Bytes16) (incarnation : WorkerIncarnationId) (reason : ResourceReason)
    (snapshot : Option ReservationSnapshot) : ResourceResult where
  state := .failed
  reason
  leaseId
  workerIncarnationId := incarnation.bytes
  reservation := snapshot.map resultRef

def resourceFailure (leaseId : Bytes16) (incarnation : WorkerIncarnationId) (reason : ResourceReason) :
    ResourceResult := resourceFailureWithSnapshot leaseId incarnation reason none

def remoteBufferResponseKind : RemoteBufferRequest → RemoteBufferResponseKind
  | .alloc .. => .allocAck
  | .put .. => .put
  | .get .. => .data
  | .free .. => .free
  | .stat .. => .stat
  | .touch .. => .touch

def remoteBufferFailure (leaseId : Bytes16) (incarnation : WorkerIncarnationId) (reason : BufferReason) :
    BufferResult := RemoteBufferStore.failed leaseId incarnation reason none

def computeRequestFailure (request : ComputeRequest) (incarnation : WorkerIncarnationId) (reason : ComputeReason) :
    ComputeResponse :=
  match request with
  | .submit submit => absentResult submit incarnation reason
  | .status status => absentStatus status incarnation reason
  | .cancel cancel => absentCancel cancel incarnation reason

/-- How one branch of the request match ends: an early return answers without
being cached, every other branch falls through to the cache insertion. -/
structure ResourceAnswer where
  result : ResourceResult
  cached : Bool

namespace WorkerCore

/-- `cold_start` draws the incarnation; without entropy there is no worker. -/
def coldStart (reads : Entropy) : Option WorkerCore :=
  (randomNonzero128 reads).1.map fun id => {
    incarnation := ⟨id⟩
    leaseManager := .new ⟨id⟩
    resourceGuard := .new
    remoteBuffers := .new
    computeJobs := .new
    resourceRequests := .empty }

/-- Compute jobs and then buffers of a lease that ended. -/
def endLease (core : WorkerCore) (leaseId : LeaseId) (nowMs : Nat) : WorkerCore :=
  let (computeJobs, resourceGuard) := core.computeJobs.leaseEnded core.resourceGuard leaseId nowMs
  let (remoteBuffers, resourceGuard) := core.remoteBuffers.leaseEnded resourceGuard leaseId nowMs
  { core with computeJobs, remoteBuffers, resourceGuard }

def reconcileExpiredControllerLease (core : WorkerCore) (nowMs : Nat) : WorkerCore :=
  let (expired, leaseManager) := core.leaseManager.expireIfNeeded nowMs
  let core := { core with leaseManager }
  match expired with
  | none => core
  | some leaseId => core.endLease leaseId nowMs

def recordLocalHealth (core : WorkerCore) (sample : HealthSample) (nowMs : Nat) : HealthStatus × WorkerCore :=
  let core := core.reconcileExpiredControllerLease nowMs
  let (status, resourceGuard) := core.resourceGuard.recordHealth { sample with monotonicMs := nowMs }
  let resourceGuard := resourceGuard.tick nowMs
  let (remoteBuffers, resourceGuard) := core.remoteBuffers.tick resourceGuard nowMs
  (status, { core with remoteBuffers, resourceGuard })

def heartbeatPayload (core : WorkerCore) (verifiedSession : VerifiedPeerSession) (nowMs : Nat) :
    Option HeartbeatPayload × WorkerCore :=
  let core := core.reconcileExpiredControllerLease nowMs
  let session := AuthenticatedSession.fromVerified verifiedSession
  let (lease, leaseManager) := core.leaseManager.currentForSession session nowMs
  let core := { core with leaseManager }
  match lease with
  | none => (none, core)
  | some lease =>
    let health := core.resourceGuard.healthStatus nowMs
    if !health.fresh || health.thermal = .unknown then (none, core)
    else
      (some {
        -- the secure runtime fills in its own identity before it sends the frame
        peerId := Vector.replicate 32 0
        workerIncarnation := lease.workerIncarnationId.bytes
        leasePresent := 1
        leaseId := lease.leaseId.bytes
        monotonicMs := UInt64.ofNat nowMs
        thermalStatus := UInt8.ofNat health.thermal.code
        headroomPresent := 0
        headroomF32Bits := 0
        batteryPct := health.batteryPercent
        charging := if health.charging then 1 else 0
        powerSave := if health.powerSave then 1 else 0
        availableBytes := UInt64.ofNat health.availableMemoryBytes
        safeBudgetBytes := UInt64.ofNat health.budgetBytes
        reservedBytes := UInt64.ofNat core.resourceGuard.allocatedBytes
        queueDepth := 0
        providerCount := 0
        transportCount := 0 }, core)

def applyControllerCommand (core : WorkerCore) (verifiedSession : VerifiedPeerSession) (command : ControllerCommand)
    (nowMs : Nat) (reads : Entropy) : CommandOutcome × WorkerCore :=
  let session := AuthenticatedSession.fromVerified verifiedSession
  let core := core.reconcileExpiredControllerLease nowMs
  let (outcome, leaseManager) := core.leaseManager.applyControllerCommand session command nowMs reads
  let core := { core with leaseManager }
  match outcome, command with
  | .ok (.completed _ none), .release leaseId _ => (outcome, core.endLease leaseId nowMs)
  | _, _ => (outcome, core)

def applyReserve (core : WorkerCore) (session : AuthenticatedSession) (proof : LeaseProof) (leaseId : LeaseId)
    (requestId : UInt64) (resourceClass : Pbmux.ResourceClass) (requestedBytes : UInt64) (nowMs : Nat)
    (reads : Entropy) : ResourceAnswer × WorkerCore :=
  let (decision, resourceGuard, leaseManager) := core.resourceGuard.reserve core.leaseManager session leaseId
    ⟨requestId, workerClass resourceClass, requestedBytes.toNat⟩ nowMs reads
  let core := { core with resourceGuard, leaseManager }
  let fail (reason : ResourceReason) : ResourceAnswer × WorkerCore :=
    (⟨resourceFailure leaseId.bytes core.incarnation reason, true⟩, core)
  match decision with
  | .reserved reservationId =>
    let (snapshot, resourceGuard) := core.resourceGuard.reservationSnapshot proof reservationId nowMs
    let core := { core with resourceGuard }
    match snapshot with
    | some snapshot => (⟨resourceSuccess leaseId.bytes core.incarnation snapshot, true⟩, core)
    | none => (⟨resourceFailure leaseId.bytes core.incarnation .internalError, false⟩, core)
  | .refusedSafety =>
    fail (if (core.resourceGuard.healthStatus nowMs).safety = .refusedStaleState then .refusedStaleState
      else .resourceExhausted)
  | .refusedBudget => fail .resourceExhausted
  | .unknownResourceClass => fail .unsupportedMessage
  | .staleLease => fail .staleControllerLease
  | .idempotenceConflict => fail .requestIdConflict
  | .idempotenceTableFull => fail .idempotenceTableFull
  | .entropyUnavailable => fail .internalError

def commitRefusal (snapshot : Option ReservationSnapshot) : ResourceReason :=
  match snapshot with
  | none => .reservationNotFound
  | some snapshot =>
    match snapshot.wireState with
    | .expired => .reservationExpired
    | .consumed | .consumedReleased => .reservationAlreadyConsumed
    | _ => .reservationNotCommitted

def applyCommit (core : WorkerCore) (session : AuthenticatedSession) (proof : LeaseProof) (leaseId : LeaseId)
    (reservationId : ReservationId) (nowMs : Nat) : ResourceAnswer × WorkerCore :=
  let (decision, resourceGuard, leaseManager) :=
    core.resourceGuard.commit core.leaseManager session leaseId reservationId nowMs
  let (snapshot, resourceGuard) := resourceGuard.reservationSnapshot proof reservationId nowMs
  let core := { core with resourceGuard, leaseManager }
  let result : ResourceResult :=
    match decision with
    | .committed =>
      match snapshot with
      | some snapshot => resourceSuccess leaseId.bytes core.incarnation snapshot
      | none => resourceFailure leaseId.bytes core.incarnation .internalError
    | .refusedSafety => resourceFailureWithSnapshot leaseId.bytes core.incarnation .commitRefusedSafety snapshot
    | .staleLease => resourceFailure leaseId.bytes core.incarnation .staleControllerLease
    | .unknownOrExpiredReservation =>
      resourceFailureWithSnapshot leaseId.bytes core.incarnation (commitRefusal snapshot) snapshot
  (⟨result, true⟩, core)

def applyRelease (core : WorkerCore) (session : AuthenticatedSession) (proof : LeaseProof) (leaseId : LeaseId)
    (reservationId : ReservationId) (nowMs : Nat) : ResourceAnswer × WorkerCore :=
  let (decision, resourceGuard, leaseManager) :=
    core.resourceGuard.release core.leaseManager session leaseId reservationId nowMs
  let (snapshot, resourceGuard) := resourceGuard.reservationSnapshot proof reservationId nowMs
  let core := { core with resourceGuard, leaseManager }
  let fail (reason : ResourceReason) (snapshot : ReservationSnapshot) : ResourceAnswer :=
    ⟨resourceFailureWithSnapshot leaseId.bytes core.incarnation reason (some snapshot), true⟩
  let answer : ResourceAnswer :=
    match decision with
    | .released =>
      match snapshot with
      | some snapshot => ⟨resourceSuccess leaseId.bytes core.incarnation snapshot, true⟩
      | none => ⟨resourceFailure leaseId.bytes core.incarnation .internalError, true⟩
    | .alreadyTerminal =>
      match snapshot with
      | none => ⟨resourceFailure leaseId.bytes core.incarnation .reservationNotFound, false⟩
      | some snapshot =>
        match snapshot.wireState with
        | .released => ⟨resourceSuccess leaseId.bytes core.incarnation snapshot, true⟩
        | .consumed | .consumedReleased => fail .reservationAlreadyConsumed snapshot
        | .expired => fail .reservationExpired snapshot
        | _ => fail .reservationNotCommitted snapshot
    | .staleLease => ⟨resourceFailure leaseId.bytes core.incarnation .staleControllerLease, true⟩
    | .unknownReservation => ⟨resourceFailure leaseId.bytes core.incarnation .reservationNotFound, true⟩
  (answer, core)

/-- The match over a request that the result cache does not answer. -/
def dispatchResource (core : WorkerCore) (session : AuthenticatedSession) (proof : LeaseProof) (leaseId : LeaseId)
    (requestId : UInt64) (request : ResourceRequest) (nowMs : Nat) (reads : Entropy) : ResourceAnswer × WorkerCore :=
  match request with
  | .reserve _ _ resourceClass requestedBytes =>
    core.applyReserve session proof leaseId requestId resourceClass requestedBytes nowMs reads
  | .commit _ _ reservationId => core.applyCommit session proof leaseId ⟨reservationId⟩ nowMs
  | .release _ _ reservationId => core.applyRelease session proof leaseId ⟨reservationId⟩ nowMs

def applyResourceRequest (core : WorkerCore) (verifiedSession : VerifiedPeerSession) (requestId : UInt64)
    (request : ResourceRequest) (nowMs : Nat) (reads : Entropy) :
    (ResourceResponseKind × ResourceResult) × WorkerCore :=
  let core := core.reconcileExpiredControllerLease nowMs
  let kind := resourceResponseKind request
  let leaseId : LeaseId := ⟨request.leaseId⟩
  let session := AuthenticatedSession.fromVerified verifiedSession
  let fail (core : WorkerCore) (reason : ResourceReason) : (ResourceResponseKind × ResourceResult) × WorkerCore :=
    ((kind, resourceFailure request.leaseId core.incarnation reason), core)
  if requestId = 0 || request.workerIncarnationId ≠ core.incarnation.bytes then fail core .staleControllerLease
  else
    let (validated, leaseManager) := core.leaseManager.validate session leaseId nowMs
    let core := { core with leaseManager }
    match validated with
    | .error _ => fail core .staleControllerLease
    | .ok proof =>
      let core := { core with
        resourceRequests := core.resourceRequests.retain fun (cachedLease, _) entry =>
          cachedLease = leaseId && nowMs - entry.terminalAtMs ≤ terminalRetentionMs }
      let key := (leaseId, requestId)
      match core.resourceRequests.get? key with
      | some entry => if entry.request = request then ((entry.kind, entry.result), core) else fail core .requestIdConflict
      | none =>
        if 1024 ≤ core.resourceRequests.count fun (cachedLease, _) _ => cachedLease = leaseId then
          fail core .idempotenceTableFull
        else
          let (answer, core) := core.dispatchResource session proof leaseId requestId request nowMs reads
          ((kind, answer.result), if answer.cached then
            { core with
              resourceRequests := core.resourceRequests.insert key ⟨request, kind, answer.result, nowMs⟩ }
            else core)

def applyRemoteBufferRequest (core : WorkerCore) (verifiedSession : VerifiedPeerSession)
    (request : RemoteBufferRequest) (nowMs : Nat) (memory : Nat → Bool) (reads : Entropy) :
    (RemoteBufferResponseKind × BufferResult) × WorkerCore :=
  let core := core.reconcileExpiredControllerLease nowMs
  let kind := remoteBufferResponseKind request
  if request.workerIncarnationId ≠ core.incarnation.bytes then
    ((kind, remoteBufferFailure request.leaseId core.incarnation .bufferWrongIncarnation), core)
  else
    let session := AuthenticatedSession.fromVerified verifiedSession
    let (validated, leaseManager) := core.leaseManager.validate session ⟨request.leaseId⟩ nowMs
    let core := { core with leaseManager }
    match validated with
    | .error _ => ((kind, remoteBufferFailure request.leaseId core.incarnation .staleControllerLease), core)
    | .ok proof =>
      let (answer, remoteBuffers, resourceGuard) := core.remoteBuffers.apply core.resourceGuard proof
        (.fromVerified verifiedSession.sessionId) request nowMs memory reads
      (answer, { core with remoteBuffers, resourceGuard })

def cacheComputeRefusal (core : WorkerCore) (leaseId : LeaseId) (sessionId : SessionBinding) (requestId : UInt64)
    (submit : ComputeSubmit) (reason : ComputeReason) (nowMs : Nat) : ComputeResponse × WorkerCore :=
  let response := absentResult submit core.incarnation reason
  (response, { core with
    computeJobs := core.computeJobs.cacheRefusal leaseId requestId sessionId submit response nowMs })

/-- The checks on the SUBMIT itself, and then on the buffer it names. -/
def submitRefusal (core : WorkerCore) (proof : LeaseProof) (sessionId : SessionBinding) (submit : ComputeSubmit)
    (nowMs : Nat) : Option ComputeReason × WorkerCore :=
  if (submit.providerId, submit.providerVersion) ≠ (blake3ProviderId, blake3ProviderVersion) then
    (some .unsupportedProvider, core)
  else if submit.inputKind ≠ remoteBufferInputKind then (some .invalidInput, core)
  else if maxComputeInputBytes < submit.inputLength.toNat
      || (checkedAdd submit.inputOffset.toNat submit.inputLength.toNat).isNone then (some .inputTooLarge, core)
  else
    let (validated, remoteBuffers, resourceGuard) := core.remoteBuffers.validateComputeInput core.resourceGuard proof
      sessionId submit.bufferId submit.inputOffset.toNat submit.inputLength.toNat nowMs
    (match validated with
      | .error reason => some reason
      | .ok () => none, { core with remoteBuffers, resourceGuard })

/-- Publication, the provider run and the terminal answer of an admitted job.
The two `expect`s of the source are the missing cases. -/
def runJob (hasher : Hasher) (core : WorkerCore) (proof : LeaseProof) (sessionId : SessionBinding)
    (staged : JobRecord) (submit : ComputeSubmit) (nowMs : Nat) (run : ProviderRun) : ComputeResponse × WorkerCore :=
  let (jobId, computeJobs) := core.computeJobs.publishRunning staged submit nowMs
  let core := { core with computeJobs }
  let panicked := (absentResult submit core.incarnation .internalError, core)
  match core.computeJobs.jobInput jobId with
  | none => panicked
  | some input =>
    let digest := core.remoteBuffers.withComputeInput proof sessionId input.bufferId input.offset input.length
      fun bytes => blake3DigestBounded hasher run bytes nowMs
    match core.computeJobs.terminalize core.resourceGuard jobId sessionId (digest.getD (.error .internalError))
        run.finishedMs with
    | none => panicked
    | some (response, computeJobs, resourceGuard) => (response, { core with computeJobs, resourceGuard })

def scratchOf (snapshot : Option ReservationSnapshot) : Option Nat :=
  (snapshot.filter fun snapshot =>
    snapshot.resourceClass = .nativeOpScratchBytes && 0 < snapshot.bytes
      && snapshot.bytes ≤ nativeOpScratchMaxBytes && snapshot.wireState = .committed).map ReservationSnapshot.bytes

def applyComputeSubmit (hasher : Hasher) (core : WorkerCore) (proof : LeaseProof) (sessionId : SessionBinding)
    (requestId : UInt64) (submit : ComputeSubmit) (nowMs : Nat) (run : ProviderRun) (reads : Entropy) :
    ComputeResponse × WorkerCore :=
  let (lookup, computeJobs) := core.computeJobs.checkSubmit proof.leaseId requestId sessionId submit nowMs
  let core := { core with computeJobs }
  match lookup with
  | .replay response => (response, core)
  | .conflict => (absentResult submit core.incarnation .requestIdConflict, core)
  | .full => (absentResult submit core.incarnation .idempotenceTableFull, core)
  | .vacant =>
    match core.submitRefusal proof sessionId submit nowMs with
    | (some reason, core) => core.cacheComputeRefusal proof.leaseId sessionId requestId submit reason nowMs
    | (none, core) =>
      let reservationId : ReservationId := ⟨submit.reservationId⟩
      let (snapshot, resourceGuard) := core.resourceGuard.reservationSnapshot proof reservationId nowMs
      let core := { core with resourceGuard }
      match scratchOf snapshot with
      | none => core.cacheComputeRefusal proof.leaseId sessionId requestId submit .reservationInvalid nowMs
      | some scratchBytes =>
        match core.computeJobs.stage proof sessionId requestId submit scratchBytes nowMs reads with
        | none => core.cacheComputeRefusal proof.leaseId sessionId requestId submit .internalError nowMs
        | some staged =>
          match core.resourceGuard.consumeForCompute proof reservationId nowMs with
          | (.error _, resourceGuard) =>
            { core with resourceGuard }.cacheComputeRefusal proof.leaseId sessionId requestId submit
              .reservationInvalid nowMs
          | (.ok _, resourceGuard) => { core with resourceGuard }.runJob hasher proof sessionId staged submit nowMs run

def applyComputeRequest (hasher : Hasher) (core : WorkerCore) (verifiedSession : VerifiedPeerSession)
    (requestId : UInt64) (request : ComputeRequest) (nowMs : Nat) (run : ProviderRun) (reads : Entropy) :
    ComputeResponse × WorkerCore :=
  let core := core.reconcileExpiredControllerLease nowMs
  if request.workerIncarnationId ≠ core.incarnation.bytes then
    (computeRequestFailure request core.incarnation .wrongWorkerIncarnation, core)
  else
    let session := AuthenticatedSession.fromVerified verifiedSession
    let (validated, leaseManager) := core.leaseManager.validate session ⟨request.leaseId⟩ nowMs
    let core := { core with leaseManager }
    match validated with
    | .error _ => (computeRequestFailure request core.incarnation .staleControllerLease, core)
    | .ok proof =>
      if requestId = 0 then (computeRequestFailure request core.incarnation .staleControllerLease, core)
      else
        let sessionId := SessionBinding.fromVerified verifiedSession.sessionId
        match request with
        | .submit submit => core.applyComputeSubmit hasher proof sessionId requestId submit nowMs run reads
        | .status status =>
          let (response, computeJobs) := core.computeJobs.status proof sessionId status nowMs
          (response, { core with computeJobs })
        | .cancel cancel =>
          let (response, computeJobs, resourceGuard) :=
            core.computeJobs.cancel core.resourceGuard proof sessionId requestId cancel nowMs
          (response, { core with computeJobs, resourceGuard })

/-- The controller lease is left alone, so this call does not reconcile it. -/
def authenticatedSessionEnded (core : WorkerCore) (verifiedSession : VerifiedPeerSession) (nowMs : Nat) : WorkerCore :=
  let sessionId := SessionBinding.fromVerified verifiedSession.sessionId
  let (computeJobs, resourceGuard) := core.computeJobs.sessionLost core.resourceGuard sessionId nowMs
  let (remoteBuffers, resourceGuard) := core.remoteBuffers.sessionLost resourceGuard sessionId nowMs
  { core with computeJobs, remoteBuffers, resourceGuard }

end WorkerCore
end PhoneBoost.Worker
