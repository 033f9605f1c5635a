import PhoneBoost.Proofs.Holdings
import PhoneBoost.Worker.Calls

/-! What one entry point does once an expired lease has been ended. The lease
manager then has nothing left to expire, so the second look that every request
takes at it changes nothing. -/

namespace PhoneBoost.Worker.Proofs
open Keyed RemoteBufferStore WorkerCore
open Pbmux (BufferResult ComputeJobState ComputeReason ComputeResponse ComputeSubmit RemoteBufferRequest RemoteBufferResponseKind
  ResourceReason ResourceRequest ResourceResponseKind ResourceResult)

/-- No lease is left to expire at this reading. -/
def Settled (core : WorkerCore) (nowMs : Nat) : Prop := core.leaseManager.expireIfNeeded nowMs = (none, core.leaseManager)

variable {core : WorkerCore} {nowMs : Nat}

@[simp] theorem endLease_leaseManager (core : WorkerCore) (leaseId : LeaseId) (nowMs : Nat) :
    (core.endLease leaseId nowMs).leaseManager = core.leaseManager := rfl

@[simp] theorem reconcile_leaseManager (core : WorkerCore) (nowMs : Nat) :
    (core.reconcileExpiredControllerLease nowMs).leaseManager = (core.leaseManager.expireIfNeeded nowMs).2 := by
  unfold reconcileExpiredControllerLease
  dsimp only
  split <;> rfl

@[simp] theorem reconcile_resourceRequests (core : WorkerCore) (nowMs : Nat) :
    (core.reconcileExpiredControllerLease nowMs).resourceRequests = core.resourceRequests := by
  unfold reconcileExpiredControllerLease
  dsimp only
  split <;> rfl

@[simp] theorem reconcile_incarnation (core : WorkerCore) (nowMs : Nat) :
    (core.reconcileExpiredControllerLease nowMs).incarnation = core.incarnation := by
  unfold reconcileExpiredControllerLease
  dsimp only
  split <;> rfl

theorem reconcile_settled (core : WorkerCore) (nowMs : Nat) : Settled (core.reconcileExpiredControllerLease nowMs) nowMs := by
  rw [Settled, reconcile_leaseManager, expireIfNeeded_twice]

/-- Nothing happens while the lease lasts; otherwise it ends in all stores. -/
theorem reconcile_cases (core : WorkerCore) (nowMs : Nat) :
    (core.reconcileExpiredControllerLease nowMs = core ∧ Settled core nowMs) ∨
    ∃ active, core.leaseManager.active = some active ∧ active.expiresAtMs ≤ nowMs ∧
      core.reconcileExpiredControllerLease nowMs =
        { core with leaseManager := (core.leaseManager.expireIfNeeded nowMs).2 }.endLease active.id nowMs := by
  unfold reconcileExpiredControllerLease Settled
  cases held : core.leaseManager.active with
  | none =>
    left
    simp [ControllerLeaseManager.expireIfNeeded, held]
  | some active =>
    by_cases due : active.expiresAtMs ≤ nowMs
    · right
      refine ⟨active, rfl, due, ?_⟩
      simp [ControllerLeaseManager.expireIfNeeded, held, due]
    · left
      simp [ControllerLeaseManager.expireIfNeeded, held, due]

theorem Settled.live (settled : Settled core nowMs) {active : ActiveLease} (held : core.leaseManager.active = some active) :
    nowMs < active.expiresAtMs := by
  have live := expireIfNeeded_live core.leaseManager nowMs
  rw [settled] at live
  exact live active held

theorem Settled.held (settled : Settled core nowMs) {session : AuthenticatedSession} {leaseId : LeaseId} {active : ActiveLease}
    (holds : Holds core.leaseManager session leaseId nowMs active) : core.leaseManager.active = some active := by
  have held := holds.held
  rwa [settled] at held

/-- The proof that a validated session works under. -/
def proofOf (leaseId : LeaseId) (active : ActiveLease) : LeaseProof := ⟨leaseId, active.incarnation, active.peerId⟩

/-- The result cache as a request of this lease finds it. -/
def pruned (core : WorkerCore) (leaseId : LeaseId) (nowMs : Nat) : WorkerCore :=
  { core with
    resourceRequests := core.resourceRequests.retain fun (cachedLease, _) entry =>
      cachedLease = leaseId && nowMs - entry.terminalAtMs ≤ terminalRetentionMs }

/-- A request of the resource channel on a settled worker. -/
inductive ResourceServed (core : WorkerCore) (session : AuthenticatedSession) (requestId : UInt64) (request : ResourceRequest)
    (nowMs : Nat) (reads : Entropy) : ResourceResponseKind × ResourceResult → WorkerCore → Prop where
  | stale (invalid : requestId = 0 ∨ request.workerIncarnationId ≠ core.incarnation.bytes ∨
      ∀ active, ¬ Holds core.leaseManager session ⟨request.leaseId⟩ nowMs active) :
      ResourceServed core session requestId request nowMs reads
        (resourceResponseKind request, resourceFailure request.leaseId core.incarnation .staleControllerLease) core
  | replay {active entry} (valid : requestId ≠ 0 ∧ request.workerIncarnationId = core.incarnation.bytes)
      (holds : Holds core.leaseManager session ⟨request.leaseId⟩ nowMs active)
      (found : (pruned core ⟨request.leaseId⟩ nowMs).resourceRequests.get? (⟨request.leaseId⟩, requestId) = some entry)
      (same : entry.request = request) :
      ResourceServed core session requestId request nowMs reads (entry.kind, entry.result)
        (pruned core ⟨request.leaseId⟩ nowMs)
  | conflict {active entry} (valid : requestId ≠ 0 ∧ request.workerIncarnationId = core.incarnation.bytes)
      (holds : Holds core.leaseManager session ⟨request.leaseId⟩ nowMs active)
      (found : (pruned core ⟨request.leaseId⟩ nowMs).resourceRequests.get? (⟨request.leaseId⟩, requestId) = some entry)
      (differs : entry.request ≠ request) :
      ResourceServed core session requestId request nowMs reads
        (resourceResponseKind request, resourceFailure request.leaseId core.incarnation .requestIdConflict)
        (pruned core ⟨request.leaseId⟩ nowMs)
  | full {active} (valid : requestId ≠ 0 ∧ request.workerIncarnationId = core.incarnation.bytes)
      (holds : Holds core.leaseManager session ⟨request.leaseId⟩ nowMs active)
      (absent : (pruned core ⟨request.leaseId⟩ nowMs).resourceRequests.get? (⟨request.leaseId⟩, requestId) = none)
      (full : 1024 ≤ (pruned core ⟨request.leaseId⟩ nowMs).resourceRequests.count fun (cachedLease, _) _ =>
        cachedLease = ⟨request.leaseId⟩) :
      ResourceServed core session requestId request nowMs reads
        (resourceResponseKind request, resourceFailure request.leaseId core.incarnation .idempotenceTableFull)
        (pruned core ⟨request.leaseId⟩ nowMs)
  | fresh {active answer core'} (valid : requestId ≠ 0 ∧ request.workerIncarnationId = core.incarnation.bytes)
      (holds : Holds core.leaseManager session ⟨request.leaseId⟩ nowMs active)
      (absent : (pruned core ⟨request.leaseId⟩ nowMs).resourceRequests.get? (⟨request.leaseId⟩, requestId) = none)
      (room : (pruned core ⟨request.leaseId⟩ nowMs).resourceRequests.count (fun (cachedLease, _) _ =>
        cachedLease = ⟨request.leaseId⟩) < 1024)
      (dispatched : (pruned core ⟨request.leaseId⟩ nowMs).dispatchResource session (proofOf ⟨request.leaseId⟩ active)
        ⟨request.leaseId⟩ requestId request nowMs reads = (answer, core')) :
      ResourceServed core session requestId request nowMs reads (resourceResponseKind request, answer.result)
        (if answer.cached then
          { core' with
            resourceRequests := core'.resourceRequests.insert (⟨request.leaseId⟩, requestId)
              ⟨request, resourceResponseKind request, answer.result, nowMs⟩ }
        else core')

theorem applyResourceRequest_served (core : WorkerCore) (session : VerifiedPeerSession) (requestId : UInt64)
    (request : ResourceRequest) (nowMs : Nat) (reads : Entropy) :
    ResourceServed (core.reconcileExpiredControllerLease nowMs) (.fromVerified session) requestId request nowMs reads
      (core.applyResourceRequest session requestId request nowMs reads).1
      (core.applyResourceRequest session requestId request nowMs reads).2 := by
  unfold applyResourceRequest
  have settled := reconcile_settled core nowMs
  generalize core.reconcileExpiredControllerLease nowMs = core at settled
  dsimp only
  split
  next invalid =>
    simp only [Bool.or_eq_true, decide_eq_true_eq] at invalid
    exact .stale (invalid.imp_right .inl)
  next valid =>
    simp only [Bool.or_eq_true, decide_eq_true_eq, not_or, not_not] at valid
    by_cases authorized : ∃ active, Holds core.leaseManager (.fromVerified session) ⟨request.leaseId⟩ nowMs active
    · obtain ⟨active, holds⟩ := authorized
      rw [validate_of_holds holds, settled]
      dsimp only
      split
      next entry found =>
        split
        next same => exact .replay valid holds found same
        next differs => exact .conflict valid holds found differs
      next absent =>
        split
        next full => exact .full valid holds absent full
        next room => exact .fresh valid holds absent (Nat.lt_of_not_le room) rfl
    · rw [validate_error (not_exists.mp authorized), settled]
      exact .stale (.inr (.inr (not_exists.mp authorized)))

section Dispatch
variable {session : AuthenticatedSession} {leaseId : LeaseId} {active : ActiveLease} {reads : Entropy}
  {allowed : LeaseProof → ReserveRequest → Prop}

theorem Settled.validated (settled : Settled core nowMs) (holds : Holds core.leaseManager session leaseId nowMs active) :
    core.leaseManager.validate session leaseId nowMs = (.ok (proofOf leaseId active), core.leaseManager) := by
  rw [validate_of_holds holds, settled]
  rfl

theorem applyReserve_core (settled : Settled core nowMs) (holds : Holds core.leaseManager session leaseId nowMs active)
    (requestId : UInt64) (resourceClass : Pbmux.ResourceClass) (requestedBytes : UInt64) :
    ∃ guard, (allowed (proofOf leaseId active) ⟨requestId, workerClass resourceClass, requestedBytes.toNat⟩ →
        Unseen core.resourceGuard reads → GuardSteps nowMs reads allowed core.resourceGuard guard) ∧
      (core.applyReserve session (proofOf leaseId active) leaseId requestId resourceClass requestedBytes nowMs reads).2 =
        { core with resourceGuard := guard } := by
  have validated := settled.validated holds
  obtain ⟨decision, guard', reserved, same⟩ := reserve_reserved validated core.resourceGuard
    ⟨requestId, workerClass resourceClass, requestedBytes.toNat⟩ reads
  have steps : allowed (proofOf leaseId active) ⟨requestId, workerClass resourceClass, requestedBytes.toNat⟩ →
      Unseen core.resourceGuard reads →
      GuardSteps nowMs reads allowed core.resourceGuard guard' :=
    fun holder unseen => (reserved.steps holder (unseen.scan _ _ _)).head (.scan _ _)
  unfold applyReserve
  rw [same]
  cases decision with
  | reserved id =>
    have snapshotGuard := reservationSnapshot_guard guard' (proofOf leaseId active) id nowMs
    refine ⟨_, fun holder unseen => (steps holder unseen).tail (.scan leaseId active.incarnation), ?_⟩
    dsimp only
    rcases taken : guard'.reservationSnapshot (proofOf leaseId active) id nowMs with ⟨snapshot, guard⟩
    rw [taken] at snapshotGuard
    subst snapshotGuard
    cases snapshot <;> rfl
  | refusedSafety | refusedBudget | unknownResourceClass | staleLease | idempotenceConflict | idempotenceTableFull
  | entropyUnavailable => exact ⟨guard', steps, rfl⟩

theorem applyCommit_core (settled : Settled core nowMs) (holds : Holds core.leaseManager session leaseId nowMs active)
    (id : ReservationId) :
    ∃ guard, GuardSteps nowMs reads allowed core.resourceGuard guard ∧
      (core.applyCommit session (proofOf leaseId active) leaseId id nowMs).2 = { core with resourceGuard := guard } := by
  obtain ⟨decision, guard', committed, same⟩ := commit_committed (settled.validated holds) core.resourceGuard id
  have snapshotGuard := reservationSnapshot_guard guard' (proofOf leaseId active) id nowMs
  refine ⟨_, (committed.steps.head (.scan _ _)).tail (.scan leaseId active.incarnation), ?_⟩
  unfold applyCommit
  rw [same]
  dsimp only
  rw [snapshotGuard]
  rfl

theorem applyRelease_core (settled : Settled core nowMs) (holds : Holds core.leaseManager session leaseId nowMs active)
    (id : ReservationId) :
    ∃ guard, GuardSteps nowMs reads allowed core.resourceGuard guard ∧
      (core.applyRelease session (proofOf leaseId active) leaseId id nowMs).2 = { core with resourceGuard := guard } := by
  obtain ⟨decision, guard', released, same⟩ := release_released (settled.validated holds) core.resourceGuard id
  have snapshotGuard := reservationSnapshot_guard guard' (proofOf leaseId active) id nowMs
  refine ⟨_, (released.steps.head (.scan _ _)).tail (.scan leaseId active.incarnation), ?_⟩
  unfold applyRelease
  rw [same]
  dsimp only
  rw [snapshotGuard]
  rfl

/-- What a request asks of the guard's RESERVE. -/
def asked (requestId : UInt64) : ResourceRequest → Option ReserveRequest
  | .reserve _ _ resourceClass requestedBytes => some ⟨requestId, workerClass resourceClass, requestedBytes.toNat⟩
  | _ => none

/-- A dispatched request moves the guard and nothing else. -/
theorem dispatchResource_core (allowed : LeaseProof → ReserveRequest → Prop) (settled : Settled core nowMs)
    (holds : Holds core.leaseManager session leaseId nowMs active) (requestId : UInt64) (request : ResourceRequest) :
    ∃ guard, ((∀ ask ∈ asked requestId request, allowed (proofOf leaseId active) ask) → Unseen core.resourceGuard reads →
        GuardSteps nowMs reads allowed core.resourceGuard guard) ∧
      (core.dispatchResource session (proofOf leaseId active) leaseId requestId request nowMs reads).2 =
        { core with resourceGuard := guard } := by
  cases request with
  | reserve _ _ resourceClass requestedBytes =>
    obtain ⟨guard, steps, same⟩ := applyReserve_core settled holds requestId resourceClass requestedBytes
    exact ⟨guard, fun holder => steps (holder _ rfl), same⟩
  | commit _ _ reservationId =>
    obtain ⟨guard, steps, same⟩ := applyCommit_core settled holds ⟨reservationId⟩
    exact ⟨guard, fun _ _ => steps, same⟩
  | release _ _ reservationId =>
    obtain ⟨guard, steps, same⟩ := applyRelease_core settled holds ⟨reservationId⟩
    exact ⟨guard, fun _ _ => steps, same⟩

end Dispatch

/-- A request of the buffer channel on a settled worker: refused before it
reaches the store, or served by the store. -/
inductive BufferServed (core : WorkerCore) (session : VerifiedPeerSession) (request : RemoteBufferRequest) (nowMs : Nat)
    (reads : Entropy) : BufferResult → WorkerCore → Prop where
  | stale {result} (fails : result.completed = false) : BufferServed core session request nowMs reads result core
  | served {active result store guard}
      (holds : Holds core.leaseManager (.fromVerified session) ⟨request.leaseId⟩ nowMs active)
      (served : Served (core.remoteBuffers.expireAndPurge core.resourceGuard nowMs).1
        (core.remoteBuffers.expireAndPurge core.resourceGuard nowMs).2 (proofOf ⟨request.leaseId⟩ active)
        (.fromVerified session.sessionId) nowMs reads request result store guard) :
      BufferServed core session request nowMs reads result { core with remoteBuffers := store, resourceGuard := guard }

theorem applyRemoteBufferRequest_served (core : WorkerCore) (session : VerifiedPeerSession) (request : RemoteBufferRequest)
    (nowMs : Nat) (memory : Nat → Bool) (reads : Entropy) :
    BufferServed (core.reconcileExpiredControllerLease nowMs) session request nowMs reads
      (core.applyRemoteBufferRequest session request nowMs memory reads).1.2
      (core.applyRemoteBufferRequest session request nowMs memory reads).2 := by
  unfold applyRemoteBufferRequest
  have settled := reconcile_settled core nowMs
  generalize core.reconcileExpiredControllerLease nowMs = core at settled
  dsimp only
  split
  · exact .stale rfl
  next =>
    by_cases authorized : ∃ active, Holds core.leaseManager (.fromVerified session) ⟨request.leaseId⟩ nowMs active
    · obtain ⟨active, holds⟩ := authorized
      rw [settled.validated holds]
      exact .served holds (apply_served core.remoteBuffers core.resourceGuard (proofOf ⟨request.leaseId⟩ active)
        (.fromVerified session.sessionId) request nowMs memory reads)
    · rw [validate_error (not_exists.mp authorized), settled]
      exact .stale rfl

/-- The answer to a SUBMIT that started no job: a refusal, or what an earlier
SUBMIT of the same content was told. -/
def Unserved (core : WorkerCore) (leaseId : LeaseId) (requestId : UInt64) (submit : ComputeSubmit)
    (response : ComputeResponse) : Prop :=
  (∃ reason, response = absentResult submit core.incarnation reason) ∨
  ∃ entry, core.computeJobs.submits.get? (leaseId, requestId) = some entry ∧ entry.request = submit ∧
    response = entry.response

/-- SUBMIT under a valid proof. Refusals differ only in how far they got; an
admitted job is published, run and finished before the call returns. -/
inductive Submitted (core : WorkerCore) (proof : LeaseProof) (sessionId : SessionBinding) (requestId : UInt64)
    (submit : ComputeSubmit) (nowMs finishedMs : Nat) (reads : Entropy) : ComputeResponse → WorkerCore → Prop where
  | early {computeJobs response} (unserved : Unserved core proof.leaseId requestId submit response)
      (jobs : computeJobs.jobs = (core.computeJobs.purge nowMs).jobs) :
      Submitted core proof sessionId requestId submit nowMs finishedMs reads response { core with computeJobs }
  | refuse {computeJobs store guard response} (scans : Nat) (unserved : Unserved core proof.leaseId requestId submit response)
      (jobs : computeJobs.jobs = (core.computeJobs.purge nowMs).jobs)
      (input : Refused (core.remoteBuffers.expireAndPurge core.resourceGuard nowMs).1
        (core.remoteBuffers.expireAndPurge core.resourceGuard nowMs).2 sessionId nowMs store guard) :
      Submitted core proof sessionId requestId submit nowMs finishedMs reads response { core with
        computeJobs
        remoteBuffers := store
        resourceGuard := scanned proof nowMs scans guard }
  | run {computeJobs store guard record reservation state reason digest response} (running : Running record)
      (names : record.scratchReservationId = ⟨submit.reservationId⟩)
      (vacant : (core.computeJobs.purge nowMs).jobs.get? record.jobId = none) (member : record.jobId ∈ drawn reads)
      (input : Refused (core.remoteBuffers.expireAndPurge core.resourceGuard nowMs).1
        (core.remoteBuffers.expireAndPurge core.resourceGuard nowMs).2 sessionId nowMs store guard)
      (found : (scanned proof nowMs 2 guard).reservations.get? record.scratchReservationId = some reservation)
      (committed : reservation.state = .committed) (sameClass : reservation.resourceClass = .nativeOpScratchBytes)
      (bytes : reservation.bytes = record.scratchBytes) (terminal : state.isTerminal = true)
      (jobs : computeJobs.jobs = ((core.computeJobs.purge nowMs).jobs.insert record.jobId record).modify record.jobId
        fun _ => ComputeJobStore.finished record state reason digest finishedMs) :
      Submitted core proof sessionId requestId submit nowMs finishedMs reads response { core with
        computeJobs
        remoteBuffers := store
        resourceGuard := (ComputeJobStore.finishRecord record
          (handedOver (scanned proof nowMs 2 guard) record.scratchReservationId) state reason digest finishedMs).2 }

/-- Only an entry that was there, for the same content, is replayed. -/
theorem checkSubmit_replay {store : ComputeJobStore} {leaseId : LeaseId} {requestId : UInt64} {sessionId : SessionBinding}
    {submit : ComputeSubmit} {response : ComputeResponse}
    (replays : (store.checkSubmit leaseId requestId sessionId submit nowMs).1 = .replay response) :
    ∃ entry, store.submits.get? (leaseId, requestId) = some entry ∧ entry.request = submit ∧ response = entry.response := by
  unfold ComputeJobStore.checkSubmit at replays
  dsimp only at replays
  generalize remains : (if ((store.purge nowMs).submits.get? (leaseId, requestId)).any fun entry => entry.sessionId ≠ sessionId then
      { store.purge nowMs with submits := (store.purge nowMs).submits.erase (leaseId, requestId) }
    else store.purge nowMs) = kept at replays
  have still : ∀ entry, kept.submits.get? (leaseId, requestId) = some entry →
      store.submits.get? (leaseId, requestId) = some entry := by
    intro entry found
    rw [← remains] at found
    split at found
    · rw [Table.get?_erase_self] at found
      cases found
    · exact ((Table.get?_retain_eq_some _ _ _ _).mp found).1
  split at replays
  next entry found =>
    split at replays
    next same =>
      cases replays
      exact ⟨entry, still entry found, same, rfl⟩
    next => cases replays
  next => split at replays <;> cases replays

theorem checkSubmit_jobs (store : ComputeJobStore) (leaseId : LeaseId) (requestId : UInt64) (sessionId : SessionBinding)
    (submit : ComputeSubmit) (nowMs : Nat) :
    (store.checkSubmit leaseId requestId sessionId submit nowMs).2.jobs = (store.purge nowMs).jobs := by
  unfold ComputeJobStore.checkSubmit
  dsimp only
  split <;> split <;> (try split) <;> rfl

theorem submitRefusal_cases (core : WorkerCore) (proof : LeaseProof) (sessionId : SessionBinding) (submit : ComputeSubmit)
    (nowMs : Nat) :
    (∃ reason, core.submitRefusal proof sessionId submit nowMs = (some reason, core)) ∨
    ∃ refusal store guard, Refused (core.remoteBuffers.expireAndPurge core.resourceGuard nowMs).1
        (core.remoteBuffers.expireAndPurge core.resourceGuard nowMs).2 sessionId nowMs store guard ∧
      core.submitRefusal proof sessionId submit nowMs =
        (refusal, { core with remoteBuffers := store, resourceGuard := guard }) := by
  unfold submitRefusal
  split
  · exact .inl ⟨_, rfl⟩
  · split
    · exact .inl ⟨_, rfl⟩
    · split
      · exact .inl ⟨_, rfl⟩
      · exact .inr ⟨_, _, _, validateComputeInput_refused core.remoteBuffers core.resourceGuard proof sessionId
          submit.bufferId submit.inputOffset.toNat submit.inputLength.toNat nowMs, rfl⟩

theorem stage_some {store : ComputeJobStore} {proof : LeaseProof} {sessionId : SessionBinding} {requestId : UInt64}
    {submit : ComputeSubmit} {scratchBytes : Nat} {reads : Entropy} {staged : JobRecord}
    (staging : store.stage proof sessionId requestId submit scratchBytes nowMs reads = some staged) :
    store.jobs.get? staged.jobId = none ∧ staged.jobId ∈ drawn reads ∧ staged.sessionId = sessionId ∧
      staged.scratchReservationId = ⟨submit.reservationId⟩ ∧ staged.scratchBytes = scratchBytes ∧
      staged.scratchReleased = false ∧ staged.terminalMonoMs = none := by
  obtain ⟨jobId, drawn, rfl⟩ := Option.map_eq_some_iff.mp staging
  obtain ⟨free, _, member⟩ := drawUnused_drawn drawn
  exact ⟨by simpa using free, member, rfl, rfl, rfl, rfl, rfl⟩

/-- The record under which an admitted job runs. -/
def launched (staged : JobRecord) (nowMs : Nat) : JobRecord := { staged with state := .running, startedMonoMs := some nowMs }

theorem finishRecord_live {record : JobRecord} (live : record.state.isTerminal = false) (guard : ResourceGuard)
    (state : ComputeJobState) (reason : ComputeReason) (digest : Option Bytes32) (finishedMs : Nat) :
    ComputeJobStore.finishRecord record guard state reason digest finishedMs =
      (ComputeJobStore.finished record state reason digest finishedMs,
        (ComputeJobStore.finishRecord record guard state reason digest finishedMs).2) := by
  simp [ComputeJobStore.finishRecord, live]

/-- How a job ends that reaches its end with this outcome, at this time. -/
inductive Verdict (record : JobRecord) (outcome : Except ComputeReason Bytes32) (finishedMs : Nat) :
    ComputeJobState → ComputeReason → Option Bytes32 → Prop where
  | lost : Verdict record outcome finishedMs .failed .sessionLost none
  | late : Verdict record outcome finishedMs .failed .providerTimeout none
  | failed {reason : ComputeReason} (done : outcome = .error reason) : Verdict record outcome finishedMs .failed reason none
  | completed {digest : Bytes32} (done : outcome = .ok digest)
      (intime : finishedMs - record.startedMonoMs.getD record.createdMonoMs ≤ providerTimeoutMs) :
      Verdict record outcome finishedMs .completed .none (some digest)

theorem Verdict.ended {record : JobRecord} {outcome : Except ComputeReason Bytes32} {finishedMs : Nat} {state : ComputeJobState}
    {reason : ComputeReason} {digest : Option Bytes32} (verdict : Verdict record outcome finishedMs state reason digest) :
    state.isTerminal = true ∧ (state = .completed ∨ state = .failed) := by
  cases verdict <;> decide

theorem terminalize_verdict {store : ComputeJobStore} {record : JobRecord} (found : store.jobs.get? record.jobId = some record)
    (live : record.state.isTerminal = false) (guard : ResourceGuard) (sessionId : SessionBinding)
    (outcome : Except ComputeReason Bytes32) (finishedMs : Nat) :
    ∃ state reason digest, Verdict record outcome finishedMs state reason digest ∧
      let last := ComputeJobStore.finished record state reason digest finishedMs
      store.terminalize guard record.jobId sessionId outcome finishedMs =
        some (last.result, { store with jobs := store.jobs.modify record.jobId fun _ => last }.answerSubmit last finishedMs,
          (ComputeJobStore.finishRecord record guard state reason digest finishedMs).2) := by
  unfold ComputeJobStore.terminalize
  rw [found, Option.map_some, if_neg (by simp [live])]
  dsimp only
  split
  · rw [finishRecord_live live]
    exact ⟨_, _, _, .lost, rfl⟩
  · split
    · rw [finishRecord_live live]
      exact ⟨_, _, _, .late, rfl⟩
    next intime =>
      split
      next digest =>
        rw [finishRecord_live live]
        exact ⟨_, _, _, .completed rfl (Nat.not_lt.mp intime), rfl⟩
      next reason =>
        rw [finishRecord_live live]
        exact ⟨_, _, _, .failed rfl, rfl⟩

/-- What the provider makes of the bytes that a staged job names. -/
def providerOutcome (hasher : Hasher) (core : WorkerCore) (proof : LeaseProof) (sessionId : SessionBinding) (staged : JobRecord)
    (nowMs : Nat) (run : ProviderRun) : Except ComputeReason Bytes32 :=
  (core.remoteBuffers.withComputeInput proof sessionId staged.input.bufferId staged.input.offset staged.input.length
    fun bytes => blake3DigestBounded hasher run bytes nowMs).getD (.error .internalError)

/-- An admitted job is published, run and ended within its call. -/
theorem runJob_verdict (hasher : Hasher) (core : WorkerCore) (proof : LeaseProof) (sessionId : SessionBinding)
    (staged : JobRecord) (submit : ComputeSubmit) (nowMs : Nat) (run : ProviderRun) :
    let published := (core.computeJobs.publishRunning staged submit nowMs).2
    ∃ state reason digest, Verdict (launched staged nowMs) (providerOutcome hasher core proof sessionId staged nowMs run)
        run.finishedMs state reason digest ∧
      let last := ComputeJobStore.finished (launched staged nowMs) state reason digest run.finishedMs
      core.runJob hasher proof sessionId staged submit nowMs run = (last.result, { core with
        computeJobs := { published with jobs := published.jobs.modify staged.jobId fun _ => last }.answerSubmit last run.finishedMs
        resourceGuard :=
          (ComputeJobStore.finishRecord (launched staged nowMs) core.resourceGuard state reason digest run.finishedMs).2 }) := by
  intro published
  have found : published.jobs.get? (launched staged nowMs).jobId = some (launched staged nowMs) := Table.get?_insert_self _ _ _
  have input : published.jobInput staged.jobId = some staged.input := by
    rw [ComputeJobStore.jobInput, show published.jobs.get? staged.jobId = _ from found]
    rfl
  obtain ⟨state, reason, digest, verdict, ends⟩ := terminalize_verdict found rfl core.resourceGuard sessionId
    (providerOutcome hasher core proof sessionId staged nowMs run) run.finishedMs
  refine ⟨state, reason, digest, verdict, ?_⟩
  rw [providerOutcome, show (launched staged nowMs).jobId = staged.jobId from rfl] at ends
  rw [runJob, show core.computeJobs.publishRunning staged submit nowMs = (staged.jobId, published) from rfl]
  dsimp only
  rw [input]
  dsimp only
  rw [ends]

theorem scratchOf_some {snapshot : Option ReservationSnapshot} {bytes : Nat} (held : scratchOf snapshot = some bytes) :
    ∃ taken, snapshot = some taken ∧ taken.bytes = bytes := by
  obtain ⟨taken, found, same⟩ := Option.map_eq_some_iff.mp held
  exact ⟨taken, (Option.filter_eq_some_iff.mp found).1, same⟩

theorem consumeForCompute_cases (guard : ResourceGuard) (proof : LeaseProof) (id : ReservationId) (nowMs : Nat) :
    (∃ error, guard.consumeForCompute proof id nowMs = (.error error, scanned proof nowMs 1 guard)) ∨
    ∃ bytes reservation, (scanned proof nowMs 1 guard).reservations.get? id = some reservation ∧
      reservation.state = .committed ∧ reservation.resourceClass = .nativeOpScratchBytes ∧
      guard.consumeForCompute proof id nowMs = (.ok bytes, handedOver (scanned proof nowMs 1 guard) id) := by
  unfold ResourceGuard.consumeForCompute
  rcases consume_cases guard proof id .nativeOpScratchBytes none nowMs with
    ⟨error, same⟩ | ⟨reservation, found, state, _, sameClass, _, same⟩
  · rw [same]
    exact .inl ⟨error, rfl⟩
  · rw [same]
    exact .inr ⟨_, reservation, found, state, sameClass, rfl⟩

theorem applyComputeSubmit_submitted (hasher : Hasher) (core : WorkerCore) (proof : LeaseProof) (sessionId : SessionBinding)
    (requestId : UInt64) (submit : ComputeSubmit) (nowMs : Nat) (run : ProviderRun) (reads : Entropy) :
    Submitted core proof sessionId requestId submit nowMs run.finishedMs reads
      (core.applyComputeSubmit hasher proof sessionId requestId submit nowMs run reads).1
      (core.applyComputeSubmit hasher proof sessionId requestId submit nowMs run reads).2 := by
  unfold applyComputeSubmit
  have purged := checkSubmit_jobs core.computeJobs proof.leaseId requestId sessionId submit nowMs
  have replays := @checkSubmit_replay nowMs core.computeJobs proof.leaseId requestId sessionId submit
  generalize core.computeJobs.checkSubmit proof.leaseId requestId sessionId submit nowMs = checked at purged replays ⊢
  obtain ⟨lookup, computeJobs⟩ := checked
  have refused : ∀ reason, Unserved core proof.leaseId requestId submit (absentResult submit core.incarnation reason) :=
    fun reason => .inl ⟨reason, rfl⟩
  dsimp only at purged replays ⊢
  cases lookup with
  | replay response => exact .early (.inr (replays rfl)) purged
  | conflict | full => exact .early (refused _) purged
  | vacant =>
    dsimp only
    rcases submitRefusal_cases { core with computeJobs } proof sessionId submit nowMs with
      ⟨reason, same⟩ | ⟨refusal, store, guard, input, same⟩
    · rw [same]
      exact .early (refused _) purged
    · rw [same]
      cases refusal with
      | some reason => exact .refuse 0 (refused _) purged input
      | none =>
        dsimp only
        rcases reservationSnapshot_cases guard proof ⟨submit.reservationId⟩ nowMs with
          ⟨taken, _⟩ | ⟨reservation, found, _, taken⟩
        · rw [taken]
          exact .refuse 1 (refused _) purged input
        · rw [taken]
          dsimp only
          split
          · exact .refuse 1 (refused _) purged input
          next scratchBytes scratch =>
            split
            · exact .refuse 1 (refused _) purged input
            next staged staging =>
              rcases consumeForCompute_cases (guard.expireAndPurge nowMs proof.leaseId proof.incarnation) proof
                  ⟨submit.reservationId⟩ nowMs with ⟨error, consumed⟩ | ⟨_, last, present, state, sameClass, consumed⟩
              · rw [consumed]
                exact .refuse 2 (refused _) purged input
              · obtain ⟨_, ⟨⟩, sameBytes⟩ := scratchOf_some scratch
                obtain ⟨vacant, member, _, names, bytes, unreleased, unended⟩ := stage_some staging
                obtain ⟨_, _, _, verdict, same⟩ := runJob_verdict hasher { core with
                  computeJobs
                  remoteBuffers := store
                  resourceGuard := handedOver (scanned proof nowMs 2 guard) ⟨submit.reservationId⟩ } proof sessionId staged
                  submit nowMs run
                have terms := scan_sameTerms found present
                rw [consumed]
                dsimp only
                refine (congrArg (Submitted core proof sessionId requestId submit nowMs run.finishedMs reads _)
                  (congrArg Prod.snd same)).mpr ?_
                rw [← names]
                refine .run ⟨rfl, unreleased, unended⟩ names ?_ member input (names ▸ present) state sameClass ?_ verdict.ended.1 ?_
                · rw [← purged]
                  exact vacant
                · exact terms.bytes.trans (sameBytes.trans bytes.symm)
                · rw [← purged]
                  rfl

/-- A request of the compute channel on a settled worker. -/
inductive ComputeServed (core : WorkerCore) (session : VerifiedPeerSession) (requestId : UInt64) (request : Pbmux.ComputeRequest)
    (nowMs finishedMs : Nat) (reads : Entropy) : ComputeResponse → WorkerCore → Prop where
  | stale (reason : ComputeReason) : ComputeServed core session requestId request nowMs finishedMs reads
      (computeRequestFailure request core.incarnation reason) core
  | submit {active core' submit response} (same : request = .submit submit)
      (holds : Holds core.leaseManager (.fromVerified session) ⟨request.leaseId⟩ nowMs active)
      (submitted : Submitted core (proofOf ⟨request.leaseId⟩ active) (.fromVerified session.sessionId) requestId submit
        nowMs finishedMs reads response core') :
      ComputeServed core session requestId request nowMs finishedMs reads response core'
  | look {computeJobs response} (other : ∀ submit, request ≠ .submit submit)
      (jobs : computeJobs.jobs = (core.computeJobs.purge nowMs).jobs) :
      ComputeServed core session requestId request nowMs finishedMs reads response { core with computeJobs }
  | cancel {computeJobs id record reason response} (other : ∀ submit, request ≠ .submit submit)
      (found : (core.computeJobs.purge nowMs).jobs.get? id = some record)
      (live : record.state.isTerminal = false)
      (jobs : computeJobs.jobs = (core.computeJobs.purge nowMs).jobs.modify id fun _ =>
        ComputeJobStore.finished record .cancelled reason none nowMs) :
      ComputeServed core session requestId request nowMs finishedMs reads response { core with
        computeJobs
        resourceGuard := (ComputeJobStore.finishRecord record core.resourceGuard .cancelled reason none nowMs).2 }

theorem status_jobs (store : ComputeJobStore) (proof : LeaseProof) (sessionId : SessionBinding)
    (request : Pbmux.ComputeJobRequest) (nowMs : Nat) :
    (store.status proof sessionId request nowMs).2.jobs = (store.purge nowMs).jobs := by
  unfold ComputeJobStore.status
  dsimp only
  split
  · rfl
  · split
    · rfl
    · split <;> rfl

theorem cancel_cases (store : ComputeJobStore) (guard : ResourceGuard) (proof : LeaseProof) (sessionId : SessionBinding)
    (requestId : UInt64) (request : Pbmux.ComputeJobRequest) (nowMs : Nat) :
    (∃ response store', store.cancel guard proof sessionId requestId request nowMs = (response, store', guard) ∧
      store'.jobs = (store.purge nowMs).jobs) ∨
    ∃ response store' record, store.cancel guard proof sessionId requestId request nowMs =
        (response, store', (ComputeJobStore.finishRecord record guard .cancelled .none none nowMs).2) ∧
      (store.purge nowMs).jobs.get? request.jobId = some record ∧ record.state.isTerminal = false ∧
      store'.jobs = (store.purge nowMs).jobs.modify request.jobId
        (fun _ => ComputeJobStore.finished record .cancelled .none none nowMs) := by
  unfold ComputeJobStore.cancel
  dsimp only
  split
  · split <;> exact .inl ⟨_, _, rfl, rfl⟩
  · split
    · exact .inl ⟨_, _, rfl, rfl⟩
    next record found =>
      by_cases owned : (!ComputeJobStore.owns record proof sessionId) = true
      · rw [if_pos owned]
        exact .inl ⟨_, _, rfl, rfl⟩
      · rw [if_neg owned]
        by_cases terminal : record.state.isTerminal = true
        · rw [if_pos terminal]
          exact .inl ⟨_, _, rfl, rfl⟩
        · have live : record.state.isTerminal = false := by simpa using terminal
          rw [if_neg terminal, finishRecord_live live]
          exact .inr ⟨_, _, record, rfl, found, live, rfl⟩

theorem applyComputeRequest_served (hasher : Hasher) (core : WorkerCore) (session : VerifiedPeerSession) (requestId : UInt64)
    (request : Pbmux.ComputeRequest) (nowMs : Nat) (run : ProviderRun) (reads : Entropy) :
    ComputeServed (core.reconcileExpiredControllerLease nowMs) session requestId request nowMs run.finishedMs reads
      (core.applyComputeRequest hasher session requestId request nowMs run reads).1
      (core.applyComputeRequest hasher session requestId request nowMs run reads).2 := by
  unfold applyComputeRequest
  have settled := reconcile_settled core nowMs
  generalize core.reconcileExpiredControllerLease nowMs = core at settled
  dsimp only
  split
  · exact .stale _
  next =>
    by_cases authorized : ∃ active, Holds core.leaseManager (.fromVerified session) ⟨request.leaseId⟩ nowMs active
    · obtain ⟨active, holds⟩ := authorized
      rw [settled.validated holds]
      dsimp only
      split
      · exact .stale _
      · cases request with
        | submit submit =>
          exact .submit rfl holds (applyComputeSubmit_submitted hasher core _ _ requestId submit nowMs run reads)
        | status status => exact .look (by simp) (status_jobs core.computeJobs _ _ status nowMs)
        | cancel cancel =>
          dsimp only
          rcases cancel_cases core.computeJobs core.resourceGuard (proofOf ⟨cancel.leaseId⟩ active)
            (.fromVerified session.sessionId) requestId cancel nowMs with
            ⟨_, computeJobs, same, jobs⟩ | ⟨_, computeJobs, record, same, found, live, jobs⟩
          · simp only [Pbmux.ComputeRequest.leaseId, same]
            exact .look (by simp) jobs
          · simp only [Pbmux.ComputeRequest.leaseId, same]
            exact .cancel (by simp) found live jobs
    · rw [validate_error (not_exists.mp authorized), settled]
      exact .stale _

end PhoneBoost.Worker.Proofs
