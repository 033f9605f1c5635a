import PhoneBoost.Proofs.BufferContent
import PhoneBoost.Proofs.CoreLifecycle

/-! What a result of the compute channel rests on. A digest is told only of bytes
that the worker held, ready and in the hands of the peer that asked, when the
SUBMIT behind it came in. Since a job is over when its SUBMIT returns, CANCEL
never finds one to cancel. -/

namespace PhoneBoost.Worker.Proofs
open Keyed Chunks WorkerCore
open Pbmux (ComputeJobRequest ComputeJobState ComputeReason ComputeRequest ComputeResponse ComputeResult ComputeStatus ComputeSubmit)

/-- Hashing piece by piece is hashing the pieces joined. -/
structure Incremental (hasher : Hasher) : Prop where
  empty : ∀ state, hasher.update state [] = state
  append : ∀ state first second, hasher.update (hasher.update state first) second = hasher.update state (first ++ second)

def plainDigest (hasher : Hasher) (input : List UInt8) : Bytes32 := hasher.finalize (hasher.update hasher.new input)

/-- A check of the provider that found the session alive and the time not used up. -/
def Passed (run : ProviderRun) (startedMs index : Nat) : Prop :=
  run.live index = true ∧ run.clock index - startedMs ≤ providerTimeoutMs

section Provider
variable {hasher : Hasher} {run : ProviderRun} {startedMs : Nat}

theorem providerCheck_ok {index : Nat} (ok : providerCheck run index startedMs = .ok ()) : Passed run startedMs index := by
  unfold providerCheck at ok
  split at ok
  · cases ok
  next live =>
    split at ok
    · cases ok
    next intime => exact ⟨by simpa using live, Nat.not_lt.mp intime⟩

theorem hashChunks_ok (incremental : Incremental hasher) (pieces : List (List UInt8)) :
    ∀ {index last : Nat} {state final : hasher.State},
      hashChunks hasher run startedMs index state pieces = .ok (last, final) →
      last = index + pieces.length ∧ final = hasher.update state pieces.flatten ∧
        ∀ check, index ≤ check → check < last → Passed run startedMs check := by
  induction pieces with
  | nil =>
    intro index last state final ok
    cases ok
    exact ⟨rfl, (incremental.empty state).symm, fun check low high => absurd (Nat.lt_of_le_of_lt low high) (Nat.lt_irrefl _)⟩
  | cons piece rest ih =>
    intro index last state final ok
    rw [hashChunks] at ok
    split at ok
    · cases ok
    next checked =>
      obtain ⟨count, hashed, passed⟩ := ih ok
      refine ⟨by simp only [count, List.length_cons]; omega, ?_, ?_⟩
      · rw [hashed, incremental.append, List.flatten_cons]
      · intro check low high
        rcases Nat.eq_or_lt_of_le low with here | later
        · exact here ▸ providerCheck_ok checked
        · exact passed check later high

/-- The provider hashes in pieces what one call of the hasher would, and looks
at the session and the clock before each piece and at the end. -/
theorem blake3DigestBounded_ok (incremental : Incremental hasher) {input : List UInt8} {digest : Bytes32}
    (ok : blake3DigestBounded hasher run input startedMs = .ok digest) :
    digest = plainDigest hasher input ∧
      ∀ check, check ≤ (chunks hashChunkBytes input).length → Passed run startedMs check := by
  rw [blake3DigestBounded] at ok
  split at ok
  · cases ok
  next last final hashed =>
    split at ok
    · cases ok
    next checked =>
      cases ok
      obtain ⟨count, same, passed⟩ := hashChunks_ok incremental _ hashed
      rw [flatten_chunks (by decide)] at same
      refine ⟨by rw [same, plainDigest], fun check within => ?_⟩
      rcases Nat.eq_or_lt_of_le within with here | earlier
      · rw [here, ← Nat.zero_add (chunks hashChunkBytes input).length, ← count]
        exact providerCheck_ok checked
      · exact passed check (Nat.zero_le _) (by omega)

end Provider

/-- A result that tells the digest of what a SUBMIT names, as the worker holds it
when the call comes in. -/
structure Computed (hasher : Hasher) (core : WorkerCore) (session : VerifiedPeerSession) (submit : ComputeSubmit) (nowMs : Nat)
    (run : ProviderRun) (result : ComputeResult) : Prop where
  lease : result.leaseId = submit.leaseId
  input : ∃ record backing, core.remoteBuffers.buffers.get? submit.bufferId = some record ∧ record.state = .ready ∧
    record.ownerPeerId = (AuthenticatedSession.fromVerified session).peerId ∧
    record.ownerControllerLeaseId = ⟨submit.leaseId⟩ ∧ record.workerIncarnationId.bytes = result.workerIncarnationId ∧
    record.sessionId = .fromVerified session.sessionId ∧ record.backing = some backing ∧
    submit.inputOffset.toNat + submit.inputLength.toNat ≤ record.sizeBytes ∧
    result.digest = some (plainDigest hasher ((backing.drop submit.inputOffset.toNat).take submit.inputLength.toNat)) ∧
    ∀ check, check ≤ (chunks hashChunkBytes ((backing.drop submit.inputOffset.toNat).take submit.inputLength.toNat)).length →
      Passed run nowMs check
  intime : run.finishedMs - nowMs ≤ providerTimeoutMs

/-- A response in which a completed job is told only with good reason. -/
def Told (truth : ComputeResult → Prop) (response : ComputeResponse) : Prop :=
  ∀ result, response = .result result → result.state = .completed → truth result

/-- What the store of jobs keeps between two calls: jobs that ran to an end of
their own, answers with good reason, and no successful CANCEL. -/
structure Sworn (truth : ComputeResult → Prop) (store : ComputeJobStore) : Prop where
  ended : ∀ id record, store.jobs.get? id = some record → record.state = .completed ∨ record.state = .failed
  jobs : ∀ id record, store.jobs.get? id = some record → Told truth record.result
  submits : ∀ key entry, store.submits.get? key = some entry → Told truth entry.response
  cancels : ∀ key entry, store.cancels.get? key = some entry →
    ∃ status, entry.response = .cancel status ∧ status.reason ≠ .none

section Store
variable {truth : ComputeResult → Prop} {store : ComputeJobStore} {proof : LeaseProof} {sessionId : SessionBinding} {nowMs : Nat}

theorem told_result {record : JobRecord} (failed : record.state ≠ .completed) : Told truth record.result := by
  rintro result ⟨⟩ completed
  exact absurd completed failed

theorem told_absentResult (submit : ComputeSubmit) (incarnation : WorkerIncarnationId) (reason : ComputeReason) :
    Told truth (absentResult submit incarnation reason) := by
  rintro result ⟨⟩ ⟨⟩

theorem Sworn.mono {more : ComputeResult → Prop} (sworn : Sworn truth store) (weaker : ∀ result, truth result → more result) :
    Sworn more store where
  ended := sworn.ended
  jobs id record found result same completed := weaker result (sworn.jobs id record found result same completed)
  submits key entry found result same completed := weaker result (sworn.submits key entry found result same completed)
  cancels := sworn.cancels

theorem Sworn.terminal (sworn : Sworn truth store) {id : Bytes16} {record : JobRecord} (found : store.jobs.get? id = some record) :
    record.state.isTerminal = true := by
  rcases sworn.ended id record found with same | same <;> rw [same] <;> rfl

theorem sworn_new : Sworn truth .new := by
  constructor <;>
  · intro _ _ found
    cases found

theorem Sworn.purge (sworn : Sworn truth store) (nowMs : Nat) : Sworn truth (store.purge nowMs) :=
  ⟨Table.every_retain sworn.ended, Table.every_retain sworn.jobs, Table.every_retain sworn.submits,
    Table.every_retain sworn.cancels⟩

/-- There is nothing left to finish. -/
theorem Sworn.finishWhere (sworn : Sworn truth store) (guard : ResourceGuard) (test : JobRecord → Bool) (state : ComputeJobState)
    (reason : ComputeReason) (nowMs : Nat) : Sworn truth (store.finishWhere guard test state reason nowMs).1 := by
  have unchanged : ∀ id record, (store.finishWhere guard test state reason nowMs).1.jobs.get? id = some record →
      store.jobs.get? id = some record := by
    refine Table.sweep_induction (fun jobs _ => ∀ id record, jobs.get? id = some record → store.jobs.get? id = some record) _ ?_
      store.jobs guard fun _ _ found => found
    intro jobs _ id record found same
    refine Table.every_modify same fun _ _ => ?_
    simpa [sworn.terminal (same id record found)] using same id record found
  exact ⟨fun id record found => sworn.ended id record (unchanged id record found),
    fun id record found => sworn.jobs id record (unchanged id record found), sworn.submits, sworn.cancels⟩

theorem Sworn.leaseEnded (sworn : Sworn truth store) (guard : ResourceGuard) (leaseId : LeaseId) (nowMs : Nat) :
    Sworn truth (store.leaseEnded guard leaseId nowMs).1 :=
  have swept := sworn.finishWhere guard (fun record => record.controllerLeaseId = leaseId) .cancelled .none nowMs
  ⟨swept.ended, swept.jobs, Table.every_retain swept.submits, Table.every_retain swept.cancels⟩

theorem Sworn.sessionLost (sworn : Sworn truth store) (guard : ResourceGuard) (sessionId : SessionBinding) (nowMs : Nat) :
    Sworn truth (store.sessionLost guard sessionId nowMs).1 :=
  have swept := sworn.finishWhere guard (fun record => record.sessionId = sessionId) .failed .sessionLost nowMs
  ⟨swept.ended, swept.jobs, Table.every_retain swept.submits, Table.every_retain swept.cancels⟩

theorem Sworn.checkSubmit (sworn : Sworn truth store) (leaseId : LeaseId) (requestId : UInt64) (sessionId : SessionBinding)
    (submit : ComputeSubmit) (nowMs : Nat) : Sworn truth (store.checkSubmit leaseId requestId sessionId submit nowMs).2 := by
  have purged := sworn.purge nowMs
  have erased : Sworn truth { store.purge nowMs with submits := (store.purge nowMs).submits.erase (leaseId, requestId) } :=
    ⟨purged.ended, purged.jobs, Table.every_erase purged.submits, purged.cancels⟩
  unfold ComputeJobStore.checkSubmit
  dsimp only
  split <;> split <;> (try split) <;> assumption

theorem Sworn.status (sworn : Sworn truth store) (request : ComputeJobRequest) :
    Told truth (store.status proof sessionId request nowMs).1 ∧ Sworn truth (store.status proof sessionId request nowMs).2 := by
  have purged := sworn.purge nowMs
  have untold (status : ComputeStatus) : Told truth (.status status) := by
    rintro _ ⟨⟩
  unfold ComputeJobStore.status
  dsimp only
  split
  · exact ⟨untold _, purged⟩
  next record found =>
    split
    · exact ⟨untold _, purged⟩
    · split
      · exact ⟨purged.jobs _ record found, purged⟩
      · exact ⟨untold _, purged⟩

/-- CANCEL finds no job in progress: it keeps its answer and changes nothing else. -/
theorem Sworn.cancel (sworn : Sworn truth store) (guard : ResourceGuard) (requestId : UInt64) (request : ComputeJobRequest) :
    ∃ status cancels, status.reason ≠ .none ∧
      store.cancel guard proof sessionId requestId request nowMs = (.cancel status, { store.purge nowMs with cancels }, guard) ∧
      Sworn truth { store.purge nowMs with cancels } := by
  have purged := sworn.purge nowMs
  unfold ComputeJobStore.cancel
  dsimp only
  split
  next entry found =>
    split
    · obtain ⟨status, same, refused⟩ := purged.cancels _ entry found
      exact ⟨status, (store.purge nowMs).cancels, refused, by rw [same], purged⟩
    · exact ⟨absentJob request proof.incarnation .internalError, (store.purge nowMs).cancels, by simp [absentJob], rfl, purged⟩
  next =>
    have keeps {status : ComputeStatus} (refused : status.reason ≠ .none) : Sworn truth { store.purge nowMs with
        cancels := (store.purge nowMs).cancels.insert (proof.leaseId, requestId) ⟨sessionId, request, .cancel status, nowMs⟩ } :=
      ⟨purged.ended, purged.jobs, purged.submits, Table.every_insert purged.cancels ⟨status, rfl, refused⟩⟩
    split
    · exact ⟨absentJob request proof.incarnation .jobNotFound, _, by simp [absentJob], rfl, keeps (by simp [absentJob])⟩
    next record found =>
      by_cases owned : (!ComputeJobStore.owns record proof sessionId) = true
      · rw [if_pos owned]
        exact ⟨absentJob request proof.incarnation .jobNotOwned, _, by simp [absentJob], rfl, keeps (by simp [absentJob])⟩
      · rw [if_neg owned, if_pos (purged.terminal found)]
        exact ⟨⟨record.state, .jobNotCancellable, request.leaseId, proof.incarnation.bytes, some record.jobRef⟩, _, by simp, rfl,
          keeps (by simp)⟩

end Store

section Submit
variable {truth : ComputeResult → Prop} {hasher : Hasher} {core : WorkerCore} {proof : LeaseProof} {sessionId : SessionBinding}
  {requestId : UInt64} {submit : ComputeSubmit} {nowMs : Nat} {run : ProviderRun} {reads : Entropy}

/-- A provider run over the bytes that a SUBMIT names. -/
def Ran (hasher : Hasher) (store : RemoteBufferStore) (proof : LeaseProof) (sessionId : SessionBinding) (submit : ComputeSubmit)
    (nowMs : Nat) (run : ProviderRun) (digest : Bytes32) : Prop :=
  ∃ record backing, store.buffers.get? submit.bufferId = some record ∧ RemoteBufferStore.owns record proof sessionId = true ∧
    record.state = .ready ∧ submit.inputOffset.toNat + submit.inputLength.toNat ≤ record.sizeBytes ∧ record.backing = some backing ∧
    blake3DigestBounded hasher run ((backing.drop submit.inputOffset.toNat).take submit.inputLength.toNat) nowMs = .ok digest

theorem withComputeInput_ran {store : RemoteBufferStore} {digest : Bytes32}
    (done : (store.withComputeInput proof sessionId submit.bufferId submit.inputOffset.toNat submit.inputLength.toNat fun bytes =>
      blake3DigestBounded hasher run bytes nowMs).getD (.error .internalError) = .ok digest) :
    Ran hasher store proof sessionId submit nowMs run digest := by
  unfold RemoteBufferStore.withComputeInput at done
  split at done
  · cases done
  next record found =>
    split at done
    · cases done
    next usable =>
      simp only [Bool.or_eq_true, Bool.not_eq_true', decide_eq_true_eq, not_or, not_not, Bool.not_eq_false] at usable
      split at done
      · cases done
      next last sum =>
        obtain ⟨-, rfl⟩ := checkedAdd_eq_some.mp sum
        split at done
        · cases done
        next inside =>
          cases stored : record.backing with
          | none =>
            rw [stored] at done
            cases done
          | some backing =>
            rw [stored, Nat.add_sub_cancel_left] at done
            exact ⟨record, backing, found, usable.1, usable.2, Nat.not_lt.mp inside, stored, done⟩

/-- A provider run in time gives good reason for a result that tells its digest. -/
def Justifies (hasher : Hasher) (core : WorkerCore) (proof : LeaseProof) (sessionId : SessionBinding) (submit : ComputeSubmit)
    (nowMs : Nat) (run : ProviderRun) (truth : ComputeResult → Prop) : Prop :=
  ∀ digest job, Ran hasher core.remoteBuffers proof sessionId submit nowMs run digest →
    run.finishedMs - nowMs ≤ providerTimeoutMs →
    truth ⟨.completed, .none, proof.leaseId.bytes, proof.incarnation.bytes, some job, some digest⟩

/-- An admitted job is in the store only with its last record, and its SUBMIT only with its last answer. -/
theorem runJob_sworn (sworn : Sworn truth core.computeJobs) {staged : JobRecord} {scratchBytes : Nat}
    (staging : core.computeJobs.stage proof sessionId requestId submit scratchBytes nowMs reads = some staged)
    (justified : Justifies hasher core proof sessionId submit nowMs run truth) :
    Told truth (core.runJob hasher proof sessionId staged submit nowMs run).1 ∧
      Sworn truth (core.runJob hasher proof sessionId staged submit nowMs run).2.computeJobs := by
  obtain ⟨jobId, _, terms⟩ := Option.map_eq_some_iff.mp staging
  have asked : staged.input = ⟨submit.bufferId, submit.inputOffset.toNat, submit.inputLength.toNat⟩ := by rw [← terms]
  have lease : staged.controllerLeaseId = proof.leaseId := by rw [← terms]
  have worker : staged.workerIncarnationId = proof.incarnation := by rw [← terms]
  obtain ⟨state, reason, digest, verdict, same⟩ := runJob_verdict hasher core proof sessionId staged submit nowMs run
  rw [same]
  dsimp only
  have told : Told truth (ComputeJobStore.finished (launched staged nowMs) state reason digest run.finishedMs).result := by
    cases verdict with
    | lost | late | failed => exact told_result (by rintro ⟨⟩)
    | @completed digest done intime =>
      rw [providerOutcome, asked] at done
      have good := justified digest (launched staged nowMs).jobRef (withComputeInput_ran done) intime
      rw [← lease, ← worker] at good
      rintro result ⟨⟩ -
      exact good
  exact ⟨told, Table.every_insert_modify sworn.ended verdict.ended.2, Table.every_insert_modify sworn.jobs told,
    Table.every_insert_modify sworn.submits told, sworn.cancels⟩

theorem cacheComputeRefusal_sworn (sworn : Sworn truth core.computeJobs) (leaseId : LeaseId) (reason : ComputeReason) :
    Told truth (core.cacheComputeRefusal leaseId sessionId requestId submit reason nowMs).1 ∧
      Sworn truth (core.cacheComputeRefusal leaseId sessionId requestId submit reason nowMs).2.computeJobs := by
  have told : Told truth (absentResult submit core.incarnation reason) := told_absentResult submit core.incarnation reason
  exact ⟨told, sworn.ended, sworn.jobs, Table.every_insert sworn.submits told, sworn.cancels⟩

theorem applyComputeSubmit_sworn (sworn : Sworn truth core.computeJobs)
    (justified : Justifies hasher core proof sessionId submit nowMs run truth) :
    Told truth (core.applyComputeSubmit hasher proof sessionId requestId submit nowMs run reads).1 ∧
      Sworn truth (core.applyComputeSubmit hasher proof sessionId requestId submit nowMs run reads).2.computeJobs := by
  have checked := sworn.checkSubmit proof.leaseId requestId sessionId submit nowMs
  have replays := @checkSubmit_replay nowMs core.computeJobs proof.leaseId requestId sessionId submit
  unfold applyComputeSubmit
  generalize core.computeJobs.checkSubmit proof.leaseId requestId sessionId submit nowMs = lookedUp at checked replays ⊢
  obtain ⟨lookup, computeJobs⟩ := lookedUp
  dsimp only at checked replays ⊢
  cases lookup with
  | replay response =>
    obtain ⟨entry, found, _, rfl⟩ := replays rfl
    exact ⟨sworn.submits _ entry found, checked⟩
  | conflict | full => exact ⟨told_absentResult _ _ _, checked⟩
  | vacant =>
    dsimp only
    rcases submitRefusal_cases { core with computeJobs } proof sessionId submit nowMs with
      ⟨reason, same⟩ | ⟨refusal, store, guard, input, same⟩
    · rw [same]
      exact cacheComputeRefusal_sworn checked _ _
    · rw [same]
      cases refusal with
      | some reason => exact cacheComputeRefusal_sworn checked _ _
      | none =>
        dsimp only
        generalize guard.reservationSnapshot proof ⟨submit.reservationId⟩ nowMs = taken
        obtain ⟨snapshot, resourceGuard⟩ := taken
        dsimp only
        split
        · exact cacheComputeRefusal_sworn checked _ _
        · split
          · exact cacheComputeRefusal_sworn checked _ _
          next staged staging =>
            split
            · exact cacheComputeRefusal_sworn checked _ _
            · refine runJob_sworn checked staging fun digest job ran intime => justified digest job ?_ intime
              obtain ⟨record, backing, found, owned, ready, rest⟩ := ran
              exact ⟨record, backing, ((expireAndPurge_onlyEnds _ _ nowMs).trans input.onlyEnds) _ record found
                (by rw [Live, ready]; rfl), owned, ready, rest⟩

end Submit

section Calls
variable {truth : ComputeResult → Prop} {hasher : Hasher} {core : WorkerCore} {session : VerifiedPeerSession} {requestId : UInt64}
  {request : ComputeRequest} {nowMs : Nat} {run : ProviderRun} {reads : Entropy}

/-- Buffers that are alive after the end of an expired lease were alive before it, unchanged. -/
theorem reconcile_onlyEnds (core : WorkerCore) (nowMs : Nat) :
    OnlyEnds core.remoteBuffers (core.reconcileExpiredControllerLease nowMs).remoteBuffers := by
  rcases reconcile_cases core nowMs with ⟨same, _⟩ | ⟨active, _, _, same⟩
  · rw [same]
    exact fun _ _ found _ => found
  · rw [same]
    exact (expireAndPurge_onlyEnds _ _ nowMs).trans (terminalizeWhere_onlyEnds _ _ _ rfl nowMs)

/-- The reason for a SUBMIT, once its call has found the lease in force. -/
def Grounded (hasher : Hasher) (core : WorkerCore) (session : VerifiedPeerSession) (submit : ComputeSubmit) (nowMs : Nat)
    (run : ProviderRun) (truth : ComputeResult → Prop) : Prop :=
  let entered := core.reconcileExpiredControllerLease nowMs
  ∀ active, Holds entered.leaseManager (.fromVerified session) ⟨submit.leaseId⟩ nowMs active →
    Justifies hasher entered (proofOf ⟨submit.leaseId⟩ active) (.fromVerified session.sessionId) submit nowMs run truth

/-- The provider run behind a digest, as the call found the buffers. -/
theorem grounded_computed (incremental : Incremental hasher) {submit : ComputeSubmit}
    (computed : ∀ result, Computed hasher core session submit nowMs run result → truth result) :
    Grounded hasher core session submit nowMs run truth := by
  rintro active holds digest job ⟨record, backing, found, owned, ready, inside, stored, hashed⟩ intime
  simp only [RemoteBufferStore.owns, RemoteBufferStore.sameOwner, Bool.and_eq_true, decide_eq_true_eq] at owned
  obtain ⟨⟨⟨peer, lease⟩, worker⟩, binding⟩ := owned
  obtain ⟨rfl, passed⟩ := blake3DigestBounded_ok incremental hashed
  exact computed _ ⟨rfl, ⟨record, backing, reconcile_onlyEnds core nowMs _ record found (by rw [Live, ready]; rfl), ready,
    peer.trans holds.peer, lease, congrArg WorkerIncarnationId.bytes worker, binding, stored, inside, rfl, passed⟩, intime⟩

/-- A CANCEL without success changes nothing but the table of such answers. -/
def Declined (before : WorkerCore) (nowMs : Nat) (response : ComputeResponse) (after : WorkerCore) : Prop :=
  (∃ status, response = .cancel status ∧ status.reason ≠ .none) ∧
  (after = before ∨ ∃ cancels, after = { before with computeJobs := { before.computeJobs.purge nowMs with cancels } })

theorem applyComputeRequest_sworn (sworn : Sworn truth core.computeJobs)
    (grounded : ∀ submit, request = .submit submit → Grounded hasher core session submit nowMs run truth) :
    let answer := core.applyComputeRequest hasher session requestId request nowMs run reads
    Told truth answer.1 ∧ Sworn truth answer.2.computeJobs ∧
      ∀ cancel, request = .cancel cancel → Declined (core.reconcileExpiredControllerLease nowMs) nowMs answer.1 answer.2 := by
  have entered : Sworn truth (core.reconcileExpiredControllerLease nowMs).computeJobs :=
    reconcile_jobs (fun _ guard lease nowMs kept => kept.leaseEnded guard lease nowMs) sworn nowMs
  have settled := reconcile_settled core nowMs
  unfold applyComputeRequest
  unfold Grounded at grounded
  generalize core.reconcileExpiredControllerLease nowMs = core at entered settled grounded
  have fails {reason : ComputeReason} (refused : reason ≠ .none) :
      let response := computeRequestFailure request core.incarnation reason
      Told truth response ∧ Sworn truth core.computeJobs ∧ ∀ cancel, request = .cancel cancel → Declined core nowMs response core := by
    refine ⟨?_, entered, ?_⟩
    · cases request with
      | submit submit => exact told_absentResult _ _ _
      | status | cancel => rintro _ ⟨⟩
    · rintro cancel rfl
      exact ⟨⟨absentJob cancel core.incarnation reason, rfl, refused⟩, .inl rfl⟩
  dsimp only
  split
  · exact fails (by simp)
  by_cases authorized : ∃ active, Holds core.leaseManager (.fromVerified session) ⟨request.leaseId⟩ nowMs active
  · obtain ⟨active, holds⟩ := authorized
    rw [settled.validated holds]
    dsimp only
    split
    · exact fails (by simp)
    · cases request with
      | submit submit =>
        obtain ⟨told, kept⟩ := @applyComputeSubmit_sworn truth hasher core _ _ requestId submit nowMs run reads entered
          (grounded submit rfl active holds)
        refine ⟨told, kept, ?_⟩
        rintro _ ⟨⟩
      | status status =>
        obtain ⟨told, kept⟩ := @Sworn.status truth core.computeJobs (proofOf ⟨status.leaseId⟩ active)
          (.fromVerified session.sessionId) nowMs entered status
        refine ⟨told, kept, ?_⟩
        rintro _ ⟨⟩
      | cancel cancel =>
        obtain ⟨status, cancels, refused, same, kept⟩ := entered.cancel core.resourceGuard requestId cancel
        dsimp only
        rw [same]
        refine ⟨?_, kept, fun _ _ => ⟨⟨status, rfl, refused⟩, .inr ⟨cancels, rfl⟩⟩⟩
        rintro _ ⟨⟩
  · rw [validate_error (not_exists.mp authorized), settled]
    exact fails (by simp)

/-- The reason for the SUBMIT that a call may be. -/
def CallGrounded (hasher : Hasher) (core : WorkerCore) (call : Call) (truth : ComputeResult → Prop) : Prop :=
  ∀ session requestId submit nowMs run reads, call = .computeRequest session requestId (.submit submit) nowMs run reads →
    Grounded hasher core session submit nowMs run truth

theorem Sworn.step (sworn : Sworn truth core.computeJobs) (call : Call) (grounded : CallGrounded hasher core call truth) :
    Sworn truth (Worker.step hasher core call).2.computeJobs := by
  refine step_jobs (fun _ guard lease nowMs kept => kept.leaseEnded guard lease nowMs) hasher sworn ?_ call ?_
  · exact fun _ guard sessionId nowMs kept => kept.sessionLost guard sessionId nowMs
  · rintro session requestId request nowMs run reads rfl _
    exact (applyComputeRequest_sworn sworn fun submit same =>
      grounded session requestId submit nowMs run reads (by rw [same])).2.1

end Calls

section Runs
variable {hasher : Hasher} {boot : Entropy} {start : WorkerCore}

/-- One of the calls was a SUBMIT of the bytes whose digest the result tells. -/
def Backed (hasher : Hasher) (start : WorkerCore) (calls : List Call) (result : ComputeResult) : Prop :=
  ∃ earlier session requestId submit nowMs run reads,
    earlier ++ [.computeRequest session requestId (.submit submit) nowMs run reads] <+: calls ∧
    Computed hasher (coreRun hasher start earlier).core session submit nowMs run result

theorem backed_call (incremental : Incremental hasher) (calls : List Call) (call : Call) :
    CallGrounded hasher (coreRun hasher start calls).core call (Backed hasher start (calls ++ [call])) := by
  rintro session requestId submit nowMs run reads rfl
  exact grounded_computed incremental fun result computed =>
    ⟨calls, session, requestId, submit, nowMs, run, reads, List.prefix_rfl, computed⟩

theorem Backed.more {calls : List Call} {result : ComputeResult} (call : Call) (backed : Backed hasher start calls result) :
    Backed hasher start (calls ++ [call]) result := by
  obtain ⟨earlier, session, requestId, submit, nowMs, run, reads, asked, computed⟩ := backed
  exact ⟨earlier, session, requestId, submit, nowMs, run, reads, asked.trans (List.prefix_append _ _), computed⟩

/-- Whatever justifies each call of a run justifies all that the store of jobs tells. -/
theorem coreRun_sworn (booted : coldStart boot = some start) (truth : List Call → ComputeResult → Prop)
    (more : ∀ calls call result, truth calls result → truth (calls ++ [call]) result)
    (grounded : ∀ calls call, CallGrounded hasher (coreRun hasher start calls).core call (truth (calls ++ [call])))
    (calls : List Call) : Sworn (truth calls) (coreRun hasher start calls).core.computeJobs := by
  induction calls using List.reverseRecOn with
  | nil =>
    obtain ⟨id, rfl⟩ := coldStart_some booted
    exact sworn_new
  | append_singleton calls call ih =>
    rw [coreRun_concat]
    exact (ih.mono (more calls call)).step call (grounded calls call)

/-- Integrity of the results: in every run, a digest told as completed, at once,
by a repeated SUBMIT or by STATUS, is the plain hash of bytes that the worker
held for the same peer, lease and session when one of the SUBMITs came in. -/
theorem coreRun_digests (incremental : Incremental hasher) (booted : coldStart boot = some start) (calls : List Call) (call : Call)
    {result : ComputeResult} (answered : (step hasher (coreRun hasher start calls).core call).1 = .compute (.result result))
    (completed : result.state = .completed) : Backed hasher start (calls ++ [call]) result := by
  have sworn := coreRun_sworn booted (Backed hasher start) (fun _ call _ backed => backed.more call) (backed_call incremental) calls
  cases call with
  | computeRequest session requestId request nowMs run reads =>
    refine (applyComputeRequest_sworn (sworn.mono fun _ => Backed.more _) ?_).1 result (Reply.compute.inj answered) completed
    rintro submit rfl
    exact backed_call incremental calls _ session requestId submit nowMs run reads rfl
  | _ => cases answered

/-- The first bytes of a text, filled up with zeros. -/
def headBytes (input : List UInt8) : Bytes32 := Vector.ofFn fun index => input.getD index 0

/-- A hasher that remembers its input. -/
def headHasher : Hasher := ⟨List UInt8, [], fun state bytes => state ++ bytes, headBytes⟩

/-- The bytes 1, 2, 3, 4 are written into the allocated buffer, and scratch space is set aside. -/
def writtenCalls : List Call := allocationCalls ++ [
  .remoteBufferRequest someSession (.put (filled 1) (filled 9) (filled 3) 0 [1, 2, 3, 4]) 10003 (fun _ => true) [],
  .resourceRequest someSession 3 (.reserve (filled 1) (filled 9) .nativeOpScratchBytes 4) 10004 [some (filled 4)],
  .resourceRequest someSession 4 (.commit (filled 1) (filled 9) (filled 4)) 10005 []]

/-- The middle two bytes are hashed. -/
def middleSubmit : Call := .computeRequest someSession 5
  (.submit ⟨filled 1, filled 9, filled 4, 1, 1, 1, filled 3, 1, 2⟩) 10006 ⟨fun _ => true, fun _ => 10007, 10008⟩ [some (filled 5)]

theorem coreRun_digests_middle :
    let result : ComputeResult :=
      ⟨.completed, .none, filled 1, filled 9, some ⟨filled 5, 1, 1⟩, some (headBytes [2, 3])⟩
    (step headHasher (coreRun headHasher bootedCore writtenCalls).core middleSubmit).1 = .compute (.result result) ∧
      Backed headHasher bootedCore (writtenCalls ++ [middleSubmit]) result := by
  intro result
  have answered : (step headHasher (coreRun headHasher bootedCore writtenCalls).core middleSubmit).1 = .compute (.result result) := by
    with_unfolding_all rfl
  have incremental : Incremental headHasher := ⟨List.append_nil, List.append_assoc⟩
  exact ⟨answered, coreRun_digests incremental (show coldStart [some (filled 9)] = some bootedCore from rfl) writtenCalls middleSubmit
    answered rfl⟩

/-- In every run each stored job has completed or failed, and CANCEL succeeds with none. -/
theorem coreRun_never_cancels (hasher : Hasher) (booted : coldStart boot = some start) (calls : List Call) :
    let core := (coreRun hasher start calls).core
    (∀ id record, core.computeJobs.jobs.get? id = some record → record.state = .completed ∨ record.state = .failed) ∧
    ∀ session requestId request nowMs run reads,
      let answer := core.applyComputeRequest hasher session requestId (.cancel request) nowMs run reads
      Declined (core.reconcileExpiredControllerLease nowMs) nowMs answer.1 answer.2 := by
  intro core
  have sworn : Sworn (fun _ => True) core.computeJobs :=
    coreRun_sworn booted (fun _ _ => True) (fun _ _ _ _ => trivial) (fun _ _ _ _ _ _ _ _ _ _ _ _ _ _ _ => trivial) calls
  refine ⟨sworn.ended, fun session requestId request nowMs run reads => ?_⟩
  refine (applyComputeRequest_sworn sworn ?_).2.2 request rfl
  rintro _ ⟨⟩

theorem coreRun_never_cancels_middle :
    let core := (coreRun headHasher bootedCore (writtenCalls ++ [middleSubmit])).core
    (core.computeJobs.jobs.get? (filled 5)).isSome = true ∧
    let answer := core.applyComputeRequest headHasher someSession 6 (.cancel ⟨filled 1, filled 9, filled 5⟩) 10009
      ⟨fun _ => true, fun _ => 0, 0⟩ []
    Declined (core.reconcileExpiredControllerLease 10009) 10009 answer.1 answer.2 :=
  ⟨by with_unfolding_all rfl,
    (coreRun_never_cancels headHasher (show coldStart [some (filled 9)] = some bootedCore from rfl) _).2 _ _ _ _ _ _⟩

end Runs
end PhoneBoost.Worker.Proofs
