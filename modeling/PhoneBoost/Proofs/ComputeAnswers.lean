import PhoneBoost.Proofs.CoreIdempotence
import PhoneBoost.Proofs.CoreLifecycle
import PhoneBoost.Worker.Handler

/-! Which answers of the compute channel reach the peer. The store of jobs writes
only results that the encoder accepts, also into the caches for repeated
requests, and so every request that was parsed gets an answer of its kind. -/

namespace PhoneBoost.Worker.Proofs
open Keyed WorkerCore
open Pbmux (ComputeJobRef ComputeJobRequest ComputeJobState ComputeReason ComputeRequest ComputeResponse ComputeResult ComputeStatus
  ComputeSubmit PbmuxError blake3ProviderId blake3ProviderVersion buildComputeResponseFrame encodeComputeResponse
  validateComputeResult validateStatus)
open Secure (Session)

/-- What the encoder checks of a response. -/
def checkResponse : ComputeResponse → Except PbmuxError Unit
  | .status status => validateStatus status false
  | .result result => validateComputeResult result
  | .cancel status => validateStatus status true

theorem buildComputeResponseFrame_ok_iff {requestId : UInt64} (counted : requestId ≠ 0) (response : ComputeResponse)
    (sequence : UInt64) :
    (∃ frame, buildComputeResponseFrame response requestId sequence = .ok frame) ↔ checkResponse response = .ok () := by
  have encodes : (∃ encoded, encodeComputeResponse response = .ok encoded) ↔ checkResponse response = .ok () := by
    cases response with
    | status status | cancel status =>
      rw [encodeComputeResponse, checkResponse, Pbmux.encodeStatus]
      cases validateStatus status _ <;> simp [bind, Except.bind, pure, Except.pure]
    | result result =>
      rw [encodeComputeResponse, checkResponse, Pbmux.encodeComputeResult]
      cases validateComputeResult result <;> simp [bind, Except.bind, pure, Except.pure]
  rw [← encodes, buildComputeResponseFrame, if_neg counted]
  cases encodeComputeResponse response <;> simp [bind, Except.bind, pure, Except.pure]

/-- The response is of a kind that the request may get, and the encoder accepts it. -/
structure Suits (request : ComputeRequest) (response : ComputeResponse) : Prop where
  kind : Session.validResponseKind request response = true
  checked : checkResponse response = .ok ()

/-- Which reason and digest go with the state of a job. -/
def outcomeFits (state : ComputeJobState) (reason : ComputeReason) (digest : Option Bytes32) : Bool :=
  match state with
  | .invalid => false
  | .accepted | .running => reason = .none && digest.isNone
  | .completed => reason = .none && digest.isSome
  | .failed => Pbmux.validFailureReason reason && digest.isNone
  | .cancelled => reason = .none && digest.isNone

/-- A job that can be told to its peer. -/
structure Reportable (record : JobRecord) : Prop where
  named : nonzero record.jobId = true
  provider : (record.providerId, record.providerVersion) = (blake3ProviderId, blake3ProviderVersion)
  worker : nonzero record.workerIncarnationId.bytes = true
  outcome : outcomeFits record.state record.reason record.digest = true

section Responses
variable {record : JobRecord} {leaseId : Bytes16} {incarnation : WorkerIncarnationId}

theorem Reportable.jobRef (reportable : Reportable record) : Pbmux.invalidJobRef record.jobRef = false := by
  simp [Pbmux.invalidJobRef, JobRecord.jobRef, reportable.named, reportable.provider]

theorem Reportable.result (reportable : Reportable record) (lease : nonzero record.controllerLeaseId.bytes = true)
    (terminal : record.state.isTerminal = true) : checkResponse record.result = .ok () := by
  have outcome := reportable.outcome
  simp only [JobRecord.result, checkResponse, validateComputeResult, lease, reportable.worker, reportable.jobRef]
  cases state : record.state with
  | invalid | accepted | running =>
    rw [state] at terminal
    cases terminal
  | completed | failed | cancelled =>
    simp only [outcomeFits, state, Bool.and_eq_true, decide_eq_true_eq] at outcome
    simp [outcome]

/-- A job that runs has the state for it and nothing to say yet. -/
theorem Reportable.status (reportable : Reportable record) (lease : nonzero leaseId = true)
    (worker : nonzero incarnation.bytes = true) (running : record.state.isTerminal = false) :
    checkResponse (.status ⟨record.state, .none, leaseId, incarnation.bytes, some record.jobRef⟩) = .ok () := by
  have outcome := reportable.outcome
  rw [checkResponse, validateStatus]
  simp only [lease, worker, reportable.jobRef]
  cases state : record.state with
  | accepted | running => simp
  | invalid =>
    rw [state] at outcome
    cases outcome
  | completed | failed | cancelled =>
    rw [state] at running
    cases running

theorem checkResponse_absentResult {submit : ComputeSubmit} {reason : ComputeReason} (lease : nonzero submit.leaseId = true)
    (worker : nonzero incarnation.bytes = true) (fits : Pbmux.validAdmissionReason reason = true) :
    checkResponse (absentResult submit incarnation reason) = .ok () := by
  simp [checkResponse, absentResult, validateComputeResult, lease, worker, fits]

theorem validateStatus_absentJob {request : ComputeJobRequest} {reason : ComputeReason} (lease : nonzero request.leaseId = true)
    (worker : nonzero incarnation.bytes = true) (fits : Pbmux.validAbsentLookupReason reason = true) (cancel : Bool) :
    validateStatus (absentJob request incarnation reason) cancel = .ok () := by
  simp [absentJob, validateStatus, lease, worker, fits]

end Responses

/-- All that the store of jobs may have to tell. What is kept for a lease counts
only if the lease has a name, as in every request that was parsed. -/
structure Answerable (store : ComputeJobStore) : Prop where
  jobs : ∀ id record, store.jobs.get? id = some record → Reportable record
  submits : ∀ key entry, store.submits.get? key = some entry → nonzero key.1.bytes = true →
    Suits (.submit entry.request) entry.response
  cancels : ∀ key entry, store.cancels.get? key = some entry → nonzero key.1.bytes = true →
    Suits (.cancel entry.request) entry.response

section Store
variable {store : ComputeJobStore} {proof : LeaseProof} {sessionId : SessionBinding} {requestId : UInt64} {nowMs : Nat}

theorem answerable_new : Answerable .new := by
  constructor <;>
  · intro _ _ found
    cases found

theorem Answerable.purge (answerable : Answerable store) (nowMs : Nat) : Answerable (store.purge nowMs) :=
  ⟨Table.every_retain answerable.jobs, Table.every_retain answerable.submits, Table.every_retain answerable.cancels⟩

theorem Reportable.finished {record : JobRecord} (reportable : Reportable record) {state : ComputeJobState} {reason : ComputeReason}
    {digest : Option Bytes32} (fits : outcomeFits state reason digest = true) (nowMs : Nat) :
    Reportable (ComputeJobStore.finished record state reason digest nowMs) :=
  ⟨reportable.named, reportable.provider, reportable.worker, fits⟩

theorem finishWhere_reportable (jobs : ∀ id record, store.jobs.get? id = some record → Reportable record) (guard : ResourceGuard)
    (test : JobRecord → Bool) {state : ComputeJobState} {reason : ComputeReason} (fits : outcomeFits state reason none = true) :
    ∀ id record, (store.finishWhere guard test state reason nowMs).1.jobs.get? id = some record → Reportable record := by
  refine Table.sweep_induction (fun jobs _ => ∀ id record, jobs.get? id = some record → Reportable record) _ ?_ store.jobs guard jobs
  intro table guard' id record found every
  refine Table.every_modify every fun _ _ => ?_
  split
  next chosen =>
    have live : record.state.isTerminal = false := by
      simp only [Bool.and_eq_true, Bool.not_eq_true'] at chosen
      exact chosen.2
    rw [finishRecord_live live]
    exact (every id record found).finished fits nowMs
  next => exact every id record found

theorem Answerable.leaseEnded (answerable : Answerable store) (guard : ResourceGuard) (leaseId : LeaseId) (nowMs : Nat) :
    Answerable (store.leaseEnded guard leaseId nowMs).1 :=
  ⟨finishWhere_reportable answerable.jobs guard _ rfl, Table.every_retain answerable.submits,
    Table.every_retain answerable.cancels⟩

theorem Answerable.sessionLost (answerable : Answerable store) (guard : ResourceGuard) (sessionId : SessionBinding) (nowMs : Nat) :
    Answerable (store.sessionLost guard sessionId nowMs).1 :=
  ⟨finishWhere_reportable answerable.jobs guard _ rfl, Table.every_retain answerable.submits,
    Table.every_retain answerable.cancels⟩

theorem Answerable.checkSubmit (answerable : Answerable store) (leaseId : LeaseId) (requestId : UInt64) (sessionId : SessionBinding)
    (submit : ComputeSubmit) (nowMs : Nat) : Answerable (store.checkSubmit leaseId requestId sessionId submit nowMs).2 := by
  have purged := answerable.purge nowMs
  have erased : Answerable { store.purge nowMs with submits := (store.purge nowMs).submits.erase (leaseId, requestId) } :=
    ⟨purged.jobs, Table.every_erase purged.submits, purged.cancels⟩
  unfold ComputeJobStore.checkSubmit
  dsimp only
  split <;> split <;> (try split) <;> assumption

theorem Answerable.cacheRefusal (answerable : Answerable store) {leaseId : LeaseId} {submit : ComputeSubmit} {response : ComputeResponse}
    (suits : nonzero leaseId.bytes = true → Suits (.submit submit) response) (requestId : UInt64) (sessionId : SessionBinding)
    (nowMs : Nat) : Answerable (store.cacheRefusal leaseId requestId sessionId submit response nowMs) :=
  ⟨answerable.jobs, Table.every_insert answerable.submits suits, answerable.cancels⟩

/-- A job that ends is told as the answer to its SUBMIT. -/
theorem Answerable.finish (answerable : Answerable store) {jobId : Bytes16} {record : JobRecord}
    (reportable : Reportable record) (terminal : record.state.isTerminal = true) (nowMs : Nat) :
    Answerable ({ store with jobs := store.jobs.modify jobId fun _ => record }.answerSubmit record nowMs) := by
  refine ⟨Table.every_modify answerable.jobs fun _ _ => reportable, ?_, answerable.cancels⟩
  refine Table.every_modify answerable.submits fun entry _ lease => ?_
  exact ⟨rfl, reportable.result lease terminal⟩

/-- The reasons with which a provider run ends can be told. -/
def Tellable (outcome : Except ComputeReason Bytes32) : Prop := ∀ reason, outcome = .error reason → Pbmux.validFailureReason reason = true

theorem Answerable.status (answerable : Answerable store) {request : ComputeJobRequest} (same : proof.leaseId = ⟨request.leaseId⟩)
    (worker : nonzero proof.incarnation.bytes = true) :
    Answerable (store.status proof sessionId request nowMs).2 ∧
      (nonzero request.leaseId = true → Suits (.status request) (store.status proof sessionId request nowMs).1) := by
  have purged := answerable.purge nowMs
  unfold ComputeJobStore.status
  dsimp only
  split
  · exact ⟨purged, fun lease => ⟨rfl, validateStatus_absentJob lease worker rfl false⟩⟩
  next record found =>
    have reportable := purged.jobs _ record found
    split
    · exact ⟨purged, fun lease => ⟨rfl, validateStatus_absentJob lease worker rfl false⟩⟩
    next owned =>
      simp only [ComputeJobStore.owns, Bool.not_eq_true', Bool.not_eq_false, Bool.and_eq_true, decide_eq_true_eq] at owned
      split
      next terminal =>
        refine ⟨purged, fun lease => ⟨rfl, reportable.result ?_ terminal⟩⟩
        rw [owned.1.1.2, same]
        exact lease
      next running => exact ⟨purged, fun lease => ⟨rfl, reportable.status lease worker (by simpa using running)⟩⟩

theorem Answerable.cancel (answerable : Answerable store) (guard : ResourceGuard) {request : ComputeJobRequest}
    (same : proof.leaseId = ⟨request.leaseId⟩) (worker : nonzero proof.incarnation.bytes = true) :
    Answerable (store.cancel guard proof sessionId requestId request nowMs).2.1 ∧
      (nonzero request.leaseId = true →
        Suits (.cancel request) (store.cancel guard proof sessionId requestId request nowMs).1) := by
  have purged := answerable.purge nowMs
  have bytes : proof.leaseId.bytes = request.leaseId := congrArg LeaseId.bytes same
  unfold ComputeJobStore.cancel
  dsimp only
  split
  next entry found =>
    refine ⟨by split <;> exact purged, fun lease => ?_⟩
    split
    next repeated =>
      simp only [Bool.and_eq_true, decide_eq_true_eq] at repeated
      have suits := purged.cancels _ entry found (bytes ▸ lease)
      rwa [repeated.2] at suits
    next => exact ⟨rfl, validateStatus_absentJob lease worker rfl true⟩
  next =>
    -- a new answer is kept for a repetition of the request
    have keeps {store : ComputeJobStore} {response : ComputeResponse} (answerable : Answerable store)
        (suits : nonzero request.leaseId = true → Suits (.cancel request) response) :
        Answerable { store with cancels := store.cancels.insert (proof.leaseId, requestId) ⟨sessionId, request, response, nowMs⟩ } ∧
          (nonzero request.leaseId = true → Suits (.cancel request) response) :=
      ⟨⟨answerable.jobs, answerable.submits, Table.every_insert answerable.cancels fun lease => suits (bytes ▸ lease)⟩, suits⟩
    split
    · exact keeps purged fun lease => ⟨rfl, validateStatus_absentJob lease worker rfl true⟩
    next record found =>
      have reportable := purged.jobs _ record found
      by_cases owned : (!ComputeJobStore.owns record proof sessionId) = true
      · rw [if_pos owned]
        exact keeps purged fun lease => ⟨rfl, validateStatus_absentJob lease worker rfl true⟩
      rw [if_neg owned]
      by_cases terminal : record.state.isTerminal = true
      · rw [if_pos terminal]
        refine keeps purged fun lease => ⟨rfl, ?_⟩
        simp [checkResponse, validateStatus, lease, worker, reportable.jobRef, terminal]
      · have live : record.state.isTerminal = false := by simpa using terminal
        rw [if_neg terminal, finishRecord_live live]
        refine keeps (purged.finish (reportable.finished rfl nowMs) rfl nowMs) fun lease => ⟨rfl, ?_⟩
        have job : Pbmux.invalidJobRef (ComputeJobStore.finished record .cancelled .none none nowMs).jobRef = false := reportable.jobRef
        simp [checkResponse, validateStatus, lease, worker, job]

end Store

section Submit
variable {core : WorkerCore} {proof : LeaseProof} {sessionId : SessionBinding} {requestId : UInt64} {submit : ComputeSubmit}
  {nowMs : Nat} {reads : Entropy}

theorem providerCheck_tellable {run : ProviderRun} {index startedMs : Nat} {reason : ComputeReason}
    (fails : providerCheck run index startedMs = .error reason) : Pbmux.validFailureReason reason = true := by
  unfold providerCheck at fails
  split at fails
  · cases fails
    rfl
  · split at fails
    · cases fails
      rfl
    · cases fails

theorem hashChunks_tellable {hasher : Hasher} {run : ProviderRun} {startedMs : Nat} (chunks : List (List UInt8)) :
    ∀ {index : Nat} {state : hasher.State} {reason : ComputeReason},
      hashChunks hasher run startedMs index state chunks = .error reason → Pbmux.validFailureReason reason = true := by
  induction chunks with
  | nil =>
    intro _ _ _ fails
    cases fails
  | cons chunk rest ih =>
    intro index state reason fails
    rw [hashChunks] at fails
    split at fails
    next failed =>
      cases fails
      exact providerCheck_tellable failed
    next => exact ih fails

theorem blake3DigestBounded_tellable (hasher : Hasher) (run : ProviderRun) (input : List UInt8) (startedMs : Nat) :
    Tellable (blake3DigestBounded hasher run input startedMs) := by
  intro reason fails
  rw [blake3DigestBounded] at fails
  split at fails
  next failed =>
    cases fails
    exact hashChunks_tellable _ failed
  next =>
    split at fails
    next failed =>
      cases fails
      exact providerCheck_tellable failed
    next => cases fails

/-- Whatever keeps the input from the provider counts as an internal error. -/
theorem withComputeInput_tellable (store : RemoteBufferStore) (bufferId : Bytes16) (offset length : Nat)
    {apply : List UInt8 → Except ComputeReason Bytes32} (tellable : ∀ input, Tellable (apply input)) :
    Tellable ((store.withComputeInput proof sessionId bufferId offset length apply).getD (.error .internalError)) := by
  have internal : Tellable (.error .internalError) := by
    rintro _ ⟨⟩
    rfl
  unfold RemoteBufferStore.withComputeInput
  split
  · exact internal
  next record _ =>
    split
    · exact internal
    · split
      · exact internal
      · split
        · exact internal
        · cases record.backing with
          | none => exact internal
          | some backing => exact tellable _

theorem validateComputeInput_admission (store : RemoteBufferStore) (guard : ResourceGuard) (bufferId : Bytes16) (offset length : Nat)
    {reason : ComputeReason}
    (refused : (store.validateComputeInput guard proof sessionId bufferId offset length nowMs).1 = .error reason) :
    Pbmux.validAdmissionReason reason = true := by
  unfold RemoteBufferStore.validateComputeInput at refused
  repeat' split at refused
  all_goals first
    | (cases refused; rfl)
    | cases refused

theorem submitRefusal_admission {reason : ComputeReason} (refused : (core.submitRefusal proof sessionId submit nowMs).1 = some reason) :
    Pbmux.validAdmissionReason reason = true := by
  unfold submitRefusal at refused
  split at refused
  · cases refused
    rfl
  split at refused
  · cases refused
    rfl
  split at refused
  · cases refused
    rfl
  dsimp only at refused
  split at refused
  next judged =>
    cases refused
    exact validateComputeInput_admission _ _ _ _ _ judged
  next => cases refused

theorem submitRefusal_provider (admitted : (core.submitRefusal proof sessionId submit nowMs).1 = none) :
    (submit.providerId, submit.providerVersion) = (blake3ProviderId, blake3ProviderVersion) := by
  unfold submitRefusal at admitted
  split at admitted
  · cases admitted
  next same => exact not_not.1 same

theorem submitRefusal_store (core : WorkerCore) (proof : LeaseProof) (sessionId : SessionBinding) (submit : ComputeSubmit) (nowMs : Nat) :
    (core.submitRefusal proof sessionId submit nowMs).2.computeJobs = core.computeJobs ∧
      (core.submitRefusal proof sessionId submit nowMs).2.incarnation = core.incarnation := by
  rcases submitRefusal_cases core proof sessionId submit nowMs with ⟨reason, same⟩ | ⟨refusal, store, guard, -, same⟩ <;>
  · rw [same]
    exact ⟨rfl, rfl⟩

theorem checkSubmit_suits (answerable : Answerable core.computeJobs) {response : ComputeResponse}
    (lease : nonzero proof.leaseId.bytes = true)
    (replays : (core.computeJobs.checkSubmit proof.leaseId requestId sessionId submit nowMs).1 = .replay response) :
    Suits (.submit submit) response := by
  obtain ⟨entry, found, rfl, rfl⟩ := checkSubmit_replay replays
  exact answerable.submits _ entry found lease

theorem stage_reportable {store : ComputeJobStore} {scratchBytes : Nat} {staged : JobRecord}
    (staging : store.stage proof sessionId requestId submit scratchBytes nowMs reads = some staged)
    (provider : (submit.providerId, submit.providerVersion) = (blake3ProviderId, blake3ProviderVersion))
    (worker : nonzero proof.incarnation.bytes = true) :
    Reportable (launched staged nowMs) ∧ staged.controllerLeaseId = proof.leaseId := by
  obtain ⟨jobId, drawn, rfl⟩ := Option.map_eq_some_iff.mp staging
  obtain ⟨-, named, -⟩ := drawUnused_drawn drawn
  exact ⟨⟨named, provider, worker, rfl⟩, rfl⟩

/-- An admitted job is over when the call returns, and its answer can be sent. -/
theorem runJob_answers (answerable : Answerable core.computeJobs) (hasher : Hasher) {staged : JobRecord}
    (reportable : Reportable (launched staged nowMs)) (run : ProviderRun) :
    Answerable (core.runJob hasher proof sessionId staged submit nowMs run).2.computeJobs ∧
      (nonzero staged.controllerLeaseId.bytes = true →
        Suits (.submit submit) (core.runJob hasher proof sessionId staged submit nowMs run).1) := by
  have published : Answerable (core.computeJobs.publishRunning staged submit nowMs).2 := by
    refine ⟨Table.every_insert answerable.jobs reportable, ?_, answerable.cancels⟩
    exact Table.every_insert answerable.submits fun lease => ⟨rfl, reportable.status lease reportable.worker rfl⟩
  have tellable := @withComputeInput_tellable proof sessionId core.remoteBuffers staged.input.bufferId staged.input.offset
    staged.input.length _ fun bytes => blake3DigestBounded_tellable hasher run bytes nowMs
  obtain ⟨state, reason, digest, verdict, same⟩ := runJob_verdict hasher core proof sessionId staged submit nowMs run
  have fits : outcomeFits state reason digest = true := by
    cases verdict with
    | lost | late | completed => rfl
    | failed done => simp [outcomeFits, tellable _ done]
  have last := reportable.finished fits run.finishedMs
  rw [same]
  exact ⟨published.finish last verdict.ended.1 _, fun lease => ⟨rfl, last.result lease verdict.ended.1⟩⟩

/-- A refusal that is kept for a repetition of the SUBMIT. -/
theorem cacheComputeRefusal_answers (answerable : Answerable core.computeJobs) (same : proof.leaseId = ⟨submit.leaseId⟩)
    (worker : nonzero core.incarnation.bytes = true) {reason : ComputeReason} (fits : Pbmux.validAdmissionReason reason = true) :
    Answerable (core.cacheComputeRefusal proof.leaseId sessionId requestId submit reason nowMs).2.computeJobs ∧
      (nonzero submit.leaseId = true →
        Suits (.submit submit) (core.cacheComputeRefusal proof.leaseId sessionId requestId submit reason nowMs).1) := by
  have suits (lease : nonzero submit.leaseId = true) : Suits (.submit submit) (absentResult submit core.incarnation reason) :=
    ⟨rfl, checkResponse_absentResult lease worker fits⟩
  refine ⟨answerable.cacheRefusal (fun lease => suits ?_) requestId sessionId nowMs, suits⟩
  rwa [same] at lease

theorem applyComputeSubmit_answers (answerable : Answerable core.computeJobs) (hasher : Hasher)
    (same : proof.leaseId = ⟨submit.leaseId⟩) (worker : nonzero core.incarnation.bytes = true)
    (manager : nonzero proof.incarnation.bytes = true) (run : ProviderRun) :
    Answerable (core.applyComputeSubmit hasher proof sessionId requestId submit nowMs run reads).2.computeJobs ∧
      (nonzero submit.leaseId = true →
        Suits (.submit submit) (core.applyComputeSubmit hasher proof sessionId requestId submit nowMs run reads).1) := by
  have bytes : proof.leaseId.bytes = submit.leaseId := congrArg LeaseId.bytes same
  have checked := answerable.checkSubmit proof.leaseId requestId sessionId submit nowMs
  have replays : ∀ response, nonzero submit.leaseId = true →
      (core.computeJobs.checkSubmit proof.leaseId requestId sessionId submit nowMs).1 = .replay response →
      Suits (.submit submit) response :=
    fun response lease found => checkSubmit_suits answerable (bytes ▸ lease) found
  unfold applyComputeSubmit
  generalize core.computeJobs.checkSubmit proof.leaseId requestId sessionId submit nowMs = lookedUp at checked replays ⊢
  obtain ⟨lookup, computeJobs⟩ := lookedUp
  dsimp only at checked replays ⊢
  cases lookup with
  | replay response => exact ⟨checked, fun lease => replays response lease rfl⟩
  | conflict | full => exact ⟨checked, fun lease => ⟨rfl, checkResponse_absentResult lease worker rfl⟩⟩
  | vacant =>
    dsimp only
    obtain ⟨store, incarnation⟩ := submitRefusal_store { core with computeJobs } proof sessionId submit nowMs
    have admission := @submitRefusal_admission { core with computeJobs } proof sessionId submit nowMs
    have provider := @submitRefusal_provider { core with computeJobs } proof sessionId submit nowMs
    generalize submitRefusal { core with computeJobs } proof sessionId submit nowMs = judged at store incarnation admission provider ⊢
    obtain ⟨refusal, judging⟩ := judged
    dsimp only at store incarnation admission provider
    have kept : Answerable judging.computeJobs := store ▸ checked
    have known : nonzero judging.incarnation.bytes = true := incarnation ▸ worker
    cases refusal with
    | some reason => exact cacheComputeRefusal_answers kept same known (admission rfl)
    | none =>
      dsimp only
      generalize judging.resourceGuard.reservationSnapshot proof ⟨submit.reservationId⟩ nowMs = taken
      obtain ⟨snapshot, resourceGuard⟩ := taken
      dsimp only
      split
      · exact cacheComputeRefusal_answers kept same known rfl
      · split
        · exact cacheComputeRefusal_answers kept same known rfl
        next staged staging =>
          obtain ⟨reportable, lease⟩ := stage_reportable staging (provider rfl) manager
          split
          · exact cacheComputeRefusal_answers kept same known rfl
          next guard _ =>
            obtain ⟨after, suits⟩ := @runJob_answers { judging with resourceGuard := guard } proof sessionId submit nowMs kept
              hasher staged reportable run
            refine ⟨after, fun named => suits ?_⟩
            rw [lease, bytes]
            exact named

end Submit

/-- What the answers of the compute channel rely on between the calls of a run. -/
structure Responsive (core : WorkerCore) : Prop where
  answerable : Answerable core.computeJobs
  windows : Windows core.leaseManager
  worker : nonzero core.incarnation.bytes = true
  manager : core.leaseManager.incarnation = core.incarnation

section Calls
variable {hasher : Hasher} {boot : Entropy} {start core : WorkerCore} {session : VerifiedPeerSession} {requestId : UInt64}
  {request : ComputeRequest} {nowMs : Nat} {reads : Entropy}

theorem LeaseStep.incarnation {before after : ControllerLeaseManager} {events : List LeaseEvent}
    (step : LeaseStep nowMs reads before after events) : after.incarnation = before.incarnation := by
  cases step with
  | keep same => rw [same]
  | expire same | acquire _ _ same | renew _ _ same | release _ _ same =>
    rw [same]
    exact expireIfNeeded_incarnation before nowMs

theorem Responsive.entered (responsive : Responsive core) (nowMs : Nat) : Responsive (core.reconcileExpiredControllerLease nowMs) := by
  have manager := reconcile_leaseManager core nowMs
  refine ⟨reconcile_jobs (fun _ guard lease nowMs kept => kept.leaseEnded guard lease nowMs) responsive.answerable nowMs, ?_, ?_, ?_⟩
  · rw [manager]
    exact fun active held => responsive.windows active (mem_of_expireIfNeeded held)
  · rw [reconcile_incarnation]
    exact responsive.worker
  · rw [manager, reconcile_incarnation, expireIfNeeded_incarnation]
    exact responsive.manager

/-- A request of the compute channel is answered in its kind if its lease has a name. -/
theorem applyComputeRequest_answers (responsive : Responsive core) (run : ProviderRun) :
    Answerable (core.applyComputeRequest hasher session requestId request nowMs run reads).2.computeJobs ∧
      (nonzero request.leaseId = true →
        Suits request (core.applyComputeRequest hasher session requestId request nowMs run reads).1) := by
  have entered := responsive.entered nowMs
  have settled := reconcile_settled core nowMs
  unfold applyComputeRequest
  generalize core.reconcileExpiredControllerLease nowMs = core at entered settled ⊢
  have fails {reason : ComputeReason} (lookup : Pbmux.validAbsentLookupReason reason = true)
      (admission : Pbmux.validAdmissionReason reason = true) (lease : nonzero request.leaseId = true) :
      Suits request (computeRequestFailure request core.incarnation reason) := by
    cases request with
    | submit submit => exact ⟨rfl, checkResponse_absentResult lease entered.worker admission⟩
    | status status => exact ⟨rfl, validateStatus_absentJob lease entered.worker lookup false⟩
    | cancel cancel => exact ⟨rfl, validateStatus_absentJob lease entered.worker lookup true⟩
  dsimp only
  split
  · exact ⟨entered.answerable, fails rfl rfl⟩
  by_cases authorized : ∃ active, Holds core.leaseManager (.fromVerified session) ⟨request.leaseId⟩ nowMs active
  · obtain ⟨active, holds⟩ := authorized
    have known : nonzero active.incarnation.bytes = true := by
      rw [holds.incarnation, entered.manager]
      exact entered.worker
    rw [settled.validated holds]
    dsimp only
    split
    · exact ⟨entered.answerable, fails rfl rfl⟩
    · cases request with
      | submit submit => exact applyComputeSubmit_answers entered.answerable hasher rfl entered.worker known run
      | status status => exact entered.answerable.status rfl known
      | cancel cancel => exact entered.answerable.cancel core.resourceGuard rfl known
  · rw [validate_error (not_exists.mp authorized), settled]
    exact ⟨entered.answerable, fails rfl rfl⟩

theorem Responsive.step (responsive : Responsive core) (call : Call) : Responsive (Worker.step hasher core call).2 := by
  refine ⟨?_, responsive.windows.step hasher call, ?_, ?_⟩
  · refine step_jobs (fun _ guard lease nowMs kept => kept.leaseEnded guard lease nowMs) hasher responsive.answerable ?_ call ?_
    · exact fun _ guard sessionId nowMs kept => kept.sessionLost guard sessionId nowMs
    · exact fun _ _ _ _ run _ _ _ => (applyComputeRequest_answers responsive run).1
  · rw [(step_frame hasher core call).incarnation]
    exact responsive.worker
  · obtain ⟨events, stepped⟩ := commanded_step (responsive.windows.entered call) call
    have entered : (Proofs.entered core call).leaseManager.incarnation = core.leaseManager.incarnation := by
      rcases entered_leaseManager core call with same | same
      · rw [same]
      · rw [same, expireIfNeeded_incarnation]
    rw [step_leaseManager, (step_frame hasher core call).incarnation, stepped.incarnation, entered]
    exact responsive.manager

theorem coldStart_responsive (booted : coldStart boot = some start) : Responsive start := by
  obtain ⟨id, read, rfl⟩ := Option.map_eq_some_iff.mp booted
  refine ⟨answerable_new, ?_, (randomNonzero128_drawn read).1, rfl⟩
  rintro _ ⟨⟩

theorem coreRun_responsive (booted : coldStart boot = some start) (calls : List Call) :
    Responsive (coreRun hasher start calls).core := by
  induction calls using List.reverseRecOn with
  | nil => exact coldStart_responsive booted
  | append_singleton calls call ih =>
    rw [coreRun_concat]
    exact ih.step call

end Calls

end PhoneBoost.Worker.Proofs
