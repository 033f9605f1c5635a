import PhoneBoost.Proofs.CoreSteps

/-! Every entry point as a sequence of moves, and runs of the whole worker. The
run remembers the identifiers drawn so far and the reservations that an ALLOC or
a job used up. -/

namespace PhoneBoost.Worker.Proofs
open Keyed Relation RemoteBufferStore WorkerCore
open Pbmux (ComputeJobState ComputeReason)

def holdings (core : WorkerCore) (published : List ReservationId) : Holdings :=
  ⟨core.resourceGuard, core.remoteBuffers.buffers, core.computeJobs.jobs, published⟩

variable {nowMs : Nat} {reads : Entropy} {allowed : LeaseProof → SessionBinding → Prop} {h later : Holdings}
  {core core' : WorkerCore} {published : List ReservationId}

theorem finishWhere_moves (store : ComputeJobStore) (guard : ResourceGuard) (buffers : Table Bytes16 BufferRecord)
    (test : JobRecord → Bool) {state : ComputeJobState} (terminal : state.isTerminal = true) (reason : ComputeReason) :
    Moves nowMs reads allowed ⟨guard, buffers, store.jobs, published⟩
      ⟨(store.finishWhere guard test state reason nowMs).2, buffers, (store.finishWhere guard test state reason nowMs).1.jobs,
        published⟩ := by
  refine Table.sweep_induction (fun jobs guard' => Moves nowMs reads allowed ⟨guard, buffers, store.jobs, published⟩
    ⟨guard', buffers, jobs, published⟩) _ ?_ store.jobs guard .refl
  intro jobs guard' id record found moves
  by_cases chosen : (test record && !record.state.isTerminal) = true
  · have live : record.state.isTerminal = false := by
      simp only [Bool.and_eq_true, Bool.not_eq_true'] at chosen
      exact chosen.2
    simp only [chosen, if_true]
    rw [finishRecord_live live]
    exact moves.tail (.finish found live terminal)
  · simp only [chosen, if_false, Bool.false_eq_true]
    rwa [Table.modify_self found]

theorem endLease_moves (core : WorkerCore) (leaseId : LeaseId) :
    Moves nowMs reads allowed (holdings core published) (holdings (core.endLease leaseId nowMs) published) := by
  have jobs : Moves nowMs reads allowed (holdings core published) _ := finishWhere_moves core.computeJobs core.resourceGuard
    core.remoteBuffers.buffers (fun record => record.controllerLeaseId = leaseId)
    (show ComputeJobState.isTerminal .cancelled = true from rfl) .none
  exact (jobs.trans (expireAndPurge_moves core.remoteBuffers _)).trans (terminalizeWhere_moves _ _ _ rfl)

theorem reconcile_moves (core : WorkerCore) :
    Moves nowMs reads allowed (holdings core published)
      (holdings (core.reconcileExpiredControllerLease nowMs) published) := by
  rcases reconcile_cases core nowMs with ⟨same, _⟩ | ⟨active, _, _, same⟩
  · rw [same]
  · rw [same]
    exact endLease_moves { core with leaseManager := _ } active.id

theorem sessionEnded_moves (core : WorkerCore) (session : VerifiedPeerSession) :
    Moves nowMs reads allowed (holdings core published) (holdings (core.authenticatedSessionEnded session nowMs) published) := by
  have jobs : Moves nowMs reads allowed (holdings core published) _ := finishWhere_moves core.computeJobs core.resourceGuard
    core.remoteBuffers.buffers (fun record => record.sessionId = .fromVerified session.sessionId)
    (show ComputeJobState.isTerminal .failed = true from rfl) .sessionLost
  exact (jobs.trans (expireAndPurge_moves core.remoteBuffers _)).trans (terminalizeWhere_moves _ _ _ rfl)

theorem purgeJobs_moves (core : WorkerCore) :
    Moves nowMs reads allowed (holdings core published)
      ⟨core.resourceGuard, core.remoteBuffers.buffers, (core.computeJobs.purge nowMs).jobs, published⟩ := by
  show Moves nowMs reads allowed (holdings core published) { holdings core published with
    jobs := core.computeJobs.jobs.retain fun _ record => ComputeJobStore.retained nowMs record.terminalMonoMs }
  refine .single (Move.purgeJobs ?_)
  intro id record _ gone unended
  simp [ComputeJobStore.retained, unended] at gone

/-- Every identifier in the stores has been drawn. -/
structure Known (ids : List Bytes16) (h : Holdings) : Prop where
  reservations : ∀ id reservation, h.guard.reservations.get? id = some reservation → id.bytes ∈ ids
  named : ∀ id, Named h.guard id → id.bytes ∈ ids
  published : ∀ id ∈ h.published, id.bytes ∈ ids
  buffers : ∀ id record, h.buffers.get? id = some record → id ∈ ids
  jobs : ∀ id record, h.jobs.get? id = some record → id ∈ ids

variable {ids : List Bytes16}

theorem Known.mono (known : Known ids h) {more : List Bytes16} (within : ids ⊆ more) : Known more h :=
  ⟨fun id _ found => within (known.reservations id _ found), fun id named => within (known.named id named),
    fun id member => within (known.published id member), fun id _ found => within (known.buffers id _ found),
    fun id _ found => within (known.jobs id _ found)⟩

theorem Known.unseen (known : Known ids h) (apart : ∀ id ∈ drawn reads, id ∉ ids) : Unseen h.guard reads :=
  ⟨fun id _ found member => apart id.bytes member (known.reservations id _ found),
    fun id named member => apart id.bytes member (known.named id named)⟩

/-- A move steps the guard, or it hands one reservation over or takes it back. -/
theorem Move.guard_cases (move : Move nowMs reads allowed h later) :
    GuardStep nowMs reads (fun proof _ => ∃ sessionId, allowed proof sessionId) h.guard later.guard ∨
    ∃ atMs, Exchange atMs h.guard later.guard := by
  cases move with
  | guard step => exact .inl step
  | alloc _ _ _ found state => exact .inr ⟨nowMs, handedOver_exchange found state nowMs⟩
  | edit | purgeBuffers | purgeJobs => exact .inr ⟨nowMs, .none, rfl⟩
  | endBuffer =>
    right
    dsimp only [terminalize]
    split
    · exact ⟨nowMs, .none, rfl⟩
    · exact ⟨_, releaseConsumed_exchange _ _ _ _ _⟩
  | publish _ _ _ found state => exact .inr ⟨nowMs, handedOver_exchange found state nowMs⟩
  | finish =>
    right
    dsimp only [ComputeJobStore.finishRecord]
    split
    · exact ⟨nowMs, .none, rfl⟩
    · dsimp only
      split
      · exact ⟨nowMs, .none, rfl⟩
      · exact ⟨_, releaseConsumed_exchange _ _ _ _ _⟩

/-- Where a reservation on record comes from. -/
theorem Move.origin (move : Move nowMs reads allowed h later) {id : ReservationId} {reservation : Reservation}
    (found : later.guard.reservations.get? id = some reservation) :
    (∃ proof first, (∃ sessionId, allowed proof sessionId) ∧ Opening proof nowMs reads id first ∧
      SameTerms first reservation) ∨
    ∃ earlier, h.guard.reservations.get? id = some earlier ∧ SameTerms earlier reservation := by
  rcases move.guard_cases with step | ⟨_, transfer, _⟩
  · rcases step.postings.origin found with ⟨first, ⟨proof, _, holder, opening⟩, _, _, progress⟩ | ⟨earlier, present, progress⟩
    · exact .inl ⟨proof, first, holder, opening, progress.sameTerms⟩
    · exact .inr ⟨earlier, present, progress.sameTerms⟩
  · exact .inr (transfer.origin found)

theorem Move.named {id : ReservationId} (move : Move nowMs reads allowed h later) (named : Named later.guard id) :
    Named h.guard id ∨ id.bytes ∈ drawn reads := by
  rcases move.guard_cases with step | ⟨_, _, same⟩
  · exact step.named named
  · left
    rwa [Named, same] at named

theorem Move.known (within : drawn reads ⊆ ids) (known : Known ids h) (move : Move nowMs reads allowed h later) :
    Known ids later := by
  have reservations : ∀ id reservation, later.guard.reservations.get? id = some reservation → id.bytes ∈ ids := by
    intro id reservation found
    rcases move.origin found with ⟨_, _, _, opening, _⟩ | ⟨earlier, present, _⟩
    · exact within opening.drawn
    · exact known.reservations id earlier present
  have named : ∀ id, Named later.guard id → id.bytes ∈ ids := fun id named =>
    (move.named named).elim (known.named id) fun new => within new
  have used : ∀ {id reservation}, h.guard.reservations.get? id = some reservation →
      ∀ other ∈ h.published ++ [id], other.bytes ∈ ids := by
    intro id reservation found other member
    rcases List.mem_append.mp member with old | new
    · exact known.published other old
    · exact List.mem_singleton.mp new ▸ known.reservations id reservation found
  cases move with
  | guard => exact ⟨reservations, named, known.published, known.buffers, known.jobs⟩
  | alloc _ _ member found =>
    exact ⟨reservations, named, used found, Table.every_insert known.buffers (within member), known.jobs⟩
  | edit | endBuffer =>
    exact ⟨reservations, named, known.published, Table.every_modify known.buffers (known.buffers _), known.jobs⟩
  | purgeBuffers => exact ⟨reservations, named, known.published, Table.every_retain known.buffers, known.jobs⟩
  | publish _ _ member found =>
    exact ⟨reservations, named, used found, known.buffers, Table.every_insert known.jobs (within member)⟩
  | finish => exact ⟨reservations, named, known.published, known.buffers, Table.every_modify known.jobs (known.jobs _)⟩
  | purgeJobs => exact ⟨reservations, named, known.published, known.buffers, Table.every_retain known.jobs⟩

theorem Moves.known (within : drawn reads ⊆ ids) (known : Known ids h) (moves : Moves nowMs reads allowed h later) :
    Known ids later := by
  induction moves with
  | refl => exact known
  | tail _ move ih => exact move.known within ih

/-- The record is as it was, or forgotten. -/
def Rests (table : Table Bytes16 ν) (id : Bytes16) (record : ν) : Prop :=
  table.get? id = none ∨ table.get? id = some record

section Rests
variable {ν : Type u} {table : Table Bytes16 ν} {id other : Bytes16} {record stored : ν}

theorem Rests.modify (rests : Rests table id record) (present : table.get? other = some stored) (differs : record ≠ stored)
    (f : ν → ν) : Rests (table.modify other f) id record := by
  have different : id ≠ other := by
    rintro rfl
    rcases rests with absent | same
    · simp [absent] at present
    · exact differs (Option.some.inj (same.symm.trans present))
  rwa [Rests, Table.get?_modify_of_ne _ _ different]

theorem Rests.insert (rests : Rests table id record) (different : id ≠ other) (value : ν) :
    Rests (table.insert other value) id record := by
  rwa [Rests, Table.get?_insert_of_ne _ _ different]

theorem Rests.retain (rests : Rests table id record) (keep : Bytes16 → ν → Bool) : Rests (table.retain keep) id record := by
  rcases rests with absent | same
  · left
    simp [Table.get?_retain, absent]
  · rw [Rests, Table.get?_retain, same, Option.filter_some]
    split
    · exact .inr rfl
    · exact .inl rfl

end Rests

/-- A terminal buffer is never rewritten, only forgotten. -/
theorem Moves.bufferRests {id : Bytes16} {record : BufferRecord} (old : id ∉ drawn reads)
    (terminal : record.state.isTerminal = true) (rests : Rests h.buffers id record)
    (moves : Moves nowMs reads allowed h later) : Rests later.buffers id record := by
  have differs : ∀ {stored : BufferRecord}, Live stored → record ≠ stored := by
    rintro stored live rfl
    exact absurd terminal (by simp [show record.state.isTerminal = false from live])
  induction moves with
  | refl => exact rests
  | tail _ move ih =>
    cases move with
    | guard | publish | finish | purgeJobs => exact ih
    | alloc _ _ member => exact ih.insert (fun same => old (same ▸ member)) _
    | edit present live => exact ih.modify present (differs live) _
    | endBuffer present live => exact ih.modify present (differs live) _
    | purgeBuffers => exact ih.retain _

theorem Moves.jobRests {id : Bytes16} {record : JobRecord} (old : id ∉ drawn reads)
    (terminal : record.state.isTerminal = true) (rests : Rests h.jobs id record)
    (moves : Moves nowMs reads allowed h later) : Rests later.jobs id record := by
  induction moves with
  | refl => exact rests
  | tail _ move ih =>
    cases move with
    | guard | alloc | edit | endBuffer | purgeBuffers => exact ih
    | publish _ _ member => exact ih.insert (fun same => old (same ▸ member)) _
    | finish present live =>
      refine ih.modify present ?_ _
      rintro rfl
      exact absurd terminal (by simp [live])
    | purgeJobs => exact ih.retain _

/-- The reservations whose jobs appeared during a call. -/
def newScratch (before after : WorkerCore) : List ReservationId :=
  after.computeJobs.jobs.select fun id record =>
    if (before.computeJobs.jobs.get? id).isNone then some record.scratchReservationId else none

/-- No job is there that was not there before. -/
def NoNewJobs (before after : Table Bytes16 JobRecord) : Prop :=
  ∀ id record, after.get? id = some record → ∃ earlier, before.get? id = some earlier

theorem newScratch_eq_nil {before after : WorkerCore} (unchanged : NoNewJobs before.computeJobs.jobs after.computeJobs.jobs) :
    newScratch before after = [] := by
  apply Table.select_eq_nil
  intro id record found
  obtain ⟨earlier, present⟩ := unchanged id record found
  simp [present]

theorem purge_noNewJobs (store : ComputeJobStore) (nowMs : Nat) : NoNewJobs store.jobs (store.purge nowMs).jobs := by
  intro id record found
  exact ⟨record, ((Table.get?_retain_eq_some _ _ _ _).mp found).1⟩

theorem finishWhere_noNewJobs (store : ComputeJobStore) (guard : ResourceGuard) (test : JobRecord → Bool)
    (state : ComputeJobState) (reason : ComputeReason) (nowMs : Nat) :
    NoNewJobs store.jobs (store.finishWhere guard test state reason nowMs).1.jobs := by
  refine Table.sweep_induction (fun jobs _ => NoNewJobs store.jobs jobs) _ ?_ store.jobs guard fun id record found =>
    ⟨record, found⟩
  intro jobs guard' id record present unchanged
  exact Table.every_modify unchanged fun stored found => unchanged id stored found

theorem reconcile_noNewJobs (core : WorkerCore) (nowMs : Nat) :
    NoNewJobs core.computeJobs.jobs (core.reconcileExpiredControllerLease nowMs).computeJobs.jobs := by
  rcases reconcile_cases core nowMs with ⟨same, _⟩ | ⟨active, _, _, same⟩
  · rw [same]
    exact fun id record found => ⟨record, found⟩
  · rw [same]
    exact finishWhere_noNewJobs core.computeJobs core.resourceGuard _ _ _ nowMs

theorem NoNewJobs.trans {first second third : Table Bytes16 JobRecord} (before : NoNewJobs first second)
    (after : NoNewJobs second third) : NoNewJobs first third := by
  intro id record found
  obtain ⟨middle, present⟩ := after id record found
  exact before id middle present

theorem newScratch_run {before after : WorkerCore} {jobs : Table Bytes16 JobRecord} {record finished : JobRecord}
    (unchanged : NoNewJobs before.computeJobs.jobs jobs) (new : before.computeJobs.jobs.get? record.jobId = none)
    (stored : after.computeJobs.jobs = (jobs.insert record.jobId record).modify record.jobId fun _ => finished)
    (names : finished.scratchReservationId = record.scratchReservationId) :
    newScratch before after = [record.scratchReservationId] := by
  have found : after.computeJobs.jobs.get? record.jobId = some finished := by
    rw [stored, Table.get?_modify_self, Table.get?_insert_self]
    rfl
  apply Table.select_eq_singleton found
  · simp [new, names]
  · intro other value present different
    rw [stored, Table.get?_modify_of_ne _ _ different, Table.get?_insert_of_ne _ _ different] at present
    obtain ⟨earlier, old⟩ := unchanged other value present
    simp [old]

/-- A SUBMIT moves through the checks, and an admitted job is published and finished. -/
theorem Submitted.moves {before : WorkerCore} {proof : LeaseProof} {sessionId : SessionBinding} {requestId : UInt64}
    {submit : Pbmux.ComputeSubmit} {finishedMs : Nat} {response : Pbmux.ComputeResponse}
    (unpublished : ∀ id ∈ drawn reads, ⟨id⟩ ∉ published) (unchanged : NoNewJobs before.computeJobs.jobs core.computeJobs.jobs)
    (new : ∀ id ∈ drawn reads, before.computeJobs.jobs.get? id = none)
    (submitted : Submitted core proof sessionId requestId submit nowMs finishedMs reads response core') :
    Moves nowMs reads allowed (holdings core published) (holdings core' (published ++ newScratch before core')) := by
  have kept := unchanged.trans (purge_noNewJobs core.computeJobs nowMs)
  have swept := (@purgeJobs_moves nowMs reads allowed published core).trans (expireAndPurge_moves core.remoteBuffers core.resourceGuard)
  cases submitted with
  | @early computeJobs _ _ jobs =>
    rw [newScratch_eq_nil (jobs ▸ kept), List.append_nil]
    simp only [holdings, jobs]
    exact purgeJobs_moves core
  | @refuse computeJobs store guard _ scans _ jobs input =>
    rw [newScratch_eq_nil (jobs ▸ kept), List.append_nil]
    simp only [holdings, jobs]
    exact (swept.trans input.moves).trans (Moves.guard unpublished (scanned_steps proof scans guard))
  | @run computeJobs store guard record reservation state reason digest _ running _ vacant member input found committed
      sameClass bytes terminal jobs =>
    rw [newScratch_run kept (new record.jobId member) jobs (by rfl)]
    simp only [holdings, jobs]
    have scans : Moves nowMs reads allowed ⟨guard, store.buffers, (core.computeJobs.purge nowMs).jobs, published⟩
        ⟨scanned proof nowMs 2 guard, store.buffers, (core.computeJobs.purge nowMs).jobs, published⟩ :=
      Moves.guard unpublished (scanned_steps proof 2 guard)
    have publishes := ((swept.trans input.moves).trans scans).tail (.publish running vacant member found committed sameClass bytes)
    exact publishes.tail (.finish (Table.get?_insert_self _ _ _) (by rw [running.state]; rfl) terminal)

theorem ComputeServed.moves {before : WorkerCore} {session : VerifiedPeerSession} {requestId : UInt64}
    {request : Pbmux.ComputeRequest} {response : Pbmux.ComputeResponse} {finishedMs : Nat}
    (unpublished : ∀ id ∈ drawn reads, ⟨id⟩ ∉ published) (unchanged : NoNewJobs before.computeJobs.jobs core.computeJobs.jobs)
    (new : ∀ id ∈ drawn reads, before.computeJobs.jobs.get? id = none)
    (served : ComputeServed core session requestId request nowMs finishedMs reads response core') :
    Moves nowMs reads allowed (holdings core published) (holdings core' (published ++ newScratch before core')) := by
  have kept := unchanged.trans (purge_noNewJobs core.computeJobs nowMs)
  cases served with
  | stale =>
    rw [newScratch_eq_nil unchanged, List.append_nil]
  | submit _ _ submitted => exact submitted.moves unpublished unchanged new
  | look _ jobs =>
    rw [newScratch_eq_nil (jobs ▸ kept), List.append_nil]
    simp only [holdings, jobs]
    exact purgeJobs_moves core
  | @cancel computeJobs id record reason _ _ found live jobs =>
    have same : NoNewJobs before.computeJobs.jobs computeJobs.jobs := by
      rw [jobs]
      exact Table.every_modify kept fun stored present => kept id stored present
    rw [newScratch_eq_nil same, List.append_nil]
    simp only [holdings, jobs]
    exact (purgeJobs_moves core).tail (.finish found live rfl)

/-- A SUBMIT starts no job, or it starts one on the reservation it names. -/
theorem ComputeServed.submit_cases {session : VerifiedPeerSession} {requestId : UInt64} {submit : Pbmux.ComputeSubmit}
    {response : Pbmux.ComputeResponse} {finishedMs : Nat}
    (served : ComputeServed core session requestId (.submit submit) nowMs finishedMs reads response core') :
    (Unserved core ⟨submit.leaseId⟩ requestId submit response ∧ NoNewJobs core.computeJobs.jobs core'.computeJobs.jobs) ∨
    ∃ id ∈ drawn reads, ∃ record, core'.computeJobs.jobs.get? id = some record ∧
      record.scratchReservationId = ⟨submit.reservationId⟩ := by
  have purged := purge_noNewJobs core.computeJobs nowMs
  cases served with
  | stale reason => exact .inl ⟨.inl ⟨reason, rfl⟩, fun id record found => ⟨record, found⟩⟩
  | look other => exact absurd rfl (other submit)
  | cancel other => exact absurd rfl (other submit)
  | submit same _ submitted =>
    cases same
    cases submitted with
    | early unserved jobs => exact .inl ⟨unserved, jobs ▸ purged⟩
    | refuse _ unserved jobs => exact .inl ⟨unserved, jobs ▸ purged⟩
    | @run _ _ _ job _ state reason digest _ _ names _ member _ _ _ _ _ _ jobs =>
      refine .inr ⟨job.jobId, member, ComputeJobStore.finished job state reason digest finishedMs, ?_, names⟩
      rw [jobs, Table.get?_modify_self, Table.get?_insert_self]
      rfl

theorem Unserved.before {leaseId : LeaseId} {requestId : UInt64} {submit : Pbmux.ComputeSubmit}
    {response : Pbmux.ComputeResponse}
    (unserved : Unserved (core.reconcileExpiredControllerLease nowMs) leaseId requestId submit response) :
    Unserved core leaseId requestId submit response := by
  rcases reconcile_cases core nowMs with ⟨same, _⟩ | ⟨active, _, _, same⟩
  · rwa [same] at unserved
  · rw [same] at unserved
    -- the end of the lease only drops entries
    rcases unserved with refused | ⟨entry, found, sent, told⟩
    · exact .inl refused
    · exact .inr ⟨entry, ((Table.get?_retain_eq_some _ _ _ _).mp found).1, sent, told⟩

/-- The authority that the session of a call has when the call starts. -/
def Acting (core : WorkerCore) (call : Call) (proof : LeaseProof) (sessionId : SessionBinding) : Prop :=
  ∃ session leaseId active, call.session? = some session ∧
    Holds core.leaseManager (.fromVerified session) leaseId call.startMs active ∧ proof = proofOf leaseId active ∧
    sessionId = .fromVerified session.sessionId

/-- The reservations that the call used up, one way or the other. -/
def publications (before : WorkerCore) (call : Call) (reply : Reply) (after : WorkerCore) : List ReservationId :=
  (match call, reply with
    | .remoteBufferRequest _ request _ _ _, .remoteBuffer _ result => usedUp request result
    | _, _ => []) ++ newScratch before after

theorem Holds.before {session : AuthenticatedSession} {leaseId : LeaseId} {active : ActiveLease}
    (holds : Holds (core.reconcileExpiredControllerLease nowMs).leaseManager session leaseId nowMs active) :
    Holds core.leaseManager session leaseId nowMs active := by
  obtain ⟨held, id, peer, incarnation⟩ := holds
  rw [reconcile_leaseManager, expireIfNeeded_twice] at held
  rw [reconcile_leaseManager, expireIfNeeded_incarnation] at incarnation
  exact ⟨held, id, peer, incarnation⟩

theorem ResourceServed.core_eq {session : AuthenticatedSession} {requestId : UInt64} {request : Pbmux.ResourceRequest}
    {reply : Pbmux.ResourceResponseKind × Pbmux.ResourceResult} (proves : LeaseProof → ReserveRequest → Prop) (settled : Settled core nowMs)
    (holder : ∀ active, Holds core.leaseManager session ⟨request.leaseId⟩ nowMs active →
      ∀ ask ∈ asked requestId request, proves (proofOf ⟨request.leaseId⟩ active) ask)
    (served : ResourceServed core session requestId request nowMs reads reply core') :
    ∃ guard cache, (Unseen core.resourceGuard reads → GuardSteps nowMs reads proves core.resourceGuard guard) ∧
      core' = { core with resourceGuard := guard, resourceRequests := cache } := by
  cases served with
  | stale => exact ⟨_, _, fun _ => .refl, rfl⟩
  | replay | conflict | full => exact ⟨_, _, fun _ => .refl, rfl⟩
  | @fresh active answer next _ holds _ _ dispatched =>
    have pruned_settled : Settled (pruned core ⟨request.leaseId⟩ nowMs) nowMs := settled
    obtain ⟨guard, steps, same⟩ := dispatchResource_core proves pruned_settled holds requestId request
    rw [dispatched] at same
    dsimp only at same
    subst same
    cases answer.cached with
    | true => exact ⟨guard, _, steps (holder active holds), rfl⟩
    | false => exact ⟨guard, _, steps (holder active holds), rfl⟩

/-- A lease command changes the manager; an answer that reports the lease gone ends it in the stores. -/
theorem applyControllerCommand_core (core : WorkerCore) (session : VerifiedPeerSession) (command : ControllerCommand)
    (nowMs : Nat) (reads : Entropy) {outcome : CommandOutcome} {manager : ControllerLeaseManager}
    (applied : (core.reconcileExpiredControllerLease nowMs).leaseManager.applyControllerCommand (.fromVerified session)
      command nowMs reads = (outcome, manager)) :
    ((∀ leaseId sequence reported, command = .release leaseId sequence → outcome ≠ .ok (.completed reported none)) ∧
      core.applyControllerCommand session command nowMs reads =
        (outcome, { core.reconcileExpiredControllerLease nowMs with leaseManager := manager })) ∨
    ∃ leaseId sequence reported, command = .release leaseId sequence ∧ outcome = .ok (.completed reported none) ∧
      core.applyControllerCommand session command nowMs reads =
        (outcome, { core.reconcileExpiredControllerLease nowMs with leaseManager := manager }.endLease leaseId nowMs) := by
  unfold applyControllerCommand
  dsimp only
  rw [applied]
  dsimp only
  split
  · exact .inr ⟨_, _, _, rfl, rfl, rfl⟩
  next other =>
    refine .inl ⟨?_, rfl⟩
    rintro leaseId sequence reported rfl rfl
    exact other reported leaseId sequence rfl rfl

theorem reconcile_known (known : Known ids (holdings core published)) (nowMs : Nat) :
    Known ids (holdings (core.reconcileExpiredControllerLease nowMs) published) :=
  have moves : Moves nowMs [] (fun _ _ => False) (holdings core published) _ := reconcile_moves core
  moves.known (by simp [drawn]) known

/-- The worker as a call finds it: an expired lease is ended first, except when
a session ends. -/
def entered (core : WorkerCore) : Call → WorkerCore
  | .authenticatedSessionEnded _ _ => core
  | call => core.reconcileExpiredControllerLease call.startMs

theorem entered_moves (core : WorkerCore) (call : Call) :
    Moves call.startMs reads allowed (holdings core published) (holdings (entered core call) published) := by
  cases call with
  | authenticatedSessionEnded => exact .refl
  | controllerCommand | resourceRequest | remoteBufferRequest | computeRequest | recordLocalHealth | heartbeatPayload =>
    exact reconcile_moves core

/-- The rest of the call is a sequence of moves under the authority of its session. -/
abbrev StepMoves (hasher : Hasher) (core : WorkerCore) (published : List ReservationId) (call : Call) : Prop :=
  Moves call.startMs call.reads (Acting core call) (holdings (entered core call) published)
    (holdings (step hasher core call).2
      (published ++ publications core call (step hasher core call).1 (step hasher core call).2))

section Step
variable (hasher : Hasher)

-- Derives the equations of both here, and not in all the proofs below at once.
attribute [local simp] step publications

theorem controllerCommand_moves (session : VerifiedPeerSession) (command : ControllerCommand) :
    StepMoves hasher core published (.controllerCommand session command nowMs reads) := by
  rcases applied : (core.reconcileExpiredControllerLease nowMs).leaseManager.applyControllerCommand (.fromVerified session)
    command nowMs reads with ⟨outcome, manager⟩
  rcases applyControllerCommand_core core session command nowMs reads applied with
    ⟨_, same⟩ | ⟨leaseId, _, _, _, _, same⟩
  · have unchanged : newScratch core { core.reconcileExpiredControllerLease nowMs with leaseManager := manager } = [] :=
      newScratch_eq_nil (reconcile_noNewJobs core nowMs)
    simp only [StepMoves, step, same, publications, unchanged, List.append_nil]
    exact .refl
  · have ends : NoNewJobs (core.reconcileExpiredControllerLease nowMs).computeJobs.jobs
      ({ core.reconcileExpiredControllerLease nowMs with leaseManager := manager }.endLease leaseId nowMs).computeJobs.jobs :=
      finishWhere_noNewJobs _ _ _ _ _ nowMs
    have unchanged := newScratch_eq_nil ((reconcile_noNewJobs core nowMs).trans ends)
    simp only [StepMoves, step, same, publications, unchanged, List.append_nil]
    exact endLease_moves { core.reconcileExpiredControllerLease nowMs with leaseManager := manager } leaseId

theorem resourceRequest_moves (known : Known ids (holdings core published)) (apart : ∀ id ∈ drawn reads, id ∉ ids)
    (session : VerifiedPeerSession) (requestId : UInt64) (request : Pbmux.ResourceRequest) :
    StepMoves hasher core published (.resourceRequest session requestId request nowMs reads) := by
  have unseen : Unseen (core.reconcileExpiredControllerLease nowMs).resourceGuard reads := (reconcile_known known nowMs).unseen apart
  obtain ⟨guard, cache, steps, same⟩ := (applyResourceRequest_served core session requestId request nowMs reads).core_eq
    (fun proof _ => ∃ sessionId, Acting core (.resourceRequest session requestId request nowMs reads) proof sessionId)
    (reconcile_settled core nowMs) fun active holds _ _ => ⟨_, session, _, active, rfl, holds.before, rfl, rfl⟩
  have unchanged : newScratch core { core.reconcileExpiredControllerLease nowMs with
      resourceGuard := guard, resourceRequests := cache } = [] :=
    newScratch_eq_nil (reconcile_noNewJobs core nowMs)
  simp only [StepMoves, step, same, publications, unchanged, List.append_nil]
  exact Moves.guard (fun id member taken => apart id member (known.published ⟨id⟩ taken)) (steps unseen)

theorem remoteBufferRequest_moves (known : Known ids (holdings core published)) (apart : ∀ id ∈ drawn reads, id ∉ ids)
    (session : VerifiedPeerSession) (request : Pbmux.RemoteBufferRequest) (memory : Nat → Bool) :
    StepMoves hasher core published (.remoteBufferRequest session request nowMs memory reads) := by
  have served := applyRemoteBufferRequest_served core session request nowMs memory reads
  simp only [StepMoves, step, publications]
  generalize core.applyRemoteBufferRequest session request nowMs memory reads = answer at served ⊢
  obtain ⟨⟨kind, result⟩, after⟩ := answer
  dsimp only at served ⊢
  cases served with
  | stale fails =>
    rw [usedUp_failed request fails, newScratch_eq_nil (reconcile_noNewJobs core nowMs), List.append_nil, List.append_nil]
    exact .refl
  | @served active _ store guard holds served =>
    have unchanged : newScratch core { core.reconcileExpiredControllerLease nowMs with
        remoteBuffers := store, resourceGuard := guard } = [] :=
      newScratch_eq_nil (reconcile_noNewJobs core nowMs)
    rw [unchanged, List.append_nil]
    have acting : Acting core (.remoteBufferRequest session request nowMs memory reads) (proofOf ⟨request.leaseId⟩ active)
        (.fromVerified session.sessionId) := ⟨session, _, active, rfl, holds.before, rfl, rfl⟩
    exact (expireAndPurge_moves _ _).trans
      (served.moves acting fun id member taken => apart id member (known.published ⟨id⟩ taken))

theorem computeRequest_moves (known : Known ids (holdings core published)) (apart : ∀ id ∈ drawn reads, id ∉ ids)
    (session : VerifiedPeerSession) (requestId : UInt64) (request : Pbmux.ComputeRequest) (run : ProviderRun) :
    StepMoves hasher core published (.computeRequest session requestId request nowMs run reads) := by
  have new : ∀ id ∈ drawn reads, core.computeJobs.jobs.get? id = none := by
    intro id member
    cases found : core.computeJobs.jobs.get? id with
    | none => rfl
    | some record => exact absurd (known.jobs id record found) (apart id member)
  simp only [StepMoves, step, publications, List.nil_append]
  exact (applyComputeRequest_served hasher core session requestId request nowMs run reads).moves
    (fun id member taken => apart id member (known.published ⟨id⟩ taken)) (reconcile_noNewJobs core nowMs) new

theorem recordLocalHealth_moves (sample : HealthSample) :
    StepMoves hasher core published (.recordLocalHealth sample nowMs) := by
  have unchanged : newScratch core (core.recordLocalHealth sample nowMs).2 = [] :=
    newScratch_eq_nil (reconcile_noNewJobs core nowMs)
  simp only [StepMoves, step, publications, unchanged, List.append_nil]
  refine ReflTransGen.trans ?_ (expireAndPurge_moves _ _)
  apply Moves.guard (by simp [drawn, Call.reads])
  exact (ReflTransGen.single (.health (recordHealth_sameBooks _ _))).tail .tick

theorem heartbeatPayload_core (core : WorkerCore) (session : VerifiedPeerSession) (nowMs : Nat) :
    (core.heartbeatPayload session nowMs).2 = core.reconcileExpiredControllerLease nowMs := by
  have settled := reconcile_settled core nowMs
  unfold heartbeatPayload ControllerLeaseManager.currentForSession
  generalize core.reconcileExpiredControllerLease nowMs = core at settled
  dsimp only
  rw [settled]
  dsimp only
  split
  · rfl
  · split <;> rfl

theorem heartbeatPayload_moves (session : VerifiedPeerSession) :
    StepMoves hasher core published (.heartbeatPayload session nowMs) := by
  have unchanged : newScratch core (core.reconcileExpiredControllerLease nowMs) = [] :=
    newScratch_eq_nil (reconcile_noNewJobs core nowMs)
  simp only [StepMoves, step, publications, heartbeatPayload_core, unchanged, List.append_nil]
  exact .refl

theorem authenticatedSessionEnded_moves (session : VerifiedPeerSession) :
    StepMoves hasher core published (.authenticatedSessionEnded session nowMs) := by
  have unchanged : newScratch core (core.authenticatedSessionEnded session nowMs) = [] :=
    newScratch_eq_nil (finishWhere_noNewJobs _ _ _ _ _ nowMs)
  simp only [StepMoves, step, publications, unchanged, List.append_nil]
  exact sessionEnded_moves core session

theorem step_moves (known : Known ids (holdings core published)) (call : Call)
    (apart : ∀ id ∈ drawn call.reads, id ∉ ids) : StepMoves hasher core published call := by
  cases call with
  | controllerCommand session command => exact controllerCommand_moves hasher session command
  | resourceRequest session requestId request => exact resourceRequest_moves hasher known apart session requestId request
  | remoteBufferRequest session request _ memory =>
    exact remoteBufferRequest_moves hasher known apart session request memory
  | computeRequest session requestId request _ run =>
    exact computeRequest_moves hasher known apart session requestId request run
  | recordLocalHealth sample => exact recordLocalHealth_moves hasher sample
  | heartbeatPayload session => exact heartbeatPayload_moves hasher session
  | authenticatedSessionEnded session => exact authenticatedSessionEnded_moves hasher session

end Step

end PhoneBoost.Worker.Proofs
