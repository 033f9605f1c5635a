import PhoneBoost.Proofs.CoreLifecycle

/-! What counts against the budget when a lease asks for bytes. Reservations of
earlier leases go in the scan that a RESERVE makes first; their buffers and jobs
ended with their lease. -/

namespace PhoneBoost.Worker.Proofs
open Keyed RemoteBufferStore WorkerCore

/-- Reserved and committed bytes of the lease. -/
def pendingBytes (leaseId : LeaseId) (guard : ResourceGuard) : Nat :=
  guard.reservations.total fun _ reservation =>
    if (reservation.state = .reserved ∨ reservation.state = .committed) ∧ reservation.leaseId = leaseId then
      reservation.bytes
    else 0

/-- Bytes in buffers of the lease. -/
def bufferBytes (leaseId : LeaseId) (buffers : Table Bytes16 BufferRecord) : Nat :=
  buffers.total fun _ record =>
    if record.budgetReleased = false ∧ record.ownerControllerLeaseId = leaseId then record.sizeBytes else 0

/-- Scratch bytes of jobs of the lease. -/
def scratchBytes (leaseId : LeaseId) (jobs : Table Bytes16 JobRecord) : Nat :=
  jobs.total fun _ record =>
    if record.scratchReleased = false ∧ record.controllerLeaseId = leaseId then record.scratchBytes else 0

section Moment
variable {core : WorkerCore} {published : List ReservationId} {session : AuthenticatedSession} {leaseId : LeaseId}
  {nowMs : Nat} {proof : LeaseProof} {leases : ControllerLeaseManager}

/-- After the scan only reservations of the lease wait for their use. -/
theorem pending_own {guard : ResourceGuard} {incarnation : WorkerIncarnationId} {id : ReservationId} {reservation : Reservation}
    (found : (guard.expireAndPurge nowMs leaseId incarnation).reservations.get? id = some reservation)
    (pending : reservation.state = .reserved ∨ reservation.state = .committed) : reservation.leaseId = leaseId := by
  obtain ⟨earlier, _, stays, rfl, _⟩ := ((expireAndPurge_swept guard nowMs leaseId incarnation).reservations id _).mp found
  have same : lapsed earlier nowMs = earlier := by
    unfold lapsed at pending ⊢
    split at pending
    · rcases pending with state | state <;> cases state
    next idle => rw [if_neg idle]
  rw [same] at pending ⊢
  unfold ResourceGuard.superseded at stays
  rcases pending with state | state <;> simp [state] at stays <;> exact stays.1

/-- Whoever is alive when the lease is validated belongs to it. -/
theorem live_own (owned : Owned core) (validated : (core.reconcileExpiredControllerLease nowMs).leaseManager.validate session
      leaseId nowMs = (.ok proof, leases))
    {id : Bytes16} {record : BufferRecord}
    (found : (core.reconcileExpiredControllerLease nowMs).remoteBuffers.buffers.get? id = some record) (live : Live record) :
    record.ownerControllerLeaseId = leaseId := by
  obtain ⟨active, held, owner, lasts⟩ := reconcile_live owned found live
  obtain ⟨lease, holds, _⟩ := validate_ok (congrArg Prod.fst validated)
  have same := holds.held
  rw [reconcile_leaseManager] at same
  cases held.symm.trans (mem_of_expireIfNeeded (mem_of_expireIfNeeded same))
  exact owner.symm.trans holds.id

end Moment

section Budget
variable {core : WorkerCore} {published : List ReservationId} {session : AuthenticatedSession} {leaseId : LeaseId}
  {nowMs : Nat} {proof : LeaseProof} {leases : ControllerLeaseManager}

/-- A refusal for the budget compares the request with what the count leaves. -/
theorem decideReservation_refusedBudget {guard : ResourceGuard} {request : ReserveRequest} {reads : Entropy}
    (refused : (guard.decideReservation proof request nowMs reads).1 = .refusedBudget) :
    request.bytes = 0 ∨ request.resourceClass.maxRequestBytes < request.bytes ∨
      (guard.healthStatus nowMs).budgetBytes - guard.allocatedBytes < request.bytes := by
  unfold ResourceGuard.decideReservation at refused
  dsimp only at refused
  split at refused
  · cases refused
  split at refused
  next shape =>
    simp only [Bool.or_eq_true, decide_eq_true_eq] at shape
    exact shape.imp_right .inl
  split at refused
  · cases refused
  split at refused
  next short =>
    simp only [Bool.or_eq_true, decide_eq_true_eq] at short
    exact short.imp_right .inr
  split at refused
  · cases refused
  · cases refused

/-- A RESERVE that no entry answers is decided on the scanned guard. -/
theorem reserve_decides {guard : ResourceGuard} {manager : ControllerLeaseManager} {request : ReserveRequest} {reads : Entropy}
    (validated : manager.validate session leaseId nowMs = (.ok proof, leases))
    (unanswered : (guard.expireAndPurge nowMs leaseId proof.incarnation).idempotence.get? (leaseId, request.requestId) = none)
    (room : (guard.expireAndPurge nowMs leaseId proof.incarnation).idempotence.size < idempotenceCapacity) :
    (guard.reserve manager session leaseId request nowMs reads).1 =
      ((guard.expireAndPurge nowMs leaseId proof.incarnation).decideReservation proof request nowMs reads).1 := by
  have named := validate_lease validated
  unfold ResourceGuard.reserve
  simp only [validated, ← named, unanswered, if_neg (Nat.not_le.mpr room)]

theorem held_scanned (held : Held (holdings core published)) (proof : LeaseProof) (nowMs : Nat) :
    Held { holdings core published with
      guard := core.resourceGuard.expireAndPurge nowMs proof.leaseId proof.incarnation } := by
  have steps : GuardSteps nowMs [] (fun _ _ => False) core.resourceGuard (scanned proof nowMs 1 core.resourceGuard) :=
    scanned_steps proof 1 core.resourceGuard
  exact held.guardSteps (by simp [drawn]) steps

/-- The count is made of the lease's own reservations, buffers and jobs. -/
theorem allocatedBytes_own (held : Held (holdings core published)) (leaseId : LeaseId) (incarnation : WorkerIncarnationId)
    (buffers : ∀ id record, core.remoteBuffers.buffers.get? id = some record → record.budgetReleased = false →
      record.ownerControllerLeaseId = leaseId)
    (jobs : ∀ id record, core.computeJobs.jobs.get? id = some record → record.scratchReleased = false →
      record.controllerLeaseId = leaseId) :
    let guard := core.resourceGuard.expireAndPurge nowMs leaseId incarnation
    guard.allocatedBytes = pendingBytes leaseId guard + (bufferBytes leaseId core.remoteBuffers.buffers +
      scratchBytes leaseId core.computeJobs.jobs) := by
  intro guard
  have funded := (held_scanned held ⟨leaseId, incarnation, ⟨Vector.replicate 32 0⟩⟩ nowMs).funded
  refine funded.trans ?_
  unfold pendingBytes bufferBytes scratchBytes
  congr 1
  · apply Table.total_congr
    intro id reservation found
    by_cases pending : reservation.state = .reserved ∨ reservation.state = .committed
    · have own := pending_own found pending
      simp only [pending, own, if_true, and_self]
    · simp only [pending, false_and, if_false]
  congr 1
  · apply Table.total_congr
    intro id record found
    cases released : record.budgetReleased with
    | true => simp
    | false => simp [buffers id record found released]
  · apply Table.total_congr
    intro id record found
    cases released : record.scratchReleased with
    | true => simp
    | false => simp [jobs id record found released]

end Budget

section Run
variable {boot : Entropy} {start : WorkerCore}

/-- Whatever earlier leases reserved, committed or consumed, a RESERVE of the
current lease is compared with a count of the lease's own bytes only. -/
theorem lease_turnover (hasher : Hasher) (booted : coldStart boot = some start) (calls : List Call) (fresh : Fresh calls)
    (session : AuthenticatedSession) (leaseId : LeaseId) (nowMs : Nat) (proof : LeaseProof) (leases : ControllerLeaseManager) :
    let core := (coreRun hasher start calls).core.reconcileExpiredControllerLease nowMs
    core.leaseManager.validate session leaseId nowMs = (.ok proof, leases) →
    let guard := core.resourceGuard.expireAndPurge nowMs leaseId proof.incarnation
    let own := pendingBytes leaseId guard + (bufferBytes leaseId core.remoteBuffers.buffers +
      scratchBytes leaseId core.computeJobs.jobs)
    guard.allocatedBytes = own ∧
    (∀ id reservation, guard.reservations.get? id = some reservation →
      reservation.state = .reserved ∨ reservation.state = .committed → reservation.leaseId = leaseId) ∧
    (∀ id record, core.remoteBuffers.buffers.get? id = some record → record.budgetReleased = false →
      record.ownerControllerLeaseId = leaseId) ∧
    (∀ id record, core.computeJobs.jobs.get? id = some record → record.scratchReleased = false →
      record.controllerLeaseId = leaseId) ∧
    (∀ key entry, guard.idempotence.get? key = some entry → entry.leaseId = leaseId) ∧
    ∀ request reads, guard.idempotence.get? (leaseId, request.requestId) = none →
      guard.idempotence.size < idempotenceCapacity →
      let decision := (core.resourceGuard.reserve core.leaseManager session leaseId request nowMs reads).1
      decision = (guard.decideReservation proof request nowMs reads).1 ∧
      (decision = .refusedBudget → request.bytes = 0 ∨ request.resourceClass.maxRequestBytes < request.bytes ∨
        (guard.healthStatus nowMs).budgetBytes - own < request.bytes) := by
  intro core validated guard own
  have tenured : Tenured calls (coreRun hasher start calls) := coreRun_tenured booted calls fresh
  have moves : Moves nowMs [] (fun _ _ => False) (coreRun hasher start calls).holdings (holdings core _) := reconcile_moves _
  have held := moves.held tenured.kept.held
  have buffers : ∀ id record, core.remoteBuffers.buffers.get? id = some record → record.budgetReleased = false →
      record.ownerControllerLeaseId = leaseId := by
    intro id record found unreleased
    apply live_own tenured.owned validated found
    exact (held.buffers id record found).budgetReleased.symm.trans unreleased
  have jobs : ∀ id record, core.computeJobs.jobs.get? id = some record → record.scratchReleased = false →
      record.controllerLeaseId = leaseId := by
    intro id record found unreleased
    -- no job outlives the call that runs it
    have finished := reconcile_idle tenured.idle nowMs id record found
    rw [(held.jobs id record found).scratchReleased, finished] at unreleased
    cases unreleased
  have counted : guard.allocatedBytes = own := allocatedBytes_own held leaseId proof.incarnation buffers jobs
  refine ⟨counted, fun id reservation => pending_own, buffers, jobs, ?_, ?_⟩
  · intro key entry found
    obtain ⟨_, _, _, keeps, _⟩ :=
      ((expireAndPurge_swept core.resourceGuard nowMs leaseId proof.incarnation).idempotence key entry).mp found
    simp only [Bool.and_eq_true, decide_eq_true_eq] at keeps
    exact keeps.1
  · intro request reads unanswered room decision
    have decides : decision = (guard.decideReservation proof request nowMs reads).1 :=
      reserve_decides validated unanswered room
    refine ⟨decides, ?_⟩
    intro refused
    rw [← counted]
    exact decideReservation_refusedBudget (decides.symm.trans refused)

def otherSession : VerifiedPeerSession := ⟨⟨Vector.replicate 32 7⟩, ⟨filled 6⟩⟩

/-- The lease of the allocated buffer is released while the buffer is alive, and another peer acquires the next one. -/
def turnoverCalls : List Call := allocationCalls ++ [
  .controllerCommand someSession (.release ⟨filled 1⟩ 0) 10003 [],
  .controllerCommand otherSession .acquire 10004 [some (filled 4)]]

theorem lease_turnover_released :
    let before := (coreRun nullHasher bootedCore allocationCalls).core
    let core := (coreRun nullHasher bootedCore turnoverCalls).core.reconcileExpiredControllerLease 10005
    let guard := core.resourceGuard.expireAndPurge 10005 ⟨filled 4⟩ ⟨filled 9⟩
    before.resourceGuard.allocatedBytes = 4 ∧ guard.allocatedBytes = 0 ∧
    guard.allocatedBytes = pendingBytes ⟨filled 4⟩ guard +
      (bufferBytes ⟨filled 4⟩ core.remoteBuffers.buffers + scratchBytes ⟨filled 4⟩ core.computeJobs.jobs) := by
  intro before core guard
  refine ⟨by decide +kernel, by decide +kernel, ?_⟩
  have booted : coldStart [some (filled 9)] = some bootedCore := rfl
  have validated : core.leaseManager.validate (.fromVerified otherSession) ⟨filled 4⟩ 10005 =
      (.ok ⟨⟨filled 4⟩, ⟨filled 9⟩, otherSession.peerId⟩, core.leaseManager) := rfl
  exact (lease_turnover nullHasher booted turnoverCalls (by decide +kernel) (.fromVerified otherSession) ⟨filled 4⟩ 10005 _ _
    validated).1

end Run
end PhoneBoost.Worker.Proofs
