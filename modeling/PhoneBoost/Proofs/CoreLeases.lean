import PhoneBoost.Proofs.CoreMoves
import PhoneBoost.Proofs.LeaseWindow

/-! What a call leaves alone, and the lease manager through the calls of the worker.
Every call lets a due lease expire; beyond that only a lease command changes the
manager. -/

namespace PhoneBoost.Worker.Proofs
open WorkerCore ControllerLeaseManager

/-- What the call asks of the lease manager it finds. -/
def commanded (manager : ControllerLeaseManager) : Call → ControllerLeaseManager
  | .controllerCommand session command nowMs reads =>
    (manager.applyControllerCommand (.fromVerified session) command nowMs reads).2
  | _ => manager

def isResourceRequest : Call → Bool
  | .resourceRequest .. => true
  | _ => false

theorem BufferServed.frame {core core' : WorkerCore} {session : VerifiedPeerSession} {request : Pbmux.RemoteBufferRequest}
    {nowMs : Nat} {reads : Entropy} {result : Pbmux.BufferResult}
    (served : BufferServed core session request nowMs reads result core') :
    core'.incarnation = core.incarnation ∧ core'.leaseManager = core.leaseManager ∧
      core'.resourceRequests = core.resourceRequests ∧ core'.computeJobs = core.computeJobs := by
  cases served <;> exact ⟨rfl, rfl, rfl, rfl⟩

theorem ComputeServed.frame {core core' : WorkerCore} {session : VerifiedPeerSession} {requestId : UInt64}
    {request : Pbmux.ComputeRequest} {nowMs finishedMs : Nat} {reads : Entropy} {response : Pbmux.ComputeResponse}
    (served : ComputeServed core session requestId request nowMs finishedMs reads response core') :
    core'.incarnation = core.incarnation ∧ core'.leaseManager = core.leaseManager ∧
      core'.resourceRequests = core.resourceRequests := by
  cases served with
  | stale | look | cancel => exact ⟨rfl, rfl, rfl⟩
  | submit _ _ submitted => cases submitted <;> exact ⟨rfl, rfl, rfl⟩

/-- What a call leaves alone: the incarnation; the lease manager but for a lease
command; the result cache but for a resource request; and the jobs, which outside
the compute channel only end with their lease or their session. -/
structure StepFrame (hasher : Hasher) (core : WorkerCore) (call : Call) (after : WorkerCore) : Prop where
  incarnation : after.incarnation = core.incarnation
  leaseManager : after.leaseManager = commanded (entered core call).leaseManager call
  requests : isResourceRequest call = false → after.resourceRequests = core.resourceRequests
  jobs : ∀ P : ComputeJobStore → Prop, P (entered core call).computeJobs →
    (∀ store guard leaseId nowMs, P store → P (ComputeJobStore.leaseEnded store guard leaseId nowMs).1) →
    (∀ store guard sessionId nowMs, P store → P (ComputeJobStore.sessionLost store guard sessionId nowMs).1) →
    (∀ session requestId request nowMs run reads, call = .computeRequest session requestId request nowMs run reads →
      P (core.reconcileExpiredControllerLease nowMs).computeJobs →
      P (core.applyComputeRequest hasher session requestId request nowMs run reads).2.computeJobs) → P after.computeJobs

theorem step_frame (hasher : Hasher) (core : WorkerCore) (call : Call) : StepFrame hasher core call (step hasher core call).2 := by
  have incarnation := reconcile_incarnation core
  have requests := reconcile_resourceRequests core
  cases call with
  | controllerCommand session command nowMs reads =>
    rcases applied : (core.reconcileExpiredControllerLease nowMs).leaseManager.applyControllerCommand (.fromVerified session)
      command nowMs reads with ⟨outcome, manager⟩
    have told : commanded (entered core (.controllerCommand session command nowMs reads)).leaseManager
        (.controllerCommand session command nowMs reads) = manager := congrArg Prod.snd applied
    rcases applyControllerCommand_core core session command nowMs reads applied with ⟨_, same⟩ | ⟨leaseId, _, _, _, _, same⟩
    · simp only [step, same]
      exact ⟨incarnation nowMs, told.symm, fun _ => requests nowMs, fun _ holds _ _ _ => holds⟩
    · simp only [step, same]
      exact ⟨incarnation nowMs, told.symm, fun _ => requests nowMs, fun _ holds ended _ _ => ended _ _ leaseId nowMs holds⟩
  | resourceRequest session requestId request nowMs reads =>
    obtain ⟨guard, cache, _, same⟩ := (applyResourceRequest_served core session requestId request nowMs reads).core_eq
      (fun _ _ => True) (reconcile_settled core nowMs) fun _ _ _ _ => trivial
    simp only [step, same]
    exact ⟨incarnation nowMs, rfl, (by cases ·), fun _ holds _ _ _ => holds⟩
  | remoteBufferRequest session request nowMs memory reads =>
    have kept := (applyRemoteBufferRequest_served core session request nowMs memory reads).frame
    exact ⟨kept.1.trans (incarnation nowMs), kept.2.1, fun _ => kept.2.2.1.trans (requests nowMs), fun P holds _ _ _ =>
      (congrArg P kept.2.2.2).mpr holds⟩
  | computeRequest session requestId request nowMs run reads =>
    have kept := (applyComputeRequest_served hasher core session requestId request nowMs run reads).frame
    exact ⟨kept.1.trans (incarnation nowMs), kept.2.1, fun _ => kept.2.2.trans (requests nowMs), fun _ holds _ _ compute =>
      compute session requestId request nowMs run reads rfl holds⟩
  | recordLocalHealth sample nowMs =>
    exact ⟨incarnation nowMs, rfl, fun _ => requests nowMs, fun _ holds _ _ _ => holds⟩
  | heartbeatPayload session nowMs =>
    simp only [step, heartbeatPayload_core]
    exact ⟨incarnation nowMs, rfl, fun _ => requests nowMs, fun _ holds _ _ _ => holds⟩
  | authenticatedSessionEnded session nowMs =>
    exact ⟨rfl, rfl, fun _ => rfl, fun _ holds _ lost _ => lost _ _ _ nowMs holds⟩

theorem step_leaseManager (hasher : Hasher) (core : WorkerCore) (call : Call) :
    (step hasher core call).2.leaseManager = commanded (entered core call).leaseManager call :=
  (step_frame hasher core call).leaseManager

/-- The lease holds at the clock reading. -/
def ActiveAt (manager : ControllerLeaseManager) (leaseId : LeaseId) (nowMs : Nat) : Prop :=
  ∃ active, manager.active = some active ∧ active.id = leaseId ∧ nowMs < active.expiresAtMs

/-- The lease is the current one, though it may be due. -/
def Current (manager : ControllerLeaseManager) (leaseId : LeaseId) : Prop :=
  ∃ active, manager.active = some active ∧ active.id = leaseId

abbrev Windows (manager : ControllerLeaseManager) : Prop := ∀ active ∈ manager.active, Window active

variable {manager : ControllerLeaseManager} {leaseId : LeaseId} {nowMs : Nat} {core : WorkerCore} {call : Call}

theorem ActiveAt.current (active : ActiveAt manager leaseId nowMs) : Current manager leaseId := by
  obtain ⟨lease, held, id, _⟩ := active
  exact ⟨lease, held, id⟩

theorem activeAt_of_current_expired (current : Current (manager.expireIfNeeded nowMs).2 leaseId) :
    ActiveAt manager leaseId nowMs := by
  obtain ⟨active, held, id⟩ := current
  exact ⟨active, mem_of_expireIfNeeded held, id, expireIfNeeded_live manager nowMs active held⟩

theorem ActiveAt.expired (active : ActiveAt manager leaseId nowMs) :
    ActiveAt (manager.expireIfNeeded nowMs).2 leaseId nowMs := by
  obtain ⟨lease, held, id, live⟩ := active
  rw [expireIfNeeded_of_live (by rintro other same; cases held.symm.trans same; exact live)]
  exact ⟨lease, held, id, live⟩

theorem Holds.activeAt {session : AuthenticatedSession} {active : ActiveLease}
    (holds : Holds manager session leaseId nowMs active) : ActiveAt manager leaseId nowMs :=
  activeAt_of_current_expired ⟨active, holds.held, holds.id⟩

theorem entered_leaseManager (core : WorkerCore) (call : Call) :
    (entered core call).leaseManager = core.leaseManager ∨
    (entered core call).leaseManager = (core.leaseManager.expireIfNeeded call.startMs).2 := by
  cases call with
  | authenticatedSessionEnded => exact .inl rfl
  | controllerCommand | resourceRequest | remoteBufferRequest | computeRequest | recordLocalHealth | heartbeatPayload =>
    exact .inr (reconcile_leaseManager core _)

/-- A call only adds the effect of its lease command. -/
theorem commanded_step (windows : Windows manager) (call : Call) :
    ∃ events, LeaseStep call.startMs call.reads manager (commanded manager call) events := by
  cases call with
  | controllerCommand session command nowMs reads => exact ⟨_, applyControllerCommand_step windows _ command nowMs reads⟩
  | resourceRequest | remoteBufferRequest | computeRequest | recordLocalHealth | heartbeatPayload
  | authenticatedSessionEnded => exact ⟨[], .keep rfl⟩

theorem Windows.entered (windows : Windows core.leaseManager) (call : Call) : Windows (Proofs.entered core call).leaseManager := by
  rcases entered_leaseManager core call with same | same
  · rwa [same]
  · rw [same]
    exact fun active held => windows active (mem_of_expireIfNeeded held)

theorem Windows.step (windows : Windows core.leaseManager) (hasher : Hasher) (call : Call) :
    Windows (Worker.step hasher core call).2.leaseManager := by
  rw [step_leaseManager]
  obtain ⟨events, stepped⟩ := commanded_step (windows.entered call) call
  exact stepped.windows (windows.entered call)

/-- A lease that holds outlives every command except its own RELEASE, which is
then answered without a lease. -/
theorem applyControllerCommand_current (windows : Windows manager) (active : ActiveAt manager leaseId nowMs)
    (session : AuthenticatedSession) (command : ControllerCommand) (reads : Entropy) :
    Current (manager.applyControllerCommand session command nowMs reads).2 leaseId ∨
    ∃ sequence, command = .release leaseId sequence ∧
      (manager.applyControllerCommand session command nowMs reads).1 = .ok (.completed sequence none) := by
  obtain ⟨lease, held, rfl, live⟩ := active
  have swept : (manager.expireIfNeeded nowMs).2 = manager := by
    rw [expireIfNeeded_of_live (by rintro other same; cases held.symm.trans same; exact live)]
  have stays : Current manager lease.id := ⟨lease, held, rfl⟩
  cases command with
  | acquire =>
    left
    simp only [ControllerLeaseManager.applyControllerCommand, applyAcquire, swept, held]
    split <;> exact stays
  | unsupported sequence => exact .inl stays
  | renew target sequence =>
    left
    by_cases holder : ∃ active, Holds manager session target nowMs active ∧ admission active sequence = .executeOnce
    · obtain ⟨active, holds, executes⟩ := holder
      have same : active = lease := Option.some.inj ((swept ▸ holds.held).symm.trans held)
      simp only [ControllerLeaseManager.applyControllerCommand, applyRenew_executes holds (holds.window windows) executes]
      exact ⟨_, rfl, by simp [extended, same]⟩
    · rw [applyControllerCommand_idle (.inl rfl) windows (fun active holds executes => holder ⟨active, holds, executes⟩), swept]
      exact stays
  | release target sequence =>
    by_cases holder : ∃ active, Holds manager session target nowMs active ∧ admission active sequence = .executeOnce
    · obtain ⟨active, holds, executes⟩ := holder
      have same : active = lease := Option.some.inj ((swept ▸ holds.held).symm.trans held)
      right
      rw [← same, holds.id]
      exact ⟨sequence, rfl, congrArg Prod.fst (applyRelease_executes holds (holds.window windows) executes)⟩
    · left
      rw [applyControllerCommand_idle (.inr rfl) windows (fun active holds executes => holder ⟨active, holds, executes⟩), swept]
      exact stays

end PhoneBoost.Worker.Proofs
