import PhoneBoost.Proofs.CoreCustody
import PhoneBoost.Proofs.CoreLeases

/-! What is alive between the calls of a run: no job, and only the buffers of
the lease in force whose session is still open. -/

namespace PhoneBoost.Worker.Proofs
open Keyed RemoteBufferStore WorkerCore
open Pbmux (BufferState ComputeJobState ComputeReason)

variable {nowMs : Nat} {reads : Entropy} {allowed : LeaseProof → SessionBinding → Prop} {h later : Holdings}
  {core core' : WorkerCore} {id : Bytes16} {record : BufferRecord}

/-- A live buffer was alive before in the same hands, or an allowed authority allocated it. -/
def LiveOrigin (buffers : Table Bytes16 BufferRecord) (allowed : LeaseProof → SessionBinding → Prop) (id : Bytes16)
    (record : BufferRecord) : Prop :=
  (∃ earlier, buffers.get? id = some earlier ∧ Live earlier ∧
    earlier.ownerControllerLeaseId = record.ownerControllerLeaseId ∧ earlier.sessionId = record.sessionId) ∨
  ∃ proof, allowed proof record.sessionId ∧ proof.leaseId = record.ownerControllerLeaseId

theorem Move.live_origin (move : Move nowMs reads allowed h later) (found : later.buffers.get? id = some record)
    (live : Live record) : LiveOrigin h.buffers allowed id record := by
  cases move with
  | guard | publish | finish | purgeJobs => exact .inl ⟨record, found, live, rfl, rfl⟩
  | @alloc target proof sessionId _ _ _ _ holder =>
    rw [Table.get?_insert] at found
    split at found
    · cases found
      exact .inr ⟨proof, holder, rfl⟩
    · exact .inl ⟨record, found, live, rfl, rfl⟩
  | edit present wasLive edited =>
    rw [Table.get?_modify] at found
    split at found
    next same =>
      subst same
      rw [present] at found
      cases found
      exact .inl ⟨_, present, wasLive, edited.lease.symm, edited.sessionId.symm⟩
    next => exact .inl ⟨record, found, live, rfl, rfl⟩
  | endBuffer present _ terminal =>
    rw [Table.get?_modify] at found
    split at found
    next same =>
      subst same
      rw [present] at found
      cases found
      cases terminal.symm.trans live
    next => exact .inl ⟨record, found, live, rfl, rfl⟩
  | purgeBuffers => exact .inl ⟨record, ((Table.get?_retain_eq_some _ _ _ _).mp found).1, live, rfl, rfl⟩

theorem Moves.live_origin (moves : Moves nowMs reads allowed h later) (found : later.buffers.get? id = some record)
    (live : Live record) : LiveOrigin h.buffers allowed id record := by
  induction moves generalizing record with
  | refl => exact .inl ⟨record, found, live, rfl, rfl⟩
  | tail _ move ih =>
    rcases move.live_origin found live with ⟨middle, present, wasLive, lease, session⟩ | allocated
    · rw [LiveOrigin, ← lease, ← session]
      exact ih present wasLive
    · exact .inr allocated

/-- What a sweep leaves alive did not match and is as it was. -/
theorem terminalizeWhere_live {store : RemoteBufferStore} {guard : ResourceGuard} {test : BufferRecord → Bool}
    {state : BufferState} (terminal : state.isTerminal = true)
    (found : (store.terminalizeWhere guard test state nowMs).1.buffers.get? id = some record) (live : Live record) :
    test record = false ∧ store.buffers.get? id = some record := by
  rw [get?_terminalizeWhere] at found
  obtain ⟨earlier, present, same⟩ := Option.map_eq_some_iff.mp found
  split at same
  · rw [← same] at live
    exact nomatch terminal.symm.trans live
  next unmatched =>
    subst same
    refine ⟨?_, present⟩
    simpa [show earlier.state.isTerminal = false from live] using unmatched

theorem endLease_live {leaseId : LeaseId}
    (found : (core.endLease leaseId nowMs).remoteBuffers.buffers.get? id = some record) (live : Live record) :
    record.ownerControllerLeaseId ≠ leaseId := by
  simpa using (terminalizeWhere_live rfl found live).1

theorem sessionEnded_live {session : VerifiedPeerSession}
    (found : (core.authenticatedSessionEnded session nowMs).remoteBuffers.buffers.get? id = some record)
    (live : Live record) : record.sessionId ≠ .fromVerified session.sessionId := by
  simpa using (terminalizeWhere_live rfl found live).1

/-- The end of a session is a tick for the buffers of the others. -/
theorem sessionEnded_others {session : VerifiedPeerSession} (found : core.remoteBuffers.buffers.get? id = some record)
    (foreign : record.sessionId ≠ .fromVerified session.sessionId) :
    (core.authenticatedSessionEnded session nowMs).remoteBuffers.buffers.get? id =
      (core.remoteBuffers.tick core.resourceGuard nowMs).1.buffers.get? id := by
  have same : (aged record nowMs).sessionId = record.sessionId := by
    unfold aged
    split <;> rfl
  simp only [authenticatedSessionEnded, sessionLost, tick]
  rw [get?_terminalizeWhere, get?_expireAndPurge, get?_expireAndPurge, found, Option.map_some, Option.filter_some]
  split
  · simp [same, foreign]
  · rfl

/-- Every live buffer belongs to the current lease. -/
def Owned (core : WorkerCore) : Prop :=
  ∀ id record, core.remoteBuffers.buffers.get? id = some record → Live record →
    Current core.leaseManager record.ownerControllerLeaseId

theorem reconcile_live (owned : Owned core)
    (found : (core.reconcileExpiredControllerLease nowMs).remoteBuffers.buffers.get? id = some record) (live : Live record) :
    ActiveAt core.leaseManager record.ownerControllerLeaseId nowMs := by
  have moves : Moves nowMs [] (fun _ _ => False) (holdings core []) (holdings _ []) := reconcile_moves core
  rcases moves.live_origin found live with ⟨earlier, present, wasLive, lease, _⟩ | ⟨_, ⟨⟩, _⟩
  obtain ⟨active, held, sameId⟩ := owned id earlier present wasLive
  rw [lease] at sameId
  rcases reconcile_cases core nowMs with ⟨_, settled⟩ | ⟨expired, due, _, same⟩
  · exact ⟨active, held, sameId, settled.live held⟩
  · -- the expired lease was the owner of everything alive
    rw [same] at found
    cases held.symm.trans due
    exact absurd sameId.symm (endLease_live found live)

/-- The session whose end the call reports. -/
def closedBy : Call → Option SessionBinding
  | .authenticatedSessionEnded session _ => some (.fromVerified session.sessionId)
  | _ => none

/-- The session that the call comes from. -/
def actingFor (call : Call) : Option SessionBinding :=
  if (closedBy call).isSome then none else call.session?.map fun session => .fromVerified session.sessionId

theorem entered_of_open {call : Call} (stays : closedBy call = none) :
    entered core call = core.reconcileExpiredControllerLease call.startMs := by
  cases call with
  | authenticatedSessionEnded => cases stays
  | controllerCommand | resourceRequest | remoteBufferRequest | computeRequest | recordLocalHealth | heartbeatPayload => rfl

section Step
variable {ids : List Bytes16} {published : List ReservationId} {call : Call} {hasher : Hasher}

/-- After every call but the end of a session, what is alive belongs to the
lease in force when the call started. -/
theorem Owned.step_live (owned : Owned core) (known : Known ids (holdings core published))
    (apart : ∀ id ∈ drawn call.reads, id ∉ ids) (stays : closedBy call = none)
    (found : (step hasher core call).2.remoteBuffers.buffers.get? id = some record) (live : Live record) :
    ActiveAt core.leaseManager record.ownerControllerLeaseId call.startMs := by
  rcases (step_moves hasher known call apart).live_origin found live with
    ⟨earlier, present, wasLive, lease, _⟩ | ⟨proof, ⟨session, leaseId, active, _, holds, rfl, _⟩, lease⟩
  · rw [entered_of_open stays] at present
    rw [← lease]
    exact reconcile_live owned present wasLive
  · rw [← lease]
    exact holds.activeAt

/-- The lease of a live buffer survives the call. -/
theorem Owned.step_current (owned : Owned core) (windows : Windows core.leaseManager)
    (known : Known ids (holdings core published)) (apart : ∀ id ∈ drawn call.reads, id ∉ ids)
    (found : (step hasher core call).2.remoteBuffers.buffers.get? id = some record) (live : Live record) :
    Current (step hasher core call).2.leaseManager record.ownerControllerLeaseId := by
  cases call with
  | authenticatedSessionEnded session nowMs =>
    rcases (step_moves hasher known (.authenticatedSessionEnded session nowMs) apart).live_origin found live with
      ⟨earlier, present, wasLive, lease, _⟩ | ⟨proof, ⟨_, leaseId, active, _, holds, rfl, _⟩, lease⟩
    · rw [← lease]
      exact owned id earlier present wasLive
    · rw [← lease]
      exact holds.activeAt.current
  | controllerCommand session command nowMs reads =>
    have active : ActiveAt (core.leaseManager.expireIfNeeded nowMs).2 record.ownerControllerLeaseId nowMs :=
      (owned.step_live known apart rfl found live).expired
    have swept : Windows (core.leaseManager.expireIfNeeded nowMs).2 := fun lease held =>
      windows lease (mem_of_expireIfNeeded held)
    rcases applied : (core.reconcileExpiredControllerLease nowMs).leaseManager.applyControllerCommand (.fromVerified session)
      command nowMs reads with ⟨outcome, manager⟩
    rw [step_leaseManager]
    simp only [commanded, entered, Call.startMs, applied]
    rw [reconcile_leaseManager] at applied
    rcases applyControllerCommand_current swept active (.fromVerified session) command reads with current | ⟨sequence, release, told⟩
    · rwa [applied] at current
    · -- its own RELEASE would have ended the buffer
      rw [applied] at told
      rw [← reconcile_leaseManager] at applied
      rcases applyControllerCommand_core core session command nowMs reads applied with
        ⟨other, _⟩ | ⟨leaseId, _, _, command_eq, _, same⟩
      · exact absurd told (other _ _ _ release)
      · simp only [step, same] at found
        cases release.symm.trans command_eq
        exact absurd rfl (endLease_live found live)
  | resourceRequest | remoteBufferRequest | computeRequest | recordLocalHealth | heartbeatPayload =>
    have active := owned.step_live known apart rfl found live
    rw [step_leaseManager]
    simp only [commanded, entered, reconcile_leaseManager]
    exact active.expired.current

end Step

section Jobs
variable {P : ComputeJobStore → Prop}
  (leaseEnded : ∀ store guard leaseId nowMs, P store → P (ComputeJobStore.leaseEnded store guard leaseId nowMs).1)
include leaseEnded

theorem reconcile_jobs {core : WorkerCore} (holds : P core.computeJobs) (nowMs : Nat) :
    P (core.reconcileExpiredControllerLease nowMs).computeJobs := by
  rcases reconcile_cases core nowMs with ⟨same, _⟩ | ⟨active, _, _, same⟩
  · rwa [same]
  · rw [same]
    exact leaseEnded _ _ _ nowMs holds

/-- Outside the compute channel, jobs only end with their lease or their session. -/
theorem step_jobs (hasher : Hasher) {core : WorkerCore} (holds : P core.computeJobs)
    (sessionLost : ∀ store guard sessionId nowMs, P store → P (ComputeJobStore.sessionLost store guard sessionId nowMs).1)
    (call : Call) (compute : ∀ session requestId request nowMs run reads,
      call = .computeRequest session requestId request nowMs run reads →
      P (core.reconcileExpiredControllerLease nowMs).computeJobs →
      P (core.applyComputeRequest hasher session requestId request nowMs run reads).2.computeJobs) :
    P (step hasher core call).2.computeJobs := by
  refine (step_frame hasher core call).jobs P ?_ leaseEnded sessionLost compute
  cases call with
  | authenticatedSessionEnded => exact holds
  | controllerCommand | resourceRequest | remoteBufferRequest | computeRequest | recordLocalHealth | heartbeatPayload =>
    exact reconcile_jobs leaseEnded holds _

end Jobs

/-- No job is in progress. -/
def Idle (jobs : Table Bytes16 JobRecord) : Prop := ∀ id record, jobs.get? id = some record → record.state.isTerminal = true

theorem finishWhere_idle {store : ComputeJobStore} (idle : Idle store.jobs) (guard : ResourceGuard) (test : JobRecord → Bool)
    (state : ComputeJobState) (reason : ComputeReason) (nowMs : Nat) :
    Idle (store.finishWhere guard test state reason nowMs).1.jobs := by
  refine Table.sweep_induction (fun jobs _ => Idle jobs) _ ?_ store.jobs guard idle
  intro jobs guard' id record found idle
  have done := idle id record found
  refine Table.every_modify idle fun _ _ => ?_
  simp [done]

theorem purge_idle {store : ComputeJobStore} (idle : Idle store.jobs) (nowMs : Nat) : Idle (store.purge nowMs).jobs :=
  Table.every_retain idle

theorem reconcile_idle (idle : Idle core.computeJobs.jobs) (nowMs : Nat) :
    Idle (core.reconcileExpiredControllerLease nowMs).computeJobs.jobs :=
  @reconcile_jobs (fun store => Idle store.jobs) (fun _ guard _ nowMs idle => finishWhere_idle idle guard _ _ _ nowMs) core idle nowMs

/-- A job that a request publishes is over when the request returns. -/
theorem ComputeServed.idle {session : VerifiedPeerSession} {requestId : UInt64} {request : Pbmux.ComputeRequest}
    {response : Pbmux.ComputeResponse} {finishedMs : Nat}
    (served : ComputeServed core session requestId request nowMs finishedMs reads response core')
    (idle : Idle core.computeJobs.jobs) : Idle core'.computeJobs.jobs := by
  have purged := purge_idle idle nowMs
  cases served with
  | stale => exact idle
  | look _ jobs => exact jobs ▸ purged
  | cancel _ _ _ jobs =>
    rw [jobs]
    exact Table.every_modify purged fun _ _ => rfl
  | submit _ _ submitted =>
    cases submitted with
    | early _ jobs => exact jobs ▸ purged
    | refuse _ _ jobs => exact jobs ▸ purged
    | run _ _ _ _ _ _ _ _ _ terminal jobs =>
      intro id record found
      rw [jobs, Table.get?_modify] at found
      split at found
      · obtain ⟨_, _, rfl⟩ := Option.map_eq_some_iff.mp found
        exact terminal
      next different =>
        rw [Table.get?_insert_of_ne _ _ different] at found
        exact purged id record found

theorem step_idle (hasher : Hasher) (idle : Idle core.computeJobs.jobs) (call : Call) :
    Idle (step hasher core call).2.computeJobs.jobs := by
  refine @step_jobs (fun store => Idle store.jobs) ?_ hasher core idle ?_ call ?_
  · exact fun _ guard _ nowMs idle => finishWhere_idle idle guard _ _ _ nowMs
  · exact fun _ guard _ nowMs idle => finishWhere_idle idle guard _ _ _ nowMs
  · exact fun session requestId request nowMs run reads _ idle =>
      (applyComputeRequest_served hasher core session requestId request nowMs run reads).idle idle

/-- No session acts once its end has been reported. -/
def SessionsClose (calls : List Call) : Prop :=
  calls.Pairwise fun earlier later => ∀ sessionId ∈ closedBy earlier, actingFor later ≠ some sessionId

/-- Every live buffer belongs to an open session. -/
def Open (calls : List Call) (core : WorkerCore) : Prop :=
  ∀ id record, core.remoteBuffers.buffers.get? id = some record → Live record → ∀ call ∈ calls,
    closedBy call ≠ some record.sessionId

theorem Open.step {ids : List Bytes16} {published : List ReservationId} {hasher : Hasher} {calls : List Call} {call : Call}
    (opened : Open calls core) (known : Known ids (holdings core published)) (apart : ∀ id ∈ drawn call.reads, id ∉ ids)
    (closes : SessionsClose (calls ++ [call])) : Open (calls ++ [call]) (Worker.step hasher core call).2 := by
  intro id record found live other member closed
  have gone : closedBy call ≠ some record.sessionId := by
    cases call with
    | authenticatedSessionEnded session nowMs => exact fun same => sessionEnded_live found live (Option.some.inj same).symm
    | controllerCommand | resourceRequest | remoteBufferRequest | computeRequest | recordLocalHealth | heartbeatPayload =>
      exact nofun
  rcases List.mem_append.mp member with old | new
  · have moves : Moves call.startMs call.reads (Acting core call) (holdings core published) _ :=
      (entered_moves core call).trans (step_moves hasher known call apart)
    rcases moves.live_origin found live with
      ⟨earlier, present, wasLive, _, session⟩ | ⟨_, ⟨session, _, _, acts, _, _, same⟩, _⟩
    · exact opened id earlier present wasLive other old (session ▸ closed)
    · -- only an open session allocates
      have silent := (List.pairwise_append.mp closes).2.2 other old call (List.mem_singleton_self call) _ closed
      apply silent
      unfold actingFor
      split
      next ends =>
        cases call with
        | authenticatedSessionEnded =>
          cases acts
          exact absurd (congrArg some same.symm) gone
        | controllerCommand | resourceRequest | remoteBufferRequest | computeRequest | recordLocalHealth | heartbeatPayload =>
          cases ends
      next => rw [acts, Option.map_some, same]
  · exact gone (List.mem_singleton.mp new ▸ closed)

/-- What holds between the calls of any run. -/
structure Tenured (calls : List Call) (run : CoreRun) : Prop where
  kept : Kept calls run
  windows : Windows run.core.leaseManager
  owned : Owned run.core
  idle : Idle run.core.computeJobs.jobs

/-- The same for a run whose sessions close. -/
structure Tended (calls : List Call) (run : CoreRun) : Prop extends Tenured calls run where
  opened : Open calls run.core

structure Steady (calls : List Call) : Prop where
  fresh : Fresh calls
  closes : SessionsClose calls

theorem Steady.shorter (calls : List Call) (call : Call) (steady : Steady (calls ++ [call])) : Steady calls :=
  ⟨Machine.Distinct.shorter calls call steady.fresh, (List.pairwise_append.mp steady.closes).1⟩

section Run
variable {hasher : Hasher} {boot : Entropy} {start : WorkerCore} {calls : List Call} {run : CoreRun} {call : Call}

theorem Tenured.extend (calls : List Call) (call : Call) (run : CoreRun) (fresh : Fresh (calls ++ [call]))
    (tenured : Tenured calls run) : Tenured (calls ++ [call]) (run.step hasher call) where
  kept := Kept.extend calls call run fresh tenured.kept
  windows := tenured.windows.step hasher call
  owned _ _ found live := tenured.owned.step_current tenured.windows tenured.kept.known (Fresh.apart fresh) found live
  idle := step_idle hasher tenured.idle call

theorem Tended.extend (calls : List Call) (call : Call) (run : CoreRun) (steady : Steady (calls ++ [call]))
    (tended : Tended calls run) : Tended (calls ++ [call]) (run.step hasher call) where
  toTenured := Tenured.extend calls call run steady.fresh tended.toTenured
  opened := tended.opened.step tended.kept.known (Fresh.apart steady.fresh) steady.closes

theorem coldStart_tended (booted : coldStart boot = some start) : Tended [] ⟨start, []⟩ := by
  have kept := coldStart_kept booted
  obtain ⟨id, rfl⟩ := coldStart_some booted
  refine ⟨⟨kept, ?_, ?_, ?_⟩, ?_⟩
  · exact fun _ held => nomatch held
  · exact fun _ _ found => nomatch found
  · exact fun _ _ found => nomatch found
  · exact fun _ _ found => nomatch found

theorem coreRun_tenured (booted : coldStart boot = some start) (calls : List Call) (fresh : Fresh calls) :
    Tenured calls (coreRun hasher start calls) :=
  Machine.run_induction Fresh Tenured (fun calls call => Machine.Distinct.shorter calls call)
    (coldStart_tended booted).toTenured Tenured.extend calls fresh

theorem coreRun_tended (booted : coldStart boot = some start) (calls : List Call) (steady : Steady calls) :
    Tended calls (coreRun hasher start calls) :=
  Machine.run_induction Steady Tended Steady.shorter (coldStart_tended booted) Tended.extend calls steady

/-- What has ended stays as it is for the rest of the run, or is forgotten. -/
theorem coreRun_rests (booted : coldStart boot = some start) {id : Bytes16} (old : id ∈ drawnBy calls) (more : List Call)
    (fresh : Fresh (calls ++ more)) :
    (∀ record : BufferRecord, record.state.isTerminal = true →
      Rests (coreRun hasher start calls).core.remoteBuffers.buffers id record →
      Rests (coreRun hasher start (calls ++ more)).core.remoteBuffers.buffers id record) ∧
    ∀ record : JobRecord, record.state.isTerminal = true → Rests (coreRun hasher start calls).core.computeJobs.jobs id record →
      Rests (coreRun hasher start (calls ++ more)).core.computeJobs.jobs id record := by
  induction more using List.reverseRecOn with
  | nil =>
    rw [List.append_nil]
    exact ⟨fun _ _ rests => rests, fun _ _ rests => rests⟩
  | append_singleton more call ih =>
    rw [← List.append_assoc] at fresh ⊢
    have before := Machine.Distinct.shorter _ call fresh
    have kept : Kept (calls ++ more) (coreRun hasher start (calls ++ more)) := coreRun_kept booted (calls ++ more) before
    have moves : Moves call.startMs call.reads (Acting _ call) _
        ((coreRun hasher start (calls ++ more)).step hasher call).holdings := kept.moves fresh
    have absent : id ∉ drawn call.reads := fun member =>
      Fresh.apart fresh id member (by simp only [drawnBy, List.flatMap_append, List.mem_append] at old ⊢; exact .inl old)
    rw [coreRun_concat]
    exact ⟨fun record terminal rests => moves.bufferRests absent terminal ((ih before).1 record terminal rests),
      fun record terminal rests => moves.jobRests absent terminal ((ih before).2 record terminal rests)⟩

/-- Nothing of the lease is alive. -/
def LeaseOver (core : WorkerCore) (leaseId : LeaseId) : Prop :=
  (∀ id record, core.remoteBuffers.buffers.get? id = some record → record.ownerControllerLeaseId = leaseId →
    ¬ Live record) ∧
  ∀ id record, core.computeJobs.jobs.get? id = some record → record.controllerLeaseId = leaseId →
    record.state.isTerminal = true

/-- Nothing of the session is alive. -/
def SessionOver (core : WorkerCore) (sessionId : SessionBinding) : Prop :=
  (∀ id record, core.remoteBuffers.buffers.get? id = some record → record.sessionId = sessionId → ¬ Live record) ∧
  ∀ id record, core.computeJobs.jobs.get? id = some record → record.sessionId = sessionId → record.state.isTerminal = true

/-- An executed RELEASE leaves no lease. -/
theorem released_active {manager : ControllerLeaseManager} (windows : Windows manager) {session : AuthenticatedSession}
    {leaseId : LeaseId} {sequence : Nat} {reads : Entropy}
    (executed : commandEvents manager session nowMs reads (.release leaseId sequence) ≠ []) :
    ((manager.expireIfNeeded nowMs).2.applyControllerCommand session (.release leaseId sequence) nowMs reads).2.active =
      none := by
  by_cases holder : ∃ active, Holds manager session leaseId nowMs active
  · obtain ⟨active, holds⟩ := holder
    have window := holds.window windows
    have executes := (commandEvents_ne_nil (.inr rfl) holds window reads).mp executed
    exact congrArg (fun answer => answer.2.active) (applyRelease_executes holds.expired window executes)
  · rw [commandEvents, beginMutationInternal_stale (not_exists.mp holder)] at executed
    exact absurd rfl executed

/-- Whatever is alive between calls belongs to an open session and to the lease
that was in force when the last call started. Ends of leases and sessions reach
every buffer and job, and nothing that has ended comes back. -/
theorem coreRun_lifecycle (hasher : Hasher) (booted : coldStart boot = some start) (calls : List Call) (fresh : Fresh calls)
    (closes : SessionsClose calls) :
    let core := (coreRun hasher start calls).core
    (∀ id record, core.remoteBuffers.buffers.get? id = some record → (record.backing.isSome = true ↔ Live record)) ∧
    Open calls core ∧ Idle core.computeJobs.jobs ∧
    (∀ call, Fresh (calls ++ [call]) →
      let next := (coreRun hasher start (calls ++ [call])).core
      (closedBy call = none → ∀ id record, next.remoteBuffers.buffers.get? id = some record → Live record →
        ActiveAt core.leaseManager record.ownerControllerLeaseId call.startMs ∧
        Current next.leaseManager record.ownerControllerLeaseId) ∧
      (∀ session leaseId sequence nowMs reads, call = .controllerCommand session (.release leaseId sequence) nowMs reads →
        commandEvents core.leaseManager (.fromVerified session) nowMs reads (.release leaseId sequence) ≠ [] →
        LeaseOver next leaseId) ∧
      (∀ active, core.leaseManager.active = some active → active.expiresAtMs ≤ call.startMs → closedBy call = none →
        LeaseOver next active.id) ∧
      ∀ session nowMs, call = .authenticatedSessionEnded session nowMs →
        SessionOver next (.fromVerified session.sessionId) ∧
        ∀ id record, core.remoteBuffers.buffers.get? id = some record →
          record.sessionId ≠ .fromVerified session.sessionId →
          next.remoteBuffers.buffers.get? id = (core.remoteBuffers.tick core.resourceGuard nowMs).1.buffers.get? id) ∧
    ∀ more, Fresh (calls ++ more) →
      (∀ id record, core.remoteBuffers.buffers.get? id = some record → ¬ Live record →
        Rests (coreRun hasher start (calls ++ more)).core.remoteBuffers.buffers id record) ∧
      ∀ id record, core.computeJobs.jobs.get? id = some record → record.state.isTerminal = true →
        Rests (coreRun hasher start (calls ++ more)).core.computeJobs.jobs id record := by
  intro core
  have tended : Tended calls (coreRun hasher start calls) := coreRun_tended booted calls ⟨fresh, closes⟩
  have known := tended.kept.known
  refine ⟨?_, tended.opened, tended.idle, ?_, ?_⟩
  · intro id record found
    rw [(tended.kept.held.buffers id record found).backing, Live]
    simp
  · intro call more next
    have next_eq : next = (step hasher core call).2 := by
      show (coreRun hasher start (calls ++ [call])).core = _
      rw [coreRun_concat]
      rfl
    have idle : Idle next.computeJobs.jobs := next_eq ▸ step_idle hasher tended.idle call
    have apart := Fresh.apart more
    have alive : closedBy call = none → ∀ id record, next.remoteBuffers.buffers.get? id = some record → Live record →
        ActiveAt core.leaseManager record.ownerControllerLeaseId call.startMs := by
      intro stays id record found live
      rw [next_eq] at found
      exact tended.owned.step_live known apart stays found live
    have current : ∀ id record, next.remoteBuffers.buffers.get? id = some record → Live record →
        Current next.leaseManager record.ownerControllerLeaseId := by
      intro id record found live
      rw [next_eq] at found ⊢
      exact tended.owned.step_current tended.windows known apart found live
    refine ⟨fun stays id record found live => ⟨alive stays id record found live, current id record found live⟩, ?_, ?_, ?_⟩
    · rintro session leaseId sequence nowMs reads rfl executed
      refine ⟨?_, fun id record found _ => idle id record found⟩
      intro id record found _ live
      obtain ⟨active, held, _⟩ := current id record found live
      rw [next_eq, step_leaseManager, entered_of_open rfl, reconcile_leaseManager] at held
      cases (released_active tended.windows executed).symm.trans held
    · intro active held due stays
      refine ⟨?_, fun id record found _ => idle id record found⟩
      rintro id record found owner live
      obtain ⟨lease, holder, _, lasts⟩ := alive stays id record found live
      cases held.symm.trans holder
      omega
    · rintro session nowMs rfl
      rw [next_eq] at idle ⊢
      refine ⟨⟨fun id record found mine live => sessionEnded_live found live mine, fun id record found _ => idle id record found⟩,
        fun id record found foreign => sessionEnded_others found foreign⟩
  · intro more later
    constructor
    · intro id record found ended
      exact (coreRun_rests booted (known.buffers id record found) more later).1 record (by simpa [Live] using ended) (.inr found)
    · intro id record found ended
      exact (coreRun_rests booted (known.jobs id record found) more later).2 record ended (.inr found)

/-- The allocated buffer is lost with its session. -/
theorem coreRun_lifecycle_session :
    let ended := allocationCalls ++ [.authenticatedSessionEnded someSession 10003]
    coldStart [some (filled 9)] = some bootedCore ∧ Fresh allocationCalls ∧ SessionsClose allocationCalls ∧ Fresh ended ∧
    (∃ record, (coreRun nullHasher bootedCore allocationCalls).core.remoteBuffers.buffers.get? (filled 3) = some record ∧
      Live record) ∧
    (∃ record, (coreRun nullHasher bootedCore ended).core.remoteBuffers.buffers.get? (filled 3) = some record ∧
      record.state = .lost) ∧
    SessionOver (coreRun nullHasher bootedCore ended).core (.fromVerified someSession.sessionId) := by
  have booted : coldStart [some (filled 9)] = some bootedCore := rfl
  have fresh : Fresh allocationCalls := by decide
  have closes : SessionsClose allocationCalls := by simp [SessionsClose, allocationCalls, closedBy]
  have more : Fresh (allocationCalls ++ [.authenticatedSessionEnded someSession 10003]) := by decide
  refine ⟨booted, fresh, closes, more, ⟨_, rfl, rfl⟩, ⟨_, rfl, rfl⟩, ?_⟩
  have ends := ((coreRun_lifecycle nullHasher booted allocationCalls fresh closes).2.2.2.1 _ more).2.2.2
  exact (ends someSession 10003 rfl).1

end Run
end PhoneBoost.Worker.Proofs
