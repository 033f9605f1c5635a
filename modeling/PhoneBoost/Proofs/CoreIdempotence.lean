import PhoneBoost.Proofs.CoreCustody
import PhoneBoost.Proofs.CoreLeases

/-! The result cache of the resource channel. An answer stays in it as long as
its lease is the current one and the answer is young; only a request of another
lease, which then is the current one, drops it earlier. -/

namespace PhoneBoost.Worker.Proofs
open Keyed WorkerCore
open Pbmux (ResourceRequest ResourceResponseKind ResourceResult)

variable {hasher : Hasher} {core core' : WorkerCore} {call : Call} {leaseId : LeaseId} {requestId : UInt64} {nowMs : Nat}
  {reads : Entropy} {entry : ResourceRequestCacheEntry}

theorem get?_pruned (core : WorkerCore) (leaseId current : LeaseId) (requestId : UInt64) (nowMs : Nat) :
    (pruned core current nowMs).resourceRequests.get? (leaseId, requestId) =
      (core.resourceRequests.get? (leaseId, requestId)).filter fun entry =>
        leaseId = current && nowMs - entry.terminalAtMs ≤ terminalRetentionMs :=
  Table.get?_retain ..

/-- A request leaves a young answer of the current lease where it is. -/
theorem ResourceServed.remembers {session : AuthenticatedSession} {request : ResourceRequest} {asked : UInt64}
    {reply : ResourceResponseKind × ResourceResult} (settled : Settled core nowMs)
    (served : ResourceServed core session asked request nowMs reads reply core') (current : Current core.leaseManager leaseId)
    (found : core.resourceRequests.get? (leaseId, requestId) = some entry)
    (young : nowMs - entry.terminalAtMs ≤ terminalRetentionMs) :
    core'.resourceRequests.get? (leaseId, requestId) = some entry := by
  have mine : ∀ {active}, Holds core.leaseManager session ⟨request.leaseId⟩ nowMs active →
      (pruned core ⟨request.leaseId⟩ nowMs).resourceRequests.get? (leaseId, requestId) = some entry := by
    intro active holds
    obtain ⟨lease, held, rfl⟩ := current
    cases held.symm.trans (settled.held holds)
    rw [get?_pruned, found, Option.filter_some, if_pos (by rw [holds.id]; simpa using young)]
  cases served with
  | stale => exact found
  | replay _ holds => exact mine holds
  | conflict _ holds => exact mine holds
  | full _ holds => exact mine holds
  | @fresh active answer next _ holds absent _ dispatched =>
    have pruned_settled : Settled (pruned core ⟨request.leaseId⟩ nowMs) nowMs := settled
    obtain ⟨guard, _, same⟩ := dispatchResource_core (fun _ _ => True) pruned_settled holds asked request
    rw [dispatched] at same
    dsimp only at same
    subst same
    have kept := mine holds
    split
    · have different : (leaseId, requestId) ≠ (⟨request.leaseId⟩, asked) := by
        intro same
        rw [same, absent] at kept
        cases kept
      rw [Table.get?_insert_of_ne _ _ different]
      exact kept
    · exact kept

/-- Only an ACQUIRE makes a lease current, under an identifier it draws. -/
theorem LeaseStep.current_origin {before after : ControllerLeaseManager} {events : List LeaseEvent}
    (stepped : LeaseStep nowMs reads before after events) (current : Current after leaseId) :
    Current before leaseId ∨ leaseId.bytes ∈ drawn reads := by
  obtain ⟨active, held, rfl⟩ := current
  cases stepped with
  | keep same => exact .inl ⟨active, same ▸ held, rfl⟩
  | expire same => exact .inl ⟨active, mem_of_expireIfNeeded (same ▸ held), rfl⟩
  | acquire _ member same =>
    subst same
    cases held
    exact .inr member
  | renew holds _ same =>
    subst same
    cases held
    exact .inl ⟨_, mem_of_expireIfNeeded holds.held, by simp [extended]⟩
  | release _ _ same =>
    subst same
    cases held

theorem step_current_origin (windows : Windows core.leaseManager)
    (current : Current (step hasher core call).2.leaseManager leaseId) :
    Current core.leaseManager leaseId ∨ leaseId.bytes ∈ drawn call.reads := by
  rw [step_leaseManager] at current
  obtain ⟨events, stepped⟩ := commanded_step (windows.entered call) call
  refine (stepped.current_origin current).imp_left ?_
  rintro ⟨active, held, same⟩
  rcases entered_leaseManager core call with unchanged | expired
  · exact ⟨active, unchanged ▸ held, same⟩
  · exact ⟨active, mem_of_expireIfNeeded (expired ▸ held), same⟩

/-- The answer is in the cache, or it can no longer be asked for. -/
def Remembered (leaseId : LeaseId) (requestId : UInt64) (entry : ResourceRequestCacheEntry) (since : List Call)
    (core : WorkerCore) : Prop :=
  core.resourceRequests.get? (leaseId, requestId) = some entry ∨ ¬ Current core.leaseManager leaseId ∨
  ∃ past ∈ since, terminalRetentionMs < past.startMs - entry.terminalAtMs

theorem Remembered.step {since : List Call} (remembered : Remembered leaseId requestId entry since core)
    (windows : Windows core.leaseManager) (once : leaseId.bytes ∉ drawn call.reads) :
    Remembered leaseId requestId entry (since ++ [call]) (Worker.step hasher core call).2 := by
  rcases remembered with found | dead | ⟨past, member, old⟩
  · by_cases young : call.startMs - entry.terminalAtMs ≤ terminalRetentionMs
    · by_cases asks : isResourceRequest call = true
      · cases call with
        | resourceRequest session asked request nowMs reads =>
          by_cases current : Current (core.reconcileExpiredControllerLease nowMs).leaseManager leaseId
          · left
            rw [← reconcile_resourceRequests core nowMs] at found
            exact (applyResourceRequest_served core session asked request nowMs reads).remembers (reconcile_settled core nowMs)
              current found young
          · right
            left
            rw [step_leaseManager]
            exact current
        | controllerCommand | remoteBufferRequest | computeRequest | recordLocalHealth | heartbeatPayload
        | authenticatedSessionEnded => cases asks
      · left
        rw [(step_frame hasher core call).requests (by simpa using asks)]
        exact found
    · exact .inr (.inr ⟨call, by simp, Nat.lt_of_not_le young⟩)
  · exact .inr (.inl fun current => (step_current_origin windows current).elim dead once)
  · exact .inr (.inr ⟨past, List.mem_append_left _ member, old⟩)

/-- The call puts this answer into the cache. -/
def Stores (hasher : Hasher) (core : WorkerCore) (call : Call) (leaseId : LeaseId) (requestId : UInt64)
    (entry : ResourceRequestCacheEntry) : Prop :=
  core.resourceRequests.get? (leaseId, requestId) ≠ some entry ∧
  (step hasher core call).2.resourceRequests.get? (leaseId, requestId) = some entry

/-- The request that an entry of the cache answers, and how it was answered. -/
structure Answered (hasher : Hasher) (core : WorkerCore) (call : Call) (leaseId : LeaseId) (requestId : UInt64)
    (entry : ResourceRequestCacheEntry) : Prop where
  asked : ∃ session reads, call = .resourceRequest session requestId entry.request entry.terminalAtMs reads
  lease : entry.request.leaseId = leaseId.bytes
  nonzero : requestId ≠ 0
  told : (step hasher core call).1 = .resource entry.kind entry.result

theorem ResourceServed.stores {session : AuthenticatedSession} {request : ResourceRequest} {asked : UInt64}
    {reply : ResourceResponseKind × ResourceResult} (settled : Settled core nowMs)
    (served : ResourceServed core session asked request nowMs reads reply core')
    (before : core.resourceRequests.get? (leaseId, requestId) ≠ some entry)
    (after : core'.resourceRequests.get? (leaseId, requestId) = some entry) :
    (leaseId, requestId) = (⟨request.leaseId⟩, asked) ∧ asked ≠ 0 ∧ entry = ⟨request, reply.1, reply.2, nowMs⟩ := by
  have dropped : (pruned core ⟨request.leaseId⟩ nowMs).resourceRequests.get? (leaseId, requestId) ≠ some entry := by
    rw [get?_pruned]
    exact fun kept => before (Option.filter_eq_some_iff.mp kept).1
  cases served with
  | stale => exact absurd after before
  | replay | conflict | full => exact absurd after dropped
  | @fresh active answer next valid holds _ _ dispatched =>
    have pruned_settled : Settled (pruned core ⟨request.leaseId⟩ nowMs) nowMs := settled
    obtain ⟨guard, _, same⟩ := dispatchResource_core (fun _ _ => True) pruned_settled holds asked request
    rw [dispatched] at same
    dsimp only at same
    subst same
    split at after
    · rw [Table.get?_insert] at after
      split at after
      next here => exact ⟨here, valid.1, (Option.some.inj after).symm⟩
      next => exact absurd after dropped
    · exact absurd after dropped

/-- Nothing enters the cache but the answer that a request has just been given. -/
theorem Stores.answered (stored : Stores hasher core call leaseId requestId entry) :
    Answered hasher core call leaseId requestId entry := by
  obtain ⟨before, after⟩ := stored
  cases call with
  | resourceRequest session asked request nowMs reads =>
    rw [← reconcile_resourceRequests core nowMs] at before
    obtain ⟨here, nonzero, rfl⟩ := (applyResourceRequest_served core session asked request nowMs reads).stores
      (reconcile_settled core nowMs) before after
    cases here
    exact ⟨⟨session, reads, rfl⟩, rfl, nonzero, rfl⟩
  | controllerCommand | remoteBufferRequest | computeRequest | recordLocalHealth | heartbeatPayload
  | authenticatedSessionEnded =>
    rw [(step_frame hasher core _).requests rfl] at after
    exact absurd after before

/-- A cached answer is repeated to the request it was given to; any other
request under its number is refused. Neither touches the stores. -/
theorem ResourceServed.recalls {session : AuthenticatedSession} {request : ResourceRequest}
    {reply : ResourceResponseKind × ResourceResult} {active : ActiveLease}
    (served : ResourceServed core session requestId request nowMs reads reply core')
    (holds : Holds core.leaseManager session ⟨request.leaseId⟩ nowMs active) (nonzero : requestId ≠ 0)
    (incarnation : request.workerIncarnationId = core.incarnation.bytes)
    (found : core.resourceRequests.get? (⟨request.leaseId⟩, requestId) = some entry)
    (young : nowMs - entry.terminalAtMs ≤ terminalRetentionMs) :
    reply = (if request = entry.request then (entry.kind, entry.result)
      else (resourceResponseKind request, resourceFailure request.leaseId core.incarnation .requestIdConflict)) ∧
    core' = { core with resourceRequests := core'.resourceRequests } := by
  have kept : (pruned core ⟨request.leaseId⟩ nowMs).resourceRequests.get? (⟨request.leaseId⟩, requestId) = some entry := by
    rw [get?_pruned, found, Option.filter_some, if_pos (by simpa using young)]
  cases served with
  | stale invalid =>
    rcases invalid with zero | other | unheld
    · exact absurd zero nonzero
    · exact absurd incarnation other
    · exact absurd holds (unheld active)
  | replay _ _ stored same =>
    cases kept.symm.trans stored
    exact ⟨(if_pos same.symm).symm, rfl⟩
  | conflict _ _ stored differs =>
    cases kept.symm.trans stored
    exact ⟨(if_neg (Ne.symm differs)).symm, rfl⟩
  | full _ _ absent => cases kept.symm.trans absent
  | fresh _ _ absent => cases kept.symm.trans absent

theorem Holds.reconcile {session : AuthenticatedSession} {active : ActiveLease}
    (holds : Holds core.leaseManager session leaseId nowMs active) : core.reconcileExpiredControllerLease nowMs = core := by
  rcases reconcile_cases core nowMs with ⟨same, _⟩ | ⟨expired, held, due, _⟩
  · exact same
  · cases held.symm.trans (mem_of_expireIfNeeded holds.held)
    exact absurd (expireIfNeeded_live _ _ _ holds.held) (Nat.not_lt.mpr due)

theorem Clocked.start_le {calls : List Call} {last : Call} (clocked : Clocked (calls ++ [last])) :
    ∀ past ∈ calls, past.startMs ≤ last.startMs := by
  intro past member
  have before : past.finishMs ≤ last.startMs :=
    (List.pairwise_append.mp clocked.between).2.2 past member last (List.mem_singleton_self last)
  refine le_trans ?_ before
  have ordered := (clocked.each past (List.mem_append_left _ member)).1
  cases past with
  | computeRequest => exact ordered.2
  | controllerCommand | resourceRequest | remoteBufferRequest | recordLocalHealth | heartbeatPayload
  | authenticatedSessionEnded => exact le_rfl

section Run
variable {boot : Entropy} {start : WorkerCore} {calls : List Call}

theorem coreRun_windows (booted : coldStart boot = some start) (calls : List Call) :
    Windows (coreRun hasher start calls).core.leaseManager := by
  refine Machine.run_induction (fun _ => True) (fun _ (run : CoreRun) => Windows run.core.leaseManager) (fun _ _ _ => trivial) ?_
    (fun _ call _ _ windows => windows.step hasher call) calls trivial
  obtain ⟨id, rfl⟩ := coldStart_some booted
  exact fun _ held => nomatch held

theorem coreRun_remembered (booted : coldStart boot = some start)
    (found : (coreRun hasher start calls).core.resourceRequests.get? (leaseId, requestId) = some entry)
    (between : List Call) (once : ∀ call ∈ between, leaseId.bytes ∉ drawn call.reads) :
    Remembered leaseId requestId entry between (coreRun hasher start (calls ++ between)).core := by
  induction between using List.reverseRecOn with
  | nil =>
    rw [List.append_nil]
    exact .inl found
  | append_singleton between call ih =>
    rw [← List.append_assoc, coreRun_concat]
    exact (ih fun other member => once other (List.mem_append_left _ member)).step
      (coreRun_windows booted (calls ++ between)) (once call (by simp))

/-- For as long as its lease lasts, and for five minutes at most, an answer is
repeated word for word to the same request and guards its number against every
other request, whatever happens in between. -/
theorem coreRun_idempotence (hasher : Hasher) (booted : coldStart boot = some start) (calls : List Call) (call : Call)
    (leaseId : LeaseId) (requestId : UInt64) (entry : ResourceRequestCacheEntry)
    (stored : Stores hasher (coreRun hasher start calls).core call leaseId requestId entry) :
    Answered hasher (coreRun hasher start calls).core call leaseId requestId entry ∧
    ∀ between session request nowMs reads proof,
      Clocked (calls ++ [call] ++ between ++ [.resourceRequest session requestId request nowMs reads]) →
      (∀ other ∈ between, leaseId.bytes ∉ drawn other.reads) →
      let core := (coreRun hasher start (calls ++ [call] ++ between)).core
      nowMs - entry.terminalAtMs ≤ 300000 →
      (core.leaseManager.validate (.fromVerified session) leaseId nowMs).1 = .ok proof →
      request.leaseId = leaseId.bytes → request.workerIncarnationId = core.incarnation.bytes →
      let answer := core.applyResourceRequest session requestId request nowMs reads
      answer.1 = (if request = entry.request then (entry.kind, entry.result)
        else (resourceResponseKind request, resourceFailure request.leaseId core.incarnation .requestIdConflict)) ∧
      answer.2 = { core with resourceRequests := answer.2.resourceRequests } := by
  have answered := stored.answered
  refine ⟨answered, ?_⟩
  intro between session request nowMs reads proof clocked once core young validates lease incarnation
  obtain ⟨active, holds, _⟩ := validate_ok validates
  have found : (coreRun hasher start (calls ++ [call])).core.resourceRequests.get? (leaseId, requestId) = some entry := by
    rw [coreRun_concat]
    exact stored.2
  have served := applyResourceRequest_served core session requestId request nowMs reads
  rw [holds.reconcile] at served
  obtain rfl : ⟨request.leaseId⟩ = leaseId := by rw [lease]
  refine served.recalls holds answered.nonzero incarnation ?_ young
  rcases coreRun_remembered booted found between once with kept | dead | ⟨past, member, old⟩
  · exact kept
  · exact absurd holds.activeAt.current dead
  · have before : past.startMs ≤ nowMs := Clocked.start_le clocked past (List.mem_append_right _ member)
    have retention : terminalRetentionMs = 300000 := rfl
    omega

def reserveFour : ResourceRequest := .reserve (filled 1) (filled 9) .remoteBufferBytes 4

/-- The answer to the RESERVE of the allocation run. -/
def reservedFour : ResourceRequestCacheEntry where
  request := reserveFour
  kind := .reserveAck
  result := {
    state := .completed
    reason := .none
    leaseId := filled 1
    workerIncarnationId := filled 9
    reservation := some ⟨filled 2, .reserved, .remoteBufferBytes, 4, 30000⟩ }
  terminalAtMs := 10000

def reserveCall : Call := .resourceRequest someSession 1 reserveFour 10000 [some (filled 2)]

theorem reserveCall_stores :
    Stores nullHasher (coreRun nullHasher bootedCore (allocationCalls.take 3)).core reserveCall ⟨filled 1⟩ 1 reservedFour := by
  constructor
  · decide +kernel
  · decide +kernel

/-- The same RESERVE, asked again after the ALLOC. -/
theorem coreRun_idempotence_allocation :
    coldStart [some (filled 9)] = some bootedCore ∧
    Stores nullHasher (coreRun nullHasher bootedCore (allocationCalls.take 3)).core reserveCall ⟨filled 1⟩ 1 reservedFour ∧
    ((coreRun nullHasher bootedCore (allocationCalls.take 3 ++ [reserveCall] ++
      allocationCalls.drop 4)).core.applyResourceRequest someSession 1 reserveFour 20000 []).1 =
        (reservedFour.kind, reservedFour.result) := by
  have booted : coldStart [some (filled 9)] = some bootedCore := rfl
  have clocked : Clocked (allocationCalls.take 3 ++ [reserveCall] ++ allocationCalls.drop 4 ++
      [.resourceRequest someSession 1 reserveFour 20000 []]) := by
    constructor <;> simp [reserveCall, allocationCalls, Call.Ordered, Call.finishMs, Call.startMs, u64Max]
  have again := (coreRun_idempotence nullHasher booted (allocationCalls.take 3) reserveCall ⟨filled 1⟩ 1 reservedFour
    reserveCall_stores).2 (allocationCalls.drop 4) someSession reserveFour 20000 [] ⟨⟨filled 1⟩, ⟨filled 9⟩, somePeer⟩ clocked
    (by decide) (by decide) (by decide) rfl (by decide)
  exact ⟨booted, reserveCall_stores, again.1.trans (if_pos rfl)⟩

end Run
end PhoneBoost.Worker.Proofs
