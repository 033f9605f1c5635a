import Mathlib.Logic.Function.Iterate
import PhoneBoost.Proofs.GuardScan

/-! What one call can do to the guard, idempotence entries included. The three
requests of the resource channel are described by the decision they return and
the guard they leave; between calls the guard moves by steps that keep consumed
reservations as they are. -/

namespace PhoneBoost.Worker.Proofs
open Keyed Budget Relation

/-- The guard after the scans that a call makes on behalf of a lease. -/
def scanned (proof : LeaseProof) (nowMs scans : Nat) (guard : ResourceGuard) : ResourceGuard :=
  (fun guard : ResourceGuard => guard.expireAndPurge nowMs proof.leaseId proof.incarnation)^[scans] guard

theorem scanned_succ (proof : LeaseProof) (nowMs scans : Nat) (guard : ResourceGuard) :
    scanned proof nowMs (scans + 1) guard =
      (scanned proof nowMs scans guard).expireAndPurge nowMs proof.leaseId proof.incarnation :=
  Function.iterate_succ_apply' _ _ _

/-- The guard after a reservation has been handed to a buffer or job. -/
def handedOver (guard : ResourceGuard) (reservationId : ReservationId) : ResourceGuard :=
  { guard with reservations := guard.reservations.modify reservationId fun entry => { entry with state := .consumed } }

/-- Two guards with the same reservations and idempotence entries. -/
def SameBooks (first second : ResourceGuard) : Prop :=
  ledger first = ledger second ∧ first.idempotence = second.idempotence

theorem recordHealth_sameBooks (guard : ResourceGuard) (sample : HealthSample) :
    SameBooks (guard.recordHealth sample).2 guard := by
  have memory : SameBooks (guard.updateMemory sample) guard := by
    unfold ResourceGuard.updateMemory
    dsimp only
    split_ifs <;> exact ⟨rfl, rfl⟩
  have thermal : ∀ guard : ResourceGuard, SameBooks (guard.updateThermal sample) guard := by
    intro guard
    unfold ResourceGuard.updateThermal
    cases guard.thermalRecovery <;> dsimp only <;> split_ifs <;> exact ⟨rfl, rfl⟩
  have battery : ∀ guard : ResourceGuard, SameBooks (guard.updateBattery sample) guard := by
    intro guard
    unfold ResourceGuard.updateBattery
    cases guard.batteryRecovery <;> dsimp only <;> split_ifs <;> exact ⟨rfl, rfl⟩
  have last := battery ((guard.updateMemory sample).updateThermal sample)
  have middle := thermal (guard.updateMemory sample)
  exact ⟨last.1.trans (middle.1.trans memory.1), last.2.trans (middle.2.trans memory.2)⟩

/-- One transfer in the ledger, which leaves the idempotence entries alone. -/
def Exchange (nowMs : Nat) (guard guard' : ResourceGuard) : Prop :=
  Transfer nowMs (ledger guard) (ledger guard') ∧ guard'.idempotence = guard.idempotence

theorem releaseConsumed_exchange (guard : ResourceGuard) (reservationId : ReservationId) (resourceClass : ResourceClass)
    (bytes nowMs : Nat) : Exchange nowMs guard (guard.releaseConsumed reservationId resourceClass bytes nowMs) := by
  rcases releaseConsumed_cases guard reservationId resourceClass bytes nowMs with
    ⟨same, _⟩ | ⟨reservation, found, state, _, rfl, same⟩
  · rw [same]
    exact ⟨.none, rfl⟩
  · rw [same]
    exact ⟨.giveBack found state, rfl⟩

theorem handedOver_exchange {guard : ResourceGuard} {id : ReservationId} {reservation : Reservation}
    (found : guard.reservations.get? id = some reservation) (state : reservation.state = .committed) (nowMs : Nat) :
    Exchange nowMs guard (handedOver guard id) :=
  ⟨.consume found state, rfl⟩

/-- What the owner is told about a reservation. -/
def snapshotOf (id : ReservationId) (reservation : Reservation) (nowMs : Nat) : ReservationSnapshot where
  reservationId := id
  resourceClass := reservation.resourceClass
  bytes := reservation.bytes
  state := reservation.state
  ttlRemainingMs := if reservation.state = .reserved then min (reservation.expiresAtMs - nowMs) u32Max else 0

structure OwnedBy (reservation : Reservation) (proof : LeaseProof) : Prop where
  peer : reservation.peerId = proof.peerId
  lease : reservation.leaseId = proof.leaseId
  incarnation : reservation.incarnation = proof.incarnation

theorem reservationSnapshot_cases (guard : ResourceGuard) (proof : LeaseProof) (id : ReservationId) (nowMs : Nat) :
    (guard.reservationSnapshot proof id nowMs = (none, guard.expireAndPurge nowMs proof.leaseId proof.incarnation) ∧
      ∀ reservation, (guard.expireAndPurge nowMs proof.leaseId proof.incarnation).reservations.get? id = some reservation →
        ¬ OwnedBy reservation proof) ∨
    ∃ reservation, (guard.expireAndPurge nowMs proof.leaseId proof.incarnation).reservations.get? id = some reservation ∧
      OwnedBy reservation proof ∧
      guard.reservationSnapshot proof id nowMs =
        (some (snapshotOf id reservation nowMs), guard.expireAndPurge nowMs proof.leaseId proof.incarnation) := by
  unfold ResourceGuard.reservationSnapshot
  generalize guard.expireAndPurge nowMs proof.leaseId proof.incarnation = swept
  dsimp only
  split
  next absent => exact .inl ⟨rfl, by simp [absent]⟩
  next reservation found =>
    split
    next foreign =>
      refine .inl ⟨rfl, ?_⟩
      rintro stored present ⟨peer, lease, incarnation⟩
      rw [found, Option.some.injEq] at present
      subst stored
      simp [peer, lease, incarnation] at foreign
    next owned =>
      simp only [Bool.or_eq_true, decide_eq_true_eq, not_or, not_not] at owned
      exact .inr ⟨reservation, found, ⟨owned.1.1, owned.1.2, owned.2⟩, rfl⟩

/-- The entry that answers a repeated request. -/
def answered (proof : LeaseProof) (request : ReserveRequest) (decision : ReservationDecision) (nowMs : Nat) :
    IdempotenceEntry where
  leaseId := proof.leaseId
  incarnation := proof.incarnation
  resourceClass := request.resourceClass
  bytes := request.bytes
  decision
  terminalAtMs := ResourceGuard.decisionTerminalAt decision nowMs

def remember (guard : ResourceGuard) (proof : LeaseProof) (request : ReserveRequest) (decision : ReservationDecision)
    (nowMs : Nat) : ResourceGuard :=
  { guard with
    idempotence := guard.idempotence.insert (proof.leaseId, request.requestId) (answered proof request decision nowMs) }

def granted (guard : ResourceGuard) (proof : LeaseProof) (request : ReserveRequest) (id : ReservationId) (nowMs : Nat) :
    ResourceGuard :=
  { guard with
    allocatedBytes := guard.allocatedBytes + request.bytes
    reservations := guard.reservations.insert id (opened proof request nowMs) }

def committed (guard : ResourceGuard) (id : ReservationId) : ResourceGuard :=
  { guard with reservations := guard.reservations.modify id fun entry => { entry with state := .committed } }

/-- RESERVE under a valid proof, after the scan. -/
inductive Reserved (guard : ResourceGuard) (proof : LeaseProof) (request : ReserveRequest) (nowMs : Nat) (reads : Entropy) :
    ReservationDecision → ResourceGuard → Prop where
  | conflict {entry} (found : guard.idempotence.get? (proof.leaseId, request.requestId) = some entry)
      (differs : entry.leaseId ≠ proof.leaseId ∨ entry.incarnation ≠ proof.incarnation ∨
        entry.resourceClass ≠ request.resourceClass ∨ entry.bytes ≠ request.bytes) :
      Reserved guard proof request nowMs reads .idempotenceConflict guard
  | again {entry} (found : guard.idempotence.get? (proof.leaseId, request.requestId) = some entry)
      (lease : entry.leaseId = proof.leaseId) (incarnation : entry.incarnation = proof.incarnation)
      (sameClass : entry.resourceClass = request.resourceClass) (bytes : entry.bytes = request.bytes) :
      Reserved guard proof request nowMs reads entry.decision guard
  | full (absent : guard.idempotence.get? (proof.leaseId, request.requestId) = none)
      (full : idempotenceCapacity ≤ guard.idempotence.size) :
      Reserved guard proof request nowMs reads .idempotenceTableFull guard
  | refuse {decision} (absent : guard.idempotence.get? (proof.leaseId, request.requestId) = none)
      (refused : Refusal decision) :
      Reserved guard proof request nowMs reads decision (remember guard proof request decision nowMs)
  | grant {id} (absent : guard.idempotence.get? (proof.leaseId, request.requestId) = none)
      (opening : Opening proof nowMs reads id (opened proof request nowMs))
      (fits : guard.allocatedBytes + request.bytes ≤ pocCapBytes) :
      Reserved guard proof request nowMs reads (.reserved id)
        (remember (granted guard proof request id nowMs) proof request (.reserved id) nowMs)

theorem reserve_reserved {leases leases' : ControllerLeaseManager} {session : AuthenticatedSession} {leaseId : LeaseId}
    {nowMs : Nat} {proof : LeaseProof} (validated : leases.validate session leaseId nowMs = (.ok proof, leases'))
    (guard : ResourceGuard) (request : ReserveRequest) (reads : Entropy) :
    ∃ decision guard', Reserved (guard.expireAndPurge nowMs proof.leaseId proof.incarnation) proof request nowMs reads
        decision guard' ∧
      guard.reserve leases session leaseId request nowMs reads = (decision, guard', leases') := by
  obtain rfl := validate_lease validated
  unfold ResourceGuard.reserve
  rw [validated]
  dsimp only
  generalize guard.expireAndPurge nowMs proof.leaseId proof.incarnation = swept
  split
  next entry found =>
    split
    next other =>
      refine ⟨_, _, .conflict found ?_, rfl⟩
      simp only [Bool.or_eq_true, decide_eq_true_eq] at other
      tauto
    next same =>
      simp only [Bool.or_eq_true, decide_eq_true_eq, not_or, not_not] at same
      split
      next equal =>
        simp only [Bool.and_eq_true, decide_eq_true_eq] at equal
        exact ⟨_, _, .again found same.1 same.2 equal.1 equal.2, rfl⟩
      next differs =>
        refine ⟨_, _, .conflict found ?_, rfl⟩
        simp only [Bool.and_eq_true, decide_eq_true_eq] at differs
        tauto
  next absent =>
    split
    next full => exact ⟨_, _, .full absent full, rfl⟩
    next =>
      rcases decideReservation_cases swept proof request nowMs reads with
        ⟨decision, refused, same⟩ | ⟨id, opening, fits, same⟩
      · rw [same]
        exact ⟨_, _, .refuse absent refused, rfl⟩
      · rw [same]
        exact ⟨_, _, .grant absent opening fits, rfl⟩

/-- COMMIT under a valid proof, after the scan. -/
inductive Committed (guard : ResourceGuard) (proof : LeaseProof) (id : ReservationId) (nowMs : Nat) :
    CommitDecision → ResourceGuard → Prop where
  | unknown (absent : guard.reservations.get? id = none) : Committed guard proof id nowMs .unknownOrExpiredReservation guard
  | foreign {reservation} (found : guard.reservations.get? id = some reservation)
      (differs : reservation.leaseId ≠ proof.leaseId ∨ reservation.incarnation ≠ proof.incarnation) :
      Committed guard proof id nowMs .staleLease guard
  | again {reservation} (found : guard.reservations.get? id = some reservation) (state : reservation.state = .committed) :
      Committed guard proof id nowMs .committed guard
  | late {reservation} (found : guard.reservations.get? id = some reservation) (past : ¬ Pending reservation.state) :
      Committed guard proof id nowMs .unknownOrExpiredReservation guard
  | refuse {reservation} (found : guard.reservations.get? id = some reservation) (state : reservation.state = .reserved) :
      Committed guard proof id nowMs .refusedSafety
        (guard.terminate id reservation.bytes reservation.leaseId reservation.requestId .refusedSafety nowMs)
  | commit {reservation} (found : guard.reservations.get? id = some reservation) (state : reservation.state = .reserved) :
      Committed guard proof id nowMs .committed (committed guard id)

theorem commit_committed {leases leases' : ControllerLeaseManager} {session : AuthenticatedSession} {leaseId : LeaseId}
    {nowMs : Nat} {proof : LeaseProof} (validated : leases.validate session leaseId nowMs = (.ok proof, leases'))
    (guard : ResourceGuard) (id : ReservationId) :
    ∃ decision guard', Committed (guard.expireAndPurge nowMs proof.leaseId proof.incarnation) proof id nowMs decision guard' ∧
      guard.commit leases session leaseId id nowMs = (decision, guard', leases') := by
  obtain rfl := validate_lease validated
  unfold ResourceGuard.commit
  rw [validated]
  dsimp only
  generalize guard.expireAndPurge nowMs proof.leaseId proof.incarnation = swept
  split
  next absent => exact ⟨_, _, .unknown absent, rfl⟩
  next reservation found =>
    split
    next other => exact ⟨_, _, .foreign found (by simpa using other), rfl⟩
    next =>
      cases state : reservation.state with
      | reserved =>
        dsimp only
        split
        · exact ⟨_, _, .refuse found state, rfl⟩
        · exact ⟨_, _, .commit found state, rfl⟩
      | committed => exact ⟨_, _, .again found state, rfl⟩
      | released | expired | refusedSafety | consumed | consumedReleased =>
        exact ⟨_, _, .late found (by simp [Pending, state]), rfl⟩

/-- RELEASE under a valid proof, after the scan. -/
inductive Released (guard : ResourceGuard) (proof : LeaseProof) (id : ReservationId) (nowMs : Nat) :
    ReleaseDecision → ResourceGuard → Prop where
  | unknown (absent : guard.reservations.get? id = none) : Released guard proof id nowMs .unknownReservation guard
  | foreign {reservation} (found : guard.reservations.get? id = some reservation)
      (differs : reservation.leaseId ≠ proof.leaseId ∨ reservation.incarnation ≠ proof.incarnation) :
      Released guard proof id nowMs .staleLease guard
  | late {reservation} (found : guard.reservations.get? id = some reservation) (past : ¬ Pending reservation.state) :
      Released guard proof id nowMs .alreadyTerminal guard
  | release {reservation} (found : guard.reservations.get? id = some reservation) (pending : Pending reservation.state) :
      Released guard proof id nowMs .released
        (guard.terminate id reservation.bytes reservation.leaseId reservation.requestId .released nowMs)

theorem release_released {leases leases' : ControllerLeaseManager} {session : AuthenticatedSession} {leaseId : LeaseId}
    {nowMs : Nat} {proof : LeaseProof} (validated : leases.validate session leaseId nowMs = (.ok proof, leases'))
    (guard : ResourceGuard) (id : ReservationId) :
    ∃ decision guard', Released (guard.expireAndPurge nowMs proof.leaseId proof.incarnation) proof id nowMs decision guard' ∧
      guard.release leases session leaseId id nowMs = (decision, guard', leases') := by
  obtain rfl := validate_lease validated
  unfold ResourceGuard.release
  rw [validated]
  dsimp only
  generalize guard.expireAndPurge nowMs proof.leaseId proof.incarnation = swept
  split
  next absent => exact ⟨_, _, .unknown absent, rfl⟩
  next reservation found =>
    split
    next other => exact ⟨_, _, .foreign found (by simpa using other), rfl⟩
    next =>
      cases state : reservation.state with
      | reserved => exact ⟨_, _, .release found (.inl state), rfl⟩
      | committed => exact ⟨_, _, .release found (.inr state), rfl⟩
      | released | expired | refusedSafety | consumed | consumedReleased =>
        exact ⟨_, _, .late found (by simp [Pending, state]), rfl⟩

/-- Some idempotence entry answers with this reservation. -/
def Named (guard : ResourceGuard) (id : ReservationId) : Prop :=
  ∃ key entry, guard.idempotence.get? key = some entry ∧ entry.decision = .reserved id

/-- One step of the guard that neither hands a reservation over nor takes it back. -/
inductive GuardStep (nowMs : Nat) (reads : Entropy) (allowed : LeaseProof → ReserveRequest → Prop) :
    ResourceGuard → ResourceGuard → Prop where
  | health {guard guard'} (same : SameBooks guard' guard) : GuardStep nowMs reads allowed guard guard'
  | scan {guard} (leaseId : LeaseId) (incarnation : WorkerIncarnationId) :
      GuardStep nowMs reads allowed guard (guard.expireAndPurge nowMs leaseId incarnation)
  | tick {guard} : GuardStep nowMs reads allowed guard (guard.tick nowMs)
  | refuse {guard proof request decision} (holder : allowed proof request)
      (absent : guard.idempotence.get? (proof.leaseId, request.requestId) = none)
      (refused : Refusal decision) :
      GuardStep nowMs reads allowed guard (remember guard proof request decision nowMs)
  | grant {guard proof request id} (holder : allowed proof request)
      (absent : guard.idempotence.get? (proof.leaseId, request.requestId) = none)
      (opening : Opening proof nowMs reads id (opened proof request nowMs)) (vacant : guard.reservations.get? id = none)
      (unnamed : ¬ Named guard id) (fits : guard.allocatedBytes + request.bytes ≤ pocCapBytes) :
      GuardStep nowMs reads allowed guard
        (remember (granted guard proof request id nowMs) proof request (.reserved id) nowMs)
  | commit {guard id reservation} (found : guard.reservations.get? id = some reservation)
      (state : reservation.state = .reserved) : GuardStep nowMs reads allowed guard (committed guard id)
  | settle {guard id reservation state} (found : guard.reservations.get? id = some reservation)
      (pending : Pending reservation.state) (unused : Unused state) :
      GuardStep nowMs reads allowed guard
        (guard.terminate id reservation.bytes reservation.leaseId reservation.requestId state nowMs)

abbrev GuardSteps (nowMs : Nat) (reads : Entropy) (allowed : LeaseProof → ReserveRequest → Prop) :
    ResourceGuard → ResourceGuard → Prop :=
  ReflTransGen (GuardStep nowMs reads allowed)

variable {nowMs : Nat} {reads : Entropy} {allowed : LeaseProof → ReserveRequest → Prop} {guard guard' : ResourceGuard} {proof : LeaseProof}

theorem GuardStep.postings (step : GuardStep nowMs reads allowed guard guard') :
    Postings (fun id reservation => ∃ proof request, allowed proof request ∧ Opening proof nowMs reads id reservation) nowMs
      (ledger guard) (ledger guard') := by
  cases step with
  | health same => rw [same.1]
  | scan leaseId incarnation => exact expireAndPurge_postings _ guard nowMs leaseId incarnation
  | tick => exact tick_postings _ guard nowMs
  | refuse => exact .refl
  | @grant proof request id holder _ opening vacant _ fits =>
    apply ReflTransGen.single
    show Posting _ nowMs (ledger guard) ((ledger guard).charge id (opened proof request nowMs) request.bytes)
    exact .reserve ⟨proof, request, holder, opening⟩ vacant rfl rfl fits
  | commit found state => exact .single (.commit found state)
  | settle found pending unused => exact .single (terminate_posting found pending unused _ _)

theorem GuardSteps.postings (steps : GuardSteps nowMs reads allowed guard guard') :
    Postings (fun id reservation => ∃ proof request, allowed proof request ∧ Opening proof nowMs reads id reservation) nowMs
      (ledger guard) (ledger guard') := by
  induction steps with
  | refl => exact .refl
  | tail _ step ih => exact ih.trans step.postings

theorem scanned_steps (proof : LeaseProof) (scans : Nat) (guard : ResourceGuard) :
    GuardSteps nowMs reads allowed guard (scanned proof nowMs scans guard) := by
  induction scans with
  | zero => exact .refl
  | succ scans ih =>
    rw [scanned_succ]
    exact ih.tail (.scan _ _)

/-- A scan keeps the terms of what it leaves on record. -/
theorem scan_sameTerms {id : ReservationId} {reservation earlier : Reservation} {leaseId : LeaseId}
    {incarnation : WorkerIncarnationId} (present : guard.reservations.get? id = some earlier)
    (found : (guard.expireAndPurge nowMs leaseId incarnation).reservations.get? id = some reservation) :
    SameTerms earlier reservation := by
  rcases (expireAndPurge_postings (fun _ _ => False) guard nowMs leaseId incarnation).origin found with
    ⟨_, opening, _⟩ | ⟨before, there, progress⟩
  · exact opening.elim
  · cases present.symm.trans there
    exact progress.sameTerms

/-- Identifiers that the guard mentions differ from those a call can draw. -/
structure Unseen (guard : ResourceGuard) (reads : Entropy) : Prop where
  reservations : ∀ id reservation, guard.reservations.get? id = some reservation → id.bytes ∉ drawn reads
  named : ∀ id, Named guard id → id.bytes ∉ drawn reads

theorem Swept.named {stays : Reservation → Bool} {keeps : IdempotenceEntry → Bool} {id : ReservationId}
    (swept : Swept nowMs stays keeps guard guard') (named : Named guard' id) : Named guard id := by
  obtain ⟨key, after, found, decision⟩ := named
  obtain ⟨entry, present, rewritten, _⟩ := (swept.idempotence key after).mp found
  refine ⟨key, entry, present, ?_⟩
  rcases rewritten with ⟨_, rfl⟩ | ⟨_, rfl⟩
  · exact decision
  · exact decision

theorem named_remember {request : ReserveRequest} {decision : ReservationDecision} {id : ReservationId}
    (named : Named (remember guard proof request decision nowMs) id) : Named guard id ∨ decision = .reserved id := by
  obtain ⟨key, entry, found, same⟩ := named
  simp only [remember, Table.get?_insert] at found
  split at found
  · cases found
    exact .inr same
  · exact .inl ⟨key, entry, found, same⟩

theorem GuardStep.named {id : ReservationId} (step : GuardStep nowMs reads allowed guard guard') (named : Named guard' id) :
    Named guard id ∨ id.bytes ∈ drawn reads := by
  cases step with
  | health same =>
    left
    rwa [Named, ← same.2]
  | scan leaseId incarnation => exact .inl ((expireAndPurge_swept guard nowMs leaseId incarnation).named named)
  | tick => exact .inl ((tick_swept guard nowMs).named named)
  | refuse _ _ refused =>
    refine (named_remember named).imp_right ?_
    rintro rfl
    exact refused.elim
  | grant _ _ opening =>
    refine (named_remember named).imp_right ?_
    rintro ⟨⟩
    exact opening.drawn
  | commit => exact .inl named
  | settle found =>
    obtain ⟨key, entry, present, same⟩ := named
    simp only [ResourceGuard.terminate, ResourceGuard.markIdempotenceTerminal, Table.get?_modify] at present
    split at present
    · obtain ⟨before, there, rfl⟩ := Option.map_eq_some_iff.mp present
      exact .inl ⟨key, before, there, same⟩
    · exact .inl ⟨key, entry, present, same⟩

theorem GuardSteps.named {id : ReservationId} (steps : GuardSteps nowMs reads allowed guard guard') (named : Named guard' id) :
    Named guard id ∨ id.bytes ∈ drawn reads := by
  induction steps with
  | refl => exact .inl named
  | tail _ step ih => exact (step.named named).elim ih .inr

theorem Unseen.scan (unseen : Unseen guard reads) (nowMs : Nat) (leaseId : LeaseId) (incarnation : WorkerIncarnationId) :
    Unseen (guard.expireAndPurge nowMs leaseId incarnation) reads := by
  have swept := expireAndPurge_swept guard nowMs leaseId incarnation
  refine ⟨?_, fun id named => unseen.named id (swept.named named)⟩
  intro id reservation found
  obtain ⟨earlier, present, _⟩ := (swept.reservations id reservation).mp found
  exact unseen.reservations id earlier present

theorem Reserved.steps {request : ReserveRequest} {decision : ReservationDecision} (holder : allowed proof request)
    (unseen : Unseen guard reads) (reserved : Reserved guard proof request nowMs reads decision guard') :
    GuardSteps nowMs reads allowed guard guard' := by
  cases reserved with
  | conflict | again | full => exact .refl
  | refuse absent refused => exact .single (.refuse holder absent refused)
  | @grant id absent opening fits =>
    refine .single (.grant holder absent opening ?_ (fun named => unseen.named id named opening.drawn) fits)
    rw [Option.eq_none_iff_forall_ne_some]
    exact fun reservation found => unseen.reservations id reservation found opening.drawn

theorem Committed.steps {id : ReservationId} {decision : CommitDecision} (committed : Committed guard proof id nowMs decision guard') :
    GuardSteps nowMs reads allowed guard guard' := by
  cases committed with
  | unknown | foreign | again | late => exact .refl
  | refuse found state => exact .single (.settle found (.inl state) (.inr (.inr rfl)))
  | commit found state => exact .single (.commit found state)

theorem Released.steps {id : ReservationId} {decision : ReleaseDecision} (released : Released guard proof id nowMs decision guard') :
    GuardSteps nowMs reads allowed guard guard' := by
  cases released with
  | unknown | foreign | late => exact .refl
  | release found pending => exact .single (.settle found pending (.inl rfl))

theorem reserve_steps {leases : ControllerLeaseManager} {session : AuthenticatedSession} {leaseId : LeaseId}
    {request : ReserveRequest} (holder : ∀ proof, (leases.validate session leaseId nowMs).1 = .ok proof → allowed proof request)
    (unseen : Unseen guard reads) :
    GuardSteps nowMs reads allowed guard (guard.reserve leases session leaseId request nowMs reads).2.1 := by
  rcases checked : leases.validate session leaseId nowMs with ⟨validated, leases'⟩
  cases validated with
  | error =>
    rw [ResourceGuard.reserve, checked]
  | ok proof =>
    obtain ⟨decision, guard', reserved, same⟩ := reserve_reserved checked guard request reads
    rw [same]
    exact (reserved.steps (holder proof (by rw [checked])) (unseen.scan _ _ _)).head (.scan _ _)

theorem commit_steps (leases : ControllerLeaseManager) (session : AuthenticatedSession) (leaseId : LeaseId)
    (guard : ResourceGuard) (id : ReservationId) (nowMs : Nat) :
    GuardSteps nowMs reads allowed guard (guard.commit leases session leaseId id nowMs).2.1 := by
  rcases checked : leases.validate session leaseId nowMs with ⟨validated, leases'⟩
  cases validated with
  | error =>
    rw [ResourceGuard.commit, checked]
  | ok proof =>
    obtain ⟨decision, guard', committed, same⟩ := commit_committed checked guard id
    rw [same]
    exact committed.steps.head (.scan _ _)

theorem release_steps (leases : ControllerLeaseManager) (session : AuthenticatedSession) (leaseId : LeaseId)
    (guard : ResourceGuard) (id : ReservationId) (nowMs : Nat) :
    GuardSteps nowMs reads allowed guard (guard.release leases session leaseId id nowMs).2.1 := by
  rcases checked : leases.validate session leaseId nowMs with ⟨validated, leases'⟩
  cases validated with
  | error =>
    rw [ResourceGuard.release, checked]
  | ok proof =>
    obtain ⟨decision, guard', released, same⟩ := release_released checked guard id
    rw [same]
    exact released.steps.head (.scan _ _)

end PhoneBoost.Worker.Proofs
