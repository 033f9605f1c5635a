import PhoneBoost.Lib.Machine
import PhoneBoost.Proofs.GuardSteps

/-! The byte count of the guard over whole runs of its operations, with any
arguments. Nothing is assumed about the clock. -/

namespace PhoneBoost.Worker.Proofs
open Keyed Budget

/-- An operation of the guard with all its arguments, the lease manager it
consults included. -/
inductive GuardCall where
  | recordHealth (sample : HealthSample)
  | reserve (leases : ControllerLeaseManager) (session : AuthenticatedSession) (leaseId : LeaseId)
      (request : ReserveRequest) (nowMs : Nat) (reads : Entropy)
  | commit (leases : ControllerLeaseManager) (session : AuthenticatedSession) (leaseId : LeaseId)
      (reservationId : ReservationId) (nowMs : Nat)
  | release (leases : ControllerLeaseManager) (session : AuthenticatedSession) (leaseId : LeaseId)
      (reservationId : ReservationId) (nowMs : Nat)
  | reservationSnapshot (proof : LeaseProof) (reservationId : ReservationId) (nowMs : Nat)
  | consumeForBuffer (proof : LeaseProof) (reservationId : ReservationId) (sizeBytes nowMs : Nat)
  | consumeForCompute (proof : LeaseProof) (reservationId : ReservationId) (nowMs : Nat)
  | releaseConsumedBuffer (reservationId : ReservationId) (bytes nowMs : Nat)
  | releaseConsumedCompute (reservationId : ReservationId) (bytes nowMs : Nat)
  | tick (nowMs : Nat)

namespace GuardCall

def apply (guard : ResourceGuard) : GuardCall → ResourceGuard
  | .recordHealth sample => (guard.recordHealth sample).2
  | .reserve leases session leaseId request nowMs reads =>
    (guard.reserve leases session leaseId request nowMs reads).2.1
  | .commit leases session leaseId reservationId nowMs => (guard.commit leases session leaseId reservationId nowMs).2.1
  | .release leases session leaseId reservationId nowMs =>
    (guard.release leases session leaseId reservationId nowMs).2.1
  | .reservationSnapshot proof reservationId nowMs => (guard.reservationSnapshot proof reservationId nowMs).2
  | .consumeForBuffer proof reservationId sizeBytes nowMs =>
    (guard.consumeForBuffer proof reservationId sizeBytes nowMs).2
  | .consumeForCompute proof reservationId nowMs => (guard.consumeForCompute proof reservationId nowMs).2
  | .releaseConsumedBuffer reservationId bytes nowMs => guard.releaseConsumedBuffer reservationId bytes nowMs
  | .releaseConsumedCompute reservationId bytes nowMs => guard.releaseConsumedCompute reservationId bytes nowMs
  | .tick nowMs => guard.tick nowMs

def reads : GuardCall → Entropy
  | .reserve _ _ _ _ _ reads => reads
  | _ => []

end GuardCall

def guardRun (calls : List GuardCall) : ResourceGuard := Machine.run GuardCall.apply .new calls

/-- The random source never hands out an identifier twice. -/
abbrev FreshReservations (calls : List GuardCall) : Prop := Machine.Distinct (fun call => drawn call.reads) calls

theorem consume_exchange (guard : ResourceGuard) (proof : LeaseProof) (reservationId : ReservationId)
    (resourceClass : ResourceClass) (exactBytes : Option Nat) (nowMs : Nat) :
    Exchange nowMs (guard.expireAndPurge nowMs proof.leaseId proof.incarnation)
      (guard.consume proof reservationId resourceClass exactBytes nowMs).2 := by
  rcases consume_cases guard proof reservationId resourceClass exactBytes nowMs with
    ⟨error, same⟩ | ⟨reservation, found, state, _, _, _, same⟩
  · rw [same]
    exact ⟨.none, rfl⟩
  · rw [same]
    exact ⟨.consume found state, rfl⟩

theorem consumeForCompute_guard (guard : ResourceGuard) (proof : LeaseProof) (reservationId : ReservationId) (nowMs : Nat) :
    (guard.consumeForCompute proof reservationId nowMs).2 =
      (guard.consume proof reservationId .nativeOpScratchBytes none nowMs).2 := by
  unfold ResourceGuard.consumeForCompute
  split <;> simp [*]

/-- Every operation is a sequence of steps followed by at most one transfer. -/
theorem GuardCall.entries {guard : ResourceGuard} {call : GuardCall} (unseen : Unseen guard call.reads) :
    ∃ nowMs middle, GuardSteps nowMs call.reads (fun _ _ => True) guard middle ∧ Exchange nowMs middle (call.apply guard) := by
  cases call with
  | recordHealth sample =>
    exact ⟨sample.monotonicMs, _, .single (.health (recordHealth_sameBooks guard sample)), .none, rfl⟩
  | reserve leases session leaseId request nowMs reads =>
    exact ⟨nowMs, _, reserve_steps (fun _ _ => trivial) unseen, .none, rfl⟩
  | commit leases session leaseId reservationId nowMs =>
    exact ⟨nowMs, _, commit_steps leases session leaseId guard reservationId nowMs, .none, rfl⟩
  | release leases session leaseId reservationId nowMs =>
    exact ⟨nowMs, _, release_steps leases session leaseId guard reservationId nowMs, .none, rfl⟩
  | reservationSnapshot proof reservationId nowMs =>
    refine ⟨nowMs, _, scanned_steps proof 1 guard, ?_⟩
    rw [GuardCall.apply, reservationSnapshot_guard]
    exact ⟨.none, rfl⟩
  | consumeForBuffer proof reservationId sizeBytes nowMs =>
    exact ⟨nowMs, _, scanned_steps proof 2 guard, consume_exchange _ proof reservationId _ _ nowMs⟩
  | consumeForCompute proof reservationId nowMs =>
    refine ⟨nowMs, _, scanned_steps proof 1 guard, ?_⟩
    rw [GuardCall.apply, consumeForCompute_guard]
    exact consume_exchange guard proof reservationId _ _ nowMs
  | releaseConsumedBuffer reservationId bytes nowMs => exact ⟨nowMs, _, .refl, releaseConsumed_exchange _ _ _ _ _⟩
  | releaseConsumedCompute reservationId bytes nowMs => exact ⟨nowMs, _, .refl, releaseConsumed_exchange _ _ _ _ _⟩
  | tick nowMs => exact ⟨nowMs, _, .single .tick, .none, rfl⟩

/-- The books agree, and every identifier in them was drawn by one of the calls. -/
structure GuardAccounts (calls : List GuardCall) (guard : ResourceGuard) : Prop where
  booked : Booked (ledger guard)
  known : ∀ id reservation, guard.reservations.get? id = some reservation →
    id.bytes ∈ calls.flatMap fun call => drawn call.reads
  named : ∀ id, Named guard id → id.bytes ∈ calls.flatMap fun call => drawn call.reads

theorem GuardAccounts.step {calls : List GuardCall} {call : GuardCall} {guard : ResourceGuard}
    (fresh : FreshReservations (calls ++ [call])) (accounts : GuardAccounts calls guard) :
    GuardAccounts (calls ++ [call]) (call.apply guard) := by
  have unseen : Unseen guard call.reads := ⟨fun id reservation found => fresh.unseen (accounts.known id reservation found),
    fun id named => fresh.unseen (accounts.named id named)⟩
  obtain ⟨nowMs, middle, steps, transfer, same⟩ := GuardCall.entries unseen
  have postings := steps.postings
  have drawn_append : ((calls ++ [call]).flatMap fun call => drawn call.reads) =
      (calls.flatMap fun call => drawn call.reads) ++ drawn call.reads := by simp
  refine ⟨transfer.booked (postings.booked accounts.booked), ?_, ?_⟩ <;> rw [drawn_append]
  · intro id reservation found
    obtain ⟨earlier, present, _⟩ := transfer.origin found
    rcases postings.origin present with ⟨_, ⟨_, _, _, opening⟩, _⟩ | ⟨oldest, there, _⟩
    · exact List.mem_append_right _ opening.drawn
    · exact List.mem_append_left _ (accounts.known id oldest there)
  · intro id named
    rw [Named, same] at named
    rcases steps.named named with earlier | new
    · exact List.mem_append_left _ (accounts.named id earlier)
    · exact List.mem_append_right _ new

theorem guardRun_accounts (calls : List GuardCall) (fresh : FreshReservations calls) :
    GuardAccounts calls (guardRun calls) := by
  apply Machine.run_induction FreshReservations GuardAccounts _ _ _ calls fresh
  · exact fun calls call => Machine.Distinct.shorter calls call
  · exact ⟨⟨Balanced.empty heldBytes pocCapBytes, by simp [ledger, ResourceGuard.new]⟩, by simp [ResourceGuard.new],
      by simp [Named, ResourceGuard.new]⟩
  · exact fun calls call guard => GuardAccounts.step

/-- After any run the byte count is what the reservations in a holding state
add up to, it respects the cap, and no `releaseAllocation` was cut short. -/
theorem guardRun_allocatedBytes (calls : List GuardCall) (fresh : FreshReservations calls) :
    (guardRun calls).allocatedBytes = (guardRun calls).reservations.total (fun _ reservation =>
      if reservation.state = .reserved ∨ reservation.state = .committed ∨ reservation.state = .consumed then
        reservation.bytes else 0) ∧
    (guardRun calls).allocatedBytes ≤ pocCapBytes ∧ (guardRun calls).shortfall = 0 := by
  obtain ⟨balanced, _⟩ := (guardRun_accounts calls fresh).booked
  refine ⟨balanced.held.trans ?_, balanced.capped, balanced.covered⟩
  apply Table.total_congr
  intro id reservation _
  unfold heldBytes
  cases reservation.state <;> rfl

def heldLeases : ControllerLeaseManager :=
  ((ControllerLeaseManager.new ⟨filled 9⟩).applyAcquire ⟨somePeer⟩ 10000 [some (filled 1)]).2

def healthy (nowMs : Nat) : HealthSample where
  availableMemoryBytes := 2048 * 1024 * 1024
  lowMemory := false
  thermal := .none
  batteryPercent := 80
  charging := false
  powerSave := false
  monotonicMs := nowMs

/-- Memory pressure clears after ten seconds, then one reservation is committed
and one expires. -/
def committedRun : List GuardCall := [
  .recordHealth (healthy 0), .recordHealth (healthy 10000),
  .reserve heldLeases ⟨somePeer⟩ ⟨filled 1⟩ ⟨1, .remoteBufferBytes, 4096⟩ 10000 [some (filled 2)],
  .reserve heldLeases ⟨somePeer⟩ ⟨filled 1⟩ ⟨2, .remoteBufferBytes, 8192⟩ 11000 [some (filled 3)],
  .commit heldLeases ⟨somePeer⟩ ⟨filled 1⟩ ⟨filled 2⟩ 12000,
  .tick 60000]

theorem guardRun_allocatedBytes_committed : FreshReservations committedRun ∧
    (guardRun committedRun).allocatedBytes = 4096 ∧ (guardRun committedRun).shortfall = 0 :=
  have fresh : FreshReservations committedRun := by decide
  ⟨fresh, by decide, (guardRun_allocatedBytes committedRun fresh).2.2⟩

end PhoneBoost.Worker.Proofs
