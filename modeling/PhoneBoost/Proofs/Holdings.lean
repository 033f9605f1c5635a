import Mathlib.Data.Sum.Basic
import PhoneBoost.Lib.Custody
import PhoneBoost.Proofs.BufferSteps
import PhoneBoost.Worker.Compute

/-! The guard, the buffers and the jobs together. A call is a sequence of moves,
each of which changes one record and at most one reservation. A consumed
reservation is a token in the custody of one buffer or one job. -/

namespace PhoneBoost.Worker.Proofs
open Keyed Budget Relation RemoteBufferStore Custody
open Pbmux (AllocationFlags BufferState ComputeJobState ComputeReason)

/-- The three stores and, in order, every reservation handed over so far. -/
structure Holdings where
  guard : ResourceGuard
  buffers : Table Bytes16 BufferRecord
  jobs : Table Bytes16 JobRecord
  published : List ReservationId

/-- A change of a live buffer that keeps it live and in the same hands. -/
structure Edited (record replacement : BufferRecord) : Prop where
  live : Live replacement
  reservationId : replacement.reservationId = record.reservationId
  sizeBytes : replacement.sizeBytes = record.sizeBytes
  budgetReleased : replacement.budgetReleased = record.budgetReleased
  terminalMonoMs : replacement.terminalMonoMs = record.terminalMonoMs
  lease : replacement.ownerControllerLeaseId = record.ownerControllerLeaseId
  sessionId : replacement.sessionId = record.sessionId
  backing : replacement.backing.isSome = record.backing.isSome

/-- A job that has just been published. -/
structure Running (record : JobRecord) : Prop where
  state : record.state = .running
  scratchReleased : record.scratchReleased = false
  terminalMonoMs : record.terminalMonoMs = none

/-- One move during a call that draws from `reads` under an allowed authority. -/
inductive Move (nowMs : Nat) (reads : Entropy) (allowed : LeaseProof → SessionBinding → Prop) :
    Holdings → Holdings → Prop where
  | guard {h guard} (step : GuardStep nowMs reads (fun proof _ => ∃ sessionId, allowed proof sessionId) h.guard guard)
      (unpublished : ∀ id ∈ drawn reads, ⟨id⟩ ∉ h.published) : Move nowMs reads allowed h { h with guard }
  | alloc {h id proof sessionId reservationId size flags reservation} (holder : allowed proof sessionId)
      (vacant : h.buffers.get? id = none) (member : id ∈ drawn reads)
      (found : h.guard.reservations.get? reservationId = some reservation) (state : reservation.state = .committed)
      (sameClass : reservation.resourceClass = .remoteBufferBytes) (bytes : reservation.bytes = size) :
      Move nowMs reads allowed h { h with
        guard := handedOver h.guard reservationId
        buffers := h.buffers.insert id (freshBuffer id proof sessionId reservationId size flags nowMs)
        published := h.published ++ [reservationId] }
  | edit {h id record replacement} (found : h.buffers.get? id = some record) (live : Live record)
      (edited : Edited record replacement) :
      Move nowMs reads allowed h { h with buffers := h.buffers.modify id fun _ => replacement }
  | endBuffer {h id record state} (found : h.buffers.get? id = some record) (live : Live record)
      (terminal : state.isTerminal = true) :
      Move nowMs reads allowed h { h with
        guard := (terminalize record h.guard state nowMs).2
        buffers := h.buffers.modify id fun _ => ended record state nowMs }
  | purgeBuffers {h keep} (dropped : ∀ id record, h.buffers.get? id = some record → keep id record = false →
      record.terminalMonoMs ≠ none) : Move nowMs reads allowed h { h with buffers := h.buffers.retain keep }
  | publish {h record reservation} (running : Running record) (vacant : h.jobs.get? record.jobId = none)
      (member : record.jobId ∈ drawn reads)
      (found : h.guard.reservations.get? record.scratchReservationId = some reservation)
      (state : reservation.state = .committed) (sameClass : reservation.resourceClass = .nativeOpScratchBytes)
      (bytes : reservation.bytes = record.scratchBytes) :
      Move nowMs reads allowed h { h with
        guard := handedOver h.guard record.scratchReservationId
        jobs := h.jobs.insert record.jobId record
        published := h.published ++ [record.scratchReservationId] }
  | finish {h id record state reason digest finishedMs} (found : h.jobs.get? id = some record)
      (live : record.state.isTerminal = false) (terminal : state.isTerminal = true) :
      Move nowMs reads allowed h { h with
        guard := (ComputeJobStore.finishRecord record h.guard state reason digest finishedMs).2
        jobs := h.jobs.modify id fun _ => ComputeJobStore.finished record state reason digest finishedMs }
  | purgeJobs {h keep} (dropped : ∀ id record, h.jobs.get? id = some record → keep id record = false →
      record.terminalMonoMs ≠ none) : Move nowMs reads allowed h { h with jobs := h.jobs.retain keep }

abbrev Moves (nowMs : Nat) (reads : Entropy) (allowed : LeaseProof → SessionBinding → Prop) : Holdings → Holdings → Prop :=
  ReflTransGen (Move nowMs reads allowed)

variable {nowMs : Nat} {reads : Entropy} {allowed : LeaseProof → SessionBinding → Prop} {h later : Holdings}

theorem Moves.guard {guard : ResourceGuard} (unpublished : ∀ id ∈ drawn reads, ⟨id⟩ ∉ h.published)
    (steps : GuardSteps nowMs reads (fun proof _ => ∃ sessionId, allowed proof sessionId) h.guard guard) :
    Moves nowMs reads allowed h { h with guard } := by
  induction steps with
  | refl => exact .refl
  | tail _ step ih => exact ih.tail (.guard step unpublished)

/-- The bytes and the class of a reservation that has been handed over and not yet returned. -/
abbrev Share := ResourceClass × Nat

def consumedShare (reservation : Reservation) : Option Share :=
  if reservation.state = .consumed then some (reservation.resourceClass, reservation.bytes) else none

def bufferShare (record : BufferRecord) : Option (ReservationId × Share) :=
  if record.budgetReleased then none else some (record.reservationId, .remoteBufferBytes, record.sizeBytes)

def jobShare (record : JobRecord) : Option (ReservationId × Share) :=
  if record.scratchReleased then none else some (record.scratchReservationId, .nativeOpScratchBytes, record.scratchBytes)

/-- What each buffer (left) and each job (right) still holds. -/
def Holdings.shares (h : Holdings) : Bytes16 ⊕ Bytes16 → Option (ReservationId × Share) :=
  Sum.elim (h.buffers.view bufferShare) (h.jobs.view jobShare)

def Holdings.consumed (h : Holdings) : ReservationId → Option Share := h.guard.reservations.view consumedShare

theorem Posting.consumed {opens : ReservationId → Reservation → Prop} {book after : ReservationLedger} (booked : Booked book)
    (posting : Posting opens nowMs book after) : after.accounts.view consumedShare = book.accounts.view consumedShare := by
  have idle : ∀ {reservation : Reservation}, Pending reservation.state ∨ Unused reservation.state →
      consumedShare reservation = none := by
    rintro reservation ((same | same) | same | same | same) <;> simp [consumedShare, same]
  cases posting with
  | reserve _ absent state =>
    rw [Ledger.charge_accounts, Table.view_insert, idle (.inl (.inl state)), Function.update_eq_self_iff]
    simp [Table.view, absent]
  | commit found state => exact Table.view_modify_same found (by simp [consumedShare, state])
  | settle found pending unused =>
    exact Table.view_modify_same found ((idle (.inr unused)).trans (idle (.inl pending)).symm)
  | supersede found pending => exact Table.view_erase found (idle (.inl pending))
  | forget found unused => exact Table.view_erase found (idle (.inr unused))
  | purge dropped =>
    apply Table.view_retain
    intro id reservation found gone
    obtain ⟨terminal, ended, _⟩ := dropped id reservation found gone
    have free := booked.closed id reservation found (by simp [ended])
    apply if_neg
    intro state
    simp [state, holdsBudget] at free

theorem Postings.consumed {opens : ReservationId → Reservation → Prop} {book after : ReservationLedger} (booked : Booked book)
    (postings : Postings opens nowMs book after) : after.accounts.view consumedShare = book.accounts.view consumedShare := by
  induction postings with
  | refl => rfl
  | tail before posting ih => exact (posting.consumed (Postings.booked booked before)).trans ih

theorem handedOver_consumed {guard : ResourceGuard} {id : ReservationId} {reservation : Reservation}
    (found : guard.reservations.get? id = some reservation) :
    (handedOver guard id).reservations.view consumedShare =
      Function.update (guard.reservations.view consumedShare) id
        (some (reservation.resourceClass, reservation.bytes)) :=
  Table.view_modify found consumedShare _

theorem handedOver_booked {guard : ResourceGuard} {id : ReservationId} {reservation : Reservation}
    (booked : Booked (ledger guard)) (found : guard.reservations.get? id = some reservation)
    (state : reservation.state = .committed) : Booked (ledger (handedOver guard id)) :=
  have moved : Transfer 0 (ledger guard) (ledger (handedOver guard id)) := .consume found state
  moved.booked booked

/-- Returning a share that is out: exactly these bytes go back, once. -/
theorem releaseConsumed_out {guard : ResourceGuard} {id : ReservationId} {resourceClass : ResourceClass} {bytes : Nat}
    (booked : Booked (ledger guard)) (out : guard.reservations.view consumedShare id = some (resourceClass, bytes))
    (nowMs : Nat) :
    Booked (ledger (guard.releaseConsumed id resourceClass bytes nowMs)) ∧
    (guard.releaseConsumed id resourceClass bytes nowMs).allocatedBytes + bytes = guard.allocatedBytes ∧
    (guard.releaseConsumed id resourceClass bytes nowMs).reservations.view consumedShare =
      Function.update (guard.reservations.view consumedShare) id none ∧
    ∃ reservation, guard.reservations.get? id = some reservation ∧ reservation.state = .consumed ∧
      (guard.releaseConsumed id resourceClass bytes nowMs).reservations =
        guard.reservations.modify id fun entry => { entry with state := .consumedReleased, terminalAtMs := some nowMs } := by
  obtain ⟨reservation, found, share⟩ := (Table.view_eq_some _ _ _ _).mp out
  unfold consumedShare at share
  split at share
  next state =>
    simp only [Option.some.injEq, Prod.mk.injEq] at share
    obtain ⟨rfl, rfl⟩ := share
    rcases releaseConsumed_cases guard id reservation.resourceClass reservation.bytes nowMs with
      ⟨_, differs⟩ | ⟨stored, present, _, _, _, same⟩
    · exact absurd ⟨state, rfl, rfl⟩ (differs reservation found)
    · have holds : holdsBudget reservation.state = true := by rw [state]; rfl
      have enough := booked.balanced.weight_le found
      rw [heldBytes_of_holds holds] at enough
      change reservation.bytes ≤ guard.allocatedBytes at enough
      rw [same]
      have paid : Transfer nowMs (ledger guard) _ := .giveBack found state
      refine ⟨paid.booked booked, ?_, Table.view_modify found consumedShare _, reservation, found, state, rfl⟩
      dsimp only
      omega
  next => cases share

/-- A buffer's flags follow its state. -/
structure BufferFlags (record : BufferRecord) : Prop where
  budgetReleased : record.budgetReleased = record.state.isTerminal
  terminalMonoMs : record.terminalMonoMs.isSome = record.state.isTerminal
  backing : record.backing.isSome = !record.state.isTerminal

structure JobFlags (record : JobRecord) : Prop where
  scratchReleased : record.scratchReleased = record.state.isTerminal
  terminalMonoMs : record.terminalMonoMs.isSome = record.state.isTerminal

def Spent (state : ReservationState) : Prop := state = .consumed ∨ state = .consumedReleased

/-- The consistency of the three stores at every moment of a call. -/
structure Held (h : Holdings) : Prop where
  booked : Booked (ledger h.guard)
  buffers : ∀ id record, h.buffers.get? id = some record → BufferFlags record
  jobs : ∀ id record, h.jobs.get? id = some record → JobFlags record
  matched : Matched h.shares h.consumed
  once : h.published.Nodup
  spent : ∀ id reservation, h.guard.reservations.get? id = some reservation →
    (id ∈ h.published ↔ Spent reservation.state)

theorem Progress.spent {before after : Reservation} (progress : Progress nowMs before after) :
    Spent after.state ↔ Spent before.state := by
  cases progress with
  | stay => rfl
  | commit state => simp [Spent, state]
  | settle pending unused =>
    rcases pending with same | same <;> rcases unused with rfl | rfl | rfl <;> simp [Spent, same]

theorem Held.guardSteps (held : Held h) {guard : ResourceGuard} {proves : LeaseProof → ReserveRequest → Prop}
    (unpublished : ∀ id ∈ drawn reads, ⟨id⟩ ∉ h.published) (steps : GuardSteps nowMs reads proves h.guard guard) :
    Held { h with guard } where
  booked := steps.postings.booked held.booked
  buffers := held.buffers
  jobs := held.jobs
  matched := by
    have same : Holdings.consumed { h with guard } = h.consumed := steps.postings.consumed held.booked
    rw [same]
    exact held.matched
  once := held.once
  spent := by
    intro id reservation found
    rcases steps.postings.origin found with ⟨first, ⟨_, _, _, opening⟩, state, _, progress⟩ | ⟨earlier, present, progress⟩
    · rw [progress.spent]
      simp [Spent, state, unpublished id.bytes opening.drawn]
    · rw [progress.spent]
      exact held.spent id earlier present

/-- A committed reservation passes to a buffer or job that held nothing. -/
theorem Held.handOver (held : Held h) {holder : Bytes16 ⊕ Bytes16} {id : ReservationId} {reservation : Reservation}
    (empty : h.shares holder = none) (found : h.guard.reservations.get? id = some reservation)
    (state : reservation.state = .committed) (guard : later.guard = handedOver h.guard id)
    (shares : later.shares = Function.update h.shares holder (some (id, reservation.resourceClass, reservation.bytes)))
    (published : later.published = h.published ++ [id])
    (buffers : ∀ id record, later.buffers.get? id = some record → BufferFlags record)
    (jobs : ∀ id record, later.jobs.get? id = some record → JobFlags record) : Held later where
  booked := guard ▸ handedOver_booked held.booked found state
  buffers := buffers
  jobs := jobs
  matched := by
    have consumed := handedOver_consumed found
    rw [← guard] at consumed
    rw [shares, show later.consumed = _ from consumed]
    apply held.matched.assign empty
    simp [Holdings.consumed, Table.view, found, consumedShare, state]
  once := by
    have unspent : id ∉ h.published := by
      rw [held.spent id reservation found]
      simp [Spent, state]
    rw [published, List.nodup_append]
    exact ⟨held.once, List.nodup_singleton id, by simpa using fun other member => ne_of_mem_of_not_mem member unspent⟩
  spent := by
    intro other stored present
    rw [guard, handedOver, Table.get?_modify] at present
    rw [published, List.mem_append, List.mem_singleton]
    split at present
    next same =>
      subst other
      rw [found, Option.map_some, Option.some.injEq] at present
      simp [← present, Spent]
    next different => simp [different, held.spent other stored present]

/-- A buffer or job ends and its share returns to the guard. -/
theorem Held.refund (held : Held h) {holder : Bytes16 ⊕ Bytes16} {id : ReservationId} {resourceClass : ResourceClass}
    {bytes finishedMs : Nat} (has : h.shares holder = some (id, resourceClass, bytes))
    (guard : later.guard = h.guard.releaseConsumed id resourceClass bytes finishedMs)
    (shares : later.shares = Function.update h.shares holder none) (published : later.published = h.published)
    (buffers : ∀ id record, later.buffers.get? id = some record → BufferFlags record)
    (jobs : ∀ id record, later.jobs.get? id = some record → JobFlags record) : Held later := by
  obtain ⟨booked, _, consumed, reservation, found, state, modified⟩ :=
    releaseConsumed_out held.booked (held.matched.sound _ _ _ has) finishedMs
  rw [← guard] at booked consumed modified
  refine ⟨booked, buffers, jobs, ?_, published ▸ held.once, ?_⟩
  · rw [shares, show later.consumed = _ from consumed]
    exact held.matched.discharge has
  · intro other stored present
    rw [modified, Table.get?_modify] at present
    rw [published]
    split at present
    next same =>
      subst other
      rw [found, Option.map_some, Option.some.injEq] at present
      rw [held.spent id reservation found, ← present]
      simp [Spent, state]
    next => exact held.spent other stored present

/-- Records change without any effect on what they hold. -/
theorem Held.keep (held : Held h) (guard : later.guard = h.guard) (shares : later.shares = h.shares)
    (published : later.published = h.published)
    (buffers : ∀ id record, later.buffers.get? id = some record → BufferFlags record)
    (jobs : ∀ id record, later.jobs.get? id = some record → JobFlags record) : Held later where
  booked := guard ▸ held.booked
  buffers := buffers
  jobs := jobs
  matched := by
    have consumed : later.consumed = h.consumed := by rw [Holdings.consumed, guard]; rfl
    rw [shares, consumed]
    exact held.matched
  once := published ▸ held.once
  spent := by
    rw [guard, published]
    exact held.spent

theorem BufferFlags.live {record : BufferRecord} (flags : BufferFlags record) (live : Live record) :
    bufferShare record = some (record.reservationId, .remoteBufferBytes, record.sizeBytes) :=
  if_neg (by rw [flags.budgetReleased, show record.state.isTerminal = false from live]; decide)

theorem BufferFlags.edited {record replacement : BufferRecord} (flags : BufferFlags record) (live : Live record)
    (edited : Edited record replacement) : BufferFlags replacement := by
  have before : record.state.isTerminal = false := live
  have after : replacement.state.isTerminal = false := edited.live
  constructor
  · rw [edited.budgetReleased, flags.budgetReleased, before, after]
  · rw [edited.terminalMonoMs, flags.terminalMonoMs, before, after]
  · rw [edited.backing, flags.backing, before, after]

theorem bufferFlags_fresh (id : Bytes16) (proof : LeaseProof) (sessionId : SessionBinding) (reservationId : ReservationId)
    (size : Nat) (flags : AllocationFlags) (nowMs : Nat) :
    BufferFlags (freshBuffer id proof sessionId reservationId size flags nowMs) := ⟨rfl, rfl, rfl⟩

theorem bufferFlags_ended (record : BufferRecord) {state : BufferState} (terminal : state.isTerminal = true) (nowMs : Nat) :
    BufferFlags (ended record state nowMs) := by
  constructor <;> simp [ended, terminal]

theorem JobFlags.live {record : JobRecord} (flags : JobFlags record) (live : record.state.isTerminal = false) :
    jobShare record = some (record.scratchReservationId, .nativeOpScratchBytes, record.scratchBytes) :=
  if_neg (by rw [flags.scratchReleased, live]; decide)

theorem jobFlags_finished (record : JobRecord) {state : ComputeJobState} (terminal : state.isTerminal = true)
    (reason : ComputeReason) (digest : Option Bytes32) (finishedMs : Nat) :
    JobFlags (ComputeJobStore.finished record state reason digest finishedMs) := by
  constructor <;> simp [ComputeJobStore.finished, terminal]

theorem Running.flags {record : JobRecord} (running : Running record) : JobFlags record := by
  constructor
  · rw [running.scratchReleased, running.state]
    rfl
  · rw [running.terminalMonoMs, running.state]
    rfl

theorem Move.held (held : Held h) (move : Move nowMs reads allowed h later) : Held later := by
  cases move with
  | guard step unpublished => exact held.guardSteps unpublished (.single step)
  | @alloc id proof sessionId reservationId size flags reservation _ vacant _ found state sameClass bytes =>
    have empty : h.shares (.inl id) = none := by simp [Holdings.shares, Table.view, vacant]
    refine held.handOver empty found state rfl ?_ rfl ?_ held.jobs
    · simp only [Holdings.shares, Table.view_insert, Sum.update_elim_inl, sameClass, bytes]
      rfl
    · exact Table.every_insert held.buffers (bufferFlags_fresh _ _ _ _ _ _ _)
  | edit found live edited =>
    have flags := held.buffers _ _ found
    refine held.keep rfl ?_ rfl ?_ held.jobs
    · simp only [Holdings.shares]
      rw [Table.view_modify_same found]
      rw [(flags.edited live edited).live edited.live, flags.live live, edited.reservationId, edited.sizeBytes]
    · exact Table.every_modify held.buffers fun _ _ => flags.edited live edited
  | @endBuffer id record state found live terminal =>
    have flags := held.buffers id record found
    have has : h.shares (.inl id) = some (record.reservationId, .remoteBufferBytes, record.sizeBytes) := by
      simp only [Holdings.shares, Sum.elim_inl, Table.view, found, Option.bind_some]
      exact flags.live live
    have refunds : (terminalize record h.guard state nowMs).2 =
        h.guard.releaseConsumed record.reservationId .remoteBufferBytes record.sizeBytes nowMs :=
      if_neg (by rw [flags.budgetReleased, show record.state.isTerminal = false from live]; decide)
    refine held.refund has refunds ?_ rfl ?_ held.jobs
    · simp only [Holdings.shares, Table.view_modify found, Sum.update_elim_inl]
      rfl
    · exact Table.every_modify held.buffers fun _ _ => bufferFlags_ended record terminal nowMs
  | purgeBuffers dropped =>
    refine held.keep rfl ?_ rfl (Table.every_retain held.buffers) held.jobs
    simp only [Holdings.shares]
    rw [Table.view_retain]
    intro id record found gone
    have flags := held.buffers id record found
    have past : record.terminalMonoMs.isSome = true := Option.isSome_iff_ne_none.mpr (dropped id record found gone)
    exact if_pos (by rw [flags.budgetReleased, ← flags.terminalMonoMs, past])
  | @publish record reservation running vacant _ found state sameClass bytes =>
    have empty : h.shares (.inr record.jobId) = none := by simp [Holdings.shares, Table.view, vacant]
    refine held.handOver empty found state rfl ?_ rfl held.buffers ?_
    · simp only [Holdings.shares, Table.view_insert, Sum.update_elim_inr, sameClass, bytes]
      rw [running.flags.live (by rw [running.state]; rfl)]
    · exact Table.every_insert held.jobs running.flags
  | @finish id record state reason digest finishedMs found live terminal =>
    have flags := held.jobs id record found
    have has : h.shares (.inr id) = some (record.scratchReservationId, .nativeOpScratchBytes, record.scratchBytes) := by
      simp only [Holdings.shares, Sum.elim_inr, Table.view, found, Option.bind_some]
      exact flags.live live
    have refunds : (ComputeJobStore.finishRecord record h.guard state reason digest finishedMs).2 =
        h.guard.releaseConsumed record.scratchReservationId .nativeOpScratchBytes record.scratchBytes finishedMs := by
      simp [ComputeJobStore.finishRecord, live, flags.scratchReleased, ResourceGuard.releaseConsumedCompute]
    refine held.refund has refunds ?_ rfl held.buffers ?_
    · simp only [Holdings.shares, Table.view_modify found, Sum.update_elim_inr]
      rfl
    · exact Table.every_modify held.jobs fun _ _ => jobFlags_finished record terminal reason digest finishedMs
  | purgeJobs dropped =>
    refine held.keep rfl ?_ rfl held.buffers (Table.every_retain held.jobs)
    simp only [Holdings.shares]
    rw [Table.view_retain]
    intro id record found gone
    have flags := held.jobs id record found
    have past : record.terminalMonoMs.isSome = true := Option.isSome_iff_ne_none.mpr (dropped id record found gone)
    exact if_pos (by rw [flags.scratchReleased, ← flags.terminalMonoMs, past])

theorem Moves.held (held : Held h) (moves : Moves nowMs reads allowed h later) : Held later := by
  induction moves with
  | refl => exact held
  | tail _ move ih => exact move.held ih

/-- Bytes are either reserved for later or in the hands of a buffer or job. -/
theorem Held.funded (held : Held h) :
    h.guard.allocatedBytes =
      (h.guard.reservations.total fun _ reservation =>
        if reservation.state = .reserved ∨ reservation.state = .committed then reservation.bytes else 0) +
      ((h.buffers.total fun _ record => if record.budgetReleased then 0 else record.sizeBytes) +
        h.jobs.total fun _ record => if record.scratchReleased then 0 else record.scratchBytes) := by
  have out := held.matched.total Prod.snd
  have split : (h.guard.reservations.total fun _ reservation => heldBytes reservation) =
      (h.guard.reservations.total fun _ reservation =>
        if reservation.state = .reserved ∨ reservation.state = .committed then reservation.bytes else 0) +
      h.guard.reservations.total fun _ reservation => ((consumedShare reservation).map Prod.snd).getD 0 := by
    rw [← Table.total_add]
    apply Table.total_congr
    intro id reservation _
    cases state : reservation.state <;> simp [heldBytes, holdsBudget, consumedShare, state]
  calc h.guard.allocatedBytes = h.guard.reservations.total fun _ reservation => heldBytes reservation :=
        held.booked.balanced.held
    _ = _ := by
      rw [split, out]
      congr 2
      · apply Table.total_congr
        intro id record _
        cases released : record.budgetReleased <;> simp [bufferShare, released]
      · apply Table.total_congr
        intro id record _
        cases released : record.scratchReleased <;> simp [jobShare, released]

section Stores
variable {guard guard' : ResourceGuard} {store store' : RemoteBufferStore} {jobs : Table Bytes16 JobRecord}
  {published : List ReservationId}

theorem terminalizeWhere_moves (store : RemoteBufferStore) (guard : ResourceGuard) (test : BufferRecord → Bool)
    {state : BufferState} (terminal : state.isTerminal = true) :
    Moves nowMs reads allowed ⟨guard, store.buffers, jobs, published⟩
      ⟨(store.terminalizeWhere guard test state nowMs).2, (store.terminalizeWhere guard test state nowMs).1.buffers,
        jobs, published⟩ := by
  refine Table.sweep_induction (fun buffers guard' => Moves nowMs reads allowed ⟨guard, store.buffers, jobs, published⟩
    ⟨guard', buffers, jobs, published⟩) _ ?_ store.buffers guard .refl
  intro buffers guard' id record found moves
  by_cases chosen : (test record && !record.state.isTerminal) = true
  · have live : Live record := by
      simp only [Bool.and_eq_true, Bool.not_eq_true'] at chosen
      exact chosen.2
    simp only [chosen, if_true]
    exact moves.tail (.endBuffer found live terminal)
  · simp only [chosen, if_false, Bool.false_eq_true]
    rwa [Table.modify_self found]

theorem expireAndPurge_moves (store : RemoteBufferStore) (guard : ResourceGuard) :
    Moves nowMs reads allowed ⟨guard, store.buffers, jobs, published⟩
      ⟨(store.expireAndPurge guard nowMs).2, (store.expireAndPurge guard nowMs).1.buffers, jobs, published⟩ := by
  unfold RemoteBufferStore.expireAndPurge
  dsimp only
  refine (terminalizeWhere_moves store guard _ rfl).tail (.purgeBuffers ?_)
  intro id record _ gone unended
  simp [unended] at gone

theorem Refused.moves {sessionId : SessionBinding} (refused : Refused store guard sessionId nowMs store' guard') :
    Moves nowMs reads allowed ⟨guard, store.buffers, jobs, published⟩ ⟨guard', store'.buffers, jobs, published⟩ := by
  cases refused with
  | keep => exact .refl
  | lose found _ live => exact .single (.endBuffer found live rfl)

/-- The reservation that a completed ALLOC used up. -/
def usedUp : Pbmux.RemoteBufferRequest → Pbmux.BufferResult → List ReservationId
  | .alloc _ _ reservationId _ _, result => if result.completed then [⟨reservationId⟩] else []
  | _, _ => []

theorem usedUp_failed (request : Pbmux.RemoteBufferRequest) {result : Pbmux.BufferResult} (fails : result.completed = false) :
    usedUp request result = [] := by
  cases request <;> simp [usedUp, fails]

theorem Served.moves {proof : LeaseProof} {sessionId : SessionBinding} {request : Pbmux.RemoteBufferRequest}
    {result : Pbmux.BufferResult} (holder : allowed proof sessionId) (unpublished : ∀ id ∈ drawn reads, ⟨id⟩ ∉ published)
    (served : Served store guard proof sessionId nowMs reads request result store' guard') :
    Moves nowMs reads allowed ⟨guard, store.buffers, jobs, published⟩
      ⟨guard', store'.buffers, jobs, published ++ usedUp request result⟩ := by
  have scans : ∀ scans, Moves nowMs reads allowed ⟨guard, store.buffers, jobs, published⟩
      ⟨scanned proof nowMs scans guard, store.buffers, jobs, published⟩ := fun scans =>
    Moves.guard unpublished (scanned_steps proof scans guard)
  cases served with
  | refuse fails refused =>
    rw [usedUp_failed request fails, List.append_nil]
    exact refused.moves
  | refuseAlloc attempts fails =>
    rw [usedUp_failed _ fails, List.append_nil]
    exact scans attempts
  | alloc completed _ absent member _ found state _ sameClass bytes =>
    simp only [usedUp, completed, if_true]
    exact (scans 3).tail (.alloc holder absent member found state sameClass bytes)
  | put _ found _ live =>
    simp only [usedUp, List.append_nil]
    refine .single (.edit found live ?_)
    constructor <;> simp [written, Live]
    split <;> rfl
  | get | stat | freeAgain =>
    simp only [usedUp, List.append_nil]
    exact .refl
  | touch _ found _ live =>
    simp only [usedUp, List.append_nil]
    exact .single (.edit found live ⟨live, rfl, rfl, rfl, rfl, rfl, rfl, rfl⟩)
  | free _ found _ live =>
    simp only [usedUp, List.append_nil]
    exact .single (.endBuffer found live rfl)

end Stores
end PhoneBoost.Worker.Proofs
