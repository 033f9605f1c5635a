import PhoneBoost.Proofs.CoreMoves
import PhoneBoost.Proofs.GuardBudget

/-! Runs of the worker from a cold start: who holds the bytes of a consumed
reservation, and how often a reservation can be used. -/

namespace PhoneBoost.Worker.Proofs
open Keyed Custody RemoteBufferStore WorkerCore

structure CoreRun where
  core : WorkerCore
  published : List ReservationId

def CoreRun.step (hasher : Hasher) (run : CoreRun) (call : Call) : CoreRun where
  core := (Worker.step hasher run.core call).2
  published := run.published ++
    publications run.core call (Worker.step hasher run.core call).1 (Worker.step hasher run.core call).2

/-- A run, with the reservations used up so far in order. -/
def coreRun (hasher : Hasher) (start : WorkerCore) (calls : List Call) : CoreRun :=
  Machine.run (CoreRun.step hasher) ⟨start, []⟩ calls

abbrev CoreRun.holdings (run : CoreRun) : Holdings := Proofs.holdings run.core run.published

variable {hasher : Hasher} {boot : Entropy} {start : WorkerCore} {calls : List Call}

theorem coreRun_concat (hasher : Hasher) (start : WorkerCore) (calls : List Call) (call : Call) :
    coreRun hasher start (calls ++ [call]) = (coreRun hasher start calls).step hasher call :=
  Machine.run_concat ..

/-- The identifiers handed out by the random source during a run. -/
def drawnBy (calls : List Call) : List Bytes16 := calls.flatMap fun call => drawn call.reads

/-- What holds between the calls of a run. -/
structure Kept (calls : List Call) (run : CoreRun) : Prop where
  held : Held run.holdings
  known : Known (drawnBy calls) run.holdings

theorem Fresh.apart {calls : List Call} {call : Call} (fresh : Fresh (calls ++ [call])) :
    ∀ id ∈ drawn call.reads, id ∉ drawnBy calls := fun _ member taken => Machine.Distinct.unseen fresh taken member

theorem Kept.moves {run : CoreRun} {call : Call} (kept : Kept calls run) (fresh : Fresh (calls ++ [call])) :
    Moves call.startMs call.reads (Acting run.core call) run.holdings (run.step hasher call).holdings :=
  (entered_moves run.core call).trans (step_moves hasher kept.known call (Fresh.apart fresh))

theorem Kept.extend (calls : List Call) (call : Call) (run : CoreRun) (fresh : Fresh (calls ++ [call]))
    (kept : Kept calls run) : Kept (calls ++ [call]) (run.step hasher call) := by
  have moves : Moves call.startMs call.reads (Acting run.core call) run.holdings (run.step hasher call).holdings :=
    kept.moves fresh
  have drawn_append : drawnBy (calls ++ [call]) = drawnBy calls ++ drawn call.reads := by simp [drawnBy]
  refine ⟨moves.held kept.held, ?_⟩
  rw [drawn_append]
  exact moves.known (List.subset_append_right _ _) (kept.known.mono (List.subset_append_left _ _))

theorem coldStart_some (booted : coldStart boot = some start) :
    ∃ id, start = ⟨⟨id⟩, .new ⟨id⟩, .new, .new, .new, .empty⟩ := by
  obtain ⟨id, _, same⟩ := Option.map_eq_some_iff.mp booted
  exact ⟨id, same.symm⟩

theorem coldStart_kept (booted : coldStart boot = some start) : Kept [] ⟨start, []⟩ := by
  obtain ⟨id, rfl⟩ := coldStart_some booted
  have nothing : ∀ holder, (holdings ⟨⟨id⟩, .new ⟨id⟩, .new, .new, .new, .empty⟩ []).shares holder = none := by
    rintro (_ | _) <;> rfl
  constructor
  · refine ⟨⟨Budget.Balanced.empty heldBytes pocCapBytes, ?_⟩, ?_, ?_, ⟨?_, ?_, ?_⟩, List.nodup_nil, ?_⟩
    · exact fun _ _ found => nomatch found
    · exact fun _ _ found => nomatch found
    · exact fun _ _ found => nomatch found
    · exact fun holder _ _ has => nomatch (nothing holder).symm.trans has
    · exact fun holder _ _ _ _ has => nomatch (nothing holder).symm.trans has
    · exact fun _ _ out => nomatch out
    · exact fun _ _ found => nomatch found
  · refine ⟨?_, ?_, ?_, ?_, ?_⟩
    · exact fun _ _ found => nomatch found
    · exact fun _ ⟨_, _, found, _⟩ => nomatch found
    · exact fun _ member => absurd member List.not_mem_nil
    · exact fun _ _ found => nomatch found
    · exact fun _ _ found => nomatch found

theorem coreRun_kept (booted : coldStart boot = some start) (calls : List Call) (fresh : Fresh calls) :
    Kept calls (coreRun hasher start calls) :=
  Machine.run_induction Fresh Kept (fun calls call => Machine.Distinct.shorter calls call) (coldStart_kept booted)
    Kept.extend calls fresh

/-- The buffer (left) or job (right) still has the bytes of the reservation. -/
def Backs (core : WorkerCore) (id : ReservationId) : Bytes16 ⊕ Bytes16 → Prop
  | .inl bufferId => ∃ record, core.remoteBuffers.buffers.get? bufferId = some record ∧ record.budgetReleased = false ∧
    record.reservationId = id
  | .inr jobId => ∃ record, core.computeJobs.jobs.get? jobId = some record ∧ record.scratchReleased = false ∧
    record.scratchReservationId = id

theorem backs_iff (core : WorkerCore) (published : List ReservationId) (id : ReservationId) (holder : Bytes16 ⊕ Bytes16) :
    Backs core id holder ↔ ∃ share, (holdings core published).shares holder = some (id, share) := by
  cases holder with
  | inl bufferId =>
    simp only [Backs, Holdings.shares, Sum.elim_inl, Table.view_eq_some, holdings]
    constructor
    · rintro ⟨record, found, unreleased, rfl⟩
      exact ⟨_, record, found, if_neg (by simp [unreleased])⟩
    · rintro ⟨share, record, found, same⟩
      unfold bufferShare at same
      split at same
      · cases same
      next unreleased => exact ⟨record, found, by simpa using unreleased, (Prod.mk.inj (Option.some.inj same)).1⟩
  | inr jobId =>
    simp only [Backs, Holdings.shares, Sum.elim_inr, Table.view_eq_some, holdings]
    constructor
    · rintro ⟨record, found, unreleased, rfl⟩
      exact ⟨_, record, found, if_neg (by simp [unreleased])⟩
    · rintro ⟨share, record, found, same⟩
      unfold jobShare at same
      split at same
      · cases same
      next unreleased => exact ⟨record, found, by simpa using unreleased, (Prod.mk.inj (Option.some.inj same)).1⟩

theorem Held.consumed_of_share {h : Holdings} (held : Held h) {holder : Bytes16 ⊕ Bytes16} {id : ReservationId}
    {resourceClass : ResourceClass} {bytes : Nat} (has : h.shares holder = some (id, resourceClass, bytes)) :
    ∃ reservation, h.guard.reservations.get? id = some reservation ∧ reservation.state = .consumed ∧
      reservation.resourceClass = resourceClass ∧ reservation.bytes = bytes := by
  obtain ⟨reservation, found, share⟩ := (Table.view_eq_some ..).mp (held.matched.sound holder id _ has)
  unfold consumedShare at share
  split at share
  next state =>
    cases share
    exact ⟨reservation, found, state, rfl, rfl⟩
  next => cases share

theorem Held.unique_holder {core : WorkerCore} {published : List ReservationId} (held : Held (holdings core published))
    {id : ReservationId} {first second : Bytes16 ⊕ Bytes16} (backs : Backs core id first) (again : Backs core id second) :
    first = second := by
  obtain ⟨share, has⟩ := (backs_iff core published id first).mp backs
  obtain ⟨other, has'⟩ := (backs_iff core published id second).mp again
  exact held.matched.unique first second id share other has has'

theorem Held.some_holder {core : WorkerCore} {published : List ReservationId} (held : Held (holdings core published))
    {id : ReservationId} {reservation : Reservation} (found : core.resourceGuard.reservations.get? id = some reservation)
    (state : reservation.state = .consumed) : ∃ holder, Backs core id holder := by
  have out : (holdings core published).consumed id = some (reservation.resourceClass, reservation.bytes) :=
    (Table.view_eq_some ..).mpr ⟨reservation, found, if_pos state⟩
  obtain ⟨holder, has⟩ := held.matched.used id _ out
  exact ⟨holder, (backs_iff core published id holder).mpr ⟨_, has⟩⟩

/-- Ending a buffer returns its bytes, and ending it again returns nothing. -/
theorem Held.buffer_refund {h : Holdings} (held : Held h) {id : Bytes16} {record : BufferRecord}
    (found : h.buffers.get? id = some record) (unreleased : record.budgetReleased = false) (state : Pbmux.BufferState)
    (nowMs : Nat) :
    (terminalize record h.guard state nowMs).2.allocatedBytes + record.sizeBytes = h.guard.allocatedBytes ∧
    ∀ guard again laterMs, (terminalize (terminalize record h.guard state nowMs).1 guard again laterMs).2 = guard := by
  have has : h.shares (.inl id) = some (record.reservationId, .remoteBufferBytes, record.sizeBytes) :=
    (Table.view_eq_some ..).mpr ⟨record, found, if_neg (by simp [unreleased])⟩
  constructor
  · simp only [terminalize, unreleased, Bool.false_eq_true, if_false]
    exact (releaseConsumed_out held.booked (held.matched.sound _ _ _ has) nowMs).2.1
  · intro guard again laterMs
    simp [terminalize, ended]

theorem Held.job_refund {h : Holdings} (held : Held h) {id : Bytes16} {record : JobRecord}
    (found : h.jobs.get? id = some record) (unreleased : record.scratchReleased = false) (state : Pbmux.ComputeJobState)
    (reason : Pbmux.ComputeReason) (digest : Option Bytes32) (nowMs : Nat) :
    (ComputeJobStore.finishRecord record h.guard state reason digest nowMs).2.allocatedBytes + record.scratchBytes =
      h.guard.allocatedBytes ∧
    ∀ guard again why result laterMs, (ComputeJobStore.finishRecord
      (ComputeJobStore.finishRecord record h.guard state reason digest nowMs).1 guard again why result laterMs).2 = guard := by
  have live : record.state.isTerminal = false := (held.jobs id record found).scratchReleased.symm.trans unreleased
  have has : h.shares (.inr id) = some (record.scratchReservationId, .nativeOpScratchBytes, record.scratchBytes) :=
    (Table.view_eq_some ..).mpr ⟨record, found, if_neg (by simp [unreleased])⟩
  constructor
  · simp only [ComputeJobStore.finishRecord, live, unreleased, Bool.false_eq_true, if_false]
    exact (releaseConsumed_out held.booked (held.matched.sound _ _ _ has) nowMs).2.1
  · intro guard again why result laterMs
    rw [finishRecord_live live]
    dsimp only
    unfold ComputeJobStore.finishRecord
    split
    · rfl
    · simp [ComputeJobStore.finished]

/-- Whatever ends next returns exactly its own bytes, and only once. -/
def Refunds (h : Holdings) : Prop :=
  (∀ id record, h.buffers.get? id = some record → record.budgetReleased = false → ∀ state nowMs,
    (terminalize record h.guard state nowMs).2.allocatedBytes + record.sizeBytes = h.guard.allocatedBytes ∧
    ∀ guard again laterMs, (terminalize (terminalize record h.guard state nowMs).1 guard again laterMs).2 = guard) ∧
  ∀ id record, h.jobs.get? id = some record → record.scratchReleased = false → ∀ state reason digest nowMs,
    (ComputeJobStore.finishRecord record h.guard state reason digest nowMs).2.allocatedBytes + record.scratchBytes =
      h.guard.allocatedBytes ∧
    ∀ guard again why result laterMs, (ComputeJobStore.finishRecord
      (ComputeJobStore.finishRecord record h.guard state reason digest nowMs).1 guard again why result laterMs).2 = guard

theorem Held.refunds {h : Holdings} (held : Held h) : Refunds h :=
  ⟨fun _ _ found unreleased state nowMs => held.buffer_refund found unreleased state nowMs,
    fun _ _ found unreleased state reason digest nowMs => held.job_refund found unreleased state reason digest nowMs⟩

/-- Between the calls of a run the bytes of each consumed reservation are in the
hands of exactly one buffer or job, and these shares and the pending reservations
add up to the byte count. At every moment of the next call an end returns its
share once, and what has ended stays so. -/
theorem coreRun_custody (hasher : Hasher) (booted : coldStart boot = some start) (calls : List Call) (fresh : Fresh calls) :
    let run := coreRun hasher start calls
    let core := run.core
    let guard := core.resourceGuard
    (∀ id record, core.remoteBuffers.buffers.get? id = some record → record.budgetReleased = false →
      ∃ reservation, guard.reservations.get? record.reservationId = some reservation ∧ reservation.state = .consumed ∧
        reservation.resourceClass = .remoteBufferBytes ∧ reservation.bytes = record.sizeBytes) ∧
    (∀ id record, core.computeJobs.jobs.get? id = some record → record.scratchReleased = false →
      ∃ reservation, guard.reservations.get? record.scratchReservationId = some reservation ∧
        reservation.state = .consumed ∧ reservation.resourceClass = .nativeOpScratchBytes ∧
        reservation.bytes = record.scratchBytes) ∧
    (∀ id first second, Backs core id first → Backs core id second → first = second) ∧
    (∀ id reservation, guard.reservations.get? id = some reservation → reservation.state = .consumed →
      ∃! holder, Backs core id holder) ∧
    guard.allocatedBytes =
      (guard.reservations.total fun _ reservation =>
        if reservation.state = .reserved ∨ reservation.state = .committed then reservation.bytes else 0) +
      ((core.remoteBuffers.buffers.total fun _ record => if record.budgetReleased then 0 else record.sizeBytes) +
        core.computeJobs.jobs.total fun _ record => if record.scratchReleased then 0 else record.scratchBytes) ∧
    (∀ id record, core.remoteBuffers.buffers.get? id = some record → record.budgetReleased = record.state.isTerminal) ∧
    (∀ id record, core.computeJobs.jobs.get? id = some record → record.scratchReleased = record.state.isTerminal) ∧
    ∀ call, Fresh (calls ++ [call]) →
      let next := coreRun hasher start (calls ++ [call])
      Moves call.startMs call.reads (Acting core call) run.holdings next.holdings ∧
      (∀ moment, Moves call.startMs call.reads (Acting core call) run.holdings moment → Refunds moment) ∧
      (∀ id record, core.remoteBuffers.buffers.get? id = some record → record.budgetReleased = true →
        Rests next.core.remoteBuffers.buffers id record) ∧
      ∀ id record, core.computeJobs.jobs.get? id = some record → record.scratchReleased = true →
        Rests next.core.computeJobs.jobs id record := by
  intro run core guard
  have kept : Kept calls run := coreRun_kept booted calls fresh
  have held := kept.held
  refine ⟨?_, ?_, fun id first second => held.unique_holder, ?_, held.funded,
    fun id record found => (held.buffers id record found).budgetReleased,
    fun id record found => (held.jobs id record found).scratchReleased, ?_⟩
  · intro id record found unreleased
    have has : run.holdings.shares (.inl id) = some (record.reservationId, .remoteBufferBytes, record.sizeBytes) :=
      (Table.view_eq_some ..).mpr ⟨record, found, if_neg (by simp [unreleased])⟩
    exact held.consumed_of_share has
  · intro id record found unreleased
    have has : run.holdings.shares (.inr id) = some (record.scratchReservationId, .nativeOpScratchBytes, record.scratchBytes) :=
      (Table.view_eq_some ..).mpr ⟨record, found, if_neg (by simp [unreleased])⟩
    exact held.consumed_of_share has
  · intro id reservation found state
    obtain ⟨holder, backs⟩ := held.some_holder found state
    exact ⟨holder, backs, fun other again => held.unique_holder again backs⟩
  · intro call more next
    have moves : Moves call.startMs call.reads (Acting core call) run.holdings next.holdings := by
      show Moves _ _ _ _ (coreRun hasher start (calls ++ [call])).holdings
      rw [coreRun_concat]
      exact kept.moves more
    refine ⟨moves, fun moment reached => (reached.held held).refunds, ?_, ?_⟩
    · intro id record found released
      have old : id ∉ drawn call.reads := fun member => Fresh.apart more id member (kept.known.buffers id record found)
      exact moves.bufferRests old ((held.buffers id record found).budgetReleased ▸ released) (.inr found)
    · intro id record found released
      have old : id ∉ drawn call.reads := fun member => Fresh.apart more id member (kept.known.jobs id record found)
      exact moves.jobRests old ((held.jobs id record found).scratchReleased ▸ released) (.inr found)

def someSession : VerifiedPeerSession := ⟨somePeer, ⟨filled 5⟩⟩

def nullHasher : Hasher := ⟨Unit, (), fun _ _ => (), fun _ => Vector.replicate 32 0⟩

def bootedCore : WorkerCore := ⟨⟨filled 9⟩, .new ⟨filled 9⟩, .new, .new, .new, .empty⟩

/-- A lease, then a reservation of four bytes that is committed and allocated. -/
def allocationCalls : List Call := [
  .recordLocalHealth (healthy 0) 0, .recordLocalHealth (healthy 10000) 10000,
  .controllerCommand someSession .acquire 10000 [some (filled 1)],
  .resourceRequest someSession 1 (.reserve (filled 1) (filled 9) .remoteBufferBytes 4) 10000 [some (filled 2)],
  .resourceRequest someSession 2 (.commit (filled 1) (filled 9) (filled 2)) 10001 [],
  .remoteBufferRequest someSession (.alloc (filled 1) (filled 9) (filled 2) 4 ⟨0, by decide⟩) 10002 (fun _ => true)
    [some (filled 3)]]

theorem coreRun_custody_allocation :
    coldStart [some (filled 9)] = some bootedCore ∧ Fresh allocationCalls ∧
    (coreRun nullHasher bootedCore allocationCalls).core.resourceGuard.allocatedBytes = 4 ∧
    ∃ holder, Backs (coreRun nullHasher bootedCore allocationCalls).core ⟨filled 2⟩ holder := by
  have booted : coldStart [some (filled 9)] = some bootedCore := rfl
  have fresh : Fresh allocationCalls := by decide
  obtain ⟨reservation, found, state⟩ : ∃ reservation,
      (coreRun nullHasher bootedCore allocationCalls).core.resourceGuard.reservations.get? ⟨filled 2⟩ = some reservation ∧
      reservation.state = .consumed := ⟨_, rfl, rfl⟩
  refine ⟨booted, fresh, by decide, ?_⟩
  exact ((coreRun_custody nullHasher booted allocationCalls fresh).2.2.2.1 ⟨filled 2⟩ reservation found state).exists

theorem Kept.publishes_once (hasher : Hasher) {run : CoreRun} {call : Call} (kept : Kept calls run) (fresh : Fresh (calls ++ [call])) :
    ∀ id ∈ run.published, id ∉ publications run.core call (step hasher run.core call).1 (step hasher run.core call).2 := by
  have once : (run.published ++ publications run.core call (step hasher run.core call).1
      (step hasher run.core call).2).Nodup := (Kept.extend calls call run fresh kept).held.once
  intro id member again
  exact (List.nodup_append.mp once).2.2 id member id again rfl

/-- Each reservation backs at most one completed ALLOC or one job of the whole
run: a reservation that was used once is never used again, by any session. -/
theorem coreRun_single_use (hasher : Hasher) (booted : coldStart boot = some start) (calls : List Call)
    (fresh : Fresh calls) :
    let run := coreRun hasher start calls
    run.published.Nodup ∧
    (∀ id reservation, run.core.resourceGuard.reservations.get? id = some reservation →
      (id ∈ run.published ↔ reservation.state = .consumed ∨ reservation.state = .consumedReleased)) ∧
    (∀ session leaseId incarnation reservationId size flags nowMs memory reads,
      Fresh (calls ++ [.remoteBufferRequest session (.alloc leaseId incarnation reservationId size flags) nowMs memory
        reads]) → ⟨reservationId⟩ ∈ run.published →
      (run.core.applyRemoteBufferRequest session (.alloc leaseId incarnation reservationId size flags) nowMs memory
        reads).1.2.completed = false) ∧
    (∀ session requestId submit nowMs provider reads,
      Fresh (calls ++ [.computeRequest session requestId (.submit submit) nowMs provider reads]) →
      ⟨submit.reservationId⟩ ∈ run.published →
      Unserved run.core ⟨submit.leaseId⟩ requestId submit
        (run.core.applyComputeRequest hasher session requestId (.submit submit) nowMs provider reads).1 ∧
      NoNewJobs run.core.computeJobs.jobs
        (run.core.applyComputeRequest hasher session requestId (.submit submit) nowMs provider reads).2.computeJobs.jobs) ∧
    ∀ call, Fresh (calls ++ [call]) → ∀ id ∈ run.published,
      id ∉ publications run.core call (step hasher run.core call).1 (step hasher run.core call).2 := by
  intro run
  have kept : Kept calls run := coreRun_kept booted calls fresh
  refine ⟨kept.held.once, kept.held.spent, ?_, ?_, fun call more => kept.publishes_once hasher more⟩
  · intro session leaseId incarnation reservationId size flags nowMs memory reads more used
    have once := kept.publishes_once hasher more ⟨reservationId⟩ used
    by_contra completes
    rw [Bool.not_eq_false] at completes
    apply once
    simp [publications, step, usedUp, completes]
  · intro session requestId submit nowMs provider reads more used
    have once := kept.publishes_once hasher more ⟨submit.reservationId⟩ used
    rcases (applyComputeRequest_served hasher run.core session requestId (.submit submit) nowMs provider reads).submit_cases
      with ⟨unserved, unchanged⟩ | ⟨id, member, record, found, names⟩
    · exact ⟨unserved.before, (reconcile_noNewJobs run.core nowMs).trans unchanged⟩
    · -- a new job would be a second use
      have absent : run.core.computeJobs.jobs.get? id = none := by
        rw [Option.eq_none_iff_forall_ne_some]
        exact fun earlier present => Fresh.apart more id member (kept.known.jobs id earlier present)
      refine absurd (List.mem_append_right _ ((Table.mem_select ..).mpr ⟨id, record, found, ?_⟩)) once
      simp [absent, names]

/-- The reservation of the allocated buffer is used up for good. -/
theorem coreRun_single_use_allocation :
    coldStart [some (filled 9)] = some bootedCore ∧ Fresh allocationCalls ∧
    ⟨filled 2⟩ ∈ (coreRun nullHasher bootedCore allocationCalls).published ∧
    ((coreRun nullHasher bootedCore allocationCalls).core.applyRemoteBufferRequest someSession
      (.alloc (filled 1) (filled 9) (filled 2) 4 ⟨0, by decide⟩) 10003 (fun _ => true) [some (filled 4)]).1.2.completed =
        false := by
  have booted : coldStart [some (filled 9)] = some bootedCore := rfl
  have fresh : Fresh allocationCalls := by decide
  have used : ⟨filled 2⟩ ∈ (coreRun nullHasher bootedCore allocationCalls).published := by decide
  refine ⟨booted, fresh, used, ?_⟩
  exact (coreRun_single_use nullHasher booted allocationCalls fresh).2.2.1 someSession (filled 1) (filled 9) (filled 2) 4
    ⟨0, by decide⟩ 10003 (fun _ => true) [some (filled 4)] (by decide) used

end PhoneBoost.Worker.Proofs
