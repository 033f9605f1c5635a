import PhoneBoost.Proofs.BufferContent
import PhoneBoost.Proofs.CoreCustody

/-! The limits of the buffer store over whole runs: how many buffers a lease has,
how many bytes are charged, and how long a buffer lives. An ended buffer keeps a
record whose expiry is the moment it ended. -/

namespace PhoneBoost.Worker.Proofs
open Keyed RemoteBufferStore
open Pbmux (AllocationFlags BufferResult BufferState RemoteBufferRequest)

theorem foldl_saturatingAdd {sizes : List Nat} {start : Nat} (fits : start + sizes.sum ≤ u64Max) :
    sizes.foldl saturatingAdd start = start + sizes.sum := by
  induction sizes generalizing start with
  | nil => rfl
  | cons size sizes ih =>
    rw [List.sum_cons] at fits ⊢
    rw [List.foldl_cons, saturatingAdd_of_le (by omega), ih (by omega)]
    omega

def StoreCall.nowMs : StoreCall → Nat
  | .serve _ _ _ _ nowMs _ _ | .validateComputeInput _ _ _ _ _ _ nowMs | .sessionLost _ _ nowMs | .leaseEnded _ _ nowMs
  | .tick _ nowMs => nowMs

/-- The buffers of a lease that have not ended. -/
def liveOf (store : RemoteBufferStore) (leaseId : LeaseId) : Nat :=
  store.buffers.count fun _ record => record.ownerControllerLeaseId = leaseId && !record.state.isTerminal

/-- The bytes of the buffers whose budget is not given back. -/
def chargedBytes (store : RemoteBufferStore) : Nat :=
  store.buffers.total fun _ record => if record.budgetReleased then 0 else record.sizeBytes

variable {store later : RemoteBufferStore} {guard guard' : ResourceGuard} {proof : LeaseProof} {sessionId : SessionBinding}
  {nowMs lastMs : Nat} {record : BufferRecord} {weight : BufferRecord → Nat}

theorem total_writeBack_le {id : Bytes16} (found : store.buffers.get? id = some record) {replacement : BufferRecord}
    (less : weight replacement ≤ weight record) :
    ((store.writeBack id replacement).buffers.total fun _ record => weight record) ≤
      store.buffers.total fun _ record => weight record := by
  have moved := Table.total_modify found (fun _ => replacement) fun _ record => weight record
  simp only [writeBack]
  omega

/-- A weight of buffers that only an allocation adds. -/
structure Fades (weight : BufferRecord → Nat) : Prop where
  ended : ∀ record state nowMs, state.isTerminal = true → weight (ended record state nowMs) ≤ weight record
  written : ∀ record offset data, Live record → weight (written record offset data) ≤ weight record
  touched : ∀ record nowMs, weight (touched record nowMs) ≤ weight record

namespace Fades

theorem live (leaseId : LeaseId) : Fades fun record =>
    if record.ownerControllerLeaseId = leaseId && !record.state.isTerminal then 1 else 0 where
  ended record state nowMs terminal := by simp [RemoteBufferStore.ended, terminal]
  written record offset data live := by
    have alive : record.state.isTerminal = false := live
    have stays : (RemoteBufferStore.written record offset data).state.isTerminal = false := by
      simp only [RemoteBufferStore.written]
      split <;> rfl
    rw [stays, alive]
    exact le_rfl
  touched record nowMs := le_rfl

theorem charged : Fades fun record => if record.budgetReleased then 0 else record.sizeBytes where
  ended record state nowMs terminal := by simp [RemoteBufferStore.ended]
  written record offset data live := le_rfl
  touched record nowMs := le_rfl

variable (fades : Fades weight)
include fades

theorem terminalizeWhere (store : RemoteBufferStore) (guard : ResourceGuard) (test : BufferRecord → Bool)
    {state : BufferState} (terminal : state.isTerminal = true) (nowMs : Nat) :
    ((store.terminalizeWhere guard test state nowMs).1.buffers.total fun _ record => weight record) ≤
      store.buffers.total fun _ record => weight record := by
  apply Table.total_sweep_le
  intro guard _ record
  split
  · exact fades.ended record state nowMs terminal
  · exact le_rfl

theorem expireAndPurge (store : RemoteBufferStore) (guard : ResourceGuard) (nowMs : Nat) :
    ((store.expireAndPurge guard nowMs).1.buffers.total fun _ record => weight record) ≤
      store.buffers.total fun _ record => weight record :=
  (Table.total_retain_le ..).trans (fades.terminalizeWhere store guard _ rfl nowMs)

theorem refused (refused : Refused store guard sessionId nowMs later guard') :
    (later.buffers.total fun _ record => weight record) ≤ store.buffers.total fun _ record => weight record := by
  cases refused with
  | keep => exact le_rfl
  | lose found foreign live => exact total_writeBack_le found (fades.ended _ _ _ rfl)

/-- Only an allocation adds weight, that of the new buffer. -/
theorem served {request : RemoteBufferRequest} {result : BufferResult} {reads : Entropy}
    (served : Served store guard proof sessionId nowMs reads request result later guard') :
    (later.buffers.total fun _ record => weight record) ≤ (store.buffers.total fun _ record => weight record) ∨
    ∃ leaseId incarnation reservationId size flags id, request = .alloc leaseId incarnation reservationId size flags ∧
      result.completed = true ∧ (later.buffers.total fun _ record => weight record) =
        (store.buffers.total fun _ record => weight record) +
          weight (freshBuffer id proof sessionId ⟨reservationId⟩ size.toNat flags nowMs) := by
  cases served with
  | refuse fails refused => exact .inl (fades.refused refused)
  | refuseAlloc | get | stat | freeAgain => exact .inl le_rfl
  | alloc completed named absent =>
    exact .inr ⟨_, _, _, _, _, _, rfl, completed, Table.total_insert absent _ _⟩
  | put completed found owned live => exact .inl (total_writeBack_le found (fades.written _ _ _ live))
  | touch completed found owned live => exact .inl (total_writeBack_le found (fades.touched _ _))
  | free completed found owned live => exact .inl (total_writeBack_le found (fades.ended _ _ _ rfl))

end Fades

theorem chargedBytes_fold (fits : chargedBytes store ≤ u64Max) :
    (store.buffers.select fun _ record => if !record.budgetReleased then some record.sizeBytes else none).foldl
      saturatingAdd 0 = chargedBytes store := by
  have sum : (store.buffers.select fun _ record =>
      if !record.budgetReleased then some record.sizeBytes else none).sum = chargedBytes store := by
    have total := store.buffers.total_select
      (fun _ record => if !record.budgetReleased then some record.sizeBytes else none) id
    rw [List.map_id] at total
    rw [total, chargedBytes]
    apply Table.total_congr
    intro _ record _
    cases record.budgetReleased <;> rfl
  rw [foldl_saturatingAdd (by omega), sum, Nat.zero_add]

/-- An allocation that completes found room for the buffer. -/
theorem alloc_room {leaseId reservationId : Bytes16} {size : UInt64} {flags : AllocationFlags}
    {memory : Nat → Bool} {reads : Entropy} (fits : chargedBytes store ≤ u64Max)
    (completed : (store.alloc guard proof sessionId leaseId reservationId size flags nowMs memory reads).1.completed =
      true) :
    liveOf store proof.leaseId < maxBuffersPerLease ∧ chargedBytes store + size.toNat ≤ maxRemoteBufferBytes := by
  unfold alloc at completed
  dsimp only at completed
  split at completed
  · cases completed
  · rw [chargedBytes_fold fits] at completed
    split at completed
    · cases completed
    next room =>
      simp only [Bool.or_eq_true, decide_eq_true_eq, not_or, Nat.not_le] at room
      refine ⟨room.1, ?_⟩
      cases sum : checkedAdd (chargedBytes store) size.toNat with
      | none => simp [sum] at room
      | some total =>
        obtain ⟨-, rfl⟩ := checkedAdd_eq_some.mp sum
        simpa [sum] using room.2

/-- The clock fields of a record, when the last reading was `lastMs`. -/
structure Timed (lastMs : Nat) (record : BufferRecord) : Prop where
  lifetime : Live record → record.expiresMonoMs ≤ saturatingAdd record.createdMonoMs maxBufferLifetimeMs
  recent : Live record → record.expiresMonoMs ≤ saturatingAdd lastMs defaultBufferTtlMs
  unended : Live record → record.terminalMonoMs = none
  ended : ¬ Live record → record.terminalMonoMs = some record.expiresMonoMs

namespace Timed

theorem onward (timed : Timed lastMs record) (ordered : lastMs ≤ nowMs) : Timed nowMs record :=
  { timed with recent := fun live => (timed.recent live).trans (saturatingAdd_mono (by decide) ordered le_rfl) }

theorem ends (timed : Timed lastMs record) (live : Live record) {state : BufferState} (terminal : state.isTerminal = true) :
    Timed nowMs (RemoteBufferStore.ended record state nowMs) where
  lifetime alive := absurd alive (not_live_ended record terminal nowMs)
  recent alive := absurd alive (not_live_ended record terminal nowMs)
  unended alive := absurd alive (not_live_ended record terminal nowMs)
  ended _ := by simp [RemoteBufferStore.ended, timed.unended live]

theorem aged (timed : Timed lastMs record) (ordered : lastMs ≤ nowMs) : Timed nowMs (Proofs.aged record nowMs) := by
  unfold Proofs.aged
  split
  next due =>
    simp only [Bool.and_eq_true, decide_eq_true_eq, Bool.not_eq_true'] at due
    exact timed.ends due.2 rfl
  · exact timed.onward ordered

theorem fresh (id : Bytes16) (proof : LeaseProof) (sessionId : SessionBinding) (reservationId : ReservationId)
    (size : Nat) (flags : AllocationFlags) (nowMs : Nat) :
    Timed nowMs (freshBuffer id proof sessionId reservationId size flags nowMs) where
  lifetime _ := saturatingAdd_mono (by decide) le_rfl (by decide)
  recent _ := le_rfl
  unended _ := rfl
  ended dead := absurd rfl dead

theorem written (timed : Timed nowMs record) (live : Live record) (offset : Nat) (data : List UInt8) :
    Timed nowMs (RemoteBufferStore.written record offset data) where
  lifetime _ := timed.lifetime live
  recent _ := timed.recent live
  unended _ := timed.unended live
  ended dead := by
    refine absurd ?_ dead
    simp only [Live, RemoteBufferStore.written]
    split <;> rfl

theorem touched (timed : Timed nowMs record) (live : Live record) : Timed nowMs (RemoteBufferStore.touched record nowMs) where
  lifetime _ := Nat.min_le_right _ _
  recent _ := Nat.min_le_left _ _
  unended _ := timed.unended live
  ended dead := absurd live dead

end Timed

/-- The limits of the store after a reading `lastMs`. -/
structure Limited (lastMs : Nat) (store : RemoteBufferStore) : Prop where
  perLease : ∀ leaseId, liveOf store leaseId ≤ maxBuffersPerLease
  charged : chargedBytes store ≤ maxRemoteBufferBytes
  timed : ∀ id record, store.buffers.get? id = some record → Timed lastMs record

namespace Limited

/-- A step that adds no buffer. -/
theorem shrink (limited : Limited lastMs store)
    (fading : ∀ weight, Fades weight →
      (later.buffers.total fun _ record => weight record) ≤ store.buffers.total fun _ record => weight record)
    (timed : ∀ id record, later.buffers.get? id = some record → Timed nowMs record) : Limited nowMs later where
  perLease leaseId := by
    have less := fading _ (Fades.live leaseId)
    have before := limited.perLease leaseId
    rw [liveOf, Table.count_eq_total] at before ⊢
    exact less.trans before
  charged := (fading _ Fades.charged).trans limited.charged
  timed := timed

theorem terminalizeWhere (limited : Limited nowMs store) (guard : ResourceGuard) (test : BufferRecord → Bool)
    {state : BufferState} (terminal : state.isTerminal = true) :
    Limited nowMs (store.terminalizeWhere guard test state nowMs).1 := by
  refine limited.shrink (fun _ fades => fades.terminalizeWhere store guard test terminal nowMs) fun id record found => ?_
  rw [get?_terminalizeWhere, Option.map_eq_some_iff] at found
  obtain ⟨old, present, same⟩ := found
  have timed := limited.timed id old present
  split at same
  next chosen =>
    simp only [Bool.and_eq_true, Bool.not_eq_true'] at chosen
    exact same ▸ timed.ends chosen.2 terminal
  · exact same ▸ timed

theorem expireAndPurge (limited : Limited lastMs store) (guard : ResourceGuard) (ordered : lastMs ≤ nowMs) :
    Limited nowMs (store.expireAndPurge guard nowMs).1 := by
  refine limited.shrink (fun _ fades => fades.expireAndPurge store guard nowMs) fun id record found => ?_
  rw [get?_expireAndPurge, Option.filter_eq_some_iff, Option.map_eq_some_iff] at found
  obtain ⟨⟨old, present, rfl⟩, -⟩ := found
  exact (limited.timed id old present).aged ordered

theorem refused (limited : Limited nowMs store) (refused : Refused store guard sessionId nowMs later guard') :
    Limited nowMs later := by
  refine limited.shrink (fun _ fades => fades.refused refused) ?_
  cases refused with
  | keep => exact limited.timed
  | lose found foreign live =>
    exact Table.every_modify limited.timed fun _ _ => (limited.timed _ _ found).ends live rfl

theorem served {request : RemoteBufferRequest} {result : BufferResult} {reads : Entropy} (limited : Limited nowMs store)
    (served : Served store guard proof sessionId nowMs reads request result later guard')
    (room : ∀ leaseId incarnation reservationId size flags, request = .alloc leaseId incarnation reservationId size flags →
      result.completed = true →
      liveOf store proof.leaseId < maxBuffersPerLease ∧ chargedBytes store + size.toNat ≤ maxRemoteBufferBytes) :
    Limited nowMs later where
  perLease leaseId := by
    have before := limited.perLease leaseId
    rw [liveOf, Table.count_eq_total] at before ⊢
    obtain less | ⟨wire, incarnation, reservationId, size, flags, id, here, completed, more⟩ :=
      (Fades.live leaseId).served served
    · exact less.trans before
    · obtain ⟨free, -⟩ := room _ _ _ _ _ here completed
      rw [more]
      split
      next mine =>
        simp only [freshBuffer, Bool.and_eq_true] at mine
        obtain rfl := of_decide_eq_true mine.1
        rw [liveOf, Table.count_eq_total] at free
        omega
      · exact before
  charged := by
    obtain less | ⟨wire, incarnation, reservationId, size, flags, id, here, completed, more⟩ := Fades.charged.served served
    · exact less.trans limited.charged
    · obtain ⟨-, fits⟩ := room _ _ _ _ _ here completed
      rw [chargedBytes, more]
      exact fits
  timed := by
    cases served with
    | refuse fails refused => exact (limited.refused refused).timed
    | refuseAlloc | get | stat | freeAgain => exact limited.timed
    | alloc => exact Table.every_insert limited.timed (.fresh ..)
    | put completed found owned live =>
      exact Table.every_modify limited.timed fun _ _ => (limited.timed _ _ found).written live ..
    | touch completed found owned live =>
      exact Table.every_modify limited.timed fun _ _ => (limited.timed _ _ found).touched live
    | free completed found owned live =>
      exact Table.every_modify limited.timed fun _ _ => (limited.timed _ _ found).ends live rfl

theorem call (limited : Limited lastMs store) (call : StoreCall) (ordered : lastMs ≤ call.nowMs) :
    Limited call.nowMs (call.apply store) := by
  cases call with
  | serve guard proof sessionId request nowMs memory reads =>
    have swept := limited.expireAndPurge guard ordered
    refine swept.served (apply_served store guard proof sessionId request nowMs memory reads) ?_
    rintro leaseId incarnation reservationId size flags rfl completed
    exact alloc_room (swept.charged.trans (by decide)) completed
  | validateComputeInput guard proof sessionId bufferId offset length nowMs =>
    exact (limited.expireAndPurge guard ordered).refused
      (validateComputeInput_refused store guard proof sessionId bufferId offset length nowMs)
  | sessionLost guard sessionId nowMs => exact (limited.expireAndPurge guard ordered).terminalizeWhere _ _ rfl
  | leaseEnded guard leaseId nowMs => exact (limited.expireAndPurge guard ordered).terminalizeWhere _ _ rfl
  | tick guard nowMs => exact limited.expireAndPurge guard ordered

/-- At every reading from the last call on, the limits hold. -/
theorem run (calls : List StoreCall) (ordered : calls.Pairwise fun earlier later => earlier.nowMs ≤ later.nowMs) :
    ∀ nowMs, (∀ call ∈ calls, call.nowMs ≤ nowMs) → Limited nowMs (storeRun calls).store := by
  apply Machine.run_induction (fun calls : List StoreCall => calls.Pairwise fun earlier later => earlier.nowMs ≤ later.nowMs)
    (fun calls (state : ContentRun) => ∀ nowMs, (∀ call ∈ calls, call.nowMs ≤ nowMs) → Limited nowMs state.store)
    _ _ _ calls ordered
  · exact fun calls call ordered => (List.pairwise_append.mp ordered).1
  · exact fun nowMs _ => ⟨fun leaseId => Nat.zero_le _, Nat.zero_le _, fun id record found => by cases found⟩
  · intro calls call state ordered limited nowMs after
    have before : ∀ earlier ∈ calls, earlier.nowMs ≤ call.nowMs := fun earlier member =>
      (List.pairwise_append.mp ordered).2.2 earlier member call (by simp)
    have stepped := (limited call.nowMs before).call call le_rfl
    exact ⟨stepped.perLease, stepped.charged, fun id record found =>
      (stepped.timed id record found).onward (after call (by simp))⟩

end Limited

/-- A buffer that a call finds alive was alive before it and has time left. -/
theorem swept_live {id : Bytes16} (found : (store.expireAndPurge guard nowMs).1.buffers.get? id = some record)
    (live : Live record) : store.buffers.get? id = some record ∧ nowMs < record.expiresMonoMs := by
  refine ⟨expireAndPurge_onlyEnds store guard nowMs id record found live, ?_⟩
  rw [get?_expireAndPurge, Option.filter_eq_some_iff, Option.map_eq_some_iff] at found
  obtain ⟨⟨old, -, same⟩, -⟩ := found
  unfold aged at same
  split at same
  · exact absurd live (same ▸ not_live_ended old rfl nowMs)
  next undue =>
    subst same
    have alive : old.state.isTerminal = false := live
    simpa [alive] using undue

/-- The buffer that a PUT, GET, STAT or TOUCH works on. -/
def worksOn : RemoteBufferRequest → Option Bytes16
  | .put _ _ bufferId _ _ | .get _ _ bufferId _ _ | .stat _ _ bufferId | .touch _ _ bufferId => some bufferId
  | .alloc .. | .free .. => none

theorem stat_live {wireLeaseId id : Bytes16} (completed : (store.stat proof sessionId wireLeaseId id nowMs).completed = true) :
    ∃ record, store.buffers.get? id = some record ∧ Live record := by
  unfold stat at completed
  split at completed
  next refused =>
    rw [liveRecord_error refused] at completed
    cases completed
  next record allowed =>
    obtain ⟨found, -, live⟩ := liveRecord_ok allowed
    exact ⟨record, found, live⟩

theorem served_live {request : RemoteBufferRequest} {result : BufferResult} {reads : Entropy} {id : Bytes16}
    (served : Served store guard proof sessionId nowMs reads request result later guard')
    (stat : ∀ wireLeaseId incarnation id, request = .stat wireLeaseId incarnation id →
      result = store.stat proof sessionId wireLeaseId id nowMs)
    (works : worksOn request = some id) (completed : result.completed = true) :
    ∃ record, store.buffers.get? id = some record ∧ Live record := by
  cases served with
  | refuse fails => exact absurd (fails.symm.trans completed) (by simp)
  | refuseAlloc | alloc | free | freeAgain => cases works
  | put _ found owned live | touch _ found owned live =>
    cases works
    exact ⟨_, found, live⟩
  | get _ found owned ready =>
    cases works
    exact ⟨_, found, by rw [Live, ready]; rfl⟩
  | stat =>
    cases works
    rw [stat _ _ _ rfl] at completed
    exact stat_live completed

/-- A PUT, GET, STAT or TOUCH that completes found its buffer before the expiry. -/
theorem apply_live {request : RemoteBufferRequest} {memory : Nat → Bool} {reads : Entropy} {id : Bytes16}
    (works : worksOn request = some id)
    (completed : (store.apply guard proof sessionId request nowMs memory reads).1.2.completed = true) :
    ∃ record, store.buffers.get? id = some record ∧ Live record ∧ nowMs < record.expiresMonoMs := by
  have served := apply_served store guard proof sessionId request nowMs memory reads
  obtain ⟨record, found, live⟩ := served_live served (by rintro _ _ _ rfl; rfl) works completed
  obtain ⟨before, early⟩ := swept_live found live
  exact ⟨record, before, live, early⟩

theorem validateComputeInput_live {id : Bytes16} {offset length : Nat}
    (validated : (store.validateComputeInput guard proof sessionId id offset length nowMs).1 = .ok ()) :
    ∃ record, store.buffers.get? id = some record ∧ Live record ∧ nowMs < record.expiresMonoMs := by
  unfold validateComputeInput at validated
  dsimp only at validated
  split at validated
  · cases validated
  next record found =>
    split at validated
    · cases validated
    · split at validated
      · cases validated
      · split at validated
        · split at validated <;> cases validated
        · cases state : record.state with
          | allocated | inUse | evicted | lost | freed =>
            rw [state] at validated
            cases validated
          | ready =>
            have live : Live record := by rw [Live, state]; rfl
            obtain ⟨before, early⟩ := swept_live found live
            exact ⟨record, before, live, early⟩

/-- A TOUCH that completes gives the buffer a new expiry, not before the old one. -/
theorem apply_touch (limited : Limited nowMs store) {leaseId incarnation id : Bytes16} {memory : Nat → Bool}
    {reads : Entropy}
    (completed : (store.apply guard proof sessionId (.touch leaseId incarnation id) nowMs memory reads).1.2.completed =
      true) :
    ∃ record, store.buffers.get? id = some record ∧ Live record ∧
      (store.apply guard proof sessionId (.touch leaseId incarnation id) nowMs memory reads).2.1.buffers.get? id =
        some (touched record nowMs) ∧
      record.expiresMonoMs ≤ (touched record nowMs).expiresMonoMs := by
  have served := apply_served store guard proof sessionId (.touch leaseId incarnation id) nowMs memory reads
  generalize (store.apply guard proof sessionId (.touch leaseId incarnation id) nowMs memory reads).2.1 = after at served ⊢
  generalize (store.apply guard proof sessionId (.touch leaseId incarnation id) nowMs memory reads).2.2 = left at served
  generalize (store.apply guard proof sessionId (.touch leaseId incarnation id) nowMs memory reads).1.2 = result
    at served completed
  cases served with
  | refuse fails => exact absurd (fails.symm.trans completed) (by simp)
  | @touch _ _ _ _ record _ found owned live =>
    obtain ⟨before, -⟩ := swept_live found live
    have timed := limited.timed id record before
    refine ⟨record, before, live, ?_, ?_⟩
    · rw [get?_writeBack found, if_pos rfl]
    · exact Nat.le_min.mpr ⟨timed.recent live, timed.lifetime live⟩

/-- After any run with a clock that does not go back: a lease has at most eight
live buffers, the charged bytes fit 128 MiB, and a live buffer ends within thirty
minutes of its creation; an ended one carries the moment of its end. At every
later reading a completed TOUCH moves the expiry to five minutes from now, capped
by the thirty minutes and never back; no PUT, GET, STAT or TOUCH succeeds on a
buffer at or after its expiry, nor does the check of its input with which a SUBMIT
begins. -/
theorem buffer_limits (calls : List StoreCall) (ordered : calls.Pairwise fun earlier later => earlier.nowMs ≤ later.nowMs)
    (nowMs : Nat) (after : ∀ call ∈ calls, call.nowMs ≤ nowMs) :
    let store := (storeRun calls).store
    (∀ leaseId, store.buffers.count (fun _ record =>
      record.ownerControllerLeaseId = leaseId && !record.state.isTerminal) ≤ 8) ∧
    (store.buffers.total fun _ record => if record.budgetReleased then 0 else record.sizeBytes) ≤ 128 * 1024 * 1024 ∧
    (∀ id record, store.buffers.get? id = some record →
      (Live record → record.expiresMonoMs ≤ record.createdMonoMs + 1800000) ∧
      (¬ Live record → record.terminalMonoMs = some record.expiresMonoMs)) ∧
    (∀ guard proof sessionId leaseId incarnation id memory reads,
      (store.apply guard proof sessionId (.touch leaseId incarnation id) nowMs memory reads).1.2.completed = true →
      ∃ record touched, store.buffers.get? id = some record ∧
        (store.apply guard proof sessionId (.touch leaseId incarnation id) nowMs memory reads).2.1.buffers.get? id =
          some touched ∧
        touched.expiresMonoMs = min (saturatingAdd nowMs 300000) (saturatingAdd record.createdMonoMs 1800000) ∧
        record.expiresMonoMs ≤ touched.expiresMonoMs) ∧
    (∀ guard proof sessionId request memory reads id record, worksOn request = some id →
      store.buffers.get? id = some record → record.expiresMonoMs ≤ nowMs →
      (store.apply guard proof sessionId request nowMs memory reads).1.2.completed = false) ∧
    (∀ guard proof sessionId id offset length record, store.buffers.get? id = some record →
      record.expiresMonoMs ≤ nowMs →
      (store.validateComputeInput guard proof sessionId id offset length nowMs).1 ≠ .ok ()) := by
  intro store
  have limited := Limited.run calls ordered nowMs after
  refine ⟨limited.perLease, limited.charged, ?_, ?_, ?_, ?_⟩
  · intro id record found
    have timed := limited.timed id record found
    exact ⟨fun live => (timed.lifetime live).trans (saturatingAdd_le _ _), timed.ended⟩
  · intro guard proof sessionId leaseId incarnation id memory reads completed
    obtain ⟨record, found, -, stored, grows⟩ := apply_touch limited completed
    exact ⟨record, _, found, stored, rfl, grows⟩
  · intro guard proof sessionId request memory reads id record works found elapsed
    by_contra completed
    obtain ⟨record', found', -, early⟩ := apply_live works (Bool.eq_true_of_not_eq_false completed)
    rw [found, Option.some.injEq] at found'
    subst found'
    omega
  · intro guard proof sessionId id offset length record found elapsed validated
    obtain ⟨record', found', -, early⟩ := validateComputeInput_live validated
    rw [found, Option.some.injEq] at found'
    subst found'
    omega

/-- The guard of a worker with a committed reservation of four bytes. -/
def committedGuard : ResourceGuard := (coreRun nullHasher bootedCore (allocationCalls.take 5)).core.resourceGuard

theorem noFlags_known : (0 : UInt32) &&& ~~~7 = 0 := by decide

/-- The allocation of the reserved bytes. -/
def allocatedBuffer : List StoreCall := [
  .serve committedGuard ⟨⟨filled 1⟩, ⟨filled 9⟩, somePeer⟩ (.fromVerified ⟨filled 5⟩)
    (.alloc (filled 1) (filled 9) (filled 2) 4 ⟨0, noFlags_known⟩) 10002 (fun _ => true) [some (filled 3)]]

theorem buffer_limits_allocated :
    ∃ record touched, (storeRun allocatedBuffer).store.buffers.get? (filled 3) = some record ∧
      record.expiresMonoMs = 310002 ∧
      ((storeRun allocatedBuffer).store.apply committedGuard ⟨⟨filled 1⟩, ⟨filled 9⟩, somePeer⟩ (.fromVerified ⟨filled 5⟩)
        (.touch (filled 1) (filled 9) (filled 3)) 20000 (fun _ => true) []).2.1.buffers.get? (filled 3) = some touched ∧
      touched.expiresMonoMs = 320000 := by
  have limits := buffer_limits allocatedBuffer (List.pairwise_singleton _ _) 20000 (by decide)
  have completed : ((storeRun allocatedBuffer).store.apply committedGuard ⟨⟨filled 1⟩, ⟨filled 9⟩, somePeer⟩
      (.fromVerified ⟨filled 5⟩) (.touch (filled 1) (filled 9) (filled 3)) 20000 (fun _ => true) []).1.2.completed =
      true := by decide +kernel
  obtain ⟨record, touched, found, stored, expiry, -⟩ := limits.2.2.2.1 _ _ _ _ _ _ _ _ completed
  have fields : ((storeRun allocatedBuffer).store.buffers.get? (filled 3)).map
      (fun record => (record.expiresMonoMs, record.createdMonoMs)) = some (310002, 10002) := by decide +kernel
  rw [found, Option.map_some, Option.some.injEq, Prod.mk.injEq] at fields
  refine ⟨record, touched, found, fields.1, stored, ?_⟩
  rw [expiry, fields.2]
  decide

/-- A buffer that ends late carries an expiry beyond the thirty minutes. -/
theorem ended_buffer_expiry :
    let calls := allocatedBuffer ++ [.tick committedGuard 2000000]
    (calls.map StoreCall.nowMs).Pairwise (· ≤ ·) ∧
    ((storeRun calls).store.buffers.get? (filled 3)).map
      (fun record => (record.state, record.createdMonoMs, record.expiresMonoMs)) = some (.evicted, 10002, 2000000) ∧
    10002 + 1800000 < 2000000 := by
  refine ⟨by decide, ?_, by decide⟩
  decide +kernel

end PhoneBoost.Worker.Proofs
