import PhoneBoost.Proofs.GuardSteps
import PhoneBoost.Worker.RemoteBuffer

/-! What one request can do to the buffer store and the guard. Every later
result about buffers splits on these cases and never unfolds an operation. -/

namespace PhoneBoost.Worker.Proofs
open Keyed RemoteBufferStore
open Pbmux (AllocationFlags BufferResult BufferState RemoteBufferRequest)

variable {store : RemoteBufferStore} {guard : ResourceGuard} {proof : LeaseProof} {sessionId : SessionBinding}
  {nowMs : Nat}

def Live (record : BufferRecord) : Prop := record.state.isTerminal = false

instance (record : BufferRecord) : Decidable (Live record) := inferInstanceAs (Decidable (_ = _))

theorem get?_terminalizeWhere (store : RemoteBufferStore) (guard : ResourceGuard) (test : BufferRecord → Bool)
    (state : BufferState) (nowMs : Nat) (id : Bytes16) :
    (store.terminalizeWhere guard test state nowMs).1.buffers.get? id =
      (store.buffers.get? id).map fun record =>
        if test record && !record.state.isTerminal then ended record state nowMs else record := by
  apply Table.get?_sweep
  intro guard record
  split <;> rfl

/-- The record of a buffer whose lifetime has run out, or the record itself. -/
def aged (record : BufferRecord) (nowMs : Nat) : BufferRecord :=
  if record.expiresMonoMs ≤ nowMs && !record.state.isTerminal then ended record .evicted nowMs else record

def kept (record : BufferRecord) (nowMs : Nat) : Bool :=
  record.terminalMonoMs.all fun terminal => nowMs - terminal ≤ tombstoneRetentionMs

theorem get?_expireAndPurge (store : RemoteBufferStore) (guard : ResourceGuard) (nowMs : Nat) (id : Bytes16) :
    (store.expireAndPurge guard nowMs).1.buffers.get? id =
      ((store.buffers.get? id).map (aged · nowMs)).filter (kept · nowMs) := by
  simp only [expireAndPurge, Table.get?_retain]
  congr 1
  rw [get?_terminalizeWhere]
  simp only [aged, decide_eq_true_eq, Bool.and_eq_true]

/-- A request that fails changes nothing, except that a live buffer of another
session is lost when PUT or GET names it. -/
inductive Refused (store : RemoteBufferStore) (guard : ResourceGuard) (sessionId : SessionBinding) (nowMs : Nat) :
    RemoteBufferStore → ResourceGuard → Prop where
  | keep : Refused store guard sessionId nowMs store guard
  | lose {id record} (found : store.buffers.get? id = some record) (foreign : record.sessionId ≠ sessionId)
      (live : Live record) :
      Refused store guard sessionId nowMs (store.writeBack id (ended record .lost nowMs))
        (terminalize record guard .lost nowMs).2

theorem writeBack_self {id : Bytes16} {record : BufferRecord} (found : store.buffers.get? id = some record) :
    store.writeBack id record = store :=
  congrArg RemoteBufferStore.mk (Table.modify_self found)

theorem authorizedRecordMut_cases (store : RemoteBufferStore) (guard : ResourceGuard) (proof : LeaseProof)
    (sessionId : SessionBinding) (id : Bytes16) (nowMs : Nat) :
    (∃ record, store.buffers.get? id = some record ∧ owns record proof sessionId = true ∧
      store.authorizedRecordMut guard proof sessionId id nowMs = (some record, store, guard)) ∨
    ∃ store' guard', Refused store guard sessionId nowMs store' guard' ∧
      store.authorizedRecordMut guard proof sessionId id nowMs = (none, store', guard') := by
  unfold authorizedRecordMut
  split
  next => exact .inr ⟨store, guard, .keep, rfl⟩
  next record found =>
    by_cases foreign : (record.sessionId ≠ sessionId && !record.state.isTerminal) = true
    · rw [if_pos foreign]
      simp only [Bool.and_eq_true, decide_eq_true_eq, Bool.not_eq_true'] at foreign
      have unowned : owns (ended record .lost nowMs) proof sessionId = false := by simp [owns, ended, foreign.1]
      refine .inr ⟨_, _, .lose found foreign.1 foreign.2, ?_⟩
      simp [terminalize, unowned]
    · rw [if_neg foreign]
      dsimp only
      rw [writeBack_self found]
      by_cases owned : owns record proof sessionId = true
      · exact .inl ⟨record, found, owned, by rw [if_pos owned]⟩
      · exact .inr ⟨store, guard, .keep, by rw [if_neg owned]⟩

theorem authorizationFailure_completed (store : RemoteBufferStore) (proof : LeaseProof) (wireLeaseId id : Bytes16)
    (sessionId : SessionBinding) (nowMs : Nat) :
    (store.authorizationFailure proof wireLeaseId id sessionId nowMs).completed = false := by
  unfold authorizationFailure
  split
  · rfl
  · split
    · rfl
    · split <;> rfl

theorem put_cases (store : RemoteBufferStore) (guard : ResourceGuard) (proof : LeaseProof) (sessionId : SessionBinding)
    (wireLeaseId id : Bytes16) (offset : UInt64) (data : List UInt8) (nowMs : Nat) (memory : Nat → Bool) :
    (∃ result store' guard', result.completed = false ∧ Refused store guard sessionId nowMs store' guard' ∧
      store.put guard proof sessionId wireLeaseId id offset data nowMs memory = (result, store', guard')) ∨
    ∃ result record, result.completed = true ∧ store.buffers.get? id = some record ∧
      owns record proof sessionId = true ∧ Live record ∧ data ≠ [] ∧ offset.toNat + data.length ≤ record.sizeBytes ∧
      store.put guard proof sessionId wireLeaseId id offset data nowMs memory =
        (result, store.writeBack id (written record offset.toNat data), guard) := by
  unfold RemoteBufferStore.put
  rcases authorizedRecordMut_cases store guard proof sessionId id nowMs with
    ⟨record, found, owned, same⟩ | ⟨store', guard', refused, same⟩
  · rw [same]
    dsimp only
    split
    · exact .inl ⟨_, store, guard, rfl, .keep, rfl⟩
    next live =>
      split
      · exact .inl ⟨_, store, guard, rfl, .keep, rfl⟩
      next last sum =>
        split
        · exact .inl ⟨_, store, guard, rfl, .keep, rfl⟩
        next inside =>
          split
          · exact .inl ⟨_, store, guard, rfl, .keep, rfl⟩
          · simp only [Bool.or_eq_true, List.isEmpty_iff, decide_eq_true_eq, not_or, Nat.not_lt] at inside
            obtain ⟨-, rfl⟩ := checkedAdd_eq_some.mp sum
            exact .inr ⟨_, record, rfl, found, owned, by simpa [Live] using live, inside.1, inside.2, rfl⟩
  · rw [same]
    exact .inl ⟨_, store', guard', authorizationFailure_completed _ _ _ _ _ _, refused, rfl⟩

theorem get_cases (store : RemoteBufferStore) (guard : ResourceGuard) (proof : LeaseProof) (sessionId : SessionBinding)
    (wireLeaseId id : Bytes16) (offset : UInt64) (length : UInt32) (nowMs : Nat) (memory : Nat → Bool) :
    (∃ result store' guard', result.completed = false ∧ Refused store guard sessionId nowMs store' guard' ∧
      store.get guard proof sessionId wireLeaseId id offset length nowMs memory = (result, store', guard')) ∨
    ∃ result record, result.completed = true ∧ store.buffers.get? id = some record ∧
      owns record proof sessionId = true ∧ record.state = .ready ∧ offset.toNat + length.toNat ≤ record.sizeBytes ∧
      result.data = ((record.backing.getD []).drop offset.toNat).take length.toNat ∧
      store.get guard proof sessionId wireLeaseId id offset length nowMs memory = (result, store, guard) := by
  unfold RemoteBufferStore.get
  rcases authorizedRecordMut_cases store guard proof sessionId id nowMs with
    ⟨record, found, owned, same⟩ | ⟨store', guard', refused, same⟩
  · rw [same]
    dsimp only
    split
    · exact .inl ⟨_, store, guard, rfl, .keep, rfl⟩
    · split
      · exact .inl ⟨_, store, guard, rfl, .keep, rfl⟩
      next ready =>
        split
        · exact .inl ⟨_, store, guard, rfl, .keep, rfl⟩
        · split
          · exact .inl ⟨_, store, guard, rfl, .keep, rfl⟩
          next last sum =>
            split
            · exact .inl ⟨_, store, guard, rfl, .keep, rfl⟩
            next inside =>
              split
              · exact .inl ⟨_, store, guard, rfl, .keep, rfl⟩
              · obtain ⟨-, rfl⟩ := checkedAdd_eq_some.mp sum
                exact .inr ⟨_, record, rfl, found, owned, not_not.mp ready, Nat.not_lt.mp inside, rfl, rfl⟩
  · rw [same]
    exact .inl ⟨_, store', guard', authorizationFailure_completed _ _ _ _ _ _, refused, rfl⟩

theorem liveRecord_ok {wireLeaseId id : Bytes16} {record : BufferRecord}
    (allowed : store.liveRecord proof sessionId wireLeaseId id nowMs = .ok record) :
    store.buffers.get? id = some record ∧ owns record proof sessionId = true ∧ Live record := by
  unfold liveRecord at allowed
  split at allowed
  · cases allowed
  next found =>
    split_ifs at allowed with foreign terminal other
    cases allowed
    simp only [Bool.not_eq_true, Bool.not_eq_false'] at foreign
    exact ⟨found, by simpa [owns, foreign] using other, by simpa [Live] using terminal⟩

theorem liveRecord_error {wireLeaseId id : Bytes16} {result : BufferResult}
    (refused : store.liveRecord proof sessionId wireLeaseId id nowMs = .error result) : result.completed = false := by
  unfold liveRecord at refused
  split at refused
  · cases refused
    rfl
  · split_ifs at refused <;> cases refused <;> rfl

theorem touch_cases (store : RemoteBufferStore) (proof : LeaseProof) (sessionId : SessionBinding)
    (wireLeaseId id : Bytes16) (nowMs : Nat) :
    (∃ result, result.completed = false ∧ store.touch proof sessionId wireLeaseId id nowMs = (result, store)) ∨
    ∃ result record, result.completed = true ∧ store.buffers.get? id = some record ∧
      owns record proof sessionId = true ∧ Live record ∧
      store.touch proof sessionId wireLeaseId id nowMs = (result, store.writeBack id (touched record nowMs)) := by
  unfold touch
  split
  next result refused => exact .inl ⟨result, liveRecord_error refused, rfl⟩
  next record allowed =>
    obtain ⟨found, owned, live⟩ := liveRecord_ok allowed
    exact .inr ⟨_, record, rfl, found, owned, live, rfl⟩

theorem free_cases (store : RemoteBufferStore) (guard : ResourceGuard) (proof : LeaseProof) (sessionId : SessionBinding)
    (wireLeaseId id : Bytes16) (nowMs : Nat) :
    (∃ result, store.free guard proof sessionId wireLeaseId id nowMs = (result, store, guard)) ∨
    ∃ result record, result.completed = true ∧ store.buffers.get? id = some record ∧
      owns record proof sessionId = true ∧ Live record ∧
      store.free guard proof sessionId wireLeaseId id nowMs =
        (result, store.writeBack id (ended record .freed nowMs), (terminalize record guard .freed nowMs).2) := by
  unfold free
  split
  · exact .inl ⟨_, rfl⟩
  next record found =>
    split_ifs with foreign freed terminal other
    · exact .inl ⟨_, rfl⟩
    · exact .inl ⟨_, rfl⟩
    · exact .inl ⟨_, rfl⟩
    · exact .inl ⟨_, rfl⟩
    · simp only [Bool.not_eq_true, Bool.not_eq_false'] at foreign
      exact .inr ⟨_, record, rfl, found, by simpa [owns, foreign] using other, by simpa [Live] using terminal, rfl⟩

/-- The record that a completed ALLOC inserts. -/
def freshBuffer (id : Bytes16) (proof : LeaseProof) (sessionId : SessionBinding) (reservationId : ReservationId)
    (size : Nat) (flags : AllocationFlags) (nowMs : Nat) : BufferRecord where
  bufferId := id
  ownerPeerId := proof.peerId
  ownerControllerLeaseId := proof.leaseId
  workerIncarnationId := proof.incarnation
  sessionId
  reservationId
  sizeBytes := size
  state := .allocated
  createdMonoMs := nowMs
  expiresMonoMs := saturatingAdd nowMs defaultBufferTtlMs
  lastTouchMonoMs := nowMs
  allocationFlags := flags
  initializedRanges := []
  backing := some (List.replicate size 0)
  budgetReleased := false
  terminalMonoMs := none

theorem stageBuffer_some {size : Nat} {memory : Nat → Bool} {reads : Entropy} {staged : StagedBuffer}
    (staging : store.stageBuffer size memory reads = some staged) :
    store.buffers.get? staged.bufferId = none ∧ staged.bufferId ∈ drawn reads ∧
      staged.backing = List.replicate size 0 := by
  unfold stageBuffer at staging
  split at staging
  · obtain ⟨id, drew, rfl⟩ := Option.map_eq_some_iff.mp staging
    obtain ⟨free, _, member⟩ := drawUnused_drawn drew
    exact ⟨by simpa using free, member, rfl⟩
  · cases staging

theorem consumeForBuffer_cases (guard : ResourceGuard) (proof : LeaseProof) (reservationId : ReservationId)
    (size nowMs : Nat) :
    (∃ error, guard.consumeForBuffer proof reservationId size nowMs = (.error error, scanned proof nowMs 2 guard)) ∨
    ∃ reservation, (scanned proof nowMs 2 guard).reservations.get? reservationId = some reservation ∧
      reservation.state = .committed ∧ reservation.leaseId = proof.leaseId ∧
      reservation.resourceClass = .remoteBufferBytes ∧ reservation.bytes = size ∧
      guard.consumeForBuffer proof reservationId size nowMs =
        (.ok (), handedOver (scanned proof nowMs 2 guard) reservationId) := by
  rcases consume_cases (guard.expireAndPurge nowMs proof.leaseId proof.incarnation) proof reservationId .remoteBufferBytes
      (some size) nowMs with failed | ⟨reservation, found, state, lease, sameClass, bytes, same⟩
  · exact .inl failed
  · exact .inr ⟨reservation, found, state, lease, sameClass, bytes size rfl, same⟩

theorem alloc_cases (store : RemoteBufferStore) (guard : ResourceGuard) (proof : LeaseProof) (sessionId : SessionBinding)
    (wireLeaseId wireReservationId : Bytes16) (sizeBytes : UInt64) (flags : AllocationFlags) (nowMs : Nat)
    (memory : Nat → Bool) (reads : Entropy) :
    (∃ result scans, result.completed = false ∧
      store.alloc guard proof sessionId wireLeaseId wireReservationId sizeBytes flags nowMs memory reads =
        (result, store, scanned proof nowMs scans guard)) ∨
    ∃ result id reservation,
      store.alloc guard proof sessionId wireLeaseId wireReservationId sizeBytes flags nowMs memory reads =
        (result,
          ⟨store.buffers.insert id (freshBuffer id proof sessionId ⟨wireReservationId⟩ sizeBytes.toNat flags nowMs)⟩,
          handedOver (scanned proof nowMs 3 guard) ⟨wireReservationId⟩) ∧
      result.completed = true ∧ result.buffer.map (·.bufferId) = some id ∧
      store.buffers.get? id = none ∧ id ∈ drawn reads ∧ 0 < sizeBytes.toNat ∧
      (scanned proof nowMs 3 guard).reservations.get? ⟨wireReservationId⟩ = some reservation ∧
      reservation.state = .committed ∧ reservation.leaseId = proof.leaseId ∧
      reservation.resourceClass = .remoteBufferBytes ∧ reservation.bytes = sizeBytes.toNat := by
  have snapshotGuard := reservationSnapshot_guard guard proof ⟨wireReservationId⟩ nowMs
  unfold alloc
  dsimp only
  split
  · exact .inl ⟨_, 0, rfl, rfl⟩
  next sized =>
    split
    · exact .inl ⟨_, 0, rfl, rfl⟩
    · split
      next swept snapshot =>
        rw [snapshot] at snapshotGuard
        dsimp only at snapshotGuard
        subst snapshotGuard
        exact .inl ⟨_, 1, rfl, rfl⟩
      next taken swept snapshot =>
        rw [snapshot] at snapshotGuard
        dsimp only at snapshotGuard
        subst snapshotGuard
        split
        · exact .inl ⟨_, 1, rfl, rfl⟩
        · split
          · exact .inl ⟨_, 1, rfl, rfl⟩
          next staged stage =>
            obtain ⟨absent, member, zeros⟩ := stageBuffer_some stage
            rcases consumeForBuffer_cases (guard.expireAndPurge nowMs proof.leaseId proof.incarnation) proof
                ⟨wireReservationId⟩ sizeBytes.toNat nowMs with
              ⟨error, same⟩ | ⟨reservation, found, state, lease, sameClass, bytes, same⟩
            · rw [same]
              exact .inl ⟨_, 3, rfl, rfl⟩
            · rw [same]
              simp only [Bool.or_eq_true, decide_eq_true_eq, not_or] at sized
              obtain ⟨id, _⟩ := staged
              dsimp only at absent member zeros
              subst zeros
              exact .inr ⟨_, id, reservation, rfl, rfl, rfl, absent, member, Nat.pos_of_ne_zero sized.1, found,
                state, lease, sameClass, bytes⟩

/-- How a request is answered, with the store and guard that it leaves behind. -/
inductive Served (store : RemoteBufferStore) (guard : ResourceGuard) (proof : LeaseProof) (sessionId : SessionBinding)
    (nowMs : Nat) (reads : Entropy) : RemoteBufferRequest → BufferResult → RemoteBufferStore → ResourceGuard → Prop where
  | refuse {request result store' guard'} (fails : result.completed = false)
      (refused : Refused store guard sessionId nowMs store' guard') :
      Served store guard proof sessionId nowMs reads request result store' guard'
  | refuseAlloc {leaseId incarnation reservationId size flags result} (scans : Nat) (fails : result.completed = false) :
      Served store guard proof sessionId nowMs reads (.alloc leaseId incarnation reservationId size flags) result store
        (scanned proof nowMs scans guard)
  | alloc {leaseId incarnation reservationId size flags result id reservation} (completed : result.completed = true)
      (named : result.buffer.map (·.bufferId) = some id) (absent : store.buffers.get? id = none)
      (member : id ∈ drawn reads) (positive : 0 < size.toNat)
      (found : (scanned proof nowMs 3 guard).reservations.get? ⟨reservationId⟩ = some reservation)
      (state : reservation.state = .committed) (lease : reservation.leaseId = proof.leaseId)
      (sameClass : reservation.resourceClass = .remoteBufferBytes) (bytes : reservation.bytes = size.toNat) :
      Served store guard proof sessionId nowMs reads (.alloc leaseId incarnation reservationId size flags) result
        ⟨store.buffers.insert id (freshBuffer id proof sessionId ⟨reservationId⟩ size.toNat flags nowMs)⟩
        (handedOver (scanned proof nowMs 3 guard) ⟨reservationId⟩)
  | put {leaseId incarnation id offset data result record} (completed : result.completed = true)
      (found : store.buffers.get? id = some record) (owned : owns record proof sessionId = true) (live : Live record)
      (nonempty : data ≠ []) (inside : offset.toNat + data.length ≤ record.sizeBytes) :
      Served store guard proof sessionId nowMs reads (.put leaseId incarnation id offset data) result
        (store.writeBack id (written record offset.toNat data)) guard
  | get {leaseId incarnation id offset length result record} (completed : result.completed = true)
      (found : store.buffers.get? id = some record) (owned : owns record proof sessionId = true)
      (ready : record.state = .ready) (inside : offset.toNat + length.toNat ≤ record.sizeBytes)
      (bytes : result.data = ((record.backing.getD []).drop offset.toNat).take length.toNat) :
      Served store guard proof sessionId nowMs reads (.get leaseId incarnation id offset length) result store guard
  | stat {leaseId incarnation id result} (completed : result.completed = true) :
      Served store guard proof sessionId nowMs reads (.stat leaseId incarnation id) result store guard
  | touch {leaseId incarnation id result record} (completed : result.completed = true)
      (found : store.buffers.get? id = some record) (owned : owns record proof sessionId = true) (live : Live record) :
      Served store guard proof sessionId nowMs reads (.touch leaseId incarnation id) result
        (store.writeBack id (touched record nowMs)) guard
  | free {leaseId incarnation id result record} (completed : result.completed = true)
      (found : store.buffers.get? id = some record) (owned : owns record proof sessionId = true) (live : Live record) :
      Served store guard proof sessionId nowMs reads (.free leaseId incarnation id) result
        (store.writeBack id (ended record .freed nowMs)) (terminalize record guard .freed nowMs).2
  | freeAgain {leaseId incarnation id result} (completed : result.completed = true) :
      Served store guard proof sessionId nowMs reads (.free leaseId incarnation id) result store guard

theorem apply_served (store : RemoteBufferStore) (guard : ResourceGuard) (proof : LeaseProof) (sessionId : SessionBinding)
    (request : RemoteBufferRequest) (nowMs : Nat) (memory : Nat → Bool) (reads : Entropy) :
    Served (store.expireAndPurge guard nowMs).1 (store.expireAndPurge guard nowMs).2 proof sessionId nowMs reads request
      (store.apply guard proof sessionId request nowMs memory reads).1.2
      (store.apply guard proof sessionId request nowMs memory reads).2.1
      (store.apply guard proof sessionId request nowMs memory reads).2.2 := by
  unfold RemoteBufferStore.apply
  generalize store.expireAndPurge guard nowMs = swept
  obtain ⟨store, guard⟩ := swept
  cases request with
  | alloc leaseId incarnation reservationId size flags =>
    rcases alloc_cases store guard proof sessionId leaseId reservationId size flags nowMs memory reads with
      ⟨result, scans, fails, same⟩ |
      ⟨result, id, reservation, same, completed, named, absent, member, positive, found, state, lease, sameClass, bytes⟩
    · simp only [same]
      exact .refuseAlloc scans fails
    · simp only [same]
      exact .alloc completed named absent member positive found state lease sameClass bytes
  | put leaseId incarnation id offset data =>
    rcases put_cases store guard proof sessionId leaseId id offset data nowMs memory with
      ⟨result, store', guard', fails, refused, same⟩ | ⟨result, record, completed, found, owned, live, nonempty, inside, same⟩
    · simp only [same]
      exact .refuse fails refused
    · simp only [same]
      exact .put completed found owned live nonempty inside
  | get leaseId incarnation id offset length =>
    rcases get_cases store guard proof sessionId leaseId id offset length nowMs memory with
      ⟨result, store', guard', fails, refused, same⟩ | ⟨result, record, completed, found, owned, ready, inside, bytes, same⟩
    · simp only [same]
      exact .refuse fails refused
    · simp only [same]
      exact .get completed found owned ready inside bytes
  | free leaseId incarnation id =>
    rcases free_cases store guard proof sessionId leaseId id nowMs with
      ⟨result, same⟩ | ⟨result, record, completed, found, owned, live, same⟩
    · simp only [same]
      cases completed : result.completed with
      | false => exact .refuse completed .keep
      | true => exact .freeAgain completed
    · simp only [same]
      exact .free completed found owned live
  | stat leaseId incarnation id =>
    cases completed : (store.stat proof sessionId leaseId id nowMs).completed with
    | false => exact .refuse completed .keep
    | true => exact .stat completed
  | touch leaseId incarnation id =>
    rcases touch_cases store proof sessionId leaseId id nowMs with
      ⟨result, fails, same⟩ | ⟨result, record, completed, found, owned, live, same⟩
    · simp only [same]
      exact .refuse fails .keep
    · simp only [same]
      exact .touch completed found owned live

theorem validateComputeInput_refused (store : RemoteBufferStore) (guard : ResourceGuard) (proof : LeaseProof)
    (sessionId : SessionBinding) (id : Bytes16) (offset length nowMs : Nat) :
    Refused (store.expireAndPurge guard nowMs).1 (store.expireAndPurge guard nowMs).2 sessionId nowMs
      (store.validateComputeInput guard proof sessionId id offset length nowMs).2.1
      (store.validateComputeInput guard proof sessionId id offset length nowMs).2.2 := by
  unfold validateComputeInput
  generalize store.expireAndPurge guard nowMs = swept
  obtain ⟨store, guard⟩ := swept
  dsimp only
  split
  · exact .keep
  next record found =>
    split
    · exact .keep
    · split
      · exact .keep
      · split
        next foreign =>
          split
          next live => exact .lose found foreign (by simpa [Live] using live)
          next => exact .keep
        next =>
          cases record.state with
          | allocated | inUse | evicted | lost | freed => exact .keep
          | ready =>
            dsimp only
            split
            · exact .keep
            · split
              · exact .keep
              · split <;> exact .keep

end PhoneBoost.Worker.Proofs
