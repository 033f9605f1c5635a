import PhoneBoost.Lib.Ranges
import PhoneBoost.Pbmux.RemoteBuffer
import PhoneBoost.Pbmux.Compute
import PhoneBoost.Worker.ResourceGuard

/-! The remote buffer store. Operations that end a buffer also return its bytes
to the guard, so the guard is threaded through them. `memory` answers whether
the allocator grants a reservation of the given length during the call. -/

namespace PhoneBoost.Worker
open Keyed
open Pbmux (AllocationFlags BufferReason BufferResult BufferResultRef BufferState ComputeReason RemoteBufferRequest
  RemoteBufferResponseKind maxComputeInputBytes maxDataBody)

def maxRemoteBufferBytes : Nat := 128 * 1024 * 1024
def maxBuffersPerLease : Nat := 8
def defaultBufferTtlMs : Nat := 300000
def maxBufferLifetimeMs : Nat := 1800000
def tombstoneRetentionMs : Nat := 300000

inductive SessionBinding where
  | production (sessionId : VerifiedSessionId)
deriving DecidableEq, Repr

def SessionBinding.fromVerified (sessionId : VerifiedSessionId) : SessionBinding := .production sessionId

structure BufferRecord where
  bufferId : Bytes16
  ownerPeerId : PeerId
  ownerControllerLeaseId : LeaseId
  workerIncarnationId : WorkerIncarnationId
  sessionId : SessionBinding
  reservationId : ReservationId
  sizeBytes : Nat
  state : BufferState
  createdMonoMs : Nat
  expiresMonoMs : Nat
  lastTouchMonoMs : Nat
  allocationFlags : AllocationFlags
  initializedRanges : List (Nat × Nat)
  backing : Option (List UInt8)
  budgetReleased : Bool
  terminalMonoMs : Option Nat
deriving DecidableEq, Repr

structure StagedBuffer where
  bufferId : Bytes16
  backing : List UInt8
deriving DecidableEq, Repr

structure RemoteBufferStore where
  buffers : Table Bytes16 BufferRecord
deriving DecidableEq

/-- The sort of the source is unstable. Ranges with one start merge into the
same range in either order, so the stable sort stands for it. -/
def mergeRange (ranges : List (Nat × Nat)) (newRange : Nat × Nat) : List (Nat × Nat) :=
  match (ranges ++ [newRange]).mergeSort fun a b => a.1 ≤ b.1 with
  | [] => []
  | first :: rest => Ranges.coalesce first rest

/-- `backing[start..].copy_from_slice(data)`. -/
def copyInto (backing : List UInt8) (start : Nat) (data : List UInt8) : List UInt8 :=
  backing.take start ++ data ++ backing.drop (start + data.length)

namespace RemoteBufferStore

def new : RemoteBufferStore := ⟨.empty⟩

def failed (leaseId : Bytes16) (incarnation : WorkerIncarnationId) (reason : BufferReason)
    (buffer : Option BufferResultRef) : BufferResult where
  completed := false
  reason
  leaseId
  workerIncarnationId := incarnation.bytes
  buffer
  reservationId := none
  offset := 0
  dataLen := 0
  data := []

def resultRef (record : BufferRecord) (nowMs : Nat) : BufferResultRef where
  bufferId := record.bufferId
  state := record.state
  allocationFlags := record.allocationFlags
  sizeBytes := UInt64.ofNat record.sizeBytes
  ttlRemainingMs :=
    if record.state.isTerminal then 0 else UInt32.ofNat (min (record.expiresMonoMs - nowMs) u32Max)

def terminalFailure (wireLeaseId : Bytes16) (incarnation : WorkerIncarnationId) (record : BufferRecord) (nowMs : Nat) :
    BufferResult :=
  let reason : BufferReason :=
    match record.state with
    | .lost => .bufferLost
    | .freed => .bufferFreed
    | .evicted => .bufferEvicted
    | _ => .bufferInvalidState
  failed wireLeaseId incarnation reason (some (resultRef record nowMs))

def sameOwner (record : BufferRecord) (proof : LeaseProof) : Bool :=
  record.ownerPeerId = proof.peerId && record.ownerControllerLeaseId = proof.leaseId
    && record.workerIncarnationId = proof.incarnation

def owns (record : BufferRecord) (proof : LeaseProof) (sessionId : SessionBinding) : Bool :=
  sameOwner record proof && record.sessionId = sessionId

/-- What `terminalize` writes into the record itself. -/
def ended (record : BufferRecord) (state : BufferState) (nowMs : Nat) : BufferRecord :=
  { record with
    backing := none
    initializedRanges := []
    state
    expiresMonoMs := nowMs
    terminalMonoMs := some (record.terminalMonoMs.getD nowMs)
    budgetReleased := true }

def terminalize (record : BufferRecord) (guard : ResourceGuard) (state : BufferState) (nowMs : Nat) :
    BufferRecord × ResourceGuard :=
  (ended record state nowMs,
    if record.budgetReleased then guard
    else guard.releaseConsumedBuffer record.reservationId record.sizeBytes nowMs)

/-- The loop shared by expiry, session loss and lease end. -/
def terminalizeWhere (store : RemoteBufferStore) (guard : ResourceGuard) (test : BufferRecord → Bool)
    (state : BufferState) (nowMs : Nat) : RemoteBufferStore × ResourceGuard :=
  let (buffers, guard) := store.buffers.sweep (fun guard record =>
    if test record && !record.state.isTerminal then terminalize record guard state nowMs else (record, guard)) guard
  (⟨buffers⟩, guard)

def expireAndPurge (store : RemoteBufferStore) (guard : ResourceGuard) (nowMs : Nat) :
    RemoteBufferStore × ResourceGuard :=
  let (store, guard) := store.terminalizeWhere guard (fun record => record.expiresMonoMs ≤ nowMs) .evicted nowMs
  (⟨store.buffers.retain fun _ record =>
    record.terminalMonoMs.all fun terminal => nowMs - terminal ≤ tombstoneRetentionMs⟩, guard)

def sessionLost (store : RemoteBufferStore) (guard : ResourceGuard) (sessionId : SessionBinding) (nowMs : Nat) :
    RemoteBufferStore × ResourceGuard :=
  let (store, guard) := store.expireAndPurge guard nowMs
  store.terminalizeWhere guard (fun record => record.sessionId = sessionId) .lost nowMs

def leaseEnded (store : RemoteBufferStore) (guard : ResourceGuard) (leaseId : LeaseId) (nowMs : Nat) :
    RemoteBufferStore × ResourceGuard :=
  let (store, guard) := store.expireAndPurge guard nowMs
  store.terminalizeWhere guard (fun record => record.ownerControllerLeaseId = leaseId) .evicted nowMs

def tick (store : RemoteBufferStore) (guard : ResourceGuard) (nowMs : Nat) : RemoteBufferStore × ResourceGuard :=
  store.expireAndPurge guard nowMs

/-- Writes back the record that the source holds a mutable reference to. -/
def writeBack (store : RemoteBufferStore) (bufferId : Bytes16) (record : BufferRecord) : RemoteBufferStore :=
  ⟨store.buffers.modify bufferId fun _ => record⟩

def stageBuffer (store : RemoteBufferStore) (sizeBytes : Nat) (memory : Nat → Bool) (reads : Entropy) :
    Option StagedBuffer :=
  if memory sizeBytes then
    (drawUnused (fun id => (store.buffers.get? id).isSome) 8 reads).map
      fun bufferId => ⟨bufferId, List.replicate sizeBytes 0⟩
  else none

def alloc (store : RemoteBufferStore) (guard : ResourceGuard) (proof : LeaseProof) (sessionId : SessionBinding)
    (wireLeaseId wireReservationId : Bytes16) (sizeBytes : UInt64) (allocationFlags : AllocationFlags) (nowMs : Nat)
    (memory : Nat → Bool) (reads : Entropy) : BufferResult × RemoteBufferStore × ResourceGuard :=
  let fail (reason : BufferReason) := failed wireLeaseId proof.incarnation reason none
  let size := sizeBytes.toNat
  if size = 0 || maxRemoteBufferBytes < size then (fail .resourceExhausted, store, guard)
  else
    let activeCount := store.buffers.count fun _ record =>
      record.ownerControllerLeaseId = proof.leaseId && !record.state.isTerminal
    let held := (store.buffers.select fun _ record =>
      if !record.budgetReleased then some record.sizeBytes else none).foldl saturatingAdd 0
    if maxBuffersPerLease ≤ activeCount || (checkedAdd held size).all fun total => maxRemoteBufferBytes < total then
      (fail .resourceExhausted, store, guard)
    else
      let reservationId : ReservationId := ⟨wireReservationId⟩
      match guard.reservationSnapshot proof reservationId nowMs with
      | (none, guard) => (fail .reservationInvalid, store, guard)
      | (some snapshot, guard) =>
        if snapshot.resourceClass ≠ .remoteBufferBytes || snapshot.bytes ≠ size
            || snapshot.wireState ≠ .committed then (fail .reservationInvalid, store, guard)
        else
          match store.stageBuffer size memory reads with
          | none => (fail .resourceExhausted, store, guard)
          | some staged =>
            match guard.consumeForBuffer proof reservationId size nowMs with
            | (.error _, guard) => (fail .reservationInvalid, store, guard)
            | (.ok (), guard) =>
              let record : BufferRecord := {
                bufferId := staged.bufferId
                ownerPeerId := proof.peerId
                ownerControllerLeaseId := proof.leaseId
                workerIncarnationId := proof.incarnation
                sessionId
                reservationId
                sizeBytes := size
                state := .allocated
                createdMonoMs := nowMs
                expiresMonoMs := saturatingAdd nowMs defaultBufferTtlMs
                lastTouchMonoMs := nowMs
                allocationFlags
                initializedRanges := []
                backing := some staged.backing
                budgetReleased := false
                terminalMonoMs := none }
              ({ completed := true
                 reason := .none
                 leaseId := wireLeaseId
                 workerIncarnationId := proof.incarnation.bytes
                 buffer := some {
                   bufferId := staged.bufferId
                   state := .allocated
                   allocationFlags
                   sizeBytes
                   ttlRemainingMs := UInt32.ofNat defaultBufferTtlMs }
                 reservationId := some wireReservationId
                 offset := 0
                 dataLen := 0
                 data := [] }, ⟨store.buffers.insert staged.bufferId record⟩, guard)

def authorizedRecordMut (store : RemoteBufferStore) (guard : ResourceGuard) (proof : LeaseProof)
    (sessionId : SessionBinding) (bufferId : Bytes16) (nowMs : Nat) :
    Option BufferRecord × RemoteBufferStore × ResourceGuard :=
  match store.buffers.get? bufferId with
  | none => (none, store, guard)
  | some record =>
    let (record, guard) :=
      if record.sessionId ≠ sessionId && !record.state.isTerminal then terminalize record guard .lost nowMs
      else (record, guard)
    (if owns record proof sessionId then some record else none, store.writeBack bufferId record, guard)

def authorizationFailure (store : RemoteBufferStore) (proof : LeaseProof) (wireLeaseId bufferId : Bytes16)
    (sessionId : SessionBinding) (nowMs : Nat) : BufferResult :=
  match store.buffers.get? bufferId with
  | none => failed wireLeaseId proof.incarnation .bufferNotFound none
  | some record =>
    if record.ownerPeerId ≠ proof.peerId || record.ownerControllerLeaseId ≠ proof.leaseId then
      failed wireLeaseId proof.incarnation .bufferNotOwned none
    else if record.sessionId ≠ sessionId || record.state = .lost then
      failed wireLeaseId proof.incarnation .bufferLost (some (resultRef record nowMs))
    else failed wireLeaseId proof.incarnation .bufferNotOwned none

/-- The record after a completed write. A live buffer has its backing, so the
missing case stands for a panic that is never reached. -/
def written (record : BufferRecord) (offset : Nat) (data : List UInt8) : BufferRecord :=
  let initializedRanges := mergeRange record.initializedRanges (offset, offset + data.length)
  { record with
    backing := record.backing.map (copyInto · offset data)
    initializedRanges
    state := if initializedRanges = [(0, record.sizeBytes)] then .ready else .allocated }

def put (store : RemoteBufferStore) (guard : ResourceGuard) (proof : LeaseProof) (sessionId : SessionBinding)
    (wireLeaseId bufferId : Bytes16) (offset : UInt64) (data : List UInt8) (nowMs : Nat) (memory : Nat → Bool) :
    BufferResult × RemoteBufferStore × ResourceGuard :=
  match store.authorizedRecordMut guard proof sessionId bufferId nowMs with
  | (none, store, guard) => (store.authorizationFailure proof wireLeaseId bufferId sessionId nowMs, store, guard)
  | (some record, store, guard) =>
    let fail (reason : BufferReason) := failed wireLeaseId proof.incarnation reason (some (resultRef record nowMs))
    if record.state.isTerminal then (terminalFailure wireLeaseId proof.incarnation record nowMs, store, guard)
    else
      match checkedAdd offset.toNat data.length with
      | none => (fail .bufferRangeInvalid, store, guard)
      | some last =>
        if data.isEmpty || record.sizeBytes < last then (fail .bufferRangeInvalid, store, guard)
        else if !memory (record.initializedRanges.length + 1) then (fail .resourceExhausted, store, guard)
        else
          let record := written record offset.toNat data
          ({ completed := true
             reason := .none
             leaseId := wireLeaseId
             workerIncarnationId := proof.incarnation.bytes
             buffer := some (resultRef record nowMs)
             reservationId := none
             offset
             dataLen := UInt32.ofNat data.length
             data := [] }, store.writeBack bufferId record, guard)

def get (store : RemoteBufferStore) (guard : ResourceGuard) (proof : LeaseProof) (sessionId : SessionBinding)
    (wireLeaseId bufferId : Bytes16) (offset : UInt64) (length : UInt32) (nowMs : Nat) (memory : Nat → Bool) :
    BufferResult × RemoteBufferStore × ResourceGuard :=
  match store.authorizedRecordMut guard proof sessionId bufferId nowMs with
  | (none, store, guard) => (store.authorizationFailure proof wireLeaseId bufferId sessionId nowMs, store, guard)
  | (some record, store, guard) =>
    let fail (reason : BufferReason) := failed wireLeaseId proof.incarnation reason (some (resultRef record nowMs))
    if record.state.isTerminal then (terminalFailure wireLeaseId proof.incarnation record nowMs, store, guard)
    else if record.state ≠ .ready then (fail .bufferInvalidState, store, guard)
    else if length = 0 || maxDataBody < length.toNat then
      (fail (if maxDataBody < length.toNat then .payloadTooLarge else .bufferRangeInvalid), store, guard)
    else
      match checkedAdd offset.toNat length.toNat with
      | none => (fail .bufferRangeInvalid, store, guard)
      | some last =>
        if record.sizeBytes < last then (fail .bufferRangeInvalid, store, guard)
        else if !memory length.toNat then (fail .resourceExhausted, store, guard)
        else
          ({ completed := true
             reason := .none
             leaseId := wireLeaseId
             workerIncarnationId := proof.incarnation.bytes
             buffer := some (resultRef record nowMs)
             reservationId := none
             offset
             dataLen := length
             data := ((record.backing.getD []).drop offset.toNat).take length.toNat }, store, guard)

/-- The checks that STAT and TOUCH share before they answer with the record. -/
def liveRecord (store : RemoteBufferStore) (proof : LeaseProof) (sessionId : SessionBinding)
    (wireLeaseId bufferId : Bytes16) (nowMs : Nat) : Except BufferResult BufferRecord :=
  match store.buffers.get? bufferId with
  | none => .error (failed wireLeaseId proof.incarnation .bufferNotFound none)
  | some record =>
    if !sameOwner record proof then .error (failed wireLeaseId proof.incarnation .bufferNotOwned none)
    else if record.state.isTerminal then .error (terminalFailure wireLeaseId proof.incarnation record nowMs)
    else if record.sessionId ≠ sessionId then .error (failed wireLeaseId proof.incarnation .bufferLost none)
    else .ok record

def stat (store : RemoteBufferStore) (proof : LeaseProof) (sessionId : SessionBinding)
    (wireLeaseId bufferId : Bytes16) (nowMs : Nat) : BufferResult :=
  match store.liveRecord proof sessionId wireLeaseId bufferId nowMs with
  | .error result => result
  | .ok record =>
    { completed := true
      reason := .none
      leaseId := wireLeaseId
      workerIncarnationId := proof.incarnation.bytes
      buffer := some (resultRef record nowMs)
      reservationId := some record.reservationId.bytes
      offset := 0
      dataLen := 0
      data := [] }

def touched (record : BufferRecord) (nowMs : Nat) : BufferRecord :=
  { record with
    lastTouchMonoMs := nowMs
    expiresMonoMs :=
      min (saturatingAdd nowMs defaultBufferTtlMs) (saturatingAdd record.createdMonoMs maxBufferLifetimeMs) }

def touch (store : RemoteBufferStore) (proof : LeaseProof) (sessionId : SessionBinding)
    (wireLeaseId bufferId : Bytes16) (nowMs : Nat) : BufferResult × RemoteBufferStore :=
  match store.liveRecord proof sessionId wireLeaseId bufferId nowMs with
  | .error result => (result, store)
  | .ok record =>
    let record := touched record nowMs
    ({ completed := true
       reason := .none
       leaseId := wireLeaseId
       workerIncarnationId := proof.incarnation.bytes
       buffer := some (resultRef record nowMs)
       reservationId := none
       offset := 0
       dataLen := 0
       data := [] }, store.writeBack bufferId record)

def completedFree (wireLeaseId : Bytes16) (incarnation : WorkerIncarnationId) (record : BufferRecord) :
    BufferResult where
  completed := true
  reason := .none
  leaseId := wireLeaseId
  workerIncarnationId := incarnation.bytes
  buffer := some (resultRef record (record.terminalMonoMs.getD 0))
  reservationId := none
  offset := 0
  dataLen := 0
  data := []

/-- Freeing checks the terminal states in its own order: a second FREE of a
freed buffer completes again, from any session of the owner. -/
def free (store : RemoteBufferStore) (guard : ResourceGuard) (proof : LeaseProof) (sessionId : SessionBinding)
    (wireLeaseId bufferId : Bytes16) (nowMs : Nat) : BufferResult × RemoteBufferStore × ResourceGuard :=
  match store.buffers.get? bufferId with
  | none => (failed wireLeaseId proof.incarnation .bufferNotFound none, store, guard)
  | some record =>
    if !sameOwner record proof then (failed wireLeaseId proof.incarnation .bufferNotOwned none, store, guard)
    else if record.state = .freed then (completedFree wireLeaseId proof.incarnation record, store, guard)
    else if record.state.isTerminal then (terminalFailure wireLeaseId proof.incarnation record nowMs, store, guard)
    else if record.sessionId ≠ sessionId then (failed wireLeaseId proof.incarnation .bufferLost none, store, guard)
    else
      let (record, guard) := terminalize record guard .freed nowMs
      (completedFree wireLeaseId proof.incarnation record, store.writeBack bufferId record, guard)

def apply (store : RemoteBufferStore) (guard : ResourceGuard) (proof : LeaseProof) (sessionId : SessionBinding)
    (request : RemoteBufferRequest) (nowMs : Nat) (memory : Nat → Bool) (reads : Entropy) :
    (RemoteBufferResponseKind × BufferResult) × RemoteBufferStore × ResourceGuard :=
  let (store, guard) := store.expireAndPurge guard nowMs
  match request with
  | .alloc leaseId _ reservationId sizeBytes allocationFlags =>
    let (result, store, guard) :=
      store.alloc guard proof sessionId leaseId reservationId sizeBytes allocationFlags nowMs memory reads
    ((.allocAck, result), store, guard)
  | .put leaseId _ bufferId offset data =>
    let (result, store, guard) := store.put guard proof sessionId leaseId bufferId offset data nowMs memory
    ((.put, result), store, guard)
  | .get leaseId _ bufferId offset length =>
    let (result, store, guard) := store.get guard proof sessionId leaseId bufferId offset length nowMs memory
    ((.data, result), store, guard)
  | .free leaseId _ bufferId =>
    let (result, store, guard) := store.free guard proof sessionId leaseId bufferId nowMs
    ((.free, result), store, guard)
  | .stat leaseId _ bufferId => ((.stat, store.stat proof sessionId leaseId bufferId nowMs), store, guard)
  | .touch leaseId _ bufferId =>
    let (result, store) := store.touch proof sessionId leaseId bufferId nowMs
    ((.touch, result), store, guard)

def validateComputeInput (store : RemoteBufferStore) (guard : ResourceGuard) (proof : LeaseProof)
    (sessionId : SessionBinding) (bufferId : Bytes16) (offset length nowMs : Nat) :
    Except ComputeReason Unit × RemoteBufferStore × ResourceGuard :=
  let (store, guard) := store.expireAndPurge guard nowMs
  match store.buffers.get? bufferId with
  | none => (.error .bufferNotFound, store, guard)
  | some record =>
    if record.ownerPeerId ≠ proof.peerId || record.ownerControllerLeaseId ≠ proof.leaseId then
      (.error .bufferNotOwned, store, guard)
    else if record.workerIncarnationId ≠ proof.incarnation then (.error .bufferWrongIncarnation, store, guard)
    else if record.sessionId ≠ sessionId then
      if !record.state.isTerminal then
        let (record, guard) := terminalize record guard .lost nowMs
        (.error .bufferLost, store.writeBack bufferId record, guard)
      else (.error .bufferLost, store, guard)
    else
      match record.state with
      | .lost => (.error .bufferLost, store, guard)
      | .freed => (.error .bufferFreed, store, guard)
      | .evicted => (.error .bufferEvicted, store, guard)
      | .allocated | .inUse => (.error .bufferInvalidState, store, guard)
      | .ready =>
        if maxComputeInputBytes < length then (.error .inputTooLarge, store, guard)
        else
          match checkedAdd offset length with
          | none => (.error .invalidInput, store, guard)
          | some last =>
            if record.sizeBytes < last then (.error .invalidInput, store, guard) else (.ok (), store, guard)

def withComputeInput (store : RemoteBufferStore) (proof : LeaseProof) (sessionId : SessionBinding)
    (bufferId : Bytes16) (offset length : Nat) (apply : List UInt8 → τ) : Option τ :=
  match store.buffers.get? bufferId with
  | none => none
  | some record =>
    if !owns record proof sessionId || record.state ≠ .ready then none
    else
      match checkedAdd offset length with
      | none => none
      | some last =>
        if record.sizeBytes < last then none
        else record.backing.map fun backing => apply ((backing.drop offset).take (last - offset))

end RemoteBufferStore
end PhoneBoost.Worker
