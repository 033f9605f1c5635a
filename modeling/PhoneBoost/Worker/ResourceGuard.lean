import PhoneBoost.Lib.Table
import PhoneBoost.Pbmux.Resource
import PhoneBoost.Worker.Lease

/-! The resource guard: health bands with hysteresis, and the reservations that
share one byte budget. `shortfall` is the only field without a counterpart in
the source: it adds up what `saturating_sub` swallows in `releaseAllocation`. -/

namespace PhoneBoost.Worker
open Keyed
open Pbmux (nativeOpScratchMaxBytes)

def pocCapBytes : Nat := 128 * 1024 * 1024
def minAvailableBytes : Nat := 768 * 1024 * 1024
def recoveryAvailableBytes : Nat := 896 * 1024 * 1024
def memoryMarginBytes : Nat := 512 * 1024 * 1024
def reservationTtlMs : Nat := 30000
def healthStaleAfterMs : Nat := 6000
def terminalRetentionMs : Nat := 5 * 60000
def idempotenceCapacity : Nat := 1024

inductive SafetyBand where
  | nominal | throttle | refusedMemoryPressure | refusedThermal | refusedBattery | refusedStaleState
deriving DecidableEq, Repr

def SafetyBand.isRefused : SafetyBand → Bool
  | .refusedMemoryPressure | .refusedThermal | .refusedBattery | .refusedStaleState => true
  | _ => false

inductive ThermalBand where
  | none | light | moderate | severe | critical | emergency | shutdown | unknown
deriving DecidableEq, Repr

namespace ThermalBand

/-- The declaration order is the order that `>` compares. -/
def code : ThermalBand → Nat
  | .none => 0
  | .light => 1
  | .moderate => 2
  | .severe => 3
  | .critical => 4
  | .emergency => 5
  | .shutdown => 6
  | .unknown => 7

def safety : ThermalBand → SafetyBand
  | .none | .light => .nominal
  | .moderate => .throttle
  | .severe | .critical | .emergency | .shutdown | .unknown => .refusedThermal

end ThermalBand

inductive BatteryBand where
  | nominal | throttle | refused | unknown
deriving DecidableEq, Repr

def BatteryBand.code : BatteryBand → Nat
  | .nominal => 0
  | .throttle => 1
  | .refused => 2
  | .unknown => 3

structure HealthSample where
  availableMemoryBytes : Nat
  lowMemory : Bool
  thermal : ThermalBand
  batteryPercent : UInt8
  charging : Bool
  powerSave : Bool
  monotonicMs : Nat
deriving DecidableEq, Repr

structure HealthStatus where
  safety : SafetyBand
  thermal : ThermalBand
  battery : BatteryBand
  batteryPercent : UInt8
  availableMemoryBytes : Nat
  lowMemory : Bool
  charging : Bool
  powerSave : Bool
  sampleAgeMs : Option Nat
  fresh : Bool
  budgetBytes : Nat
deriving DecidableEq, Repr

def HealthStatus.unavailable : HealthStatus where
  safety := .refusedStaleState
  thermal := .unknown
  battery := .unknown
  batteryPercent := 0
  availableMemoryBytes := 0
  lowMemory := true
  charging := false
  powerSave := false
  sampleAgeMs := none
  fresh := false
  budgetBytes := 0

inductive ResourceClass where
  | remoteBufferBytes | nativeOpScratchBytes | unknown
deriving DecidableEq, Repr

def ResourceClass.maxRequestBytes : ResourceClass → Nat
  | .remoteBufferBytes => pocCapBytes
  | .nativeOpScratchBytes => nativeOpScratchMaxBytes
  | .unknown => 0

structure ReserveRequest where
  requestId : UInt64
  resourceClass : ResourceClass
  bytes : Nat
deriving DecidableEq, Repr

inductive ReservationDecision where
  | reserved (reservationId : ReservationId)
  | refusedSafety | refusedBudget | unknownResourceClass | staleLease
  | idempotenceConflict | idempotenceTableFull | entropyUnavailable
deriving DecidableEq, Repr

inductive CommitDecision where
  | committed | refusedSafety | staleLease | unknownOrExpiredReservation
deriving DecidableEq, Repr

inductive ReleaseDecision where
  | released | alreadyTerminal | staleLease | unknownReservation
deriving DecidableEq, Repr

inductive ReservationState where
  | reserved | committed | released | expired | refusedSafety | consumed | consumedReleased
deriving DecidableEq, Repr

structure Reservation where
  peerId : PeerId
  leaseId : LeaseId
  incarnation : WorkerIncarnationId
  requestId : UInt64
  resourceClass : ResourceClass
  bytes : Nat
  expiresAtMs : Nat
  state : ReservationState
  terminalAtMs : Option Nat
deriving DecidableEq, Repr

structure IdempotenceEntry where
  leaseId : LeaseId
  incarnation : WorkerIncarnationId
  resourceClass : ResourceClass
  bytes : Nat
  decision : ReservationDecision
  terminalAtMs : Option Nat
deriving DecidableEq, Repr

structure Recovery (τ : Type) where
  target : τ
  sinceMs : Nat
  samples : Nat
deriving DecidableEq, Repr

structure ResourceGuard where
  latest : Option HealthSample
  sampleCount : Nat
  memoryBlocked : Bool
  memoryRecoverySinceMs : Option Nat
  effectiveThermal : ThermalBand
  thermalRecovery : Option (Recovery ThermalBand)
  effectiveBattery : BatteryBand
  batteryRecovery : Option (Recovery BatteryBand)
  allocatedBytes : Nat
  reservations : Table ReservationId Reservation
  idempotence : Table (LeaseId × UInt64) IdempotenceEntry
  shortfall : Nat
deriving DecidableEq

structure ReservationSnapshot where
  reservationId : ReservationId
  resourceClass : ResourceClass
  bytes : Nat
  state : ReservationState
  ttlRemainingMs : Nat
deriving DecidableEq, Repr

def ReservationSnapshot.wireState (snapshot : ReservationSnapshot) : Pbmux.ReservationState :=
  match snapshot.state with
  | .reserved => .reserved
  | .committed => .committed
  | .released => .released
  | .expired => .expired
  | .refusedSafety => .refusedSafety
  | .consumed => .consumed
  | .consumedReleased => .consumedReleased

inductive ReservationConsumeError where
  | notFound | invalidOwnershipOrSize | notCommitted | expired | alreadyConsumed | invalidState
deriving DecidableEq, Repr

def rawBatteryBand (percent : UInt8) (charging : Bool) : BatteryBand :=
  if charging || 25 < percent then .nominal
  else if percent < 15 then .refused
  else .throttle

def pocBudget (availableBytes : Nat) : Nat :=
  let quarter := (availableBytes - memoryMarginBytes) / 4
  if quarter < pocCapBytes then quarter else pocCapBytes

namespace ResourceGuard

def new : ResourceGuard where
  latest := none
  sampleCount := 0
  memoryBlocked := true
  memoryRecoverySinceMs := none
  effectiveThermal := .unknown
  thermalRecovery := none
  effectiveBattery := .unknown
  batteryRecovery := none
  allocatedBytes := 0
  reservations := .empty
  idempotence := .empty
  shortfall := 0

def healthStatus (guard : ResourceGuard) (nowMs : Nat) : HealthStatus :=
  match guard.latest with
  | none => .unavailable
  | some sample =>
    let age := nowMs - sample.monotonicMs
    let fresh := sample.monotonicMs ≤ nowMs && age ≤ healthStaleAfterMs
    let memoryRefused := guard.memoryBlocked || sample.lowMemory || sample.availableMemoryBytes < minAvailableBytes
    let safety : SafetyBand :=
      if memoryRefused then .refusedMemoryPressure
      else if guard.effectiveThermal.safety.isRefused then .refusedThermal
      else if guard.effectiveBattery = .refused then .refusedBattery
      else if guard.effectiveThermal.safety = .throttle || guard.effectiveBattery = .throttle || sample.powerSave then
        .throttle
      else .nominal
    { safety := if fresh then safety else .refusedStaleState
      thermal := guard.effectiveThermal
      battery := guard.effectiveBattery
      batteryPercent := sample.batteryPercent
      availableMemoryBytes := sample.availableMemoryBytes
      lowMemory := sample.lowMemory
      charging := sample.charging
      powerSave := sample.powerSave
      sampleAgeMs := some age
      fresh
      budgetBytes := if fresh && !memoryRefused then pocBudget sample.availableMemoryBytes else 0 }

def updateMemory (guard : ResourceGuard) (sample : HealthSample) : ResourceGuard :=
  if sample.lowMemory || sample.availableMemoryBytes < minAvailableBytes then
    { guard with memoryBlocked := true, memoryRecoverySinceMs := none }
  else if guard.memoryBlocked && recoveryAvailableBytes ≤ sample.availableMemoryBytes then
    let since := guard.memoryRecoverySinceMs.getD sample.monotonicMs
    if 10000 ≤ sample.monotonicMs - since then { guard with memoryBlocked := false, memoryRecoverySinceMs := none }
    else { guard with memoryRecoverySinceMs := some since }
  else if guard.memoryBlocked then { guard with memoryRecoverySinceMs := none }
  else guard

/-- The sample counter of a recovery is a `u8`. -/
def nextSample (samples : Nat) : Nat := min (samples + 1) 255

def updateThermal (guard : ResourceGuard) (sample : HealthSample) : ResourceGuard :=
  let observed := sample.thermal
  if guard.latest.isNone || guard.effectiveThermal.code < observed.code then
    { guard with effectiveThermal := observed, thermalRecovery := none }
  else if observed.code < guard.effectiveThermal.code then
    let restart := { guard with thermalRecovery := some ⟨observed, sample.monotonicMs, 1⟩ }
    match guard.thermalRecovery with
    | some recovery =>
      if recovery.target = observed then
        let recovery := { recovery with samples := nextSample recovery.samples }
        if 2 ≤ recovery.samples && 10000 ≤ sample.monotonicMs - recovery.sinceMs then
          { guard with effectiveThermal := observed, thermalRecovery := none }
        else { guard with thermalRecovery := some recovery }
      else restart
    | none => restart
  else { guard with thermalRecovery := none }

/-- Leaving a battery band takes more charge than entering it. -/
def thresholdMet (band : BatteryBand) (percent : UInt8) : Bool :=
  match band with
  | .refused => 20 ≤ percent
  | .throttle => 30 ≤ percent
  | .nominal | .unknown => false

def updateBattery (guard : ResourceGuard) (sample : HealthSample) : ResourceGuard :=
  let observed := rawBatteryBand sample.batteryPercent sample.charging
  if sample.charging then { guard with effectiveBattery := .nominal, batteryRecovery := none }
  else if guard.latest.isNone || guard.effectiveBattery.code < observed.code then
    { guard with effectiveBattery := observed, batteryRecovery := none }
  else if observed.code < guard.effectiveBattery.code then
    if !thresholdMet guard.effectiveBattery sample.batteryPercent then { guard with batteryRecovery := none }
    else
      let target : BatteryBand := if guard.effectiveBattery = .refused then .throttle else .nominal
      let restart := { guard with batteryRecovery := some ⟨target, sample.monotonicMs, 1⟩ }
      match guard.batteryRecovery with
      | some recovery =>
        if recovery.target = target then
          let recovery := { recovery with samples := nextSample recovery.samples }
          if 30000 ≤ sample.monotonicMs - recovery.sinceMs then
            { guard with effectiveBattery := target, batteryRecovery := none }
          else { guard with batteryRecovery := some recovery }
        else restart
      | none => restart
  else { guard with batteryRecovery := none }

def recordHealth (guard : ResourceGuard) (sample : HealthSample) : HealthStatus × ResourceGuard :=
  let guard := ((guard.updateMemory sample).updateThermal sample).updateBattery sample
  let guard := { guard with latest := some sample, sampleCount := saturatingAdd guard.sampleCount 1 }
  (guard.healthStatus sample.monotonicMs, guard)

def releaseAllocation (guard : ResourceGuard) (bytes : Nat) : ResourceGuard :=
  { guard with
    allocatedBytes := guard.allocatedBytes - bytes
    shortfall := guard.shortfall + (bytes - guard.allocatedBytes) }

def markIdempotenceTerminal (guard : ResourceGuard) (leaseId : LeaseId) (requestId : UInt64) (nowMs : Nat) :
    ResourceGuard :=
  { guard with
    idempotence := guard.idempotence.modify (leaseId, requestId) fun entry => { entry with terminalAtMs := some nowMs } }

/-- The end of a reservation that still holds bytes: they go back, the record
and its idempotence entry become terminal. -/
def terminate (guard : ResourceGuard) (reservationId : ReservationId) (bytes : Nat) (leaseId : LeaseId)
    (requestId : UInt64) (state : ReservationState) (nowMs : Nat) : ResourceGuard :=
  let guard := guard.releaseAllocation bytes
  let guard := { guard with
    reservations := guard.reservations.modify reservationId fun entry =>
      { entry with state, terminalAtMs := some nowMs } }
  guard.markIdempotenceTerminal leaseId requestId nowMs

/-- Shared test of all retention scans: no terminal time, or one that is recent. -/
def retained (nowMs : Nat) (terminalAtMs : Option Nat) : Bool :=
  terminalAtMs.all fun terminal => nowMs - terminal ≤ terminalRetentionMs

def expireReserved (guard : ResourceGuard) (nowMs : Nat) : ResourceGuard :=
  let expired := guard.reservations.select fun id reservation =>
    if reservation.state = .reserved && reservation.expiresAtMs ≤ nowMs then
      some (id, reservation.bytes, reservation.leaseId, reservation.requestId)
    else none
  expired.foldl (fun guard (id, bytes, leaseId, requestId) =>
    guard.terminate id bytes leaseId requestId .expired nowMs) guard

def superseded (activeLease : LeaseId) (activeIncarnation : WorkerIncarnationId) (reservation : Reservation) : Bool :=
  reservation.state ≠ .consumed && reservation.state ≠ .consumedReleased
    && (reservation.leaseId ≠ activeLease || reservation.incarnation ≠ activeIncarnation)

def removeSuperseded (guard : ResourceGuard) (activeLease : LeaseId) (activeIncarnation : WorkerIncarnationId) :
    ResourceGuard :=
  let gone := guard.reservations.select fun id reservation =>
    if superseded activeLease activeIncarnation reservation then some (id, reservation.bytes, reservation.state)
    else none
  gone.foldl (fun guard (id, bytes, state) =>
    let guard := if state = .reserved || state = .committed then guard.releaseAllocation bytes else guard
    { guard with reservations := guard.reservations.erase id }) guard

def expireAndPurge (guard : ResourceGuard) (nowMs : Nat) (activeLease : LeaseId)
    (activeIncarnation : WorkerIncarnationId) : ResourceGuard :=
  let guard := (guard.removeSuperseded activeLease activeIncarnation).expireReserved nowMs
  { guard with
    idempotence := guard.idempotence.retain fun _ entry =>
      entry.leaseId = activeLease && entry.incarnation = activeIncarnation && retained nowMs entry.terminalAtMs
    reservations := guard.reservations.retain fun _ reservation => retained nowMs reservation.terminalAtMs }

def tick (guard : ResourceGuard) (nowMs : Nat) : ResourceGuard :=
  let guard := guard.expireReserved nowMs
  { guard with
    idempotence := guard.idempotence.retain fun _ entry => retained nowMs entry.terminalAtMs
    reservations := guard.reservations.retain fun _ reservation => retained nowMs reservation.terminalAtMs }

/-- The decision for a request that no idempotence entry answers. -/
def decideReservation (guard : ResourceGuard) (proof : LeaseProof) (request : ReserveRequest) (nowMs : Nat) (reads : Entropy) :
    ReservationDecision × ResourceGuard :=
  let health := guard.healthStatus nowMs
  if request.resourceClass = .unknown then (.unknownResourceClass, guard)
  else if request.bytes = 0 || request.resourceClass.maxRequestBytes < request.bytes then (.refusedBudget, guard)
  else if health.safety.isRefused then (.refusedSafety, guard)
  else
    let remaining := health.budgetBytes - guard.allocatedBytes
    if request.bytes = 0 || remaining < request.bytes then (.refusedBudget, guard)
    else
      match (randomNonzero128 reads).1 with
      | none => (.entropyUnavailable, guard)
      | some bytes =>
        let reservationId : ReservationId := ⟨bytes⟩
        (.reserved reservationId, { guard with
          allocatedBytes := saturatingAdd guard.allocatedBytes request.bytes
          reservations := guard.reservations.insert reservationId {
            peerId := proof.peerId
            leaseId := proof.leaseId
            incarnation := proof.incarnation
            requestId := request.requestId
            resourceClass := request.resourceClass
            bytes := request.bytes
            expiresAtMs := saturatingAdd nowMs reservationTtlMs
            state := .reserved
            terminalAtMs := none } })

def decisionTerminalAt (decision : ReservationDecision) (nowMs : Nat) : Option Nat :=
  match decision with
  | .reserved _ => none
  | _ => some nowMs

def reserve (guard : ResourceGuard) (leases : ControllerLeaseManager) (session : AuthenticatedSession)
    (leaseId : LeaseId) (request : ReserveRequest) (nowMs : Nat) (reads : Entropy) :
    ReservationDecision × ResourceGuard × ControllerLeaseManager :=
  match leases.validate session leaseId nowMs with
  | (.error _, leases) => (.staleLease, guard, leases)
  | (.ok proof, leases) =>
    let guard := guard.expireAndPurge nowMs leaseId proof.incarnation
    let key := (proof.leaseId, request.requestId)
    match guard.idempotence.get? key with
    | some existing =>
      if existing.leaseId ≠ proof.leaseId || existing.incarnation ≠ proof.incarnation then
        (.idempotenceConflict, guard, leases)
      else if existing.resourceClass = request.resourceClass && existing.bytes = request.bytes then
        (existing.decision, guard, leases)
      else (.idempotenceConflict, guard, leases)
    | none =>
      if idempotenceCapacity ≤ guard.idempotence.size then (.idempotenceTableFull, guard, leases)
      else
        let (decision, guard) := guard.decideReservation proof request nowMs reads
        (decision, { guard with
          idempotence := guard.idempotence.insert key {
            leaseId := proof.leaseId
            incarnation := proof.incarnation
            resourceClass := request.resourceClass
            bytes := request.bytes
            decision
            terminalAtMs := decisionTerminalAt decision nowMs } }, leases)

def commit (guard : ResourceGuard) (leases : ControllerLeaseManager) (session : AuthenticatedSession)
    (leaseId : LeaseId) (reservationId : ReservationId) (nowMs : Nat) :
    CommitDecision × ResourceGuard × ControllerLeaseManager :=
  match leases.validate session leaseId nowMs with
  | (.error _, leases) => (.staleLease, guard, leases)
  | (.ok proof, leases) =>
    let guard := guard.expireAndPurge nowMs leaseId proof.incarnation
    match guard.reservations.get? reservationId with
    | none => (.unknownOrExpiredReservation, guard, leases)
    | some reservation =>
      if reservation.leaseId ≠ proof.leaseId || reservation.incarnation ≠ proof.incarnation then
        (.staleLease, guard, leases)
      else
        match reservation.state with
        | .committed => (.committed, guard, leases)
        | .released | .expired | .refusedSafety | .consumed | .consumedReleased =>
          (.unknownOrExpiredReservation, guard, leases)
        | .reserved =>
          if (guard.healthStatus nowMs).safety.isRefused then
            (.refusedSafety, guard.terminate reservationId reservation.bytes reservation.leaseId reservation.requestId
              .refusedSafety nowMs, leases)
          else
            (.committed, { guard with
              reservations := guard.reservations.modify reservationId fun entry =>
                { entry with state := .committed } }, leases)

def release (guard : ResourceGuard) (leases : ControllerLeaseManager) (session : AuthenticatedSession)
    (leaseId : LeaseId) (reservationId : ReservationId) (nowMs : Nat) :
    ReleaseDecision × ResourceGuard × ControllerLeaseManager :=
  match leases.validate session leaseId nowMs with
  | (.error _, leases) => (.staleLease, guard, leases)
  | (.ok proof, leases) =>
    let guard := guard.expireAndPurge nowMs leaseId proof.incarnation
    match guard.reservations.get? reservationId with
    | none => (.unknownReservation, guard, leases)
    | some reservation =>
      if reservation.leaseId ≠ proof.leaseId || reservation.incarnation ≠ proof.incarnation then
        (.staleLease, guard, leases)
      else
        match reservation.state with
        | .reserved | .committed =>
          (.released, guard.terminate reservationId reservation.bytes reservation.leaseId reservation.requestId
            .released nowMs, leases)
        | .released | .expired | .refusedSafety | .consumed | .consumedReleased => (.alreadyTerminal, guard, leases)

def reservationSnapshot (guard : ResourceGuard) (proof : LeaseProof) (reservationId : ReservationId) (nowMs : Nat) :
    Option ReservationSnapshot × ResourceGuard :=
  let guard := guard.expireAndPurge nowMs proof.leaseId proof.incarnation
  match guard.reservations.get? reservationId with
  | none => (none, guard)
  | some reservation =>
    if reservation.peerId ≠ proof.peerId || reservation.leaseId ≠ proof.leaseId
        || reservation.incarnation ≠ proof.incarnation then (none, guard)
    else
      (some {
        reservationId
        resourceClass := reservation.resourceClass
        bytes := reservation.bytes
        state := reservation.state
        ttlRemainingMs :=
          if reservation.state = .reserved then min (reservation.expiresAtMs - nowMs) u32Max else 0 }, guard)

def consume (guard : ResourceGuard) (proof : LeaseProof) (reservationId : ReservationId)
    (resourceClass : ResourceClass) (exactBytes : Option Nat) (nowMs : Nat) :
    Except ReservationConsumeError Unit × ResourceGuard :=
  let guard := guard.expireAndPurge nowMs proof.leaseId proof.incarnation
  match guard.reservations.get? reservationId with
  | none => (.error .notFound, guard)
  | some reservation =>
    if reservation.peerId ≠ proof.peerId || reservation.leaseId ≠ proof.leaseId
        || reservation.incarnation ≠ proof.incarnation || reservation.resourceClass ≠ resourceClass
        || exactBytes.any fun bytes => reservation.bytes ≠ bytes then (.error .invalidOwnershipOrSize, guard)
    else
      match reservation.state with
      | .committed =>
        (.ok (), { guard with
          reservations := guard.reservations.modify reservationId fun entry => { entry with state := .consumed } })
      | .reserved => (.error .notCommitted, guard)
      | .expired => (.error .expired, guard)
      | .consumed | .consumedReleased => (.error .alreadyConsumed, guard)
      | .released | .refusedSafety => (.error .invalidState, guard)

def consumeForBuffer (guard : ResourceGuard) (proof : LeaseProof) (reservationId : ReservationId)
    (sizeBytes nowMs : Nat) : Except ReservationConsumeError Unit × ResourceGuard :=
  (guard.expireAndPurge nowMs proof.leaseId proof.incarnation).consume proof reservationId .remoteBufferBytes
    (some sizeBytes) nowMs

/-- The bytes of the reservation just consumed; the source expects it present. -/
def consumeForCompute (guard : ResourceGuard) (proof : LeaseProof) (reservationId : ReservationId) (nowMs : Nat) :
    Except ReservationConsumeError Nat × ResourceGuard :=
  match guard.consume proof reservationId .nativeOpScratchBytes none nowMs with
  | (.error error, guard) => (.error error, guard)
  | (.ok (), guard) => (.ok (((guard.reservations.get? reservationId).map Reservation.bytes).getD 0), guard)

def releaseConsumed (guard : ResourceGuard) (reservationId : ReservationId) (resourceClass : ResourceClass)
    (bytes nowMs : Nat) : ResourceGuard :=
  match guard.reservations.get? reservationId with
  | none => guard
  | some reservation =>
    if reservation.state ≠ .consumed || reservation.resourceClass ≠ resourceClass || reservation.bytes ≠ bytes then
      guard
    else
      { guard with
        reservations := guard.reservations.modify reservationId fun entry =>
          { entry with state := .consumedReleased, terminalAtMs := some nowMs } }.releaseAllocation bytes

def releaseConsumedBuffer (guard : ResourceGuard) (reservationId : ReservationId) (bytes nowMs : Nat) : ResourceGuard :=
  guard.releaseConsumed reservationId .remoteBufferBytes bytes nowMs

def releaseConsumedCompute (guard : ResourceGuard) (reservationId : ReservationId) (bytes nowMs : Nat) :
    ResourceGuard :=
  guard.releaseConsumed reservationId .nativeOpScratchBytes bytes nowMs

end ResourceGuard
end PhoneBoost.Worker
