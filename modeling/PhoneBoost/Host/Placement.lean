import PhoneBoost.Host.Planner
import PhoneBoost.Pbmux.Control

/-! Where a digest is computed. `execute_blake3` and `execute_blake3_reader` take
the shared state once, ask the planner about the session's snapshot, and only
then turn to the worker. Instants and durations are nanoseconds. -/

namespace PhoneBoost.Host.Controller
open Planner
open Pbmux (HeartbeatPayload)

def freshCapacityMetrics : Nat := 6 * 1000000000
def scratchBytes : Nat := 1024
def maxComputeInputBytes : Nat := 128 * 1024 * 1024

inductive AutoUseState where
  | off | discovering | connecting | authenticating | acquiringAuthority | checkingReadiness | available | degraded
  | reconnecting | unavailable
deriving DecidableEq, Repr

inductive AutoUseReason where
  | off | noDevice | notPaired | authFailed | leaseUnavailable | workerUnhealthy | resourceRefused | transportLost
  | reconnecting | discoveryBackendUnavailable | ready
deriving DecidableEq, Repr

inductive ExecutionSource where
  | remoteSuccess | localFallbackAfterRemoteUnavailable | localFallbackAfterAmbiguousRemote
deriving DecidableEq, Repr

structure NodeStatus where
  state : AutoUseState
  reason : AutoUseReason
  remoteBlake3Available : Bool
deriving DecidableEq, Repr

structure LeaseContext where
  leaseId : Bytes16
  incarnation : Bytes16
  nextCommandSeq : UInt64
  notAfter : Nat
deriving DecidableEq, Repr

structure ActiveContext where
  peerId : PeerId
  lease : LeaseContext
deriving DecidableEq, Repr

/-- The fields of the shared state that an execution reads. -/
structure ControllerData where
  enabled : Bool
  status : NodeStatus
  active : Option ActiveContext
deriving DecidableEq, Repr

structure InitiatorHeartbeatSnapshot where
  payload : HeartbeatPayload
  age : Nat
deriving DecidableEq, Repr

structure InitiatorSessionSnapshot where
  authenticated : Bool
  peerId : Option PeerId
  heartbeat : Option InitiatorHeartbeatSnapshot
deriving DecidableEq, Repr

def boundCapacityHeartbeat (snapshot : InitiatorSessionSnapshot) (peerId : PeerId) (lease : LeaseContext) :
    Option HeartbeatPayload := do
  let heartbeat ← snapshot.heartbeat
  let payload := heartbeat.payload
  if snapshot.authenticated && snapshot.peerId = some peerId && heartbeat.age ≤ freshCapacityMetrics &&
      payload.peerId = peerId.bytes && payload.leasePresent = 1 && payload.leaseId = lease.leaseId &&
      payload.workerIncarnation = lease.incarnation then
    some payload
  else none

/-- What a missing heartbeat counts as. -/
def noHeartbeat : HeartbeatPayload where
  peerId := .replicate 32 0
  workerIncarnation := .replicate 16 0
  leasePresent := 0
  leaseId := .replicate 16 0
  monotonicMs := 0
  thermalStatus := 6
  headroomPresent := 0
  headroomF32Bits := 0
  batteryPct := 0
  charging := 0
  powerSave := 0
  availableBytes := 0
  safeBudgetBytes := 0
  reservedBytes := 0
  queueDepth := 0
  providerCount := 0
  transportCount := 0

def thermalClassOf (status : UInt8) : ThermalClass :=
  if status = 0 then .nominal else if status = 1 then .light else if status = 2 then .moderate else .severe

def batteryPolicyOf (payload : HeartbeatPayload) : BatteryPolicy :=
  if payload.charging = 1 then .externalPower
  else if payload.batteryPct < 15 then .remoteDisallowed
  else if payload.powerSave = 1 then .powerSave
  else .batteryAllowed

def capacityPlacementDecisionFromSnapshotForLength (status : NodeStatus) (snapshot : InitiatorSessionSnapshot)
    (peerId : PeerId) (lease : LeaseContext) (now inputBytes : Nat) : PlacementDecision :=
  let heartbeat := boundCapacityHeartbeat snapshot peerId lease
  let payload := heartbeat.getD noHeartbeat
  let estimatedBytes := saturatingAdd inputBytes scratchBytes
  let remainingBudget := payload.safeBudgetBytes.toNat - payload.reservedBytes.toNat
  PlannerInput.decide {
    mode := .capacity
    gates := {
      authenticated := snapshot.authenticated && snapshot.peerId = some peerId
      ready := status.state = .available
      activeLease := now < lease.notAfter
      freshMetrics := heartbeat.isSome
      providerAvailable := status.remoteBlake3Available
      resourceEstimateNonzero := 0 < estimatedBytes
      resourceGuardAdmitted := 0 < payload.safeBudgetBytes
    }
    cost := {
      residentRemoteBytes := 0
      thermalClass := thermalClassOf payload.thermalStatus
      batteryPolicy := batteryPolicyOf payload
    }
    workloadPhoneboostAware := true
    localExecutionFits := true
    remoteCapacityFits := estimatedBytes ≤ remainingBudget
    currentProfileKey := none
    profile := none
    nowWallMs := 0
  }

def autoUseReasonForPlacement : PlacementReason → AutoUseReason
  | .remoteNotAuthenticated => .authFailed
  | .leaseInactive => .leaseUnavailable
  | .remoteNotReady | .metricsStale | .providerUnavailable | .profileUnknown | .profileInvalid
  | .profileNotSpeedQualified | .localPreferred => .workerUnhealthy
  | .resourceEstimateZero | .resourceGuardRefused | .thermalDisallowed | .batteryPolicyDisallowed
  | .remoteCapacityInsufficient | .workloadNotPhoneBoostAware | .localOnlyRequested => .resourceRefused
  | .remoteCapacityRequired | .speedEvidenceQualified | .remoteDataLocality => .ready

structure Blake3Execution where
  digest : Bytes32
  source : ExecutionSource
  reason : AutoUseReason
deriving DecidableEq, Repr

structure RemoteFailure where
  reason : AutoUseReason
  ambiguous : Bool
  transportLost : Bool
deriving DecidableEq, Repr

inductive RemoteStreamFailure (ε : Type) where
  | input (error : ε) | remote (failure : RemoteFailure)

/-- What an execution does besides its answer. -/
inductive Effect where
  | requested (active : ActiveContext)
  | connectionLost (active : ActiveContext)
  | degraded (active : ActiveContext) (reason : AutoUseReason)
deriving DecidableEq, Repr

/-- The body of both functions. They differ in the local digest, in the rewind
before the remote call and in what the remote call may fail with. -/
def execute {ε : Type} (localDigest : Except ε Bytes32) (rewind : Except ε Unit)
    (remote : ActiveContext → Except (RemoteStreamFailure ε) Bytes32) (data : ControllerData)
    (snapshot : InitiatorSessionSnapshot) (now inputBytes : Nat) : Except ε Blake3Execution × List Effect :=
  let fallback (source : ExecutionSource) (reason : AutoUseReason) : Except ε Blake3Execution :=
    localDigest.map (⟨·, source, reason⟩)
  let stay (reason : AutoUseReason) := (fallback .localFallbackAfterRemoteUnavailable reason, [])
  if !data.enabled || data.status.state ≠ .available then stay data.status.reason
  else if inputBytes = 0 || maxComputeInputBytes < inputBytes then stay .resourceRefused
  else
    match data.active with
    | none => stay .transportLost
    | some active =>
      let decision := capacityPlacementDecisionFromSnapshotForLength data.status snapshot active.peerId active.lease now
        inputBytes
      if decision.target = .localOnly then stay (autoUseReasonForPlacement decision.reason)
      else
        match rewind with
        | .error error => (.error error, [])
        | .ok () =>
          match remote active with
          | .ok digest => (.ok ⟨digest, .remoteSuccess, .ready⟩, [.requested active])
          | .error (.input error) => (.error error, [.requested active])
          | .error (.remote failure) =>
            let source : ExecutionSource :=
              if failure.ambiguous then .localFallbackAfterAmbiguousRemote else .localFallbackAfterRemoteUnavailable
            (fallback source failure.reason,
              [.requested active,
                if failure.transportLost then .connectionLost active else .degraded active failure.reason])

/-- Bytes in memory: no local step fails, and a failed read of them counts as a refusal. -/
def executeBlake3 (digest : List UInt8 → Bytes32) (remote : ActiveContext → List UInt8 → Except (RemoteStreamFailure Unit) Bytes32)
    (data : ControllerData) (snapshot : InitiatorSessionSnapshot) (now : Nat) (input : List UInt8) :
    Except Empty Blake3Execution × List Effect :=
  execute (.ok (digest input)) (.ok ())
    (fun active =>
      match remote active input with
      | .ok digest => .ok digest
      | .error (.remote failure) => .error (.remote failure)
      | .error (.input _) => .error (.remote ⟨.resourceRefused, false, false⟩))
    data snapshot now input.length

def executeBlake3Reader {ε : Type} (localDigest : Except ε Bytes32) (rewind : Except ε Unit)
    (remote : ActiveContext → Except (RemoteStreamFailure ε) Bytes32) (data : ControllerData)
    (snapshot : InitiatorSessionSnapshot) (now inputBytes : Nat) : Except ε Blake3Execution × List Effect :=
  execute localDigest rewind remote data snapshot now inputBytes

end PhoneBoost.Host.Controller
