import PhoneBoost.Types

/-! The placement planner. A request goes to the worker only through an ordered
list of gates; the mode then decides with the measured profile, if there is one.
Of the cost estimate only what the decision reads is kept. -/

namespace PhoneBoost.Host.Planner

/-- 24 hours in milliseconds. -/
def performanceProfileTtlMs : Nat := 24 * 60 * 60 * 1000
def speedMinimumGainBasisPoints : Int := 500
def localityMaximumLossBasisPoints : Int := -500
def minimumMeasuredRuns : Nat := 15
def minimumSustainedCheckSecs : Nat := 5 * 60

inductive PlacementMode where
  | localOnly | capacity | speed | balanced
deriving DecidableEq, Repr

inductive PlacementTarget where
  | localOnly | remoteCapacity | remoteSpeed | remoteLocality
deriving DecidableEq, Repr

inductive PlacementReason where
  | localOnlyRequested | remoteNotReady | remoteNotAuthenticated | leaseInactive | metricsStale | providerUnavailable
  | resourceEstimateZero | resourceGuardRefused | thermalDisallowed | batteryPolicyDisallowed
  | workloadNotPhoneBoostAware | remoteCapacityInsufficient | profileUnknown | profileInvalid | profileNotSpeedQualified
  | remoteCapacityRequired | speedEvidenceQualified | remoteDataLocality | localPreferred
deriving DecidableEq, Repr

structure PlacementDecision where
  target : PlacementTarget
  reason : PlacementReason
deriving DecidableEq, Repr

def PlacementDecision.stay (reason : PlacementReason) : PlacementDecision := ⟨.localOnly, reason⟩

inductive ThermalClass where
  | nominal | light | moderate | severe
deriving DecidableEq, Repr

inductive BatteryPolicy where
  | externalPower | batteryAllowed | powerSave | remoteDisallowed
deriving DecidableEq, Repr

structure PerformanceProfileKey where
  peerId : PeerId
  workerBuildId : String
  providerId : String
  operationId : String
  coreProtocolVersion : UInt16
  providerProtocolVersion : UInt16
  transportSignature : String
  workloadSignature : String
  thermalClass : ThermalClass
  batteryPolicy : BatteryPolicy
deriving DecidableEq, Repr

structure PerformanceEvidence where
  localWarmupComplete : Bool
  remoteWarmupComplete : Bool
  measuredLocalRuns : Nat
  measuredRemoteRuns : Nat
  remoteMedianGainBasisPoints : Int
  bootstrap95LowerBoundBasisPoints : Int
  sustainedCheckDurationMs : Nat
  thermalSevereObserved : Bool
deriving DecidableEq, Repr

namespace PerformanceEvidence
variable (evidence : PerformanceEvidence)

def hasMinimumMeasurements : Bool :=
  evidence.localWarmupComplete && evidence.remoteWarmupComplete && minimumMeasuredRuns ≤ evidence.measuredLocalRuns &&
    minimumMeasuredRuns ≤ evidence.measuredRemoteRuns

def isSpeedQualified : Bool :=
  evidence.hasMinimumMeasurements && speedMinimumGainBasisPoints ≤ evidence.remoteMedianGainBasisPoints &&
    0 < evidence.bootstrap95LowerBoundBasisPoints && minimumSustainedCheckSecs ≤ evidence.sustainedCheckDurationMs / 1000 &&
    !evidence.thermalSevereObserved

def isLocalityAcceptable : Bool :=
  evidence.hasMinimumMeasurements && localityMaximumLossBasisPoints ≤ evidence.remoteMedianGainBasisPoints &&
    !evidence.thermalSevereObserved

end PerformanceEvidence

structure PerformanceProfile where
  schemaVersion : UInt16
  key : PerformanceProfileKey
  createdWallMs : Nat
  evidence : PerformanceEvidence
deriving DecidableEq, Repr

inductive ProfileInvalidationReason where
  | schemaUnsupported | keyChanged | clockMovedBackwards | ttlExpired
deriving DecidableEq, Repr

inductive ProfileStatus where
  | missing | valid | invalid (reason : ProfileInvalidationReason)
deriving DecidableEq, Repr

def PerformanceProfile.status (profile : PerformanceProfile) (currentKey : PerformanceProfileKey) (nowWallMs : Nat) :
    ProfileStatus :=
  if profile.schemaVersion ≠ 1 then .invalid .schemaUnsupported
  else if profile.key ≠ currentKey then .invalid .keyChanged
  else if nowWallMs < profile.createdWallMs then .invalid .clockMovedBackwards
  else if performanceProfileTtlMs ≤ nowWallMs - profile.createdWallMs then .invalid .ttlExpired
  else .valid

structure CostInput where
  residentRemoteBytes : Nat
  thermalClass : ThermalClass
  batteryPolicy : BatteryPolicy
deriving DecidableEq, Repr

structure RemoteGates where
  authenticated : Bool
  ready : Bool
  activeLease : Bool
  freshMetrics : Bool
  providerAvailable : Bool
  resourceEstimateNonzero : Bool
  resourceGuardAdmitted : Bool
deriving DecidableEq, Repr

def RemoteGates.refusalReason (gates : RemoteGates) : Option PlacementReason :=
  if !gates.authenticated then some .remoteNotAuthenticated
  else if !gates.ready then some .remoteNotReady
  else if !gates.activeLease then some .leaseInactive
  else if !gates.freshMetrics then some .metricsStale
  else if !gates.providerAvailable then some .providerUnavailable
  else if !gates.resourceEstimateNonzero then some .resourceEstimateZero
  else if !gates.resourceGuardAdmitted then some .resourceGuardRefused
  else none

structure PlannerInput where
  mode : PlacementMode
  gates : RemoteGates
  cost : CostInput
  workloadPhoneboostAware : Bool
  localExecutionFits : Bool
  remoteCapacityFits : Bool
  currentProfileKey : Option PerformanceProfileKey
  profile : Option PerformanceProfile
  nowWallMs : Nat
deriving DecidableEq, Repr

namespace PlannerInput
variable (input : PlannerInput)

def profileStatus : ProfileStatus :=
  match input.currentProfileKey, input.profile with
  | some key, some profile => profile.status key input.nowWallMs
  | _, _ => .missing

def speedDecision : PlacementDecision :=
  match input.profileStatus, input.profile with
  | .missing, _ => .stay .profileUnknown
  | .invalid _, _ => .stay .profileInvalid
  | .valid, some profile =>
    if profile.evidence.isSpeedQualified then ⟨.remoteSpeed, .speedEvidenceQualified⟩ else .stay .profileNotSpeedQualified
  | .valid, none => .stay .profileUnknown

def balancedDecision : PlacementDecision :=
  if !input.localExecutionFits then ⟨.remoteCapacity, .remoteCapacityRequired⟩
  else
    match input.profile with
    | none => .stay .localPreferred
    | some profile =>
      if input.profileStatus ≠ .valid then .stay .localPreferred
      else if profile.evidence.isSpeedQualified then ⟨.remoteSpeed, .speedEvidenceQualified⟩
      else if 0 < input.cost.residentRemoteBytes && profile.evidence.isLocalityAcceptable then
        ⟨.remoteLocality, .remoteDataLocality⟩
      else .stay .localPreferred

/-- What the mode decides once every gate is open. -/
def modeDecision : PlacementDecision :=
  match input.mode with
  | .localOnly => .stay .localOnlyRequested
  | .capacity => ⟨.remoteCapacity, .remoteCapacityRequired⟩
  | .speed => input.speedDecision
  | .balanced => input.balancedDecision

def decide : PlacementDecision :=
  if input.mode = .localOnly then .stay .localOnlyRequested
  else
    match input.gates.refusalReason with
    | some reason => .stay reason
    | none =>
      if input.cost.thermalClass = .severe then .stay .thermalDisallowed
      else if input.cost.batteryPolicy = .remoteDisallowed then .stay .batteryPolicyDisallowed
      else if !input.workloadPhoneboostAware then .stay .workloadNotPhoneBoostAware
      else if !input.remoteCapacityFits then .stay .remoteCapacityInsufficient
      else input.modeDecision

end PlannerInput

end PhoneBoost.Host.Planner
