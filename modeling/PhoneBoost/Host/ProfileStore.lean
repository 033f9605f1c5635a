import PhoneBoost.Host.Planner
import PhoneBoost.Lib.Wire
import PhoneBoost.Secure.Storage

/-! Measured profiles on disk. A profile is kept in a file named after the hash of
its key, with an absolute time at which it ends; the planner has its own test of
age. What the kernel answers to each system call is an argument of the operation
that makes it. -/

namespace PhoneBoost.Host.Profiles
open Keyed Planner
open Secure (Directory File FileType hexEncode utf8)
open Wire (okOr)

def maximumProfileBytes : Nat := 65536
def profileSchemaVersion : UInt16 := 1
def privateFileMode : Nat := 0o600
def benchmarkContract : String := "pb-bench-v1"
def linkMeasurementContract : String := "pb-link-metrics-v1"

inductive C13RequesterPath where
  | nativeC12 | pbCli | mcpAdapter
deriving DecidableEq, Repr

inductive PersistedThermalClass where
  | nominal | light | moderate | severe
deriving DecidableEq, Repr

def PersistedThermalClass.ofClass : ThermalClass → PersistedThermalClass
  | .nominal => .nominal
  | .light => .light
  | .moderate => .moderate
  | .severe => .severe

inductive PersistedBatteryPolicy where
  | externalPower | batteryAllowed | powerSave | remoteDisallowed
deriving DecidableEq, Repr

def PersistedBatteryPolicy.ofPolicy : BatteryPolicy → PersistedBatteryPolicy
  | .externalPower => .externalPower
  | .batteryAllowed => .batteryAllowed
  | .powerSave => .powerSave
  | .remoteDisallowed => .remoteDisallowed

section Texts

def isAsciiDigit (byte : UInt8) : Bool := 48 ≤ byte && byte ≤ 57

def isAsciiAlphanumeric (byte : UInt8) : Bool :=
  isAsciiDigit byte || (65 ≤ byte && byte ≤ 90) || (97 ≤ byte && byte ≤ 122)

def isBoundedAsciiId (value : String) : Bool :=
  match utf8 value with
  | [] => false
  | first :: rest =>
    rest.length + 1 ≤ 128 && isAsciiAlphanumeric first &&
      rest.all fun byte => isAsciiAlphanumeric byte || (utf8 "._+:/-").contains byte

def workloadStart : String := "pb-workload-v1:"

def isWorkloadSignature (value : String) : Bool :=
  let bytes := utf8 value
  let suffix := bytes.drop (utf8 workloadStart).length
  16 ≤ bytes.length && bytes.length ≤ 256 && (utf8 workloadStart).isPrefixOf bytes && !suffix.isEmpty &&
    suffix.all fun byte => isAsciiAlphanumeric byte || (utf8 "._+:-").contains byte

def isLowercaseHex64 (value : String) : Bool :=
  (utf8 value).length = 64 && (utf8 value).all fun byte => isAsciiDigit byte || (97 ≤ byte && byte ≤ 102)

def lowercaseHex (bytes : List UInt8) : String := hexEncode bytes

end Texts

structure C13ProfileKeyV1 where
  peerIdSha256Hex : String
  workerBuildId : String
  providerId : String
  operationId : String
  coreProtocolVersion : UInt16
  providerProtocolVersion : UInt16
  transportSignature : String
  workloadSignature : String
  thermalClass : PersistedThermalClass
  batteryPolicy : PersistedBatteryPolicy
deriving DecidableEq, Repr

namespace C13ProfileKeyV1

def fromPlannerKey (key : PerformanceProfileKey) : C13ProfileKeyV1 where
  peerIdSha256Hex := lowercaseHex key.peerId.bytes.toList
  workerBuildId := key.workerBuildId
  providerId := key.providerId
  operationId := key.operationId
  coreProtocolVersion := key.coreProtocolVersion
  providerProtocolVersion := key.providerProtocolVersion
  transportSignature := key.transportSignature
  workloadSignature := key.workloadSignature
  thermalClass := .ofClass key.thermalClass
  batteryPolicy := .ofPolicy key.batteryPolicy

def validate (key : C13ProfileKeyV1) : Bool :=
  isLowercaseHex64 key.peerIdSha256Hex && isBoundedAsciiId key.workerBuildId && isBoundedAsciiId key.providerId &&
    isBoundedAsciiId key.operationId &&
    ["pb-link-v1:wifi_lan", "pb-link-v1:usb_network", "pb-link-v1:ethernet_ip", "pb-link-v1:local_ip_unknown"].contains
      key.transportSignature &&
    isWorkloadSignature key.workloadSignature

end C13ProfileKeyV1

structure C13PerformanceEvidenceV1 where
  localWarmupComplete : Bool
  remoteWarmupComplete : Bool
  measuredLocalRuns : Nat
  measuredRemoteRuns : Nat
  localMedianDurationNs : Nat
  remoteMedianDurationNs : Nat
  remoteMedianGainBasisPoints : Int
  bootstrap95LowerBoundBasisPoints : Int
  sustainedCheckDurationMs : Nat
  thermalSevereObserved : Bool
deriving DecidableEq, Repr

namespace C13PerformanceEvidenceV1
variable (evidence : C13PerformanceEvidenceV1)

def validate : Bool := 0 < evidence.localMedianDurationNs && 0 < evidence.remoteMedianDurationNs

def plannerEvidence : PerformanceEvidence where
  localWarmupComplete := evidence.localWarmupComplete
  remoteWarmupComplete := evidence.remoteWarmupComplete
  measuredLocalRuns := evidence.measuredLocalRuns
  measuredRemoteRuns := evidence.measuredRemoteRuns
  remoteMedianGainBasisPoints := evidence.remoteMedianGainBasisPoints
  bootstrap95LowerBoundBasisPoints := evidence.bootstrap95LowerBoundBasisPoints
  sustainedCheckDurationMs := evidence.sustainedCheckDurationMs
  thermalSevereObserved := evidence.thermalSevereObserved

end C13PerformanceEvidenceV1

structure C13BenchmarkProvenanceV1 where
  benchmarkContract : String
  benchmarkBuildId : String
  benchmarkConfigId : String
  requesterPath : C13RequesterPath
  linkMeasurementContract : String
  medianRttMs : Nat
  medianTxGoodputBytesPerSecond : Nat
  medianRxGoodputBytesPerSecond : Nat
deriving DecidableEq, Repr

def C13BenchmarkProvenanceV1.validate (provenance : C13BenchmarkProvenanceV1) : Bool :=
  provenance.benchmarkContract = Profiles.benchmarkContract && isBoundedAsciiId provenance.benchmarkBuildId &&
    isBoundedAsciiId provenance.benchmarkConfigId &&
    provenance.linkMeasurementContract = Profiles.linkMeasurementContract && 0 < provenance.medianRttMs &&
    0 < provenance.medianTxGoodputBytesPerSecond && 0 < provenance.medianRxGoodputBytesPerSecond

inductive ProfileStoreInvalidationReason where
  | unsafeObject | oversized | malformed | schemaUnsupported | keyChanged | clockMovedBackwards | ttlExpired
deriving DecidableEq, Repr

inductive PerformanceProfileLoadOutcome where
  | missing | valid (profile : PerformanceProfile) | invalid (reason : ProfileStoreInvalidationReason)
deriving DecidableEq, Repr

inductive PerformanceProfileStoreError where
  | unsafeProfileObject | invalidProfile | profileTooLarge | io | durabilityUnknown
deriving DecidableEq, Repr

structure C13PerformanceProfileV1 where
  schemaVersion : UInt16
  createdWallMs : Nat
  expiresWallMs : Nat
  key : C13ProfileKeyV1
  evidence : C13PerformanceEvidenceV1
  provenance : C13BenchmarkProvenanceV1
deriving DecidableEq, Repr

/-- The JSON of keys and profiles as `serde_json` writes and reads it, and the
hash behind the names of files. -/
structure Foreign where
  keyToVec : C13ProfileKeyV1 → Option (List UInt8)
  profileToVec : C13PerformanceProfileV1 → Option (List UInt8)
  profileFromSlice : List UInt8 → Option C13PerformanceProfileV1
  blake3 : List UInt8 → Bytes32

namespace C13PerformanceProfileV1

def validate (profile : C13PerformanceProfileV1) : Except PerformanceProfileStoreError Unit :=
  if profile.schemaVersion ≠ profileSchemaVersion ||
      checkedAdd profile.createdWallMs performanceProfileTtlMs ≠ some profile.expiresWallMs || !profile.key.validate ||
      !profile.evidence.validate || !profile.provenance.validate then .error .invalidProfile
  else .ok ()

/-- `C13PerformanceProfileV1::new` -/
def create (key : PerformanceProfileKey) (createdWallMs : Nat) (evidence : C13PerformanceEvidenceV1)
    (provenance : C13BenchmarkProvenanceV1) : Except PerformanceProfileStoreError C13PerformanceProfileV1 := do
  let expiresWallMs ← okOr (checkedAdd createdWallMs performanceProfileTtlMs) .invalidProfile
  let profile : C13PerformanceProfileV1 :=
    ⟨profileSchemaVersion, createdWallMs, expiresWallMs, .fromPlannerKey key, evidence, provenance⟩
  profile.validate
  .ok profile

def plannerProfile (profile : C13PerformanceProfileV1) (currentKey : PerformanceProfileKey) : PerformanceProfile :=
  ⟨profile.schemaVersion, currentKey, profile.createdWallMs, profile.evidence.plannerEvidence⟩

end C13PerformanceProfileV1

/-- The answers to the calls of one `store`. `stat` fails for any reason but that
the file is missing; a `write_all` that fails has stored some first bytes;
`createdMode` is what the umask left. -/
structure StoreCalls where
  stat : Bool
  openTemporary : Bool
  statTemporary : Bool
  createdMode : Nat
  writeStopsAfter : Option Nat
  flush : Bool
  syncFile : Bool
  rename : Bool
  syncDirectory : Bool
  unlink : Bool
deriving DecidableEq, Repr

/-- The answers to the calls of one `load`: `openFile` fails for any reason but
that the file is missing, `settled` compares the two stats. -/
structure LoadCalls where
  openFile : Bool
  statBefore : Bool
  read : Bool
  statAfter : Bool
  settled : Bool
deriving DecidableEq, Repr

/-- The directory, with the user and the id of the process and the counter behind
the names of temporary files. -/
structure PerformanceProfileStore where
  uid : Nat
  processId : Nat
  nextTemporary : Nat
  directory : Directory

section Store
variable (foreign : Foreign)

def permissionBits (mode : Nat) : Nat := mode % 0o10000

def validOwnedRegularFile (uid : Nat) (file : File) : Bool :=
  file.fileType = .regularFile && file.uid = uid && permissionBits file.mode = privateFileMode

def profileIdForKey (key : C13ProfileKeyV1) : Except PerformanceProfileStoreError String := do
  let canonical ← okOr (foreign.keyToVec key) .invalidProfile
  .ok (lowercaseHex (foreign.blake3 canonical).toList)

def C13PerformanceProfileV1.profileId (profile : C13PerformanceProfileV1) : Except PerformanceProfileStoreError String := do
  profile.validate
  profileIdForKey foreign profile.key

def fileName (profileId : String) : List UInt8 := utf8 (profileId ++ ".json")

/-- `{sequence:016x}` -/
def hex16 (sequence : Nat) : String :=
  let digits := Nat.toDigits 16 sequence
  .ofList (List.replicate (16 - digits.length) '0' ++ digits)

def temporaryName (processId sequence : Nat) : List UInt8 :=
  utf8 (".profile-" ++ toString processId ++ "-" ++ hex16 sequence ++ ".tmp")

namespace PerformanceProfileStore
variable (store : PerformanceProfileStore)

def validateExistingDestination (name : List UInt8) (calls : StoreCalls) : Except PerformanceProfileStoreError Unit :=
  if !calls.stat then .error .unsafeProfileObject
  else
    match store.directory.get? name with
    | none => .ok ()
    | some file => if validOwnedRegularFile store.uid file then .ok () else .error .unsafeProfileObject

/-- The closure of the source: from the first byte written to the sync of the
directory. -/
def replaceProfile (name temporary : List UInt8) (bytes : List UInt8) (calls : StoreCalls) :
    Except PerformanceProfileStoreError Unit × Directory :=
  let made (bytes : List UInt8) : File := ⟨.regularFile, store.uid, calls.createdMode, bytes⟩
  let directory := store.directory.insert temporary (made (bytes.take (calls.writeStopsAfter.getD bytes.length)))
  if calls.writeStopsAfter.isSome || !calls.flush || !calls.syncFile || !calls.rename then (.error .io, directory)
  else
    let directory := (directory.erase temporary).insert name (made bytes)
    (if calls.syncDirectory then .ok () else .error .durabilityUnknown, directory)

/-- `store` after its checks: the bytes reach the file through a temporary one. -/
def writeProfile (name bytes : List UInt8) (calls : StoreCalls) :
    Except PerformanceProfileStoreError Unit × PerformanceProfileStore :=
  let temporary := temporaryName store.processId store.nextTemporary
  let store := { store with nextTemporary := (store.nextTemporary + 1) % (u64Max + 1) }
  let unlinked (directory : Directory) : Directory := if calls.unlink then directory.erase temporary else directory
  -- the file is created exclusively
  if !calls.openTemporary || (store.directory.get? temporary).isSome then (.error .io, store)
  else
    let empty : File := ⟨.regularFile, store.uid, calls.createdMode, []⟩
    if !calls.statTemporary || !validOwnedRegularFile store.uid empty then
      (.error .unsafeProfileObject, { store with directory := unlinked (store.directory.insert temporary empty) })
    else
      match store.replaceProfile name temporary bytes calls with
      | (.ok (), directory) => (.ok (), { store with directory })
      | (.error error, directory) => (.error error, { store with directory := unlinked directory })

/-- `PerformanceProfileStore::store` -/
def save (profile : C13PerformanceProfileV1) (calls : StoreCalls) :
    Except PerformanceProfileStoreError String × PerformanceProfileStore :=
  let checked : Except PerformanceProfileStoreError (String × List UInt8) := do
    profile.validate
    let profileId ← profile.profileId foreign
    store.validateExistingDestination (fileName profileId) calls
    let bytes ← okOr (foreign.profileToVec profile) .invalidProfile
    if maximumProfileBytes < bytes.length then .error .profileTooLarge else .ok (profileId, bytes)
  match checked with
  | .error error => (.error error, store)
  | .ok (profileId, bytes) =>
    let (written, store) := store.writeProfile (fileName profileId) bytes calls
    (written.map fun _ => profileId, store)

/-- What `load` makes of the bytes of a file. -/
def judge (bytes : List UInt8) (currentKey : PerformanceProfileKey) (nowWallMs : Nat) : PerformanceProfileLoadOutcome :=
  match foreign.profileFromSlice bytes with
  | none => .invalid .malformed
  | some profile =>
    if profile.schemaVersion ≠ profileSchemaVersion then .invalid .schemaUnsupported
    else
      match profile.validate with
      | .error _ => .invalid .malformed
      | .ok () =>
        if profile.key ≠ .fromPlannerKey currentKey then .invalid .keyChanged
        else if nowWallMs < profile.createdWallMs then .invalid .clockMovedBackwards
        else if profile.expiresWallMs ≤ nowWallMs then .invalid .ttlExpired
        else .valid (profile.plannerProfile currentKey)

def load (currentKey : PerformanceProfileKey) (nowWallMs : Nat) (calls : LoadCalls) : PerformanceProfileLoadOutcome :=
  let persistedKey : C13ProfileKeyV1 := .fromPlannerKey currentKey
  if !persistedKey.validate then .invalid .keyChanged
  else
    match profileIdForKey foreign persistedKey with
    | .error _ => .invalid .malformed
    | .ok profileId =>
      match store.directory.get? (fileName profileId) with
      | none => if calls.openFile then .missing else .invalid .unsafeObject
      | some file =>
        let bytes := file.bytes.take (maximumProfileBytes + 1)
        -- the file is opened without following links
        if !calls.openFile || file.fileType = .symlink then .invalid .unsafeObject
        else if !calls.statBefore || !validOwnedRegularFile store.uid file then .invalid .unsafeObject
        else if maximumProfileBytes < file.bytes.length then .invalid .oversized
        else if !calls.read then .invalid .unsafeObject
        else if maximumProfileBytes < bytes.length then .invalid .oversized
        else if !calls.statAfter || !calls.settled then .invalid .unsafeObject
        else judge foreign bytes currentKey nowWallMs

end PerformanceProfileStore

end Store

end PhoneBoost.Host.Profiles
