import PhoneBoost.Lib.Table
import PhoneBoost.Secure.Pairing

/-! The private state directory of an endpoint: its identity, the pairing guard
and one file for each trusted peer. Directories are tables of files. What the
kernel answers to each system call of a write is an argument of that write;
reads return what the directory holds. -/

namespace PhoneBoost.Secure
open Keyed

def identityFile : String := "identity.key"
def guardFile : String := "pairing_guard.json"
def authorityMode : Nat := 0o600
def maxAuthorityBytes : Nat := 16 * 1024
def maxPeers : Nat := 64

inductive StorageError where
  | stateRootUnavailable | unsafePath | io | corruptIdentity | corruptGuard | corruptPeer | tooManyPeers
deriving DecidableEq, Repr

/-- A field value of a JSON object. `number` is any number that is not a `u64`,
`compound` an array or an object: no reader looks into them. -/
inductive Scalar where
  | null | bool (value : Bool) | u64 (value : UInt64) | number | string (text : String) | compound
deriving DecidableEq, Repr

def Scalar.asU64 : Scalar → Option UInt64
  | .u64 value => some value
  | _ => none

def Scalar.asStr : Scalar → Option String
  | .string text => some text
  | _ => none

abbrev Object := Table String Scalar

inductive Json where
  | object (fields : Object)
  | other (value : Scalar)

/-- The functions of other crates that the store calls. -/
structure Foreign where
  toVec : Object → List UInt8
  fromSlice : List UInt8 → Option Json
  sha256 : Bytes32 → Bytes32
  mulBaseClamped : Bytes32 → Bytes32

def utf8 (text : String) : List UInt8 := text.toByteArray.data.toList

/-- Each byte pushed as the `char` of the same code. -/
def pushed (bytes : List UInt8) : String := .ofList (bytes.map Char.ofUInt8)

def hexDigits : List UInt8 := utf8 "0123456789abcdef"

def hexEncode (bytes : List UInt8) : String :=
  pushed (bytes.flatMap fun (byte : UInt8) => [hexDigits.getD (byte >>> 4).toNat 0, hexDigits.getD (byte &&& 0x0f).toNat 0])

def base64Alphabet : List UInt8 := utf8 "ABCDEFGHIJKLMNOPQRSTUVWXYZabcdefghijklmnopqrstuvwxyz0123456789+/"

def base64Pad : UInt8 := 61

/-- The digit of `word` that starts at bit `6 * place`. -/
def base64Digit (word place : Nat) : UInt8 := base64Alphabet.getD (word / 64 ^ place % 64) 0

/-- Three bytes are one 24-bit word of four digits; missing bytes count as zero. -/
def base64Chunks : List UInt8 → List UInt8
  | a :: b :: c :: rest =>
    let word := a.toNat * 65536 + b.toNat * 256 + c.toNat
    base64Digit word 3 :: base64Digit word 2 :: base64Digit word 1 :: base64Digit word 0 :: base64Chunks rest
  | [a, b] =>
    let word := a.toNat * 65536 + b.toNat * 256
    [base64Digit word 3, base64Digit word 2, base64Digit word 1, base64Pad]
  | [a] =>
    let word := a.toNat * 65536
    [base64Digit word 3, base64Digit word 2, base64Pad, base64Pad]
  | [] => []

def base64Encode (bytes : List UInt8) : String := pushed (base64Chunks bytes)

def base64Value (byte : UInt8) : Option Nat :=
  if 65 ≤ byte && byte ≤ 90 then some (byte.toNat - 65)
  else if 97 ≤ byte && byte ≤ 122 then some (byte.toNat - 97 + 26)
  else if 48 ≤ byte && byte ≤ 57 then some (byte.toNat - 48 + 52)
  else if byte = 43 then some 62
  else if byte = 47 then some 63
  else none

/-- A digit that padding may stand for. -/
def base64Padded (byte : UInt8) : Option Nat := if byte = base64Pad then some 0 else base64Value byte

/-- The whole groups of four; what is left after them is not looked at. -/
def base64Bytes : List UInt8 → Option (List UInt8)
  | first :: second :: third :: fourth :: rest => do
    let a ← base64Value first
    let b ← base64Value second
    let c ← base64Padded third
    let d ← base64Padded fourth
    let word := a * 262144 + b * 4096 + c * 64 + d
    let low := (if third = base64Pad then [] else [UInt8.ofNat (word / 256)])
      ++ (if fourth = base64Pad then [] else [UInt8.ofNat word])
    let bytes ← base64Bytes rest
    return UInt8.ofNat (word / 65536) :: (low ++ bytes)
  | _ => some []

def base64Decode32 (value : String) : Except StorageError Bytes32 :=
  if value.utf8ByteSize ≠ 44 || (utf8 value).getLast? ≠ some base64Pad then .error .corruptPeer
  else
    match base64Bytes (utf8 value) with
    | none => .error .corruptPeer
    | some bytes => if sized : bytes.toArray.size = 32 then .ok ⟨bytes.toArray, sized⟩ else .error .corruptPeer

structure PeerRecord where
  schemaVersion : UInt64
  peerId : String
  staticPublicKey : Bytes32
  aliasText : String
  pairedWallMs : UInt64
  lastSeenWallMs : UInt64
  coreVersion : UInt64
  pbmuxVersion : UInt64
deriving DecidableEq

structure Identity where
  privateKey : Bytes32
  publicKey : Bytes32
deriving DecidableEq

inductive FileType where
  | regularFile | directory | symlink | special
deriving DecidableEq, Repr

structure File where
  fileType : FileType
  uid : Nat
  mode : Nat
  bytes : List UInt8
deriving DecidableEq, Repr

abbrev Directory := Table (List UInt8) File

/-- The two directories and what the process brings to them: its user, its id
and the counter behind the names of temporary files. -/
structure StateStore where
  uid : Nat
  processId : Nat
  tempSequence : Nat
  root : Directory
  peers : Directory

/-- What the kernel answers to the calls of one `atomicWrite`. A `write` that
fails has stored some first bytes; `createdMode` is what the umask left. -/
structure WriteCalls where
  openTemp : Bool
  writeStopsAfter : Option Nat
  syncAll : Bool
  fstat : Bool
  createdMode : Nat
  rename : Bool
  syncDirectory : Bool
  unlink : Bool
deriving DecidableEq, Repr

def permissionBits (mode : Nat) : Nat := mode % 512

def tempName (processId sequence : Nat) : String := ".tmp-" ++ toString processId ++ "-" ++ toString sequence

/-- The closure of the source: everything between the creation of the temporary
file and the clean-up after a failure. -/
def writeAndRename (directory : Directory) (name temp : String) (made : File) (calls : WriteCalls) :
    Except StorageError Unit × Directory :=
  if calls.writeStopsAfter.isSome || !calls.syncAll || !calls.fstat then (.error .io, directory)
  else if made.fileType ≠ .regularFile || permissionBits made.mode ≠ authorityMode then (.error .unsafePath, directory)
  else if !calls.rename then (.error .io, directory)
  else
    let directory := (directory.erase (utf8 temp)).insert (utf8 name) made
    (if calls.syncDirectory then .ok () else .error .io, directory)

def atomicWrite (uid : Nat) (directory : Directory) (name temp : String) (bytes : List UInt8) (calls : WriteCalls) :
    Except StorageError Unit × Directory :=
  if name.toList.contains '/' || name.toList.head? = some '.' then (.error .unsafePath, directory)
  else if !calls.openTemp || (directory.get? (utf8 temp)).isSome then (.error .io, directory)
  else
    let made : File := ⟨.regularFile, uid, calls.createdMode, bytes.take (calls.writeStopsAfter.getD bytes.length)⟩
    match writeAndRename (directory.insert (utf8 temp) made) name temp made calls with
    | (.ok (), directory) => (.ok (), directory)
    | (.error error, directory) => (.error error, if calls.unlink then directory.erase (utf8 temp) else directory)

def readAuthority (uid : Nat) (directory : Directory) (name : String) : Except StorageError (List UInt8) :=
  match directory.get? (utf8 name) with
  | none => .error .unsafePath
  | some file =>
    if file.fileType ≠ .regularFile || file.uid ≠ uid || permissionBits file.mode ≠ authorityMode
        || maxAuthorityBytes < file.bytes.length then .error .unsafePath
    else .ok file.bytes

def requiredString (fields : Object) (key : String) : Except StorageError String :=
  match (fields.get? key).bind Scalar.asStr with
  | some text => .ok text
  | none => .error .corruptPeer

def requiredU64 (fields : Object) (key : String) : Except StorageError UInt64 :=
  match (fields.get? key).bind Scalar.asU64 with
  | some value => .ok value
  | none => .error .corruptPeer

def Json.asObject : Json → Option Object
  | .object fields => some fields
  | .other _ => none

def peerFields : List String :=
  ["schema_version", "peer_id", "static_public_key_b64", "alias", "paired_wall_ms", "last_seen_wall_ms",
    "core_version", "pbmux_version"]

def peerObject (record : PeerRecord) : Object where
  rows :=
    [("schema_version", .u64 record.schemaVersion),
      ("peer_id", .string record.peerId),
      ("static_public_key_b64", .string (base64Encode record.staticPublicKey.toList)),
      ("alias", .string record.aliasText),
      ("paired_wall_ms", .u64 record.pairedWallMs),
      ("last_seen_wall_ms", .u64 record.lastSeenWallMs),
      ("core_version", .u64 record.coreVersion),
      ("pbmux_version", .u64 record.pbmuxVersion)]
  distinct := by
    simp only [List.map_cons, List.map_nil]
    decide

def guardObject (guard : PairingGuard) : Object where
  rows :=
    [("schema_version", .u64 1),
      ("mismatch_count", .u64 guard.mismatchCount.toUInt64),
      ("cooldown_until_wall_ms", match guard.cooldownUntilWallMs with
        | some expiry => .u64 expiry
        | none => .null),
      ("updated_wall_ms", .u64 guard.updatedWallMs)]
  distinct := by
    simp only [List.map_cons, List.map_nil]
    decide

def newline : UInt8 := 10

section Records
variable (foreign : Foreign)

def peerId (key : Bytes32) : String := hexEncode (foreign.sha256 key).toList

def PeerRecord.new (key : Bytes32) (aliasText : String) (nowMs : UInt64) : PeerRecord where
  schemaVersion := 1
  peerId := Secure.peerId foreign key
  staticPublicKey := key
  aliasText
  pairedWallMs := nowMs
  lastSeenWallMs := nowMs
  coreVersion := 1
  pbmuxVersion := 1

def allZero (key : Bytes32) : Bool := key.toList.all (· == 0)

def validatePeer (record : PeerRecord) : Except StorageError Unit :=
  if record.schemaVersion ≠ 1 || record.coreVersion ≠ 1 || record.pbmuxVersion ≠ 1
      || record.peerId ≠ peerId foreign record.staticPublicKey || record.aliasText.utf8ByteSize = 0
      || 128 < record.aliasText.utf8ByteSize || allZero record.staticPublicKey then .error .corruptPeer
  else .ok ()

def parsePeer (bytes : List UInt8) : Except StorageError PeerRecord :=
  match (foreign.fromSlice bytes).bind Json.asObject with
  | none => .error .corruptPeer
  | some fields =>
    if fields.size ≠ peerFields.length || peerFields.any fun key => (fields.get? key).isNone then .error .corruptPeer
    else do
      let key ← base64Decode32 (← requiredString fields "static_public_key_b64")
      let record : PeerRecord := {
        schemaVersion := ← requiredU64 fields "schema_version"
        peerId := ← requiredString fields "peer_id"
        staticPublicKey := key
        aliasText := ← requiredString fields "alias"
        pairedWallMs := ← requiredU64 fields "paired_wall_ms"
        lastSeenWallMs := ← requiredU64 fields "last_seen_wall_ms"
        coreVersion := ← requiredU64 fields "core_version"
        pbmuxVersion := ← requiredU64 fields "pbmux_version" }
      validatePeer foreign record
      return record

def parseGuard (bytes : List UInt8) : Except StorageError PairingGuard :=
  match (foreign.fromSlice bytes).bind Json.asObject with
  | none => .error .corruptGuard
  | some fields =>
    if fields.size ≠ 4 || (fields.get? "schema_version").bind Scalar.asU64 ≠ some 1 then .error .corruptGuard
    else
      match (fields.get? "mismatch_count").bind Scalar.asU64 with
      | none => .error .corruptGuard
      | some count =>
        if 255 < count then .error .corruptGuard
        else
          let cooldown : Option (Option UInt64) :=
            match fields.get? "cooldown_until_wall_ms" with
            | none => none
            | some .null => some none
            | some value => value.asU64.map some
          match cooldown, (fields.get? "updated_wall_ms").bind Scalar.asU64 with
          | some cooldownUntilWallMs, some updatedWallMs => .ok ⟨count.toUInt8, cooldownUntilWallMs, updatedWallMs⟩
          | _, _ => .error .corruptGuard

end Records

def endsWith (text tail : String) : Bool := (utf8 tail).isSuffixOf (utf8 text)

/-- The directory scan of `loadPeers`: names of temporary files are passed over,
every other name has to be one that a commit could have written. -/
def listPeers : List (List UInt8) → List String → Except StorageError (List String)
  | [], names => .ok names
  | raw :: rest, names =>
    if (utf8 ".tmp-").isPrefixOf raw then listPeers rest names
    else
      match String.fromUTF8? ⟨raw.toArray⟩ with
      | none => .error .corruptPeer
      | some name =>
        if !endsWith name ".json" || name.utf8ByteSize ≠ 64 + 5 then .error .corruptPeer
        else if maxPeers < (names ++ [name]).length then .error .tooManyPeers
        else listPeers rest (names ++ [name])

namespace StateStore
variable (foreign : Foreign)

/-- The name of the next temporary file; the counter is a wrapping `u64`. -/
def nextTemp (store : StateStore) : String × StateStore :=
  (tempName store.processId store.tempSequence, { store with tempSequence := (store.tempSequence + 1) % (u64Max + 1) })

def writeRoot (store : StateStore) (name : String) (bytes : List UInt8) (calls : WriteCalls) :
    Except StorageError Unit × StateStore :=
  let (temp, store) := store.nextTemp
  let (result, root) := atomicWrite store.uid store.root name temp bytes calls
  (result, { store with root })

def writePeers (store : StateStore) (name : String) (bytes : List UInt8) (calls : WriteCalls) :
    Except StorageError Unit × StateStore :=
  let (temp, store) := store.nextTemp
  let (result, peers) := atomicWrite store.uid store.peers name temp bytes calls
  (result, { store with peers })

def loadIdentity (store : StateStore) : Except StorageError Identity :=
  match readAuthority store.uid store.root identityFile with
  | .error _ => .error .corruptIdentity
  | .ok bytes =>
    if sized : bytes.toArray.size = 32 then
      let privateKey : Bytes32 := ⟨bytes.toArray, sized⟩
      let publicKey := foreign.mulBaseClamped privateKey
      if allZero privateKey || allZero publicKey then .error .corruptIdentity else .ok ⟨privateKey, publicKey⟩
    else .error .corruptIdentity

/-- `random` is what the random device gives when a new identity is needed. -/
def loadOrCreateIdentity (store : StateStore) (random : Option Bytes32) (calls : WriteCalls) :
    Except StorageError Identity × StateStore :=
  if (store.root.get? (utf8 identityFile)).isSome then (store.loadIdentity foreign, store)
  else
    match random with
    | none => (.error .io, store)
    | some privateKey =>
      if allZero privateKey then (.error .io, store)
      else
        match store.writeRoot identityFile privateKey.toList calls with
        | (.error error, store) => (.error error, store)
        | (.ok (), store) => (store.loadIdentity foreign, store)

def loadGuard (store : StateStore) (nowMs : UInt64) : Except StorageError PairingGuard :=
  if (store.root.get? (utf8 guardFile)).isNone then .ok (.new nowMs)
  else do parseGuard foreign (← readAuthority store.uid store.root guardFile)

def persistGuard (store : StateStore) (guard : PairingGuard) (calls : WriteCalls) :
    Except StorageError Unit × StateStore :=
  store.writeRoot guardFile (foreign.toVec (guardObject guard) ++ [newline]) calls

def loadPeer (store : StateStore) (name : String) : Except StorageError PeerRecord := do
  let record ← parsePeer foreign (← readAuthority store.uid store.peers name)
  if name ≠ record.peerId ++ ".json" then .error .corruptPeer else .ok record

def loadPeers (store : StateStore) : Except StorageError (List PeerRecord) := do
  let names ← listPeers (store.peers.rows.map Prod.fst) []
  (names.mergeSort fun a b => decide (a ≤ b)).mapM (store.loadPeer foreign)

def commitPeer (store : StateStore) (record : PeerRecord) (calls : WriteCalls) :
    Except StorageError Unit × StateStore :=
  match validatePeer foreign record with
  | .error error => (.error error, store)
  | .ok () => store.writePeers (record.peerId ++ ".json") (foreign.toVec (peerObject record) ++ [newline]) calls

end StateStore

end PhoneBoost.Secure
