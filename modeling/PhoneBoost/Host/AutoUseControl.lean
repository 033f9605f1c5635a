import PhoneBoost.Lib.Machine
import PhoneBoost.Secure.Storage

/-! The durable preference for automatic use. The preference lives in three
places: the controller, the view of the control object and a file on disk. What
the kernel answers to each system call is an argument of the operation that
makes it. -/

namespace PhoneBoost.Host.AutoUse
open Keyed
open Secure (Directory File FileType utf8)

def configFile : String := "config.json"

inductive PreferencePersistence where
  | default | saved | error
deriving DecidableEq, Repr

structure AutoUsePreference where
  enabled : Bool
  persistence : PreferencePersistence
deriving DecidableEq, Repr

structure PreferenceWriteFailed where
deriving DecidableEq, Repr

def failed {α : Type u} : Except PreferenceWriteFailed α := .error ⟨⟩

structure Config where
  schemaVersion : UInt8
  autoUseEnabled : Bool
deriving DecidableEq, Repr

/-- The JSON of the configuration as `serde_json` writes and reads it. -/
structure ConfigCodec where
  toVec : Config → Option (List UInt8)
  fromSlice : List UInt8 → Option Config

inductive WriteStage where
  | write | fileSync | rename | directorySync
deriving DecidableEq, Repr

/-- The directory `phoneboost` below the state home. -/
structure Folder where
  uid : Nat
  mode : Nat
  entries : Directory

/-- What the process finds and brings: its user, its id, the counter behind the
names of temporary files and the folder once it exists. -/
structure Disk where
  uid : Nat
  processId : Nat
  nextTemp : Nat
  folder : Option Folder

def permissionBits (mode : Nat) : Nat := mode % 0o10000

def validConfigMetadata (uid : Nat) (file : File) : Bool :=
  file.fileType = .regularFile && file.uid = uid && permissionBits file.mode = 0o600 && file.bytes.length ≤ 256

def validateDirectory (uid : Nat) (folder : Folder) (stat : Bool) : Bool :=
  stat && folder.uid = uid && permissionBits folder.mode = 0o700

/-- The answers to the calls of one `open`: `walk` is the descent from the root
through directories that are no links, `mkdir` fails for any reason but that the
folder exists. -/
structure OpenCalls where
  absolute : Bool
  walk : Bool
  statHome : Bool
  homeUid : Nat
  mkdir : Bool
  createdMode : Nat
  syncHome : Bool
  openFolder : Bool
  statFolder : Bool
deriving DecidableEq, Repr

/-- The answers to the calls of one `read`: `openFile` fails for any reason but
that the file is missing, `settled` compares the two stats. -/
structure ReadCalls where
  statDirectory : Bool
  openFile : Bool
  statBefore : Bool
  read : Bool
  statAfter : Bool
  settled : Bool
deriving DecidableEq, Repr

/-- The answers to the calls of one `write`. A `write_all` that fails has stored
some first bytes; `createdMode` is what the umask left. -/
structure WriteCalls where
  statDirectory : Bool
  openTemp : Bool
  statTemp : Bool
  createdMode : Nat
  writeStopsAfter : Option Nat
  syncFile : Bool
  rename : Bool
  syncDirectory : Bool
  unlink : Bool
deriving DecidableEq, Repr

def isAsciiWhitespace (byte : UInt8) : Bool := byte = 32 || byte = 9 || byte = 10 || byte = 12 || byte = 13

def openBrace : UInt8 := 0x7b

def tempName (processId sequence : Nat) : String := ".config-" ++ toString processId ++ "-" ++ toString sequence ++ ".tmp"

namespace Disk
variable (codec : ConfigCodec)

/-- `ConfigStore::open`; a folder that was just made stays when the call fails. -/
def openStore (disk : Disk) (calls : OpenCalls) : Bool × Disk :=
  if !calls.absolute || !calls.walk || !calls.statHome || calls.homeUid ≠ disk.uid || !calls.mkdir then (false, disk)
  else
    match disk.folder with
    | some folder => (calls.openFolder && validateDirectory disk.uid folder calls.statFolder, disk)
    | none =>
      let folder : Folder := ⟨disk.uid, calls.createdMode, .empty⟩
      (calls.syncHome && calls.openFolder && validateDirectory disk.uid folder calls.statFolder,
        { disk with folder := some folder })

/-- What the reader makes of the bytes. -/
def parse (bytes : List UInt8) : Except PreferenceWriteFailed (Option Bool) :=
  if bytes.find? (fun byte => !isAsciiWhitespace byte) ≠ some openBrace then failed
  else
    match codec.fromSlice bytes with
    | none => failed
    | some config => if config.schemaVersion ≠ 1 then failed else .ok (some config.autoUseEnabled)

def readFile (uid : Nat) (file : File) (calls : ReadCalls) : Except PreferenceWriteFailed (Option Bool) :=
  -- the file is opened without following links
  if !calls.openFile || file.fileType = .symlink then failed
  else if !calls.statBefore || !validConfigMetadata uid file then failed
  else if !calls.read || !calls.statAfter || 256 < (file.bytes.take 257).length || !calls.settled then failed
  else parse codec (file.bytes.take 257)

def read (disk : Disk) (calls : ReadCalls) : Except PreferenceWriteFailed (Option Bool) :=
  match disk.folder with
  | none => failed
  | some folder =>
    if !validateDirectory disk.uid folder calls.statDirectory then failed
    else
      match folder.entries.get? (utf8 configFile) with
      | none => if calls.openFile then .ok none else failed
      | some file => readFile codec disk.uid file calls

/-- The closure of the source: everything between the creation of the temporary
file and the clean-up after a failure. -/
def replaceConfig (uid : Nat) (entries : Directory) (temp : String) (enabled : Bool) (stage : WriteStage → Bool)
    (calls : WriteCalls) : Except PreferenceWriteFailed Unit × Directory :=
  let made (bytes : List UInt8) : File := ⟨.regularFile, uid, calls.createdMode, bytes⟩
  let entries := entries.insert (utf8 temp) (made [])
  if !calls.statTemp || permissionBits calls.createdMode ≠ 0o600 then (failed, entries)
  else
    match codec.toVec ⟨1, enabled⟩ with
    | none => (failed, entries)
    | some bytes =>
      if !stage .write then (failed, entries)
      else
        let entries := entries.insert (utf8 temp) (made (bytes.take (calls.writeStopsAfter.getD bytes.length)))
        if calls.writeStopsAfter.isSome || !stage .fileSync || !calls.syncFile || !stage .rename || !calls.rename then
          (failed, entries)
        else
          let entries := (entries.erase (utf8 temp)).insert (utf8 configFile) (made bytes)
          (if stage .directorySync && calls.syncDirectory then .ok () else failed, entries)

def write (disk : Disk) (enabled : Bool) (stage : WriteStage → Bool) (calls : WriteCalls) :
    Except PreferenceWriteFailed Unit × Disk :=
  match disk.folder with
  | none => (failed, disk)
  | some folder =>
    if !validateDirectory disk.uid folder calls.statDirectory then (failed, disk)
    else
      let temp := tempName disk.processId disk.nextTemp
      let disk := { disk with nextTemp := (disk.nextTemp + 1) % (u64Max + 1) }
      if !calls.openTemp || (folder.entries.get? (utf8 temp)).isSome then (failed, disk)
      else
        match replaceConfig codec disk.uid folder.entries temp enabled stage calls with
        | (.ok (), entries) => (.ok (), { disk with folder := some { folder with entries } })
        | (.error error, entries) =>
          let entries := if calls.unlink then entries.erase (utf8 temp) else entries
          (.error error, { disk with folder := some { folder with entries } })

end Disk

/-- The scheduler behind the preference, as far as the preference reaches. -/
structure AutoUseController where
  enabled : Bool
deriving DecidableEq, Repr

def AutoUseController.enable (_ : AutoUseController) : AutoUseController := ⟨true⟩

def AutoUseController.disable (_ : AutoUseController) : AutoUseController := ⟨false⟩

/-- `store` tells whether the folder was opened. -/
structure PreferenceData where
  store : Bool
  view : AutoUsePreference
  invalidStore : Bool
deriving DecidableEq, Repr

/-- The daemon: the last control object it made, the controller and the disk. -/
structure Daemon where
  disk : Disk
  controller : AutoUseController
  control : Option PreferenceData

section Control
variable (codec : ConfigCodec)

/-- What a control object makes of its first read. -/
def startingData (store : Bool) : Except PreferenceWriteFailed (Option Bool) → PreferenceData
  | .ok (some enabled) => ⟨store, ⟨enabled, .saved⟩, false⟩
  | .ok none => ⟨store, ⟨true, .default⟩, false⟩
  | .error _ => ⟨store, ⟨false, .error⟩, true⟩

def fromStateHome (daemon : Daemon) (openCalls : OpenCalls) (readCalls : ReadCalls) : Daemon :=
  let (store, disk) := daemon.disk.openStore openCalls
  let loaded := if store then disk.read codec readCalls else failed
  let data := startingData store loaded
  { disk
    controller := if data.view.enabled then daemon.controller.enable else daemon.controller.disable
    control := some data }

/-- The read with which every change of the preference starts. -/
def storeFails (data : PreferenceData) (disk : Disk) (calls : ReadCalls) : Bool :=
  !data.store || (disk.read codec calls).toOption.isNone

def setWith (data : PreferenceData) (disk : Disk) (controller : AutoUseController) (enabled : Bool)
    (stage : WriteStage → Bool) (readCalls : ReadCalls) (writeCalls : WriteCalls) :
    Except PreferenceWriteFailed AutoUsePreference × Daemon :=
  let controller := if enabled then controller else controller.disable
  let data := if storeFails codec data disk readCalls then { data with invalidStore := true } else data
  let (written, disk) :=
    if data.invalidStore || !data.store then (failed, disk) else disk.write codec enabled stage writeCalls
  match written with
  | .error _ => (failed, ⟨disk, controller.disable, some { data with view := ⟨false, .error⟩ }⟩)
  | .ok () =>
    let view : AutoUsePreference := ⟨enabled, .saved⟩
    (.ok view, ⟨disk, if enabled then controller.enable else controller, some { data with view }⟩)

inductive PreferenceCall where
  | fromStateHome (openCalls : OpenCalls) (readCalls : ReadCalls)
  | set (enabled : Bool) (stage : WriteStage → Bool) (readCalls : ReadCalls) (writeCalls : WriteCalls)

def Daemon.step (daemon : Daemon) : PreferenceCall → Daemon
  | .fromStateHome openCalls readCalls => fromStateHome codec daemon openCalls readCalls
  | .set enabled stage readCalls writeCalls =>
    match daemon.control with
    | none => daemon
    | some data => (setWith codec data daemon.disk daemon.controller enabled stage readCalls writeCalls).2

def Daemon.run (daemon : Daemon) (calls : List PreferenceCall) : Daemon := Machine.run (Daemon.step codec) daemon calls

end Control

end PhoneBoost.Host.AutoUse
