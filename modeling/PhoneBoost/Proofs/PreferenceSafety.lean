import PhoneBoost.Host.AutoUseControl

/-! The preference in its three places, whatever fails: the controller follows
the view, a view that calls itself saved agrees with the disk, and a store that
could not be read is left alone. -/

namespace PhoneBoost.Host.AutoUse.Proofs
open Keyed
open Secure (Directory File utf8)

/-- What `serde_json` writes for a configuration is a short object that it reads back. -/
def Faithful (codec : ConfigCodec) : Prop :=
  ∀ enabled bytes, codec.toVec ⟨1, enabled⟩ = some bytes →
    codec.fromSlice bytes = some ⟨1, enabled⟩ ∧ bytes.length ≤ 256 ∧
      bytes.find? (fun byte => !isAsciiWhitespace byte) = some openBrace

/-- No call fails. -/
def quietly : ReadCalls := ⟨true, true, true, true, true, true⟩

variable {codec : ConfigCodec}

theorem readFile_quietly {uid : Nat} {file : File} {calls : ReadCalls} {answer : Option Bool}
    (read : Disk.readFile codec uid file calls = .ok answer) : Disk.readFile codec uid file quietly = .ok answer := by
  unfold Disk.readFile at read ⊢
  split at read
  · cases read
  next opened =>
    split at read
    · cases read
    next valid =>
      split at read
      · cases read
      next settled =>
        simp only [Bool.or_eq_true, Bool.not_eq_true', decide_eq_true_eq, not_or, Bool.not_eq_false] at opened valid settled
        simp only [quietly, opened.2, valid.2, settled.1.2, Bool.not_true, decide_false, Bool.or_self, Bool.false_eq_true,
          if_false]
        exact read

theorem validateDirectory_quietly {uid : Nat} {folder : Folder} {stat : Bool}
    (valid : validateDirectory uid folder stat = true) : validateDirectory uid folder quietly.statDirectory = true := by
  simp only [validateDirectory, Bool.and_eq_true] at valid ⊢
  exact ⟨⟨rfl, valid.1.2⟩, valid.2⟩

/-- A read that succeeded is repeated by one without failures. -/
theorem read_quietly {disk : Disk} {calls : ReadCalls} {answer : Option Bool} (read : disk.read codec calls = .ok answer) :
    disk.read codec quietly = .ok answer := by
  unfold Disk.read at read ⊢
  cases present : disk.folder with
  | none =>
    rw [present] at read
    cases read
  | some folder =>
    simp only [present] at read
    split at read
    · cases read
    next valid =>
      dsimp only
      rw [validateDirectory_quietly (by simpa using valid)]
      simp only [Bool.not_true, Bool.false_eq_true, if_false]
      cases stored : folder.entries.get? (utf8 configFile) with
      | none =>
        simp only [stored] at read
        split at read
        · exact read
        · cases read
      | some file =>
        simp only [stored] at read
        exact readFile_quietly read

/-- A file that the process wrote is accepted and read back. -/
theorem readFile_written (faithful : Faithful codec) {uid mode : Nat} {bytes : List UInt8} {enabled : Bool}
    (ownerOnly : permissionBits mode = 0o600) (encoded : codec.toVec ⟨1, enabled⟩ = some bytes) :
    Disk.readFile codec uid ⟨.regularFile, uid, mode, bytes⟩ quietly = .ok (some enabled) := by
  obtain ⟨decoded, short, brace⟩ := faithful enabled bytes encoded
  have whole : bytes.take 257 = bytes := List.take_of_length_le (by omega)
  have long : ¬ 256 < bytes.length := by omega
  simp [Disk.readFile, quietly, validConfigMetadata, ownerOnly, short, whole, long, Disk.parse, decoded, brace]

theorem replaceConfig_ok {uid : Nat} {entries after : Directory} {temp : String} {enabled : Bool} {stage : WriteStage → Bool}
    {calls : WriteCalls} (replaced : Disk.replaceConfig codec uid entries temp enabled stage calls = (.ok (), after)) :
    ∃ bytes, codec.toVec ⟨1, enabled⟩ = some bytes ∧ permissionBits calls.createdMode = 0o600 ∧
      after.get? (utf8 configFile) = some ⟨.regularFile, uid, calls.createdMode, bytes⟩ := by
  unfold Disk.replaceConfig at replaced
  dsimp only at replaced
  split at replaced
  · cases replaced
  next ownerOnly =>
    simp only [Bool.or_eq_true, Bool.not_eq_true', decide_eq_true_eq, not_or, not_not] at ownerOnly
    split at replaced
    · cases replaced
    next bytes encoded =>
      split at replaced
      · cases replaced
      split at replaced
      · cases replaced
      · simp only [Prod.mk.injEq] at replaced
        obtain ⟨-, rfl⟩ := replaced
        exact ⟨bytes, encoded, ownerOnly.2, Table.get?_insert_self ..⟩

/-- After a write that succeeded the disk holds the new value. -/
theorem read_written (faithful : Faithful codec) {disk after : Disk} {enabled : Bool} {stage : WriteStage → Bool}
    {calls : WriteCalls} (written : disk.write codec enabled stage calls = (.ok (), after)) :
    after.read codec quietly = .ok (some enabled) := by
  unfold Disk.write at written
  cases present : disk.folder with
  | none =>
    rw [present] at written
    cases written
  | some folder =>
    simp only [present] at written
    split at written
    · cases written
    next valid =>
      have valid := validateDirectory_quietly (by simpa using valid)
      split at written
      · cases written
      split at written
      next entries replaced =>
        cases written
        obtain ⟨bytes, encoded, ownerOnly, stored⟩ := replaceConfig_ok replaced
        simp only [Disk.read]
        rw [show validateDirectory disk.uid { folder with entries } quietly.statDirectory = true from valid, stored]
        exact readFile_written faithful ownerOnly encoded
      · cases written

/-! One call. -/

/-- The view, the controller and the disk fit together. -/
structure Agrees (codec : ConfigCodec) (daemon : Daemon) (data : PreferenceData) : Prop where
  controller : daemon.controller.enabled = data.view.enabled
  saved : data.view.persistence = .saved → daemon.disk.read codec quietly = .ok (some data.view.enabled)

theorem switched (controller : AutoUseController) (enabled : Bool) :
    (if enabled then controller.enable else controller.disable).enabled = enabled := by
  cases enabled <;> rfl

theorem fromStateHome_agrees (daemon : Daemon) (openCalls : OpenCalls) (readCalls : ReadCalls) :
    ∃ data, (fromStateHome codec daemon openCalls readCalls).control = some data ∧
      Agrees codec (fromStateHome codec daemon openCalls readCalls) data := by
  unfold fromStateHome
  cases daemon.disk.openStore openCalls with
  | mk store disk =>
    refine ⟨_, rfl, ?_, ?_⟩
    · exact switched daemon.controller _
    · dsimp only
      intro saved
      cases store with
      | false => cases saved
      | true =>
        simp only [if_true] at saved ⊢
        cases loaded : disk.read codec readCalls with
        | error =>
          rw [loaded] at saved
          cases saved
        | ok answer =>
          cases answer with
          | none =>
            rw [loaded] at saved
            cases saved
          | some enabled => exact read_quietly loaded

/-- What a change of the preference ends in. -/
inductive SetOutcome (codec : ConfigCodec) (data : PreferenceData) (disk : Disk) (enabled : Bool) (stage : WriteStage → Bool)
    (readCalls : ReadCalls) (writeCalls : WriteCalls) : Except PreferenceWriteFailed AutoUsePreference → Daemon → Prop where
  | refused (invalid : data.invalidStore = true ∨ storeFails codec data disk readCalls = true) (store : Bool) :
      SetOutcome codec data disk enabled stage readCalls writeCalls failed ⟨disk, ⟨false⟩, some ⟨store, ⟨false, .error⟩, true⟩⟩
  | broken {after} (valid : data.invalidStore = false) (readable : storeFails codec data disk readCalls = false)
      (error : disk.write codec enabled stage writeCalls = (failed, after)) :
      SetOutcome codec data disk enabled stage readCalls writeCalls failed
        ⟨after, ⟨false⟩, some ⟨true, ⟨false, .error⟩, false⟩⟩
  | written {after} (valid : data.invalidStore = false) (readable : storeFails codec data disk readCalls = false)
      (done : disk.write codec enabled stage writeCalls = (.ok (), after)) :
      SetOutcome codec data disk enabled stage readCalls writeCalls (.ok ⟨enabled, .saved⟩)
        ⟨after, ⟨enabled⟩, some ⟨true, ⟨enabled, .saved⟩, false⟩⟩

theorem setWith_outcome (data : PreferenceData) (disk : Disk) (controller : AutoUseController) (enabled : Bool)
    (stage : WriteStage → Bool) (readCalls : ReadCalls) (writeCalls : WriteCalls) :
    SetOutcome codec data disk enabled stage readCalls writeCalls
      (setWith codec data disk controller enabled stage readCalls writeCalls).1
      (setWith codec data disk controller enabled stage readCalls writeCalls).2 := by
  unfold setWith
  cases unreadable : storeFails codec data disk readCalls with
  | true =>
    simp only [if_true, Bool.true_or, failed]
    exact .refused (.inr unreadable) data.store
  | false =>
    simp only [Bool.false_eq_true, if_false]
    have opened : data.store = true := by
      simp only [storeFails, Bool.or_eq_false_iff, Bool.not_eq_false'] at unreadable
      exact unreadable.1
    cases invalid : data.invalidStore with
    | true =>
      simp only [Bool.true_or, if_true, failed]
      exact .refused (.inl invalid) data.store
    | false =>
      simp only [opened, Bool.not_true, Bool.or_self, Bool.false_eq_true, if_false]
      rcases done : disk.write codec enabled stage writeCalls with ⟨result, after⟩
      cases result with
      | error error => exact .broken invalid unreadable done
      | ok value =>
        cases enabled with
        | true => exact .written invalid unreadable done
        | false => exact .written invalid unreadable done

theorem SetOutcome.agrees (faithful : Faithful codec) {data : PreferenceData} {disk : Disk} {enabled : Bool}
    {stage : WriteStage → Bool} {readCalls : ReadCalls} {writeCalls : WriteCalls}
    {answer : Except PreferenceWriteFailed AutoUsePreference} {after : Daemon}
    (outcome : SetOutcome codec data disk enabled stage readCalls writeCalls answer after) :
    ∃ later, after.control = some later ∧ Agrees codec after later := by
  cases outcome with
  | refused invalid store => exact ⟨_, rfl, rfl, fun saved => by cases saved⟩
  | broken valid readable error => exact ⟨_, rfl, rfl, fun saved => by cases saved⟩
  | written valid readable done => exact ⟨_, rfl, rfl, fun _ => read_written faithful done⟩

/-- Over whole runs. -/
theorem run_agrees (faithful : Faithful codec) {start : Daemon} (unmade : start.control = none) (calls : List PreferenceCall) :
    ∀ data, (start.run codec calls).control = some data → Agrees codec (start.run codec calls) data := by
  refine Machine.run_induction (fun _ => True)
    (fun _ daemon => ∀ data, daemon.control = some data → Agrees codec daemon data) ?_ ?_ ?_ calls trivial
  · exact fun _ _ _ => trivial
  · intro data made
    rw [unmade] at made
    cases made
  · intro calls call daemon _ agrees data made
    cases call with
    | fromStateHome openCalls readCalls =>
      have made_agrees : ∃ data, (fromStateHome codec daemon openCalls readCalls).control = some data ∧
          Agrees codec (fromStateHome codec daemon openCalls readCalls) data := fromStateHome_agrees daemon openCalls readCalls
      obtain ⟨later, control, agrees⟩ := made_agrees
      rw [Daemon.step, control, Option.some.injEq] at made
      subst later
      exact agrees
    | set enabled stage readCalls writeCalls =>
      cases present : daemon.control with
      | none =>
        simp only [Daemon.step, present] at made
        cases made
      | some earlier =>
        simp only [Daemon.step, present] at made ⊢
        obtain ⟨later, control, agrees⟩ :=
          (setWith_outcome earlier daemon.disk daemon.controller enabled stage readCalls writeCalls).agrees faithful
        rw [control, Option.some.injEq] at made
        subst later
        exact agrees

def isSet : PreferenceCall → Bool
  | .set .. => true
  | .fromStateHome .. => false

/-- The call reads the store and fails to. -/
def readFails (codec : ConfigCodec) (daemon : Daemon) : PreferenceCall → Bool
  | .fromStateHome openCalls readCalls =>
    let (store, disk) := daemon.disk.openStore openCalls
    !store || (disk.read codec readCalls).toOption.isNone
  | .set _ _ readCalls _ => daemon.control.any fun data => storeFails codec data daemon.disk readCalls

/-- The control object has given the store up. -/
def Abandoned (daemon : Daemon) : Prop := ∃ data, daemon.control = some data ∧ data.invalidStore = true

/-- A change on a store that was given up, or cannot be read, does not reach the disk. -/
theorem SetOutcome.abandons {data : PreferenceData} {disk : Disk} {enabled : Bool} {stage : WriteStage → Bool} {readCalls : ReadCalls}
    {writeCalls : WriteCalls} {answer : Except PreferenceWriteFailed AutoUsePreference} {after : Daemon}
    (outcome : SetOutcome codec data disk enabled stage readCalls writeCalls answer after)
    (stuck : data.invalidStore = true ∨ storeFails codec data disk readCalls = true) : Abandoned after ∧ after.disk = disk := by
  cases outcome with
  | refused _ store => exact ⟨⟨_, rfl, rfl⟩, rfl⟩
  | broken valid readable _ | written valid readable _ =>
    rw [valid, readable] at stuck
    exact (stuck.elim Bool.false_ne_true Bool.false_ne_true).elim

theorem readFails_abandoned {daemon : Daemon} {call : PreferenceCall} (fails : readFails codec daemon call = true) :
    Abandoned (daemon.step codec call) ∧ (isSet call = true → (daemon.step codec call).disk = daemon.disk) := by
  cases call with
  | fromStateHome openCalls readCalls =>
    rcases opened : daemon.disk.openStore openCalls with ⟨store, disk⟩
    simp only [readFails, opened] at fails
    simp only [Daemon.step, fromStateHome, opened]
    refine ⟨⟨_, rfl, ?_⟩, fun set => by cases set⟩
    cases store with
    | false => rfl
    | true =>
      simp only [if_true]
      cases loaded : disk.read codec readCalls with
      | error error => rfl
      | ok answer =>
        rw [loaded] at fails
        cases fails
  | set enabled stage readCalls writeCalls =>
    obtain ⟨data, present, unreadable⟩ := (Option.any_eq_true ..).mp fails
    simp only [Daemon.step, present]
    have abandons := SetOutcome.abandons
      (setWith_outcome data daemon.disk daemon.controller enabled stage readCalls writeCalls) (.inr unreadable)
    exact ⟨abandons.1, fun _ => abandons.2⟩

/-- An abandoned store is neither written nor read into use again. -/
theorem Abandoned.set {daemon : Daemon} (abandoned : Abandoned daemon) {call : PreferenceCall} (set : isSet call = true) :
    Abandoned (daemon.step codec call) ∧ (daemon.step codec call).disk = daemon.disk := by
  obtain ⟨data, present, invalid⟩ := abandoned
  cases call with
  | fromStateHome openCalls readCalls => cases set
  | set enabled stage readCalls writeCalls =>
    simp only [Daemon.step, present]
    exact SetOutcome.abandons (setWith_outcome data daemon.disk daemon.controller enabled stage readCalls writeCalls)
      (.inl invalid)

theorem Abandoned.run {daemon : Daemon} (abandoned : Abandoned daemon) {calls : List PreferenceCall}
    (sets : ∀ call ∈ calls, isSet call = true) : (daemon.run codec calls).disk = daemon.disk := by
  induction calls generalizing daemon with
  | nil => rfl
  | cons call rest ih =>
    have kept : Abandoned (daemon.step codec call) ∧ (daemon.step codec call).disk = daemon.disk :=
      abandoned.set (sets call (.head _))
    obtain ⟨still, same⟩ := kept
    exact (ih still fun other member => sets other (.tail _ member)).trans same

/-- The controller follows the view and a saved view agrees with the disk; a
failed change turns automatic use off; and once the control object could not
read the store, none of its changes touches the disk again. -/
theorem preference_safety (faithful : Faithful codec) (start : Daemon) (unmade : start.control = none)
    (calls : List PreferenceCall) :
    let daemon := start.run codec calls
    (∀ data, daemon.control = some data → daemon.controller.enabled = data.view.enabled ∧
      (data.view.persistence = .saved → daemon.disk.read codec quietly = .ok (some data.view.enabled))) ∧
    (∀ data enabled stage readCalls writeCalls, daemon.control = some data →
      let answer := setWith codec data daemon.disk daemon.controller enabled stage readCalls writeCalls
      answer.1 = failed → answer.2.controller.enabled = false ∧
        answer.2.control.map PreferenceData.view = some ⟨false, .error⟩) ∧
    ∀ call later, readFails codec daemon call = true → (∀ other ∈ later, isSet other = true) →
      (isSet call = true → (daemon.step codec call).disk = daemon.disk) ∧
      (daemon.run codec (call :: later)).disk = (daemon.step codec call).disk := by
  intro daemon
  refine ⟨?_, ?_, ?_⟩
  · intro data made
    have agrees := run_agrees faithful unmade calls data made
    exact ⟨agrees.controller, agrees.saved⟩
  · intro data enabled stage readCalls writeCalls made answer fails
    have outcome : SetOutcome codec data daemon.disk enabled stage readCalls writeCalls answer.1 answer.2 :=
      setWith_outcome data daemon.disk daemon.controller enabled stage readCalls writeCalls
    generalize answer.1 = result at outcome fails
    generalize answer.2 = after at outcome
    cases outcome with
    | refused invalid store => exact ⟨rfl, rfl⟩
    | broken valid readable error => exact ⟨rfl, rfl⟩
    | written valid readable done => cases fails
  · intro call later fails sets
    have abandoned := readFails_abandoned fails
    exact ⟨abandoned.2, abandoned.1.run sets⟩

/-- The two texts that the store writes. -/
def configText (enabled : Bool) : List UInt8 :=
  utf8 (if enabled then "\x7b\"schema_version\":1,\"auto_use_enabled\":true\x7d"
    else "\x7b\"schema_version\":1,\"auto_use_enabled\":false\x7d")

def jsonCodec : ConfigCodec where
  toVec config := some (configText config.autoUseEnabled)
  fromSlice bytes :=
    if bytes = configText true then some ⟨1, true⟩ else if bytes = configText false then some ⟨1, false⟩ else none

theorem jsonCodec_faithful : Faithful jsonCodec := by
  intro enabled bytes encoded
  cases enabled with
  | true =>
    cases encoded
    decide +kernel
  | false =>
    cases encoded
    decide +kernel

def emptyHome : Daemon := ⟨⟨1000, 77, 1, none⟩, ⟨false⟩, none⟩

def freshHome : OpenCalls := ⟨true, true, true, 1000, true, 0o700, true, true, true⟩

def allWritten : WriteCalls := ⟨true, true, true, 0o600, none, true, true, true, true⟩

/-- In an empty home automatic use starts enabled; a change that is written lasts, and one whose last sync fails does not count. -/
theorem preference_safety_written :
    let made : List PreferenceCall := [.fromStateHome freshHome quietly, .set false (fun _ => true) quietly allWritten]
    let daemon := emptyHome.run jsonCodec made
    daemon.disk.read jsonCodec quietly = .ok (some false) ∧
    (setWith jsonCodec ⟨true, ⟨false, .saved⟩, false⟩ daemon.disk daemon.controller true (· ≠ .directorySync) quietly
      allWritten).2.controller.enabled = false := by
  intro made daemon
  have safety := preference_safety jsonCodec_faithful emptyHome rfl made
  have control : daemon.control = some ⟨true, ⟨false, .saved⟩, false⟩ := by decide +kernel
  exact ⟨(safety.1 _ control).2 rfl,
    (safety.2.1 _ true (· ≠ .directorySync) quietly allWritten control (by decide +kernel)).1⟩

end PhoneBoost.Host.AutoUse.Proofs
