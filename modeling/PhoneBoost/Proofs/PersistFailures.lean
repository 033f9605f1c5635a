import PhoneBoost.Proofs.StoreReload

/-! Failed writes. An error is no trust as long as it comes before the rename;
an error of the directory sync comes after it. -/

namespace PhoneBoost.Secure.Proofs
open Keyed Wire

variable {foreign : Foreign} {calls : WriteCalls}

/-- The write fails once readers already see the new file. -/
def FailsAfterRename (calls : WriteCalls) : Bool := Renames calls && !calls.syncDirectory

/-- A commit that reports an error adds no key to what a later load returns. -/
def KeepsTrust (foreign : Foreign) (calls : WriteCalls) : Prop :=
  ∀ runtime key nowMs error runtime',
    SecureRuntime.commitPeer foreign runtime key nowMs calls = (.error error, runtime') →
    ∀ loaded', runtime'.store.loadPeers foreign = .ok loaded' → key ∈ loaded'.map PeerRecord.staticPublicKey →
    ∃ loaded, runtime.store.loadPeers foreign = .ok loaded ∧ key ∈ loaded.map PeerRecord.staticPublicKey

/-- A guard whose write reports an error is not loaded later. -/
def KeepsGuard (foreign : Foreign) (calls : WriteCalls) : Prop :=
  ∀ store guard error store', StateStore.persistGuard foreign store guard calls = (.error error, store') →
    ∀ nowMs, store'.loadGuard foreign nowMs = store.loadGuard foreign nowMs

/-- A write that fails before the rename, as readers see it. -/
theorem Wrote.unseen {uid : Nat} {directory after : Directory} {name temp : String} {bytes : List UInt8}
    {error : StorageError} (early : FailsAfterRename calls = false) (hidden : temporary (utf8 temp) = true)
    (wrote : Wrote uid directory name temp bytes calls (.error error) after) :
    visible after = visible directory ∧ ∀ raw, temporary raw = false → after.get? raw = directory.get? raw := by
  generalize result_eq : (Except.error error : Except StorageError Unit) = result at wrote
  cases wrote with
  | renamed _ _ renames =>
    have synced : calls.syncDirectory = true := by simpa [FailsAfterRename, renames] using early
    rw [if_pos synced] at result_eq
    cases result_eq
  | kept => exact ⟨rfl, fun _ _ => rfl⟩
  | leftover _ left absent =>
    refine ⟨visible_insert_temporary hidden absent left, ?_⟩
    intro raw shown
    apply Table.get?_insert_of_ne
    rintro rfl
    rw [hidden] at shown
    cases shown

theorem commitPeer_error {store store' : StateStore} {record : PeerRecord} {error : StorageError}
    (early : FailsAfterRename calls = false) (failed : store.commitPeer foreign record calls = (.error error, store')) :
    store'.loadPeers foreign = store.loadPeers foreign := by
  rw [StateStore.commitPeer] at failed
  cases valid : validatePeer foreign record with
  | error =>
    rw [valid] at failed
    cases failed
    rfl
  | ok =>
    rw [valid] at failed
    change store.writePeers (peerFileName record) _ calls = _ at failed
    have wrote := writePeers_wrote store (foreign.toVec (peerObject record) ++ [newline]) calls
      (ne_temp_of_visible store (temporary_peerFileName valid))
    have frame := writePeers_frame store (peerFileName record) (foreign.toVec (peerObject record) ++ [newline]) calls
    rw [failed] at wrote frame
    obtain ⟨names, files⟩ := wrote.unseen early (temporary_tempName _ _)
    exact loadPeers_congr frame.1 names files

theorem persistGuard_error {store store' : StateStore} {guard : PairingGuard} {error : StorageError}
    (early : FailsAfterRename calls = false) (failed : store.persistGuard foreign guard calls = (.error error, store'))
    (nowMs : UInt64) : store'.loadGuard foreign nowMs = store.loadGuard foreign nowMs := by
  have wrote := writeRoot_wrote store (foreign.toVec (guardObject guard) ++ [newline]) calls
    (ne_temp_of_visible store (show temporary (utf8 guardFile) = false by decide))
  have frame := writeRoot_frame store guardFile (foreign.toVec (guardObject guard) ++ [newline]) calls
  rw [StateStore.persistGuard] at failed
  rw [failed] at wrote frame
  obtain ⟨_, files⟩ := wrote.unseen early (temporary_tempName _ _)
  rw [StateStore.loadGuard, StateStore.loadGuard, readAuthority, readAuthority, frame.1, files _ (by decide)]

theorem keepsTrust_of_early (early : FailsAfterRename calls = false) : KeepsTrust foreign calls := by
  intro runtime key nowMs error runtime' failed loaded' later member
  cases nowMs with
  | none =>
    cases failed
    exact ⟨loaded', later, member⟩
  | some nowMs =>
    simp only [SecureRuntime.commitPeer] at failed
    split at failed
    next refused =>
      cases failed
      exact ⟨loaded', (commitPeer_error early refused).symm.trans later, member⟩
    next => cases failed

/-- The JSON library handles at least one record that pairing writes. -/
def WritesPeer (foreign : Foreign) : Prop :=
  ∃ key role nowMs, Storable foreign (PeerRecord.new foreign key (SecureRuntime.peerAlias role) nowMs)

/-- A runtime that trusts nobody. -/
def unpairedRuntime (role : EndpointRole) : SecureRuntime where
  role
  identity := ⟨Vector.replicate 32 1, Vector.replicate 32 1⟩
  store := emptyStore
  peers := []
  guard := .new 0
  inner := .initial .unpaired

/-- An unsynced rename is reported as a failure, and the key is there at the next load. -/
theorem commitPeer_unsynced (late : FailsAfterRename calls = true) {key : Bytes32} {role : EndpointRole} {nowMs : UInt64}
    (storable : Storable foreign (PeerRecord.new foreign key (SecureRuntime.peerAlias role) nowMs)) :
    ∃ runtime', SecureRuntime.commitPeer foreign (unpairedRuntime role) key (some nowMs) calls =
        (.error .pairPersistFailed, runtime') ∧
      (∃ loaded', runtime'.store.loadPeers foreign = .ok loaded' ∧ key ∈ loaded'.map PeerRecord.staticPublicKey) ∧
      (unpairedRuntime role).store.loadPeers foreign = .ok [] := by
  simp only [FailsAfterRename, Bool.and_eq_true, Bool.not_eq_true'] at late
  generalize record_eq : PeerRecord.new foreign key (SecureRuntime.peerAlias role) nowMs = record at storable
  have named : record.staticPublicKey = key := by rw [← record_eq]; rfl
  have nothing : Filed foreign emptyStore [] := ⟨rfl, by simp, by simp⟩
  have written := atomicWrite_renamed emptyStore.uid (foreign.toVec (peerObject record) ++ [newline]) storable.name_plain
    (storable.name_ne_temp emptyStore) (Table.get?_empty _) late.1
  rw [late.2, if_neg Bool.false_ne_true] at written
  generalize store_eq : (emptyStore.commitPeer foreign record calls).2 = store
  have stored : store = (emptyStore.writePeers (peerFileName record) (foreign.toVec (peerObject record) ++ [newline]) calls).2 := by
    rw [← store_eq, StateStore.commitPeer, storable.valid]
    rfl
  have refused : (emptyStore.commitPeer foreign record calls).1 = .error .io := by
    rw [StateStore.commitPeer, storable.valid]
    exact congrArg Prod.fst written
  have filed : Filed foreign store (remember [] record) := by
    apply nothing.renamed storable _ late.1
    · rw [stored]
      rfl
    · rw [stored]
      exact congrArg Prod.snd written
    · intro first one second two _
      rw [List.mem_singleton.mp one, List.mem_singleton.mp two]
  refine ⟨{ unpairedRuntime role with store }, ?_, ?_, ?_⟩
  · have failed : emptyStore.commitPeer foreign record calls = (.error .io, store) := Prod.ext refused store_eq
    simp only [SecureRuntime.commitPeer]
    rw [show (unpairedRuntime role).role = role from rfl, record_eq]
    rw [show (unpairedRuntime role).store = emptyStore from rfl, failed]
  · obtain ⟨loaded, done, _, members⟩ := filed.loadPeers (show 1 ≤ maxPeers by decide)
    refine ⟨loaded, done, List.mem_map.mpr ⟨record, (members record).mpr ?_, named⟩⟩
    simp [remember]
  · obtain ⟨loaded, done, _, members⟩ := nothing.loadPeers (by decide)
    have empty : loaded = [] := List.eq_nil_iff_forall_not_mem.mpr fun other member => by
      simpa using (members other).mp member
    rwa [empty] at done

theorem failed_persistence_is_not_trust (writes : WritesPeer foreign) (calls : WriteCalls) :
    (KeepsTrust foreign calls ∧ KeepsGuard foreign calls) ↔ FailsAfterRename calls = false := by
  constructor
  · rintro ⟨trust, _⟩
    by_contra late
    obtain ⟨key, role, nowMs, storable⟩ := writes
    obtain ⟨runtime', failed, ⟨loaded', later, member⟩, before⟩ :=
      commitPeer_unsynced (Bool.not_eq_false _ ▸ late) storable
    obtain ⟨loaded, same, present⟩ := trust _ _ _ _ _ failed loaded' later member
    rw [before] at same
    cases same
    cases present
  · intro early
    exact ⟨keepsTrust_of_early early, fun _ _ _ _ failed nowMs => persistGuard_error early failed nowMs⟩

/-- The directory sync fails, everything else succeeds. -/
def unsyncedCalls : WriteCalls := { goodCalls with syncDirectory := false }

theorem samplePeer_writes : Storable jsonForeign
    (PeerRecord.new jsonForeign sampleKey (SecureRuntime.peerAlias .androidResponder) 0) :=
  sampleRecord_storable (by decide) 0

/-- The disk is full after three bytes. -/
def fullCalls : WriteCalls := { goodCalls with writeStopsAfter := some 3 }

theorem failed_persistence_is_not_trust_sample :
    (SecureRuntime.commitPeer jsonForeign (unpairedRuntime .androidResponder) sampleKey (some 0) fullCalls).1 =
      .error .pairPersistFailed ∧
    (KeepsTrust jsonForeign fullCalls ∧ KeepsGuard jsonForeign fullCalls) ∧
    ¬(KeepsTrust jsonForeign unsyncedCalls ∧ KeepsGuard jsonForeign unsyncedCalls) := by
  have exactly := failed_persistence_is_not_trust ⟨_, _, _, samplePeer_writes⟩
  refine ⟨by decide +kernel, (exactly fullCalls).mpr (by decide), fun keeps => ?_⟩
  cases (exactly unsyncedCalls).mp keeps

theorem failed_persistence_is_trust :
    ∃ runtime', SecureRuntime.commitPeer jsonForeign (unpairedRuntime .androidResponder) sampleKey (some 0) unsyncedCalls =
        (.error .pairPersistFailed, runtime') ∧
      (∃ loaded', runtime'.store.loadPeers jsonForeign = .ok loaded' ∧
        sampleKey ∈ loaded'.map PeerRecord.staticPublicKey) ∧
      (unpairedRuntime .androidResponder).store.loadPeers jsonForeign = .ok [] :=
  commitPeer_unsynced (by decide) samplePeer_writes

end PhoneBoost.Secure.Proofs
