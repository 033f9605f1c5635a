import PhoneBoost.Lib.Wire
import PhoneBoost.Proofs.StoreText

/-! What a write leaves in its directory and what the readers of the store make
of it. Only a rename changes what they see. -/

namespace PhoneBoost.Secure.Proofs
open Keyed Wire

/-- The longest text of a field value: a byte of a string takes at most six. -/
def textBound : Scalar → Nat
  | .null => 4
  | .bool _ => 5
  | .u64 _ => 20
  | .string text => 6 * text.utf8ByteSize + 2
  | .number | .compound => 0

def objectBound (object : Object) : Nat :=
  2 + (object.rows.map fun row => 6 * row.1.utf8ByteSize + textBound row.2 + 4).sum

/-- The JSON library reads back the object that it wrote, and its text has no
more than the escapes and separators in it. -/
structure Serialises (foreign : Foreign) (object : Object) : Prop where
  fields : ∃ read, foreign.fromSlice (foreign.toVec object ++ [newline]) = some (.object read) ∧
    read.size = object.size ∧ ∀ key, read.get? key = object.get? key
  compact : (foreign.toVec object).length ≤ objectBound object

variable {foreign : Foreign}

theorem validatePeer_ok {record : PeerRecord} : validatePeer foreign record = .ok () ↔
    record.schemaVersion = 1 ∧ record.coreVersion = 1 ∧ record.pbmuxVersion = 1 ∧
      record.peerId = peerId foreign record.staticPublicKey ∧ record.aliasText.utf8ByteSize ≠ 0 ∧
      record.aliasText.utf8ByteSize ≤ 128 ∧ allZero record.staticPublicKey = false := by
  rw [validatePeer]
  split
  next bad =>
    simp only [Bool.or_eq_true, decide_eq_true_eq] at bad
    simp only [reduceCtorEq, false_iff]
    rintro ⟨a, b, c, d, e, f, g⟩
    rw [g] at bad
    grind
  next good =>
    simp only [Bool.or_eq_true, decide_eq_true_eq, not_or, not_not, Bool.not_eq_true, not_lt] at good
    simp only [true_iff]
    grind

theorem length_peerId (key : Bytes32) : (peerId foreign key).utf8ByteSize = 64 := by
  rw [peerId, length_hexEncode, Vector.length_toList]

theorem length_base64Encode (key : Bytes32) : (base64Encode key.toList).utf8ByteSize = 44 := by
  rw [← length_utf8, base64Encode, utf8_pushed (base64Chunks_ascii _), length_base64Chunks, Vector.length_toList]

/-- The lookups of a peer object, one for each field that a reader asks for. -/
theorem get?_peerObject (record : PeerRecord) :
    (peerObject record).get? "schema_version" = some (.u64 record.schemaVersion) ∧
    (peerObject record).get? "peer_id" = some (.string record.peerId) ∧
    (peerObject record).get? "static_public_key_b64" = some (.string (base64Encode record.staticPublicKey.toList)) ∧
    (peerObject record).get? "alias" = some (.string record.aliasText) ∧
    (peerObject record).get? "paired_wall_ms" = some (.u64 record.pairedWallMs) ∧
    (peerObject record).get? "last_seen_wall_ms" = some (.u64 record.lastSeenWallMs) ∧
    (peerObject record).get? "core_version" = some (.u64 record.coreVersion) ∧
    (peerObject record).get? "pbmux_version" = some (.u64 record.pbmuxVersion) :=
  ⟨rfl, rfl, rfl, rfl, rfl, rfl, rfl, rfl⟩

theorem parsePeer_written {record : PeerRecord} (serialises : Serialises foreign (peerObject record))
    (valid : validatePeer foreign record = .ok ()) :
    parsePeer foreign (foreign.toVec (peerObject record) ++ [newline]) = .ok record := by
  obtain ⟨read, decoded, size, fields⟩ := serialises.fields
  obtain ⟨version, id, key, aliased, paired, seen, core, pbmux⟩ := get?_peerObject record
  have sized : read.size = peerFields.length := size
  rw [parsePeer, decoded]
  simp only [Option.bind_some, Json.asObject, sized, peerFields, List.any_cons, List.any_nil, fields, version, id, key,
    aliased, paired, seen, core, pbmux, requiredString, requiredU64, Scalar.asStr, Scalar.asU64]
  simp only [ne_eq, not_true_eq_false, decide_false, Option.isNone_some, Bool.or_self, Bool.false_eq_true, if_false]
  change (do
    let key ← base64Decode32 (base64Encode record.staticPublicKey.toList)
    let decoded := { record with staticPublicKey := key }
    validatePeer foreign decoded
    return decoded) = _
  rw [base64Decode32_encode]
  change (do validatePeer foreign record; return record) = _
  rw [valid]
  rfl

theorem get?_guardObject (guard : PairingGuard) :
    (guardObject guard).get? "schema_version" = some (.u64 1) ∧
    (guardObject guard).get? "mismatch_count" = some (.u64 guard.mismatchCount.toUInt64) ∧
    (guardObject guard).get? "cooldown_until_wall_ms" =
      some (match guard.cooldownUntilWallMs with | some expiry => .u64 expiry | none => .null) ∧
    (guardObject guard).get? "updated_wall_ms" = some (.u64 guard.updatedWallMs) :=
  ⟨rfl, rfl, rfl, rfl⟩

theorem parseGuard_written {guard : PairingGuard} (serialises : Serialises foreign (guardObject guard)) :
    parseGuard foreign (foreign.toVec (guardObject guard) ++ [newline]) = .ok guard := by
  obtain ⟨read, decoded, size, fields⟩ := serialises.fields
  obtain ⟨version, count, cooldown, updated⟩ := get?_guardObject guard
  have sized : read.size = 4 := size
  have small : ¬ 255 < guard.mismatchCount.toUInt64 := by
    have bound : guard.mismatchCount.toNat < 256 := guard.mismatchCount.toNat_lt
    simp only [UInt64.lt_iff_toNat_lt, UInt8.toNat_toUInt64]
    show ¬ 255 < guard.mismatchCount.toNat
    omega
  rw [parseGuard, decoded]
  simp only [Option.bind_some, Json.asObject, sized, fields, version, count, cooldown, updated, Scalar.asU64]
  simp only [ne_eq, not_true_eq_false, decide_false, Bool.or_self, Bool.false_eq_true, if_false, if_neg small]
  obtain ⟨mismatches, expiry, updated⟩ := guard
  cases expiry <;> simp

/-- The calls take a write as far as the rename, and the rename succeeds. -/
def Renames (calls : WriteCalls) : Bool :=
  calls.openTemp && calls.writeStopsAfter.isNone && calls.syncAll && calls.fstat
    && permissionBits calls.createdMode = authorityMode && calls.rename

/-- The file that a renamed write leaves. -/
def authority (uid : Nat) (calls : WriteCalls) (bytes : List UInt8) : File :=
  ⟨.regularFile, uid, calls.createdMode, bytes⟩

/-- A name that `atomicWrite` does not refuse. -/
def plainName (name : String) : Bool := !(name.toList.contains '/' || name.toList.head? = some '.')

/-- The result of a write and the directory after it. An error says nothing
about the rename: the directory may fail to sync after it. -/
inductive Wrote (uid : Nat) (directory : Directory) (name temp : String) (bytes : List UInt8) (calls : WriteCalls) :
    Except StorageError Unit → Directory → Prop where
  | renamed : plainName name = true → directory.get? (utf8 temp) = none → Renames calls = true →
    Wrote uid directory name temp bytes calls (if calls.syncDirectory then .ok () else .error .io)
      (directory.insert (utf8 name) (authority uid calls bytes))
  | kept (error : StorageError) : Wrote uid directory name temp bytes calls (.error error) directory
  | leftover (error : StorageError) (left : File) : directory.get? (utf8 temp) = none →
    Wrote uid directory name temp bytes calls (.error error) (directory.insert (utf8 temp) left)

/-- The next temporary name of a store. -/
def storeTemp (store : StateStore) : String := tempName store.processId store.tempSequence

section Write
variable {uid : Nat} {directory : Directory} {name temp : String} {bytes : List UInt8} {calls : WriteCalls}

theorem atomicWrite_renamed (uid : Nat) (bytes : List UInt8) (plain : plainName name = true) (different : utf8 name ≠ utf8 temp)
    (absent : directory.get? (utf8 temp) = none) (renames : Renames calls = true) :
    atomicWrite uid directory name temp bytes calls =
      (if calls.syncDirectory then .ok () else .error .io, directory.insert (utf8 name) (authority uid calls bytes)) := by
  simp only [Renames, Bool.and_eq_true, decide_eq_true_eq, Option.isNone_iff_eq_none] at renames
  obtain ⟨⟨⟨⟨⟨opened, wrote⟩, synced⟩, stat⟩, mode⟩, renamed⟩ := renames
  have others : (directory.insert (utf8 name) (authority uid calls bytes)).get? (utf8 temp) = none := by
    rw [Table.get?_insert_of_ne _ _ different.symm, absent]
  have erased := Table.erase_insert absent (authority uid calls bytes)
  simp only [plainName, Bool.not_eq_true'] at plain
  simp only [atomicWrite, writeAndRename, plain, opened, wrote, synced, stat, mode, renamed, absent, authority] at erased ⊢
  simp only [Bool.false_eq_true, Bool.not_true, Option.isSome_none, Bool.or_self, if_false, Option.getD_none,
    List.take_length, erased, ne_eq, not_true_eq_false, decide_false]
  cases calls.syncDirectory
  · simp only [Bool.false_eq_true, if_false, Prod.mk.injEq, true_and]
    rw [authority] at others
    rw [Table.erase_of_absent others, ite_self]
  · rfl

theorem writeAndRename_stopped (directory : Directory) (name temp : String) {made : File}
    (mode : made.mode = calls.createdMode) (opened : calls.openTemp = true) (stops : Renames calls = false) :
    ∃ error, writeAndRename directory name temp made calls = (.error error, directory) := by
  rw [writeAndRename]
  split
  next => exact ⟨_, rfl⟩
  next wrote =>
  split
  next => exact ⟨_, rfl⟩
  next permitted =>
  split
  next => exact ⟨_, rfl⟩
  next renamed =>
    simp only [Bool.or_eq_true, Bool.not_eq_true', not_or, Bool.not_eq_true, Bool.not_eq_false, Option.isSome_eq_false_iff,
      ne_eq, decide_not, decide_eq_false_iff_not, not_not, mode] at wrote permitted renamed
    rw [Renames, opened, wrote.1.1, wrote.1.2, wrote.2, renamed, permitted.2] at stops
    simp at stops

/-- Without the rename the directory keeps its files; at most a temporary one is left over. -/
theorem atomicWrite_kept (uid : Nat) (bytes : List UInt8)
    (stops : plainName name = false ∨ (directory.get? (utf8 temp)).isSome ∨ Renames calls = false) :
    ∃ error after, atomicWrite uid directory name temp bytes calls = (.error error, after) ∧
      (after = directory ∨ directory.get? (utf8 temp) = none ∧ ∃ left, after = directory.insert (utf8 temp) left) := by
  rw [atomicWrite]
  split
  next => exact ⟨_, _, rfl, .inl rfl⟩
  next plain =>
  split
  next => exact ⟨_, _, rfl, .inl rfl⟩
  next created =>
  simp only [Bool.or_eq_true, Bool.not_eq_true', not_or, Bool.not_eq_true, Bool.not_eq_false,
    Option.isSome_eq_false_iff, Option.isNone_iff_eq_none] at created
  have unfinished : Renames calls = false := by
    rcases stops with refused | present | stops
    · simp only [plainName, Bool.not_eq_false'] at refused
      exact absurd refused plain
    · simp [created.2] at present
    · exact stops
  generalize made_eq : (⟨.regularFile, uid, calls.createdMode, _⟩ : File) = made
  have mode : made.mode = calls.createdMode := by rw [← made_eq]
  obtain ⟨error, written⟩ := writeAndRename_stopped (directory.insert (utf8 temp) made) name temp mode created.1 unfinished
  dsimp only
  rw [written]
  refine ⟨error, _, rfl, ?_⟩
  split
  · exact .inl (Table.erase_insert created.2 made)
  · exact .inr ⟨created.2, made, rfl⟩

theorem atomicWrite_wrote (uid : Nat) (directory : Directory) (bytes : List UInt8) (calls : WriteCalls)
    (different : utf8 name ≠ utf8 temp) :
    Wrote uid directory name temp bytes calls (atomicWrite uid directory name temp bytes calls).1
      (atomicWrite uid directory name temp bytes calls).2 := by
  by_cases stops : plainName name = false ∨ (directory.get? (utf8 temp)).isSome ∨ Renames calls = false
  · obtain ⟨error, after, stopped, rfl | ⟨absent, left, rfl⟩⟩ := atomicWrite_kept uid bytes stops
    · rw [stopped]
      exact .kept error
    · rw [stopped]
      exact .leftover error left absent
  · simp only [not_or, Bool.not_eq_false, Option.not_isSome_iff_eq_none] at stops
    rw [atomicWrite_renamed uid bytes stops.1 different stops.2.1 stops.2.2]
    exact .renamed stops.1 stops.2.1 stops.2.2

theorem writePeers_wrote (store : StateStore) (bytes : List UInt8) (calls : WriteCalls)
    (different : utf8 name ≠ utf8 (storeTemp store)) :
    Wrote store.uid store.peers name (storeTemp store) bytes calls (store.writePeers name bytes calls).1
      (store.writePeers name bytes calls).2.peers :=
  atomicWrite_wrote store.uid store.peers bytes calls different

theorem writePeers_frame (store : StateStore) (name : String) (bytes : List UInt8) (calls : WriteCalls) :
    (store.writePeers name bytes calls).2.uid = store.uid ∧ (store.writePeers name bytes calls).2.root = store.root :=
  ⟨rfl, rfl⟩

theorem writeRoot_wrote (store : StateStore) (bytes : List UInt8) (calls : WriteCalls)
    (different : utf8 name ≠ utf8 (storeTemp store)) :
    Wrote store.uid store.root name (storeTemp store) bytes calls (store.writeRoot name bytes calls).1
      (store.writeRoot name bytes calls).2.root :=
  atomicWrite_wrote store.uid store.root bytes calls different

theorem writeRoot_frame (store : StateStore) (name : String) (bytes : List UInt8) (calls : WriteCalls) :
    (store.writeRoot name bytes calls).2.uid = store.uid ∧ (store.writeRoot name bytes calls).2.peers = store.peers :=
  ⟨rfl, rfl⟩

theorem Wrote.ok {after : Directory} (wrote : Wrote uid directory name temp bytes calls (.ok ()) after) :
    Renames calls = true ∧ after = directory.insert (utf8 name) (authority uid calls bytes) := by
  generalize result_eq : (Except.ok () : Except StorageError Unit) = result at wrote
  cases wrote with
  | renamed _ _ renames => exact ⟨renames, rfl⟩
  | kept | leftover => cases result_eq

end Write

/-- The names that the directory scan passes over. -/
def temporary (raw : List UInt8) : Bool := (utf8 ".tmp-").isPrefixOf raw

theorem temporary_tempName (processId sequence : Nat) : temporary (utf8 (tempName processId sequence)) = true := by
  rw [temporary, List.isPrefixOf_iff_prefix, tempName, utf8_append, utf8_append, utf8_append, List.append_assoc,
    List.append_assoc]
  exact List.prefix_append _ _

theorem ne_temp_of_visible (store : StateStore) {name : String} (shown : temporary (utf8 name) = false) :
    utf8 name ≠ utf8 (storeTemp store) := by
  intro same
  have hidden : temporary (utf8 (storeTemp store)) = true := temporary_tempName _ _
  rw [← same, shown] at hidden
  cases hidden

def visible (directory : Directory) : List (List UInt8) := (directory.rows.map Prod.fst).filter (!temporary ·)

theorem visible_insert_temporary {directory : Directory} {raw : List UInt8} (hidden : temporary raw = true)
    (absent : directory.get? raw = none) (file : File) : visible (directory.insert raw file) = visible directory := by
  have rows : (directory.insert raw file).rows = directory.rows ++ [(raw, file)] := by
    show (directory.erase raw).rows ++ _ = _
    rw [Table.erase_of_absent absent]
  simp [visible, rows, hidden]

theorem listPeers_visible (raws : List (List UInt8)) (names : List String) :
    listPeers raws names = listPeers (raws.filter (!temporary ·)) names := by
  induction raws generalizing names with
  | nil => rfl
  | cons raw raws ih =>
    by_cases hidden : temporary raw = true
    · rw [List.filter_cons_of_neg (by simp [hidden]), ← ih]
      exact if_pos hidden
    · rw [List.filter_cons_of_pos (by simpa using hidden)]
      simp only [listPeers, ih]

/-- The names a scan returns are those it was given and names of the directory. -/
theorem listPeers_mem {raws : List (List UInt8)} {names listed : List String} (scanned : listPeers raws names = .ok listed) :
    ∀ name ∈ listed, name ∈ names ∨ utf8 name ∈ raws ∧ temporary (utf8 name) = false := by
  fun_induction listPeers raws names with
  | case1 names =>
    cases scanned
    exact fun name member => .inl member
  | case2 raw rest names hidden ih =>
    intro name member
    exact (ih scanned name member).imp_right fun inside => ⟨List.mem_cons_of_mem _ inside.1, inside.2⟩
  | case3 | case4 | case5 => cases scanned
  | case6 raw rest names shown listedName read good room ih =>
    intro name member
    rcases ih scanned name member with old | inside
    · rcases List.mem_append.mp old with old | new
      · exact .inl old
      · rw [List.mem_singleton.mp new, utf8_of_fromUTF8? read]
        exact .inr ⟨List.mem_cons_self, Bool.eq_false_iff.mpr shown⟩
    · exact .inr ⟨List.mem_cons_of_mem _ inside.1, inside.2⟩

theorem mapM_congr {f g : α → Except ε β} {items : List α} (same : ∀ item ∈ items, f item = g item) :
    items.mapM f = items.mapM g := by
  induction items with
  | nil => rfl
  | cons item items ih =>
    rw [List.mapM_cons, List.mapM_cons, same item List.mem_cons_self,
      ih fun other member => same other (List.mem_cons_of_mem _ member)]

/-- Two stores that differ in temporary files only are the same to `loadPeers`. -/
theorem loadPeers_congr {store store' : StateStore} (uid : store'.uid = store.uid)
    (names : visible store'.peers = visible store.peers)
    (files : ∀ raw, temporary raw = false → store'.peers.get? raw = store.peers.get? raw) :
    store'.loadPeers foreign = store.loadPeers foreign := by
  have scanned : listPeers (store'.peers.rows.map Prod.fst) [] = listPeers (store.peers.rows.map Prod.fst) [] := by
    rw [listPeers_visible, listPeers_visible (store.peers.rows.map Prod.fst)]
    exact congrArg (listPeers · []) names
  rw [StateStore.loadPeers, StateStore.loadPeers, scanned]
  cases listed : listPeers (store.peers.rows.map Prod.fst) [] with
  | error => rfl
  | ok found =>
    apply mapM_congr
    intro name member
    rcases listPeers_mem listed name (List.mem_mergeSort.mp member) with nothing | ⟨_, shown⟩
    · cases nothing
    · rw [StateStore.loadPeer, StateStore.loadPeer, readAuthority, readAuthority, uid, files _ shown]

end PhoneBoost.Secure.Proofs
