import Mathlib.Data.List.Dedup
import Mathlib.Data.List.Induction
import PhoneBoost.Proofs.JsonText
import PhoneBoost.Secure.Runtime

/-! Reloading the trust store. Commits leave one file for each key, named after
the key's id, and `loadPeers` reads all of them back as long as there are no
more than it is willing to list. -/

namespace PhoneBoost.Secure.Proofs
open Keyed Wire

variable {foreign : Foreign}

def peerFileName (record : PeerRecord) : String := record.peerId ++ ".json"

theorem hexDigits_plain : ∀ digit ∈ hexDigits, Char.ofUInt8 digit ≠ '/' ∧ Char.ofUInt8 digit ≠ '.' ∧ digit ≠ 46 := by
  have all : hexDigits.all (fun digit => Char.ofUInt8 digit ≠ '/' ∧ Char.ofUInt8 digit ≠ '.' ∧ digit ≠ 46) = true := by
    rw [hexDigits_eq]
    decide
  intro digit member
  exact of_decide_eq_true (List.all_eq_true.mp all digit member)

theorem exists_hexPairs (key : Bytes32) : ∃ digit rest, key.toList.flatMap hexPair = digit :: rest ∧
    ∀ other ∈ digit :: rest, other ∈ hexDigits := by
  have digits : ∀ other ∈ key.toList.flatMap hexPair, other ∈ hexDigits := by
    intro other member
    obtain ⟨byte, _, inside⟩ := List.mem_flatMap.mp member
    exact hexPair_mem inside
  have length : key.toList.length = 32 := Vector.length_toList
  obtain ⟨byte, bytes, shape⟩ := List.exists_cons_of_ne_nil (l := key.toList) (by rintro empty; simp [empty] at length)
  rw [shape] at digits ⊢
  exact ⟨_, _, rfl, digits⟩

/-- Names that start with an id are neither hidden nor paths. -/
theorem temporary_hexName (key : Bytes32) (tail : String) : temporary (utf8 (hexEncode key.toList ++ tail)) = false := by
  obtain ⟨digit, rest, shape, digits⟩ := exists_hexPairs key
  have dot : utf8 ".tmp-" = [46, 116, 109, 112, 45] := by decide
  rw [utf8_append, utf8_hexEncode, shape, temporary, dot, List.cons_append, List.isPrefixOf,
    beq_false_of_ne (hexDigits_plain digit (digits digit List.mem_cons_self)).2.2.symm, Bool.false_and]

theorem plainName_hexName (key : Bytes32) {tail : String} (plain : tail.toList.contains '/' = false) :
    plainName (hexEncode key.toList ++ tail) = true := by
  obtain ⟨digit, rest, shape, digits⟩ := exists_hexPairs key
  have slashless : ∀ char ∈ (digit :: rest).map Char.ofUInt8, char ≠ '/' := by
    intro char member
    obtain ⟨other, inside, rfl⟩ := List.mem_map.mp member
    exact (hexDigits_plain other (digits other inside)).1
  rw [plainName, String.toList_append, toList_hexEncode, shape]
  have first : (List.map Char.ofUInt8 (digit :: rest) ++ tail.toList).head? = some (Char.ofUInt8 digit) := rfl
  have inside : (List.map Char.ofUInt8 (digit :: rest) ++ tail.toList).contains '/' = false := by
    rw [List.contains_append, plain, Bool.or_false]
    exact Bool.eq_false_iff.mpr fun member => slashless '/' (List.contains_iff_mem.mp member) rfl
  rw [first, inside]
  simp [(hexDigits_plain digit (digits digit List.mem_cons_self)).2.1]

theorem endsWith_peerFileName (record : PeerRecord) : endsWith (peerFileName record) ".json" = true := by
  rw [endsWith, peerFileName, utf8_append, List.isSuffixOf_iff_suffix]
  exact List.suffix_append _ _

theorem objectBound_peerObject (record : PeerRecord) : objectBound (peerObject record) =
    1022 + 6 * record.peerId.utf8ByteSize + 6 * record.aliasText.utf8ByteSize := by
  have names : "schema_version".utf8ByteSize = 14 ∧ "peer_id".utf8ByteSize = 7 ∧
      "static_public_key_b64".utf8ByteSize = 21 ∧ "alias".utf8ByteSize = 5 ∧ "paired_wall_ms".utf8ByteSize = 14 ∧
      "last_seen_wall_ms".utf8ByteSize = 17 ∧ "core_version".utf8ByteSize = 12 ∧
      "pbmux_version".utf8ByteSize = 13 := by decide
  simp only [objectBound, peerObject, List.map_cons, List.map_nil, List.sum_cons, List.sum_nil, textBound,
    length_base64Encode, names]
  omega

theorem temporary_peerFileName {record : PeerRecord} (valid : validatePeer foreign record = .ok ()) :
    temporary (utf8 (peerFileName record)) = false := by
  rw [peerFileName, (validatePeer_ok.mp valid).2.2.2.1, peerId]
  exact temporary_hexName _ _

/-- A record that a commit accepts, with the name and the size of its file. -/
structure Storable (foreign : Foreign) (record : PeerRecord) : Prop where
  valid : validatePeer foreign record = .ok ()
  serialises : Serialises foreign (peerObject record)

namespace Storable
variable {record : PeerRecord} (storable : Storable foreign record)
include storable

theorem id : record.peerId = peerId foreign record.staticPublicKey := (validatePeer_ok.mp storable.valid).2.2.2.1

theorem name_visible : temporary (utf8 (peerFileName record)) = false := temporary_peerFileName storable.valid

theorem name_plain : plainName (peerFileName record) = true := by
  rw [peerFileName, storable.id, peerId]
  exact plainName_hexName _ (by decide)

theorem name_ne_temp (store : StateStore) : utf8 (peerFileName record) ≠ utf8 (storeTemp store) :=
  ne_temp_of_visible store storable.name_visible

theorem name_size : (peerFileName record).utf8ByteSize = 64 + 5 := by
  rw [peerFileName, String.utf8ByteSize_append, storable.id, length_peerId]
  rfl

theorem small : (foreign.toVec (peerObject record) ++ [newline]).length ≤ maxAuthorityBytes := by
  have bound := storable.serialises.compact
  have short : record.aliasText.utf8ByteSize ≤ 128 := (validatePeer_ok.mp storable.valid).2.2.2.2.2.1
  rw [objectBound_peerObject, storable.id, length_peerId] at bound
  rw [List.length_append, List.length_singleton, maxAuthorityBytes]
  omega

end Storable

/-- A file that `readAuthority` returns. -/
structure Readable (uid : Nat) (file : File) (bytes : List UInt8) : Prop where
  regular : file.fileType = .regularFile
  owner : file.uid = uid
  mode : permissionBits file.mode = authorityMode
  content : file.bytes = bytes
  small : bytes.length ≤ maxAuthorityBytes

theorem readAuthority_readable {uid : Nat} {directory : Directory} {name : String} {file : File} {bytes : List UInt8}
    (found : directory.get? (utf8 name) = some file) (readable : Readable uid file bytes) :
    readAuthority uid directory name = .ok bytes := by
  rw [readAuthority, found]
  simp only [readable.regular, readable.owner, readable.mode, readable.content, not_lt.mpr readable.small]
  simp

theorem authority_readable {uid : Nat} {calls : WriteCalls} {bytes : List UInt8} (renames : Renames calls = true)
    (small : bytes.length ≤ maxAuthorityBytes) : Readable uid (authority uid calls bytes) bytes := by
  simp only [Renames, Bool.and_eq_true, decide_eq_true_eq] at renames
  exact ⟨rfl, rfl, renames.1.2, rfl, small⟩

theorem keys_nodup_of_names {records : List PeerRecord} (storable : ∀ record ∈ records, Storable foreign record)
    (names : (records.map peerFileName).Nodup) : (records.map PeerRecord.staticPublicKey).Nodup := by
  have same : records.map peerFileName =
      (records.map PeerRecord.staticPublicKey).map fun key => peerId foreign key ++ ".json" := by
    rw [List.map_map]
    apply List.map_congr_left
    intro record member
    show record.peerId ++ ".json" = _
    rw [(storable record member).id]
    rfl
  exact List.Nodup.of_map _ (same ▸ names)

/-- The peers directory holds these records, each in its own file, and nothing else. -/
structure Filed (foreign : Foreign) (store : StateStore) (held : List PeerRecord) : Prop where
  names : store.peers.rows.map Prod.fst = held.map fun record => utf8 (peerFileName record)
  storable : ∀ record ∈ held, Storable foreign record
  files : ∀ record ∈ held, ∃ file, store.peers.get? (utf8 (peerFileName record)) = some file ∧
    Readable store.uid file (foreign.toVec (peerObject record) ++ [newline])

namespace Filed
variable {store : StateStore} {held : List PeerRecord}

theorem loadPeer (filed : Filed foreign store held) {record : PeerRecord} (member : record ∈ held) :
    store.loadPeer foreign (peerFileName record) = .ok record := by
  obtain ⟨file, found, readable⟩ := filed.files record member
  have storable := filed.storable record member
  rw [StateStore.loadPeer, readAuthority_readable found readable]
  show (parsePeer foreign _ >>= _) = _
  rw [parsePeer_written storable.serialises storable.valid]
  exact if_neg (by simp [peerFileName])

theorem names_nodup (filed : Filed foreign store held) : (held.map peerFileName).Nodup := by
  have distinct := store.peers.distinct
  rw [filed.names] at distinct
  apply List.Nodup.of_map utf8
  rwa [List.map_map]

end Filed

/-- The scan takes the names of storable records in order until there are too many. -/
theorem listPeers_storable {held : List PeerRecord} (storable : ∀ record ∈ held, Storable foreign record)
    (names : List String) (room : names.length ≤ maxPeers) :
    listPeers (held.map fun record => utf8 (peerFileName record)) names =
      if names.length + held.length ≤ maxPeers then .ok (names ++ held.map peerFileName) else .error .tooManyPeers := by
  induction held generalizing names with
  | nil => simp [listPeers, room]
  | cons record held ih =>
    have here := storable record List.mem_cons_self
    have rest := fun other member => storable other (List.mem_cons_of_mem _ member)
    have shown : ¬ (utf8 ".tmp-").isPrefixOf (utf8 (peerFileName record)) = true := by
      rw [show (utf8 ".tmp-").isPrefixOf (utf8 (peerFileName record)) = false from here.name_visible]
      decide
    simp only [List.map_cons, listPeers, if_neg shown, fromUTF8?_utf8, endsWith_peerFileName, here.name_size]
    simp only [Bool.not_true, ne_eq, not_true_eq_false, decide_false, Bool.or_self, Bool.false_eq_true, if_false,
      List.length_append, List.length_cons, List.length_nil, Nat.zero_add]
    by_cases full : maxPeers < names.length + 1
    · rw [if_pos full]
      exact (if_neg (by omega)).symm
    · rw [if_neg full, ih rest _ (by rw [List.length_append, List.length_singleton]; omega)]
      simp only [List.length_append, List.length_cons, List.length_nil, Nat.zero_add, List.append_assoc,
        List.cons_append, List.nil_append, Nat.add_assoc, Nat.add_comm 1]

theorem forall₂_left {R : α → β → Prop} {first : List α} {second : List β} (pairs : List.Forall₂ R first second) :
    ∀ a ∈ first, ∃ b ∈ second, R a b := by
  induction pairs with
  | nil => simp
  | cons related _ ih =>
    intro a member
    rcases List.mem_cons.mp member with rfl | inside
    · exact ⟨_, List.mem_cons_self, related⟩
    · obtain ⟨b, found, both⟩ := ih a inside
      exact ⟨b, List.mem_cons_of_mem _ found, both⟩

theorem forall₂_right {R : α → β → Prop} {first : List α} {second : List β} (pairs : List.Forall₂ R first second) :
    ∀ b ∈ second, ∃ a ∈ first, R a b :=
  forall₂_left pairs.flip

theorem loadPeer_name {store : StateStore} {name : String} {record : PeerRecord}
    (done : store.loadPeer foreign name = .ok record) : peerFileName record = name := by
  simp only [StateStore.loadPeer, bind_eq_ok] at done
  obtain ⟨bytes, _, parsed, _, checked⟩ := done
  split at checked
  · cases checked
  next same =>
    cases checked
    exact (not_not.mp same).symm

/-- A loop that succeeds on every item collects exactly the items' results. -/
theorem mapM_ok {f : α → Except ε β} {items : List α} (succeeds : ∀ item ∈ items, ∃ result, f item = .ok result) :
    ∃ results, items.mapM f = .ok results ∧ List.Forall₂ (fun item result => f item = .ok result) items results := by
  induction items with
  | nil => exact ⟨[], rfl, .nil⟩
  | cons item items ih =>
    obtain ⟨result, done⟩ := succeeds item List.mem_cons_self
    obtain ⟨results, collected, each⟩ := ih fun other member => succeeds other (List.mem_cons_of_mem _ member)
    refine ⟨result :: results, ?_, .cons done each⟩
    rw [List.mapM_cons, done, collected]
    rfl

theorem Filed.loadPeers {store : StateStore} {held : List PeerRecord} (filed : Filed foreign store held)
    (few : held.length ≤ maxPeers) :
    ∃ loaded, store.loadPeers foreign = .ok loaded ∧ (loaded.map PeerRecord.staticPublicKey).Nodup ∧
      ∀ record, record ∈ loaded ↔ record ∈ held := by
  have scanned := listPeers_storable filed.storable [] (Nat.zero_le _)
  rw [← filed.names, if_pos (by simpa using few), List.nil_append] at scanned
  generalize sorted_eq : ((held.map peerFileName).mergeSort fun a b => decide (a ≤ b)) = sorted
  have sorted_perm : sorted.Perm (held.map peerFileName) := by
    rw [← sorted_eq]
    exact List.mergeSort_perm _ _
  have each : ∀ name ∈ sorted, ∃ record, store.loadPeer foreign name = .ok record ∧ record ∈ held := by
    intro name member
    obtain ⟨record, inside, rfl⟩ := List.mem_map.mp (sorted_perm.mem_iff.mp member)
    exact ⟨record, filed.loadPeer inside, inside⟩
  obtain ⟨loaded, read, pairs⟩ := mapM_ok fun name member => (each name member).imp fun _ done => done.1
  have members : ∀ record, record ∈ loaded ↔ record ∈ held := by
    intro record
    constructor
    · intro member
      obtain ⟨name, inside, done⟩ := forall₂_right pairs record member
      obtain ⟨stored, again, present⟩ := each name inside
      rw [done] at again
      cases again
      exact present
    · intro present
      obtain ⟨stored, inside, done⟩ := forall₂_left pairs (peerFileName record)
        (sorted_perm.mem_iff.mpr (List.mem_map_of_mem present))
      rw [filed.loadPeer present] at done
      cases done
      exact inside
  have names : loaded.map peerFileName = sorted := by
    clear members each sorted_perm sorted_eq read
    induction pairs with
    | nil => rfl
    | cons done _ ih => rw [List.map_cons, ih, loadPeer_name done]
  refine ⟨loaded, ?_, ?_, members⟩
  · rw [StateStore.loadPeers, scanned]
    show ((held.map peerFileName).mergeSort _).mapM _ = _
    rw [sorted_eq]
    exact read
  · apply keys_nodup_of_names fun record member => filed.storable record ((members record).mp member)
    rw [names]
    exact sorted_perm.nodup_iff.mpr filed.names_nodup

theorem Filed.loadPeers_full {store : StateStore} {held : List PeerRecord} (filed : Filed foreign store held)
    (many : maxPeers < held.length) : store.loadPeers foreign = .error .tooManyPeers := by
  have scanned := listPeers_storable filed.storable [] (Nat.zero_le _)
  rw [← filed.names, if_neg (by simpa using many)] at scanned
  rw [StateStore.loadPeers, scanned]
  rfl

/-- A commit replaces the file of its key, or adds one. -/
theorem commitPeer_ok {store store' : StateStore} {record : PeerRecord} {calls : WriteCalls}
    (serialises : Serialises foreign (peerObject record))
    (done : store.commitPeer foreign record calls = (.ok (), store')) :
    Storable foreign record ∧ Renames calls = true ∧ store'.uid = store.uid ∧ store'.root = store.root ∧
      store'.peers = store.peers.insert (utf8 (peerFileName record))
        (authority store.uid calls (foreign.toVec (peerObject record) ++ [newline])) := by
  rw [StateStore.commitPeer] at done
  cases valid : validatePeer foreign record with
  | error => rw [valid] at done; cases done
  | ok =>
    have storable : Storable foreign record := ⟨valid, serialises⟩
    rw [valid] at done
    have wrote := writePeers_wrote store (foreign.toVec (peerObject record) ++ [newline]) calls
      (storable.name_ne_temp store)
    have frame := writePeers_frame store (peerFileName record) (foreign.toVec (peerObject record) ++ [newline]) calls
    change store.writePeers (peerFileName record) _ calls = _ at done
    rw [done] at wrote frame
    exact ⟨storable, wrote.ok.1, frame.1, frame.2, wrote.ok.2⟩

/-- The records of a directory after one more commit. -/
def remember (held : List PeerRecord) (record : PeerRecord) : List PeerRecord :=
  held.filter (·.staticPublicKey ≠ record.staticPublicKey) ++ [record]

/-- No two of the records have different keys with the same digest. -/
def CollisionFree (foreign : Foreign) (records : List PeerRecord) : Prop :=
  ∀ first ∈ records, ∀ second ∈ records,
    foreign.sha256 first.staticPublicKey = foreign.sha256 second.staticPublicKey →
    first.staticPublicKey = second.staticPublicKey

theorem peerFileName_eq_iff {first second : PeerRecord} (one : Storable foreign first) (two : Storable foreign second)
    (distinct : foreign.sha256 first.staticPublicKey = foreign.sha256 second.staticPublicKey →
      first.staticPublicKey = second.staticPublicKey) :
    utf8 (peerFileName first) = utf8 (peerFileName second) ↔ first.staticPublicKey = second.staticPublicKey := by
  constructor
  · intro same
    have names := congrArg utf8 (utf8_injective same)
    rw [peerFileName, peerFileName, utf8_append, utf8_append] at names
    have ids := utf8_injective (List.append_cancel_right names)
    rw [one.id, two.id, peerId, peerId] at ids
    exact distinct (Vector.toList_inj.mp (hexEncode_injective ids))
  · intro same
    rw [peerFileName, peerFileName, one.id, two.id, same]

/-- What a renamed write of a record does to the directory, whatever the caller was told. -/
theorem Filed.renamed {store store' : StateStore} {held : List PeerRecord} {record : PeerRecord} {calls : WriteCalls}
    (filed : Filed foreign store held) (storable : Storable foreign record)
    (collisionFree : CollisionFree foreign (record :: held)) (renames : Renames calls = true) (uid : store'.uid = store.uid)
    (peers : store'.peers = store.peers.insert (utf8 (peerFileName record))
      (authority store.uid calls (foreign.toVec (peerObject record) ++ [newline]))) :
    Filed foreign store' (remember held record) := by
  have names : ∀ other ∈ held, utf8 (peerFileName other) = utf8 (peerFileName record) ↔
      other.staticPublicKey = record.staticPublicKey := by
    intro other member
    exact peerFileName_eq_iff (filed.storable other member) storable
      (collisionFree other (List.mem_cons_of_mem _ member) record List.mem_cons_self)
  constructor
  · rw [peers, Table.keys_insert, filed.names, remember, List.map_append, List.map_singleton, List.filter_map]
    congr 2
    apply List.filter_congr
    intro other member
    simp only [Function.comp_apply, ne_eq, decide_not, names other member]
  · intro other member
    rcases List.mem_append.mp member with old | new
    · exact filed.storable other (List.mem_of_mem_filter old)
    · rw [List.mem_singleton.mp new]
      exact storable
  · intro other member
    rw [uid, peers]
    rcases List.mem_append.mp member with old | new
    · obtain ⟨inside, different⟩ := List.mem_filter.mp old
      obtain ⟨file, found, readable⟩ := filed.files other inside
      refine ⟨file, ?_, readable⟩
      rw [Table.get?_insert_of_ne _ _ fun same => by simp [(names other inside).mp same] at different]
      exact found
    · rw [List.mem_singleton.mp new]
      exact ⟨_, Table.get?_insert_self .., authority_readable renames storable.small⟩

/-- Commits that all succeeded, and the records they were given, oldest first. -/
inductive Committed (foreign : Foreign) (start : StateStore) : List PeerRecord → StateStore → Prop where
  | start : Committed foreign start [] start
  | commit {records : List PeerRecord} {store store' : StateStore} {record : PeerRecord} {calls : WriteCalls} :
    Committed foreign start records store → store.commitPeer foreign record calls = (.ok (), store') →
    Committed foreign start (records ++ [record]) store'

/-- The last record committed for a key. -/
def lastCommitted (records : List PeerRecord) (key : Bytes32) : Option PeerRecord :=
  records.reverse.find? fun record => record.staticPublicKey = key

theorem lastCommitted_concat (records : List PeerRecord) (record : PeerRecord) (key : Bytes32) :
    lastCommitted (records ++ [record]) key = if record.staticPublicKey = key then some record else lastCommitted records key := by
  rw [lastCommitted, List.reverse_append, List.reverse_singleton, List.singleton_append, List.find?_cons]
  by_cases same : record.staticPublicKey = key <;> simp [same, lastCommitted]

/-- What the records in the directory are, as a function of all commits. -/
structure Recalls (records held : List PeerRecord) : Prop where
  last : ∀ record, record ∈ held ↔ lastCommitted records record.staticPublicKey = some record
  keys : ∀ key, key ∈ held.map PeerRecord.staticPublicKey ↔ key ∈ records.map PeerRecord.staticPublicKey

theorem Recalls.commit {records held : List PeerRecord} (recalls : Recalls records held) (record : PeerRecord) :
    Recalls (records ++ [record]) (remember held record) := by
  constructor
  · intro other
    rw [lastCommitted_concat, remember, List.mem_append, List.mem_filter, List.mem_singleton]
    split
    next same => simp [same, eq_comm]
    next different =>
      have changed : other ≠ record := fun equal => different (equal ▸ rfl)
      simp [Ne.symm different, changed, recalls.last other]
  · intro key
    have old := recalls.keys key
    simp only [List.mem_map] at old
    simp only [remember, List.map_append, List.mem_append, List.mem_map, List.mem_filter, List.mem_singleton]
    grind

theorem Committed.filed {start store : StateStore} {records : List PeerRecord} (empty : start.peers = .empty)
    (serialises : ∀ record ∈ records, Serialises foreign (peerObject record)) (collisionFree : CollisionFree foreign records)
    (committed : Committed foreign start records store) :
    ∃ held, Filed foreign store held ∧ Recalls records held ∧ store.root = start.root ∧ store.uid = start.uid := by
  induction committed with
  | start =>
    refine ⟨[], ⟨?_, by simp, by simp⟩, ⟨by simp [lastCommitted], by simp⟩, rfl, rfl⟩
    rw [empty]
    rfl
  | @commit records store store' record calls _ done ih =>
    have inside : ∀ other ∈ records, other ∈ records ++ [record] := fun other member => List.mem_append_left _ member
    have here : record ∈ records ++ [record] := by simp
    obtain ⟨held, filed, recalls, root, uid⟩ := ih (fun other member => serialises other (inside other member))
      (fun first one second two => collisionFree first (inside first one) second (inside second two))
    have known : ∀ other ∈ record :: held, other ∈ records ++ [record] := by
      intro other member
      rcases List.mem_cons.mp member with rfl | old
      · exact here
      · have found := (recalls.last other).mp old
        exact inside other (List.mem_reverse.mp (List.mem_of_find?_eq_some found))
    obtain ⟨storable, renames, sameUid, sameRoot, peers⟩ := commitPeer_ok (serialises record here) done
    exact ⟨remember held record,
      filed.renamed storable
        (fun first one second two => collisionFree first (known first one) second (known second two)) renames sameUid peers,
      recalls.commit record, sameRoot.trans root, sameUid.trans uid⟩

theorem Filed.length_eq {store : StateStore} {records held : List PeerRecord} (filed : Filed foreign store held)
    (recalls : Recalls records held) : held.length = (records.map PeerRecord.staticPublicKey).dedup.length := by
  rw [← List.length_map PeerRecord.staticPublicKey]
  apply List.Perm.length_eq
  rw [List.perm_ext_iff_of_nodup (keys_nodup_of_names filed.storable filed.names_nodup) (List.nodup_dedup _)]
  intro key
  rw [List.mem_dedup]
  exact recalls.keys key

/-- The process can start: it reads its clock, and a new identity can be drawn and written. -/
structure Healthy (foreign : Foreign) (start : SecureRuntime.Start) : Prop where
  clock : start.nowMs ≠ none
  key : ∃ key, start.random = some key ∧ allZero key = false ∧ allZero (foreign.mulBaseClamped key) = false
  written : Renames start.identityCalls = true ∧ start.identityCalls.syncDirectory = true

theorem loadOrCreateIdentity_created {store : StateStore} {start : SecureRuntime.Start} (empty : store.root = .empty)
    (healthy : Healthy foreign start) :
    ∃ identity created, store.loadOrCreateIdentity foreign start.random start.identityCalls = (.ok identity, created) ∧
      created.peers = store.peers ∧ created.uid = store.uid ∧ created.root.get? (utf8 guardFile) = none := by
  obtain ⟨key, random, drawn, derived⟩ := healthy.key
  have different : utf8 identityFile ≠ utf8 (storeTemp store) := by
    exact ne_temp_of_visible store (by decide)
  have absent (raw : List UInt8) : store.root.get? raw = none := by
    rw [empty]
    rfl
  have written := atomicWrite_renamed store.uid key.toList (by decide) different (absent _) healthy.written.1
  rw [if_pos healthy.written.2] at written
  generalize created_eq : (store.writeRoot identityFile key.toList start.identityCalls).2 = created
  have root : created.root = store.root.insert (utf8 identityFile) (authority store.uid start.identityCalls key.toList) := by
    rw [← created_eq]
    exact congrArg Prod.snd written
  have frame := writeRoot_frame store identityFile key.toList start.identityCalls
  rw [created_eq] at frame
  have identity : created.loadIdentity foreign = .ok ⟨key, foreign.mulBaseClamped key⟩ := by
    have read : readAuthority created.uid created.root identityFile = .ok key.toList := by
      rw [frame.1, root]
      apply readAuthority_readable (Table.get?_insert_self ..)
      apply authority_readable healthy.written.1
      rw [Vector.length_toList]
      decide
    rw [StateStore.loadIdentity, read]
    simp [Vector.toList, drawn, derived]
  have succeeded : (store.writeRoot identityFile key.toList start.identityCalls).1 = .ok () := congrArg Prod.fst written
  have done : store.writeRoot identityFile key.toList start.identityCalls = (.ok (), created) :=
    Prod.ext succeeded created_eq
  refine ⟨⟨key, foreign.mulBaseClamped key⟩, created, ?_, frame.2, frame.1, ?_⟩
  · simp [StateStore.loadOrCreateIdentity, absent, random, drawn, done, identity]
  · rw [root, Table.get?_insert_of_ne _ _ (by decide)]
    exact absent _

theorem loadOrCreateIdentity_frame (foreign : Foreign) (store : StateStore) (random : Option Bytes32) (calls : WriteCalls) :
    (store.loadOrCreateIdentity foreign random calls).2.peers = store.peers ∧
      (store.loadOrCreateIdentity foreign random calls).2.uid = store.uid := by
  simp only [StateStore.loadOrCreateIdentity]
  split
  · exact ⟨rfl, rfl⟩
  split
  · exact ⟨rfl, rfl⟩
  next key =>
  split
  · exact ⟨rfl, rfl⟩
  have frame := writeRoot_frame store identityFile key.toList calls
  split
  next _ _ written =>
    rw [written] at frame
    exact ⟨frame.2, frame.1⟩
  next _ written =>
    rw [written] at frame
    exact ⟨frame.2, frame.1⟩

theorem initializeRuntime_loads {store : StateStore} {start : SecureRuntime.Start} {role : EndpointRole}
    {runtime : SecureRuntime} (started : (SecureRuntime.initializeRuntime foreign role store start).1 = .ok runtime) :
    ∃ loaded, store.loadPeers foreign = .ok loaded := by
  have frame := loadOrCreateIdentity_frame foreign store start.random start.identityCalls
  rw [SecureRuntime.initializeRuntime] at started
  split at started
  · cases started
  next identity created made =>
  rw [made] at frame
  have same : created.loadPeers foreign = store.loadPeers foreign :=
    loadPeers_congr frame.2 (by rw [frame.1]) (fun _ _ => by rw [frame.1])
  split at started
  · cases started
  · cases started
  next loaded _ read _ => exact ⟨loaded, same ▸ read⟩

/-- On a store without a guard file, the start depends on the trust store alone. -/
theorem initializeRuntime_iff {store : StateStore} {start : SecureRuntime.Start} (role : EndpointRole)
    (empty : store.root = .empty) (healthy : Healthy foreign start) :
    (∃ runtime, (SecureRuntime.initializeRuntime foreign role store start).1 = .ok runtime) ↔
      ∃ loaded, store.loadPeers foreign = .ok loaded := by
  obtain ⟨identity, created, done, peers, uid, unguarded⟩ := loadOrCreateIdentity_created empty healthy
  obtain ⟨nowMs, clock⟩ := Option.ne_none_iff_exists'.mp healthy.clock
  have same : created.loadPeers foreign = store.loadPeers foreign :=
    loadPeers_congr uid (by rw [peers]) (fun _ _ => by rw [peers])
  constructor
  · rintro ⟨runtime, started⟩
    exact initializeRuntime_loads started
  · rintro ⟨loaded, read⟩
    rw [SecureRuntime.initializeRuntime, done, clock]
    dsimp only
    rw [same, read]
    have fresh : created.loadGuard foreign nowMs = .ok (.new nowMs) := by
      rw [StateStore.loadGuard, unguarded]
      rfl
    simp [SecureRuntime.admitOnStart, fresh, PairingGuard.admits, PairingGuard.new]

theorem trust_store_reload (role : EndpointRole) {empty store : StateStore} {records : List PeerRecord}
    (nothing : empty.peers = .empty ∧ empty.root = .empty)
    (serialises : ∀ record ∈ records, Serialises foreign (peerObject record)) (collisionFree : CollisionFree foreign records)
    (committed : Committed foreign empty records store) {start : SecureRuntime.Start} (healthy : Healthy foreign start) :
    ((∃ loaded, store.loadPeers foreign = .ok loaded ∧ (loaded.map PeerRecord.staticPublicKey).Nodup ∧
        ∀ record, record ∈ loaded ↔ lastCommitted records record.staticPublicKey = some record) ∧
      ∃ runtime, (SecureRuntime.initializeRuntime foreign role store start).1 = .ok runtime) ↔
    (records.map PeerRecord.staticPublicKey).dedup.length ≤ maxPeers := by
  obtain ⟨held, filed, recalls, root, _⟩ := committed.filed nothing.1 serialises collisionFree
  have count := filed.length_eq recalls
  rw [initializeRuntime_iff role (root.trans nothing.2) healthy, ← count]
  constructor
  · rintro ⟨⟨loaded, done, _⟩, _⟩
    by_contra many
    rw [filed.loadPeers_full (Nat.lt_of_not_le many)] at done
    cases done
  · intro few
    obtain ⟨loaded, done, distinct, members⟩ := filed.loadPeers few
    refine ⟨⟨loaded, done, distinct, ?_⟩, loaded, done⟩
    intro record
    rw [members record, recalls.last record]

/-- Every call of a write succeeds. -/
def goodCalls : WriteCalls where
  openTemp := true
  writeStopsAfter := none
  syncAll := true
  fstat := true
  createdMode := authorityMode
  rename := true
  syncDirectory := true
  unlink := true

def emptyStore : StateStore := ⟨1000, 1, 1, .empty, .empty⟩

/-- A directory of peer files has no temporary file, so a commit can go through. -/
theorem Filed.commits {store : StateStore} {held : List PeerRecord} {record : PeerRecord}
    (filed : Filed foreign store held) (storable : Storable foreign record) :
    (store.commitPeer foreign record goodCalls).1 = .ok () := by
  have absent : store.peers.get? (utf8 (storeTemp store)) = none := by
    rw [Table.get?_eq_none_iff]
    intro row member same
    have listed : utf8 (storeTemp store) ∈ store.peers.rows.map Prod.fst := List.mem_map.mpr ⟨row, member, same⟩
    rw [filed.names] at listed
    obtain ⟨other, inside, named⟩ := List.mem_map.mp listed
    exact (filed.storable other inside).name_ne_temp store named
  have written := atomicWrite_renamed store.uid (foreign.toVec (peerObject record) ++ [newline]) storable.name_plain
    (storable.name_ne_temp store) absent (show Renames goodCalls = true by decide)
  rw [StateStore.commitPeer, storable.valid]
  exact congrArg Prod.fst written

theorem exists_committed {records : List PeerRecord} (storable : ∀ record ∈ records, Storable foreign record)
    (collisionFree : CollisionFree foreign records) : ∃ store, Committed foreign emptyStore records store := by
  induction records using List.reverseRecOn with
  | nil => exact ⟨_, .start⟩
  | append_singleton records record ih =>
    have inside : ∀ other ∈ records, other ∈ records ++ [record] := fun other member => List.mem_append_left _ member
    have fewer : CollisionFree foreign records :=
      fun first one second two => collisionFree first (inside first one) second (inside second two)
    obtain ⟨store, committed⟩ := ih (fun other member => storable other (inside other member)) fewer
    obtain ⟨held, filed, _⟩ := committed.filed rfl (fun other member => (storable other (inside other member)).serialises) fewer
    exact ⟨_, committed.commit (Prod.ext (filed.commits (storable record (by simp))) rfl)⟩

/-- A record that only its key tells apart from the others of its kind. -/
def sampleRecord (key : Bytes32) : PeerRecord where
  schemaVersion := 1
  peerId := hexEncode key.toList
  staticPublicKey := key
  aliasText := "Linux host"
  pairedWallMs := 0
  lastSeenWallMs := 0
  coreVersion := 1
  pbmuxVersion := 1

theorem sampleRecord_storable {key : Bytes32} (nonzero : allZero key = false) (pairedWallMs : UInt64) :
    Storable jsonForeign { sampleRecord key with pairedWallMs } := by
  have plain : (utf8 "Linux host").all plainByte = true := by decide
  refine ⟨validatePeer_ok.mpr ⟨rfl, rfl, rfl, rfl, ?_, ?_, nonzero⟩, peerObject_serialises (plain_hexEncode _) plain⟩
  · show "Linux host".utf8ByteSize ≠ 0
    decide
  · show "Linux host".utf8ByteSize ≤ 128
    decide

/-- Keys of one repeated byte, for the first `count` bytes after zero. -/
def sampleKeys (count : Nat) : List Bytes32 := (List.range count).map fun i => Vector.replicate 32 (UInt8.ofNat (i + 1))

theorem sampleKeys_nodup : (sampleKeys 65).Nodup := by
  apply List.Nodup.map_on _ List.nodup_range
  intro first one second two same
  have byte : (UInt8.ofNat (first + 1)).toNat = (UInt8.ofNat (second + 1)).toNat :=
    congrArg (fun key : Bytes32 => key[0].toNat) same
  rw [UInt8.toNat_ofNat', UInt8.toNat_ofNat'] at byte
  have bounds := And.intro (List.mem_range.mp one) (List.mem_range.mp two)
  omega

theorem trust_store_reload_too_many :
    ∃ store, Committed jsonForeign emptyStore ((sampleKeys 65).map sampleRecord) store ∧
      (∀ record ∈ (sampleKeys 65).map sampleRecord, Serialises jsonForeign (peerObject record)) ∧
      CollisionFree jsonForeign ((sampleKeys 65).map sampleRecord) ∧
      store.loadPeers jsonForeign = .error .tooManyPeers ∧
      ∀ role start, ∀ runtime, (SecureRuntime.initializeRuntime jsonForeign role store start).1 ≠ .ok runtime := by
  have storable : ∀ record ∈ (sampleKeys 65).map sampleRecord, Storable jsonForeign record := by
    intro record member
    obtain ⟨key, inside, rfl⟩ := List.mem_map.mp member
    have nonzero : ∀ key ∈ sampleKeys 65, allZero key = false := by decide +kernel
    exact sampleRecord_storable (nonzero key inside) 0
  have serialises := fun record member => (storable record member).serialises
  have collisionFree : CollisionFree jsonForeign ((sampleKeys 65).map sampleRecord) := fun _ _ _ _ same => same
  obtain ⟨store, committed⟩ := exists_committed storable collisionFree
  obtain ⟨held, filed, recalls, _⟩ := committed.filed rfl serialises collisionFree
  have count : held.length = 65 := by
    have keys : ((sampleKeys 65).map sampleRecord).map PeerRecord.staticPublicKey = sampleKeys 65 := by
      rw [List.map_map]
      exact List.map_id _
    rw [filed.length_eq recalls, keys, sampleKeys_nodup.dedup]
    simp [sampleKeys]
  have refused := filed.loadPeers_full (by rw [count]; decide)
  refine ⟨store, committed, serialises, collisionFree, refused, ?_⟩
  intro role start runtime started
  obtain ⟨loaded, read⟩ := initializeRuntime_loads started
  rw [refused] at read
  cases read

def sampleKey : Bytes32 := Vector.replicate 32 7

def sampleStart : SecureRuntime.Start := ⟨some 1000, some sampleKey, goodCalls, goodCalls⟩

def otherKey : Bytes32 := Vector.replicate 32 8

/-- The first of two peers, paired again after the second. -/
def pairedAgain : PeerRecord := { sampleRecord sampleKey with pairedWallMs := 9 }

theorem trust_store_reload_repeated :
    ∃ store loaded, Committed jsonForeign emptyStore [sampleRecord sampleKey, sampleRecord otherKey, pairedAgain] store ∧
      store.loadPeers jsonForeign = .ok loaded ∧ (loaded.map PeerRecord.staticPublicKey).Nodup ∧
      pairedAgain ∈ loaded ∧ sampleRecord sampleKey ∉ loaded ∧ sampleRecord otherKey ∈ loaded ∧
      ∃ runtime, (SecureRuntime.initializeRuntime jsonForeign .androidResponder store sampleStart).1 = .ok runtime := by
  have storable : ∀ record ∈ [sampleRecord sampleKey, sampleRecord otherKey, pairedAgain], Storable jsonForeign record := by
    simp only [List.forall_mem_cons]
    exact ⟨sampleRecord_storable (by decide) 0, sampleRecord_storable (by decide) 0, sampleRecord_storable (by decide) 9, by simp⟩
  have collisionFree : CollisionFree jsonForeign [sampleRecord sampleKey, sampleRecord otherKey, pairedAgain] :=
    fun _ _ _ _ same => same
  obtain ⟨store, committed⟩ := exists_committed storable collisionFree
  have healthy : Healthy jsonForeign sampleStart := ⟨by decide, ⟨sampleKey, rfl, by decide, by decide⟩, by decide, rfl⟩
  obtain ⟨⟨loaded, read, distinct, last⟩, started⟩ := (trust_store_reload .androidResponder ⟨rfl, rfl⟩
    (fun record member => (storable record member).serialises) collisionFree committed healthy).mpr (by decide)
  exact ⟨store, loaded, committed, read, distinct, (last _).mpr (by decide), fun old => absurd ((last _).mp old) (by decide),
    (last _).mpr (by decide), started⟩

end PhoneBoost.Secure.Proofs
