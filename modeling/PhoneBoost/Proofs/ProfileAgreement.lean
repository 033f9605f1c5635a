import PhoneBoost.Host.ProfileStore
import PhoneBoost.Lib.Wire
import PhoneBoost.Proofs.JsonText

/-! The profile store and the planner agree. A stored profile comes back under the
key it was made for, while the planner would call it valid, and under no other
key; outside its time both give the same reason. -/

namespace PhoneBoost.Host.Profiles.Proofs
open Keyed Planner Wire
open Secure (File utf8)
open Secure.Proofs (decimalText hexEncode_injective objectText quoted utf8_append utf8_injective)

/-- The JSON library reads the profile back as it wrote it. Nothing is asked of the
hash: a profile found under the name of another key is refused for its own key. -/
def ReadsBack (foreign : Foreign) (profile : C13PerformanceProfileV1) : Prop :=
  ∀ bytes, foreign.profileToVec profile = some bytes → foreign.profileFromSlice bytes = some profile

/-- Files can be opened and read, and nobody else writes them. -/
def atRest : LoadCalls := ⟨true, true, true, true, true⟩

section Names

theorem ofClass_injective {first second : ThermalClass}
    (same : PersistedThermalClass.ofClass first = PersistedThermalClass.ofClass second) : first = second := by
  cases first <;> cases second <;> first | rfl | cases same

theorem ofPolicy_injective {first second : BatteryPolicy}
    (same : PersistedBatteryPolicy.ofPolicy first = PersistedBatteryPolicy.ofPolicy second) : first = second := by
  cases first <;> cases second <;> first | rfl | cases same

theorem fromPlannerKey_injective {first second : PerformanceProfileKey}
    (same : C13ProfileKeyV1.fromPlannerKey first = C13ProfileKeyV1.fromPlannerKey second) : first = second := by
  obtain ⟨peer, build, provider, operation, core, protocol, transport, workload, thermal, battery⟩ := first
  obtain ⟨peer', build', provider', operation', core', protocol', transport', workload', thermal', battery'⟩ := second
  simp only [C13ProfileKeyV1.fromPlannerKey, C13ProfileKeyV1.mk.injEq] at same
  obtain ⟨hex, rfl, rfl, rfl, rfl, rfl, rfl, rfl, thermals, batteries⟩ := same
  obtain ⟨bytes⟩ := peer
  obtain ⟨bytes'⟩ := peer'
  have peers : bytes = bytes' := Vector.toList_inj.mp (hexEncode_injective hex)
  rw [peers, ofClass_injective thermals, ofPolicy_injective batteries]

theorem fileName_injective {first second : String} (same : fileName first = fileName second) : first = second := by
  rw [fileName, fileName, utf8_append, utf8_append] at same
  exact utf8_injective (List.append_cancel_right same)

/-- A profile is never taken for a temporary file. -/
theorem fileName_ne_temporaryName (profileId : String) (processId sequence : Nat) :
    fileName profileId ≠ temporaryName processId sequence := by
  intro same
  have last := congrArg List.getLast? same
  have json : (utf8 ".json").getLast? = some 110 := by decide
  have tmp : (utf8 ".tmp").getLast? = some 112 := by decide
  rw [fileName, temporaryName, utf8_append, utf8_append, List.getLast?_append, List.getLast?_append, json, tmp] at last
  exact absurd last (by simp)

end Names

section Saving
variable {foreign : Foreign} {store after : PerformanceProfileStore} {profile : C13PerformanceProfileV1} {profileId : String}
  {calls : StoreCalls}

/-- What a successful call leaves: the profile's own file, and no other changed. -/
structure Saved (foreign : Foreign) (profile : C13PerformanceProfileV1) (profileId : String)
    (store after : PerformanceProfileStore) (bytes : List UInt8) (file : File) : Prop where
  named : profileIdForKey foreign profile.key = .ok profileId
  written : foreign.profileToVec profile = some bytes
  fits : bytes.length ≤ maximumProfileBytes
  owned : validOwnedRegularFile after.uid file = true
  content : file.bytes = bytes
  kept : after.directory.get? (fileName profileId) = some file
  others : ∀ other, other ≠ profileId → after.directory.get? (fileName other) = store.directory.get? (fileName other)

theorem get?_replaceProfile {name temporary bytes : List UInt8} {directory : Secure.Directory}
    (replaced : store.replaceProfile name temporary bytes calls = (.ok (), directory)) (other : List UInt8)
    (different : other ≠ temporary) :
    directory.get? other =
      if other = name then some ⟨.regularFile, store.uid, calls.createdMode, bytes⟩ else store.directory.get? other := by
  rw [PerformanceProfileStore.replaceProfile] at replaced
  split at replaced
  next => cases replaced
  next =>
    obtain ⟨-, rfl⟩ := Prod.mk.inj replaced
    rw [Table.get?_insert]
    split
    next => rfl
    next => rw [Table.get?_erase_of_ne _ different, Table.get?_insert_of_ne _ _ different]

theorem writeProfile_ok {name bytes : List UInt8} (written : store.writeProfile name bytes calls = (.ok (), after)) :
    after.uid = store.uid ∧ permissionBits calls.createdMode = privateFileMode ∧
      ∀ other, other ≠ temporaryName store.processId store.nextTemporary → after.directory.get? other =
        if other = name then some ⟨.regularFile, store.uid, calls.createdMode, bytes⟩ else store.directory.get? other := by
  rw [PerformanceProfileStore.writeProfile] at written
  split at written
  next => cases written
  next =>
    dsimp only at written
    split at written
    next => cases written
    next valid =>
      split at written
      next directory replaced =>
        cases written
        refine ⟨rfl, ?_, fun other different => get?_replaceProfile replaced other different⟩
        simp only [validOwnedRegularFile, decide_true, Bool.true_and, Bool.or_eq_true, Bool.not_eq_true', decide_eq_false_iff_not,
          not_or, not_not] at valid
        exact valid.2
      next => cases written

theorem save_saved (saved : store.save foreign profile calls = (.ok profileId, after)) :
    ∃ bytes file, Saved foreign profile profileId store after bytes file := by
  rw [PerformanceProfileStore.save] at saved
  split at saved
  next => cases saved
  next _ made bytes checked =>
    obtain ⟨_, _, checked⟩ := bind_eq_ok.mp checked
    obtain ⟨named, identified, checked⟩ := bind_eq_ok.mp checked
    obtain ⟨_, _, checked⟩ := bind_eq_ok.mp checked
    obtain ⟨_, _, identified⟩ := bind_eq_ok.mp identified
    obtain ⟨encoded, written, checked⟩ := bind_eq_ok.mp checked
    obtain ⟨fits, same⟩ := ite_error_eq_ok.mp checked
    cases same
    cases result : store.writeProfile (fileName made) bytes calls with
    | mk outcome later =>
      rw [result] at saved
      cases outcome with
      | error => cases saved
      | ok =>
        cases saved
        obtain ⟨uid, mode, directory⟩ := writeProfile_ok result
        refine ⟨bytes, ⟨.regularFile, store.uid, calls.createdMode, bytes⟩, identified, okOr_eq_ok.mp written,
          Nat.le_of_not_lt fits, ?_, rfl, ?_, ?_⟩
        · simp [validOwnedRegularFile, uid, mode]
        · rw [directory _ (fileName_ne_temporaryName _ _ _), if_pos rfl]
        · intro other different
          rw [directory _ (fileName_ne_temporaryName _ _ _), if_neg (mt fileName_injective different)]

end Saving

section Loading
variable {foreign : Foreign} {store after : PerformanceProfileStore} {profile : C13PerformanceProfileV1} {profileId : String}
  {key : PerformanceProfileKey} {created : Nat} {evidence : C13PerformanceEvidenceV1} {provenance : C13BenchmarkProvenanceV1}

theorem validate_ok (valid : profile.validate = .ok ()) :
    profile.schemaVersion = profileSchemaVersion ∧
      checkedAdd profile.createdWallMs performanceProfileTtlMs = some profile.expiresWallMs ∧ profile.key.validate = true := by
  rw [C13PerformanceProfileV1.validate, ite_error_eq_ok] at valid
  have fields := valid.1
  simp only [ne_eq, Bool.or_eq_true, decide_eq_true_eq, Bool.not_eq_true', not_or, not_not, Bool.not_eq_false] at fields
  exact ⟨fields.1.1.1.1, fields.1.1.1.2, fields.1.1.2⟩

/-- What `new` makes of a planner key. -/
theorem create_ok (made : C13PerformanceProfileV1.create key created evidence provenance = .ok profile) :
    profile.validate = .ok () ∧ profile.key = .fromPlannerKey key ∧ profile.createdWallMs = created ∧
      profile.expiresWallMs = created + performanceProfileTtlMs ∧ profile.evidence = evidence := by
  rw [C13PerformanceProfileV1.create, bind_eq_ok] at made
  obtain ⟨expires, sum, made⟩ := made
  obtain ⟨⟨⟩, valid, same⟩ := bind_eq_ok.mp made
  obtain rfl := Except.ok.inj same
  exact ⟨valid, rfl, rfl, (checkedAdd_eq_some.mp (okOr_eq_ok.mp sum)).2, rfl⟩

section Files
variable {bytes : List UInt8} {file : File} (saved : Saved foreign profile profileId store after bytes file)
include saved

/-- A key whose identifier names the file is judged by what the file holds. -/
theorem Saved.load_eq_judge {other : PerformanceProfileKey} (valid : (C13ProfileKeyV1.fromPlannerKey other).validate = true)
    (identified : profileIdForKey foreign (.fromPlannerKey other) = .ok profileId) (now : Nat) :
    after.load foreign other now atRest = PerformanceProfileStore.judge foreign bytes other now := by
  have fits := saved.fits
  have content := saved.content
  have owned := saved.owned
  have whole : bytes.take (maximumProfileBytes + 1) = bytes := List.take_of_length_le (by omega)
  have regular : file.fileType = .regularFile := by
    simp only [validOwnedRegularFile, Bool.and_eq_true, decide_eq_true_eq] at owned
    exact owned.1.1
  rw [PerformanceProfileStore.load]
  simp only [valid, identified, saved.kept, whole, content, regular, owned, atRest]
  simp only [Bool.not_true, Bool.false_eq_true, if_false, reduceCtorEq, decide_false, Bool.or_false]
  rw [if_neg (by omega), if_neg (by omega)]

/-- The file of a profile gives the profile back, under its own key. -/
theorem Saved.load (readsBack : ReadsBack foreign profile) (valid : profile.validate = .ok ())
    (named : profile.key = .fromPlannerKey key) (now : Nat) :
    after.load foreign key now atRest =
      if now < profile.createdWallMs then .invalid .clockMovedBackwards
      else if profile.expiresWallMs ≤ now then .invalid .ttlExpired
      else .valid (profile.plannerProfile key) := by
  obtain ⟨schema, _, keyValid⟩ := validate_ok valid
  have identified := saved.named
  rw [named] at keyValid identified
  rw [saved.load_eq_judge keyValid identified, PerformanceProfileStore.judge, readsBack _ saved.written]
  dsimp only
  rw [if_neg (not_not.mpr schema), valid]
  dsimp only
  rw [if_neg (not_not.mpr named)]

/-- Under another key there is nothing to load, or only the profile of this key. -/
theorem Saved.load_other (readsBack : ReadsBack foreign profile) (named : profile.key = .fromPlannerKey key)
    {other : PerformanceProfileKey} (different : other ≠ key)
    (alone : ∀ otherId, profileIdForKey foreign (.fromPlannerKey other) = .ok otherId → otherId ≠ profileId →
      store.directory.get? (fileName otherId) = none) (now : Nat) (loaded : PerformanceProfile) :
    after.load foreign other now atRest ≠ .valid loaded := by
  intro found
  cases keyValid : (C13ProfileKeyV1.fromPlannerKey other).validate with
  | false => simp [PerformanceProfileStore.load, keyValid] at found
  | true =>
    cases identified : profileIdForKey foreign (.fromPlannerKey other) with
    | error => simp [PerformanceProfileStore.load, keyValid, identified] at found
    | ok otherId =>
      by_cases same : otherId = profileId
      · -- two keys of one hash: the file names the key that it was made for
        subst same
        have changed : profile.key ≠ .fromPlannerKey other :=
          fun equal => different (fromPlannerKey_injective (equal.symm.trans named))
        rw [saved.load_eq_judge keyValid identified, PerformanceProfileStore.judge, readsBack _ saved.written] at found
        dsimp only at found
        rw [if_pos changed] at found
        split at found
        · cases found
        · split at found <;> cases found
      · simp [PerformanceProfileStore.load, keyValid, identified, saved.others otherId same, alone otherId identified same,
          atRest] at found

end Files

/-- The planner's test of age, written as the store's test of the absolute time. -/
theorem plannerProfile_status (schema : profile.schemaVersion = profileSchemaVersion) (now : Nat) :
    (profile.plannerProfile key).status key now =
      if now < profile.createdWallMs then .invalid .clockMovedBackwards
      else if profile.createdWallMs + performanceProfileTtlMs ≤ now then .invalid .ttlExpired else .valid := by
  have age : now < profile.createdWallMs ∨
      (performanceProfileTtlMs ≤ now - profile.createdWallMs ↔ profile.createdWallMs + performanceProfileTtlMs ≤ now) := by omega
  rcases age with early | same
  · simp [PerformanceProfile.status, C13PerformanceProfileV1.plannerProfile, schema, profileSchemaVersion, early]
  · simp [PerformanceProfile.status, C13PerformanceProfileV1.plannerProfile, schema, profileSchemaVersion, same]

/-- Three outcomes by the time: too early, too late, in between. -/
theorem outcome_iff {early late between : α} (first : early ≠ late) (second : between ≠ early) (third : between ≠ late)
    {now created ends : Nat} (order : created ≤ ends) :
    ((if now < created then early else if ends ≤ now then late else between) = early ↔ now < created) ∧
    ((if now < created then early else if ends ≤ now then late else between) = late ↔ ends ≤ now) ∧
    ((if now < created then early else if ends ≤ now then late else between) = between ↔ created ≤ now ∧ now < ends) := by
  by_cases soon : now < created
  · simp only [if_pos soon, first, second.symm, true_iff, false_iff]
    omega
  · by_cases gone : ends ≤ now
    · simp only [if_neg soon, if_pos gone, first.symm, third.symm, true_iff, false_iff]
      omega
    · simp only [if_neg soon, if_neg gone, second, third, true_iff, false_iff]
      omega

end Loading

/-- A stored profile is loaded as valid under the key it was made for, from its
creation to the end of its time, and never under another key; what is loaded has
that key and the stored evidence and is valid for the planner. Before and after
that time the store and the planner name the same reason. -/
theorem profile_store_agrees (foreign : Foreign) (key : PerformanceProfileKey) (created : Nat)
    (evidence : C13PerformanceEvidenceV1) (provenance : C13BenchmarkProvenanceV1) (profile : C13PerformanceProfileV1)
    (made : C13PerformanceProfileV1.create key created evidence provenance = .ok profile)
    (readsBack : ReadsBack foreign profile) (store after : PerformanceProfileStore) (calls : StoreCalls) (profileId : String)
    (saved : store.save foreign profile calls = (.ok profileId, after))
    (alone : ∀ other otherId, profileIdForKey foreign (.fromPlannerKey other) = .ok otherId → otherId ≠ profileId →
      store.directory.get? (fileName otherId) = none) (other : PerformanceProfileKey) (now : Nat) :
    ((∃ loaded, after.load foreign other now atRest = .valid loaded) ↔
      other = key ∧ created ≤ now ∧ now < created + performanceProfileTtlMs) ∧
    (∀ loaded, after.load foreign other now atRest = .valid loaded →
      loaded.key = key ∧ loaded.createdWallMs = created ∧ loaded.evidence = evidence.plannerEvidence ∧
        loaded.status key now = .valid) ∧
    (after.load foreign key now atRest = .invalid .clockMovedBackwards ↔ now < created) ∧
    (after.load foreign key now atRest = .invalid .ttlExpired ↔ created + performanceProfileTtlMs ≤ now) ∧
    ((profile.plannerProfile key).status key now = .invalid .clockMovedBackwards ↔ now < created) ∧
    ((profile.plannerProfile key).status key now = .invalid .ttlExpired ↔ created + performanceProfileTtlMs ≤ now) := by
  obtain ⟨valid, named, rfl, expires, rfl⟩ := create_ok made
  obtain ⟨bytes, file, kept⟩ := save_saved saved
  have own := kept.load readsBack valid named now
  rw [expires] at own
  have order : profile.createdWallMs ≤ profile.createdWallMs + performanceProfileTtlMs := Nat.le_add_right _ _
  have status := @plannerProfile_status profile key (validate_ok valid).1 now
  obtain ⟨loadClock, loadTtl, loadValid⟩ := @outcome_iff PerformanceProfileLoadOutcome (.invalid .clockMovedBackwards)
    (.invalid .ttlExpired) (.valid (profile.plannerProfile key)) (by simp) (by simp) (by simp) now _ _ order
  obtain ⟨planClock, planTtl, planValid⟩ := @outcome_iff ProfileStatus (.invalid .clockMovedBackwards)
    (.invalid .ttlExpired) .valid (by simp) (by simp) (by simp) now _ _ order
  rw [← own] at loadClock loadTtl loadValid
  rw [← status] at planClock planTtl planValid
  have only : ∀ loaded, after.load foreign other now atRest = .valid loaded →
      other = key ∧ loaded = profile.plannerProfile key := by
    intro loaded found
    by_cases same : other = key
    · subst same
      rw [own] at found
      split at found
      next => cases found
      next =>
        split at found
        next => cases found
        next => exact ⟨rfl, (PerformanceProfileLoadOutcome.valid.inj found).symm⟩
    · exact absurd found (kept.load_other readsBack named same (alone other) now loaded)
  refine ⟨⟨?_, ?_⟩, ?_, loadClock, loadTtl, planClock, planTtl⟩
  · rintro ⟨loaded, found⟩
    obtain ⟨rfl, rfl⟩ := only loaded found
    exact ⟨rfl, loadValid.mp found⟩
  · rintro ⟨rfl, inside⟩
    exact ⟨_, loadValid.mpr inside⟩
  · intro loaded found
    obtain ⟨rfl, rfl⟩ := only loaded found
    exact ⟨rfl, rfl, rfl, planValid.mpr (loadValid.mp found)⟩

section Sample

def sampleKey : PerformanceProfileKey :=
  ⟨⟨.replicate 32 7⟩, "android-worker-0.1.0+fixture", "pb.native", "pb.native.blake3/1", 1, 1, "pb-link-v1:usb_network",
    "pb-workload-v1:blake3:64m:fixture", .nominal, .externalPower⟩

def sampleEvidence : C13PerformanceEvidenceV1 := ⟨true, true, 15, 15, 1000000000, 900000000, 1000, 500, 300000, false⟩

def sampleProvenance : C13BenchmarkProvenanceV1 :=
  ⟨benchmarkContract, "bench-0.1.0", "config-1", .nativeC12, linkMeasurementContract, 3, 1000000, 1000000⟩

def sampleProfile : C13PerformanceProfileV1 :=
  ⟨1, 0, performanceProfileTtlMs, .fromPlannerKey sampleKey, sampleEvidence, sampleProvenance⟩

/-- The JSON text of a key, its fields in the order of the struct. -/
def keyText (key : C13ProfileKeyV1) : List UInt8 :=
  let thermal := match key.thermalClass with
    | .nominal => "nominal" | .light => "light" | .moderate => "moderate" | .severe => "severe"
  let battery := match key.batteryPolicy with
    | .externalPower => "external_power" | .batteryAllowed => "battery_allowed" | .powerSave => "power_save"
    | .remoteDisallowed => "remote_disallowed"
  objectText [("peer_id_sha256_hex", quoted key.peerIdSha256Hex), ("worker_build_id", quoted key.workerBuildId),
    ("provider_id", quoted key.providerId), ("operation_id", quoted key.operationId),
    ("core_protocol_version", decimalText key.coreProtocolVersion.toNat),
    ("provider_protocol_version", decimalText key.providerProtocolVersion.toNat),
    ("transport_signature", quoted key.transportSignature), ("workload_signature", quoted key.workloadSignature),
    ("thermal_class", quoted thermal), ("battery_policy", quoted battery)]

/-- What `serde_json` writes for it. -/
def sampleText : List UInt8 :=
  utf8 "\x7b\"schema_version\":1,\"created_wall_ms\":0,\"expires_wall_ms\":86400000,\"key\":" ++ keyText (.fromPlannerKey sampleKey)
    ++ [",\"evidence\":\x7b\"local_warmup_complete\":true,\"remote_warmup_complete\":true,\"measured_local_runs\":15,",
      "\"measured_remote_runs\":15,\"local_median_duration_ns\":1000000000,\"remote_median_duration_ns\":900000000,",
      "\"remote_median_gain_basis_points\":1000,\"bootstrap_95_lower_bound_basis_points\":500,",
      "\"sustained_check_duration_ms\":300000,\"thermal_severe_observed\":false\x7d,\"provenance\":\x7b",
      "\"benchmark_contract\":\"pb-bench-v1\",\"benchmark_build_id\":\"bench-0.1.0\",\"benchmark_config_id\":\"config-1\",",
      "\"requester_path\":\"native_c12\",\"link_measurement_contract\":\"pb-link-metrics-v1\",\"median_rtt_ms\":3,",
      "\"median_tx_goodput_bytes_per_second\":1000000,\"median_rx_goodput_bytes_per_second\":1000000\x7d\x7d"].flatMap utf8

/-- The store writes every key and the text of one profile, and the hash tells
texts of different lengths apart. -/
def sampleForeign : Foreign where
  keyToVec key := some (keyText key)
  profileToVec profile := if profile = sampleProfile then some sampleText else none
  profileFromSlice bytes := if bytes = sampleText then some sampleProfile else none
  blake3 bytes := .replicate 32 (.ofNat bytes.length)

def sampleStore : PerformanceProfileStore := ⟨1000, 1, 0, .empty⟩

def sampleCalls : StoreCalls := ⟨true, true, true, 0o600, none, true, true, true, true, true⟩

/-- The same worker, a little warmer. -/
def warmKey : PerformanceProfileKey := { sampleKey with thermalClass := .light }

theorem profile_store_agrees_sample :
    let after := (sampleStore.save sampleForeign sampleProfile sampleCalls).2
    (∃ loaded, after.load sampleForeign sampleKey 5 atRest = .valid loaded) ∧
      profileIdForKey sampleForeign (.fromPlannerKey warmKey) ≠ profileIdForKey sampleForeign (.fromPlannerKey sampleKey) ∧
      ∀ loaded, after.load sampleForeign warmKey 5 atRest ≠ .valid loaded := by
  have made : C13PerformanceProfileV1.create sampleKey 0 sampleEvidence sampleProvenance = .ok sampleProfile := by decide +kernel
  have readsBack : ReadsBack sampleForeign sampleProfile := by
    intro bytes written
    simp only [sampleForeign, if_true, Option.some.injEq] at written ⊢
    exact if_pos written.symm
  have saved : (sampleStore.save sampleForeign sampleProfile sampleCalls).1.isOk = true := by decide +kernel
  cases result : sampleStore.save sampleForeign sampleProfile sampleCalls with
  | mk outcome after =>
    rw [result] at saved
    cases outcome with
    | error => cases saved
    | ok profileId =>
      have agrees := profile_store_agrees sampleForeign sampleKey 0 sampleEvidence sampleProvenance sampleProfile made readsBack
        sampleStore after sampleCalls profileId result fun _ _ _ _ => rfl
      refine ⟨(agrees sampleKey 5).1.mpr ⟨rfl, by decide, by decide⟩, by decide +kernel, fun loaded found => ?_⟩
      have same := ((agrees warmKey 5).1.mp ⟨loaded, found⟩).1
      exact absurd same (by decide)

end Sample

end PhoneBoost.Host.Profiles.Proofs
