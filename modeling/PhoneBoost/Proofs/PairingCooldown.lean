import PhoneBoost.Proofs.SessionSteps
import PhoneBoost.Proofs.WireFields

/-! The pairing cooldown over whole runs. The guard in memory and the guard on
disk both carry it, and every call on the guard keeps it as long as its clock
reading is no older than the guard and nobody authenticates meanwhile. -/

namespace PhoneBoost.Secure.Proofs
open Keyed Pbmux Pbmux.Proofs PairingGuard

variable {foreign : Foreign}

theorem toNat_cooldownFrom (nowMs : UInt64) :
    (cooldownFrom nowMs).toNat = min (nowMs.toNat + pairingCooldownMs) u64Max := by
  have sum : saturatingAdd nowMs.toNat pairingCooldownMs = min (nowMs.toNat + pairingCooldownMs) u64Max := by
    rw [saturatingAdd, pairingCooldownMs, u64Max]
    split <;> omega
  have bound : min (nowMs.toNat + pairingCooldownMs) u64Max < 2 ^ 64 := by
    rw [u64Max]
    omega
  rw [cooldownFrom, sum, UInt64.toNat_ofNat', Nat.mod_eq_of_lt bound]

theorem cooldownFrom_mono {first second : UInt64} (ordered : first ≤ second) : cooldownFrom first ≤ cooldownFrom second := by
  rw [UInt64.le_iff_toNat_le] at ordered ⊢
  rw [toNat_cooldownFrom, toNat_cooldownFrom]
  omega

/-- The guard remembers a cooldown that began at `since`: it still runs, or the
guard was last used after its end. No reading used so far is past `last`. -/
structure Cools (since last : UInt64) (guard : PairingGuard) : Prop where
  begun : since ≤ guard.updatedWallMs
  used : guard.updatedWallMs ≤ last
  runs : (∃ expiry, guard.cooldownUntilWallMs = some expiry ∧ cooldownFrom since ≤ expiry) ∨
    cooldownFrom since ≤ guard.updatedWallMs

namespace Cools
variable {since last nowMs : UInt64} {guard : PairingGuard}

theorem later {next : UInt64} (cools : Cools since last guard) (ordered : last ≤ next) : Cools since next guard :=
  ⟨cools.begun, UInt64.le_trans cools.used ordered, cools.runs⟩

theorem of_over (begun : since ≤ nowMs) (read : nowMs ≤ last) (expired : cooldownFrom since ≤ nowMs) (count : UInt8)
    (expiry : Option UInt64) : Cools since last ⟨count, expiry, nowMs⟩ :=
  ⟨begun, read, .inr expired⟩

/-- During the cooldown the guard refuses and stays as it is. -/
theorem admits_early (cools : Cools since last guard) (ordered : guard.updatedWallMs ≤ nowMs)
    (early : nowMs < cooldownFrom since) : guard.admits nowMs = (⟨false, false⟩, guard) := by
  rcases cools.runs with ⟨expiry, cooldown, bound⟩ | expired
  · have before : nowMs < expiry := UInt64.lt_of_lt_of_le early bound
    simp only [PairingGuard.admits, cooldown, if_neg (UInt64.not_lt.mpr ordered), if_pos before]
  · exact absurd (UInt64.le_trans expired ordered) (UInt64.not_le.mpr early)

theorem admits (cools : Cools since last guard) (ordered : guard.updatedWallMs ≤ nowMs) (read : nowMs ≤ last) :
    Cools since last (guard.admits nowMs).2 := by
  by_cases early : nowMs < cooldownFrom since
  · rw [cools.admits_early ordered early]
    exact cools
  · have expired := UInt64.not_lt.mp early
    have begun := UInt64.le_trans cools.begun ordered
    rw [PairingGuard.admits]
    split
    · exact cools
    · rw [if_neg (UInt64.not_lt.mpr ordered)]
      split
      · exact cools
      · exact of_over begun read expired _ _

theorem recordMismatch (cools : Cools since last guard) (ordered : guard.updatedWallMs ≤ nowMs) (read : nowMs ≤ last) :
    Cools since last (guard.recordMismatch nowMs) := by
  have begun := UInt64.le_trans cools.begun ordered
  refine ⟨begun, read, ?_⟩
  rcases cools.runs with ⟨expiry, cooldown, bound⟩ | expired
  · left
    by_cases reached : pairingMismatchLimit ≤ (guard.recordMismatch nowMs).mismatchCount
    · exact ⟨_, if_pos reached, cooldownFrom_mono begun⟩
    · exact ⟨expiry, (if_neg reached).trans cooldown, bound⟩
  · exact .inr (UInt64.le_trans expired ordered)

/-- Authentication is harmless once the cooldown is over. -/
theorem paired (cools : Cools since last guard) (ordered : guard.updatedWallMs ≤ nowMs) (read : nowMs ≤ last)
    (ended : ∀ expiry, guard.cooldownUntilWallMs = some expiry → expiry ≤ nowMs) : Cools since last (.paired nowMs) := by
  have begun := UInt64.le_trans cools.begun ordered
  rcases cools.runs with ⟨expiry, cooldown, bound⟩ | expired
  · exact of_over begun read (UInt64.le_trans bound (ended expiry cooldown)) _ _
  · exact of_over begun read (UInt64.le_trans expired ordered) _ _

end Cools

/-- The mismatch that reaches the limit starts a cooldown. -/
theorem recordMismatch_cools {guard : PairingGuard} {nowMs last : UInt64} (read : nowMs ≤ last)
    (reached : pairingMismatchLimit ≤ (guard.recordMismatch nowMs).mismatchCount) :
    Cools nowMs last (guard.recordMismatch nowMs) := by
  refine ⟨UInt64.le_refl _, read, .inl ⟨cooldownFrom nowMs, ?_, UInt64.le_refl _⟩⟩
  exact if_pos reached

/-- Both copies of the guard remember the cooldown. -/
structure Cooling (foreign : Foreign) (since last : UInt64) (process : Process) : Prop where
  disk : ∃ guard, (∀ nowMs, process.store.loadGuard foreign nowMs = .ok guard) ∧ Cools since last guard
  memory : ∀ runtime, process = .up runtime → Cools since last runtime.guard

namespace Cooling
variable {since last nowMs : UInt64} {runtime after : SecureRuntime} {process : Process}

theorem later {next : UInt64} (cooling : Cooling foreign since last process) (ordered : last ≤ next) :
    Cooling foreign since next process := by
  obtain ⟨guard, loads, cools⟩ := cooling.disk
  exact ⟨⟨guard, loads, cools.later ordered⟩, fun runtime up => (cooling.memory runtime up).later ordered⟩

/-- Cooling only looks at the guard and at what `loadGuard` reads. -/
theorem of_same (cooling : Cooling foreign since last (.up runtime)) (guard : after.guard = runtime.guard)
    (loads : ∀ nowMs, after.store.loadGuard foreign nowMs = runtime.store.loadGuard foreign nowMs) :
    Cooling foreign since last (.up after) := by
  obtain ⟨stored, found, cools⟩ := cooling.disk
  refine ⟨⟨stored, fun nowMs => (loads nowMs).trans (found nowMs), cools⟩, ?_⟩
  rintro other ⟨⟩
  rw [guard]
  exact cooling.memory runtime rfl

theorem adopts {guard : PairingGuard} (cooling : Cooling foreign since last (.up runtime))
    (adopts : Adopts foreign runtime after guard) (cools : Cools since last guard) :
    Cooling foreign since last (.up after) := by
  obtain ⟨stored, found, old⟩ := cooling.disk
  refine ⟨?_, ?_⟩
  · rcases adopts.disk with new | same
    · exact ⟨guard, new, cools⟩
    · exact ⟨stored, fun nowMs => (same nowMs).trans (found nowMs), old⟩
  · rintro other ⟨⟩
    rw [adopts.memory]
    exact cools

end Cooling

/-! Starts of the process. -/

theorem loadOrCreateIdentity_guard (store : StateStore) (random : Option Bytes32) (calls : WriteCalls) (nowMs : UInt64) :
    (store.loadOrCreateIdentity foreign random calls).2.loadGuard foreign nowMs = store.loadGuard foreign nowMs := by
  have shown : temporary (utf8 identityFile) = false := by decide
  have guarded : temporary (utf8 guardFile) = false := by decide
  have apart : utf8 guardFile ≠ utf8 identityFile := by decide
  simp only [StateStore.loadOrCreateIdentity]
  split
  · rfl
  split
  · rfl
  next key =>
  split
  · rfl
  have wrote := writeRoot_wrote store key.toList calls (ne_temp_of_visible store shown)
  have frame := writeRoot_frame store identityFile key.toList calls
  generalize store.writeRoot identityFile key.toList calls = written at wrote frame
  obtain ⟨result, after⟩ := written
  have kept : after.loadGuard foreign nowMs = store.loadGuard foreign nowMs := by
    apply loadGuard_congr frame.1
    dsimp only at wrote
    generalize after.root = root at wrote
    cases wrote with
    | renamed => exact Table.get?_insert_of_ne _ _ apart
    | kept => rfl
    | leftover => exact Table.get?_insert_of_ne _ _ (ne_temp_of_visible store guarded)
  cases result <;> exact kept

section Restart
variable (serialises : ∀ guard, Serialises foreign (guardObject guard))
include serialises

/-- A start reads the guard that the last write left and goes on with it. -/
theorem initializeRuntime_guard {role : EndpointRole} {store after : StateStore} {start : SecureRuntime.Start}
    {guard : PairingGuard} {result : Except RuntimeError SecureRuntime}
    (loads : ∀ nowMs, store.loadGuard foreign nowMs = .ok guard)
    (started : SecureRuntime.initializeRuntime foreign role store start = (result, after)) :
    (∀ runtime, result = .ok runtime → runtime.store = after ∧
      ∃ nowMs, start.nowMs = some nowMs ∧ runtime.guard = (guard.admits nowMs).2) ∧
    ((∀ nowMs, after.loadGuard foreign nowMs = .ok guard) ∨
      ∃ nowMs, start.nowMs = some nowMs ∧ ∀ later, after.loadGuard foreign later = .ok (guard.admits nowMs).2) := by
  have unchanged : ∀ nowMs, (store.loadOrCreateIdentity foreign start.random start.identityCalls).2.loadGuard foreign nowMs =
      .ok guard := fun nowMs => (loadOrCreateIdentity_guard store _ _ nowMs).trans (loads nowMs)
  simp only [SecureRuntime.initializeRuntime] at started
  split at started
  next created made =>
    rw [made] at unchanged
    dsimp only at unchanged
    cases started
    exact ⟨(fun _ up => by cases up), .inl unchanged⟩
  next identity created made =>
  rw [made] at unchanged
  dsimp only at unchanged
  split at started
  · cases started
    exact ⟨(fun _ up => by cases up), .inl unchanged⟩
  · cases started
    exact ⟨(fun _ up => by cases up), .inl unchanged⟩
  next peers nowMs read clock =>
  have persisted := persistGuard_loads (serialises (guard.admits nowMs).2) created start.guardCalls
  simp only [SecureRuntime.admitOnStart, unchanged] at started
  by_cases changed : (guard.admits nowMs).1.stateChanged = true
  · simp only [changed, if_true] at started
    generalize created.persistGuard foreign (guard.admits nowMs).2 start.guardCalls = written at persisted started
    obtain ⟨answer, store'⟩ := written
    have disk : (∀ nowMs, store'.loadGuard foreign nowMs = .ok guard) ∨
        ∃ nowMs, start.nowMs = some nowMs ∧ ∀ later, store'.loadGuard foreign later = .ok (guard.admits nowMs).2 := by
      rcases persisted with new | ⟨_, old⟩
      · exact .inr ⟨nowMs, clock, new⟩
      · exact .inl fun nowMs => (old nowMs).trans (unchanged nowMs)
    cases answer with
    | error =>
      cases started
      exact ⟨(fun _ up => by cases up), disk⟩
    | ok =>
      cases started
      refine ⟨?_, disk⟩
      intro runtime up
      cases up
      exact ⟨rfl, nowMs, clock, rfl⟩
  · rw [Bool.not_eq_true] at changed
    simp only [changed, Bool.false_eq_true, if_false] at started
    cases started
    refine ⟨?_, .inl unchanged⟩
    intro runtime up
    cases up
    exact ⟨rfl, nowMs, clock, rfl⟩

/-- The clock does not go back over a restart, so the guard on disk is taken over as it is or after its end. -/
theorem Cooling.restart {since last next : UInt64} {endpoint : Endpoint} {processId : Nat} {start : SecureRuntime.Start}
    (cooling : Cooling foreign since last endpoint.process) (passed : last ≤ next)
    (ordered : ∀ nowMs, start.nowMs = some nowMs → last ≤ nowMs ∧ nowMs ≤ next) :
    Cooling foreign since next (endpoint.restart foreign processId start).process := by
  obtain ⟨guard, loads, cools⟩ := cooling.disk
  have after : ∀ nowMs, start.nowMs = some nowMs → Cools since next (guard.admits nowMs).2 := by
    intro nowMs clock
    obtain ⟨lower, upper⟩ := ordered nowMs clock
    exact (cools.later passed).admits (UInt64.le_trans cools.used lower) upper
  generalize store_eq : { endpoint.process.store with processId, tempSequence := 1 } = store
  have reopened : ∀ nowMs, store.loadGuard foreign nowMs = .ok guard := by
    intro nowMs
    rw [← store_eq]
    exact loads nowMs
  generalize started : SecureRuntime.initializeRuntime foreign endpoint.role store start = result
  obtain ⟨result, final⟩ := result
  obtain ⟨memory, disk⟩ := initializeRuntime_guard serialises reopened started
  have stored : ∃ guard, (∀ nowMs, final.loadGuard foreign nowMs = .ok guard) ∧ Cools since next guard := by
    rcases disk with old | ⟨nowMs, clock, new⟩
    · exact ⟨guard, old, cools.later passed⟩
    · exact ⟨_, new, after nowMs clock⟩
  rw [Endpoint.restart]
  dsimp only
  rw [store_eq, started]
  cases result with
  | error => exact ⟨stored, fun _ up => by cases up⟩
  | ok runtime =>
    obtain ⟨same, nowMs, clock, adopted⟩ := memory runtime rfl
    refine ⟨?_, ?_⟩
    · show ∃ guard, (∀ nowMs, runtime.store.loadGuard foreign nowMs = .ok guard) ∧ _
      rw [same]
      exact stored
    · intro other up
      cases up
      rw [adopted]
      exact after nowMs clock

end Restart

def NondecreasingClock (labels : List Label) : Prop := (labels.filterMap Label.reading).Pairwise (· ≤ ·)

instance (labels : List Label) : Decidable (NondecreasingClock labels) := inferInstanceAs (Decidable (List.Pairwise _ _))

/-- After the mismatch that reached the limit, every admission check of the next
ten minutes answers `PairingCooldown`. The log has its last event first. -/
def Refuses (log : List Event) : Prop :=
  ∀ id nowMs answer earlier, Event.thread id (.admission (some nowMs) answer) :: earlier <:+ log →
    ∀ other since count, Event.thread other (.mismatchRecorded (some since) count) ∈ earlier →
      pairingMismatchLimit ≤ count → nowMs.toNat < since.toNat + pairingCooldownMs →
      answer = .error .pairingCooldown

/-- The guard is asked with a clock reading that is not older than the guard and
not the last one there is, and no session authenticates during a cooldown. -/
def guardInOrder (guard : PairingGuard) (nowMs : UInt64) : Pc → Bool
  | .admitting | .rejecting => guard.updatedWallMs ≤ nowMs && nowMs < 18446744073709551615
  | .authenticating _ => guard.updatedWallMs ≤ nowMs && guard.cooldownUntilWallMs.all (· ≤ nowMs)
  | _ => true

def inOrder (endpoint : Endpoint) : Label → Bool
  | .step id _ =>
    match endpoint.process, (endpoint.threads id).clock with
    | .up runtime, some nowMs => guardInOrder runtime.guard nowMs (endpoint.threads id).pc
    | _, _ => true
  | _ => true

def runsInOrder (foreign : Foreign) : Endpoint → List Label → Bool
  | _, [] => true
  | endpoint, label :: labels => inOrder endpoint label && runsInOrder foreign (endpoint.step foreign label) labels

theorem Refuses.cons {event : Event} {log : List Event} (refuses : Refuses log)
    (head : ∀ id nowMs answer, event = .thread id (.admission (some nowMs) answer) →
      ∀ other since count, Event.thread other (.mismatchRecorded (some since) count) ∈ log →
        pairingMismatchLimit ≤ count → nowMs.toNat < since.toNat + pairingCooldownMs →
        answer = .error .pairingCooldown) : Refuses (event :: log) := by
  intro id nowMs answer earlier inside
  rcases List.suffix_cons_iff.mp inside with whole | inside
  · cases whole
    exact head id nowMs answer rfl
  · exact refuses id nowMs answer earlier inside

theorem Refuses.append {new log : List Event} (refuses : Refuses log)
    (quiet : ∀ id nowMs answer, Event.thread id (.admission nowMs answer) ∉ new) : Refuses (new ++ log) := by
  induction new with
  | nil => exact refuses
  | cons event new ih =>
    apply Refuses.cons (ih fun id nowMs answer inside => quiet id nowMs answer (List.mem_cons_of_mem _ inside))
    intro id nowMs answer same
    exact absurd (same ▸ List.mem_cons_self) (quiet id (some nowMs) answer)

/-- What every allowed run keeps: no thread holds a reading from the future, each
recorded cooldown is remembered, and the log is as promised. -/
structure Guarded (foreign : Foreign) (last : UInt64) (endpoint : Endpoint) : Prop where
  readings : ∀ id nowMs, (endpoint.threads id).clock = some nowMs → nowMs ≤ last
  cooling : ∀ id since count, Event.thread id (.mismatchRecorded (some since) count) ∈ endpoint.log →
    pairingMismatchLimit ≤ count → Cooling foreign since last endpoint.process
  refuses : Refuses endpoint.log

namespace Guarded
variable {last : UInt64} {endpoint after : Endpoint} {new : List Event}

/-- A step that keeps the remembered cooldowns and adds to the log. -/
theorem extend (guarded : Guarded foreign last endpoint)
    (readings : ∀ id nowMs, (after.threads id).clock = some nowMs → nowMs ≤ last)
    (keeps : ∀ since, Cooling foreign since last endpoint.process → Cooling foreign since last after.process)
    (log : after.log = new ++ endpoint.log)
    (recorded : ∀ id since count, Event.thread id (.mismatchRecorded (some since) count) ∈ new →
      pairingMismatchLimit ≤ count → Cooling foreign since last after.process)
    (refuses : Refuses (new ++ endpoint.log)) : Guarded foreign last after := by
  refine ⟨readings, ?_, log ▸ refuses⟩
  intro id since count member reached
  rw [log] at member
  rcases List.mem_append.mp member with inside | old
  · exact recorded id since count inside reached
  · exact keeps since (guarded.cooling id since count old reached)

/-- The same for a step without a mismatch and without an admission check. -/
theorem extend_quiet (guarded : Guarded foreign last endpoint)
    (readings : ∀ id nowMs, (after.threads id).clock = some nowMs → nowMs ≤ last)
    (keeps : ∀ since, Cooling foreign since last endpoint.process → Cooling foreign since last after.process)
    (log : after.log = new ++ endpoint.log)
    (quiet : ∀ id nowMs, (∀ count, Event.thread id (.mismatchRecorded nowMs count) ∉ new) ∧
      ∀ answer, Event.thread id (.admission nowMs answer) ∉ new) : Guarded foreign last after := by
  apply guarded.extend readings keeps log
  · intro id since count member
    exact absurd member ((quiet id (some since)).1 count)
  · exact guarded.refuses.append fun id nowMs answer => (quiet id nowMs).2 answer

theorem update_readings (guarded : Guarded foreign last endpoint) (id : Nat) (thread : Thread)
    (own : ∀ nowMs, thread.clock = some nowMs → nowMs ≤ last) :
    ∀ other nowMs, (endpoint.update id thread other).clock = some nowMs → nowMs ≤ last := by
  intro other nowMs held
  rw [Endpoint.update, Function.update_apply] at held
  split at held
  · exact own nowMs held
  · exact guarded.readings other nowMs held

section Threads
variable (serialises : ∀ guard, Serialises foreign (guardObject guard))
include serialises

theorem checkGuard_step {runtime : SecureRuntime} (guarded : Guarded foreign last endpoint) (up : endpoint.process = .up runtime)
    (id : Nat) {reading : Option UInt64} (own : ∀ nowMs, reading = some nowMs → nowMs ≤ last) (program : Program)
    (outside : Outside) (ordered : ∀ nowMs, reading = some nowMs → guardInOrder runtime.guard nowMs .admitting = true) :
    let moved := checkGuard foreign program runtime reading outside
    (∀ since, Cooling foreign since last endpoint.process → Cooling foreign since last (.up moved.1)) ∧
      (∃ answer, moved.2.2 = [.admission reading answer]) ∧
      Refuses ((moved.2.2.map (Event.thread id)).reverse ++ endpoint.log) := by
  intro moved
  generalize checked : runtime.ensureGuardAdmits foreign reading outside.calls = result
  obtain ⟨answer, final⟩ := result
  have shape : moved.1 = final ∧ moved.2.2 = [.admission reading answer] := by
    simp only [moved, checkGuard, checked]
    cases answer <;> exact ⟨rfl, rfl⟩
  rw [shape.1, shape.2, up]
  cases reading with
  | none =>
    have same : final = runtime := by
      cases checked
      rfl
    refine ⟨fun since cooling => same ▸ cooling, ⟨answer, rfl⟩, ?_⟩
    apply Refuses.cons guarded.refuses
    intro _ _ _ same
    cases same
  | some nowMs =>
    have ordered := ordered nowMs rfl
    simp only [guardInOrder, Bool.and_eq_true, decide_eq_true_eq] at ordered
    have adopts := ensureGuardAdmits_adopts serialises runtime nowMs outside.calls
    rw [checked] at adopts
    refine ⟨?_, ⟨answer, rfl⟩, ?_⟩
    · intro since cooling
      exact cooling.adopts adopts ((cooling.memory runtime rfl).admits ordered.1 (own nowMs rfl))
    · apply Refuses.cons guarded.refuses
      intro _ _ _ same other since count recorded reached early
      cases same
      have cools := (guarded.cooling other since count recorded reached).memory runtime up
      have before : nowMs < cooldownFrom since := by
        have small : nowMs.toNat < u64Max := UInt64.lt_iff_toNat_lt.mp ordered.2
        rw [UInt64.lt_iff_toNat_lt, toNat_cooldownFrom]
        exact lt_min early small
      rw [SecureRuntime.ensureGuardAdmits, cools.admits_early ordered.1 before] at checked
      cases checked
      rfl

theorem reject_step {runtime : SecureRuntime} {reading : Option UInt64}
    (own : ∀ nowMs, reading = some nowMs → nowMs ≤ last) (outside : Outside)
    (ordered : ∀ nowMs, reading = some nowMs → guardInOrder runtime.guard nowMs .rejecting = true) :
    let moved := reject foreign runtime reading outside
    (∀ since, Cooling foreign since last (.up runtime) → Cooling foreign since last (.up moved.1)) ∧
      (∀ nowMs answer, Action.admission nowMs answer ∉ moved.2.2) ∧
      ∀ since count, Action.mismatchRecorded (some since) count ∈ moved.2.2 → pairingMismatchLimit ≤ count →
        Cooling foreign since last (.up moved.1) := by
  intro moved
  generalize recorded : runtime.recordMismatch foreign reading outside.calls = result
  obtain ⟨answer, final⟩ := result
  have shape : moved.1 = final ∧
      moved.2.2 = if answer = .ok () then [.mismatchRecorded reading final.guard.mismatchCount] else [] := by
    simp only [moved, reject, recorded]
    cases answer <;> exact ⟨rfl, rfl⟩
  rw [shape.1, shape.2]
  cases reading with
  | none =>
    cases recorded
    exact ⟨fun since cooling => cooling, by simp, by simp⟩
  | some nowMs =>
    have ordered := ordered nowMs rfl
    simp only [guardInOrder, Bool.and_eq_true, decide_eq_true_eq] at ordered
    obtain ⟨adopts, done⟩ := recordMismatch_adopts serialises runtime nowMs outside.calls
    rw [recorded] at adopts done
    refine ⟨?_, ?_, ?_⟩
    · intro since cooling
      exact cooling.adopts adopts ((cooling.memory runtime rfl).recordMismatch ordered.1 (own nowMs rfl))
    · intro nowMs' answer' member
      split at member <;> simp at member
    · intro since count member reached
      split at member
      next ok =>
        cases List.mem_singleton.mp member
        rw [adopts.memory] at reached
        have cools := recordMismatch_cools (own nowMs rfl) reached
        refine ⟨⟨_, done ok, cools⟩, ?_⟩
        intro other same
        cases same
        rw [adopts.memory]
        exact cools
      next => cases member

theorem authenticate_step {runtime : SecureRuntime} {remote : Bytes32} {reading : Option UInt64}
    (own : ∀ nowMs, reading = some nowMs → nowMs ≤ last) (outside : Outside)
    (ordered : ∀ nowMs, reading = some nowMs → guardInOrder runtime.guard nowMs (.authenticating remote) = true)
    {since : UInt64} (cooling : Cooling foreign since last (.up runtime)) :
    Cooling foreign since last (.up (authenticate foreign runtime reading outside remote).1) := by
  have shape : (authenticate foreign runtime reading outside remote).1 =
      (runtime.markAuthenticated foreign remote reading outside.calls outside.reads).2 := by
    rw [authenticate]
    split <;> simp_all
  rw [shape]
  cases reading with
  | none => exact cooling
  | some nowMs =>
    have ordered := ordered nowMs rfl
    simp only [guardInOrder, Bool.and_eq_true, decide_eq_true_eq] at ordered
    apply cooling.adopts (markAuthenticated_adopts serialises runtime remote nowMs outside.calls outside.reads)
    apply (cooling.memory runtime rfl).paired ordered.1 (own nowMs rfl)
    intro expiry cooldown
    simpa [cooldown] using ordered.2

theorem stepThread {runtime final : SecureRuntime} {id : Nat} {outside : Outside} {next : Pc} {actions : List Action}
    (guarded : Guarded foreign last endpoint) (up : endpoint.process = .up runtime)
    (ordered : ∀ nowMs, (endpoint.threads id).clock = some nowMs →
      guardInOrder runtime.guard nowMs (endpoint.threads id).pc = true)
    (steps : (endpoint.threads id).pc.step foreign (endpoint.threads id).program runtime (endpoint.threads id).clock outside =
      (final, next, actions)) : Guarded foreign last (stepped endpoint id final next actions) := by
  have own := guarded.readings id
  have readings := guarded.update_readings id { endpoint.threads id with pc := next, reading := none }
    (fun nowMs held => by cases held)
  have may := step_logs foreign (endpoint.threads id).program runtime (endpoint.threads id).clock outside (endpoint.threads id).pc
  rw [steps] at may
  generalize (endpoint.threads id).program = program at steps
  generalize (endpoint.threads id).clock = reading at own ordered steps
  generalize (endpoint.threads id).pc = pc at ordered steps may
  have mem {action : Action} {other : Nat} (inside : Event.thread other action ∈ (actions.map (Event.thread id)).reverse) :
      action ∈ actions := by
    simp only [List.mem_reverse, List.mem_map, Event.thread.injEq] at inside
    obtain ⟨same, member, _, rfl⟩ := inside
    exact member
  -- a step of any other function is quiet, and then only its effect on the guard counts
  have other (unasked : pc ≠ .admitting) (unrecorded : pc ≠ .rejecting)
      (keeps : ∀ since, Cooling foreign since last (.up runtime) → Cooling foreign since last (.up final)) :
      Guarded foreign last (stepped endpoint id final next actions) := by
    rw [← up] at keeps
    apply guarded.extend_quiet readings keeps rfl
    intro reader nowMs
    refine ⟨fun count member => unrecorded ?_, fun answer member => unasked ?_⟩
    · exact may_mismatchRecorded (may _ (mem member))
    · exact may_admission (may _ (mem member))
  by_cases clocked : pc.readsClock = true
  · cases pc with
    | admitting =>
      obtain ⟨keeps, -, refuses⟩ := guarded.checkGuard_step serialises up id own program outside ordered
      change checkGuard foreign program runtime reading outside = _ at steps
      rw [steps] at keeps refuses
      apply guarded.extend readings keeps rfl _ refuses
      intro reader since count member
      cases may_mismatchRecorded (may _ (mem member))
    | rejecting =>
      obtain ⟨keeps, unasked, recorded⟩ := reject_step serialises own outside ordered
      change reject foreign runtime reading outside = _ at steps
      rw [steps] at keeps unasked recorded
      rw [← up] at keeps
      apply guarded.extend readings keeps rfl
      · intro reader since count member reached
        exact recorded since count (mem member) reached
      · apply guarded.refuses.append
        intro reader nowMs answer member
        exact unasked nowMs answer (mem member)
    | committing loop =>
      have kept := @commitPeer_guard foreign runtime loop.remote reading outside.calls
      have same : final.guard = runtime.guard ∧ ∀ later, final.store.loadGuard foreign later =
          runtime.store.loadGuard foreign later := by
        simp only [Pc.step, commit] at steps
        split at steps
        next done =>
          rw [done] at kept
          cases steps
          exact kept
        next done =>
          rw [done] at kept
          split at steps <;> cases steps <;> exact kept
      exact other (fun impossible => by cases impossible) (fun impossible => by cases impossible)
        fun since cooling => cooling.of_same same.1 same.2
    | authenticating remote =>
      refine other (fun impossible => by cases impossible) (fun impossible => by cases impossible) fun since cooling => ?_
      have kept := authenticate_step serialises own outside ordered cooling
      change authenticate foreign runtime reading outside remote = _ at steps
      rwa [steps] at kept
    | _ => cases clocked
  · have displays := step_displays foreign program runtime reading outside (Bool.not_eq_true _ ▸ clocked)
    rw [steps] at displays
    have frame : final = _ := displays.frame
    apply other
    · rintro rfl
      exact clocked rfl
    · rintro rfl
      exact clocked rfl
    · intro since cooling
      apply cooling.of_same
      · rw [frame]
      · intro nowMs
        rw [frame]

omit serialises in
theorem later {next : UInt64} (guarded : Guarded foreign last endpoint) (passed : last ≤ next) : Guarded foreign next endpoint :=
  ⟨fun id nowMs held => UInt64.le_trans (guarded.readings id nowMs held) passed,
    fun id since count member reached => (guarded.cooling id since count member reached).later passed, guarded.refuses⟩

omit serialises in
/-- The user's answers change the displayed state only. -/
theorem setInner {runtime : SecureRuntime} (guarded : Guarded foreign last endpoint) (up : endpoint.process = .up runtime)
    (inner : RuntimeInner) : Guarded foreign last (endpoint.setInner runtime inner) := by
  refine ⟨guarded.readings, ?_, guarded.refuses⟩
  intro id since count member reached
  have cooling := guarded.cooling id since count member reached
  rw [up] at cooling
  exact cooling.of_same rfl fun _ => rfl

theorem restart (guarded : Guarded foreign last endpoint) (processId : Nat) (start : SecureRuntime.Start)
    (clock : ∀ nowMs, start.nowMs = some nowMs → last ≤ nowMs) :
    Guarded foreign (start.nowMs.getD last) (endpoint.restart foreign processId start) := by
  have passed : last ≤ start.nowMs.getD last := by
    cases read : start.nowMs with
    | none => exact UInt64.le_refl last
    | some nowMs => exact clock nowMs read
  refine ⟨?_, ?_, guarded.refuses.cons fun _ _ _ same => by cases same⟩
  · intro id nowMs held
    have kept : (endpoint.threads id).clock = some nowMs := by
      simp only [Endpoint.restart, Thread.kill] at held
      split at held
      · exact held
      · cases held
    exact UInt64.le_trans (guarded.readings id nowMs kept) passed
  · intro id since count member reached
    have old : Event.thread id (.mismatchRecorded (some since) count) ∈ endpoint.log := by
      rcases List.mem_cons.mp member with same | old
      · cases same
      · exact old
    apply (guarded.cooling id since count old reached).restart serialises passed
    intro nowMs read
    rw [read]
    exact ⟨clock nowMs read, UInt64.le_refl nowMs⟩

theorem step (guarded : Guarded foreign last endpoint) (label : Label) (ordered : inOrder endpoint label = true)
    (clock : ∀ nowMs, label.reading = some nowMs → last ≤ nowMs) :
    Guarded foreign (label.reading.getD last) (endpoint.step foreign label) := by
  have passed : last ≤ label.reading.getD last := by
    cases read : label.reading with
    | none => exact UInt64.le_refl last
    | some nowMs => exact clock nowMs read
  have later := guarded.later passed
  have change := @took foreign endpoint label
  generalize endpoint.step foreign label = after at change
  cases change with
  | down | busy | unread | unready => exact later
  | started => exact ⟨later.update_readings _ _ (fun nowMs held => by cases held), later.cooling, later.refuses⟩
  | @read id nowMs =>
    refine ⟨later.update_readings id _ ?_, later.cooling, later.refuses⟩
    intro read held
    have same : nowMs = some read := held
    subst same
    exact UInt64.le_refl read
  | moved up _ steps =>
    refine guarded.stepThread serialises up (fun nowMs held => ?_) steps
    simpa only [inOrder, up, held] using ordered
  | @confirmed runtime up log logs =>
    have shown := guarded.setInner up runtime.inner.localConfirm.2
    rcases logs with rfl | rfl
    · exact shown
    · refine ⟨shown.readings, ?_, shown.refuses.cons fun _ _ _ same => by cases same⟩
      intro id since count member reached
      rcases List.mem_cons.mp member with same | old
      · cases same
      · exact shown.cooling id since count old reached
  | cancelled up | mismatched up => exact guarded.setInner up _
  | restarted => exact guarded.restart serialises _ _ clock

theorem run (guarded : Guarded foreign last endpoint) (labels : List Label)
    (clock : (last :: labels.filterMap Label.reading).Pairwise (· ≤ ·))
    (ordered : runsInOrder foreign endpoint labels = true) : ∃ last, Guarded foreign last (endpoint.run foreign labels) := by
  induction labels generalizing last endpoint with
  | nil => exact ⟨last, guarded⟩
  | cons label labels ih =>
    simp only [runsInOrder, Bool.and_eq_true] at ordered
    cases read : label.reading with
    | none =>
      rw [List.filterMap_cons_none read] at clock
      have next := guarded.step serialises label ordered.1 fun nowMs reads => by rw [read] at reads; cases reads
      rw [read] at next
      exact ih next clock ordered.2
    | some nowMs =>
      rw [List.filterMap_cons_some read, List.pairwise_cons] at clock
      have next := guarded.step serialises label ordered.1 fun other same => by
        rw [read] at same
        cases same
        exact clock.1 nowMs List.mem_cons_self
      rw [read] at next
      exact ih next clock.2 ordered.2

end Threads

end Guarded

/-- Nothing has happened yet on a process in any state. -/
structure Unstarted (endpoint : Endpoint) : Prop where
  idle : ∀ id, endpoint.threads id = .idle
  silent : endpoint.log = []

theorem Unstarted.guarded {endpoint : Endpoint} (unstarted : Unstarted endpoint) : Guarded foreign 0 endpoint := by
  refine ⟨?_, ?_, ?_⟩
  · intro id nowMs held
    rw [unstarted.idle id] at held
    cases held
  · intro id since count member
    rw [unstarted.silent] at member
    cases member
  · intro id nowMs answer earlier inside
    rw [unstarted.silent, List.suffix_nil] at inside
    cases inside

theorem pairing_cooldown_refuses (serialises : ∀ guard, Serialises foreign (guardObject guard)) {endpoint : Endpoint}
    (unstarted : Unstarted endpoint) {labels : List Label} (clock : NondecreasingClock labels)
    (ordered : runsInOrder foreign endpoint labels = true) : Refuses (endpoint.run foreign labels).log := by
  have from_zero : (0 :: labels.filterMap Label.reading).Pairwise (· ≤ ·) :=
    List.pairwise_cons.mpr ⟨fun nowMs _ => UInt64.le_iff_toNat_le.mpr (Nat.zero_le _), clock⟩
  obtain ⟨last, guarded⟩ := unstarted.guarded.run serialises labels from_zero ordered
  exact guarded.refuses

/-! A trusted peer that reconnects during a cooldown ends it. -/

/-- Everything outside goes well, and the peer sends nothing. -/
def calmOutside : Outside where
  calls := goodCalls
  timedOut := false
  firstRecordXx := .ok true
  handshake := .ok (sampleKey, "000000")
  configured := .ok ()
  reads64 := [some 1]
  reads := [some (Vector.replicate 16 1)]
  sent := .ok ()
  received := .ok none
  emitted := []
  ended := none

/-- A pairing session that the user ends with a mismatch. -/
def mismatchSession (id : Nat) (nowMs : UInt64) : List Label :=
  [.start id .responderSession, .step id calmOutside, .readClock id (some nowMs), .step id calmOutside,
    .step id calmOutside, .step id calmOutside, .mismatch, .step id calmOutside, .readClock id (some nowMs),
    .step id calmOutside, .step id calmOutside]

/-- A session of the trusted peer, from its first record to its end. -/
def reconnection (id : Nat) (nowMs : UInt64) : List Label :=
  [.start id .responderSession, .step id { calmOutside with firstRecordXx := .ok false }, .step id calmOutside,
    .step id calmOutside, .step id calmOutside,
    .step id { calmOutside with received := .ok (some (controlFrame .ping 1 0)) }, .readClock id (some nowMs),
    .step id calmOutside, .step id { calmOutside with ended := some (.ok false) }, .step id calmOutside]

/-- A new device that asks to pair. -/
def admissionCheck (id : Nat) (nowMs : UInt64) : List Label :=
  [.start id .responderSession, .step id calmOutside, .readClock id (some nowMs), .step id calmOutside]

def threeMismatches : List Label := mismatchSession 0 1000 ++ mismatchSession 1 2000 ++ mismatchSession 2 3000

/-- The phone after a first pairing. -/
def pairedEndpoint : Endpoint where
  role := .androidResponder
  process := .up { unpairedRuntime .androidResponder with
    peers := [sampleRecord sampleKey]
    inner := .initial .paired }
  threads := fun _ => .idle
  log := []

/-- Finds an admission that `Refuses` excludes. -/
def breaksCooldown : List Event → Bool
  | [] => false
  | .thread _ (.admission (some nowMs) (.ok ())) :: earlier =>
    (earlier.any fun
      | .thread _ (.mismatchRecorded (some since) count) =>
        pairingMismatchLimit ≤ count && nowMs.toNat < since.toNat + pairingCooldownMs
      | _ => false) || breaksCooldown earlier
  | _ :: earlier => breaksCooldown earlier

theorem not_refuses {log : List Event} (broken : breaksCooldown log = true) : ¬ Refuses log := by
  induction log with
  | nil => cases broken
  | cons event earlier ih =>
    intro refuses
    have rest : Refuses earlier := fun id nowMs answer tail inside =>
      refuses id nowMs answer tail (inside.trans (List.suffix_cons _ _))
    rw [breaksCooldown.eq_def] at broken
    split at broken
    · cases broken
    next same =>
      cases same
      rcases Bool.or_eq_true_iff.mp broken with found | later
      · obtain ⟨event, member, early⟩ := List.any_eq_true.mp found
        split at early
        next =>
          simp only [Bool.and_eq_true, decide_eq_true_eq] at early
          cases refuses _ _ _ _ (List.suffix_refl _) _ _ _ member early.1 early.2
        next => cases early
      · exact ih later rest
    next same =>
      cases same
      exact ih broken rest

theorem pairing_cooldown_refuses_mismatches :
    NondecreasingClock (threeMismatches ++ admissionCheck 3 4000) ∧
      Refuses (pairedEndpoint.run jsonForeign (threeMismatches ++ admissionCheck 3 4000)).log :=
  ⟨by decide +kernel, pairing_cooldown_refuses guardObject_serialises ⟨fun _ => rfl, rfl⟩ (by decide +kernel)
    (by decide +kernel)⟩

theorem pairing_cooldown_ended_by_reconnection :
    (∀ guard, Serialises jsonForeign (guardObject guard)) ∧ Unstarted pairedEndpoint ∧
      NondecreasingClock (threeMismatches ++ reconnection 3 4000 ++ admissionCheck 4 5000) ∧
      ¬ Refuses (pairedEndpoint.run jsonForeign (threeMismatches ++ reconnection 3 4000 ++ admissionCheck 4 5000)).log :=
  ⟨guardObject_serialises, ⟨fun _ => rfl, rfl⟩, by decide +kernel, not_refuses (by decide +kernel)⟩

/-- A process that trusts nobody yet. -/
def unpairedEndpoint (role : EndpointRole) : Endpoint where
  role
  process := .up (unpairedRuntime role)
  threads := fun _ => .idle
  log := []

def calmSteps (id count : Nat) : List Label := List.replicate count (.step id calmOutside)

def receives (id : Nat) (frame : Frame) : Label := .step id { calmOutside with received := .ok (some frame) }

end PhoneBoost.Secure.Proofs
