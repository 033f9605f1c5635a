import PhoneBoost.Proofs.PairingCooldown

/-! The pairing guard under a wall clock that may jump either way. A cooldown is
counted from the last report, or from the last check that saw the clock behind
the guard, and storing the guard in between changes nothing. -/

namespace PhoneBoost.Secure.Proofs
open PairingGuard

inductive GuardEvent where
  | admits (nowMs : UInt64)
  | mismatch (nowMs : UInt64)
  | roundTrip (calls : WriteCalls) (nowMs : UInt64)

def GuardEvent.reading : GuardEvent → UInt64
  | .admits nowMs | .mismatch nowMs | .roundTrip _ nowMs => nowMs

def GuardEvent.isMismatch : GuardEvent → Bool
  | .mismatch _ => true
  | _ => false

/-- A guard and the store it is written to. `stamp` is the reading of the last
event that was a mismatch or a check behind the guard's own time, and whether
that event admitted anyone. -/
structure GuardRun where
  guard : PairingGuard
  store : StateStore
  stamp : Option (UInt64 × Bool)

namespace GuardRun
variable (foreign : Foreign)

def start (nowMs : UInt64) (store : StateStore) : GuardRun := ⟨.new nowMs, store, none⟩

/-- A guard that was stored is read back and used from there on; an error is
one of the reader. -/
def step (run : GuardRun) : GuardEvent → Except StorageError GuardRun
  | .admits nowMs => .ok { run with
      guard := (run.guard.admits nowMs).2
      stamp := if nowMs < run.guard.updatedWallMs then some (nowMs, (run.guard.admits nowMs).1.value) else run.stamp }
  | .mismatch nowMs => .ok { run with guard := run.guard.recordMismatch nowMs, stamp := some (nowMs, false) }
  | .roundTrip calls nowMs =>
    match run.store.persistGuard foreign run.guard calls with
    | (.error _, store) => .ok { run with store }
    | (.ok (), store) => (store.loadGuard foreign nowMs).map fun guard => { run with guard, store }

def run (start : GuardRun) (events : List GuardEvent) : Except StorageError GuardRun := events.foldlM (step foreign) start

end GuardRun

variable {foreign : Foreign}

/-- The cooldown of a guard that has reached the limit begins at the stamp. -/
structure Stamped (run : GuardRun) : Prop where
  below : run.guard.mismatchCount < pairingMismatchLimit → run.guard.cooldownUntilWallMs = none
  reached : pairingMismatchLimit ≤ run.guard.mismatchCount → ∃ stamp, run.stamp = some (stamp, false) ∧ stamp.toNat < 2 ^ 63 ∧
    run.guard.cooldownUntilWallMs = some (cooldownFrom stamp) ∧ run.guard.updatedWallMs = stamp

theorem toNat_recordMismatch (guard : PairingGuard) (nowMs : UInt64) :
    (guard.recordMismatch nowMs).mismatchCount.toNat = min (guard.mismatchCount.toNat + 1) 255 := by
  have bound : guard.mismatchCount.toNat < 256 := guard.mismatchCount.toNat_lt
  show (if guard.mismatchCount = 255 then (255 : UInt8) else guard.mismatchCount + 1).toNat = _
  split
  next last =>
    rw [last]
    rfl
  next small =>
    have other : guard.mismatchCount.toNat ≠ 255 := fun same => small (UInt8.toNat_inj.1 same)
    rw [UInt8.toNat_add]
    show (guard.mismatchCount.toNat + 1) % 256 = _
    omega

theorem limit_not_le_zero : ¬pairingMismatchLimit ≤ 0 := by decide

theorem limit_le_iff {count : UInt8} : pairingMismatchLimit ≤ count ↔ 3 ≤ count.toNat := UInt8.le_iff_toNat_le

/-- What is stored is read back as it was. -/
theorem roundTrip_guard (serialises : ∀ guard, Serialises foreign (guardObject guard)) (run : GuardRun) (calls : WriteCalls)
    (nowMs : UInt64) :
    ∃ after, run.step foreign (.roundTrip calls nowMs) = .ok after ∧ after.guard = run.guard ∧ after.stamp = run.stamp := by
  have stored := persistGuard_loads (serialises run.guard) run.store calls
  rw [GuardRun.step]
  generalize run.store.persistGuard foreign run.guard calls = written at stored
  obtain ⟨result, store⟩ := written
  cases result with
  | error error => exact ⟨_, rfl, rfl, rfl⟩
  | ok =>
    rcases stored with loads | ⟨failed, -⟩
    · refine ⟨{ run with store }, ?_, rfl, rfl⟩
      show (store.loadGuard foreign nowMs).map _ = _
      rw [loads nowMs]
      rfl
    · exact absurd rfl failed

theorem Stamped.admits {run : GuardRun} (stamped : Stamped run) {nowMs : UInt64} (early : nowMs.toNat < 2 ^ 63) :
    Stamped { run with
      guard := (run.guard.admits nowMs).2
      stamp := if nowMs < run.guard.updatedWallMs then some (nowMs, (run.guard.admits nowMs).1.value) else run.stamp } := by
  by_cases reached : pairingMismatchLimit ≤ run.guard.mismatchCount
  · obtain ⟨stamp, last, small, expiry, updated⟩ := stamped.reached reached
    simp only [PairingGuard.admits, expiry]
    split
    next behind => exact ⟨fun below => absurd reached (UInt8.not_le.2 below), fun _ => ⟨nowMs, rfl, early, rfl, rfl⟩⟩
    next =>
    split
    next => exact ⟨fun below => absurd reached (UInt8.not_le.2 below), fun _ => ⟨stamp, last, small, expiry, updated⟩⟩
    next => exact ⟨fun _ => rfl, fun again => absurd again limit_not_le_zero⟩
  · have calm := stamped.below (UInt8.not_le.1 reached)
    simp only [PairingGuard.admits, calm]
    exact ⟨fun _ => calm, fun again => absurd again reached⟩

theorem Stamped.mismatch {run : GuardRun} (stamped : Stamped run) {nowMs : UInt64} (early : nowMs.toNat < 2 ^ 63) :
    Stamped { run with guard := run.guard.recordMismatch nowMs, stamp := some (nowMs, false) } := by
  constructor
  · intro below
    have count := toNat_recordMismatch run.guard nowMs
    have before : run.guard.mismatchCount < pairingMismatchLimit := by
      rw [← UInt8.not_le, limit_le_iff] at below ⊢
      change ¬3 ≤ (run.guard.recordMismatch nowMs).mismatchCount.toNat at below
      omega
    exact (if_neg (UInt8.not_le.2 below)).trans (stamped.below before)
  · intro reached
    exact ⟨nowMs, rfl, early, if_pos reached, rfl⟩

theorem Stamped.step (serialises : ∀ guard, Serialises foreign (guardObject guard)) {run : GuardRun} (stamped : Stamped run)
    {event : GuardEvent} (early : event.reading.toNat < 2 ^ 63) :
    ∃ after, run.step foreign event = .ok after ∧ Stamped after := by
  cases event with
  | admits nowMs => exact ⟨_, rfl, stamped.admits early⟩
  | mismatch nowMs => exact ⟨_, rfl, stamped.mismatch early⟩
  | roundTrip calls nowMs =>
    obtain ⟨after, stepped, guard, stamp⟩ := roundTrip_guard serialises run calls nowMs
    exact ⟨after, stepped, by rw [guard]; exact stamped.below, by rw [guard, stamp]; exact stamped.reached⟩

theorem Stamped.run (serialises : ∀ guard, Serialises foreign (guardObject guard)) {start : GuardRun} (stamped : Stamped start)
    (events : List GuardEvent) (early : ∀ event ∈ events, event.reading.toNat < 2 ^ 63) :
    ∃ run, start.run foreign events = .ok run ∧ Stamped run := by
  induction events generalizing start with
  | nil => exact ⟨start, rfl, stamped⟩
  | cons event events ih =>
    obtain ⟨after, stepped, kept⟩ := stamped.step serialises (early event List.mem_cons_self)
    obtain ⟨run, ran, last⟩ := ih kept fun other member => early other (List.mem_cons_of_mem _ member)
    refine ⟨run, ?_, last⟩
    rw [GuardRun.run, List.foldlM_cons, stepped]
    exact ran

/-- Fewer mismatches than the limit start no cooldown. -/
theorem run_no_cooldown (serialises : ∀ guard, Serialises foreign (guardObject guard)) {start : GuardRun}
    (events : List GuardEvent) (calm : start.guard.cooldownUntilWallMs = none)
    (few : start.guard.mismatchCount.toNat + events.countP GuardEvent.isMismatch ≤ 2) :
    ∃ run, start.run foreign events = .ok run ∧ run.guard.cooldownUntilWallMs = none := by
  induction events generalizing start with
  | nil => exact ⟨start, rfl, calm⟩
  | cons event events ih =>
    rw [List.countP_cons] at few
    have next : ∃ after, start.step foreign event = .ok after ∧ after.guard.cooldownUntilWallMs = none ∧
        after.guard.mismatchCount.toNat + events.countP GuardEvent.isMismatch ≤ 2 := by
      cases event with
      | admits nowMs =>
        refine ⟨_, rfl, ?_⟩
        simp only [PairingGuard.admits, calm, true_and]
        exact few
      | mismatch nowMs =>
        have count := toNat_recordMismatch start.guard nowMs
        simp only [GuardEvent.isMismatch, if_true] at few
        refine ⟨_, rfl, ?_, ?_⟩
        · refine (if_neg ?_).trans calm
          rw [limit_le_iff]
          change ¬3 ≤ (start.guard.recordMismatch nowMs).mismatchCount.toNat
          omega
        · show (start.guard.recordMismatch nowMs).mismatchCount.toNat + _ ≤ 2
          omega
      | roundTrip calls nowMs =>
        obtain ⟨after, stepped, guard, -⟩ := roundTrip_guard serialises start calls nowMs
        refine ⟨after, stepped, ?_, ?_⟩
        · rw [guard, calm]
        · rw [guard]
          exact few
    obtain ⟨after, stepped, still, fewer⟩ := next
    obtain ⟨run, ran, last⟩ := ih still fewer
    refine ⟨run, ?_, last⟩
    rw [GuardRun.run, List.foldlM_cons, stepped]
    exact ran

/-- What the guard of a run promises once the limit has been reached: it admits
only long after the stamp, whose event was refused; it refuses any check behind
its own time; and after admitting it has forgotten the mismatches. -/
structure GuardLaw (foreign : Foreign) (run : GuardRun) : Prop where
  late : ∀ nowMs, pairingMismatchLimit ≤ run.guard.mismatchCount → (run.guard.admits nowMs).1.value = true →
    ∃ stamp, run.stamp = some (stamp, false) ∧ stamp.toNat + pairingCooldownMs ≤ nowMs.toNat
  rollbackRefused : ∀ nowMs, pairingMismatchLimit ≤ run.guard.mismatchCount → nowMs < run.guard.updatedWallMs →
    (run.guard.admits nowMs).1.value = false
  twoMore : ∀ nowMs, pairingMismatchLimit ≤ run.guard.mismatchCount → (run.guard.admits nowMs).1.value = true →
    ∀ events after, run.step foreign (.admits nowMs) = .ok after → events.countP GuardEvent.isMismatch ≤ 2 →
      ∃ final, after.run foreign events = .ok final ∧ final.guard.cooldownUntilWallMs = none

theorem Stamped.law (serialises : ∀ guard, Serialises foreign (guardObject guard)) {run : GuardRun} (stamped : Stamped run) :
    GuardLaw foreign run := by
  -- past the limit the answer depends on the stamp alone
  have answer : ∀ nowMs, pairingMismatchLimit ≤ run.guard.mismatchCount → ∃ stamp, run.stamp = some (stamp, false) ∧
      run.guard.updatedWallMs = stamp ∧ ((run.guard.admits nowMs).1.value = true →
        ¬nowMs < stamp ∧ stamp.toNat + pairingCooldownMs ≤ nowMs.toNat ∧ (run.guard.admits nowMs).2 = ⟨0, none, nowMs⟩) := by
    intro nowMs reached
    obtain ⟨stamp, last, small, expiry, updated⟩ := stamped.reached reached
    refine ⟨stamp, last, updated, ?_⟩
    simp only [PairingGuard.admits, expiry, updated]
    split
    next => exact fun admitted => absurd admitted Bool.false_ne_true
    next ahead =>
    split
    next => exact fun admitted => absurd admitted Bool.false_ne_true
    next late =>
      refine fun _ => ⟨ahead, ?_, rfl⟩
      rw [UInt64.not_lt, UInt64.le_iff_toNat_le, toNat_cooldownFrom, pairingCooldownMs, u64Max] at late
      rw [pairingCooldownMs]
      omega
  constructor
  · intro nowMs reached admitted
    obtain ⟨stamp, last, -, passes⟩ := answer nowMs reached
    exact ⟨stamp, last, (passes admitted).2.1⟩
  · intro nowMs reached behind
    obtain ⟨stamp, -, updated, passes⟩ := answer nowMs reached
    rw [updated] at behind
    exact Bool.eq_false_iff.2 fun admitted => (passes admitted).1 behind
  · intro nowMs reached admitted events after stepped few
    obtain ⟨stamp, -, -, passes⟩ := answer nowMs reached
    cases stepped
    have cleared := (passes admitted).2.2
    apply run_no_cooldown serialises events
    · show (run.guard.admits nowMs).2.cooldownUntilWallMs = none
      rw [cleared]
    · show (run.guard.admits nowMs).2.mismatchCount.toNat + _ ≤ 2
      rw [cleared]
      simpa using few

/-- For any readings below `2 ^ 63`, in any order, the run of a new guard goes
through, and the guard keeps its promises. -/
theorem guard_clock_law (serialises : ∀ guard, Serialises foreign (guardObject guard)) (bootMs : UInt64) (store : StateStore)
    (events : List GuardEvent) (early : ∀ event ∈ events, event.reading.toNat < 2 ^ 63) :
    ∃ run, (GuardRun.start bootMs store).run foreign events = .ok run ∧ GuardLaw foreign run := by
  have fresh : Stamped (GuardRun.start bootMs store) := ⟨fun _ => rfl, fun reached => absurd reached limit_not_le_zero⟩
  obtain ⟨run, ran, stamped⟩ := fresh.run serialises events early
  exact ⟨run, ran, stamped.law serialises⟩

/-- Three mismatches, a check behind the clock and a reload. -/
def jumpyEvents : List GuardEvent :=
  [.mismatch 5000, .mismatch 2000, .mismatch 9000, .admits 700, .roundTrip goodCalls 100, .admits 600699]

theorem jumpyEvents_early : ∀ event ∈ jumpyEvents, event.reading.toNat < 2 ^ 63 := by decide

theorem guard_clock_law_jumpy : ∃ run, (GuardRun.start 0 emptyStore).run jsonForeign jumpyEvents = .ok run ∧
    pairingMismatchLimit ≤ run.guard.mismatchCount ∧ run.stamp = some (700, false) ∧ GuardLaw jsonForeign run := by
  obtain ⟨run, ran, law⟩ := guard_clock_law guardObject_serialises 0 emptyStore jumpyEvents jumpyEvents_early
  have facts : ((GuardRun.start 0 emptyStore).run jsonForeign jumpyEvents).toOption.any fun run =>
      pairingMismatchLimit ≤ run.guard.mismatchCount ∧ run.stamp = some (700, false) := by decide +kernel
  rw [ran] at facts
  obtain ⟨reached, stamp⟩ := of_decide_eq_true facts
  exact ⟨run, ran, reached, stamp, law⟩

end PhoneBoost.Secure.Proofs
