import PhoneBoost.Lib.Streak
import PhoneBoost.Proofs.GuardBudget

/-! The three health bands against the whole history of samples. Each band has a
recovery timer; a timer that runs stands for a streak of samples at the end of
the history, and a band eases only where such a streak completes. -/

namespace PhoneBoost.Worker.Proofs
open Keyed Streak

/-- The part of the guard that only samples change. -/
structure Vitals where
  latest : Option HealthSample
  memoryBlocked : Bool
  memoryRecoverySinceMs : Option Nat
  effectiveThermal : ThermalBand
  thermalRecovery : Option (Recovery ThermalBand)
  effectiveBattery : BatteryBand
  batteryRecovery : Option (Recovery BatteryBand)

def vitals (guard : ResourceGuard) : Vitals where
  latest := guard.latest
  memoryBlocked := guard.memoryBlocked
  memoryRecoverySinceMs := guard.memoryRecoverySinceMs
  effectiveThermal := guard.effectiveThermal
  thermalRecovery := guard.thermalRecovery
  effectiveBattery := guard.effectiveBattery
  batteryRecovery := guard.batteryRecovery

theorem vitals_foldl {step : ResourceGuard → α → ResourceGuard} (keeps : ∀ guard item, vitals (step guard item) = vitals guard)
    (items : List α) (guard : ResourceGuard) : vitals (items.foldl step guard) = vitals guard := by
  induction items generalizing guard with
  | nil => rfl
  | cons item items ih => rw [List.foldl_cons, ih, keeps]

theorem vitals_expireReserved (guard : ResourceGuard) (nowMs : Nat) : vitals (guard.expireReserved nowMs) = vitals guard := by
  refine vitals_foldl ?_ _ guard
  intro guard item
  rfl

theorem vitals_removeSuperseded (guard : ResourceGuard) (leaseId : LeaseId) (incarnation : WorkerIncarnationId) :
    vitals (guard.removeSuperseded leaseId incarnation) = vitals guard := by
  refine vitals_foldl ?_ _ guard
  intro guard item
  dsimp only
  split <;> rfl

theorem vitals_expireAndPurge (guard : ResourceGuard) (nowMs : Nat) (leaseId : LeaseId) (incarnation : WorkerIncarnationId) :
    vitals (guard.expireAndPurge nowMs leaseId incarnation) = vitals guard :=
  (vitals_expireReserved _ nowMs).trans (vitals_removeSuperseded guard leaseId incarnation)

theorem vitals_tick (guard : ResourceGuard) (nowMs : Nat) : vitals (guard.tick nowMs) = vitals guard :=
  vitals_expireReserved guard nowMs

theorem vitals_releaseConsumed (guard : ResourceGuard) (id : ReservationId) (resourceClass : ResourceClass) (bytes nowMs : Nat) :
    vitals (guard.releaseConsumed id resourceClass bytes nowMs) = vitals guard := by
  rcases releaseConsumed_cases guard id resourceClass bytes nowMs with ⟨same, _⟩ | ⟨_, _, _, _, _, same⟩
  · rw [same]
  · rw [same]
    rfl

theorem vitals_consume (guard : ResourceGuard) (proof : LeaseProof) (id : ReservationId) (resourceClass : ResourceClass)
    (exactBytes : Option Nat) (nowMs : Nat) :
    vitals (guard.consume proof id resourceClass exactBytes nowMs).2 = vitals guard := by
  rcases consume_cases guard proof id resourceClass exactBytes nowMs with ⟨_, same⟩ | ⟨_, _, _, _, _, _, same⟩
  · rw [same]
    exact vitals_expireAndPurge guard nowMs _ _
  · rw [same]
    exact vitals_expireAndPurge guard nowMs _ _

theorem vitals_reserve (guard : ResourceGuard) (leases : ControllerLeaseManager) (session : AuthenticatedSession)
    (leaseId : LeaseId) (request : ReserveRequest) (nowMs : Nat) (reads : Entropy) :
    vitals (guard.reserve leases session leaseId request nowMs reads).2.1 = vitals guard := by
  cases validated : leases.validate session leaseId nowMs with
  | mk result leases' =>
    cases result with
    | error error => simp only [ResourceGuard.reserve, validated]
    | ok proof =>
      obtain ⟨decision, guard', reserved, same⟩ := reserve_reserved validated guard request reads
      rw [same]
      refine Eq.trans ?_ (vitals_expireAndPurge guard nowMs proof.leaseId proof.incarnation)
      cases reserved <;> rfl

theorem vitals_commit (guard : ResourceGuard) (leases : ControllerLeaseManager) (session : AuthenticatedSession)
    (leaseId : LeaseId) (id : ReservationId) (nowMs : Nat) :
    vitals (guard.commit leases session leaseId id nowMs).2.1 = vitals guard := by
  cases validated : leases.validate session leaseId nowMs with
  | mk result leases' =>
    cases result with
    | error error => simp only [ResourceGuard.commit, validated]
    | ok proof =>
      obtain ⟨decision, guard', committed, same⟩ := commit_committed validated guard id
      rw [same]
      refine Eq.trans ?_ (vitals_expireAndPurge guard nowMs proof.leaseId proof.incarnation)
      cases committed <;> rfl

theorem vitals_release (guard : ResourceGuard) (leases : ControllerLeaseManager) (session : AuthenticatedSession)
    (leaseId : LeaseId) (id : ReservationId) (nowMs : Nat) :
    vitals (guard.release leases session leaseId id nowMs).2.1 = vitals guard := by
  cases validated : leases.validate session leaseId nowMs with
  | mk result leases' =>
    cases result with
    | error error => simp only [ResourceGuard.release, validated]
    | ok proof =>
      obtain ⟨decision, guard', released, same⟩ := release_released validated guard id
      rw [same]
      refine Eq.trans ?_ (vitals_expireAndPurge guard nowMs proof.leaseId proof.incarnation)
      cases released <;> rfl

def GuardCall.sample? : GuardCall → Option HealthSample
  | .recordHealth sample => some sample
  | _ => none

/-- The samples of a run, in the order in which they were recorded. -/
def samples (calls : List GuardCall) : List HealthSample := calls.filterMap GuardCall.sample?

theorem samples_concat (calls : List GuardCall) (call : GuardCall) :
    samples (calls ++ [call]) = samples calls ++ call.sample?.toList := by
  rw [samples, List.filterMap_append, samples, List.filterMap_cons, List.filterMap_nil]
  cases call.sample? <;> rfl

theorem GuardCall.vitals_apply {call : GuardCall} (quiet : call.sample? = none) (guard : ResourceGuard) :
    vitals (call.apply guard) = vitals guard := by
  cases call with
  | recordHealth sample => cases quiet
  | reserve leases session leaseId request nowMs reads => exact vitals_reserve guard leases session leaseId request nowMs reads
  | commit leases session leaseId id nowMs => exact vitals_commit guard leases session leaseId id nowMs
  | release leases session leaseId id nowMs => exact vitals_release guard leases session leaseId id nowMs
  | reservationSnapshot proof id nowMs =>
    rw [GuardCall.apply, reservationSnapshot_guard]
    exact vitals_expireAndPurge guard nowMs _ _
  | consumeForBuffer proof id sizeBytes nowMs =>
    exact (vitals_consume _ proof id _ _ nowMs).trans (vitals_expireAndPurge guard nowMs _ _)
  | consumeForCompute proof id nowMs =>
    rw [GuardCall.apply, consumeForCompute_guard]
    exact vitals_consume guard proof id _ _ nowMs
  | releaseConsumedBuffer id bytes nowMs => exact vitals_releaseConsumed guard id _ bytes nowMs
  | releaseConsumedCompute id bytes nowMs => exact vitals_releaseConsumed guard id _ bytes nowMs
  | tick nowMs => exact vitals_tick guard nowMs

/-! What one sample can do to each band and its timer. -/

def MemoryLow (sample : HealthSample) : Prop :=
  sample.lowMemory = true ∨ sample.availableMemoryBytes < minAvailableBytes

def MemoryFine (sample : HealthSample) : Prop :=
  sample.lowMemory = false ∧ recoveryAvailableBytes ≤ sample.availableMemoryBytes

inductive MemoryMove (sample : HealthSample) : Bool → Option Nat → Bool → Option Nat → Prop where
  | refuse (low : MemoryLow sample) : MemoryMove sample blocked since true none
  | lift (fine : MemoryFine sample) (long : began + 10000 ≤ sample.monotonicMs) :
      MemoryMove sample true (some began) false none
  | start (fine : MemoryFine sample) : MemoryMove sample true none true (some sample.monotonicMs)
  | wait (fine : MemoryFine sample) : MemoryMove sample true (some began) true (some began)
  | reset (enough : ¬ MemoryLow sample) : MemoryMove sample true since true none
  | stay (enough : ¬ MemoryLow sample) : MemoryMove sample false since false since

theorem updateMemory_move (guard : ResourceGuard) (sample : HealthSample) :
    ∃ blocked since, MemoryMove sample guard.memoryBlocked guard.memoryRecoverySinceMs blocked since ∧
      guard.updateMemory sample = { guard with memoryBlocked := blocked, memoryRecoverySinceMs := since } := by
  unfold ResourceGuard.updateMemory
  split
  next low => exact ⟨_, _, .refuse (by simpa [MemoryLow] using low), rfl⟩
  next enough =>
    have enough : ¬ MemoryLow sample := by simpa [MemoryLow] using enough
    cases blocked : guard.memoryBlocked with
    | false =>
      refine ⟨_, _, .stay enough, ?_⟩
      simp only [Bool.false_and, Bool.false_eq_true, if_false]
      rw [← blocked]
    | true =>
      simp only [Bool.true_and, decide_eq_true_eq, if_true]
      split
      next plenty =>
        have fine : MemoryFine sample := ⟨by simpa using fun low => enough (.inl low), plenty⟩
        cases guard.memoryRecoverySinceMs with
        | none => exact ⟨_, _, .start fine, by simp [← blocked]⟩
        | some began =>
          simp only [Option.getD_some]
          split
          next long => exact ⟨_, _, .lift fine (by omega), rfl⟩
          next => exact ⟨_, _, .wait fine, by simp [← blocked]⟩
      next => exact ⟨_, _, .reset enough, by simp [← blocked]⟩

inductive ThermalMove (sample : HealthSample) (first : Bool) :
    ThermalBand → Option (Recovery ThermalBand) → ThermalBand → Option (Recovery ThermalBand) → Prop where
  | rise (worse : first = true ∨ effective.code < sample.thermal.code) :
      ThermalMove sample first effective recovery sample.thermal none
  | fall (better : sample.thermal.code < effective.code) (target : pending.target = sample.thermal)
      (long : pending.sinceMs + 10000 ≤ sample.monotonicMs) :
      ThermalMove sample first effective (some pending) sample.thermal none
  | start (better : sample.thermal.code < effective.code) :
      ThermalMove sample first effective recovery effective (some ⟨sample.thermal, sample.monotonicMs, 1⟩)
  | wait (better : sample.thermal.code < effective.code) (target : pending.target = sample.thermal) (count : Nat) :
      ThermalMove sample first effective (some pending) effective (some { pending with samples := count })
  | stay (later : first = false) (same : sample.thermal.code = effective.code) :
      ThermalMove sample first effective recovery effective none

theorem updateThermal_move (guard : ResourceGuard) (sample : HealthSample) :
    ∃ effective recovery,
      ThermalMove sample guard.latest.isNone guard.effectiveThermal guard.thermalRecovery effective recovery ∧
      guard.updateThermal sample = { guard with effectiveThermal := effective, thermalRecovery := recovery } := by
  unfold ResourceGuard.updateThermal
  dsimp only
  split
  next worse => exact ⟨_, _, .rise (by simpa using worse), rfl⟩
  next notWorse =>
    simp only [Bool.or_eq_true, decide_eq_true_eq, not_or, Bool.not_eq_true] at notWorse
    split
    next better =>
      split
      next pending running =>
        rw [running]
        split
        next target =>
          split
          next done =>
            simp only [Bool.and_eq_true, decide_eq_true_eq] at done
            exact ⟨_, _, .fall better target (by omega), rfl⟩
          next => exact ⟨_, _, .wait better target _, rfl⟩
        next => exact ⟨_, _, .start better, rfl⟩
      next => exact ⟨_, _, .start better, rfl⟩
    next => exact ⟨_, _, .stay notWorse.1 (by omega), rfl⟩

/-- The single improving steps of the battery band, with the charge that each of them takes. -/
inductive Eases : BatteryBand → BatteryBand → UInt8 → Prop where
  | toThrottle : Eases .refused .throttle 20
  | toNominal : Eases .throttle .nominal 30

def ChargedTo (percent : UInt8) (sample : HealthSample) : Prop := sample.charging = false ∧ percent ≤ sample.batteryPercent

theorem thresholdMet_eases {effective : BatteryBand} {percent : UInt8} (met : ResourceGuard.thresholdMet effective percent = true) :
    ∃ threshold, Eases effective (if effective = .refused then .throttle else .nominal) threshold ∧ threshold ≤ percent := by
  cases effective with
  | refused => exact ⟨20, .toThrottle, of_decide_eq_true met⟩
  | throttle => exact ⟨30, .toNominal, of_decide_eq_true met⟩
  | nominal => cases met
  | unknown => cases met

inductive BatteryMove (sample : HealthSample) (first : Bool) :
    BatteryBand → Option (Recovery BatteryBand) → BatteryBand → Option (Recovery BatteryBand) → Prop where
  | charge (charging : sample.charging = true) : BatteryMove sample first effective recovery .nominal none
  | worsen (discharging : sample.charging = false)
      (worse : first = true ∨ effective.code < (rawBatteryBand sample.batteryPercent sample.charging).code) :
      BatteryMove sample first effective recovery (rawBatteryBand sample.batteryPercent sample.charging) none
  | ease (notWorse : (rawBatteryBand sample.batteryPercent sample.charging).code < effective.code)
      (eases : Eases effective pending.target percent) (charged : ChargedTo percent sample)
      (long : pending.sinceMs + 30000 ≤ sample.monotonicMs) :
      BatteryMove sample first effective (some pending) pending.target none
  | start (notWorse : (rawBatteryBand sample.batteryPercent sample.charging).code < effective.code)
      (eases : Eases effective target percent) (charged : ChargedTo percent sample) :
      BatteryMove sample first effective recovery effective (some ⟨target, sample.monotonicMs, 1⟩)
  | wait (notWorse : (rawBatteryBand sample.batteryPercent sample.charging).code < effective.code)
      (eases : Eases effective pending.target percent) (charged : ChargedTo percent sample) (count : Nat) :
      BatteryMove sample first effective (some pending) effective (some { pending with samples := count })
  | reset (later : first = false)
      (notWorse : (rawBatteryBand sample.batteryPercent sample.charging).code ≤ effective.code) :
      BatteryMove sample first effective recovery effective none

theorem updateBattery_move (guard : ResourceGuard) (sample : HealthSample) :
    ∃ effective recovery,
      BatteryMove sample guard.latest.isNone guard.effectiveBattery guard.batteryRecovery effective recovery ∧
      guard.updateBattery sample = { guard with effectiveBattery := effective, batteryRecovery := recovery } := by
  unfold ResourceGuard.updateBattery
  dsimp only
  split
  next charging => exact ⟨_, _, .charge charging, rfl⟩
  next discharging =>
    rw [Bool.not_eq_true] at discharging
    split
    next worse => exact ⟨_, _, .worsen discharging (by simpa using worse), rfl⟩
    next notWorse =>
      simp only [Bool.or_eq_true, decide_eq_true_eq, not_or, Bool.not_eq_true] at notWorse
      split
      next better =>
        split
        next => exact ⟨_, _, .reset notWorse.1 (by omega), rfl⟩
        next met =>
          simp only [Bool.not_eq_true', Bool.not_eq_false] at met
          obtain ⟨percent, eases, reached⟩ := thresholdMet_eases met
          have charged : ChargedTo percent sample := ⟨discharging, reached⟩
          generalize (if guard.effectiveBattery = .refused then BatteryBand.throttle else .nominal) = target at eases ⊢
          split
          next pending running =>
            rw [running]
            split
            next same =>
              subst target
              split
              next long => exact ⟨_, _, .ease better eases charged (by omega), rfl⟩
              next => exact ⟨_, _, .wait better eases charged _, rfl⟩
            next => exact ⟨_, _, .start better eases charged, rfl⟩
          next => exact ⟨_, _, .start better eases charged, rfl⟩
      next => exact ⟨_, _, .reset notWorse.1 (by omega), rfl⟩

/-- What recording a sample does: each band makes one move, and only the
thermal and battery bands ask whether this is the first sample. -/
structure Observed (sample : HealthSample) (before after : Vitals) : Prop where
  latest : after.latest = some sample
  memory : MemoryMove sample before.memoryBlocked before.memoryRecoverySinceMs after.memoryBlocked
    after.memoryRecoverySinceMs
  thermal : ThermalMove sample before.latest.isNone before.effectiveThermal before.thermalRecovery after.effectiveThermal
    after.thermalRecovery
  battery : BatteryMove sample before.latest.isNone before.effectiveBattery before.batteryRecovery after.effectiveBattery
    after.batteryRecovery

theorem recordHealth_observed (guard : ResourceGuard) (sample : HealthSample) :
    Observed sample (vitals guard) (vitals (guard.recordHealth sample).2) := by
  obtain ⟨blocked, since, memory, first⟩ := updateMemory_move guard sample
  obtain ⟨thermal, thermalRecovery, heat, second⟩ := updateThermal_move (guard.updateMemory sample) sample
  obtain ⟨battery, batteryRecovery, charge, third⟩ :=
    updateBattery_move ((guard.updateMemory sample).updateThermal sample) sample
  unfold ResourceGuard.recordHealth
  rw [third]
  rw [second] at charge ⊢
  rw [first] at heat charge ⊢
  exact ⟨rfl, memory, heat, charge⟩

theorem Eases.unique {effective target : BatteryBand} {first second : UInt8} (one : Eases effective target first)
    (other : Eases effective target second) : first = second := by
  cases one <;> cases other <;> rfl

/-- Every timer that runs stands for a streak at the end of the history. -/
structure Timers (history : List HealthSample) (vitals : Vitals) : Prop where
  latest : vitals.latest = history.getLast?
  low : ∀ sample, vitals.latest = some sample → MemoryLow sample → vitals.memoryBlocked = true
  idle : vitals.memoryBlocked = false → vitals.memoryRecoverySinceMs = none
  memory : ∀ since, vitals.memoryRecoverySinceMs = some since →
    Running HealthSample.monotonicMs MemoryFine history since
  thermal : ∀ pending, vitals.thermalRecovery = some pending →
    Running HealthSample.monotonicMs (fun sample => sample.thermal = pending.target) history pending.sinceMs
  battery : ∀ pending, vitals.batteryRecovery = some pending → ∃ percent,
    Eases vitals.effectiveBattery pending.target percent ∧
      Running HealthSample.monotonicMs (ChargedTo percent) history pending.sinceMs

theorem Timers.initial : Timers [] (vitals .new) where
  latest := rfl
  low := by
    intro sample present
    cases present
  idle := fun _ => rfl
  memory := by
    intro since running
    cases running
  thermal := by
    intro pending running
    cases running
  battery := by
    intro pending running
    cases running

section Step
variable {history : List HealthSample} {sample : HealthSample} {blocked blocked' first : Bool} {since since' : Option Nat}
  {thermal thermal' : ThermalBand} {cooling cooling' : Option (Recovery ThermalBand)}
  {battery battery' : BatteryBand} {refilling refilling' : Option (Recovery BatteryBand)}

theorem MemoryMove.low (move : MemoryMove sample blocked since blocked' since') (low : MemoryLow sample) : blocked' = true := by
  cases move with
  | refuse low => rfl
  | lift fine long =>
    rcases low with low | little
    · rw [fine.1] at low
      cases low
    · have := fine.2
      simp only [minAvailableBytes, recoveryAvailableBytes] at this little
      omega
  | start fine => rfl
  | wait fine => rfl
  | reset enough => rfl
  | stay enough => exact absurd low enough

theorem MemoryMove.idle (move : MemoryMove sample blocked since blocked' since')
    (idle : blocked = false → since = none) (lifted : blocked' = false) : since' = none := by
  cases move with
  | refuse low => rfl
  | lift fine long => rfl
  | start fine => cases lifted
  | wait fine => cases lifted
  | reset enough => rfl
  | stay enough => exact idle rfl

theorem MemoryMove.running (move : MemoryMove sample blocked since blocked' since')
    (idle : blocked = false → since = none)
    (running : ∀ began, since = some began → Running HealthSample.monotonicMs MemoryFine history began) {began : Nat}
    (still : since' = some began) : Running HealthSample.monotonicMs MemoryFine (history ++ [sample]) began := by
  cases move with
  | refuse low => cases still
  | lift fine long => cases still
  | start fine =>
    cases still
    exact .start fine history
  | wait fine => exact (running began still).extend fine
  | reset enough => cases still
  | stay enough =>
    rw [idle rfl] at still
    cases still

theorem MemoryMove.lifts (move : MemoryMove sample true since false since')
    (running : ∀ began, since = some began → Running HealthSample.monotonicMs MemoryFine history began) :
    Completes HealthSample.monotonicMs MemoryFine 10000 history sample := by
  cases move with
  | lift fine long => exact (running _ rfl).completes fine long

theorem ThermalMove.running (move : ThermalMove sample first thermal cooling thermal' cooling')
    (running : ∀ pending, cooling = some pending →
      Running HealthSample.monotonicMs (fun sample => sample.thermal = pending.target) history pending.sinceMs)
    {pending : Recovery ThermalBand} (still : cooling' = some pending) :
    Running HealthSample.monotonicMs (fun sample => sample.thermal = pending.target) (history ++ [sample])
      pending.sinceMs := by
  cases move with
  | rise worse => cases still
  | fall better target long => cases still
  | start better =>
    cases still
    apply Running.start
    rfl
  | wait better target count =>
    cases still
    exact (running _ rfl).extend target.symm
  | stay later same => cases still

theorem ThermalMove.rises (move : ThermalMove sample first thermal cooling thermal' cooling')
    (worse : thermal.code < sample.thermal.code) : thermal' = sample.thermal := by
  cases move with
  | rise worse => rfl
  | fall better target long => rfl
  | start better => omega
  | wait better target count => omega
  | stay later same => omega

theorem ThermalMove.falls (move : ThermalMove sample false thermal cooling thermal' cooling')
    (running : ∀ pending, cooling = some pending →
      Running HealthSample.monotonicMs (fun sample => sample.thermal = pending.target) history pending.sinceMs)
    (better : thermal'.code < thermal.code) :
    Completes HealthSample.monotonicMs (fun sample => sample.thermal = thermal') 10000 history sample := by
  cases move with
  | rise worse =>
    rcases worse with never | worse
    · cases never
    · omega
  | fall better target long =>
    have streak := running _ rfl
    rw [target] at streak
    exact streak.completes rfl long
  | start => omega
  | wait => omega
  | stay => omega

theorem BatteryMove.running (move : BatteryMove sample first battery refilling battery' refilling')
    (running : ∀ pending, refilling = some pending → ∃ percent, Eases battery pending.target percent ∧
      Running HealthSample.monotonicMs (ChargedTo percent) history pending.sinceMs)
    {pending : Recovery BatteryBand} (still : refilling' = some pending) :
    ∃ percent, Eases battery' pending.target percent ∧
      Running HealthSample.monotonicMs (ChargedTo percent) (history ++ [sample]) pending.sinceMs := by
  cases move with
  | charge charging => cases still
  | worsen discharging worse => cases still
  | ease notWorse eases charged long => cases still
  | start notWorse eases charged =>
    cases still
    exact ⟨_, eases, .start charged history⟩
  | wait notWorse eases charged count =>
    cases still
    obtain ⟨percent, same, streak⟩ := running _ rfl
    obtain rfl := eases.unique same
    exact ⟨_, eases, streak.extend charged⟩
  | reset later notWorse => cases still

theorem BatteryMove.worsens (move : BatteryMove sample first battery refilling battery' refilling')
    (discharging : sample.charging = false)
    (worse : battery.code < (rawBatteryBand sample.batteryPercent sample.charging).code) :
    battery' = rawBatteryBand sample.batteryPercent sample.charging := by
  cases move with
  | charge charging =>
    rw [discharging] at charging
    cases charging
  | worsen discharging worse => rfl
  | ease notWorse => omega
  | start notWorse => omega
  | wait notWorse => omega
  | reset later notWorse => omega

theorem BatteryMove.eases (move : BatteryMove sample false battery refilling battery' refilling')
    (running : ∀ pending, refilling = some pending → ∃ percent, Eases battery pending.target percent ∧
      Running HealthSample.monotonicMs (ChargedTo percent) history pending.sinceMs)
    (discharging : sample.charging = false) (better : battery'.code < battery.code) :
    ∃ percent, Eases battery battery' percent ∧
      Completes HealthSample.monotonicMs (ChargedTo percent) 30000 history sample := by
  cases move with
  | charge charging =>
    rw [discharging] at charging
    cases charging
  | worsen discharging worse =>
    rcases worse with never | worse
    · cases never
    · omega
  | ease notWorse eases charged long =>
    obtain ⟨percent, same, streak⟩ := running _ rfl
    obtain rfl := eases.unique same
    exact ⟨_, eases, streak.completes charged long⟩
  | start => omega
  | wait => omega
  | reset => omega

end Step

theorem Timers.observed {history : List HealthSample} {sample : HealthSample} {before after : Vitals}
    (timers : Timers history before) (observed : Observed sample before after) : Timers (history ++ [sample]) after where
  latest := by rw [observed.latest, List.getLast?_concat]
  low := by
    intro last present low
    rw [observed.latest, Option.some.injEq] at present
    subst last
    exact observed.memory.low low
  idle := observed.memory.idle timers.idle
  memory := fun _ => observed.memory.running timers.idle timers.memory
  thermal := fun _ => observed.thermal.running timers.thermal
  battery := fun _ => observed.battery.running timers.battery

theorem Timers.run (calls : List GuardCall) : Timers (samples calls) (vitals (guardRun calls)) := by
  refine Machine.run_induction (fun _ => True) (fun calls guard => Timers (samples calls) (vitals guard)) ?_ ?_ ?_ calls trivial
  · exact fun _ _ _ => trivial
  · exact .initial
  · intro calls call guard _ timers
    rw [samples_concat]
    cases taken : call.sample? with
    | none =>
      rw [GuardCall.vitals_apply taken, Option.toList_none, List.append_nil]
      exact timers
    | some sample =>
      cases call with
      | recordHealth recorded =>
        cases taken
        exact timers.observed (recordHealth_observed guard sample)
      | _ => cases taken

/-! Grants and commits consult the same bands, and only a recent sample counts. -/

/-- The reading comes at most six seconds after the latest sample of the run. -/
def Recent (calls : List GuardCall) (nowMs : Nat) : Prop :=
  ∃ sample, (samples calls).getLast? = some sample ∧ sample.monotonicMs ≤ nowMs ∧ nowMs ≤ sample.monotonicMs + 6000

theorem healthStatus_recent {guard : ResourceGuard} {nowMs : Nat}
    (safe : (guard.healthStatus nowMs).safety.isRefused = false) :
    ∃ sample, guard.latest = some sample ∧ sample.monotonicMs ≤ nowMs ∧ nowMs ≤ sample.monotonicMs + 6000 := by
  unfold ResourceGuard.healthStatus at safe
  cases present : guard.latest with
  | none =>
    rw [present] at safe
    cases safe
  | some sample =>
    simp only [present] at safe
    by_cases fresh : sample.monotonicMs ≤ nowMs ∧ nowMs - sample.monotonicMs ≤ healthStaleAfterMs
    · refine ⟨sample, rfl, fresh.1, ?_⟩
      have recent := fresh.2
      simp only [healthStaleAfterMs] at recent
      omega
    · have stale : (decide (sample.monotonicMs ≤ nowMs) && decide (nowMs - sample.monotonicMs ≤ healthStaleAfterMs)) = false := by
        simpa only [Bool.and_eq_false_iff, decide_eq_false_iff_not, not_and_or] using fresh
      rw [stale] at safe
      cases safe

theorem swept_recent {calls : List GuardCall} {nowMs : Nat} {leaseId : LeaseId} {incarnation : WorkerIncarnationId}
    (safe : (((guardRun calls).expireAndPurge nowMs leaseId incarnation).healthStatus nowMs).safety.isRefused = false) :
    Recent calls nowMs := by
  obtain ⟨sample, present, past, recent⟩ := healthStatus_recent safe
  have same := congrArg Vitals.latest (vitals_expireAndPurge (guardRun calls) nowMs leaseId incarnation)
  exact ⟨sample, (Timers.run calls).latest.symm.trans (same.symm.trans present), past, recent⟩

theorem decideReservation_safe {guard : ResourceGuard} {proof : LeaseProof} {request : ReserveRequest} {nowMs : Nat}
    {reads : Entropy} {id : ReservationId} (granted : (guard.decideReservation proof request nowMs reads).1 = .reserved id) :
    (guard.healthStatus nowMs).safety.isRefused = false := by
  unfold ResourceGuard.decideReservation at granted
  dsimp only at granted
  split at granted
  · cases granted
  split at granted
  · cases granted
  split at granted
  · cases granted
  next safe => exact Bool.eq_false_of_not_eq_true safe

theorem reserve_recent {calls : List GuardCall} {leases leases' : ControllerLeaseManager} {session : AuthenticatedSession}
    {leaseId : LeaseId} {request : ReserveRequest} {nowMs : Nat} {reads : Entropy} {proof : LeaseProof} {id : ReservationId}
    (validated : leases.validate session leaseId nowMs = (.ok proof, leases'))
    (absent : ((guardRun calls).expireAndPurge nowMs proof.leaseId proof.incarnation).idempotence.get?
      (proof.leaseId, request.requestId) = none)
    (granted : ((guardRun calls).reserve leases session leaseId request nowMs reads).1 = .reserved id) :
    Recent calls nowMs := by
  obtain rfl := validate_lease validated
  unfold ResourceGuard.reserve at granted
  simp only [validated, absent] at granted
  split at granted
  · cases granted
  · exact swept_recent (decideReservation_safe granted)

theorem commit_recent {calls : List GuardCall} {leases leases' : ControllerLeaseManager} {session : AuthenticatedSession}
    {leaseId : LeaseId} {nowMs : Nat} {proof : LeaseProof} {id : ReservationId} {reservation : Reservation}
    (validated : leases.validate session leaseId nowMs = (.ok proof, leases'))
    (found : ((guardRun calls).expireAndPurge nowMs proof.leaseId proof.incarnation).reservations.get? id = some reservation)
    (state : reservation.state = .reserved)
    (committed : ((guardRun calls).commit leases session leaseId id nowMs).1 = .committed) : Recent calls nowMs := by
  obtain rfl := validate_lease validated
  unfold ResourceGuard.commit at committed
  simp only [validated, found, state] at committed
  split at committed
  · cases committed
  split at committed
  · cases committed
  next safe => exact swept_recent (Bool.eq_false_of_not_eq_true safe)

/-- A scan keeps no reservation that was not there. -/
theorem Swept.earlier {nowMs : Nat} {stays : Reservation → Bool} {keeps : IdempotenceEntry → Bool}
    {guard guard' : ResourceGuard} (swept : Swept nowMs stays keeps guard guard') {id : ReservationId}
    (absent : guard.reservations.get? id = none) : guard'.reservations.get? id = none := by
  rw [Option.eq_none_iff_forall_ne_some]
  intro after present
  obtain ⟨reservation, found, _⟩ := (swept.reservations id after).mp present
  rw [absent] at found
  cases found

/-- A scan commits nothing. -/
theorem Swept.committed {nowMs : Nat} {stays : Reservation → Bool} {keeps : IdempotenceEntry → Bool}
    {guard guard' : ResourceGuard} (swept : Swept nowMs stays keeps guard guard') {id : ReservationId}
    {before : Reservation} (found : guard.reservations.get? id = some before) (unset : before.state ≠ .committed)
    (after : Reservation) (present : guard'.reservations.get? id = some after) : after.state ≠ .committed := by
  obtain ⟨reservation, same, _, rfl, _⟩ := (swept.reservations id after).mp present
  rw [found, Option.some.injEq] at same
  subst reservation
  unfold lapsed
  split
  · exact fun equal => (by cases equal)
  · exact unset

theorem reserve_grants {calls : List GuardCall} {leases : ControllerLeaseManager} {session : AuthenticatedSession}
    {leaseId : LeaseId} {request : ReserveRequest} {nowMs : Nat} {reads : Entropy} {id : ReservationId}
    (absent : (guardRun calls).reservations.get? id = none)
    (present : ((guardRun calls).reserve leases session leaseId request nowMs reads).2.1.reservations.get? id ≠ none) :
    Recent calls nowMs := by
  cases validated : leases.validate session leaseId nowMs with
  | mk result leases' =>
    cases result with
    | error error =>
      simp only [ResourceGuard.reserve, validated] at present
      exact absurd absent present
    | ok proof =>
      obtain ⟨decision, guard', reserved, same⟩ := reserve_reserved validated (guardRun calls) request reads
      have gone := (expireAndPurge_swept (guardRun calls) nowMs proof.leaseId proof.incarnation).earlier absent
      have decided := congrArg Prod.fst same
      rw [same] at present
      cases reserved with
      | conflict found differs => exact absurd gone present
      | again found lease incarnation sameClass bytes => exact absurd gone present
      | full absent full => exact absurd gone present
      | refuse absent refused => exact absurd gone present
      | grant unanswered opening fits => exact reserve_recent validated unanswered decided

theorem reserve_answers {calls : List GuardCall} {leases : ControllerLeaseManager} {session : AuthenticatedSession}
    {leaseId : LeaseId} {request : ReserveRequest} {nowMs : Nat} {reads : Entropy} {id : ReservationId}
    (unanswered : (guardRun calls).idempotence.get? (leaseId, request.requestId) = none)
    (granted : ((guardRun calls).reserve leases session leaseId request nowMs reads).1 = .reserved id) :
    Recent calls nowMs := by
  cases validated : leases.validate session leaseId nowMs with
  | mk result leases' =>
    cases result with
    | error error =>
      simp only [ResourceGuard.reserve, validated] at granted
      cases granted
    | ok proof =>
      obtain rfl := validate_lease validated
      refine reserve_recent validated ?_ granted
      rw [Option.eq_none_iff_forall_ne_some]
      intro after present
      have swept := expireAndPurge_swept (guardRun calls) nowMs proof.leaseId proof.incarnation
      obtain ⟨entry, found, _⟩ := (swept.idempotence _ after).mp present
      rw [unanswered] at found
      cases found

theorem commit_moves {calls : List GuardCall} {leases : ControllerLeaseManager} {session : AuthenticatedSession}
    {leaseId : LeaseId} {id other : ReservationId} {nowMs : Nat} {before after : Reservation}
    (found : (guardRun calls).reservations.get? other = some before) (unset : before.state ≠ .committed)
    (present : ((guardRun calls).commit leases session leaseId id nowMs).2.1.reservations.get? other = some after)
    (set : after.state = .committed) : Recent calls nowMs := by
  cases validated : leases.validate session leaseId nowMs with
  | mk result leases' =>
    cases result with
    | error error =>
      simp only [ResourceGuard.commit, validated] at present
      rw [found, Option.some.injEq] at present
      subst after
      exact absurd set unset
    | ok proof =>
      obtain ⟨decision, guard', committed, same⟩ := commit_committed validated (guardRun calls) id
      have kept := (expireAndPurge_swept (guardRun calls) nowMs proof.leaseId proof.incarnation).committed found unset
      have decided := congrArg Prod.fst same
      rw [same] at present
      cases committed with
      | unknown absent => exact absurd set (kept after present)
      | foreign found differs => exact absurd set (kept after present)
      | again found state => exact absurd set (kept after present)
      | late found past => exact absurd set (kept after present)
      | refuse held state =>
        change (Table.modify _ id _).get? other = some after at present
        rw [Table.get?_modify] at present
        split at present
        · obtain ⟨stored, _, rfl⟩ := Option.map_eq_some_iff.mp present
          cases set
        · exact absurd set (kept after present)
      | commit held state => exact commit_recent validated held state decided

/-- What recording a sample after others may do to the three bands. -/
structure EasesSlowly (history : List HealthSample) (sample : HealthSample) (before after : ResourceGuard) : Prop where
  refusal : (after.healthStatus sample.monotonicMs).safety = .refusedMemoryPressure ↔ after.memoryBlocked = true
  memoryLow : MemoryLow sample → after.memoryBlocked = true
  memoryLifts : before.memoryBlocked = true → after.memoryBlocked = false →
    Completes HealthSample.monotonicMs MemoryFine 10000 history sample
  thermalRises : before.effectiveThermal.code < sample.thermal.code → after.effectiveThermal = sample.thermal
  thermalFalls : after.effectiveThermal.code < before.effectiveThermal.code →
    Completes HealthSample.monotonicMs (fun other => other.thermal = after.effectiveThermal) 10000 history sample
  batteryWorsens : sample.charging = false →
    before.effectiveBattery.code < (rawBatteryBand sample.batteryPercent sample.charging).code →
    after.effectiveBattery = rawBatteryBand sample.batteryPercent sample.charging
  batteryEases : sample.charging = false → after.effectiveBattery.code < before.effectiveBattery.code → ∃ percent,
    Eases before.effectiveBattery after.effectiveBattery percent ∧
      Completes HealthSample.monotonicMs (ChargedTo percent) 30000 history sample

/-- At the time of the latest sample, memory pressure is exactly the blocked flag. -/
theorem Timers.refusal {history : List HealthSample} {guard : ResourceGuard} {sample : HealthSample}
    (timers : Timers (history ++ [sample]) (vitals guard)) :
    (guard.healthStatus sample.monotonicMs).safety = .refusedMemoryPressure ↔ guard.memoryBlocked = true := by
  have latest : guard.latest = some sample := timers.latest.trans (List.getLast?_concat ..)
  have low := timers.low sample latest
  unfold ResourceGuard.healthStatus
  simp only [latest, Nat.le_refl, Nat.sub_self, Nat.zero_le, decide_true, Bool.and_self, if_true]
  constructor
  · intro refused
    split at refused
    next pressure =>
      simp only [Bool.or_eq_true, decide_eq_true_eq, or_assoc] at pressure
      exact pressure.elim id low
    next => split_ifs at refused
  · intro blocked
    simp [blocked]

theorem recordHealth_easesSlowly (calls : List GuardCall) (sample : HealthSample) (later : samples calls ≠ []) :
    EasesSlowly (samples calls) sample (guardRun calls) (guardRun (calls ++ [.recordHealth sample])) := by
  have timers := Timers.run calls
  have observed := recordHealth_observed (guardRun calls) sample
  have known : (vitals (guardRun calls)).latest.isNone = false := by
    rw [timers.latest]
    simpa using later
  have step : guardRun (calls ++ [.recordHealth sample]) = ((guardRun calls).recordHealth sample).2 :=
    Machine.run_concat ..
  have thermal := observed.thermal
  have battery := observed.battery
  rw [known] at thermal battery
  rw [step]
  exact {
    refusal := (timers.observed observed).refusal
    memoryLow := observed.memory.low
    memoryLifts := by
      intro blocked lifted
      have move := observed.memory
      change MemoryMove sample (guardRun calls).memoryBlocked _ ((guardRun calls).recordHealth sample).2.memoryBlocked _ at move
      rw [blocked, lifted] at move
      exact move.lifts timers.memory
    thermalRises := thermal.rises
    thermalFalls := thermal.falls timers.thermal
    batteryWorsens := battery.worsens
    batteryEases := battery.eases timers.battery }

/-- Bands ease only where a long enough streak of samples completes, and
nothing is granted or committed without a recent sample. -/
theorem health_hysteresis (calls : List GuardCall) :
    (guardRun []).memoryBlocked = true ∧
    (∀ sample, samples calls ≠ [] →
      EasesSlowly (samples calls) sample (guardRun calls) (guardRun (calls ++ [.recordHealth sample]))) ∧
    (∀ leases session leaseId request nowMs reads id,
      ((guardRun calls).reserve leases session leaseId request nowMs reads).1 = .reserved id →
      (guardRun calls).idempotence.get? (leaseId, request.requestId) = none → Recent calls nowMs) ∧
    (∀ leases session leaseId request nowMs reads id, (guardRun calls).reservations.get? id = none →
      ((guardRun calls).reserve leases session leaseId request nowMs reads).2.1.reservations.get? id ≠ none →
      Recent calls nowMs) ∧
    ∀ leases session leaseId id nowMs other before after,
      (guardRun calls).reservations.get? other = some before → before.state ≠ .committed →
      ((guardRun calls).commit leases session leaseId id nowMs).2.1.reservations.get? other = some after →
      after.state = .committed → Recent calls nowMs := by
  refine ⟨rfl, recordHealth_easesSlowly calls, ?_, ?_, ?_⟩
  · intro leases session leaseId request nowMs reads id granted unanswered
    exact reserve_answers unanswered granted
  · intro leases session leaseId request nowMs reads id absent present
    exact reserve_grants absent present
  · intro leases session leaseId id nowMs other before after found unset present set
    exact commit_moves found unset present set

/-- A sample that is healthy except for how the phone was before it. -/
def recoveredSample (nowMs : Nat) : HealthSample where
  availableMemoryBytes := recoveryAvailableBytes
  lowMemory := false
  thermal := .none
  batteryPercent := 50
  charging := false
  powerSave := false
  monotonicMs := nowMs

def strainedSample : HealthSample :=
  { recoveredSample 0 with lowMemory := true, thermal := .moderate, batteryPercent := 10 }

/-- Recovery over thirty seconds: memory and temperature are back to normal, the battery by one step. -/
theorem health_hysteresis_recovery :
    let calls : List GuardCall := [.recordHealth strainedSample, .recordHealth (recoveredSample 1000)]
    let before := guardRun calls
    let after := guardRun (calls ++ [.recordHealth (recoveredSample 31000)])
    (before.memoryBlocked, before.effectiveThermal, before.effectiveBattery) = (true, .moderate, .refused) ∧
    (after.memoryBlocked, after.effectiveThermal, after.effectiveBattery) = (false, .none, .throttle) ∧
    Completes HealthSample.monotonicMs MemoryFine 10000 (samples calls) (recoveredSample 31000) := by
  refine ⟨by decide, by decide, ?_⟩
  exact ((health_hysteresis _).2.1 (recoveredSample 31000) (by decide)).memoryLifts (by decide) (by decide)

end PhoneBoost.Worker.Proofs
