import PhoneBoost.Proofs.LeaseWindow

/-! Where the answers of the lease manager come from. The cache of executed
commands is searched by sequence number, so a RENEW or RELEASE that reuses a
number gets the result of the command that executed under it, with the lease
reference of that moment. -/

namespace PhoneBoost.Worker.Proofs
open ControllerLeaseManager

/-- The reference tells the facts of the lease that the manager holds at a clock
reading. -/
def Describes (ref : ControllerLeaseRef) (manager : ControllerLeaseManager) (nowMs : Nat) : Prop :=
  ∃ active, manager.active = some active ∧ ref.leaseId = active.id ∧ ref.workerIncarnationId = active.incarnation ∧
    ref.ttlRemainingMs ≤ active.expiresAtMs - nowMs ∧ ref.nextCommandSeq = active.nextCommandSequence ∧
    (nowMs < u64Max → nowMs < active.expiresAtMs)

/-- What a completed command says: a RELEASE that the lease is gone, a RENEW
which lease it renewed. -/
def Means (leaseId : LeaseId) (lease : Option ControllerLeaseRef) (after : ControllerLeaseManager) :
    ControllerCommand → Prop
  | .release _ _ => lease = none ∧ ∀ active ∈ after.active, active.id ≠ leaseId
  | _ => ∃ ref, lease = some ref ∧ ref.leaseId = leaseId

/-- The command of a run that executed under a sequence number of a lease, with
its answer. -/
structure Executed (incarnation : WorkerIncarnationId) (first : List LeaseCall) (session : AuthenticatedSession)
    (command : ControllerCommand) (nowMs : Nat) (reads : Entropy) (leaseId : LeaseId) (sequence : Nat)
    (lease : Option ControllerLeaseRef) : Prop where
  mutates : Mutates command leaseId sequence
  executes : commandEvents (leaseRun incarnation first).manager session nowMs reads command ≠ []
  answer : ((leaseRun incarnation first).manager.applyControllerCommand session command nowMs reads).1 =
    .ok (.completed sequence lease)
  describes : ∀ ref ∈ lease,
    Describes ref ((leaseRun incarnation first).manager.applyControllerCommand session command nowMs reads).2 nowMs
  kind : command = .renew leaseId sequence ∧ (∃ ref, lease = some ref ∧ ref.leaseId = leaseId) ∨
    command = .release leaseId sequence ∧ lease = none

/-- A cached result is the one of a command that executed in the run. -/
def Stored (incarnation : WorkerIncarnationId) (calls : List LeaseCall) (leaseId : LeaseId) (sequence : Nat)
    (lease : Option ControllerLeaseRef) : Prop :=
  ∃ first session command nowMs reads rest, calls = first ++ .controllerCommand session command nowMs reads :: rest ∧
    Executed incarnation first session command nowMs reads leaseId sequence lease

section Steps
variable {manager : ControllerLeaseManager} {session : AuthenticatedSession} {leaseId : LeaseId} {nowMs sequence : Nat}
  {active : ActiveLease} {reads : Entropy} {command : ControllerCommand}

theorem leaseRef_describes (held : manager.active = some active) (live : nowMs < u64Max → nowMs < active.expiresAtMs) :
    Describes (leaseRef active nowMs) manager nowMs :=
  ⟨active, held, rfl, rfl, Nat.mod_le _ _, rfl, live⟩

theorem saturatingAdd_later (early : nowMs < u64Max) : nowMs < saturatingAdd nowMs leaseTtlMs := by
  have positive : 0 < leaseTtlMs := by decide
  unfold saturatingAdd
  split <;> omega

theorem renewedRef_describes (manager : ControllerLeaseManager) (active : ActiveLease) (nowMs : Nat)
    (lease : Option ControllerLeaseRef) :
    Describes (renewedRef active nowMs) { manager with active := some (advance (extended active nowMs) lease) } nowMs := by
  refine ⟨_, rfl, (advance_id ..).symm, (advance_incarnation ..).symm, ?_, ?_, ?_⟩
  · rw [advance_expiresAtMs]
    exact Nat.mod_le _ _
  · rw [advance_nextCommandSequence]
    rfl
  · rw [advance_expiresAtMs]
    exact saturatingAdd_later

/-- An ACQUIRE answers with the facts of the moment. -/
theorem applyAcquire_describes {commandSeq : Nat} {ref : ControllerLeaseRef}
    (answered : (manager.applyAcquire session nowMs reads).1 = .ok (.completed commandSeq (some ref))) :
    Describes ref (manager.applyAcquire session nowMs reads).2 nowMs := by
  unfold applyAcquire at answered ⊢
  dsimp only at answered ⊢
  cases held : (manager.expireIfNeeded nowMs).2.active with
  | some active =>
    rw [held] at answered
    dsimp only at answered ⊢
    split at answered
    next own =>
      cases answered
      rw [if_pos own]
      exact leaseRef_describes held fun _ => expireIfNeeded_live manager nowMs active held
    · cases answered
  | none =>
    rw [held] at answered
    dsimp only at answered ⊢
    cases read : (randomNonzero128 reads).1 with
    | none =>
      rw [read] at answered
      cases answered
    | some id =>
      rw [read] at answered
      cases answered
      exact leaseRef_describes rfl saturatingAdd_later

/-- A new lease comes with an empty cache and replaces the released one. -/
theorem applyAcquire_cases (manager : ControllerLeaseManager) (session : AuthenticatedSession) (nowMs : Nat)
    (reads : Entropy) :
    (manager.applyAcquire session nowMs reads).2 = (manager.expireIfNeeded nowMs).2 ∨
    (∃ active, (manager.applyAcquire session nowMs reads).2.active = some active ∧ active.terminal = [] ∧
      active.id.bytes ∈ drawn reads) ∧ (manager.applyAcquire session nowMs reads).2.released = none := by
  unfold applyAcquire
  dsimp only
  split
  · split <;> exact .inl rfl
  · split
    · exact .inl rfl
    next id read => exact .inr ⟨⟨_, rfl, rfl, (randomNonzero128_drawn read).2⟩, rfl⟩

/-- A RENEW or RELEASE executes, or it changes nothing but what the clock does
and at most repeats a cached result of the lease. -/
theorem mutation_cases (windows : ∀ active ∈ manager.active, Window active) (mutates : Mutates command leaseId sequence)
    (session : AuthenticatedSession) (nowMs : Nat) (reads : Entropy) :
    (∃ active, Holds manager session leaseId nowMs active ∧ admission active sequence = .executeOnce) ∨
    commandEvents manager session nowMs reads command = [] ∧
    (manager.applyControllerCommand session command nowMs reads).2 = (manager.expireIfNeeded nowMs).2 ∧
    ∀ commandSeq lease,
      (manager.applyControllerCommand session command nowMs reads).1 = .ok (.completed commandSeq lease) →
      commandSeq = sequence ∧ ∃ record, (record ∈ manager.active ∨ record ∈ manager.released) ∧ record.id = leaseId ∧
        ⟨sequence, .ok, lease⟩ ∈ record.terminal := by
  have entry_eq : ∀ entry : TerminalEntry, entry = ⟨entry.sequence, .ok, entry.lease⟩ := by
    rintro ⟨number, code, lease⟩
    cases code
    rfl
  by_cases held : ∃ active, Holds manager session leaseId nowMs active
  · obtain ⟨active, holds⟩ := held
    have window := holds.window windows
    by_cases executes : admission active sequence = .executeOnce
    · exact .inl ⟨active, holds, executes⟩
    refine .inr ⟨?_, ?_, fun commandSeq lease answered => ?_⟩
    · by_contra busy
      exact executes ((commandEvents_ne_nil mutates holds window reads).mp busy)
    · rw [applyControllerCommand_refused mutates holds window executes]
    · have answer := applyControllerCommand_answer mutates holds window reads
      rw [answered] at answer
      generalize outcome : (Except.ok (.completed commandSeq lease) : CommandOutcome) = given at answer
      cases answer with
      | executed next room => exact absurd (admission_executes.mpr ⟨next, room⟩) executes
      | exhausted | ahead | evicted => cases outcome
      | @replayed entry _ _ member same =>
        rw [terminalResult_eq, Except.ok.injEq, ControllerCommandResult.completed.injEq] at outcome
        refine ⟨outcome.1.trans same, active, .inl (mem_of_expireIfNeeded holds.held), holds.id, ?_⟩
        rwa [← same, outcome.2, ← entry_eq]
  · have stale := not_exists.mp held
    have answer := applyControllerCommand_stale mutates stale reads
    refine .inr ⟨commandEvents_stale mutates stale reads, by rw [answer], fun commandSeq lease answered => ?_⟩
    rw [answer, Except.ok.injEq, releasedAdmission] at answered
    split at answered
    · cases answered
    next record kept =>
      obtain ⟨released, fits⟩ := Option.filter_eq_some_iff.mp kept
      simp only [Bool.and_eq_true, decide_eq_true_eq] at fits
      split at answered
      next entry found =>
        rw [terminalResult_eq, ControllerCommandResult.completed.injEq] at answered
        have same : entry.sequence = sequence := by simpa using List.find?_some found
        refine ⟨answered.1.symm.trans same, record, .inr ?_, fits.1.1, ?_⟩
        · rwa [expireIfNeeded_released] at released
        · rw [← same, ← answered.2, ← entry_eq]
          exact List.mem_of_find?_eq_some found
      · split at answered <;> cases answered

end Steps

/-- Every cached result is stored by a command that executed; those of an active
lease are renewals, and a released lease is only kept while there is no other. -/
structure Sourced (incarnation : WorkerIncarnationId) (calls : List LeaseCall) (manager : ControllerLeaseManager) :
    Prop where
  windows : ∀ active ∈ manager.active, Window active
  exclusive : ∀ record ∈ manager.released, manager.active = none
  active : ∀ record ∈ manager.active, ∀ entry ∈ record.terminal, entry.lease ≠ none
  stored : ∀ record, record ∈ manager.active ∨ record ∈ manager.released → ∀ entry ∈ record.terminal,
    Stored incarnation calls record.id entry.sequence entry.lease

namespace Sourced
variable {incarnation : WorkerIncarnationId} {calls : List LeaseCall} {manager : ControllerLeaseManager}

theorem longer {leaseId : LeaseId} {sequence : Nat} {lease : Option ControllerLeaseRef}
    (stored : Stored incarnation calls leaseId sequence lease) (call : LeaseCall) :
    Stored incarnation (calls ++ [call]) leaseId sequence lease := by
  obtain ⟨first, session, command, nowMs, reads, rest, rfl, executed⟩ := stored
  exact ⟨first, session, command, nowMs, reads, rest ++ [call], by simp, executed⟩

theorem expire (sourced : Sourced incarnation calls manager) (call : LeaseCall) (nowMs : Nat) :
    Sourced incarnation (calls ++ [call]) (manager.expireIfNeeded nowMs).2 where
  windows active held := sourced.windows active (mem_of_expireIfNeeded held)
  exclusive record kept := by
    rw [expireIfNeeded_released] at kept
    rw [expireIfNeeded_active, sourced.exclusive record kept]
    rfl
  active record held := sourced.active record (mem_of_expireIfNeeded held)
  stored record held entry member := by
    rw [expireIfNeeded_released] at held
    exact longer (sourced.stored record (held.imp_left mem_of_expireIfNeeded) entry member) call

/-- The executed command that a RENEW or RELEASE is answered with, itself if it executes. -/
theorem renewed {session : AuthenticatedSession} {leaseId : LeaseId} {sequence nowMs : Nat} {active : ActiveLease}
    (reads : Entropy) (windows : ∀ active ∈ (leaseRun incarnation calls).manager.active, Window active)
    (holds : Holds (leaseRun incarnation calls).manager session leaseId nowMs active)
    (executes : admission active sequence = .executeOnce) :
    Executed incarnation calls session (.renew leaseId sequence) nowMs reads leaseId sequence
      (some (renewedRef active nowMs)) := by
  have window := holds.window windows
  have applied := applyRenew_executes holds window executes
  refine ⟨.inl rfl, (commandEvents_ne_nil (.inl rfl) holds window reads).mpr executes, congrArg Prod.fst applied, ?_,
    .inl ⟨rfl, _, rfl, holds.id⟩⟩
  rintro ref ⟨⟩
  rw [applyControllerCommand, applied]
  exact renewedRef_describes ..

theorem released {session : AuthenticatedSession} {leaseId : LeaseId} {sequence nowMs : Nat} {active : ActiveLease}
    (reads : Entropy) (windows : ∀ active ∈ (leaseRun incarnation calls).manager.active, Window active)
    (holds : Holds (leaseRun incarnation calls).manager session leaseId nowMs active)
    (executes : admission active sequence = .executeOnce) :
    Executed incarnation calls session (.release leaseId sequence) nowMs reads leaseId sequence none := by
  have window := holds.window windows
  have applied := applyRelease_executes holds window executes
  refine ⟨.inr rfl, (commandEvents_ne_nil (.inr rfl) holds window reads).mpr executes, congrArg Prod.fst applied, ?_,
    .inr ⟨rfl, rfl⟩⟩
  rintro ref ⟨⟩

theorem command (sourced : Sourced incarnation calls (leaseRun incarnation calls).manager) (session : AuthenticatedSession)
    (command : ControllerCommand) (nowMs : Nat) (reads : Entropy) :
    Sourced incarnation (calls ++ [.controllerCommand session command nowMs reads])
      ((leaseRun incarnation calls).manager.applyControllerCommand session command nowMs reads).2 := by
  have step := applyControllerCommand_step sourced.windows session command nowMs reads
  have windows := step.windows sourced.windows
  have swept := sourced.expire (.controllerCommand session command nowMs reads) nowMs
  cases command with
  | unsupported sequence => exact ⟨windows, sourced.exclusive, sourced.active, fun record held entry member =>
      longer (sourced.stored record held entry member) _⟩
  | acquire =>
    rw [applyControllerCommand] at windows ⊢
    obtain same | ⟨⟨active, held, empty, -⟩, none⟩ :=
      applyAcquire_cases (leaseRun incarnation calls).manager session nowMs reads
    · exact same ▸ swept
    · refine ⟨windows, ?_, ?_, ?_⟩
      · rw [none]
        rintro record ⟨⟩
      · rw [held]
        rintro record ⟨⟩ entry member
        rw [empty] at member
        cases member
      · rw [held, none]
        rintro record (⟨⟨⟩⟩ | ⟨⟨⟩⟩) entry member
        rw [empty] at member
        cases member
  | renew leaseId sequence =>
    have mutates : Mutates (.renew leaseId sequence) leaseId sequence := .inl rfl
    obtain ⟨active, holds, executes⟩ | ⟨-, same, -⟩ := mutation_cases sourced.windows mutates session nowMs reads
    · have executed := renewed reads sourced.windows holds executes
      have applied := applyRenew_executes holds (holds.window sourced.windows) executes
      have next := (admission_executes.mp executes).1
      rw [applyControllerCommand, applied] at windows ⊢
      refine ⟨windows, ?_, ?_, ?_⟩
      · intro record kept
        exact absurd (holds.held.symm.trans (swept.exclusive record kept)) (by simp)
      · rintro record ⟨⟩ entry member
        rcases mem_advance_terminal member with old | rfl
        · exact swept.active active holds.held entry old
        · simp
      · rintro record (⟨⟨⟩⟩ | kept) entry member
        · rw [advance_id]
          rcases mem_advance_terminal member with old | rfl
          · exact swept.stored active (.inl holds.held) entry old
          · refine ⟨calls, session, _, nowMs, reads, [], rfl, ?_⟩
            have id : (extended active nowMs).id = leaseId := holds.id
            have number : (extended active nowMs).nextCommandSequence = sequence := next.symm
            rw [id, number]
            exact executed
        · exact swept.stored record (.inr kept) entry member
    · rw [same]
      exact swept
  | release leaseId sequence =>
    have mutates : Mutates (.release leaseId sequence) leaseId sequence := .inr rfl
    obtain ⟨active, holds, executes⟩ | ⟨-, same, -⟩ := mutation_cases sourced.windows mutates session nowMs reads
    · have executed := released reads sourced.windows holds executes
      have applied := applyRelease_executes holds (holds.window sourced.windows) executes
      have next := (admission_executes.mp executes).1
      rw [applyControllerCommand, applied] at windows ⊢
      refine ⟨windows, fun _ _ => rfl, ?_, ?_⟩
      · rintro record ⟨⟩
      · rintro record (⟨⟨⟩⟩ | ⟨⟨⟩⟩) entry member
        rw [advance_id]
        rcases mem_advance_terminal member with old | rfl
        · exact swept.stored active (.inl holds.held) entry old
        · refine ⟨calls, session, _, nowMs, reads, [], rfl, ?_⟩
          rw [holds.id, ← next]
          exact executed
    · rw [same]
      exact swept

theorem run (incarnation : WorkerIncarnationId) (calls : List LeaseCall) :
    Sourced incarnation calls (leaseRun incarnation calls).manager := by
  induction calls using List.reverseRecOn with
  | nil => exact ⟨fun _ held => (by cases held), fun _ kept => (by cases kept), fun _ held => (by cases held),
      fun _ held => by rcases held with held | kept <;> contradiction⟩
  | append_singleton calls call ih =>
    have step : (leaseRun incarnation (calls ++ [call])).manager = call.apply (leaseRun incarnation calls).manager := by
      rw [leaseRun, Machine.run_concat]
      rfl
    rw [step]
    cases call with
    | controllerCommand session command nowMs reads => exact ih.command session command nowMs reads
    | validate session leaseId nowMs =>
      rw [LeaseCall.apply, validate_manager]
      exact ih.expire _ nowMs
    | currentForSession session nowMs => exact ih.expire _ nowMs
    | expireIfNeeded nowMs => exact ih.expire _ nowMs

end Sourced

section Replies
variable {incarnation : WorkerIncarnationId} {calls : List LeaseCall} {session : AuthenticatedSession}
  {command : ControllerCommand} {leaseId : LeaseId} {sequence nowMs : Nat} {reads : Entropy} {active : ActiveLease}

theorem Executed.now (windows : ∀ active ∈ (leaseRun incarnation calls).manager.active, Window active)
    (mutates : Mutates command leaseId sequence)
    (holds : Holds (leaseRun incarnation calls).manager session leaseId nowMs active)
    (executes : admission active sequence = .executeOnce) (reads : Entropy) :
    ∃ lease, Executed incarnation calls session command nowMs reads leaseId sequence lease ∧
      Means leaseId lease
        ((leaseRun incarnation calls).manager.applyControllerCommand session command nowMs reads).2 command := by
  rcases mutates with rfl | rfl
  · exact ⟨_, Sourced.renewed reads windows holds executes, _, rfl, holds.id⟩
  · refine ⟨_, Sourced.released reads windows holds executes, rfl, ?_⟩
    rw [applyControllerCommand, applyRelease_executes holds (holds.window windows) executes]
    rintro active ⟨⟩

/-- The result of a command that executed earlier says what that command meant,
also at the time of its repetition. -/
theorem Sourced.repeated (sourced : Sourced incarnation calls (leaseRun incarnation calls).manager)
    {record : ActiveLease} {lease : Option ControllerLeaseRef} {after : ControllerLeaseManager}
    (kept : record ∈ (leaseRun incarnation calls).manager.active ∨ record ∈ (leaseRun incarnation calls).manager.released)
    (member : ⟨sequence, .ok, lease⟩ ∈ record.terminal)
    (expired : after = ((leaseRun incarnation calls).manager.expireIfNeeded nowMs).2) :
    ∃ first session command nowMs reads rest, calls = first ++ .controllerCommand session command nowMs reads :: rest ∧
      Executed incarnation first session command nowMs reads record.id sequence lease ∧
      Means record.id lease after command := by
  obtain ⟨first, session, command, nowMs, reads, rest, split, executed⟩ := sourced.stored record kept _ member
  refine ⟨first, session, command, nowMs, reads, rest, split, executed, ?_⟩
  obtain ⟨rfl, renews⟩ | ⟨rfl, gone⟩ := executed.kind
  · exact renews
  · refine ⟨gone, fun active held => ?_⟩
    rcases kept with present | released
    · exact absurd gone (sourced.active record present _ member)
    · rw [expired, expireIfNeeded_active, sourced.exclusive record released] at held
      cases held

end Replies

/-- A completed RENEW or RELEASE gets the answer of the one command that executed
under its sequence number, itself whenever it executes, and that answer means
what the executed command says: after a RELEASE there is no reference and the
lease is not active, and a RENEW names the lease. -/
theorem completed_command_meaning (incarnation : WorkerIncarnationId) (calls : List LeaseCall)
    (session : AuthenticatedSession) (command : ControllerCommand) (leaseId : LeaseId) (sequence nowMs : Nat)
    (reads : Entropy) (commandSeq : Nat) (lease : Option ControllerLeaseRef)
    (mutates : command = .renew leaseId sequence ∨ command = .release leaseId sequence)
    (answered : ((leaseRun incarnation calls).manager.applyControllerCommand session command nowMs reads).1 =
      .ok (.completed commandSeq lease)) :
    commandSeq = sequence ∧
    ∃ first session' command' nowMs' reads' rest,
      calls ++ [.controllerCommand session command nowMs reads] =
        first ++ .controllerCommand session' command' nowMs' reads' :: rest ∧
      Executed incarnation first session' command' nowMs' reads' leaseId sequence lease ∧
      Means leaseId lease ((leaseRun incarnation calls).manager.applyControllerCommand session command nowMs reads).2
        command' ∧
      (commandEvents (leaseRun incarnation calls).manager session nowMs reads command ≠ [] →
        first = calls ∧ command' = command) := by
  have sourced := Sourced.run incarnation calls
  obtain ⟨active, holds, executes⟩ | ⟨silent, same, repeats⟩ :=
    mutation_cases sourced.windows mutates session nowMs reads
  · obtain ⟨lease', executed, means⟩ := Executed.now sourced.windows mutates holds executes reads
    have given := executed.answer
    rw [answered, Except.ok.injEq, ControllerCommandResult.completed.injEq] at given
    obtain ⟨rfl, rfl⟩ := given
    exact ⟨rfl, calls, session, command, nowMs, reads, [], rfl, executed, means, fun _ => ⟨rfl, rfl⟩⟩
  · obtain ⟨number, record, kept, rfl, member⟩ := repeats commandSeq lease answered
    obtain ⟨first, session', command', nowMs', reads', rest, split, executed, means⟩ :=
      sourced.repeated kept member same
    refine ⟨number, first, session', command', nowMs', reads', rest ++ [.controllerCommand session command nowMs reads],
      ?_, executed, means, fun busy => absurd silent busy⟩
    rw [split]
    simp

/-- One executed RENEW. -/
def oneRenewal : List LeaseCall := [
  .controllerCommand ⟨somePeer⟩ .acquire 0 [some (filled 1)],
  .controllerCommand ⟨somePeer⟩ (.renew ⟨filled 1⟩ 0) 1000 []]

def oneRelease : List LeaseCall := [
  .controllerCommand ⟨somePeer⟩ .acquire 0 [some (filled 1)],
  .controllerCommand ⟨somePeer⟩ (.release ⟨filled 1⟩ 0) 1000 []]

theorem completed_command_meaning_renewal :
    ∃ lease, ((leaseRun ⟨filled 9⟩ oneRenewal).manager.applyControllerCommand ⟨somePeer⟩ (.renew ⟨filled 1⟩ 1) 2000 []).1 =
      .ok (.completed 1 lease) ∧
    ∃ first session' command' nowMs' reads' rest,
      oneRenewal ++ [.controllerCommand ⟨somePeer⟩ (.renew ⟨filled 1⟩ 1) 2000 []] =
        first ++ .controllerCommand session' command' nowMs' reads' :: rest ∧
      Executed ⟨filled 9⟩ first session' command' nowMs' reads' ⟨filled 1⟩ 1 lease := by
  have answered : ((leaseRun ⟨filled 9⟩ oneRenewal).manager.applyControllerCommand ⟨somePeer⟩
      (.renew ⟨filled 1⟩ 1) 2000 []).1 = .ok (.completed 1 (some ⟨⟨filled 1⟩, ⟨filled 9⟩, 60000, 2⟩)) := by decide
  obtain ⟨-, first, session', command', nowMs', reads', rest, split, executed, -⟩ :=
    completed_command_meaning ⟨filled 9⟩ oneRenewal ⟨somePeer⟩ (.renew ⟨filled 1⟩ 1) ⟨filled 1⟩ 1 2000 [] 1 _ (.inl rfl)
      answered
  exact ⟨_, answered, first, session', command', nowMs', reads', rest, split, executed⟩

/-- A RELEASE with the number of a RENEW completes with a reference and leaves the
lease active; a RENEW with the number of the RELEASE completes without one. -/
theorem reused_number_replays :
    ((leaseRun ⟨filled 9⟩ oneRenewal).manager.applyControllerCommand ⟨somePeer⟩ (.release ⟨filled 1⟩ 0) 2000 []).1 =
      .ok (.completed 0 (some ⟨⟨filled 1⟩, ⟨filled 9⟩, 60000, 1⟩)) ∧
    (((leaseRun ⟨filled 9⟩ oneRenewal).manager.applyControllerCommand ⟨somePeer⟩ (.release ⟨filled 1⟩ 0) 2000
      []).2.active.map ActiveLease.id) = some ⟨filled 1⟩ ∧
    ((leaseRun ⟨filled 9⟩ oneRelease).manager.applyControllerCommand ⟨somePeer⟩ (.renew ⟨filled 1⟩ 0) 2000 []).1 =
      .ok (.completed 0 none) := by decide

/-- The reference of an ACQUIRE or of a RENEW that executes tells the facts of the
moment; any other reference is the one that an executed RENEW of the same number
returned, and told the facts then. -/
theorem lease_reference_facts (incarnation : WorkerIncarnationId) (calls : List LeaseCall)
    (session : AuthenticatedSession) (command : ControllerCommand) (nowMs : Nat) (reads : Entropy) (commandSeq : Nat)
    (ref : ControllerLeaseRef)
    (answered : ((leaseRun incarnation calls).manager.applyControllerCommand session command nowMs reads).1 =
      .ok (.completed commandSeq (some ref))) :
    (command = .acquire ∨ commandEvents (leaseRun incarnation calls).manager session nowMs reads command ≠ [] →
      Describes ref ((leaseRun incarnation calls).manager.applyControllerCommand session command nowMs reads).2 nowMs) ∧
    (¬ (command = .acquire ∨ commandEvents (leaseRun incarnation calls).manager session nowMs reads command ≠ []) →
      ∃ leaseId sequence first session' nowMs' reads' rest,
        (command = .renew leaseId sequence ∨ command = .release leaseId sequence) ∧
        calls = first ++ .controllerCommand session' (.renew leaseId sequence) nowMs' reads' :: rest ∧
        Executed incarnation first session' (.renew leaseId sequence) nowMs' reads' leaseId sequence (some ref)) := by
  have sourced := Sourced.run incarnation calls
  have mutation : ∀ leaseId sequence, Mutates command leaseId sequence →
      (commandEvents (leaseRun incarnation calls).manager session nowMs reads command ≠ [] ∧
        Describes ref ((leaseRun incarnation calls).manager.applyControllerCommand session command nowMs reads).2 nowMs) ∨
      commandEvents (leaseRun incarnation calls).manager session nowMs reads command = [] ∧
      ∃ first session' nowMs' reads' rest,
        calls = first ++ .controllerCommand session' (.renew leaseId sequence) nowMs' reads' :: rest ∧
        Executed incarnation first session' (.renew leaseId sequence) nowMs' reads' leaseId sequence (some ref) := by
    intro leaseId sequence mutates
    obtain ⟨active, holds, executes⟩ | ⟨silent, same, repeats⟩ :=
      mutation_cases sourced.windows mutates session nowMs reads
    · obtain ⟨lease, executed, -⟩ := Executed.now sourced.windows mutates holds executes reads
      have given := executed.answer
      rw [answered, Except.ok.injEq, ControllerCommandResult.completed.injEq] at given
      obtain ⟨rfl, rfl⟩ := given
      exact .inl ⟨executed.executes, executed.describes ref rfl⟩
    · obtain ⟨-, record, kept, rfl, member⟩ := repeats commandSeq (some ref) answered
      obtain ⟨first, session', command', nowMs', reads', rest, split, executed, -⟩ :=
        sourced.repeated kept member same
      obtain ⟨rfl, -⟩ | ⟨-, none⟩ := executed.kind
      · exact .inr ⟨silent, first, session', nowMs', reads', rest, split, executed⟩
      · cases none
  cases command with
  | acquire => exact ⟨fun _ => applyAcquire_describes answered, fun other => absurd (.inl rfl) other⟩
  | unsupported => cases answered
  | renew leaseId sequence =>
    obtain ⟨busy, describes⟩ | ⟨silent, first, session', nowMs', reads', rest, split, executed⟩ :=
      mutation leaseId sequence (.inl rfl)
    · exact ⟨fun _ => describes, fun idle => absurd (.inr busy) idle⟩
    · refine ⟨fun busy => ?_, fun _ => ⟨leaseId, sequence, first, session', nowMs', reads', rest, .inl rfl, split, executed⟩⟩
      rcases busy with other | busy
      · cases other
      · exact absurd silent busy
  | release leaseId sequence =>
    obtain ⟨busy, describes⟩ | ⟨silent, first, session', nowMs', reads', rest, split, executed⟩ :=
      mutation leaseId sequence (.inr rfl)
    · exact ⟨fun _ => describes, fun idle => absurd (.inr busy) idle⟩
    · refine ⟨fun busy => ?_, fun _ => ⟨leaseId, sequence, first, session', nowMs', reads', rest, .inr rfl, split, executed⟩⟩
      rcases busy with other | busy
      · cases other
      · exact absurd silent busy

theorem lease_reference_facts_renewal :
    ((leaseRun ⟨filled 9⟩ oneRenewal).manager.applyControllerCommand ⟨somePeer⟩ (.renew ⟨filled 1⟩ 1) 2000 []).1 =
      .ok (.completed 1 (some ⟨⟨filled 1⟩, ⟨filled 9⟩, 60000, 2⟩)) ∧
    Describes ⟨⟨filled 1⟩, ⟨filled 9⟩, 60000, 2⟩
      ((leaseRun ⟨filled 9⟩ oneRenewal).manager.applyControllerCommand ⟨somePeer⟩ (.renew ⟨filled 1⟩ 1) 2000 []).2 2000 := by
  have answered : ((leaseRun ⟨filled 9⟩ oneRenewal).manager.applyControllerCommand ⟨somePeer⟩
      (.renew ⟨filled 1⟩ 1) 2000 []).1 = .ok (.completed 1 (some ⟨⟨filled 1⟩, ⟨filled 9⟩, 60000, 2⟩)) := by decide
  exact ⟨answered, (lease_reference_facts ⟨filled 9⟩ oneRenewal ⟨somePeer⟩ (.renew ⟨filled 1⟩ 1) 2000 [] 1 _
    answered).1 (.inr (by decide))⟩

/-- A repeated RENEW answers 60000 milliseconds when 31000 remain and the number 1
when 2 is next, and after the RELEASE it still names the lease. -/
theorem repeated_reference_is_old :
    let manager := (leaseRun ⟨filled 9⟩ (oneRenewal ++
      [.controllerCommand ⟨somePeer⟩ (.renew ⟨filled 1⟩ 1) 1000 []])).manager
    let released := (leaseRun ⟨filled 9⟩ (oneRenewal ++
      [.controllerCommand ⟨somePeer⟩ (.release ⟨filled 1⟩ 1) 2000 []])).manager
    (manager.applyControllerCommand ⟨somePeer⟩ (.renew ⟨filled 1⟩ 0) 30000 []).1 =
      .ok (.completed 0 (some ⟨⟨filled 1⟩, ⟨filled 9⟩, 60000, 1⟩)) ∧
    (manager.applyControllerCommand ⟨somePeer⟩ (.renew ⟨filled 1⟩ 0) 30000 []).2.active.map
      (fun active => (active.expiresAtMs - 30000, active.nextCommandSequence)) = some (31000, 2) ∧
    (released.applyControllerCommand ⟨somePeer⟩ (.renew ⟨filled 1⟩ 0) 3000 []).1 =
      .ok (.completed 0 (some ⟨⟨filled 1⟩, ⟨filled 9⟩, 60000, 1⟩)) ∧
    (released.applyControllerCommand ⟨somePeer⟩ (.renew ⟨filled 1⟩ 0) 3000 []).2.active = none := by decide

end PhoneBoost.Worker.Proofs
