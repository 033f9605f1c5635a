import PhoneBoost.Proofs.LeaseSteps

/-! Runs of the lease manager. The history records which calls created a lease
and which commands executed, so that statements can speak about both. -/

namespace PhoneBoost.Worker.Proofs
open ControllerLeaseManager

inductive LeaseCall where
  | controllerCommand (session : AuthenticatedSession) (command : ControllerCommand) (nowMs : Nat) (reads : Entropy)
  | validate (session : AuthenticatedSession) (leaseId : LeaseId) (nowMs : Nat)
  | currentForSession (session : AuthenticatedSession) (nowMs : Nat)
  | expireIfNeeded (nowMs : Nat)

inductive LeaseEvent where
  | acquired (peerId : PeerId) (leaseId : LeaseId) (nowMs : Nat)
  | renewed (leaseId : LeaseId) (sequence nowMs : Nat)
  | released (leaseId : LeaseId) (sequence nowMs : Nat)
deriving DecidableEq, Repr

namespace LeaseCall

def apply (manager : ControllerLeaseManager) : LeaseCall → ControllerLeaseManager
  | .controllerCommand session command nowMs reads => (manager.applyControllerCommand session command nowMs reads).2
  | .validate session leaseId nowMs => (manager.validate session leaseId nowMs).2
  | .currentForSession session nowMs => (manager.currentForSession session nowMs).2
  | .expireIfNeeded nowMs => (manager.expireIfNeeded nowMs).2

def nowMs : LeaseCall → Nat
  | .controllerCommand _ _ nowMs _ | .validate _ _ nowMs | .currentForSession _ nowMs | .expireIfNeeded nowMs => nowMs

def reads : LeaseCall → Entropy
  | .controllerCommand _ _ _ reads => reads
  | _ => []

end LeaseCall

/-- A lease comes into being when an ACQUIRE finds none and leaves one; a RENEW
or RELEASE takes effect when it is admitted for execution. -/
def commandEvents (manager : ControllerLeaseManager) (session : AuthenticatedSession) (nowMs : Nat) (reads : Entropy) :
    ControllerCommand → List LeaseEvent
  | .acquire =>
    match (manager.expireIfNeeded nowMs).2.active, (manager.applyAcquire session nowMs reads).2.active with
    | none, some active => [.acquired session.peerId active.id nowMs]
    | _, _ => []
  | .renew leaseId sequence =>
    if (manager.beginMutationInternal session leaseId sequence nowMs).1 = .executeOnce then
      [.renewed leaseId sequence nowMs] else []
  | .release leaseId sequence =>
    if (manager.beginMutationInternal session leaseId sequence nowMs).1 = .executeOnce then
      [.released leaseId sequence nowMs] else []
  | .unsupported _ => []

def LeaseCall.events (manager : ControllerLeaseManager) : LeaseCall → List LeaseEvent
  | .controllerCommand session command nowMs reads => commandEvents manager session nowMs reads command
  | _ => []

structure Tracked where
  manager : ControllerLeaseManager
  history : List LeaseEvent

def Tracked.step (tracked : Tracked) (call : LeaseCall) : Tracked where
  manager := call.apply tracked.manager
  history := tracked.history ++ call.events tracked.manager

def leaseRun (incarnation : WorkerIncarnationId) (calls : List LeaseCall) : Tracked :=
  Machine.run Tracked.step ⟨.new incarnation, []⟩ calls

def recordExecuted (executed : List Nat) : LeaseEvent → List Nat
  | .acquired _ _ _ => []
  | .renewed _ sequence _ | .released _ sequence _ => executed ++ [sequence]

/-- Sequence numbers executed on the most recent lease, oldest first. -/
def executedSequences (history : List LeaseEvent) : List Nat := history.foldl recordExecuted []

/-- What a call can do to the manager, with the event it leaves behind. -/
inductive LeaseStep (nowMs : Nat) (reads : Entropy) (before after : ControllerLeaseManager) : List LeaseEvent → Prop where
  | keep (same : after = before) : LeaseStep nowMs reads before after []
  | expire (same : after = (before.expireIfNeeded nowMs).2) : LeaseStep nowMs reads before after []
  | acquire {peerId id} (free : (before.expireIfNeeded nowMs).2.active = none) (fresh : id.bytes ∈ drawn reads)
      (same : after = { (before.expireIfNeeded nowMs).2 with
        active := some {
          id := id
          peerId := peerId
          incarnation := before.incarnation
          acquiredAtMs := nowMs
          expiresAtMs := saturatingAdd nowMs leaseTtlMs
          nextCommandSequence := 0
          pending := ∅
          terminal := []
          evictedThrough := none }
        released := none
        state := .active
        lastTransition := some .freeToActive }) : LeaseStep nowMs reads before after [.acquired peerId id nowMs]
  | renew {active session leaseId} (holds : Holds before session leaseId nowMs active)
      (room : active.nextCommandSequence < u64Max)
      (same : after = { (before.expireIfNeeded nowMs).2 with
        active := some (advance (extended active nowMs) (some (renewedRef active nowMs))) }) :
      LeaseStep nowMs reads before after [.renewed leaseId active.nextCommandSequence nowMs]
  | release {active session leaseId} (holds : Holds before session leaseId nowMs active)
      (room : active.nextCommandSequence < u64Max)
      (same : after = { (before.expireIfNeeded nowMs).2 with
        active := none
        released := some (advance active none)
        state := .free
        lastTransition := some .revokingToFree }) :
      LeaseStep nowMs reads before after [.released leaseId active.nextCommandSequence nowMs]

variable {manager : ControllerLeaseManager} {session : AuthenticatedSession} {leaseId : LeaseId} {nowMs sequence : Nat}
  {active : ActiveLease} {reads : Entropy}

theorem mem_of_expireIfNeeded (held : active ∈ (manager.expireIfNeeded nowMs).2.active) : active ∈ manager.active := by
  rw [expireIfNeeded_active, Option.mem_def, Option.filter_eq_some_iff] at held
  exact held.1

theorem Holds.window (windows : ∀ active ∈ manager.active, Window active)
    (holds : Holds manager session leaseId nowMs active) : Window active :=
  windows active (mem_of_expireIfNeeded holds.held)

theorem beginMutationInternal_stale (stale : ∀ active, ¬ Holds manager session leaseId nowMs active) (sequence : Nat) :
    (manager.beginMutationInternal session leaseId sequence nowMs).1 = .staleLease := by
  simp [beginMutationInternal, validate_error stale]

theorem applyAcquire_step (manager : ControllerLeaseManager) (session : AuthenticatedSession) (nowMs : Nat) (reads : Entropy) :
    LeaseStep nowMs reads manager (manager.applyAcquire session nowMs reads).2
      (commandEvents manager session nowMs reads .acquire) := by
  unfold commandEvents
  cases held : (manager.expireIfNeeded nowMs).2.active with
  | some active =>
    apply LeaseStep.expire
    simp only [applyAcquire, held]
    split <;> rfl
  | none =>
    cases read : (randomNonzero128 reads).1 with
    | none =>
      simp only [applyAcquire, held, read]
      exact .expire rfl
    | some id =>
      simp only [applyAcquire, held, read]
      exact .acquire held (randomNonzero128_drawn read).2 (by simp)

section Mutation
variable {command : ControllerCommand} (mutates : Mutates command leaseId sequence)
include mutates

theorem commandEvents_ne_nil (holds : Holds manager session leaseId nowMs active) (window : Window active) (reads : Entropy) :
    commandEvents manager session nowMs reads command ≠ [] ↔ admission active sequence = .executeOnce := by
  rcases mutates with rfl | rfl <;>
    simp [commandEvents, beginMutationInternal_of_holds holds window]

theorem commandEvents_stale (stale : ∀ active, ¬ Holds manager session leaseId nowMs active) (reads : Entropy) :
    commandEvents manager session nowMs reads command = [] := by
  rcases mutates with rfl | rfl <;> simp [commandEvents, beginMutationInternal_stale stale]

/-- A command that is not executed leaves the manager as the clock does. -/
theorem applyControllerCommand_idle (windows : ∀ active ∈ manager.active, Window active)
    (idle : ∀ active, Holds manager session leaseId nowMs active → admission active sequence ≠ .executeOnce) (reads : Entropy) :
    (manager.applyControllerCommand session command nowMs reads).2 = (manager.expireIfNeeded nowMs).2 := by
  by_cases held : ∃ active, Holds manager session leaseId nowMs active
  · obtain ⟨active, holds⟩ := held
    rw [applyControllerCommand_refused mutates holds (holds.window windows) (idle active holds)]
  · rw [applyControllerCommand_stale mutates (not_exists.mp held)]

theorem mutation_step (windows : ∀ active ∈ manager.active, Window active) (session : AuthenticatedSession) (nowMs : Nat)
    (reads : Entropy) :
    LeaseStep nowMs reads manager (manager.applyControllerCommand session command nowMs reads).2
      (commandEvents manager session nowMs reads command) := by
  by_cases held : ∃ active, Holds manager session leaseId nowMs active
  · obtain ⟨active, holds⟩ := held
    have window := holds.window windows
    by_cases executes : admission active sequence = .executeOnce
    · obtain ⟨next, room⟩ := admission_executes.mp executes
      rcases mutates with rfl | rfl
      · rw [commandEvents, beginMutationInternal_of_holds holds window, if_pos executes, applyControllerCommand,
          applyRenew_executes holds window executes, next]
        exact .renew holds room rfl
      · rw [commandEvents, beginMutationInternal_of_holds holds window, if_pos executes, applyControllerCommand,
          applyRelease_executes holds window executes, next]
        exact .release holds room rfl
    · rw [not_not.mp (mt (commandEvents_ne_nil mutates holds window reads).mp executes)]
      exact .expire (congrArg Prod.snd (applyControllerCommand_refused mutates holds window executes reads))
  · rw [commandEvents_stale mutates (not_exists.mp held)]
    exact .expire (congrArg Prod.snd (applyControllerCommand_stale mutates (not_exists.mp held) reads))

end Mutation

theorem applyControllerCommand_step (windows : ∀ active ∈ manager.active, Window active) (session : AuthenticatedSession)
    (command : ControllerCommand) (nowMs : Nat) (reads : Entropy) :
    LeaseStep nowMs reads manager (manager.applyControllerCommand session command nowMs reads).2
      (commandEvents manager session nowMs reads command) := by
  cases command with
  | acquire => exact applyAcquire_step manager session nowMs reads
  | renew leaseId sequence => exact mutation_step (.inl rfl) windows session nowMs reads
  | release leaseId sequence => exact mutation_step (.inr rfl) windows session nowMs reads
  | unsupported sequence => exact .keep rfl

theorem LeaseCall.step (windows : ∀ active ∈ manager.active, Window active) (call : LeaseCall) :
    LeaseStep call.nowMs call.reads manager (call.apply manager) (call.events manager) := by
  cases call with
  | controllerCommand session command nowMs reads => exact applyControllerCommand_step windows session command nowMs reads
  | validate session leaseId nowMs => exact .expire (validate_manager manager session leaseId nowMs)
  | currentForSession session nowMs => exact .expire rfl
  | expireIfNeeded nowMs => exact .expire rfl

theorem LeaseStep.windows {after : ControllerLeaseManager} {events : List LeaseEvent}
    (step : LeaseStep nowMs reads manager after events) (windows : ∀ active ∈ manager.active, Window active) :
    ∀ active ∈ after.active, Window active := by
  have swept : ∀ active ∈ (manager.expireIfNeeded nowMs).2.active, Window active := fun active held =>
    windows active (mem_of_expireIfNeeded held)
  cases step with
  | keep same => rwa [same]
  | expire same => rwa [same]
  | acquire _ _ same =>
    rw [same]
    rintro active ⟨⟩
    exact ⟨rfl, rfl, rfl, Nat.zero_le _⟩
  | renew holds room same =>
    rw [same]
    rintro active ⟨⟩
    exact ((holds.window windows).extended nowMs).advance room _
  | release _ _ same =>
    rw [same]
    rintro active ⟨⟩

/-- Windows describe exactly the sequence numbers in the history. -/
structure Counted (tracked : Tracked) : Prop where
  windows : ∀ active ∈ tracked.manager.active, Window active
  inOrder : executedSequences tracked.history = List.range (executedSequences tracked.history).length
  next : ∀ active ∈ tracked.manager.active, active.nextCommandSequence = (executedSequences tracked.history).length

theorem executedSequences_append (history events : List LeaseEvent) :
    executedSequences (history ++ events) = events.foldl recordExecuted (executedSequences history) := by
  simp [executedSequences]

theorem Counted.extend {history events : List LeaseEvent} {after : ControllerLeaseManager}
    (counted : Counted ⟨manager, history⟩) (step : LeaseStep nowMs reads manager after events) :
    Counted ⟨after, history ++ events⟩ := by
  obtain ⟨windows, inOrder, next⟩ := counted
  dsimp only at windows inOrder next
  refine ⟨step.windows windows, ?_, ?_⟩ <;> dsimp only <;> rw [executedSequences_append]
  · cases step with
    | keep | expire => exact inOrder
    | acquire => rfl
    | renew holds | release holds =>
      rw [List.foldl_cons, List.foldl_nil, recordExecuted, next _ (mem_of_expireIfNeeded holds.held)]
      simpa [List.range_succ] using inOrder
  · cases step with
    | keep same => exact same ▸ next
    | expire same => exact fun active held => next active (mem_of_expireIfNeeded (same ▸ held))
    | acquire _ _ same =>
      rw [same]
      rintro active ⟨⟩
      rfl
    | renew holds _ same =>
      rw [same]
      rintro active ⟨⟩
      simp [recordExecuted, extended, next _ (mem_of_expireIfNeeded holds.held)]
    | release _ _ same =>
      rw [same]
      rintro active ⟨⟩

theorem leaseRun_counted (incarnation : WorkerIncarnationId) (calls : List LeaseCall) :
    Counted (leaseRun incarnation calls) := by
  apply Machine.run_induction (fun _ => True) (fun _ => Counted) _ _ _ calls trivial
  · exact fun _ _ _ => trivial
  · exact ⟨by simp [ControllerLeaseManager.new], rfl, by simp [ControllerLeaseManager.new]⟩
  · exact fun _ call tracked _ counted => counted.extend (LeaseCall.step counted.windows call)

variable {command : ControllerCommand}

theorem applyControllerCommand_executes (mutates : Mutates command leaseId sequence)
    (holds : Holds manager session leaseId nowMs active) (window : Window active)
    (executes : admission active sequence = .executeOnce) (reads : Entropy) :
    ∃ lease, (manager.applyControllerCommand session command nowMs reads).1 = .ok (.completed sequence lease) := by
  rcases mutates with rfl | rfl
  · exact ⟨_, congrArg Prod.fst (applyRenew_executes holds window executes)⟩
  · exact ⟨_, congrArg Prod.fst (applyRelease_executes holds window executes)⟩

theorem resultFromAdmission_replay (held : manager.active = some active) (window : Window active)
    (inside : sequence < active.nextCommandSequence) (recent : active.nextCommandSequence ≤ sequence + terminalCacheCapacity) :
    ∃ entry ∈ active.terminal, entry.sequence = sequence ∧
      manager.resultFromAdmission (.replay .ok) sequence = .ok (terminalResult entry) := by
  obtain ⟨entry, found, member, same⟩ := window.find_cached inside recent
  refine ⟨entry, member, same, ?_⟩
  simp only [resultFromAdmission, held, decide_true, Bool.and_true, found]

theorem terminalResult_eq (entry : TerminalEntry) : terminalResult entry = .completed entry.sequence entry.lease := by
  unfold terminalResult
  cases entry.code
  rfl

/-- The answer to a RENEW or RELEASE of the lease that the session holds. -/
structure CommandRules (manager : ControllerLeaseManager) (session : AuthenticatedSession) (command : ControllerCommand)
    (sequence nowMs : Nat) (reads : Entropy) (active : ActiveLease) : Prop where
  executes : commandEvents manager session nowMs reads command ≠ [] ↔
    sequence = active.nextCommandSequence ∧ active.nextCommandSequence < u64Max
  replays : (commandEvents manager session nowMs reads command = [] ∧ ∃ entry ∈ active.terminal,
      entry.sequence = sequence ∧
      (manager.applyControllerCommand session command nowMs reads).1 = .ok (terminalResult entry)) ↔
    sequence ∈ active.terminal.map TerminalEntry.sequence
  evicted : (manager.applyControllerCommand session command nowMs reads).1 =
      .ok (.failed sequence .duplicateResultEvicted none) ↔
    ∃ through, active.evictedThrough = some through ∧ sequence ≤ through
  outOfOrder : (manager.applyControllerCommand session command nowMs reads).1 =
      .ok (.failed sequence .outOfOrder (some active.nextCommandSequence)) ↔
    sequence ≠ active.nextCommandSequence ∧ sequence ∉ active.terminal.map TerminalEntry.sequence ∧
      ¬ ∃ through, active.evictedThrough = some through ∧ sequence ≤ through
  exhausted : (manager.applyControllerCommand session command nowMs reads).1 = .error .internalInvariant ↔
    sequence = active.nextCommandSequence ∧ active.nextCommandSequence = u64Max
  unchanged : commandEvents manager session nowMs reads command = [] →
    (manager.applyControllerCommand session command nowMs reads).2.active = some active
  changed : commandEvents manager session nowMs reads command ≠ [] →
    ∀ later ∈ (manager.applyControllerCommand session command nowMs reads).2.active,
      later.id = active.id ∧ later.nextCommandSequence = active.nextCommandSequence + 1

theorem Window.any_evicted_iff (window : Window active) (sequence : Nat) :
    (∃ through, active.evictedThrough = some through ∧ sequence ≤ through) ↔
      sequence + terminalCacheCapacity < active.nextCommandSequence := by
  rw [← window.any_evicted sequence]
  simp [Option.any_eq_true]

/-- The answer as a function of where the sequence number lies in the window. -/
inductive Answer (active : ActiveLease) (sequence : Nat) : CommandOutcome → Prop where
  | executed {lease} (next : sequence = active.nextCommandSequence) (room : active.nextCommandSequence < u64Max) :
      Answer active sequence (.ok (.completed sequence lease))
  | exhausted (next : sequence = active.nextCommandSequence) (last : active.nextCommandSequence = u64Max) :
      Answer active sequence (.error .internalInvariant)
  | ahead (later : active.nextCommandSequence < sequence) :
      Answer active sequence (.ok (.failed sequence .outOfOrder (some active.nextCommandSequence)))
  | evicted (old : sequence + terminalCacheCapacity < active.nextCommandSequence) :
      Answer active sequence (.ok (.failed sequence .duplicateResultEvicted none))
  | replayed {entry} (inside : sequence < active.nextCommandSequence)
      (recent : active.nextCommandSequence ≤ sequence + terminalCacheCapacity) (member : entry ∈ active.terminal)
      (same : entry.sequence = sequence) : Answer active sequence (.ok (terminalResult entry))

theorem applyControllerCommand_answer (mutates : Mutates command leaseId sequence)
    (holds : Holds manager session leaseId nowMs active) (window : Window active) (reads : Entropy) :
    Answer active sequence (manager.applyControllerCommand session command nowMs reads).1 := by
  have bounded := window.bounded
  by_cases executes : admission active sequence = .executeOnce
  · obtain ⟨lease, answer⟩ := applyControllerCommand_executes mutates holds window executes reads
    rw [answer]
    exact .executed (admission_executes.mp executes).1 (admission_executes.mp executes).2
  · rw [applyControllerCommand_refused mutates holds window executes reads]
    unfold admission at executes ⊢
    split_ifs at executes ⊢ with next room later old
    · exact absurd rfl executes
    · exact .exhausted next (by omega)
    · exact .ahead later
    · exact .evicted old
    · have inside : sequence < active.nextCommandSequence := by omega
      have recent := Nat.not_lt.mp old
      obtain ⟨entry, member, same, answer⟩ := resultFromAdmission_replay holds.held window inside recent
      rw [answer]
      exact .replayed inside recent member same

section
variable {outcome : CommandOutcome}

theorem Answer.evicted_iff (answer : Answer active sequence outcome) :
    outcome = .ok (.failed sequence .duplicateResultEvicted none) ↔
      sequence + terminalCacheCapacity < active.nextCommandSequence := by
  cases answer <;> simp [terminalResult_eq] <;> omega

theorem Answer.outOfOrder_iff (answer : Answer active sequence outcome) :
    outcome = .ok (.failed sequence .outOfOrder (some active.nextCommandSequence)) ↔
      active.nextCommandSequence < sequence := by
  cases answer <;> simp [terminalResult_eq] <;> omega

theorem Answer.exhausted_iff (answer : Answer active sequence outcome) :
    outcome = .error .internalInvariant ↔
      sequence = active.nextCommandSequence ∧ active.nextCommandSequence = u64Max := by
  cases answer <;> simp [terminalResult_eq] <;> omega

theorem Answer.replayed_of_cached (answer : Answer active sequence outcome)
    (inside : sequence < active.nextCommandSequence)
    (recent : active.nextCommandSequence ≤ sequence + terminalCacheCapacity) :
    ∃ entry ∈ active.terminal, entry.sequence = sequence ∧ outcome = .ok (terminalResult entry) := by
  cases answer with
  | replayed _ _ member same => exact ⟨_, member, same, rfl⟩
  | executed | exhausted | ahead | evicted => omega

end

theorem changed_of_executed (mutates : Mutates command leaseId sequence)
    (holds : Holds manager session leaseId nowMs active) (window : Window active)
    (executes : admission active sequence = .executeOnce) (reads : Entropy) (later : ActiveLease)
    (held : later ∈ (manager.applyControllerCommand session command nowMs reads).2.active) :
    later.id = active.id ∧ later.nextCommandSequence = active.nextCommandSequence + 1 := by
  rcases mutates with rfl | rfl
  · rw [applyControllerCommand, applyRenew_executes holds window executes] at held
    cases held
    simp [extended]
  · rw [applyControllerCommand, applyRelease_executes holds window executes] at held
    cases held

theorem commandRules (mutates : Mutates command leaseId sequence) (holds : Holds manager session leaseId nowMs active)
    (window : Window active) (reads : Entropy) : CommandRules manager session command sequence nowMs reads active := by
  have executed := commandEvents_ne_nil mutates holds window reads
  have answer := applyControllerCommand_answer mutates holds window reads
  have cached := window.mem_cached sequence
  have old := window.any_evicted_iff sequence
  refine ⟨executed.trans admission_executes, ?_, answer.evicted_iff.trans old.symm, ?_, answer.exhausted_iff, ?_, ?_⟩
  · rw [cached]
    constructor
    · rintro ⟨_, entry, member, same, _⟩
      exact cached.mp (List.mem_map.mpr ⟨entry, member, same⟩)
    · rintro ⟨inside, recent⟩
      refine ⟨?_, answer.replayed_of_cached inside recent⟩
      by_contra busy
      have next := (admission_executes.mp (executed.mp busy)).1
      omega
  · rw [answer.outOfOrder_iff, cached, old]
    omega
  · intro idle
    have refused : admission active sequence ≠ .executeOnce := fun verdict => executed.mpr verdict idle
    rw [applyControllerCommand_refused mutates holds window refused reads]
    exact holds.held
  · exact fun busy => changed_of_executed mutates holds window (executed.mp busy) reads

theorem exhausted_of_internalInvariant (windows : ∀ active ∈ manager.active, Window active)
    (failed : (manager.applyControllerCommand session command nowMs reads).1 = .error .internalInvariant) :
    ∃ active, manager.active = some active ∧ active.nextCommandSequence = u64Max := by
  have mutation : ∀ leaseId sequence, Mutates command leaseId sequence →
      ∃ active, manager.active = some active ∧ active.nextCommandSequence = u64Max := by
    intro leaseId sequence mutates
    by_cases held : ∃ active, Holds manager session leaseId nowMs active
    · obtain ⟨active, holds⟩ := held
      have answer := applyControllerCommand_answer mutates holds (holds.window windows) reads
      exact ⟨active, mem_of_expireIfNeeded holds.held, (answer.exhausted_iff.mp failed).2⟩
    · simp [applyControllerCommand_stale mutates (not_exists.mp held)] at failed
  cases command with
  | acquire =>
    unfold applyControllerCommand applyAcquire at failed
    dsimp only at failed
    split at failed
    · split at failed <;> cases failed
    · split at failed <;> cases failed
  | renew leaseId sequence => exact mutation leaseId sequence (.inl rfl)
  | release leaseId sequence => exact mutation leaseId sequence (.inr rfl)
  | unsupported sequence => cases failed

/-- After any run the executed sequence numbers of the lease are `0 .. n - 1`,
each once; its cache, its eviction mark and the answers to further commands are
those of the window that ends there. -/
theorem leaseRun_window (incarnation : WorkerIncarnationId) (calls : List LeaseCall) :
    let manager := (leaseRun incarnation calls).manager
    let executed := executedSequences (leaseRun incarnation calls).history
    let n := executed.length
    executed = List.range n ∧
    (∀ active, manager.active = some active → active.pending = ∅ ∧ active.nextCommandSequence = n ∧
      active.terminal.map TerminalEntry.sequence = List.range' (n - min n 256) (min n 256) ∧
      active.evictedThrough = if 256 < n then some (n - 256 - 1) else none) ∧
    (∀ session leaseId sequence nowMs reads command proof, (manager.validate session leaseId nowMs).1 = .ok proof →
      command = .renew leaseId sequence ∨ command = .release leaseId sequence →
      ∃ active, manager.active = some active ∧ CommandRules manager session command sequence nowMs reads active) ∧
    (∀ session command nowMs reads,
      (manager.applyControllerCommand session command nowMs reads).1 = .error .internalInvariant →
      ∃ active, manager.active = some active ∧ active.nextCommandSequence = u64Max) := by
  intro manager executed n
  have counted := leaseRun_counted incarnation calls
  refine ⟨counted.inOrder, ?_, ?_, ?_⟩
  · intro active held
    have window := counted.windows active held
    have next : active.nextCommandSequence = n := counted.next active held
    refine ⟨window.pending, next, ?_, ?_⟩
    · rw [window.cached, next]
      rfl
    · rw [window.evicted, next]
      rfl
  · intro session leaseId sequence nowMs reads command proof validated mutates
    obtain ⟨active, holds, _⟩ := validate_ok validated
    exact ⟨active, mem_of_expireIfNeeded holds.held, commandRules mutates holds (holds.window counted.windows) reads⟩
  · exact fun session command nowMs reads failed => exhausted_of_internalInvariant counted.windows failed

/-- A lease with three executed renewals; the second RENEW 1 is a replay. -/
def renewals : List LeaseCall := [
  .controllerCommand ⟨somePeer⟩ .acquire 0 [some (filled 1)],
  .controllerCommand ⟨somePeer⟩ (.renew ⟨filled 1⟩ 0) 1000 [],
  .controllerCommand ⟨somePeer⟩ (.renew ⟨filled 1⟩ 1) 2000 [],
  .controllerCommand ⟨somePeer⟩ (.renew ⟨filled 1⟩ 1) 3000 [],
  .controllerCommand ⟨somePeer⟩ (.renew ⟨filled 1⟩ 2) 4000 []]

theorem leaseRun_window_renewals :
    executedSequences (leaseRun ⟨filled 9⟩ renewals).history = [0, 1, 2] ∧
    ∃ active, (leaseRun ⟨filled 9⟩ renewals).manager.active = some active ∧
      CommandRules (leaseRun ⟨filled 9⟩ renewals).manager ⟨somePeer⟩ (.release ⟨filled 1⟩ 3) 3 5000 [] active :=
  ⟨by decide, (leaseRun_window ⟨filled 9⟩ renewals).2.2.1 ⟨somePeer⟩ ⟨filled 1⟩ 3 5000 [] (.release ⟨filled 1⟩ 3)
    ⟨⟨filled 1⟩, ⟨filled 9⟩, somePeer⟩ (by decide) (.inr rfl)⟩

end PhoneBoost.Worker.Proofs
