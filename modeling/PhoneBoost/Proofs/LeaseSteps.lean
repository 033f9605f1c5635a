import PhoneBoost.Lib.Machine
import PhoneBoost.Worker.Lease

/-! What one call can do to the lease manager. The executed sequence numbers of
a lease form a window: the last ones are cached, the older ones evicted, and
admission only compares a number with that window. -/

namespace PhoneBoost.Worker.Proofs
open ControllerLeaseManager

variable {manager : ControllerLeaseManager} {session : AuthenticatedSession} {leaseId : LeaseId} {nowMs : Nat}

theorem expireIfNeeded_active (manager : ControllerLeaseManager) (nowMs : Nat) :
    (manager.expireIfNeeded nowMs).2.active = manager.active.filter fun active => nowMs < active.expiresAtMs := by
  unfold expireIfNeeded
  cases held : manager.active with
  | none => simp [held]
  | some active =>
    by_cases due : active.expiresAtMs ≤ nowMs
    · simp [due, Option.filter]
    · simp [due, held, Option.filter, Nat.lt_of_not_le due]

@[simp] theorem expireIfNeeded_incarnation (manager : ControllerLeaseManager) (nowMs : Nat) :
    (manager.expireIfNeeded nowMs).2.incarnation = manager.incarnation := by
  unfold expireIfNeeded
  split
  · rfl
  · split <;> rfl

@[simp] theorem expireIfNeeded_released (manager : ControllerLeaseManager) (nowMs : Nat) :
    (manager.expireIfNeeded nowMs).2.released = manager.released := by
  unfold expireIfNeeded
  split
  · rfl
  · split <;> rfl

theorem expireIfNeeded_of_live (live : ∀ active ∈ manager.active, nowMs < active.expiresAtMs) :
    manager.expireIfNeeded nowMs = (none, manager) := by
  unfold expireIfNeeded
  split
  · rfl
  next active held => rw [if_neg (Nat.not_le.mpr (live active held))]

theorem expireIfNeeded_live (manager : ControllerLeaseManager) (nowMs : Nat) :
    ∀ active ∈ (manager.expireIfNeeded nowMs).2.active, nowMs < active.expiresAtMs := by
  intro active held
  rw [expireIfNeeded_active, Option.mem_def, Option.filter_eq_some_iff] at held
  simpa using held.2

@[simp] theorem expireIfNeeded_twice (manager : ControllerLeaseManager) (nowMs : Nat) :
    (manager.expireIfNeeded nowMs).2.expireIfNeeded nowMs = (none, (manager.expireIfNeeded nowMs).2) :=
  expireIfNeeded_of_live (expireIfNeeded_live manager nowMs)

/-- The lease that a session holds at a clock reading. -/
structure Holds (manager : ControllerLeaseManager) (session : AuthenticatedSession) (leaseId : LeaseId) (nowMs : Nat)
    (active : ActiveLease) : Prop where
  held : (manager.expireIfNeeded nowMs).2.active = some active
  id : active.id = leaseId
  peer : active.peerId = session.peerId
  incarnation : active.incarnation = manager.incarnation

@[simp] theorem validate_manager (manager : ControllerLeaseManager) (session : AuthenticatedSession) (leaseId : LeaseId)
    (nowMs : Nat) : (manager.validate session leaseId nowMs).2 = (manager.expireIfNeeded nowMs).2 := by
  unfold validate
  dsimp only
  split
  · rfl
  · split <;> rfl

theorem validate_of_holds {active : ActiveLease} (holds : Holds manager session leaseId nowMs active) :
    manager.validate session leaseId nowMs =
      (.ok ⟨leaseId, active.incarnation, active.peerId⟩, (manager.expireIfNeeded nowMs).2) := by
  simp [validate, holds.held, holds.id, holds.peer, holds.incarnation]

theorem validate_error (none : ∀ active, ¬ Holds manager session leaseId nowMs active) :
    manager.validate session leaseId nowMs = (.error .staleLease, (manager.expireIfNeeded nowMs).2) := by
  unfold validate
  dsimp only
  split
  · rfl
  next active held =>
    split
    · rfl
    next same =>
      simp only [not_or, not_not, expireIfNeeded_incarnation] at same
      exact absurd ⟨held, same.1, same.2.1, same.2.2⟩ (none active)

theorem validate_ok {proof : LeaseProof} (validated : (manager.validate session leaseId nowMs).1 = .ok proof) :
    ∃ active, Holds manager session leaseId nowMs active ∧ proof = ⟨leaseId, active.incarnation, active.peerId⟩ := by
  by_cases holds : ∃ active, Holds manager session leaseId nowMs active
  · obtain ⟨active, holds⟩ := holds
    rw [validate_of_holds holds] at validated
    exact ⟨active, holds, by simpa [eq_comm] using validated⟩
  · rw [validate_error (not_exists.mp holds)] at validated
    cases validated

theorem validate_lease {proof : LeaseProof} {manager' : ControllerLeaseManager}
    (validated : manager.validate session leaseId nowMs = (.ok proof, manager')) : leaseId = proof.leaseId := by
  obtain ⟨active, _, rfl⟩ := validate_ok (congrArg Prod.fst validated)
  rfl

/-- The bookkeeping of executed commands between calls. -/
structure Window (active : ActiveLease) : Prop where
  pending : active.pending = ∅
  cached : active.terminal.map TerminalEntry.sequence =
    List.range' (active.nextCommandSequence - min active.nextCommandSequence terminalCacheCapacity)
      (min active.nextCommandSequence terminalCacheCapacity)
  evicted : active.evictedThrough =
    if terminalCacheCapacity < active.nextCommandSequence then
      some (active.nextCommandSequence - terminalCacheCapacity - 1) else none
  bounded : active.nextCommandSequence ≤ u64Max

variable {active : ActiveLease} {sequence : Nat}

theorem Window.mem_cached (window : Window active) (sequence : Nat) :
    sequence ∈ active.terminal.map TerminalEntry.sequence ↔
      sequence < active.nextCommandSequence ∧ active.nextCommandSequence ≤ sequence + terminalCacheCapacity := by
  rw [window.cached, List.mem_range'_1]
  omega

theorem Window.find_cached (window : Window active) (inside : sequence < active.nextCommandSequence)
    (recent : active.nextCommandSequence ≤ sequence + terminalCacheCapacity) :
    ∃ entry, (active.terminal.find? fun entry => entry.sequence = sequence) = some entry ∧ entry ∈ active.terminal ∧
      entry.sequence = sequence := by
  obtain ⟨entry, member, same⟩ := List.mem_map.mp ((window.mem_cached sequence).mpr ⟨inside, recent⟩)
  cases found : active.terminal.find? fun entry => entry.sequence = sequence with
  | none => simpa [same] using List.find?_eq_none.mp found entry member
  | some entry => exact ⟨entry, rfl, List.mem_of_find?_eq_some found, by simpa using List.find?_some found⟩

theorem Window.find_uncached (window : Window active)
    (outside : active.nextCommandSequence ≤ sequence ∨ sequence + terminalCacheCapacity < active.nextCommandSequence) :
    (active.terminal.find? fun entry => entry.sequence = sequence) = none := by
  rw [List.find?_eq_none]
  intro entry member same
  have cached := (window.mem_cached sequence).mp (List.mem_map.mpr ⟨entry, member, by simpa using same⟩)
  omega

theorem Window.any_evicted (window : Window active) (sequence : Nat) :
    (active.evictedThrough.any fun evicted => sequence ≤ evicted) = true ↔
      sequence + terminalCacheCapacity < active.nextCommandSequence := by
  rw [window.evicted]
  split
  · simp only [Option.any_some, decide_eq_true_eq]
    omega
  · simp only [Option.any_none, Bool.false_eq_true, false_iff]
    omega

/-- The verdict on a sequence number, read off the window. -/
def admission (active : ActiveLease) (sequence : Nat) : CommandAdmission :=
  if sequence = active.nextCommandSequence then
    if active.nextCommandSequence < u64Max then .executeOnce else .sequenceExhausted
  else if active.nextCommandSequence < sequence then .outOfOrder active.nextCommandSequence
  else if sequence + terminalCacheCapacity < active.nextCommandSequence then .duplicateResultEvicted
  else .replay .ok

theorem Holds.expired (holds : Holds manager session leaseId nowMs active) :
    Holds (manager.expireIfNeeded nowMs).2 session leaseId nowMs active :=
  ⟨by rw [expireIfNeeded_twice]; exact holds.held, holds.id, holds.peer, by simpa using holds.incarnation⟩

theorem beginMutationInternal_of_holds (holds : Holds manager session leaseId nowMs active) (window : Window active)
    (sequence : Nat) :
    manager.beginMutationInternal session leaseId sequence nowMs =
      (admission active sequence, if admission active sequence = .executeOnce then
        { (manager.expireIfNeeded nowMs).2 with
          active := some { active with pending := {sequence}, nextCommandSequence := sequence + 1 } }
        else (manager.expireIfNeeded nowMs).2) := by
  unfold beginMutationInternal
  simp only [validate_of_holds holds, holds.held]
  unfold admission
  rcases Nat.lt_trichotomy sequence active.nextCommandSequence with before | same | after
  · by_cases old : sequence + terminalCacheCapacity < active.nextCommandSequence
    · rw [window.find_uncached (.inr old)]
      simp [(window.any_evicted sequence).mpr old, before.ne, old, Nat.not_lt.mpr before.le]
    · obtain ⟨entry, found, _⟩ := window.find_cached before (Nat.not_lt.mp old)
      rw [found]
      cases code : entry.code
      simp [before.ne, old, Nat.not_lt.mpr before.le]
  · subst sequence
    rw [window.find_uncached (.inl le_rfl)]
    dsimp only
    rw [if_neg (mt (window.any_evicted _).mp (by omega)), window.pending]
    have capacity : ¬ pendingMutationCapacity ≤ 0 := by decide
    by_cases room : active.nextCommandSequence < u64Max
    · have next : checkedAdd active.nextCommandSequence 1 = some (active.nextCommandSequence + 1) := if_pos room
      simp [capacity, next, room]
    · have next : checkedAdd active.nextCommandSequence 1 = none := if_neg room
      simp [capacity, next, room]
  · rw [window.find_uncached (.inl after.le)]
    dsimp only
    rw [if_neg (mt (window.any_evicted _).mp (by omega)), window.pending]
    simp [after.ne', after]

/-- The lease after its next command has executed with the given result. -/
def advance (active : ActiveLease) (lease : Option ControllerLeaseRef) : ActiveLease :=
  trimTerminalCache { active with
    nextCommandSequence := active.nextCommandSequence + 1
    terminal := active.terminal ++ [⟨active.nextCommandSequence, .ok, lease⟩] }

theorem trimTerminalCache_frame (active : ActiveLease) :
    (trimTerminalCache active).id = active.id ∧ (trimTerminalCache active).peerId = active.peerId ∧
    (trimTerminalCache active).incarnation = active.incarnation ∧
    (trimTerminalCache active).expiresAtMs = active.expiresAtMs ∧
    (trimTerminalCache active).nextCommandSequence = active.nextCommandSequence ∧
    (trimTerminalCache active).pending = active.pending := by
  unfold trimTerminalCache
  split
  · split <;> exact ⟨rfl, rfl, rfl, rfl, rfl, rfl⟩
  · exact ⟨rfl, rfl, rfl, rfl, rfl, rfl⟩

@[simp] theorem advance_id (active : ActiveLease) (lease : Option ControllerLeaseRef) :
    (advance active lease).id = active.id := (trimTerminalCache_frame _).1

@[simp] theorem advance_peerId (active : ActiveLease) (lease : Option ControllerLeaseRef) :
    (advance active lease).peerId = active.peerId := (trimTerminalCache_frame _).2.1

@[simp] theorem advance_incarnation (active : ActiveLease) (lease : Option ControllerLeaseRef) :
    (advance active lease).incarnation = active.incarnation := (trimTerminalCache_frame _).2.2.1

@[simp] theorem advance_expiresAtMs (active : ActiveLease) (lease : Option ControllerLeaseRef) :
    (advance active lease).expiresAtMs = active.expiresAtMs := (trimTerminalCache_frame _).2.2.2.1

@[simp] theorem advance_nextCommandSequence (active : ActiveLease) (lease : Option ControllerLeaseRef) :
    (advance active lease).nextCommandSequence = active.nextCommandSequence + 1 := (trimTerminalCache_frame _).2.2.2.2.1

theorem completeActive_of_window (window : Window active) (lease : Option ControllerLeaseRef) :
    completeActive { active with
      pending := {active.nextCommandSequence}
      nextCommandSequence := active.nextCommandSequence + 1 } active.nextCommandSequence lease =
      some (advance active lease) := by
  have empty : ({active.nextCommandSequence} : Finset Nat).erase active.nextCommandSequence = active.pending := by
    rw [window.pending, Finset.erase_singleton]
  rw [completeActive, if_pos (Finset.mem_singleton_self _)]
  simp only [empty, advance]

theorem Window.length_terminal (window : Window active) :
    active.terminal.length = min active.nextCommandSequence terminalCacheCapacity := by
  rw [← List.length_map, window.cached, List.length_range']

theorem mem_advance_terminal {active : ActiveLease} {lease : Option ControllerLeaseRef} {entry : TerminalEntry}
    (member : entry ∈ (advance active lease).terminal) :
    entry ∈ active.terminal ∨ entry = ⟨active.nextCommandSequence, .ok, lease⟩ := by
  have kept : ∀ active : ActiveLease, ∀ entry ∈ (trimTerminalCache active).terminal, entry ∈ active.terminal := by
    intro active entry member
    unfold trimTerminalCache at member
    split at member
    · split at member
      · exact member
      next terminal => exact terminal ▸ List.mem_cons_of_mem _ member
    · exact member
  simpa using kept _ entry member

theorem Window.advance_young (window : Window active) (young : active.nextCommandSequence < terminalCacheCapacity)
    (lease : Option ControllerLeaseRef) :
    advance active lease = { active with
      nextCommandSequence := active.nextCommandSequence + 1
      terminal := active.terminal ++ [⟨active.nextCommandSequence, .ok, lease⟩] } := by
  have length := window.length_terminal
  exact if_neg (by simp only [List.length_append, List.length_singleton]; omega)

theorem Window.advance_full (window : Window active) (full : terminalCacheCapacity ≤ active.nextCommandSequence)
    (lease : Option ControllerLeaseRef) :
    ∃ rest, rest.map TerminalEntry.sequence =
        List.range' (active.nextCommandSequence - terminalCacheCapacity + 1) (terminalCacheCapacity - 1) ∧
      advance active lease = { active with
        nextCommandSequence := active.nextCommandSequence + 1
        terminal := rest ++ [⟨active.nextCommandSequence, .ok, lease⟩]
        evictedThrough := some (active.nextCommandSequence - terminalCacheCapacity) } := by
  have length := window.length_terminal
  have cached := window.cached
  rw [Nat.min_eq_right full] at cached length
  cases terminal : active.terminal with
  | nil =>
    rw [terminal, List.length_nil] at length
    exact absurd length (by decide)
  | cons oldest rest =>
    have split : ∀ first count, 0 < count → List.range' first count = first :: List.range' (first + 1) (count - 1) := by
      intro first count positive
      obtain ⟨count, rfl⟩ := Nat.exists_eq_add_of_lt positive
      simp [List.range'_succ]
    rw [terminal, split _ _ (by decide), List.map_cons, List.cons.injEq] at cached
    refine ⟨rest, cached.2, ?_⟩
    rw [← cached.1, advance, trimTerminalCache, if_pos (by simp [terminal] at length ⊢; omega)]
    simp [terminal]

theorem Window.advance (window : Window active) (room : active.nextCommandSequence < u64Max)
    (lease : Option ControllerLeaseRef) : Window (Proofs.advance active lease) := by
  have cached := window.cached
  rcases Nat.lt_or_ge active.nextCommandSequence terminalCacheCapacity with young | full
  · rw [window.advance_young young]
    refine ⟨window.pending, ?_, ?_, room⟩
    · rw [Nat.min_eq_left young.le] at cached
      simp [cached, Nat.min_eq_left young, List.range'_concat]
    · simp [window.evicted, Nat.not_lt.mpr young.le, Nat.not_lt.mpr young]
  · obtain ⟨rest, kept, same⟩ := window.advance_full full lease
    rw [same]
    refine ⟨window.pending, ?_, ?_, room⟩
    · dsimp only
      have positive : 0 < terminalCacheCapacity := by decide
      generalize terminalCacheCapacity = capacity at full kept positive ⊢
      obtain ⟨count, rfl⟩ : ∃ count, capacity = count + 1 := ⟨capacity - 1, by omega⟩
      have first : active.nextCommandSequence + 1 - min (active.nextCommandSequence + 1) (count + 1) =
          active.nextCommandSequence - (count + 1) + 1 := by omega
      have last : active.nextCommandSequence - (count + 1) + 1 + count = active.nextCommandSequence := by omega
      rw [first, Nat.min_eq_right (by omega), List.range'_1_concat, last, List.map_append, kept]
      rfl
    · dsimp only
      rw [if_pos (by omega), Nat.sub_right_comm, Nat.add_sub_cancel]

/-- RENEW and RELEASE go through the same admission. -/
def Mutates (command : ControllerCommand) (leaseId : LeaseId) (sequence : Nat) : Prop :=
  command = .renew leaseId sequence ∨ command = .release leaseId sequence

/-- Without a lease that holds, both are answered from the released one. -/
theorem applyControllerCommand_stale {command : ControllerCommand} (mutates : Mutates command leaseId sequence)
    (stale : ∀ active, ¬ Holds manager session leaseId nowMs active) (reads : Entropy) :
    manager.applyControllerCommand session command nowMs reads =
      (.ok ((manager.expireIfNeeded nowMs).2.releasedAdmission session leaseId sequence), (manager.expireIfNeeded nowMs).2) := by
  have after : ∀ active, ¬ Holds (manager.expireIfNeeded nowMs).2 session leaseId nowMs active := by
    intro active holds
    exact stale active ⟨by simpa using holds.held, holds.id, holds.peer, by simpa using holds.incarnation⟩
  rcases mutates with rfl | rfl
  · simp [applyControllerCommand, applyRenew, validate_error after]
  · simp [applyControllerCommand, applyRelease, validate_error after]

theorem applyControllerCommand_refused {command : ControllerCommand} (mutates : Mutates command leaseId sequence)
    (holds : Holds manager session leaseId nowMs active) (window : Window active)
    (refused : admission active sequence ≠ .executeOnce) (reads : Entropy) :
    manager.applyControllerCommand session command nowMs reads =
      ((manager.expireIfNeeded nowMs).2.resultFromAdmission (admission active sequence) sequence,
        (manager.expireIfNeeded nowMs).2) := by
  rcases mutates with rfl | rfl <;>
  · simp only [applyControllerCommand, applyRenew, applyRelease, validate_of_holds holds.expired, expireIfNeeded_twice]
    rw [beginMutationInternal_of_holds holds.expired window, if_neg refused, expireIfNeeded_twice]
    cases verdict : admission active sequence <;> first | rfl | exact absurd verdict refused

/-- The lease with the expiry that a RENEW at the clock reading gives it. -/
def extended (active : ActiveLease) (nowMs : Nat) : ActiveLease :=
  { active with expiresAtMs := saturatingAdd nowMs leaseTtlMs }

/-- The window only depends on the bookkeeping fields. -/
theorem Window.congr {other : ActiveLease} (window : Window active)
    (next : other.nextCommandSequence = active.nextCommandSequence) (pending : other.pending = active.pending)
    (terminal : other.terminal = active.terminal) (evicted : other.evictedThrough = active.evictedThrough) :
    Window other := by
  constructor
  · rw [pending, window.pending]
  · rw [terminal, next, window.cached]
  · rw [evicted, next, window.evicted]
  · rw [next]
    exact window.bounded

theorem Window.extended (window : Window active) (nowMs : Nat) : Window (extended active nowMs) :=
  window.congr rfl rfl rfl rfl

theorem admission_executes : admission active sequence = .executeOnce ↔
    sequence = active.nextCommandSequence ∧ active.nextCommandSequence < u64Max := by
  unfold admission
  split_ifs <;> simp_all

/-- The lease reference that an executed RENEW returns. -/
def renewedRef (active : ActiveLease) (nowMs : Nat) : ControllerLeaseRef :=
  { leaseRef (extended active nowMs) nowMs with nextCommandSeq := active.nextCommandSequence + 1 }

theorem applyRenew_executes (holds : Holds manager session leaseId nowMs active) (window : Window active)
    (executes : admission active sequence = .executeOnce) :
    manager.applyRenew session leaseId sequence nowMs =
      (.ok (.completed sequence (some (renewedRef active nowMs))), { (manager.expireIfNeeded nowMs).2 with
        active := some (advance (extended active nowMs) (some (renewedRef active nowMs))) }) := by
  obtain ⟨rfl, _⟩ := admission_executes.mp executes
  have completed := completeActive_of_window (window.extended nowMs) (some (renewedRef active nowMs))
  simp only [applyRenew, validate_of_holds holds.expired, expireIfNeeded_twice]
  rw [beginMutationInternal_of_holds holds.expired window, executes, if_pos rfl]
  dsimp only
  simp only [extended, renewedRef, leaseRef] at completed ⊢
  rw [completed]
  simp

theorem applyRelease_executes (holds : Holds manager session leaseId nowMs active) (window : Window active)
    (executes : admission active sequence = .executeOnce) :
    manager.applyRelease session leaseId sequence nowMs =
      (.ok (.completed sequence none), { (manager.expireIfNeeded nowMs).2 with
        active := none
        released := some (advance active none)
        state := .free
        lastTransition := some .revokingToFree }) := by
  obtain ⟨rfl, _⟩ := admission_executes.mp executes
  have completed := completeActive_of_window window none
  simp only [applyRelease, validate_of_holds holds.expired, expireIfNeeded_twice]
  rw [beginMutationInternal_of_holds holds.expired window, executes, if_pos rfl]
  dsimp only
  rw [completed]
  simp

def filled (byte : UInt8) : Bytes16 := Vector.replicate 16 byte

def somePeer : PeerId := ⟨Vector.replicate 32 7⟩

end PhoneBoost.Worker.Proofs
