import Mathlib.Algebra.Order.Ring.Nat
import PhoneBoost.Proofs.LeaseWindow

/-! Who may act, and until when, as a function of the history alone. A session
validates exactly between the acquisition of its lease and a deadline that only
executed renewals move. -/

namespace PhoneBoost.Worker.Proofs
open ControllerLeaseManager

namespace LeaseEvent

def leaseId : LeaseEvent → LeaseId
  | .acquired _ leaseId _ | .renewed leaseId _ _ | .released leaseId _ _ => leaseId

def nowMs : LeaseEvent → Nat
  | .acquired _ _ nowMs | .renewed _ _ nowMs | .released _ _ nowMs => nowMs

end LeaseEvent

def laterRenewal (leaseId : LeaseId) (last : Nat) : LeaseEvent → Nat
  | .renewed id _ nowMs => if id = leaseId then max last nowMs else last
  | .acquired _ _ _ | .released _ _ _ => last

/-- The later of the acquisition and the last executed RENEW of a lease. -/
def lastRenewal (history : List LeaseEvent) (leaseId : LeaseId) (acquiredMs : Nat) : Nat :=
  history.foldl (laterRenewal leaseId) acquiredMs

/-- The authority that the history gives to a session. -/
def Authorized (history : List LeaseEvent) (session : AuthenticatedSession) (leaseId : LeaseId) (nowMs : Nat) : Prop :=
  ∃ acquiredMs, .acquired session.peerId leaseId acquiredMs ∈ history ∧
    (∀ sequence releasedMs, .released leaseId sequence releasedMs ∉ history) ∧
    nowMs < lastRenewal history leaseId acquiredMs + leaseTtlMs

theorem lastRenewal_append (history events : List LeaseEvent) (leaseId : LeaseId) (acquiredMs : Nat) :
    lastRenewal (history ++ events) leaseId acquiredMs =
      events.foldl (laterRenewal leaseId) (lastRenewal history leaseId acquiredMs) := by
  simp [lastRenewal]

theorem lastRenewal_of_unknown {history : List LeaseEvent} {leaseId : LeaseId} (acquiredMs : Nat)
    (unknown : ∀ event ∈ history, event.leaseId ≠ leaseId) : lastRenewal history leaseId acquiredMs = acquiredMs := by
  unfold lastRenewal
  induction history generalizing acquiredMs with
  | nil => rfl
  | cons event history ih =>
    have head : laterRenewal leaseId acquiredMs event = acquiredMs := by
      have different := unknown event (by simp)
      cases event <;> simp_all [laterRenewal, LeaseEvent.leaseId]
    rw [List.foldl_cons, head]
    exact ih acquiredMs fun other member => unknown other (by simp [member])

theorem lastRenewal_le {history : List LeaseEvent} {leaseId : LeaseId} {acquiredMs lastMs : Nat}
    (past : ∀ event ∈ history, event.nowMs ≤ lastMs) (acquired : acquiredMs ≤ lastMs) :
    lastRenewal history leaseId acquiredMs ≤ lastMs := by
  unfold lastRenewal
  induction history generalizing acquiredMs with
  | nil => exact acquired
  | cons event history ih =>
    rw [List.foldl_cons]
    apply ih fun other member => past other (by simp [member])
    have bound := past event (by simp)
    cases event with
    | acquired | released => exact acquired
    | renewed =>
      simp only [laterRenewal]
      split
      · exact Nat.max_le.mpr ⟨acquired, bound⟩
      · exact acquired

/-- The manager holds exactly the lease that the history makes current. -/
structure Authority (ids : List Bytes16) (lastMs : Nat) (manager : ControllerLeaseManager) (history : List LeaseEvent) :
    Prop where
  known : ∀ event ∈ history, event.leaseId.bytes ∈ ids
  past : ∀ event ∈ history, event.nowMs ≤ lastMs
  incarnation : ∀ active ∈ manager.active, active.incarnation = manager.incarnation
  acquired : ∀ active ∈ manager.active, ∃ acquiredMs, .acquired active.peerId active.id acquiredMs ∈ history
  unreleased : ∀ active ∈ manager.active, ∀ sequence releasedMs, .released active.id sequence releasedMs ∉ history
  deadline : ∀ active ∈ manager.active, ∀ peerId acquiredMs, .acquired peerId active.id acquiredMs ∈ history →
    peerId = active.peerId ∧ active.expiresAtMs = lastRenewal history active.id acquiredMs + leaseTtlMs
  former : ∀ peerId leaseId acquiredMs, .acquired peerId leaseId acquiredMs ∈ history →
    (∀ active ∈ manager.active, active.id ≠ leaseId) →
    (∃ sequence releasedMs, .released leaseId sequence releasedMs ∈ history) ∨
      lastRenewal history leaseId acquiredMs + leaseTtlMs ≤ lastMs

variable {ids : List Bytes16} {lastMs nowMs : Nat} {manager : ControllerLeaseManager} {history : List LeaseEvent}

theorem Authority.later (authority : Authority ids lastMs manager history) (later : lastMs ≤ nowMs) :
    Authority ids nowMs manager history where
  known := authority.known
  past := fun event member => (authority.past event member).trans later
  incarnation := authority.incarnation
  acquired := authority.acquired
  unreleased := authority.unreleased
  deadline := authority.deadline
  former := fun peerId leaseId acquiredMs member gone =>
    (authority.former peerId leaseId acquiredMs member gone).imp_right fun passed => passed.trans later

theorem Authority.expire (authority : Authority ids lastMs manager history) (later : lastMs ≤ nowMs) :
    Authority ids nowMs (manager.expireIfNeeded nowMs).2 history where
  known := authority.known
  past := fun event member => (authority.past event member).trans later
  incarnation := fun active held => by
    rw [expireIfNeeded_incarnation]
    exact authority.incarnation active (mem_of_expireIfNeeded held)
  acquired := fun active held => authority.acquired active (mem_of_expireIfNeeded held)
  unreleased := fun active held => authority.unreleased active (mem_of_expireIfNeeded held)
  deadline := fun active held => authority.deadline active (mem_of_expireIfNeeded held)
  former := by
    intro peerId leaseId acquiredMs member gone
    by_cases current : ∃ active ∈ manager.active, active.id = leaseId
    · obtain ⟨active, held, rfl⟩ := current
      right
      rw [← (authority.deadline active held peerId acquiredMs member).2]
      by_contra live
      refine gone active ?_ rfl
      rw [expireIfNeeded_active, Option.mem_def, Option.filter_eq_some_iff]
      exact ⟨held, by simpa using live⟩
    · refine (authority.former peerId leaseId acquiredMs member fun active held same => ?_).imp_right fun passed =>
        passed.trans later
      exact current ⟨active, held, same⟩

private theorem lastRenewal_concat_renewed (history : List LeaseEvent) (leaseId other : LeaseId)
    (sequence nowMs acquiredMs : Nat) :
    lastRenewal (history ++ [.renewed leaseId sequence nowMs]) other acquiredMs =
      if leaseId = other then max (lastRenewal history other acquiredMs) nowMs
      else lastRenewal history other acquiredMs := by
  simp [lastRenewal_append, laterRenewal]

private theorem lastRenewal_concat_quiet (history : List LeaseEvent) (event : LeaseEvent) (leaseId : LeaseId)
    (acquiredMs : Nat) (quiet : ∀ id sequence nowMs, event ≠ .renewed id sequence nowMs) :
    lastRenewal (history ++ [event]) leaseId acquiredMs = lastRenewal history leaseId acquiredMs := by
  rw [lastRenewal_append]
  cases event with
  | acquired | released => rfl
  | renewed id sequence nowMs => exact absurd rfl (quiet id sequence nowMs)

theorem Authority.record (authority : Authority ids lastMs manager history) (event : LeaseEvent) {more : List Bytes16}
    (id : event.leaseId.bytes ∈ ids ++ more) (now : event.nowMs ≤ lastMs) :
    (∀ event' ∈ history ++ [event], event'.leaseId.bytes ∈ ids ++ more) ∧
    ∀ event' ∈ history ++ [event], event'.nowMs ≤ lastMs := by
  constructor <;> intro other member <;> rcases List.mem_append.mp member with old | new
  · exact List.mem_append_left _ (authority.known other old)
  · rw [List.mem_singleton.mp new]
    exact id
  · exact authority.past other old
  · rw [List.mem_singleton.mp new]
    exact now

theorem Authority.acquire (authority : Authority ids nowMs manager history) (free : manager.active = none)
    {after : ControllerLeaseManager} {active : ActiveLease} {peerId : PeerId} {leaseId : LeaseId} {more : List Bytes16}
    (held : after.active = some active) (peer : active.peerId = peerId) (id : active.id = leaseId)
    (incarnation : active.incarnation = after.incarnation) (drawn : leaseId.bytes ∈ more) (fresh : leaseId.bytes ∉ ids)
    (expires : active.expiresAtMs = nowMs + leaseTtlMs) :
    Authority (ids ++ more) nowMs after (history ++ [.acquired peerId leaseId nowMs]) := by
  subst peer id
  have unknown : ∀ event ∈ history, event.leaseId ≠ active.id := fun event member same =>
    fresh (same ▸ authority.known event member)
  have quiet := fun leaseId acquiredMs =>
    lastRenewal_concat_quiet history (.acquired active.peerId active.id nowMs) leaseId acquiredMs (by simp)
  obtain ⟨known, past⟩ := authority.record (.acquired active.peerId active.id nowMs)
    (List.mem_append_right ids drawn) le_rfl
  refine ⟨known, past, ?_, ?_, ?_, ?_, ?_⟩
  all_goals rw [held]
  · rintro _ ⟨⟩
    exact incarnation
  · rintro _ ⟨⟩
    exact ⟨nowMs, by simp⟩
  · rintro _ ⟨⟩ sequence releasedMs member
    rcases List.mem_append.mp member with old | new
    · exact unknown _ old rfl
    · simp at new
  · rintro _ ⟨⟩ peerId acquiredMs member
    rcases List.mem_append.mp member with old | new
    · exact absurd rfl (unknown _ old)
    · simp only [List.mem_singleton, LeaseEvent.acquired.injEq, true_and] at new
      rw [quiet, new.2, lastRenewal_of_unknown _ unknown]
      exact ⟨new.1, expires⟩
  · intro peerId leaseId acquiredMs member gone
    rcases List.mem_append.mp member with old | new
    · rw [quiet]
      refine (authority.former peerId leaseId acquiredMs old (by simp [free])).imp_left ?_
      rintro ⟨sequence, releasedMs, released⟩
      exact ⟨sequence, releasedMs, List.mem_append_left _ released⟩
    · simp only [List.mem_singleton, LeaseEvent.acquired.injEq] at new
      exact absurd new.2.1.symm (gone active rfl)

theorem Authority.renew (authority : Authority ids nowMs manager history) {active : ActiveLease}
    (held : manager.active = some active) {after : ControllerLeaseManager} {renewed : ActiveLease}
    (renewal : after.active = some renewed) (incarnation : renewed.incarnation = after.incarnation)
    (peer : renewed.peerId = active.peerId) (id : renewed.id = active.id)
    (expires : renewed.expiresAtMs = nowMs + leaseTtlMs) (sequence : Nat) (more : List Bytes16) :
    Authority (ids ++ more) nowMs after (history ++ [.renewed active.id sequence nowMs]) := by
  have earlier : ∀ {event}, event ∈ history ++ [.renewed active.id sequence nowMs] →
      (∀ id number now, event ≠ .renewed id number now) → event ∈ history := by
    intro event member different
    rcases List.mem_append.mp member with old | new
    · exact old
    · exact absurd (List.mem_singleton.mp new) (different _ _ _)
  obtain ⟨firstMs, first⟩ := authority.acquired active held
  have seen : active.id.bytes ∈ ids ++ more := List.mem_append_left _ (authority.known _ first)
  obtain ⟨known, past⟩ := authority.record (.renewed active.id sequence nowMs) seen le_rfl
  refine ⟨known, past, ?_, ?_, ?_, ?_, ?_⟩
  all_goals rw [renewal]
  · rintro _ ⟨⟩
    exact incarnation
  · rintro _ ⟨⟩
    exact ⟨firstMs, by simp [peer, id, first]⟩
  · rintro _ ⟨⟩ number releasedMs member
    rw [id] at member
    exact authority.unreleased active held number releasedMs (earlier member (by simp))
  · rintro _ ⟨⟩ peerId acquiredMs member
    rw [id] at member ⊢
    have old := earlier member (by simp)
    have last : lastRenewal history active.id acquiredMs ≤ nowMs :=
      lastRenewal_le authority.past (authority.past _ old)
    rw [lastRenewal_concat_renewed, if_pos rfl, expires, peer, Nat.max_eq_right last]
    exact ⟨(authority.deadline active held peerId acquiredMs old).1, rfl⟩
  · intro peerId leaseId acquiredMs member gone
    have different : active.id ≠ leaseId := id ▸ gone renewed rfl
    rw [lastRenewal_concat_renewed, if_neg different]
    refine (authority.former peerId leaseId acquiredMs (earlier member (by simp)) ?_).imp_left ?_
    · rw [held]
      rintro _ ⟨⟩
      exact different
    · rintro ⟨number, releasedMs, released⟩
      exact ⟨number, releasedMs, List.mem_append_left _ released⟩

theorem Authority.release (authority : Authority ids nowMs manager history) {active : ActiveLease}
    (held : manager.active = some active) {after : ControllerLeaseManager} (gone : after.active = none)
    (sequence : Nat) (more : List Bytes16) :
    Authority (ids ++ more) nowMs after (history ++ [.released active.id sequence nowMs]) := by
  obtain ⟨firstMs, first⟩ := authority.acquired active held
  have seen : active.id.bytes ∈ ids ++ more := List.mem_append_left _ (authority.known _ first)
  obtain ⟨known, past⟩ := authority.record (.released active.id sequence nowMs) seen le_rfl
  refine ⟨known, past, by simp [gone], by simp [gone], by simp [gone], by simp [gone], ?_⟩
  intro peerId leaseId acquiredMs member _
  rw [lastRenewal_concat_quiet _ _ _ _ (by simp)]
  by_cases same : active.id = leaseId
  · exact .inl ⟨sequence, nowMs, by simp [same]⟩
  · rcases List.mem_append.mp member with old | new
    · refine (authority.former peerId leaseId acquiredMs old ?_).imp_left ?_
      · rw [held]
        rintro _ ⟨⟩
        exact same
      · rintro ⟨number, releasedMs, released⟩
        exact ⟨number, releasedMs, List.mem_append_left _ released⟩
    · simp at new

theorem Authority.extend {after : ControllerLeaseManager} {events : List LeaseEvent} {reads : Entropy}
    (authority : Authority ids lastMs manager history) (later : lastMs ≤ nowMs) (fits : nowMs + leaseTtlMs ≤ u64Max)
    (fresh : ∀ id ∈ ids, id ∉ drawn reads) (step : LeaseStep nowMs reads manager after events) :
    Authority (ids ++ drawn reads) nowMs after (history ++ events) := by
  have expired := authority.expire later
  have widen : ∀ {manager}, Authority ids nowMs manager history → Authority (ids ++ drawn reads) nowMs manager (history ++ []) :=
    fun {manager} held => by
      rw [List.append_nil]
      exact { held with known := fun event member => List.mem_append_left _ (held.known event member) }
  cases step with
  | keep same => exact same ▸ widen (authority.later later)
  | expire same => exact same ▸ widen expired
  | acquire free member same =>
    subst same
    exact expired.acquire free rfl rfl rfl (expireIfNeeded_incarnation manager nowMs).symm member
      (fun known => fresh _ known member) (saturatingAdd_of_le fits)
  | @renew active session leaseId holds room same =>
    subst same
    rw [← holds.id]
    refine expired.renew holds.held rfl ?_ ?_ ?_ ?_ active.nextCommandSequence _
    · simpa [extended] using holds.incarnation
    · simp [extended]
    · simp [extended]
    · rw [advance_expiresAtMs]
      exact saturatingAdd_of_le fits
  | @release active session leaseId holds room same =>
    subst same
    rw [← holds.id]
    exact expired.release holds.held rfl _ _

/-- Clock readings below `2^63` that do not decrease, and fresh lease identifiers. -/
structure SteadyLeases (calls : List LeaseCall) : Prop where
  fresh : Machine.Distinct (fun call => drawn call.reads) calls
  ordered : calls.Pairwise fun earlier later => earlier.nowMs ≤ later.nowMs
  bounded : ∀ call ∈ calls, call.nowMs < 2 ^ 63

theorem SteadyLeases.shorter (calls : List LeaseCall) (call : LeaseCall) (steady : SteadyLeases (calls ++ [call])) :
    SteadyLeases calls where
  fresh := steady.fresh.shorter
  ordered := (List.pairwise_append.mp steady.ordered).1
  bounded := fun other member => steady.bounded other (by simp [member])

theorem SteadyLeases.before {calls : List LeaseCall} {call : LeaseCall} (steady : SteadyLeases (calls ++ [call])) :
    ∀ earlier ∈ calls, earlier.nowMs ≤ call.nowMs := fun earlier member =>
  (List.pairwise_append.mp steady.ordered).2.2 earlier member call (by simp)

theorem ttl_fits {nowMs : Nat} (bounded : nowMs < 2 ^ 63) : nowMs + leaseTtlMs ≤ u64Max := by
  simp only [leaseTtlMs, u64Max]
  omega

/-- Cached results were built at their execution, with a full lifetime. -/
def FullRefs (manager : ControllerLeaseManager) : Prop :=
  ∀ lease, lease ∈ manager.active ∨ lease ∈ manager.released → ∀ entry ∈ lease.terminal, ∀ ref ∈ entry.lease,
    ref.ttlRemainingMs = leaseTtlMs

theorem leaseRef_full {active : ActiveLease} (fits : nowMs + leaseTtlMs ≤ u64Max)
    (expires : active.expiresAtMs = saturatingAdd nowMs leaseTtlMs) :
    (leaseRef active nowMs).ttlRemainingMs = leaseTtlMs := by
  simp only [leaseRef, expires, saturatingAdd_of_le fits, Nat.add_sub_cancel_left]
  rfl

theorem renewedRef_ttl {active : ActiveLease} (fits : nowMs + leaseTtlMs ≤ u64Max) :
    (renewedRef active nowMs).ttlRemainingMs = leaseTtlMs := by
  show (leaseRef (extended active nowMs) nowMs).ttlRemainingMs = leaseTtlMs
  exact leaseRef_full fits rfl

theorem FullRefs.extend {after : ControllerLeaseManager} {events : List LeaseEvent} {reads : Entropy}
    (refs : FullRefs manager) (fits : nowMs + leaseTtlMs ≤ u64Max) (step : LeaseStep nowMs reads manager after events) :
    FullRefs after := by
  have expired : FullRefs (manager.expireIfNeeded nowMs).2 := by
    intro lease held
    rw [expireIfNeeded_released] at held
    exact refs lease (held.imp_left mem_of_expireIfNeeded)
  cases step with
  | keep same => rwa [same]
  | expire same => rwa [same]
  | acquire _ _ same =>
    subst same
    rintro lease (⟨⟨⟩⟩ | ⟨⟨⟩⟩) entry member
    cases member
  | renew holds _ same =>
    subst same
    rintro lease (⟨⟨⟩⟩ | held) entry member ref present
    · rcases mem_advance_terminal member with old | rfl
      · exact expired _ (.inl holds.held) entry old ref present
      · cases present
        exact renewedRef_ttl fits
    · exact expired lease (.inr held) entry member ref present
  | release holds _ same =>
    subst same
    rintro lease (⟨⟨⟩⟩ | ⟨⟨⟩⟩) entry member ref present
    rcases mem_advance_terminal member with old | rfl
    · exact expired _ (.inl holds.held) entry old ref present
    · cases present

/-- At every reading from the last call on, the history tells who has authority. -/
structure Governed (calls : List LeaseCall) (tracked : Tracked) : Prop where
  windows : ∀ active ∈ tracked.manager.active, Window active
  refs : FullRefs tracked.manager
  authority : ∀ nowMs, (∀ call ∈ calls, call.nowMs ≤ nowMs) →
    Authority (calls.flatMap fun call => drawn call.reads) nowMs tracked.manager tracked.history

theorem Governed.step (calls : List LeaseCall) (call : LeaseCall) (tracked : Tracked)
    (steady : SteadyLeases (calls ++ [call])) (governed : Governed calls tracked) :
    Governed (calls ++ [call]) (tracked.step call) := by
  have step := LeaseCall.step governed.windows call
  have fits := ttl_fits (steady.bounded call (by simp))
  refine ⟨step.windows governed.windows, governed.refs.extend fits step, fun nowMs later => ?_⟩
  have extended := (governed.authority call.nowMs steady.before).extend le_rfl fits
    (fun id known => steady.fresh.unseen known) step
  rw [List.flatMap_append, List.flatMap_singleton]
  exact extended.later (later call (by simp))

theorem leaseRun_governed (incarnation : WorkerIncarnationId) (calls : List LeaseCall) (steady : SteadyLeases calls) :
    Governed calls (leaseRun incarnation calls) := by
  apply Machine.run_induction SteadyLeases Governed SteadyLeases.shorter _ Governed.step calls steady
  exact ⟨by simp [ControllerLeaseManager.new], by simp [FullRefs, ControllerLeaseManager.new],
    fun nowMs _ => by constructor <;> simp [ControllerLeaseManager.new]⟩

variable {session : AuthenticatedSession} {leaseId : LeaseId} {active : ActiveLease}

theorem Authority.validate_iff (authority : Authority ids nowMs manager history) :
    (∃ proof, (manager.validate session leaseId nowMs).1 = .ok proof) ↔ Authorized history session leaseId nowMs := by
  constructor
  · rintro ⟨proof, validated⟩
    obtain ⟨active, holds, _⟩ := validate_ok validated
    have held := mem_of_expireIfNeeded holds.held
    obtain ⟨acquiredMs, acquired⟩ := authority.acquired active held
    have deadline := (authority.deadline active held _ _ acquired).2
    have live := expireIfNeeded_live manager nowMs active holds.held
    rw [deadline] at live
    rw [← holds.id]
    exact ⟨acquiredMs, holds.peer ▸ acquired, authority.unreleased active held, live⟩
  · rintro ⟨acquiredMs, acquired, unreleased, live⟩
    by_cases current : ∃ active ∈ manager.active, active.id = leaseId
    · obtain ⟨active, held, rfl⟩ := current
      obtain ⟨peer, deadline⟩ := authority.deadline active held _ _ acquired
      have holds : Holds manager session active.id nowMs active := by
        refine ⟨?_, rfl, peer.symm, authority.incarnation active held⟩
        rw [expireIfNeeded_active, Option.filter_eq_some_iff, deadline]
        exact ⟨held, by simpa using live⟩
      exact ⟨_, congrArg Prod.fst (validate_of_holds holds)⟩
    · rcases authority.former _ _ _ acquired fun active held same => current ⟨active, held, same⟩ with
        ⟨sequence, releasedMs, released⟩ | passed
      · exact absurd released (unreleased sequence releasedMs)
      · omega

theorem Authority.leaseRef_ttl (authority : Authority ids nowMs manager history)
    (held : (manager.expireIfNeeded nowMs).2.active = some active) :
    (leaseRef active nowMs).ttlRemainingMs = active.expiresAtMs - nowMs ∧
      1 ≤ (leaseRef active nowMs).ttlRemainingMs ∧ (leaseRef active nowMs).ttlRemainingMs ≤ leaseTtlMs := by
  have live := expireIfNeeded_live manager nowMs active held
  obtain ⟨acquiredMs, acquired⟩ := authority.acquired active (mem_of_expireIfNeeded held)
  have deadline := (authority.deadline active (mem_of_expireIfNeeded held) _ _ acquired).2
  have last : lastRenewal history active.id acquiredMs ≤ nowMs := lastRenewal_le authority.past (authority.past _ acquired)
  have short : leaseTtlMs < u32Max + 1 := by decide
  have untruncated : (leaseRef active nowMs).ttlRemainingMs = active.expiresAtMs - nowMs := Nat.mod_eq_of_lt (by omega)
  omega

theorem releasedAdmission_ref {sequence commandSeq : Nat} {ref : ControllerLeaseRef}
    (answered : manager.releasedAdmission session leaseId commandSeq = .completed sequence (some ref)) :
    ∃ lease ∈ manager.released, ∃ entry ∈ lease.terminal, entry.lease = some ref := by
  unfold releasedAdmission at answered
  split at answered
  · cases answered
  next released kept =>
    split at answered
    next entry found =>
      rw [terminalResult_eq, ControllerCommandResult.completed.injEq] at answered
      exact ⟨released, (Option.filter_eq_some_iff.mp kept).1, entry, List.mem_of_find?_eq_some found, answered.2⟩
    next => split at answered <;> cases answered

variable {command : ControllerCommand} {reads : Entropy} {sequence : Nat}

theorem mutation_ref {commandSeq : Nat} {ref : ControllerLeaseRef} (mutates : Mutates command leaseId commandSeq)
    (windows : ∀ active ∈ manager.active, Window active) (refs : FullRefs manager) (fits : nowMs + leaseTtlMs ≤ u64Max)
    (answered : (manager.applyControllerCommand session command nowMs reads).1 = .ok (.completed sequence (some ref))) :
    ref.ttlRemainingMs = leaseTtlMs := by
  by_cases held : ∃ active, Holds manager session leaseId nowMs active
  · obtain ⟨active, holds⟩ := held
    have window := holds.window windows
    by_cases executes : admission active commandSeq = .executeOnce
    · rcases mutates with rfl | rfl
      · rw [applyControllerCommand, applyRenew_executes holds window executes] at answered
        cases answered
        exact renewedRef_ttl fits
      · rw [applyControllerCommand, applyRelease_executes holds window executes] at answered
        cases answered
    · have answer := applyControllerCommand_answer mutates holds window reads
      rw [answered] at answer
      generalize outcome : (Except.ok (.completed sequence (some ref)) : CommandOutcome) = given at answer
      cases answer with
      | executed next room => exact absurd (admission_executes.mpr ⟨next, room⟩) executes
      | exhausted | ahead | evicted => cases outcome
      | @replayed entry _ _ member _ =>
        rw [terminalResult_eq, Except.ok.injEq, ControllerCommandResult.completed.injEq] at outcome
        exact refs active (.inl (mem_of_expireIfNeeded holds.held)) entry member ref outcome.2.symm
  · have stale := not_exists.mp held
    have released : (manager.expireIfNeeded nowMs).2.releasedAdmission session leaseId commandSeq =
        .completed sequence (some ref) := by
      simpa [applyControllerCommand_stale mutates stale] using answered
    obtain ⟨lease, kept, entry, member, same⟩ := releasedAdmission_ref released
    rw [expireIfNeeded_released] at kept
    exact refs lease (.inr kept) entry member ref same

theorem acquire_ref {ref : ControllerLeaseRef} (authority : Authority ids nowMs manager history)
    (fits : nowMs + leaseTtlMs ≤ u64Max)
    (answered : (manager.applyAcquire session nowMs reads).1 = .ok (.completed sequence (some ref))) :
    1 ≤ ref.ttlRemainingMs ∧ ref.ttlRemainingMs ≤ leaseTtlMs := by
  unfold applyAcquire at answered
  dsimp only at answered
  split at answered
  next active held =>
    split at answered
    · cases answered
      exact (authority.leaseRef_ttl held).2
    · cases answered
  next =>
    split at answered
    · cases answered
    · cases answered
      rw [leaseRef_full fits rfl]
      decide

theorem command_ref {ref : ControllerLeaseRef} (windows : ∀ active ∈ manager.active, Window active)
    (refs : FullRefs manager) (authority : Authority ids nowMs manager history) (fits : nowMs + leaseTtlMs ≤ u64Max)
    (answered : (manager.applyControllerCommand session command nowMs reads).1 = .ok (.completed sequence (some ref))) :
    1 ≤ ref.ttlRemainingMs ∧ ref.ttlRemainingMs ≤ leaseTtlMs := by
  have mutation : ∀ {leaseId commandSeq}, Mutates command leaseId commandSeq →
      1 ≤ ref.ttlRemainingMs ∧ ref.ttlRemainingMs ≤ leaseTtlMs := by
    intro leaseId commandSeq mutates
    rw [mutation_ref mutates windows refs fits answered]
    decide
  cases command with
  | acquire => exact acquire_ref authority fits answered
  | renew leaseId commandSeq => exact mutation (.inl rfl)
  | release leaseId commandSeq => exact mutation (.inr rfl)
  | unsupported commandSeq => cases answered

/-- A RENEW or RELEASE from a session without the lease, or with any number but
the next one, leaves the lease as it was. -/
theorem unextended (windows : ∀ active ∈ manager.active, Window active) (mutates : Mutates command leaseId sequence)
    (refused : (∀ proof, (manager.validate session leaseId nowMs).1 ≠ .ok proof) ∨
      ∀ active, manager.active = some active → sequence ≠ active.nextCommandSequence)
    (after : ActiveLease) (held : (manager.applyControllerCommand session command nowMs reads).2.active = some after) :
    manager.active = some after := by
  have unexecuted : (manager.applyControllerCommand session command nowMs reads).2 = (manager.expireIfNeeded nowMs).2 := by
    refine applyControllerCommand_idle mutates windows (fun active holds executes => ?_) reads
    have next := (admission_executes.mp executes).1
    rcases refused with foreign | different
    · exact absurd (congrArg Prod.fst (validate_of_holds holds)) (foreign _)
    · exact different active (mem_of_expireIfNeeded holds.held) next
  rw [unexecuted] at held
  exact mem_of_expireIfNeeded held

theorem acquire_of_holds (holds : Holds manager session leaseId nowMs active) (reads : Entropy) :
    manager.applyAcquire session nowMs reads = (.ok (.completed 0 (some (leaseRef active nowMs))), manager) := by
  have live : manager.expireIfNeeded nowMs = (none, manager) := by
    apply expireIfNeeded_of_live
    intro other held
    rw [mem_of_expireIfNeeded holds.held] at held
    cases held
    exact expireIfNeeded_live manager nowMs active holds.held
  have held := mem_of_expireIfNeeded holds.held
  simp only [applyAcquire, live, Option.mem_def.mp held, holds.peer, if_true]

/-- Validation is decided by the history; at most one session and lease
validate; only an executed RENEW moves the deadline; and every lease reference
reports a lifetime between one millisecond and the full sixty seconds. -/
theorem leaseRun_exclusive (incarnation : WorkerIncarnationId) (calls : List LeaseCall) (steady : SteadyLeases calls)
    (nowMs : Nat) (later : ∀ call ∈ calls, call.nowMs ≤ nowMs) (bounded : nowMs < 2 ^ 63) :
    let manager := (leaseRun incarnation calls).manager
    (∀ session leaseId, (∃ proof, (manager.validate session leaseId nowMs).1 = .ok proof) ↔
      Authorized (leaseRun incarnation calls).history session leaseId nowMs) ∧
    (∀ first second firstId secondId firstProof secondProof,
      (manager.validate first firstId nowMs).1 = .ok firstProof →
      (manager.validate second secondId nowMs).1 = .ok secondProof →
      first.peerId = second.peerId ∧ firstId = secondId) ∧
    (∀ session leaseId sequence reads command,
      command = .renew leaseId sequence ∨ command = .release leaseId sequence →
      ((∀ proof, (manager.validate session leaseId nowMs).1 ≠ .ok proof) ∨
        ∀ active, manager.active = some active → sequence ≠ active.nextCommandSequence) →
      ∀ after, (manager.applyControllerCommand session command nowMs reads).2.active = some after →
        manager.active = some after) ∧
    (∀ session leaseId reads proof, (manager.validate session leaseId nowMs).1 = .ok proof →
      ∃ active, manager.active = some active ∧ active.id = leaseId ∧
        manager.applyControllerCommand session .acquire nowMs reads =
          (.ok (.completed 0 (some (leaseRef active nowMs))), manager)) ∧
    (∀ active, (manager.expireIfNeeded nowMs).2.active = some active →
      (leaseRef active nowMs).ttlRemainingMs = active.expiresAtMs - nowMs ∧
      1 ≤ (leaseRef active nowMs).ttlRemainingMs ∧ (leaseRef active nowMs).ttlRemainingMs ≤ 60000) ∧
    (∀ session command reads sequence ref,
      (manager.applyControllerCommand session command nowMs reads).1 = .ok (.completed sequence (some ref)) →
      1 ≤ ref.ttlRemainingMs ∧ ref.ttlRemainingMs ≤ 60000) ∧
    (∀ session ref, (manager.currentForSession session nowMs).1 = some ref →
      1 ≤ ref.ttlRemainingMs ∧ ref.ttlRemainingMs ≤ 60000) := by
  intro manager
  obtain ⟨windows, refs, authorities⟩ := leaseRun_governed incarnation calls steady
  have authority := authorities nowMs later
  have fits := ttl_fits bounded
  refine ⟨fun _ _ => authority.validate_iff, ?_, ?_, ?_, fun _ held => authority.leaseRef_ttl held, ?_, ?_⟩
  · intro first second firstId secondId firstProof secondProof firstOk secondOk
    obtain ⟨active, firstHolds, _⟩ := validate_ok firstOk
    obtain ⟨other, secondHolds, _⟩ := validate_ok secondOk
    obtain rfl : active = other := Option.some.inj (firstHolds.held.symm.trans secondHolds.held)
    exact ⟨firstHolds.peer.symm.trans secondHolds.peer, firstHolds.id.symm.trans secondHolds.id⟩
  · exact fun _ _ _ _ _ mutates refused after held => unextended windows mutates refused after held
  · intro session leaseId reads proof validated
    obtain ⟨active, holds, _⟩ := validate_ok validated
    exact ⟨active, mem_of_expireIfNeeded holds.held, holds.id, acquire_of_holds holds reads⟩
  · exact fun _ _ _ _ _ answered => command_ref windows refs authority fits answered
  · intro session ref current
    simp only [currentForSession, Option.map_eq_some_iff, Option.filter_eq_some_iff] at current
    obtain ⟨active, ⟨held, _⟩, rfl⟩ := current
    exact (authority.leaseRef_ttl held).2

theorem leaseRun_exclusive_renewals :
    (∃ proof, ((leaseRun ⟨filled 9⟩ renewals).manager.validate ⟨somePeer⟩ ⟨filled 1⟩ 63999).1 = .ok proof) ∧
    ¬ Authorized (leaseRun ⟨filled 9⟩ renewals).history ⟨somePeer⟩ ⟨filled 1⟩ 64000 := by
  have steady : SteadyLeases renewals := ⟨by decide, by decide, by decide⟩
  refine ⟨⟨⟨⟨filled 1⟩, ⟨filled 9⟩, somePeer⟩, by decide⟩, fun authorized => ?_⟩
  obtain ⟨proof, validated⟩ := ((leaseRun_exclusive ⟨filled 9⟩ renewals steady 64000 (by decide) (by decide)).1
    ⟨somePeer⟩ ⟨filled 1⟩).mpr authorized
  have stale : ((leaseRun ⟨filled 9⟩ renewals).manager.validate ⟨somePeer⟩ ⟨filled 1⟩ 64000).1 = .error .staleLease := by
    decide
  rw [stale] at validated
  cases validated

end PhoneBoost.Worker.Proofs
