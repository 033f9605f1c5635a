import Mathlib.Tactic.IntervalCases
import PhoneBoost.Host.Manager

/-! What disabling does to the lease. The session's identity goes with the
setting, and RELEASE is only sent for the current identity, so the manager never
sends it on its way out. -/

namespace PhoneBoost.Host.Manager.Proofs
open Controller
open Pbmux (AckPayload)

/-- What the currency checks read, and the number of the latest session. -/
def frame (data : SharedData) : Bool × Nat × Option SessionIdentity × Nat :=
  (data.enabled, data.epoch, data.sessionIdentity, data.nextSessionSerial)

theorem sessionIdentity_of_frame {data next : SharedData} (frames : frame next = frame data) :
    next.sessionIdentity = data.sessionIdentity :=
  congrArg (fun frame => frame.2.2.1) frames

def session : Pc → Option Session
  | .outside _ => none
  | .authenticating session | .acquiring session | .asking session | .refused session | .acquired session _
  | .checking session _ | .probing session _ _ | .degrading session _ _ _ | .publishing session _ _ | .looping session _
  | .live session _ | .renewing session _ | .renewed session _ | .republishing session _ | .idling session _
  | .leaving session _ | .losing session | .closing session => some session

section Frame
variable (data : SharedData) (identity : SessionIdentity) (lease : LeaseContext) (reason : AutoUseReason)

@[simp] theorem recordLeaseActive_frame : frame (data.recordLeaseActive identity lease) = frame data := by
  unfold SharedData.recordLeaseActive
  split <;> rfl

@[simp] theorem recordLeaseUnavailable_frame (text : String) :
    frame (data.recordLeaseUnavailable identity text) = frame data := by
  unfold SharedData.recordLeaseUnavailable
  split <;> rfl

@[simp] theorem recordAdmissionProof_frame (passed : Bool) (now : Nat) :
    frame (data.recordAdmissionProof identity lease passed now) = frame data := by
  unfold SharedData.recordAdmissionProof
  split <;> rfl

@[simp] theorem publishAvailable_frame (session : Session) (authenticated : Bool) :
    frame (data.publishAvailable session authenticated) = frame data := by
  unfold SharedData.publishAvailable
  split <;> rfl

@[simp] theorem markConnectionLost_frame : frame (data.markConnectionLost identity) = frame data := by
  unfold SharedData.markConnectionLost
  split <;> rfl

@[simp] theorem markDegraded_frame : frame (data.markDegraded identity reason) = frame data := by
  unfold SharedData.markDegraded
  split <;> rfl

@[simp] theorem setPhase_frame (epoch : Nat) (state : AutoUseState) : frame (data.setPhase epoch state reason) = frame data := by
  unfold SharedData.setPhase
  split <;> rfl

end Frame

/-- What a step of the manager does to the session. -/
inductive Moves (system next : System) : Prop where
  | stays (frame : frame next.data = frame system.data) (session : session next.pc = session system.pc)
  | connects {epoch session} (outside : system.pc = .outside (some epoch)) (current : system.data.isCurrent epoch = true)
      (frame : frame next.data = (true, epoch, some session.identity, session.identity.serial))
      (own : session.identity = ⟨epoch, max (saturatingAdd system.data.nextSessionSerial 1) 1⟩)
      (pc : next.pc = .authenticating session) (status : next.data.status = nodeStatus .authenticating .authFailed)
      (log : next.log = system.log)
  | closes {session} (closing : system.pc = .closing session)
      (frame : frame next.data = frame (system.data.clearSession session.identity))
      (pc : next.pc = .outside (some session.identity.epoch))

theorem managerStep_moves (system : System) (answer : Answer) : Moves system (system.managerStep answer) := by
  unfold System.managerStep
  cases pc : system.pc with
  | outside epoch =>
    cases epoch with
    | none =>
      dsimp only
      split_ifs <;> exact .stays rfl (by simp [session, pc])
    | some epoch =>
      dsimp only
      split
      · exact .stays rfl (by simp [session, pc])
      next current =>
      split
      · have current : system.data.isCurrent epoch = true := by simpa using current
        refine .connects pc current ?_ rfl rfl rfl rfl
        simp only [SharedData.isCurrent, Bool.and_eq_true, decide_eq_true_eq] at current
        simp [SharedData.connect, frame, current.1, current.2]
      · split_ifs <;> exact .stays (by simp) (by simp [session, pc])
  | closing session => exact .closes pc rfl rfl
  | probing session lease first =>
    simp only [System.probeEnds]
    split_ifs <;> exact .stays (by simp [System.close]) (by simp [Proofs.session, System.close, pc])
  | asking =>
    dsimp only
    split
    · exact .stays (by simp) (by simp [session, pc])
    · split_ifs <;> exact .stays (by simp [System.close]) (by simp [session, System.close, pc])
  | renewing =>
    dsimp only
    split <;> exact .stays (by simp) (by simp [session, pc])
  | refused | acquired | losing | republishing =>
    exact .stays (by simp [System.publish]) (by simp [session, System.close, System.publish, pc])
  | authenticating | acquiring | checking | degrading | publishing | looping | live | renewed | idling | leaving =>
    dsimp only [System.publish]
    split_ifs <;> exact .stays (by simp [System.close]) (by simp [session, System.close, pc])

/-- Only the manager's own session is current, and only while the setting stands. -/
def Coherent (system : System) : Prop :=
  ∀ identity, system.data.sessionIdentity = some identity → system.data.enabled = true ∧ system.data.epoch = identity.epoch ∧
    ∃ session ∈ Proofs.session system.pc, session.identity = identity

theorem Coherent.stays {system next : System} (coherent : Coherent system) (frames : frame next.data = frame system.data)
    (same : session next.pc = session system.pc) : Coherent next := by
  simp only [frame, Prod.mk.injEq] at frames
  obtain ⟨enabled, epoch, identity, -⟩ := frames
  rw [Coherent, enabled, epoch, identity, same]
  exact coherent

theorem Coherent.managerStep {system : System} (coherent : Coherent system) (answer : Answer) :
    Coherent (system.managerStep answer) := by
  have moves := managerStep_moves system answer
  generalize system.managerStep answer = next at moves ⊢
  cases moves with
  | stays frames same => exact coherent.stays frames same
  | @connects _ session _ _ frames own pc _ _ =>
    simp only [frame, Prod.mk.injEq] at frames
    obtain ⟨enabled, epoch, identity, -⟩ := frames
    rw [Coherent, enabled, epoch, identity, pc]
    rintro _ ⟨⟩
    exact ⟨rfl, by rw [own], session, rfl, rfl⟩
  | @closes session closing frames pc =>
    have gone : next.data.sessionIdentity = none := by
      rw [sessionIdentity_of_frame frames]
      unfold SharedData.clearSession
      split
      · rfl
      next other =>
        cases found : system.data.sessionIdentity with
        | none => rfl
        | some identity =>
          obtain ⟨-, -, own, mine, rfl⟩ := coherent identity found
          rw [closing] at mine
          cases mine
          exact absurd found other
    intro identity current
    rw [gone] at current
    cases current

/-- The session of the manager once it has seen it current with a lease. -/
def checked : Pc → Option Session
  | .probing session _ _ | .degrading session _ _ _ | .publishing session _ _ | .looping session _ | .live session _
  | .renewing session _ | .renewed session _ | .republishing session _ | .idling session _ => some session
  | _ => none

def isExit : Event → Bool
  | .released .. | .left .. => true
  | _ => false

/-- How the manager comes to the branch that gives the lease back, and what it
records there. -/
structure Exits (system next : System) : Prop where
  leaves : ∀ session lease, next.pc = .leaving session lease → next.data = system.data ∧
    (system.pc = .leaving session lease ∨
      system.pc = .looping session lease ∧ system.data.isCurrent session.identity.epoch = false)
  records : ∀ event ∈ next.log, isExit event = true → event ∈ system.log ∨
    ∃ session lease, system.pc = .leaving session lease ∧ (event = .left session.identity lease ∨
      event = .released session.identity lease.nextCommandSeq ∧ system.data.accessIsCurrent session.identity = true)
  checks : ∀ session ∈ checked next.pc, session ∈ checked system.pc ∨ system.data.accessIsCurrent session.identity = true

theorem mem_of_exits {log next : List Event} (same : next.filter isExit = log.filter isExit) {event : Event}
    (member : event ∈ next) (exit : isExit event = true) : event ∈ log :=
  List.mem_of_mem_filter (same ▸ List.mem_filter.mpr ⟨member, exit⟩)

theorem Exits.quiet {system next : System} (pc : ∀ session lease, next.pc ≠ .leaving session lease)
    (log : next.log.filter isExit = system.log.filter isExit)
    (checks : ∀ session ∈ checked next.pc, session ∈ checked system.pc ∨
      system.data.accessIsCurrent session.identity = true) : Exits system next where
  leaves session lease same := absurd same (pc session lease)
  records _ member exit := .inl (mem_of_exits log member exit)
  checks

theorem filter_concat {kind : Event → Bool} (log : List Event) {event : Event} (plain : kind event = false) :
    (log ++ [event]).filter kind = log.filter kind := by
  simp [plain]

theorem filter_logged {kind : Event → Bool} (system : System) {event : Event} (happens : Bool) (plain : kind event = false) :
    (system.logged event happens).filter kind = system.log.filter kind := by
  cases happens with
  | false => rfl
  | true => exact filter_concat system.log plain

theorem managerStep_exits (system : System) (answer : Answer) : Exits system (system.managerStep answer) := by
  unfold System.managerStep
  cases pc : system.pc with
  | outside epoch =>
    cases epoch <;> dsimp only <;> split_ifs <;> exact .quiet (by simp [pc]) rfl (by simp [checked, pc])
  | leaving session lease =>
    dsimp only
    split
    · refine ⟨by simp [System.close], ?_, by simp [checked, System.close]⟩
      intro event member exit
      rw [System.logged] at member
      split at member
      next current =>
        simp only [List.append_assoc, List.mem_append, List.cons_append, List.nil_append, List.mem_cons, List.not_mem_nil,
          or_false] at member
        rcases member with member | released | left
        · exact .inl member
        · exact .inr ⟨session, lease, pc, .inr ⟨released, current⟩⟩
        · exact .inr ⟨session, lease, pc, .inl left⟩
      next =>
        rcases List.mem_append.mp member with member | member
        · exact .inl member
        · exact .inr ⟨session, lease, pc, .inl (List.mem_singleton.mp member)⟩
    · exact ⟨fun _ _ same => ⟨rfl, .inl same⟩, fun _ member _ => .inl member, by simp [checked, pc]⟩
  | looping session lease =>
    dsimp only
    split
    · exact .quiet (by simp) rfl (by simp [checked, pc])
    next stale =>
      refine ⟨?_, fun _ member _ => .inl member, by simp [checked]⟩
      rintro _ _ ⟨⟩
      exact ⟨rfl, .inr ⟨pc, by simpa using stale⟩⟩
  | checking session lease =>
    dsimp only
    split
    next current =>
      refine .quiet (by simp) (filter_concat _ rfl) ?_
      rintro _ ⟨⟩
      exact .inr (Bool.and_eq_true _ _ ▸ current).1
    · exact .quiet (by simp [System.close]) rfl (by simp [checked, System.close])
  | probing session lease first =>
    simp only [System.probeEnds]
    split_ifs <;> refine .quiet (by simp [System.close]) ?_ (by simp [checked, System.close, pc])
    all_goals first | rfl | exact filter_logged system _ rfl
  | asking =>
    dsimp only
    split
    · exact .quiet (by simp) (filter_concat _ rfl) (by simp [checked])
    · split_ifs <;> exact .quiet (by simp [System.close]) rfl (by simp [checked, System.close])
  | renewing =>
    dsimp only
    split
    · exact .quiet (by simp) (filter_concat _ rfl) (by simp [checked, pc])
    · exact .quiet (by simp) rfl (by simp [checked])
  | refused | acquired | losing | closing => exact .quiet (by simp [System.close]) rfl (by simp [checked, System.close])
  | republishing =>
    dsimp only
    exact .quiet (by simp [System.publish]) (filter_logged system _ rfl) (by simp [checked, System.publish, pc])
  | publishing =>
    dsimp only
    split
    · exact .quiet (by simp [System.close]) rfl (by simp [checked, System.close])
    · exact .quiet (by simp [System.publish]) (filter_logged system _ rfl) (by simp [checked, System.publish, pc])
  | degrading =>
    dsimp only
    split <;> exact .quiet (by simp) (filter_logged system _ rfl) (by simp [checked, pc])
  | idling =>
    dsimp only
    split
    · exact .quiet (by simp) (filter_concat _ rfl) (by simp [checked, pc])
    · exact .quiet (by simp) rfl (by simp [checked, pc])
  | authenticating | acquiring | live | renewed =>
    dsimp only
    split_ifs <;> exact .quiet (by simp [System.close]) rfl (by simp [checked, System.close, pc])

/-- What the other threads do: the manager stays where it is, no exit is recorded,
and its session is taken away at most. -/
structure Quiet (system next : System) (act : Act) : Prop where
  pc : next.pc = system.pc
  records : next.log.filter isExit = system.log.filter isExit
  data : frame next.data = frame system.data ∨ act = .disable ∧ next.data.sessionIdentity = none ∨
    system.data.enabled = false ∧ next.data.sessionIdentity = system.data.sessionIdentity

theorem act_quiet (system : System) {act : Act} (other : ∀ answer, act ≠ .manager answer) :
    Quiet system (system.act act) act := by
  cases act with
  | manager answer => exact absurd rfl (other answer)
  | enable =>
    simp only [System.act, SharedData.enable]
    split
    · exact ⟨rfl, rfl, .inl rfl⟩
    next disabled => exact ⟨rfl, rfl, .inr (.inr ⟨by simpa using disabled, rfl⟩)⟩
  | disable =>
    simp only [System.act, SharedData.disable]
    split
    · exact ⟨rfl, rfl, .inl rfl⟩
    · exact ⟨rfl, rfl, .inr (.inl ⟨rfl, rfl⟩)⟩
  | authenticate | sessionEnds => exact ⟨rfl, rfl, .inl rfl⟩
  | begin =>
    simp only [System.act]
    split
    · split <;> exact ⟨rfl, rfl, .inl rfl⟩
    · exact ⟨rfl, rfl, .inl rfl⟩
  | finish failure =>
    simp only [System.act]
    split
    · exact ⟨rfl, rfl, .inl rfl⟩
    · split
      · exact ⟨rfl, rfl, .inl rfl⟩
      · exact ⟨rfl, filter_logged system _ rfl, .inl (markDegraded_frame ..)⟩
    · exact ⟨rfl, rfl, .inl (markConnectionLost_frame ..)⟩
    · exact ⟨rfl, rfl, .inl rfl⟩

theorem Coherent.quiet {system next : System} {act : Act} (coherent : Coherent system) (quiet : Quiet system next act) :
    Coherent next := by
  rcases quiet.data with frames | ⟨-, gone⟩ | ⟨disabled, same⟩
  · exact coherent.stays frames (by rw [quiet.pc])
  · intro identity current
    rw [gone] at current
    cases current
  · intro identity current
    have enabled := (coherent identity (same ▸ current)).1
    rw [disabled] at enabled
    cases enabled

/-- The manager on its way out has lost its session, so it has nothing to send. -/
structure Unreleased (system : System) : Prop where
  coherent : Coherent system
  leaving : ∀ session lease, system.pc = .leaving session lease → system.data.sessionIdentity ≠ some session.identity
  silent : ∀ identity commandSeq, .released identity commandSeq ∉ system.log

theorem Unreleased.managerStep {system : System} (unreleased : Unreleased system) (answer : Answer) :
    Unreleased (system.managerStep answer) := by
  obtain ⟨coherent, leaving, silent⟩ := unreleased
  have exits := managerStep_exits system answer
  refine ⟨coherent.managerStep answer, ?_, ?_⟩
  · intro session lease pc
    obtain ⟨data, stays | ⟨looping, stale⟩⟩ := exits.leaves session lease pc
    · exact data ▸ leaving session lease stays
    · rw [data]
      intro current
      obtain ⟨enabled, epoch, _⟩ := coherent _ current
      simp [SharedData.isCurrent, enabled, epoch] at stale
  · intro identity commandSeq member
    rcases exits.records _ member rfl with old | ⟨session, lease, pc, left | ⟨_, current⟩⟩
    · exact silent identity commandSeq old
    · cases left
    · simp only [SharedData.accessIsCurrent, Bool.and_eq_true, decide_eq_true_eq] at current
      exact leaving session lease pc current.2

theorem Unreleased.act {system : System} (unreleased : Unreleased system) (act : Act) : Unreleased (system.act act) := by
  by_cases manager : ∃ answer, act = .manager answer
  · obtain ⟨answer, rfl⟩ := manager
    exact unreleased.managerStep answer
  · have quiet := act_quiet system (not_exists.mp manager)
    refine ⟨unreleased.coherent.quiet quiet, ?_, ?_⟩
    · intro session lease pc
      have own := unreleased.leaving session lease (quiet.pc ▸ pc)
      rcases quiet.data with frames | ⟨-, gone⟩ | ⟨-, same⟩
      · exact (sessionIdentity_of_frame frames).trans_ne own
      · simp [gone]
      · exact same ▸ own
    · intro identity commandSeq member
      exact unreleased.silent identity commandSeq (mem_of_exits quiet.records member rfl)

theorem systemRun_unreleased (acts : List Timed) : Unreleased (systemRun acts) := by
  refine Machine.run_induction (fun _ => True) (fun _ system => Unreleased system) (fun _ _ _ => trivial) ?_ ?_ acts trivial
  · exact ⟨by rintro _ ⟨⟩, by rintro _ _ ⟨⟩, by rintro _ _ ⟨⟩⟩
  · intro _ timed system _ unreleased
    have waited : Unreleased { system with now := system.now + timed.elapsed } :=
      ⟨unreleased.coherent, unreleased.leaving, unreleased.silent⟩
    exact waited.act timed.act

/-- The lease that the manager has, from its acknowledgement on. -/
def lease : Pc → Option LeaseContext
  | .acquired _ lease | .checking _ lease | .leaving _ lease => some lease
  | .probing _ lease _ | .degrading _ lease _ _ | .publishing _ lease _ | .looping _ lease | .live _ lease
  | .renewing _ lease | .renewed _ lease | .republishing _ lease | .idling _ lease => some lease
  | .outside _ | .authenticating _ | .acquiring _ | .asking _ | .refused _ | .losing _ | .closing _ => none

/-- Auto-use is never disabled while the manager has a lease. -/
def Undisturbed (acts : List Timed) : Prop :=
  Machine.Each System.step initial (fun system timed => timed.act = .disable → lease system.pc = none) acts

/-- The loop goes on while its session is current. -/
structure Staying (system : System) : Prop where
  current : ∀ session ∈ checked system.pc, system.data.isCurrent session.identity.epoch = true
  stays : ∀ session lease, system.pc ≠ .leaving session lease
  silent : ∀ identity lease, .left identity lease ∉ system.log

theorem isCurrent_of_frame {data next : SharedData} (frames : frame next = frame data) (epoch : Nat) :
    next.isCurrent epoch = data.isCurrent epoch := by
  simp only [frame, Prod.mk.injEq] at frames
  rw [SharedData.isCurrent, SharedData.isCurrent, frames.1, frames.2.1]

theorem lease_of_checked {pc : Pc} {session : Session} (member : session ∈ checked pc) : lease pc ≠ none := by
  cases pc <;> simp_all [checked, lease]

theorem Staying.managerStep {system : System} (staying : Staying system) (answer : Answer) :
    Staying (system.managerStep answer) := by
  obtain ⟨current, stays, silent⟩ := staying
  have exits := managerStep_exits system answer
  refine ⟨fun session member => ?_, ?_, ?_⟩
  · have before : system.data.isCurrent session.identity.epoch = true := by
      rcases exits.checks session member with old | access
      · exact current session old
      · simp only [SharedData.accessIsCurrent, Bool.and_eq_true] at access
        simpa [SharedData.isCurrent] using access.1
    cases managerStep_moves system answer with
    | stays frames _ => rwa [isCurrent_of_frame frames]
    | connects _ _ _ _ pc _ _ | closes _ _ pc => simp [pc, checked] at member
  · intro session lease pc
    obtain ⟨-, old | ⟨looping, stale⟩⟩ := exits.leaves session lease pc
    · exact stays session lease old
    · have fresh := current session (by rw [looping]; rfl)
      rw [stale] at fresh
      cases fresh
  · intro identity lease member
    rcases exits.records _ member rfl with old | ⟨session, own, pc, -⟩
    · exact silent identity lease old
    · exact stays session own pc

theorem Staying.act {system : System} (staying : Staying system) {act : Act}
    (undisturbed : act = .disable → lease system.pc = none) : Staying (system.act act) := by
  by_cases manager : ∃ answer, act = .manager answer
  · obtain ⟨answer, rfl⟩ := manager
    exact staying.managerStep answer
  · have quiet := act_quiet system (not_exists.mp manager)
    refine ⟨fun session member => ?_, fun session lease => quiet.pc ▸ staying.stays session lease, ?_⟩
    · rw [quiet.pc] at member
      have current := staying.current session member
      rcases quiet.data with frames | ⟨disable, -⟩ | ⟨disabled, -⟩
      · rwa [isCurrent_of_frame frames]
      · exact absurd (undisturbed disable) (lease_of_checked member)
      · simp [SharedData.isCurrent, disabled] at current
    · intro identity lease member
      exact staying.silent identity lease (mem_of_exits quiet.records member rfl)

theorem systemRun_staying {acts : List Timed} (undisturbed : Undisturbed acts) : Staying (systemRun acts) := by
  refine Machine.run_each Staying ⟨by rintro _ ⟨⟩, by rintro _ _ ⟨⟩, by rintro _ _ ⟨⟩⟩ ?_ undisturbed
  intro system timed condition staying
  have waited : Staying { system with now := system.now + timed.elapsed } := ⟨staying.current, staying.stays, staying.silent⟩
  exact waited.act condition

/-- Each exit of the loop has sent RELEASE for its lease, with its next number. -/
def GivesBack (log : List Event) : Prop :=
  ∀ before identity lease after, log = before ++ .left identity lease :: after →
    .released identity lease.nextCommandSeq ∈ before

/-- A run gives each lease back exactly if its manager never leaves the loop by the
branch that is there to do it, as in each run that keeps auto-use enabled while
there is a lease: no RELEASE is ever sent. -/
theorem disable_release (acts : List Timed) :
    (∀ identity commandSeq, .released identity commandSeq ∉ (systemRun acts).log) ∧
    (GivesBack (systemRun acts).log ↔ ∀ identity lease, .left identity lease ∉ (systemRun acts).log) ∧
    (Undisturbed acts → GivesBack (systemRun acts).log) := by
  have silent := (systemRun_unreleased acts).silent
  have exactly : GivesBack (systemRun acts).log ↔ ∀ identity lease, .left identity lease ∉ (systemRun acts).log := by
    constructor
    · intro gives identity lease member
      obtain ⟨before, after, split⟩ := List.append_of_mem member
      have sent := gives before identity lease after split
      exact silent identity lease.nextCommandSeq (by rw [split]; exact List.mem_append_left _ sent)
    · intro never before identity lease after split
      exact absurd (by rw [split]; simp) (never identity lease)
  exact ⟨silent, exactly, fun undisturbed => exactly.mpr (systemRun_staying undisturbed).silent⟩

def someAck (leaseId : UInt8) (commandSeq : UInt64) : AckPayload :=
  ⟨2, 0, commandSeq, 0, 0, 1, .replicate 16 leaseId, .replicate 16 9, 60000, commandSeq + 1, 0, .replicate 32 0⟩

/-- The manager connects, gets its lease, probes the worker and publishes it. -/
def becomesAvailable : List Timed :=
  [⟨0, .enable⟩, ⟨0, .manager {}⟩, ⟨0, .manager { connects := true }⟩, ⟨0, .authenticate⟩, ⟨0, .manager {}⟩,
    ⟨0, .manager {}⟩, ⟨0, .manager { ack := some (someAck 1 0) }⟩, ⟨0, .manager {}⟩, ⟨0, .manager {}⟩,
    ⟨0, .manager {}⟩, ⟨0, .manager {}⟩]

/-- Auto-use is disabled while the manager still connects, and enabled again. -/
def reenabled : List Timed := [⟨0, .enable⟩, ⟨0, .manager {}⟩, ⟨0, .disable⟩, ⟨0, .manager {}⟩] ++ becomesAvailable

theorem reenabled_undisturbed : Undisturbed reenabled := by
  intro index timed found disable
  have inside : index < 15 := (List.getElem?_eq_some_iff.mp found).1
  interval_cases index <;> cases found <;> cases disable
  decide

theorem disable_release_available :
    (systemRun reenabled).data.status.state = .available ∧ GivesBack (systemRun reenabled).log :=
  ⟨by decide, (disable_release reenabled).2.2 reenabled_undisturbed⟩

/-- Auto-use is disabled while the session is up, and the loop sees it next. -/
def disabledThen : List Timed := becomesAvailable ++ [⟨0, .disable⟩, ⟨0, .manager {}⟩, ⟨0, .manager {}⟩]

/-- The manager leaves by the branch with the RELEASE, and none is sent. -/
theorem disabledThen_keeps :
    (systemRun becomesAvailable).authenticated 1 = true ∧
    .left ⟨1, 1⟩ ⟨.replicate 16 1, .replicate 16 9, 1, 60000000000⟩ ∈ (systemRun disabledThen).log ∧
    .released ⟨1, 1⟩ 1 ∉ (systemRun disabledThen).log ∧ ¬ GivesBack (systemRun disabledThen).log := by
  refine ⟨by decide, by decide, by decide, fun gives => ?_⟩
  have sent := gives ((systemRun disabledThen).log.dropLast) ⟨1, 1⟩ ⟨.replicate 16 1, .replicate 16 9, 1, 60000000000⟩ [] (by decide)
  revert sent
  decide

end PhoneBoost.Host.Manager.Proofs
