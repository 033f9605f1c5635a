import Mathlib.Tactic.IntervalCases
import PhoneBoost.Proofs.LeaseBelief

/-! When the next RENEW is due. The loop counts a fixed interval from the moment
it is entered, whatever is left of the lease by then. A RENEW gives the lease its
full time again, so only the entry can be late. -/

namespace PhoneBoost.Host.Controller.Proofs
open Worker Worker.Proofs Worker.ControllerLeaseManager

variable {manager : ControllerLeaseManager} {nowMs now sentAt origin : Nat} {reads : Entropy} {peer : PeerId} {line : Line}
  {previous : Option Held} {context : LeaseContext} {core : WorkerCore}

/-- What is left of the worker's lease, and what a new one would have. -/
def leftMs (manager : ControllerLeaseManager) (nowMs : Nat) : Nat :=
  match (manager.expireIfNeeded nowMs).2.active with
  | some active => active.expiresAtMs - nowMs
  | none => leaseTtlMs

/-- No lease of the worker has more than the time of a new one left. -/
def Recent (manager : ControllerLeaseManager) (nowMs : Nat) : Prop :=
  ∀ active ∈ manager.active, active.expiresAtMs ≤ nowMs + leaseTtlMs

theorem Recent.later {later : Nat} (recent : Recent manager nowMs) (after : nowMs ≤ later) : Recent manager later :=
  fun active held => (recent active held).trans (Nat.add_le_add_right after _)

theorem Recent.step (recent : Recent core.leaseManager nowMs) (tidy : Tidy core.leaseManager) (hasher : Hasher) (call : Call)
    (reading : call.startMs = nowMs) : Recent (Worker.step hasher core call).2.leaseManager nowMs := by
  rw [step_leaseManager]
  have swept : Recent (entered core call).leaseManager nowMs := entered_keeps (P := (Recent · nowMs)) recent
    (fun _ active held => recent active (mem_of_expireIfNeeded held)) call
  obtain ⟨events, stepped⟩ := commanded_step (entered_keeps tidy tidy.expire call).windows call
  rw [reading] at stepped
  cases stepped with
  | keep same =>
    rw [same]
    exact swept
  | expire same =>
    rw [same]
    exact fun active held => swept active (mem_of_expireIfNeeded held)
  | acquire _ _ same =>
    rw [same]
    rintro active ⟨⟩
    exact saturatingAdd_le _ _
  | renew _ _ same =>
    rw [same]
    rintro active ⟨⟩
    rw [advance_expiresAtMs]
    exact saturatingAdd_le _ _
  | release _ _ same =>
    rw [same]
    rintro active ⟨⟩

theorem ttl_toNat {ttl : Nat} (short : ttl ≤ leaseTtlMs) : (UInt32.ofNat (ttl % (u32Max + 1))).toNat = ttl := by
  have small : leaseTtlMs < u32Max := by decide
  rw [Nat.mod_eq_of_lt (by omega), UInt32.toNat_ofNat_of_lt']
  exact Nat.lt_of_le_of_lt short (by decide)

/-- The time that an accepted answer gives the host, counted from its sending. -/
def worthMs (previous : Option Held) (handled : Handled) : Nat :=
  match previous with
  | none => leftMs handled.before handled.nowMs
  | some _ => leaseTtlMs

theorem handled_worth {result : ControllerCommandResult} {after before : ControllerLeaseManager}
    (tidy : Tidy (before.expireIfNeeded nowMs).2) (recent : Recent before nowMs) (fits : nowMs + leaseTtlMs ≤ u64Max)
    (applied : ask (before.expireIfNeeded nowMs).2 peer previous nowMs reads = (.ok result, after))
    (follows : ∀ held ∈ previous, Follows (before.expireIfNeeded nowMs).2 peer held.context)
    (accepted : leaseFromAck (controllerAck result) (previous.map Held.context) sentAt = .ok context) :
    context.notAfter = sentAt + worthMs previous ⟨nowMs, before, after⟩ * 1000000 := by
  obtain ⟨sequence, ref, rfl, live, rfl⟩ := leaseFromAck_ok accepted
  have full : saturatingAdd nowMs leaseTtlMs - nowMs = leaseTtlMs := by
    rw [saturatingAdd_of_le fits]
    omega
  cases previous with
  | none =>
    have answered : ((before.expireIfNeeded nowMs).2.applyAcquire ⟨peer⟩ nowMs reads).1 = _ := congrArg Prod.fst applied
    unfold applyAcquire at answered
    simp only [worthMs, leftMs, expireIfNeeded_twice] at answered ⊢
    cases held : (before.expireIfNeeded nowMs).2.active with
    | some active =>
      have short := recent active (mem_of_expireIfNeeded held)
      rw [held] at answered
      dsimp only at answered ⊢
      split at answered
      · cases answered
        rw [leaseRef, ttl_toNat (by omega)]
      · cases answered
    | none =>
      rw [held] at answered
      dsimp only at answered ⊢
      split at answered
      · cases answered
      · cases answered
        dsimp only [leaseRef]
        rw [full, ttl_toNat le_rfl]
  | some held =>
    obtain ⟨active, holds, executes⟩ := renew_executed tidy (follows held rfl) applied
    cases applied.symm.trans (applyRenew_executes holds (holds.window tidy.windows) executes)
    dsimp only [renewedRef, leaseRef, extended, worthMs]
    rw [full, ttl_toNat le_rfl]

/-- The schedule of the host. -/
def Scheduled (line : Line) : Prop :=
  match line.phase, line.exchange with
  | .asking previous sentAt, .answered ack handled => ∀ context,
    leaseFromAck ack (previous.map Held.context) sentAt = .ok context →
      context.notAfter = sentAt + worthMs previous handled * 1000000
  | .preparing held, _ =>
    held.context.notAfter = held.sentAt + leftMs held.handled.before held.handled.nowMs * 1000000
  | .available held nextRenewal, _ => nextRenewal < held.context.notAfter
  | _, _ => True

/-- The loop is entered while more of the lease is left than until the first RENEW. -/
def Timely (held : Held) (now : Nat) : Prop :=
  now + renewalInterval < held.sentAt + leftMs held.handled.before held.handled.nowMs * 1000000

variable {seen : List Bytes16}

theorem Scheduled.handle (scheduled : Scheduled line) (sound : Sound peer origin seen line)
    (recent : Recent line.worker.leaseManager (workerMs origin line.now))
    (fits : workerMs origin line.now + leaseTtlMs ≤ u64Max) {command : Pbmux.CommandPayload}
    (asked : line.exchange = .asked command) (session : VerifiedSessionId) (reads : Entropy) :
    Scheduled (line.handle peer origin command session reads) := by
  obtain ⟨now, worker, phase, exchange⟩ := line
  cases asked
  obtain ⟨tidy, -, -, coupled⟩ := sound
  dsimp only at tidy coupled recent fits
  have applied := applyControllerCommand_outcome worker ⟨peer, session⟩ (Worker.controllerCommand command)
    (workerMs origin now) reads
  rw [reconcile_leaseManager] at applied
  unfold Line.handle
  dsimp only
  generalize worker.applyControllerCommand ⟨peer, session⟩ (Worker.controllerCommand command) (workerMs origin now) reads =
    answer at applied ⊢
  obtain ⟨outcome, worker'⟩ := answer
  cases coupled with
  | closed => cases outcome <;> trivial
  | asked sent owned =>
    cases outcome with
    | error _ => trivial
    | ok result =>
      intro context accepted
      exact handled_worth (tidy.expire _) recent fits applied (fun held member => (owned held member).follows.expire _) accepted

theorem Scheduled.receive {ack : Pbmux.AckPayload} {handled : Handled} (scheduled : Scheduled line)
    (phase : line.phase = .asking previous sentAt) (exchange : line.exchange = .answered ack handled)
    (early : line.now ≤ sentAt + initiatorRequestTimeout) : Scheduled (line.receive ack handled previous sentAt) := by
  rw [Scheduled, phase, exchange] at scheduled
  unfold Line.receive
  cases taken : leaseFromAck ack (previous.map Held.context) sentAt with
  | error _ => cases previous <;> trivial
  | ok context =>
    have worth := scheduled context taken
    cases previous with
    | none => exact worth
    | some _ =>
      show line.now + renewalInterval < context.notAfter
      rw [worth]
      simp only [worthMs, leaseTtlMs, renewalInterval, initiatorRequestTimeout] at early ⊢
      omega

theorem Scheduled.react (scheduled : Scheduled line) (sound : Sound peer origin seen line)
    (recent : Recent line.worker.leaseManager (workerMs origin line.now))
    (fits : workerMs origin line.now + leaseTtlMs ≤ u64Max) (hasher : Hasher) (event : LineEvent)
    (timely : event = .enter → ∀ held, line.phase = .preparing held → Timely held line.now) :
    Scheduled (line.react hasher peer origin event) := by
  cases event with
  | connect | acquire =>
    simp only [Line.react]
    split
    · trivial
    · exact scheduled
  | renew =>
    simp only [Line.react]
    split
    · split
      · trivial
      · exact scheduled
    · exact scheduled
  | handle session reads =>
    simp only [Line.react]
    split
    next command asked => exact scheduled.handle sound recent fits asked session reads
    · exact scheduled
  | receive =>
    simp only [Line.react]
    split
    next phase exchange =>
      split
      next early => exact scheduled.receive phase exchange early
      · trivial
    · exact scheduled
  | enter =>
    simp only [Line.react]
    split
    next held phase =>
      rw [Scheduled, phase] at scheduled
      show line.now + renewalInterval < held.context.notAfter
      rw [show held.context.notAfter = _ from scheduled]
      exact timely rfl held phase
    · exact scheduled
  | lost => trivial
  | sessionEnded session =>
    simp only [Line.react, Scheduled] at scheduled ⊢
    cases phase : line.phase <;> simp_all
  | call call =>
    simp only [Line.react]
    split <;> exact scheduled

/-- An event takes no time, and touches the worker by a call at most. -/
theorem react_frame (line : Line) (hasher : Hasher) (peer : PeerId) (origin : Nat) (event : LineEvent) :
    (line.react hasher peer origin event).now = line.now ∧
    ((line.react hasher peer origin event).worker = line.worker ∨
      ∃ call, call.startMs = workerMs origin line.now ∧
        (line.react hasher peer origin event).worker = (Worker.step hasher line.worker call).2) := by
  cases event with
  | connect | acquire | enter =>
    simp only [Line.react]
    split <;> exact ⟨rfl, .inl rfl⟩
  | renew =>
    simp only [Line.react]
    split
    · split <;> exact ⟨rfl, .inl rfl⟩
    · exact ⟨rfl, .inl rfl⟩
  | receive =>
    simp only [Line.react]
    split
    · split
      · unfold Line.receive
        split <;> exact ⟨rfl, .inl rfl⟩
      · exact ⟨rfl, .inl rfl⟩
    · exact ⟨rfl, .inl rfl⟩
  | lost => exact ⟨rfl, .inl rfl⟩
  | handle session reads =>
    simp only [Line.react]
    split
    next command _ =>
      have served : (line.handle peer origin command session reads).now = line.now ∧
          (line.handle peer origin command session reads).worker = (line.worker.applyControllerCommand ⟨peer, session⟩
            (Worker.controllerCommand command) (workerMs origin line.now) reads).2 := by
        unfold Line.handle
        dsimp only
        generalize line.worker.applyControllerCommand _ _ _ _ = answer
        obtain ⟨outcome, worker⟩ := answer
        cases outcome <;> exact ⟨rfl, rfl⟩
      exact ⟨served.1, .inr ⟨.controllerCommand ⟨peer, session⟩ (Worker.controllerCommand command) (workerMs origin line.now)
        reads, rfl, served.2⟩⟩
    · exact ⟨rfl, .inl rfl⟩
  | sessionEnded session =>
    exact ⟨rfl, .inr ⟨.authenticatedSessionEnded ⟨peer, session⟩ (workerMs origin line.now), rfl, rfl⟩⟩
  | call call =>
    simp only [Line.react]
    split
    next valid =>
      simp only [Bool.and_eq_true, decide_eq_true_eq] at valid
      exact ⟨rfl, .inr ⟨call, valid.2, rfl⟩⟩
    · exact ⟨rfl, .inl rfl⟩

/-- Every time the loop is entered, it is entered in time, and the worker's
clock stays clear of the end of its range. -/
def Punctual (hasher : Hasher) (peer : PeerId) (origin : Nat) (start : WorkerCore) (moments : List Moment) : Prop :=
  Machine.Each (Line.step hasher peer origin) ⟨origin, start, .closed, .idle⟩ (fun line moment =>
    (moment.event = .enter → ∀ held, line.phase = .preparing held → Timely held (line.now + moment.elapsed)) ∧
    workerMs origin (line.now + moment.elapsed) + leaseTtlMs ≤ u64Max) moments

theorem lineRun_scheduled {boot : Entropy} {start : WorkerCore} (booted : WorkerCore.coldStart boot = some start)
    (hasher : Hasher) (moments : List Moment) (fresh : Machine.Distinct (fun moment => drawn moment.reads) moments)
    (punctual : Punctual hasher peer origin start moments) :
    let line := lineRun hasher peer origin start moments
    Recent line.worker.leaseManager (workerMs origin line.now) ∧ Scheduled line := by
  induction moments using List.reverseRecOn with
  | nil =>
    obtain ⟨id, rfl⟩ := coldStart_some booted
    exact ⟨by rintro _ ⟨⟩, trivial⟩
  | append_singleton moments moment ih =>
    have sound := (lineRun_sound booted hasher peer origin moments (fresh.shorter _ _)).wait moment.elapsed
    obtain ⟨recent, scheduled⟩ := ih (fresh.shorter _ _) (Machine.Each.shorter punctual)
    obtain ⟨timely, fits⟩ := Machine.Each.last punctual
    dsimp only [lineRun] at sound recent scheduled ⊢
    rw [Machine.run_concat]
    generalize Machine.run _ _ moments = line at sound recent scheduled fits timely ⊢
    have later : Recent line.worker.leaseManager (workerMs origin (line.now + moment.elapsed)) := by
      apply recent.later
      unfold workerMs
      omega
    obtain ⟨now, worker⟩ := react_frame { line with now := line.now + moment.elapsed } hasher peer origin moment.event
    have waited : Scheduled { line with now := line.now + moment.elapsed } := scheduled
    refine ⟨?_, waited.react sound later fits hasher moment.event timely⟩
    dsimp only [Line.step]
    rw [now]
    rcases worker with same | ⟨call, reading, same⟩
    · rw [same]
      exact later
    · rw [same]
      exact later.step sound.tidy hasher call reading

/-- In every run that enters the loop in time each time, the next RENEW is due
before the lease ends by the host's own count. -/
theorem renewal_scheduled {boot : Entropy} {start : WorkerCore} (booted : WorkerCore.coldStart boot = some start)
    (hasher : Hasher) (peer : PeerId) (origin : Nat) (moments : List Moment)
    (fresh : Machine.Distinct (fun moment => drawn moment.reads) moments)
    (punctual : Punctual hasher peer origin start moments) (held : Held) (nextRenewal : Nat)
    (available : (lineRun hasher peer origin start moments).phase = .available held nextRenewal) :
    nextRenewal < held.context.notAfter := by
  have scheduled := (lineRun_scheduled booted hasher moments fresh punctual).2
  rw [Scheduled, available] at scheduled
  exact scheduled

theorem oneRenewal_punctual : Punctual nullHasher somePeer 0 bootedCore oneRenewal := by
  intro index moment found
  have inside : index < 8 := (List.getElem?_eq_some_iff.mp found).1
  refine ⟨fun entering held phase => ?_, ?_⟩
  · interval_cases index <;> cases found <;> first | (cases entering; done) | (cases phase; unfold Timely; decide +kernel)
  · interval_cases index <;> cases found <;> decide +kernel

/-- A new lease lasts three times as long as the interval. -/
theorem renewal_scheduled_renewed :
    WorkerCore.coldStart [some (filled 9)] = some bootedCore ∧
    ∃ held nextRenewal, (lineRun nullHasher somePeer 0 bootedCore oneRenewal).phase = .available held nextRenewal ∧
      nextRenewal < held.context.notAfter :=
  ⟨rfl, _, _, rfl, @renewal_scheduled [some (filled 9)] bootedCore rfl nullHasher somePeer 0 oneRenewal (by decide)
    oneRenewal_punctual _ _ rfl⟩

/-- The connection is lost, and the host is back when five seconds of its lease are left. -/
def lateReturn : List Moment :=
  [⟨0, .connect⟩, ⟨0, .acquire⟩, ⟨0, .handle ⟨filled 5⟩ [some (filled 1)]⟩, ⟨0, .receive⟩, ⟨0, .lost⟩,
    ⟨0, .sessionEnded ⟨filled 5⟩⟩, ⟨55 * 1000000000, .connect⟩, ⟨0, .acquire⟩, ⟨0, .handle ⟨filled 6⟩ []⟩, ⟨0, .receive⟩,
    ⟨0, .enter⟩]

/-- Its first RENEW is due fifteen seconds after the lease has ended. -/
theorem lateReturn_lapses :
    ∃ held nextRenewal, (lineRun nullHasher somePeer 0 bootedCore lateReturn).phase = .available held nextRenewal ∧
      held.context.notAfter + 15 * 1000000000 = nextRenewal :=
  ⟨_, _, rfl, by decide +kernel⟩

end PhoneBoost.Host.Controller.Proofs
