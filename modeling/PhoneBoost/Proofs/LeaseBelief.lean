import PhoneBoost.Host.LeaseLine
import PhoneBoost.Proofs.CoreIdempotence
import PhoneBoost.Proofs.LeaseReplies

/-! What the host believes about its lease. The host counts from an instant that
lies before the worker's clock reading, so its bound is early but for the
rounding of that reading, and it only sends the sequence number that the worker
expects, so no RENEW is answered from the cache of an earlier one. -/

namespace PhoneBoost.Host.Controller.Proofs
open Worker Worker.Proofs Worker.ControllerLeaseManager

variable {manager : ControllerLeaseManager} {session : AuthenticatedSession} {command : ControllerCommand} {nowMs : Nat}
  {reads : Entropy} {peer : PeerId} {lease context : LeaseContext} {origin now sentAt : Nat} {held : Held}
  {seen : List Bytes16} {core : WorkerCore}

/-- What the worker's lease manager keeps by itself. -/
structure Tidy (manager : ControllerLeaseManager) : Prop where
  windows : Windows manager
  exclusive : ∀ record ∈ manager.released, manager.active = none

theorem Tidy.expire (tidy : Tidy manager) (nowMs : Nat) : Tidy (manager.expireIfNeeded nowMs).2 where
  windows active held := tidy.windows active (mem_of_expireIfNeeded held)
  exclusive record kept := by
    rw [expireIfNeeded_released] at kept
    rw [expireIfNeeded_active, tidy.exclusive record kept]
    rfl

theorem Tidy.stepped {after : ControllerLeaseManager} {events : List LeaseEvent} (tidy : Tidy manager)
    (stepped : LeaseStep nowMs reads manager after events) : Tidy after := by
  refine ⟨stepped.windows tidy.windows, ?_⟩
  have swept := (tidy.expire nowMs).exclusive
  cases stepped with
  | keep same => exact same ▸ tidy.exclusive
  | expire same => exact same ▸ swept
  | acquire _ _ same =>
    subst same
    rintro record ⟨⟩
  | renew holds _ same =>
    subst same
    intro record kept
    cases holds.held.symm.trans (swept record kept)
  | release _ _ same =>
    subst same
    exact fun _ _ => rfl

/-- The host knows the next number of its lease, if the worker still has it. -/
structure Follows (manager : ControllerLeaseManager) (peer : PeerId) (lease : LeaseContext) : Prop where
  active : ∀ active ∈ manager.active, active.id.bytes = lease.leaseId →
    active.peerId = peer ∧ active.nextCommandSequence = lease.nextCommandSeq.toNat
  released : ∀ record ∈ manager.released, record.id.bytes = lease.leaseId → ∀ entry ∈ record.terminal,
    entry.sequence = lease.nextCommandSeq.toNat → entry.lease = none

/-- The worker is as far with the lease as the host, or further. -/
def Behind (manager : ControllerLeaseManager) (lease : LeaseContext) : Prop :=
  ∀ active ∈ manager.active, active.id.bytes = lease.leaseId → lease.nextCommandSeq.toNat ≤ active.nextCommandSequence

theorem Follows.behind (follows : Follows manager peer lease) : Behind manager lease :=
  fun active held same => (follows.active active held same).2.ge

theorem Follows.expire (follows : Follows manager peer lease) (nowMs : Nat) :
    Follows (manager.expireIfNeeded nowMs).2 peer lease where
  active active held := follows.active active (mem_of_expireIfNeeded held)
  released record kept := follows.released record (by rwa [expireIfNeeded_released] at kept)

theorem Behind.expire (behind : Behind manager lease) (nowMs : Nat) : Behind (manager.expireIfNeeded nowMs).2 lease :=
  fun active held => behind active (mem_of_expireIfNeeded held)

theorem Behind.stepped {after : ControllerLeaseManager} {events : List LeaseEvent} (behind : Behind manager lease)
    (unseen : lease.leaseId ∉ drawn reads) (stepped : LeaseStep nowMs reads manager after events) : Behind after lease := by
  cases stepped with
  | keep same => exact same ▸ behind
  | expire same => exact same ▸ behind.expire nowMs
  | acquire _ fresh same =>
    subst same
    rintro active ⟨⟩ same
    exact absurd (same ▸ fresh) unseen
  | @renew active _ _ holds _ same =>
    subst same
    rintro _ ⟨⟩ same
    rw [advance_id] at same
    rw [advance_nextCommandSequence]
    exact (behind active (mem_of_expireIfNeeded holds.held) same).trans (Nat.le_succ _)
  | release _ _ same =>
    subst same
    rintro active ⟨⟩

/-- No command but a RENEW of this peer moves its lease on. -/
theorem Follows.commanded (follows : Follows manager peer lease) (tidy : Tidy manager) (unseen : lease.leaseId ∉ drawn reads)
    (other : ∀ leaseId sequence, command = .renew leaseId sequence → session.peerId ≠ peer) (nowMs : Nat) :
    Follows (manager.applyControllerCommand session command nowMs reads).2 peer lease := by
  cases command with
  | unsupported => exact follows
  | acquire =>
    rw [ControllerLeaseManager.applyControllerCommand]
    rcases applyAcquire_cases manager session nowMs reads with same | ⟨⟨active, held, -, fresh⟩, none⟩
    · exact same ▸ follows.expire nowMs
    · refine ⟨?_, by rw [none]; rintro record ⟨⟩⟩
      rw [held]
      rintro _ ⟨⟩ same
      exact absurd (same ▸ fresh) unseen
  | renew leaseId sequence =>
    rcases mutation_cases tidy.windows (.inl rfl) session nowMs reads with ⟨active, holds, executes⟩ | ⟨-, same, -⟩
    · rw [ControllerLeaseManager.applyControllerCommand, applyRenew_executes holds (holds.window tidy.windows) executes]
      refine ⟨?_, (follows.expire nowMs).released⟩
      rintro _ ⟨⟩ same
      rw [advance_id] at same
      have mine := (follows.active active (mem_of_expireIfNeeded holds.held) same).1
      exact absurd (holds.peer.symm.trans mine) (other leaseId sequence rfl)
    · rw [same]
      exact follows.expire nowMs
  | release leaseId sequence =>
    rcases mutation_cases tidy.windows (.inr rfl) session nowMs reads with ⟨active, holds, executes⟩ | ⟨-, same, -⟩
    · rw [ControllerLeaseManager.applyControllerCommand, applyRelease_executes holds (holds.window tidy.windows) executes]
      refine ⟨by rintro _ ⟨⟩, ?_⟩
      rintro _ ⟨⟩ same entry member number
      rw [advance_id] at same
      have next := (follows.active active (mem_of_expireIfNeeded holds.held) same).2
      rcases mem_advance_terminal member with old | rfl
      · have cached := ((holds.window tidy.windows).mem_cached entry.sequence).mp (List.mem_map_of_mem old)
        omega
      · rfl
    · rw [same]
      exact follows.expire nowMs

/-- A call finds the manager as it was, or swept of an expired lease. -/
theorem entered_keeps {P : ControllerLeaseManager → Prop} (kept : P core.leaseManager)
    (expires : ∀ nowMs, P (core.leaseManager.expireIfNeeded nowMs).2) (call : Call) : P (entered core call).leaseManager := by
  rcases entered_leaseManager core call with same | same
  · exact same ▸ kept
  · exact same ▸ expires call.startMs

theorem Tidy.step (tidy : Tidy core.leaseManager) (hasher : Hasher) (call : Call) :
    Tidy (Worker.step hasher core call).2.leaseManager := by
  rw [step_leaseManager]
  have entered := entered_keeps tidy tidy.expire call
  obtain ⟨events, stepped⟩ := commanded_step entered.windows call
  exact entered.stepped stepped

theorem Behind.step (behind : Behind core.leaseManager lease) (tidy : Tidy core.leaseManager) (hasher : Hasher) (call : Call)
    (unseen : lease.leaseId ∉ drawn call.reads) : Behind (Worker.step hasher core call).2.leaseManager lease := by
  rw [step_leaseManager]
  obtain ⟨events, stepped⟩ := commanded_step (entered_keeps tidy tidy.expire call).windows call
  have entered : Behind (entered core call).leaseManager lease := entered_keeps (P := (Behind · lease)) behind behind.expire call
  exact entered.stepped unseen stepped

theorem Follows.step (follows : Follows core.leaseManager peer lease) (tidy : Tidy core.leaseManager) (hasher : Hasher)
    (call : Call) (unseen : lease.leaseId ∉ drawn call.reads) (other : foreign peer call = true) :
    Follows (Worker.step hasher core call).2.leaseManager peer lease := by
  rw [step_leaseManager]
  have entered := entered_keeps (P := (Follows · peer lease)) follows follows.expire call
  cases call with
  | controllerCommand session command nowMs reads =>
    refine entered.commanded (entered_keeps tidy tidy.expire (.controllerCommand session command nowMs reads)) unseen ?_ nowMs
    rintro leaseId sequence rfl
    exact of_decide_eq_true other
  | resourceRequest | remoteBufferRequest | computeRequest | recordLocalHealth | heartbeatPayload
  | authenticatedSessionEnded => exact entered

/-- The bound of the host is at most a millisecond behind the expiry that the
worker had set when it answered. -/
def Believes (origin : Nat) (held : Held) : Prop :=
  ∃ active ∈ held.handled.after.active, active.id.bytes = held.context.leaseId ∧
    held.context.notAfter ≤ origin + (active.expiresAtMs + 1) * 1000000

structure Owned (peer : PeerId) (origin : Nat) (manager : ControllerLeaseManager) (seen : List Bytes16) (held : Held) :
    Prop where
  believes : Believes origin held
  follows : Follows manager peer held.context
  seen : held.context.leaseId ∈ seen

structure Past (origin : Nat) (manager : ControllerLeaseManager) (seen : List Bytes16) (held : Held) : Prop where
  believes : Believes origin held
  behind : Behind manager held.context
  seen : held.context.leaseId ∈ seen

theorem Owned.past (owned : Owned peer origin manager seen held) : Past origin manager seen held :=
  ⟨owned.believes, owned.follows.behind, owned.seen⟩

/-- Only an answer with a lease in it is accepted. -/
theorem leaseFromAck_ok {result : ControllerCommandResult} {previous : Option LeaseContext}
    (accepted : leaseFromAck (controllerAck result) previous sentAt = .ok context) :
    ∃ sequence ref, result = .completed sequence (some ref) ∧ UInt32.ofNat ref.ttlRemainingMs ≠ 0 ∧
      context = ⟨ref.leaseId.bytes, ref.workerIncarnationId.bytes, .ofNat ref.nextCommandSeq,
        sentAt + (UInt32.ofNat ref.ttlRemainingMs).toNat * 1000000⟩ := by
  rw [leaseFromAck] at accepted
  split at accepted
  · cases accepted
  next valid =>
  simp only [Bool.or_eq_true, decide_eq_true_eq, not_or, not_not] at valid
  obtain ⟨⟨⟨⟨⟨⟨⟨⟨state, -⟩, -⟩, present⟩, -⟩, -⟩, ttl⟩, -⟩, -⟩ := valid
  cases result with
  | failed => exact absurd (show (3 : UInt8) = 2 from state) (by decide)
  | completed sequence lease =>
    cases lease with
    | none => exact absurd (show (0 : UInt8) = 1 from present) (by decide)
    | some ref => exact ⟨sequence, ref, rfl, ttl, (Except.ok.inj accepted).symm⟩

/-- An answer that tells the facts of the moment gives the host its lease. -/
theorem owned_of_describes {ref : ControllerLeaseRef} {before after : ControllerLeaseManager} (tidy : Tidy after)
    (known : ∀ leaseId, Current after leaseId → leaseId.bytes ∈ seen) (describes : Describes ref after (workerMs origin now))
    (own : ∀ active ∈ after.active, active.peerId = peer) (live : UInt32.ofNat ref.ttlRemainingMs ≠ 0)
    (sent : sentAt ≤ now) (started : origin ≤ now) :
    Owned peer origin after seen ⟨⟨ref.leaseId.bytes, ref.workerIncarnationId.bytes, .ofNat ref.nextCommandSeq,
      sentAt + (UInt32.ofNat ref.ttlRemainingMs).toNat * 1000000⟩, sentAt, ⟨workerMs origin now, before, after⟩⟩ := by
  obtain ⟨active, held, id, -, ttl, next, -⟩ := describes
  have bounded := (tidy.windows active held).bounded
  refine ⟨⟨active, held, by rw [id], ?_⟩, ⟨?_, ?_⟩, ?_⟩
  · have low : (UInt32.ofNat ref.ttlRemainingMs).toNat ≤ ref.ttlRemainingMs := by
      rw [UInt32.toNat_ofNat']
      exact Nat.mod_le _ _
    have positive : (UInt32.ofNat ref.ttlRemainingMs).toNat ≠ 0 := fun zero => live (UInt32.toNat_inj.mp zero)
    have clock : now < origin + (workerMs origin now + 1) * 1000000 := by
      unfold workerMs
      omega
    dsimp only
    omega
  · intro other present _
    cases held.symm.trans present
    refine ⟨own active held, ?_⟩
    rw [UInt64.toNat_ofNat_of_lt', next]
    rw [next]
    exact Nat.lt_succ_of_le bounded
  · intro record kept
    cases held.symm.trans (tidy.exclusive record kept)
  · dsimp only
    rw [id]
    exact known active.id ⟨active, held, rfl⟩

theorem applyAcquire_peer {commandSeq : Nat} {ref : ControllerLeaseRef}
    (answered : (manager.applyAcquire session nowMs reads).1 = .ok (.completed commandSeq (some ref))) :
    ∀ active ∈ (manager.applyAcquire session nowMs reads).2.active, active.peerId = session.peerId := by
  unfold applyAcquire at answered ⊢
  dsimp only at answered ⊢
  cases held : (manager.expireIfNeeded nowMs).2.active with
  | some active =>
    rw [held] at answered
    dsimp only at answered ⊢
    split at answered
    next own =>
      rw [if_pos own]
      intro other present
      cases held.symm.trans present
      exact own
    · cases answered
  | none =>
    rw [held] at answered
    dsimp only at answered ⊢
    split at answered
    · cases answered
    · rintro active ⟨⟩
      rfl

/-- A RENEW under the number that the worker expects is executed: neither the
cache of the lease nor that of a released lease has another answer for it. -/
theorem renew_executed {sequence : Nat} {ref : ControllerLeaseRef} {after : ControllerLeaseManager} (tidy : Tidy manager)
    (follows : Follows manager peer lease)
    (applied : manager.applyRenew ⟨peer⟩ ⟨lease.leaseId⟩ lease.nextCommandSeq.toNat nowMs =
      (.ok (.completed sequence (some ref)), after)) :
    ∃ active, Holds manager ⟨peer⟩ ⟨lease.leaseId⟩ nowMs active ∧
      admission active lease.nextCommandSeq.toNat = .executeOnce := by
  rcases mutation_cases tidy.windows (.inl rfl) ⟨peer⟩ nowMs [] with executes | ⟨-, -, cached⟩
  · exact executes
  obtain ⟨-, record, found, id, member⟩ := cached _ _ (congrArg Prod.fst applied)
  rcases found with present | kept
  · have next := (follows.active record present (by rw [id])).2
    have older := ((tidy.windows record present).mem_cached _).mp (List.mem_map_of_mem member)
    dsimp only at older
    omega
  · cases follows.released record kept (by rw [id]) _ member rfl

/-- What the worker makes of the command that the host sends for its lease. -/
abbrev ask (manager : ControllerLeaseManager) (peer : PeerId) (previous : Option Held) (nowMs : Nat) (reads : Entropy) :
    CommandOutcome × ControllerLeaseManager :=
  manager.applyControllerCommand ⟨peer⟩ (Worker.controllerCommand (request (previous.map Held.context))) nowMs reads

theorem handled_owned {previous : Option Held} {result : ControllerCommandResult} {after : ControllerLeaseManager}
    (tidy : Tidy manager) (applied : ask manager peer previous (workerMs origin now) reads = (.ok result, after))
    (known : ∀ leaseId, Current after leaseId → leaseId.bytes ∈ seen)
    (follows : ∀ held ∈ previous, Follows manager peer held.context) (sent : sentAt ≤ now) (started : origin ≤ now)
    (before : ControllerLeaseManager)
    (accepted : leaseFromAck (controllerAck result) (previous.map Held.context) sentAt = .ok context) :
    Owned peer origin after seen ⟨context, sentAt, ⟨workerMs origin now, before, after⟩⟩ := by
  obtain ⟨sequence, ref, rfl, live, rfl⟩ := leaseFromAck_ok accepted
  have tidy' := tidy.stepped (applyControllerCommand_step tidy.windows ⟨peer⟩
    (Worker.controllerCommand (request (previous.map Held.context))) (workerMs origin now) reads)
  rw [show (ask manager peer previous (workerMs origin now) reads).2 = after from congrArg Prod.snd applied] at tidy'
  cases previous with
  | none =>
    have answered : (manager.applyAcquire ⟨peer⟩ (workerMs origin now) reads).1 = _ := congrArg Prod.fst applied
    have describes := applyAcquire_describes answered
    have own := applyAcquire_peer answered
    rw [show (manager.applyAcquire ⟨peer⟩ (workerMs origin now) reads).2 = after from congrArg Prod.snd applied] at describes own
    exact owned_of_describes tidy' known describes own live sent started
  | some held =>
    obtain ⟨active, holds, executes⟩ := renew_executed tidy (follows held rfl) applied
    cases applied.symm.trans (applyRenew_executes holds (holds.window tidy.windows) executes)
    refine owned_of_describes tidy' known (renewedRef_describes ..) ?_ live sent started
    rintro _ ⟨⟩
    rw [advance_peerId]
    exact holds.peer

/-- How the phase of the host and the command under way fit together. -/
inductive Coupled (peer : PeerId) (origin : Nat) (manager : ControllerLeaseManager) (seen : List Bytes16) (now : Nat) :
    Phase → Exchange → Prop where
  | closed (exchange : Exchange) : Coupled peer origin manager seen now .closed exchange
  | acquiring : Coupled peer origin manager seen now .acquiring .idle
  | asked {previous : Option Held} {sentAt : Nat} (sent : sentAt ≤ now) (owned : ∀ held ∈ previous, Owned peer origin manager seen held) :
      Coupled peer origin manager seen now (.asking previous sentAt) (.asked (request (previous.map Held.context)))
  | answered {previous : Option Held} {sentAt : Nat} {ack handled} (past : ∀ held ∈ previous, Past origin manager seen held)
      (accepted : ∀ context, leaseFromAck ack (previous.map Held.context) sentAt = .ok context →
        Owned peer origin manager seen ⟨context, sentAt, handled⟩) :
      Coupled peer origin manager seen now (.asking previous sentAt) (.answered ack handled)
  | unanswered {previous : Option Held} {sentAt : Nat} (past : ∀ held ∈ previous, Past origin manager seen held) :
      Coupled peer origin manager seen now (.asking previous sentAt) .idle
  | preparing {held : Held} (owned : Owned peer origin manager seen held) :
      Coupled peer origin manager seen now (.preparing held) .idle
  | available {held : Held} {nextRenewal} (owned : Owned peer origin manager seen held) :
      Coupled peer origin manager seen now (.available held nextRenewal) .idle

section Line
variable {phase : Phase} {exchange : Exchange}

theorem Coupled.mono {manager' : ControllerLeaseManager} {seen' : List Bytes16} {later : Nat}
    (coupled : Coupled peer origin manager seen now phase exchange)
    (owned : ∀ held, Owned peer origin manager seen held → Owned peer origin manager' seen' held)
    (past : ∀ held, Past origin manager seen held → Past origin manager' seen' held) (after : now ≤ later) :
    Coupled peer origin manager' seen' later phase exchange := by
  cases coupled with
  | closed => exact .closed _
  | acquiring => exact .acquiring
  | asked sent own => exact .asked (sent.trans after) fun held member => owned held (own held member)
  | answered old accepted =>
    exact .answered (fun held member => past held (old held member)) fun context ok => owned _ (accepted context ok)
  | unanswered old => exact .unanswered fun held member => past held (old held member)
  | preparing own => exact .preparing (owned _ own)
  | available own => exact .available (owned _ own)

/-- Without its session no command is under way any more. -/
theorem Coupled.cut (coupled : Coupled peer origin manager seen now phase exchange) :
    Coupled peer origin manager seen now phase .idle := by
  cases coupled with
  | closed => exact .closed _
  | acquiring => exact .acquiring
  | asked _ own => exact .unanswered fun held member => (own held member).past
  | answered past _ | unanswered past => exact .unanswered past
  | preparing own => exact .preparing own
  | available own => exact .available own

theorem Coupled.past (coupled : Coupled peer origin manager seen now phase exchange) (holds : held ∈ phase.held) :
    Past origin manager seen held := by
  cases coupled with
  | closed | acquiring => cases holds
  | asked _ own => exact (own held holds).past
  | answered past _ | unanswered past => exact past held holds
  | preparing own | available own =>
    cases holds
    exact own.past

structure Sound (peer : PeerId) (origin : Nat) (seen : List Bytes16) (line : Line) : Prop where
  tidy : Tidy line.worker.leaseManager
  known : ∀ leaseId, Current line.worker.leaseManager leaseId → leaseId.bytes ∈ seen
  started : origin ≤ line.now
  coupled : Coupled peer origin line.worker.leaseManager seen line.now line.phase line.exchange

variable {line : Line} {hasher : Hasher} {call : Call}

theorem Past.step (past : Past origin core.leaseManager seen held) (tidy : Tidy core.leaseManager) (hasher : Hasher)
    (unseen : ∀ id ∈ seen, id ∉ drawn call.reads) :
    Past origin (Worker.step hasher core call).2.leaseManager (seen ++ drawn call.reads) held :=
  ⟨past.believes, past.behind.step tidy hasher call (unseen _ past.seen), List.mem_append_left _ past.seen⟩

theorem Owned.step (owned : Owned peer origin core.leaseManager seen held) (tidy : Tidy core.leaseManager) (hasher : Hasher)
    (unseen : ∀ id ∈ seen, id ∉ drawn call.reads) (other : foreign peer call = true) :
    Owned peer origin (Worker.step hasher core call).2.leaseManager (seen ++ drawn call.reads) held :=
  ⟨owned.believes, owned.follows.step tidy hasher call (unseen _ owned.seen) other, List.mem_append_left _ owned.seen⟩

theorem known_step (tidy : Tidy core.leaseManager) (known : ∀ leaseId, Current core.leaseManager leaseId → leaseId.bytes ∈ seen) :
    ∀ leaseId, Current (Worker.step hasher core call).2.leaseManager leaseId → leaseId.bytes ∈ seen ++ drawn call.reads := by
  intro leaseId current
  exact List.mem_append.mpr ((step_current_origin tidy.windows current).imp_left (known leaseId))

/-- A call of anyone else. -/
theorem Sound.served (sound : Sound peer origin seen line) (unseen : ∀ id ∈ seen, id ∉ drawn call.reads)
    (other : foreign peer call = true) :
    Sound peer origin (seen ++ drawn call.reads) { line with worker := (Worker.step hasher line.worker call).2 } where
  tidy := sound.tidy.step hasher call
  known := known_step sound.tidy sound.known
  started := sound.started
  coupled := sound.coupled.mono (fun _ owned => owned.step sound.tidy hasher unseen other)
    (fun _ past => past.step sound.tidy hasher unseen) le_rfl

theorem Sound.longer (sound : Sound peer origin seen line) (more : List Bytes16) : Sound peer origin (seen ++ more) line where
  tidy := sound.tidy
  known leaseId current := List.mem_append_left _ (sound.known leaseId current)
  started := sound.started
  coupled := sound.coupled.mono (fun _ owned => ⟨owned.believes, owned.follows, List.mem_append_left _ owned.seen⟩)
    (fun _ past => ⟨past.believes, past.behind, List.mem_append_left _ past.seen⟩) le_rfl

theorem Sound.wait (sound : Sound peer origin seen line) (elapsed : Nat) :
    Sound peer origin seen { line with now := line.now + elapsed } where
  tidy := sound.tidy
  known := sound.known
  started := sound.started.trans (Nat.le_add_right _ _)
  coupled := sound.coupled.mono (fun _ owned => owned) (fun _ past => past) (Nat.le_add_right _ _)

theorem applyControllerCommand_outcome (core : WorkerCore) (session : VerifiedPeerSession) (command : ControllerCommand)
    (nowMs : Nat) (reads : Entropy) :
    (core.reconcileExpiredControllerLease nowMs).leaseManager.applyControllerCommand (.fromVerified session) command nowMs
      reads = ((core.applyControllerCommand session command nowMs reads).1,
        (core.applyControllerCommand session command nowMs reads).2.leaseManager) := by
  rcases applied : (core.reconcileExpiredControllerLease nowMs).leaseManager.applyControllerCommand (.fromVerified session)
    command nowMs reads with ⟨outcome, manager⟩
  rcases applyControllerCommand_core core session command nowMs reads applied with ⟨_, same⟩ | ⟨_, _, _, _, _, same⟩
  · rw [same]
  · rw [same, endLease_leaseManager]

theorem Sound.handle (sound : Sound peer origin seen line) {command : Pbmux.CommandPayload}
    (asked : line.exchange = .asked command) (hasher : Hasher) (session : VerifiedSessionId)
    (unseen : ∀ id ∈ seen, id ∉ drawn reads) :
    Sound peer origin (seen ++ drawn reads) (line.handle peer origin command session reads) := by
  obtain ⟨now, worker, phase, exchange⟩ := line
  cases asked
  obtain ⟨tidy, known, started, coupled⟩ := sound
  dsimp only at tidy known started coupled
  have swept := entered_keeps tidy tidy.expire
    (.controllerCommand ⟨peer, session⟩ (Worker.controllerCommand command) (workerMs origin now) reads)
  have tidy' := tidy.step hasher
    (.controllerCommand ⟨peer, session⟩ (Worker.controllerCommand command) (workerMs origin now) reads)
  have known' := @known_step _ _ hasher
    (.controllerCommand ⟨peer, session⟩ (Worker.controllerCommand command) (workerMs origin now) reads) tidy known
  have past' := fun held (past : Past origin worker.leaseManager seen held) => @Past.step _ _ _ _
    (.controllerCommand ⟨peer, session⟩ (Worker.controllerCommand command) (workerMs origin now) reads) past tidy hasher unseen
  have applied := applyControllerCommand_outcome worker ⟨peer, session⟩ (Worker.controllerCommand command)
    (workerMs origin now) reads
  simp only [Worker.step] at tidy' known' past'
  rw [Line.handle]
  dsimp only
  generalize worker.applyControllerCommand ⟨peer, session⟩ (Worker.controllerCommand command) (workerMs origin now) reads =
    answer at tidy' known' past' applied ⊢
  obtain ⟨outcome, worker'⟩ := answer
  cases outcome with
  | error _ =>
    refine ⟨tidy', known', started, ?_⟩
    cases coupled with
    | closed => exact .closed _
    | asked sent owned => exact .unanswered fun held member => past' held (owned held member).past
  | ok result =>
    refine ⟨tidy', known', started, ?_⟩
    cases coupled with
    | closed => exact .closed _
    | asked sent owned =>
      refine .answered (fun held member => past' held (owned held member).past) fun context accepted => ?_
      refine handled_owned swept applied known' (fun held member => ?_) sent started _ accepted
      exact entered_keeps (P := (Follows · peer held.context)) (owned held member).follows (owned held member).follows.expire
        (.controllerCommand ⟨peer, session⟩ (Worker.controllerCommand _) (workerMs origin now) reads)

theorem Sound.receive (sound : Sound peer origin seen line) {previous : Option Held} {ack : Pbmux.AckPayload}
    {handled : Handled} (phase : line.phase = .asking previous sentAt) (exchange : line.exchange = .answered ack handled) :
    Sound peer origin seen (line.receive ack handled previous sentAt) := by
  obtain ⟨now, worker, _, _⟩ := line
  cases phase
  cases exchange
  obtain ⟨tidy, known, started, coupled⟩ := sound
  dsimp only at tidy known started coupled
  cases coupled with
  | answered past accepted =>
    unfold Line.receive
    cases taken : leaseFromAck ack (previous.map Held.context) sentAt with
    | ok context =>
      have owned := accepted context taken
      cases previous with
      | none => exact ⟨tidy, known, started, .preparing owned⟩
      | some _ => exact ⟨tidy, known, started, .available owned⟩
    | error _ =>
      cases previous with
      | none => exact ⟨tidy, known, started, .acquiring⟩
      | some _ => exact ⟨tidy, known, started, .closed _⟩

theorem Sound.react (sound : Sound peer origin seen line) (hasher : Hasher) (moment : Moment)
    (unseen : ∀ id ∈ seen, id ∉ drawn moment.reads) :
    Sound peer origin (seen ++ drawn moment.reads) (line.react hasher peer origin moment.event) := by
  obtain ⟨elapsed, event⟩ := moment
  cases event with
  | connect =>
    refine Sound.longer ?_ _
    simp only [Line.react]
    split
    next phase exchange => exact ⟨sound.tidy, sound.known, sound.started, exchange ▸ .acquiring⟩
    · exact sound
  | acquire =>
    refine Sound.longer ?_ _
    simp only [Line.react]
    split
    · exact ⟨sound.tidy, sound.known, sound.started, .asked le_rfl (by rintro _ ⟨⟩)⟩
    · exact sound
  | renew =>
    refine Sound.longer ?_ _
    simp only [Line.react]
    split
    next held nextRenewal phase =>
      split
      · have coupled := sound.coupled
        rw [phase] at coupled
        generalize line.exchange = exchange at coupled
        cases coupled with
        | available owned =>
          refine ⟨sound.tidy, sound.known, sound.started, .asked le_rfl ?_⟩
          rintro _ ⟨⟩
          exact owned
      · exact sound
    · exact sound
  | handle session reads =>
    simp only [Line.react]
    split
    next command asked => exact sound.handle asked hasher session unseen
    · exact sound.longer _
  | receive =>
    refine Sound.longer ?_ _
    simp only [Line.react]
    split
    next previous sentAt ack handled phase exchange =>
      split
      · exact sound.receive phase exchange
      · exact ⟨sound.tidy, sound.known, sound.started, .closed _⟩
    · exact sound
  | enter =>
    refine Sound.longer ?_ _
    simp only [Line.react]
    split
    next held phase =>
      have coupled := sound.coupled
      rw [phase] at coupled
      refine ⟨sound.tidy, sound.known, sound.started, ?_⟩
      dsimp only
      generalize line.exchange = exchange at coupled ⊢
      cases coupled with
      | preparing owned => exact .available owned
    · exact sound
  | lost =>
    refine Sound.longer ?_ _
    exact ⟨sound.tidy, sound.known, sound.started, .closed _⟩
  | sessionEnded session =>
    have ended := @Sound.served _ _ _ _ hasher (.authenticatedSessionEnded ⟨peer, session⟩ (workerMs origin line.now)) sound
      unseen rfl
    exact ⟨ended.tidy, ended.known, ended.started, ended.coupled.cut⟩
  | call call =>
    simp only [Line.react]
    split
    next valid =>
      simp only [Bool.and_eq_true] at valid
      exact sound.served unseen valid.1
    · exact sound.longer _

/-- The identifiers drawn in the run so far. -/
def drawnIn (moments : List Moment) : List Bytes16 := moments.flatMap fun moment => drawn moment.reads

theorem lineRun_sound {boot : Entropy} {start : WorkerCore} (booted : WorkerCore.coldStart boot = some start) (hasher : Hasher)
    (peer : PeerId) (origin : Nat) (moments : List Moment) (fresh : Machine.Distinct (fun moment => drawn moment.reads) moments) :
    Sound peer origin (drawnIn moments) (lineRun hasher peer origin start moments) := by
  refine Machine.run_induction (Machine.Distinct fun moment : Moment => drawn moment.reads)
    (fun moments line => Sound peer origin (drawnIn moments) line) (fun inputs input => Machine.Distinct.shorter inputs input)
    ?_ ?_ moments fresh
  · obtain ⟨id, rfl⟩ := coldStart_some booted
    refine ⟨⟨by rintro _ ⟨⟩, fun _ _ => rfl⟩, ?_, le_rfl, .closed _⟩
    rintro leaseId ⟨active, ⟨⟩, _⟩
  · intro inputs moment line fresh sound
    have step := (sound.wait moment.elapsed).react hasher moment fun id member => fresh.unseen member
    rw [drawnIn, List.flatMap_append, List.flatMap_singleton]
    exact step

/-- Whatever happens to the connections, the host never takes its lease to last
longer than the worker does, and never counts further than the worker. -/
theorem lease_belief {boot : Entropy} {start : WorkerCore} (booted : WorkerCore.coldStart boot = some start) (hasher : Hasher)
    (peer : PeerId) (origin : Nat) (moments : List Moment) (fresh : Machine.Distinct (fun moment => drawn moment.reads) moments) :
    let line := lineRun hasher peer origin start moments
    ∀ held ∈ line.phase.held, Believes origin held ∧ Behind line.worker.leaseManager held.context := by
  intro line held holds
  have past := (lineRun_sound booted hasher peer origin moments fresh).coupled.past holds
  exact ⟨past.believes, past.behind⟩

/-- An ACQUIRE and, twenty seconds after the loop was entered, a RENEW. -/
def oneRenewal : List Moment :=
  [⟨500, .connect⟩, ⟨0, .acquire⟩, ⟨1500000, .handle ⟨filled 5⟩ [some (filled 1)]⟩, ⟨0, .receive⟩, ⟨0, .enter⟩,
    ⟨renewalInterval, .renew⟩, ⟨700000, .handle ⟨filled 5⟩ []⟩, ⟨0, .receive⟩]

/-- The bound counts from the instant before the RENEW was sent. -/
theorem lease_belief_renewed :
    WorkerCore.coldStart [some (filled 9)] = some bootedCore ∧
    ∃ held, (lineRun nullHasher somePeer 0 bootedCore oneRenewal).phase.held = some held ∧
      held.context.notAfter = 80001500500 ∧ Believes 0 held := by
  have belief := @lease_belief [some (filled 9)] bootedCore rfl nullHasher somePeer 0 oneRenewal (by decide)
  obtain ⟨held, holds, bound⟩ : ∃ held, (lineRun nullHasher somePeer 0 bootedCore oneRenewal).phase.held = some held ∧
    held.context.notAfter = 80001500500 := ⟨_, rfl, by decide +kernel⟩
  exact ⟨rfl, held, holds, bound, (belief held holds).1⟩

end Line
end PhoneBoost.Host.Controller.Proofs
