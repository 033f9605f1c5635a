import PhoneBoost.Proofs.DisableRelease

/-! What a positive gate observation stands for. Both records carry the identity
of the session that they were made for, and each way of losing that session
clears them. -/

namespace PhoneBoost.Host.Manager.Proofs
open Controller

def observed (data : SharedData) : LeaseObservation × AdmissionProofObservation :=
  (data.leaseObservation, data.admissionProofObservation)

section Observed
variable (data : SharedData) (identity : SessionIdentity) (reason : AutoUseReason)

@[simp] theorem publishAvailable_observed (session : Session) (authenticated : Bool) :
    observed (data.publishAvailable session authenticated) = observed data := by
  unfold SharedData.publishAvailable
  split <;> rfl

@[simp] theorem markConnectionLost_observed : observed (data.markConnectionLost identity) = observed data := by
  unfold SharedData.markConnectionLost
  split <;> rfl

@[simp] theorem markDegraded_observed : observed (data.markDegraded identity reason) = observed data := by
  unfold SharedData.markDegraded
  split <;> rfl

@[simp] theorem setPhase_observed (epoch : Nat) (state : AutoUseState) :
    observed (data.setPhase epoch state reason) = observed data := by
  unfold SharedData.setPhase
  split <;> rfl

end Observed

def isRecord : Event → Bool
  | .leased .. | .probed .. => true
  | _ => false

def leasedTo (identity : SessionIdentity) : Event → Option LeaseContext
  | .leased other lease => if other = identity then some lease else none
  | _ => none

def probe : Event → Option (SessionIdentity × LeaseContext × Bool × Nat)
  | .probed identity lease passed time => some (identity, lease, passed, time)
  | _ => none

/-- The lease of the latest successful ACQUIRE or RENEW of a session. -/
def lastLeased (log : List Event) (identity : SessionIdentity) : Option LeaseContext :=
  (log.filterMap (leasedTo identity)).getLast?

/-- The probe that was recorded last: its session, its lease, whether it passed, and when. -/
def lastProbe (log : List Event) : Option (SessionIdentity × LeaseContext × Bool × Nat) := (log.filterMap probe).getLast?

theorem filterMap_records {f : Event → Option α} (only : ∀ event, isRecord event = false → f event = none)
    (log : List Event) : (log.filter isRecord).filterMap f = log.filterMap f := by
  induction log with
  | nil => rfl
  | cons event log ih =>
    cases plain : isRecord event with
    | false => simp [plain, ih, only event plain]
    | true => simp [plain, ih, List.filterMap_cons]

theorem lastLeased_records (log : List Event) (identity : SessionIdentity) :
    lastLeased (log.filter isRecord) identity = lastLeased log identity := by
  rw [lastLeased, filterMap_records, lastLeased]
  intro event plain
  cases event <;> first | rfl | cases plain

theorem lastProbe_records (log : List Event) : lastProbe (log.filter isRecord) = lastProbe log := by
  rw [lastProbe, filterMap_records, lastProbe]
  intro event plain
  cases event <;> first | rfl | cases plain

/-- The records of a session stand while the session is current, and repeat what
was learnt last. -/
structure Recorded (system : System) : Prop where
  leases : system.data.leaseObservation.observation.state = .active →
    ∃ identity lease, system.data.sessionIdentity = some identity ∧ lastLeased system.log identity = some lease ∧
      system.data.leaseObservation = ⟨⟨.active, "C07_ACK_FRESH"⟩, identity, lease.leaseId, lease.incarnation, lease.notAfter⟩
  proofs : ∀ time, system.data.admissionProofObservation.observedAt = some time → time ≤ system.now ∧
    ∃ identity lease passed, system.data.sessionIdentity = some identity ∧
      lastProbe system.log = some (identity, lease, passed, time) ∧
      system.data.admissionProofObservation.identity = some identity ∧
      system.data.admissionProofObservation.leaseId = some lease.leaseId ∧
      system.data.admissionProofObservation.incarnation = some lease.incarnation ∧
      (system.data.admissionProofObservation.observation.state = .freshPass → passed = true)
  unproved : system.data.admissionProofObservation.observedAt = none →
    system.data.admissionProofObservation.observation.state ≠ .freshPass

/-- There is nothing to report. -/
structure Blank (data : SharedData) : Prop where
  lease : data.leaseObservation.observation.state ≠ .active
  proof : data.admissionProofObservation.observedAt = none
  unproved : data.admissionProofObservation.observation.state ≠ .freshPass

theorem Blank.recorded {system : System} (blank : Blank system.data) : Recorded system where
  leases active := absurd active blank.lease
  proofs _ proved := by
    rw [blank.proof] at proved
    cases proved
  unproved _ := blank.unproved

section Steps
variable {system next : System}

theorem Recorded.blank (recorded : Recorded system) (gone : system.data.sessionIdentity = none) : Blank system.data := by
  have unobserved : system.data.admissionProofObservation.observedAt = none := by
    by_contra proved
    obtain ⟨time, proved⟩ := Option.ne_none_iff_exists'.mp proved
    obtain ⟨-, _, _, _, current, -⟩ := recorded.proofs time proved
    rw [gone] at current
    cases current
  refine ⟨fun active => ?_, unobserved, recorded.unproved unobserved⟩
  obtain ⟨_, _, current, -⟩ := recorded.leases active
  rw [gone] at current
  cases current

theorem Recorded.keeps (recorded : Recorded system) (identity : next.data.sessionIdentity = system.data.sessionIdentity)
    (same : observed next.data = observed system.data) (log : next.log.filter isRecord = system.log.filter isRecord)
    (now : system.now ≤ next.now) : Recorded next := by
  have leased : lastLeased next.log = lastLeased system.log := by
    funext identity
    rw [← lastLeased_records next.log, log, lastLeased_records]
  have probed : lastProbe next.log = lastProbe system.log := by
    rw [← lastProbe_records next.log, log, lastProbe_records]
  simp only [observed, Prod.mk.injEq] at same
  refine ⟨?_, ?_, ?_⟩
  · rw [same.1, identity, leased]
    exact recorded.leases
  · rw [same.2, identity, probed]
    intro time proved
    obtain ⟨past, probe⟩ := recorded.proofs time proved
    exact ⟨past.trans now, probe⟩
  · rw [same.2]
    exact recorded.unproved

/-- A session that is not held is gone. -/
theorem Coherent.gone (coherent : Coherent system) {session : Session} (own : Proofs.session system.pc = some session)
    (lost : system.data.holds session.identity = false) : system.data.sessionIdentity = none := by
  cases current : system.data.sessionIdentity with
  | none => rfl
  | some identity =>
    obtain ⟨enabled, -, other, member, rfl⟩ := coherent identity current
    rw [own] at member
    cases member
    simp [SharedData.holds, enabled, current] at lost

theorem Recorded.leased (recorded : Recorded system) (coherent : Coherent system) {session : Session}
    (own : Proofs.session system.pc = some session) (lease : LeaseContext) (pc : Pc) :
    Recorded { system with
      data := system.data.recordLeaseActive session.identity lease
      pc
      log := system.log ++ [.leased session.identity lease] } := by
  unfold SharedData.recordLeaseActive
  split
  next holds =>
    simp only [SharedData.holds, Bool.and_eq_true, decide_eq_true_eq] at holds
    refine ⟨fun _ => ⟨session.identity, lease, holds.2, by simp [lastLeased, leasedTo], rfl⟩, ?_, recorded.unproved⟩
    have probed : lastProbe (system.log ++ [.leased session.identity lease]) = lastProbe system.log := by
      simp [lastProbe, probe]
    rw [probed]
    exact recorded.proofs
  next lost =>
    obtain ⟨unleased, unobserved, unproved⟩ := recorded.blank (coherent.gone own (by simpa using lost))
    exact Blank.recorded ⟨unleased, unobserved, unproved⟩

theorem Recorded.probed (recorded : Recorded system) (session : Session) (lease : LeaseContext) (passed : Bool) :
    Recorded { system with
      data := system.data.recordAdmissionProof session.identity lease passed system.now
      log := system.logged (.probed session.identity lease passed system.now) (system.data.holds session.identity) } := by
  unfold SharedData.recordAdmissionProof
  split
  next holds =>
    have current : system.data.sessionIdentity = some session.identity := by
      simp only [SharedData.holds, Bool.and_eq_true, decide_eq_true_eq] at holds
      exact holds.2
    simp only [System.logged, holds, if_true]
    refine ⟨?_, ?_, by rintro ⟨⟩⟩
    · have leased : lastLeased (system.log ++ [.probed session.identity lease passed system.now]) = lastLeased system.log := by
        funext identity
        simp [lastLeased, leasedTo]
      rw [leased]
      exact recorded.leases
    · rintro _ ⟨⟩
      refine ⟨le_rfl, session.identity, lease, passed, current, by simp [lastProbe, probe], rfl, rfl, rfl, ?_⟩
      cases passed <;> simp
  next lost =>
    simp only [System.logged, lost]
    exact recorded

theorem Recorded.unavailable (recorded : Recorded system) (identity : SessionIdentity) (reason : String) (pc : Pc) :
    Recorded { system with data := system.data.recordLeaseUnavailable identity reason, pc } := by
  unfold SharedData.recordLeaseUnavailable
  split
  · exact ⟨by rintro ⟨⟩, recorded.proofs, recorded.unproved⟩
  · exact ⟨recorded.leases, recorded.proofs, recorded.unproved⟩

theorem Recorded.clearSession (recorded : Recorded system) (coherent : Coherent system) {session : Session}
    (own : Proofs.session system.pc = some session) : Blank (system.data.clearSession session.identity) := by
  unfold SharedData.clearSession
  split
  · exact ⟨by rintro ⟨⟩, rfl, by rintro ⟨⟩⟩
  next other =>
    refine recorded.blank (coherent.gone own ?_)
    simp [SharedData.holds, other]

end Steps

theorem Recorded.managerStep {system : System} (recorded : Recorded system) (coherent : Coherent system) (answer : Answer) :
    Recorded (system.managerStep answer) := by
  have stays : ∀ next : System, frame next.data = frame system.data → observed next.data = observed system.data →
      next.log.filter isRecord = system.log.filter isRecord → next.now = system.now → Recorded next :=
    fun next frames same log now => recorded.keeps (sessionIdentity_of_frame frames) same log now.ge
  unfold System.managerStep
  cases pc : system.pc with
  | outside epoch =>
    have gone : system.data.sessionIdentity = none := by
      cases current : system.data.sessionIdentity with
      | none => rfl
      | some identity =>
        obtain ⟨-, -, _, member, -⟩ := coherent identity current
        rw [pc] at member
        cases member
    cases epoch with
    | none =>
      dsimp only
      split_ifs <;> exact stays _ rfl rfl rfl rfl
    | some epoch =>
      dsimp only
      split
      · exact stays _ rfl rfl rfl rfl
      split
      · -- a new session starts without records
        obtain ⟨lease, proof, unproved⟩ := recorded.blank gone
        exact Blank.recorded ⟨lease, proof, unproved⟩
      · split_ifs <;> exact stays _ (by simp) (by simp) rfl rfl
  | asking session =>
    dsimp only
    split
    · exact recorded.leased coherent (by rw [pc]; rfl) _ _
    · split_ifs
      · exact stays _ rfl rfl rfl rfl
      · exact recorded.unavailable _ _ _
  | renewing session lease =>
    dsimp only
    split
    · exact recorded.leased coherent (by rw [pc]; rfl) _ _
    · exact (recorded.unavailable session.identity "C07_RENEW_FAILED" (.losing session)).keeps rfl rfl rfl le_rfl
  | probing session lease first =>
    simp only [System.probeEnds]
    have probed := recorded.probed session lease answer.ok
    split_ifs <;> first | exact probed.keeps rfl rfl rfl le_rfl | exact stays _ rfl rfl rfl rfl
  | closing session => exact Blank.recorded (recorded.clearSession coherent (by rw [pc]; rfl))
  | refused | acquired | losing => exact stays _ (by simp) (by simp) rfl rfl
  | checking | idling =>
    dsimp only
    split
    · exact stays _ rfl rfl (filter_concat _ rfl) rfl
    · exact stays _ rfl rfl rfl rfl
  | degrading =>
    dsimp only
    split <;> exact stays _ (by simp) (by simp) (filter_logged system _ rfl) rfl
  | publishing =>
    dsimp only
    split
    · exact stays _ rfl rfl rfl rfl
    · exact stays _ (by simp [System.publish]) (by simp [System.publish]) (filter_logged system _ rfl) rfl
  | republishing => exact stays _ (by simp [System.publish]) (by simp [System.publish]) (filter_logged system _ rfl) rfl
  | leaving =>
    dsimp only
    split
    · exact stays _ rfl rfl ((filter_concat _ rfl).trans (filter_logged system _ rfl)) rfl
    · exact recorded
  | authenticating | acquiring | looping | live | renewed =>
    dsimp only
    split_ifs <;> exact stays _ (by simp [System.close]) (by simp [System.close]) rfl rfl

theorem Recorded.act {system : System} (recorded : Recorded system) (coherent : Coherent system) (act : Act) :
    Recorded (system.act act) := by
  cases act with
  | manager answer => exact recorded.managerStep coherent answer
  | enable =>
    simp only [System.act, SharedData.enable]
    split
    · exact recorded
    · exact Blank.recorded ⟨by rintro ⟨⟩, rfl, by rintro ⟨⟩⟩
  | disable =>
    simp only [System.act, SharedData.disable]
    split
    · exact recorded
    · exact Blank.recorded ⟨by rintro ⟨⟩, rfl, by rintro ⟨⟩⟩
  | authenticate | sessionEnds => exact recorded.keeps rfl rfl rfl le_rfl
  | begin =>
    simp only [System.act]
    split
    · split <;> exact recorded.keeps rfl rfl rfl le_rfl
    · exact recorded
  | finish failure =>
    simp only [System.act]
    split
    · exact recorded.keeps rfl rfl rfl le_rfl
    · split
      · exact recorded.keeps rfl rfl rfl le_rfl
      · exact recorded.keeps (sessionIdentity_of_frame (markDegraded_frame ..)) (markDegraded_observed ..)
          (filter_logged system _ rfl) le_rfl
    · exact recorded.keeps (sessionIdentity_of_frame (markConnectionLost_frame ..)) (markConnectionLost_observed ..) rfl le_rfl
    · exact recorded

theorem systemRun_recorded (acts : List Timed) : Recorded (systemRun acts) := by
  induction acts using List.reverseRecOn with
  | nil => exact Blank.recorded ⟨by rintro ⟨⟩, rfl, by rintro ⟨⟩⟩
  | append_singleton acts timed ih =>
    rw [systemRun, Machine.run_concat]
    have coherent := (systemRun_unreleased acts).coherent
    have waited : Recorded { systemRun acts with now := (systemRun acts).now + timed.elapsed } :=
      ih.keeps rfl rfl rfl (Nat.le_add_right ..)
    exact waited.act coherent timed.act

section Reports
variable {data : SharedData} {authenticated : Nat → Bool} {now : Nat}

theorem currentLeaseObservation_active (active : (data.currentLeaseObservation authenticated now).state = .active) :
    data.leaseObservation.observation.state = .active ∧ (∃ client ∈ data.sessionClient, authenticated client = true) ∧
    ∃ notAfter, data.leaseObservation.notAfter = some notAfter ∧ now < notAfter := by
  unfold SharedData.currentLeaseObservation at active
  dsimp only at active
  split at active
  next other => exact absurd active other
  next state =>
    split at active
    · cases active
    split at active
    · cases active
    next current =>
      split at active
      · cases active
      next fresh =>
        simp only [Bool.not_eq_true, Bool.not_eq_false', SharedData.sessionIsCurrent, Bool.and_eq_true, Option.any_eq_true] at current
        refine ⟨active, ?_, ?_⟩
        · obtain ⟨-, client, member, known⟩ := current
          exact ⟨client, member, known⟩
        · cases limit : data.leaseObservation.notAfter with
          | none => simp [limit] at fresh
          | some notAfter => exact ⟨notAfter, rfl, by simpa [limit] using fresh⟩

theorem currentAdmissionProofObservation_fresh
    (fresh : (data.currentAdmissionProofObservation authenticated now).state = .freshPass) :
    data.admissionProofObservation.observation.state = .freshPass ∧
    ∀ observedAt, data.admissionProofObservation.observedAt = some observedAt →
      now - observedAt ≤ admissionProofMaxAge ∧ (data.currentLeaseObservation authenticated now).state = .active ∧
      data.leaseObservation.leaseId = data.admissionProofObservation.leaseId ∧
      data.leaseObservation.incarnation = data.admissionProofObservation.incarnation := by
  unfold SharedData.currentAdmissionProofObservation at fresh
  dsimp only at fresh
  split at fresh
  next missing => exact ⟨fresh, by simp [missing]⟩
  next observedAt found =>
    split at fresh
    · cases fresh
    split at fresh
    · cases fresh
    split at fresh
    · cases fresh
    split at fresh
    · cases fresh
    next lease =>
      split at fresh
      · cases fresh
      next young =>
        simp only [Bool.or_eq_true, decide_eq_true_eq, not_or, not_not] at lease
        refine ⟨fresh, fun time same => ?_⟩
        rw [found] at same
        cases same
        exact ⟨by omega, lease.1.1, lease.1.2, lease.2⟩

end Reports

/-- What an active lease stands for at an instant: the session is current, its
latest ACQUIRE or RENEW gave the lease, the lease has not ended, and the client of
the session is authenticated. -/
def Leased (system : System) (now : Nat) (identity : SessionIdentity) (lease : LeaseContext) : Prop :=
  system.data.sessionIdentity = some identity ∧ lastLeased system.log identity = some lease ∧ now < lease.notAfter ∧
    ∃ client ∈ system.data.sessionClient, system.authenticated client = true

theorem Recorded.active {system : System} (recorded : Recorded system) {now : Nat}
    (active : (system.data.currentLeaseObservation system.authenticated now).state = .active) :
    ∃ identity lease, Leased system now identity lease ∧ system.data.leaseObservation.leaseId = some lease.leaseId ∧
      system.data.leaseObservation.incarnation = some lease.incarnation := by
  obtain ⟨state, known, notAfter, limit, inside⟩ := currentLeaseObservation_active active
  obtain ⟨identity, lease, current, last, entry⟩ := recorded.leases state
  rw [entry] at limit ⊢
  cases limit
  exact ⟨identity, lease, ⟨current, last, inside, known⟩, rfl, rfl⟩

/-- Whatever the threads did, a gate observation at the time of the last step or
later is positive only for the probe recorded last and the lease obtained last. -/
theorem gate_soundness (acts : List Timed) (later : Nat) :
    let system := systemRun acts
    let now := system.now + later
    let gates := system.data.gateObservations system.authenticated now
    (gates.2.state = .freshPass → ∃ identity probed time lease, lastProbe system.log = some (identity, probed, true, time) ∧
      time ≤ now ∧ now ≤ time + 2 * 1000000000 ∧ Leased system now identity lease ∧
      probed.leaseId = lease.leaseId ∧ probed.incarnation = lease.incarnation) ∧
    (gates.1.state = .active → ∃ identity lease, Leased system now identity lease) := by
  intro system now gates
  have recorded : Recorded system := systemRun_recorded acts
  by_cases enabled : system.data.enabled
  · have report : gates = (system.data.currentLeaseObservation system.authenticated now,
        system.data.currentAdmissionProofObservation system.authenticated now) := by
      simp [gates, SharedData.gateObservations, enabled]
    rw [report]
    constructor
    · intro fresh
      obtain ⟨state, young⟩ := currentAdmissionProofObservation_fresh fresh
      cases found : system.data.admissionProofObservation.observedAt with
      | none => exact absurd state (recorded.unproved found)
      | some time =>
        obtain ⟨age, active, sameLease, sameIncarnation⟩ := young time found
        obtain ⟨past, identity, probed, passed, current, last, -, leaseId, incarnation, success⟩ := recorded.proofs time found
        obtain ⟨other, lease, leased, ownId, ownIncarnation⟩ := recorded.active active
        -- the lease is the one of the session that was probed
        obtain rfl : other = identity := Option.some.inj (leased.1.symm.trans current)
        rw [success state] at last
        refine ⟨other, probed, time, lease, last, past.trans (Nat.le_add_right ..), ?_, leased, ?_, ?_⟩
        · have limit : admissionProofMaxAge = 2 * 1000000000 := rfl
          omega
        · exact Option.some.inj (leaseId.symm.trans (sameLease.symm.trans ownId))
        · exact Option.some.inj (incarnation.symm.trans (sameIncarnation.symm.trans ownIncarnation))
    · intro active
      obtain ⟨identity, lease, leased, -⟩ := recorded.active active
      exact ⟨identity, lease, leased⟩
  · have report : gates = (⟨.unavailable, "AUTO_USE_DISABLED"⟩, ⟨.unknown, "AUTO_USE_DISABLED"⟩) := by
      simp [gates, SharedData.gateObservations, enabled]
    rw [report]
    exact ⟨by rintro ⟨⟩, by rintro ⟨⟩⟩

/-- Two seconds after its probe the worker still passes. -/
theorem gate_soundness_available :
    let system := systemRun becomesAvailable
    let gates := system.data.gateObservations system.authenticated (system.now + 2000000000)
    gates.2.state = .freshPass ∧ ∃ identity probed time lease, lastProbe system.log = some (identity, probed, true, time) ∧
      Leased system (system.now + 2000000000) identity lease ∧ probed.leaseId = lease.leaseId := by
  obtain ⟨identity, probed, time, lease, last, -, -, leased, same, -⟩ :=
    (gate_soundness becomesAvailable 2000000000).1 (by decide)
  exact ⟨by decide, identity, probed, time, lease, last, leased, same⟩

end PhoneBoost.Host.Manager.Proofs
