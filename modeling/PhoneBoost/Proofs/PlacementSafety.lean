import PhoneBoost.Host.Placement

/-! What has to hold before a request goes to the worker. The planner answers
with a remote target only behind its open gates, and opening a gate further never
takes a remote target away. -/

namespace PhoneBoost.Host.Controller.Proofs
open Planner

variable {input first second : PlannerInput} {ε : Type} {data : ControllerData} {snapshot : InitiatorSessionSnapshot}
  {now inputBytes : Nat} {active : ActiveContext}

theorem refusalReason_eq_none {gates : RemoteGates} :
    gates.refusalReason = none ↔ gates = ⟨true, true, true, true, true, true, true⟩ := by
  unfold RemoteGates.refusalReason
  constructor
  · intro unrefused
    split_ifs at unrefused with a b c d e f g
    simp only [Bool.not_eq_true', Bool.not_eq_false] at a b c d e f g
    obtain ⟨_, _, _, _, _, _, _⟩ := gates
    simp_all
  · rintro rfl
    rfl

/-- Every gate of the planner is open. -/
structure Open (input : PlannerInput) : Prop where
  mode : input.mode ≠ .localOnly
  gates : input.gates = ⟨true, true, true, true, true, true, true⟩
  thermal : input.cost.thermalClass ≠ .severe
  battery : input.cost.batteryPolicy ≠ .remoteDisallowed
  aware : input.workloadPhoneboostAware = true
  capacity : input.remoteCapacityFits = true

theorem Open.decide_eq (opens : Open input) : input.decide = input.modeDecision := by
  rw [PlannerInput.decide, if_neg opens.mode, refusalReason_eq_none.mpr opens.gates]
  simp [opens.thermal, opens.battery, opens.aware, opens.capacity]

theorem open_of_remote (remote : input.decide.target ≠ .localOnly) : Open input := by
  rw [PlannerInput.decide] at remote
  split at remote
  · exact absurd rfl remote
  next mode =>
  split at remote
  · exact absurd rfl remote
  next gates =>
  split at remote
  · exact absurd rfl remote
  next thermal =>
  split at remote
  · exact absurd rfl remote
  next battery =>
  split at remote
  · exact absurd rfl remote
  next aware =>
  split at remote
  · exact absurd rfl remote
  next capacity =>
  exact ⟨mode, refusalReason_eq_none.mp gates, thermal, battery, by simpa using aware, by simpa using capacity⟩

/-- The second input is at least as permissive, all else equal. -/
structure AtLeast (first second : PlannerInput) : Prop where
  mode : second.mode = first.mode
  profile : second.profile = first.profile
  key : second.currentProfileKey = first.currentProfileKey
  clock : second.nowWallMs = first.nowWallMs
  localFits : second.localExecutionFits = first.localExecutionFits
  authenticated : first.gates.authenticated = true → second.gates.authenticated = true
  ready : first.gates.ready = true → second.gates.ready = true
  activeLease : first.gates.activeLease = true → second.gates.activeLease = true
  freshMetrics : first.gates.freshMetrics = true → second.gates.freshMetrics = true
  providerAvailable : first.gates.providerAvailable = true → second.gates.providerAvailable = true
  resourceEstimateNonzero : first.gates.resourceEstimateNonzero = true → second.gates.resourceEstimateNonzero = true
  resourceGuardAdmitted : first.gates.resourceGuardAdmitted = true → second.gates.resourceGuardAdmitted = true
  thermal : first.cost.thermalClass ≠ .severe → second.cost.thermalClass ≠ .severe
  battery : first.cost.batteryPolicy ≠ .remoteDisallowed → second.cost.batteryPolicy ≠ .remoteDisallowed
  aware : first.workloadPhoneboostAware = true → second.workloadPhoneboostAware = true
  capacity : first.remoteCapacityFits = true → second.remoteCapacityFits = true
  resident : first.cost.residentRemoteBytes ≤ second.cost.residentRemoteBytes

theorem AtLeast.opens (more : AtLeast first second) (opens : Open first) : Open second where
  mode := more.mode ▸ opens.mode
  gates := by
    rw [show second.gates = ⟨_, _, _, _, _, _, _⟩ from rfl, more.authenticated (by rw [opens.gates]),
      more.ready (by rw [opens.gates]), more.activeLease (by rw [opens.gates]), more.freshMetrics (by rw [opens.gates]),
      more.providerAvailable (by rw [opens.gates]), more.resourceEstimateNonzero (by rw [opens.gates]),
      more.resourceGuardAdmitted (by rw [opens.gates])]
  thermal := more.thermal opens.thermal
  battery := more.battery opens.battery
  aware := more.aware opens.aware
  capacity := more.capacity opens.capacity

theorem AtLeast.profileStatus (more : AtLeast first second) : second.profileStatus = first.profileStatus := by
  rw [PlannerInput.profileStatus, PlannerInput.profileStatus, more.key, more.profile, more.clock]

theorem AtLeast.modeDecision (more : AtLeast first second) (remote : first.modeDecision.target ≠ .localOnly) :
    second.modeDecision.target = first.modeDecision.target := by
  rw [PlannerInput.modeDecision] at remote ⊢
  rw [PlannerInput.modeDecision, more.mode]
  cases mode : first.mode with
  | localOnly | capacity => rfl
  | speed =>
    dsimp only
    rw [PlannerInput.speedDecision, PlannerInput.speedDecision, more.profileStatus, more.profile]
  | balanced =>
    rw [mode] at remote
    dsimp only at remote ⊢
    rw [PlannerInput.balancedDecision] at remote ⊢
    rw [PlannerInput.balancedDecision, more.localFits, more.profile, more.profileStatus]
    split
    · rfl
    next fits =>
    rw [if_neg fits] at remote
    cases found : first.profile with
    | none => rfl
    | some profile =>
      rw [found] at remote
      dsimp only at remote ⊢
      split
      · rfl
      next valid =>
      split
      · rfl
      next slow =>
      -- only the resident bytes are left, and the second input has no fewer
      rw [if_neg valid, if_neg slow] at remote
      split at remote
      next near =>
        rw [if_pos near]
        simp only [Bool.and_eq_true, decide_eq_true_eq] at near
        rw [if_pos]
        simp only [Bool.and_eq_true, decide_eq_true_eq]
        exact ⟨near.1.trans_le more.resident, near.2⟩
      · exact absurd rfl remote

theorem AtLeast.decide (more : AtLeast first second) (remote : first.decide.target ≠ .localOnly) :
    second.decide.target = first.decide.target := by
  have opens := open_of_remote remote
  rw [opens.decide_eq] at remote ⊢
  rw [(more.opens opens).decide_eq]
  exact more.modeDecision remote

/-- What a heartbeat shows when it lets a request of the length through. -/
structure Healthy (heartbeat : InitiatorHeartbeatSnapshot) (active : ActiveContext) (inputBytes : Nat) : Prop where
  fresh : heartbeat.age ≤ freshCapacityMetrics
  peer : heartbeat.payload.peerId = active.peerId.bytes
  leased : heartbeat.payload.leasePresent = 1
  lease : heartbeat.payload.leaseId = active.lease.leaseId
  incarnation : heartbeat.payload.workerIncarnation = active.lease.incarnation
  thermal : heartbeat.payload.thermalStatus ≤ 2
  power : heartbeat.payload.charging = 1 ∨ 15 ≤ heartbeat.payload.batteryPct
  unwrapped : heartbeat.payload.reservedBytes ≤ heartbeat.payload.safeBudgetBytes
  budget : inputBytes + scratchBytes ≤ heartbeat.payload.safeBudgetBytes.toNat - heartbeat.payload.reservedBytes.toNat

/-- What has to hold for a remote request. -/
structure Permitted (data : ControllerData) (snapshot : InitiatorSessionSnapshot) (now inputBytes : Nat)
    (active : ActiveContext) : Prop where
  size : 1 ≤ inputBytes ∧ inputBytes ≤ maxComputeInputBytes
  enabled : data.enabled = true
  available : data.status.state = .available
  provider : data.status.remoteBlake3Available = true
  context : data.active = some active
  authenticated : snapshot.authenticated = true ∧ snapshot.peerId = some active.peerId
  leased : now < active.lease.notAfter
  heartbeat : ∃ heartbeat, snapshot.heartbeat = some heartbeat ∧ Healthy heartbeat active inputBytes

theorem boundCapacityHeartbeat_some {peerId : PeerId} {lease : LeaseContext} {payload : Pbmux.HeartbeatPayload}
    (bound : boundCapacityHeartbeat snapshot peerId lease = some payload) :
    ∃ heartbeat, snapshot.heartbeat = some heartbeat ∧ heartbeat.payload = payload ∧
      heartbeat.age ≤ freshCapacityMetrics ∧ payload.peerId = peerId.bytes ∧ payload.leasePresent = 1 ∧
      payload.leaseId = lease.leaseId ∧ payload.workerIncarnation = lease.incarnation := by
  rw [boundCapacityHeartbeat, Option.bind_eq_bind, Option.bind_eq_some_iff] at bound
  obtain ⟨heartbeat, found, bound⟩ := bound
  dsimp only at bound
  split at bound
  next checks =>
    cases bound
    simp only [Bool.and_eq_true, decide_eq_true_eq] at checks
    exact ⟨heartbeat, found, rfl, checks.1.1.1.1.2, checks.1.1.1.2, checks.1.1.2, checks.1.2, checks.2⟩
  · cases bound

theorem thermalClassOf_ne_severe {status : UInt8} (mild : thermalClassOf status ≠ .severe) : status ≤ 2 := by
  unfold thermalClassOf at mild
  split at mild
  next cool => rw [cool]; decide
  split at mild
  next light => rw [light]; decide
  split at mild
  next moderate => rw [moderate]; decide
  · exact absurd rfl mild

theorem batteryPolicyOf_ne_disallowed {payload : Pbmux.HeartbeatPayload} (allowed : batteryPolicyOf payload ≠ .remoteDisallowed) :
    payload.charging = 1 ∨ 15 ≤ payload.batteryPct := by
  unfold batteryPolicyOf at allowed
  split at allowed
  next charging => exact .inl charging
  split at allowed
  · exact absurd rfl allowed
  next full => exact .inr (UInt8.not_lt.mp full)

/-- The gates of a capacity decision, read back as facts about the snapshot. -/
theorem healthy_of_remote (size : inputBytes ≤ maxComputeInputBytes)
    (remote : (capacityPlacementDecisionFromSnapshotForLength data.status snapshot active.peerId active.lease now
      inputBytes).target ≠ .localOnly) :
    data.status.remoteBlake3Available = true ∧ (snapshot.authenticated = true ∧ snapshot.peerId = some active.peerId) ∧
      now < active.lease.notAfter ∧ ∃ heartbeat, snapshot.heartbeat = some heartbeat ∧ Healthy heartbeat active inputBytes := by
  have opens := open_of_remote remote
  have gates := opens.gates
  simp only [RemoteGates.mk.injEq, Bool.and_eq_true, decide_eq_true_eq] at gates
  obtain ⟨authenticated, -, leased, bound, provider, -, -⟩ := gates
  obtain ⟨payload, bound⟩ := Option.isSome_iff_exists.mp bound
  obtain ⟨heartbeat, found, rfl, fresh, peer, present, lease, incarnation⟩ := boundCapacityHeartbeat_some bound
  have thermal := opens.thermal
  have battery := opens.battery
  have capacity := opens.capacity
  simp only [bound, Option.getD_some, decide_eq_true_eq] at thermal battery capacity
  have fits : inputBytes + scratchBytes ≤ u64Max := by
    simp only [maxComputeInputBytes, scratchBytes, u64Max] at size ⊢
    omega
  rw [saturatingAdd_of_le fits] at capacity
  have positive : 0 < scratchBytes := by decide
  refine ⟨provider, authenticated, leased, heartbeat, found, fresh, peer, present, lease, incarnation,
    thermalClassOf_ne_severe thermal, batteryPolicyOf_ne_disallowed battery, ?_, capacity⟩
  rw [UInt64.le_iff_toNat_le]
  omega

theorem execute_permitted {localDigest : Except ε Bytes32} {rewind : Except ε Unit}
    {remote : ActiveContext → Except (RemoteStreamFailure ε) Bytes32}
    (requested : .requested active ∈ (execute localDigest rewind remote data snapshot now inputBytes).2) :
    Permitted data snapshot now inputBytes active := by
  rw [execute] at requested
  dsimp only at requested
  split at requested
  · cases requested
  next ready =>
  split at requested
  · cases requested
  next size =>
  split at requested
  · cases requested
  next context found =>
  split at requested
  · cases requested
  next chosen =>
  simp only [Bool.or_eq_true, Bool.not_eq_true', decide_eq_true_eq, not_or, Bool.not_eq_false, ne_eq, not_not] at ready size
  have same : context = active := by
    split at requested
    · cases requested
    split at requested
    · cases List.mem_singleton.mp requested
      rfl
    · cases List.mem_singleton.mp requested
      rfl
    · rcases List.mem_cons.mp requested with same | same
      · simpa using same.symm
      · split at same <;> simp at same
  subst same
  obtain ⟨provider, authenticated, leased, healthy⟩ := healthy_of_remote (Nat.le_of_not_lt size.2) chosen
  exact ⟨⟨Nat.pos_of_ne_zero size.1, Nat.le_of_not_lt size.2⟩, ready.1, ready.2, provider, found, authenticated, leased, healthy⟩

/-- Both functions send a request only where it is permitted, and the planner is
monotone in all that speaks for the worker. -/
theorem placement_safety :
    (∀ digest remote data snapshot now input active, .requested active ∈
      (executeBlake3 digest remote data snapshot now input).2 → Permitted data snapshot now input.length active) ∧
    (∀ (ε : Type) (localDigest : Except ε Bytes32) rewind remote data snapshot now inputBytes active, .requested active ∈
      (executeBlake3Reader localDigest rewind remote data snapshot now inputBytes).2 →
        Permitted data snapshot now inputBytes active) ∧
    ∀ first second, AtLeast first second → first.decide.target ≠ .localOnly →
      second.decide.target = first.decide.target := by
  refine ⟨?_, ?_, fun first second more remote => more.decide remote⟩
  · intro digest remote data snapshot now input active requested
    exact execute_permitted requested
  · intro ε localDigest rewind remote data snapshot now inputBytes active requested
    exact execute_permitted requested

/-- A worker with a fresh heartbeat of its own lease is asked for one byte and for a
stream of two, and stays chosen once it cools down. -/
theorem placement_safety_one_byte :
    let active : ActiveContext := ⟨⟨.replicate 32 0⟩, ⟨.replicate 16 0, .replicate 16 0, 1, 1⟩⟩
    let heartbeat : Pbmux.HeartbeatPayload :=
      { noHeartbeat with leasePresent := 1, thermalStatus := 2, batteryPct := 15, safeBudgetBytes := 1026 }
    let data : ControllerData := ⟨true, ⟨.available, .ready, true⟩, some active⟩
    let snapshot : InitiatorSessionSnapshot := ⟨true, some active.peerId, some ⟨heartbeat, freshCapacityMetrics⟩⟩
    let warm : PlannerInput := ⟨.balanced, ⟨true, true, true, true, true, true, true⟩, ⟨0, .moderate, .batteryAllowed⟩, true, false,
      true, none, none, 0⟩
    let cool := { warm with cost := ⟨4096, .nominal, .externalPower⟩ }
    Permitted data snapshot 0 1 active ∧ Permitted data snapshot 0 2 active ∧ cool.decide.target = .remoteCapacity := by
  intro active heartbeat data snapshot warm cool
  obtain ⟨bytes, reader, monotone⟩ := placement_safety
  refine ⟨?_, ?_, ?_⟩
  · exact bytes (fun _ => .replicate 32 0) (fun _ _ => .ok (.replicate 32 0)) data snapshot 0 [0] active (by decide)
  · exact reader Unit (.error ()) (.ok ()) (fun _ => .ok (.replicate 32 0)) data snapshot 0 2 active (by decide)
  · exact monotone warm cool (by constructor <;> decide) (by decide)

end PhoneBoost.Host.Controller.Proofs
