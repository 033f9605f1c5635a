import PhoneBoost.Proofs.PairingOutcome

/-! Reported mismatches. A report is a flag that the session's loop takes at its
next turn; until then a cancel can be taken with it, and the session can end
first. The reports that were accepted are those that were counted and those
that were lost in one of these two ways. -/

namespace PhoneBoost.Secure.Proofs

variable {foreign : Foreign}

def Action.records : Action → Bool
  | .mismatchRecorded .. => true
  | _ => false

def Event.records : Event → Bool
  | .thread _ action => Action.records action
  | _ => false

/-- How many mismatches were counted and stored. -/
def recordings (log : List Event) : Nat := log.countP Event.records

/-- An endpoint with the number of reports that were answered with `Accepted`
and of those that were dropped since. -/
structure Tally where
  endpoint : Endpoint
  accepted : Nat
  lost : Nat

def acceptsReport (endpoint : Endpoint) : Label → Bool
  | .mismatch =>
    match endpoint.process with
    | .up runtime => runtime.inner.mismatch.1 = .accepted
    | .down _ => false
  | _ => false

/-- A report waits, and either a cancel is taken with it or the session ends. -/
def dropsReport (endpoint : Endpoint) : Label → Bool
  | .step id outside =>
    match endpoint.process with
    | .up runtime =>
      runtime.inner.mismatchRequested &&
        match (endpoint.threads id).pc with
        | .polling _ => !outside.timedOut && runtime.inner.cancelRequested
        | .closing _ => true
        | _ => false
    | .down _ => false
  | _ => false

namespace Tally
variable (foreign : Foreign)

def step (tally : Tally) (label : Label) : Tally where
  endpoint := tally.endpoint.step foreign label
  accepted := tally.accepted + (acceptsReport tally.endpoint label).toNat
  lost := tally.lost + (dropsReport tally.endpoint label).toNat

def run (tally : Tally) (labels : List Label) : Tally := Machine.run (step foreign) tally labels

end Tally

/-- The clock is read and the guard is stored when a mismatch is recorded. -/
def storesReport (foreign : Foreign) (endpoint : Endpoint) : Label → Bool
  | .step id outside =>
    match endpoint.process, (endpoint.threads id).pc with
    | .up runtime, .rejecting =>
      !(endpoint.threads id).ready ||
        (runtime.recordMismatch foreign (endpoint.threads id).clock outside.calls).1.isOk
    | _, _ => true
  | .restart .. => false
  | _ => true

/-- One process, whose writes of the guard succeed. -/
def runStores (foreign : Foreign) : Endpoint → List Label → Bool
  | _, [] => true
  | endpoint, label :: labels => storesReport foreign endpoint label && runStores foreign (endpoint.step foreign label) labels

def runHeeds (foreign : Foreign) : Endpoint → List Label → Bool
  | _, [] => true
  | endpoint, label :: labels => !dropsReport endpoint label && runHeeds foreign (endpoint.step foreign label) labels

section Logs
variable {id : Nat} {actions : List Action} {log : List Event}

theorem recordings_logged : recordings (logged id actions log) = recordings log + actions.countP Action.records := by
  rw [recordings, logged, List.countP_append, List.countP_reverse, List.countP_map, Nat.add_comm]
  rfl

theorem countP_records_none (plain : ∀ action ∈ actions, Action.records action = false) : actions.countP Action.records = 0 :=
  List.countP_eq_zero.2 fun action member => Bool.eq_false_iff.1 (plain action member)

end Logs

section Steps
variable {runtime after : SecureRuntime} {outside : Outside} {program : Program} {pc next : Pc} {nowMs : Option UInt64}
  {actions : List Action}

/-- Only a rejection records. -/
theorem step_records (steps : pc.step foreign program runtime nowMs outside = (after, next, actions)) (other : pc ≠ .rejecting) :
    actions.countP Action.records = 0 := by
  apply countP_records_none
  intro action member
  have may := step_logs foreign program runtime nowMs outside pc action (by rw [steps]; exact member)
  cases action with
  | mismatchRecorded clock count => exact absurd (may_mismatchRecorded may) other
  | _ => rfl

/-- A step that leaves the report where it is. -/
structure Leaves (runtime : SecureRuntime) (moved : Moved) : Prop where
  report : moved.1.inner.mismatchRequested = runtime.inner.mismatchRequested
  goes : moved.2.1 ≠ .rejecting

theorem leaves_closing {shown : SecureRuntime} (same : shown.inner.mismatchRequested = runtime.inner.mismatchRequested)
    {result : SessionResult} : Leaves runtime (shown, .closing result, actions) :=
  ⟨same, fun impossible => by cases impossible⟩

theorem leaves_sendFrame {shown : SecureRuntime} (same : shown.inner.mismatchRequested = runtime.inner.mismatchRequested)
    {sequence : UInt64} {frame : Pbmux.Frame} {goes : UInt64 → Pc} (other : ∀ sequence, goes sequence ≠ .rejecting) :
    Leaves runtime (sendFrame shown outside sequence frame goes) := by
  rw [sendFrame]
  split
  · exact leaves_closing same
  split
  · exact leaves_closing same
  · exact ⟨same, other _⟩

theorem leaves_receive {loop : PairingLoop} : Leaves runtime (receive program runtime outside loop) := by
  rw [receive]
  split
  · exact leaves_closing rfl
  · exact ⟨rfl, by simp⟩
  next frame _ =>
  suffices leaves : Leaves runtime (receiveFrame program runtime outside loop frame) from ⟨leaves.report, leaves.goes⟩
  rw [receiveFrame]
  split
  · exact leaves_closing rfl
  split
  · exact leaves_closing rfl
  rw [dispatch]
  split
  · split
    · exact leaves_closing rfl
    · exact ⟨rfl, by simp⟩
  · split
    · exact leaves_sendFrame rfl (by simp)
    · exact ⟨rfl, by simp⟩
  · split
    · split
      · exact leaves_closing rfl
      · exact ⟨rfl, by simp⟩
    · exact ⟨rfl, by simp⟩
  · exact leaves_closing rfl
  · exact ⟨rfl, by simp⟩

theorem leaves_await {remote : Bytes32} {request : Option UInt64} :
    Leaves runtime (await program runtime outside remote request) := by
  rw [await]
  split
  · exact leaves_closing rfl
  · exact ⟨rfl, by simp⟩
  next frame _ =>
  suffices leaves : Leaves runtime (welcome program runtime outside remote request frame) from ⟨leaves.report, leaves.goes⟩
  rw [welcome]
  split
  · exact leaves_closing rfl
  split
  · split
    · exact ⟨rfl, by simp⟩
    · exact leaves_closing rfl
  split
  · exact leaves_closing rfl
  · exact leaves_sendFrame rfl (by simp)

theorem leaves_shakeHands {peer : Option PeerRecord} {xx : Bool} : Leaves runtime (shakeHands runtime outside peer xx) := by
  rw [shakeHands]
  split
  · exact leaves_closing rfl
  split
  · dsimp only
    split
    · exact ⟨rfl, by simp⟩
    · exact ⟨rfl, by simp⟩
  · dsimp only
    split
    · exact leaves_closing rfl
    · exact leaves_closing rfl
    · exact ⟨rfl, by simp⟩

theorem commitPeer_inner {key : Bytes32} {calls : WriteCalls} :
    (runtime.commitPeer foreign key nowMs calls).2.inner = runtime.inner := by
  cases nowMs with
  | none => rfl
  | some nowMs =>
    simp only [SecureRuntime.commitPeer]
    split <;> rfl

theorem markAuthenticated_report {remote : Bytes32} {calls : WriteCalls} {reads : Entropy} :
    (runtime.markAuthenticated foreign remote nowMs calls reads).2.inner.mismatchRequested = runtime.inner.mismatchRequested := by
  cases nowMs with
  | none => rfl
  | some nowMs =>
    simp only [SecureRuntime.markAuthenticated]
    split
    · rfl
    · split <;> rfl

theorem recordMismatch_report {calls : WriteCalls} :
    (runtime.recordMismatch foreign nowMs calls).2.inner.mismatchRequested = runtime.inner.mismatchRequested := by
  cases nowMs with
  | none => rfl
  | some nowMs =>
    simp only [SecureRuntime.recordMismatch]
    split <;> rfl

/-- Inside a session the report is taken at the head of the loop only, and
dropped at the end only. -/
theorem step_leaves (inside : Pc.inside pc = true) (unpolled : ∀ loop, pc ≠ .polling loop)
    (unclosed : ∀ result, pc ≠ .closing result) : Leaves runtime (pc.step foreign program runtime nowMs outside) := by
  cases pc with
  | handshaking peer xx => exact leaves_shakeHands
  | polling loop => exact absurd rfl (unpolled loop)
  | cancelling => exact ⟨rfl, by simp [Pc.step]⟩
  | rejecting =>
    have same := @recordMismatch_report foreign runtime nowMs outside.calls
    simp only [Pc.step, reject]
    split
    next failed =>
      rw [failed] at same
      exact leaves_closing same
    next recorded =>
      rw [recorded] at same
      exact leaves_closing same
  | confirming loop =>
    simp only [Pc.step, confirm]
    split <;> exact ⟨rfl, by simp⟩
  | sending loop =>
    simp only [Pc.step, sendConfirm]
    split
    · exact leaves_closing rfl
    split
    · exact leaves_closing rfl
    · exact leaves_sendFrame rfl (by simp)
  | receiving loop => exact leaves_receive
  | deciding loop =>
    simp only [Pc.step, decideCommit]
    split
    · split <;> exact ⟨rfl, by simp⟩
    · exact ⟨rfl, by simp⟩
  | committing loop =>
    have same := @commitPeer_inner foreign runtime nowMs loop.remote outside.calls
    simp only [Pc.step, commit]
    split
    next failed =>
      rw [failed] at same
      have report := congrArg RuntimeInner.mismatchRequested same
      exact ⟨report, by simp⟩
    next done =>
      rw [done] at same
      have report := congrArg RuntimeInner.mismatchRequested same
      split
      · exact leaves_closing report
      · exact ⟨report, by simp⟩
  | announcing loop =>
    simp only [Pc.step, announce]
    split
    · have shown : (runtime.setPairingState .paired).inner.mismatchRequested = runtime.inner.mismatchRequested := rfl
      split
      · exact leaves_closing shown
      · exact leaves_sendFrame shown (by simp)
    · exact ⟨rfl, by simp⟩
  | greeting remote =>
    simp only [Pc.step, greet]
    split
    · split
      · exact leaves_closing rfl
      · exact leaves_sendFrame rfl (by simp)
    · exact ⟨rfl, by simp⟩
  | awaiting remote request => exact leaves_await
  | authenticating remote =>
    have same := @markAuthenticated_report foreign runtime nowMs remote outside.calls outside.reads
    simp only [Pc.step, authenticate]
    split
    next failed =>
      rw [failed] at same
      exact leaves_closing same
    next marked =>
      rw [marked] at same
      exact ⟨same, by simp⟩
  | authenticated session =>
    simp only [Pc.step, serve]
    split
    · exact ⟨rfl, by simp⟩
    · exact leaves_closing rfl
    · exact leaves_closing rfl
  | closing result => exact absurd rfl (unclosed result)
  | _ => cases inside

end Steps

/-- The reports that were accepted are the recorded and the lost ones, the one
that waits and the one that is being recorded. -/
structure Accounted (tally : Tally) : Prop where
  exclusive : Exclusive tally.endpoint
  idle : ∀ runtime, tally.endpoint.process = .up runtime → runtime.inner.sessionActive = false →
    runtime.inner.mismatchRequested = false ∧ runtime.inner.sas = none
  owed : ∀ runtime, tally.endpoint.process = .up runtime → (∀ id, (tally.endpoint.threads id).pc ≠ .rejecting) →
    tally.accepted = recordings tally.endpoint.log + tally.lost + runtime.inner.mismatchRequested.toNat
  rejecting : ∀ runtime, tally.endpoint.process = .up runtime → ∀ id, (tally.endpoint.threads id).pc = .rejecting →
    tally.accepted = recordings tally.endpoint.log + tally.lost + runtime.inner.mismatchRequested.toNat + 1

namespace Accounted
variable {tally : Tally} {runtime after : SecureRuntime} {id : Nat} {outside : Outside} {next : Pc} {actions : List Action}

theorem alone (accounted : Accounted tally) (here : Pc.inside (tally.endpoint.threads id).pc = true) {other : Nat}
    (different : other ≠ id) : (tally.endpoint.threads other).pc ≠ .rejecting := by
  intro pc
  exact different (accounted.exclusive.single other id (by rw [pc]; rfl) here)

/-- The balance before a step of the session's thread. -/
theorem before (accounted : Accounted tally) (up : tally.endpoint.process = .up runtime)
    (here : Pc.inside (tally.endpoint.threads id).pc = true) (other : (tally.endpoint.threads id).pc ≠ .rejecting) :
    tally.accepted = recordings tally.endpoint.log + tally.lost + runtime.inner.mismatchRequested.toNat := by
  apply accounted.owed runtime up
  intro thread
  by_cases same : thread = id
  · rw [same]
    exact other
  · exact accounted.alone here same

section Step
variable (accounted : Accounted tally) (up : tally.endpoint.process = .up runtime)
  (steps : (tally.endpoint.threads id).pc.step foreign (tally.endpoint.threads id).program runtime
    (tally.endpoint.threads id).clock outside = (after, next, actions))
include accounted up steps

/-- A step of the session's thread keeps the balance if its own account does. -/
theorem inside (here : Pc.inside (tally.endpoint.threads id).pc = true) {lost : Nat}
    (idle : after.inner.sessionActive = false → after.inner.mismatchRequested = false ∧ after.inner.sas = none)
    (owed : next ≠ .rejecting → tally.accepted = recordings tally.endpoint.log + actions.countP Action.records + lost
      + after.inner.mismatchRequested.toNat)
    (rejecting : next = .rejecting → tally.accepted = recordings tally.endpoint.log + actions.countP Action.records + lost
      + after.inner.mismatchRequested.toNat + 1) :
    Accounted ⟨stepped tally.endpoint id after next actions, tally.accepted, lost⟩ := by
  have log : recordings (stepped tally.endpoint id after next actions).log =
      recordings tally.endpoint.log + actions.countP Action.records := recordings_logged
  refine ⟨accounted.exclusive.moved up steps, ?_, ?_, ?_⟩
  · rintro _ ⟨⟩
    exact idle
  · rintro _ ⟨⟩ nobody
    dsimp only
    rw [log]
    apply owed
    have there := nobody id
    rw [moved_pc, if_pos rfl] at there
    exact there
  · rintro _ ⟨⟩ other pc
    dsimp only at pc ⊢
    rw [log]
    rw [moved_pc] at pc
    split at pc
    · exact rejecting pc
    next different => exact absurd pc (accounted.alone here different)

theorem closes {result : SessionResult} (pc : (tally.endpoint.threads id).pc = .closing result) :
    Accounted ⟨stepped tally.endpoint id after next actions,
      tally.accepted, tally.lost + (dropsReport tally.endpoint (.step id outside)).toNat⟩ := by
  have here : Pc.inside (tally.endpoint.threads id).pc = true := by
    rw [pc]
    rfl
  have dropped : dropsReport tally.endpoint (.step id outside) = runtime.inner.mismatchRequested := by
    simp only [dropsReport, up, pc, Bool.and_true]
  have balance := accounted.before up here (by rw [pc]; simp)
  have records := step_records steps (by rw [pc]; simp)
  apply accounted.inside up steps here
  · rw [pc] at steps
    cases steps
    exact fun _ => ⟨rfl, rfl⟩
  · intro _
    rw [records, dropped]
    rw [pc] at steps
    cases steps
    exact balance.trans (Nat.add_assoc _ _ _)
  · intro impossible
    rw [pc] at steps
    cases steps
    cases impossible

theorem polls {loop : PairingLoop} (pc : (tally.endpoint.threads id).pc = .polling loop) :
    Accounted ⟨stepped tally.endpoint id after next actions,
      tally.accepted, tally.lost + (dropsReport tally.endpoint (.step id outside)).toNat⟩ := by
  have here : Pc.inside (tally.endpoint.threads id).pc = true := by
    rw [pc]
    rfl
  have active := accounted.exclusive.active runtime up id here
  have dropped : dropsReport tally.endpoint (.step id outside) =
      (runtime.inner.mismatchRequested && (!outside.timedOut && runtime.inner.cancelRequested)) := by
    simp only [dropsReport, up, pc]
  have balance := accounted.before up here (by rw [pc]; simp)
  have records := step_records steps (by rw [pc]; simp)
  have shape : after.inner.sessionActive = true ∧
      (next ≠ .rejecting → runtime.inner.mismatchRequested.toNat =
        (dropsReport tally.endpoint (.step id outside)).toNat + after.inner.mismatchRequested.toNat) ∧
      (next = .rejecting → runtime.inner.mismatchRequested.toNat =
        (dropsReport tally.endpoint (.step id outside)).toNat + after.inner.mismatchRequested.toNat + 1) := by
    rw [dropped]
    rw [pc] at steps
    simp only [Pc.step, poll] at steps
    split at steps
    next late =>
      cases steps
      refine ⟨active, fun _ => ?_, fun impossible => by cases impossible⟩
      simp [late, SecureRuntime.setPairingState, RuntimeInner.setPairingState]
    next early =>
    split at steps
    next cancelled =>
      cases steps
      change runtime.inner.cancelRequested = true at cancelled
      refine ⟨active, fun _ => ?_, fun impossible => by cases impossible⟩
      simp [early, cancelled, RuntimeInner.takeActions]
    next kept =>
    change ¬runtime.inner.cancelRequested = true at kept
    split at steps
    next reported =>
      cases steps
      change runtime.inner.mismatchRequested = true at reported
      refine ⟨active, fun impossible => absurd rfl impossible, fun _ => ?_⟩
      simp [kept, reported, RuntimeInner.takeActions]
    next quiet =>
    change ¬runtime.inner.mismatchRequested = true at quiet
    split at steps
    · cases steps
      refine ⟨active, fun _ => ?_, fun impossible => by cases impossible⟩
      simp [quiet, RuntimeInner.takeActions]
    · cases steps
      refine ⟨active, fun _ => ?_, fun impossible => by cases impossible⟩
      simp [quiet, RuntimeInner.takeActions]
  obtain ⟨still, owed, taken⟩ := shape
  apply accounted.inside up steps here
  · intro ended
    rw [still] at ended
    cases ended
  · intro goes
    have account := owed goes
    omega
  · intro goes
    have account := taken goes
    omega

theorem rejects (pc : (tally.endpoint.threads id).pc = .rejecting) (ready : (tally.endpoint.threads id).ready = true)
    (stores : storesReport foreign tally.endpoint (.step id outside) = true) :
    Accounted ⟨stepped tally.endpoint id after next actions,
      tally.accepted, tally.lost + (dropsReport tally.endpoint (.step id outside)).toNat⟩ := by
  have here : Pc.inside (tally.endpoint.threads id).pc = true := by
    rw [pc]
    rfl
  have kept : dropsReport tally.endpoint (.step id outside) = false := by
    simp only [dropsReport, up, pc, Bool.and_false]
  have balance := accounted.rejecting runtime up id pc
  have leaves := @step_leaves foreign runtime outside (tally.endpoint.threads id).program _ (tally.endpoint.threads id).clock here
    (by rw [pc]; simp) (by rw [pc]; simp)
  rw [steps] at leaves
  have still : after.inner.sessionActive = true := by
    rcases step_side steps with ⟨-, same⟩ | ⟨_, _, is, -⟩ | ⟨_, is, -⟩
    · exact same.trans (accounted.exclusive.active runtime up id here)
    · rw [pc] at is
      cases is
    · rw [pc] at is
      cases is
  have records : actions.countP Action.records = 1 := by
    simp only [storesReport, up, pc, ready, Bool.not_true, Bool.false_or] at stores
    rw [pc] at steps
    simp only [Pc.step, reject] at steps
    split at steps
    next failed =>
      rw [failed] at stores
      cases stores
    next =>
      cases steps
      rfl
  apply accounted.inside up steps here
  · intro ended
    rw [still] at ended
    cases ended
  · intro _
    rw [records, kept, leaves.report]
    simp only [Bool.toNat_false]
    omega
  · exact fun impossible => absurd impossible leaves.goes

/-- Any other step of the session. -/
theorem goes (here : Pc.inside (tally.endpoint.threads id).pc = true)
    (unpolled : ∀ loop, (tally.endpoint.threads id).pc ≠ .polling loop)
    (unclosed : ∀ result, (tally.endpoint.threads id).pc ≠ .closing result) (other : (tally.endpoint.threads id).pc ≠ .rejecting) :
    Accounted ⟨stepped tally.endpoint id after next actions, tally.accepted, tally.lost⟩ := by
  have leaves := @step_leaves foreign runtime outside (tally.endpoint.threads id).program _ (tally.endpoint.threads id).clock here
    unpolled unclosed
  rw [steps] at leaves
  have still : after.inner.sessionActive = true := by
    rcases step_side steps with ⟨-, same⟩ | ⟨_, _, is, -⟩ | ⟨result, is, -⟩
    · exact same.trans (accounted.exclusive.active runtime up id here)
    · rw [is] at here
      cases here
    · exact absurd is (unclosed result)
  apply accounted.inside up steps here
  · intro ended
    rw [still] at ended
    cases ended
  · intro _
    rw [step_records steps other, leaves.report]
    exact accounted.before up here other
  · exact fun impossible => absurd impossible leaves.goes

/-- A step of a thread that is in no session. -/
theorem outer (there : Pc.inside (tally.endpoint.threads id).pc = false) :
    Accounted ⟨stepped tally.endpoint id after next actions, tally.accepted, tally.lost⟩ := by
  have other : (tally.endpoint.threads id).pc ≠ .rejecting := by
    intro pc
    rw [pc] at there
    cases there
  have goes : next ≠ .rejecting := by
    rintro rfl
    rcases step_side steps with ⟨side, -⟩ | ⟨_, _, -, is, -⟩ | ⟨_, -, is, -⟩
    · rw [there] at side
      cases side
    · cases is
    · cases is
  have log : recordings (stepped tally.endpoint id after next actions).log = recordings tally.endpoint.log := by
    rw [show (moved tally.endpoint id after _ actions).log = logged id actions tally.endpoint.log from rfl,
      recordings_logged, step_records steps other, Nat.add_zero]
  -- a session that begins finds no report and no digits
  have answers : after.inner.mismatchRequested = runtime.inner.mismatchRequested ∧
      (after.inner.sessionActive = false → after.inner.sas = runtime.inner.sas ∧ runtime.inner.sessionActive = false) := by
    rcases step_outer there steps with same | ⟨-, asked⟩ | ⟨_, xx, -, free, begun⟩
    · rw [same]
      exact ⟨rfl, fun free => ⟨rfl, free⟩⟩
    · rw [asked, RuntimeInner.requestBegin]
      split <;> exact ⟨rfl, fun free => ⟨rfl, free⟩⟩
    · rw [begun, (accounted.idle runtime up free).1]
      simp [RuntimeInner.beginSession, free]
  refine ⟨accounted.exclusive.moved up steps, ?_, ?_, ?_⟩
  · rintro _ ⟨⟩ free
    obtain ⟨sas, was⟩ := answers.2 free
    rw [answers.1, sas]
    exact accounted.idle runtime up was
  · rintro _ ⟨⟩ nobody
    dsimp only
    rw [log, answers.1]
    apply accounted.owed runtime up
    intro thread
    by_cases same : thread = id
    · rw [same]
      exact other
    · have pc := nobody thread
      rw [moved_pc, if_neg same] at pc
      exact pc
  · rintro _ ⟨⟩ thread pc
    dsimp only at pc ⊢
    rw [log, answers.1]
    rw [moved_pc] at pc
    split at pc
    · exact absurd pc goes
    · exact accounted.rejecting runtime up thread pc

theorem moved (ready : (tally.endpoint.threads id).ready = true)
    (stores : storesReport foreign tally.endpoint (.step id outside) = true) :
    Accounted ⟨stepped tally.endpoint id after next actions,
      tally.accepted, tally.lost + (dropsReport tally.endpoint (.step id outside)).toNat⟩ := by
  cases pc : (tally.endpoint.threads id).pc with
  | polling loop => exact accounted.polls up steps pc
  | closing result => exact accounted.closes up steps pc
  | rejecting => exact accounted.rejects up steps pc ready stores
  | _ =>
    have kept : dropsReport tally.endpoint (.step id outside) = false := by
      simp only [dropsReport, up, pc, Bool.and_false]
    rw [kept]
    by_cases here : Pc.inside (tally.endpoint.threads id).pc = true
    · exact accounted.goes up steps here (by simp [pc]) (by simp [pc]) (by simp [pc])
    · exact accounted.outer up steps (Bool.not_eq_true _ ▸ here)

end Step

theorem rethread (accounted : Accounted tally) {thread : Thread}
    (same : Pc.inside thread.pc = true → thread.pc = (tally.endpoint.threads id).pc)
    (other : Pc.inside thread.pc = false → (tally.endpoint.threads id).pc ≠ .rejecting) :
    Accounted { tally with endpoint := { tally.endpoint with threads := tally.endpoint.update id thread } } := by
  have pcs (index : Nat) : (tally.endpoint.update id thread index).pc = .rejecting ↔ (tally.endpoint.threads index).pc = .rejecting := by
    rw [Endpoint.update, Function.update_apply]
    split
    next is =>
      subst is
      by_cases inside : Pc.inside thread.pc = true
      · rw [same inside]
      · refine iff_of_false (fun pc => ?_) (other (Bool.not_eq_true _ ▸ inside))
        rw [pc] at inside
        exact inside rfl
    next => rfl
  refine ⟨accounted.exclusive.rethread fun inside => same inside ▸ inside, accounted.idle, ?_, ?_⟩
  · intro runtime up nobody
    exact accounted.owed runtime up fun index => mt (pcs index).2 (nobody index)
  · intro runtime up index rejecting
    exact accounted.rejecting runtime up index ((pcs index).1 rejecting)

/-- An answer of the user: only a mismatch is reported, and only while digits are shown. -/
theorem setInner (accounted : Accounted tally) (up : tally.endpoint.process = .up runtime) {inner : RuntimeInner}
    (shows : SameShow runtime.inner inner) (reported : Bool)
    (reports : inner.mismatchRequested.toNat = runtime.inner.mismatchRequested.toNat + reported.toNat)
    (digits : reported = true → runtime.inner.sas ≠ none) {log : List Event} (same : recordings log = recordings tally.endpoint.log) :
    Accounted ⟨{ tally.endpoint.setInner runtime inner with log }, tally.accepted + reported.toNat, tally.lost⟩ := by
  have kept := accounted.exclusive.setInner up shows.active
  refine ⟨⟨kept.single, kept.active⟩, ?_, ?_, ?_⟩
  · rintro _ ⟨⟩ free
    obtain ⟨quiet, sas⟩ := accounted.idle runtime up (shows.active.symm.trans free)
    have unreported : reported = false := Bool.eq_false_iff.2 fun is => digits is sas
    rw [quiet, unreported] at reports
    exact ⟨Bool.toNat_eq_zero.1 reports, shows.sas.trans sas⟩
  · rintro _ ⟨⟩ nobody
    have balance := accounted.owed runtime up nobody
    dsimp only
    rw [same]
    omega
  · rintro _ ⟨⟩ index rejecting
    have balance := accounted.rejecting runtime up index rejecting
    dsimp only
    rw [same]
    omega

theorem step (accounted : Accounted tally) {label : Label} (stores : storesReport foreign tally.endpoint label = true) :
    Accounted (tally.step foreign label) := by
  have change := @took foreign tally.endpoint label
  simp only [Tally.step]
  generalize tally.endpoint.step foreign label = after at change
  cases change with
  | down gone =>
    have ignored : acceptsReport tally.endpoint label = false ∧ dropsReport tally.endpoint label = false := by
      cases process : tally.endpoint.process with
      | up runtime => exact absurd process (gone runtime)
      | down store => cases label <;> simp [acceptsReport, dropsReport, process]
    rw [ignored.1, ignored.2]
    exact accounted
  | busy | unread => exact accounted
  | @unready id outside waits =>
    have kept : dropsReport tally.endpoint (.step id outside) = false := by
      simp only [dropsReport]
      split
      · split
        next pc => simp [Thread.ready, pc, Pc.readsClock] at waits
        next pc => simp [Thread.ready, pc, Pc.readsClock] at waits
        next => exact Bool.and_false _
      · rfl
    rw [kept]
    exact accounted
  | @started id program idle =>
    refine accounted.rethread ?_ ?_
    · intro impossible
      exact absurd impossible (Bool.eq_false_iff.1 (Exclusive.not_inside_start program))
    · intro _ pc
      rw [idle] at pc
      cases pc
  | read =>
    refine accounted.rethread (fun _ => rfl) ?_
    intro there pc
    rw [pc] at there
    cases there
  | moved up ready steps => exact accounted.moved up steps ready stores
  | @confirmed runtime up log logs =>
    refine accounted.setInner up (localConfirm_show _) false ?_ (by simp) ?_
    · rw [RuntimeInner.localConfirm]
      split
      all_goals try split
      all_goals rfl
    · rcases logs with rfl | rfl
      · rfl
      · exact List.countP_cons_of_neg (by simp [Event.records])
  | @cancelled runtime up =>
    refine accounted.setInner up (cancel_show _) false ?_ (by simp) rfl
    rw [RuntimeInner.cancel]
    split
    · rfl
    · split <;> rfl
  | @mismatched runtime up =>
    refine accounted.setInner up (mismatch_show _) _ ?_ ?_ rfl
    · simp only [acceptsReport, up]
      rw [RuntimeInner.mismatch]
      split
      · rfl
      next shown =>
      split
      · rfl
      next fresh => simp [fresh]
    · simp only [acceptsReport, up, decide_eq_true_eq]
      intro accepted sas
      simp [RuntimeInner.mismatch, sas] at accepted
  | restarted => cases stores

theorem run (accounted : Accounted tally) {labels : List Label} (stores : runStores foreign tally.endpoint labels = true) :
    Accounted (tally.run foreign labels) := by
  induction labels generalizing tally with
  | nil => exact accounted
  | cons label labels ih =>
    rw [runStores, Bool.and_eq_true] at stores
    exact ih (accounted.step stores.1) stores.2

end Accounted

/-- A report is lost for good, so a run has lost none exactly if no label of it drops one. -/
theorem run_lost (tally : Tally) (labels : List Label) :
    tally.lost ≤ (tally.run foreign labels).lost ∧
      ((tally.run foreign labels).lost = tally.lost ↔ runHeeds foreign tally.endpoint labels = true) := by
  induction labels generalizing tally with
  | nil => exact ⟨Nat.le_refl _, iff_of_true rfl rfl⟩
  | cons label labels ih =>
    obtain ⟨more, keeps⟩ := ih (tally.step foreign label)
    change _ ↔ runHeeds foreign (tally.endpoint.step foreign label) labels = true at keeps
    change tally.lost ≤ ((tally.step foreign label).run foreign labels).lost ∧
      (((tally.step foreign label).run foreign labels).lost = tally.lost ↔ _)
    rw [runHeeds, Bool.and_eq_true, ← keeps]
    have lost : (tally.step foreign label).lost = tally.lost + (dropsReport tally.endpoint label).toNat := rfl
    cases drops : dropsReport tally.endpoint label with
    | false =>
      rw [drops] at lost
      simp only [lost, Bool.toNat_false, Nat.add_zero] at more ⊢
      simp [more]
    | true =>
      rw [drops] at lost
      simp only [Bool.toNat_true] at lost
      simp
      omega

/-- Each recording is one `record_mismatch` of the guard in memory, and the
file holds its result. -/
def Records (foreign : Foreign) (before after : Endpoint) : Prop :=
  recordings after.log = recordings before.log ∨
    (recordings after.log = recordings before.log + 1 ∧ ∃ runtime found nowMs, before.process = .up runtime ∧
      after.process = .up found ∧ found.guard = runtime.guard.recordMismatch nowMs ∧
      ∀ later, found.store.loadGuard foreign later = .ok found.guard)

theorem recordMismatch_stores (serialises : ∀ guard, Serialises foreign (guardObject guard)) {runtime after : SecureRuntime}
    {nowMs : Option UInt64} {calls : WriteCalls} (recorded : runtime.recordMismatch foreign nowMs calls = (.ok (), after)) :
    ∃ reading, after.guard = runtime.guard.recordMismatch reading ∧
      ∀ later, after.store.loadGuard foreign later = .ok after.guard := by
  cases nowMs with
  | none => cases recorded
  | some nowMs =>
    have loads := persistGuard_loads (serialises (runtime.guard.recordMismatch nowMs)) runtime.store calls
    simp only [SecureRuntime.recordMismatch] at recorded
    split at recorded
    · cases recorded
    next written =>
      rw [written] at loads
      cases recorded
      rcases loads with new | ⟨failed, -⟩
      · exact ⟨nowMs, rfl, new⟩
      · exact absurd rfl failed

theorem step_recordings (serialises : ∀ guard, Serialises foreign (guardObject guard)) (endpoint : Endpoint) (label : Label) :
    Records foreign endpoint (endpoint.step foreign label) := by
  have change := @took foreign endpoint label
  generalize endpoint.step foreign label = after at change
  cases change with
  | @moved id outside runtime up ready after next actions steps =>
    have log : recordings (stepped endpoint id after next actions).log =
        recordings endpoint.log + actions.countP Action.records := recordings_logged
    rw [Records, log]
    by_cases pc : (endpoint.threads id).pc = .rejecting
    · rw [pc] at steps
      simp only [Pc.step, reject] at steps
      split at steps
      · cases steps
        exact .inl rfl
      next recorded =>
        cases steps
        obtain ⟨reading, guard, loads⟩ := recordMismatch_stores serialises recorded
        exact .inr ⟨rfl, runtime, _, reading, up, rfl, guard, loads⟩
    · rw [step_records steps pc]
      exact .inl rfl
  | @confirmed runtime up log logs =>
    rcases logs with rfl | rfl
    · exact .inl rfl
    · exact .inl (List.countP_cons_of_neg (by simp [Event.records]))
  | restarted => exact .inl (List.countP_cons_of_neg (by simp [Event.records]))
  | _ => exact .inl rfl

/-- A process that has just come up. -/
structure Fresh (endpoint : Endpoint) : Prop extends Unstarted endpoint where
  up : ∃ runtime state, endpoint.process = .up runtime ∧ runtime.inner = .initial state

/-- When no session is active, every accepted report has been recorded, and no
other, exactly if no report was taken together with a cancel or outlasted its session. -/
theorem mismatches_counted (serialises : ∀ guard, Serialises foreign (guardObject guard)) {endpoint : Endpoint}
    (fresh : Fresh endpoint) {labels : List Label} (stores : runStores foreign endpoint labels = true) :
    let tally := (⟨endpoint, 0, 0⟩ : Tally).run foreign labels
    (∀ runtime, tally.endpoint.process = .up runtime → runtime.inner.sessionActive = false →
      (tally.accepted = recordings tally.endpoint.log ↔ runHeeds foreign endpoint labels = true)) ∧
    ∀ label, Records foreign tally.endpoint (tally.endpoint.step foreign label) := by
  intro tally
  have start : Accounted ⟨endpoint, 0, 0⟩ := by
    obtain ⟨first, state, there, inner⟩ := fresh.up
    have initial (runtime : SecureRuntime) (up : endpoint.process = .up runtime) : runtime.inner = .initial state := by
      rw [there] at up
      cases up
      exact inner
    refine ⟨.initial fresh.toUnstarted, ?_, ?_, ?_⟩
    · intro runtime up _
      rw [initial runtime up]
      exact ⟨rfl, rfl⟩
    · intro runtime up _
      rw [initial runtime up, fresh.silent]
      rfl
    · intro _ _ id pc
      rw [fresh.idle id] at pc
      cases pc
  have accounted : Accounted tally := start.run stores
  refine ⟨?_, step_recordings serialises _⟩
  intro runtime up free
  have nobody (id : Nat) : (tally.endpoint.threads id).pc ≠ .rejecting := by
    intro pc
    have outside := accounted.exclusive.nobody up free id
    rw [pc] at outside
    cases outside
  have balance := accounted.owed runtime up nobody
  rw [(accounted.idle runtime up free).1, Bool.toNat_false, Nat.add_zero] at balance
  rw [← (run_lost (⟨endpoint, 0, 0⟩ : Tally) labels).2]
  show tally.accepted = _ ↔ tally.lost = 0
  omega

theorem unpairedEndpoint_fresh (role : EndpointRole) : Fresh (unpairedEndpoint role) := ⟨⟨fun _ => rfl, rfl⟩, _, _, rfl, rfl⟩

/-- The accepted and the recorded reports of a phone on which no session is active any more. -/
def settledReports (labels : List Label) : Option (Nat × Nat) :=
  let tally := (⟨unpairedEndpoint .androidResponder, 0, 0⟩ : Tally).run jsonForeign labels
  match tally.endpoint.process with
  | .up runtime => if runtime.inner.sessionActive then none else some (tally.accepted, recordings tally.endpoint.log)
  | .down _ => none

theorem mismatches_counted_thrice :
    let tally := (⟨unpairedEndpoint .androidResponder, 0, 0⟩ : Tally).run jsonForeign threeMismatches
    settledReports threeMismatches = some (3, 3) ∧
      (∀ runtime, tally.endpoint.process = .up runtime → runtime.inner.sessionActive = false →
        (tally.accepted = recordings tally.endpoint.log ↔
          runHeeds jsonForeign (unpairedEndpoint .androidResponder) threeMismatches = true)) ∧
      ∀ label, Records jsonForeign tally.endpoint (tally.endpoint.step jsonForeign label) :=
  ⟨by decide +kernel, mismatches_counted guardObject_serialises (unpairedEndpoint_fresh _) (by decide +kernel)⟩

/-- A pairing session up to the display of the digits. -/
def digitsShown : List Label :=
  [.start 0 .responderSession] ++ calmSteps 0 1 ++ [.readClock 0 (some 1000)] ++ calmSteps 0 3

/-- The user reports a mismatch and then cancels as well. -/
def cancelledReport : List Label := digitsShown ++ [.mismatch, .cancel] ++ calmSteps 0 3

/-- The peer hangs up between the report and the next turn of the loop. -/
def abandonedReport : List Label :=
  digitsShown ++ calmSteps 0 1 ++ [.mismatch, .step 0 { calmOutside with received := .error .sessionLost }] ++ calmSteps 0 1

theorem accepted_reports_lost :
    Fresh (unpairedEndpoint .androidResponder) ∧
      (runStores jsonForeign (unpairedEndpoint .androidResponder) cancelledReport = true ∧
        settledReports cancelledReport = some (1, 0)) ∧
      runStores jsonForeign (unpairedEndpoint .androidResponder) abandonedReport = true ∧
        settledReports abandonedReport = some (1, 0) :=
  ⟨unpairedEndpoint_fresh _, by decide +kernel, by decide +kernel⟩

end PhoneBoost.Secure.Proofs
