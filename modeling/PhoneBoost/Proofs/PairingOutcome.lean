import PhoneBoost.Proofs.SessionSlot

/-! What a cancelled or rejected session leaves behind. At most one session is
active, so the trust store a session found when it began can change by its own
commit only. The user's cancel and mismatch are harmless while that commit is
still to come. -/

namespace PhoneBoost.Secure.Proofs
open Pbmux

variable {foreign : Foreign}

/-- A session that ended as cancelled or rejected has left the trust store, in
memory and on disk, as it found it when it began. -/
def LeavesTrust (endpoint : Endpoint) : Prop :=
  ∀ id outcome earlier, endpoint.log = .thread id (.finished (.ok outcome)) :: earlier → outcome ≠ .lost →
    ∃ runtime, endpoint.process = .up runtime ∧ begins id earlier = [(runtime.peers, runtime.store.peers)]

/-- No cancel or mismatch waits when `commit_peer` is called, none is accepted
afterwards in that session, and the client does not cancel it either. -/
def answersInTime (endpoint : Endpoint) (runtime : SecureRuntime) : Label → Bool
  | .step id outside =>
    match (endpoint.threads id).pc with
    | .committing _ => !runtime.inner.cancelRequested && !runtime.inner.mismatchRequested
    | .authenticated _ => !committedSession endpoint.log || !(match outside.ended with | some (.ok true) => true | _ => false)
    | _ => true
  | .cancel => !committedSession endpoint.log || runtime.inner.cancel.1 ≠ .accepted
  | .mismatch => !committedSession endpoint.log || runtime.inner.mismatch.1 ≠ .accepted
  | _ => true

def inTime (endpoint : Endpoint) (label : Label) : Bool :=
  match endpoint.process with
  | .up runtime => answersInTime endpoint runtime label
  | .down _ => true

def runsInTime (foreign : Foreign) : Endpoint → List Label → Bool
  | _, [] => true
  | endpoint, label :: labels => inTime endpoint label && runsInTime foreign (endpoint.step foreign label) labels

/-- At most one session is active, and while it has not committed the trust
store is the one it found. -/
structure Settled (endpoint : Endpoint) : Prop extends Exclusive endpoint where
  early : ∀ id, Pc.early (endpoint.threads id).pc = true → begins id endpoint.log = []
  found : ∀ runtime, endpoint.process = .up runtime → ∀ id, Pc.inside (endpoint.threads id).pc = true →
    ∃ peers files, begins id endpoint.log = [(peers, files)] ∧
      (committedSession endpoint.log = false → runtime.peers = peers ∧ runtime.store.peers = files)
  spared : ∀ id, Pc.spares (endpoint.threads id).pc = true → committedSession endpoint.log = false
  answered : ∀ runtime, endpoint.process = .up runtime → ∀ id, Pc.inside (endpoint.threads id).pc = true →
    committedSession endpoint.log = true →
    runtime.inner.cancelRequested = false ∧ runtime.inner.mismatchRequested = false
  leaves : LeavesTrust endpoint

theorem inside_of_spares {pc : Pc} (spares : Pc.spares pc = true) : Pc.inside pc = true := by
  cases pc with
  | idle | killed | asking | marking | returned | opening | waiting | admitting | beginning | finished => cases spares
  | _ => rfl

theorem not_early_of_inside {pc : Pc} (inside : Pc.inside pc = true) : Pc.early pc = false := by
  cases pc with
  | idle | asking | marking | opening | waiting | admitting | beginning => cases inside
  | _ => rfl

/-- New events without an end of a session at their head say nothing about results. -/
theorem leavesTrust_logged {endpoint : Endpoint} {id : Nat} {actions : List Action} {log : List Event}
    (log_eq : endpoint.log = logged id actions log) (unfinished : ∀ result, Action.finished result ∉ actions)
    (nonempty : actions ≠ []) : LeavesTrust endpoint := by
  intro other outcome earlier ended
  rw [log_eq, logged] at ended
  cases last : (actions.map (Event.thread id)).reverse with
  | nil =>
    simp only [List.reverse_eq_nil_iff, List.map_eq_nil_iff] at last
    exact absurd last nonempty
  | cons event rest =>
    rw [last, List.cons_append] at ended
    have head : Event.thread other (.finished (.ok outcome)) ∈ (actions.map (Event.thread id)).reverse := by
      rw [last, ← (List.cons.inj ended).1]
      exact List.mem_cons_self
    simp only [List.mem_reverse, List.mem_map, Event.thread.injEq] at head
    obtain ⟨action, member, _, rfl⟩ := head
    exact absurd member (unfinished _)

namespace Settled
variable {endpoint : Endpoint} {runtime after : SecureRuntime} {id : Nat} {thread : Thread} {actions : List Action}

/-- A move that starts, commits and ends nothing. -/
theorem unmarked (settled : Settled endpoint) (exclusive : Exclusive (moved endpoint id after thread actions))
    (up : endpoint.process = .up runtime) (plain : ∀ action ∈ actions, Action.marks action = false)
    (trust : SameTrust runtime after)
    (cancels : after.inner.cancelRequested = true → runtime.inner.cancelRequested = true)
    (mismatches : after.inner.mismatchRequested = true → runtime.inner.mismatchRequested = true)
    (inside : Pc.inside thread.pc = true → Pc.inside (endpoint.threads id).pc = true)
    (early : Pc.early thread.pc = true → Pc.early (endpoint.threads id).pc = true)
    (spares : Pc.spares thread.pc = true → committedSession endpoint.log = false) :
    Settled (moved endpoint id after thread actions) := by
  have session : committedSession (moved endpoint id after thread actions).log = committedSession endpoint.log :=
    committedSession_logged plain
  have starts (other : Nat) : begins other (moved endpoint id after thread actions).log = begins other endpoint.log :=
    begins_logged fun _ => plain
  have was {other : Nat} (here : Pc.inside ((moved endpoint id after thread actions).threads other).pc = true) :
      Pc.inside (endpoint.threads other).pc = true := by
    rw [moved_pc] at here
    split at here
    next same => exact same ▸ inside here
    next => exact here
  refine ⟨exclusive, ?_, ?_, ?_, ?_, ?_⟩
  · intro other here
    rw [starts]
    apply settled.early
    rw [moved_pc] at here
    split at here
    next same => exact same ▸ early here
    next => exact here
  · rintro _ ⟨⟩ other here
    obtain ⟨peers, files, started, same⟩ := settled.found runtime up other (was here)
    refine ⟨peers, files, (starts other).trans started, ?_⟩
    rw [session, trust.1, trust.2]
    exact same
  · intro other here
    rw [session]
    rw [moved_pc] at here
    split at here
    · exact spares here
    · exact settled.spared other here
  · rintro _ ⟨⟩ other here committed
    rw [session] at committed
    obtain ⟨cancel, mismatch⟩ := settled.answered runtime up other (was here) committed
    exact ⟨Bool.eq_false_iff.mpr fun asked => Bool.eq_false_iff.mp cancel (cancels asked),
      Bool.eq_false_iff.mpr fun asked => Bool.eq_false_iff.mp mismatch (mismatches asked)⟩
  · by_cases empty : actions = []
    · subst empty
      intro other outcome earlier ended kept
      obtain ⟨found, same, started⟩ := settled.leaves other outcome earlier ended kept
      rw [up] at same
      cases same
      refine ⟨after, rfl, ?_⟩
      rw [trust.1, trust.2]
      exact started
    · exact leavesTrust_logged rfl (fun result member => by cases plain _ member) empty

/-- The commit of the one active session. -/
theorem committed {key : Bytes32} (settled : Settled endpoint)
    (exclusive : Exclusive (moved endpoint id after thread [.commitCalled key])) (up : endpoint.process = .up runtime)
    (here : Pc.inside (endpoint.threads id).pc = true) (inside : Pc.inside thread.pc = true)
    (answered : after.inner.cancelRequested = false ∧ after.inner.mismatchRequested = false)
    (spares : Pc.spares thread.pc = false) :
    Settled (moved endpoint id after thread [.commitCalled key]) := by
  have starts (other : Nat) : begins other (moved endpoint id after thread [.commitCalled key]).log =
      begins other endpoint.log := rfl
  have only {other : Nat} (there : Pc.inside ((moved endpoint id after thread [.commitCalled key]).threads other).pc = true) :
      other = id := exclusive.only inside there
  refine ⟨exclusive, ?_, ?_, ?_, ?_, ?_⟩
  · intro other there
    rw [starts]
    rw [moved_pc] at there
    split at there
    · rw [not_early_of_inside inside] at there
      cases there
    · exact settled.early other there
  · rintro _ ⟨⟩ other there
    obtain ⟨peers, files, started, _⟩ := settled.found runtime up id here
    rw [only there]
    exact ⟨peers, files, started, fun impossible => by cases impossible⟩
  · intro other there
    have same := only (inside_of_spares there)
    rw [moved_pc, if_pos same, spares] at there
    cases there
  · rintro _ ⟨⟩ other there _
    exact answered
  · exact leavesTrust_logged rfl (by simp) (by simp)

/-- The start of a session. -/
theorem began {xx : Bool} (settled : Settled endpoint)
    (exclusive : Exclusive (moved endpoint id after thread [.began xx runtime.peers runtime.store.peers]))
    (early : Pc.early (endpoint.threads id).pc = true) (inside : Pc.inside thread.pc = true) (trust : SameTrust runtime after) :
    Settled (moved endpoint id after thread [.began xx runtime.peers runtime.store.peers]) := by
  have starts (other : Nat) : begins other (moved endpoint id after thread [.began xx runtime.peers runtime.store.peers]).log =
      if id = other then [(runtime.peers, runtime.store.peers)] ++ begins other endpoint.log
      else begins other endpoint.log := by
    show begins other (.thread id (.began xx runtime.peers runtime.store.peers) :: endpoint.log) = _
    simp only [begins, List.filterMap_cons]
    split <;> simp_all
  refine ⟨exclusive, ?_, ?_, ?_, ?_, ?_⟩
  · intro other there
    rw [moved_pc] at there
    split at there
    · rw [not_early_of_inside inside] at there
      cases there
    next different =>
      rw [starts, if_neg fun same => different same.symm]
      exact settled.early other there
  · rintro _ ⟨⟩ other there
    rw [exclusive.only inside there, starts, if_pos rfl, settled.early id early]
    exact ⟨_, _, rfl, fun _ => trust⟩
  · exact fun _ _ => rfl
  · intro _ _ _ _ impossible
    cases impossible
  · exact leavesTrust_logged rfl (by simp) (by simp)

/-- The end of the one active session. -/
theorem finished {result : SessionResult} (settled : Settled endpoint)
    (exclusive : Exclusive (moved endpoint id after thread [.finished result])) (up : endpoint.process = .up runtime)
    (here : (endpoint.threads id).pc = .closing result) (ended : thread.pc = .finished result)
    (trust : SameTrust runtime after) : Settled (moved endpoint id after thread [.finished result]) := by
  have inside : Pc.inside (endpoint.threads id).pc = true := by
    rw [here]
    rfl
  have nobody (other : Nat) : Pc.inside ((moved endpoint id after thread [.finished result]).threads other).pc = false := by
    rw [moved_pc, ended]
    split
    · rfl
    next different =>
      apply Bool.eq_false_iff.mpr
      intro there
      exact different (settled.single other id there inside)
  have absurd_inside {other : Nat} {P : Prop}
      (there : Pc.inside ((moved endpoint id after thread [.finished result]).threads other).pc = true) : P := by
    rw [nobody other] at there
    cases there
  refine ⟨exclusive, ?_, fun _ _ _ there => absurd_inside there, fun _ there => absurd_inside (inside_of_spares there),
    fun _ _ _ there => absurd_inside there, ?_⟩
  · intro other there
    rw [moved_pc, ended] at there
    split at there
    · cases there
    · exact settled.early other there
  · intro other outcome earlier last kept
    have same : Event.thread id (.finished result) :: endpoint.log = .thread other (.finished (.ok outcome)) :: earlier := last
    cases same
    have spared : committedSession endpoint.log = false := by
      apply settled.spared id
      rw [here]
      cases outcome with
      | lost => exact absurd rfl kept
      | cancelled | rejected => rfl
    obtain ⟨peers, files, started, unchanged⟩ := settled.found runtime up id inside
    refine ⟨after, rfl, ?_⟩
    rw [started, trust.1, trust.2, (unchanged spared).1, (unchanged spared).2]

theorem stepThread {outside : Outside} {next : Pc} (settled : Settled endpoint)
    (exclusive : Exclusive (stepped endpoint id after next actions)) (up : endpoint.process = .up runtime)
    (timely : answersInTime endpoint runtime (.step id outside) = true)
    (steps : (endpoint.threads id).pc.step foreign (endpoint.threads id).program runtime (endpoint.threads id).clock outside =
      (after, next, actions)) : Settled (stepped endpoint id after next actions) := by
  generalize pc_eq : (endpoint.threads id).pc = pc at steps
  simp only [answersInTime, pc_eq] at timely
  generalize (endpoint.threads id).program = program at steps
  generalize (endpoint.threads id).clock = nowMs at steps
  have logs := step_logs foreign program runtime nowMs outside pc
  have trust := @step_trust foreign runtime nowMs outside program pc
  rw [steps] at logs trust
  by_cases inside : Pc.inside pc = true
  swap
  · have step := @step_outside foreign runtime outside pc program nowMs (Bool.not_eq_true _ ▸ inside)
    rw [steps] at step
    rcases step with ⟨outer, same, early, plain⟩ | ⟨peer, xx, rfl, free, begun⟩
    · apply settled.unmarked exclusive up plain (trust fun loop is => inside (by rw [is]; rfl))
      · exact fun asked => same.cancel ▸ asked
      · exact fun asked => same.mismatch ▸ asked
      · intro impossible
        rw [outer] at impossible
        cases impossible
      · intro still
        rw [pc_eq]
        exact early still
      · intro spares
        rw [inside_of_spares spares] at outer
        cases outer
    · cases begun
      exact settled.began exclusive (by rw [pc_eq]; rfl) rfl ⟨rfl, rfl⟩
  by_cases closes : ∃ result, pc = .closing result
  · obtain ⟨result, rfl⟩ := closes
    cases steps
    exact settled.finished exclusive up pc_eq rfl ⟨rfl, rfl⟩
  have step := @step_inside foreign runtime outside pc program nowMs inside fun result is => closes ⟨result, is⟩
  rw [steps] at step
  have here : Pc.inside (endpoint.threads id).pc = true := pc_eq ▸ inside
  by_cases commits : ∃ loop, pc = .committing loop
  · obtain ⟨loop, rfl⟩ := commits
    simp only [Bool.and_eq_true, Bool.not_eq_true'] at timely
    have shape : actions = [.commitCalled loop.remote] ∧ Pc.spares next = false := by
      simp only [Pc.step, commit] at steps
      split at steps
      · cases steps
        exact ⟨rfl, rfl⟩
      · split at steps <;> cases steps <;> exact ⟨rfl, rfl⟩
    obtain ⟨rfl, spares⟩ := shape
    refine settled.committed exclusive up here step.inside ?_ spares
    exact ⟨Bool.eq_false_iff.mpr fun asked => Bool.eq_false_iff.mp timely.1 (step.cancels asked),
      Bool.eq_false_iff.mpr fun asked => Bool.eq_false_iff.mp timely.2 (step.mismatches asked)⟩
  · have plain : ∀ action ∈ actions, Action.marks action = false := by
      intro action member
      apply Bool.eq_false_iff.mpr
      intro marks
      rcases may_marks (logs action member) marks with ⟨peer, xx, is⟩ | ⟨loop, is⟩ | ⟨result, is⟩
      · rw [is] at inside
        cases inside
      · exact commits ⟨loop, is⟩
      · exact closes ⟨result, is⟩
    apply settled.unmarked exclusive up plain (trust fun loop is => commits ⟨loop, is⟩) step.cancels step.mismatches
    · exact fun _ => here
    · intro impossible
      rw [not_early_of_inside step.inside] at impossible
      cases impossible
    · intro spares
      apply Bool.eq_false_iff.mpr
      intro committed
      obtain ⟨cancel, mismatch⟩ := settled.answered runtime up id here committed
      rcases step.spares spares with before | asked | asked | ⟨session, is, ended⟩
      · rw [settled.spared id (pc_eq ▸ before)] at committed
        cases committed
      · rw [cancel] at asked
        cases asked
      · rw [mismatch] at asked
        cases asked
      · subst is
        simp [committed, ended] at timely

/-- A thread that moves without a step of its program. -/
theorem rethread (settled : Settled endpoint) (exclusive : Exclusive { endpoint with threads := endpoint.update id thread })
    (inside : Pc.inside thread.pc = true → Pc.inside (endpoint.threads id).pc = true)
    (early : Pc.early thread.pc = true → Pc.early (endpoint.threads id).pc = true)
    (spares : Pc.spares thread.pc = true → Pc.spares (endpoint.threads id).pc = true) :
    Settled { endpoint with threads := endpoint.update id thread } := by
  have was {point : Pc → Bool} (kept : point thread.pc = true → point (endpoint.threads id).pc = true) {other : Nat}
      (here : point (endpoint.update id thread other).pc = true) : point (endpoint.threads other).pc = true := by
    rw [Endpoint.update, Function.update_apply] at here
    split at here
    next same => exact same ▸ kept here
    next => exact here
  exact ⟨exclusive, fun other here => settled.early other (was early here),
    fun runtime up other here => settled.found runtime up other (was inside here),
    fun other here => settled.spared other (was spares here),
    fun runtime up other here => settled.answered runtime up other (was inside here), settled.leaves⟩

/-- The user's answers change no field but their own request. -/
theorem setInner {inner : RuntimeInner} (settled : Settled endpoint) (exclusive : Exclusive (endpoint.setInner runtime inner))
    (up : endpoint.process = .up runtime)
    (timely : committedSession endpoint.log = true →
      (inner.cancelRequested = true → runtime.inner.cancelRequested = true) ∧
        (inner.mismatchRequested = true → runtime.inner.mismatchRequested = true)) :
    Settled (endpoint.setInner runtime inner) := by
  refine ⟨exclusive, settled.early, ?_, settled.spared, ?_, ?_⟩
  · rintro _ ⟨⟩ id inside
    exact settled.found runtime up id inside
  · rintro _ ⟨⟩ id inside committed
    obtain ⟨cancel, mismatch⟩ := settled.answered runtime up id inside committed
    obtain ⟨cancels, mismatches⟩ := timely committed
    exact ⟨Bool.eq_false_iff.mpr fun asked => Bool.eq_false_iff.mp cancel (cancels asked),
      Bool.eq_false_iff.mpr fun asked => Bool.eq_false_iff.mp mismatch (mismatches asked)⟩
  · intro id outcome earlier ended kept
    obtain ⟨found, same, started⟩ := settled.leaves id outcome earlier ended kept
    rw [up] at same
    cases same
    exact ⟨_, rfl, started⟩

/-- A restart ends every thread and with it every session. -/
theorem restart {processId : Nat} {start : SecureRuntime.Start} (settled : Settled endpoint)
    (exclusive : Exclusive (endpoint.restart foreign processId start)) : Settled (endpoint.restart foreign processId start) := by
  have killed (id : Nat) : ((endpoint.threads id).pc = .idle ∧ ((endpoint.restart foreign processId start).threads id).pc = .idle) ∨
      ((endpoint.restart foreign processId start).threads id).pc = .killed := by
    show _ ∨ (endpoint.threads id).kill.pc = .killed
    show ((endpoint.threads id).pc = .idle ∧ (endpoint.threads id).kill.pc = .idle) ∨ _
    rw [Thread.kill]
    split
    next idle => exact .inl ⟨idle, idle⟩
    next => exact .inr rfl
  have nobody (id : Nat) : Pc.inside ((endpoint.restart foreign processId start).threads id).pc = false := by
    rcases killed id with ⟨_, idle⟩ | gone
    · rw [idle]
      rfl
    · rw [gone]
      rfl
  have absurd_inside {id : Nat} {P : Prop}
      (there : Pc.inside ((endpoint.restart foreign processId start).threads id).pc = true) : P := by
    rw [nobody id] at there
    cases there
  refine ⟨exclusive, ?_, fun _ _ _ there => absurd_inside there, fun _ there => absurd_inside (inside_of_spares there),
    fun _ _ _ there => absurd_inside there, ?_⟩
  · intro id there
    rcases killed id with ⟨idle, _⟩ | gone
    · exact settled.early id (by rw [idle]; rfl)
    · rw [gone] at there
      cases there
  · intro id outcome earlier ended
    have same : Event.restarted :: endpoint.log = .thread id (.finished (.ok outcome)) :: earlier := ended
    cases same

theorem step (settled : Settled endpoint) {label : Label} (timely : inTime endpoint label = true) :
    Settled (endpoint.step foreign label) := by
  have exclusive : Exclusive (endpoint.step foreign label) := settled.toExclusive.step label
  have change := @took foreign endpoint label
  generalize endpoint.step foreign label = after at exclusive change
  cases change with
  | down | busy | unread | unready => exact settled
  | @started id program idle =>
    refine settled.rethread exclusive ?_ (fun _ => by rw [idle]; rfl) ?_
    all_goals
      intro impossible
      cases program <;> cases impossible
  | read => exact settled.rethread exclusive (fun same => same) (fun same => same) fun same => same
  | moved up _ steps =>
    simp only [inTime, up] at timely
    exact settled.stepThread exclusive up timely steps
  | @confirmed runtime up log logs =>
    have shown : Settled (endpoint.setInner runtime runtime.inner.localConfirm.2) := by
      refine settled.setInner ⟨exclusive.single, exclusive.active⟩ up fun _ => ?_
      rw [RuntimeInner.localConfirm]
      split
      all_goals try split
      all_goals exact ⟨id, id⟩
    rcases logs with rfl | rfl
    · exact shown
    · refine ⟨exclusive, shown.early, shown.found, shown.spared, shown.answered, ?_⟩
      intro id outcome earlier ended
      cases (List.cons.inj ended).1
  | @cancelled runtime up =>
    refine settled.setInner exclusive up fun committed => ?_
    simp only [inTime, up, answersInTime, committed, Bool.not_true, Bool.false_or, decide_eq_true_eq] at timely
    rw [RuntimeInner.cancel] at timely ⊢
    split
    · exact ⟨id, id⟩
    next shown =>
      rw [if_neg shown] at timely
      split
      · exact ⟨id, id⟩
      next fresh => exact absurd (by rw [if_neg fresh]) timely
  | @mismatched runtime up =>
    refine settled.setInner exclusive up fun committed => ?_
    simp only [inTime, up, answersInTime, committed, Bool.not_true, Bool.false_or, decide_eq_true_eq] at timely
    rw [RuntimeInner.mismatch] at timely ⊢
    split
    · exact ⟨id, id⟩
    next shown =>
      rw [if_neg shown] at timely
      split
      · exact ⟨id, id⟩
      next fresh => exact absurd (by rw [if_neg fresh]) timely
  | restarted => exact settled.restart exclusive

theorem run (settled : Settled endpoint) {labels : List Label} (timely : runsInTime foreign endpoint labels = true) :
    Settled (endpoint.run foreign labels) := by
  induction labels generalizing endpoint with
  | nil => exact settled
  | cons label labels ih =>
    simp only [runsInTime, Bool.and_eq_true] at timely
    exact ih (settled.step timely.1) timely.2

theorem initial (unstarted : Unstarted endpoint) : Settled endpoint := by
  have nobody {id : Nat} {P : Prop} (there : Pc.inside (endpoint.threads id).pc = true) : P := by
    rw [unstarted.idle id] at there
    cases there
  refine ⟨.initial unstarted, ?_, fun _ _ _ there => nobody there, fun _ there => nobody (inside_of_spares there),
    fun _ _ _ there => nobody there, ?_⟩
  · intro id _
    rw [unstarted.silent]
    rfl
  · intro id outcome earlier ended
    rw [unstarted.silent] at ended
    cases ended

end Settled

theorem ended_pairing_leaves_trust {endpoint : Endpoint} (unstarted : Unstarted endpoint) {labels : List Label}
    (timely : runsInTime foreign endpoint labels = true) : LeavesTrust (endpoint.run foreign labels) :=
  ((Settled.initial unstarted).run timely).leaves

/-! A mismatch that comes after the commit. -/

/-- The phone pairs with a host up to the commit. -/
def committedPairing : List Label :=
  [.start 0 .responderSession] ++ calmSteps 0 1 ++ [.readClock 0 (some 1000)] ++ calmSteps 0 3 ++ [.localConfirm]
    ++ calmSteps 0 3 ++ [receives 0 (controlFrame .pairConfirm 1 0)] ++ calmSteps 0 1 ++ [.readClock 0 (some 2000)]
    ++ calmSteps 0 2

/-- The user reports a mismatch, and the session ends with it. -/
def lateMismatch : List Label := [.mismatch] ++ calmSteps 0 1 ++ [.readClock 0 (some 3000)] ++ calmSteps 0 2

def endsRejected : List Event → Bool
  | .thread 0 (.finished (.ok .rejected)) :: _ => true
  | _ => false

def trusts (process : Process) (key : Bytes32) : Bool :=
  match process with
  | .up runtime => runtime.peerIsCommitted key
  | .down _ => false

/-- The mismatch of a user who reports it in time. -/
theorem ended_pairing_leaves_trust_early :
    endsRejected ((unpairedEndpoint .androidResponder).run jsonForeign (mismatchSession 0 1000)).log = true ∧
      LeavesTrust ((unpairedEndpoint .androidResponder).run jsonForeign (mismatchSession 0 1000)) :=
  ⟨by decide +kernel, ended_pairing_leaves_trust ⟨fun _ => rfl, rfl⟩ (by decide +kernel)⟩

theorem late_mismatch_keeps_trust :
    let endpoint := (unpairedEndpoint .androidResponder).run jsonForeign (committedPairing ++ lateMismatch)
    endsRejected endpoint.log = true ∧ trusts endpoint.process sampleKey = true ∧ ¬ LeavesTrust endpoint := by
  intro endpoint
  have rejected : endsRejected endpoint.log = true := by decide +kernel
  have trusted : trusts endpoint.process sampleKey = true := by decide +kernel
  have nobody : (begins 0 endpoint.log).map (fun start => start.1.length) = [0] := by decide +kernel
  refine ⟨rejected, trusted, fun leaves => ?_⟩
  generalize endpoint = endpoint at rejected trusted nobody leaves
  cases log : endpoint.log with
  | nil =>
    rw [log] at rejected
    cases rejected
  | cons event earlier =>
    rw [log, endsRejected.eq_def] at rejected
    split at rejected
    next same =>
      cases same
      obtain ⟨runtime, up, started⟩ := leaves 0 .rejected earlier log (by decide)
      rw [log, show begins 0 (.thread 0 (.finished (.ok .rejected)) :: earlier) = begins 0 earlier from rfl, started] at nobody
      have empty : runtime.peers = [] := List.length_eq_zero_iff.mp (List.cons.inj nobody).1
      simp [trusts, up, SecureRuntime.peerIsCommitted, empty] at trusted
    next => cases rejected

end PhoneBoost.Secure.Proofs
