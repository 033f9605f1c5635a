import PhoneBoost.Proofs.PairingCooldown

/-! The session slot of a runtime. A step keeps to its side of a session, begins
one or ends it; so at most one thread is inside a session, however the threads and
the user interleave. -/

namespace PhoneBoost.Secure.Proofs
open Pbmux

variable {foreign : Foreign}

/-- Between the start of a session and its end. -/
def Pc.inside : Pc → Bool
  | .idle | .killed | .asking | .marking | .returned _ | .opening | .waiting | .admitting | .beginning .. | .finished _ => false
  | _ => true

/-- Points before the start of a session. -/
def Pc.early : Pc → Bool
  | .idle | .asking | .marking | .opening | .waiting | .admitting | .beginning .. => true
  | _ => false

/-- Points whose session has not committed, or must not have: it ends as cancelled or rejected. -/
def Pc.spares : Pc → Bool
  | .handshaking .. | .cancelling | .rejecting | .greeting _ | .awaiting .. => true
  | .polling loop | .confirming loop | .sending loop | .receiving loop | .deciding loop | .committing loop => !loop.committed
  | .closing (.ok .cancelled) | .closing (.ok .rejected) => true
  | _ => false

/-- The session of the moment has called `commit_peer`. -/
def committedSession : List Event → Bool
  | [] => false
  | .thread _ (.commitCalled _) :: _ => true
  | .thread _ (.began ..) :: _ | .thread _ (.finished _) :: _ | .restarted :: _ => false
  | _ :: earlier => committedSession earlier

/-- The trust store at each start of the thread's session. -/
def begins (id : Nat) (log : List Event) : List (List PeerRecord × Directory) :=
  log.filterMap fun
    | .thread other (.began _ peers files) => if other = id then some (peers, files) else none
    | _ => none

/-- The actions that these two speak about. -/
def Action.marks : Action → Bool
  | .began .. | .commitCalled _ | .finished _ => true
  | _ => false

theorem committedSession_logged {id : Nat} {actions : List Action} {log : List Event}
    (unmarked : ∀ action ∈ actions, Action.marks action = false) :
    committedSession (logged id actions log) = committedSession log := by
  induction actions generalizing log with
  | nil => rfl
  | cons action actions ih =>
    rw [logged_cons, ih fun other member => unmarked other (List.mem_cons_of_mem _ member)]
    have plain := unmarked action List.mem_cons_self
    cases action with
    | began | commitCalled | finished => cases plain
    | _ => rfl

theorem begins_logged {id actor : Nat} {actions : List Action} {log : List Event}
    (unmarked : actor = id → ∀ action ∈ actions, Action.marks action = false) :
    begins id (logged actor actions log) = begins id log := by
  induction actions generalizing log with
  | nil => rfl
  | cons action actions ih =>
    rw [logged_cons, ih fun same other member => unmarked same other (List.mem_cons_of_mem _ member)]
    cases action with
    | began xx peers files =>
      have different : actor ≠ id := by
        intro same
        cases unmarked same _ List.mem_cons_self
      simp [begins, different]
    | _ => rfl

/-- Only the start, the commit and the end of a session leave a mark. -/
theorem may_marks {pc : Pc} {action : Action} (may : Pc.may pc action = true) (marks : Action.marks action = true) :
    (∃ peer xx, pc = .beginning peer xx) ∨ (∃ loop, pc = .committing loop) ∨ ∃ result, pc = .closing result := by
  cases action with
  | began =>
    cases pc with
    | beginning peer xx => exact .inl ⟨peer, xx, rfl⟩
    | _ => cases may
  | commitCalled =>
    cases pc with
    | committing loop => exact .inr (.inl ⟨loop, rfl⟩)
    | _ => cases may
  | finished =>
    cases pc with
    | closing result => exact .inr (.inr ⟨result, rfl⟩)
    | _ => cases may
  | _ => cases marks

/-- A step of a session that does not end it. -/
structure InsideStep (runtime : SecureRuntime) (outside : Outside) (pc : Pc) (moved : Moved) : Prop where
  inside : Pc.inside moved.2.1 = true
  active : moved.1.inner.sessionActive = runtime.inner.sessionActive
  cancels : moved.1.inner.cancelRequested = true → runtime.inner.cancelRequested = true
  mismatches : moved.1.inner.mismatchRequested = true → runtime.inner.mismatchRequested = true
  spares : Pc.spares moved.2.1 = true → Pc.spares pc = true ∨ runtime.inner.cancelRequested = true ∨
    runtime.inner.mismatchRequested = true ∨ ∃ session, pc = .authenticated session ∧ outside.ended = some (.ok true)

section Inside
variable {runtime shown : SecureRuntime} {outside : Outside} {pc next : Pc}

/-- What the steps do to the fields of `inner` that count here. -/
structure SameAnswers (runtime shown : SecureRuntime) : Prop where
  active : shown.inner.sessionActive = runtime.inner.sessionActive
  cancel : shown.inner.cancelRequested = runtime.inner.cancelRequested
  mismatch : shown.inner.mismatchRequested = runtime.inner.mismatchRequested

theorem sameAnswers_refl (runtime : SecureRuntime) : SameAnswers runtime runtime := ⟨rfl, rfl, rfl⟩

theorem sameAnswers_state (runtime : SecureRuntime) (state : PairingState) :
    SameAnswers runtime (runtime.setPairingState state) := ⟨rfl, rfl, rfl⟩

theorem sameAnswers_sas (runtime : SecureRuntime) (sas : String) :
    SameAnswers runtime { runtime with inner := runtime.inner.setSas sas } := ⟨rfl, rfl, rfl⟩

theorem insideStep_of_same (same : SameAnswers runtime shown) (inside : Pc.inside next = true)
    (spares : Pc.spares next = true → Pc.spares pc = true) {actions : List Action} :
    InsideStep runtime outside pc (shown, next, actions) where
  inside := inside
  active := same.active
  cancels requested := same.cancel ▸ requested
  mismatches requested := same.mismatch ▸ requested
  spares kept := .inl (spares kept)

theorem insideStep_closing (same : SameAnswers runtime shown) {error : RuntimeError} {actions : List Action} :
    InsideStep runtime outside pc (shown, .closing (.error error), actions) :=
  insideStep_of_same same rfl fun impossible => by cases impossible

theorem insideStep_sendFrame (same : SameAnswers runtime shown) {sequence : UInt64} {frame : Frame} {next : UInt64 → Pc}
    (inside : ∀ sequence, Pc.inside (next sequence) = true)
    (spares : ∀ sequence, Pc.spares (next sequence) = true → Pc.spares pc = true) :
    InsideStep runtime outside pc (sendFrame shown outside sequence frame next) := by
  rw [sendFrame]
  split
  · exact insideStep_closing same
  · split
    · exact insideStep_closing same
    · exact insideStep_of_same same (inside _) (spares _)

theorem InsideStep.after {moved : Moved} (step : InsideStep runtime outside pc moved) (frame : Frame) :
    InsideStep runtime outside pc (moved.after frame) :=
  ⟨step.inside, step.active, step.cancels, step.mismatches, step.spares⟩

theorem shakeHands_inside (peer : Option PeerRecord) (xx : Bool) :
    InsideStep runtime outside (.handshaking peer xx) (shakeHands runtime outside peer xx) := by
  rw [shakeHands]
  split
  · exact insideStep_closing (sameAnswers_refl _)
  split
  · dsimp only
    split
    · exact insideStep_closing (sameAnswers_sas _ _)
    · exact insideStep_of_same (sameAnswers_sas _ _) rfl (fun _ => rfl)
  · dsimp only
    split
    · exact insideStep_closing (sameAnswers_refl _)
    · exact insideStep_closing (sameAnswers_refl _)
    · exact insideStep_of_same (sameAnswers_refl _) rfl (fun _ => rfl)

theorem poll_inside (loop : PairingLoop) : InsideStep runtime outside (.polling loop) (poll runtime outside loop) := by
  rw [poll]
  split
  · exact insideStep_closing (sameAnswers_state _ _)
  dsimp only
  -- the answers are taken, so no request is left
  have taken {next : Pc} {actions : List Action} (inside : Pc.inside next = true)
      (spares : Pc.spares next = true → Pc.spares (.polling loop) = true ∨ runtime.inner.cancelRequested = true ∨
        runtime.inner.mismatchRequested = true) :
      InsideStep runtime outside (.polling loop)
        ({ runtime with inner := runtime.inner.takeActions.2 }, next, actions) := by
    refine ⟨inside, rfl, (fun impossible => by cases impossible), (fun impossible => by cases impossible), fun kept => ?_⟩
    rcases spares kept with same | cancel | mismatch
    · exact .inl same
    · exact .inr (.inl cancel)
    · exact .inr (.inr (.inl mismatch))
  split
  next cancelled => exact taken rfl fun _ => .inr (.inl cancelled)
  split
  next mismatched => exact taken rfl fun _ => .inr (.inr mismatched)
  split
  · exact taken rfl fun kept => .inl kept
  · exact taken rfl fun kept => .inl kept

theorem dispatch_inside (program : Program) (source loop : PairingLoop) (same : loop.committed = source.committed)
    (frame : Frame) : InsideStep runtime outside (.receiving source) (dispatch program runtime outside loop frame) := by
  have kept (actor : PairingActor) : Pc.spares (.deciding { loop with actor }) = true → Pc.spares (.receiving source) = true := by
    intro spared
    simpa only [Pc.spares, same] using spared
  rw [dispatch]
  split
  · split
    · exact insideStep_closing (sameAnswers_refl _)
    · exact insideStep_of_same (sameAnswers_state _ _) rfl (kept _)
  · split
    · exact insideStep_sendFrame (sameAnswers_refl _) (fun _ => rfl) fun _ impossible => by cases impossible
    · exact insideStep_of_same (sameAnswers_refl _) rfl (kept _)
  · split
    · split
      · exact insideStep_closing (sameAnswers_refl _)
      · exact insideStep_of_same (sameAnswers_refl _) rfl (fun impossible => by cases impossible)
    · exact insideStep_of_same (sameAnswers_refl _) rfl (kept _)
  · exact insideStep_of_same (sameAnswers_refl _) rfl (fun impossible => by cases impossible)
  · exact insideStep_of_same (sameAnswers_refl _) rfl (kept _)

theorem receive_inside (program : Program) (loop : PairingLoop) :
    InsideStep runtime outside (.receiving loop) (receive program runtime outside loop) := by
  rw [receive]
  split
  · exact insideStep_closing (sameAnswers_refl _)
  · refine insideStep_of_same (sameAnswers_refl _) rfl ?_
    exact fun kept => kept
  apply InsideStep.after
  rw [receiveFrame]
  split
  · exact insideStep_closing (sameAnswers_refl _)
  split
  · exact insideStep_closing (sameAnswers_refl _)
  · exact dispatch_inside program loop _ (by rfl) _

theorem await_inside (program : Program) (remote : Bytes32) (request : Option UInt64) :
    InsideStep runtime outside (.awaiting remote request) (await program runtime outside remote request) := by
  rw [await]
  split
  · exact insideStep_closing (sameAnswers_refl _)
  · exact insideStep_of_same (sameAnswers_refl _) rfl (fun _ => rfl)
  apply InsideStep.after
  rw [welcome]
  split
  · exact insideStep_closing (sameAnswers_refl _)
  split
  · split
    · exact insideStep_of_same (sameAnswers_refl _) rfl (fun _ => rfl)
    · exact insideStep_closing (sameAnswers_refl _)
  split
  · exact insideStep_closing (sameAnswers_refl _)
  · exact insideStep_sendFrame (sameAnswers_refl _) (fun _ => rfl) fun _ _ => rfl

theorem serve_inside (session : VerifiedPeerSession) :
    InsideStep runtime outside (.authenticated session) (serve runtime outside session) := by
  rw [serve]
  split
  · exact insideStep_of_same (sameAnswers_refl _) rfl (fun impossible => by cases impossible)
  · exact insideStep_closing (sameAnswers_refl _)
  next cancelled ended =>
    cases cancelled with
    | false => exact insideStep_of_same (sameAnswers_refl _) rfl (fun impossible => by cases impossible)
    | true => exact ⟨rfl, rfl, id, id, fun _ => .inr (.inr (.inr ⟨session, rfl, ended⟩))⟩

theorem step_inside (program : Program) (nowMs : Option UInt64) (inside : Pc.inside pc = true)
    (unclosed : ∀ result, pc ≠ .closing result) :
    InsideStep runtime outside pc (pc.step foreign program runtime nowMs outside) := by
  cases pc with
  | handshaking peer xx => exact shakeHands_inside peer xx
  | polling loop => exact poll_inside loop
  | cancelling => exact insideStep_of_same (sameAnswers_state _ _) rfl fun _ => rfl
  | rejecting =>
    have same : SameAnswers runtime (runtime.recordMismatch foreign nowMs outside.calls).2 := by
      cases nowMs with
      | none => exact sameAnswers_refl _
      | some nowMs =>
        simp only [SecureRuntime.recordMismatch]
        split <;> exact ⟨rfl, rfl, rfl⟩
    simp only [Pc.step, reject]
    split
    next recorded =>
      rw [recorded] at same
      exact insideStep_closing same
    next recorded =>
      rw [recorded] at same
      exact insideStep_of_same same rfl fun _ => rfl
  | confirming loop =>
    simp only [Pc.step, confirm]
    by_cases sends : loop.actor.localConfirm.1.value.sendPairConfirm = true
    · rw [if_pos sends]
      refine insideStep_of_same (sameAnswers_state _ _) rfl ?_
      exact fun kept => kept
    · rw [if_neg sends]
      refine insideStep_of_same (sameAnswers_state _ _) rfl ?_
      exact fun kept => kept
  | sending loop =>
    simp only [Pc.step, sendConfirm]
    split
    · exact insideStep_closing (sameAnswers_refl _)
    split
    · exact insideStep_closing (sameAnswers_refl _)
    · exact insideStep_sendFrame (sameAnswers_refl _) (fun _ => rfl) fun _ kept => kept
  | receiving loop => exact receive_inside program loop
  | deciding loop =>
    simp only [Pc.step, decideCommit]
    split
    · by_cases commits : loop.actor.beginTrustCommit.1.value.persistCommit = true
      · rw [if_pos commits]
        refine insideStep_of_same (sameAnswers_state _ _) rfl ?_
        exact fun kept => kept
      · rw [if_neg commits]
        refine insideStep_of_same (sameAnswers_state _ _) rfl ?_
        exact fun kept => kept
    · refine insideStep_of_same (sameAnswers_refl _) rfl ?_
      exact fun kept => kept
  | committing loop =>
    have same : SameAnswers runtime (runtime.commitPeer foreign loop.remote nowMs outside.calls).2 := by
      cases nowMs with
      | none => exact sameAnswers_refl _
      | some nowMs =>
        simp only [SecureRuntime.commitPeer]
        split <;> exact ⟨rfl, rfl, rfl⟩
    simp only [Pc.step, commit]
    split
    next done =>
      rw [done] at same
      have shown : SameAnswers runtime (SecureRuntime.setPairingState _ .pairingFailed) :=
        ⟨same.active, same.cancel, same.mismatch⟩
      exact insideStep_closing shown
    next done =>
      rw [done] at same
      split
      · exact insideStep_closing same
      · exact insideStep_of_same same rfl fun impossible => by cases impossible
  | announcing loop =>
    simp only [Pc.step, announce]
    split
    · split
      · exact insideStep_closing (sameAnswers_state _ _)
      · exact insideStep_sendFrame (sameAnswers_state _ _) (fun _ => rfl) fun _ impossible => by cases impossible
    · exact insideStep_of_same (sameAnswers_state _ _) rfl fun impossible => by cases impossible
  | greeting remote =>
    simp only [Pc.step, greet]
    split
    · split
      · exact insideStep_closing (sameAnswers_refl _)
      · exact insideStep_sendFrame (sameAnswers_refl _) (fun _ => rfl) fun _ _ => rfl
    · exact insideStep_of_same (sameAnswers_refl _) rfl fun _ => rfl
  | awaiting remote request => exact await_inside program remote request
  | authenticating remote =>
    have same : SameAnswers runtime (runtime.markAuthenticated foreign remote nowMs outside.calls outside.reads).2 := by
      cases nowMs with
      | none => exact sameAnswers_refl _
      | some nowMs =>
        simp only [SecureRuntime.markAuthenticated]
        split
        · exact ⟨rfl, rfl, rfl⟩
        · split <;> exact ⟨rfl, rfl, rfl⟩
    simp only [Pc.step, authenticate]
    split
    next marked =>
      rw [marked] at same
      exact insideStep_closing same
    next marked =>
      rw [marked] at same
      exact insideStep_of_same same rfl fun impossible => by cases impossible
  | authenticated session => exact serve_inside session
  | closing result => exact absurd rfl (unclosed result)
  | _ => cases inside

/-- Outside a session a step leaves the session of another thread alone, unless it starts one. -/
theorem step_outside (program : Program) (nowMs : Option UInt64) (outer : Pc.inside pc = false) :
    let moved := pc.step foreign program runtime nowMs outside
    (Pc.inside moved.2.1 = false ∧ SameAnswers runtime moved.1 ∧ (Pc.early moved.2.1 = true → Pc.early pc = true) ∧
      ∀ action ∈ moved.2.2, Action.marks action = false) ∨
    ∃ peer xx, pc = .beginning peer xx ∧ runtime.inner.sessionActive = false ∧
      moved = ({ runtime with inner := (runtime.inner.beginSession xx).2 }, .handshaking peer xx,
        [.began xx runtime.peers runtime.store.peers]) := by
  have unmarked : ∀ action ∈ ([] : List Action), Action.marks action = false :=
    fun _ impossible => (List.not_mem_nil impossible).elim
  intro moved
  cases pc with
  | idle | killed | returned | finished => exact .inl ⟨rfl, sameAnswers_refl _, id, unmarked⟩
  | asking | waiting =>
    left
    simp only [moved, Pc.step]
    split <;> exact ⟨rfl, sameAnswers_refl _, fun _ => rfl, unmarked⟩
  | marking =>
    left
    refine ⟨rfl, ?_, fun _ => rfl, unmarked⟩
    simp only [moved, Pc.step, RuntimeInner.requestBegin]
    split <;> exact ⟨rfl, rfl, rfl⟩
  | opening =>
    left
    simp only [moved, Pc.step, openSession]
    split
    · split <;> exact ⟨rfl, sameAnswers_refl _, fun _ => rfl, unmarked⟩
    · split <;> exact ⟨rfl, sameAnswers_refl _, fun _ => rfl, unmarked⟩
  | admitting =>
    left
    have same : SameAnswers runtime (runtime.ensureGuardAdmits foreign nowMs outside.calls).2 := by
      cases nowMs with
      | none => exact sameAnswers_refl _
      | some nowMs =>
        simp only [SecureRuntime.ensureGuardAdmits]
        split
        · split <;> exact ⟨rfl, rfl, rfl⟩
        · exact ⟨rfl, rfl, rfl⟩
    have asked (answer : Except RuntimeError Unit) : ∀ action ∈ [Action.admission nowMs answer], Action.marks action = false := by
      intro action member
      rw [List.mem_singleton.mp member]
      rfl
    simp only [moved, Pc.step, checkGuard]
    split
    next checked =>
      rw [checked] at same
      refine ⟨?_, same, fun _ => rfl, asked _⟩
      split <;> rfl
    next checked =>
      rw [checked] at same
      refine ⟨?_, same, fun _ => rfl, asked _⟩
      split <;> rfl
  | beginning peer xx =>
    by_cases busy : runtime.inner.sessionActive = true
    · left
      simp only [moved, Pc.step, enterSession, RuntimeInner.beginSession, if_pos busy]
      exact ⟨rfl, sameAnswers_refl _, fun _ => rfl, unmarked⟩
    · right
      refine ⟨peer, xx, rfl, Bool.not_eq_true _ ▸ busy, ?_⟩
      simp only [moved, Pc.step, enterSession, RuntimeInner.beginSession, if_neg busy]
  | _ => cases outer

end Inside

/-- The check changes the guard as `admit` does, and admits only if that does. -/
structure Checked (runtime : SecureRuntime) (nowMs : Option UInt64) (checked : Except RuntimeError Unit × SecureRuntime) : Prop where
  inner : checked.2.inner = runtime.inner
  guard : checked.2.guard = nowMs.elim runtime.guard fun nowMs => (runtime.guard.admits nowMs).2
  admits : checked.1 = .ok () → ∃ reading, nowMs = some reading ∧ (runtime.guard.admits reading).1.value = true

theorem ensureGuardAdmits_checked (runtime : SecureRuntime) (nowMs : Option UInt64) (calls : WriteCalls) :
    Checked runtime nowMs (runtime.ensureGuardAdmits foreign nowMs calls) := by
  cases nowMs with
  | none => exact ⟨rfl, rfl, fun impossible => by cases impossible⟩
  | some nowMs =>
    have answer : (if (runtime.guard.admits nowMs).1.value = true then .ok () else .error .pairingCooldown :
        Except RuntimeError Unit) = .ok () → ∃ reading, some nowMs = some reading ∧
        (runtime.guard.admits reading).1.value = true := by
      intro ok
      split at ok
      next admitted => exact ⟨nowMs, rfl, admitted⟩
      next => cases ok
    simp only [SecureRuntime.ensureGuardAdmits]
    split
    · split
      · exact ⟨rfl, rfl, fun impossible => by cases impossible⟩
      · exact ⟨rfl, rfl, answer⟩
    · exact ⟨rfl, rfl, answer⟩

/-- Outside a session the display changes only when a pairing or a session begins. -/
theorem step_outer {runtime : SecureRuntime} {nowMs : Option UInt64} {outside : Outside} {program : Program} {pc next : Pc}
    {after : SecureRuntime} {actions : List Action} (outer : Pc.inside pc = false)
    (steps : pc.step foreign program runtime nowMs outside = (after, next, actions)) :
    after.inner = runtime.inner ∨ (pc = .marking ∧ after.inner = runtime.inner.requestBegin) ∨
      ∃ peer xx, pc = .beginning peer xx ∧ runtime.inner.sessionActive = false ∧
        after.inner = (runtime.inner.beginSession xx).2 := by
  cases pc with
  | marking =>
    cases steps
    exact .inr (.inl ⟨rfl, rfl⟩)
  | opening =>
    left
    simp only [Pc.step, openSession] at steps
    split at steps
    · split at steps <;> cases steps <;> rfl
    · split at steps <;> cases steps <;> rfl
  | admitting =>
    left
    have spec := @ensureGuardAdmits_checked foreign runtime nowMs outside.calls
    simp only [Pc.step, checkGuard] at steps
    split at steps
    next checked =>
      rw [checked] at spec
      cases steps
      exact spec.inner
    next checked =>
      rw [checked] at spec
      cases steps
      exact spec.inner
  | beginning peer xx =>
    simp only [Pc.step, enterSession] at steps
    by_cases taken : runtime.inner.sessionActive = true
    · left
      simp only [RuntimeInner.beginSession, if_pos taken] at steps
      cases steps
      rfl
    · refine .inr (.inr ⟨peer, xx, rfl, Bool.not_eq_true _ ▸ taken, ?_⟩)
      simp only [RuntimeInner.beginSession, if_neg taken] at steps ⊢
      cases steps
      rfl
  | idle | killed | asking | returned | waiting | finished =>
    left
    cases steps
    rfl
  | _ => cases outer

/-- A step keeps to its side of a session, or it begins one, or it ends it. -/
theorem step_side {runtime : SecureRuntime} {nowMs : Option UInt64} {outside : Outside} {program : Program} {pc next : Pc}
    {after : SecureRuntime} {actions : List Action}
    (steps : pc.step foreign program runtime nowMs outside = (after, next, actions)) :
    (Pc.inside next = Pc.inside pc ∧ after.inner.sessionActive = runtime.inner.sessionActive) ∨
    (∃ peer xx, pc = .beginning peer xx ∧ next = .handshaking peer xx ∧ runtime.inner.sessionActive = false ∧
      after = { runtime with inner := (runtime.inner.beginSession xx).2 }) ∨
    ∃ result, pc = .closing result ∧ next = .finished result ∧
      after = { runtime with inner := runtime.inner.endSession runtime.hasCommittedPeer } := by
  by_cases inside : Pc.inside pc = true
  · by_cases closes : ∃ result, pc = .closing result
    · obtain ⟨result, rfl⟩ := closes
      cases steps
      exact .inr (.inr ⟨result, rfl, rfl, rfl⟩)
    · have step := @step_inside foreign runtime outside pc program nowMs inside fun result is => closes ⟨result, is⟩
      rw [steps] at step
      exact .inl ⟨step.inside.trans inside.symm, step.active⟩
  · rw [Bool.not_eq_true] at inside
    have step := @step_outside foreign runtime outside pc program nowMs inside
    rw [steps] at step
    rcases step with ⟨outer, same, -, -⟩ | ⟨peer, xx, is, free, begun⟩
    · exact .inl ⟨outer.trans inside.symm, same.active⟩
    · cases begun
      exact .inr (.inl ⟨peer, xx, is, rfl, free, rfl⟩)

/-- At most one thread is inside a session, and then the slot is taken. -/
structure Exclusive (endpoint : Endpoint) : Prop where
  single : ∀ first second, Pc.inside (endpoint.threads first).pc = true → Pc.inside (endpoint.threads second).pc = true →
    first = second
  active : ∀ runtime, endpoint.process = .up runtime → ∀ id, Pc.inside (endpoint.threads id).pc = true →
    runtime.inner.sessionActive = true

namespace Exclusive
variable {endpoint : Endpoint} {runtime : SecureRuntime}

theorem nobody (exclusive : Exclusive endpoint) (up : endpoint.process = .up runtime)
    (free : runtime.inner.sessionActive = false) (id : Nat) : Pc.inside (endpoint.threads id).pc = false := by
  apply Bool.eq_false_iff.2
  intro here
  rw [exclusive.active runtime up id here] at free
  cases free

theorem only {id other : Nat} {thread : Thread} {actions : List Action}
    (exclusive : Exclusive (Proofs.moved endpoint id runtime thread actions)) (inside : Pc.inside thread.pc = true)
    (there : Pc.inside ((Proofs.moved endpoint id runtime thread actions).threads other).pc = true) : other = id :=
  exclusive.single other id there (by rwa [moved_pc, if_pos rfl])

/-- Threads that are not inside may change in any way that keeps them outside. -/
theorem rethread (exclusive : Exclusive endpoint) {id : Nat} {thread : Thread}
    (same : Pc.inside thread.pc = true → Pc.inside (endpoint.threads id).pc = true) :
    Exclusive { endpoint with threads := endpoint.update id thread } := by
  have was {other : Nat} (here : Pc.inside (endpoint.update id thread other).pc = true) :
      Pc.inside (endpoint.threads other).pc = true := by
    rw [Endpoint.update, Function.update_apply] at here
    split at here
    next is => exact is ▸ same here
    next => exact here
  exact ⟨fun first second one two => exclusive.single first second (was one) (was two),
    fun runtime up other here => exclusive.active runtime up other (was here)⟩

theorem setInner (exclusive : Exclusive endpoint) (up : endpoint.process = .up runtime) {inner : RuntimeInner}
    (same : inner.sessionActive = runtime.inner.sessionActive) : Exclusive (endpoint.setInner runtime inner) := by
  refine ⟨exclusive.single, ?_⟩
  rintro _ ⟨⟩ id here
  exact same.trans (exclusive.active runtime up id here)

theorem not_inside_start (program : Program) : Pc.inside (Thread.start program).pc = false := by
  cases program <;> rfl

theorem not_inside_kill (thread : Thread) : Pc.inside thread.kill.pc = false := by
  rw [Thread.kill]
  split
  next idle => rw [idle]; rfl
  next => rfl

theorem moved (exclusive : Exclusive endpoint) (up : endpoint.process = .up runtime) {id : Nat} {outside : Outside}
    {after : SecureRuntime} {next : Pc} {actions : List Action}
    (steps : (endpoint.threads id).pc.step foreign (endpoint.threads id).program runtime (endpoint.threads id).clock outside =
      (after, next, actions)) :
    Exclusive (stepped endpoint id after next actions) := by
  rcases step_side steps with ⟨side, same⟩ | ⟨peer, xx, is, -, free, begun⟩ | ⟨result, is, left, ended⟩
  · have kept : Exclusive { endpoint with
        threads := endpoint.update id { endpoint.threads id with pc := next, reading := none } } :=
      exclusive.rethread fun here => side.symm.trans here
    refine ⟨kept.single, ?_⟩
    rintro _ ⟨⟩ other here
    exact same.trans (kept.active runtime up other here)
  · -- nobody else is inside when a session begins
    have only (other : Nat) (here : Pc.inside ((stepped endpoint id after next actions).threads other).pc = true) : other = id := by
      rw [moved_pc] at here
      split at here
      next same => exact same
      next => exact absurd here (Bool.eq_false_iff.1 (exclusive.nobody up free other))
    refine ⟨fun first second one two => (only first one).trans (only second two).symm, ?_⟩
    rintro _ ⟨⟩ other here
    simp [begun, RuntimeInner.beginSession, free]
  · -- the thread that ends its session was the only one
    have here : Pc.inside (endpoint.threads id).pc = true := by
      rw [is]
      rfl
    have gone (other : Nat) : Pc.inside ((stepped endpoint id after next actions).threads other).pc = false := by
      rw [moved_pc, left]
      split
      · rfl
      next different => exact Bool.eq_false_iff.2 fun there => different (exclusive.single other id there here)
    exact ⟨fun first _ one => absurd one (Bool.eq_false_iff.1 (gone first)),
      fun _ _ other one => absurd one (Bool.eq_false_iff.1 (gone other))⟩

theorem step (exclusive : Exclusive endpoint) (label : Label) : Exclusive (endpoint.step foreign label) := by
  have change := @took foreign endpoint label
  generalize endpoint.step foreign label = after at change
  cases change with
  | down | busy | unread | unready => exact exclusive
  | started => exact exclusive.rethread fun impossible => absurd impossible (Bool.eq_false_iff.1 (not_inside_start _))
  | read => exact exclusive.rethread fun same => same
  | moved up ready steps => exact exclusive.moved up steps
  | @confirmed runtime up log logs =>
    have kept := exclusive.setInner up (localConfirm_show runtime.inner).active
    exact ⟨kept.single, kept.active⟩
  | @cancelled runtime up => exact exclusive.setInner up (cancel_show runtime.inner).active
  | @mismatched runtime up => exact exclusive.setInner up (mismatch_show runtime.inner).active
  | restarted =>
    have gone (id : Nat) : ¬Pc.inside (endpoint.threads id).kill.pc = true := Bool.eq_false_iff.1 (not_inside_kill _)
    exact ⟨fun first _ one => absurd one (gone first), fun _ _ id one => absurd one (gone id)⟩

theorem initial (unstarted : Unstarted endpoint) : Exclusive endpoint := by
  have nobody (id : Nat) : ¬Pc.inside (endpoint.threads id).pc = true := by
    rw [unstarted.idle id]
    exact Bool.false_ne_true
  exact ⟨fun first _ one => absurd one (nobody first), fun _ _ id one => absurd one (nobody id)⟩

end Exclusive

end PhoneBoost.Secure.Proofs
