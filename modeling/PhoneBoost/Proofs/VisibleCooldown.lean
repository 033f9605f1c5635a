import PhoneBoost.Proofs.PairingOutcome

/-! What the user sees of a cooldown. A start of the process shows it, but the
end of a session writes over it: from then on the runtime refuses to pair and
says that it is unpaired. -/

namespace PhoneBoost.Secure.Proofs

variable {foreign : Foreign}

def refusesAt (guard : PairingGuard) (nowMs : UInt64) : Bool := !(guard.admits nowMs).1.value

/-- A call of a session function has returned. -/
def Pc.over : Pc → Bool
  | .finished _ => true
  | _ => false

/-- The next move of a thread here calls a function, or lets a pairing begin. -/
def Pc.calls : Pc → Bool
  | .idle | .marking => true
  | _ => false

/-- An endpoint that is watched. `ended` holds the wall time at which the last
session function returned and the guard that was in memory then, until the next
session or pairing begins. -/
structure Watch where
  endpoint : Endpoint
  ended : Option (UInt64 × PairingGuard)

namespace Watch

def endedAfter (before after : Endpoint) (ended : Option (UInt64 × PairingGuard)) (wallMs : UInt64) :
    Label → Option (UInt64 × PairingGuard)
  | .start id _ => if Pc.calls (before.threads id).pc then none else ended
  | .restart .. => none
  | .step id _ =>
    match after.process with
    | .down _ => none
    | .up runtime =>
      if runtime.inner.sessionActive || Pc.calls (before.threads id).pc then none
      else if !Pc.over (before.threads id).pc && Pc.over (after.threads id).pc then some (wallMs, runtime.guard)
      else ended
  | _ => ended

/-- Each label comes with the wall time at which it takes place. -/
def step (foreign : Foreign) (watch : Watch) (timed : UInt64 × Label) : Watch where
  endpoint := watch.endpoint.step foreign timed.2
  ended := endedAfter watch.endpoint (watch.endpoint.step foreign timed.2) watch.ended timed.1 timed.2

def run (foreign : Foreign) (watch : Watch) (labels : List (UInt64 × Label)) : Watch := Machine.run (step foreign) watch labels

end Watch

/-- While no session has followed, a guard that refused when the session ended
is shown as a cooldown, and a start on that guard at the same time shows it too. -/
def VisibleCooldown (foreign : Foreign) (watch : Watch) : Prop :=
  ∀ wallMs guard, watch.ended = some (wallMs, guard) → refusesAt guard wallMs = true →
    ∃ runtime, watch.endpoint.process = .up runtime ∧ runtime.inner.state = .cooldown ∧
      ∀ processId start fresh, start.nowMs = some wallMs → runtime.store.loadGuard foreign wallMs = .ok guard →
        (watch.endpoint.restart foreign processId start).process = .up fresh → fresh.inner.state = runtime.inner.state

/-- A session that ends finds the guard open; a function that returns before it
has begun a session finds it open or the cooldown already shown. -/
def showsAt (runtime : SecureRuntime) (thread : Thread) (outside : Outside) (wallMs : UInt64) : Bool :=
  let shown := runtime.inner.sessionActive || runtime.inner.state = .cooldown
  match thread.pc with
  | .closing _ => !refusesAt runtime.guard wallMs
  | .opening =>
    let goesOn := if thread.program.initiator then runtime.oneCommittedPeer.isOk else outside.firstRecordXx.isOk
    shown || goesOn || !refusesAt runtime.guard wallMs
  | .admitting =>
    let guard := thread.clock.elim runtime.guard fun nowMs => (runtime.guard.admits nowMs).2
    shown || thread.program = .beginPairing || !refusesAt guard wallMs
  | _ => true

def shows (endpoint : Endpoint) : UInt64 × Label → Bool
  | (wallMs, .step id outside) =>
    match endpoint.process with
    | .up runtime => !(endpoint.threads id).ready || showsAt runtime (endpoint.threads id) outside wallMs
    | .down _ => true
  | _ => true

def runShows (foreign : Foreign) : Watch → List (UInt64 × Label) → Bool
  | _, [] => true
  | watch, timed :: labels => shows watch.endpoint timed && runShows foreign (watch.step foreign timed) labels

section Restart
variable {role : EndpointRole} {store after : StateStore} {start : SecureRuntime.Start} {guard : PairingGuard}
  {wallMs : UInt64} {fresh : SecureRuntime}

theorem admitOnStart_value {admitted : Bool} {adopted : PairingGuard} {calls : WriteCalls}
    (loads : store.loadGuard foreign wallMs = .ok guard)
    (checked : SecureRuntime.admitOnStart foreign store wallMs calls = (.ok (admitted, adopted), after)) :
    admitted = (guard.admits wallMs).1.value := by
  simp only [SecureRuntime.admitOnStart, loads] at checked
  split at checked
  · split at checked
    · cases checked
    · cases checked
      rfl
  · cases checked
    rfl

/-- A start on a guard that refuses shows the cooldown. -/
theorem initializeRuntime_cooldown (loads : store.loadGuard foreign wallMs = .ok guard)
    (refused : refusesAt guard wallMs = true) (clock : start.nowMs = some wallMs)
    (started : SecureRuntime.initializeRuntime foreign role store start = (.ok fresh, after)) :
    fresh.inner.state = .cooldown := by
  have unchanged : (store.loadOrCreateIdentity foreign start.random start.identityCalls).2.loadGuard foreign wallMs = .ok guard :=
    (loadOrCreateIdentity_guard store _ _ wallMs).trans loads
  simp only [SecureRuntime.initializeRuntime, clock] at started
  split at started
  · cases started
  next made =>
  rw [made] at unchanged
  split at started
  · cases started
  · rename_i impossible
    cases impossible
  next same =>
  cases same
  split at started
  · cases started
  next admitted adopted created checked =>
    have value := admitOnStart_value unchanged checked
    cases started
    have closed : admitted = false := by
      rw [value]
      exact (Bool.not_eq_true' _).mp refused
    simp only [closed, Bool.false_eq_true, if_false, RuntimeInner.initial]

end Restart

theorem visible_of_state {watch : Watch}
    (shown : ∀ wallMs guard, watch.ended = some (wallMs, guard) → refusesAt guard wallMs = true →
      ∃ runtime, watch.endpoint.process = .up runtime ∧ runtime.inner.state = .cooldown) : VisibleCooldown foreign watch := by
  intro wallMs guard ended refused
  obtain ⟨runtime, up, state⟩ := shown wallMs guard ended refused
  refine ⟨runtime, up, state, ?_⟩
  intro processId start fresh clock loads restarted
  have reopened : ({ watch.endpoint.process.store with processId, tempSequence := 1 } : StateStore).loadGuard foreign wallMs =
      .ok guard := by
    rw [up]
    exact loads
  simp only [Endpoint.restart] at restarted
  split at restarted
  · cases restarted
  next started =>
    cases restarted
    rw [state]
    exact initializeRuntime_cooldown reopened refused clock started

theorem visible_kept {endpoint after : Endpoint} {ended later : Option (UInt64 × PairingGuard)}
    (visible : VisibleCooldown foreign ⟨endpoint, ended⟩) (ends : later = ended ∨ later = none)
    (same : ∀ runtime, endpoint.process = .up runtime →
      ∃ found, after.process = .up found ∧ found.inner.state = runtime.inner.state) : VisibleCooldown foreign ⟨after, later⟩ := by
  apply visible_of_state
  intro wallMs guard noted refused
  rcases ends with rfl | rfl
  · obtain ⟨runtime, up, state, -⟩ := visible wallMs guard noted refused
    obtain ⟨found, there, display⟩ := same runtime up
    exact ⟨found, there, display.trans state⟩
  · cases noted

/-- What is known of every state of a run whose steps show their cooldowns. -/
structure Watching (foreign : Foreign) (watch : Watch) : Prop where
  exclusive : Exclusive watch.endpoint
  visible : VisibleCooldown foreign watch

section Moves
variable {endpoint : Endpoint} {runtime after : SecureRuntime} {id : Nat} {outside : Outside} {next : Pc} {actions : List Action}
  {ended : Option (UInt64 × PairingGuard)} {wallMs : UInt64}

theorem endedAfter_stepped : Watch.endedAfter endpoint (stepped endpoint id after next actions) ended wallMs (.step id outside) =
    if after.inner.sessionActive || Pc.calls (endpoint.threads id).pc then none
    else if !Pc.over (endpoint.threads id).pc && Pc.over next then some (wallMs, after.guard) else ended := by
  have there : ((stepped endpoint id after next actions).threads id).pc = next := (moved_pc id).trans (if_pos rfl)
  simp only [Watch.endedAfter, there]
  rfl

theorem visible_stepped : VisibleCooldown foreign ⟨stepped endpoint id after next actions, ended⟩ ↔
    ∀ wallMs guard, ended = some (wallMs, guard) → refusesAt guard wallMs = true → after.inner.state = .cooldown := by
  constructor
  · intro visible wallMs guard noted refused
    obtain ⟨found, up, state, -⟩ := visible wallMs guard noted refused
    cases up
    exact state
  · intro state
    exact visible_of_state fun wallMs guard noted refused => ⟨after, rfl, state wallMs guard noted refused⟩

/-- Nothing is promised of a time at which a session or a pairing goes on. -/
theorem visible_stepped_busy (busy : (after.inner.sessionActive || Pc.calls (endpoint.threads id).pc) = true) :
    VisibleCooldown foreign ⟨stepped endpoint id after next actions,
      Watch.endedAfter endpoint (stepped endpoint id after next actions) ended wallMs (.step id outside)⟩ := by
  rw [endedAfter_stepped, if_pos busy, visible_stepped]
  intro _ _ impossible
  cases impossible

/-- Outside a session, a function shows what was shown before it returned. -/
theorem visible_stepped_outer (visible : VisibleCooldown foreign ⟨endpoint, ended⟩) (up : endpoint.process = .up runtime)
    (same : after.inner = runtime.inner) (uncalled : Pc.calls (endpoint.threads id).pc = false) :
    VisibleCooldown foreign ⟨stepped endpoint id after next actions,
      Watch.endedAfter endpoint (stepped endpoint id after next actions) ended wallMs (.step id outside)⟩ ↔
    runtime.inner.sessionActive = true ∨ runtime.inner.state = .cooldown ∨
      (!Pc.over (endpoint.threads id).pc && Pc.over next) = false ∨ refusesAt after.guard wallMs = false := by
  rw [endedAfter_stepped, same, uncalled, Bool.or_false, visible_stepped, same]
  by_cases taken : runtime.inner.sessionActive = true
  · rw [if_pos taken]
    exact iff_of_true (fun _ _ impossible => by cases impossible) (.inl taken)
  rw [if_neg taken]
  by_cases returns : (!Pc.over (endpoint.threads id).pc && Pc.over next) = true
  · rw [if_pos returns]
    by_cases refused : refusesAt after.guard wallMs = true
    · simp [taken, returns, refused]
    · simp [refused]
  · rw [if_neg returns]
    refine iff_of_true ?_ (.inr (.inr (.inl (Bool.not_eq_true _ ▸ returns))))
    intro wallMs guard noted refused
    obtain ⟨found, was, state, -⟩ := visible wallMs guard noted refused
    rw [up] at was
    cases was
    exact state

end Moves

theorem openSession_moves (program : Program) (runtime : SecureRuntime) (outside : Outside) : ∃ next,
    openSession program runtime outside = (runtime, next, []) ∧
      (Pc.over next = !if program.initiator then runtime.oneCommittedPeer.isOk else outside.firstRecordXx.isOk) := by
  rw [openSession]
  split
  · split
    next found => exact ⟨_, rfl, by rw [found]; rfl⟩
    next found => exact ⟨_, rfl, by rw [found]; rfl⟩
    next found => exact ⟨_, rfl, by rw [found]; rfl⟩
  · split
    next read => exact ⟨_, rfl, by rw [read]; rfl⟩
    next read => exact ⟨_, rfl, by rw [read]; rfl⟩
    next read => exact ⟨_, rfl, by rw [read]; rfl⟩

/-- A guard that has just admitted keeps no deadline. -/
theorem admits_opens {guard : PairingGuard} {nowMs : UInt64} (admitted : (guard.admits nowMs).1.value = true) (wallMs : UInt64) :
    refusesAt (guard.admits nowMs).2 wallMs = false := by
  rw [PairingGuard.admits] at admitted ⊢
  split
  next calm => simp [refusesAt, PairingGuard.admits, calm]
  next expiry cooling =>
    simp only [cooling] at admitted
    split
    next behind =>
      rw [if_pos behind] at admitted
      cases admitted
    next ahead =>
    rw [if_neg ahead] at admitted
    split
    next early =>
      rw [if_pos early] at admitted
      cases admitted
    next => simp [refusesAt, PairingGuard.admits]

theorem checkGuard_moves (program : Program) (runtime : SecureRuntime) (nowMs : Option UInt64) (outside : Outside) :
    ∃ after next actions, checkGuard foreign program runtime nowMs outside = (after, next, actions) ∧
      after.inner = runtime.inner ∧ after.guard = nowMs.elim runtime.guard (fun nowMs => (runtime.guard.admits nowMs).2) ∧
      (Pc.over next = true → program ≠ .beginPairing) ∧
      (program ≠ .beginPairing → Pc.over next = false → ∀ wallMs, refusesAt after.guard wallMs = false) := by
  have spec := @ensureGuardAdmits_checked foreign runtime nowMs outside.calls
  simp only [checkGuard]
  split
  next error after failed =>
    rw [failed] at spec
    refine ⟨_, _, _, rfl, spec.inner, spec.guard, ?_⟩
    by_cases pairs : program = .beginPairing
    · rw [if_pos pairs]
      refine ⟨?_, fun other => absurd pairs other⟩
      intro impossible
      cases impossible
    · rw [if_neg pairs]
      refine ⟨fun _ => pairs, ?_⟩
      intro _ impossible
      cases impossible
  next after passed =>
    rw [passed] at spec
    obtain ⟨reading, rfl, admitted⟩ := spec.admits rfl
    refine ⟨_, _, _, rfl, spec.inner, spec.guard, ?_, ?_⟩
    · intro impossible
      split at impossible <;> cases impossible
    · intro _ _ wallMs
      rw [spec.guard]
      exact admits_opens admitted wallMs

namespace Watching
variable {watch : Watch} {runtime after : SecureRuntime} {id : Nat} {outside : Outside} {next : Pc} {actions : List Action}
  {wallMs : UInt64}

theorem stepped_iff (watching : Watching foreign watch) (up : watch.endpoint.process = .up runtime)
    (steps : (watch.endpoint.threads id).pc.step foreign (watch.endpoint.threads id).program runtime
      (watch.endpoint.threads id).clock outside = (after, next, actions)) :
    VisibleCooldown foreign ⟨stepped watch.endpoint id after next actions,
      Watch.endedAfter watch.endpoint (stepped watch.endpoint id after next actions) watch.ended wallMs (.step id outside)⟩ ↔
    showsAt runtime (watch.endpoint.threads id) outside wallMs = true := by
  have busy (taken : (after.inner.sessionActive || Pc.calls (watch.endpoint.threads id).pc) = true) :
      VisibleCooldown foreign ⟨stepped watch.endpoint id after next actions,
        Watch.endedAfter watch.endpoint (stepped watch.endpoint id after next actions) watch.ended wallMs (.step id outside)⟩ :=
    visible_stepped_busy taken
  have outer (same : after.inner = runtime.inner) (uncalled : Pc.calls (watch.endpoint.threads id).pc = false) :=
    @visible_stepped_outer foreign watch.endpoint runtime after id outside next actions watch.ended wallMs watching.visible up
      same uncalled
  -- inside a session the slot stays taken until the session ends
  have inside (here : Pc.inside (watch.endpoint.threads id).pc = true)
      (unclosed : ∀ result, (watch.endpoint.threads id).pc ≠ .closing result) : after.inner.sessionActive = true := by
    rcases step_side steps with ⟨-, same⟩ | ⟨peer, xx, is, -⟩ | ⟨result, is, -⟩
    · exact same.trans (watching.exclusive.active runtime up id here)
    · rw [is] at here
      cases here
    · exact absurd is (unclosed result)
  cases pc : (watch.endpoint.threads id).pc with
  | closing result =>
    rw [pc] at steps
    cases steps
    rw [endedAfter_stepped, pc, visible_stepped]
    have hidden : (runtime.inner.endSession runtime.hasCommittedPeer).state ≠ .cooldown := by
      simp only [RuntimeInner.endSession]
      cases runtime.hasCommittedPeer
      all_goals split <;> simp_all
    simp only [showsAt, pc, Bool.not_eq_true']
    constructor
    · intro state
      apply Bool.eq_false_iff.2
      intro refused
      exact hidden (state wallMs _ rfl refused)
    · rintro unrefused _ _ ⟨⟩ refused
      exact absurd refused (Bool.eq_false_iff.1 unrefused)
  | opening =>
    obtain ⟨target, moves, stops⟩ := openSession_moves (watch.endpoint.threads id).program runtime outside
    rw [pc] at steps
    cases moves.symm.trans steps
    rw [outer rfl (by rw [pc]; rfl), pc]
    simp only [showsAt, pc, stops]
    simp [Pc.over, or_assoc]
  | admitting =>
    obtain ⟨checked, target, entries, moves, inner, guard, ours, opens⟩ :=
      @checkGuard_moves foreign (watch.endpoint.threads id).program runtime (watch.endpoint.threads id).clock outside
    rw [pc] at steps
    cases moves.symm.trans steps
    rw [outer inner (by rw [pc]; rfl), pc]
    simp only [showsAt, pc, ← guard]
    by_cases pairs : (watch.endpoint.threads id).program = .beginPairing
    · have goesOn : Pc.over next = false := Bool.eq_false_iff.2 fun returns => ours returns pairs
      simp [pairs, goesOn]
    · by_cases goesOn : Pc.over next = true
      · have early : Pc.over .admitting = false := rfl
        simp [pairs, goesOn, early, or_assoc]
      · simp [opens pairs (Bool.not_eq_true _ ▸ goesOn) wallMs]
  | beginning peer xx =>
    refine iff_of_true (busy ?_) (by simp only [showsAt, pc])
    rw [pc] at steps
    simp only [Pc.step, enterSession, RuntimeInner.beginSession] at steps
    by_cases taken : runtime.inner.sessionActive = true
    · rw [if_pos taken] at steps
      cases steps
      rw [taken, Bool.true_or]
    · rw [if_neg taken] at steps
      cases steps
      rfl
  | idle | marking => exact iff_of_true (busy (by rw [pc, Pc.calls, Bool.or_true])) (by simp only [showsAt, pc])
  | killed | asking | returned | waiting | finished =>
    have same : after.inner = runtime.inner ∧ Pc.over next = Pc.over (watch.endpoint.threads id).pc := by
      rw [pc] at steps ⊢
      cases steps
      refine ⟨rfl, ?_⟩
      try split
      all_goals rfl
    refine iff_of_true ?_ (by simp only [showsAt, pc])
    rw [outer same.1 (by rw [pc]; rfl), same.2]
    simp
  | _ =>
    refine iff_of_true (busy ?_) (by simp only [showsAt, pc])
    rw [inside (by rw [pc]; rfl) (by simp [pc]), Bool.true_or]

/-- No label but a step of a thread makes a function return. -/
theorem endedAfter_kept {before after : Endpoint} {ended : Option (UInt64 × PairingGuard)} {label : Label}
    (kept : ∀ id outside, label = .step id outside → ∀ runtime, after.process = .up runtime →
      (!Pc.over (before.threads id).pc && Pc.over (after.threads id).pc) = false) :
    Watch.endedAfter before after ended wallMs label = ended ∨ Watch.endedAfter before after ended wallMs label = none := by
  cases label with
  | start id program =>
    simp only [Watch.endedAfter]
    split
    · exact .inr rfl
    · exact .inl rfl
  | restart => exact .inr rfl
  | step id outside =>
    simp only [Watch.endedAfter]
    split
    · exact .inr rfl
    next up =>
    rw [kept id outside rfl _ up]
    split
    · exact .inr rfl
    · exact .inl rfl
  | _ => exact .inl rfl

theorem step_iff (watching : Watching foreign watch) (timed : UInt64 × Label) :
    VisibleCooldown foreign (watch.step foreign timed) ↔ shows watch.endpoint timed = true := by
  obtain ⟨wallMs, label⟩ := timed
  have change := @took foreign watch.endpoint label
  simp only [Watch.step]
  generalize watch.endpoint.step foreign label = after at change
  -- the user's answers leave the display alone
  have answered {runtime : SecureRuntime} {inner : RuntimeInner} {log : List Event} {label : Label}
      (up : watch.endpoint.process = .up runtime) (same : SameShow runtime.inner inner)
      (ends : Watch.endedAfter watch.endpoint { watch.endpoint.setInner runtime inner with log } watch.ended wallMs label = watch.ended) :
      VisibleCooldown foreign ⟨{ watch.endpoint.setInner runtime inner with log },
        Watch.endedAfter watch.endpoint { watch.endpoint.setInner runtime inner with log } watch.ended wallMs label⟩ := by
    refine visible_kept watching.visible (.inl ends) ?_
    intro found was
    rw [up] at was
    cases was
    exact ⟨_, rfl, same.state⟩
  cases change with
  | down gone =>
    refine iff_of_true ?_ ?_
    · refine visible_kept watching.visible (endedAfter_kept fun _ _ _ runtime up => absurd up (gone runtime)) ?_
      exact fun runtime up => absurd up (gone runtime)
    · cases label with
      | step id outside =>
        simp only [shows]
        split
        next up => exact absurd up (gone _)
        next => rfl
      | _ => rfl
  | busy | started | unread | read =>
    refine iff_of_true (visible_kept watching.visible (endedAfter_kept ?_) fun runtime up => ⟨runtime, up, rfl⟩) rfl
    intro _ _ impossible
    cases impossible
  | @unready id outside waits =>
    refine iff_of_true (visible_kept watching.visible (endedAfter_kept ?_) fun runtime up => ⟨runtime, up, rfl⟩) ?_
    · rintro _ _ ⟨⟩ _ _
      exact Bool.not_and_self _
    · simp only [shows]
      split
      · rw [waits]
        rfl
      · rfl
  | @moved id outside runtime up ready after next actions steps =>
    simp only [shows, up, ready, Bool.not_true, Bool.false_or]
    exact watching.stepped_iff up steps
  | @confirmed runtime up log logs => exact iff_of_true (answered up (localConfirm_show _) rfl) rfl
  | @cancelled runtime up => exact iff_of_true (answered up (cancel_show _) rfl) rfl
  | @mismatched runtime up => exact iff_of_true (answered up (mismatch_show _) rfl) rfl
  | restarted =>
    refine iff_of_true (visible_of_state ?_) rfl
    intro _ _ impossible
    cases impossible

theorem step (watching : Watching foreign watch) {timed : UInt64 × Label} (shown : shows watch.endpoint timed = true) :
    Watching foreign (watch.step foreign timed) :=
  ⟨watching.exclusive.step timed.2, (watching.step_iff timed).2 shown⟩

theorem run (watching : Watching foreign watch) {labels : List (UInt64 × Label)} (shown : runShows foreign watch labels = true) :
    Watching foreign (watch.run foreign labels) := by
  induction labels generalizing watch with
  | nil => exact watching
  | cons timed labels ih =>
    rw [runShows, Bool.and_eq_true] at shown
    exact ih (watching.step shown.1) shown.2

end Watching

/-- In a run whose sessions end on an open guard, a cooldown is always shown, and
it stays so after one more label exactly if that label is of this kind too. -/
theorem visible_cooldown {endpoint : Endpoint} (unstarted : Unstarted endpoint) {labels : List (UInt64 × Label)}
    (shown : runShows foreign ⟨endpoint, none⟩ labels = true) :
    VisibleCooldown foreign ((⟨endpoint, none⟩ : Watch).run foreign labels) ∧
      ∀ timed, VisibleCooldown foreign (((⟨endpoint, none⟩ : Watch).run foreign labels).step foreign timed) ↔
        shows ((⟨endpoint, none⟩ : Watch).run foreign labels).endpoint timed = true := by
  have fresh : Watching foreign ⟨endpoint, none⟩ := by
    refine ⟨.initial unstarted, visible_of_state ?_⟩
    intro _ _ impossible
    cases impossible
  have watching := fresh.run shown
  exact ⟨watching.visible, watching.step_iff⟩

/-- A phone that was started during a cooldown and shows it. -/
def cooledEndpoint : Endpoint where
  role := .androidResponder
  process := .up { unpairedRuntime .androidResponder with guard := ⟨3, some 603000, 3000⟩, inner := .initial .cooldown }
  threads := fun _ => .idle
  log := []

def refusedDevice : List (UInt64 × Label) := (admissionCheck 0 4000).map fun label => (4000, label)

def hidesCooldown (watch : Watch) : Bool :=
  match watch.endpoint.process, watch.ended with
  | .up runtime, some (wallMs, guard) => refusesAt guard wallMs && decide (runtime.inner.state ≠ .cooldown)
  | _, _ => false

theorem visible_cooldown_refused_device :
    ((⟨cooledEndpoint, none⟩ : Watch).run jsonForeign refusedDevice).ended = some (4000, ⟨3, some 603000, 3000⟩) ∧
      refusesAt ⟨3, some 603000, 3000⟩ 4000 = true ∧
      VisibleCooldown jsonForeign ((⟨cooledEndpoint, none⟩ : Watch).run jsonForeign refusedDevice) :=
  ⟨by decide +kernel, by decide, (visible_cooldown ⟨fun _ => rfl, rfl⟩ (by decide +kernel)).1⟩

/-- Three sessions of a new device, each ended by a mismatch. -/
def rejectedThrice : List (UInt64 × Label) := threeMismatches.map fun label => (3000, label)

theorem not_visible_of_hides {watch : Watch} (hides : hidesCooldown watch = true) : ¬VisibleCooldown foreign watch := by
  intro visible
  rw [hidesCooldown] at hides
  split at hides
  next runtime wallMs guard up ended =>
    rw [Bool.and_eq_true, decide_eq_true_eq] at hides
    obtain ⟨found, there, state, -⟩ := visible wallMs guard ended hides.1
    rw [up] at there
    cases there
    exact hides.2 state
  next => cases hides

def shownState (endpoint : Endpoint) : Option RuntimeState :=
  match endpoint.process with
  | .up runtime => some runtime.inner.state
  | .down _ => none

/-- After the third mismatch the phone says that it is unpaired, and a start at
the same time says that it cools down. -/
theorem rejectedThrice_facts :
    let watch := (⟨unpairedEndpoint .androidResponder, none⟩ : Watch).run jsonForeign rejectedThrice
    hidesCooldown watch = true ∧ shownState watch.endpoint = some .unpaired ∧
      shownState (watch.endpoint.restart jsonForeign 2 { sampleStart with nowMs := some 3000 }) = some .cooldown := by
  decide +kernel

theorem cooldown_hidden_by_session_end :
    let watch := (⟨unpairedEndpoint .androidResponder, none⟩ : Watch).run jsonForeign rejectedThrice
    Unstarted (unpairedEndpoint .androidResponder) ∧ ¬VisibleCooldown jsonForeign watch ∧
      shownState watch.endpoint = some .unpaired ∧
      shownState (watch.endpoint.restart jsonForeign 2 { sampleStart with nowMs := some 3000 }) = some .cooldown := by
  obtain ⟨hides, shown, restarted⟩ := rejectedThrice_facts
  exact ⟨⟨fun _ => rfl, rfl⟩, not_visible_of_hides hides, shown, restarted⟩

end PhoneBoost.Secure.Proofs
