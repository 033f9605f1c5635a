import PhoneBoost.Proofs.CommittedLiveness

/-! How long a session outlives its peer. The loop of pairing and the
authenticated loop give up on a silent peer, and the authenticated loop looks
whether it was cancelled. The exchange between them does neither. -/

namespace PhoneBoost.Secure.Proofs
open Pbmux Assertion

variable {σ : Type}

/-- A pass and the time since the one before it. -/
structure Tick (σ : Type) where
  delay : Nat
  pass : Pass σ

/-- A session under a clock that counts from the handshake, and the time at which
the last record of the peer was read. -/
structure Vigil (σ : Type) where
  run : Running σ
  clock : Nat
  heard : Nat

namespace Vigil

def start (xx : Bool) (handler : σ) : Vigil σ := ⟨.running (.start xx handler), 0, 0⟩

/-- The pass as its reading of the clock makes it. -/
def timed (vigil : Vigil σ) (tick : Tick σ) : Pass σ :=
  { tick.pass with
    nowMs := vigil.clock + tick.delay
    timedOut := decide (pairingTimeoutMs ≤ vigil.clock + tick.delay) }

def hears (pass : Pass σ) : Bool :=
  match pass.received with
  | .ok (some _) => true
  | _ => false

def step (peerId : Bytes32) (initiator : Bool) (vigil : Vigil σ) (tick : Tick σ) : Vigil σ where
  run := vigil.run.step peerId initiator (vigil.timed tick)
  clock := vigil.clock + tick.delay
  heard := if hears tick.pass then vigil.clock + tick.delay else vigil.heard

end Vigil

/-- The longest silence that a loop may wait out. -/
def silenceLimit : Stage → Nat
  | .pairing => pairingTimeoutMs
  | _ => deviceOfflineTimeoutMs

/-- A loop that runs has returned after this pass if the peer was silent for too
long while no request waited for its answer, or if an initiator was cancelled. -/
structure EndsInTime (peerId : Bytes32) (initiator : Bool) (vigil : Vigil σ) (tick : Tick σ) : Prop where
  silent : ∀ session, vigil.run = .running session → session.stage ≠ .greeting → tick.pass.received = .ok none →
    session.applicationOutstanding = none → vigil.heard + silenceLimit session.stage ≤ vigil.clock + tick.delay →
    ∃ result after, (vigil.step peerId initiator tick).run = .returned result after
  cancelled : ∀ session, vigil.run = .running session → session.stage ≠ .greeting → initiator = true →
    tick.pass.cancelled = true → ∃ result after, (vigil.step peerId initiator tick).run = .returned result after

/-- The exchange between committed peers is not left waiting until the peer counts
as offline, and no session is cancelled before it is authenticated. -/
structure Attended (initiator : Bool) (vigil : Vigil σ) (tick : Tick σ) : Prop where
  exchange : vigil.run.session.stage = .awaiting → tick.pass.received = .ok none →
    vigil.clock + tick.delay < vigil.heard + deviceOfflineTimeoutMs
  cancelled : initiator = true → tick.pass.cancelled = true → vigil.run.session.stage = .authenticated

/-- A program that gives the session up in good order. -/
abbrev Orderly (program : SessionM σ α) : Prop := Stops (fun exit => ∃ result, exit = .returns result) program

section Orderly
variable {pass : Pass σ} {error : RuntimeError}

theorem orderly_fail (error : RuntimeError) : Orderly (Session.fail error : SessionM σ α) := .throw ⟨_, rfl⟩

theorem orderly_orFail (answer : Except ε α) : Orderly (Session.orFail error answer : SessionM σ α) := by
  cases answer with
  | ok value => exact .pure value
  | error _ => exact orderly_fail error

theorem orderly_lift (answer : Except RuntimeError α) : Orderly (Session.lift answer : SessionM σ α) := by
  cases answer with
  | ok value => exact .pure value
  | error error => exact orderly_fail error

theorem orderly_someOrFail (value? : Option α) : Orderly (Session.someOrFail error value? : SessionM σ α) := by
  cases value? with
  | some value => exact .pure value
  | none => exact orderly_fail error

theorem orderly_settle (answer : Except HandlerError α) : Orderly (Session.settle answer : SessionM σ α) := by
  cases answer with
  | ok value => exact .pure value
  | error error => exact orderly_fail _

theorem orderly_sendFrame (frame : Frame) : Orderly (Session.sendFrame pass frame) :=
  .get_bind fun _ => .set_bind ((orderly_orFail _).bind fun _ => orderly_lift _)

theorem orderly_sendFrames (frames : List Frame) : Orderly (Session.sendFrames pass frames) := by
  induction frames with
  | nil => exact .pure _
  | cons frame rest ih => exact (orderly_sendFrame frame).bind fun _ => ih

theorem orderly_advance (count : Nat) : Orderly (Session.advance count : SessionM σ Unit) :=
  .get_bind fun _ => (orderly_someOrFail _).bind fun _ => Meets.set fun _ _ => trivial

theorem orderly_call (method : σ → Except HandlerError α × σ) : Orderly (Session.call method) :=
  Stops.bind (fun _ _ => trivial) orderly_settle

theorem orderly_sendRequest (frames : List Frame) (outstanding : InitiatorOutstanding) :
    Orderly (Session.sendRequest pass frames outstanding) := by
  have sends : Orderly (tryCatch (Session.sendFrames pass frames) fun exit => do
      Session.reply outstanding.response (.error .unknownAfterDisconnect)
      throw exit) :=
    (orderly_sendFrames frames).rethrow fun _ fits => Stops.bind (.modify _) fun _ => .throw fits
  exact sends.bind fun _ => (orderly_advance _).bind fun _ => .modify _

theorem orderly_startInitiatorRequest (pending : PendingInitiatorRequest) :
    Orderly (Session.startInitiatorRequest pass pending) := by
  have number : Orderly (Session.requestNumber pass pending.requestId) := by
    cases pending.requestId with
    | some requestId => exact .pure requestId
    | none => exact orderly_someOrFail _
  refine .ite (.modify _) (number.bind fun requestId => .get_bind fun session => ?_)
  cases buildInitiatorRequest pending.request requestId session.sendSequence with
  | error _ => exact .modify _
  | ok built => exact orderly_sendRequest _ _

theorem orderly_initiate : Orderly (Session.initiate pass) := by
  refine .get_bind fun session => .ite (.pure _) (.ite ?_ ?_)
  · exact (orderly_someOrFail _).bind fun _ => Stops.bind ((orderly_sendFrame _).bind fun _ => orderly_advance 1) fun _ => .modify _
  · cases pass.nextRequest with
    | none => exact .pure _
    | some pending => exact orderly_startInitiatorRequest pending

theorem orderly_respondHeartbeat (peerId : Bytes32) : Orderly (Session.respondHeartbeat peerId pass) := by
  refine .get_bind fun session => .ite (.pure _) ((orderly_call _).bind fun payload? => ?_)
  cases payload? with
  | none => exact .modify _
  | some payload =>
    exact (orderly_orFail _).bind fun _ => Stops.bind ((orderly_advance 1).bind fun _ => orderly_sendFrame _) fun _ => .modify _

theorem orderly_speak (peerId : Bytes32) (initiator : Bool) : Orderly (Session.speak peerId initiator pass) :=
  .ite orderly_initiate (orderly_respondHeartbeat peerId)

end Orderly

/-- What a pass leaves of the timers before it looks at the socket: a heartbeat
that an initiator sent waits for its answer. -/
def Spoken (initiator : Bool) (nowMs : Nat) (before after : Session σ) : Prop :=
  after.lastAuthenticatedTraffic = before.lastAuthenticatedTraffic ∧
    (timing after = timing before ∨
      after.nextHeartbeat ≤ nowMs + heartbeatIntervalMs ∧ (initiator = true → after.heartbeatOutstanding ≠ none))

section Timers
variable {peerId : Bytes32} {initiator : Bool} {pass : Pass σ} {session : Session σ}

theorem Untimed.spoken {program : SessionM σ Unit} (untimed : Untimed program) (initiator : Bool) (nowMs : Nat) :
    Meets (· = session) program (fun _ => Spoken initiator nowMs session) fun _ _ => True :=
  (untimed.meets session).anyhow.after fun _ _ kept => ⟨congrArg (fun seen => seen.2.1) kept, .inl kept⟩

theorem initiate_spoken : Meets (· = session) (Session.initiate pass) (fun _ => Spoken true pass.nowMs session) fun _ _ => True := by
  apply Meets.get_bind
  rintro session rfl
  refine Meets.ite (fun _ => Untimed.spoken (.pure ()) _ _) fun _ => Meets.ite (fun _ => ?_) fun _ => ?_
  · have asks : Untimed (Session.random pass.requestReads : SessionM σ UInt64) := keeps_random _
    refine (asks.meets session).anyhow.bind fun request => ?_
    refine (blind_timing.sendThenCount _ _).anyhow.bind fun _ => Meets.modify ?_
    intro state kept
    exact ⟨congrArg (fun seen => seen.2.1) kept, .inr ⟨Nat.le_refl _, fun _ => by simp⟩⟩
  · cases pass.nextRequest with
    | none => exact Untimed.spoken (.pure ()) _ _
    | some pending => exact (untimed_startInitiatorRequest pending).spoken _ _

theorem respondHeartbeat_spoken :
    Meets (· = session) (Session.respondHeartbeat peerId pass) (fun _ => Spoken false pass.nowMs session) fun _ _ => True := by
  apply Meets.get_bind
  rintro session rfl
  refine Meets.ite (fun _ => Untimed.spoken (.pure ()) _ _) fun _ => ?_
  refine ((blind_timing.call _).meets session).anyhow.bind fun payload? => ?_
  cases payload? with
  | none =>
    refine Meets.modify fun state kept => ⟨congrArg (fun seen => seen.2.1) kept, .inr ⟨?_, by simp⟩⟩
    exact Nat.add_le_add_left (by decide) _
  | some payload =>
    refine (keeps_orFail _ _).anyhow.bind fun frame => (blind_timing.countThenSend frame _).anyhow.bind fun _ => Meets.modify ?_
    exact fun state kept => ⟨congrArg (fun seen => seen.2.1) kept, .inr ⟨Nat.le_refl _, by simp⟩⟩

theorem speak_spoken : Meets (· = session) (Session.speak peerId initiator pass)
    (fun _ => Spoken initiator pass.nowMs session) fun _ _ => True := by
  rw [Session.speak]
  split
  next yes => exact yes ▸ initiate_spoken
  next no => exact Bool.eq_false_iff.2 no ▸ respondHeartbeat_spoken

/-- A silent pass leaves the timers alone, and a frame counts from now. -/
theorem receiveAuthenticated_timers :
    Meets (· = session) (Session.receiveAuthenticated initiator pass)
      (fun _ after => (pass.received = .ok none ∧ timing after = timing session) ∨
        (∃ record, pass.received = .ok (some record)) ∧
          clocks after = (session.stage, pass.nowMs, session.nextHeartbeat))
      fun _ _ => True := by
  refine (receiveFrame_meets pass session).bind fun frame? => ?_
  apply Meets.each
  rintro state (⟨rfl, received, rfl⟩ | ⟨frame, rfl, ⟨record, received, -⟩, rfl⟩)
  · apply Meets.get_bind
    rintro session rfl
    exact Meets.ite (fun _ => Meets.throw fun _ _ => trivial) fun _ => Meets.pure fun _ same => .inl ⟨received, congrArg timing same⟩
  · have numbered := ((untimed_acceptSequence frame).clocks.meets { session with taken := session.taken + 1 }).anyhow
    refine numbered.bind fun _ => (keeps_orFail _ _).anyhow.bind fun _ => ?_
    have heard : Meets (clocks · = (session.stage, pass.nowMs, session.nextHeartbeat)) (Session.onFrame initiator pass frame)
        (fun _ after => clocks after = (session.stage, pass.nowMs, session.nextHeartbeat)) fun _ _ => True :=
      (onFrame_clocks frame _).anyhow
    refine Meets.bind (Meets.modify fun state kept => ?_) fun _ => heard.after fun _ _ kept => .inr ⟨⟨record, received⟩, kept⟩
    have stage : state.stage = session.stage := congrArg Prod.fst kept
    have next : state.nextHeartbeat = session.nextHeartbeat := congrArg (fun seen => seen.2.2) kept
    show (state.stage, pass.nowMs, state.nextHeartbeat) = _
    rw [stage, next]

end Timers

/-- The timers of an authenticated session fit what was heard of the peer. While
no heartbeat waits for its answer, the next one is due soon after the last record. -/
structure Watched (initiator : Bool) (clock heard : Nat) (session : Session σ) : Prop where
  traffic : session.lastAuthenticatedTraffic = heard
  next : session.nextHeartbeat ≤ clock + heartbeatIntervalMs
  calm : initiator = true → session.heartbeatOutstanding = none → session.nextHeartbeat ≤ heard + heartbeatIntervalMs

section Passes
variable {peerId : Bytes32} {initiator : Bool} {pass : Pass σ} {session : Session σ} {clock heard : Nat}

theorem Entered.watched (entered : Entered pass session) : Watched initiator pass.nowMs pass.nowMs session := by
  have traffic : session.lastAuthenticatedTraffic = pass.nowMs := congrArg (fun seen => seen.2.1) entered
  have next : session.nextHeartbeat = pass.nowMs + heartbeatIntervalMs := congrArg (fun seen => seen.2.2) entered
  exact ⟨traffic, next.le, fun _ _ => next.le⟩

theorem Watched.later (watched : Watched initiator clock heard session) {nowMs : Nat} (later : clock ≤ nowMs) :
    Watched initiator nowMs heard session :=
  ⟨watched.traffic, watched.next.trans (Nat.add_le_add_right later _), watched.calm⟩

theorem Watched.of_timing {other : Session σ} (watched : Watched initiator clock heard session)
    (same : timing other = timing session) : Watched initiator clock heard other := by
  simp only [timing, Prod.mk.injEq] at same
  obtain ⟨-, traffic, next, outstanding⟩ := same
  refine ⟨traffic.trans watched.traffic, next ▸ watched.next, fun yes none => ?_⟩
  exact next ▸ watched.calm yes (outstanding ▸ none)

theorem Watched.spoken {spoken : Session σ} (watched : Watched initiator clock heard session) (later : clock ≤ pass.nowMs)
    (said : Spoken initiator pass.nowMs session spoken) : Watched initiator pass.nowMs heard spoken := by
  obtain ⟨traffic, same | ⟨next, waits⟩⟩ := said
  · exact (watched.later later).of_timing same
  · exact ⟨traffic.trans watched.traffic, next, fun yes none => absurd none (waits yes)⟩

theorem hears_iff : Vigil.hears pass = true ↔ ∃ record, pass.received = .ok (some record) := by
  rw [Vigil.hears]
  split
  next record received => exact ⟨fun _ => ⟨record, received⟩, fun _ => rfl⟩
  next unheard => exact iff_of_false Bool.false_ne_true fun ⟨record, received⟩ => unheard record received

theorem authenticatedPass_watched (watched : Watched initiator clock heard session) (later : clock ≤ pass.nowMs) :
    Meets (· = session) (Session.authenticatedPass peerId initiator pass)
      (fun _ => Watched initiator pass.nowMs (if Vigil.hears pass then pass.nowMs else heard)) fun _ _ => True := by
  have goes : Meets (· = session) (Session.onlyIf (initiator && pass.cancelled) (throw (.returns (.ok .cancelled))))
      (fun _ after => after = session) fun _ _ => True :=
    Meets.ite (fun _ => Meets.throw fun _ _ => trivial) fun _ => Meets.pure fun _ same => same
  refine goes.bind fun _ => speak_spoken.bind fun _ => Meets.each fun spoken said => receiveAuthenticated_timers.after ?_
  have before := watched.spoken later said
  rintro _ after (⟨nothing, same⟩ | ⟨record, heardNow⟩)
  · have silent : ¬Vigil.hears pass = true := by
      rw [hears_iff, nothing]
      rintro ⟨_, impossible⟩
      cases impossible
    rw [if_neg silent]
    exact before.of_timing same
  · rw [if_pos (hears_iff.2 record)]
    have traffic : after.lastAuthenticatedTraffic = pass.nowMs := congrArg (fun seen => seen.2.1) heardNow
    have next : after.nextHeartbeat = spoken.nextHeartbeat := congrArg (fun seen => seen.2.2) heardNow
    exact ⟨traffic, next.le.trans before.next, fun _ _ => next.le.trans before.next⟩

section Pairing

theorem sendPairConfirm_stage : Keeps Session.stage (Session.sendPairConfirm pass) :=
  (keeps_random _).bind fun _ => .get_bind fun _ => (keeps_orFail _).bind blind_stage.countThenSend

theorem confirmLocally_stage : Keeps Session.stage (Session.confirmLocally pass) :=
  .get_bind fun _ => .bind (.modify fun _ => rfl) fun _ => keeps_onlyIf _ sendPairConfirm_stage

theorem checkPairing_stage : Keeps Session.stage (Session.checkPairing pass) :=
  .ite (.throw _) (.ite (.throw _) (.ite ((keeps_lift _).bind fun _ => .throw _) (.pure _)))

theorem commitTrust_stage : Keeps Session.stage (Session.commitTrust initiator pass) := by
  refine .get_bind fun session => .bind (.modify fun _ => rfl) fun _ => .ite (.pure _) (.ite (.throw _) ?_)
  split
  · exact .throw _
  · refine .bind (.modify fun _ => rfl) fun _ => keeps_onlyIf _ ?_
    exact (keeps_random _).bind fun _ => .get_bind fun _ => (blind_stage.countThenSend _).bind fun _ => .modify fun _ => rfl

/-- A frame of pairing leaves the loop only for the authenticated one. -/
theorem onPairingFrame_stage (frame : Frame) :
    Meets (Session.stage · = .pairing) (Session.onPairingFrame initiator pass frame)
      (fun _ after => after.stage = .pairing ∨ Entered pass after) fun _ _ => True := by
  refine ((untimed_acceptSequence frame).stage _).anyhow.bind fun _ => (keeps_orFail _ _).anyhow.bind fun _ => ?_
  refine Meets.reading fun session => ?_
  split
  · exact (keeps_orFail _ _).anyhow.bind fun _ => Meets.modify fun _ stage => .inl stage
  · refine Meets.ite (fun _ => ?_) fun _ => Meets.pure fun _ stage => .inl stage
    exact (blind_stage.countThenSend _ _).anyhow.bind fun _ => enterAuthenticated_meets.after fun _ _ => .inr
  · refine Meets.ite (fun _ => ?_) fun _ => Meets.pure fun _ stage => .inl stage
    exact Meets.ite (fun _ => Meets.throw fun _ _ => trivial) fun _ => enterAuthenticated_meets.after fun _ _ => .inr
  · exact Meets.throw fun _ _ => trivial
  · exact Meets.pure fun _ stage => .inl stage

theorem pairingPass_enters :
    Meets (Session.stage · = .pairing) (Session.pairingPass initiator pass)
      (fun _ after => after.stage = .pairing ∨ Vigil.hears pass = true ∧ Entered pass after) fun _ _ => True := by
  have receives : Meets (Session.stage · = .pairing) (Session.receivePairing initiator pass)
      (fun _ after => after.stage = .pairing ∨ Vigil.hears pass = true ∧ Entered pass after) fun _ _ => True := by
    refine Meets.each fun session stage => (receiveFrame_meets pass session).bind fun frame? => Meets.each ?_
    rintro state (⟨rfl, -, rfl⟩ | ⟨frame, rfl, ⟨record, received, -⟩, rfl⟩)
    · exact Meets.pure fun _ same => .inl (same ▸ stage)
    · have heard : Vigil.hears pass = true := hears_iff.2 ⟨record, received⟩
      exact (onPairingFrame_stage frame).weaken (fun _ same => same ▸ stage) (fun _ _ => Or.imp_right fun entered => ⟨heard, entered⟩)
        fun _ _ _ => trivial
  refine (checkPairing_stage _).anyhow.bind fun _ => (keeps_onlyIf _ confirmLocally_stage _).anyhow.bind fun _ => ?_
  refine receives.bind fun _ => Meets.get_bind ?_
  rintro session (stage | ⟨heard, entered⟩)
  · exact ((keeps_onlyIf _ commitTrust_stage).meets session).anyhow.after fun _ _ same => .inl (same.trans stage)
  · rw [entered.stage]
    exact Meets.pure fun _ same => .inr ⟨heard, same ▸ entered⟩

end Pairing

theorem runPass_watched {after : Session σ} (watched : session.stage = .authenticated → Watched initiator clock heard session)
    (later : clock ≤ pass.nowMs) (ran : Session.runPass peerId initiator pass session = .ok () after)
    (authenticated : after.stage = .authenticated) :
    Watched initiator pass.nowMs (if Vigil.hears pass then pass.nowMs else heard) after := by
  rw [Session.runPass, get_bind_run] at ran
  cases stage : session.stage with
  | pairing =>
    rw [stage] at ran
    rcases pairingPass_enters.ok stage ran with still | ⟨heard, entered⟩
    · rw [still] at authenticated
      cases authenticated
    · rw [if_pos heard]
      exact entered.watched
  | greeting =>
    rw [stage] at ran
    have spec : Meets (fun _ => True) (Session.greetingPass initiator pass) (fun _ after => after.stage = .awaiting) fun _ _ => True :=
      Meets.bind (fun _ _ => by split <;> trivial) fun _ => Meets.modify fun _ (_ : True) => rfl
    rw [spec.ok trivial ran] at authenticated
    cases authenticated
  | awaiting =>
    rw [stage] at ran
    rcases awaitingPass_meets.ok rfl ran with ⟨-, rfl⟩ | ⟨frame, ⟨record, received, -⟩, -, -, -, entered⟩
    · rw [stage] at authenticated
      cases authenticated
    · rw [if_pos (hears_iff.2 ⟨record, received⟩)]
      exact entered.watched
  | authenticated =>
    rw [stage] at ran
    exact (authenticatedPass_watched (watched stage) later).ok rfl ran

end Passes

/-- What holds of a vigil after every pass. -/
structure Wakeful (initiator : Bool) (vigil : Vigil σ) : Prop where
  past : vigil.heard ≤ vigil.clock
  watched : ∀ session, vigil.run = .running session → session.stage = .authenticated →
    Watched initiator vigil.clock vigil.heard session

section Run
variable {peerId : Bytes32} {initiator : Bool} {vigil : Vigil σ} {tick : Tick σ} {session : Session σ}

theorem Wakeful.step (wakeful : Wakeful initiator vigil) : Wakeful initiator (vigil.step peerId initiator tick) := by
  refine ⟨?_, fun after ran => ?_⟩
  · have past := wakeful.past
    simp only [Vigil.step]
    split <;> omega
  · cases before : vigil.run with
    | running session =>
      have later : vigil.clock ≤ (vigil.timed tick).nowMs := Nat.le_add_right _ _
      rw [Vigil.step, before, running_step_iff] at ran
      exact runPass_watched (wakeful.watched session before) later ran
    | returned result session =>
      rw [Vigil.step, before] at ran
      cases ran
    | panicked session =>
      rw [Vigil.step, before] at ran
      cases ran

theorem wakeful_run (xx : Bool) (handler : σ) (ticks : List (Tick σ)) :
    Wakeful initiator (Machine.run (Vigil.step peerId initiator) (.start xx handler) ticks) := by
  apply Machine.run_induction (fun _ => True) (fun _ vigil => Wakeful initiator vigil) (fun _ _ _ => trivial) ?_ ?_ ticks trivial
  · refine ⟨Nat.le_refl _, ?_⟩
    rintro session ⟨⟩ stage
    cases xx <;> cases stage
  · exact fun _ _ _ _ wakeful => wakeful.step

/-- What an idle session keeps while it speaks. -/
def idleness (session : Session σ) : Nat × Option InitiatorOutstanding :=
  (session.lastAuthenticatedTraffic, session.applicationOutstanding)

theorem blind_idleness : Blind (idleness : Session σ → _) := ⟨fun _ _ => rfl, fun _ _ => rfl, fun _ _ => rfl⟩

/-- No new request starts when the heartbeat is due. -/
theorem initiate_idle {pass : Pass σ} (due : session.heartbeatOutstanding = none → session.nextHeartbeat ≤ pass.nowMs) :
    Meets (· = session) (Session.initiate pass) (fun _ after => idleness after = idleness session) fun _ _ => True := by
  apply Meets.get_bind
  rintro session rfl
  refine Meets.ite (fun _ => Meets.pure fun _ same => congrArg idleness same) fun free => Meets.ite (fun _ => ?_) fun early => ?_
  · have sends : Keeps idleness (do
        let request ← Session.random pass.requestReads
        Session.sendThenCount pass (controlFrame .ping request session.sendSequence)
        modify fun session => { session with
          heartbeatOutstanding := some request
          nextHeartbeat := pass.nowMs + heartbeatIntervalMs }) :=
      (keeps_random _).bind fun _ => (blind_idleness.sendThenCount _).bind fun _ => .modify fun _ => rfl
    exact (sends.meets session).anyhow
  · refine absurd (due ?_) early
    simp only [Bool.or_eq_true, not_or, Bool.not_eq_true, Option.isSome_eq_false_iff, Option.isNone_iff_eq_none] at free
    exact free.1

theorem respondHeartbeat_idle {pass : Pass σ} : Keeps idleness (Session.respondHeartbeat peerId pass) := by
  refine .get_bind fun session => .ite (.pure _) ((blind_idleness.call _).bind fun payload? => ?_)
  cases payload? with
  | none => exact .modify fun _ => rfl
  | some payload => exact (keeps_orFail _).bind fun _ => (blind_idleness.countThenSend _).bind fun _ => .modify fun _ => rfl

/-- An authenticated loop gives up on a silent peer. -/
theorem authenticatedPass_silent {pass : Pass σ} (silent : pass.received = .ok none) (idle : session.applicationOutstanding = none)
    (due : initiator = true → session.heartbeatOutstanding = none → session.nextHeartbeat ≤ pass.nowMs)
    (offline : session.lastAuthenticatedTraffic + deviceOfflineTimeoutMs ≤ pass.nowMs) :
    Meets (· = session) (Session.authenticatedPass peerId initiator pass) (fun _ _ => False) fun exit _ =>
      ∃ result, exit = .returns result := by
  have goes : Meets (· = session) (Session.onlyIf (initiator && pass.cancelled) (throw (.returns (.ok .cancelled))))
      (fun _ after => after = session) fun exit _ => ∃ result, exit = .returns result :=
    Meets.ite (fun _ => Meets.throw fun _ _ => ⟨_, rfl⟩) fun _ => Meets.pure fun _ same => same
  have speaks : Meets (· = session) (Session.speak peerId initiator pass) (fun _ after => idleness after = idleness session)
      fun _ _ => True :=
    Meets.ite (fun yes => initiate_idle (due yes)) fun _ => (respondHeartbeat_idle.meets session).anyhow
  refine goes.bind fun _ => (speaks.stops (orderly_speak peerId initiator)).bind fun _ => ?_
  -- nothing was read, so what remains is the check for silence
  have program : Session.receiveAuthenticated initiator pass = (do
      let session ← get
      if initiatorTransportExpired (pass.nowMs - session.lastAuthenticatedTraffic)
          (session.applicationOutstanding.map fun outstanding => pass.nowMs - outstanding.sentAt) then
        Session.fail .sessionLost) := by
    rw [Session.receiveAuthenticated, Session.receiveFrame, silent]
    rfl
  rw [program]
  apply Meets.get_bind
  intro spoken same
  simp only [idleness, Prod.mk.injEq, idle] at same
  refine Meets.ite (fun _ => Meets.throw fun _ _ => ⟨_, rfl⟩) fun waits => absurd ?_ waits
  rw [same.1, same.2, initiatorTransportExpired]
  simp only [Option.map_none, Option.all_none, Bool.and_true, decide_eq_true_eq]
  omega

theorem pairingPass_timedOut {pass : Pass σ} (late : pass.timedOut = true) :
    Meets (· = session) (Session.pairingPass initiator pass) (fun _ _ => False) fun exit _ => ∃ result, exit = .returns result := by
  have stops : Meets (· = session) (Session.checkPairing pass) (fun _ _ => False) fun exit _ => ∃ result, exit = .returns result := by
    rw [Session.checkPairing, if_pos late]
    exact Meets.throw fun _ _ => ⟨_, rfl⟩
  exact stops.ended

theorem authenticatedPass_cancelled {pass : Pass σ} (cancelled : pass.cancelled = true) :
    Meets (· = session) (Session.authenticatedPass peerId true pass) (fun _ _ => False) fun exit _ => ∃ result, exit = .returns result := by
  have stops : Meets (· = session) (Session.onlyIf (true && pass.cancelled) (throw (.returns (.ok .cancelled)) : SessionM σ Unit))
      (fun _ _ => False) fun exit _ => ∃ result, exit = .returns result := by
    rw [cancelled]
    exact Meets.throw fun _ _ => ⟨_, rfl⟩
  exact stops.ended

/-- A loop that gives up has returned after the pass. -/
theorem Vigil.returns (runs : vigil.run = .running session)
    (quits : Meets (· = session) (Session.runPass peerId initiator (vigil.timed tick)) (fun _ _ => False)
      fun exit _ => ∃ result, exit = .returns result) :
    ∃ result after, (vigil.step peerId initiator tick).run = .returned result after := by
  obtain ⟨exit, after, ran, result, rfl⟩ := quits.fails rfl
  rw [Vigil.step, runs]
  exact running_step_returned ran

end Run

/-- Whatever the peer does, a loop returns once the peer was silent for too long or
the session was cancelled, if the exchange of committed peers is attended to. -/
theorem bounded_sessions (peerId : Bytes32) (initiator xx : Bool) (handler : σ) (ticks : List (Tick σ)) {tick : Tick σ}
    (attended : Attended initiator (Machine.run (Vigil.step peerId initiator) (.start xx handler) ticks) tick) :
    EndsInTime peerId initiator (Machine.run (Vigil.step peerId initiator) (.start xx handler) ticks) tick := by
  have wakeful : Wakeful initiator (Machine.run (Vigil.step peerId initiator) (.start xx handler) ticks) := wakeful_run xx handler ticks
  generalize Machine.run (Vigil.step peerId initiator) (.start xx handler) ticks = vigil at attended wakeful
  constructor
  · intro session runs loops silent idle long
    have here : vigil.run.session = session := congrArg Running.session runs
    refine Vigil.returns runs ?_
    apply Meets.get_bind
    rintro session rfl
    cases stage : session.stage with
    | greeting => exact absurd stage loops
    | awaiting =>
      have short := attended.exchange (here ▸ stage) silent
      rw [stage] at long
      exact absurd long (Nat.not_le.2 short)
    | pairing =>
      refine pairingPass_timedOut (decide_eq_true ?_)
      rw [stage] at long
      exact (Nat.le_add_left _ _).trans long
    | authenticated =>
      have watched := wakeful.watched session runs stage
      rw [stage] at long
      refine authenticatedPass_silent silent idle (fun yes none => ?_) ?_
      · calc session.nextHeartbeat
          _ ≤ vigil.heard + heartbeatIntervalMs := watched.calm yes none
          _ ≤ vigil.heard + deviceOfflineTimeoutMs := Nat.add_le_add_left (by decide) _
          _ ≤ vigil.clock + tick.delay := long
      · rw [watched.traffic]
        exact long
  · intro session runs _ yes cancelled
    have here : vigil.run.session = session := congrArg Running.session runs
    have stage : session.stage = .authenticated := here ▸ attended.cancelled yes cancelled
    refine Vigil.returns runs ?_
    apply Meets.get_bind
    rintro session rfl
    rw [stage, yes]
    exact authenticatedPass_cancelled cancelled

/-- A pass of an initiator that gets its request numbers. -/
def clientPass (cancelled : Bool) (record? : Option (List UInt8)) : Pass Unit :=
  { quietPass noAuthenticatedCommandHandler 0 record? with cancelled, requestReads := [some 1] }

/-- An initiator of a committed peer that has sent its first `PING`. -/
def askedVigil : Vigil Unit :=
  Machine.run (Vigil.step responderId true) (.start false ()) [⟨0, clientPass false none⟩]

def pongTicks : List (Tick Unit) :=
  [⟨0, clientPass false none⟩, ⟨40, clientPass false (recordOf (.ok (controlFrame .pong 1 0)))⟩]

/-- The answer came, and then nothing for ten seconds. -/
theorem bounded_sessions_silent_peer :
    let vigil := Machine.run (Vigil.step responderId true) (.start false ()) pongTicks
    vigil.run.session.stage = .authenticated ∧ vigil.clock = 40 ∧
      ∃ result after, (vigil.step responderId true ⟨10000, clientPass false none⟩).run = .returned result after := by
  intro vigil
  have facts : vigil.run.session.stage = .authenticated ∧ vigil.run.session.applicationOutstanding.isNone ∧
      vigil.heard = 40 ∧ vigil.clock = 40 := by decide +kernel
  obtain ⟨stage, idle, heard, clock⟩ := facts
  have attended : Attended true vigil ⟨10000, clientPass false none⟩ := by
    refine ⟨fun awaits => ?_, fun _ impossible => ?_⟩
    · rw [stage] at awaits
      cases awaits
    · cases impossible
  refine ⟨stage, clock, (bounded_sessions responderId true false () pongTicks attended).silent vigil.run.session rfl ?_ rfl ?_ ?_⟩
  · rw [stage]
    decide
  · exact Option.isNone_iff_eq_none.1 idle
  · show vigil.heard + silenceLimit vigil.run.session.stage ≤ vigil.clock + 10000
    rw [heard, clock, stage]
    decide

/-- The exchange of committed peers waits on after a silence of a thousand seconds,
and neither it nor the loop of pairing notices that the session was cancelled. -/
theorem committed_wait_unbounded :
    let late : Tick Unit := ⟨1000000, clientPass true none⟩
    let now : Tick Unit := ⟨0, clientPass true none⟩
    askedVigil.run.session.stage = .awaiting ∧ (askedVigil.step responderId true late).run = .running askedVigil.run.session ∧
      ¬EndsInTime responderId true askedVigil late ∧
      ((Vigil.start true ()).step responderId true now).run = (Vigil.start true ()).run ∧
      ¬EndsInTime responderId true (.start true ()) now := by
  have waits : (askedVigil.step responderId true ⟨1000000, clientPass true none⟩).run = .running askedVigil.run.session := rfl
  have pairs : ((Vigil.start true ()).step responderId true ⟨0, clientPass true none⟩).run = (Vigil.start true ()).run := rfl
  refine ⟨rfl, waits, fun ends => ?_, pairs, fun ends => ?_⟩
  · obtain ⟨result, after, returned⟩ := ends.silent _ rfl (by decide) rfl rfl (by decide)
    rw [waits] at returned
    cases returned
  · obtain ⟨result, after, returned⟩ := ends.cancelled _ rfl (by decide) rfl rfl
    rw [pairs] at returned
    cases returned

end PhoneBoost.Secure.Proofs
