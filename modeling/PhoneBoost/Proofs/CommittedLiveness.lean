import PhoneBoost.Proofs.FailureScope
import PhoneBoost.Proofs.FrameRoundTrip

/-! How a session of committed peers becomes authenticated. The exchange before
it looks at the type of the frame it reads and not at its channel, so a frame of
another channel with the number of a `PING` passes as one. -/

namespace PhoneBoost.Secure.Proofs
open Pbmux Pbmux.Proofs Assertion

variable {σ : Type}

/-- The pass reads a record that decodes to the frame. -/
def Reads (pass : Pass σ) (frame : Frame) : Prop :=
  ∃ record, pass.received = .ok (some record) ∧ decode record = some (.ok frame)

theorem Reads.unique {pass : Pass σ} {first second : Frame} (one : Reads pass first) (two : Reads pass second) :
    first = second := by
  obtain ⟨record, received, decoded⟩ := one
  obtain ⟨other, again, decodes⟩ := two
  rw [received] at again
  cases again
  rw [decoded] at decodes
  cases decodes
  rfl

/-- What the exchange takes for the peer's sign of life. -/
def answers (initiator : Bool) (request : Option UInt64) (frame : Frame) : Bool :=
  if initiator then frame.header.messageType = ControlType.pong.code && some frame.header.requestId = request
  else frame.header.messageType = ControlType.ping.code

/-- The exchange goes on to the authenticated loop, whatever the runtime then answers there. -/
def Enters (initiator : Bool) (pass : Pass σ) (session : Session σ) : Prop :=
  ∃ after, Session.awaitingPass initiator { pass with markAuthenticated := .ok () } session = .ok () after ∧
    after.stage = .authenticated

/-- The loop is left for an authenticated session only after a frame of the
control channel, in sequence, that is a `PING` or the `PONG` to the own `PING`.
A frame of another channel has no handler here, so it must end the session. -/
structure ControlLiveness (initiator : Bool) (pass : Pass σ) (session : Session σ) : Prop where
  enters : Enters initiator pass session → ∃ frame, Reads pass frame ∧
    frame.header.sequence = session.receiveSequence.expected ∧ frame.header.channel = .control ∧
    if initiator then frame.header.messageType = ControlType.pong.code ∧
      session.sent = [controlFrame .ping frame.header.requestId 0]
    else frame.header.messageType = ControlType.ping.code
  consumes : ∀ frame, Reads pass frame → frame.header.channel ≠ .control →
    ∃ exit after, Session.awaitingPass initiator pass session = .error exit after

/-- A frame of another channel comes in the place of the sign of life, and a
responder can write its answer. -/
def strays (initiator : Bool) (pass : Pass σ) (session : Session σ) : Bool :=
  match pass.received with
  | .ok (some record) =>
    match decode record with
    | some (.ok frame) =>
      frame.header.channel ≠ .control && frame.header.sequence = session.receiveSequence.expected &&
        answers initiator session.pingRequest frame && (initiator || (pass.writes session.sent.length).isOk)
    | _ => false
  | _ => false

theorem strays_iff {initiator : Bool} {pass : Pass σ} {session : Session σ} :
    strays initiator pass session = true ↔ ∃ frame, Reads pass frame ∧ frame.header.channel ≠ .control ∧
      frame.header.sequence = session.receiveSequence.expected ∧ answers initiator session.pingRequest frame = true ∧
      (initiator = true ∨ pass.writes session.sent.length = .ok ()) := by
  have written : (pass.writes session.sent.length).isOk = true ↔ pass.writes session.sent.length = .ok () := by
    cases pass.writes session.sent.length <;> simp [Except.isOk, Except.toBool]
  rw [strays]
  split
  next record received =>
    split
    next frame decoded =>
      simp only [Bool.and_eq_true, Bool.or_eq_true, decide_eq_true_eq, written, and_assoc]
      constructor
      · exact fun strayed => ⟨frame, ⟨record, received, decoded⟩, strayed⟩
      · rintro ⟨other, reads, strayed⟩
        cases reads.unique ⟨record, received, decoded⟩
        exact strayed
    next undecoded =>
      refine iff_of_false Bool.false_ne_true ?_
      rintro ⟨frame, ⟨other, again, decoded⟩, -⟩
      rw [received] at again
      cases again
      exact undecoded frame decoded
  next unread =>
    refine iff_of_false Bool.false_ne_true ?_
    rintro ⟨frame, ⟨record, received, -⟩, -⟩
    exact unread record received

section Passes
variable {pass : Pass σ} {initiator : Bool} {session : Session σ}

theorem receiveFrame_meets (pass : Pass σ) (session : Session σ) :
    Meets (· = session) (Session.receiveFrame pass)
      (fun frame? after => (frame? = none ∧ pass.received = .ok none ∧ after = session) ∨
        ∃ frame, frame? = some frame ∧ Reads pass frame ∧ after = { session with taken := session.taken + 1 })
      fun _ _ => True := by
  refine ((lift_meets pass.received).stopping fun _ _ _ => trivial).bind fun record? => Meets.assuming fun received => ?_
  cases record? with
  | none => exact Meets.pure fun _ same => .inl ⟨rfl, received, same⟩
  | some record =>
    refine (modify_meets _ session).bind fun _ => ?_
    cases decoded : decode record with
    | none => exact Meets.throw fun _ _ => trivial
    | some answer =>
      refine ((orFail_meets answer).stopping fun _ _ _ => trivial).bind fun frame => Meets.pure ?_
      rintro _ ⟨rfl, same⟩
      exact .inr ⟨frame, rfl, ⟨record, received, decoded⟩, same⟩

/-- A frame that can be read is read. -/
theorem receiveFrame_reads {frame : Frame} (reads : Reads pass frame) :
    Meets (· = session) (Session.receiveFrame pass)
      (fun frame? after => frame? = some frame ∧ after = { session with taken := session.taken + 1 }) fun _ _ => False := by
  obtain ⟨record, received, decoded⟩ := reads
  have program : Session.receiveFrame pass = (do
      modify fun session => { session with taken := session.taken + 1 }
      return some frame) := by
    rw [Session.receiveFrame, received]
    simp only [Session.lift, pure_bind, decoded, Session.orFail]
  rw [program]
  exact (modify_meets _ session).bind fun _ => Meets.pure fun _ same => ⟨rfl, same⟩

theorem encode_controlFrame (messageType : ControlType) (requestId sequence : UInt64) :
    ∃ record, encode (controlFrame messageType requestId sequence) = .ok record := by
  refine encode_single requestId sequence (Nat.zero_le _) ?_
  cases messageType <;> rfl

theorem orFail_decides {pre : Session σ → Prop} {error : RuntimeError} (answer : Except ε α) :
    Meets pre (Session.orFail error answer) (fun value after => answer = .ok value ∧ pre after)
      fun _ _ => ∀ value, answer ≠ .ok value := by
  cases answer with
  | ok value => exact Meets.pure fun _ holds => ⟨rfl, holds⟩
  | error _ => exact Meets.throw fun _ _ _ same => by cases same

theorem orFail_total {pre : Session σ → Prop} {error : RuntimeError} {answer : Except ε α} {value : α} (ok : answer = .ok value) :
    Meets pre (Session.orFail error answer) (fun found after => found = value ∧ pre after) fun _ _ => False := by
  rw [ok]
  exact Meets.pure fun _ holds => ⟨rfl, holds⟩

/-- A frame that was sent was written. -/
theorem sendFrame_written (frame : Frame) :
    Meets (· = session) (Session.sendFrame pass frame) (fun _ _ => pass.writes session.sent.length = .ok ()) fun _ _ => True := by
  apply Meets.get_bind
  rintro _ rfl
  apply Meets.set_bind
  refine ((orFail_meets _).stopping fun _ _ _ => trivial).bind fun _ => ?_
  exact ((lift_meets _).after fun _ _ holds => holds.1).stopping fun _ _ _ => trivial

/-- The number of a frame is accepted if it is the next one and another follows it. -/
theorem acceptSequence_meets (frame : Frame) :
    Meets (· = session) (Session.acceptSequence frame : SessionM σ Unit)
      (fun _ after => (frame.header.sequence = session.receiveSequence.expected ∧
        session.receiveSequence.expected.toNat + 1 ≤ u64Max) ∧ ∃ receiveSequence, after = { session with receiveSequence })
      fun _ _ => ¬(frame.header.sequence = session.receiveSequence.expected ∧
        session.receiveSequence.expected.toNat + 1 ≤ u64Max) := by
  apply Meets.get_bind
  rintro session rfl
  refine ((orFail_decides _).stopping ?_).bind fun tracker => Meets.set ?_
  · rintro _ _ refused ⟨numbered, room⟩
    exact refused _ (accept_eq_ok.2 ⟨numbered, room, rfl⟩)
  · rintro _ ⟨accepted, -⟩
    obtain ⟨numbered, room, -⟩ := accept_eq_ok.1 accepted
    exact ⟨⟨numbered, room⟩, tracker, rfl⟩

/-- What the exchange did if it did not end: nothing, or it found its sign of life. -/
theorem awaitingPass_meets :
    Meets (· = session) (Session.awaitingPass initiator pass)
      (fun _ after => (pass.received = .ok none ∧ after = session) ∨ ∃ frame, Reads pass frame ∧
        frame.header.sequence = session.receiveSequence.expected ∧ answers initiator session.pingRequest frame = true ∧
        (initiator = true ∨ pass.writes session.sent.length = .ok ()) ∧ Entered pass after)
      fun _ _ => True := by
  refine (receiveFrame_meets pass session).bind fun frame? => ?_
  apply Meets.each
  rintro state (⟨rfl, received, rfl⟩ | ⟨frame, rfl, reads, rfl⟩)
  · exact Meets.pure fun _ same => .inl ⟨received, same⟩
  refine (acceptSequence_meets frame).anyhow.bind fun _ => Meets.assuming fun ⟨numbered, _⟩ => Meets.exists fun tracker => ?_
  apply Meets.get_bind
  rintro _ rfl
  refine Meets.ite (fun yes => Meets.ite (fun fits => ?_) fun _ => Meets.throw fun _ _ => trivial) fun no =>
    Meets.ite (fun _ => Meets.throw fun _ _ => trivial) fun fits => ?_
  · refine enterAuthenticated_meets.after fun _ _ entered => .inr ⟨frame, reads, numbered, ?_, .inl yes, entered⟩
    rw [answers, if_pos yes]
    exact fits
  · have written : Meets (· = { session with taken := session.taken + 1, receiveSequence := tracker })
        (Session.sendThenCount pass (controlFrame .pong frame.header.requestId session.sendSequence))
        (fun _ _ => pass.writes session.sent.length = .ok ()) fun _ _ => True := by
      refine (sendFrame_written _).bind fun _ => ?_
      apply Meets.each
      intro state holds
      exact (advance_meets 1 state).weaken (fun _ same => same) (fun _ _ _ => holds) fun _ _ _ => trivial
    refine written.bind fun _ => Meets.each fun state holds => ?_
    refine enterAuthenticated_meets.after fun _ _ entered => .inr ⟨frame, reads, numbered, ?_, .inr holds, entered⟩
    rw [answers, if_neg no, decide_eq_true_eq]
    exact not_not.1 fits

theorem sendFrame_total {frame : Frame} {record : List UInt8} (encoded : encode frame = .ok record)
    (written : pass.writes session.sent.length = .ok ()) :
    Meets (· = session) (Session.sendFrame pass frame) (fun _ after => after = { session with sent := session.sent ++ [frame] })
      fun _ _ => False := by
  apply Meets.get_bind
  rintro _ rfl
  apply Meets.set_bind
  refine (orFail_total encoded).bind fun _ => ?_
  rw [written]
  exact Meets.pure fun _ holds => holds.2

theorem advance_fits (count : Nat) :
    Meets (· = session) (Session.advance count : SessionM σ Unit)
      (fun _ after => session.sendSequence.toNat + count ≤ u64Max ∧
        after = { session with sendSequence := .ofNat (session.sendSequence.toNat + count) })
      fun _ _ => ¬session.sendSequence.toNat + count ≤ u64Max := by
  apply Meets.get_bind
  rintro session rfl
  cases added : checkedAdd session.sendSequence.toNat count with
  | some next =>
    obtain ⟨fits, rfl⟩ := checkedAdd_eq_some.1 added
    exact Meets.set fun _ _ => ⟨fits, rfl⟩
  | none =>
    refine Meets.throw fun _ _ => ?_
    intro fits
    rw [checkedAdd_eq_some.2 ⟨fits, rfl⟩] at added
    cases added

/-- The sign of life, if it can be answered, leads to the authenticated loop. -/
theorem awaitingPass_enters {frame : Frame} (reads : Reads pass frame)
    (numbered : frame.header.sequence = session.receiveSequence.expected)
    (room : session.receiveSequence.expected.toNat + 1 ≤ u64Max)
    (answered : answers initiator session.pingRequest frame = true)
    (sends : initiator = true ∨ pass.writes session.sent.length = .ok () ∧ session.sendSequence.toNat + 1 ≤ u64Max)
    (marked : pass.markAuthenticated = .ok ()) :
    Meets (· = session) (Session.awaitingPass initiator pass) (fun _ after => after.stage = .authenticated) fun _ _ => False := by
  have enters {pre : Session σ → Prop} :
      Meets pre (Session.enterAuthenticated pass) (fun _ after => after.stage = .authenticated) fun _ _ => False := by
    rw [Session.enterAuthenticated, marked]
    exact Meets.bind (Meets.pure fun _ _ => trivial) fun _ => Meets.modify fun _ (_ : True) => rfl
  refine (receiveFrame_reads reads).bind fun frame? => Meets.assuming ?_
  rintro rfl
  have accepts := (@acceptSequence_meets σ { session with taken := session.taken + 1 } frame).stopping
    fun _ _ refused => refused ⟨numbered, room⟩
  refine accepts.bind fun _ => Meets.assuming fun _ => Meets.exists fun tracker => ?_
  apply Meets.get_bind
  rintro _ rfl
  rw [answers] at answered
  refine Meets.ite (fun yes => ?_) fun no => ?_
  · rw [if_pos yes] at answered
    exact Meets.ite (fun _ => enters) fun unfit => absurd answered unfit
  · rw [if_neg no, decide_eq_true_eq] at answered
    obtain ⟨written, fits⟩ := sends.resolve_left no
    refine Meets.ite (fun unfit => absurd answered unfit) fun _ => ?_
    obtain ⟨record, encoded⟩ := encode_controlFrame .pong frame.header.requestId session.sendSequence
    have sends : Meets (· = { session with taken := session.taken + 1, receiveSequence := tracker })
        (Session.sendThenCount pass (controlFrame .pong frame.header.requestId session.sendSequence)) (fun _ _ => True)
        fun _ _ => False := by
      have sent := @sendFrame_total σ pass { session with taken := session.taken + 1, receiveSequence := tracker } _ record encoded written
      exact sent.bind fun _ => (advance_fits 1).weaken (fun _ same => same) (fun _ _ _ => trivial) fun _ _ full => full fits
    exact sends.bind fun _ => enters

end Passes

/-- How far an exchange has come that has not ended. -/
structure Greeted (initiator : Bool) (session : Session σ) : Prop where
  committed : session.stage ≠ .pairing
  greeting : session.stage = .greeting →
    session.sent = [] ∧ session.sendSequence = 0 ∧ session.receiveSequence = .default
  awaiting : session.stage = .awaiting → session.receiveSequence = .default ∧
    if initiator then ∃ request, session.pingRequest = some request ∧ session.sent = [controlFrame .ping request 0]
    else session.sent = [] ∧ session.sendSequence = 0

section Run
variable {peerId : Bytes32} {initiator : Bool} {session after : Session σ} {pass : Pass σ}

theorem Greeted.authenticated (stage : session.stage = .authenticated) : Greeted initiator session := by
  constructor <;> simp [stage]

theorem greet_meets (fresh : session.sent = [] ∧ session.sendSequence = 0) :
    Meets (· = session) (Session.greet pass)
      (fun _ after => ∃ request, after.pingRequest = some request ∧ after.sent = [controlFrame .ping request 0] ∧
        after.receiveSequence = session.receiveSequence)
      fun _ _ => True := by
  refine ((someOrFail_meets _).stopping fun _ _ _ => trivial).bind fun request => Meets.assuming fun _ => ?_
  apply Meets.get_bind
  rintro session rfl
  have sends : Meets (· = session) (Session.sendThenCount pass (controlFrame .ping request session.sendSequence))
      (fun _ after => after.sent = session.sent ++ [controlFrame .ping request session.sendSequence] ∧
        after.receiveSequence = session.receiveSequence)
      fun _ _ => True := by
    refine ((sendFrame_meets pass _ session).stopping fun _ _ _ => trivial).bind fun _ => ?_
    refine (advance_meets 1 _).weaken (fun _ same => same) ?_ fun _ _ _ => trivial
    rintro _ _ ⟨-, rfl⟩
    exact ⟨rfl, rfl⟩
  refine sends.bind fun _ => Meets.modify ?_
  rintro state ⟨sent, tracker⟩
  rw [fresh.1, fresh.2] at sent
  exact ⟨request, rfl, sent, tracker⟩

theorem Greeted.runs (greeted : Greeted initiator session) (passes : Session.runPass peerId initiator pass session = .ok () after) :
    Greeted initiator after := by
  rw [Session.runPass, get_bind_run] at passes
  cases stage : session.stage with
  | pairing => exact absurd stage greeted.committed
  | greeting =>
    obtain ⟨sent, number, tracker⟩ := greeted.greeting stage
    rw [stage] at passes
    have spec : Meets (· = session) (Session.greetingPass initiator pass) (fun _ => Greeted initiator) fun _ _ => True := by
      cases initiator with
      | true =>
        refine (greet_meets ⟨sent, number⟩).bind fun _ => Meets.modify ?_
        rintro state ⟨request, asked, sent, same⟩
        exact ⟨by simp, by simp, fun _ => ⟨same.trans tracker, request, asked, sent⟩⟩
      | false =>
        have idle : Meets (· = session) (Session.onlyIf false (Session.greet pass)) (fun _ after => after = session) fun _ _ => True :=
          Meets.pure fun _ same => same
        refine idle.bind fun _ => Meets.modify ?_
        rintro _ rfl
        exact ⟨by simp, by simp, fun _ => ⟨tracker, sent, number⟩⟩
    exact spec.ok rfl passes
  | awaiting =>
    rw [stage] at passes
    rcases awaitingPass_meets.ok rfl passes with ⟨-, rfl⟩ | ⟨_, -, -, -, -, entered⟩
    · exact greeted
    · exact .authenticated entered.stage
  | authenticated =>
    rw [stage] at passes
    exact .authenticated ((authenticatedPass_stage _).ok stage passes)

theorem greeted_run (handler : σ) (passes : List (Pass σ)) :
    Machine.run (Running.step peerId initiator) (.running (Session.start false handler)) passes = .running session →
      Greeted initiator session := by
  induction passes using List.reverseRecOn generalizing session with
  | nil =>
    rintro ⟨⟩
    exact ⟨by simp [Session.start], fun _ => ⟨rfl, rfl, rfl⟩, by simp [Session.start]⟩
  | append_singleton passes pass ih =>
    rw [Machine.run_concat]
    cases run : Machine.run (Running.step peerId initiator) (.running (Session.start false handler)) passes with
    | running before =>
      intro stepped
      exact (ih run).runs (running_step_iff.1 stepped)
    | returned => exact fun impossible => by cases impossible
    | panicked => exact fun impossible => by cases impossible

/-- A frame that strays is taken for the sign of life. -/
theorem Greeted.strayed (greeted : Greeted initiator session) (awaits : session.stage = .awaiting)
    (strayed : strays initiator pass session = true) : ¬ControlLiveness initiator pass session := by
  intro liveness
  obtain ⟨tracker, books⟩ := greeted.awaiting awaits
  obtain ⟨frame, reads, channel, numbered, answered, written⟩ := strays_iff.1 strayed
  have again : Reads { pass with markAuthenticated := .ok () } frame := reads
  have room : session.receiveSequence.expected.toNat + 1 ≤ u64Max := by
    rw [tracker]
    decide
  have sends : initiator = true ∨ pass.writes session.sent.length = .ok () ∧ session.sendSequence.toNat + 1 ≤ u64Max := by
    cases initiator with
    | true => exact .inl rfl
    | false =>
      refine .inr ⟨written.resolve_left Bool.false_ne_true, ?_⟩
      rw [books.2]
      decide
  obtain ⟨_, after, ran, stage⟩ := (awaitingPass_enters again numbered room answered sends rfl).returns rfl
  obtain ⟨other, same, -, control, -⟩ := liveness.enters ⟨after, ran, stage⟩
  cases reads.unique same
  exact channel control

end Run

/-- A session of committed peers that has not ended, and any next pass: it is the
control channel that decides, exactly if no frame of another channel stands in. -/
theorem committed_control_liveness (peerId : Bytes32) (initiator : Bool) (handler : σ) (passes : List (Pass σ)) {session : Session σ}
    (runs : Machine.run (Running.step peerId initiator) (.running (Session.start false handler)) passes = .running session)
    (awaits : session.stage = .awaiting) (pass : Pass σ) :
    ControlLiveness initiator pass session ↔ strays initiator pass session = false := by
  have greeted := greeted_run handler passes runs
  constructor
  · exact fun liveness => Bool.eq_false_iff.2 fun strayed => greeted.strayed awaits strayed liveness
  · intro plain
    rw [Bool.eq_false_iff, ne_eq, strays_iff] at plain
    obtain ⟨-, books⟩ := greeted.awaiting awaits
    constructor
    · rintro ⟨after, ran, stage⟩
      rcases awaitingPass_meets.ok rfl ran with ⟨-, rfl⟩ | ⟨frame, reads, numbered, answered, written, -⟩
      · rw [awaits] at stage
        cases stage
      · refine ⟨frame, reads, numbered, ?_, ?_⟩
        · exact not_not.1 fun channel => plain ⟨frame, reads, channel, numbered, answered, written⟩
        · cases initiator with
          | true =>
            obtain ⟨request, asked, sent⟩ := books
            rw [answers, if_pos rfl, asked] at answered
            simp only [Bool.and_eq_true, decide_eq_true_eq, Option.some.injEq] at answered
            rw [if_pos rfl, answered.2]
            exact ⟨answered.1, sent⟩
          | false => simpa [answers] using answered
    · intro frame reads channel
      cases ran : Session.awaitingPass initiator pass session with
      | error exit after => exact ⟨exit, after, rfl⟩
      | ok _ after =>
        rcases awaitingPass_meets.ok rfl ran with ⟨nothing, -⟩ | ⟨other, same, numbered, answered, written, -⟩
        · obtain ⟨record, received, -⟩ := reads
          rw [received] at nothing
          cases nothing
        · cases reads.unique same
          exact absurd ⟨frame, reads, channel, numbered, answered, written⟩ plain

/-- A responder of a committed peer that waits for its sign of life. -/
def awaitingRun : Running (Option Worker.WorkerCore) :=
  Machine.run (Running.step responderId false) (.running (.start false none)) [workerPass 0 [] none]

/-- The first frame of the peer asks for a reservation. -/
def reservePass : Pass (Option Worker.WorkerCore) := workerPass 0 [] (recordOf (reserveFrame 1 0))

def pingPass : Pass (Option Worker.WorkerCore) := workerPass 0 [] (recordOf (.ok (controlFrame .ping 1 0)))

/-- What the two frames meet, evaluated together. -/
theorem awaitingRun_facts :
    awaitingRun.session.stage = .awaiting ∧
    strays false reservePass awaitingRun.session = true ∧ strays false pingPass awaitingRun.session = false ∧
    (awaitingRun.step responderId false reservePass).session.stage = .authenticated ∧
    (awaitingRun.step responderId false reservePass).session.sent = [controlFrame .pong 1 0] := by
  decide +kernel

theorem awaitingRun_running : awaitingRun = .running awaitingRun.session := rfl

/-- A request for a reservation passes as the sign of life: it is answered with a
`PONG`, no handler sees it and the session is authenticated. -/
theorem reservation_taken_for_ping :
    awaitingRun = .running awaitingRun.session ∧ awaitingRun.session.stage = .awaiting ∧
    (awaitingRun.step responderId false reservePass).session.stage = .authenticated ∧
    (awaitingRun.step responderId false reservePass).session.sent = [controlFrame .pong 1 0] ∧
    ¬ControlLiveness false reservePass awaitingRun.session := by
  obtain ⟨awaits, strayed, -, stage, sent⟩ := awaitingRun_facts
  exact ⟨rfl, awaits, stage, sent, (greeted_run none [workerPass 0 [] none] awaitingRun_running).strayed awaits strayed⟩

theorem committed_control_liveness_ping :
    strays false pingPass awaitingRun.session = false ∧ ControlLiveness false pingPass awaitingRun.session := by
  obtain ⟨awaits, -, plain, -⟩ := awaitingRun_facts
  exact ⟨plain, (committed_control_liveness responderId false none [workerPass 0 [] none] awaitingRun_running awaits pingPass).2 plain⟩

end PhoneBoost.Secure.Proofs
