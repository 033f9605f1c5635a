import PhoneBoost.Lib.Assertion
import PhoneBoost.Lib.Wire
import PhoneBoost.Secure.Loops

/-! The timers of an authenticated session. A frame that the session goes on
after was heard at the time of its pass, and an initiator sends its heartbeat
long before it would give up on a silent peer. -/

namespace PhoneBoost.Secure.Proofs
open Pbmux Wire Assertion

variable {σ : Type}

section Results
variable {pre : Session σ → Prop} {error : RuntimeError}

theorem orFail_meets (answer : Except ε α) :
    Meets pre (Session.orFail error answer) (fun value after => answer = .ok value ∧ pre after) fun _ => pre := by
  cases answer with
  | ok value => exact Meets.pure fun _ holds => ⟨rfl, holds⟩
  | error _ => exact Meets.throw fun _ holds => holds

theorem lift_meets (answer : Except RuntimeError α) :
    Meets pre (Session.lift answer) (fun value after => answer = .ok value ∧ pre after) fun _ => pre := by
  cases answer with
  | ok value => exact Meets.pure fun _ holds => ⟨rfl, holds⟩
  | error error => exact Meets.throw fun _ holds => holds

theorem someOrFail_meets (value? : Option α) :
    Meets pre (Session.someOrFail error value?) (fun value after => value? = some value ∧ pre after) fun _ => pre := by
  cases value? with
  | some value => exact Meets.pure fun _ holds => ⟨rfl, holds⟩
  | none => exact Meets.throw fun _ holds => holds

end Results

section Senders

/-- A frame counts as sent even if it never leaves the endpoint. -/
theorem sendFrame_meets (pass : Pass σ) (frame : Frame) (session : Session σ) :
    Meets (· = session) (Session.sendFrame pass frame) (fun _ after => after = { session with sent := session.sent ++ [frame] })
      fun _ after => after = { session with sent := session.sent ++ [frame] } := by
  apply Meets.get_bind
  rintro _ rfl
  apply Meets.set_bind
  refine (orFail_meets _).bind fun _ => ?_
  exact ((lift_meets _).before fun _ holds => holds.2).after fun _ _ holds => holds.2

theorem advance_meets (count : Nat) (session : Session σ) :
    Meets (· = session) (Session.advance count)
      (fun _ after => session.sendSequence.toNat + count ≤ u64Max ∧
        after = { session with sendSequence := .ofNat (session.sendSequence.toNat + count) })
      fun _ after => after = session := by
  apply Meets.get_bind
  rintro _ rfl
  refine (someOrFail_meets _).bind fun next => ?_
  apply Meets.set
  rintro _ ⟨added, rfl⟩
  obtain ⟨fits, rfl⟩ := checkedAdd_eq_some.1 added
  exact ⟨fits, rfl⟩

end Senders

theorem accept_eq_ok {tracker next : SequenceTracker} {received : UInt64} :
    tracker.accept received = .ok next ↔
      received = tracker.expected ∧ tracker.expected.toNat + 1 ≤ u64Max ∧
        next = ⟨.ofNat (tracker.expected.toNat + 1)⟩ := by
  rw [SequenceTracker.accept, ite_error_eq_ok, ne_eq, not_not, nextSequence, checkedAdd]
  refine and_congr_right fun _ => ?_
  by_cases fits : tracker.expected.toNat + 1 ≤ u64Max <;> simp [fits, eq_comm]

section Keeps
variable {observe : Session σ → ω} {pass : Pass σ} {error : RuntimeError}

theorem keeps_orFail (answer : Except ε α) : Keeps observe (Session.orFail error answer : SessionM σ α) :=
  fun _ => (orFail_meets answer).after fun _ _ holds => holds.2

theorem keeps_lift (answer : Except RuntimeError α) : Keeps observe (Session.lift answer : SessionM σ α) :=
  fun _ => (lift_meets answer).after fun _ _ holds => holds.2

theorem keeps_someOrFail (value? : Option α) : Keeps observe (Session.someOrFail error value? : SessionM σ α) :=
  fun _ => (someOrFail_meets value?).after fun _ _ holds => holds.2

theorem keeps_random (reads : List (Option UInt64)) : Keeps observe (Session.random reads : SessionM σ UInt64) := keeps_someOrFail _

theorem keeps_settle (answer : Except HandlerError α) : Keeps observe (Session.settle answer : SessionM σ α) := by
  cases answer with
  | ok value => exact .pure value
  | error error => exact .throw _

theorem keeps_onlyIf (test : Bool) {program : SessionM σ Unit} (keeps : Keeps observe program) :
    Keeps observe (Session.onlyIf test program) := .ite keeps (.pure _)

/-- Who does not see what a session sends, nor the state behind its handler. -/
structure Blind (observe : Session σ → ω) : Prop where
  sent : ∀ session sent, observe { session with sent } = observe session
  sendSequence : ∀ session sendSequence, observe { session with sendSequence } = observe session
  handler : ∀ session handler, observe { session with handler } = observe session

variable (blind : Blind observe)
include blind

theorem Blind.sendFrame (frame : Frame) : Keeps observe (Session.sendFrame pass frame) := by
  refine .each fun session => (sendFrame_meets pass frame session).weaken (fun _ same => same) ?_ ?_
  · rintro _ _ rfl
    exact blind.sent _ _
  · rintro _ _ rfl
    exact blind.sent _ _

theorem Blind.sendFrames (frames : List Frame) : Keeps observe (Session.sendFrames pass frames) := by
  induction frames with
  | nil => exact .pure _
  | cons frame rest ih => exact (blind.sendFrame frame).bind fun _ => ih

theorem Blind.advance (count : Nat) : Keeps observe (Session.advance count : SessionM σ Unit) := by
  refine .each fun session => (advance_meets count session).weaken (fun _ same => same) ?_ ?_
  · rintro _ _ ⟨-, rfl⟩
    exact blind.sendSequence _ _
  · rintro _ _ rfl
    rfl

theorem Blind.countThenSend (frame : Frame) : Keeps observe (Session.countThenSend pass frame) :=
  (blind.advance 1).bind fun _ => blind.sendFrame frame

theorem Blind.sendThenCount (frame : Frame) : Keeps observe (Session.sendThenCount pass frame) :=
  (blind.sendFrame frame).bind fun _ => blind.advance 1

theorem Blind.invoke (method : σ → Except HandlerError α × σ) : Keeps observe (Session.invoke method) :=
  .each fun session => by
    rintro _ rfl
    exact blind.handler _ _

theorem Blind.call (method : σ → Except HandlerError α × σ) : Keeps observe (Session.call method) :=
  (blind.invoke method).bind keeps_settle

end Keeps

/-- The stage of a session and its timers. -/
def timing (session : Session σ) : Stage × Nat × Nat × Option UInt64 :=
  (session.stage, session.lastAuthenticatedTraffic, session.nextHeartbeat, session.heartbeatOutstanding)

theorem blind_timing : Blind (timing : Session σ → _) := ⟨fun _ _ => rfl, fun _ _ => rfl, fun _ _ => rfl⟩

/-- A program that looks at no clock. -/
abbrev Untimed (program : SessionM σ α) : Prop := Keeps timing program

section Untimed
variable {pass : Pass σ} {error : RuntimeError}

theorem untimed_receiveFrame : Untimed (Session.receiveFrame pass) := by
  apply (keeps_lift _).bind
  intro plaintext?
  cases plaintext? with
  | none => exact .pure _
  | some plaintext =>
    refine Keeps.bind (.modify fun _ => rfl) fun _ => ?_
    cases decode plaintext with
    | none => exact .throw _
    | some decoded => exact (keeps_orFail _).bind fun _ => .pure _

theorem untimed_acceptSequence (frame : Frame) : Untimed (Session.acceptSequence frame : SessionM σ Unit) := by
  refine .each fun session => Meets.get_bind ?_
  rintro _ rfl
  refine ((orFail_meets _).stopping ?_).bind fun tracker => ?_
  · rintro _ _ rfl
    rfl
  · apply Meets.set
    intro _ _
    rfl

theorem untimed_callWhileAlive (method : σ → Except HandlerError α × σ) : Untimed (Session.callWhileAlive pass method) :=
  (blind_timing.invoke method).bind fun answer => .get_bind fun _ => .ite (.throw _) (keeps_settle answer)

theorem untimed_reply (response : Nat) (answer : Except InitiatorClientError InitiatorResponse) :
    Untimed (Session.reply response answer : SessionM σ Unit) := .modify fun _ => rfl

theorem untimed_requestNumber (requestId? : Option UInt64) : Untimed (Session.requestNumber pass requestId?) := by
  cases requestId? with
  | some requestId => exact .pure requestId
  | none => exact keeps_random _

theorem untimed_sendRequest (frames : List Frame) (outstanding : InitiatorOutstanding) :
    Untimed (Session.sendRequest pass frames outstanding) := by
  have sends : Untimed (tryCatch (Session.sendFrames pass frames) fun exit => do
      Session.reply outstanding.response (.error .unknownAfterDisconnect)
      throw exit) := (blind_timing.sendFrames frames).rethrow fun _ => (untimed_reply _ _).bind fun _ => .throw _
  exact sends.bind fun _ => (blind_timing.advance _).bind fun _ => .modify fun _ => rfl

theorem untimed_startInitiatorRequest (pending : PendingInitiatorRequest) :
    Untimed (Session.startInitiatorRequest pass pending) := by
  refine .ite (untimed_reply _ _) ((untimed_requestNumber _).bind fun requestId => .get_bind fun session => ?_)
  cases buildInitiatorRequest pending.request requestId session.sendSequence with
  | error _ => exact untimed_reply _ _
  | ok built => exact untimed_sendRequest _ _

theorem untimed_takeOutstanding (requestId : UInt64) : Untimed (Session.takeOutstanding requestId : SessionM σ _) := by
  refine .get_bind fun session => ?_
  cases session.applicationOutstanding with
  | none => exact .throw _
  | some outstanding => exact .ite (.throw _) (.bind (.modify fun _ => rfl) fun _ => .pure _)

theorem untimed_complete (outstanding : InitiatorOutstanding) (fits : Bool) (response : InitiatorResponse) :
    Untimed (Session.complete outstanding fits response : SessionM σ Unit) :=
  .ite (untimed_reply _ _) (.bind (untimed_reply _ _) fun _ => .throw _)

theorem untimed_reassemble (frame : Frame) : Untimed (Session.reassemble frame : SessionM σ _) := by
  refine .get_bind fun session => ?_
  cases session.reassembler.accept frame with
  | none => exact .throw _
  | some answer => exact .bind (.modify fun _ => rfl) fun _ => keeps_orFail _

/-- The answer to a request: what is built from the session is sent. -/
theorem untimed_answer {build : Session σ → Except ε Frame} :
    Untimed (do
      let session ← get
      let answer ← Session.orFail error (build session)
      Session.countThenSend pass answer) :=
  .get_bind fun _ => (keeps_orFail _).bind blind_timing.countThenSend

theorem untimed_onCommand (frame : Frame) : Untimed (Session.onCommand pass frame) :=
  (keeps_lift _).bind fun _ => (blind_timing.call _).bind fun _ => .ite (.throw _) untimed_answer

theorem untimed_onCommandAck (initiator : Bool) (frame : Frame) : Untimed (Session.onCommandAck initiator frame : SessionM σ Unit) :=
  (keeps_orFail _).bind fun _ => .ite ((untimed_takeOutstanding _).bind fun _ => untimed_complete _ _ _) (.pure _)

theorem untimed_onResourceRequest (frame : Frame) : Untimed (Session.onResourceRequest pass frame) :=
  (keeps_orFail _).bind fun _ => (blind_timing.call _).bind fun _ => .ite (.throw _) untimed_answer

theorem untimed_onResourceResult (frame : Frame) : Untimed (Session.onResourceResult frame : SessionM σ Unit) :=
  (keeps_orFail _).bind fun _ => (untimed_takeOutstanding _).bind fun _ => untimed_complete _ _ _

theorem untimed_answerRemoteBuffer (requestId : UInt64) (request : RemoteBufferRequest) :
    Untimed (Session.answerRemoteBuffer pass requestId request) :=
  (untimed_callWhileAlive _).bind fun _ => .ite (.throw _) (.get_bind fun _ => (keeps_orFail _).bind fun answers =>
    (blind_timing.advance _).bind fun _ => blind_timing.sendFrames answers)

theorem untimed_onRemoteBufferRequest (frame : Frame) : Untimed (Session.onRemoteBufferRequest pass frame) := by
  refine (keeps_orFail _).bind fun _ => (untimed_reassemble _).bind fun payload? => ?_
  cases payload? with
  | none => exact .pure _
  | some payload => exact (keeps_orFail _).bind fun _ => untimed_answerRemoteBuffer _ _

theorem untimed_onRemoteBufferResult (frame : Frame) : Untimed (Session.onRemoteBufferResult frame : SessionM σ Unit) := by
  refine (keeps_orFail _).bind fun _ => .get_bind fun _ => (keeps_someOrFail _).bind fun _ => .ite (.throw _) ?_
  refine (untimed_reassemble _).bind fun payload? => ?_
  cases payload? with
  | none => exact .pure _
  | some payload =>
    exact (keeps_someOrFail _).bind fun _ => (keeps_orFail _).bind fun _ =>
      (untimed_takeOutstanding _).bind fun _ => untimed_complete _ _ _

theorem untimed_onComputeRequest (frame : Frame) : Untimed (Session.onComputeRequest pass frame) :=
  (keeps_orFail _).bind fun _ => (untimed_callWhileAlive _).bind fun _ => .ite (.throw _) untimed_answer

theorem untimed_onComputeResponse (frame : Frame) : Untimed (Session.onComputeResponse frame : SessionM σ Unit) :=
  (keeps_orFail _).bind fun _ => (untimed_takeOutstanding _).bind fun _ => untimed_complete _ _ _

theorem untimed_onMetrics (frame : Frame) : Untimed (Session.onMetrics frame : SessionM σ Unit) :=
  .ite (.throw _) ((keeps_orFail _).bind fun _ => .pure _)

theorem untimed_onPing (frame : Frame) : Untimed (Session.onPing pass frame) :=
  .get_bind fun _ => blind_timing.countThenSend _

end Untimed

section Stages
variable {pass : Pass σ} {peerId : Bytes32} {initiator : Bool}

theorem blind_stage : Blind (Session.stage : Session σ → _) := ⟨fun _ _ => rfl, fun _ _ => rfl, fun _ _ => rfl⟩

theorem Untimed.stage {program : SessionM σ α} (untimed : Untimed program) : Keeps Session.stage program := untimed.view Prod.fst

/-- All but the heartbeat that waits for its answer. -/
def clocks (session : Session σ) : Stage × Nat × Nat :=
  (session.stage, session.lastAuthenticatedTraffic, session.nextHeartbeat)

theorem Untimed.clocks {program : SessionM σ α} (untimed : Untimed program) : Keeps Proofs.clocks program :=
  untimed.view fun seen => (seen.1, seen.2.1, seen.2.2.1)

/-- What follows from the frame's channel, but for the answer to a heartbeat. -/
theorem untimed_onControl {frame : Frame} (other : ControlType.tryFrom frame.header.messageType ≠ some .pong) :
    Untimed (Session.onControl initiator pass frame) := by
  rw [Session.onControl]
  split
  · exact .ite (untimed_onPing frame) (.throw _)
  next pong => exact absurd pong other
  · exact untimed_onCommand frame
  · exact untimed_onCommandAck initiator frame
  · exact .throw _
  · exact .throw _

theorem onPong_clocks (frame : Frame) : Keeps clocks (Session.onPong frame : SessionM σ Unit) :=
  .get_bind fun _ => .ite (.throw _) (.modify fun _ => rfl)

theorem onFrame_clocks (frame : Frame) : Keeps clocks (Session.onFrame initiator pass frame) := by
  rw [Session.onFrame]
  split
  · by_cases pong : ControlType.tryFrom frame.header.messageType = some .pong
    · rw [Session.onControl, pong]
      exact .ite (onPong_clocks frame) (.throw _)
    · exact (untimed_onControl pong).clocks
  · exact .ite (untimed_onResourceResult frame).clocks (untimed_onResourceRequest frame).clocks
  · exact .ite (untimed_onRemoteBufferResult frame).clocks (untimed_onRemoteBufferRequest frame).clocks
  · exact .ite (untimed_onComputeResponse frame).clocks (untimed_onComputeRequest frame).clocks
  · exact (untimed_onMetrics frame).clocks
  · exact .throw _

theorem receiveAuthenticated_stage : Keeps Session.stage (Session.receiveAuthenticated initiator pass) := by
  refine untimed_receiveFrame.stage.bind fun frame? => ?_
  cases frame? with
  | none => exact .get_bind fun _ => .ite (.throw _) (.pure _)
  | some frame =>
    exact (untimed_acceptSequence frame).stage.bind fun _ => (keeps_orFail _).bind fun _ =>
      .bind (.modify fun _ => rfl) fun _ => (onFrame_clocks frame).view Prod.fst

theorem initiate_stage : Keeps Session.stage (Session.initiate pass) := by
  refine .get_bind fun session => .ite (.pure _) (.ite ?_ ?_)
  · exact (keeps_random _).bind fun _ => (blind_stage.sendThenCount _).bind fun _ => .modify fun _ => rfl
  · cases pass.nextRequest with
    | none => exact .pure _
    | some pending => exact (untimed_startInitiatorRequest pending).stage

theorem speak_stage : Keeps Session.stage (Session.speak peerId initiator pass) := by
  refine .ite initiate_stage (.get_bind fun session => .ite (.pure _) ((blind_stage.call _).bind fun payload? => ?_))
  cases payload? with
  | none => exact .modify fun _ => rfl
  | some payload => exact (keeps_orFail _).bind fun _ => (blind_stage.countThenSend _).bind fun _ => .modify fun _ => rfl

/-- The clocks as the authenticated loop finds them. -/
def Entered (pass : Pass σ) (session : Session σ) : Prop :=
  clocks session = (.authenticated, pass.nowMs, pass.nowMs + heartbeatIntervalMs)

theorem Entered.stage {session : Session σ} (entered : Entered pass session) : session.stage = .authenticated :=
  congrArg Prod.fst entered

theorem enterAuthenticated_meets {pre : Session σ → Prop} :
    Meets pre (Session.enterAuthenticated pass) (fun _ => Entered pass) fun _ _ => True :=
  ((lift_meets _).stopping fun _ _ _ => trivial).bind fun _ => Meets.modify fun _ _ => rfl

/-- An authenticated session stays one. -/
theorem authenticatedPass_stage : Keeps Session.stage (Session.authenticatedPass peerId initiator pass) :=
  (keeps_onlyIf _ (.throw _)).bind fun _ => speak_stage.bind fun _ => receiveAuthenticated_stage

end Stages

section Steps
variable {pass : Pass σ} {peerId : Bytes32} {initiator : Bool} {session spoken after : Session σ}

/-- A responder that has spoken goes on to receive. -/
theorem runPass_spoken (authenticated : session.stage = .authenticated)
    (spoke : Session.speak peerId false pass session = .ok () spoken) :
    Session.runPass peerId false pass session = Session.receiveAuthenticated false pass spoken := by
  rw [Session.runPass, get_bind_run, authenticated]
  show (Session.speak peerId false pass >>= fun _ => Session.receiveAuthenticated false pass) session = _
  simp only [Bind.bind, EStateM.bind, spoke]

theorem running_step_iff :
    (Running.running session).step peerId initiator pass = .running after ↔
      Session.runPass peerId initiator pass session = .ok () after := by
  rw [Running.step]
  cases Session.runPass peerId initiator pass session with
  | ok value next => simp
  | error exit next => cases exit <;> simp

theorem running_step_returned {result : SessionResult}
    (ran : Session.runPass peerId initiator pass session = .error (.returns result) after) :
    ∃ answer last, (Running.running session).step peerId initiator pass = .returned answer last := by
  rw [Running.step, ran]
  exact ⟨_, _, rfl⟩

end Steps

end PhoneBoost.Secure.Proofs
