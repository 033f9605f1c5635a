import PhoneBoost.Proofs.CoreCustody
import PhoneBoost.Proofs.SessionTiming
import PhoneBoost.Worker.Handler

/-! What a malformed message does to a session. The codec tells errors of one
message from errors of the session, but the authenticated loop ends the session
on either, and the end of the session reaches the worker. -/

namespace PhoneBoost.Secure.Proofs
open Pbmux Wire Assertion
open Worker (WorkerCore authenticatedCommandHandler)
open Worker.Proofs (allocationCalls bootedCore coreRun filled nullHasher someSession)

def refusalOf : Except ε α → Option ε
  | .ok _ => none
  | .error error => some error

theorem refusalOf_eq_some {answer : Except ε α} {error : ε} : refusalOf answer = some error ↔ answer = .error error := by
  cases answer <;> simp [refusalOf]

/-- An unknown type of command is not refused, it is acknowledged as failed. -/
def commandRefusal (frame : Frame) : Option PbmuxError :=
  (refusalOf (parseCommandFrame frame)).filter fun error =>
    error.kind ≠ .unsupportedMessage || frame.payload.length ≠ commandPayloadLen

def fragmentRefusal (reassembler : Reassembler) (frame : Frame) : Option PbmuxError :=
  match validateRemoteBufferRequestFragment frame with
  | .error error => some error
  | .ok () =>
    match reassembler.accept frame with
    | some (_, .error error) => some error
    | some (_, .ok (some payload)) => refusalOf (parseRemoteBufferRequestPayload frame.header.messageType payload)
    | _ => none

/-- The error of the checks that a responder makes on a frame of the given channel. -/
def messageRefusal (reassembler : Reassembler) (frame : Frame) : Option PbmuxError :=
  match frame.header.channel with
  | .control =>
    match ControlType.tryFrom frame.header.messageType with
    | some .command => commandRefusal frame
    | some .commandAck => refusalOf (parseCommandAckFrame frame)
    | _ => none
  | .resource => refusalOf (parseResourceRequestFrame frame)
  | .remoteBuffer => fragmentRefusal reassembler frame
  | .compute => refusalOf (parseComputeRequestFrame frame)
  | .metrics => if frame.header.messageType ≠ 1 then none else refusalOf (parseHeartbeatFrame frame)
  | .aiRpc => none

def frameRefusal (tracker : SequenceTracker) (reassembler : Reassembler) (frame : Frame) : Option PbmuxError :=
  match tracker.accept frame.header.sequence, authorizeDispatch frame .committed with
  | .error error, _ | .ok _, .error error => some error
  | .ok _, .ok () => messageRefusal reassembler frame

/-- The first error that the codec raises on a record, in the order of the loop. -/
def refusal (session : Session σ) (record : List UInt8) : Option PbmuxError :=
  match decode record with
  | none => none
  | some (.error error) => some error
  | some (.ok frame) => frameRefusal session.receiveSequence session.reassembler frame

section Refusals
variable {pass : Pass σ} {state : σ} {tracker : SequenceTracker} {reassembler : Reassembler} {frame : Frame} {error : PbmuxError}

/-- A session whose handler has not been asked anything. -/
structure Standing (state : σ) (tracker : SequenceTracker) (reassembler : Reassembler) (session : Session σ) : Prop where
  stage : session.stage = .authenticated
  handler : session.handler = state
  tracker : session.receiveSequence = tracker
  reassembler : session.reassembler = reassembler

/-- The session ends with the error for a peer that breaks the protocol. -/
structure GivenUp (state : σ) (exit : Exit) (session : Session σ) : Prop where
  exit : exit = .returns (.error .pbmux)
  stage : session.stage = .authenticated
  handler : session.handler = state

theorem orFail_refuses {answer : Except ε α} {error : ε} (refused : answer = .error error) :
    Meets (Standing state tracker reassembler) (Session.orFail .pbmux answer) (fun _ _ => False) (GivenUp state) := by
  subst refused
  exact Meets.throw fun _ standing => ⟨rfl, standing.stage, standing.handler⟩

theorem orFail_standing (answer : Except ε α) :
    Meets (Standing state tracker reassembler) (Session.orFail .pbmux answer)
      (fun value after => answer = .ok value ∧ Standing state tracker reassembler after) (GivenUp state) := by
  cases answer with
  | ok value => exact Meets.pure fun _ standing => ⟨rfl, standing⟩
  | error error => exact (orFail_refuses rfl).after fun _ _ impossible => impossible.elim

theorem onCommand_refuses (refused : commandRefusal frame = some error) :
    Meets (Standing state tracker reassembler) (Session.onCommand pass frame) (fun _ _ => False) (GivenUp state) := by
  apply Meets.ended
  obtain ⟨raised, strict⟩ := Option.filter_eq_some_iff.1 refused
  have fails : Session.parseAuthenticatedCommand frame = .error .pbmux := by
    rw [Session.parseAuthenticatedCommand, refusalOf_eq_some.1 raised]
    exact if_pos strict
  rw [fails]
  exact Meets.throw fun _ standing => ⟨rfl, standing.stage, standing.handler⟩

theorem reassemble_standing {next : Reassembler} {answer : Except PbmuxError (Option (List UInt8))}
    (accepts : reassembler.accept frame = some (next, answer)) :
    Meets (Standing state tracker reassembler) (Session.reassemble frame)
      (fun payload? after => answer = .ok payload? ∧ Standing state tracker next after) (GivenUp state) := by
  apply Meets.get_bind
  intro session standing
  rw [standing.reassembler, accepts]
  refine Meets.bind (Meets.modify ?_) fun _ => orFail_standing answer
  rintro _ rfl
  exact ⟨standing.stage, standing.handler, standing.tracker, rfl⟩

theorem onRemoteBufferRequest_refuses (refused : fragmentRefusal reassembler frame = some error) :
    Meets (Standing state tracker reassembler) (Session.onRemoteBufferRequest pass frame) (fun _ _ => False) (GivenUp state) := by
  rw [fragmentRefusal] at refused
  split at refused
  next raised invalid => exact (orFail_refuses invalid).ended
  next valid =>
    refine Meets.bind ((orFail_standing _).after fun _ _ holds => holds.2) fun _ => ?_
    split at refused
    next next raised accepts =>
      apply Meets.ended
      refine (reassemble_standing accepts).after fun _ _ holds => ?_
      cases holds.1
    next next payload accepts =>
      refine (reassemble_standing accepts).bind fun payload? => Meets.assuming fun same => ?_
      cases same
      exact Meets.ended (orFail_refuses (refusalOf_eq_some.1 refused))
    next => cases refused

theorem onControl_refuses (refused : messageRefusal reassembler frame = some error) (control : frame.header.channel = .control) :
    Meets (Standing state tracker reassembler) (Session.onControl false pass frame) (fun _ _ => False) (GivenUp state) := by
  rw [messageRefusal, control] at refused
  rw [Session.onControl]
  dsimp only at refused
  split at refused
  next kind =>
    rw [kind]
    exact onCommand_refuses refused
  next kind =>
    rw [kind]
    exact Meets.ended (orFail_refuses (refusalOf_eq_some.1 refused))
  next => cases refused

theorem onFrame_refuses (refused : messageRefusal reassembler frame = some error) :
    Meets (Standing state tracker reassembler) (Session.onFrame false pass frame) (fun _ _ => False) (GivenUp state) := by
  rw [Session.onFrame]
  cases channel : frame.header.channel with
  | control => exact onControl_refuses refused channel
  | resource =>
    rw [messageRefusal, channel] at refused
    exact Meets.ended (orFail_refuses (refusalOf_eq_some.1 refused))
  | remoteBuffer =>
    rw [messageRefusal, channel] at refused
    exact onRemoteBufferRequest_refuses refused
  | compute =>
    rw [messageRefusal, channel] at refused
    exact Meets.ended (orFail_refuses (refusalOf_eq_some.1 refused))
  | metrics =>
    rw [messageRefusal, channel] at refused
    dsimp only at refused
    split at refused
    next => cases refused
    next known =>
      refine Meets.ite (fun other => absurd other known) fun _ => ?_
      exact Meets.ended (orFail_refuses (refusalOf_eq_some.1 refused))
  | aiRpc =>
    rw [messageRefusal, channel] at refused
    cases refused

theorem note_standing {note : Session σ → Session σ}
    (keeps : ∀ session, Standing state tracker reassembler session → Standing state tracker reassembler (note session)) :
    Meets (Standing state tracker reassembler) (modify note : SessionM σ PUnit)
      (fun _ => Standing state tracker reassembler) (GivenUp state) := Meets.modify keeps

theorem acceptSequence_standing {answer : Except PbmuxError SequenceTracker}
    (accepts : tracker.accept frame.header.sequence = answer) :
    Meets (Standing state tracker reassembler) (Session.acceptSequence frame)
      (fun _ after => ∃ next, answer = .ok next ∧ Standing state next reassembler after) (GivenUp state) := by
  apply Meets.get_bind
  intro session standing
  rw [standing.tracker, accepts]
  refine Meets.bind ((orFail_standing _).before fun _ same => same ▸ standing) fun next => ?_
  exact Meets.set fun _ holds => ⟨next, holds.1, standing.stage, standing.handler, rfl, standing.reassembler⟩

theorem receiveFrame_standing {record : List UInt8} {answer : Except PbmuxError Frame}
    (received : pass.received = .ok (some record)) (decoded : decode record = some answer) :
    Meets (Standing state tracker reassembler) (Session.receiveFrame pass)
      (fun frame? after => (∃ frame, answer = .ok frame ∧ frame? = some frame) ∧ Standing state tracker reassembler after)
      (GivenUp state) := by
  have program : Session.receiveFrame pass = (do
      modify fun session => { session with taken := session.taken + 1 }
      let frame ← Session.orFail .pbmux answer
      return some frame) := by
    rw [Session.receiveFrame, received]
    simp only [Session.lift, pure_bind, decoded]
  rw [program]
  refine Meets.bind (note_standing fun _ holds => ⟨holds.stage, holds.handler, holds.tracker, holds.reassembler⟩) fun _ => ?_
  refine (orFail_standing answer).bind fun frame => ?_
  exact Meets.pure fun _ holds => ⟨⟨frame, holds.1, rfl⟩, holds.2⟩

/-- What follows the reading of a frame. -/
theorem judgeFrame_refuses (refused : frameRefusal tracker reassembler frame = some error) :
    Meets (Standing state tracker reassembler)
      (do
        Session.acceptSequence frame
        Session.orFail .pbmux (authorizeDispatch frame .committed)
        modify fun session => { session with lastAuthenticatedTraffic := pass.nowMs }
        Session.onFrame false pass frame)
      (fun _ _ => False) (GivenUp state) := by
  rw [frameRefusal] at refused
  split at refused
  next raised accepts =>
    apply Meets.ended
    refine (acceptSequence_standing accepts).after fun _ _ holds => ?_
    obtain ⟨_, same, -⟩ := holds
    cases same
  next next raised accepts unauthorized =>
    refine (acceptSequence_standing accepts).bind fun _ => Meets.exists fun tracker => Meets.assuming fun _ => ?_
    exact Meets.ended (orFail_refuses unauthorized)
  next next accepts authorized =>
    refine (acceptSequence_standing accepts).bind fun _ => Meets.exists fun tracker => Meets.assuming fun _ => ?_
    refine Meets.bind ((orFail_standing _).after fun _ _ holds => holds.2) fun _ => ?_
    refine Meets.bind (note_standing fun _ holds => ⟨holds.stage, holds.handler, holds.tracker, holds.reassembler⟩) fun _ => ?_
    exact onFrame_refuses refused

/-- A record on which the codec raises an error of any scope ends the loop before
the handler is asked anything. -/
theorem receiveAuthenticated_refuses {session : Session σ} {record : List UInt8} (authenticated : session.stage = .authenticated)
    (received : pass.received = .ok (some record)) (refused : refusal session record = some error) :
    Meets (· = session) (Session.receiveAuthenticated false pass) (fun _ _ => False) (GivenUp session.handler) := by
  have standing : ∀ state, state = session → Standing session.handler session.receiveSequence session.reassembler state := by
    rintro _ rfl
    exact ⟨authenticated, rfl, rfl, rfl⟩
  apply Meets.before ?_ standing
  rw [refusal] at refused
  split at refused
  next => cases refused
  next raised decoded =>
    apply Meets.ended
    refine (receiveFrame_standing received decoded).after fun _ _ holds => ?_
    obtain ⟨⟨frame, same, -⟩, -⟩ := holds
    cases same
  next frame decoded =>
    refine (receiveFrame_standing received decoded).bind fun frame? => Meets.assuming fun same => ?_
    obtain ⟨_, same, rfl⟩ := same
    cases same
    exact judgeFrame_refuses refused

end Refusals

section Scope
variable (peerId : Bytes32) {pass : Pass σ} {session spoken : Session σ} {record : List UInt8}

theorem leave_handler (handler : Handler σ) (result : SessionResult) (authenticated : session.stage = .authenticated) :
    (session.leave handler result).2.handler = (handler.sessionEnded session.handler).2 := by
  rw [Session.leave, if_neg (not_not.2 authenticated)]
  obtain ⟨answer, told⟩ := handler.sessionEnded session.handler
  cases answer <;> rfl

/-- Whatever the scope of the error, the session ends and the handler is told. -/
theorem refused_ends {error : PbmuxError} (authenticated : session.stage = .authenticated)
    (spoke : Session.speak peerId false pass session = .ok () spoken) (received : pass.received = .ok (some record))
    (refused : refusal spoken record = some error) :
    ∃ result after, (Running.running session).step peerId false pass = .returned result after ∧
      after.handler = (pass.handler.sessionEnded spoken.handler).2 := by
  have stage : spoken.stage = .authenticated := (speak_stage _).ok authenticated spoke
  have judged := receiveAuthenticated_refuses stage received refused
  cases ends : Session.receiveAuthenticated false pass spoken with
  | ok _ after => exact (judged.ok rfl ends).elim
  | error exit after =>
    obtain ⟨rfl, stage, same⟩ := judged.error rfl ends
    rw [Running.step, runPass_spoken authenticated spoke, ends]
    exact ⟨_, _, rfl, same ▸ leave_handler pass.handler _ stage⟩

/-- `spoken` is the session after its own heartbeat, when it turns to `record`. -/
structure FailureScope (pass : Pass σ) (session spoken : Session σ) (record : List UInt8) : Prop where
  staysOpen : ∀ error, refusal spoken record = some error → error.scope = .logicalMessage →
    ∃ after, (Running.running session).step peerId false pass = .running after ∧ after.handler = spoken.handler
  sessionOnly : ∀ error, refusal spoken record = some error →
    (∀ after, (Running.running session).step peerId false pass ≠ .running after) → error.scope = .session

/-- The scope of a failure is respected on exactly those records that the codec
refuses at no other scope than that of the session: every other refusal ends the
session as well. -/
theorem failure_scope (authenticated : session.stage = .authenticated)
    (spoke : Session.speak peerId false pass session = .ok () spoken) (received : pass.received = .ok (some record)) :
    FailureScope peerId pass session spoken record ↔
      ∀ error, refusal spoken record = some error → error.scope = .session := by
  constructor
  · intro scope error refused
    obtain ⟨result, after, returned, -⟩ := refused_ends peerId authenticated spoke received refused
    apply scope.sessionOnly error refused
    intro running same
    rw [returned] at same
    cases same
  · intro only
    refine ⟨fun error refused logical => ?_, fun error refused _ => only error refused⟩
    have session := only error refused
    rw [logical] at session
    cases session

end Scope

section Served

/-- A pass in which nobody acts but the peer. -/
def quietPass (handler : Handler σ) (nowMs : Nat) (record? : Option (List UInt8)) : Pass σ where
  nowMs
  timedOut := false
  actions := ⟨false, false, false⟩
  recordMismatch := .ok ()
  commitPeer := true
  markAuthenticated := .ok ()
  cancelled := false
  nextRequest := none
  confirmReads := []
  requestReads := []
  handler
  polls := []
  writes _ := .ok ()
  received := .ok record?

/-- A pass of a responder that serves requests from its worker. -/
def workerPass (nowMs : Nat) (reads : List (Option Bytes16)) (record? : Option (List UInt8)) : Pass (Option WorkerCore) :=
  quietPass (authenticatedCommandHandler nullHasher someSession
    ⟨nowMs, reads, fun _ => true, ⟨fun _ => true, fun _ => nowMs, nowMs⟩⟩) nowMs record?

def recordOf (frame : Except PbmuxError Frame) : Option (List UInt8) := (frame.bind encode).toOption

def responderId : Bytes32 := .replicate 32 8

def reserveFrame (requestId sequence : UInt64) : Except PbmuxError Frame :=
  buildResourceRequestFrame (.reserve (filled 1) (filled 9) .remoteBufferBytes 4) requestId sequence

theorem plainFlags_known : (0 : UInt32) &&& ~~~7 = 0 := by decide

def allocFrames : Except PbmuxError (List Frame) :=
  buildRemoteBufferRequestFrames (.alloc (filled 1) (filled 9) (filled 2) 4 ⟨0, plainFlags_known⟩) 5 4

/-- After the liveness check the peer acquires the lease, reserves and commits four
bytes and allocates a buffer. -/
def allocationPasses : List (Pass (Option WorkerCore)) := [
  workerPass 10000 [] none,
  workerPass 10000 [] (recordOf (.ok (controlFrame .ping 1 0))),
  workerPass 10000 [some (filled 1)] (recordOf (buildCommandFrame ⟨1, 0, .replicate 16 0, 0, filled 7, 0, 0, 0⟩ 2 1)),
  workerPass 10000 [some (filled 2)] (recordOf (reserveFrame 3 2)),
  workerPass 10001 [] (recordOf (buildResourceRequestFrame (.commit (filled 1) (filled 9) (filled 2)) 4 3)),
  workerPass 10002 [some (filled 3)] (recordOf (allocFrames.map fun frames => frames.getD 0 (controlFrame .ping 5 4)))]

/-- The responder that has served these requests, from a worker that knows its
health. -/
def servedRun : Running (Option WorkerCore) :=
  Machine.run (Running.step responderId false)
    (.running (.start false (some (coreRun nullHasher bootedCore (allocationCalls.take 2)).core))) allocationPasses

def bufferState (run : Running (Option WorkerCore)) : Option BufferState := do
  let worker ← run.session.handler
  let record ← worker.remoteBuffers.buffers.get? (filled 3)
  return record.state

/-- A request of the right length whose bytes are all zero. -/
def blankReserve : List UInt8 :=
  (recordOf ((reserveFrame 6 5).map fun frame => { frame with payload := frame.payload.map fun _ => 0 })).getD []

def resultOf : Running σ → Option SessionResult
  | .returned result _ => some result
  | _ => none

def blankPass : Pass (Option WorkerCore) := workerPass 10003 [] (some blankReserve)

/-- A well-formed request under the number of the one before it. -/
def replayedReserve : List UInt8 := (recordOf (reserveFrame 6 4)).getD []

/-- What the two requests meet, evaluated together. -/
theorem servedRun_facts :
    let ended := (Running.running servedRun.session).step responderId false blankPass
    refusal servedRun.session blankReserve = some (.logical .invalidResourcePayload) ∧
    resultOf servedRun = none ∧ bufferState servedRun = some .allocated ∧
    resultOf ended = some (.error .pbmux) ∧ bufferState ended = some .lost ∧
    servedRun.session.stage = .authenticated ∧ 10003 < servedRun.session.nextHeartbeat ∧
    refusal servedRun.session replayedReserve = some (.session .sequenceMismatch) := by
  decide +kernel

/-- The parser refuses the blank request at the scope of the message. The session
ends all the same, and the buffer is lost. -/
theorem blank_reserve_ends_session :
    let ended := (Running.running servedRun.session).step responderId false blankPass
    refusal servedRun.session blankReserve = some (.logical .invalidResourcePayload) ∧
    resultOf servedRun = none ∧ bufferState servedRun = some .allocated ∧
    resultOf ended = some (.error .pbmux) ∧ bufferState ended = some .lost ∧
    ¬FailureScope responderId blankPass servedRun.session servedRun.session blankReserve := by
  intro ended
  obtain ⟨refused, runs, allocated, result, lost, -⟩ := servedRun_facts
  refine ⟨refused, runs, allocated, result, lost, ?_⟩
  intro scope
  obtain ⟨after, running, -⟩ := scope.staysOpen _ refused rfl
  have still : resultOf ended = none := congrArg resultOf running
  rw [still] at result
  cases result

theorem speak_early {peerId : Bytes32} {pass : Pass σ} {session : Session σ} (early : pass.nowMs < session.nextHeartbeat) :
    Session.speak peerId false pass session = .ok () session := by
  show Session.respondHeartbeat peerId pass session = _
  rw [Session.respondHeartbeat, get_bind_run, if_pos early]
  rfl

theorem failure_scope_reserve :
    refusal servedRun.session replayedReserve = some (.session .sequenceMismatch) ∧
    FailureScope responderId (workerPass 10003 [some (filled 4)] (some replayedReserve)) servedRun.session servedRun.session
      replayedReserve := by
  obtain ⟨-, -, -, -, -, stage, early, replayed⟩ := servedRun_facts
  refine ⟨replayed, (failure_scope responderId stage (speak_early early) rfl).2 ?_⟩
  intro error refused
  rw [replayed] at refused
  cases refused
  rfl

end Served

end PhoneBoost.Secure.Proofs
