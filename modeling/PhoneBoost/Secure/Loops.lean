import PhoneBoost.Pbmux.Dispatch
import PhoneBoost.Pbmux.Reassembly
import PhoneBoost.Secure.Initiator
import PhoneBoost.Secure.Sessions

/-! One session over an encrypted stream, pass by pass. After the handshake an
endpoint runs the loop of pairing or the exchange of a committed peer, and from
there the authenticated loop, which inherits the sequence numbers. What a pass
finds outside the session is its argument: the clock, the socket, the random
device, the state the runtime shares between threads, the queue of the client
and the handler of authenticated requests. -/

namespace PhoneBoost.Secure
open Pbmux

inductive HandlerError where
  | unavailable | failed
deriving DecidableEq, Repr

/-- The trait `AuthenticatedCommandHandler`, for one session. -/
structure Handler (σ : Type) where
  command : UInt64 → CommandPayload → σ → Except HandlerError AckPayload × σ
  resource : UInt64 → ResourceRequest → σ → Except HandlerError (ResourceResponseKind × ResourceResult) × σ
  remoteBuffer : UInt64 → RemoteBufferRequest → σ → Except HandlerError (RemoteBufferResponseKind × BufferResult) × σ
  compute : UInt64 → ComputeRequest → σ → Except HandlerError ComputeResponse × σ
  heartbeat : σ → Except HandlerError (Option HeartbeatPayload) × σ
  sessionEnded : σ → Except HandlerError Unit × σ

/-- The handler of an initiator, which leaves all but `command` to the defaults of the trait. -/
def noAuthenticatedCommandHandler : Handler σ where
  command _ _ state := (.error .unavailable, state)
  resource _ _ state := (.error .unavailable, state)
  remoteBuffer _ _ state := (.error .unavailable, state)
  compute _ _ state := (.error .unavailable, state)
  heartbeat state := (.ok none, state)
  sessionEnded state := (.ok (), state)

/-- One round of the wait for a handler that runs in a thread of its own. -/
structure Poll where
  nowMs : Nat
  transportLoss : Bool
deriving DecidableEq, Repr

/-- What one pass finds outside the session. `writes n` answers the write of the
frame that is sent when `n` frames were sent before. -/
structure Pass (σ : Type) where
  nowMs : Nat
  timedOut : Bool
  actions : RuntimeInner.Actions
  recordMismatch : Except RuntimeError Unit
  commitPeer : Bool
  markAuthenticated : Except RuntimeError Unit
  cancelled : Bool
  nextRequest : Option PendingInitiatorRequest
  confirmReads : List (Option UInt64)
  requestReads : List (Option UInt64)
  handler : Handler σ
  polls : List Poll
  writes : Nat → Except RuntimeError Unit
  received : Except RuntimeError (Option (List UInt8))

inductive Stage where
  | pairing | greeting | awaiting | authenticated
deriving DecidableEq, Repr

/-- The local variables of the loops, the state behind the handler and what has
passed the ends of the session: the number of records read from the stream, the
frames handed to `send_frame` and the replies to clients. -/
structure Session (σ : Type) where
  stage : Stage
  sendSequence : UInt64
  receiveSequence : SequenceTracker
  actor : PairingActor
  committed : Bool
  pingRequest : Option UInt64
  nextHeartbeat : Nat
  lastAuthenticatedTraffic : Nat
  heartbeatOutstanding : Option UInt64
  applicationOutstanding : Option InitiatorOutstanding
  reassembler : Reassembler
  handler : σ
  taken : Nat
  sent : List Frame
  replies : List ClientReply

/-- A session as the handshake leaves it: an XX handshake leads to pairing, an
IK handshake to the exchange between committed peers. -/
def Session.start (xx : Bool) (handler : σ) : Session σ where
  stage := if xx then .pairing else .greeting
  sendSequence := 0
  receiveSequence := .default
  actor := .new
  committed := false
  pingRequest := none
  nextHeartbeat := 0
  lastAuthenticatedTraffic := 0
  heartbeatOutstanding := none
  applicationOutstanding := none
  reassembler := .default
  handler
  taken := 0
  sent := []
  replies := []

/-- How a loop is left before its end. -/
inductive Exit where
  | returns (result : SessionResult) | panics

abbrev SessionM (σ : Type) := EStateM Exit (Session σ)

namespace Session

section Steps
variable {σ : Type}

def fail (error : RuntimeError) : SessionM σ α := throw (.returns (.error error))

/-- `map_err(|_| error)?` -/
def orFail (error : RuntimeError) : Except ε α → SessionM σ α
  | .ok value => pure value
  | .error _ => fail error

/-- `?` on a result of the runtime. -/
def lift : Except RuntimeError α → SessionM σ α
  | .ok value => pure value
  | .error error => fail error

def someOrFail (error : RuntimeError) : Option α → SessionM σ α
  | some value => pure value
  | none => fail error

def onlyIf (test : Bool) (program : SessionM σ Unit) : SessionM σ Unit := if test then program else pure ()

def handlerRuntimeError : HandlerError → RuntimeError
  | .unavailable => .commandHandlerUnavailable
  | .failed => .commandHandlerFailed

def sendFrame (pass : Pass σ) (frame : Frame) : SessionM σ Unit := do
  let session ← get
  set { session with sent := session.sent ++ [frame] }
  let _ ← orFail .pbmux (encode frame)
  lift (pass.writes session.sent.length)

def sendFrames (pass : Pass σ) : List Frame → SessionM σ Unit
  | [] => pure ()
  | frame :: rest => do
    sendFrame pass frame
    sendFrames pass rest

/-- `send_sequence.checked_add(count).ok_or(RuntimeError::Pbmux)?` -/
def advance (count : Nat) : SessionM σ Unit := do
  let session ← get
  let next ← someOrFail .pbmux (checkedAdd session.sendSequence.toNat count)
  set { session with sendSequence := UInt64.ofNat next }

/-- Most senders count a frame before they send it. -/
def countThenSend (pass : Pass σ) (frame : Frame) : SessionM σ Unit := do
  advance 1
  sendFrame pass frame

def sendThenCount (pass : Pass σ) (frame : Frame) : SessionM σ Unit := do
  sendFrame pass frame
  advance 1

/-- `receive_frame_if_available` -/
def receiveFrame (pass : Pass σ) : SessionM σ (Option Frame) := do
  match ← lift pass.received with
  | none => return none
  | some plaintext =>
    modify fun session => { session with taken := session.taken + 1 }
    match decode plaintext with
    | none => throw .panics
    | some decoded =>
      let frame ← orFail .pbmux decoded
      return some frame

def acceptSequence (frame : Frame) : SessionM σ Unit := do
  let session ← get
  let receiveSequence ← orFail .pbmux (session.receiveSequence.accept frame.header.sequence)
  set { session with receiveSequence }

def random (reads : List (Option UInt64)) : SessionM σ UInt64 :=
  someOrFail .pairPersistFailed (randomNonzeroU64 randomAttempts reads)

def invoke (method : σ → Except HandlerError α × σ) : SessionM σ (Except HandlerError α) :=
  modifyGet fun session => ((method session.handler).1, { session with handler := (method session.handler).2 })

def settle : Except HandlerError α → SessionM σ α
  | .ok value => pure value
  | .error error => fail (handlerRuntimeError error)

def call (method : σ → Except HandlerError α × σ) : SessionM σ α := do
  let answer ← invoke method
  settle answer

/-- `handle_remote_buffer_with_transport_liveness` and its sibling for compute:
the handler has run to its end even when the wait for it is given up. -/
def callWhileAlive (pass : Pass σ) (method : σ → Except HandlerError α × σ) : SessionM σ α := do
  let answer ← invoke method
  let session ← get
  if pass.polls.any fun poll =>
      poll.transportLoss || deviceOfflineTimeoutMs ≤ poll.nowMs - session.lastAuthenticatedTraffic then
    fail .sessionLost
  else settle answer

section Authenticated

/-- `enter_authenticated_loop` up to its loop. -/
def enterAuthenticated (pass : Pass σ) : SessionM σ Unit := do
  lift pass.markAuthenticated
  modify fun session => { session with
    stage := .authenticated
    nextHeartbeat := pass.nowMs + heartbeatIntervalMs
    lastAuthenticatedTraffic := pass.nowMs }

/-- The heartbeat of a responder; `peerId` is its own identity. -/
def respondHeartbeat (peerId : Bytes32) (pass : Pass σ) : SessionM σ Unit := do
  let session ← get
  if pass.nowMs < session.nextHeartbeat then pure ()
  else
    match ← call pass.handler.heartbeat with
    | none => modify fun session => { session with nextHeartbeat := pass.nowMs + sessionPollMs }
    | some payload =>
      let frame ← orFail .commandHandlerFailed (buildHeartbeatFrame { payload with peerId } session.sendSequence)
      countThenSend pass frame
      modify fun session => { session with nextHeartbeat := pass.nowMs + heartbeatIntervalMs }

def reply (response : Nat) (answer : Except InitiatorClientError InitiatorResponse) : SessionM σ Unit :=
  modify fun session => { session with replies := session.replies ++ [(response, answer)] }

def requestNumber (pass : Pass σ) : Option UInt64 → SessionM σ UInt64
  | some requestId => pure requestId
  | none => random pass.requestReads

/-- The frames of a request; a send that fails is answered before the session is
given up. -/
def sendRequest (pass : Pass σ) (frames : List Frame) (outstanding : InitiatorOutstanding) : SessionM σ Unit := do
  tryCatch (sendFrames pass frames) fun exit => do
    reply outstanding.response (.error .unknownAfterDisconnect)
    throw exit
  advance frames.length
  modify fun session => { session with applicationOutstanding := some outstanding }

/-- `start_initiator_request` -/
def startInitiatorRequest (pass : Pass σ) (pending : PendingInitiatorRequest) : SessionM σ Unit :=
  if pending.requestId = some 0 then reply pending.response (.error .invalidRequest)
  else do
    let requestId ← requestNumber pass pending.requestId
    let session ← get
    match buildInitiatorRequest pending.request requestId session.sendSequence with
    | .error _ => reply pending.response (.error .invalidRequest)
    | .ok (frames, expected) => sendRequest pass frames ⟨requestId, expected, pass.nowMs, pending.response⟩

/-- The heartbeat of an initiator or the start of its next request. -/
def initiate (pass : Pass σ) : SessionM σ Unit := do
  let session ← get
  if session.heartbeatOutstanding.isSome || session.applicationOutstanding.isSome then pure ()
  else if session.nextHeartbeat ≤ pass.nowMs then
    let request ← random pass.requestReads
    sendThenCount pass (controlFrame .ping request session.sendSequence)
    modify fun session => { session with
      heartbeatOutstanding := some request
      nextHeartbeat := pass.nowMs + heartbeatIntervalMs }
  else
    match pass.nextRequest with
    | none => pure ()
    | some pending => startInitiatorRequest pass pending

/-- `take_initiator_outstanding` -/
def takeOutstanding (requestId : UInt64) : SessionM σ InitiatorOutstanding := do
  let session ← get
  match session.applicationOutstanding with
  | none => fail .pbmux
  | some outstanding =>
    if outstanding.requestId ≠ requestId then fail .pbmux
    else
      modify fun session => { session with applicationOutstanding := none }
      return outstanding

/-- Completes a request, or drops it when the response is not the expected one:
a dropped request tells its client that the outcome is unknown. -/
def complete (outstanding : InitiatorOutstanding) (fits : Bool) (response : InitiatorResponse) : SessionM σ Unit :=
  if fits then reply outstanding.response (.ok response)
  else do
    reply outstanding.response (.error .unknownAfterDisconnect)
    fail .pbmux

/-- `parse_authenticated_command`: an unknown type of command passes as an
envelope. -/
def parseAuthenticatedCommand (frame : Frame) : Except RuntimeError CommandPayload :=
  match parseCommandFrame frame with
  | .ok command => .ok command
  | .error error =>
    if error.kind ≠ .unsupportedMessage || frame.payload.length ≠ commandPayloadLen then .error .pbmux
    else .ok {
      commandType := frame.payload.getD 0 0
      leasePresent := frame.payload.getD 1 0
      leaseId := array 16 frame.payload 2
      commandSeq := readU64 frame.payload 18
      traceId := array 16 frame.payload 26
      providerPresent := frame.payload.getD 42 0
      providerId := frame.payload.getD 43 0
      payloadLen := readU16 frame.payload 44 }

def onCommand (pass : Pass σ) (frame : Frame) : SessionM σ Unit := do
  let command ← lift (parseAuthenticatedCommand frame)
  let ack ← call (pass.handler.command frame.header.requestId command)
  if ack.commandSeq ≠ command.commandSeq || !(ack.ackState = 2 || ack.ackState = 3) then fail .commandHandlerFailed
  else
    let session ← get
    let answer ← orFail .pbmux (buildCommandAckFrame ack frame.header.requestId session.sendSequence)
    countThenSend pass answer

def onCommandAck (initiator : Bool) (frame : Frame) : SessionM σ Unit := do
  let ack ← orFail .pbmux (parseCommandAckFrame frame)
  if initiator then
    let outstanding ← takeOutstanding frame.header.requestId
    complete outstanding (outstanding.expected = .command ack.commandSeq) (.command ack)

def onPing (pass : Pass σ) (frame : Frame) : SessionM σ Unit := do
  let session ← get
  countThenSend pass (controlFrame .pong frame.header.requestId session.sendSequence)

def onPong (frame : Frame) : SessionM σ Unit := do
  let session ← get
  if session.heartbeatOutstanding ≠ some frame.header.requestId then fail .pbmux
  else modify fun session => { session with heartbeatOutstanding := none }

def onControl (initiator : Bool) (pass : Pass σ) (frame : Frame) : SessionM σ Unit :=
  match ControlType.tryFrom frame.header.messageType with
  | some .ping => if !initiator then onPing pass frame else fail .pbmux
  | some .pong => if initiator then onPong frame else fail .pbmux
  | some .command => onCommand pass frame
  | some .commandAck => onCommandAck initiator frame
  | some .sessionClose => throw (.returns (.ok .lost))
  | _ => fail .pbmux

def onResourceRequest (pass : Pass σ) (frame : Frame) : SessionM σ Unit := do
  let request ← orFail .pbmux (parseResourceRequestFrame frame)
  let (kind, result) ← call (pass.handler.resource frame.header.requestId request)
  if kind ≠ resourceKindOf request then fail .commandHandlerFailed
  else
    let session ← get
    let answer ← orFail .commandHandlerFailed
      (buildResourceResultFrame kind result frame.header.requestId session.sendSequence)
    countThenSend pass answer

def onResourceResult (frame : Frame) : SessionM σ Unit := do
  let (kind, result) ← orFail .pbmux (parseResourceResultFrame frame)
  let outstanding ← takeOutstanding frame.header.requestId
  complete outstanding (outstanding.expected = .resource kind) (.resource result)

/-- `reassembler.accept(frame)`; an error also changes what is kept. -/
def reassemble (frame : Frame) : SessionM σ (Option (List UInt8)) := do
  let session ← get
  match session.reassembler.accept frame with
  | none => throw .panics
  | some (reassembler, answer) =>
    modify fun session => { session with reassembler }
    orFail .pbmux answer

def answerRemoteBuffer (pass : Pass σ) (requestId : UInt64) (request : RemoteBufferRequest) : SessionM σ Unit := do
  let (kind, result) ← callWhileAlive pass (pass.handler.remoteBuffer requestId request)
  if kind ≠ remoteBufferKindOf request then fail .commandHandlerFailed
  else
    let session ← get
    let answers ← orFail .commandHandlerFailed (buildRemoteBufferResultFrames kind result requestId session.sendSequence)
    advance answers.length
    sendFrames pass answers

def onRemoteBufferRequest (pass : Pass σ) (frame : Frame) : SessionM σ Unit := do
  orFail .pbmux (validateRemoteBufferRequestFragment frame)
  match ← reassemble frame with
  | none => pure ()
  | some payload =>
    let request ← orFail .pbmux (parseRemoteBufferRequestPayload frame.header.messageType payload)
    answerRemoteBuffer pass frame.header.requestId request

def onRemoteBufferResult (frame : Frame) : SessionM σ Unit := do
  orFail .pbmux (validateRemoteBufferResultFragment frame)
  let session ← get
  let outstanding ← someOrFail .pbmux session.applicationOutstanding
  if outstanding.requestId ≠ frame.header.requestId then fail .pbmux
  else
    match ← reassemble frame with
    | none => pure ()
    | some payload =>
      let kind ← someOrFail .pbmux (RemoteBufferResponseKind.tryFrom frame.header.messageType)
      let result ← orFail .pbmux (parseRemoteBufferResultPayload kind payload)
      let outstanding ← takeOutstanding frame.header.requestId
      complete outstanding (outstanding.expected = .remoteBuffer kind) (.remoteBuffer result)

def validResponseKind : ComputeRequest → ComputeResponse → Bool
  | .submit _, .status _ | .submit _, .result _ | .status _, .status _ | .status _, .result _ | .cancel _, .cancel _ => true
  | _, _ => false

def onComputeRequest (pass : Pass σ) (frame : Frame) : SessionM σ Unit := do
  let request ← orFail .pbmux (parseComputeRequestFrame frame)
  let response ← callWhileAlive pass (pass.handler.compute frame.header.requestId request)
  if !validResponseKind request response then fail .commandHandlerFailed
  else
    let session ← get
    let answer ← orFail .commandHandlerFailed
      (buildComputeResponseFrame response frame.header.requestId session.sendSequence)
    countThenSend pass answer

def onComputeResponse (frame : Frame) : SessionM σ Unit := do
  let response ← orFail .pbmux (parseComputeResponseFrame frame)
  let outstanding ← takeOutstanding frame.header.requestId
  complete outstanding (outstanding.expected.acceptsCompute response) (.compute response)

/-- The heartbeat only reaches counters and the client's view of the session. -/
def onMetrics (frame : Frame) : SessionM σ Unit :=
  if frame.header.messageType ≠ 1 then fail .pbmux
  else do
    let _ ← orFail .pbmux (parseHeartbeatFrame frame)

def onFrame (initiator : Bool) (pass : Pass σ) (frame : Frame) : SessionM σ Unit :=
  match frame.header.channel with
  | .control => onControl initiator pass frame
  | .resource => if initiator then onResourceResult frame else onResourceRequest pass frame
  | .remoteBuffer => if initiator then onRemoteBufferResult frame else onRemoteBufferRequest pass frame
  | .compute => if initiator then onComputeResponse frame else onComputeRequest pass frame
  | .metrics => onMetrics frame
  | .aiRpc => fail .pbmux

/-- The second half of a pass: a frame, or else the check for silence. -/
def receiveAuthenticated (initiator : Bool) (pass : Pass σ) : SessionM σ Unit := do
  match ← receiveFrame pass with
  | some frame =>
    acceptSequence frame
    orFail .pbmux (authorizeDispatch frame .committed)
    modify fun session => { session with lastAuthenticatedTraffic := pass.nowMs }
    onFrame initiator pass frame
  | none =>
    let session ← get
    if initiatorTransportExpired (pass.nowMs - session.lastAuthenticatedTraffic)
        (session.applicationOutstanding.map fun outstanding => pass.nowMs - outstanding.sentAt) then
      fail .sessionLost

/-- The first half of a pass. -/
def speak (peerId : Bytes32) (initiator : Bool) (pass : Pass σ) : SessionM σ Unit :=
  if initiator then initiate pass else respondHeartbeat peerId pass

def authenticatedPass (peerId : Bytes32) (initiator : Bool) (pass : Pass σ) : SessionM σ Unit := do
  onlyIf (initiator && pass.cancelled) (throw (.returns (.ok .cancelled)))
  speak peerId initiator pass
  receiveAuthenticated initiator pass

end Authenticated

section Pairing

def sendPairConfirm (pass : Pass σ) : SessionM σ Unit := do
  let request ← random pass.confirmReads
  let session ← get
  let frame ← orFail .pbmux (pairConfirmFrame request session.sendSequence)
  countThenSend pass frame

def confirmLocally (pass : Pass σ) : SessionM σ Unit := do
  let session ← get
  modify fun session => { session with actor := session.actor.localConfirm.2 }
  onlyIf session.actor.localConfirm.1.value.sendPairConfirm (sendPairConfirm pass)

def onPairingFrame (initiator : Bool) (pass : Pass σ) (frame : Frame) : SessionM σ Unit := do
  acceptSequence frame
  orFail .pbmux (authorizeDispatch frame .pairingControlOnly)
  let session ← get
  match ControlType.tryFrom frame.header.messageType with
  | some .pairConfirm =>
    orFail .pbmux (validatePairConfirm frame)
    modify fun session => { session with actor := session.actor.peerConfirm.2 }
  | some .ping =>
    if session.committed && !initiator then
      countThenSend pass (controlFrame .pong frame.header.requestId session.sendSequence)
      enterAuthenticated pass
  | some .pong =>
    if session.committed && initiator then
      if some frame.header.requestId ≠ session.pingRequest then fail .pbmux else enterAuthenticated pass
  | some .sessionClose => throw (.returns (.ok .lost))
  | _ => pure ()

/-- The first liveness check of an initiator that has committed its peer. -/
def announce (pass : Pass σ) : SessionM σ Unit := do
  let request ← random pass.requestReads
  let session ← get
  countThenSend pass (controlFrame .ping request session.sendSequence)
  modify fun session => { session with pingRequest := some request }

def commitTrust (initiator : Bool) (pass : Pass σ) : SessionM σ Unit := do
  let session ← get
  let actor := session.actor.beginTrustCommit.2
  modify fun session => { session with actor }
  if !session.actor.beginTrustCommit.1.value.persistCommit then pure ()
  else if !pass.commitPeer then fail .pairPersistFailed
  else
    match actor.persistResult .succeeded with
    | (.error _, _) => fail .pairPersistFailed
    | (.ok _, actor) =>
      modify fun session => { session with actor, committed := true }
      onlyIf initiator (announce pass)

/-- The timer of pairing and the user's answers that end it. -/
def checkPairing (pass : Pass σ) : SessionM σ Unit :=
  if pass.timedOut then fail .pairingTimeout
  else if pass.actions.cancel then throw (.returns (.ok .cancelled))
  else if pass.actions.mismatch then do
    lift pass.recordMismatch
    throw (.returns (.ok .rejected))
  else pure ()

def receivePairing (initiator : Bool) (pass : Pass σ) : SessionM σ Unit := do
  match ← receiveFrame pass with
  | some frame => onPairingFrame initiator pass frame
  | none => pure ()

/-- The loop is left for the authenticated loop inside `receivePairing`, and then
nothing of the pass remains. -/
def pairingPass (initiator : Bool) (pass : Pass σ) : SessionM σ Unit := do
  checkPairing pass
  onlyIf pass.actions.confirm (confirmLocally pass)
  receivePairing initiator pass
  let session ← get
  onlyIf (session.stage = .pairing && session.actor.state = .mutualConfirmed && !session.committed)
    (commitTrust initiator pass)

end Pairing

section Committed

/-- The first liveness check of a committed initiator. -/
def greet (pass : Pass σ) : SessionM σ Unit := do
  let request ← random pass.requestReads
  let session ← get
  sendThenCount pass (controlFrame .ping request session.sendSequence)
  modify fun session => { session with pingRequest := some request }

/-- The start of `run_committed_loop`. -/
def greetingPass (initiator : Bool) (pass : Pass σ) : SessionM σ Unit := do
  onlyIf initiator (greet pass)
  modify fun session => { session with stage := .awaiting }

def awaitingPass (initiator : Bool) (pass : Pass σ) : SessionM σ Unit := do
  match ← receiveFrame pass with
  | none => pure ()
  | some frame =>
    acceptSequence frame
    let session ← get
    if initiator then
      if frame.header.messageType = ControlType.pong.code && some frame.header.requestId = session.pingRequest then
        enterAuthenticated pass
      else fail .pbmux
    else if frame.header.messageType ≠ ControlType.ping.code then fail .pbmux
    else
      sendThenCount pass (controlFrame .pong frame.header.requestId session.sendSequence)
      enterAuthenticated pass

end Committed

/-- One pass of the loop a session is in. -/
def runPass (peerId : Bytes32) (initiator : Bool) (pass : Pass σ) : SessionM σ Unit := do
  match (← get).stage with
  | .pairing => pairingPass initiator pass
  | .greeting => greetingPass initiator pass
  | .awaiting => awaitingPass initiator pass
  | .authenticated => authenticatedPass peerId initiator pass

/-- What follows the loop: a request that is still outstanding is dropped, and
the handler of an authenticated session is told. -/
def leave (handler : Handler σ) (result : SessionResult) (session : Session σ) : SessionResult × Session σ :=
  if session.stage ≠ .authenticated then (result, session)
  else
    let dropped := session.applicationOutstanding.toList.map fun outstanding =>
      (outstanding.response, Except.error InitiatorClientError.unknownAfterDisconnect)
    let (answer, state) := handler.sessionEnded session.handler
    let session := { session with
      applicationOutstanding := none
      replies := session.replies ++ dropped
      handler := state }
    match answer with
    | .ok () => (result, session)
    | .error _ => (.error .commandHandlerFailed, session)

end Steps
end Session

/-- A session that runs, or how it ended. -/
inductive Running (σ : Type) where
  | running (session : Session σ)
  | returned (result : SessionResult) (session : Session σ)
  | panicked (session : Session σ)

namespace Running
variable {σ : Type} (peerId : Bytes32) (initiator : Bool)

def session : Running σ → Session σ
  | .running session | .returned _ session | .panicked session => session

def step (run : Running σ) (pass : Pass σ) : Running σ :=
  match run with
  | .running session =>
    match Session.runPass peerId initiator pass session with
    | .ok () session => .running session
    | .error (.returns result) session =>
      let (result, session) := session.leave pass.handler result
      .returned result session
    | .error .panics session => .panicked session
  | ended => ended

end Running
end PhoneBoost.Secure
