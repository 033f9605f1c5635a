import Mathlib.Logic.Function.Basic
import PhoneBoost.Lib.Machine
import PhoneBoost.Pbmux.Dispatch
import PhoneBoost.Secure.Runtime

/-! The threads of one endpoint. Every connection runs a session in a thread of
its own, `begin_pairing` runs in the thread of its caller, and all of them share
one runtime. A thread is a program counter between two critical sections; the
scheduler picks the thread that moves next. The user's answers to the displayed
digits are single critical sections and need no thread. -/

namespace PhoneBoost.Secure
open Pbmux

def SecureRuntime.setPairingState (runtime : SecureRuntime) (state : PairingState) : SecureRuntime :=
  { runtime with inner := runtime.inner.setPairingState state }

/-- The local variables of `run_pairing_loop`. -/
structure PairingLoop where
  remote : Bytes32
  actor : PairingActor
  sendSequence : UInt64
  receiveSequence : SequenceTracker
  committed : Bool
  commitPingRequest : Option UInt64
deriving DecidableEq, Repr

def PairingLoop.new (remote : Bytes32) : PairingLoop where
  remote
  actor := .new
  sendSequence := 0
  receiveSequence := .default
  committed := false
  commitPingRequest := none

inductive Program where
  | beginPairing | initiatorSession | responderSession
deriving DecidableEq, Repr

def Program.initiator (program : Program) : Bool := program = .initiatorSession

abbrev SessionResult := Except RuntimeError SessionOutcome

/-- Where a thread stands. `closing` holds the result of a session whose guard
has not been dropped yet. -/
inductive Pc where
  | idle | killed
  | asking | marking | returned (result : Except RuntimeError Unit)
  | opening | waiting | admitting
  | beginning (peer : Option PeerRecord) (xx : Bool)
  | handshaking (peer : Option PeerRecord) (xx : Bool)
  | polling (loop : PairingLoop) | cancelling | rejecting
  | confirming (loop : PairingLoop) | sending (loop : PairingLoop) | receiving (loop : PairingLoop)
  | deciding (loop : PairingLoop) | committing (loop : PairingLoop) | announcing (loop : PairingLoop)
  | greeting (remote : Bytes32) | awaiting (remote : Bytes32) (request : Option UInt64)
  | authenticating (remote : Bytes32) | authenticated (session : VerifiedPeerSession)
  | closing (result : SessionResult) | finished (result : SessionResult)

/-- The functions that read the wall clock before they take a lock. -/
def Pc.readsClock : Pc → Bool
  | .admitting | .rejecting | .committing _ | .authenticating _ => true
  | _ => false

/-- What a step finds outside the program: the kernel's answers to a write, the
timer of the pairing loop, the length class of the first record, the outcome of
the Noise handshake, random reads, the socket, and how the loop of an
authenticated session goes on: its frames, and once it ends, the error or whether
the client cancelled it. -/
structure Outside where
  calls : WriteCalls
  timedOut : Bool
  firstRecordXx : Except RuntimeError Bool
  handshake : Except RuntimeError (Bytes32 × String)
  configured : Except RuntimeError Unit
  reads64 : List (Option UInt64)
  reads : Entropy
  sent : Except RuntimeError Unit
  received : Except RuntimeError (Option Frame)
  emitted : List Frame
  ended : Option (Except RuntimeError Bool)

/-- What the steps of a thread leave in the log of its endpoint. -/
inductive Action where
  | admission (nowMs : Option UInt64) (answer : Except RuntimeError Unit)
  | mismatchRecorded (nowMs : Option UInt64) (count : UInt8)
  | began (xx : Bool) (peers : List PeerRecord) (files : Directory)
  | handshaken (remote : Bytes32)
  | confirmDispatched
  | sent (frame : Frame)
  | received (frame : Frame)
  | commitCalled (key : Bytes32)
  | minted (remote : Bytes32) (session : VerifiedPeerSession)
  | finished (result : SessionResult)

abbrev Moved := SecureRuntime × Pc × List Action

section Steps
variable (foreign : Foreign) (program : Program) (runtime : SecureRuntime) (nowMs : Option UInt64) (outside : Outside)

/-- Sends one frame, which takes the next sequence number before it is written. -/
def sendFrame (sequence : UInt64) (frame : Frame) (next : UInt64 → Pc) : Moved :=
  match nextSequence sequence with
  | none => (runtime, .closing (.error .pbmux), [])
  | some sequence =>
    match outside.sent with
    | .error error => (runtime, .closing (.error error), [.sent frame])
    | .ok () => (runtime, next sequence, [.sent frame])

def openSession : Moved :=
  if program.initiator then
    match runtime.oneCommittedPeer with
    | .error error => (runtime, .finished (.error error), [])
    | .ok none => (runtime, .waiting, [])
    | .ok (some peer) => (runtime, .beginning (some peer) false, [])
  else
    match outside.firstRecordXx with
    | .error error => (runtime, .finished (.error error), [])
    | .ok true => (runtime, .admitting, [])
    | .ok false => (runtime, .beginning none false, [])

def checkGuard : Moved :=
  match runtime.ensureGuardAdmits foreign nowMs outside.calls with
  | (.error error, runtime) =>
    (runtime, if program = .beginPairing then .returned (.error error) else .finished (.error error),
      [.admission nowMs (.error error)])
  | (.ok (), runtime) =>
    (runtime, if program = .beginPairing then .marking else .beginning none true, [.admission nowMs (.ok ())])

def enterSession (peer : Option PeerRecord) (xx : Bool) : Moved :=
  match runtime.inner.beginSession xx with
  | (.error error, inner) => ({ runtime with inner }, .finished (.error error), [])
  | (.ok (), inner) => ({ runtime with inner }, .handshaking peer xx, [.began xx runtime.peers runtime.store.peers])

/-- `initiator_xx`, `responder_xx`, `initiator_ik` and `responder_ik`. The digits
are shown before the transport is set up, which may still fail. -/
def shakeHands (peer : Option PeerRecord) (xx : Bool) : Moved :=
  match outside.handshake with
  | .error error => (runtime, .closing (.error error), [])
  | .ok (remote, sas) =>
    if xx then
      let runtime := { runtime with inner := runtime.inner.setSas sas }
      match outside.configured with
      | .error error => (runtime, .closing (.error error), [.handshaken remote])
      | .ok () => (runtime, .polling (.new remote), [.handshaken remote])
    else
      let refusal : Option RuntimeError :=
        match peer with
        | some peer => if remote ≠ peer.staticPublicKey then some .peerKeyMismatch else none
        | none => if runtime.peerIsCommitted remote then none else some .unknownInitiatorIkRejected
      match refusal, outside.configured with
      | some error, _ => (runtime, .closing (.error error), [])
      | none, .error error => (runtime, .closing (.error error), [.handshaken remote])
      | none, .ok () => (runtime, .greeting remote, [.handshaken remote])

/-- The head of the loop: its timer, then the user's answers. -/
def poll (loop : PairingLoop) : Moved :=
  if outside.timedOut then (runtime.setPairingState .pairingFailed, .closing (.error .pairingTimeout), [])
  else
    let (actions, inner) := runtime.inner.takeActions
    let runtime := { runtime with inner }
    if actions.cancel then (runtime, .cancelling, [])
    else if actions.mismatch then (runtime, .rejecting, [])
    else if actions.confirm then (runtime, .confirming loop, [.confirmDispatched])
    else (runtime, .receiving loop, [])

def reject : Moved :=
  match runtime.recordMismatch foreign nowMs outside.calls with
  | (.error error, runtime) => (runtime, .closing (.error error), [])
  | (.ok (), runtime) =>
    (runtime, .closing (.ok .rejected), [.mismatchRecorded nowMs runtime.guard.mismatchCount])

def confirm (loop : PairingLoop) : Moved :=
  let (transition, actor) := loop.actor.localConfirm
  let loop := { loop with actor }
  (runtime.setPairingState transition.value.state,
    if transition.value.sendPairConfirm then .sending loop else .receiving loop, [])

def sendConfirm (loop : PairingLoop) : Moved :=
  match randomNonzeroU64 randomAttempts outside.reads64 with
  | none => (runtime, .closing (.error .pairPersistFailed), [])
  | some request =>
    match pairConfirmFrame request loop.sendSequence with
    | .error _ => (runtime, .closing (.error .pbmux), [])
    | .ok frame =>
      sendFrame runtime outside loop.sendSequence frame fun sendSequence => .receiving { loop with sendSequence }

def dispatch (loop : PairingLoop) (frame : Frame) : Moved :=
  match ControlType.tryFrom frame.header.messageType with
  | some .pairConfirm =>
    match validatePairConfirm frame with
    | .error _ => (runtime, .closing (.error .pbmux), [])
    | .ok () =>
      let (transition, actor) := loop.actor.peerConfirm
      (runtime.setPairingState transition.value.state, .deciding { loop with actor }, [])
  | some .ping =>
    if loop.committed && !program.initiator then
      sendFrame runtime outside loop.sendSequence (controlFrame .pong frame.header.requestId loop.sendSequence)
        fun _ => .authenticating loop.remote
    else (runtime, .deciding loop, [])
  | some .pong =>
    if loop.committed && program.initiator then
      if some frame.header.requestId ≠ loop.commitPingRequest then (runtime, .closing (.error .pbmux), [])
      else (runtime, .authenticating loop.remote, [])
    else (runtime, .deciding loop, [])
  | some .sessionClose => (runtime, .closing (.ok .lost), [])
  | _ => (runtime, .deciding loop, [])

def receiveFrame (loop : PairingLoop) (frame : Frame) : Moved :=
  match loop.receiveSequence.accept frame.header.sequence with
  | .error _ => (runtime, .closing (.error .pbmux), [])
  | .ok receiveSequence =>
    match authorizeDispatch frame .pairingControlOnly with
    | .error _ => (runtime, .closing (.error .pbmux), [])
    | .ok () => dispatch program runtime outside { loop with receiveSequence } frame

/-- What a received frame leads to, with the frame in the log. -/
def Moved.after (frame : Frame) (moved : Moved) : Moved := (moved.1, moved.2.1, .received frame :: moved.2.2)

def receive (loop : PairingLoop) : Moved :=
  match outside.received with
  | .error error => (runtime, .closing (.error error), [])
  | .ok none => (runtime, .deciding loop, [])
  | .ok (some frame) => (receiveFrame program runtime outside loop frame).after frame

def decideCommit (loop : PairingLoop) : Moved :=
  if loop.actor.state = .mutualConfirmed && !loop.committed then
    let (transition, actor) := loop.actor.beginTrustCommit
    let loop := { loop with actor }
    (runtime.setPairingState transition.value.state,
      if transition.value.persistCommit then .committing loop else .polling loop, [])
  else (runtime, .polling loop, [])

def commit (loop : PairingLoop) : Moved :=
  match runtime.commitPeer foreign loop.remote nowMs outside.calls with
  | (.error _, runtime) =>
    (runtime.setPairingState .pairingFailed, .closing (.error .pairPersistFailed), [.commitCalled loop.remote])
  | (.ok (), runtime) =>
    match loop.actor.persistResult .succeeded with
    | (.error _, _) => (runtime, .closing (.error .pairPersistFailed), [.commitCalled loop.remote])
    | (.ok _, actor) => (runtime, .announcing { loop with actor }, [.commitCalled loop.remote])

def announce (loop : PairingLoop) : Moved :=
  let runtime := runtime.setPairingState .paired
  let loop := { loop with committed := true }
  if program.initiator then
    match randomNonzeroU64 randomAttempts outside.reads64 with
    | none => (runtime, .closing (.error .pairPersistFailed), [])
    | some request =>
      sendFrame runtime outside loop.sendSequence (controlFrame .ping request loop.sendSequence)
        fun sendSequence => .polling { loop with sendSequence, commitPingRequest := some request }
  else (runtime, .polling loop, [])

/-- The start of `run_committed_loop`: the initiator speaks first. -/
def greet (remote : Bytes32) : Moved :=
  if program.initiator then
    match randomNonzeroU64 randomAttempts outside.reads64 with
    | none => (runtime, .closing (.error .pairPersistFailed), [])
    | some request =>
      sendFrame runtime outside 0 (controlFrame .ping request 0) fun _ => .awaiting remote (some request)
  else (runtime, .awaiting remote none, [])

def welcome (remote : Bytes32) (request : Option UInt64) (frame : Frame) : Moved :=
  match SequenceTracker.default.accept frame.header.sequence with
  | .error _ => (runtime, .closing (.error .pbmux), [])
  | .ok _ =>
    if program.initiator then
      if frame.header.messageType = ControlType.pong.code && some frame.header.requestId = request then
        (runtime, .authenticating remote, [])
      else (runtime, .closing (.error .pbmux), [])
    else if frame.header.messageType ≠ ControlType.ping.code then (runtime, .closing (.error .pbmux), [])
    else
      sendFrame runtime outside 0 (controlFrame .pong frame.header.requestId 0) fun _ => .authenticating remote

def await (remote : Bytes32) (request : Option UInt64) : Moved :=
  match outside.received with
  | .error error => (runtime, .closing (.error error), [])
  | .ok none => (runtime, .awaiting remote request, [])
  | .ok (some frame) => (welcome program runtime outside remote request frame).after frame

def authenticate (remote : Bytes32) : Moved :=
  match runtime.markAuthenticated foreign remote nowMs outside.calls outside.reads with
  | (.error error, runtime) => (runtime, .closing (.error error), [])
  | (.ok session, runtime) => (runtime, .authenticated session, [.minted remote session])

/-- The loop of an authenticated session touches no field of the runtime kept
here. Of its frames only this matters: none is a `PAIR_CONFIRM`. -/
def serve (session : VerifiedPeerSession) : Moved :=
  let frames := (outside.emitted.filter fun frame => !isPairConfirm frame).map Action.sent
  match outside.ended with
  | none => (runtime, .authenticated session, frames)
  | some (.error error) => (runtime, .closing (.error error), frames)
  | some (.ok cancelled) => (runtime, .closing (.ok (if cancelled then .cancelled else .lost)), frames)

def leave (result : SessionResult) : Moved :=
  ({ runtime with inner := runtime.inner.endSession runtime.hasCommittedPeer }, .finished result, [.finished result])

def Pc.step : Pc → Moved
  | .idle => (runtime, .idle, [])
  | .killed => (runtime, .killed, [])
  | .asking => (runtime, if runtime.hasCommittedPeer then .returned (.ok ()) else .admitting, [])
  | .marking => ({ runtime with inner := runtime.inner.requestBegin }, .returned (.ok ()), [])
  | .returned result => (runtime, .returned result, [])
  | .opening => openSession program runtime outside
  | .waiting => (runtime, if runtime.inner.beginRequested then .admitting else .waiting, [])
  | .admitting => checkGuard foreign program runtime nowMs outside
  | .beginning peer xx => enterSession runtime peer xx
  | .handshaking peer xx => shakeHands runtime outside peer xx
  | .polling loop => poll runtime outside loop
  | .cancelling => (runtime.setPairingState .unpaired, .closing (.ok .cancelled), [])
  | .rejecting => reject foreign runtime nowMs outside
  | .confirming loop => confirm runtime loop
  | .sending loop => sendConfirm runtime outside loop
  | .receiving loop => receive program runtime outside loop
  | .deciding loop => decideCommit runtime loop
  | .committing loop => commit foreign runtime nowMs outside loop
  | .announcing loop => announce program runtime outside loop
  | .greeting remote => greet program runtime outside remote
  | .awaiting remote request => await program runtime outside remote request
  | .authenticating remote => authenticate foreign runtime nowMs outside remote
  | .authenticated session => serve runtime outside session
  | .closing result => leave runtime result
  | .finished result => (runtime, .finished result, [])

end Steps

/-- A thread with the clock reading that its current function took. -/
structure Thread where
  program : Program
  pc : Pc
  reading : Option (Option UInt64)

namespace Thread

def idle : Thread := ⟨.beginPairing, .idle, none⟩

def start (program : Program) : Thread := ⟨program, if program = .beginPairing then .asking else .opening, none⟩

/-- A thread that reads the clock does so before it takes the lock. -/
def ready (thread : Thread) : Bool := !thread.pc.readsClock || thread.reading.isSome

def clock (thread : Thread) : Option UInt64 := thread.reading.join

/-- Threads do not outlive their process. -/
def kill (thread : Thread) : Thread :=
  match thread.pc with
  | .idle => thread
  | _ => { thread with pc := .killed, reading := none }

end Thread

inductive Process where
  | down (store : StateStore)
  | up (runtime : SecureRuntime)

def Process.store : Process → StateStore
  | .down store => store
  | .up runtime => runtime.store

inductive Event where
  | confirmAccepted
  | restarted
  | thread (id : Nat) (action : Action)

structure Endpoint where
  role : EndpointRole
  process : Process
  threads : Nat → Thread
  log : List Event

inductive Label where
  | start (id : Nat) (program : Program)
  | readClock (id : Nat) (nowMs : Option UInt64)
  | step (id : Nat) (outside : Outside)
  | localConfirm | cancel | mismatch
  | restart (processId : Nat) (start : SecureRuntime.Start)

/-- The wall clock reading that a label brings. -/
def Label.reading : Label → Option UInt64
  | .readClock _ nowMs => nowMs
  | .restart _ booted => booted.nowMs
  | _ => none

namespace Endpoint
variable (foreign : Foreign) (endpoint : Endpoint)

def update (id : Nat) (thread : Thread) : Nat → Thread := Function.update endpoint.threads id thread

def setInner (runtime : SecureRuntime) (inner : RuntimeInner) : Endpoint :=
  { endpoint with process := .up { runtime with inner } }

/-- One step of a thread, with its actions added to the log. -/
def stepThread (runtime : SecureRuntime) (id : Nat) (outside : Outside) : Endpoint :=
  let thread := endpoint.threads id
  if thread.ready then
    let (runtime, pc, actions) := thread.pc.step foreign thread.program runtime thread.clock outside
    { endpoint with
      process := .up runtime
      threads := endpoint.update id { thread with pc, reading := none }
      log := (actions.map (Event.thread id)).reverse ++ endpoint.log }
  else endpoint

def restart (processId : Nat) (start : SecureRuntime.Start) : Endpoint :=
  let store := { endpoint.process.store with processId, tempSequence := 1 }
  let process : Process :=
    match SecureRuntime.initializeRuntime foreign endpoint.role store start with
    | (.error _, store) => .down store
    | (.ok runtime, _) => .up runtime
  { endpoint with
    process
    threads := fun id => (endpoint.threads id).kill
    log := .restarted :: endpoint.log }

def act (runtime : SecureRuntime) : Label → Endpoint
  | .start id program =>
    match (endpoint.threads id).pc with
    | .idle => { endpoint with threads := endpoint.update id (.start program) }
    | _ => endpoint
  | .readClock id nowMs =>
    let thread := endpoint.threads id
    if thread.pc.readsClock && thread.reading.isNone then
      { endpoint with threads := endpoint.update id { thread with reading := some nowMs } }
    else endpoint
  | .step id outside => endpoint.stepThread foreign runtime id outside
  | .localConfirm =>
    let (answer, inner) := runtime.inner.localConfirm
    let endpoint := endpoint.setInner runtime inner
    if answer = .accepted then { endpoint with log := .confirmAccepted :: endpoint.log } else endpoint
  | .cancel => endpoint.setInner runtime runtime.inner.cancel.2
  | .mismatch => endpoint.setInner runtime runtime.inner.mismatch.2
  | .restart processId start => endpoint.restart foreign processId start

/-- Without a process there is nothing to do but to start one. -/
def step (label : Label) : Endpoint :=
  match endpoint.process, label with
  | .up runtime, label => endpoint.act foreign runtime label
  | .down _, .restart processId start => endpoint.restart foreign processId start
  | .down _, _ => endpoint

def run (labels : List Label) : Endpoint := Machine.run (step foreign) endpoint labels

end Endpoint

end PhoneBoost.Secure
