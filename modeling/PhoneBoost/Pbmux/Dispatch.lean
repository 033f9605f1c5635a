import PhoneBoost.Pbmux.FrameCodec

/-! Which frames a session takes at which stage, and the empty control frames of
pairing and of the heartbeat. -/

namespace PhoneBoost.Pbmux

/-- Sequence numbers stop at the last one instead of wrapping. -/
def nextSequence (sequence : UInt64) : Option UInt64 := (checkedAdd sequence.toNat 1).map UInt64.ofNat

structure SequenceTracker where
  expected : UInt64
deriving DecidableEq, Repr

namespace SequenceTracker

def default : SequenceTracker := ⟨0⟩

def accept (tracker : SequenceTracker) (received : UInt64) : Except PbmuxError SequenceTracker :=
  if received ≠ tracker.expected then .error (.session .sequenceMismatch)
  else
    match nextSequence tracker.expected with
    | none => .error (.session .sequenceMismatch)
    | some expected => .ok ⟨expected⟩

end SequenceTracker

def controlFrame (messageType : ControlType) (requestId sequence : UInt64) : Frame :=
  ⟨singleHeader .control (flagStart ||| flagEnd) messageType.code requestId sequence 0, []⟩

def pairConfirmFrame (requestId sequence : UInt64) : Except PbmuxError Frame :=
  if requestId = 0 then .error (.logical .pairConfirmUnexpected)
  else .ok (controlFrame .pairConfirm requestId sequence)

def validatePairConfirm (frame : Frame) : Except PbmuxError Unit :=
  if frame.header.channel ≠ .control
      || frame.header.messageType ≠ ControlType.pairConfirm.code
      || frame.header.flags ≠ flagStart ||| flagEnd
      || frame.header.requestId = 0
      || frame.header.fragmentIndex ≠ 0
      || frame.header.payloadLen ≠ 0
      || frame.header.logicalMessageLen ≠ 0
      || !frame.payload.isEmpty then
    .error (.logical .pairConfirmUnexpected)
  else .ok ()

inductive DispatchMode where
  | pairingControlOnly | committed
deriving DecidableEq, Repr

/-- The frames that only pairing may exchange. -/
def isPairConfirm (frame : Frame) : Bool :=
  frame.header.channel = .control && frame.header.messageType = ControlType.pairConfirm.code

def authorizeDispatch (frame : Frame) (mode : DispatchMode) : Except PbmuxError Unit :=
  if isPairConfirm frame then
    if mode = .committed then .error (.logical .pairConfirmUnexpected) else validatePairConfirm frame
  else if mode = .committed then .ok ()
  else
    let allowed : Bool := frame.header.channel = .control &&
      match ControlType.tryFrom frame.header.messageType with
      | some .ping | some .pong | some .error | some .sessionClose => true
      | _ => false
    if allowed then .ok () else .error (.logical .pairingNotCommitted)

end PhoneBoost.Pbmux
