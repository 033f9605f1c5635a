import PhoneBoost.Lib.Table
import PhoneBoost.Pbmux.FrameCodec

/-! Reassembly of logical messages from frames. A partial message is charged
against the quotas of its channel and of the session until it completes or is
aborted. -/

namespace PhoneBoost.Pbmux
open Keyed
open Wire (okOr)

def maxReassemblyPerChannel : Nat := 8 * 1024 * 1024
def maxReassemblyPerSession : Nat := 16 * 1024 * 1024
def maxInflightControl : Nat := 64
def maxInflightPerDataChannel : Nat := 16

structure AdmissionTicket where
  channel : Channel
  bytes : Nat
deriving DecidableEq, Repr

/-- The arrays of the source have one cell for each channel. -/
structure ReassemblyAccounting where
  channelBytes : Channel → Nat
  channelCount : Channel → Nat
  sessionBytes : Nat

def checkedSub (a b : Nat) : Option Nat := if b ≤ a then some (a - b) else none

def countLimit (channel : Channel) : Nat :=
  if channel = .control then maxInflightControl else maxInflightPerDataChannel

def overQuota : PbmuxError := .logical .reassemblyQuota

namespace ReassemblyAccounting

def default : ReassemblyAccounting := ⟨fun _ => 0, fun _ => 0, 0⟩

def tryStart (accounting : ReassemblyAccounting) (channel : Channel) (logicalBytes : Nat) :
    Except PbmuxError (ReassemblyAccounting × AdmissionTicket) :=
  if maxLogicalMessage < logicalBytes then .error (.logical .logicalLengthInvalid)
  else do
    let channelAfter ← okOr (checkedAdd (accounting.channelBytes channel) logicalBytes) overQuota
    let sessionAfter ← okOr (checkedAdd accounting.sessionBytes logicalBytes) overQuota
    if countLimit channel ≤ accounting.channelCount channel || maxReassemblyPerChannel < channelAfter
        || maxReassemblyPerSession < sessionAfter then .error overQuota
    else
      let charged : ReassemblyAccounting := {
        channelBytes := Function.update accounting.channelBytes channel channelAfter
        channelCount := Function.update accounting.channelCount channel (accounting.channelCount channel + 1)
        sessionBytes := sessionAfter }
      return (charged, { channel, bytes := logicalBytes })

/-- `none` is a subtraction that underflows. -/
def finish (accounting : ReassemblyAccounting) (ticket : AdmissionTicket) : Option ReassemblyAccounting := do
  let channelAfter ← checkedSub (accounting.channelBytes ticket.channel) ticket.bytes
  let countAfter ← checkedSub (accounting.channelCount ticket.channel) 1
  let sessionAfter ← checkedSub accounting.sessionBytes ticket.bytes
  return {
    channelBytes := Function.update accounting.channelBytes ticket.channel channelAfter
    channelCount := Function.update accounting.channelCount ticket.channel countAfter
    sessionBytes := sessionAfter }

end ReassemblyAccounting

structure PartialMessage where
  ticket : AdmissionTicket
  messageType : UInt16
  ackRequired : Bool
  expectedFragment : UInt32
  expectedLen : Nat
  payload : List UInt8
deriving DecidableEq, Repr

abbrev MessageKey := Channel × UInt64

structure Reassembler where
  accounting : ReassemblyAccounting
  partials : Table MessageKey PartialMessage

def Frame.key (frame : Frame) : MessageKey := (frame.header.channel, frame.header.requestId)

namespace Reassembler

def default : Reassembler := ⟨.default, .empty⟩

/-- A call returns the next state and its answer; `none` is a panic. -/
abbrev Outcome := Option (Reassembler × Except PbmuxError (Option (List UInt8)))

def abortPartial (state : Reassembler) (key : MessageKey) (kind : PbmuxErrorKind) : Outcome :=
  match state.partials.get? key with
  | none => some (state, .error (.logical kind))
  | some message => do
    let accounting ← state.accounting.finish message.ticket
    return (⟨accounting, state.partials.erase key⟩, .error (.logical kind))

def opening (ticket : AdmissionTicket) (frame : Frame) : PartialMessage where
  ticket
  messageType := frame.header.messageType
  ackRequired := frame.header.flags &&& flagAckRequired != 0
  expectedFragment := 1
  expectedLen := frame.header.logicalMessageLen.toNat
  payload := frame.payload

def fragmentMatches (message : PartialMessage) (frame : Frame) : Bool :=
  frame.header.messageType = message.messageType
    && frame.header.flags &&& flagAckRequired = (if message.ackRequired then 1 else 0) * flagAckRequired
    && frame.header.fragmentIndex = message.expectedFragment
    && message.payload.length + frame.payload.length ≤ message.expectedLen

/-- The index of the next fragment is a `u32` that wraps. -/
def extended (message : PartialMessage) (frame : Frame) : PartialMessage :=
  { message with
    payload := message.payload ++ frame.payload
    expectedFragment := message.expectedFragment + 1 }

def accept (state : Reassembler) (frame : Frame) : Outcome :=
  let start := frame.header.flags &&& flagStart != 0
  let last := frame.header.flags &&& flagEnd != 0
  if start && last then
    if (state.partials.get? frame.key).isSome then state.abortPartial frame.key .fragmentInvalid
    else some (state, .ok (some frame.payload))
  else if start then
    if (state.partials.get? frame.key).isSome then state.abortPartial frame.key .fragmentInvalid
    else
      match state.accounting.tryStart frame.header.channel frame.header.logicalMessageLen.toNat with
      | .error error => some (state, .error error)
      | .ok (accounting, ticket) =>
        some (⟨accounting, state.partials.insert frame.key (opening ticket frame)⟩, .ok none)
  else
    match state.partials.get? frame.key with
    | none => some (state, .error (.logical .reassemblyMissing))
    | some message =>
      if !fragmentMatches message frame then state.abortPartial frame.key .fragmentInvalid
      else
        let message := extended message frame
        let partials := state.partials.modify frame.key fun _ => message
        if !last then some (⟨state.accounting, partials⟩, .ok none)
        else if message.payload.length ≠ message.expectedLen then
          abortPartial ⟨state.accounting, partials⟩ frame.key .logicalLengthInvalid
        else do
          let accounting ← state.accounting.finish message.ticket
          return (⟨accounting, partials.erase frame.key⟩, .ok (some message.payload))

/-- The state after some frames, whatever each of them is answered. -/
def acceptAll (state : Reassembler) : List Frame → Option Reassembler
  | [] => some state
  | frame :: rest => do
    let (state, _) ← state.accept frame
    state.acceptAll rest

end Reassembler

end PhoneBoost.Pbmux
