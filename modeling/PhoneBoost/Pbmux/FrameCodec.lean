import PhoneBoost.Lib.Wire
import PhoneBoost.Pbmux.Frame

/-! The frame codec: a fixed header of forty bytes in big-endian order, then the
payload. -/

namespace PhoneBoost.Pbmux

namespace Channel

def code : Channel → UInt8
  | .control => 0
  | .resource => 1
  | .remoteBuffer => 2
  | .compute => 3
  | .aiRpc => 4
  | .metrics => 5

def tryFrom (value : UInt8) : Option Channel :=
  if value = 0 then some .control
  else if value = 1 then some .resource
  else if value = 2 then some .remoteBuffer
  else if value = 3 then some .compute
  else if value = 4 then some .aiRpc
  else if value = 5 then some .metrics
  else none

end Channel

inductive ControlType where
  | ping | pong | error | capabilities | command | commandAck | sessionClose | pairConfirm
deriving DecidableEq, Repr

namespace ControlType

def code : ControlType → UInt16
  | .ping => 1
  | .pong => 2
  | .error => 3
  | .capabilities => 4
  | .command => 5
  | .commandAck => 6
  | .sessionClose => 7
  | .pairConfirm => 8

def tryFrom (value : UInt16) : Option ControlType :=
  if value = 1 then some .ping
  else if value = 2 then some .pong
  else if value = 3 then some .error
  else if value = 4 then some .capabilities
  else if value = 5 then some .command
  else if value = 6 then some .commandAck
  else if value = 7 then some .sessionClose
  else if value = 8 then some .pairConfirm
  else none

end ControlType

inductive ComputeType where
  | submit | status | result | cancel
deriving DecidableEq, Repr

def ComputeType.tryFrom (value : UInt16) : Option ComputeType :=
  if value = 1 then some .submit
  else if value = 2 then some .status
  else if value = 3 then some .result
  else if value = 4 then some .cancel
  else none

def isKnownMessageType (channel : Channel) (messageType : UInt16) : Bool :=
  match channel with
  | .control => (ControlType.tryFrom messageType).isSome
  | .resource => 1 ≤ messageType.toNat && messageType.toNat ≤ 5
  | .remoteBuffer => 1 ≤ messageType.toNat && messageType.toNat ≤ 8
  | .compute => (ComputeType.tryFrom messageType).isSome
  | .aiRpc => 1 ≤ messageType.toNat && messageType.toNat ≤ 4
  | .metrics => 1 ≤ messageType.toNat && messageType.toNat ≤ 2

def validateFragmentFields (header : Header) : Except PbmuxError Unit :=
  let start := header.flags &&& flagStart != 0
  let last := header.flags &&& flagEnd != 0
  let logicalLen := header.logicalMessageLen.toNat
  let payloadLen := header.payloadLen.toNat
  if maxLogicalMessage < logicalLen then .error (.logical .logicalLengthInvalid)
  else if start then
    if header.fragmentIndex ≠ 0 || logicalLen < payloadLen then .error (.logical .fragmentInvalid)
    else if last && logicalLen ≠ payloadLen then .error (.logical .logicalLengthInvalid)
    else if !last && logicalLen ≤ payloadLen then .error (.logical .logicalLengthInvalid)
    else .ok ()
  else if header.fragmentIndex = 0 || header.logicalMessageLen ≠ 0 then .error (.logical .fragmentInvalid)
  else .ok ()

def encode (frame : Frame) : Except PbmuxError (List UInt8) :=
  if maxPbmuxPayload < frame.payload.length then .error (.session .frameTooLarge)
  else if frame.header.payloadLen.toNat ≠ frame.payload.length then .error (.session .payloadLengthMismatch)
  else if frame.header.flags &&& ~~~knownFlags ≠ 0 then .error (.session .reservedFlags)
  else if !isKnownMessageType frame.header.channel frame.header.messageType then .error (.logical .unsupportedMessage)
  else
    match validateFragmentFields frame.header with
    | .error error => .error error
    | .ok () =>
      .ok (pbmuxMagic ++ [pbmuxVersion, frame.header.channel.code]
        ++ toBeBytes 2 frame.header.flags.toNat
        ++ toBeBytes 2 frame.header.messageType.toNat
        ++ toBeBytes 2 pbmuxHeaderLen
        ++ toBeBytes 8 frame.header.requestId.toNat
        ++ toBeBytes 8 frame.header.sequence.toNat
        ++ toBeBytes 4 frame.header.fragmentIndex.toNat
        ++ toBeBytes 4 frame.header.payloadLen.toNat
        ++ toBeBytes 4 frame.header.logicalMessageLen.toNat
        ++ frame.payload)

/-- An indexed read of `width` bytes: out of bounds the source panics. -/
def within (width : Nat) (read : List UInt8 → Nat → α) (bytes : List UInt8) (offset : Nat) : Option α :=
  if offset + width ≤ bytes.length then some (read bytes offset) else none

/-- `none` is a panic of the source. -/
def decode (bytes : List UInt8) : Option (Except PbmuxError Frame) := do
  if bytes.length < pbmuxHeaderLen then return .error (.session .headerTooShort)
  if maxPbmuxPlaintext < bytes.length then return .error (.session .frameTooLarge)
  let magic ← within 4 (fun bytes offset => slice bytes offset (offset + 4)) bytes 0
  if magic ≠ pbmuxMagic then return .error (.session .invalidMagic)
  let version ← within 1 (fun bytes offset => bytes.getD offset 0) bytes 4
  if version ≠ pbmuxVersion then return .error (.session .invalidVersion)
  let channelCode ← within 1 (fun bytes offset => bytes.getD offset 0) bytes 5
  match Channel.tryFrom channelCode with
  | none => return .error (.session .unknownChannel)
  | some channel =>
    let flags ← within 2 readU16 bytes 6
    if flags &&& ~~~knownFlags ≠ 0 then return .error (.session .reservedFlags)
    let headerLen ← within 2 readU16 bytes 10
    if headerLen.toNat ≠ pbmuxHeaderLen then return .error (.session .invalidHeaderLength)
    let payloadLen ← within 4 readU32 bytes 32
    if maxPbmuxPayload < payloadLen.toNat || pbmuxHeaderLen + payloadLen.toNat ≠ bytes.length then
      return .error (.session .payloadLengthMismatch)
    let messageType ← within 2 readU16 bytes 8
    if !isKnownMessageType channel messageType then return .error (.logical .unsupportedMessage)
    let requestId ← within 8 readU64 bytes 12
    let sequence ← within 8 readU64 bytes 20
    let fragmentIndex ← within 4 readU32 bytes 28
    let logicalMessageLen ← within 4 readU32 bytes 36
    let header : Header :=
      { channel, flags, messageType, requestId, sequence, fragmentIndex, payloadLen, logicalMessageLen }
    match validateFragmentFields header with
    | .error error => return .error error
    | .ok () =>
      let payload ← within 0 (fun bytes offset => bytes.drop offset) bytes pbmuxHeaderLen
      return .ok ⟨header, payload⟩

/-- The header of a message that fits in one frame. -/
def singleHeader (channel : Channel) (flags messageType : UInt16) (requestId sequence : UInt64) (len : Nat) : Header where
  channel
  flags
  messageType
  requestId
  sequence
  fragmentIndex := 0
  payloadLen := UInt32.ofNat len
  logicalMessageLen := UInt32.ofNat len

/-- What every parser of a one-frame message checks of the frame before it looks
at the message type, the request number and the payload. -/
def singleProfile (channel : Channel) (flags : UInt16) (len : Nat) (frame : Frame) : Bool :=
  frame.header.channel = channel
    && frame.header.flags = flags
    && frame.header.fragmentIndex = 0
    && frame.header.payloadLen = UInt32.ofNat len
    && frame.header.logicalMessageLen = UInt32.ofNat len
    && frame.payload.length = len

end PhoneBoost.Pbmux
