import Mathlib.Algebra.Order.Ring.Nat
import PhoneBoost.Types

/-! Frames of the multiplexed protocol and the byte readers that the typed
payload codecs share. -/

namespace PhoneBoost.Pbmux

inductive Channel where
  | control | resource | remoteBuffer | compute | aiRpc | metrics
deriving DecidableEq, Repr

def flagStart : UInt16 := 0x0001
def flagEnd : UInt16 := 0x0002
def flagAckRequired : UInt16 := 0x0004
def flagError : UInt16 := 0x0008
def knownFlags : UInt16 := flagStart ||| flagEnd ||| flagAckRequired ||| flagError

def pbmuxMagic : List UInt8 := [0x50, 0x42, 0x4d, 0x31]
def pbmuxVersion : UInt8 := 1
def pbmuxHeaderLen : Nat := 40
def maxPbmuxPayload : Nat := 61440
def maxPbmuxPlaintext : Nat := 61480
def maxLogicalMessage : Nat := 4 * 1024 * 1024

structure Header where
  channel : Channel
  flags : UInt16
  messageType : UInt16
  requestId : UInt64
  sequence : UInt64
  fragmentIndex : UInt32
  payloadLen : UInt32
  logicalMessageLen : UInt32
deriving DecidableEq, Repr

structure Frame where
  header : Header
  payload : List UInt8
deriving DecidableEq, Repr

inductive ErrorScope where
  | request | logicalMessage | channel | session | pairing | provider | device | process
deriving DecidableEq, Repr

inductive PbmuxErrorKind where
  | frameTooLarge | headerTooShort | invalidMagic | invalidVersion | invalidHeaderLength
  | unknownChannel | reservedFlags | payloadLengthMismatch | logicalLengthInvalid | fragmentInvalid
  | unsupportedMessage | invalidCommandPayload | sequenceMismatch | reassemblyQuota | reassemblyMissing
  | pairingNotCommitted | pairConfirmUnexpected | invalidResourcePayload | invalidRemoteBufferPayload
  | invalidComputePayload
deriving DecidableEq, Repr

structure PbmuxError where
  kind : PbmuxErrorKind
  scope : ErrorScope
deriving DecidableEq, Repr

def PbmuxError.session (kind : PbmuxErrorKind) : PbmuxError := ⟨kind, .session⟩

def PbmuxError.logical (kind : PbmuxErrorKind) : PbmuxError := ⟨kind, .logicalMessage⟩

/-- The `width` low bytes of a number, most significant first: `to_be_bytes`. -/
def toBeBytes : (width : Nat) → Nat → List UInt8
  | 0, _ => []
  | width + 1, value => UInt8.ofNat (value / 256 ^ width) :: toBeBytes width value

def ofBeBytes (bytes : List UInt8) : Nat := bytes.foldl (fun acc byte => 256 * acc + byte.toNat) 0

def slice (bytes : List UInt8) (first last : Nat) : List UInt8 := (bytes.drop first).take (last - first)

/-- A fixed array cut out of a payload. Every caller has checked the payload
length before, so the default byte stands for an index that is never used. -/
def array (size : Nat) (bytes : List UInt8) (offset : Nat) : Vector UInt8 size :=
  Vector.ofFn fun index : Fin size => bytes.getD (offset + index) 0

def readU16 (bytes : List UInt8) (offset : Nat) : UInt16 := UInt16.ofNat (ofBeBytes (slice bytes offset (offset + 2)))

def readU32 (bytes : List UInt8) (offset : Nat) : UInt32 := UInt32.ofNat (ofBeBytes (slice bytes offset (offset + 4)))

def readU64 (bytes : List UInt8) (offset : Nat) : UInt64 := UInt64.ofNat (ofBeBytes (slice bytes offset (offset + 8)))

end PhoneBoost.Pbmux
