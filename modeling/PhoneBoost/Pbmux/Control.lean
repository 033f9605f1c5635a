import PhoneBoost.Pbmux.FrameCodec

/-! Commands and their acknowledgements on the control channel, and the heartbeat
of the metrics channel. -/

namespace PhoneBoost.Pbmux

def commandPayloadLen : Nat := 46
def ackPayloadLen : Nat := 98
def heartbeatPayloadLen : Nat := 110

/-- Fields are kept as they stand on the wire, presence bytes included. -/
structure CommandPayload where
  commandType : UInt8
  leasePresent : UInt8
  leaseId : Bytes16
  commandSeq : UInt64
  traceId : Bytes16
  providerPresent : UInt8
  providerId : UInt8
  payloadLen : UInt16
deriving DecidableEq, Repr

structure AckPayload where
  ackState : UInt8
  reasonCode : UInt16
  commandSeq : UInt64
  expectedPresent : UInt8
  expected : UInt64
  resultRefPresent : UInt8
  leaseId : Bytes16
  workerIncarnation : Bytes16
  ttlRemainingMs : UInt32
  nextCommandSeq : UInt64
  digestPresent : UInt8
  digest : Bytes32
deriving DecidableEq, Repr

structure HeartbeatPayload where
  peerId : Bytes32
  workerIncarnation : Bytes16
  leasePresent : UInt8
  leaseId : Bytes16
  monotonicMs : UInt64
  thermalStatus : UInt8
  headroomPresent : UInt8
  headroomF32Bits : UInt32
  batteryPct : UInt8
  charging : UInt8
  powerSave : UInt8
  availableBytes : UInt64
  safeBudgetBytes : UInt64
  reservedBytes : UInt64
  queueDepth : UInt16
  providerCount : UInt8
  transportCount : UInt8
deriving DecidableEq, Repr

def invalidCommand : PbmuxError := .logical .invalidCommandPayload

def unsupportedCommand : PbmuxError := .logical .unsupportedMessage

/-- The rules of the three command types. -/
def commandTypeRules (payload : CommandPayload) : Except PbmuxError Unit :=
  if payload.commandType = 1 then
    if payload.leasePresent ≠ 0 then .error invalidCommand
    else if payload.commandSeq ≠ 0 then .error invalidCommand
    else .ok ()
  else if payload.commandType = 2 || payload.commandType = 3 then
    if payload.leasePresent ≠ 1 then .error invalidCommand
    else if payload.leaseId = Vector.replicate 16 0 then .error invalidCommand
    else .ok ()
  else .error unsupportedCommand

/-- The encoder and the decoder write out these same checks in this order. -/
def commandChecks (payload : CommandPayload) : Except PbmuxError Unit :=
  if 1 < payload.leasePresent || 1 < payload.providerPresent then .error invalidCommand
  else if payload.leasePresent = 0 && payload.leaseId ≠ Vector.replicate 16 0 then .error invalidCommand
  else if payload.providerPresent ≠ 0 then .error invalidCommand
  else if payload.providerId ≠ 0 then .error invalidCommand
  else if payload.payloadLen ≠ 0 then .error invalidCommand
  else commandTypeRules payload

def encodeCommandPayload (payload : CommandPayload) : Except PbmuxError (List UInt8) := do
  commandChecks payload
  return ([payload.commandType, payload.leasePresent]
    ++ payload.leaseId.toList
    ++ toBeBytes 8 payload.commandSeq.toNat
    ++ payload.traceId.toList
    ++ [payload.providerPresent, payload.providerId]
    ++ toBeBytes 2 payload.payloadLen.toNat)

def decodeCommandPayload (bytes : List UInt8) : Except PbmuxError CommandPayload :=
  if bytes.length ≠ commandPayloadLen then .error invalidCommand
  else do
    let payload : CommandPayload := {
      commandType := bytes.getD 0 0
      leasePresent := bytes.getD 1 0
      leaseId := array 16 bytes 2
      commandSeq := readU64 bytes 18
      traceId := array 16 bytes 26
      providerPresent := bytes.getD 42 0
      providerId := bytes.getD 43 0
      payloadLen := readU16 bytes 44 }
    commandChecks payload
    return payload

def validateAckPayload (ack : AckPayload) : Except PbmuxError Unit :=
  if 1 < ack.expectedPresent || 1 < ack.resultRefPresent || 1 < ack.digestPresent then .error invalidCommand
  else if ack.expectedPresent = 0 && ack.expected ≠ 0 then .error invalidCommand
  else if ack.resultRefPresent = 0
      && (ack.leaseId ≠ Vector.replicate 16 0 || ack.workerIncarnation ≠ Vector.replicate 16 0
        || ack.ttlRemainingMs ≠ 0 || ack.nextCommandSeq ≠ 0) then .error invalidCommand
  else if ack.digestPresent ≠ 0 || ack.digest ≠ Vector.replicate 32 0 then .error invalidCommand
  else if !(ack.ackState = 1 || ack.ackState = 2 || ack.ackState = 3) then .error unsupportedCommand
  else if 5 < ack.reasonCode then .error unsupportedCommand
  else if ack.ackState = 1 then
    if ack.reasonCode ≠ 0 || ack.expectedPresent ≠ 0 || ack.resultRefPresent ≠ 0 then .error invalidCommand
    else .ok ()
  else if ack.ackState = 2 then
    if ack.reasonCode ≠ 0 || ack.expectedPresent ≠ 0 then .error invalidCommand
    else .ok ()
  else if ack.reasonCode = 0 || ack.resultRefPresent ≠ 0 then .error invalidCommand
  else if ack.reasonCode = 3 then
    if ack.expectedPresent ≠ 1 then .error invalidCommand else .ok ()
  else if ack.expectedPresent ≠ 0 then .error invalidCommand
  else .ok ()

def encodeAckPayload (payload : AckPayload) : Except PbmuxError (List UInt8) := do
  validateAckPayload payload
  return ([payload.ackState]
    ++ toBeBytes 2 payload.reasonCode.toNat
    ++ toBeBytes 8 payload.commandSeq.toNat
    ++ [payload.expectedPresent]
    ++ toBeBytes 8 payload.expected.toNat
    ++ [payload.resultRefPresent]
    ++ payload.leaseId.toList
    ++ payload.workerIncarnation.toList
    ++ toBeBytes 4 payload.ttlRemainingMs.toNat
    ++ toBeBytes 8 payload.nextCommandSeq.toNat
    ++ [payload.digestPresent]
    ++ payload.digest.toList)

def decodeAckPayload (bytes : List UInt8) : Except PbmuxError AckPayload :=
  if bytes.length ≠ ackPayloadLen then .error invalidCommand
  else do
    let ack : AckPayload := {
      ackState := bytes.getD 0 0
      reasonCode := readU16 bytes 1
      commandSeq := readU64 bytes 3
      expectedPresent := bytes.getD 11 0
      expected := readU64 bytes 12
      resultRefPresent := bytes.getD 20 0
      leaseId := array 16 bytes 21
      workerIncarnation := array 16 bytes 37
      ttlRemainingMs := readU32 bytes 53
      nextCommandSeq := readU64 bytes 57
      digestPresent := bytes.getD 65 0
      digest := array 32 bytes 66 }
    validateAckPayload ack
    return ack

/-- A headroom that is present is a finite nonnegative `f32`, checked on its bits. -/
def validateHeartbeatPayload (heartbeat : HeartbeatPayload) : Except PbmuxError Unit :=
  if 1 < heartbeat.leasePresent then .error invalidCommand
  else if heartbeat.leasePresent = 0 && heartbeat.leaseId ≠ Vector.replicate 16 0 then .error invalidCommand
  else if 6 < heartbeat.thermalStatus then .error invalidCommand
  else if 1 < heartbeat.headroomPresent then .error invalidCommand
  else if heartbeat.headroomPresent = 0 && heartbeat.headroomF32Bits ≠ 0 then .error invalidCommand
  else if heartbeat.headroomPresent ≠ 0
      && (heartbeat.headroomF32Bits &&& 0x80000000 ≠ 0 || (heartbeat.headroomF32Bits >>> 23) &&& 0xff = 0xff) then
    .error invalidCommand
  else if 100 < heartbeat.batteryPct then .error invalidCommand
  else if 1 < heartbeat.charging || 1 < heartbeat.powerSave then .error invalidCommand
  else if heartbeat.providerCount ≠ 0 || heartbeat.transportCount ≠ 0 then .error invalidCommand
  else .ok ()

def encodeHeartbeatPayload (payload : HeartbeatPayload) : Except PbmuxError (List UInt8) := do
  validateHeartbeatPayload payload
  return (payload.peerId.toList
    ++ payload.workerIncarnation.toList
    ++ [payload.leasePresent]
    ++ payload.leaseId.toList
    ++ toBeBytes 8 payload.monotonicMs.toNat
    ++ [payload.thermalStatus, payload.headroomPresent]
    ++ toBeBytes 4 payload.headroomF32Bits.toNat
    ++ [payload.batteryPct, payload.charging, payload.powerSave]
    ++ toBeBytes 8 payload.availableBytes.toNat
    ++ toBeBytes 8 payload.safeBudgetBytes.toNat
    ++ toBeBytes 8 payload.reservedBytes.toNat
    ++ toBeBytes 2 payload.queueDepth.toNat
    ++ [payload.providerCount, payload.transportCount])

def decodeHeartbeatPayload (bytes : List UInt8) : Except PbmuxError HeartbeatPayload :=
  if bytes.length ≠ heartbeatPayloadLen then .error invalidCommand
  else do
    let heartbeat : HeartbeatPayload := {
      peerId := array 32 bytes 0
      workerIncarnation := array 16 bytes 32
      leasePresent := bytes.getD 48 0
      leaseId := array 16 bytes 49
      monotonicMs := readU64 bytes 65
      thermalStatus := bytes.getD 73 0
      headroomPresent := bytes.getD 74 0
      headroomF32Bits := readU32 bytes 75
      batteryPct := bytes.getD 79 0
      charging := bytes.getD 80 0
      powerSave := bytes.getD 81 0
      availableBytes := readU64 bytes 82
      safeBudgetBytes := readU64 bytes 90
      reservedBytes := readU64 bytes 98
      queueDepth := readU16 bytes 106
      providerCount := bytes.getD 108 0
      transportCount := bytes.getD 109 0 }
    validateHeartbeatPayload heartbeat
    return heartbeat

def buildCommandFrame (payload : CommandPayload) (requestId sequence : UInt64) : Except PbmuxError Frame :=
  if requestId = 0 then .error invalidCommand
  else do
    let bytes ← encodeCommandPayload payload
    return ⟨singleHeader .control (flagStart ||| flagEnd ||| flagAckRequired) ControlType.command.code requestId sequence
        commandPayloadLen, bytes⟩

def parseCommandFrame (frame : Frame) : Except PbmuxError CommandPayload :=
  if !singleProfile .control (flagStart ||| flagEnd ||| flagAckRequired) commandPayloadLen frame
      || frame.header.messageType ≠ ControlType.command.code || frame.header.requestId = 0 then .error invalidCommand
  else decodeCommandPayload frame.payload

def buildCommandAckFrame (payload : AckPayload) (requestId sequence : UInt64) : Except PbmuxError Frame :=
  if requestId = 0 then .error invalidCommand
  else do
    let bytes ← encodeAckPayload payload
    return ⟨singleHeader .control (flagStart ||| flagEnd) ControlType.commandAck.code requestId sequence ackPayloadLen, bytes⟩

def parseCommandAckFrame (frame : Frame) : Except PbmuxError AckPayload :=
  if !singleProfile .control (flagStart ||| flagEnd) ackPayloadLen frame
      || frame.header.messageType ≠ ControlType.commandAck.code || frame.header.requestId = 0 then .error invalidCommand
  else decodeAckPayload frame.payload

/-- A heartbeat is sent unasked and carries no request number. -/
def buildHeartbeatFrame (payload : HeartbeatPayload) (sequence : UInt64) : Except PbmuxError Frame := do
  let bytes ← encodeHeartbeatPayload payload
  return ⟨singleHeader .metrics (flagStart ||| flagEnd) 1 0 sequence heartbeatPayloadLen, bytes⟩

def parseHeartbeatFrame (frame : Frame) : Except PbmuxError HeartbeatPayload :=
  if !singleProfile .metrics (flagStart ||| flagEnd) heartbeatPayloadLen frame
      || frame.header.messageType ≠ 1 || frame.header.requestId ≠ 0 then .error invalidCommand
  else decodeHeartbeatPayload frame.payload

end PhoneBoost.Pbmux
