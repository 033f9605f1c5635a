import PhoneBoost.Types

/-! Line framing of the local socket. `recvmsg` fills a small window, the carry;
the bytes in front of a line feed move from there to the line buffer. Descriptors
that came with a receive call are handed out with the next line. -/

namespace PhoneBoost.Host.Admission

def readChunkBytes : Nat := 4096
def maxLineBytes : Nat := 65536
def framingMemoryBoundBytes : Nat := maxLineBytes + readChunkBytes
def lineFeed : UInt8 := 10

inductive LocalFrameOutcome (δ : Type) where
  | line (bytes : List UInt8) (descriptors : List δ)
  | cleanEof | idleTimeout
deriving DecidableEq, Repr

inductive LocalFramingErrorKind where
  | localBadRequest | transportFailure
deriving DecidableEq, Repr

/-- What one `recvmsg` answers. A message without bytes is the end of the stream;
`invalid` stands for truncated or foreign ancillary data. -/
inductive Received (δ : Type) where
  | message (bytes : List UInt8) (descriptors : List δ) (invalid : Bool)
  | interrupted | again | failed
deriving DecidableEq, Repr

abbrev Framed (δ : Type) := Except LocalFramingErrorKind (LocalFrameOutcome δ)

/-- `carry` is the window between `carry_start` and `carry_end`. -/
structure FramedLocalClient (δ : Type) where
  connected : Bool
  line : List UInt8
  lineDescriptors : List δ
  carry : List UInt8
  readChunkLimit : Nat
  maxBufferObserved : Nat
deriving DecidableEq, Repr

namespace FramedLocalClient
variable {δ : Type} (client : FramedLocalClient δ)

def build (readChunkLimit : Nat) : FramedLocalClient δ where
  connected := true
  line := []
  lineDescriptors := []
  carry := []
  readChunkLimit := max 1 (min readChunkLimit readChunkBytes)
  maxBufferObserved := 0

def close : FramedLocalClient δ :=
  { client with connected := false, line := [], lineDescriptors := [], carry := [] }

def observeBufferBound : FramedLocalClient δ :=
  { client with maxBufferObserved := max client.maxBufferObserved (client.line.length + client.carry.length) }

def consumeCarry : Option (Framed δ) × FramedLocalClient δ :=
  let before := client.carry.takeWhile (· ≠ lineFeed)
  let rest := client.carry.dropWhile (· ≠ lineFeed)
  if maxLineBytes - client.line.length < before.length then (some (.error .localBadRequest), client.close)
  else
    let client := { client with line := client.line ++ before, carry := rest }.observeBufferBound
    match rest with
    | _ :: carry =>
      (some (.ok (.line client.line client.lineDescriptors)), { client with line := [], lineDescriptors := [], carry })
    | [] => (none, client)

/-- One receive call, and the loop goes on where there is no result. -/
def receive : Received δ → Option (Framed δ) × FramedLocalClient δ
  | .interrupted => (none, client)
  | .again => (some (.ok .idleTimeout), client.close)
  | .failed => (some (.error .transportFailure), client.close)
  | .message bytes descriptors invalid =>
    let client := { client with lineDescriptors := client.lineDescriptors ++ descriptors }
    if invalid || 2 < client.lineDescriptors.length then (some (.error .localBadRequest), client.close)
    else if bytes.isEmpty then
      (some (if client.line.isEmpty then .ok .cleanEof else .error .localBadRequest), client.close)
    else (none, { client with carry := bytes }.observeBufferBound)

/-- The head of the loop. -/
def pending : Option (Framed δ) × FramedLocalClient δ :=
  if client.carry.isEmpty then (none, client) else client.consumeCarry

/-- The loop against the answers of the socket. Without a further answer the call waits. -/
def nextLoop (client : FramedLocalClient δ) :
    List (Received δ) → Option (Framed δ) × FramedLocalClient δ × List (Received δ)
  | [] =>
    match client.pending with
    | (result, client) => (result, client, [])
  | answer :: answers =>
    match client.pending with
    | (some result, client) => (some result, client, answer :: answers)
    | (none, client) =>
      match client.receive answer with
      | (some result, client) => (some result, client, answers)
      | (none, client) => client.nextLoop answers

def nextLineBytes (answers : List (Received δ)) : Option (Framed δ) × FramedLocalClient δ × List (Received δ) :=
  if client.connected then client.nextLoop answers else (some (.ok .cleanEof), client, answers)

/-- Successive calls. -/
def calls : Nat → FramedLocalClient δ → List (Received δ) → List (Option (Framed δ)) × FramedLocalClient δ
  | 0, client, _ => ([], client)
  | count + 1, client, answers =>
    let (result, client, answers) := client.nextLineBytes answers
    let (results, client) := calls count client answers
    (result :: results, client)

end FramedLocalClient

end PhoneBoost.Host.Admission
