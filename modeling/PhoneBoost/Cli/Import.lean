import PhoneBoost.Lib.Wire
import PhoneBoost.Types

/-! The requester of a private import. One connection creates an import, polls it
until it is ready and submits it once. Every answer of the system and of the
server is taken from outside; the log tells which bytes were offered to the
socket and which answers were accepted. -/

namespace PhoneBoost.Cli
open Wire (okOr)

def maxImportBytes : Nat := 134217728
def maxNdjsonLineBytes : Nat := 65536
/-- 25 milliseconds; instants are in nanoseconds. -/
def pollInterval : Nat := 25000000
def blake3OpId : String := "pb.native.blake3/1"
def remoteSuccess : String := "REMOTE_SUCCESS"

/-- JSON as the client looks at it; `number` is one that is not a `u64`. -/
inductive Value where
  | null | bool (value : Bool) | u64 (value : Nat) | number | string (text : String) | array
  | object (fields : List (String × Value))

abbrev Fields := List (String × Value)

namespace Value

def asObject : Value → Option Fields
  | .object fields => some fields
  | _ => none

def asStr : Value → Option String
  | .string text => some text
  | _ => none

def asU64 : Value → Option Nat
  | .u64 value => some value
  | _ => none

end Value

def Fields.get? (fields : Fields) (field : String) : Option Value := (fields.find? fun entry => entry.1 = field).map Prod.snd

def Fields.str? (fields : Fields) (field : String) : Option String := (fields.get? field).bind Value.asStr

inductive CliError where
  | ioFailed | responseTooLarge | malformedResponse | importNotReady | importTimedOut | outcomeUnknown
  | remote (code messageSafe : String)
deriving DecidableEq, Repr

def requiredString (fields : Fields) (field : String) : Except CliError String := okOr (fields.str? field) .malformedResponse

/-- `validate_response`, from the JSON of the line on. -/
def validateResponse (value? : Option Value) (expectedId : String) : Except CliError Value := do
  let value ← okOr value? .malformedResponse
  let object ← okOr value.asObject .malformedResponse
  if (object.get? "api").bind Value.asU64 ≠ some 1 || object.str? "id" ≠ some expectedId then .error .malformedResponse
  else
    match object.get? "ok" with
    | some (.bool true) =>
      if (object.get? "error").isSome then .error .malformedResponse else okOr (object.get? "result") .malformedResponse
    | some (.bool false) =>
      if (object.get? "result").isSome then .error .malformedResponse
      else do
        let error ← okOr ((object.get? "error").bind Value.asObject) .malformedResponse
        let code ← requiredString error "code"
        let messageSafe ← requiredString error "message_safe"
        if error.str? "scope" ≠ some "REQUEST" then .error .malformedResponse else .error (.remote code messageSafe)
    | _ => .error .malformedResponse

/-- The codes of a refusal that the client passes on. -/
def importCodes : List String :=
  ["LOCAL_BAD_REQUEST", "LOCAL_UNSUPPORTED_METHOD", "IMPORT_NOT_FOUND", "IMPORT_LIMIT_REACHED", "IMPORT_SOURCE_REJECTED",
    "IMPORT_RECEIVING_TIMEOUT", "IMPORT_CLEANUP_UNCONFIRMED", "IMPORT_UNAVAILABLE", "IMPORT_NOT_READY", "IMPORT_INPUT_REJECTED"]

/-- What `request` makes of a validated line. -/
def screened : Except CliError Value → Except CliError Value
  | .error (.remote code _) =>
    if importCodes.contains code then .error (.remote code "C12 import request rejected") else .error .malformedResponse
  | result => result

def lowerHex64 (value : String) : Bool :=
  value.toList.length = 64 && value.toList.all fun char => ('0' ≤ char && char ≤ '9') || ('a' ≤ char && char ≤ 'f')

/-- The handle in the answer to `imports.create`. -/
def createdHandle (value : Value) : Except CliError String := do
  let created ← okOr value.asObject .malformedResponse
  let handle ← requiredString created "import_handle"
  if created.length ≠ 2 || created.str? "state" ≠ some "RECEIVING" || !lowerHex64 handle then .error .malformedResponse
  else .ok handle

/-- What the answer to `imports.get` says: still receiving, or ready with a number of bytes. -/
def polledBytes (value : Value) : Except CliError (Option Nat) := do
  let status ← okOr value.asObject .malformedResponse
  match status.str? "state" with
  | some "RECEIVING" => if status.length = 1 then .ok none else .error .malformedResponse
  | some "READY" =>
    if status.length = 2 then do
      let bytes ← okOr ((status.get? "input_bytes").bind Value.asU64) .malformedResponse
      if 1 ≤ bytes && bytes ≤ maxImportBytes then .ok (some bytes) else .error .importNotReady
    else .error .malformedResponse
  | some "CANCELLED" | some "CONSUMED" | some "EXPIRED" =>
    if status.length = 1 then .error .importNotReady else .error .malformedResponse
  | _ => .error .malformedResponse

def validExecutionSource (value : String) : Bool :=
  [remoteSuccess, "LOCAL_FALLBACK_AFTER_REMOTE_UNAVAILABLE", "LOCAL_FALLBACK_AFTER_AMBIGUOUS_REMOTE"].contains value

def validAutoUseReason (value : String) : Bool :=
  ["OFF", "NO_DEVICE", "NOT_PAIRED", "AUTH_FAILED", "LEASE_UNAVAILABLE", "WORKER_UNHEALTHY", "RESOURCE_REFUSED",
    "TRANSPORT_LOST", "RECONNECTING", "DISCOVERY_BACKEND_UNAVAILABLE", "READY"].contains value

structure ImportedComputeView where
  inputBytes : Nat
  digestBlake3Hex : String
  executionSource : String
  autoUseReason : String
deriving DecidableEq, Repr

def terminalView (response : Value) (inputBytes : Nat) : Except CliError ImportedComputeView := do
  let result ← okOr response.asObject .malformedResponse
  let digest ← requiredString result "digest_blake3_hex"
  let source ← requiredString result "execution_source"
  let reason ← requiredString result "auto_use_reason"
  if result.length ≠ 7 || result.str? "state" ≠ some "COMPLETED" || result.str? "op_id" ≠ some blake3OpId ||
      result.str? "input_kind" ≠ some "PRIVATE_IMPORT_V1" ||
      (result.get? "input_bytes").bind Value.asU64 ≠ some inputBytes || !lowerHex64 digest ||
      !validExecutionSource source || !validAutoUseReason reason || (source = remoteSuccess && reason ≠ "READY") then
    .error .malformedResponse
  else .ok ⟨inputBytes, digest, source, reason⟩

/-- The three requests with their parameters. -/
inductive Call where
  | create | get (handle : String) | submit (handle : String)
deriving DecidableEq, Repr

namespace Call

def method : Call → String
  | .create => "imports.create"
  | .get _ => "imports.get"
  | .submit _ => "compute.submit_import"

def params : Call → Value
  | .create => .object []
  | .get handle => .object [("import_handle", .string handle)]
  | .submit handle => .object [("op_id", .string blake3OpId), ("import_handle", .string handle)]

end Call

/-- The outside of one exchange. The `n`-th call to the system takes some time and
is answered by the `n`-th entry; `accept` and `deliver` have none for an error. -/
structure Outside where
  processId : Nat
  toVec : Value → Option (List UInt8)
  fromSlice : List UInt8 → Option Value
  elapsed : Nat → Nat
  setTimeouts : Nat → Bool
  push : Nat → Bool
  accept : Nat → Option Nat
  deliver : Nat → Option (List UInt8)

/-- `offers`: a system call is handed the bytes of a request from an offset on,
perhaps with the descriptor. `answers`: the answer to a request was accepted. -/
inductive Event where
  | offers (id : Nat) (call : Call) (offset : Nat) (descriptor : Bool)
  | answers (id : Nat) (call : Call) (value : Value)

structure Exchange where
  clock : Nat
  systemCalls : Nat
  /-- `REQUEST_SEQUENCE` -/
  nextId : Nat
  /-- newest first -/
  log : List Event

/-- How a call can end other than with a view; `polling` when it has not ended
within the rounds looked at. -/
inductive Stop where
  | cli (error : CliError) | polling
deriving DecidableEq, Repr

abbrev Client := EStateM Stop Exchange

def lift : Except CliError α → Client α
  | .ok value => pure value
  | .error error => throw (.cli error)

def note (event : Event) : Client Unit := modify fun exchange => { exchange with log := event :: exchange.log }

section Client
variable (outside : Outside)

/-- The number of the next call to the system, once its time has passed. -/
def systemCall : Client Nat := do
  let exchange ← get
  set { exchange with
    clock := exchange.clock + outside.elapsed exchange.systemCalls
    systemCalls := exchange.systemCalls + 1 }
  return exchange.systemCalls

def instantNow : Client Nat := do
  let _ ← systemCall outside
  return (← get).clock

def sleep (duration : Nat) : Client Unit := do
  let _ ← systemCall outside
  modify fun exchange => { exchange with clock := exchange.clock + duration }

def nextRequestId : Client Nat := do
  let exchange ← get
  set { exchange with nextId := exchange.nextId + 1 }
  return exchange.nextId

def requestId (sequence : Nat) : String := "phoneboostctl-" ++ toString outside.processId ++ "-" ++ toString sequence

def setRemaining (deadline : Nat) : Client Unit := do
  let now ← instantNow outside
  if deadline - now = 0 then throw (.cli .ioFailed)
  else
    let index ← systemCall outside
    if outside.setTimeouts index then pure () else throw (.cli .ioFailed)

/-- One `sendmsg` or `write` of the bytes from `sent` on; how many were taken. -/
def offer (id : Nat) (call : Call) (total sent : Nat) (descriptor : Bool) : Client Nat := do
  note (.offers id call sent descriptor)
  let index ← systemCall outside
  match outside.accept index with
  | none => throw (.cli .ioFailed)
  | some count => return min count (total - sent)

/-- The loop that completes a partial write. -/
def writeRest (id : Nat) (call : Call) (deadline total sent : Nat) : Client Unit :=
  if _done : total ≤ sent then pure ()
  else do
    setRemaining outside deadline
    let count ← offer outside id call total sent false
    match count with
    | 0 => throw (.cli .ioFailed)
    | count + 1 => writeRest id call deadline total (sent + (count + 1))
termination_by total - sent

/-- The first call, with the descriptor where there is one. -/
def writeFirst (id : Nat) (call : Call) (total : Nat) (source : Bool) : Client Nat :=
  if source then do
    let index ← systemCall outside
    if outside.push index then do
      let count ← offer outside id call total 0 true
      if count = 0 then throw (.cli .ioFailed) else return count
    else throw (.cli .ioFailed)
  else pure 0

/-- The loop that reads one line; nothing may come behind its end. -/
def readLine (deadline : Nat) (line : List UInt8) : Client (List UInt8) := do
  setRemaining outside deadline
  let index ← systemCall outside
  match (outside.deliver index).map (List.take 4096) with
  | none => throw (.cli .ioFailed)
  | some [] => throw (.cli .malformedResponse)
  | some (byte :: more) =>
    if _large : maxNdjsonLineBytes < line.length + (byte :: more).length then throw (.cli .responseTooLarge)
    else
      let line' := line ++ byte :: more
      if line'.contains 10 then
        if line'.idxOf 10 + 1 ≠ line'.length then throw (.cli .malformedResponse) else return line'.take (line'.idxOf 10)
      else readLine deadline (line ++ byte :: more)
termination_by maxNdjsonLineBytes - line.length
decreasing_by
  simp only [List.length_append, List.length_cons] at *
  omega

def request (call : Call) (source : Bool) (deadline : Nat) : Client Value := do
  let id ← nextRequestId
  let bytes ← lift (okOr (outside.toVec (.object
    [("api", .u64 1), ("id", .string (requestId outside id)), ("method", .string call.method), ("params", call.params)]))
    .malformedResponse)
  let total := bytes.length + 1
  setRemaining outside deadline
  let sent ← writeFirst outside id call total source
  writeRest outside id call deadline total sent
  let line ← readLine outside deadline []
  let value ← lift (screened (validateResponse (outside.fromSlice line) (requestId outside id)))
  note (.answers id call value)
  return value

/-- The loop until the import is ready, for at most some rounds. -/
def pollReady (handle : String) (deadline : Nat) : (rounds : Nat) → Client Nat
  | 0 => throw .polling
  | rounds + 1 => do
    let now ← instantNow outside
    if deadline ≤ now then throw (.cli .importTimedOut)
    else
      let response ← tryCatch (request outside (.get handle) false deadline) fun error => do
        let now ← instantNow outside
        if deadline ≤ now then throw (.cli .importTimedOut) else throw error
      match ← lift (polledBytes response) with
      | some bytes => return bytes
      | none => do
        let now ← instantNow outside
        sleep outside (min pollInterval (deadline - now))
        pollReady handle deadline rounds

/-- What becomes of an error of the last request. -/
def unknownOutcome : Stop → Stop
  | .cli (.remote code messageSafe) => .cli (.remote code messageSafe)
  | _ => .cli .outcomeUnknown

def computeOverStream (timeout rounds : Nat) : Client ImportedComputeView := do
  let started ← instantNow outside
  let created ← request outside .create true (started + timeout)
  let handle ← lift (createdHandle created)
  let inputBytes ← pollReady outside handle (started + timeout) rounds
  let submitted ← instantNow outside
  let result ← tryCatch (request outside (.submit handle) false (submitted + timeout)) fun error => throw (unknownOutcome error)
  tryCatch (lift (terminalView result inputBytes)) fun _ => throw (.cli .outcomeUnknown)

end Client

end PhoneBoost.Cli
