import PhoneBoost.Web.ContentType
import PhoneBoost.Web.Http
import PhoneBoost.Secure.Storage

/-! One connection of the loopback bridge. A request is answered by a static
asset, by an error or through an operation of the native backend; the operations
that a connection invokes are recorded beside its answer. -/

namespace PhoneBoost.Web
open Keyed
open Secure (Json utf8)

def snapshotMaxAgeMs : Nat := 3000
def blake3Fixture : String := "c10-abc-v1"

structure NativeStatus where
  runtimeState : String
  localApiState : String
  remoteWorkerState : String
  autoUseState : String
  autoUseReason : String
  remoteBlake3Available : Bool
  discoveryObservationState : String
  discoveryObservationReason : String
  controllerLeaseState : String
  controllerLeaseReason : String
  resourceGuardAdmissionProofState : String
  resourceGuardAdmissionProofReason : String

structure NativeCompute where
  digestBlake3Hex : String
  executionSource : String
  autoUseReason : String

structure NativePreference where
  enabled : Bool
  persistence : String

structure FileResult where
  inputBytes : Nat
  compute : NativeCompute

inductive AutoUseError where
  | unavailable | invalidResponse | timeout | outcomeUnknown | writeFailed | badRequest
deriving DecidableEq, Repr

/-- `CliError`; the bridge tells no other error apart. -/
inductive CliError where
  | importTimedOut | outcomeUnknown | other
deriving DecidableEq, Repr

/-- An operation of `NativeBackend` with its argument. -/
inductive NativeCall where
  | status
  | computeBlake3
  | autoUse (enabled : Option Bool)
  | computeFile (source : List UInt8)
deriving DecidableEq, Repr

structure ExecutionObservation where
  observedAtUnixMs : Nat
  digestBlake3Hex : String
  executionSource : String
  autoUseReason : String

structure Bridge where
  expectedHost : String
  token : String
  lastExecution : Option ExecutionObservation

inductive Peek where
  | wouldBlock | closed | more | fails
deriving DecidableEq, Repr

/-- The answers to the calls of `finish` after an upload. -/
structure FinishCalls where
  remaining : Bool
  setNonblocking : Bool
  peek : Peek
  setBlocking : Bool
deriving DecidableEq, Repr

/-- The answers to the calls on the memory file of an upload; `writeAll n` is
the one for the `n`-th write. -/
structure FileCalls where
  memfdCreate : Bool
  fchmod : Bool
  writeAll : Nat → Bool
  addSeals : Bool

/-- What one connection meets outside the bridge: its socket, the lanes that
other connections may hold, the clock, the frontend files, the JSON reader and
the native backend. -/
structure Outside where
  setTimeouts : Bool
  computeLane : Bool
  controlLane : Bool
  nowUnixMs : Nat
  staticAsset : String → Bool → Response
  fromSlice : List UInt8 → Option Json
  preferenceFromSlice : List UInt8 → Option Bool
  file : FileCalls
  finish : FinishCalls
  status : Option NativeStatus
  computeBlake3 : Option NativeCompute
  autoUse : Option Bool → Except AutoUseError NativePreference
  computeFile : List UInt8 → Except CliError FileResult

/-- The answer to a request, the operations invoked for it and the bridge it
leaves. -/
structure Turn where
  response : Response
  calls : List NativeCall
  bridge : Bridge

def constantTimeEq (left right : List UInt8) : Bool :=
  if left.length ≠ right.length then false
  else (left.zip right).foldl (fun difference pair => difference ||| (pair.1 ^^^ pair.2)) (0 : UInt8) = 0

def validDiscoveryPair (state reason : String) : Bool :=
  [("FRESH_HINT", "C04_CANDIDATE_OBSERVED"), ("NO_HINT", "C04_NO_CANDIDATE"),
    ("BACKEND_UNAVAILABLE", "DISCOVERY_BACKEND_UNAVAILABLE"), ("STALE", "OBSERVATION_EXPIRED"),
    ("UNKNOWN", "EPOCH_INVALIDATED"), ("UNKNOWN", "NOT_OBSERVED"), ("UNKNOWN", "NOT_EXPOSED_BY_C12")].contains (state, reason)

def validControllerLeasePair (state reason : String) : Bool :=
  [("ACTIVE", "C07_ACK_FRESH"), ("EXPIRED", "ACK_TTL_ELAPSED"), ("UNAVAILABLE", "C07_ACQUIRE_FAILED"),
    ("UNAVAILABLE", "C07_RENEW_FAILED"), ("UNAVAILABLE", "SESSION_INVALIDATED"),
    ("UNAVAILABLE", "IDENTITY_OR_INCARNATION_CHANGED"), ("UNAVAILABLE", "AUTO_USE_DISABLED"), ("UNKNOWN", "NOT_OBSERVED"),
    ("UNKNOWN", "NOT_EXPOSED_BY_C12")].contains (state, reason)

def validResourceGuardAdmissionProofPair (state reason : String) : Bool :=
  [("FRESH_PASS", "C08_C09_C10_PROBE_PASSED"), ("FAILED", "C08_C09_C10_PROBE_FAILED"), ("STALE", "PROOF_EXPIRED"),
    ("UNKNOWN", "SESSION_INVALIDATED"), ("UNKNOWN", "LEASE_INVALIDATED"), ("UNKNOWN", "IDENTITY_OR_INCARNATION_CHANGED"),
    ("UNKNOWN", "AUTO_USE_DISABLED"), ("UNKNOWN", "NOT_OBSERVED"), ("UNKNOWN", "NOT_EXPOSED_BY_C12")].contains (state, reason)

def validPairs (status : NativeStatus) : Bool :=
  validDiscoveryPair status.discoveryObservationState status.discoveryObservationReason &&
    validControllerLeasePair status.controllerLeaseState status.controllerLeaseReason &&
    validResourceGuardAdmissionProofPair status.resourceGuardAdmissionProofState status.resourceGuardAdmissionProofReason

def stateAndReason (state reason : String) : Value := .object [("state", .string state), ("reason", .string reason)]

def snapshotUnavailable (observedAtUnixMs : Nat) : Response :=
  .json 503 (.object [("provenance", .string "UNAVAILABLE"), ("observed_at_unix_ms", .number observedAtUnixMs),
    ("reason", .string "LOCAL_RUNTIME_UNAVAILABLE")])

def executionValue (execution : ExecutionObservation) : Value :=
  .object [("observed_at_unix_ms", .number execution.observedAtUnixMs), ("fixture", .string blake3Fixture),
    ("digest_blake3_hex", .string execution.digestBlake3Hex), ("execution_source", .string execution.executionSource),
    ("auto_use_reason", .string execution.autoUseReason)]

def snapshotValue (observedAtUnixMs : Nat) (status : NativeStatus) (lastExecution : Option ExecutionObservation) : Value :=
  .object [("provenance", .string "LIVE"), ("observed_at_unix_ms", .number observedAtUnixMs),
    ("max_age_ms", .number snapshotMaxAgeMs),
    ("local_daemon", .object [("state", .string "REACHABLE"), ("runtime_state", .string status.runtimeState),
      ("local_api_state", .string status.localApiState)]),
    ("discovery_observation", stateAndReason status.discoveryObservationState status.discoveryObservationReason),
    ("authenticated_session", .object [
      ("state", .string (if status.remoteWorkerState = "AUTHENTICATED" then "AUTHENTICATED" else "UNAVAILABLE")),
      ("remote_worker_state", .string status.remoteWorkerState)]),
    ("controller_lease", stateAndReason status.controllerLeaseState status.controllerLeaseReason),
    ("resource_guard_admission_proof",
      stateAndReason status.resourceGuardAdmissionProofState status.resourceGuardAdmissionProofReason),
    ("provider_readiness", .object [("provider", .string "pb.native.blake3/1"),
      ("state", .string (if status.remoteBlake3Available then "AVAILABLE" else "UNAVAILABLE"))]),
    ("auto_use", stateAndReason status.autoUseState status.autoUseReason),
    ("remote_blake3_available", .bool status.remoteBlake3Available),
    ("last_execution", (lastExecution.map executionValue).getD .null)]

def autoUseFailure : AutoUseError → Response
  | .unavailable => controlError 503 "CONTROL_UNAVAILABLE"
  | .invalidResponse => controlError 502 "INVALID_NATIVE_RESPONSE"
  | .timeout => controlError 504 "CONTROL_TIMEOUT"
  | .outcomeUnknown => controlError 504 "OUTCOME_UNKNOWN"
  | .writeFailed => controlError 503 "STATE_WRITE_FAILED"
  | .badRequest => controlError 400 "BAD_REQUEST"

def hasJsonContentType (request : Request) : Bool :=
  (request.headers.get? "content-type").any fun value => isJsonContentType (utf8 value)

def isAsciiWhitespaceByte (byte : UInt8) : Bool := byte = 32 || byte = 9 || byte = 10 || byte = 12 || byte = 13

def isFixtureRequest : Json → Bool
  | .object fields => fields.size = 1 && (fields.get? "fixture").bind Secure.Scalar.asStr = some blake3Fixture
  | .other _ => false

def filePath : String := "/bridge/v1/compute/blake3-file"
def inputLimit : Nat := 134217728
def copyBuffer : Nat := 65536

def validateHeaders (request : Request) (length : Nat) : Except Response Unit :=
  if (request.headers.get? "content-length").isNone then .error (controlError 411 "CONTENT_LENGTH_REQUIRED")
  else if inputLimit < length then .error (controlError 413 "INPUT_TOO_LARGE")
  else if length = 0 || ["content-encoding", "expect"].any (fun name => (request.headers.get? name).isSome) then
    .error (controlError 400 "BAD_REQUEST")
  else if !(request.headers.get? "content-type").any
      (fun value => eqIgnoreAsciiCase (utf8 value) (utf8 "application/octet-stream")) then
    .error (controlError 415 "CONTENT_TYPE_REQUIRED")
  else .ok ()

def nativeError : CliError → Response
  | .importTimedOut => controlError 504 "IMPORT_TIMEOUT"
  | .outcomeUnknown => controlError 504 "OUTCOME_UNKNOWN"
  | .other => controlError 503 "NATIVE_REQUEST_FAILED"

def storageError : Response := controlError 503 "INPUT_STORAGE_UNAVAILABLE"

def uploadError : ErrorKind → Response
  | .timedOut | .wouldBlock => controlError 408 "UPLOAD_TIMEOUT"
  | .other => controlError 400 "BAD_REQUEST"

/-- The loop of `copy_exact`; `written` counts the writes that were made. -/
def copyRest (calls : FileCalls) (remaining : Nat) (sink : List UInt8) (written : Nat) (stream : Stream) :
    Except Response (List UInt8) :=
  if _more : remaining ≠ 0 then
    match stream.read (min remaining copyBuffer) with
    | .error kind => .error (uploadError kind)
    | .ok ([], _) => .error (controlError 400 "BAD_REQUEST")
    | .ok (byte :: more, rest) =>
      if !calls.writeAll written then .error storageError
      else copyRest calls (remaining - (byte :: more).length) (sink ++ byte :: more) (written + 1) rest
  else .ok sink
termination_by remaining
decreasing_by
  simp only [List.length_cons]
  omega

def copyExact (calls : FileCalls) (stream : Stream) (first : List UInt8) (length : Nat) : Except Response (List UInt8) :=
  if length = 0 || inputLimit < length || length < first.length then .error (controlError 400 "BAD_REQUEST")
  else if !calls.writeAll 0 then .error storageError
  else copyRest calls (length - first.length) first 1 stream

/-- The content of the sealed file. -/
def receive (calls : FileCalls) (stream : Stream) (first : List UInt8) (length : Nat) : Except Response (List UInt8) :=
  if !calls.memfdCreate || !calls.fchmod then .error storageError
  else do
    let content ← copyExact calls stream first length
    if !calls.addSeals then .error storageError else .ok content

def finish (calls : FinishCalls) : Except Response Unit :=
  if !calls.remaining then .error (controlError 408 "UPLOAD_TIMEOUT")
  else if !calls.setNonblocking || !calls.setBlocking then .error (controlError 400 "BAD_REQUEST")
  else
    match calls.peek with
    | .wouldBlock => .ok ()
    | .closed | .fails => .error (controlError 400 "BAD_REQUEST")
    | .more => .error (.error 400 "REQUEST_PIPELINING_UNSUPPORTED")

namespace Bridge
variable (outside : Outside)

def validBrowserBoundary (bridge : Bridge) (request : Request) : Bool :=
  let expectedOrigin := "http://" ++ bridge.expectedHost
  if request.headers.get? "host" ≠ some bridge.expectedHost then false
  else if (request.headers.get? "origin").any (· ≠ expectedOrigin) then false
  else if request.method = "POST" && request.headers.get? "origin" ≠ some expectedOrigin then false
  else if (request.headers.get? "sec-fetch-site").any (fun site => site ≠ "same-origin" && site ≠ "none") then false
  else true

def tokenHeader : String := "x-phoneboost-bridge-token"

def validToken (bridge : Bridge) (request : Request) : Bool :=
  (request.headers.get? tokenHeader).any fun candidate => constantTimeEq (utf8 candidate) (utf8 bridge.token)

/-- An answer without any operation. -/
def answers (bridge : Bridge) (response : Response) : Turn := ⟨response, [], bridge⟩

def snapshot (bridge : Bridge) : Turn :=
  if !outside.controlLane then bridge.answers (controlError 503 "BUSY")
  else
    match outside.status with
    | none => ⟨snapshotUnavailable outside.nowUnixMs, [.status], bridge⟩
    | some status =>
      if !validPairs status then ⟨snapshotUnavailable outside.nowUnixMs, [.status], bridge⟩
      else ⟨.json 200 (snapshotValue outside.nowUnixMs status bridge.lastExecution), [.status], bridge⟩

def compute (bridge : Bridge) (request : Request) : Turn :=
  if !hasJsonContentType request then bridge.answers (.error 415 "CONTENT_TYPE_REQUIRED")
  else if !(outside.fromSlice request.body).any isFixtureRequest then bridge.answers (.error 400 "INVALID_COMPUTE_REQUEST")
  else if !outside.computeLane then bridge.answers (controlError 503 "BUSY")
  else
    match outside.computeBlake3 with
    | none => ⟨.error 503 "LOCAL_RUNTIME_UNAVAILABLE", [.computeBlake3], bridge⟩
    | some result =>
      ⟨.json 200 (.object [("provenance", .string "LIVE"), ("observed_at_unix_ms", .number outside.nowUnixMs),
          ("fixture", .string blake3Fixture), ("input_bytes", .number 3), ("digest_blake3_hex", .string result.digestBlake3Hex),
          ("execution_source", .string result.executionSource), ("auto_use_reason", .string result.autoUseReason)]),
        [.computeBlake3],
        { bridge with
          lastExecution := some ⟨outside.nowUnixMs, result.digestBlake3Hex, result.executionSource, result.autoUseReason⟩ }⟩

/-- What a request for the preference asks for. -/
def preferenceArgument (request : Request) : Option (Option Bool) :=
  if request.method = "POST" then
    if request.body.find? (fun byte => !isAsciiWhitespaceByte byte) ≠ some 0x7b then none
    else if !hasJsonContentType request then none
    else (outside.preferenceFromSlice request.body).map some
  else if !request.body.isEmpty then none
  else some none

def preference (bridge : Bridge) (request : Request) : Turn :=
  match preferenceArgument outside request with
  | none => bridge.answers (controlError 400 "BAD_REQUEST")
  | some enabled =>
    if !outside.controlLane then bridge.answers (controlError 503 "BUSY")
    else
      match outside.autoUse enabled with
      | .ok view =>
        ⟨.json 200 (.object [("enabled", .bool view.enabled), ("persistence", .string view.persistence)]), [.autoUse enabled], bridge⟩
      | .error error => ⟨autoUseFailure error, [.autoUse enabled], bridge⟩

/-- Without the token of this process a request reaches no operation. -/
def guarded (bridge : Bridge) (request : Request) (turn : Turn) : Turn :=
  if !bridge.validToken request then bridge.answers (.error 401 "BRIDGE_CAPABILITY_REQUIRED") else turn

def methodNotAllowed (bridge : Bridge) : Turn := bridge.answers (.error 405 "METHOD_NOT_ALLOWED")

def handle (bridge : Bridge) (request : Request) : Turn :=
  if !bridge.validBrowserBoundary request then bridge.answers (.error 403 "BROWSER_BOUNDARY_REJECTED")
  else if request.path = "/bridge/v1/auto-use" then
    if request.method = "GET" || request.method = "POST" then bridge.guarded request (bridge.preference outside request)
    else bridge.methodNotAllowed
  else if request.path = "/bridge/v1/snapshot" then
    if request.method = "GET" then
      if !request.body.isEmpty then bridge.answers invalidRequest else bridge.guarded request (bridge.snapshot outside)
    else bridge.methodNotAllowed
  else if request.path = "/bridge/v1/compute/blake3" then
    if request.method = "POST" then bridge.guarded request (bridge.compute outside request) else bridge.methodNotAllowed
  else if (request.method = "GET" || request.method = "HEAD") && !"/bridge/".toList.isPrefixOf request.path.toList then
    bridge.answers (outside.staticAsset request.path (request.method = "HEAD"))
  else if request.method = "OPTIONS" then bridge.methodNotAllowed
  else bridge.answers (.error 404 "NOT_FOUND")

def computeFileTurn (bridge : Bridge) (length : Nat) (content : List UInt8) : Turn :=
  match outside.computeFile content with
  | .ok result =>
    if result.inputBytes ≠ length then ⟨controlError 504 "OUTCOME_UNKNOWN", [.computeFile content], bridge⟩
    else
      ⟨.json 200 (.object [("state", .string "COMPLETED"), ("op_id", .string "pb.native.blake3/1"),
          ("input_kind", .string "PRIVATE_IMPORT_V1"), ("input_bytes", .number result.inputBytes),
          ("digest_blake3_hex", .string result.compute.digestBlake3Hex),
          ("execution_source", .string result.compute.executionSource),
          ("auto_use_reason", .string result.compute.autoUseReason)]),
        [.computeFile content], bridge⟩
  | .error error => ⟨nativeError error, [.computeFile content], bridge⟩

def fileRequest (bridge : Bridge) (stream : Stream) (request : Request) (length : Nat) : Turn :=
  if !bridge.validBrowserBoundary request then bridge.answers (.error 403 "BROWSER_BOUNDARY_REJECTED")
  else if request.method ≠ "POST" then bridge.methodNotAllowed
  else bridge.guarded request
    (match validateHeaders request length with
    | .error response => bridge.answers response
    | .ok () =>
      if !outside.computeLane then bridge.answers (controlError 503 "BUSY")
      else
        match receive outside.file stream request.body length with
        | .error response => bridge.answers response
        | .ok content =>
          match finish outside.finish with
          | .error response => bridge.answers response
          | .ok () => bridge.computeFileTurn outside length content)

/-- `none` when the socket refuses its timeouts: nothing is read then. -/
def handleConnection (bridge : Bridge) (stream : Stream) : Option Turn :=
  if !outside.setTimeouts then none
  else some
    (match readHead stream with
    | .error response => bridge.answers response
    | .ok (request, length, stream) =>
      if request.path = filePath then bridge.fileRequest outside stream request length
      else
        match readSmallBody stream request length with
        | .error response => bridge.answers response
        | .ok request => bridge.handle outside request)

end Bridge
end PhoneBoost.Web
