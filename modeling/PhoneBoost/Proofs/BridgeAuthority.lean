import PhoneBoost.Lib.Wire
import PhoneBoost.Proofs.StoreText
import PhoneBoost.Web.Handlers

/-! Who may reach the native backend through the loopback bridge. The head of a
request is described by the bytes the socket delivers, however they are cut; the
table of headers says what its lines say, and both ways to an operation make the
same checks on it. -/

namespace PhoneBoost.Web.Proofs
open Keyed Wire
open Secure (utf8)
open Secure.Proofs (utf8_injective)

namespace Delivery

def bytes : Delivery → List UInt8
  | .data bytes => bytes
  | .fails _ => []

end Delivery

/-- All bytes a socket delivers. -/
def delivered (stream : Stream) : List UInt8 := stream.flatMap Delivery.bytes

/-- A head as its bytes spell it out: the first word and one pair for each line
with a colon. -/
structure Head where
  method : String
  fields : List (String × String)

def fieldOf (line : Text) : Option (String × String) :=
  (splitOnce ':' line).map fun parts => (lowered parts.1, trimmed parts.2)

def Head.ofText (text : Text) : Head where
  method := .ofList ((((splitLines text).headD []).splitOn ' ').headD [])
  fields := (splitLines text).tail.filterMap fieldOf

/-- The head that a byte string begins with, up to its first blank line. -/
def Head.of? (bytes : List UInt8) : Option Head := do
  let ends ← headEnd? bytes
  let text ← decode (bytes.take (ends - 4))
  some (.ofText text)

def valuesOf (fields : List (String × String)) (name : String) : List String :=
  (fields.filter (·.1 = name)).map Prod.snd

def Head.values (head : Head) (name : String) : List String := valuesOf head.fields name

/-- What a request must show before the backend is asked anything. -/
structure Authorised (bridge : Bridge) (head : Head) : Prop where
  host : head.values "host" = [bridge.expectedHost]
  origin : ∀ origin ∈ head.values "origin", origin = "http://" ++ bridge.expectedHost
  originOfPost : head.method = "POST" → head.values "origin" ≠ []
  site : ∀ site ∈ head.values "sec-fetch-site", site = "same-origin" ∨ site = "none"
  token : head.values Bridge.tokenHeader = [bridge.token]

/-- The operations that compute or change the preference. -/
def posts : NativeCall → Bool
  | .computeBlake3 | .computeFile _ | .autoUse (some _) => true
  | .status | .autoUse none => false

section Stream

theorem headEnd?_bounds {bytes : List UInt8} {ends : Nat} (found : headEnd? bytes = some ends) :
    4 ≤ ends ∧ ends ≤ bytes.length := by
  induction bytes generalizing ends with
  | nil => cases found
  | cons byte rest ih =>
    rw [headEnd?] at found
    split at found
    next here =>
      cases found
      have fits := (List.isPrefixOf_iff_prefix.1 here).length_le
      exact ⟨le_rfl, fits⟩
    next =>
      obtain ⟨later, inRest, rfl⟩ := Option.map_eq_some_iff.1 found
      have bounds := ih inRest
      rw [List.length_cons]
      omega

/-- Later bytes do not move the first blank line. -/
theorem headEnd?_append {bytes : List UInt8} {ends : Nat} (found : headEnd? bytes = some ends) (more : List UInt8) :
    headEnd? (bytes ++ more) = some ends := by
  induction bytes generalizing ends with
  | nil => cases found
  | cons byte rest ih =>
    rw [headEnd?] at found
    rw [List.cons_append, headEnd?]
    split at found
    next here =>
      have still : blankLine.isPrefixOf (byte :: (rest ++ more)) = true :=
        List.isPrefixOf_iff_prefix.2 ((List.isPrefixOf_iff_prefix.1 here).trans (List.prefix_append (byte :: rest) more))
      rw [if_pos still, found]
    next absent =>
      obtain ⟨later, inRest, rfl⟩ := Option.map_eq_some_iff.1 found
      have bounds := headEnd?_bounds inRest
      have still : ¬blankLine.isPrefixOf (byte :: (rest ++ more)) = true := by
        intro here
        apply absent
        apply List.isPrefixOf_iff_prefix.2
        refine List.prefix_of_prefix_length_le (List.isPrefixOf_iff_prefix.1 here)
          (List.prefix_append (byte :: rest) more) ?_
        show 4 ≤ rest.length + 1
        omega
      rw [if_neg still, ih inRest]
      rfl

theorem read_delivered {stream rest : Stream} {limit : Nat} {bytes : List UInt8}
    (read : stream.read limit = .ok (bytes, rest)) : delivered stream = bytes ++ delivered rest := by
  cases stream with
  | nil =>
    cases read
    rfl
  | cons head tail =>
    cases head with
    | fails kind => cases read
    | data chunk =>
      cases read
      rw [delivered, List.flatMap_cons]
      split
      next fits => rw [List.take_of_length_le fits]; rfl
      next => rw [delivered, List.flatMap_cons, ← List.append_assoc]; simp [Delivery.bytes]

/-- What `findHead` returns lies at the front of what the socket delivers. -/
theorem findHead_delivered {bytes all : List UInt8} {stream rest : Stream} {ends : Nat}
    (found : findHead bytes stream = .ok (ends, all, rest)) :
    headEnd? all = some ends ∧ all ++ delivered rest = bytes ++ delivered stream := by
  fun_induction findHead bytes stream with
  | case1 => cases found
  | case2 bytes stream ends' here fits =>
    cases found
    exact ⟨here, rfl⟩
  | case3 => cases found
  | case4 => cases found
  | case5 => cases found
  | case6 bytes stream unfound room byte more after read ih =>
    obtain ⟨here, same⟩ := ih found
    refine ⟨here, same.trans ?_⟩
    rw [read_delivered read, List.append_assoc]

theorem of?_of_prefix {bytes : List UInt8} {ends : Nat} {text : Text} (found : headEnd? bytes = some ends)
    (decoded : decode (bytes.take (ends - 4)) = some text) (more : List UInt8) :
    Head.of? (bytes ++ more) = some (.ofText text) := by
  have bounds := headEnd?_bounds found
  have cut : (bytes ++ more).take (ends - 4) = bytes.take (ends - 4) :=
    List.take_append_of_le_length (by omega)
  simp [Head.of?, headEnd?_append found more, cut, decoded]

end Stream

section Fields

theorem parseField_eq {line : Text} {field : String × String} (parsed : parseField line = .ok field) :
    fieldOf line = some field := by
  rw [parseField, ite_error_eq_ok] at parsed
  rw [fieldOf]
  cases parts : splitOnce ':' line with
  | none =>
    rw [parts] at parsed
    cases parsed.2
  | some pair =>
    simp only [parts, ite_error_eq_ok] at parsed
    exact congrArg some (Except.ok.inj parsed.2.2.2)

/-- The table holds exactly what the lines say, since a name that comes a second
time ends the request. -/
theorem parseFields_values {count : Nat} {headers final : Table String String} {lines : List Text}
    (parsed : parseFields count headers lines = .ok final) (name : String) :
    (headers.get? name).toList ++ valuesOf (lines.filterMap fieldOf) name = (final.get? name).toList := by
  induction lines generalizing count headers with
  | nil =>
    cases parsed
    exact List.append_nil _
  | cons line lines ih =>
    rw [parseFields, ite_error_eq_ok, bind_eq_ok] at parsed
    obtain ⟨_, ⟨key, value⟩, field, parsed⟩ := parsed
    obtain ⟨fresh, parsed⟩ := ite_error_eq_ok.1 parsed
    have absent : headers.get? key = none := by simpa using fresh
    have later := ih parsed
    rw [List.filterMap_cons, parseField_eq field]
    rw [Table.get?_insert] at later
    by_cases same : name = key
    · subst same
      rw [if_pos rfl] at later
      simpa [valuesOf, absent] using later
    · rw [if_neg same] at later
      simpa [valuesOf, Ne.symm same] using later

/-- The request that a head was parsed into and the head's own text. -/
structure Reads (request : Request) (head : Head) : Prop where
  method : head.method = request.method
  values : ∀ name, head.values name = (request.headers.get? name).toList

theorem parseRequestLine_method {line method path : Text} (parsed : parseRequestLine line = .ok (method, path)) :
    (line.splitOn ' ').headD [] = method := by
  rw [parseRequestLine] at parsed
  split at parsed
  next first second version parts =>
    rw [ite_error_eq_ok, ite_error_eq_ok, ite_error_eq_ok] at parsed
    rw [parts]
    exact congrArg Prod.fst (Except.ok.inj parsed.2.2.2)
  next => cases parsed

theorem parseHead_reads {text : Text} {body : List UInt8} {request : Request} {length : Nat}
    (parsed : parseHead text body = .ok (request, length)) : Reads request (.ofText text) := by
  rw [parseHead] at parsed
  split at parsed
  next => cases parsed
  next requestLine lines split =>
    rw [bind_eq_ok] at parsed
    obtain ⟨⟨method, path⟩, line, parsed⟩ := parsed
    obtain ⟨headers, fields, parsed⟩ := bind_eq_ok.1 parsed
    obtain ⟨_, parsed⟩ := ite_error_eq_ok.1 parsed
    obtain ⟨announced, _, parsed⟩ := bind_eq_ok.1 parsed
    obtain ⟨_, parsed⟩ := ite_error_eq_ok.1 parsed
    obtain ⟨_, parsed⟩ := ite_error_eq_ok.1 parsed
    cases parsed
    constructor
    · have first : (splitLines text).headD [] = requestLine := by rw [split]; rfl
      rw [Head.ofText, first, parseRequestLine_method line]
    · intro name
      have same := parseFields_values fields name
      simpa [Head.values, Head.ofText, split, Table.get?, Table.empty] using same

theorem readHead_reads {stream rest : Stream} {request : Request} {length : Nat}
    (read : readHead stream = .ok (request, length, rest)) :
    ∃ head, Head.of? (delivered stream) = some head ∧ Reads request head := by
  rw [readHead, bind_eq_ok] at read
  obtain ⟨⟨ends, bytes, after⟩, found, read⟩ := read
  obtain ⟨here, same⟩ := findHead_delivered found
  dsimp only at read
  split at read
  next => cases read
  next text decoded =>
    obtain ⟨⟨parsed, announced⟩, head, read⟩ := bind_eq_ok.1 read
    cases read
    refine ⟨.ofText text, ?_, parseHead_reads head⟩
    rw [← List.nil_append (delivered stream), ← same]
    exact of?_of_prefix here decoded _

end Fields

section Checks

theorem foldl_or_eq_zero (pairs : List (UInt8 × UInt8)) (difference : UInt8) :
    pairs.foldl (fun difference pair => difference ||| (pair.1 ^^^ pair.2)) difference = 0 ↔
      difference = 0 ∧ ∀ pair ∈ pairs, pair.1 = pair.2 := by
  induction pairs generalizing difference with
  | nil => simp
  | cons pair pairs ih => rw [List.foldl_cons, ih, UInt8.or_eq_zero_iff, UInt8.xor_eq_zero_iff, List.forall_mem_cons, and_assoc]

theorem constantTimeEq_iff {left right : List UInt8} : constantTimeEq left right = true ↔ left = right := by
  have aligned : left = right ↔ left.length = right.length ∧ ∀ {a b}, (a, b) ∈ left.zip right → a = b := by
    rw [← List.forall₂_iff_zip, List.forall₂_eq_eq_eq]
  rw [constantTimeEq, aligned]
  by_cases same : left.length = right.length
  · rw [if_neg (not_not.2 same), decide_eq_true_eq, foldl_or_eq_zero]
    refine ⟨fun ⟨_, equal⟩ => ⟨same, fun member => equal _ member⟩, fun ⟨_, equal⟩ => ⟨rfl, fun _ member => equal member⟩⟩
  · rw [if_pos same]
    exact ⟨fun equal => absurd equal Bool.false_ne_true, fun ⟨equal, _⟩ => absurd equal same⟩

variable {bridge : Bridge} {request : Request} {head : Head}

theorem token_of_validToken (valid : bridge.validToken request = true) :
    request.headers.get? Bridge.tokenHeader = some bridge.token := by
  rw [Bridge.validToken, Option.any_eq_true_iff_get] at valid
  obtain ⟨present, same⟩ := valid
  rw [← utf8_injective (constantTimeEq_iff.1 same), Option.some_get]

theorem forall_mem_toList {value? : Option α} {wrong : α → Bool} (absent : ¬value?.any wrong = true) :
    ∀ value ∈ value?.toList, wrong value = false := by
  intro value member
  rw [Option.mem_toList.1 member] at absent
  simpa only [Option.any_some, Bool.not_eq_true] using absent

/-- The checks made on the table of headers, said of the head. -/
theorem authorised_of_checks (reads : Reads request head) (boundary : bridge.validBrowserBoundary request = true)
    (token : bridge.validToken request = true) : Authorised bridge head := by
  simp only [Bridge.validBrowserBoundary, Bool.if_false_left, Bool.and_eq_true, Bool.not_eq_true', decide_eq_false_iff_not,
    not_not, ne_eq] at boundary
  obtain ⟨host, origin, posted, site, _⟩ := boundary
  constructor
  · rw [reads.values, host]
    rfl
  · intro found member
    rw [reads.values] at member
    simpa using forall_mem_toList origin found member
  · intro post
    rw [reads.method] at post
    have present : request.headers.get? "origin" = some ("http://" ++ bridge.expectedHost) := by simpa [post] using posted
    rw [reads.values, present]
    exact List.cons_ne_nil _ _
  · intro found member
    rw [reads.values] at member
    have fine := forall_mem_toList site found member
    simpa only [Bool.and_eq_false_iff, decide_eq_false_iff_not, not_not] using fine
  · rw [reads.values, token_of_validToken token]
    rfl

end Checks

section Dispatch
variable {outside : Outside} {bridge : Bridge} {request : Request} {call : NativeCall}

/-- A request behind which an operation may stand. -/
structure Admitted (bridge : Bridge) (request : Request) (call : NativeCall) : Prop where
  boundary : bridge.validBrowserBoundary request = true
  token : bridge.validToken request = true
  post : posts call = true → request.method = "POST"

theorem guarded_calls {turn : Turn} (invoked : call ∈ (bridge.guarded request turn).calls) :
    bridge.validToken request = true ∧ call ∈ turn.calls := by
  rw [Bridge.guarded] at invoked
  split at invoked
  next => cases invoked
  next valid => exact ⟨by simpa using valid, invoked⟩

theorem snapshot_calls (invoked : call ∈ (bridge.snapshot outside).calls) : call = .status := by
  rw [Bridge.snapshot] at invoked
  split at invoked
  next => cases invoked
  next =>
    split at invoked
    next => exact List.mem_singleton.1 invoked
    next => split at invoked <;> exact List.mem_singleton.1 invoked

theorem preference_calls (invoked : call ∈ (bridge.preference outside request).calls) :
    posts call = true → request.method = "POST" := by
  intro changes
  rw [Bridge.preference] at invoked
  split at invoked
  next => cases invoked
  next enabled asked =>
    have same : call = .autoUse enabled := by
      split at invoked
      next => cases invoked
      next => split at invoked <;> exact List.mem_singleton.1 invoked
    subst same
    -- only the branch of `POST` passes a value on
    by_contra other
    rw [Bridge.preferenceArgument, if_neg other] at asked
    split at asked
    next => cases asked
    next =>
      cases asked
      cases changes

theorem handle_calls (invoked : call ∈ (bridge.handle outside request).calls) : Admitted bridge request call := by
  rw [Bridge.handle] at invoked
  split at invoked
  next => cases invoked
  next valid =>
    have boundary : bridge.validBrowserBoundary request = true := by simpa using valid
    split at invoked
    next =>
      split at invoked
      next =>
        obtain ⟨token, invoked⟩ := guarded_calls invoked
        exact ⟨boundary, token, preference_calls invoked⟩
      next => cases invoked
    next =>
      split at invoked
      next =>
        split at invoked
        next =>
          split at invoked
          next => cases invoked
          next =>
            obtain ⟨token, invoked⟩ := guarded_calls invoked
            rw [snapshot_calls invoked]
            exact ⟨boundary, token, fun posted => by cases posted⟩
        next => cases invoked
      next =>
        split at invoked
        next =>
          split at invoked
          next post => exact ⟨boundary, (guarded_calls invoked).1, fun _ => post⟩
          next => cases invoked
        next =>
          -- assets and refusals
          split at invoked
          next => cases invoked
          next => split at invoked <;> cases invoked

theorem fileRequest_calls {stream : Stream} {length : Nat}
    (invoked : call ∈ (bridge.fileRequest outside stream request length).calls) : Admitted bridge request call := by
  rw [Bridge.fileRequest] at invoked
  split at invoked
  next => cases invoked
  next valid =>
    split at invoked
    next => cases invoked
    next post =>
      exact ⟨by simpa using valid, (guarded_calls invoked).1, fun _ => not_not.1 post⟩

theorem readSmallBody_same {stream : Stream} {length : Nat} {filled : Request}
    (read : readSmallBody stream request length = .ok filled) :
    filled.method = request.method ∧ filled.headers = request.headers := by
  rw [readSmallBody, ite_error_eq_ok, bind_eq_ok] at read
  obtain ⟨_, body, _, read⟩ := read
  split at read
  next => split at read <;> cases read
  next =>
    cases read
    exact ⟨rfl, rfl⟩

end Dispatch

/-- Whatever bytes a connection carries and however the socket cuts them, an
operation of the backend is invoked only for a head with the one expected host,
the origin of the bridge itself where one is named and always for `POST`, no
foreign fetch site and the one token of this process. -/
theorem native_call_authorised (outside : Outside) (bridge : Bridge) (stream : Stream) (turn : Turn)
    (answered : bridge.handleConnection outside stream = some turn) (call : NativeCall) (invoked : call ∈ turn.calls) :
    ∃ head, Head.of? (delivered stream) = some head ∧ Authorised bridge head ∧
      (posts call = true → head.method = "POST") := by
  rw [Bridge.handleConnection] at answered
  split at answered
  next => cases answered
  next =>
    cases answered
    split at invoked
    next => cases invoked
    next request length rest read =>
      obtain ⟨head, spelled, reads⟩ := readHead_reads read
      refine ⟨head, spelled, ?_⟩
      split at invoked
      next =>
        have admitted := fileRequest_calls invoked
        exact ⟨authorised_of_checks reads admitted.boundary admitted.token,
          fun posted => reads.method.trans (admitted.post posted)⟩
      next =>
        split at invoked
        next => cases invoked
        next filled small =>
          obtain ⟨sameMethod, sameHeaders⟩ := readSmallBody_same small
          have readsFilled : Reads filled head :=
            ⟨reads.method.trans sameMethod.symm, fun name => sameHeaders ▸ reads.values name⟩
          have admitted := handle_calls invoked
          exact ⟨authorised_of_checks readsFilled admitted.boundary admitted.token,
            fun posted => readsFilled.method.trans (admitted.post posted)⟩

/-- The one object that the preference is read from. -/
def preferenceText (enabled : Bool) : String := "\x7b\"enabled\":" ++ toString enabled ++ "\x7d"

/-- Surroundings in which every call succeeds and the preference is stored. -/
def calmOutside : Outside where
  setTimeouts := true
  computeLane := true
  controlLane := true
  nowUnixMs := 0
  staticAsset _ _ := .error 404 "NOT_FOUND"
  fromSlice _ := none
  preferenceFromSlice body := [true, false].find? fun enabled => body = utf8 (preferenceText enabled)
  file := ⟨true, true, fun _ => true, true⟩
  finish := ⟨true, true, .wouldBlock, true⟩
  status := none
  computeBlake3 := none
  autoUse enabled := .ok ⟨enabled.getD false, "SAVED"⟩
  computeFile _ := .error .other

def localBridge : Bridge := ⟨"127.0.0.1:9", "c0ffee", none⟩

/-- A change of the preference, cut inside the name of a header. -/
def preferencePost : Stream :=
  [.data (utf8 "POST /bridge/v1/auto-use HTTP/1.1\r\nHOST: 127.0.0.1:9\r\nOri"),
    .data (utf8 "gin:http://127.0.0.1:9 \r\nX-PhoneBoost-Bridge-Token: c0ffee\r\n"),
    .data (utf8 ("Content-Type: application/json\r\nContent-Length: 16\r\n\r\n" ++ preferenceText true))]

theorem native_call_authorised_preference :
    ∃ head, Head.of? (delivered preferencePost) = some head ∧ Authorised localBridge head ∧
      (posts (.autoUse (some true)) = true → head.method = "POST") := by
  have invoked : (localBridge.handleConnection calmOutside preferencePost).map Turn.calls = some [.autoUse (some true)] := by
    decide +kernel
  obtain ⟨turn, answered, calls⟩ := Option.map_eq_some_iff.1 invoked
  refine native_call_authorised calmOutside localBridge preferencePost turn answered _ ?_
  rw [calls]
  exact List.mem_singleton_self _

end PhoneBoost.Web.Proofs
