import PhoneBoost.Lib.Table
import PhoneBoost.Types

/-! Requests of the loopback bridge. The head is found in whatever pieces the
socket delivers, decoded as UTF-8 and taken apart; the body of an ordinary
request is read to its announced length. Tests that the source makes on the
bytes of a text are made on its characters: no byte of a longer character is
ASCII. -/

namespace PhoneBoost.Web
open Keyed

def headerLimit : Nat := 8 * 1024
def headerFieldLimit : Nat := 32
def bodyLimit : Nat := 1024

/-- The JSON that answers are made of. -/
inductive Value where
  | null | bool (value : Bool) | number (value : Nat) | string (text : String)
  | object (fields : List (String × Value))

inductive Response where
  | json (status : Nat) (value : Value)
  | asset (contentType : String) (body : List UInt8) (headOnly : Bool)

def Response.error (status : Nat) (reason : String) : Response :=
  .json status (.object [("provenance", .string "UNAVAILABLE"), ("reason", .string reason)])

def controlError (status : Nat) (code : String) : Response := .json status (.object [("error", .string code)])

structure Request where
  method : String
  path : String
  headers : Table String String
  body : List UInt8

inductive ErrorKind where
  | timedOut | wouldBlock | other
deriving DecidableEq, Repr

/-- What the socket has for one `read`: bytes, none of them at the end of the
stream, or an error. -/
inductive Delivery where
  | data (bytes : List UInt8) | fails (kind : ErrorKind)
deriving DecidableEq, Repr

abbrev Stream := List Delivery

/-- One `read` into a buffer of `limit` bytes; what does not fit stays. -/
def Stream.read (limit : Nat) : Stream → Except ErrorKind (List UInt8 × Stream)
  | [] => .ok ([], [])
  | .fails kind :: _ => .error kind
  | .data bytes :: rest =>
    .ok (bytes.take limit, if bytes.length ≤ limit then rest else .data (bytes.drop limit) :: rest)

def invalidRequest : Response := .error 400 "INVALID_REQUEST"

def headersTooLarge : Response := .error 413 "REQUEST_HEADERS_TOO_LARGE"

def blankLine : List UInt8 := [13, 10, 13, 10]

/-- Where the first blank line ends. -/
def headEnd? : List UInt8 → Option Nat
  | [] => none
  | byte :: rest => if blankLine.isPrefixOf (byte :: rest) then some 4 else (headEnd? rest).map (· + 1)

/-- The first loop of `read_head`, from the bytes read so far. -/
def findHead (bytes : List UInt8) (stream : Stream) : Except Response (Nat × List UInt8 × Stream) :=
  match headEnd? bytes with
  | some ends => if headerLimit < ends then .error headersTooLarge else .ok (ends, bytes, stream)
  | none =>
    if _full : headerLimit ≤ bytes.length then .error headersTooLarge
    else
      match stream.read 1024 with
      | .error _ => .error invalidRequest
      | .ok ([], _) => .error invalidRequest
      | .ok (byte :: more, rest) => findHead (bytes ++ byte :: more) rest
termination_by headerLimit - bytes.length
decreasing_by
  simp only [List.length_append, List.length_cons]
  omega

abbrev Text := List Char

def decode (bytes : List UInt8) : Option Text := (String.fromUTF8? ⟨bytes.toArray⟩).map String.toList

/-- `split` at each CR LF. -/
def splitLines : Text → List Text
  | [] => [[]]
  | '\r' :: '\n' :: rest => [] :: splitLines rest
  | char :: rest =>
    match splitLines rest with
    | [] => [[char]]
    | line :: lines => (char :: line) :: lines

def splitOnce (mark : Char) : Text → Option (Text × Text)
  | [] => none
  | char :: rest => if char = mark then some ([], rest) else (splitOnce mark rest).map fun parts => (char :: parts.1, parts.2)

/-- The property `White_Space` of Unicode. -/
def isWhitespace (char : Char) : Bool :=
  let code := char.toNat
  (9 ≤ code && code ≤ 13) || code = 0x20 || code = 0x85 || code = 0xa0 || code = 0x1680 || (0x2000 ≤ code && code ≤ 0x200a) ||
    code = 0x2028 || code = 0x2029 || code = 0x202f || code = 0x205f || code = 0x3000

def trim (text : Text) : Text := ((text.dropWhile isWhitespace).reverse.dropWhile isWhitespace).reverse

def isAsciiUppercase (char : Char) : Bool := 'A' ≤ char && char ≤ 'Z'

def isAsciiDigit (char : Char) : Bool := '0' ≤ char && char ≤ '9'

def isAsciiAlphanumeric (char : Char) : Bool := isAsciiUppercase char || ('a' ≤ char && char ≤ 'z') || isAsciiDigit char

def isAsciiControl (char : Char) : Bool := char.toNat < 0x20 || char.toNat = 0x7f

/-- `to_ascii_lowercase` -/
def lowered (name : Text) : String := .ofList (name.map Char.toLower)

def trimmed (value : Text) : String := .ofList (trim value)

/-- Method and path of a request line. -/
def parseRequestLine (line : Text) : Except Response (Text × Text) :=
  match line.splitOn ' ' with
  | [method, path, version] =>
    if version ≠ "HTTP/1.1".toList then .error invalidRequest
    else if !method.all isAsciiUppercase then .error invalidRequest
    else if path.head? ≠ some '/' || path.contains '?' || path.contains '#' then .error invalidRequest
    else .ok (method, path)
  | _ => .error invalidRequest

def parseField (line : Text) : Except Response (String × String) :=
  if line.head? = some ' ' || line.head? = some '\t' then .error invalidRequest
  else
    match splitOnce ':' line with
    | none => .error invalidRequest
    | some (name, value) =>
      if name.isEmpty || !name.all (fun char => isAsciiAlphanumeric char || char = '-') then .error invalidRequest
      else if (trim value).any (fun char => isAsciiControl char && char ≠ '\t') then .error invalidRequest
      else .ok (lowered name, trimmed value)

/-- The loop over the lines after the request line. -/
def parseFields (fieldCount : Nat) (headers : Table String String) : List Text → Except Response (Table String String)
  | [] => .ok headers
  | line :: lines =>
    if headerFieldLimit < fieldCount + 1 then .error invalidRequest
    else do
      let (name, value) ← parseField line
      if (headers.get? name).isSome then .error invalidRequest
      else parseFields (fieldCount + 1) (headers.insert name value) lines

/-- `parse::<usize>` on decimal digits. -/
def parseUsize (digits : Text) : Option Nat :=
  let value := digits.foldl (fun sum digit => 10 * sum + (digit.toNat - '0'.toNat)) 0
  if value ≤ u64Max then some value else none

def invalidContentLength : Response := .error 400 "INVALID_CONTENT_LENGTH"

def bodyLength (headers : Table String String) : Except Response Nat :=
  match headers.get? "content-length" with
  | none => .ok 0
  | some value =>
    if value.toList.isEmpty || !value.toList.all isAsciiDigit then .error invalidContentLength
    else
      match parseUsize value.toList with
      | none => .error invalidContentLength
      | some length => .ok length

/-- Everything `read_head` does once the head is complete; `body` is what was
read beyond it. -/
def parseHead (text : Text) (body : List UInt8) : Except Response (Request × Nat) :=
  match splitLines text with
  | [] => .error invalidRequest
  | requestLine :: lines => do
    let (method, path) ← parseRequestLine requestLine
    let headers ← parseFields 0 .empty lines
    if (headers.get? "transfer-encoding").isSome then .error (.error 400 "TRANSFER_ENCODING_UNSUPPORTED")
    else do
      let length ← bodyLength headers
      if method = "POST".toList && (headers.get? "content-length").isNone then .error (.error 411 "CONTENT_LENGTH_REQUIRED")
      else if length < body.length then .error (.error 400 "REQUEST_PIPELINING_UNSUPPORTED")
      else .ok (⟨.ofList method, .ofList path, headers, body⟩, length)

def readHead (stream : Stream) : Except Response (Request × Nat × Stream) := do
  let (ends, bytes, stream) ← findHead [] stream
  match decode (bytes.take (ends - 4)) with
  | none => .error invalidRequest
  | some text =>
    let (request, length) ← parseHead text (bytes.drop ends)
    .ok (request, length, stream)

/-- The loop of `read_small_body`. -/
def fillBody (length : Nat) (body : List UInt8) (stream : Stream) : Except Response (List UInt8) :=
  if _short : body.length < length then
    match stream.read (min (length - body.length) 1024) with
    | .error _ => .error invalidRequest
    | .ok ([], _) => .error invalidRequest
    | .ok (byte :: more, rest) => fillBody length (body ++ byte :: more) rest
  else .ok body
termination_by length - body.length
decreasing_by
  simp only [List.length_append, List.length_cons]
  omega

def readSmallBody (stream : Stream) (request : Request) (length : Nat) : Except Response Request :=
  if bodyLimit < length then .error (.error 413 "REQUEST_BODY_TOO_LARGE")
  else do
    let body ← fillBody length request.body stream
    if request.method ≠ "POST" && !body.isEmpty then
      if request.path = "/bridge/v1/auto-use" then .error (controlError 400 "BAD_REQUEST") else .error invalidRequest
    else .ok { request with body }

end PhoneBoost.Web
