import Mathlib.Data.List.Basic

/-! Whether a `Content-Type` is JSON: a cursor walks over the bytes of the header
value, past the media type and then past one parameter after the other. -/

namespace PhoneBoost.Web

def isOws (byte : UInt8) : Bool := byte = 0x20 || byte = 0x09

def isAlphanumericByte (byte : UInt8) : Bool :=
  (0x30 ≤ byte && byte ≤ 0x39) || (0x41 ≤ byte && byte ≤ 0x5a) || (0x61 ≤ byte && byte ≤ 0x7a)

/-- The bytes of a token that are neither letters nor digits. -/
def tokenMarks : List UInt8 := [0x21, 0x23, 0x24, 0x25, 0x26, 0x27, 0x2a, 0x2b, 0x2d, 0x2e, 0x5e, 0x5f, 0x60, 0x7c, 0x7e]

def isTokenByte (byte : UInt8) : Bool := isAlphanumericByte byte || tokenMarks.contains byte

/-- `while bytes.get(cursor).is_some_and(test) { cursor += 1 }` -/
def skipWhile (test : UInt8 → Bool) (bytes : List UInt8) (cursor : Nat) : Nat :=
  if inside : cursor < bytes.length then
    if test bytes[cursor] then skipWhile test bytes (cursor + 1) else cursor
  else cursor
termination_by bytes.length - cursor

def skipOws (bytes : List UInt8) (cursor : Nat) : Nat := skipWhile isOws bytes cursor

def consumeToken (bytes : List UInt8) (start : Nat) : Option Nat :=
  let cursor := skipWhile isTokenByte bytes start
  if start < cursor then some cursor else none

def isEscapable (byte : UInt8) : Bool := byte = 0x09 || byte = 0x20 || (0x21 ≤ byte && byte ≤ 0x7e)

/-- A byte that stands for itself between the quotes. -/
def isQuotable (byte : UInt8) : Bool :=
  byte = 0x09 || byte = 0x20 || byte = 0x21 || (0x23 ≤ byte && byte ≤ 0x5b) || (0x5d ≤ byte && byte ≤ 0x7e)

/-- The loop of `consume_quoted_string`, after the opening quote. -/
def consumeQuoted (bytes : List UInt8) (cursor : Nat) : Option Nat :=
  if inside : cursor < bytes.length then
    if bytes[cursor] = 0x22 then some (cursor + 1)
    else if bytes[cursor] = 0x5c then
      match bytes[cursor + 1]? with
      | none => none
      | some escaped => if isEscapable escaped then consumeQuoted bytes (cursor + 2) else none
    else if isQuotable bytes[cursor] then consumeQuoted bytes (cursor + 1)
    else none
  else none
termination_by bytes.length - cursor

def consumeQuotedString (bytes : List UInt8) (cursor : Nat) : Option Nat :=
  if bytes[cursor]? = some 0x22 then consumeQuoted bytes (cursor + 1) else none

def consumeValue (bytes : List UInt8) (cursor : Nat) : Option Nat :=
  if bytes[cursor]? = some 0x22 then consumeQuotedString bytes cursor else consumeToken bytes cursor

/-- The body of the loop over the parameters. -/
def consumeParameter (bytes : List UInt8) (cursor : Nat) (inside : cursor < bytes.length) : Option Nat :=
  if bytes[cursor] ≠ 0x3b then none
  else do
    let cursor ← consumeToken bytes (skipOws bytes (cursor + 1))
    let cursor := skipOws bytes cursor
    if bytes[cursor]? ≠ some 0x3d then none
    else do
      let cursor ← consumeValue bytes (skipOws bytes (cursor + 1))
      some (skipOws bytes cursor)

theorem le_skipWhile (test : UInt8 → Bool) (bytes : List UInt8) (cursor : Nat) : cursor ≤ skipWhile test bytes cursor := by
  fun_induction skipWhile test bytes cursor with
  | case1 cursor inside passes ih => omega
  | case2 => exact Nat.le_refl _
  | case3 => exact Nat.le_refl _

theorem consumeToken_lt {bytes : List UInt8} {cursor after : Nat} (taken : consumeToken bytes cursor = some after) :
    cursor < after := by
  simp only [consumeToken, Option.ite_none_right_eq_some, Option.some.injEq] at taken
  omega

theorem consumeQuoted_lt {bytes : List UInt8} {cursor after : Nat} (taken : consumeQuoted bytes cursor = some after) :
    cursor < after := by
  fun_induction consumeQuoted bytes cursor with
  | case1 cursor inside closes =>
    cases taken
    exact Nat.lt_succ_self _
  | case2 => cases taken
  | case3 cursor inside opens escape escaped next fine ih =>
    have later := ih taken
    omega
  | case4 => cases taken
  | case5 cursor inside opens plain fine ih =>
    have later := ih taken
    omega
  | case6 => cases taken
  | case7 => cases taken

theorem consumeQuotedString_lt {bytes : List UInt8} {cursor after : Nat}
    (taken : consumeQuotedString bytes cursor = some after) : cursor < after := by
  simp only [consumeQuotedString, Option.ite_none_right_eq_some] at taken
  exact Nat.lt_trans (Nat.lt_succ_self _) (consumeQuoted_lt taken.2)

theorem consumeValue_lt {bytes : List UInt8} {cursor after : Nat} (taken : consumeValue bytes cursor = some after) :
    cursor < after := by
  simp only [consumeValue] at taken
  split at taken
  next => exact consumeQuotedString_lt taken
  next => exact consumeToken_lt taken

theorem consumeParameter_lt {bytes : List UInt8} {cursor after : Nat} {inside : cursor < bytes.length}
    (taken : consumeParameter bytes cursor inside = some after) : cursor < after := by
  simp only [consumeParameter, Option.ite_none_left_eq_some, Option.bind_eq_bind, Option.bind_eq_some_iff,
    Option.some.injEq] at taken
  obtain ⟨_, name, named, _, value, valued, rfl⟩ := taken
  have first : skipOws bytes (cursor + 1) < name := consumeToken_lt named
  have skipped : ∀ start, start ≤ skipOws bytes start := le_skipWhile isOws bytes
  have second : skipOws bytes (skipOws bytes name + 1) < value := consumeValue_lt valued
  have := skipped (cursor + 1)
  have := skipped name
  have := skipped (skipOws bytes name + 1)
  have := skipped value
  omega

/-- The loop over the parameters. -/
def parameters (bytes : List UInt8) (cursor : Nat) : Bool :=
  if inside : cursor < bytes.length then
    match _taken : consumeParameter bytes cursor inside with
    | none => false
    | some after => parameters bytes after
  else true
termination_by bytes.length - cursor
decreasing_by
  have later := consumeParameter_lt _taken
  omega

def toAsciiLowercase (byte : UInt8) : UInt8 := if 0x41 ≤ byte && byte ≤ 0x5a then byte + 0x20 else byte

def eqIgnoreAsciiCase (left right : List UInt8) : Bool := left.map toAsciiLowercase = right.map toAsciiLowercase

def isJsonContentType (value : List UInt8) : Bool :=
  let cursor := skipOws value 0
  let mediaType := (value.drop cursor).take 16
  -- the slice is absent when it would pass the end of the value
  if mediaType.length < 16 then false
  else if !eqIgnoreAsciiCase mediaType "application/json".toByteArray.data.toList then false
  else parameters value (skipOws value (cursor + 16))

end PhoneBoost.Web
