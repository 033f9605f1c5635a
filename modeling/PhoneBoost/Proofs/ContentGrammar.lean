import PhoneBoost.Web.ContentType

/-! The JSON content types as a grammar over bytes. The cursor of the parser stands
for the bytes from there on; each scanning function takes one run of them, and a
run is as long as it can be. -/

namespace PhoneBoost.Web.Proofs

/-- The bytes of a token, RFC 9110. -/
def tchars : List Char := "!#$%&'*+-.^_`|~0123456789ABCDEFGHIJKLMNOPQRSTUVWXYZabcdefghijklmnopqrstuvwxyz".toList

def Tchar (byte : UInt8) : Prop := Char.ofNat byte.toNat ∈ tchars

/-- Tab, space, or printable ASCII. -/
def Textual (byte : UInt8) : Prop := byte = 0x09 ∨ byte = 0x20 ∨ 0x21 ≤ byte ∧ byte ≤ 0x7e

def Ows (bytes : List UInt8) : Prop := ∀ byte ∈ bytes, byte = 0x20 ∨ byte = 0x09

def Token (bytes : List UInt8) : Prop := bytes ≠ [] ∧ ∀ byte ∈ bytes, Tchar byte

/-- A quoted string after its opening quote. -/
inductive Quoted : List UInt8 → Prop where
  | closes : Quoted [0x22]
  | plain {byte rest} (textual : Textual byte) (quote : byte ≠ 0x22) (escape : byte ≠ 0x5c) (more : Quoted rest) :
      Quoted (byte :: rest)
  | escaped {byte rest} (textual : Textual byte) (more : Quoted rest) : Quoted (0x5c :: byte :: rest)

inductive Word : List UInt8 → Prop where
  | token {bytes} (token : Token bytes) : Word bytes
  | quoted {bytes} (quoted : Quoted bytes) : Word (0x22 :: bytes)

/-- A parameter, from its semicolon to the white space after its value. -/
inductive Parameter : List UInt8 → Prop where
  | mk {first name second third value last} (first_ows : Ows first) (named : Token name) (second_ows : Ows second)
      (third_ows : Ows third) (valued : Word value) (last_ows : Ows last) :
      Parameter (0x3b :: (first ++ (name ++ (second ++ 0x3d :: (third ++ (value ++ last))))))

inductive Parameters : List UInt8 → Prop where
  | nil : Parameters []
  | cons {parameter rest} (first : Parameter parameter) (more : Parameters rest) : Parameters (parameter ++ rest)

def JsonContentType (value : List UInt8) : Prop :=
  ∃ first mediaType last rest, value = first ++ (mediaType ++ (last ++ rest)) ∧ Ows first ∧
    eqIgnoreAsciiCase mediaType "application/json".toByteArray.data.toList = true ∧ Ows last ∧ Parameters rest

theorem isTokenByte_iff (byte : UInt8) : isTokenByte byte = true ↔ Tchar byte := by
  have all : ∀ code : Fin 256, isTokenByte (UInt8.ofFin code) = true ↔ Char.ofNat code.val ∈ tchars := by decide +kernel
  exact all byte.toFin

theorem isOws_iff (byte : UInt8) : isOws byte = true ↔ byte = 0x20 ∨ byte = 0x09 := by
  simp [isOws]

theorem isEscapable_iff (byte : UInt8) : isEscapable byte = true ↔ Textual byte := by
  simp [isEscapable, Textual, or_assoc]

theorem isQuotable_iff (byte : UInt8) : isQuotable byte = true ↔ Textual byte ∧ byte ≠ 0x22 ∧ byte ≠ 0x5c := by
  simp only [isQuotable, Textual, Bool.or_eq_true, Bool.and_eq_true, decide_eq_true_eq, UInt8.le_iff_toNat_le,
    ← UInt8.toNat_inj, ne_eq, UInt8.reduceToNat]
  omega

/-- The next byte does not pass the test. -/
def Stops (test : UInt8 → Bool) (rest : List UInt8) : Prop := ∀ byte ∈ rest.head?, test byte = false

section Runs
variable {bytes run rest : List UInt8} {cursor after : Nat} {test : UInt8 → Bool}

theorem drop_run (here : bytes.drop cursor = run ++ rest) : bytes.drop (cursor + run.length) = rest := by
  rw [← List.drop_drop, here, List.drop_left]

theorem drop_cons (inside : cursor < bytes.length) (rest : bytes.drop (cursor + 1) = run) :
    bytes.drop cursor = bytes[cursor] :: run := by
  rw [List.drop_eq_getElem_cons inside, rest]

theorem drop_inside {byte : UInt8} (here : bytes.drop cursor = byte :: rest) :
    ∃ inside : cursor < bytes.length, bytes[cursor] = byte ∧ bytes.drop (cursor + 1) = rest := by
  have inside : cursor < bytes.length := by
    by_contra outside
    rw [List.drop_eq_nil_of_le (Nat.le_of_not_lt outside)] at here
    cases here
  rw [List.drop_eq_getElem_cons inside, List.cons.injEq] at here
  exact ⟨inside, here⟩

theorem skipWhile_run (bytes : List UInt8) (cursor : Nat) :
    ∃ run, bytes.drop cursor = run ++ bytes.drop (skipWhile test bytes cursor) ∧
      skipWhile test bytes cursor = cursor + run.length ∧ ∀ byte ∈ run, test byte = true := by
  fun_induction skipWhile test bytes cursor with
  | case1 cursor inside passes ih =>
    obtain ⟨run, here, length, all⟩ := ih
    refine ⟨bytes[cursor] :: run, ?_, ?_, ?_⟩
    · rw [drop_cons inside here, List.cons_append]
    · rw [length, List.length_cons]
      omega
    · intro byte member
      rcases List.mem_cons.mp member with rfl | member
      · exact passes
      · exact all byte member
  | case2 => exact ⟨[], rfl, rfl, by simp⟩
  | case3 => exact ⟨[], rfl, rfl, by simp⟩

/-- A run before a byte that does not belong to it is skipped exactly. -/
theorem skipWhile_exact (here : bytes.drop cursor = run ++ rest) (all : ∀ byte ∈ run, test byte = true)
    (stops : Stops test rest) : skipWhile test bytes cursor = cursor + run.length := by
  induction run generalizing cursor with
  | nil =>
    rw [skipWhile]
    split
    next inside =>
      rw [List.drop_eq_getElem_cons inside] at here
      have fails := stops bytes[cursor] (by rw [← List.nil_append rest, ← here]; rfl)
      simp [fails]
    next => rfl
  | cons byte run ih =>
    obtain ⟨inside, same, next⟩ := drop_inside here
    rw [skipWhile, dif_pos inside, same, if_pos (all byte List.mem_cons_self),
      ih next fun other member => all other (List.mem_cons_of_mem _ member), List.length_cons]
    omega

theorem stops_append (all : ∀ byte ∈ run, test byte = false) (stops : Stops test rest) : Stops test (run ++ rest) := by
  cases run with
  | nil => exact stops
  | cons byte run =>
    rintro _ ⟨⟩
    exact all byte List.mem_cons_self

theorem stops_cons {byte : UInt8} (fails : test byte = false) : Stops test (byte :: rest) := by
  rintro _ ⟨⟩
  exact fails

theorem skipOws_run (bytes : List UInt8) (cursor : Nat) :
    ∃ run, bytes.drop cursor = run ++ bytes.drop (skipOws bytes cursor) ∧ Ows run := by
  obtain ⟨run, here, -, all⟩ := @skipWhile_run isOws bytes cursor
  exact ⟨run, here, fun byte member => (isOws_iff byte).mp (all byte member)⟩

theorem skipOws_exact (here : bytes.drop cursor = run ++ rest) (ows : Ows run) (stops : Stops isOws rest) :
    skipOws bytes cursor = cursor + run.length :=
  skipWhile_exact here (fun byte member => (isOws_iff byte).mpr (ows byte member)) stops

theorem consumeToken_run (taken : consumeToken bytes cursor = some after) :
    ∃ run, bytes.drop cursor = run ++ bytes.drop after ∧ Token run := by
  simp only [consumeToken, Option.ite_none_right_eq_some, Option.some.injEq] at taken
  obtain ⟨advances, rfl⟩ := taken
  obtain ⟨run, here, length, all⟩ := @skipWhile_run isTokenByte bytes cursor
  refine ⟨run, here, ?_, fun byte member => (isTokenByte_iff byte).mp (all byte member)⟩
  rintro rfl
  rw [length, List.length_nil] at advances
  omega

theorem consumeToken_exact (here : bytes.drop cursor = run ++ rest) (token : Token run) (stops : Stops isTokenByte rest) :
    consumeToken bytes cursor = some (cursor + run.length) := by
  have skipped := skipWhile_exact here (fun byte member => (isTokenByte_iff byte).mpr (token.2 byte member)) stops
  have positive : 0 < run.length := List.length_pos_of_ne_nil token.1
  simp only [consumeToken, skipped]
  rw [if_pos (by omega)]

theorem consumeQuoted_run (taken : consumeQuoted bytes cursor = some after) :
    ∃ run, bytes.drop cursor = run ++ bytes.drop after ∧ Quoted run := by
  fun_induction consumeQuoted bytes cursor with
  | case1 cursor inside closes =>
    cases taken
    refine ⟨[0x22], ?_, .closes⟩
    rw [drop_cons inside rfl, closes]
    rfl
  | case2 => cases taken
  | case3 cursor inside opens escape escaped next fine ih =>
    obtain ⟨run, here, quoted⟩ := ih taken
    obtain ⟨within, same⟩ := List.getElem?_eq_some_iff.mp next
    refine ⟨0x5c :: escaped :: run, ?_, .escaped ((isEscapable_iff escaped).mp fine) quoted⟩
    rw [drop_cons inside (drop_cons within here), escape, same]
    rfl
  | case4 => cases taken
  | case5 cursor inside opens plain fine ih =>
    obtain ⟨run, here, quoted⟩ := ih taken
    refine ⟨bytes[cursor] :: run, ?_, .plain ((isQuotable_iff _).mp fine).1 opens plain quoted⟩
    rw [drop_cons inside here]
    rfl
  | case6 => cases taken
  | case7 => cases taken

theorem consumeQuoted_exact (quoted : Quoted run) (here : bytes.drop cursor = run ++ rest) :
    consumeQuoted bytes cursor = some (cursor + run.length) := by
  induction quoted generalizing cursor with
  | closes =>
    obtain ⟨inside, byte, -⟩ := drop_inside here
    rw [consumeQuoted, dif_pos inside, if_pos byte]
    rfl
  | @plain byte run textual quote escape more ih =>
    obtain ⟨inside, same, next⟩ := drop_inside here
    have quotable : isQuotable byte = true := (isQuotable_iff byte).mpr ⟨textual, quote, escape⟩
    rw [consumeQuoted, dif_pos inside, same, if_neg quote, if_neg escape, if_pos quotable, ih next, List.length_cons]
    congr 1
    omega
  | @escaped byte run textual more ih =>
    obtain ⟨inside, same, next⟩ := drop_inside here
    obtain ⟨within, follows, next⟩ := drop_inside next
    have escapable : isEscapable byte = true := (isEscapable_iff byte).mpr textual
    have found : bytes[cursor + 1]? = some byte := by rw [List.getElem?_eq_getElem within, follows]
    rw [consumeQuoted, dif_pos inside, same, if_neg (by decide), if_pos rfl, found]
    dsimp only
    rw [if_pos escapable, ih next, List.length_cons, List.length_cons]
    congr 1
    omega

theorem consumeValue_run (taken : consumeValue bytes cursor = some after) :
    ∃ run, bytes.drop cursor = run ++ bytes.drop after ∧ Word run := by
  simp only [consumeValue] at taken
  split at taken
  next quote =>
    simp only [consumeQuotedString, if_pos quote] at taken
    obtain ⟨inside, same⟩ := List.getElem?_eq_some_iff.mp quote
    obtain ⟨run, here, quoted⟩ := consumeQuoted_run taken
    refine ⟨0x22 :: run, ?_, .quoted quoted⟩
    rw [drop_cons inside here, same, List.cons_append]
  next =>
    obtain ⟨run, here, token⟩ := consumeToken_run taken
    exact ⟨run, here, .token token⟩

theorem Token.not_ows (token : Token run) : Stops isOws (run ++ rest) := by
  obtain ⟨nonempty, all⟩ := token
  cases run with
  | nil => exact absurd rfl nonempty
  | cons byte run =>
    refine stops_cons (Bool.eq_false_iff.mpr fun ows => ?_)
    have tchar := (isTokenByte_iff byte).mpr (all byte List.mem_cons_self)
    rcases (isOws_iff byte).mp ows with rfl | rfl
    · exact absurd tchar (by decide)
    · exact absurd tchar (by decide)

theorem Ows.not_token (ows : Ows run) (stops : Stops isTokenByte rest) : Stops isTokenByte (run ++ rest) := by
  refine stops_append (fun byte member => ?_) stops
  rcases ows byte member with rfl | rfl <;> decide

theorem consumeValue_exact (here : bytes.drop cursor = run ++ rest) (word : Word run) (stops : Stops isTokenByte rest) :
    consumeValue bytes cursor = some (cursor + run.length) := by
  cases word with
  | token token =>
    have other : bytes[cursor]? ≠ some 0x22 := by
      intro quote
      obtain ⟨inside, same⟩ := List.getElem?_eq_some_iff.mp quote
      rw [List.drop_eq_getElem_cons inside, same] at here
      obtain ⟨nonempty, all⟩ := token
      cases run with
      | nil => exact nonempty rfl
      | cons byte run =>
        have tchar := (isTokenByte_iff byte).mpr (all byte List.mem_cons_self)
        rw [← (List.cons.inj here).1] at tchar
        exact absurd tchar (by decide)
    rw [consumeValue, if_neg other]
    exact consumeToken_exact here token stops
  | quoted quoted =>
    obtain ⟨inside, same, next⟩ := drop_inside here
    have quote : bytes[cursor]? = some 0x22 := by rw [List.getElem?_eq_getElem inside, same]
    rw [consumeValue, if_pos quote, consumeQuotedString, if_pos quote, consumeQuoted_exact quoted next, List.length_cons]
    congr 1
    omega

theorem Word.not_ows (word : Word run) : Stops isOws (run ++ rest) := by
  cases word with
  | token token => exact token.not_ows
  | quoted => exact stops_cons (by decide)

theorem consumeParameter_run {inside : cursor < bytes.length} (taken : consumeParameter bytes cursor inside = some after) :
    ∃ run, bytes.drop cursor = run ++ bytes.drop after ∧ Parameter run := by
  simp only [consumeParameter, Option.ite_none_left_eq_some, Option.bind_eq_bind, Option.bind_eq_some_iff,
    Option.some.injEq, ne_eq, not_not] at taken
  obtain ⟨mark, named, nameTaken, equals, valued, valueTaken, rfl⟩ := taken
  obtain ⟨within, sign⟩ := List.getElem?_eq_some_iff.mp equals
  obtain ⟨first, atFirst, firstOws⟩ := skipOws_run bytes (cursor + 1)
  obtain ⟨name, atName, token⟩ := consumeToken_run nameTaken
  obtain ⟨second, atSecond, secondOws⟩ := skipOws_run bytes named
  obtain ⟨third, atThird, thirdOws⟩ := skipOws_run bytes (skipOws bytes named + 1)
  obtain ⟨value, atValue, word⟩ := consumeValue_run valueTaken
  obtain ⟨last, atLast, lastOws⟩ := skipOws_run bytes valued
  refine ⟨_, ?_, .mk firstOws token secondOws thirdOws word lastOws⟩
  rw [drop_cons inside atFirst, mark, atName, atSecond, drop_cons within atThird, sign, atValue, atLast]
  simp only [List.append_assoc, List.cons_append]

/-- What may follow a parameter. -/
theorem Parameters.stops (more : Parameters rest) : Stops isTokenByte rest ∧ Stops isOws rest := by
  cases more with
  | nil => exact ⟨by rintro _ ⟨⟩, by rintro _ ⟨⟩⟩
  | cons first more =>
    cases first
    exact ⟨stops_cons (by decide), stops_cons (by decide)⟩

theorem consumeParameter_exact (parameter : Parameter run) (more : Parameters rest)
    (here : bytes.drop cursor = run ++ rest) (inside : cursor < bytes.length) :
    consumeParameter bytes cursor inside = some (cursor + run.length) := by
  cases parameter with | @mk first name second third value last firstOws token secondOws thirdOws word lastOws
  simp only [List.cons_append, List.append_assoc] at here
  obtain ⟨_, mark, atFirst⟩ := drop_inside here
  have firstSkipped := skipOws_exact atFirst firstOws token.not_ows
  have atName := drop_run atFirst
  have nameTaken := consumeToken_exact atName token (secondOws.not_token (stops_cons (by decide)))
  have atSecond := drop_run atName
  have secondSkipped := skipOws_exact atSecond secondOws (stops_cons (by decide))
  obtain ⟨within, sign, atThird⟩ := drop_inside (drop_run atSecond)
  have equals := (List.getElem?_eq_getElem within).trans (congrArg some sign)
  have thirdSkipped := skipOws_exact atThird thirdOws word.not_ows
  have atValue := drop_run atThird
  have valueTaken := consumeValue_exact atValue word (lastOws.not_token more.stops.1)
  have lastSkipped := skipOws_exact (drop_run atValue) lastOws more.stops.2
  simp only [consumeParameter, mark, ne_eq, not_true_eq_false, if_false, firstSkipped, nameTaken, Option.bind_eq_bind,
    Option.bind_some, secondSkipped, equals, thirdSkipped, valueTaken, lastSkipped, List.length_cons, List.length_append,
    Option.some.injEq]
  omega

theorem parameters_iff : parameters bytes cursor = true ↔ Parameters (bytes.drop cursor) := by
  constructor
  · intro accepted
    fun_induction parameters bytes cursor with
    | case1 => cases accepted
    | case2 cursor inside after taken ih =>
      obtain ⟨run, here, parameter⟩ := consumeParameter_run taken
      rw [here]
      exact .cons parameter (ih accepted)
    | case3 cursor outside =>
      rw [List.drop_eq_nil_of_le (Nat.le_of_not_lt outside)]
      exact .nil
  · intro grammar
    generalize here : bytes.drop cursor = rest at grammar
    induction grammar generalizing cursor with
    | nil =>
      rw [parameters, dif_neg]
      exact Nat.not_lt_of_le (List.drop_eq_nil_iff.mp here)
    | @cons run rest parameter more ih =>
      have inside : cursor < bytes.length := by
        cases parameter
        exact (drop_inside here).1
      have taken := consumeParameter_exact parameter more here inside
      rw [parameters, dif_pos inside]
      split
      next missing =>
        rw [taken] at missing
        cases missing
      next after found =>
        rw [taken] at found
        cases found
        exact ih (drop_run here)

end Runs

/-- The media type starts with a letter and is as long as the literal. -/
theorem mediaType_shape {mediaType rest : List UInt8}
    (same : eqIgnoreAsciiCase mediaType "application/json".toByteArray.data.toList = true) :
    mediaType.length = 16 ∧ Stops isOws (mediaType ++ rest) := by
  simp only [eqIgnoreAsciiCase, decide_eq_true_eq] at same
  have sized := congrArg List.length same
  rw [List.length_map, List.length_map] at sized
  refine ⟨sized.trans (by decide), ?_⟩
  cases mediaType with
  | nil => cases same
  | cons byte mediaType =>
    refine stops_cons (Bool.eq_false_iff.mpr fun ows => ?_)
    have lowered : toAsciiLowercase byte = 0x61 := (List.cons.inj same).1
    rcases (isOws_iff byte).mp ows with rfl | rfl
    · exact absurd lowered (by decide)
    · exact absurd lowered (by decide)

theorem isJsonContentType_iff (value : List UInt8) : isJsonContentType value = true ↔ JsonContentType value := by
  simp only [isJsonContentType]
  constructor
  · intro accepted
    split at accepted
    · cases accepted
    split at accepted
    · cases accepted
    next same =>
      obtain ⟨first, atFirst, firstOws⟩ := skipOws_run value 0
      obtain ⟨last, atLast, lastOws⟩ := skipOws_run value (skipOws value 0 + 16)
      refine ⟨first, (value.drop (skipOws value 0)).take 16, last, _, ?_, firstOws, by simpa using same, lastOws,
        parameters_iff.mp accepted⟩
      rw [← atLast, ← List.drop_drop, List.take_append_drop, ← atFirst, List.drop_zero]
  · rintro ⟨first, mediaType, last, rest, whole, firstOws, same, lastOws, more⟩
    obtain ⟨length, stops⟩ := @mediaType_shape mediaType (last ++ rest) same
    have here : value.drop 0 = first ++ (mediaType ++ (last ++ rest)) := whole
    have firstSkipped := skipOws_exact here firstOws stops
    have atMedia := drop_run here
    have atLast := drop_run atMedia
    have lastSkipped := skipOws_exact atLast lastOws more.stops.2
    have media : (value.drop (0 + first.length)).take 16 = mediaType := by rw [atMedia, ← length, List.take_left]
    rw [length] at lastSkipped
    rw [firstSkipped, media, length, if_neg (Nat.lt_irrefl 16), same, lastSkipped]
    refine parameters_iff.mpr ?_
    rw [← length, drop_run atLast]
    exact more

section Cursors
variable {bytes : List UInt8} {cursor after : Nat}

theorem skipWhile_le (test : UInt8 → Bool) (inside : cursor ≤ bytes.length) : skipWhile test bytes cursor ≤ bytes.length := by
  fun_induction skipWhile test bytes cursor with
  | case1 cursor within _ ih => exact ih within
  | case2 => exact inside
  | case3 => exact inside

theorem consumeToken_le (inside : cursor ≤ bytes.length) (taken : consumeToken bytes cursor = some after) :
    after ≤ bytes.length := by
  simp only [consumeToken, Option.ite_none_right_eq_some, Option.some.injEq] at taken
  exact taken.2 ▸ skipWhile_le isTokenByte inside

theorem consumeQuoted_le (taken : consumeQuoted bytes cursor = some after) : after ≤ bytes.length := by
  fun_induction consumeQuoted bytes cursor with
  | case1 cursor inside _ =>
    cases taken
    exact inside
  | case2 | case4 | case6 | case7 => cases taken
  | case3 _ _ _ _ _ _ _ ih => exact ih taken
  | case5 _ _ _ _ _ ih => exact ih taken

theorem consumeValue_le (inside : cursor ≤ bytes.length) (taken : consumeValue bytes cursor = some after) :
    after ≤ bytes.length := by
  simp only [consumeValue] at taken
  split at taken
  next quote =>
    simp only [consumeQuotedString, if_pos quote] at taken
    exact consumeQuoted_le taken
  next => exact consumeToken_le inside taken

theorem consumeParameter_le {inside : cursor < bytes.length} (taken : consumeParameter bytes cursor inside = some after) :
    after ≤ bytes.length := by
  simp only [consumeParameter, Option.ite_none_left_eq_some, Option.bind_eq_bind, Option.bind_eq_some_iff,
    Option.some.injEq, ne_eq, not_not] at taken
  obtain ⟨-, named, nameTaken, equals, valued, valueTaken, rfl⟩ := taken
  obtain ⟨within, -⟩ := List.getElem?_eq_some_iff.mp equals
  exact skipWhile_le isOws (consumeValue_le (skipWhile_le isOws within) valueTaken)

end Cursors

/-- The parser accepts the language of the grammar, and the cursor of each of its
loops moves on and stays inside the value. -/
theorem json_content_type (value : List UInt8) :
    (isJsonContentType value = true ↔ JsonContentType value) ∧
    (∀ test cursor, cursor ≤ value.length → skipWhile test value cursor ≤ value.length) ∧
    (∀ (test : UInt8 → Bool) cursor (inside : cursor < value.length), test value[cursor] = true →
      cursor < skipWhile test value cursor) ∧
    (∀ cursor after, consumeQuoted value cursor = some after → cursor < after ∧ after ≤ value.length) ∧
    ∀ cursor inside after, consumeParameter value cursor inside = some after → cursor < after ∧ after ≤ value.length := by
  refine ⟨isJsonContentType_iff value, ?_, ?_, ?_, ?_⟩
  · intro test cursor inside
    exact skipWhile_le test inside
  · intro test cursor inside passes
    rw [skipWhile, dif_pos inside, if_pos passes]
    exact le_skipWhile test value (cursor + 1)
  · intro cursor after taken
    exact ⟨consumeQuoted_lt taken, consumeQuoted_le taken⟩
  · intro cursor inside after taken
    exact ⟨consumeParameter_lt taken, consumeParameter_le taken⟩

theorem json_content_type_charset :
    isJsonContentType "Application/JSON ; charset=\"utf-8\"".toByteArray.data.toList = true ∧
    JsonContentType "Application/JSON ; charset=\"utf-8\"".toByteArray.data.toList :=
  have accepted : isJsonContentType "Application/JSON ; charset=\"utf-8\"".toByteArray.data.toList = true := by decide +kernel
  ⟨accepted, (json_content_type _).1.mp accepted⟩

end PhoneBoost.Web.Proofs
