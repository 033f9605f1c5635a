import Mathlib.Data.Nat.Digits.Defs
import PhoneBoost.Proofs.BridgeAuthority

/-! What the bridge takes for a request. A request is described by the text of its
head and by its body; the parser accepts the description at the front of a stream
whatever the reads bring, unless one of them brings bytes behind the body. -/

namespace PhoneBoost.Web.Proofs
open Keyed Wire
open Secure (utf8)

/-- A head by its parts: method, path, and the fields as they are spelled. -/
structure Form where
  method : Text
  path : Text
  fields : List (Text × Text)

/-- The line of a field. -/
def written (field : Text × Text) : Text := field.1 ++ ':' :: field.2

def joinLines : List Text → Text
  | [] => []
  | [line] => line
  | line :: lines => line ++ '\r' :: '\n' :: joinLines lines

/-- Names go in without their case, values without white space around them. -/
def record (headers : Table String String) (field : Text × Text) : Table String String :=
  headers.insert (lowered field.1) (trimmed field.2)

/-- The number that decimal digits write. -/
def decimal (digits : Text) : Nat := Nat.ofDigits 10 (digits.reverse.map fun digit => digit.toNat - '0'.toNat)

namespace Form
variable (form : Form)

def requestLine : Text := form.method ++ ' ' :: (form.path ++ ' ' :: "HTTP/1.1".toList)

def lines : List Text := form.requestLine :: form.fields.map written

def text : Text := joinLines form.lines

def headers : Table String String := form.fields.foldl record .empty

/-- Content-Length, absent or decimal. -/
def Announces (length : Nat) : Prop :=
  match form.headers.get? "content-length" with
  | none => length = 0 ∧ form.method ≠ "POST".toList
  | some value => value.toList ≠ [] ∧ (∀ digit ∈ value.toList, isAsciiDigit digit = true) ∧ decimal value.toList = length

end Form

/-- No line break stands in a line. -/
def NoBreak (line : Text) : Prop := ¬ ['\r', '\n'] <:+: line

structure FieldValid (field : Text × Text) : Prop where
  named : field.1 ≠ []
  name : ∀ char ∈ field.1, isAsciiAlphanumeric char = true ∨ char = '-'
  value : ∀ char ∈ trim field.2, isAsciiControl char = true → char = '\t'

structure Form.Valid (form : Form) : Prop where
  method : ∀ char ∈ form.method, isAsciiUppercase char = true
  path : form.path.head? = some '/'
  pathChars : ' ' ∉ form.path ∧ '?' ∉ form.path ∧ '#' ∉ form.path
  few : form.fields.length ≤ 32
  fields : ∀ field ∈ form.fields, FieldValid field
  distinct : (form.fields.map fun field => lowered field.1).Nodup
  unbroken : ∀ line ∈ form.lines, NoBreak line
  plain : form.headers.get? "transfer-encoding" = none

section Lines

theorem NoBreak.tail {char : Char} {line : Text} (unbroken : NoBreak (char :: line)) : NoBreak line :=
  fun inside => unbroken (inside.trans (List.suffix_cons char line).isInfix)

theorem NoBreak.start {line rest : Text} (unbroken : NoBreak ('\r' :: line)) : line ≠ '\n' :: rest := by
  rintro rfl
  exact unbroken ⟨[], rest, rfl⟩

theorem noBreak_cons {char : Char} {line : Text} (unbroken : NoBreak line)
    (other : ∀ rest, char = '\r' → line ≠ '\n' :: rest) : NoBreak (char :: line) := by
  rintro ⟨before, after, whole⟩
  cases before with
  | nil =>
    obtain ⟨first, second⟩ := List.cons.inj whole
    exact other after first.symm second.symm
  | cons _ before => exact unbroken ⟨before, after, (List.cons.inj whole).2⟩

theorem joinLines_cons_cons (char : Char) (line : Text) (lines : List Text) :
    joinLines ((char :: line) :: lines) = char :: joinLines (line :: lines) := by
  cases lines <;> rfl

theorem joinLines_cons {line : Text} {lines : List Text} (more : lines ≠ []) :
    joinLines (line :: lines) = line ++ '\r' :: '\n' :: joinLines lines := by
  cases lines with
  | nil => exact absurd rfl more
  | cons => rfl

theorem splitLines_ne_nil (text : Text) : splitLines text ≠ [] := by
  fun_cases splitLines text <;> simp

theorem splitLines_lines (text : Text) :
    joinLines (splitLines text) = text ∧ ∀ line ∈ splitLines text, NoBreak line := by
  fun_induction splitLines text with
  | case1 => exact ⟨rfl, by simp [NoBreak]⟩
  | case2 rest ih =>
    refine ⟨?_, ?_⟩
    · rw [joinLines_cons (splitLines_ne_nil rest), ih.1]
      rfl
    · intro line member
      rcases List.mem_cons.mp member with rfl | member
      · simp [NoBreak]
      · exact ih.2 line member
  | case3 char rest _ empty => exact absurd empty (splitLines_ne_nil rest)
  | case4 char rest other line lines split ih =>
    rw [split] at ih
    refine ⟨by rw [joinLines_cons_cons, ih.1], ?_⟩
    intro written member
    rcases List.mem_cons.mp member with rfl | member
    · refine noBreak_cons (ih.2 line List.mem_cons_self) ?_
      rintro tail rfl rfl
      exact other (joinLines (tail :: lines)) rfl (ih.1.symm.trans (joinLines_cons_cons ..))
    · exact ih.2 written (List.mem_cons_of_mem _ member)

theorem splitLines_cons {char : Char} {rest : Text} (other : ∀ tail, char = '\r' → rest ≠ '\n' :: tail) {line : Text}
    {lines : List Text} (split : splitLines rest = line :: lines) : splitLines (char :: rest) = (char :: line) :: lines := by
  rw [splitLines, split]
  rintro tail rfl rfl
  exact other tail rfl rfl

theorem splitLines_unbroken {line rest : Text} (unbroken : NoBreak line) :
    splitLines line = [line] ∧ splitLines (line ++ '\r' :: '\n' :: rest) = line :: splitLines rest := by
  induction line with
  | nil => exact ⟨rfl, by rw [List.nil_append, splitLines]⟩
  | cons char line ih =>
    obtain ⟨alone, before⟩ := ih unbroken.tail
    refine ⟨splitLines_cons ?_ alone, splitLines_cons ?_ before⟩
    · rintro tail rfl
      exact unbroken.start
    · rintro tail rfl
      cases line with
      | nil => simp
      | cons next line =>
        intro same
        exact unbroken.start (by rw [(List.cons.inj same).1])

theorem splitLines_joinLines {lines : List Text} (nonempty : lines ≠ []) (unbroken : ∀ line ∈ lines, NoBreak line) :
    splitLines (joinLines lines) = lines := by
  induction lines with
  | nil => exact absurd rfl nonempty
  | cons line lines ih =>
    have here := unbroken line List.mem_cons_self
    cases lines with
    | nil => exact (@splitLines_unbroken line [] here).1
    | cons next lines =>
      rw [joinLines_cons (by simp), (splitLines_unbroken here).2, ih (by simp) fun other member =>
        unbroken other (List.mem_cons_of_mem _ member)]

end Lines

section Head

theorem not_mem_of_splitOn {mark : Char} {text part : Text} (member : part ∈ text.splitOn mark) : mark ∉ part := by
  induction text generalizing part with
  | nil =>
    simp only [List.splitOn_nil, List.mem_singleton] at member
    simp [member]
  | cons char text ih =>
    rw [List.splitOn_cons_eq_if_modifyHead] at member
    split at member
    · rcases List.mem_cons.mp member with rfl | member
      · simp
      · exact ih member
    next other =>
      cases parts : text.splitOn mark with
      | nil => exact absurd parts (List.splitOn_ne_nil mark text)
      | cons first rest =>
        rw [parts, List.modifyHead_cons] at member
        rw [parts] at ih
        rcases List.mem_cons.mp member with rfl | member
        · have different : mark ≠ char := by
            rintro rfl
            simp at other
          simpa [different] using ih List.mem_cons_self
        · exact ih (List.mem_cons_of_mem _ member)

theorem parseRequestLine_ok {line method path : Text} :
    parseRequestLine line = .ok (method, path) ↔ line = method ++ ' ' :: (path ++ ' ' :: "HTTP/1.1".toList) ∧
      (∀ char ∈ method, isAsciiUppercase char = true) ∧ path.head? = some '/' ∧ ' ' ∉ path ∧ '?' ∉ path ∧ '#' ∉ path := by
  constructor
  · intro parsed
    have joined : [' '].intercalate (line.splitOn ' ') = line := List.intercalate_splitOn ' '
    rw [parseRequestLine] at parsed
    split at parsed
    next first second version parts =>
      rw [ite_error_eq_ok, ite_error_eq_ok, ite_error_eq_ok] at parsed
      obtain ⟨same, upper, start, parsed⟩ := parsed
      cases parsed
      rw [parts] at joined
      have second : path ∈ line.splitOn ' ' := by rw [parts]; simp
      simp only [ne_eq, not_not] at same
      simp only [ne_eq, Bool.or_eq_true, decide_eq_true_eq, not_or, not_not, List.contains_iff_mem] at start
      refine ⟨?_, by simpa using upper, start.1.1, not_mem_of_splitOn second, start.1.2, start.2⟩
      rw [← joined, same]
      simp [List.intercalate]
    next => cases parsed
  · rintro ⟨rfl, upper, start, spaceless, query, fragment⟩
    have split : (method ++ ' ' :: (path ++ ' ' :: "HTTP/1.1".toList)).splitOn ' ' = [method, path, "HTTP/1.1".toList] := by
      have joined : [' '].intercalate [method, path, "HTTP/1.1".toList] = method ++ ' ' :: (path ++ ' ' :: "HTTP/1.1".toList) := by
        simp [List.intercalate]
      rw [← joined]
      refine List.splitOn_intercalate ' ' ?_ (by simp)
      intro part member space
      simp only [List.mem_cons, List.not_mem_nil, or_false] at member
      rcases member with rfl | rfl | rfl
      · exact absurd (upper ' ' space) (by decide)
      · exact spaceless space
      · exact absurd space (by decide)
    rw [parseRequestLine, split]
    dsimp only
    rw [if_neg (not_not.mpr rfl), if_neg (by simpa using upper), if_neg (by simp [start, query, fragment])]

theorem splitOnce_eq_some {mark : Char} {line before after : Text} :
    splitOnce mark line = some (before, after) ↔ line = before ++ mark :: after ∧ mark ∉ before := by
  induction line generalizing before with
  | nil => simp [splitOnce]
  | cons char line ih =>
    rw [splitOnce]
    by_cases here : char = mark
    · subst here
      rw [if_pos rfl]
      constructor
      · rintro ⟨⟩
        simp
      · rintro ⟨whole, absent⟩
        cases before with
        | nil =>
          cases whole
          rfl
        | cons first before => simp [(List.cons.inj whole).1] at absent
    · rw [if_neg here, Option.map_eq_some_iff]
      constructor
      · rintro ⟨⟨first, second⟩, found, same⟩
        cases same
        obtain ⟨rfl, absent⟩ := ih.mp found
        exact ⟨rfl, by simp [absent, Ne.symm here]⟩
      · rintro ⟨whole, absent⟩
        cases before with
        | nil => exact absurd (List.cons.inj whole).1 here
        | cons first before =>
          obtain ⟨rfl, rfl⟩ := List.cons.inj whole
          exact ⟨(before, after), ih.mpr ⟨rfl, fun inside => absent (List.mem_cons_of_mem _ inside)⟩, rfl⟩

theorem FieldValid.start {field : Text × Text} (valid : FieldValid field) :
    (written field).head? ≠ some ' ' ∧ (written field).head? ≠ some '\t' := by
  obtain ⟨name, value⟩ := field
  cases name with
  | nil => exact absurd rfl valid.named
  | cons char name =>
    have fits := valid.name char List.mem_cons_self
    constructor
    · rintro ⟨⟩
      exact absurd fits (by decide)
    · rintro ⟨⟩
      exact absurd fits (by decide)

theorem parseField_ok {line : Text} {field : String × String} :
    parseField line = .ok field ↔
      ∃ raw : Text × Text, line = written raw ∧ FieldValid raw ∧ field = (lowered raw.1, trimmed raw.2) := by
  constructor
  · intro parsed
    rw [parseField, ite_error_eq_ok] at parsed
    cases parts : splitOnce ':' line with
    | none =>
      rw [parts] at parsed
      cases parsed.2
    | some raw =>
      simp only [parts, ite_error_eq_ok] at parsed
      obtain ⟨_, name, value, made⟩ := parsed
      simp only [List.isEmpty_iff, Bool.or_eq_true, not_or, Bool.not_eq_true', Bool.not_eq_false, List.all_eq_true,
        decide_eq_true_eq] at name
      refine ⟨raw, (splitOnce_eq_some.mp parts).1, ⟨name.1, name.2, by simpa using value⟩, (Except.ok.inj made).symm⟩
  · rintro ⟨raw, rfl, valid, rfl⟩
    have once : splitOnce ':' (written raw) = some raw := by
      refine splitOnce_eq_some.mpr ⟨rfl, fun colon => ?_⟩
      exact absurd (valid.name ':' colon) (by decide)
    have name : ¬(raw.1.isEmpty || !raw.1.all fun char => isAsciiAlphanumeric char || char = '-') = true := by
      simpa [valid.named, or_iff_not_imp_left] using valid.name
    have value : ¬((trim raw.2).any fun char => isAsciiControl char && char ≠ '\t') = true := by
      simpa using valid.value
    rw [parseField, if_neg (by simp [valid.start]), once]
    dsimp only
    rw [if_neg name, if_neg value]

theorem get?_record {headers : Table String String} {field other : Text × Text} (different : lowered other.1 ≠ lowered field.1) :
    (record headers field).get? (lowered other.1) = headers.get? (lowered other.1) :=
  Table.get?_insert_of_ne headers _ different

theorem parseFields_of_valid {fields : List (Text × Text)} {count : Nat} {headers : Table String String}
    (few : count + fields.length ≤ 32) (valid : ∀ field ∈ fields, FieldValid field)
    (distinct : (fields.map fun field => lowered field.1).Nodup)
    (fresh : ∀ field ∈ fields, headers.get? (lowered field.1) = none) :
    parseFields count headers (fields.map written) = .ok (fields.foldl record headers) := by
  induction fields generalizing count headers with
  | nil => rfl
  | cons field fields ih =>
    rw [List.length_cons] at few
    obtain ⟨new, distinct⟩ := List.nodup_cons.mp distinct
    have parsed := parseField_ok.mpr ⟨field, rfl, valid field List.mem_cons_self, rfl⟩
    have room : ¬headerFieldLimit < count + 1 := by
      have limit : headerFieldLimit = 32 := rfl
      omega
    rw [List.map_cons, parseFields, if_neg room, parsed]
    show (if (headers.get? (lowered field.1)).isSome = true then _ else _) = _
    rw [if_neg (by simp [fresh field List.mem_cons_self])]
    refine ih (by omega) (fun other member => valid other (List.mem_cons_of_mem _ member)) distinct ?_
    intro other member
    have different : lowered other.1 ≠ lowered field.1 := by
      intro same
      exact new (List.mem_map.mpr ⟨other, member, same⟩)
    exact (get?_record different).trans (fresh other (List.mem_cons_of_mem _ member))

theorem valid_of_parseFields {lines : List Text} {count : Nat} {headers final : Table String String}
    (within : count ≤ 32) (parsed : parseFields count headers lines = .ok final) :
    ∃ fields : List (Text × Text), lines = fields.map written ∧ count + fields.length ≤ 32 ∧
      (∀ field ∈ fields, FieldValid field) ∧ (fields.map fun field => lowered field.1).Nodup ∧
      (∀ field ∈ fields, headers.get? (lowered field.1) = none) ∧ final = fields.foldl record headers := by
  induction lines generalizing count headers with
  | nil =>
    cases parsed
    exact ⟨[], rfl, within, by simp, List.nodup_nil, by simp, rfl⟩
  | cons line lines ih =>
    rw [parseFields, ite_error_eq_ok, bind_eq_ok] at parsed
    obtain ⟨room, ⟨name, value⟩, field, parsed⟩ := parsed
    obtain ⟨absent, parsed⟩ := ite_error_eq_ok.mp parsed
    obtain ⟨raw, rfl, valid, same⟩ := parseField_ok.mp field
    cases same
    have limit : headerFieldLimit = 32 := rfl
    obtain ⟨fields, rfl, few, valids, distinct, fresh, rfl⟩ := ih (by omega) parsed
    have apart : ∀ other ∈ fields, lowered other.1 ≠ lowered raw.1 := by
      intro other member same
      have absent := fresh other member
      rw [same, Table.get?_insert_self] at absent
      cases absent
    refine ⟨raw :: fields, rfl, by rw [List.length_cons]; omega, ?_, ?_, ?_, rfl⟩
    · exact List.forall_mem_cons.mpr ⟨valid, valids⟩
    · refine List.nodup_cons.mpr ⟨?_, distinct⟩
      intro member
      obtain ⟨other, inside, same⟩ := List.mem_map.mp member
      exact apart other inside same
    · refine List.forall_mem_cons.mpr ⟨by simpa using absent, ?_⟩
      intro other member
      exact (get?_record (apart other member)).symm.trans (fresh other member)

theorem parseUsize_eq {digits : Text} : parseUsize digits = if decimal digits ≤ u64Max then some (decimal digits) else none := by
  have value : digits.foldl (fun sum digit => 10 * sum + (digit.toNat - '0'.toNat)) 0 = decimal digits := by
    rw [decimal, Nat.ofDigits_eq_foldr, List.foldr_map, List.foldr_reverse]
    simp [Nat.add_comm]
  rw [parseUsize, value]

theorem Form.announces_iff {form : Form} {length : Nat} :
    form.Announces length ∧ length ≤ u64Max ↔
      bodyLength form.headers = .ok length ∧
        ¬(form.method = "POST".toList && (form.headers.get? "content-length").isNone) = true := by
  rw [Form.Announces, bodyLength]
  cases form.headers.get? "content-length" with
  | none =>
    simp only [Except.ok.injEq, Option.isNone_none, Bool.and_true, decide_eq_true_eq]
    constructor
    · rintro ⟨⟨rfl, other⟩, _⟩
      exact ⟨rfl, other⟩
    · rintro ⟨rfl, other⟩
      exact ⟨⟨rfl, other⟩, Nat.zero_le _⟩
  | some value =>
    simp only [Option.isNone_some, Bool.and_false, Bool.false_eq_true, not_false_eq_true, and_true, ite_error_eq_ok]
    have digits : ¬(value.toList.isEmpty || !value.toList.all isAsciiDigit) = true ↔
        value.toList ≠ [] ∧ ∀ digit ∈ value.toList, isAsciiDigit digit = true := by simp [not_or]
    rw [digits, parseUsize_eq, and_assoc, and_assoc, and_assoc]
    refine and_congr_right fun _ => and_congr_right fun _ => ?_
    split
    next value small misread =>
      constructor
      · rintro ⟨rfl, fits⟩
        exact absurd misread (by simp [fits])
      · rintro ⟨⟩
    next value read reading =>
      split at reading
      next fits =>
        cases reading
        simp only [Except.ok.injEq]
        constructor
        · exact And.left
        · rintro rfl
          exact ⟨rfl, fits⟩
      next => cases reading

/-- A valid head parses into its own parts, unless more was read than it announces. -/
theorem Form.Valid.parseHead {form : Form} (valid : form.Valid) {length : Nat} (announced : form.Announces length)
    (small : length ≤ u64Max) (body : List UInt8) :
    parseHead form.text body =
      if length < body.length then .error (.error 400 "REQUEST_PIPELINING_UNSUPPORTED")
      else .ok (⟨.ofList form.method, .ofList form.path, form.headers, body⟩, length) := by
  have lines : splitLines form.text = form.requestLine :: form.fields.map written :=
    splitLines_joinLines (by simp [Form.lines]) valid.unbroken
  have first : parseRequestLine form.requestLine = .ok (form.method, form.path) :=
    parseRequestLine_ok.mpr ⟨rfl, valid.method, valid.path, valid.pathChars⟩
  have fields : parseFields 0 .empty (form.fields.map written) = .ok form.headers :=
    parseFields_of_valid (by simpa using valid.few) valid.fields valid.distinct (by simp)
  obtain ⟨counted, post⟩ := Form.announces_iff.mp ⟨announced, small⟩
  rw [Web.parseHead, lines]
  simp only [first, fields, counted, valid.plain, Except.bind, bind]
  rw [if_neg (by simp), if_neg post]

/-- Whatever head is accepted is written by a valid form. -/
theorem valid_of_parseHead {text : Text} {body : List UInt8} {request : Request} {length : Nat}
    (parsed : parseHead text body = .ok (request, length)) :
    ∃ form : Form, form.Valid ∧ form.text = text ∧ form.Announces length ∧ body.length ≤ length ∧
      request = ⟨.ofList form.method, .ofList form.path, form.headers, body⟩ := by
  obtain ⟨joined, unbroken⟩ := splitLines_lines text
  rw [parseHead] at parsed
  split at parsed
  next => cases parsed
  next requestLine lines split =>
    rw [bind_eq_ok] at parsed
    obtain ⟨⟨method, path⟩, line, parsed⟩ := parsed
    obtain ⟨headers, fields, parsed⟩ := bind_eq_ok.mp parsed
    obtain ⟨plain, parsed⟩ := ite_error_eq_ok.mp parsed
    obtain ⟨announced, counted, parsed⟩ := bind_eq_ok.mp parsed
    obtain ⟨post, parsed⟩ := ite_error_eq_ok.mp parsed
    obtain ⟨within, parsed⟩ := ite_error_eq_ok.mp parsed
    cases parsed
    obtain ⟨rfl, upper, start, chars⟩ := parseRequestLine_ok.mp line
    obtain ⟨raws, rfl, few, valids, distinct, _, rfl⟩ := valid_of_parseFields (Nat.zero_le _) fields
    rw [split] at joined unbroken
    rw [Bool.not_eq_true, Option.isSome_eq_false_iff, Option.isNone_iff_eq_none] at plain
    refine ⟨⟨method, path, raws⟩, ⟨upper, start, chars, by simpa using few, valids, distinct, unbroken, plain⟩, joined,
      ?_, Nat.le_of_not_lt within, rfl⟩
    exact ((@Form.announces_iff ⟨method, path, raws⟩ length).mpr ⟨counted, post⟩).1

end Head

section Reading

/-- The first blank line of `bytes` stands between `head` and `rest`. -/
structure FirstBlank (bytes head rest : List UInt8) : Prop where
  whole : bytes = head ++ blankLine ++ rest
  first : ∀ before after, bytes = before ++ blankLine ++ after → head.length ≤ before.length

theorem FirstBlank.headEnd? {bytes head rest : List UInt8} (blank : FirstBlank bytes head rest) :
    headEnd? bytes = some (head.length + 4) := by
  obtain ⟨rfl, first⟩ := blank
  induction head with
  | nil =>
    rw [List.nil_append]
    have here : blankLine.isPrefixOf (blankLine ++ rest) = true := List.isPrefixOf_iff_prefix.mpr (List.prefix_append _ _)
    exact if_pos here
  | cons byte head ih =>
    rw [List.cons_append, List.cons_append, Web.headEnd?, if_neg, ih]
    · rfl
    · intro before after same
      have later := first (byte :: before) after (by rw [List.cons_append, List.cons_append, same]; rfl)
      simpa using later
    · intro here
      obtain ⟨after, same⟩ := List.isPrefixOf_iff_prefix.mp here
      have absent := first [] after same.symm
      simp at absent

theorem firstBlank_of_headEnd? {bytes : List UInt8} {ends : Nat} (found : headEnd? bytes = some ends) :
    FirstBlank bytes (bytes.take (ends - 4)) (bytes.drop ends) := by
  induction bytes generalizing ends with
  | nil => cases found
  | cons byte bytes ih =>
    rw [headEnd?] at found
    split at found
    next here =>
      cases found
      obtain ⟨after, same⟩ := List.isPrefixOf_iff_prefix.mp here
      refine ⟨?_, fun before after same => by simp⟩
      rw [← same]
      simp [blankLine]
    next absent =>
      obtain ⟨later, inRest, rfl⟩ := Option.map_eq_some_iff.mp found
      have bounds := headEnd?_bounds inRest
      obtain ⟨whole, first⟩ := ih inRest
      have cut : later + 1 - 4 = later - 4 + 1 := by omega
      rw [cut, List.take_succ_cons, List.drop_succ_cons]
      refine ⟨by rw [List.cons_append, List.cons_append, ← whole], ?_⟩
      intro before after same
      cases before with
      | nil => exact absurd (List.isPrefixOf_iff_prefix.mpr ⟨after, same.symm⟩) absent
      | cons _ before =>
        have later := first before after (List.cons.inj same).2
        simpa using later

/-- A blank line that ends within the first bytes is found in them alone. -/
theorem headEnd?_of_append {bytes more : List UInt8} {ends : Nat} (found : headEnd? (bytes ++ more) = some ends)
    (within : ends ≤ bytes.length) : headEnd? bytes = some ends := by
  have bounds := headEnd?_bounds found
  obtain ⟨whole, first⟩ := firstBlank_of_headEnd? found
  have long : ((bytes ++ more).take (ends - 4)).length = ends - 4 := by
    rw [List.length_take]
    omega
  have front : bytes.take ends = (bytes ++ more).take (ends - 4) ++ blankLine := by
    have cut : (bytes ++ more).take ends = bytes.take ends := List.take_append_of_le_length within
    rw [← cut]
    nth_rewrite 1 [whole]
    refine List.take_left' ?_
    rw [List.length_append, long]
    show ends - 4 + 4 = ends
    omega
  have blank : FirstBlank bytes ((bytes ++ more).take (ends - 4)) (bytes.drop ends) := by
    refine ⟨by rw [← front, List.take_append_drop], ?_⟩
    intro before after same
    exact first before (after ++ more) (by rw [same, List.append_assoc])
  rw [blank.headEnd?, long, Nat.sub_add_cancel bounds.1]

/-- A stream without errors that ends behind its last byte. -/
def Plain (stream : Stream) : Prop := ∀ delivery ∈ stream, ∃ bytes, delivery = .data bytes ∧ bytes ≠ []

theorem Plain.read {stream : Stream} (plain : Plain stream) {limit : Nat} (room : 0 < limit) :
    ∃ bytes rest, stream.read limit = .ok (bytes, rest) ∧ Plain rest ∧ (bytes = [] → stream = []) ∧ bytes.length ≤ limit := by
  cases stream with
  | nil => exact ⟨[], [], rfl, plain, fun _ => rfl, Nat.zero_le _⟩
  | cons delivery rest =>
    obtain ⟨⟨bytes, rfl, nonempty⟩, later⟩ := List.forall_mem_cons.mp plain
    refine ⟨_, _, rfl, ?_, ?_, List.length_take_le _ _⟩
    · split
      next => exact later
      next long =>
        refine List.forall_mem_cons.mpr ⟨⟨_, rfl, ?_⟩, later⟩
        rw [ne_eq, List.drop_eq_nil_iff]
        exact long
    · intro empty
      rcases List.take_eq_nil_iff.mp empty with zero | empty
      · omega
      · exact absurd empty nonempty

theorem Plain.findHead {stream : Stream} {bytes : List UInt8} {ends : Nat} (plain : Plain stream)
    (found : headEnd? (bytes ++ delivered stream) = some ends) (within : ends ≤ headerLimit) :
    ∃ all rest, findHead bytes stream = .ok (ends, all, rest) ∧ Plain rest := by
  fun_induction Web.findHead bytes stream with
  | case1 bytes stream other here long =>
    rw [headEnd?_append here] at found
    cases found
    omega
  | case2 bytes stream other here =>
    rw [headEnd?_append here] at found
    cases found
    exact ⟨_, _, rfl, plain⟩
  | case3 bytes stream unfound full =>
    rw [headEnd?_of_append found (by omega)] at unfound
    cases unfound
  | case4 bytes stream unfound room kind read =>
    obtain ⟨_, _, fine, _⟩ := plain.read (show 0 < 1024 by omega)
    rw [fine] at read
    cases read
  | case5 bytes stream unfound room rest read =>
    obtain ⟨_, _, fine, _, ended, _⟩ := plain.read (show 0 < 1024 by omega)
    rw [fine] at read
    cases read
    rw [ended rfl, delivered, List.flatMap_nil, List.append_nil, unfound] at found
    cases found
  | case6 bytes stream unfound room byte more rest read ih =>
    have same := read_delivered read
    obtain ⟨_, _, fine, later, _⟩ := plain.read (show 0 < 1024 by omega)
    rw [fine] at read
    cases read
    exact ih later (by rw [List.append_assoc, ← same, found])

theorem findHead_within {stream rest : Stream} {bytes all : List UInt8} {ends : Nat}
    (found : findHead bytes stream = .ok (ends, all, rest)) (plain : Plain stream) : ends ≤ headerLimit ∧ Plain rest := by
  fun_induction findHead bytes stream with
  | case1 => cases found
  | case2 bytes stream ends' here fits =>
    cases found
    exact ⟨Nat.le_of_not_lt fits, plain⟩
  | case3 => cases found
  | case4 => cases found
  | case5 => cases found
  | case6 bytes stream unfound room byte more after read ih =>
    obtain ⟨_, _, fine, later, _⟩ := plain.read (show 0 < 1024 by omega)
    rw [fine] at read
    cases read
    exact ih found later

/-- The body is what comes next, however the reads cut it. -/
theorem Plain.fillBody {stream : Stream} (plain : Plain stream) {length : Nat} {body : List UInt8} (within : body.length ≤ length) :
    fillBody length body stream =
      if length ≤ (body ++ delivered stream).length then .ok ((body ++ delivered stream).take length)
      else .error invalidRequest := by
  fun_induction Web.fillBody length body stream with
  | case1 body stream short kind read =>
    obtain ⟨_, _, fine, _⟩ := plain.read (show 0 < min (length - body.length) 1024 by omega)
    rw [fine] at read
    cases read
  | case2 body stream short rest read =>
    obtain ⟨_, _, fine, _, ended, _⟩ := plain.read (show 0 < min (length - body.length) 1024 by omega)
    rw [fine] at read
    cases read
    rw [ended rfl, delivered, List.flatMap_nil, List.append_nil, if_neg (by omega)]
  | case3 body stream short byte more rest read ih =>
    have same := read_delivered read
    obtain ⟨_, _, fine, later, _, fits⟩ := plain.read (show 0 < min (length - body.length) 1024 by omega)
    rw [fine] at read
    cases read
    have room : (body ++ byte :: more).length ≤ length := by
      rw [List.length_append]
      omega
    rw [ih later room, same, List.append_assoc]
  | case4 body stream full =>
    have sized : body.length = length := by omega
    rw [List.take_left' sized, if_pos]
    rw [List.length_append]
    omega

end Reading

/-- A request as it is read where no file follows it. -/
def readRequest (stream : Stream) : Except Response Request := do
  let (request, length, stream) ← readHead stream
  readSmallBody stream request length

def Form.request (form : Form) (body : List UInt8) : Request := ⟨.ofList form.method, .ofList form.path, form.headers, body⟩

/-- A request at the front of a stream, and what comes behind it. -/
structure WellFormed (bytes : List UInt8) (form : Form) (head body tail : List UInt8) : Prop where
  blank : FirstBlank bytes head (body ++ tail)
  within : head.length + 4 ≤ 8192
  text : decode head = some form.text
  valid : form.Valid
  announced : form.Announces body.length
  small : body.length ≤ 1024
  bodiless : form.method ≠ "POST".toList → body = []

section Requests

variable {stream : Stream} {form : Form} {request : Request} {head body tail : List UInt8}

theorem ofList_eq_post {method : Text} : String.ofList method = "POST" ↔ method = "POST".toList := by
  constructor
  · intro same
    rw [← same, String.toList_ofList]
  · rintro rfl
    rfl

theorem Plain.readSmallBody (plain : Plain stream) {read : List UInt8} (sofar : read ++ delivered stream = body ++ tail)
    (within : read.length ≤ body.length) (small : body.length ≤ 1024) (bodiless : form.method ≠ "POST".toList → body = []) :
    readSmallBody stream (form.request read) body.length = .ok (form.request body) := by
  have filled : Web.fillBody body.length read stream = .ok body := by
    rw [plain.fillBody within, sofar, List.take_left, if_pos]
    rw [List.length_append]
    omega
  have limit : bodyLimit = 1024 := rfl
  rw [Web.readSmallBody, if_neg (by omega)]
  show Web.fillBody body.length read stream >>= _ = _
  rw [filled]
  show (if _ then _ else _) = _
  rw [if_neg]
  · rfl
  · by_cases post : form.method = "POST".toList
    · simp [Form.request, post]
    · simp [bodiless post]

theorem body_of_readSmallBody (plain : Plain stream) {read : List UInt8} {length : Nat} (within : read.length ≤ length)
    (taken : readSmallBody stream (form.request read) length = .ok request) :
    ∃ body tail, read ++ delivered stream = body ++ tail ∧ body.length = length ∧ length ≤ 1024 ∧
      (form.method ≠ "POST".toList → body = []) ∧ request = form.request body := by
  rw [readSmallBody, ite_error_eq_ok, bind_eq_ok] at taken
  obtain ⟨small, body, filled, taken⟩ := taken
  have fills : fillBody length read stream = .ok body := filled
  rw [plain.fillBody within] at fills
  split at fills
  next enough =>
    cases fills
    refine ⟨_, _, (List.take_append_drop length _).symm, List.length_take_of_le enough, Nat.le_of_not_lt small, ?_⟩
    split at taken
    next => split at taken <;> cases taken
    next bodiless =>
      cases taken
      refine ⟨?_, rfl⟩
      intro other
      rw [Bool.and_eq_true, not_and, decide_eq_true_eq] at bodiless
      have empty := bodiless (mt ofList_eq_post.mp other)
      simpa only [Bool.not_eq_true', Bool.not_eq_false, List.isEmpty_iff] using empty
  next => cases fills

theorem wellFormed_of_readRequest (plain : Plain stream) (read : readRequest stream = .ok request) :
    ∃ form head body tail, WellFormed (delivered stream) form head body tail ∧ request = form.request body := by
  rw [readRequest, bind_eq_ok] at read
  obtain ⟨⟨began, length, rest⟩, read, filled⟩ := read
  rw [readHead, bind_eq_ok] at read
  obtain ⟨⟨ends, all, after⟩, found, read⟩ := read
  obtain ⟨here, same⟩ := findHead_delivered found
  obtain ⟨within, later⟩ := findHead_within found plain
  dsimp only at read
  split at read
  next => cases read
  next text decoded =>
    obtain ⟨⟨_, _⟩, parsed, read⟩ := bind_eq_ok.mp read
    cases read
    obtain ⟨form, valid, rfl, announced, fits, rfl⟩ := valid_of_parseHead parsed
    obtain ⟨body, tail, cut, rfl, small, bodiless, rfl⟩ := body_of_readSmallBody later fits filled
    have bounds := headEnd?_bounds here
    have blank := firstBlank_of_headEnd? (headEnd?_append here (delivered rest))
    rw [List.take_append_of_le_length (by omega), List.drop_append_of_le_length bounds.2, cut, same, List.nil_append] at blank
    have limit : headerLimit = 8192 := rfl
    have short : (all.take (ends - 4)).length + 4 ≤ 8192 := by
      rw [List.length_take]
      omega
    exact ⟨form, _, body, tail, ⟨blank, short, decoded, valid, announced, small, bodiless⟩, rfl⟩

theorem WellFormed.readRequest (formed : WellFormed (delivered stream) form head body tail) (plain : Plain stream) :
    readRequest stream = .ok (form.request body) ∨
      readRequest stream = .error (.error 400 "REQUEST_PIPELINING_UNSUPPORTED") ∧ tail ≠ [] := by
  have limit : headerLimit = 8192 := rfl
  have fits := formed.within
  have ends : headEnd? ([] ++ delivered stream) = some (head.length + 4) := formed.blank.headEnd?
  obtain ⟨all, rest, ran, later⟩ := plain.findHead ends (by omega)
  obtain ⟨here, same⟩ := findHead_delivered ran
  have bounds := headEnd?_bounds here
  rw [List.nil_append, formed.blank.whole] at same
  have front : all.take (head.length + 4 - 4) = head := by
    have cut : (all ++ delivered rest).take head.length = all.take head.length := List.take_append_of_le_length (by omega)
    rw [Nat.add_sub_cancel, ← cut, same, List.append_assoc, List.take_left]
  have sofar : all.drop (head.length + 4) ++ delivered rest = body ++ tail := by
    rw [← List.drop_append_of_le_length bounds.2, same]
    exact List.drop_left' (by rw [List.length_append]; rfl)
  have parsed := formed.valid.parseHead formed.announced (formed.small.trans (by decide)) (all.drop (head.length + 4))
  have read : readHead stream =
      parseHead form.text (all.drop (head.length + 4)) >>= fun parts => .ok (parts.1, parts.2, rest) := by
    simp only [readHead, ran, front, formed.text, bind, Except.bind]
  rw [Proofs.readRequest, read, parsed]
  by_cases more : body.length < (all.drop (head.length + 4)).length
  · rw [if_pos more]
    refine .inr ⟨rfl, ?_⟩
    rintro rfl
    have whole := congrArg List.length sofar
    rw [List.append_nil, List.length_append] at whole
    omega
  · rw [if_neg more]
    exact .inl (later.readSmallBody sofar (Nat.le_of_not_lt more) formed.small formed.bodiless)

end Requests

/-- Reads without an error give a request exactly where a well-formed one stands at
the front of the stream, with its method, path, header values and body; only bytes
behind the body can have it refused, as pipelining. -/
theorem request_parsing (pieces : List (List UInt8)) (nonempty : ∀ piece ∈ pieces, piece ≠ []) :
    (∀ request, readRequest (pieces.map .data) = .ok request →
      ∃ form head body tail, WellFormed pieces.flatten form head body tail ∧ request = form.request body) ∧
    ∀ form head body tail, WellFormed pieces.flatten form head body tail →
      readRequest (pieces.map .data) = .ok (form.request body) ∨
        readRequest (pieces.map .data) = .error (.error 400 "REQUEST_PIPELINING_UNSUPPORTED") ∧ tail ≠ [] := by
  have plain : Plain (pieces.map .data) := by
    intro delivery member
    obtain ⟨piece, inside, rfl⟩ := List.mem_map.mp member
    exact ⟨piece, rfl, nonempty piece inside⟩
  have bytes : delivered (pieces.map .data) = pieces.flatten := by
    rw [delivered, List.flatMap_map, List.flatMap_def]
    exact congrArg List.flatten (List.map_id pieces)
  rw [← bytes]
  exact ⟨fun request read => wellFormed_of_readRequest plain read, fun form head body tail formed => formed.readRequest plain⟩

/-- A request in two pieces, cut between the line breaks before its body. -/
def cutPost : List (List UInt8) := [utf8 "POST / HTTP/1.1\r\nContent-Length: 2\r\n", utf8 "\r\nhi"]

theorem request_parsing_cutPost :
    ∃ request, readRequest (cutPost.map .data) = .ok request ∧ request.body = utf8 "hi" ∧
      ∃ form head body tail, WellFormed cutPost.flatten form head body tail ∧ request = form.request body := by
  have read : (readRequest (cutPost.map .data)).toOption.map Request.body = some (utf8 "hi") := by decide +kernel
  obtain ⟨request, found, body⟩ := Option.map_eq_some_iff.mp read
  have ok : readRequest (cutPost.map .data) = .ok request := by
    cases result : readRequest (cutPost.map .data) with
    | error response =>
      rw [result] at found
      cases found
    | ok other =>
      rw [result] at found
      exact congrArg Except.ok (Option.some.inj found)
  exact ⟨request, ok, body, (request_parsing cutPost (by decide +kernel)).1 request ok⟩

end PhoneBoost.Web.Proofs
