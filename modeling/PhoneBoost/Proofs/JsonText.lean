import Mathlib.Data.Nat.Digits.Lemmas
import PhoneBoost.Proofs.StoreFiles

/-! The JSON text of a flat object, written and read back. Texts are plain: they
need no escapes, and the marks that part fields do not stand in them. -/

namespace PhoneBoost.Secure.Proofs
open Keyed

def comma : UInt8 := 44
def colon : UInt8 := 58
def quote : UInt8 := 34

def quoted (text : String) : List UInt8 := quote :: utf8 text ++ [quote]

def decimalText (value : Nat) : List UInt8 :=
  if value = 0 then [48] else (Nat.digits 10 value).reverse.map fun digit => 48 + UInt8.ofNat digit

/-- No record holds one of the last two. -/
def scalarText : Scalar → List UInt8
  | .null => utf8 "null"
  | .bool value => utf8 (if value then "true" else "false")
  | .u64 value => decimalText value.toNat
  | .string text => quoted text
  | .number | .compound => []

def fieldText (field : String × List UInt8) : List UInt8 := quoted field.1 ++ colon :: field.2

def objectText (fields : List (String × List UInt8)) : List UInt8 :=
  123 :: [comma].intercalate (fields.map fieldText) ++ [125]

section Reading

def isDigit (byte : UInt8) : Bool := 48 ≤ byte && byte ≤ 57

def readScalar (text : List UInt8) : Scalar :=
  if text.all isDigit then .u64 (.ofNat (Nat.ofDigits 10 (text.reverse.map fun digit => (digit - 48).toNat)))
  else if text = utf8 "null" then .null
  else if text = utf8 "true" then .bool true
  else if text = utf8 "false" then .bool false
  else .string (pushed (text.drop 1).dropLast)

def readField (text : List UInt8) : Option (String × Scalar) :=
  match text.splitOn colon with
  | [name, value] => some (pushed (name.drop 1).dropLast, readScalar value)
  | _ => none

def readObject (text : List UInt8) : Option Object :=
  match (text.splitOn comma).mapM readField with
  | none => none
  | some rows => if distinct : (rows.map Prod.fst).Nodup then some ⟨rows, distinct⟩ else none

/-- A library for plain objects, with stand-ins for the two other functions. -/
def jsonForeign : Foreign where
  toVec object := objectText (object.rows.map fun row => (row.1, scalarText row.2))
  fromSlice bytes :=
    match bytes with
    | 123 :: rest => (readObject (rest.take (rest.length - 2))).map .object
    | _ => none
  sha256 := id
  mulBaseClamped := id

end Reading

/-- Printable ASCII apart from quotes, commas, colons and backslashes. -/
def plainByte (byte : UInt8) : Bool := 32 ≤ byte && byte < 127 && !([34, 44, 58, 92].contains byte)

def plainScalar : Scalar → Bool
  | .string text => (utf8 text).all plainByte
  | .number | .compound => false
  | _ => true

def plainRow (row : String × Scalar) : Bool := (utf8 row.1).all plainByte && plainScalar row.2

theorem plainByte_spec {byte : UInt8} (plain : plainByte byte = true) : byte < 128 ∧ byte ≠ comma ∧ byte ≠ colon := by
  simp only [plainByte, Bool.and_eq_true, decide_eq_true_eq, Bool.not_eq_true', List.contains_eq_mem, List.mem_cons,
    decide_eq_false_iff_not, not_or] at plain
  obtain ⟨⟨_, ascii⟩, _, noComma, noColon, _⟩ := plain
  exact ⟨UInt8.lt_trans ascii (by decide), noComma, noColon⟩

section Text
variable {text : String} (plain : (utf8 text).all plainByte = true)
include plain

theorem pushed_utf8 : pushed (utf8 text) = text :=
  utf8_injective (utf8_pushed fun byte member => (plainByte_spec (List.all_eq_true.mp plain byte member)).1)

theorem not_mem_quoted {mark : UInt8} (parts : mark = comma ∨ mark = colon) : mark ∉ quoted text := by
  intro member
  have inside : mark ∈ utf8 text := by
    rcases parts with rfl | rfl <;> simpa [quoted, quote, comma, colon] using member
  have spec := plainByte_spec (List.all_eq_true.mp plain mark inside)
  exact parts.elim spec.2.1 spec.2.2

theorem read_quoted : pushed ((quoted text).drop 1).dropLast = text := by
  rw [quoted, List.cons_append, List.drop_one, List.tail_cons, List.dropLast_concat, pushed_utf8 plain]

end Text

section Numbers

theorem decimalText_digits (value : Nat) : (decimalText value).all isDigit = true := by
  rw [decimalText]
  split
  · rfl
  · have each : ∀ digit < 10, isDigit (48 + UInt8.ofNat digit) = true := by decide
    rw [List.all_map, List.all_reverse, List.all_eq_true]
    exact fun digit member => each digit (Nat.digits_lt_base (by decide) member)

theorem ofDigits_decimalText (value : Nat) :
    Nat.ofDigits 10 ((decimalText value).reverse.map fun digit => (digit - 48).toNat) = value := by
  rw [decimalText]
  split
  next zero => rw [zero]; rfl
  next =>
    have each : ∀ digit < 10, (48 + UInt8.ofNat digit - 48).toNat = digit := by decide
    have same : (Nat.digits 10 value).map (fun digit => (48 + UInt8.ofNat digit - 48).toNat) = Nat.digits 10 value :=
      (List.map_congr_left fun digit member => each digit (Nat.digits_lt_base (by decide) member)).trans (List.map_id _)
    rw [← List.map_reverse, List.reverse_reverse, List.map_map]
    exact (congrArg (Nat.ofDigits 10) same).trans (Nat.ofDigits_digits 10 value)

theorem length_decimalText (value : UInt64) : (decimalText value.toNat).length ≤ 20 := by
  rw [decimalText]
  split
  · decide
  · rw [List.length_map, List.length_reverse]
    have small : value.toNat < 10 ^ 20 := value.toNat_lt.trans (by decide)
    exact (Nat.digits_length_le_iff (by decide) _).mpr small

end Numbers

theorem not_mem_scalarText {value : Scalar} (plain : plainScalar value = true) {mark : UInt8}
    (parts : mark = comma ∨ mark = colon) : mark ∉ scalarText value := by
  cases value with
  | null => rcases parts with rfl | rfl <;> decide
  | bool value => cases value <;> rcases parts with rfl | rfl <;> decide
  | u64 value =>
    intro member
    have digit := List.all_eq_true.mp (decimalText_digits value.toNat) mark member
    rcases parts with rfl | rfl <;> revert digit <;> decide
  | string text => exact not_mem_quoted plain parts
  | number | compound => cases plain

theorem readScalar_text {value : Scalar} (plain : plainScalar value = true) : readScalar (scalarText value) = value := by
  cases value with
  | null => decide
  | bool value => cases value <;> decide
  | u64 value =>
    rw [scalarText, readScalar, if_pos (decimalText_digits _), ofDigits_decimalText, UInt64.ofNat_toNat]
  | string text =>
    have other {word : List UInt8} (starts : word.head? ≠ some quote) : quoted text ≠ word :=
      fun same => starts (by rw [← same]; rfl)
    have marked : (quoted text).all isDigit = false := rfl
    rw [scalarText, readScalar, marked, if_neg Bool.false_ne_true, if_neg (other (by decide)), if_neg (other (by decide)),
      if_neg (other (by decide)), read_quoted plain]
  | number | compound => cases plain

def rowText (row : String × Scalar) : List UInt8 := fieldText (row.1, scalarText row.2)

section Rows
variable {row : String × Scalar} (plain : plainRow row = true)
include plain

theorem readField_rowText : readField (rowText row) = some row := by
  obtain ⟨name, value⟩ := Bool.and_eq_true_iff.mp plain
  have parts : (rowText row).splitOn colon = [quoted row.1, scalarText row.2] := by
    have joined : rowText row = [colon].intercalate [quoted row.1, scalarText row.2] := by
      simp [rowText, fieldText, List.intercalate]
    rw [joined]
    refine List.splitOn_intercalate colon ?_ (by simp)
    simp only [List.mem_cons, List.not_mem_nil, or_false, forall_eq_or_imp, forall_eq]
    exact ⟨not_mem_quoted name (.inr rfl), not_mem_scalarText value (.inr rfl)⟩
  rw [readField, parts]
  dsimp only
  rw [read_quoted name, readScalar_text value]

theorem comma_not_mem_rowText : comma ∉ rowText row := by
  obtain ⟨name, value⟩ := Bool.and_eq_true_iff.mp plain
  simp only [rowText, fieldText, List.mem_append, List.mem_cons, not_or]
  exact ⟨not_mem_quoted name (.inl rfl), by decide, not_mem_scalarText value (.inl rfl)⟩

end Rows

theorem length_scalarText (value : Scalar) : (scalarText value).length ≤ textBound value := by
  cases value with
  | null => exact Nat.le_refl 4
  | bool value => cases value <;> decide
  | u64 value => exact length_decimalText value
  | string text =>
    simp only [scalarText, quoted, textBound, List.length_append, List.length_cons, List.length_nil, length_utf8]
    omega
  | number | compound => exact Nat.le_refl 0

theorem length_rowText (row : String × Scalar) :
    (rowText row).length + 1 ≤ 6 * row.1.utf8ByteSize + textBound row.2 + 4 := by
  have value := length_scalarText row.2
  simp only [rowText, fieldText, quoted, List.length_append, List.length_cons, List.length_nil, length_utf8]
  omega

theorem mapM_readField {rows : List (String × Scalar)} (plain : ∀ row ∈ rows, plainRow row = true) :
    (rows.map rowText).mapM readField = some rows := by
  induction rows with
  | nil => rfl
  | cons row rows ih =>
    rw [List.map_cons, List.mapM_cons, readField_rowText (plain row List.mem_cons_self),
      ih fun other member => plain other (List.mem_cons_of_mem _ member)]
    rfl

theorem length_intercalate (parts : List (List UInt8)) :
    ([comma].intercalate parts).length ≤ (parts.map fun part => part.length + 1).sum := by
  induction parts with
  | nil => exact Nat.le_refl 0
  | cons part parts ih =>
    cases parts with
    | nil => simp [List.intercalate]
    | cons next parts =>
      rw [List.intercalate_cons_cons]
      simp only [List.length_append, List.length_singleton, List.map_cons, List.sum_cons] at ih ⊢
      omega

theorem jsonForeign_serialises {object : Object} (filled : object.rows ≠ []) (plain : object.rows.all plainRow = true) :
    Serialises jsonForeign object := by
  have each := List.all_eq_true.mp plain
  have text : jsonForeign.toVec object = 123 :: [comma].intercalate (object.rows.map rowText) ++ [125] := by
    show objectText _ = _
    rw [objectText, List.map_map]
    rfl
  constructor
  · refine ⟨object, ?_, rfl, fun _ => rfl⟩
    have parts : ([comma].intercalate (object.rows.map rowText)).splitOn comma = object.rows.map rowText := by
      refine List.splitOn_intercalate comma ?_ (by simpa using filled)
      intro part member
      obtain ⟨row, inside, rfl⟩ := List.mem_map.mp member
      exact comma_not_mem_rowText (each row inside)
    have read : readObject ([comma].intercalate (object.rows.map rowText)) = some object := by
      rw [readObject, parts, mapM_readField each]
      exact dif_pos object.distinct
    rw [text]
    simp only [jsonForeign, List.cons_append, List.append_assoc]
    rw [List.take_left' (by simp), read]
    rfl
  · have rows := length_intercalate (object.rows.map rowText)
    rw [List.map_map] at rows
    have bound : ([comma].intercalate (object.rows.map rowText)).length ≤
        (object.rows.map fun row => 6 * row.1.utf8ByteSize + textBound row.2 + 4).sum :=
      rows.trans (List.sum_le_sum fun row _ => length_rowText row)
    rw [text, objectBound]
    simp only [List.cons_append, List.length_cons, List.length_append, List.length_nil]
    omega

/-! The records of the store are plain. -/

theorem plain_hexEncode (bytes : List UInt8) : (utf8 (hexEncode bytes)).all plainByte = true := by
  have digits : hexDigits.all plainByte = true := by decide
  rw [utf8_hexEncode, List.all_eq_true]
  intro digit member
  obtain ⟨byte, _, inside⟩ := List.mem_flatMap.mp member
  exact List.all_eq_true.mp digits digit (hexPair_mem inside)

theorem plain_base64Encode (bytes : List UInt8) : (utf8 (base64Encode bytes)).all plainByte = true := by
  rw [base64Encode, utf8_pushed (base64Chunks_ascii _), List.all_eq_true]
  exact base64Chunks_all (by decide) (by decide) bytes

theorem peerObject_serialises {record : PeerRecord} (id : (utf8 record.peerId).all plainByte = true)
    (named : (utf8 record.aliasText).all plainByte = true) : Serialises jsonForeign (peerObject record) := by
  have names : ["schema_version", "peer_id", "static_public_key_b64", "alias", "paired_wall_ms", "last_seen_wall_ms",
      "core_version", "pbmux_version"].all (fun name => (utf8 name).all plainByte) = true := by decide
  refine jsonForeign_serialises (by simp [peerObject]) ?_
  simp only [List.all_cons, List.all_nil, Bool.and_true, Bool.and_eq_true] at names
  simp [peerObject, plainRow, plainScalar, names, id, named, plain_base64Encode]

theorem guardObject_serialises (guard : PairingGuard) : Serialises jsonForeign (guardObject guard) := by
  have names : ["schema_version", "mismatch_count", "cooldown_until_wall_ms", "updated_wall_ms"].all
      (fun name => (utf8 name).all plainByte) = true := by decide
  refine jsonForeign_serialises (by simp [guardObject]) ?_
  simp only [List.all_cons, List.all_nil, Bool.and_true, Bool.and_eq_true] at names
  obtain ⟨count, cooldown, updated⟩ := guard
  cases cooldown <;> simp [guardObject, plainRow, plainScalar, names]

end PhoneBoost.Secure.Proofs
