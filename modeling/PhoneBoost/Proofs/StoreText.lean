import PhoneBoost.Secure.Storage

/-! Text in the state directory: UTF-8 names, hexadecimal ids and the base64
form of a key, each read back as what was written. -/

namespace PhoneBoost.Secure.Proofs
open Keyed

theorem utf8_append (first second : String) : utf8 (first ++ second) = utf8 first ++ utf8 second := by
  simp [utf8, String.toByteArray_append]

theorem utf8_injective {first second : String} (same : utf8 first = utf8 second) : first = second := by
  apply String.toByteArray_inj.mp
  apply ByteArray.ext
  exact Array.toList_inj.mp same

theorem length_utf8 (text : String) : (utf8 text).length = text.utf8ByteSize := rfl

theorem fromUTF8?_utf8 (text : String) : String.fromUTF8? ⟨(utf8 text).toArray⟩ = some text := by
  have bytes : (⟨(utf8 text).toArray⟩ : ByteArray) = text.toByteArray := by simp [utf8]
  rw [String.fromUTF8?, bytes, dif_pos text.isValidUTF8]
  rfl

theorem utf8_of_fromUTF8? {raw : List UInt8} {text : String} (read : String.fromUTF8? ⟨raw.toArray⟩ = some text) :
    utf8 text = raw := by
  rw [String.fromUTF8?] at read
  split at read
  next valid =>
    cases read
    rfl
  next => cases read

theorem utf8EncodeChar_ofUInt8 (byte : UInt8) (ascii : byte < 128) :
    String.utf8EncodeChar (Char.ofUInt8 byte) = [byte] := by
  have small : byte.toNat < 128 := ascii
  have one : (Char.ofUInt8 byte).utf8Size = 1 := by
    apply if_pos
    show byte.toNat ≤ 127
    omega
  have value : (Char.ofUInt8 byte).val = byte.toUInt32 := rfl
  rw [String.utf8EncodeChar_eq_singleton one, value, UInt8.toUInt8_toUInt32]

theorem utf8_pushed {bytes : List UInt8} (ascii : ∀ byte ∈ bytes, byte < 128) : utf8 (pushed bytes) = bytes := by
  simp only [utf8, pushed, String.toByteArray_ofList, List.utf8Encode, List.toList_data_toByteArray]
  induction bytes with
  | nil => rfl
  | cons byte bytes ih =>
    simp only [List.map_cons, List.flatMap_cons]
    rw [utf8EncodeChar_ofUInt8 byte (ascii byte List.mem_cons_self),
      ih fun other member => ascii other (List.mem_cons_of_mem _ member)]
    rfl

theorem hexDigits_eq : hexDigits = [48, 49, 50, 51, 52, 53, 54, 55, 56, 57, 97, 98, 99, 100, 101, 102] := by decide

def hexDigit (nibble : Nat) : UInt8 := hexDigits.getD nibble 0

theorem hexDigit_mem : ∀ nibble < 16, hexDigit nibble ∈ hexDigits := by
  simp only [hexDigit, hexDigits_eq]
  decide

theorem hexDigit_injective : ∀ first < 16, ∀ second < 16, hexDigit first = hexDigit second → first = second := by
  simp only [hexDigit, hexDigits_eq]
  decide

def hexPair (byte : UInt8) : List UInt8 := [hexDigit (byte.toNat / 16), hexDigit (byte.toNat % 16)]

theorem hexEncode_eq (bytes : List UInt8) : hexEncode bytes = pushed (bytes.flatMap hexPair) := by
  have pair : ∀ byte : UInt8,
      [hexDigits.getD (byte >>> 4).toNat 0, hexDigits.getD (byte &&& 0x0f).toNat 0] = hexPair byte := by
    intro byte
    have high : (byte >>> 4).toNat = byte.toNat / 16 := by
      simp [UInt8.toNat_shiftRight, Nat.shiftRight_eq_div_pow]
    have low : (byte &&& 0x0f).toNat = byte.toNat % 16 := by
      rw [UInt8.toNat_and]
      exact Nat.and_two_pow_sub_one_eq_mod byte.toNat 4
    rw [high, low]
    rfl
  simp only [hexEncode, pair]

theorem hexPair_mem {byte digit : UInt8} (member : digit ∈ hexPair byte) : digit ∈ hexDigits := by
  have small : byte.toNat < 256 := byte.toNat_lt
  simp only [hexPair, List.mem_cons, List.not_mem_nil, or_false] at member
  rcases member with rfl | rfl
  · exact hexDigit_mem _ (by omega)
  · exact hexDigit_mem _ (by omega)

theorem hexDigits_ascii : ∀ digit ∈ hexDigits, digit < 128 := by
  rw [hexDigits_eq]
  simp only [List.forall_mem_cons, List.not_mem_nil, false_implies, implies_true, and_true]
  decide

theorem utf8_hexEncode (bytes : List UInt8) : utf8 (hexEncode bytes) = bytes.flatMap hexPair := by
  rw [hexEncode_eq]
  apply utf8_pushed
  intro digit member
  obtain ⟨byte, _, inside⟩ := List.mem_flatMap.mp member
  exact hexDigits_ascii digit (hexPair_mem inside)

theorem hexPair_injective {first second : UInt8} (same : hexPair first = hexPair second) : first = second := by
  have bound : first.toNat < 256 := first.toNat_lt
  have bound' : second.toNat < 256 := second.toNat_lt
  simp only [hexPair, List.cons.injEq, and_true] at same
  have high := hexDigit_injective _ (by omega) _ (by omega) same.1
  have low := hexDigit_injective _ (by omega) _ (by omega) same.2
  apply UInt8.toNat_inj.mp
  omega

theorem hexPairs_injective {first second : List UInt8} (same : first.flatMap hexPair = second.flatMap hexPair) :
    first = second := by
  induction first generalizing second with
  | nil =>
    cases second with
    | nil => rfl
    | cons other others => simp [hexPair] at same
  | cons byte bytes ih =>
    cases second with
    | nil => simp [hexPair] at same
    | cons other others =>
      simp only [List.flatMap_cons] at same
      obtain ⟨head, rest⟩ := List.append_inj same rfl
      rw [hexPair_injective head, ih rest]

theorem hexEncode_injective {first second : List UInt8} (same : hexEncode first = hexEncode second) :
    first = second := by
  apply hexPairs_injective
  rw [← utf8_hexEncode, ← utf8_hexEncode, same]

theorem length_hexEncode (bytes : List UInt8) : (hexEncode bytes).utf8ByteSize = 2 * bytes.length := by
  rw [← length_utf8, utf8_hexEncode]
  induction bytes with
  | nil => rfl
  | cons byte bytes ih =>
    rw [List.flatMap_cons, List.length_append, ih]
    simp only [hexPair, List.length_cons, List.length_nil]
    omega

theorem toList_hexEncode (bytes : List UInt8) :
    (hexEncode bytes).toList = (bytes.flatMap hexPair).map Char.ofUInt8 := by
  rw [hexEncode_eq, pushed, String.toList_ofList]

theorem base64Alphabet_eq : base64Alphabet = (List.range 26).map (fun i => UInt8.ofNat (65 + i))
    ++ (List.range 26).map (fun i => UInt8.ofNat (97 + i)) ++ (List.range 10).map (fun i => UInt8.ofNat (48 + i))
    ++ [43, 47] := by decide

/-- The digit whose value is `value`. -/
def base64Char (value : Nat) : UInt8 := base64Alphabet.getD value 0

theorem base64Value_base64Char : ∀ value < 64, base64Value (base64Char value) = some value := by
  simp only [base64Char, base64Alphabet_eq]
  decide

theorem base64Char_ne_pad : ∀ value < 64, base64Char value ≠ base64Pad := by
  simp only [base64Char, base64Alphabet_eq]
  decide

theorem base64Char_ascii : ∀ value < 64, base64Char value < 128 := by
  simp only [base64Char, base64Alphabet_eq]
  decide

theorem base64Digit_eq (word place : Nat) : base64Digit word place = base64Char (word / 64 ^ place % 64) := rfl

theorem base64Value_digit (word place : Nat) : base64Value (base64Digit word place) = some (word / 64 ^ place % 64) :=
  base64Value_base64Char _ (Nat.mod_lt _ (by decide))

theorem base64Digit_ne_pad (word place : Nat) : base64Digit word place ≠ base64Pad :=
  base64Char_ne_pad _ (Nat.mod_lt _ (by decide))

theorem base64Padded_digit (word place : Nat) :
    base64Padded (base64Digit word place) = some (word / 64 ^ place % 64) := by
  rw [base64Padded, if_neg (base64Digit_ne_pad word place), base64Value_digit]

/-- Four digits carry a 24-bit word. -/
theorem word_of_digits (word : Nat) (small : word < 16777216) :
    word / 64 ^ 3 % 64 * 262144 + word / 64 ^ 2 % 64 * 4096 + word / 64 ^ 1 % 64 * 64 + word / 64 ^ 0 % 64 = word := by
  omega

theorem ofNat_toNat_of_eq {byte : UInt8} {value : Nat} (same : value % 256 = byte.toNat) : UInt8.ofNat value = byte := by
  apply UInt8.toNat_inj.mp
  rw [UInt8.toNat_ofNat']
  exact same

theorem base64Bytes_chunks (bytes : List UInt8) : base64Bytes (base64Chunks bytes) = some bytes := by
  fun_induction base64Chunks bytes with
  | case1 a b c rest word ih =>
    have bounds : a.toNat < 256 ∧ b.toNat < 256 ∧ c.toNat < 256 := ⟨a.toNat_lt, b.toNat_lt, c.toNat_lt⟩
    have whole := word_of_digits word (by omega)
    have first : UInt8.ofNat (word / 65536) = a := ofNat_toNat_of_eq (by omega)
    have second : UInt8.ofNat (word / 256) = b := ofNat_toNat_of_eq (by omega)
    have third : UInt8.ofNat word = c := ofNat_toNat_of_eq (by omega)
    simp only [base64Bytes, base64Value_digit, base64Padded_digit, Option.bind_eq_bind, Option.bind_some, whole, ih,
      if_neg (base64Digit_ne_pad _ _), first, second, third]
    rfl
  | case2 a b word =>
    have bounds : a.toNat < 256 ∧ b.toNat < 256 := ⟨a.toNat_lt, b.toNat_lt⟩
    have whole := word_of_digits word (by omega)
    have unused : word / 64 ^ 0 % 64 = 0 := by omega
    rw [unused] at whole
    have first : UInt8.ofNat (word / 65536) = a := ofNat_toNat_of_eq (by omega)
    have second : UInt8.ofNat (word / 256) = b := ofNat_toNat_of_eq (by omega)
    simp only [base64Bytes, base64Value_digit, Option.bind_eq_bind, Option.bind_some,
      base64Padded, if_pos, if_neg (base64Digit_ne_pad _ _), whole, first, second]
    rfl
  | case3 a word =>
    have bound : a.toNat < 256 := a.toNat_lt
    have whole := word_of_digits word (by omega)
    have unused : word / 64 ^ 0 % 64 = 0 ∧ word / 64 ^ 1 % 64 = 0 := by omega
    rw [unused.1, unused.2] at whole
    have first : UInt8.ofNat (word / 65536) = a := ofNat_toNat_of_eq (by omega)
    simp only [base64Bytes, base64Value_digit, Option.bind_eq_bind, Option.bind_some, base64Padded, if_pos]
    simp only [Nat.zero_mul, Nat.add_zero] at whole ⊢
    rw [whole, first]
    rfl
  | case4 => rfl

theorem base64Chunks_all {holds : UInt8 → Prop} (chars : ∀ value < 64, holds (base64Char value)) (pad : holds base64Pad)
    (bytes : List UInt8) : ∀ digit ∈ base64Chunks bytes, holds digit := by
  have digit (word place : Nat) : holds (base64Digit word place) := chars _ (Nat.mod_lt _ (by decide))
  fun_induction base64Chunks bytes with
  | case1 a b c rest word ih => simpa only [List.forall_mem_cons, digit, true_and] using ih
  | case2 | case3 => simp [digit, pad]
  | case4 => simp

theorem base64Chunks_ascii (bytes : List UInt8) : ∀ digit ∈ base64Chunks bytes, digit < 128 :=
  base64Chunks_all base64Char_ascii (by decide) bytes

theorem length_base64Chunks (bytes : List UInt8) : (base64Chunks bytes).length = (bytes.length + 2) / 3 * 4 := by
  fun_induction base64Chunks bytes with
  | case1 a b c rest word ih =>
    simp only [List.length_cons, ih]
    omega
  | case2 | case3 | case4 => simp

theorem getLast?_base64Chunks (bytes : List UInt8) (ragged : bytes.length % 3 ≠ 0) :
    (base64Chunks bytes).getLast? = some base64Pad := by
  fun_induction base64Chunks bytes with
  | case1 a b c rest word ih =>
    have more : rest.length % 3 ≠ 0 := by
      simp only [List.length_cons] at ragged
      omega
    simp only [List.getLast?_cons, ih more, Option.getD_some]
  | case2 | case3 => rfl
  | case4 => exact absurd rfl ragged

theorem base64Decode32_encode (key : Bytes32) : base64Decode32 (base64Encode key.toList) = .ok key := by
  have text : utf8 (base64Encode key.toList) = base64Chunks key.toList := utf8_pushed (base64Chunks_ascii _)
  have size : (base64Encode key.toList).utf8ByteSize = 44 := by
    rw [← length_utf8, text, length_base64Chunks, Vector.length_toList]
  have last := getLast?_base64Chunks key.toList (by rw [Vector.length_toList]; decide)
  rw [base64Decode32, size, text, last, base64Bytes_chunks]
  simp [Vector.toList]

end PhoneBoost.Secure.Proofs
