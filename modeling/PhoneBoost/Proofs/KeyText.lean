import PhoneBoost.Proofs.StoreText

/-! The texts that stand for one key. Forty-four digits with one padding digit
carry 258 bits, two more than a key has, and the reader drops those two. -/

namespace PhoneBoost.Secure.Proofs

theorem base64Char_ranges :
    (∀ i < 26, base64Char i = UInt8.ofNat (65 + i)) ∧ (∀ i < 26, base64Char (i + 26) = UInt8.ofNat (97 + i)) ∧
    (∀ i < 10, base64Char (i + 52) = UInt8.ofNat (48 + i)) ∧ base64Char 62 = 43 ∧ base64Char 63 = 47 := by
  simp only [base64Char, base64Alphabet_eq]
  decide

theorem ofNat_offset {byte : UInt8} {base : Nat} (above : base ≤ byte.toNat) :
    UInt8.ofNat (base + (byte.toNat - base)) = byte := by
  rw [Nat.add_sub_cancel' above, UInt8.ofNat_toNat]

theorem base64Char_value {byte : UInt8} {value : Nat} (read : base64Value byte = some value) :
    value < 64 ∧ base64Char value = byte := by
  obtain ⟨upper, lower, digit, plus, slash⟩ := base64Char_ranges
  have code : ∀ low high : UInt8, (decide (low ≤ byte) && decide (byte ≤ high)) = true →
      low.toNat ≤ byte.toNat ∧ byte.toNat ≤ high.toNat := by
    intro low high inside
    rw [Bool.and_eq_true, decide_eq_true_eq, decide_eq_true_eq] at inside
    exact inside
  rw [base64Value] at read
  split at read
  next inside =>
    have bounds : 65 ≤ byte.toNat ∧ byte.toNat ≤ 90 := code 65 90 inside
    cases read
    refine ⟨by omega, ?_⟩
    rw [upper _ (by omega), ofNat_offset bounds.1]
  next =>
  split at read
  next inside =>
    have bounds : 97 ≤ byte.toNat ∧ byte.toNat ≤ 122 := code 97 122 inside
    cases read
    refine ⟨by omega, ?_⟩
    rw [lower _ (by omega), ofNat_offset bounds.1]
  next =>
  split at read
  next inside =>
    have bounds : 48 ≤ byte.toNat ∧ byte.toNat ≤ 57 := code 48 57 inside
    cases read
    refine ⟨by omega, ?_⟩
    rw [digit _ (by omega), ofNat_offset bounds.1]
  next =>
  split at read
  next same =>
    cases read
    exact ⟨by decide, plus.trans same.symm⟩
  next =>
  split at read
  next same =>
    cases read
    exact ⟨by decide, slash.trans same.symm⟩
  next => cases read

theorem base64Char_injective {first second : Nat} (small : first < 64) (other : second < 64)
    (same : base64Char first = base64Char second) : first = second := by
  have read := base64Value_base64Char first small
  rw [same, base64Value_base64Char second other] at read
  exact (Option.some.inj read).symm

/-- A group of four digits that decodes, with the bytes that it stands for. -/
structure Group (first second third fourth : UInt8) (word : Nat) : Prop where
  exists_values : ∃ a b c d, base64Value first = some a ∧ base64Value second = some b ∧ base64Padded third = some c ∧
    base64Padded fourth = some d ∧ word = a * 262144 + b * 4096 + c * 64 + d

/-- The bytes after the first of a group. -/
def lowBytes (third fourth : UInt8) (word : Nat) : List UInt8 :=
  (if third = base64Pad then [] else [UInt8.ofNat (word / 256)]) ++ (if fourth = base64Pad then [] else [UInt8.ofNat word])

theorem base64Bytes_cons {first second third fourth : UInt8} {rest bytes : List UInt8} :
    base64Bytes (first :: second :: third :: fourth :: rest) = some bytes ↔
      ∃ word after, Group first second third fourth word ∧ base64Bytes rest = some after ∧
        bytes = UInt8.ofNat (word / 65536) :: (lowBytes third fourth word ++ after) := by
  simp only [base64Bytes, Option.bind_eq_bind, Option.bind_eq_some_iff, Option.pure_def, Option.some.injEq]
  constructor
  · rintro ⟨a, isA, b, isB, c, isC, d, isD, after, tail, rfl⟩
    exact ⟨_, after, ⟨a, b, c, d, isA, isB, isC, isD, rfl⟩, tail, rfl⟩
  · rintro ⟨word, after, ⟨a, b, c, d, isA, isB, isC, isD, rfl⟩, tail, rfl⟩
    exact ⟨a, isA, b, isB, c, isC, d, isD, after, tail, rfl⟩

theorem length_lowBytes (third fourth : UInt8) (word : Nat) :
    (lowBytes third fourth word).length = (if third = base64Pad then 0 else 1) + (if fourth = base64Pad then 0 else 1) := by
  rw [lowBytes, List.length_append]
  split <;> split <;> rfl

theorem exists_group {groups : Nat} {digits : List UInt8} (length : digits.length = 4 * (groups + 1)) :
    ∃ first second third fourth rest, digits = first :: second :: third :: fourth :: rest ∧ rest.length = 4 * groups := by
  match digits, length with
  | first :: second :: third :: fourth :: rest, length =>
    refine ⟨first, second, third, fourth, rest, rfl, ?_⟩
    simp only [List.length_cons] at length
    omega

theorem getLast?_group {groups : Nat} (first second third fourth : UInt8) {rest : List UInt8}
    (length : rest.length = 4 * (groups + 1)) : (first :: second :: third :: fourth :: rest).getLast? = rest.getLast? := by
  obtain ⟨digit, _, _, _, more, rfl, -⟩ := exists_group length
  simp only [List.getLast?_cons_cons]

/-- A last digit that is padding costs a byte. -/
theorem length_base64Bytes {groups : Nat} {digits bytes : List UInt8} (decoded : base64Bytes digits = some bytes)
    (length : digits.length = 4 * (groups + 1)) (last : digits.getLast? = some base64Pad) : bytes.length ≤ 3 * groups + 2 := by
  induction groups generalizing digits bytes with
  | zero =>
    obtain ⟨first, second, third, fourth, rest, rfl, none⟩ := exists_group length
    cases List.eq_nil_of_length_eq_zero none
    obtain ⟨word, after, -, empty, rfl⟩ := base64Bytes_cons.1 decoded
    cases empty
    have pad : fourth = base64Pad := Option.some.inj last
    simp only [List.length_cons, List.append_nil, length_lowBytes, if_pos pad]
    split <;> omega
  | succ groups ih =>
    obtain ⟨first, second, third, fourth, rest, rfl, more⟩ := exists_group length
    obtain ⟨word, after, -, tail, rfl⟩ := base64Bytes_cons.1 decoded
    rw [getLast?_group _ _ _ _ more] at last
    have shorter := ih tail more last
    simp only [List.length_cons, List.length_append, length_lowBytes]
    split <;> split <;> omega

/-- The two bits of the last digit before the padding that reach no byte. -/
def spareBits (digits : List UInt8) : Nat := (base64Value (digits.getD (digits.length - 2) 0)).getD 0 % 4

theorem spareBits_group {groups : Nat} (first second third fourth : UInt8) {rest : List UInt8}
    (length : rest.length = 4 * (groups + 1)) : spareBits (first :: second :: third :: fourth :: rest) = spareBits rest := by
  have index : (first :: second :: third :: fourth :: rest).length - 2 = rest.length - 2 + 4 := by
    simp only [List.length_cons]
    omega
  rw [spareBits, index]
  rfl

/-- A full group is the one that its bytes are written as. -/
theorem group_written {first second third fourth : UInt8} {word : Nat} (group : Group first second third fourth word)
    (plain : third ≠ base64Pad) (last : fourth ≠ base64Pad) (rest : List UInt8) :
    base64Chunks (UInt8.ofNat (word / 65536) :: (lowBytes third fourth word ++ rest)) =
      first :: second :: third :: fourth :: base64Chunks rest := by
  obtain ⟨a, b, c, d, isA, isB, isC, isD, value⟩ := group
  rw [base64Padded, if_neg plain] at isC
  rw [base64Padded, if_neg last] at isD
  obtain ⟨smallA, rfl⟩ := base64Char_value isA
  obtain ⟨smallB, rfl⟩ := base64Char_value isB
  obtain ⟨smallC, rfl⟩ := base64Char_value isC
  obtain ⟨smallD, rfl⟩ := base64Char_value isD
  have whole : (UInt8.ofNat (word / 65536)).toNat * 65536 + (UInt8.ofNat (word / 256)).toNat * 256 +
      (UInt8.ofNat word).toNat = word := by
    simp only [UInt8.toNat_ofNat']
    omega
  have digits : word / 64 ^ 3 % 64 = a ∧ word / 64 ^ 2 % 64 = b ∧ word / 64 ^ 1 % 64 = c ∧ word / 64 ^ 0 % 64 = d := by omega
  rw [lowBytes, if_neg plain, if_neg last, List.append_assoc]
  simp only [List.cons_append, List.nil_append, base64Chunks, whole, base64Digit_eq, digits]

/-- The last group with its two bytes: the spare bits are written as zero. -/
theorem last_group_written {first second third : UInt8} {word : Nat} (group : Group first second third base64Pad word)
    (plain : third ≠ base64Pad) :
    [first, second, third, base64Pad] = base64Chunks (UInt8.ofNat (word / 65536) :: lowBytes third base64Pad word) ↔
      spareBits [first, second, third, base64Pad] = 0 := by
  obtain ⟨a, b, c, d, isA, isB, isC, isD, value⟩ := group
  rw [base64Padded, if_neg plain] at isC
  rw [base64Padded, if_pos rfl] at isD
  cases isD
  have spare : spareBits [first, second, third, base64Pad] = c % 4 := by
    show (base64Value third).getD 0 % 4 = c % 4
    rw [isC]
    rfl
  obtain ⟨smallA, rfl⟩ := base64Char_value isA
  obtain ⟨smallB, rfl⟩ := base64Char_value isB
  obtain ⟨smallC, rfl⟩ := base64Char_value isC
  have whole : (UInt8.ofNat (word / 65536)).toNat * 65536 + (UInt8.ofNat (word / 256)).toNat * 256 = word - c % 4 * 64 := by
    simp only [UInt8.toNat_ofNat']
    omega
  have digits : (word - c % 4 * 64) / 64 ^ 3 % 64 = a ∧ (word - c % 4 * 64) / 64 ^ 2 % 64 = b ∧
      (word - c % 4 * 64) / 64 ^ 1 % 64 = c - c % 4 := by omega
  have written : base64Chunks (UInt8.ofNat (word / 65536) :: lowBytes (base64Char c) base64Pad word) =
      [base64Char a, base64Char b, base64Char (c - c % 4), base64Pad] := by
    rw [lowBytes, if_neg plain, if_pos rfl]
    simp only [List.append_nil, base64Chunks, whole, base64Digit_eq, digits]
  rw [written, spare]
  simp only [List.cons.injEq, true_and, and_true]
  constructor
  · intro same
    have equal := base64Char_injective smallC (by omega) same
    omega
  · intro zero
    rw [zero, Nat.sub_zero]

/-- Among the texts of one key only the written one has no spare bits. -/
theorem base64Chunks_iff {groups : Nat} {digits bytes : List UInt8} (decoded : base64Bytes digits = some bytes)
    (length : digits.length = 4 * (groups + 1)) (last : digits.getLast? = some base64Pad)
    (full : bytes.length = 3 * groups + 2) : digits = base64Chunks bytes ↔ spareBits digits = 0 := by
  induction groups generalizing digits bytes with
  | zero =>
    obtain ⟨first, second, third, fourth, rest, rfl, none⟩ := exists_group length
    cases List.eq_nil_of_length_eq_zero none
    obtain ⟨word, after, group, empty, rfl⟩ := base64Bytes_cons.1 decoded
    cases empty
    obtain rfl : fourth = base64Pad := Option.some.inj last
    have plain : third ≠ base64Pad := by
      intro pad
      simp [length_lowBytes, pad] at full
    rw [List.append_nil]
    exact last_group_written group plain
  | succ groups ih =>
    obtain ⟨first, second, third, fourth, rest, rfl, more⟩ := exists_group length
    obtain ⟨word, after, group, tail, rfl⟩ := base64Bytes_cons.1 decoded
    rw [getLast?_group _ _ _ _ more] at last
    -- the padding at the end already costs a byte, so this group has none
    have shorter := length_base64Bytes tail more last
    simp only [List.length_cons, List.length_append, length_lowBytes] at full
    have plain : third ≠ base64Pad := by
      intro pad
      rw [if_pos pad] at full
      split at full <;> omega
    have plain' : fourth ≠ base64Pad := by
      intro pad
      rw [if_pos pad] at full
      split at full <;> omega
    rw [if_neg plain, if_neg plain'] at full
    rw [group_written group plain plain', spareBits_group _ _ _ _ more, ← ih tail more last (by omega)]
    simp only [List.cons.injEq, true_and]

/-- Every key is read back from its text. A text that is read as a key is the
text of that key if and only if its last digit has no spare bits. -/
theorem key_text_canonical (key : Bytes32) (text : String) :
    base64Decode32 (base64Encode key.toList) = .ok key ∧
    (base64Decode32 text = .ok key → (text = base64Encode key.toList ↔ spareBits (utf8 text) = 0)) := by
  refine ⟨base64Decode32_encode key, ?_⟩
  intro decoded
  rw [base64Decode32] at decoded
  split at decoded
  next => cases decoded
  next shape =>
  split at decoded
  next => cases decoded
  next bytes whole =>
  split at decoded
  next sized =>
    cases decoded
    simp only [Bool.or_eq_true, decide_eq_true_eq, not_or, not_not] at shape
    have same : text = base64Encode bytes ↔ utf8 text = base64Chunks bytes := by
      rw [← utf8_pushed (base64Chunks_ascii bytes)]
      exact ⟨fun equal => equal ▸ rfl, fun equal => utf8_injective equal⟩
    have length : (utf8 text).length = 4 * (10 + 1) := shape.1
    exact same.trans (base64Chunks_iff whole length shape.2 sized)
  next => cases decoded

def someKey : Bytes32 := .replicate 32 0x5a

/-- The text of a key with one spare bit set is read as the same key. -/
theorem crooked_key_text :
    base64Decode32 "WlpaWlpaWlpaWlpaWlpaWlpaWlpaWlpaWlpaWlpaWlp=" = .ok someKey ∧
    base64Encode someKey.toList = "WlpaWlpaWlpaWlpaWlpaWlpaWlpaWlpaWlpaWlpaWlo=" ∧
    base64Decode32 "WlpaWlpaWlpaWlpaWlpaWlpaWlpaWlpaWlpaWlpaWlo=" = .ok someKey := by
  decide +kernel

theorem key_text_canonical_straight :
    "WlpaWlpaWlpaWlpaWlpaWlpaWlpaWlpaWlpaWlpaWlo=" = base64Encode someKey.toList :=
  ((key_text_canonical someKey "WlpaWlpaWlpaWlpaWlpaWlpaWlpaWlpaWlpaWlpaWlo=").2 (by decide +kernel)).2 (by decide +kernel)

end PhoneBoost.Secure.Proofs
