import Mathlib.Algebra.Order.Ring.Nat
import Mathlib.Data.Nat.ModEq
import Mathlib.Tactic.Ring
import PhoneBoost.Lib.Wire
import PhoneBoost.Pbmux.FrameCodec

/-! The fields of the wire formats as layouts: single bytes, fixed arrays and
big-endian numbers. A reader at an offset is the same reader on the rest of the
payload, so a layout reads what the source reads at its running offset. -/

namespace PhoneBoost.Pbmux.Proofs
open Wire

@[simp] theorem length_toBeBytes (width value : Nat) : (toBeBytes width value).length = width := by
  induction width with
  | zero => rfl
  | succ width ih => simp [toBeBytes, ih]

private theorem foldl_bytes (bytes : List UInt8) (start : Nat) :
    bytes.foldl (fun acc byte => 256 * acc + byte.toNat) start = start * 256 ^ bytes.length + ofBeBytes bytes := by
  induction bytes generalizing start with
  | nil => simp [ofBeBytes]
  | cons byte bytes ih =>
    have head := ih (256 * 0 + byte.toNat)
    rw [ofBeBytes, List.foldl_cons, List.foldl_cons, ih, head, List.length_cons, Nat.pow_succ]
    ring

theorem ofBeBytes_cons (byte : UInt8) (bytes : List UInt8) :
    ofBeBytes (byte :: bytes) = byte.toNat * 256 ^ bytes.length + ofBeBytes bytes := by
  rw [ofBeBytes, List.foldl_cons, foldl_bytes, Nat.mul_zero, Nat.zero_add]

theorem ofBeBytes_lt (bytes : List UInt8) : ofBeBytes bytes < 256 ^ bytes.length := by
  induction bytes with
  | nil => simp [ofBeBytes]
  | cons byte bytes ih =>
    have top : byte.toNat < 256 := byte.toNat_lt
    rw [ofBeBytes_cons, List.length_cons, Nat.pow_succ]
    calc byte.toNat * 256 ^ bytes.length + ofBeBytes bytes
        < byte.toNat * 256 ^ bytes.length + 256 ^ bytes.length := Nat.add_lt_add_left ih _
      _ = (byte.toNat + 1) * 256 ^ bytes.length := by rw [Nat.add_mul, Nat.one_mul]
      _ ≤ 256 * 256 ^ bytes.length := Nat.mul_le_mul_right _ top
      _ = 256 ^ bytes.length * 256 := Nat.mul_comm _ _

theorem ofBeBytes_toBeBytes (width value : Nat) : ofBeBytes (toBeBytes width value) = value % 256 ^ width := by
  induction width with
  | zero => simp [toBeBytes, ofBeBytes, Nat.mod_one]
  | succ width ih =>
    rw [toBeBytes, ofBeBytes_cons, ih, length_toBeBytes, Nat.mod_pow_succ, UInt8.toNat_ofNat']
    ring

/-- Words of one length are told apart by the numbers they denote. -/
theorem ofBeBytes_inj {first second : List UInt8} (length : first.length = second.length)
    (same : ofBeBytes first = ofBeBytes second) : first = second := by
  induction first generalizing second with
  | nil => exact (List.eq_nil_of_length_eq_zero length.symm).symm
  | cons byte bytes ih =>
    match second, length with
    | other :: others, length =>
      have rest : bytes.length = others.length := Nat.succ.inj length
      rw [ofBeBytes_cons, ofBeBytes_cons, rest] at same
      have low := ofBeBytes_lt bytes
      have low' := ofBeBytes_lt others
      rw [rest] at low
      have top : byte.toNat = other.toNat := by
        have quotient := congrArg (· / 256 ^ others.length) same
        have positive : 0 < 256 ^ others.length := Nat.pow_pos (by decide)
        simpa only [Nat.mul_comm _ (256 ^ others.length), Nat.mul_add_div positive, Nat.div_eq_of_lt low,
          Nat.div_eq_of_lt low', Nat.add_zero] using quotient
      rw [top] at same
      rw [UInt8.toNat_inj.1 top, ih rest (Nat.add_left_cancel same)]

theorem toBeBytes_ofBeBytes (bytes : List UInt8) : toBeBytes bytes.length (ofBeBytes bytes) = bytes := by
  apply ofBeBytes_inj (length_toBeBytes _ _)
  rw [ofBeBytes_toBeBytes, Nat.mod_eq_of_lt (ofBeBytes_lt bytes)]

/-- A machine number of `width` bytes. -/
def bigEndian (width : Nat) (toNat : α → Nat) (ofNat : Nat → α) (bounded : ∀ value, toNat value < 256 ^ width)
    (ofNat_toNat : ∀ value, ofNat (toNat value) = value) (toNat_ofNat : ∀ n < 256 ^ width, toNat (ofNat n) = n) :
    Layout UInt8 α where
  width
  put value := toBeBytes width (toNat value)
  get bytes := ofNat (ofBeBytes (slice bytes 0 (0 + width)))
  length_put value := length_toBeBytes _ _
  get_put value rest := by
    have cut : slice (toBeBytes width (toNat value) ++ rest) 0 (0 + width) = toBeBytes width (toNat value) := by
      rw [slice, List.drop_zero, Nat.zero_add, Nat.sub_zero, List.take_left' (length_toBeBytes _ _)]
    rw [cut, ofBeBytes_toBeBytes, Nat.mod_eq_of_lt (bounded value), ofNat_toNat]
  put_get bytes wide := by
    have cut : slice bytes 0 (0 + width) = bytes.take width := by simp [slice]
    have length : (bytes.take width).length = width := by rw [List.length_take, Nat.min_eq_left wide]
    have bound := ofBeBytes_lt (bytes.take width)
    rw [length] at bound
    have back := toBeBytes_ofBeBytes (bytes.take width)
    rw [length] at back
    rw [cut, toNat_ofNat _ bound, back]

def byte : Layout UInt8 UInt8 := Layout.symbol 0

def bytes (size : Nat) : Layout UInt8 (Vector UInt8 size) where
  width := size
  put value := value.toList
  get word := array size word 0
  length_put value := value.length_toList
  get_put value rest := by simpa [array, Layout.vector] using (Layout.vector 0 size).get_put value rest
  put_get word wide := by simpa [array, Layout.vector] using (Layout.vector 0 size).put_get word wide

def u16 : Layout UInt8 UInt16 :=
  bigEndian 2 UInt16.toNat UInt16.ofNat UInt16.toNat_lt (fun _ => UInt16.ofNat_toNat)
    (fun _ small => UInt16.toNat_ofNat_of_lt' small)

def u32 : Layout UInt8 UInt32 :=
  bigEndian 4 UInt32.toNat UInt32.ofNat UInt32.toNat_lt (fun _ => UInt32.ofNat_toNat)
    (fun _ small => UInt32.toNat_ofNat_of_lt' small)

def u64 : Layout UInt8 UInt64 :=
  bigEndian 8 UInt64.toNat UInt64.ofNat UInt64.toNat_lt (fun _ => UInt64.ofNat_toNat)
    (fun _ small => UInt64.toNat_ofNat_of_lt' small)

@[simp] theorem slice_drop (payload : List UInt8) (skipped first last : Nat) :
    slice (payload.drop skipped) first last = slice payload (skipped + first) (skipped + last) := by
  rw [slice, slice, List.drop_drop, Nat.add_sub_add_left]

@[simp] theorem array_drop (size : Nat) (payload : List UInt8) (skipped offset : Nat) :
    array size (payload.drop skipped) offset = array size payload (skipped + offset) := by
  simp [array, List.getElem?_drop, Nat.add_assoc]

theorem slice_eq_array {payload : List UInt8} {first size : Nat} (wide : first + size ≤ payload.length) :
    slice payload first (first + size) = (array size payload first).toList := by
  have room : size ≤ (payload.drop first).length := by
    rw [List.length_drop]
    omega
  have cut := (bytes size).put_get (payload.drop first) room
  simp only [bytes, array_drop, Nat.add_zero] at cut
  rw [cut, slice, Nat.add_sub_cancel_left]

@[simp] theorem byte_width : byte.width = 1 := rfl
@[simp] theorem bytes_width (size : Nat) : (bytes size).width = size := rfl
@[simp] theorem u16_width : u16.width = 2 := rfl
@[simp] theorem u32_width : u32.width = 4 := rfl
@[simp] theorem u64_width : u64.width = 8 := rfl

@[simp] theorem byte_put (value : UInt8) : byte.put value = [value] := rfl
@[simp] theorem bytes_put (value : Vector UInt8 size) : (bytes size).put value = value.toList := rfl
@[simp] theorem u16_put (value : UInt16) : u16.put value = toBeBytes 2 value.toNat := rfl
@[simp] theorem u32_put (value : UInt32) : u32.put value = toBeBytes 4 value.toNat := rfl
@[simp] theorem u64_put (value : UInt64) : u64.put value = toBeBytes 8 value.toNat := rfl

@[simp] theorem byte_get (payload : List UInt8) : byte.get payload = payload.getD 0 0 := rfl
@[simp] theorem bytes_get (payload : List UInt8) : (bytes size).get payload = array size payload 0 := rfl
@[simp] theorem u16_get (payload : List UInt8) : u16.get payload = readU16 payload 0 := rfl
@[simp] theorem u32_get (payload : List UInt8) : u32.get payload = readU32 payload 0 := rfl
@[simp] theorem u64_get (payload : List UInt8) : u64.get payload = readU64 payload 0 := rfl

@[simp] theorem getD_drop (payload : List UInt8) (skipped offset : Nat) :
    (payload.drop skipped).getD offset 0 = payload.getD (skipped + offset) 0 := by
  rw [List.getD_eq_getElem?_getD, List.getD_eq_getElem?_getD, List.getElem?_drop]

@[simp] theorem readU16_drop (payload : List UInt8) (skipped offset : Nat) :
    readU16 (payload.drop skipped) offset = readU16 payload (skipped + offset) := by
  rw [readU16, slice_drop, readU16, Nat.add_assoc]

@[simp] theorem readU32_drop (payload : List UInt8) (skipped offset : Nat) :
    readU32 (payload.drop skipped) offset = readU32 payload (skipped + offset) := by
  rw [readU32, slice_drop, readU32, Nat.add_assoc]

@[simp] theorem readU64_drop (payload : List UInt8) (skipped offset : Nat) :
    readU64 (payload.drop skipped) offset = readU64 payload (skipped + offset) := by
  rw [readU64, slice_drop, readU64, Nat.add_assoc]

theorem singleProfile_length {channel : Channel} {flags : UInt16} {len : Nat} {frame : Frame}
    (profile : singleProfile channel flags len frame = true) : frame.payload.length = len := by
  simp only [singleProfile, Bool.and_eq_true, decide_eq_true_eq] at profile
  exact profile.2

theorem singleProfile_iff {channel : Channel} {flags : UInt16} {len : Nat} {frame : Frame} :
    singleProfile channel flags len frame = true ↔
      frame.payload.length = len ∧ singleProfile channel flags frame.payload.length frame = true := by
  constructor
  · intro profile
    have length := singleProfile_length profile
    exact ⟨length, length ▸ profile⟩
  · rintro ⟨rfl, profile⟩
    exact profile

/-- Three identifiers: the payload of every request that names one object. -/
def handleLayout : Layout UInt8 (Bytes16 × Bytes16 × Bytes16) := (bytes 16).seq <| (bytes 16).seq (bytes 16)

theorem handleLayout_get (payload : List UInt8) :
    handleLayout.get payload = (array 16 payload 0, array 16 payload 16, array 16 payload 32) := by
  simp [handleLayout]

/-- The source compares slices where a layout reads fields. -/
theorem slice_eq_put_iff (layout : Layout UInt8 α) {payload : List UInt8} (value : α) (first : Nat)
    (wide : first + layout.width ≤ payload.length) :
    slice payload first (first + layout.width) = layout.put value ↔ layout.get (payload.drop first) = value := by
  rw [slice, Nat.add_sub_cancel_left]
  exact layout.take_drop_eq_put_iff first wide

theorem slice_eq_zeros {payload : List UInt8} (first size : Nat) (wide : first + size ≤ payload.length) :
    slice payload first (first + size) = List.replicate size 0 ↔
      array size payload first = Vector.replicate size 0 := by
  have compared := slice_eq_put_iff (bytes size) (Vector.replicate size 0) first wide
  rwa [bytes_put, Vector.toList_replicate, bytes_get, array_drop] at compared

/-- A presence byte that passed its check is zero or one. -/
theorem presence_cases {value : UInt8} (checked : ¬1 < value) : value = 0 ∨ value = 1 := by
  rw [← UInt8.toNat_inj, ← UInt8.toNat_inj]
  rw [UInt8.lt_iff_toNat_lt] at checked
  simp only [UInt8.toNat_ofNat] at checked ⊢
  omega

theorem toNat_eq_iff {value : UInt16} {code : Nat} (small : code < 65536) :
    value.toNat = code ↔ value = UInt16.ofNat code := by
  rw [← UInt16.toNat_inj, UInt16.toNat_ofNat_of_lt' small]

end PhoneBoost.Pbmux.Proofs
