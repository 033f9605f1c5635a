import PhoneBoost.Proofs.WireFields

/-! The frame codec accepts exactly what it writes. -/

namespace PhoneBoost.Pbmux.Proofs
open Wire

theorem Channel.tryFrom_eq_some {value : UInt8} {channel : Channel} :
    Channel.tryFrom value = some channel ↔ value = channel.code := by
  constructor
  · intro found
    unfold Channel.tryFrom at found
    split_ifs at found <;> cases found <;> assumption
  · rintro rfl
    cases channel <;> rfl

/-- The forty header bytes, constants included. -/
abbrev RawHeader :=
  Vector UInt8 4 × UInt8 × UInt8 × UInt16 × UInt16 × UInt16 × UInt64 × UInt64 × UInt32 × UInt32 × UInt32

def headerLayout : Layout UInt8 RawHeader :=
  (bytes 4).seq <| byte.seq <| byte.seq <| u16.seq <| u16.seq <| u16.seq <| u64.seq <| u64.seq <| u32.seq <|
    u32.seq u32

def rawHeader (header : Header) : RawHeader :=
  (#v[0x50, 0x42, 0x4d, 0x31], pbmuxVersion, header.channel.code, header.flags, header.messageType,
    UInt16.ofNat pbmuxHeaderLen, header.requestId, header.sequence, header.fragmentIndex, header.payloadLen,
    header.logicalMessageLen)

theorem headerLayout_get (word : List UInt8) :
    headerLayout.get word = (array 4 word 0, word.getD 4 0, word.getD 5 0, readU16 word 6, readU16 word 8,
      readU16 word 10, readU64 word 12, readU64 word 20, readU32 word 28, readU32 word 32, readU32 word 36) := by
  simp only [headerLayout, Layout.seq_get, bytes_get, byte_get, u16_get, u32_get, u64_get, bytes_width, byte_width,
    u16_width, u32_width, u64_width, List.drop_drop, getD_drop, readU16_drop, readU32_drop, readU64_drop]

theorem headerLayout_put (header : Header) :
    headerLayout.put (rawHeader header) = pbmuxMagic ++ [pbmuxVersion, header.channel.code]
      ++ toBeBytes 2 header.flags.toNat ++ toBeBytes 2 header.messageType.toNat ++ toBeBytes 2 pbmuxHeaderLen
      ++ toBeBytes 8 header.requestId.toNat ++ toBeBytes 8 header.sequence.toNat
      ++ toBeBytes 4 header.fragmentIndex.toNat ++ toBeBytes 4 header.payloadLen.toNat
      ++ toBeBytes 4 header.logicalMessageLen.toNat := by
  simp only [headerLayout, Layout.seq_put, rawHeader, List.append_assoc]
  rfl

/-- What both directions demand of a frame, each in its own order. -/
structure Sendable (frame : Frame) : Prop where
  short : frame.payload.length ≤ maxPbmuxPayload
  length : frame.header.payloadLen.toNat = frame.payload.length
  flags : frame.header.flags &&& ~~~knownFlags = 0
  known : isKnownMessageType frame.header.channel frame.header.messageType = true
  fragment : validateFragmentFields frame.header = .ok ()

theorem encode_eq_ok {frame : Frame} {word : List UInt8} :
    encode frame = .ok word ↔ Sendable frame ∧ word = headerLayout.put (rawHeader frame.header) ++ frame.payload := by
  rw [headerLayout_put]
  unfold encode
  simp only [ite_error_eq_ok, not_lt, ne_eq, not_not, Bool.not_eq_true', Bool.not_eq_false]
  constructor
  · rintro ⟨short, length, flags, known, accepted⟩
    cases fragment : validateFragmentFields frame.header with
    | error error => simp only [fragment, reduceCtorEq] at accepted
    | ok =>
      simp only [fragment, Except.ok.injEq] at accepted
      exact ⟨⟨short, length, flags, known, fragment⟩, accepted.symm⟩
  · rintro ⟨⟨short, length, flags, known, fragment⟩, rfl⟩
    exact ⟨short, length, flags, known, by rw [fragment]⟩

theorem within_of_le {width offset : Nat} {word : List UInt8} (read : List UInt8 → Nat → α)
    (inside : offset + width ≤ word.length) : within width read word offset = some (read word offset) :=
  if_pos inside

/-- A word of at least forty bytes is read without a panic. -/
theorem decode_of_long {word : List UInt8} (long : pbmuxHeaderLen ≤ word.length) :
    decode word =
      some (
        if maxPbmuxPlaintext < word.length then .error (.session .frameTooLarge)
        else if slice word 0 4 ≠ pbmuxMagic then .error (.session .invalidMagic)
        else if word.getD 4 0 ≠ pbmuxVersion then .error (.session .invalidVersion)
        else
          match Channel.tryFrom (word.getD 5 0) with
          | none => .error (.session .unknownChannel)
          | some channel =>
            if readU16 word 6 &&& ~~~knownFlags ≠ 0 then .error (.session .reservedFlags)
            else if (readU16 word 10).toNat ≠ pbmuxHeaderLen then .error (.session .invalidHeaderLength)
            else if maxPbmuxPayload < (readU32 word 32).toNat
                || pbmuxHeaderLen + (readU32 word 32).toNat ≠ word.length then
              .error (.session .payloadLengthMismatch)
            else if !isKnownMessageType channel (readU16 word 8) then .error (.logical .unsupportedMessage)
            else
              let header : Header := ⟨channel, readU16 word 6, readU16 word 8, readU64 word 12, readU64 word 20,
                readU32 word 28, readU32 word 32, readU32 word 36⟩
              match validateFragmentFields header with
              | .error error => .error error
              | .ok () => .ok ⟨header, word.drop pbmuxHeaderLen⟩) := by
  have forty : 40 ≤ word.length := long
  unfold decode
  rw [if_neg (Nat.not_lt.2 long)]
  unfold pbmuxHeaderLen
  simp (disch := omega) only [within_of_le, Option.bind_eq_bind, Option.bind_some]
  cases Channel.tryFrom (word.getD 5 0) with
  | none => simp only [apply_ite some, Option.pure_def]
  | some channel =>
    dsimp only
    generalize validateFragmentFields _ = fragment
    cases fragment <;> simp only [apply_ite some, Option.pure_def]

theorem decode_of_short {word : List UInt8} (short : word.length < pbmuxHeaderLen) :
    decode word = some (.error (.session .headerTooShort)) := by
  unfold decode
  rw [if_pos short]
  rfl

theorem headerLayout_get_eq {word : List UInt8} {header : Header} (long : pbmuxHeaderLen ≤ word.length) :
    headerLayout.get word = rawHeader header ↔
      slice word 0 4 = pbmuxMagic ∧ word.getD 4 0 = pbmuxVersion ∧ (readU16 word 10).toNat = pbmuxHeaderLen ∧
      Channel.tryFrom (word.getD 5 0) = some header.channel ∧
      header = ⟨header.channel, readU16 word 6, readU16 word 8, readU64 word 12, readU64 word 20,
        readU32 word 28, readU32 word 32, readU32 word 36⟩ := by
  have forty : 40 ≤ word.length := long
  have magic : slice word 0 4 = pbmuxMagic ↔ array 4 word 0 = #v[0x50, 0x42, 0x4d, 0x31] := by
    have cut : slice word 0 (0 + 4) = (array 4 word 0).toList := slice_eq_array (by omega)
    rw [← Vector.toList_inj, ← cut]
    rfl
  have length : (readU16 word 10).toNat = pbmuxHeaderLen ↔ readU16 word 10 = UInt16.ofNat pbmuxHeaderLen :=
    toNat_eq_iff (by decide)
  obtain ⟨channel, flags, messageType, requestId, sequence, fragmentIndex, payloadLen, logicalMessageLen⟩ := header
  rw [headerLayout_get, magic, length, Channel.tryFrom_eq_some]
  simp only [rawHeader, Prod.mk.injEq, Header.mk.injEq, true_and]
  tauto

theorem decode_eq_ok {word : List UInt8} {frame : Frame} :
    decode word = some (.ok frame) ↔ Sendable frame ∧ word = headerLayout.put (rawHeader frame.header) ++ frame.payload := by
  by_cases long : pbmuxHeaderLen ≤ word.length
  · have start : word = headerLayout.put (rawHeader frame.header) ++ frame.payload ↔
        headerLayout.get word = rawHeader frame.header ∧ word.drop pbmuxHeaderLen = frame.payload := by
      rw [headerLayout.eq_put_append_iff]
      exact and_iff_right long
    rw [start, headerLayout_get_eq long, decode_of_long long, Option.some.injEq]
    simp only [ite_error_eq_ok, not_lt, ne_eq, not_not]
    constructor
    · rintro ⟨-, magic, version, accepted⟩
      cases found : Channel.tryFrom (word.getD 5 0) with
      | none => simp only [found, reduceCtorEq] at accepted
      | some channel =>
        simp only [found, ite_error_eq_ok, Bool.or_eq_true, decide_eq_true_eq, not_or, not_lt, not_not,
          Bool.not_eq_true', Bool.not_eq_false] at accepted
        obtain ⟨flags, headerLen, ⟨small, length⟩, known, accepted⟩ := accepted
        generalize fragment : validateFragmentFields _ = checked at accepted
        cases checked with
        | error error => simp only [reduceCtorEq] at accepted
        | ok =>
          cases accepted
          have body : (readU32 word 32).toNat = (word.drop pbmuxHeaderLen).length := by
            rw [List.length_drop]
            omega
          exact ⟨⟨body ▸ small, body, flags, known, fragment⟩, ⟨magic, version, headerLen, rfl, rfl⟩, rfl⟩
    · obtain ⟨⟨channel, flags, messageType, requestId, sequence, fragmentIndex, payloadLen, logicalLen⟩, payload⟩ := frame
      rintro ⟨⟨short, length, flags, known, fragment⟩, ⟨magic, version, headerLen, found, header⟩, rest⟩
      cases header
      subst rest
      simp only [List.length_drop] at short length
      have total : pbmuxHeaderLen + (readU32 word 32).toNat = word.length := by omega
      have small : word.length ≤ maxPbmuxPlaintext := by
        simp only [maxPbmuxPlaintext, maxPbmuxPayload, pbmuxHeaderLen] at *
        omega
      simp only [found, ite_error_eq_ok, Bool.or_eq_true, decide_eq_true_eq, not_or, not_lt, not_not,
        Bool.not_eq_true', Bool.not_eq_false]
      exact ⟨small, magic, version, flags, headerLen, ⟨length ▸ short, total⟩, known, by rw [fragment]⟩
  · rw [decode_of_short (Nat.lt_of_not_le long), headerLayout.eq_put_append_iff]
    exact iff_of_false (by simp) (fun ⟨_, wide, _⟩ => long wide)

/-- A message in one frame can be sent if it is short and its type is known. -/
theorem encode_single {channel : Channel} {messageType : UInt16} {payload : List UInt8} (requestId sequence : UInt64)
    (short : payload.length ≤ maxPbmuxPayload) (known : isKnownMessageType channel messageType = true) :
    ∃ word, encode ⟨singleHeader channel (flagStart ||| flagEnd) messageType requestId sequence payload.length, payload⟩ = .ok word := by
  have plain : (flagStart ||| flagEnd) &&& ~~~knownFlags = 0 := by decide
  have whole : ((flagStart ||| flagEnd) &&& flagStart != 0) = true ∧ ((flagStart ||| flagEnd) &&& flagEnd != 0) = true := by decide
  simp only [maxPbmuxPayload] at short
  have length : (UInt32.ofNat payload.length).toNat = payload.length := UInt32.toNat_ofNat_of_lt' (by simp only [UInt32.size]; omega)
  refine ⟨_, encode_eq_ok.2 ⟨⟨short, length, plain, known, ?_⟩, rfl⟩⟩
  have fits : ¬maxLogicalMessage < payload.length := by
    simp only [maxLogicalMessage]
    omega
  simp [validateFragmentFields, singleHeader, whole, length, fits]

theorem decode_of_big {word : List UInt8} (big : maxPbmuxPlaintext < word.length) :
    decode word = some (.error (.session .frameTooLarge)) := by
  have long : pbmuxHeaderLen ≤ word.length := by
    simp only [maxPbmuxPlaintext, pbmuxHeaderLen] at *
    omega
  rw [decode_of_long long, if_pos big]

/-- A word encodes a frame when and only when it decodes to that frame. Decoding
never panics, and a word of the wrong size is refused. -/
theorem frame_codec_exact :
    (∀ frame word, encode frame = .ok word ↔ decode word = some (.ok frame)) ∧
    (∀ word, (decode word).isSome) ∧
    (∀ word, word.length < pbmuxHeaderLen ∨ maxPbmuxPlaintext < word.length → ∃ error, decode word = some (.error error)) := by
  refine ⟨fun frame word => ?_, fun word => ?_, fun word size => ?_⟩
  · rw [encode_eq_ok, decode_eq_ok]
  · by_cases long : pbmuxHeaderLen ≤ word.length
    · rw [decode_of_long long]
      rfl
    · rw [decode_of_short (Nat.lt_of_not_le long)]
      rfl
  · cases size with
    | inl short => exact ⟨_, decode_of_short short⟩
    | inr big => exact ⟨_, decode_of_big big⟩

end PhoneBoost.Pbmux.Proofs
