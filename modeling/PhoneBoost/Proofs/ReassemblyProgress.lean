import PhoneBoost.Pbmux.RemoteBuffer
import PhoneBoost.Proofs.ReassemblyQuotas

/-! How long a message can stay open. The bytes still missing are the measure:
a continuation that carries bytes makes it smaller, and an empty one is accepted
without any effect on it. -/

namespace PhoneBoost.Pbmux.Proofs
open Keyed Reassembler Wire

theorem abortPartial_eq {state after : Reassembler} {key : MessageKey} {kind : PbmuxErrorKind}
    {answer : Except PbmuxError (Option (List UInt8))} (aborted : state.abortPartial key kind = some (after, answer)) :
    answer = .error (.logical kind) ∧ after.partials.get? key = none := by
  unfold abortPartial at aborted
  cases found : state.partials.get? key with
  | none =>
    rw [found] at aborted
    cases aborted
    exact ⟨rfl, found⟩
  | some message =>
    simp only [found, Option.bind_eq_bind, Option.bind_eq_some_iff, Option.pure_def, Option.some.injEq,
      Prod.mk.injEq] at aborted
    obtain ⟨accounting, -, rfl, rfl⟩ := aborted
    exact ⟨rfl, Table.get?_erase_self _ _⟩

/-- What a frame does to the open message of its key: it extends the message, or
it ends it, by completing or by rejecting it. -/
inductive Continued (message : PartialMessage) (frame : Frame) (after : Reassembler) :
    Except PbmuxError (Option (List UInt8)) → Prop where
  | longer (continues : (frame.header.flags &&& flagStart != 0) = false) (fits : fragmentMatches message frame = true)
      (kept : after.partials.get? frame.key = some (extended message frame)) : Continued message frame after (.ok none)
  | ended {answer} (ends : answer ≠ .ok none) (gone : after.partials.get? frame.key = none) :
      Continued message frame after answer

theorem abortPartial_continued {state after : Reassembler} {frame : Frame} {kind : PbmuxErrorKind}
    {answer : Except PbmuxError (Option (List UInt8))} (message : PartialMessage)
    (aborted : state.abortPartial frame.key kind = some (after, answer)) : Continued message frame after answer := by
  obtain ⟨rfl, gone⟩ := abortPartial_eq aborted
  exact .ended (fun equal => by cases equal) gone

theorem accept_continued {state after : Reassembler} {frame : Frame} {message : PartialMessage}
    {answer : Except PbmuxError (Option (List UInt8))} (found : state.partials.get? frame.key = some message)
    (accepted : state.accept frame = some (after, answer)) : Continued message frame after answer := by
  unfold accept at accepted
  simp only [found, Option.isSome_some, if_true] at accepted
  split at accepted
  · exact abortPartial_continued message accepted
  split at accepted
  · exact abortPartial_continued message accepted
  next notStart =>
    split at accepted
    · exact abortPartial_continued message accepted
    next fits =>
      split at accepted
      · cases accepted
        refine .longer (by simpa using notStart) (by simpa using fits) ?_
        rw [Table.get?_modify_self, found]
        rfl
      split at accepted
      · exact abortPartial_continued message accepted
      · simp only [Option.bind_eq_bind, Option.bind_eq_some_iff, Option.pure_def, Option.some.injEq,
          Prod.mk.injEq] at accepted
        obtain ⟨accounting, -, rfl, rfl⟩ := accepted
        exact .ended (fun equal => by cases equal) (Table.get?_erase_self _ _)

/-- A run in which no frame ends the message of the key. -/
inductive Waiting (key : MessageKey) : Reassembler → List Frame → Reassembler → Prop where
  | done (state : Reassembler) : Waiting key state [] state
  | more {state middle after : Reassembler} {frame : Frame} {rest : List Frame}
      {answer : Except PbmuxError (Option (List UInt8))} (accepted : state.accept frame = some (middle, answer))
      (waits : frame.key = key → answer = .ok none) (later : Waiting key middle rest after) :
      Waiting key state (frame :: rest) after

/-- Some frame of the list completes or rejects the message of the key. -/
inductive Ends (key : MessageKey) : Reassembler → List Frame → Prop where
  | now {state after : Reassembler} {frame : Frame} {answer : Except PbmuxError (Option (List UInt8))}
      (accepted : state.accept frame = some (after, answer)) (own : frame.key = key) (ends : answer ≠ .ok none)
      (gone : after.partials.get? key = none) (rest : List Frame) : Ends key state (frame :: rest)
  | later {state middle : Reassembler} {frame : Frame} {rest : List Frame}
      {answer : Except PbmuxError (Option (List UInt8))} (accepted : state.accept frame = some (middle, answer))
      (waits : frame.key = key → answer = .ok none) (ends : Ends key middle rest) : Ends key state (frame :: rest)

def ownFrames (key : MessageKey) (frames : List Frame) : List Frame := frames.filter fun frame => frame.key = key

def carriesBytes (frame : Frame) : Bool := frame.payload ≠ []

theorem ownFrames_cons_self {key : MessageKey} {frame : Frame} (own : frame.key = key) (rest : List Frame) :
    ownFrames key (frame :: rest) = frame :: ownFrames key rest := by
  simp [ownFrames, own]

theorem ownFrames_cons_other {key : MessageKey} {frame : Frame} (other : frame.key ≠ key) (rest : List Frame) :
    ownFrames key (frame :: rest) = ownFrames key rest := by
  simp [ownFrames, other]

section Run
variable {key : MessageKey} {state after : Reassembler} {frames : List Frame} {message : PartialMessage}

theorem waiting_or_ends (accounted : Accounted state) (sendable : ∀ frame ∈ frames, Sendable frame)
    (found : state.partials.get? key = some message) : (∃ after, Waiting key state frames after) ∨ Ends key state frames := by
  induction frames generalizing state message with
  | nil => exact .inl ⟨state, .done state⟩
  | cons frame rest ih =>
    obtain ⟨middle, answer, accepted, served⟩ := accept_served accounted (sendable frame (.head _))
    have sendable := fun other (member : other ∈ rest) => sendable other (.tail _ member)
    -- either the frame ends the message, or the message is still open after it
    have onward {message} (waits : frame.key = key → answer = .ok none) (found : middle.partials.get? key = some message) :
        (∃ after, Waiting key state (frame :: rest) after) ∨ Ends key state (frame :: rest) := by
      rcases ih served.accounted sendable found with ⟨after, waiting⟩ | ends
      · exact .inl ⟨after, .more accepted waits waiting⟩
      · exact .inr (.later accepted waits ends)
    by_cases own : frame.key = key
    · subst own
      cases accept_continued found accepted with
      | longer continues fits kept => exact onward (fun _ => rfl) kept
      | ended ends gone => exact .inr (.now accepted rfl ends gone rest)
    · exact onward (absurd · own) ((served.others key (Ne.symm own)).trans found)

/-- A message that stays open has grown by the payloads of its frames. -/
theorem Waiting.grows (waiting : Waiting key state frames after) (accounted : Accounted state)
    (sendable : ∀ frame ∈ frames, Sendable frame) (found : state.partials.get? key = some message) :
    Accounted after ∧ ∃ longer, after.partials.get? key = some longer ∧ longer.expectedLen = message.expectedLen ∧
      longer.payload = message.payload ++ (ownFrames key frames).flatMap Frame.payload := by
  induction waiting generalizing message with
  | done state => exact ⟨accounted, message, found, rfl, (List.append_nil _).symm⟩
  | @more state middle after frame rest answer accepted waits later ih =>
    obtain ⟨middle', answer', accepted', served⟩ := accept_served accounted (sendable frame (.head _))
    rw [accepted] at accepted'
    cases accepted'
    have ih := fun message => @ih message served.accounted fun other member => sendable other (.tail _ member)
    by_cases own : frame.key = key
    · subst own
      have answered := waits rfl
      subst answered
      cases accept_continued found accepted with
      | longer continues fits kept =>
        obtain ⟨accounted, longer, present, len, payload⟩ := ih _ kept
        refine ⟨accounted, longer, present, len, ?_⟩
        rw [payload, ownFrames_cons_self rfl, List.flatMap_cons]
        exact List.append_assoc ..
      | ended ends gone => exact absurd rfl ends
    · rw [ownFrames_cons_other own]
      exact ih message ((served.others key (Ne.symm own)).trans found)

end Run

theorem length_carrying_le (frames : List Frame) :
    (frames.filter carriesBytes).length ≤ (frames.flatMap Frame.payload).length := by
  induction frames with
  | nil => exact Nat.le_refl 0
  | cons frame rest ih =>
    rw [List.flatMap_cons, List.length_append, List.filter_cons]
    split
    next carries =>
      have : 0 < frame.payload.length := List.length_pos_of_ne_nil (of_decide_eq_true carries)
      rw [List.length_cons]
      omega
    next => omega

/-- Where the open message of a key comes from: it was open before, or the frame
opened or extended it. -/
inductive Origin (state : Reassembler) (frame : Frame) (key : MessageKey) : PartialMessage → Prop where
  | before {message} (found : state.partials.get? key = some message) : Origin state frame key message
  | opened (ticket : AdmissionTicket) (start : (frame.header.flags &&& flagStart != 0) = true) :
      Origin state frame key (opening ticket frame)
  | extended {message} (found : state.partials.get? key = some message)
      (continues : (frame.header.flags &&& flagStart != 0) = false) : Origin state frame key (extended message frame)

theorem accept_origin {state after : Reassembler} (accounted : Accounted state) {frame : Frame} (sendable : Sendable frame)
    {answer : Except PbmuxError (Option (List UInt8))} (accepted : state.accept frame = some (after, answer))
    {key : MessageKey} {message : PartialMessage} (present : after.partials.get? key = some message) :
    Origin state frame key message := by
  obtain ⟨after', answer', accepted', served⟩ := accept_served accounted sendable
  rw [accepted] at accepted'
  cases accepted'
  by_cases own : key = frame.key
  · subst own
    cases found : state.partials.get? frame.key with
    | some earlier =>
      cases accept_continued found accepted with
      | longer continues fits kept =>
        rw [kept, Option.some.injEq] at present
        subst message
        exact .extended found continues
      | ended ends gone =>
        rw [gone] at present
        cases present
    | none =>
      unfold accept at accepted
      simp only [found, Option.isSome_none, Bool.false_eq_true, if_false] at accepted
      split at accepted
      · cases accepted
        exact .before present
      split at accepted
      next start =>
        split at accepted
        · cases accepted
          exact .before present
        · cases accepted
          rw [Table.get?_insert_self, Option.some.injEq] at present
          subst message
          exact .opened _ start
      · cases accepted
        exact .before present
  · rw [served.others key own] at present
    exact .before present

def Continuation (frame : Frame) : Prop := (frame.header.flags &&& flagStart != 0) = false

/-- The next index runs at most one ahead of the bytes that have arrived. -/
def Paced (state : Reassembler) : Prop := ∀ key message, state.partials.get? key = some message →
  message.expectedFragment.toNat ≤ message.payload.length + 1 ∧ message.expectedLen ≤ maxLogicalMessage

theorem Sendable.logical_le {frame : Frame} (sendable : Sendable frame) :
    frame.header.logicalMessageLen.toNat ≤ maxLogicalMessage := by
  have fragment := sendable.fragment
  unfold validateFragmentFields at fragment
  simp only [ite_error_eq_ok, not_lt] at fragment
  exact fragment.1

theorem Paced.accept {state after : Reassembler} (paced : Paced state) (accounted : Accounted state) {frame : Frame}
    (sendable : Sendable frame) (carries : Continuation frame → carriesBytes frame = true)
    {answer : Except PbmuxError (Option (List UInt8))} (accepted : state.accept frame = some (after, answer)) :
    Paced after := by
  intro key message present
  cases accept_origin accounted sendable accepted present with
  | before found => exact paced key message found
  | opened ticket start => exact ⟨Nat.le_add_left 1 _, sendable.logical_le⟩
  | @extended earlier found continues =>
    obtain ⟨index, len⟩ := paced key earlier found
    refine ⟨?_, len⟩
    have some : 0 < frame.payload.length := List.length_pos_of_ne_nil (of_decide_eq_true (carries continues))
    have next : (earlier.expectedFragment + 1).toNat ≤ earlier.expectedFragment.toNat + 1 := by
      rw [UInt32.toNat_add]
      exact Nat.mod_le _ _
    simp only [Reassembler.extended, List.length_append]
    omega

theorem acceptAll_paced {state after : Reassembler} (paced : Paced state) (accounted : Accounted state) {frames : List Frame}
    (sendable : ∀ frame ∈ frames, Sendable frame) (carries : ∀ frame ∈ frames, Continuation frame → carriesBytes frame = true)
    (ran : state.acceptAll frames = some after) : Paced after := by
  induction frames generalizing state with
  | nil =>
    cases ran
    exact paced
  | cons frame rest ih =>
    obtain ⟨middle, answer, accepted, served⟩ := accept_served accounted (sendable frame (.head _))
    rw [acceptAll, accepted] at ran
    refine ih (paced.accept accounted (sendable frame (.head _)) (carries frame (.head _)) accepted) served.accounted ?_ ?_ ran
    · exact fun other member => sendable other (.tail _ member)
    · exact fun other member => carries other (.tail _ member)

theorem Waiting.acceptAll {key : MessageKey} {state after : Reassembler} {frames : List Frame}
    (waiting : Waiting key state frames after) : state.acceptAll frames = some after := by
  induction waiting with
  | done state => rfl
  | more accepted waits later ih =>
    rw [Reassembler.acceptAll, accepted]
    exact ih

/-- Only continuations that carry bytes bring an open message nearer to its
declared length; where all of them do, it ends after at most as many further
continuations as bytes are missing, and the index cannot overflow. -/
theorem reassembly_progress (frames : List Frame) (decoded : ∀ frame ∈ frames, ∃ word, decode word = some (.ok frame))
    (state : Reassembler) (ran : Reassembler.default.acceptAll frames = some state) (key : MessageKey)
    (message : PartialMessage) (found : state.partials.get? key = some message) (rest : List Frame)
    (decodedRest : ∀ frame ∈ rest, ∃ word, decode word = some (.ok frame)) :
    (∀ after, Waiting key state rest after →
      ((ownFrames key rest).filter carriesBytes).length ≤ message.expectedLen - message.payload.length ∧
      ∃ longer, after.partials.get? key = some longer ∧ longer.payload.length ≤ message.expectedLen ∧
        longer.payload = message.payload ++ (ownFrames key rest).flatMap Frame.payload) ∧
    (message.expectedLen - message.payload.length < ((ownFrames key rest).filter carriesBytes).length →
      Ends key state rest) ∧
    ((∀ frame ∈ frames ++ rest, Continuation frame → carriesBytes frame = true) → ∀ after, Waiting key state rest after →
      ∀ other longer, after.partials.get? other = some longer →
        longer.expectedFragment.toNat ≤ longer.payload.length + 1 ∧ longer.payload.length ≤ maxLogicalMessage) := by
  have sendable {frames : List Frame} (decoded : ∀ frame ∈ frames, ∃ word, decode word = some (.ok frame)) :
      ∀ frame ∈ frames, Sendable frame := by
    intro frame member
    obtain ⟨word, read⟩ := decoded frame member
    exact (decode_eq_ok.1 read).1
  obtain ⟨state', ran', accounted⟩ := acceptAll_accounted .default (sendable decoded)
  rw [ran] at ran'
  cases ran'
  have bounded (after : Reassembler) (waiting : Waiting key state rest after) :
      ((ownFrames key rest).filter carriesBytes).length ≤ message.expectedLen - message.payload.length ∧
      ∃ longer, after.partials.get? key = some longer ∧ longer.payload.length ≤ message.expectedLen ∧
        longer.payload = message.payload ++ (ownFrames key rest).flatMap Frame.payload := by
    obtain ⟨accounted', longer, present, len, payload⟩ := waiting.grows accounted (sendable decodedRest) found
    have fits := (accounted'.rows key longer present).payload
    rw [len] at fits
    refine ⟨?_, longer, present, fits, payload⟩
    have carrying := length_carrying_le (ownFrames key rest)
    rw [payload, List.length_append] at fits
    omega
  refine ⟨bounded, ?_, ?_⟩
  · intro many
    rcases waiting_or_ends accounted (sendable decodedRest) found with ⟨after, waiting⟩ | ends
    · exact absurd (bounded after waiting).1 (Nat.not_le.mpr many)
    · exact ends
  · intro carries after waiting other longer present
    have first : Paced state := by
      refine acceptAll_paced ?_ .default (sendable decoded) ?_ ran
      · intro key message found
        cases found
      · exact fun frame member => carries frame (List.mem_append_left _ member)
    have second : Paced after := acceptAll_paced first accounted (sendable decodedRest)
      (fun frame member => carries frame (List.mem_append_right _ member)) waiting.acceptAll
    have accounted' := (waiting.grows accounted (sendable decodedRest) found).1
    obtain ⟨index, len⟩ := second other longer present
    exact ⟨index, (accounted'.rows other longer present).payload.trans len⟩

/-- The first frame of a one-byte PUT, which carries no byte. -/
def emptyStart : Frame := ⟨⟨.remoteBuffer, flagStart ||| flagAckRequired, 3, 7, 0, 0, 0, 1⟩, []⟩

def middle (index : UInt32) (payload : List UInt8) : Frame :=
  ⟨⟨.remoteBuffer, flagAckRequired, 3, 7, index.toUInt64, index, UInt32.ofNat payload.length, 0⟩, payload⟩

theorem emptyStart_sendable : Sendable emptyStart := ⟨by decide, by decide, by decide, by decide, by decide⟩

theorem middle_sendable {index : UInt32} {payload : List UInt8} (later : index ≠ 0) (short : payload.length ≤ maxPbmuxPayload) :
    Sendable (middle index payload) := by
  have length : (UInt32.ofNat payload.length).toNat = payload.length := by
    simp only [maxPbmuxPayload] at short
    exact UInt32.toNat_ofNat_of_lt' (short.trans_lt (by decide))
  have noStart : (flagAckRequired &&& flagStart != 0) = false := by decide
  have known : flagAckRequired &&& ~~~knownFlags = 0 := by decide
  refine ⟨short, length, known, rfl, ?_⟩
  simp [validateFragmentFields, middle, later, noStart]

/-- A message of one byte is still open after two further continuations. -/
theorem empty_continuations_accepted :
    (∀ frame ∈ [emptyStart, middle 1 [], middle 2 []],
      (∃ word, decode word = some (.ok frame)) ∧ validateRemoteBufferRequestFragment frame = .ok ()) ∧
    ∃ state after message longer, Reassembler.default.acceptAll [emptyStart] = some state ∧
      state.partials.get? emptyStart.key = some message ∧ message.expectedLen = 1 ∧
      Waiting emptyStart.key state [middle 1 [], middle 2 []] after ∧
      ownFrames emptyStart.key [middle 1 [], middle 2 []] = [middle 1 [], middle 2 []] ∧
      after.partials.get? emptyStart.key = some longer ∧ longer.payload = [] ∧ longer.expectedFragment = 3 := by
  refine ⟨?_, ?_⟩
  · intro frame member
    simp only [List.mem_cons, List.not_mem_nil, or_false] at member
    rcases member with rfl | rfl | rfl
    · exact ⟨⟨_, decode_eq_ok.2 ⟨emptyStart_sendable, rfl⟩⟩, by decide⟩
    · exact ⟨⟨_, decode_eq_ok.2 ⟨middle_sendable (by decide) (by decide), rfl⟩⟩, by decide⟩
    · exact ⟨⟨_, decode_eq_ok.2 ⟨middle_sendable (by decide) (by decide), rfl⟩⟩, by decide⟩
  · refine ⟨_, _, _, _, rfl, rfl, rfl, .more rfl (fun _ => rfl) (.more rfl (fun _ => rfl) (.done _)), rfl, rfl, rfl, rfl⟩

/-- Two further bytes are one too many for a message of one byte. -/
theorem reassembly_progress_rejected : ∃ state, Reassembler.default.acceptAll [emptyStart] = some state ∧
    Ends emptyStart.key state [middle 1 [5], middle 2 [6]] := by
  refine ⟨_, rfl, ?_⟩
  have opened : ∀ frame ∈ [emptyStart], ∃ word, decode word = some (.ok frame) := by
    intro frame member
    rw [List.mem_singleton.mp member]
    exact ⟨_, decode_eq_ok.2 ⟨emptyStart_sendable, rfl⟩⟩
  have continued : ∀ frame ∈ [middle 1 [5], middle 2 [6]], ∃ word, decode word = some (.ok frame) := by
    intro frame member
    simp only [List.mem_cons, List.not_mem_nil, or_false] at member
    rcases member with rfl | rfl
    · exact ⟨_, decode_eq_ok.2 ⟨middle_sendable (by decide) (by decide), rfl⟩⟩
    · exact ⟨_, decode_eq_ok.2 ⟨middle_sendable (by decide) (by decide), rfl⟩⟩
  exact (reassembly_progress [emptyStart] opened _ rfl emptyStart.key _ rfl _ continued).2.1 (by decide)

end PhoneBoost.Pbmux.Proofs
