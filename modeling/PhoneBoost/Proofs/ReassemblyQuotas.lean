import PhoneBoost.Pbmux.Reassembly
import PhoneBoost.Proofs.FrameRoundTrip

/-! The quota counters always describe the open partial messages, whatever
frames a peer sends. -/

namespace PhoneBoost.Pbmux.Proofs
open Keyed Wire

def bytesOn (channel : Channel) (key : MessageKey) (message : PartialMessage) : Nat :=
  if key.1 = channel then message.ticket.bytes else 0

def oneOn (channel : Channel) (key : MessageKey) (_ : PartialMessage) : Nat := if key.1 = channel then 1 else 0

def ticketBytes (_ : MessageKey) (message : PartialMessage) : Nat := message.ticket.bytes

structure WellFormed (key : MessageKey) (message : PartialMessage) : Prop where
  channel : message.ticket.channel = key.1
  bytes : message.ticket.bytes = message.expectedLen
  payload : message.payload.length ≤ message.expectedLen

structure Accounted (state : Reassembler) : Prop where
  bytes : ∀ channel, state.accounting.channelBytes channel = state.partials.total (bytesOn channel)
  count : ∀ channel, state.accounting.channelCount channel = state.partials.total (oneOn channel)
  session : state.accounting.sessionBytes = state.partials.total ticketBytes
  rows : ∀ key message, state.partials.get? key = some message → WellFormed key message
  bytesWithin : ∀ channel, state.accounting.channelBytes channel ≤ maxReassemblyPerChannel
  countWithin : ∀ channel, state.accounting.channelCount channel ≤ countLimit channel
  sessionWithin : state.accounting.sessionBytes ≤ maxReassemblyPerSession

/-- The counters after one more message of `bytes` on a channel. -/
def charge (accounting : ReassemblyAccounting) (channel : Channel) (bytes : Nat) : ReassemblyAccounting where
  channelBytes := Function.update accounting.channelBytes channel (accounting.channelBytes channel + bytes)
  channelCount := Function.update accounting.channelCount channel (accounting.channelCount channel + 1)
  sessionBytes := accounting.sessionBytes + bytes

/-- The counters after one message less. -/
def discharge (accounting : ReassemblyAccounting) (channel : Channel) (bytes : Nat) : ReassemblyAccounting where
  channelBytes := Function.update accounting.channelBytes channel (accounting.channelBytes channel - bytes)
  channelCount := Function.update accounting.channelCount channel (accounting.channelCount channel - 1)
  sessionBytes := accounting.sessionBytes - bytes

theorem charge_channelBytes (accounting : ReassemblyAccounting) (channel other : Channel) (bytes : Nat) :
    (charge accounting channel bytes).channelBytes other =
      if other = channel then accounting.channelBytes channel + bytes else accounting.channelBytes other :=
  Function.update_apply _ _ _ _

theorem charge_channelCount (accounting : ReassemblyAccounting) (channel other : Channel) (bytes : Nat) :
    (charge accounting channel bytes).channelCount other =
      if other = channel then accounting.channelCount channel + 1 else accounting.channelCount other :=
  Function.update_apply _ _ _ _

theorem discharge_channelBytes (accounting : ReassemblyAccounting) (channel other : Channel) (bytes : Nat) :
    (discharge accounting channel bytes).channelBytes other =
      if other = channel then accounting.channelBytes channel - bytes else accounting.channelBytes other :=
  Function.update_apply _ _ _ _

theorem discharge_channelCount (accounting : ReassemblyAccounting) (channel other : Channel) (bytes : Nat) :
    (discharge accounting channel bytes).channelCount other =
      if other = channel then accounting.channelCount channel - 1 else accounting.channelCount other :=
  Function.update_apply _ _ _ _

structure Room (accounting : ReassemblyAccounting) (channel : Channel) (bytes : Nat) : Prop where
  message : bytes ≤ maxLogicalMessage
  count : accounting.channelCount channel < countLimit channel
  channel : accounting.channelBytes channel + bytes ≤ maxReassemblyPerChannel
  session : accounting.sessionBytes + bytes ≤ maxReassemblyPerSession

theorem tryStart_eq_ok {accounting after : ReassemblyAccounting} {channel : Channel} {bytes : Nat}
    {ticket : AdmissionTicket} :
    accounting.tryStart channel bytes = .ok (after, ticket) ↔
      Room accounting channel bytes ∧ after = charge accounting channel bytes ∧ ticket = ⟨channel, bytes⟩ := by
  unfold ReassemblyAccounting.tryStart
  simp only [ite_error_eq_ok, bind_eq_ok, okOr_eq_ok, checkedAdd_eq_some, pure_eq_ok, Prod.mk.injEq, Bool.or_eq_true,
    decide_eq_true_eq, not_or, not_lt, not_le]
  constructor
  · rintro ⟨message, _, ⟨-, rfl⟩, _, ⟨-, rfl⟩, ⟨⟨count, onChannel⟩, session⟩, rfl, rfl⟩
    exact ⟨⟨message, count, onChannel, session⟩, rfl, rfl⟩
  · rintro ⟨⟨message, count, onChannel, session⟩, rfl, rfl⟩
    have small : maxReassemblyPerChannel ≤ u64Max ∧ maxReassemblyPerSession ≤ u64Max := by decide
    exact ⟨message, _, ⟨onChannel.trans small.1, rfl⟩, _, ⟨session.trans small.2, rfl⟩,
      ⟨⟨count, onChannel⟩, session⟩, rfl, rfl⟩

theorem finish_eq_some {accounting : ReassemblyAccounting} {ticket : AdmissionTicket}
    (bytes : ticket.bytes ≤ accounting.channelBytes ticket.channel)
    (count : 0 < accounting.channelCount ticket.channel) (session : ticket.bytes ≤ accounting.sessionBytes) :
    accounting.finish ticket = some (discharge accounting ticket.channel ticket.bytes) := by
  have one : 1 ≤ accounting.channelCount ticket.channel := count
  simp only [ReassemblyAccounting.finish, checkedSub, bytes, one, session, if_true]
  rfl

namespace Accounted

theorem default : Accounted Reassembler.default where
  bytes _ := rfl
  count _ := rfl
  session := rfl
  rows _ _ found := by cases found
  bytesWithin _ := Nat.zero_le _
  countWithin _ := Nat.zero_le _
  sessionWithin := Nat.zero_le _

theorem opened {state : Reassembler} (accounted : Accounted state) {key : MessageKey} {message : PartialMessage}
    (absent : state.partials.get? key = none) (formed : WellFormed key message)
    (room : Room state.accounting key.1 message.ticket.bytes) :
    Accounted ⟨charge state.accounting key.1 message.ticket.bytes, state.partials.insert key message⟩ where
  bytes channel := by
    dsimp only
    rw [Table.total_insert absent, charge_channelBytes, bytesOn, ← accounted.bytes]
    by_cases same : channel = key.1
    · rw [if_pos same, if_pos same.symm, same]
    · rw [if_neg same, if_neg (Ne.symm same), Nat.add_zero]
  count channel := by
    dsimp only
    rw [Table.total_insert absent, charge_channelCount, oneOn, ← accounted.count]
    by_cases same : channel = key.1
    · rw [if_pos same, if_pos same.symm, same]
    · rw [if_neg same, if_neg (Ne.symm same), Nat.add_zero]
  session := by
    rw [Table.total_insert absent, ← accounted.session]
    rfl
  rows := Table.every_insert accounted.rows formed
  bytesWithin channel := by
    dsimp only
    rw [charge_channelBytes]
    split
    · exact room.channel
    · exact accounted.bytesWithin channel
  countWithin channel := by
    dsimp only
    rw [charge_channelCount]
    split
    next same => exact same ▸ room.count
    next => exact accounted.countWithin channel
  sessionWithin := room.session

/-- A fragment that joins its message leaves every counter alone. -/
theorem grown {state : Reassembler} (accounted : Accounted state) {key : MessageKey} {message longer : PartialMessage}
    (found : state.partials.get? key = some message) (ticket : longer.ticket = message.ticket)
    (formed : WellFormed key longer) :
    Accounted ⟨state.accounting, state.partials.modify key fun _ => longer⟩ := by
  have same (weight : MessageKey → PartialMessage → Nat) (equal : weight key longer = weight key message) :
      (state.partials.modify key fun _ => longer).total weight = state.partials.total weight := by
    have moved := Table.total_modify found (fun _ => longer) weight
    omega
  refine ⟨?_, ?_, ?_, ?_, accounted.bytesWithin, accounted.countWithin, accounted.sessionWithin⟩
  · intro channel
    rw [same _ (by rw [bytesOn, bytesOn, ticket])]
    exact accounted.bytes channel
  · intro channel
    rw [same _ rfl]
    exact accounted.count channel
  · rw [same _ (by rw [ticketBytes, ticketBytes, ticket])]
    exact accounted.session
  · exact Table.every_modify accounted.rows fun _ _ => formed

/-- The ticket of an open message is covered by every counter. -/
theorem finish {state : Reassembler} (accounted : Accounted state) {key : MessageKey} {message : PartialMessage}
    (found : state.partials.get? key = some message) :
    state.accounting.finish message.ticket = some (discharge state.accounting key.1 message.ticket.bytes) := by
  have channel := (accounted.rows key message found).channel
  have bytes := Table.le_total (bytesOn key.1) found
  have count := Table.le_total (oneOn key.1) found
  have session := Table.le_total ticketBytes found
  rw [← accounted.bytes, bytesOn, if_pos rfl] at bytes
  rw [← accounted.count, oneOn, if_pos rfl] at count
  rw [← accounted.session, ticketBytes] at session
  rw [finish_eq_some (channel ▸ bytes) (channel ▸ count) session, channel]

theorem closed {state : Reassembler} (accounted : Accounted state) {key : MessageKey} {message : PartialMessage}
    (found : state.partials.get? key = some message) :
    Accounted ⟨discharge state.accounting key.1 message.ticket.bytes, state.partials.erase key⟩ where
  bytes channel := by
    have erased := Table.total_erase found (bytesOn channel)
    rw [← accounted.bytes, bytesOn] at erased
    dsimp only
    rw [discharge_channelBytes]
    by_cases same : channel = key.1
    · rw [if_pos same.symm] at erased
      rw [if_pos same, ← same]
      omega
    · rw [if_neg (Ne.symm same), Nat.add_zero] at erased
      rw [if_neg same, erased]
  count channel := by
    have erased := Table.total_erase found (oneOn channel)
    rw [← accounted.count, oneOn] at erased
    dsimp only
    rw [discharge_channelCount]
    by_cases same : channel = key.1
    · rw [if_pos same.symm] at erased
      rw [if_pos same, ← same]
      omega
    · rw [if_neg (Ne.symm same), Nat.add_zero] at erased
      rw [if_neg same, erased]
  session := by
    have erased := Table.total_erase found ticketBytes
    rw [← accounted.session, ticketBytes] at erased
    exact (Nat.eq_sub_of_add_eq erased).symm
  rows other stored present := by
    rw [Table.get?_erase] at present
    split at present
    next => cases present
    next => exact accounted.rows other stored present
  bytesWithin channel := by
    dsimp only
    rw [discharge_channelBytes]
    split
    · exact (Nat.sub_le _ _).trans (accounted.bytesWithin _)
    · exact accounted.bytesWithin channel
  countWithin channel := by
    dsimp only
    rw [discharge_channelCount]
    split
    next same => exact (Nat.sub_le _ _).trans (same ▸ accounted.countWithin _)
    next => exact accounted.countWithin channel
  sessionWithin := (Nat.sub_le _ _).trans accounted.sessionWithin

end Accounted

theorem Accounted.extended {state : Reassembler} (accounted : Accounted state) {frame : Frame} {message : PartialMessage}
    (found : state.partials.get? frame.key = some message) (fits : Reassembler.fragmentMatches message frame = true) :
    Accounted ⟨state.accounting, state.partials.modify frame.key fun _ => Reassembler.extended message frame⟩ := by
  have formed := accounted.rows frame.key message found
  simp only [Reassembler.fragmentMatches, Bool.and_eq_true, decide_eq_true_eq] at fits
  refine accounted.grown found rfl ⟨formed.channel, formed.bytes, ?_⟩
  exact (List.length_append ..).trans_le fits.2

/-- What one call may do: only the message of the frame changes, and a failed
call either keeps that message or removes it. -/
structure Served (state : Reassembler) (frame : Frame) (after : Reassembler)
    (answer : Except PbmuxError (Option (List UInt8))) : Prop where
  accounted : Accounted after
  others : ∀ key, key ≠ frame.key → after.partials.get? key = state.partials.get? key
  failed : ∀ error, answer = .error error →
    after.partials.get? frame.key = none ∨ after.partials.get? frame.key = state.partials.get? frame.key

theorem Served.unchanged {state : Reassembler} (accounted : Accounted state) (frame : Frame)
    (answer : Except PbmuxError (Option (List UInt8))) : Served state frame state answer :=
  ⟨accounted, fun _ _ => rfl, fun _ _ => .inr rfl⟩

theorem Served.erased {state : Reassembler} (accounted : Accounted state) {frame : Frame} {message : PartialMessage}
    (found : state.partials.get? frame.key = some message) (answer : Except PbmuxError (Option (List UInt8))) :
    Served state frame ⟨discharge state.accounting frame.key.1 message.ticket.bytes, state.partials.erase frame.key⟩
      answer :=
  ⟨accounted.closed found, fun _ different => Table.get?_erase_of_ne _ different, fun _ _ => .inl (Table.get?_erase_self _ _)⟩

theorem Served.after {state middle after : Reassembler} {frame : Frame} {answer : Except PbmuxError (Option (List UInt8))}
    (others : ∀ key, key ≠ frame.key → middle.partials.get? key = state.partials.get? key)
    (gone : after.partials.get? frame.key = none) (served : Served middle frame after answer) :
    Served state frame after answer :=
  ⟨served.accounted, fun key different => (served.others key different).trans (others key different), fun _ _ => .inl gone⟩

theorem abortPartial_served {state : Reassembler} (accounted : Accounted state) (frame : Frame) (kind : PbmuxErrorKind) :
    ∃ after answer, state.abortPartial frame.key kind = some (after, answer) ∧ Served state frame after answer ∧
      after.partials.get? frame.key = none := by
  unfold Reassembler.abortPartial
  cases found : state.partials.get? frame.key with
  | none => exact ⟨_, _, rfl, .unchanged accounted frame _, found⟩
  | some message =>
    refine ⟨_, .error (.logical kind), ?_, .erased accounted found _, Table.get?_erase_self _ _⟩
    simp only [accounted.finish found]
    rfl

/-- A frame that the decoder returned opens a message with room for its own payload. -/
theorem Sendable.start_payload {frame : Frame} (sendable : Sendable frame)
    (start : (frame.header.flags &&& flagStart != 0) = true) :
    frame.payload.length ≤ frame.header.logicalMessageLen.toNat := by
  have fragment := sendable.fragment
  simp only [validateFragmentFields, start, if_true, ite_error_eq_ok, Bool.or_eq_true, decide_eq_true_eq, not_or,
    not_lt] at fragment
  exact sendable.length ▸ fragment.2.1.2

theorem accept_served {state : Reassembler} (accounted : Accounted state) {frame : Frame} (sendable : Sendable frame) :
    ∃ after answer, state.accept frame = some (after, answer) ∧ Served state frame after answer := by
  have aborted (kind : PbmuxErrorKind) : ∃ after answer, state.abortPartial frame.key kind = some (after, answer) ∧
      Served state frame after answer := by
    obtain ⟨after, answer, aborted, served, -⟩ := abortPartial_served accounted frame kind
    exact ⟨after, answer, aborted, served⟩
  unfold Reassembler.accept
  dsimp only
  split
  next whole =>
    split
    · exact aborted _
    · exact ⟨_, _, rfl, .unchanged accounted frame _⟩
  next =>
    split
    next start =>
      split
      · exact aborted _
      next absent =>
        simp only [Bool.not_eq_true, Option.isSome_eq_false_iff, Option.isNone_iff_eq_none] at absent
        split
        next => exact ⟨_, _, rfl, .unchanged accounted frame _⟩
        next accounting ticket started =>
          obtain ⟨room, rfl, rfl⟩ := tryStart_eq_ok.1 started
          have formed : WellFormed frame.key (Reassembler.opening ⟨frame.header.channel, _⟩ frame) :=
            ⟨rfl, rfl, sendable.start_payload start⟩
          refine ⟨_, _, rfl, accounted.opened absent formed room, ?_, ?_⟩
          · intro key different
            exact Table.get?_insert_of_ne _ _ different
          · intro error failed
            cases failed
    next =>
      split
      next => exact ⟨_, _, rfl, .unchanged accounted frame _⟩
      next message found =>
        split
        · exact aborted _
        next fits =>
          have grown := accounted.extended found (by simpa using fits)
          have others : ∀ key, key ≠ frame.key →
              (state.partials.modify frame.key fun _ => Reassembler.extended message frame).get? key =
                state.partials.get? key := fun key different => Table.get?_modify_of_ne _ _ different
          have present : (state.partials.modify frame.key fun _ => Reassembler.extended message frame).get? frame.key =
              some (Reassembler.extended message frame) := by
            rw [Table.get?_modify_self, found]
            rfl
          split
          · refine ⟨_, _, rfl, grown, others, fun error failed => ?_⟩
            cases failed
          · split
            · obtain ⟨after, answer, aborted, served, gone⟩ := abortPartial_served grown frame .logicalLengthInvalid
              exact ⟨after, answer, aborted, .after others gone served⟩
            · refine ⟨_, .ok (some (Reassembler.extended message frame).payload), ?_,
                .after others (Table.get?_erase_self _ _) (.erased grown present _)⟩
              have finished := grown.finish present
              dsimp only at finished
              rw [finished]
              rfl

theorem acceptAll_accounted {state : Reassembler} (accounted : Accounted state) {frames : List Frame}
    (sendable : ∀ frame ∈ frames, Sendable frame) : ∃ after, state.acceptAll frames = some after ∧ Accounted after := by
  induction frames generalizing state with
  | nil => exact ⟨state, rfl, accounted⟩
  | cons frame rest ih =>
    obtain ⟨middle, answer, accepted, served⟩ := accept_served accounted (sendable frame (.head _))
    obtain ⟨after, ran, kept⟩ := ih served.accounted fun other member => sendable other (.tail _ member)
    refine ⟨after, ?_, kept⟩
    rw [Reassembler.acceptAll, accepted]
    exact ran

def channels : List Channel := [.control, .resource, .remoteBuffer, .compute, .aiRpc, .metrics]

theorem Accounted.session_eq_sum {state : Reassembler} (accounted : Accounted state) :
    state.accounting.sessionBytes = (channels.map state.accounting.channelBytes).sum := by
  have split (key : MessageKey) (message : PartialMessage) :
      ticketBytes key message = (channels.map fun channel => bytesOn channel key message).sum := by
    obtain ⟨channel, requestId⟩ := key
    cases channel <;> simp [channels, bytesOn, ticketBytes]
  rw [accounted.session, Table.total_congr fun key message _ => split key message]
  simp only [channels, List.map_cons, List.map_nil, List.sum_cons, List.sum_nil, Nat.add_zero, Table.total_add,
    accounted.bytes]

/-- A partial message is open on the channel of its key. -/
theorem Accounted.count_eq {state : Reassembler} (accounted : Accounted state) (channel : Channel) :
    state.accounting.channelCount channel = state.partials.count fun key _ => key.1 = channel := by
  rw [accounted.count, Table.count_eq_total]
  simp only [decide_eq_true_eq]
  rfl

/-- Whatever frames the decoder returns, the quota counters count the open
partial messages, stay within the limits and never underflow. -/
theorem reassembly_accounts_for_partials (frames : List Frame)
    (decoded : ∀ frame ∈ frames, ∃ word, decode word = some (.ok frame)) :
    ∃ state, Reassembler.default.acceptAll frames = some state ∧
      state.accounting.sessionBytes = (channels.map state.accounting.channelBytes).sum ∧
      state.accounting.sessionBytes = (state.partials.total fun _ message => message.ticket.bytes) ∧
      (∀ channel, state.accounting.channelCount channel = state.partials.count fun key _ => key.1 = channel) ∧
      (∀ channel, state.accounting.channelBytes channel ≤ maxReassemblyPerChannel ∧
        state.accounting.channelCount channel ≤ countLimit channel) ∧
      state.accounting.sessionBytes ≤ maxReassemblyPerSession ∧
      (∀ key message, state.partials.get? key = some message → message.payload.length ≤ message.expectedLen) ∧
      ∀ frame, (∃ word, decode word = some (.ok frame)) → ∃ after answer,
        state.accept frame = some (after, answer) ∧ ∀ error, answer = .error error →
          (∀ key, key ≠ frame.key → after.partials.get? key = state.partials.get? key) ∧
          (after.partials.get? frame.key = none ∨
            after.partials.get? frame.key = state.partials.get? frame.key) := by
  have sendable (frame : Frame) (fromWire : ∃ word, decode word = some (.ok frame)) : Sendable frame := by
    obtain ⟨word, read⟩ := fromWire
    exact (decode_eq_ok.1 read).1
  obtain ⟨state, ran, accounted⟩ := acceptAll_accounted .default fun frame member => sendable frame (decoded frame member)
  refine ⟨state, ran, accounted.session_eq_sum, accounted.session, accounted.count_eq, ?_, accounted.sessionWithin, ?_, ?_⟩
  · exact fun channel => ⟨accounted.bytesWithin channel, accounted.countWithin channel⟩
  · exact fun key message found => (accounted.rows key message found).payload
  · intro frame fromWire
    obtain ⟨after, answer, accepted, served⟩ := accept_served accounted (sendable frame fromWire)
    exact ⟨after, answer, accepted, fun error failed => ⟨served.others, served.failed error failed⟩⟩

/-- The first of two fragments of a metrics message opens a partial message. -/
theorem reassembly_accounts_for_opened :
    let frame : Frame := ⟨⟨.metrics, flagStart, 1, 7, 0, 0, 1, 2⟩, [5]⟩
    ∃ state, Reassembler.default.acceptAll [frame] = some state ∧ state.accounting.sessionBytes = 2 ∧
      state.accounting.channelBytes .metrics = 2 ∧ state.accounting.channelCount .metrics = 1 ∧
      (channels.map state.accounting.channelBytes).sum = 2 ∧ (state.partials.count fun key _ => key.1 = .metrics) = 1 := by
  intro frame
  have decoded : ∀ other ∈ [frame], ∃ word, decode word = some (.ok other) := by
    intro other member
    rw [List.mem_singleton.1 member]
    exact ⟨pbmuxMagic ++ [1, 5] ++ [0, 1, 0, 1, 0, 40] ++ [0, 0, 0, 0, 0, 0, 0, 7] ++ List.replicate 8 0
      ++ [0, 0, 0, 0, 0, 0, 0, 1, 0, 0, 0, 2] ++ [5], by decide +kernel⟩
  obtain ⟨state, ran, session, -, counts, -⟩ := reassembly_accounts_for_partials [frame] decoded
  have counters : (Reassembler.default.acceptAll [frame]).map (fun state => (state.accounting.sessionBytes,
      state.accounting.channelBytes .metrics, state.accounting.channelCount .metrics)) = some (2, 2, 1) := by decide
  rw [ran] at counters
  simp only [Option.map_some, Option.some.injEq, Prod.mk.injEq] at counters
  obtain ⟨bytes, metrics, opened⟩ := counters
  exact ⟨state, ran, bytes, metrics, opened, session.symm.trans bytes, (counts .metrics).symm.trans opened⟩

end PhoneBoost.Pbmux.Proofs
