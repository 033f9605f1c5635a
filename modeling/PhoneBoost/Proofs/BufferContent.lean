import PhoneBoost.Lib.Machine
import PhoneBoost.Proofs.BufferSteps

/-! The bytes of a buffer as a partial map. The map follows completed ALLOC and
PUT answers only; backing bytes, range lists and states of the store mirror it
after every operation, whatever guards and proofs the operations run under. -/

namespace PhoneBoost.Worker.Proofs
open Keyed RemoteBufferStore Ranges
open Pbmux (BufferResult BufferState RemoteBufferRequest)

abbrev Content := Nat → Option UInt8

def Content.empty : Content := fun _ => none

def Content.write (content : Content) (offset : Nat) (data : List UInt8) : Content := fun index =>
  if offset ≤ index ∧ index < offset + data.length then data[index - offset]? else content index

theorem written_isSome (content : Content) (offset : Nat) (data : List UInt8) (index : Nat) :
    (content.write offset data index).isSome ↔
      (offset ≤ index ∧ index < offset + data.length) ∨ (content index).isSome := by
  unfold Content.write
  split
  next inside =>
    have bound : index - offset < data.length := by omega
    simp [inside, bound]
  next outside => simp [outside]

theorem mergeRange_spec {ranges : List (Nat × Nat)} (normal : Normal ranges) {first limit : Nat} (here : first < limit) :
    denote (mergeRange ranges (first, limit)) = denote ranges ∪ Set.Ico first limit ∧
      Normal (mergeRange ranges (first, limit)) := by
  have perm : ((ranges ++ [(first, limit)]).mergeSort fun a b => a.1 ≤ b.1).Perm (ranges ++ [(first, limit)]) :=
    List.mergeSort_perm _ _
  have ordered : ((ranges ++ [(first, limit)]).mergeSort fun a b => a.1 ≤ b.1).Pairwise
      fun a b => decide (a.1 ≤ b.1) = true :=
    List.pairwise_mergeSort (fun a b c => by simpa using Nat.le_trans) (fun a b => by simpa using Nat.le_total a.1 b.1) _
  have nonempty : ∀ range ∈ (ranges ++ [(first, limit)]).mergeSort fun a b => a.1 ≤ b.1, range.1 < range.2 := by
    intro range member
    rcases List.mem_append.mp (perm.mem_iff.mp member) with old | new
    · exact normal.nonempty range old
    · rw [List.mem_singleton.mp new]
      exact here
  have union : denote ((ranges ++ [(first, limit)]).mergeSort fun a b => a.1 ≤ b.1) =
      denote ranges ∪ Set.Ico first limit := by
    rw [denote_perm perm, denote_append, denote_cons, denote_nil, Set.union_empty]
  unfold mergeRange
  cases sorted : (ranges ++ [(first, limit)]).mergeSort fun a b => a.1 ≤ b.1 with
  | nil => exact absurd (sorted ▸ perm.length_eq) (by simp)
  | cons head rest =>
    rw [sorted] at ordered nonempty union
    have starts : (head :: rest).Pairwise fun a b => a.1 ≤ b.1 := ordered.imp (by simp)
    simp only [List.mem_cons, forall_eq_or_imp] at nonempty
    exact ⟨(denote_coalesce head rest nonempty.1.le starts nonempty.2).trans union,
      (normal_coalesce head rest nonempty.1 starts nonempty.2).1⟩

/-- The record of a live buffer, seen through the bytes written so far. -/
structure Mirrors (content : Content) (record : BufferRecord) : Prop where
  backing : ∃ bytes, record.backing = some bytes ∧ bytes.length = record.sizeBytes ∧
    ∀ index < record.sizeBytes, bytes[index]? = some ((content index).getD 0)
  ranges : denote record.initializedRanges = {index | (content index).isSome}
  normal : Normal record.initializedRanges
  inside : ∀ index, (content index).isSome → index < record.sizeBytes
  positive : 0 < record.sizeBytes
  state : record.state = if record.initializedRanges = [(0, record.sizeBytes)] then .ready else .allocated
  unended : record.terminalMonoMs = none

variable {content : Content} {record : BufferRecord}

/-- Comparing range lists decides whether every byte has been written. -/
theorem Mirrors.ready_iff (mirrors : Mirrors content record) :
    record.state = .ready ↔ ∀ index < record.sizeBytes, (content index).isSome := by
  have whole : record.initializedRanges = [(0, record.sizeBytes)] ↔
      ∀ index < record.sizeBytes, (content index).isSome := by
    constructor
    · intro same index inside
      have covered : index ∈ denote record.initializedRanges := by simp [same, denote, inside]
      rw [mirrors.ranges] at covered
      exact covered
    · intro covered
      apply mirrors.normal.eq_singleton mirrors.positive
      rw [mirrors.ranges]
      ext index
      simp only [Set.mem_ofPred_eq, Set.mem_Ico, Nat.zero_le, true_and]
      exact ⟨mirrors.inside index, covered index⟩
  rw [mirrors.state, ← whole]
  split
  next same => simp [same]
  next different => simp [different]

theorem mirrors_freshBuffer (id : Bytes16) (proof : LeaseProof) (sessionId : SessionBinding)
    (reservationId : ReservationId) {size : Nat} (flags : Pbmux.AllocationFlags) (nowMs : Nat) (positive : 0 < size) :
    Mirrors .empty (freshBuffer id proof sessionId reservationId size flags nowMs) where
  backing := ⟨List.replicate size 0, rfl, List.length_replicate, fun index inside => by
    simp only [freshBuffer] at inside
    simp [inside, Content.empty]⟩
  ranges := by simp [freshBuffer, denote, Content.empty]
  normal := ⟨by simp [freshBuffer], by simp [freshBuffer]⟩
  inside := by simp [Content.empty]
  positive := positive
  state := by simp [freshBuffer]
  unended := rfl

theorem Mirrors.touched (mirrors : Mirrors content record) (nowMs : Nat) : Mirrors content (touched record nowMs) :=
  ⟨mirrors.backing, mirrors.ranges, mirrors.normal, mirrors.inside, mirrors.positive, mirrors.state, mirrors.unended⟩

theorem copyInto_length {bytes data : List UInt8} {offset : Nat} (inside : offset + data.length ≤ bytes.length) :
    (copyInto bytes offset data).length = bytes.length := by
  simp only [copyInto, List.length_append, List.length_take, List.length_drop]
  omega

theorem copyInto_getElem? {bytes data : List UInt8} {offset : Nat} (inside : offset + data.length ≤ bytes.length)
    (index : Nat) :
    (copyInto bytes offset data)[index]? =
      if offset ≤ index ∧ index < offset + data.length then data[index - offset]? else bytes[index]? := by
  have taken : (bytes.take offset).length = offset := by simp; omega
  unfold copyInto
  rcases Nat.lt_or_ge index offset with before | after
  · rw [if_neg (by omega), List.append_assoc, List.getElem?_append_left (by omega), List.getElem?_take_of_lt before]
  · rcases Nat.lt_or_ge index (offset + data.length) with middle | past
    · rw [if_pos ⟨after, middle⟩, List.append_assoc, List.getElem?_append_right (by omega), taken,
        List.getElem?_append_left (by omega)]
    · have headLength : (bytes.take offset ++ data).length = offset + data.length := by simp [taken]
      rw [if_neg (by omega), List.getElem?_append_right (by omega), headLength, List.getElem?_drop]
      congr 1
      omega

theorem Mirrors.written (mirrors : Mirrors content record) {offset : Nat} {data : List UInt8} (nonempty : data ≠ [])
    (inside : offset + data.length ≤ record.sizeBytes) :
    Mirrors (content.write offset data) (written record offset data) := by
  obtain ⟨bytes, stored, length, values⟩ := mirrors.backing
  have here : offset < offset + data.length := Nat.lt_add_of_pos_right (List.length_pos_of_ne_nil nonempty)
  obtain ⟨union, normal⟩ := mergeRange_spec mirrors.normal here
  refine ⟨⟨copyInto bytes offset data, by simp [RemoteBufferStore.written, stored], ?_, ?_⟩, ?_, normal, ?_,
    mirrors.positive, rfl, mirrors.unended⟩
  · rw [copyInto_length (by omega)]
    exact length
  · intro index bound
    rw [copyInto_getElem? (by omega), Content.write]
    split
    next covered =>
      have within : index - offset < data.length := by omega
      simp [within]
    next => exact values index bound
  · show denote (mergeRange record.initializedRanges (offset, offset + data.length)) = _
    rw [union, mirrors.ranges]
    ext index
    simp only [Set.mem_union, Set.mem_ofPred_eq, Set.mem_Ico, written_isSome]
    exact or_comm
  · intro index covered
    rw [written_isSome] at covered
    rcases covered with new | old
    · exact new.2.trans_le inside
    · exact mirrors.inside index old

/-- An operation of the store with all its arguments, the guard included. -/
inductive StoreCall where
  | serve (guard : ResourceGuard) (proof : LeaseProof) (sessionId : SessionBinding) (request : RemoteBufferRequest)
      (nowMs : Nat) (memory : Nat → Bool) (reads : Entropy)
  | validateComputeInput (guard : ResourceGuard) (proof : LeaseProof) (sessionId : SessionBinding) (bufferId : Bytes16)
      (offset length nowMs : Nat)
  | sessionLost (guard : ResourceGuard) (sessionId : SessionBinding) (nowMs : Nat)
  | leaseEnded (guard : ResourceGuard) (leaseId : LeaseId) (nowMs : Nat)
  | tick (guard : ResourceGuard) (nowMs : Nat)

namespace StoreCall

def apply (store : RemoteBufferStore) : StoreCall → RemoteBufferStore
  | .serve guard proof sessionId request nowMs memory reads =>
    (store.apply guard proof sessionId request nowMs memory reads).2.1
  | .validateComputeInput guard proof sessionId bufferId offset length nowMs =>
    (store.validateComputeInput guard proof sessionId bufferId offset length nowMs).2.1
  | .sessionLost guard sessionId nowMs => (store.sessionLost guard sessionId nowMs).1
  | .leaseEnded guard leaseId nowMs => (store.leaseEnded guard leaseId nowMs).1
  | .tick guard nowMs => (store.tick guard nowMs).1

end StoreCall

abbrev Contents := Bytes16 → Content

/-- What a controller concludes about the contents from one answered request. -/
def Contents.observe (contents : Contents) (request : RemoteBufferRequest) (result : BufferResult) : Contents :=
  if result.completed then
    match request with
    | .alloc _ _ _ _ _ => fun id => if result.buffer.map (·.bufferId) = some id then .empty else contents id
    | .put _ _ bufferId offset data => fun id =>
      if id = bufferId then (contents id).write offset.toNat data else contents id
    | .get _ _ _ _ _ | .free _ _ _ | .stat _ _ _ | .touch _ _ _ => contents
  else contents

structure ContentRun where
  store : RemoteBufferStore
  contents : Contents

def ContentRun.step (state : ContentRun) (call : StoreCall) : ContentRun where
  store := call.apply state.store
  contents :=
    match call with
    | .serve guard proof sessionId request nowMs memory reads =>
      state.contents.observe request (state.store.apply guard proof sessionId request nowMs memory reads).1.2
    | _ => state.contents

def storeRun (calls : List StoreCall) : ContentRun := Machine.run ContentRun.step ⟨.new, fun _ => .empty⟩ calls

/-- Every live buffer mirrors its contents. -/
def Mirrored (store : RemoteBufferStore) (contents : Contents) : Prop :=
  ∀ id record, store.buffers.get? id = some record → Live record → Mirrors (contents id) record

variable {store later : RemoteBufferStore} {guard guard' : ResourceGuard} {contents : Contents} {nowMs : Nat}
  {proof : LeaseProof} {sessionId : SessionBinding}

theorem not_live_ended (record : BufferRecord) {state : BufferState} (terminal : state.isTerminal = true) (nowMs : Nat) :
    ¬ Live (ended record state nowMs) := by
  simp [Live, ended, terminal]

/-- A buffer that is live after an operation which writes nothing was the same before. -/
def OnlyEnds (store later : RemoteBufferStore) : Prop :=
  ∀ id record, later.buffers.get? id = some record → Live record → store.buffers.get? id = some record

theorem OnlyEnds.trans {last : RemoteBufferStore} (first : OnlyEnds store later) (second : OnlyEnds later last) :
    OnlyEnds store last :=
  fun id record found live => first id record (second id record found live) live

theorem terminalizeWhere_onlyEnds (store : RemoteBufferStore) (guard : ResourceGuard) (test : BufferRecord → Bool)
    {state : BufferState} (terminal : state.isTerminal = true) (nowMs : Nat) :
    OnlyEnds store (store.terminalizeWhere guard test state nowMs).1 := by
  intro id record found live
  rw [get?_terminalizeWhere, Option.map_eq_some_iff] at found
  obtain ⟨old, present, same⟩ := found
  split at same
  · exact absurd live (same ▸ not_live_ended old terminal nowMs)
  · exact same ▸ present

theorem expireAndPurge_onlyEnds (store : RemoteBufferStore) (guard : ResourceGuard) (nowMs : Nat) :
    OnlyEnds store (store.expireAndPurge guard nowMs).1 := by
  intro id record found live
  rw [get?_expireAndPurge, Option.filter_eq_some_iff, Option.map_eq_some_iff] at found
  obtain ⟨⟨old, present, same⟩, _⟩ := found
  unfold aged at same
  split at same
  · exact absurd live (same ▸ not_live_ended old rfl nowMs)
  · exact same ▸ present

theorem Refused.onlyEnds (refused : Refused store guard sessionId nowMs later guard') : OnlyEnds store later := by
  cases refused with
  | keep => exact fun _ _ found _ => found
  | lose =>
    intro id record found live
    simp only [writeBack, Table.get?_modify] at found
    split at found
    · obtain ⟨_, _, same⟩ := Option.map_eq_some_iff.mp found
      exact absurd live (same ▸ not_live_ended _ rfl nowMs)
    · exact found

theorem Mirrored.onlyEnds (mirrored : Mirrored store contents) (ends : OnlyEnds store later) : Mirrored later contents :=
  fun id record found live => mirrored id record (ends id record found live) live

theorem get?_writeBack {id : Bytes16} {record : BufferRecord} (found : store.buffers.get? id = some record)
    (replacement : BufferRecord) (other : Bytes16) :
    (store.writeBack id replacement).buffers.get? other =
      if other = id then some replacement else store.buffers.get? other := by
  simp only [writeBack, Table.get?_modify]
  split
  next same => simp [same, found]
  next => rfl

theorem Served.mirrored {request : RemoteBufferRequest} {result : BufferResult} {reads : Entropy}
    (mirrored : Mirrored store contents)
    (served : Served store guard proof sessionId nowMs reads request result later guard') :
    Mirrored later (contents.observe request result) := by
  cases served with
  | refuse fails refused =>
    simp only [Contents.observe, fails, Bool.false_eq_true, if_false]
    exact mirrored.onlyEnds refused.onlyEnds
  | refuseAlloc scans fails =>
    simp only [Contents.observe, fails, Bool.false_eq_true, if_false]
    exact mirrored
  | @alloc leaseId incarnation reservationId size flags result id reservation completed named absent member positive =>
    intro other record found live
    simp only [Contents.observe, completed, if_true, named, Option.some.injEq]
    rw [Table.get?_insert] at found
    by_cases same : other = id
    · rw [if_pos same, Option.some.injEq] at found
      rw [if_pos same.symm, ← found]
      exact mirrors_freshBuffer id proof sessionId _ flags nowMs positive
    · rw [if_neg same] at found
      rw [if_neg (Ne.symm same)]
      exact mirrored other record found live
  | @put leaseId incarnation id offset data result record completed present owned alive nonempty inside =>
    intro other current found live
    simp only [Contents.observe, completed, if_true]
    rw [get?_writeBack present] at found
    split at found
    next same =>
      subst other
      cases found
      rw [if_pos rfl]
      exact (mirrored id record present alive).written nonempty inside
    next different =>
      rw [if_neg different]
      exact mirrored other current found live
  | get completed | stat completed | freeAgain completed =>
    simp only [Contents.observe, completed, if_true]
    exact mirrored
  | @touch leaseId incarnation id result record completed present owned alive =>
    intro other current found live
    simp only [Contents.observe, completed, if_true]
    rw [get?_writeBack present] at found
    split at found
    next same =>
      subst other
      cases found
      exact (mirrored id record present alive).touched nowMs
    next => exact mirrored other current found live
  | @free leaseId incarnation id result record completed present owned alive =>
    intro other current found live
    simp only [Contents.observe, completed, if_true]
    rw [get?_writeBack present] at found
    split at found
    · cases found
      exact absurd live (not_live_ended record rfl nowMs)
    · exact mirrored other current found live

theorem ContentRun.step_mirrored (state : ContentRun) (mirrored : Mirrored state.store state.contents) (call : StoreCall) :
    Mirrored (state.step call).store (state.step call).contents := by
  cases call with
  | serve guard proof sessionId request nowMs memory reads =>
    exact (apply_served state.store guard proof sessionId request nowMs memory reads).mirrored
      (mirrored.onlyEnds (expireAndPurge_onlyEnds state.store guard nowMs))
  | validateComputeInput guard proof sessionId bufferId offset length nowMs =>
    exact mirrored.onlyEnds ((expireAndPurge_onlyEnds state.store guard nowMs).trans
      (validateComputeInput_refused state.store guard proof sessionId bufferId offset length nowMs).onlyEnds)
  | sessionLost guard sessionId nowMs =>
    exact mirrored.onlyEnds ((expireAndPurge_onlyEnds state.store guard nowMs).trans
      (terminalizeWhere_onlyEnds _ _ _ rfl nowMs))
  | leaseEnded guard leaseId nowMs =>
    exact mirrored.onlyEnds ((expireAndPurge_onlyEnds state.store guard nowMs).trans
      (terminalizeWhere_onlyEnds _ _ _ rfl nowMs))
  | tick guard nowMs => exact mirrored.onlyEnds (expireAndPurge_onlyEnds state.store guard nowMs)

theorem storeRun_mirrored (calls : List StoreCall) : Mirrored (storeRun calls).store (storeRun calls).contents := by
  refine Machine.run_induction (fun _ => True) (fun _ (state : ContentRun) => Mirrored state.store state.contents)
    (fun _ _ _ => trivial) ?_ (fun _ call state _ mirrored => state.step_mirrored mirrored call) calls trivial
  intro id record found
  simp [RemoteBufferStore.new] at found

/-- The buffer that a request is about. -/
def target (request : RemoteBufferRequest) (result : BufferResult) : Option Bytes16 :=
  match request with
  | .alloc _ _ _ _ _ => result.buffer.map (·.bufferId)
  | .put _ _ bufferId _ _ | .get _ _ bufferId _ _ | .free _ _ bufferId | .stat _ _ bufferId | .touch _ _ bufferId =>
    some bufferId

theorem Refused.keeps_own (refused : Refused store guard sessionId nowMs later guard') {id : Bytes16}
    {record : BufferRecord} (found : store.buffers.get? id = some record) (own : record.sessionId = sessionId) :
    later.buffers.get? id = some record := by
  cases refused with
  | keep => exact found
  | lose present foreign =>
    rw [get?_writeBack present]
    split
    next same =>
      subst id
      rw [present, Option.some.injEq] at found
      exact absurd (found ▸ own) foreign
    next => exact found

theorem Served.keeps_own {request : RemoteBufferRequest} {result : BufferResult} {reads : Entropy}
    (served : Served store guard proof sessionId nowMs reads request result later guard')
    (fails : result.completed = false) {id : Bytes16} {record : BufferRecord}
    (found : store.buffers.get? id = some record) (own : record.sessionId = sessionId) :
    later.buffers.get? id = some record := by
  cases served with
  | refuse _ refused => exact refused.keeps_own found own
  | refuseAlloc => exact found
  | alloc completed | put completed | get completed | stat completed | touch completed | free completed
  | freeAgain completed => exact absurd fails (by simp [completed])

theorem Served.keeps_others {request : RemoteBufferRequest} {result : BufferResult} {reads : Entropy}
    (served : Served store guard proof sessionId nowMs reads request result later guard')
    (completes : result.completed = true) {id : Bytes16} (other : target request result ≠ some id) :
    later.buffers.get? id = store.buffers.get? id := by
  cases served with
  | refuse fails | refuseAlloc _ fails => exact absurd completes (by simp [fails])
  | alloc _ named =>
    rw [target, named, ne_eq, Option.some.injEq] at other
    exact Table.get?_insert_of_ne _ _ (Ne.symm other)
  | get | stat | freeAgain => rfl
  | put _ found | touch _ found | free _ found =>
    rw [target, ne_eq, Option.some.injEq] at other
    rw [get?_writeBack found, if_neg (Ne.symm other)]

/-- A ready buffer stays ready or ends. -/
def ReadyStays (store later : RemoteBufferStore) : Prop :=
  ∀ id record, store.buffers.get? id = some record → record.state = .ready →
    ∃ current, later.buffers.get? id = some current ∧ (current.state = .ready ∨ current.state.isTerminal = true)

/-- The same for an operation that runs after the expiry scan, where a buffer
may just have ended. -/
def EndedStays (store later : RemoteBufferStore) : Prop :=
  ∀ id record, store.buffers.get? id = some record → record.state.isTerminal = true →
    later.buffers.get? id = some record

theorem expireAndPurge_readyStays (mirrored : Mirrored store contents) (guard : ResourceGuard) (nowMs : Nat) :
    ReadyStays store (store.expireAndPurge guard nowMs).1 := by
  intro id record found ready
  have unended := (mirrored id record found (by simp [Live, ready, BufferState.isTerminal])).unended
  refine ⟨aged record nowMs, ?_, ?_⟩
  · rw [get?_expireAndPurge, found, Option.map_some, Option.filter_some, if_pos]
    unfold aged kept
    split <;> simp [ended, unended]
  · unfold aged
    split
    · exact .inr rfl
    · exact .inl ready

theorem ReadyStays.trans {last : RemoteBufferStore} (first : ReadyStays store later) (second : ReadyStays later last)
    (ended : EndedStays later last) : ReadyStays store last := by
  intro id record found ready
  obtain ⟨current, present, ready | terminal⟩ := first id record found ready
  · exact second id current present ready
  · exact ⟨current, ended id current present terminal, .inr terminal⟩

theorem terminalizeWhere_stays (store : RemoteBufferStore) (guard : ResourceGuard) (test : BufferRecord → Bool)
    {state : BufferState} (terminal : state.isTerminal = true) (nowMs : Nat) :
    ReadyStays store (store.terminalizeWhere guard test state nowMs).1 ∧
      EndedStays store (store.terminalizeWhere guard test state nowMs).1 := by
  constructor
  · intro id record found ready
    rw [get?_terminalizeWhere, found]
    refine ⟨_, rfl, ?_⟩
    dsimp only
    split
    · exact .inr terminal
    · exact .inl ready
  · intro id record found gone
    rw [get?_terminalizeWhere, found]
    simp [gone]

theorem Refused.stays (refused : Refused store guard sessionId nowMs later guard') :
    ReadyStays store later ∧ EndedStays store later := by
  cases refused with
  | keep => exact ⟨fun _ record found ready => ⟨record, found, .inl ready⟩, fun _ _ found _ => found⟩
  | lose present _ live =>
    constructor
    · intro id record found ready
      rw [get?_writeBack present]
      split
      · exact ⟨_, rfl, .inr rfl⟩
      · exact ⟨record, found, .inl ready⟩
    · intro id record found terminal
      rw [get?_writeBack present]
      split
      next same =>
        subst id
        rw [present, Option.some.injEq] at found
        rw [Live, found, terminal] at live
        cases live
      next => exact found

private theorem writeBack_stays {id : Bytes16} {record replacement : BufferRecord}
    (present : store.buffers.get? id = some record) (live : Live record)
    (stays : record.state = .ready → replacement.state = .ready ∨ replacement.state.isTerminal = true) :
    ReadyStays store (store.writeBack id replacement) ∧ EndedStays store (store.writeBack id replacement) := by
  constructor
  · intro other current found ready
    rw [get?_writeBack present]
    split
    next same =>
      subst other
      rw [present, Option.some.injEq] at found
      exact ⟨_, rfl, stays (found ▸ ready)⟩
    next => exact ⟨current, found, .inl ready⟩
  · intro other current found terminal
    rw [get?_writeBack present]
    split
    next same =>
      subst other
      rw [present, Option.some.injEq] at found
      exact absurd terminal (by simp [← found, show record.state.isTerminal = false from live])
    next => exact found

theorem Served.stays {request : RemoteBufferRequest} {result : BufferResult} {reads : Entropy}
    (mirrored : Mirrored store contents)
    (served : Served store guard proof sessionId nowMs reads request result later guard') :
    ReadyStays store later ∧ EndedStays store later := by
  cases served with
  | refuse _ refused => exact refused.stays
  | refuseAlloc | get | stat | freeAgain => exact (show Refused store guard sessionId nowMs store guard from .keep).stays
  | @alloc _ _ _ _ _ _ id _ _ _ absent =>
    have different : ∀ other record, store.buffers.get? other = some record → other ≠ id := by
      rintro other record found rfl
      rw [absent] at found
      cases found
    constructor
    · intro other record found ready
      exact ⟨record, (Table.get?_insert_of_ne _ _ (different other record found)).trans found, .inl ready⟩
    · intro other record found _
      exact (Table.get?_insert_of_ne _ _ (different other record found)).trans found
  | @put _ _ id offset data _ record _ present _ live nonempty inside =>
    apply writeBack_stays present live
    intro ready
    have mirrors := mirrored id record present live
    left
    rw [(mirrors.written nonempty inside).ready_iff]
    intro index bound
    rw [written_isSome]
    exact .inr (mirrors.ready_iff.mp ready index bound)
  | touch _ present _ live => exact writeBack_stays present live .inl
  | free _ present _ live => exact writeBack_stays present live fun _ => .inr rfl

theorem StoreCall.readyStays (mirrored : Mirrored store contents) (call : StoreCall) :
    ReadyStays store (call.apply store) := by
  cases call with
  | serve guard proof sessionId request nowMs memory reads =>
    obtain ⟨ready, ended⟩ := (apply_served store guard proof sessionId request nowMs memory reads).stays
      (mirrored.onlyEnds (expireAndPurge_onlyEnds store guard nowMs))
    exact (expireAndPurge_readyStays mirrored guard nowMs).trans ready ended
  | validateComputeInput guard proof sessionId bufferId offset length nowMs =>
    obtain ⟨ready, ended⟩ :=
      (validateComputeInput_refused store guard proof sessionId bufferId offset length nowMs).stays
    exact (expireAndPurge_readyStays mirrored guard nowMs).trans ready ended
  | sessionLost guard sessionId nowMs =>
    obtain ⟨ready, ended⟩ := terminalizeWhere_stays (store.expireAndPurge guard nowMs).1
      (store.expireAndPurge guard nowMs).2 (fun record => record.sessionId = sessionId)
      (show BufferState.lost.isTerminal = true from rfl) nowMs
    exact (expireAndPurge_readyStays mirrored guard nowMs).trans ready ended
  | leaseEnded guard leaseId nowMs =>
    obtain ⟨ready, ended⟩ := terminalizeWhere_stays (store.expireAndPurge guard nowMs).1
      (store.expireAndPurge guard nowMs).2 (fun record => record.ownerControllerLeaseId = leaseId)
      (show BufferState.evicted.isTerminal = true from rfl) nowMs
    exact (expireAndPurge_readyStays mirrored guard nowMs).trans ready ended
  | tick guard nowMs => exact expireAndPurge_readyStays mirrored guard nowMs

theorem Served.get_bytes {leaseId incarnation id : Bytes16} {offset : UInt64} {length : UInt32} {result : BufferResult}
    {reads : Entropy} (mirrored : Mirrored store contents)
    (served : Served store guard proof sessionId nowMs reads (.get leaseId incarnation id offset length) result later guard')
    (completes : result.completed = true) :
    ∃ record, (store.buffers.get? id = some record ∧ Live record) ∧
      (∀ index < record.sizeBytes, (contents id index).isSome) ∧
      offset.toNat + length.toNat ≤ record.sizeBytes ∧ result.data.length = length.toNat ∧
      ∀ index < length.toNat, result.data[index]? = contents id (offset.toNat + index) := by
  cases served with
  | refuse fails => exact absurd completes (by simp [fails])
  | @get _ _ _ _ _ _ record _ found _ ready inside bytes =>
    have live : Live record := by simp [Live, ready, BufferState.isTerminal]
    have mirrors := mirrored id record found live
    have covered := mirrors.ready_iff.mp ready
    obtain ⟨backing, stored, size, values⟩ := mirrors.backing
    rw [stored, Option.getD_some] at bytes
    refine ⟨record, ⟨found, live⟩, covered, inside, ?_, ?_⟩
    · rw [bytes, List.length_take, List.length_drop]
      omega
    · intro index bound
      rw [bytes, List.getElem?_take_of_lt bound, List.getElem?_drop, values _ (by omega)]
      obtain ⟨byte, same⟩ := Option.isSome_iff_exists.mp (covered (offset.toNat + index) (by omega))
      simp [same]

/-- Time alone touches no buffer that still has lifetime left. -/
theorem tick_keeps (mirrored : Mirrored store contents) {id : Bytes16} {record : BufferRecord}
    (found : store.buffers.get? id = some record) (live : Live record) (early : nowMs < record.expiresMonoMs) :
    (store.tick guard nowMs).1.buffers.get? id = some record := by
  have unaged : aged record nowMs = record := if_neg (by simp [Nat.not_le.mpr early])
  have keep : kept record nowMs = true := by simp [kept, (mirrored id record found live).unended]
  unfold RemoteBufferStore.tick
  rw [get?_expireAndPurge, found, Option.map_some, unaged, Option.filter_some, if_pos keep]

/-- The store refines the byte maps: live buffers hold the last written bytes
and zeros elsewhere, GET returns them, a ready buffer stays ready until it ends,
and a request touches nothing but the buffer that it names. -/
theorem storeRun_refines (calls : List StoreCall) :
    let store := (storeRun calls).store
    let contents := (storeRun calls).contents
    (∀ id record, store.buffers.get? id = some record → record.state.isTerminal = false →
      (∃ bytes, record.backing = some bytes ∧ bytes.length = record.sizeBytes ∧
        ∀ index < record.sizeBytes, bytes[index]? = some ((contents id index).getD 0)) ∧
      (∀ index, (∃ range ∈ record.initializedRanges, range.1 ≤ index ∧ index < range.2) ↔ (contents id index).isSome) ∧
      (∀ index, (contents id index).isSome → index < record.sizeBytes) ∧
      record.state = if ∀ index < record.sizeBytes, (contents id index).isSome then .ready else .allocated) ∧
    (∀ guard proof sessionId leaseId incarnation id offset length nowMs memory reads,
      let result := (store.apply guard proof sessionId (.get leaseId incarnation id offset length) nowMs memory reads).1.2
      result.completed = true →
      ∃ record, store.buffers.get? id = some record ∧ (∀ index < record.sizeBytes, (contents id index).isSome) ∧
        offset.toNat + length.toNat ≤ record.sizeBytes ∧ result.data.length = length.toNat ∧
        ∀ index < length.toNat, result.data[index]? = contents id (offset.toNat + index)) ∧
    (∀ call : StoreCall, ∀ id record, store.buffers.get? id = some record → record.state = .ready →
      ∃ current, (call.apply store).buffers.get? id = some current ∧
        (current.state = .ready ∨ current.state.isTerminal = true)) ∧
    (∀ guard proof sessionId request nowMs memory reads,
      let result := (store.apply guard proof sessionId request nowMs memory reads).1.2
      let later := (store.apply guard proof sessionId request nowMs memory reads).2.1
      let aged := (store.tick guard nowMs).1
      (result.completed = false → ∀ id record, aged.buffers.get? id = some record → record.sessionId = sessionId →
        later.buffers.get? id = some record) ∧
      (result.completed = true → ∀ id, target request result ≠ some id →
        later.buffers.get? id = aged.buffers.get? id)) ∧
    (∀ guard nowMs id record, store.buffers.get? id = some record → record.state.isTerminal = false →
      nowMs < record.expiresMonoMs → (store.tick guard nowMs).1.buffers.get? id = some record) := by
  intro store contents
  have mirrored : Mirrored store contents := storeRun_mirrored calls
  refine ⟨?_, ?_, fun call => StoreCall.readyStays mirrored call, ?_,
    fun _ _ _ _ found live early => tick_keeps mirrored found live early⟩
  · intro id record found live
    have mirrors := mirrored id record found live
    refine ⟨mirrors.backing, fun index => ?_, mirrors.inside, ?_⟩
    · exact Set.ext_iff.mp mirrors.ranges index
    · split
      next whole => exact mirrors.ready_iff.mpr whole
      next missing =>
        rw [← mirrors.ready_iff] at missing
        have state := mirrors.state
        split at state
        · exact absurd state missing
        · exact state
  · intro guard proof sessionId leaseId incarnation id offset length nowMs memory reads result completes
    have ends := expireAndPurge_onlyEnds store guard nowMs
    have served := apply_served store guard proof sessionId (.get leaseId incarnation id offset length) nowMs memory reads
    obtain ⟨record, ⟨found, live⟩, read⟩ := served.get_bytes (mirrored.onlyEnds ends) completes
    exact ⟨record, ends id record found live, read⟩
  · intro guard proof sessionId request nowMs memory reads result later aged
    have served := apply_served store guard proof sessionId request nowMs memory reads
    exact ⟨fun fails id record found own => served.keeps_own fails found own,
      fun completes id other => served.keeps_others completes other⟩

end PhoneBoost.Worker.Proofs
