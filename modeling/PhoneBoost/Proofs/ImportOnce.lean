import Mathlib.Data.List.Basic
import PhoneBoost.Cli.Import
import PhoneBoost.Lib.Assertion
import PhoneBoost.Lib.Wire

/-! What one call of the import client can send. The log grows by the pieces of one
request after the other; each piece is allowed by what came before it, whatever the
server answers and wherever the exchange breaks off. -/

namespace PhoneBoost.Cli.Proofs
open Assertion Wire

/-- The answer to `imports.get` that lets the client go on. -/
def ReadyAnswer (value : Value) (bytes : Nat) : Prop :=
  ∃ fields : Fields, value = .object fields ∧ fields.length = 2 ∧ fields.str? "state" = some "READY" ∧
    (fields.get? "input_bytes").bind Value.asU64 = some bytes ∧ 1 ≤ bytes ∧ bytes ≤ maxImportBytes

/-- The handle was created, and it was reported ready. -/
structure Ready (handle : String) (bytes : Nat) (log : List Event) : Prop where
  created : ∃ id value, .answers id .create value ∈ log ∧ createdHandle value = .ok handle
  ready : ∃ id value, .answers id (.get handle) value ∈ log ∧ ReadyAnswer value bytes

/-- What must hold of the earlier log when bytes are offered: a second request to
create or to submit has never been begun, no byte is offered again, the descriptor
goes once and only to create, and a submission follows its readiness. -/
structure Allowed (earlier : List Event) (id : Nat) (call : Call) (offset : Nat) (descriptor : Bool) : Prop where
  once : ∀ other call' offset' descriptor', .offers other call' offset' descriptor' ∈ earlier →
    call'.method = call.method → call.method ≠ "imports.get" → other = id
  onward : ∀ call' offset' descriptor', .offers id call' offset' descriptor' ∈ earlier → call' = call ∧ offset' < offset
  passed : descriptor = true → call = .create ∧
    ∀ other call' offset' descriptor', .offers other call' offset' descriptor' ∈ earlier → descriptor' = false
  ready : ∀ handle, call = .submit handle → ∃ bytes, Ready handle bytes earlier

def Lawful (log : List Event) : Prop :=
  ∀ later id call offset descriptor earlier, log = later ++ .offers id call offset descriptor :: earlier →
    Allowed earlier id call offset descriptor

def Unsubmitted (log : List Event) : Prop := ∀ id handle offset descriptor, .offers id (.submit handle) offset descriptor ∉ log

/-- An error of a single request. -/
inductive Refused : Stop → Prop where
  | io : Refused (.cli .ioFailed)
  | malformed : Refused (.cli .malformedResponse)
  | large : Refused (.cli .responseTooLarge)
  | remote {code : String} (listed : code ∈ importCodes) : Refused (.cli (.remote code "C12 import request rejected"))

section Log

/-- The pieces of one request, newest first; the next one starts at `bound` or behind. -/
inductive Pieces (id : Nat) (call : Call) (source : Bool) : Nat → List Event → Prop where
  | none : Pieces id call source 0 []
  | more {bound offset next : Nat} {descriptor : Bool} {pieces : List Event} (before : Pieces id call source bound pieces)
      (after : bound ≤ offset) (further : offset < next) (first : descriptor = true → source = true ∧ pieces = []) :
      Pieces id call source next (.offers id call offset descriptor :: pieces)

variable {id bound : Nat} {call : Call} {source : Bool} {pieces rest log : List Event}

theorem Pieces.none_of_zero (made : Pieces id call source 0 pieces) : pieces = [] := by
  cases made with
  | none => rfl
  | more _ _ further _ => omega

theorem Pieces.each (made : Pieces id call source bound pieces) :
    ∀ event ∈ pieces, ∃ offset descriptor, event = .offers id call offset descriptor ∧ offset < bound := by
  induction made with
  | none => simp
  | @more bound offset next descriptor pieces before after further first ih =>
    refine List.forall_mem_cons.mpr ⟨⟨offset, descriptor, rfl, further⟩, ?_⟩
    intro event member
    obtain ⟨offset', descriptor', same, below⟩ := ih event member
    exact ⟨offset', descriptor', same, by omega⟩

theorem lawful_nil : Lawful [] := by
  intro later id call offset descriptor earlier same
  simp at same

theorem Lawful.answers (lawful : Lawful log) (id : Nat) (call : Call) (value : Value) : Lawful (.answers id call value :: log) := by
  intro later other call' offset descriptor earlier same
  cases later with
  | nil => cases same
  | cons _ later => exact lawful later other call' offset descriptor earlier (List.cons.inj same).2

theorem Lawful.offers (lawful : Lawful log) {offset : Nat} {descriptor : Bool} (allowed : Allowed log id call offset descriptor) :
    Lawful (.offers id call offset descriptor :: log) := by
  intro later other call' offset' descriptor' earlier same
  cases later with
  | nil =>
    cases same
    exact allowed
  | cons _ later => exact lawful later other call' offset' descriptor' earlier (List.cons.inj same).2

theorem Ready.mono {handle : String} {bytes : Nat} (ready : Ready handle bytes rest) (pieces : List Event) :
    Ready handle bytes (pieces ++ rest) := by
  obtain ⟨⟨id, value, created, named⟩, ⟨id', value', answered, states⟩⟩ := ready
  exact ⟨⟨id, value, List.mem_append_right _ created, named⟩, ⟨id', value', List.mem_append_right _ answered, states⟩⟩

/-- A request may be begun. -/
structure MayOffer (id : Nat) (call : Call) (source : Bool) (rest : List Event) : Prop where
  fresh : ∀ other call' offset descriptor, .offers other call' offset descriptor ∈ rest → other < id
  once : ∀ other call' offset descriptor, .offers other call' offset descriptor ∈ rest →
    call'.method = call.method → call.method = "imports.get"
  passed : source = true → call = .create ∧
    ∀ other call' offset descriptor, .offers other call' offset descriptor ∈ rest → descriptor = false
  ready : ∀ handle, call = .submit handle → ∃ bytes, Ready handle bytes rest

theorem MayOffer.lawful (may : MayOffer id call source rest) (lawful : Lawful rest) (made : Pieces id call source bound pieces) :
    Lawful (pieces ++ rest) := by
  induction made with
  | none => exact lawful
  | @more bound offset next descriptor pieces before after further first ih =>
    refine ih.offers ⟨?_, ?_, ?_, ?_⟩
    · intro other call' offset' descriptor' member same single
      rcases List.mem_append.mp member with inside | outside
      · obtain ⟨_, _, piece, _⟩ := before.each _ inside
        cases piece
        rfl
      · exact absurd (may.once other call' offset' descriptor' outside same) single
    · intro call' offset' descriptor' member
      rcases List.mem_append.mp member with inside | outside
      · obtain ⟨_, _, piece, below⟩ := before.each _ inside
        cases piece
        exact ⟨rfl, by omega⟩
      · exact absurd (may.fresh id call' offset' descriptor' outside) (Nat.lt_irrefl id)
    · intro passing
      obtain ⟨sourced, alone⟩ := first passing
      subst alone
      exact may.passed sourced
    · intro handle submits
      obtain ⟨bytes, ready⟩ := may.ready handle submits
      exact ⟨bytes, ready.mono pieces⟩

end Log

section Programs
variable {outside : Outside}

/-- What the clock and the counter of system calls leave alone. -/
def view (exchange : Exchange) : Nat × List Event := (exchange.nextId, exchange.log)

variable {holds : Nat × List Event → Prop}

theorem systemCall_meets {stop : Stop → Exchange → Prop} :
    Meets (fun state => holds (view state)) (systemCall outside) (fun _ state => holds (view state)) stop := by
  apply Meets.get_bind
  intro state held
  exact Meets.set_bind (Meets.pure fun after same => by rw [same]; exact held)

theorem instantNow_meets {stop : Stop → Exchange → Prop} :
    Meets (fun state => holds (view state)) (instantNow outside) (fun _ state => holds (view state)) stop := by
  refine systemCall_meets.bind fun _ => Meets.get_bind fun state held => Meets.pure ?_
  rintro _ rfl
  exact held

theorem sleep_meets (duration : Nat) {stop : Stop → Exchange → Prop} :
    Meets (fun state => holds (view state)) (sleep outside duration) (fun _ state => holds (view state)) stop :=
  systemCall_meets.bind fun _ => Meets.modify fun _ held => held

theorem setRemaining_meets (deadline : Nat) :
    Meets (fun state => holds (view state)) (setRemaining outside deadline) (fun _ state => holds (view state))
      fun stop state => Refused stop ∧ holds (view state) := by
  refine instantNow_meets.bind fun now => Meets.ite (fun _ => Meets.throw fun _ held => ⟨.io, held⟩) fun _ => ?_
  refine systemCall_meets.bind fun index => Meets.ite (fun _ => Meets.pure fun _ held => held) fun _ => ?_
  exact Meets.throw fun _ held => ⟨.io, held⟩

theorem readLine_meets (deadline : Nat) (line : List UInt8) :
    Meets (fun state => holds (view state)) (readLine outside deadline line) (fun _ state => holds (view state))
      fun stop state => Refused stop ∧ holds (view state) := by
  fun_induction readLine outside deadline line with
  | case1 line ih =>
    refine (setRemaining_meets deadline).bind fun _ => systemCall_meets.bind fun index => ?_
    split
    next => exact Meets.throw fun _ held => ⟨.io, held⟩
    next => exact Meets.throw fun _ held => ⟨.malformed, held⟩
    next byte more delivered =>
      split
      next => exact Meets.throw fun _ held => ⟨.large, held⟩
      next small =>
        dsimp only
        split
        next =>
          split
          next => exact Meets.throw fun _ held => ⟨.malformed, held⟩
          next => exact Meets.pure fun _ held => held
        next => exact ih byte more small

/-- Pieces of a request stand before what the log held when it began. -/
def Offered (state : Exchange) (call : Call) (source : Bool) (bound : Nat) (seen : Nat × List Event) : Prop :=
  seen.1 = state.nextId + 1 ∧ ∃ pieces, Pieces state.nextId call source bound pieces ∧ seen.2 = pieces ++ state.log

variable {state : Exchange} {call : Call} {source : Bool}

/-- The request goes on, or it stops with what was offered so far. -/
def Broken (state : Exchange) (call : Call) (source : Bool) (stop : Stop) (after : Exchange) : Prop :=
  Refused stop ∧ ∃ bound, Offered state call source bound (view after)

theorem setRemaining_broken (deadline : Nat) {bound : Nat} :
    Meets (fun after => Offered state call source bound (view after)) (setRemaining outside deadline)
      (fun _ after => Offered state call source bound (view after)) (Broken state call source) :=
  (setRemaining_meets deadline).stopping fun _ _ stopped => ⟨stopped.1, bound, stopped.2⟩

theorem readLine_broken (deadline : Nat) {bound : Nat} {line : List UInt8} :
    Meets (fun after => Offered state call source bound (view after)) (readLine outside deadline line)
      (fun _ after => Offered state call source bound (view after)) (Broken state call source) :=
  (readLine_meets deadline line).stopping fun _ _ stopped => ⟨stopped.1, bound, stopped.2⟩

theorem offer_meets {bound sent : Nat} (behind : bound ≤ sent) (total : Nat) {descriptor : Bool}
    (first : descriptor = true → source = true ∧ bound = 0) :
    Meets (fun after => Offered state call source bound (view after)) (offer outside state.nextId call total sent descriptor)
      (fun _ after => Offered state call source (sent + 1) (view after)) (Broken state call source) := by
  have noted : Meets (fun after => Offered state call source bound (view after))
      (note (.offers state.nextId call sent descriptor))
      (fun _ after => Offered state call source (sent + 1) (view after)) (Broken state call source) := by
    refine Meets.modify ?_
    rintro after ⟨next, pieces, made, log⟩
    refine ⟨next, _, .more made behind (Nat.lt_succ_self sent) ?_, congrArg (List.cons _) log⟩
    intro passing
    obtain ⟨sourced, rfl⟩ := first passing
    exact ⟨sourced, made.none_of_zero⟩
  refine noted.bind fun _ => systemCall_meets.bind fun index => ?_
  split
  next => exact Meets.throw fun _ held => ⟨.io, _, held⟩
  next => exact Meets.pure fun _ held => held

theorem writeRest_meets (deadline total sent : Nat) {bound : Nat} (behind : bound ≤ sent) :
    Meets (fun after => Offered state call source bound (view after)) (writeRest outside state.nextId call deadline total sent)
      (fun _ after => ∃ bound, Offered state call source bound (view after)) (Broken state call source) := by
  fun_induction writeRest outside state.nextId call deadline total sent generalizing bound with
  | case1 sent done => exact Meets.pure fun _ held => ⟨bound, held⟩
  | case2 sent done ih =>
    refine (setRemaining_broken deadline).bind fun _ => (offer_meets behind total (by simp)).bind fun count => ?_
    split
    next => exact Meets.throw fun _ held => ⟨.io, _, held⟩
    next count => exact ih count (by omega)

theorem writeFirst_meets (total : Nat) :
    Meets (fun after => Offered state call source 0 (view after)) (writeFirst outside state.nextId call total source)
      (fun sent after => ∃ bound, bound ≤ sent ∧ Offered state call source bound (view after)) (Broken state call source) := by
  refine Meets.ite (fun sourced => ?_) fun _ => Meets.pure fun _ held => ⟨0, Nat.le_refl 0, held⟩
  refine systemCall_meets.bind fun index => Meets.ite (fun _ => ?_) fun _ => Meets.throw fun _ held => ⟨.io, _, held⟩
  refine (offer_meets (Nat.le_refl 0) total fun _ => ⟨sourced, rfl⟩).bind fun count => ?_
  refine Meets.ite (fun _ => Meets.throw fun _ held => ⟨.io, _, held⟩) fun nonzero => Meets.pure fun _ held => ⟨_, ?_, held⟩
  omega

theorem lift_meets {pre : Exchange → Prop} {post : α → Exchange → Prop} {stop : Stop → Exchange → Prop}
    {result : Except CliError α} (value : ∀ value, result = .ok value → ∀ after, pre after → post value after)
    (error : ∀ error, result = .error error → ∀ after, pre after → stop (.cli error) after) :
    Meets pre (lift result) post stop := by
  cases result with
  | ok made => exact Meets.pure (value made rfl)
  | error wrong => exact Meets.throw (error wrong rfl)

end Programs

section Answers

/-- A refusal by the server, or an answer that cannot be read. -/
def Plain (result : Except CliError α) : Prop :=
  ∀ error, result = .error error → error = .malformedResponse ∨ ∃ code message, error = .remote code message

theorem Plain.malformed : Plain (.error .malformedResponse : Except CliError α) := by
  rintro error ⟨⟩
  exact .inl rfl

theorem Plain.okOr (value? : Option α) : Plain (okOr value? .malformedResponse) := by
  cases value? with
  | none => exact .malformed
  | some => rintro error ⟨⟩

theorem Plain.bind {first : Except CliError α} {next : α → Except CliError β} (plain : Plain first)
    (later : ∀ value, Plain (next value)) : Plain (first >>= next) := by
  cases first with
  | ok value => exact later value
  | error => exact fun error same => plain error (congrArg _ (Except.error.inj same))

theorem Plain.ite {test : Prop} [Decidable test] {yes no : Except CliError α} (first : Plain yes) (second : Plain no) :
    Plain (if test then yes else no) := by
  split
  next => exact first
  next => exact second

theorem plain_validateResponse (value? : Option Value) (expectedId : String) : Plain (validateResponse value? expectedId) := by
  refine (Plain.okOr _).bind fun value => (Plain.okOr _).bind fun object => Plain.ite .malformed ?_
  split
  next => exact Plain.ite .malformed (Plain.okOr _)
  next =>
    refine Plain.ite .malformed ((Plain.okOr _).bind fun error => (Plain.okOr _).bind fun code => (Plain.okOr _).bind fun message => ?_)
    refine Plain.ite .malformed ?_
    rintro error ⟨⟩
    exact .inr ⟨code, message, rfl⟩
  next => exact .malformed

/-- Of a refusal only the code is kept, and only a listed one. -/
theorem Plain.screened {result : Except CliError Value} (plain : Plain result) {error : CliError}
    (failed : screened result = .error error) : Refused (.cli error) := by
  cases result with
  | ok => cases failed
  | error wrong =>
    rcases plain wrong rfl with rfl | ⟨code, message, rfl⟩
    · cases failed
      exact .malformed
    · rw [Cli.screened] at failed
      split at failed
      next listed =>
        cases failed
        exact .remote (by simpa using listed)
      next =>
        cases failed
        exact .malformed

theorem polledBytes_ready {value : Value} {bytes : Nat} (polled : polledBytes value = .ok (some bytes)) :
    ReadyAnswer value bytes := by
  cases value with
  | object status =>
    rw [polledBytes] at polled
    obtain ⟨fields, same, polled⟩ := bind_eq_ok.mp polled
    cases same
    split at polled
    next => split at polled <;> cases polled
    next states =>
      split at polled
      next two =>
        obtain ⟨found, counted, polled⟩ := bind_eq_ok.mp polled
        split at polled
        next within =>
          cases polled
          simp only [Bool.and_eq_true, decide_eq_true_eq] at within
          exact ⟨_, rfl, two, states, okOr_eq_ok.mp counted, within⟩
        next => cases polled
      next => cases polled
    next => split at polled <;> cases polled
    next => split at polled <;> cases polled
    next => split at polled <;> cases polled
    next => cases polled
  | _ => cases polled

end Answers

section Requests
variable {outside : Outside} {state : Exchange} {call : Call} {source : Bool}

/-- One request: the pieces offered for it, and behind them its answer. -/
theorem request_meets (deadline : Nat) :
    Meets (· = state) (request outside call source deadline)
      (fun value after => after.nextId = state.nextId + 1 ∧ ∃ bound pieces, Pieces state.nextId call source bound pieces ∧
        after.log = .answers state.nextId call value :: (pieces ++ state.log))
      (Broken state call source) := by
  have numbered : Meets (· = state) nextRequestId
      (fun id after => id = state.nextId ∧ Offered state call source 0 (view after)) (Broken state call source) := by
    apply Meets.get_bind
    rintro _ rfl
    exact Meets.set_bind (Meets.pure fun after same => ⟨rfl, by rw [same]; exact ⟨rfl, [], .none, rfl⟩⟩)
  refine numbered.bind fun id => Meets.assuming ?_
  rintro rfl
  have encoded (bytes? : Option (List UInt8)) :
      Meets (fun after => Offered state call source 0 (view after)) (lift (okOr bytes? .malformedResponse))
        (fun _ after => Offered state call source 0 (view after)) (Broken state call source) := by
    cases bytes? with
    | none => exact Meets.throw fun _ held => ⟨.malformed, 0, held⟩
    | some => exact Meets.pure fun _ held => held
  refine (encoded _).bind fun bytes => ?_
  refine (setRemaining_broken deadline).bind fun _ => (writeFirst_meets _).bind fun sent => ?_
  refine Meets.exists fun bound => Meets.assuming fun behind => (writeRest_meets deadline _ sent behind).bind fun _ => ?_
  refine Meets.exists fun bound => (readLine_broken deadline).bind fun line => ?_
  have read : Meets (fun after => Offered state call source bound (view after))
      (lift (screened (validateResponse (outside.fromSlice line) (requestId outside state.nextId))))
      (fun _ after => Offered state call source bound (view after)) (Broken state call source) :=
    lift_meets (fun _ _ _ held => held)
      fun error failed _ held => ⟨(plain_validateResponse _ _).screened failed, bound, held⟩
  refine read.bind fun value => ?_
  refine Meets.bind (Meets.modify fun after held => ?_) fun _ => Meets.pure fun _ held => held
  obtain ⟨next, pieces, made, log⟩ := held
  exact ⟨next, bound, pieces, made, congrArg (List.cons _) log⟩

end Requests

section Exchange
variable {outside : Outside} {handle : String} {call : Call} {source : Bool} {state : Exchange}

theorem Unsubmitted.append {pieces rest : List Event} {id bound : Nat} (unsubmitted : Unsubmitted rest)
    (made : Pieces id call source bound pieces) (other : ∀ handle, call ≠ .submit handle) : Unsubmitted (pieces ++ rest) := by
  intro id' handle offset descriptor member
  rcases List.mem_append.mp member with inside | outside
  · obtain ⟨_, _, piece, _⟩ := made.each _ inside
    cases piece
    exact other handle rfl
  · exact unsubmitted id' handle offset descriptor outside

theorem Unsubmitted.answers {rest : List Event} (unsubmitted : Unsubmitted rest) (id : Nat) (value : Value) :
    Unsubmitted (.answers id call value :: rest) := by
  intro id' handle offset descriptor member
  rcases List.mem_cons.mp member with same | outside
  · cases same
  · exact unsubmitted id' handle offset descriptor outside

/-- Between two requests: the log is lawful and its requests are numbered. -/
structure Ongoing (seen : Nat × List Event) : Prop where
  lawful : Lawful seen.2
  numbered : ∀ id call offset descriptor, .offers id call offset descriptor ∈ seen.2 → id < seen.1

theorem Ongoing.answered (ongoing : Ongoing (view state)) (may : MayOffer state.nextId call source state.log) {after : Exchange}
    {value : Value} {bound : Nat} {pieces : List Event} (next : after.nextId = state.nextId + 1)
    (made : Pieces state.nextId call source bound pieces)
    (log : after.log = .answers state.nextId call value :: (pieces ++ state.log)) : Ongoing (view after) := by
  refine ⟨?_, ?_⟩
  · show Lawful after.log
    rw [log]
    exact (may.lawful ongoing.lawful made).answers _ _ _
  · intro id call' offset descriptor member
    show id < after.nextId
    have inside : .offers id call' offset descriptor ∈ after.log := member
    rw [log, List.mem_cons, List.mem_append] at inside
    rcases inside with same | inside | older
    · cases same
    · obtain ⟨_, _, piece, _⟩ := made.each _ inside
      cases piece
      omega
    · have below : id < state.nextId := ongoing.numbered id call' offset descriptor older
      omega

/-- The import was created under the handle and not yet submitted. -/
structure Polling (handle : String) (seen : Nat × List Event) : Prop extends Ongoing seen where
  created : ∃ id value, .answers id .create value ∈ seen.2 ∧ createdHandle value = .ok handle
  unsubmitted : Unsubmitted seen.2

theorem Polling.mayGet (polling : Polling handle (view state)) : MayOffer state.nextId (.get handle) false state.log where
  fresh := polling.numbered
  once _ _ _ _ _ _ := rfl
  passed sourced := by cases sourced
  ready _ submits := by cases submits

theorem Polling.maySubmit (polling : Polling handle (view state)) {bytes : Nat} (ready : Ready handle bytes state.log) :
    MayOffer state.nextId (.submit handle) false state.log where
  fresh := polling.numbered
  once id call' offset descriptor member same := by
    cases call' with
    | submit handle' => exact absurd member (polling.unsubmitted id handle' offset descriptor)
    | create => simp [Call.method] at same
    | get => simp [Call.method] at same
  passed sourced := by cases sourced
  ready handle' submits := by
    cases submits
    exact ⟨bytes, ready⟩

/-- How a call ends that has not begun to submit. -/
def Harmless (_ : Stop) (after : Exchange) : Prop := Lawful after.log ∧ Unsubmitted after.log

theorem Broken.harmless {stop : Stop} {after : Exchange} (broken : Broken state call source stop after)
    (may : MayOffer state.nextId call source state.log) (lawful : Lawful state.log) (unsubmitted : Unsubmitted state.log)
    (other : ∀ handle, call ≠ .submit handle) : Harmless stop after := by
  obtain ⟨_, bound, _, pieces, made, log⟩ := broken
  have same : after.log = pieces ++ state.log := log
  rw [Harmless, same]
  exact ⟨may.lawful lawful made, unsubmitted.append made other⟩

/-- One poll: an answer to the handle's own request, or a harmless end. -/
theorem poll_meets (deadline : Nat) :
    Meets (fun state => Polling handle (view state)) (request outside (.get handle) false deadline)
      (fun value after => Polling handle (view after) ∧ ∃ id, .answers id (.get handle) value ∈ after.log) Harmless := by
  apply Meets.each
  intro state polling
  refine (request_meets deadline).weaken (fun _ same => same) ?_ ?_
  · rintro value after ⟨next, bound, pieces, made, log⟩
    have unsubmitted := polling.unsubmitted.append made (by simp)
    obtain ⟨id, created, answered, named⟩ := polling.created
    refine ⟨⟨polling.answered polling.mayGet next made log, ⟨id, created, ?_, named⟩, ?_⟩, state.nextId, ?_⟩
    · show _ ∈ after.log
      rw [log]
      exact List.mem_cons_of_mem _ (List.mem_append_right _ answered)
    · show Unsubmitted after.log
      rw [log]
      exact unsubmitted.answers state.nextId value
    · rw [log]
      exact List.mem_cons_self
  · intro stop after broken
    exact broken.harmless polling.mayGet polling.lawful polling.unsubmitted (by simp)

theorem Polling.harmless {stop : Stop} {after : Exchange} (polling : Polling handle (view after)) : Harmless stop after :=
  ⟨polling.lawful, polling.unsubmitted⟩

theorem pollReady_meets (deadline rounds : Nat) :
    Meets (fun state => Polling handle (view state)) (pollReady outside handle deadline rounds)
      (fun bytes after => Polling handle (view after) ∧ Ready handle bytes after.log) Harmless := by
  induction rounds with
  | zero => exact Meets.throw fun _ polling => polling.harmless
  | succ rounds ih =>
    refine instantNow_meets.bind fun now => Meets.ite (fun _ => Meets.throw fun _ polling => polling.harmless) fun _ => ?_
    have harmlessly (error : Stop) : Meets (Harmless error) (do
        let now ← instantNow outside
        if deadline ≤ now then throw (.cli .importTimedOut) else throw error)
        (fun (value : Value) after => Polling handle (view after) ∧ ∃ id, .answers id (.get handle) value ∈ after.log) Harmless := by
      have clock := @instantNow_meets outside (fun seen => Lawful seen.2 ∧ Unsubmitted seen.2) Harmless
      refine clock.bind fun now => Meets.ite (fun _ => Meets.throw fun _ held => held) fun _ => Meets.throw fun _ held => held
    refine ((poll_meets deadline).rethrow harmlessly).bind fun value => ?_
    have judged : Meets (fun after => Polling handle (view after) ∧ ∃ id, .answers id (.get handle) value ∈ after.log)
        (lift (polledBytes value))
        (fun bytes? after => Polling handle (view after) ∧ ∀ bytes, bytes? = some bytes → Ready handle bytes after.log)
        Harmless := by
      refine lift_meets ?_ fun _ _ _ held => held.1.harmless
      rintro bytes? polled after ⟨polling, id, answered⟩
      refine ⟨polling, ?_⟩
      rintro bytes rfl
      exact ⟨polling.created, id, value, answered, polledBytes_ready polled⟩
    refine judged.bind fun bytes? => ?_
    cases bytes? with
    | some bytes => exact Meets.pure fun after held => ⟨held.1, held.2 bytes rfl⟩
    | none =>
      apply Meets.before _ fun after held => held.1
      exact instantNow_meets.bind fun now => (sleep_meets _).bind fun _ => ih

/-- The two ways in which a submission ends without a result. -/
inductive Unresolved : Stop → Prop where
  | remote {code : String} (listed : code ∈ importCodes) : Unresolved (.cli (.remote code "C12 import request rejected"))
  | unknown : Unresolved (.cli .outcomeUnknown)

theorem Refused.unknownOutcome {stop : Stop} (refused : Refused stop) : Unresolved (unknownOutcome stop) := by
  cases refused with
  | remote listed => exact .remote listed
  | io => exact .unknown
  | malformed => exact .unknown
  | large => exact .unknown

theorem create_meets (deadline : Nat) :
    Meets (fun state => state.log = []) (request outside .create true deadline)
      (fun value after => Lawful after.log ∧ Unsubmitted after.log ∧
        ∀ handle, createdHandle value = .ok handle → Polling handle (view after))
      Harmless := by
  apply Meets.each
  intro state empty
  have may : MayOffer state.nextId .create true state.log := by
    rw [empty]
    exact ⟨by simp, by simp, fun _ => ⟨rfl, by simp⟩, by simp⟩
  have lawful : Lawful state.log := by
    rw [empty]
    exact lawful_nil
  have unsubmitted : Unsubmitted state.log := by
    rw [empty]
    simp [Unsubmitted]
  have ongoing : Ongoing (view state) := ⟨lawful, by simp [view, empty]⟩
  refine (request_meets deadline).weaken (fun _ same => same) ?_ fun stop after broken => broken.harmless may lawful unsubmitted (by simp)
  rintro value after ⟨next, bound, pieces, made, log⟩
  have answered := ongoing.answered may next made log
  have still : Unsubmitted after.log := by
    rw [log]
    exact (unsubmitted.append made (by simp)).answers _ _
  refine ⟨answered.lawful, still, fun handle named => ⟨answered, ⟨state.nextId, value, ?_, named⟩, still⟩⟩
  show _ ∈ after.log
  rw [log]
  exact List.mem_cons_self

theorem submit_meets (deadline bytes : Nat) :
    Meets (fun state => Polling handle (view state) ∧ Ready handle bytes state.log) (request outside (.submit handle) false deadline)
      (fun value after => Lawful after.log ∧ Ready handle bytes after.log ∧ ∃ id, .answers id (.submit handle) value ∈ after.log)
      fun stop after => Lawful after.log ∧ Refused stop := by
  apply Meets.each
  rintro state ⟨polling, ready⟩
  have may := polling.maySubmit ready
  refine (request_meets deadline).weaken (fun _ same => same) ?_ ?_
  · rintro value after ⟨next, bound, pieces, made, log⟩
    have grown := (ready.mono pieces).mono [.answers state.nextId (.submit handle) value]
    refine ⟨(polling.answered may next made log).lawful, ?_, state.nextId, ?_⟩
    · rw [log]
      exact grown
    · rw [log]
      exact List.mem_cons_self
  · rintro stop after ⟨refused, bound, _, pieces, made, log⟩
    have same : after.log = pieces ++ state.log := log
    rw [same]
    exact ⟨may.lawful polling.lawful made, refused⟩

end Exchange

/-- Whatever the server does and wherever the exchange breaks off: at most one import
is created and at most one submission made, the descriptor goes once and only to
create, a submission follows the readiness of the created handle, and no byte is
sent twice. Once a byte of the submission may have been sent, the call ends with a
view for the number of bytes that was reported ready, with one of the listed codes
or as unknown. -/
theorem import_single_use (outside : Outside) (timeout rounds : Nat) :
    Meets (fun start => start.log = []) (computeOverStream outside timeout rounds)
      (fun view after => Lawful after.log ∧ ∃ handle bytes, Ready handle bytes after.log ∧
        ∃ id value, .answers id (.submit handle) value ∈ after.log ∧ terminalView value bytes = .ok view)
      fun stop after => Lawful after.log ∧ (Unsubmitted after.log ∨ Unresolved stop) := by
  have harmless (stop : Stop) (after : Exchange) (ended : Harmless stop after) :
      Lawful after.log ∧ (Unsubmitted after.log ∨ Unresolved stop) := ⟨ended.1, .inl ended.2⟩
  have began := @instantNow_meets outside (fun seen => seen.2 = []) Harmless
  refine (began.stopping harmless).bind fun started => ((create_meets _).stopping harmless).bind fun created => ?_
  have named : Meets (fun after => Lawful after.log ∧ Unsubmitted after.log ∧
      ∀ handle, createdHandle created = .ok handle → Polling handle (view after))
      (lift (createdHandle created)) (fun handle after => Polling handle (view after)) Harmless :=
    lift_meets (fun handle made _ held => held.2.2 handle made) fun _ _ _ held => ⟨held.1, held.2.1⟩
  refine (named.stopping harmless).bind fun handle => ((pollReady_meets _ rounds).stopping harmless).bind fun bytes => ?_
  have clock := @instantNow_meets outside (fun seen => Polling handle seen ∧ Ready handle bytes seen.2) Harmless
  refine (clock.stopping harmless).bind fun submitted => ?_
  refine Meets.bind ((submit_meets _ bytes).rethrow fun error => Meets.throw ?_) fun value => ?_
  · rintro after ⟨lawful, refused⟩
    exact ⟨lawful, .inr refused.unknownOutcome⟩
  have viewed : Meets
      (fun after => Lawful after.log ∧ Ready handle bytes after.log ∧ ∃ id, .answers id (.submit handle) value ∈ after.log)
      (lift (terminalView value bytes))
      (fun view after => Lawful after.log ∧ ∃ handle bytes, Ready handle bytes after.log ∧
        ∃ id value, .answers id (.submit handle) value ∈ after.log ∧ terminalView value bytes = .ok view)
      fun _ after => Lawful after.log := by
    refine lift_meets ?_ fun _ _ _ held => held.1
    rintro view made after ⟨lawful, ready, id, answered⟩
    exact ⟨lawful, handle, bytes, ready, id, value, answered, made⟩
  exact viewed.rethrow fun error => Meets.throw fun _ lawful => ⟨lawful, .inr .unknown⟩

mutual

def valueText : Value → String
  | .null => "null"
  | .bool value => toString value
  | .u64 value => toString value
  | .number => "-1"
  | .string text => "\"" ++ text ++ "\""
  | .array => "[]"
  | .object [] => "\x7b\x7d"
  | .object (field :: fields) => "\x7b\"" ++ field.1 ++ "\":" ++ valueText field.2 ++ fieldsText fields ++ "\x7d"

def fieldsText : Fields → String
  | [] => ""
  | field :: fields => ",\"" ++ field.1 ++ "\":" ++ valueText field.2 ++ fieldsText fields

end

def line (value : Value) : List UInt8 := (valueText value).toByteArray.data.toList

def granted (id : Nat) (result : Fields) : Value :=
  .object [("api", .u64 1), ("id", .string ("phoneboostctl-1-" ++ toString id)), ("ok", .bool true), ("result", .object result)]

def sampleHex : String := String.ofList (List.replicate 64 'c')

/-- An import that is ready at the second look, with the calls to the system that read the answers. -/
def importAnswers : List (Nat × Value) := [
  (7, granted 1 [("import_handle", .string sampleHex), ("state", .string "RECEIVING")]),
  (16, granted 2 [("state", .string "RECEIVING")]),
  (27, granted 3 [("state", .string "READY"), ("input_bytes", .u64 4)]),
  (36, granted 4 [("state", .string "COMPLETED"), ("op_id", .string blake3OpId), ("input_kind", .string "PRIVATE_IMPORT_V1"),
    ("input_bytes", .u64 4), ("digest_blake3_hex", .string sampleHex), ("execution_source", .string remoteSuccess),
    ("auto_use_reason", .string "READY")])]

def importOutside : Outside where
  processId := 1
  toVec value := some (line value)
  fromSlice bytes := (importAnswers.map Prod.snd).find? fun value => line value = bytes
  elapsed _ := 1
  setTimeouts _ := true
  push _ := true
  accept _ := some 4096
  deliver index := (importAnswers.find? fun answer => answer.1 = index).map fun answer => line answer.2 ++ [10]

def viewed : EStateM.Result Stop Exchange ImportedComputeView → Option ImportedComputeView
  | .ok view _ => some view
  | .error _ _ => none

theorem import_single_use_completed :
    ∃ after, computeOverStream importOutside 1000000000 2 ⟨0, 0, 1, []⟩ = .ok ⟨4, sampleHex, remoteSuccess, "READY"⟩ after ∧
      Lawful after.log ∧ ∃ handle bytes, Ready handle bytes after.log := by
  have completes : viewed (computeOverStream importOutside 1000000000 2 ⟨0, 0, 1, []⟩) =
      some ⟨4, sampleHex, remoteSuccess, "READY"⟩ := by decide +kernel
  cases ran : computeOverStream importOutside 1000000000 2 ⟨0, 0, 1, []⟩ with
  | error stop after =>
    rw [ran] at completes
    cases completes
  | ok view after =>
    rw [ran] at completes
    cases completes
    obtain ⟨lawful, handle, bytes, ready, -⟩ := (import_single_use importOutside 1000000000 2).ok rfl ran
    exact ⟨after, rfl, lawful, handle, bytes, ready⟩

end PhoneBoost.Cli.Proofs
