import PhoneBoost.Proofs.LineFraming

/-! Which line a descriptor is handed out with. The socket delivers descriptors
with a receive call, and a receive call may begin in lines that were sent before
the one they belong to. -/

namespace PhoneBoost.Host.Admission.Proofs
open FramedLocalClient

variable {δ : Type} {client after : FramedLocalClient δ} {answers : List (Received δ)} {limit : Nat}

/-- One send of the client, with the descriptors attached to it. -/
structure Send (δ : Type) where
  bytes : List UInt8
  descriptors : List δ
deriving DecidableEq, Repr

variable {queue later owed : List (Send δ)} {read bytes : List UInt8} {held descriptors : List δ}

/-- One receive call on a Unix stream socket: whole sends without descriptors,
then a part of one send, whose descriptors come along, and nothing behind it. -/
inductive Takes : List (Send δ) → List UInt8 → List δ → List (Send δ) → Prop where
  | part (send : Send δ) (taken rest : List UInt8) (queue : List (Send δ)) (whole : send.bytes = taken ++ rest)
      (nonempty : taken ≠ []) :
      Takes (send :: queue) taken send.descriptors (if rest.isEmpty then queue else ⟨rest, []⟩ :: queue)
  | across {queue later : List (Send δ)} {bytes : List UInt8} {descriptors : List δ} (send : Send δ)
      (plain : send.descriptors = []) (takes : Takes queue bytes descriptors later) :
      Takes (send :: queue) (send.bytes ++ bytes) descriptors later

/-- The answers of the socket to a server that reads at any time, as far as each
receive call is allowed. -/
inductive Transfers (limit : Nat) (allowed : List (Send δ) → List δ → Prop) : List (Send δ) → List (Received δ) → Prop where
  | waits (queue : List (Send δ)) : Transfers limit allowed queue []
  | ends (answers : List (Received δ)) : Transfers limit allowed [] (.message [] [] false :: answers)
  | again (queue : List (Send δ)) (answers : List (Received δ)) : Transfers limit allowed queue (.again :: answers)
  | failed (queue : List (Send δ)) (answers : List (Received δ)) : Transfers limit allowed queue (.failed :: answers)
  | interrupted {queue : List (Send δ)} {answers : List (Received δ)} (next : Transfers limit allowed queue answers) :
      Transfers limit allowed queue (.interrupted :: answers)
  | takes {queue later : List (Send δ)} {answers : List (Received δ)} {bytes : List UInt8} {descriptors : List δ}
      (takes : Takes queue bytes descriptors later) (small : bytes.length ≤ limit) (may : allowed queue descriptors)
      (next : Transfers limit allowed later answers) :
      Transfers limit allowed queue (.message bytes descriptors false :: answers)

/-- Descriptors only come with a receive call that begins in their own send. -/
def Apart (queue : List (Send δ)) (descriptors : List δ) : Prop :=
  descriptors = [] ∨ queue.head?.map Send.descriptors = some descriptors

/-- Every request line is a send of its own, with at most two descriptors. -/
def IsLine (send : Send δ) : Prop :=
  (∃ line, lineFeed ∉ line ∧ send.bytes = line ++ [lineFeed]) ∧ send.descriptors.length ≤ 2

/-- The lines that the calls have handed out, as the sends that they stand for. -/
def handed (results : List (Option (Framed δ))) : List (Send δ) :=
  results.filterMap fun
    | some (.ok (.line bytes descriptors)) => some ⟨bytes ++ [lineFeed], descriptors⟩
    | _ => none

/-- The bytes that were read and not handed out, with the descriptors held for
them, against the socket and the sends that are owed to the caller. -/
inductive Owed : List UInt8 → List δ → List (Send δ) → List (Send δ) → Prop where
  | idle (queue : List (Send δ)) : Owed [] [] queue queue
  | within (send : Send δ) (taken rest : List UInt8) (queue : List (Send δ)) (whole : send.bytes = taken ++ rest)
      (nonempty : rest ≠ []) : Owed taken send.descriptors (⟨rest, []⟩ :: queue) (send :: queue)
  | whole {read : List UInt8} {queue owed : List (Send δ)} (send : Send δ) (next : Owed read [] queue owed) :
      Owed (send.bytes ++ read) send.descriptors queue (send :: owed)

/-- A part of the send at the head, after some of it was read before. -/
theorem Owed.extend (send : Send δ) {before taken rest : List UInt8} (split : send.bytes = before ++ (taken ++ rest))
    (queue : List (Send δ)) :
    Owed (before ++ taken) send.descriptors (if rest.isEmpty then queue else ⟨rest, []⟩ :: queue) (send :: queue) := by
  cases rest with
  | nil =>
    have whole := Owed.whole send (.idle queue)
    rwa [split, List.append_nil, List.append_nil] at whole
  | cons first rest => exact .within send _ _ queue (by rw [split, List.append_assoc]) (by simp)

theorem Takes.owes (takes : Takes queue bytes descriptors later) (apart : Apart queue descriptors) :
    Owed bytes descriptors later queue := by
  induction takes with
  | part send taken rest queue split => simpa using @Owed.extend δ send [] taken rest split queue
  | across send plain takes ih =>
    have bare : _ = [] := apart.elim id fun head => by simpa [plain] using head.symm
    subst bare
    have next := Owed.whole send (ih (.inl rfl))
    rwa [plain] at next

/-- A receive call while the bytes at hand hold no line. -/
theorem Owed.receive (owes : Owed read held queue owed) (clean : lineFeed ∉ read)
    (lines : ∀ send ∈ owed, IsLine send) (takes : Takes queue bytes descriptors later)
    (apart : Apart queue descriptors) : Owed (read ++ bytes) (held ++ descriptors) later owed := by
  cases owes with
  | idle => exact takes.owes apart
  | within send taken rest queue split nonempty =>
    cases takes with
    | part _ piece rest' _ cut =>
      rw [List.append_nil]
      exact Owed.extend send (by rw [split, ← cut]) queue
    | across _ _ takes =>
      have bare : descriptors = [] := apart.elim id fun head => by simpa using head.symm
      subst bare
      have next := Owed.whole send (takes.owes (.inl rfl))
      rwa [split, List.append_assoc, ← List.append_nil send.descriptors] at next
  | whole send next =>
    obtain ⟨⟨line, -, ends⟩, -⟩ := lines send List.mem_cons_self
    simp [ends] at clean

/-- The first line at hand is the first send that is owed, and the descriptors are its own. -/
theorem Owed.line (owes : Owed read held queue owed) (lines : ∀ send ∈ owed, IsLine send) {segment rest : List UInt8}
    (split : read = segment ++ lineFeed :: rest) (clean : lineFeed ∉ segment) :
    ∃ owed', owed = ⟨segment ++ [lineFeed], held⟩ :: owed' ∧ Owed rest [] queue owed' := by
  cases owes with
  | idle => simp at split
  | within send taken rest' queue whole nonempty =>
    obtain ⟨⟨line, free, ends⟩, -⟩ := lines send List.mem_cons_self
    rw [whole, split, List.append_assoc, List.cons_append] at ends
    obtain ⟨-, same⟩ := first_line clean free ends
    simp [nonempty] at same
  | whole send next =>
    obtain ⟨⟨line, free, ends⟩, -⟩ := lines send List.mem_cons_self
    rw [ends, List.append_assoc, List.singleton_append] at split
    obtain ⟨rfl, rfl⟩ := first_line free clean split
    exact ⟨_, by rw [← ends], next⟩

/-- A message either fills the carry and adds its descriptors, or ends the connection. -/
theorem receive_cases (client : FramedLocalClient δ) (bytes : List UInt8) (descriptors : List δ) :
    (∃ result after, client.receive (.message bytes descriptors false) = (some result, after) ∧
      handed [some result] = [] ∧ after.connected = false) ∨
    ∃ seen, bytes ≠ [] ∧ client.receive (.message bytes descriptors false) =
      (none, { client with lineDescriptors := client.lineDescriptors ++ descriptors, carry := bytes, maxBufferObserved := seen }) := by
  rw [receive]
  dsimp only
  split
  · exact .inl ⟨_, _, rfl, rfl, rfl⟩
  split
  · refine .inl ⟨_, _, rfl, ?_, rfl⟩
    split <;> rfl
  next nonempty => exact .inr ⟨_, by simpa using nonempty, rfl⟩

/-- A connected client and what it owes. -/
structure Serves (limit : Nat) (client : FramedLocalClient δ) (answers : List (Received δ)) (owed : List (Send δ)) : Prop where
  connected : client.connected = true
  clean : lineFeed ∉ client.line
  short : client.line.length ≤ maxLineBytes
  owes : ∃ queue, Transfers limit Apart queue answers ∧ Owed (client.line ++ client.carry) client.lineDescriptors queue owed

/-- What one call does to what is owed. -/
inductive Hands (limit : Nat) (owed : List (Send δ)) :
    Option (Framed δ) → FramedLocalClient δ → List (Received δ) → Prop where
  | line {after : FramedLocalClient δ} {answers : List (Received δ)} (segment : List UInt8) (descriptors : List δ)
      (owed' : List (Send δ)) (first : owed = ⟨segment ++ [lineFeed], descriptors⟩ :: owed')
      (serves : Serves limit after answers owed') : Hands limit owed (some (.ok (.line segment descriptors))) after answers
  | waits {after : FramedLocalClient δ} (serves : Serves limit after [] owed) : Hands limit owed none after []
  | ends {after : FramedLocalClient δ} {answers : List (Received δ)} (result : Framed δ) (unlined : handed [some result] = [])
      (closed : after.connected = false) : Hands limit owed (some result) after answers

theorem nextLineBytes_hands (serves : Serves limit client answers owed) (lines : ∀ send ∈ owed, IsLine send) :
    Hands limit owed (client.nextLineBytes answers).1 (client.nextLineBytes answers).2.1
      (client.nextLineBytes answers).2.2 := by
  rw [nextLineBytes, if_pos serves.connected]
  refine nextLoop_rule (I := fun client answers => Serves limit client answers owed) ?_ ?_ ?_ serves
  · intro client answers result after serves found
    obtain ⟨queue, transfers, owes⟩ := serves.owes
    have settled := pending_settles serves.clean serves.short
    rw [found] at settled
    cases settled with
    | line segment rest seen split clean short =>
      obtain ⟨owed', first, next⟩ := owes.line lines split clean
      exact .line segment _ owed' first ⟨serves.connected, List.not_mem_nil, Nat.zero_le _, queue, transfers, next⟩
    | long => exact .ends _ rfl rfl
  · intro client after serves found
    obtain ⟨queue, transfers, owes⟩ := serves.owes
    have settled := pending_settles serves.clean serves.short
    rw [found] at settled
    cases settled with
    | moved seen clean short =>
      exact .waits ⟨serves.connected, clean, short, queue, transfers, by rwa [List.append_nil]⟩
  · intro client answer answers middle serves found
    obtain ⟨queue, transfers, owes⟩ := serves.owes
    have settled := pending_settles serves.clean serves.short
    rw [found] at settled
    cases settled with
    | moved seen clean short =>
      cases transfers with
      | ends =>
        rcases receive_cases { client with line := client.line ++ client.carry, carry := [], maxBufferObserved := seen } [] []
          with ⟨result, after, received, unlined, closed⟩ | ⟨_, impossible, _⟩
        · rw [received]
          refine ⟨?_, by rintro _ ⟨⟩⟩
          rintro _ _ ⟨⟩
          exact .ends result unlined closed
        · exact absurd rfl impossible
      | again =>
        refine ⟨?_, by rintro _ ⟨⟩⟩
        rintro result after ⟨⟩
        exact .ends _ rfl rfl
      | failed =>
        refine ⟨?_, by rintro _ ⟨⟩⟩
        rintro result after ⟨⟩
        exact .ends _ rfl rfl
      | interrupted next =>
        refine ⟨by rintro _ _ ⟨⟩, ?_⟩
        rintro after ⟨⟩
        exact ⟨serves.connected, clean, short, queue, next, by rwa [List.append_nil]⟩
      | @takes _ later _ bytes descriptors takes small may next =>
        rcases receive_cases { client with line := client.line ++ client.carry, carry := [], maxBufferObserved := seen }
          bytes descriptors with ⟨result, after, received, unlined, closed⟩ | ⟨seen', nonempty, received⟩
        · rw [received]
          refine ⟨?_, by rintro _ ⟨⟩⟩
          rintro _ _ ⟨⟩
          exact .ends result unlined closed
        · rw [received]
          refine ⟨by rintro _ _ ⟨⟩, ?_⟩
          rintro after ⟨⟩
          exact ⟨serves.connected, clean, short, later, next, owes.receive clean lines takes may⟩

theorem handed_cons (result : Option (Framed δ)) (results : List (Option (Framed δ))) :
    handed (result :: results) = handed [result] ++ handed results := by
  show List.filterMap _ ([result] ++ results) = _
  exact List.filterMap_append

theorem calls_handed (count : Nat) (serves : Serves limit client answers owed) (lines : ∀ send ∈ owed, IsLine send) :
    handed (calls count client answers).1 <+: owed := by
  induction count generalizing client answers owed with
  | zero => exact List.nil_prefix
  | succ count ih =>
    have hands := nextLineBytes_hands serves lines
    rw [calls]
    dsimp only
    rw [handed_cons]
    generalize (client.nextLineBytes answers) = next at hands ⊢
    obtain ⟨result, after, left⟩ := next
    cases hands with
    | line segment descriptors owed' first next =>
      subst first
      exact (List.prefix_cons_inj _).mpr (ih next fun send member => lines send (List.mem_cons_of_mem _ member))
    | waits serves => exact ih serves lines
    | ends result unlined closed =>
      rw [calls_closed closed, unlined]
      simp [handed, List.filterMap_replicate_of_none]

/-- The lines are handed out in order, each with the descriptors that were sent
with it, in every run in which descriptors only come with a receive call that
begins in their own send. -/
theorem descriptor_binding (readChunkLimit : Nat) (sends : List (Send δ)) (answers : List (Received δ)) (count : Nat)
    (lines : ∀ send ∈ sends, IsLine send)
    (transfers : Transfers (build readChunkLimit : FramedLocalClient δ).readChunkLimit Apart sends answers) :
    handed (calls count (build readChunkLimit) answers).1 <+: sends :=
  calls_handed count ⟨rfl, List.not_mem_nil, Nat.zero_le _, sends, transfers, .idle sends⟩ lines

/-- Two requests, and a descriptor for the second. -/
def twoRequests : List (Send Nat) := [⟨[97, 10], []⟩, ⟨[98, 10], [7]⟩]

theorem twoRequests_lines : ∀ send ∈ twoRequests, IsLine send := by
  intro send member
  rcases List.mem_cons.mp member with rfl | member
  · exact ⟨⟨[97], by decide, rfl⟩, by decide⟩
  · cases List.mem_singleton.mp member
    exact ⟨⟨[98], by decide, rfl⟩, by decide⟩

/-- The server reads each request before the next one is there. -/
theorem descriptor_binding_one_by_one :
    handed (calls 2 (build 4096)
      [.message [97, 10] [] false, .message [98, 10] [7] false, .message [] [] false]).1 <+: twoRequests :=
  descriptor_binding 4096 twoRequests _ 2 twoRequests_lines
    (.takes (.part ⟨[97, 10], []⟩ [97, 10] [] _ rfl (by decide)) (by decide) (.inl rfl)
      (.takes (.part ⟨[98, 10], [7]⟩ [98, 10] [] _ rfl (by decide)) (by decide) (.inr rfl) (.ends [])))

/-- Both requests wait in the socket when the server reads: the descriptor of the
second comes with the call that returns them both, and the first line takes it. -/
theorem pipelined_descriptor_misplaced :
    ∃ answers, Transfers (build 4096 : FramedLocalClient Nat).readChunkLimit (fun _ _ => True) twoRequests answers ∧
      (∀ send ∈ twoRequests, IsLine send) ∧
      handed (calls 2 (build 4096) answers).1 = [⟨[97, 10], [7]⟩, ⟨[98, 10], []⟩] ∧
      ¬handed (calls 2 (build 4096) answers).1 <+: twoRequests := by
  refine ⟨[.message [97, 10, 98, 10] [7] false, .message [] [] false], ?_, twoRequests_lines, by decide, by decide⟩
  have both : Takes twoRequests [97, 10, 98, 10] [7] [] :=
    .across ⟨[97, 10], []⟩ rfl (.part ⟨[98, 10], [7]⟩ [98, 10] [] [] rfl (by decide))
  exact .takes both (by decide) trivial (.ends [])

end PhoneBoost.Host.Admission.Proofs
