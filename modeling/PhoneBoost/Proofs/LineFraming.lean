import Mathlib.Data.List.TakeWhile
import Mathlib.Order.Lattice
import PhoneBoost.Host.Framing

/-! The lines of a byte stream, whatever the receive calls make of it. Line
buffer, carry and the bytes still in the socket always add up to what is owed to
the caller. -/

namespace PhoneBoost.Host.Admission.Proofs
open FramedLocalClient

variable {δ : Type} {client after : FramedLocalClient δ} {answers : List (Received δ)} {stream : List UInt8} {limit : Nat}

/-- The rule for the loop: what each turn keeps until it has a result. -/
theorem nextLoop_rule {I : FramedLocalClient δ → List (Received δ) → Prop}
    {Q : Option (Framed δ) → FramedLocalClient δ → List (Received δ) → Prop}
    (settles : ∀ client answers result after, I client answers → client.pending = (some result, after) →
      Q (some result) after answers)
    (waits : ∀ client after, I client [] → client.pending = (none, after) → Q none after [])
    (turns : ∀ client answer answers middle, I client (answer :: answers) → client.pending = (none, middle) →
      (∀ result after, middle.receive answer = (some result, after) → Q (some result) after answers) ∧
      ∀ after, middle.receive answer = (none, after) → I after answers)
    (start : I client answers) :
    Q (client.nextLoop answers).1 (client.nextLoop answers).2.1 (client.nextLoop answers).2.2 := by
  induction answers generalizing client with
  | nil =>
    rw [nextLoop]
    rcases found : client.pending with ⟨_ | result, after⟩
    · exact waits client after start found
    · exact settles client [] result after start found
  | cons answer answers ih =>
    rw [nextLoop]
    rcases found : client.pending with ⟨_ | result, middle⟩
    · obtain ⟨ends, goes⟩ := turns client answer answers middle start found
      dsimp only
      rcases received : middle.receive answer with ⟨_ | result, after⟩
      · exact ih (goes after received)
      · exact ends result after received
    · exact settles client _ result middle start found

/-- The head of the loop either finds a line, or finds that it is too long, or
moves the whole carry to the line buffer. -/
inductive Settles (client : FramedLocalClient δ) : Option (Framed δ) → FramedLocalClient δ → Prop where
  | line (segment rest : List UInt8) (seen : Nat) (whole : client.line ++ client.carry = segment ++ lineFeed :: rest)
      (clean : lineFeed ∉ segment) (short : segment.length ≤ maxLineBytes) (smaller : rest.length < client.carry.length)
      (observed : seen ≤ max client.maxBufferObserved (client.line.length + client.carry.length)) :
      Settles client (some (.ok (.line segment client.lineDescriptors)))
        { client with line := [], lineDescriptors := [], carry := rest, maxBufferObserved := seen }
  | long (segment rest : List UInt8) (whole : client.line ++ client.carry = segment ++ rest)
      (clean : lineFeed ∉ segment) (long : maxLineBytes < segment.length) :
      Settles client (some (.error .localBadRequest)) client.close
  | moved (seen : Nat) (clean : lineFeed ∉ client.line ++ client.carry)
      (short : (client.line ++ client.carry).length ≤ maxLineBytes)
      (observed : seen ≤ max client.maxBufferObserved (client.line.length + client.carry.length)) :
      Settles client none { client with line := client.line ++ client.carry, carry := [], maxBufferObserved := seen }

theorem not_mem_takeWhile (bytes : List UInt8) : lineFeed ∉ bytes.takeWhile (· ≠ lineFeed) := by
  intro member
  have differs := List.mem_takeWhile_imp member
  simp at differs

theorem head_dropWhile {bytes rest : List UInt8} {first : UInt8} (dropped : bytes.dropWhile (· ≠ lineFeed) = first :: rest) :
    first = lineFeed := by
  have head := List.head?_dropWhile_not (fun byte : UInt8 => decide (byte ≠ lineFeed)) bytes
  rw [dropped] at head
  simpa using head

theorem pending_settles (clean : lineFeed ∉ client.line) (short : client.line.length ≤ maxLineBytes) :
    Settles client client.pending.1 client.pending.2 := by
  rw [pending]
  split
  next empty =>
    obtain ⟨connected, line, descriptors, carry, chunk, seen⟩ := client
    obtain rfl : carry = [] := List.isEmpty_iff.mp empty
    have moved : Settles ⟨connected, line, descriptors, [], chunk, seen⟩ _ _ :=
      .moved seen (by simpa using clean) (by simpa using short) (Nat.le_max_left ..)
    simpa only [List.append_nil] using moved
  next =>
    have parts := List.takeWhile_append_dropWhile (p := fun byte : UInt8 => decide (byte ≠ lineFeed)) (l := client.carry)
    have fresh : lineFeed ∉ client.line ++ client.carry.takeWhile (· ≠ lineFeed) := by
      rw [List.mem_append, not_or]
      exact ⟨clean, not_mem_takeWhile _⟩
    rw [consumeCarry]
    dsimp only
    split
    next excess =>
      refine .long (client.line ++ client.carry.takeWhile (· ≠ lineFeed)) (client.carry.dropWhile (· ≠ lineFeed)) ?_ fresh ?_
      · rw [List.append_assoc, parts]
      · rw [List.length_append]
        omega
    next room =>
      have fits : (client.line ++ client.carry.takeWhile (· ≠ lineFeed)).length ≤ maxLineBytes := by
        rw [List.length_append]
        omega
      have size : (client.line ++ client.carry.takeWhile (· ≠ lineFeed)).length +
          (client.carry.dropWhile (· ≠ lineFeed)).length = client.line.length + client.carry.length := by
        rw [List.length_append, Nat.add_assoc, ← List.length_append, parts]
      split
      next first rest dropped =>
        obtain rfl := head_dropWhile dropped
        refine .line (client.line ++ client.carry.takeWhile (· ≠ lineFeed)) rest _ ?_ fresh fits ?_ ?_
        · rw [← dropped, List.append_assoc, parts]
        · have tail : (lineFeed :: rest).length ≤ client.carry.length := dropped ▸ (List.dropWhile_sublist _).length_le
          exact tail
        · rw [← size]
          exact Nat.le_refl _
      next dropped =>
        have all : client.carry.takeWhile (· ≠ lineFeed) = client.carry := by
          rw [dropped, List.append_nil] at parts
          exact parts
        rw [all] at fresh fits size
        simp only [all, dropped, observeBufferBound]
        refine .moved _ fresh fits ?_
        rw [← size, dropped]

/-- The answers of a socket that delivers the bytes without ancillary data, cut
into any nonempty chunks up to the limit, with any interruptions, and then ends. -/
inductive Delivers (limit : Nat) : List (Received δ) → List UInt8 → Prop where
  | ends (answers : List (Received δ)) : Delivers limit (.message [] [] false :: answers) []
  | interrupted {answers : List (Received δ)} {bytes : List UInt8} (later : Delivers limit answers bytes) :
      Delivers limit (.interrupted :: answers) bytes
  | chunk {answers : List (Received δ)} {bytes : List UInt8} (chunk : List UInt8) (nonempty : chunk ≠ [])
      (small : chunk.length ≤ limit) (later : Delivers limit answers bytes) :
      Delivers limit (.message chunk [] false :: answers) (chunk ++ bytes)

theorem receive_eof (bare : client.lineDescriptors = []) :
    client.receive (.message [] [] false) =
      (some (if client.line.isEmpty then .ok .cleanEof else .error .localBadRequest), client.close) := by
  simp [receive, bare, close]

theorem receive_chunk (bare : client.lineDescriptors = []) {chunk : List UInt8} (nonempty : chunk ≠ []) :
    client.receive (.message chunk [] false) = (none, { client with carry := chunk }.observeBufferBound) := by
  simp [receive, bare, nonempty]

/-- The bytes that are still owed to the caller. -/
structure Pending (limit : Nat) (client : FramedLocalClient δ) (answers : List (Received δ)) (stream : List UInt8) : Prop where
  connected : client.connected = true
  clean : lineFeed ∉ client.line
  short : client.line.length ≤ maxLineBytes
  window : client.carry.length ≤ readChunkBytes
  bare : client.lineDescriptors = []
  observed : client.maxBufferObserved ≤ framingMemoryBoundBytes
  owed : ∃ later, Delivers limit answers later ∧ client.line ++ client.carry ++ later = stream

theorem Pending.within (pending : Pending limit client answers stream) {seen : Nat}
    (observed : seen ≤ max client.maxBufferObserved (client.line.length + client.carry.length)) :
    seen ≤ framingMemoryBoundBytes :=
  observed.trans (Nat.max_le.mpr ⟨pending.observed, Nat.add_le_add pending.short pending.window⟩)

def Closed (client : FramedLocalClient δ) : Prop :=
  client.connected = false ∧ client.maxBufferObserved ≤ framingMemoryBoundBytes

/-- What one call makes of the bytes that are owed. -/
inductive Answers (limit : Nat) (stream : List UInt8) :
    Option (Framed δ) → FramedLocalClient δ → List (Received δ) → Prop where
  | line {after : FramedLocalClient δ} {answers : List (Received δ)} (segment rest : List UInt8)
      (whole : stream = segment ++ lineFeed :: rest) (clean : lineFeed ∉ segment)
      (short : segment.length ≤ maxLineBytes) (pending : Pending limit after answers rest) :
      Answers limit stream (some (.ok (.line segment []))) after answers
  | long {after : FramedLocalClient δ} {answers : List (Received δ)} (segment rest : List UInt8)
      (whole : stream = segment ++ rest) (clean : lineFeed ∉ segment) (long : maxLineBytes < segment.length)
      (closed : Closed after) : Answers limit stream (some (.error .localBadRequest)) after answers
  | ends {after : FramedLocalClient δ} {answers : List (Received δ)} (clean : lineFeed ∉ stream) (closed : Closed after) :
      Answers limit stream (some (if stream.isEmpty then .ok .cleanEof else .error .localBadRequest)) after answers

theorem nextLineBytes_answers (pending : Pending limit client answers stream) (small : limit ≤ readChunkBytes) :
    Answers limit stream (client.nextLineBytes answers).1 (client.nextLineBytes answers).2.1
      (client.nextLineBytes answers).2.2 := by
  rw [nextLineBytes, if_pos pending.connected]
  refine nextLoop_rule (I := fun client answers => Pending limit client answers stream) ?_ ?_ ?_ pending
  · intro client answers result after pending found
    obtain ⟨later, delivers, whole⟩ := pending.owed
    have settled := pending_settles pending.clean pending.short
    rw [found] at settled
    cases settled with
    | line segment rest seen split clean short smaller observed =>
      rw [split, List.append_assoc] at whole
      rw [pending.bare]
      refine .line segment (rest ++ later) whole.symm clean short ?_
      exact ⟨pending.connected, List.not_mem_nil, Nat.zero_le _, smaller.le.trans pending.window, rfl,
        pending.within observed, later, delivers, rfl⟩
    | long segment rest split clean long =>
      rw [split, List.append_assoc] at whole
      exact .long segment (rest ++ later) whole.symm clean long ⟨rfl, pending.observed⟩
  · intro client after pending found
    obtain ⟨later, delivers, whole⟩ := pending.owed
    cases delivers
  · intro client answer answers middle pending found
    obtain ⟨later, delivers, whole⟩ := pending.owed
    have settled := pending_settles pending.clean pending.short
    rw [found] at settled
    cases settled with
    | moved seen clean short observed =>
      cases delivers with
      | ends =>
        rw [List.append_nil] at whole
        have eof := @receive_eof δ { client with line := client.line ++ client.carry, carry := [], maxBufferObserved := seen }
          pending.bare
        rw [eof, whole]
        refine ⟨?_, fun after received => nomatch received⟩
        rintro result after ⟨⟩
        exact .ends (whole ▸ clean) ⟨rfl, pending.within observed⟩
      | interrupted later =>
        refine ⟨fun result after received => (nomatch received), ?_⟩
        rintro after ⟨⟩
        exact ⟨pending.connected, clean, short, Nat.zero_le _, pending.bare, pending.within observed, _, later,
          by rw [List.append_nil]; exact whole⟩
      | chunk chunk nonempty fits later =>
        have filled := @receive_chunk δ { client with line := client.line ++ client.carry, carry := [], maxBufferObserved := seen }
          pending.bare chunk nonempty
        rw [filled]
        refine ⟨fun result after received => (nomatch received), ?_⟩
        rintro after ⟨⟩
        refine ⟨pending.connected, clean, short, fits.trans small, pending.bare, ?_, _, later, ?_⟩
        · exact Nat.max_le.mpr ⟨pending.within observed, Nat.add_le_add short (fits.trans small)⟩
        · rw [← List.append_assoc] at whole
          exact whole

theorem calls_closed (closed : client.connected = false) (count : Nat) (answers : List (Received δ)) :
    calls count client answers = (List.replicate count (some (.ok .cleanEof)), client) := by
  induction count with
  | zero => rfl
  | succ count ih => simp [calls, nextLineBytes, closed, ih, List.replicate_succ]

/-- The segments of a stream that end in a line feed, and the bytes after the last one. -/
structure Lines (stream : List UInt8) (lines : List (List UInt8)) (rest : List UInt8) : Prop where
  whole : stream = lines.flatMap (· ++ [lineFeed]) ++ rest
  clean : ∀ line ∈ lines, lineFeed ∉ line
  rest : lineFeed ∉ rest

theorem exists_lines (stream : List UInt8) : ∃ lines rest, Lines stream lines rest := by
  induction stream with
  | nil => exact ⟨[], [], rfl, by simp, by simp⟩
  | cons byte stream ih =>
    obtain ⟨lines, rest, whole, clean, unended⟩ := ih
    by_cases feed : byte = lineFeed
    · subst feed
      exact ⟨[] :: lines, rest, by simp [whole], by simpa using clean, unended⟩
    cases lines with
    | nil => exact ⟨[], byte :: rest, by simpa using whole, by simp, by simp [unended, Ne.symm feed]⟩
    | cons line lines =>
      refine ⟨(byte :: line) :: lines, rest, by simp [whole], ?_, unended⟩
      simpa [Ne.symm feed] using clean

def fits (line : List UInt8) : Bool := line.length ≤ maxLineBytes

/-- One result for every line up to the first that is too long, then the end. -/
def frames (lines : List (List UInt8)) (rest : List UInt8) : List (Framed δ) :=
  (lines.takeWhile fits).map (fun line => .ok (.line line [])) ++
    [if lines.all fits && rest.isEmpty then .ok .cleanEof else .error .localBadRequest]

/-- The last result: it is this one, and the connection is closed. -/
theorem calls_last {result : Framed δ} (found : (client.nextLineBytes answers).1 = some result)
    (closed : Closed (client.nextLineBytes answers).2.1) (more : Nat) :
    let served := calls (1 + more) client answers
    served.1 = some result :: List.replicate more (some (.ok .cleanEof)) ∧ Closed served.2 := by
  rw [Nat.add_comm, calls]
  dsimp only
  rw [calls_closed closed.1, found]
  exact ⟨rfl, closed⟩

theorem segment_le {line segment tail rest : List UInt8} (free : lineFeed ∉ segment)
    (whole : line ++ lineFeed :: rest = segment ++ tail) : segment.length ≤ line.length := by
  rcases List.append_eq_append_iff.mp whole with ⟨between, rfl, same⟩ | ⟨between, rfl, _⟩
  · cases between with
    | nil => simp
    | cons first between =>
      cases (List.cons.inj same).1
      exact absurd (by simp) free
  · simp

theorem first_line {line segment tail rest : List UInt8} (mine : lineFeed ∉ line) (free : lineFeed ∉ segment)
    (whole : line ++ lineFeed :: rest = segment ++ lineFeed :: tail) : line = segment ∧ rest = tail := by
  have same := Nat.le_antisymm (segment_le mine whole.symm) (segment_le free whole)
  obtain ⟨first, second⟩ := List.append_inj whole same
  exact ⟨first, (List.cons.inj second).2⟩

theorem calls_frames {lines : List (List UInt8)} {rest : List UInt8} (small : limit ≤ readChunkBytes)
    (pending : Pending limit client answers (lines.flatMap (· ++ [lineFeed]) ++ rest))
    (clean : ∀ line ∈ lines, lineFeed ∉ line) (unended : lineFeed ∉ rest) (more : Nat) :
    let served := calls ((frames lines rest : List (Framed δ)).length + more) client answers
    served.1 = (frames lines rest).map some ++ List.replicate more (some (.ok .cleanEof)) ∧ Closed served.2 := by
  induction lines generalizing client answers with
  | nil =>
    have answered := nextLineBytes_answers pending small
    rw [List.flatMap_nil, List.nil_append] at answered
    generalize called : client.nextLineBytes answers = next at answered
    obtain ⟨result, after, left⟩ := next
    cases answered with
    | line segment tail whole => exact absurd (whole ▸ by simp) unended
    | long segment tail whole _ long closed =>
      have nonempty : rest ≠ [] := by
        rintro rfl
        simp [(List.nil_eq_append_iff.mp whole).1] at long
      have last := calls_last (by rw [called]) (by rw [called]; exact closed) more
      simpa [frames, nonempty] using last
    | ends _ closed =>
      have last := calls_last (by rw [called]) (by rw [called]; exact closed) more
      simpa [frames] using last
  | cons line lines ih =>
    have answered := nextLineBytes_answers pending small
    simp only [List.flatMap_cons, List.append_assoc, List.singleton_append] at answered
    generalize called : client.nextLineBytes answers = next at answered
    obtain ⟨result, after, left⟩ := next
    have mine := clean line List.mem_cons_self
    cases answered with
    | line segment tail whole free short later =>
      obtain ⟨rfl, rfl⟩ := first_line mine free whole
      have served := ih later (fun line member => clean line (List.mem_cons_of_mem _ member))
      simp only [frames, List.takeWhile_cons, List.all_cons, fits, short, decide_true, if_true, List.map_cons, List.cons_append,
        List.length_cons, Bool.true_and] at served ⊢
      rw [Nat.add_right_comm, calls, called]
      exact ⟨congrArg _ served.1, served.2⟩
    | long segment tail whole free long closed =>
      have tooLong : ¬line.length ≤ maxLineBytes := fun short =>
        absurd (segment_le free whole) (by omega)
      have last := calls_last (by rw [called]) (by rw [called]; exact closed) more
      simpa [frames, fits, tooLong] using last
    | ends free closed => simp at free

/-- NDJSON framing does not depend on how the stream is cut: successive calls give
its lines byte for byte, up to the first that is longer than the limit, and the
buffers stay within their bound. -/
theorem line_framing (readChunkLimit : Nat) (stream : List UInt8) (answers : List (Received δ))
    (delivers : Delivers (build readChunkLimit : FramedLocalClient δ).readChunkLimit answers stream) :
    ∃ lines rest, Lines stream lines rest ∧ ∀ more,
      let served := calls ((frames lines rest : List (Framed δ)).length + more) (build readChunkLimit) answers
      served.1 = (frames lines rest).map some ++ List.replicate more (some (.ok .cleanEof)) ∧
      served.2.connected = false ∧ served.2.maxBufferObserved ≤ framingMemoryBoundBytes := by
  obtain ⟨lines, rest, whole, clean, unended⟩ := exists_lines stream
  refine ⟨lines, rest, ⟨whole, clean, unended⟩, ?_⟩
  have small : (build readChunkLimit : FramedLocalClient δ).readChunkLimit ≤ readChunkBytes :=
    Nat.max_le.mpr ⟨by decide, Nat.min_le_right ..⟩
  have start : Pending _ (build readChunkLimit) answers stream :=
    ⟨rfl, List.not_mem_nil, Nat.zero_le _, Nat.zero_le _, rfl, Nat.zero_le _, stream, delivers, rfl⟩
  rw [whole] at start
  exact calls_frames small start clean unended

theorem line_framing_interrupted :
    ∃ lines rest, Lines [97, 98, 10, 99] lines rest ∧ ∀ more,
      let served := calls ((frames lines rest : List (Framed Nat)).length + more) (build 3 : FramedLocalClient Nat)
        [.message [97] [] false, .interrupted, .message [98, 10, 99] [] false, .message [] [] false]
      served.1 = (frames lines rest).map some ++ List.replicate more (some (.ok .cleanEof)) ∧
      served.2.connected = false ∧ served.2.maxBufferObserved ≤ framingMemoryBoundBytes :=
  line_framing 3 _ _ (.chunk [97] (by decide) (by decide)
    (.interrupted (.chunk [98, 10, 99] (by decide) (by decide) (.ends []))))

end PhoneBoost.Host.Admission.Proofs
