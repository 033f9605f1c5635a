import Mathlib.Logic.Relation
import PhoneBoost.Lib.Budget
import PhoneBoost.Proofs.LeaseSteps
import PhoneBoost.Worker.ResourceGuard

/-! The reservations of the guard as a budget ledger. Every guard operation is a
sequence of postings, apart from the two that hand bytes to a buffer or job and
take them back, and postings keep the ledger balanced. -/

namespace PhoneBoost.Worker.Proofs
open Keyed Budget Relation

abbrev ReservationLedger := Ledger ReservationId Reservation

def ledger (guard : ResourceGuard) : ReservationLedger where
  allocated := guard.allocatedBytes
  shortfall := guard.shortfall
  accounts := guard.reservations

def holdsBudget : ReservationState → Bool
  | .reserved | .committed | .consumed => true
  | .released | .expired | .refusedSafety | .consumedReleased => false

def heldBytes (reservation : Reservation) : Nat := if holdsBudget reservation.state then reservation.bytes else 0

/-- Not yet handed to a buffer or job. -/
def Pending (state : ReservationState) : Prop := state = .reserved ∨ state = .committed

/-- The terminal states of a reservation that nothing consumed. -/
def Unused (state : ReservationState) : Prop := state = .released ∨ state = .expired ∨ state = .refusedSafety

/-- What `reserve` may open under a proof. -/
structure Opening (proof : LeaseProof) (nowMs : Nat) (reads : Entropy) (id : ReservationId) (reservation : Reservation) :
    Prop where
  drawn : id.bytes ∈ drawn reads
  valid : nonzero id.bytes = true
  peer : reservation.peerId = proof.peerId
  lease : reservation.leaseId = proof.leaseId
  incarnation : reservation.incarnation = proof.incarnation
  known : reservation.resourceClass ≠ .unknown
  positive : 0 < reservation.bytes
  bounded : reservation.bytes ≤ reservation.resourceClass.maxRequestBytes
  expires : reservation.expiresAtMs = saturatingAdd nowMs reservationTtlMs

/-- One entry in the ledger that leaves consumed reservations alone. -/
inductive Posting (opens : ReservationId → Reservation → Prop) (nowMs : Nat) :
    ReservationLedger → ReservationLedger → Prop where
  | reserve {book id reservation} (allowed : opens id reservation) (absent : book.accounts.get? id = none)
      (state : reservation.state = .reserved) (unended : reservation.terminalAtMs = none)
      (fits : book.allocated + reservation.bytes ≤ pocCapBytes) :
      Posting opens nowMs book (book.charge id reservation reservation.bytes)
  | commit {book id reservation} (found : book.accounts.get? id = some reservation)
      (state : reservation.state = .reserved) :
      Posting opens nowMs book (book.update id fun entry => { entry with state := .committed })
  | settle {book id reservation state} (found : book.accounts.get? id = some reservation)
      (pending : Pending reservation.state) (unused : Unused state) :
      Posting opens nowMs book ((book.giveBack reservation.bytes).update id fun entry =>
        { entry with state, terminalAtMs := some nowMs })
  | supersede {book id reservation} (found : book.accounts.get? id = some reservation)
      (pending : Pending reservation.state) :
      Posting opens nowMs book ((book.giveBack reservation.bytes).drop id)
  | forget {book id reservation} (found : book.accounts.get? id = some reservation) (unused : Unused reservation.state) :
      Posting opens nowMs book (book.drop id)
  | purge {book keep} (dropped : ∀ id reservation, book.accounts.get? id = some reservation →
      keep id reservation = false → ∃ terminal, reservation.terminalAtMs = some terminal ∧
        terminalRetentionMs < nowMs - terminal) :
      Posting opens nowMs book (book.retain keep)

abbrev Postings (opens : ReservationId → Reservation → Prop) (nowMs : Nat) :
    ReservationLedger → ReservationLedger → Prop := ReflTransGen (Posting opens nowMs)

/-- The consistency of the reservation table. -/
structure Booked (book : ReservationLedger) : Prop where
  balanced : Balanced heldBytes pocCapBytes book
  closed : ∀ id reservation, book.accounts.get? id = some reservation → reservation.terminalAtMs ≠ none →
    holdsBudget reservation.state = false

variable {opens : ReservationId → Reservation → Prop} {nowMs : Nat} {book later : ReservationLedger}

theorem heldBytes_of_holds {reservation : Reservation} (holds : holdsBudget reservation.state = true) :
    heldBytes reservation = reservation.bytes := by
  simp [heldBytes, holds]

theorem heldBytes_of_free {reservation : Reservation} (free : holdsBudget reservation.state = false) :
    heldBytes reservation = 0 := by
  simp [heldBytes, free]

theorem Pending.holds {state : ReservationState} (pending : Pending state) : holdsBudget state = true := by
  rcases pending with rfl | rfl <;> rfl

theorem Unused.free {state : ReservationState} (unused : Unused state) : holdsBudget state = false := by
  rcases unused with rfl | rfl | rfl <;> rfl

theorem Booked.charge (booked : Booked book) {id : ReservationId} {reservation : Reservation}
    (absent : book.accounts.get? id = none) (holds : holdsBudget reservation.state = true)
    (unended : reservation.terminalAtMs = none) (fits : book.allocated + reservation.bytes ≤ pocCapBytes) :
    Booked (book.charge id reservation reservation.bytes) where
  balanced := by
    have weight := heldBytes_of_holds holds
    have charged := booked.balanced.charge absent reservation (by omega)
    rwa [weight] at charged
  closed := by
    intro other stored found terminal
    rw [Ledger.charge_accounts, Table.get?_insert] at found
    split at found
    · cases found
      exact absurd unended terminal
    · exact booked.closed other stored found terminal

/-- An update that neither ends an account nor changes whether it holds bytes. -/
theorem Booked.update (booked : Booked book) {id : ReservationId} {reservation : Reservation} {f : Reservation → Reservation}
    (found : book.accounts.get? id = some reservation) (holds : holdsBudget reservation.state = true)
    (kept : holdsBudget (f reservation).state = true) (bytes : (f reservation).bytes = reservation.bytes)
    (terminal : (f reservation).terminalAtMs = reservation.terminalAtMs) : Booked (book.update id f) where
  balanced := by
    apply booked.balanced.update found
    rw [heldBytes_of_holds holds, heldBytes_of_holds kept, bytes]
  closed := by
    intro other stored present ended
    rw [Ledger.update_accounts, Table.get?_modify] at present
    split at present
    next same =>
      subst other
      rw [found, Option.map_some, Option.some.injEq] at present
      subst stored
      rw [terminal] at ended
      rw [booked.closed id reservation found ended] at holds
      cases holds
    next => exact booked.closed other stored present ended

/-- An account that holds bytes ends and gives all of them back. -/
theorem Booked.giveBack (booked : Booked book) {id : ReservationId} {reservation : Reservation}
    {f : Reservation → Reservation} (found : book.accounts.get? id = some reservation)
    (holds : holdsBudget reservation.state = true) (free : holdsBudget (f reservation).state = false) :
    Booked ((book.giveBack reservation.bytes).update id f) where
  balanced := by
    have paid := booked.balanced.giveBack_update found (heldBytes_of_free free)
    rwa [heldBytes_of_holds holds] at paid
  closed := by
    intro other stored present ended
    rw [Ledger.update_accounts, Ledger.giveBack_accounts, Table.get?_modify] at present
    split at present
    next same =>
      subst other
      rw [found, Option.map_some, Option.some.injEq] at present
      rwa [← present]
    next => exact booked.closed other stored present ended

theorem Booked.drop_closed (booked : Booked book) {id : ReservationId} {paid : ReservationLedger}
    (same : paid.accounts = book.accounts.erase id) (other : ReservationId) (reservation : Reservation)
    (found : paid.accounts.get? other = some reservation) (ended : reservation.terminalAtMs ≠ none) :
    holdsBudget reservation.state = false := by
  rw [same, Table.get?_erase] at found
  split at found
  · cases found
  · exact booked.closed other reservation found ended

theorem Posting.booked (booked : Booked book) (posting : Posting opens nowMs book later) : Booked later := by
  cases posting with
  | reserve _ absent state unended fits => exact booked.charge absent (by rw [state]; rfl) unended fits
  | commit found state => exact booked.update found (by rw [state]; rfl) rfl rfl rfl
  | settle found pending unused => exact booked.giveBack found pending.holds unused.free
  | supersede found pending =>
    refine ⟨?_, booked.drop_closed rfl⟩
    have paid := booked.balanced.giveBack_drop found
    rwa [heldBytes_of_holds pending.holds] at paid
  | forget found unused =>
    exact ⟨booked.balanced.drop found (heldBytes_of_free unused.free), booked.drop_closed rfl⟩
  | purge dropped =>
    constructor
    · apply booked.balanced.retain
      intro id reservation found gone
      obtain ⟨terminal, ended, _⟩ := dropped id reservation found gone
      exact heldBytes_of_free (booked.closed id reservation found (by simp [ended]))
    · intro id reservation found ended
      rw [Ledger.retain_accounts, Table.get?_retain_eq_some] at found
      exact booked.closed id reservation found.1 ended

theorem Postings.booked (booked : Booked book) (postings : Postings opens nowMs book later) : Booked later := by
  induction postings with
  | refl => exact booked
  | tail _ posting ih => exact posting.booked ih

/-- What postings can do to one reservation: nothing, a commit, or an unused end. -/
inductive Progress (nowMs : Nat) (reservation : Reservation) : Reservation → Prop where
  | stay : Progress nowMs reservation reservation
  | commit (state : reservation.state = .reserved) : Progress nowMs reservation { reservation with state := .committed }
  | settle {state} (pending : Pending reservation.state) (unused : Unused state) :
      Progress nowMs reservation { reservation with state, terminalAtMs := some nowMs }

/-- The fields that never change while a reservation is on record. -/
structure SameTerms (first second : Reservation) : Prop where
  peer : second.peerId = first.peerId
  lease : second.leaseId = first.leaseId
  incarnation : second.incarnation = first.incarnation
  requestId : second.requestId = first.requestId
  resourceClass : second.resourceClass = first.resourceClass
  bytes : second.bytes = first.bytes
  expiresAtMs : second.expiresAtMs = first.expiresAtMs

theorem Progress.sameTerms {first second : Reservation} (progress : Progress nowMs first second) : SameTerms first second := by
  cases progress <;> constructor <;> rfl

theorem Progress.trans {first second third : Reservation} (before : Progress nowMs first second)
    (after : Progress nowMs second third) : Progress nowMs first third := by
  cases before with
  | stay => exact after
  | commit state =>
    cases after with
    | stay => exact .commit state
    | commit again => cases again
    | settle _ unused => exact .settle (.inl state) unused
  | settle pending unused =>
    cases after with
    | stay => exact .settle pending unused
    | commit state => rcases unused with rfl | rfl | rfl <;> cases state
    | settle again _ => rcases unused with rfl | rfl | rfl <;> rcases again with state | state <;> cases state

/-- Every reservation on record after a posting was there before or is the one just opened. -/
theorem Posting.origin (posting : Posting opens nowMs book later) {id : ReservationId} {reservation : Reservation}
    (found : later.accounts.get? id = some reservation) :
    (opens id reservation ∧ reservation.state = .reserved ∧ reservation.terminalAtMs = none) ∨
    ∃ earlier, book.accounts.get? id = some earlier ∧ Progress nowMs earlier reservation := by
  cases posting with
  | reserve allowed _ state unended =>
    rw [Ledger.charge_accounts, Table.get?_insert] at found
    split at found
    · cases found
      subst id
      exact .inl ⟨allowed, state, unended⟩
    · exact .inr ⟨_, found, .stay⟩
  | commit present state =>
    rw [Ledger.update_accounts, Table.get?_modify] at found
    split at found
    · subst id
      rw [present] at found
      cases found
      exact .inr ⟨_, present, .commit state⟩
    · exact .inr ⟨_, found, .stay⟩
  | settle present pending unused =>
    rw [Ledger.update_accounts, Ledger.giveBack_accounts, Table.get?_modify] at found
    split at found
    · subst id
      rw [present] at found
      cases found
      exact .inr ⟨_, present, .settle pending unused⟩
    · exact .inr ⟨_, found, .stay⟩
  | supersede | forget =>
    rw [Ledger.drop_accounts, Table.get?_erase] at found
    split at found
    · cases found
    · exact .inr ⟨_, found, .stay⟩
  | purge =>
    rw [Ledger.retain_accounts, Table.get?_retain_eq_some] at found
    exact .inr ⟨_, found.1, .stay⟩

theorem Postings.origin (postings : Postings opens nowMs book later) {id : ReservationId} {reservation : Reservation}
    (found : later.accounts.get? id = some reservation) :
    (∃ first, opens id first ∧ first.state = .reserved ∧ first.terminalAtMs = none ∧ Progress nowMs first reservation) ∨
    ∃ earlier, book.accounts.get? id = some earlier ∧ Progress nowMs earlier reservation := by
  induction postings generalizing reservation with
  | refl => exact .inr ⟨_, found, .stay⟩
  | tail _ posting ih =>
    rcases posting.origin found with ⟨allowed, state, unended⟩ | ⟨earlier, present, progress⟩
    · exact .inl ⟨_, allowed, state, unended, .stay⟩
    · rcases ih present with ⟨first, allowed, state, unended, before⟩ | ⟨oldest, there, before⟩
      · exact .inl ⟨first, allowed, state, unended, before.trans progress⟩
      · exact .inr ⟨oldest, there, before.trans progress⟩

/-- The two entries that a buffer or job makes in the ledger. -/
inductive Transfer (nowMs : Nat) (book : ReservationLedger) : ReservationLedger → Prop where
  | none : Transfer nowMs book book
  | consume {id reservation} (found : book.accounts.get? id = some reservation) (state : reservation.state = .committed) :
      Transfer nowMs book (book.update id fun entry => { entry with state := .consumed })
  | giveBack {id reservation} (found : book.accounts.get? id = some reservation) (state : reservation.state = .consumed) :
      Transfer nowMs book ((book.giveBack reservation.bytes).update id fun entry =>
        { entry with state := .consumedReleased, terminalAtMs := some nowMs })

theorem Transfer.booked (booked : Booked book)
    (transfer : Transfer nowMs book later) : Booked later := by
  cases transfer with
  | none => exact booked
  | consume found state => exact booked.update found (by rw [state]; rfl) rfl rfl rfl
  | giveBack found state => exact booked.giveBack found (by rw [state]; rfl) rfl

theorem Transfer.origin (transfer : Transfer nowMs book later)
    {id : ReservationId} {reservation : Reservation} (found : later.accounts.get? id = some reservation) :
    ∃ earlier, book.accounts.get? id = some earlier ∧ SameTerms earlier reservation := by
  cases transfer with
  | none => exact ⟨_, found, ⟨rfl, rfl, rfl, rfl, rfl, rfl, rfl⟩⟩
  | consume | giveBack =>
    simp only [Ledger.update_accounts, Ledger.giveBack_accounts, Table.get?_modify] at found
    split at found
    · obtain ⟨earlier, present, rfl⟩ := Option.map_eq_some_iff.mp found
      exact ⟨earlier, present, ⟨rfl, rfl, rfl, rfl, rfl, rfl, rfl⟩⟩
    · exact ⟨_, found, ⟨rfl, rfl, rfl, rfl, rfl, rfl, rfl⟩⟩

theorem terminate_posting {guard : ResourceGuard} {id : ReservationId} {reservation : Reservation} {state : ReservationState}
    (found : guard.reservations.get? id = some reservation) (pending : Pending reservation.state) (unused : Unused state)
    (leaseId : LeaseId) (requestId : UInt64) :
    Posting opens nowMs (ledger guard) (ledger (guard.terminate id reservation.bytes leaseId requestId state nowMs)) :=
  .settle found pending unused

variable (opens) in
theorem expireReserved_postings (guard : ResourceGuard) (nowMs : Nat) :
    Postings opens nowMs (ledger guard) (ledger (guard.expireReserved nowMs)) := by
  refine Table.select_induction ResourceGuard.reservations _ _ (fun state => Postings opens nowMs (ledger guard) (ledger state))
    ?_ ?_ guard .refl
  · intro state id reservation item other found selected different
    split at selected
    · cases selected
      exact Table.get?_modify_of_ne _ _ different
    · cases selected
  · intro state id reservation item found selected postings
    split at selected
    next due =>
      cases selected
      simp only [Bool.and_eq_true, decide_eq_true_eq] at due
      exact postings.tail (terminate_posting found (.inl due.1) (.inr (.inl rfl)) _ _)
    next => cases selected

theorem pending_or_unused {state : ReservationState} (free : state ≠ .consumed) (idle : state ≠ .consumedReleased) :
    Pending state ∨ Unused state := by
  cases state <;> simp_all [Pending, Unused]

variable (opens) in
theorem removeSuperseded_postings (guard : ResourceGuard) (nowMs : Nat) (leaseId : LeaseId)
    (incarnation : WorkerIncarnationId) :
    Postings opens nowMs (ledger guard) (ledger (guard.removeSuperseded leaseId incarnation)) := by
  refine Table.select_induction ResourceGuard.reservations _ _ (fun state => Postings opens nowMs (ledger guard) (ledger state))
    ?_ ?_ guard .refl
  · intro state id reservation item other found selected different
    split at selected
    · cases selected
      dsimp only
      split <;> exact Table.get?_erase_of_ne _ different
    · cases selected
  · intro state id reservation item found selected postings
    split at selected
    next gone =>
      cases selected
      simp only [ResourceGuard.superseded, Bool.and_eq_true, decide_eq_true_eq] at gone
      dsimp only
      rcases pending_or_unused gone.1.1 gone.1.2 with pending | unused
      · rw [if_pos (by rcases pending with same | same <;> simp [same])]
        exact postings.tail (.supersede found pending)
      · rw [if_neg (by rcases unused with same | same | same <;> simp [same])]
        exact postings.tail (.forget found unused)
    next => cases selected

theorem purge_posting (guard : ResourceGuard) (nowMs : Nat) (idempotence : Table (LeaseId × UInt64) IdempotenceEntry) :
    Posting opens nowMs (ledger guard) (ledger { guard with
      idempotence
      reservations := guard.reservations.retain fun _ reservation =>
        ResourceGuard.retained nowMs reservation.terminalAtMs }) := by
  show Posting opens nowMs (ledger guard) ((ledger guard).retain fun _ reservation =>
    ResourceGuard.retained nowMs reservation.terminalAtMs)
  apply Posting.purge
  intro id reservation _ dropped
  cases ended : reservation.terminalAtMs with
  | none => simp [ResourceGuard.retained, ended] at dropped
  | some terminal =>
    have passed : terminalRetentionMs + terminal < nowMs := by simpa [ResourceGuard.retained, ended] using dropped
    exact ⟨terminal, rfl, by omega⟩

variable (opens) in
theorem expireAndPurge_postings (guard : ResourceGuard) (nowMs : Nat) (leaseId : LeaseId)
    (incarnation : WorkerIncarnationId) :
    Postings opens nowMs (ledger guard) (ledger (guard.expireAndPurge nowMs leaseId incarnation)) :=
  ((removeSuperseded_postings opens guard nowMs leaseId incarnation).trans (expireReserved_postings opens _ nowMs)).tail
    (purge_posting _ nowMs _)

variable (opens) in
theorem tick_postings (guard : ResourceGuard) (nowMs : Nat) :
    Postings opens nowMs (ledger guard) (ledger (guard.tick nowMs)) :=
  (expireReserved_postings opens guard nowMs).tail (purge_posting _ nowMs _)

theorem budgetBytes_le (guard : ResourceGuard) (nowMs : Nat) : (guard.healthStatus nowMs).budgetBytes ≤ pocCapBytes := by
  unfold ResourceGuard.healthStatus
  split
  · exact Nat.zero_le _
  · dsimp only
    split
    · unfold pocBudget
      dsimp only
      split <;> omega
    · exact Nat.zero_le _

/-- The record that a granted request opens. -/
def opened (proof : LeaseProof) (request : ReserveRequest) (nowMs : Nat) : Reservation where
  peerId := proof.peerId
  leaseId := proof.leaseId
  incarnation := proof.incarnation
  requestId := request.requestId
  resourceClass := request.resourceClass
  bytes := request.bytes
  expiresAtMs := saturatingAdd nowMs reservationTtlMs
  state := .reserved
  terminalAtMs := none

/-- The verdicts on a request that the guard looked at and turned down. -/
def Refusal : ReservationDecision → Prop
  | .refusedSafety | .refusedBudget | .unknownResourceClass | .entropyUnavailable => True
  | _ => False

theorem decideReservation_cases (guard : ResourceGuard) (proof : LeaseProof) (request : ReserveRequest) (nowMs : Nat)
    (reads : Entropy) :
    (∃ decision, Refusal decision ∧
      guard.decideReservation proof request nowMs reads = (decision, guard)) ∨
    ∃ id, Opening proof nowMs reads id (opened proof request nowMs) ∧
      guard.allocatedBytes + request.bytes ≤ pocCapBytes ∧
      guard.decideReservation proof request nowMs reads = (.reserved id, { guard with
        allocatedBytes := guard.allocatedBytes + request.bytes
        reservations := guard.reservations.insert id (opened proof request nowMs) }) := by
  have budget := budgetBytes_le guard nowMs
  unfold ResourceGuard.decideReservation
  dsimp only
  split
  · exact .inl ⟨_, by trivial, rfl⟩
  next known =>
    split
    · exact .inl ⟨_, by trivial, rfl⟩
    next sized =>
      split
      · exact .inl ⟨_, by trivial, rfl⟩
      · split
        · exact .inl ⟨_, by trivial, rfl⟩
        next fits =>
          split
          · exact .inl ⟨_, by trivial, rfl⟩
          next bytes read =>
            simp only [Bool.or_eq_true, decide_eq_true_eq, not_or, Nat.not_lt] at sized fits
            obtain ⟨valid, member⟩ := randomNonzero128_drawn read
            have room : guard.allocatedBytes + request.bytes ≤ pocCapBytes := by omega
            have sum : saturatingAdd guard.allocatedBytes request.bytes = guard.allocatedBytes + request.bytes :=
              saturatingAdd_of_le (room.trans (by decide))
            refine .inr ⟨⟨bytes⟩, ⟨member, valid, rfl, rfl, rfl, known, ?_, sized.2, rfl⟩, room, ?_⟩
            · exact Nat.pos_of_ne_zero sized.1
            · rw [sum]
              rfl

theorem reservationSnapshot_guard (guard : ResourceGuard) (proof : LeaseProof) (reservationId : ReservationId)
    (nowMs : Nat) :
    (guard.reservationSnapshot proof reservationId nowMs).2 =
      guard.expireAndPurge nowMs proof.leaseId proof.incarnation := by
  unfold ResourceGuard.reservationSnapshot
  dsimp only
  split
  · rfl
  · split <;> rfl

theorem consume_cases (guard : ResourceGuard) (proof : LeaseProof) (reservationId : ReservationId)
    (resourceClass : ResourceClass) (exactBytes : Option Nat) (nowMs : Nat) :
    (∃ error, guard.consume proof reservationId resourceClass exactBytes nowMs =
      (.error error, guard.expireAndPurge nowMs proof.leaseId proof.incarnation)) ∨
    ∃ reservation, (guard.expireAndPurge nowMs proof.leaseId proof.incarnation).reservations.get? reservationId =
        some reservation ∧ reservation.state = .committed ∧ reservation.leaseId = proof.leaseId ∧
      reservation.resourceClass = resourceClass ∧ (∀ bytes ∈ exactBytes, reservation.bytes = bytes) ∧
      guard.consume proof reservationId resourceClass exactBytes nowMs =
        (.ok (), { guard.expireAndPurge nowMs proof.leaseId proof.incarnation with
          reservations := (guard.expireAndPurge nowMs proof.leaseId proof.incarnation).reservations.modify reservationId
            fun entry => { entry with state := .consumed } }) := by
  unfold ResourceGuard.consume
  dsimp only
  split
  · exact .inl ⟨_, rfl⟩
  next reservation found =>
    split
    · exact .inl ⟨_, rfl⟩
    next owned =>
      simp only [Bool.or_eq_true, decide_eq_true_eq, not_or, not_not, Option.any_eq_true, not_exists, not_and] at owned
      cases state : reservation.state with
      | committed => exact .inr ⟨reservation, found, state, owned.1.1.1.2, owned.1.2, owned.2, rfl⟩
      | reserved | released | expired | refusedSafety | consumed | consumedReleased => exact .inl ⟨_, rfl⟩

theorem releaseConsumed_cases (guard : ResourceGuard) (reservationId : ReservationId) (resourceClass : ResourceClass)
    (bytes nowMs : Nat) :
    (guard.releaseConsumed reservationId resourceClass bytes nowMs = guard ∧
      ∀ reservation, guard.reservations.get? reservationId = some reservation →
        ¬ (reservation.state = .consumed ∧ reservation.resourceClass = resourceClass ∧ reservation.bytes = bytes)) ∨
    ∃ reservation, guard.reservations.get? reservationId = some reservation ∧ reservation.state = .consumed ∧
      reservation.resourceClass = resourceClass ∧ reservation.bytes = bytes ∧
      guard.releaseConsumed reservationId resourceClass bytes nowMs = { guard with
        allocatedBytes := guard.allocatedBytes - bytes
        shortfall := guard.shortfall + (bytes - guard.allocatedBytes)
        reservations := guard.reservations.modify reservationId fun entry =>
          { entry with state := .consumedReleased, terminalAtMs := some nowMs } } := by
  unfold ResourceGuard.releaseConsumed
  split
  next absent => exact .inl ⟨rfl, by simp [absent]⟩
  next reservation found =>
    split
    next other =>
      simp only [Bool.or_eq_true, decide_eq_true_eq] at other
      refine .inl ⟨rfl, ?_⟩
      rintro stored present ⟨state, sameClass, sameBytes⟩
      rw [found, Option.some.injEq] at present
      subst stored
      simp [state, sameClass, sameBytes] at other
    next matching =>
      simp only [Bool.or_eq_true, decide_eq_true_eq, not_or, not_not] at matching
      exact .inr ⟨reservation, found, matching.1.1, matching.1.2, matching.2, rfl⟩

end PhoneBoost.Worker.Proofs
