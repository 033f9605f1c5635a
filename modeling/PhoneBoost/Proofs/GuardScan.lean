import PhoneBoost.Proofs.GuardLedger

/-! The two retention scans of the guard, record by record. Both are loops over
the reservations they select, and each lookup afterwards depends on the records
before them alone. -/

namespace PhoneBoost.Worker.Proofs
open Keyed ResourceGuard

variable {guard guard' : ResourceGuard} {nowMs : Nat}

def keyOf (reservation : Reservation) : LeaseId × UInt64 := (reservation.leaseId, reservation.requestId)

/-- A reservation that nobody committed in time. -/
def due (reservation : Reservation) (nowMs : Nat) : Bool :=
  reservation.state = .reserved && reservation.expiresAtMs ≤ nowMs

def lapsed (reservation : Reservation) (nowMs : Nat) : Reservation :=
  if due reservation nowMs then { reservation with state := .expired, terminalAtMs := some nowMs } else reservation

def closedAt (nowMs : Nat) (entry : IdempotenceEntry) : IdempotenceEntry := { entry with terminalAtMs := some nowMs }

/-- The reservations that a scan expires, as it collects them. -/
def lapsing (guard : ResourceGuard) (nowMs : Nat) : List (ReservationId × Nat × LeaseId × UInt64) :=
  guard.reservations.select fun id reservation =>
    if due reservation nowMs then some (id, reservation.bytes, reservation.leaseId, reservation.requestId) else none

theorem mem_lapsing (item : ReservationId × Nat × LeaseId × UInt64) :
    item ∈ lapsing guard nowMs ↔ ∃ id reservation, guard.reservations.get? id = some reservation ∧
      due reservation nowMs = true ∧ item = (id, reservation.bytes, reservation.leaseId, reservation.requestId) := by
  unfold lapsing
  rw [Table.mem_select]
  constructor
  · rintro ⟨id, reservation, found, chosen⟩
    split at chosen
    next gone => exact ⟨id, reservation, found, gone, (Option.some.inj chosen).symm⟩
    next => cases chosen
  · rintro ⟨id, reservation, found, gone, rfl⟩
    exact ⟨id, reservation, found, if_pos gone⟩

theorem get?_reservations_expireReserved (guard : ResourceGuard) (nowMs : Nat) (id : ReservationId) :
    (guard.expireReserved nowMs).reservations.get? id = (guard.reservations.get? id).map (lapsed · nowMs) := by
  let expire : Reservation → Reservation := fun entry => { entry with state := .expired, terminalAtMs := some nowMs }
  have table : (guard.expireReserved nowMs).reservations =
      (lapsing guard nowMs).foldl (fun table item => table.modify item.1 expire) guard.reservations :=
    (List.foldl_hom ResourceGuard.reservations fun _ _ => rfl).symm
  rw [table, Table.get?_foldl_modify (f := expire) Prod.fst fun _ => rfl]
  cases found : guard.reservations.get? id with
  | none => rfl
  | some reservation =>
    have chosen : id ∈ (lapsing guard nowMs).map Prod.fst ↔ due reservation nowMs = true := by
      simp only [List.mem_map, mem_lapsing]
      constructor
      · rintro ⟨_, ⟨other, stored, present, gone, rfl⟩, rfl⟩
        cases found.symm.trans present
        exact gone
      · exact fun gone => ⟨_, ⟨id, reservation, found, gone, rfl⟩, rfl⟩
    simp only [Option.map_some, lapsed, chosen, expire]

/-- The request under this key holds a reservation that a scan keeps on record and expires. -/
def Lapses (stays : Reservation → Bool) (guard : ResourceGuard) (nowMs : Nat) (key : LeaseId × UInt64) : Prop :=
  ∃ id reservation, guard.reservations.get? id = some reservation ∧ stays reservation = true ∧
    due reservation nowMs = true ∧ keyOf reservation = key

theorem get?_idempotence_expireReserved (guard : ResourceGuard) (nowMs : Nat) (key : LeaseId × UInt64)
    (after : IdempotenceEntry) :
    (guard.expireReserved nowMs).idempotence.get? key = some after ↔ ∃ entry, guard.idempotence.get? key = some entry ∧
      (Lapses (fun _ => true) guard nowMs key ∧ after = closedAt nowMs entry ∨
        ¬ Lapses (fun _ => true) guard nowMs key ∧ after = entry) := by
  have table : (guard.expireReserved nowMs).idempotence = (lapsing guard nowMs).foldl (fun table item =>
      table.modify (item.2.2.1, item.2.2.2) (closedAt nowMs)) guard.idempotence :=
    (List.foldl_hom ResourceGuard.idempotence fun _ _ => rfl).symm
  have chosen : key ∈ (lapsing guard nowMs).map (fun item => (item.2.2.1, item.2.2.2)) ↔ Lapses (fun _ => true) guard nowMs key := by
    simp only [List.mem_map, mem_lapsing, Lapses]
    constructor
    · rintro ⟨_, ⟨id, reservation, found, gone, rfl⟩, same⟩
      exact ⟨id, reservation, found, trivial, gone, same⟩
    · rintro ⟨id, reservation, found, _, gone, same⟩
      exact ⟨_, ⟨id, reservation, found, gone, rfl⟩, same⟩
  rw [table, Table.get?_foldl_modify (f := closedAt nowMs) _ fun _ => rfl, Option.map_eq_some_iff]
  refine exists_congr fun entry => and_congr_right fun _ => ?_
  by_cases lapses : Lapses (fun _ => true) guard nowMs key
  · rw [if_pos (chosen.mpr lapses)]
    simp [lapses, eq_comm]
  · rw [if_neg (mt chosen.mp lapses)]
    simp [lapses, eq_comm]

theorem get?_reservations_removeSuperseded (guard : ResourceGuard) (leaseId : LeaseId) (incarnation : WorkerIncarnationId)
    (id : ReservationId) :
    (guard.removeSuperseded leaseId incarnation).reservations.get? id =
      (guard.reservations.get? id).filter fun reservation => !superseded leaseId incarnation reservation := by
  unfold removeSuperseded
  dsimp only
  generalize gone_eq : guard.reservations.select _ = gone
  have table : (gone.foldl (fun guard (item : ReservationId × Nat × ReservationState) =>
      let guard := if item.2.2 = .reserved || item.2.2 = .committed then guard.releaseAllocation item.2.1 else guard
      { guard with reservations := guard.reservations.erase item.1 }) guard).reservations =
      gone.foldl (fun table item => table.erase item.1) guard.reservations := by
    refine (List.foldl_hom ResourceGuard.reservations ?_).symm
    intro guard item
    dsimp only
    split <;> rfl
  refine (congrArg (fun table => table.get? id) table).trans ?_
  rw [Table.get?_foldl_erase, ← gone_eq]
  cases found : guard.reservations.get? id with
  | none => simp
  | some reservation =>
    have chosen : id ∈ (guard.reservations.select fun id reservation =>
        if superseded leaseId incarnation reservation then some (id, reservation.bytes, reservation.state)
        else none).map Prod.fst ↔ superseded leaseId incarnation reservation = true := by
      simp only [List.mem_map, Table.mem_select]
      constructor
      · rintro ⟨item, ⟨other, stored, present, selected⟩, same⟩
        split at selected
        next gone =>
          cases selected
          cases same
          cases found.symm.trans present
          exact gone
        next => cases selected
      · exact fun gone => ⟨_, ⟨id, reservation, found, if_pos gone⟩, rfl⟩
    rw [Option.filter_some]
    cases gone : superseded leaseId incarnation reservation <;> simp [chosen, gone]

theorem idempotence_removeSuperseded (guard : ResourceGuard) (leaseId : LeaseId) (incarnation : WorkerIncarnationId) :
    (guard.removeSuperseded leaseId incarnation).idempotence = guard.idempotence := by
  unfold removeSuperseded
  dsimp only
  generalize guard.reservations.select _ = gone
  induction gone generalizing guard with
  | nil => rfl
  | cons item gone ih =>
    rw [List.foldl_cons, ih]
    dsimp only
    split <;> rfl

/-- The common shape of both retention scans: reservations that do not stay go
at once, those that nobody committed expire, and terminal records go after their
retention time, as do the idempotence entries. -/
structure Swept (nowMs : Nat) (stays : Reservation → Bool) (keeps : IdempotenceEntry → Bool)
    (guard guard' : ResourceGuard) : Prop where
  reservations : ∀ id after, guard'.reservations.get? id = some after ↔
    ∃ reservation, guard.reservations.get? id = some reservation ∧ stays reservation = true ∧
      lapsed reservation nowMs = after ∧ retained nowMs after.terminalAtMs = true
  idempotence : ∀ key after, guard'.idempotence.get? key = some after ↔
    ∃ entry, guard.idempotence.get? key = some entry ∧
      (Lapses stays guard nowMs key ∧ after = closedAt nowMs entry ∨ ¬ Lapses stays guard nowMs key ∧ after = entry) ∧
      keeps after = true ∧ retained nowMs after.terminalAtMs = true

theorem expireAndPurge_swept (guard : ResourceGuard) (nowMs : Nat) (leaseId : LeaseId) (incarnation : WorkerIncarnationId) :
    Swept nowMs (fun reservation => !superseded leaseId incarnation reservation)
      (fun entry => entry.leaseId = leaseId && entry.incarnation = incarnation)
      guard (guard.expireAndPurge nowMs leaseId incarnation) where
  reservations := by
    intro id after
    unfold expireAndPurge
    rw [Table.get?_retain_eq_some, get?_reservations_expireReserved, get?_reservations_removeSuperseded]
    simp only [Option.map_eq_some_iff, Option.filter_eq_some_iff, ← exists_and_right, and_assoc]
  idempotence := by
    intro key after
    unfold expireAndPurge
    rw [Table.get?_retain_eq_some, get?_idempotence_expireReserved, idempotence_removeSuperseded]
    simp only [Lapses, get?_reservations_removeSuperseded, Option.filter_eq_some_iff, ← exists_and_right, and_assoc,
      Bool.and_eq_true, true_and]

theorem tick_swept (guard : ResourceGuard) (nowMs : Nat) :
    Swept nowMs (fun _ => true) (fun _ => true) guard (guard.tick nowMs) where
  reservations := by
    intro id after
    unfold tick
    rw [Table.get?_retain_eq_some, get?_reservations_expireReserved]
    simp only [Option.map_eq_some_iff, ← exists_and_right, and_assoc, true_and]
  idempotence := by
    intro key after
    unfold tick
    rw [Table.get?_retain_eq_some, get?_idempotence_expireReserved]
    simp only [← exists_and_right, and_assoc, true_and]

end PhoneBoost.Worker.Proofs
