import Mathlib.Data.List.Basic
import Mathlib.Data.List.Nodup

/-! Identifiers, machine integers and the random source that all components
share. Clock readings and byte counts are `u64` values written as naturals:
`saturating_sub` is subtraction on `Nat`, additions are capped explicitly. -/

namespace PhoneBoost

abbrev Bytes16 := Vector UInt8 16
abbrev Bytes32 := Vector UInt8 32

def u32Max : Nat := 4294967295
def u64Max : Nat := 18446744073709551615

def saturatingAdd (a b : Nat) : Nat := if a ≤ u64Max - b then a + b else u64Max

def checkedAdd (a b : Nat) : Option Nat := if a + b ≤ u64Max then some (a + b) else none

theorem checkedAdd_eq_some {a b sum : Nat} : checkedAdd a b = some sum ↔ a + b ≤ u64Max ∧ sum = a + b := by
  unfold checkedAdd
  split
  next fits => simp [fits, eq_comm]
  next large => simp [large]

theorem saturatingAdd_of_le {a b : Nat} (fits : a + b ≤ u64Max) : saturatingAdd a b = a + b :=
  if_pos (Nat.le_sub_of_add_le fits)

theorem saturatingAdd_le (a b : Nat) : saturatingAdd a b ≤ a + b := by
  unfold saturatingAdd
  split <;> omega

theorem saturatingAdd_mono {a b c d : Nat} (fits : d ≤ u64Max) (first : a ≤ b) (second : c ≤ d) :
    saturatingAdd a c ≤ saturatingAdd b d := by
  unfold saturatingAdd
  split <;> split <;> omega

def nonzero (id : Bytes16) : Bool := id.toList.any (· != 0)

structure PeerId where
  bytes : Bytes32
deriving DecidableEq, Repr

structure LeaseId where
  bytes : Bytes16
deriving DecidableEq, Repr

structure WorkerIncarnationId where
  bytes : Bytes16
deriving DecidableEq, Repr

structure ReservationId where
  bytes : Bytes16
deriving DecidableEq, Repr

structure VerifiedSessionId where
  bytes : Bytes16
deriving DecidableEq, Repr

/-- The proof object of one authenticated session. Whether the session is still
live is asked again during a call, so the answers belong to the call. -/
structure VerifiedPeerSession where
  peerId : PeerId
  sessionId : VerifiedSessionId
deriving DecidableEq, Repr

/-- Outcomes of the successive 16-byte reads of the random device that a call
makes. An I/O error is `none`, and so is a read past the end. -/
abbrev Entropy := List (Option Bytes16)

def maxZeroRetries : Nat := 8

def readNonzero : Nat → Entropy → Option Bytes16 × Entropy
  | 0, reads => (none, reads)
  | _ + 1, [] => (none, [])
  | _ + 1, none :: reads => (none, reads)
  | retries + 1, some bytes :: reads => if nonzero bytes then (some bytes, reads) else readNonzero retries reads

def randomNonzero128 (reads : Entropy) : Option Bytes16 × Entropy := readNonzero maxZeroRetries reads

/-- Draws until an identifier is not taken; both stores give up after eight. -/
def drawUnused (taken : Bytes16 → Bool) : Nat → Entropy → Option Bytes16
  | 0, _ => none
  | attempts + 1, reads =>
    match randomNonzero128 reads with
    | (none, _) => none
    | (some id, reads) => if taken id then drawUnused taken attempts reads else some id

/-- The identifiers that a sequence of reads can hand out. -/
def drawn (reads : Entropy) : List Bytes16 := (reads.filterMap id).filter nonzero

private theorem readNonzero_spec (retries : Nat) (reads : Entropy) :
    (∀ id ∈ (readNonzero retries reads).1, nonzero id ∧ id ∈ drawn reads) ∧
    (readNonzero retries reads).2 <:+ reads := by
  induction retries generalizing reads with
  | zero => simp [readNonzero]
  | succ retries ih =>
    match reads with
    | [] => simp [readNonzero]
    | none :: reads => simp [readNonzero]
    | some bytes :: reads =>
      by_cases good : nonzero bytes = true
      · simp [readNonzero, good, drawn]
      · simp only [readNonzero, good, if_false, Bool.false_eq_true]
        refine ⟨fun id found => ?_, (ih reads).2.trans (List.suffix_cons _ _)⟩
        obtain ⟨valid, member⟩ := (ih reads).1 id found
        exact ⟨valid, by simpa [drawn, good] using member⟩

theorem randomNonzero128_drawn {reads : Entropy} {id : Bytes16} (found : (randomNonzero128 reads).1 = some id) :
    nonzero id = true ∧ id ∈ drawn reads :=
  (readNonzero_spec maxZeroRetries reads).1 id found

theorem drawn_randomNonzero128 (reads : Entropy) : drawn (randomNonzero128 reads).2 ⊆ drawn reads :=
  (((readNonzero_spec maxZeroRetries reads).2.sublist.filterMap id).filter nonzero).subset

theorem drawUnused_drawn {taken : Bytes16 → Bool} {attempts : Nat} {reads : Entropy} {id : Bytes16}
    (found : drawUnused taken attempts reads = some id) : taken id = false ∧ nonzero id = true ∧ id ∈ drawn reads := by
  induction attempts generalizing reads with
  | zero => cases found
  | succ attempts ih =>
    have rest := drawn_randomNonzero128 reads
    simp only [drawUnused] at found
    split at found
    next => cases found
    next other reads' read =>
      rw [read] at rest
      split at found
      · obtain ⟨free, valid, member⟩ := ih found
        exact ⟨free, valid, rest member⟩
      next free =>
        cases found
        exact ⟨by simpa using free, randomNonzero128_drawn (by rw [read])⟩

end PhoneBoost
