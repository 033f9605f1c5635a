import Mathlib.Data.List.Basic

/-! A list cut into consecutive pieces of one size; only the last may be shorter. -/

namespace Chunks
variable {α : Type u}

def chunksUpTo (size : Nat) : Nat → List α → List (List α)
  | 0, _ => []
  | _ + 1, [] => []
  | fuel + 1, input => input.take size :: chunksUpTo size fuel (input.drop size)

def chunks (size : Nat) (input : List α) : List (List α) := chunksUpTo size input.length input

theorem flatten_chunksUpTo {size : Nat} (positive : 0 < size) (fuel : Nat) (input : List α) (enough : input.length ≤ fuel) :
    (chunksUpTo size fuel input).flatten = input := by
  induction fuel generalizing input with
  | zero => exact (List.length_eq_zero_iff.mp (Nat.le_zero.mp enough)).symm
  | succ fuel ih =>
    cases input with
    | nil => rfl
    | cons first rest =>
      rw [chunksUpTo, List.flatten_cons, ih, List.take_append_drop]
      · simp only [List.length_drop, List.length_cons] at enough ⊢
        omega
      · simp

/-- Nothing is lost or moved by the cutting. -/
theorem flatten_chunks {size : Nat} (positive : 0 < size) (input : List α) : (chunks size input).flatten = input :=
  flatten_chunksUpTo positive input.length input (Nat.le_refl _)

end Chunks
