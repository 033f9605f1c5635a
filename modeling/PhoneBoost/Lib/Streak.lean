import Mathlib.Data.List.Basic

/-! Debouncing. A timer remembers when the current streak of items with some
property began; the streak completes when an item extends it for long enough. -/

namespace Streak
variable {α : Type u} {time : α → Nat} {P : α → Prop} {history : List α} {item : α} {since span : Nat}

/-- The history ends in an unbroken run of items with the property, and the
first of them came at the time `since`. -/
def Running (time : α → Nat) (P : α → Prop) (history : List α) (since : Nat) : Prop :=
  ∃ earlier first rest, history = earlier ++ first :: rest ∧ time first = since ∧ ∀ item ∈ first :: rest, P item

/-- The item is the last of at least two in a run with the property that spans
this much time. -/
def Completes (time : α → Nat) (P : α → Prop) (span : Nat) (history : List α) (item : α) : Prop :=
  ∃ earlier first rest, history = earlier ++ first :: rest ∧ (∀ previous ∈ first :: rest, P previous) ∧ P item ∧
    time first + span ≤ time item

theorem Running.start (holds : P item) (history : List α) : Running time P (history ++ [item]) (time item) :=
  ⟨history, item, [], rfl, rfl, by simpa using holds⟩

theorem Running.extend (running : Running time P history since) (holds : P item) :
    Running time P (history ++ [item]) since := by
  obtain ⟨earlier, first, rest, rfl, began, all⟩ := running
  refine ⟨earlier, first, rest ++ [item], by simp, began, ?_⟩
  intro other member
  rw [← List.cons_append, List.mem_append, List.mem_singleton] at member
  rcases member with member | rfl
  · exact all other member
  · exact holds

theorem Running.completes (running : Running time P history since) (holds : P item) (long : since + span ≤ time item) :
    Completes time P span history item := by
  obtain ⟨earlier, first, rest, split, rfl, all⟩ := running
  exact ⟨earlier, first, rest, split, all, holds, long⟩

end Streak
