import Mathlib.Order.Interval.Set.LinearOrder

/-! Lists of half-open ranges as sets. Coalescing a list sorted by start keeps
its set and leaves a normal form, and the normal form of an interval is unique. -/

namespace Ranges
variable {α : Type u} [LinearOrder α]

def denote (ranges : List (α × α)) : Set α := {x | ∃ range ∈ ranges, range.1 ≤ x ∧ x < range.2}

/-- Nonempty ranges in order, with a gap between neighbours. -/
structure Normal (ranges : List (α × α)) : Prop where
  nonempty : ∀ range ∈ ranges, range.1 < range.2
  separated : ranges.Pairwise fun first second => first.2 < second.1

/-- The merge loop over ranges sorted by start. The last merged range is kept
apart because it alone can still grow. -/
def coalesce (last : α × α) : List (α × α) → List (α × α)
  | [] => [last]
  | (first, limit) :: ranges =>
    if first ≤ last.2 then coalesce (last.1, max last.2 limit) ranges
    else last :: coalesce (first, limit) ranges

theorem denote_nil : denote ([] : List (α × α)) = ∅ := by simp [denote]

theorem denote_cons (range : α × α) (ranges : List (α × α)) :
    denote (range :: ranges) = Set.Ico range.1 range.2 ∪ denote ranges := by
  ext x
  simp [denote]

theorem denote_append (first second : List (α × α)) : denote (first ++ second) = denote first ∪ denote second := by
  ext x
  simp [denote, or_and_right, exists_or]

theorem denote_perm {first second : List (α × α)} (perm : first.Perm second) : denote first = denote second := by
  ext x
  simp [denote, perm.mem_iff]

theorem denote_coalesce (last : α × α) (ranges : List (α × α)) (started : last.1 ≤ last.2)
    (ordered : (last :: ranges).Pairwise fun first second => first.1 ≤ second.1)
    (nonempty : ∀ range ∈ ranges, range.1 < range.2) :
    denote (coalesce last ranges) = denote (last :: ranges) := by
  induction ranges generalizing last with
  | nil => rfl
  | cons range ranges ih =>
    obtain ⟨first, limit⟩ := range
    simp only [List.pairwise_cons, List.mem_cons, forall_eq_or_imp] at ordered nonempty
    obtain ⟨⟨after, others⟩, next, rest⟩ := ordered
    have here : first < limit := nonempty.1
    rw [coalesce]
    split
    next touching =>
      rw [ih (last.1, max last.2 limit) (started.trans (le_max_left _ _)) (List.pairwise_cons.mpr ⟨others, rest⟩) nonempty.2]
      rw [denote_cons, denote_cons, denote_cons, ← Set.union_assoc]
      congr 1
      rw [Set.Ico_union_Ico' touching (after.trans here.le), min_eq_left after]
    next =>
      rw [denote_cons, ih (first, limit) here.le (List.pairwise_cons.mpr ⟨next, rest⟩) nonempty.2, denote_cons last]

theorem normal_coalesce (last : α × α) (ranges : List (α × α)) (started : last.1 < last.2)
    (ordered : (last :: ranges).Pairwise fun first second => first.1 ≤ second.1)
    (nonempty : ∀ range ∈ ranges, range.1 < range.2) :
    Normal (coalesce last ranges) ∧ ∀ range ∈ coalesce last ranges, last.1 ≤ range.1 := by
  induction ranges generalizing last with
  | nil => exact ⟨⟨by simpa [coalesce] using started, by simp [coalesce]⟩, by simp [coalesce]⟩
  | cons range ranges ih =>
    obtain ⟨first, limit⟩ := range
    simp only [List.pairwise_cons, List.mem_cons, forall_eq_or_imp] at ordered nonempty
    obtain ⟨⟨after, others⟩, next, rest⟩ := ordered
    rw [coalesce]
    split
    next touching =>
      exact ih (last.1, max last.2 limit) (started.trans_le (le_max_left _ _)) (List.pairwise_cons.mpr ⟨others, rest⟩)
        nonempty.2
    next apart =>
      obtain ⟨normal, starts⟩ := ih (first, limit) nonempty.1 (List.pairwise_cons.mpr ⟨next, rest⟩) nonempty.2
      refine ⟨⟨?_, ?_⟩, ?_⟩
      · simpa [started] using normal.nonempty
      · exact List.pairwise_cons.mpr ⟨fun range member => (not_le.mp apart).trans_le (starts range member), normal.separated⟩
      · simpa using fun a b member => after.trans (starts (a, b) member)

/-- A normal form that covers exactly one interval is that interval. -/
theorem Normal.eq_singleton {ranges : List (α × α)} (normal : Normal ranges) {a b : α} (below : a < b)
    (full : denote ranges = Set.Ico a b) : ranges = [(a, b)] := by
  cases ranges with
  | nil => exact absurd (full ▸ Set.left_mem_Ico.mpr below : a ∈ denote []) (by simp [denote])
  | cons range rest =>
    have inside : range.1 < range.2 := normal.nonempty range (by simp)
    obtain ⟨gap, _⟩ := List.pairwise_cons.mp normal.separated
    have start : range.1 ∈ Set.Ico a b := full ▸ ⟨range, by simp, le_rfl, inside⟩
    have outside : ∀ x, range.2 ≤ x → (∀ other ∈ rest, x < other.1) → x ∉ Set.Ico a b := by
      intro x past before member
      rw [← full, denote_cons] at member
      rcases member with ⟨_, early⟩ | ⟨other, present, above, _⟩
      · exact absurd early (not_lt.mpr past)
      · exact absurd above (not_le.mpr (before other present))
    have limit : b ≤ range.2 := by
      by_contra short
      exact outside range.2 le_rfl (fun other member => gap other member) ⟨start.1.trans inside.le, not_le.mp short⟩
    have first : range.1 = a := by
      refine le_antisymm ?_ start.1
      obtain ⟨other, member, above, _⟩ : a ∈ denote (range :: rest) := full ▸ Set.left_mem_Ico.mpr below
      rcases List.mem_cons.mp member with rfl | later
      · exact above
      · exact (inside.trans (gap other later)).le.trans above
    have last : range.2 = b := by
      refine le_antisymm ?_ limit
      by_contra long
      have covered : b ∈ Set.Ico a b := full ▸ ⟨range, by simp, start.2.le, not_le.mp long⟩
      exact lt_irrefl b covered.2
    cases rest with
    | nil => simp [← first, ← last]
    | cons next rest =>
      have covered : next.1 ∈ Set.Ico a b :=
        full ▸ ⟨next, by simp, le_rfl, normal.nonempty next (by simp)⟩
      exact absurd (covered.2.trans_le limit) (not_lt.mpr (gap next (by simp)).le)

end Ranges
