import Mathlib.Data.List.Nodup
import Mathlib.Logic.Function.Basic
import Mathlib.Algebra.Order.BigOperators.Group.List
import Mathlib.Algebra.BigOperators.Group.List.Basic
import Mathlib.Algebra.Order.Ring.Canonical
import Mathlib.Algebra.Order.Ring.Nat

/-! Finite tables with one row for each key. Lookups describe every operation,
and weighted totals follow single row updates. Row order is never observed. -/

namespace Keyed

@[ext]
structure Table (κ : Type u) (ν : Type v) where
  rows : List (κ × ν)
  distinct : (rows.map Prod.fst).Nodup
deriving DecidableEq

namespace Table
variable {κ : Type u} {ν : Type v} {μ : Type w} {σ : Type x}

def empty : Table κ ν := ⟨[], List.nodup_nil⟩

/-- Rewrite or drop each row. Every bulk operation below is an instance. -/
def filterMap (t : Table κ ν) (f : κ → ν → Option μ) : Table κ μ where
  rows := t.rows.filterMap fun row => (f row.1 row.2).map (row.1, ·)
  distinct := by
    have keys : ((t.rows.filterMap fun row => (f row.1 row.2).map (row.1, ·)).map Prod.fst).Sublist
        (t.rows.map Prod.fst) := by
      induction t.rows with
      | nil => simp
      | cons row rows ih =>
        cases kept : f row.1 row.2 with
        | none => simpa [kept] using ih.cons row.1
        | some value => simpa [kept] using ih.cons_cons row.1
    exact keys.nodup t.distinct

def retain (t : Table κ ν) (keep : κ → ν → Bool) : Table κ ν :=
  t.filterMap fun key value => if keep key value then some value else none

/-- The rows selected by a scan, in table order. -/
def select (t : Table κ ν) (f : κ → ν → Option μ) : List μ := t.rows.filterMap fun row => f row.1 row.2

def total (t : Table κ ν) (weight : κ → ν → Nat) : Nat := (t.rows.map fun row => weight row.1 row.2).sum

def count (t : Table κ ν) (test : κ → ν → Bool) : Nat := t.rows.countP fun row => test row.1 row.2

def size (t : Table κ ν) : Nat := t.rows.length

theorem total_filterMap (t : Table κ ν) (f : κ → ν → Option μ) (weight : κ → μ → Nat) :
    (t.filterMap f).total weight = t.total fun key value => ((f key value).map (weight key)).getD 0 := by
  simp only [total, filterMap]
  induction t.rows with
  | nil => rfl
  | cons row rows ih => cases kept : f row.1 row.2 <;> simp [kept, ih]

theorem total_add (t : Table κ ν) (first second : κ → ν → Nat) :
    (t.total fun key value => first key value + second key value) = t.total first + t.total second := by
  simp only [total]
  exact List.sum_map_add

theorem count_eq_total (t : Table κ ν) (test : κ → ν → Bool) :
    t.count test = t.total fun key value => if test key value then 1 else 0 := by
  simp only [count, total]
  induction t.rows with
  | nil => rfl
  | cons row rows ih => by_cases passes : test row.1 row.2 <;> simp [passes, ih, Nat.add_comm]

private theorem total_split {rows : List (κ × ν)} (distinct : (rows.map Prod.fst).Nodup) {key : κ} {value : ν}
    (member : (key, value) ∈ rows) (weight changed : κ → ν → Nat)
    (same : ∀ other stored, other ≠ key → weight other stored = changed other stored) :
    (rows.map fun row => weight row.1 row.2).sum + changed key value =
      (rows.map fun row => changed row.1 row.2).sum + weight key value := by
  induction rows with
  | nil => simp at member
  | cons row rows ih =>
    simp only [List.map_cons, List.nodup_cons] at distinct
    simp only [List.map_cons, List.sum_cons]
    rcases List.mem_cons.mp member with rfl | inside
    · have rest : (rows.map fun row => weight row.1 row.2) = rows.map fun row => changed row.1 row.2 := by
        apply List.map_congr_left
        intro other present
        exact same _ _ fun equal => distinct.1 (List.mem_map.mpr ⟨other, present, equal⟩)
      rw [rest]
      dsimp only
      omega
    · have head : weight row.1 row.2 = changed row.1 row.2 :=
        same _ _ fun equal => distinct.1 (List.mem_map.mpr ⟨_, inside, equal.symm⟩)
      have rest := ih distinct.2 inside
      omega

/-- A loop over all values that threads a second state, in row order. -/
def sweepRows (f : σ → ν → ν × σ) : σ → List (κ × ν) → List (κ × ν) × σ
  | state, [] => ([], state)
  | state, (key, value) :: rows =>
    let (value, state) := f state value
    let (rows, state) := sweepRows f state rows
    ((key, value) :: rows, state)

theorem sweepRows_keys (f : σ → ν → ν × σ) (state : σ) (rows : List (κ × ν)) :
    (sweepRows f state rows).1.map Prod.fst = rows.map Prod.fst := by
  induction rows generalizing state with
  | nil => rfl
  | cons row rows ih => simp [sweepRows, ih]

def sweep (t : Table κ ν) (f : σ → ν → ν × σ) (state : σ) : Table κ ν × σ :=
  (⟨(sweepRows f state t.rows).1, by rw [sweepRows_keys]; exact t.distinct⟩, (sweepRows f state t.rows).2)

section Lookup
variable [DecidableEq κ]

def get? (t : Table κ ν) (key : κ) : Option ν := (t.rows.find? fun row => row.1 = key).map Prod.snd

def erase (t : Table κ ν) (key : κ) : Table κ ν :=
  t.filterMap fun other value => if other = key then none else some value

def modify (t : Table κ ν) (key : κ) (f : ν → ν) : Table κ ν :=
  t.filterMap fun other value => some (if other = key then f value else value)

def insert (t : Table κ ν) (key : κ) (value : ν) : Table κ ν where
  rows := (t.erase key).rows ++ [(key, value)]
  distinct := by
    rw [List.map_append, List.nodup_append]
    refine ⟨(t.erase key).distinct, by simp, ?_⟩
    rintro first member last single rfl
    obtain ⟨row, inside, same⟩ := List.mem_map.mp member
    obtain ⟨original, _, kept⟩ := List.mem_filterMap.mp inside
    have absent : original.1 ≠ key := by
      intro equal
      simp [equal] at kept
    have rowKey : row.1 = original.1 := by simpa [absent, eq_comm] using congrArg (Option.map Prod.fst) kept.symm
    simp only [List.map_cons, List.map_nil, List.mem_singleton] at single
    exact absent (rowKey.symm.trans (same.trans single))

theorem get?_eq_some_iff (t : Table κ ν) (key : κ) (value : ν) :
    t.get? key = some value ↔ (key, value) ∈ t.rows := by
  obtain ⟨rows, distinct⟩ := t
  simp only [get?]
  induction rows with
  | nil => simp
  | cons row rows ih =>
    obtain ⟨other, stored⟩ := row
    simp only [List.map_cons, List.nodup_cons] at distinct
    by_cases same : other = key
    · subst other
      have absent : (key, value) ∉ rows := fun member => distinct.1 (List.mem_map.mpr ⟨_, member, rfl⟩)
      simp [absent, eq_comm]
    · simpa [same, Ne.symm same] using ih distinct.2

theorem get?_eq_none_iff (t : Table κ ν) (key : κ) : t.get? key = none ↔ ∀ row ∈ t.rows, row.1 ≠ key := by
  simp [get?, List.find?_eq_none]

private theorem get?_congr {t : Table κ ν} {s : Table κ μ} {key : κ} {f : ν → Option μ}
    (rows : ∀ value, (key, value) ∈ s.rows ↔ ∃ old, (key, old) ∈ t.rows ∧ f old = some value) :
    s.get? key = (t.get? key).bind f := by
  apply Option.ext
  intro value
  simp only [get?_eq_some_iff, Option.bind_eq_some_iff, rows]

@[simp] theorem get?_empty (key : κ) : (empty : Table κ ν).get? key = none := rfl

@[simp] theorem get?_filterMap (t : Table κ ν) (f : κ → ν → Option μ) (key : κ) :
    (t.filterMap f).get? key = (t.get? key).bind (f key) := by
  apply get?_congr
  intro value
  simp only [filterMap, List.mem_filterMap, Prod.exists, Option.map_eq_some_iff, Prod.mk.injEq]
  constructor
  · rintro ⟨other, old, member, kept, found, rfl, rfl⟩
    exact ⟨old, member, found⟩
  · rintro ⟨old, member, found⟩
    exact ⟨key, old, member, value, found, rfl, rfl⟩

theorem get?_retain (t : Table κ ν) (keep : κ → ν → Bool) (key : κ) :
    (t.retain keep).get? key = (t.get? key).filter (keep key) := by
  cases found : t.get? key <;> simp [retain, found, Option.filter]

@[simp] theorem get?_retain_eq_some (t : Table κ ν) (keep : κ → ν → Bool) (key : κ) (value : ν) :
    (t.retain keep).get? key = some value ↔ t.get? key = some value ∧ keep key value = true := by
  rw [get?_retain, Option.filter_eq_some_iff]

theorem get?_erase (t : Table κ ν) (key other : κ) :
    (t.erase key).get? other = if other = key then none else t.get? other := by
  by_cases same : other = key <;> cases found : t.get? other <;> simp [erase, found, same]

@[simp] theorem get?_erase_self (t : Table κ ν) (key : κ) : (t.erase key).get? key = none := by
  simp [get?_erase]

theorem get?_erase_of_ne (t : Table κ ν) {key other : κ} (different : other ≠ key) :
    (t.erase key).get? other = t.get? other := by
  simp [get?_erase, different]

theorem get?_modify (t : Table κ ν) (key other : κ) (f : ν → ν) :
    (t.modify key f).get? other = if other = key then (t.get? other).map f else t.get? other := by
  by_cases same : other = key
  · subst other
    cases found : t.get? key <;> simp [modify, found]
  · cases found : t.get? other <;> simp [modify, found, same]

@[simp] theorem get?_modify_self (t : Table κ ν) (key : κ) (f : ν → ν) :
    (t.modify key f).get? key = (t.get? key).map f := by
  simp [get?_modify]

theorem get?_modify_of_ne (t : Table κ ν) {key other : κ} (f : ν → ν) (different : other ≠ key) :
    (t.modify key f).get? other = t.get? other := by
  simp [get?_modify, different]

theorem get?_insert (t : Table κ ν) (key other : κ) (value : ν) :
    (t.insert key value).get? other = if other = key then some value else t.get? other := by
  by_cases same : other = key
  · subst other
    simp [insert, get?_eq_some_iff]
  · rw [if_neg same, ← get?_erase_of_ne t same]
    apply Option.ext
    intro stored
    simp [insert, get?_eq_some_iff, same]

@[simp] theorem get?_insert_self (t : Table κ ν) (key : κ) (value : ν) :
    (t.insert key value).get? key = some value := by
  simp [get?_insert]

theorem get?_insert_of_ne (t : Table κ ν) {key other : κ} (value : ν) (different : other ≠ key) :
    (t.insert key value).get? other = t.get? other := by
  simp [get?_insert, different]

theorem erase_of_absent {t : Table κ ν} {key : κ} (absent : t.get? key = none) : t.erase key = t := by
  apply Table.ext
  have different := (get?_eq_none_iff t key).mp absent
  simp only [erase, filterMap]
  calc
    t.rows.filterMap (fun row => (if row.1 = key then none else some row.2).map (row.1, ·)) = t.rows.filterMap some := by
      apply List.filterMap_congr
      intro row member
      simp [different row member]
    _ = t.rows := List.filterMap_some

theorem rows_filterMap_insert (t : Table κ ν) (key : κ) (value : ν) (f : κ → ν → Option μ) :
    ((t.insert key value).filterMap f).rows = ((t.erase key).filterMap f).rows ++ ((f key value).map (key, ·)).toList := by
  show ((t.erase key).rows ++ [(key, value)]).filterMap _ = _
  rw [List.filterMap_append]
  cases kept : f key value <;> simp [filterMap, kept]

theorem erase_insert_same (t : Table κ ν) (key : κ) (value : ν) : (t.insert key value).erase key = t.erase key := by
  apply Table.ext
  have gone : (t.erase key).erase key = t.erase key := erase_of_absent (get?_erase_self t key)
  rw [erase, rows_filterMap_insert, if_pos rfl]
  exact (List.append_nil _).trans (congrArg rows gone)

/-- A row that was put in and taken out again leaves no trace. -/
theorem erase_insert {t : Table κ ν} {key : κ} (absent : t.get? key = none) (value : ν) :
    (t.insert key value).erase key = t := by
  rw [erase_insert_same, erase_of_absent absent]

theorem keys_insert (t : Table κ ν) (key : κ) (value : ν) :
    (t.insert key value).rows.map Prod.fst = (t.rows.map Prod.fst).filter (· ≠ key) ++ [key] := by
  simp only [insert, erase, filterMap, List.map_append, List.map_cons, List.map_nil]
  congr 1
  induction t.rows with
  | nil => rfl
  | cons row rows ih => by_cases same : row.1 = key <;> simp [same, ih]

/-- Rows agree with lookups, so a total only sees the values that a lookup returns. -/
theorem total_congr {t : Table κ ν} {first second : κ → ν → Nat}
    (same : ∀ key value, t.get? key = some value → first key value = second key value) :
    t.total first = t.total second := by
  unfold total
  congr 1
  apply List.map_congr_left
  intro row member
  exact same row.1 row.2 ((t.get?_eq_some_iff _ _).mpr member)

theorem le_total {t : Table κ ν} (weight : κ → ν → Nat) {key : κ} {value : ν}
    (found : t.get? key = some value) : weight key value ≤ t.total weight := by
  apply List.le_sum_of_mem
  exact List.mem_map.mpr ⟨_, (t.get?_eq_some_iff _ _).mp found, rfl⟩

/-- A scan that touches only one row changes the total by what that row weighs. -/
theorem total_filterMap_only {t : Table κ ν} {key : κ} {value : ν} (found : t.get? key = some value) (f : κ → ν → Option ν)
    (only : ∀ other stored, other ≠ key → f other stored = some stored) (weight : κ → ν → Nat) :
    (t.filterMap f).total weight + weight key value = t.total weight + ((f key value).map (weight key)).getD 0 := by
  rw [total_filterMap]
  refine (total_split t.distinct ((t.get?_eq_some_iff _ _).mp found) weight
    (fun other stored => ((f other stored).map (weight other)).getD 0) fun other stored different => ?_).symm
  rw [only other stored different]
  rfl

theorem total_erase {t : Table κ ν} {key : κ} {value : ν} (found : t.get? key = some value)
    (weight : κ → ν → Nat) : (t.erase key).total weight + weight key value = t.total weight := by
  have moved := total_filterMap_only found (fun other stored => if other = key then none else some stored)
    (fun _ _ different => if_neg different) weight
  rwa [if_pos rfl] at moved

theorem total_modify {t : Table κ ν} {key : κ} {value : ν} (found : t.get? key = some value)
    (f : ν → ν) (weight : κ → ν → Nat) :
    (t.modify key f).total weight + weight key value = t.total weight + weight key (f value) := by
  have moved := total_filterMap_only found (fun other stored => some (if other = key then f stored else stored))
    (fun _ _ different => by rw [if_neg different]) weight
  rwa [if_pos rfl] at moved

theorem total_insert {t : Table κ ν} {key : κ} (absent : t.get? key = none) (value : ν) (weight : κ → ν → Nat) :
    (t.insert key value).total weight = t.total weight + weight key value := by
  have kept : (t.erase key).total weight = t.total weight := by
    rw [erase, total_filterMap]
    apply total_congr
    intro other stored found
    have different : other ≠ key := by
      rintro rfl
      simp [absent] at found
    simp [different]
  simpa [total, insert] using kept

theorem total_retain {t : Table κ ν} {keep : κ → ν → Bool} {weight : κ → ν → Nat}
    (dropped : ∀ key value, t.get? key = some value → keep key value = false → weight key value = 0) :
    (t.retain keep).total weight = t.total weight := by
  rw [retain, total_filterMap]
  apply total_congr
  intro key value found
  cases kept : keep key value with
  | true => simp
  | false => simp [dropped key value found kept]

omit [DecidableEq κ] in
theorem total_retain_le (t : Table κ ν) (keep : κ → ν → Bool) (weight : κ → ν → Nat) :
    (t.retain keep).total weight ≤ t.total weight := by
  rw [retain, total_filterMap]
  apply List.sum_le_sum
  intro row _
  cases kept : keep row.1 row.2 <;> simp [kept]

theorem total_modify_le {t : Table κ ν} {key : κ} {value : ν} (found : t.get? key = some value) {f : ν → ν}
    {weight : κ → ν → Nat} (less : weight key (f value) ≤ weight key value) :
    (t.modify key f).total weight ≤ t.total weight := by
  have moved := total_modify found f weight
  omega

private theorem modify_rows {first rest : List (κ × ν)} {key : κ} {value : ν} (f : ν → ν)
    (distinct : ((first ++ (key, value) :: rest).map Prod.fst).Nodup) :
    (modify ⟨first ++ (key, value) :: rest, distinct⟩ key f).rows = first ++ (key, f value) :: rest := by
  have split := distinct
  simp only [List.map_append, List.map_cons, List.nodup_append, List.nodup_cons] at split
  have keeps : ∀ rows : List (κ × ν), (∀ row ∈ rows, row.1 ≠ key) →
      rows.filterMap (fun row => some (row.1, if row.1 = key then f row.2 else row.2)) = rows := by
    intro rows others
    induction rows with
    | nil => rfl
    | cons row rows ih =>
      have head := others row (by simp)
      simp only [List.filterMap_cons, head, if_false]
      rw [ih fun other member => others other (by simp [member])]
  have before : ∀ row ∈ first, row.1 ≠ key := fun row member same =>
    split.2.2 row.1 (List.mem_map.mpr ⟨row, member, rfl⟩) key (by simp) same
  have after : ∀ row ∈ rest, row.1 ≠ key := fun row member same =>
    split.2.1.1 (List.mem_map.mpr ⟨row, member, same⟩)
  simp only [modify, filterMap, List.filterMap_append, List.filterMap_cons, if_true, Option.map_some]
  rw [keeps first before, keeps rest after]

/-- Writing back the stored value changes nothing. -/
theorem modify_self {t : Table κ ν} {key : κ} {value : ν} (found : t.get? key = some value) :
    t.modify key (fun _ => value) = t := by
  apply Table.ext
  have same : ∀ row ∈ t.rows, some (row.1, if row.1 = key then value else row.2) = some row := by
    intro row member
    by_cases equal : row.1 = key
    · have stored := (t.get?_eq_some_iff row.1 row.2).mpr member
      rw [equal, found, Option.some.injEq] at stored
      simp [equal, stored, Prod.ext_iff]
    · simp [equal]
  simp only [modify, filterMap, Option.map_some]
  calc t.rows.filterMap (fun row => some (row.1, if row.1 = key then value else row.2))
      = t.rows.filterMap some := List.filterMap_congr same
    _ = t.rows := List.filterMap_some

/-- A sweep is a sequence of single row updates. Whatever one update preserves,
with the loop state threaded through it, the whole sweep preserves. -/
theorem sweep_induction (P : Table κ ν → σ → Prop) (f : σ → ν → ν × σ)
    (step : ∀ table state key value, table.get? key = some value → P table state →
      P (table.modify key fun _ => (f state value).1) (f state value).2)
    (t : Table κ ν) (state : σ) (holds : P t state) : P (t.sweep f state).1 (t.sweep f state).2 := by
  have loop : ∀ (rest first : List (κ × ν)) (state : σ) (distinct : ((first ++ rest).map Prod.fst).Nodup)
      (result : ((first ++ (sweepRows f state rest).1).map Prod.fst).Nodup),
      P ⟨first ++ rest, distinct⟩ state →
      P ⟨first ++ (sweepRows f state rest).1, result⟩ (sweepRows f state rest).2 := by
    intro rest
    induction rest with
    | nil => intro first state _ _ holds; exact holds
    | cons row rest ih =>
      obtain ⟨key, value⟩ := row
      intro first state distinct result holds
      have found : (⟨first ++ (key, value) :: rest, distinct⟩ : Table κ ν).get? key = some value :=
        (get?_eq_some_iff _ _ _).mpr (by simp)
      have updated := step _ state key value found holds
      have rows := modify_rows (fun _ => (f state value).1) distinct
      have next : P ⟨(first ++ [(key, (f state value).1)]) ++ rest, by simpa using distinct⟩ (f state value).2 := by
        convert updated using 1
        apply Table.ext
        rw [rows]
        simp
      have final := ih (first ++ [(key, (f state value).1)]) (f state value).2 (by simpa using distinct)
        (by simpa [sweepRows] using result) next
      simpa [sweepRows] using final
  exact loop t.rows [] state (by simpa using t.distinct) (by simpa [sweepRows_keys] using t.distinct) holds

theorem total_sweep_le (t : Table κ ν) (f : σ → ν → ν × σ) (state : σ) (weight : κ → ν → Nat)
    (less : ∀ state key value, weight key (f state value).1 ≤ weight key value) :
    (t.sweep f state).1.total weight ≤ t.total weight := by
  apply sweep_induction (fun table _ => table.total weight ≤ t.total weight) f _ t state le_rfl
  intro table state key value found holds
  exact (total_modify_le found (less state key value)).trans holds

/-- When the new value does not depend on the loop state, a sweep maps the values. -/
theorem get?_sweep (t : Table κ ν) (f : σ → ν → ν × σ) (g : ν → ν) (same : ∀ state value, (f state value).1 = g value)
    (state : σ) (key : κ) : (t.sweep f state).1.get? key = (t.get? key).map g := by
  have rows : ∀ (rows : List (κ × ν)) (state : σ),
      (sweepRows f state rows).1 = rows.map fun row => (row.1, g row.2) := by
    intro rows
    induction rows with
    | nil => intro _; rfl
    | cons row rows ih => intro state; simp [sweepRows, same, ih]
  apply Option.ext
  intro value
  simp [sweep, get?_eq_some_iff, rows, Option.map_eq_some_iff, get?_eq_some_iff]

/-- A loop over rows collected beforehand, each of whose steps leaves the other
rows alone, finds every row as it was collected. -/
theorem select_induction (table : σ → Table κ ν) (f : κ → ν → Option μ) (body : σ → μ → σ) (P : σ → Prop)
    (frame : ∀ state key value item other, (table state).get? key = some value → f key value = some item →
      other ≠ key → (table (body state item)).get? other = (table state).get? other)
    (step : ∀ state key value item, (table state).get? key = some value → f key value = some item →
      P state → P (body state item))
    (state : σ) (holds : P state) : P (((table state).select f).foldl body state) := by
  have loop : ∀ (rows : List (κ × ν)) (state : σ), (rows.map Prod.fst).Nodup →
      (∀ row ∈ rows, (table state).get? row.1 = some row.2) → P state →
      P ((rows.filterMap fun row => f row.1 row.2).foldl body state) := by
    intro rows
    induction rows with
    | nil => intro state _ _ holds; exact holds
    | cons row rows ih =>
      intro state distinct found holds
      simp only [List.map_cons, List.nodup_cons] at distinct
      have here := found row (by simp)
      cases selected : f row.1 row.2 with
      | none =>
        simpa [selected] using ih state distinct.2 (fun other member => found other (by simp [member])) holds
      | some item =>
        simp only [List.filterMap_cons, selected, List.foldl_cons]
        apply ih _ distinct.2 _ (step state row.1 row.2 item here selected holds)
        intro other member
        rw [frame state row.1 row.2 item other.1 here selected ?_]
        · exact found other (by simp [member])
        · exact fun same => distinct.1 (List.mem_map.mpr ⟨other, member, same⟩)
  exact loop _ state (table state).distinct
    (fun row member => (get?_eq_some_iff _ _ _).mpr member) holds

/-- A loop that makes the same idempotent change under each key it meets. -/
theorem get?_foldl_modify (keyOf : μ → κ) {f : ν → ν} (twice : ∀ value, f (f value) = f value) (items : List μ)
    (t : Table κ ν) (key : κ) :
    (items.foldl (fun t item => t.modify (keyOf item) f) t).get? key =
      (t.get? key).map fun value => if key ∈ items.map keyOf then f value else value := by
  induction items generalizing t with
  | nil => simp
  | cons item items ih =>
    rw [List.foldl_cons, ih, get?_modify]
    by_cases here : key = keyOf item
    · subst here
      rw [if_pos rfl, Option.map_map]
      congr 1
      funext value
      simp [twice]
    · rw [if_neg here]
      simp [here]

theorem get?_foldl_erase (keyOf : μ → κ) (items : List μ) (t : Table κ ν) (key : κ) :
    (items.foldl (fun t item => t.erase (keyOf item)) t).get? key = if key ∈ items.map keyOf then none else t.get? key := by
  induction items generalizing t with
  | nil => simp
  | cons item items ih =>
    rw [List.foldl_cons, ih, get?_erase]
    by_cases here : key = keyOf item <;> simp [here]

section Every
variable {P : κ → ν → Prop} {t : Table κ ν} (every : ∀ key value, t.get? key = some value → P key value)
include every

theorem every_insert {key : κ} {value : ν} (holds : P key value) :
    ∀ other stored, (t.insert key value).get? other = some stored → P other stored := by
  intro other stored found
  rw [get?_insert] at found
  split at found
  next same =>
    cases found
    exact same ▸ holds
  next => exact every other stored found

theorem every_modify {key : κ} {f : ν → ν} (holds : ∀ value, t.get? key = some value → P key (f value)) :
    ∀ other stored, (t.modify key f).get? other = some stored → P other stored := by
  intro other stored found
  rw [get?_modify] at found
  split at found
  next same =>
    subst other
    obtain ⟨value, present, rfl⟩ := Option.map_eq_some_iff.mp found
    exact holds value present
  next => exact every other stored found

/-- A row that is put in and changed again counts only as it is in the end. -/
theorem every_insert_modify {key : κ} {value : ν} {f : ν → ν} (holds : P key (f value)) :
    ∀ other stored, ((t.insert key value).modify key f).get? other = some stored → P other stored := by
  intro other stored found
  rw [get?_modify] at found
  split at found
  next same =>
    subst other
    rw [get?_insert_self, Option.map_some] at found
    cases found
    exact holds
  next different =>
    rw [get?_insert_of_ne _ _ different] at found
    exact every other stored found

theorem every_retain {keep : κ → ν → Bool} :
    ∀ other stored, (t.retain keep).get? other = some stored → P other stored :=
  fun other stored found => every other stored ((get?_retain_eq_some t keep other stored).mp found).1

theorem every_erase {key : κ} : ∀ other stored, (t.erase key).get? other = some stored → P other stored := by
  intro other stored found
  rw [get?_erase] at found
  split at found
  · cases found
  · exact every other stored found

end Every

/-- What each key stands for, when only some values count. -/
def view (t : Table κ ν) (f : ν → Option μ) (key : κ) : Option μ := (t.get? key).bind f

theorem view_eq_some (t : Table κ ν) (f : ν → Option μ) (key : κ) (item : μ) :
    t.view f key = some item ↔ ∃ value, t.get? key = some value ∧ f value = some item :=
  Option.bind_eq_some_iff

theorem view_insert (t : Table κ ν) (f : ν → Option μ) (key : κ) (value : ν) :
    (t.insert key value).view f = Function.update (t.view f) key (f value) := by
  funext other
  rw [view, get?_insert, Function.update_apply]
  split <;> rfl

theorem view_modify {t : Table κ ν} {key : κ} {value : ν} (found : t.get? key = some value) (f : ν → Option μ)
    (g : ν → ν) : (t.modify key g).view f = Function.update (t.view f) key (f (g value)) := by
  funext other
  rw [view, get?_modify, Function.update_apply]
  split
  next same => simp [same, found]
  next => rfl

theorem view_modify_same {t : Table κ ν} {key : κ} {value : ν} (found : t.get? key = some value) {f : ν → Option μ}
    {g : ν → ν} (same : f (g value) = f value) : (t.modify key g).view f = t.view f := by
  rw [view_modify found, same, Function.update_eq_self_iff]
  simp [view, found]

theorem view_erase {t : Table κ ν} {key : κ} {value : ν} (found : t.get? key = some value) {f : ν → Option μ}
    (idle : f value = none) : (t.erase key).view f = t.view f := by
  funext other
  rw [view, get?_erase]
  split
  next same => simp [view, same, found, idle]
  next => rfl

theorem view_retain {t : Table κ ν} {keep : κ → ν → Bool} {f : ν → Option μ}
    (dropped : ∀ key value, t.get? key = some value → keep key value = false → f value = none) :
    (t.retain keep).view f = t.view f := by
  funext key
  rw [view, view, get?_retain]
  cases found : t.get? key with
  | none => rfl
  | some value =>
    cases kept : keep key value with
    | true => simp [Option.filter, kept]
    | false => simp [Option.filter, kept, dropped key value found kept]

theorem mem_select (t : Table κ ν) (f : κ → ν → Option μ) (item : μ) :
    item ∈ t.select f ↔ ∃ key value, t.get? key = some value ∧ f key value = some item := by
  simp [select, get?_eq_some_iff]

omit [DecidableEq κ] in
theorem total_select (t : Table κ ν) (f : κ → ν → Option μ) (weight : μ → Nat) :
    ((t.select f).map weight).sum = t.total fun key value => ((f key value).map weight).getD 0 := by
  simp only [select, total]
  induction t.rows with
  | nil => rfl
  | cons row rows ih => cases chosen : f row.1 row.2 <;> simp [chosen, ih]

/-- Rows with different keys that never select the same item select each item once. -/
theorem nodup_select {t : Table κ ν} {f : κ → ν → Option μ}
    (unique : ∀ key value other stored item, t.get? key = some value → t.get? other = some stored →
      f key value = some item → f other stored = some item → key = other) : (t.select f).Nodup := by
  have rows : t.rows.Pairwise fun first second => first.1 ≠ second.1 := List.pairwise_map.mp t.distinct
  rw [select, List.nodup_iff_pairwise_ne, List.pairwise_filterMap]
  apply List.Pairwise.imp_of_mem _ rows
  rintro first second memberFirst memberSecond different item chosen _ again rfl
  exact different (unique first.1 first.2 second.1 second.2 item ((t.get?_eq_some_iff _ _).mpr memberFirst)
    ((t.get?_eq_some_iff _ _).mpr memberSecond) chosen again)

theorem select_eq_nil {t : Table κ ν} {f : κ → ν → Option μ}
    (idle : ∀ key value, t.get? key = some value → f key value = none) : t.select f = [] := by
  apply List.eq_nil_iff_forall_not_mem.mpr
  intro item member
  obtain ⟨key, value, found, chosen⟩ := (t.mem_select f item).mp member
  rw [idle key value found] at chosen
  cases chosen

theorem select_eq_singleton {t : Table κ ν} {f : κ → ν → Option μ} {key : κ} {value : ν} {item : μ}
    (found : t.get? key = some value) (chosen : f key value = some item)
    (idle : ∀ other stored, t.get? other = some stored → other ≠ key → f other stored = none) : t.select f = [item] := by
  have only : ∀ other stored result, t.get? other = some stored → f other stored = some result → other = key := by
    intro other stored result present selected
    by_contra different
    rw [idle other stored present different] at selected
    cases selected
  have single : (t.select f).Nodup := nodup_select fun first _ second _ _ foundFirst foundSecond chosenFirst chosenSecond =>
    (only first _ _ foundFirst chosenFirst).trans (only second _ _ foundSecond chosenSecond).symm
  apply List.perm_singleton.mp
  apply (List.perm_ext_iff_of_nodup single (List.nodup_singleton item)).mpr
  intro result
  rw [mem_select, List.mem_singleton]
  constructor
  · rintro ⟨other, stored, present, selected⟩
    obtain rfl := only other stored result present selected
    rw [found, Option.some.injEq] at present
    subst stored
    rw [chosen, Option.some.injEq] at selected
    exact selected.symm
  · rintro rfl
    exact ⟨key, value, found, chosen⟩

end Lookup
end Table
end Keyed
