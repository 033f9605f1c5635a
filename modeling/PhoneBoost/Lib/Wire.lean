import Mathlib.Data.List.Basic
import Mathlib.Logic.Equiv.Defs

/-! Words over an alphabet and the fixed-width layouts that describe them. A
layout writes a value and reads it back, and whatever it reads writes the same
symbols again, so a word of the right width and a value determine each other. -/

namespace Wire
variable {σ : Type u} {α : Type v} {β : Type w}

structure Layout (σ : Type u) (α : Type v) where
  width : Nat
  put : α → List σ
  get : List σ → α
  length_put : ∀ value, (put value).length = width
  get_put : ∀ value rest, get (put value ++ rest) = value
  put_get : ∀ word, width ≤ word.length → put (get word) = word.take width

namespace Layout

/-- A word begins with the value that is read from it, and with no other. -/
theorem eq_put_append_iff (layout : Layout σ α) {word rest : List σ} {value : α} :
    word = layout.put value ++ rest ↔
      layout.width ≤ word.length ∧ layout.get word = value ∧ word.drop layout.width = rest := by
  constructor
  · rintro rfl
    refine ⟨?_, layout.get_put value rest, List.drop_left' (layout.length_put value)⟩
    rw [List.length_append, layout.length_put]
    omega
  · rintro ⟨wide, rfl, rfl⟩
    rw [layout.put_get word wide, List.take_append_drop]

theorem eq_put_iff (layout : Layout σ α) {word : List σ} {value : α} :
    word = layout.put value ↔ word.length = layout.width ∧ layout.get word = value := by
  have split : word = layout.put value ++ [] ↔ _ := layout.eq_put_append_iff
  rw [List.append_nil, List.drop_eq_nil_iff] at split
  rw [split]
  constructor
  · rintro ⟨wide, read, narrow⟩
    exact ⟨Nat.le_antisymm narrow wide, read⟩
  · rintro ⟨width, read⟩
    exact ⟨Nat.le_of_eq width.symm, read, Nat.le_of_eq width⟩

theorem put_eq_iff (layout : Layout σ α) {word : List σ} {value : α} :
    layout.put value = word ↔ word.length = layout.width ∧ layout.get word = value :=
  eq_comm.trans layout.eq_put_iff

/-- A piece of a word holds a value when the layout reads it there. -/
theorem take_drop_eq_put_iff (layout : Layout σ α) {word : List σ} {value : α} (first : Nat)
    (wide : first + layout.width ≤ word.length) :
    (word.drop first).take layout.width = layout.put value ↔ layout.get (word.drop first) = value := by
  have room : layout.width ≤ (word.drop first).length := by
    rw [List.length_drop]
    omega
  rw [← layout.put_get _ room]
  constructor
  · intro same
    have back := congrArg (layout.get <| · ++ []) same
    simpa only [layout.get_put] using back
  · rintro rfl
    rfl

/-- One symbol; the blank stands for a symbol past the end of the word. -/
def symbol (blank : σ) : Layout σ σ where
  width := 1
  put value := [value]
  get word := word.getD 0 blank
  length_put _ := rfl
  get_put _ _ := rfl
  put_get
    | [], wide => absurd wide (by simp)
    | _ :: _, _ => rfl

def vector (blank : σ) (size : Nat) : Layout σ (Vector σ size) where
  width := size
  put value := value.toList
  get word := Vector.ofFn fun index : Fin size => word.getD index blank
  length_put value := value.length_toList
  get_put value rest := by
    apply Vector.ext
    intro index inside
    rw [Vector.getElem_ofFn, List.getD_eq_getElem?_getD, List.getElem?_append_left (by simpa using inside)]
    simp [inside]
  put_get word wide := by
    apply List.ext_getElem
    · rw [Vector.length_toList, List.length_take, Nat.min_eq_left wide]
    · intro index left right
      have inside : index < word.length := by
        rw [List.length_take] at right
        omega
      simp [inside]

def seq (first : Layout σ α) (second : Layout σ β) : Layout σ (α × β) where
  width := first.width + second.width
  put value := first.put value.1 ++ second.put value.2
  get word := (first.get word, second.get (word.drop first.width))
  length_put value := by rw [List.length_append, first.length_put, second.length_put]
  get_put value rest := by
    rw [List.append_assoc, first.get_put, List.drop_left' (first.length_put value.1), second.get_put]
  put_get word wide := by
    have room : second.width ≤ (word.drop first.width).length := by
      rw [List.length_drop]
      omega
    rw [first.put_get word (by omega), second.put_get _ room, List.take_add]

@[simp] theorem seq_width (first : Layout σ α) (second : Layout σ β) :
    (first.seq second).width = first.width + second.width := rfl

@[simp] theorem seq_put (first : Layout σ α) (second : Layout σ β) (value : α × β) :
    (first.seq second).put value = first.put value.1 ++ second.put value.2 := rfl

@[simp] theorem seq_get (first : Layout σ α) (second : Layout σ β) (word : List σ) :
    (first.seq second).get word = (first.get word, second.get (word.drop first.width)) := rfl

end Layout

/-- One row of a table that finds a member by its code: the code of the member
found is the value looked up, if this holds of the later rows. -/
theorem table_row {κ : Type w} [DecidableEq κ] (code : α → κ) {value key : κ} {member found : α} {later : Option α}
    (row : key = code member) (others : later = some found → value = code found) :
    (if value = key then some member else later) = some found → value = code found := by
  intro taken
  split at taken
  next same =>
    cases taken
    exact same.trans row
  next => exact others taken

/-- The value, or the error that stands for its absence. -/
def okOr (value? : Option α) (error : ε) : Except ε α :=
  match value? with
  | none => .error error
  | some value => .ok value

@[simp] theorem okOr_eq_ok {value? : Option α} {error : ε} {value : α} : okOr value? error = .ok value ↔ value? = some value := by
  cases value? <;> simp [okOr]

/-- A chain of checks succeeds when each check passes. -/
theorem ite_error_eq_ok {test : Prop} [Decidable test] {error : ε} {rest : Except ε α} {value : α} :
    (if test then .error error else rest) = .ok value ↔ ¬test ∧ rest = .ok value := by
  by_cases failed : test <;> simp [failed]

theorem bind_eq_ok {α β : Type v} {first : Except ε α} {next : α → Except ε β} {value : β} :
    (first >>= next) = .ok value ↔ ∃ taken, first = .ok taken ∧ next taken = .ok value := by
  cases first <;> simp [bind, Except.bind]

theorem pure_eq_ok {made value : α} : (pure made : Except ε α) = .ok value ↔ value = made :=
  ⟨fun same => (Except.ok.inj same).symm, fun same => congrArg Except.ok same.symm⟩

theorem check_eq_ok {α : Type} {check : Except ε Unit} {made value : α} :
    (check >>= fun _ => pure made) = .ok value ↔ check = .ok () ∧ made = value := by
  cases check <;> simp [bind, Except.bind, pure, Except.pure]

end Wire
