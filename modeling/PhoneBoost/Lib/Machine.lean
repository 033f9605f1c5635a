import Mathlib.Data.List.Induction

/-! Deterministic machines. A run folds the step over a list of inputs, and an
invariant may speak about the inputs seen so far. -/

namespace Machine
variable {σ : Type u} {α : Type v}

def run (step : σ → α → σ) (start : σ) (inputs : List α) : σ :=
  inputs.foldl step start

@[simp] theorem run_nil (step : σ → α → σ) (start : σ) : run step start [] = start := rfl

@[simp] theorem run_concat (step : σ → α → σ) (start : σ) (inputs : List α) (input : α) :
    run step start (inputs ++ [input]) = step (run step start inputs) input := by
  simp [run]

/-- A property of the inputs seen so far and of the state they led to holds of
every allowed run when each allowed step keeps it. -/
theorem run_induction {step : σ → α → σ} {start : σ} (Allowed : List α → Prop) (Inv : List α → σ → Prop)
    (shorter : ∀ inputs input, Allowed (inputs ++ [input]) → Allowed inputs)
    (initial : Inv [] start)
    (keeps : ∀ inputs input state, Allowed (inputs ++ [input]) → Inv inputs state →
      Inv (inputs ++ [input]) (step state input))
    (inputs : List α) (allowed : Allowed inputs) : Inv inputs (run step start inputs) := by
  induction inputs using List.reverseRecOn with
  | nil => exact initial
  | append_singleton inputs input ih =>
    rw [run_concat]
    exact keeps inputs input _ allowed (ih (shorter inputs input allowed))

/-- Every input meets a condition in the state that it finds. -/
def Each (step : σ → α → σ) (start : σ) (condition : σ → α → Prop) (inputs : List α) : Prop :=
  ∀ index input, inputs[index]? = some input → condition (run step start (inputs.take index)) input

theorem Each.shorter {step : σ → α → σ} {start : σ} {condition : σ → α → Prop} {inputs : List α} {input : α}
    (each : Each step start condition (inputs ++ [input])) : Each step start condition inputs := by
  intro index other found
  obtain ⟨inside, _⟩ := List.getElem?_eq_some_iff.mp found
  have met := each index other (by rw [List.getElem?_append_left inside, found])
  rwa [List.take_append_of_le_length (Nat.le_of_lt inside)] at met

theorem Each.last {step : σ → α → σ} {start : σ} {condition : σ → α → Prop} {inputs : List α} {input : α}
    (each : Each step start condition (inputs ++ [input])) : condition (run step start inputs) input := by
  have met := each inputs.length input (by simp)
  rwa [List.take_left] at met

theorem run_each {step : σ → α → σ} {start : σ} {condition : σ → α → Prop} (Inv : σ → Prop) (initial : Inv start)
    (keeps : ∀ state input, condition state input → Inv state → Inv (step state input)) {inputs : List α}
    (each : Each step start condition inputs) : Inv (run step start inputs) := by
  induction inputs using List.reverseRecOn with
  | nil => exact initial
  | append_singleton inputs input ih =>
    rw [run_concat]
    exact keeps _ input each.last (ih each.shorter)

/-- Each input carries marks, such as the random values it consumes, and no
mark occurs twice in the run. -/
def Distinct (marks : α → List β) (inputs : List α) : Prop := (inputs.flatMap marks).Nodup

instance [DecidableEq β] (marks : α → List β) (inputs : List α) : Decidable (Distinct marks inputs) :=
  inferInstanceAs (Decidable (List.Nodup _))

theorem Distinct.shorter {marks : α → List β} (inputs : List α) (input : α) (distinct : Distinct marks (inputs ++ [input])) :
    Distinct marks inputs := by
  simp only [Distinct, List.flatMap_append, List.nodup_append] at distinct
  exact distinct.1

theorem Distinct.unseen {marks : α → List β} {inputs : List α} {input : α} (distinct : Distinct marks (inputs ++ [input]))
    {mark : β} (seen : mark ∈ inputs.flatMap marks) : mark ∉ marks input := by
  simp only [Distinct, List.flatMap_append, List.nodup_append, List.flatMap_singleton] at distinct
  exact fun again => distinct.2.2 mark seen mark again rfl

end Machine
