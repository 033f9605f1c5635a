import PhoneBoost.Lib.Table

/-! A byte budget shared by accounts. The ledger keeps one running total next to
the accounts and subtracts with saturation, so a wrong subtraction would go
unnoticed. `shortfall` adds up what such subtractions could not take. -/

namespace Budget
open Keyed

@[ext]
structure Ledger (κ : Type u) (ν : Type v) where
  allocated : Nat
  shortfall : Nat
  accounts : Table κ ν

namespace Ledger
variable {κ : Type u} {ν : Type v}

def giveBack (ledger : Ledger κ ν) (bytes : Nat) : Ledger κ ν :=
  { ledger with
    allocated := ledger.allocated - bytes
    shortfall := ledger.shortfall + (bytes - ledger.allocated) }

def retain (ledger : Ledger κ ν) (keep : κ → ν → Bool) : Ledger κ ν :=
  { ledger with accounts := ledger.accounts.retain keep }

@[simp] theorem giveBack_accounts (ledger : Ledger κ ν) (bytes : Nat) :
    (ledger.giveBack bytes).accounts = ledger.accounts := rfl

@[simp] theorem retain_accounts (ledger : Ledger κ ν) (keep : κ → ν → Bool) :
    (ledger.retain keep).accounts = ledger.accounts.retain keep := rfl

variable [DecidableEq κ]

def charge (ledger : Ledger κ ν) (key : κ) (value : ν) (bytes : Nat) : Ledger κ ν :=
  { ledger with allocated := ledger.allocated + bytes, accounts := ledger.accounts.insert key value }

def update (ledger : Ledger κ ν) (key : κ) (f : ν → ν) : Ledger κ ν :=
  { ledger with accounts := ledger.accounts.modify key f }

def drop (ledger : Ledger κ ν) (key : κ) : Ledger κ ν :=
  { ledger with accounts := ledger.accounts.erase key }

@[simp] theorem charge_accounts (ledger : Ledger κ ν) (key : κ) (value : ν) (bytes : Nat) :
    (ledger.charge key value bytes).accounts = ledger.accounts.insert key value := rfl

@[simp] theorem update_accounts (ledger : Ledger κ ν) (key : κ) (f : ν → ν) :
    (ledger.update key f).accounts = ledger.accounts.modify key f := rfl

@[simp] theorem drop_accounts (ledger : Ledger κ ν) (key : κ) :
    (ledger.drop key).accounts = ledger.accounts.erase key := rfl

@[simp] theorem update_allocated (ledger : Ledger κ ν) (key : κ) (f : ν → ν) :
    (ledger.update key f).allocated = ledger.allocated := rfl

@[simp] theorem drop_allocated (ledger : Ledger κ ν) (key : κ) :
    (ledger.drop key).allocated = ledger.allocated := rfl

end Ledger

variable {κ : Type u} {ν : Type v}

/-- The running total is what the accounts weigh, it respects the cap, and no
subtraction has ever been cut short. -/
structure Balanced (weight : ν → Nat) (cap : Nat) (ledger : Ledger κ ν) : Prop where
  held : ledger.allocated = ledger.accounts.total fun _ value => weight value
  capped : ledger.allocated ≤ cap
  covered : ledger.shortfall = 0

namespace Balanced
variable {weight : ν → Nat} {cap : Nat} {ledger : Ledger κ ν}

theorem empty (weight : ν → Nat) (cap : Nat) : Balanced weight cap (⟨0, 0, .empty⟩ : Ledger κ ν) :=
  ⟨rfl, Nat.zero_le cap, rfl⟩

variable [DecidableEq κ]

theorem retain (balanced : Balanced weight cap ledger) {keep : κ → ν → Bool}
    (dropped : ∀ key value, ledger.accounts.get? key = some value → keep key value = false → weight value = 0) :
    Balanced weight cap (ledger.retain keep) where
  held := by
    rw [Ledger.retain_accounts, Table.total_retain dropped]
    exact balanced.held
  capped := balanced.capped
  covered := balanced.covered

theorem charge (balanced : Balanced weight cap ledger) {key : κ} (absent : ledger.accounts.get? key = none) (value : ν)
    (fits : ledger.allocated + weight value ≤ cap) : Balanced weight cap (ledger.charge key value (weight value)) where
  held := by
    rw [Ledger.charge_accounts, Table.total_insert absent, ← balanced.held]
    rfl
  capped := fits
  covered := balanced.covered

theorem update (balanced : Balanced weight cap ledger) {key : κ} {value : ν}
    (found : ledger.accounts.get? key = some value) {f : ν → ν} (same : weight (f value) = weight value) :
    Balanced weight cap (ledger.update key f) where
  held := by
    have total := Table.total_modify found f fun _ value => weight value
    have held := balanced.held
    simp only [Ledger.update_accounts, Ledger.update_allocated]
    omega
  capped := balanced.capped
  covered := balanced.covered

theorem drop (balanced : Balanced weight cap ledger) {key : κ} {value : ν}
    (found : ledger.accounts.get? key = some value) (free : weight value = 0) :
    Balanced weight cap (ledger.drop key) where
  held := by
    have total := Table.total_erase found fun _ value => weight value
    have held := balanced.held
    simp only [Ledger.drop_accounts, Ledger.drop_allocated]
    omega
  capped := balanced.capped
  covered := balanced.covered

theorem weight_le (balanced : Balanced weight cap ledger) {key : κ} {value : ν}
    (found : ledger.accounts.get? key = some value) : weight value ≤ ledger.allocated := by
  rw [balanced.held]
  exact Table.le_total (fun _ value => weight value) found

/-- Giving back the weight of an account that stops weighing anything. -/
theorem giveBack_update (balanced : Balanced weight cap ledger) {key : κ} {value : ν}
    (found : ledger.accounts.get? key = some value) {f : ν → ν} (free : weight (f value) = 0) :
    Balanced weight cap ((ledger.giveBack (weight value)).update key f) where
  held := by
    have total := Table.total_modify found f fun _ value => weight value
    have held := balanced.held
    simp only [Ledger.update_accounts, Ledger.update_allocated, Ledger.giveBack]
    omega
  capped := (Nat.sub_le _ _).trans balanced.capped
  covered := by
    have enough := balanced.weight_le found
    have covered := balanced.covered
    simp only [Ledger.update, Ledger.giveBack]
    omega

theorem giveBack_drop (balanced : Balanced weight cap ledger) {key : κ} {value : ν}
    (found : ledger.accounts.get? key = some value) :
    Balanced weight cap ((ledger.giveBack (weight value)).drop key) where
  held := by
    have total := Table.total_erase found fun _ value => weight value
    have held := balanced.held
    simp only [Ledger.drop_accounts, Ledger.drop_allocated, Ledger.giveBack]
    omega
  capped := (Nat.sub_le _ _).trans balanced.capped
  covered := by
    have enough := balanced.weight_le found
    have covered := balanced.covered
    simp only [Ledger.drop, Ledger.giveBack]
    omega

end Balanced
end Budget
