import Mathlib.Logic.Function.Basic
import PhoneBoost.Lib.Table

/-! Tokens in the custody of holders. A holder has at most one token and a token
that is out is in exactly one hand; assigning a free token and discharging a
holder keep it so. Both sides record the value of the token, so values that the
holders add up are the values that are out. -/

namespace Custody
open Keyed

variable {η : Type u} {τ : Type v} {ν : Type w}

structure Matched (held : η → Option (τ × ν)) (out : τ → Option ν) : Prop where
  sound : ∀ holder token value, held holder = some (token, value) → out token = some value
  unique : ∀ first second token value other, held first = some (token, value) → held second = some (token, other) →
    first = second
  used : ∀ token value, out token = some value → ∃ holder, held holder = some (token, value)

namespace Matched
variable [DecidableEq η] [DecidableEq τ] {held : η → Option (τ × ν)} {out : τ → Option ν}

theorem assign (matched : Matched held out) {holder : η} {token : τ} (empty : held holder = none) (free : out token = none)
    (value : ν) :
    Matched (Function.update held holder (some (token, value))) (Function.update out token (some value)) := by
  have others : ∀ other token' value', held other = some (token', value') → other ≠ holder ∧ token' ≠ token := by
    intro other token' value' has
    constructor
    · rintro rfl
      simp [empty] at has
    · rintro rfl
      exact absurd (matched.sound other token' value' has) (by simp [free])
  constructor
  · intro other token' value' has
    rw [Function.update_apply] at has
    split at has
    · cases has
      simp
    · rw [Function.update_of_ne (others other token' value' has).2]
      exact matched.sound other token' value' has
  · intro first second token' value' other' hasFirst hasSecond
    rw [Function.update_apply] at hasFirst hasSecond
    split at hasFirst <;> split at hasSecond
    next same same' => exact same.trans same'.symm
    next =>
      cases hasFirst
      exact absurd rfl (others second _ _ hasSecond).2
    next =>
      cases hasSecond
      exact absurd rfl (others first _ _ hasFirst).2
    next => exact matched.unique first second token' value' other' hasFirst hasSecond
  · intro token' value' isOut
    rw [Function.update_apply] at isOut
    split at isOut
    next same =>
      cases isOut
      exact ⟨holder, by simp [same]⟩
    next =>
      obtain ⟨other, has⟩ := matched.used token' value' isOut
      exact ⟨other, by rw [Function.update_of_ne (others other token' value' has).1, has]⟩

theorem discharge (matched : Matched held out) {holder : η} {token : τ} {value : ν}
    (has : held holder = some (token, value)) :
    Matched (Function.update held holder none) (Function.update out token none) := by
  have elsewhere : ∀ other token' value', other ≠ holder → held other = some (token', value') → token' ≠ token := by
    rintro other token' value' different hasOther rfl
    exact different (matched.unique other holder token' value' value hasOther has)
  constructor
  · intro other token' value' hasOther
    rw [Function.update_apply] at hasOther
    split at hasOther
    · cases hasOther
    next different =>
      rw [Function.update_of_ne (elsewhere other token' value' different hasOther)]
      exact matched.sound other token' value' hasOther
  · intro first second token' value' other' hasFirst hasSecond
    rw [Function.update_apply] at hasFirst hasSecond
    split at hasFirst
    · cases hasFirst
    split at hasSecond
    · cases hasSecond
    exact matched.unique first second token' value' other' hasFirst hasSecond
  · intro token' value' isOut
    rw [Function.update_apply] at isOut
    split at isOut
    · cases isOut
    next different =>
      obtain ⟨other, hasOther⟩ := matched.used token' value' isOut
      refine ⟨other, ?_⟩
      rw [Function.update_of_ne, hasOther]
      rintro rfl
      rw [has, Option.some.injEq, Prod.mk.injEq] at hasOther
      exact different hasOther.1.symm

end Matched

section Totals
variable {α : Type u₁} {β : Type u₂} {γ : Type u₃} {κ : Type u₄} {ι : Type u₅}
  [DecidableEq τ] [DecidableEq κ] [DecidableEq ι]

/-- Two tables of holders add up to what is out. -/
theorem Matched.total {accounts : Table τ α} {left : Table κ β} {right : Table ι γ} {out : α → Option ν}
    {first : β → Option (τ × ν)} {second : γ → Option (τ × ν)}
    (matched : Matched (Sum.elim (left.view first) (right.view second)) (accounts.view out)) (weight : ν → Nat) :
    (accounts.total fun _ account => ((out account).map weight).getD 0) =
      (left.total fun _ record => ((first record).map fun share => weight share.2).getD 0) +
        right.total fun _ record => ((second record).map fun share => weight share.2).getD 0 := by
  have tokens : (accounts.select fun token account => (out account).map (token, ·)).Nodup := by
    apply Table.nodup_select
    intro token _ other _ item _ _ chosen again
    obtain ⟨_, _, rfl⟩ := Option.map_eq_some_iff.mp chosen
    obtain ⟨_, _, same⟩ := Option.map_eq_some_iff.mp again
    exact (congrArg Prod.fst same).symm
  have lefts : (left.select fun _ record => first record).Nodup := by
    apply Table.nodup_select
    intro key _ other _ item found present chosen again
    exact Sum.inl.inj (matched.unique (.inl key) (.inl other) item.1 item.2 item.2 ((Table.view_eq_some ..).mpr ⟨_, found, chosen⟩)
      ((Table.view_eq_some ..).mpr ⟨_, present, again⟩))
  have rights : (right.select fun _ record => second record).Nodup := by
    apply Table.nodup_select
    intro key _ other _ item found present chosen again
    exact Sum.inr.inj (matched.unique (.inr key) (.inr other) item.1 item.2 item.2 ((Table.view_eq_some ..).mpr ⟨_, found, chosen⟩)
      ((Table.view_eq_some ..).mpr ⟨_, present, again⟩))
  have apart : ∀ item ∈ left.select (fun _ record => first record), ∀ other ∈ right.select (fun _ record => second record),
      item ≠ other := by
    rintro item member _ again rfl
    obtain ⟨key, _, found, chosen⟩ := (Table.mem_select ..).mp member
    obtain ⟨other, _, present, selected⟩ := (Table.mem_select ..).mp again
    cases matched.unique (.inl key) (.inr other) item.1 item.2 item.2 ((Table.view_eq_some ..).mpr ⟨_, found, chosen⟩)
      ((Table.view_eq_some ..).mpr ⟨_, present, selected⟩)
  have perm : (accounts.select fun token account => (out account).map (token, ·)).Perm
      ((left.select fun _ record => first record) ++ right.select fun _ record => second record) := by
    apply (List.perm_ext_iff_of_nodup tokens (List.nodup_append.mpr ⟨lefts, rights, apart⟩)).mpr
    rintro ⟨token, value⟩
    simp only [List.mem_append, Table.mem_select, Option.map_eq_some_iff, Prod.mk.injEq]
    constructor
    · rintro ⟨_, account, found, _, share, rfl, rfl⟩
      obtain ⟨holder, has⟩ := matched.used _ _ ((Table.view_eq_some ..).mpr ⟨account, found, share⟩)
      cases holder with
      | inl key =>
        obtain ⟨record, present, chosen⟩ := (Table.view_eq_some ..).mp has
        exact .inl ⟨key, record, present, chosen⟩
      | inr key =>
        obtain ⟨record, present, chosen⟩ := (Table.view_eq_some ..).mp has
        exact .inr ⟨key, record, present, chosen⟩
    · rintro (⟨key, record, present, chosen⟩ | ⟨key, record, present, chosen⟩)
      · obtain ⟨account, found, share⟩ := (Table.view_eq_some ..).mp
          (matched.sound (.inl key) token value ((Table.view_eq_some ..).mpr ⟨_, present, chosen⟩))
        exact ⟨token, account, found, value, share, rfl, rfl⟩
      · obtain ⟨account, found, share⟩ := (Table.view_eq_some ..).mp
          (matched.sound (.inr key) token value ((Table.view_eq_some ..).mpr ⟨_, present, chosen⟩))
        exact ⟨token, account, found, value, share, rfl, rfl⟩
  have sums := (perm.map fun item => weight item.2).sum_eq
  rw [List.map_append, List.sum_append, Table.total_select, Table.total_select, Table.total_select] at sums
  simpa [Option.map_map, Function.comp_def] using sums

end Totals
end Custody
