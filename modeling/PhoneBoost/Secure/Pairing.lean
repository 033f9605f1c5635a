import PhoneBoost.Types

/-! Pairing of two endpoints: the actor that collects both confirmations of one
session, and the guard that counts reported mismatches across sessions. -/

namespace PhoneBoost.Secure

def pairingTimeoutMs : Nat := 120000
def pairingCooldownMs : Nat := 600000
def pairingMismatchLimit : UInt8 := 3

inductive PairingState where
  | unpaired | pairingXx | sasPending | localConfirmed | peerConfirmed | mutualConfirmed | trustCommitting | paired
  | pairRejected | pairingFailed
deriving DecidableEq, Repr

structure Mutation (α : Type) where
  value : α
  stateChanged : Bool
deriving DecidableEq, Repr

inductive PersistOutcome where
  | succeeded | failed
deriving DecidableEq, Repr

structure PairingTransition where
  state : PairingState
  sendPairConfirm : Bool
  persistCommit : Bool
deriving DecidableEq, Repr

/-- The one reason that `persistResult` reports. -/
inductive PairingError where
  | pairPersistFailed
deriving DecidableEq, Repr

structure PairingActor where
  state : PairingState
  localConfirmed : Bool
  peerConfirmed : Bool
  pairConfirmSent : Bool
  commitIntentEmitted : Bool
deriving DecidableEq, Repr

namespace PairingActor

def new : PairingActor where
  state := .sasPending
  localConfirmed := false
  peerConfirmed := false
  pairConfirmSent := false
  commitIntentEmitted := false

/-- The state that the two confirmations stand for; without any it stays. -/
def confirmed (actor : PairingActor) : PairingState :=
  if actor.localConfirmed && actor.peerConfirmed then .mutualConfirmed
  else if actor.localConfirmed && !actor.peerConfirmed then .localConfirmed
  else if actor.peerConfirmed && !actor.localConfirmed then .peerConfirmed
  else actor.state

def confirmationTransition (actor : PairingActor) (confirmationChanged sendPairConfirm : Bool) :
    Mutation PairingTransition × PairingActor :=
  if actor.commitIntentEmitted then (⟨⟨actor.state, false, false⟩, false⟩, actor)
  else
    let priorState := actor.state
    let actor := { actor with state := actor.confirmed }
    (⟨⟨actor.state, sendPairConfirm, false⟩,
      confirmationChanged || sendPairConfirm || priorState ≠ actor.state⟩, actor)

def confirmLocalBasis (actor : PairingActor) : Mutation PairingTransition × PairingActor :=
  let newlyConfirmed := !actor.localConfirmed
  let send := !actor.pairConfirmSent
  let actor := { actor with localConfirmed := true, pairConfirmSent := true }
  actor.confirmationTransition newlyConfirmed send

def localConfirm (actor : PairingActor) : Mutation PairingTransition × PairingActor := actor.confirmLocalBasis

def peerConfirm (actor : PairingActor) : Mutation PairingTransition × PairingActor :=
  let changed := !actor.peerConfirmed
  let actor := { actor with peerConfirmed := true }
  actor.confirmationTransition changed false

def beginTrustCommit (actor : PairingActor) : Mutation PairingTransition × PairingActor :=
  let shouldCommit := actor.state = .mutualConfirmed && !actor.commitIntentEmitted
  let actor := if shouldCommit then { actor with state := .trustCommitting, commitIntentEmitted := true } else actor
  (⟨⟨actor.state, false, shouldCommit⟩, shouldCommit⟩, actor)

def persistResult (actor : PairingActor) (outcome : PersistOutcome) :
    Except PairingError (Mutation PairingTransition) × PairingActor :=
  if actor.state ≠ .trustCommitting || !actor.commitIntentEmitted then (.error .pairPersistFailed, actor)
  else
    match outcome with
    | .succeeded => (.ok ⟨⟨.paired, false, false⟩, true⟩, { actor with state := .paired })
    | .failed => (.error .pairPersistFailed, { actor with state := .pairingFailed })

end PairingActor

/-- The counter and both times are stored, so they keep the widths of the source. -/
structure PairingGuard where
  mismatchCount : UInt8
  cooldownUntilWallMs : Option UInt64
  updatedWallMs : UInt64
deriving DecidableEq, Repr

namespace PairingGuard

def new (nowMs : UInt64) : PairingGuard where
  mismatchCount := 0
  cooldownUntilWallMs := none
  updatedWallMs := nowMs

def cooldownFrom (nowMs : UInt64) : UInt64 := .ofNat (saturatingAdd nowMs.toNat pairingCooldownMs)

def admits (guard : PairingGuard) (nowMs : UInt64) : Mutation Bool × PairingGuard :=
  match guard.cooldownUntilWallMs with
  | none => (⟨true, false⟩, guard)
  | some expiry =>
    if nowMs < guard.updatedWallMs then
      (⟨false, true⟩, { guard with cooldownUntilWallMs := some (cooldownFrom nowMs), updatedWallMs := nowMs })
    else if nowMs < expiry then (⟨false, false⟩, guard)
    else (⟨true, true⟩, ⟨0, none, nowMs⟩)

def recordMismatch (guard : PairingGuard) (nowMs : UInt64) : PairingGuard :=
  -- the counter is a saturating `u8`
  let mismatchCount := if guard.mismatchCount = 255 then 255 else guard.mismatchCount + 1
  { mismatchCount
    cooldownUntilWallMs :=
      if pairingMismatchLimit ≤ mismatchCount then some (cooldownFrom nowMs) else guard.cooldownUntilWallMs
    updatedWallMs := nowMs }

def paired (nowMs : UInt64) : PairingGuard := ⟨0, none, nowMs⟩

end PairingGuard

end PhoneBoost.Secure
