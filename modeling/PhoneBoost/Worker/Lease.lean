import PhoneBoost.Types
import Mathlib.Data.Finset.Insert
import Mathlib.Data.Finset.Erase
import Mathlib.Data.Finset.Card

/-! The controller lease manager: one active lease, executed commands in
sequence order, and a bounded cache of their results. Every function returns
its result together with the manager after the call. -/

namespace PhoneBoost.Worker

def leaseTtlMs : Nat := 60000
def terminalCacheCapacity : Nat := 256
def pendingMutationCapacity : Nat := 32

inductive LeaseState where
  | free | active | revoking | expired
deriving DecidableEq, Repr

inductive LeaseTransition where
  | freeToActive | activeToRevoking | revokingToFree | activeToExpired | expiredToFree
deriving DecidableEq, Repr

inductive LeaseError where
  | staleLease
deriving DecidableEq, Repr

inductive TerminalCode where
  | ok
deriving DecidableEq, Repr

inductive CommandAdmission where
  | executeOnce
  | replay (code : TerminalCode)
  | duplicateResultEvicted
  | outOfOrder (expected : Nat)
  | alreadyPending
  | pendingFull
  | staleLease
  | sequenceExhausted
deriving DecidableEq, Repr

structure AuthenticatedSession where
  peerId : PeerId
deriving DecidableEq, Repr

def AuthenticatedSession.fromVerified (session : VerifiedPeerSession) : AuthenticatedSession := ⟨session.peerId⟩

inductive ControllerCommand where
  | acquire
  | renew (leaseId : LeaseId) (commandSeq : Nat)
  | release (leaseId : LeaseId) (commandSeq : Nat)
  | unsupported (commandSeq : Nat)
deriving DecidableEq, Repr

inductive ControllerFailureReason where
  | controllerBusy | staleControllerLease | outOfOrder | duplicateResultEvicted | unsupportedMessage
deriving DecidableEq, Repr

structure ControllerLeaseRef where
  leaseId : LeaseId
  workerIncarnationId : WorkerIncarnationId
  ttlRemainingMs : Nat
  nextCommandSeq : Nat
deriving DecidableEq, Repr

inductive ControllerCommandResult where
  | completed (commandSeq : Nat) (lease : Option ControllerLeaseRef)
  | failed (commandSeq : Nat) (reason : ControllerFailureReason) (expectedNextSeq : Option Nat)
deriving DecidableEq, Repr

inductive ControllerCommandError where
  | entropyUnavailable | internalInvariant
deriving DecidableEq, Repr

structure LeaseProof where
  leaseId : LeaseId
  incarnation : WorkerIncarnationId
  peerId : PeerId
deriving DecidableEq, Repr

structure TerminalEntry where
  sequence : Nat
  code : TerminalCode
  lease : Option ControllerLeaseRef
deriving DecidableEq, Repr

structure ActiveLease where
  id : LeaseId
  peerId : PeerId
  incarnation : WorkerIncarnationId
  acquiredAtMs : Nat
  expiresAtMs : Nat
  nextCommandSequence : Nat
  pending : Finset Nat
  terminal : List TerminalEntry
  evictedThrough : Option Nat
deriving DecidableEq

structure ControllerLeaseManager where
  incarnation : WorkerIncarnationId
  active : Option ActiveLease
  state : LeaseState
  lastTransition : Option LeaseTransition
  released : Option ActiveLease
deriving DecidableEq

abbrev CommandOutcome := Except ControllerCommandError ControllerCommandResult

namespace ControllerLeaseManager

def new (incarnation : WorkerIncarnationId) : ControllerLeaseManager where
  incarnation
  active := none
  state := .free
  lastTransition := none
  released := none

def expireIfNeeded (manager : ControllerLeaseManager) (nowMs : Nat) : Option LeaseId × ControllerLeaseManager :=
  match manager.active with
  | none => (none, manager)
  | some active =>
    if active.expiresAtMs ≤ nowMs then
      (some active.id, { manager with active := none, state := .free, lastTransition := some .expiredToFree })
    else (none, manager)

/-- The `as u32` cast keeps the low 32 bits. -/
def leaseRef (active : ActiveLease) (nowMs : Nat) : ControllerLeaseRef where
  leaseId := active.id
  workerIncarnationId := active.incarnation
  ttlRemainingMs := (active.expiresAtMs - nowMs) % (u32Max + 1)
  nextCommandSeq := active.nextCommandSequence

def validate (manager : ControllerLeaseManager) (session : AuthenticatedSession) (leaseId : LeaseId) (nowMs : Nat) :
    Except LeaseError LeaseProof × ControllerLeaseManager :=
  let manager := (manager.expireIfNeeded nowMs).2
  match manager.active with
  | none => (.error .staleLease, manager)
  | some active =>
    if active.id ≠ leaseId ∨ active.peerId ≠ session.peerId ∨ active.incarnation ≠ manager.incarnation then
      (.error .staleLease, manager)
    else (.ok ⟨leaseId, active.incarnation, active.peerId⟩, manager)

def currentForSession (manager : ControllerLeaseManager) (session : AuthenticatedSession) (nowMs : Nat) :
    Option ControllerLeaseRef × ControllerLeaseManager :=
  let manager := (manager.expireIfNeeded nowMs).2
  ((manager.active.filter fun active => active.peerId = session.peerId && active.incarnation = manager.incarnation).map
    (leaseRef · nowMs), manager)

def failedStale (commandSeq : Nat) : ControllerCommandResult := .failed commandSeq .staleControllerLease none

def terminalResult (entry : TerminalEntry) : ControllerCommandResult :=
  match entry.code with
  | .ok => .completed entry.sequence entry.lease

def applyAcquire (manager : ControllerLeaseManager) (session : AuthenticatedSession) (nowMs : Nat) (reads : Entropy) :
    CommandOutcome × ControllerLeaseManager :=
  let manager := (manager.expireIfNeeded nowMs).2
  match manager.active with
  | some active =>
    if active.peerId = session.peerId then (.ok (.completed 0 (some (leaseRef active nowMs))), manager)
    else (.ok (.failed 0 .controllerBusy none), manager)
  | none =>
    match (randomNonzero128 reads).1 with
    | none => (.error .entropyUnavailable, manager)
    | some id =>
      let active : ActiveLease := {
        id := ⟨id⟩
        peerId := session.peerId
        incarnation := manager.incarnation
        acquiredAtMs := nowMs
        expiresAtMs := saturatingAdd nowMs leaseTtlMs
        nextCommandSequence := 0
        pending := ∅
        terminal := []
        evictedThrough := none }
      (.ok (.completed 0 (some (leaseRef active nowMs))),
        { manager with active := some active, released := none, state := .active, lastTransition := some .freeToActive })

def releasedAdmission (manager : ControllerLeaseManager) (session : AuthenticatedSession) (leaseId : LeaseId)
    (commandSeq : Nat) : ControllerCommandResult :=
  match manager.released.filter fun released =>
      released.id = leaseId && released.peerId = session.peerId && released.incarnation = manager.incarnation with
  | none => failedStale commandSeq
  | some released =>
    match released.terminal.find? fun entry => entry.sequence = commandSeq with
    | some entry => terminalResult entry
    | none =>
      if released.evictedThrough.any fun evicted => commandSeq ≤ evicted then
        .failed commandSeq .duplicateResultEvicted none
      else failedStale commandSeq

def beginMutationInternal (manager : ControllerLeaseManager) (session : AuthenticatedSession) (leaseId : LeaseId)
    (sequence nowMs : Nat) : CommandAdmission × ControllerLeaseManager :=
  match manager.validate session leaseId nowMs with
  | (.error _, manager) => (.staleLease, manager)
  | (.ok _, manager) =>
    match manager.active with
    | none => (.staleLease, manager)
    | some active =>
      match active.terminal.find? fun entry => entry.sequence = sequence with
      | some entry => (.replay entry.code, manager)
      | none =>
        if active.evictedThrough.any fun evicted => sequence ≤ evicted then (.duplicateResultEvicted, manager)
        else if sequence ∈ active.pending then (.alreadyPending, manager)
        else if sequence ≠ active.nextCommandSequence then (.outOfOrder active.nextCommandSequence, manager)
        else if pendingMutationCapacity ≤ active.pending.card then (.pendingFull, manager)
        else
          match checkedAdd active.nextCommandSequence 1 with
          | none => (.sequenceExhausted, manager)
          | some next =>
            (.executeOnce, { manager with
              active := some { active with pending := insert sequence active.pending, nextCommandSequence := next } })

def resultFromAdmission (manager : ControllerLeaseManager) (admission : CommandAdmission) (commandSeq : Nat) :
    CommandOutcome :=
  match admission with
  | .replay code =>
    match manager.active with
    | none => .error .internalInvariant
    | some active =>
      match active.terminal.find? fun entry => entry.sequence = commandSeq && entry.code = code with
      | none => .error .internalInvariant
      | some entry => .ok (terminalResult entry)
  | .duplicateResultEvicted => .ok (.failed commandSeq .duplicateResultEvicted none)
  | .outOfOrder expected => .ok (.failed commandSeq .outOfOrder (some expected))
  | .staleLease => .ok (failedStale commandSeq)
  | .alreadyPending | .pendingFull | .sequenceExhausted | .executeOnce => .error .internalInvariant

def trimTerminalCache (active : ActiveLease) : ActiveLease :=
  if terminalCacheCapacity < active.terminal.length then
    match active.terminal with
    | [] => active
    | evicted :: terminal => { active with terminal, evictedThrough := some evicted.sequence }
  else active

/-- `none` is the internal invariant error; the caller keeps what it had. -/
def completeActive (active : ActiveLease) (sequence : Nat) (lease : Option ControllerLeaseRef) : Option ActiveLease :=
  if sequence ∈ active.pending then
    some (trimTerminalCache { active with
      pending := active.pending.erase sequence
      terminal := active.terminal ++ [⟨sequence, .ok, lease⟩] })
  else none

def applyRenew (manager : ControllerLeaseManager) (session : AuthenticatedSession) (leaseId : LeaseId)
    (commandSeq nowMs : Nat) : CommandOutcome × ControllerLeaseManager :=
  let manager := (manager.expireIfNeeded nowMs).2
  match manager.validate session leaseId nowMs with
  | (.error _, manager) => (.ok (manager.releasedAdmission session leaseId commandSeq), manager)
  | (.ok _, manager) =>
    match manager.beginMutationInternal session leaseId commandSeq nowMs with
    | (.executeOnce, manager) =>
      match manager.active with
      | none => (.error .internalInvariant, manager)
      | some active =>
        let active := { active with expiresAtMs := saturatingAdd nowMs leaseTtlMs }
        let lease := leaseRef active nowMs
        match completeActive active commandSeq (some lease) with
        | none => (.error .internalInvariant, { manager with active := some active })
        | some active => (.ok (.completed commandSeq (some lease)), { manager with active := some active })
    | (admission, manager) => (manager.resultFromAdmission admission commandSeq, manager)

def applyRelease (manager : ControllerLeaseManager) (session : AuthenticatedSession) (leaseId : LeaseId)
    (commandSeq nowMs : Nat) : CommandOutcome × ControllerLeaseManager :=
  let manager := (manager.expireIfNeeded nowMs).2
  match manager.validate session leaseId nowMs with
  | (.error _, manager) => (.ok (manager.releasedAdmission session leaseId commandSeq), manager)
  | (.ok _, manager) =>
    match manager.beginMutationInternal session leaseId commandSeq nowMs with
    | (.executeOnce, manager) =>
      match manager.active with
      | none => (.error .internalInvariant, manager)
      | some active =>
        match completeActive active commandSeq none with
        | none => (.error .internalInvariant, manager)
        | some active =>
          (.ok (.completed commandSeq none), { manager with
            active := none
            released := some active
            state := .free
            lastTransition := some .revokingToFree })
    | (admission, manager) => (manager.resultFromAdmission admission commandSeq, manager)

def applyControllerCommand (manager : ControllerLeaseManager) (session : AuthenticatedSession)
    (command : ControllerCommand) (nowMs : Nat) (reads : Entropy) : CommandOutcome × ControllerLeaseManager :=
  match command with
  | .acquire => manager.applyAcquire session nowMs reads
  | .renew leaseId commandSeq => manager.applyRenew session leaseId commandSeq nowMs
  | .release leaseId commandSeq => manager.applyRelease session leaseId commandSeq nowMs
  | .unsupported commandSeq => (.ok (.failed commandSeq .unsupportedMessage none), manager)

end ControllerLeaseManager
end PhoneBoost.Worker
