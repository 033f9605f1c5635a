import PhoneBoost.Secure.Storage

/-! The runtime that the sessions of one endpoint share. Each function is one
critical section of the source: it takes the state its locks guard and returns
the new one. Wall clock readings, random reads and the answers of the kernel are
arguments; a clock that cannot be read is `none`. -/

namespace PhoneBoost.Secure

inductive EndpointRole where
  | linuxInitiator | androidResponder
deriving DecidableEq, Repr

inductive RuntimeState where
  | unpaired | pairingXx | sasPending | localConfirmed | peerConfirmed | mutualConfirmed | trustCommitting
  | committedWaitingPeer | paired | authenticated | pairRejected | pairingFailed | cooldown
deriving DecidableEq, Repr

inductive PairingActionResult where
  | accepted | duplicate | invalidState
deriving DecidableEq, Repr

inductive SessionOutcome where
  | lost | cancelled | rejected
deriving DecidableEq, Repr

inductive RuntimeError where
  | storage (error : StorageError) | noise | wire | pairPersistFailed | peerKeyMismatch | unknownInitiatorIkRejected
  | pairingTimeout | pairCancelled | sasRejected | pairingCooldown | pbmux | sessionLost | sessionBusy
  | noConnectedTransport | commandHandlerUnavailable | commandHandlerFailed
deriving DecidableEq, Repr

structure RuntimeInner where
  state : RuntimeState
  sas : Option String
  beginRequested : Bool
  confirmRequested : Bool
  confirmDispatched : Bool
  cancelRequested : Bool
  mismatchRequested : Bool
  authenticated : Bool
  sessionActive : Bool
deriving DecidableEq, Repr

structure SecureRuntime where
  role : EndpointRole
  identity : Identity
  store : StateStore
  peers : List PeerRecord
  guard : PairingGuard
  inner : RuntimeInner

def randomNonzeroU64 : Nat → List (Option UInt64) → Option UInt64
  | 0, _ => none
  | _ + 1, [] => none
  | _ + 1, none :: _ => none
  | retries + 1, some value :: reads => if value ≠ 0 then some value else randomNonzeroU64 retries reads

/-- Attempts of one draw from the random device. -/
def randomAttempts : Nat := 4

/-- What the runtime shows for a state of the pairing actor. -/
def RuntimeState.ofPairing : PairingState → RuntimeState
  | .unpaired => .unpaired
  | .pairingXx => .pairingXx
  | .sasPending => .sasPending
  | .localConfirmed => .localConfirmed
  | .peerConfirmed => .peerConfirmed
  | .mutualConfirmed => .mutualConfirmed
  | .trustCommitting => .trustCommitting
  | .paired => .committedWaitingPeer
  | .pairRejected => .pairRejected
  | .pairingFailed => .pairingFailed

namespace RuntimeInner

def initial (state : RuntimeState) : RuntimeInner where
  state
  sas := none
  beginRequested := false
  confirmRequested := false
  confirmDispatched := false
  cancelRequested := false
  mismatchRequested := false
  authenticated := false
  sessionActive := false

/-- The first critical section of `begin_pairing`, past its two checks. -/
def requestBegin (inner : RuntimeInner) : RuntimeInner :=
  if inner.beginRequested then inner else { inner with beginRequested := true, state := .pairingXx }

def localConfirm (inner : RuntimeInner) : PairingActionResult × RuntimeInner :=
  match inner.state with
  | .sasPending | .peerConfirmed | .localConfirmed | .mutualConfirmed =>
    if inner.confirmRequested || inner.state = .localConfirmed then (.duplicate, inner)
    else (.accepted, { inner with confirmRequested := true })
  | _ => (.invalidState, inner)

def cancel (inner : RuntimeInner) : PairingActionResult × RuntimeInner :=
  if inner.sas.isNone || inner.authenticated then (.invalidState, inner)
  else if inner.cancelRequested then (.duplicate, inner)
  else (.accepted, { inner with cancelRequested := true })

def mismatch (inner : RuntimeInner) : PairingActionResult × RuntimeInner :=
  if inner.sas.isNone || inner.authenticated then (.invalidState, inner)
  else if inner.mismatchRequested then (.duplicate, inner)
  else (.accepted, { inner with mismatchRequested := true })

def beginSession (inner : RuntimeInner) (xx : Bool) : Except RuntimeError Unit × RuntimeInner :=
  if inner.sessionActive then (.error .sessionBusy, inner)
  else
    (.ok (), { inner with
      sessionActive := true
      authenticated := false
      sas := none
      confirmRequested := false
      confirmDispatched := false
      cancelRequested := false
      mismatchRequested := false
      state := if xx then .pairingXx else .paired })

def endSession (inner : RuntimeInner) (hasCommittedPeer : Bool) : RuntimeInner :=
  { inner with
    sessionActive := false
    authenticated := false
    sas := none
    beginRequested := false
    confirmRequested := false
    confirmDispatched := false
    cancelRequested := false
    mismatchRequested := false
    state :=
      match inner.state with
      | .pairRejected | .pairingFailed => inner.state
      | _ => if hasCommittedPeer then .paired else .unpaired }

def setSas (inner : RuntimeInner) (sas : String) : RuntimeInner := { inner with sas := some sas, state := .sasPending }

def setPairingState (inner : RuntimeInner) (state : PairingState) : RuntimeInner :=
  { inner with state := .ofPairing state }

structure Actions where
  confirm : Bool
  cancel : Bool
  mismatch : Bool
deriving DecidableEq, Repr

def takeActions (inner : RuntimeInner) : Actions × RuntimeInner :=
  let confirm := inner.confirmRequested && !inner.confirmDispatched
  (⟨confirm, inner.cancelRequested, inner.mismatchRequested⟩, { inner with
    confirmDispatched := inner.confirmDispatched || confirm
    cancelRequested := false
    mismatchRequested := false })

end RuntimeInner

namespace SecureRuntime
variable (foreign : Foreign)

/-- What a start of the process brings: a clock reading, random bytes for a new
identity, and the kernel's answers to the two writes it may make. -/
structure Start where
  nowMs : Option UInt64
  random : Option Bytes32
  identityCalls : WriteCalls
  guardCalls : WriteCalls

/-- The guard after its admission check, and the store if the check changed it. -/
def admitOnStart (store : StateStore) (nowMs : UInt64) (calls : WriteCalls) :
    Except StorageError (Bool × PairingGuard) × StateStore :=
  match store.loadGuard foreign nowMs with
  | .error error => (.error error, store)
  | .ok guard =>
    let (admission, guard) := guard.admits nowMs
    if admission.stateChanged then
      match store.persistGuard foreign guard calls with
      | (.error error, store) => (.error error, store)
      | (.ok (), store) => (.ok (admission.value, guard), store)
    else (.ok (admission.value, guard), store)

/-- The store is returned on failure too: its directory outlives the process. -/
def initializeRuntime (role : EndpointRole) (store : StateStore) (start : Start) :
    Except RuntimeError SecureRuntime × StateStore :=
  match store.loadOrCreateIdentity foreign start.random start.identityCalls with
  | (.error error, store) => (.error (.storage error), store)
  | (.ok identity, store) =>
    match store.loadPeers foreign, start.nowMs with
    | .error error, _ => (.error (.storage error), store)
    | .ok _, none => (.error (.storage .io), store)
    | .ok peers, some nowMs =>
      match admitOnStart foreign store nowMs start.guardCalls with
      | (.error error, store) => (.error (.storage error), store)
      | (.ok (admitted, guard), store) =>
        let state : RuntimeState :=
          if admitted then (if peers.isEmpty then .unpaired else .paired) else .cooldown
        (.ok { role, identity, store, peers, guard, inner := .initial state }, store)

def hasCommittedPeer (runtime : SecureRuntime) : Bool := !runtime.peers.isEmpty

def oneCommittedPeer (runtime : SecureRuntime) : Except RuntimeError (Option PeerRecord) :=
  match runtime.peers with
  | [] => .ok none
  | [peer] => .ok (some peer)
  | _ => .error .peerKeyMismatch

def peerIsCommitted (runtime : SecureRuntime) (key : Bytes32) : Bool :=
  runtime.peers.any fun peer => peer.staticPublicKey = key

def peerAlias : EndpointRole → String
  | .linuxInitiator => "Android worker"
  | .androidResponder => "Linux host"

def commitPeer (runtime : SecureRuntime) (key : Bytes32) (nowMs : Option UInt64) (calls : WriteCalls) :
    Except RuntimeError Unit × SecureRuntime :=
  match nowMs with
  | none => (.error (.storage .io), runtime)
  | some nowMs =>
    let record := PeerRecord.new foreign key (peerAlias runtime.role) nowMs
    match runtime.store.commitPeer foreign record calls with
    | (.error _, store) => (.error .pairPersistFailed, { runtime with store })
    | (.ok (), store) =>
      let known := runtime.peers.any fun peer => peer.peerId = record.peerId
      (.ok (), { runtime with store, peers := if known then runtime.peers else runtime.peers ++ [record] })

/-- The session id is drawn last, when the runtime already shows the session. -/
def markAuthenticated (runtime : SecureRuntime) (remote : Bytes32) (nowMs : Option UInt64) (calls : WriteCalls)
    (reads : Entropy) : Except RuntimeError VerifiedPeerSession × SecureRuntime :=
  match nowMs with
  | none => (.error (.storage .io), runtime)
  | some nowMs =>
    let runtime := { runtime with guard := .paired nowMs }
    match runtime.store.persistGuard foreign runtime.guard calls with
    | (.error error, store) => (.error (.storage error), { runtime with store })
    | (.ok (), store) =>
      let runtime := { runtime with
        store
        inner := { runtime.inner with state := .authenticated, authenticated := true } }
      match (readNonzero randomAttempts reads).1 with
      | none => (.error .pairPersistFailed, runtime)
      | some sessionId => (.ok ⟨⟨foreign.sha256 remote⟩, ⟨sessionId⟩⟩, runtime)

def recordMismatch (runtime : SecureRuntime) (nowMs : Option UInt64) (calls : WriteCalls) :
    Except RuntimeError Unit × SecureRuntime :=
  match nowMs with
  | none => (.error (.storage .io), runtime)
  | some nowMs =>
    let runtime := { runtime with guard := runtime.guard.recordMismatch nowMs }
    match runtime.store.persistGuard foreign runtime.guard calls with
    | (.error error, store) => (.error (.storage error), { runtime with store })
    | (.ok (), store) =>
      let state : RuntimeState := if runtime.guard.cooldownUntilWallMs.isSome then .cooldown else .pairRejected
      (.ok (), { runtime with store, inner := { runtime.inner with state } })

def ensureGuardAdmits (runtime : SecureRuntime) (nowMs : Option UInt64) (calls : WriteCalls) :
    Except RuntimeError Unit × SecureRuntime :=
  match nowMs with
  | none => (.error (.storage .io), runtime)
  | some nowMs =>
    let (admission, guard) := runtime.guard.admits nowMs
    let runtime := { runtime with guard }
    let answer : Except RuntimeError Unit := if admission.value then .ok () else .error .pairingCooldown
    if admission.stateChanged then
      match runtime.store.persistGuard foreign guard calls with
      | (.error error, store) => (.error (.storage error), { runtime with store })
      | (.ok (), store) => (answer, { runtime with store })
    else (answer, runtime)

end SecureRuntime

end PhoneBoost.Secure
