import PhoneBoost.Host.LeaseLine

/-! The threads of the auto-use controller. The manager thread runs one
connection at a time, an executing thread holds the operation lock while it uses
the worker, and both meet in the shared data. A step is one critical section, with
the thread-local work before it; what a step learns from outside is its input. -/

namespace PhoneBoost.Host.Manager
open Controller
open Pbmux (AckPayload)

def admissionProofMaxAge : Nat := 2 * 1000000000

structure SessionIdentity where
  epoch : Nat
  serial : Nat
deriving DecidableEq, Repr

inductive GateState where
  | unknown | unavailable | active | expired | freshPass | failed | stale
deriving DecidableEq, Repr

structure GateObservation where
  state : GateState
  reason : String
deriving DecidableEq, Repr

structure LeaseObservation where
  observation : GateObservation
  identity : Option SessionIdentity := none
  leaseId : Option Bytes16 := none
  incarnation : Option Bytes16 := none
  notAfter : Option Nat := none
deriving DecidableEq, Repr

structure AdmissionProofObservation where
  observation : GateObservation
  observedAt : Option Nat := none
  identity : Option SessionIdentity := none
  leaseId : Option Bytes16 := none
  incarnation : Option Bytes16 := none
deriving DecidableEq, Repr

/-- A session of the manager. Its client is named by the number of the session. -/
structure Session where
  identity : SessionIdentity
  client : Nat
deriving DecidableEq, Repr

structure SharedData where
  enabled : Bool
  epoch : Nat
  nextSessionSerial : Nat
  status : NodeStatus
  sessionClient : Option Nat
  sessionIdentity : Option SessionIdentity
  active : Option Session
  leaseObservation : LeaseObservation
  admissionProofObservation : AdmissionProofObservation
deriving DecidableEq, Repr

def nodeStatus (state : AutoUseState) (reason : AutoUseReason) : NodeStatus :=
  ⟨state, reason, state = .available && reason = .ready⟩

def notObserved : GateObservation := ⟨.unknown, "NOT_OBSERVED"⟩
def unavailableLease (reason : String) : LeaseObservation := { observation := ⟨.unavailable, reason⟩ }
def unknownAdmissionProof (reason : String) : AdmissionProofObservation := { observation := ⟨.unknown, reason⟩ }

namespace SharedData
variable (data : SharedData)

def enable : SharedData :=
  if data.enabled then data
  else { data with
    enabled := true
    epoch := max (saturatingAdd data.epoch 1) 1
    status := nodeStatus .discovering .noDevice
    leaseObservation := { observation := notObserved }
    admissionProofObservation := { observation := notObserved } }

/-- The changes of `disable`; the client of the session is cancelled before. -/
def disable : SharedData :=
  if !data.enabled && data.status.state = .off then data
  else { data with
    enabled := false
    epoch := max (saturatingAdd data.epoch 1) 1
    status := nodeStatus .off .off
    active := none
    sessionIdentity := none
    leaseObservation := unavailableLease "AUTO_USE_DISABLED"
    admissionProofObservation := unknownAdmissionProof "AUTO_USE_DISABLED" }

/-- `data.enabled && data.session_identity == Some(identity)`. -/
def holds (identity : SessionIdentity) : Bool := data.enabled && data.sessionIdentity = some identity

def recordLeaseActive (identity : SessionIdentity) (lease : LeaseContext) : SharedData :=
  if data.holds identity then { data with
    leaseObservation := ⟨⟨.active, "C07_ACK_FRESH"⟩, identity, lease.leaseId, lease.incarnation, lease.notAfter⟩ }
  else data

def recordLeaseUnavailable (identity : SessionIdentity) (reason : String) : SharedData :=
  if data.holds identity then { data with leaseObservation := unavailableLease reason } else data

def recordAdmissionProof (identity : SessionIdentity) (lease : LeaseContext) (passed : Bool) (now : Nat) : SharedData :=
  if data.holds identity then { data with
    admissionProofObservation :=
      ⟨if passed then ⟨.freshPass, "C08_C09_C10_PROBE_PASSED"⟩ else ⟨.failed, "C08_C09_C10_PROBE_FAILED"⟩, now, identity,
        lease.leaseId, lease.incarnation⟩ }
  else data

/-- `publish_available`; `authenticated` is the snapshot of the client. -/
def publishAvailable (session : Session) (authenticated : Bool) : SharedData :=
  if data.holds session.identity && data.epoch = session.identity.epoch && authenticated then
    { data with active := some session, status := nodeStatus .available .ready }
  else data

def markConnectionLost (identity : SessionIdentity) : SharedData :=
  if data.holds identity then { data with active := none, status := nodeStatus .reconnecting .reconnecting } else data

def markDegraded (identity : SessionIdentity) (reason : AutoUseReason) : SharedData :=
  if data.holds identity then { data with active := none, status := nodeStatus .degraded reason } else data

def setPhase (epoch : Nat) (state : AutoUseState) (reason : AutoUseReason) : SharedData :=
  if data.enabled && data.epoch = epoch then { data with active := none, status := nodeStatus state reason } else data

def clearSession (identity : SessionIdentity) : SharedData :=
  if data.sessionIdentity = some identity then { data with
    sessionClient := none
    sessionIdentity := none
    active := none
    leaseObservation := unavailableLease "SESSION_INVALIDATED"
    admissionProofObservation := unknownAdmissionProof "SESSION_INVALIDATED" }
  else data

/-- The section of `run_connection` that makes a session. -/
def connect (epoch client : Nat) : SharedData × Session :=
  let serial := max (saturatingAdd data.nextSessionSerial 1) 1
  ({ data with
    nextSessionSerial := serial
    sessionClient := some client
    sessionIdentity := some ⟨epoch, serial⟩
    status := nodeStatus .authenticating .authFailed }, ⟨⟨epoch, serial⟩, client⟩)

def isCurrent (epoch : Nat) : Bool := data.enabled && data.epoch = epoch

/-- `SessionAccess::is_current`. -/
def accessIsCurrent (identity : SessionIdentity) : Bool :=
  data.enabled && data.epoch = identity.epoch && data.sessionIdentity = some identity

section Observations
variable (authenticated : Nat → Bool)

def sessionIsCurrent (identity : SessionIdentity) : Bool :=
  data.sessionIdentity = some identity && data.sessionClient.any authenticated

def currentLeaseObservation (now : Nat) : GateObservation :=
  let entry := data.leaseObservation
  if entry.observation.state ≠ .active then entry.observation
  else
    match entry.identity with
    | none => ⟨.unavailable, "SESSION_INVALIDATED"⟩
    | some identity =>
      if !data.sessionIsCurrent authenticated identity then ⟨.unavailable, "SESSION_INVALIDATED"⟩
      else if entry.notAfter.all fun notAfter => notAfter ≤ now then ⟨.expired, "ACK_TTL_ELAPSED"⟩
      else entry.observation

def currentAdmissionProofObservation (now : Nat) : GateObservation :=
  let entry := data.admissionProofObservation
  match entry.observedAt with
  | none => entry.observation
  | some observedAt =>
    match entry.identity with
    | none => ⟨.unknown, "SESSION_INVALIDATED"⟩
    | some identity =>
      if data.sessionIdentity ≠ some identity then
        ⟨.unknown, if data.sessionIdentity.isSome then "IDENTITY_OR_INCARNATION_CHANGED" else "SESSION_INVALIDATED"⟩
      else if !data.sessionIsCurrent authenticated identity then ⟨.unknown, "SESSION_INVALIDATED"⟩
      else if (data.currentLeaseObservation authenticated now).state ≠ .active ||
          data.leaseObservation.leaseId ≠ entry.leaseId || data.leaseObservation.incarnation ≠ entry.incarnation then
        ⟨.unknown, "LEASE_INVALIDATED"⟩
      else if admissionProofMaxAge < now - observedAt then ⟨.stale, "PROOF_EXPIRED"⟩
      else entry.observation

/-- The two gates of `gate_observations` that speak about the worker. -/
def gateObservations (now : Nat) : GateObservation × GateObservation :=
  if !data.enabled then (⟨.unavailable, "AUTO_USE_DISABLED"⟩, ⟨.unknown, "AUTO_USE_DISABLED"⟩)
  else (data.currentLeaseObservation authenticated now, data.currentAdmissionProofObservation authenticated now)

end Observations
end SharedData

/-- The client of the latest session. Those of earlier sessions are closed. -/
structure Client where
  number : Nat
  authenticated : Bool
  cancelled : Bool
deriving DecidableEq, Repr

def Client.cancel (client : Client) (number : Nat) : Client :=
  if client.number = number then { client with authenticated := false, cancelled := true } else client

/-- Who has the operation lock. -/
inductive Operation where
  | free
  | executing (active : Session)
  | losing (active : Session)
deriving DecidableEq, Repr

/-- Where the manager thread is: at the next critical section of `run_enabled`
or `run_connection`. -/
inductive Pc where
  | outside (epoch : Option Nat)
  | authenticating (session : Session)
  | acquiring (session : Session)
  | asking (session : Session)
  | refused (session : Session)
  | acquired (session : Session) (lease : LeaseContext)
  | checking (session : Session) (lease : LeaseContext)
  | probing (session : Session) (lease : LeaseContext) (first : Bool)
  | degrading (session : Session) (lease : LeaseContext) (reason : AutoUseReason) (first : Bool)
  | publishing (session : Session) (lease : LeaseContext) (first : Bool)
  | looping (session : Session) (lease : LeaseContext)
  | live (session : Session) (lease : LeaseContext)
  | renewing (session : Session) (lease : LeaseContext)
  | renewed (session : Session) (lease : LeaseContext)
  | republishing (session : Session) (lease : LeaseContext)
  | idling (session : Session) (lease : LeaseContext)
  | leaving (session : Session) (lease : LeaseContext)
  | losing (session : Session)
  | closing (session : Session)
deriving DecidableEq, Repr

/-- What has happened, for the record. -/
inductive Event where
  | leased (identity : SessionIdentity) (lease : LeaseContext)
  | probing (identity : SessionIdentity)
  | probed (identity : SessionIdentity) (lease : LeaseContext) (passed : Bool) (time : Nat)
  | degraded (identity : SessionIdentity)
  | available (identity : SessionIdentity)
  | released (identity : SessionIdentity) (commandSeq : UInt64)
  | left (identity : SessionIdentity) (lease : LeaseContext)
deriving DecidableEq, Repr

structure System where
  now : Nat
  data : SharedData
  client : Client
  operation : Operation
  pc : Pc
  log : List Event
deriving DecidableEq, Repr

/-- What a step of the manager learns: whether a wait, a remote call or a look at
the client went well, whether a failure lost the transport, whether the time of a
RENEW or a probe has come, whether a failed probe was looked at, and the
acknowledgement of a lease command. -/
structure Answer where
  ok : Bool := true
  transportLost : Bool := false
  due : Bool := false
  looked : Bool := false
  reason : AutoUseReason := .workerUnhealthy
  phase : AutoUseState := .discovering
  connects : Bool := false
  ack : Option AckPayload := none
  sentAt : Nat := 0

inductive Act where
  | enable | disable
  | authenticate | sessionEnds
  | begin
  | finish (failure : Option RemoteFailure)
  | manager (answer : Answer)

namespace System
variable (system : System)

def authenticated (number : Nat) : Bool := system.client.number = number && system.client.authenticated

def logged (event : Event) (happens : Bool) : List Event := if happens then system.log ++ [event] else system.log

/-- `publish_available` and the record of it. -/
def publish (session : Session) (pc : Pc) : System :=
  let authenticated := system.authenticated session.client
  { system with
    data := system.data.publishAvailable session authenticated
    pc
    log := system.logged (.available session.identity)
      (system.data.holds session.identity && system.data.epoch = session.identity.epoch && authenticated) }

/-- The loop is left by cancelling the session. -/
def close (session : Session) : System :=
  { system with client := system.client.cancel session.client, pc := .closing session }

/-- `readiness_with_purge_proof` has come to its end. Without a look at the probe
there is nothing to record. -/
def probeEnds (session : Session) (lease : LeaseContext) (first : Bool) (answer : Answer) : System :=
  let recorded := answer.ok || answer.looked
  let system := if recorded then { system with
      data := system.data.recordAdmissionProof session.identity lease answer.ok system.now
      log := system.logged (.probed session.identity lease answer.ok system.now) (system.data.holds session.identity) }
    else system
  if answer.ok then { system with pc := .publishing session lease first }
  else if answer.transportLost then
    if first then system.close session else { system.close session with pc := .losing session }
  else { system with pc := .degrading session lease answer.reason first }

def managerStep (answer : Answer) : System :=
  match system.pc with
  | .outside none => if system.data.enabled then { system with pc := .outside (some system.data.epoch) } else system
  | .outside (some epoch) =>
    if !system.data.isCurrent epoch then { system with pc := .outside none }
    else if answer.connects then
      let client := system.client.number + 1
      let (data, session) := system.data.connect epoch client
      { system with data, client := ⟨client, false, false⟩, pc := .authenticating session }
    else if answer.phase = .available || answer.phase = .degraded then system
    else { system with data := system.data.setPhase epoch answer.phase answer.reason }
  | .authenticating session =>
    if answer.ok then { system with
      data := system.data.setPhase session.identity.epoch .acquiringAuthority .leaseUnavailable
      pc := .acquiring session }
    else system.close session
  | .acquiring session =>
    if system.data.accessIsCurrent session.identity && answer.ok then { system with pc := .asking session }
    else system.close session
  | .asking session =>
    match answer.ack.map fun ack => leaseFromAck ack none answer.sentAt with
    | some (.ok lease) => { system with
        data := system.data.recordLeaseActive session.identity lease
        pc := .acquired session lease
        log := system.log ++ [.leased session.identity lease] }
    | _ =>
      if answer.transportLost then system.close session
      else { system with
        data := system.data.recordLeaseUnavailable session.identity "C07_ACQUIRE_FAILED"
        pc := .refused session }
  | .refused session => { system with
      data := system.data.setPhase session.identity.epoch .unavailable .leaseUnavailable
      pc := .acquiring session }
  | .acquired session lease => { system with
      data := system.data.setPhase session.identity.epoch .checkingReadiness .workerUnhealthy
      pc := .checking session lease }
  | .checking session lease =>
    if system.data.accessIsCurrent session.identity && answer.ok then { system with
      pc := .probing session lease true
      log := system.log ++ [.probing session.identity] }
    else system.close session
  | .probing session lease first => system.probeEnds session lease first answer
  | .degrading session lease reason first =>
    if first then { system with
      data := system.data.setPhase session.identity.epoch .degraded reason
      pc := .checking session lease
      log := system.logged (.degraded session.identity) (system.data.isCurrent session.identity.epoch) }
    else { system with
      data := system.data.markDegraded session.identity reason
      pc := .looping session lease
      log := system.logged (.degraded session.identity) (system.data.holds session.identity) }
  | .publishing session lease first =>
    -- before the loop a heartbeat has to come first
    if first && !answer.ok then system.close session else system.publish session (.looping session lease)
  | .looping session lease =>
    if system.data.isCurrent session.identity.epoch then { system with pc := .live session lease }
    else { system with pc := .leaving session lease }
  | .live session lease =>
    if !answer.ok then { system with pc := .losing session }
    else if answer.due then { system with pc := .renewing session lease }
    else { system with pc := .idling session lease }
  | .renewing session lease =>
    match answer.ack.map fun ack => leaseFromAck ack (some lease) answer.sentAt with
    | some (.ok lease) => { system with
        data := system.data.recordLeaseActive session.identity lease
        pc := .renewed session lease
        log := system.log ++ [.leased session.identity lease] }
    | _ => { system.close session with
        data := system.data.recordLeaseUnavailable session.identity "C07_RENEW_FAILED"
        pc := .losing session }
  | .renewed session lease =>
    if system.data.status.state = .available then { system with pc := .republishing session lease }
    else { system with pc := .idling session lease }
  | .republishing session lease => system.publish session (.idling session lease)
  | .idling session lease =>
    if system.data.status.state = .degraded && answer.due then { system with
      pc := .probing session lease false
      log := system.log ++ [.probing session.identity] }
    else { system with pc := .looping session lease }
  | .leaving session lease =>
    -- RELEASE goes out under the operation lock, if the session is still current
    if system.operation = .free then
      { system.close session with
        log := system.logged (.released session.identity lease.nextCommandSeq)
          (system.data.accessIsCurrent session.identity) ++ [.left session.identity lease] }
    else system
  | .losing session => { system.close session with data := system.data.markConnectionLost session.identity }
  | .closing session => { system with
      client := { system.client with authenticated := false }
      data := system.data.clearSession session.identity
      pc := .outside (some session.identity.epoch) }

def act : Act → System
  | .enable => { system with data := system.data.enable }
  | .disable =>
    if !system.data.enabled && system.data.status.state = .off then system
    else { system with
      client := system.data.sessionClient.elim system.client system.client.cancel
      data := system.data.disable }
  | .authenticate => { system with client := { system.client with authenticated := !system.client.cancelled } }
  | .sessionEnds => { system with client := { system.client with authenticated := false } }
  | .begin =>
    match system.operation, system.data.active with
    | .free, some active =>
      if system.data.enabled && system.data.status.state = .available then { system with operation := .executing active }
      else system
    | _, _ => system
  | .finish failure =>
    match system.operation, failure with
    | .executing _, none => { system with operation := .free }
    | .executing active, some failure =>
      if failure.transportLost then
        { system with client := system.client.cancel active.client, operation := .losing active }
      else { system with
        data := system.data.markDegraded active.identity failure.reason
        operation := .free
        log := system.logged (.degraded active.identity) (system.data.holds active.identity) }
    | .losing active, _ => { system with
        data := system.data.markConnectionLost active.identity
        operation := .free }
    | _, _ => system
  | .manager answer => system.managerStep answer

end System

/-- A step and the time until it. -/
structure Timed where
  elapsed : Nat
  act : Act

def System.step (system : System) (timed : Timed) : System :=
  { system with now := system.now + timed.elapsed }.act timed.act

def initial : System where
  now := 0
  data := ⟨false, 0, 0, nodeStatus .off .off, none, none, none, { observation := notObserved }, { observation := notObserved }⟩
  client := ⟨0, false, true⟩
  operation := .free
  pc := .outside none
  log := []

def systemRun (acts : List Timed) : System := Machine.run System.step initial acts

end PhoneBoost.Host.Manager
