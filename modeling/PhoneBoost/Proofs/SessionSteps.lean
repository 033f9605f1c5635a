import PhoneBoost.Proofs.PersistFailures
import PhoneBoost.Secure.Sessions

/-! What one step of a thread can touch. Apart from the four functions that read
the clock, a step changes the displayed state only. -/

namespace PhoneBoost.Secure.Proofs
open Keyed Pbmux

/-- What a step from each point may log. -/
def Pc.may : Pc → Action → Bool
  | .admitting, .admission .. => true
  | .beginning .., .began .. => true
  | .handshaking .., .handshaken _ => true
  | .polling _, .confirmDispatched => true
  | .rejecting, .mismatchRecorded .. => true
  | .sending _, .sent _ => true
  | .receiving _, .received _ | .awaiting .., .received _ => true
  | .receiving _, .sent frame | .announcing _, .sent frame | .greeting _, .sent frame | .awaiting .., .sent frame
  | .authenticated _, .sent frame => !isPairConfirm frame
  | .committing loop, .commitCalled key => loop.remote = key
  | .authenticating remote, .minted key _ => remote = key
  | .closing _, .finished _ => true
  | _, _ => false

theorem may_admission {pc : Pc} {nowMs : Option UInt64} {answer : Except RuntimeError Unit}
    (may : Pc.may pc (.admission nowMs answer) = true) : pc = .admitting := by
  cases pc <;> first | rfl | cases may

theorem may_mismatchRecorded {pc : Pc} {nowMs : Option UInt64} {count : UInt8}
    (may : Pc.may pc (.mismatchRecorded nowMs count) = true) : pc = .rejecting := by
  cases pc <;> first | rfl | cases may

section Frame
variable (foreign : Foreign) (program : Program) (runtime : SecureRuntime) (nowMs : Option UInt64) (outside : Outside)

/-- Only `inner` moves, and the step logs what it may. -/
structure Displays (runtime : SecureRuntime) (pc : Pc) (moved : Moved) : Prop where
  frame : moved.1 = { runtime with inner := moved.1.inner }
  logs : ∀ action ∈ moved.2.2, Pc.may pc action = true

variable {runtime} in
theorem displays_none {shown : SecureRuntime} (frame : shown = { runtime with inner := shown.inner }) (pc next : Pc) :
    Displays runtime pc (shown, next, []) :=
  ⟨frame, fun _ impossible => (List.not_mem_nil impossible).elim⟩

variable {runtime} in
theorem displays_one {shown : SecureRuntime} (frame : shown = { runtime with inner := shown.inner }) {pc next : Pc}
    {action : Action} (may : Pc.may pc action = true) : Displays runtime pc (shown, next, [action]) := by
  refine ⟨frame, ?_⟩
  intro other member
  rw [List.mem_singleton.mp member]
  exact may

variable {runtime} in
theorem displays_sendFrame {shown : SecureRuntime} (same : shown = { runtime with inner := shown.inner }) {pc : Pc}
    {frame : Frame} (may : Pc.may pc (.sent frame) = true) (sequence : UInt64) (next : UInt64 → Pc) :
    Displays runtime pc (sendFrame shown outside sequence frame next) := by
  rw [sendFrame]
  split
  · exact displays_none same _ _
  · split <;> exact displays_one same may

theorem Displays.after {pc : Pc} {moved : Moved} (displays : Displays runtime pc moved) {frame : Frame}
    (may : Pc.may pc (.received frame) = true) : Displays runtime pc (moved.after frame) := by
  refine ⟨displays.frame, ?_⟩
  intro action member
  rcases List.mem_cons.mp member with rfl | member
  · exact may
  · exact displays.logs action member

theorem displays_shakeHands (peer : Option PeerRecord) (xx : Bool) :
    Displays runtime (.handshaking peer xx) (shakeHands runtime outside peer xx) := by
  rw [shakeHands]
  split
  · exact displays_none rfl _ _
  split
  · dsimp only
    split <;> exact displays_one rfl rfl
  · dsimp only
    split
    · exact displays_none rfl _ _
    · exact displays_one rfl rfl
    · exact displays_one rfl rfl

theorem displays_poll (loop : PairingLoop) : Displays runtime (.polling loop) (poll runtime outside loop) := by
  rw [poll]
  split
  · exact displays_none rfl _ _
  dsimp only
  split
  · exact displays_none rfl _ _
  split
  · exact displays_none rfl _ _
  split
  · exact displays_one rfl rfl
  · exact displays_none rfl _ _

theorem displays_dispatch (source loop : PairingLoop) (frame : Frame) :
    Displays runtime (.receiving source) (dispatch program runtime outside loop frame) := by
  rw [dispatch]
  split
  · split <;> exact displays_none rfl _ _
  · split
    · exact displays_sendFrame outside rfl rfl _ _
    · exact displays_none rfl _ _
  · split
    · split <;> exact displays_none rfl _ _
    · exact displays_none rfl _ _
  · exact displays_none rfl _ _
  · exact displays_none rfl _ _

theorem displays_receive (loop : PairingLoop) :
    Displays runtime (.receiving loop) (receive program runtime outside loop) := by
  rw [receive]
  split
  · exact displays_none rfl _ _
  · exact displays_none rfl _ _
  refine Displays.after runtime ?_ rfl
  rw [receiveFrame]
  split
  · exact displays_none rfl _ _
  split
  · exact displays_none rfl _ _
  · exact displays_dispatch program runtime outside loop _ _

theorem displays_sendConfirm (loop : PairingLoop) :
    Displays runtime (.sending loop) (sendConfirm runtime outside loop) := by
  rw [sendConfirm]
  split
  · exact displays_none rfl _ _
  split
  · exact displays_none rfl _ _
  · exact displays_sendFrame outside rfl rfl _ _

theorem displays_announce (loop : PairingLoop) :
    Displays runtime (.announcing loop) (announce program runtime outside loop) := by
  rw [announce]
  dsimp only
  split
  · split
    · exact displays_none rfl _ _
    · exact displays_sendFrame outside rfl rfl _ _
  · exact displays_none rfl _ _

theorem displays_greet (remote : Bytes32) : Displays runtime (.greeting remote) (greet program runtime outside remote) := by
  rw [greet]
  split
  · split
    · exact displays_none rfl _ _
    · exact displays_sendFrame outside rfl rfl _ _
  · exact displays_none rfl _ _

theorem displays_await (remote : Bytes32) (request : Option UInt64) :
    Displays runtime (.awaiting remote request) (await program runtime outside remote request) := by
  rw [await]
  split
  · exact displays_none rfl _ _
  · exact displays_none rfl _ _
  refine Displays.after runtime ?_ rfl
  rw [welcome]
  split
  · exact displays_none rfl _ _
  split
  · split <;> exact displays_none rfl _ _
  split
  · exact displays_none rfl _ _
  · exact displays_sendFrame outside rfl rfl _ _

theorem displays_serve (session : VerifiedPeerSession) :
    Displays runtime (.authenticated session) (serve runtime outside session) := by
  have frames : ∀ action ∈ (outside.emitted.filter fun frame => !isPairConfirm frame).map Action.sent,
      Pc.may (.authenticated session) action = true := by
    intro action member
    obtain ⟨frame, kept, rfl⟩ := List.mem_map.mp member
    exact (List.mem_filter.mp kept).2
  rw [serve]
  split <;> exact ⟨rfl, frames⟩

theorem step_displays {pc : Pc} (unclocked : pc.readsClock = false) :
    Displays runtime pc (pc.step foreign program runtime nowMs outside) := by
  cases pc with
  | idle | killed | asking | returned | waiting | finished | marking | cancelling | confirming =>
    exact displays_none rfl _ _
  | opening =>
    simp only [Pc.step, openSession]
    split
    · split <;> exact displays_none rfl _ _
    · split <;> exact displays_none rfl _ _
  | beginning peer xx =>
    simp only [Pc.step, enterSession]
    split
    · exact displays_none rfl _ _
    · exact displays_one rfl rfl
  | handshaking peer xx => exact displays_shakeHands runtime outside peer xx
  | polling loop => exact displays_poll runtime outside loop
  | sending loop => exact displays_sendConfirm runtime outside loop
  | receiving loop => exact displays_receive program runtime outside loop
  | deciding loop =>
    simp only [Pc.step, decideCommit]
    split <;> exact displays_none rfl _ _
  | announcing loop => exact displays_announce program runtime outside loop
  | greeting remote => exact displays_greet program runtime outside remote
  | awaiting remote request => exact displays_await program runtime outside remote request
  | authenticated session => exact displays_serve runtime outside session
  | closing result => exact displays_one rfl rfl
  | admitting | rejecting | committing | authenticating => cases unclocked

/-- The functions that read the clock log one action at most. -/
theorem step_logs (pc : Pc) : ∀ action ∈ (pc.step foreign program runtime nowMs outside).2.2, Pc.may pc action = true := by
  have one {action : Action} (may : Pc.may pc action = true) : ∀ other ∈ [action], Pc.may pc other = true := by
    intro other member
    rw [List.mem_singleton.mp member]
    exact may
  by_cases clocked : pc.readsClock = true
  · cases pc with
    | admitting =>
      simp only [Pc.step, checkGuard]
      split <;> exact one rfl
    | rejecting =>
      simp only [Pc.step, reject]
      split
      · exact fun _ impossible => (List.not_mem_nil impossible).elim
      · exact one rfl
    | committing loop =>
      have may : Pc.may (.committing loop) (.commitCalled loop.remote) = true := decide_eq_true rfl
      simp only [Pc.step, commit]
      split
      · exact one may
      · split <;> exact one may
    | authenticating remote =>
      simp only [Pc.step, authenticate]
      split
      · exact fun _ impossible => (List.not_mem_nil impossible).elim
      · exact one (decide_eq_true rfl)
    | _ => cases clocked
  · exact (step_displays foreign program runtime nowMs outside (Bool.not_eq_true _ ▸ clocked)).logs

end Frame

/-! The guard in memory and its file. -/

section Guard
variable {foreign : Foreign}

theorem objectBound_guardObject (guard : PairingGuard) :
    468 ≤ objectBound (guardObject guard) ∧ objectBound (guardObject guard) ≤ 488 := by
  have names : "schema_version".utf8ByteSize = 14 ∧ "mismatch_count".utf8ByteSize = 14 ∧
      "cooldown_until_wall_ms".utf8ByteSize = 22 ∧ "updated_wall_ms".utf8ByteSize = 15 := by decide
  obtain ⟨count, expiry, updated⟩ := guard
  cases expiry with
  | none =>
    simp only [objectBound, guardObject, List.map_cons, List.map_nil, List.sum_cons, List.sum_nil, names, textBound]
    omega
  | some expiry =>
    simp only [objectBound, guardObject, List.map_cons, List.map_nil, List.sum_cons, List.sum_nil, names, textBound]
    omega

theorem loadGuard_congr {store store' : StateStore} (uid : store'.uid = store.uid)
    (file : store'.root.get? (utf8 guardFile) = store.root.get? (utf8 guardFile)) (nowMs : UInt64) :
    store'.loadGuard foreign nowMs = store.loadGuard foreign nowMs := by
  rw [StateStore.loadGuard, StateStore.loadGuard, readAuthority, readAuthority, uid, file]

theorem Serialises.guard_small {guard : PairingGuard} (serialises : Serialises foreign (guardObject guard)) :
    (foreign.toVec (guardObject guard) ++ [newline]).length ≤ maxAuthorityBytes := by
  have bound := serialises.compact.trans (objectBound_guardObject guard).2
  rw [List.length_append, List.length_singleton, maxAuthorityBytes]
  omega

/-- After a write the file holds the new guard, or the write failed and the old one is read. -/
theorem persistGuard_loads {guard : PairingGuard} (serialises : Serialises foreign (guardObject guard)) (store : StateStore)
    (calls : WriteCalls) :
    (∀ nowMs, (store.persistGuard foreign guard calls).2.loadGuard foreign nowMs = .ok guard) ∨
      ((store.persistGuard foreign guard calls).1 ≠ .ok () ∧
        ∀ nowMs, (store.persistGuard foreign guard calls).2.loadGuard foreign nowMs = store.loadGuard foreign nowMs) := by
  have plain : temporary (utf8 guardFile) = false := by decide
  have wrote := writeRoot_wrote store (foreign.toVec (guardObject guard) ++ [newline]) calls (ne_temp_of_visible store plain)
  have frame := writeRoot_frame store guardFile (foreign.toVec (guardObject guard) ++ [newline]) calls
  rw [StateStore.persistGuard]
  generalize store.writeRoot guardFile (foreign.toVec (guardObject guard) ++ [newline]) calls = written at wrote frame
  obtain ⟨result, after⟩ := written
  dsimp only at wrote frame ⊢
  generalize root_eq : after.root = root at wrote
  cases wrote with
  | renamed _ _ renames =>
    left
    intro nowMs
    have read : readAuthority after.uid after.root guardFile = .ok (foreign.toVec (guardObject guard) ++ [newline]) := by
      rw [frame.1, root_eq]
      exact readAuthority_readable (Table.get?_insert_self ..) (authority_readable renames serialises.guard_small)
    rw [StateStore.loadGuard, read, root_eq, Table.get?_insert_self]
    exact parseGuard_written serialises
  | kept =>
    right
    refine ⟨by simp, fun nowMs => loadGuard_congr frame.1 (by rw [root_eq]) nowMs⟩
  | leftover _ left absent =>
    right
    refine ⟨by simp, fun nowMs => loadGuard_congr frame.1 ?_ nowMs⟩
    rw [root_eq]
    exact Table.get?_insert_of_ne _ _ (ne_temp_of_visible store plain)

/-- The runtime adopts a guard; the file has the new one or still the old one. -/
structure Adopts (foreign : Foreign) (before after : SecureRuntime) (guard : PairingGuard) : Prop where
  memory : after.guard = guard
  disk : (∀ nowMs, after.store.loadGuard foreign nowMs = .ok guard) ∨
    ∀ nowMs, after.store.loadGuard foreign nowMs = before.store.loadGuard foreign nowMs

variable (serialises : ∀ guard, Serialises foreign (guardObject guard))
include serialises

theorem ensureGuardAdmits_adopts (runtime : SecureRuntime) (nowMs : UInt64) (calls : WriteCalls) :
    Adopts foreign runtime (runtime.ensureGuardAdmits foreign (some nowMs) calls).2 (runtime.guard.admits nowMs).2 := by
  have loads := persistGuard_loads (serialises (runtime.guard.admits nowMs).2) runtime.store calls
  simp only [SecureRuntime.ensureGuardAdmits]
  split
  · split
    next written =>
      rw [written] at loads
      exact ⟨rfl, loads.imp_right And.right⟩
    next written =>
      rw [written] at loads
      exact ⟨rfl, loads.imp_right And.right⟩
  · exact ⟨rfl, .inr fun _ => rfl⟩

theorem recordMismatch_adopts (runtime : SecureRuntime) (nowMs : UInt64) (calls : WriteCalls) :
    Adopts foreign runtime (runtime.recordMismatch foreign (some nowMs) calls).2 (runtime.guard.recordMismatch nowMs) ∧
      ((runtime.recordMismatch foreign (some nowMs) calls).1 = .ok () → ∀ later,
        (runtime.recordMismatch foreign (some nowMs) calls).2.store.loadGuard foreign later =
          .ok (runtime.guard.recordMismatch nowMs)) := by
  have loads := persistGuard_loads (serialises (runtime.guard.recordMismatch nowMs)) runtime.store calls
  simp only [SecureRuntime.recordMismatch]
  split
  next written =>
    rw [written] at loads
    exact ⟨⟨rfl, loads.imp_right And.right⟩, by simp⟩
  next written =>
    rw [written] at loads
    have done := loads.resolve_right fun failed => failed.1 rfl
    exact ⟨⟨rfl, .inl done⟩, fun _ => done⟩

theorem markAuthenticated_adopts (runtime : SecureRuntime) (remote : Bytes32) (nowMs : UInt64) (calls : WriteCalls)
    (reads : Entropy) :
    Adopts foreign runtime (runtime.markAuthenticated foreign remote (some nowMs) calls reads).2 (.paired nowMs) := by
  have loads := persistGuard_loads (serialises (.paired nowMs)) runtime.store calls
  simp only [SecureRuntime.markAuthenticated]
  split
  next written =>
    rw [written] at loads
    exact ⟨rfl, loads.imp_right And.right⟩
  next written =>
    rw [written] at loads
    split <;> exact ⟨rfl, loads.imp_right And.right⟩

omit serialises in
/-- A commit writes in the other directory. -/
theorem commitPeer_guard (runtime : SecureRuntime) (key : Bytes32) (nowMs : Option UInt64) (calls : WriteCalls) :
    (runtime.commitPeer foreign key nowMs calls).2.guard = runtime.guard ∧
      ∀ later, (runtime.commitPeer foreign key nowMs calls).2.store.loadGuard foreign later =
        runtime.store.loadGuard foreign later := by
  have frame (record : PeerRecord) : (runtime.store.commitPeer foreign record calls).2.uid = runtime.store.uid ∧
      (runtime.store.commitPeer foreign record calls).2.root = runtime.store.root := by
    rw [StateStore.commitPeer]
    split
    · exact ⟨rfl, rfl⟩
    · exact writePeers_frame runtime.store _ _ calls
  cases nowMs with
  | none => exact ⟨rfl, fun _ => rfl⟩
  | some nowMs =>
    have kept := frame (.new foreign key (SecureRuntime.peerAlias runtime.role) nowMs)
    simp only [SecureRuntime.commitPeer]
    split
    next written =>
      rw [written] at kept
      exact ⟨rfl, loadGuard_congr kept.1 (by rw [kept.2])⟩
    next written =>
      rw [written] at kept
      exact ⟨rfl, loadGuard_congr kept.1 (by rw [kept.2])⟩

end Guard

/-! The trust store. Only a commit changes it. -/

/-- The records in memory and the files on disk are those of before. -/
def SameTrust (before after : SecureRuntime) : Prop :=
  after.peers = before.peers ∧ after.store.peers = before.store.peers

section Trust
variable {foreign : Foreign} (runtime : SecureRuntime) (nowMs : Option UInt64) (outside : Outside)

theorem persistGuard_peers (store : StateStore) (guard : PairingGuard) (calls : WriteCalls) :
    (store.persistGuard foreign guard calls).2.peers = store.peers :=
  (writeRoot_frame store guardFile _ calls).2

theorem ensureGuardAdmits_trust (calls : WriteCalls) :
    SameTrust runtime (runtime.ensureGuardAdmits foreign nowMs calls).2 := by
  cases nowMs with
  | none => exact ⟨rfl, rfl⟩
  | some nowMs =>
    have kept := @persistGuard_peers foreign runtime.store (runtime.guard.admits nowMs).2 calls
    simp only [SecureRuntime.ensureGuardAdmits]
    split
    · split
      next written =>
        rw [written] at kept
        exact ⟨rfl, kept⟩
      next written =>
        rw [written] at kept
        exact ⟨rfl, kept⟩
    · exact ⟨rfl, rfl⟩

theorem recordMismatch_trust (calls : WriteCalls) : SameTrust runtime (runtime.recordMismatch foreign nowMs calls).2 := by
  cases nowMs with
  | none => exact ⟨rfl, rfl⟩
  | some nowMs =>
    have kept := @persistGuard_peers foreign runtime.store (runtime.guard.recordMismatch nowMs) calls
    simp only [SecureRuntime.recordMismatch]
    split
    next written =>
      rw [written] at kept
      exact ⟨rfl, kept⟩
    next written =>
      rw [written] at kept
      exact ⟨rfl, kept⟩

theorem markAuthenticated_trust (remote : Bytes32) (calls : WriteCalls) (reads : Entropy) :
    SameTrust runtime (runtime.markAuthenticated foreign remote nowMs calls reads).2 := by
  cases nowMs with
  | none => exact ⟨rfl, rfl⟩
  | some nowMs =>
    have kept := @persistGuard_peers foreign runtime.store (.paired nowMs) calls
    simp only [SecureRuntime.markAuthenticated]
    split
    next written =>
      rw [written] at kept
      exact ⟨rfl, kept⟩
    next written =>
      rw [written] at kept
      split <;> exact ⟨rfl, kept⟩

theorem step_trust (program : Program) {pc : Pc} (other : ∀ loop, pc ≠ .committing loop) :
    SameTrust runtime (pc.step foreign program runtime nowMs outside).1 := by
  by_cases clocked : pc.readsClock = true
  · cases pc with
    | admitting =>
      have kept := @ensureGuardAdmits_trust foreign runtime nowMs outside.calls
      simp only [Pc.step, checkGuard]
      split
      next checked => rwa [checked] at kept
      next checked => rwa [checked] at kept
    | rejecting =>
      have kept := @recordMismatch_trust foreign runtime nowMs outside.calls
      simp only [Pc.step, reject]
      split
      next recorded => rwa [recorded] at kept
      next recorded => rwa [recorded] at kept
    | committing loop => exact absurd rfl (other loop)
    | authenticating remote =>
      have kept := @markAuthenticated_trust foreign runtime nowMs remote outside.calls outside.reads
      simp only [Pc.step, authenticate]
      split
      next marked => rwa [marked] at kept
      next marked => rwa [marked] at kept
    | _ => cases clocked
  · have displays := step_displays foreign program runtime nowMs outside (Bool.not_eq_true _ ▸ clocked)
    rw [displays.frame]
    exact ⟨rfl, rfl⟩

end Trust

/-- The log after the actions of one step. -/
def logged (id : Nat) (actions : List Action) (log : List Event) : List Event :=
  (actions.map (Event.thread id)).reverse ++ log

theorem logged_cons (id : Nat) (action : Action) (actions : List Action) (log : List Event) :
    logged id (action :: actions) log = logged id actions (.thread id action :: log) := by
  simp [logged]

/-- The points of a session between its start and the end of its pairing loop. -/
def Pc.pairs : Pc → Bool
  | .handshaking .. | .polling _ | .confirming _ | .sending _ | .receiving _ | .deciding _ | .committing _ | .announcing _ =>
    true
  | _ => false

section Pairs
variable {foreign : Foreign} {runtime : SecureRuntime}

theorem sendFrame_unpaired {outside : Outside} {sequence : UInt64} {frame : Frame} {next : UInt64 → Pc}
    (unpaired : ∀ sequence, Pc.pairs (next sequence) = false) :
    Pc.pairs (sendFrame runtime outside sequence frame next).2.1 = false := by
  rw [sendFrame]
  split
  · rfl
  · split
    · rfl
    · exact unpaired _

/-- A thread gets to these points only through the start of its session. -/
theorem step_unpaired (program : Program) (nowMs : Option UInt64) (outside : Outside) {pc : Pc}
    (unpaired : Pc.pairs pc = false) (later : ∀ peer xx, pc ≠ .beginning peer xx) :
    Pc.pairs (pc.step foreign program runtime nowMs outside).2.1 = false := by
  cases pc with
  | idle | killed | returned | finished | marking | cancelling | closing => rfl
  | asking | waiting =>
    simp only [Pc.step]
    split <;> rfl
  | opening =>
    simp only [Pc.step, openSession]
    split
    · split <;> rfl
    · split <;> rfl
  | admitting =>
    simp only [Pc.step, checkGuard]
    split
    · by_cases called : program = .beginPairing
      · simp only [if_pos called, Pc.pairs]
      · simp only [if_neg called, Pc.pairs]
    · by_cases called : program = .beginPairing
      · simp only [if_pos called, Pc.pairs]
      · simp only [if_neg called, Pc.pairs]
  | beginning peer xx => exact absurd rfl (later peer xx)
  | rejecting =>
    simp only [Pc.step, reject]
    split <;> rfl
  | greeting remote =>
    simp only [Pc.step, greet]
    split
    · split
      · rfl
      · exact sendFrame_unpaired fun _ => rfl
    · rfl
  | awaiting remote request =>
    simp only [Pc.step, await]
    split
    · rfl
    · rfl
    simp only [Moved.after, welcome]
    split
    · rfl
    split
    · split <;> rfl
    split
    · rfl
    · exact sendFrame_unpaired fun _ => rfl
  | authenticating remote =>
    simp only [Pc.step, authenticate]
    split <;> rfl
  | authenticated session =>
    simp only [Pc.step, serve]
    split <;> rfl
  | handshaking | polling | confirming | sending | receiving | deciding | committing | announcing => cases unpaired

end Pairs

section Labels
variable {foreign : Foreign}

/-- The endpoint after a thread has moved. -/
def moved (endpoint : Endpoint) (id : Nat) (after : SecureRuntime) (thread : Thread) (actions : List Action) : Endpoint :=
  { endpoint with
    process := .up after
    threads := endpoint.update id thread
    log := logged id actions endpoint.log }

theorem moved_pc {endpoint : Endpoint} {id : Nat} {after : SecureRuntime} {thread : Thread} {actions : List Action} (other : Nat) :
    ((moved endpoint id after thread actions).threads other).pc =
    if other = id then thread.pc else (endpoint.threads other).pc := by
  show (Function.update endpoint.threads id thread other).pc = _
  rw [Function.update_apply]
  split <;> rfl

/-- The endpoint after a step of one of its threads. -/
abbrev stepped (endpoint : Endpoint) (id : Nat) (after : SecureRuntime) (next : Pc) (actions : List Action) : Endpoint :=
  moved endpoint id after { endpoint.threads id with pc := next, reading := none } actions

/-- What each label can do. Labels that find no process, or a thread that cannot
take them, do nothing. -/
inductive Took (foreign : Foreign) (endpoint : Endpoint) : Label → Endpoint → Prop where
  | down {label : Label} (gone : ∀ runtime, endpoint.process ≠ .up runtime) : Took foreign endpoint label endpoint
  | busy {id : Nat} {program : Program} (taken : (endpoint.threads id).pc ≠ .idle) :
    Took foreign endpoint (.start id program) endpoint
  | started {id : Nat} {program : Program} (idle : (endpoint.threads id).pc = .idle) :
    Took foreign endpoint (.start id program) { endpoint with threads := endpoint.update id (.start program) }
  | unread {id : Nat} {nowMs : Option UInt64} : Took foreign endpoint (.readClock id nowMs) endpoint
  | read {id : Nat} {nowMs : Option UInt64} : Took foreign endpoint (.readClock id nowMs)
      { endpoint with threads := endpoint.update id { endpoint.threads id with reading := some nowMs } }
  | unready {id : Nat} {outside : Outside} (waits : (endpoint.threads id).ready = false) :
    Took foreign endpoint (.step id outside) endpoint
  | moved {id : Nat} {outside : Outside} {runtime : SecureRuntime} (up : endpoint.process = .up runtime)
      (ready : (endpoint.threads id).ready = true) {after : SecureRuntime} {next : Pc} {actions : List Action}
      (steps : (endpoint.threads id).pc.step foreign (endpoint.threads id).program runtime (endpoint.threads id).clock outside =
        (after, next, actions)) :
    Took foreign endpoint (.step id outside)
      (stepped endpoint id after next actions)
  | confirmed {runtime : SecureRuntime} (up : endpoint.process = .up runtime) {log : List Event}
      (logs : log = endpoint.log ∨ log = .confirmAccepted :: endpoint.log) :
    Took foreign endpoint .localConfirm { endpoint.setInner runtime runtime.inner.localConfirm.2 with log }
  | cancelled {runtime : SecureRuntime} (up : endpoint.process = .up runtime) :
    Took foreign endpoint .cancel (endpoint.setInner runtime runtime.inner.cancel.2)
  | mismatched {runtime : SecureRuntime} (up : endpoint.process = .up runtime) :
    Took foreign endpoint .mismatch (endpoint.setInner runtime runtime.inner.mismatch.2)
  | restarted {processId : Nat} {start : SecureRuntime.Start} :
    Took foreign endpoint (.restart processId start) (endpoint.restart foreign processId start)

theorem took_act {endpoint : Endpoint} {runtime : SecureRuntime} (up : endpoint.process = .up runtime) (label : Label) :
    Took foreign endpoint label (endpoint.act foreign runtime label) := by
  cases label with
  | start id program =>
    rw [Endpoint.act]
    split
    next idle => exact .started idle
    next taken => exact .busy fun idle => taken idle
  | readClock id nowMs =>
    rw [Endpoint.act]
    split
    · exact .read
    · exact .unread
  | step id outside =>
    rw [Endpoint.act, Endpoint.stepThread]
    dsimp only
    split
    next ready => exact .moved up ready rfl
    next waits => exact .unready (Bool.not_eq_true _ ▸ waits)
  | localConfirm =>
    rw [Endpoint.act]
    dsimp only
    split
    · exact .confirmed up (.inr rfl)
    · exact .confirmed up (.inl rfl)
  | cancel => exact .cancelled up
  | mismatch => exact .mismatched up
  | restart processId start => exact .restarted

theorem took (endpoint : Endpoint) (label : Label) : Took foreign endpoint label (endpoint.step foreign label) := by
  cases up : endpoint.process with
  | up runtime =>
    simp only [Endpoint.step, up]
    exact took_act up label
  | down store =>
    have gone : ∀ runtime, endpoint.process ≠ .up runtime := fun runtime same => by
      rw [up] at same
      cases same
    cases label with
    | restart processId start =>
      simp only [Endpoint.step, up]
      exact .restarted
    | _ =>
      simp only [Endpoint.step, up]
      exact .down gone

section Answers
variable (inner : RuntimeInner)

/-- The user's answers are requests: they show nothing and take no slot. -/
structure SameShow (before after : RuntimeInner) : Prop where
  active : after.sessionActive = before.sessionActive
  state : after.state = before.state
  sas : after.sas = before.sas
  authenticated : after.authenticated = before.authenticated

theorem localConfirm_show : SameShow inner inner.localConfirm.2 := by
  rw [RuntimeInner.localConfirm]
  split
  all_goals try split
  all_goals exact ⟨rfl, rfl, rfl, rfl⟩

theorem cancel_show : SameShow inner inner.cancel.2 := by
  rw [RuntimeInner.cancel]
  split
  · exact ⟨rfl, rfl, rfl, rfl⟩
  · split <;> exact ⟨rfl, rfl, rfl, rfl⟩

theorem mismatch_show : SameShow inner inner.mismatch.2 := by
  rw [RuntimeInner.mismatch]
  split
  · exact ⟨rfl, rfl, rfl, rfl⟩
  · split <;> exact ⟨rfl, rfl, rfl, rfl⟩

end Answers

end Labels

end PhoneBoost.Secure.Proofs
