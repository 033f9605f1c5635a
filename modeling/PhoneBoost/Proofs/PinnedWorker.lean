import PhoneBoost.Proofs.PairingOutcome

/-! The one worker of a host. Whether to pair is decided when a session function
is called, and the peer is committed much later, in a session that another call
may have overtaken. The host keeps to one worker as long as no pairing begins
once it has one. -/

namespace PhoneBoost.Secure.Proofs
open Pbmux

variable {foreign : Foreign}

/-- The session may still come to commit its peer. -/
def Pc.mayCommit : Pc → Bool
  | .handshaking _ xx => xx
  | .polling loop | .confirming loop | .sending loop | .receiving loop | .deciding loop => !loop.committed
  | .committing _ => true
  | _ => false

section Steps
variable {runtime : SecureRuntime} {outside : Outside} {program : Program} {pc : Pc}

theorem sendFrame_mayCommit {sequence : UInt64} {frame : Frame} {next : UInt64 → Pc}
    (onward : ∀ sequence, Pc.mayCommit (next sequence) = true → Pc.mayCommit pc = true)
    (pairs : Pc.mayCommit (sendFrame runtime outside sequence frame next).2.1 = true) : Pc.mayCommit pc = true := by
  rw [sendFrame] at pairs
  split at pairs
  · cases pairs
  split at pairs
  · cases pairs
  · exact onward _ pairs

theorem dispatch_mayCommit {loop : PairingLoop} {frame : Frame}
    (pairs : Pc.mayCommit (dispatch program runtime outside loop frame).2.1 = true) : loop.committed = false := by
  have still (kept : Pc.mayCommit (.deciding loop) = true) : loop.committed = false := (Bool.not_eq_true' _).mp kept
  rw [dispatch] at pairs
  split at pairs
  · split at pairs
    · cases pairs
    · exact still pairs
  · split at pairs
    · exact still (sendFrame_mayCommit (fun _ impossible => by cases impossible) pairs)
    · exact still pairs
  · split at pairs
    · split at pairs <;> cases pairs
    · exact still pairs
  · cases pairs
  · exact still pairs

theorem receive_mayCommit {loop : PairingLoop} (pairs : Pc.mayCommit (receive program runtime outside loop).2.1 = true) :
    loop.committed = false := by
  rw [receive] at pairs
  split at pairs
  · cases pairs
  · exact (Bool.not_eq_true' _).mp pairs
  simp only [Moved.after, receiveFrame] at pairs
  split at pairs
  · cases pairs
  split at pairs
  · cases pairs
  · have uncommitted := dispatch_mayCommit pairs
    exact uncommitted

theorem pairs_of_mayCommit (may : Pc.mayCommit pc = true) : Pc.pairs pc = true := by
  cases pc with
  | handshaking | polling | confirming | sending | receiving | deciding | committing => rfl
  | _ => cases may

theorem inside_of_mayCommit (may : Pc.mayCommit pc = true) : Pc.inside pc = true := by
  cases pc with
  | handshaking | polling | confirming | sending | receiving | deciding | committing => rfl
  | _ => cases may

/-- A session comes to pair only by beginning so. -/
theorem step_mayCommit {nowMs : Option UInt64} (pairs : Pc.mayCommit (pc.step foreign program runtime nowMs outside).2.1 = true) :
    Pc.mayCommit pc = true ∨ ∃ peer, pc = .beginning peer true := by
  cases pc with
  | beginning peer xx =>
    simp only [Pc.step, enterSession] at pairs
    split at pairs
    · cases pairs
    · cases xx with
      | true => exact .inr ⟨peer, rfl⟩
      | false => cases pairs
  | handshaking peer xx =>
    left
    cases xx with
    | true => rfl
    | false =>
      simp only [Pc.step, shakeHands, Bool.false_eq_true, if_false] at pairs
      split at pairs
      · cases pairs
      · split at pairs <;> cases pairs
  | polling loop =>
    left
    simp only [Pc.step, poll] at pairs
    split at pairs
    · cases pairs
    split at pairs
    · cases pairs
    split at pairs
    · cases pairs
    split at pairs
    · exact pairs
    · exact pairs
  | confirming loop =>
    left
    simp only [Pc.step, confirm] at pairs
    split at pairs <;> exact pairs
  | sending loop =>
    left
    simp only [Pc.step, sendConfirm] at pairs
    split at pairs
    · cases pairs
    split at pairs
    · cases pairs
    · refine sendFrame_mayCommit ?_ pairs
      exact fun _ kept => kept
  | receiving loop => exact .inl ((Bool.not_eq_true' _).mpr (receive_mayCommit pairs))
  | deciding loop =>
    left
    simp only [Pc.step, decideCommit] at pairs
    split at pairs
    next decided => exact (Bool.and_eq_true_iff.1 decided).2
    next => exact pairs
  | committing loop => exact .inl rfl
  | announcing loop =>
    simp only [Pc.step, announce] at pairs
    split at pairs
    · split at pairs
      · cases pairs
      · exact .inl (sendFrame_mayCommit (fun _ impossible => by cases impossible) pairs)
    · cases pairs
  | _ =>
    refine absurd (pairs_of_mayCommit pairs) (Bool.eq_false_iff.1 (step_unpaired program nowMs outside ?_ ?_))
    · rfl
    · simp

theorem commit_not_mayCommit {nowMs : Option UInt64} {loop : PairingLoop} :
    Pc.mayCommit (commit foreign runtime nowMs outside loop).2.1 = false := by
  rw [commit]
  split
  · rfl
  · split <;> rfl

theorem commitPeer_length {key : Bytes32} {nowMs : Option UInt64} {calls : WriteCalls} :
    (runtime.commitPeer foreign key nowMs calls).2.peers.length ≤ runtime.peers.length + 1 := by
  cases nowMs with
  | none => exact Nat.le_succ _
  | some nowMs =>
    simp only [SecureRuntime.commitPeer]
    split
    · exact Nat.le_succ _
    · dsimp only
      split
      · exact Nat.le_succ _
      · rw [List.length_append, List.length_singleton]

theorem commit_length {nowMs : Option UInt64} {loop : PairingLoop} :
    (commit foreign runtime nowMs outside loop).1.peers.length ≤ runtime.peers.length + 1 := by
  have bound := @commitPeer_length foreign runtime loop.remote nowMs outside.calls
  rw [commit]
  split
  next failed =>
    rw [failed] at bound
    exact bound
  next done =>
    rw [done] at bound
    split <;> exact bound

end Steps

/-- The host trusts at most one key, and finding it does not fail. -/
def PinsOne (endpoint : Endpoint) : Prop :=
  ∀ runtime, endpoint.process = .up runtime →
    (∀ first ∈ runtime.peers, ∀ second ∈ runtime.peers, first.staticPublicKey = second.staticPublicKey) ∧
      runtime.oneCommittedPeer ≠ .error .peerKeyMismatch

/-- No peer is committed yet when a session that pairs gets the slot. -/
def pairsAlone (endpoint : Endpoint) : Label → Bool
  | .step id _ =>
    match endpoint.process, (endpoint.threads id).pc with
    | .up runtime, .beginning _ true => runtime.inner.sessionActive || runtime.peers.isEmpty
    | _, _ => true
  | _ => true

def runPairsAlone (foreign : Foreign) : Endpoint → List Label → Bool
  | _, [] => true
  | endpoint, label :: labels => pairsAlone endpoint label && runPairsAlone foreign (endpoint.step foreign label) labels

/-- What happens on a host: calls of the initiator's session functions and the user's actions. -/
def Label.ofHost : Label → Bool
  | .start _ program => program ≠ .responderSession
  | .restart .. => false
  | _ => true

/-- A host that has just started and trusts one worker at most. -/
structure Host (endpoint : Endpoint) : Prop extends Unstarted endpoint where
  up : ∃ runtime, endpoint.process = .up runtime ∧ runtime.role = .linuxInitiator ∧ runtime.peers.length ≤ 1

structure Pinned (endpoint : Endpoint) : Prop where
  exclusive : Exclusive endpoint
  few : ∀ runtime, endpoint.process = .up runtime → runtime.peers.length ≤ 1
  empty : ∀ runtime, endpoint.process = .up runtime → ∀ id, Pc.mayCommit (endpoint.threads id).pc = true → runtime.peers = []

namespace Pinned
variable {endpoint : Endpoint} {runtime after : SecureRuntime} {id : Nat} {outside : Outside} {next : Pc} {actions : List Action}

theorem pinsOne (pinned : Pinned endpoint) : PinsOne endpoint := by
  intro runtime up
  have few := pinned.few runtime up
  rw [SecureRuntime.oneCommittedPeer]
  rcases peers : runtime.peers with _ | ⟨peer, _ | ⟨next, rest⟩⟩
  · simp
  · simp
  · rw [peers] at few
    simp at few

theorem rethread (pinned : Pinned endpoint) {thread : Thread}
    (same : Pc.inside thread.pc = true → thread.pc = (endpoint.threads id).pc) :
    Pinned { endpoint with threads := endpoint.update id thread } := by
  refine ⟨pinned.exclusive.rethread fun inside => same inside ▸ inside, pinned.few, ?_⟩
  intro runtime up other may
  change Pc.mayCommit (Function.update endpoint.threads id thread other).pc = true at may
  rw [Function.update_apply] at may
  split at may
  next => exact pinned.empty runtime up id (same (inside_of_mayCommit may) ▸ may)
  next => exact pinned.empty runtime up other may

theorem setInner (pinned : Pinned endpoint) (up : endpoint.process = .up runtime) {inner : RuntimeInner}
    (same : inner.sessionActive = runtime.inner.sessionActive) : Pinned (endpoint.setInner runtime inner) := by
  refine ⟨pinned.exclusive.setInner up same, ?_, ?_⟩
  · rintro _ ⟨⟩
    exact pinned.few runtime up
  · rintro _ ⟨⟩ id may
    exact pinned.empty runtime up id may

theorem moved (pinned : Pinned endpoint) (up : endpoint.process = .up runtime) (alone : pairsAlone endpoint (.step id outside) = true)
    (steps : (endpoint.threads id).pc.step foreign (endpoint.threads id).program runtime (endpoint.threads id).clock outside =
      (after, next, actions)) :
    Pinned (stepped endpoint id after next actions) := by
  have exclusive := pinned.exclusive.moved up steps
  by_cases commits : ∃ loop, (endpoint.threads id).pc = .committing loop
  · obtain ⟨loop, pc⟩ := commits
    have empty : runtime.peers = [] := pinned.empty runtime up id (by rw [pc]; rfl)
    rw [pc] at steps
    have bound : after.peers.length ≤ runtime.peers.length + 1 := by
      have length := @commit_length foreign runtime outside (endpoint.threads id).clock loop
      rw [show commit foreign runtime (endpoint.threads id).clock outside loop = _ from steps] at length
      exact length
    have done : Pc.mayCommit next = false := by
      have ends := @commit_not_mayCommit foreign runtime outside (endpoint.threads id).clock loop
      rw [show commit foreign runtime (endpoint.threads id).clock outside loop = _ from steps] at ends
      exact ends
    refine ⟨exclusive, ?_, ?_⟩
    · rintro _ ⟨⟩
      rw [empty] at bound
      exact bound
    · rintro _ ⟨⟩ other may
      rw [moved_pc] at may
      split at may
      · rw [done] at may
        cases may
      next different =>
        have here : Pc.inside (endpoint.threads id).pc = true := by
          rw [pc]
          rfl
        exact absurd (pinned.exclusive.single other id (inside_of_mayCommit may) here) different
  · have trust := @step_trust foreign runtime (endpoint.threads id).clock outside (endpoint.threads id).program _
      fun loop is => commits ⟨loop, is⟩
    rw [steps] at trust
    have same : after.peers = runtime.peers := trust.1
    refine ⟨exclusive, ?_, ?_⟩
    · rintro _ ⟨⟩
      rw [same]
      exact pinned.few runtime up
    · rintro _ ⟨⟩ other may
      rw [same]
      rw [moved_pc] at may
      split at may
      next =>
        have before := @step_mayCommit foreign runtime outside (endpoint.threads id).program (endpoint.threads id).pc
          (endpoint.threads id).clock
        rw [steps] at before
        rcases before may with still | ⟨peer, pc⟩
        · exact pinned.empty runtime up id still
        · simp only [pairsAlone, up, pc, Bool.or_eq_true, List.isEmpty_iff] at alone
          rcases alone with taken | empty
          · rw [pc] at steps
            simp only [Pc.step, enterSession, RuntimeInner.beginSession, if_pos taken] at steps
            cases steps
            cases may
          · exact empty
      next => exact pinned.empty runtime up other may

theorem step (pinned : Pinned endpoint) {label : Label} (host : Label.ofHost label = true)
    (alone : pairsAlone endpoint label = true) : Pinned (endpoint.step foreign label) := by
  have change := @took foreign endpoint label
  generalize endpoint.step foreign label = after at change
  cases change with
  | down | busy | unread | unready => exact pinned
  | started =>
    apply pinned.rethread
    intro impossible
    exact absurd impossible (Bool.eq_false_iff.1 (Exclusive.not_inside_start _))
  | read => exact pinned.rethread fun _ => rfl
  | moved up ready steps => exact pinned.moved up alone steps
  | @confirmed runtime up log logs =>
    have kept := pinned.setInner up (localConfirm_show runtime.inner).active
    exact ⟨⟨kept.exclusive.single, kept.exclusive.active⟩, kept.few, kept.empty⟩
  | @cancelled runtime up => exact pinned.setInner up (cancel_show runtime.inner).active
  | @mismatched runtime up => exact pinned.setInner up (mismatch_show runtime.inner).active
  | restarted => cases host

theorem run (pinned : Pinned endpoint) {labels : List Label} (host : ∀ label ∈ labels, Label.ofHost label = true)
    (alone : runPairsAlone foreign endpoint labels = true) : Pinned (endpoint.run foreign labels) := by
  induction labels generalizing endpoint with
  | nil => exact pinned
  | cons label labels ih =>
    rw [runPairsAlone, Bool.and_eq_true] at alone
    exact ih (pinned.step (host label List.mem_cons_self) alone.1)
      (fun other member => host other (List.mem_cons_of_mem _ member)) alone.2

end Pinned

/-- As long as no pairing begins on a host that has a worker, it keeps to one. -/
theorem one_pinned_worker {endpoint : Endpoint} (host : Host endpoint) {labels : List Label}
    (calls : ∀ label ∈ labels, Label.ofHost label = true) (alone : runPairsAlone foreign endpoint labels = true) :
    PinsOne (endpoint.run foreign labels) := by
  obtain ⟨runtime, up, -, few⟩ := host.up
  have start : Pinned endpoint := by
    refine ⟨.initial host.toUnstarted, ?_, ?_⟩
    · intro found there
      rw [up] at there
      cases there
      exact few
    · intro _ _ id impossible
      rw [host.idle id] at impossible
      cases impossible
  exact (start.run calls alone).pinsOne

/-- A pairing of the thread with a worker, from the slot to the end of the
session, once both sides have confirmed. -/
def pairsWith (id : Nat) (key : Bytes32) : List Label :=
  [.step id calmOutside, .step id { calmOutside with handshake := .ok (key, "000000") }, .localConfirm]
  ++ calmSteps id 3 ++ [receives id (controlFrame .pairConfirm 1 0)] ++ calmSteps id 1
  ++ [.readClock id (some 2000)] ++ calmSteps id 2
  ++ [.step id { calmOutside with timedOut := true }] ++ calmSteps id 1

/-- The user asks for a pairing while two connections wait, and both are let through. -/
def bothAdmitted : List Label :=
  [.start 0 .initiatorSession, .start 1 .initiatorSession] ++ calmSteps 0 1 ++ calmSteps 1 1
  ++ [.start 2 .beginPairing] ++ calmSteps 2 1 ++ [.readClock 2 (some 1000)] ++ calmSteps 2 2
  ++ calmSteps 0 1 ++ calmSteps 1 1 ++ [.readClock 0 (some 1000), .readClock 1 (some 1000)] ++ calmSteps 0 1 ++ calmSteps 1 1

theorem unpairedHost : Host (unpairedEndpoint .linuxInitiator) := ⟨⟨fun _ => rfl, rfl⟩, _, rfl, rfl, Nat.zero_le _⟩

def pinnedKeys (endpoint : Endpoint) : List Bytes32 :=
  match endpoint.process with
  | .up runtime => runtime.peers.map PeerRecord.staticPublicKey
  | .down _ => []

theorem not_pinsOne {endpoint : Endpoint} {first second : Bytes32} (keys : pinnedKeys endpoint = [first, second])
    (different : first ≠ second) : ¬PinsOne endpoint := by
  intro pins
  rw [pinnedKeys] at keys
  split at keys
  next runtime up =>
    have member (key : Bytes32) (listed : key ∈ [first, second]) : ∃ peer ∈ runtime.peers, peer.staticPublicKey = key := by
      rw [← keys] at listed
      exact List.mem_map.1 listed
    obtain ⟨one, oneIn, rfl⟩ := member first (by simp)
    obtain ⟨two, twoIn, rfl⟩ := member second (by simp)
    exact different ((pins runtime up).1 one oneIn two twoIn)
  next => cases keys

theorem one_pinned_worker_admitted :
    let labels := bothAdmitted ++ pairsWith 0 sampleKey
    pinnedKeys ((unpairedEndpoint .linuxInitiator).run jsonForeign labels) = [sampleKey] ∧
      PinsOne ((unpairedEndpoint .linuxInitiator).run jsonForeign labels) :=
  ⟨by decide +kernel, one_pinned_worker unpairedHost (by decide +kernel) (by decide +kernel)⟩

/-- The second connection that was let through gets the slot after the first
pairing and pins another worker. -/
theorem second_worker_pinned :
    let labels := bothAdmitted ++ pairsWith 0 sampleKey ++ pairsWith 1 otherKey
    Host (unpairedEndpoint .linuxInitiator) ∧ (∀ label ∈ labels, Label.ofHost label = true) ∧
      pinnedKeys ((unpairedEndpoint .linuxInitiator).run jsonForeign labels) = [sampleKey, otherKey] ∧
      ¬PinsOne ((unpairedEndpoint .linuxInitiator).run jsonForeign labels) := by
  have keys : pinnedKeys ((unpairedEndpoint .linuxInitiator).run jsonForeign
      (bothAdmitted ++ pairsWith 0 sampleKey ++ pairsWith 1 otherKey)) = [sampleKey, otherKey] := by decide +kernel
  exact ⟨unpairedHost, by decide +kernel, keys, not_pinsOne keys (by decide +kernel)⟩

end PhoneBoost.Secure.Proofs
