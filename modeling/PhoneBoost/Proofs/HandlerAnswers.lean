import PhoneBoost.Proofs.ComputeAnswers
import PhoneBoost.Proofs.ComputeCodec

/-! Whatever the worker answers to a request that was parsed can be sent. The
encoders are strict and an answer they refuse would end the session, so the
worker, the translation to the wire and the encoders have to agree. -/

namespace PhoneBoost.Worker.Proofs
open Pbmux (CommandPayload ComputeRequest Frame buildCommandAckFrame buildComputeResponseFrame commandChecks commandPayloadLen
  commandTypeRules decodeCommandPayload encodeAckPayload invalidJobRequest invalidSubmit parseCommandFrame parseComputeRequestFrame
  singleProfile validateAckPayload)
open Pbmux.Proofs (parseComputeRequestFrame_iff)
open Secure (Session)
open Wire
open ControllerLeaseManager

section Outcomes
variable {manager : ControllerLeaseManager} {session : AuthenticatedSession} {leaseId : LeaseId} {sequence nowMs : Nat}
  {result : ControllerCommandResult}

/-- An outcome under the number of its command, which tells the number it expects
exactly if the command was out of order. -/
def NumberedAs (sequence : Nat) : ControllerCommandResult → Prop
  | .completed number _ => number = sequence
  | .failed number reason expected => number = sequence ∧ (expected.isSome = true ↔ reason = .outOfOrder)

theorem terminalResult_numbered {entry : TerminalEntry} (same : entry.sequence = sequence) :
    NumberedAs sequence (terminalResult entry) := same

theorem releasedAdmission_numbered : NumberedAs sequence (manager.releasedAdmission session leaseId sequence) := by
  unfold releasedAdmission
  split
  · exact ⟨rfl, by simp⟩
  · split
    next entry found => exact terminalResult_numbered (by simpa using List.find?_some found)
    · split
      · exact ⟨rfl, by simp⟩
      · exact ⟨rfl, by simp⟩

theorem resultFromAdmission_numbered {admission : CommandAdmission}
    (answered : manager.resultFromAdmission admission sequence = .ok result) : NumberedAs sequence result := by
  unfold resultFromAdmission at answered
  split at answered
  · split at answered
    · cases answered
    · split at answered
      · cases answered
      next entry found =>
        cases answered
        have fits := List.find?_some found
        simp only [Bool.and_eq_true, decide_eq_true_eq] at fits
        exact terminalResult_numbered fits.1
  all_goals cases answered
  · exact ⟨rfl, by simp⟩
  · exact ⟨rfl, by simp⟩
  · exact ⟨rfl, by simp⟩

theorem applyRenew_numbered (answered : (manager.applyRenew session leaseId sequence nowMs).1 = .ok result) :
    NumberedAs sequence result := by
  unfold applyRenew at answered
  dsimp only at answered
  split at answered
  · cases answered
    exact releasedAdmission_numbered
  · split at answered
    · split at answered
      · cases answered
      · split at answered
        · cases answered
        · cases answered
          rfl
    · exact resultFromAdmission_numbered answered

theorem applyRelease_numbered (answered : (manager.applyRelease session leaseId sequence nowMs).1 = .ok result) :
    NumberedAs sequence result := by
  unfold applyRelease at answered
  dsimp only at answered
  split at answered
  · cases answered
    exact releasedAdmission_numbered
  · split at answered
    · split at answered
      · cases answered
      · split at answered
        · cases answered
        · cases answered
          rfl
    · exact resultFromAdmission_numbered answered

/-- The number a command is answered under. -/
def numberOf : ControllerCommand → Nat
  | .acquire => 0
  | .renew _ sequence | .release _ sequence | .unsupported sequence => sequence

theorem applyAcquire_numbered (answered : (manager.applyAcquire session nowMs reads).1 = .ok result) : NumberedAs 0 result := by
  unfold applyAcquire at answered
  dsimp only at answered
  split at answered
  · split at answered
    · cases answered
      rfl
    · cases answered
      exact ⟨rfl, by simp⟩
  · split at answered
    · cases answered
    · cases answered
      rfl

theorem applyControllerCommand_numbered {core : WorkerCore} {verified : VerifiedPeerSession} {command : ControllerCommand}
    (answered : (core.applyControllerCommand verified command nowMs reads).1 = .ok result) :
    NumberedAs (numberOf command) result := by
  have managed : ((core.reconcileExpiredControllerLease nowMs).leaseManager.applyControllerCommand
      (.fromVerified verified) command nowMs reads).1 = .ok result := by
    rw [← answered, WorkerCore.applyControllerCommand]
    dsimp only
    split <;> rfl
  cases command with
  | acquire => exact applyAcquire_numbered managed
  | renew => exact applyRenew_numbered managed
  | release => exact applyRelease_numbered managed
  | unsupported =>
    cases managed
    exact ⟨rfl, by simp⟩

end Outcomes

section Acknowledgements
variable {result : ControllerCommandResult} {sequence : Nat}

theorem controllerAck_state (result : ControllerCommandResult) :
    (controllerAck result).ackState = 2 ∨ (controllerAck result).ackState = 3 := by
  fun_cases controllerAck result
  · exact .inl rfl
  · exact .inl rfl
  · exact .inr rfl

theorem NumberedAs.commandSeq (numbered : NumberedAs sequence result) :
    (controllerAck result).commandSeq = .ofNat sequence := by
  cases result with
  | completed number lease? =>
    cases numbered
    cases lease? <;> rfl
  | failed number reason expected =>
    obtain ⟨rfl, -⟩ := numbered
    rfl

theorem NumberedAs.valid (numbered : NumberedAs sequence result) : validateAckPayload (controllerAck result) = .ok () := by
  cases result with
  | completed number lease? => cases lease? <;> rfl
  | failed number reason expected =>
    obtain ⟨-, told⟩ := numbered
    cases reason <;> cases expected <;> simp_all [validateAckPayload, controllerAck, plainAck, ControllerFailureReason.code]

theorem NumberedAs.encodes (numbered : NumberedAs sequence result) {requestId : UInt64} (counted : requestId ≠ 0) (number : UInt64) :
    ∃ answer, buildCommandAckFrame (controllerAck result) requestId number = .ok answer := by
  rw [buildCommandAckFrame, if_neg counted, encodeAckPayload, numbered.valid]
  exact ⟨_, rfl⟩

end Acknowledgements

section Requests
variable {frame : Frame}

/-- The number of an `ACQUIRE` is zero, or the checks fail as those of a payload that
is not understood. -/
theorem commandChecks_acquire {payload : CommandPayload} (acquire : payload.commandType = 1) :
    (commandChecks payload = .ok () ∧ payload.commandSeq = 0) ∨ commandChecks payload = .error Pbmux.invalidCommand := by
  rw [commandChecks, commandTypeRules, if_pos acquire]
  repeat' split
  all_goals simp_all

/-- What a parsed command is answered under. -/
theorem parseAuthenticatedCommand_numbered {command : CommandPayload} (parses : Session.parseAuthenticatedCommand frame = .ok command) :
    frame.header.requestId ≠ 0 ∧ UInt64.ofNat (numberOf (controllerCommand command)) = command.commandSeq := by
  have acquires (zero : command.commandType = 1 → command.commandSeq = 0) :
      UInt64.ofNat (numberOf (controllerCommand command)) = command.commandSeq := by
    unfold controllerCommand
    split
    next acquire => exact (zero acquire).symm
    · split
      · exact UInt64.ofNat_toNat
      · split
        · exact UInt64.ofNat_toNat
        · exact UInt64.ofNat_toNat
  unfold Session.parseAuthenticatedCommand at parses
  split at parses
  next parsed =>
    cases parses
    rw [parseCommandFrame, ite_error_eq_ok, decodeCommandPayload, ite_error_eq_ok] at parsed
    obtain ⟨addressed, -, parsed⟩ := parsed
    obtain ⟨_, checked, same⟩ := bind_eq_ok.1 parsed
    cases pure_eq_ok.1 same
    simp only [Bool.or_eq_true, not_or, decide_eq_true_eq] at addressed
    refine ⟨addressed.2, acquires fun acquire => ?_⟩
    obtain ⟨-, zero⟩ | failed := commandChecks_acquire acquire
    · exact zero
    · rw [checked] at failed
      cases failed
  next error refused =>
    -- an envelope: the frame was refused for nothing but the type of the command
    rw [ite_error_eq_ok] at parses
    obtain ⟨unsupported, same⟩ := parses
    cases same
    simp only [Bool.or_eq_true, not_or, decide_eq_true_eq, ne_eq, not_not] at unsupported
    obtain ⟨kind, length⟩ := unsupported
    rw [parseCommandFrame] at refused
    split at refused
    next =>
      cases refused
      cases kind
    next addressed =>
      simp only [Bool.or_eq_true, not_or, decide_eq_true_eq] at addressed
      refine ⟨addressed.2, acquires fun acquire => ?_⟩
      rw [decodeCommandPayload, if_neg (not_not.2 length)] at refused
      dsimp only at refused
      obtain ⟨passed, -⟩ | failed := commandChecks_acquire acquire
      · rw [passed] at refused
        cases refused
      · rw [failed] at refused
        cases refused
        cases kind

/-- A parsed request of the compute channel has a number and a lease. -/
theorem parseComputeRequestFrame_parsed {request : ComputeRequest} (parses : parseComputeRequestFrame frame = .ok request) :
    frame.header.requestId ≠ 0 ∧ frame.header.channel = .compute ∧ nonzero request.leaseId = true := by
  obtain ⟨counted, profile, reads⟩ := parseComputeRequestFrame_iff.1 parses
  simp only [singleProfile, Bool.and_eq_true, decide_eq_true_eq] at profile
  refine ⟨counted, profile.1.1.1.1.1, ?_⟩
  cases request with
  | submit submit =>
    have valid := reads.2.1
    simp only [invalidSubmit, Bool.or_eq_false_iff, Bool.not_eq_false'] at valid
    exact valid.1.1.1
  | status job | cancel job =>
    have valid := reads.2.1
    simp only [invalidJobRequest, Bool.or_eq_false_iff, Bool.not_eq_false'] at valid
    exact valid.1.1

end Requests

section Reachable

/-- The answers of the worker to requests that were parsed, as the session takes
them. -/
structure Sendable (hasher : Hasher) (core : WorkerCore) : Prop where
  compute : ∀ verified frame request nowMs run reads sequence, parseComputeRequestFrame frame = .ok request →
    let response := (core.applyComputeRequest hasher verified frame.header.requestId request nowMs run reads).1
    (∃ answer, buildComputeResponseFrame response frame.header.requestId sequence = .ok answer) ∧
      Session.validResponseKind request response = true
  command : ∀ verified frame command nowMs reads sequence result, Session.parseAuthenticatedCommand frame = .ok command →
    (core.applyControllerCommand verified (controllerCommand command) nowMs reads).1 = .ok result →
    (∃ answer, buildCommandAckFrame (controllerAck result) frame.header.requestId sequence = .ok answer) ∧
      ((controllerAck result).ackState = 2 ∨ (controllerAck result).ackState = 3) ∧
      (controllerAck result).commandSeq = command.commandSeq

/-- Every answer of a reachable worker can be sent, and is one that the session
expects for its request. -/
theorem coreRun_sendable (hasher : Hasher) {boot : Entropy} {start : WorkerCore} (booted : WorkerCore.coldStart boot = some start)
    (calls : List Call) : Sendable hasher (coreRun hasher start calls).core := by
  constructor
  · intro verified frame request nowMs run reads sequence parses response
    obtain ⟨counted, -, lease⟩ := parseComputeRequestFrame_parsed parses
    obtain ⟨kind, checked⟩ : Suits request response := (applyComputeRequest_answers (coreRun_responsive booted calls) run).2 lease
    exact ⟨(buildComputeResponseFrame_ok_iff counted response sequence).2 checked, kind⟩
  · intro verified frame command nowMs reads sequence result parses answered
    obtain ⟨counted, same⟩ := parseAuthenticatedCommand_numbered parses
    have numbered := applyControllerCommand_numbered answered
    exact ⟨numbered.encodes counted sequence, controllerAck_state result, numbered.commandSeq.trans same⟩

theorem coreRun_sendable_allocation :
    WorkerCore.coldStart [some (filled 9)] = some bootedCore ∧
    Sendable nullHasher (coreRun nullHasher bootedCore allocationCalls).core := by
  have booted : WorkerCore.coldStart [some (filled 9)] = some bootedCore := rfl
  exact ⟨booted, coreRun_sendable nullHasher booted allocationCalls⟩

end Reachable

end PhoneBoost.Worker.Proofs
