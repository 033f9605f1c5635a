import PhoneBoost.Pbmux.Compute
import PhoneBoost.Proofs.FrameRoundTrip
import PhoneBoost.Proofs.WireFields

/-! Compute requests and responses: the builders and the parsers agree. -/

namespace PhoneBoost.Pbmux.Proofs
open Wire

theorem ComputeJobState.tryFrom_eq_some {value : UInt8} {state : ComputeJobState} :
    ComputeJobState.tryFrom value = some state ↔ value = state.code := by
  constructor
  · unfold ComputeJobState.tryFrom
    repeat refine table_row ComputeJobState.code rfl ?_
    intro missing
    cases missing
  · rintro rfl
    cases state <;> rfl

theorem ComputeReason.tryFrom_eq_some {value : UInt16} {reason : ComputeReason} :
    ComputeReason.tryFrom value = some reason ↔ value = reason.code := by
  constructor
  · unfold ComputeReason.tryFrom
    repeat refine table_row ComputeReason.code rfl ?_
    intro missing
    cases missing
  · rintro rfl
    cases reason <;> rfl

def submitLayout : Layout UInt8
    (Bytes16 × Bytes16 × Bytes16 × UInt8 × UInt8 × UInt8 × UInt8 × Bytes16 × UInt64 × UInt64) :=
  (bytes 16).seq <| (bytes 16).seq <| (bytes 16).seq <| byte.seq <| byte.seq <| byte.seq <| byte.seq <|
    (bytes 16).seq <| u64.seq u64

theorem submitLayout_get (payload : List UInt8) :
    submitLayout.get payload = (array 16 payload 0, array 16 payload 16, array 16 payload 32, payload.getD 48 0,
      payload.getD 49 0, payload.getD 50 0, payload.getD 51 0, array 16 payload 52, readU64 payload 68,
      readU64 payload 76) := by
  simp [submitLayout]

def JobRequestReads (payload : List UInt8) (request : ComputeJobRequest) : Prop :=
  invalidJobRequest request = false ∧ payload.length = computeJobRequestLen ∧
  handleLayout.get payload = (request.leaseId, request.workerIncarnationId, request.jobId)

/-- What a payload of one type says about a request. -/
def ComputeRequestReads (messageType : UInt16) (payload : List UInt8) : ComputeRequest → Prop
  | .submit request =>
    messageType = 1 ∧ invalidSubmit request = false ∧ payload.length = computeSubmitLen ∧
    submitLayout.get payload = (request.leaseId, request.workerIncarnationId, request.reservationId, request.providerId,
      request.providerVersion, request.inputKind, 0, request.bufferId, request.inputOffset, request.inputLength)
  | .status request => messageType = 2 ∧ JobRequestReads payload request
  | .cancel request => messageType = 4 ∧ JobRequestReads payload request

theorem requestProfile_iff {frame : Frame} {len : Nat} :
    requestProfile frame len = true ↔
      frame.header.requestId ≠ 0 ∧
      singleProfile .compute (flagStart ||| flagEnd ||| flagAckRequired) frame.payload.length frame = true ∧
      frame.payload.length = len := by
  rw [requestProfile, Bool.and_eq_true, decide_eq_true_eq, singleProfile_iff]
  tauto

theorem parseComputeRequestFrame_iff {frame : Frame} {request : ComputeRequest} :
    parseComputeRequestFrame frame = .ok request ↔
      frame.header.requestId ≠ 0 ∧
      singleProfile .compute (flagStart ||| flagEnd ||| flagAckRequired) frame.payload.length frame = true ∧
      ComputeRequestReads frame.header.messageType frame.payload request := by
  unfold parseComputeRequestFrame
  constructor
  · intro parsed
    split at parsed
    next submit =>
      simp only [ite_error_eq_ok, Bool.or_eq_true, Bool.not_eq_true', decide_eq_true_eq, not_or, ne_eq, not_not,
        Bool.not_eq_false, Bool.not_eq_true, requestProfile_iff] at parsed
      obtain ⟨⟨⟨numbered, profile, length⟩, blank⟩, valid, parsed⟩ := parsed
      cases parsed
      exact ⟨numbered, profile, submit, valid, length, by rw [submitLayout_get, blank]⟩
    next =>
      split at parsed
      next lookup =>
        simp only [ite_error_eq_ok, Bool.not_eq_true', Bool.not_eq_false, Bool.not_eq_true, requestProfile_iff] at parsed
        obtain ⟨⟨numbered, profile, length⟩, valid, parsed⟩ := parsed
        have read : JobRequestReads frame.payload
            ⟨array 16 frame.payload 0, array 16 frame.payload 16, array 16 frame.payload 32⟩ :=
          ⟨valid, length, handleLayout_get _⟩
        split at parsed
        next status =>
          cases parsed
          exact ⟨numbered, profile, status, read⟩
        next other =>
          cases parsed
          exact ⟨numbered, profile, by simpa [other] using lookup, read⟩
      next => cases parsed
  · rintro ⟨numbered, profile, read⟩
    have sized : ∀ len, frame.payload.length = len → requestProfile frame len = true :=
      fun len length => requestProfile_iff.2 ⟨numbered, profile, length⟩
    cases request with
    | submit request =>
      obtain ⟨leaseId, incarnation, reservationId, providerId, providerVersion, inputKind, bufferId, offset, length'⟩ := request
      obtain ⟨type, valid, length, read⟩ := read
      rw [submitLayout_get] at read
      simp only [Prod.mk.injEq] at read
      obtain ⟨rfl, rfl, rfl, rfl, rfl, rfl, blank, rfl, rfl, rfl⟩ := read
      rw [if_pos type, if_neg (by rw [sized _ length, blank]; decide), if_neg (by rw [valid]; decide)]
    | status request =>
      obtain ⟨leaseId, incarnation, jobId⟩ := request
      obtain ⟨type, valid, length, read⟩ := read
      rw [handleLayout_get] at read
      simp only [Prod.mk.injEq] at read
      obtain ⟨rfl, rfl, rfl⟩ := read
      rw [type, if_neg (by decide), if_pos (by decide), if_neg (by rw [sized _ length]; decide),
        if_neg (by rw [valid]; decide), if_pos rfl]
    | cancel request =>
      obtain ⟨leaseId, incarnation, jobId⟩ := request
      obtain ⟨type, valid, length, read⟩ := read
      rw [handleLayout_get] at read
      simp only [Prod.mk.injEq] at read
      obtain ⟨rfl, rfl, rfl⟩ := read
      rw [type, if_neg (by decide), if_pos (by decide), if_neg (by rw [sized _ length]; decide),
        if_neg (by rw [valid]; decide), if_neg (by decide)]

/-- The job part of a response: all zero where there is none. -/
def rawJob : Option ComputeJobRef → Bytes16 × UInt8 × UInt8
  | none => (Vector.replicate 16 0, 0, 0)
  | some job => (job.jobId, job.providerId, job.providerVersion)

def statusLayout : Layout UInt8
    (UInt8 × UInt8 × UInt16 × Bytes16 × Bytes16 × (Bytes16 × UInt8 × UInt8) × Vector UInt8 2) :=
  byte.seq <| byte.seq <| u16.seq <| (bytes 16).seq <| (bytes 16).seq <|
    ((bytes 16).seq <| byte.seq byte).seq (bytes 2)

theorem statusLayout_get (payload : List UInt8) :
    statusLayout.get payload = (payload.getD 0 0, payload.getD 1 0, readU16 payload 2, array 16 payload 4,
      array 16 payload 20, (array 16 payload 36, payload.getD 52 0, payload.getD 53 0), array 2 payload 54) := by
  simp [statusLayout, -List.drop_one]

theorem decodeJobRef_iff {payload : List UInt8} {job : Option ComputeJobRef} :
    decodeJobRef payload (payload.getD 1 0) 36 = .ok job ↔
      payload.getD 1 0 = (if job.isSome then 1 else 0) ∧
      (array 16 payload 36, payload.getD 52 0, payload.getD 53 0) = rawJob job := by
  unfold decodeJobRef
  rw [ite_error_eq_ok]
  constructor
  · rintro ⟨flag, decoded⟩
    split at decoded
    next absent =>
      simp only [ite_error_eq_ok, Bool.or_eq_true, decide_eq_true_eq, not_or, ne_eq, not_not, Except.ok.injEq] at decoded
      obtain ⟨⟨⟨id, provider⟩, version⟩, rfl⟩ := decoded
      exact ⟨absent, by rw [id, provider, version]; rfl⟩
    next present =>
      cases decoded
      exact ⟨(presence_cases flag).resolve_left present, rfl⟩
  · rintro ⟨flag, read⟩
    cases job with
    | none =>
      simp only [rawJob, Prod.mk.injEq] at read
      obtain ⟨id, provider, version⟩ := read
      simp only [Option.isSome_none, Bool.false_eq_true, if_false] at flag
      rw [flag, if_pos rfl, id, provider, version]
      exact ⟨by decide, rfl⟩
    | some job =>
      simp only [rawJob, Prod.mk.injEq] at read
      obtain ⟨id, provider, version⟩ := read
      simp only [Option.isSome_some, if_true] at flag
      rw [flag, if_neg (by decide), id, provider, version]
      exact ⟨by decide, rfl⟩

theorem encodeStatus_iff {status : ComputeStatus} {cancel : Bool} {payload : List UInt8} :
    encodeStatus status cancel = .ok payload ↔
      payload.length = computeStatusLen ∧ parseStatusPayload cancel payload = .ok status := by
  have written : encodeStatus status cancel = .ok payload ↔
      validateStatus status cancel = .ok () ∧
      statusLayout.put (status.state.code, if status.job.isSome then 1 else 0, status.reason.code, status.leaseId,
        status.workerIncarnationId, rawJob status.job, Vector.replicate 2 0) = payload := by
    rw [encodeStatus, check_eq_ok]
    cases status.job with
    | none => simp [statusLayout, rawJob, List.replicate]
    | some job => simp [statusLayout, rawJob, List.replicate]
  rw [written, statusLayout.put_eq_iff, and_left_comm]
  refine and_congr_right fun length => ?_
  have zeros : slice payload 54 56 = [0, 0] ↔ array 2 payload 54 = Vector.replicate 2 0 :=
    slice_eq_zeros 54 2 (Nat.le_of_eq length.symm)
  simp only [parseStatusPayload, ite_error_eq_ok, ne_eq, not_not, zeros, bind_eq_ok, okOr_eq_ok,
    ComputeJobState.tryFrom_eq_some, ComputeReason.tryFrom_eq_some, decodeJobRef_iff, pure_eq_ok, statusLayout_get,
    Prod.mk.injEq]
  constructor
  · obtain ⟨state, reason, leaseId, incarnation, job⟩ := status
    rintro ⟨valid, stateCode, present, reasonCode, rfl, rfl, read, reserved⟩
    exact ⟨reserved, state, stateCode, reason, reasonCode, job, ⟨present, read⟩, ⟨⟩, valid, rfl⟩
  · rintro ⟨reserved, state, stateCode, reason, reasonCode, job, ⟨present, read⟩, ⟨⟩, valid, rfl⟩
    exact ⟨valid, stateCode, present, reasonCode, rfl, rfl, read, reserved⟩

def computeResultLayout : Layout UInt8
    (UInt8 × UInt8 × UInt16 × UInt8 × UInt8 × UInt8 × UInt8 × Bytes16 × Bytes16 × Bytes16 × Bytes32) :=
  byte.seq <| byte.seq <| u16.seq <| byte.seq <| byte.seq <| byte.seq <| byte.seq <| (bytes 16).seq <|
    (bytes 16).seq <| (bytes 16).seq (bytes 32)

theorem computeResultLayout_get (payload : List UInt8) :
    computeResultLayout.get payload = (payload.getD 0 0, payload.getD 1 0, readU16 payload 2, payload.getD 4 0,
      payload.getD 5 0, payload.getD 6 0, payload.getD 7 0, array 16 payload 8, array 16 payload 24,
      array 16 payload 40, array 32 payload 56) := by
  simp [computeResultLayout, -List.drop_one]

theorem decodeResultJob_iff {payload : List UInt8} {job : Option ComputeJobRef} :
    decodeResultJob payload = .ok job ↔
      payload.getD 1 0 = (if job.isSome then 1 else 0) ∧
      (array 16 payload 40, payload.getD 5 0, payload.getD 6 0) = rawJob job := by
  unfold decodeResultJob
  constructor
  · intro decoded
    split at decoded
    next absent =>
      simp only [ite_error_eq_ok, Bool.or_eq_true, decide_eq_true_eq, not_or, ne_eq, not_not, Except.ok.injEq] at decoded
      obtain ⟨⟨⟨id, provider⟩, version⟩, rfl⟩ := decoded
      exact ⟨absent, by rw [id, provider, version]; rfl⟩
    next =>
      split at decoded
      next present =>
        cases decoded
        exact ⟨present, rfl⟩
      next => cases decoded
  · rintro ⟨flag, read⟩
    cases job with
    | none =>
      simp only [rawJob, Prod.mk.injEq] at read
      obtain ⟨id, provider, version⟩ := read
      rw [show payload.getD 1 0 = 0 from flag, if_pos rfl, id, provider, version]
      rfl
    | some job =>
      simp only [rawJob, Prod.mk.injEq] at read
      obtain ⟨id, provider, version⟩ := read
      rw [show payload.getD 1 0 = 1 from flag, if_neg (by decide), if_pos rfl, id, provider, version]

theorem decodeDigest_iff {payload : List UInt8} {digest : Option Bytes32} (flag : ¬1 < payload.getD 4 0) :
    decodeDigest payload = .ok digest ↔
      payload.getD 4 0 = (if digest.isSome then 1 else 0) ∧
      array 32 payload 56 = digest.getD (Vector.replicate 32 0) := by
  unfold decodeDigest
  constructor
  · intro decoded
    split at decoded
    next absent =>
      simp only [ite_error_eq_ok, ne_eq, not_not, Except.ok.injEq] at decoded
      obtain ⟨blank, rfl⟩ := decoded
      exact ⟨absent, blank⟩
    next present =>
      cases decoded
      exact ⟨(presence_cases flag).resolve_left present, rfl⟩
  · rintro ⟨present, read⟩
    cases digest with
    | none =>
      rw [show payload.getD 4 0 = 0 from present, if_pos rfl]
      exact if_neg (not_not.2 read)
    | some digest => rw [show payload.getD 4 0 = 1 from present, if_neg (by decide), show array 32 payload 56 = digest from read]

theorem encodeComputeResult_iff {result : ComputeResult} {payload : List UInt8} :
    encodeComputeResult result = .ok payload ↔
      payload.length = computeResultLen ∧ parseResultPayload payload = .ok result := by
  have written : encodeComputeResult result = .ok payload ↔
      validateComputeResult result = .ok () ∧
      computeResultLayout.put (result.state.code, if result.job.isSome then 1 else 0, result.reason.code,
        if result.digest.isSome then 1 else 0, (rawJob result.job).2.1, (rawJob result.job).2.2, 0, result.leaseId,
        result.workerIncarnationId, (rawJob result.job).1, result.digest.getD (Vector.replicate 32 0)) = payload := by
    rw [encodeComputeResult, check_eq_ok]
    cases result.job with
    | none => simp [computeResultLayout, rawJob]
    | some job => simp [computeResultLayout, rawJob]
  rw [written, computeResultLayout.put_eq_iff, and_left_comm]
  refine and_congr_right fun length => ?_
  simp only [parseResultPayload, ite_error_eq_ok, Bool.or_eq_true, decide_eq_true_eq, not_or, ne_eq, not_not, bind_eq_ok,
    okOr_eq_ok, ComputeJobState.tryFrom_eq_some, ComputeReason.tryFrom_eq_some, decodeResultJob_iff, pure_eq_ok,
    computeResultLayout_get, Prod.mk.injEq]
  constructor
  · obtain ⟨state, reason, leaseId, incarnation, job, digest⟩ := result
    rintro ⟨valid, stateCode, present, reasonCode, digestPresent, provider, version, blank, rfl, rfl, id, read⟩
    have flag : ¬1 < payload.getD 4 0 := by
      rw [digestPresent]
      split <;> decide
    exact ⟨⟨blank, flag⟩, job, ⟨present, by rw [id, provider, version]⟩, digest,
      (decodeDigest_iff flag).2 ⟨digestPresent, read⟩, state, stateCode, reason, reasonCode, ⟨⟩, valid, rfl⟩
  · rintro ⟨⟨blank, flag⟩, job, ⟨present, raw⟩, digest, decoded, state, stateCode, reason, reasonCode, ⟨⟩, valid, rfl⟩
    obtain ⟨digestPresent, read⟩ := (decodeDigest_iff flag).1 decoded
    exact ⟨valid, stateCode, present, reasonCode, digestPresent, congrArg (·.2.1) raw, congrArg (·.2.2) raw, blank, rfl,
      rfl, congrArg (·.1) raw, read⟩

/-- A response that could be built can be sent. -/
theorem buildComputeResponseFrame_encodes {response : ComputeResponse} {requestId sequence : UInt64} {frame : Frame}
    (built : buildComputeResponseFrame response requestId sequence = .ok frame) : ∃ word, encode frame = .ok word := by
  rw [buildComputeResponseFrame, ite_error_eq_ok, bind_eq_ok] at built
  obtain ⟨-, ⟨messageType, payload⟩, encoded, made⟩ := built
  cases pure_eq_ok.1 made
  cases response with
  | status status | cancel status =>
    simp only [encodeComputeResponse, bind_eq_ok, pure_eq_ok, Prod.mk.injEq] at encoded
    obtain ⟨word, encoded, rfl, rfl⟩ := encoded
    have length := (encodeStatus_iff.1 encoded).1
    exact encode_single requestId sequence (length ▸ by decide) (by decide)
  | result result =>
    simp only [encodeComputeResponse, bind_eq_ok, pure_eq_ok, Prod.mk.injEq] at encoded
    obtain ⟨word, encoded, rfl, rfl⟩ := encoded
    have length := (encodeComputeResult_iff.1 encoded).1
    exact encode_single requestId sequence (length ▸ by decide) (by decide)

end PhoneBoost.Pbmux.Proofs
