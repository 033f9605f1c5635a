import PhoneBoost.Proofs.CommittedLiveness
import PhoneBoost.Proofs.HandlerAnswers

/-! Whether a job is answered on the session that submitted it. The policy of the
provider lets a job run for thirty seconds, with one more to clean up. The
responder that waits for it measures the silence of the peer from the request on,
and the peer has nothing to say before it has the answer. -/

namespace PhoneBoost.Secure.Proofs
open Pbmux Pbmux.Proofs Assertion
open Worker (Hasher Observed authenticatedCommandHandler providerTimeoutMs)
open Worker.Proofs (Suits allocationCalls applyComputeRequest_answers bootedCore buildComputeResponseFrame_ok_iff coreRun
  coreRun_responsive filled nullHasher parseComputeRequestFrame_parsed someSession)

/-- What the provider may take to clean up after its time is over. -/
def cleanupGraceMs : Nat := 1000

/-- The worker returns at `returnedMs`, in time for the policy. Until then the
polls find nothing, so all but the last come before. -/
structure WithinPolicy (observed : Observed) (pass : Pass σ) (returnedMs : Nat) : Prop where
  ran : observed.run.finishedMs - observed.nowMs ≤ returnedMs - pass.nowMs
  policy : returnedMs ≤ pass.nowMs + providerTimeoutMs + cleanupGraceMs
  waits : ∀ poll ∈ pass.polls.dropLast, poll.nowMs ≤ returnedMs

/-- A `SUBMIT` with the next number reaches a responder that serves its worker.
The stream stays intact: no poll sees it lost, and it takes the answer.
`spoken` is the session after its own heartbeat, when it turns to the request. -/
structure Submitted (peerId : Bytes32) (hasher : Hasher) (verified : VerifiedPeerSession) (observed : Observed)
    (core : Worker.WorkerCore) (pass : Pass (Option Worker.WorkerCore)) (session spoken : Session (Option Worker.WorkerCore))
    (frame : Frame) (submit : ComputeSubmit) : Prop where
  authenticated : session.stage = .authenticated
  spoke : Session.speak peerId false pass session = .ok () spoken
  handler : pass.handler = authenticatedCommandHandler hasher verified observed
  worker : spoken.handler = some core
  reads : Reads pass frame
  numbered : frame.header.sequence = spoken.receiveSequence.expected
  parses : parseComputeRequestFrame frame = .ok (.submit submit)
  intact : ∀ poll ∈ pass.polls, poll.transportLoss = false
  takes : pass.writes spoken.sent.length = .ok ()
  policy : ∃ returnedMs, WithinPolicy observed pass returnedMs

/-- What the worker says to the request. -/
def workerAnswer (hasher : Hasher) (verified : VerifiedPeerSession) (observed : Observed) (core : Worker.WorkerCore)
    (frame : Frame) (submit : ComputeSubmit) : ComputeResponse :=
  (core.applyComputeRequest hasher verified frame.header.requestId (.submit submit) observed.nowMs observed.run
    observed.reads).1

/-- The session goes on, and the last frame it sent is the answer, a `RESULT` or a
`STATUS`. -/
def AnsweredBy (peerId : Bytes32) (pass : Pass σ) (session spoken : Session σ) (frame : Frame) (response : ComputeResponse) : Prop :=
  ((∃ result, response = .result result) ∨ ∃ status, response = .status status) ∧
  ∃ answer after, buildComputeResponseFrame response frame.header.requestId spoken.sendSequence = .ok answer ∧
    (Running.running session).step peerId false pass = .running after ∧ after.sent = spoken.sent ++ [answer]

/-- Every poll comes before the peer counts as offline, and neither direction has
used its last number. -/
structure AnswersInTime (pass : Pass σ) (spoken : Session σ) : Prop where
  heard : ∀ poll ∈ pass.polls, poll.nowMs - pass.nowMs < deviceOfflineTimeoutMs
  receives : spoken.receiveSequence.expected.toNat + 1 ≤ u64Max
  sends : spoken.sendSequence.toNat + 1 ≤ u64Max

theorem authorizeDispatch_compute {frame : Frame} (channel : frame.header.channel = .compute) :
    authorizeDispatch frame .committed = .ok () := by
  simp [authorizeDispatch, isPairConfirm, channel]

section Waiting
variable {σ α : Type} {pass : Pass σ} {session : Session σ}

/-- The wait for a handler that answers is given up exactly if a poll finds the
stream lost or the peer silent for too long. -/
theorem callWhileAlive_meets {method : σ → Except HandlerError α × σ} {value : α}
    (answers : (method session.handler).1 = .ok value) (intact : ∀ poll ∈ pass.polls, poll.transportLoss = false) :
    Meets (· = session) (Session.callWhileAlive pass method)
      (fun found after => (∀ poll ∈ pass.polls, poll.nowMs - session.lastAuthenticatedTraffic < deviceOfflineTimeoutMs) ∧
        found = value ∧ after = { session with handler := (method session.handler).2 })
      fun _ _ => ¬∀ poll ∈ pass.polls, poll.nowMs - session.lastAuthenticatedTraffic < deviceOfflineTimeoutMs := by
  have invoked : Meets (· = session) (Session.invoke method)
      (fun answer after => answer = .ok value ∧ after = { session with handler := (method session.handler).2 })
      fun _ _ => ¬∀ poll ∈ pass.polls, poll.nowMs - session.lastAuthenticatedTraffic < deviceOfflineTimeoutMs := by
    rintro _ rfl
    exact ⟨answers, rfl⟩
  refine invoked.bind fun answer => Meets.assuming ?_
  rintro rfl
  apply Meets.get_bind
  rintro _ rfl
  refine Meets.ite (fun lost => Meets.throw fun _ _ heard => ?_) fun alive => Meets.pure ?_
  · obtain ⟨poll, here, lost⟩ := List.any_eq_true.1 lost
    simp only [intact poll here, Bool.false_or, decide_eq_true_eq] at lost
    exact absurd (heard poll here) (Nat.not_lt.2 lost)
  · rintro _ rfl
    refine ⟨fun poll here => ?_, rfl, rfl⟩
    by_contra silent
    refine alive (List.any_eq_true.2 ⟨poll, here, ?_⟩)
    simpa [intact poll here] using silent

theorem countThenSend_fits {frame : Frame} {record : List UInt8} (encoded : encode frame = .ok record)
    (written : pass.writes session.sent.length = .ok ()) :
    Meets (· = session) (Session.countThenSend pass frame)
      (fun _ after => session.sendSequence.toNat + 1 ≤ u64Max ∧ after.sent = session.sent ++ [frame])
      fun _ _ => ¬session.sendSequence.toNat + 1 ≤ u64Max := by
  refine (advance_fits 1).bind fun _ => Meets.assuming fun fits => ?_
  have sends := @sendFrame_total σ pass { session with sendSequence := .ofNat (session.sendSequence.toNat + 1) } _ record
    encoded written
  refine sends.unstopped.after ?_
  rintro _ _ rfl
  exact ⟨fits, rfl⟩

/-- A request that the handler answers is answered to the peer, unless the wait is
given up or the numbers are used up. -/
theorem onComputeRequest_meets {frame answer : Frame} {request : ComputeRequest} {response : ComputeResponse}
    (parses : parseComputeRequestFrame frame = .ok request)
    (answers : (pass.handler.compute frame.header.requestId request session.handler).1 = .ok response)
    (kind : Session.validResponseKind request response = true)
    (built : buildComputeResponseFrame response frame.header.requestId session.sendSequence = .ok answer)
    (intact : ∀ poll ∈ pass.polls, poll.transportLoss = false) (takes : pass.writes session.sent.length = .ok ()) :
    Meets (· = session) (Session.onComputeRequest pass frame)
      (fun _ after => ((∀ poll ∈ pass.polls, poll.nowMs - session.lastAuthenticatedTraffic < deviceOfflineTimeoutMs) ∧
        session.sendSequence.toNat + 1 ≤ u64Max) ∧ after.sent = session.sent ++ [answer])
      fun _ _ => ¬((∀ poll ∈ pass.polls, poll.nowMs - session.lastAuthenticatedTraffic < deviceOfflineTimeoutMs) ∧
        session.sendSequence.toNat + 1 ≤ u64Max) := by
  obtain ⟨record, encoded⟩ := buildComputeResponseFrame_encodes built
  refine (orFail_total parses).unstopped.bind fun found => Meets.assuming ?_
  rintro rfl
  refine ((callWhileAlive_meets answers intact).stopping ?_).bind fun found => Meets.assuming fun heard => Meets.assuming ?_
  · exact fun _ _ silent inTime => silent inTime.1
  rintro rfl
  refine Meets.ite (fun unfit => absurd kind (by simpa using unfit)) fun _ => ?_
  apply Meets.get_bind
  rintro now rfl
  refine (orFail_total built).unstopped.bind fun found => Meets.assuming ?_
  rintro rfl
  refine Meets.each fun now same => ?_
  have number : now.sendSequence = session.sendSequence := by rw [same]
  have before : now.sent = session.sent := by rw [same]
  have counts := countThenSend_fits encoded (before ▸ takes)
  rw [number, before] at counts
  refine counts.weaken (fun _ same => same) ?_ fun _ _ full inTime => full inTime.2
  rintro _ _ ⟨sends, sent⟩
  exact ⟨⟨heard, sends⟩, sent⟩

end Waiting

section Jobs
variable {peerId : Bytes32} {hasher : Hasher} {verified : VerifiedPeerSession} {observed : Observed}
  {core : Worker.WorkerCore} {pass : Pass (Option Worker.WorkerCore)} {session spoken : Session (Option Worker.WorkerCore)}
  {frame : Frame} {submit : ComputeSubmit}

/-- The handler runs the request on the worker in the slot. -/
theorem Submitted.answers (submitted : Submitted peerId hasher verified observed core pass session spoken frame submit) :
    (pass.handler.compute frame.header.requestId (.submit submit) spoken.handler).1 =
      .ok (workerAnswer hasher verified observed core frame submit) := by
  rw [submitted.handler, submitted.worker]
  rfl

/-- The second half of the pass answers the request if it is in time, and
otherwise ends the session. -/
theorem Submitted.receives (submitted : Submitted peerId hasher verified observed core pass session spoken frame submit)
    {answer : Frame}
    (kind : Session.validResponseKind (.submit submit) (workerAnswer hasher verified observed core frame submit) = true)
    (built : buildComputeResponseFrame (workerAnswer hasher verified observed core frame submit) frame.header.requestId
      spoken.sendSequence = .ok answer) :
    Meets (· = spoken) (Session.receiveAuthenticated false pass)
      (fun _ after => AnswersInTime pass spoken ∧ after.sent = spoken.sent ++ [answer])
      fun _ _ => ¬AnswersInTime pass spoken := by
  obtain ⟨-, channel, -⟩ := parseComputeRequestFrame_parsed submitted.parses
  refine (receiveFrame_reads submitted.reads).unstopped.bind fun frame? => Meets.assuming ?_
  rintro rfl
  refine ((acceptSequence_meets frame).stopping ?_).bind fun _ => Meets.assuming fun ⟨_, receives⟩ =>
    Meets.exists fun tracker => ?_
  · intro _ _ refused inTime
    exact refused ⟨submitted.numbered, inTime.receives⟩
  refine (orFail_total (authorizeDispatch_compute channel)).unstopped.bind fun _ => Meets.assuming fun _ => ?_
  refine (modify_meets _ _).bind fun _ => ?_
  have dispatches : Session.onFrame false pass frame = Session.onComputeRequest pass frame := by
    rw [Session.onFrame, channel]
    rfl
  rw [dispatches]
  refine Meets.each fun now same => ?_
  have handler : now.handler = spoken.handler := by rw [same]
  have number : now.sendSequence = spoken.sendSequence := by rw [same]
  have before : now.sent = spoken.sent := by rw [same]
  have receipt : now.lastAuthenticatedTraffic = pass.nowMs := by rw [same]
  have answers := onComputeRequest_meets submitted.parses (handler ▸ submitted.answers) kind (number ▸ built)
    submitted.intact (before ▸ submitted.takes)
  rw [number, before, receipt] at answers
  refine answers.weaken (fun _ same => same) ?_ fun _ _ late inTime => late ⟨inTime.heard, inTime.sends⟩
  rintro _ _ ⟨⟨heard, sends⟩, sent⟩
  exact ⟨⟨heard, receives, sends⟩, sent⟩

/-- A job within the policy is answered on its session exactly if the whole wait for
it is shorter than the silence that a session bears. -/
theorem compute_answered {boot : Entropy} {start : Worker.WorkerCore} (booted : Worker.WorkerCore.coldStart boot = some start)
    (calls : List Worker.Call)
    (submitted : Submitted peerId hasher verified observed (coreRun hasher start calls).core pass session spoken frame submit) :
    AnsweredBy peerId pass session spoken frame
      (workerAnswer hasher verified observed (coreRun hasher start calls).core frame submit) ↔ AnswersInTime pass spoken := by
  obtain ⟨counted, -, lease⟩ := parseComputeRequestFrame_parsed submitted.parses
  obtain ⟨kind, checked⟩ : Suits (.submit submit) (workerAnswer hasher verified observed (coreRun hasher start calls).core frame submit) :=
    (applyComputeRequest_answers (coreRun_responsive booted calls) observed.run).2 lease
  obtain ⟨answer, built⟩ := (buildComputeResponseFrame_ok_iff counted _ spoken.sendSequence).2 checked
  have receives := submitted.receives kind built
  have passes := runPass_spoken submitted.authenticated submitted.spoke
  constructor
  · rintro ⟨-, -, after, -, runs, -⟩
    rw [running_step_iff, passes] at runs
    exact (receives.ok rfl runs).1
  · intro inTime
    refine ⟨?_, answer, ?_⟩
    · cases told : workerAnswer hasher verified observed (coreRun hasher start calls).core frame submit with
      | result result => exact .inl ⟨result, rfl⟩
      | status status => exact .inr ⟨status, rfl⟩
      | cancel status =>
        rw [told] at kind
        cases kind
    cases runs : Session.receiveAuthenticated false pass spoken with
    | ok _ after => exact ⟨after, built, running_step_iff.2 (passes.trans runs), (receives.ok rfl runs).2⟩
    | error exit after => exact absurd inTime (receives.error rfl runs)

end Jobs

section Served

/-- After its allocation the peer writes the buffer and sets scratch space aside. -/
def jobPasses : List (Pass (Option Worker.WorkerCore)) := allocationPasses ++ [
  workerPass 10003 [] (recordOf ((buildRemoteBufferRequestFrames (.put (filled 1) (filled 9) (filled 3) 0 [1, 2, 3, 4]) 6 5).map
    fun frames => frames.getD 0 (controlFrame .ping 6 5))),
  workerPass 10004 [some (filled 4)]
    (recordOf (buildResourceRequestFrame (.reserve (filled 1) (filled 9) .nativeOpScratchBytes 4) 7 6)),
  workerPass 10005 [] (recordOf (buildResourceRequestFrame (.commit (filled 1) (filled 9) (filled 4)) 8 7))]

/-- The session that is about to submit its job. -/
def jobSession : Session (Option Worker.WorkerCore) :=
  (Machine.run (Running.step responderId false)
    (.running (.start false (some (coreRun nullHasher bootedCore (allocationCalls.take 2)).core))) jobPasses).session

/-- What these passes ask of the worker. -/
def jobCalls : List Worker.Call := allocationCalls.take 2 ++ [
  .controllerCommand someSession .acquire 10000 [some (filled 1)],
  .resourceRequest someSession 3 (.reserve (filled 1) (filled 9) .remoteBufferBytes 4) 10000 [some (filled 2)],
  .resourceRequest someSession 4 (.commit (filled 1) (filled 9) (filled 2)) 10001 [],
  .remoteBufferRequest someSession (.alloc (filled 1) (filled 9) (filled 2) 4 ⟨0, plainFlags_known⟩) 10002 (fun _ => true)
    [some (filled 3)],
  .remoteBufferRequest someSession (.put (filled 1) (filled 9) (filled 3) 0 [1, 2, 3, 4]) 10003 (fun _ => true) [],
  .resourceRequest someSession 7 (.reserve (filled 1) (filled 9) .nativeOpScratchBytes 4) 10004 [some (filled 4)],
  .resourceRequest someSession 8 (.commit (filled 1) (filled 9) (filled 4)) 10005 []]

def jobSubmit : ComputeSubmit := ⟨filled 1, filled 9, filled 4, 1, 1, 1, filled 3, 0, 4⟩

def jobFrame : Frame := (buildComputeRequestFrame (.submit jobSubmit) 9 8).toOption.getD (controlFrame .ping 9 8)

/-- The worker finishes the job at `finishedMs`. -/
def jobObserved (finishedMs : Nat) : Observed :=
  ⟨10006, [some (filled 5)], fun _ => true, ⟨fun _ => true, fun _ => finishedMs, finishedMs⟩⟩

/-- The request arrives at 10 006 ms, and the wait for its answer polls `polls` times. -/
def jobPass (finishedMs polls : Nat) : Pass (Option Worker.WorkerCore) := {
  workerPass 10006 [] (recordOf (.ok jobFrame)) with
  handler := authenticatedCommandHandler nullHasher someSession (jobObserved finishedMs)
  polls := (List.range polls).map fun round => ⟨10006 + sessionPollMs * round, false⟩ }

/-- What becomes of the session, evaluated together. -/
theorem jobSession_facts :
    jobSession.stage = .authenticated ∧ 10006 < jobSession.nextHeartbeat ∧
    jobSession.handler = some (coreRun nullHasher bootedCore jobCalls).core ∧
    (recordOf (.ok jobFrame)).map decode = some (some (.ok jobFrame)) ∧
    jobFrame.header.sequence = jobSession.receiveSequence.expected ∧
    parseComputeRequestFrame jobFrame = .ok (.submit jobSubmit) ∧
    jobSession.receiveSequence.expected.toNat + 1 ≤ u64Max ∧ jobSession.sendSequence.toNat + 1 ≤ u64Max ∧
    resultOf ((Running.running jobSession).step responderId false (jobPass 22006 501)) = some (.error .sessionLost) := by
  decide +kernel

theorem jobPass_submitted {finishedMs polls : Nat} (policy : finishedMs ≤ 41006)
    (waits : 10006 + sessionPollMs * polls ≤ finishedMs + 2 * sessionPollMs) :
    Submitted responderId nullHasher someSession (jobObserved finishedMs) (coreRun nullHasher bootedCore jobCalls).core
      (jobPass finishedMs polls) jobSession jobSession jobFrame jobSubmit := by
  obtain ⟨stage, early, worker, decodes, numbered, parses, -⟩ := jobSession_facts
  obtain ⟨record, made, decoded⟩ := Option.map_eq_some_iff.1 decodes
  refine ⟨stage, speak_early early, rfl, worker, ⟨record, ?_, decoded⟩, numbered, parses, ?_, rfl, finishedMs, ?_⟩
  · exact congrArg Except.ok made
  · simp [jobPass]
  · have receipt : (jobPass finishedMs polls).nowMs = 10006 := rfl
    refine ⟨Nat.le_refl _, ?_, ?_⟩
    · rw [receipt, providerTimeoutMs, cleanupGraceMs]
      exact policy
    · cases polls with
      | zero => simp [jobPass]
      | succ rounds =>
        simp only [jobPass, List.range_succ, List.map_append, List.map_singleton, List.dropLast_concat, List.mem_map,
          List.mem_range]
        rintro _ ⟨round, before, rfl⟩
        simp only [sessionPollMs] at waits ⊢
        omega

/-- A job of two seconds is answered. -/
theorem compute_answered_short_job :
    AnswersInTime (jobPass 12006 101) jobSession ∧
    AnsweredBy responderId (jobPass 12006 101) jobSession jobSession jobFrame
      (workerAnswer nullHasher someSession (jobObserved 12006) (coreRun nullHasher bootedCore jobCalls).core jobFrame jobSubmit) := by
  obtain ⟨-, -, -, -, -, -, receives, sends, -⟩ := jobSession_facts
  have inTime : AnswersInTime (jobPass 12006 101) jobSession := ⟨by decide +kernel, receives, sends⟩
  have submitted := @jobPass_submitted 12006 101 (by decide) (by decide)
  have booted : Worker.WorkerCore.coldStart [some (filled 9)] = some bootedCore := rfl
  exact ⟨inTime, (compute_answered booted jobCalls submitted).2 inTime⟩

/-- A job of twelve seconds is well within the policy. The session is lost ten
seconds after the request, while the job runs. -/
theorem long_job_loses_session :
    Submitted responderId nullHasher someSession (jobObserved 22006) (coreRun nullHasher bootedCore jobCalls).core
      (jobPass 22006 501) jobSession jobSession jobFrame jobSubmit ∧
    resultOf ((Running.running jobSession).step responderId false (jobPass 22006 501)) = some (.error .sessionLost) ∧
    ¬AnsweredBy responderId (jobPass 22006 501) jobSession jobSession jobFrame
      (workerAnswer nullHasher someSession (jobObserved 22006) (coreRun nullHasher bootedCore jobCalls).core jobFrame jobSubmit) := by
  obtain ⟨-, -, -, -, -, -, -, -, lost⟩ := jobSession_facts
  refine ⟨jobPass_submitted (by decide) (by decide), lost, ?_⟩
  rintro ⟨-, -, after, -, runs, -⟩
  rw [runs] at lost
  cases lost

end Served

end PhoneBoost.Secure.Proofs
