import PhoneBoost.Proofs.DisableRelease

/-! What `Available` takes after `Degraded`. A degraded session owes a probe that
starts afterwards and passes. The manager publishes after such a probe, and once
more when it has renewed the lease of a session that it has just read to be
available; in between an execution may have failed. -/

namespace PhoneBoost.Host.Manager.Proofs
open Controller

/-- Of a session that is available after it was degraded, a probe has started
since, and passed. -/
def Earned (log : List Event) : Prop :=
  ∀ before identity middle after, log = before ++ .degraded identity :: (middle ++ .available identity :: after) →
    ∃ first second third lease time,
      middle = first ++ .probing identity :: (second ++ .probed identity lease true time :: third)

/-- What a session owes: nothing, a probe, or the end of the probe that is under way. -/
inductive Debt where
  | clear | owed | tried
deriving DecidableEq

def Debt.after (identity : SessionIdentity) (debt : Debt) : Event → Debt
  | .degraded other => if other = identity then .owed else debt
  | .probing other => if other = identity ∧ debt = .owed then .tried else debt
  | .probed other _ passed _ => if other = identity ∧ passed = true ∧ debt = .tried then .clear else debt
  | _ => debt

def debt (log : List Event) (identity : SessionIdentity) : Debt := log.foldl (Debt.after identity) .clear

theorem debt_concat (log : List Event) (event : Event) (identity : SessionIdentity) :
    debt (log ++ [event]) identity = (debt log identity).after identity event := by
  simp [debt]

/-- From a debt on, the events tell how it was paid. -/
theorem paid_of_after (identity : SessionIdentity) (middle : List Event) :
    (middle.foldl (Debt.after identity) .owed = .tried → ∃ first second, middle = first ++ .probing identity :: second) ∧
    (middle.foldl (Debt.after identity) .owed = .clear → ∃ first second third lease time,
      middle = first ++ .probing identity :: (second ++ .probed identity lease true time :: third)) := by
  induction middle using List.reverseRecOn with
  | nil => simp
  | append_singleton middle event ih =>
    have longer : ∀ result, middle.foldl (Debt.after identity) .owed = result →
        (result = .tried → ∃ first second, middle ++ [event] = first ++ .probing identity :: second) ∧
        (result = .clear → ∃ first second third lease time,
          middle ++ [event] = first ++ .probing identity :: (second ++ .probed identity lease true time :: third)) := by
      rintro _ rfl
      refine ⟨fun tried => ?_, fun clear => ?_⟩
      · obtain ⟨first, second, rfl⟩ := ih.1 tried
        exact ⟨first, second ++ [event], by simp⟩
      · obtain ⟨first, second, third, lease, time, rfl⟩ := ih.2 clear
        exact ⟨first, second, third ++ [event], lease, time, by simp⟩
    rw [List.foldl_append, List.foldl_cons, List.foldl_nil]
    cases event with
    | leased | available | released | left => exact longer _ rfl
    | degraded other =>
      simp only [Debt.after]
      split
      · simp
      · exact longer _ rfl
    | probing other =>
      simp only [Debt.after]
      split
      next starts =>
        obtain ⟨rfl, -⟩ := starts
        exact ⟨fun _ => ⟨middle, [], rfl⟩, by simp⟩
      · exact longer _ rfl
    | probed other lease passed time =>
      simp only [Debt.after]
      split
      next pays =>
        obtain ⟨rfl, rfl, tried⟩ := pays
        obtain ⟨first, second, rfl⟩ := ih.1 tried
        exact ⟨by simp, fun _ => ⟨first, second, [], lease, time, by simp⟩⟩
      · exact longer _ rfl

/-- No session becomes available with a debt. -/
def Settled (log : List Event) : Prop :=
  ∀ before identity after, log = before ++ .available identity :: after → debt before identity = .clear

theorem Settled.earned {log : List Event} (settled : Settled log) : Earned log := by
  intro before identity middle after split
  have clear := settled (before ++ .degraded identity :: middle) identity after (by simp [split])
  rw [debt, List.foldl_append, List.foldl_cons, Debt.after, if_pos rfl] at clear
  exact (paid_of_after identity middle).2 clear

theorem Settled.concat {log : List Event} (settled : Settled log) {event : Event}
    (pays : ∀ identity, event = .available identity → debt log identity = .clear) : Settled (log ++ [event]) := by
  intro before identity after split
  rcases List.eq_nil_or_concat after with rfl | ⟨after, last, rfl⟩
  · obtain ⟨rfl, same⟩ := List.append_inj' split rfl
    exact pays identity (List.cons.inj same).1
  · rw [List.concat_eq_append, ← List.cons_append, ← List.append_assoc] at split
    obtain ⟨split, -⟩ := List.append_inj' split rfl
    exact settled before identity after split

theorem Settled.logged {system : System} (settled : Settled system.log) {event : Event} {happens : Bool}
    (pays : happens = true → ∀ identity, event = .available identity → debt system.log identity = .clear) :
    Settled (system.logged event happens) := by
  cases happens with
  | false => exact settled
  | true => exact settled.concat (pays rfl)

section Status
variable (data : SharedData) (identity : SessionIdentity) (lease : LeaseContext)

@[simp] theorem recordLeaseActive_status : (data.recordLeaseActive identity lease).status = data.status := by
  unfold SharedData.recordLeaseActive
  split <;> rfl

@[simp] theorem recordLeaseUnavailable_status (reason : String) :
    (data.recordLeaseUnavailable identity reason).status = data.status := by
  unfold SharedData.recordLeaseUnavailable
  split <;> rfl

@[simp] theorem recordAdmissionProof_status (passed : Bool) (now : Nat) :
    (data.recordAdmissionProof identity lease passed now).status = data.status := by
  unfold SharedData.recordAdmissionProof
  split <;> rfl

end Status

/-- How far the session is. -/
inductive Stage where
  | outside | before | probing | publishing | serving | republishing

def stage : Pc → Stage
  | .outside _ => .outside
  | .authenticating _ | .acquiring _ | .asking _ | .refused _ | .acquired _ _ | .checking _ _ | .degrading _ _ _ _ => .before
  | .probing _ _ _ => .probing
  | .publishing _ _ _ => .publishing
  | .republishing _ _ => .republishing
  | .looping _ _ | .live _ _ | .renewing _ _ | .renewed _ _ | .idling _ _ | .leaving _ _ | .losing _ | .closing _ => .serving

/-- An execution of the session is under way. -/
def Busy (operation : Operation) (identity : SessionIdentity) : Prop :=
  ∃ active, operation = .executing active ∧ active.identity = identity

/-- The states of a current session. Until it is published nothing is executed, and
what is executed was not degraded when it began. -/
inductive Allowed (status : AutoUseState) (busy : Prop) (debt : Debt) : Stage → Prop where
  | outside : Allowed status busy debt .outside
  | before (hidden : status ≠ .available) (idle : ¬ busy) : Allowed status busy debt .before
  | probing (hidden : status ≠ .available) (idle : ¬ busy) (started : debt ≠ .owed) : Allowed status busy debt .probing
  | publishing (hidden : status ≠ .available) (idle : ¬ busy) (clear : debt = .clear) : Allowed status busy debt .publishing
  | serving (running : busy → status ≠ .degraded) (clear : status = .available → debt = .clear) :
      Allowed status busy debt .serving
  | republishing (running : busy → status ≠ .degraded) (clear : debt = .clear) : Allowed status busy debt .republishing

theorem Allowed.closed {status : AutoUseState} {busy : Prop} {debt : Debt} (hidden : status ≠ .available) (idle : ¬ busy) :
    Allowed status busy debt .serving :=
  .serving (absurd · idle) (absurd · hidden)

theorem Allowed.begins {before after : Prop} {debt : Debt} {stage : Stage} (allowed : Allowed .available before debt stage) :
    Allowed .available after debt stage := by
  cases allowed with
  | outside => exact .outside
  | before hidden | probing hidden | publishing hidden => exact absurd rfl hidden
  | serving _ clear => exact .serving (by simp) clear
  | republishing _ clear => exact .republishing (by simp) clear

/-- An execution that ends, or loses the transport, changes nothing for the manager. -/
theorem Allowed.ends {status next : AutoUseState} {before after : Prop} {debt : Debt} {stage : Stage}
    (allowed : Allowed status before debt stage) (same : next = status ∨ next = .reconnecting) (idle : ¬ after) :
    Allowed next after debt stage := by
  have hidden : status ≠ .available → next ≠ .available := by
    rintro other rfl
    rcases same with same | ⟨⟨⟩⟩
    exact other same.symm
  cases allowed with
  | outside => exact .outside
  | before available => exact .before (hidden available) idle
  | probing available _ started => exact .probing (hidden available) idle started
  | publishing available _ clear => exact .publishing (hidden available) idle clear
  | serving _ clear =>
    refine .serving (absurd · idle) ?_
    rintro rfl
    rcases same with rfl | ⟨⟨⟩⟩
    exact clear rfl
  | republishing _ clear => exact .republishing (absurd · idle) clear

def Account (system : System) (identity : SessionIdentity) : Prop :=
  Allowed system.data.status.state (Busy system.operation identity) (debt system.log identity) (stage system.pc)

section Manager
variable {system : System} {session : Session}

theorem managerStep_settled (settled : Settled system.log)
    (clear : ∀ session, (∃ lease first, system.pc = .publishing session lease first) ∨
        (∃ lease, system.pc = .republishing session lease) →
      system.data.holds session.identity = true → debt system.log session.identity = .clear) (answer : Answer) :
    Settled (system.managerStep answer).log := by
  have publish : ∀ session pc, (system.data.holds session.identity = true → debt system.log session.identity = .clear) →
      Settled (system.publish session pc).log := by
    intro session pc clear
    refine settled.logged ?_
    rintro holds _ ⟨⟩
    simp only [Bool.and_eq_true] at holds
    exact clear holds.1.1
  unfold System.managerStep
  cases pc : system.pc with
  | outside epoch => cases epoch <;> dsimp only <;> split_ifs <;> exact settled
  | publishing session lease first =>
    dsimp only
    split
    · exact settled
    · exact publish session _ (clear session (.inl ⟨lease, first, pc⟩))
  | republishing session lease => exact publish session _ (clear session (.inr ⟨lease, pc⟩))
  | probing =>
    simp only [System.probeEnds]
    split_ifs <;> first | exact settled | exact settled.logged (by rintro _ _ ⟨⟩)
  | asking =>
    dsimp only
    split
    · exact settled.concat (by rintro _ ⟨⟩)
    · split_ifs <;> exact settled
  | renewing =>
    dsimp only
    split
    · exact settled.concat (by rintro _ ⟨⟩)
    · exact settled
  | checking | idling =>
    dsimp only
    split
    · exact settled.concat (by rintro _ ⟨⟩)
    · exact settled
  | degrading =>
    dsimp only
    split <;> exact settled.logged (by rintro _ _ ⟨⟩)
  | leaving =>
    dsimp only
    split
    · exact (settled.logged (by rintro _ _ ⟨⟩)).concat (by rintro _ ⟨⟩)
    · exact settled
  | refused | acquired | losing | closing => exact settled
  | authenticating | acquiring | looping | live | renewed =>
    dsimp only
    split_ifs <;> exact settled

theorem debt_probing (log : List Event) (identity : SessionIdentity) :
    debt (log ++ [.probing identity]) identity ≠ .owed := by
  rw [debt_concat]
  cases debt log identity <;> simp [Debt.after]

theorem debt_probed {log : List Event} {identity : SessionIdentity} (started : debt log identity ≠ .owed)
    (lease : LeaseContext) (time : Nat) : debt (log ++ [.probed identity lease true time]) identity = .clear := by
  rw [debt_concat]
  cases known : debt log identity with
  | owed => exact absurd known started
  | clear | tried => simp [Debt.after]

/-- Publishing needs no debt, and takes nothing from an execution. -/
theorem Allowed.publish (clear : debt system.log session.identity = .clear)
    (running : Busy system.operation session.identity → system.data.status.state ≠ .degraded) (pc : Pc) :
    Allowed (system.publish session pc).data.status.state (Busy system.operation session.identity)
      (debt (system.publish session pc).log session.identity) .serving := by
  have same : debt (system.publish session pc).log session.identity = .clear := by
    simp only [System.publish, System.logged]
    split
    · rw [debt_concat, clear]
      rfl
    · exact clear
  refine .serving (fun busy => ?_) fun _ => same
  simp only [System.publish, SharedData.publishAvailable]
  split
  · simp [nodeStatus]
  · exact running busy

/-- A step of the manager keeps the account of its session while it is current. -/
theorem Account.managerStep (account : Account system session.identity) (own : Proofs.session system.pc = some session)
    (coherent : Coherent system) (current : system.data.sessionIdentity = some session.identity) (answer : Answer)
    (still : Proofs.session (system.managerStep answer).pc = some session) :
    Account (system.managerStep answer) session.identity := by
  obtain ⟨enabled, epoch, -⟩ := coherent _ current
  have holds : system.data.holds session.identity = true := by simp [SharedData.holds, enabled, current]
  have phased : ∀ state reason, (system.data.setPhase session.identity.epoch state reason).status.state = state := by
    intro state reason
    rw [SharedData.setPhase, if_pos (by simp [enabled, epoch])]
    rfl
  unfold Account at account ⊢
  unfold System.managerStep at still ⊢
  cases pc : system.pc with
  | outside => simp [Proofs.session, pc] at own
  | closing => simp [Proofs.session, pc] at still
  | authenticating =>
    rw [pc] at account own
    cases own
    cases account with | before hidden idle
    dsimp only
    split
    · exact .before (by simp [phased]) idle
    · exact .closed hidden idle
  | acquiring =>
    rw [pc] at account own
    cases own
    cases account with | before hidden idle
    dsimp only
    split
    · exact .before hidden idle
    · exact .closed hidden idle
  | asking =>
    rw [pc] at account own
    cases own
    cases account with | before hidden idle
    dsimp only
    split
    · exact .before (by simpa using hidden) idle
    · split
      · exact .closed hidden idle
      · exact .before (by simpa using hidden) idle
  | refused | acquired =>
    rw [pc] at account own
    cases own
    cases account with | before hidden idle
    exact .before (by simp [phased]) idle
  | checking =>
    rw [pc] at account own
    cases own
    cases account with | before hidden idle
    dsimp only
    split
    · exact .probing hidden idle (debt_probing _ _)
    · exact .closed hidden idle
  | probing _ lease first =>
    rw [pc] at account own
    cases own
    cases account with | probing hidden idle started
    simp only [System.probeEnds]
    cases passed : answer.ok with
    | true =>
      simp only [Bool.true_or, if_true, System.logged, holds]
      exact .publishing (by simpa using hidden) idle (debt_probed started ..)
    | false =>
      have failed : (system.data.recordAdmissionProof session.identity lease false system.now).status.state ≠ .available := by
        simpa using hidden
      simp only [Bool.false_or, Bool.false_eq_true, if_false]
      cases answer.looked <;> cases answer.transportLost <;> cases first <;>
        first | exact .closed failed idle | exact .closed hidden idle | exact .before failed idle | exact .before hidden idle
  | degrading _ lease reason first =>
    rw [pc] at account own
    cases own
    cases account with | before hidden idle
    dsimp only
    split
    · exact .before (by simp [phased]) idle
    · exact .closed (by simp [SharedData.markDegraded, holds, nodeStatus]) idle
  | publishing =>
    rw [pc] at account own
    cases own
    cases account with | publishing hidden idle clear
    dsimp only
    split
    · exact .closed hidden idle
    · exact .publish clear (absurd · idle) _
  | looping | live =>
    rw [pc] at account own
    cases own
    cases account with | serving running clear
    dsimp only
    split_ifs <;> exact .serving running clear
  | renewing =>
    rw [pc] at account own
    cases own
    cases account with | serving running clear
    dsimp only
    split
    · refine .serving (by simpa using running) ?_
      rw [debt_concat]
      simpa [Debt.after] using clear
    · exact .serving (by simpa [System.close] using running) (by simpa [System.close] using clear)
  | renewed =>
    rw [pc] at account own
    cases own
    cases account with | serving running clear
    dsimp only
    split
    next available => exact .republishing running (clear available)
    · exact .serving running clear
  | republishing =>
    rw [pc] at account own
    cases own
    cases account with | republishing running clear
    exact .publish clear running _
  | idling =>
    rw [pc] at account own
    cases own
    cases account with | serving running clear
    dsimp only
    split
    next degraded =>
      simp only [Bool.and_eq_true, decide_eq_true_eq] at degraded
      exact .probing (by simp [degraded.1]) (fun busy => running busy degraded.1) (debt_probing _ _)
    · exact .serving running clear
  | leaving =>
    rw [pc] at account own
    cases own
    cases account with | serving running clear
    dsimp only
    split
    · refine .serving running fun available => ?_
      rw [debt_concat, System.logged]
      split
      · rw [debt_concat, clear available]
        rfl
      · rw [clear available]
        rfl
    · rw [pc]
      exact .serving running clear
  | losing =>
    rw [pc] at account own
    cases own
    cases account with | serving running clear
    exact .serving (by simp [SharedData.markConnectionLost, holds, nodeStatus])
      (by simp [SharedData.markConnectionLost, holds, nodeStatus])

end Manager

/-- Whatever names a session was made with its number. -/
structure Numbered (system : System) : Prop where
  own : ∀ session ∈ Proofs.session system.pc, session.identity.serial ≤ system.data.nextSessionSerial
  active : ∀ session ∈ system.data.active, session.identity.serial ≤ system.data.nextSessionSerial
  executing : ∀ active, system.operation = .executing active → active.identity.serial ≤ system.data.nextSessionSerial

/-- What the manager adds to the names: those of its own session. -/
structure Names (system next : System) : Prop where
  active : ∀ session ∈ next.data.active, session ∈ system.data.active ∨ session ∈ Proofs.session system.pc
  operation : next.operation = system.operation

theorem managerStep_names (system : System) (answer : Answer) : Names system (system.managerStep answer) := by
  refine ⟨?_, ?_⟩
  · unfold System.managerStep
    cases pc : system.pc <;>
      simp only [System.probeEnds, System.close, System.publish, SharedData.recordLeaseActive,
        SharedData.recordLeaseUnavailable, SharedData.recordAdmissionProof, SharedData.publishAvailable, SharedData.setPhase,
        SharedData.markDegraded, SharedData.markConnectionLost, SharedData.clearSession, SharedData.connect, Proofs.session]
    all_goals grind
  · unfold System.managerStep
    cases pc : system.pc <;> simp only [System.probeEnds, System.close, System.publish]
    all_goals grind

theorem serial_of_frame {data next : SharedData} (frames : frame next = frame data) :
    next.nextSessionSerial = data.nextSessionSerial :=
  congrArg (fun frame => frame.2.2.2) frames

theorem Numbered.managerStep {system : System} (numbered : Numbered system) (room : system.data.nextSessionSerial < u64Max)
    (answer : Answer) : Numbered (system.managerStep answer) := by
  have names := managerStep_names system answer
  have moves := managerStep_moves system answer
  generalize system.managerStep answer = next at names moves ⊢
  have grows : system.data.nextSessionSerial ≤ next.data.nextSessionSerial ∧
      ∀ session ∈ Proofs.session next.pc, session.identity.serial ≤ next.data.nextSessionSerial := by
    cases moves with
    | stays frames same => exact ⟨(serial_of_frame frames).ge, by rw [same, serial_of_frame frames]; exact numbered.own⟩
    | @connects _ session _ _ frames own pc _ _ =>
      simp only [frame, Prod.mk.injEq] at frames
      rw [frames.2.2.2, pc, own, saturatingAdd_of_le room]
      refine ⟨by simp, ?_⟩
      rintro _ ⟨⟩
      rw [own, saturatingAdd_of_le room]
    | @closes session _ frames pc =>
      have same : next.data.nextSessionSerial = system.data.nextSessionSerial := by
        rw [serial_of_frame frames, SharedData.clearSession]
        split <;> rfl
      exact ⟨same.ge, by rw [pc]; rintro _ ⟨⟩⟩
  refine ⟨grows.2, fun session member => ?_, fun active executing => ?_⟩
  · exact ((names.active session member).elim (numbered.active session) (numbered.own session)).trans grows.1
  · exact (numbered.executing active (names.operation ▸ executing)).trans grows.1

theorem Numbered.act {system : System} (numbered : Numbered system) (room : system.data.nextSessionSerial < u64Max)
    (act : Act) : Numbered (system.act act) := by
  obtain ⟨own, active, executing⟩ := numbered
  cases act with
  | manager answer => exact Numbered.managerStep ⟨own, active, executing⟩ room answer
  | enable =>
    simp only [System.act, SharedData.enable]
    split <;> exact ⟨own, active, executing⟩
  | disable =>
    simp only [System.act, SharedData.disable]
    split
    · exact ⟨own, active, executing⟩
    · exact ⟨own, by rintro _ ⟨⟩, executing⟩
  | authenticate | sessionEnds => exact ⟨own, active, executing⟩
  | begin =>
    simp only [System.act]
    split
    next chosen found =>
      split
      · exact ⟨own, active, by rintro _ ⟨⟩; exact active _ found⟩
      · exact ⟨own, active, executing⟩
    · exact ⟨own, active, executing⟩
  | finish failure =>
    simp only [System.act]
    split
    · exact ⟨own, active, by rintro _ ⟨⟩⟩
    · split
      · exact ⟨own, active, by rintro _ ⟨⟩⟩
      · simp only [SharedData.markDegraded]
        split
        · exact ⟨own, by rintro _ ⟨⟩, by rintro _ ⟨⟩⟩
        · exact ⟨own, active, by rintro _ ⟨⟩⟩
    · simp only [SharedData.markConnectionLost]
      split
      · exact ⟨own, by rintro _ ⟨⟩, by rintro _ ⟨⟩⟩
      · exact ⟨own, active, by rintro _ ⟨⟩⟩
    · exact ⟨own, active, executing⟩

structure Earning (system : System) : Prop where
  coherent : Coherent system
  numbered : Numbered system
  account : ∀ session ∈ Proofs.session system.pc, system.data.sessionIdentity = some session.identity →
    Account system session.identity
  settled : Settled system.log

/-- A step that may be taken: no execution fails on the worker between the look at
the status and the publication after a RENEW, and the numbers of sessions last. -/
def Orderly (system : System) (timed : Timed) : Prop :=
  (∀ active failure, system.operation = .executing active → timed.act = .finish (some failure) →
    failure.transportLost = false → ∀ session lease, system.pc ≠ .republishing session lease) ∧
  system.data.nextSessionSerial < u64Max

theorem Earning.managerStep {system : System} (earning : Earning system) (room : system.data.nextSessionSerial < u64Max)
    (answer : Answer) : Earning (system.managerStep answer) := by
  obtain ⟨coherent, numbered, account, settled⟩ := earning
  refine ⟨coherent.managerStep answer, numbered.managerStep room answer, fun session member current => ?_,
    managerStep_settled settled ?_ answer⟩
  · cases managerStep_moves system answer with
    | stays frames same =>
      rw [sessionIdentity_of_frame frames] at current
      have own : Proofs.session system.pc = some session := same ▸ member
      exact (account session own current).managerStep own coherent current answer member
    | @connects epoch other _ _ _ own pc status log =>
      rw [pc] at member
      cases member
      have fresh : session.identity.serial = system.data.nextSessionSerial + 1 := by
        rw [own, saturatingAdd_of_le room]
        simp
      have idle : ¬ Busy system.operation session.identity := by
        rintro ⟨active, executing, same⟩
        have old := numbered.executing active executing
        rw [same] at old
        omega
      rw [Account, pc, status, (managerStep_names system answer).operation]
      exact .before (by simp [nodeStatus]) idle
    | closes _ _ pc => simp [pc, Proofs.session] at member
  · intro session publishes holds
    simp only [SharedData.holds, Bool.and_eq_true, decide_eq_true_eq] at holds
    rcases publishes with ⟨lease, first, pc⟩ | ⟨lease, pc⟩
    · have known := account session (by rw [pc]; rfl) holds.2
      rw [Account, pc] at known
      cases known with | publishing _ _ clear => exact clear
    · have known := account session (by rw [pc]; rfl) holds.2
      rw [Account, pc] at known
      cases known with | republishing _ clear => exact clear

/-- The account of the current session after a step of another thread. -/
theorem Earning.quiet {system next : System} {act : Act} (earning : Earning system) (quiet : Quiet system next act)
    (numbered : Numbered next) (settled : Settled next.log)
    (account : ∀ session ∈ Proofs.session system.pc, system.data.sessionIdentity = some session.identity →
      Account system session.identity → frame next.data = frame system.data → Account next session.identity) : Earning next := by
  refine ⟨earning.coherent.quiet quiet, numbered, fun session member current => ?_, settled⟩
  rw [quiet.pc] at member
  rcases quiet.data with frames | ⟨-, gone⟩ | ⟨disabled, same⟩
  · rw [sessionIdentity_of_frame frames] at current
    exact account session member current (earning.account session member current) frames
  · rw [gone] at current
    cases current
  · have enabled := (earning.coherent _ (same ▸ current)).1
    rw [disabled] at enabled
    cases enabled

/-- What is executed was published, so that only a second publication may be ahead. -/
theorem Account.serving {system : System} {session : Session} (account : Account system session.identity)
    (member : session ∈ Proofs.session system.pc) (busy : Busy system.operation session.identity)
    (away : ∀ session lease, system.pc ≠ .republishing session lease) : stage system.pc = .serving := by
  rw [Account] at account
  cases known : stage system.pc with
  | serving => rfl
  | outside => cases pc : system.pc <;> simp_all [stage, Proofs.session]
  | republishing => cases pc : system.pc <;> simp_all [stage]
  | before =>
    rw [known] at account
    cases account with | before _ idle => exact absurd busy idle
  | probing =>
    rw [known] at account
    cases account with | probing _ idle _ => exact absurd busy idle
  | publishing =>
    rw [known] at account
    cases account with | publishing _ idle _ => exact absurd busy idle

theorem Earning.act {system : System} (earning : Earning system) {act : Act} {elapsed : Nat}
    (orderly : Orderly system ⟨elapsed, act⟩) : Earning (system.act act) := by
  have numbered := earning.numbered.act orderly.2 act
  cases act with
  | manager answer => exact earning.managerStep orderly.2 answer
  | enable =>
    refine earning.quiet (act_quiet system (by simp)) numbered earning.settled fun session _ current account _ => ?_
    have enabled := (earning.coherent _ current).1
    rwa [System.act, SharedData.enable, if_pos enabled]
  | disable =>
    have settled : Settled (system.act .disable).log := by
      rw [System.act]
      split <;> exact earning.settled
    refine earning.quiet (act_quiet system (by simp)) numbered settled fun session _ current _ frames => ?_
    have enabled := (earning.coherent _ current).1
    have same := sessionIdentity_of_frame frames
    simp [System.act, SharedData.disable, enabled, current] at same
  | authenticate | sessionEnds =>
    exact earning.quiet (act_quiet system (by simp)) numbered earning.settled fun _ _ _ account _ => account
  | begin =>
    have settled : Settled (system.act .begin).log := by
      rw [System.act]
      split
      · split <;> exact earning.settled
      · exact earning.settled
    refine earning.quiet (act_quiet system (by simp)) numbered settled fun session _ _ account _ => ?_
    rw [System.act]
    split
    · split
      next available =>
        simp only [Bool.and_eq_true, decide_eq_true_eq] at available
        rw [Account, available.2] at account
        rw [Account]
        exact available.2 ▸ account.begins
      · exact account
    · exact account
  | finish failure =>
    have settled : Settled (system.act (.finish failure)).log := by
      simp only [System.act]
      split
      · exact earning.settled
      · split
        · exact earning.settled
        · exact earning.settled.logged (by rintro _ _ ⟨⟩)
      · exact earning.settled
      · exact earning.settled
    refine earning.quiet (act_quiet system (by simp)) numbered settled fun session member current account _ => ?_
    simp only [System.act]
    split
    · exact account.ends (.inl rfl) (by rintro ⟨_, ⟨⟩, _⟩)
    next active failure executing _ =>
      split
      · exact account.ends (.inl rfl) (by rintro ⟨_, ⟨⟩, _⟩)
      next kept =>
        simp only [SharedData.markDegraded, System.logged]
        split
        next holds =>
          have own : active.identity = session.identity := by
            simp only [SharedData.holds, Bool.and_eq_true, decide_eq_true_eq] at holds
            exact Option.some.inj (holds.2.symm.trans current)
          have busy : Busy system.operation session.identity := ⟨active, executing, own⟩
          have away := orderly.1 active failure executing rfl (by simpa using kept)
          rw [Account, account.serving member busy away]
          exact .serving (by rintro ⟨_, ⟨⟩, _⟩) (by simp [nodeStatus])
        · exact account.ends (.inl rfl) (by rintro ⟨_, ⟨⟩, _⟩)
    next active _ _ =>
      refine account.ends ?_ (by rintro ⟨_, ⟨⟩, _⟩)
      simp only [SharedData.markConnectionLost]
      split
      · exact .inr rfl
      · exact .inl rfl
    · exact account

theorem systemRun_earning {acts : List Timed} (orderly : Machine.Each System.step initial Orderly acts) :
    Earning (systemRun acts) := by
  refine Machine.run_each Earning ?_ ?_ orderly
  · refine ⟨by rintro _ ⟨⟩, ⟨by rintro _ ⟨⟩, by rintro _ ⟨⟩, by rintro _ ⟨⟩⟩, by rintro _ ⟨⟩, ?_⟩
    intro before identity after split
    cases before <;> cases split
  · intro system timed orderly earning
    have waited : Earning { system with now := system.now + timed.elapsed } := by
      obtain ⟨coherent, ⟨own, active, executing⟩, account, settled⟩ := earning
      exact ⟨coherent, ⟨own, active, executing⟩, account, settled⟩
    exact waited.act orderly

/-- In a run of orderly steps a degraded session is available again only after a
probe that started afterwards and passed. -/
theorem availability_earned (acts : List Timed) (orderly : Machine.Each System.step initial Orderly acts) :
    Earned (systemRun acts).log :=
  (systemRun_earning orderly).settled.earned

/-- An execution fails, and the next probe passes. -/
def probedAgain : List Timed :=
  becomesAvailable ++ [⟨0, .begin⟩, ⟨0, .finish (some (.known .workerUnhealthy))⟩, ⟨0, .manager {}⟩, ⟨0, .manager {}⟩,
    ⟨0, .manager { due := true }⟩, ⟨0, .manager {}⟩, ⟨0, .manager {}⟩]

theorem probedAgain_orderly : Machine.Each System.step initial Orderly probedAgain := by
  intro index timed found
  have inside : index < 18 := (List.getElem?_eq_some_iff.mp found).1
  interval_cases index <;> cases found <;> refine ⟨?_, by decide⟩ <;> rintro _ _ _ ⟨⟩ _ _ _ ⟨⟩

theorem availability_earned_probed :
    (systemRun probedAgain).data.status.state = .available ∧ .degraded ⟨1, 1⟩ ∈ (systemRun probedAgain).log ∧
    Earned (systemRun probedAgain).log :=
  ⟨by decide, by decide, availability_earned probedAgain probedAgain_orderly⟩

/-- The execution fails when the manager has renewed the lease and seen that the
worker is available. -/
def renewedMeanwhile : List Timed :=
  becomesAvailable ++ [⟨0, .begin⟩, ⟨0, .manager {}⟩, ⟨0, .manager { due := true }⟩,
    ⟨0, .manager { ack := some (someAck 1 1) }⟩, ⟨0, .manager {}⟩, ⟨0, .finish (some (.known .workerUnhealthy))⟩,
    ⟨0, .manager {}⟩]

/-- The worker that has just been degraded is available, and there was no probe. -/
theorem renewedMeanwhile_unearned :
    (systemRun renewedMeanwhile.dropLast).data.status.state = .degraded ∧
    (systemRun renewedMeanwhile).data.status.state = .available ∧
    (∃ before, (systemRun renewedMeanwhile).log = before ++ [.degraded ⟨1, 1⟩, .available ⟨1, 1⟩]) ∧
    ¬ Earned (systemRun renewedMeanwhile).log := by
  have log : (systemRun renewedMeanwhile).log =
      (systemRun renewedMeanwhile).log.dropLast.dropLast ++ [.degraded ⟨1, 1⟩, .available ⟨1, 1⟩] := by decide
  refine ⟨by decide, by decide, ⟨_, log⟩, fun earned => ?_⟩
  obtain ⟨first, second, third, lease, time, split⟩ := earned _ ⟨1, 1⟩ [] [] log
  cases first <;> cases split

end PhoneBoost.Host.Manager.Proofs
