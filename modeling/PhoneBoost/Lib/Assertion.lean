import Mathlib.Logic.Basic

/-! Pre- and postconditions of programs that change a state and may stop early.
What a program did before it stopped stays done, so there is a second
postcondition for that end. -/

namespace Assertion
variable {ε σ : Type} {α β : Type}

/-- Started where `pre` holds, the program returns with `post` or stops with
`stop`. -/
def Meets (pre : σ → Prop) (program : EStateM ε σ α) (post : α → σ → Prop) (stop : ε → σ → Prop) : Prop :=
  ∀ state, pre state →
    match program state with
    | .ok value after => post value after
    | .error error after => stop error after

variable {pre : σ → Prop} {program : EStateM ε σ α} {post : α → σ → Prop} {stop : ε → σ → Prop}

theorem Meets.ok (meets : Meets pre program post stop) {state after : σ} {value : α} (holds : pre state)
    (ends : program state = .ok value after) : post value after := by
  have result := meets state holds
  rwa [ends] at result

theorem Meets.error (meets : Meets pre program post stop) {state after : σ} {error : ε} (holds : pre state)
    (ends : program state = .error error after) : stop error after := by
  have result := meets state holds
  rwa [ends] at result

/-- A program that never stops early gives its value. -/
theorem Meets.returns (meets : Meets pre program post fun _ _ => False) {state : σ} (holds : pre state) :
    ∃ value after, program state = .ok value after ∧ post value after := by
  cases ends : program state with
  | ok value after => exact ⟨value, after, rfl, meets.ok holds ends⟩
  | error error after => exact (meets.error holds ends).elim

theorem Meets.fails (meets : Meets pre program (fun _ _ => False) stop) {state : σ} (holds : pre state) :
    ∃ error after, program state = .error error after ∧ stop error after := by
  cases ends : program state with
  | ok value after => exact (meets.ok holds ends).elim
  | error error after => exact ⟨error, after, rfl, meets.error holds ends⟩

theorem Meets.each (starting : ∀ state, pre state → Meets (· = state) program post stop) : Meets pre program post stop :=
  fun state holds => starting state holds state rfl

theorem Meets.weaken {strong : σ → Prop} {first : α → σ → Prop} {early : ε → σ → Prop} (meets : Meets strong program first early)
    (before : ∀ state, pre state → strong state) (after : ∀ value state, first value state → post value state)
    (stopped : ∀ error state, early error state → stop error state) : Meets pre program post stop := by
  intro state holds
  cases ends : program state with
  | ok value final => exact after value final (meets.ok (before state holds) ends)
  | error error final => exact stopped error final (meets.error (before state holds) ends)

theorem Meets.and {second : α → σ → Prop} {late : ε → σ → Prop} (one : Meets pre program post stop)
    (two : Meets pre program second late) :
    Meets pre program (fun value after => post value after ∧ second value after) fun error after =>
      stop error after ∧ late error after := by
  intro state holds
  cases ends : program state with
  | ok value after => exact ⟨one.ok holds ends, two.ok holds ends⟩
  | error error after => exact ⟨one.error holds ends, two.error holds ends⟩

theorem Meets.stopping {early : ε → σ → Prop} (meets : Meets pre program post early)
    (implies : ∀ error state, early error state → stop error state) : Meets pre program post stop :=
  meets.weaken (fun _ holds => holds) (fun _ _ holds => holds) implies

/-- A program that never stops early stops in no particular way. -/
theorem Meets.unstopped (meets : Meets pre program post fun _ _ => False) : Meets pre program post stop :=
  meets.stopping fun _ _ impossible => impossible.elim

/-- When it does not matter how the program stops. -/
theorem Meets.anyhow (meets : Meets pre program post stop) : Meets pre program post fun _ _ => True :=
  meets.stopping fun _ _ _ => trivial

theorem Meets.after (meets : Meets pre program post stop) {last : α → σ → Prop}
    (implies : ∀ value state, post value state → last value state) : Meets pre program last stop :=
  meets.weaken (fun _ holds => holds) implies fun _ _ holds => holds

theorem Meets.before {weak : σ → Prop} (meets : Meets weak program post stop) (implies : ∀ state, pre state → weak state) :
    Meets pre program post stop :=
  meets.weaken implies (fun _ _ holds => holds) fun _ _ holds => holds

/-- A fact that does not speak of the state moves out of the condition. -/
theorem Meets.assuming {fact : Prop} (meets : fact → Meets pre program post stop) :
    Meets (fun state => fact ∧ pre state) program post stop := fun state holds => meets holds.1 state holds.2

theorem Meets.exists {choice : γ → σ → Prop} (meets : ∀ value, Meets (choice value) program post stop) :
    Meets (fun state => ∃ value, choice value state) program post stop :=
  fun state ⟨value, holds⟩ => meets value state holds

theorem Meets.pure {value : α} (holds : ∀ state, pre state → post value state) :
    Meets pre (pure value : EStateM ε σ α) post stop := holds

theorem Meets.throw {error : ε} (holds : ∀ state, pre state → stop error state) :
    Meets pre (throw error : EStateM ε σ α) post stop := holds

theorem Meets.bind {next : α → EStateM ε σ β} {middle : α → σ → Prop} {last : β → σ → Prop}
    (first : Meets pre program middle stop) (rest : ∀ value, Meets (middle value) (next value) last stop) :
    Meets pre (program >>= next) last stop := by
  intro state holds
  cases ends : program state with
  | ok value after =>
    have result := rest value after (first.ok holds ends)
    simpa [Bind.bind, EStateM.bind, ends] using result
  | error error after =>
    have result := first.error holds ends
    simpa [Bind.bind, EStateM.bind, ends] using result

/-- What follows a program that never returns does not matter. -/
theorem Meets.ended {next : α → EStateM ε σ β} {last : β → σ → Prop} (never : Meets pre program (fun _ _ => False) stop) :
    Meets pre (program >>= next) last stop := never.bind fun _ _ impossible => impossible.elim

theorem Meets.modify {change : σ → σ} {last : PUnit → σ → Prop} (holds : ∀ state, pre state → last ⟨⟩ (change state)) :
    Meets pre (modify change : EStateM ε σ PUnit) last stop := holds

theorem modify_meets (change : σ → σ) (state : σ) :
    Meets (· = state) (modify change : EStateM ε σ PUnit) (fun _ after => after = change state) stop := by
  rintro _ rfl
  rfl

theorem Meets.set_bind {changed : σ} {next : PUnit → EStateM ε σ β} {last : β → σ → Prop}
    (rest : Meets (· = changed) (next ⟨⟩) last stop) : Meets pre (set changed >>= next) last stop :=
  fun _ _ => rest changed rfl

theorem Meets.set {changed : σ} {last : PUnit → σ → Prop} (holds : ∀ state, pre state → last ⟨⟩ changed) :
    Meets pre (set changed : EStateM ε σ PUnit) last stop := holds

theorem get_bind_run (next : σ → EStateM ε σ β) (state : σ) : (get >>= next) state = next state state := rfl

/-- A program that reads the state first may be followed from each state apart. -/
theorem Meets.get_bind {next : σ → EStateM ε σ β} {last : β → σ → Prop}
    (each : ∀ state, pre state → Meets (· = state) (next state) last stop) : Meets pre (get >>= next) last stop :=
  fun state holds => each state holds state rfl

/-- Reading alone changes nothing. -/
theorem Meets.reading {next : σ → EStateM ε σ β} {last : β → σ → Prop} (each : ∀ state, Meets pre (next state) last stop) :
    Meets pre (get >>= next) last stop := fun state holds => each state state holds

theorem Meets.ite {test : Prop} [Decidable test] {yes no : EStateM ε σ α} (whenTrue : test → Meets pre yes post stop)
    (whenFalse : ¬test → Meets pre no post stop) : Meets pre (if test then yes else no) post stop := by
  split
  next holds => exact whenTrue holds
  next fails => exact whenFalse fails

/-- A handler that only adds to the state and then stops again. -/
theorem Meets.rethrow {handler : ε → EStateM ε σ α} {middle : ε → σ → Prop} (tried : Meets pre program post middle)
    (handled : ∀ error, Meets (middle error) (handler error) post stop) :
    Meets pre (tryCatch program handler) post stop := by
  intro state holds
  cases ends : program state with
  | ok value after =>
    have caught : tryCatch program handler state = .ok value after := by
      change EStateM.tryCatch program handler state = _
      delta EStateM.tryCatch
      rw [ends]
    rw [caught]
    exact tried.ok holds ends
  | error error after =>
    have caught : tryCatch program handler state = handler error after := by
      change EStateM.tryCatch program handler state = _
      delta EStateM.tryCatch
      rw [ends]
      rfl
    rw [caught]
    exact handled error after (tried.error holds ends)

/-- Whether it returns or stops, the program leaves the observed part as it was. -/
def Keeps (observe : σ → ω) (program : EStateM ε σ α) : Prop :=
  ∀ value, Meets (observe · = value) program (fun _ after => observe after = value) fun _ after => observe after = value

section Keeps
variable {observe : σ → ω}

theorem Keeps.each (starting : ∀ state, Meets (· = state) program (fun _ after => observe after = observe state)
    fun _ after => observe after = observe state) : Keeps observe program := by
  intro value
  apply Meets.each
  rintro state rfl
  exact starting state

theorem Keeps.meets (keeps : Keeps observe program) (state : σ) :
    Meets (· = state) program (fun _ after => observe after = observe state) fun _ after => observe after = observe state :=
  (keeps (observe state)).before fun _ same => congrArg observe same

/-- Who sees less sees no change either. -/
theorem Keeps.view (keeps : Keeps observe program) (view : ω → υ) : Keeps (fun state => view (observe state)) program :=
  .each fun state => (keeps.meets state).weaken (fun _ same => same) (fun _ _ same => congrArg view same)
    fun _ _ same => congrArg view same

theorem Keeps.pure (value : α) : Keeps observe (pure value : EStateM ε σ α) := fun _ => Meets.pure fun _ same => same

theorem Keeps.throw (error : ε) : Keeps observe (throw error : EStateM ε σ α) := fun _ => Meets.throw fun _ same => same

theorem Keeps.modify {change : σ → σ} (same : ∀ state, observe (change state) = observe state) :
    Keeps observe (modify change : EStateM ε σ PUnit) := fun _ => Meets.modify fun state holds => (same state).trans holds

theorem Keeps.bind {next : α → EStateM ε σ β} (first : Keeps observe program) (rest : ∀ value, Keeps observe (next value)) :
    Keeps observe (program >>= next) := fun value => (first value).bind fun answer => rest answer value

theorem Keeps.get_bind {next : σ → EStateM ε σ β} (rest : ∀ state, Keeps observe (next state)) :
    Keeps observe (get >>= next) := fun value => Meets.reading fun state => rest state value

theorem Keeps.ite {test : Prop} [Decidable test] {yes no : EStateM ε σ α} (first : Keeps observe yes) (second : Keeps observe no) :
    Keeps observe (if test then yes else no) := fun value => Meets.ite (fun _ => first value) fun _ => second value

theorem Keeps.rethrow {handler : ε → EStateM ε σ α} (tried : Keeps observe program) (handled : ∀ error, Keeps observe (handler error)) :
    Keeps observe (tryCatch program handler) := fun value => (tried value).rethrow fun error => handled error value

end Keeps

/-- From wherever it starts, the program stops early only in the allowed ways. -/
def Stops (allowed : ε → Prop) (program : EStateM ε σ α) : Prop :=
  Meets (fun _ => True) program (fun _ _ => True) fun error _ => allowed error

section Stops
variable {allowed : ε → Prop}

theorem Meets.stops (meets : Meets pre program post stop) (stops : Stops allowed program) :
    Meets pre program post fun error _ => allowed error :=
  (meets.and (Meets.before stops fun _ _ => trivial)).weaken (fun _ holds => holds) (fun _ _ both => both.1) fun _ _ both => both.2

theorem Stops.pure (value : α) : Stops allowed (pure value : EStateM ε σ α) := Meets.pure fun _ _ => trivial

theorem Stops.throw {error : ε} (fits : allowed error) : Stops allowed (throw error : EStateM ε σ α) := Meets.throw fun _ _ => fits

theorem Stops.modify (change : σ → σ) : Stops allowed (modify change : EStateM ε σ PUnit) := Meets.modify fun _ _ => trivial

theorem Stops.set_bind {changed : σ} {next : PUnit → EStateM ε σ β} (rest : Stops allowed (next ⟨⟩)) :
    Stops allowed (set changed >>= next) := Meets.set_bind (Meets.before rest fun _ _ => trivial)

theorem Stops.bind {next : α → EStateM ε σ β} (first : Stops allowed program) (rest : ∀ value, Stops allowed (next value)) :
    Stops allowed (program >>= next) := Meets.bind first rest

theorem Stops.get_bind {next : σ → EStateM ε σ β} (rest : ∀ state, Stops allowed (next state)) : Stops allowed (get >>= next) :=
  Meets.reading rest

theorem Stops.ite {test : Prop} [Decidable test] {yes no : EStateM ε σ α} (first : Stops allowed yes) (second : Stops allowed no) :
    Stops allowed (if test then yes else no) := Meets.ite (fun _ => first) fun _ => second

theorem Stops.rethrow {handler : ε → EStateM ε σ α} (tried : Stops allowed program)
    (handled : ∀ error, allowed error → Stops allowed (handler error)) : Stops allowed (tryCatch program handler) :=
  Meets.rethrow tried fun error _ fits => handled error fits _ trivial

end Stops
end Assertion
