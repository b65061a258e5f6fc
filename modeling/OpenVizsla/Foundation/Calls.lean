import Mathlib

/-!
# Programs that call an environment

A program runs against a script: the answers that its calls get, in order.  A
run returns a value, fails, aborts, or waits for an answer that the script
does not hold.  However it ends, the calls it has made and the state it has
reached are kept, so that runs that never return can be spoken of.
-/

namespace OpenVizsla.Foundation.Calls

universe u

/-- Why a run has no value. -/
inductive Stop (κ : Type u) where
  | failed
  | aborted
  | waiting (call : κ)
deriving DecidableEq, Repr

/-- How a run ends. -/
inductive Ending (κ α : Type u) where
  | returned (value : α)
  | stopped (stop : Stop κ)
deriving DecidableEq, Repr

/-- The ending of a run whose failure is only taken note of. -/
def Ending.attempted {κ α : Type u} : Ending κ α → Ending κ (Option α)
  | .returned value => .returned (some value)
  | .stopped .failed => .returned none
  | .stopped .aborted => .stopped .aborted
  | .stopped (.waiting call) => .stopped (.waiting call)

/-- What is left of a run: its answered calls and where it has got. -/
structure Outcome (κ ρ σ α : Type u) where
  calls : List (κ × ρ)
  ending : Ending κ α
  state : σ
  rest : List ρ

variable {κ ρ σ α β γ : Type u}

/-- The run waits for an answer. -/
def Ending.Waiting : Ending κ α → Prop
  | .stopped (.waiting _) => True
  | _ => False

instance : (ending : Ending κ α) → Decidable ending.Waiting
  | .returned _ => isFalse id
  | .stopped .failed => isFalse id
  | .stopped .aborted => isFalse id
  | .stopped (.waiting _) => isTrue trivial

@[simp]
theorem Ending.waiting_returned (value : α) :
    ¬ (Ending.returned value : Ending κ α).Waiting :=
  id

theorem Ending.waiting_stopped {stop : Stop κ} :
    (Ending.stopped stop : Ending κ α).Waiting ↔
      (Ending.stopped stop : Ending κ β).Waiting := by
  cases stop <;> rfl

theorem Ending.waiting_attempted {ending : Ending κ α} :
    ending.attempted.Waiting ↔ ending.Waiting := by
  cases ending with
  | returned value => rfl
  | stopped stop => cases stop <;> rfl

/-- Go on with the value of a run, if it has one. -/
def Outcome.andThen (first : Outcome κ ρ σ α)
    (next : α → σ → List ρ → Outcome κ ρ σ β) : Outcome κ ρ σ β :=
  match first.ending with
  | .returned value =>
      let second := next value first.state first.rest
      { second with calls := first.calls ++ second.calls }
  | .stopped stop =>
      { calls := first.calls
        ending := .stopped stop
        state := first.state
        rest := first.rest }

/-- The outcome accounts for the script it was given. -/
structure Outcome.Fits (outcome : Outcome κ ρ σ α) (script : List ρ) :
    Prop where
  /-- The calls took their answers from the script, in order. -/
  reads : outcome.calls.map Prod.snd ++ outcome.rest = script
  /-- A run waits only when no answer is left. -/
  waits : outcome.ending.Waiting → outcome.rest = []

theorem Outcome.Fits.andThen {first : Outcome κ ρ σ α} {script : List ρ}
    {next : α → σ → List ρ → Outcome κ ρ σ β}
    (fits : first.Fits script)
    (nextFits :
      ∀ value, first.ending = .returned value →
        (next value first.state first.rest).Fits first.rest) :
    (first.andThen next).Fits script := by
  unfold Outcome.andThen
  split
  case h_1 value returned =>
      have second := nextFits value returned
      refine ⟨?_, second.waits⟩
      rw [List.map_append, List.append_assoc, second.reads, fits.reads]
  case h_2 stop stopped =>
      refine ⟨fits.reads, fun waiting => fits.waits ?_⟩
      rw [stopped]
      exact Ending.waiting_stopped.mp waiting

/-- Answers that come after the end of a run stay in the script. -/
def Outcome.later (outcome : Outcome κ ρ σ α) (answers : List ρ) :
    Outcome κ ρ σ α :=
  { outcome with rest := outcome.rest ++ answers }

/--
A program: what it does against each script.  It accounts for the script, and
answers that it has no use for make no difference.
-/
@[ext]
structure Program (κ ρ σ α : Type u) where
  run : σ → List ρ → Outcome κ ρ σ α
  fits : ∀ state script, (run state script).Fits script
  extend :
    ∀ state script answers, ¬ (run state script).ending.Waiting →
      run state (script ++ answers) = (run state script).later answers

namespace Program

/-! ## The ways to build a program -/

/-- Stop at once. -/
def finish (ending : Ending κ α) (settled : ¬ ending.Waiting) :
    Program κ ρ σ α where
  run := fun state script =>
    { calls := [], ending := ending, state := state, rest := script }
  fits := fun _ _ => ⟨rfl, fun waiting => absurd waiting settled⟩
  extend := fun _ _ _ _ => rfl

/-- Give up, as a function does that returns a negative value. -/
def fail : Program κ ρ σ α :=
  finish (.stopped .failed) id

/-- Abort, as a failed assertion does. -/
def abort : Program κ ρ σ α :=
  finish (.stopped .aborted) id

/-- The state. -/
def get : Program κ ρ σ σ where
  run := fun state script =>
    { calls := [], ending := .returned state, state := state, rest := script }
  fits := fun _ _ => ⟨rfl, False.elim⟩
  extend := fun _ _ _ _ => rfl

/-- Change the state. -/
def modify (change : σ → σ) : Program κ ρ σ PUnit where
  run := fun state script =>
    { calls := []
      ending := .returned ⟨⟩
      state := change state
      rest := script }
  fits := fun _ _ => ⟨rfl, False.elim⟩
  extend := fun _ _ _ _ => rfl

/-- Make a call. -/
def call (query : κ) : Program κ ρ σ ρ where
  run := fun state script =>
    match script with
    | [] =>
        { calls := []
          ending := .stopped (.waiting query)
          state := state
          rest := [] }
    | answer :: rest =>
        { calls := [(query, answer)]
          ending := .returned answer
          state := state
          rest := rest }
  fits := by
    intro state script
    cases script with
    | nil => exact ⟨rfl, fun _ => rfl⟩
    | cons answer rest => exact ⟨rfl, False.elim⟩
  extend := by
    intro state script answers settled
    cases script with
    | nil => exact absurd trivial settled
    | cons answer rest => rfl

theorem andThen_later {first : Outcome κ ρ σ α} {answers : List ρ}
    {next : α → σ → List ρ → Outcome κ ρ σ β}
    (settled : ¬ (first.andThen next).ending.Waiting)
    (extend :
      ∀ value, first.ending = .returned value →
        ¬ (next value first.state first.rest).ending.Waiting →
          next value first.state (first.rest ++ answers) =
            (next value first.state first.rest).later answers) :
    (first.later answers).andThen next =
      (first.andThen next).later answers := by
  unfold Outcome.andThen at settled ⊢
  cases ended : first.ending with
  | returned value =>
      simp only [ended] at settled
      simp only [Outcome.later, ended]
      rw [extend value ended settled]
      rfl
  | stopped stop => simp only [Outcome.later, ended]

theorem settled_of_andThen {first : Outcome κ ρ σ α}
    {next : α → σ → List ρ → Outcome κ ρ σ β}
    (settled : ¬ (first.andThen next).ending.Waiting) :
    ¬ first.ending.Waiting := by
  intro waiting
  apply settled
  unfold Outcome.andThen
  cases ended : first.ending with
  | returned value => exact absurd (ended ▸ waiting) (by simp)
  | stopped stop =>
      rw [ended] at waiting
      exact Ending.waiting_stopped.mp waiting

/-- One program after the other. -/
def bind (first : Program κ ρ σ α) (next : α → Program κ ρ σ β) :
    Program κ ρ σ β where
  run := fun state script =>
    (first.run state script).andThen fun value => (next value).run
  fits := fun state script =>
    (first.fits state script).andThen fun value _ => (next value).fits _ _
  extend := by
    intro state script answers settled
    rw [first.extend state script answers (settled_of_andThen settled)]
    exact andThen_later settled fun value _ => (next value).extend _ _ _

instance : Monad (Program κ ρ σ) where
  pure value := finish (.returned value) id
  bind := bind

/-- Take note of a failure and go on. -/
def attempt (program : Program κ ρ σ α) : Program κ ρ σ (Option α) where
  run := fun state script =>
    let outcome := program.run state script
    { calls := outcome.calls
      ending := outcome.ending.attempted
      state := outcome.state
      rest := outcome.rest }
  fits := fun state script =>
    ⟨(program.fits state script).reads, fun waiting =>
      (program.fits state script).waits
        (Ending.waiting_attempted.mp waiting)⟩
  extend := by
    intro state script answers settled
    have same : ¬ (program.run state script).ending.Waiting :=
      fun waiting => settled (Ending.waiting_attempted.mpr waiting)
    simp only [program.extend state script answers same]
    rfl

/-- When the program fails, clean up before passing the failure on. -/
def unwinding (program : Program κ ρ σ α) (cleanup : Program κ ρ σ β) :
    Program κ ρ σ α := do
  match ← attempt program with
  | some value => pure value
  | none =>
      let _ ← attempt cleanup
      fail

/-- Nothing is returned without a call. -/
def Asks (program : Program κ ρ σ α) : Prop :=
  ∀ state script value,
    (program.run state script).ending = .returned value →
      (program.run state script).calls ≠ []

theorem asks_call {query : κ} : (call query : Program κ ρ σ ρ).Asks := by
  intro state script value returned
  cases script with
  | nil => cases returned
  | cons answer rest => exact List.cons_ne_nil _ _

theorem asks_bind {first : Program κ ρ σ α} {next : α → Program κ ρ σ β}
    (asks : first.Asks) : (first >>= next).Asks := by
  intro state script value returned
  change ((first.run state script).andThen _).ending = _ at returned
  change ((first.run state script).andThen _).calls ≠ []
  unfold Outcome.andThen at returned ⊢
  cases ended : (first.run state script).ending with
  | returned middle =>
      have called := asks state script middle ended
      simp [called]
  | stopped stop =>
      simp only [ended] at returned
      cases returned

theorem asks_get {next : σ → Program κ ρ σ α}
    (asks : ∀ state, (next state).Asks) : (get >>= next).Asks :=
  fun state script value => asks state state script value

/-- The body of a loop goes on to the next round only after a call. -/
def Paced (body : Program κ ρ σ (β ⊕ α)) : Prop :=
  ∀ state script next,
    (body.run state script).ending = .returned (.inl next) →
      (body.run state script).calls ≠ []

theorem Asks.paced {body : Program κ ρ σ (β ⊕ α)} (asks : body.Asks) :
    body.Paced :=
  fun state script next => asks state script (.inl next)

theorem paced_pure {value : α} :
    (pure (.inr value) : Program κ ρ σ (β ⊕ α)).Paced := by
  intro state script next returned
  cases returned

theorem Paced.rest_lt {body : Program κ ρ σ (β ⊕ α)} (paced : body.Paced)
    {state : σ} {script : List ρ} {next : β}
    (returned : (body.run state script).ending = .returned (.inl next)) :
    (body.run state script).rest.length < script.length := by
  have reads := congrArg List.length (body.fits state script).reads
  have asked :=
    List.length_pos_iff.mpr (paced state script next returned)
  rw [List.length_append, List.length_map] at reads
  omega

/-- The runs of `loop`. -/
def loopRun (body : β → Program κ ρ σ (β ⊕ α))
    (paced : ∀ current, (body current).Paced)
    (start : β) (state : σ) (script : List ρ) : Outcome κ ρ σ α :=
  let first := (body start).run state script
  match _returned : first.ending with
  | .returned (.inl next) =>
      let second := loopRun body paced next first.state first.rest
      { second with calls := first.calls ++ second.calls }
  | .returned (.inr value) =>
      { first with ending := .returned value }
  | .stopped stop =>
      { first with ending := .stopped stop }
termination_by script.length
decreasing_by exact (paced start).rest_lt _returned

/-- What a round of a loop leads to. -/
def loopStep (body : β → Program κ ρ σ (β ⊕ α))
    (paced : ∀ current, (body current).Paced) :
    β ⊕ α → σ → List ρ → Outcome κ ρ σ α
  | .inl next => loopRun body paced next
  | .inr value => (pure value : Program κ ρ σ α).run

theorem loopRun_eq (body : β → Program κ ρ σ (β ⊕ α))
    (paced : ∀ current, (body current).Paced)
    (start : β) (state : σ) (script : List ρ) :
    loopRun body paced start state script =
      ((body start).run state script).andThen (loopStep body paced) := by
  rw [loopRun, Outcome.andThen]
  split
  case h_1 next returned =>
      rw [returned]
      rfl
  case h_2 value returned =>
      rw [returned]
      simp [loopStep, pure, finish]
  case h_3 stop stopped => rw [stopped]

theorem loopRun_fits (body : β → Program κ ρ σ (β ⊕ α))
    (paced : ∀ current, (body current).Paced)
    (start : β) (state : σ) (script : List ρ) :
    (loopRun body paced start state script).Fits script := by
  rw [loopRun_eq]
  refine ((body start).fits state script).andThen fun step returned => ?_
  cases step with
  | inl next => exact loopRun_fits body paced next _ _
  | inr value => exact (pure value : Program κ ρ σ α).fits _ _
termination_by script.length
decreasing_by exact (paced start).rest_lt returned

theorem loopRun_extend (body : β → Program κ ρ σ (β ⊕ α))
    (paced : ∀ current, (body current).Paced)
    (start : β) (state : σ) (script answers : List ρ)
    (settled : ¬ (loopRun body paced start state script).ending.Waiting) :
    loopRun body paced start state (script ++ answers) =
      (loopRun body paced start state script).later answers := by
  rw [loopRun_eq] at settled ⊢
  rw [loopRun_eq, (body start).extend state script answers
    (settled_of_andThen settled)]
  apply andThen_later settled
  intro step returned settled
  cases step with
  | inl next => exact loopRun_extend body paced next _ _ _ settled
  | inr value => exact (pure value : Program κ ρ σ α).extend _ _ _ settled
termination_by script.length
decreasing_by exact (paced start).rest_lt returned

/--
Repeat the body until it gives a value.  No round goes on without a call, so a
loop that never ends keeps waiting for answers.
-/
def loop (body : β → Program κ ρ σ (β ⊕ α))
    (paced : ∀ current, (body current).Paced) (start : β) :
    Program κ ρ σ α where
  run := loopRun body paced start
  fits := loopRun_fits body paced start
  extend := loopRun_extend body paced start

end Program

end OpenVizsla.Foundation.Calls
