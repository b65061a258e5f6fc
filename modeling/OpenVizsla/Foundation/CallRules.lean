import OpenVizsla.Foundation.Calls

/-!
# Rules for programs that call an environment

Statements about all runs of a program: what holds of the history of calls and
of the state when it ends, and which properties it upholds until it ends or
fails.  Both kinds have a rule for each way to build a program.
-/

namespace OpenVizsla.Foundation.Calls

universe u

variable {κ ρ σ α β γ : Type u}

/-- What is to hold at the end of a run, given the history of all calls. -/
abbrev Post (κ ρ σ α : Type u) : Type u :=
  Ending κ α → List (κ × ρ) → σ → Prop

/-- What is to hold at the end of the first part of a run. -/
def Post.before (post : Post κ ρ σ β)
    (next : α → List (κ × ρ) → σ → Prop) : Post κ ρ σ α
  | .returned value, history, state => next value history state
  | .stopped stop, history, state => post (.stopped stop) history state

/-- What is to hold at the end of the cleaning up: it fails anyway. -/
def Post.cleaned (post : Post κ ρ σ α) : Post κ ρ σ β
  | .stopped .aborted => post (.stopped .aborted)
  | .stopped (.waiting query) => post (.stopped (.waiting query))
  | _ => post (.stopped .failed)

/-- What a round of a loop has to reach. -/
def Post.ofRound (post : Post κ ρ σ α)
    (invariant : β → List (κ × ρ) → σ → Prop) : Post κ ρ σ (β ⊕ α)
  | .returned (.inl next) => invariant next
  | .returned (.inr value) => post (.returned value)
  | .stopped stop => post (.stopped stop)

/-- The ending of a run that fails unless cleaning up stops otherwise. -/
def Ending.cleaned : Ending κ β → Ending κ α
  | .returned _ => .stopped .failed
  | .stopped stop => .stopped stop

namespace Program

/-! ## Outcomes of composed programs -/

theorem run_pure (value : α) (state : σ) (script : List ρ) :
    (pure value : Program κ ρ σ α).run state script =
      { calls := [], ending := .returned value, state := state
        rest := script } :=
  rfl

theorem run_bind (first : Program κ ρ σ α) (next : α → Program κ ρ σ β)
    (state : σ) (script : List ρ) :
    (first >>= next).run state script =
      (first.run state script).andThen fun value => (next value).run :=
  rfl

theorem run_bind_of_returned {first : Program κ ρ σ α}
    (next : α → Program κ ρ σ β) {state : σ} {script : List ρ} {value : α}
    (returned : (first.run state script).ending = .returned value) :
    (first >>= next).run state script =
      let reached := first.run state script
      let second := (next value).run reached.state reached.rest
      { second with calls := reached.calls ++ second.calls } := by
  rw [run_bind, Outcome.andThen]
  simp only [returned]

/-- After a failure, a run ends where the cleaning up does. -/
theorem run_unwinding_of_failed {program : Program κ ρ σ α}
    (cleanup : Program κ ρ σ β) {state : σ} {script : List ρ}
    (failed : (program.run state script).ending = .stopped .failed) :
    (unwinding program cleanup).run state script =
      let reached := program.run state script
      let second := cleanup.run reached.state reached.rest
      { second with
        calls := reached.calls ++ second.calls
        ending := second.ending.cleaned } := by
  have attempted :
      (attempt program |>.run state script).ending = .returned none := by
    simp only [attempt, failed, Ending.attempted]
  rw [unwinding, run_bind_of_returned _ attempted]
  simp only [run_bind, Outcome.andThen, attempt]
  cases (cleanup.run _ _).ending with
  | returned value => simp [Ending.attempted, Ending.cleaned, fail, finish]
  | stopped stop =>
      cases stop <;>
        simp [Ending.attempted, Ending.cleaned, fail, finish]

theorem andThen_pure (outcome : Outcome κ ρ σ α) :
    (outcome.andThen fun value => (pure value : Program κ ρ σ α).run) =
      outcome := by
  rcases outcome with ⟨calls, ending, state, rest⟩
  cases ending with
  | returned value => simp [Outcome.andThen, run_pure]
  | stopped stop => rfl

theorem andThen_assoc (first : Outcome κ ρ σ α)
    (second : α → σ → List ρ → Outcome κ ρ σ β)
    (third : β → σ → List ρ → Outcome κ ρ σ γ) :
    (first.andThen second).andThen third =
      first.andThen fun value state script =>
        (second value state script).andThen third := by
  rcases first with ⟨calls, ending, state, rest⟩
  cases ending with
  | returned value =>
      simp only [Outcome.andThen]
      cases (second value state rest).ending with
      | returned value => simp only [List.append_assoc]
      | stopped stop => rfl
  | stopped stop => rfl

instance : LawfulMonad (Program κ ρ σ) := by
  refine LawfulMonad.mk' _ ?_ ?_ ?_
  · intro α program
    apply Program.ext
    funext state script
    exact andThen_pure (program.run state script)
  · intro α β value next
    apply Program.ext
    funext state script
    rfl
  · intro α β γ first second third
    apply Program.ext
    funext state script
    exact andThen_assoc (first.run state script) _ _

theorem loop_eq (body : β → Program κ ρ σ (β ⊕ α))
    (paced : ∀ current, (body current).Paced) (start : β) :
    loop body paced start =
      body start >>= fun step =>
        step.elim (fun next => loop body paced next) fun value =>
          pure value := by
  apply Program.ext
  funext state script
  rw [run_bind]
  change loopRun body paced start state script = _
  rw [loopRun_eq]
  congr 1
  funext step
  cases step <;> rfl

/-! ## The rest of a run -/

/-- When the first program is done, the run goes on as the next one's. -/
def GoesOn (first : Program κ ρ σ β) (program next : Program κ ρ σ α)
    (state : σ) (script : List ρ) : Prop :=
  let reached := first.run state script
  let rest := next.run reached.state reached.rest
  program.run state script =
    { rest with calls := reached.calls ++ rest.calls }

section GoesOn

variable {first : Program κ ρ σ β} {program next : Program κ ρ σ α}
    {state : σ} {script : List ρ}

theorem goesOn_of_returned {value : β}
    (returned : (first.run state script).ending = .returned value)
    (following : β → Program κ ρ σ α) :
    GoesOn first (first >>= following) (following value) state script :=
  run_bind_of_returned following returned

theorem GoesOn.bind (goesOn : GoesOn first program next state script)
    (following : α → Program κ ρ σ γ) :
    GoesOn first (program >>= following) (next >>= following) state
      script := by
  simp only [GoesOn] at goesOn ⊢
  rw [run_bind, run_bind, goesOn, Outcome.andThen, Outcome.andThen]
  cases (next.run _ _).ending with
  | returned value => simp only [List.append_assoc]
  | stopped stop => rfl

theorem GoesOn.attempt (goesOn : GoesOn first program next state script) :
    GoesOn first program.attempt next.attempt state script := by
  simp only [GoesOn, Program.attempt] at goesOn ⊢
  rw [goesOn]

theorem GoesOn.unwinding (goesOn : GoesOn first program next state script)
    (cleanup : Program κ ρ σ γ) :
    GoesOn first (Program.unwinding program cleanup)
      (Program.unwinding next cleanup) state script :=
  goesOn.attempt.bind _

/-- The first program may be made of two. -/
theorem GoesOn.after {second : β → Program κ ρ σ γ}
    {following : β → Program κ ρ σ α} {value : β}
    (returned : (first.run state script).ending = .returned value)
    (goesOn :
      GoesOn (second value) (following value) next
        (first.run state script).state (first.run state script).rest) :
    GoesOn (first >>= second) (first >>= following) next state script := by
  simp only [GoesOn] at goesOn ⊢
  rw [run_bind_of_returned following returned,
    run_bind_of_returned second returned]
  simp only [goesOn, List.append_assoc]

theorem returned_of_bind {second : β → Program κ ρ σ α} {value : α}
    (returned : ((first >>= second).run state script).ending =
      .returned value) :
    ∃ middle, (first.run state script).ending = .returned middle ∧
      ((second middle).run (first.run state script).state
        (first.run state script).rest).ending = .returned value := by
  rw [run_bind, Outcome.andThen] at returned
  split at returned
  case h_1 middle ended => exact ⟨middle, ended, returned⟩
  case h_2 stop ended => cases returned

end GoesOn

/-! ## What holds at the end -/

/-- The postcondition holds at the end of every run. -/
def Meets (program : Program κ ρ σ α) (post : Post κ ρ σ α)
    (history : List (κ × ρ)) (state : σ) : Prop :=
  ∀ script,
    post (program.run state script).ending
      (history ++ (program.run state script).calls)
      (program.run state script).state

section Meets

variable {post : Post κ ρ σ α} {history : List (κ × ρ)} {state : σ}

theorem Meets.mono {program : Program κ ρ σ α} {stronger : Post κ ρ σ α}
    (meets : program.Meets stronger history state)
    (weaken :
      ∀ ending history state,
        stronger ending history state → post ending history state) :
    program.Meets post history state :=
  fun script => weaken _ _ _ (meets script)

theorem meets_pure {value : α}
    (holds : post (.returned value) history state) :
    (pure value : Program κ ρ σ α).Meets post history state := by
  intro script
  rw [run_pure, List.append_nil]
  exact holds

theorem meets_fail (holds : post (.stopped .failed) history state) :
    (fail : Program κ ρ σ α).Meets post history state := by
  intro script
  simpa [fail, finish] using holds

theorem meets_abort (holds : post (.stopped .aborted) history state) :
    (abort : Program κ ρ σ α).Meets post history state := by
  intro script
  simpa [abort, finish] using holds

theorem meets_bind {post : Post κ ρ σ β} {first : Program κ ρ σ α}
    {next : α → Program κ ρ σ β}
    (meets :
      first.Meets
        (post.before fun value history state =>
          (next value).Meets post history state)
        history state) :
    (first >>= next).Meets post history state := by
  intro script
  have reached := meets script
  rw [run_bind, Outcome.andThen]
  split
  case h_1 value returned =>
      rw [returned] at reached
      simpa [List.append_assoc] using
        reached (first.run state script).rest
  case h_2 stop stopped =>
      rw [stopped] at reached
      exact reached

theorem meets_call {query : κ} {post : Post κ ρ σ ρ}
    (waits : post (.stopped (.waiting query)) history state)
    (answered :
      ∀ answer,
        post (.returned answer) (history ++ [(query, answer)]) state) :
    (call query : Program κ ρ σ ρ).Meets post history state := by
  intro script
  cases script with
  | nil => simpa [call] using waits
  | cons answer rest => exact answered answer

theorem meets_get {post : Post κ ρ σ σ}
    (holds : post (.returned state) history state) :
    (get : Program κ ρ σ σ).Meets post history state := by
  intro script
  simpa [get] using holds

theorem meets_modify {change : σ → σ} {post : Post κ ρ σ PUnit}
    (holds : post (.returned ⟨⟩) history (change state)) :
    (modify change : Program κ ρ σ PUnit).Meets post history state := by
  intro script
  simpa [modify] using holds

theorem meets_bind_call {query : κ} {post : Post κ ρ σ β}
    {next : ρ → Program κ ρ σ β}
    (waits : post (.stopped (.waiting query)) history state)
    (answered :
      ∀ answer,
        (next answer).Meets post (history ++ [(query, answer)]) state) :
    (call query >>= next).Meets post history state :=
  meets_bind (meets_call waits answered)

theorem meets_bind_get {post : Post κ ρ σ β} {next : σ → Program κ ρ σ β}
    (meets : (next state).Meets post history state) :
    (get >>= next).Meets post history state :=
  meets_bind (meets_get meets)

theorem meets_bind_modify {change : σ → σ} {post : Post κ ρ σ β}
    {next : PUnit → Program κ ρ σ β}
    (meets : (next ⟨⟩).Meets post history (change state)) :
    (modify change >>= next).Meets post history state :=
  meets_bind (meets_modify meets)

theorem meets_attempt {program : Program κ ρ σ α}
    {post : Post κ ρ σ (Option α)}
    (meets :
      program.Meets
        (fun ending history state => post ending.attempted history state)
        history state) :
    program.attempt.Meets post history state :=
  meets

/-- What is to hold at the end of a program that is cleaned up after. -/
def unwound (post : Post κ ρ σ α) (cleanup : Program κ ρ σ β) :
    Post κ ρ σ α
  | .stopped .failed => cleanup.Meets (Post.cleaned post)
  | .stopped .aborted => post (.stopped .aborted)
  | .stopped (.waiting query) => post (.stopped (.waiting query))
  | .returned value => post (.returned value)

theorem meets_unwinding {program : Program κ ρ σ α}
    {cleanup : Program κ ρ σ β}
    (meets : program.Meets (unwound post cleanup) history state) :
    (unwinding program cleanup).Meets post history state := by
  apply meets_bind
  apply meets_attempt
  refine meets.mono fun ending history state holds => ?_
  cases ending with
  | returned value => exact meets_pure holds
  | stopped stop =>
      cases stop with
      | aborted => exact holds
      | waiting query => exact holds
      | failed =>
          apply meets_bind
          apply meets_attempt
          refine Meets.mono holds fun ending history state cleaned => ?_
          cases ending with
          | returned value => exact meets_fail cleaned
          | stopped stop =>
              cases stop with
              | failed => exact meets_fail cleaned
              | aborted => exact cleaned
              | waiting query => exact cleaned

/-- The rule for loops: an invariant that every round keeps. -/
theorem meets_loop {body : β → Program κ ρ σ (β ⊕ α)}
    {paced : ∀ current, (body current).Paced}
    (invariant : β → List (κ × ρ) → σ → Prop)
    (round :
      ∀ current history state, invariant current history state →
        (body current).Meets (Post.ofRound post invariant) history state)
    {start : β} (initial : invariant start history state) :
    (loop body paced start).Meets post history state := by
  intro script
  induction length : script.length using Nat.strong_induction_on
    generalizing start history state script with
  | _ length shorter =>
      subst length
      have reached := round start history state initial script
      rw [loop_eq, run_bind, Outcome.andThen]
      split
      case h_1 step returned =>
          rw [returned] at reached
          cases step with
          | inl next =>
              have later :=
                shorter _ ((paced start).rest_lt returned) reached _ rfl
              rw [List.append_assoc] at later
              exact later
          | inr value =>
              simp only [Sum.elim_inr, run_pure, List.append_nil]
              exact reached
      case h_2 stop stopped =>
          rw [stopped] at reached
          exact reached

end Meets

/-! ## What a program upholds -/

/-- `Going` unless the run has failed, and then `Failed`. -/
def upheld (Going Failed : List (κ × ρ) → σ → Prop) : Post κ ρ σ α
  | .stopped .failed => Failed
  | _ => Going

/-- From a state with the first property, no run ends without its property. -/
def Upholds (Going Failed : List (κ × ρ) → σ → Prop)
    (program : Program κ ρ σ α) : Prop :=
  ∀ history state, Going history state →
    program.Meets (upheld Going Failed) history state

section Upholds

variable {Going Failed : List (κ × ρ) → σ → Prop}

theorem upheld_before {stop : Stop κ} {history : List (κ × ρ)} {state : σ}
    (holds : upheld Going Failed (.stopped stop : Ending κ α) history state) :
    upheld Going Failed (.stopped stop : Ending κ β) history state := by
  cases stop <;> exact holds

theorem upholds_pure {value : α} :
    (pure value : Program κ ρ σ α).Upholds Going Failed :=
  fun _ _ going => meets_pure going

theorem upholds_bind {first : Program κ ρ σ α}
    {next : α → Program κ ρ σ β}
    (upholdsFirst : first.Upholds Going Failed)
    (upholdsNext : ∀ value, (next value).Upholds Going Failed) :
    (first >>= next).Upholds Going Failed := by
  intro history state going
  apply meets_bind
  refine (upholdsFirst history state going).mono
    fun ending history state holds => ?_
  cases ending with
  | returned value => exact upholdsNext value history state holds
  | stopped stop => exact upheld_before holds

theorem upholds_call {query : κ}
    (kept :
      ∀ history state answer, Going history state →
        Going (history ++ [(query, answer)]) state) :
    (call query : Program κ ρ σ ρ).Upholds Going Failed :=
  fun history state going =>
    meets_call going fun answer => kept history state answer going

theorem upholds_get {next : σ → Program κ ρ σ α}
    (upholdsNext : ∀ state, (next state).Upholds Going Failed) :
    (get >>= next).Upholds Going Failed :=
  fun _ state going =>
    meets_bind (meets_get (upholdsNext state _ _ going))

theorem upholds_modify {change : σ → σ}
    (keeps :
      ∀ history state, Going history state → Going history (change state)) :
    (modify change : Program κ ρ σ PUnit).Upholds Going Failed :=
  fun history state going => meets_modify (keeps history state going)

theorem upholds_fail
    (fails : ∀ history state, Going history state → Failed history state) :
    (fail : Program κ ρ σ α).Upholds Going Failed :=
  fun history state going => meets_fail (fails history state going)

/-- The last thing before a failure is a change of the state. -/
theorem upholds_modify_fail {change : σ → σ}
    (fails :
      ∀ history state, Going history state →
        Failed history (change state)) :
    (modify change >>= fun _ => fail : Program κ ρ σ α).Upholds
      Going Failed :=
  fun history state going =>
    meets_bind (meets_modify (meets_fail (fails history state going)))

theorem upholds_abort :
    (abort : Program κ ρ σ α).Upholds Going Failed :=
  fun _ _ going => meets_abort going

theorem upholds_ite {condition : Prop} [Decidable condition]
    {yes no : Program κ ρ σ α}
    (upholdsYes : yes.Upholds Going Failed)
    (upholdsNo : no.Upholds Going Failed) :
    (if condition then yes else no).Upholds Going Failed := by
  split
  · exact upholdsYes
  · exact upholdsNo

theorem upholds_attempt {program : Program κ ρ σ α}
    (upholds : program.Upholds Going Going) :
    program.attempt.Upholds Going Failed := by
  intro history state going
  apply meets_attempt
  refine (upholds history state going).mono
    fun ending history state holds => ?_
  cases ending with
  | returned value => exact holds
  | stopped stop => cases stop <;> exact holds

/-- What follows an attempt starts from its failure, if it has failed. -/
theorem upholds_attempt_bind {Unclean : List (κ × ρ) → σ → Prop}
    {program : Program κ ρ σ α} {next : Option α → Program κ ρ σ β}
    (upholds : program.Upholds Going Unclean)
    (succeeded : ∀ value, (next (some value)).Upholds Going Failed)
    (failed :
      ∀ history state, Unclean history state →
        (next none).Meets (upheld Going Failed) history state) :
    (program.attempt >>= next).Upholds Going Failed := by
  intro history state going
  apply meets_bind
  apply meets_attempt
  refine (upholds history state going).mono
    fun ending history state holds => ?_
  cases ending with
  | returned value => exact succeeded value history state holds
  | stopped stop =>
      cases stop with
      | failed => exact failed history state holds
      | aborted => exact holds
      | waiting query => exact holds

/-- A failure goes through the cleaning up. -/
theorem upholds_unwinding {Unclean : List (κ × ρ) → σ → Prop}
    {program : Program κ ρ σ α} {cleanup : Program κ ρ σ β}
    (upholds : program.Upholds Going Unclean)
    (cleans :
      ∀ history state, Unclean history state →
        cleanup.Meets (Post.cleaned (upheld (α := α) Going Failed))
          history state) :
    (unwinding program cleanup).Upholds Going Failed := by
  intro history state going
  apply meets_unwinding
  refine (upholds history state going).mono
    fun ending history state holds => ?_
  cases ending with
  | returned value => exact holds
  | stopped stop =>
      cases stop with
      | failed => exact cleans history state holds
      | aborted => exact holds
      | waiting query => exact holds

/-- Cleaning up keeps what failing has brought about. -/
theorem cleans_of_upholds {cleanup : Program κ ρ σ β}
    (upholds : cleanup.Upholds Failed Failed)
    (weaken : ∀ history state, Failed history state → Going history state)
    (history : List (κ × ρ)) (state : σ)
    (failed : Failed history state) :
    cleanup.Meets (Post.cleaned (upheld (α := α) Going Failed))
      history state := by
  refine (upholds history state failed).mono
    fun ending history state holds => ?_
  cases ending with
  | returned value => exact holds
  | stopped stop =>
      cases stop with
      | failed => exact holds
      | aborted => exact weaken history state holds
      | waiting query => exact weaken history state holds

theorem upholds_loop {body : β → Program κ ρ σ (β ⊕ α)}
    {paced : ∀ current, (body current).Paced} {start : β}
    (upholds : ∀ current, (body current).Upholds Going Failed) :
    (loop body paced start).Upholds Going Failed := by
  intro history state going
  refine meets_loop (fun _ => Going) (fun current history state going => ?_)
    going
  refine (upholds current history state going).mono
    fun ending history state holds => ?_
  cases ending with
  | returned step => cases step <;> exact holds
  | stopped stop => exact upheld_before holds

end Upholds

end Program

end OpenVizsla.Foundation.Calls
