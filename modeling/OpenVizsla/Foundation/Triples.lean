import OpenVizsla.Foundation.CallRules

/-!
# Triples for programs that call an environment

A precondition, a program, a postcondition for the runs that return, and one
for the runs that stop otherwise.  Pre- and postconditions speak of the
history of calls and of the state, so that a property of all calls of a
program is proved with the same rules as what the program returns.
-/

namespace OpenVizsla.Foundation.Calls

universe u

variable {κ ρ σ α β : Type u}

/-- A property of the calls so far and of the state. -/
abbrev Assertion (κ ρ σ : Type u) : Type u :=
  List (κ × ρ) → σ → Prop

/-- What is to hold when a run returns, and when it stops otherwise. -/
def Post.either (post : α → Assertion κ ρ σ)
    (stop : Stop κ → Assertion κ ρ σ) : Post κ ρ σ α
  | .returned value => post value
  | .stopped reason => stop reason

/-- What is to hold when a failure is only taken note of. -/
def attempted (post : α → Assertion κ ρ σ) (failure : Assertion κ ρ σ) :
    Option α → Assertion κ ρ σ
  | some value => post value
  | none => failure

/-- One assertion gives another one wherever a run stops but at a failure. -/
def Passes (stop stop' : Stop κ → Assertion κ ρ σ) : Prop :=
  ∀ reason, reason ≠ .failed →
    ∀ history state, stop reason history state → stop' reason history state

theorem Passes.rfl {stop : Stop κ → Assertion κ ρ σ} : Passes stop stop :=
  fun _ _ _ _ => id

namespace Program

/-- From a state with `pre`, no run ends without `post` or `stop`. -/
def Triple (pre : Assertion κ ρ σ) (program : Program κ ρ σ α)
    (post : α → Assertion κ ρ σ) (stop : Stop κ → Assertion κ ρ σ) : Prop :=
  ∀ history state, pre history state →
    program.Meets (Post.either post stop) history state

section Triple

variable {pre pre' : Assertion κ ρ σ} {stop stop' : Stop κ → Assertion κ ρ σ}
  {post post' : α → Assertion κ ρ σ} {program : Program κ ρ σ α}

/-- What a triple says about one run from the start. -/
theorem Triple.run (triple : Triple pre program post stop) {state : σ}
    (initial : pre [] state) (script : List ρ) :
    Post.either post stop (program.run state script).ending
      (program.run state script).calls (program.run state script).state :=
  triple [] state initial script

theorem Triple.weaken (triple : Triple pre program post stop)
    (before : ∀ history state, pre' history state → pre history state)
    (after :
      ∀ value history state,
        post value history state → post' value history state)
    (stops :
      ∀ reason history state,
        stop reason history state → stop' reason history state) :
    Triple pre' program post' stop' := by
  intro history state holds
  refine (triple history state (before history state holds)).mono
    fun ending history state reached => ?_
  cases ending with
  | returned value => exact after value history state reached
  | stopped reason => exact stops reason history state reached

theorem Triple.strengthen (triple : Triple pre program post stop)
    (before : ∀ history state, pre' history state → pre history state) :
    Triple pre' program post stop :=
  triple.weaken before (fun _ _ _ => id) fun _ _ _ => id

/-- Two triples of one program. -/
theorem Triple.and (triple : Triple pre program post stop)
    (other : Triple pre' program post' stop') :
    Triple (fun history state => pre history state ∧ pre' history state)
      program
      (fun value history state =>
        post value history state ∧ post' value history state)
      (fun reason history state =>
        stop reason history state ∧ stop' reason history state) := by
  rintro history state ⟨first, second⟩ script
  have reached := triple history state first script
  have reached' := other history state second script
  cases ended : (program.run state script).ending with
  | returned value =>
      rw [ended] at reached reached'
      exact ⟨reached, reached'⟩
  | stopped reason =>
      rw [ended] at reached reached'
      exact ⟨reached, reached'⟩

/-- What the precondition says about no state can be taken out of it. -/
theorem triple_of_fact {fact : Prop}
    (holds : ∀ history state, pre history state → fact)
    (triple : fact → Triple pre program post stop) :
    Triple pre program post stop :=
  fun history state going =>
    triple (holds history state going) history state going

theorem triple_exists {ι : Type*} {pre : ι → Assertion κ ρ σ}
    (triples : ∀ index, Triple (pre index) program post stop) :
    Triple (fun history state => ∃ index, pre index history state) program
      post stop := by
  rintro history state ⟨index, holds⟩
  exact triples index history state holds

/-- A program that upholds a property. -/
theorem triple_of_upholds {Failed : Assertion κ ρ σ}
    (upholds : program.Upholds pre Failed)
    (stops : Passes (fun _ => pre) stop)
    (fails :
      ∀ history state, Failed history state → stop .failed history state) :
    Triple pre program (fun _ => pre) stop := by
  intro history state holds
  refine (upholds history state holds).mono
    fun ending history state reached => ?_
  cases ending with
  | returned value => exact reached
  | stopped reason =>
      cases reason with
      | failed => exact fails history state reached
      | aborted => exact stops _ (by simp) history state reached
      | waiting query => exact stops _ (by simp) history state reached

/-! ### One rule for each way to build a program -/

theorem triple_pure {value : α}
    (holds :
      ∀ history state, pre history state → post value history state) :
    Triple pre (pure value) post stop :=
  fun history state going => meets_pure (holds history state going)

theorem triple_fail
    (stops :
      ∀ history state, pre history state → stop .failed history state) :
    Triple pre (fail : Program κ ρ σ α) post stop :=
  fun history state going => meets_fail (stops history state going)

theorem triple_abort
    (stops :
      ∀ history state, pre history state → stop .aborted history state) :
    Triple pre (abort : Program κ ρ σ α) post stop :=
  fun history state going => meets_abort (stops history state going)

theorem triple_bind {middle : β → Assertion κ ρ σ}
    {first : Program κ ρ σ β} {next : β → Program κ ρ σ α}
    (triple : Triple pre first middle stop)
    (following : ∀ value, Triple (middle value) (next value) post stop) :
    Triple pre (first >>= next) post stop := by
  intro history state going
  apply meets_bind
  refine (triple history state going).mono
    fun ending history state reached => ?_
  cases ending with
  | returned value => exact following value history state reached
  | stopped reason => exact reached

theorem triple_call {query : κ} {post : ρ → Assertion κ ρ σ}
    (stops :
      ∀ history state, pre history state →
        stop (.waiting query) history state)
    (answered :
      ∀ history state answer, pre history state →
        post answer (history ++ [(query, answer)]) state) :
    Triple pre (call query) post stop :=
  fun history state going =>
    meets_call (stops history state going) fun answer =>
      answered history state answer going

theorem triple_get {post : σ → Assertion κ ρ σ}
    (holds :
      ∀ history state, pre history state → post state history state) :
    Triple pre get post stop :=
  fun history state going => meets_get (holds history state going)

/-- The state that is read is the one that the precondition speaks of. -/
theorem triple_get_bind {next : σ → Program κ ρ σ α}
    (following :
      ∀ read, Triple (fun history state => state = read ∧ pre history state)
        (next read) post stop) :
    Triple pre (get >>= next) post stop :=
  triple_bind (triple_get fun _ _ going => ⟨rfl, going⟩) following

theorem triple_modify {change : σ → σ} {post : PUnit → Assertion κ ρ σ}
    (holds :
      ∀ history state, pre history state →
        post ⟨⟩ history (change state)) :
    Triple pre (modify change) post stop :=
  fun history state going => meets_modify (holds history state going)

/-- A change of the state before a failure. -/
theorem triple_modify_fail {change : σ → σ}
    (holds :
      ∀ history state, pre history state →
        stop .failed history (change state)) :
    Triple pre (modify change >>= fun _ => (fail : Program κ ρ σ α)) post
      stop := by
  have changed : Triple pre (modify change) (fun _ => stop .failed) stop :=
    triple_modify holds
  exact triple_bind changed fun _ => triple_fail fun _ _ => id

theorem triple_ite {condition : Prop} [Decidable condition]
    {no : Program κ ρ σ α}
    (whenTrue : condition → Triple pre program post stop)
    (whenFalse : ¬ condition → Triple pre no post stop) :
    Triple pre (if condition then program else no) post stop := by
  split
  case isTrue holds => exact whenTrue holds
  case isFalse fails => exact whenFalse fails

/-- A failure that is only taken note of. -/
theorem triple_attempt (triple : Triple pre program post stop')
    (passes : Passes stop' stop) :
    Triple pre program.attempt (attempted post (stop' .failed)) stop := by
  intro history state going
  apply meets_attempt
  refine (triple history state going).mono
    fun ending history state reached => ?_
  cases ending with
  | returned value => exact reached
  | stopped reason =>
      cases reason with
      | failed => exact reached
      | aborted => exact passes _ (by simp) history state reached
      | waiting query => exact passes _ (by simp) history state reached

/-- What follows an attempt, for each of its results. -/
theorem triple_attempt_bind {middle : β → Assertion κ ρ σ}
    {first : Program κ ρ σ β} {next : Option β → Program κ ρ σ α}
    (triple : Triple pre first middle stop') (passes : Passes stop' stop)
    (succeeded :
      ∀ value, Triple (middle value) (next (some value)) post stop)
    (failed : Triple (stop' .failed) (next none) post stop) :
    Triple pre (first.attempt >>= next) post stop := by
  refine triple_bind (triple_attempt triple passes) fun result => ?_
  cases result with
  | some value => exact succeeded value
  | none => exact failed

/-- Cleaning up makes of one failure the other one. -/
theorem triple_unwinding {cleanup : Program κ ρ σ β}
    (triple : Triple pre program post stop') (passes : Passes stop' stop)
    (cleans :
      Triple (stop' .failed) cleanup (fun _ => stop .failed) stop) :
    Triple pre (unwinding program cleanup) post stop := by
  refine triple_attempt_bind triple passes
    (fun _ => triple_pure fun _ _ => id) ?_
  refine triple_attempt_bind cleans Passes.rfl ?_ ?_
  · exact fun _ => triple_fail fun _ _ => id
  · exact triple_fail fun _ _ => id

/-- An invariant that every round keeps. -/
theorem triple_loop {body : β → Program κ ρ σ (β ⊕ α)}
    {paced : ∀ current, (body current).Paced}
    (invariant : β → Assertion κ ρ σ)
    (round :
      ∀ current, Triple (invariant current) (body current)
        (Sum.elim invariant post) stop)
    (start : β) :
    Triple (invariant start) (loop body paced start) post stop := by
  intro history state going
  refine meets_loop invariant (fun current history state holds => ?_) going
  refine (round current history state holds).mono
    fun ending history state reached => ?_
  cases ending with
  | returned step => cases step <;> exact reached
  | stopped reason => exact reached

end Triple

/-! ## Gates -/

/-- A guarded call is made only behind calls that make `ready` true. -/
def Gated (guarded : κ → Prop) (ready : List (κ × ρ) → Prop)
    (history : List (κ × ρ)) : Prop :=
  ∀ before entry after,
    history = before ++ entry :: after → guarded entry.1 → ready before

section Gated

variable {guarded : κ → Prop} {ready : List (κ × ρ) → Prop}
  {history : List (κ × ρ)}

/-- One more call, which is not guarded or for which the gate is open. -/
theorem Gated.concat (gated : Gated guarded ready history)
    {entry : κ × ρ} (passes : guarded entry.1 → ready history) :
    Gated guarded ready (history ++ [entry]) := by
  intro before other after split isGuarded
  rcases List.append_eq_append_iff.mp split with
    ⟨middle, rfl, last⟩ | ⟨middle, rfl, last⟩
  · rcases middle with _ | ⟨first, middle⟩
    · obtain ⟨rfl, -⟩ := List.cons.inj last
      rw [List.append_nil]
      exact passes isGuarded
    · simp at last
  · rcases middle with _ | ⟨first, middle⟩
    · obtain ⟨rfl, -⟩ := List.cons.inj last
      rw [List.append_nil] at passes
      exact passes isGuarded
    · obtain ⟨rfl, rfl⟩ := List.cons.inj last
      exact gated before other middle rfl isGuarded

end Gated

end Program

end OpenVizsla.Foundation.Calls
