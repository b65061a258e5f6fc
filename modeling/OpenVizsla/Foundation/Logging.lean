import OpenVizsla.Foundation.CallRules

/-!
# Programs that keep a log

A program can be written down a second time, with notes of what it does
between its calls.  The notes go into a log that the program itself cannot
read, together with the calls and their answers.  Erasing the log gives the
program back.
-/

namespace OpenVizsla.Foundation.Calls

universe u

variable {κ ρ σ α β ε : Type u}

/-- The calls with their answers, and the notes, in order. -/
abbrev Log (κ ρ ε : Type u) : Type u :=
  List ((κ × ρ) ⊕ ε)

/-- The calls in a log. -/
def Log.calls (log : Log κ ρ ε) : List (κ × ρ) :=
  log.filterMap Sum.getLeft?

@[simp]
theorem Log.calls_append (first second : Log κ ρ ε) :
    Log.calls (first ++ second) = Log.calls first ++ Log.calls second :=
  List.filterMap_append

@[simp]
theorem Log.calls_map_inl (calls : List (κ × ρ)) :
    Log.calls (calls.map Sum.inl : Log κ ρ ε) = calls := by
  simp [Log.calls, List.filterMap_map, Function.comp_def]

@[simp]
theorem Log.calls_map_inr (notes : List ε) :
    Log.calls (notes.map Sum.inr : Log κ ρ ε) = [] := by
  simp [Log.calls]

/-- The notes in a log. -/
def Log.notes (log : Log κ ρ ε) : List ε :=
  log.filterMap Sum.getRight?

@[simp]
theorem Log.notes_nil : Log.notes ([] : Log κ ρ ε) = [] :=
  rfl

@[simp]
theorem Log.notes_cons_inl (entry : κ × ρ) (log : Log κ ρ ε) :
    Log.notes (.inl entry :: log) = log.notes :=
  rfl

@[simp]
theorem Log.notes_cons_inr (note : ε) (log : Log κ ρ ε) :
    Log.notes (.inr note :: log) = note :: log.notes :=
  rfl

@[simp]
theorem Log.notes_append (first second : Log κ ρ ε) :
    Log.notes (first ++ second) = Log.notes first ++ Log.notes second :=
  List.filterMap_append

@[simp]
theorem Log.notes_map_inl (calls : List (κ × ρ)) :
    Log.notes (calls.map Sum.inl : Log κ ρ ε) = [] := by
  simp [Log.notes]

@[simp]
theorem Log.notes_map_inr (notes : List ε) :
    Log.notes (notes.map Sum.inr : Log κ ρ ε) = notes := by
  simp [Log.notes, List.filterMap_map, Function.comp_def]

namespace Program

/-- Run the program and log its calls. -/
def observe (program : Program κ ρ σ α) :
    Program κ ρ (σ × Log κ ρ ε) α where
  run := fun state script =>
    let outcome := program.run state.1 script
    { calls := outcome.calls
      ending := outcome.ending
      state := (outcome.state, state.2 ++ outcome.calls.map Sum.inl)
      rest := outcome.rest }
  fits := fun state script =>
    ⟨(program.fits state.1 script).reads,
      (program.fits state.1 script).waits⟩
  extend := by
    intro state script answers settled
    simp only [program.extend state.1 script answers settled]
    rfl

/-- Write notes into the log. -/
def note (notes : List ε) : Program κ ρ (σ × Log κ ρ ε) PUnit :=
  modify fun state => (state.1, state.2 ++ notes.map Sum.inr)

/--
Without its log, the first program is the second one; and the log holds the
calls that are made.
-/
structure Erases (logged : Program κ ρ (σ × Log κ ρ ε) α)
    (program : Program κ ρ σ α) : Prop where
  calls : ∀ state log script,
    (logged.run (state, log) script).calls =
      (program.run state script).calls
  ending : ∀ state log script,
    (logged.run (state, log) script).ending =
      (program.run state script).ending
  state : ∀ state log script,
    (logged.run (state, log) script).state.1 =
      (program.run state script).state
  rest : ∀ state log script,
    (logged.run (state, log) script).rest = (program.run state script).rest
  log : ∀ state log script,
    (logged.run (state, log) script).state.2.calls =
      log.calls ++ (program.run state script).calls

theorem erases_observe (program : Program κ ρ σ α) :
    Erases (observe program : Program κ ρ (σ × Log κ ρ ε) α) program where
  calls _ _ _ := rfl
  ending _ _ _ := rfl
  state _ _ _ := rfl
  rest _ _ _ := rfl
  log state log script := by
    show Log.calls (log ++ (program.run state script).calls.map Sum.inl) = _
    rw [Log.calls_append, Log.calls_map_inl]

theorem erases_pure (value : α) :
    Erases (pure value : Program κ ρ (σ × Log κ ρ ε) α)
      (pure value : Program κ ρ σ α) where
  calls _ _ _ := rfl
  ending _ _ _ := rfl
  state _ _ _ := rfl
  rest _ _ _ := rfl
  log _ _ _ := (List.append_nil _).symm

theorem erases_bind {logged : Program κ ρ (σ × Log κ ρ ε) α}
    {program : Program κ ρ σ α}
    {loggedNext : α → Program κ ρ (σ × Log κ ρ ε) β}
    {next : α → Program κ ρ σ β} (first : Erases logged program)
    (following : ∀ value, Erases (loggedNext value) (next value)) :
    Erases (logged >>= loggedNext) (program >>= next) := by
  have both (state : σ) (log : Log κ ρ ε) (script : List ρ) :
      ((logged >>= loggedNext).run (state, log) script).calls =
          ((program >>= next).run state script).calls ∧
        ((logged >>= loggedNext).run (state, log) script).ending =
          ((program >>= next).run state script).ending ∧
        ((logged >>= loggedNext).run (state, log) script).state.1 =
          ((program >>= next).run state script).state ∧
        ((logged >>= loggedNext).run (state, log) script).rest =
          ((program >>= next).run state script).rest ∧
        ((logged >>= loggedNext).run (state, log) script).state.2.calls =
          log.calls ++ ((program >>= next).run state script).calls := by
    have calls := first.calls state log script
    have ending := first.ending state log script
    have reached := first.state state log script
    have rest := first.rest state log script
    have logs := first.log state log script
    simp only [run_bind, Outcome.andThen, ending]
    cases ended : (program.run state script).ending with
    | stopped stop => exact ⟨calls, rfl, reached, rest, logs⟩
    | returned value =>
        have pair : (logged.run (state, log) script).state =
            ((program.run state script).state,
              (logged.run (state, log) script).state.2) := by
          rw [← reached]
        simp only
        rw [pair, rest]
        refine ⟨?_, (following value).ending _ _ _,
          (following value).state _ _ _, (following value).rest _ _ _, ?_⟩
        · rw [calls, (following value).calls]
        · rw [(following value).log, logs, List.append_assoc]
  constructor
  · exact fun state log script => (both state log script).1
  · exact fun state log script => (both state log script).2.1
  · exact fun state log script => (both state log script).2.2.1
  · exact fun state log script => (both state log script).2.2.2.1
  · exact fun state log script => (both state log script).2.2.2.2

theorem erases_fail :
    Erases (fail : Program κ ρ (σ × Log κ ρ ε) α)
      (fail : Program κ ρ σ α) where
  calls _ _ _ := rfl
  ending _ _ _ := rfl
  state _ _ _ := rfl
  rest _ _ _ := rfl
  log _ _ _ := (List.append_nil _).symm

theorem erases_attempt {logged : Program κ ρ (σ × Log κ ρ ε) α}
    {program : Program κ ρ σ α} (erases : Erases logged program) :
    Erases logged.attempt program.attempt where
  calls := erases.calls
  ending state log script :=
    congrArg Ending.attempted (erases.ending state log script)
  state := erases.state
  rest := erases.rest
  log := erases.log

theorem erases_unwinding {logged : Program κ ρ (σ × Log κ ρ ε) α}
    {program : Program κ ρ σ α}
    {loggedCleanup : Program κ ρ (σ × Log κ ρ ε) β}
    {cleanup : Program κ ρ σ β} (erases : Erases logged program)
    (cleans : Erases loggedCleanup cleanup) :
    Erases (unwinding logged loggedCleanup) (unwinding program cleanup) := by
  refine erases_bind (erases_attempt erases) fun result => ?_
  cases result with
  | some value => exact erases_pure value
  | none => exact erases_bind (erases_attempt cleans) fun _ => erases_fail

/-- Notes leave no trace once the log is erased. -/
theorem erases_note_bind {notes : List ε}
    {loggedNext : PUnit → Program κ ρ (σ × Log κ ρ ε) α}
    {program : Program κ ρ σ α}
    (following : Erases (loggedNext ⟨⟩) program) :
    Erases (note notes >>= loggedNext) program where
  calls state log script := following.calls state _ script
  ending state log script := following.ending state _ script
  state state log script := following.state state _ script
  rest state log script := following.rest state _ script
  log state log script := by
    have logged := following.log state (log ++ notes.map Sum.inr) script
    rw [Log.calls_append, Log.calls_map_inr, List.append_nil] at logged
    exact logged

/-- The rule for observed programs, whose calls go into the log. -/
theorem meets_observe {program : Program κ ρ σ α}
    {post : Post κ ρ (σ × Log κ ρ ε) α} {history : List (κ × ρ)} {state : σ}
    {log : Log κ ρ ε}
    (meets :
      program.Meets
        (fun ending calls state =>
          post ending (history ++ calls) (state, log ++ calls.map Sum.inl))
        [] state) :
    (observe program).Meets post history (state, log) :=
  fun script => meets script

/-- The rule for a call that is logged. -/
theorem meets_bind_observe_call {query : κ}
    {next : ρ → Program κ ρ (σ × Log κ ρ ε) β}
    {post : Post κ ρ (σ × Log κ ρ ε) β} {history : List (κ × ρ)} {state : σ}
    {log : Log κ ρ ε}
    (waits : post (.stopped (.waiting query)) history (state, log))
    (answered :
      ∀ answer,
        (next answer).Meets post (history ++ [(query, answer)])
          (state, log ++ [.inl (query, answer)])) :
    (observe (call query) >>= next).Meets post history (state, log) := by
  apply meets_bind
  apply meets_observe
  apply meets_call
  · rw [List.append_nil, List.map_nil, List.append_nil]
    exact waits
  · exact answered

theorem meets_note_bind {notes : List ε}
    {next : PUnit → Program κ ρ (σ × Log κ ρ ε) α}
    {post : Post κ ρ (σ × Log κ ρ ε) α} {history : List (κ × ρ)} {state : σ}
    {log : Log κ ρ ε}
    (meets :
      (next ⟨⟩).Meets post history (state, log ++ notes.map Sum.inr)) :
    (note notes >>= next).Meets post history (state, log) :=
  meets_bind_modify meets

end Program

end OpenVizsla.Foundation.Calls
