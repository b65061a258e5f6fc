import Mathlib

/-!
# Finite runs of a partial step function

`step state event` is `none` when the event cannot happen in the state.  A
run is a list of events; every state of a run is the end of a run over a
prefix of the list.
-/

namespace OpenVizsla.Foundation.Runs

variable {State Event : Type*} (step : State → Event → Option State)

/-- The state after a list of events, each of which must be possible. -/
def run (start : State) (events : List Event) : Option State :=
  events.foldlM step start

@[simp]
theorem run_nil (start : State) : run step start [] = some start :=
  rfl

@[simp]
theorem run_cons (start : State) (event : Event) (events : List Event) :
    run step start (event :: events) =
      (step start event).bind fun next => run step next events := by
  simp [run, List.foldlM_cons]

theorem run_append (start : State) (first second : List Event) :
    run step start (first ++ second) =
      (run step start first).bind fun middle => run step middle second := by
  simp [run, List.foldlM_append]

variable {step}

theorem run_cons_eq_some_iff {start finish : State} {event : Event}
    {events : List Event} :
    run step start (event :: events) = some finish ↔
      ∃ next, step start event = some next ∧
        run step next events = some finish := by
  rw [run_cons, Option.bind_eq_some_iff]

theorem run_append_eq_some_iff {start finish : State}
    {first second : List Event} :
    run step start (first ++ second) = some finish ↔
      ∃ middle, run step start first = some middle ∧
        run step middle second = some finish := by
  rw [run_append, Option.bind_eq_some_iff]

/--
The invariant rule: a property of the first state that every admitted event
preserves is a property of the last one.
-/
theorem run_invariant_of {Invariant : State → Prop} {Admitted : Event → Prop}
    (preserved :
      ∀ state event next,
        Invariant state → Admitted event →
          step state event = some next → Invariant next)
    {start finish : State} {events : List Event}
    (initial : Invariant start)
    (admitted : ∀ event ∈ events, Admitted event)
    (reached : run step start events = some finish) :
    Invariant finish := by
  induction events generalizing start with
  | nil =>
      cases reached
      exact initial
  | cons event events ih =>
      obtain ⟨next, head, tail⟩ := run_cons_eq_some_iff.mp reached
      exact ih
        (preserved start event next initial
          (admitted event List.mem_cons_self) head)
        (fun later member =>
          admitted later (List.mem_cons_of_mem event member))
        tail

/-- The invariant rule when every event is admitted. -/
theorem run_invariant {Invariant : State → Prop}
    (preserved :
      ∀ state event next,
        Invariant state → step state event = some next → Invariant next)
    {start finish : State} {events : List Event}
    (initial : Invariant start)
    (reached : run step start events = some finish) :
    Invariant finish := by
  have admitted : ∀ event ∈ events, (fun _ => True) event :=
    fun _ _ => trivial
  exact run_invariant_of
    (fun state event next invariant _ =>
      preserved state event next invariant)
    initial admitted reached

/--
A step that is possible wherever the invariant holds, and preserves it, makes
every run possible.
-/
theorem run_total {Invariant : State → Prop} {Admitted : Event → Prop}
    (progress :
      ∀ state event, Invariant state → Admitted event →
        ∃ next, step state event = some next ∧ Invariant next)
    {start : State} {events : List Event} (initial : Invariant start)
    (admitted : ∀ event ∈ events, Admitted event) :
    ∃ finish, run step start events = some finish ∧ Invariant finish := by
  induction events generalizing start with
  | nil => exact ⟨start, rfl, initial⟩
  | cons event events ih =>
      obtain ⟨next, head, invariant⟩ :=
        progress start event initial (admitted event List.mem_cons_self)
      obtain ⟨finish, tail, invariant'⟩ := ih invariant
        fun later member => admitted later (List.mem_cons_of_mem event member)
      exact ⟨finish, run_cons_eq_some_iff.mpr ⟨next, head, tail⟩, invariant'⟩

/--
The simulation rule: when every step can be followed in related states, every
run can be followed.
-/
theorem run_simulation {State' : Type*}
    {step' : State' → Event → Option State'} {Related : State → State' → Prop}
    (simulates :
      ∀ state state' event next,
        Related state state' → step state event = some next →
          ∃ next', step' state' event = some next' ∧ Related next next')
    {start finish : State} {start' : State'} {events : List Event}
    (related : Related start start')
    (reached : run step start events = some finish) :
    ∃ finish', run step' start' events = some finish' ∧
      Related finish finish' := by
  induction events generalizing start start' with
  | nil =>
      cases reached
      exact ⟨start', rfl, related⟩
  | cons event events ih =>
      obtain ⟨next, head, tail⟩ := run_cons_eq_some_iff.mp reached
      obtain ⟨next', head', related'⟩ :=
        simulates start start' event next related head
      obtain ⟨finish', tail', finished⟩ := ih related' tail
      exact ⟨finish', run_cons_eq_some_iff.mpr ⟨next', head', tail'⟩,
        finished⟩

/-- A condition on the steps of a run, each in the state in which it starts. -/
def Throughout (step : State → Event → Option State)
    (Condition : State → Event → Prop) : State → List Event → Prop
  | _, [] => True
  | state, event :: rest =>
      Condition state event ∧
        ∀ next, step state event = some next →
          Throughout step Condition next rest

/-- A condition on a run is one on its first part and on the rest. -/
theorem throughout_append {Condition : State → Event → Prop}
    {start middle : State} {first second : List Event}
    (throughout : Throughout step Condition start (first ++ second))
    (reached : run step start first = some middle) :
    Throughout step Condition start first ∧
      Throughout step Condition middle second := by
  induction first generalizing start with
  | nil =>
      cases reached
      exact ⟨trivial, throughout⟩
  | cons event rest ih =>
      obtain ⟨next, head, tail⟩ := run_cons_eq_some_iff.mp reached
      obtain ⟨condition, later⟩ := throughout
      obtain ⟨now, then'⟩ := ih (later next head) tail
      refine ⟨⟨condition, fun next' head' => ?_⟩, then'⟩
      rw [head] at head'
      cases head'
      exact now

/-- Conditions that agree on the steps of a run agree on the run. -/
theorem throughout_congr (Invariant : State → Prop)
    {First Second : State → Event → Prop}
    (preserved :
      ∀ state event next,
        Invariant state → step state event = some next → Invariant next)
    (agree :
      ∀ state event next,
        Invariant state → step state event = some next →
          (First state event ↔ Second state event))
    {start finish : State} {events : List Event}
    (initial : Invariant start)
    (reached : run step start events = some finish) :
    Throughout step First start events ↔
      Throughout step Second start events := by
  induction events generalizing start with
  | nil => exact Iff.rfl
  | cons event events ih =>
      obtain ⟨next, head, tail⟩ := run_cons_eq_some_iff.mp reached
      have rest := ih (preserved start event next initial head) tail
      simp only [Throughout, agree start event next initial head, head,
        Option.some.injEq, forall_eq']
      rw [rest]

/-- What the invariant brings about holds throughout a run. -/
theorem throughout_of_invariant (Invariant : State → Prop)
    {Admitted : Event → Prop} {Condition : State → Event → Prop}
    (preserved :
      ∀ state event next,
        Invariant state → Admitted event →
          step state event = some next → Invariant next)
    (holds :
      ∀ state event, Invariant state → Admitted event →
        Condition state event)
    {start : State} {events : List Event} (initial : Invariant start)
    (admitted : ∀ event ∈ events, Admitted event) :
    Throughout step Condition start events := by
  induction events generalizing start with
  | nil => trivial
  | cons event events ih =>
      have first := admitted event List.mem_cons_self
      refine ⟨holds start event initial first, fun next head => ?_⟩
      exact ih (preserved start event next initial first head)
        fun later member => admitted later (List.mem_cons_of_mem event member)

end OpenVizsla.Foundation.Runs
