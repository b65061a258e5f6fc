import OpenVizsla.Foundation.Triples

/-!
# Programs among other calls

A program also runs where its calls are only some of those that can be made.
Its assertions are then read on the calls that it knows.  What else has
happened is in a frame that its own calls have to keep.
-/

namespace OpenVizsla.Foundation.Calls

universe u

variable {κ κ' ρ σ α β : Type u}

/-- The calls of one environment among those of another one. -/
structure Among (κ κ' : Type u) where
  raise : κ → κ'
  lower : κ' → Option κ
  lower_raise : ∀ call, lower (raise call) = some call

def Stop.raised (raise : κ → κ') : Stop κ → Stop κ'
  | .failed => .failed
  | .aborted => .aborted
  | .waiting call => .waiting (raise call)

def Ending.raised (raise : κ → κ') : Ending κ α → Ending κ' α
  | .returned value => .returned value
  | .stopped stop => .stopped (stop.raised raise)

theorem Ending.waiting_raised {raise : κ → κ'} {ending : Ending κ α} :
    (ending.raised raise).Waiting ↔ ending.Waiting := by
  cases ending with
  | returned value => rfl
  | stopped stop => cases stop <;> rfl

namespace Among

variable (among : Among κ κ')

/-- The calls that are known, in their order. -/
def lowered (history : List (κ' × ρ)) : List (κ × ρ) :=
  history.filterMap fun entry =>
    (among.lower entry.1).map fun call => (call, entry.2)

def raised (history : List (κ × ρ)) : List (κ' × ρ) :=
  history.map fun entry => (among.raise entry.1, entry.2)

@[simp]
theorem lowered_append (first second : List (κ' × ρ)) :
    among.lowered (first ++ second) =
      among.lowered first ++ among.lowered second :=
  List.filterMap_append

@[simp]
theorem lowered_raised (history : List (κ × ρ)) :
    among.lowered (among.raised history) = history := by
  induction history with
  | nil => rfl
  | cons entry rest ih =>
      rw [raised, List.map_cons, lowered, List.filterMap_cons,
        among.lower_raise, ← lowered, ← raised, ih]
      rfl

theorem answers_raised (history : List (κ × ρ)) :
    (among.raised history).map Prod.snd = history.map Prod.snd := by
  rw [raised, List.map_map]
  rfl

end Among

namespace Program

/-- Only such calls are made. -/
def Makes (Uses : κ → Prop) (program : Program κ ρ σ α) : Prop :=
  ∀ state script, ∀ entry ∈ (program.run state script).calls, Uses entry.1

/-- All calls so far are such ones. -/
def Using (Uses : κ → Prop) : Assertion κ ρ σ :=
  fun history _ => ∀ entry ∈ history, Uses entry.1

theorem Using.concat {Uses : κ → Prop} {history : List (κ × ρ)}
    {state : σ} (using' : Using Uses history state) {entry : κ × ρ}
    (uses : Uses entry.1) : Using Uses (history ++ [entry]) state := by
  intro other member
  rcases List.mem_append.mp member with earlier | last
  · exact using' other earlier
  · rw [List.mem_singleton.mp last]
    exact uses

theorem makes_of_upholds {Uses : κ → Prop} {program : Program κ ρ σ α}
    (upholds : program.Upholds (Using Uses) (Using Uses)) :
    program.Makes Uses := by
  intro state script
  have outcome := upholds [] state (List.forall_mem_nil _) script
  rw [List.nil_append] at outcome
  cases ended : (program.run state script).ending with
  | returned value =>
      rw [ended] at outcome
      exact outcome
  | stopped stop =>
      rw [ended] at outcome
      cases stop with
      | failed => exact outcome
      | aborted => exact outcome
      | waiting query => exact outcome

section Raised

variable (among : Among κ κ')

/-- The program, among the other calls. -/
def raised (program : Program κ ρ σ α) : Program κ' ρ σ α where
  run := fun state script =>
    let outcome := program.run state script
    { calls := among.raised outcome.calls
      ending := outcome.ending.raised among.raise
      state := outcome.state
      rest := outcome.rest }
  fits := fun state script => by
    refine ⟨?_, fun waiting => (program.fits state script).waits
      (Ending.waiting_raised.mp waiting)⟩
    show (among.raised _).map Prod.snd ++ _ = _
    rw [Among.answers_raised]
    exact (program.fits state script).reads
  extend := by
    intro state script answers settled
    have same : ¬ (program.run state script).ending.Waiting :=
      fun waiting => settled (Ending.waiting_raised.mpr waiting)
    simp only [program.extend state script answers same]
    rfl

/-- The assertion about the calls that are known, and the frame. -/
def Framed (Frame : List (κ' × ρ) → Prop) (assertion : Assertion κ ρ σ) :
    Assertion κ' ρ σ :=
  fun history state =>
    assertion (among.lowered history) state ∧ Frame history

/-- The frame is kept by such calls. -/
def KeptBy (Uses : κ → Prop) (Frame : List (κ' × ρ) → Prop) : Prop :=
  ∀ history call answer, Uses call → Frame history →
    Frame (history ++ [(among.raise call, answer)])

variable {among} {Uses : κ → Prop} {Frame : List (κ' × ρ) → Prop}

theorem KeptBy.calls (kept : KeptBy among Uses Frame)
    {history : List (κ' × ρ)} (frame : Frame history)
    {calls : List (κ × ρ)} (uses : ∀ entry ∈ calls, Uses entry.1) :
    Frame (history ++ among.raised calls) := by
  induction calls generalizing history with
  | nil => rwa [Among.raised, List.map_nil, List.append_nil]
  | cons entry rest ih =>
      have first := kept history entry.1 entry.2 (uses entry (by simp)) frame
      have whole := ih first fun other member =>
        uses other (List.mem_cons_of_mem _ member)
      rwa [List.append_assoc, List.singleton_append] at whole

/-- The triple of a program holds among the other calls. -/
theorem triple_raised {pre : Assertion κ ρ σ}
    {program : Program κ ρ σ α} {post : α → Assertion κ ρ σ}
    {stop : Stop κ → Assertion κ ρ σ} {stop' : Stop κ' → Assertion κ' ρ σ}
    (triple : Triple pre program post stop) (makes : program.Makes Uses)
    (kept : KeptBy among Uses Frame)
    (stops :
      ∀ reason history state, Framed among Frame (stop reason) history state →
        stop' (reason.raised among.raise) history state) :
    Triple (Framed among Frame pre) (program.raised among)
      (fun value => Framed among Frame (post value)) stop' := by
  rintro history state ⟨holds, frame⟩ script
  have outcome := triple _ state holds script
  have later : Frame (history ++
      among.raised (program.run state script).calls) :=
    kept.calls frame (makes state script)
  have known : among.lowered (history ++
        among.raised (program.run state script).calls) =
      among.lowered history ++ (program.run state script).calls := by
    rw [Among.lowered_append, Among.lowered_raised]
  cases ended : (program.run state script).ending with
  | returned value =>
      rw [ended] at outcome
      show Post.either _ _ (Ending.raised _ _) _ _
      rw [ended]
      exact ⟨known ▸ outcome, later⟩
  | stopped reason =>
      rw [ended] at outcome
      show Post.either _ _ (Ending.raised _ _) _ _
      rw [ended]
      exact stops reason _ _ ⟨known ▸ outcome, later⟩

end Raised

end Program

end OpenVizsla.Foundation.Calls
