import Mathlib

/-!
# Streaming processors

A processor is called with a finite piece of an input stream.  It updates its
own state and the state of its client, and it either reports how many items
it consumed or fails.  This file says what it means for a processor not to
see where the stream is cut, and derives the statement for arbitrary lists of
pieces from the statement for two pieces.

A failed call need not leave the same processor state for every cut: only the
client and the fact of the failure have to agree.

A caller may take calls for failed that are not.  It then hears the stream up
to the first such call.
-/

namespace OpenVizsla.Foundation.Streaming

variable {δ σ κ ι : Type*}

/--
What one call leaves behind.  `consumed` is `none` when the call fails, and
`log` lists the internal actions that the call took.
-/
structure Outcome (δ σ κ : Type*) where
  processor : δ
  user : σ
  log : List κ
  consumed : Option Nat
deriving DecidableEq, Repr

namespace Outcome

/-- The outcome of a call on no input. -/
def idle (processor : δ) (user : σ) : Outcome δ σ κ :=
  ⟨processor, user, [], some 0⟩

/-- Account for items consumed, and actions taken, before `outcome`. -/
def after (count : Nat) (log : List κ) (outcome : Outcome δ σ κ) :
    Outcome δ σ κ :=
  { outcome with
    log := log ++ outcome.log
    consumed := outcome.consumed.map (count + ·) }

/-- Continue after a call unless it failed. -/
def andThen (first : Outcome δ σ κ) (next : δ → σ → Outcome δ σ κ) :
    Outcome δ σ κ :=
  match first.consumed with
  | none => first
  | some count => (next first.processor first.user).after count first.log

/-- Two outcomes agree up to the log and the state left by a failure. -/
structure Agrees (left right : Outcome δ σ κ) : Prop where
  user : left.user = right.user
  consumed : left.consumed = right.consumed
  processor : left.consumed ≠ none → left.processor = right.processor

@[simp]
theorem after_processor (count : Nat) (log : List κ)
    (outcome : Outcome δ σ κ) :
    (outcome.after count log).processor = outcome.processor :=
  rfl

@[simp]
theorem after_user (count : Nat) (log : List κ) (outcome : Outcome δ σ κ) :
    (outcome.after count log).user = outcome.user :=
  rfl

@[simp]
theorem after_log (count : Nat) (log : List κ) (outcome : Outcome δ σ κ) :
    (outcome.after count log).log = log ++ outcome.log :=
  rfl

@[simp]
theorem after_consumed (count : Nat) (log : List κ)
    (outcome : Outcome δ σ κ) :
    (outcome.after count log).consumed =
      outcome.consumed.map (count + ·) :=
  rfl

theorem andThen_of_failed {first : Outcome δ σ κ}
    (failed : first.consumed = none) (next : δ → σ → Outcome δ σ κ) :
    first.andThen next = first := by
  simp only [andThen, failed]

theorem andThen_of_consumed {first : Outcome δ σ κ} {count : Nat}
    (consumed : first.consumed = some count)
    (next : δ → σ → Outcome δ σ κ) :
    first.andThen next =
      (next first.processor first.user).after count first.log := by
  simp only [andThen, consumed]

namespace Agrees

@[refl]
theorem refl (outcome : Outcome δ σ κ) : Agrees outcome outcome :=
  ⟨rfl, rfl, fun _ => rfl⟩

theorem symm {left right : Outcome δ σ κ} (agrees : Agrees left right) :
    Agrees right left :=
  ⟨agrees.user.symm, agrees.consumed.symm, fun succeeded =>
    (agrees.processor (agrees.consumed ▸ succeeded)).symm⟩

theorem trans {left middle right : Outcome δ σ κ}
    (first : Agrees left middle) (second : Agrees middle right) :
    Agrees left right :=
  ⟨first.user.trans second.user, first.consumed.trans second.consumed,
    fun succeeded => (first.processor succeeded).trans
      (second.processor (first.consumed ▸ succeeded))⟩

theorem after {left right : Outcome δ σ κ} (agrees : Agrees left right)
    (count : Nat) (leftLog rightLog : List κ) :
    Agrees (left.after count leftLog) (right.after count rightLog) := by
  refine ⟨agrees.user, ?_, ?_⟩
  · simp [agrees.consumed]
  · intro succeeded
    apply agrees.processor
    intro failed
    simp [failed] at succeeded

/-- Agreement is a congruence for sequencing. -/
theorem andThen {left right : Outcome δ σ κ}
    {leftNext rightNext : δ → σ → Outcome δ σ κ}
    (agrees : Agrees left right)
    (next :
      left.consumed ≠ none →
        Agrees (leftNext left.processor left.user)
          (rightNext left.processor left.user)) :
    Agrees (left.andThen leftNext) (right.andThen rightNext) := by
  cases leftConsumed : left.consumed with
  | none =>
      have rightConsumed : right.consumed = none :=
        agrees.consumed ▸ leftConsumed
      rw [andThen_of_failed leftConsumed, andThen_of_failed rightConsumed]
      exact agrees
  | some count =>
      have succeeded : left.consumed ≠ none := by simp [leftConsumed]
      have rightConsumed : right.consumed = some count :=
        agrees.consumed ▸ leftConsumed
      rw [andThen_of_consumed leftConsumed,
        andThen_of_consumed rightConsumed,
        ← agrees.processor succeeded, ← agrees.user]
      exact (next succeeded).after count left.log right.log

end Agrees

end Outcome

/-- A processor: state, client and input to outcome. -/
abbrev Processor (δ σ κ ι : Type*) :=
  δ → σ → List ι → Outcome δ σ κ

/-- Feed pieces one after another, until the first failure. -/
def feed (process : Processor δ σ κ ι) (processor : δ) (user : σ) :
    List (List ι) → Outcome δ σ κ
  | [] => .idle processor user
  | piece :: rest =>
      (process processor user piece).andThen fun processor user =>
        feed process processor user rest

/--
The processor does not see a single cut, on the states that satisfy
`Invariant`.
-/
structure Splits (process : Processor δ σ κ ι) (Invariant : δ → Prop) :
    Prop where
  empty (processor : δ) (user : σ) :
    process processor user [] = .idle processor user
  invariant (processor : δ) (user : σ) (input : List ι) :
    Invariant processor → Invariant (process processor user input).processor
  append (processor : δ) (user : σ) (left right : List ι) :
    Invariant processor →
      Outcome.Agrees (process processor user (left ++ right))
        ((process processor user left).andThen fun processor user =>
          process processor user right)

namespace Splits

/-- Not seeing one cut is not seeing any number of cuts. -/
theorem feed_agrees {process : Processor δ σ κ ι} {Invariant : δ → Prop}
    (splits : Splits process Invariant) (pieces : List (List ι))
    (processor : δ) (user : σ) (invariant : Invariant processor) :
    Outcome.Agrees (feed process processor user pieces)
      (process processor user pieces.flatten) := by
  induction pieces generalizing processor user with
  | nil =>
      rw [List.flatten_nil, splits.empty, feed]
  | cons piece rest ih =>
      rw [List.flatten_cons, feed]
      refine Outcome.Agrees.trans ?_
        (splits.append processor user piece rest.flatten invariant).symm
      refine (Outcome.Agrees.refl _).andThen fun _ => ?_
      exact ih _ _ (splits.invariant processor user piece invariant)

end Splits

/-! ## Callers that stop early -/

/-- What the calls for one piece after another leave behind. -/
structure Fed (δ σ : Type*) where
  processor : δ
  user : σ
  failed : Bool

/-- Feed pieces one after another, until a call counts as failed. -/
def feedUntil (fails : Outcome δ σ κ → Bool) (process : Processor δ σ κ ι)
    (processor : δ) (user : σ) : List (List ι) → Fed δ σ
  | [] => ⟨processor, user, false⟩
  | piece :: rest =>
      let outcome := process processor user piece
      if fails outcome then ⟨outcome.processor, outcome.user, true⟩
      else feedUntil fails process outcome.processor outcome.user rest

/-- The pieces up to the first one of a kind, and this one. -/
def throughFirst (kind : List ι → Bool) : List (List ι) → List (List ι)
  | [] => []
  | piece :: rest =>
      if kind piece then [piece] else piece :: throughFirst kind rest

section ThroughFirst

variable {kind : List ι → Bool}

theorem throughFirst_of_none {pieces : List (List ι)}
    (others : ∀ piece ∈ pieces, kind piece = false) :
    throughFirst kind pieces = pieces := by
  induction pieces with
  | nil => rfl
  | cons piece rest ih =>
      obtain ⟨other, others⟩ := List.forall_mem_cons.mp others
      rw [throughFirst, other, ih others]
      rfl

theorem throughFirst_append {before : List (List ι)} {piece : List ι}
    (others : ∀ earlier ∈ before, kind earlier = false)
    (first : kind piece = true) (after : List (List ι)) :
    throughFirst kind (before ++ piece :: after) = before ++ [piece] := by
  induction before with
  | nil =>
      rw [List.nil_append, throughFirst, if_pos first]
      rfl
  | cons earlier before ih =>
      obtain ⟨other, others⟩ := List.forall_mem_cons.mp others
      rw [List.cons_append, throughFirst, other, ih others]
      rfl

/-- Either there is no piece of the kind, or there is a first one. -/
theorem none_or_first (kind : List ι → Bool) (pieces : List (List ι)) :
    (∀ piece ∈ pieces, kind piece = false) ∨
      ∃ before piece after, pieces = before ++ piece :: after ∧
        kind piece = true ∧ ∀ earlier ∈ before, kind earlier = false := by
  induction pieces with
  | nil => exact .inl (List.forall_mem_nil _)
  | cons piece rest ih =>
      cases first : kind piece with
      | true => exact .inr ⟨[], piece, rest, rfl, first, List.forall_mem_nil _⟩
      | false =>
          rcases ih with others | ⟨before, later, after, rfl, found, others⟩
          · exact .inl (List.forall_mem_cons.mpr ⟨first, others⟩)
          · exact .inr ⟨piece :: before, later, after, rfl, found,
              List.forall_mem_cons.mpr ⟨first, others⟩⟩

end ThroughFirst

/--
When the pieces of some kind are those that count as failed although they are
consumed, the caller hears what there is up to the first of them.
-/
theorem feedUntil_throughFirst {process : Processor δ σ κ ι}
    {Invariant : δ → Prop} (splits : Splits process Invariant)
    {fails : Outcome δ σ κ → Bool} {kind : List ι → Bool}
    (counts :
      ∀ processor user piece, Invariant processor →
        (fails (process processor user piece) = true ↔
          (process processor user piece).consumed = none ∨
            kind piece = true))
    (pieces : List (List ι)) {processor : δ} (user : σ)
    (invariant : Invariant processor) :
    let fed := feedUntil fails process processor user pieces
    let heard := feed process processor user (throughFirst kind pieces)
    fed.processor = heard.processor ∧ fed.user = heard.user ∧
      (fed.failed = true ↔
        heard.consumed = none ∨ ∃ piece ∈ pieces, kind piece = true) := by
  induction pieces generalizing processor user with
  | nil =>
      exact ⟨rfl, rfl, by simp [feedUntil, feed, throughFirst, Outcome.idle]⟩
  | cons piece rest ih =>
      have counted := counts processor user piece invariant
      have next := splits.invariant processor user piece invariant
      cases consumed : (process processor user piece).consumed with
      | none =>
          have failed : fails (process processor user piece) = true :=
            counted.mpr (.inl consumed)
          have heard : feed process processor user
              (throughFirst kind (piece :: rest)) =
                process processor user piece := by
            rw [throughFirst]
            split <;> exact Outcome.andThen_of_failed consumed _
          simp only [feedUntil, failed, heard, consumed, if_true]
          exact ⟨trivial, trivial, iff_of_true trivial (.inl trivial)⟩
      | some count =>
          cases first : kind piece with
          | true =>
              have failed : fails (process processor user piece) = true :=
                counted.mpr (.inr first)
              simp [feedUntil, failed, throughFirst, first, feed,
                Outcome.andThen_of_consumed consumed, Outcome.idle]
          | false =>
              have fine : fails (process processor user piece) = false := by
                rw [← Bool.not_eq_true, counted, consumed, first]
                simp
              simpa [feedUntil, fine, throughFirst, first, feed,
                Outcome.andThen_of_consumed consumed] using
                ih (process processor user piece).user next

end OpenVizsla.Foundation.Streaming
