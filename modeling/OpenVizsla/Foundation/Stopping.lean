import Mathlib

/-!
# Machines that stop

A machine reads inputs.  From some state on it is no longer live, and then it
stays so.  `heard` are the inputs that it reads while it is live, the one with
which it stops included.
-/

namespace OpenVizsla.Foundation.Stopping

variable {σ α : Type*} (act : σ → α → σ) (Live : σ → Prop)
  [DecidablePred Live]

/-- The inputs that a machine reads while it is live. -/
def heard (state : σ) : List α → List α
  | [] => []
  | input :: rest =>
      if Live state then input :: heard (act state input) rest else []

@[simp]
theorem heard_nil (state : σ) : heard act Live state [] = [] :=
  rfl

variable {act Live}

theorem heard_of_stopped {state : σ} (stopped : ¬ Live state)
    (inputs : List α) : heard act Live state inputs = [] := by
  cases inputs with
  | nil => rfl
  | cons input rest => exact if_neg stopped

/-- What is heard comes first. -/
theorem heard_isPrefix (state : σ) (inputs : List α) :
    heard act Live state inputs <+: inputs := by
  induction inputs generalizing state with
  | nil => exact List.prefix_refl []
  | cons input rest ih =>
      rw [heard]
      split
      · exact (List.prefix_cons_inj input).mpr (ih _)
      · exact List.nil_prefix

/-- The machine is live when it hears an input. -/
theorem live_of_heard {state : σ} {inputs first rest : List α} {input : α}
    (split : heard act Live state inputs = first ++ input :: rest) :
    Live (first.foldl act state) := by
  induction first generalizing state inputs with
  | nil =>
      by_contra stopped
      rw [List.foldl_nil] at stopped
      rw [heard_of_stopped stopped] at split
      cases split
  | cons head first ih =>
      cases inputs with
      | nil => cases split
      | cons input' inputs =>
          rw [heard] at split
          split at split
          · obtain ⟨same, tail⟩ := List.cons.inj split
            rw [List.foldl_cons, ← same]
            exact ih tail
          · cases split

section Stays

variable (stays : ∀ state input, ¬ Live state → ¬ Live (act state input))
include stays

omit [DecidablePred Live] in
theorem foldl_of_stopped {state : σ} (stopped : ¬ Live state)
    (inputs : List α) : ¬ Live (inputs.foldl act state) := by
  induction inputs generalizing state with
  | nil => exact stopped
  | cons input rest ih => exact ih (stays state input stopped)

/-- A machine that is still live has heard everything. -/
theorem heard_of_live {state : σ} {inputs : List α}
    (live : Live (inputs.foldl act state)) :
    heard act Live state inputs = inputs := by
  induction inputs generalizing state with
  | nil => rfl
  | cons input rest ih =>
      have started : Live state := by
        by_contra stopped
        exact foldl_of_stopped stays (stays state input stopped) rest live
      rw [heard, if_pos started, ih live]

theorem heard_append (state : σ) (first second : List α) :
    heard act Live state (first ++ second) =
      heard act Live state first ++
        heard act Live (first.foldl act state) second := by
  induction first generalizing state with
  | nil => rfl
  | cons input rest ih =>
      rw [List.cons_append, heard, heard]
      split
      · rw [ih, List.foldl_cons, List.cons_append]
      · rename_i stopped
        have dead :=
          foldl_of_stopped stays (stays state input stopped) rest
        rw [List.foldl_cons, heard_of_stopped dead, List.append_nil]

end Stays

end OpenVizsla.Foundation.Stopping
