import OpenVizsla.Foundation.Runs
import OpenVizsla.Foundation.Triples

/-!
# Programs in their environment

An environment answers calls as its step function allows.  Assertions about
it speak of all states that accord with the calls so far, so that nothing is
asked of calls that the environment would not have answered so.
-/

namespace OpenVizsla.Foundation.Calls

open OpenVizsla.Foundation.Runs

universe u

variable {κ ρ σ ε α β : Type u} {step : ε → κ × ρ → Option ε} {start : ε}

/-- The environment has the property, if it has made the calls possible. -/
def Sees (step : ε → κ × ρ → Option ε) (start : ε) (Property : ε → Prop)
    (history : List (κ × ρ)) : Prop :=
  ∀ env, run step start history = some env → Property env

section Sees

variable {Property Property' : ε → Prop} {history : List (κ × ρ)}

theorem Sees.mono (sees : Sees step start Property history)
    (weaker : ∀ env, Property env → Property' env) :
    Sees step start Property' history :=
  fun env reached => weaker env (sees env reached)

theorem sees_nil (holds : Property start) :
    Sees step start Property [] := by
  intro env reached
  cases reached
  exact holds

/-- What one more call makes of the property. -/
theorem Sees.concat (sees : Sees step start Property history)
    {entry : κ × ρ}
    (follows :
      ∀ env next, Property env → step env entry = some next →
        Property' next) :
    Sees step start Property' (history ++ [entry]) := by
  intro env reached
  obtain ⟨before, earlier, last⟩ := run_append_eq_some_iff.mp reached
  obtain ⟨next, stepped, ended⟩ := run_cons_eq_some_iff.mp last
  cases ended
  exact follows before env (sees before earlier) stepped

/-- Calls that were not possible do not become so. -/
theorem Sees.absurd (sees : Sees step start (fun _ => False) history)
    (later : List (κ × ρ)) :
    Sees step start Property (history ++ later) := by
  intro env reached
  obtain ⟨middle, earlier, -⟩ := run_append_eq_some_iff.mp reached
  exact (sees middle earlier).elim

end Sees

end OpenVizsla.Foundation.Calls
