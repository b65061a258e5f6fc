import Mathlib
import OpenVizsla.Foundation.Runs

/-!
# Ledgers

Calls take resources and give them back.  A ledger says what is held after a
history of calls, as long as nothing has been given back that was not held.
Resources are counted, so that the same handle may be taken twice.
-/

namespace OpenVizsla.Foundation.Ledger

open OpenVizsla.Foundation.Runs

universe u v

/-- What an event takes, and what it gives back. -/
structure Terms (ε : Type u) (ι : Type v) where
  takes : ε → Multiset ι
  gives : ε → Multiset ι

namespace Terms

variable {ε : Type u} {ι : Type v} [DecidableEq ι] (terms : Terms ε ι)

/-- An event may give back what is held. -/
def settle (held : Multiset ι) (event : ε) : Option (Multiset ι) :=
  if terms.gives event ≤ held then
    some (held - terms.gives event + terms.takes event)
  else
    none

/-- Starting with nothing, this is held after the events. -/
def Holding (held : Multiset ι) (history : List ε) : Prop :=
  run terms.settle 0 history = some held

/-- Nothing has been given back that was not held. -/
def Sound (history : List ε) : Prop :=
  ∃ held, terms.Holding held history

variable {terms} {held : Multiset ι} {history : List ε} {event : ε}

theorem holding_nil : terms.Holding 0 [] :=
  rfl

theorem Holding.sound (holding : terms.Holding held history) :
    terms.Sound history :=
  ⟨held, holding⟩

/-- What is given back must be part of what is held. -/
theorem Holding.concat (holding : terms.Holding held history) {left}
    (split : held = terms.gives event + left) :
    terms.Holding (left + terms.takes event) (history ++ [event]) := by
  refine run_append_eq_some_iff.mpr ⟨held, holding, ?_⟩
  have owned : terms.gives event ≤ held :=
    split ▸ Multiset.le_add_right _ _
  have left' : held - terms.gives event = left := by
    rw [split, add_tsub_cancel_left]
  rw [run_cons, settle, if_pos owned, left']
  rfl

/-- An event that does not give anything back. -/
theorem Holding.take (holding : terms.Holding held history)
    (nothing : terms.gives event = 0) :
    terms.Holding (held + terms.takes event) (history ++ [event]) :=
  holding.concat (by rw [nothing, zero_add])

/-- An event that does not take anything. -/
theorem Holding.give {left}
    (holding : terms.Holding (terms.gives event + left) history)
    (nothing : terms.takes event = 0) :
    terms.Holding left (history ++ [event]) := by
  have given := holding.concat rfl
  rwa [nothing, add_zero] at given

theorem Holding.pass (holding : terms.Holding held history)
    (takes : terms.takes event = 0) (gives : terms.gives event = 0) :
    terms.Holding held (history ++ [event]) := by
  have kept := holding.take gives
  rwa [takes, add_zero] at kept

/-- All that has been taken is held or has been given back. -/
theorem Holding.balance (holding : terms.Holding held history) :
    (history.map terms.takes).sum = (history.map terms.gives).sum + held := by
  induction history using List.reverseRecOn generalizing held with
  | nil =>
      cases holding
      rfl
  | append_singleton history event ih =>
      obtain ⟨before, earlier, last⟩ := run_append_eq_some_iff.mp holding
      obtain ⟨after, settled, ended⟩ := run_cons_eq_some_iff.mp last
      cases ended
      rw [settle] at settled
      split at settled
      case isFalse => cases settled
      case isTrue owned =>
          cases settled
          obtain ⟨left, rfl⟩ := Multiset.le_iff_exists_add.mp owned
          have taken := ih earlier
          simp only [List.map_append, List.map_cons, List.map_nil,
            List.sum_append, List.sum_singleton, add_tsub_cancel_left]
          rw [taken]
          abel

end Terms

end OpenVizsla.Foundation.Ledger
