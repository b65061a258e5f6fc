import Mathlib

/-!
# Late reports

A process reads slots.  A tick may complete a value, and a signal is reported
by itself.  The process should report a value with the tick that completes
it; a late process keeps some of the values until the next tick.

A late process makes the reports that it should make, in the right order,
exactly if no value that it keeps is last or stands before a signal.
-/

namespace OpenVizsla.Foundation.Delay

variable {α β : Type*}

/-- A tick, with the value it completes, or a signal. -/
inductive Slot (α β : Type*) where
  | tick (completes : Option α)
  | signal (value : β)
deriving DecidableEq, Repr

/-- The reports that are due in a slot. -/
def Slot.due : Slot α β → List (α ⊕ β)
  | .tick completes => completes.toList.map .inl
  | .signal value => [.inr value]

/-- Every value is reported with the tick that completes it. -/
def prompt (slots : List (Slot α β)) : List (α ⊕ β) :=
  slots.flatMap Slot.due

/-- The values that satisfy `keeps` wait for the next tick. -/
def late (keeps : α → Bool) :
    Option α → List (Slot α β) → List (α ⊕ β)
  | _, [] => []
  | waiting, .signal value :: rest => .inr value :: late keeps waiting rest
  | waiting, .tick completes :: rest =>
      waiting.toList.map .inl ++
        (completes.filter (!keeps ·)).toList.map .inl ++
          late keeps (completes.filter keeps) rest

/-- The next slot is a tick. -/
def TickFirst (slots : List (Slot α β)) : Prop :=
  ∃ completes rest, slots = .tick completes :: rest

/-- Every value that is kept is followed by a tick. -/
def Followed (keeps : α → Bool) (slots : List (Slot α β)) : Prop :=
  ∀ before value after,
    slots = before ++ .tick (some value) :: after →
      keeps value = true → TickFirst after

/-- What a slot signals. -/
def Slot.signalled : Slot α β → Option β
  | .tick _ => none
  | .signal value => some value

@[simp]
theorem prompt_nil : prompt ([] : List (Slot α β)) = [] :=
  rfl

@[simp]
theorem prompt_cons (slot : Slot α β) (rest : List (Slot α β)) :
    prompt (slot :: rest) = slot.due ++ prompt rest :=
  rfl

@[simp]
theorem not_tickFirst_nil : ¬ TickFirst ([] : List (Slot α β)) := by
  rintro ⟨completes, rest, equal⟩
  cases equal

@[simp]
theorem not_tickFirst_signal (value : β) (rest : List (Slot α β)) :
    ¬ TickFirst (.signal value :: rest) := by
  rintro ⟨completes, rest', equal⟩
  cases equal

@[simp]
theorem tickFirst_tick (completes : Option α) (rest : List (Slot α β)) :
    TickFirst (.tick completes :: rest) :=
  ⟨completes, rest, rfl⟩

/-- A late process is in time with its signals. -/
theorem late_signalled (keeps : α → Bool) (waiting : Option α)
    (slots : List (Slot α β)) :
    (late keeps waiting slots).filterMap Sum.getRight? =
      slots.filterMap Slot.signalled := by
  induction slots generalizing waiting with
  | nil => cases waiting <;> rfl
  | cons slot rest ih =>
      have silent (values : Option α) :
          (values.toList.map (Sum.inl (β := β))).filterMap Sum.getRight? =
            [] := by
        cases values <;> rfl
      cases slot with
      | signal value => simp [late, Slot.signalled, ih]
      | tick completes =>
          simp [late, List.filterMap_cons, Slot.signalled, silent, ih]

/-- What a tick completes. -/
def Slot.completed : Slot α β → Option α
  | .tick completes => completes
  | .signal _ => none

/-- The value that still waits behind the slots. -/
def waits (keeps : α → Bool) :
    Option α → List (Slot α β) → Option α
  | waiting, [] => waiting
  | waiting, .signal _ :: rest => waits keeps waiting rest
  | _, .tick completes :: rest => waits keeps (completes.filter keeps) rest

/-- A tick. -/
def Slot.ticked : Slot α β → Option (Option α)
  | .tick completes => some completes
  | .signal _ => none

/-- What waits is what the last tick has completed. -/
theorem waits_eq (keeps : α → Bool) (waiting : Option α)
    (slots : List (Slot α β)) :
    waits keeps waiting slots =
      match (slots.filterMap Slot.ticked).getLast? with
      | none => waiting
      | some completes => completes.filter keeps := by
  induction slots generalizing waiting with
  | nil => rfl
  | cons slot rest ih =>
      cases slot with
      | signal value =>
          rw [waits, ih, List.filterMap_cons]
          rfl
      | tick completes =>
          rw [waits, ih, List.filterMap_cons]
          simp only [Slot.ticked, List.getLast?_cons]
          cases (rest.filterMap Slot.ticked).getLast? <;> rfl

/-- Only a value that is kept waits. -/
theorem keeps_of_mem_waits {keeps : α → Bool} {waiting : Option α}
    (kept : ∀ value ∈ waiting, keeps value = true)
    (slots : List (Slot α β)) {value : α}
    (member : value ∈ waits keeps waiting slots) : keeps value = true := by
  induction slots generalizing waiting with
  | nil => exact kept value member
  | cons slot rest ih =>
      cases slot with
      | signal other => exact ih kept member
      | tick completes =>
          refine ih (fun last filtered => ?_) member
          exact (Option.mem_filter_iff.mp filtered).2

/-- A completed value has been reported, or it waits. -/
theorem late_values (keeps : α → Bool) (waiting : Option α)
    (slots : List (Slot α β)) :
    (late keeps waiting slots).filterMap Sum.getLeft? ++
        (waits keeps waiting slots).toList =
      waiting.toList ++ slots.filterMap Slot.completed := by
  induction slots generalizing waiting with
  | nil => simp [late, waits]
  | cons slot rest ih =>
      have values (reported : Option α) :
          (reported.toList.map (Sum.inl (β := β))).filterMap Sum.getLeft? =
            reported.toList := by
        cases reported <;> rfl
      cases slot with
      | signal value =>
          simp [late, waits, List.filterMap_cons, Slot.completed, ih]
      | tick completes =>
          have once : (completes.filter (!keeps ·)).toList ++
              (completes.filter keeps).toList = completes.toList := by
            cases completes with
            | none => rfl
            | some value =>
                cases kept : keeps value <;> simp [Option.filter, kept]
          simp only [late, waits, List.filterMap_append, values,
            List.append_assoc, ih]
          rw [← List.append_assoc (completes.filter (!keeps ·)).toList, once]
          cases completes <;> simp [List.filterMap_cons, Slot.completed]

/-- All values are reported if and only if none waits. -/
theorem late_values_eq_iff (keeps : α → Bool) (waiting : Option α)
    (slots : List (Slot α β)) :
    (late keeps waiting slots).filterMap Sum.getLeft? =
        waiting.toList ++ slots.filterMap Slot.completed ↔
      waits keeps waiting slots = none := by
  rw [← late_values keeps waiting slots, List.self_eq_append_right,
    Option.toList_eq_nil_iff]

section Followed

variable (keeps : α → Bool)

theorem followed_nil : Followed keeps ([] : List (Slot α β)) := by
  intro before value after split
  simp at split

/-- Being followed, slot by slot. -/
theorem followed_cons (slot : Slot α β) (rest : List (Slot α β)) :
    Followed keeps (slot :: rest) ↔
      (∀ value, slot = .tick (some value) → keeps value = true →
        TickFirst rest) ∧ Followed keeps rest := by
  constructor
  · intro followed
    refine ⟨fun value same kept => ?_, fun before value after split kept => ?_⟩
    · exact followed [] value rest (by rw [same]; rfl) kept
    · exact followed (slot :: before) value after (by rw [split]; rfl) kept
  · rintro ⟨head, tail⟩ before value after split kept
    cases before with
    | nil =>
        cases split
        exact head value rfl kept
    | cons first before =>
        cases split
        exact tail before value after rfl kept

theorem followed_signal (value : β) (rest : List (Slot α β)) :
    Followed keeps (.signal value :: rest) ↔ Followed keeps rest := by
  simp [followed_cons]

theorem followed_tick_none (rest : List (Slot α β)) :
    Followed keeps (.tick none :: rest) ↔ Followed keeps rest := by
  simp [followed_cons]

theorem followed_tick_some (value : α) (rest : List (Slot α β)) :
    Followed keeps (.tick (some value) :: rest) ↔
      (keeps value = true → TickFirst rest) ∧ Followed keeps rest := by
  simp [followed_cons]

/-- The reports are right exactly if nothing waits for too long. -/
theorem late_eq_iff (waiting : Option α) (slots : List (Slot α β)) :
    late keeps waiting slots = waiting.toList.map .inl ++ prompt slots ↔
      (waiting.isSome → TickFirst slots) ∧ Followed keeps slots := by
  induction slots generalizing waiting with
  | nil => cases waiting <;> simp [late, followed_nil]
  | cons slot rest ih =>
      cases slot with
      | signal value =>
          have tail := ih none
          cases waiting with
          | none => simpa [late, Slot.due, followed_signal] using tail
          | some first => simp [late, Slot.due]
      | tick completes =>
          simp only [late, prompt_cons, Slot.due, List.append_assoc,
            List.append_cancel_left_eq, tickFirst_tick, implies_true,
            true_and]
          cases completes with
          | none => simpa [followed_tick_none] using ih none
          | some value =>
              rw [followed_tick_some]
              cases kept : keeps value with
              | false => simpa [Option.filter, kept] using ih none
              | true => simpa [Option.filter, kept] using ih (some value)

/-- Nothing waits at the start. -/
theorem late_eq_prompt_iff (slots : List (Slot α β)) :
    late keeps none slots = prompt slots ↔ Followed keeps slots := by
  simpa using late_eq_iff keeps none slots

end Followed

end OpenVizsla.Foundation.Delay
