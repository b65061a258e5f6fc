import Mathlib

/-!
# Values that are written one after the other

A list of items, each of which may give one key of a function a new value.  In
the end a key has the value that the last item for it has given.
-/

namespace OpenVizsla.Foundation.Updates

variable {ι α β : Type*} [DecidableEq α]

/-- What an item does to the function. -/
def write (effect : ι → Option (α × β)) (values : α → β) (item : ι) : α → β :=
  match effect item with
  | some (key, value) => Function.update values key value
  | none => values

/-- The function after all items. -/
def written (effect : ι → Option (α × β)) (start : α → β) (items : List ι) :
    α → β :=
  items.foldl (write effect) start

/-- The last item for a key gives it this value. -/
def LastWrite (effect : ι → Option (α × β)) (items : List ι) (key : α)
    (value : β) : Prop :=
  ∃ before item after, items = before ++ item :: after ∧
    effect item = some (key, value) ∧
    ∀ later ∈ after, ∀ other, effect later ≠ some (key, other)

variable {effect : ι → Option (α × β)} {start : α → β}

theorem write_of_some {values : α → β} {item : ι} {key : α} {value : β}
    (writes : effect item = some (key, value)) :
    write effect values item = Function.update values key value := by
  rw [write, writes]

/-- A key keeps its value unless the item is for it. -/
theorem write_of_not {values : α → β} {item : ι} {key : α}
    (other : ∀ value, effect item ≠ some (key, value)) :
    write effect values item key = values key := by
  cases writes : effect item with
  | none => rw [write, writes]
  | some change =>
      rcases change with ⟨key', value⟩
      rw [write_of_some writes]
      refine Function.update_of_ne ?_ _ _
      rintro rfl
      exact other value writes

/-- Either no item is for a key, or the last one counts. -/
theorem written_cases (effect : ι → Option (α × β)) (start : α → β)
    (items : List ι) (key : α) :
    (written effect start items key = start key ∧
        ∀ item ∈ items, ∀ value, effect item ≠ some (key, value)) ∨
      LastWrite effect items key (written effect start items key) := by
  induction items using List.reverseRecOn with
  | nil => exact .inl ⟨rfl, by simp⟩
  | append_singleton items item ih =>
      have snoc : written effect start (items ++ [item]) =
          write effect (written effect start items) item := by
        rw [written, List.foldl_append]
        rfl
      rw [snoc]
      by_cases writes : ∃ value, effect item = some (key, value)
      · rcases writes with ⟨value, writes⟩
        rw [write_of_some writes, Function.update_self]
        exact .inr ⟨items, item, [], rfl, writes, by simp⟩
      · have other (value : β) : effect item ≠ some (key, value) :=
          fun same => writes ⟨value, same⟩
        rw [write_of_not other]
        rcases ih with ⟨kept, none'⟩ | ⟨before, last, after, rfl, gives, rest⟩
        · refine .inl ⟨kept, fun later member => ?_⟩
          rcases List.mem_append.mp member with member | member
          · exact none' later member
          · rw [List.mem_singleton.mp member]
            exact other
        · refine .inr ⟨before, last, after ++ [item], by simp, gives, ?_⟩
          intro later member
          rcases List.mem_append.mp member with member | member
          · exact rest later member
          · rw [List.mem_singleton.mp member]
            exact other

end OpenVizsla.Foundation.Updates
