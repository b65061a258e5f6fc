import Mathlib

/-!
# Searching with restarts

A pattern is looked for in a stream.  The search counts how much of the
pattern it has seen, and starts all over with the next item when an item does
not fit, so that it never looks at an item twice.  It finds an occurrence
exactly when no attempt is under way where the occurrence begins.
-/

namespace OpenVizsla.Foundation.Restarts

variable {α : Type*} {pattern : List α}

/-! ## Attempts -/

/-- An attempt that is given up: it begins like the pattern and then differs. -/
def Abandoned (pattern attempt : List α) : Prop :=
  ∃ seen item, seen < pattern.length ∧ pattern[seen]? ≠ some item ∧
    attempt = pattern.take seen ++ [item]

/-- Nothing but abandoned attempts. -/
def Settled (pattern items : List α) : Prop :=
  ∃ attempts : List (List α), items = attempts.flatten ∧
    ∀ attempt ∈ attempts, Abandoned pattern attempt

theorem settled_nil : Settled pattern [] :=
  ⟨[], rfl, by simp⟩

theorem Settled.snoc {items : List α} (settled : Settled pattern items)
    {seen : Nat} {item : α} (inside : seen < pattern.length)
    (differs : pattern[seen]? ≠ some item) :
    Settled pattern (items ++ (pattern.take seen ++ [item])) := by
  rcases settled with ⟨attempts, rfl, abandoned⟩
  refine ⟨attempts ++ [pattern.take seen ++ [item]], by simp, ?_⟩
  intro attempt member
  rcases List.mem_append.mp member with member | member
  · exact abandoned attempt member
  · exact ⟨seen, item, inside, differs, List.mem_singleton.mp member⟩

/-! ## The search -/

variable [DecidableEq α]

/-- How much of the pattern is seen after one more item. -/
def advance (pattern : List α) (seen : Nat) (item : α) : Nat :=
  if pattern[seen]? = some item then seen + 1 else 0

/-- How much is seen after some items.  The search ends with the pattern. -/
def search (pattern : List α) : Nat → List α → Nat
  | seen, [] => seen
  | seen, item :: items =>
      if advance pattern seen item = pattern.length then pattern.length
      else search pattern (advance pattern seen item) items

theorem advance_le {seen : Nat} (inside : seen < pattern.length) (item : α) :
    advance pattern seen item ≤ pattern.length := by
  unfold advance
  split
  · exact inside
  · exact Nat.zero_le _

theorem search_cons_of_fits {seen : Nat} {item : α}
    (fits : pattern[seen]? = some item) (items : List α) :
    search pattern seen (item :: items) =
      if seen + 1 = pattern.length then pattern.length
      else search pattern (seen + 1) items := by
  rw [search, advance, if_pos fits]

theorem search_cons_of_differs {seen : Nat} {item : α}
    (inside : seen < pattern.length) (differs : pattern[seen]? ≠ some item)
    (items : List α) :
    search pattern seen (item :: items) = search pattern 0 items := by
  have nonempty : 0 ≠ pattern.length :=
    (lt_of_le_of_lt (Nat.zero_le seen) inside).ne
  rw [search, advance, if_neg differs, if_neg nonempty]

/-- A part of the pattern is seen. -/
theorem search_take {seen : Nat} (inside : seen < pattern.length)
    (items : List α) :
    search pattern 0 (pattern.take seen ++ items) =
      search pattern seen items := by
  induction seen generalizing items with
  | zero => rfl
  | succ seen ih =>
      have before : seen < pattern.length := Nat.lt_of_succ_lt inside
      have fits : pattern[seen]? = some pattern[seen] :=
        List.getElem?_eq_getElem before
      rw [← List.take_append_getElem before, List.append_assoc, ih before,
        List.singleton_append, search_cons_of_fits fits,
        if_neg inside.ne]

/-- The whole pattern is seen. -/
theorem search_pattern (nonempty : pattern ≠ []) (items : List α) :
    search pattern 0 (pattern ++ items) = pattern.length := by
  have positive := List.length_pos_iff.mpr nonempty
  have inside : pattern.length - 1 < pattern.length :=
    Nat.sub_one_lt positive.ne'
  have last : pattern.length - 1 + 1 = pattern.length :=
    Nat.sub_add_cancel positive
  have fits : pattern[pattern.length - 1]? =
      some pattern[pattern.length - 1] := List.getElem?_eq_getElem inside
  have whole : pattern.take (pattern.length - 1) ++
      [pattern[pattern.length - 1]] = pattern := by
    rw [List.take_append_getElem inside, last, List.take_length]
  have cut : pattern ++ items = pattern.take (pattern.length - 1) ++
      pattern[pattern.length - 1] :: items := by
    rw [← List.singleton_append, ← List.append_assoc, whole]
  rw [cut, search_take inside, search_cons_of_fits fits, if_pos last]

/-- An abandoned attempt leaves no trace. -/
theorem search_abandoned {attempt : List α}
    (abandoned : Abandoned pattern attempt) (items : List α) :
    search pattern 0 (attempt ++ items) = search pattern 0 items := by
  rcases abandoned with ⟨seen, item, inside, differs, rfl⟩
  rw [List.append_assoc, search_take inside, List.singleton_append,
    search_cons_of_differs inside differs]

theorem search_settled {items : List α} (settled : Settled pattern items)
    (rest : List α) :
    search pattern 0 (items ++ rest) = search pattern 0 rest := by
  rcases settled with ⟨attempts, rfl, abandoned⟩
  induction attempts with
  | nil => rfl
  | cons attempt attempts ih =>
      rw [List.flatten_cons, List.append_assoc,
        search_abandoned (abandoned attempt List.mem_cons_self)]
      exact ih fun later member =>
        abandoned later (List.mem_cons_of_mem attempt member)

theorem search_le {seen : Nat} (inside : seen < pattern.length)
    (items : List α) : search pattern seen items ≤ pattern.length := by
  induction items generalizing seen with
  | nil => exact inside.le
  | cons item items ih =>
      rw [search]
      by_cases last : advance pattern seen item = pattern.length
      · rw [if_pos last]
      · rw [if_neg last]
        exact ih (lt_of_le_of_ne (advance_le inside item) last)

/-- The search may pause. -/
theorem search_append {seen : Nat} (inside : seen < pattern.length)
    (first second : List α) :
    search pattern seen (first ++ second) =
      if search pattern seen first = pattern.length then pattern.length
      else search pattern (search pattern seen first) second := by
  induction first generalizing seen with
  | nil => rw [search, if_neg inside.ne, List.nil_append]
  | cons item first ih =>
      rw [List.cons_append, search, search]
      by_cases last : advance pattern seen item = pattern.length
      · rw [if_pos last, if_pos last, if_pos rfl]
      · rw [if_neg last, if_neg last]
        exact ih (lt_of_le_of_ne (advance_le inside item) last)

/-! ## What the search finds -/

/-- What has gone by, when the search has not come to its end. -/
theorem search_found {seen : Nat} {before items : List α}
    (inside : seen < pattern.length) (settled : Settled pattern before)
    (found : search pattern seen items = pattern.length) :
    ∃ before' after, Settled pattern before' ∧
      before ++ (pattern.take seen ++ items) =
        before' ++ (pattern ++ after) := by
  induction items generalizing seen before with
  | nil => exact absurd found inside.ne
  | cons item items ih =>
      by_cases fits : pattern[seen]? = some item
      · rw [search_cons_of_fits fits] at found
        have same : pattern[seen] = item :=
          Option.some.inj ((List.getElem?_eq_getElem inside).symm.trans fits)
        have longer : pattern.take seen ++ item :: items =
            pattern.take (seen + 1) ++ items := by
          rw [← List.take_append_getElem inside, same, List.append_assoc,
            List.singleton_append]
        rw [longer]
        by_cases last : seen + 1 = pattern.length
        · rw [last, List.take_length]
          exact ⟨before, items, settled, rfl⟩
        · rw [if_neg last] at found
          exact ih (lt_of_le_of_ne inside last) settled found
      · rw [search_cons_of_differs inside fits] at found
        have nonempty : 0 < pattern.length :=
          lt_of_le_of_lt (Nat.zero_le seen) inside
        obtain ⟨before', after, settled', same⟩ :=
          ih nonempty (settled.snoc inside fits) found
        refine ⟨before', after, settled', ?_⟩
        rw [← same]
        simp

/-- The pattern is found where no attempt is under way. -/
theorem search_eq_length_iff (nonempty : pattern ≠ []) (items : List α) :
    search pattern 0 items = pattern.length ↔
      ∃ before after, Settled pattern before ∧
        items = before ++ (pattern ++ after) := by
  constructor
  · intro found
    exact search_found (List.length_pos_iff.mpr nonempty) settled_nil found
  · rintro ⟨before, after, settled, rfl⟩
    rw [search_settled settled, search_pattern nonempty]

end OpenVizsla.Foundation.Restarts
