import Mathlib

/-!
# Sequences of self-delimiting records

A code whose reader finds the end of a record by itself.  What is written
record by record is read record by record, and a text that is cut off anywhere
is read up to its last complete record.
-/

namespace OpenVizsla.Foundation.Records

variable {α β : Type*}

/-- A text that is cut off ends in its first part or in its second one. -/
theorem cases_of_prefix_append {text first second : List α}
    (cut : text <+: first ++ second) :
    text <+: first ∨ ∃ rest, text = first ++ rest ∧ rest <+: second := by
  obtain ⟨lost, whole⟩ := cut
  rcases List.append_eq_append_iff.mp whole with
    ⟨middle, inFirst, -⟩ | ⟨middle, text', inSecond⟩
  · exact .inl ⟨middle, inFirst.symm⟩
  · exact .inr ⟨middle, text', lost, inSecond.symm⟩

/-- How a record is written, and how the first one of a text is read. -/
structure Code (α β : Type*) where
  write : β → List α
  read : List α → Option (β × List α)
  Valid : β → Prop
  read_write :
    ∀ value rest, Valid value →
      read (write value ++ rest) = some (value, rest)
  /-- A record that is cut off is not taken for one. -/
  read_cut :
    ∀ value part, Valid value → part <+: write value →
      part ≠ write value → read part = none
  /-- A record has at least one letter. -/
  read_shorter :
    ∀ text value rest, read text = some (value, rest) →
      rest.length < text.length

namespace Code

variable (code : Code α β)

/-- The records that a text begins with, and what is left of it. -/
def readAll (text : List α) : List β × List α :=
  match _found : code.read text with
  | none => ([], text)
  | some (value, rest) =>
      (value :: (readAll rest).1, (readAll rest).2)
termination_by text.length
decreasing_by all_goals exact code.read_shorter _ _ _ _found

/-- The text of some records. -/
def writeAll (values : List β) : List α :=
  values.flatMap code.write

theorem readAll_of_none {text : List α} (none' : code.read text = none) :
    code.readAll text = ([], text) := by
  rw [readAll]
  split
  · rfl
  · rename_i found
    rw [none'] at found
    cases found

theorem readAll_of_some {text rest : List α} {value : β}
    (found : code.read text = some (value, rest)) :
    code.readAll text =
      (value :: (code.readAll rest).1, (code.readAll rest).2) := by
  rw [readAll]
  split
  · rename_i none'
    rw [none'] at found
    cases found
  · rename_i found'
    rw [found'] at found
    cases found
    rfl

/-- There is nothing in an empty text. -/
theorem readAll_nil : code.readAll [] = ([], []) := by
  cases found : code.read [] with
  | none => exact code.readAll_of_none found
  | some first =>
      have shorter := code.read_shorter [] first.1 first.2 found
      exact absurd shorter (Nat.not_lt_zero _)

section Texts

variable {values : List β} (valid : ∀ value ∈ values, code.Valid value)
include valid

/-- Records that are written one after the other are read so. -/
theorem readAll_writeAll_append (rest : List α) :
    code.readAll (code.writeAll values ++ rest) =
      (values ++ (code.readAll rest).1, (code.readAll rest).2) := by
  induction values with
  | nil => rfl
  | cons value values ih =>
      obtain ⟨first, others⟩ := List.forall_mem_cons.mp valid
      have text : code.writeAll (value :: values) ++ rest =
          code.write value ++ (code.writeAll values ++ rest) := by
        rw [writeAll, List.flatMap_cons, List.append_assoc, writeAll]
      rw [text, code.readAll_of_some (code.read_write value _ first),
        ih others]
      rfl

theorem readAll_writeAll :
    code.readAll (code.writeAll values) = (values, []) := by
  have read := code.readAll_writeAll_append valid []
  rw [List.append_nil, readAll_nil, List.append_nil] at read
  exact read

/--
The beginning of such a text consists of some of the records, which the reader
finds, and of a part of the next one.
-/
theorem readAll_of_isPrefix {text : List α}
    (cut : text <+: code.writeAll values) :
    (code.readAll text).1 <+: values ∧
      text = code.writeAll (code.readAll text).1 ++ (code.readAll text).2 := by
  induction values generalizing text with
  | nil =>
      rw [writeAll, List.flatMap_nil, List.prefix_nil] at cut
      rw [cut, readAll_nil]
      exact ⟨List.nil_prefix, rfl⟩
  | cons value values ih =>
      obtain ⟨first, others⟩ := List.forall_mem_cons.mp valid
      rw [writeAll, List.flatMap_cons, ← writeAll] at cut
      rcases cases_of_prefix_append cut with part | ⟨rest, rfl, part⟩
      · by_cases whole : text = code.write value
        · have read := code.read_write value [] first
          rw [List.append_nil, ← whole] at read
          rw [code.readAll_of_some read, readAll_nil]
          refine ⟨List.cons_prefix_cons.mpr ⟨rfl, List.nil_prefix⟩, ?_⟩
          simp [writeAll, whole]
        · have none' := code.read_cut value text first part whole
          rw [code.readAll_of_none none']
          exact ⟨List.nil_prefix, rfl⟩
      · obtain ⟨values', split⟩ := ih others part
        rw [code.readAll_of_some (code.read_write value rest first)]
        refine ⟨List.cons_prefix_cons.mpr ⟨rfl, values'⟩, ?_⟩
        rw [writeAll, List.flatMap_cons, List.append_assoc, ← writeAll,
          ← split]

end Texts

end Code

end OpenVizsla.Foundation.Records
