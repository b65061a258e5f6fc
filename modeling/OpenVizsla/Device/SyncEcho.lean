import OpenVizsla.Foundation.CallRules
import OpenVizsla.Foundation.Restarts
import OpenVizsla.Device.Cha

/-!
# The search for the echo

`cha_sync_stream` sends a message and looks for its echo in what the device
sends.  A byte that does not continue an attempt is not taken for the first
byte of the next one, so that an echo is missed when an attempt is under way
where it begins.
-/

namespace OpenVizsla.Device.SyncEcho

open OpenVizsla.Foundation.Calls
open OpenVizsla.Foundation.Restarts
open OpenVizsla.Register.Message
open OpenVizsla.Device.State
open OpenVizsla.Device.Cha

/-! ## The matching of bytes -/

/-- The matching is a search with restarts. -/
theorem matchBytes_eq_search {msg : List UInt8} (five : msg.length = 5)
    (seen : Nat) (buf : List UInt8) :
    matchBytes msg seen buf = search msg seen buf := by
  induction buf generalizing seen with
  | nil => rfl
  | cons byte buf ih =>
      rw [matchBytes, search, five, ← ih]
      rfl

/-! ## The read loop -/

/-- The bytes of some reads. -/
def stream (reads : List (List UInt8)) : List UInt8 :=
  reads.flatMap fun data => (delivered data).received 32

@[simp]
theorem stream_cons (data : List UInt8) (reads : List (List UInt8)) :
    stream (data :: reads) = (delivered data).received 32 ++ stream reads :=
  List.flatMap_cons

/-- The body of the loop. -/
def syncRound (msg : List UInt8) (seen : Nat) : Action (Nat ⊕ Unit) := do
  let buf ← chaReadData 32
  let seen := matchBytes msg seen buf
  pure (if seen = 5 then .inr () else .inl seen)

/-- The loop when a part of the message has been seen. -/
def syncFrom (msg : List UInt8) (seen : Nat) : Action Unit :=
  Program.loop (syncRound msg)
    (fun _ => (Program.asks_bind (chaReadData_asks 32)).paced) seen

section Loop

variable {msg : List UInt8} {seen : Nat} {memory : Memory}
    {reads : List (List UInt8)} {count : Nat}

/-- The search comes to its end with the last read. -/
def EndsWith (msg : List UInt8) (seen : Nat) (reads : List (List UInt8)) :
    Prop :=
  search msg seen (stream reads) = 5 ∧
    ∀ count < reads.length, search msg seen (stream (reads.take count)) ≠ 5

theorem syncRound_run (five : msg.length = 5) (seen : Nat)
    (memory : Memory) (data : List UInt8) (rest : List Answer) :
    (syncRound msg seen).run memory (delivered data :: rest) =
      { calls := [(.ftdi .a (.readData 32), delivered data)]
        ending := .returned
          (if search msg seen ((delivered data).received 32) = 5 then .inr ()
          else .inl (search msg seen ((delivered data).received 32)))
        state := memory
        rest := rest } := by
  have succeeded : ¬ (delivered data).ret < 0 := by
    simp [delivered]
  simp only [syncRound, matchBytes_eq_search five, chaReadData, chaFtdi,
    Program.run_bind, Program.call, Outcome.andThen, if_neg succeeded,
    Program.run_pure, List.append_nil]

theorem syncFrom_eq (msg : List UInt8) (seen : Nat) :
    syncFrom msg seen = syncRound msg seen >>= fun step =>
      step.elim (fun next => syncFrom msg next) fun value => pure value :=
  Program.loop_eq _ _ seen

/-- The rest of the search behind one read. -/
theorem search_stream_cons (five : msg.length = 5) (inside : seen < 5)
    {data : List UInt8}
    (unfound : search msg seen ((delivered data).received 32) ≠ 5)
    (reads : List (List UInt8)) :
    search msg seen (stream (data :: reads)) =
      search msg (search msg seen ((delivered data).received 32))
        (stream reads) := by
  rw [← five] at inside unfound
  rw [stream_cons, search_append inside, if_neg unfound]

/-- The search is not over before the read, and then it goes on. -/
theorem search_ne_cons (five : msg.length = 5) (inside : seen < 5)
    {data : List UInt8}
    (unfound : search msg seen ((delivered data).received 32) ≠ 5)
    (rest : search msg (search msg seen ((delivered data).received 32))
      (stream (reads.take count)) ≠ 5) :
    search msg seen (stream ((data :: reads).take (count + 1))) ≠ 5 := by
  rw [List.take_succ_cons, search_stream_cons five inside unfound]
  exact rest

theorem endsWith_singleton (inside : seen < 5) {data : List UInt8}
    (found : search msg seen ((delivered data).received 32) = 5) :
    EndsWith msg seen [data] := by
  constructor
  · rw [stream, List.flatMap_singleton]
    exact found
  · intro count before
    rw [List.length_singleton, Nat.lt_one_iff] at before
    rw [before]
    exact inside.ne

theorem EndsWith.cons (five : msg.length = 5) (inside : seen < 5)
    {data : List UInt8}
    (unfound : search msg seen ((delivered data).received 32) ≠ 5)
    (ends : EndsWith msg
      (search msg seen ((delivered data).received 32)) reads) :
    EndsWith msg seen (data :: reads) := by
  constructor
  · rw [search_stream_cons five inside unfound]
    exact ends.1
  · intro count before
    cases count with
    | zero => exact inside.ne
    | succ count =>
        exact search_ne_cons five inside unfound
          (ends.2 count (Nat.lt_of_succ_lt_succ before))

/-- The loop ends with the first read that completes the search. -/
theorem syncFrom_run (five : msg.length = 5) (inside : seen < 5)
    (memory : Memory) (reads : List (List UInt8)) :
    (∃ count ≤ reads.length, EndsWith msg seen (reads.take count) ∧
        ∃ calls, (syncFrom msg seen).run memory (reads.map delivered) =
          { calls := calls
            ending := .returned ()
            state := memory
            rest := (reads.drop count).map delivered }) ∨
      (∀ count ≤ reads.length,
          search msg seen (stream (reads.take count)) ≠ 5) ∧
        ∃ calls, (syncFrom msg seen).run memory (reads.map delivered) =
          { calls := calls
            ending := .stopped (.waiting (.ftdi .a (.readData 32)))
            state := memory
            rest := [] } := by
  induction reads generalizing seen with
  | nil =>
      refine .inr ⟨?_, [], ?_⟩
      · intro count _
        rw [List.take_nil]
        exact inside.ne
      · rw [syncFrom_eq]
        rfl
  | cons data reads ih =>
      have round := syncRound_run five seen memory data (reads.map delivered)
      rw [syncFrom_eq, Program.run_bind, List.map_cons, round]
      by_cases found : search msg seen ((delivered data).received 32) = 5
      · simp only [found, Outcome.andThen, Program.run_pure, if_true,
          Sum.elim_inr]
        exact .inl ⟨1, by simp, endsWith_singleton inside found, _, rfl⟩
      · simp only [if_neg found, Outcome.andThen, Sum.elim_inl]
        have inside' : search msg seen ((delivered data).received 32) < 5 := by
          rw [← five] at inside found ⊢
          exact lt_of_le_of_ne (search_le inside _) found
        rcases ih inside' with
          ⟨count, most, ends, calls, run⟩ | ⟨never, calls, run⟩
        · rw [run]
          exact .inl ⟨count + 1, Nat.succ_le_succ most,
            ends.cons five inside found, _, rfl⟩
        · rw [run]
          refine .inr ⟨fun count most => ?_, _, rfl⟩
          cases count with
          | zero => exact inside.ne
          | succ count =>
              exact search_ne_cons five inside found
                (never count (Nat.le_of_succ_le_succ most))

end Loop

/-! ## The function -/

/-- After these reads, the function has left its read loop, not before. -/
def FinishesOn (addr : UInt16) (memory : Memory)
    (reads : List (List UInt8)) : Prop :=
  ((chaSyncStream addr).run memory
      (counted 0 :: counted 5 :: reads.map delivered)).ending =
    .stopped (.waiting (.ftdi .a .tcioflush))

theorem syncMessage_length (addr : UInt16) : (syncMessage addr).length = 5 :=
  rfl

theorem finishesOn_iff (addr : UInt16) (memory : Memory)
    (reads : List (List UInt8)) :
    FinishesOn addr memory reads ↔ EndsWith (syncMessage addr) 0 reads := by
  have run : ((chaSyncStream addr).run memory
        (counted 0 :: counted 5 :: reads.map delivered)).ending =
      ((syncFrom (syncMessage addr) 0 >>= fun _ =>
        chaFtdi .tcioflush >>= fun _ => pure () : Action Unit).run memory
          (reads.map delivered)).ending := rfl
  rw [FinishesOn, run, Program.run_bind]
  rcases syncFrom_run (syncMessage_length addr) (Nat.zero_lt_succ 4) memory
    reads with ⟨count, most, ends, calls, run⟩ | ⟨never, calls, run⟩
  · rw [run]
    simp only [Outcome.andThen]
    by_cases all : count = reads.length
    · rw [all, List.take_length] at ends
      rw [all, List.drop_length]
      exact iff_of_true rfl ends
    · have less : count < reads.length := lt_of_le_of_ne most all
      have none' : ¬ EndsWith (syncMessage addr) 0 reads :=
        fun whole => whole.2 count less ends.1
      refine iff_of_false ?_ none'
      -- the second flush takes the next answer
      rw [List.drop_eq_getElem_cons less, List.map_cons]
      have succeeded : ¬ (delivered reads[count]).ret < 0 := by
        simp [delivered]
      simp [chaFtdi, Program.run_bind, Program.call, Outcome.andThen,
        succeeded, Program.run_pure]
  · rw [run]
    have last := never reads.length le_rfl
    rw [List.take_length] at last
    refine iff_of_false ?_ fun whole => last whole.1
    intro finished
    cases finished

/-! ## The echo -/

/-- The message has occurred with this read, and not with one before. -/
def FirstOccurs (msg : List UInt8) (reads : List (List UInt8))
    (count : Nat) : Prop :=
  msg <:+: stream (reads.take count) ∧
    ∀ before < count, ¬ msg <:+: stream (reads.take before)

/-- The function leaves its read loop with the read that brings the echo. -/
def FindsEcho (addr : UInt16) (memory : Memory)
    (reads : List (List UInt8)) : Prop :=
  ∀ count ≤ reads.length,
    FinishesOn addr memory (reads.take count) ↔
      FirstOccurs (syncMessage addr) reads count

/-- What is before the message consists of abandoned attempts. -/
def Clear (msg bytes : List UInt8) : Prop :=
  ∃ before after, Settled msg before ∧ bytes = before ++ (msg ++ after)

section Echo

variable {msg bytes : List UInt8} {reads : List (List UInt8)} {count : Nat}

theorem Clear.isInfix (clear : Clear msg bytes) : msg <:+: bytes := by
  rcases clear with ⟨before, after, -, rfl⟩
  exact ⟨before, after, List.append_assoc _ _ _⟩

theorem search_eq_five_iff (addr : UInt16) (bytes : List UInt8) :
    search (syncMessage addr) 0 bytes = 5 ↔ Clear (syncMessage addr) bytes :=
  search_eq_length_iff (List.cons_ne_nil _ _) bytes

/-- The read loop ends with the first clear occurrence. -/
theorem finishesOn_take_iff (addr : UInt16) (memory : Memory)
    (within : count ≤ reads.length) :
    FinishesOn addr memory (reads.take count) ↔
      Clear (syncMessage addr) (stream (reads.take count)) ∧
        ∀ before < count,
          ¬ Clear (syncMessage addr) (stream (reads.take before)) := by
  rw [finishesOn_iff, EndsWith, search_eq_five_iff, List.length_take,
    Nat.min_eq_left within]
  refine and_congr_right fun _ => forall₂_congr fun before less => ?_
  rw [List.take_take, Nat.min_eq_left less.le, ← search_eq_five_iff]

/-- An occurrence has a first read with which it has occurred. -/
theorem exists_firstOccurs
    (occurs : msg <:+: stream (reads.take count)) :
    ∃ first ≤ count, FirstOccurs msg reads first := by
  classical
  have some' : ∃ first, msg <:+: stream (reads.take first) := ⟨count, occurs⟩
  refine ⟨Nat.find some', Nat.find_min' some' occurs, Nat.find_spec some', ?_⟩
  exact fun before less => Nat.find_min some' less

end Echo

/--
The function finds the echo exactly when, with the first read after which the
message has occurred, it has occurred behind nothing but abandoned attempts.
-/
theorem findsEcho_iff (addr : UInt16) (memory : Memory)
    (reads : List (List UInt8)) :
    FindsEcho addr memory reads ↔
      ∀ count ≤ reads.length, FirstOccurs (syncMessage addr) reads count →
        ∃ before after, Settled (syncMessage addr) before ∧
          stream (reads.take count) =
            before ++ (syncMessage addr ++ after) := by
  constructor
  · intro finds count within first
    exact ((finishesOn_take_iff addr memory within).mp
      ((finds count within).mpr first)).1
  · intro clear count within
    rw [finishesOn_take_iff addr memory within]
    constructor
    · rintro ⟨ends, earlier⟩
      rcases exists_firstOccurs ends.isInfix with ⟨first, most, occurs⟩
      have found := clear first (most.trans within) occurs
      rcases most.lt_or_eq with less | rfl
      · exact absurd found (earlier first less)
      · exact occurs
    · intro first
      refine ⟨clear count within first, fun before less found => ?_⟩
      exact first.2 before less found.isInfix

/-- The echo of address 0 behind another 0x55. -/
theorem doubledMagic_not_found :
    ¬ FindsEcho 0x0000 Memory.zeroed
      [[0x55, 0x55, 0x00, 0x00, 0x00, 0x55]] := by
  intro finds
  have occurs : FirstOccurs (syncMessage 0x0000)
      [[0x55, 0x55, 0x00, 0x00, 0x00, 0x55]] 1 := by
    refine ⟨⟨[0x55], [], rfl⟩, fun before less => ?_⟩
    rw [Nat.lt_one_iff.mp less]
    intro nothing
    cases List.infix_nil.mp nothing
  have ends := (finishesOn_iff _ _ _).mp ((finds 1 le_rfl).mpr occurs)
  have unfound : search (syncMessage 0x0000) 0
      (stream [[0x55, 0x55, 0x00, 0x00, 0x00, 0x55]]) ≠ 5 := by
    decide +kernel
  exact unfound ends.1

end OpenVizsla.Device.SyncEcho
