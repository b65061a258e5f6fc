import OpenVizsla.Foundation.CallRules
import OpenVizsla.Foundation.Runs
import OpenVizsla.Device.Cha

/-!
# Register transactions

`cha_transaction` writes a request of five bytes and reads the response into
the same buffer.  It reads until there is something, not until there are five
bytes.
-/

namespace OpenVizsla.Device.Transaction

open OpenVizsla.Foundation.Calls
open OpenVizsla.Foundation.Runs
open OpenVizsla.Register.Message
open OpenVizsla.Device.State
open OpenVizsla.Device.Cha

/-! ## The read loop -/

/-- A read that gives nothing. -/
def Idle (answer : Answer) : Prop :=
  ¬ answer.ret < 0 ∧ answer.received 5 = []

instance (answer : Answer) : Decidable (Idle answer) :=
  inferInstanceAs (Decidable (_ ∧ _))

/-- The calls of the loop. -/
def readCalls (reads : List Answer) : List (Call × Answer) :=
  reads.map fun answer => (.ftdi .a (.readData 5), answer)

/-- The buffer when something has been read over the request. -/
def filled (msg got : List UInt8) : List UInt8 :=
  got ++ msg.drop got.length

/-- How the loop ends with the first read that is not idle. -/
def readEnding (msg : List UInt8) (read : Answer) :
    Ending Call (List UInt8) :=
  if read.ret < 0 then .stopped .failed
  else .returned (filled msg (read.received 5))

section Loop

variable {msg : List UInt8} {memory : Memory} {read : Answer}
    {reads waits rest : List Answer}

/-- The body of the loop. -/
def readRound (msg : List UInt8) : Action (List UInt8 ⊕ List UInt8) := do
  let buf ← chaReadData 5
  pure (if buf = [] then .inl msg else .inr (buf ++ msg.drop buf.length))

theorem transactionReads_eq (msg : List UInt8) :
    transactionReads msg = readRound msg >>= fun step =>
      step.elim (fun next => transactionReads next) fun value => pure value :=
  Program.loop_eq _ _ msg

theorem readRound_idle (idle : Idle read) :
    (readRound msg).run memory (read :: rest) =
      { calls := readCalls [read]
        ending := .returned (.inl msg)
        state := memory
        rest := rest } := by
  rcases idle with ⟨succeeded, nothing⟩
  simp [readRound, chaReadData, chaFtdi, Program.run_bind, Program.call,
    Program.run_pure, Outcome.andThen, succeeded, nothing, readCalls]

/-- Reads that give nothing are repeated. -/
theorem transactionReads_idle (msg : List UInt8) (memory : Memory)
    (rest : List Answer) (idle : ∀ answer ∈ waits, Idle answer) :
    (transactionReads msg).run memory (waits ++ rest) =
      let reached := (transactionReads msg).run memory rest
      { reached with calls := readCalls waits ++ reached.calls } := by
  induction waits with
  | nil => rfl
  | cons read waits ih =>
      have first := idle read List.mem_cons_self
      have others := ih fun answer member =>
        idle answer (List.mem_cons_of_mem _ member)
      have round : (transactionReads msg).run memory
            (read :: waits ++ rest) =
          ((readRound msg).run memory (read :: (waits ++ rest))).andThen
            fun step => (step.elim (fun next => transactionReads next)
              fun value => pure value : Action (List UInt8)).run := by
        rw [transactionReads_eq]
        rfl
      rw [round, readRound_idle first]
      simp only [Outcome.andThen, Sum.elim_inl, others]
      rfl

/-- The first read that gives something ends the loop, as does a failure. -/
theorem transactionReads_read (msg : List UInt8) (memory : Memory)
    (rest : List Answer) (busy : ¬ Idle read) :
    ∃ reached, (transactionReads msg).run memory (read :: rest) =
      { calls := readCalls [read]
        ending := readEnding msg read
        state := reached
        rest := rest } := by
  rw [transactionReads_eq, Program.run_bind]
  unfold readEnding
  by_cases failed : read.ret < 0
  · rw [if_pos failed]
    simp only [readRound, chaReadData, chaFtdi, Program.run_bind,
      Program.call, Outcome.andThen, if_pos failed]
    exact ⟨_, rfl⟩
  · have some' : read.received 5 ≠ [] := fun nothing => busy ⟨failed, nothing⟩
    rw [if_neg failed]
    simp only [readRound, chaReadData, chaFtdi, Program.run_bind,
      Program.call, Outcome.andThen, if_neg failed, Program.run_pure,
      if_neg some']
    exact ⟨_, rfl⟩

theorem transactionReads_waits (idle : ∀ answer ∈ waits, Idle answer) :
    ((transactionReads msg).run memory waits).ending.Waiting := by
  have run := transactionReads_idle msg memory [] idle
  rw [List.append_nil] at run
  rw [run, transactionReads_eq]
  trivial

/-- Either all reads are idle, or there is a first one that is not. -/
theorem idle_or_first (reads : List Answer) :
    (∀ answer ∈ reads, Idle answer) ∨
      ∃ waits read rest, reads = waits ++ read :: rest ∧
        (∀ answer ∈ waits, Idle answer) ∧ ¬ Idle read := by
  induction reads with
  | nil => exact .inl (by simp)
  | cons read reads ih =>
      by_cases idle : Idle read
      · rcases ih with all | ⟨waits, busy, rest, rfl, before, first⟩
        · exact .inl (List.forall_mem_cons.mpr ⟨idle, all⟩)
        · exact .inr ⟨read :: waits, busy, rest, rfl,
            List.forall_mem_cons.mpr ⟨idle, before⟩, first⟩
      · exact .inr ⟨[], read, reads, rfl, by simp, idle⟩

/-- A device that idle reads do not change does not notice them. -/
theorem run_idle {Device : Type} {step : Device → Call × Answer → Option Device}
    {device : Device}
    (unchanged : ∀ read, Idle read →
      step device (.ftdi .a (.readData 5), read) = some device)
    (idle : ∀ answer ∈ waits, Idle answer) (calls : List (Call × Answer)) :
    run step device (readCalls waits ++ calls) = run step device calls := by
  induction waits with
  | nil => rfl
  | cons read waits ih =>
      have same := unchanged read (idle read List.mem_cons_self)
      have others := ih fun answer member =>
        idle answer (List.mem_cons_of_mem _ member)
      show run step device
        ((.ftdi .a (.readData 5), read) :: (readCalls waits ++ calls)) = _
      rw [run_cons, same, Option.bind_some, others]

end Loop

/-! ## The function -/

/-- How a transaction ends with the first read that is not idle. -/
def transactionEnding (request : List UInt8) (read : Answer) :
    Ending Call UInt8 :=
  let msg := filled request (read.received 5)
  if read.ret < 0 then .stopped .failed
  else if chaTransactionChecksum (msg.take 4) = msg.getD 4 0 then
    .returned (msg.getD 3 0)
  else .stopped .failed

section Function

variable {addr : UInt16} {inVal : UInt8} {memory : Memory}
    {write read : Answer} {waits rest : List Answer}

/-- What follows the write. -/
def transactionRest (addr : UInt16) (inVal : UInt8) : Action UInt8 := do
  let msg ← transactionReads (transactionMessage addr inVal)
  if chaTransactionChecksum (msg.take 4) ≠ msg.getD 4 0 then
    chaFail "Wrong checksum"
  else
    pure (msg.getD 3 0)

theorem chaTransaction_written (written : ¬ write.ret < 0) :
    (chaTransaction addr inVal).run memory (write :: rest) =
      let reached := (transactionRest addr inVal).run memory rest
      { reached with
        calls :=
          (.ftdi .a (.writeData (transactionMessage addr inVal)), write) ::
            reached.calls } := by
  have step : (chaTransaction addr inVal).run memory (write :: rest) =
      ((chaFtdi (.writeData (transactionMessage addr inVal))).run memory
        (write :: rest)).andThen fun _ => (transactionRest addr inVal).run :=
    rfl
  rw [step]
  simp [chaFtdi, Program.run_bind, Program.call, Outcome.andThen, written,
    Program.run_pure]

/-- A transaction ends without a read when the write fails. -/
theorem chaTransaction_unwritten (addr : UInt16) (inVal : UInt8)
    (memory : Memory) (rest : List Answer) (unwritten : write.ret < 0) :
    ∃ reached, (chaTransaction addr inVal).run memory (write :: rest) =
      { calls := [(.ftdi .a (.writeData (transactionMessage addr inVal)),
          write)]
        ending := .stopped .failed
        state := reached
        rest := rest } := by
  have step : (chaTransaction addr inVal).run memory (write :: rest) =
      ((chaFtdi (.writeData (transactionMessage addr inVal))).run memory
        (write :: rest)).andThen fun _ => (transactionRest addr inVal).run :=
    rfl
  rw [step]
  simp only [chaFtdi, Program.run_bind, Program.call, Outcome.andThen,
    if_pos unwritten]
  exact ⟨_, rfl⟩

/-- Otherwise it ends with the first read that is not idle. -/
theorem chaTransaction_run (addr : UInt16) (inVal : UInt8)
    (memory : Memory) (waits rest : List Answer) (written : ¬ write.ret < 0)
    (idle : ∀ answer ∈ waits, Idle answer) (busy : ¬ Idle read) :
    ∃ reached, (chaTransaction addr inVal).run memory
        (write :: (waits ++ read :: rest)) =
      { calls :=
          (.ftdi .a (.writeData (transactionMessage addr inVal)), write) ::
            readCalls (waits ++ [read])
        ending := transactionEnding (transactionMessage addr inVal) read
        state := reached
        rest := rest } := by
  obtain ⟨reached, last⟩ := transactionReads_read
    (transactionMessage addr inVal) memory rest busy
  have reads := transactionReads_idle (transactionMessage addr inVal) memory
    (read :: rest) idle
  rw [last] at reads
  have calls : readCalls (waits ++ [read]) =
      readCalls waits ++ readCalls [read] := List.map_append
  rw [chaTransaction_written written, transactionRest, Program.run_bind,
    reads, calls]
  unfold readEnding transactionEnding
  by_cases failed : read.ret < 0
  · simp only [Outcome.andThen, if_pos failed]
    exact ⟨_, rfl⟩
  · simp only [Outcome.andThen, if_neg failed]
    by_cases same : chaTransactionChecksum
        ((filled (transactionMessage addr inVal) (read.received 5)).take 4) =
      (filled (transactionMessage addr inVal) (read.received 5)).getD 4 0
    · rw [if_pos same, if_neg (not_not.mpr same), Program.run_pure,
        List.append_nil]
      exact ⟨_, rfl⟩
    · rw [if_neg same, if_pos same]
      simp only [chaFail, Program.run_bind, Program.modify, Program.fail,
        Program.finish, Outcome.andThen, List.append_nil]
      exact ⟨_, rfl⟩

/-- Without a read that is not idle, it waits. -/
theorem chaTransaction_waits (written : ¬ write.ret < 0)
    (idle : ∀ answer ∈ waits, Idle answer) :
    ((chaTransaction addr inVal).run memory
      (write :: waits)).ending.Waiting := by
  have reads : ((transactionReads (transactionMessage addr inVal)).run memory
      waits).ending.Waiting := transactionReads_waits idle
  rw [chaTransaction_written written]
  show ((transactionRest addr inVal).run memory waits).ending.Waiting
  rw [transactionRest, Program.run_bind, Outcome.andThen]
  split
  · rename_i msg returned
    rw [returned] at reads
    cases reads
  · rename_i stop stopped
    rw [stopped] at reads
    exact Ending.waiting_stopped.mp reads

/-- The ways to the end of a transaction. -/
theorem chaTransaction_cases {script : List Answer}
    {outcome : Outcome Call Answer Memory UInt8}
    (run : (chaTransaction addr inVal).run memory script = outcome)
    (settled : ¬ outcome.ending.Waiting) :
    let request := Call.ftdi .a (.writeData (transactionMessage addr inVal))
    (∃ write, write.ret < 0 ∧ script = write :: outcome.rest ∧
        outcome.calls = [(request, write)] ∧
        outcome.ending = .stopped .failed) ∨
      ∃ write waits read, ¬ write.ret < 0 ∧
        (∀ answer ∈ waits, Idle answer) ∧ ¬ Idle read ∧
        script = write :: (waits ++ read :: outcome.rest) ∧
        outcome.calls =
          (request, write) :: (readCalls waits ++ readCalls [read]) ∧
        outcome.ending =
          transactionEnding (transactionMessage addr inVal) read := by
  subst run
  cases script with
  | nil => exact absurd trivial settled
  | cons write reads =>
      by_cases unwritten : write.ret < 0
      · obtain ⟨reached, run⟩ :=
          chaTransaction_unwritten addr inVal memory reads unwritten
        rw [run]
        exact .inl ⟨write, unwritten, rfl, rfl, rfl⟩
      · rcases idle_or_first reads with
          idle | ⟨waits, read, rest, rfl, idle, busy⟩
        · exact absurd (chaTransaction_waits unwritten idle) settled
        · obtain ⟨reached, run⟩ :=
            chaTransaction_run addr inVal memory waits rest unwritten idle busy
          have calls : readCalls (waits ++ [read]) =
              readCalls waits ++ readCalls [read] := List.map_append
          rw [run, calls]
          exact .inr ⟨write, waits, read, unwritten, idle, busy, rfl, rfl, rfl⟩

/-- The response in one piece takes the place of the request. -/
theorem chaTransaction_whole (addr : UInt16) (inVal : UInt8)
    {response : List UInt8} (five : response.length = 5) (memory : Memory) :
    ((chaTransaction addr inVal).run memory
        [counted 5, delivered response]).ending =
      if chaTransactionChecksum (response.take 4) = response.getD 4 0 then
        .returned (response.getD 3 0)
      else .stopped .failed := by
  have received : (delivered response).received 5 = response := by
    rw [Answer.received, delivered, ← five, List.take_length]
  have busy : ¬ Idle (delivered response) := by
    rintro ⟨-, nothing⟩
    rw [received] at nothing
    rw [nothing] at five
    cases five
  have succeeded : ¬ (delivered response).ret < 0 := by
    simp [delivered]
  have written : ¬ (counted 5).ret < 0 := by decide
  have whole : filled (transactionMessage addr inVal) response = response := by
    rw [filled, five]
    exact List.append_nil response
  obtain ⟨reached, run⟩ :=
    chaTransaction_run addr inVal memory [] [] written (by simp) busy
  have run' : (chaTransaction addr inVal).run memory
      [counted 5, delivered response] = _ := run
  rw [run', transactionEnding, received, whole, if_neg succeeded]

end Function

end OpenVizsla.Device.Transaction
