import OpenVizsla.Foundation.Runs
import OpenVizsla.Device.Transaction

/-!
# Requests and their responses

A device that answers every request, behind a stream that gives its bytes in
any pieces.  A transaction takes what comes first for its response.  It is the
response if nothing is left from before and all five bytes come at once.
-/

namespace OpenVizsla.Device.Pairing

open OpenVizsla.Foundation.Runs
open OpenVizsla.Foundation.Calls
open OpenVizsla.Register.Message
open OpenVizsla.Device.State
open OpenVizsla.Device.Cha
open OpenVizsla.Device.Transaction

/-! ## Accesses -/

/-- A call of `cha_read_reg` or `cha_write_reg`. -/
inductive RegAccess where
  | read (addr : UInt16)
  | write (addr : UInt16) (val : UInt8)
deriving DecidableEq, Repr

namespace RegAccess

/-- The address in the request. -/
def addr : RegAccess → UInt16
  | .read addr => addr
  | .write addr _ => addr ||| 0x8000

/-- The value in the request. -/
def inVal : RegAccess → UInt8
  | .read _ => 0
  | .write _ val => val

def request (access : RegAccess) : List UInt8 :=
  transactionMessage access.addr access.inVal

/-- What is stored for the caller when the call returns 0. -/
def stored : RegAccess → UInt8 → Option UInt8
  | .read _, value => some value
  | .write _ _, _ => none

def perform : RegAccess → Action (Option UInt8)
  | .read addr => do
      let value ← chaReadReg addr
      pure (some value)
  | .write addr val => do
      chaWriteReg addr val
      pure none

theorem perform_run (access : RegAccess) (memory : Memory)
    (script : List Answer) :
    access.perform.run memory script =
      ((chaTransaction access.addr access.inVal).run memory script).andThen
        fun value => (pure (access.stored value) : Action _).run := by
  cases access with
  | read addr => rfl
  | write addr val =>
      show ((((chaTransaction (addr ||| 0x8000) val).run memory
        script).andThen fun _ => (pure () : Action Unit).run).andThen
          fun _ => (pure none : Action (Option UInt8)).run) = _
      simp only [RegAccess.addr, RegAccess.inVal, RegAccess.stored,
        Outcome.andThen, Program.run_pure]
      cases ((chaTransaction (addr ||| 0x8000) val).run memory script).ending
      · simp
      · rfl

end RegAccess

/-! ## The device -/

/--
How many requests have been written and how many answered, the bytes that are
on their way, and those that have been read.  Every byte has the number of the
request that it answers.
-/
structure Responder where
  asked : Nat
  answered : Nat
  pending : List (Nat × UInt8)
  taken : List (Nat × UInt8)
deriving DecidableEq, Repr

/-- The response to a request: its address and another value. -/
def respond (request : List UInt8) (value : UInt8) : List UInt8 :=
  checked (request.getD 1 0) (request.getD 2 0) value

namespace Responder

/-- Nothing has been asked. -/
def fresh : Responder :=
  ⟨0, 0, [], []⟩

/-- The response to the next request, with its number. -/
def response (values : Nat → UInt8) (device : Responder)
    (request : List UInt8) : List (Nat × UInt8) :=
  (respond request (values device.answered)).map (device.answered, ·)

def answer (values : Nat → UInt8) (device : Responder) (request : List UInt8) :
    Responder :=
  { device with
    asked := device.asked + 1
    answered := device.answered + 1
    pending := device.pending ++ device.response values request }

/-- A request that does not get to the device. -/
def miss (device : Responder) : Responder :=
  { device with asked := device.asked + 1 }

/-- The next bytes are read. -/
def give (device : Responder) (count : Nat) : Responder :=
  { device with
    pending := device.pending.drop count
    taken := device.taken ++ device.pending.take count }

/--
What libftdi can say about a device that answers with these values.  `reaches`
tells which requests get to the device although their writes fail.
-/
def step (values : Nat → UInt8) (reaches : Nat → Bool) (device : Responder) :
    Call × Answer → Option Responder
  | (.ftdi .a (.writeData request), written) =>
      if written.ret < 0 ∧ ¬ reaches device.asked then some device.miss
      else some (device.answer values request)
  | (.ftdi .a (.readData size), read) =>
      let got := read.received size
      if read.ret < 0 then some device
      else if got = (device.pending.take got.length).map Prod.snd then
        some (device.give got.length)
      else none
  | _ => none

end Responder

/-! ## Sequences of accesses -/

/-- The memory of the library and the device behind it. -/
structure Session where
  memory : Memory
  device : Responder

/-- An access that comes to its end, with the answers of libftdi. -/
def transact (values : Nat → UInt8) (reaches : Nat → Bool)
    (session : Session) (event : RegAccess × List Answer) : Option Session :=
  let outcome := event.1.perform.run session.memory event.2
  if outcome.ending.Waiting ∨ outcome.rest ≠ [] then none
  else
    (run (Responder.step values reaches) session.device outcome.calls).map
      fun device => ⟨outcome.state, device⟩

/--
When the access returns 0, it has read the five bytes of its own response, and
what it stores is their value.
-/
def Paired (values : Nat → UInt8) (reaches : Nat → Bool)
    (session : Session) (event : RegAccess × List Answer) : Prop :=
  ∀ stored next,
    (event.1.perform.run session.memory event.2).ending = .returned stored →
      transact values reaches session event = some next →
        next.device.taken = session.device.taken ++
            session.device.response values event.1.request ∧
          stored = event.1.stored (values session.device.answered)

/-! ## What an access can do -/

section Access

variable {values : Nat → UInt8} {reaches : Nat → Bool}
    {session next : Session} {access : RegAccess} {script : List Answer}

/-- The answer of a read holds the next bytes. -/
def Gives (device : Responder) (read : Answer) : Prop :=
  read.received 5 =
    (device.pending.take (read.received 5).length).map Prod.snd

/--
The three ways to the end of an access: the write fails, whether the request
gets to the device or not, a read fails, or the first read that gives
something fills the buffer.
-/
def Ends (values : Nat → UInt8) (reaches : Nat → Bool) (session : Session)
    (access : RegAccess) (script : List Answer) (device : Responder) : Prop :=
  ∃ write reads, script = write :: reads ∧
    (write.ret < 0 ∧
        (reaches session.device.asked = true ∧
            device = session.device.answer values access.request ∨
          reaches session.device.asked = false ∧
            device = session.device.miss) ∨
      ¬ write.ret < 0 ∧ ∃ waits read, reads = waits ++ [read] ∧
        (∀ answer ∈ waits, Idle answer) ∧ ¬ Idle read ∧
        (read.ret < 0 ∧
            device = session.device.answer values access.request ∨
          ¬ read.ret < 0 ∧
            Gives (session.device.answer values access.request) read ∧
            device = (session.device.answer values access.request).give
              (read.received 5).length))

/-- An access that comes to its end is a transaction that does. -/
theorem settled_of_transact
    (comes : transact values reaches session (access, script) = some next) :
    let outcome :=
      (chaTransaction access.addr access.inVal).run session.memory script
    ¬ outcome.ending.Waiting ∧ outcome.rest = [] ∧
      run (Responder.step values reaches) session.device outcome.calls =
        some next.device := by
  unfold transact at comes
  dsimp only at comes
  split at comes
  · cases comes
  · rename_i settled
    rcases not_or.mp settled with ⟨ended, used⟩
    rcases Option.map_eq_some_iff.mp comes with ⟨device, reached, rfl⟩
    rw [RegAccess.perform_run] at ended used reached
    unfold Outcome.andThen at ended used reached
    intro outcome
    show ¬ outcome.ending.Waiting ∧ outcome.rest = [] ∧
      run (Responder.step values reaches) session.device outcome.calls =
        some device
    cases ending : outcome.ending with
    | returned value =>
        simp only [outcome] at ending
        simp only [ending, Program.run_pure, List.append_nil] at used reached
        exact ⟨id, not_not.mp used, reached⟩
    | stopped stop =>
        simp only [outcome] at ending
        simp only [ending] at ended used reached
        exact ⟨fun waiting => ended (Ending.waiting_stopped.mp waiting),
          not_not.mp used, reached⟩

/-- A read that gives nothing leaves the device as it is. -/
theorem step_idle (device : Responder) (read : Answer) (idle : Idle read) :
    Responder.step values reaches device (.ftdi .a (.readData 5), read) =
      some device := by
  rcases idle with ⟨succeeded, nothing⟩
  simp [Responder.step, succeeded, nothing, Responder.give]

/-- A request whose write fails gets to the device or not. -/
theorem write_cases {device device' : Responder} {request : List UInt8}
    {write : Answer} (unwritten : write.ret < 0)
    (reached : run (Responder.step values reaches) device
      [(.ftdi .a (.writeData request), write)] = some device') :
    reaches device.asked = true ∧ device' = device.answer values request ∨
      reaches device.asked = false ∧ device' = device.miss := by
  rcases run_cons_eq_some_iff.mp reached with ⟨next, step, last⟩
  cases last
  dsimp only [Responder.step] at step
  split at step
  case isTrue missed =>
      cases step
      exact .inr ⟨eq_false_of_ne_true missed.2, rfl⟩
  case isFalse arrived =>
      cases step
      exact .inl ⟨by_contra fun missed => arrived ⟨unwritten, missed⟩, rfl⟩

/-- One read: it fails, or it gives the next bytes. -/
theorem read_cases {device device' : Responder} {read : Answer}
    (reached : run (Responder.step values reaches) device (readCalls [read]) =
      some device') :
    read.ret < 0 ∧ device' = device ∨
      ¬ read.ret < 0 ∧ Gives device read ∧
        device' = device.give (read.received 5).length := by
  have step : Responder.step values reaches device
      (.ftdi .a (.readData 5), read) = some device' := by
    rcases run_cons_eq_some_iff.mp reached with ⟨next, step, last⟩
    cases last
    exact step
  dsimp only [Responder.step] at step
  split at step
  · rename_i failed
    cases step
    exact .inl ⟨failed, rfl⟩
  · rename_i succeeded
    split at step
    · rename_i gives
      cases step
      exact .inr ⟨succeeded, gives, rfl⟩
    · cases step

theorem ends_of_transact
    (comes : transact values reaches session (access, script) = some next) :
    Ends values reaches session access script next.device := by
  obtain ⟨settled, used, reached⟩ := settled_of_transact comes
  rcases chaTransaction_cases rfl settled with
    ⟨write, unwritten, whole, calls, -⟩ |
    ⟨write, waits, read, written, idle, busy, whole, calls, -⟩
  · rw [used] at whole
    rw [calls] at reached
    exact ⟨write, [], whole, .inl ⟨unwritten, write_cases unwritten reached⟩⟩
  · rw [used] at whole
    have asked : Responder.step values reaches session.device
        (.ftdi .a (.writeData
          (transactionMessage access.addr access.inVal)), write) =
          some (session.device.answer values access.request) :=
      if_neg fun failed => written failed.1
    rw [calls, run_cons, asked, Option.bind_some,
      run_idle (step_idle _) idle] at reached
    exact ⟨write, waits ++ [read], whole,
      .inr ⟨written, waits, read, rfl, idle, busy, read_cases reached⟩⟩

/-! ## When an access gets its own response -/

/-- The buffer does not pass for a response. -/
def Misfit (request got : List UInt8) : Prop :=
  chaTransactionChecksum ((filled request got).take 4) ≠
    (filled request got).getD 4 0

instance (request got : List UInt8) : Decidable (Misfit request got) :=
  inferInstanceAs (Decidable (_ ≠ _))

/--
The first read that gives something gives all five bytes and nothing has been
left before, or it makes the buffer fail the check.
-/
def Accords (session : Session) (event : RegAccess × List Answer) : Prop :=
  ∀ write waits read, event.2 = write :: (waits ++ [read]) →
    ¬ write.ret < 0 → (∀ answer ∈ waits, Idle answer) → ¬ Idle read →
      ¬ read.ret < 0 →
        session.device.pending = [] ∧ (read.received 5).length = 5 ∨
          Misfit event.1.request (read.received 5)

/-- What is pending belongs to earlier requests. -/
def Earlier (device : Responder) : Prop :=
  ∀ entry ∈ device.pending, entry.1 < device.answered

theorem response_length (device : Responder) (request : List UInt8) :
    (device.response values request).length = 5 :=
  rfl

theorem Earlier.answer {device : Responder} (earlier : Earlier device)
    (request : List UInt8) : Earlier (device.answer values request) := by
  intro entry member
  rcases List.mem_append.mp member with member | member
  · exact Nat.lt_succ_of_lt (earlier entry member)
  · rcases List.mem_map.mp member with ⟨byte, -, rfl⟩
    exact Nat.lt_succ_self _

theorem Earlier.give {device : Responder} (earlier : Earlier device)
    (count : Nat) : Earlier (device.give count) :=
  fun entry member => earlier entry (List.mem_of_mem_drop member)

/-- The bytes that are read are the response. -/
theorem take_eq_response_iff (values : Nat → UInt8)
    {device : Responder} (earlier : Earlier device)
    (request : List UInt8) {count : Nat} (most : count ≤ 5) :
    (device.pending ++ device.response values request).take count =
        device.response values request ↔
      device.pending = [] ∧ count = 5 := by
  constructor
  · intro same
    have five : count = 5 := by
      have length := congrArg List.length same
      rw [List.length_take, response_length] at length
      omega
    refine ⟨?_, five⟩
    cases pending : device.pending with
    | nil => rfl
    | cons first others =>
        have old := earlier first (by rw [pending]; exact List.mem_cons_self)
        rw [pending, five] at same
        have head := congrArg (fun list => (list.map Prod.fst).head?) same
        have number : some first.1 = some device.answered := head
        rw [Option.some.inj number] at old
        exact absurd old (lt_irrefl _)
  · rintro ⟨nothing, rfl⟩
    rw [nothing]
    rfl

theorem received_length_le (read : Answer) :
    (read.received 5).length ≤ 5 :=
  List.length_take_le 5 read.data

section Ending

variable {write read : Answer} {waits : List Answer}

/-- An access ends as its first read that is not idle makes it end. -/
theorem perform_ending (written : ¬ write.ret < 0)
    (idle : ∀ answer ∈ waits, Idle answer) (busy : ¬ Idle read)
    (access : RegAccess) (memory : Memory) :
    (access.perform.run memory (write :: (waits ++ [read]))).ending =
      match transactionEnding access.request read with
      | .returned value => .returned (access.stored value)
      | .stopped stop => .stopped stop := by
  obtain ⟨reached, ends⟩ := chaTransaction_run access.addr access.inVal memory
    waits [] written idle busy
  rw [RegAccess.perform_run, ends, RegAccess.request, Outcome.andThen]
  cases transactionEnding (transactionMessage access.addr access.inVal) read
  · rfl
  · rfl

theorem transactionEnding_failed (request : List UInt8)
    (failed : read.ret < 0) :
    transactionEnding request read = .stopped .failed :=
  if_pos failed

theorem transactionEnding_misfit {request : List UInt8}
    (misfit : Misfit request (read.received 5)) :
    transactionEnding request read = .stopped .failed := by
  rw [transactionEnding, if_neg misfit, ite_self]

theorem transactionEnding_fits {request : List UInt8}
    (succeeded : ¬ read.ret < 0)
    (fits : ¬ Misfit request (read.received 5)) :
    transactionEnding request read =
      .returned ((filled request (read.received 5)).getD 3 0) := by
  rw [transactionEnding, if_neg succeeded, if_pos (not_not.mp fits)]

end Ending

/-- The decomposition of the script is unique. -/
theorem last_read {write write' read read' : Answer}
    {waits waits' : List Answer}
    (same : write :: (waits ++ [read]) = write' :: (waits' ++ [read'])) :
    write = write' ∧ waits = waits' ∧ read = read' := by
  rcases List.cons_eq_cons.mp same with ⟨first, rest⟩
  rcases List.append_inj' rest rfl with ⟨before, last⟩
  exact ⟨first, before, List.singleton_inj.mp last⟩

/-- A whole response fills the buffer, and it fits. -/
theorem filled_respond (access : RegAccess) (value : UInt8) :
    filled access.request (respond access.request value) =
        respond access.request value ∧
      ¬ Misfit access.request (respond access.request value) ∧
      (respond access.request value).getD 3 0 = value :=
  ⟨rfl, not_not.mpr rfl, rfl⟩

/-- Bytes that are the response of the device are its response. -/
theorem received_eq_respond {device : Responder} {read : Answer}
    (gives : Gives (device.answer values access.request) read)
    (empty : device.pending = [] ∧ (read.received 5).length = 5) :
    read.received 5 = respond access.request (values device.answered) := by
  have pending : (device.answer values access.request).pending =
      device.response values access.request := by
    rw [Responder.answer, empty.1]
    rfl
  rw [gives, pending, empty.2, ← response_length device access.request,
    List.take_length, Responder.response, List.map_map]
  exact List.map_id _

/-- An access that fails is paired with nothing. -/
theorem paired_of_failed
    (failed : (access.perform.run session.memory script).ending =
      .stopped .failed) : Paired values reaches session (access, script) := by
  intro stored next returned
  rw [failed] at returned
  cases returned

/-- One access. -/
theorem paired_iff_accords (earlier : Earlier session.device)
    (comes : transact values reaches session (access, script) = some next) :
    Paired values reaches session (access, script) ↔
      Accords session (access, script) := by
  obtain ⟨write, reads, rfl, ⟨unwritten, -⟩ | ⟨written, waits, read, rfl,
    idle, busy, last⟩⟩ := ends_of_transact comes
  case inl =>
      obtain ⟨reached, run⟩ := chaTransaction_unwritten access.addr
        access.inVal session.memory reads unwritten
      have failed : (access.perform.run session.memory
          (write :: reads)).ending = .stopped .failed := by
        rw [RegAccess.perform_run, run]
        rfl
      refine iff_of_true (paired_of_failed failed) ?_
      intro write' waits' read' same written
      exact absurd ((List.cons_eq_cons.mp same).1 ▸ unwritten) written
  have ending := perform_ending written idle busy access session.memory
  have accords : Accords session (access, write :: (waits ++ [read])) ↔
      (¬ read.ret < 0 → session.device.pending = [] ∧
          (read.received 5).length = 5 ∨
        Misfit access.request (read.received 5)) := by
    constructor
    · intro accords
      exact accords write waits read rfl written idle busy
    · intro either write' waits' read' same _ _ _
      rcases last_read same with ⟨-, -, rfl⟩
      exact either
  rw [accords]
  rcases last with ⟨failed, -⟩ | ⟨succeeded, gives, device⟩
  · rw [transactionEnding_failed access.request failed] at ending
    exact iff_of_true (paired_of_failed ending) fun succeeded =>
      absurd failed succeeded
  · by_cases misfit : Misfit access.request (read.received 5)
    · rw [transactionEnding_misfit misfit] at ending
      exact iff_of_true (paired_of_failed ending) fun _ => .inr misfit
    · rw [transactionEnding_fits succeeded misfit] at ending
      have taken : next.device.taken = session.device.taken ++
          (session.device.pending ++ session.device.response values
            access.request).take (read.received 5).length := by
        rw [device]
        rfl
      have own := take_eq_response_iff values earlier
        access.request (received_length_le read)
      constructor
      · intro paired _
        refine .inl (own.mp ?_)
        have same := (paired _ next ending comes).1
        rw [taken] at same
        exact List.append_cancel_left same
      · intro whole stored next' returned comes'
        rw [comes] at comes'
        cases comes'
        have empty := (whole succeeded).resolve_right misfit
        refine ⟨?_, ?_⟩
        · rw [taken, own.mpr empty]
        · rw [ending] at returned
          cases returned
          rw [received_eq_respond gives empty]
          have value := filled_respond access
            (values session.device.answered)
          rw [value.1, value.2.2]

/-! ## Sequences -/

/-- What is pending after an access is from its request or an earlier one. -/
theorem earlier_transact (earlier : Earlier session.device)
    (comes : transact values reaches session (access, script) = some next) :
    Earlier next.device := by
  obtain ⟨write, reads, -, ⟨-, ⟨-, device⟩ | ⟨-, device⟩⟩ | ⟨-, waits, read,
    -, -, -, ⟨-, device⟩ | ⟨-, -, device⟩⟩⟩ := ends_of_transact comes
  · rw [device]
    exact earlier.answer _
  · rw [device]
    exact earlier
  · rw [device]
    exact earlier.answer _
  · rw [device]
    exact (earlier.answer _).give _

/-- No read fails and none gives a part of a response only. -/
def Prompt (script : List Answer) : Prop :=
  ∀ answer ∈ script.tail, ¬ answer.ret < 0 ∧
    (answer.received 5 = [] ∨ (answer.received 5).length = 5)

instance (script : List Answer) : Decidable (Prompt script) :=
  inferInstanceAs (Decidable (∀ answer ∈ _, _))

/-- A request whose write fails does not get to the device. -/
def Lost (reaches : Nat → Bool) (script : List Answer) : Prop :=
  ∀ write ∈ script.head?, write.ret < 0 → ∀ count, reaches count = false

/-- Prompt accesses leave nothing behind. -/
theorem pending_transact (empty : session.device.pending = [])
    (prompt : Prompt script) (lost : Lost reaches script)
    (comes : transact values reaches session (access, script) = some next) :
    next.device.pending = [] := by
  obtain ⟨write, reads, rfl, ⟨unwritten, ⟨arrived, -⟩ | ⟨-, device⟩⟩ | ⟨-,
    waits, read, rfl, -, busy, last⟩⟩ := ends_of_transact comes
  · rw [lost write rfl unwritten] at arrived
    cases arrived
  · rw [device]
    exact empty
  · rcases prompt read (by simp) with ⟨succeeded, nothing | five⟩
    · exact absurd ⟨succeeded, nothing⟩ busy
    · rcases last with ⟨failed, -⟩ | ⟨-, -, device⟩
      · exact absurd failed succeeded
      · rw [device, five, Responder.give, Responder.answer, empty]
        rfl

/-- In a clean state, prompt accesses accord with what is asked of them. -/
theorem accords_of_prompt (empty : session.device.pending = [])
    (prompt : Prompt script) : Accords session (access, script) := by
  rintro write waits read rfl written idle busy succeeded
  rcases (prompt read (by simp)).2 with nothing | five
  · exact absurd ⟨succeeded, nothing⟩ busy
  · exact .inl ⟨empty, five⟩

end Access

/--
In a sequence of accesses, all of them are paired with their responses exactly
when, for each, nothing is pending before it and its first read that gives
something gives five bytes, unless the buffer fails the check.  This is so
when no read fails and none gives a part of a response only, and no request
gets to the device although its write fails.
-/
theorem paired_iff (values : Nat → UInt8) (reaches : Nat → Bool)
    (memory : Memory) (events : List (RegAccess × List Answer))
    (possible :
      (run (transact values reaches) ⟨memory, .fresh⟩ events).isSome) :
    (Throughout (transact values reaches) (Paired values reaches)
          ⟨memory, .fresh⟩ events ↔
        Throughout (transact values reaches) Accords ⟨memory, .fresh⟩
          events) ∧
      ((∀ event ∈ events, Prompt event.2 ∧ Lost reaches event.2) →
        Throughout (transact values reaches) (Paired values reaches)
          ⟨memory, .fresh⟩ events) := by
  rcases Option.isSome_iff_exists.mp possible with ⟨finish, reached⟩
  have same : Throughout (transact values reaches) (Paired values reaches)
        ⟨memory, .fresh⟩ events ↔
      Throughout (transact values reaches) Accords ⟨memory, .fresh⟩
        events := by
    refine throughout_congr
      (fun session => Earlier session.device) ?_ ?_ (by nofun) reached
    · rintro session ⟨access, script⟩ next earlier comes
      exact earlier_transact earlier comes
    · rintro session ⟨access, script⟩ next earlier comes
      exact paired_iff_accords earlier comes
  refine ⟨same, fun prompt => same.mpr ?_⟩
  refine throughout_of_invariant
    (fun session => session.device.pending = []) ?_ ?_ rfl prompt
  · rintro session ⟨access, script⟩ next empty prompt comes
    exact pending_transact empty prompt.1 prompt.2 comes
  · rintro session ⟨access, script⟩ empty prompt
    exact accords_of_prompt empty prompt.1

/-- A read whose response comes after a while, and a write. -/
def readAndWrite : List (RegAccess × List Answer) :=
  [(.read 0x0102,
      [counted 5, delivered [], delivered [0x55, 0x01, 0x02, 0x0a, 0x62]]),
    (.write 0x0102 0x07,
      [counted 5, delivered [0x55, 0x81, 0x02, 0x0b, 0xe3]])]

/-- Requests would get to this device although their writes fail. -/
theorem paired_iff_readAndWrite :
    Throughout (transact (fun n => (n + 10).toUInt8) fun _ => true)
      (Paired (fun n => (n + 10).toUInt8) fun _ => true)
        ⟨Memory.zeroed, .fresh⟩ readAndWrite := by
  have written : ∀ event ∈ readAndWrite, ∀ write ∈ event.2.head?,
      ¬ write.ret < 0 := by
    decide
  have prompt : ∀ event ∈ readAndWrite, Prompt event.2 := by
    decide
  exact (paired_iff (fun n => (n + 10).toUInt8) (fun _ => true)
    Memory.zeroed readAndWrite (by decide +kernel)).2 fun event member =>
      ⟨prompt event member, fun write first negative =>
        absurd negative (written event member write first)⟩

/-- A response of which only three bytes have come. -/
def partRead : List (RegAccess × List Answer) :=
  [(.read 0x0102, [counted 5, delivered [0x55, 0x01, 0x02]])]

/-- The rest of the request completes it and provides the value. -/
theorem partRead_not_paired :
    ¬ Throughout (transact (fun _ => 0x0a) fun _ => false)
      (Paired (fun _ => 0x0a) fun _ => false) ⟨Memory.zeroed, .fresh⟩
        partRead := by
  rintro ⟨paired, -⟩
  have returned : ((RegAccess.read 0x0102).perform.run Memory.zeroed
      [counted 5, delivered [0x55, 0x01, 0x02]]).ending =
        .returned (some 0x00) := by
    decide +kernel
  have possible : (transact (fun _ => 0x0a) (fun _ => false)
      ⟨Memory.zeroed, .fresh⟩
      (.read 0x0102,
        [counted 5, delivered [0x55, 0x01, 0x02]])).isSome := by
    decide +kernel
  rcases Option.isSome_iff_exists.mp possible with ⟨next, comes⟩
  cases (paired (some 0x00) next returned comes).2

end OpenVizsla.Device.Pairing
