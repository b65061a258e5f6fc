import OpenVizsla.Foundation.Environment
import OpenVizsla.Device.Transaction

/-!
# Devices behind a link

A device does what the frames ask for and answers them, each in one piece.
It answers at once or after some reads that give nothing.  Against such a
device, a transaction gets the response to its own request.
-/

namespace OpenVizsla.Device.RegisterLink

open OpenVizsla.Foundation.Calls
open OpenVizsla.Foundation.Runs
open OpenVizsla.Register.Map
open OpenVizsla.Register.Message
open OpenVizsla.Device.State
open OpenVizsla.Device.Cha

/-- A device, and the bytes of responses that have not been read. -/
structure Link (δ : Type) where
  device : δ
  pending : List UInt8

/--
What libftdi can say about the device.  A read gives nothing or the whole
response.  `reaches` tells whether a frame gets to the device although its
write fails.
-/
def Link.step {δ : Type} (serve : δ → List UInt8 → δ × List UInt8)
    (reaches : Bool) (link : Link δ) : Call × Answer → Option (Link δ)
  | (.ftdi .a (.writeData request), written) =>
      if written.ret < 0 ∧ ¬ reaches then some link
      else
        some { device := (serve link.device request).1
               pending := link.pending ++ (serve link.device request).2 }
  | (.ftdi .a (.readData size), read) =>
      if read.ret < 0 ∨ read.received size = [] then some link
      else if read.received size = link.pending then
        some { link with pending := [] }
      else none
  | _ => none

/-- A call has failed. -/
def Faulty (history : List (Call × Answer)) : Prop :=
  ∃ entry ∈ history, entry.2.ret < 0

theorem not_faulty_nil : ¬ Faulty [] := by
  rintro ⟨entry, member, -⟩
  cases member

theorem not_faulty_concat {history : List (Call × Answer)} {call : Call}
    {answer : Answer} (faultless : ¬ Faulty history)
    (natural : ¬ answer.ret < 0) :
    ¬ Faulty (history ++ [(call, answer)]) := by
  rintro ⟨entry, member, negative⟩
  rcases List.mem_append.mp member with earlier | last
  · exact faultless ⟨entry, earlier, negative⟩
  · cases List.mem_singleton.mp last
    exact natural negative

section Link

variable {δ : Type} (serve : δ → List UInt8 → δ × List UInt8)
  (reaches : Bool) (start : Link δ) (addr : RegName → UInt16)

/-- The map is this one, no call has failed, and the link has the property. -/
structure Knows (Property : Link δ → Prop) (history : List (Call × Answer))
    (memory : Memory) : Prop where
  map : memory.cha.reg.addr = addr
  faultless : ¬ Faulty history
  sees : Sees (Link.step serve reaches) start Property history

/-- All responses of the device have been read, too. -/
def Served (Property : δ → Prop) : Assertion Call Answer Memory :=
  Knows serve reaches start addr fun link =>
    link.pending = [] ∧ Property link.device

/--
A run that fails has seen a call fail, unless there is another reason, and
leaves the device so.
-/
def broken (reason : Prop) (Property : δ → Prop) :
    Stop Call → Assertion Call Answer Memory
  | .failed => fun history _ =>
      Sees (Link.step serve reaches) start
        (fun link => (Faulty history ∨ reason) ∧ Property link.device)
        history
  | .aborted => fun _ _ => False
  | .waiting _ => fun _ _ => True

section Triples

variable {serve reaches start addr} {Before After : Link δ → Prop}
  {reason : Prop} {Left : δ → Prop} {history : List (Call × Answer)}
  {memory : Memory}

theorem served_nil {Property : δ → Prop}
    (map : memory.cha.reg.addr = addr) (quiet : start.pending = [])
    (holds : Property start.device) :
    Served serve reaches start addr Property [] memory :=
  ⟨map, not_faulty_nil, sees_nil ⟨quiet, holds⟩⟩

theorem Knows.mono
    (knows : Knows serve reaches start addr Before history memory)
    (weaker : ∀ link, Before link → After link) :
    Knows serve reaches start addr After history memory :=
  { knows with sees := knows.sees.mono weaker }

theorem Served.mono {Property Property' : δ → Prop}
    (served : Served serve reaches start addr Property history memory)
    (weaker : ∀ device, Property device → Property' device) :
    Served serve reaches start addr Property' history memory :=
  Knows.mono served fun _ known => ⟨known.1, weaker _ known.2⟩

/-- A change of the memory that is not one of the map. -/
theorem Served.change {Property : δ → Prop} {memory' : Memory}
    (served : Served serve reaches start addr Property history memory)
    (same : memory'.cha.reg.addr = memory.cha.reg.addr) :
    Served serve reaches start addr Property history memory' :=
  { served with map := same.trans served.map }

theorem broken_mono {reason reason' : Prop} {Left Left' : δ → Prop}
    (weaker : reason → reason') (wider : ∀ device, Left device → Left' device)
    (stop : Stop Call) (history : List (Call × Answer)) (memory : Memory)
    (stopped :
      broken serve reaches start reason Left stop history memory) :
    broken serve reaches start reason' Left' stop history memory := by
  cases stop with
  | failed =>
      exact stopped.mono fun link left =>
        ⟨left.1.imp_right weaker, wider _ left.2⟩
  | aborted => exact stopped
  | waiting query => trivial

/-- A call of libftdi, whose failure ends the function. -/
theorem chaFtdi_triple {call : FtdiCall} {After : Answer → Link δ → Prop}
    (succeeds :
      ∀ answer link next, ¬ answer.ret < 0 → Before link →
        link.step serve reaches (.ftdi .a call, answer) = some next →
          After answer next)
    (fails :
      ∀ answer link next, answer.ret < 0 → Before link →
        link.step serve reaches (.ftdi .a call, answer) = some next →
          Left next.device) :
    Program.Triple (Knows serve reaches start addr Before) (chaFtdi call)
      (fun answer => Knows serve reaches start addr (After answer))
      (broken serve reaches start reason Left) := by
  let Called (answer : Answer) : Assertion Call Answer Memory :=
    fun history memory =>
      memory.cha.reg.addr = addr ∧
        (answer.ret < 0 ∧ Faulty history ∨
          ¬ answer.ret < 0 ∧ ¬ Faulty history) ∧
        Sees (Link.step serve reaches) start
          (fun next => ∃ link, Before link ∧
            link.step serve reaches (.ftdi .a call, answer) = some next)
          history
  have called : Program.Triple (Knows serve reaches start addr Before)
      (Program.call (.ftdi .a call)) Called
      (broken serve reaches start reason Left) := by
    refine Program.triple_call (fun _ _ _ => trivial) ?_
    intro history memory answer knows
    refine ⟨knows.map, ?_, knows.sees.concat fun link next before stepped =>
      ⟨link, before, stepped⟩⟩
    by_cases negative : answer.ret < 0
    · exact .inl ⟨negative, _,
        List.mem_append_right _ (List.mem_singleton_self _), negative⟩
    · exact .inr ⟨negative, not_faulty_concat knows.faultless negative⟩
  refine Program.triple_bind called fun answer => ?_
  refine Program.triple_ite (fun negative => ?_) fun natural => ?_
  · refine Program.triple_modify_fail ?_
    rintro history memory ⟨map, faulty | faultless, sees⟩
    · refine sees.mono ?_
      rintro next ⟨link, before, stepped⟩
      exact ⟨.inl faulty.2, fails answer link next negative before stepped⟩
    · exact absurd negative faultless.1
  · refine Program.triple_pure ?_
    rintro history memory ⟨map, faulty | faultless, sees⟩
    · exact absurd faulty.1 natural
    · refine ⟨map, faultless.2, sees.mono ?_⟩
      rintro next ⟨link, before, stepped⟩
      exact succeeds answer link next natural before stepped

/-- The response is there, and says what the device has come to. -/
def Responding (Answered : UInt8 → δ → Prop) (link : Link δ) : Prop :=
  ∃ response value, link.pending = transactionMessage response value ∧
    Answered value link.device

/-- The response has been read into the message. -/
def Received (Answered : UInt8 → δ → Prop) (msg : List UInt8)
    (link : Link δ) : Prop :=
  link.pending = [] ∧
    ∃ response value, msg = transactionMessage response value ∧
      Answered value link.device

/-- A read gives nothing or the whole response. -/
theorem read_cases {Answered : UInt8 → δ → Prop} {answer : Answer}
    {link next : Link δ} (succeeded : ¬ answer.ret < 0)
    (responding : Responding Answered link)
    (stepped :
      link.step serve reaches (.ftdi .a (.readData 5), answer) = some next) :
    (answer.received 5 = [] ∧ Responding Answered next) ∨
      answer.received 5 ≠ [] ∧ Received Answered (answer.received 5) next := by
  simp only [Link.step] at stepped
  by_cases nothing : answer.received 5 = []
  · rw [if_pos (.inr nothing)] at stepped
    cases stepped
    exact .inl ⟨nothing, responding⟩
  · rw [if_neg (not_or.mpr ⟨succeeded, nothing⟩)] at stepped
    split at stepped
    case isTrue whole =>
        cases stepped
        obtain ⟨response, value, pending, answered⟩ := responding
        exact .inr ⟨nothing, rfl, response, value, whole.trans pending,
          answered⟩
    case isFalse => cases stepped

/-- A read that fails leaves the link as it is. -/
theorem step_of_failed {answer : Answer} {link next : Link δ}
    (failed : answer.ret < 0)
    (stepped :
      link.step serve reaches (.ftdi .a (.readData 5), answer) = some next) :
    next = link := by
  simp only [Link.step] at stepped
  rw [if_pos (.inl failed)] at stepped
  cases stepped
  rfl

theorem transactionReads_triple {Answered : UInt8 → δ → Prop}
    {request : List UInt8} (length : request.length = 5)
    (leaves : ∀ value device, Answered value device → Left device) :
    Program.Triple (Knows serve reaches start addr (Responding Answered))
      (transactionReads request)
      (fun msg => Knows serve reaches start addr (Received Answered msg))
      (broken serve reaches start reason Left) := by
  let Invariant (current : List UInt8) : Assertion Call Answer Memory :=
    fun history memory =>
      current.length = 5 ∧
        Knows serve reaches start addr (Responding Answered) history memory
  have round (current : List UInt8) : Program.Triple (Invariant current)
      (do
        let buf ← chaReadData 5
        pure (if buf = [] then .inl current
          else .inr (buf ++ current.drop buf.length)))
      (Sum.elim Invariant fun msg =>
        Knows serve reaches start addr (Received Answered msg))
      (broken serve reaches start reason Left) := by
    refine Program.triple_of_fact (fun _ _ => And.left) fun whole => ?_
    refine Program.Triple.strengthen ?_ fun _ _ => And.right
    let Got (buf : List UInt8) (link : Link δ) : Prop :=
      (buf = [] ∧ Responding Answered link) ∨
        buf ≠ [] ∧ Received Answered buf link
    have reads : Program.Triple
        (Knows serve reaches start addr (Responding Answered))
        (chaReadData 5) (fun buf => Knows serve reaches start addr (Got buf))
        (broken serve reaches start reason Left) := by
      have asked : Program.Triple
          (Knows serve reaches start addr (Responding Answered))
          (chaFtdi (.readData 5))
          (fun answer =>
            Knows serve reaches start addr (Got (answer.received 5)))
          (broken serve reaches start reason Left) := by
        refine chaFtdi_triple ?_ ?_
        · intro answer link next natural responding stepped
          exact read_cases natural responding stepped
        · rintro answer link next negative ⟨response, value, -, answered⟩
            stepped
          rw [step_of_failed negative stepped]
          exact leaves value _ answered
      exact Program.triple_bind asked fun answer =>
        Program.triple_pure fun _ _ => id
    refine Program.triple_bind reads fun buf => Program.triple_pure ?_
    intro history memory knows
    by_cases nothing : buf = []
    · rw [if_pos nothing]
      refine ⟨whole, knows.mono ?_⟩
      rintro link (⟨-, responding⟩ | ⟨something, -⟩)
      · exact responding
      · exact absurd nothing something
    · rw [if_neg nothing]
      refine knows.mono ?_
      rintro link (⟨null, -⟩ | ⟨-, pending, response, value, rfl, answered⟩)
      · exact absurd null nothing
      · refine ⟨pending, response, value, ?_, answered⟩
        have rest :
            current.drop (transactionMessage response value).length = [] :=
          List.drop_eq_nil_of_le (by rw [whole]; rfl)
        rw [rest, List.append_nil]
  refine Program.Triple.strengthen
    (Program.triple_loop Invariant round request) ?_
  exact fun _ _ knows => ⟨length, knows⟩

/--
A transaction: the device answers the frame with some value, and is what it
has become by then.
-/
theorem chaTransaction_triple {addr' : UInt16} {inVal : UInt8}
    {Asked : δ → Prop} {Answered : UInt8 → δ → Prop}
    (answers :
      ∀ device, Asked device →
        ∃ response value,
          (serve device (transactionMessage addr' inVal)).2 =
              transactionMessage response value ∧
            Answered value (serve device (transactionMessage addr' inVal)).1)
    (untouched : ∀ device, Asked device → Left device)
    (leaves : ∀ value device, Answered value device → Left device) :
    Program.Triple (Served serve reaches start addr Asked)
      (chaTransaction addr' inVal)
      (fun value => Served serve reaches start addr (Answered value))
      (broken serve reaches start reason Left) := by
  have written : Program.Triple (Served serve reaches start addr Asked)
      (chaFtdi (.writeData (transactionMessage addr' inVal)))
      (fun _ => Knows serve reaches start addr (Responding Answered))
      (broken serve reaches start reason Left) := by
    refine chaFtdi_triple ?_ ?_
    · rintro answer link next natural ⟨pending, asked⟩ stepped
      obtain ⟨response, value, responds, answered⟩ := answers _ asked
      simp only [Link.step] at stepped
      rw [if_neg fun failed => natural failed.1] at stepped
      cases stepped
      refine ⟨response, value, ?_, answered⟩
      rw [pending, List.nil_append, responds]
    · rintro answer link next negative ⟨pending, asked⟩ stepped
      obtain ⟨response, value, responds, answered⟩ := answers _ asked
      simp only [Link.step] at stepped
      split at stepped
      case isTrue =>
          cases stepped
          exact untouched _ asked
      case isFalse =>
          cases stepped
          exact leaves value _ answered
  refine Program.triple_bind written fun _ => ?_
  refine Program.triple_bind (transactionReads_triple rfl leaves)
    fun msg => ?_
  refine Program.triple_ite (fun wrong => ?_) fun right => ?_
  · -- The device sends no wrong checksum.
    refine Program.triple_modify_fail ?_
    intro history memory knows
    refine knows.sees.mono ?_
    rintro link ⟨pending, response, value, rfl, answered⟩
    exact absurd rfl wrong
  · refine Program.triple_pure ?_
    intro history memory knows
    refine knows.mono ?_
    rintro link ⟨pending, response, value, rfl, answered⟩
    exact ⟨pending, answered⟩

/-- What is known about no device goes along with a program. -/
theorem served_fact {α : Type} {program : Action α} {fact : Prop}
    {Asked : δ → Prop} {Answered : α → δ → Prop}
    (triple :
      Program.Triple (Served serve reaches start addr Asked) program
        (fun value => Served serve reaches start addr (Answered value))
        (broken serve reaches start reason Left)) :
    Program.Triple
      (Served serve reaches start addr fun device => fact ∧ Asked device)
      program
      (fun value => Served serve reaches start addr
        fun device => fact ∧ Answered value device)
      (broken serve reaches start reason Left) := by
  intro history memory served script
  have outcome := triple history memory (served.mono fun _ => And.right)
    script
  cases ended : (program.run memory script).ending with
  | stopped stop =>
      rw [ended] at outcome
      exact outcome
  | returned value =>
      rw [ended] at outcome
      have returned : Served serve reaches start addr (Answered value)
          (history ++ (program.run memory script).calls)
          (program.run memory script).state := outcome
      show Served serve reaches start addr
        (fun device => fact ∧ Answered value device) _ _
      by_cases holds : fact
      · exact returned.mono fun _ answered => ⟨holds, answered⟩
      · have impossible : Sees (Link.step serve reaches) start
            (fun _ => False) history :=
          served.sees.mono fun _ asked => holds asked.2.1
        exact { returned with sees := impossible.absurd _ }

end Triples

end Link

end OpenVizsla.Device.RegisterLink
