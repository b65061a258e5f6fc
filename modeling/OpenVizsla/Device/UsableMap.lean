import OpenVizsla.Register.Grammar
import OpenVizsla.Capture.HaltEcho
import OpenVizsla.Device.RegisterLoops
import OpenVizsla.Device.Transaction

/-!
# What a register map is good for

`reg_init` accepts every address but `0xffff`.  The functions of channel A
rely on more: the highest bit of an address asks for a write, the reader of
four bytes counts up to an `int`, and the echo of the halt command is compared
without the highest bit.  They all work as they should when none of the four
addresses from that of a register on has that bit.
-/

namespace OpenVizsla.Device.UsableMap

open OpenVizsla.Foundation.Calls
open OpenVizsla.Register.Map
open OpenVizsla.Register.Message
open OpenVizsla.Register.Parse
open OpenVizsla.Register.Grammar
open OpenVizsla.Decoder.WireCut
open OpenVizsla.Capture.Loop
open OpenVizsla.Capture.HaltEcho
open OpenVizsla.Device.State
open OpenVizsla.Device.Cha
open OpenVizsla.Device.Transaction
open OpenVizsla.Device.RegisterLoops

/-! ## The calls of a transaction -/

/-- All calls are of some kinds. -/
def Among (allowed : Call → Prop) (history : List (Call × Answer))
    (_ : Memory) : Prop :=
  ∀ entry ∈ history, allowed entry.1

section Calls

variable {α : Type} {allowed : Call → Prop}

/-- What a program does when it upholds that its calls are of some kinds. -/
theorem calls_among {program : Action α}
    (upholds : program.Upholds (Among allowed) (Among allowed))
    (memory : Memory) (script : List Answer) :
    ∀ entry ∈ (program.run memory script).calls, allowed entry.1 := by
  have holds := upholds [] memory (List.forall_mem_nil _) script
  cases ending : (program.run memory script).ending with
  | returned value =>
      rw [ending] at holds
      exact holds
  | stopped stop =>
      rw [ending] at holds
      cases stop <;> exact holds

theorem chaFail_among (text : String) :
    (chaFail text : Action α).Upholds (Among allowed) (Among allowed) :=
  Program.upholds_modify_fail fun _ _ => id

theorem chaFtdi_among {call : FtdiCall} (kind : allowed (.ftdi .a call)) :
    (chaFtdi call).Upholds (Among allowed) (Among allowed) := by
  refine Program.upholds_bind (Program.upholds_call ?_) fun _ =>
    Program.upholds_ite (chaFail_among _) Program.upholds_pure
  intro history memory answer among
  exact List.forall_mem_append.mpr
    ⟨among, List.forall_mem_singleton.mpr kind⟩

theorem chaTransaction_among {addr : UInt16} {inVal : UInt8}
    (write : allowed (.ftdi .a (.writeData (transactionMessage addr inVal))))
    (read : allowed (.ftdi .a (.readData 5))) :
    (chaTransaction addr inVal).Upholds (Among allowed) (Among allowed) := by
  refine Program.upholds_bind (chaFtdi_among write) fun _ => ?_
  refine Program.upholds_bind (Program.upholds_loop fun _ => ?_) fun _ =>
    Program.upholds_ite (chaFail_among _) Program.upholds_pure
  exact Program.upholds_bind
    (Program.upholds_bind (chaFtdi_among read) fun _ =>
      Program.upholds_pure)
    fun _ => Program.upholds_pure

end Calls

/-- A run writes this to the device. -/
def Sends {α : Type} (outcome : Outcome Call Answer Memory α)
    (request : List UInt8) : Prop :=
  ∃ answer, (.ftdi .a (.writeData request), answer) ∈ outcome.calls

/-- A transaction sends nothing but its request. -/
theorem request_of_sends {addr : UInt16} {inVal : UInt8} {memory : Memory}
    {script : List Answer} {request : List UInt8}
    (sends : Sends ((chaTransaction addr inVal).run memory script) request) :
    request = transactionMessage addr inVal := by
  obtain ⟨answer, member⟩ := sends
  let allowed : Call → Prop := fun call =>
    ∀ request, call = .ftdi .a (.writeData request) →
      request = transactionMessage addr inVal
  have among : (chaTransaction addr inVal).Upholds (Among allowed)
      (Among allowed) := by
    refine chaTransaction_among ?_ ?_
    · rintro request ⟨⟩
      rfl
    · rintro request ⟨⟩
  exact calls_among among memory script _ member request rfl

/-- A transaction sends its request as soon as there is an answer. -/
theorem sends_request (addr : UInt16) (inVal : UInt8) (memory : Memory)
    (write : Answer) (rest : List Answer) :
    Sends ((chaTransaction addr inVal).run memory (write :: rest))
      (transactionMessage addr inVal) := by
  refine ⟨write, ?_⟩
  by_cases unwritten : write.ret < 0
  · obtain ⟨reached, run⟩ :=
      chaTransaction_unwritten addr inVal memory rest unwritten
    rw [run]
    exact List.mem_cons_self
  · rw [chaTransaction_written unwritten]
    exact List.mem_cons_self

/-- The halt command sends its message. -/
theorem haltMessage_of_sends {memory : Memory} {script : List Answer}
    {request : List UInt8}
    (sends : Sends (chaHaltStream.run memory script) request) :
    request = haltMessage memory.cha.reg := by
  obtain ⟨answer, member⟩ := sends
  let allowed : Call → Prop := fun call =>
    ∀ request, call = .ftdi .a (.writeData request) →
      request = haltMessage memory.cha.reg
  have among : (chaCastReg (memory.cha.reg.addr .sdramHostReadGo) 0).Upholds
      (Among allowed) (Among allowed) := by
    refine Program.upholds_bind (chaFtdi_among ?_) fun _ =>
      Program.upholds_pure
    rintro request ⟨⟩
    rfl
  exact calls_among among memory script _ member request rfl

/-! ## The requests of four reads -/

section Reads

variable {addrs : List UInt16}

/-- What is sent before a program goes on remains sent. -/
theorem sends_bind {α β : Type} {first : Action α} (next : α → Action β)
    {memory : Memory} {script : List Answer} {request : List UInt8}
    (sends : Sends (first.run memory script) request) :
    Sends ((first >>= next).run memory script) request := by
  obtain ⟨answer, member⟩ := sends
  refine ⟨answer, ?_⟩
  rw [Program.run_bind, Outcome.andThen]
  split
  · exact List.mem_append_left _ member
  · exact member

/-- Reads send nothing but their requests. -/
theorem request_of_readRegs {val : UInt32} {memory : Memory}
    {script : List Answer} {request : List UInt8}
    (sends : Sends ((readRegs addrs val).run memory script) request) :
    ∃ addr ∈ addrs, request = transactionMessage addr 0 := by
  obtain ⟨answer, member⟩ := sends
  let allowed : Call → Prop := fun call =>
    ∀ request, call = .ftdi .a (.writeData request) →
      ∃ addr ∈ addrs, request = transactionMessage addr 0
  have among (left : List UInt16) (within : ∀ addr ∈ left, addr ∈ addrs)
      (val : UInt32) :
      (readRegs left val).Upholds (Among allowed) (Among allowed) := by
    induction left generalizing val with
    | nil => exact Program.upholds_pure
    | cons addr left ih =>
        obtain ⟨first, others⟩ := List.forall_mem_cons.mp within
        refine Program.upholds_bind (chaTransaction_among ?_ ?_) fun tmp =>
          ih others _
        · rintro request ⟨⟩
          exact ⟨addr, first, rfl⟩
        · rintro request ⟨⟩
  exact calls_among (among addrs (fun _ => id) val) memory script _ member
    request rfl

/-- The device can answer a read with its request. -/
theorem chaReadReg_echoed (addr : UInt16) (memory : Memory)
    (rest : List Answer) :
    ∃ reached value calls,
      (chaReadReg addr).run memory
          (counted 5 :: delivered (transactionMessage addr 0) :: rest) =
        { calls := calls, ending := .returned value
          state := reached, rest := rest } := by
  have received : (delivered (transactionMessage addr 0)).received 5 =
      transactionMessage addr 0 := rfl
  have busy : ¬ Idle (delivered (transactionMessage addr 0)) := by
    rintro ⟨-, nothing⟩
    rw [received] at nothing
    cases nothing
  have written : ¬ (counted 5).ret < 0 := by decide
  have succeeded : ¬ (delivered (transactionMessage addr 0)).ret < 0 := by
    simp [delivered]
  obtain ⟨reached, run⟩ := chaTransaction_run addr 0 memory [] rest written
    (List.forall_mem_nil _) busy
  have whole : filled (transactionMessage addr 0) (transactionMessage addr 0) =
      transactionMessage addr 0 := rfl
  have intact : chaTransactionChecksum ((transactionMessage addr 0).take 4) =
      (transactionMessage addr 0).getD 4 0 := rfl
  rw [transactionEnding, received, whole, if_neg succeeded, if_pos intact]
    at run
  exact ⟨reached, _, _, run⟩

/-- Each of the reads is sent when those before it are answered. -/
theorem readRegs_sends {addr : UInt16} (member : addr ∈ addrs) :
    ∃ script, ∀ val memory,
      Sends ((readRegs addrs val).run memory script)
        (transactionMessage addr 0) := by
  induction addrs with
  | nil => cases member
  | cons first addrs ih =>
      rcases List.mem_cons.mp member with rfl | later
      · exact ⟨[counted 5], fun val memory =>
          sends_bind _ (sends_request addr 0 memory (counted 5) [])⟩
      · obtain ⟨script, sends⟩ := ih later
        refine ⟨counted 5 :: delivered (transactionMessage first 0) :: script,
          fun val memory => ?_⟩
        obtain ⟨reached, value, calls, run⟩ :=
          chaReadReg_echoed first memory script
        obtain ⟨answer, sent⟩ :=
          sends ((val <<< 8) ||| value.toUInt32) reached
        refine ⟨answer, ?_⟩
        rw [readRegs, Program.run_bind, run]
        exact List.mem_append_right _ sent

/-- So many addresses from the first one up are these. -/
theorem mem_addressesUp {addr other : UInt16} {count : Nat}
    (fits : addr.toNat + count ≤ 2 ^ 16) :
    other ∈ addressesUp addr count ↔
      addr.toNat ≤ other.toNat ∧ other.toNat < addr.toNat + count := by
  induction count generalizing addr with
  | zero =>
      simp only [addressesUp, List.not_mem_nil, false_iff]
      omega
  | succ count ih =>
      have same : other = addr ↔ other.toNat = addr.toNat :=
        UInt16.toNat_inj.symm
      rw [addressesUp, List.mem_cons, same]
      cases count with
      | zero =>
          simp only [addressesUp, List.not_mem_nil, or_false]
          omega
      | succ count =>
          have next : (addr + 1).toNat = addr.toNat + 1 := by
            rw [UInt16.toNat_add]
            exact Nat.mod_eq_of_lt (by simp; omega)
          rw [ih (by omega), next]
          omega

end Reads

/-! ## Addresses that work -/

/-- All registers can be accessed, and the halt command is heard. -/
structure Serviceable (addr : Addresses) : Prop where
  /-- `cha_read_reg_by_name` does not ask for a write. -/
  reads :
    ∀ name memory script request, memory.cha.reg.addr = addr →
      Sends ((chaReadRegByName name).run memory script) request →
        request.getD 1 0 &&& 0x80 = 0
  /-- `cha_read_reg32_by_name` is four transactions, one after the other. -/
  reads32 :
    ∀ name val memory, memory.cha.reg.addr = addr →
      (chaReadReg32ByName name val).run memory =
        (readRegs (addressesUp (addr name) 4) val).run memory
  /-- None of the four asks for a write. -/
  reads32_clear :
    ∀ name val memory script request, memory.cha.reg.addr = addr →
      Sends ((chaReadReg32ByName name val).run memory script) request →
        request.getD 1 0 &&& 0x80 = 0
  /-- `cha_write_reg32_by_name` is four transactions, one after the other. -/
  writes32 :
    ∀ name val memory, memory.cha.reg.addr = addr →
      (chaWriteReg32ByName name val).run memory =
        (writeRegs (bytesDown (addr name) 4 val)).run memory
  /-- The echo of what `cha_halt_stream` sends switches the loop off. -/
  echo :
    ∀ {υ : Type} (loop : LoopControl υ) memory script request frame,
      loop.reg.addr = addr → memory.cha.reg.addr = addr →
        Sends (chaHaltStream.run memory script) request →
          SameAccess frame.encode request →
            ∃ reported value, access frame = some (reported, value) ∧
              (chaLoopBusFrameCallback loop reported value).state =
                .hostReadOff

/-- The write bit in a message is the highest bit of the address. -/
theorem writeBit_transactionMessage (addr : UInt16) (inVal : UInt8) :
    (transactionMessage addr inVal).getD 1 0 &&& 0x80 = 0 ↔
      addr < 0x8000 := by
  have clear (byte : UInt8) : byte &&& 0x80 = 0 ↔ byte < 0x80 := by
    revert byte
    decide +kernel
  show highByte addr &&& 0x80 = 0 ↔ addr < 0x8000
  rw [clear, UInt8.lt_iff_toNat_lt, toNat_highByte, UInt16.lt_iff_toNat_lt]
  show addr.toNat / 256 < 128 ↔ addr.toNat < 32768
  omega

section Serviceable

variable {addr : Addresses}

/-- An address with the write bit makes a read a write. -/
theorem Serviceable.lt (serviceable : Serviceable addr) (name : RegName) :
    (addr name).toNat + 3 < 0x8000 := by
  let memory : Memory :=
    { Memory.zeroed with cha.reg := ⟨none, addr⟩ }
  have sends : Sends ((chaReadRegByName name).run memory [counted 5])
      (transactionMessage (addr name) 0) :=
    sends_request (addr name) 0 memory (counted 5) []
  have clear := serviceable.reads name memory [counted 5] _ rfl sends
  have first : (addr name).toNat < 2 ^ 15 :=
    UInt16.lt_iff_toNat_lt.mp
      ((writeBit_transactionMessage (addr name) 0).mp clear)
  have last : (addr name + 3).toNat = (addr name).toNat + 3 := by
    rw [UInt16.toNat_add]
    exact Nat.mod_eq_of_lt (by simp; omega)
  -- the last of the four requests is sent when the others are answered
  have member : addr name + 3 ∈ addressesUp (addr name) 4 := by
    rw [mem_addressesUp (by omega)]
    omega
  obtain ⟨script, sends32⟩ := readRegs_sends member
  have sends' : Sends ((chaReadReg32ByName name 0).run memory script)
      (transactionMessage (addr name + 3) 0) := by
    rw [serviceable.reads32 name 0 memory rfl]
    exact sends32 0 memory
  have clear32 := serviceable.reads32_clear name 0 memory script _ rfl sends'
  have fits := UInt16.lt_iff_toNat_lt.mp
    ((writeBit_transactionMessage (addr name + 3) 0).mp clear32)
  rw [last] at fits
  exact fits

theorem serviceable_of_lt (fits : ∀ name, (addr name).toNat + 3 < 0x8000) :
    Serviceable addr where
  reads := by
    rintro name memory script request rfl sends
    have sends' : Sends ((chaTransaction (memory.cha.reg.addr name) 0).run
        memory script) request :=
      sends
    have below := fits name
    rw [request_of_sends sends']
    refine (writeBit_transactionMessage _ 0).mpr ?_
    exact UInt16.lt_iff_toNat_lt.mpr (by
      show _ < 0x8000
      omega)
  reads32 := by
    rintro name val memory rfl
    have below := fits name
    rw [← chaReadReg32_eq (by omega)]
    rfl
  reads32_clear := by
    rintro name val memory script request rfl sends
    have below := fits name
    have reads : (chaReadReg32ByName name val).run memory script =
        (readRegs (addressesUp (memory.cha.reg.addr name) 4) val).run memory
          script := by
      rw [← chaReadReg32_eq (by omega)]
      rfl
    rw [reads] at sends
    obtain ⟨addr, member, rfl⟩ := request_of_readRegs sends
    rw [mem_addressesUp (by omega)] at member
    refine (writeBit_transactionMessage addr 0).mpr ?_
    exact UInt16.lt_iff_toNat_lt.mpr (by
      show _ < 0x8000
      omega)
  writes32 := by
    rintro name val memory rfl
    rw [← chaWriteReg32_eq]
    rfl
  echo := by
    intro υ loop memory script request frame addressed rfl sends same
    have below := fits .sdramHostReadGo
    have small : memory.cha.reg.addr .sdramHostReadGo < 0x8000 :=
      UInt16.lt_iff_toNat_lt.mpr (by
        show _ < 0x8000
        omega)
    rw [haltMessage_of_sends sends] at same
    have echoes : IsEcho memory.cha.reg frame := same
    obtain ⟨reported, matching, accessed⟩ :=
      (isEcho_iff small frame).mp echoes
    refine ⟨reported, 0, accessed, ?_⟩
    rw [← addressed] at matching
    rw [chaLoopBusFrameCallback, if_pos ⟨matching, rfl⟩]

theorem serviceable_iff_lt :
    Serviceable addr ↔ ∀ name, (addr name).toNat + 3 < 0x8000 :=
  ⟨Serviceable.lt, serviceable_of_lt⟩

end Serviceable

/-! ## Maps that work -/

section Map

variable {map : List UInt8} {addr : Addresses}

/-- An accepted map has no line that makes an assertion fail. -/
theorem usable_of_accepted (accepted : regInit map = .accepted addr) :
    ∀ line ∈ mapLines map, Usable line := by
  have sound : Sound (mapLines map) := sound_of_settles (.inl ⟨addr, accepted⟩)
  rw [regInit_of_sound sound] at accepted
  split at accepted
  · rename_i formed
    intro line member
    obtain ⟨before, after, same⟩ := List.append_of_mem member
    refine sound_iff.mp sound before line after same fun earlier among => ?_
    exact formed earlier (same ▸ List.mem_append_left _ among)
  · cases accepted

/-- What every line gives is what the registers have. -/
theorem addr_of_effects (Holds : UInt16 → Prop)
    (accepted : regInit map = .accepted addr)
    (all : ∀ line ∈ mapLines map, ∀ entry ∈ effect line, Holds entry.2)
    (name : RegName) : Holds (addr name) := by
  have usable := usable_of_accepted accepted
  obtain ⟨before, line, after, lines, gives, -⟩ :=
    lastGiven_of_accepted usable accepted name
  have member : line ∈ mapLines map := by
    rw [lines]
    exact List.mem_append_right _ List.mem_cons_self
  exact all line member _ ((effect_eq_some_iff (usable line member)).mpr gives)

/--
An accepted map is good for all functions exactly when the last value that it
gives to each register, and the three after it, are less than `0x8000`.
-/
theorem regInit_serviceable_iff (map : List UInt8) (addr : Addresses)
    (accepted : regInit map = .accepted addr) :
    Serviceable addr ↔
      ∀ name value,
        LastGiven (mapLines map) name value → value + 3 < 0x8000 := by
  have given := lastGiven_of_accepted (usable_of_accepted accepted) accepted
  rw [serviceable_iff_lt]
  constructor
  · intro fits name value last
    rw [last.unique (given name)]
    exact fits name
  · intro small name
    exact small name _ (given name)

end Map

theorem regInit_serviceable_oneEach :
    ∃ addr, regInit oneEach = .accepted addr ∧ Serviceable addr := by
  obtain ⟨addr, accepted⟩ := exists_accepted oneEach (by decide +kernel)
  have allLow : ∀ line ∈ mapLines oneEach, ∀ entry ∈ effect line,
      entry.2.toNat + 3 < 0x8000 := by
    decide +kernel
  refine ⟨addr, accepted,
    (regInit_serviceable_iff oneEach addr accepted).mpr ?_⟩
  intro name value last
  have given := lastGiven_of_accepted (usable_of_accepted accepted) accepted
  rw [last.unique (given name)]
  exact addr_of_effects (·.toNat + 3 < 0x8000) accepted allLow name

/-- A map whose addresses are all near the end of the address space. -/
def highMap : List UInt8 :=
  List.intercalate [0x0a] (regDecode.map fun entry =>
    ascii entry.1 ++ ascii " = fffd")

/-- It is accepted, but reads are writes, and those of four bytes never end. -/
theorem highMap_not_serviceable :
    ∃ addr, regInit highMap = .accepted addr ∧ ¬ Serviceable addr ∧
      ∀ name val memory script value, memory.cha.reg.addr = addr →
        ((chaReadReg32ByName name val).run memory script).ending ≠
          .returned value := by
  obtain ⟨addr, accepted⟩ := exists_accepted highMap (by decide +kernel)
  have allHigh : ∀ line ∈ mapLines highMap, ∀ entry ∈ effect line,
      entry.2 = 0xfffd := by
    decide +kernel
  have high (name : RegName) : addr name = 0xfffd :=
    addr_of_effects (· = 0xfffd) accepted allHigh name
  refine ⟨addr, accepted, fun serviceable => ?_, ?_⟩
  · have fits := serviceable.lt .ledsOut
    rw [high] at fits
    exact absurd fits (by decide)
  · rintro name val memory script value rfl
    refine chaReadReg32_not_returned ?_ val memory script value
    rw [high]
    decide

end OpenVizsla.Device.UsableMap
