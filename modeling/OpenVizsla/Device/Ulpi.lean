import OpenVizsla.Device.PackageFiles
import OpenVizsla.Device.RoundTrip

/-!
# ULPI registers on a device

The registers of the transceiver are behind a command register each for
writing and for reading, whose highest bit is set until the command is done.
The device takes as long as it likes.  Against it, the speed of the bus is a
variable that `ov_set_usb_speed` sets and `ov_get_usb_speed` reads.
-/

namespace OpenVizsla.Device.Ulpi

open OpenVizsla.Foundation.Calls
open OpenVizsla.Foundation.Runs
open OpenVizsla.Register.Map
open OpenVizsla.Register.Message
open OpenVizsla.Device.State
open OpenVizsla.Device.Cha
open OpenVizsla.Device.Ov
open OpenVizsla.Device.RegisterLink
open OpenVizsla.Device.RoundTrip
open OpenVizsla.Device.PackageFiles

/-! ## The device -/

/-- The registers of the device, and those of the transceiver behind them. -/
structure UlpiDevice where
  regs : UInt16 → UInt8
  phy : UInt8 → UInt8
  /-- The number of frames so far. -/
  clock : Nat

namespace UlpiDevice

section Commands

variable (addr : RegName → UInt16) (ready : Nat → Bool)

/-- Carry out the command that is waiting, if there is one. -/
def execute (device : UlpiDevice) : UlpiDevice :=
  if device.regs (addr .ucfgWcmd) &&& 0x80 ≠ 0 then
    { device with
      phy := Function.update device.phy
        (device.regs (addr .ucfgWcmd) &&& 0x3f)
        (device.regs (addr .ucfgWdata))
      regs := Function.update device.regs (addr .ucfgWcmd)
        (device.regs (addr .ucfgWcmd) &&& 0x7f) }
  else if device.regs (addr .ucfgRcmd) &&& 0x80 ≠ 0 then
    { device with
      regs := Function.update
        (Function.update device.regs (addr .ucfgRdata)
          (device.phy (device.regs (addr .ucfgRcmd) &&& 0x3f)))
        (addr .ucfgRcmd) (device.regs (addr .ucfgRcmd) &&& 0x7f) }
  else
    device

/-- What happens before the next frame.  `ready` tells when commands end. -/
def tick (device : UlpiDevice) : UlpiDevice :=
  { if ready device.clock then device.execute addr else device with
    clock := device.clock + 1 }

def serve (device : UlpiDevice) (request : List UInt8) :
    UlpiDevice × List UInt8 :=
  let device := device.tick addr ready
  let bus := RegisterDevice.serve device.regs request
  ({ device with regs := bus.1 }, bus.2)

/-- The device after a write of a register. -/
def stored (device : UlpiDevice) (name : RegName) (val : UInt8) :
    UlpiDevice :=
  let device := device.tick addr ready
  { device with regs := Function.update device.regs (addr name) val }

variable {addr}

theorem serve_write (device : UlpiDevice) {name : RegName}
    (fits : addr name < 0x8000) (val : UInt8) :
    device.serve addr ready (transactionMessage (addr name ||| 0x8000) val) =
      (device.stored addr ready name val,
        transactionMessage (addr name ||| 0x8000) val) := by
  rw [serve, RegisterDevice.serve_write _ fits]
  rfl

theorem serve_read (device : UlpiDevice) {name : RegName}
    (fits : addr name < 0x8000) :
    device.serve addr ready (transactionMessage (addr name) 0) =
      (device.tick addr ready,
        transactionMessage (addr name)
          ((device.tick addr ready).regs (addr name))) := by
  rw [serve, RegisterDevice.serve_read _ fits]

end Commands

/-! ### Commands that wait -/

/-- No command waits, and the transceiver has these registers. -/
structure Idle (addr : RegName → UInt16) (phy : UInt8 → UInt8)
    (device : UlpiDevice) : Prop where
  wcmd : device.regs (addr .ucfgWcmd) &&& 0x80 = 0
  rcmd : device.regs (addr .ucfgRcmd) &&& 0x80 = 0
  phy : device.phy = phy

/-- A command to write waits. -/
structure Writing (addr : RegName → UInt16) (phy : UInt8 → UInt8)
    (reg val : UInt8) (device : UlpiDevice) : Prop where
  wcmd : device.regs (addr .ucfgWcmd) = ulpiCommand reg
  wdata : device.regs (addr .ucfgWdata) = val
  rcmd : device.regs (addr .ucfgRcmd) &&& 0x80 = 0
  phy : device.phy = phy

/-- A command to read waits. -/
structure Reading (addr : RegName → UInt16) (phy : UInt8 → UInt8)
    (reg : UInt8) (device : UlpiDevice) : Prop where
  wcmd : device.regs (addr .ucfgWcmd) &&& 0x80 = 0
  rcmd : device.regs (addr .ucfgRcmd) = ulpiCommand reg
  phy : device.phy = phy

theorem ulpiCommand_go : ∀ reg, ulpiCommand reg &&& 0x80 ≠ 0 := by
  decide +kernel

theorem ulpiCommand_addr :
    ∀ reg, ulpiCommand reg &&& 0x3f = reg &&& 0x3f := by
  decide +kernel

theorem done_go : ∀ command : UInt8, (command &&& 0x7f) &&& 0x80 = 0 := by
  decide +kernel

section Waiting

variable {addr : RegName → UInt16} {ready : Nat → Bool}
  {phy : UInt8 → UInt8} {reg val : UInt8} {device : UlpiDevice}

theorem Idle.tick (idle : Idle addr phy device) (ready : Nat → Bool) :
    Idle addr phy (device.tick addr ready) ∧
      (device.tick addr ready).regs = device.regs := by
  have same : (if ready device.clock then device.execute addr else device) =
      device := by
    split
    · rw [execute, if_neg (not_not.mpr idle.wcmd),
        if_neg (not_not.mpr idle.rcmd)]
    · rfl
  rw [UlpiDevice.tick, same]
  exact ⟨⟨idle.wcmd, idle.rcmd, idle.phy⟩, rfl⟩

/-- A register that holds no command can be written. -/
theorem Idle.stored (idle : Idle addr phy device)
    (injective : Function.Injective addr) {name : RegName}
    (wcmd : name ≠ .ucfgWcmd) (rcmd : name ≠ .ucfgRcmd) :
    Idle addr phy (device.stored addr ready name val) ∧
      (device.stored addr ready name val).regs (addr name) = val := by
  obtain ⟨later, -⟩ := idle.tick ready
  refine ⟨⟨?_, ?_, later.phy⟩, Function.update_self _ _ _⟩
  · rw [UlpiDevice.stored]
    dsimp only
    rw [Function.update_of_ne (injective.ne wcmd.symm), later.wcmd]
  · rw [UlpiDevice.stored]
    dsimp only
    rw [Function.update_of_ne (injective.ne rcmd.symm), later.rcmd]

/-- A command to write is given. -/
theorem Idle.commandWrite (idle : Idle addr phy device)
    (injective : Function.Injective addr)
    (wdata : device.regs (addr .ucfgWdata) = val) :
    Writing addr phy reg val
      (device.stored addr ready .ucfgWcmd (ulpiCommand reg)) := by
  obtain ⟨later, same⟩ := idle.tick ready
  have apart : addr .ucfgWdata ≠ addr .ucfgWcmd :=
    injective.ne (by decide)
  have apart' : addr .ucfgRcmd ≠ addr .ucfgWcmd :=
    injective.ne (by decide)
  refine ⟨Function.update_self _ _ _, ?_, ?_, later.phy⟩
  · rw [UlpiDevice.stored]
    dsimp only
    rw [Function.update_of_ne apart, same, wdata]
  · rw [UlpiDevice.stored]
    dsimp only
    rw [Function.update_of_ne apart', later.rcmd]

/-- A command to read is given. -/
theorem Idle.commandRead (idle : Idle addr phy device)
    (injective : Function.Injective addr) :
    Reading addr phy reg
      (device.stored addr ready .ucfgRcmd (ulpiCommand reg)) := by
  obtain ⟨later, -⟩ := idle.tick ready
  have apart : addr .ucfgWcmd ≠ addr .ucfgRcmd :=
    injective.ne (by decide)
  refine ⟨?_, Function.update_self _ _ _, later.phy⟩
  rw [UlpiDevice.stored]
  dsimp only
  rw [Function.update_of_ne apart, later.wcmd]

/-- A command to write goes on waiting, or has been carried out. -/
theorem Writing.tick (injective : Function.Injective addr)
    (writing : Writing addr phy reg val device) :
    Writing addr phy reg val (device.tick addr ready) ∨
      Idle addr (Function.update phy (reg &&& 0x3f) val)
        (device.tick addr ready) := by
  by_cases done : ready device.clock
  · right
    have go : device.regs (addr .ucfgWcmd) &&& 0x80 ≠ 0 := by
      rw [writing.wcmd]
      exact ulpiCommand_go reg
    have apart : addr .ucfgRcmd ≠ addr .ucfgWcmd :=
      injective.ne (by decide)
    rw [UlpiDevice.tick, if_pos done, execute, if_pos go]
    refine ⟨?_, ?_, ?_⟩
    · dsimp only
      rw [Function.update_self, done_go]
    · dsimp only
      rw [Function.update_of_ne apart, writing.rcmd]
    · dsimp only
      rw [writing.phy, writing.wcmd, writing.wdata, ulpiCommand_addr]
  · left
    rw [UlpiDevice.tick, if_neg done]
    exact ⟨writing.wcmd, writing.wdata, writing.rcmd, writing.phy⟩

/-- A command to read goes on waiting, or its data is there. -/
theorem Reading.tick (injective : Function.Injective addr)
    (reading : Reading addr phy reg device) :
    Reading addr phy reg (device.tick addr ready) ∨
      Idle addr phy (device.tick addr ready) ∧
        (device.tick addr ready).regs (addr .ucfgRdata) =
          phy (reg &&& 0x3f) := by
  by_cases done : ready device.clock
  · right
    have go : device.regs (addr .ucfgRcmd) &&& 0x80 ≠ 0 := by
      rw [reading.rcmd]
      exact ulpiCommand_go reg
    have wcmd : addr .ucfgWcmd ≠ addr .ucfgRcmd := injective.ne (by decide)
    have wcmd' : addr .ucfgWcmd ≠ addr .ucfgRdata :=
      injective.ne (by decide)
    have rdata : addr .ucfgRdata ≠ addr .ucfgRcmd :=
      injective.ne (by decide)
    rw [UlpiDevice.tick, if_pos done, execute,
      if_neg (not_not.mpr reading.wcmd), if_pos go]
    refine ⟨⟨?_, ?_, reading.phy⟩, ?_⟩
    · dsimp only
      rw [Function.update_of_ne wcmd, Function.update_of_ne wcmd',
        reading.wcmd]
    · dsimp only
      rw [Function.update_self, done_go]
    · dsimp only
      rw [Function.update_of_ne rdata, Function.update_self, reading.phy,
        reading.rcmd, ulpiCommand_addr]
  · left
    rw [UlpiDevice.tick, if_neg done]
    exact ⟨reading.wcmd, reading.rcmd, reading.phy⟩

end Waiting

end UlpiDevice

/-! ## The functions on the device -/

section Functions

open UlpiDevice

variable {addr : RegName → UInt16} {ready : Nat → Bool} {reaches : Bool}
  {start : Link UlpiDevice} {Asked Left : UlpiDevice → Prop}
  {reason : Prop}

theorem chaWriteRegByName_triple {name : RegName} {val : UInt8}
    {After : UlpiDevice → Prop} (fits : addr name < 0x8000)
    (writes :
      ∀ device, Asked device → After (device.stored addr ready name val))
    (untouched : ∀ device, Asked device → Left device)
    (leaves : ∀ device, After device → Left device) :
    Program.Triple (Served (serve addr ready) reaches start addr Asked)
      (chaWriteRegByName name val)
      (fun _ => Served (serve addr ready) reaches start addr After)
      (broken (serve addr ready) reaches start reason Left) := by
  refine Program.triple_get_bind fun read => ?_
  refine Program.triple_of_fact
    (fun _ _ known => known.1 ▸ known.2.map) fun map => ?_
  refine Program.Triple.strengthen ?_ fun _ _ => And.right
  rw [map]
  have transacted : Program.Triple
      (Served (serve addr ready) reaches start addr Asked)
      (chaTransaction (addr name ||| 0x8000) val)
      (fun _ => Served (serve addr ready) reaches start addr After)
      (broken (serve addr ready) reaches start reason Left) := by
    refine chaTransaction_triple (fun device asked => ?_) untouched
      fun _ => leaves
    rw [serve_write ready device fits]
    exact ⟨_, val, rfl, writes device asked⟩
  exact Program.triple_bind transacted fun _ =>
    Program.triple_pure fun _ _ => id

theorem chaReadRegByName_triple {name : RegName}
    {Answered : UInt8 → UlpiDevice → Prop} (fits : addr name < 0x8000)
    (reads :
      ∀ device, Asked device →
        Answered ((device.tick addr ready).regs (addr name))
          (device.tick addr ready))
    (untouched : ∀ device, Asked device → Left device)
    (leaves : ∀ value device, Answered value device → Left device) :
    Program.Triple (Served (serve addr ready) reaches start addr Asked)
      (chaReadRegByName name)
      (fun value =>
        Served (serve addr ready) reaches start addr (Answered value))
      (broken (serve addr ready) reaches start reason Left) := by
  refine Program.triple_get_bind fun read => ?_
  refine Program.triple_of_fact
    (fun _ _ known => known.1 ▸ known.2.map) fun map => ?_
  refine Program.Triple.strengthen ?_ fun _ _ => And.right
  rw [map]
  refine chaTransaction_triple (fun device asked => ?_) untouched leaves
  rw [serve_read ready device fits]
  exact ⟨_, _, rfl, reads device asked⟩

/-- A command is polled until its highest bit is clear. -/
theorem awaitUlpi_triple {name : RegName} {Waiting Done : UlpiDevice → Prop}
    (fits : addr name < 0x8000)
    (polls :
      ∀ device, Waiting device →
        Waiting (device.tick addr ready) ∧
          ((device.tick addr ready).regs (addr name) &&& 0x80 = 0 →
            Done (device.tick addr ready)))
    (leaves : ∀ device, Waiting device → Left device) :
    Program.Triple (Served (serve addr ready) reaches start addr Waiting)
      (awaitUlpi name)
      (fun _ => Served (serve addr ready) reaches start addr Done)
      (broken (serve addr ready) reaches start reason Left) := by
  let Polled (value : UInt8) (device : UlpiDevice) : Prop :=
    Waiting device ∧ (value &&& 0x80 = 0 → Done device)
  have read : Program.Triple
      (Served (serve addr ready) reaches start addr Waiting)
      (chaReadRegByName name)
      (fun value =>
        Served (serve addr ready) reaches start addr (Polled value))
      (broken (serve addr ready) reaches start reason Left) :=
    chaReadRegByName_triple fits polls leaves fun _ device polled =>
      leaves device polled.1
  refine Program.triple_loop
    (fun _ => Served (serve addr ready) reaches start addr Waiting)
    (fun _ => Program.triple_bind read fun tmp => ?_) ()
  refine Program.triple_pure ?_
  intro history memory served
  by_cases go : tmp &&& 0x80 ≠ 0
  · rw [if_pos go]
    exact served.mono fun _ polled => polled.1
  · rw [if_neg go]
    exact served.mono fun _ polled => polled.2 (not_not.mp go)

variable {phy : UInt8 → UInt8}

/-- The transceiver has these registers, or those after the write. -/
def Written (phy : UInt8 → UInt8) (reg val : UInt8) (device : UlpiDevice) :
    Prop :=
  device.phy = phy ∨ device.phy = Function.update phy (reg &&& 0x3f) val

theorem chaWriteUlpi_triple (injective : Function.Injective addr)
    (fits : ∀ name, addr name < 0x8000) (reg val : UInt8) :
    Program.Triple
      (Served (serve addr ready) reaches start addr (Idle addr phy))
      (chaWriteUlpi reg val)
      (fun _ => Served (serve addr ready) reaches start addr
        (Idle addr (Function.update phy (reg &&& 0x3f) val)))
      (broken (serve addr ready) reaches start reason
        (Written phy reg val)) := by
  let Loaded (device : UlpiDevice) : Prop :=
    Idle addr phy device ∧ device.regs (addr .ucfgWdata) = val
  let Waiting (device : UlpiDevice) : Prop :=
    Writing addr phy reg val device ∨
      Idle addr (Function.update phy (reg &&& 0x3f) val) device
  have left (device : UlpiDevice) (waiting : Waiting device) :
      Written phy reg val device :=
    waiting.imp Writing.phy Idle.phy
  have loaded : Program.Triple
      (Served (serve addr ready) reaches start addr (Idle addr phy))
      (chaWriteRegByName .ucfgWdata val)
      (fun _ => Served (serve addr ready) reaches start addr Loaded)
      (broken (serve addr ready) reaches start reason
        (Written phy reg val)) := by
    refine chaWriteRegByName_triple (fits _) (fun device idle => ?_)
      (fun _ idle => .inl idle.phy) fun _ loaded => .inl loaded.1.phy
    exact idle.stored injective (by decide) (by decide)
  have commanded : Program.Triple
      (Served (serve addr ready) reaches start addr Loaded)
      (chaWriteRegByName .ucfgWcmd (ulpiCommand reg))
      (fun _ => Served (serve addr ready) reaches start addr Waiting)
      (broken (serve addr ready) reaches start reason
        (Written phy reg val)) := by
    refine chaWriteRegByName_triple (fits _) (fun device loaded => ?_)
      (fun _ loaded => .inl loaded.1.phy) left
    exact .inl (loaded.1.commandWrite injective loaded.2)
  refine Program.triple_bind loaded fun _ => ?_
  refine Program.triple_bind commanded fun _ => ?_
  refine awaitUlpi_triple (fits _) (fun device waiting => ?_) left
  rcases waiting with writing | idle
  · rcases writing.tick injective with later | done
    · refine ⟨.inl later, fun clear => absurd clear ?_⟩
      rw [later.wcmd]
      exact ulpiCommand_go reg
    · exact ⟨.inr done, fun _ => done⟩
  · have later := (idle.tick ready).1
    exact ⟨.inr later, fun _ => later⟩

theorem chaReadUlpi_triple (injective : Function.Injective addr)
    (fits : ∀ name, addr name < 0x8000) (reg : UInt8) :
    Program.Triple
      (Served (serve addr ready) reaches start addr (Idle addr phy))
      (chaReadUlpi reg)
      (fun value => Served (serve addr ready) reaches start addr
        fun device => value = phy (reg &&& 0x3f) ∧ Idle addr phy device)
      (broken (serve addr ready) reaches start reason
        fun device => device.phy = phy) := by
  let Done (device : UlpiDevice) : Prop :=
    Idle addr phy device ∧
      device.regs (addr .ucfgRdata) = phy (reg &&& 0x3f)
  let Waiting (device : UlpiDevice) : Prop :=
    Reading addr phy reg device ∨ Done device
  have left (device : UlpiDevice) (waiting : Waiting device) :
      device.phy = phy :=
    waiting.elim Reading.phy fun done => done.1.phy
  have commanded : Program.Triple
      (Served (serve addr ready) reaches start addr (Idle addr phy))
      (chaWriteRegByName .ucfgRcmd (ulpiCommand reg))
      (fun _ => Served (serve addr ready) reaches start addr Waiting)
      (broken (serve addr ready) reaches start reason
        fun device => device.phy = phy) :=
    chaWriteRegByName_triple (fits _)
      (fun _ idle => .inl (idle.commandRead injective))
      (fun _ => Idle.phy) left
  have awaited : Program.Triple
      (Served (serve addr ready) reaches start addr Waiting)
      (awaitUlpi .ucfgRcmd)
      (fun _ => Served (serve addr ready) reaches start addr Done)
      (broken (serve addr ready) reaches start reason
        fun device => device.phy = phy) := by
    refine awaitUlpi_triple (fits _) (fun device waiting => ?_) left
    rcases waiting with reading | ⟨idle, rdata⟩
    · rcases reading.tick injective with later | done
      · refine ⟨.inl later, fun clear => absurd clear ?_⟩
        rw [later.rcmd]
        exact ulpiCommand_go reg
      · exact ⟨.inr done, fun _ => done⟩
    · obtain ⟨later, same⟩ := idle.tick ready
      have done : Done (device.tick addr ready) :=
        ⟨later, by rw [same, rdata]⟩
      exact ⟨.inr done, fun _ => done⟩
  refine Program.triple_bind commanded fun _ => ?_
  refine Program.triple_bind awaited fun _ => ?_
  refine chaReadRegByName_triple (fits _) (fun device done => ?_)
    (fun _ done => done.1.phy) fun _ _ answered => answered.2.phy
  obtain ⟨later, same⟩ := done.1.tick ready
  exact ⟨by rw [same, done.2], later⟩

end Functions

/-! ## The speed as a variable -/

/-- What is asked for through the interface. -/
inductive SpeedOp where
  | set (speed : OvUsbSpeed)
  | get
deriving DecidableEq, Repr

/-- The requests one after the other, with the speeds that are read. -/
def session : List SpeedOp → Action (List OvUsbSpeed)
  | [] => pure []
  | .set speed :: rest => do
      ovSetUsbSpeed speed
      session rest
  | .get :: rest => do
      let speed ← ovGetUsbSpeed
      let speeds ← session rest
      pure (speed :: speeds)

/-- The speed that a code stands for. -/
def speedOf (code : UInt8) : Option OvUsbSpeed :=
  if code = 0x4a then some .lowSpeed
  else if code = 0x49 then some .fullSpeed
  else if code = 0x48 then some .highSpeed
  else none

theorem speedOf_wdata (speed : OvUsbSpeed) :
    speedOf speed.wdata = some speed := by
  cases speed <;> rfl

/-- What is read from a variable, which may be undefined at first. -/
def answers : Option OvUsbSpeed → List SpeedOp → Option (List OvUsbSpeed)
  | _, [] => some []
  | _, .set speed :: rest => answers (some speed) rest
  | none, .get :: _ => none
  | some speed, .get :: rest =>
      (answers (some speed) rest).map (speed :: ·)

theorem answers_get_of_none (current : Option OvUsbSpeed)
    {rest : List SpeedOp} (undefined : answers current rest = none) :
    answers current (.get :: rest) = none := by
  cases current with
  | none => rfl
  | some speed => rw [answers, undefined, Option.map_none]

/-- The code that is left behind. -/
def codeAfter : (code : UInt8) → List SpeedOp → UInt8
  | code, [] => code
  | _, .set speed :: rest => codeAfter speed.wdata rest
  | code, .get :: rest => codeAfter code rest

section Session

open UlpiDevice

variable {addr : RegName → UInt16} {ready : Nat → Bool} {reaches : Bool}
  {start : Link UlpiDevice}

/-- A step of the interface on the device. -/
theorem entering_triple {α : Type} {step : Action α} {reason : Prop}
    {Asked Left : UlpiDevice → Prop}
    {post : α → Assertion Call Answer Memory}
    (triple :
      Program.Triple (Served (serve addr ready) reaches start addr Asked)
        step post (broken (serve addr ready) reaches start reason Left)) :
    Program.Triple (Served (serve addr ready) reaches start addr Asked)
      (entering (reporting chaErrorStr step)) post
      (broken (serve addr ready) reaches start reason Left) := by
  have entered : Program.Triple
      (Served (serve addr ready) reaches start addr Asked)
      (Program.modify fun memory : Memory =>
        { memory with errorStr := { memory.errorStr with origin := .earlier } })
      (fun _ => Served (serve addr ready) reaches start addr Asked)
      (broken (serve addr ready) reaches start reason Left) :=
    Program.triple_modify fun _ _ served => Served.change served rfl
  refine Program.triple_bind entered fun _ => ?_
  exact reporting_triple (fun _ _ served => Served.change served rfl) triple
    fun _ _ _ => id

/-- Only register 4 may be another one. -/
def OnlySpeed (phy : UInt8 → UInt8) (device : UlpiDevice) : Prop :=
  ∀ reg, reg ≠ 0x04 → device.phy reg = phy reg

theorem ovSetUsbSpeed_triple (injective : Function.Injective addr)
    (fits : ∀ name, addr name < 0x8000) {reason : Prop}
    (phy : UInt8 → UInt8) (speed : OvUsbSpeed) :
    Program.Triple
      (Served (serve addr ready) reaches start addr (Idle addr phy))
      (ovSetUsbSpeed speed)
      (fun _ => Served (serve addr ready) reaches start addr
        (Idle addr (Function.update phy 0x04 speed.wdata)))
      (broken (serve addr ready) reaches start reason (OnlySpeed phy)) := by
  have written : Program.Triple
      (Served (serve addr ready) reaches start addr (Idle addr phy))
      (chaWriteUlpi 0x04 speed.wdata)
      (fun _ => Served (serve addr ready) reaches start addr
        (Idle addr (Function.update phy 0x04 speed.wdata)))
      (broken (serve addr ready) reaches start reason
        (Written phy 0x04 speed.wdata)) :=
    chaWriteUlpi_triple injective fits 0x04 speed.wdata
  refine entering_triple (written.weaken (fun _ _ => id) (fun _ _ _ => id)
    (broken_mono id ?_))
  rintro device (same | changed) reg other
  · exact congrFun same reg
  · rw [changed]
    exact Function.update_of_ne other _ _

theorem ovGetUsbSpeed_triple (injective : Function.Injective addr)
    (fits : ∀ name, addr name < 0x8000) (phy : UInt8 → UInt8) :
    Program.Triple
      (Served (serve addr ready) reaches start addr (Idle addr phy))
      ovGetUsbSpeed
      (fun speed => Served (serve addr ready) reaches start addr
        fun device =>
          speedOf (phy 0x04) = some speed ∧ Idle addr phy device)
      (broken (serve addr ready) reaches start (speedOf (phy 0x04) = none)
        (OnlySpeed phy)) := by
  have read : Program.Triple
      (Served (serve addr ready) reaches start addr (Idle addr phy))
      (chaReadUlpi 0x04)
      (fun value => Served (serve addr ready) reaches start addr
        fun device => value = phy 0x04 ∧ Idle addr phy device)
      (broken (serve addr ready) reaches start (speedOf (phy 0x04) = none)
        (OnlySpeed phy)) := by
    refine (chaReadUlpi_triple injective fits 0x04).weaken (fun _ _ => id)
      (fun _ _ _ => id) (broken_mono id ?_)
    exact fun device same reg _ => congrFun same reg
  have decoded {wdata : UInt8} {speed : OvUsbSpeed}
      (code : wdata = speed.wdata) :
      Program.Triple
        (Served (serve addr ready) reaches start addr
          fun device => wdata = phy 0x04 ∧ Idle addr phy device)
        (pure speed)
        (fun speed => Served (serve addr ready) reaches start addr
          fun device =>
            speedOf (phy 0x04) = some speed ∧ Idle addr phy device)
        (broken (serve addr ready) reaches start (speedOf (phy 0x04) = none)
          (OnlySpeed phy)) := by
    refine Program.triple_pure fun history memory served => ?_
    refine served.mono ?_
    rintro device ⟨same, idle⟩
    refine ⟨?_, idle⟩
    rw [← same, code, speedOf_wdata]
  refine entering_triple (Program.triple_bind read fun wdata => ?_)
  refine Program.triple_ite (fun low => decoded low) fun notLow => ?_
  refine Program.triple_ite (fun full => decoded full) fun notFull => ?_
  refine Program.triple_ite (fun high => decoded high) fun notHigh => ?_
  refine Program.triple_modify_fail ?_
  intro history memory served
  refine served.sees.mono ?_
  rintro link ⟨pending, rfl, idle⟩
  refine ⟨.inr ?_, fun reg _ => congrFun idle.phy reg⟩
  rw [speedOf, if_neg notLow, if_neg notFull, if_neg notHigh]

/-- The requests on a device are those on a variable. -/
theorem session_triple (injective : Function.Injective addr)
    (fits : ∀ name, addr name < 0x8000) (ops : List SpeedOp)
    (phy : UInt8 → UInt8) :
    Program.Triple
      (Served (serve addr ready) reaches start addr (Idle addr phy))
      (session ops)
      (fun speeds => Served (serve addr ready) reaches start addr
        fun device =>
          answers (speedOf (phy 0x04)) ops = some speeds ∧
            Idle addr
              (Function.update phy 0x04 (codeAfter (phy 0x04) ops)) device)
      (broken (serve addr ready) reaches start
        (answers (speedOf (phy 0x04)) ops = none) (OnlySpeed phy)) := by
  induction ops generalizing phy with
  | nil =>
      refine Program.triple_pure fun history memory served => ?_
      refine served.mono fun device idle => ⟨rfl, ?_⟩
      rw [codeAfter, Function.update_eq_self]
      exact idle
  | cons op rest ih =>
      cases op with
      | set speed =>
          refine Program.triple_bind
            (ovSetUsbSpeed_triple injective fits phy speed) fun _ => ?_
          have later := ih (Function.update phy 0x04 speed.wdata)
          rw [Function.update_self, speedOf_wdata, Function.update_idem]
            at later
          refine later.weaken (fun _ _ => id) (fun _ _ _ => id)
            (broken_mono id ?_)
          intro device only reg other
          rw [only reg other]
          exact Function.update_of_ne other _ _
      | get =>
          refine Program.triple_bind
            ((ovGetUsbSpeed_triple injective fits phy).weaken (fun _ _ => id)
              (fun _ _ _ => id) (broken_mono ?_ fun _ => id))
            fun speed => ?_
          · intro unknown
            rw [unknown, answers]
          refine Program.triple_bind ((served_fact (ih phy)).weaken
            (fun _ _ => id) (fun _ _ _ => id)
            (broken_mono (answers_get_of_none _) fun _ => id))
            fun speeds => ?_
          refine Program.triple_pure fun history memory served => ?_
          refine served.mono ?_
          rintro device ⟨known, same, idle⟩
          refine ⟨?_, idle⟩
          rw [known] at same ⊢
          rw [answers, same, Option.map_some]

/--
Against a device that carries commands out whenever it likes, the speeds that
are read are those that a variable would give.  Without a failed call, a
session fails only where a code is read that stands for no speed.  Only
register 4 of the transceiver is written.
-/
theorem speed_is_variable (injective : Function.Injective addr)
    (fits : ∀ name, addr name < 0x8000) (ready : Nat → Bool)
    (reaches : Bool) (phy : UInt8 → UInt8) (device : UlpiDevice)
    (idle : Idle addr phy device) (memory : Memory)
    (map : memory.cha.reg.addr = addr) (ops : List SpeedOp)
    (script : List Answer) (after : Link UlpiDevice)
    (possible :
      run (Link.step (serve addr ready) reaches) ⟨device, []⟩
        ((session ops).run memory script).calls = some after) :
    (∀ speeds,
      ((session ops).run memory script).ending = .returned speeds →
        answers (speedOf (phy 0x04)) ops = some speeds ∧
          after.device.phy =
            Function.update phy 0x04 (codeAfter (phy 0x04) ops)) ∧
      (((session ops).run memory script).ending = .stopped .failed →
        (Faulty ((session ops).run memory script).calls ∨
            answers (speedOf (phy 0x04)) ops = none) ∧
          ∀ reg, reg ≠ 0x04 → after.device.phy reg = phy reg) := by
  have initial : Served (serve addr ready) reaches ⟨device, []⟩ addr
      (Idle addr phy) [] memory :=
    served_nil map rfl idle
  have outcome := (session_triple injective fits ops phy).run initial script
  constructor
  · intro speeds returned
    rw [returned] at outcome
    obtain ⟨-, same, idle'⟩ := outcome.sees after possible
    exact ⟨same, idle'.phy⟩
  · intro failed
    rw [failed] at outcome
    exact outcome after possible

end Session

/-- A map with an address of its own for each register. -/
def numbered (name : RegName) : UInt16 :=
  UInt16.ofNat name.ctorIdx

theorem numbered_injective : Function.Injective numbered := by
  intro first second
  cases first <;> cases second <;> decide

/-- The answers when each command is polled twice. -/
def polledTwice : List Answer :=
  promptly 0x800b 0x49 ++ promptly 0x800c 0x84 ++ promptly 0x000c 0x84 ++
    promptly 0x000c 0x04 ++ promptly 0x800e 0x84 ++ promptly 0x000e 0x84 ++
    promptly 0x000e 0x04 ++ promptly 0x000d 0x49

/-- A device whose registers are all zero. -/
def blank : UlpiDevice where
  regs := fun _ => 0
  phy := fun _ => 0
  clock := 0

/-- Commands are carried out before every third frame. -/
def slow (clock : Nat) : Bool :=
  clock % 3 = 0

def numberedMemory : Memory :=
  { Memory.zeroed with cha.reg := ⟨none, numbered⟩ }

/-- The speed that is set and read is the one that the transceiver has. -/
theorem speed_is_variable_fullSpeed :
    ∃ after,
      run (Link.step (UlpiDevice.serve numbered slow) false) ⟨blank, []⟩
          ((session [.set .fullSpeed, .get]).run numberedMemory
            polledTwice).calls = some after ∧
        after.device.phy 0x04 = 0x49 := by
  have possible : (run (Link.step (UlpiDevice.serve numbered slow) false)
      ⟨blank, []⟩ ((session [.set .fullSpeed, .get]).run numberedMemory
        polledTwice).calls).isSome := by
    decide +kernel
  obtain ⟨after, reached⟩ := Option.isSome_iff_exists.mp possible
  have fits (name : RegName) : numbered name < 0x8000 := by
    cases name <;> decide
  obtain ⟨-, phy⟩ := (speed_is_variable numbered_injective fits slow false
    (fun _ => 0) blank ⟨by decide, by decide, rfl⟩ numberedMemory rfl
    [.set .fullSpeed, .get] polledTwice after reached).1 [.fullSpeed]
      (by decide +kernel)
  exact ⟨after, reached, congrFun phy 0x04⟩

end OpenVizsla.Device.Ulpi
