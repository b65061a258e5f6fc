import OpenVizsla.Foundation.Calls
import OpenVizsla.Register.Map

/-!
# The memory of the library and the calls it makes

What the functions above libftdi, libusb, libzip and the allocator read and
write, and the calls they make.  Pointers are numbers here, and 0 is `NULL`.

An error string carries its origin, which C does not record: whether the
field was set in the step that is under way or earlier, or never.
-/

namespace OpenVizsla.Device.State

open OpenVizsla.Foundation.Calls
open OpenVizsla.Register.Map

/-! ## Calls -/

/-- The interfaces `INTERFACE_A` and `INTERFACE_B` of the FTDI chip. -/
inductive Channel where
  | a
  | b
deriving DecidableEq, Repr

/-- The bit modes of libftdi that are in use. -/
inductive Bitmode where
  | reset
  | bitbang
  | mpsse
  | syncff
deriving DecidableEq, Repr

/-- The functions of libftdi, without the context, which gives the channel. -/
inductive FtdiCall where
  | usbOpen (vendor product : UInt16)
  | usbReset
  | usbClose
  | setBitmode (bitmask : UInt8) (mode : Bitmode)
  | setBaudrate (baudrate : Nat)
  | setEventChar (eventch enable : UInt8)
  | setErrorChar (errorch enable : UInt8)
  /-- `ftdi_setflowctrl` with `SIO_RTS_CTS_HS`. -/
  | setflowctrlRtsCts
  | tcioflush
  | writeData (buf : List UInt8)
  | readData (size : Nat)
  /-- `ftdi_write_data_submit` with `buf[bidx]`. -/
  | writeDataSubmit (bidx : Nat) (buf : List UInt8)
  | transferDataDone (tc : Int)
deriving DecidableEq, Repr

/-- The calls that leave the library. -/
inductive Call where
  | ftdi (channel : Channel) (call : FtdiCall)
  | malloc (size : Nat)
  | free (ptr : Int)
  | libusbAllocTransfer
  | libusbFreeTransfer (transfer : Int)
  | zipOpen (filename : String)
  | zipSourceBufferCreate
  | zipOpenFromSource (src : Int)
  | zipDiscard (pkg : Int)
  | zipNameLocate (pkg : Int) (fname : String)
  | zipStatIndex (pkg index : Int)
  | zipFopenIndex (pkg index : Int)
  | zipFread (file : Int) (nbytes : Nat)
  | zipFclose (file : Int)
deriving DecidableEq, Repr

/--
What a call gives back.  `text` is what the library has to say about it when
asked for the last error.  `size` is that of a `zip_stat` with the flag
`ZIP_STAT_SIZE`.
-/
structure Answer where
  ret : Int
  data : List UInt8
  text : String
  size : Option Nat
deriving DecidableEq, Repr

/-- The bytes a read stores.  Their number is what it returns. -/
def Answer.received (answer : Answer) (size : Nat) : List UInt8 :=
  answer.data.take size

/-- An answer that is only a number. -/
def counted (ret : Int) : Answer where
  ret := ret
  data := []
  text := ""
  size := none

/-- An answer to a read. -/
def delivered (data : List UInt8) : Answer where
  ret := data.length
  data := data
  text := ""
  size := none

/-! ## State -/

/-- Where the content of an error string comes from. -/
inductive Origin where
  | uninitialised
  | earlier
  | fresh
deriving DecidableEq, Repr

/-- An error string: `NULL` or a message. -/
structure ErrorStr where
  origin : Origin
  text : Option String
deriving DecidableEq, Repr

/-- A message set in the step under way. -/
def ErrorStr.set (text : String) : ErrorStr where
  origin := .fresh
  text := some text

/-- At the next step, the message is one from before. -/
def ErrorStr.aged (errorStr : ErrorStr) : ErrorStr :=
  match errorStr.origin with
  | .fresh => { errorStr with origin := .earlier }
  | _ => errorStr

/-- An error string in a structure on the stack that nobody initialised. -/
def ErrorStr.garbage : ErrorStr where
  origin := .uninitialised
  text := none

/-- `struct cha`, without the FTDI context. -/
structure Cha where
  reg : Reg
  errorStr : ErrorStr

/-- `struct chb`, without the FTDI context. -/
structure Chb where
  errorStr : ErrorStr

/-- `struct fwpkg` -/
structure Fwpkg where
  pkg : Int
  mapIndex : Int
  bitstreamIndex : Int
  errorStr : ErrorStr

/--
`struct bit`.  The pointers into the bitstream file are offsets in `buffer`,
the block that `bit_init` gets.
-/
structure Bit where
  buffer : List UInt8
  data : Nat
  size : Nat
  ncdFilename : Nat
  partName : Nat
  date : Nat
  time : Nat
  bitLength : Nat
  errorStr : ErrorStr

/-- `struct reg` on the stack, whose error string has an origin too. -/
structure StackReg where
  errorStr : ErrorStr
  addr : RegName → UInt16

/--
`struct ov_device`, and the variables of `ov_load_firmware` and
`ov_load_firmware_from_fwpkg` that other functions write to.
-/
structure Memory where
  cha : Cha
  chb : Chb
  fwpkg : Fwpkg
  /-- `ov->loop.transfer`, which has three elements -/
  transfer : Nat → Int
  errorStr : ErrorStr
  tmp : Int
  bit : Bit
  stackFwpkg : Fwpkg
  stackReg : StackReg

/-- Memory that is all zero. -/
def Memory.zeroed : Memory :=
  let null : ErrorStr := ⟨.earlier, none⟩
  let fwpkg : Fwpkg := ⟨0, 0, 0, null⟩
  { cha := ⟨⟨none, fun _ => 0⟩, null⟩
    chb := ⟨null⟩
    fwpkg := fwpkg
    transfer := fun _ => 0
    errorStr := null
    tmp := 0
    bit := ⟨[], 0, 0, 0, 0, 0, 0, 0, null⟩
    stackFwpkg := fwpkg
    stackReg := ⟨null, fun _ => 0⟩ }

/-- The programs of this library. -/
abbrev Action (α : Type) : Type :=
  Program Call Answer Memory α

/-! ## Steps -/

/-- All messages are from before the step that comes. -/
def Memory.aged (memory : Memory) : Memory :=
  { memory with
    cha.errorStr := memory.cha.errorStr.aged
    chb.errorStr := memory.chb.errorStr.aged
    fwpkg.errorStr := memory.fwpkg.errorStr.aged
    bit.errorStr := memory.bit.errorStr.aged
    stackFwpkg.errorStr := memory.stackFwpkg.errorStr.aged
    stackReg.errorStr := memory.stackReg.errorStr.aged }

/-- `ov->error_str = message; goto fail` -/
def ovFail {α : Type} (text : String) : Action α := do
  Program.modify fun memory =>
    { memory with errorStr := ErrorStr.set text }
  Program.fail

/--
A step of a function in `ov.c`: when it fails, its error string becomes that
of the device.
-/
def reporting {α : Type} (errorStr : Memory → ErrorStr) (step : Action α) :
    Action α := do
  Program.modify Memory.aged
  match ← step.attempt with
  | some value => pure value
  | none =>
      Program.modify fun memory =>
        { memory with errorStr := errorStr memory }
      Program.fail

/-- A call of the interface: what the device reported before is old. -/
def entering {α : Type} (function : Action α) : Action α := do
  Program.modify fun memory =>
    { memory with errorStr := { memory.errorStr with origin := .earlier } }
  function

end OpenVizsla.Device.State
