import OpenVizsla.Device.Bit
import OpenVizsla.Device.Fwpkg

/-!
# The interface

The functions of `ov.c` that open a device, load a firmware, start a capture
and read or set the speed of the bus.
-/

namespace OpenVizsla.Device.Ov

open OpenVizsla.Foundation.Calls
open OpenVizsla.Register.Parse
open OpenVizsla.Device.State
open OpenVizsla.Device.Cha
open OpenVizsla.Device.Chb
open OpenVizsla.Device.Bit
open OpenVizsla.Device.Fwpkg

/-! ## Firmware -/

def chaErrorStr (memory : Memory) : ErrorStr :=
  memory.cha.errorStr

def chbErrorStr (memory : Memory) : ErrorStr :=
  memory.chb.errorStr

def bitErrorStr (memory : Memory) : ErrorStr :=
  memory.bit.errorStr

/-- `if (tmp) free(tmp)` -/
def freeTmp : Action Unit := do
  let memory ← Program.get
  if memory.tmp ≠ 0 then do
    let _ ← Program.call (.free memory.tmp)
    Program.modify fun memory => { memory with tmp := 0 }
  else
    pure ()

/-- `struct bit bit; void* tmp = NULL` -/
def declareBit : Action Unit :=
  Program.modify fun memory =>
    { memory with tmp := 0, bit.errorStr := ErrorStr.garbage }

/-- The steps of `ov_load_firmware_from_fwpkg` up to the config mode. -/
def prepare (package : Package) : Action Unit := do
  declareBit
  let size ← fwpkgBitstreamSize package
  let tmp ← Program.call (.malloc size)
  if tmp.ret = 0 then
    ovFail "Cannot allocate memory for firmware bitstream"
  else do
    Program.modify fun memory => { memory with tmp := tmp.ret }
    Program.unwinding
      (do
        let data ←
          reporting (fun memory => (package.get memory).errorStr)
            (fwpkgReadBitstream package size)
        reporting bitErrorStr (bitInit data)
        reporting chaErrorStr chaSwitchConfigMode)
      freeTmp

/-- The steps from `chb_switch_program_mode` on. -/
def programFpga : Action Unit := do
  reporting chbErrorStr chbSwitchProgramMode
  reporting bitErrorStr bitLoadFirmware
  freeTmp
  reporting chaErrorStr chaSwitchFifoMode

/-- What the labels of these steps lead to, before `return -1`. -/
def abandonFpga : Action Unit := do
  let _ ← chaSwitchFifoMode.attempt
  freeTmp

def ovLoadFirmwareFromFwpkg (package : Package) : Action Unit := do
  prepare package
  Program.unwinding programFpga abandonFpga

/-- `struct fwpkg fwpkg; struct reg reg` -/
def declareReg : Action Unit :=
  Program.modify fun memory =>
    { memory with
      stackFwpkg.errorStr := ErrorStr.garbage
      stackReg.errorStr := ErrorStr.garbage }

def ovLoadFirmware (filename : Option String) : Action Unit :=
  entering do
    declareReg
    reporting (fun memory => memory.stackFwpkg.errorStr)
      (fwpkgInit .stack filename)
    Program.unwinding
      (do
        reporting (fun memory => memory.stackReg.errorStr)
          (regInitFromFwpkg .stack)
        ovLoadFirmwareFromFwpkg .stack
        let memory ← Program.get
        reporting chaErrorStr (chaSetReg memory.stackReg))
      (fwpkgDestroy .stack)
    fwpkgDestroy .stack

/-! ## The other functions -/

def ovOpen : Action Unit :=
  entering do
    reporting chaErrorStr chaOpen
    reporting chbErrorStr chbOpen
    ovLoadFirmwareFromFwpkg .device
    reporting chaErrorStr chaSwitchFifoMode
    reporting chaErrorStr chaStopStream

def ovCaptureStart : Action Unit :=
  entering do
    reporting chaErrorStr chaLoopInit
    reporting chaErrorStr chaStartStream

def ovGetUsbSpeed : Action OvUsbSpeed :=
  entering (reporting chaErrorStr chaGetUsbSpeed)

def ovSetUsbSpeed (speed : OvUsbSpeed) : Action Unit :=
  entering (reporting chaErrorStr (chaSetUsbSpeed speed))

/-! ## A small firmware -/

/-- The smallest bitstream file with a byte of data. -/
def smallBitstream : List UInt8 :=
  header ++
    [0x61, 0, 0, 0x62, 0, 0, 0x63, 0, 0, 0x64, 0, 0, 0x65, 0, 0, 0, 1, 0xff]

/-- The answers to the calls of `prepare`, with this file in the package. -/
def smallPackage : List Answer :=
  [⟨0, [], "", some smallBitstream.length⟩, counted 1, counted 1,
    delivered smallBitstream, counted 0, counted 0, counted 0, counted 0,
    counted 0]

/-- A map with the same address, of one digit, for all registers. -/
def smallMap (digit : UInt8) : List UInt8 :=
  regDecode.flatMap fun entry => ascii entry.1 ++ [0x3d, digit, 0x0a]

/-- The answers to `fwpkg_init` and `reg_init_from_fwpkg` with such a map. -/
def smallMapPackage (digit : UInt8) : List Answer :=
  [counted 1, counted 0, counted 1,
    ⟨0, [], "", some (smallMap digit).length⟩, counted 1, counted 1,
    delivered (smallMap digit), counted 0, counted 0]

/-- The answers to the reset of the FPGA and the upload of the bitstream. -/
def smallUpload : List Answer :=
  [counted 0, counted 0, counted 0, counted 0, delivered [0], counted 1,
    counted 0, counted 8, counted 1, delivered [portbDoneBit]]

/-- The answers to `cha_switch_fifo_mode`, which end with this echo. -/
def smallSwitch (echo : List UInt8) : List Answer :=
  [counted 0, counted 0, counted 0, counted 0, counted 512, counted 0,
    counted 5, delivered echo, counted 0]

/-- The answers to a load of all these that ends without an error. -/
def smallLoad (digit : UInt8) (echo : List UInt8) : List Answer :=
  smallMapPackage digit ++ smallPackage ++ smallUpload ++ [counted 0] ++
    smallSwitch echo ++ [counted 0]

example :
    ((prepare .device).run Memory.zeroed smallPackage).ending =
      .returned () := by
  decide +kernel

end OpenVizsla.Device.Ov
