import OpenVizsla.Device.State

/-!
# Channel B

The functions of `chb.c`: the port that resets the FPGA and reads its status.
-/

namespace OpenVizsla.Device.Chb

open OpenVizsla.Foundation.Calls
open OpenVizsla.Device.State

/-! ## Constants -/

/-- `PORTB_TCK_BIT | PORTB_TDI_BIT | PORTB_TMS_BIT` -/
def portbLowOutputs : UInt8 := 0x0b

def portbTmsBit : UInt8 := 0x08

def portbCsiBit : UInt8 := 0x01

def portbRdwrBit : UInt8 := 0x02

def portbDoneBit : UInt8 := 0x04

def portbProgBit : UInt8 := 0x08

def portbM0Bit : UInt8 := 0x40

def portbM1Bit : UInt8 := 0x80

/-- The MPSSE commands of libftdi that are in use. -/
def setBitsLow : UInt8 := 0x80

def setBitsHigh : UInt8 := 0x82

def getBitsHigh : UInt8 := 0x83

def tckDivisor : UInt8 := 0x86

/-- `status & PORTB_DONE_BIT` -/
def Done (status : UInt8) : Prop :=
  status &&& portbDoneBit ≠ 0

instance (status : UInt8) : Decidable (Done status) :=
  inferInstanceAs (Decidable (_ ≠ _))

/-! ## Calls on the channel -/

/-- `chb->error_str = text; goto fail` -/
def chbFail {α : Type} (text : String) : Action α := do
  Program.modify fun memory =>
    { memory with chb.errorStr := ErrorStr.set text }
  Program.fail

/--
A call of libftdi.  When the result is negative, libftdi has the error string.
-/
def chbFtdi (call : FtdiCall) : Action Answer := do
  let answer ← Program.call (.ftdi .b call)
  if answer.ret < 0 then chbFail answer.text else pure answer

def chbSet (cmd val mask : UInt8) : Action Unit := do
  let _ ← chbFtdi (.writeData [cmd, val, mask])

def chbTckDivisor (value : UInt16) : Action Unit :=
  chbSet tckDivisor (value &&& 0xff).toUInt8 (value >>> 8).toUInt8

def chbSetLow (val : UInt8) : Action Unit :=
  chbSet setBitsLow val portbLowOutputs

def chbSetHigh (val : UInt8) : Action Unit :=
  chbSet setBitsHigh val
    (portbCsiBit ||| portbRdwrBit ||| portbM1Bit ||| portbProgBit |||
      portbM0Bit)

/-- A read without a byte leaves `*val` as it is. -/
def chbGet (val cmd : UInt8) : Action UInt8 := do
  let _ ← chbFtdi (.writeData [cmd])
  let answer ← chbFtdi (.readData 1)
  pure ((answer.received 1).headD val)

def chbGetHigh (val : UInt8) : Action UInt8 :=
  chbGet val getBitsHigh

/-! ## Functions -/

def chbOpen : Action Unit := do
  let _ ← chbFtdi (.usbOpen 0x1d50 0x607c)
  Program.unwinding
    (do
      let _ ← chbFtdi .usbReset
      let _ ← chbFtdi (.setEventChar 0 0)
      let _ ← chbFtdi (.setErrorChar 0 0)
      let _ ← chbFtdi .setflowctrlRtsCts
      let _ ← chbFtdi (.setBitmode 0 .reset)
      let _ ← chbFtdi (.setBitmode 0 .mpsse)
      chbTckDivisor 0
      chbSetLow portbTmsBit)
    (Program.call (.ftdi .b .usbClose))

/-- The variables of a status loop: `ret`, `try` and `status`. -/
structure Tries where
  ret : Int
  left : Nat
  status : UInt8
deriving DecidableEq, Repr

/-- The value of `ret` after `ret = chb_get_high(chb, &status)`. -/
def chbGetHighRet (status : UInt8) : Action (Int × UInt8) := do
  match ← (chbGetHigh status).attempt with
  | some status => pure (0, status)
  | none => pure (-1, status)

/-- The status loop of `chb_switch_program_mode`, without its delays. -/
def awaitReset : (left : Nat) → (status : UInt8) → Action Tries
  | 0, status => pure ⟨0, 0, status⟩
  | left + 1, status => do
      let (ret, status) ← chbGetHighRet status
      if ret = 0 ∧ Done status then awaitReset left status
      else pure ⟨ret, left + 1, status⟩

def chbSwitchProgramMode : Action Unit := do
  chbSetHigh (portbCsiBit ||| portbRdwrBit ||| portbProgBit ||| portbM1Bit)
  chbSetHigh (portbCsiBit ||| portbM1Bit)
  chbSetHigh (portbProgBit ||| portbM1Bit)
  let tries ← awaitReset 3 0
  if tries.ret < 0 then
    Program.fail
  else if tries.left = 0 ∧ Done tries.status then
    chbFail "done bit stuck high after going into programming mode"
  else
    pure ()

end OpenVizsla.Device.Chb
