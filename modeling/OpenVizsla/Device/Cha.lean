import OpenVizsla.Device.State
import OpenVizsla.Register.Message

/-!
# Channel A

The functions of `cha.c` that talk to the device: modes, register
transactions, streams, and the transfers of a capture loop.
-/

namespace OpenVizsla.Device.Cha

open OpenVizsla.Foundation.Calls
open OpenVizsla.Register.Map
open OpenVizsla.Register.Message
open OpenVizsla.Device.State

/-! ## Calls on the channel -/

/-- `cha->error_str = text; goto fail` -/
def chaFail {α : Type} (text : String) : Action α := do
  Program.modify fun memory =>
    { memory with cha.errorStr := ErrorStr.set text }
  Program.fail

/--
A call of libftdi.  When the result is negative, libftdi has the error string.
-/
def chaFtdi (call : FtdiCall) : Action Answer := do
  let answer ← Program.call (.ftdi .a call)
  if answer.ret < 0 then chaFail answer.text else pure answer

/-- `ftdi_read_data(&cha->ftdi, buf, size)` -/
def chaReadData (size : Nat) : Action (List UInt8) := do
  let answer ← chaFtdi (.readData size)
  pure (answer.received size)

theorem chaReadData_asks (size : Nat) : (chaReadData size).Asks :=
  Program.asks_bind (Program.asks_bind Program.asks_call)

/-! ## Registers -/

/--
Match the bytes of a read against the message.  Once the message is complete,
the others are not looked at.
-/
def matchBytes (msg : List UInt8) : Nat → List UInt8 → Nat
  | syncState, [] => syncState
  | syncState, byte :: buf =>
      let syncState := if msg[syncState]? = some byte then syncState + 1 else 0
      if syncState = 5 then 5 else matchBytes msg syncState buf

/-- The read loop of `cha_sync_stream`. -/
def syncReads (msg : List UInt8) : Action Unit :=
  Program.loop
    (fun syncState => do
      let buf ← chaReadData 32
      let syncState := matchBytes msg syncState buf
      pure (if syncState = 5 then .inr () else .inl syncState))
    (fun _ => (Program.asks_bind (chaReadData_asks 32)).paced)
    0

def chaSyncStream (addr : UInt16) : Action Unit := do
  let msg := syncMessage addr
  let _ ← chaFtdi .tcioflush
  let _ ← chaFtdi (.writeData msg)
  syncReads msg
  let _ ← chaFtdi .tcioflush

/-- The read loop of `cha_transaction`, which overwrites the request. -/
def transactionReads (msg : List UInt8) : Action (List UInt8) :=
  Program.loop
    (fun msg => do
      let buf ← chaReadData 5
      pure (if buf = [] then .inl msg
        else .inr (buf ++ msg.drop buf.length)))
    (fun _ => (Program.asks_bind (chaReadData_asks 5)).paced)
    msg

/-- The value byte `msg[3]` is what goes to `out_val`. -/
def chaTransaction (addr : UInt16) (inVal : UInt8) : Action UInt8 := do
  let msg := transactionMessage addr inVal
  let _ ← chaFtdi (.writeData msg)
  let msg ← transactionReads msg
  if chaTransactionChecksum (msg.take 4) ≠ msg.getD 4 0 then
    chaFail "Wrong checksum"
  else
    pure (msg.getD 3 0)

theorem chaTransaction_asks (addr : UInt16) (inVal : UInt8) :
    (chaTransaction addr inVal).Asks :=
  Program.asks_bind (Program.asks_bind Program.asks_call)

def chaWriteReg (addr : UInt16) (val : UInt8) : Action Unit := do
  let _ ← chaTransaction (addr ||| 0x8000) val

theorem chaWriteReg_asks (addr : UInt16) (val : UInt8) :
    (chaWriteReg addr val).Asks :=
  Program.asks_bind (chaTransaction_asks _ _)

def chaReadReg (addr : UInt16) : Action UInt8 :=
  chaTransaction addr 0

theorem chaReadReg_asks (addr : UInt16) : (chaReadReg addr).Asks :=
  chaTransaction_asks _ _

def chaCastReg (addr : UInt16) (val : UInt8) : Action Unit := do
  let _ ← chaFtdi (.writeData (castMessage addr val))

/-- From the last of four registers to the first one. -/
def chaWriteReg32 (addr : UInt16) (val : UInt32) : Action Unit :=
  Program.loop
    (fun ((i, val) : UInt16 × UInt32) =>
      if i ≠ addr then do
        chaWriteReg (i - 1) (val &&& 0xff).toUInt8
        pure (.inl (i - 1, val >>> 8))
      else
        pure (.inr ()))
    (by
      intro current
      dsimp only
      split
      case isTrue =>
          exact (Program.asks_bind (chaWriteReg_asks _ _)).paced
      case isFalse => exact Program.paced_pure)
    (addr + 4, val)

/--
From the first of four registers to the last one.  The values are shifted into
`val`.  The bound of the loop is an `int`.
-/
def chaReadReg32 (addr : UInt16) (val : UInt32) : Action UInt32 :=
  Program.loop
    (fun ((i, val) : UInt16 × UInt32) =>
      if i.toNat ≠ addr.toNat + 4 then do
        let tmp ← chaReadReg i
        pure (.inl (i + 1, (val <<< 8) ||| tmp.toUInt32))
      else
        pure (.inr val))
    (by
      intro current
      dsimp only
      split
      case isTrue => exact (Program.asks_bind (chaReadReg_asks _)).paced
      case isFalse => exact Program.paced_pure)
    (addr, val)

/-! ### Registers by name -/

def chaWriteRegByName (name : RegName) (val : UInt8) : Action Unit := do
  let memory ← Program.get
  chaWriteReg (memory.cha.reg.addr name) val

def chaReadRegByName (name : RegName) : Action UInt8 := do
  let memory ← Program.get
  chaReadReg (memory.cha.reg.addr name)

theorem chaReadRegByName_asks (name : RegName) :
    (chaReadRegByName name).Asks :=
  Program.asks_get fun _ => chaTransaction_asks _ _

def chaCastRegByName (name : RegName) (val : UInt8) : Action Unit := do
  let memory ← Program.get
  chaCastReg (memory.cha.reg.addr name) val

def chaWriteReg32ByName (name : RegName) (val : UInt32) : Action Unit := do
  let memory ← Program.get
  chaWriteReg32 (memory.cha.reg.addr name) val

def chaReadReg32ByName (name : RegName) (val : UInt32) : Action UInt32 := do
  let memory ← Program.get
  chaReadReg32 (memory.cha.reg.addr name) val

/-! ## Modes -/

def chaSwitchMode (mode : Bitmode) : Action Unit := do
  let _ ← chaFtdi (.setBitmode 0 .reset)
  let _ ← chaFtdi (.setBitmode 0xff mode)
  let _ ← chaFtdi (.setBaudrate 315000)
  let _ ← chaFtdi .tcioflush

def chaSwitchConfigMode : Action Unit :=
  chaSwitchMode .bitbang

def chaSwitchFifoMode : Action Unit := do
  chaSwitchMode .syncff
  let _ ← chaFtdi (.writeData (List.replicate 512 0))
  let memory ← Program.get
  chaSyncStream (0x8000 ||| memory.cha.reg.addr .sdramHostReadGo)

def chaOpen : Action Unit := do
  let _ ← chaFtdi (.usbOpen 0x1d50 0x607c)
  Program.unwinding
    (do
      let _ ← chaFtdi .usbReset
      chaSwitchConfigMode)
    (Program.call (.ftdi .a .usbClose))

def chaSetReg (reg : StackReg) : Action Unit :=
  Program.modify fun memory =>
    { memory with cha.reg := ⟨reg.errorStr.text, reg.addr⟩ }

/-! ## ULPI registers and the speed of the bus -/

/-- `UCFG_REG_GO | (addr & UCFG_REG_ADDRMASK)` -/
def ulpiCommand (addr : UInt8) : UInt8 :=
  0x80 ||| (addr &&& 0x3f)

/-- `do ... while (tmp & UCFG_REG_GO)` -/
def awaitUlpi (name : RegName) : Action Unit :=
  Program.loop
    (fun _ => do
      let tmp ← chaReadRegByName name
      pure (if tmp &&& 0x80 ≠ 0 then .inl () else .inr ()))
    (fun _ => (Program.asks_bind (chaReadRegByName_asks name)).paced)
    ()

def chaWriteUlpi (addr val : UInt8) : Action Unit := do
  chaWriteRegByName .ucfgWdata val
  chaWriteRegByName .ucfgWcmd (ulpiCommand addr)
  awaitUlpi .ucfgWcmd

def chaReadUlpi (addr : UInt8) : Action UInt8 := do
  chaWriteRegByName .ucfgRcmd (ulpiCommand addr)
  awaitUlpi .ucfgRcmd
  chaReadRegByName .ucfgRdata

/-- `enum ov_usb_speed` -/
inductive OvUsbSpeed where
  | lowSpeed
  | fullSpeed
  | highSpeed
deriving DecidableEq, Repr

def chaGetUsbSpeed : Action OvUsbSpeed := do
  let wdata ← chaReadUlpi 0x04
  if wdata = 0x4a then pure .lowSpeed
  else if wdata = 0x49 then pure .fullSpeed
  else if wdata = 0x48 then pure .highSpeed
  else chaFail "Invalid USB speed code"

def OvUsbSpeed.wdata : OvUsbSpeed → UInt8
  | .lowSpeed => 0x4a
  | .fullSpeed => 0x49
  | .highSpeed => 0x48

def chaSetUsbSpeed (speed : OvUsbSpeed) : Action Unit :=
  chaWriteUlpi 0x04 speed.wdata

/-! ## Streams -/

def chaStartStream : Action Unit := do
  chaWriteReg32ByName .sdramSinkRingBase 0
  chaWriteReg32ByName .sdramSinkRingEnd 0x01000000
  chaWriteReg32ByName .sdramHostReadRingBase 0
  chaWriteReg32ByName .sdramHostReadRingEnd 0x01000000
  chaWriteRegByName .sdramSinkPtrRead 0
  chaWriteRegByName .sdramSinkGo 1
  chaWriteRegByName .cstreamCfg 1
  chaCastRegByName .sdramHostReadGo 1

def chaHaltStream : Action Unit :=
  chaCastRegByName .sdramHostReadGo 0

def chaStopStream : Action Unit := do
  chaWriteRegByName .sdramHostReadGo 0
  chaWriteRegByName .cstreamCfg 0
  chaWriteRegByName .sdramSinkGo 0

/-! ## Transfers -/

/-- `for (; i > 0; --i) libusb_free_transfer(loop->transfer[i - 1])` -/
def freeTransfers : Nat → Action Unit
  | 0 => pure ()
  | i + 1 => do
      let memory ← Program.get
      let _ ← Program.call (.libusbFreeTransfer (memory.transfer i))
      freeTransfers i

/-- `cha->error_str = text`, and then the labels that free the transfers. -/
def failFreeing (text : String) (i : Nat) : Action Unit :=
  Program.unwinding (chaFail text) (freeTransfers i)

/-- The loop of `cha_loop_init` when `left` of its rounds are to come. -/
def allocTransfers : (left i : Nat) → Action Unit
  | 0, _ => pure ()
  | left + 1, i => do
      let tx ← Program.call .libusbAllocTransfer
      if tx.ret = 0 then
        failFreeing "Can not allocate libusb_transfer" i
      else do
        Program.modify fun memory =>
          { memory with
            transfer := Function.update memory.transfer i tx.ret }
        let buffer ← Program.call (.malloc 4096)
        if buffer.ret = 0 then
          failFreeing "Can not allocate transfer buffer" (i + 1)
        else
          allocTransfers left (i + 1)

/--
The transfers of `cha_loop_init`.  What it sets up besides cannot fail:
`frame_decoder_init` returns 0.
-/
def chaLoopInit : Action Unit :=
  allocTransfers 3 0

end OpenVizsla.Device.Cha
