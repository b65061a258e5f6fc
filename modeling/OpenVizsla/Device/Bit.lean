import OpenVizsla.Device.Cha
import OpenVizsla.Device.Chb

/-!
# Bitstreams

The functions of `bit.c`: the parser of the bitstream file and the loader.
-/

namespace OpenVizsla.Device.Bit

open OpenVizsla.Foundation.Calls
open OpenVizsla.Device.State
open OpenVizsla.Device.Chb

/-! ## The parser -/

/-- `bit->error_str = text; return -1` -/
def rejected (bit : State.Bit) (text : String) :
    Except State.Bit State.Bit :=
  .error { bit with errorStr := ErrorStr.set text }

/-- `bit->data += count; bit->size -= count` -/
def advance (bit : State.Bit) (count : Nat) : State.Bit :=
  { bit with data := bit.data + count, size := bit.size - count }

/-- The bytes from `bit->data` on. -/
def bytes (bit : State.Bit) (count : Nat) : List UInt8 :=
  (bit.buffer.drop bit.data).take count

/-- A number with the highest byte first. -/
def bigEndian (bytes : List UInt8) : Nat :=
  bytes.foldl (fun value byte => value * 256 + byte.toNat) 0

def header : List UInt8 :=
  [0x00, 0x09, 0x0f, 0xf0, 0x0f, 0xf0, 0x0f, 0xf0, 0x0f, 0xf0, 0x00, 0x00,
    0x01]

def bitDoParseField12 (bit : State.Bit) : Except State.Bit State.Bit :=
  if bit.size < header.length ∨ bytes bit header.length ≠ header then
    rejected bit "Wrong bitstream header"
  else
    .ok (advance bit header.length)

/-- `store` is what `*str = bit->data` does. -/
def bitDoParseFieldStr (key : UInt8) (store : State.Bit → State.Bit)
    (bit : State.Bit) : Except State.Bit State.Bit :=
  if bit.size < 3 then
    rejected bit "Too few bytes"
  else if bytes bit 1 ≠ [key] then
    rejected bit "Incorrent field key"
  else
    let bit := advance bit 1
    let len := bigEndian (bytes bit 2)
    let bit := advance bit 2
    if bit.size < len then
      rejected bit "Too few bytes"
    else
      .ok (advance (store bit) len)

def bitDoParseField23 : State.Bit → Except State.Bit State.Bit :=
  bitDoParseFieldStr 0x61 fun bit => { bit with ncdFilename := bit.data }

def bitDoParseField4 : State.Bit → Except State.Bit State.Bit :=
  bitDoParseFieldStr 0x62 fun bit => { bit with partName := bit.data }

def bitDoParseField5 : State.Bit → Except State.Bit State.Bit :=
  bitDoParseFieldStr 0x63 fun bit => { bit with date := bit.data }

def bitDoParseField6 : State.Bit → Except State.Bit State.Bit :=
  bitDoParseFieldStr 0x64 fun bit => { bit with time := bit.data }

def bitDoParseField7 (bit : State.Bit) : Except State.Bit State.Bit :=
  if bit.size < 5 then
    rejected bit "Too few bytes"
  else if bytes bit 1 ≠ [0x65] then
    rejected bit "Incorrent field key"
  else
    let bit := advance bit 1
    let len := bigEndian (bytes bit 4)
    let bit := advance { bit with bitLength := len } 4
    if bit.size < len then
      rejected bit "Too few bytes"
    else
      .ok bit

def bitDoParse (bit : State.Bit) : Except State.Bit State.Bit := do
  let bit ← bitDoParseField12 bit
  let bit ← bitDoParseField23 bit
  let bit ← bitDoParseField4 bit
  let bit ← bitDoParseField5 bit
  let bit ← bitDoParseField6 bit
  bitDoParseField7 bit

/-- `bit_init(&bit, data, size)`, with `size` bytes at `data`. -/
def bitInit (data : List UInt8) : Action Unit := do
  let memory ← Program.get
  let start : State.Bit :=
    { memory.bit with buffer := data, data := 0, size := data.length }
  match bitDoParse start with
  | .ok bit => Program.modify fun memory => { memory with bit := bit }
  | .error bit => do
      Program.modify fun memory => { memory with bit := bit }
      Program.fail

/-! ## The loader -/

def r2 (n : UInt8) : List UInt8 :=
  [n, n + 2 * 64, n + 1 * 64, n + 3 * 64]

def r4 (n : UInt8) : List UInt8 :=
  r2 n ++ r2 (n + 2 * 16) ++ r2 (n + 1 * 16) ++ r2 (n + 3 * 16)

def r6 (n : UInt8) : List UInt8 :=
  r4 n ++ r4 (n + 2 * 4) ++ r4 (n + 1 * 4) ++ r4 (n + 3 * 4)

def bitreverse8 (x : UInt8) : UInt8 :=
  (r6 0 ++ r6 2 ++ r6 1 ++ r6 3).getD x.toNat 0

/-- `bit->error_str = text; return -1` -/
def bitFail {α : Type} (text : String) : Action α := do
  Program.modify fun memory =>
    { memory with bit.errorStr := ErrorStr.set text }
  Program.fail

/-- `ftdi_transfer_data_done(tc)` -/
def transferDone (tc : Int) : Action Unit := do
  let done ← Program.call (.ftdi .a (.transferDataDone tc))
  if done.ret < 0 then bitFail done.text else pure ()

/-- The wait for the transfer of the round before, if there is one. -/
def previousDone (tc : Int) : Action Unit :=
  if tc ≠ 0 then transferDone tc else pure ()

theorem length_drop_lt {data : List UInt8} (more : data ≠ []) :
    (data.drop 4096).length < data.length := by
  rw [List.length_drop]
  have := List.length_pos_iff.mpr more
  omega

/-- The rounds of the double buffering, which give the last transfer. -/
def submitAll (bidx : Nat) (tc : Int) (data : List UInt8) : Action Int :=
  if data = [] then
    pure tc
  else do
    let buf := (data.take 4096).map bitreverse8
    previousDone tc
    let submitted ← Program.call (.ftdi .a (.writeDataSubmit bidx buf))
    if submitted.ret = 0 then
      bitFail submitted.text
    else
      submitAll ((bidx + 1) % 2) submitted.ret (data.drop 4096)
termination_by data.length
decreasing_by exact length_drop_lt ‹_›

/-- The write of `init_cycles`. -/
def startUpWrite : Call :=
  .ftdi .a (.writeData (List.replicate 8 0))

/-- The start-up loop of `bit_load_firmware`. -/
def awaitDone : (left : Nat) → (status : UInt8) → Action Tries
  | 0, status => pure ⟨0, 0, status⟩
  | left + 1, status => do
      let written ← Program.call startUpWrite
      if written.ret > 0 then do
        let (ret, status) ← chbGetHighRet status
        if ret = 0 ∧ ¬ Done status then awaitDone left status
        else pure ⟨ret, left + 1, status⟩
      else
        pure ⟨written.ret, left + 1, status⟩

/-- `bit_load_firmware` once the bitstream is written. -/
def startUp : Action Unit := do
  let tries ← awaitDone 3 0
  if tries.ret < 0 then
    Program.fail
  else if tries.left = 0 ∧ ¬ Done tries.status then
    bitFail "done bit stuck low after programming"
  else
    pure ()

def bitLoadFirmware : Action Unit := do
  let memory ← Program.get
  let tc ← submitAll 0 0 (bytes memory.bit memory.bit.size)
  transferDone tc
  startUp

end OpenVizsla.Device.Bit
