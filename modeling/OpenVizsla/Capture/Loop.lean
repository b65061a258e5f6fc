import OpenVizsla.Foundation.Runs
import OpenVizsla.Register.Map
import OpenVizsla.Decoder.Callbacks

/-!
# The capture loop

`struct cha_loop` of `cha.c` and its functions.  The loop keeps three bulk
transfers in flight; `libusb` calls back when one of them ends, and the
callback decodes the data and submits the transfer again.

`libusb` is the environment: it chooses the results of the submissions, the
order in which transfers end, their status and their data.  What it promises
is part of `step`: it calls back once for each submission, it reports a
transfer as cancelled only if that was requested, and it does not return more
data than the buffer holds.

The fields `delivered` and `fed` are history variables: nothing reads them.
-/

namespace OpenVizsla.Capture.Loop

open OpenVizsla.Foundation.Integers
open OpenVizsla.Register.Map
open OpenVizsla.Decoder.Packet
open OpenVizsla.Decoder.PacketProc
open OpenVizsla.Decoder.FrameProc

/-! ## State -/

/-- `enum cha_loop_state` -/
inductive ChaLoopState where
  | running
  | fatalError
  | breakLoop
  | countLimit
  | endOfStream
  | hostReadOff
deriving DecidableEq, Repr

/-- The values of the enumeration. -/
def ChaLoopState.value : ChaLoopState → Int
  | .running => 0
  | .fatalError => 1
  | .breakLoop => 2
  | .countLimit => 3
  | .endOfStream => 4
  | .hostReadOff => 5

/-- `enum libusb_transfer_status` -/
inductive TransferStatus where
  | completed
  | error
  | timedOut
  | cancelled
  | stall
  | noDevice
  | overflow
deriving DecidableEq, Repr

/-- The values of the enumeration. -/
def TransferStatus.value : TransferStatus → Int
  | .completed => 0
  | .error => 1
  | .timedOut => 2
  | .cancelled => 3
  | .stall => 4
  | .noDevice => 5
  | .overflow => 6

/-- `LIBUSB_ERROR_TIMEOUT` -/
def libusbErrorTimeout : Int := -7

/-- `LIBUSB_ERROR_INTERRUPTED` -/
def libusbErrorInterrupted : Int := -10

/-- An error string: a text, or what `libusb_error_name` says about a code. -/
inductive ErrorText where
  | text (message : String)
  | libusbErrorName (code : Int)
deriving DecidableEq, Repr

/-- The view that `libusb` has of a transfer. -/
structure Transfer where
  inFlight : Bool
  cancelRequested : Bool
deriving DecidableEq, Repr

instance transfer_neZero : NeZero 3 :=
  ⟨by decide⟩

/--
An `ov_packet_decoder_callback`, on the client's state in place of
`user_data`.  It also tells whether it called `ov_capture_breakloop`.
-/
abbrev UserCallback (υ : Type*) := υ → OvPacket → υ × Bool

/--
`struct cha_loop` without the frame decoder, with the register map and the
error string of its `struct cha`.
-/
structure LoopControl (υ : Type*) where
  reg : Reg
  errorStr : Option ErrorText
  transfer : Fin 3 → Transfer
  activeTransfers : Nat
  callback : Option (UserCallback υ)
  userData : υ
  count : Int
  maxCount : Int
  state : ChaLoopState
  complete : Bool
  delivered : List OvPacket

/-- `struct cha_loop` -/
structure ChaLoop (υ : Type*) where
  fd : FrameDecoder
  control : LoopControl υ
  fed : List UInt8

/--
What `libftdi` knows about the device.  The packet size is the one of the
endpoint, 64 or 512 bytes.
-/
structure FtdiContext where
  maxPacketSize : Nat
  maxPacketSize_pos : 0 < maxPacketSize

/-- The size of the transfer buffers. -/
def bufferSize : Nat := 4096

variable {υ : Type*}

/-! ## Functions of the loop -/

/-- Cancellation of a transfer that is not in flight has no effect. -/
def chaLoopCancelTransfer (loop : LoopControl υ) : LoopControl υ :=
  { loop with
    transfer := fun index =>
      { loop.transfer index with
        cancelRequested :=
          (loop.transfer index).inFlight ||
            (loop.transfer index).cancelRequested } }

def chaLoopBreak (loop : LoopControl υ) : LoopControl υ :=
  chaLoopCancelTransfer { loop with state := .breakLoop }

/-- The call of the user's function. -/
def callUser (loop : LoopControl υ) (packet : OvPacket) : LoopControl υ :=
  match loop.callback with
  | none => loop
  | some callback =>
      let called : LoopControl υ :=
        { loop with
          userData := (callback loop.userData packet).1
          delivered := loop.delivered ++ [packet] }
      if (callback loop.userData packet).2 then chaLoopBreak called
      else called

/-- `if (loop->max_count > 0 && loop->count++ >= loop->max_count)` -/
def countPacket (loop : LoopControl υ) : LoopControl υ :=
  if loop.maxCount > 0 then
    { loop with
      count := loop.count + 1
      state :=
        if loop.count ≥ loop.maxCount then .countLimit else loop.state }
  else
    loop

def chaLoopPacketCallback (loop : LoopControl υ) (packet : OvPacket) :
    LoopControl υ :=
  if loop.state ≠ .running then
    -- leftover packets may follow in the data that was read already
    loop
  else
    let counted := countPacket (callUser loop packet)
    if packet.flags &&& ovFlagsHf0Last ≠ 0 then
      { counted with state := .endOfStream }
    else
      counted

def chaLoopBusFrameCallback (loop : LoopControl υ) (addr : UInt16)
    (value : UInt8) : LoopControl υ :=
  if addr &&& 0x7fff = loop.reg.addr .sdramHostReadGo ∧ value = 0 then
    { loop with state := .hostReadOff }
  else
    loop

/-- The `struct decoder_ops` that `cha_loop_init` installs. -/
def decoderOps : DecoderOps (LoopControl υ) where
  packet := some chaLoopPacketCallback
  busFrame := some chaLoopBusFrameCallback

/-! ## The transfer callback -/

/-- Decode one packet of the FTDI chip, which starts with two status bytes. -/
def decodePacket (loop : ChaLoop υ) (packet : List UInt8) : ChaLoop υ :=
  if packet.length > 2 then
    let outcome :=
      frameDecoderProc decoderOps loop.fd loop.control (packet.drop 2)
    { fd := outcome.processor
      control :=
        if frameDecoderReturn outcome < 0 then
          { outcome.user with
            state := .fatalError
            errorStr := outcome.processor.pd.errorStr.map .text }
        else
          outcome.user
      fed := loop.fed ++ packet.drop 2 }
  else
    loop

/-- The loop over the data of a transfer. -/
def decodeTransfer (ftdi : FtdiContext) (loop : ChaLoop υ)
    (data : List UInt8) : ChaLoop υ :=
  if _more : loop.control.state = .running ∧ data ≠ [] then
    decodeTransfer ftdi (decodePacket loop (data.take ftdi.maxPacketSize))
      (data.drop ftdi.maxPacketSize)
  else
    loop
termination_by data.length
decreasing_by
  have nonempty := List.length_pos_of_ne_nil _more.2
  have positive := ftdi.maxPacketSize_pos
  simp only [List.length_drop]
  omega

/--
Submit until the call is not interrupted.  `results` are the results of the
calls; it is `none` when there are too few of them.
-/
def resubmit : List Int → Option Int
  | [] => none
  | result :: rest =>
      if result = libusbErrorInterrupted then resubmit rest
      else some result

/-- `libusb` has accepted the transfer. -/
def submitted (loop : LoopControl υ) (index : Fin 3) : LoopControl υ :=
  { loop with
    transfer := Function.update loop.transfer index ⟨true, false⟩ }

/-- `loop->complete = !(--loop->active_transfers)` -/
def retire (loop : LoopControl υ) : LoopControl υ :=
  { loop with
    activeTransfers := sizeSub loop.activeTransfers 1
    complete := sizeSub loop.activeTransfers 1 = 0 }

@[simp]
theorem retire_transfer (loop : LoopControl υ) :
    (retire loop).transfer = loop.transfer :=
  rfl

@[simp]
theorem retire_state (loop : LoopControl υ) :
    (retire loop).state = loop.state :=
  rfl

/-- An error outside the decoder. -/
def fail (loop : LoopControl υ) (code : Int) : LoopControl υ :=
  { loop with
    state := .fatalError
    errorStr := some (.libusbErrorName code) }

def chaLoopTransferCallback (ftdi : FtdiContext) (loop : ChaLoop υ)
    (index : Fin 3) (status : TransferStatus) (data : List UInt8)
    (results : List Int) : Option (ChaLoop υ) :=
  match status with
  | .completed =>
      let decoded := decodeTransfer ftdi loop data
      if decoded.control.state = .running then
        (resubmit results).map fun result =>
          { decoded with
            control :=
              if result < 0 then
                retire (chaLoopCancelTransfer (fail decoded.control result))
              else
                submitted decoded.control index }
      else
        some { decoded with
          control := retire (chaLoopCancelTransfer decoded.control) }
  | .cancelled => some { loop with control := retire loop.control }
  | _ => some { loop with control := retire (fail loop.control status.value) }

/-! ## Runs -/

/-- The submissions at the start of `cha_loop_run`, up to the first failure. -/
def submitTransfers (submits : Fin 3 → Int) :
    List (Fin 3) → LoopControl υ → LoopControl υ
  | [], loop => loop
  | index :: rest, loop =>
      if submits index < 0 then
        -- the result of the call is not stored: `ret` is still 0
        fail loop 0
      else
        submitTransfers submits rest
          (submitted { loop with
            activeTransfers := loop.activeTransfers + 1 } index)

/-- Where the program is. -/
inductive Phase where
  /-- Outside of `cha_loop_run`, with the value that it returned last. -/
  | idle (returned : Option Int)
  /-- In the `do ... while` of `cha_loop_run`. -/
  | handling (stopping : Bool)
  /-- An assertion has failed. -/
  | aborted
  /-- `ov_capture_stop` has destroyed the loop. -/
  | stopped (drained : Int)
deriving DecidableEq, Repr

/-- A capture: the loop, and where the program is. -/
structure CaptureState (υ : Type*) where
  loop : ChaLoop υ
  phase : Phase

/-- The capture with other loop data. -/
def CaptureState.setControl (capture : CaptureState υ) (control : LoopControl υ) :
    CaptureState υ :=
  { capture with loop := { capture.loop with control := control } }

/-- The caller of `cha_loop_run` goes on. -/
def returnFrom (stopping : Bool) (value : Int) : Phase :=
  if stopping then .stopped value else .idle (some value)

/-- `cha_loop_run`, up to the `do ... while`. -/
def chaLoopRun (capture : CaptureState υ) (stopping : Bool) (count : Int)
    (submits : Fin 3 → Int) : CaptureState υ :=
  let entered : LoopControl υ :=
    { capture.loop.control with
      count := 0
      maxCount := count
      complete := false }
  if entered.state = .fatalError then
    { capture.setControl entered with
      phase := returnFrom stopping (-entered.state.value) }
  else
    let active := submitTransfers submits [0, 1, 2]
      { entered with activeTransfers := 0 }
    { capture.setControl
        (if active.state ≠ .running then chaLoopCancelTransfer active
          else active) with
      phase := .handling stopping }

/-- The control data for which `cha_loop_run` submits its transfers. -/
def cleared (loop : LoopControl υ) (count : Int) : LoopControl υ :=
  { loop with
    count := 0
    maxCount := count
    complete := false
    activeTransfers := 0 }

theorem cleared_state (loop : LoopControl υ) (count : Int) :
    (cleared loop count).state = loop.state :=
  rfl

/-- After an earlier error, the call returns at once. -/
theorem chaLoopRun_of_fatal {capture : CaptureState υ} {stopping : Bool}
    {count : Int} {submits : Fin 3 → Int}
    (fatal : capture.loop.control.state = .fatalError) :
    chaLoopRun capture stopping count submits =
      { capture.setControl
          { capture.loop.control with
            count := 0
            maxCount := count
            complete := false } with
        phase := returnFrom stopping (-1) } := by
  simp only [chaLoopRun, if_pos fatal]
  rw [fatal]
  rfl

/-- Otherwise the transfers are submitted. -/
theorem chaLoopRun_of_alive {capture : CaptureState υ} {stopping : Bool}
    {count : Int} {submits : Fin 3 → Int}
    (alive : capture.loop.control.state ≠ .fatalError) :
    chaLoopRun capture stopping count submits =
      let active := submitTransfers submits [0, 1, 2]
        (cleared capture.loop.control count)
      { capture.setControl
          (if active.state ≠ .running then chaLoopCancelTransfer active
            else active) with
        phase := .handling stopping } :=
  if_neg alive

/-- `libusb_handle_events_timeout_completed` returns. -/
def handleEvents (loop : LoopControl υ) (result : Int) : LoopControl υ :=
  if result < 0 ∧ result ≠ libusbErrorInterrupted ∧
      result ≠ libusbErrorTimeout then
    fail loop result
  else
    loop

/-- The value that `cha_loop_run` returns. -/
def runReturn (loop : LoopControl υ) : Int :=
  if loop.state ≠ .countLimit then -loop.state.value else loop.count

/-- `ov_capture_start`, in any memory and with the transfers allocated. -/
def ovCaptureStart (memory : CaptureState υ) (reg : Reg) (packet : OvPacket)
    (size : Nat) (callback : Option (UserCallback υ)) (userData : υ) :
    CaptureState υ where
  loop :=
    { fd := frameDecoderInit memory.loop.fd packet size
      control :=
        { memory.loop.control with
          reg := reg
          transfer := fun _ => ⟨false, false⟩
          callback := callback
          userData := userData
          state := .running
          delivered := [] }
      fed := [] }
  phase := .idle none

/-- A capture in zeroed memory, with one register that is not zero. -/
def started (callback : Option (UserCallback υ)) (userData : υ) :
    CaptureState υ :=
  let control : LoopControl υ :=
    { reg := ⟨none, fun _ => 0⟩
      errorStr := none
      transfer := fun _ => ⟨false, false⟩
      activeTransfers := 0
      callback := none
      userData := userData
      count := 0
      maxCount := 0
      state := .running
      complete := false
      delivered := [] }
  ovCaptureStart ⟨⟨zeroed 0, control, []⟩, .idle none⟩
    ⟨none, fun name => if name = .sdramHostReadGo then 0x0c28 else 0⟩
    ⟨0, 0, 0, 0, []⟩ 1024 callback userData

/-- What the program and its environment do. -/
inductive Event where
  /-- `ov_capture_dispatch`, up to the `do ... while`. -/
  | dispatch (count : Int) (submits : Fin 3 → Int)
  /-- `ov_capture_stop`, from behind the halt command to the `do ... while`. -/
  | stop (submits : Fin 3 → Int)
  /-- `libusb` calls back for a transfer. -/
  | transfer (index : Fin 3) (status : TransferStatus) (data : List UInt8)
      (results : List Int)
  /-- The body of the `do ... while` ends. -/
  | handled (result : Int)

/-- The events of a run of `cha_loop_run`. -/
def Event.InRun : Event → Prop
  | .dispatch _ _ => False
  | .stop _ => False
  | .transfer _ _ _ _ => True
  | .handled _ => True

/-- What `libusb` promises about a callback. -/
def Promised (loop : LoopControl υ) (index : Fin 3) (status : TransferStatus)
    (data : List UInt8) : Prop :=
  (loop.transfer index).inFlight = true ∧
    (status = .cancelled → (loop.transfer index).cancelRequested = true) ∧
    data.length ≤ bufferSize

instance (loop : LoopControl υ) (index : Fin 3) (status : TransferStatus)
    (data : List UInt8) : Decidable (Promised loop index status data) :=
  inferInstanceAs (Decidable (_ ∧ _ ∧ _))

/-- The transfer is no longer in flight when `libusb` calls back. -/
def ended (loop : LoopControl υ) (index : Fin 3) : LoopControl υ :=
  { loop with
    transfer := Function.update loop.transfer index ⟨false, false⟩ }

/-- One event. -/
def step (ftdi : FtdiContext) (capture : CaptureState υ) :
    Event → Option (CaptureState υ)
  | .dispatch count submits =>
      match capture.phase with
      | .idle _ => some (chaLoopRun capture false count submits)
      | _ => none
  | .stop submits =>
      match capture.phase with
      | .idle _ =>
          some (chaLoopRun
            (capture.setControl { capture.loop.control with
              callback := none
              state := .running })
            true (-1) submits)
      | _ => none
  | .transfer index status data results =>
      match capture.phase with
      | .handling _ =>
          if Promised capture.loop.control index status data then
            (chaLoopTransferCallback ftdi
              { capture.loop with control := ended capture.loop.control index }
              index status data results).map fun loop =>
                { capture with loop := loop }
          else
            none
      | _ => none
  | .handled result =>
      match capture.phase with
      | .handling stopping =>
          let control := handleEvents capture.loop.control result
          if control.complete then
            some { capture.setControl control with
              phase :=
                if control.state ≠ .running ∧ control.activeTransfers = 0 then
                  returnFrom stopping (runReturn control)
                else
                  .aborted }
          else
            some (capture.setControl control)
      | _ => none

end OpenVizsla.Capture.Loop
