import OpenVizsla.Capture.Synchronisation

/-!
# What a capture loop keeps up

A property of the control data that the two callbacks of the decoder keep,
that an error does not end, and that has nothing to do with the transfers, is
kept in all of `cha_loop_run`.
-/

namespace OpenVizsla.Capture.Upkeep

open OpenVizsla.Foundation.Runs
open OpenVizsla.Decoder.Callbacks
open OpenVizsla.Capture.Loop
open OpenVizsla.Capture.Synchronisation

variable {υ : Type*}

/-- What the functions of the loop need of a property. -/
structure LoopUpkeep (Kept : LoopControl υ → Prop) : Prop where
  packet :
    ∀ {control} complete, Kept control →
      Kept (chaLoopPacketCallback control complete)
  busFrame :
    ∀ {control} addr value, Kept control →
      Kept (chaLoopBusFrameCallback control addr value)
  error :
    ∀ {control} errorStr, Kept control →
      Kept { control with state := .fatalError, errorStr := errorStr }
  transfers :
    ∀ {control} transfer active complete, Kept control →
      Kept { control with
        transfer := transfer
        activeTransfers := active
        complete := complete }

namespace LoopUpkeep

variable {Kept : LoopControl υ → Prop} (upkeep : LoopUpkeep Kept)
include upkeep

theorem fail {control : LoopControl υ} (kept : Kept control) (code : Int) :
    Kept (fail control code) :=
  upkeep.error _ kept

theorem cancel {control : LoopControl υ} (kept : Kept control) :
    Kept (chaLoopCancelTransfer control) :=
  upkeep.transfers _ control.activeTransfers control.complete kept

theorem retire {control : LoopControl υ} (kept : Kept control) :
    Kept (retire control) :=
  upkeep.transfers control.transfer _ _ kept

theorem submitted {control : LoopControl υ} (kept : Kept control)
    (index : Fin 3) : Kept (submitted control index) :=
  upkeep.transfers _ control.activeTransfers control.complete kept

theorem ended {control : LoopControl υ} (kept : Kept control)
    (index : Fin 3) : Kept (ended control index) :=
  upkeep.transfers _ control.activeTransfers control.complete kept

theorem decodePacket {loop : ChaLoop υ} (kept : Kept loop.control)
    (packet : List UInt8) : Kept (decodePacket loop packet).control := by
  unfold Loop.decodePacket
  split
  · have called := frameDecoderProc_preserves Kept decoderOps
      (fun complete _ before => upkeep.packet complete before)
      (fun addr value _ before => upkeep.busFrame addr value before)
      loop.fd (packet.drop 2) kept
    simp only
    split
    · exact upkeep.error _ called
    · exact called
  · exact kept

theorem decodeTransfer (ftdi : FtdiContext) {loop : ChaLoop υ}
    (kept : Kept loop.control) (data : List UInt8) :
    Kept (decodeTransfer ftdi loop data).control := by
  fun_induction Loop.decodeTransfer ftdi loop data with
  | case1 loop data more ih => exact ih (upkeep.decodePacket kept _)
  | case2 loop data done => exact kept

theorem transferCallback {ftdi : FtdiContext} {loop next : ChaLoop υ}
    {index : Fin 3} {status : TransferStatus} {data : List UInt8}
    {results : List Int} (kept : Kept loop.control)
    (called :
      chaLoopTransferCallback ftdi loop index status data results =
        some next) : Kept next.control := by
  cases status with
  | completed =>
      have decoded := upkeep.decodeTransfer ftdi kept data
      simp only [chaLoopTransferCallback] at called
      split at called
      · obtain ⟨result, -, rfl⟩ := Option.map_eq_some_iff.mp called
        simp only
        split
        · exact upkeep.retire (upkeep.cancel (upkeep.fail decoded result))
        · exact upkeep.submitted decoded index
      · cases called
        exact upkeep.retire (upkeep.cancel decoded)
  | cancelled =>
      cases called
      exact upkeep.retire kept
  | error | timedOut | stall | noDevice | overflow =>
      cases called
      exact upkeep.retire (upkeep.fail kept _)

theorem step {ftdi : FtdiContext} {capture next : CaptureState υ}
    {event : Event} (inRun : event.InRun) (kept : Kept capture.loop.control)
    (stepped : step ftdi capture event = some next) :
    Kept next.loop.control := by
  cases event with
  | dispatch count submits => exact inRun.elim
  | stop submits => exact inRun.elim
  | handled result =>
      rw [(step_handled stepped).1]
      unfold handleEvents
      split
      · exact upkeep.fail kept result
      · exact kept
  | transfer index status data results =>
      obtain ⟨-, -, called⟩ := step_transfer stepped
      exact upkeep.transferCallback (upkeep.ended kept index) called

theorem run {ftdi : FtdiContext} {start finish : CaptureState υ}
    {events : List Event} (inRun : ∀ event ∈ events, event.InRun)
    (kept : Kept start.loop.control)
    (reached : run (Loop.step ftdi) start events = some finish) :
    Kept finish.loop.control :=
  run_invariant_of
    (fun _ _ _ kept inRun stepped => upkeep.step inRun kept stepped)
    kept inRun reached

theorem submitTransfers (submits : Fin 3 → Int) (indices : List (Fin 3))
    {loop : LoopControl υ} (kept : Kept loop) :
    Kept (submitTransfers submits indices loop) := by
  induction indices generalizing loop with
  | nil => exact kept
  | cons index rest ih =>
      rw [Loop.submitTransfers]
      split
      · exact upkeep.fail kept 0
      · have counted := upkeep.transfers loop.transfer
          (loop.activeTransfers + 1) loop.complete kept
        exact ih (upkeep.submitted counted index)

/-- A run is entered with the property when its cleared control data has it. -/
theorem chaLoopRun {capture : CaptureState υ} {count : Int}
    (kept : Kept (cleared capture.loop.control count)) (stopping : Bool)
    (submits : Fin 3 → Int) :
    Kept (chaLoopRun capture stopping count submits).loop.control := by
  by_cases fatal : capture.loop.control.state = .fatalError
  · rw [chaLoopRun_of_fatal fatal]
    exact upkeep.transfers capture.loop.control.transfer
      capture.loop.control.activeTransfers false kept
  · rw [chaLoopRun_of_alive fatal]
    have active := upkeep.submitTransfers submits [0, 1, 2] kept
    simp only [CaptureState.setControl]
    split
    · exact upkeep.cancel active
    · exact active

end LoopUpkeep

end OpenVizsla.Capture.Upkeep
