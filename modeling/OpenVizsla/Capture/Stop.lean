import OpenVizsla.Capture.FirstCause
import OpenVizsla.Capture.Upkeep
import OpenVizsla.Device.Cha

/-!
# Stopping a capture

`ov_capture_stop` halts the stream, drains what is left of it with
`cha_loop_run`, and stops the stream.  One variable holds what these stages
return, and the second stage writes over what the first one has left there.
It also takes the end of the stream for an error.  A stage that does not come
to its end, such as a command that is never acknowledged, keeps the function
from reporting anything.
-/

namespace OpenVizsla.Capture.Stop

open OpenVizsla.Foundation.Runs
open OpenVizsla.Foundation.Calls
open OpenVizsla.Decoder.Packet
open OpenVizsla.Capture.Loop
open OpenVizsla.Capture.Synchronisation
open OpenVizsla.Capture.FirstCause
open OpenVizsla.Capture.Upkeep
open OpenVizsla.Device.State
open OpenVizsla.Device.Cha

variable {υ : Type*}

/-! ## The function -/

/-- The value of a function that returns 0 or -1. -/
def returnValue : Ending Call Unit → Option Int
  | .returned () => some 0
  | .stopped .failed => some (-1)
  | .stopped .aborted => none
  | .stopped (.waiting _) => none

/-- The value of `cha_loop_run` for `ov_capture_stop`. -/
def drainValue : Phase → Option Int
  | .stopped drained => some drained
  | .idle _ => none
  | .handling _ => none
  | .aborted => none

/-- `cha_get_error_string` -/
def chaGetErrorString (memory : Memory) : Option ErrorText :=
  memory.cha.errorStr.text.map .text

/-- The variable `ret`, and `ov->error_str`. -/
structure Reported where
  ret : Int
  errorStr : Option ErrorText
deriving DecidableEq, Repr

/-- `if (stage < 0) { ret = -1; ov->error_str = errorStr; }` -/
def Reported.after (reported : Reported) (stage : Int)
    (errorStr : Option ErrorText) : Reported :=
  if stage < 0 then ⟨-1, errorStr⟩ else reported

/-- The assignment of the value of `cha_loop_run` and what depends on it. -/
def Reported.drained (reported : Reported) (drained : Int)
    (errorStr : Option ErrorText) : Reported :=
  if drained < 0 ∧ drained ≠ -ChaLoopState.hostReadOff.value then
    ⟨-1, errorStr⟩
  else
    { reported with ret := 0 }

/-- What libftdi and libusb say in the course of the function. -/
structure StopScript where
  halt : List Answer
  submits : Fin 3 → Int
  events : List Event
  stop : List Answer

/-- Where the function ends. -/
structure StopOutcome (υ : Type*) where
  reported : Reported
  memory : Memory
  capture : CaptureState υ

/-- A failed halt command leaves its message in `cha->error_str`. -/
def drainStart (capture : CaptureState υ)
    (halt : Outcome Call Answer Memory Unit) : CaptureState υ :=
  if halt.ending = .stopped .failed then
    capture.setControl { capture.loop.control with
      errorStr := chaGetErrorString halt.state }
  else
    capture

/-- It is `none` when a stage does not come to its end. -/
def ovCaptureStop (ftdi : FtdiContext) (script : StopScript)
    (memory : Memory) (capture : CaptureState υ)
    (errorStr : Option ErrorText) : Option (StopOutcome υ) :=
  let halt := chaHaltStream.run memory script.halt
  let stop := chaStopStream.run halt.state script.stop
  (returnValue halt.ending).bind fun halted =>
    (run (step ftdi) (drainStart capture halt)
        (.stop script.submits :: script.events)).bind fun drain =>
      (drainValue drain.phase).bind fun drained =>
        (returnValue stop.ending).bind fun stopped =>
          let afterHalt := (⟨0, errorStr⟩ : Reported).after halted
            (chaGetErrorString halt.state)
          let afterDrain := afterHalt.drained drained
            drain.loop.control.errorStr
          some
            { reported :=
                afterDrain.after stopped (chaGetErrorString stop.state)
              memory := stop.state
              capture := drain }

/-! ## How a drain ends -/

/-- The control data of a drain: no call of the user and no count. -/
structure Silent (control : LoopControl υ) : Prop where
  callback : control.callback = none
  unlimited : ¬ 0 < control.maxCount
  unbroken : control.state ≠ .breakLoop
  uncounted : control.state ≠ .countLimit

theorem Silent.packetCallback {control : LoopControl υ}
    (silent : Silent control) (packet : OvPacket) :
    Silent (chaLoopPacketCallback control packet) := by
  have called : callUser control packet = control := by
    rw [callUser, silent.callback]
  have counted : countPacket control = control := if_neg silent.unlimited
  unfold chaLoopPacketCallback
  rw [called, counted]
  split
  · exact silent
  · simp only
    split
    · exact ⟨silent.callback, silent.unlimited, by simp, by simp⟩
    · exact silent

theorem Silent.busFrameCallback {control : LoopControl υ}
    (silent : Silent control) (addr : UInt16) (value : UInt8) :
    Silent (chaLoopBusFrameCallback control addr value) := by
  unfold chaLoopBusFrameCallback
  split
  · exact ⟨silent.callback, silent.unlimited, by simp, by simp⟩
  · exact silent

theorem silent_upkeep : LoopUpkeep (Silent : LoopControl υ → Prop) where
  packet complete silent := silent.packetCallback complete
  busFrame addr value silent := silent.busFrameCallback addr value
  error errorStr silent :=
    ⟨silent.callback, silent.unlimited, by simp, by simp⟩
  transfers transfer active complete silent :=
    ⟨silent.callback, silent.unlimited, silent.unbroken,
      silent.uncounted⟩

/-- What `cha_loop_run` has returned when the loop is destroyed. -/
def Drained (capture : CaptureState υ) : Prop :=
  ∀ drained, capture.phase = .stopped drained →
    drained = runReturn capture.loop.control ∧
      capture.loop.control.state ≠ .running

theorem drained_step {ftdi : FtdiContext} {capture next : CaptureState υ}
    {event : Event} (inRun : event.InRun)
    (stepped : step ftdi capture event = some next) : Drained next := by
  intro drained phase
  obtain ⟨stopping, -, same | aborted | ⟨returns, settled⟩⟩ :=
    phase_step inRun stepped
  · rw [same] at phase
    cases phase
  · rw [aborted] at phase
    cases phase
  · rw [returns] at phase
    cases stopping with
    | true =>
        cases phase
        exact ⟨rfl, settled⟩
    | false => cases phase

/-- A drain from its first event on. -/
structure InDrain (capture : CaptureState υ) : Prop where
  phase : Draining capture.phase
  silent : Silent capture.loop.control
  drained : Drained capture

theorem InDrain.step {ftdi : FtdiContext} {capture next : CaptureState υ}
    {event : Event} (inDrain : InDrain capture)
    (stepped : step ftdi capture event = some next) : InDrain next := by
  obtain ⟨inRun, phase⟩ := draining_step inDrain.phase stepped
  exact ⟨phase, silent_upkeep.step inRun inDrain.silent stepped,
    drained_step inRun stepped⟩

theorem inDrain_stop {ftdi : FtdiContext} {capture next : CaptureState υ}
    {submits : Fin 3 → Int}
    (stepped : Loop.step ftdi capture (.stop submits) = some next) :
    InDrain next := by
  rw [step_stop stepped]
  let entered := capture.setControl { capture.loop.control with
    callback := none
    state := .running }
  have alive : entered.loop.control.state ≠ .fatalError := by
    show ChaLoopState.running ≠ .fatalError
    decide
  have phase : (chaLoopRun entered true (-1) submits).phase =
      .handling true := by
    rw [chaLoopRun_of_alive alive]
  refine ⟨.inl phase, ?_, fun drained stopped => ?_⟩
  · exact silent_upkeep.chaLoopRun
      ⟨rfl, (by decide : ¬ (0 : Int) < -1), ChaLoopState.noConfusion,
        ChaLoopState.noConfusion⟩
      true submits
  · rw [phase] at stopped
    cases stopped

/-- A drain ends with an error, the last packet, or the echo. -/
theorem drain_ends {ftdi : FtdiContext} {start drain : CaptureState υ}
    {submits : Fin 3 → Int} {events : List Event} {drained : Int}
    (reached :
      run (Loop.step ftdi) start (.stop submits :: events) = some drain)
    (phase : drain.phase = .stopped drained) :
    drained = -drain.loop.control.state.value ∧
      (drain.loop.control.state = .fatalError ∨
        drain.loop.control.state = .endOfStream ∨
        drain.loop.control.state = .hostReadOff) := by
  obtain ⟨entry, head, tail⟩ := run_cons_eq_some_iff.mp reached
  have inDrain : InDrain drain :=
    run_invariant (fun _ _ _ inDrain stepped => inDrain.step stepped)
      (inDrain_stop head) tail
  obtain ⟨value, stopped⟩ := inDrain.drained drained phase
  have uncounted := inDrain.silent.uncounted
  rw [runReturn, if_pos uncounted] at value
  refine ⟨value, ?_⟩
  cases state : drain.loop.control.state with
  | running => exact absurd state stopped
  | breakLoop => exact absurd state inDrain.silent.unbroken
  | countLimit => exact absurd state uncounted
  | fatalError => exact .inl rfl
  | endOfStream => exact .inr (.inl rfl)
  | hostReadOff => exact .inr (.inr rfl)

/-! ## What is reported -/

/-- The halt command is not sent. -/
def HaltFails (script : StopScript) (memory : Memory) : Prop :=
  (chaHaltStream.run memory script.halt).ending = .stopped .failed

/-- A command of `cha_stop_stream` is not sent, or its response is wrong. -/
def StopFails (script : StopScript) (memory : Memory) : Prop :=
  (chaStopStream.run (chaHaltStream.run memory script.halt).state
    script.stop).ending = .stopped .failed

/-- `cha_loop_run` returns, and the drain has ended in a state of the loop. -/
def DrainEnds (ftdi : FtdiContext) (script : StopScript) (memory : Memory)
    (capture : CaptureState υ) (state : ChaLoopState) : Prop :=
  ∃ drain drained,
    run (step ftdi)
        (drainStart capture (chaHaltStream.run memory script.halt))
        (.stop script.submits :: script.events) = some drain ∧
      drain.phase = .stopped drained ∧ drain.loop.control.state = state

/-- No stage goes on for ever. -/
structure StagesEnd (ftdi : FtdiContext) (script : StopScript)
    (memory : Memory) (capture : CaptureState υ) : Prop where
  halt : ∃ halted,
    returnValue (chaHaltStream.run memory script.halt).ending = some halted
  drain : ∃ state, DrainEnds ftdi script memory capture state
  /-- In particular all commands are acknowledged, or one of them fails. -/
  stop : ∃ stopped,
    returnValue (chaStopStream.run (chaHaltStream.run memory
      script.halt).state script.stop).ending = some stopped

/-- The value tells whether a stage has failed. -/
def Tells (ftdi : FtdiContext) (script : StopScript) (memory : Memory)
    (capture : CaptureState υ) (ret : Int) : Prop :=
  (HaltFails script memory ∨ StopFails script memory ∨
      DrainEnds ftdi script memory capture .fatalError →
    ret = -1) ∧
  (¬ HaltFails script memory → ¬ StopFails script memory →
      DrainEnds ftdi script memory capture .hostReadOff ∨
        DrainEnds ftdi script memory capture .endOfStream →
    ret = 0)

/-- The function returns, and it tells whether a stage has failed. -/
def ReportsFailures (ftdi : FtdiContext) (script : StopScript)
    (memory : Memory) (capture : CaptureState υ)
    (errorStr : Option ErrorText) : Prop :=
  ∃ outcome,
    ovCaptureStop ftdi script memory capture errorStr = some outcome ∧
      Tells ftdi script memory capture outcome.reported.ret

theorem returnValue_cases {ending : Ending Call Unit} {value : Int}
    (returned : returnValue ending = some value) :
    ending = .stopped .failed ∧ value = -1 ∨
      ending ≠ .stopped .failed ∧ value = 0 := by
  cases ending with
  | returned result =>
      cases returned
      refine .inr ⟨fun failed => ?_, rfl⟩
      cases failed
  | stopped stop =>
      cases stop with
      | failed =>
          cases returned
          exact .inl ⟨rfl, rfl⟩
      | aborted => cases returned
      | waiting call => cases returned

theorem drainValue_eq_some {phase : Phase} {drained : Int}
    (value : drainValue phase = some drained) : phase = .stopped drained := by
  cases phase with
  | stopped result =>
      cases value
      rfl
  | idle returned => cases value
  | handling stopping => cases value
  | aborted => cases value

section Outcome

variable {ftdi : FtdiContext} {script : StopScript} {memory : Memory}
    {capture : CaptureState υ} {errorStr : Option ErrorText}
    {outcome : StopOutcome υ}

/-- The stages of a call that returns. -/
theorem ovCaptureStop_stages
    (returned :
      ovCaptureStop ftdi script memory capture errorStr = some outcome) :
    let halt := chaHaltStream.run memory script.halt
    let stop := chaStopStream.run halt.state script.stop
    ∃ halted drained stopped,
      returnValue halt.ending = some halted ∧
        run (step ftdi) (drainStart capture halt)
            (.stop script.submits :: script.events) = some outcome.capture ∧
        outcome.capture.phase = .stopped drained ∧
        returnValue stop.ending = some stopped ∧
        outcome.reported =
          (((⟨0, errorStr⟩ : Reported).after halted
              (chaGetErrorString halt.state)).drained drained
            outcome.capture.loop.control.errorStr).after stopped
              (chaGetErrorString stop.state) := by
  obtain ⟨halted, halts, returned⟩ := Option.bind_eq_some_iff.mp returned
  obtain ⟨drain, drains, returned⟩ := Option.bind_eq_some_iff.mp returned
  obtain ⟨drained, value, returned⟩ := Option.bind_eq_some_iff.mp returned
  obtain ⟨stopped, stops, returned⟩ := Option.bind_eq_some_iff.mp returned
  cases returned
  exact ⟨halted, drained, stopped, halts, drains, drainValue_eq_some value,
    stops, rfl⟩

/-- Only the last two stages decide what is returned. -/
theorem ovCaptureStop_ret
    (returned :
      ovCaptureStop ftdi script memory capture errorStr = some outcome) :
    (StopFails script memory ∨
          outcome.capture.loop.control.state ≠ .hostReadOff →
        outcome.reported.ret = -1) ∧
      (¬ StopFails script memory →
        outcome.capture.loop.control.state = .hostReadOff →
          outcome.reported.ret = 0) := by
  obtain ⟨halted, drained, stopped, -, drains, phase, stops, reported⟩ :=
    ovCaptureStop_stages returned
  obtain ⟨value, state⟩ := drain_ends drains phase
  rw [reported]
  rcases returnValue_cases stops with ⟨stop, rfl⟩ | ⟨stop, rfl⟩
  · exact ⟨fun _ => rfl, fun succeeded => absurd stop succeeded⟩
  · have last (reported : Reported) (text : Option ErrorText) :
        reported.after 0 text = reported :=
      if_neg (by decide)
    have succeeded : ¬ StopFails script memory := stop
    rw [last, value]
    rcases state with state | state | state
    · rw [state]
      exact ⟨fun _ => rfl, fun _ => ChaLoopState.noConfusion⟩
    · rw [state]
      exact ⟨fun _ => rfl, fun _ => ChaLoopState.noConfusion⟩
    · rw [state]
      refine ⟨fun failed => ?_, fun _ _ => rfl⟩
      rcases failed with failed | away
      · exact absurd failed succeeded
      · exact absurd rfl away

/-- The drain ends in one of three states. -/
theorem ovCaptureStop_state
    (returned :
      ovCaptureStop ftdi script memory capture errorStr = some outcome) :
    outcome.capture.loop.control.state = .fatalError ∨
      outcome.capture.loop.control.state = .endOfStream ∨
      outcome.capture.loop.control.state = .hostReadOff := by
  obtain ⟨-, drained, -, -, drains, phase, -, -⟩ :=
    ovCaptureStop_stages returned
  exact (drain_ends drains phase).2

theorem drainEnds_iff
    (returned :
      ovCaptureStop ftdi script memory capture errorStr = some outcome)
    {state : ChaLoopState} :
    DrainEnds ftdi script memory capture state ↔
      outcome.capture.loop.control.state = state := by
  obtain ⟨-, drained, -, -, drains, phase, -, -⟩ :=
    ovCaptureStop_stages returned
  constructor
  · rintro ⟨drain, -, reached, -, state⟩
    rw [drains] at reached
    cases reached
    exact state
  · exact fun state => ⟨outcome.capture, drained, drains, phase, state⟩

/-- The function returns when its stages do. -/
theorem ovCaptureStop_returns_iff :
    (∃ outcome,
        ovCaptureStop ftdi script memory capture errorStr = some outcome) ↔
      StagesEnd ftdi script memory capture := by
  constructor
  · rintro ⟨outcome, returned⟩
    have drain := (drainEnds_iff returned).mpr rfl
    obtain ⟨halted, -, stopped, halts, -, -, stops, -⟩ :=
      ovCaptureStop_stages returned
    exact ⟨⟨halted, halts⟩, ⟨_, drain⟩, ⟨stopped, stops⟩⟩
  · rintro ⟨⟨halted, halts⟩, ⟨state, drain, drained, reached, phase, -⟩,
      ⟨stopped, stops⟩⟩
    have value : drainValue drain.phase = some drained := by
      rw [phase]
      rfl
    have returns : (ovCaptureStop ftdi script memory capture
        errorStr).isSome = true := by
      simp only [ovCaptureStop, halts, reached, value, stops,
        Option.bind_some, Option.isSome_some]
    exact Option.isSome_iff_exists.mp returns

/-- When it returns, what counts is how the last two stages have ended. -/
theorem tells_iff
    (returned :
      ovCaptureStop ftdi script memory capture errorStr = some outcome) :
    Tells ftdi script memory capture outcome.reported.ret ↔
      StopFails script memory ∨
        DrainEnds ftdi script memory capture .fatalError ∨
        (¬ HaltFails script memory ∧
          DrainEnds ftdi script memory capture .hostReadOff) ∨
        (HaltFails script memory ∧
          DrainEnds ftdi script memory capture .endOfStream) := by
  obtain ⟨negative, zero⟩ := ovCaptureStop_ret returned
  have state := ovCaptureStop_state returned
  unfold Tells
  simp only [drainEnds_iff returned]
  by_cases stop : StopFails script memory
  · have ret := negative (.inl stop)
    simp [stop, ret]
  · rcases state with state | state | state
    · have ret := negative (.inr (by simp [state]))
      simp [state, ret]
    · have ret := negative (.inr (by simp [state]))
      simp [state, ret, stop]
    · have ret := zero stop state
      simp [state, ret, stop]

end Outcome

/--
`ov_capture_stop` tells whether a stage has failed exactly when all stages come
to their end, and its last stage fails, or the drain has an error, or the
drain ends with the echo of a command that was sent, or with the last packet
after one that was not.
-/
theorem ovCaptureStop_reports_iff (ftdi : FtdiContext) (script : StopScript)
    (memory : Memory) (capture : CaptureState υ)
    (errorStr : Option ErrorText) :
    ReportsFailures ftdi script memory capture errorStr ↔
      StagesEnd ftdi script memory capture ∧
        (StopFails script memory ∨
          DrainEnds ftdi script memory capture .fatalError ∨
          (¬ HaltFails script memory ∧
            DrainEnds ftdi script memory capture .hostReadOff) ∨
          (HaltFails script memory ∧
            DrainEnds ftdi script memory capture .endOfStream)) := by
  constructor
  · rintro ⟨outcome, returned, tells⟩
    exact ⟨ovCaptureStop_returns_iff.mp ⟨outcome, returned⟩,
      (tells_iff returned).mp tells⟩
  · rintro ⟨ends, condition⟩
    have returns : ∃ outcome,
        ovCaptureStop ftdi script memory capture errorStr = some outcome :=
      ovCaptureStop_returns_iff.mpr ends
    obtain ⟨outcome, returned⟩ := returns
    exact ⟨outcome, returned, (tells_iff returned).mpr condition⟩

/-! ### Calls -/

/-- The register map of the capture. -/
def stopMemory : Memory :=
  { Memory.zeroed with
    cha.reg :=
      ⟨none, fun name => if name = .sdramHostReadGo then 0x0c28 else 0⟩ }

/-- The responses to the three writes of `cha_stop_stream`. -/
def stopResponses : List Answer :=
  [counted 5, delivered [0x55, 0x8c, 0x28, 0x00, 0x09],
    counted 5, delivered [0x55, 0x80, 0x00, 0x00, 0xd5],
    counted 5, delivered [0x55, 0x80, 0x00, 0x00, 0xd5]]

/-- The drain comes to the echo of the halt command. -/
def drainToEcho (halt : Answer) : StopScript where
  halt := [halt]
  submits := fun _ => 0
  events :=
    .transfer 0 .completed [0x32, 0x60, 0x55, 0x8c, 0x28, 0x00, 0x09] [] ::
      othersCancelled
  stop := stopResponses

/-- The drain comes to the last packet of the stream. -/
def drainToLast : StopScript where
  halt := [counted 5]
  submits := fun _ => 0
  events := onePacket ovFlagsHf0Last
  stop := stopResponses

/-- A script in which the first write is never acknowledged. -/
def unacknowledged : StopScript :=
  { drainToEcho (counted 5) with stop := [counted 5] }

/--
The halt command is not sent, but the function returns 0.  It returns -1 for a
stream that comes to its end.  It never returns when the stop command is not
acknowledged.
-/
theorem ovCaptureStop_not_reported :
    ¬ ReportsFailures ⟨64, by decide⟩ (drainToEcho (counted (-1)))
        stopMemory (started none ()) none ∧
      ¬ ReportsFailures ⟨64, by decide⟩ drainToLast stopMemory
        (started none ()) none ∧
      ¬ ReportsFailures ⟨64, by decide⟩ unacknowledged stopMemory
        (started none ()) none := by
  refine ⟨?_, ?_, ?_⟩
  · have comes :
        (ovCaptureStop ⟨64, by decide⟩ (drainToEcho (counted (-1)))
          stopMemory (started none ()) none).map (fun outcome =>
            outcome.reported.ret) = some 0 := by
      decide +kernel
    have halts : HaltFails (drainToEcho (counted (-1))) stopMemory := by
      unfold HaltFails
      decide +kernel
    rintro ⟨outcome, returned, tells⟩
    have reported := tells.1 (.inl halts)
    rw [returned, Option.map_some, reported] at comes
    cases comes
  · have comes :
        (ovCaptureStop ⟨64, by decide⟩ drainToLast
          stopMemory (started none ()) none).map (fun outcome =>
            (outcome.capture.loop.control.state, outcome.reported.ret)) =
          some (.endOfStream, -1) := by
      decide +kernel
    have halts : ¬ HaltFails drainToLast stopMemory := by
      unfold HaltFails
      decide +kernel
    have stops : ¬ StopFails drainToLast stopMemory := by
      unfold StopFails
      decide +kernel
    rintro ⟨outcome, returned, tells⟩
    rw [returned, Option.map_some, Option.some.injEq, Prod.mk.injEq]
      at comes
    obtain ⟨state, ret⟩ := comes
    have reported := tells.2 halts stops
      (.inr ((drainEnds_iff returned).mpr state))
    rw [ret] at reported
    cases reported
  · have never :
        (ovCaptureStop ⟨64, by decide⟩ unacknowledged stopMemory
          (started none ()) none).isNone = true := by
      decide +kernel
    rintro ⟨outcome, returned, -⟩
    rw [returned] at never
    cases never

end OpenVizsla.Capture.Stop
