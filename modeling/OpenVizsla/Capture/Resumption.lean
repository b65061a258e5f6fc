import OpenVizsla.Capture.Delivery

/-!
# Dispatching again after the count limit

`cha_loop_run` sets up new counters and submits the transfers again, but it
does not set the state back.  A loop that has reached its count limit stays
there: further dispatches cancel their transfers at once, and only
`ov_capture_stop` sets the state to `RUNNING`.
-/

namespace OpenVizsla.Capture.Resumption

open OpenVizsla.Foundation.Runs
open OpenVizsla.Decoder.Callbacks
open OpenVizsla.Capture.Loop
open OpenVizsla.Capture.Delivery

variable {υ : Type*}

/-- The loop has not gone on since the capture was `limited`. -/
structure Stuck (limited capture : CaptureState υ) : Prop where
  state :
    capture.loop.control.state = .countLimit ∨
      capture.loop.control.state = .fatalError
  delivered :
    capture.loop.control.delivered = limited.loop.control.delivered
  fd : capture.loop.fd = limited.loop.fd
  fed : capture.loop.fed = limited.loop.fed

/-- Nor has a later dispatch counted a packet. -/
structure Fruitless (limited capture : CaptureState υ) : Prop
    extends Stuck limited capture where
  count : capture.loop.control.count = 0
  returned (value : Int) :
    capture.phase = .idle (some value) → value = 0 ∨ value = -1

theorem Stuck.not_running {limited capture : CaptureState υ}
    (stuck : Stuck limited capture) :
    capture.loop.control.state ≠ .running := by
  rcases stuck.state with limit | fatal
  · rw [limit]
    decide
  · rw [fatal]
    decide

/-- Submitting keeps the state, or it fails. -/
theorem submitTransfers_spec (submits : Fin 3 → Int)
    (indices : List (Fin 3)) (loop : LoopControl υ) :
    ((submitTransfers submits indices loop).state = loop.state ∨
        (submitTransfers submits indices loop).state = .fatalError) ∧
      (submitTransfers submits indices loop).delivered = loop.delivered ∧
      (submitTransfers submits indices loop).count = loop.count := by
  induction indices generalizing loop with
  | nil => exact ⟨.inl rfl, rfl, rfl⟩
  | cons index rest ih =>
      rw [submitTransfers]
      split
      · exact ⟨.inr rfl, rfl, rfl⟩
      · exact ih _

theorem runReturn_of_stuck {loop : LoopControl υ}
    (state : loop.state = .countLimit ∨ loop.state = .fatalError)
    (count : loop.count = 0) : runReturn loop = 0 ∨ runReturn loop = -1 := by
  rcases state with limit | fatal
  · left
    rw [runReturn, if_neg (by simp [limit]), count]
  · right
    rw [runReturn, if_pos (by simp [fatal]), fatal]
    rfl

/-- Another dispatch. -/
theorem fruitless_chaLoopRun {limited capture : CaptureState υ}
    (stuck : Stuck limited capture) (count : Int) (submits : Fin 3 → Int) :
    Fruitless limited (chaLoopRun capture false count submits) := by
  obtain ⟨state, delivered, fd, fed⟩ := stuck
  by_cases fatal : capture.loop.control.state = .fatalError
  · rw [chaLoopRun_of_fatal fatal]
    refine ⟨⟨state, delivered, fd, fed⟩, rfl, fun value returned => ?_⟩
    cases returned
    exact .inr rfl
  · rw [chaLoopRun_of_alive fatal]
    obtain ⟨state', delivered', count'⟩ := submitTransfers_spec submits
      [0, 1, 2] (cleared capture.loop.control count)
    have stuck' :
        (submitTransfers submits [0, 1, 2]
          (cleared capture.loop.control count)).state = .countLimit ∨
        (submitTransfers submits [0, 1, 2]
          (cleared capture.loop.control count)).state = .fatalError := by
      rcases state' with same | fatal
      · rw [same]
        exact state
      · exact .inr fatal
    refine ⟨⟨?_, ?_, fd, fed⟩, ?_, fun value returned => by simp at returned⟩
    · simp only [CaptureState.setControl]
      split <;> exact stuck'
    · simp only [CaptureState.setControl]
      split <;> exact delivered'.trans delivered
    · simp only [CaptureState.setControl]
      split <;> exact count'

/-- A transfer callback of a loop that has stopped. -/
theorem transferCallback_of_stopped {ftdi : FtdiContext}
    {loop next : ChaLoop υ} {index : Fin 3} {status : TransferStatus}
    {data : List UInt8} {results : List Int}
    (stopped : loop.control.state ≠ .running)
    (called :
      chaLoopTransferCallback ftdi loop index status data results =
        some next) :
    (next.control.state = loop.control.state ∨
        next.control.state = .fatalError) ∧
      next.control.count = loop.control.count ∧ next.fd = loop.fd ∧
      next.fed = loop.fed := by
  cases status with
  | completed =>
      rw [transferCallback_completed_of_stopped stopped called]
      exact ⟨.inl rfl, rfl, rfl, rfl⟩
  | cancelled =>
      cases called
      exact ⟨.inl rfl, rfl, rfl, rfl⟩
  | error | timedOut | stall | noDevice | overflow =>
      cases called
      exact ⟨.inr rfl, rfl, rfl, rfl⟩

theorem handleEvents_spec (loop : LoopControl υ) (result : Int) :
    ((handleEvents loop result).state = loop.state ∨
        (handleEvents loop result).state = .fatalError) ∧
      (handleEvents loop result).count = loop.count := by
  unfold handleEvents
  split
  · exact ⟨.inr rfl, rfl⟩
  · exact ⟨.inl rfl, rfl⟩

/-- The event is not the call of `ov_capture_stop`. -/
def NoStop : Event → Prop
  | .stop _ => False
  | _ => True

theorem fruitless_step {ftdi : FtdiContext}
    {limited capture next : CaptureState υ} {event : Event}
    (fruitless : Fruitless limited capture) (noStop : NoStop event)
    (stepped : step ftdi capture event = some next) :
    Fruitless limited next := by
  have stopped := fruitless.not_running
  have orFatal {state : ChaLoopState}
      (kept : state = capture.loop.control.state ∨ state = .fatalError) :
      state = .countLimit ∨ state = .fatalError := by
    rcases kept with rfl | fatal
    · exact fruitless.state
    · exact .inr fatal
  cases event with
  | dispatch count submits =>
      obtain ⟨-, rfl⟩ := step_dispatch stepped
      exact fruitless_chaLoopRun fruitless.toStuck count submits
  | stop submits => exact noStop.elim
  | transfer index status data results =>
      have delivered := delivered_step_of_stopped
        (.transfer index status data results) trivial stopped stepped
      simp only [step] at stepped
      split at stepped
      · rename_i phase
        split at stepped
        · obtain ⟨loop, called, rfl⟩ := Option.map_eq_some_iff.mp stepped
          obtain ⟨state, count, fd, fed⟩ :=
            transferCallback_of_stopped (by exact stopped) called
          refine ⟨⟨orFatal state, delivered.trans fruitless.delivered,
            fd.trans fruitless.fd, fed.trans fruitless.fed⟩,
            count.trans fruitless.count, fun value returned => ?_⟩
          simp [phase] at returned
        · cases stepped
      · cases stepped
  | handled result =>
      have delivered := delivered_step_of_stopped (.handled result) trivial
        stopped stepped
      obtain ⟨state, count⟩ := handleEvents_spec capture.loop.control result
      have limit := orFatal state
      have zero := count.trans fruitless.count
      simp only [step] at stepped
      split at stepped
      · rename_i stopping phase
        split at stepped
        · cases stepped
          refine ⟨⟨limit, delivered.trans fruitless.delivered, fruitless.fd,
            fruitless.fed⟩, zero, fun value returned => ?_⟩
          have value_eq : value =
              runReturn (handleEvents capture.loop.control result) := by
            simp only at returned
            split at returned
            · cases stopping <;> simp_all [returnFrom]
            · cases returned
          rw [value_eq]
          exact runReturn_of_stuck limit zero
        · cases stepped
          refine ⟨⟨limit, delivered.trans fruitless.delivered, fruitless.fd,
            fruitless.fed⟩, zero, fun value returned => ?_⟩
          simp [CaptureState.setControl, phase] at returned
      · cases stepped

/--
After the count limit no series of dispatches runs, decodes or delivers
anything, whatever the device sends: each of them returns 0, or -1 after an
error.
-/
theorem not_resumed (ftdi : FtdiContext) {limited finish : CaptureState υ}
    {count : Int} {submits : Fin 3 → Int} {events : List Event}
    (countLimit : limited.loop.control.state = .countLimit)
    (noStop : ∀ event ∈ events, NoStop event)
    (reached :
      run (step ftdi) limited (.dispatch count submits :: events) =
        some finish) :
    finish.loop.control.state ≠ .running ∧
      finish.loop.control.delivered = limited.loop.control.delivered ∧
      finish.loop.fd = limited.loop.fd ∧
      finish.loop.fed = limited.loop.fed ∧
      ∀ value, finish.phase = .idle (some value) → value = 0 ∨ value = -1 := by
  obtain ⟨entry, head, tail⟩ := run_cons_eq_some_iff.mp reached
  obtain ⟨-, rfl⟩ := step_dispatch head
  have entered : Fruitless limited (chaLoopRun limited false count submits) :=
    fruitless_chaLoopRun ⟨.inl countLimit, rfl, rfl, rfl⟩ count submits
  have fruitless : Fruitless limited finish :=
    run_invariant_of
      (fun _ _ _ before noStop stepped =>
        fruitless_step before noStop stepped)
      entered noStop tail
  exact ⟨fruitless.not_running, fruitless.delivered, fruitless.fd,
    fruitless.fed, fruitless.returned⟩

/-- A user that counts packets. -/
def counting : UserCallback Nat := fun packets _ => (packets + 1, false)

/-- A transfer with three packets, and what ends the run. -/
def threePackets : List Event :=
  [.transfer 0 .completed
      [0x32, 0x60, 0xd0, 0x07, 0xa0, 0, 0, 0, 5, 0xa0, 0, 0, 0, 5, 0xa0, 0, 0,
        0, 5, 0xa1]
      [],
    .transfer 1 .cancelled [] [], .transfer 2 .cancelled [] [], .handled 0]

/-- The first dispatch reaches its count limit, the second delivers nothing. -/
theorem not_resumed_threePackets :
    ∃ limited finish,
      run (step ⟨512, by decide⟩) (started (some counting) 0)
          (.dispatch 1 (fun _ => 0) :: threePackets) = some limited ∧
        run (step ⟨512, by decide⟩) limited
            (.dispatch 1 (fun _ => 0) :: threePackets) = some finish ∧
        finish.loop.control.state ≠ .running ∧
        finish.loop.control.delivered = limited.loop.control.delivered := by
  have limited :
      (run (step ⟨512, by decide⟩) (started (some counting) 0)
          (.dispatch 1 (fun _ => 0) :: threePackets)).map
        (fun limited => (limited.loop.control.state,
          (run (step ⟨512, by decide⟩) limited
            (.dispatch 1 (fun _ => 0) :: threePackets)).isSome)) =
          some (.countLimit, true) := by
    decide +kernel
  obtain ⟨limited, first, outcome⟩ := Option.map_eq_some_iff.mp limited
  simp only [Prod.mk.injEq] at outcome
  obtain ⟨countLimit, resumed⟩ := outcome
  obtain ⟨finish, second⟩ := Option.isSome_iff_exists.mp resumed
  have stuck := not_resumed ⟨512, by decide⟩ countLimit
    (by simp [threePackets, NoStop]) second
  exact ⟨limited, finish, first, second, stuck.1, stuck.2.1⟩

/--
The second dispatch returns 0, although the transfer that it has waited for
holds packets that follow in the stream.
-/
theorem second_dispatch_returns_zero :
    ∃ limited finish,
      run (step ⟨512, by decide⟩) (started (some counting) 0)
          (.dispatch 1 (fun _ => 0) :: threePackets) = some limited ∧
        limited.loop.control.state = .countLimit ∧
        limited.phase = .idle (some 2) ∧
        run (step ⟨512, by decide⟩) limited
            (.dispatch 1 (fun _ => 0) :: threePackets) = some finish ∧
        finish.phase = .idle (some 0) ∧
        finish.loop.control.delivered.length = 2 ∧
        (packets (callbacks limited.loop.fd
          (transferPayload ⟨512, by decide⟩ threePackets))).length = 3 := by
  have outcome :
      (run (step ⟨512, by decide⟩) (started (some counting) 0)
          (.dispatch 1 (fun _ => 0) :: threePackets)).map
        (fun limited =>
          (limited.loop.control.state, limited.phase,
            (run (step ⟨512, by decide⟩) limited
              (.dispatch 1 (fun _ => 0) :: threePackets)).map
                (fun finish =>
                  (finish.phase, finish.loop.control.delivered.length)),
            (packets (callbacks limited.loop.fd
              (transferPayload ⟨512, by decide⟩ threePackets))).length)) =
        some (.countLimit, .idle (some 2), some (.idle (some 0), 2), 3) := by
    decide +kernel
  obtain ⟨limited, first, outcome⟩ := Option.map_eq_some_iff.mp outcome
  simp only [Prod.mk.injEq] at outcome
  obtain ⟨countLimit, returned, resumed, available⟩ := outcome
  obtain ⟨finish, second, outcome⟩ := Option.map_eq_some_iff.mp resumed
  simp only [Prod.mk.injEq] at outcome
  exact ⟨limited, finish, first, countLimit, returned, second, outcome.1,
    outcome.2, available⟩

end OpenVizsla.Capture.Resumption
