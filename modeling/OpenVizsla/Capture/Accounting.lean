import OpenVizsla.Capture.Loop

/-!
# Transfer accounting

`active_transfers` counts the transfers that `libusb` holds.  The decoder and
the user's function run in the middle of a transfer callback and may stop the
loop; they never touch the count.  `Decoding` says what they can do, and each
branch of the callback then has to give back exactly what it took.
-/

namespace OpenVizsla.Capture.Accounting

open OpenVizsla.Foundation.Integers
open OpenVizsla.Foundation.Runs
open OpenVizsla.Decoder.Packet
open OpenVizsla.Decoder.Callbacks
open OpenVizsla.Capture.Loop

variable {υ : Type*}

/-! ## What decoding does to the transfers -/

/-- The effect that decoding may have on the transfers and on the state. -/
structure Decoding (before after : LoopControl υ) : Prop where
  active : after.activeTransfers = before.activeTransfers
  complete : after.complete = before.complete
  inFlight (index : Fin 3) :
    (after.transfer index).inFlight = (before.transfer index).inFlight
  cancelled (index : Fin 3) :
    (after.transfer index).cancelRequested = true →
      (before.transfer index).cancelRequested = true ∨
        (before.transfer index).inFlight = true ∧ after.state ≠ .running
  stays : before.state ≠ .running → after.state ≠ .running

@[refl]
theorem Decoding.refl (loop : LoopControl υ) : Decoding loop loop :=
  ⟨rfl, rfl, fun _ => rfl, fun _ => .inl, id⟩

theorem Decoding.trans {first second third : LoopControl υ}
    (left : Decoding first second) (right : Decoding second third) :
    Decoding first third where
  active := right.active.trans left.active
  complete := right.complete.trans left.complete
  inFlight index := (right.inFlight index).trans (left.inFlight index)
  cancelled index requested := by
    rcases right.cancelled index requested with before | ⟨flying, stopped⟩
    · rcases left.cancelled index before with earlier | ⟨flying, stopped⟩
      · exact .inl earlier
      · exact .inr ⟨flying, right.stays stopped⟩
    · exact .inr ⟨left.inFlight index ▸ flying, stopped⟩
  stays stopped := right.stays (left.stays stopped)

/-- A new state other than `running`, and nothing else that matters. -/
theorem decoding_of_state {before after : LoopControl υ}
    (active : after.activeTransfers = before.activeTransfers)
    (complete : after.complete = before.complete)
    (transfer : after.transfer = before.transfer)
    (stays : before.state ≠ .running → after.state ≠ .running) :
    Decoding before after :=
  ⟨active, complete, fun index => by rw [transfer],
    fun index requested => .inl (transfer ▸ requested), stays⟩

theorem decoding_cancel (loop : LoopControl υ)
    (stopped : loop.state ≠ .running) :
    Decoding loop (chaLoopCancelTransfer loop) where
  active := rfl
  complete := rfl
  inFlight index := rfl
  cancelled index requested := by
    simp only [chaLoopCancelTransfer, Bool.or_eq_true] at requested
    rcases requested with flying | before
    · exact .inr ⟨flying, stopped⟩
    · exact .inl before
  stays := id

theorem decoding_break (loop : LoopControl υ) :
    Decoding loop (chaLoopBreak loop) := by
  have stopped : Decoding loop { loop with state := .breakLoop } :=
    decoding_of_state rfl rfl rfl fun _ => by simp
  exact stopped.trans (decoding_cancel _ (by simp))

theorem decoding_callUser (loop : LoopControl υ) (packet : OvPacket) :
    Decoding loop (callUser loop packet) := by
  unfold callUser
  split
  · rfl
  · rename_i callback found
    have called : Decoding loop
        { loop with
          userData := (callback loop.userData packet).1
          delivered := loop.delivered ++ [packet] } :=
      decoding_of_state rfl rfl rfl id
    simp only
    split
    · exact called.trans (decoding_break _)
    · exact called

theorem decoding_countPacket (loop : LoopControl υ) :
    Decoding loop (countPacket loop) := by
  unfold countPacket
  split
  · refine decoding_of_state rfl rfl rfl fun stopped => ?_
    split
    · simp
    · exact stopped
  · rfl

theorem decoding_packetCallback (loop : LoopControl υ) (packet : OvPacket) :
    Decoding loop (chaLoopPacketCallback loop packet) := by
  unfold chaLoopPacketCallback
  split
  · rfl
  · have counted : Decoding loop (countPacket (callUser loop packet)) :=
      (decoding_callUser loop packet).trans (decoding_countPacket _)
    simp only
    split
    · exact counted.trans (decoding_of_state rfl rfl rfl fun _ => by simp)
    · exact counted

theorem decoding_busFrameCallback (loop : LoopControl υ) (addr : UInt16)
    (value : UInt8) :
    Decoding loop (chaLoopBusFrameCallback loop addr value) := by
  unfold chaLoopBusFrameCallback
  split
  · exact decoding_of_state rfl rfl rfl fun _ => by simp
  · rfl

theorem decoding_decodePacket (loop : ChaLoop υ) (packet : List UInt8) :
    Decoding loop.control (decodePacket loop packet).control := by
  unfold decodePacket
  split
  · have called := frameDecoderProc_preserves (Decoding loop.control)
      decoderOps (fun complete _ before =>
        before.trans (decoding_packetCallback _ complete))
      (fun addr value _ before =>
        before.trans (decoding_busFrameCallback _ addr value))
      loop.fd (packet.drop 2) (Decoding.refl loop.control)
    simp only
    split
    · exact called.trans (decoding_of_state rfl rfl rfl fun _ => by simp)
    · exact called
  · rfl

theorem decoding_decodeTransfer (ftdi : FtdiContext) (loop : ChaLoop υ)
    (data : List UInt8) :
    Decoding loop.control (decodeTransfer ftdi loop data).control := by
  fun_induction decodeTransfer ftdi loop data with
  | case1 loop data more ih => exact (decoding_decodePacket loop _).trans ih
  | case2 loop data done => rfl

/-! ## The number of transfers in flight -/

/-- The number of transfers that `libusb` holds. -/
def flights (loop : LoopControl υ) : Nat :=
  ∑ index, (loop.transfer index).inFlight.toNat

theorem Decoding.flights_eq {before after : LoopControl υ}
    (decoding : Decoding before after) : flights after = flights before := by
  simp only [flights, decoding.inFlight]

theorem flights_update (loop : LoopControl υ) (index : Fin 3)
    (transfer : Transfer) :
    flights { loop with
        transfer := Function.update loop.transfer index transfer } +
        (loop.transfer index).inFlight.toNat =
      flights loop + transfer.inFlight.toNat := by
  simp only [flights, Fin.sum_univ_three]
  fin_cases index <;> simp <;> omega

theorem flights_ended {loop : LoopControl υ} {index : Fin 3}
    (flying : (loop.transfer index).inFlight = true) :
    flights (ended loop index) + 1 = flights loop := by
  have update := flights_update loop index ⟨false, false⟩
  rw [flying] at update
  exact update

theorem flights_submitted {loop : LoopControl υ} {index : Fin 3}
    (free : (loop.transfer index).inFlight = false) :
    flights (submitted loop index) = flights loop + 1 := by
  have update := flights_update loop index ⟨true, false⟩
  rw [free] at update
  exact update

theorem exists_inFlight {loop : LoopControl υ} (some : flights loop ≠ 0) :
    ∃ index, (loop.transfer index).inFlight = true := by
  by_contra none
  push Not at none
  apply some
  simp [flights, none]

theorem flights_eq_zero_iff (loop : LoopControl υ) :
    flights loop = 0 ↔ ∀ index, (loop.transfer index).inFlight = false := by
  simp [flights, Bool.toNat_eq_zero]

/-! ## The invariant -/

/--
The count is right up to `pending` transfers that have ended and are still
counted, and only a loop that stops has asked for cancellations.
-/
structure Balanced (pending : Nat) (loop : LoopControl υ) : Prop where
  counted : loop.activeTransfers = flights loop + pending
  cancelled (index : Fin 3) :
    (loop.transfer index).cancelRequested = true →
      (loop.transfer index).inFlight = true ∧ loop.state ≠ .running

/-- The invariant of the event loop, between two callbacks. -/
structure Handling (loop : LoopControl υ) : Prop
    extends Balanced 0 loop where
  completed : loop.complete = true → flights loop = 0 ∧ loop.state ≠ .running

/-- The invariant of a capture. -/
structure Accounted (capture : CaptureState υ) : Prop where
  handling (stopping : Bool) :
    capture.phase = .handling stopping → Handling capture.loop.control
  outside (index : Fin 3) :
    (∀ stopping, capture.phase ≠ .handling stopping) →
      capture.loop.control.transfer index = ⟨false, false⟩
  asserted : capture.phase ≠ .aborted

section Balanced

variable {loop : LoopControl υ} {pending : Nat}

theorem Balanced.decoding {after : LoopControl υ}
    (balanced : Balanced pending loop) (decoding : Decoding loop after) :
    Balanced pending after where
  counted := by
    rw [decoding.active, decoding.flights_eq, balanced.counted]
  cancelled index requested := by
    rw [decoding.inFlight index]
    rcases decoding.cancelled index requested with before | now
    · obtain ⟨flying, stopped⟩ := balanced.cancelled index before
      exact ⟨flying, decoding.stays stopped⟩
    · exact now

theorem decoding_fail (loop : LoopControl υ) (code : Int) :
    Decoding loop (fail loop code) :=
  decoding_of_state rfl rfl rfl fun _ => by simp [fail]

theorem Balanced.ended {index : Fin 3} (balanced : Balanced 0 loop)
    (flying : (loop.transfer index).inFlight = true) :
    Balanced 1 (ended loop index) where
  counted := by
    rw [flights_ended flying]
    exact balanced.counted
  cancelled other requested := by
    by_cases same : other = index
    · subst same
      simp [Loop.ended] at requested
    · simp only [Loop.ended, Function.update_of_ne same] at requested ⊢
      exact balanced.cancelled other requested

theorem Balanced.submitted {index : Fin 3}
    (balanced : Balanced (pending + 1) loop)
    (free : (loop.transfer index).inFlight = false) :
    Balanced pending (submitted loop index) where
  counted := by
    rw [flights_submitted free]
    have counted := balanced.counted
    simp only [Loop.submitted]
    omega
  cancelled other requested := by
    by_cases same : other = index
    · subst same
      simp [Loop.submitted] at requested
    · simp only [Loop.submitted, Function.update_of_ne same] at requested ⊢
      exact balanced.cancelled other requested

/-- Giving back a transfer; the subtraction does not wrap around. -/
theorem Balanced.retire (balanced : Balanced 1 loop) :
    Balanced 0 (retire loop) ∧
      ((retire loop).complete = true ↔ flights (retire loop) = 0) := by
  have counted := balanced.counted
  have left : sizeSub loop.activeTransfers 1 = flights loop := by
    have positive : 1 ≤ loop.activeTransfers := by omega
    rw [sizeSub_of_le positive, counted, Nat.add_sub_cancel]
  have same : flights (Loop.retire loop) = flights loop := by
    simp only [flights, retire_transfer]
  refine ⟨⟨?_, fun index => ?_⟩, ?_⟩
  · rw [same, Nat.add_zero]
    exact left
  · rw [retire_transfer, retire_state]
    exact balanced.cancelled index
  · rw [same]
    simp [Loop.retire, left]

end Balanced

/-! ## The transfer callback -/

/-- Giving back a transfer of a loop that stops. -/
theorem handling_retire {loop : LoopControl υ} (balanced : Balanced 1 loop)
    (stopped : loop.state ≠ .running) : Handling (retire loop) where
  toBalanced := balanced.retire.1
  completed complete := ⟨balanced.retire.2.mp complete, stopped⟩

theorem handling_transferCallback {ftdi : FtdiContext}
    {loop next : ChaLoop υ} {index : Fin 3} {status : TransferStatus}
    {data : List UInt8} {results : List Int}
    (balanced : Balanced 1 loop.control)
    (free : (loop.control.transfer index).inFlight = false)
    (incomplete : loop.control.complete = false)
    (promised : status = .cancelled → loop.control.state ≠ .running)
    (called :
      chaLoopTransferCallback ftdi loop index status data results =
        some next) :
    Handling next.control := by
  have failed (code : Int) : Handling (retire (fail loop.control code)) :=
    handling_retire (balanced.decoding (decoding_fail _ _)) (by simp [fail])
  cases status with
  | completed =>
      have decoding := decoding_decodeTransfer ftdi loop data
      have decoded := balanced.decoding decoding
      simp only [chaLoopTransferCallback] at called
      split at called
      · obtain ⟨result, -, rfl⟩ := Option.map_eq_some_iff.mp called
        simp only
        split
        · have stopped := decoding_fail
            (decodeTransfer ftdi loop data).control result
          have cancelled := decoding_cancel
            (fail (decodeTransfer ftdi loop data).control result)
            (by simp [fail])
          exact handling_retire
            ((decoded.decoding stopped).decoding cancelled)
            (by simp [fail, chaLoopCancelTransfer])
        · refine ⟨decoded.submitted ?_, fun complete => ?_⟩
          · rw [decoding.inFlight, free]
          · have unchanged := decoding.complete.trans incomplete
            exact absurd (unchanged ▸ complete) (by simp)
      · rename_i stopped
        cases called
        exact handling_retire (decoded.decoding (decoding_cancel _ stopped))
          stopped
  | cancelled =>
      cases called
      exact handling_retire balanced (promised rfl)
  | error | timedOut | stall | noDevice | overflow =>
      cases called
      exact failed _

/-! ## Runs -/

/-- Submitting transfers that are not in flight. -/
theorem balanced_submitTransfers (submits : Fin 3 → Int)
    (indices : List (Fin 3)) {loop : LoopControl υ} (nodup : indices.Nodup)
    (free : ∀ index ∈ indices, (loop.transfer index).inFlight = false)
    (balanced : Balanced 0 loop) :
    Balanced 0 (submitTransfers submits indices loop) ∧
      (submitTransfers submits indices loop).complete = loop.complete := by
  induction indices generalizing loop with
  | nil => exact ⟨balanced, rfl⟩
  | cons index rest ih =>
      simp only [submitTransfers]
      split
      · exact ⟨balanced.decoding (decoding_fail _ _), rfl⟩
      · have counted : Balanced 1
            { loop with activeTransfers := loop.activeTransfers + 1 } :=
          ⟨congrArg (· + 1) balanced.counted, balanced.cancelled⟩
        obtain ⟨absent, nodup'⟩ := List.nodup_cons.mp nodup
        refine ih nodup' (fun other member => ?_)
          (counted.submitted (free index List.mem_cons_self))
        have different : other ≠ index := fun same => absent (same ▸ member)
        simp only [submitted, Function.update_of_ne different]
        exact free other (List.mem_cons_of_mem _ member)

theorem accounted_chaLoopRun {capture : CaptureState υ} {stopping : Bool}
    (count : Int) (submits : Fin 3 → Int)
    (idle : ∀ index,
      capture.loop.control.transfer index = ⟨false, false⟩) :
    Accounted (chaLoopRun capture stopping count submits) := by
  by_cases fatal : capture.loop.control.state = .fatalError
  · rw [chaLoopRun_of_fatal fatal]
    refine ⟨fun _ handling => ?_, fun index _ => idle index, ?_⟩ <;>
      cases stopping <;> simp_all [returnFrom]
  · rw [chaLoopRun_of_alive fatal]
    have balanced : Balanced 0 (cleared capture.loop.control count) :=
      ⟨by simp [cleared, flights, idle], fun index => by
        simp [cleared, idle]⟩
    obtain ⟨active, complete⟩ := balanced_submitTransfers submits [0, 1, 2]
      (by decide) (fun index _ => by simp [cleared, idle]) balanced
    change _ = false at complete
    refine ⟨fun _ _ => ?_, fun index outside => absurd rfl (outside stopping),
      by simp⟩
    simp only [CaptureState.setControl]
    split
    · rename_i stopped
      refine ⟨active.decoding (decoding_cancel _ stopped), fun finished => ?_⟩
      exact absurd (complete ▸ finished) (by simp)
    · exact ⟨active, fun finished => absurd (complete ▸ finished) (by simp)⟩

/-- Between two runs, no transfer is in flight and none is cancelled. -/
theorem idle_of_flights {loop : LoopControl υ} (balanced : Balanced 0 loop)
    (none : flights loop = 0) (index : Fin 3) :
    loop.transfer index = ⟨false, false⟩ := by
  have free := (flights_eq_zero_iff loop).mp none index
  cases requested : (loop.transfer index).cancelRequested with
  | false =>
      calc loop.transfer index
          = ⟨(loop.transfer index).inFlight,
              (loop.transfer index).cancelRequested⟩ := rfl
        _ = ⟨false, false⟩ := by rw [free, requested]
  | true =>
      have flying := (balanced.cancelled index requested).1
      rw [free] at flying
      cases flying

theorem decoding_handleEvents (loop : LoopControl υ) (result : Int) :
    Decoding loop (handleEvents loop result) := by
  unfold handleEvents
  split
  · exact decoding_fail _ _
  · rfl

/-- The accounts are right after every event. -/
theorem accounted_step {ftdi : FtdiContext} {capture next : CaptureState υ}
    {event : Event} (accounted : Accounted capture)
    (stepped : step ftdi capture event = some next) : Accounted next := by
  have idle {returned : Option Int} (phase : capture.phase = .idle returned)
      (index : Fin 3) :
      capture.loop.control.transfer index = ⟨false, false⟩ :=
    accounted.outside index (by simp [phase])
  unfold step at stepped
  cases event with
  | dispatch count submits =>
      simp only at stepped
      split at stepped
      · rename_i phase
        cases stepped
        exact accounted_chaLoopRun count submits (idle phase)
      · cases stepped
  | stop submits =>
      simp only at stepped
      split at stepped
      · rename_i phase
        cases stepped
        exact accounted_chaLoopRun (-1) submits (idle phase)
      · cases stepped
  | transfer index status data results =>
      simp only at stepped
      split at stepped
      · rename_i stopping phase
        split at stepped
        · rename_i promised
          obtain ⟨loop, called, rfl⟩ := Option.map_eq_some_iff.mp stepped
          obtain ⟨flying, cancelled, -⟩ := promised
          have handling := accounted.handling stopping phase
          have incomplete : capture.loop.control.complete = false := by
            rw [Bool.eq_false_iff]
            intro complete
            have none := (handling.completed complete).1
            rw [(flights_eq_zero_iff _).mp none index] at flying
            cases flying
          have after : Handling loop.control := by
            refine handling_transferCallback ?_ ?_ ?_ ?_ called
            · exact handling.toBalanced.ended flying
            · simp [ended]
            · exact incomplete
            · exact fun status =>
                (handling.cancelled index (cancelled status)).2
          exact ⟨fun _ _ => after,
            fun _ outside => absurd phase (outside stopping),
            by simp [phase]⟩
        · cases stepped
      · cases stepped
  | handled result =>
      simp only at stepped
      split at stepped
      · rename_i stopping phase
        have handling := accounted.handling stopping phase
        have decoding := decoding_handleEvents capture.loop.control result
        have after : Handling (handleEvents capture.loop.control result) := by
          refine ⟨handling.toBalanced.decoding decoding, fun complete => ?_⟩
          rw [decoding.complete] at complete
          obtain ⟨none, stopped⟩ := handling.completed complete
          exact ⟨decoding.flights_eq ▸ none, decoding.stays stopped⟩
        split at stepped
        · rename_i complete
          obtain ⟨none, stopped⟩ := after.completed complete
          have zero := after.counted
          rw [none] at zero
          cases stepped
          simp only [if_pos (And.intro stopped zero)]
          exact ⟨fun _ inside => by
              cases stopping <;> simp [returnFrom] at inside,
            fun index _ => idle_of_flights after.toBalanced none index,
            by cases stopping <;> simp [returnFrom]⟩
        · cases stepped
          exact ⟨fun _ _ => after,
            fun _ outside => absurd phase (outside stopping),
            by simp [CaptureState.setControl, phase]⟩
      · cases stepped

/-! ## The state of the loop during a run -/

/-- A stopped loop stays stopped until the run is over. -/
theorem stopped_transferCallback {ftdi : FtdiContext}
    {loop next : ChaLoop υ} {index : Fin 3} {status : TransferStatus}
    {data : List UInt8} {results : List Int}
    (stopped : loop.control.state ≠ .running)
    (called :
      chaLoopTransferCallback ftdi loop index status data results =
        some next) :
    next.control.state ≠ .running := by
  cases status with
  | completed =>
      have decoded :=
        (decoding_decodeTransfer ftdi loop data).stays stopped
      simp only [chaLoopTransferCallback, if_neg decoded,
        Option.some.injEq] at called
      subst called
      exact decoded
  | cancelled =>
      cases called
      exact stopped
  | error | timedOut | stall | noDevice | overflow =>
      cases called
      simp [fail]

theorem stopped_step {ftdi : FtdiContext} {capture next : CaptureState υ}
    {event : Event} (inRun : event.InRun)
    (stopped : capture.loop.control.state ≠ .running)
    (stepped : step ftdi capture event = some next) :
    next.loop.control.state ≠ .running := by
  unfold step at stepped
  cases event with
  | dispatch count submits => exact inRun.elim
  | stop submits => exact inRun.elim
  | transfer index status data results =>
      simp only at stepped
      split at stepped
      · split at stepped
        · obtain ⟨loop, called, rfl⟩ := Option.map_eq_some_iff.mp stepped
          refine stopped_transferCallback ?_ called
          exact stopped
        · cases stepped
      · cases stepped
  | handled result =>
      have after :=
        (decoding_handleEvents capture.loop.control result).stays stopped
      simp only at stepped
      split at stepped
      · split at stepped <;> cases stepped <;> exact after
      · cases stepped

/--
Between any two callbacks the count is the number of transfers in flight, only
a stopped loop has asked for cancellations, no assertion fails, and outside of
the runs no transfer is in flight.  A loop that has stopped does not go back
to running.
-/
theorem transfers_accounted (ftdi : FtdiContext)
    {start finish : CaptureState υ} {events : List Event}
    (outside : ∃ returned, start.phase = .idle returned)
    (none : ∀ index, start.loop.control.transfer index = ⟨false, false⟩)
    (reached : run (step ftdi) start events = some finish) :
    Accounted finish ∧
      ∀ first second middle,
        events = first ++ second → (∀ event ∈ second, event.InRun) →
          run (step ftdi) start first = some middle →
            middle.loop.control.state ≠ .running →
              finish.loop.control.state ≠ .running := by
  obtain ⟨returned, idle⟩ := outside
  have initial : Accounted start :=
    ⟨fun _ handling => by simp [idle] at handling, fun index _ => none index,
      by simp [idle]⟩
  refine ⟨?_, fun first second middle split inRun before stopped => ?_⟩
  · exact run_invariant
      (fun _ _ _ accounted stepped => accounted_step accounted stepped)
      initial reached
  · obtain ⟨middle', first', second'⟩ :=
      run_append_eq_some_iff.mp (split ▸ reached)
    rw [before] at first'
    cases first'
    exact run_invariant_of
      (fun _ _ _ stopped inRun stepped => stopped_step inRun stopped stepped)
      stopped inRun second'

/-- Three transfers that end with an error. -/
def threeErrors : List Event :=
  [.dispatch 0 fun _ => 0, .transfer 0 .error [] [], .transfer 2 .stall [] [],
    .transfer 1 .noDevice [] [], .handled 0]

/-- The run is over when the last of them has ended. -/
theorem transfers_accounted_threeErrors :
    ∃ finish,
      run (step ⟨512, by decide⟩) (started none ()) threeErrors =
          some finish ∧
        finish.phase = .idle (some (-1)) ∧ Accounted finish := by
  have returned :
      (run (step ⟨512, by decide⟩) (started none ()) threeErrors).map
        CaptureState.phase = some (.idle (some (-1))) := by
    decide +kernel
  obtain ⟨finish, reached, phase⟩ := Option.map_eq_some_iff.mp returned
  exact ⟨finish, reached, phase,
    (transfers_accounted _ ⟨none, rfl⟩ (fun _ => rfl) reached).1⟩

end OpenVizsla.Capture.Accounting
