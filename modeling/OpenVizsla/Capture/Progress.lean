import OpenVizsla.Capture.Accounting

/-!
# Waiting for transfers

Only a transfer callback sets `complete`, and `cha_loop_run` waits until it is
set.  Once one transfer is in flight the last callback sets it.  If already
the first submission fails there is no callback to come, and the loop waits
for ever.
-/

namespace OpenVizsla.Capture.Progress

open OpenVizsla.Foundation.Runs
open OpenVizsla.Capture.Loop
open OpenVizsla.Capture.Accounting

variable {υ : Type*}

/-- The event loop waits only while `libusb` holds a transfer. -/
def Progressing (capture : CaptureState υ) : Prop :=
  ∀ stopping, capture.phase = .handling stopping →
    capture.loop.control.complete = false →
      capture.loop.control.activeTransfers ≠ 0 ∧
        ∃ index, (capture.loop.control.transfer index).inFlight = true

/-! ## Every callback keeps it so -/

theorem complete_of_retire {loop : LoopControl υ} (balanced : Balanced 1 loop)
    (incomplete : (retire loop).complete = false) :
    flights (retire loop) ≠ 0 := by
  intro none
  rw [balanced.retire.2.mpr none] at incomplete
  cases incomplete

/-- After a callback that does not complete the run, a transfer is left. -/
theorem flights_transferCallback {ftdi : FtdiContext}
    {loop next : ChaLoop υ} {index : Fin 3} {status : TransferStatus}
    {data : List UInt8} {results : List Int}
    (balanced : Balanced 1 loop.control)
    (called :
      chaLoopTransferCallback ftdi loop index status data results =
        some next)
    (incomplete : next.control.complete = false) :
    flights next.control ≠ 0 := by
  have failed (code : Int) : Balanced 1 (fail loop.control code) :=
    balanced.decoding (decoding_fail _ _)
  cases status with
  | completed =>
      have decoded :=
        balanced.decoding (decoding_decodeTransfer ftdi loop data)
      simp only [chaLoopTransferCallback] at called
      split at called
      · obtain ⟨result, -, rfl⟩ := Option.map_eq_some_iff.mp called
        simp only at incomplete ⊢
        split
        · rename_i failure
          rw [if_pos failure] at incomplete
          exact complete_of_retire
            ((decoded.decoding (decoding_fail _ result)).decoding
              (decoding_cancel _ (by simp [fail])))
            incomplete
        · intro none
          have grounded := (flights_eq_zero_iff _).mp none index
          simp [submitted] at grounded
      · rename_i stopped
        cases called
        exact complete_of_retire
          (decoded.decoding (decoding_cancel _ stopped)) incomplete
  | cancelled =>
      cases called
      exact complete_of_retire balanced incomplete
  | error | timedOut | stall | noDevice | overflow =>
      cases called
      exact complete_of_retire (failed _) incomplete

theorem progressing_of_flights {capture : CaptureState υ}
    (accounted : Accounted capture)
    (some : ∀ stopping, capture.phase = .handling stopping →
      capture.loop.control.complete = false →
        flights capture.loop.control ≠ 0) :
    Progressing capture := by
  intro stopping phase incomplete
  have flying := some stopping phase incomplete
  refine ⟨?_, exists_inFlight flying⟩
  rw [(accounted.handling stopping phase).counted]
  exact flying

theorem flights_of_progressing {capture : CaptureState υ} {stopping : Bool}
    (progressing : Progressing capture)
    (phase : capture.phase = .handling stopping)
    (incomplete : capture.loop.control.complete = false) :
    flights capture.loop.control ≠ 0 := by
  intro none
  obtain ⟨-, index, flying⟩ := progressing stopping phase incomplete
  rw [(flights_eq_zero_iff _).mp none index] at flying
  cases flying

/-- Every event of the run keeps it so. -/
theorem progressing_step {ftdi : FtdiContext} {capture next : CaptureState υ}
    {event : Event} (inRun : event.InRun) (accounted : Accounted capture)
    (progressing : Progressing capture)
    (stepped : step ftdi capture event = some next) : Progressing next := by
  refine progressing_of_flights (accounted_step accounted stepped) ?_
  unfold step at stepped
  cases event with
  | dispatch count submits => exact inRun.elim
  | stop submits => exact inRun.elim
  | transfer index status data results =>
      simp only at stepped
      split at stepped
      · rename_i stopping phase
        split at stepped
        · rename_i promised
          obtain ⟨loop, called, rfl⟩ := Option.map_eq_some_iff.mp stepped
          intro _ _ incomplete
          refine flights_transferCallback ?_ called incomplete
          exact (accounted.handling stopping phase).toBalanced.ended
            promised.1
        · cases stepped
      · cases stepped
  | handled result =>
      simp only at stepped
      split at stepped
      · rename_i stopping phase
        have decoding := decoding_handleEvents capture.loop.control result
        split at stepped
        · rename_i complete
          cases stepped
          intro _ _ incomplete
          exact absurd (incomplete ▸ complete) (by simp)
        · cases stepped
          intro _ _ incomplete
          change (handleEvents capture.loop.control result).complete = false
            at incomplete
          change flights (handleEvents capture.loop.control result) ≠ 0
          rw [decoding.flights_eq]
          rw [decoding.complete] at incomplete
          exact flights_of_progressing progressing phase incomplete
      · cases stepped

/-! ## The start of a run -/

theorem submitTransfers_other (submits : Fin 3 → Int)
    {indices : List (Fin 3)} {loop : LoopControl υ} {index : Fin 3}
    (absent : index ∉ indices) :
    (submitTransfers submits indices loop).transfer index =
      loop.transfer index := by
  induction indices generalizing loop with
  | nil => rfl
  | cons first rest ih =>
      obtain ⟨different, absent'⟩ := List.ne_and_not_mem_of_not_mem_cons absent
      simp only [submitTransfers]
      split
      · rfl
      · rw [ih absent']
        simp [submitted, Function.update_of_ne different]

/-- The control data with which the events of a run begin. -/
theorem control_chaLoopRun {capture : CaptureState υ} (stopping : Bool)
    (count : Int) (submits : Fin 3 → Int)
    (alive : capture.loop.control.state ≠ .fatalError) :
    Decoding
      (submitTransfers submits [0, 1, 2] (cleared capture.loop.control count))
      (chaLoopRun capture stopping count submits).loop.control := by
  rw [chaLoopRun_of_alive alive]
  simp only [CaptureState.setControl]
  split
  · rename_i stopped
    exact decoding_cancel _ stopped
  · rfl

theorem progressing_chaLoopRun {capture : CaptureState υ}
    (none : ∀ index, capture.loop.control.transfer index = ⟨false, false⟩)
    (stopping : Bool) (count : Int) (submits : Fin 3 → Int)
    (condition :
      capture.loop.control.state = .fatalError ∨ 0 ≤ submits 0) :
    Progressing (chaLoopRun capture stopping count submits) := by
  refine progressing_of_flights (accounted_chaLoopRun count submits none)
    fun stopping' phase _ grounded => ?_
  by_cases fatal : capture.loop.control.state = .fatalError
  · rw [chaLoopRun_of_fatal fatal] at phase
    cases stopping <;> simp [returnFrom] at phase
  · have accepted : ¬ submits 0 < 0 := by
      have first := condition.resolve_left fatal
      omega
    have decoding := control_chaLoopRun stopping count submits fatal
    have free := (flights_eq_zero_iff _).mp grounded 0
    rw [decoding.inFlight, submitTransfers, if_neg accepted,
      submitTransfers_other submits (by decide)] at free
    simp [submitted] at free

/--
For every result of the submissions and every order of events, `cha_loop_run`
waits only while a transfer is in flight, if and only if it returns at once
because of an earlier error, or the first submission succeeds.
-/
theorem progressing_iff (ftdi : FtdiContext) (capture : CaptureState υ)
    (none : ∀ index, capture.loop.control.transfer index = ⟨false, false⟩)
    (stopping : Bool) (count : Int) (submits : Fin 3 → Int) :
    (∀ events finish, (∀ event ∈ events, event.InRun) →
        run (step ftdi) (chaLoopRun capture stopping count submits) events =
          some finish →
        Progressing finish) ↔
      capture.loop.control.state = .fatalError ∨ 0 ≤ submits 0 := by
  constructor
  · intro progressing
    by_contra condition
    push Not at condition
    obtain ⟨alive, failed⟩ := condition
    have decoding := control_chaLoopRun stopping count submits alive
    have waits := progressing [] _ (by simp) rfl stopping
      (by rw [chaLoopRun_of_alive alive])
    rw [decoding.active, decoding.complete] at waits
    simp [submitTransfers, failed, fail, cleared] at waits
  · intro condition events finish inRun reached
    have initial : Accounted (chaLoopRun capture stopping count submits) ∧
        Progressing (chaLoopRun capture stopping count submits) :=
      ⟨accounted_chaLoopRun count submits none,
        progressing_chaLoopRun none stopping count submits condition⟩
    have preserved (state : CaptureState υ) (event : Event)
        (next : CaptureState υ)
        (invariant : Accounted state ∧ Progressing state)
        (inRun : event.InRun) (stepped : step ftdi state event = some next) :
        Accounted next ∧ Progressing next :=
      ⟨accounted_step invariant.1 stepped,
        progressing_step inRun invariant.1 invariant.2 stepped⟩
    exact (run_invariant_of preserved initial inRun reached).2

/-- The condition at work: the second submission fails. -/
theorem progressing_iff_secondFails :
    (∀ events finish, (∀ event ∈ events, event.InRun) →
        run (step ⟨512, by decide⟩)
          (chaLoopRun (started none ()) false 0 ![0, -4, 0]) events =
            some finish →
        Progressing finish) ↔
      (started none ()).loop.control.state = .fatalError ∨
        (0 : Int) ≤ ![0, -4, 0] 0 :=
  progressing_iff ⟨512, by decide⟩ (started none ()) (fun _ => rfl) false 0
    ![0, -4, 0]

/-- The first submission fails, and `cha_loop_run` waits for nothing. -/
theorem not_progressing_firstFails :
    ∃ next,
      step ⟨512, by decide⟩ (started none ()) (.dispatch 0 fun _ => -4) =
          some next ∧
        next.phase = .handling false ∧
        next.loop.control.complete = false ∧
        next.loop.control.activeTransfers = 0 ∧
        ∀ index, (next.loop.control.transfer index).inFlight = false :=
  ⟨_, rfl, rfl, rfl, rfl, fun _ => rfl⟩

end OpenVizsla.Capture.Progress
