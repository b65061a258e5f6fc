import OpenVizsla.Capture.Synchronisation

/-!
# The cause for which a run stops

`loop->state` is written by the user's function, by the count check, by the
check for the last packet, by the bus frame callback and by the error
branches.  Only the first of these is guarded by `RUNNING` as a whole, so that
one decoder call can write several causes over each other.

`runStates` lists all values that the field takes during a run, also inside a
callback.  `OneCause` says that no cause meets another one; it is exactly
what keeps the first cause in place.
-/

namespace OpenVizsla.Capture.FirstCause

open OpenVizsla.Foundation.Runs
open OpenVizsla.Decoder.Packet
open OpenVizsla.Decoder.Invariant
open OpenVizsla.Decoder.Callbacks
open OpenVizsla.Capture.Loop
open OpenVizsla.Capture.Delivery
open OpenVizsla.Capture.Resumption
open OpenVizsla.Capture.Synchronisation

variable {υ : Type*}

/-! ## Chains of states -/

/-- A cause stays, unless there is an error. -/
def Keeps (earlier later : ChaLoopState) : Prop :=
  earlier = .running ∨ later = earlier ∨ later = .fatalError

instance (earlier later : ChaLoopState) : Decidable (Keeps earlier later) :=
  inferInstanceAs (Decidable (_ ∨ _ ∨ _))

@[refl]
theorem Keeps.refl (state : ChaLoopState) : Keeps state state :=
  .inr (.inl rfl)

theorem Keeps.trans {first second third : ChaLoopState}
    (left : Keeps first second) (right : Keeps second third) :
    Keeps first third := by
  rcases left with running | rfl | rfl
  · exact .inl running
  · exact right
  · rcases right with running | same | fatal
    · cases running
    · exact .inr (.inr same)
    · exact .inr (.inr fatal)

theorem keeps_of_running {earlier : ChaLoopState} (later : ChaLoopState)
    (running : earlier = .running) : Keeps earlier later :=
  .inl running

section Chains

variable {α : Type*} {R : α → α → Prop}

theorem getLastD_append (first second : List α) (value : α) :
    (first ++ second).getLastD value =
      second.getLastD (first.getLastD value) := by
  induction first generalizing value with
  | nil => rfl
  | cons head rest ih =>
      rw [List.cons_append, List.getLastD_cons, List.getLastD_cons, ih]

/-- A chain splits behind its last element. -/
theorem isChain_append_iff (value : α) (first second : List α) :
    List.IsChain R (value :: (first ++ second)) ↔
      List.IsChain R (value :: first) ∧
        List.IsChain R (first.getLastD value :: second) := by
  induction first generalizing value with
  | nil => simp
  | cons head rest ih =>
      rw [List.cons_append, List.isChain_cons_cons, List.isChain_cons_cons,
        ih head, and_assoc, List.getLastD_cons]

/-- In a chain of a preorder, the last element follows all others. -/
theorem rel_getLastD (refl : ∀ value, R value value)
    (trans : ∀ {first second third}, R first second → R second third →
      R first third)
    {value : α} {rest : List α} (chain : List.IsChain R (value :: rest)) :
    R value (rest.getLastD value) ∧
      ∀ member ∈ rest, R member (rest.getLastD value) := by
  induction rest generalizing value with
  | nil => exact ⟨refl value, by simp⟩
  | cons head rest ih =>
      obtain ⟨first, tail⟩ := List.isChain_cons_cons.mp chain
      obtain ⟨last, others⟩ := ih tail
      rw [List.getLastD_cons]
      refine ⟨trans first last, fun member found => ?_⟩
      rcases List.mem_cons.mp found with rfl | later
      · exact last
      · exact others member later

end Chains

/-! ## The states inside a decoder call -/

/-- The states that the packet callback sets, one after the other. -/
def packetStates (control : LoopControl υ) (packet : OvPacket) :
    List ChaLoopState :=
  if control.state ≠ .running then
    []
  else
    [(callUser control packet).state,
      (countPacket (callUser control packet)).state,
      (chaLoopPacketCallback control packet).state]

/-- The states that one callback sets. -/
def callStates (control : LoopControl υ) : Callback → List ChaLoopState
  | .packet packet => packetStates control packet
  | .busFrame addr value => [(chaLoopBusFrameCallback control addr value).state]

/-- The states that the callbacks of a decoder call set. -/
def callsStates (control : LoopControl υ) :
    List Callback → List ChaLoopState
  | [] => []
  | call :: rest =>
      callStates control call ++
        callsStates (call.apply decoderOps control) rest

/-- The user's function calls `ov_capture_breakloop`. -/
def Breaks (control : LoopControl υ) (packet : OvPacket) : Prop :=
  ∃ callback, control.callback = some callback ∧
    (callback control.userData packet).2 = true

/-- The count check fires. -/
def CountReached (control : LoopControl υ) : Prop :=
  0 < control.maxCount ∧ control.maxCount ≤ control.count

/-- The packet is marked as the last one. -/
def IsLast (packet : OvPacket) : Prop :=
  packet.flags &&& ovFlagsHf0Last ≠ 0

/-- The callback does not bring a second cause. -/
def OneCauseCall (control : LoopControl υ) : Callback → Prop
  | .packet packet =>
      control.state = .running →
        ¬ (Breaks control packet ∧ CountReached control) ∧
          ¬ ((Breaks control packet ∨ CountReached control) ∧ IsLast packet)
  | .busFrame addr value =>
      addr &&& 0x7fff = control.reg.addr .sdramHostReadGo ∧ value = 0 →
        control.state = .running ∨ control.state = .hostReadOff

/-- No callback of a decoder call brings a second cause. -/
def OneCauseCalls (control : LoopControl υ) : List Callback → Prop
  | [] => True
  | call :: rest =>
      OneCauseCall control call ∧
        OneCauseCalls (call.apply decoderOps control) rest

section Packet

variable (control : LoopControl υ) (packet : OvPacket)

/-- What the user's function does to the state. -/
theorem state_callUser :
    (Breaks control packet ∧ (callUser control packet).state = .breakLoop) ∨
      (¬ Breaks control packet ∧
        (callUser control packet).state = control.state) := by
  unfold callUser Breaks
  cases callback : control.callback with
  | none => exact .inr ⟨by simp, rfl⟩
  | some user =>
      cases breaks : (user control.userData packet).2 with
      | true => exact .inl ⟨⟨user, rfl, breaks⟩, by simp [breaks, chaLoopBreak,
          chaLoopCancelTransfer]⟩
      | false => exact .inr ⟨by simp [breaks], by simp [breaks]⟩

theorem counts_callUser :
    (callUser control packet).count = control.count ∧
      (callUser control packet).maxCount = control.maxCount := by
  unfold callUser
  split
  · exact ⟨rfl, rfl⟩
  · simp only
    split <;> exact ⟨rfl, rfl⟩

/-- What the count check does to the state. -/
theorem state_countPacket :
    (CountReached control ∧ (countPacket control).state = .countLimit) ∨
      (¬ CountReached control ∧
        (countPacket control).state = control.state) := by
  unfold countPacket CountReached
  by_cases positive : control.maxCount > 0
  · by_cases reached : control.count ≥ control.maxCount
    · exact .inl ⟨⟨positive, reached⟩, by simp [positive, reached]⟩
    · exact .inr ⟨fun both => reached both.2, by simp [positive, reached]⟩
  · exact .inr ⟨fun both => positive both.1, by simp [positive]⟩

theorem countReached_callUser :
    CountReached (callUser control packet) ↔ CountReached control := by
  obtain ⟨count, maxCount⟩ := counts_callUser control packet
  simp only [CountReached, count, maxCount]

/-- What the packet callback of a running loop does to the state. -/
theorem state_packetCallback (running : control.state = .running) :
    (IsLast packet ∧
        (chaLoopPacketCallback control packet).state = .endOfStream) ∨
      (¬ IsLast packet ∧
        (chaLoopPacketCallback control packet).state =
          (countPacket (callUser control packet)).state) := by
  unfold chaLoopPacketCallback IsLast
  by_cases last : packet.flags &&& ovFlagsHf0Last ≠ 0
  · exact .inl ⟨last, by simp [running, last]⟩
  · exact .inr ⟨last, by simp [running, last]⟩

/-- The callback keeps its first cause if and only if there is one at most. -/
theorem isChain_packetStates :
    List.IsChain Keeps (control.state :: packetStates control packet) ↔
      OneCauseCall control (.packet packet) := by
  by_cases running : control.state = .running
  · have user := state_callUser control packet
    have count := state_countPacket (callUser control packet)
    have last := state_packetCallback control packet running
    rw [countReached_callUser] at count
    rw [running] at user
    simp only [packetStates, running, ne_eq, not_true, if_false,
      List.isChain_cons_cons, List.isChain_singleton, and_true, OneCauseCall,
      true_imp_iff]
    rcases user with ⟨breaks, afterUser⟩ | ⟨breaks, afterUser⟩ <;>
      rcases count with ⟨reached, afterCount⟩ | ⟨reached, afterCount⟩ <;>
      rcases last with ⟨isLast, afterLast⟩ | ⟨isLast, afterLast⟩ <;>
      simp [Keeps, breaks, reached, isLast, afterUser, afterCount, afterLast]
  · simp [packetStates, OneCauseCall, running]

end Packet

/-- The last of these states is the one that the callback leaves. -/
theorem getLastD_callStates (control : LoopControl υ) (call : Callback) :
    (callStates control call).getLastD control.state =
      (call.apply decoderOps control).state := by
  cases call with
  | packet complete =>
      change (packetStates control complete).getLastD control.state =
        (chaLoopPacketCallback control complete).state
      unfold packetStates
      split
      · rename_i stopped
        rw [chaLoopPacketCallback, if_pos stopped]
        rfl
      · rfl
  | busFrame addr value => rfl

theorem isChain_callStates (control : LoopControl υ) (call : Callback) :
    List.IsChain Keeps (control.state :: callStates control call) ↔
      OneCauseCall control call := by
  cases call with
  | packet complete => exact isChain_packetStates control complete
  | busFrame addr value =>
      simp only [callStates, List.isChain_cons_cons, List.isChain_singleton,
        and_true, OneCauseCall, chaLoopBusFrameCallback]
      split
      · rename_i echo
        simp [Keeps, echo, eq_comm]
      · rename_i other
        simp [Keeps, other]

theorem getLastD_callsStates (control : LoopControl υ)
    (calls : List Callback) :
    (callsStates control calls).getLastD control.state =
      (replay decoderOps control calls).state := by
  induction calls generalizing control with
  | nil => rfl
  | cons call rest ih =>
      rw [callsStates, getLastD_append, getLastD_callStates, ih]
      rfl

theorem isChain_callsStates (control : LoopControl υ)
    (calls : List Callback) :
    List.IsChain Keeps (control.state :: callsStates control calls) ↔
      OneCauseCalls control calls := by
  induction calls generalizing control with
  | nil => simp [callsStates, OneCauseCalls]
  | cons call rest ih =>
      rw [callsStates, isChain_append_iff, isChain_callStates,
        getLastD_callStates, ih]
      rfl

/-! ## The states inside a transfer callback -/

/-- The states that the loop over the data of a transfer sets. -/
def transferStates (ftdi : FtdiContext) (loop : ChaLoop υ)
    (data : List UInt8) : List ChaLoopState :=
  if _more : loop.control.state = .running ∧ data ≠ [] then
    callsStates loop.control
        (callbacks loop.fd ((data.take ftdi.maxPacketSize).drop 2)) ++
      (decodePacket loop (data.take ftdi.maxPacketSize)).control.state ::
        transferStates ftdi (decodePacket loop (data.take ftdi.maxPacketSize))
          (data.drop ftdi.maxPacketSize)
  else
    []
termination_by data.length
decreasing_by
  have nonempty := List.length_pos_of_ne_nil _more.2
  have positive := ftdi.maxPacketSize_pos
  simp only [List.length_drop]
  omega

/-- No packet of the FTDI chip brings a second cause. -/
def OneCauseTransfer (ftdi : FtdiContext) (loop : ChaLoop υ)
    (data : List UInt8) : Prop :=
  if _more : loop.control.state = .running ∧ data ≠ [] then
    OneCauseCalls loop.control
        (callbacks loop.fd ((data.take ftdi.maxPacketSize).drop 2)) ∧
      OneCauseTransfer ftdi (decodePacket loop (data.take ftdi.maxPacketSize))
        (data.drop ftdi.maxPacketSize)
  else
    True
termination_by data.length
decreasing_by
  have nonempty := List.length_pos_of_ne_nil _more.2
  have positive := ftdi.maxPacketSize_pos
  simp only [List.length_drop]
  omega

/-- Behind the callbacks, a decoder call may only fail. -/
theorem keeps_decodePacket {loop : ChaLoop υ} (splitting : Splitting loop.fd)
    (packet : List UInt8) :
    Keeps
      (replay decoderOps loop.control
        (callbacks loop.fd (packet.drop 2))).state
      (decodePacket loop packet).control.state := by
  have user := frameDecoderProc_replay decoderOps loop.control
    (packet.drop 2) splitting
  unfold decodePacket
  split
  · simp only
    split
    · exact .inr (.inr rfl)
    · rw [user]
  · rename_i short
    have nothing : packet.drop 2 = [] := List.drop_of_length_le (by omega)
    rw [nothing, callbacks, frameDecoderProc_nil]
    rfl

theorem getLastD_transferStates (ftdi : FtdiContext) (loop : ChaLoop υ)
    (data : List UInt8) :
    (transferStates ftdi loop data).getLastD loop.control.state =
      (decodeTransfer ftdi loop data).control.state := by
  fun_induction decodeTransfer ftdi loop data with
  | case1 loop data more ih =>
      rw [transferStates, dif_pos more, getLastD_append, List.getLastD_cons,
        ih]
  | case2 loop data done =>
      rw [transferStates, dif_neg done]
      rfl

theorem isChain_transferStates (ftdi : FtdiContext) {loop : ChaLoop υ}
    (splitting : Splitting loop.fd) (data : List UInt8) :
    List.IsChain Keeps
        (loop.control.state :: transferStates ftdi loop data) ↔
      OneCauseTransfer ftdi loop data := by
  fun_induction decodeTransfer ftdi loop data with
  | case1 loop data more ih =>
      have keeps := keeps_decodePacket splitting
        (data.take ftdi.maxPacketSize)
      rw [transferStates, dif_pos more, OneCauseTransfer, dif_pos more,
        isChain_append_iff, isChain_callsStates, getLastD_callsStates,
        List.isChain_cons_cons, and_iff_right keeps,
        ih (splitting_decodePacket splitting _)]
  | case2 loop data done =>
      rw [transferStates, dif_neg done, OneCauseTransfer, dif_neg done]
      simp

/-! ## The states of a run -/

/-- The states that an event sets, up to the state `next`. -/
def eventStates (ftdi : FtdiContext) (capture next : CaptureState υ) :
    Event → List ChaLoopState
  | .transfer index .completed data _ =>
      transferStates ftdi
          { capture.loop with control := ended capture.loop.control index }
          data ++
        [next.loop.control.state]
  | _ => [next.loop.control.state]

/-- The event does not bring a second cause. -/
def OneCause (ftdi : FtdiContext) (capture : CaptureState υ) :
    Event → Prop
  | .transfer index .completed data _ =>
      OneCauseTransfer ftdi
        { capture.loop with control := ended capture.loop.control index } data
  | _ => True

/-- The states that the events of a run set. -/
def runStates (ftdi : FtdiContext) (capture : CaptureState υ) :
    List Event → List ChaLoopState
  | [] => []
  | event :: rest =>
      match step ftdi capture event with
      | none => []
      | some next =>
          eventStates ftdi capture next event ++ runStates ftdi next rest

/-- Behind the decoder, a transfer callback may only fail. -/
theorem keeps_transferCallback {ftdi : FtdiContext} {loop next : ChaLoop υ}
    {index : Fin 3} {status : TransferStatus} {data : List UInt8}
    {results : List Int}
    (called :
      chaLoopTransferCallback ftdi loop index status data results =
        some next) :
    Keeps
      (if status = .completed then
        (decodeTransfer ftdi loop data).control.state
      else loop.control.state)
      next.control.state := by
  cases status with
  | completed =>
      simp only [if_true]
      simp only [chaLoopTransferCallback] at called
      split at called
      · rename_i running
        exact keeps_of_running _ running
      · cases called
        rfl
  | cancelled =>
      cases called
      rfl
  | error | timedOut | stall | noDevice | overflow =>
      cases called
      exact .inr (.inr rfl)

theorem keeps_handleEvents (loop : LoopControl υ) (result : Int) :
    Keeps loop.state (handleEvents loop result).state := by
  obtain ⟨same | fatal, -⟩ := handleEvents_spec loop result
  · exact .inr (.inl same)
  · exact .inr (.inr fatal)

theorem getLastD_eventStates (ftdi : FtdiContext)
    (capture next : CaptureState υ) (event : Event) (value : ChaLoopState) :
    (eventStates ftdi capture next event).getLastD value =
      next.loop.control.state := by
  cases event with
  | transfer index status data results =>
      cases status with
      | completed => rw [eventStates, getLastD_append]; rfl
      | cancelled | error | timedOut | stall | noDevice | overflow => rfl
  | dispatch | stop | handled => rfl

theorem isChain_eventStates {ftdi : FtdiContext}
    {capture next : CaptureState υ} {event : Event}
    (splitting : Splitting capture.loop.fd) (inRun : event.InRun)
    (stepped : step ftdi capture event = some next) :
    List.IsChain Keeps
        (capture.loop.control.state ::
          eventStates ftdi capture next event) ↔
      OneCause ftdi capture event := by
  cases event with
  | dispatch count submits => exact inRun.elim
  | stop submits => exact inRun.elim
  | handled result =>
      have keeps := keeps_handleEvents capture.loop.control result
      have same := congrArg (fun loop => loop.control.state)
        (step_handled stepped).1
      simp only at same
      simpa [eventStates, OneCause, same] using keeps
  | transfer index status data results =>
      obtain ⟨-, -, called⟩ := step_transfer stepped
      have keeps := keeps_transferCallback called
      cases status with
      | completed =>
          let waiting : ChaLoop υ :=
            { capture.loop with control := ended capture.loop.control index }
          have splitting' : Splitting waiting.fd := splitting
          change List.IsChain Keeps
              (waiting.control.state ::
                (transferStates ftdi waiting data ++
                  [next.loop.control.state])) ↔
            OneCauseTransfer ftdi waiting data
          rw [isChain_append_iff, isChain_transferStates ftdi splitting',
            getLastD_transferStates, List.isChain_cons_cons]
          simpa using fun _ => keeps
      | cancelled | error | timedOut | stall | noDevice | overflow =>
          have outside :
              Keeps capture.loop.control.state next.loop.control.state :=
            keeps
          simpa [eventStates, OneCause] using outside

/-- A run keeps its first cause if and only if no event brings another. -/
theorem isChain_runStates {ftdi : FtdiContext}
    {start finish : CaptureState υ} {events : List Event}
    (splitting : Splitting start.loop.fd)
    (inRun : ∀ event ∈ events, event.InRun)
    (reached : run (step ftdi) start events = some finish) :
    (List.IsChain Keeps
        (start.loop.control.state :: runStates ftdi start events) ↔
      Throughout (step ftdi) (OneCause ftdi) start events) ∧
      (runStates ftdi start events).getLastD start.loop.control.state =
        finish.loop.control.state := by
  induction events generalizing start with
  | nil =>
      cases reached
      simp [runStates, Throughout]
  | cons event rest ih =>
      obtain ⟨next, head, tail⟩ := run_cons_eq_some_iff.mp reached
      obtain ⟨first, others⟩ := List.forall_mem_cons.mp inRun
      obtain ⟨later, last⟩ := ih (fed_step splitting head).1 others tail
      have states : runStates ftdi start (event :: rest) =
          eventStates ftdi start next event ++ runStates ftdi next rest := by
        rw [runStates, head]
      rw [states, isChain_append_iff, isChain_eventStates splitting first head,
        getLastD_append, getLastD_eventStates, later, last, Throughout, head]
      simp

/-- `cha_loop_run` itself keeps the state that it finds, or fails. -/
theorem keeps_chaLoopRun (capture : CaptureState υ) (stopping : Bool)
    (count : Int) (submits : Fin 3 → Int) :
    Keeps capture.loop.control.state
      (chaLoopRun capture stopping count submits).loop.control.state := by
  by_cases fatal : capture.loop.control.state = .fatalError
  · rw [chaLoopRun_of_fatal fatal]
    rfl
  · rw [chaLoopRun_of_alive fatal]
    obtain ⟨state, -, -⟩ := submitTransfers_spec submits [0, 1, 2]
      (cleared capture.loop.control count)
    simp only [CaptureState.setControl]
    split <;> exact .inr state

/-- A run that is over has returned what its last state stands for. -/
def Reports (capture : CaptureState υ) : Prop :=
  ∀ value, capture.phase = .idle (some value) →
    value = runReturn capture.loop.control

theorem reports_chaLoopRun (capture : CaptureState υ) (stopping : Bool)
    (count : Int) (submits : Fin 3 → Int) :
    Reports (chaLoopRun capture stopping count submits) := by
  intro value returned
  by_cases fatal : capture.loop.control.state = .fatalError
  · rw [chaLoopRun_of_fatal fatal] at returned ⊢
    cases stopping with
    | true => cases returned
    | false =>
        cases returned
        simp [runReturn, CaptureState.setControl, fatal, ChaLoopState.value]
  · rw [chaLoopRun_of_alive fatal] at returned
    cases returned

theorem reports_step {ftdi : FtdiContext} {capture next : CaptureState υ}
    {event : Event} (inRun : event.InRun)
    (stepped : step ftdi capture event = some next) : Reports next := by
  intro value returned
  obtain ⟨stopping, -, same | aborted | ⟨returns, -⟩⟩ :=
    phase_step inRun stepped
  · rw [same] at returned
    cases returned
  · rw [aborted] at returned
    cases returned
  · rw [returns] at returned
    cases stopping with
    | true => cases returned
    | false =>
        cases returned
        rfl

theorem reports_run {ftdi : FtdiContext} {start finish : CaptureState υ}
    {events : List Event} (reports : Reports start)
    (inRun : ∀ event ∈ events, event.InRun)
    (reached : run (step ftdi) start events = some finish) :
    Reports finish :=
  run_invariant_of
    (fun _ _ _ _ inRun stepped => reports_step inRun stepped)
    reports inRun reached

/--
The values that the state takes in a run of `cha_loop_run`, inside of the
callbacks too, keep the first cause if and only if no event of the run brings
a second one.  Every cause is then the state at the end, unless there was an
error, and what the run returns is read off from that state.
-/
theorem first_cause_stays (ftdi : FtdiContext)
    {capture finish : CaptureState υ} {stopping : Bool} {count : Int}
    {submits : Fin 3 → Int} {events : List Event}
    (reachable : Reachable capture.loop.fd)
    (inRun : ∀ event ∈ events, event.InRun)
    (reached :
      run (step ftdi) (chaLoopRun capture stopping count submits) events =
        some finish) :
    (List.IsChain Keeps
        (capture.loop.control.state ::
          (chaLoopRun capture stopping count submits).loop.control.state ::
            runStates ftdi (chaLoopRun capture stopping count submits)
              events) ↔
      Throughout (step ftdi) (OneCause ftdi)
        (chaLoopRun capture stopping count submits) events) ∧
      (Throughout (step ftdi) (OneCause ftdi)
          (chaLoopRun capture stopping count submits) events →
        ∀ state ∈ runStates ftdi
            (chaLoopRun capture stopping count submits) events,
          Keeps state finish.loop.control.state) ∧
      ∀ value, finish.phase = .idle (some value) →
        value = runReturn finish.loop.control := by
  have splitting : Splitting
      (chaLoopRun capture stopping count submits).loop.fd := by
    rw [(loop_chaLoopRun capture stopping count submits).1]
    exact splitting_of_reachable reachable
  have entry := keeps_chaLoopRun capture stopping count submits
  obtain ⟨chain, last⟩ := isChain_runStates splitting inRun reached
  refine ⟨?_, fun oneCause state member => ?_, ?_⟩
  · rw [List.isChain_cons_cons, and_iff_right entry, chain]
  · rw [← last]
    exact (rel_getLastD Keeps.refl Keeps.trans (chain.mpr oneCause)).2 state
      member
  · exact reports_run (reports_chaLoopRun capture stopping count submits)
      inRun reached

/-- A packet with the given flags, and what ends the run. -/
def onePacket (flags : UInt8) : List Event :=
  .transfer 0 .completed
      [0x32, 0x60, 0xd0, 0x02, 0xa0, flags, 0x00, 0x00, 0x05, 0xa1] [] ::
    othersCancelled

/-- A break at an ordinary packet is reported. -/
theorem first_cause_stays_onePacket :
    ∃ finish,
      run (step ⟨64, by decide⟩)
          (chaLoopRun (started (some breakAtFirst) ()) false 0 fun _ => 0)
          (onePacket 0x00) = some finish ∧
        Keeps .breakLoop finish.loop.control.state := by
  have outcome :
      (run (step ⟨64, by decide⟩)
          (chaLoopRun (started (some breakAtFirst) ()) false 0 fun _ => 0)
          (onePacket 0x00)).isSome = true := by
    decide +kernel
  obtain ⟨finish, reached⟩ := Option.isSome_iff_exists.mp outcome
  obtain ⟨chain, keeps, -⟩ :=
    first_cause_stays _ (.init _ _ 1024)
      (by simp [onePacket, othersCancelled, Event.InRun]) reached
  refine ⟨finish, reached, keeps (chain.mp ?_) .breakLoop ?_⟩
  · decide +kernel
  · decide +kernel

/-- A break at the last packet of the stream is not. -/
theorem break_reported_as_end_of_stream :
    ∃ finish,
      run (step ⟨64, by decide⟩)
          (chaLoopRun (started (some breakAtFirst) ()) false 0 fun _ => 0)
          (onePacket ovFlagsHf0Last) = some finish ∧
        .breakLoop ∈ runStates ⟨64, by decide⟩
          (chaLoopRun (started (some breakAtFirst) ()) false 0 fun _ => 0)
          (onePacket ovFlagsHf0Last) ∧
        finish.phase = .idle (some (-ChaLoopState.endOfStream.value)) := by
  have outcome :
      (run (step ⟨64, by decide⟩)
          (chaLoopRun (started (some breakAtFirst) ()) false 0 fun _ => 0)
          (onePacket ovFlagsHf0Last)).map CaptureState.phase =
        some (.idle (some (-ChaLoopState.endOfStream.value))) := by
    decide +kernel
  obtain ⟨finish, reached, phase⟩ := Option.map_eq_some_iff.mp outcome
  exact ⟨finish, reached, by decide +kernel, phase⟩

end OpenVizsla.Capture.FirstCause
