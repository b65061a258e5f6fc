import OpenVizsla.Capture.Upkeep
import OpenVizsla.Capture.FirstCause

/-!
# What a client sees of a capture

Over a whole history of a capture, with any number of dispatches and with the
stop, the client gets the first packets of the stream, its function is called
once for each of them, and the packet at which it breaks the loop is the last
one.
-/

namespace OpenVizsla.Capture.Client

open OpenVizsla.Foundation.Runs
open OpenVizsla.Foundation.Stopping
open OpenVizsla.Register.Map
open OpenVizsla.Decoder.Packet
open OpenVizsla.Decoder.FrameProc
open OpenVizsla.Decoder.Invariant
open OpenVizsla.Decoder.Callbacks
open OpenVizsla.Decoder.Chunking
open OpenVizsla.Capture.Loop
open OpenVizsla.Capture.Accounting
open OpenVizsla.Capture.Delivery
open OpenVizsla.Capture.Synchronisation
open OpenVizsla.Capture.FirstCause
open OpenVizsla.Capture.Upkeep

variable {υ : Type*}

/-! ## The client's state -/

/-- The client's state when its function has been called for some packets. -/
def clientAfter (user : UserCallback υ) (start : υ)
    (packets : List OvPacket) : υ :=
  packets.foldl (fun state packet => (user state packet).1) start

theorem clientAfter_concat (user : UserCallback υ) (start : υ)
    (packets : List OvPacket) (packet : OvPacket) :
    clientAfter user start (packets ++ [packet]) =
      (user (clientAfter user start packets) packet).1 := by
  simp [clientAfter]

/-- Behind these packets, the client's function breaks the loop. -/
def BreaksAfter (user : UserCallback υ) (start : υ) (before : List OvPacket)
    (packet : OvPacket) : Prop :=
  (user (clientAfter user start before) packet).2 = true

/--
The client has been called for the delivered packets, and the loop does not
go on behind a packet at which it has been broken.
-/
structure Serves (user : UserCallback υ) (start : υ)
    (control : LoopControl υ) : Prop where
  callback : control.callback = some user ∨ control.callback = none
  userData : control.userData = clientAfter user start control.delivered
  last (before : List OvPacket) (packet : OvPacket) (after : List OvPacket) :
    control.delivered = before ++ packet :: after →
      BreaksAfter user start before packet →
        after = [] ∧
          (control.callback = some user → control.state ≠ .running)

section Serves

variable {user : UserCallback υ} {start : υ} {control after : LoopControl υ}

/-- Only the call of the user's function touches the client's data. -/
theorem Serves.of_same (serves : Serves user start control)
    (callback : after.callback = control.callback)
    (userData : after.userData = control.userData)
    (delivered : after.delivered = control.delivered)
    (stays : control.state ≠ .running → after.state ≠ .running) :
    Serves user start after where
  callback := by
    rw [callback]
    exact serves.callback
  userData := by
    rw [userData, delivered]
    exact serves.userData
  last := by
    intro before packet rest split breaks
    rw [delivered] at split
    obtain ⟨none', stopped⟩ := serves.last before packet rest split breaks
    refine ⟨none', fun same => stays (stopped ?_)⟩
    rw [← callback]
    exact same

/-- The packet callback passes on what the user's function leaves. -/
theorem packetCallback_client (running : control.state = .running)
    (packet : OvPacket) :
    let called := callUser control packet
    let after := chaLoopPacketCallback control packet
    after.callback = called.callback ∧ after.userData = called.userData ∧
      after.delivered = called.delivered := by
  simp only [chaLoopPacketCallback, running, ne_eq, not_true, if_false,
    countPacket]
  split <;> split <;> exact ⟨rfl, rfl, rfl⟩

/-- A running loop that is broken by the callback does not go on. -/
theorem stopped_of_breaks {packet : OvPacket}
    (running : control.state = .running) (breaks : Breaks control packet) :
    (chaLoopPacketCallback control packet).state ≠ .running := by
  have broken : (callUser control packet).state = .breakLoop := by
    rcases state_callUser control packet with ⟨-, state⟩ | ⟨not, -⟩
    · exact state
    · exact absurd breaks not
  rcases state_packetCallback control packet running with
    ⟨-, last⟩ | ⟨-, counted⟩
  · rw [last]
    exact ChaLoopState.noConfusion
  · rw [counted]
    rcases state_countPacket (callUser control packet) with
      ⟨-, reached⟩ | ⟨-, same⟩
    · rw [reached]
      exact ChaLoopState.noConfusion
    · rw [same, broken]
      exact ChaLoopState.noConfusion

theorem Serves.packetCallback (serves : Serves user start control)
    (packet : OvPacket) :
    Serves user start (chaLoopPacketCallback control packet) := by
  by_cases running : control.state = .running
  · obtain ⟨callback, userData, delivered⟩ :=
      packetCallback_client running packet
    rcases serves.callback with set | unset
    · obtain ⟨set', data, added⟩ := callUser_spec set packet
      refine ⟨.inl (callback.trans set'), ?_, ?_⟩
      · rw [userData, data, delivered, added, clientAfter_concat,
          serves.userData]
      · intro before other rest split breaks
        rw [delivered, added] at split
        rcases List.append_eq_append_iff.mp split with
          ⟨middle, rfl, lastOnes⟩ | ⟨middle, old, lastOnes⟩
        · -- the packet that is new
          rcases middle with _ | ⟨extra, middle⟩
          · obtain ⟨rfl, rfl⟩ := List.cons.inj lastOnes
            refine ⟨rfl, fun _ => stopped_of_breaks running ?_⟩
            refine ⟨user, set, ?_⟩
            rw [serves.userData]
            rwa [List.append_nil] at breaks
          · simp at lastOnes
        · -- an earlier packet: the loop would have stopped
          rcases middle with _ | ⟨first, middle⟩
          · obtain ⟨rfl, rfl⟩ := List.cons.inj lastOnes
            rw [List.append_nil] at old
            refine ⟨rfl, fun _ => stopped_of_breaks running ⟨user, set, ?_⟩⟩
            rw [serves.userData, old]
            exact breaks
          · obtain ⟨rfl, -⟩ := List.cons.inj lastOnes
            exact absurd running
              ((serves.last before other middle old breaks).2 set)
    · have same : callUser control packet = control := by
        rw [callUser, unset]
      rw [same] at callback userData delivered
      refine ⟨.inr (callback.trans unset), ?_, ?_⟩
      · rw [userData, delivered]
        exact serves.userData
      · intro before other rest split breaks
        rw [delivered] at split
        refine ⟨(serves.last before other rest split breaks).1, fun set => ?_⟩
        rw [callback, unset] at set
        cases set
  · have same : chaLoopPacketCallback control packet = control :=
      if_pos running
    rw [same]
    exact serves

end Serves

/-- The client is served well in all of `cha_loop_run`. -/
theorem serves_upkeep (user : UserCallback υ) (start : υ) :
    LoopUpkeep (Serves user start) where
  packet := fun complete serves => serves.packetCallback complete
  busFrame := by
    intro control addr value serves
    unfold chaLoopBusFrameCallback
    split
    · exact serves.of_same rfl rfl rfl fun _ => ChaLoopState.noConfusion
    · exact serves
  error := fun _ serves =>
    serves.of_same rfl rfl rfl fun _ => ChaLoopState.noConfusion
  transfers := fun _ _ _ serves => serves.of_same rfl rfl rfl id

/-- A loop without a callback serves its client by doing nothing. -/
theorem Serves.withoutCallback {user : UserCallback υ} {start : υ}
    {control : LoopControl υ} (serves : Serves user start control) :
    Serves user start
      { control with
        callback := none
        state := .running } where
  callback := .inr rfl
  userData := serves.userData
  last := by
    intro before packet rest split breaks
    refine ⟨(serves.last before packet rest split breaks).1, fun set => ?_⟩
    cases set

theorem serves_step {user : UserCallback υ} {start : υ} {ftdi : FtdiContext}
    {capture next : CaptureState υ} {event : Event}
    (serves : Serves user start capture.loop.control)
    (stepped : step ftdi capture event = some next) :
    Serves user start next.loop.control := by
  have upkeep := serves_upkeep user start
  cases event with
  | dispatch count submits =>
      obtain ⟨-, rfl⟩ := step_dispatch stepped
      exact upkeep.chaLoopRun (serves.of_same rfl rfl rfl id) false submits
  | stop submits =>
      rw [step_stop stepped]
      have entered : Serves user start
          (cleared { capture.loop.control with
            callback := none
            state := .running } (-1)) :=
        serves.withoutCallback.of_same rfl rfl rfl id
      exact upkeep.chaLoopRun entered true submits
  | transfer index status data results =>
      have inRun : (Event.transfer index status data results).InRun := trivial
      exact upkeep.step inRun serves stepped
  | handled result =>
      have inRun : (Event.handled result).InRun := trivial
      exact upkeep.step inRun serves stepped

/-! ## Loops that deliver nothing more -/

/-- The loop does not deliver packets any more. -/
def Muted (control : LoopControl υ) : Prop :=
  control.state ≠ .running ∨ control.callback = none

theorem muted_upkeep (packets : List OvPacket) :
    LoopUpkeep (υ := υ) fun control =>
      Muted control ∧ control.delivered = packets where
  packet := by
    rintro control complete ⟨muted, delivered⟩
    by_cases running : control.state = .running
    · have unset := muted.resolve_left (not_not.mpr running)
      have same : callUser control complete = control := by
        rw [callUser, unset]
      obtain ⟨callback, -, kept⟩ := packetCallback_client running complete
      rw [same] at callback kept
      exact ⟨.inr (callback.trans unset), kept.trans delivered⟩
    · have same : chaLoopPacketCallback control complete = control :=
        if_pos running
      rw [same]
      exact ⟨muted, delivered⟩
  busFrame := by
    rintro control addr value ⟨muted, delivered⟩
    unfold chaLoopBusFrameCallback
    split
    · exact ⟨.inl ChaLoopState.noConfusion, delivered⟩
    · exact ⟨muted, delivered⟩
  error := fun _ kept => ⟨.inl ChaLoopState.noConfusion, kept.2⟩
  transfers := fun _ _ _ kept => kept

/-- The stop takes the callback away. -/
theorem muted_stop {packets : List OvPacket} {ftdi : FtdiContext}
    {capture next : CaptureState υ} {submits : Fin 3 → Int}
    (delivered : capture.loop.control.delivered = packets)
    (stepped : step ftdi capture (.stop submits) = some next) :
    Muted next.loop.control ∧ next.loop.control.delivered = packets := by
  have upkeep := muted_upkeep (υ := υ) packets
  have entered :
      let control : LoopControl υ :=
        cleared { capture.loop.control with
          callback := none
          state := .running } (-1)
      Muted control ∧ control.delivered = packets :=
    ⟨.inr rfl, delivered⟩
  rw [step_stop stepped]
  exact upkeep.chaLoopRun entered true submits

/-- Nothing wakes such a loop up, not even another dispatch or the stop. -/
theorem muted_step {packets : List OvPacket} {ftdi : FtdiContext}
    {capture next : CaptureState υ} {event : Event}
    (kept : Muted capture.loop.control ∧
      capture.loop.control.delivered = packets)
    (stepped : step ftdi capture event = some next) :
    Muted next.loop.control ∧ next.loop.control.delivered = packets := by
  have upkeep := muted_upkeep (υ := υ) packets
  cases event with
  | dispatch count submits =>
      obtain ⟨-, rfl⟩ := step_dispatch stepped
      exact upkeep.chaLoopRun kept false submits
  | stop submits =>
      exact muted_stop kept.2 stepped
  | transfer index status data results =>
      have inRun : (Event.transfer index status data results).InRun := trivial
      exact upkeep.step inRun kept stepped
  | handled result =>
      have inRun : (Event.handled result).InRun := trivial
      exact upkeep.step inRun kept stepped

theorem muted_run {ftdi : FtdiContext} {start finish : CaptureState υ}
    {events : List Event} (muted : Muted start.loop.control)
    (reached : run (step ftdi) start events = some finish) :
    Muted finish.loop.control ∧
      finish.loop.control.delivered = start.loop.control.delivered :=
  run_invariant (fun _ _ _ => muted_step) ⟨muted, rfl⟩ reached

/-- Whenever `cha_loop_run` has returned, its loop has stopped. -/
def Returned (capture : CaptureState υ) : Prop :=
  ∀ returned, capture.phase = .idle returned →
    capture.loop.control.state ≠ .running

theorem returned_chaLoopRun (capture : CaptureState υ) (stopping : Bool)
    (count : Int) (submits : Fin 3 → Int) :
    Returned (chaLoopRun capture stopping count submits) := by
  intro returned idle
  by_cases fatal : capture.loop.control.state = .fatalError
  · rw [chaLoopRun_of_fatal fatal]
    show capture.loop.control.state ≠ .running
    rw [fatal]
    exact ChaLoopState.noConfusion
  · rw [chaLoopRun_of_alive fatal] at idle
    cases idle

theorem returned_step {ftdi : FtdiContext} {capture next : CaptureState υ}
    {event : Event} (inRun : event.InRun)
    (stepped : step ftdi capture event = some next) : Returned next := by
  intro returned idle
  obtain ⟨stopping, -, same | aborted | ⟨-, stopped⟩⟩ :=
    phase_step inRun stepped
  · rw [same] at idle
    cases idle
  · rw [aborted] at idle
    cases idle
  · exact stopped

/-- The loop has stopped when its first run is over. -/
theorem stopped_of_firstRun {ftdi : FtdiContext}
    {start finish : CaptureState υ} {count : Int} {submits : Fin 3 → Int}
    {events : List Event} {returned : Option Int}
    (inRun : ∀ event ∈ events, event.InRun)
    (reached :
      run (step ftdi) start (.dispatch count submits :: events) =
        some finish)
    (idle : finish.phase = .idle returned) :
    finish.loop.control.state ≠ .running := by
  obtain ⟨entry, head, tail⟩ := run_cons_eq_some_iff.mp reached
  obtain ⟨-, rfl⟩ := step_dispatch head
  have ended : Returned finish :=
    run_invariant_of
      (fun _ _ _ _ inRun stepped => returned_step inRun stepped)
      (returned_chaLoopRun start false count submits) inRun tail
  exact ended returned idle

/-! ## Histories -/

/-- A history that is not a single run has an event outside of the runs. -/
theorem inRun_or_first_outside (events : List Event) :
    (∀ event ∈ events, event.InRun) ∨
      ∃ inner event outer, events = inner ++ event :: outer ∧
        (∀ event ∈ inner, event.InRun) ∧ ¬ event.InRun := by
  induction events with
  | nil => exact .inl (by simp)
  | cons event events ih =>
      by_cases inRun : event.InRun
      · rcases ih with all | ⟨inner, first, outer, rfl, before, outside⟩
        · exact .inl (List.forall_mem_cons.mpr ⟨inRun, all⟩)
        · exact .inr ⟨event :: inner, first, outer, rfl,
            List.forall_mem_cons.mpr ⟨inRun, before⟩, outside⟩
      · exact .inr ⟨[], event, events, rfl, by simp, inRun⟩

/-- Runs of the loop begin outside of one. -/
theorem idle_of_outside {ftdi : FtdiContext} {capture next : CaptureState υ}
    {event : Event} (outside : ¬ event.InRun)
    (stepped : step ftdi capture event = some next) :
    ∃ returned, capture.phase = .idle returned := by
  cases event with
  | dispatch count submits => exact (step_dispatch stepped).1
  | stop submits =>
      simp only [step] at stepped
      split at stepped
      · rename_i returned idle
        exact ⟨returned, idle⟩
      · cases stepped
  | transfer index status data results => exact absurd trivial outside
  | handled result => exact absurd trivial outside

theorem transferPayload_isPrefix (ftdi : FtdiContext)
    {first second : List Event} (before : first <+: second) :
    transferPayload ftdi first <+: transferPayload ftdi second := by
  obtain ⟨rest, rfl⟩ := before
  rw [transferPayload, transferPayload, List.flatMap_append]
  exact List.prefix_append _ _

/-- The packets of the stream that the transfers of a history carry. -/
def streamPackets (ftdi : FtdiContext) (fd : FrameDecoder)
    (events : List Event) : List OvPacket :=
  packets (callbacks fd (transferPayload ftdi events))

theorem streamPackets_isPrefix (ftdi : FtdiContext) {fd : FrameDecoder}
    (splitting : Splitting fd) {first second : List Event}
    (before : first <+: second) :
    streamPackets ftdi fd first <+: streamPackets ftdi fd second := by
  obtain ⟨rest, whole⟩ := transferPayload_isPrefix ftdi before
  rw [streamPackets, streamPackets, ← whole]
  exact packets_isPrefix (callbacks_isPrefix splitting _ _)

/-- Entering a run carries nothing. -/
theorem streamPackets_dispatch (ftdi : FtdiContext) (fd : FrameDecoder)
    (count : Int) (submits : Fin 3 → Int) (events : List Event) :
    streamPackets ftdi fd (.dispatch count submits :: events) =
      streamPackets ftdi fd events :=
  rfl

/-- The first run delivers packets from the beginning of the stream. -/
theorem delivered_firstRun {ftdi : FtdiContext}
    {start finish : CaptureState υ} {user : UserCallback υ} {count : Int}
    {submits : Fin 3 → Int} {events : List Event}
    (splitting : Splitting start.loop.fd)
    (running : start.loop.control.state = .running)
    (callback : start.loop.control.callback = some user)
    (nothing : start.loop.control.delivered = [])
    (inRun : ∀ event ∈ events, event.InRun)
    (reached :
      run (step ftdi) start (.dispatch count submits :: events) =
        some finish) :
    finish.loop.control.delivered <+:
      streamPackets ftdi start.loop.fd events := by
  rw [delivered_dispatch splitting running callback inRun reached, nothing,
    List.nil_append]
  exact packets_isPrefix
    (heardInRun_isPrefix ftdi splitting count submits events)

/-- A loop that is still running has heard all that it has decoded. -/
theorem whole_of_running {fd : FrameDecoder} {control : LoopControl υ}
    {bytes : List UInt8} {loop : ChaLoop υ}
    (follows : Follows fd control bytes loop)
    (running : loop.control.state = .running) :
    loop.control.delivered =
      control.delivered ++ packets (callbacks fd bytes) := by
  have live := (follows.running running).2.2.state
  rw [running] at live
  have heard : heardCalls control (callbacks fd bytes) = callbacks fd bytes :=
    heard_of_live stopped_apply live.symm
  rw [follows.delivered, heard]

theorem stopped_run {ftdi : FtdiContext} {start finish : CaptureState υ}
    {events : List Event} (stopped : start.loop.control.state ≠ .running)
    (inRun : ∀ event ∈ events, event.InRun)
    (reached : run (step ftdi) start events = some finish) :
    finish.loop.control.state ≠ .running := by
  have preserved (capture : CaptureState υ) (event : Event)
      (next : CaptureState υ)
      (stopped : capture.loop.control.state ≠ .running)
      (inRun : event.InRun) (stepped : step ftdi capture event = some next) :
      next.loop.control.state ≠ .running :=
    stopped_step inRun stopped stepped
  exact run_invariant_of preserved stopped inRun reached

/-- A run that has not stopped has delivered all of its packets. -/
theorem whole_run {ftdi : FtdiContext} {fd : FrameDecoder}
    {control : LoopControl υ} {user : UserCallback υ} {bytes : List UInt8}
    {start finish : CaptureState υ} {events : List Event}
    (follows : Follows fd control bytes start.loop)
    (splitting : Splitting fd) (callback : control.callback = some user)
    (inRun : ∀ event ∈ events, event.InRun)
    (reached : run (step ftdi) start events = some finish)
    (running : finish.loop.control.state = .running) :
    finish.loop.control.delivered =
      control.delivered ++
        packets (callbacks fd (bytes ++ transferPayload ftdi events)) := by
  induction events generalizing start bytes with
  | nil =>
      cases reached
      rw [transferPayload, List.flatMap_nil, List.append_nil]
      exact whole_of_running follows running
  | cons event rest ih =>
      obtain ⟨next, head, tail⟩ := run_cons_eq_some_iff.mp reached
      obtain ⟨first, others⟩ := List.forall_mem_cons.mp inRun
      have after := follows_step follows splitting callback first head
      split at after
      · exact absurd running (stopped_run after.state others tail)
      · have whole := ih after others tail
        rw [List.append_assoc] at whole
        exact whole

theorem whole_firstRun {ftdi : FtdiContext}
    {start finish : CaptureState υ} {user : UserCallback υ} {count : Int}
    {submits : Fin 3 → Int} {events : List Event}
    (splitting : Splitting start.loop.fd)
    (running : start.loop.control.state = .running)
    (callback : start.loop.control.callback = some user)
    (nothing : start.loop.control.delivered = [])
    (inRun : ∀ event ∈ events, event.InRun)
    (reached :
      run (step ftdi) start (.dispatch count submits :: events) =
        some finish)
    (running' : finish.loop.control.state = .running) :
    finish.loop.control.delivered =
      streamPackets ftdi start.loop.fd events := by
  obtain ⟨entry, head, tail⟩ := run_cons_eq_some_iff.mp reached
  obtain ⟨-, rfl⟩ := step_dispatch head
  have initial := follows_chaLoopRun running false count submits
  split at initial
  · exact absurd running' (stopped_run initial.state inRun tail)
  · have whole := whole_run initial splitting callback inRun tail running'
    have before : (entered start.loop.control count).delivered = [] :=
      nothing
    rw [before] at whole
    exact whole

/--
A history from the start of a capture, with its first run: what is delivered
comes from the beginning of the stream, and it is all of the stream as long as
the loop runs and has its callback.
-/
theorem delivered_history {ftdi : FtdiContext}
    {start finish : CaptureState υ} {user : UserCallback υ}
    {events : List Event} (splitting : Splitting start.loop.fd)
    (running : start.loop.control.state = .running)
    (callback : start.loop.control.callback = some user)
    (nothing : start.loop.control.delivered = [])
    (idle : ∃ returned, start.phase = .idle returned)
    (reached : run (step ftdi) start events = some finish) :
    finish.loop.control.delivered <+:
        streamPackets ftdi start.loop.fd events ∧
      (¬ Muted finish.loop.control →
        finish.loop.control.delivered =
          streamPackets ftdi start.loop.fd events) := by
  rcases events with _ | ⟨first, events⟩
  · cases reached
    have silent : callbacks start.loop.fd [] = [] := by
      rw [callbacks, frameDecoderProc]
      rfl
    have none' : streamPackets ftdi start.loop.fd [] = [] := by
      rw [streamPackets, transferPayload, List.flatMap_nil, silent]
      rfl
    rw [nothing, none']
    exact ⟨List.prefix_refl [], fun _ => rfl⟩
  obtain ⟨entry, head, tail⟩ := run_cons_eq_some_iff.mp reached
  cases first with
  | transfer index status data results =>
      obtain ⟨returned, phase⟩ := idle
      simp [step, phase] at head
  | handled result =>
      obtain ⟨returned, phase⟩ := idle
      simp [step, phase] at head
  | stop submits =>
      obtain ⟨muted, same⟩ := muted_stop nothing head
      obtain ⟨muted', same'⟩ := muted_run muted tail
      refine ⟨?_, fun awake => absurd muted' awake⟩
      rw [same', same]
      exact List.nil_prefix
  | dispatch count submits =>
      rw [streamPackets_dispatch]
      rcases inRun_or_first_outside events with
        inRun | ⟨inner, event, outer, rfl, inRun, outside⟩
      · refine ⟨delivered_firstRun splitting running callback nothing inRun
          reached, fun awake => ?_⟩
        have running' : finish.loop.control.state = .running := by
          by_contra stopped
          exact awake (.inl stopped)
        exact whole_firstRun splitting running callback nothing inRun reached
          running'
      · rw [← List.cons_append] at reached
        obtain ⟨middle, firstRun, others⟩ :=
          run_append_eq_some_iff.mp reached
        obtain ⟨next, stepped, -⟩ := run_cons_eq_some_iff.mp others
        obtain ⟨returned, idle'⟩ := idle_of_outside outside stepped
        have stopped := stopped_of_firstRun inRun firstRun idle'
        obtain ⟨muted, same⟩ := muted_run (.inl stopped) others
        refine ⟨?_, fun awake => absurd muted awake⟩
        rw [same]
        exact (delivered_firstRun splitting running callback nothing inRun
          firstRun).trans (streamPackets_isPrefix ftdi splitting
            (List.prefix_append _ _))

theorem serves_start (memory : CaptureState υ) (reg : Reg) (packet : OvPacket)
    (size : Nat) (user : UserCallback υ) (start : υ) :
    Serves user start
      (ovCaptureStart memory reg packet size (some user)
        start).loop.control where
  callback := .inl rfl
  userData := rfl
  last := by
    intro before packet after split
    cases before <;> cases split

/--
After any history of a capture, the client has been called for the first
packets of the stream, once for each of them and in order.  There is none
behind the packet at which it has broken the loop.
-/
theorem client_served (ftdi : FtdiContext) (memory : CaptureState υ)
    (reg : Reg) (packet : OvPacket) (size : Nat) (user : UserCallback υ)
    (start : υ) {finish : CaptureState υ} {events : List Event}
    (reached :
      run (step ftdi)
          (ovCaptureStart memory reg packet size (some user) start) events =
        some finish) :
    finish.loop.control.delivered <+:
        streamPackets ftdi (frameDecoderInit memory.loop.fd packet size)
          events ∧
      (¬ Muted finish.loop.control →
        finish.loop.control.delivered =
          streamPackets ftdi (frameDecoderInit memory.loop.fd packet size)
            events) ∧
      finish.loop.control.userData =
        clientAfter user start finish.loop.control.delivered ∧
      ∀ before last after,
        finish.loop.control.delivered = before ++ last :: after →
          BreaksAfter user start before last → after = [] := by
  have serves : Serves user start finish.loop.control :=
    run_invariant (fun _ _ _ => serves_step)
      (serves_start memory reg packet size user start) reached
  obtain ⟨begun, whole⟩ :=
    delivered_history (splitting_init _ _ _) rfl rfl rfl ⟨_, rfl⟩ reached
  exact ⟨begun, whole, serves.userData, fun before last after split breaks =>
    (serves.last before last after split breaks).1⟩

/-- A client that counts its packets and breaks the loop at each of them. -/
def countAndBreak : UserCallback Nat := fun count _ => (count + 1, true)

/-- Another dispatch does not deliver the second packet. -/
theorem client_served_twoPackets :
    ∃ finish,
      run (step ⟨512, by decide⟩) (started (some countAndBreak) 0)
          (.dispatch 0 (fun _ => 0) :: twoPackets ++
            .dispatch 0 (fun _ => 0) :: othersCancelled) = some finish ∧
        finish.loop.control.delivered.length = 1 ∧
        finish.loop.control.userData =
          clientAfter countAndBreak 0 finish.loop.control.delivered := by
  have delivered :
      (run (step ⟨512, by decide⟩) (started (some countAndBreak) 0)
          (.dispatch 0 (fun _ => 0) :: twoPackets ++
            .dispatch 0 (fun _ => 0) :: othersCancelled)).map
        (fun finish => finish.loop.control.delivered.length) = some 1 := by
    decide +kernel
  obtain ⟨finish, reached, one⟩ := Option.map_eq_some_iff.mp delivered
  exact ⟨finish, reached, one, (client_served _ _ _ _ _ _ _ reached).2.2.1⟩

end OpenVizsla.Capture.Client
