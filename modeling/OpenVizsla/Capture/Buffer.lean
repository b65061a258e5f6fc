import OpenVizsla.Decoder.MemoryBound
import OpenVizsla.Capture.Synchronisation

/-!
# Captures that stay in the packet buffer

`ov_capture_start` gets a buffer for one packet, and the decoder copies into it
without a check.  A capture is defined only as long as every copy stays inside.
`stepWithin` has the steps that do; with room for the largest packet these are
all steps.
-/

namespace OpenVizsla.Capture.Buffer

open OpenVizsla.Foundation.Runs
open OpenVizsla.Register.Map
open OpenVizsla.Decoder.Packet
open OpenVizsla.Decoder.PacketProc
open OpenVizsla.Decoder.FrameProc
open OpenVizsla.Decoder.Invariant
open OpenVizsla.Decoder.MemoryBound
open OpenVizsla.Capture.Loop
open OpenVizsla.Capture.Delivery
open OpenVizsla.Capture.Synchronisation

variable {υ : Type*}

/-! ## Copies -/

/-- The copies of decoding one packet of the FTDI chip. -/
def packetCopies (loop : ChaLoop υ) (packet : List UInt8) : List Copy :=
  if packet.length > 2 then
    (frameDecoderProc decoderOps loop.fd loop.control (packet.drop 2)).log
  else
    []

/-- The copies of the loop over the data of a transfer. -/
def transferCopies (ftdi : FtdiContext) (loop : ChaLoop υ)
    (data : List UInt8) : List Copy :=
  if _more : loop.control.state = .running ∧ data ≠ [] then
    packetCopies loop (data.take ftdi.maxPacketSize) ++
      transferCopies ftdi (decodePacket loop (data.take ftdi.maxPacketSize))
        (data.drop ftdi.maxPacketSize)
  else
    []
termination_by data.length
decreasing_by
  have nonempty := List.length_pos_of_ne_nil _more.2
  have positive := ftdi.maxPacketSize_pos
  simp only [List.length_drop]
  omega

/-- The copies of an event: those of a completed transfer. -/
def eventCopies (ftdi : FtdiContext) (capture : CaptureState υ) :
    Event → List Copy
  | .transfer index .completed data _ =>
      transferCopies ftdi
        { capture.loop with control := ended capture.loop.control index } data
  | _ => []

/-- All copies of the event stay in the buffer. -/
def StaysInside (ftdi : FtdiContext) (capture : CaptureState υ)
    (event : Event) : Prop :=
  ∀ copy ∈ eventCopies ftdi capture event, InBounds copy

instance (ftdi : FtdiContext) (capture : CaptureState υ) (event : Event) :
    Decidable (StaysInside ftdi capture event) :=
  inferInstanceAs (Decidable (∀ copy ∈ _, InBounds copy))

/-- The steps that are defined. -/
def stepWithin (ftdi : FtdiContext) (capture : CaptureState υ)
    (event : Event) : Option (CaptureState υ) :=
  if StaysInside ftdi capture event then step ftdi capture event else none

/-! ## Runs -/

section Runs

variable {ftdi : FtdiContext}

theorem stepWithin_eq_some_iff {capture next : CaptureState υ}
    {event : Event} :
    stepWithin ftdi capture event = some next ↔
      StaysInside ftdi capture event ∧ step ftdi capture event = some next := by
  unfold stepWithin
  split
  · rename_i inside
    exact (and_iff_right inside).symm
  · rename_i outside
    refine iff_of_false (fun impossible => ?_) fun both => outside both.1
    cases impossible

/-- A defined run is a run in which all events stay in the buffer. -/
theorem run_stepWithin_iff {start finish : CaptureState υ}
    {events : List Event} :
    run (stepWithin ftdi) start events = some finish ↔
      run (step ftdi) start events = some finish ∧
        Throughout (step ftdi) (StaysInside ftdi) start events := by
  induction events generalizing start with
  | nil => exact (and_iff_left trivial).symm
  | cons event rest ih =>
      simp only [run_cons_eq_some_iff, stepWithin_eq_some_iff, Throughout]
      constructor
      · rintro ⟨next, ⟨inside, head⟩, tail⟩
        obtain ⟨reached, throughout⟩ := ih.mp tail
        refine ⟨⟨next, head, reached⟩, inside, fun next' head' => ?_⟩
        rw [head] at head'
        cases head'
        exact throughout
      · rintro ⟨⟨next, head, reached⟩, inside, throughout⟩
        exact ⟨next, ⟨inside, head⟩,
          ih.mpr ⟨reached, throughout next head⟩⟩

theorem run_of_stepWithin {start finish : CaptureState υ}
    {events : List Event}
    (reached : run (stepWithin ftdi) start events = some finish) :
    run (step ftdi) start events = some finish :=
  (run_stepWithin_iff.mp reached).1

end Runs

/-! ## Buffers with enough room -/

/-- A decoder whose buffer has room for the largest packet. -/
structure Roomy (fd : FrameDecoder) : Prop where
  splitting : Splitting fd
  room : sizeofOvPacket + maxDeclaredSize ≤ fd.pd.bufLength

section Roomy

variable {ftdi : FtdiContext}

/-- A call of the decoder stays in the buffer and keeps it. -/
theorem Roomy.call {fd : FrameDecoder} (roomy : Roomy fd)
    (control : LoopControl υ) (input : List UInt8) :
    (∀ copy ∈ (frameDecoderProc decoderOps fd control input).log,
        InBounds copy) ∧
      Roomy (frameDecoderProc decoderOps fd control input).processor := by
  obtain ⟨within, length⟩ :=
    withinCaptured_frameDecoderProc decoderOps fd control input
      roomy.splitting
  have room := roomy.room
  refine ⟨fun copy member => ?_,
    splitting_frameDecoderProc decoderOps fd control input roomy.splitting,
    ?_⟩
  · have bound := within copy member
    have inside := bound.inside
    have declared := bound.declared
    have buffer := bound.buffer
    unfold InBounds
    omega
  · rw [length]
    exact room

theorem Roomy.decodePacket {loop : ChaLoop υ} (roomy : Roomy loop.fd)
    (packet : List UInt8) :
    (∀ copy ∈ packetCopies loop packet, InBounds copy) ∧
      Roomy (Loop.decodePacket loop packet).fd := by
  unfold packetCopies Loop.decodePacket
  split
  · exact roomy.call loop.control (packet.drop 2)
  · exact ⟨List.forall_mem_nil _, roomy⟩

theorem Roomy.decodeTransfer {loop : ChaLoop υ} {data : List UInt8}
    (roomy : Roomy loop.fd) :
    (∀ copy ∈ transferCopies ftdi loop data, InBounds copy) ∧
      Roomy (Loop.decodeTransfer ftdi loop data).fd := by
  fun_induction Loop.decodeTransfer ftdi loop data with
  | case1 loop data more ih =>
      obtain ⟨now, roomy'⟩ :=
        roomy.decodePacket (data.take ftdi.maxPacketSize)
      obtain ⟨later, roomy''⟩ := ih roomy'
      rw [transferCopies, dif_pos more]
      exact ⟨List.forall_mem_append.mpr ⟨now, later⟩, roomy''⟩
  | case2 loop data done =>
      rw [transferCopies, dif_neg done]
      exact ⟨List.forall_mem_nil _, roomy⟩

theorem Roomy.step {capture next : CaptureState υ} {event : Event}
    (roomy : Roomy capture.loop.fd)
    (stepped : Loop.step ftdi capture event = some next) :
    StaysInside ftdi capture event ∧ Roomy next.loop.fd := by
  have unchanged (fd : next.loop.fd = capture.loop.fd) :
      (∀ copy ∈ ([] : List Copy), InBounds copy) ∧ Roomy next.loop.fd :=
    ⟨List.forall_mem_nil _, fd ▸ roomy⟩
  cases event with
  | dispatch count submits =>
      obtain ⟨-, rfl⟩ := step_dispatch stepped
      exact unchanged (loop_chaLoopRun capture false count submits).1
  | stop submits =>
      have loop := loop_chaLoopRun
        (capture.setControl { capture.loop.control with
          callback := none
          state := .running })
        true (-1) submits
      rw [← step_stop stepped] at loop
      exact unchanged loop.1
  | handled result =>
      exact unchanged (by rw [(step_handled stepped).1])
  | transfer index status data results =>
      obtain ⟨-, -, called⟩ := step_transfer stepped
      have loop := loop_transferCallback called
      by_cases completed : status = .completed
      · subst completed
        have decoded : Roomy { capture.loop with
            control := ended capture.loop.control index }.fd := roomy
        obtain ⟨inside, roomy'⟩ := decoded.decodeTransfer
        exact ⟨inside, ((if_pos rfl).mp loop).1 ▸ roomy'⟩
      · have fd := ((if_neg completed).mp loop).1
        cases status <;> first | exact absurd rfl completed |
          exact unchanged fd

/-- With room for the largest packet, all runs are defined. -/
theorem run_stepWithin_eq (ftdi : FtdiContext) {start : CaptureState υ}
    (roomy : Roomy start.loop.fd) (events : List Event) :
    run (stepWithin ftdi) start events = run (Loop.step ftdi) start events := by
  induction events generalizing start with
  | nil => rfl
  | cons event rest ih =>
      rw [run_cons, run_cons]
      cases stepped : Loop.step ftdi start event with
      | none =>
          have undefined : stepWithin ftdi start event = none := by
            unfold stepWithin
            rw [stepped]
            exact ite_self none
          rw [undefined]
          rfl
      | some next =>
          obtain ⟨inside, roomy'⟩ := roomy.step stepped
          rw [stepWithin_eq_some_iff.mpr ⟨inside, stepped⟩]
          exact ih roomy'

/--
With room for a header and the largest 13-bit size, no event of a capture makes
a copy that leaves the buffer.
-/
theorem capture_stays_inside (ftdi : FtdiContext) (memory : CaptureState υ)
    (reg : Reg) (packet : OvPacket) {size : Nat}
    (room : sizeofOvPacket + maxDeclaredSize ≤ size)
    (callback : Option (UserCallback υ)) (userData : υ)
    {events : List Event} {finish : CaptureState υ}
    (reached :
      run (Loop.step ftdi)
          (ovCaptureStart memory reg packet size callback userData) events =
        some finish) :
    Throughout (Loop.step ftdi) (StaysInside ftdi)
      (ovCaptureStart memory reg packet size callback userData) events := by
  have roomy : Roomy
      (ovCaptureStart memory reg packet size callback userData).loop.fd :=
    ⟨splitting_init _ packet size, room⟩
  rw [← run_stepWithin_eq ftdi roomy] at reached
  exact (run_stepWithin_iff.mp reached).2

/-- A record that the user takes for the last one, and the drain behind it. -/
theorem capture_stays_inside_stopped :
    Throughout (Loop.step ⟨64, by decide⟩) (StaysInside ⟨64, by decide⟩)
      (ovCaptureStart (started (some breakAtFirst) ()) ⟨none, fun _ => 0x0c28⟩
        ⟨0, 0, 0, 0, []⟩ 8203 (some breakAtFirst) ())
      stopInLastPacket := by
  have possible :
      (run (Loop.step ⟨64, by decide⟩)
        (ovCaptureStart (started (some breakAtFirst) ())
          ⟨none, fun _ => 0x0c28⟩ ⟨0, 0, 0, 0, []⟩ 8203
          (some breakAtFirst) ()) stopInLastPacket).isSome := by
    decide +kernel
  obtain ⟨finish, reached⟩ := Option.isSome_iff_exists.mp possible
  exact capture_stays_inside _ _ _ _ (by decide) _ _ reached

end Roomy

end OpenVizsla.Capture.Buffer
