import OpenVizsla.Decoder.WireDecoding
import OpenVizsla.Capture.Resumption

/-!
# Staying in step with the frames

The frame decoder outlives the runs of the loop, so it has to see every byte
of the stream.  The loop over the data of a transfer ends as soon as the state
is no longer `RUNNING`; what is left of the transfer, and what other transfers
bring, never reaches the decoder.

`Unskipped` says that a transfer loses nothing.  Where all transfers meet it,
the decoder is in step with the device in every state of a capture, and the
drain of `ov_capture_stop` finds the echo of the halt command.
-/

namespace OpenVizsla.Capture.Synchronisation

open OpenVizsla.Foundation.Runs
open OpenVizsla.Foundation.Stopping
open OpenVizsla.Foundation.Streaming
open OpenVizsla.Register.Map
open OpenVizsla.Decoder.Packet
open OpenVizsla.Decoder.PacketProc
open OpenVizsla.Decoder.FrameProc
open OpenVizsla.Decoder.Invariant
open OpenVizsla.Decoder.ByteMachine
open OpenVizsla.Decoder.Callbacks
open OpenVizsla.Decoder.Chunking
open OpenVizsla.Decoder.WireGrammar
open OpenVizsla.Decoder.WireDecoding
open OpenVizsla.Capture.Loop
open OpenVizsla.Capture.Delivery

variable {υ : Type*}

/-! ## Decoding a string -/

/-- The decoder accepts the string. -/
def Accepts (fd : FrameDecoder) (bytes : List UInt8) : Prop :=
  (frameDecoderProc recorder fd [] bytes).consumed ≠ none

/-- The decoder behind the string. -/
def afterBytes (fd : FrameDecoder) (bytes : List UInt8) : FrameDecoder :=
  (frameDecoderProc recorder fd [] bytes).processor

/-- The loop, once one call has decoded the string. -/
def decoded (loop : ChaLoop υ) (bytes : List UInt8) : ChaLoop υ where
  fd := afterBytes loop.fd bytes
  control := replay decoderOps loop.control (callbacks loop.fd bytes)
  fed := loop.fed ++ bytes

theorem frameDecoderProc_nil (fd : FrameDecoder) :
    frameDecoderProc recorder fd [] [] = .idle fd [] := by
  rw [frameDecoderProc]

theorem accepts_nil (fd : FrameDecoder) : Accepts fd [] := by
  rw [Accepts, frameDecoderProc_nil]
  exact Option.some_ne_none 0

theorem decoded_nil (loop : ChaLoop υ) : decoded loop [] = loop := by
  unfold decoded afterBytes callbacks
  rw [frameDecoderProc_nil, List.append_nil]
  rfl

theorem splitting_afterBytes {fd : FrameDecoder} (splitting : Splitting fd)
    (bytes : List UInt8) : Splitting (afterBytes fd bytes) :=
  splitting_frameDecoderProc recorder fd [] bytes splitting

theorem accepts_append {fd : FrameDecoder} (splitting : Splitting fd)
    (left right : List UInt8) :
    Accepts fd (left ++ right) ↔
      Accepts fd left ∧ Accepts (afterBytes fd left) right := by
  by_cases accepted : Accepts fd left
  · have same := (consumed_append splitting left right accepted).1
    exact ⟨fun whole => ⟨accepted, fun failed => whole (same.mpr failed)⟩,
      fun parts failed => parts.2 (same.mp failed)⟩
  · have agrees := frameDecoderProc_append recorder fd [] left right splitting
    have failed : (frameDecoderProc recorder fd [] left).consumed = none :=
      not_not.mp accepted
    rw [Outcome.andThen_of_failed failed] at agrees
    exact ⟨fun whole => absurd (agrees.consumed.trans failed) whole,
      fun parts => absurd parts.1 accepted⟩

theorem decoded_append {loop : ChaLoop υ} (splitting : Splitting loop.fd)
    {left right : List UInt8} (accepted : Accepts loop.fd (left ++ right)) :
    decoded loop (left ++ right) = decoded (decoded loop left) right := by
  have first := ((accepts_append splitting left right).mp accepted).1
  have processor := (consumed_append splitting left right first).2 accepted
  simp only [decoded, callbacks_append splitting left right first,
    replay_append, List.append_assoc]
  rw [afterBytes, processor]
  rfl

/-- The loop decodes the string and goes on. -/
def GoesOn (loop : ChaLoop υ) (bytes : List UInt8) : Prop :=
  Accepts loop.fd bytes ∧ (decoded loop bytes).control.state = .running

theorem goesOn_nil (loop : ChaLoop υ) :
    GoesOn loop [] ↔ loop.control.state = .running := by
  rw [GoesOn, decoded_nil]
  exact and_iff_right (accepts_nil loop.fd)

theorem running_of_goesOn {loop : ChaLoop υ} {bytes : List UInt8}
    (goesOn : GoesOn loop bytes) : loop.control.state = .running := by
  by_contra stopped
  exact foldl_of_stopped stopped_apply stopped (callbacks loop.fd bytes)
    goesOn.2

/-! ## One packet of the FTDI chip -/

theorem fed_decodePacket (loop : ChaLoop υ) (packet : List UInt8) :
    (decodePacket loop packet).fed = loop.fed ++ packet.drop 2 := by
  unfold decodePacket
  split
  · rfl
  · rename_i short
    rw [List.drop_of_length_le (by omega), List.append_nil]

theorem decodePacket_eq_decoded {loop : ChaLoop υ} {packet : List UInt8}
    (splitting : Splitting loop.fd) (small : packet.length ≤ bufferSize)
    (accepted : Accepts loop.fd (packet.drop 2)) :
    decodePacket loop packet = decoded loop (packet.drop 2) := by
  by_cases data : packet.length > 2
  · have user := frameDecoderProc_replay decoderOps loop.control
      (packet.drop 2) splitting
    obtain ⟨verdict, -, processor⟩ := frameDecoderProc_client decoderOps
      loop.control (packet.drop 2) splitting
    have success : (frameDecoderProc decoderOps loop.fd loop.control
        (packet.drop 2)).consumed ≠ none := verdict ▸ accepted
    obtain ⟨count, consumed⟩ := Option.ne_none_iff_exists'.mp success
    have whole := frameDecoderProc_consumed decoderOps loop.control
      (packet.drop 2) splitting consumed
    have length : count ≤ bufferSize := by
      rw [List.length_drop] at whole
      omega
    have fine := frameDecoderReturn_nonneg consumed
      (lt_of_le_of_lt length (by decide))
    simp only [decodePacket, if_pos data, if_neg fine, decoded, user,
      processor success, afterBytes]
  · have nothing : packet.drop 2 = [] :=
      List.drop_of_length_le (by omega)
    rw [nothing, decoded_nil]
    exact if_neg data

/-- A rejected packet stops the loop. -/
theorem decodePacket_of_rejected {loop : ChaLoop υ} {packet : List UInt8}
    (splitting : Splitting loop.fd)
    (rejected : ¬ Accepts loop.fd (packet.drop 2)) :
    (decodePacket loop packet).control.state ≠ .running := by
  have data : packet.length > 2 := by
    by_contra short
    rw [List.drop_of_length_le (by omega)] at rejected
    exact rejected (accepts_nil loop.fd)
  have verdict := (frameDecoderProc_client decoderOps loop.control
    (packet.drop 2) splitting).1
  have failed : (frameDecoderProc decoderOps loop.fd loop.control
      (packet.drop 2)).consumed = none := verdict.trans (not_not.mp rejected)
  have negative : frameDecoderReturn (frameDecoderProc decoderOps loop.fd
      loop.control (packet.drop 2)) < 0 := by
    rw [frameDecoderReturn, failed]
    decide
  simp [decodePacket, data, negative]

theorem goesOn_decodePacket {loop : ChaLoop υ} {packet : List UInt8}
    (splitting : Splitting loop.fd) (small : packet.length ≤ bufferSize)
    (bytes : List UInt8) :
    GoesOn (decodePacket loop packet) bytes ↔
      GoesOn loop (packet.drop 2 ++ bytes) := by
  have cut := accepts_append splitting (packet.drop 2) bytes
  by_cases accepted : Accepts loop.fd (packet.drop 2)
  · rw [decodePacket_eq_decoded splitting small accepted]
    constructor
    · rintro ⟨rest, running⟩
      have whole := cut.mpr ⟨accepted, rest⟩
      exact ⟨whole, decoded_append splitting whole ▸ running⟩
    · rintro ⟨whole, running⟩
      exact ⟨(cut.mp whole).2, decoded_append splitting whole ▸ running⟩
  · have stopped := decodePacket_of_rejected splitting accepted
    exact ⟨fun goesOn => absurd (running_of_goesOn goesOn) stopped,
      fun goesOn => absurd (cut.mp goesOn.1).1 accepted⟩

/-! ## One transfer -/

theorem payload_nil (ftdi : FtdiContext) : payload ftdi [] = [] := by
  rw [payload, dif_neg (by simp)]

section Data

variable {data : List UInt8} (ftdi : FtdiContext)

theorem payload_cons (nonempty : data ≠ []) :
    payload ftdi data =
      (data.take ftdi.maxPacketSize).drop 2 ++
        payload ftdi (data.drop ftdi.maxPacketSize) := by
  rw [payload, dif_pos nonempty]

theorem drop_packets (data : List UInt8) (packets : Nat) :
    data.drop ((packets + 1) * ftdi.maxPacketSize) =
      (data.drop ftdi.maxPacketSize).drop (packets * ftdi.maxPacketSize) := by
  rw [List.drop_drop, Nat.add_mul, Nat.one_mul, Nat.add_comm]

theorem payload_take (nonempty : data ≠ []) (packets : Nat) :
    payload ftdi (data.take ((packets + 1) * ftdi.maxPacketSize)) =
      (data.take ftdi.maxPacketSize).drop 2 ++
        payload ftdi ((data.drop ftdi.maxPacketSize).take
          (packets * ftdi.maxPacketSize)) := by
  have positive := ftdi.maxPacketSize_pos
  have size : (packets + 1) * ftdi.maxPacketSize =
      packets * ftdi.maxPacketSize + ftdi.maxPacketSize :=
    Nat.succ_mul packets ftdi.maxPacketSize
  have nonempty' :
      data.take ((packets + 1) * ftdi.maxPacketSize) ≠ [] := by
    rw [Ne, List.take_eq_nil_iff, not_or]
    exact ⟨by omega, nonempty⟩
  have rest :
      (data.take ((packets + 1) * ftdi.maxPacketSize)).drop
          ftdi.maxPacketSize =
        (data.drop ftdi.maxPacketSize).take
          (packets * ftdi.maxPacketSize) := by
    rw [List.drop_take, size, Nat.add_sub_cancel]
  rw [payload_cons ftdi nonempty', rest, List.take_take, size,
    Nat.min_eq_left (Nat.le_add_left _ _)]

/-- The payload of whole packets comes first. -/
theorem payload_split (data : List UInt8) (packets : Nat) :
    payload ftdi data =
      payload ftdi (data.take (packets * ftdi.maxPacketSize)) ++
        payload ftdi (data.drop (packets * ftdi.maxPacketSize)) := by
  induction packets generalizing data with
  | zero => simp [payload_nil]
  | succ packets ih =>
      by_cases empty : data = []
      · simp [empty, payload_nil]
      · rw [payload_take ftdi empty, drop_packets, List.append_assoc,
          ← ih, ← payload_cons ftdi empty]

end Data

/--
Nothing of the data is skipped: behind each packet of the FTDI chip the loop
goes on, or there is no payload left.
-/
def Unskipped (ftdi : FtdiContext) (loop : ChaLoop υ) (data : List UInt8) :
    Prop :=
  ∀ packets,
    payload ftdi (data.drop (packets * ftdi.maxPacketSize)) ≠ [] →
      GoesOn loop (payload ftdi (data.take (packets * ftdi.maxPacketSize)))

section Transfer

variable {ftdi : FtdiContext} {loop : ChaLoop υ} {data : List UInt8}

theorem unskipped_decodePacket (splitting : Splitting loop.fd)
    (small : data.length ≤ bufferSize) (nonempty : data ≠ [])
    (running : loop.control.state = .running) :
    Unskipped ftdi (decodePacket loop (data.take ftdi.maxPacketSize))
        (data.drop ftdi.maxPacketSize) ↔
      Unskipped ftdi loop data := by
  have first : (data.take ftdi.maxPacketSize).length ≤ bufferSize := by
    rw [List.length_take]
    omega
  constructor
  · intro unskipped packets left
    cases packets with
    | zero => simpa [payload_nil, goesOn_nil] using running
    | succ packets =>
        rw [drop_packets] at left
        rw [payload_take ftdi nonempty,
          ← goesOn_decodePacket splitting first]
        exact unskipped packets left
  · intro unskipped packets left
    rw [goesOn_decodePacket splitting first, ← payload_take ftdi nonempty]
    rw [← drop_packets] at left
    exact unskipped (packets + 1) left

/-- A stopped loop skips the whole payload. -/
theorem unskipped_of_stopped (stopped : loop.control.state ≠ .running) :
    Unskipped ftdi loop data ↔ payload ftdi data = [] := by
  constructor
  · intro unskipped
    by_contra left
    have goesOn := unskipped 0 (by simpa using left)
    exact stopped (running_of_goesOn goesOn)
  · intro nothing packets left
    have split := payload_split ftdi data packets
    rw [nothing] at split
    exact absurd (List.append_eq_nil_iff.mp split.symm).2 left

theorem unskipped_nil : Unskipped ftdi loop [] := by
  intro packets left
  rw [List.drop_nil, payload_nil] at left
  exact absurd rfl left

theorem length_decodePacket (small : data.length ≤ bufferSize) :
    (data.drop ftdi.maxPacketSize).length ≤ bufferSize := by
  rw [List.length_drop]
  omega

theorem splitting_decodePacket (splitting : Splitting loop.fd)
    (packet : List UInt8) : Splitting (decodePacket loop packet).fd := by
  unfold decodePacket
  split
  · exact splitting_frameDecoderProc _ _ _ _ splitting
  · exact splitting

/-- The decoder sees the whole payload if and only if none is skipped. -/
theorem fed_decodeTransfer_iff (splitting : Splitting loop.fd)
    (small : data.length ≤ bufferSize) :
    (decodeTransfer ftdi loop data).fed = loop.fed ++ payload ftdi data ↔
      Unskipped ftdi loop data := by
  fun_induction decodeTransfer ftdi loop data with
  | case1 loop data more ih =>
      have reached := splitting_decodePacket splitting
        (data.take ftdi.maxPacketSize)
      rw [payload_cons ftdi more.2, ← List.append_assoc,
        ← fed_decodePacket, ih reached (length_decodePacket small),
        unskipped_decodePacket splitting small more.2 more.1]
  | case2 loop data done =>
      rw [List.self_eq_append_right]
      by_cases empty : data = []
      · rw [empty, payload_nil]
        exact iff_of_true rfl unskipped_nil
      · have stopped : loop.control.state ≠ .running :=
          fun running => done ⟨running, empty⟩
        exact (unskipped_of_stopped stopped).symm

theorem fed_decodeTransfer_isPrefix (ftdi : FtdiContext) (loop : ChaLoop υ)
    (data : List UInt8) :
    (decodeTransfer ftdi loop data).fed <+:
      loop.fed ++ payload ftdi data := by
  fun_induction decodeTransfer ftdi loop data with
  | case1 loop data more ih =>
      rw [payload_cons ftdi more.2, ← List.append_assoc, ← fed_decodePacket]
      exact ih
  | case2 loop data done => exact List.prefix_append _ _

/-- A transfer that loses nothing is one decoder call. -/
theorem decodeTransfer_eq_decoded (splitting : Splitting loop.fd)
    (small : data.length ≤ bufferSize)
    (unskipped : Unskipped ftdi loop data)
    (accepted : Accepts loop.fd (payload ftdi data)) :
    decodeTransfer ftdi loop data = decoded loop (payload ftdi data) := by
  fun_induction decodeTransfer ftdi loop data with
  | case1 loop data more ih =>
      have first : (data.take ftdi.maxPacketSize).length ≤ bufferSize := by
        rw [List.length_take]
        omega
      have reached := splitting_decodePacket splitting
        (data.take ftdi.maxPacketSize)
      rw [payload_cons ftdi more.2] at accepted ⊢
      obtain ⟨head, tail⟩ := (accepts_append splitting _ _).mp accepted
      have packet := decodePacket_eq_decoded splitting first head
      rw [decoded_append splitting accepted, ← packet]
      refine ih reached (length_decodePacket small) ?_ ?_
      · exact (unskipped_decodePacket splitting small more.2 more.1).mpr
          unskipped
      · rw [packet]
        exact tail
  | case2 loop data done =>
      by_cases running : loop.control.state = .running
      · have empty : data = [] := by
          by_contra nonempty
          exact done ⟨running, nonempty⟩
        rw [empty, payload_nil, decoded_nil]
      · rw [(unskipped_of_stopped running).mp unskipped, decoded_nil]

end Transfer

/-! ## Events -/

theorem eventPayload_of_not_completed (ftdi : FtdiContext) {index : Fin 3}
    {status : TransferStatus} {data : List UInt8} {results : List Int}
    (other : status ≠ .completed) :
    eventPayload ftdi (.transfer index status data results) = [] := by
  cases status with
  | completed => exact absurd rfl other
  | cancelled | error | timedOut | stall | noDevice | overflow => rfl

/-- The event skips nothing. -/
def SkipsNothing (ftdi : FtdiContext) (capture : CaptureState υ) :
    Event → Prop
  | .transfer _ .completed data _ => Unskipped ftdi capture.loop data
  | _ => True

theorem unskipped_ended {ftdi : FtdiContext} (loop : ChaLoop υ)
    (index : Fin 3) (data : List UInt8) :
    Unskipped ftdi { loop with control := ended loop.control index } data ↔
      Unskipped ftdi loop data := by
  have same (bytes : List UInt8) :
      GoesOn { loop with control := ended loop.control index } bytes ↔
        GoesOn loop bytes := by
    have client := (sameClient_ended loop.control index).replay
      (callbacks loop.fd bytes)
    simp only [GoesOn, decoded, client.state]
  simp only [Unskipped, same]

theorem step_stop {ftdi : FtdiContext} {start next : CaptureState υ}
    {submits : Fin 3 → Int}
    (stepped : step ftdi start (.stop submits) = some next) :
    next =
      chaLoopRun
        (start.setControl { start.loop.control with
          callback := none
          state := .running })
        true (-1) submits := by
  simp only [step] at stepped
  split at stepped <;> cases stepped
  rfl

theorem step_transfer {ftdi : FtdiContext} {capture next : CaptureState υ}
    {index : Fin 3} {status : TransferStatus} {data : List UInt8}
    {results : List Int}
    (stepped :
      step ftdi capture (.transfer index status data results) = some next) :
    Promised capture.loop.control index status data ∧
      next.phase = capture.phase ∧
      chaLoopTransferCallback ftdi
          { capture.loop with control := ended capture.loop.control index }
          index status data results = some next.loop := by
  simp only [step] at stepped
  split at stepped
  · split at stepped
    · rename_i promised
      obtain ⟨loop, called, rfl⟩ := Option.map_eq_some_iff.mp stepped
      exact ⟨promised, rfl, called⟩
    · cases stepped
  · cases stepped

theorem step_handled {ftdi : FtdiContext} {capture next : CaptureState υ}
    {result : Int} (stepped : step ftdi capture (.handled result) = some next) :
    next.loop =
        { capture.loop with
          control := handleEvents capture.loop.control result } ∧
      ∃ stopping, capture.phase = .handling stopping ∧
        (next.phase = .handling stopping ∨ next.phase = .aborted ∨
          next.phase = returnFrom stopping (runReturn next.loop.control) ∧
            next.loop.control.state ≠ .running) := by
  simp only [step] at stepped
  split at stepped
  · rename_i stopping phase
    split at stepped
    · cases stepped
      refine ⟨rfl, stopping, phase, ?_⟩
      simp only
      split
      · rename_i settled
        exact .inr (.inr ⟨rfl, settled.1⟩)
      · exact .inr (.inl rfl)
    · cases stepped
      exact ⟨rfl, stopping, phase, .inl phase⟩
  · cases stepped

/-- An event of a run goes on with it, aborts, or returns from it. -/
theorem phase_step {ftdi : FtdiContext} {capture next : CaptureState υ}
    {event : Event} (inRun : event.InRun)
    (stepped : step ftdi capture event = some next) :
    ∃ stopping, capture.phase = .handling stopping ∧
      (next.phase = .handling stopping ∨ next.phase = .aborted ∨
        next.phase = returnFrom stopping (runReturn next.loop.control) ∧
          next.loop.control.state ≠ .running) := by
  cases event with
  | dispatch count submits => exact inRun.elim
  | stop submits => exact inRun.elim
  | handled result => exact (step_handled stepped).2
  | transfer index status data results =>
      obtain ⟨-, same, -⟩ := step_transfer stepped
      simp only [step] at stepped
      split at stepped
      · rename_i stopping handling
        exact ⟨stopping, handling, .inl (same.trans handling)⟩
      · cases stepped

/-- A callback that does not complete a transfer decodes nothing. -/
theorem loop_transferCallback {ftdi : FtdiContext} {loop next : ChaLoop υ}
    {index : Fin 3} {status : TransferStatus} {data : List UInt8}
    {results : List Int}
    (called :
      chaLoopTransferCallback ftdi loop index status data results =
        some next) :
    if status = .completed then
      next.fd = (decodeTransfer ftdi loop data).fd ∧
        next.fed = (decodeTransfer ftdi loop data).fed
    else next.fd = loop.fd ∧ next.fed = loop.fed := by
  cases status with
  | completed =>
      simp only [chaLoopTransferCallback] at called
      split at called
      · obtain ⟨result, -, rfl⟩ := Option.map_eq_some_iff.mp called
        exact ⟨rfl, rfl⟩
      · cases called
        exact ⟨rfl, rfl⟩
  | cancelled | error | timedOut | stall | noDevice | overflow =>
      cases called
      exact ⟨rfl, rfl⟩

theorem loop_chaLoopRun (capture : CaptureState υ) (stopping : Bool)
    (count : Int) (submits : Fin 3 → Int) :
    (chaLoopRun capture stopping count submits).loop.fd = capture.loop.fd ∧
      (chaLoopRun capture stopping count submits).loop.fed =
        capture.loop.fed := by
  unfold chaLoopRun
  simp only
  split <;> exact ⟨rfl, rfl⟩

theorem splitting_decodeTransfer (ftdi : FtdiContext) {loop : ChaLoop υ}
    (splitting : Splitting loop.fd) (data : List UInt8) :
    Splitting (decodeTransfer ftdi loop data).fd := by
  fun_induction decodeTransfer ftdi loop data with
  | case1 loop data more ih => exact ih (splitting_decodePacket splitting _)
  | case2 loop data done => exact splitting

/-- What one event feeds to the decoder. -/
theorem fed_step {ftdi : FtdiContext} {capture next : CaptureState υ}
    {event : Event} (splitting : Splitting capture.loop.fd)
    (stepped : step ftdi capture event = some next) :
    Splitting next.loop.fd ∧
      next.loop.fed <+: capture.loop.fed ++ eventPayload ftdi event ∧
      (next.loop.fed = capture.loop.fed ++ eventPayload ftdi event ↔
        SkipsNothing ftdi capture event) := by
  have unchanged (fd : next.loop.fd = capture.loop.fd)
      (fed : next.loop.fed = capture.loop.fed) :
      Splitting next.loop.fd ∧
        next.loop.fed <+: capture.loop.fed ++ [] ∧
        (next.loop.fed = capture.loop.fed ++ [] ↔ True) := by
    rw [fd, fed, List.append_nil]
    exact ⟨splitting, List.prefix_refl _, iff_of_true rfl trivial⟩
  cases event with
  | dispatch count submits =>
      obtain ⟨-, rfl⟩ := step_dispatch stepped
      obtain ⟨fd, fed⟩ := loop_chaLoopRun capture false count submits
      exact unchanged fd fed
  | stop submits =>
      have entry := step_stop stepped
      obtain ⟨fd, fed⟩ := loop_chaLoopRun
        (capture.setControl { capture.loop.control with
          callback := none
          state := .running })
        true (-1) submits
      rw [← entry] at fd fed
      exact unchanged fd fed
  | handled result =>
      have same := (step_handled stepped).1
      exact unchanged (by rw [same]) (by rw [same])
  | transfer index status data results =>
      obtain ⟨promised, -, called⟩ := step_transfer stepped
      have loop := loop_transferCallback called
      by_cases completed : status = .completed
      · subst completed
        obtain ⟨fd, fed⟩ := (if_pos rfl).mp loop
        rw [fd, fed]
        refine ⟨splitting_decodeTransfer ftdi ?_ data,
          fed_decodeTransfer_isPrefix ftdi _ data, ?_⟩
        · exact splitting
        · refine Iff.trans (fed_decodeTransfer_iff ?_ promised.2.2)
            (unskipped_ended capture.loop index data)
          exact splitting
      · obtain ⟨fd, fed⟩ := (if_neg completed).mp loop
        cases status <;> first | exact absurd rfl completed |
          exact unchanged fd fed

/-- A run feeds all of its payload if and only if no event skips any. -/
theorem fed_run {ftdi : FtdiContext} {start finish : CaptureState υ}
    {events : List Event} (splitting : Splitting start.loop.fd)
    (reached : run (step ftdi) start events = some finish) :
    finish.loop.fed.length ≤
        start.loop.fed.length + (transferPayload ftdi events).length ∧
      (finish.loop.fed = start.loop.fed ++ transferPayload ftdi events ↔
        Throughout (step ftdi) (SkipsNothing ftdi) start events) := by
  induction events generalizing start with
  | nil =>
      cases reached
      simp [transferPayload, Throughout]
  | cons event rest ih =>
      obtain ⟨next, head, tail⟩ := run_cons_eq_some_iff.mp reached
      obtain ⟨splitting', before, first⟩ := fed_step splitting head
      obtain ⟨bound, later⟩ := ih splitting' tail
      have short := before.length_le
      have whole : transferPayload ftdi (event :: rest) =
          eventPayload ftdi event ++ transferPayload ftdi rest :=
        List.flatMap_cons
      rw [List.length_append] at short
      rw [whole, List.length_append, Throughout, ← first]
      refine ⟨by omega, ?_⟩
      constructor
      · intro fed
        have length := congrArg List.length fed
        simp only [List.length_append] at length
        have all : next.loop.fed =
            start.loop.fed ++ eventPayload ftdi event := by
          apply before.eq_of_length
          rw [List.length_append]
          omega
        refine ⟨all, fun next' head' => ?_⟩
        rw [head] at head'
        cases head'
        rw [← later, fed, all, List.append_assoc]
      · rintro ⟨all, throughout⟩
        rw [later.mpr (throughout next head), all, List.append_assoc]

/-! ## Errors and the register map -/

/-- The register map is kept, and only `libusb` has reported an error. -/
structure Quiet (before after : LoopControl υ) : Prop where
  reg : after.reg = before.reg
  errorStr :
    after.errorStr = before.errorStr ∨
      ∃ code, after.errorStr = some (.libusbErrorName code)

@[refl]
theorem Quiet.refl (loop : LoopControl υ) : Quiet loop loop :=
  ⟨rfl, .inl rfl⟩

theorem Quiet.trans {first second third : LoopControl υ}
    (left : Quiet first second) (right : Quiet second third) :
    Quiet first third where
  reg := right.reg.trans left.reg
  errorStr := by
    rcases right.errorStr with same | reported
    · rw [same]
      exact left.errorStr
    · exact .inr reported

theorem quiet_fail (loop : LoopControl υ) (code : Int) :
    Quiet loop (fail loop code) :=
  ⟨rfl, .inr ⟨code, rfl⟩⟩

theorem quiet_callUser (loop : LoopControl υ) (packet : OvPacket) :
    Quiet loop (callUser loop packet) := by
  unfold callUser
  split
  · rfl
  · simp only
    split <;> exact ⟨rfl, .inl rfl⟩

theorem quiet_countPacket (loop : LoopControl υ) :
    Quiet loop (countPacket loop) := by
  unfold countPacket
  split <;> exact ⟨rfl, .inl rfl⟩

theorem quiet_apply (loop : LoopControl υ) (call : Callback) :
    Quiet loop (call.apply decoderOps loop) := by
  cases call with
  | packet complete =>
      have counted : Quiet loop (countPacket (callUser loop complete)) :=
        (quiet_callUser loop complete).trans (quiet_countPacket _)
      change Quiet loop (chaLoopPacketCallback loop complete)
      unfold chaLoopPacketCallback
      split
      · rfl
      · simp only
        split
        · exact ⟨counted.reg, counted.errorStr⟩
        · exact counted
  | busFrame addr value =>
      change Quiet loop (chaLoopBusFrameCallback loop addr value)
      unfold chaLoopBusFrameCallback
      split <;> exact ⟨rfl, .inl rfl⟩

theorem quiet_replay (loop : LoopControl υ) (calls : List Callback) :
    Quiet loop (replay decoderOps loop calls) := by
  induction calls generalizing loop with
  | nil => rfl
  | cons call rest ih => exact (quiet_apply loop call).trans (ih _)

theorem quiet_submitTransfers (submits : Fin 3 → Int)
    (indices : List (Fin 3)) (loop : LoopControl υ) :
    Quiet loop (submitTransfers submits indices loop) := by
  induction indices generalizing loop with
  | nil => rfl
  | cons index rest ih =>
      rw [submitTransfers]
      split
      · exact quiet_fail loop 0
      · refine Quiet.trans ?_ (ih _)
        exact ⟨rfl, .inl rfl⟩

theorem quiet_chaLoopRun (capture : CaptureState υ) (stopping : Bool)
    (count : Int) (submits : Fin 3 → Int) :
    Quiet capture.loop.control
      (chaLoopRun capture stopping count submits).loop.control := by
  by_cases fatal : capture.loop.control.state = .fatalError
  · rw [chaLoopRun_of_fatal fatal]
    exact ⟨rfl, .inl rfl⟩
  · rw [chaLoopRun_of_alive fatal]
    have active := quiet_submitTransfers submits [0, 1, 2]
      (cleared capture.loop.control count)
    simp only [CaptureState.setControl]
    split <;> exact ⟨active.reg, active.errorStr⟩

theorem quiet_handleEvents (loop : LoopControl υ) (result : Int) :
    Quiet loop (handleEvents loop result) := by
  unfold handleEvents
  split
  · exact quiet_fail loop result
  · rfl

theorem quiet_transferCallback {ftdi : FtdiContext} {loop next : ChaLoop υ}
    {index : Fin 3} {status : TransferStatus} {data : List UInt8}
    {results : List Int}
    (decoding :
      status = .completed →
        Quiet loop.control (decodeTransfer ftdi loop data).control)
    (called :
      chaLoopTransferCallback ftdi loop index status data results =
        some next) :
    Quiet loop.control next.control := by
  cases status with
  | completed =>
      specialize decoding rfl
      simp only [chaLoopTransferCallback] at called
      split at called
      · obtain ⟨result, -, rfl⟩ := Option.map_eq_some_iff.mp called
        simp only
        split
        · exact ⟨decoding.reg, .inr ⟨result, rfl⟩⟩
        · exact ⟨decoding.reg, decoding.errorStr⟩
      · cases called
        exact ⟨decoding.reg, decoding.errorStr⟩
  | cancelled =>
      cases called
      exact ⟨rfl, .inl rfl⟩
  | error | timedOut | stall | noDevice | overflow =>
      cases called
      exact ⟨rfl, .inr ⟨_, rfl⟩⟩

/-! ## Staying in step -/

theorem afterBytes_append {fd : FrameDecoder} (splitting : Splitting fd)
    {left right : List UInt8} (accepted : Accepts fd (left ++ right)) :
    afterBytes fd (left ++ right) = afterBytes (afterBytes fd left) right :=
  (consumed_append splitting left right
    ((accepts_append splitting left right).mp accepted).1).2 accepted

theorem afterBytes_nil (fd : FrameDecoder) : afterBytes fd [] = fd := by
  rw [afterBytes, frameDecoderProc_nil]
  rfl

/-- The transfer itself is no longer in flight when it is decoded. -/
theorem decodeTransfer_ended {ftdi : FtdiContext} {loop : ChaLoop υ}
    {data : List UInt8} (splitting : Splitting loop.fd)
    (small : data.length ≤ bufferSize) (index : Fin 3)
    (unskipped : Unskipped ftdi loop data)
    (accepted : Accepts loop.fd (payload ftdi data)) :
    decodeTransfer ftdi { loop with control := ended loop.control index }
        data =
      decoded { loop with control := ended loop.control index }
        (payload ftdi data) := by
  apply decodeTransfer_eq_decoded
  · exact splitting
  · exact small
  · exact (unskipped_ended loop index data).mpr unskipped
  · exact accepted

theorem inStep_step {ftdi : FtdiContext} {capture next : CaptureState υ}
    {event : Event} (splitting : Splitting capture.loop.fd)
    (accepted : Accepts capture.loop.fd (eventPayload ftdi event))
    (skipsNothing : SkipsNothing ftdi capture event)
    (stepped : step ftdi capture event = some next) :
    next.loop.fd = afterBytes capture.loop.fd (eventPayload ftdi event) ∧
      Quiet capture.loop.control next.loop.control := by
  cases event with
  | dispatch count submits =>
      obtain ⟨-, rfl⟩ := step_dispatch stepped
      exact ⟨(loop_chaLoopRun capture false count submits).1.trans
        (afterBytes_nil _).symm, quiet_chaLoopRun capture false count submits⟩
  | stop submits =>
      rw [step_stop stepped]
      refine ⟨(loop_chaLoopRun _ true (-1) submits).1.trans
        (afterBytes_nil _).symm, ?_⟩
      refine Quiet.trans ?_ (quiet_chaLoopRun _ true (-1) submits)
      exact ⟨rfl, .inl rfl⟩
  | handled result =>
      rw [(step_handled stepped).1]
      exact ⟨(afterBytes_nil _).symm, quiet_handleEvents _ result⟩
  | transfer index status data results =>
      obtain ⟨promised, -, called⟩ := step_transfer stepped
      have loop := loop_transferCallback called
      by_cases completed : status = .completed
      · subst completed
        have whole := decodeTransfer_ended splitting promised.2.2 index
          skipsNothing accepted
        refine ⟨((if_pos rfl).mp loop).1.trans (by rw [whole]; rfl), ?_⟩
        refine Quiet.trans ?_ (quiet_transferCallback (fun _ => ?_) called)
        · exact ⟨rfl, .inl rfl⟩
        · rw [whole]
          exact quiet_replay _ _
      · rw [eventPayload_of_not_completed ftdi completed, afterBytes_nil]
        refine ⟨((if_neg completed).mp loop).1, ?_⟩
        refine Quiet.trans ?_
          (quiet_transferCallback (absurd · completed) called)
        exact ⟨rfl, .inl rfl⟩

theorem transferPayload_cons (ftdi : FtdiContext) (event : Event)
    (rest : List Event) :
    transferPayload ftdi (event :: rest) =
      eventPayload ftdi event ++ transferPayload ftdi rest :=
  List.flatMap_cons

theorem transferPayload_append (ftdi : FtdiContext)
    (first second : List Event) :
    transferPayload ftdi (first ++ second) =
      transferPayload ftdi first ++ transferPayload ftdi second :=
  List.flatMap_append

theorem inStep_run {ftdi : FtdiContext} {start finish : CaptureState υ}
    {events : List Event} (splitting : Splitting start.loop.fd)
    (accepted : Accepts start.loop.fd (transferPayload ftdi events))
    (throughout : Throughout (step ftdi) (SkipsNothing ftdi) start events)
    (reached : run (step ftdi) start events = some finish) :
    finish.loop.fd = afterBytes start.loop.fd (transferPayload ftdi events) ∧
      Quiet start.loop.control finish.loop.control := by
  induction events generalizing start with
  | nil =>
      cases reached
      exact ⟨(afterBytes_nil _).symm, .refl _⟩
  | cons event rest ih =>
      obtain ⟨next, head, tail⟩ := run_cons_eq_some_iff.mp reached
      obtain ⟨skipsNothing, later⟩ := throughout
      rw [transferPayload_cons] at accepted ⊢
      obtain ⟨now, then'⟩ := (accepts_append splitting _ _).mp accepted
      obtain ⟨fd, quiet⟩ := inStep_step splitting now skipsNothing head
      have splitting' := (fed_step splitting head).1
      obtain ⟨fd', quiet'⟩ := ih splitting' (fd ▸ then') (later next head) tail
      rw [afterBytes_append splitting accepted, ← fd]
      exact ⟨fd', quiet.trans quiet'⟩

/-! ## The echo of the halt command -/

/-- The loop has seen the echo, or an error of `libusb` came later. -/
def Recognised (loop : LoopControl υ) : Prop :=
  loop.state = .hostReadOff ∨
    loop.state = .fatalError ∧
      ∃ code, loop.errorStr = some (.libusbErrorName code)

theorem not_running_of_recognised {loop : LoopControl υ}
    (recognised : Recognised loop) : loop.state ≠ .running := by
  rcases recognised with off | ⟨fatal, -⟩
  · simp [off]
  · simp [fatal]

theorem recognised_fail (loop : LoopControl υ) (code : Int) :
    Recognised (fail loop code) :=
  .inr ⟨rfl, code, rfl⟩

/-- No callback takes a loop out of `HOST_READ_OFF`. -/
theorem replay_hostReadOff {loop : LoopControl υ}
    (off : loop.state = .hostReadOff) (calls : List Callback) :
    (replay decoderOps loop calls).state = .hostReadOff := by
  induction calls generalizing loop with
  | nil => exact off
  | cons call rest ih =>
      change (replay decoderOps (call.apply decoderOps loop) rest).state = _
      apply ih
      cases call with
      | packet complete =>
          have ignored : chaLoopPacketCallback loop complete = loop :=
            if_pos (by simp [off])
          exact (congrArg LoopControl.state ignored).trans off
      | busFrame addr value =>
          change (chaLoopBusFrameCallback loop addr value).state = _
          unfold chaLoopBusFrameCallback
          split
          · rfl
          · exact off

theorem replay_echo {loop : LoopControl υ} {addr : UInt16}
    (matching : addr &&& 0x7fff = loop.reg.addr .sdramHostReadGo)
    {calls : List Callback} (echo : .busFrame addr 0 ∈ calls) :
    (replay decoderOps loop calls).state = .hostReadOff := by
  obtain ⟨before, after, rfl⟩ := List.append_of_mem echo
  rw [replay_append]
  have kept := (quiet_replay loop before).reg
  have off :
      (chaLoopBusFrameCallback (replay decoderOps loop before) addr 0).state =
        .hostReadOff := by
    rw [chaLoopBusFrameCallback, kept, if_pos ⟨matching, rfl⟩]
  exact replay_hostReadOff off after

/-- The echo is in the data of the event. -/
theorem recognised_of_echo {ftdi : FtdiContext}
    {capture next : CaptureState υ} {event : Event} {addr : UInt16}
    (splitting : Splitting capture.loop.fd)
    (accepted : Accepts capture.loop.fd (eventPayload ftdi event))
    (skipsNothing : SkipsNothing ftdi capture event)
    (stepped : step ftdi capture event = some next)
    (matching :
      addr &&& 0x7fff = capture.loop.control.reg.addr .sdramHostReadGo)
    (echo :
      .busFrame addr 0 ∈
        callbacks capture.loop.fd (eventPayload ftdi event)) :
    Recognised next.loop.control := by
  have audible : eventPayload ftdi event ≠ [] := by
    intro nothing
    rw [nothing, callbacks, frameDecoderProc_nil] at echo
    cases echo
  cases event with
  | dispatch count submits => exact absurd rfl audible
  | stop submits => exact absurd rfl audible
  | handled result => exact absurd rfl audible
  | transfer index status data results =>
      obtain ⟨promised, -, called⟩ := step_transfer stepped
      by_cases completed : status = .completed
      · subst completed
        have whole := decodeTransfer_ended splitting promised.2.2 index
          skipsNothing accepted
        have matching' : addr &&& 0x7fff =
            (ended capture.loop.control index).reg.addr .sdramHostReadGo :=
          matching
        have heard : (replay decoderOps (ended capture.loop.control index)
            (callbacks capture.loop.fd (payload ftdi data))).state =
              .hostReadOff :=
          replay_echo matching' echo
        have off : (decodeTransfer ftdi
            { capture.loop with control := ended capture.loop.control index }
            data).control.state = .hostReadOff := by
          rw [whole]
          exact heard
        simp only [chaLoopTransferCallback] at called
        rw [if_neg (by rw [off]; decide)] at called
        rw [← Option.some.inj called]
        exact .inl off
      · exact absurd (eventPayload_of_not_completed ftdi completed) audible

theorem recognised_step {ftdi : FtdiContext} {capture next : CaptureState υ}
    {event : Event} (inRun : event.InRun)
    (recognised : Recognised capture.loop.control)
    (stepped : step ftdi capture event = some next) :
    Recognised next.loop.control := by
  have stopped := not_running_of_recognised recognised
  cases event with
  | dispatch count submits => exact inRun.elim
  | stop submits => exact inRun.elim
  | handled result =>
      rw [(step_handled stepped).1]
      unfold handleEvents
      split
      · exact recognised_fail _ result
      · exact recognised
  | transfer index status data results =>
      obtain ⟨-, -, called⟩ := step_transfer stepped
      cases status with
      | completed =>
          rw [transferCallback_completed_of_stopped (by exact stopped)
            called]
          exact recognised
      | cancelled =>
          rw [← Option.some.inj called]
          exact recognised
      | error | timedOut | stall | noDevice | overflow =>
          rw [← Option.some.inj called]
          exact .inr ⟨rfl, _, rfl⟩

/-- The phases behind the call of `ov_capture_stop`. -/
def Draining (phase : Phase) : Prop :=
  phase = .handling true ∨ phase = .aborted ∨
    ∃ value, phase = .stopped value

/-- Nothing but the events of its run comes in a drain. -/
theorem inRun_of_draining {ftdi : FtdiContext}
    {capture next : CaptureState υ} {event : Event}
    (draining : Draining capture.phase)
    (stepped : step ftdi capture event = some next) : event.InRun := by
  cases event with
  | dispatch count submits =>
      rcases draining with phase | phase | ⟨value, phase⟩ <;>
        simp [step, phase] at stepped
  | stop submits =>
      rcases draining with phase | phase | ⟨value, phase⟩ <;>
        simp [step, phase] at stepped
  | transfer index status data results => trivial
  | handled result => trivial

theorem draining_step {ftdi : FtdiContext} {capture next : CaptureState υ}
    {event : Event} (draining : Draining capture.phase)
    (stepped : step ftdi capture event = some next) :
    event.InRun ∧ Draining next.phase := by
  have inRun := inRun_of_draining draining stepped
  obtain ⟨stopping, phase, after⟩ := phase_step inRun stepped
  have drain : stopping = true := by
    rcases draining with same | other | ⟨value, other⟩
    · exact Phase.handling.inj (phase.symm.trans same)
    · simp [phase] at other
    · simp [phase] at other
  subst drain
  rcases after with same | aborted | ⟨returned, -⟩
  · exact ⟨inRun, .inl same⟩
  · exact ⟨inRun, .inr (.inl aborted)⟩
  · exact ⟨inRun, .inr (.inr ⟨_, returned⟩)⟩

theorem recognised_run_of_recognised {ftdi : FtdiContext}
    {start finish : CaptureState υ} {events : List Event}
    (draining : Draining start.phase)
    (recognised : Recognised start.loop.control)
    (reached : run (step ftdi) start events = some finish) :
    Recognised finish.loop.control := by
  have initial : Draining start.phase ∧ Recognised start.loop.control :=
    ⟨draining, recognised⟩
  have preserved (state : CaptureState υ) (event : Event)
      (next : CaptureState υ)
      (invariant : Draining state.phase ∧ Recognised state.loop.control)
      (stepped : step ftdi state event = some next) :
      Draining next.phase ∧ Recognised next.loop.control := by
    obtain ⟨inRun, draining'⟩ := draining_step invariant.1 stepped
    exact ⟨draining', recognised_step inRun invariant.2 stepped⟩
  exact (run_invariant preserved initial reached).2

/-- A drain that skips nothing recognises an echo in its data. -/
theorem recognised_run {ftdi : FtdiContext} {start finish : CaptureState υ}
    {events : List Event} {addr : UInt16}
    (splitting : Splitting start.loop.fd) (draining : Draining start.phase)
    (accepted : Accepts start.loop.fd (transferPayload ftdi events))
    (throughout : Throughout (step ftdi) (SkipsNothing ftdi) start events)
    (reached : run (step ftdi) start events = some finish)
    (matching :
      addr &&& 0x7fff = start.loop.control.reg.addr .sdramHostReadGo)
    (echo :
      .busFrame addr 0 ∈
        callbacks start.loop.fd (transferPayload ftdi events)) :
    Recognised finish.loop.control := by
  induction events generalizing start with
  | nil =>
      rw [transferPayload, List.flatMap_nil, callbacks,
        frameDecoderProc_nil] at echo
      cases echo
  | cons event rest ih =>
      obtain ⟨next, head, tail⟩ := run_cons_eq_some_iff.mp reached
      obtain ⟨skipsNothing, later⟩ := throughout
      rw [transferPayload_cons] at accepted echo
      obtain ⟨now, then'⟩ := (accepts_append splitting _ _).mp accepted
      obtain ⟨fd, quiet⟩ := inStep_step splitting now skipsNothing head
      obtain ⟨-, draining'⟩ := draining_step draining head
      rw [callbacks_append splitting _ _ now, List.mem_append] at echo
      rcases echo with first | second
      · exact recognised_run_of_recognised draining'
          (recognised_of_echo splitting now skipsNothing head matching first)
          tail
      · refine ih (fed_step splitting head).1 draining' (fd ▸ then')
          (later next head) tail ?_ ?_
        · rw [quiet.reg]
          exact matching
        · rw [fd]
          exact second

/-! ## Streams of the grammar -/

section Stream

variable {wire : Wire} {items : List Item} (memory : FrameDecoder)
  (packet : OvPacket) (size : Nat)

/-- Every beginning of a stream is accepted. -/
theorem accepts_wire (carries : wire.Carries items) {bytes : List UInt8}
    (stream : bytes <+: wire.encode) :
    Accepts (frameDecoderInit memory packet size) bytes := by
  have splitting := splitting_init memory packet size
  obtain ⟨next, now, run, -⟩ := frameBytes_wire memory packet size carries
  have follows := frameDecoderProc_frameBytes recorder
    (frameDecoderInit memory packet size) [] wire.encode splitting
  rw [run] at follows
  have whole :
      Accepts (frameDecoderInit memory packet size) wire.encode := by
    rw [Accepts, follows.1]
    exact Option.some_ne_none _
  obtain ⟨rest, split⟩ := stream
  rw [← split] at whole
  exact ((accepts_append splitting bytes rest).mp whole).1

/-- A bus frame of the stream is reported at its last byte. -/
theorem callbacks_bus (carries : wire.Carries items)
    {first second : List Frame} {addrHi addrLo value checksum : UInt8}
    (frames :
      wire.frames = first ++ .bus addrHi addrLo value checksum :: second) :
    callbacks (frameDecoderInit memory packet size)
        (first.flatMap Frame.encode ++
          [0x55, addrHi, addrLo, value, checksum]) =
      callbacks (frameDecoderInit memory packet size)
          (first.flatMap Frame.encode ++ [0x55, addrHi, addrLo, value]) ++
        [.busFrame (busAddr addrHi addrLo) value] := by
  have splitting := splitting_init memory packet size
  have decodes : Decodes (packetDecoderInit packet size) (annotate 0 items) :=
    decodes_annotate 0 items _ ⟨rfl, rfl, rfl⟩
  rw [Wire.Carries, Wire.payload, frames, ← annotate_bytes 0 items,
    List.flatMap_append, List.append_assoc] at carries
  obtain ⟨middle, now, head, start, -, -⟩ :=
    frameBytes_frames first splitting rfl decodes carries []
  have short : [addrHi, addrLo, value].length < 4 := by simp
  obtain ⟨next, cut⟩ := frameBytes_bus_cut ([] ++ now) start short
  have bus := frameBytes_bus ([] ++ now) addrHi addrLo value checksum start
  have silent :
      callbacks (frameDecoderInit memory packet size)
        (first.flatMap Frame.encode ++ [0x55, addrHi, addrLo, value]) =
          [] ++ now := by
    apply callbacks_of_frameBytes splitting
    rw [frameBytes_append, head]
    exact cut
  rw [silent]
  apply callbacks_of_frameBytes splitting
  rw [frameBytes_append, head]
  exact bus

/--
The echo of the halt command: a bus frame that switches `SDRAM_HOST_READ_GO`
off and ends behind the first `before` bytes of the stream, but within the
first `received`.
-/
def EchoArrives (reg : Reg) (wire : Wire) (before received : Nat) : Prop :=
  ∃ first addrHi addrLo checksum second,
    wire.frames = first ++ .bus addrHi addrLo 0 checksum :: second ∧
      busAddr addrHi addrLo &&& 0x7fff = reg.addr .sdramHostReadGo ∧
      before < (first.flatMap Frame.encode).length + 5 ∧
      (first.flatMap Frame.encode).length + 5 ≤ received

theorem mem_of_prefix {α : Type*} {first second third : List α} {entry : α}
    (left : first <+: second) (right : second ++ [entry] <+: first ++ third) :
    entry ∈ third := by
  obtain ⟨middle, rfl⟩ := left
  rw [List.append_assoc, List.prefix_append_right_inj] at right
  exact right.subset (List.mem_append_right middle (List.mem_singleton_self _))

/-- The echo is among the callbacks behind the first part of the stream. -/
theorem echo_mem_callbacks (carries : wire.Carries items) {reg : Reg}
    {before after : List UInt8} (stream : before ++ after <+: wire.encode)
    (echo :
      EchoArrives reg wire before.length (before ++ after).length) :
    ∃ addr : UInt16,
      addr &&& 0x7fff = reg.addr .sdramHostReadGo ∧
        .busFrame addr 0 ∈
          callbacks
            (afterBytes (frameDecoderInit memory packet size) before)
            after := by
  have splitting := splitting_init memory packet size
  obtain ⟨first, addrHi, addrLo, checksum, second, frames, matching, late,
    inTime⟩ := echo
  have reported := callbacks_bus memory packet size carries frames
  have accepted := accepts_wire memory packet size carries
    ((List.prefix_append before after).trans stream)
  have whole : wire.encode =
      first.flatMap Frame.encode ++ [0x55, addrHi, addrLo, 0, checksum] ++
        (second.flatMap Frame.encode ++ wire.cut.encode) := by
    rw [Wire.encode, frames]
    simp [Frame.encode]
  have cut : first.flatMap Frame.encode ++ [0x55, addrHi, addrLo, 0] <+:
      wire.encode := by
    rw [whole]
    exact ⟨checksum :: (second.flatMap Frame.encode ++ wire.cut.encode),
      by simp⟩
  have frame :
      first.flatMap Frame.encode ++ [0x55, addrHi, addrLo, 0, checksum] <+:
        wire.encode := by
    rw [whole]
    exact List.prefix_append _ _
  have early : before <+:
      first.flatMap Frame.encode ++ [0x55, addrHi, addrLo, 0] := by
    refine List.prefix_of_prefix_length_le
      ((List.prefix_append before after).trans stream) cut ?_
    simp only [List.length_append, List.length_cons, List.length_nil]
    omega
  have complete :
      first.flatMap Frame.encode ++ [0x55, addrHi, addrLo, 0, checksum] <+:
        before ++ after := by
    refine List.prefix_of_prefix_length_le frame stream ?_
    simp only [List.length_append, List.length_cons,
      List.length_nil] at inTime ⊢
    omega
  obtain ⟨lead, early⟩ := early
  obtain ⟨rest, complete⟩ := complete
  have left := callbacks_isPrefix splitting before lead
  have right := callbacks_isPrefix splitting
    (first.flatMap Frame.encode ++ [0x55, addrHi, addrLo, 0, checksum]) rest
  rw [early] at left
  rw [complete, reported,
    callbacks_append splitting before after accepted] at right
  exact ⟨busAddr addrHi addrLo, matching, mem_of_prefix left right⟩

end Stream

/-! ## Captures -/

theorem draining_stop {ftdi : FtdiContext} {start next : CaptureState υ}
    {submits : Fin 3 → Int}
    (stepped : step ftdi start (.stop submits) = some next) :
    Draining next.phase := by
  rw [step_stop stepped]
  simp [chaLoopRun, CaptureState.setControl, Draining]

theorem recognised_stop {ftdi : FtdiContext} {start finish : CaptureState υ}
    {submits : Fin 3 → Int} {drain : List Event} {addr : UInt16}
    (splitting : Splitting start.loop.fd)
    (accepted :
      Accepts start.loop.fd (transferPayload ftdi (.stop submits :: drain)))
    (throughout :
      Throughout (step ftdi) (SkipsNothing ftdi) start
        (.stop submits :: drain))
    (reached :
      run (step ftdi) start (.stop submits :: drain) = some finish)
    (matching :
      addr &&& 0x7fff = start.loop.control.reg.addr .sdramHostReadGo)
    (echo :
      .busFrame addr 0 ∈
        callbacks start.loop.fd
          (transferPayload ftdi (.stop submits :: drain))) :
    Recognised finish.loop.control := by
  obtain ⟨entry, head, tail⟩ := run_cons_eq_some_iff.mp reached
  obtain ⟨fd, quiet⟩ :=
    inStep_step splitting (accepts_nil _) throughout.1 head
  have same : entry.loop.fd = start.loop.fd :=
    fd.trans (afterBytes_nil start.loop.fd)
  rw [transferPayload_cons] at accepted echo
  rw [← same] at splitting accepted echo
  refine recognised_run splitting (draining_stop head) accepted
    (throughout.2 entry head) tail ?_ echo
  rw [quiet.reg]
  exact matching

/--
In every state of a capture of a stream of the grammar, the decoder has seen
all bytes of all completed transfers if and only if no transfer has skipped
any.  It is then in the state behind these bytes, it has reported no error,
and a drain whose data holds the echo of the halt command has recognised it.
-/
theorem stays_in_step (ftdi : FtdiContext) (memory : CaptureState υ)
    (reg : Reg) (packet : OvPacket) (size : Nat)
    (callback : Option (UserCallback υ)) (userData : υ)
    {finish : CaptureState υ} {events : List Event} {wire : Wire}
    {items : List Item} (carries : wire.Carries items)
    (stream : transferPayload ftdi events <+: wire.encode)
    (reached :
      run (step ftdi)
          (ovCaptureStart memory reg packet size callback userData) events =
        some finish) :
    (finish.loop.fed = transferPayload ftdi events ↔
        Throughout (step ftdi) (SkipsNothing ftdi)
          (ovCaptureStart memory reg packet size callback userData)
          events) ∧
      (Throughout (step ftdi) (SkipsNothing ftdi)
          (ovCaptureStart memory reg packet size callback userData) events →
        finish.loop.fd =
            (frameDecoderProc recorder
              (frameDecoderInit memory.loop.fd packet size) []
                (transferPayload ftdi events)).processor ∧
          (∀ message,
            finish.loop.control.errorStr = some (.text message) →
              memory.loop.control.errorStr = some (.text message)) ∧
          ∀ before submits drain,
            events = before ++ .stop submits :: drain →
              EchoArrives reg wire (transferPayload ftdi before).length
                  (transferPayload ftdi events).length →
                Recognised finish.loop.control) := by
  have splitting := splitting_init memory.loop.fd packet size
  have accepted :=
    accepts_wire memory.loop.fd packet size carries stream
  refine ⟨(fed_run splitting reached).2, fun throughout => ?_⟩
  obtain ⟨fd, quiet⟩ := inStep_run splitting accepted throughout reached
  refine ⟨fd, fun message reported => ?_, ?_⟩
  · rcases quiet.errorStr with same | ⟨code, other⟩
    · exact same.symm.trans reported
    · rw [other] at reported
      cases reported
  · rintro before submits drain rfl echo
    obtain ⟨middle, first, second⟩ := run_append_eq_some_iff.mp reached
    obtain ⟨past, later⟩ := throughout_append throughout first
    rw [transferPayload_append] at stream accepted echo
    obtain ⟨addr, matching, heard⟩ := echo_mem_callbacks memory.loop.fd packet
      size carries stream echo
    obtain ⟨now, then'⟩ := (accepts_append splitting _ _).mp accepted
    obtain ⟨fd', quiet'⟩ := inStep_run splitting now past first
    have matching' :
        addr &&& 0x7fff = middle.loop.control.reg.addr .sdramHostReadGo := by
      rw [quiet'.reg]
      exact matching
    refine recognised_stop ?_ ?_ later second matching' ?_
    · rw [fd']
      exact splitting_afterBytes splitting _
    · rw [fd']
      exact then'
    · rw [fd']
      exact heard

/-- The end of a run whose other two transfers are cancelled. -/
def othersCancelled : List Event :=
  [.transfer 1 .cancelled [] [], .transfer 2 .cancelled [] [], .handled 0]

/-- One record, and the echo of the halt command. -/
def recordAndEcho : Wire :=
  ⟨[.sdram 0x02 [0xa0, 0x00, 0x00, 0x00, 0x05, 0xa1] recordFirst_length,
    .bus 0x8c 0x28 0x00 0x09], .nothing⟩

/-- The user stops the loop in the last packet of a transfer. -/
def stopInLastPacket : List Event :=
  .dispatch 0 (fun _ => 0) ::
    .transfer 0 .completed
      [0x32, 0x60, 0xd0, 0x02, 0xa0, 0x00, 0x00, 0x00, 0x05, 0xa1] [] ::
    othersCancelled ++
  .stop (fun _ => 0) ::
    .transfer 0 .completed [0x32, 0x60, 0x55, 0x8c, 0x28, 0x00, 0x09] [] ::
    othersCancelled

/-- No byte is skipped, and the echo is recognised. -/
theorem stays_in_step_stopInLastPacket :
    ∃ finish,
      run (step ⟨64, by decide⟩) (started (some breakAtFirst) ())
          stopInLastPacket = some finish ∧
        Recognised finish.loop.control := by
  have outcome :
      (run (step ⟨64, by decide⟩) (started (some breakAtFirst) ())
          stopInLastPacket).map (fun finish => finish.loop.fed) =
        some (transferPayload ⟨64, by decide⟩ stopInLastPacket) := by
    decide +kernel
  obtain ⟨finish, reached, fed⟩ := Option.map_eq_some_iff.mp outcome
  have carries : recordAndEcho.Carries [.record emptyRecord, .filler] :=
    ⟨[], rfl⟩
  have stream :
      transferPayload ⟨64, by decide⟩ stopInLastPacket <+:
        recordAndEcho.encode := by
    decide +kernel
  obtain ⟨intact, follows⟩ :=
    stays_in_step _ _ _ _ _ _ _ carries stream reached
  obtain ⟨-, -, recognised⟩ := follows (intact.mp fed)
  refine ⟨finish, reached, recognised (stopInLastPacket.take 5)
    (fun _ => 0) (stopInLastPacket.drop 6) rfl ?_⟩
  refine ⟨[.sdram 0x02 [0xa0, 0x00, 0x00, 0x00, 0x05, 0xa1] rfl], 0x8c, 0x28,
    0x09, [], rfl, by decide, by decide +kernel, by decide +kernel⟩

/-- A longer frame with one record, and the echo. -/
def longFrameAndEcho : Wire :=
  ⟨[.sdram 0x1f
      ([0xa0, 0x00, 0x00, 0x00, 0x05] ++ List.replicate 59 0xa1) rfl,
    .bus 0x8c 0x28 0x00 0x09], .nothing⟩

/-- The user stops the loop in the first packet of a transfer with two. -/
def stopInFirstPacket : List Event :=
  .dispatch 0 (fun _ => 0) ::
    .transfer 0 .completed
      ([0x32, 0x60, 0xd0, 0x1f, 0xa0, 0x00, 0x00, 0x00, 0x05] ++
        List.replicate 55 0xa1 ++ [0x32, 0x60] ++ List.replicate 4 0xa1) [] ::
    othersCancelled ++
  .stop (fun _ => 0) ::
    .transfer 0 .completed [0x32, 0x60, 0x55, 0x8c, 0x28, 0x00, 0x09] [] ::
    othersCancelled

/--
The second packet is skipped, and the drain takes the echo for payload: it
reports a wrong packet magic on a stream of the grammar.
-/
theorem drain_reports_wrong_magic :
    longFrameAndEcho.Carries
        (.record emptyRecord :: List.replicate 59 .filler) ∧
      transferPayload ⟨64, by decide⟩ stopInFirstPacket =
        longFrameAndEcho.encode ∧
      ∃ finish,
        run (step ⟨64, by decide⟩) (started (some breakAtFirst) ())
            stopInFirstPacket = some finish ∧
          finish.loop.fed ≠
            transferPayload ⟨64, by decide⟩ stopInFirstPacket ∧
          finish.loop.control.errorStr = some (.text "Wrong packet magic") ∧
          finish.phase = .stopped (-1) := by
  refine ⟨⟨[], by decide +kernel⟩, by decide +kernel, ?_⟩
  have outcome :
      (run (step ⟨64, by decide⟩) (started (some breakAtFirst) ())
          stopInFirstPacket).map (fun finish =>
            (decide (finish.loop.fed =
                transferPayload ⟨64, by decide⟩ stopInFirstPacket),
              finish.loop.control.errorStr, finish.phase)) =
        some (false, some (.text "Wrong packet magic"), .stopped (-1)) := by
    decide +kernel
  obtain ⟨finish, reached, outcome⟩ := Option.map_eq_some_iff.mp outcome
  simp only [Prod.mk.injEq, decide_eq_false_iff_not] at outcome
  exact ⟨finish, reached, outcome⟩

end OpenVizsla.Capture.Synchronisation
