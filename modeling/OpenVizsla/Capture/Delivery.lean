import OpenVizsla.Foundation.Stopping
import OpenVizsla.Decoder.Chunking
import OpenVizsla.Capture.Accounting

/-!
# What a run delivers

A run of the loop against one decoder call on one string: the payload of all
completed transfers, without the status bytes of the FTDI chip.  The callbacks
of that call are heard until the loop stops, and the user gets exactly the
packets among them.
-/

namespace OpenVizsla.Capture.Delivery

open OpenVizsla.Foundation.Integers
open OpenVizsla.Foundation.Runs
open OpenVizsla.Foundation.Stopping
open OpenVizsla.Foundation.Streaming
open OpenVizsla.Decoder.Packet
open OpenVizsla.Decoder.PacketProc
open OpenVizsla.Decoder.FrameProc
open OpenVizsla.Decoder.Invariant
open OpenVizsla.Decoder.ByteMachine
open OpenVizsla.Decoder.Callbacks
open OpenVizsla.Decoder.Chunking
open OpenVizsla.Capture.Loop
open OpenVizsla.Capture.Accounting

variable {υ : Type*}

/-! ## The client of the decoder -/

/-- The packets among some callbacks. -/
def packets (calls : List Callback) : List OvPacket :=
  calls.filterMap fun
    | .packet complete => some complete
    | .busFrame _ _ => none

/-- The callbacks that a loop hears until it stops. -/
def heardCalls (control : LoopControl υ) (calls : List Callback) :
    List Callback :=
  heard (Callback.apply decoderOps) (fun loop => loop.state = .running)
    control calls

theorem packets_append (first second : List Callback) :
    packets (first ++ second) = packets first ++ packets second :=
  List.filterMap_append

/-- The data that callbacks look at is the same. -/
structure SameClient (left right : LoopControl υ) : Prop where
  reg : left.reg = right.reg
  callback : left.callback = right.callback
  userData : left.userData = right.userData
  count : left.count = right.count
  maxCount : left.maxCount = right.maxCount
  state : left.state = right.state
  delivered : left.delivered = right.delivered

@[refl]
theorem SameClient.refl (loop : LoopControl υ) : SameClient loop loop :=
  ⟨rfl, rfl, rfl, rfl, rfl, rfl, rfl⟩

theorem SameClient.trans {first second third : LoopControl υ}
    (left : SameClient first second) (right : SameClient second third) :
    SameClient first third :=
  ⟨left.reg.trans right.reg, left.callback.trans right.callback,
    left.userData.trans right.userData, left.count.trans right.count,
    left.maxCount.trans right.maxCount, left.state.trans right.state,
    left.delivered.trans right.delivered⟩

section SameClient

variable {left right : LoopControl υ}

theorem SameClient.callUser (same : SameClient left right)
    (packet : OvPacket) :
    SameClient (callUser left packet) (callUser right packet) := by
  obtain ⟨reg, callback, userData, count, maxCount, state, delivered⟩ := same
  unfold Loop.callUser
  rw [callback, userData, delivered]
  split
  · exact ⟨reg, callback, userData, count, maxCount, state, delivered⟩
  · simp only
    split
    · exact ⟨reg, rfl, rfl, count, maxCount, rfl, rfl⟩
    · exact ⟨reg, rfl, rfl, count, maxCount, state, rfl⟩

theorem SameClient.countPacket (same : SameClient left right) :
    SameClient (countPacket left) (countPacket right) := by
  obtain ⟨reg, callback, userData, count, maxCount, state, delivered⟩ := same
  unfold Loop.countPacket
  rw [count, maxCount, state]
  split
  · exact ⟨reg, callback, userData, rfl, rfl, rfl, delivered⟩
  · exact ⟨reg, callback, userData, count, maxCount, state, delivered⟩

theorem SameClient.packetCallback (same : SameClient left right)
    (packet : OvPacket) :
    SameClient (chaLoopPacketCallback left packet)
      (chaLoopPacketCallback right packet) := by
  have counted := (same.callUser packet).countPacket
  unfold chaLoopPacketCallback
  rw [same.state]
  split
  · exact same
  · simp only
    split
    · exact ⟨counted.reg, counted.callback, counted.userData, counted.count,
        counted.maxCount, rfl, counted.delivered⟩
    · exact counted

theorem SameClient.busFrameCallback (same : SameClient left right)
    (addr : UInt16) (value : UInt8) :
    SameClient (chaLoopBusFrameCallback left addr value)
      (chaLoopBusFrameCallback right addr value) := by
  unfold chaLoopBusFrameCallback
  rw [same.reg]
  split
  · exact ⟨rfl, same.callback, same.userData, same.count, same.maxCount,
      rfl, same.delivered⟩
  · exact same

theorem SameClient.apply (same : SameClient left right) (call : Callback) :
    SameClient (call.apply decoderOps left) (call.apply decoderOps right) := by
  cases call with
  | packet complete => exact same.packetCallback complete
  | busFrame addr value => exact same.busFrameCallback addr value

theorem SameClient.replay (same : SameClient left right)
    (calls : List Callback) :
    SameClient (replay decoderOps left calls)
      (replay decoderOps right calls) := by
  induction calls generalizing left right with
  | nil => exact same
  | cons call rest ih => exact ih (same.apply call)

end SameClient

/-! ## Callbacks of a loop that stops -/

theorem stopped_apply (control : LoopControl υ) (call : Callback)
    (stopped : ¬ control.state = .running) :
    ¬ (call.apply decoderOps control).state = .running := by
  cases call with
  | packet complete =>
      exact (decoding_packetCallback control complete).stays stopped
  | busFrame addr value =>
      exact (decoding_busFrameCallback control addr value).stays stopped

theorem heardCalls_append (control : LoopControl υ)
    (first second : List Callback) :
    heardCalls control (first ++ second) =
      heardCalls control first ++
        heardCalls (replay decoderOps control first) second :=
  heard_append stopped_apply control first second

theorem heardCalls_of_stopped {control : LoopControl υ}
    (stopped : control.state ≠ .running) (calls : List Callback) :
    heardCalls control calls = [] := by
  apply heard_of_stopped
  exact stopped

/-- The call of a callback that is set. -/
theorem callUser_spec {loop : LoopControl υ} {user : UserCallback υ}
    (callback : loop.callback = some user) (packet : OvPacket) :
    (callUser loop packet).callback = some user ∧
      (callUser loop packet).userData = (user loop.userData packet).1 ∧
      (callUser loop packet).delivered = loop.delivered ++ [packet] := by
  unfold callUser
  rw [callback]
  simp only
  split <;> exact ⟨rfl, rfl, rfl⟩

theorem countPacket_spec (loop : LoopControl υ) :
    (countPacket loop).callback = loop.callback ∧
      (countPacket loop).delivered = loop.delivered := by
  unfold countPacket
  split <;> exact ⟨rfl, rfl⟩

/-- A running loop passes the packet on. -/
theorem packetCallback_spec {loop : LoopControl υ} {user : UserCallback υ}
    (callback : loop.callback = some user) (running : loop.state = .running)
    (packet : OvPacket) :
    (chaLoopPacketCallback loop packet).callback = some user ∧
      (chaLoopPacketCallback loop packet).delivered =
        loop.delivered ++ [packet] := by
  obtain ⟨calledCallback, -, calledDelivered⟩ :=
    callUser_spec callback packet
  obtain ⟨counted, countedDelivered⟩ :=
    countPacket_spec (callUser loop packet)
  have spec : (countPacket (callUser loop packet)).callback = some user ∧
      (countPacket (callUser loop packet)).delivered =
        loop.delivered ++ [packet] :=
    ⟨counted.trans calledCallback, countedDelivered.trans calledDelivered⟩
  unfold chaLoopPacketCallback
  simp only [running, ne_eq, not_true, if_false]
  split <;> exact spec

theorem busFrameCallback_spec (loop : LoopControl υ) (addr : UInt16)
    (value : UInt8) :
    (chaLoopBusFrameCallback loop addr value).callback = loop.callback ∧
      (chaLoopBusFrameCallback loop addr value).delivered =
        loop.delivered := by
  unfold chaLoopBusFrameCallback
  split <;> exact ⟨rfl, rfl⟩

/-- A stopped loop passes nothing on. -/
theorem apply_of_stopped {control : LoopControl υ}
    (stopped : control.state ≠ .running) (call : Callback) :
    (call.apply decoderOps control).callback = control.callback ∧
      (call.apply decoderOps control).delivered = control.delivered := by
  cases call with
  | packet complete =>
      have ignored : chaLoopPacketCallback control complete = control :=
        if_pos stopped
      change (chaLoopPacketCallback control complete).callback = _ ∧
        (chaLoopPacketCallback control complete).delivered = _
      rw [ignored]
      exact ⟨rfl, rfl⟩
  | busFrame addr value => exact busFrameCallback_spec control addr value

/-- Callbacks deliver the packets that are heard. -/
theorem replay_delivered {control : LoopControl υ} {user : UserCallback υ}
    (callback : control.callback = some user) (calls : List Callback) :
    (replay decoderOps control calls).callback = some user ∧
      (replay decoderOps control calls).delivered =
        control.delivered ++ packets (heardCalls control calls) := by
  induction calls generalizing control with
  | nil => exact ⟨callback, (List.append_nil _).symm⟩
  | cons call rest ih =>
      have cons : replay decoderOps control (call :: rest) =
          replay decoderOps (call.apply decoderOps control) rest := rfl
      rw [cons]
      by_cases running : control.state = .running
      · have heard : heardCalls control (call :: rest) =
            call :: heardCalls (call.apply decoderOps control) rest :=
          if_pos running
        rw [heard]
        cases call with
        | packet complete =>
            obtain ⟨still, delivered⟩ :=
              packetCallback_spec callback running complete
            obtain ⟨callback', delivered'⟩ := ih still
            refine ⟨callback', delivered'.trans ?_⟩
            rw [delivered, List.append_assoc]
            rfl
        | busFrame addr value =>
            obtain ⟨still, delivered⟩ :=
              busFrameCallback_spec control addr value
            obtain ⟨callback', delivered'⟩ := ih (still.trans callback)
            refine ⟨callback', delivered'.trans ?_⟩
            rw [delivered]
            rfl
      · have dead := stopped_apply control call running
        obtain ⟨still, delivered⟩ := apply_of_stopped running call
        obtain ⟨callback', delivered'⟩ := ih (still.trans callback)
        rw [heardCalls_of_stopped dead] at delivered'
        rw [heardCalls_of_stopped running]
        exact ⟨callback', delivered'.trans (by rw [delivered])⟩

/-! ## The data of transfers -/

/-- The data of a transfer without the status bytes of the FTDI chip. -/
def payload (ftdi : FtdiContext) (data : List UInt8) : List UInt8 :=
  if _more : data ≠ [] then
    (data.take ftdi.maxPacketSize).drop 2 ++
      payload ftdi (data.drop ftdi.maxPacketSize)
  else
    []
termination_by data.length
decreasing_by
  have nonempty := List.length_pos_of_ne_nil _more
  have positive := ftdi.maxPacketSize_pos
  simp only [List.length_drop]
  omega

/-- The payload that an event brings along. -/
def eventPayload (ftdi : FtdiContext) : Event → List UInt8
  | .transfer _ .completed data _ => payload ftdi data
  | _ => []

/-- The payload of all completed transfers. -/
def transferPayload (ftdi : FtdiContext) (events : List Event) :
    List UInt8 :=
  events.flatMap (eventPayload ftdi)

/-- The event is an error of a transfer or of the event handling. -/
def fails : Event → Bool
  | .transfer _ .completed _ results =>
      match resubmit results with
      | some code => code < 0
      | none => false
  | .transfer _ .cancelled _ _ => false
  | .transfer _ _ _ _ => true
  | .handled result =>
      result < 0 ∧ result ≠ libusbErrorInterrupted ∧
        result ≠ libusbErrorTimeout
  | .dispatch _ submits => ∃ index, submits index < 0
  | .stop submits => ∃ index, submits index < 0

/-- The payload of the completed transfers up to the first error. -/
def livePayload (ftdi : FtdiContext) : List Event → List UInt8
  | [] => []
  | event :: rest =>
      eventPayload ftdi event ++
        if fails event then [] else livePayload ftdi rest

theorem livePayload_isPrefix (ftdi : FtdiContext) (events : List Event) :
    livePayload ftdi events <+: transferPayload ftdi events := by
  induction events with
  | nil => exact List.prefix_refl []
  | cons event rest ih =>
      rw [livePayload, transferPayload, List.flatMap_cons,
        List.prefix_append_right_inj]
      split
      · exact List.nil_prefix
      · exact ih

/-! ## Decoding follows the string -/

/--
The loop has decoded `bytes` since it started from `fd` and `control`.  Once
it has stopped, further bytes would not have been heard.
-/
structure Follows (fd : FrameDecoder) (control : LoopControl υ)
    (bytes : List UInt8) (loop : ChaLoop υ) : Prop where
  running :
    loop.control.state = .running →
      (frameDecoderProc recorder fd [] bytes).consumed ≠ none ∧
        loop.fd = (frameDecoderProc recorder fd [] bytes).processor ∧
        SameClient loop.control
          (replay decoderOps control (callbacks fd bytes))
  delivered :
    loop.control.delivered =
      control.delivered ++ packets (heardCalls control (callbacks fd bytes))
  stopped :
    loop.control.state ≠ .running →
      ∀ more, heardCalls control (callbacks fd (bytes ++ more)) =
        heardCalls control (callbacks fd bytes)

section Follows

variable {fd : FrameDecoder} {control : LoopControl υ}
  {user : UserCallback υ} {bytes : List UInt8} {loop next : ChaLoop υ}

/-- Only the decoder and the client matter. -/
theorem Follows.congr (follows : Follows fd control bytes loop)
    (sameFd : next.fd = loop.fd)
    (same : SameClient next.control loop.control) :
    Follows fd control bytes next where
  running running := by
    obtain ⟨succeeded, processor, client⟩ :=
      follows.running (same.state ▸ running)
    exact ⟨succeeded, sameFd.trans processor, same.trans client⟩
  delivered := same.delivered.trans follows.delivered
  stopped stopped := follows.stopped (same.state ▸ stopped)

/-- A stopped loop follows every continuation. -/
theorem Follows.extend (follows : Follows fd control bytes loop)
    (stopped : loop.control.state ≠ .running) (more : List UInt8) :
    Follows fd control (bytes ++ more) loop where
  running running := absurd running stopped
  delivered := by rw [follows.stopped stopped, follows.delivered]
  stopped _ later := by
    rw [List.append_assoc, follows.stopped stopped,
      follows.stopped stopped]

theorem follows_start (fd : FrameDecoder) (control : LoopControl υ)
    (fed : List UInt8) (running : control.state = .running) :
    Follows fd control [] ⟨fd, control, fed⟩ := by
  have idle : frameDecoderProc recorder fd [] [] = .idle fd [] := by
    rw [frameDecoderProc]
  have silent : callbacks fd [] = [] := by rw [callbacks, idle]; rfl
  refine ⟨fun _ => ?_, ?_, fun stopped => absurd running stopped⟩
  · rw [silent, idle]
    exact ⟨by simp [Outcome.idle], rfl, SameClient.refl control⟩
  · rw [silent]
    exact (List.append_nil _).symm

/-- A successful call returns a length, which is not negative. -/
theorem frameDecoderReturn_nonneg {outcome : Outcome FrameDecoder σ Copy}
    {count : Nat} (consumed : outcome.consumed = some count)
    (small : count < 2 ^ 31) : ¬ frameDecoderReturn outcome < 0 := by
  rw [frameDecoderReturn, consumed]
  simp only [toInt_of_lt small]
  omega

/-- A running loop follows one packet of the FTDI chip. -/
theorem follows_decodePacket (follows : Follows fd control bytes loop)
    (splitting : Splitting fd) (callback : control.callback = some user)
    (running : loop.control.state = .running) {packet : List UInt8}
    (small : packet.length ≤ bufferSize) :
    Follows fd control (bytes ++ packet.drop 2)
      (decodePacket loop packet) := by
  by_cases data : packet.length > 2
  · obtain ⟨succeeded, processor, client⟩ := follows.running running
    have splitting' : Splitting loop.fd :=
      processor ▸ splitting_frameDecoderProc recorder fd [] bytes splitting
    have calls := callbacks_append splitting bytes (packet.drop 2) succeeded
    have whole := consumed_append splitting bytes (packet.drop 2) succeeded
    rw [← processor] at calls whole
    have user' := frameDecoderProc_replay decoderOps loop.control
      (packet.drop 2) splitting'
    have verdict := frameDecoderProc_client decoderOps loop.control
      (packet.drop 2) splitting'
    -- what the callbacks of this packet leave in the client
    have replayed : SameClient
        (frameDecoderProc decoderOps loop.fd loop.control
          (packet.drop 2)).user
        (replay decoderOps control
          (callbacks fd (bytes ++ packet.drop 2))) := by
      rw [user', calls, replay_append]
      exact client.replay _
    have delivered := replayed.delivered.trans
      (replay_delivered callback (callbacks fd (bytes ++ packet.drop 2))).2
    cases consumed : (frameDecoderProc decoderOps loop.fd loop.control
        (packet.drop 2)).consumed with
    | none =>
        have failed : frameDecoderReturn (frameDecoderProc decoderOps loop.fd
            loop.control (packet.drop 2)) < 0 := by
          rw [frameDecoderReturn, consumed]
          decide
        have ends := whole.1.mpr (verdict.1 ▸ consumed)
        refine ⟨fun running => ?_, ?_, fun _ more => ?_⟩
        · simp [decodePacket, data, failed] at running
        · simpa only [decodePacket, if_pos data, if_pos failed]
            using delivered
        · rw [callbacks_append_of_failed splitting _ more ends]
    | some count =>
        have length : count ≤ bufferSize := by
          have whole := frameDecoderProc_consumed decoderOps loop.control
            (packet.drop 2) splitting' consumed
          rw [List.length_drop] at whole
          omega
        have fine := frameDecoderReturn_nonneg consumed
          (lt_of_le_of_lt length (by decide))
        have done : (frameDecoderProc recorder fd []
            (bytes ++ packet.drop 2)).consumed ≠ none := by
          rw [Ne, whole.1, ← verdict.1, consumed]
          simp
        have shape : decodePacket loop packet =
            ⟨(frameDecoderProc decoderOps loop.fd loop.control
                (packet.drop 2)).processor,
              (frameDecoderProc decoderOps loop.fd loop.control
                (packet.drop 2)).user, loop.fed ++ packet.drop 2⟩ := by
          simp only [decodePacket, if_pos data, if_neg fine]
        rw [shape]
        refine ⟨fun _ => ⟨done, ?_, replayed⟩, delivered,
          fun stopped more => ?_⟩
        · exact (verdict.2.2 (by simp [consumed])).trans (whole.2 done).symm
        · have dead : (replay decoderOps control
              (callbacks fd (bytes ++ packet.drop 2))).state ≠ .running := by
            rw [← replayed.state]
            exact stopped
          rw [callbacks_append splitting _ more done, heardCalls_append,
            heardCalls_of_stopped dead, List.append_nil]
  · have shape : decodePacket loop packet = loop := if_neg data
    have nothing : packet.drop 2 = [] :=
      List.drop_of_length_le (by omega)
    rw [shape, nothing, List.append_nil]
    exact follows

/-- The loop over the data of a transfer. -/
theorem follows_decodeTransfer (ftdi : FtdiContext)
    (follows : Follows fd control bytes loop)
    (splitting : Splitting fd) (callback : control.callback = some user)
    {data : List UInt8} (small : data.length ≤ bufferSize) :
    Follows fd control (bytes ++ payload ftdi data)
      (decodeTransfer ftdi loop data) := by
  fun_induction decodeTransfer ftdi loop data generalizing bytes with
  | case1 loop data more ih =>
      have first : (data.take ftdi.maxPacketSize).length ≤ bufferSize := by
        rw [List.length_take]
        omega
      have rest : (data.drop ftdi.maxPacketSize).length ≤ bufferSize := by
        rw [List.length_drop]
        omega
      rw [payload, dif_pos more.2, ← List.append_assoc]
      exact ih
        (follows_decodePacket follows splitting callback more.1 first) rest
  | case2 loop data done =>
      by_cases running : loop.control.state = .running
      · have nothing : data = [] := by
          by_contra nonempty
          exact done ⟨running, nonempty⟩
        rw [nothing, payload, dif_neg (by simp), List.append_nil]
        exact follows
      · exact follows.extend running _

end Follows

/-! ## Events -/

theorem sameClient_cancel (loop : LoopControl υ) :
    SameClient (chaLoopCancelTransfer loop) loop :=
  ⟨rfl, rfl, rfl, rfl, rfl, rfl, rfl⟩

theorem sameClient_retire (loop : LoopControl υ) :
    SameClient (retire loop) loop :=
  ⟨rfl, rfl, rfl, rfl, rfl, rfl, rfl⟩

theorem sameClient_submitted (loop : LoopControl υ) (index : Fin 3) :
    SameClient (submitted loop index) loop :=
  ⟨rfl, rfl, rfl, rfl, rfl, rfl, rfl⟩

theorem sameClient_ended (loop : LoopControl υ) (index : Fin 3) :
    SameClient (ended loop index) loop :=
  ⟨rfl, rfl, rfl, rfl, rfl, rfl, rfl⟩

/-- The packets of a prefix of the string, and no more to come. -/
structure Stopped (fd : FrameDecoder) (control : LoopControl υ)
    (bytes : List UInt8) (loop : ChaLoop υ) : Prop where
  state : loop.control.state ≠ .running
  delivered :
    loop.control.delivered =
      control.delivered ++ packets (heardCalls control (callbacks fd bytes))

section Events

variable {fd : FrameDecoder} {control : LoopControl υ}
  {user : UserCallback υ} {bytes : List UInt8}

theorem follows_transferCallback {ftdi : FtdiContext}
    {loop next : ChaLoop υ} {index : Fin 3} {status : TransferStatus}
    {data : List UInt8} {results : List Int}
    (follows : Follows fd control bytes loop) (splitting : Splitting fd)
    (callback : control.callback = some user)
    (small : data.length ≤ bufferSize)
    (called :
      chaLoopTransferCallback ftdi loop index status data results =
        some next) :
    if fails (.transfer index status data results) then
      Stopped fd control
        (bytes ++ eventPayload ftdi (.transfer index status data results))
        next
    else
      Follows fd control
        (bytes ++ eventPayload ftdi (.transfer index status data results))
        next := by
  cases status with
  | completed =>
      have decoded :=
        follows_decodeTransfer ftdi follows splitting callback small
      simp only [chaLoopTransferCallback] at called
      split at called
      · obtain ⟨result, found, rfl⟩ := Option.map_eq_some_iff.mp called
        simp only [fails, found, eventPayload, decide_eq_true_eq]
        split
        · exact ⟨by simp [fail, chaLoopCancelTransfer], decoded.delivered⟩
        · exact decoded.congr rfl (sameClient_submitted _ index)
      · rename_i stopped
        cases called
        have follows' : Follows fd control
            (bytes ++ eventPayload ftdi
              (.transfer index .completed data results))
            { decodeTransfer ftdi loop data with
              control := retire (chaLoopCancelTransfer
                (decodeTransfer ftdi loop data).control) } :=
          decoded.congr rfl
            ((sameClient_retire _).trans (sameClient_cancel _))
        split
        · exact ⟨stopped, follows'.delivered⟩
        · exact follows'
  | cancelled =>
      cases called
      simp only [fails, eventPayload, List.append_nil]
      exact follows.congr rfl (sameClient_retire _)
  | error | timedOut | stall | noDevice | overflow =>
      cases called
      simp only [fails, eventPayload, List.append_nil, if_true]
      exact ⟨by simp [fail], follows.delivered⟩

theorem follows_step {ftdi : FtdiContext} {capture next : CaptureState υ}
    {event : Event} (follows : Follows fd control bytes capture.loop)
    (splitting : Splitting fd) (callback : control.callback = some user)
    (inRun : event.InRun)
    (stepped : step ftdi capture event = some next) :
    if fails event then
      Stopped fd control (bytes ++ eventPayload ftdi event) next.loop
    else
      Follows fd control (bytes ++ eventPayload ftdi event) next.loop := by
  unfold step at stepped
  cases event with
  | dispatch count submits => exact inRun.elim
  | stop submits => exact inRun.elim
  | transfer index status data results =>
      simp only at stepped
      split at stepped
      · split at stepped
        · rename_i promised
          obtain ⟨loop, called, rfl⟩ := Option.map_eq_some_iff.mp stepped
          refine follows_transferCallback ?_ splitting callback promised.2.2
            called
          exact follows.congr rfl (sameClient_ended _ index)
        · cases stepped
      · cases stepped
  | handled result =>
      have failed (failure : fails (.handled result) = true) :
          handleEvents capture.loop.control result =
            fail capture.loop.control result := by
        simp only [fails, decide_eq_true_eq] at failure
        exact if_pos failure
      have passed (failure : ¬ fails (.handled result) = true) :
          handleEvents capture.loop.control result =
            capture.loop.control := by
        simp only [fails, decide_eq_true_eq] at failure
        exact if_neg failure
      simp only at stepped
      simp only [eventPayload, List.append_nil]
      split at stepped
      · split
        · rename_i failure
          rw [failed failure] at stepped
          split at stepped <;> cases stepped <;>
            exact ⟨by simp [CaptureState.setControl, fail],
              follows.delivered⟩
        · rename_i failure
          rw [passed failure] at stepped
          split at stepped <;> cases stepped <;> exact follows
      · cases stepped

/-- A stopped loop leaves the data of its transfers alone. -/
theorem decodeTransfer_of_stopped (ftdi : FtdiContext) {loop : ChaLoop υ}
    (stopped : loop.control.state ≠ .running) (data : List UInt8) :
    decodeTransfer ftdi loop data = loop := by
  rw [decodeTransfer, dif_neg fun more => stopped more.1]

theorem delivered_handleEvents (loop : LoopControl υ) (result : Int) :
    (handleEvents loop result).delivered = loop.delivered := by
  unfold handleEvents
  split <;> rfl

/-- It only gives the transfer back. -/
theorem transferCallback_completed_of_stopped {ftdi : FtdiContext}
    {loop next : ChaLoop υ} {index : Fin 3} {data : List UInt8}
    {results : List Int} (stopped : loop.control.state ≠ .running)
    (called :
      chaLoopTransferCallback ftdi loop index .completed data results =
        some next) :
    next =
      { loop with
        control := retire (chaLoopCancelTransfer loop.control) } := by
  simp only [chaLoopTransferCallback,
    decodeTransfer_of_stopped ftdi stopped, if_neg stopped] at called
  exact (Option.some.inj called).symm

theorem delivered_transferCallback_of_stopped {ftdi : FtdiContext}
    {loop next : ChaLoop υ} {index : Fin 3} {status : TransferStatus}
    {data : List UInt8} {results : List Int}
    (stopped : loop.control.state ≠ .running)
    (called :
      chaLoopTransferCallback ftdi loop index status data results =
        some next) :
    next.control.delivered = loop.control.delivered := by
  cases status with
  | completed =>
      rw [transferCallback_completed_of_stopped stopped called]
      rfl
  | cancelled | error | timedOut | stall | noDevice | overflow =>
      cases called
      rfl

/-- A stopped loop delivers nothing until the run is over. -/
theorem delivered_step_of_stopped {ftdi : FtdiContext}
    {capture next : CaptureState υ} (event : Event) (inRun : event.InRun)
    (stopped : capture.loop.control.state ≠ .running)
    (stepped : step ftdi capture event = some next) :
    next.loop.control.delivered = capture.loop.control.delivered := by
  unfold step at stepped
  cases event with
  | dispatch count submits => exact inRun.elim
  | stop submits => exact inRun.elim
  | transfer index status data results =>
      simp only at stepped
      split at stepped
      · split at stepped
        · obtain ⟨loop, called, rfl⟩ := Option.map_eq_some_iff.mp stepped
          refine Eq.trans
            (delivered_transferCallback_of_stopped ?_ called) rfl
          exact stopped
        · cases stepped
      · cases stepped
  | handled result =>
      have kept := delivered_handleEvents capture.loop.control result
      simp only at stepped
      split at stepped
      · split at stepped <;> cases stepped <;> exact kept
      · cases stepped

end Events

/-! ## Runs -/

theorem sameClient_submitTransfers {submits : Fin 3 → Int}
    (indices : List (Fin 3)) (loop : LoopControl υ)
    (accepted : ∀ index ∈ indices, ¬ submits index < 0) :
    SameClient (submitTransfers submits indices loop) loop := by
  induction indices generalizing loop with
  | nil => rfl
  | cons index rest ih =>
      obtain ⟨first, others⟩ := List.forall_mem_cons.mp accepted
      rw [submitTransfers, if_neg first]
      refine (ih _ others).trans ((sameClient_submitted _ index).trans ?_)
      exact ⟨rfl, rfl, rfl, rfl, rfl, rfl, rfl⟩

/-- One failure is enough. -/
theorem submitTransfers_of_failure {submits : Fin 3 → Int}
    (indices : List (Fin 3)) (loop : LoopControl υ)
    (failure : ∃ index ∈ indices, submits index < 0) :
    (submitTransfers submits indices loop).state = .fatalError ∧
      (submitTransfers submits indices loop).delivered = loop.delivered := by
  induction indices generalizing loop with
  | nil => simp at failure
  | cons index rest ih =>
      rw [submitTransfers]
      split
      · exact ⟨rfl, rfl⟩
      · rename_i accepted
        obtain ⟨other, member, failed⟩ := failure
        rcases List.mem_cons.mp member with same | later
        · exact absurd (same ▸ failed) accepted
        · exact ih _ ⟨other, later, failed⟩

/-- The control data of a loop that has been entered. -/
def entered (loop : LoopControl υ) (count : Int) : LoopControl υ :=
  { loop with count := 0, maxCount := count }

theorem follows_chaLoopRun {start : CaptureState υ}
    (running : start.loop.control.state = .running) (stopping : Bool)
    (count : Int) (submits : Fin 3 → Int) :
    if fails (.dispatch count submits) then
      Stopped start.loop.fd (entered start.loop.control count) []
        (chaLoopRun start stopping count submits).loop
    else
      Follows start.loop.fd (entered start.loop.control count) []
        (chaLoopRun start stopping count submits).loop := by
  have initial := follows_start start.loop.fd
    (entered start.loop.control count) start.loop.fed running
  have alive : start.loop.control.state ≠ .fatalError := by
    rw [running]
    decide
  rw [chaLoopRun_of_alive alive]
  simp only [fails, decide_eq_true_eq]
  split
  · rename_i failure
    obtain ⟨index, failed⟩ := failure
    obtain ⟨fatal, delivered⟩ := submitTransfers_of_failure [0, 1, 2]
      (cleared start.loop.control count)
      ⟨index, by fin_cases index <;> simp, failed⟩
    rw [if_pos (by simp [fatal])]
    refine ⟨?_, delivered.trans initial.delivered⟩
    simp [CaptureState.setControl, chaLoopCancelTransfer, fatal]
  · rename_i accepted
    have same := sameClient_submitTransfers [0, 1, 2]
      (cleared start.loop.control count)
      (fun index _ failed => accepted ⟨index, failed⟩)
    rw [if_neg (by rw [same.state, cleared_state, running]; decide)]
    refine initial.congr rfl (same.trans ?_)
    exact ⟨rfl, rfl, rfl, rfl, rfl, rfl, rfl⟩

/-- Once a loop has stopped, no event of the run delivers anything. -/
theorem delivered_run_of_stopped {ftdi : FtdiContext}
    {start finish : CaptureState υ} {events : List Event}
    (stopped : start.loop.control.state ≠ .running)
    (inRun : ∀ event ∈ events, event.InRun)
    (reached : run (step ftdi) start events = some finish) :
    finish.loop.control.delivered = start.loop.control.delivered := by
  induction events generalizing start with
  | nil =>
      cases reached
      rfl
  | cons event rest ih =>
      obtain ⟨next, head, tail⟩ := run_cons_eq_some_iff.mp reached
      obtain ⟨first, others⟩ := List.forall_mem_cons.mp inRun
      exact (ih (stopped_step first stopped head) others tail).trans
        (delivered_step_of_stopped event first stopped head)

/-- The events of a run deliver the packets that are heard. -/
theorem delivered_run {ftdi : FtdiContext} {fd : FrameDecoder}
    {control : LoopControl υ} {user : UserCallback υ} {bytes : List UInt8}
    {start finish : CaptureState υ} {events : List Event}
    (follows : Follows fd control bytes start.loop)
    (splitting : Splitting fd) (callback : control.callback = some user)
    (inRun : ∀ event ∈ events, event.InRun)
    (reached : run (step ftdi) start events = some finish) :
    finish.loop.control.delivered =
      control.delivered ++
        packets (heardCalls control
          (callbacks fd (bytes ++ livePayload ftdi events))) := by
  induction events generalizing start bytes with
  | nil =>
      cases reached
      rw [livePayload, List.append_nil]
      exact follows.delivered
  | cons event rest ih =>
      obtain ⟨next, head, tail⟩ := run_cons_eq_some_iff.mp reached
      obtain ⟨first, others⟩ := List.forall_mem_cons.mp inRun
      have after := follows_step follows splitting callback first head
      rw [livePayload]
      split at after
      · rename_i failure
        rw [if_pos failure, List.append_nil]
        exact (delivered_run_of_stopped after.state others tail).trans
          after.delivered
      · rename_i success
        rw [if_neg success, ← List.append_assoc]
        exact ih after others tail

theorem packets_isPrefix {first second : List Callback}
    (before : first <+: second) : packets first <+: packets second := by
  obtain ⟨rest, rfl⟩ := before
  rw [packets_append]
  exact List.prefix_append _ _

/--
The callbacks that one decoder call on the payload of a run makes until the
loop stops, the one that stops it included, or until the first error.
-/
def heardInRun (ftdi : FtdiContext) (start : CaptureState υ) (count : Int)
    (submits : Fin 3 → Int) (events : List Event) : List Callback :=
  heardCalls (entered start.loop.control count)
    (callbacks start.loop.fd
      (livePayload ftdi (.dispatch count submits :: events)))

theorem heardInRun_isPrefix (ftdi : FtdiContext) {start : CaptureState υ}
    (splitting : Splitting start.loop.fd) (count : Int)
    (submits : Fin 3 → Int) (events : List Event) :
    heardInRun ftdi start count submits events <+:
      callbacks start.loop.fd (transferPayload ftdi events) := by
  have live : livePayload ftdi (.dispatch count submits :: events) <+:
      transferPayload ftdi events :=
    livePayload_isPrefix ftdi (.dispatch count submits :: events)
  obtain ⟨rest, whole⟩ := live
  rw [← whole]
  exact (heard_isPrefix _ _).trans (callbacks_isPrefix splitting _ _)

theorem step_dispatch {ftdi : FtdiContext} {start next : CaptureState υ}
    {count : Int} {submits : Fin 3 → Int}
    (stepped : step ftdi start (.dispatch count submits) = some next) :
    (∃ returned, start.phase = .idle returned) ∧
      next = chaLoopRun start false count submits := by
  simp only [step] at stepped
  split at stepped
  · rename_i returned idle
    cases stepped
    exact ⟨⟨returned, idle⟩, rfl⟩
  · cases stepped

/-- A run delivers the packets that are heard. -/
theorem delivered_dispatch {ftdi : FtdiContext} {start finish : CaptureState υ}
    {user : UserCallback υ} {count : Int} {submits : Fin 3 → Int}
    {events : List Event} (splitting : Splitting start.loop.fd)
    (running : start.loop.control.state = .running)
    (callback : start.loop.control.callback = some user)
    (inRun : ∀ event ∈ events, event.InRun)
    (reached :
      run (step ftdi) start (.dispatch count submits :: events) =
        some finish) :
    finish.loop.control.delivered =
      start.loop.control.delivered ++
        packets (heardInRun ftdi start count submits events) := by
  obtain ⟨entry, head, tail⟩ := run_cons_eq_some_iff.mp reached
  obtain ⟨-, rfl⟩ := step_dispatch head
  have initial := follows_chaLoopRun running false count submits
  split at initial
  · rename_i failure
    rw [heardInRun, livePayload, if_pos failure]
    exact (delivered_run_of_stopped initial.state inRun tail).trans
      initial.delivered
  · rename_i success
    rw [heardInRun, livePayload, if_neg success]
    exact delivered_run initial splitting callback inRun tail

/--
A run delivers the first packets of its stream: those that are heard until
the loop stops or there is an error.  Once the loop has stopped there are no
others.
-/
theorem run_delivers (ftdi : FtdiContext) {start finish : CaptureState υ}
    {user : UserCallback υ} {count : Int} {submits : Fin 3 → Int}
    {events : List Event} (reachable : Reachable start.loop.fd)
    (running : start.loop.control.state = .running)
    (callback : start.loop.control.callback = some user)
    (inRun : ∀ event ∈ events, event.InRun)
    (reached :
      run (step ftdi) start (.dispatch count submits :: events) =
        some finish) :
    heardInRun ftdi start count submits events <+:
        callbacks start.loop.fd (transferPayload ftdi events) ∧
      finish.loop.control.delivered =
        start.loop.control.delivered ++
          (packets (callbacks start.loop.fd
            (transferPayload ftdi events))).take
              (packets
                (heardInRun ftdi start count submits events)).length ∧
      ∀ first second middle,
        events = first ++ second →
          run (step ftdi) start (.dispatch count submits :: first) =
              some middle →
            middle.loop.control.state ≠ .running →
              finish.loop.control.delivered =
                middle.loop.control.delivered := by
  have splitting := splitting_of_reachable reachable
  have early := heardInRun_isPrefix ftdi splitting count submits events
  refine ⟨early, ?_, fun first second middle split before stopped => ?_⟩
  · rw [← List.prefix_iff_eq_take.mp (packets_isPrefix early)]
    exact delivered_dispatch splitting running callback inRun reached
  · have whole : Event.dispatch count submits :: events =
        (.dispatch count submits :: first) ++ second := by
      rw [split, List.cons_append]
    obtain ⟨middle', before', after⟩ :=
      run_append_eq_some_iff.mp (whole ▸ reached)
    rw [before] at before'
    cases before'
    refine delivered_run_of_stopped stopped (fun event member => ?_) after
    exact inRun event (split ▸ List.mem_append_right first member)

/-- A user that stops the capture at the first packet. -/
def breakAtFirst : UserCallback Unit := fun _ _ => ((), true)

/-- One transfer with two packets; the other transfers are cancelled. -/
def twoPackets : List Event :=
  [.transfer 0 .completed
      [0x32, 0x60, 0xd0, 0x05, 0xa0, 0, 0, 0, 5, 0xa1, 0xa0, 0, 0, 0, 7, 0xa1]
      [],
    .transfer 1 .cancelled [] [], .transfer 2 .cancelled [] [], .handled 0]

/-- The user gets the first of the two packets. -/
theorem run_delivers_twoPackets :
    ∃ finish,
      run (step ⟨512, by decide⟩) (started (some breakAtFirst) ())
          (.dispatch 0 (fun _ => 0) :: twoPackets) = some finish ∧
        finish.loop.control.delivered.length = 1 ∧
        finish.loop.control.delivered =
          (packets (callbacks (zeroed 1024)
            (transferPayload ⟨512, by decide⟩ twoPackets))).take
              (packets (heardInRun ⟨512, by decide⟩
                (started (some breakAtFirst) ()) 0 (fun _ => 0)
                  twoPackets)).length := by
  have delivered :
      (run (step ⟨512, by decide⟩) (started (some breakAtFirst) ())
          (.dispatch 0 (fun _ => 0) :: twoPackets)).map
        (fun finish => finish.loop.control.delivered.length) = some 1 := by
    decide +kernel
  obtain ⟨finish, reached, one⟩ := Option.map_eq_some_iff.mp delivered
  refine ⟨finish, reached, one, ?_⟩
  exact (run_delivers _ (.init _ _ 1024) rfl rfl
    (by simp [twoPackets, Event.InRun]) reached).2.1

end OpenVizsla.Capture.Delivery
