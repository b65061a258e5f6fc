import OpenVizsla.Register.Message
import OpenVizsla.Decoder.WireCut
import OpenVizsla.Capture.FirstCause

/-!
# The echo of the halt command

`cha_halt_stream` casts a register write that switches `SDRAM_HOST_READ_GO`
off, and `cha_loop_bus_frame_callback` waits for its echo.  The device sends
captured data on the same stream, so the data could hold a copy of the
message.  As long as the decoder is in step with the frames, the loop takes
nothing for the echo but a bus frame.  Behind a transfer that is not decoded to
its end, it may find an echo in the data.
-/

namespace OpenVizsla.Capture.HaltEcho

open OpenVizsla.Foundation.Runs
open OpenVizsla.Register.Map
open OpenVizsla.Register.Message
open OpenVizsla.Decoder.Packet
open OpenVizsla.Decoder.FrameProc
open OpenVizsla.Decoder.Invariant
open OpenVizsla.Decoder.Callbacks
open OpenVizsla.Decoder.Chunking
open OpenVizsla.Decoder.WireGrammar
open OpenVizsla.Decoder.WireDecoding
open OpenVizsla.Decoder.WireCut
open OpenVizsla.Capture.Loop
open OpenVizsla.Capture.Delivery
open OpenVizsla.Capture.Resumption
open OpenVizsla.Capture.Synchronisation
open OpenVizsla.Capture.FirstCause

variable {υ : Type*}

/-! ## Messages and frames -/

/-- The message of `cha_halt_stream`. -/
def haltMessage (reg : Reg) : List UInt8 :=
  castMessage (reg.addr .sdramHostReadGo) 0

/--
Two messages set the same register to the same value.  The write bit and the
checksum do not count.
-/
def SameAccess : List UInt8 → List UInt8 → Prop
  | [_, addrHi, addrLo, value, _], [_, addrHi', addrLo', value', _] =>
      addrHi &&& 0x7f = addrHi' &&& 0x7f ∧ addrLo = addrLo' ∧ value = value'
  | _, _ => False

theorem SameAccess.length_eq {msg other : List UInt8}
    (same : SameAccess msg other) : msg.length = other.length := by
  unfold SameAccess at same
  split at same
  · rfl
  · exact same.elim

theorem haltMessage_length (reg : Reg) : (haltMessage reg).length = 5 :=
  rfl

/-- The frame is an echo of the halt command. -/
def IsEcho (reg : Reg) (frame : Frame) : Prop :=
  SameAccess frame.encode (haltMessage reg)

/-- The frame ends behind `before` bytes, but within the first `received`. -/
def FrameEnds (wire : Wire) (frame : Frame) (before received : Nat) : Prop :=
  ∃ first second,
    wire.frames = first ++ frame :: second ∧
      before < ((first ++ [frame]).flatMap Frame.encode).length ∧
      ((first ++ [frame]).flatMap Frame.encode).length ≤ received

theorem toNat_busAddr_masked (addrHi addrLo : UInt8) :
    (busAddr addrHi addrLo &&& 0x7fff).toNat =
      addrHi.toNat % 128 * 256 + addrLo.toNat := by
  have high := addrHi.toNat_lt
  have low := addrLo.toNat_lt
  have masked : (busAddr addrHi addrLo &&& 0x7fff).toNat =
      (busAddr addrHi addrLo).toNat % 2 ^ 15 := by
    rw [UInt16.toNat_and]
    exact Nat.and_two_pow_sub_one_eq_mod _ 15
  have whole : (busAddr addrHi addrLo).toNat =
      addrHi.toNat * 256 + addrLo.toNat := by
    rw [busAddr, UInt16.toNat_ofNat']
    omega
  rw [masked, whole]
  omega

/-- Without the write bit, the address is the one in the message. -/
theorem busAddr_eq_iff {addr : UInt16} (fits : addr < 0x8000)
    (addrHi addrLo : UInt8) :
    busAddr addrHi addrLo &&& 0x7fff = addr ↔
      addrHi &&& 0x7f = (0x80 ||| highByte addr) &&& 0x7f ∧
        addrLo = lowByte addr := by
  have unset (byte : UInt8) : (0x80 ||| byte) &&& 0x7f = byte &&& 0x7f := by
    revert byte
    decide +kernel
  have seven (byte : UInt8) : (byte &&& 0x7f).toNat = byte.toNat % 128 := by
    rw [UInt8.toNat_and]
    exact Nat.and_two_pow_sub_one_eq_mod _ 7
  have below : addr.toNat < 32768 := UInt16.lt_iff_toNat_lt.mp fits
  have low := addrLo.toNat_lt
  rw [unset, ← UInt16.toNat_inj, toNat_busAddr_masked, ← UInt8.toNat_inj,
    ← UInt8.toNat_inj, seven, seven, toNat_highByte, toNat_lowByte]
  omega

/-- An echo reports the register that the callback looks for. -/
theorem isEcho_iff {reg : Reg} (fits : reg.addr .sdramHostReadGo < 0x8000)
    (frame : Frame) :
    IsEcho reg frame ↔
      ∃ addr, addr &&& 0x7fff = reg.addr .sdramHostReadGo ∧
        access frame = some (addr, 0) := by
  cases frame with
  | bus addrHi addrLo value checksum =>
      have accessed := busAddr_eq_iff fits addrHi addrLo
      simp only [IsEcho, Frame.encode, haltMessage, castMessage, checked,
        SameAccess, access, Option.some.injEq, Prod.mk.injEq]
      constructor
      · rintro ⟨high, low, rfl⟩
        exact ⟨_, accessed.mpr ⟨high, low⟩, rfl, rfl⟩
      · rintro ⟨addr, matching, rfl, rfl⟩
        obtain ⟨high, low⟩ := accessed.mp matching
        exact ⟨high, low, rfl⟩
  | sdram n payload length =>
      have even : SameAccess (0xd0 :: n :: payload) (haltMessage reg) →
          False := by
        intro same
        have five := same.length_eq
        simp only [haltMessage_length, List.length_cons] at five
        omega
      simp only [IsEcho, Frame.encode, access, reduceCtorEq, and_false,
        exists_false, iff_false]
      exact even

/-! ## Frames that end in a piece of the stream -/

section Stream

variable {wire : Wire} {items : List Item} (memory : FrameDecoder)
  (packet : OvPacket) (size : Nat)

/-- The frames that end in the piece are those that only the rest completes. -/
theorem frameEnds_iff {short long : Wire} {before piece : List UInt8}
    {frames : List Frame} (shortOf : CutOf wire short before)
    (longOf : CutOf wire long (before ++ piece))
    (stream : before ++ piece <+: wire.encode)
    (later : long.frames = short.frames ++ frames) (frame : Frame) :
    FrameEnds wire frame before.length (before ++ piece).length ↔
      frame ∈ frames := by
  have beginning : before <+: wire.encode :=
    (List.prefix_append before piece).trans stream
  constructor
  · rintro ⟨first, second, split, behind, within⟩
    have upTo : first ++ [frame] <+: wire.frames :=
      ⟨second, by rw [split, List.append_assoc, List.singleton_append]⟩
    have inLong := (longOf.complete_iff stream upTo).mpr within
    have notInShort : ¬ first ++ [frame] <+: short.frames := by
      rw [shortOf.complete_iff beginning upTo]
      omega
    rw [later] at inLong
    rcases List.prefix_or_prefix_of_prefix inLong
        (List.prefix_append short.frames frames) with complete | before'
    · exact absurd complete notInShort
    · rcases List.prefix_concat_iff.mp before' with same | inside
      · exact absurd (same ▸ List.prefix_refl _) notInShort
      · exact mem_of_prefix inside inLong
  · intro member
    obtain ⟨first, second, rfl⟩ := List.append_of_mem member
    obtain ⟨rest, split⟩ := longOf.frames
    rw [later] at split
    have upTo : short.frames ++ first ++ [frame] <+: wire.frames :=
      ⟨second ++ rest, by simp [← split]⟩
    refine ⟨short.frames ++ first, second ++ rest, by simp [← split], ?_, ?_⟩
    · by_contra early
      have inShort := (shortOf.complete_iff beginning upTo).mpr (by omega)
      have longer := inShort.length_le
      simp only [List.length_append, List.length_singleton] at longer
      omega
    · refine (longOf.complete_iff stream upTo).mp ?_
      rw [later]
      exact ⟨second, by simp⟩

/-- The decoder reports the accesses of the frames that end in the piece. -/
theorem mem_accesses_piece (carries : wire.Carries items)
    {before piece : List UInt8} (stream : before ++ piece <+: wire.encode)
    (accessed : UInt16 × UInt8) :
    accessed ∈
        accesses (callbacks
          (afterBytes (frameDecoderInit memory packet size) before) piece) ↔
      ∃ frame, access frame = some accessed ∧
        FrameEnds wire frame before.length (before ++ piece).length := by
  have splitting := splitting_init memory packet size
  have beginning : before <+: wire.encode :=
    (List.prefix_append before piece).trans stream
  have accepted := accepts_wire memory packet size carries beginning
  obtain ⟨short, shortOf⟩ := exists_cutOf beginning
  obtain ⟨long, longOf⟩ := exists_cutOf stream
  have first := accesses_wire memory packet size (shortOf.carries carries)
  have both := accesses_wire memory packet size (longOf.carries carries)
  rw [shortOf.encode] at first
  rw [longOf.encode, callbacks_append splitting before piece accepted,
    accesses_append, first] at both
  have inLong : short.frames <+: long.frames := by
    refine (longOf.complete_iff stream shortOf.frames).mpr ?_
    have inside :=
      (shortOf.complete_iff beginning shortOf.frames).mp
        (List.prefix_refl _)
    rw [List.length_append]
    omega
  obtain ⟨frames, later⟩ := inLong
  rw [← later, List.filterMap_append, List.append_cancel_left_eq] at both
  rw [afterBytes, both, List.mem_filterMap]
  simp only [frameEnds_iff shortOf longOf stream later.symm, and_comm]

end Stream

/-! ## The loop -/

/-- A packet never brings the loop into `HOST_READ_OFF`. -/
theorem hostReadOff_of_packet {loop : LoopControl υ} {packet : OvPacket}
    (off : (chaLoopPacketCallback loop packet).state = .hostReadOff) :
    loop.state = .hostReadOff := by
  by_cases running : loop.state = .running
  · have user := state_callUser loop packet
    have count := state_countPacket (callUser loop packet)
    have last := state_packetCallback loop packet running
    rw [running] at user
    rcases last with ⟨-, state⟩ | ⟨-, state⟩
    · simp [state] at off
    · rw [state] at off
      rcases count with ⟨-, state⟩ | ⟨-, state⟩
      · simp [state] at off
      · rw [state] at off
        rcases user with ⟨-, state⟩ | ⟨-, state⟩ <;> simp [state] at off
  · have ignored : chaLoopPacketCallback loop packet = loop :=
      if_pos running
    rwa [ignored] at off

/-- The loop sees the echo if and only if it is among the callbacks. -/
theorem replay_hostReadOff_iff (loop : LoopControl υ)
    (calls : List Callback) :
    (replay decoderOps loop calls).state = .hostReadOff ↔
      loop.state = .hostReadOff ∨
        ∃ addr, addr &&& 0x7fff = loop.reg.addr .sdramHostReadGo ∧
          .busFrame addr 0 ∈ calls := by
  constructor
  · intro off
    induction calls generalizing loop with
    | nil => exact .inl off
    | cons call rest ih =>
        have kept := (quiet_apply loop call).reg
        rcases ih (call.apply decoderOps loop) off with now | later
        · cases call with
          | packet complete => exact .inl (hostReadOff_of_packet now)
          | busFrame addr value =>
              change (chaLoopBusFrameCallback loop addr value).state = _
                at now
              unfold chaLoopBusFrameCallback at now
              split at now
              · rename_i matching
                refine .inr ⟨addr, matching.1, ?_⟩
                rw [matching.2]
                exact List.mem_cons_self
              · exact .inl now
        · obtain ⟨addr, matching, member⟩ := later
          rw [kept] at matching
          exact .inr ⟨addr, matching, List.mem_cons_of_mem call member⟩
  · rintro (off | ⟨addr, matching, member⟩)
    · exact replay_hostReadOff off calls
    · exact replay_echo matching member

/--
What the decoder makes of a piece of the stream.  The loop comes into
`HOST_READ_OFF` if and only if there is an echo.
-/
structure Hears (before after : ChaLoop υ) (piece : List UInt8) : Prop where
  fd : after.fd = afterBytes before.fd piece
  reg : after.control.reg = before.control.reg
  hostReadOff :
    before.control.state ≠ .hostReadOff ∧
        after.control.state = .hostReadOff ↔
      ∃ addr,
        addr &&& 0x7fff = before.control.reg.addr .sdramHostReadGo ∧
          .busFrame addr 0 ∈ callbacks before.fd piece

theorem callbacks_nil (fd : FrameDecoder) : callbacks fd [] = [] := by
  rw [callbacks, frameDecoderProc_nil]
  rfl

/-- Nothing is decoded, and the loop does not come into `HOST_READ_OFF`. -/
theorem hears_nil {before after : ChaLoop υ} (fd : after.fd = before.fd)
    (reg : after.control.reg = before.control.reg)
    (state : after.control.state = .hostReadOff →
      before.control.state = .hostReadOff) : Hears before after [] where
  fd := fd.trans (afterBytes_nil before.fd).symm
  reg := reg
  hostReadOff := by
    simp only [callbacks_nil, List.not_mem_nil, and_false, exists_false,
      iff_false, not_and]
    exact fun away off => away (state off)

/-- The data of a transfer, as far as the decoder sees it. -/
theorem exists_decoded {ftdi : FtdiContext} {loop : ChaLoop υ}
    {data : List UInt8} (splitting : Splitting loop.fd)
    (small : data.length ≤ bufferSize) :
    ∃ piece, (decodeTransfer ftdi loop data).fed = loop.fed ++ piece ∧
      (Accepts loop.fd piece →
        decodeTransfer ftdi loop data = decoded loop piece) := by
  fun_induction decodeTransfer ftdi loop data with
  | case1 loop data more ih =>
      have first : (data.take ftdi.maxPacketSize).length ≤ bufferSize := by
        rw [List.length_take]
        omega
      have reached := splitting_decodePacket splitting
        (data.take ftdi.maxPacketSize)
      obtain ⟨piece, fed, whole⟩ := ih reached (length_decodePacket small)
      refine ⟨(data.take ftdi.maxPacketSize).drop 2 ++ piece, ?_, ?_⟩
      · rw [fed, fed_decodePacket, List.append_assoc]
      · intro accepted
        obtain ⟨head, tail⟩ := (accepts_append splitting _ _).mp accepted
        have packet := decodePacket_eq_decoded splitting first head
        rw [decoded_append splitting accepted, ← packet]
        refine whole ?_
        rw [packet]
        exact tail
  | case2 loop data done =>
      exact ⟨[], (List.append_nil _).symm, fun _ => (decoded_nil loop).symm⟩

theorem hears_decodeTransfer {ftdi : FtdiContext} {loop : ChaLoop υ}
    {data : List UInt8} (splitting : Splitting loop.fd)
    (small : data.length ≤ bufferSize) :
    ∃ piece, (decodeTransfer ftdi loop data).fed = loop.fed ++ piece ∧
      (Accepts loop.fd piece →
        Hears loop (decodeTransfer ftdi loop data) piece) := by
  by_cases running : loop.control.state = .running
  · obtain ⟨piece, fed, whole⟩ := exists_decoded splitting small
    refine ⟨piece, fed, fun accepted => ?_⟩
    rw [whole accepted]
    have off := replay_hostReadOff_iff loop.control (callbacks loop.fd piece)
    refine ⟨rfl, (quiet_replay loop.control _).reg, ?_⟩
    simpa [running, decoded] using off
  · rw [decodeTransfer_of_stopped ftdi running]
    exact ⟨[], (List.append_nil _).symm, fun _ => hears_nil rfl rfl id⟩

/-- What follows the decoding does not bring the loop into `HOST_READ_OFF`. -/
theorem completed_transferCallback {ftdi : FtdiContext}
    {loop next : ChaLoop υ} {index : Fin 3} {data : List UInt8}
    {results : List Int}
    (called :
      chaLoopTransferCallback ftdi loop index .completed data results =
        some next) :
    next.control.reg = (decodeTransfer ftdi loop data).control.reg ∧
      (next.control.state = .hostReadOff ↔
        (decodeTransfer ftdi loop data).control.state = .hostReadOff) := by
  simp only [chaLoopTransferCallback] at called
  split at called
  · rename_i running
    obtain ⟨result, -, rfl⟩ := Option.map_eq_some_iff.mp called
    simp only [running]
    split <;>
      simp [fail, submitted, chaLoopCancelTransfer, retire, running]
  · cases called
    exact ⟨rfl, Iff.rfl⟩

/-- A run is entered in the same state, or in `FATAL_ERROR`. -/
theorem state_chaLoopRun {capture : CaptureState υ} {stopping : Bool}
    {count : Int} {submits : Fin 3 → Int}
    (off :
      (chaLoopRun capture stopping count submits).loop.control.state =
        .hostReadOff) :
    capture.loop.control.state = .hostReadOff := by
  by_cases earlier : capture.loop.control.state = .fatalError
  · rw [chaLoopRun_of_fatal earlier] at off
    exact off
  · rw [chaLoopRun_of_alive earlier] at off
    simp only [CaptureState.setControl] at off
    obtain ⟨active, -⟩ := submitTransfers_spec submits [0, 1, 2]
      (cleared capture.loop.control count)
    rw [cleared_state] at active
    rcases active with same | fatal
    · rw [← same]
      split at off <;> exact off
    · exfalso
      split at off
      · exact absurd (fatal.symm.trans off) (by decide)
      · exact absurd (fatal.symm.trans off) (by decide)

/-- One event. -/
theorem hears_step {ftdi : FtdiContext} {capture next : CaptureState υ}
    {event : Event} (splitting : Splitting capture.loop.fd)
    (stepped : step ftdi capture event = some next) :
    ∃ piece, next.loop.fed = capture.loop.fed ++ piece ∧
      (Accepts capture.loop.fd piece →
        Hears capture.loop next.loop piece) := by
  cases event with
  | dispatch count submits =>
      simp only [step] at stepped
      split at stepped <;> cases stepped
      obtain ⟨fd, fed⟩ := loop_chaLoopRun capture false count submits
      refine ⟨[], fed.trans (List.append_nil _).symm, fun _ => ?_⟩
      exact hears_nil fd (quiet_chaLoopRun _ _ _ _).reg state_chaLoopRun
  | stop submits =>
      rw [step_stop stepped]
      have loop := loop_chaLoopRun
        (capture.setControl { capture.loop.control with
          callback := none
          state := .running })
        true (-1) submits
      refine ⟨[], loop.2.trans (List.append_nil _).symm, fun _ => ?_⟩
      refine hears_nil loop.1 (quiet_chaLoopRun _ _ _ _).reg fun off => ?_
      have running := state_chaLoopRun off
      simp [CaptureState.setControl] at running
  | handled result =>
      rw [(step_handled stepped).1]
      refine ⟨[], (List.append_nil _).symm, fun _ => ?_⟩
      refine hears_nil rfl (quiet_handleEvents _ result).reg fun off => ?_
      unfold handleEvents at off
      split at off
      · simp [fail] at off
      · exact off
  | transfer index status data results =>
      obtain ⟨promised, -, called⟩ := step_transfer stepped
      have loop := loop_transferCallback called
      by_cases completed : status = .completed
      · subst completed
        obtain ⟨fd, fed⟩ := (if_pos rfl).mp loop
        obtain ⟨reg, state⟩ := completed_transferCallback called
        have same :
            Splitting { capture.loop with
              control := ended capture.loop.control index }.fd :=
          splitting
        obtain ⟨piece, decodes, hears⟩ :=
          hears_decodeTransfer same promised.2.2
        refine ⟨piece, fed.trans decodes, fun accepted => ?_⟩
        have heard := hears accepted
        exact ⟨fd.trans heard.fd, reg.trans heard.reg,
          (and_congr_right fun _ => state).trans heard.hostReadOff⟩
      · obtain ⟨fd, fed⟩ := (if_neg completed).mp loop
        refine ⟨[], fed.trans (List.append_nil _).symm, fun _ => ?_⟩
        refine hears_nil fd ?_ fun off => ?_
        · exact (quiet_transferCallback (absurd · completed) called).reg
        · cases status with
          | completed => exact absurd rfl completed
          | cancelled =>
              rw [← Option.some.inj called] at off
              exact off
          | error | timedOut | stall | noDevice | overflow =>
              rw [← Option.some.inj called] at off
              simp [retire, fail] at off

/-- A run.  The decoder is in the state behind what it has seen. -/
theorem hears_run {ftdi : FtdiContext} {start finish : CaptureState υ}
    {events : List Event} (splitting : Splitting start.loop.fd)
    (reached : run (step ftdi) start events = some finish) :
    Splitting finish.loop.fd ∧
      ∃ piece, finish.loop.fed = start.loop.fed ++ piece ∧
        (Accepts start.loop.fd piece →
          finish.loop.fd = afterBytes start.loop.fd piece ∧
            finish.loop.control.reg = start.loop.control.reg) := by
  induction events generalizing start with
  | nil =>
      cases reached
      exact ⟨splitting, [], (List.append_nil _).symm,
        fun _ => ⟨(afterBytes_nil _).symm, rfl⟩⟩
  | cons event rest ih =>
      obtain ⟨next, head, tail⟩ := run_cons_eq_some_iff.mp reached
      obtain ⟨first, fed, hears⟩ := hears_step splitting head
      obtain ⟨splitting', second, fed', follows⟩ :=
        ih (fed_step splitting head).1 tail
      refine ⟨splitting', first ++ second, ?_, fun accepted => ?_⟩
      · rw [fed', fed, List.append_assoc]
      · obtain ⟨now, later⟩ := (accepts_append splitting _ _).mp accepted
        have heard := hears now
        rw [← heard.fd] at later
        obtain ⟨fd, reg⟩ := follows later
        rw [afterBytes_append splitting accepted, ← heard.fd]
        exact ⟨fd, reg.trans heard.reg⟩

/-! ## Captures -/

/--
As long as the decoder sees a stream of the grammar, an event of a capture
brings the loop into `HOST_READ_OFF` if and only if an echo of the halt
command ends in the data that the decoder sees with it.
-/
theorem hostReadOff_iff_fed (ftdi : FtdiContext) (memory : CaptureState υ)
    (reg : Reg) (packet : OvPacket) (size : Nat)
    (callback : Option (UserCallback υ)) (userData : υ)
    {capture next : CaptureState υ} {events : List Event} {event : Event}
    {wire : Wire} {items : List Item}
    (fits : reg.addr .sdramHostReadGo < 0x8000)
    (carries : wire.Carries items)
    (stream : next.loop.fed <+: wire.encode)
    (reached :
      run (step ftdi)
          (ovCaptureStart memory reg packet size callback userData) events =
        some capture)
    (stepped : step ftdi capture event = some next) :
    capture.loop.control.state ≠ .hostReadOff ∧
        next.loop.control.state = .hostReadOff ↔
      ∃ frame, IsEcho reg frame ∧
        FrameEnds wire frame capture.loop.fed.length next.loop.fed.length := by
  have splitting := splitting_init memory.loop.fd packet size
  obtain ⟨splitting', before, fed, follows⟩ := hears_run splitting reached
  obtain ⟨piece, fed', hears⟩ := hears_step splitting' stepped
  have start : capture.loop.fed = before := fed
  rw [fed', start] at stream ⊢
  have accepted :=
    accepts_wire memory.loop.fd packet size carries stream
  obtain ⟨past, now⟩ := (accepts_append splitting _ _).mp accepted
  obtain ⟨fd, reg'⟩ := follows past
  have fd' : capture.loop.fd =
      afterBytes (frameDecoderInit memory.loop.fd packet size) before := fd
  have sameReg : capture.loop.control.reg = reg := reg'
  rw [← fd'] at now
  have heard := (hears now).hostReadOff
  rw [sameReg, fd'] at heard
  rw [heard]
  simp only [← mem_accesses, isEcho_iff fits,
    mem_accesses_piece memory.loop.fd packet size carries stream]
  constructor
  · rintro ⟨addr, matching, frame, accessed, ends⟩
    exact ⟨frame, ⟨addr, matching, accessed⟩, ends⟩
  · rintro ⟨frame, ⟨addr, matching, accessed⟩, ends⟩
    exact ⟨addr, matching, frame, accessed, ends⟩

/--
An event brings the loop into `HOST_READ_OFF` exactly when an echo of the halt
command, a frame of the device's stream, is complete with the bytes of the
event that are decoded.  The payload of the SDRAM frames, and bus frames of
other registers and values, have no part in this.
-/
def EchoOnly (ftdi : FtdiContext) (reg : Reg) (wire : Wire)
    (start : CaptureState υ) (events : List Event) : Prop :=
  ∀ before event after capture next, events = before ++ event :: after →
    run (step ftdi) start before = some capture →
      step ftdi capture event = some next →
        (capture.loop.control.state ≠ .hostReadOff ∧
            next.loop.control.state = .hostReadOff ↔
          ∃ frame, IsEcho reg frame ∧
            FrameEnds wire frame (transferPayload ftdi before).length
              ((transferPayload ftdi before).length +
                (next.loop.fed.length - capture.loop.fed.length)))

/--
In a capture of a stream of the grammar, no event but an echo brings the loop
into `HOST_READ_OFF`, and every echo does, if no event before the last one
skips any bytes.
-/
theorem echoOnly_of_throughout (ftdi : FtdiContext) (memory : CaptureState υ)
    (reg : Reg) (packet : OvPacket) (size : Nat)
    (callback : Option (UserCallback υ)) (userData : υ)
    {events : List Event} {wire : Wire} {items : List Item}
    (fits : reg.addr .sdramHostReadGo < 0x8000)
    (carries : wire.Carries items)
    (stream : transferPayload ftdi events <+: wire.encode)
    (throughout :
      Throughout (step ftdi) (SkipsNothing ftdi)
        (ovCaptureStart memory reg packet size callback userData)
        events.dropLast) :
    EchoOnly ftdi reg wire
      (ovCaptureStart memory reg packet size callback userData) events := by
  rintro before event after capture next rfl reached stepped
  have splitting : Splitting
      (ovCaptureStart memory reg packet size callback userData).loop.fd :=
    splitting_init memory.loop.fd packet size
  -- nothing has been skipped before the event
  rw [List.dropLast_append_of_ne_nil (List.cons_ne_nil event after)]
    at throughout
  have unskipped := (throughout_append throughout reached).1
  have start : capture.loop.fed = transferPayload ftdi before :=
    (fed_run splitting reached).2.mpr unskipped
  obtain ⟨splitting', -⟩ := hears_run splitting reached
  have seen := (fed_step splitting' stepped).2.1
  obtain ⟨piece, more, -⟩ := hears_step splitting' stepped
  have fed : next.loop.fed <+: wire.encode := by
    rw [start] at seen
    refine seen.trans (List.IsPrefix.trans ?_ stream)
    rw [transferPayload_append, transferPayload_cons, ← List.append_assoc]
    exact List.prefix_append _ _
  have length : next.loop.fed.length =
      (transferPayload ftdi before).length +
        (next.loop.fed.length - capture.loop.fed.length) := by
    rw [more, start, List.length_append]
    omega
  rw [← length, ← start]
  exact hostReadOff_iff_fed ftdi memory reg packet size callback userData fits
    carries fed reached stepped

/-- A record whose data is the halt command. -/
def copyRecord : Record where
  magic := 0xa0
  flags := 0x00
  size := 5
  delta := [0x07]
  data := [0x55, 0x8c, 0x28, 0x00, 0x09]
  magic_mem := plain_mem
  size_le := by decide
  delta_pos := by decide
  delta_le := by decide
  data_length := by decide

/-- The record, and the echo of the halt command. -/
def copyAndEcho : Wire :=
  ⟨[.sdram 0x04 copyRecord.encode rfl, .bus 0x8c 0x28 0x00 0x09], .nothing⟩

/-- The transfer that brings the record. -/
def copyArrives : List Event :=
  [.dispatch 0 (fun _ => 0),
    .transfer 0 .completed
      [0x32, 0x60, 0xd0, 0x04, 0xa0, 0x00, 0x05, 0x00, 0x07, 0x55, 0x8c,
        0x28, 0x00, 0x09] [0]]

/-- The transfer that brings the echo. -/
def echoArrives : Event :=
  .transfer 1 .completed [0x32, 0x60, 0x55, 0x8c, 0x28, 0x00, 0x09] []

/-- The copy does not stop the loop; the echo does. -/
theorem echoOnly_copyRecord :
    ∃ capture next,
      run (step ⟨64, by decide⟩) (started none ()) copyArrives =
          some capture ∧
        capture.loop.control.state = .running ∧
        step ⟨64, by decide⟩ capture echoArrives = some next ∧
        next.loop.control.state = .hostReadOff := by
  have before :
      (run (step ⟨64, by decide⟩) (started none ()) copyArrives).map
          (fun capture => (capture.loop.control.state, capture.loop.fed)) =
        some (.running, transferPayload ⟨64, by decide⟩ copyArrives) := by
    decide +kernel
  obtain ⟨capture, reached, before⟩ := Option.map_eq_some_iff.mp before
  simp only [Prod.mk.injEq] at before
  obtain ⟨running, fed⟩ := before
  have after :
      (run (step ⟨64, by decide⟩) (started none ())
          (copyArrives ++ [echoArrives])).map (fun next => next.loop.fed) =
        some copyAndEcho.encode := by
    decide +kernel
  obtain ⟨next, run, fed'⟩ := Option.map_eq_some_iff.mp after
  have stepped : step ⟨64, by decide⟩ capture echoArrives = some next := by
    obtain ⟨middle, first, last⟩ := run_append_eq_some_iff.mp run
    rw [reached] at first
    cases first
    simpa using last
  have carries : copyAndEcho.Carries [.record copyRecord] := ⟨[], rfl⟩
  have stream :
      transferPayload ⟨64, by decide⟩ (copyArrives ++ [echoArrives]) <+:
        copyAndEcho.encode := by
    decide +kernel
  have throughout := (fed_run (splitting_init _ _ _) reached).2.mp fed
  have echo := echoOnly_of_throughout _ _ _ _ _ _ _ (by decide) carries
    stream throughout copyArrives echoArrives [] capture next rfl reached
    stepped
  refine ⟨capture, next, reached, running, stepped, (echo.mpr ?_).2⟩
  refine ⟨.bus 0x8c 0x28 0x00 0x09, ⟨rfl, rfl, rfl⟩, ?_⟩
  rw [fed, fed']
  exact ⟨[.sdram 0x04 copyRecord.encode rfl], [], rfl, by decide +kernel,
    by decide +kernel⟩

/-! ## An echo in the data -/

/-- A record with the halt command in its data. -/
def longRecord : Record where
  magic := 0xa0
  flags := 0x00
  size := 58
  delta := [0x07]
  data := List.replicate 52 0xff ++ [0x55, 0x8c, 0x28, 0x00, 0x09, 0x55]
  magic_mem := plain_mem
  size_le := by decide
  delta_pos := by decide
  delta_le := by decide
  data_length := by decide

/-- Two records in two SDRAM frames, and no bus frame. -/
def twoRecords : Wire :=
  ⟨[.sdram 0x1e (emptyRecord.encode ++ longRecord.encode.take 57) rfl,
    .sdram 0x02 [0x55, 0x8c, 0x28, 0x00, 0x09, 0x55] rfl], .nothing⟩

/--
The user stops the loop at the first record, and the end of the first frame is
skipped.  The drain gets the second frame.
-/
def copyInDrain : List Event :=
  .dispatch 0 (fun _ => 0) ::
    .transfer 0 .completed
      ([0x32, 0x60, 0xd0, 0x1e] ++ emptyRecord.encode ++
        longRecord.encode.take 55 ++ [0x32, 0x60, 0xff, 0xff]) [] ::
    othersCancelled ++
  [.stop (fun _ => 0),
    .transfer 0 .completed
      [0x32, 0x60, 0xd0, 0x02, 0x55, 0x8c, 0x28, 0x00, 0x09, 0x55] []]

/-- The decoder takes data for the echo, on a stream without bus frames. -/
theorem copyInDrain_not_echoOnly :
    twoRecords.Carries [.record emptyRecord, .record longRecord] ∧
      transferPayload ⟨64, by decide⟩ copyInDrain = twoRecords.encode ∧
      ¬ EchoOnly ⟨64, by decide⟩
        (started (some breakAtFirst) ()).loop.control.reg twoRecords
        (started (some breakAtFirst) ()) copyInDrain := by
  refine ⟨⟨[], by decide +kernel⟩, by decide +kernel, fun echoOnly => ?_⟩
  have before :
      (run (step ⟨64, by decide⟩) (started (some breakAtFirst) ())
          (copyInDrain.take 6)).map (fun capture =>
            capture.loop.control.state) =
        some .running := by
    decide +kernel
  have after :
      (run (step ⟨64, by decide⟩) (started (some breakAtFirst) ())
          (copyInDrain.take 6 ++ copyInDrain.drop 6)).map (fun next =>
            next.loop.control.state) =
        some .hostReadOff := by
    decide +kernel
  obtain ⟨capture, reached, running⟩ := Option.map_eq_some_iff.mp before
  obtain ⟨next, run, off⟩ := Option.map_eq_some_iff.mp after
  have away : capture.loop.control.state ≠ .hostReadOff := by
    rw [running]
    decide
  obtain ⟨middle, first, last⟩ := run_append_eq_some_iff.mp run
  rw [reached] at first
  cases first
  obtain ⟨other, stepped, done⟩ := run_cons_eq_some_iff.mp last
  cases done
  obtain ⟨frame, echo, frames, rest, split, -⟩ :=
    (echoOnly (copyInDrain.take 6) _ [] capture next rfl reached
      stepped).mp ⟨away, off⟩
  have member : frame ∈ twoRecords.frames := by
    rw [split]
    exact List.mem_append_right _ List.mem_cons_self
  obtain ⟨addr, -, accessed⟩ := (isEcho_iff (by decide) frame).mp echo
  rcases List.mem_pair.mp member with rfl | rfl <;> cases accessed

end OpenVizsla.Capture.HaltEcho
