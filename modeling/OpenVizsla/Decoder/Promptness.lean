import OpenVizsla.Decoder.Chunking
import OpenVizsla.Decoder.WireDecoding

/-!
# When packets are reported

`slots` lists what a call of the frame decoder completes, from any reachable
state: a tick for each payload byte, with the packet whose last byte it is.
The decoder reports the packets late, and so one of them can be left over at
the end of a call.
-/

namespace OpenVizsla.Decoder.Promptness

open OpenVizsla.Foundation.Delay
open OpenVizsla.Foundation.Streaming
open OpenVizsla.Decoder.Packet
open OpenVizsla.Decoder.PacketProc
open OpenVizsla.Decoder.FrameProc
open OpenVizsla.Decoder.Invariant
open OpenVizsla.Decoder.ByteMachine
open OpenVizsla.Decoder.Callbacks
open OpenVizsla.Decoder.Chunking
open OpenVizsla.Decoder.WireGrammar
open OpenVizsla.Decoder.WireDecoding

/-! ## Completions -/

/-- The decoder with one more byte of the open packet, before any report. -/
def stored (pd : PacketDecoder) (byte : UInt8) : Option PacketDecoder :=
  if pd.state = .needPacketData then some (copyData pd [byte])
  else (packetHeaderByte pd byte).toOption

/-- The packet whose last byte this is. -/
def completes (pd : PacketDecoder) (byte : UInt8) : Option OvPacket :=
  (stored (ready pd) byte).bind held

/-- What one byte of the stream completes. -/
def slot (fd : FrameDecoder) (byte : UInt8) : List WireSlot :=
  match fd.state with
  | .needSdramFrameData => [.tick (completes fd.pd byte)]
  | .needBusFrameChecksum => [.signal (fd.word, fd.value)]
  | _ => []

/-- What the bytes complete, up to the first one that is rejected. -/
def slots (fd : FrameDecoder) : List UInt8 → List WireSlot
  | [] => []
  | byte :: rest =>
      slot fd byte ++
        match frameByte recorder (fd, []) byte with
        | .ok next => slots next.1 rest
        | .error _ => []

/-! ## Lateness -/

/-- A packet that is complete with its header has no data. -/
theorem hasNoData_of_header {pd next : PacketDecoder} {byte : UInt8}
    {packet : OvPacket} (assembling : Assembling pd)
    (header : pd.state ≠ .needPacketData)
    (accepted : packetHeaderByte pd byte = .ok next)
    (complete : held next = some packet) : hasNoData packet = true := by
  have nothing : next.bufActualLength = 0 :=
    (buffer_packetHeaderByte accepted).2.1.trans (assembling.idle header)
  unfold held at complete
  split at complete
  · rename_i data
    cases complete
    have required := requiredLength_eq
      (assembling_packetHeaderByte assembling accepted) data.1
    have empty : (ovPacketCapturedSize next.packet).toNat = 0 := by omega
    have size : ovPacketCapturedSize next.packet = 0 :=
      UInt16.toNat_inj.mp empty
    exact decide_eq_true size
  · cases complete

/-- A packet that is complete with a byte of its data has some. -/
theorem hasNoData_of_data {pd : PacketDecoder} {byte : UInt8}
    {packet : OvPacket} (assembling : Assembling pd)
    (data : pd.state = .needPacketData) (missing : requiredLength pd ≠ 0)
    (complete : held (copyData pd [byte]) = some packet) :
    hasNoData packet = false := by
  have required := requiredLength_eq assembling data
  unfold held at complete
  split at complete
  · cases complete
    have size : ovPacketCapturedSize pd.packet ≠ 0 := by
      intro zero
      rw [zero] at required
      simp only [UInt16.toNat_zero] at required
      omega
    exact decide_eq_false size
  · cases complete

theorem assembling_ready {pd : PacketDecoder} (assembling : Assembling pd) :
    Assembling (ready pd) := by
  unfold ready
  split
  · exact assembling_restart pd
  · exact assembling

/-- After the report, data is missing whenever data is expected. -/
theorem requiredLength_ready {pd : PacketDecoder}
    (data : (ready pd).state = .needPacketData) :
    requiredLength (ready pd) ≠ 0 := by
  unfold ready at data ⊢
  split at data
  · simp [restart] at data
  · rename_i incomplete
    rw [if_neg incomplete]
    exact fun required => incomplete ⟨data, required⟩

theorem held_ready (pd : PacketDecoder) : held (ready pd) = none := by
  by_cases complete : pd.state = .needPacketData ∧ requiredLength pd = 0
  · rw [ready, if_pos complete]
    exact held_of_header (by simp [restart])
  · rw [ready, if_neg complete, held, if_neg complete]

/-- The reports of one payload byte. -/
theorem packetByte_late {pd : PacketDecoder} {calls : List Callback}
    {byte : UInt8} {next : PacketDecoder × List Callback}
    (assembling : Assembling pd)
    (accepted : packetByte recorder (pd, calls) byte = .ok next) :
    ∃ now, next.2 = calls ++ now ∧
      now.map report =
        (held pd).toList.map .inl ++
          ((completes pd byte).filter (!hasNoData ·)).toList.map .inl ∧
      held next.1 = (completes pd byte).filter hasNoData := by
  have assembling' := assembling_ready assembling
  obtain ⟨first, settled, due⟩ := settle_recorder pd calls
  rw [packetByte, settled, settledByte] at accepted
  by_cases data : (ready pd).state = .needPacketData
  · have missing := requiredLength_ready data
    have done : completes pd byte = held (copyData (ready pd) [byte]) := by
      simp [completes, stored, data]
    obtain ⟨second, settled', due'⟩ :=
      settle_recorder (copyData (ready pd) [byte]) (calls ++ first)
    rw [if_pos data, settled'] at accepted
    cases accepted
    refine ⟨first ++ second, by simp, ?_, ?_⟩
    · rw [List.map_append, due, due', done]
      cases complete : held (copyData (ready pd) [byte]) with
      | none => rfl
      | some packet =>
          have some' := hasNoData_of_data assembling' data missing complete
          simp [Option.filter, some']
    · rw [held_ready, done]
      cases complete : held (copyData (ready pd) [byte]) with
      | none => rfl
      | some packet =>
          have some' := hasNoData_of_data assembling' data missing complete
          simp [Option.filter, some']
  · rw [if_neg data] at accepted
    cases header : packetHeaderByte (ready pd) byte with
    | error failed => simp [header] at accepted
    | ok after =>
        have done : completes pd byte = held after := by
          simp [completes, stored, data, header, Except.toOption]
        simp only [header, Except.ok.injEq] at accepted
        subst accepted
        refine ⟨first, rfl, ?_, ?_⟩
        · rw [due, done]
          cases complete : held after with
          | none => simp
          | some packet =>
              have none' := hasNoData_of_header assembling' data header
                complete
              simp [Option.filter, none']
        · rw [done]
          cases complete : held after with
          | none => rfl
          | some packet =>
              have none' := hasNoData_of_header assembling' data header
                complete
              simp [Option.filter, none']

/-- A byte outside the payload leaves the packet decoder alone. -/
theorem frameHeaderByte_late {fd : FrameDecoder} {byte : UInt8}
    {next : FrameDecoder × List Callback}
    (header : fd.state ≠ .needSdramFrameData)
    (accepted : frameHeaderByte recorder fd [] byte = .ok next) :
    next.1.pd = fd.pd ∧
      ∀ waiting later,
        late hasNoData waiting (slot fd byte ++ later) =
          next.2.map report ++ late hasNoData waiting later := by
  unfold frameHeaderByte at accepted
  cases state : fd.state with
  | needSdramFrameData => exact absurd state header
  | needFrameMagic =>
      simp only [state] at accepted
      split at accepted
      · cases accepted
        exact ⟨rfl, fun waiting later => by simp [slot, state]⟩
      · split at accepted <;> cases accepted
        exact ⟨rfl, fun waiting later => by simp [slot, state]⟩
  | needBusFrameChecksum =>
      simp only [state] at accepted
      cases accepted
      refine ⟨rfl, fun waiting later => ?_⟩
      simp [slot, state, late, reportBusFrame, recorder, report]
  | needSdramFrameLength | needBusFrameAddrHi | needBusFrameAddrLo
  | needBusFrameValue =>
      simp only [state] at accepted
      cases accepted
      exact ⟨rfl, fun waiting later => by simp [slot, state]⟩

/-- The reports of one byte of the stream. -/
theorem frameByte_late {fd : FrameDecoder} {byte : UInt8}
    {next : FrameDecoder × List Callback} (splitting : Splitting fd)
    (accepted : frameByte recorder (fd, []) byte = .ok next)
    (later : List WireSlot) :
    late hasNoData (held fd.pd) (slot fd byte ++ later) =
      next.2.map report ++ late hasNoData (held next.1.pd) later := by
  by_cases data : fd.state = .needSdramFrameData
  · simp only [frameByte, data, if_true] at accepted
    cases inner : packetByte recorder (fd.pd, []) byte with
    | error failed => simp [inner] at accepted
    | ok after =>
        obtain ⟨now, calls, reports, waiting⟩ :=
          packetByte_late splitting.assembling inner
        simp only [inner, Except.ok.injEq] at accepted
        subst accepted
        rw [List.nil_append] at calls
        have kept : held (consumePayload fd after.1 1).pd = held after.1 :=
          rfl
        simp [slot, data, late, calls, reports, kept, waiting]
  · simp only [frameByte, data, if_false] at accepted
    cases header : frameHeaderByte recorder fd [] byte with
    | error failed => simp [header] at accepted
    | ok after =>
        simp only [header, Except.ok.injEq] at accepted
        subst accepted
        obtain ⟨pd, reports⟩ := frameHeaderByte_late data header
        rw [pd]
        exact reports (held fd.pd) later

/-- One byte of a call. -/
theorem frameDecoderProc_singleton {fd : FrameDecoder} {byte : UInt8}
    (splitting : Splitting fd)
    (accepted : (frameDecoderProc recorder fd [] [byte]).consumed ≠ none) :
    frameByte recorder (fd, []) byte =
      .ok ((frameDecoderProc recorder fd [] [byte]).processor,
        callbacks fd [byte]) := by
  have follows :=
    frameDecoderProc_frameBytes recorder fd [] [byte] splitting
  have single : frameBytes recorder (fd, []) [byte] =
      frameByte recorder (fd, []) byte := by
    rw [frameBytes_cons]
    cases frameByte recorder (fd, []) byte <;> rfl
  rw [single] at follows
  cases run : frameByte recorder (fd, []) byte with
  | error failed =>
      rw [run] at follows
      exact absurd follows.1 accepted
  | ok next =>
      rw [run] at follows
      obtain ⟨-, calls, processor⟩ := follows
      rw [callbacks, calls, processor]

/-- A call that does not fail reports late what the bytes complete. -/
theorem callbacks_late {fd : FrameDecoder} {input : List UInt8}
    (splitting : Splitting fd)
    (accepted : (frameDecoderProc recorder fd [] input).consumed ≠ none) :
    (callbacks fd input).map report =
      late hasNoData (held fd.pd) (slots fd input) := by
  induction input generalizing fd with
  | nil => simp [callbacks, frameDecoderProc, Outcome.idle, slots, late]
  | cons byte rest ih =>
      have head :
          (frameDecoderProc recorder fd [] [byte]).consumed ≠ none := by
        intro failed
        have agrees :=
          frameDecoderProc_append recorder fd [] [byte] rest splitting
        rw [Outcome.andThen_of_failed failed] at agrees
        exact accepted (agrees.consumed.trans failed)
      have step := frameDecoderProc_singleton splitting head
      have middle :=
        splitting_frameDecoderProc recorder fd [] [byte] splitting
      have tail := (consumed_append splitting [byte] rest head).1.not.mp
        accepted
      have whole := callbacks_append splitting [byte] rest head
      rw [List.singleton_append] at whole
      rw [whole, List.map_append, ih middle tail, slots, step]
      exact (frameByte_late splitting step _).symm

/-! ## Nothing left over -/

/-- The packets that a call reports. -/
def reported (fd : FrameDecoder) (input : List UInt8) : List OvPacket :=
  ((callbacks fd input).map report).filterMap Sum.getLeft?

/-- The packets whose last byte is in the input. -/
def completed (fd : FrameDecoder) (input : List UInt8) : List OvPacket :=
  (slots fd input).filterMap Slot.completed

/-- For each payload byte of the input, the packet that it completes. -/
def payloadBytes (fd : FrameDecoder) (input : List UInt8) :
    List (Option OvPacket) :=
  (slots fd input).filterMap Slot.ticked

/--
The last payload byte that the decoder has seen, in this call or before it,
completes a packet without data.
-/
def EndsWithoutData (fd : FrameDecoder) (input : List UInt8) : Prop :=
  match (payloadBytes fd input).getLast? with
  | none => held fd.pd ≠ none
  | some completes => ∃ packet ∈ completes, hasNoData packet = true

/--
When a call returns without an error, every complete packet has been reported,
if and only if the last payload byte does not complete a packet without data.
-/
theorem reported_iff {fd : FrameDecoder} (reachable : Reachable fd)
    {input : List UInt8}
    (accepted : (frameDecoderProc recorder fd [] input).consumed ≠ none) :
    reported fd input = (held fd.pd).toList ++ completed fd input ↔
      ¬ EndsWithoutData fd input := by
  have splitting := splitting_of_reachable reachable
  rw [reported, callbacks_late splitting accepted, completed,
    late_values_eq_iff, waits_eq, EndsWithoutData, payloadBytes]
  cases ((slots fd input).filterMap Slot.ticked).getLast? with
  | none => simp
  | some completes => simp [Option.filter_eq_none_iff]

/-- A record without data, and a filler. -/
theorem reported_iff_recordFirst :
    reported (zeroed 8203) recordFirst.encode =
      (held (zeroed 8203).pd).toList ++
        completed (zeroed 8203) recordFirst.encode := by
  have last :
      (payloadBytes (zeroed 8203) recordFirst.encode).getLast? =
        some none := by
    decide +kernel
  refine (reported_iff (.init _ _ 8203) ?_).mpr ?_
  · decide +kernel
  · change ¬ EndsWithoutData (zeroed 8203) recordFirst.encode
    rw [EndsWithoutData, last]
    simp

/-- A frame that ends with the last packet of a capture, without data. -/
def lastPacket : List UInt8 :=
  [0xd0, 0x02, 0xa1, 0xa0, ovFlagsHf0Last, 0x00, 0x00, 0x05]

/-- The last packet is complete, but it is not reported. -/
theorem lastPacket_not_reported :
    Reachable (zeroed 8203) ∧
      frameDecoderReturn
          (frameDecoderProc recorder (zeroed 8203) [] lastPacket) =
        lastPacket.length ∧
      completed (zeroed 8203) lastPacket =
        [⟨0xa0, ovFlagsHf0Last, 0, 5, []⟩] ∧
      reported (zeroed 8203) lastPacket = [] := by
  refine ⟨.init _ _ 8203, ?_, ?_, ?_⟩ <;> decide +kernel

end OpenVizsla.Decoder.Promptness
