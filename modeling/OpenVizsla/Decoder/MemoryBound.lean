import OpenVizsla.Foundation.Runs
import OpenVizsla.Decoder.Callbacks

/-!
# The packet buffer

The packet decoder copies data behind the header in the buffer of the caller.
It never copies more than the header announces, but it does not compare the
announced size with the size of the buffer either: the source has a `FIXME` at
the place of the missing check.

A buffer is therefore safe for every stream exactly if it has room for the
largest 13-bit size.  A smaller one is safe on the streams whose headers it has
room for, and exactly on those that bring no record more bytes than it can
take.
-/

namespace OpenVizsla.Decoder.MemoryBound

open OpenVizsla.Foundation.Runs
open OpenVizsla.Foundation.Streaming
open OpenVizsla.Foundation.Integers
open OpenVizsla.Decoder.Packet
open OpenVizsla.Decoder.PacketProc
open OpenVizsla.Decoder.FrameProc
open OpenVizsla.Decoder.Invariant
open OpenVizsla.Decoder.Callbacks

variable {σ : Type*}

/-- The copy stays inside the buffer. -/
def InBounds (copy : Copy) : Prop :=
  sizeofOvPacket + copy.offset + copy.length ≤ copy.bufLength

instance (copy : Copy) : Decidable (InBounds copy) :=
  inferInstanceAs (Decidable (_ ≤ _))

/--
The copies of successive calls of `frame_decoder_proc`, one for each piece of
the stream.  A failed call does not end the sequence.
-/
def copies (ops : DecoderOps σ) (fd : FrameDecoder) (user : σ) :
    List (List UInt8) → List Copy
  | [] => []
  | piece :: rest =>
      (frameDecoderProc ops fd user piece).log ++
        copies ops (frameDecoderProc ops fd user piece).processor
          (frameDecoderProc ops fd user piece).user rest

/-! ## Copies end within the captured size -/

/-- What is known about a copy into a buffer of length `bufLength`. -/
structure WithinCaptured (bufLength : Nat) (copy : Copy) : Prop where
  inside : copy.offset + copy.length ≤ copy.captured
  declared : copy.captured ≤ maxDeclaredSize
  buffer : copy.bufLength = bufLength

theorem withinCaptured_copyOf {pd : PacketDecoder} {length : Nat}
    (assembling : Assembling pd) (data : pd.state = .needPacketData)
    (fits : length ≤ requiredLength pd) :
    WithinCaptured pd.bufLength (copyOf pd length) := by
  have copied := assembling.copied data
  rw [requiredLength_eq assembling data] at fits
  refine ⟨?_, ovPacketCapturedSize_le (assembling.declared (.inr data)), rfl⟩
  simp only [copyOf]
  omega

/-- The decoder never changes the length of its buffer. -/
theorem bufLength_packetDecoderProc (ops : DecoderOps σ) (pd : PacketDecoder)
    (user : σ) (input : List UInt8) :
    (packetDecoderProc ops pd user input).processor.bufLength =
      pd.bufLength := by
  induction input generalizing pd with
  | nil => rfl
  | cons byte rest ih =>
      simp only [packetDecoderProc, packetDataBytes]
      split
      · split <;> rfl
      · cases header : packetHeaderByte pd byte with
        | error failed => rw [packetHeaderByte_error header]
        | ok next =>
            exact (ih next).trans (buffer_packetHeaderByte header).1

/-- The copies of one call of the packet decoder. -/
theorem withinCaptured_packetDecoderProc
    (ops : DecoderOps σ) {pd : PacketDecoder} (user : σ)
    (input : List UInt8) (assembling : Assembling pd) :
    ∀ copy ∈ (packetDecoderProc ops pd user input).log,
      WithinCaptured pd.bufLength copy := by
  induction input generalizing pd with
  | nil => simp [packetDecoderProc, Outcome.idle]
  | cons byte rest ih =>
      intro copy member
      simp only [packetDecoderProc, packetDataBytes] at member
      split at member
      · rename_i data
        split at member <;>
        · rw [List.mem_singleton] at member
          subst member
          exact withinCaptured_copyOf assembling data (Nat.min_le_left _ _)
      · cases header : packetHeaderByte pd byte with
        | error failed => simp [header] at member
        | ok next =>
            simp only [header, Outcome.after_log, List.nil_append] at member
            rw [← (buffer_packetHeaderByte header).1]
            exact ih (assembling_packetHeaderByte assembling header) copy
              member

/-- The copies of one call of the frame decoder. -/
theorem withinCaptured_frameDecoderProc
    (ops : DecoderOps σ) (fd : FrameDecoder) (user : σ)
    (input : List UInt8) (splitting : Splitting fd) :
    (∀ copy ∈ (frameDecoderProc ops fd user input).log,
        WithinCaptured fd.pd.bufLength copy) ∧
      (frameDecoderProc ops fd user input).processor.pd.bufLength =
        fd.pd.bufLength := by
  fun_induction frameDecoderProc ops fd user input with
  | case1 fd user => exact ⟨by simp [Outcome.idle], rfl⟩
  | case2 fd user byte rest data inner failed =>
      exact ⟨withinCaptured_packetDecoderProc ops user _
          splitting.assembling,
        bufLength_packetDecoderProc ops fd.pd user _⟩
  | case3 fd user byte rest data inner count consumed ih =>
      have same := bufLength_packetDecoderProc ops fd.pd user
        (payloadOf fd (byte :: rest))
      obtain ⟨later, length⟩ := ih (splitting_consumePayload splitting
        (assembling_packetDecoderProc ops user _ splitting.assembling)
        data (payload_consumed_le ops fd user _ consumed).1)
      change ∀ copy ∈ _, WithinCaptured inner.processor.bufLength copy
        at later
      rw [same] at later
      refine ⟨fun copy member => ?_, length.trans same⟩
      rcases List.mem_append.mp member with now | after
      · exact withinCaptured_packetDecoderProc ops user _
          splitting.assembling copy now
      · exact later copy after
  | case4 fd user byte rest header failed rejected =>
      exact ⟨by simp, by rw [frameHeaderByte_error rejected]⟩
  | case5 fd user byte rest header next user' accepted ih =>
      have same := congrArg PacketDecoder.bufLength
        (pd_frameHeaderByte ops accepted)
      obtain ⟨later, length⟩ := ih (splitting_frameHeaderByte splitting
        accepted)
      rw [same] at later length
      exact ⟨by simpa using later, length⟩

/-- The copies of any sequence of calls. -/
theorem withinCaptured_copies (ops : DecoderOps σ) {fd : FrameDecoder}
    (user : σ) (pieces : List (List UInt8)) (splitting : Splitting fd) :
    ∀ copy ∈ copies ops fd user pieces,
      WithinCaptured fd.pd.bufLength copy := by
  induction pieces generalizing fd user with
  | nil => simp [copies]
  | cons piece rest ih =>
      obtain ⟨now, length⟩ :=
        withinCaptured_frameDecoderProc ops fd user piece splitting
      intro copy member
      rcases List.mem_append.mp member with current | later
      · exact now copy current
      · rw [← length]
        exact ih _ (splitting_frameDecoderProc ops fd user piece splitting)
          copy later

/-! ## Copies follow one another -/

/-- The bytes of its record that have arrived with a copy. -/
def arrived (copy : Copy) : Nat :=
  copy.offset + copy.length

/--
A copy behind `offset` bytes of the open record goes on there, and the next one
goes on behind it.  The copy that completes its record is followed by one at
the start of the data.
-/
def goOn (offset : Nat) (copy : Copy) : Option Nat :=
  if copy.offset ≠ offset then none
  else if arrived copy = copy.captured then some 0
  else some (arrived copy)

theorem goOn_copyOf {pd : PacketDecoder} (assembling : Assembling pd)
    (data : pd.state = .needPacketData) (length : Nat) :
    goOn pd.bufActualLength (copyOf pd length) =
      some (if requiredLength pd = length then 0
        else pd.bufActualLength + length) := by
  have copied := assembling.copied data
  have same : (copyOf pd length).offset = pd.bufActualLength := rfl
  have full : arrived (copyOf pd length) = (copyOf pd length).captured ↔
      requiredLength pd = length := by
    rw [requiredLength_eq assembling data]
    simp only [arrived, copyOf]
    omega
  rw [goOn, if_neg (not_not.mpr same)]
  simp only [full]
  split <;> rfl

theorem run_goOn_packetDecoderProc (ops : DecoderOps σ) {pd : PacketDecoder}
    (user : σ) (input : List UInt8) (assembling : Assembling pd) :
    run goOn pd.bufActualLength (packetDecoderProc ops pd user input).log =
      some (packetDecoderProc ops pd user input).processor.bufActualLength := by
  induction input generalizing pd with
  | nil => rfl
  | cons byte rest ih =>
      simp only [packetDecoderProc, packetDataBytes]
      split
      · rename_i data
        split <;> rename_i whole
        · simp [goOn_copyOf assembling data, ← whole, restart]
        · simp [goOn_copyOf assembling data, whole, copyData]
      · cases header : packetHeaderByte pd byte with
        | error failed => simp [packetHeaderByte_error header]
        | ok next =>
            rw [← (buffer_packetHeaderByte header).2.1]
            simpa using ih (assembling_packetHeaderByte assembling header)

theorem run_goOn_frameDecoderProc (ops : DecoderOps σ) (fd : FrameDecoder)
    (user : σ) (input : List UInt8) (splitting : Splitting fd) :
    run goOn fd.pd.bufActualLength (frameDecoderProc ops fd user input).log =
      some
        (frameDecoderProc ops fd user input).processor.pd.bufActualLength := by
  fun_induction frameDecoderProc ops fd user input with
  | case1 fd user => rfl
  | case2 fd user byte rest data inner failed =>
      exact run_goOn_packetDecoderProc ops user _ splitting.assembling
  | case3 fd user byte rest data inner count consumed ih =>
      have now := run_goOn_packetDecoderProc ops user
        (payloadOf fd (byte :: rest)) splitting.assembling
      have later := ih (splitting_consumePayload splitting
        (assembling_packetDecoderProc ops user _ splitting.assembling)
        data (payload_consumed_le ops fd user _ consumed).1)
      exact run_append_eq_some_iff.mpr ⟨_, now, later⟩
  | case4 fd user byte rest header failed rejected =>
      rw [frameHeaderByte_error rejected]
      rfl
  | case5 fd user byte rest header next user' accepted ih =>
      rw [← congrArg PacketDecoder.bufActualLength
        (pd_frameHeaderByte ops accepted)]
      simpa using ih (splitting_frameHeaderByte splitting accepted)

/-- The copies of any sequence of calls bring the records, one by one. -/
theorem exists_run_goOn_copies (ops : DecoderOps σ) {fd : FrameDecoder}
    (user : σ) (pieces : List (List UInt8)) (splitting : Splitting fd) :
    ∃ rest, run goOn fd.pd.bufActualLength (copies ops fd user pieces) =
      some rest := by
  induction pieces generalizing fd user with
  | nil => exact ⟨_, rfl⟩
  | cons piece pieces ih =>
      have now := run_goOn_frameDecoderProc ops fd user piece splitting
      obtain ⟨rest, later⟩ :=
        ih (frameDecoderProc ops fd user piece).user
          (splitting_frameDecoderProc ops fd user piece splitting)
      exact ⟨rest, run_append_eq_some_iff.mpr ⟨_, now, later⟩⟩

/-! ## A stream that needs all of the buffer -/

/-- An SDRAM frame that the packet decoder consumes in one call. -/
theorem frameDecoderProc_sdramFrame (ops : DecoderOps σ) (fd : FrameDecoder)
    (user : σ) (n : UInt8) (payload : List UInt8)
    (start : fd.state = .needFrameMagic)
    (length : payload.length = 2 * (n.toNat + 1))
    (consumed : (packetDecoderProc ops fd.pd user payload).consumed =
      some payload.length) :
    (frameDecoderProc ops fd user (0xd0 :: n :: payload)).log =
        (packetDecoderProc ops fd.pd user payload).log ∧
      (frameDecoderProc ops fd user (0xd0 :: n :: payload)).processor.pd =
        (packetDecoderProc ops fd.pd user payload).processor ∧
      (frameDecoderProc ops fd user
        (0xd0 :: n :: payload)).processor.state = .needFrameMagic := by
  have word := sdramLength_toNat n
  have nonempty : payload ≠ [] := by
    rintro rfl
    simp at length
  have inside : frameDecoderProc ops fd user (0xd0 :: n :: payload) =
      ((frameDecoderProc ops
        { fd with
          word := (n.toUInt16 + 1) * 2
          state := .needSdramFrameData } user payload).after 1 []).after 1
            [] := by
    rw [frameDecoderProc_of_header ops _ (by simp [start])
        (by rw [frameHeaderByte, start]; rfl),
      frameDecoderProc_of_header ops _ (by simp) rfl]
  have whole : payloadOf { fd with
      word := (n.toUInt16 + 1) * 2
      state := .needSdramFrameData } payload = payload := by
    simp only [payloadOf, word, length, Nat.min_self]
    exact List.take_of_length_le (Nat.le_of_eq length)
  have closed : (n.toUInt16 + 1) * 2 - UInt16.ofNat payload.length = 0 := by
    apply UInt16.toNat_inj.mp
    rw [toNat_word_sub (by omega), word, length]
    simp
  rw [inside, frameDecoderProc_of_data ops user nonempty rfl
    (by rw [whole]; exact consumed), whole, List.drop_length,
    frameDecoderProc]
  simp [Outcome.idle, consumePayload, closed]

/-- The header of a record of the largest size, and one byte of its data. -/
def largestHeader : List UInt8 :=
  [0xd0, 0x02, 0xa0, 0x00, 0xff, 0x1f, 0x00, 0x00]

/-- An SDRAM frame with two bytes of data. -/
def twoBytes : List UInt8 :=
  [0xd0, 0x00, 0x00, 0x00]

/-- Between two frames, with `copied` bytes of a record of the largest size. -/
structure Receiving (bufLength copied : Nat) (fd : FrameDecoder) : Prop where
  frame : fd.state = .needFrameMagic
  data : fd.pd.state = .needPacketData
  captured : (ovPacketCapturedSize fd.pd.packet).toNat = maxDeclaredSize
  copied : fd.pd.bufActualLength = copied
  buffer : fd.pd.bufLength = bufLength

/-- A call of the packet decoder on two bytes of data. -/
theorem packetDecoderProc_twoBytes (ops : DecoderOps σ) {fd : FrameDecoder}
    (user : σ) {bufLength copied : Nat}
    (receiving : Receiving bufLength copied fd)
    (more : copied + 2 ≤ maxDeclaredSize) :
    (packetDecoderProc ops fd.pd user [0, 0]).consumed = some 2 ∧
      (packetDecoderProc ops fd.pd user [0, 0]).log = [copyOf fd.pd 2] ∧
      (copied + 2 < maxDeclaredSize →
        (packetDecoderProc ops fd.pd user [0, 0]).processor =
          copyData fd.pd [0, 0]) := by
  have required : requiredLength fd.pd = maxDeclaredSize - copied := by
    rw [requiredLength, receiving.captured, receiving.copied]
    exact sizeSub_of_le (by omega)
  have both : min (requiredLength fd.pd) 2 = 2 := by omega
  by_cases last : requiredLength fd.pd = 2
  · have full : ¬ copied + 2 < maxDeclaredSize := by omega
    simp [packetDecoderProc, packetDataBytes, receiving.data, last, full]
  · simp [packetDecoderProc, packetDataBytes, receiving.data, both, last]

/-- What the header leaves in the packet decoder. -/
theorem packetDecoderProc_largestHeader (ops : DecoderOps σ)
    (packet : OvPacket) (size : Nat) (user : σ) :
    ∃ opened,
      packetDecoderProc ops (packetDecoderInit packet size) user
          [0xa0, 0x00, 0xff, 0x1f, 0x00, 0x00] =
        ⟨opened, user, [⟨0, 1, maxDeclaredSize, size⟩], some 6⟩ ∧
      opened.state = .needPacketData ∧
      (ovPacketCapturedSize opened.packet).toNat = maxDeclaredSize ∧
      opened.bufActualLength = 1 ∧ opened.bufLength = size := by
  simp [packetDecoderInit, packetDecoderProc, packetDataBytes,
    packetHeaderByte, requiredLength, ovPacketCapturedSize, ovFlagsHf0Trunc,
    sizeSub, copyData, copyOf, maxDeclaredSize, Outcome.after]

theorem receiving_largestHeader (ops : DecoderOps σ) (memory : FrameDecoder)
    (packet : OvPacket) (size : Nat) (user : σ) :
    Receiving size 1
      (frameDecoderProc ops (frameDecoderInit memory packet size) user
        largestHeader).processor := by
  obtain ⟨opened, header, data, captured, copied, buffer⟩ :=
    packetDecoderProc_largestHeader ops packet size user
  obtain ⟨-, pd, state⟩ := frameDecoderProc_sdramFrame ops
    (frameDecoderInit memory packet size) user 0x02
    [0xa0, 0x00, 0xff, 0x1f, 0x00, 0x00] rfl rfl
    (congrArg Outcome.consumed header)
  have same := pd.trans (congrArg Outcome.processor header)
  refine ⟨state, ?_, ?_, ?_, ?_⟩ <;> unfold largestHeader <;> rw [same]
  · exact data
  · exact captured
  · exact copied
  · exact buffer

theorem receiving_twoBytes (ops : DecoderOps σ) {fd : FrameDecoder}
    (user : σ) {bufLength copied : Nat}
    (receiving : Receiving bufLength copied fd)
    (more : copied + 2 < maxDeclaredSize) :
    Receiving bufLength (copied + 2)
      (frameDecoderProc ops fd user twoBytes).processor := by
  obtain ⟨consumed, -, processor⟩ :=
    packetDecoderProc_twoBytes ops user receiving (Nat.le_of_lt more)
  obtain ⟨-, pd, state⟩ := frameDecoderProc_sdramFrame ops fd user 0x00
    [0x00, 0x00] receiving.frame rfl consumed
  rw [processor more] at pd
  refine ⟨state, ?_, ?_, ?_, ?_⟩ <;> unfold twoBytes <;> rw [pd]
  · exact receiving.data
  · exact receiving.captured
  · simp [copyData, receiving.copied]
  · exact receiving.buffer

theorem log_twoBytes (ops : DecoderOps σ) {fd : FrameDecoder}
    (user : σ) {bufLength copied : Nat}
    (receiving : Receiving bufLength copied fd)
    (more : copied + 2 ≤ maxDeclaredSize) :
    (frameDecoderProc ops fd user twoBytes).log =
      [⟨copied, 2, maxDeclaredSize, bufLength⟩] := by
  obtain ⟨consumed, log, -⟩ :=
    packetDecoderProc_twoBytes ops user receiving more
  rw [twoBytes, (frameDecoderProc_sdramFrame ops fd user 0x00 [0x00, 0x00]
    receiving.frame rfl consumed).1, log, copyOf, receiving.captured,
    receiving.copied, receiving.buffer]

/-- Each frame copies its two bytes behind those of the frames before it. -/
theorem copy_mem_twoBytes (ops : DecoderOps σ) {fd : FrameDecoder} (user : σ)
    {bufLength copied : Nat} (receiving : Receiving bufLength copied fd)
    (frames : Nat) (fits : copied + 2 * frames + 2 ≤ maxDeclaredSize) :
    ⟨copied + 2 * frames, 2, maxDeclaredSize, bufLength⟩ ∈
      copies ops fd user (List.replicate (frames + 1) twoBytes) := by
  induction frames generalizing fd user copied with
  | zero => simp [copies, log_twoBytes ops user receiving (by omega)]
  | succ frames ih =>
      have offset : copied + 2 * (frames + 1) = copied + 2 + 2 * frames := by
        omega
      rw [List.replicate_succ, offset]
      apply List.mem_append_right
      exact ih _ (receiving_twoBytes ops user receiving (by omega))
        (by omega)

/-- The copies of a record of the largest size, in frames of two bytes. -/
theorem copy_mem_largest (ops : DecoderOps σ) (memory : FrameDecoder)
    (packet : OvPacket) (size : Nat) (user : σ) (frames : Nat)
    (fits : 2 * frames + 3 ≤ maxDeclaredSize) :
    ⟨2 * frames + 1, 2, maxDeclaredSize, size⟩ ∈
      copies ops (frameDecoderInit memory packet size) user
        (largestHeader :: List.replicate (frames + 1) twoBytes) := by
  have receiving := receiving_largestHeader ops memory packet size user
  rw [Nat.add_comm (2 * frames)]
  exact List.mem_append_right _
    (copy_mem_twoBytes ops _ receiving frames (by omega))

/-! ## The bound -/

/--
A buffer is safe for every stream if and only if it has room for a header and
the largest 13-bit size.  A smaller one is safe on a stream that does not
declare more than it has room for, and it is safe on a stream if and only if no
record of the stream gets more bytes than it has room for: the copies bring the
records one by one, and `arrived` counts the bytes of the open one.
-/
theorem copies_inBounds_iff (ops : DecoderOps σ) (memory : FrameDecoder)
    (packet : OvPacket) (size : Nat) (user : σ) :
    ((∀ pieces, ∀ copy ∈ copies ops (frameDecoderInit memory packet size)
          user pieces, InBounds copy) ↔
        sizeofOvPacket + maxDeclaredSize ≤ size) ∧
      (∀ pieces,
        (∀ copy ∈ copies ops (frameDecoderInit memory packet size)
          user pieces, sizeofOvPacket + copy.captured ≤ size) →
        ∀ copy ∈ copies ops (frameDecoderInit memory packet size)
          user pieces, InBounds copy) ∧
      ∀ pieces,
        (∃ rest, run goOn 0
          (copies ops (frameDecoderInit memory packet size) user pieces) =
            some rest) ∧
        ((∀ copy ∈ copies ops (frameDecoderInit memory packet size)
            user pieces, InBounds copy) ↔
          ∀ copy ∈ copies ops (frameDecoderInit memory packet size)
            user pieces, sizeofOvPacket + arrived copy ≤ size) := by
  have initial := splitting_init memory packet size
  have within (pieces : List (List UInt8)) :=
    withinCaptured_copies ops user pieces initial
  have exact (pieces : List (List UInt8)) (copy : Copy)
      (member : copy ∈ copies ops (frameDecoderInit memory packet size) user
        pieces) :
      InBounds copy ↔ sizeofOvPacket + arrived copy ≤ size := by
    have same : copy.bufLength = size := (within pieces copy member).buffer
    rw [InBounds, arrived, same, Nat.add_assoc]
  refine ⟨⟨fun safe => ?_, fun room pieces copy member => ?_⟩,
    fun pieces declared copy member => ?_,
    fun pieces => ⟨exists_run_goOn_copies ops user pieces initial,
      forall₂_congr (exact pieces)⟩⟩
  · have last (frames : Nat) (all : 2 * frames + 3 = maxDeclaredSize) :
        sizeofOvPacket + maxDeclaredSize ≤ size := by
      have copied := safe _ _ (copy_mem_largest ops memory packet size user
        frames (Nat.le_of_eq all))
      simp only [InBounds] at copied
      omega
    exact last 4094 (by decide)
  · have bound := within pieces copy member
    have inside := bound.inside
    have announced := bound.declared
    refine (exact pieces copy member).mpr ?_
    unfold arrived
    omega
  · have inside := (within pieces copy member).inside
    have announced := declared copy member
    refine (exact pieces copy member).mpr ?_
    unfold arrived
    omega

/-- The buffers of the tools, of 1024 bytes, are too small. -/
theorem copies_not_inBounds :
    ∃ copy ∈ copies recorder (zeroed 1024) []
        (largestHeader :: List.replicate 506 twoBytes),
      ¬ InBounds copy :=
  ⟨_, copy_mem_largest recorder _ _ 1024 [] 505 (by decide), by decide⟩

end OpenVizsla.Decoder.MemoryBound
