import OpenVizsla.Decoder.PacketProc

/-!
# The frame decoder

The outer decoder of `decoder.c`.  It splits the byte stream of the device
into bus frames and SDRAM frames and passes the payload of the latter to the
packet decoder.

The remaining length of an SDRAM frame and the address of a bus frame share
their storage in the C structure; here both are the field `word`.
-/

namespace OpenVizsla.Decoder.FrameProc

open OpenVizsla.Foundation.Integers
open OpenVizsla.Foundation.Streaming
open OpenVizsla.Decoder.Packet
open OpenVizsla.Decoder.PacketProc

/-- `enum frame_decoder_state` -/
inductive FrameDecoderState where
  | needFrameMagic
  | needSdramFrameLength
  | needSdramFrameData
  | needBusFrameAddrHi
  | needBusFrameAddrLo
  | needBusFrameValue
  | needBusFrameChecksum
deriving DecidableEq, Repr

/--
`struct frame_decoder`.  `word` is `sdram.required_length` and `bus.addr`.
-/
structure FrameDecoder where
  pd : PacketDecoder
  state : FrameDecoderState
  word : UInt16
  value : UInt8
  checksum : UInt8
deriving DecidableEq, Repr

/-- The union keeps whatever was in `memory`. -/
def frameDecoderInit (memory : FrameDecoder) (packet : OvPacket)
    (size : Nat) : FrameDecoder :=
  { memory with
    pd := packetDecoderInit packet size
    state := .needFrameMagic }

/-- A decoder in zeroed memory, with an empty buffer of `size` bytes. -/
def zeroed (size : Nat) : FrameDecoder :=
  let packet : OvPacket := ⟨0, 0, 0, 0, []⟩
  frameDecoderInit
    { pd := packetDecoderInit packet 0
      state := .needFrameMagic
      word := 0
      value := 0
      checksum := 0 } packet size

/-- The call of the client when a bus frame is complete. -/
def reportBusFrame (ops : DecoderOps σ) (addr : UInt16) (value : UInt8)
    (user : σ) : σ :=
  match ops.busFrame with
  | some callback => callback user addr value
  | none => user

/-- The cases of the `switch` that take one byte. -/
def frameHeaderByte (ops : DecoderOps σ) (fd : FrameDecoder) (user : σ)
    (byte : UInt8) : Except FrameDecoder (FrameDecoder × σ) :=
  match fd.state with
  | .needFrameMagic =>
      if byte = 0x55 then
        .ok ({ fd with state := .needBusFrameAddrHi }, user)
      else if byte = 0xd0 then
        .ok ({ fd with state := .needSdramFrameLength }, user)
      else
        .error { fd with
          pd := { fd.pd with errorStr := some "Wrong frame magic" } }
  | .needSdramFrameLength =>
      .ok ({ fd with
        word := (byte.toUInt16 + 1) * 2
        state := .needSdramFrameData }, user)
  | .needSdramFrameData =>
      -- not a header state: the loop handles it
      .ok (fd, user)
  | .needBusFrameAddrHi =>
      .ok ({ fd with
        word := byte.toUInt16 <<< 8
        state := .needBusFrameAddrLo }, user)
  | .needBusFrameAddrLo =>
      .ok ({ fd with
        word := fd.word ||| byte.toUInt16
        state := .needBusFrameValue }, user)
  | .needBusFrameValue =>
      .ok ({ fd with
        value := byte
        state := .needBusFrameChecksum }, user)
  | .needBusFrameChecksum =>
      .ok ({ fd with
        checksum := byte
        state := .needFrameMagic },
        reportBusFrame ops fd.word fd.value user)

/-- The payload that the packet decoder gets to see in one call. -/
def payloadOf (fd : FrameDecoder) (input : List UInt8) : List UInt8 :=
  input.take (min fd.word.toNat input.length)

/-- The frame after the packet decoder has consumed `count` payload bytes. -/
def consumePayload (fd : FrameDecoder) (pd : PacketDecoder) (count : Nat) :
    FrameDecoder :=
  { fd with
    pd := pd
    word := fd.word - UInt16.ofNat count
    state :=
      if fd.word - UInt16.ofNat count = 0 then .needFrameMagic
      else fd.state }

/--
An iteration either consumes a byte, or it closes a packet without data, or it
closes a frame of length zero.
-/
def remainingWork (fd : FrameDecoder) (input : List UInt8) : Nat :=
  4 * input.length +
    2 * (if fd.pd.state = .needPacketData then 1 else 0) +
    (if fd.state = .needSdramFrameData then 1 else 0)

theorem remainingWork_of_shorter {fd next : FrameDecoder}
    {input rest : List UInt8} (shorter : rest.length < input.length) :
    remainingWork next rest < remainingWork fd input := by
  unfold remainingWork
  split <;> split <;> split <;> split <;> omega

theorem remainingWork_consumePayload
    (ops : DecoderOps σ) {fd : FrameDecoder} (user : σ)
    {byte : UInt8} {rest : List UInt8} {count : Nat}
    (data : fd.state = .needSdramFrameData)
    (consumed :
      (packetDecoderProc ops fd.pd user
        (payloadOf fd (byte :: rest))).consumed = some count) :
    remainingWork
        (consumePayload fd
          (packetDecoderProc ops fd.pd user
            (payloadOf fd (byte :: rest))).processor count)
        ((byte :: rest).drop count) <
      remainingWork fd (byte :: rest) := by
  rcases Nat.eq_zero_or_pos count with rfl | positive
  · cases payload : payloadOf fd (byte :: rest) with
    | nil =>
        have closed : fd.word = 0 := by
          simp only [payloadOf, List.take_eq_nil_iff, List.length_cons,
            reduceCtorEq, or_false] at payload
          exact UInt16.toNat_inj.mp (by simp; omega)
        simp [remainingWork, consumePayload, packetDecoderProc, Outcome.idle,
          closed, data]
    | cons head tail =>
        rw [payload] at consumed
        obtain ⟨packetData, required⟩ :=
          packetDecoderProc_consumed_zero ops fd.pd user head tail consumed
        rw [packetDecoderProc_of_required_zero ops user head tail
          packetData required]
        simp only [remainingWork, consumePayload, restart, packetData, data,
          List.drop_zero, reduceCtorEq, if_true, if_false]
        split <;> simp only [reduceCtorEq, if_true, if_false] <;> omega
  · apply remainingWork_of_shorter
    simp only [List.length_drop, List.length_cons]
    omega

/-- `frame_decoder_proc`, on the bytes from `buf` to `end`. -/
def frameDecoderProc (ops : DecoderOps σ) (fd : FrameDecoder) (user : σ)
    (input : List UInt8) : Outcome FrameDecoder σ Copy :=
  match input with
  | [] => .idle fd user
  | byte :: rest =>
      if _data : fd.state = .needSdramFrameData then
        let inner :=
          packetDecoderProc ops fd.pd user (payloadOf fd (byte :: rest))
        match _consumed : inner.consumed with
        | none => ⟨{ fd with pd := inner.processor }, inner.user, inner.log,
            none⟩
        | some count =>
            (frameDecoderProc ops (consumePayload fd inner.processor count)
              inner.user ((byte :: rest).drop count)).after count inner.log
      else
        match frameHeaderByte ops fd user byte with
        | .error fd => ⟨fd, user, [], none⟩
        | .ok (next, user) =>
            (frameDecoderProc ops next user rest).after 1 []
termination_by remainingWork fd input
decreasing_by
  · exact remainingWork_consumePayload ops user _data _consumed
  · exact remainingWork_of_shorter (by simp)

/-- A call that starts with a byte of a frame header. -/
theorem frameDecoderProc_of_header (ops : DecoderOps σ)
    {fd next : FrameDecoder} {user user' : σ} {byte : UInt8}
    (rest : List UInt8) (header : fd.state ≠ .needSdramFrameData)
    (accepted : frameHeaderByte ops fd user byte = .ok (next, user')) :
    frameDecoderProc ops fd user (byte :: rest) =
      (frameDecoderProc ops next user' rest).after 1 [] := by
  rw [frameDecoderProc]
  simp [header, accepted]

/-- A call that starts inside an SDRAM frame. -/
theorem frameDecoderProc_of_data (ops : DecoderOps σ) {fd : FrameDecoder}
    (user : σ) {input : List UInt8} {count : Nat} (nonempty : input ≠ [])
    (data : fd.state = .needSdramFrameData)
    (consumed : (packetDecoderProc ops fd.pd user
      (payloadOf fd input)).consumed = some count) :
    frameDecoderProc ops fd user input =
      (frameDecoderProc ops
        (consumePayload fd (packetDecoderProc ops fd.pd user
          (payloadOf fd input)).processor count)
        (packetDecoderProc ops fd.pd user (payloadOf fd input)).user
        (input.drop count)).after count
          (packetDecoderProc ops fd.pd user (payloadOf fd input)).log := by
  obtain ⟨byte, rest, rfl⟩ := List.exists_cons_of_ne_nil nonempty
  rw [frameDecoderProc]
  simp only [data, dif_pos]
  split
  · rename_i failed
    rw [consumed] at failed
    cases failed
  · rename_i other same
    rw [consumed] at same
    cases same
    rfl

/-- The value of type `int` that `frame_decoder_proc` returns. -/
def frameDecoderReturn (outcome : Outcome FrameDecoder σ Copy) : Int :=
  match outcome.consumed with
  | none => -1
  | some count => toInt count

end OpenVizsla.Decoder.FrameProc
