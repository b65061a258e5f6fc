import Mathlib

/-!
# Captured packets

A packet is a header of twelve bytes followed by a flexible array.  The array
is the buffer that the caller of the library provides; it is modelled by the
list of its bytes.  `copyInto` is the `memcpy` of the decoder.  It writes at
an offset and leaves every other byte alone; a write past the end lengthens
the list, so that the decoder has a value also where the C code has undefined
behaviour.  `MemoryBound` says when that happens.
-/

namespace OpenVizsla.Decoder.Packet

/-- `struct ov_packet`. -/
structure OvPacket where
  magic : UInt8
  flags : UInt8
  size : UInt16
  timestamp : UInt64
  data : List UInt8
deriving DecidableEq, Repr

/-- `sizeof(struct ov_packet)`: the structure is packed. -/
def sizeofOvPacket : Nat := 12

/-- `OV_FLAGS_HF0_TRUNC` -/
def ovFlagsHf0Trunc : UInt8 := 0x08

/-- `OV_FLAGS_HF0_LAST` -/
def ovFlagsHf0Last : UInt8 := 0x20

/-- `OV_MAX_PACKET_SIZE` -/
def ovMaxPacketSize : UInt16 := 1027

/-- The number of data bytes behind a header. -/
def ovPacketCapturedSize (packet : OvPacket) : UInt16 :=
  if packet.flags &&& ovFlagsHf0Trunc ≠ 0 then ovMaxPacketSize
  else packet.size

/-- The largest value of a 13-bit size. -/
def maxDeclaredSize : Nat := 8191

theorem ovPacketCapturedSize_le {packet : OvPacket}
    (declared : packet.size.toNat ≤ maxDeclaredSize) :
    (ovPacketCapturedSize packet).toNat ≤ maxDeclaredSize := by
  unfold ovPacketCapturedSize
  split
  · decide
  · exact declared

/-- The header and the captured bytes, without what the buffer holds beyond. -/
def OvPacket.captured (packet : OvPacket) : OvPacket :=
  { packet with
    data := packet.data.take (ovPacketCapturedSize packet).toNat }

/-! ## Writes into the buffer -/

/-- `memcpy(data + offset, bytes, length of bytes)` -/
def copyInto (data : List UInt8) (offset : Nat) (bytes : List UInt8) :
    List UInt8 :=
  data.take offset ++ bytes ++ data.drop (offset + bytes.length)

/-- Two consecutive writes are one. -/
theorem copyInto_copyInto (data : List UInt8) (offset : Nat)
    (first second : List UInt8) :
    copyInto (copyInto data offset first) (offset + first.length) second =
      copyInto data offset (first ++ second) := by
  unfold copyInto
  rcases Nat.le_total offset data.length with inside | outside
  · have written : (data.take offset ++ first).length =
        offset + first.length := by
      simp [Nat.min_eq_left inside]
    rw [← written, List.take_left, List.drop_length_add_append,
      List.drop_drop]
    simp [Nat.min_eq_left inside, Nat.add_assoc]
  · have whole : (data ++ first).length ≤ offset + first.length := by
      simp [outside]
    rw [List.take_of_length_le outside,
      List.drop_of_length_le (Nat.le_add_right_of_le outside),
      List.append_nil, List.take_of_length_le whole,
      List.drop_of_length_le (Nat.le_add_right_of_le whole),
      List.drop_of_length_le (Nat.le_add_right_of_le outside)]
    simp

/-- What is written can be read back behind what preceded it. -/
theorem take_copyInto {data : List UInt8} {offset : Nat}
    (inside : offset ≤ data.length) (bytes : List UInt8) :
    (copyInto data offset bytes).take (offset + bytes.length) =
      data.take offset ++ bytes := by
  have written : (data.take offset ++ bytes).length =
      offset + bytes.length := by
    simp [Nat.min_eq_left inside]
  unfold copyInto
  rw [← written, List.take_left]

end OpenVizsla.Decoder.Packet
