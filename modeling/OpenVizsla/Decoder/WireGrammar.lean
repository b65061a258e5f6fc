import Mathlib
import OpenVizsla.Foundation.Delay
import OpenVizsla.Decoder.Callbacks

/-!
# The wire grammar

The byte stream of the device as a grammar, without a decoder.  On the outer
level it is a sequence of bus frames and SDRAM frames; on the inner level the
payload of the SDRAM frames is a sequence of packet records and fillers.  The
two levels do not have to be aligned.

`Wire.slots` lists what a stream completes: a tick for each payload byte, with
the packet whose last byte it is, and a signal for each complete bus frame.
-/

namespace OpenVizsla.Decoder.WireGrammar

open OpenVizsla.Foundation.Delay
open OpenVizsla.Decoder.Packet
open OpenVizsla.Decoder.Callbacks

/-! ## Records -/

/-- The size of the data of a record. -/
def capturedSize (flags : UInt8) (size : UInt16) : Nat :=
  if flags &&& ovFlagsHf0Trunc ≠ 0 then ovMaxPacketSize.toNat
  else size.toNat

/-- A packet record. -/
structure Record where
  magic : UInt8
  flags : UInt8
  size : UInt16
  delta : List UInt8
  data : List UInt8
  magic_mem : magic = 0xa0 ∨ magic = 0xa2
  size_le : size.toNat ≤ maxDeclaredSize
  delta_pos : 1 ≤ delta.length
  delta_le : delta.length ≤ 8
  data_length : data.length = capturedSize flags size

/-- The number that the timestamp bytes stand for. -/
def littleEndian (bytes : List UInt8) : Nat :=
  Nat.ofDigits 256 (bytes.map UInt8.toNat)

namespace Record

/-- The bits 8 to 12 of the size, below the number of further delta bytes. -/
def lengthHi (record : Record) : UInt8 :=
  (UInt8.ofNat (record.delta.length - 1) <<< 5) |||
    (record.size >>> 8).toUInt8

/-- The bytes of a record. -/
def encode (record : Record) : List UInt8 :=
  [record.magic, record.flags, record.size.toUInt8, record.lengthHi] ++
    record.delta ++ record.data

/-- The packet that a record stands for, `elapsed` ticks after the start. -/
def packet (record : Record) (elapsed : Nat) : OvPacket where
  magic := record.magic
  flags := record.flags
  size := record.size
  timestamp := UInt64.ofNat (elapsed + littleEndian record.delta)
  data := record.data

end Record

/-- What the payload consists of. -/
inductive Item where
  | filler
  | record (entry : Record)

/-- The bytes of an item. -/
def Item.encode : Item → List UInt8
  | .filler => [0xa1]
  | .record entry => entry.encode

/-- The bytes of a record, the last of which completes the packet. -/
def markLast (packet : OvPacket) :
    List UInt8 → List (UInt8 × Option OvPacket)
  | [] => []
  | [byte] => [(byte, some packet)]
  | byte :: second :: rest => (byte, none) :: markLast packet (second :: rest)

/--
The bytes of the items, each with the packet that it completes.  `elapsed` is
the sum of the deltas of the records before.
-/
def annotate (elapsed : Nat) :
    List Item → List (UInt8 × Option OvPacket)
  | [] => []
  | .filler :: rest => (0xa1, none) :: annotate elapsed rest
  | .record entry :: rest =>
      markLast (entry.packet elapsed) entry.encode ++
        annotate (elapsed + littleEndian entry.delta) rest

theorem markLast_bytes (packet : OvPacket) (bytes : List UInt8) :
    (markLast packet bytes).map Prod.fst = bytes := by
  fun_induction markLast packet bytes with
  | case1 => rfl
  | case2 byte => rfl
  | case3 byte second rest ih => rw [List.map_cons, ih]

/-- Annotating does not change the bytes. -/
theorem annotate_bytes (elapsed : Nat) (items : List Item) :
    (annotate elapsed items).map Prod.fst = items.flatMap Item.encode := by
  fun_induction annotate elapsed items with
  | case1 elapsed => rfl
  | case2 elapsed rest ih => simp [Item.encode, ih]
  | case3 elapsed entry rest ih =>
      rw [List.map_append, markLast_bytes, ih]
      rfl

/-! ## Frames -/

/-- A frame. -/
inductive Frame where
  | bus (addrHi addrLo value checksum : UInt8)
  | sdram (n : UInt8) (payload : List UInt8)
      (length : payload.length = 2 * (n.toNat + 1))

/-- The address of a bus frame. -/
def busAddr (addrHi addrLo : UInt8) : UInt16 :=
  UInt16.ofNat (addrHi.toNat * 256 + addrLo.toNat)

namespace Frame

/-- The bytes of a frame. -/
def encode : Frame → List UInt8
  | .bus addrHi addrLo value checksum =>
      [0x55, addrHi, addrLo, value, checksum]
  | .sdram n payload _ => 0xd0 :: n :: payload

/-- The payload of a frame. -/
def payload : Frame → List UInt8
  | .bus _ _ _ _ => []
  | .sdram _ payload _ => payload

end Frame

/-- What is left of the last frame when the stream ends inside it. -/
inductive Cut where
  | nothing
  | bus (bytes : List UInt8) (short : bytes.length < 4)
  | sdramMagic
  | sdram (n : UInt8) (payload : List UInt8)
      (short : payload.length < 2 * (n.toNat + 1))

namespace Cut

/-- The bytes of the cut frame. -/
def encode : Cut → List UInt8
  | .nothing => []
  | .bus bytes _ => 0x55 :: bytes
  | .sdramMagic => [0xd0]
  | .sdram n payload _ => 0xd0 :: n :: payload

/-- The payload of the cut frame. -/
def payload : Cut → List UInt8
  | .sdram _ payload _ => payload
  | _ => []

end Cut

/-- A byte stream of the device. -/
structure Wire where
  frames : List Frame
  cut : Cut

namespace Wire

/-- The bytes of the stream. -/
def encode (wire : Wire) : List UInt8 :=
  wire.frames.flatMap Frame.encode ++ wire.cut.encode

/-- The concatenation of the SDRAM payloads. -/
def payload (wire : Wire) : List UInt8 :=
  wire.frames.flatMap Frame.payload ++ wire.cut.payload

/-- The payload consists of `items`, and it may end inside the last one. -/
def Carries (wire : Wire) (items : List Item) : Prop :=
  wire.payload <+: items.flatMap Item.encode

end Wire

/-! ## What a stream completes -/

/-- A packet and the frame of a bus access. -/
abbrev WireSlot := Slot OvPacket (UInt16 × UInt8)

/-- The ticks of a part of the payload. -/
def ticks (completions : List (Option OvPacket)) : List WireSlot :=
  completions.map .tick

/-- The slots of frames whose payload makes the given completions. -/
def frameSlots :
    List Frame → List (Option OvPacket) → List WireSlot
  | [], _ => []
  | .bus addrHi addrLo value _ :: rest, completions =>
      .signal (busAddr addrHi addrLo, value) ::
        frameSlots rest completions
  | .sdram _ payload _ :: rest, completions =>
      ticks (completions.take payload.length) ++
        frameSlots rest (completions.drop payload.length)

/-- The slots of a stream that carries `items`, in stream order. -/
def Wire.slots (wire : Wire) (items : List Item) : List WireSlot :=
  let completions := (annotate 0 items).map Prod.snd
  let before := (wire.frames.flatMap Frame.payload).length
  frameSlots wire.frames completions ++
    ticks ((completions.drop before).take wire.cut.payload.length)

/-- A callback as a report, without the unused part of the buffer. -/
def report : Callback → OvPacket ⊕ (UInt16 × UInt8)
  | .packet complete => .inl complete.captured
  | .busFrame addr value => .inr (addr, value)

/-- The packet has no data. -/
def hasNoData (packet : OvPacket) : Bool :=
  ovPacketCapturedSize packet = 0

end OpenVizsla.Decoder.WireGrammar
