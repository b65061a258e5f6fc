import OpenVizsla.Decoder.WireCut
import OpenVizsla.Capture.Delivery

/-!
# The packets of a stream

The packet records that a stream carries, and what the decoder reports of
them.  It reports the first ones, in order.  At the end of the stream, a
record without data may be left over.
-/

namespace OpenVizsla.Decoder.WirePackets

open OpenVizsla.Foundation.Delay
open OpenVizsla.Decoder.Packet
open OpenVizsla.Decoder.FrameProc
open OpenVizsla.Decoder.Invariant
open OpenVizsla.Decoder.Callbacks
open OpenVizsla.Decoder.WireGrammar
open OpenVizsla.Decoder.WireDecoding
open OpenVizsla.Decoder.WireCut
open OpenVizsla.Capture.Delivery

/-- The packets that items stand for, `elapsed` ticks after the start. -/
def itemPackets (elapsed : Nat) : List Item → List OvPacket
  | [] => []
  | .filler :: rest => itemPackets elapsed rest
  | .record entry :: rest =>
      entry.packet elapsed ::
        itemPackets (elapsed + littleEndian entry.delta) rest

/-! ## Completions -/

theorem completions_markLast (packet : OvPacket) {bytes : List UInt8}
    (nonempty : bytes ≠ []) :
    (markLast packet bytes).filterMap Prod.snd = [packet] := by
  fun_induction markLast packet bytes with
  | case1 => exact absurd rfl nonempty
  | case2 byte => rfl
  | case3 byte second rest ih =>
      rw [List.filterMap_cons]
      exact ih (List.cons_ne_nil _ _)

theorem completions_annotate (elapsed : Nat) (items : List Item) :
    (annotate elapsed items).filterMap Prod.snd =
      itemPackets elapsed items := by
  fun_induction annotate elapsed items with
  | case1 elapsed => rfl
  | case2 elapsed rest ih =>
      rw [List.filterMap_cons, itemPackets]
      exact ih
  | case3 elapsed entry rest ih =>
      have nonempty : entry.encode ≠ [] := by simp [Record.encode]
      rw [List.filterMap_append, completions_markLast _ nonempty, ih,
        itemPackets]
      rfl

theorem completed_ticks (completions : List (Option OvPacket)) :
    (ticks completions).filterMap Slot.completed =
      completions.filterMap id := by
  rw [ticks, List.filterMap_map]
  rfl

theorem completed_frameSlots (frames : List Frame)
    (completions : List (Option OvPacket)) :
    (frameSlots frames completions).filterMap Slot.completed =
      (completions.take (frames.flatMap Frame.payload).length).filterMap
        id := by
  fun_induction frameSlots frames completions with
  | case1 completions => rfl
  | case2 addrHi addrLo value checksum rest completions ih =>
      rw [List.filterMap_cons, List.flatMap_cons]
      exact ih
  | case3 n payload length rest completions ih =>
      rw [List.filterMap_append, completed_ticks, ih, ← List.filterMap_append,
        List.flatMap_cons, List.length_append, List.take_add]
      rfl

/-- A stream completes as many records as its payload has room for. -/
theorem completed_slots (wire : Wire) (items : List Item) :
    (wire.slots items).filterMap Slot.completed =
      ((annotate 0 items).take wire.payload.length).filterMap Prod.snd := by
  rw [Wire.slots, List.filterMap_append, completed_frameSlots,
    completed_ticks, ← List.filterMap_append, ← List.take_add, Wire.payload,
    ← List.length_append, ← List.map_take, List.filterMap_map]
  rfl

theorem completed_isPrefix (wire : Wire) (items : List Item) :
    (wire.slots items).filterMap Slot.completed <+: itemPackets 0 items := by
  rw [completed_slots, ← completions_annotate]
  exact (List.take_prefix _ _).filterMap _

/-- A payload that has room for all items completes them all. -/
theorem completed_whole {wire : Wire} {items : List Item}
    (complete : wire.payload = items.flatMap Item.encode) :
    (wire.slots items).filterMap Slot.completed = itemPackets 0 items := by
  have room : (annotate 0 items).length ≤ wire.payload.length := by
    rw [complete, ← annotate_bytes 0 items, List.length_map]
  rw [completed_slots, List.take_of_length_le room, completions_annotate]

/-! ## Reports -/

theorem captured_packets (calls : List Callback) :
    (packets calls).map OvPacket.captured =
      (calls.map report).filterMap Sum.getLeft? := by
  induction calls with
  | nil => rfl
  | cons call rest ih =>
      cases call with
      | packet complete =>
          rw [List.map_cons, List.filterMap_cons, ← ih]
          rfl
      | busFrame addr value =>
          rw [List.map_cons, List.filterMap_cons, ← ih]
          rfl

section Stream

variable {wire : Wire} {items : List Item} (memory : FrameDecoder)
    (packet : OvPacket) (size : Nat)

/-- What is reported, and the record without data that may be left over. -/
theorem reported_wire (carries : wire.Carries items) :
    ∃ left : Option OvPacket, (∀ last ∈ left, hasNoData last = true) ∧
      (packets (callbacks (frameDecoderInit memory packet size)
          wire.encode)).map OvPacket.captured ++ left.toList =
        (wire.slots items).filterMap Slot.completed := by
  obtain ⟨next, calls, run, reports⟩ :=
    frameBytes_wire memory packet size carries
  have values := late_values hasNoData none (wire.slots items)
  rw [← reports, ← captured_packets, Option.toList_none, List.nil_append]
    at values
  rw [callbacks_of_frameBytes (splitting_init memory packet size) run]
  refine ⟨_, fun last member => ?_, values⟩
  exact keeps_of_mem_waits (fun value absent => by cases absent)
    (wire.slots items) member

/-- The packets are those of the first records. -/
theorem packets_wire (carries : wire.Carries items) {bytes : List UInt8}
    (sent : bytes <+: wire.encode) :
    (packets (callbacks (frameDecoderInit memory packet size) bytes)).map
        OvPacket.captured <+: itemPackets 0 items := by
  obtain ⟨short, cutOf⟩ := exists_cutOf sent
  obtain ⟨left, -, whole⟩ :=
    reported_wire memory packet size (cutOf.carries carries)
  rw [← cutOf.encode]
  refine List.IsPrefix.trans ?_ (completed_isPrefix short items)
  rw [← whole]
  exact List.prefix_append _ _

/-- All records are reported but for one without data at the end. -/
theorem packets_whole (carries : wire.Carries items)
    (complete : wire.payload = items.flatMap Item.encode) :
    ∃ left : Option OvPacket, (∀ last ∈ left, hasNoData last = true) ∧
      (packets (callbacks (frameDecoderInit memory packet size)
          wire.encode)).map OvPacket.captured ++ left.toList =
        itemPackets 0 items := by
  obtain ⟨left, none', whole⟩ := reported_wire memory packet size carries
  exact ⟨left, none', whole.trans (completed_whole complete)⟩

end Stream

end OpenVizsla.Decoder.WirePackets
