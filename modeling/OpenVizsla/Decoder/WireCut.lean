import OpenVizsla.Decoder.WireDecoding

/-!
# Beginnings of a stream

Every beginning of a stream of the grammar is a stream of the grammar, with
the frames that are complete in it.  So the decoder reports the bus frames
that are complete, each behind its last byte, and nothing in the payload of an
SDRAM frame makes it report one.
-/

namespace OpenVizsla.Decoder.WireCut

open OpenVizsla.Foundation.Delay
open OpenVizsla.Decoder.Packet
open OpenVizsla.Decoder.FrameProc
open OpenVizsla.Decoder.Invariant
open OpenVizsla.Decoder.Callbacks
open OpenVizsla.Decoder.WireGrammar
open OpenVizsla.Decoder.WireDecoding

/-! ## Cutting -/

/-- The beginning of a frame. -/
theorem exists_cut_of_frame (frame : Frame) {bytes : List UInt8}
    (beginning : bytes <+: frame.encode)
    (short : bytes.length < frame.encode.length) :
    ∃ cut : Cut, cut.encode = bytes ∧ cut.payload <+: frame.payload := by
  cases frame with
  | bus addrHi addrLo value checksum =>
      rcases List.prefix_cons_iff.mp beginning with rfl | ⟨rest, rfl, -⟩
      · exact ⟨.nothing, rfl, List.nil_prefix⟩
      · have few : rest.length < 4 := by
          simp only [Frame.encode, List.length_cons,
            List.length_nil] at short
          omega
        exact ⟨.bus rest few, rfl, List.nil_prefix⟩
  | sdram n payload length =>
      rcases List.prefix_cons_iff.mp beginning with rfl | ⟨rest, rfl, inner⟩
      · exact ⟨.nothing, rfl, List.nil_prefix⟩
      · rcases List.prefix_cons_iff.mp inner with rfl | ⟨read, rfl, left⟩
        · exact ⟨.sdramMagic, rfl, List.nil_prefix⟩
        · have few : read.length < 2 * (n.toNat + 1) := by
            simpa [Frame.encode, length] using short
          exact ⟨.sdram n read few, rfl, left⟩

/-- The beginning of a frame that is cut already. -/
theorem exists_cut_of_cut (cut : Cut) {bytes : List UInt8}
    (beginning : bytes <+: cut.encode) :
    ∃ cut' : Cut, cut'.encode = bytes ∧ cut'.payload <+: cut.payload := by
  cases cut with
  | nothing =>
      exact ⟨.nothing, (List.prefix_nil.mp beginning).symm, List.nil_prefix⟩
  | bus read short =>
      rcases List.prefix_cons_iff.mp beginning with rfl | ⟨rest, rfl, inner⟩
      · exact ⟨.nothing, rfl, List.nil_prefix⟩
      · exact ⟨.bus rest (lt_of_le_of_lt inner.length_le short), rfl,
          List.nil_prefix⟩
  | sdramMagic =>
      rcases List.prefix_cons_iff.mp beginning with rfl | ⟨rest, rfl, inner⟩
      · exact ⟨.nothing, rfl, List.nil_prefix⟩
      · rw [List.prefix_nil.mp inner]
        exact ⟨.sdramMagic, rfl, List.nil_prefix⟩
  | sdram n payload short =>
      rcases List.prefix_cons_iff.mp beginning with rfl | ⟨rest, rfl, inner⟩
      · exact ⟨.nothing, rfl, List.nil_prefix⟩
      · rcases List.prefix_cons_iff.mp inner with rfl | ⟨read, rfl, left⟩
        · exact ⟨.sdramMagic, rfl, List.nil_prefix⟩
        · exact ⟨.sdram n read (lt_of_le_of_lt left.length_le short), rfl,
            left⟩

/-- A stream that ends inside `wire`, with the frames that it completes. -/
structure CutOf (wire short : Wire) (bytes : List UInt8) : Prop where
  encode : short.encode = bytes
  frames : short.frames <+: wire.frames
  payload : short.payload <+: wire.payload

/-- Every beginning of a stream is a stream. -/
theorem exists_cutOf {wire : Wire} {bytes : List UInt8}
    (beginning : bytes <+: wire.encode) :
    ∃ short, CutOf wire short bytes := by
  obtain ⟨frames, cut⟩ := wire
  induction frames generalizing bytes with
  | nil =>
      obtain ⟨cut', encode, payload⟩ := exists_cut_of_cut cut beginning
      exact ⟨⟨[], cut'⟩, encode, List.prefix_refl [], payload⟩
  | cons frame rest ih =>
      have whole : Wire.encode ⟨frame :: rest, cut⟩ =
          frame.encode ++ Wire.encode ⟨rest, cut⟩ := by
        simp [Wire.encode]
      rw [whole] at beginning
      rcases Nat.lt_or_ge bytes.length frame.encode.length with inside | past
      · have first : bytes <+: frame.encode :=
          List.prefix_of_prefix_length_le beginning
            (List.prefix_append _ _) inside.le
        obtain ⟨cut', encode, payload⟩ :=
          exists_cut_of_frame frame first inside
        refine ⟨⟨[], cut'⟩, encode, List.nil_prefix, ?_⟩
        refine payload.trans ?_
        simp only [Wire.payload, List.flatMap_cons, List.append_assoc]
        exact List.prefix_append _ _
      · have first : frame.encode <+: bytes :=
          List.prefix_of_prefix_length_le (List.prefix_append _ _)
            beginning past
        obtain ⟨later, rfl⟩ := first
        rw [List.prefix_append_right_inj] at beginning
        obtain ⟨⟨frames', cut'⟩, encode, complete, payload⟩ := ih beginning
        refine ⟨⟨frame :: frames', cut'⟩, ?_, ?_, ?_⟩
        · rw [← encode]
          simp [Wire.encode]
        · exact (List.prefix_cons_inj frame).mpr complete
        · simp only [Wire.payload, List.flatMap_cons, List.append_assoc,
            List.prefix_append_right_inj] at payload ⊢
          exact payload

/-- A cut frame is shorter than the frame. -/
theorem cut_shorter {cut : Cut} {frame : Frame} {rest : List UInt8}
    (beginning : cut.encode <+: frame.encode ++ rest) :
    cut.encode.length < frame.encode.length := by
  cases frame with
  | bus addrHi addrLo value checksum =>
      cases cut with
      | nothing => simp [Cut.encode, Frame.encode]
      | bus read short =>
          simp only [Cut.encode, Frame.encode, List.length_cons,
            List.length_nil]
          omega
      | sdramMagic => simp [Cut.encode, Frame.encode]
      | sdram n payload short => simp [Cut.encode, Frame.encode] at beginning
  | sdram n payload length =>
      cases cut with
      | nothing => simp [Cut.encode, Frame.encode]
      | bus read short => simp [Cut.encode, Frame.encode] at beginning
      | sdramMagic => simp [Cut.encode, Frame.encode]
      | sdram n' read short =>
          simp only [Cut.encode, Frame.encode, List.cons_append,
            List.cons_prefix_cons] at beginning
          obtain ⟨-, rfl, -⟩ := beginning
          simp only [Cut.encode, Frame.encode, List.length_cons, length]
          omega

section CutOf

variable {wire short : Wire} {bytes : List UInt8}

theorem CutOf.carries {items : List Item} (cutOf : CutOf wire short bytes)
    (carries : wire.Carries items) : short.Carries items :=
  cutOf.payload.trans carries

/-- The frames that end within the beginning are complete in it. -/
theorem CutOf.complete_iff (cutOf : CutOf wire short bytes)
    (beginning : bytes <+: wire.encode) {frames : List Frame}
    (first : frames <+: wire.frames) :
    frames <+: short.frames ↔
      (frames.flatMap Frame.encode).length ≤ bytes.length := by
  constructor
  · rintro ⟨rest, split⟩
    rw [← cutOf.encode, Wire.encode, ← split]
    simp
  · intro inside
    rcases List.prefix_or_prefix_of_prefix first cutOf.frames with
      complete | ⟨missing, split⟩
    · exact complete
    · cases missing with
      | nil => exact ⟨[], by simpa using split.symm⟩
      | cons frame missing =>
          -- the cut frame is this one, and it is longer than the cut
          obtain ⟨later, frames⟩ := first
          rw [← cutOf.encode, Wire.encode, Wire.encode, ← frames, ← split]
            at beginning
          simp only [List.flatMap_append, List.flatMap_cons,
            List.append_assoc, List.prefix_append_right_inj] at beginning
          have shorter := cut_shorter beginning
          rw [← cutOf.encode, Wire.encode, ← split] at inside
          simp only [List.flatMap_append, List.flatMap_cons,
            List.length_append] at inside
          omega

end CutOf

/-! ## Reports -/

/-- The register access that a frame reports. -/
def access : Frame → Option (UInt16 × UInt8)
  | .bus addrHi addrLo value _ => some (busAddr addrHi addrLo, value)
  | .sdram _ _ _ => none

/-- The register accesses among the callbacks. -/
def accesses (calls : List Callback) : List (UInt16 × UInt8) :=
  (calls.map report).filterMap Sum.getRight?

theorem mem_accesses {calls : List Callback} {addr : UInt16}
    {value : UInt8} :
    (addr, value) ∈ accesses calls ↔ .busFrame addr value ∈ calls := by
  simp only [accesses, List.mem_filterMap, List.mem_map]
  constructor
  · rintro ⟨-, ⟨call, member, rfl⟩, same⟩
    cases call with
    | packet complete => cases same
    | busFrame addr' value' =>
        cases same
        exact member
  · intro member
    exact ⟨.inr (addr, value), ⟨_, member, rfl⟩, rfl⟩

theorem accesses_append (first second : List Callback) :
    accesses (first ++ second) = accesses first ++ accesses second := by
  rw [accesses, List.map_append, List.filterMap_append]
  rfl

theorem signalled_ticks (completions : List (Option OvPacket)) :
    (ticks completions).filterMap Slot.signalled = [] := by
  simp [ticks, Slot.signalled]

theorem signalled_frameSlots (frames : List Frame)
    (completions : List (Option OvPacket)) :
    (frameSlots frames completions).filterMap Slot.signalled =
      frames.filterMap access := by
  fun_induction frameSlots frames completions with
  | case1 completions => rfl
  | case2 addrHi addrLo value checksum rest completions ih =>
      simp [Slot.signalled, access, ih]
  | case3 n payload length rest completions ih =>
      rw [List.filterMap_append, signalled_ticks, List.nil_append, ih]
      rfl

theorem signalled_slots (wire : Wire) (items : List Item) :
    (wire.slots items).filterMap Slot.signalled =
      wire.frames.filterMap access := by
  simp [Wire.slots, signalled_frameSlots, signalled_ticks]

section Stream

variable {wire : Wire} {items : List Item} (memory : FrameDecoder)
  (packet : OvPacket) (size : Nat)

/-- The decoder reports the complete bus frames, in order. -/
theorem accesses_wire (carries : wire.Carries items) :
    accesses (callbacks (frameDecoderInit memory packet size) wire.encode) =
      wire.frames.filterMap access := by
  obtain ⟨next, calls, run, reports⟩ :=
    frameBytes_wire memory packet size carries
  rw [callbacks_of_frameBytes (splitting_init memory packet size) run,
    accesses, reports, late_signalled, signalled_slots]

end Stream

end OpenVizsla.Decoder.WireCut
