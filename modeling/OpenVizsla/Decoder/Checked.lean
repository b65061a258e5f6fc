import OpenVizsla.Decoder.Callbacks
import OpenVizsla.Decoder.MemoryBound

/-!
# The decoders with their checks

The decoders once more, one round of their loops at a time.  A round stops the
program where an assertion of the source fails, where a shift is as wide as
its type, and where a subtraction goes below zero.  The rounds of the outer
loop are counted, because a round need not consume a byte.

In every reachable state and on every input, no check fails, and two rounds
for each byte are enough.
-/

namespace OpenVizsla.Decoder.Checked

open OpenVizsla.Foundation.Streaming
open OpenVizsla.Decoder.Packet
open OpenVizsla.Decoder.PacketProc
open OpenVizsla.Decoder.FrameProc
open OpenVizsla.Decoder.Invariant
open OpenVizsla.Decoder.Callbacks
open OpenVizsla.Decoder.MemoryBound

variable {σ : Type*}

/-! ## The decoders -/

/--
What a round of `packet_decoder_proc` needs: the assertions, the width of the
shift, a difference that is not negative, and a size of 13 bits.
-/
def Checks (pd : PacketDecoder) : Prop :=
  (pd.state = .needPacketMagic →
      pd.bufActualLength = 0 ∧ 0 < pd.bufLength) ∧
    (pd.state = .needPacketTimestamp → 8 * pd.tsByte < 64) ∧
    (pd.state = .needPacketData →
      pd.bufActualLength ≤ (ovPacketCapturedSize pd.packet).toNat) ∧
    (pd.state = .needPacketTimestamp ∨ pd.state = .needPacketData →
      pd.packet.size.toNat ≤ maxDeclaredSize)

instance (pd : PacketDecoder) : Decidable (Checks pd) :=
  inferInstanceAs (Decidable ((_ → _) ∧ (_ → _) ∧ (_ → _) ∧ (_ → _)))

/-- `packet_decoder_proc`; it is `none` when a check fails. -/
def checkedPacketProc (ops : DecoderOps σ) (pd : PacketDecoder) (user : σ) :
    List UInt8 → Option (Outcome PacketDecoder σ Copy)
  | [] => some (.idle pd user)
  | byte :: rest =>
      if ¬ Checks pd then none
      else if pd.state = .needPacketData then
        some (packetDataBytes ops pd user byte rest)
      else
        match packetHeaderByte pd byte with
        | .error pd => some ⟨pd, user, [], none⟩
        | .ok pd =>
            (checkedPacketProc ops pd user rest).map fun outcome =>
              outcome.after 1 []

/--
`frame_decoder_proc` with so many rounds at most; it is `none` when they are
used up or a check fails.
-/
def checkedFrameProc (ops : DecoderOps σ) :
    Nat → FrameDecoder → σ → List UInt8 →
      Option (Outcome FrameDecoder σ Copy)
  | _, fd, user, [] => some (.idle fd user)
  | 0, _, _, _ :: _ => none
  | rounds + 1, fd, user, byte :: rest =>
      if fd.state = .needSdramFrameData then
        (checkedPacketProc ops fd.pd user
          (payloadOf fd (byte :: rest))).bind fun inner =>
            match inner.consumed with
            | none =>
                some ⟨{ fd with pd := inner.processor }, inner.user,
                  inner.log, none⟩
            | some count =>
                if count ≤ fd.word.toNat then
                  (checkedFrameProc ops rounds
                    (consumePayload fd inner.processor count) inner.user
                    ((byte :: rest).drop count)).map fun outcome =>
                      outcome.after count inner.log
                else
                  none
      else
        match frameHeaderByte ops fd user byte with
        | .error fd => some ⟨fd, user, [], none⟩
        | .ok (next, user) =>
            (checkedFrameProc ops rounds next user rest).map fun outcome =>
              outcome.after 1 []

/-! ## The checks of the packet decoder -/

/-- The invariant is what the checks need. -/
theorem checks_of_assembling {pd : PacketDecoder}
    (assembling : Assembling pd) (buffer : 0 < pd.bufLength) :
    Checks pd := by
  refine ⟨fun start => ⟨packetStart assembling start, buffer⟩,
    fun timestamp => ?_, assembling.copied, assembling.declared⟩
  have counters := assembling.timestamp timestamp
  omega

theorem checkedPacketProc_eq (ops : DecoderOps σ) {pd : PacketDecoder}
    (user : σ) (input : List UInt8) (assembling : Assembling pd)
    (buffer : 0 < pd.bufLength) :
    checkedPacketProc ops pd user input =
      some (packetDecoderProc ops pd user input) := by
  induction input generalizing pd with
  | nil => rfl
  | cons byte rest ih =>
      have checks := checks_of_assembling assembling buffer
      rw [checkedPacketProc, if_neg (not_not.mpr checks), packetDecoderProc]
      by_cases data : pd.state = .needPacketData
      · rw [if_pos data, if_pos data]
      · rw [if_neg data, if_neg data]
        cases header : packetHeaderByte pd byte with
        | error failed => rfl
        | ok next =>
            have same := (buffer_packetHeaderByte header).1
            dsimp only
            rw [ih (assembling_packetHeaderByte assembling header)
              (by rw [same]; exact buffer)]
            rfl

/-! ## The rounds of the frame decoder -/

/-- One round may go to a packet that is complete but not reported. -/
def unreported (pd : PacketDecoder) : Nat :=
  if pd.state = .needPacketData then 1 else 0

theorem unreported_le (pd : PacketDecoder) : unreported pd ≤ 1 := by
  unfold unreported
  split <;> omega

/-- A round that consumes nothing reports a packet. -/
theorem unreported_of_consumed_zero (ops : DecoderOps σ)
    {pd : PacketDecoder} (user : σ) {input : List UInt8} (nonempty : input ≠ [])
    (consumed : (packetDecoderProc ops pd user input).consumed = some 0) :
    unreported pd = 1 ∧
      unreported (packetDecoderProc ops pd user input).processor = 0 := by
  obtain ⟨byte, rest, rfl⟩ := List.exists_cons_of_ne_nil nonempty
  obtain ⟨data, required⟩ :=
    packetDecoderProc_consumed_zero ops pd user byte rest consumed
  rw [packetDecoderProc_of_required_zero ops user byte rest data required]
  exact ⟨if_pos data, rfl⟩

/-- An open frame has a byte left, so that there is payload to decode. -/
theorem payloadOf_ne_nil {fd : FrameDecoder} {input : List UInt8}
    (splitting : Splitting fd) (data : fd.state = .needSdramFrameData)
    (nonempty : input ≠ []) : payloadOf fd input ≠ [] := by
  have remaining := splitting.remaining data
  have some' := List.length_pos_of_ne_nil nonempty
  apply List.ne_nil_of_length_pos
  rw [payloadOf, List.length_take]
  omega

/-- No check fails, and two rounds for each byte are enough. -/
theorem checkedFrameProc_eq (ops : DecoderOps σ) {fd : FrameDecoder}
    (user : σ) {input : List UInt8} {rounds : Nat} (splitting : Splitting fd)
    (buffer : 0 < fd.pd.bufLength)
    (enough : 2 * input.length + unreported fd.pd ≤ rounds + 1) :
    checkedFrameProc ops rounds fd user input =
      some (frameDecoderProc ops fd user input) := by
  fun_induction frameDecoderProc ops fd user input generalizing rounds with
  | case1 fd user => cases rounds <;> rfl
  | case2 fd user byte rest data inner =>
      rename_i failed
      cases rounds with
      | zero => simp only [List.length_cons] at enough; omega
      | succ rounds =>
          rw [checkedFrameProc, if_pos data,
            checkedPacketProc_eq ops user _ splitting.assembling buffer]
          dsimp only [Option.bind_some]
          rw [failed]
  | case3 fd user byte rest data inner count consumed =>
      rename_i ih
      cases rounds with
      | zero => simp only [List.length_cons] at enough; omega
      | succ rounds =>
          have within := payload_consumed_le ops fd user _ consumed
          have assembling :=
            assembling_packetDecoderProc ops user (payloadOf fd (byte :: rest))
              splitting.assembling
          have fewer : 2 * ((byte :: rest).drop count).length +
              unreported inner.processor ≤ rounds + 1 := by
            rcases Nat.eq_zero_or_pos count with rfl | positive
            · obtain ⟨before, after⟩ := unreported_of_consumed_zero ops user
                (payloadOf_ne_nil splitting data (List.cons_ne_nil byte rest))
                consumed
              rw [before] at enough
              rw [List.drop_zero, after]
              omega
            · have last := unreported_le inner.processor
              have first := unreported_le fd.pd
              simp only [List.length_cons, List.length_drop] at enough within ⊢
              omega
          rw [checkedFrameProc, if_pos data,
            checkedPacketProc_eq ops user _ splitting.assembling buffer]
          dsimp only [Option.bind_some]
          rw [consumed]
          dsimp only
          rw [if_pos within.1, ih (splitting_consumePayload splitting assembling
            data within.1) ?_ fewer]
          · rfl
          · exact (bufLength_packetDecoderProc ops fd.pd user _).symm ▸ buffer
  | case4 fd user byte rest header failed rejected =>
      cases rounds with
      | zero => simp only [List.length_cons] at enough; omega
      | succ rounds =>
          rw [checkedFrameProc, if_neg header, rejected]
  | case5 fd user byte rest header next user' accepted ih =>
      cases rounds with
      | zero => simp only [List.length_cons] at enough; omega
      | succ rounds =>
          have same := pd_frameHeaderByte ops accepted
          have last := unreported_le next.pd
          rw [checkedFrameProc, if_neg header, accepted]
          dsimp only
          rw [ih (splitting_frameHeaderByte splitting accepted)
            (by rw [same]; exact buffer)
            (by simp only [List.length_cons] at enough; omega)]
          rfl

/--
The representation invariant holds in every reachable state, and it carries
every round of a call: no assertion fails, no shift is too wide, and neither
of the two remaining lengths goes below zero.
-/
theorem representation_holds {fd : FrameDecoder} (reachable : Reachable fd)
    (ops : DecoderOps σ) (user : σ) (input : List UInt8) :
    Splitting fd ∧
      (0 < fd.pd.bufLength →
        checkedFrameProc ops (2 * input.length) fd user input =
          some (frameDecoderProc ops fd user input)) := by
  have splitting := splitting_of_reachable reachable
  refine ⟨splitting, fun buffer => ?_⟩
  refine checkedFrameProc_eq ops user splitting buffer ?_
  exact Nat.add_le_add_left (unreported_le fd.pd) _

/-- The state behind a call that has rejected the second payload byte. -/
def rejectedPayload : FrameDecoder :=
  (frameDecoderProc recorder (zeroed 8203) []
    [0xd0, 0x00, 0xa1, 0x00]).processor

/-- The frame is still open there, with both of its bytes left. -/
theorem representation_holds_rejectedPayload :
    rejectedPayload.state = .needSdramFrameData ∧
      rejectedPayload.word = 2 ∧
      checkedFrameProc recorder 4 rejectedPayload [] [0xa0, 0x00] =
        some (frameDecoderProc recorder rejectedPayload [] [0xa0, 0x00]) := by
  have reachable : Reachable rejectedPayload :=
    .call recorder [] _ (.init _ _ _)
  refine ⟨by decide +kernel, by decide +kernel, ?_⟩
  exact (representation_holds reachable recorder [] [0xa0, 0x00]).2
    (by decide +kernel)

end OpenVizsla.Decoder.Checked
