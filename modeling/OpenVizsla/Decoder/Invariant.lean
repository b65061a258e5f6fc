import OpenVizsla.Decoder.FrameProc

/-!
# The representation invariant of the decoders

`Assembling` and `Splitting` say which combinations of the fields of
`struct packet_decoder` and `struct frame_decoder` occur.  They hold after the
initialisation and every call preserves them, also a call that fails, so that
they hold in every reachable state.
-/

namespace OpenVizsla.Decoder.Invariant

open OpenVizsla.Foundation.Integers
open OpenVizsla.Decoder.Packet
open OpenVizsla.Decoder.PacketProc
open OpenVizsla.Decoder.FrameProc

/-- The invariant of the packet decoder. -/
structure Assembling (pd : PacketDecoder) : Prop where
  idle :
    pd.state ≠ .needPacketData → pd.bufActualLength = 0
  copied :
    pd.state = .needPacketData →
      pd.bufActualLength ≤ (ovPacketCapturedSize pd.packet).toNat
  timestamp :
    pd.state = .needPacketTimestamp →
      pd.tsByte < pd.tsLength ∧ pd.tsLength ≤ 8
  lengthLo :
    pd.state = .needPacketLengthHi → pd.packet.size.toNat < 2 ^ 8
  declared :
    pd.state = .needPacketTimestamp ∨ pd.state = .needPacketData →
      pd.packet.size.toNat ≤ maxDeclaredSize

/-- The invariant of the frame decoder. -/
structure Splitting (fd : FrameDecoder) : Prop where
  assembling : Assembling fd.pd
  remaining :
    fd.state = .needSdramFrameData →
      1 ≤ fd.word.toNat ∧ fd.word.toNat ≤ 512

/-! ## The packet decoder -/

theorem assembling_init (packet : OvPacket) (size : Nat) :
    Assembling (packetDecoderInit packet size) where
  idle _ := rfl
  copied := by simp [packetDecoderInit]
  timestamp := by simp [packetDecoderInit]
  lengthLo := by simp [packetDecoderInit]
  declared := by simp [packetDecoderInit]

/-- The assertion at the start of a packet. -/
theorem packetStart {pd : PacketDecoder} (assembling : Assembling pd)
    (start : pd.state = .needPacketMagic) :
    pd.bufActualLength = 0 :=
  assembling.idle (by simp [start])

/-- The subtraction in the state `needPacketData` does not wrap around. -/
theorem requiredLength_eq {pd : PacketDecoder} (assembling : Assembling pd)
    (data : pd.state = .needPacketData) :
    requiredLength pd =
      (ovPacketCapturedSize pd.packet).toNat - pd.bufActualLength := by
  exact sizeSub_of_le (assembling.copied data)

theorem toNat_toUInt16_shiftLeft_eight (byte : UInt8) :
    (byte.toUInt16 <<< 8).toNat = byte.toNat * 2 ^ 8 := by
  have bounded := byte.toNat_lt
  have shifted : (byte.toUInt16 <<< 8).toNat =
      byte.toNat * 2 ^ 8 % 2 ^ 16 := by
    simp [Nat.shiftLeft_eq]
  omega

theorem toNat_shiftRight_five (byte : UInt8) :
    (byte >>> 5).toNat = byte.toNat / 2 ^ 5 := by
  simp [Nat.shiftRight_eq_div_pow]

/-- The two length bytes hold 13 bits. -/
theorem length_bits (lo hi : UInt8) :
    (((hi &&& 0x1f).toUInt16 <<< 8) ||| lo.toUInt16).toNat ≤
      maxDeclaredSize := by
  have masked : (hi &&& 0x1f).toNat ≤ 0x1f := by
    simpa using Nat.and_le_right
  have shifted :
      ((hi &&& 0x1f).toUInt16 <<< 8).toNat < 2 ^ 13 := by
    rw [toNat_toUInt16_shiftLeft_eight]
    omega
  have low : lo.toUInt16.toNat < 2 ^ 13 := by
    have bounded := lo.toNat_lt
    simp only [UInt8.toNat_toUInt16]
    omega
  have joined := Nat.or_lt_two_pow shifted low
  simp only [UInt16.toNat_or, maxDeclaredSize]
  omega

theorem toUInt16_toUInt8_of_lt {value : UInt16}
    (small : value.toNat < 2 ^ 8) :
    value.toUInt8.toUInt16 = value := by
  apply UInt16.toNat_inj.mp
  simp
  omega

/-- The number of timestamp bytes that a length byte announces. -/
theorem tsLength_bits (hi : UInt8) :
    ((hi &&& 0xe0) >>> 5).toNat + 1 ≤ 8 := by
  have bounded := (hi &&& 0xe0).toNat_lt
  rw [toNat_shiftRight_five]
  omega

/-- A byte of a packet header preserves the invariant. -/
theorem assembling_packetHeaderByte {pd next : PacketDecoder} {byte : UInt8}
    (assembling : Assembling pd)
    (accepted : packetHeaderByte pd byte = .ok next) :
    Assembling next := by
  unfold packetHeaderByte at accepted
  cases state : pd.state with
  | needPacketMagic =>
      have start := packetStart assembling state
      simp only [state] at accepted
      split at accepted
      · cases accepted
        exact assembling
      · split at accepted
        · cases accepted
        · cases accepted
          constructor <;> simp [start]
  | needPacketFlags =>
      have start := assembling.idle (by simp [state])
      simp only [state] at accepted
      cases accepted
      constructor <;> simp [start]
  | needPacketLengthLo =>
      have start := assembling.idle (by simp [state])
      have bounded := byte.toNat_lt
      simp only [state] at accepted
      cases accepted
      refine ⟨by simp [start], by simp, by simp, fun _ => ?_, by simp⟩
      simpa using bounded
  | needPacketLengthHi =>
      have start := assembling.idle (by simp [state])
      have low := toUInt16_toUInt8_of_lt (assembling.lengthLo state)
      have announced := tsLength_bits byte
      have bits := length_bits pd.packet.size.toUInt8 byte
      rw [low] at bits
      simp only [state] at accepted
      cases accepted
      refine ⟨by simp [start], by simp, fun _ => ?_, by simp, fun _ => bits⟩
      exact ⟨Nat.succ_pos _, announced⟩
  | needPacketTimestamp =>
      have start := assembling.idle (by simp [state])
      have declared := assembling.declared (.inl state)
      have counters := assembling.timestamp state
      simp only [state] at accepted
      split at accepted
      · cases accepted
        refine ⟨by simp, by simp [start], by simp, by simp, fun _ => ?_⟩
        exact declared
      · cases accepted
        refine ⟨by simp [start], by simp, fun _ => ?_, by simp,
          fun _ => declared⟩
        exact ⟨by simp only; omega, counters.2⟩
  | needPacketData =>
      simp only [state] at accepted
      cases accepted
      exact assembling

/-- A rejected magic byte changes only the error string. -/
theorem packetHeaderByte_error {pd failed : PacketDecoder} {byte : UInt8}
    (rejected : packetHeaderByte pd byte = .error failed) :
    failed = { pd with errorStr := some "Wrong packet magic" } := by
  unfold packetHeaderByte at rejected
  cases state : pd.state <;> simp only [state] at rejected
  case needPacketMagic =>
    split at rejected
    · cases rejected
    · split at rejected
      · cases rejected
        simp
      · cases rejected
  case needPacketTimestamp =>
    split at rejected <;> cases rejected
  all_goals cases rejected

theorem assembling_packetHeaderByte_error {pd failed : PacketDecoder}
    {byte : UInt8} (assembling : Assembling pd)
    (rejected : packetHeaderByte pd byte = .error failed) :
    Assembling failed := by
  rw [packetHeaderByte_error rejected]
  exact ⟨assembling.idle, assembling.copied, assembling.timestamp,
    assembling.lengthLo, assembling.declared⟩

/-- Copied data changes neither the flags nor the declared size. -/
@[simp]
theorem capturedSize_copyData (pd : PacketDecoder) (bytes : List UInt8) :
    ovPacketCapturedSize (copyData pd bytes).packet =
      ovPacketCapturedSize pd.packet :=
  rfl

/-- Copying no more than is required preserves the invariant. -/
theorem assembling_copyData {pd : PacketDecoder} {bytes : List UInt8}
    (assembling : Assembling pd) (data : pd.state = .needPacketData)
    (fits : bytes.length ≤ requiredLength pd) :
    Assembling (copyData pd bytes) := by
  have copied := assembling.copied data
  rw [requiredLength_eq assembling data] at fits
  refine ⟨by simp [copyData, data], fun _ => ?_, by simp [copyData, data],
    by simp [copyData, data], fun _ => assembling.declared (.inr data)⟩
  rw [capturedSize_copyData]
  simp only [copyData]
  omega

theorem assembling_restart (pd : PacketDecoder) : Assembling (restart pd) where
  idle _ := rfl
  copied := by simp [restart]
  timestamp := by simp [restart]
  lengthLo := by simp [restart]
  declared := by simp [restart]

/-- Every call of the packet decoder preserves the invariant. -/
theorem assembling_packetDecoderProc
    (ops : DecoderOps σ) {pd : PacketDecoder} (user : σ)
    (input : List UInt8) (assembling : Assembling pd) :
    Assembling (packetDecoderProc ops pd user input).processor := by
  induction input generalizing pd with
  | nil => exact assembling
  | cons byte rest ih =>
      simp only [packetDecoderProc, packetDataBytes]
      split
      · rename_i data
        split
        · exact assembling_restart _
        · apply assembling_copyData assembling data
          simp only [List.length_take, List.length_cons]
          omega
      · cases header : packetHeaderByte pd byte with
        | error failed =>
            exact assembling_packetHeaderByte_error assembling header
        | ok next =>
            exact ih (assembling_packetHeaderByte assembling header)

/-! ## The frame decoder -/

theorem splitting_init (memory : FrameDecoder) (packet : OvPacket)
    (size : Nat) :
    Splitting (frameDecoderInit memory packet size) where
  assembling := assembling_init packet size
  remaining := by simp [frameDecoderInit]

/-- The length byte of an SDRAM frame announces 2 to 512 payload bytes. -/
theorem sdramLength_toNat (byte : UInt8) :
    ((byte.toUInt16 + 1) * 2).toNat = 2 * (byte.toNat + 1) := by
  have bounded := byte.toNat_lt
  simp only [UInt16.toNat_mul, UInt16.toNat_add, UInt8.toNat_toUInt16]
  simp only [UInt16.toNat_ofNat]
  omega

/-- A byte of a frame header preserves the invariant. -/
theorem splitting_frameHeaderByte
    {ops : DecoderOps σ} {fd next : FrameDecoder} {user user' : σ}
    {byte : UInt8} (splitting : Splitting fd)
    (accepted : frameHeaderByte ops fd user byte = .ok (next, user')) :
    Splitting next := by
  unfold frameHeaderByte at accepted
  cases state : fd.state with
  | needFrameMagic =>
      simp only [state] at accepted
      split at accepted
      · cases accepted
        exact ⟨splitting.assembling, by simp⟩
      · split at accepted
        · cases accepted
          exact ⟨splitting.assembling, by simp⟩
        · cases accepted
  | needSdramFrameLength =>
      have bounded := byte.toNat_lt
      simp only [state] at accepted
      cases accepted
      refine ⟨splitting.assembling, fun _ => ?_⟩
      rw [sdramLength_toNat]
      omega
  | needSdramFrameData =>
      simp only [state] at accepted
      cases accepted
      exact splitting
  | needBusFrameAddrHi =>
      simp only [state] at accepted
      cases accepted
      exact ⟨splitting.assembling, by simp⟩
  | needBusFrameAddrLo =>
      simp only [state] at accepted
      cases accepted
      exact ⟨splitting.assembling, by simp⟩
  | needBusFrameValue =>
      simp only [state] at accepted
      cases accepted
      exact ⟨splitting.assembling, by simp⟩
  | needBusFrameChecksum =>
      simp only [state] at accepted
      cases accepted
      exact ⟨splitting.assembling, by simp⟩

/-- A rejected magic byte changes only the error string. -/
theorem frameHeaderByte_error
    {ops : DecoderOps σ} {fd failed : FrameDecoder} {user : σ} {byte : UInt8}
    (rejected : frameHeaderByte ops fd user byte = .error failed) :
    failed =
      { fd with
        pd := { fd.pd with errorStr := some "Wrong frame magic" } } := by
  unfold frameHeaderByte at rejected
  split at rejected
  all_goals try cases rejected
  split at rejected
  · cases rejected
  · split at rejected
    · cases rejected
    · cases rejected
      rfl

theorem splitting_frameHeaderByte_error
    {ops : DecoderOps σ} {fd failed : FrameDecoder} {user : σ} {byte : UInt8}
    (splitting : Splitting fd)
    (rejected : frameHeaderByte ops fd user byte = .error failed) :
    Splitting failed := by
  rw [frameHeaderByte_error rejected]
  have assembling := splitting.assembling
  exact ⟨⟨assembling.idle, assembling.copied, assembling.timestamp,
    assembling.lengthLo, assembling.declared⟩, splitting.remaining⟩

/-- The remaining length does not wrap around when payload is consumed. -/
theorem toNat_word_sub {word : UInt16} {count : Nat}
    (fits : count ≤ word.toNat) :
    (word - UInt16.ofNat count).toNat = word.toNat - count := by
  have small : (UInt16.ofNat count).toNat = count :=
    UInt16.toNat_ofNat_of_lt' (lt_of_le_of_lt fits word.toNat_lt)
  rw [UInt16.toNat_sub_of_le, small]
  rw [UInt16.le_iff_toNat_le, small]
  exact fits

theorem splitting_consumePayload {fd : FrameDecoder} {pd : PacketDecoder}
    {count : Nat} (splitting : Splitting fd) (assembling : Assembling pd)
    (data : fd.state = .needSdramFrameData)
    (fits : count ≤ fd.word.toNat) :
    Splitting (consumePayload fd pd count) := by
  refine ⟨assembling, fun still => ?_⟩
  have remaining := splitting.remaining data
  have difference := toNat_word_sub fits
  simp only [consumePayload] at still ⊢
  split at still
  · cases still
  · rename_i nonzero
    have positive : (fd.word - UInt16.ofNat count).toNat ≠ 0 := by
      intro zero
      exact nonzero (UInt16.toNat_inj.mp (by simpa using zero))
    omega

/-- No more payload is consumed than the frame has left. -/
theorem payload_consumed_le
    (ops : DecoderOps σ) (fd : FrameDecoder) (user : σ)
    (input : List UInt8) {count : Nat}
    (consumed :
      (packetDecoderProc ops fd.pd user
        (payloadOf fd input)).consumed = some count) :
    count ≤ fd.word.toNat ∧ count ≤ input.length := by
  have bound := packetDecoderProc_consumed_le ops fd.pd user
    (payloadOf fd input) consumed
  simp only [payloadOf, List.length_take] at bound
  omega

/-- Every call of the frame decoder preserves the invariant. -/
theorem splitting_frameDecoderProc
    (ops : DecoderOps σ) (fd : FrameDecoder) (user : σ)
    (input : List UInt8) (splitting : Splitting fd) :
    Splitting (frameDecoderProc ops fd user input).processor := by
  fun_induction frameDecoderProc ops fd user input with
  | case1 fd user => exact splitting
  | case2 fd user byte rest data inner failed =>
      exact ⟨assembling_packetDecoderProc ops user _ splitting.assembling,
        splitting.remaining⟩
  | case3 fd user byte rest data inner count consumed ih =>
      exact ih (splitting_consumePayload splitting
        (assembling_packetDecoderProc ops user _ splitting.assembling)
        data (payload_consumed_le ops fd user _ consumed).1)
  | case4 fd user byte rest header failed rejected =>
      exact splitting_frameHeaderByte_error splitting rejected
  | case5 fd user byte rest header next user' accepted ih =>
      exact ih (splitting_frameHeaderByte splitting accepted)

/--
The states that some sequence of calls, failed ones included, reaches from
the initialisation.
-/
inductive Reachable : FrameDecoder → Prop where
  | init (memory : FrameDecoder) (packet : OvPacket) (size : Nat) :
      Reachable (frameDecoderInit memory packet size)
  | call {σ : Type} (ops : DecoderOps σ) (user : σ) (input : List UInt8) :
      Reachable fd →
        Reachable (frameDecoderProc ops fd user input).processor

/-- The invariant holds in every reachable state. -/
theorem splitting_of_reachable {fd : FrameDecoder}
    (reachable : Reachable fd) : Splitting fd := by
  induction reachable with
  | init memory packet size => exact splitting_init memory packet size
  | call ops user input _ ih =>
      exact splitting_frameDecoderProc ops _ user input ih

end OpenVizsla.Decoder.Invariant
