import OpenVizsla.Foundation.Integers
import OpenVizsla.Foundation.Streaming
import OpenVizsla.Decoder.Packet

/-!
# The packet decoder

The inner decoder of `decoder.c`.  It assembles packets from the payload of
the SDRAM frames.  The callbacks of `struct decoder_ops` act on the state of
the client, to which `user_data` points.

Each state but `needPacketData` takes exactly one byte; these cases of the
`switch` form `packetHeaderByte`.  In `needPacketData` as much as possible is
copied at once, and the call returns as soon as a packet is complete.

The two assertions of the source are not part of the functions;
`Invariant.packetStart` shows that they hold in every reachable state.
-/

namespace OpenVizsla.Decoder.PacketProc

open OpenVizsla.Foundation.Integers
open OpenVizsla.Foundation.Streaming
open OpenVizsla.Decoder.Packet

/-- `struct decoder_ops`, with the client's state in place of `user_data`. -/
structure DecoderOps (σ : Type*) where
  packet : Option (σ → OvPacket → σ)
  busFrame : Option (σ → UInt16 → UInt8 → σ)

/-- `enum packet_decoder_state` -/
inductive PacketDecoderState where
  | needPacketMagic
  | needPacketFlags
  | needPacketLengthLo
  | needPacketLengthHi
  | needPacketTimestamp
  | needPacketData
deriving DecidableEq, Repr

/-- `struct packet_decoder`; the callbacks are a parameter of the calls. -/
structure PacketDecoder where
  packet : OvPacket
  cumulativeTs : UInt64
  tsByte : Nat
  tsLength : Nat
  state : PacketDecoderState
  bufActualLength : Nat
  bufLength : Nat
  errorStr : Option String
deriving DecidableEq, Repr

/-- One `memcpy` into the packet buffer, with the state it was made in. -/
structure Copy where
  offset : Nat
  length : Nat
  captured : Nat
  bufLength : Nat
deriving DecidableEq, Repr

/-- The state is built from scratch: every field is assigned. -/
def packetDecoderInit (packet : OvPacket) (size : Nat) : PacketDecoder where
  packet := packet
  cumulativeTs := 0
  tsByte := 0
  tsLength := 0
  state := .needPacketMagic
  bufActualLength := 0
  bufLength := size
  errorStr := none

/-- The cases of the `switch` that take one byte, and only look at it. -/
def packetHeaderByte (pd : PacketDecoder) (byte : UInt8) :
    Except PacketDecoder PacketDecoder :=
  match pd.state with
  | .needPacketMagic =>
      if byte = 0xa1 then
        -- discard magic filler
        .ok pd
      else if byte ≠ 0xa0 ∧ byte ≠ 0xa2 then
        .error { pd with errorStr := some "Wrong packet magic" }
      else
        .ok { pd with
          packet := { pd.packet with magic := byte }
          state := .needPacketFlags }
  | .needPacketFlags =>
      .ok { pd with
        packet := { pd.packet with flags := byte }
        state := .needPacketLengthLo }
  | .needPacketLengthLo =>
      .ok { pd with
        packet := { pd.packet with size := byte.toUInt16 }
        state := .needPacketLengthHi }
  | .needPacketLengthHi =>
      .ok { pd with
        packet := { pd.packet with
          size := ((byte &&& 0x1f).toUInt16 <<< 8) ||| pd.packet.size
          timestamp := 0 }
        tsLength := ((byte &&& 0xe0) >>> 5).toNat + 1
        tsByte := 0
        state := .needPacketTimestamp }
  | .needPacketTimestamp =>
      let timestamp := pd.packet.timestamp |||
        (byte.toUInt64 <<< UInt64.ofNat (8 * pd.tsByte))
      if pd.tsByte + 1 ≥ pd.tsLength then
        .ok { pd with
          packet := { pd.packet with
            timestamp := pd.cumulativeTs + timestamp }
          cumulativeTs := pd.cumulativeTs + timestamp
          tsByte := pd.tsByte + 1
          state := .needPacketData }
      else
        .ok { pd with
          packet := { pd.packet with timestamp := timestamp }
          tsByte := pd.tsByte + 1 }
  | .needPacketData =>
      -- not a header state: the loop handles it
      .ok pd

/-- A header byte changes neither the buffer nor what is in it. -/
theorem buffer_packetHeaderByte {pd next : PacketDecoder} {byte : UInt8}
    (accepted : packetHeaderByte pd byte = .ok next) :
    next.bufLength = pd.bufLength ∧
      next.bufActualLength = pd.bufActualLength ∧
      next.packet.data = pd.packet.data := by
  unfold packetHeaderByte at accepted
  cases state : pd.state with
  | needPacketMagic =>
      simp only [state] at accepted
      split at accepted
      · cases accepted
        exact ⟨rfl, rfl, rfl⟩
      · split at accepted <;> cases accepted
        exact ⟨rfl, rfl, rfl⟩
  | needPacketTimestamp =>
      simp only [state] at accepted
      split at accepted <;> cases accepted <;> exact ⟨rfl, rfl, rfl⟩
  | needPacketFlags | needPacketLengthLo | needPacketLengthHi
  | needPacketData =>
      simp only [state] at accepted
      cases accepted
      exact ⟨rfl, rfl, rfl⟩

/-- The bytes of the open packet that have not been copied yet. -/
def requiredLength (pd : PacketDecoder) : Nat :=
  sizeSub (ovPacketCapturedSize pd.packet).toNat pd.bufActualLength

/-- The `memcpy` of the state `needPacketData`. -/
def copyData (pd : PacketDecoder) (bytes : List UInt8) : PacketDecoder :=
  { pd with
    packet := { pd.packet with
      data := copyInto pd.packet.data pd.bufActualLength bytes }
    bufActualLength := pd.bufActualLength + bytes.length }

/-- The call of the client when a packet is complete. -/
def reportPacket (ops : DecoderOps σ) (packet : OvPacket) (user : σ) : σ :=
  match ops.packet with
  | some callback => callback user packet
  | none => user

/-- Ready for the next packet. -/
def restart (pd : PacketDecoder) : PacketDecoder :=
  { pd with bufActualLength := 0, state := .needPacketMagic }

/-- What the copy of `length` bytes looks like to the memory. -/
def copyOf (pd : PacketDecoder) (length : Nat) : Copy :=
  ⟨pd.bufActualLength, length, (ovPacketCapturedSize pd.packet).toNat,
    pd.bufLength⟩

/-- The case `needPacketData`, which takes as many bytes as it can. -/
def packetDataBytes (ops : DecoderOps σ) (pd : PacketDecoder) (user : σ)
    (byte : UInt8) (rest : List UInt8) : Outcome PacketDecoder σ Copy :=
  let required := requiredLength pd
  let copy := min required (rest.length + 1)
  let filled := copyData pd ((byte :: rest).take copy)
  if required = copy then
    ⟨restart filled, reportPacket ops filled.packet user,
      [copyOf pd copy], some copy⟩
  else
    -- less than required was there: all of it is copied
    ⟨filled, user, [copyOf pd copy], some copy⟩

/-- `packet_decoder_proc`, on the bytes from `buf` to `end`. -/
def packetDecoderProc (ops : DecoderOps σ) (pd : PacketDecoder) (user : σ) :
    List UInt8 → Outcome PacketDecoder σ Copy
  | [] => .idle pd user
  | byte :: rest =>
      if pd.state = .needPacketData then packetDataBytes ops pd user byte rest
      else
        match packetHeaderByte pd byte with
        | .error pd => ⟨pd, user, [], none⟩
        | .ok pd => (packetDecoderProc ops pd user rest).after 1 []

/-! ## What one call consumes -/

/-- A call consumes at most what it is given. -/
theorem packetDecoderProc_consumed_le
    (ops : DecoderOps σ) (pd : PacketDecoder) (user : σ)
    (input : List UInt8) {count : Nat}
    (consumed : (packetDecoderProc ops pd user input).consumed = some count) :
    count ≤ input.length := by
  induction input generalizing pd count with
  | nil =>
      simp [packetDecoderProc, Outcome.idle] at consumed
      omega
  | cons byte rest ih =>
      simp only [packetDecoderProc, packetDataBytes] at consumed
      split at consumed
      · split at consumed <;>
        · simp only [Option.some.injEq] at consumed
          simp only [List.length_cons]
          omega
      · cases header : packetHeaderByte pd byte with
        | error failed => simp [header] at consumed
        | ok next =>
            simp only [header, Outcome.after_consumed,
              Option.map_eq_some_iff] at consumed
            obtain ⟨tail, tailConsumed, rfl⟩ := consumed
            have tailBound := ih next tailConsumed
            simp only [List.length_cons]
            omega

/--
A call on a nonempty input that consumes nothing has closed a packet without
data.
-/
theorem packetDecoderProc_consumed_zero
    (ops : DecoderOps σ) (pd : PacketDecoder) (user : σ)
    (byte : UInt8) (rest : List UInt8)
    (consumed :
      (packetDecoderProc ops pd user (byte :: rest)).consumed = some 0) :
    pd.state = .needPacketData ∧ requiredLength pd = 0 := by
  simp only [packetDecoderProc, packetDataBytes] at consumed
  split at consumed
  · refine ⟨by assumption, ?_⟩
    split at consumed <;>
    · simp only [Option.some.injEq] at consumed
      omega
  · cases header : packetHeaderByte pd byte with
    | error failed => simp [header] at consumed
    | ok next => simp [header] at consumed

/-- Closing a packet without data changes only the state and the client. -/
theorem packetDecoderProc_of_required_zero
    (ops : DecoderOps σ) {pd : PacketDecoder} (user : σ)
    (byte : UInt8) (rest : List UInt8)
    (data : pd.state = .needPacketData) (required : requiredLength pd = 0) :
    packetDecoderProc ops pd user (byte :: rest) =
      ⟨restart (copyData pd []),
        reportPacket ops (copyData pd []).packet user, [copyOf pd 0],
        some 0⟩ := by
  simp [packetDecoderProc, packetDataBytes, data, required]

end OpenVizsla.Decoder.PacketProc
