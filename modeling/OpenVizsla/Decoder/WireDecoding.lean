import OpenVizsla.Decoder.WireGrammar

/-!
# Decoding the wire grammar

The decoders of the source against the grammar.  `Decodes` relates a state of
the packet decoder to the annotated payload that is still to come; it holds
between two records, and every item leads to the next such position.  The
frames then only cut the payload.

The decoder is right up to one delay: a record without data is reported with
the next byte of the payload.  `frameDecoderProc_wire_iff` says when nobody
can tell the difference.
-/

namespace OpenVizsla.Decoder.WireDecoding

open OpenVizsla.Foundation.Delay
open OpenVizsla.Foundation.Integers
open OpenVizsla.Decoder.Packet
open OpenVizsla.Decoder.PacketProc
open OpenVizsla.Decoder.FrameProc
open OpenVizsla.Decoder.Invariant
open OpenVizsla.Decoder.ByteMachine
open OpenVizsla.Decoder.Callbacks
open OpenVizsla.Decoder.WireGrammar

/-! ## The fields of a record -/

theorem littleEndian_append (bytes : List UInt8) (byte : UInt8) :
    littleEndian (bytes ++ [byte]) =
      littleEndian bytes + 2 ^ (8 * bytes.length) * byte.toNat := by
  simp [littleEndian, Nat.ofDigits_append, pow_mul]

theorem littleEndian_lt (bytes : List UInt8) :
    littleEndian bytes < 2 ^ (8 * bytes.length) := by
  have digits : ∀ digit ∈ bytes.map UInt8.toNat, digit < 256 := by
    intro digit member
    obtain ⟨byte, -, rfl⟩ := List.mem_map.mp member
    exact byte.toNat_lt
  have bound := Nat.ofDigits_lt_base_pow_length (by decide) digits
  simpa [pow_mul, littleEndian] using bound

/-- The next timestamp byte goes above the ones before. -/
theorem timestamp_or {bytes : List UInt8} (byte : UInt8)
    (few : bytes.length < 8) :
    UInt64.ofNat (littleEndian bytes) |||
        (byte.toUInt64 <<< UInt64.ofNat (8 * bytes.length)) =
      UInt64.ofNat (littleEndian (bytes ++ [byte])) := by
  have low := littleEndian_lt bytes
  have shift : (UInt64.ofNat (8 * bytes.length)).toNat % 64 =
      8 * bytes.length := by
    simp
    omega
  have total : littleEndian bytes +
      2 ^ (8 * bytes.length) * byte.toNat < 2 ^ 64 := by
    rw [← littleEndian_append]
    refine lt_of_lt_of_le (littleEndian_lt _) ?_
    rw [List.length_append]
    exact Nat.pow_le_pow_right (by decide) (by simp; omega)
  have small : littleEndian bytes < 2 ^ 64 := by omega
  have shifted : 2 ^ (8 * bytes.length) * byte.toNat < 2 ^ 64 := by omega
  rw [littleEndian_append]
  apply UInt64.toNat_inj.mp
  rw [UInt64.toNat_or, UInt64.toNat_shiftLeft, shift, UInt8.toNat_toUInt64,
    Nat.shiftLeft_eq, Nat.mul_comm byte.toNat, UInt64.toNat_ofNat',
    UInt64.toNat_ofNat', Nat.mod_eq_of_lt shifted, Nat.mod_eq_of_lt small,
    Nat.or_comm, ← Nat.two_pow_add_eq_or_of_lt low, Nat.add_comm,
    Nat.mod_eq_of_lt total]

theorem lengthHi_toNat (record : Record) :
    record.lengthHi.toNat =
      32 * (record.delta.length - 1) + record.size.toNat / 256 := by
  have deltas := record.delta_le
  have size := record.size_le
  unfold maxDeclaredSize at size
  have high : record.size.toNat / 256 < 2 ^ 5 := by omega
  have three : (UInt8.ofNat (record.delta.length - 1) <<< 5).toNat =
      2 ^ 5 * (record.delta.length - 1) := by
    simp [Nat.shiftLeft_eq]
    omega
  have five : (record.size >>> 8).toUInt8.toNat = record.size.toNat / 256 := by
    simp [Nat.shiftRight_eq_div_pow]
    omega
  rw [Record.lengthHi, UInt8.toNat_or, three, five,
    ← Nat.two_pow_add_eq_or_of_lt high]

theorem size_lengthHi (record : Record) :
    ((record.lengthHi &&& 0x1f).toUInt16 <<< 8) |||
        record.size.toUInt8.toUInt16 = record.size := by
  have size := record.size_le
  unfold maxDeclaredSize at size
  have masked : (record.lengthHi &&& 0x1f).toNat = record.size.toNat / 256 := by
    rw [UInt8.toNat_and, lengthHi_toNat]
    have mask := Nat.and_two_pow_sub_one_eq_mod
      (32 * (record.delta.length - 1) + record.size.toNat / 256) 5
    norm_num at mask
    simp only [UInt8.reduceToNat]
    omega
  apply UInt16.toNat_inj.mp
  rw [UInt16.toNat_or, toNat_toUInt16_shiftLeft_eight, masked,
    UInt8.toNat_toUInt16, UInt16.toNat_toUInt8, Nat.mul_comm,
    ← Nat.two_pow_add_eq_or_of_lt (by omega)]
  omega

theorem tsLength_lengthHi (record : Record) :
    ((record.lengthHi &&& 0xe0) >>> 5).toNat + 1 = record.delta.length := by
  have positive := record.delta_pos
  have deltas := record.delta_le
  have size := record.size_le
  unfold maxDeclaredSize at size
  have mask := Nat.and_two_pow_sub_one_eq_mod
    ((32 * (record.delta.length - 1) + record.size.toNat / 256) >>> 5) 3
  have seven : UInt8.toNat 0xe0 >>> 5 = 2 ^ 3 - 1 := rfl
  rw [toNat_shiftRight_five, UInt8.toNat_and, lengthHi_toNat,
    ← Nat.shiftRight_eq_div_pow, Nat.shiftRight_and_distrib, seven, mask,
    Nat.shiftRight_eq_div_pow]
  omega

/-! ## Positions in the payload -/

/-- The packet that is complete, but not reported. -/
def held (pd : PacketDecoder) : Option OvPacket :=
  if pd.state = .needPacketData ∧ requiredLength pd = 0 then
    some pd.packet.captured
  else
    none

/-- The decoder once that packet is reported. -/
def ready (pd : PacketDecoder) : PacketDecoder :=
  if pd.state = .needPacketData ∧ requiredLength pd = 0 then restart pd
  else pd

theorem settle_recorder (pd : PacketDecoder) (calls : List Callback) :
    ∃ now, settle recorder (pd, calls) = (ready pd, calls ++ now) ∧
      now.map report = (held pd).toList.map .inl := by
  by_cases complete : pd.state = .needPacketData ∧ requiredLength pd = 0
  · refine ⟨[.packet pd.packet], ?_, ?_⟩
    · rw [settle_of_pending recorder calls complete.1 complete.2, ready,
        if_pos complete]
      rfl
    · simp [held, complete, report]
  · refine ⟨[], ?_, ?_⟩
    · simp [settle, ready, complete]
    · simp [held, complete]

/--
The packet decoder decodes annotated payload: it accepts every byte, and it
reports the packets late.
-/
def Decodes : PacketDecoder → List (UInt8 × Option OvPacket) → Prop
  | _, [] => True
  | pd, (byte, completes) :: rest =>
      ∃ next : PacketDecoder,
        (∀ calls, ∃ now,
          packetByte recorder (pd, calls) byte = .ok (next, calls ++ now) ∧
            now.map report =
              (held pd).toList.map .inl ++
                (completes.filter (!hasNoData ·)).toList.map .inl) ∧
          held next = completes.filter hasNoData ∧ Decodes next rest

/-- A run over a part of the payload. -/
theorem Decodes.run {pd : PacketDecoder}
    {first rest : List (UInt8 × Option OvPacket)}
    (decodes : Decodes pd (first ++ rest)) (calls : List Callback) :
    ∃ next now,
      packetBytes recorder (pd, calls) (first.map Prod.fst) =
          .ok (next, calls ++ now) ∧
        Decodes next rest ∧
        ∀ later,
          late hasNoData (held pd) (ticks (first.map Prod.snd) ++ later) =
            now.map report ++ late hasNoData (held next) later := by
  induction first generalizing pd calls with
  | nil => exact ⟨pd, [], by simp, decodes, fun later => by simp [ticks]⟩
  | cons head first ih =>
      obtain ⟨byte, completes⟩ := head
      obtain ⟨middle, step, kept, tail⟩ := decodes
      obtain ⟨now, accepted, due⟩ := step calls
      obtain ⟨next, after, run, reached, reports⟩ := ih tail (calls ++ now)
      refine ⟨next, now ++ after, ?_, reached, fun later => ?_⟩
      · rw [List.map_cons, packetBytes_cons, accepted, ← List.append_assoc]
        exact run
      · have reported := reports later
        rw [kept] at reported
        rw [List.map_append, due, List.append_assoc, ← reported]
        simp only [ticks, List.map_cons, List.cons_append, late,
          List.append_assoc]

/-- A byte of a record header, or a filler. -/
theorem decodes_header {pd next : PacketDecoder} {byte : UInt8}
    {completes : Option OvPacket} {rest : List (UInt8 × Option OvPacket)}
    (header : (ready pd).state ≠ .needPacketData)
    (accepted : packetHeaderByte (ready pd) byte = .ok next)
    (noData : ∀ packet ∈ completes, hasNoData packet = true)
    (kept : held next = completes)
    (tail : Decodes next rest) :
    Decodes pd ((byte, completes) :: rest) := by
  have nothingDue : completes.filter (!hasNoData ·) = none := by
    cases completes with
    | none => rfl
    | some packet => simp [Option.filter, noData packet rfl]
  have allKept : completes.filter hasNoData = completes := by
    cases completes with
    | none => rfl
    | some packet => simp [Option.filter, noData packet rfl]
  refine ⟨next, fun calls => ?_, by rw [kept, allKept], tail⟩
  obtain ⟨now, settled, due⟩ := settle_recorder pd calls
  refine ⟨now, ?_, ?_⟩
  · simp [packetByte, settled, settledByte, header, accepted]
  · simp [due, nothingDue]

theorem ready_of_header {pd : PacketDecoder}
    (header : pd.state ≠ .needPacketData) : ready pd = pd := by
  simp [ready, header]

theorem held_of_header {pd : PacketDecoder}
    (header : pd.state ≠ .needPacketData) : held pd = none := by
  simp [held, header]

/-- A byte that stays inside a record header. -/
theorem decodes_field {pd next : PacketDecoder} {byte : UInt8}
    {rest : List (UInt8 × Option OvPacket)}
    (header : pd.state ≠ .needPacketData)
    (accepted : packetHeaderByte pd byte = .ok next)
    (header' : next.state ≠ .needPacketData) (tail : Decodes next rest) :
    Decodes pd ((byte, none) :: rest) := by
  have settled := ready_of_header header
  exact decodes_header (by rwa [settled]) (by rwa [settled]) (by simp)
    (held_of_header header') tail

/-- Between two records, after `elapsed` ticks. -/
structure Between (elapsed : Nat) (pd : PacketDecoder) : Prop where
  state : (ready pd).state = .needPacketMagic
  idle : (ready pd).bufActualLength = 0
  cumulative : (ready pd).cumulativeTs = UInt64.ofNat elapsed

theorem between_restart {elapsed : Nat} {pd : PacketDecoder}
    (cumulative : pd.cumulativeTs = UInt64.ofNat elapsed) :
    Between elapsed (restart pd) := by
  have settled : ready (restart pd) = restart pd :=
    ready_of_header (by simp [restart])
  refine ⟨?_, ?_, ?_⟩ <;> rw [settled]
  · rfl
  · rfl
  · exact cumulative

/-- Everything decodes that can follow a record that ends at `elapsed`. -/
def Continues (elapsed : Nat) (rest : List (UInt8 × Option OvPacket)) :
    Prop :=
  ∀ pd, Between elapsed pd → Decodes pd rest

/-! ## The data of a record -/

/-- Inside the data of `packet`, behind the bytes in `done`. -/
structure InData (packet : OvPacket) (elapsed : Nat) (done : List UInt8)
    (pd : PacketDecoder) : Prop where
  state : pd.state = .needPacketData
  header : { pd.packet with data := packet.data } = packet
  captured : (ovPacketCapturedSize packet).toNat = packet.data.length
  copied : pd.bufActualLength = done.length
  written : done.length ≤ pd.packet.data.length
  content : pd.packet.data.take done.length = done
  cumulative : pd.cumulativeTs = UInt64.ofNat elapsed

section Data

variable {packet : OvPacket} {elapsed : Nat} {done left : List UInt8}
  {pd : PacketDecoder}

theorem InData.capturedSize (position : InData packet elapsed done pd) :
    ovPacketCapturedSize pd.packet = ovPacketCapturedSize packet := by
  rw [← position.header]
  rfl

theorem InData.required (position : InData packet elapsed done pd)
    (data : packet.data = done ++ left) :
    requiredLength pd = left.length := by
  have length := congrArg List.length data
  have captured := position.captured
  rw [List.length_append] at length
  rw [requiredLength, position.capturedSize, position.copied,
    sizeSub_of_le (by omega)]
  omega

/-- Behind its last byte, the buffer holds the packet. -/
theorem InData.complete (position : InData packet elapsed packet.data pd) :
    pd.packet.captured = packet := by
  have content := position.content
  rw [OvPacket.captured, position.capturedSize, position.captured, content]
  exact position.header

theorem InData.copyData (position : InData packet elapsed done pd)
    (byte : UInt8) :
    InData packet elapsed (done ++ [byte]) (copyData pd [byte]) where
  state := position.state
  header := position.header
  captured := position.captured
  copied := by simp [PacketProc.copyData, position.copied]
  written := by
    have written := position.written
    simp [PacketProc.copyData, copyInto, position.copied]
    omega
  content := by
    have read := take_copyInto position.written [byte]
    rw [position.content] at read
    simpa [PacketProc.copyData, position.copied] using read
  cumulative := position.cumulative

theorem InData.between (position : InData packet elapsed packet.data pd) :
    Between elapsed pd := by
  have required : requiredLength pd = 0 :=
    position.required (List.append_nil _).symm
  have settled : ready pd = restart pd := if_pos ⟨position.state, required⟩
  refine ⟨?_, ?_, ?_⟩ <;> rw [settled]
  · rfl
  · rfl
  · exact position.cumulative

/-- The data of a record, one byte after the other. -/
theorem InData.decodes {rest : List (UInt8 × Option OvPacket)}
    (position : InData packet elapsed done pd)
    (data : packet.data = done ++ left) (nonempty : left ≠ [])
    (continues : Continues elapsed rest) :
    Decodes pd (markLast packet left ++ rest) := by
  induction left generalizing done pd with
  | nil => exact absurd rfl nonempty
  | cons byte left ih =>
      have required := position.required data
      have missing : requiredLength pd ≠ 0 := by simp [required]
      have nothingHeld : held pd = none := by simp [held, missing]
      have data' : packet.data = (done ++ [byte]) ++ left := by simp [data]
      have position' := position.copyData byte
      have required' := position'.required data'
      have step (calls : List Callback) :
          packetByte recorder (pd, calls) byte =
            .ok (settle recorder (PacketProc.copyData pd [byte], calls)) := by
        rw [packetByte, settle_of_required recorder calls missing]
        simp [settledByte, position.state]
      cases left with
      | nil =>
          rw [List.append_nil] at data'
          rw [← data'] at position'
          have someData : hasNoData packet = false := by
            have captured := position.captured
            have length := congrArg List.length data
            simp only [hasNoData, decide_eq_false_iff_not]
            intro zero
            simp [zero] at captured
            simp [← captured] at length
          refine ⟨restart (PacketProc.copyData pd [byte]),
            fun calls => ⟨[.packet (PacketProc.copyData pd [byte]).packet],
              ?_, ?_⟩, ?_, ?_⟩
          · rw [step, settle_of_pending recorder calls position'.state
              required']
            rfl
          · simp [nothingHeld, report, position'.complete, Option.filter,
              someData]
          · simp [Option.filter, someData, held, restart]
          · exact continues _ (between_restart position'.cumulative)
      | cons second left =>
          refine ⟨PacketProc.copyData pd [byte], fun calls => ⟨[], ?_, ?_⟩,
            ?_, ih position' data' (by simp)⟩
          · rw [step, settle_of_required recorder calls (by simp [required'])]
            simp
          · simp [nothingHeld]
          · simp [held, required']

end Data

/-! ## The timestamp of a record -/

/-- Inside the timestamp of `record`, behind the bytes in `done`. -/
structure InTimestamp (record : Record) (elapsed : Nat) (done : List UInt8)
    (pd : PacketDecoder) : Prop where
  state : pd.state = .needPacketTimestamp
  header : { pd.packet with timestamp := 0, data := [] } =
    (⟨record.magic, record.flags, record.size, 0, []⟩ : OvPacket)
  timestamp : pd.packet.timestamp = UInt64.ofNat (littleEndian done)
  tsByte : pd.tsByte = done.length
  tsLength : pd.tsLength = record.delta.length
  idle : pd.bufActualLength = 0
  cumulative : pd.cumulativeTs = UInt64.ofNat elapsed

section Timestamp

variable {record : Record} {elapsed : Nat} {done left : List UInt8}
  {pd : PacketDecoder}

theorem InTimestamp.step (position : InTimestamp record elapsed done pd)
    {byte second : UInt8}
    (delta : record.delta = done ++ byte :: second :: left) :
    ∃ next, packetHeaderByte pd byte = .ok next ∧
      InTimestamp record elapsed (done ++ [byte]) next := by
  have deltas := record.delta_le
  have length := congrArg List.length delta
  simp only [List.length_append, List.length_cons] at length
  have more : ¬ pd.tsByte + 1 ≥ pd.tsLength := by
    rw [position.tsByte, position.tsLength]
    omega
  refine ⟨{ pd with
      packet := { pd.packet with
        timestamp := pd.packet.timestamp |||
          (byte.toUInt64 <<< UInt64.ofNat (8 * pd.tsByte)) }
      tsByte := pd.tsByte + 1 },
    by simp only [packetHeaderByte, position.state, if_neg more],
    position.state, position.header, ?_, ?_, position.tsLength,
    position.idle, position.cumulative⟩
  · rw [← timestamp_or byte (by omega), ← position.timestamp,
      ← position.tsByte]
  · simp [position.tsByte]

theorem InTimestamp.last (position : InTimestamp record elapsed done pd)
    {byte : UInt8} (delta : record.delta = done ++ [byte]) :
    ∃ next, packetHeaderByte pd byte = .ok next ∧
      InData (record.packet elapsed) (elapsed + littleEndian record.delta) []
        next := by
  have deltas := record.delta_le
  have length := congrArg List.length delta
  simp only [List.length_append, List.length_singleton] at length
  have closed : pd.tsByte + 1 ≥ pd.tsLength := by
    rw [position.tsByte, position.tsLength]
    omega
  have total : pd.cumulativeTs + (pd.packet.timestamp |||
      (byte.toUInt64 <<< UInt64.ofNat (8 * pd.tsByte))) =
        UInt64.ofNat (elapsed + littleEndian record.delta) := by
    rw [position.timestamp, position.tsByte, timestamp_or byte (by omega),
      position.cumulative, delta, UInt64.ofNat_add]
  refine ⟨{ pd with
      packet := { pd.packet with
        timestamp := pd.cumulativeTs + (pd.packet.timestamp |||
          (byte.toUInt64 <<< UInt64.ofNat (8 * pd.tsByte))) }
      cumulativeTs := pd.cumulativeTs + (pd.packet.timestamp |||
        (byte.toUInt64 <<< UInt64.ofNat (8 * pd.tsByte)))
      tsByte := pd.tsByte + 1
      state := .needPacketData },
    by simp only [packetHeaderByte, position.state, if_pos closed],
    rfl, ?_, ?_, position.idle, Nat.zero_le _, rfl, total⟩
  · have header := position.header
    simp only [OvPacket.mk.injEq, and_true] at header
    obtain ⟨magic, flags, size⟩ := header
    simp only [Record.packet, total, magic, flags, size]
  · rw [Record.packet, record.data_length]
    simp only [ovPacketCapturedSize, capturedSize]
    split <;> rfl

/-- The timestamp and the data of a record. -/
theorem InTimestamp.decodes {rest : List (UInt8 × Option OvPacket)}
    (position : InTimestamp record elapsed done pd)
    (delta : record.delta = done ++ left) (nonempty : left ≠ [])
    (continues : Continues (elapsed + littleEndian record.delta) rest) :
    Decodes pd (markLast (record.packet elapsed) (left ++ record.data) ++
      rest) := by
  have header : pd.state ≠ .needPacketData := by simp [position.state]
  have settled := ready_of_header header
  induction left generalizing done pd with
  | nil => exact absurd rfl nonempty
  | cons byte left ih =>
      cases left with
      | cons second left =>
          obtain ⟨next, accepted, position'⟩ := position.step delta
          have header' : next.state ≠ .needPacketData := by
            simp [position'.state]
          exact decodes_field header accepted header'
            (ih position' (by simp [delta]) (by simp) header'
              (ready_of_header header'))
      | nil =>
          obtain ⟨next, accepted, position'⟩ := position.last delta
          have required : requiredLength next = record.data.length :=
            position'.required rfl
          cases data : record.data with
          | nil =>
              have complete : InData (record.packet elapsed)
                  (elapsed + littleEndian record.delta)
                  (record.packet elapsed).data next := by
                simpa [Record.packet, data] using position'
              have noData : hasNoData (record.packet elapsed) = true := by
                have captured := position'.captured
                simp only [Record.packet, data, List.length_nil] at captured
                simpa [hasNoData, Record.packet] using
                  UInt16.toNat_inj.mp captured
              refine decodes_header (by rwa [settled]) (by rwa [settled])
                (by simpa using noData) ?_ (continues next complete.between)
              rw [held, if_pos ⟨position'.state, by rw [required, data]; rfl⟩,
                complete.complete]
          | cons first data' =>
              have missing : requiredLength next ≠ 0 := by
                simp [required, data]
              refine decodes_header (by rwa [settled]) (by rwa [settled])
                (by simp) (by simp [held, missing]) ?_
              exact position'.decodes data (by simp) continues

end Timestamp

/-! ## The payload -/

theorem packetHeaderByte_magic {pd : PacketDecoder} {magic : UInt8}
    (state : pd.state = .needPacketMagic)
    (valid : magic = 0xa0 ∨ magic = 0xa2) :
    packetHeaderByte pd magic =
      .ok { pd with
        packet := { pd.packet with magic := magic }
        state := .needPacketFlags } := by
  rcases valid with rfl | rfl <;> simp [packetHeaderByte, state]

theorem packetHeaderByte_filler {pd : PacketDecoder}
    (state : pd.state = .needPacketMagic) :
    packetHeaderByte pd 0xa1 = .ok pd := by
  simp [packetHeaderByte, state]

/-- A record between two records. -/
theorem Between.record {record : Record} {elapsed : Nat}
    {pd : PacketDecoder} {rest : List (UInt8 × Option OvPacket)}
    (between : Between elapsed pd)
    (continues : Continues (elapsed + littleEndian record.delta) rest) :
    Decodes pd (markLast (record.packet elapsed) record.encode ++ rest) := by
  have nonempty : record.delta ≠ [] := by
    intro empty
    have positive := record.delta_pos
    simp [empty] at positive
  have marked : markLast (record.packet elapsed) record.encode =
      (record.magic, none) :: (record.flags, none) ::
        (record.size.toUInt8, none) :: (record.lengthHi, none) ::
          markLast (record.packet elapsed) (record.delta ++ record.data) := by
    obtain ⟨first, delta, cons⟩ := List.exists_cons_of_ne_nil nonempty
    simp [Record.encode, cons, markLast]
  rw [marked]
  refine decodes_header (by simp [between.state])
    (packetHeaderByte_magic between.state record.magic_mem) (by simp)
    (held_of_header (by simp)) ?_
  refine decodes_field (by simp) rfl (by simp) ?_
  refine decodes_field (by simp) rfl (by simp) ?_
  refine decodes_field (by simp) rfl (by simp) ?_
  refine InTimestamp.decodes ?_ (List.nil_append _).symm nonempty continues
  exact ⟨rfl, by simp only [size_lengthHi], rfl, rfl,
    tsLength_lengthHi record, between.idle, between.cumulative⟩

/-- A filler between two records. -/
theorem Between.filler {elapsed : Nat} {pd : PacketDecoder}
    {rest : List (UInt8 × Option OvPacket)} (between : Between elapsed pd)
    (continues : Continues elapsed rest) :
    Decodes pd ((0xa1, none) :: rest) := by
  have header : (ready pd).state ≠ .needPacketData := by
    simp [between.state]
  have settled := ready_of_header header
  refine decodes_header header (packetHeaderByte_filler between.state)
    (by simp) (held_of_header header) (continues (ready pd) ⟨?_, ?_, ?_⟩) <;>
    rw [settled]
  · exact between.state
  · exact between.idle
  · exact between.cumulative

/-- The packet decoder decodes every sequence of items. -/
theorem decodes_annotate (elapsed : Nat) (items : List Item) :
    Continues elapsed (annotate elapsed items) := by
  induction items generalizing elapsed with
  | nil => exact fun _ _ => trivial
  | cons item items ih =>
      intro pd between
      cases item with
      | filler => exact between.filler (ih elapsed)
      | record entry => exact between.record (ih _)

/-! ## Frames -/

theorem busAddr_eq (addrHi addrLo : UInt8) :
    (addrHi.toUInt16 <<< 8) ||| addrLo.toUInt16 = busAddr addrHi addrLo := by
  have high := addrHi.toNat_lt
  have low := addrLo.toNat_lt
  apply UInt16.toNat_inj.mp
  rw [UInt16.toNat_or, toNat_toUInt16_shiftLeft_eight, UInt8.toNat_toUInt16,
    Nat.mul_comm, ← Nat.two_pow_add_eq_or_of_lt low, busAddr,
    UInt16.toNat_ofNat_of_lt' (by simp only [UInt16.size]; omega)]
  omega

/-- A complete bus frame. -/
theorem frameBytes_bus {fd : FrameDecoder} (calls : List Callback)
    (addrHi addrLo value checksum : UInt8)
    (start : fd.state = .needFrameMagic) :
    frameBytes recorder (fd, calls)
        [0x55, addrHi, addrLo, value, checksum] =
      .ok ({ fd with
          word := busAddr addrHi addrLo
          value := value
          checksum := checksum },
        calls ++ [.busFrame (busAddr addrHi addrLo) value]) := by
  simp [frameBytes_cons, frameByte, frameHeaderByte, start, Except.bind,
    reportBusFrame, recorder, busAddr_eq]

/-- A bus frame that is cut off. -/
theorem frameBytes_bus_cut {fd : FrameDecoder} (calls : List Callback)
    {bytes : List UInt8} (start : fd.state = .needFrameMagic)
    (short : bytes.length < 4) :
    ∃ next, frameBytes recorder (fd, calls) (0x55 :: bytes) =
      .ok (next, calls) := by
  match bytes with
  | [] | [_] | [_, _] | [_, _, _] =>
      simp [frameBytes_cons, frameByte, frameHeaderByte, start, Except.bind]
  | _ :: _ :: _ :: _ :: _ =>
      simp at short
      omega

/-- An SDRAM frame, which may be cut off. -/
theorem frameBytes_sdram {fd : FrameDecoder} {calls calls' : List Callback}
    {pd : PacketDecoder} (n : UInt8) {payload : List UInt8}
    (splitting : Splitting fd) (start : fd.state = .needFrameMagic)
    (fits : payload.length ≤ 2 * (n.toNat + 1))
    (run : packetBytes recorder (fd.pd, calls) payload = .ok (pd, calls')) :
    ∃ next, frameBytes recorder (fd, calls) (0xd0 :: n :: payload) =
        .ok (next, calls') ∧ next.pd = pd ∧
      (payload.length = 2 * (n.toNat + 1) → next.state = .needFrameMagic) := by
  have word := sdramLength_toNat n
  have bounded := n.toNat_lt
  let opened : FrameDecoder :=
    { fd with
      word := (n.toUInt16 + 1) * 2
      state := .needSdramFrameData }
  have inside : Splitting opened :=
    ⟨splitting.assembling, fun _ => by simp only [opened, word]; omega⟩
  have header : frameBytes recorder (fd, calls) [0xd0, n] =
      .ok (opened, calls) := by
    simp [frameBytes_cons, frameByte, frameHeaderByte, start, Except.bind,
      opened]
  refine ⟨consumePayload opened pd payload.length, ?_, rfl, fun whole => ?_⟩
  · have tail := frameBytes_payload inside rfl
      (by simp only [opened, word]; exact fits) run
    have split : 0xd0 :: n :: payload = [0xd0, n] ++ payload := rfl
    rw [split, frameBytes_append, header]
    exact tail
  · have closed : opened.word - UInt16.ofNat payload.length = 0 := by
      apply UInt16.toNat_inj.mp
      rw [toNat_word_sub (by simp only [opened, word]; exact fits)]
      simp only [opened, word, whole]
      simp
    simp [consumePayload, closed]

/-- A payload is read from the front of the annotated stream. -/
theorem take_bytes {stream : List (UInt8 × Option OvPacket)}
    {first rest : List UInt8}
    (carries : first ++ rest <+: stream.map Prod.fst) :
    (stream.take first.length).map Prod.fst = first ∧
      rest <+: (stream.drop first.length).map Prod.fst := by
  obtain ⟨tail, split⟩ := carries
  rw [List.append_assoc] at split
  refine ⟨?_, tail, ?_⟩
  · rw [List.map_take, ← split, List.take_left]
  · rw [List.map_drop, ← split, List.drop_left]

/-- Complete frames. -/
theorem frameBytes_frames (frames : List Frame) {fd : FrameDecoder}
    {stream : List (UInt8 × Option OvPacket)} {tail : List UInt8}
    (splitting : Splitting fd) (start : fd.state = .needFrameMagic)
    (decodes : Decodes fd.pd stream)
    (carries : frames.flatMap Frame.payload ++ tail <+: stream.map Prod.fst)
    (calls : List Callback) :
    ∃ next now,
      frameBytes recorder (fd, calls) (frames.flatMap Frame.encode) =
          .ok (next, calls ++ now) ∧
        next.state = .needFrameMagic ∧
        Decodes next.pd
          (stream.drop (frames.flatMap Frame.payload).length) ∧
        ∀ later,
          late hasNoData (held fd.pd)
              (frameSlots frames (stream.map Prod.snd) ++ later) =
            now.map report ++ late hasNoData (held next.pd) later := by
  induction frames generalizing fd stream calls with
  | nil => exact ⟨fd, [], by simp, start, decodes, fun later => rfl⟩
  | cons frame frames ih =>
      cases frame with
      | bus addrHi addrLo value checksum =>
          have head := frameBytes_bus calls addrHi addrLo value checksum start
          obtain ⟨next, now, run, finish, reached, reports⟩ :=
            ih (splitting_frameBytes splitting head) start decodes carries
              (calls ++ [.busFrame (busAddr addrHi addrLo) value])
          refine ⟨next, .busFrame (busAddr addrHi addrLo) value :: now, ?_,
            finish, reached, fun later => ?_⟩
          · rw [List.flatMap_cons, frameBytes_append, Frame.encode, head]
            rw [List.append_assoc] at run
            exact run
          · have reported := reports later
            simp only [frameSlots, List.cons_append, late, List.map_cons,
              report]
            rw [reported]
      | sdram n payload length =>
          rw [List.flatMap_cons, List.append_assoc] at carries
          change payload ++ (frames.flatMap Frame.payload ++ tail) <+: _
            at carries
          obtain ⟨bytes, carries'⟩ := take_bytes carries
          have split : stream.take payload.length ++
              stream.drop payload.length = stream :=
            List.take_append_drop _ _
          rw [← split] at decodes
          obtain ⟨pd, first, inner, reached, reports⟩ := decodes.run calls
          rw [bytes] at inner
          obtain ⟨middle, head, samePd, closed⟩ :=
            frameBytes_sdram n splitting start (Nat.le_of_eq length) inner
          obtain ⟨next, now, run, finish, reached', reports'⟩ :=
            ih (splitting_frameBytes splitting head) (closed length)
              (samePd ▸ reached) carries' (calls ++ first)
          refine ⟨next, first ++ now, ?_, finish, ?_, fun later => ?_⟩
          · rw [List.flatMap_cons, frameBytes_append, Frame.encode, head,
              ← List.append_assoc]
            exact run
          · simpa [Frame.payload, List.drop_drop] using reached'
          · have reported := reports' later
            rw [samePd] at reported
            have before := reports (frameSlots frames
              ((stream.drop payload.length).map Prod.snd) ++ later)
            rw [reported] at before
            simp only [frameSlots, List.append_assoc, List.map_append,
              ← List.map_take, ← List.map_drop]
            exact before

/-- A cut frame at the end. -/
theorem frameBytes_cut (cut : Cut) {fd : FrameDecoder}
    {stream : List (UInt8 × Option OvPacket)}
    (splitting : Splitting fd) (start : fd.state = .needFrameMagic)
    (decodes : Decodes fd.pd stream)
    (carries : cut.payload <+: stream.map Prod.fst)
    (calls : List Callback) :
    ∃ next now,
      frameBytes recorder (fd, calls) cut.encode =
          .ok (next, calls ++ now) ∧
        late hasNoData (held fd.pd)
            (ticks ((stream.map Prod.snd).take cut.payload.length)) =
          now.map report := by
  cases cut with
  | nothing => exact ⟨fd, [], by simp [Cut.encode], rfl⟩
  | bus bytes short =>
      obtain ⟨next, run⟩ := frameBytes_bus_cut calls start short
      exact ⟨next, [], by simpa [Cut.encode] using run, rfl⟩
  | sdramMagic =>
      refine ⟨{ fd with state := .needSdramFrameLength }, [], ?_, rfl⟩
      simp [Cut.encode, frameBytes_cons, frameByte, frameHeaderByte, start,
        Except.bind]
  | sdram n payload short =>
      change payload <+: _ at carries
      obtain ⟨bytes, -⟩ := take_bytes
        (by rwa [List.append_nil] : payload ++ [] <+: stream.map Prod.fst)
      rw [← List.take_append_drop payload.length stream] at decodes
      obtain ⟨pd, now, inner, -, reports⟩ := decodes.run calls
      rw [bytes] at inner
      obtain ⟨next, run, -, -⟩ :=
        frameBytes_sdram n splitting start (Nat.le_of_lt short) inner
      refine ⟨next, now, run, ?_⟩
      have reported := reports []
      simpa only [List.append_nil, late, List.map_take, Cut.payload]
        using reported

/-! ## Streams -/

/-- The run of the byte machine over a stream. -/
theorem frameBytes_wire (memory : FrameDecoder) (packet : OvPacket)
    (size : Nat) {wire : Wire} {items : List Item}
    (carries : wire.Carries items) :
    ∃ next now,
      frameBytes recorder (frameDecoderInit memory packet size, [])
          wire.encode = .ok (next, now) ∧
        now.map report = late hasNoData none (wire.slots items) := by
  have decodes : Decodes (packetDecoderInit packet size) (annotate 0 items) :=
    decodes_annotate 0 items _ ⟨rfl, rfl, rfl⟩
  rw [Wire.Carries, Wire.payload, ← annotate_bytes 0 items] at carries
  obtain ⟨middle, first, head, start, reached, reports⟩ :=
    frameBytes_frames wire.frames (splitting_init memory packet size) rfl
      decodes carries []
  obtain ⟨next, now, tail, reported⟩ :=
    frameBytes_cut wire.cut
      (splitting_frameBytes (splitting_init memory packet size) head) start
      reached (take_bytes carries).2 ([] ++ first)
  refine ⟨next, [] ++ first ++ now, ?_, ?_⟩
  · rw [Wire.encode, frameBytes_append, head]
    exact tail
  · have whole := reports (ticks ((((annotate 0 items).map Prod.snd).drop
      (wire.frames.flatMap Frame.payload).length).take
        wire.cut.payload.length))
    rw [← List.map_drop, reported] at whole
    rw [List.nil_append, List.map_append, ← whole, List.map_drop]
    rfl

/-- The calls of the byte machine are those of `frame_decoder_proc`. -/
theorem callbacks_of_frameBytes {fd next : FrameDecoder}
    {bytes : List UInt8} {calls : List Callback} (splitting : Splitting fd)
    (run : frameBytes recorder (fd, []) bytes = .ok (next, calls)) :
    callbacks fd bytes = calls := by
  have follows := frameDecoderProc_frameBytes recorder fd [] bytes splitting
  rw [run] at follows
  exact follows.2.1

/--
On a stream of the grammar, `frame_decoder_proc` returns the length of the
stream and makes exactly the calls that are due, if and only if the length is
an `int` and every complete record without data is followed by another payload
byte before the next complete bus frame and before the end of the stream.
-/
theorem frameDecoderProc_wire_iff (memory : FrameDecoder) (packet : OvPacket)
    (size : Nat) {wire : Wire} {items : List Item}
    (carries : wire.Carries items) :
    (frameDecoderReturn
          (frameDecoderProc recorder (frameDecoderInit memory packet size) []
            wire.encode) = wire.encode.length ∧
        (callbacks (frameDecoderInit memory packet size)
          wire.encode).map report = prompt (wire.slots items)) ↔
      wire.encode.length < 2 ^ 31 ∧
        Followed hasNoData (wire.slots items) := by
  obtain ⟨next, now, run, reported⟩ :=
    frameBytes_wire memory packet size carries
  have follows := frameDecoderProc_frameBytes recorder
    (frameDecoderInit memory packet size) [] wire.encode
    (splitting_init memory packet size)
  rw [run] at follows
  obtain ⟨consumed, user, -⟩ := follows
  rw [callbacks, user, reported, late_eq_prompt_iff, frameDecoderReturn,
    consumed, toInt_eq_self_iff]

theorem plain_mem : (0xa0 : UInt8) = 0xa0 ∨ (0xa0 : UInt8) = 0xa2 :=
  .inl rfl

/-- A record without data. -/
def emptyRecord : Record where
  magic := 0xa0
  flags := 0x00
  size := 0
  delta := [0x05]
  data := []
  magic_mem := plain_mem
  size_le := by decide
  delta_pos := by decide
  delta_le := by decide
  data_length := by decide

theorem recordFirst_length :
    ([0xa0, 0x00, 0x00, 0x00, 0x05, 0xa1] : List UInt8).length =
      2 * ((0x02 : UInt8).toNat + 1) :=
  rfl

/-- A frame that starts with the record, and one that ends with it. -/
def recordFirst : Wire :=
  ⟨[.sdram 0x02 [0xa0, 0x00, 0x00, 0x00, 0x05, 0xa1] recordFirst_length],
    .nothing⟩

@[inherit_doc recordFirst]
def recordLast : Wire :=
  ⟨[.sdram 0x02 [0xa1, 0xa0, 0x00, 0x00, 0x00, 0x05] rfl], .nothing⟩

/-- The record is reported with the filler behind it. -/
theorem frameDecoderProc_recordFirst :
    frameDecoderReturn
          (frameDecoderProc recorder (zeroed 8203) [] recordFirst.encode) =
        recordFirst.encode.length ∧
      (callbacks (zeroed 8203) recordFirst.encode).map report =
        prompt (recordFirst.slots [.record emptyRecord, .filler]) := by
  have carries : recordFirst.Carries [.record emptyRecord, .filler] :=
    ⟨[], rfl⟩
  refine (frameDecoderProc_wire_iff _ _ 8203 carries).mpr ⟨by decide, ?_⟩
  have slots : recordFirst.slots [.record emptyRecord, .filler] =
      [.tick none, .tick none, .tick none, .tick none,
        .tick (some (emptyRecord.packet 0)), .tick none] := by
    decide
  rw [slots]
  simp [followed_tick_none, followed_tick_some, followed_nil]

/-- A record without data at the end of the stream is not reported. -/
theorem recordLast_not_reported :
    recordLast.Carries [.filler, .record emptyRecord] ∧
      (callbacks (zeroed 8203) recordLast.encode).map report ≠
        prompt (recordLast.slots [.filler, .record emptyRecord]) := by
  refine ⟨⟨[], rfl⟩, ?_⟩
  decide +kernel

end OpenVizsla.Decoder.WireDecoding
