import OpenVizsla.Foundation.Records
import OpenVizsla.Extcap.CaptureEnd

/-!
# The format of the output file

A pcap file is a header with the type of the link, and records with their
lengths.  `readPcap` is what a reader of such files makes of one; the tool
itself reads none.  A file that was not written to its end still has its first
records.
-/

namespace OpenVizsla.Extcap.Pcap

open OpenVizsla.Foundation.Records
open OpenVizsla.Extcap.Filter
open OpenVizsla.Extcap.Session

/-! ## Numbers -/

/-- The number that a text begins with. -/
def number (text : List UInt8) : UInt32 :=
  .ofNat ((text.getD 0 0).toNat + 0x100 * (text.getD 1 0).toNat +
    0x10000 * (text.getD 2 0).toNat + 0x1000000 * (text.getD 3 0).toNat)

@[simp]
theorem length_uint32Bytes (value : UInt32) : (uint32Bytes value).length = 4 :=
  rfl

@[simp]
theorem number_uint32Bytes (value : UInt32) (rest : List UInt8) :
    number (uint32Bytes value ++ rest) = value := by
  have below := value.toNat_lt
  apply UInt32.toNat_inj.mp
  simp only [number, uint32Bytes, List.cons_append, List.getD_cons_zero,
    List.getD_cons_succ, UInt32.toNat_toUInt8, UInt32.toNat_shiftRight,
    UInt32.toNat_ofNat', UInt32.reduceToNat, Nat.shiftRight_eq_div_pow,
    Nat.reduceMod, Nat.reducePow]
  omega

/-! ## Records -/

/-- The numbers in front of the captured bytes. -/
def recordHeader (packet : PcapPacket) : List UInt8 :=
  uint32Bytes packet.tsSec ++ (uint32Bytes packet.tsNsec ++
    (uint32Bytes packet.inclLen ++ uint32Bytes packet.origLen))

@[simp]
theorem length_recordHeader (packet : PcapPacket) :
    (recordHeader packet).length = 16 :=
  rfl

theorem record_eq (packet : PcapPacket) :
    record packet = recordHeader packet ++
      packet.captured.take packet.inclLen.toNat := by
  simp only [record, recordHeader, List.append_assoc]

/-- The first record of a text, when it is complete. -/
def readRecord (text : List UInt8) : Option (PcapPacket × List UInt8) :=
  let inclLen := number (text.drop 8)
  if 16 + inclLen.toNat ≤ text.length then
    some (
      { tsSec := number text
        tsNsec := number (text.drop 4)
        inclLen := inclLen
        origLen := number (text.drop 12)
        captured := (text.drop 16).take inclLen.toNat },
      text.drop (16 + inclLen.toNat))
  else
    none

/-- The packet has all captured bytes and no others. -/
def Exact (packet : PcapPacket) : Prop :=
  packet.captured.length = packet.inclLen.toNat

instance (packet : PcapPacket) : Decidable (Exact packet) :=
  inferInstanceAs (Decidable (_ = _))

section Records

variable {packet : PcapPacket}

theorem record_of_exact (exact : Exact packet) :
    record packet = recordHeader packet ++ packet.captured := by
  rw [record_eq, List.take_of_length_le exact.le]

/-- Behind the numbers of a record, its bytes are read. -/
theorem readRecord_recordHeader (packet : PcapPacket) (rest : List UInt8) :
    readRecord (recordHeader packet ++ rest) =
      if packet.inclLen.toNat ≤ rest.length then
        some ({ packet with
            captured := rest.take packet.inclLen.toNat },
          rest.drop packet.inclLen.toNat)
      else
        none := by
  have seconds : number (recordHeader packet ++ rest) = packet.tsSec := by
    rw [recordHeader, List.append_assoc, number_uint32Bytes]
  have nanoseconds : number ((recordHeader packet ++ rest).drop 4) =
      packet.tsNsec := by
    show number (uint32Bytes packet.tsNsec ++ _) = _
    exact number_uint32Bytes packet.tsNsec _
  have included : number ((recordHeader packet ++ rest).drop 8) =
      packet.inclLen := by
    show number (uint32Bytes packet.inclLen ++ _) = _
    exact number_uint32Bytes packet.inclLen _
  have original : number ((recordHeader packet ++ rest).drop 12) =
      packet.origLen := by
    show number (uint32Bytes packet.origLen ++ _) = _
    exact number_uint32Bytes packet.origLen _
  have behind : (recordHeader packet ++ rest).drop 16 = rest :=
    List.drop_left' rfl
  simp only [readRecord, seconds, nanoseconds, included, original, behind,
    List.length_append, length_recordHeader, Nat.add_le_add_iff_left,
    ← List.drop_drop]

theorem readRecord_of_short {text : List UInt8} (short : text.length < 16) :
    readRecord text = none := by
  rw [readRecord, if_neg]
  omega

/-- A part of a record is no record. -/
theorem readRecord_cut (exact : Exact packet) {part : List UInt8}
    (cut : part <+: record packet) (less : part ≠ record packet) :
    readRecord part = none := by
  rw [record_of_exact exact] at cut less
  rcases cases_of_prefix_append cut with inHeader | ⟨rest, rfl, inData⟩
  · by_cases whole : part = recordHeader packet
    · have read := readRecord_recordHeader packet []
      rw [List.append_nil, ← whole] at read
      rw [read, if_neg]
      intro none'
      have empty : packet.captured = [] :=
        List.eq_nil_of_length_eq_zero
          (Nat.le_zero.mp (exact.trans_le none'))
      exact less (by rw [whole, empty, List.append_nil])
    · exact readRecord_of_short
        (inHeader.length_le.lt_of_ne fun same =>
          whole (inHeader.eq_of_length same))
  · rw [readRecord_recordHeader, if_neg]
    intro complete
    rw [← exact] at complete
    exact less (by rw [inData.eq_of_length_le complete])

/-- The packet without what the buffer holds behind it. -/
def trimmed (packet : PcapPacket) : PcapPacket :=
  { packet with captured := packet.captured.take packet.inclLen.toNat }

theorem record_trimmed (packet : PcapPacket) :
    record (trimmed packet) = record packet := by
  simp [record, trimmed]

theorem exact_trimmed
    (enough : packet.inclLen.toNat ≤ packet.captured.length) :
    Exact (trimmed packet) :=
  List.length_take_of_le enough

/-- The records of a file. -/
def recordCode : Code UInt8 PcapPacket where
  write := record
  read := readRecord
  Valid := Exact
  read_write := by
    intro packet rest exact
    rw [record_of_exact exact, List.append_assoc, readRecord_recordHeader,
      if_pos, List.take_left' exact, List.drop_left' exact]
    rw [List.length_append, ← exact]
    exact Nat.le_add_right _ _
  read_cut := fun _ _ exact => readRecord_cut exact
  read_shorter := by
    intro text packet rest found
    rw [readRecord] at found
    split at found
    · rename_i enough
      cases found
      rw [List.length_drop]
      omega
    · cases found

end Records

/-! ## Files -/

/-- The header of a file. -/
def pcapHeader (linktype : UInt32) : List UInt8 :=
  uint32Bytes pcapNanosecMagic ++ uint16Bytes 2 ++ uint16Bytes 4 ++
    uint32Bytes 0 ++ uint32Bytes 0 ++ uint32Bytes 65535 ++
    uint32Bytes linktype

@[simp]
theorem length_pcapHeader (linktype : UInt32) :
    (pcapHeader linktype).length = 24 :=
  rfl

/-- A file with a header and records. -/
def pcapFile (linktype : UInt32) (packets : List PcapPacket) : List UInt8 :=
  pcapHeader linktype ++ recordCode.writeAll packets

theorem pcapFile_trimmed (linktype : UInt32) (packets : List PcapPacket) :
    pcapFile linktype (packets.map trimmed) = pcapFile linktype packets := by
  have same : recordCode.writeAll (packets.map trimmed) =
      recordCode.writeAll packets := by
    simp only [Code.writeAll, List.flatMap_map]
    exact List.flatMap_congr fun packet _ => record_trimmed packet
  rw [pcapFile, pcapFile, same]

/-- The type of the link, and the records that are complete. -/
def readPcap (text : List UInt8) : Option (UInt32 × List PcapPacket) :=
  let linktype := number (text.drop 20)
  if pcapHeader linktype <+: text then
    some (linktype, (recordCode.readAll (text.drop 24)).1)
  else
    none

theorem readPcap_pcapHeader (linktype : UInt32) (rest : List UInt8) :
    readPcap (pcapHeader linktype ++ rest) =
      some (linktype, (recordCode.readAll rest).1) := by
  have type : number ((pcapHeader linktype ++ rest).drop 20) = linktype := by
    show number (uint32Bytes linktype ++ _) = _
    exact number_uint32Bytes linktype _
  have behind : (pcapHeader linktype ++ rest).drop 24 = rest :=
    List.drop_left' rfl
  simp only [readPcap, type, behind, List.prefix_append, if_true]

/--
The reader of a file that is cut off anywhere behind the header finds its first
records, and all of them when nothing is cut off.
-/
theorem readPcap_of_isPrefix {linktype : UInt32} {packets : List PcapPacket}
    (exact : ∀ packet ∈ packets, Exact packet) {text : List UInt8}
    (cut : text <+: pcapFile linktype packets) (header : 24 ≤ text.length) :
    ∃ found, readPcap text = some (linktype, found) ∧ found <+: packets ∧
      (text = pcapFile linktype packets → found = packets) := by
  rcases cases_of_prefix_append cut with inHeader | ⟨rest, rfl, part⟩
  · have whole : text = pcapHeader linktype :=
      inHeader.eq_of_length_le header
    have read := readPcap_pcapHeader linktype []
    rw [List.append_nil, recordCode.readAll_nil, ← whole] at read
    refine ⟨[], read, List.nil_prefix, fun complete => ?_⟩
    rw [whole, pcapFile, List.self_eq_append_right] at complete
    have none' := recordCode.readAll_writeAll exact
    rw [complete, recordCode.readAll_nil] at none'
    exact congrArg Prod.fst none'
  · refine ⟨_, readPcap_pcapHeader linktype rest,
      (recordCode.readAll_of_isPrefix exact part).1, fun complete => ?_⟩
    rw [pcapFile, List.append_cancel_left_eq] at complete
    rw [complete, recordCode.readAll_writeAll exact]

/-- What `write_pcap_header` writes when no call fails. -/
theorem writePcapHeader_contents {out : Output} (sound : Sound out)
    (linktype : UInt32) :
    (writePcapHeader linktype out).contents =
      out.contents ++ pcapHeader linktype := by
  have number' (value : UInt32) : uint32Bytes value ≠ [] := by
    simp [uint32Bytes]
  have half (value : UInt16) : uint16Bytes value ≠ [] := by
    simp [uint16Bytes]
  obtain ⟨magic, one⟩ := writeData_sound sound (number' pcapNanosecMagic)
  obtain ⟨major, two⟩ := writeData_sound magic (half 2)
  obtain ⟨minor, three⟩ := writeData_sound major (half 4)
  obtain ⟨zone, four⟩ := writeData_sound minor (number' 0)
  obtain ⟨accuracy, five⟩ := writeData_sound zone (number' 0)
  obtain ⟨length, six⟩ := writeData_sound accuracy (number' 65535)
  obtain ⟨type, seven⟩ := writeData_sound length (number' linktype)
  have last := (flushData_sound type).2
  simp only [writePcapHeader, writeUint32, writeUint16, last, seven, six,
    five, four, three, two, one, pcapHeader, List.append_assoc]

end OpenVizsla.Extcap.Pcap
