import OpenVizsla.Decoder.WirePackets
import OpenVizsla.Extcap.Clock
import OpenVizsla.Extcap.Tool

/-!
# From the wire to the file

On the wire, a packet record has the ticks since the record before it; in the
file, a packet has the time of day.  A reader of the file finds the records of
the wire with the times of their ticks, as far as the filter leaves them.
-/

namespace OpenVizsla.Extcap.WireFile

open OpenVizsla.Foundation.Runs
open OpenVizsla.Register.Map
open OpenVizsla.Decoder.Packet
open OpenVizsla.Decoder.Reported
open OpenVizsla.Decoder.WireGrammar
open OpenVizsla.Decoder.WirePackets
open OpenVizsla.Capture.Loop
open OpenVizsla.Capture.Buffer
open OpenVizsla.Capture.Delivery
open OpenVizsla.Capture.Client
open OpenVizsla.Extcap.Filter
open OpenVizsla.Extcap.WindowRule
open OpenVizsla.Extcap.Session
open OpenVizsla.Extcap.CaptureEnd
open OpenVizsla.Extcap.Clock
open OpenVizsla.Extcap.Pcap
open OpenVizsla.Extcap.Tool

/-! ## Records of the wire -/

/-- The packet of the file for a record at a number of ticks. -/
def stamp (ticks : Nat) (entry : Record) : PcapPacket where
  tsSec := UInt32.ofNat (ticks / 60000000)
  tsNsec := UInt32.ofNat (ticks % 60000000 * 17 - ticks % 60000000 / 3)
  inclLen := UInt32.ofNat entry.data.length
  origLen := UInt32.ofNat entry.size.toNat
  captured := entry.data

/-- The packets of the file for items that follow `ticks`. -/
def stamped (ticks : Nat) : List Item → List PcapPacket
  | [] => []
  | .filler :: rest => stamped ticks rest
  | .record entry :: rest =>
      let ticks := ticks + littleEndian entry.delta
      if entry.size > 0 then stamp ticks entry :: stamped ticks rest
      else stamped ticks rest

/-- No pause between two records overflows with the ticks of a second. -/
def SmallPauses (items : List Item) : Prop :=
  ∀ entry, .record entry ∈ items →
    littleEndian entry.delta < 2 ^ 64 - 60000000

theorem ovPacketCapturedSize_packet (entry : Record) (elapsed : Nat) :
    (ovPacketCapturedSize (entry.packet elapsed)).toNat =
      entry.data.length := by
  rw [entry.data_length, capturedSize, ovPacketCapturedSize]
  show (if entry.flags &&& ovFlagsHf0Trunc ≠ 0 then ovMaxPacketSize
    else entry.size).toNat = _
  split <;> rfl

/-- The clock of the file follows the ticks of the wire. -/
theorem recordOf_packet {data : HandlerData} {ticks elapsed : Nat}
    (shows : Shows data ticks) (last : data.lastOvTs = UInt64.ofNat elapsed)
    {entry : Record} (small : littleEndian entry.delta < 2 ^ 64 - 60000000) :
    Shows (advanceClock (entry.packet elapsed) data)
        (ticks + littleEndian entry.delta) ∧
      recordOf (entry.packet elapsed) data =
        stamp (ticks + littleEndian entry.delta) entry := by
  have pause : ((entry.packet elapsed).timestamp - data.lastOvTs).toNat =
      littleEndian entry.delta := by
    show (UInt64.ofNat (elapsed + littleEndian entry.delta) -
      data.lastOvTs).toNat = _
    rw [last, UInt64.ofNat_add, add_sub_cancel_left,
      UInt64.toNat_ofNat_of_lt']
    exact small.trans (by decide)
  have advanced := shows_advanceClock shows (by rw [pause]; exact small)
  rw [pause] at advanced
  refine ⟨advanced, ?_⟩
  have seconds : (advanceClock (entry.packet elapsed) data).utcTs =
      UInt32.ofNat ((ticks + littleEndian entry.delta) / 60000000) := by
    apply UInt32.toNat_inj.mp
    rw [advanced.seconds, UInt32.toNat_ofNat']
  have nanoseconds : nsec (advanceClock (entry.packet elapsed) data) =
      UInt32.ofNat ((ticks + littleEndian entry.delta) % 60000000 * 17 -
        (ticks + littleEndian entry.delta) % 60000000 / 3) := by
    have bounded := advanced.bounded
    apply UInt32.toNat_inj.mp
    rw [bounded.exact, advanced.offset, UInt32.toNat_ofNat_of_lt']
    have below := bounded.nanoseconds
    rw [bounded.exact, advanced.offset] at below
    exact below.trans (by decide)
  have length : (ovPacketCapturedSize (entry.packet elapsed)).toUInt32 =
      UInt32.ofNat entry.data.length := by
    rw [← ovPacketCapturedSize_packet entry elapsed,
      UInt32.ofNat_uInt16ToNat]
  have size := UInt32.ofNat_uInt16ToNat entry.size
  unfold nsec at nanoseconds
  rw [recordOf, pcapPacket, seconds, nanoseconds, length, stamp, size]
  rfl

/-- The records of the handler are those of the wire. -/
theorem records_itemPackets {data : HandlerData} {ticks elapsed : Nat}
    (shows : Shows data ticks) (last : data.lastOvTs = UInt64.ofNat elapsed)
    {items : List Item} (small : SmallPauses items) :
    records data (itemPackets elapsed items) = stamped ticks items := by
  induction items generalizing data ticks elapsed with
  | nil => rfl
  | cons item rest ih =>
      have others : SmallPauses rest := fun entry member =>
        small entry (List.mem_cons_of_mem _ member)
      cases item with
      | filler => exact ih shows last others
      | record entry =>
          obtain ⟨advanced, same⟩ := recordOf_packet shows last
            (small entry List.mem_cons_self)
          have tail := ih advanced rfl others
          rw [itemPackets, records, stamped, tail, same]
          rfl

/-! ## Unused bytes of the buffer -/

/-- The record does not have what the buffer holds behind the packet. -/
theorem trimmed_recordOf (packet : OvPacket) (data : HandlerData) :
    trimmed (recordOf packet data) = recordOf packet.captured data := by
  have length : (ovPacketCapturedSize packet).toUInt32.toNat =
      (ovPacketCapturedSize packet).toNat := UInt16.toNat_toUInt32 _
  show trimmed (pcapPacket packet (advanceClock packet data)) =
    pcapPacket packet.captured (advanceClock packet data)
  rw [trimmed, pcapPacket, pcapPacket, length]
  rfl

theorem records_captured (data : HandlerData) (packets : List OvPacket) :
    (records data packets).map trimmed =
      records data (packets.map OvPacket.captured) := by
  induction packets generalizing data with
  | nil => rfl
  | cons packet rest ih =>
      have tail := ih (advanceClock packet data)
      rw [List.map_cons, records, records, ← trimmed_recordOf]
      show _ = if packet.size > 0 then
        _ :: records (advanceClock packet data) _
      else records (advanceClock packet data) _
      split
      · rw [List.map_cons, tail]
      · exact tail

theorem records_append (data : HandlerData)
    (first second : List OvPacket) :
    ∃ data', records data (first ++ second) =
      records data first ++ records data' second := by
  induction first generalizing data with
  | nil => exact ⟨data, rfl⟩
  | cons packet rest ih =>
      obtain ⟨data', split'⟩ := ih (advanceClock packet data)
      refine ⟨data', ?_⟩
      rw [List.cons_append, records, records, split']
      split <;> rfl

/-- A packet without data is not recorded. -/
theorem records_of_hasNoData (data : HandlerData) {packet : OvPacket}
    (none' : hasNoData packet = true) : records data [packet] = [] := by
  have empty : ovPacketCapturedSize packet = 0 := by
    simpa [hasNoData] using none'
  have size : ¬ packet.size > 0 := by
    intro positive
    have captured := ovPacketCapturedSize_pos positive
    rw [empty] at captured
    exact absurd captured (Nat.lt_irrefl 0)
  rw [records, if_neg size]
  rfl

/-! ## The rule of the filter -/

theorem kept_map {change : PcapPacket → PcapPacket}
    {packets : List PcapPacket}
    (same : (packets.map change).map PcapPacket.pid =
      packets.map PcapPacket.pid) (naks sofs : Bool) :
    kept naks sofs (packets.map change) =
      (kept naks sofs packets).map change := by
  rw [kept, kept, same, List.zipIdx_map, List.filter_map, List.map_map,
    List.map_map]
  rfl

/-- The filter looks at the identifiers of the packets only. -/
theorem finished_map {change : PcapPacket → PcapPacket}
    {packets : List PcapPacket}
    (same : ∀ packet ∈ packets, (change packet).pid = packet.pid)
    (naks sofs : Bool) :
    finished naks sofs (packets.map change) =
      (finished naks sofs packets).map change := by
  have pids {some' : List PcapPacket} (among : some' ⊆ packets) :
      (some'.map change).map PcapPacket.pid = some'.map PcapPacket.pid := by
    rw [List.map_map]
    exact List.map_congr_left fun packet member => same packet (among member)
  have all := pids (List.Subset.refl packets)
  cases naks with
  | false => exact kept_map all false sofs
  | true =>
      simp only [finished, if_true, all, List.length_map, ← List.map_take]
      exact kept_map (pids (List.take_subset _ _)) true sofs

/-- A record that has bytes keeps its identifier. -/
theorem pid_trimmed {packet : PcapPacket} (positive : 0 < packet.inclLen) :
    (trimmed packet).pid = packet.pid := by
  have some' : 0 < packet.inclLen.toNat :=
    UInt32.lt_iff_toNat_lt.mp positive
  show (packet.captured.take packet.inclLen.toNat).headD 0 = _
  obtain ⟨less, same⟩ := Nat.exists_eq_succ_of_ne_zero (Nat.ne_of_gt some')
  rw [same]
  cases h : packet.captured <;> simp [PcapPacket.pid, h]

theorem inclLen_pos_of_mem_records {data : HandlerData}
    {packets : List OvPacket} (decoded : ∀ packet ∈ packets, Decoded packet)
    {complete : PcapPacket} (member : complete ∈ records data packets) :
    0 < complete.inclLen := by
  induction packets generalizing data with
  | nil => cases member
  | cons packet rest ih =>
      obtain ⟨first, others⟩ := List.forall_mem_cons.mp decoded
      rw [records] at member
      split at member
      · rename_i positive
        rcases List.mem_cons.mp member with rfl | later
        · exact (recordOf_nonempty data first positive).1
        · exact ih others later
      · exact ih others member

/-! ## The file of a stream -/

section Capture

variable (ftdi : FtdiContext) (memory : CaptureState (Option HandlerData))
    (reg : Reg) (packet : OvPacket) (size : Nat) (ts : Timespec)
    (options : Options) {out debug : Output}
    {finish : CaptureState (Option HandlerData)} {events : List Event}
    {wire : Wire} {items : List Item}

/-- The records of the packets that the handler has seen. -/
theorem records_of_capture (normalised : ts.tvNsec < 10 ^ 9)
    (carries : wire.Carries items) (small : SmallPauses items)
    (sent : transferPayload ftdi events <+: wire.encode)
    (reached :
      run (step ftdi)
          (ovCaptureStart memory reg packet size (some packetCallback)
            (some (startHandler ts options out debug))) events =
        some finish) :
    let start := startHandler ts options out debug
    let written := (records start finish.loop.control.delivered).map trimmed
    written <+: stamped (ticksOf start) items ∧
      (¬ Muted finish.loop.control →
        transferPayload ftdi events = wire.encode →
          wire.payload = items.flatMap Item.encode →
            written = stamped (ticksOf start) items) := by
  intro start written
  obtain ⟨begun, whole, -, -⟩ :=
    decoded_of_capture ftdi memory reg packet size ts options reached
  have shows := shows_startHandler normalised options out debug
  have all : records start (itemPackets 0 items) =
      stamped (ticksOf start) items :=
    records_itemPackets shows rfl small
  have captured : written =
      records start (finish.loop.control.delivered.map OvPacket.captured) :=
    records_captured _ _
  rw [captured, ← all]
  constructor
  · obtain ⟨rest, split'⟩ := (begun.map OvPacket.captured).trans
      (packets_wire memory.loop.fd packet size carries sent)
    obtain ⟨data', recorded⟩ := records_append start
      (finish.loop.control.delivered.map OvPacket.captured) rest
    rw [← split', recorded]
    exact List.prefix_append _ _
  · intro awake everything complete
    obtain ⟨left, none', together⟩ :=
      packets_whole memory.loop.fd packet size carries complete
    obtain ⟨data', recorded⟩ := records_append start
      (finish.loop.control.delivered.map OvPacket.captured) left.toList
    rw [← together, whole awake, streamPackets, everything]
    rw [whole awake, streamPackets, everything] at recorded
    rw [recorded]
    cases left with
    | none => exact (List.append_nil _).symm
    | some last =>
        rw [Option.toList_some, records_of_hasNoData data' (none' last rfl),
          List.append_nil]

/--
When the device sends a stream of the grammar and the capture stays in the
packet buffer, a reader of the output file finds the type of the link, and,
with the times of their ticks, the first records of the stream that the rule
of the filter keeps.  When no write has failed, it finds all that the rule
keeps of those that have been seen; and while the loop runs, these are all
records of the stream.
-/
theorem capture_wire (normalised : ts.tvNsec < 10 ^ 9)
    (empty : out.contents = []) (empty' : debug.contents = [])
    (carries : wire.Carries items) (small : SmallPauses items)
    (sent : transferPayload ftdi events <+: wire.encode)
    (reached :
      run (stepWithin ftdi)
          (ovCaptureStart memory reg packet packetBufferSize
            (some packetCallback)
            (some (startHandler ts options out debug))) events =
        some finish) :
    let all := stamped (ticksOf (startHandler ts options out debug)) items
    ∃ data seen, finish.loop.control.userData = some data ∧
      seen <+: all ∧
      (¬ Muted finish.loop.control →
        transferPayload ftdi events = wire.encode →
          wire.payload = items.flatMap Item.encode → seen = all) ∧
      (24 ≤ (closeHandler data).out.contents.length →
        ∃ found, readPcap (closeHandler data).out.contents =
            some (options.linktype, found) ∧
          found <+: finished options.filterNaks options.filterSofs seen) ∧
      ((discardQueuedPackets data).out.isOpen = true →
        readPcap (closeHandler data).out.contents =
          some (options.linktype,
            finished options.filterNaks options.filterSofs seen)) := by
  have reached' := run_of_stepWithin reached
  obtain ⟨-, -, decoded, -⟩ :=
    decoded_of_capture ftdi memory reg packet packetBufferSize ts options
      reached'
  obtain ⟨first, whole⟩ := records_of_capture ftdi memory reg packet
    packetBufferSize ts options normalised carries small sent reached'
  obtain ⟨data, same, output, -⟩ := begins_of_capture ftdi memory reg packet
    packetBufferSize ts options empty empty' reached'
  have readable := output.readable fun complete member =>
    enough_of_mem_records decoded (mem_of_finished member)
  rw [← finished_map fun complete member =>
    pid_trimmed (inclLen_pos_of_mem_records decoded member)] at readable
  exact ⟨data, _, same, first, whole, readable⟩

end Capture

/-- A record of a packet that consists of its identifier. -/
def pidRecord (delta pid : UInt8) : Record where
  magic := 0xa0
  flags := 0x00
  size := 1
  delta := [delta]
  data := [pid]
  magic_mem := .inl rfl
  size_le := by decide
  delta_pos := Nat.le_refl 1
  delta_le := Nat.le_of_ble_eq_true rfl
  data_length := rfl

/-- The records of a poll, in one frame. -/
def pollWire : Wire :=
  ⟨[.sdram 0x05 [0xa0, 0, 1, 0, 5, 0x69, 0xa0, 0, 1, 0, 7, 0x5a] rfl],
    .nothing⟩

/-- Without a filter, both are in the file, 12 ticks after the start. -/
theorem capture_wire_poll :
    ∃ finish data,
      run (stepWithin ⟨512, by decide⟩)
          (started (some packetCallback)
            (some (startHandler ⟨0, 0⟩ ⟨288, false, false⟩ (newFile true)
              (newFile true)))) answeredPoll = some finish ∧
        finish.loop.control.userData = some data ∧
        readPcap (closeHandler data).out.contents =
          some (288,
            [⟨0, 84, 1, 1, [0x69]⟩, ⟨0, 200, 1, 1, [0x5a]⟩]) := by
  have outcome :
      (run (stepWithin ⟨512, by decide⟩)
          (started (some packetCallback)
            (some (startHandler ⟨0, 0⟩ ⟨288, false, false⟩ (newFile true)
              (newFile true)))) answeredPoll).map (fun finish =>
        (finish.loop.control.state, finish.loop.control.callback.isSome,
          finish.loop.control.userData.map fun data =>
            (discardQueuedPackets data).out.isOpen)) =
        some (.running, true, some true) := by
    decide +kernel
  obtain ⟨finish, reached, both⟩ := Option.map_eq_some_iff.mp outcome
  obtain ⟨running, others⟩ := Prod.mk.inj both
  obtain ⟨callback, opened⟩ := Prod.mk.inj others
  obtain ⟨data, same, isOpen⟩ := Option.map_eq_some_iff.mp opened
  have carries : pollWire.Carries
      [.record (pidRecord 5 0x69), .record (pidRecord 7 0x5a)] :=
    ⟨[], rfl⟩
  have small : SmallPauses
      [.record (pidRecord 5 0x69), .record (pidRecord 7 0x5a)] := by
    intro entry member
    simp only [List.mem_cons, Item.record.injEq, List.not_mem_nil, or_false]
      at member
    rcases member with rfl | rfl <;> decide
  have sent : transferPayload ⟨512, by decide⟩ answeredPoll =
      pollWire.encode := by
    decide +kernel
  have awake : ¬ Muted finish.loop.control := by
    rintro (stopped | unset)
    · exact stopped running
    · rw [unset] at callback
      cases callback
  obtain ⟨data', seen, same', -, whole, -, read⟩ :=
    capture_wire _ _ _ _ ⟨0, 0⟩ ⟨288, false, false⟩ (by decide) rfl rfl
      carries small (sent ▸ List.prefix_refl _) reached
  rw [same] at same'
  cases same'
  have all := whole awake sent rfl
  refine ⟨finish, data, reached, same, ?_⟩
  rw [read isOpen, all]
  decide +kernel

end OpenVizsla.Extcap.WireFile
