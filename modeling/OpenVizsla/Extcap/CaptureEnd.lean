import Mathlib
import OpenVizsla.Extcap.Session
import OpenVizsla.Extcap.WindowRule

/-!
# The end of a capture

When a capture stops, the packets of a transaction without an answer are still
in the queue.  With the NAK filter switched on, `discard_queued_packets` frees
them, although no NAK has arrived.  Nothing else is lost.
-/

namespace OpenVizsla.Extcap.CaptureEnd

open OpenVizsla.Foundation.Runs
open OpenVizsla.Decoder.Packet
open OpenVizsla.Decoder.Reported
open OpenVizsla.Extcap.Filter
open OpenVizsla.Extcap.WindowRule
open OpenVizsla.Extcap.Session

/-- The records of the packets of the bus, in order. -/
def records (data : HandlerData) : List OvPacket → List PcapPacket
  | [] => []
  | packet :: rest =>
      if packet.size > 0 then
        recordOf packet data :: records (advanceClock packet data) rest
      else
        records (advanceClock packet data) rest

/-- The records of the packets follow the header, possibly among others. -/
def Present (packets : List PcapPacket) (header contents : List UInt8) :
    Prop :=
  ∃ written, packets.Sublist written ∧
    contents = header ++ written.flatMap record

/-- The handler of a capture that filters NAKs only. -/
def naksFiltered (ts : Timespec) (linktype : UInt32) (out debug : Output) :
    HandlerData :=
  startHandler ts ⟨linktype, true, false⟩ out debug

/--
When the file is closed, all packets of the bus are in it but those of the
transactions that a NAK has completed.
-/
def NothingLost (ts : Timespec) (linktype : UInt32) (out debug : Output)
    (packets : List OvPacket) : Prop :=
  ∃ data, run handle (naksFiltered ts linktype out debug) packets =
      some data ∧
    Present
      (kept true false (records (naksFiltered ts linktype out debug) packets))
      (writePcapHeader linktype out).contents
      (closeHandler data).out.contents

/-! ## The records of a run -/

/-- The clock is all that the records depend on. -/
theorem records_congr {data data' : HandlerData}
    (seconds : data.utcTs = data'.utcTs)
    (offset : data.tsOffset = data'.tsOffset)
    (last : data.lastOvTs = data'.lastOvTs) (packets : List OvPacket) :
    records data packets = records data' packets := by
  induction packets generalizing data data' with
  | nil => rfl
  | cons packet rest ih =>
      have seconds' : (advanceClock packet data).utcTs =
          (advanceClock packet data').utcTs := by
        simp only [advanceClock, seconds, offset, last]
      have offset' : (advanceClock packet data).tsOffset =
          (advanceClock packet data').tsOffset := by
        simp only [advanceClock, offset, last]
      have record' : recordOf packet data = recordOf packet data' := by
        simp only [recordOf, pcapPacket, seconds', offset']
      rw [records, records, ih seconds' offset' rfl, record']

theorem records_handle {packet : OvPacket} {data next : HandlerData}
    (handled : handle data packet = some next) (rest : List OvPacket) :
    records (advanceClock packet data) rest = records next rest := by
  obtain ⟨seconds, offset, last⟩ := clock_of_handle handled
  exact records_congr seconds.symm offset.symm last.symm rest

/-- The filter does not see the clock, and not the copy of the output. -/
theorem filters_retimed {base : List UInt8} {data : HandlerData}
    {settled pending : List PcapPacket}
    (filters : Filters base data settled pending) (debug : Output)
    (utcTs tsOffset : UInt32) (lastOvTs : UInt64) :
    Filters base
      { data with
        debug := debug
        utcTs := utcTs
        tsOffset := tsOffset
        lastOvTs := lastOvTs }
      settled pending where
  sound := filters.sound
  contents := filters.contents
  queue := filters.queue
  left := filters.left
  tracks := filters.tracks
  empty := filters.empty
  out := filters.out
  transaction := filters.transaction
  unsplit := filters.unsplit

/-- The calls of `packet_handler` filter the records. -/
theorem filters_handle {base : List UInt8} {data : HandlerData}
    {settled pending : List PcapPacket} {packets : List OvPacket}
    (filters : Filters base data settled pending)
    (decoded : ∀ packet ∈ packets, Decoded packet) :
    ∃ finish settled' pending',
      run handle data packets = some finish ∧
        settled' ++ pending' = settled ++ pending ++ records data packets ∧
        Filters base finish settled' pending' ∧
        finish.filterNaks = data.filterNaks ∧
        finish.filterSofs = data.filterSofs := by
  induction packets generalizing data settled pending with
  | nil =>
      exact ⟨data, settled, pending, rfl, (List.append_nil _).symm, filters,
        rfl, rfl⟩
  | cons packet rest ih =>
      have first := decoded packet List.mem_cons_self
      have later : ∀ packet ∈ rest, Decoded packet := fun other member =>
        decoded other (List.mem_cons_of_mem packet member)
      by_cases positive : packet.size > 0
      · have filters' : Filters base (arrived packet data) settled pending :=
          filters_retimed filters _ _ _ _
        have nonempty := recordOf_nonempty data first positive
        obtain ⟨next, settled', pending', accepted, split, after, naks,
          sofs⟩ := filters'.accepts nonempty
        have handled : handle data packet = some next := by
          rw [handle_of_pos positive]
          exact accepted
        obtain ⟨finish, settled'', pending'', reached, all, filters'', naks',
          sofs'⟩ := ih after later
        refine ⟨finish, settled'', pending'', ?_, ?_, filters'',
          naks'.trans naks, sofs'.trans sofs⟩
        · exact run_cons_eq_some_iff.mpr ⟨_, handled, reached⟩
        · rw [all, split, records, if_pos positive, records_handle handled,
            List.append_assoc, List.singleton_append]
      · have handled : handle data packet =
            some (advanceClock packet data) := handle_of_not_pos positive
        have filters' : Filters base (advanceClock packet data) settled
            pending := filters_retimed filters _ _ _ _
        obtain ⟨finish, settled', pending', reached, all, filters'', naks,
          sofs⟩ := ih filters' later
        refine ⟨finish, settled', pending', ?_, ?_, filters'', naks, sofs⟩
        · exact run_cons_eq_some_iff.mpr ⟨_, handled, reached⟩
        · rw [all, records, if_neg positive]

/-! ## The end -/

/-- What is present has its place in the file. -/
theorem length_of_present {packets : List PcapPacket}
    {header contents : List UInt8}
    (present : Present packets header contents) :
    header.length + (packets.flatMap record).length ≤ contents.length := by
  obtain ⟨written, sublist, rfl⟩ := present
  rw [List.length_append]
  exact Nat.add_le_add_left (sublist.flatMap record).length_le _

theorem writePcapHeader_sound {out : Output} (sound : Sound out)
    (linktype : UInt32) : Sound (writePcapHeader linktype out) := by
  have number (value : UInt32) : uint32Bytes value ≠ [] := by
    simp [uint32Bytes]
  have half (value : UInt16) : uint16Bytes value ≠ [] := by
    simp [uint16Bytes]
  have magic := (writeData_sound sound (number pcapNanosecMagic)).1
  have major := (writeData_sound magic (half 2)).1
  have minor := (writeData_sound major (half 4)).1
  have zone := (writeData_sound minor (number 0)).1
  have accuracy := (writeData_sound zone (number 0)).1
  have length := (writeData_sound accuracy (number 65535)).1
  have type := (writeData_sound length (number linktype)).1
  exact (flushData_sound type).1

/--
With the NAK filter, and when all writes succeed, nothing is lost exactly when
the capture does not stop inside a transaction.
-/
theorem nothingLost_iff (ts : Timespec) (linktype : UInt32) {out : Output}
    (sound : Sound out) (debug : Output) {packets : List OvPacket}
    (decoded : ∀ packet ∈ packets, Decoded packet) :
    NothingLost ts linktype out debug packets ↔
      ¬ InTransaction
        ((records (naksFiltered ts linktype out debug) packets).map
          PcapPacket.pid) := by
  have initial : Filters (writePcapHeader linktype out).contents
      (naksFiltered ts linktype out debug) [] [] := by
    have sound' : Sound (naksFiltered ts linktype out debug).out :=
      writePcapHeader_sound sound linktype
    exact filters_initial sound' rfl rfl
  obtain ⟨finish, settled, pending, reached, all, filters, naks, sofs⟩ :=
    filters_handle initial decoded
  have naks' : finish.filterNaks = true := naks
  have sofs' : finish.filterSofs = false := sofs
  have all' : settled ++ pending =
      records (naksFiltered ts linktype out debug) packets := by
    simpa using all
  have closed : (closeHandler finish).out.contents =
      finish.out.contents := by
    rw [closeHandler, discardQueuedPackets, naks']
    rfl
  have contents := filters.contents
  have left := filters.left
  rw [naks', sofs'] at contents left
  rw [← all', ← filters.pending_eq_nil_iff, NothingLost, ← all', left]
  constructor
  · rintro ⟨data, reached', present⟩
    rw [reached] at reached'
    cases reached'
    have length := length_of_present present
    rw [closed, contents, List.flatMap_append, List.length_append,
      List.length_append] at length
    have empty : pending.flatMap record = [] := by
      apply List.eq_nil_of_length_eq_zero
      omega
    rw [List.flatMap_eq_nil_iff] at empty
    apply List.eq_nil_iff_forall_not_mem.mpr
    exact fun packet member => record_ne_nil packet (empty packet member)
  · rintro rfl
    refine ⟨finish, reached, kept true false settled, ?_, ?_⟩
    · rw [List.append_nil]
    · rw [closed, contents]

/-- Two polls of a device, the second one without an answer. -/
def unansweredPoll : List OvPacket :=
  [pidPacket 0 usbPidTokenIn, pidPacket 1 usbPidHandshakeNak,
    pidPacket 2 usbPidTokenIn]

/-- Up to the answer of the first one, nothing is lost. -/
theorem answeredPoll_not_lost :
    NothingLost ⟨0, 0⟩ 288 (newFile true) (newFile true)
      (unansweredPoll.take 2) := by
  have sound : Sound (newFile true) := ⟨rfl, fun _ => rfl⟩
  refine (nothingLost_iff ⟨0, 0⟩ 288 sound (newFile true) ?_).mpr ?_
  · decide
  · decide +kernel

/-- The second poll is lost. -/
theorem unansweredPoll_lost :
    ¬ NothingLost ⟨0, 0⟩ 288 (newFile true) (newFile true)
      unansweredPoll := by
  rintro ⟨data, reached, present⟩
  have length := length_of_present present
  have needed : (writePcapHeader 288 (newFile true)).contents.length +
      ((kept true false (records (naksFiltered ⟨0, 0⟩ 288 (newFile true)
        (newFile true)) unansweredPoll)).flatMap record).length = 41 := by
    decide +kernel
  have written : (run handle (naksFiltered ⟨0, 0⟩ 288 (newFile true)
      (newFile true)) unansweredPoll).map (fun data =>
        (closeHandler data).out.contents.length) = some 24 := by
    decide +kernel
  rw [reached] at written
  have short : (closeHandler data).out.contents.length = 24 :=
    Option.some.inj written
  omega

end OpenVizsla.Extcap.CaptureEnd
