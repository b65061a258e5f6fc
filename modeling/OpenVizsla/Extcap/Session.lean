import Mathlib
import OpenVizsla.Foundation.Runs
import OpenVizsla.Decoder.Reported
import OpenVizsla.Extcap.FilterSteps

/-!
# A capture of the extcap tool

What `start_capture` does with the handler before the first packet and after
the last one.  In between, `packet_handler` is called for one packet after the
other.
-/

namespace OpenVizsla.Extcap.Session

open OpenVizsla.Decoder.Packet
open OpenVizsla.Decoder.Reported
open OpenVizsla.Extcap.Filter
open OpenVizsla.Extcap.FilterSteps

/-! ## The functions -/

/-- `struct timespec` -/
structure Timespec where
  tvSec : Int
  tvNsec : Nat

/-- `PCAP_NANOSEC_MAGIC` -/
def pcapNanosecMagic : UInt32 := 0xa1b23c4d

/-- The bytes of a `uint16_t`. -/
def uint16Bytes (value : UInt16) : List UInt8 :=
  [value.toUInt8, (value >>> 8).toUInt8]

def writeUint16 (value : UInt16) (out : Output) : Output :=
  writeData (uint16Bytes value) out

def writePcapHeader (linktype : UInt32) (out : Output) : Output :=
  let out := writeUint32 pcapNanosecMagic out
  let out := writeUint16 2 out
  let out := writeUint16 4 out
  let out := writeUint32 0 out
  let out := writeUint32 0 out
  let out := writeUint32 65535 out
  flushData (writeUint32 linktype out)

/-- The arguments of `start_capture` that the handler depends on. -/
structure Options where
  linktype : UInt32
  filterNaks : Bool
  filterSofs : Bool

/-- The handler that `start_capture` passes to `ov_capture_start`. -/
def startHandler (ts : Timespec) (options : Options) (out debug : Output) :
    HandlerData where
  out := writePcapHeader options.linktype out
  debug := writePcapHeader options.linktype debug
  utcTs := UInt32.ofInt ts.tvSec
  tsOffset := UInt32.ofNat (ts.tvNsec / 17 + ts.tvNsec / 850)
  lastOvTs := 0
  filterNaks := options.filterNaks
  filterSofs := options.filterSofs
  st := .default
  queue := []

/-- The handler after a call of `packet_handler`. -/
def handle (data : HandlerData) (packet : OvPacket) : Option HandlerData :=
  (packetHandler data packet).map Prod.fst

def closeFile (out : Output) : Output :=
  { out with isOpen := false }

/-- What `start_capture` does when `ov_capture_dispatch` has returned. -/
def closeHandler (data : HandlerData) : HandlerData :=
  let data := discardQueuedPackets data
  { data with
    out := closeFile data.out
    debug := closeFile data.debug }

/-! ## One call -/

/-- The handler when `packet_handler` calls `filter_packet`. -/
def arrived (packet : OvPacket) (data : HandlerData) : HandlerData :=
  let data := advanceClock packet data
  { data with debug := writePacket (pcapPacket packet data) data.debug }

/-- The record of a packet, with the time of its arrival. -/
def recordOf (packet : OvPacket) (data : HandlerData) : PcapPacket :=
  pcapPacket packet (advanceClock packet data)

theorem handle_of_pos {packet : OvPacket} {data : HandlerData}
    (positive : packet.size > 0) :
    handle data packet =
      filterPacket (arrived packet data) (recordOf packet data) := by
  rw [handle, packetHandler, if_pos positive, Option.map_map]
  exact Option.map_id'

theorem handle_of_not_pos {packet : OvPacket} {data : HandlerData}
    (empty : ¬ packet.size > 0) :
    handle data packet = some (advanceClock packet data) := by
  rw [handle, packetHandler, if_neg empty]
  rfl

/-- A packet of the bus has captured bytes, also when it is truncated. -/
theorem ovPacketCapturedSize_pos {packet : OvPacket}
    (positive : packet.size > 0) :
    0 < (ovPacketCapturedSize packet).toNat := by
  unfold ovPacketCapturedSize
  split
  · decide
  · exact UInt16.lt_iff_toNat_lt.mp positive

theorem recordOf_nonempty {packet : OvPacket} (data : HandlerData)
    (decoded : Decoded packet) (positive : packet.size > 0) :
    (recordOf packet data).Nonempty := by
  have captured := ovPacketCapturedSize_pos positive
  constructor
  · rw [UInt32.lt_iff_toNat_lt]
    show 0 < (ovPacketCapturedSize packet).toUInt32.toNat
    rw [UInt16.toNat_toUInt32]
    exact captured
  · show packet.data ≠ []
    rintro absent
    rw [Decoded, absent] at decoded
    exact absurd (captured.trans_le decoded) (Nat.lt_irrefl 0)

/-- What an accepted packet does, with the assertions that held. -/
theorem disposes_of_filterPacket {packet : PcapPacket}
    {data next : HandlerData} (accepted : filterPacket data packet = some next) :
    Asserted packet data ∧ Disposes packet data next := by
  rw [filterPacket] at accepted
  split at accepted
  · rename_i asserted
    cases accepted
    refine ⟨asserted, disposes_filterBranches ?_⟩
    rintro (default | split)
    · exact asserted.1 default
    · exact asserted.2.1 split
  · cases accepted

/-- The filter does not touch the clock. -/
theorem clock_of_disposes {packet : PcapPacket} {data next : HandlerData}
    (disposes : Disposes packet data next) :
    next.utcTs = data.utcTs ∧ next.tsOffset = data.tsOffset ∧
      next.lastOvTs = data.lastOvTs := by
  cases disposes <;> exact ⟨rfl, rfl, rfl⟩

/-- Every call sets the clock in the same way. -/
theorem clock_of_handle {packet : OvPacket} {data next : HandlerData}
    (handled : handle data packet = some next) :
    next.utcTs = (advanceClock packet data).utcTs ∧
      next.tsOffset = (advanceClock packet data).tsOffset ∧
      next.lastOvTs = packet.timestamp := by
  by_cases positive : packet.size > 0
  · rw [handle_of_pos positive] at handled
    have same := clock_of_disposes (disposes_of_filterPacket handled).2
    exact same
  · rw [handle_of_not_pos positive] at handled
    cases handled
    exact ⟨rfl, rfl, rfl⟩

/-! ## Small packets -/

/-- A packet of the bus that consists of its identifier. -/
def pidPacket (timestamp : UInt64) (pid : UInt8) : OvPacket :=
  ⟨0xa0, 0, 1, timestamp, [pid]⟩

/-- A new file whose calls all have the same result. -/
def newFile (succeeds : Bool) : Output :=
  ⟨true, [], 0, fun _ => succeeds⟩

end OpenVizsla.Extcap.Session
