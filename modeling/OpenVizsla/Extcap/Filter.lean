import OpenVizsla.Decoder.Packet

/-!
# The packet filter of the extcap tool

The functions of `tools/ovextcap/main.c` between the capture loop and the
output file.  A packet becomes a record with a header of four numbers; the
filter writes it, drops it, or keeps it in a queue until it knows whether the
device has answered with NAK.

The environment decides which calls of `fwrite` and `fflush` succeed.  The
numbers are written in the byte order of the host, which is little-endian
here.
-/

namespace OpenVizsla.Extcap.Filter

open OpenVizsla.Decoder.Packet

/-! ## Packet identifiers -/

/-- `USB_PID_DATA_DATA1` -/
def usbPidDataData1 : UInt8 := 0x4b

/-- `USB_PID_HANDSHAKE_NAK` -/
def usbPidHandshakeNak : UInt8 := 0x5a

/-- `USB_PID_TOKEN_IN` -/
def usbPidTokenIn : UInt8 := 0x69

/-- `USB_PID_SPECIAL_SPLIT` -/
def usbPidSpecialSplit : UInt8 := 0x78

/-- `USB_PID_TOKEN_SOF` -/
def usbPidTokenSof : UInt8 := 0xa5

/-- `USB_PID_SPECIAL_PING` -/
def usbPidSpecialPing : UInt8 := 0xb4

/-- `USB_PID_DATA_DATA0` -/
def usbPidDataData0 : UInt8 := 0xc3

/-- `USB_PID_TOKEN_OUT` -/
def usbPidTokenOut : UInt8 := 0xe1

/-! ## Output files -/

/--
A `FILE *`.  It is not open once a call has failed.  `succeeds` tells for each
call, counted by `calls`, whether it succeeds; `contents` is what has been
written by calls that did.
-/
structure Output where
  isOpen : Bool
  contents : List UInt8
  calls : Nat
  succeeds : Nat → Bool

/-- What a call that may fail does to the file. -/
def Output.call (out : Output) (success : Bool) (bytes : List UInt8) :
    Output :=
  if success then
    { out with
      contents := out.contents ++ bytes
      calls := out.calls + 1 }
  else
    { out with
      isOpen := false
      calls := out.calls + 1 }

/-- `fwrite` of nothing does not return 1. -/
def writeData (bytes : List UInt8) (out : Output) : Output :=
  if out.isOpen then
    out.call (out.succeeds out.calls && !bytes.isEmpty) bytes
  else
    out

/-- The bytes of a `uint32_t`. -/
def uint32Bytes (value : UInt32) : List UInt8 :=
  [value.toUInt8, (value >>> 8).toUInt8, (value >>> 16).toUInt8,
    (value >>> 24).toUInt8]

def writeUint32 (value : UInt32) (out : Output) : Output :=
  writeData (uint32Bytes value) out

def flushData (out : Output) : Output :=
  if out.isOpen then out.call (out.succeeds out.calls) [] else out

/-! ## Records -/

/-- `struct pcap_packet`, with the bytes from `captured` on. -/
structure PcapPacket where
  tsSec : UInt32
  tsNsec : UInt32
  inclLen : UInt32
  origLen : UInt32
  captured : List UInt8
deriving DecidableEq, Repr

def writePacket (packet : PcapPacket) (out : Output) : Output :=
  let out := writeUint32 packet.tsSec out
  let out := writeUint32 packet.tsNsec out
  let out := writeUint32 packet.inclLen out
  let out := writeUint32 packet.origLen out
  flushData (writeData (packet.captured.take packet.inclLen.toNat) out)

/-- The buffer that `queue_packet` fills. -/
def record (packet : PcapPacket) : List UInt8 :=
  uint32Bytes packet.tsSec ++ uint32Bytes packet.tsNsec ++
    uint32Bytes packet.inclLen ++ uint32Bytes packet.origLen ++
    packet.captured.take packet.inclLen.toNat

/-! ## The filter -/

/-- The states of the filter. -/
inductive FilterState where
  | default
  | split
  | out
  | expectNak
deriving DecidableEq, Repr

/-- `struct handler_data`, with the records of the queue. -/
structure HandlerData where
  out : Output
  debug : Output
  utcTs : UInt32
  tsOffset : UInt32
  lastOvTs : UInt64
  filterNaks : Bool
  filterSofs : Bool
  st : FilterState
  queue : List (List UInt8)

def queuePacket (packet : PcapPacket) (data : HandlerData) : HandlerData :=
  { data with queue := data.queue ++ [record packet] }

def freeQueuedPackets (data : HandlerData) : HandlerData :=
  { data with queue := [] }

def forwardQueuedPackets (data : HandlerData) : HandlerData :=
  freeQueuedPackets { data with
    out := data.queue.foldl
      (fun out entry => flushData (writeData entry out)) data.out }

def discardQueuedPackets (data : HandlerData) : HandlerData :=
  if !data.filterNaks then
    -- only SOFs are filtered
    forwardQueuedPackets data
  else
    freeQueuedPackets data

def forwardPacket (packet : PcapPacket) (data : HandlerData) : HandlerData :=
  { data with out := writePacket packet data.out }

def discardPacket (packet : PcapPacket) (data : HandlerData) : HandlerData :=
  if !data.filterNaks then forwardPacket packet data else data

/-- The assertions at the start of `filter_packet`. -/
def Asserted (packet : PcapPacket) (data : HandlerData) : Prop :=
  (data.st = .default → data.queue = []) ∧
    (data.st = .split → data.queue = []) ∧
    0 < packet.inclLen ∧ packet.captured ≠ []

instance (packet : PcapPacket) (data : HandlerData) :
    Decidable (Asserted packet data) :=
  inferInstanceAs (Decidable (_ ∧ _ ∧ _ ∧ _))

/-- `*((uint8_t*)packet->captured)` -/
def PcapPacket.pid (packet : PcapPacket) : UInt8 :=
  packet.captured.headD 0

/-- The branches of `filter_packet`, in order. -/
def filterBranches (packet : PcapPacket) (data : HandlerData) : HandlerData :=
  if packet.pid = usbPidTokenSof then
    if data.st = .default then
      if !data.filterSofs then forwardPacket packet data else data
    else
      { forwardPacket packet (forwardQueuedPackets data) with st := .default }
  else if packet.pid = usbPidSpecialSplit then
    { forwardPacket packet (forwardQueuedPackets data) with st := .split }
  else if data.st = .split then
    { forwardPacket packet data with st := .default }
  else if packet.pid = usbPidTokenOut then
    { queuePacket packet (forwardQueuedPackets data) with st := .out }
  else if data.st = .out ∧
      (packet.pid = usbPidDataData0 ∨ packet.pid = usbPidDataData1) then
    { queuePacket packet data with st := .expectNak }
  else if packet.pid = usbPidTokenIn ∨ packet.pid = usbPidSpecialPing then
    { queuePacket packet (forwardQueuedPackets data) with st := .expectNak }
  else if data.st = .expectNak ∧ packet.pid = usbPidHandshakeNak then
    { discardPacket packet (discardQueuedPackets data) with st := .default }
  else
    { forwardPacket packet (forwardQueuedPackets data) with st := .default }

/-- `filter_packet`; `none` if an assertion fails. -/
def filterPacket (data : HandlerData) (packet : PcapPacket) :
    Option HandlerData :=
  if Asserted packet data then some (filterBranches packet data) else none

/-! ## The packet handler -/

/-- `OV_TIMESTAMP_FREQ_HZ` -/
def ovTimestampFreqHz : UInt64 := 60000000

/-- The part of `packet_handler` that sets the clock. -/
def advanceClock (packet : OvPacket) (data : HandlerData) : HandlerData :=
  let diffTs := packet.timestamp - data.lastOvTs
  let elapsed := data.tsOffset.toUInt64 + diffTs
  { data with
    lastOvTs := packet.timestamp
    utcTs := data.utcTs + (elapsed / ovTimestampFreqHz).toUInt32
    tsOffset := (elapsed % ovTimestampFreqHz).toUInt32 }

/-- The record that `packet_handler` makes of a packet. -/
def pcapPacket (packet : OvPacket) (data : HandlerData) : PcapPacket where
  tsSec := data.utcTs
  tsNsec := data.tsOffset * 17 - data.tsOffset / 3
  inclLen := (ovPacketCapturedSize packet).toUInt32
  origLen := packet.size.toUInt32
  captured := packet.data

/--
`packet_handler`.  It also tells whether it calls `ov_capture_breakloop`, which
it does when the output pipe is broken.
-/
def packetHandler (data : HandlerData) (packet : OvPacket) :
    Option (HandlerData × Bool) :=
  let data := advanceClock packet data
  if packet.size > 0 then
    let pkt := pcapPacket packet data
    let data := { data with debug := writePacket pkt data.debug }
    (filterPacket data pkt).map fun data => (data, !data.out.isOpen)
  else
    -- only actual USB packets are written
    some (data, false)

/-! ## Files whose calls succeed -/

/-- The file is open, and no call on it fails. -/
structure Sound (out : Output) : Prop where
  isOpen : out.isOpen = true
  succeeds : ∀ call, out.succeeds call = true

section Sound

variable {out : Output}

theorem writeData_sound (sound : Sound out) {bytes : List UInt8}
    (nonempty : bytes ≠ []) :
    Sound (writeData bytes out) ∧
      (writeData bytes out).contents = out.contents ++ bytes := by
  have success : (out.succeeds out.calls && !bytes.isEmpty) = true := by
    simp [sound.succeeds, nonempty]
  rw [writeData, if_pos sound.isOpen, Output.call, if_pos success]
  exact ⟨⟨sound.isOpen, sound.succeeds⟩, rfl⟩

theorem flushData_sound (sound : Sound out) :
    Sound (flushData out) ∧ (flushData out).contents = out.contents := by
  rw [flushData, if_pos sound.isOpen, Output.call,
    if_pos (sound.succeeds out.calls)]
  exact ⟨⟨sound.isOpen, sound.succeeds⟩, List.append_nil _⟩

/-- The number of captured bytes is not zero, and neither are they. -/
def PcapPacket.Nonempty (packet : PcapPacket) : Prop :=
  0 < packet.inclLen ∧ packet.captured ≠ []

theorem PcapPacket.Nonempty.take {packet : PcapPacket}
    (nonempty : packet.Nonempty) :
    packet.captured.take packet.inclLen.toNat ≠ [] := by
  have positive : 0 < packet.inclLen.toNat :=
    UInt32.lt_iff_toNat_lt.mp nonempty.1
  rw [Ne, List.take_eq_nil_iff, not_or]
  exact ⟨by omega, nonempty.2⟩

/-- What `write_packet` writes is what `queue_packet` keeps. -/
theorem writePacket_sound (sound : Sound out) {packet : PcapPacket}
    (nonempty : packet.Nonempty) :
    Sound (writePacket packet out) ∧
      (writePacket packet out).contents = out.contents ++ record packet := by
  have number (value : UInt32) : uint32Bytes value ≠ [] := by
    simp [uint32Bytes]
  obtain ⟨first, one⟩ := writeData_sound sound (number packet.tsSec)
  obtain ⟨second, two⟩ := writeData_sound first (number packet.tsNsec)
  obtain ⟨third, three⟩ := writeData_sound second (number packet.inclLen)
  obtain ⟨fourth, four⟩ := writeData_sound third (number packet.origLen)
  obtain ⟨last, five⟩ := writeData_sound fourth nonempty.take
  obtain ⟨flushed, six⟩ := flushData_sound last
  refine ⟨flushed, ?_⟩
  simp only [writePacket, writeUint32, six, five, four, three, two, one,
    record, List.append_assoc]

theorem record_ne_nil (packet : PcapPacket) : record packet ≠ [] := by
  simp [record, uint32Bytes]

/-- Forwarding the queue writes its records. -/
theorem forwardQueued_sound (sound : Sound out)
    {queue : List (List UInt8)} (nonempty : ∀ entry ∈ queue, entry ≠ []) :
    Sound (queue.foldl (fun out entry => flushData (writeData entry out))
        out) ∧
      (queue.foldl (fun out entry => flushData (writeData entry out))
        out).contents = out.contents ++ queue.flatten := by
  induction queue generalizing out with
  | nil => exact ⟨sound, (List.append_nil _).symm⟩
  | cons entry rest ih =>
      obtain ⟨written, contents⟩ :=
        writeData_sound sound (nonempty entry List.mem_cons_self)
      obtain ⟨flushed, same⟩ := flushData_sound written
      obtain ⟨finished, all⟩ := ih flushed fun later member =>
        nonempty later (List.mem_cons_of_mem entry member)
      refine ⟨finished, ?_⟩
      rw [List.foldl_cons, all, same, contents, List.flatten_cons,
        List.append_assoc]

end Sound

end OpenVizsla.Extcap.Filter
