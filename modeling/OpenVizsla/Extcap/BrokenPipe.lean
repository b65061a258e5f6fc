import OpenVizsla.Foundation.Runs
import OpenVizsla.Extcap.Pcap

/-!
# Files whose calls fail

When a call on an output file fails, the file is closed and nothing is written
any more.  The handler goes on as it would have done with a file that works,
so that a broken file has the beginning of what that one has got.
-/

namespace OpenVizsla.Extcap.BrokenPipe

open OpenVizsla.Foundation.Runs
open OpenVizsla.Decoder.Packet
open OpenVizsla.Extcap.Filter
open OpenVizsla.Extcap.Session

/-! ## Files -/

/--
A file against one on which no call fails: it has got the same, or the
beginning of it when it is closed.
-/
structure Truncates (out whole : Output) : Prop where
  sound : Sound whole
  same : out.isOpen = true → out.contents = whole.contents
  begins : out.contents <+: whole.contents

section Truncates

variable {out whole whole' : Output}

/-- A call that may fail, against one that does not. -/
theorem Truncates.call (truncates : Truncates out whole)
    (sound : Sound whole') {bytes : List UInt8}
    (contents : whole'.contents = whole.contents ++ bytes) (success : Bool) :
    Truncates (if out.isOpen then out.call success bytes else out) whole' := by
  have longer : whole.contents <+: whole'.contents := by
    rw [contents]
    exact List.prefix_append _ _
  by_cases isOpen : out.isOpen = true
  · have same := truncates.same isOpen
    rw [if_pos isOpen]
    cases success with
    | true =>
        have written : out.contents ++ bytes = whole'.contents := by
          rw [contents, same]
        exact ⟨sound, fun _ => written, written ▸ List.prefix_refl _⟩
    | false =>
        refine ⟨sound, fun absent => ?_, truncates.begins.trans longer⟩
        cases absent
  · rw [if_neg isOpen]
    exact ⟨sound, fun open' => absurd open' isOpen,
      truncates.begins.trans longer⟩

theorem Truncates.writeData (truncates : Truncates out whole)
    {bytes : List UInt8} (nonempty : bytes ≠ []) :
    Truncates (writeData bytes out) (writeData bytes whole) := by
  obtain ⟨sound, contents⟩ := writeData_sound truncates.sound nonempty
  exact truncates.call sound contents _

theorem Truncates.flushData (truncates : Truncates out whole) :
    Truncates (flushData out) (flushData whole) := by
  obtain ⟨sound, contents⟩ := flushData_sound truncates.sound
  rw [← List.append_nil whole.contents] at contents
  exact truncates.call sound contents _

theorem Truncates.writeUint32 (truncates : Truncates out whole)
    (value : UInt32) :
    Truncates (writeUint32 value out) (writeUint32 value whole) :=
  truncates.writeData (by simp [uint32Bytes])

theorem Truncates.writeUint16 (truncates : Truncates out whole)
    (value : UInt16) :
    Truncates (writeUint16 value out) (writeUint16 value whole) :=
  truncates.writeData (by simp [uint16Bytes])

theorem Truncates.writePcapHeader (truncates : Truncates out whole)
    (linktype : UInt32) :
    Truncates (writePcapHeader linktype out)
      (writePcapHeader linktype whole) := by
  have magic := truncates.writeUint32 pcapNanosecMagic
  have version := (magic.writeUint16 2).writeUint16 4
  have zeros := (version.writeUint32 0).writeUint32 0
  have type := (zeros.writeUint32 65535).writeUint32 linktype
  exact type.flushData

theorem Truncates.writePacket (truncates : Truncates out whole)
    {packet : PcapPacket} (nonempty : packet.Nonempty) :
    Truncates (writePacket packet out) (writePacket packet whole) := by
  have time := (truncates.writeUint32 packet.tsSec).writeUint32 packet.tsNsec
  have lengths := (time.writeUint32 packet.inclLen).writeUint32 packet.origLen
  exact (lengths.writeData nonempty.take).flushData

/-- The records of a queue. -/
theorem Truncates.forward (truncates : Truncates out whole)
    {queue : List (List UInt8)} (nonempty : ∀ entry ∈ queue, entry ≠ []) :
    Truncates
      (queue.foldl (fun out entry => Filter.flushData
        (Filter.writeData entry out)) out)
      (queue.foldl (fun out entry => Filter.flushData
        (Filter.writeData entry out)) whole) := by
  induction queue generalizing out whole with
  | nil => exact truncates
  | cons entry rest ih =>
      obtain ⟨first, others⟩ := List.forall_mem_cons.mp nonempty
      exact ih (truncates.writeData first).flushData others

end Truncates

/-! ## Handlers -/

/-- The handler with other files. -/
def withFiles (data : HandlerData) (out debug : Output) : HandlerData :=
  { data with
    out := out
    debug := debug }

/-- A handler whose files may fail, against the same one with files that work. -/
inductive Mirrors : HandlerData → HandlerData → Prop where
  | intro {data : HandlerData} {out debug : Output}
      (queue : ∀ entry ∈ data.queue, entry ≠ [])
      (output : Truncates data.out out) (copy : Truncates data.debug debug) :
      Mirrors data (withFiles data out debug)

section Mirrors

variable {data whole : HandlerData} {packet : PcapPacket}

theorem Mirrors.truncates (mirrors : Mirrors data whole) :
    Truncates data.out whole.out ∧ Truncates data.debug whole.debug := by
  obtain ⟨queue, output, copy⟩ := mirrors
  exact ⟨output, copy⟩

theorem Mirrors.forwardQueued (mirrors : Mirrors data whole) :
    Mirrors (forwardQueuedPackets data) (forwardQueuedPackets whole) := by
  obtain ⟨queue, output, copy⟩ := mirrors
  have nothing : ∀ entry ∈ (forwardQueuedPackets data).queue, entry ≠ [] :=
    List.forall_mem_nil _
  exact .intro nothing (output.forward queue) copy

theorem Mirrors.freeQueued (mirrors : Mirrors data whole) :
    Mirrors (freeQueuedPackets data) (freeQueuedPackets whole) := by
  obtain ⟨queue, output, copy⟩ := mirrors
  have nothing : ∀ entry ∈ (freeQueuedPackets data).queue, entry ≠ [] :=
    List.forall_mem_nil _
  exact .intro nothing output copy

theorem Mirrors.discardQueued (mirrors : Mirrors data whole) :
    Mirrors (discardQueuedPackets data) (discardQueuedPackets whole) := by
  have naks : whole.filterNaks = data.filterNaks := by
    obtain ⟨queue, output, copy⟩ := mirrors
    rfl
  rw [discardQueuedPackets, discardQueuedPackets, naks]
  split
  · exact mirrors.forwardQueued
  · exact mirrors.freeQueued

theorem Mirrors.queuePacket (mirrors : Mirrors data whole)
    (packet : PcapPacket) :
    Mirrors (queuePacket packet data) (queuePacket packet whole) := by
  obtain ⟨queue, output, copy⟩ := mirrors
  refine .intro (fun entry member => ?_) output copy
  rcases List.mem_append.mp member with earlier | last
  · exact queue entry earlier
  · cases List.mem_singleton.mp last
    exact record_ne_nil packet

theorem Mirrors.forwardPacket (mirrors : Mirrors data whole)
    (nonempty : packet.Nonempty) :
    Mirrors (forwardPacket packet data) (forwardPacket packet whole) := by
  obtain ⟨queue, output, copy⟩ := mirrors
  exact .intro queue (output.writePacket nonempty) copy

theorem Mirrors.discardPacket (mirrors : Mirrors data whole)
    (nonempty : packet.Nonempty) :
    Mirrors (discardPacket packet data) (discardPacket packet whole) := by
  have naks : whole.filterNaks = data.filterNaks := by
    obtain ⟨queue, output, copy⟩ := mirrors
    rfl
  rw [Filter.discardPacket, Filter.discardPacket, naks]
  split
  · exact mirrors.forwardPacket nonempty
  · exact mirrors

theorem Mirrors.setState (mirrors : Mirrors data whole) (st : FilterState) :
    Mirrors { data with st := st } { whole with st := st } := by
  obtain ⟨queue, output, copy⟩ := mirrors
  exact .intro queue output copy

/-- The filter does the same on both sides. -/
theorem Mirrors.filterBranches (mirrors : Mirrors data whole)
    (nonempty : packet.Nonempty) :
    Mirrors (filterBranches packet data) (filterBranches packet whole) := by
  have st : whole.st = data.st := by
    obtain ⟨queue, output, copy⟩ := mirrors
    rfl
  have sofs : whole.filterSofs = data.filterSofs := by
    obtain ⟨queue, output, copy⟩ := mirrors
    rfl
  have forwarded := mirrors.forwardQueued.forwardPacket nonempty
  have queued := mirrors.forwardQueued.queuePacket packet
  have discarded := mirrors.discardQueued.discardPacket nonempty
  unfold Filter.filterBranches
  rw [st, sofs]
  split
  · -- SOF
    split
    · split
      · exact mirrors.forwardPacket nonempty
      · exact mirrors
    · exact forwarded.setState .default
  split
  · exact forwarded.setState .split
  split
  · exact (mirrors.forwardPacket nonempty).setState .default
  split
  · exact queued.setState .out
  split
  · exact (mirrors.queuePacket packet).setState .expectNak
  split
  · exact queued.setState .expectNak
  split
  · exact discarded.setState .default
  · exact forwarded.setState .default

theorem Mirrors.asserted_iff (mirrors : Mirrors data whole) :
    Asserted packet data ↔ Asserted packet whole := by
  obtain ⟨queue, output, copy⟩ := mirrors
  rfl

end Mirrors

/-! ## Packets -/

/-- The handler when the record has been written to the debug file. -/
theorem Mirrors.arrived {data whole : HandlerData} (mirrors : Mirrors data whole)
    (packet : OvPacket) (nonempty : (recordOf packet data).Nonempty) :
    recordOf packet whole = recordOf packet data ∧
      Mirrors (arrived packet data) (arrived packet whole) := by
  obtain ⟨queue, output, copy⟩ := mirrors
  exact ⟨rfl, .intro queue output (copy.writePacket nonempty)⟩

/-- One call of `packet_handler`. -/
theorem Mirrors.handle {data next whole : HandlerData}
    (mirrors : Mirrors data whole) (packet : OvPacket)
    (handled : handle data packet = some next) :
    ∃ next', Session.handle whole packet = some next' ∧
      Mirrors next next' := by
  by_cases positive : packet.size > 0
  · rw [handle_of_pos positive, filterPacket] at handled
    split at handled
    · rename_i asserted
      cases handled
      have nonempty : (recordOf packet data).Nonempty := asserted.2.2
      obtain ⟨same, arrived⟩ := mirrors.arrived packet nonempty
      refine ⟨_, ?_, arrived.filterBranches nonempty⟩
      rw [handle_of_pos positive, same]
      exact if_pos (arrived.asserted_iff.mp asserted)
    · cases handled
  · rw [handle_of_not_pos positive] at handled
    cases handled
    refine ⟨_, handle_of_not_pos positive, ?_⟩
    obtain ⟨queue, output, copy⟩ := mirrors
    exact .intro queue output copy

theorem mirrors_run {data finish whole : HandlerData}
    {packets : List OvPacket} (mirrors : Mirrors data whole)
    (reached : run handle data packets = some finish) :
    ∃ finish', run handle whole packets = some finish' ∧
      Mirrors finish finish' :=
  run_simulation (fun _ _ packet _ mirrors handled =>
    mirrors.handle packet handled) mirrors reached

/-- New files, whatever their calls do, against files that work. -/
theorem mirrors_startHandler (ts : Timespec) (options : Options)
    {out debug : Output} (empty : out.contents = [])
    (empty' : debug.contents = []) :
    Mirrors (startHandler ts options out debug)
      (startHandler ts options (newFile true) (newFile true)) := by
  have fresh {file : Output} (nothing : file.contents = []) :
      Truncates file (newFile true) :=
    ⟨⟨rfl, fun _ => rfl⟩, fun _ => nothing, nothing ▸ List.nil_prefix⟩
  have nothing : ∀ entry ∈ (startHandler ts options out debug).queue,
      entry ≠ [] :=
    List.forall_mem_nil _
  exact .intro nothing ((fresh empty).writePcapHeader options.linktype)
    ((fresh empty').writePcapHeader options.linktype)

end OpenVizsla.Extcap.BrokenPipe
