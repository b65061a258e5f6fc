import OpenVizsla.Capture.Buffer
import OpenVizsla.Capture.Client
import OpenVizsla.Extcap.BrokenPipe
import OpenVizsla.Extcap.Queue

/-!
# The extcap tool on a capture

`start_capture` passes `packet_handler` to the capture loop and closes the
files when the loop has returned.  From the transfers of the device to the
bytes of the output file, the tool does what the decoder, the rule of the
filter and the file format say, up to the first write that fails.

Its packet buffer has 1024 bytes, and a longer packet is written behind it.
The results are about the captures in which this does not happen.
-/

namespace OpenVizsla.Extcap.Tool

open OpenVizsla.Foundation.Runs
open OpenVizsla.Register.Map
open OpenVizsla.Decoder.Packet
open OpenVizsla.Decoder.FrameProc
open OpenVizsla.Decoder.Invariant
open OpenVizsla.Decoder.Reported
open OpenVizsla.Capture.Loop
open OpenVizsla.Capture.Buffer
open OpenVizsla.Capture.Delivery
open OpenVizsla.Capture.Client
open OpenVizsla.Extcap.Filter
open OpenVizsla.Extcap.FilterSteps
open OpenVizsla.Extcap.WindowRule
open OpenVizsla.Extcap.Session
open OpenVizsla.Extcap.CaptureEnd
open OpenVizsla.Extcap.Queue
open OpenVizsla.Extcap.Pcap
open OpenVizsla.Extcap.BrokenPipe

/-! ## The handler as a client -/

/--
`packet_handler` as the callback of a capture.  Without a handler, an
assertion has failed.
-/
def packetCallback : UserCallback (Option HandlerData) := fun data packet =>
  let called := data.bind fun data => packetHandler data packet
  (called.map Prod.fst, called.any Prod.snd)

theorem packetCallback_fst (data : Option HandlerData) (packet : OvPacket) :
    (packetCallback data packet).1 =
      data.bind fun data => handle data packet := by
  cases data <;> rfl

/-- The client's state is that of the handler. -/
theorem clientAfter_packetCallback (start : HandlerData)
    (packets : List OvPacket) :
    clientAfter packetCallback (some start) packets =
      run handle start packets := by
  induction packets using List.reverseRecOn with
  | nil => rfl
  | append_singleton packets packet ih =>
      rw [clientAfter_concat, packetCallback_fst, ih, run_append]
      congr 1
      funext data
      rw [run_cons]
      cases handle data packet <;> rfl

/-- The handler breaks the loop when a packet leaves its output closed. -/
theorem breaksAfter_packetCallback {start data : HandlerData}
    {before : List OvPacket} {packet : OvPacket} (positive : packet.size > 0)
    (reached : run handle start (before ++ [packet]) = some data)
    (closed : data.out.isOpen = false) :
    BreaksAfter packetCallback (some start) before packet := by
  obtain ⟨middle, first, last⟩ := run_append_eq_some_iff.mp reached
  obtain ⟨next, handled, same⟩ := run_cons_eq_some_iff.mp last
  cases same
  rw [BreaksAfter, clientAfter_packetCallback, first]
  rw [handle, Option.map_eq_some_iff] at handled
  obtain ⟨called, calls, rfl⟩ := handled
  have broken : called.2 = !called.1.out.isOpen := by
    rw [packetHandler, if_pos positive, Option.map_eq_some_iff] at calls
    obtain ⟨filtered, -, rfl⟩ := calls
    rfl
  simp [packetCallback, calls, broken, closed]

/-! ## The output file -/

/-- The beginnings of transactions that a NAK could still complete. -/
def beginnings : List (List UInt8) :=
  [usbPidTokenOut] :: transactions

/-- The number of packets at the end that wait for an answer. -/
def unanswered (pids : List UInt8) : Nat :=
  ((beginnings.find? fun body => EndsUnsplit body pids).map
    List.length).getD 0

/--
The packets that are in the file when it is closed: those that the rule keeps.
With the NAK filter, a transaction without an answer is given up.
-/
def finished (naks sofs : Bool) (packets : List PcapPacket) :
    List PcapPacket :=
  kept naks sofs
    (if naks then
      packets.take
        (packets.length - unanswered (packets.map PcapPacket.pid))
    else
      packets)

theorem beginnings_unique : ∀ body ∈ beginnings, ∀ body' ∈ beginnings,
    body <:+ body' → body = body' := by
  decide

theorem unanswered_of_endsUnsplit {body pids : List UInt8}
    (member : body ∈ beginnings) (suffix : body <:+ pids)
    (ends : ∃ body ∈ beginnings, EndsUnsplit body pids) :
    unanswered pids = body.length := by
  obtain ⟨body', member', ends'⟩ := ends
  have found : (beginnings.find? fun body => EndsUnsplit body pids).isSome :=
    List.find?_isSome.mpr ⟨body', member', decide_eq_true ends'⟩
  obtain ⟨first, same⟩ := Option.isSome_iff_exists.mp found
  have among := List.mem_of_find?_eq_some same
  have first' : EndsUnsplit first pids := by
    simpa using List.find?_some same
  have equal : first = body := by
    rcases List.suffix_or_suffix_of_suffix first'.1 suffix with less | more
    · exact beginnings_unique first among body member less
    · exact (beginnings_unique body member first among more).symm
  rw [unanswered, same, equal]
  rfl

theorem unanswered_of_idle {pids : List UInt8}
    (idle : ¬ InTransaction pids) : unanswered pids = 0 := by
  have none' : (beginnings.find? fun body => EndsUnsplit body pids) =
      none := by
    rw [List.find?_eq_none]
    intro body member ends
    rcases List.mem_cons.mp member with rfl | member
    · exact idle (.inl (of_decide_eq_true ends))
    · exact idle (.inr ⟨body, member, of_decide_eq_true ends⟩)
  rw [unanswered, none']
  rfl

section Closing

variable {base : List UInt8} {data : HandlerData}
    {settled pending : List PcapPacket}

/-- The queue holds the packets that wait for an answer. -/
theorem unanswered_of_filters (filters : Filters base data settled pending) :
    unanswered ((settled ++ pending).map PcapPacket.pid) =
      pending.length := by
  have suffix : pending.map PcapPacket.pid <:+
      (settled ++ pending).map PcapPacket.pid := by
    rw [List.map_append]
    exact List.suffix_append _ _
  have length : (pending.map PcapPacket.pid).length = pending.length :=
    List.length_map _
  by_cases inside : InTransaction ((settled ++ pending).map PcapPacket.pid)
  · have ends : ∃ body ∈ beginnings,
        EndsUnsplit body ((settled ++ pending).map PcapPacket.pid) := by
      rcases inside with out | ⟨body, member, ends⟩
      · exact ⟨_, List.mem_cons_self, out⟩
      · exact ⟨body, List.mem_cons_of_mem _ member, ends⟩
    have member : pending.map PcapPacket.pid ∈ beginnings := by
      rcases inside with out | answerable
      · rw [filters.out (filters.tracks.out.mpr out)]
        exact List.mem_cons_self
      · exact List.mem_cons_of_mem _
          (filters.transaction (filters.tracks.expectNak.mpr answerable))
    rw [unanswered_of_endsUnsplit member suffix ends, length]
  · have nothing := filters.pending_eq_nil_iff.mpr inside
    rw [unanswered_of_idle inside, nothing]
    rfl

/-- What is in the file when it is closed. -/
theorem closed_of_filters (filters : Filters base data settled pending) :
    (closeHandler data).out.contents =
      base ++ (finished data.filterNaks data.filterSofs
        (settled ++ pending)).flatMap record := by
  show (discardQueuedPackets data).out.contents = _
  cases naks : data.filterNaks with
  | true =>
      have rest : (settled ++ pending).length - pending.length =
          settled.length := by
        simp
      have contents := filters.contents
      rw [naks] at contents
      rw [discardQueuedPackets, naks, finished, unanswered_of_filters filters,
        if_pos rfl, rest, List.take_left]
      exact contents
  | false =>
      have forwarded := filters.forwardQueue.2
      rw [naks] at forwarded
      rw [discardQueuedPackets, naks, finished]
      exact forwarded

end Closing

/-! ## The debug file -/

/-- The filter does not write to the debug file. -/
theorem debug_of_disposes {packet : PcapPacket} {data next : HandlerData}
    (disposes : Disposes packet data next) : next.debug = data.debug := by
  cases disposes <;> rfl

/-- Without failures, the debug file gets all packets of the bus. -/
theorem debug_run {start finish : HandlerData} {packets : List OvPacket}
    (sound : Sound start.debug)
    (decoded : ∀ packet ∈ packets, Decoded packet)
    (reached : run handle start packets = some finish) :
    finish.debug.contents =
      start.debug.contents ++ (records start packets).flatMap record := by
  induction packets generalizing start with
  | nil =>
      cases reached
      exact (List.append_nil _).symm
  | cons packet rest ih =>
      obtain ⟨next, handled, tail⟩ := run_cons_eq_some_iff.mp reached
      obtain ⟨first, others⟩ := List.forall_mem_cons.mp decoded
      by_cases positive : packet.size > 0
      · obtain ⟨written, contents⟩ :=
          writePacket_sound sound (recordOf_nonempty start first positive)
        have same : next.debug =
            writePacket (recordOf packet start) start.debug := by
          rw [handle_of_pos positive] at handled
          exact debug_of_disposes (disposes_of_filterPacket handled).2
        rw [← same] at written contents
        rw [ih written others tail, contents, records, if_pos positive,
          records_handle handled, List.flatMap_cons, List.append_assoc]
      · have records' := records_handle handled rest
        rw [handle_of_not_pos positive] at handled
        cases handled
        have sound' : Sound (advanceClock packet start).debug := sound
        rw [ih sound' others tail, records, if_neg positive]
        rfl

/-- Closing the capture writes the queue, but not to the debug file. -/
theorem debug_closeHandler (data : HandlerData) :
    (closeHandler data).debug.contents = data.debug.contents := by
  rw [closeHandler, discardQueuedPackets]
  split <;> rfl

/-! ## The tool -/

/-- What is added to the two files when no call fails. -/
theorem closed_of_run {start finish : HandlerData} (sound : Sound start.out)
    (sound' : Sound start.debug) (initial : start.st = .default)
    (empty : start.queue = []) {packets : List OvPacket}
    (decoded : ∀ packet ∈ packets, Decoded packet)
    (reached : run handle start packets = some finish) :
    (closeHandler finish).out.contents =
        start.out.contents ++
          (finished start.filterNaks start.filterSofs
            (records start packets)).flatMap record ∧
      (closeHandler finish).debug.contents =
        start.debug.contents ++ (records start packets).flatMap record := by
  obtain ⟨finish', settled, pending, reached', all, filters, naks, sofs⟩ :=
    filters_handle (filters_initial sound initial empty) decoded
  rw [reached] at reached'
  cases reached'
  have closed := closed_of_filters filters
  rw [all, naks, sofs] at closed
  refine ⟨closed, ?_⟩
  rw [debug_closeHandler, debug_run sound' decoded reached]

/-- What the two files of a capture hold in the end when no call fails. -/
theorem closed_of_start (ts : Timespec) (options : Options)
    {out debug : Output} (sound : Sound out) (sound' : Sound debug)
    (empty : out.contents = []) (empty' : debug.contents = [])
    {packets : List OvPacket} (decoded : ∀ packet ∈ packets, Decoded packet)
    {finish : HandlerData}
    (reached :
      run handle (startHandler ts options out debug) packets = some finish) :
    (closeHandler finish).out.contents =
        pcapFile options.linktype
          (finished options.filterNaks options.filterSofs
            (records (startHandler ts options out debug) packets)) ∧
      (closeHandler finish).debug.contents =
        pcapFile options.linktype
          (records (startHandler ts options out debug) packets) := by
  have header := writePcapHeader_contents sound options.linktype
  have header' := writePcapHeader_contents sound' options.linktype
  rw [empty, List.nil_append] at header
  rw [empty', List.nil_append] at header'
  have first : Sound (startHandler ts options out debug).out :=
    writePcapHeader_sound sound options.linktype
  have first' : Sound (startHandler ts options out debug).debug :=
    writePcapHeader_sound sound' options.linktype
  obtain ⟨closed, closed'⟩ :=
    closed_of_run first first' rfl rfl decoded reached
  rw [closed, closed']
  constructor
  · exact congrArg (· ++ _) header
  · exact congrArg (· ++ _) header'

/-- The files do not touch the clock. -/
theorem records_startHandler (ts : Timespec) (options : Options)
    (out debug out' debug' : Output) (packets : List OvPacket) :
    records (startHandler ts options out debug) packets =
      records (startHandler ts options out' debug') packets := by
  apply records_congr
  · rfl
  · rfl
  · rfl

/-- A file that may be broken has the beginning of what it should have. -/
structure Begins (out : Output) (text : List UInt8) : Prop where
  begins : out.contents <+: text
  whole : out.isOpen = true → out.contents = text

/-- Files whose calls may fail, when the capture is closed. -/
theorem begins_of_run (ts : Timespec) (options : Options)
    {out debug : Output} (empty : out.contents = [])
    (empty' : debug.contents = []) {packets : List OvPacket}
    (decoded : ∀ packet ∈ packets, Decoded packet) {finish : HandlerData}
    (reached :
      run handle (startHandler ts options out debug) packets = some finish) :
    Begins (discardQueuedPackets finish).out
        (pcapFile options.linktype
          (finished options.filterNaks options.filterSofs
            (records (startHandler ts options out debug) packets))) ∧
      Begins (discardQueuedPackets finish).debug
        (pcapFile options.linktype
          (records (startHandler ts options out debug) packets)) := by
  have new : Sound (newFile true) := ⟨rfl, fun _ => rfl⟩
  obtain ⟨finish', reached', mirrors⟩ :=
    mirrors_run (mirrors_startHandler ts options empty empty') reached
  obtain ⟨closed, closed'⟩ :=
    closed_of_start ts options new new rfl rfl decoded reached'
  rw [records_startHandler ts options out debug (newFile true) (newFile true),
    ← closed, ← closed']
  obtain ⟨output, copy⟩ := mirrors.discardQueued.truncates
  exact ⟨⟨output.begins, output.same⟩, copy.begins, copy.same⟩

/-- All packets of the stream have their bytes. -/
theorem decoded_of_mem_streamPackets {ftdi : FtdiContext}
    {memory : FrameDecoder} {packet : OvPacket} {size : Nat}
    {events : List Event} {complete : OvPacket}
    (member : complete ∈
      streamPackets ftdi (frameDecoderInit memory packet size) events) :
    Decoded complete := by
  rw [streamPackets, packets, List.mem_filterMap] at member
  obtain ⟨call, reported, same⟩ := member
  cases call with
  | packet other =>
      cases same
      exact decoded_of_mem_callbacks (.init memory packet size) reported
  | busFrame addr value => cases same

/-! ## The files of a capture -/

section Capture

variable (ftdi : FtdiContext) (memory : CaptureState (Option HandlerData))
    (reg : Reg) (packet : OvPacket) (size : Nat) (ts : Timespec)
    (options : Options) {out debug : Output}
    {finish : CaptureState (Option HandlerData)} {events : List Event}

/-- The size of `p` in `start_capture`. -/
def packetBufferSize : Nat := 1024

/-- The handler has seen packets of the stream that have their bytes. -/
theorem decoded_of_capture
    (reached :
      run (step ftdi)
          (ovCaptureStart memory reg packet size (some packetCallback)
            (some (startHandler ts options out debug))) events =
        some finish) :
    finish.loop.control.delivered <+: streamPackets ftdi
        (frameDecoderInit memory.loop.fd packet size) events ∧
      (¬ Muted finish.loop.control →
        finish.loop.control.delivered = streamPackets ftdi
          (frameDecoderInit memory.loop.fd packet size) events) ∧
      (∀ complete ∈ finish.loop.control.delivered, Decoded complete) ∧
      Serves packetCallback (some (startHandler ts options out debug))
        finish.loop.control := by
  obtain ⟨begun, whole⟩ :=
    delivered_history (splitting_init _ _ _) rfl rfl rfl ⟨_, rfl⟩ reached
  have start := serves_start memory reg packet size packetCallback
    (some (startHandler ts options out debug))
  exact ⟨begun, whole,
    fun complete member =>
      decoded_of_mem_streamPackets (begun.subset member),
    run_invariant (fun _ _ _ => serves_step) start reached⟩

/-- The files of a capture that is closed at any moment. -/
theorem begins_of_capture (empty : out.contents = [])
    (empty' : debug.contents = [])
    (reached :
      run (step ftdi)
          (ovCaptureStart memory reg packet size (some packetCallback)
            (some (startHandler ts options out debug))) events =
        some finish) :
    let packets := records (startHandler ts options out debug)
      finish.loop.control.delivered
    ∃ data, finish.loop.control.userData = some data ∧
      Begins (discardQueuedPackets data).out
        (pcapFile options.linktype
          (finished options.filterNaks options.filterSofs packets)) ∧
      Begins (discardQueuedPackets data).debug
        (pcapFile options.linktype packets) := by
  obtain ⟨-, -, decoded, serves⟩ :=
    decoded_of_capture ftdi memory reg packet size ts options reached
  obtain ⟨data, handled, -⟩ := run_holds ts options out debug decoded
  refine ⟨data, ?_, begins_of_run ts options empty empty' decoded handled⟩
  rw [serves.userData, clientAfter_packetCallback]
  exact handled

/--
At any moment of a capture that stays in the packet buffer, no assertion has
failed, and closing the files leaves in them what the rule of the filter keeps
of the first packets of the stream, and all of these packets, up to the first
write that has failed.  As long as the loop runs, these are all packets of the
stream.  A packet of the bus that finds the output broken is the last one.
-/
theorem capture_file (empty : out.contents = [])
    (empty' : debug.contents = [])
    (reached :
      run (stepWithin ftdi)
          (ovCaptureStart memory reg packet packetBufferSize
            (some packetCallback)
            (some (startHandler ts options out debug))) events =
        some finish) :
    let start := startHandler ts options out debug
    let seen := finish.loop.control.delivered
    let sent := streamPackets ftdi
      (frameDecoderInit memory.loop.fd packet packetBufferSize) events
    seen <+: sent ∧
      (¬ Muted finish.loop.control → seen = sent) ∧
      (∃ data, finish.loop.control.userData = some data ∧
        Begins (discardQueuedPackets data).out
          (pcapFile options.linktype
            (finished options.filterNaks options.filterSofs
              (records start seen))) ∧
        Begins (discardQueuedPackets data).debug
          (pcapFile options.linktype (records start seen))) ∧
      ∀ before last after data, seen = before ++ last :: after →
        last.size > 0 → run handle start (before ++ [last]) = some data →
          data.out.isOpen = false → after = [] := by
  have reached' := run_of_stepWithin reached
  obtain ⟨begun, whole, decoded, serves⟩ :=
    decoded_of_capture ftdi memory reg packet packetBufferSize ts options
      reached'
  have files := begins_of_capture ftdi memory reg packet packetBufferSize ts
    options empty empty' reached'
  refine ⟨begun, whole, files, ?_⟩
  intro before last after left split positive reaches broken
  exact (serves.last before last after split
    (breaksAfter_packetCallback positive reaches broken)).1

/-- The handler of a capture that filters NAKs, with files that work. -/
def filteringHandler : HandlerData :=
  startHandler ⟨0, 0⟩ ⟨288, true, false⟩ (newFile true) (newFile true)

/-- One transfer with the poll of a device that is not ready. -/
def answeredPoll : List Event :=
  [.dispatch 0 (fun _ => 0),
    .transfer 0 .completed
      [0x32, 0x60, 0xd0, 0x05, 0xa0, 0, 1, 0, 5, 0x69, 0xa0, 0, 1, 0, 7, 0x5a]
      [0]]

/-- The poll is in the debug file only. -/
theorem capture_file_answeredPoll :
    ∃ finish data,
      run (stepWithin ⟨512, by decide⟩)
          (started (some packetCallback) (some filteringHandler))
          answeredPoll = some finish ∧
        finish.loop.control.userData = some data ∧
        finish.loop.control.delivered.length = 2 ∧
        data.out.contents.length = 24 ∧ data.debug.contents.length = 58 ∧
        Begins (discardQueuedPackets data).debug
          (pcapFile 288
            (records filteringHandler finish.loop.control.delivered)) := by
  have outcome :
      (run (stepWithin ⟨512, by decide⟩)
          (started (some packetCallback) (some filteringHandler))
          answeredPoll).map (fun finish =>
        (finish.loop.control.delivered.length,
          finish.loop.control.userData.map fun data =>
            (data.out.contents.length, data.debug.contents.length))) =
        some (2, some (24, 58)) := by
    decide +kernel
  obtain ⟨finish, reached, both⟩ := Option.map_eq_some_iff.mp outcome
  obtain ⟨two, written⟩ := Prod.mk.inj both
  obtain ⟨data, same, lengths⟩ := Option.map_eq_some_iff.mp written
  obtain ⟨short, long⟩ := Prod.mk.inj lengths
  obtain ⟨-, -, ⟨data', same', -, copy⟩, -⟩ :=
    capture_file _ _ _ _ ⟨0, 0⟩ ⟨288, true, false⟩ rfl rfl reached
  rw [same] at same'
  cases same'
  exact ⟨finish, data, reached, same, two, short, long, copy⟩

/-- The records of packets that have their bytes. -/
theorem enough_of_mem_records {start : HandlerData}
    {packets : List OvPacket} (decoded : ∀ packet ∈ packets, Decoded packet)
    {complete : PcapPacket} (member : complete ∈ records start packets) :
    complete.inclLen.toNat ≤ complete.captured.length := by
  induction packets generalizing start with
  | nil => cases member
  | cons packet rest ih =>
      obtain ⟨first, others⟩ := List.forall_mem_cons.mp decoded
      rw [records] at member
      split at member
      · rcases List.mem_cons.mp member with rfl | later
        · show (ovPacketCapturedSize packet).toUInt32.toNat ≤ _
          rw [UInt16.toNat_toUInt32]
          exact first
        · exact ih others later
      · exact ih others member

theorem mem_of_finished {naks sofs : Bool} {packets : List PcapPacket}
    {complete : PcapPacket}
    (member : complete ∈ finished naks sofs packets) :
    complete ∈ packets := by
  have among := mem_of_kept member
  split at among
  · exact List.mem_of_mem_take among
  · exact among

/-- What a reader makes of a file that may be broken. -/
theorem Begins.readable {file : Output} {linktype : UInt32}
    {packets : List PcapPacket}
    (begins : Begins file (pcapFile linktype packets))
    (enough : ∀ complete ∈ packets,
      complete.inclLen.toNat ≤ complete.captured.length) :
    (24 ≤ file.contents.length →
        ∃ found, readPcap file.contents = some (linktype, found) ∧
          found <+: packets.map trimmed) ∧
      (file.isOpen = true →
        readPcap file.contents = some (linktype, packets.map trimmed)) := by
  rw [← pcapFile_trimmed] at begins
  have exact' : ∀ complete ∈ packets.map trimmed, Exact complete := by
    intro complete member
    obtain ⟨whole, among, rfl⟩ := List.mem_map.mp member
    exact exact_trimmed (enough whole among)
  have read := readPcap_of_isPrefix exact' begins.begins
  constructor
  · intro header
    obtain ⟨found, finds, first, -⟩ := read header
    exact ⟨found, finds, first⟩
  · intro isOpen
    have contents := begins.whole isOpen
    have header : 24 ≤ file.contents.length := by
      rw [contents, pcapFile, List.length_append, length_pcapHeader]
      exact Nat.le_add_right _ _
    obtain ⟨found, finds, -, all⟩ := read header
    rw [← all contents]
    exact finds

/--
When the capture stays in the packet buffer, a reader of the output file finds
the type of the link and the first packets that the rule of the filter keeps.
It finds all of them when no write has failed.
-/
theorem capture_readable (empty : out.contents = [])
    (empty' : debug.contents = [])
    (reached :
      run (stepWithin ftdi)
          (ovCaptureStart memory reg packet packetBufferSize
            (some packetCallback)
            (some (startHandler ts options out debug))) events =
        some finish) :
    let left := (finished options.filterNaks options.filterSofs
      (records (startHandler ts options out debug)
        finish.loop.control.delivered)).map trimmed
    ∃ data, finish.loop.control.userData = some data ∧
      (24 ≤ (closeHandler data).out.contents.length →
        ∃ found, readPcap (closeHandler data).out.contents =
            some (options.linktype, found) ∧
          found <+: left) ∧
      ((discardQueuedPackets data).out.isOpen = true →
        readPcap (closeHandler data).out.contents =
          some (options.linktype, left)) := by
  have reached' := run_of_stepWithin reached
  obtain ⟨-, -, decoded, -⟩ :=
    decoded_of_capture ftdi memory reg packet packetBufferSize ts options
      reached'
  obtain ⟨data, same, output, -⟩ := begins_of_capture ftdi memory reg packet
    packetBufferSize ts options empty empty' reached'
  exact ⟨data, same, output.readable fun complete member =>
    enough_of_mem_records decoded (mem_of_finished member)⟩

/-- The reader finds no packet in the file of the filtered poll. -/
theorem capture_readable_answeredPoll :
    ∃ finish data,
      run (stepWithin ⟨512, by decide⟩)
          (started (some packetCallback) (some filteringHandler))
          answeredPoll = some finish ∧
        finish.loop.control.userData = some data ∧
        readPcap (closeHandler data).out.contents = some (288, []) := by
  have outcome :
      (run (stepWithin ⟨512, by decide⟩)
          (started (some packetCallback) (some filteringHandler))
          answeredPoll).map (fun finish =>
        (((finished true false (records filteringHandler
            finish.loop.control.delivered)).map trimmed).isEmpty,
          finish.loop.control.userData.map fun data =>
            (discardQueuedPackets data).out.isOpen)) =
        some (true, some true) := by
    decide +kernel
  obtain ⟨finish, reached, both⟩ := Option.map_eq_some_iff.mp outcome
  obtain ⟨none', opened⟩ := Prod.mk.inj both
  obtain ⟨data, same, isOpen⟩ := Option.map_eq_some_iff.mp opened
  obtain ⟨data', same', -, read⟩ :=
    capture_readable _ _ _ _ ⟨0, 0⟩ ⟨288, true, false⟩ rfl rfl reached
  rw [same] at same'
  cases same'
  rw [← List.isEmpty_iff.mp none']
  exact ⟨finish, data, reached, same, read isOpen⟩

end Capture

end OpenVizsla.Extcap.Tool
