import OpenVizsla.Capture.FirstCause
import OpenVizsla.Capture.Upkeep

/-!
# The count limit

`cha_loop_run` is told how many packets to deliver.  The packet callback
compares the counter with that number before it counts the packet that it has
just delivered, so the limit is noticed one packet too late.
-/

namespace OpenVizsla.Capture.CountLimit

open OpenVizsla.Foundation.Runs
open OpenVizsla.Foundation.Stopping
open OpenVizsla.Decoder.Packet
open OpenVizsla.Decoder.Invariant
open OpenVizsla.Decoder.Callbacks
open OpenVizsla.Capture.Loop
open OpenVizsla.Capture.Delivery
open OpenVizsla.Capture.Resumption
open OpenVizsla.Capture.Synchronisation
open OpenVizsla.Capture.FirstCause
open OpenVizsla.Capture.Upkeep

variable {υ : Type*}

/-! ## A loop without a limit -/

/-- The loop with other counters. -/
def withCounts (control : LoopControl υ) (count maxCount : Int) :
    LoopControl υ :=
  { control with count := count, maxCount := maxCount }

theorem callUser_withCounts (control : LoopControl υ) (count maxCount : Int)
    (packet : OvPacket) :
    callUser (withCounts control count maxCount) packet =
      withCounts (callUser control packet) count maxCount := by
  cases callback : control.callback with
  | none => simp only [callUser, withCounts, callback]
  | some user =>
      cases breaks : (user control.userData packet).2 <;>
        simp [callUser, withCounts, callback, breaks, chaLoopBreak,
          chaLoopCancelTransfer]

theorem packetCallback_of_not_last {control : LoopControl υ}
    {packet : OvPacket} (running : control.state = .running)
    (notLast : ¬ IsLast packet) :
    chaLoopPacketCallback control packet =
      countPacket (callUser control packet) := by
  unfold chaLoopPacketCallback
  rw [if_neg (not_not.mpr running)]
  exact if_neg notLast

/-- What a packet callback that leaves the loop running has not found. -/
theorem no_cause_of_running {control : LoopControl υ} {packet : OvPacket}
    (before : control.state = .running)
    (running : (chaLoopPacketCallback control packet).state = .running) :
    ¬ IsLast packet ∧ ¬ CountReached control := by
  rcases state_packetCallback control packet before with
    ⟨-, ends⟩ | ⟨notLast, counted⟩
  · rw [ends] at running
    cases running
  · rw [counted] at running
    refine ⟨notLast, fun reached => ?_⟩
    rw [← countReached_callUser control packet] at reached
    rcases state_countPacket (callUser control packet) with
      ⟨-, limit⟩ | ⟨below, -⟩
    · rw [limit] at running
      cases running
    · exact below reached

theorem countPacket_withCounts (control : LoopControl υ) (count : Int)
    {maxCount : Int} (none : maxCount ≤ 0) :
    countPacket (withCounts control count maxCount) =
      withCounts control count maxCount :=
  if_neg (not_lt.mpr none)

theorem withCounts_countPacket {control : LoopControl υ}
    (below : ¬ CountReached control) (count maxCount : Int) :
    withCounts (countPacket control) count maxCount =
      withCounts control count maxCount := by
  unfold countPacket
  split
  · rename_i positive
    have more : ¬ control.count ≥ control.maxCount :=
      fun reached => below ⟨positive, reached⟩
    simp [withCounts, more]
  · rfl

/-- Below the limit the callbacks do not depend on the counters. -/
theorem apply_withCounts {control : LoopControl υ} {call : Callback}
    (running : (call.apply decoderOps control).state = .running)
    (count : Int) {maxCount : Int} (none : maxCount ≤ 0) :
    call.apply decoderOps (withCounts control count maxCount) =
      withCounts (call.apply decoderOps control) count maxCount := by
  have before : control.state = .running := by
    by_contra stopped
    exact stopped_apply control call stopped running
  cases call with
  | packet complete =>
      obtain ⟨notLast, below⟩ := no_cause_of_running before running
      rw [← countReached_callUser control complete] at below
      have unlimited :
          (withCounts control count maxCount).state = .running := before
      change chaLoopPacketCallback (withCounts control count maxCount)
          complete =
        withCounts (chaLoopPacketCallback control complete) count maxCount
      rw [packetCallback_of_not_last before notLast,
        packetCallback_of_not_last unlimited notLast, callUser_withCounts,
        countPacket_withCounts _ _ none, withCounts_countPacket below]
  | busFrame addr value =>
      change chaLoopBusFrameCallback (withCounts control count maxCount) addr
          value =
        withCounts (chaLoopBusFrameCallback control addr value) count maxCount
      by_cases echo :
          addr &&& 0x7fff = control.reg.addr .sdramHostReadGo ∧ value = 0
      · rw [chaLoopBusFrameCallback, chaLoopBusFrameCallback, if_pos echo]
        exact if_pos echo
      · rw [chaLoopBusFrameCallback, chaLoopBusFrameCallback, if_neg echo]
        exact if_neg echo

theorem replay_withCounts {control : LoopControl υ} {calls : List Callback}
    (running : (replay decoderOps control calls).state = .running)
    (count : Int) {maxCount : Int} (none : maxCount ≤ 0) :
    replay decoderOps (withCounts control count maxCount) calls =
      withCounts (replay decoderOps control calls) count maxCount := by
  induction calls generalizing control with
  | nil => rfl
  | cons call rest ih =>
      change (replay decoderOps (call.apply decoderOps control) rest).state =
        _ at running
      have first : (call.apply decoderOps control).state = .running := by
        by_contra stopped
        exact foldl_of_stopped stopped_apply stopped rest running
      change replay decoderOps
          (call.apply decoderOps (withCounts control count maxCount)) rest =
        _
      rw [apply_withCounts first count none, ih running]
      rfl

/-! ## The counter -/

/-- The limit is noticed when the counter has passed it. -/
structure Counted (limit : Int) (control : LoopControl υ) : Prop where
  maxCount : control.maxCount = limit
  passed : control.state = .countLimit → limit < control.count

section Counted

variable {limit : Int} {control : LoopControl υ}

theorem Counted.callUser (counted : Counted limit control)
    (packet : OvPacket) : Counted limit (callUser control packet) := by
  obtain ⟨count, maxCount⟩ := counts_callUser control packet
  refine ⟨maxCount.trans counted.maxCount, fun reached => ?_⟩
  rw [count]
  rcases state_callUser control packet with ⟨-, broken⟩ | ⟨-, same⟩
  · rw [broken] at reached
    cases reached
  · exact counted.passed (same ▸ reached)

theorem Counted.countPacket (counted : Counted limit control) :
    Counted limit (countPacket control) := by
  obtain ⟨maxCount, passed⟩ := counted
  unfold Loop.countPacket
  split
  · refine ⟨maxCount, fun reached => ?_⟩
    change limit < control.count + 1
    by_cases full : control.count ≥ control.maxCount
    · omega
    · simp only [full, if_false] at reached
      have before := passed reached
      omega
  · exact ⟨maxCount, passed⟩

theorem Counted.packetCallback (counted : Counted limit control)
    (packet : OvPacket) :
    Counted limit (chaLoopPacketCallback control packet) := by
  have after := (counted.callUser packet).countPacket
  unfold chaLoopPacketCallback
  split
  · exact counted
  · simp only
    split
    · exact ⟨after.maxCount, by simp⟩
    · exact after

theorem Counted.busFrameCallback (counted : Counted limit control)
    (addr : UInt16) (value : UInt8) :
    Counted limit (chaLoopBusFrameCallback control addr value) := by
  unfold chaLoopBusFrameCallback
  split
  · exact ⟨counted.maxCount, by simp⟩
  · exact counted

end Counted

theorem counted_upkeep (limit : Int) :
    LoopUpkeep (Counted limit : LoopControl υ → Prop) where
  packet complete counted := counted.packetCallback complete
  busFrame addr value counted := counted.busFrameCallback addr value
  error errorStr counted := ⟨counted.maxCount, by simp⟩
  transfers transfer active complete counted :=
    ⟨counted.maxCount, counted.passed⟩

theorem counted_chaLoopRun {capture : CaptureState υ}
    (running : capture.loop.control.state = .running) (stopping : Bool)
    (count : Int) (submits : Fin 3 → Int) :
    Counted count
      (chaLoopRun capture stopping count submits).loop.control := by
  refine (counted_upkeep count).chaLoopRun ⟨rfl, fun reached => ?_⟩ stopping
    submits
  rw [cleared_state, running] at reached
  cases reached

/-! ## The number of packets -/

/--
The stream yields `limit` packets before any other cause: a loop without a
count limit is still running behind the last of them.
-/
def Yields (control : LoopControl υ) (calls : List Callback) (limit : Int) :
    Prop :=
  ∃ first, first <+: calls ∧ (packets first).length = limit ∧
    (replay decoderOps (entered control 0) first).state = .running

theorem exists_packet_of_lt {calls : List Callback} {index : Nat}
    (more : index < (packets calls).length) :
    ∃ first complete rest, calls = first ++ .packet complete :: rest ∧
      (packets first).length = index := by
  induction calls generalizing index with
  | nil => simp [packets] at more
  | cons call calls ih =>
      cases call with
      | packet complete =>
          cases index with
          | zero => exact ⟨[], complete, calls, rfl, rfl⟩
          | succ index =>
              have more' : index < (packets calls).length := by
                simpa [packets] using more
              obtain ⟨first, found, rest, rfl, length⟩ := ih more'
              refine ⟨.packet complete :: first, found, rest, rfl, ?_⟩
              exact congrArg (· + 1) length
      | busFrame addr value =>
          have more' : index < (packets calls).length := more
          obtain ⟨first, found, rest, rfl, length⟩ := ih more'
          exact ⟨.busFrame addr value :: first, found, rest, rfl, length⟩

/-- One packet too many is heard only behind `limit` packets. -/
theorem yields_of_heard {control : LoopControl υ} {calls : List Callback}
    {limit : Nat}
    (more :
      limit < (packets (heardCalls (entered control limit) calls)).length) :
    Yields control calls limit := by
  obtain ⟨first, complete, rest, split, length⟩ := exists_packet_of_lt more
  have running :
      (replay decoderOps (entered control limit) first).state = .running :=
    live_of_heard split
  have unlimited : replay decoderOps (entered control 0) first =
      withCounts (replay decoderOps (entered control limit) first) 0 0 :=
    replay_withCounts running 0 le_rfl
  refine ⟨first, ?_, congrArg Nat.cast length, ?_⟩
  · exact (split ▸ List.prefix_append first _).trans (heard_isPrefix _ _)
  · rw [unlimited]
    exact running

/-- Before the stream yields `limit` packets, no more are delivered. -/
theorem delivered_le_of_not_yields {ftdi : FtdiContext}
    {start finish : CaptureState υ} {user : UserCallback υ} {limit : Int}
    {submits : Fin 3 → Int} {events : List Event} (positive : 0 < limit)
    (reachable : Reachable start.loop.fd)
    (running : start.loop.control.state = .running)
    (callback : start.loop.control.callback = some user)
    (inRun : ∀ event ∈ events, event.InRun)
    (reached :
      run (step ftdi) start (.dispatch limit submits :: events) =
        some finish)
    (short : ¬ Yields start.loop.control
      (callbacks start.loop.fd
        (livePayload ftdi (.dispatch limit submits :: events)))
      limit) :
    ∃ delivered,
      finish.loop.control.delivered =
          start.loop.control.delivered ++ delivered ∧
        delivered.length ≤ limit := by
  refine ⟨_, delivered_dispatch (splitting_of_reachable reachable)
    running callback inRun reached, ?_⟩
  by_contra more
  apply short
  obtain ⟨count, rfl⟩ := Int.eq_ofNat_of_zero_le (le_of_lt positive)
  exact yields_of_heard (by
    rw [heardInRun] at more
    omega)

/--
At every moment of a run at most `limit` packets have been delivered, unless
the stream has yielded that many before another cause stops the loop.  A run
that is over has delivered at most `limit` packets, and exactly that many with
`COUNT_LIMIT` where the stream yields them, if and only if the stream does not
yield that many.
-/
theorem count_exact_iff (ftdi : FtdiContext) {start finish : CaptureState υ}
    {user : UserCallback υ} {limit : Int} {submits : Fin 3 → Int}
    {events : List Event} (positive : 0 < limit)
    (reachable : Reachable start.loop.fd)
    (running : start.loop.control.state = .running)
    (callback : start.loop.control.callback = some user)
    (inRun : ∀ event ∈ events, event.InRun)
    (reached :
      run (step ftdi) start (.dispatch limit submits :: events) =
        some finish) :
    (¬ Yields start.loop.control
        (callbacks start.loop.fd
          (livePayload ftdi (.dispatch limit submits :: events)))
        limit →
      ∃ delivered,
        finish.loop.control.delivered =
            start.loop.control.delivered ++ delivered ∧
          delivered.length ≤ limit) ∧
      ∀ value, finish.phase = .idle (some value) →
        ((∃ delivered,
            finish.loop.control.delivered =
                start.loop.control.delivered ++ delivered ∧
              delivered.length ≤ limit ∧
              (Yields start.loop.control
                  (callbacks start.loop.fd
                    (livePayload ftdi (.dispatch limit submits :: events)))
                  limit →
                delivered.length = limit ∧
                  finish.loop.control.state = .countLimit ∧
                  value = limit)) ↔
          ¬ Yields start.loop.control
            (callbacks start.loop.fd
              (livePayload ftdi (.dispatch limit submits :: events)))
            limit) := by
  have bound := delivered_le_of_not_yields positive reachable running callback
    inRun reached
  refine ⟨bound, fun value returned => ⟨?_, fun short => ?_⟩⟩
  · rintro ⟨delivered, -, -, exact⟩ yields
    obtain ⟨-, state, same⟩ := exact yields
    obtain ⟨entry, head, tail⟩ := run_cons_eq_some_iff.mp reached
    obtain ⟨-, rfl⟩ := step_dispatch head
    have reports := reports_run
      (reports_chaLoopRun start false limit submits) inRun tail value returned
    have counted := (counted_upkeep limit).run inRun
      (counted_chaLoopRun running false limit submits) tail
    have passed := counted.passed state
    rw [runReturn, if_neg (not_not.mpr state)] at reports
    omega
  · obtain ⟨delivered, split, length⟩ := bound short
    exact ⟨delivered, split, length, fun yields => absurd yields short⟩

/-- The last packet of the stream is the first one, and the limit is one. -/
theorem count_exact_iff_lastPacket :
    ∃ finish,
      run (step ⟨64, by decide⟩) (started (some counting) 0)
          (.dispatch 1 (fun _ => 0) :: onePacket ovFlagsHf0Last) =
            some finish ∧
        finish.phase = .idle (some (-4)) ∧
        ((∃ delivered,
          finish.loop.control.delivered = [] ++ delivered ∧
            (delivered.length : Int) ≤ 1 ∧
            (Yields (started (some counting) 0).loop.control
                (callbacks (started (some counting) 0).loop.fd
                  (livePayload ⟨64, by decide⟩
                    (.dispatch 1 (fun _ => 0) :: onePacket ovFlagsHf0Last)))
                1 →
              (delivered.length : Int) = 1 ∧
                finish.loop.control.state = .countLimit ∧
                (-4 : Int) = 1)) ↔
          ¬ Yields (started (some counting) 0).loop.control
            (callbacks (started (some counting) 0).loop.fd
              (livePayload ⟨64, by decide⟩
                (.dispatch 1 (fun _ => 0) :: onePacket ovFlagsHf0Last)))
            1) := by
  have outcome :
      (run (step ⟨64, by decide⟩) (started (some counting) 0)
          (.dispatch 1 (fun _ => 0) :: onePacket ovFlagsHf0Last)).map
        CaptureState.phase = some (.idle (some (-4))) := by
    decide +kernel
  obtain ⟨finish, reached, returned⟩ := Option.map_eq_some_iff.mp outcome
  exact ⟨finish, reached, returned,
    (count_exact_iff _ (by decide) (.init _ _ 1024) rfl rfl
      (by simp [onePacket, othersCancelled, Event.InRun]) reached).2 _
        returned⟩

/-- With a limit of one, two packets are delivered. -/
theorem one_packet_too_many :
    ∃ finish,
      run (step ⟨64, by decide⟩) (started (some counting) 0)
          (.dispatch 1 (fun _ => 0) :: threePackets) = some finish ∧
        Yields (started (some counting) 0).loop.control
          (callbacks (started (some counting) 0).loop.fd
            (livePayload ⟨64, by decide⟩
              (.dispatch 1 (fun _ => 0) :: threePackets)))
          1 ∧
        finish.loop.control.delivered.length = 2 ∧
        finish.phase = .idle (some 2) := by
  have outcome :
      (run (step ⟨64, by decide⟩) (started (some counting) 0)
          (.dispatch 1 (fun _ => 0) :: threePackets)).map
        (fun finish =>
          (finish.loop.control.delivered.length, finish.phase)) =
        some (2, .idle (some 2)) := by
    decide +kernel
  obtain ⟨finish, reached, outcome⟩ := Option.map_eq_some_iff.mp outcome
  simp only [Prod.mk.injEq] at outcome
  refine ⟨finish, reached, ?_, outcome⟩
  refine ⟨(callbacks (started (some counting) 0).loop.fd
    (livePayload ⟨64, by decide⟩
      (.dispatch 1 (fun _ => 0) :: threePackets))).take 1,
    List.take_prefix _ _, ?_, ?_⟩
  · decide +kernel
  · decide +kernel

end OpenVizsla.Capture.CountLimit
