import Mathlib
import OpenVizsla.Extcap.Session

/-!
# The queue of the filter

The state of the filter determines what is in its queue.  This does not depend
on the settings of the filter, nor on whether the writes succeed, and it is
what the assertions of `filter_packet` rely on.
-/

namespace OpenVizsla.Extcap.Queue

open OpenVizsla.Foundation.Runs
open OpenVizsla.Decoder.Packet
open OpenVizsla.Decoder.Reported
open OpenVizsla.Extcap.Filter
open OpenVizsla.Extcap.FilterSteps
open OpenVizsla.Extcap.Session

/-- The record of a captured packet with this identifier. -/
def RecordOf (pid : UInt8) (entry : List UInt8) : Prop :=
  ∃ packet : PcapPacket,
    packet.Nonempty ∧ packet.pid = pid ∧ entry = record packet

/-- The queues that go with a state of the filter. -/
inductive Holds : FilterState → List (List UInt8) → Prop where
  | default : Holds .default []
  | split : Holds .split []
  | out (token : List UInt8) :
      RecordOf usbPidTokenOut token → Holds .out [token]
  | poll (token : List UInt8) :
      RecordOf usbPidTokenIn token ∨ RecordOf usbPidSpecialPing token →
        Holds .expectNak [token]
  | transaction (token data : List UInt8) :
      RecordOf usbPidTokenOut token →
        RecordOf usbPidDataData0 data ∨ RecordOf usbPidDataData1 data →
          Holds .expectNak [token, data]

theorem Holds.idle {st : FilterState} {queue : List (List UInt8)}
    (holds : Holds st queue) (idle : st = .default ∨ st = .split) :
    queue = [] := by
  cases holds with
  | default | split => rfl
  | out | poll | transaction => simp at idle

theorem Holds.length_le {st : FilterState} {queue : List (List UInt8)}
    (holds : Holds st queue) : queue.length ≤ 2 := by
  cases holds <;> simp

/-- The assertions hold for every packet with captured bytes. -/
theorem Holds.asserted {packet : PcapPacket} {data : HandlerData}
    (holds : Holds data.st data.queue) (nonempty : packet.Nonempty) :
    Asserted packet data :=
  ⟨fun default => holds.idle (.inl default),
    fun split => holds.idle (.inr split), nonempty⟩

theorem poll_of_mem {pid : UInt8} (member : [pid] ∈ transactions) :
    pid = usbPidTokenIn ∨ pid = usbPidSpecialPing := by
  simpa [transactions] using member

theorem data_of_mem {pid : UInt8}
    (member : [usbPidTokenOut, pid] ∈ transactions) :
    pid = usbPidDataData0 ∨ pid = usbPidDataData1 := by
  simpa [transactions] using member

/-- Every branch of the filter restores the queue of its state. -/
theorem Holds.disposes {packet : PcapPacket} {data next : HandlerData}
    (holds : Holds data.st data.queue) (nonempty : packet.Nonempty)
    (disposes : Disposes packet data next) : Holds next.st next.queue := by
  cases disposes with
  | forward still notLone incomplete =>
      show Holds (nextState data.st packet.pid) []
      rcases still with default | split
      · rw [default]
        exact .default
      · rw [split]
        exact .split
  | dropSof filtering sof default => exact holds
  | queueToken unsplit token =>
      show Holds (nextState data.st packet.pid) [record packet]
      rcases token with ⟨out, pid⟩ | ⟨expectNak, member⟩
      · rw [out]
        exact .out _ ⟨packet, nonempty, pid, rfl⟩
      · rw [expectNak]
        refine .poll _ ((poll_of_mem member).imp ?_ ?_)
        · exact fun pid => ⟨packet, nonempty, pid, rfl⟩
        · exact fun pid => ⟨packet, nonempty, pid, rfl⟩
  | queueData out expectNak member =>
      show Holds (nextState data.st packet.pid)
        (data.queue ++ [record packet])
      rw [expectNak]
      rw [out] at holds
      generalize data.queue = queue at holds ⊢
      cases holds with
      | out token first =>
          refine .transaction _ _ first ((data_of_mem member).imp ?_ ?_)
          · exact fun pid => ⟨packet, nonempty, pid, rfl⟩
          · exact fun pid => ⟨packet, nonempty, pid, rfl⟩
  | dropWindow filtering expectNak nak =>
      show Holds (nextState data.st packet.pid) []
      have next : nextState data.st packet.pid = .default := by
        rw [nak, expectNak]
        decide
      rw [next]
      exact .default

/-- One call of `packet_handler`. -/
theorem Holds.handle {packet : OvPacket} {data : HandlerData}
    (holds : Holds data.st data.queue) (decoded : Decoded packet) :
    ∃ next, handle data packet = some next ∧ Holds next.st next.queue := by
  by_cases positive : packet.size > 0
  · have nonempty := recordOf_nonempty data decoded positive
    have arrived : Holds (arrived packet data).st (arrived packet data).queue :=
      holds
    refine ⟨filterBranches (recordOf packet data) (Session.arrived packet data),
      ?_, ?_⟩
    · rw [handle_of_pos positive]
      exact if_pos (arrived.asserted nonempty)
    · exact arrived.disposes nonempty (disposes_filterBranches arrived.idle)
  · exact ⟨_, handle_of_not_pos positive, holds⟩

/-- Any number of calls of `packet_handler`. -/
theorem run_holds (ts : Timespec) (options : Options) (out debug : Output)
    {packets : List OvPacket} (decoded : ∀ packet ∈ packets, Decoded packet) :
    ∃ data, run handle (startHandler ts options out debug) packets =
        some data ∧
      Holds data.st data.queue := by
  have progress (data : HandlerData) (packet : OvPacket)
      (holds : Holds data.st data.queue) (decoded : Decoded packet) :
      ∃ next, handle data packet = some next ∧ Holds next.st next.queue :=
    holds.handle decoded
  have initial : Holds (startHandler ts options out debug).st
      (startHandler ts options out debug).queue := .default
  exact run_total progress initial decoded

/--
After any packets of the decoder, under all settings and whatever writes
succeed, the queue is the one that goes with the state of the filter, and no
assertion has failed.
-/
theorem queue_holds (ts : Timespec) (options : Options) (out debug : Output)
    {packets : List OvPacket} (decoded : ∀ packet ∈ packets, Decoded packet) :
    ∃ data, run handle (startHandler ts options out debug) packets =
        some data ∧
      Holds data.st data.queue ∧ data.queue.length ≤ 2 := by
  obtain ⟨data, reached, holds⟩ := run_holds ts options out debug decoded
  exact ⟨data, reached, holds, holds.length_le⟩

/-- OUT and DATA0 wait for an answer, also when the output is broken. -/
theorem queue_holds_transaction :
    ∃ data, run handle
        (startHandler ⟨0, 0⟩ ⟨288, true, true⟩ (newFile false) (newFile true))
        [pidPacket 0 usbPidTokenOut, pidPacket 1 usbPidDataData0] =
          some data ∧
      Holds data.st data.queue ∧ data.queue.length ≤ 2 :=
  queue_holds _ _ _ _ (by decide)

end OpenVizsla.Extcap.Queue
