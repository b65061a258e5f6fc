import Mathlib
import OpenVizsla.Extcap.Filter

/-!
# The steps of the filter

The branches of `filter_packet` dispose of a packet in five ways.  `Disposes`
lists them, each with what the branch relies on; `nextState` is the state
that they lead to.
-/

namespace OpenVizsla.Extcap.FilterSteps

open OpenVizsla.Extcap.Filter

/-- The transactions that the device can answer with NAK. -/
def transactions : List (List UInt8) :=
  [[usbPidTokenIn], [usbPidSpecialPing],
    [usbPidTokenOut, usbPidDataData0], [usbPidTokenOut, usbPidDataData1]]

/-- What a packet does to the state of the filter. -/
def nextState (st : FilterState) (pid : UInt8) : FilterState :=
  if pid = usbPidTokenSof then .default
  else if pid = usbPidSpecialSplit then .split
  else if st = .split then .default
  else if pid = usbPidTokenOut then .out
  else if st = .out ∧ (pid = usbPidDataData0 ∨ pid = usbPidDataData1) then
    .expectNak
  else if pid = usbPidTokenIn ∨ pid = usbPidSpecialPing then .expectNak
  else .default

theorem nextState_spec (st : FilterState) (pid : UInt8) :
    (nextState st pid = .split ↔ pid = usbPidSpecialSplit) ∧
      (nextState st pid = .out ↔ pid = usbPidTokenOut ∧ st ≠ .split) ∧
      (nextState st pid = .expectNak ↔
        (pid = usbPidTokenIn ∨ pid = usbPidSpecialPing) ∧ st ≠ .split ∨
          (pid = usbPidDataData0 ∨ pid = usbPidDataData1) ∧ st = .out) := by
  revert pid
  cases st <;> decide +kernel

theorem token_ne : ∀ pid : UInt8,
    pid = usbPidTokenOut ∨ [pid] ∈ transactions →
      pid ≠ usbPidTokenSof ∧ pid ≠ usbPidHandshakeNak := by
  decide +kernel

/-- What the filter does with a packet. -/
inductive Disposes (packet : PcapPacket) (data : HandlerData) :
    HandlerData → Prop where
  /-- The queue is written, and then the packet. -/
  | forward
      (next : nextState data.st packet.pid = .default ∨
        nextState data.st packet.pid = .split)
      (notLone : ¬ (data.filterSofs = true ∧ packet.pid = usbPidTokenSof ∧
        data.st = .default))
      (incomplete : ¬ (data.filterNaks = true ∧
        packet.pid = usbPidHandshakeNak ∧ data.st = .expectNak)) :
      Disposes packet data
        { forwardPacket packet (forwardQueuedPackets data) with
          st := nextState data.st packet.pid }
  /-- A SOF between two transactions is dropped. -/
  | dropSof (filtering : data.filterSofs = true)
      (sof : packet.pid = usbPidTokenSof) (default : data.st = .default) :
      Disposes packet data data
  /-- The queue is written, and the packet is put into it. -/
  | queueToken (unsplit : data.st ≠ .split)
      (next : nextState data.st packet.pid = .out ∧
          packet.pid = usbPidTokenOut ∨
        nextState data.st packet.pid = .expectNak ∧
          [packet.pid] ∈ transactions) :
      Disposes packet data
        { queuePacket packet (forwardQueuedPackets data) with
          st := nextState data.st packet.pid }
  /-- The packet is put into the queue, behind the token. -/
  | queueData (out : data.st = .out)
      (next : nextState data.st packet.pid = .expectNak)
      (answerable : [usbPidTokenOut, packet.pid] ∈ transactions) :
      Disposes packet data
        { queuePacket packet data with st := nextState data.st packet.pid }
  /-- The transaction is dropped together with its NAK. -/
  | dropWindow (filtering : data.filterNaks = true)
      (expectNak : data.st = .expectNak)
      (nak : packet.pid = usbPidHandshakeNak) :
      Disposes packet data
        { freeQueuedPackets data with st := nextState data.st packet.pid }

section Branches

variable {packet : PcapPacket} {data : HandlerData}

theorem forwardQueuedPackets_of_empty (empty : data.queue = []) :
    forwardQueuedPackets data = data := by
  obtain ⟨out, debug, utcTs, tsOffset, lastOvTs, naks, sofs, st, queue⟩ :=
    data
  cases empty
  rfl

theorem disposes_sof
    (idle : data.st = .default ∨ data.st = .split → data.queue = [])
    (sof : packet.pid = usbPidTokenSof) :
    Disposes packet data (filterBranches packet data) := by
  have next : nextState data.st packet.pid = .default := if_pos sof
  have incomplete : ¬ (data.filterNaks = true ∧
      packet.pid = usbPidHandshakeNak ∧ data.st = .expectNak) := by
    rw [sof]
    exact fun nak => absurd nak.2.1 (by decide)
  rw [filterBranches, if_pos sof]
  by_cases default : data.st = .default
  · rw [if_pos default]
    cases filtering : data.filterSofs with
    | true => exact .dropSof filtering sof default
    | false =>
        have forward := Disposes.forward (.inl next)
          (fun lone => by simp [lone.1] at filtering) incomplete
        rw [forwardQueuedPackets_of_empty (idle (.inl default)), next,
          ← default] at forward
        exact forward
  · rw [if_neg default, ← next]
    exact .forward (.inl next) (fun lone => default lone.2.2) incomplete

/-- The branches, with what each of them relies on. -/
theorem disposes_filterBranches
    (idle : data.st = .default ∨ data.st = .split → data.queue = []) :
    Disposes packet data (filterBranches packet data) := by
  by_cases sof : packet.pid = usbPidTokenSof
  · exact disposes_sof idle sof
  have notLone : ¬ (data.filterSofs = true ∧ packet.pid = usbPidTokenSof ∧
      data.st = .default) := fun lone => sof lone.2.1
  rw [filterBranches, if_neg sof]
  by_cases split : packet.pid = usbPidSpecialSplit
  · have next : nextState data.st packet.pid = .split := by
      rw [nextState, if_neg sof, if_pos split]
    rw [if_pos split, ← next]
    refine .forward (.inr next) notLone fun nak => ?_
    rw [split] at nak
    exact absurd nak.2.1 (by decide)
  rw [if_neg split]
  by_cases afterSplit : data.st = .split
  · have next : nextState data.st packet.pid = .default := by
      rw [nextState, if_neg sof, if_neg split, if_pos afterSplit]
    have forward := Disposes.forward (.inl next) notLone fun nak => by
      simp [afterSplit] at nak
    rw [forwardQueuedPackets_of_empty (idle (.inr afterSplit)), next]
      at forward
    rwa [if_pos afterSplit]
  rw [if_neg afterSplit]
  by_cases out : packet.pid = usbPidTokenOut
  · have next : nextState data.st packet.pid = .out := by
      rw [nextState, if_neg sof, if_neg split, if_neg afterSplit, if_pos out]
    rw [if_pos out, ← next]
    exact .queueToken afterSplit (.inl ⟨next, out⟩)
  rw [if_neg out]
  by_cases sent : data.st = .out ∧
      (packet.pid = usbPidDataData0 ∨ packet.pid = usbPidDataData1)
  · have next : nextState data.st packet.pid = .expectNak := by
      rw [nextState, if_neg sof, if_neg split, if_neg afterSplit, if_neg out,
        if_pos sent]
    rw [if_pos sent, ← next]
    refine .queueData sent.1 next ?_
    rcases sent.2 with data | data <;> rw [data] <;> decide
  rw [if_neg sent]
  by_cases token : packet.pid = usbPidTokenIn ∨
      packet.pid = usbPidSpecialPing
  · have next : nextState data.st packet.pid = .expectNak := by
      rw [nextState, if_neg sof, if_neg split, if_neg afterSplit, if_neg out,
        if_neg sent, if_pos token]
    rw [if_pos token, ← next]
    refine .queueToken afterSplit (.inr ⟨next, ?_⟩)
    rcases token with token | token <;> rw [token] <;> decide
  have next : nextState data.st packet.pid = .default := by
    rw [nextState, if_neg sof, if_neg split, if_neg afterSplit, if_neg out,
      if_neg sent, if_neg token]
  rw [if_neg token, ← next]
  by_cases nak : data.st = .expectNak ∧ packet.pid = usbPidHandshakeNak
  · rw [if_pos nak]
    cases filtering : data.filterNaks with
    | true =>
        have drop := Disposes.dropWindow filtering nak.1 nak.2
        have same : discardPacket packet (discardQueuedPackets data) =
            freeQueuedPackets data := by
          simp [discardPacket, discardQueuedPackets, freeQueuedPackets,
            filtering]
        rwa [same]
    | false =>
        have forward := Disposes.forward (.inl next) notLone fun nak => by
          simp [nak.1] at filtering
        have same : discardPacket packet (discardQueuedPackets data) =
            forwardPacket packet (forwardQueuedPackets data) := by
          simp [discardPacket, discardQueuedPackets, forwardQueuedPackets,
            freeQueuedPackets, filtering]
        rwa [same]
  · rw [if_neg nak]
    exact .forward (.inl next) notLone fun window =>
      nak ⟨window.2.2, window.2.1⟩

/-- The settings of the filter do not change. -/
theorem Disposes.filters {next : HandlerData}
    (disposes : Disposes packet data next) :
    next.filterNaks = data.filterNaks ∧
      next.filterSofs = data.filterSofs := by
  cases disposes <;> exact ⟨rfl, rfl⟩

end Branches

end OpenVizsla.Extcap.FilterSteps
