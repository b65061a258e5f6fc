import OpenVizsla.Decoder.Chunking
import OpenVizsla.Decoder.Termination

/-!
# Chunks of the stream

The callers of `frame_decoder_proc` feed it with chunks, and they stop at the
first call that returns -1.  The decoder does not see the cuts, but its caller
takes a call for failed when the length of the chunk becomes -1 as an `int`.
It then does not hear what is behind this chunk.
-/

namespace OpenVizsla.Decoder.Chunks

open OpenVizsla.Foundation.Integers
open OpenVizsla.Foundation.Streaming
open OpenVizsla.Decoder.PacketProc
open OpenVizsla.Decoder.FrameProc
open OpenVizsla.Decoder.Invariant
open OpenVizsla.Decoder.ByteMachine
open OpenVizsla.Decoder.Callbacks
open OpenVizsla.Decoder.Chunking
open OpenVizsla.Decoder.Termination

/-! ## Bytes that complete something -/

/--
The next byte makes a call: it is the last one of a bus frame or of a packet,
or the one behind a packet without data.
-/
def Completes (fd : FrameDecoder) : Prop :=
  fd.state = .needBusFrameChecksum ∨
    fd.state = .needSdramFrameData ∧ fd.pd.state = .needPacketData ∧
      requiredLength fd.pd ≤ 1

/-- The calls that have been made when a run ends. -/
def calls {δ : Type*} :
    Except (δ × List Callback) (δ × List Callback) → List Callback
  | .error failed => failed.2
  | .ok next => next.2

theorem packetByte_calls {pd : PacketDecoder} (assembling : Assembling pd)
    (user : List Callback) (byte : UInt8) :
    ∃ more, calls (packetByte recorder (pd, user) byte) = user ++ more ∧
      (more = [] ↔
        ¬ (pd.state = .needPacketData ∧ requiredLength pd ≤ 1)) := by
  unfold packetByte
  by_cases data : pd.state = .needPacketData
  · by_cases complete : requiredLength pd = 0
    · -- the report of a packet that was complete already
      refine ⟨[.packet pd.packet], ?_, by simp [data, complete]⟩
      rw [settle_of_pending recorder user data complete]
      simp only [settledByte, restart, reduceCtorEq, if_false]
      cases packetHeaderByte _ byte <;> rfl
    · have one : [byte].length ≤ requiredLength pd := by
        simp only [List.length_singleton]
        omega
      have left := requiredLength_copyData assembling data one
      rw [List.length_singleton] at left
      rw [settle_of_required recorder user complete]
      simp only [settledByte, data, if_true]
      by_cases last : requiredLength pd = 1
      · have none' : requiredLength (copyData pd [byte]) = 0 := by omega
        have data' : (copyData pd [byte]).state = .needPacketData := data
        refine ⟨[.packet (copyData pd [byte]).packet], ?_, by simp [last]⟩
        rw [settle_of_pending recorder user data' none']
        rfl
      · have more : requiredLength (copyData pd [byte]) ≠ 0 := by omega
        have late : ¬ requiredLength pd ≤ 1 := by omega
        refine ⟨[], ?_, by simp [late]⟩
        rw [settle_of_required recorder user more, List.append_nil]
        rfl
  · refine ⟨[], ?_, by simp [data]⟩
    rw [settle_of_header recorder user data, List.append_nil]
    simp only [settledByte, data, if_false]
    cases packetHeaderByte pd byte <;> rfl

theorem frameByte_calls {fd : FrameDecoder} (splitting : Splitting fd)
    (user : List Callback) (byte : UInt8) :
    ∃ more, calls (frameByte recorder (fd, user) byte) = user ++ more ∧
      (more = [] ↔ ¬ Completes fd) := by
  unfold frameByte Completes
  by_cases data : fd.state = .needSdramFrameData
  · obtain ⟨more, same, none'⟩ :=
      packetByte_calls splitting.assembling user byte
    refine ⟨more, ?_, by simpa [data] using none'⟩
    simp only [data, if_true]
    rw [← same]
    cases packetByte recorder (fd.pd, user) byte <;> rfl
  · simp only [data, if_false, false_and, or_false]
    unfold frameHeaderByte
    cases state : fd.state with
    | needBusFrameChecksum =>
        exact ⟨[.busFrame fd.word fd.value], rfl, by simp⟩
    | needFrameMagic =>
        refine ⟨[], ?_, by simp⟩
        rw [List.append_nil]
        by_cases bus : byte = 0x55
        · simp [bus, calls]
        · by_cases sdram : byte = 0xd0 <;> simp [bus, sdram, calls]
    | needSdramFrameData => exact absurd state data
    | needSdramFrameLength | needBusFrameAddrHi | needBusFrameAddrLo
    | needBusFrameValue =>
        exact ⟨[], (List.append_nil _).symm, by simp⟩

/-- The calls are those of the bytes that complete something. -/
theorem frameBytes_calls {current : FrameDecoder × List Callback}
    (splitting : Splitting current.1) (input : List UInt8) :
    ∃ more, calls (frameBytes recorder current input) = current.2 ++ more ∧
      (more = [] ↔
        ∀ front byte back reached, input = front ++ byte :: back →
          frameBytes recorder current front = .ok reached →
            ¬ Completes reached.1) := by
  induction input generalizing current with
  | nil => exact ⟨[], (List.append_nil _).symm, by simp⟩
  | cons first rest ih =>
      obtain ⟨early, same, noneEarly⟩ :=
        frameByte_calls splitting current.2 first
      rw [frameBytes_cons]
      cases step : frameByte recorder current first with
      | error failed =>
          rw [step] at same
          refine ⟨early, same, noneEarly.trans ⟨?_, fun none' => ?_⟩⟩
          · rintro fine (_ | ⟨other, front⟩) byte back reached split run
            · cases run
              exact fine
            · obtain ⟨rfl, -⟩ := List.cons.inj split
              rw [frameBytes_cons, step] at run
              cases run
          · exact none' [] first rest current rfl rfl
      | ok next =>
          rw [step] at same
          obtain ⟨late, same', noneLate⟩ :=
            ih (splitting_frameByte splitting step)
          have nextCalls : next.2 = current.2 ++ early := same
          refine ⟨early ++ late, ?_, ?_⟩
          · rw [← List.append_assoc, ← nextCalls]
            exact same'
          · rw [List.append_eq_nil_iff, noneEarly, noneLate]
            constructor
            · rintro ⟨fine, later⟩ (_ | ⟨other, front⟩) byte back reached
                split run
              · cases run
                exact fine
              · obtain ⟨rfl, split'⟩ := List.cons.inj split
                rw [frameBytes_cons, step] at run
                exact later front byte back reached split' run
            · intro none'
              refine ⟨none' [] first rest current rfl rfl, ?_⟩
              intro front byte back reached split run
              refine none' (first :: front) byte back reached ?_ ?_
              · rw [split]
                rfl
              · rw [frameBytes_cons, step]
                exact run

/-- No byte of `after` makes a call, when it is decoded behind `before`. -/
def CompletesNothing (fd : FrameDecoder) (before after : List UInt8) :
    Prop :=
  ∀ front byte back reached, after = front ++ byte :: back →
    frameBytes recorder (fd, []) (before ++ front) = .ok reached →
      ¬ Completes reached.1

section Calls

variable {fd : FrameDecoder}

/-- The callbacks are the calls of the byte machine. -/
theorem callbacks_eq_calls (splitting : Splitting fd) (input : List UInt8) :
    callbacks fd input = calls (frameBytes recorder (fd, []) input) := by
  have follows := frameDecoderProc_frameBytes recorder fd [] input splitting
  cases run : frameBytes recorder (fd, []) input with
  | error failed =>
      rw [run] at follows
      exact follows.2.1
  | ok next =>
      rw [run] at follows
      exact follows.2.1

theorem callbacks_append_eq_iff (splitting : Splitting fd)
    (before after : List UInt8) :
    callbacks fd before = callbacks fd (before ++ after) ↔
      CompletesNothing fd before after := by
  rw [callbacks_eq_calls splitting, callbacks_eq_calls splitting,
    frameBytes_append]
  unfold CompletesNothing
  simp only [frameBytes_append]
  cases run : frameBytes recorder (fd, []) before with
  | error failed =>
      exact iff_of_true rfl (by
        rintro front byte back reached - ⟨⟩)
  | ok middle =>
      obtain ⟨more, same, none'⟩ :=
        frameBytes_calls (splitting_frameBytes splitting run) after
      have whole : calls ((Except.ok middle).bind fun next =>
          frameBytes recorder next after) = middle.2 ++ more := same
      rw [whole]
      exact List.self_eq_append_right.trans none'

end Calls

/-! ## The caller -/

/-- A length that becomes -1 when it is returned. -/
def Clipped (length : Nat) : Prop :=
  length % 2 ^ 32 = 2 ^ 32 - 1

instance (length : Nat) : Decidable (Clipped length) :=
  inferInstanceAs (Decidable (_ = _))

/-- The caller takes the call for failed. -/
def returnsError {σ : Type*} (outcome : Outcome FrameDecoder σ Copy) : Bool :=
  frameDecoderReturn outcome == -1

/-- Feed chunks one after another, until a call returns -1. -/
def feedReturning {σ : Type*} (ops : DecoderOps σ) (fd : FrameDecoder)
    (user : σ) (chunks : List (List UInt8)) : Fed FrameDecoder σ :=
  feedUntil returnsError (frameDecoderProc ops) fd user chunks

/-- Chunks, until a call returns -1, are as good as one call for them all. -/
structure SeenAsOne (fd : FrameDecoder) (chunks : List (List UInt8)) :
    Prop where
  /-- The same callbacks are made: every client ends in the same state. -/
  user :
    ∀ {σ : Type} (ops : DecoderOps σ) (user : σ),
      (feedReturning ops fd user chunks).user =
        (frameDecoderProc ops fd user chunks.flatten).user
  /-- The one fails if and only if the other does. -/
  failed :
    ∀ {σ : Type} (ops : DecoderOps σ) (user : σ),
      (feedReturning ops fd user chunks).failed = true ↔
        frameDecoderReturn (frameDecoderProc ops fd user chunks.flatten) = -1
  /-- Without a failure the decoder is in the same state. -/
  processor :
    ∀ {σ : Type} (ops : DecoderOps σ) (user : σ),
      frameDecoderReturn (frameDecoderProc ops fd user chunks.flatten) ≠ -1 →
        (feedReturning ops fd user chunks).processor =
          (frameDecoderProc ops fd user chunks.flatten).processor

/-- The chunks that the caller gets to, when none fails. -/
def heard (chunks : List (List UInt8)) : List (List UInt8) :=
  throughFirst (fun chunk => decide (Clipped chunk.length)) chunks

section Caller

variable {σ : Type*} {fd : FrameDecoder} {chunks : List (List UInt8)}

theorem returns_neg_one_iff (ops : DecoderOps σ) (user : σ)
    (input : List UInt8) (splitting : Splitting fd) :
    frameDecoderReturn (frameDecoderProc ops fd user input) = -1 ↔
      (frameDecoderProc ops fd user input).consumed = none ∨
        Clipped input.length := by
  cases consumed : (frameDecoderProc ops fd user input).consumed with
  | none => simp [frameDecoderReturn, consumed]
  | some count =>
      have whole := frameDecoderProc_consumed ops user input splitting consumed
      simp only [frameDecoderReturn, consumed, whole, reduceCtorEq, false_or,
        toInt_eq_neg_one_iff, Clipped]

/-- What the caller gets to is decoded like one piece. -/
theorem feedReturning_heard (ops : DecoderOps σ) (user : σ)
    (splitting : Splitting fd) :
    let fed := feedReturning ops fd user chunks
    let whole := frameDecoderProc ops fd user (heard chunks).flatten
    fed.user = whole.user ∧
      (fed.failed = true ↔
        whole.consumed = none ∨ ∃ chunk ∈ chunks, Clipped chunk.length) ∧
      (whole.consumed ≠ none → fed.processor = whole.processor) := by
  have counts (fd : FrameDecoder) (user : σ) (chunk : List UInt8)
      (splitting : Splitting fd) :
      returnsError (frameDecoderProc ops fd user chunk) = true ↔
        (frameDecoderProc ops fd user chunk).consumed = none ∨
          decide (Clipped chunk.length) = true := by
    rw [returnsError, beq_iff_eq,
      returns_neg_one_iff ops user chunk splitting, decide_eq_true_iff]
  obtain ⟨processor, client, failed⟩ := feedUntil_throughFirst
    (frameDecoderProc_splits ops) counts chunks user splitting
  simp only [decide_eq_true_iff] at failed
  have agrees := (frameDecoderProc_splits ops).feed_agrees (heard chunks) fd
    user splitting
  refine ⟨client.trans agrees.user, ?_, fun succeeded => ?_⟩
  · rw [← agrees.consumed]
    exact failed
  · refine processor.trans (agrees.processor ?_)
    rw [agrees.consumed]
    exact succeeded

theorem heard_of_none (others : ∀ chunk ∈ chunks, ¬ Clipped chunk.length) :
    heard chunks = chunks :=
  throughFirst_of_none fun chunk member =>
    decide_eq_false (others chunk member)

theorem heard_append {before : List (List UInt8)} {chunk : List UInt8}
    (others : ∀ earlier ∈ before, ¬ Clipped earlier.length)
    (first : Clipped chunk.length) (after : List (List UInt8)) :
    heard (before ++ chunk :: after) = before ++ [chunk] :=
  throughFirst_append
    (fun earlier member => decide_eq_false (others earlier member))
    (decide_eq_true first) after

/-- The caller must hear everything, and must not take a success for one. -/
theorem seenAsOne_iff_heard (splitting : Splitting fd) :
    SeenAsOne fd chunks ↔
      callbacks fd (heard chunks).flatten = callbacks fd chunks.flatten ∧
        ((HasWrongMagic fd (heard chunks).flatten ∨
            ∃ chunk ∈ chunks, Clipped chunk.length) ↔
          HasWrongMagic fd chunks.flatten ∨
            Clipped chunks.flatten.length) := by
  have returns {τ : Type} (ops : DecoderOps τ) (user : τ) :=
    returns_neg_one_iff ops user chunks.flatten splitting
  have fed {τ : Type} (ops : DecoderOps τ) (user : τ) :=
    @feedReturning_heard τ fd chunks ops user splitting
  have wrong {τ : Type} (ops : DecoderOps τ) (user : τ) (input : List UInt8) :=
    consumed_eq_none_iff ops user input splitting
  simp only [ne_eq, wrong] at returns fed
  constructor
  · intro same
    refine ⟨(fed recorder []).1.symm.trans (same.user recorder []), ?_⟩
    rw [← (fed recorder []).2.1, same.failed recorder [], returns]
  · rintro ⟨sameCalls, sameFailure⟩
    have failures {τ : Type} (ops : DecoderOps τ) (user : τ) :=
      (fed ops user).2.1.trans (sameFailure.trans (returns ops user).symm)
    refine ⟨fun ops user => ?_, failures, fun ops user succeeded => ?_⟩
    · rw [(fed ops user).1, frameDecoderProc_replay ops user _ splitting,
        frameDecoderProc_replay ops user _ splitting, sameCalls]
    · rw [ne_eq, returns, ← sameFailure, not_or] at succeeded
      obtain ⟨right, unclipped⟩ := succeeded
      have all : heard chunks = chunks :=
        heard_of_none fun chunk member clipped =>
          unclipped ⟨chunk, member, clipped⟩
      rw [(fed ops user).2.2 right, all]

/-- The caller hears all callbacks if none is behind what it hears. -/
theorem callbacks_heard_iff (splitting : Splitting fd) :
    callbacks fd (heard chunks).flatten = callbacks fd chunks.flatten ↔
      ∀ before chunk after, chunks = before ++ chunk :: after →
        Clipped chunk.length →
          (∀ earlier ∈ before, ¬ Clipped earlier.length) →
            CompletesNothing fd (before ++ [chunk]).flatten
              after.flatten := by
  have whole (before : List (List UInt8)) (chunk : List UInt8)
      (after : List (List UInt8)) :
      (before ++ chunk :: after).flatten =
        (before ++ [chunk]).flatten ++ after.flatten := by
    simp
  constructor
  · rintro same before chunk after rfl clipped others
    rw [heard_append others clipped, whole before chunk after] at same
    exact (callbacks_append_eq_iff splitting _ _).mp same
  · intro nothing
    rcases none_or_first (fun chunk => decide (Clipped chunk.length)) chunks
      with others | ⟨before, chunk, after, rfl, clipped, others⟩
    · rw [heard_of_none fun chunk member =>
        of_decide_eq_false (others chunk member)]
    · have clipped' := of_decide_eq_true clipped
      have others' : ∀ earlier ∈ before, ¬ Clipped earlier.length :=
        fun earlier member => of_decide_eq_false (others earlier member)
      rw [heard_append others' clipped', whole before chunk after]
      exact (callbacks_append_eq_iff splitting _ _).mpr
        (nothing before chunk after rfl clipped' others')

/-- The caller fails when it should. -/
theorem failures_iff :
    ((HasWrongMagic fd (heard chunks).flatten ∨
          ∃ chunk ∈ chunks, Clipped chunk.length) ↔
        HasWrongMagic fd chunks.flatten ∨ Clipped chunks.flatten.length) ↔
      HasWrongMagic fd chunks.flatten ∨
        (Clipped chunks.flatten.length ↔
          ∃ chunk ∈ chunks, Clipped chunk.length) := by
  by_cases some' : ∃ chunk ∈ chunks, Clipped chunk.length
  · simp only [some', or_true, true_iff, iff_true]
  · have none' : ∀ chunk ∈ chunks, ¬ Clipped chunk.length :=
      fun chunk member clipped => some' ⟨chunk, member, clipped⟩
    simp only [some', or_false, iff_false, heard_of_none none']
    tauto

end Caller

/--
Feeding chunks until a call returns -1 is as good as one call for them all if
and only if two things hold.  Unless there is a wrong magic byte, the length
of all is clipped exactly when that of some chunk is.  And behind the first
such chunk nothing is completed.
-/
theorem seenAsOne_iff {fd : FrameDecoder} (reachable : Reachable fd)
    (chunks : List (List UInt8)) :
    SeenAsOne fd chunks ↔
      (HasWrongMagic fd chunks.flatten ∨
          (Clipped chunks.flatten.length ↔
            ∃ chunk ∈ chunks, Clipped chunk.length)) ∧
        ∀ before chunk after, chunks = before ++ chunk :: after →
          Clipped chunk.length →
            (∀ earlier ∈ before, ¬ Clipped earlier.length) →
              CompletesNothing fd (before ++ [chunk]).flatten
                after.flatten := by
  have splitting := splitting_of_reachable reachable
  rw [seenAsOne_iff_heard splitting, failures_iff,
    callbacks_heard_iff splitting, and_comm]

/-- Two cuts around the report of a packet without data. -/
def emptyPacketCut : List (List UInt8) :=
  [[0xd0, 0x02, 0xa0, 0x00, 0x00, 0x00, 0x05], [], [0xa1]]

theorem seenAsOne_emptyPacketCut : SeenAsOne (zeroed 8203) emptyPacketCut := by
  have short : ∀ chunk ∈ emptyPacketCut, ¬ Clipped chunk.length := by decide
  refine (seenAsOne_iff (.init _ _ 8203) emptyPacketCut).mpr ⟨.inr ?_, ?_⟩
  · refine iff_of_false (by decide) ?_
    rintro ⟨chunk, member, clipped⟩
    exact short chunk member clipped
  · rintro before chunk after split clipped -
    refine absurd clipped (short chunk ?_)
    rw [split]
    exact List.mem_append_right _ List.mem_cons_self

/-! ## Long chunks -/

/-- There is nothing wrong with magic bytes of bus frames. -/
theorem not_hasWrongMagic_busMagic (count : Nat) :
    ¬ HasWrongMagic (zeroed 8203) (List.replicate count 0x55) := by
  obtain ⟨next, run⟩ : ∃ next, frameBytes recorder (zeroed 8203, [])
      (List.replicate count 0x55) = .ok next :=
    frameBytes_busMagic recorder ⟨by decide, by decide⟩ count
  rw [HasWrongMagic, ← frameBytes_error_iff, run]
  rintro ⟨failed, ⟨⟩⟩

/-- Each of the two calls succeeds, and one for both returns -1. -/
theorem longChunks_not_seenAsOne :
    ¬ SeenAsOne (zeroed 8203)
      [List.replicate (2 ^ 31) 0x55, List.replicate (2 ^ 31 - 1) 0x55] := by
  have splitting : Splitting (zeroed 8203) := splitting_init _ _ _
  rw [seenAsOne_iff_heard splitting, failures_iff]
  have both : [List.replicate (2 ^ 31) (0x55 : UInt8),
      List.replicate (2 ^ 31 - 1) 0x55].flatten =
        List.replicate (2 ^ 32 - 1) 0x55 := by
    have total : 2 ^ 31 + (2 ^ 31 - 1) = 2 ^ 32 - 1 := by decide
    rw [List.flatten_cons, List.flatten_cons, List.flatten_nil,
      List.append_nil, ← List.replicate_add, total]
  rw [both]
  rintro ⟨-, wrong | clipped⟩
  · exact not_hasWrongMagic_busMagic _ wrong
  · rw [List.length_replicate] at clipped
    obtain ⟨chunk, member, long⟩ := clipped.mp rfl
    rcases List.mem_pair.mp member with rfl | rfl
    · rw [List.length_replicate] at long
      exact absurd long (by decide)
    · rw [List.length_replicate] at long
      exact absurd long (by decide)

end OpenVizsla.Decoder.Chunks
