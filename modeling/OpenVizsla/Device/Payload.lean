import Mathlib
import OpenVizsla.Device.BitGrammar
import OpenVizsla.Device.Upload

/-!
# What is uploaded of a file

The parser checks that a file holds the bitstream that it announces, but the
loader takes all that follows the announcement.  The two agree when nothing
comes after the bitstream, and when it is not empty: behind an empty one the
loader waits for a transfer that it has not started.
-/

namespace OpenVizsla.Device.Payload

open OpenVizsla.Foundation.Calls
open OpenVizsla.Device.State
open OpenVizsla.Device.Bit
open OpenVizsla.Device.BitGrammar
open OpenVizsla.Device.Upload

/-- The memory behind an accepting `bit_init`. -/
def initialised (file : BitFile) (memory : Memory) : Memory :=
  ((bitInit file.encode).run memory []).state

/-- The announced bitstream, as it is written to the FPGA. -/
def payload (file : BitFile) : List UInt8 :=
  (file.rest.take file.bitLength).map reversed

/-- A call of the loader that fails. -/
def CallFails (entry : Call × Answer) : Prop :=
  TransferFails entry ∨ Unrelated entry.1 ∧ entry.2.ret < 0

/-- The calls of the loader. -/
def loaderCalls (file : BitFile) (memory : Memory) (script : List Answer) :
    List (Call × Answer) :=
  (bitLoadFirmware.run (initialised file memory) script).calls

/--
While no call fails, the payload is submitted, all of it when the function
returns, and every wait is for a transfer that has been started before.
-/
def Agrees (file : BitFile) (memory : Memory) : Prop :=
  ∀ script, (∀ entry ∈ loaderCalls file memory script, ¬ CallFails entry) →
    submitted (loaderCalls file memory script) <+: payload file ∧
      ((bitLoadFirmware.run (initialised file memory) script).ending =
            .returned ⟨⟩ ∨
          (bitLoadFirmware.run (initialised file memory) script).ending =
            .stopped .failed →
        submitted (loaderCalls file memory script) = payload file) ∧
      ∀ before tc answer after,
        loaderCalls file memory script =
            before ++ (.ftdi .a (.transferDataDone tc), answer) :: after →
          tc ≠ 0 ∧ tc ∈ started before

/-- The loader takes all that follows the announcement. -/
theorem bytes_initialised (file : BitFile) (memory : Memory) :
    bytes (initialised file memory).bit (initialised file memory).bit.size =
      file.rest := by
  rw [initialised, bitInit_state]
  show ((file.parsed memory.bit).buffer.drop
    (file.parsed memory.bit).data).take file.rest.length = file.rest
  rw [(describes_parsed file memory.bit).rest, List.take_length]

theorem ne_zero_of_mem_started {calls : List (Call × Answer)} {tc : Int}
    (member : tc ∈ started calls) : tc ≠ 0 := by
  obtain ⟨entry, -, starts⟩ := List.mem_flatMap.mp member
  unfold startedBy at starts
  split at starts
  · split at starts
    · cases starts
    · rw [List.mem_singleton] at starts
      rwa [starts]
  · cases starts

/-- A wait in good order is for a transfer that has been started. -/
theorem mem_started_of_ordered {calls before after : List (Call × Answer)}
    {tc : Int} {answer : Answer}
    (ordered : ∀ part, part <+: calls → awaited part <+: started part)
    (split :
      calls = before ++ (.ftdi .a (.transferDataDone tc), answer) :: after) :
    tc ∈ started before := by
  have inside : before ++ [(.ftdi .a (.transferDataDone tc), answer)] <+:
      calls := by
    rw [split]
    exact ⟨after, (List.append_cons _ _ _).symm⟩
  have prefix' := ordered _ inside
  rw [awaited_append, started_append] at prefix'
  have member := prefix'.subset (List.mem_append_right _
    (List.mem_singleton_self tc))
  simpa [started, startedBy] using member

theorem previousDone_returns (tc : Int) (memory : Memory)
    (script : List Answer) :
    ∃ first, (∀ answer ∈ first, answer = counted 1) ∧
      ((previousDone tc).run memory (first ++ script)).ending =
          .returned ⟨⟩ ∧
        ((previousDone tc).run memory (first ++ script)).state = memory ∧
        ((previousDone tc).run memory (first ++ script)).rest = script := by
  by_cases under : tc = 0
  · refine ⟨[], by simp, ?_⟩
    rw [previousDone, if_neg (not_not.mpr under)]
    exact ⟨rfl, rfl, rfl⟩
  · refine ⟨[counted 1], by simp, ?_⟩
    rw [previousDone, if_pos under]
    exact ⟨rfl, rfl, rfl⟩

/-- When all transfers succeed, the loop comes to its end. -/
theorem submitAll_returns (bidx : Nat) (tc : Int) (data : List UInt8)
    (memory : Memory) :
    ∃ script, (∀ answer ∈ script, answer = counted 1) ∧
      ∃ last, ((submitAll bidx tc data).run memory script).ending =
        .returned last := by
  rw [submitAll]
  split
  · exact ⟨[], by simp, tc, rfl⟩
  · obtain ⟨rest, ones, last, returned⟩ :=
      submitAll_returns ((bidx + 1) % 2) 1 (data.drop 4096) memory
    obtain ⟨first, ones', done, state, left⟩ :=
      previousDone_returns tc memory (counted 1 :: rest)
    refine ⟨first ++ counted 1 :: rest, ?_, last, ?_⟩
    · intro answer member
      rcases List.mem_append.mp member with member | member
      · exact ones' answer member
      · rcases List.mem_cons.mp member with rfl | member
        · rfl
        · exact ones answer member
    · rw [Program.run_bind_of_returned _ done]
      simp only [state, left]
      exact returned
termination_by data.length
decreasing_by exact length_drop_lt ‹_›

/-- The whole image is handed over when the loop comes to its end. -/
theorem submitted_submitAll {data : List UInt8} {memory : Memory}
    {script : List Answer} {last : Int}
    (returned : ((submitAll 0 0 data).run memory script).ending =
      .returned last) :
    submitted ((submitAll 0 0 data).run memory script).calls =
      data.map bitreverse8 := by
  have erases := erases_submitAll 0 0 data
  have uploads : (loggedSubmitAll 0 0 data).Meets _ [] (memory, []) :=
    submitAll_uploads 0 0 data Nat.two_pos
      (going_idle (data.map bitreverse8)) rfl rfl
  replace uploads := uploads script
  rw [List.nil_append, erases.calls, erases.ending, returned] at uploads
  obtain ⟨-, -, all, -⟩ := uploads
  exact all

/-- The loader goes on when the loop has come to its end. -/
theorem goesOn_submitAll {memory : Memory} {script : List Answer} {last : Int}
    (returned : ((submitAll 0 0
      (bytes memory.bit memory.bit.size)).run memory script).ending =
        .returned last) :
    Program.GoesOn (submitAll 0 0 (bytes memory.bit memory.bit.size))
      bitLoadFirmware (transferDone last >>= fun _ => startUp) memory
      script :=
  Program.goesOn_of_returned returned fun tc =>
    transferDone tc >>= fun _ => startUp

theorem not_callFails_of_one (call : Call) :
    ¬ CallFails (call, counted 1) := by
  rintro (failed | ⟨-, negative⟩)
  · unfold TransferFails at failed
    split at failed
    · rename_i same
      cases same
      exact absurd failed (by decide)
    · rename_i same
      cases same
      exact absurd failed (by decide)
    · cases failed
  · have one : ¬ (counted 1).ret < 0 := by decide
    exact one negative

/-- What is submitted in the loop is submitted by the function. -/
theorem submitted_loaderCalls (file : BitFile) (memory : Memory) :
    ∃ script, (∀ entry ∈ loaderCalls file memory script, ¬ CallFails entry) ∧
      file.rest.length ≤
        (submitted (loaderCalls file memory script)).length := by
  obtain ⟨script, ones, last, returned⟩ :=
    submitAll_returns 0 0 file.rest (initialised file memory)
  have all := submitted_submitAll returned
  rw [← bytes_initialised file memory] at returned
  have goesOn := goesOn_submitAll returned
  rw [bytes_initialised, Program.GoesOn] at goesOn
  refine ⟨script, fun entry member => ?_, ?_⟩
  · have reads := (bitLoadFirmware.fits (initialised file memory) script).reads
    have answered : entry.2 ∈ script := by
      rw [← reads]
      exact List.mem_append_left _ (List.mem_map_of_mem member)
    have one := ones entry.2 answered
    obtain ⟨call, answer⟩ := entry
    cases one
    exact not_callFails_of_one call
  · rw [loaderCalls, goesOn, submitted_append, all, List.length_append,
      List.length_map]
    exact Nat.le_add_right _ _

/-- Without a bitstream, the first call is a wait for nothing. -/
theorem loaderCalls_of_empty {file : BitFile} (memory : Memory)
    (empty : file.rest = []) :
    loaderCalls file memory [counted 0] =
      [(.ftdi .a (.transferDataDone 0), counted 0)] := by
  have nothing := bytes_initialised file memory
  rw [empty] at nothing
  have loop : (submitAll 0 0 (bytes (initialised file memory).bit
      (initialised file memory).bit.size)) = pure 0 := by
    rw [nothing, submitAll, if_pos rfl]
  have step : (bitLoadFirmware.run (initialised file memory)
        [counted 0]).calls =
      ((submitAll 0 0 (bytes (initialised file memory).bit
        (initialised file memory).bit.size) >>= fun tc =>
          transferDone tc >>= fun _ => startUp).run
            (initialised file memory) [counted 0]).calls := rfl
  rw [loaderCalls, step, loop]
  rfl

/--
The loader agrees with the parser on a file exactly when nothing follows the
bitstream and the bitstream is not empty.
-/
theorem payload_agrees_iff (file : BitFile) (memory : Memory) :
    Agrees file memory ↔
      file.rest.length = file.bitLength ∧ file.bitLength ≠ 0 := by
  constructor
  · intro agrees
    have same : file.rest.length = file.bitLength := by
      obtain ⟨script, succeeds, whole⟩ := submitted_loaderCalls file memory
      have short := (agrees script succeeds).1.length_le
      rw [payload, List.length_map, List.length_take] at short
      have declared := file.bigEndian_length
      rw [← BitFile.bitLength] at declared
      omega
    refine ⟨same, fun zero => ?_⟩
    have empty : file.rest = [] :=
      List.eq_nil_of_length_eq_zero (same.trans zero)
    have calls := loaderCalls_of_empty memory empty
    have succeeds : ∀ entry ∈ loaderCalls file memory [counted 0],
        ¬ CallFails entry := by
      rw [calls]
      intro entry member
      cases List.mem_singleton.mp member
      rintro (failed | ⟨unrelated, -⟩)
      · have zero : ¬ (counted 0).ret < 0 := by decide
        exact zero failed
      · exact unrelated
    exact ((agrees [counted 0] succeeds).2.2 [] 0 (counted 0) [] calls).1 rfl
  · rintro ⟨same, nonzero⟩ script succeeds
    have nonempty : bytes (initialised file memory).bit
        (initialised file memory).bit.size ≠ [] := by
      rw [bytes_initialised]
      intro empty
      rw [empty] at same
      exact nonzero same.symm
    have image : imageOf (initialised file memory) = payload file := by
      rw [imageOf, bytes_initialised, payload, ← same, List.take_length]
    obtain ⟨watched, going, settled⟩ :=
      going_loadFirmware (initialised file memory) script nonempty
    rw [image] at going settled
    refine ⟨going.handed, fun ended => ?_, ?_⟩
    · rcases (settled ended).2 with all | ⟨entry, member, failed⟩
      · exact all
      · exact absurd (.inl failed) (succeeds entry member)
    · intro before tc answer after split
      have member := mem_started_of_ordered going.ordered split
      exact ⟨ne_zero_of_mem_started member, member⟩

/-- A field without a body. -/
def emptyField : Field :=
  ⟨[0, 0], [], rfl, rfl⟩

/-- A bitstream of one byte, and another byte behind it. -/
def trailing : BitFile where
  ncdFilename := emptyField
  partName := emptyField
  date := emptyField
  time := emptyField
  length := [0, 0, 0, 1]
  rest := [0xff, 0x80]
  length_length := rfl
  bigEndian_length := by decide

/-- The byte behind the bitstream is uploaded, too. -/
theorem trailing_not_agrees : ¬ Agrees trailing Memory.zeroed := by
  intro agrees
  obtain ⟨script, succeeds, whole⟩ :=
    submitted_loaderCalls trailing Memory.zeroed
  have short := (agrees script succeeds).1.length_le
  have one : (payload trailing).length = 1 := by decide
  have two : trailing.rest.length = 2 := rfl
  omega

end OpenVizsla.Device.Payload
