import OpenVizsla.Foundation.Logging
import OpenVizsla.Device.Fwpkg

/-!
# The byte behind the register map

`reg_init_from_fwpkg` allocates one byte more than the size that libzip has on
record for the register map, reads as many bytes as it has allocated, and puts
a zero behind them.  There is room for the zero exactly when the file is no
longer than its recorded size, and when there is a recorded size at all: the
value that stands for an unknown size is `SIZE_MAX`, and one more is 0.
-/

namespace OpenVizsla.Device.MapTerminator

open OpenVizsla.Foundation.Calls
open OpenVizsla.Register.Parse
open OpenVizsla.Device.State
open OpenVizsla.Device.Fwpkg

/-! ## The function with its store -/

/-- `tmp[index] = '\0'`, into a block of `allocated` bytes. -/
structure Store where
  allocated : Nat
  index : Nat
deriving DecidableEq, Repr

abbrev LoggedAction (α : Type) : Type :=
  Program Call Answer (Memory × Log Call Answer Store) α

/-- The terminator comes before the call of `reg_init`. -/
def loggedInitReg (size : Nat) (map : List UInt8) : LoggedAction Unit := do
  Program.note [⟨size, map.length⟩]
  Program.observe (initReg map)

/-- The part of the function that is cleaned up after. -/
def loggedFill (package : Package) (size : Nat) : LoggedAction Unit := do
  match ← (Program.observe (fwpkgReadMap package size)).attempt with
  | some map => loggedInitReg size map
  | none => do
      let memory ← Program.observe Program.get
      Program.observe (regFail (package.get memory).errorStr)

def loggedRegInitFromFwpkg (package : Package) : LoggedAction Unit := do
  let mapSize ← Program.observe (fwpkgMapSize package)
  let size := (mapSize + 1) % 2 ^ 64
  let tmp ← Program.observe (Program.call (.malloc size))
  if tmp.ret = 0 then
    Program.observe
      (regFail (ErrorStr.set "Cannot allocate memory for register map"))
  else do
    Program.unwinding (loggedFill package size)
      (Program.observe (Program.call (.free tmp.ret)))
    let _ ← Program.observe (Program.call (.free tmp.ret))

theorem erases_regInitFromFwpkg (package : Package) :
    Program.Erases (loggedRegInitFromFwpkg package)
      (regInitFromFwpkg package) := by
  refine Program.erases_bind (Program.erases_observe _) fun mapSize => ?_
  refine Program.erases_bind (Program.erases_observe _) fun tmp => ?_
  split
  · exact Program.erases_observe _
  · refine Program.erases_bind (Program.erases_unwinding ?_
      (Program.erases_observe _)) fun _ => Program.erases_bind
        (Program.erases_observe _) fun _ => Program.erases_pure _
    refine Program.erases_bind
      (Program.erases_attempt (Program.erases_observe _)) fun result => ?_
    cases result with
    | some map => exact Program.erases_note_bind (Program.erases_observe _)
    | none =>
        exact Program.erases_bind (Program.erases_observe _)
          fun _ => Program.erases_observe _

/-- The stores behind the map, one at most. -/
def stores (package : Package) (memory : Memory) (script : List Answer) :
    List Store :=
  ((loggedRegInitFromFwpkg package).run (memory, []) script).state.2.notes

/-! ## The parts of the function -/

/-- The size that libzip has on record, if it knows one. -/
def recorded (stat : Answer) : Option Nat :=
  if stat.ret = -1 then none else stat.size.map (· % 2 ^ 64)

theorem recorded_lt {stat : Answer} {known : Nat}
    (same : recorded stat = some known) : known < 2 ^ 64 := by
  unfold recorded at same
  split at same
  · cases same
  · obtain ⟨size, -, rfl⟩ := Option.map_eq_some_iff.mp same
    exact Nat.mod_lt _ (by decide)

/-- A size that is not on record is the largest one. -/
theorem fwpkgMapSize_run (package : Package) (memory : Memory)
    (stat : Answer) (rest : List Answer) :
    ((fwpkgMapSize package).run memory (stat :: rest)).ending =
        .returned ((recorded stat).getD sizeMax) ∧
      ((fwpkgMapSize package).run memory (stat :: rest)).rest = rest := by
  simp only [fwpkgMapSize, fwpkgFileSize, recorded, setError,
    Program.run_bind, Program.get, Program.call, Outcome.andThen]
  by_cases failed : stat.ret = -1
  · rw [if_pos failed, if_pos failed]
    exact ⟨rfl, rfl⟩
  · rw [if_neg failed, if_neg failed]
    cases stat.size with
    | none => exact ⟨rfl, rfl⟩
    | some size => exact ⟨rfl, rfl⟩

/-- What is read of the map, if it can be opened and read. -/
def readOut (size : Nat) (file read : Answer) : Option (List UInt8) :=
  if file.ret = 0 ∨ read.ret = -1 then none else some (read.received size)

theorem fwpkgReadMap_run (package : Package) (size : Nat) (memory : Memory)
    (file read close freed : Answer) :
    ((fwpkgReadMap package size).attempt.run memory
          [file, read, close, freed]).ending =
        .returned (readOut size file read) ∧
      ((fwpkgReadMap package size).attempt.run memory
          [file, read, close, freed]).rest ≠ [] := by
  simp only [fwpkgReadMap, fwpkgReadFile, fwpkgFail, setError, readOut,
    Program.attempt, Program.run_bind, Program.get, Program.call,
    Outcome.andThen]
  by_cases closed : file.ret = 0
  · rw [if_pos closed, if_pos (.inl closed)]
    exact ⟨rfl, List.cons_ne_nil _ _⟩
  · rw [if_neg closed]
    by_cases failed : read.ret = -1
    · rw [if_pos (.inr failed)]
      simp only [Program.run_bind, Outcome.andThen, if_pos failed]
      exact ⟨rfl, List.cons_ne_nil _ _⟩
    · rw [if_neg (not_or.mpr ⟨closed, failed⟩)]
      simp only [Program.run_bind, Outcome.andThen, if_neg failed]
      exact ⟨rfl, List.cons_ne_nil _ _⟩

/-- An empty map lacks addresses. -/
theorem regInit_nil : regInit [] = .rejected "Missed register address" :=
  rfl

/-- What the log holds, and how the run ends. -/
structure Ends (size : Nat) (map : Option (List UInt8))
    (outcome : Outcome Call Answer (Memory × Log Call Answer Store) Unit) :
    Prop where
  notes : outcome.state.2.notes =
    map.toList.map fun map => ⟨size, map.length⟩
  failed :
    map.elim True (fun map => ∃ text, regInit map = .rejected text) →
      outcome.ending = .stopped .failed

/-- A first part that leaves no notes can be left out. -/
theorem ends_bind {α : Type} {size : Nat} {map : Option (List UInt8)}
    {first : LoggedAction α} {next : α → LoggedAction Unit} {value : α}
    {state : Memory × Log Call Answer Store} {script : List Answer}
    (returned : (first.run state script).ending = .returned value)
    (ends : Ends size map ((next value).run (first.run state script).state
      (first.run state script).rest)) :
    Ends size map ((first >>= next).run state script) := by
  rw [Program.run_bind_of_returned next returned]
  exact ⟨ends.notes, ends.failed⟩

theorem initReg_of_rejected {map : List UInt8} {text : String}
    (rejected : regInit map = .rejected text) (memory : Memory)
    (script : List Answer) :
    ((initReg map).run memory script).ending = .stopped .failed := by
  simp only [initReg, rejected]
  rfl

theorem initReg_rest (map : List UInt8) (memory : Memory)
    (script : List Answer) :
    ((initReg map).run memory script).rest = script := by
  simp only [initReg, Program.run_bind, Program.modify, Outcome.andThen]
  split <;> rfl

theorem fill_ends (package : Package) (size : Nat) (memory : Memory)
    (log : Log Call Answer Store) (empty : log.notes = [])
    (file read close freed : Answer) :
    Ends size (readOut size file read)
        ((loggedFill package size).run (memory, log)
          [file, read, close, freed]) ∧
      ((loggedFill package size).run (memory, log)
        [file, read, close, freed]).rest ≠ [] := by
  obtain ⟨ended, left⟩ :=
    fwpkgReadMap_run package size memory file read close freed
  have returned : ((Program.observe (fwpkgReadMap package size) :
      LoggedAction (List UInt8)).attempt.run (memory, log)
        [file, read, close, freed]).ending = _ := ended
  rw [loggedFill, Program.run_bind_of_returned _ returned]
  cases readOut size file read with
  | none =>
      refine ⟨⟨?_, fun _ => rfl⟩, left⟩
      simp [Program.observe, Program.attempt, Program.get, Program.run_bind,
        Outcome.andThen, regFail, Program.modify, Program.fail,
        Program.finish, empty]
  | some map =>
      refine ⟨⟨?_, ?_⟩, ?_⟩
      · simp [loggedInitReg, Program.run_bind, Outcome.andThen, Program.note,
          Program.modify, Program.observe, Program.attempt, empty]
      · rintro ⟨text, rejected⟩
        exact initReg_of_rejected rejected _ _
      · simp only [loggedInitReg, Program.run_bind, Outcome.andThen,
          Program.note, Program.modify, Program.observe, initReg_rest]
        exact left

/-- Freeing the block adds nothing to the notes and hides no failure. -/
theorem freeing_ends {size : Nat} {map : Option (List UInt8)} {block : Int}
    {program : LoggedAction Unit} {state : Memory × Log Call Answer Store}
    {script : List Answer} (ends : Ends size map (program.run state script))
    (left : (program.run state script).rest ≠ []) :
    Ends size map
      ((Program.unwinding program
          (Program.observe (Program.call (.free block))) >>= fun _ =>
        Program.observe (Program.call (.free block)) >>= fun _ =>
          pure ()).run state script) := by
  obtain ⟨last, others, more⟩ := List.exists_cons_of_ne_nil left
  have notes := ends.notes
  have failed := ends.failed
  unfold Program.unwinding
  simp only [Program.run_bind, Program.attempt, Outcome.andThen]
  cases ended : (program.run state script).ending with
  | returned value =>
      constructor
      · simpa [Ending.attempted, Program.run_pure, Program.observe,
          Program.call, more] using notes
      · intro rejected
        rw [failed rejected] at ended
        cases ended
  | stopped stop =>
      constructor
      · cases stop <;>
          simpa [Ending.attempted, Program.run_bind, Outcome.andThen,
            Program.observe, Program.call, Program.fail, Program.finish,
            more] using notes
      · intro rejected
        rw [failed rejected] at ended
        cases ended
        simp [Ending.attempted, Program.run_bind, Outcome.andThen,
          Program.observe, Program.call, Program.fail, Program.finish, more]

/-! ## The function -/

/-- The size of the block. -/
def blockSize (stat : Answer) : Nat :=
  ((recorded stat).getD sizeMax + 1) % 2 ^ 64

/-- The map that is terminated, if there is a block. -/
def mapRead (stat tmp file read : Answer) : Option (List UInt8) :=
  if tmp.ret = 0 then none else readOut (blockSize stat) file read

theorem logged_ends (package : Package) (memory : Memory)
    (stat tmp file read close freed : Answer) :
    Ends (blockSize stat) (mapRead stat tmp file read)
      ((loggedRegInitFromFwpkg package).run (memory, [])
        [stat, tmp, file, read, close, freed]) := by
  obtain ⟨known, rest⟩ := fwpkgMapSize_run package memory stat
    [tmp, file, read, close, freed]
  have returned : ((Program.observe (fwpkgMapSize package) :
      LoggedAction Nat).run (memory, [])
        [stat, tmp, file, read, close, freed]).ending = _ := known
  have left : ((Program.observe (fwpkgMapSize package) :
      LoggedAction Nat).run (memory, [])
        [stat, tmp, file, read, close, freed]).rest = _ := rest
  refine ends_bind returned ?_
  rw [left]
  have allocated : ∀ reached, ((Program.observe (Program.call
      (.malloc (blockSize stat))) : LoggedAction Answer).run reached
        [tmp, file, read, close, freed]).ending = .returned tmp :=
    fun _ => rfl
  refine ends_bind (allocated _) ?_
  unfold mapRead
  by_cases null : tmp.ret = 0
  · rw [if_pos null, if_pos null]
    constructor
    · simp [Program.observe, Program.call, regFail, Program.run_bind,
        Program.modify, Outcome.andThen, Program.fail, Program.finish]
    · intro
      rfl
  · rw [if_neg null, if_neg null]
    have empty (calls later : List (Call × Answer)) :
        Log.notes ([] ++ calls.map Sum.inl ++ later.map Sum.inl :
          Log Call Answer Store) = [] := by simp
    obtain ⟨ends, more⟩ := fill_ends package (blockSize stat) _ _
      (empty _ [(.malloc (blockSize stat), tmp)]) file read close freed
    exact freeing_ends ends more

/-- A map of unknown size is rejected, whatever is read of it. -/
theorem ending_of_unknown (package : Package) (memory : Memory)
    {stat : Answer} (unknown : recorded stat = none)
    (tmp file read close freed : Answer) :
    ((regInitFromFwpkg package).run memory
        [stat, tmp, file, read, close, freed]).ending =
      .stopped .failed := by
  have ends := logged_ends package memory stat tmp file read close freed
  rw [← (erases_regInitFromFwpkg package).ending memory []]
  refine ends.failed ?_
  have empty : blockSize stat = 0 := by
    rw [blockSize, unknown]
    rfl
  unfold mapRead readOut
  rw [empty]
  split
  · trivial
  · split
    · trivial
    · exact ⟨_, regInit_nil⟩

/-- The terminator is written into the block. -/
def Terminates (package : Package) (memory : Memory)
    (script : List Answer) : Prop :=
  ∀ store ∈ stores package memory script, store.index < store.allocated

/-- The size is known, and what is read is no longer. -/
def ReadWithin (stat read : Answer) : Prop :=
  ∃ known, recorded stat = some known ∧ known + 1 < 2 ^ 64 ∧
    (read.received (known + 1)).length ≤ known

/-- There is room for the terminator exactly behind such a read. -/
theorem room_iff (stat read : Answer) :
    (read.received (blockSize stat)).length < blockSize stat ↔
      ReadWithin stat read := by
  unfold ReadWithin blockSize
  cases same : recorded stat with
  | none =>
      constructor
      · intro room
        exact absurd room (Nat.not_lt_zero _)
      · rintro ⟨known, ⟨⟩, -⟩
  | some known =>
      have small := recorded_lt same
      rw [Option.getD_some]
      by_cases last : known + 1 = 2 ^ 64
      · rw [last, Nat.mod_self]
        constructor
        · intro room
          exact absurd room (Nat.not_lt_zero _)
        · rintro ⟨known', ⟨⟩, less, -⟩
          exact absurd last less.ne
      · have less : known + 1 < 2 ^ 64 := lt_of_le_of_ne small last
        rw [Nat.mod_eq_of_lt less, Nat.lt_succ_iff]
        constructor
        · intro room
          exact ⟨known, rfl, less, room⟩
        · rintro ⟨known', ⟨⟩, -, room⟩
          exact room

/--
The terminator is in bounds, and a failed query makes the function fail,
exactly when there is nothing to terminate or what is read is within a known
size.
-/
theorem terminates_iff (package : Package) (memory : Memory)
    (stat tmp file read close freed : Answer) :
    Terminates package memory [stat, tmp, file, read, close, freed] ∧
        (recorded stat = none →
          ((regInitFromFwpkg package).run memory
              [stat, tmp, file, read, close, freed]).ending =
            .stopped .failed) ↔
      tmp.ret = 0 ∨ file.ret = 0 ∨ read.ret = -1 ∨ ReadWithin stat read := by
  have fails (unknown : recorded stat = none) :=
    ending_of_unknown package memory unknown tmp file read close freed
  rw [and_iff_left fails, Terminates, stores,
    (logged_ends package memory stat tmp file read close freed).notes,
    mapRead, readOut]
  by_cases null : tmp.ret = 0
  · simp [null]
  by_cases closed : file.ret = 0
  · simp [null, closed]
  by_cases failed : read.ret = -1
  · simp [null, failed]
  rw [if_neg null, if_neg (not_or.mpr ⟨closed, failed⟩)]
  simpa [null, closed, failed] using room_iff stat read

/-- `zip_stat` gives this size. -/
def sized (size : Nat) : Answer :=
  { counted 0 with size := some size }

/-- A file of one byte, whose recorded size is 0. -/
theorem longer_not_terminates :
    ¬ Terminates .device Memory.zeroed
      [sized 0, counted 1, counted 2, delivered [0x23], counted 0,
        counted 0] := by
  intro terminates
  have behind := terminates ⟨1, 1⟩ (List.mem_singleton_self _)
  exact absurd behind (Nat.lt_irrefl 1)

end OpenVizsla.Device.MapTerminator
