import OpenVizsla.Device.Traces

/-!
# Firmware loads that fail

When a step fails in or after the reset of the FPGA, the labels of
`ov_load_firmware_from_fwpkg` switch to FIFO mode once more.  An FPGA without
a firmware does not answer, so the switch ends only if one of its seven calls
before the read loop fails.
-/

namespace OpenVizsla.Device.FailedLoad

open OpenVizsla.Foundation.Calls
open OpenVizsla.Device.State
open OpenVizsla.Device.Cha
open OpenVizsla.Device.Fwpkg
open OpenVizsla.Device.Ov
open OpenVizsla.Device.Upkeep

/-! ## A device that does not answer -/

/-- The call reads from channel A. -/
def IsRead : Call → Prop
  | .ftdi .a (.readData _) => True
  | _ => False

instance (call : Call) : Decidable (IsRead call) := by
  unfold IsRead
  split <;> infer_instance

/-- All reads from channel A give 0 bytes. -/
def Mute (history : List (Call × Answer)) : Prop :=
  ∀ entry ∈ history, IsRead entry.1 → entry.2.ret = 0 ∧ entry.2.data = []

instance (history : List (Call × Answer)) : Decidable (Mute history) :=
  inferInstanceAs (Decidable (∀ entry ∈ history, _ → _))

/-- A read from channel A has failed or has given bytes. -/
def Heard (history : List (Call × Answer)) : Prop :=
  ∃ entry ∈ history, IsRead entry.1 ∧
    ¬ (entry.2.ret = 0 ∧ entry.2.data = [])

theorem Heard.not_mute {history : List (Call × Answer)}
    (heard : Heard history) : ¬ Mute history := by
  intro mute
  obtain ⟨entry, member, read, some⟩ := heard
  exact some (mute entry member read)

theorem Heard.concat {history : List (Call × Answer)} (heard : Heard history)
    (entry : Call × Answer) : Heard (history ++ [entry]) := by
  obtain ⟨found, member, some⟩ := heard
  exact ⟨found, List.mem_append_left _ member, some⟩

/-! ## Switching to FIFO mode -/

/-- The switch has come to its read loop when there are seven calls. -/
structure Greeted (count : Nat) (history : List (Call × Answer)) : Prop where
  length : history.length = count
  natural : ∀ entry ∈ history, 0 ≤ entry.2.ret

/-- One of the calls before the read loop has failed. -/
structure Refused (history : List (Call × Answer)) : Prop where
  length : history.length ≤ 7
  negative : ∃ entry ∈ history, entry.2.ret < 0

/-- None of the calls before the read loop has failed. -/
def Accepted (history : List (Call × Answer)) : Prop :=
  ∀ entry ∈ history.take 7, 0 ≤ entry.2.ret

/-- How `cha_switch_fifo_mode` ends. -/
def Switching {α : Type} : Post Call Answer Memory α
  | .returned _, history, _ => Heard history
  | .stopped .failed, history, _ => Heard history ∨ Refused history
  | .stopped .aborted, _, _ => False
  | .stopped (.waiting _), history, _ => Accepted history

theorem Greeted.accepted {count : Nat} {history : List (Call × Answer)}
    (greeted : Greeted count history) : Accepted history :=
  fun entry member => greeted.natural entry (List.mem_of_mem_take member)

/-- One of the seven calls. -/
theorem greeted_bind {α : Type} {count : Nat} {call : FtdiCall}
    {next : Answer → Action α} {post : Post Call Answer Memory α}
    {history : List (Call × Answer)} {memory : Memory}
    (switching :
      ∀ stop, post (.stopped stop) = Switching (α := Unit) (.stopped stop))
    (greeted : Greeted count history) (few : count < 7)
    (meets :
      ∀ answer history, Greeted (count + 1) history →
        (next answer).Meets post history memory) :
    (chaFtdi call >>= next).Meets post history memory := by
  refine chaFtdi_bind_meets ?_ ?_ fun answer natural => ?_
  · rw [switching]
    exact greeted.accepted
  · intro answer negative
    rw [switching]
    refine Or.inr ⟨?_, _, List.mem_append_right _
      (List.mem_singleton_self _), negative⟩
    rw [List.length_append, greeted.length]
    exact few
  · refine meets answer _ ⟨?_, fun entry member => ?_⟩
    · rw [List.length_append, greeted.length, List.length_singleton]
    · rcases List.mem_append.mp member with member | last
      · exact greeted.natural entry member
      · rw [List.mem_singleton.mp last]
        exact natural

/-- The state of the read loop. -/
structure Listening (syncState : Nat) (history : List (Call × Answer)) :
    Prop where
  seven : 7 ≤ history.length
  accepted : Accepted history
  unmatched : syncState = 0 ∨ Heard history

theorem Accepted.concat {history : List (Call × Answer)}
    (accepted : Accepted history) (seven : 7 ≤ history.length)
    (entry : Call × Answer) : Accepted (history ++ [entry]) := by
  rw [Accepted, List.take_append_of_le_length seven]
  exact accepted

theorem syncReads_meets (msg : List UInt8) {history : List (Call × Answer)}
    {memory : Memory} (greeted : Greeted 7 history) :
    (syncReads msg).Meets
      (fun ending history _ =>
        match ending with
        | .returned _ => Heard history ∧ Accepted history
        | .stopped .failed => Heard history
        | .stopped .aborted => False
        | .stopped (.waiting _) => Accepted history)
      history memory := by
  refine Program.meets_loop (fun syncState history _ =>
      Listening syncState history) (fun syncState history memory => ?_)
    ⟨greeted.length.ge, greeted.accepted, Or.inl rfl⟩
  rintro ⟨seven, accepted, unmatched⟩
  refine Program.meets_bind
    (chaFtdi_bind_meets accepted ?_ fun answer natural => ?_)
  · intro answer negative
    refine ⟨_, List.mem_append_right _ (List.mem_singleton_self _), trivial,
      fun none => ?_⟩
    exact absurd none.1 negative.ne
  apply Program.meets_pure
  apply Program.meets_pure
  have seven' :
      7 ≤ (history ++ [(Call.ftdi .a (.readData 32), answer)]).length := by
    rw [List.length_append]
    exact Nat.le_add_right_of_le seven
  have accepted' :=
    accepted.concat seven (Call.ftdi .a (.readData 32), answer)
  by_cases empty : answer.data = []
  case neg =>
      have heard :
          Heard (history ++ [(.ftdi .a (.readData 32), answer)]) :=
        ⟨_, List.mem_append_right _ (List.mem_singleton_self _), trivial,
          fun none => empty none.2⟩
      split
      · exact ⟨heard, accepted'⟩
      · exact ⟨seven', accepted', Or.inr heard⟩
  case pos =>
      have unchanged :
          matchBytes msg syncState (answer.received 32) = syncState := by
        rw [Answer.received, empty]
        rfl
      rw [unchanged]
      rcases unmatched with rfl | heard
      · rw [if_neg (by decide)]
        exact ⟨seven', accepted', Or.inl rfl⟩
      · split
        · exact ⟨heard.concat _, accepted'⟩
        · exact ⟨seven', accepted', Or.inr (heard.concat _)⟩

theorem chaSwitchFifoMode_meets (memory : Memory) :
    chaSwitchFifoMode.Meets Switching [] memory := by
  have start : Greeted 0 [] := ⟨rfl, by simp⟩
  apply Program.meets_bind
  have before :
      ∀ {next : Unit → List (Call × Answer) → Memory → Prop} stop,
        (Switching (α := Unit)).before next (.stopped stop) =
          Switching (α := Unit) (.stopped stop) :=
    fun _ => rfl
  refine greeted_bind before start (by decide) fun _ history greeted => ?_
  refine greeted_bind before greeted (by decide) fun _ history greeted => ?_
  refine greeted_bind before greeted (by decide) fun _ history greeted => ?_
  refine greeted_bind before greeted (by decide) fun _ history greeted => ?_
  apply Program.meets_pure
  refine greeted_bind (fun _ => rfl) greeted (by decide)
    fun _ history greeted => ?_
  apply Program.meets_bind_get
  refine greeted_bind (fun _ => rfl) greeted (by decide)
    fun _ history greeted => ?_
  refine greeted_bind (fun _ => rfl) greeted (by decide)
    fun _ history greeted => ?_
  refine Program.meets_bind ((syncReads_meets _ greeted).mono ?_)
  intro ending history memory listened
  match ending, listened with
  | .stopped .failed, heard => exact Or.inl heard
  | .stopped (.waiting _), accepted => exact accepted
  | .returned _, ⟨heard, accepted⟩ =>
      exact chaFtdi_bind_meets accepted
        (fun answer negative => Or.inl (heard.concat _))
        fun answer natural => Program.meets_pure (heard.concat _)

/-- How the labels end: they do not fail, but may wait. -/
def Abandoning : Post Call Answer Memory Unit
  | .returned _, history, _ => Heard history ∨ ¬ Accepted history
  | .stopped (.waiting _), history, _ =>
      Heard history ∨ Accepted history ∨ history.length ≤ 7
  | _, _, _ => False

theorem Refused.not_accepted {history : List (Call × Answer)}
    (refused : Refused history) (later : List (Call × Answer)) :
    ¬ Accepted (history ++ later) := by
  intro accepted
  obtain ⟨entry, member, negative⟩ := refused.negative
  refine absurd (accepted entry ?_) (Int.not_le.mpr negative)
  rw [List.take_append, List.take_of_length_le refused.length]
  exact List.mem_append_left _ member

theorem freeTmp_abandoning {history : List (Call × Answer)} {memory : Memory}
    (switched : Heard history ∨ Refused history) :
    freeTmp.Meets Abandoning history memory := by
  have abandoned (entry : Call × Answer) :
      Heard (history ++ [entry]) ∨ ¬ Accepted (history ++ [entry]) :=
    switched.imp (fun heard => heard.concat entry)
      fun refused => refused.not_accepted [entry]
  apply Program.meets_bind_get
  split
  case isTrue held =>
      refine Program.meets_bind_call ?_ fun answer =>
        Program.meets_modify (abandoned _)
      exact switched.imp_right fun refused => Or.inr refused.length
  case isFalse =>
      refine Program.meets_pure (switched.imp_right fun refused => ?_)
      simpa using refused.not_accepted []

theorem abandonFpga_meets (memory : Memory) :
    abandonFpga.Meets Abandoning [] memory := by
  refine Program.meets_bind (Program.meets_attempt
    ((chaSwitchFifoMode_meets memory).mono ?_))
  intro ending history memory switching
  match ending, switching with
  | .returned _, heard => exact freeTmp_abandoning (Or.inl heard)
  | .stopped .failed, switched => exact freeTmp_abandoning switched
  | .stopped (.waiting _), accepted => exact Or.inr (Or.inl accepted)

/-! ## Failing in or after the reset -/

/-- The steps from `chb_switch_program_mode` on, after those before them. -/
def programming (package : Package) (memory : Memory)
    (script : List Answer) : Outcome Call Answer Memory Unit :=
  let prepared := (prepare package).run memory script
  programFpga.run prepared.state prepared.rest

/--
The steps up to the config mode went well, and the last answer of the script
is the one on which `chb_switch_program_mode` or a step after it fails.
-/
structure FailsInProgramming (package : Package) (memory : Memory)
    (script : List Answer) : Prop where
  prepared : ((prepare package).run memory script).ending = .returned ()
  failed : (programming package memory script).ending = .stopped .failed
  spent : (programming package memory script).rest = []

variable {package : Package} {memory : Memory} {script : List Answer}

theorem FailsInProgramming.length
    (fails : FailsInProgramming package memory script) :
    (((prepare package).run memory script).calls ++
      (programming package memory script).calls).length = script.length := by
  have before := ((prepare package).fits memory script).reads
  have after :
      (programming package memory script).calls.map Prod.snd ++
        (programming package memory script).rest =
          ((prepare package).run memory script).rest :=
    (programFpga.fits _ _).reads
  rw [fails.spent, List.append_nil] at after
  rw [← after, ← List.map_append] at before
  rw [← List.length_map Prod.snd, before]

/-- Once the step has failed, the run goes on as the labels do. -/
theorem FailsInProgramming.run
    (fails : FailsInProgramming package memory script)
    (later : List Answer) :
    (ovLoadFirmwareFromFwpkg package).run memory (script ++ later) =
      let labels :=
        abandonFpga.run (programming package memory script).state later
      { labels with
        calls :=
          ((prepare package).run memory script).calls ++
            (programming package memory script).calls ++ labels.calls
        ending := labels.ending.cleaned } := by
  have prepares :=
    (prepare package).extend memory script later
      (by rw [fails.prepared]; exact id)
  have returned :
      ((prepare package).run memory (script ++ later)).ending =
        .returned () := by
    rw [prepares]
    exact fails.prepared
  have settled : ¬ (programming package memory script).ending.Waiting := by
    rw [fails.failed]
    exact id
  have programs :
      programFpga.run ((prepare package).run memory script).state
          (((prepare package).run memory script).rest ++ later) =
        (programming package memory script).later later :=
    programFpga.extend _ _ later settled
  have failed :
      (programFpga.run ((prepare package).run memory script).state
          (((prepare package).run memory script).rest ++ later)).ending =
        .stopped .failed := by
    rw [programs]
    exact fails.failed
  rw [ovLoadFirmwareFromFwpkg, Program.run_bind_of_returned _ returned,
    prepares]
  simp only [Outcome.later]
  rw [Program.run_unwinding_of_failed _ failed, programs]
  simp only [Outcome.later, fails.spent, List.nil_append, List.append_assoc]

/-! ## Returning -/

/-- The first answers. -/
def first (later : Nat → Answer) (count : Nat) : List Answer :=
  (List.range count).map later

/-- The function ends with -1, given enough of the answers. -/
def Returns (package : Package) (memory : Memory) (script : List Answer)
    (later : Nat → Answer) : Prop :=
  ∃ count,
    ((ovLoadFirmwareFromFwpkg package).run memory
      (script ++ first later count)).ending = .stopped .failed

/-- The device gives no bytes after the script, however long it is asked. -/
def Silent (package : Package) (memory : Memory) (script : List Answer)
    (later : Nat → Answer) : Prop :=
  ∀ count,
    Mute
      (((ovLoadFirmwareFromFwpkg package).run memory
        (script ++ first later count)).calls.drop script.length)

theorem FailsInProgramming.mute
    (fails : FailsInProgramming package memory script)
    {later : Nat → Answer} (silent : Silent package memory script later)
    (count : Nat) :
    Mute (abandonFpga.run (programming package memory script).state
      (first later count)).calls := by
  have mute := silent count
  rw [fails.run] at mute
  simpa only [← fails.length, List.drop_left] using mute

theorem FailsInProgramming.refused
    (fails : FailsInProgramming package memory script)
    {later : Nat → Answer} (silent : Silent package memory script later)
    (returns : Returns package memory script later) :
    ∃ i < 7, (later i).ret < 0 := by
  obtain ⟨count, ended⟩ := returns
  have mute := fails.mute silent count
  rw [fails.run] at ended
  have labels :=
    abandonFpga_meets (programming package memory script).state
      (first later count)
  have reads :=
    (abandonFpga.fits (programming package memory script).state
      (first later count)).reads
  generalize abandonFpga.run _ (first later count) = outcome
    at mute ended labels reads
  obtain ⟨calls, ending, state, rest⟩ := outcome
  match ending, labels with
  | .stopped (.waiting _), _ => exact absurd ended nofun
  | .returned _, Or.inl heard => exact absurd mute heard.not_mute
  | .returned _, Or.inr refused =>
      by_contra accepted
      refine refused fun entry member => Int.not_lt.mp fun negative => ?_
      have answered := List.mem_map_of_mem (f := Prod.snd) member
      rw [List.nil_append, List.map_take] at answered
      have among : entry.2 ∈ (first later count).take 7 := by
        rw [← reads]
        exact ((List.prefix_append _ _).take 7).subset answered
      rw [first, ← List.map_take, List.take_range] at among
      obtain ⟨i, few, same⟩ := List.mem_map.mp among
      refine accepted ⟨i, ?_, same ▸ negative⟩
      exact (List.mem_range.mp few).trans_le (Nat.min_le_left _ _)

theorem FailsInProgramming.returns
    (fails : FailsInProgramming package memory script)
    {later : Nat → Answer} (silent : Silent package memory script later)
    (refused : ∃ i < 7, (later i).ret < 0) :
    Returns package memory script later := by
  refine ⟨8, ?_⟩
  have mute := fails.mute silent 8
  rw [fails.run]
  have labels :=
    abandonFpga_meets (programming package memory script).state
      (first later 8)
  have fits :=
    abandonFpga.fits (programming package memory script).state
      (first later 8)
  generalize abandonFpga.run _ (first later 8) = outcome at mute labels fits ⊢
  obtain ⟨calls, ending, state, rest⟩ := outcome
  match ending, labels with
  | .returned _, _ => rfl
  | .stopped (.waiting _), labels =>
      exfalso
      have spent : rest = [] := fits.waits trivial
      have reads : calls.map Prod.snd = first later 8 := by
        have reads := fits.reads
        rwa [spent, List.append_nil] at reads
      rcases labels with heard | accepted | few
      · exact heard.not_mute mute
      · obtain ⟨i, inside, negative⟩ := refused
        have among : later i ∈ (calls.map Prod.snd).take 7 := by
          rw [reads, first, ← List.map_take, List.take_range]
          exact List.mem_map_of_mem (List.mem_range.mpr inside)
        rw [← List.map_take] at among
        obtain ⟨entry, member, same⟩ := List.mem_map.mp among
        exact absurd (accepted entry member) (Int.not_le.mpr (same ▸ negative))
      · have length := congrArg List.length reads
        rw [List.length_map, first, List.length_map, List.length_range]
          at length
        exact absurd few (by simp [length])

/--
On a device that does not answer, a load that has failed in or after the
reset returns if and only if one of the seven calls of the switch to FIFO mode
before its read loop fails.
-/
theorem returns_iff (package : Package) (memory : Memory)
    (script : List Answer) (later : Nat → Answer)
    (fails : FailsInProgramming package memory script)
    (silent : Silent package memory script later) :
    Returns package memory script later ↔ ∃ i < 7, (later i).ret < 0 :=
  ⟨fails.refused silent, fails.returns silent⟩

/-- A run that has ended makes no more calls. -/
theorem silent_of_settled {later : Nat → Answer} (count : Nat)
    (settled :
      ¬ ((ovLoadFirmwareFromFwpkg package).run memory
        (script ++ first later count)).ending.Waiting)
    (mute :
      ∀ shorter ≤ count,
        Mute
          (((ovLoadFirmwareFromFwpkg package).run memory
            (script ++ first later shorter)).calls.drop script.length)) :
    Silent package memory script later := by
  intro longer
  rcases Nat.le_total longer count with short | long
  · exact mute longer short
  · obtain ⟨more, rfl⟩ := Nat.exists_eq_add_of_le long
    have split :
        first later (count + more) =
          first later count ++
            ((List.range more).map (count + ·)).map later := by
      rw [first, List.range_add, List.map_append]
      rfl
    rw [split, ← List.append_assoc,
      (ovLoadFirmwareFromFwpkg package).extend _ _ _ settled]
    exact mute count (Nat.le_refl count)

/-- The FPGA is reset, but its first data is not taken. -/
def resetOnly : List Answer :=
  smallPackage ++
    [counted 0, counted 0, counted 0, counted 0, delivered [0], counted 0]

/-- The data is not taken, and the next call fails. -/
theorem returns_after_second_failure :
    Returns .device Memory.zeroed resetOnly
      fun i => if i = 0 then counted (-1) else counted 0 := by
  have fails : FailsInProgramming .device Memory.zeroed resetOnly :=
    ⟨by decide +kernel, by decide +kernel, by decide +kernel⟩
  refine (returns_iff _ _ _ _ fails ?_).mpr ⟨0, by decide, by decide⟩
  have ended :
      ((ovLoadFirmwareFromFwpkg .device).run Memory.zeroed
        (resetOnly ++
          first (fun i => if i = 0 then counted (-1) else counted 0)
            2)).ending = .stopped .failed := by
    decide +kernel
  exact silent_of_settled 2 (ended ▸ id) (by decide +kernel)

/-- Answers without bytes make no sound. -/
theorem FailsInProgramming.silent
    (fails : FailsInProgramming package memory script) {later : Nat → Answer}
    (empty : ∀ i, (later i).ret = 0 ∧ (later i).data = []) :
    Silent package memory script later := by
  intro count
  rw [fails.run, ← fails.length, List.drop_left]
  intro entry member _
  have reads :=
    (abandonFpga.fits (programming package memory script).state
      (first later count)).reads
  have among : entry.2 ∈ first later count := by
    rw [← reads]
    exact List.mem_append_left _
      (List.mem_map_of_mem (f := Prod.snd) member)
  obtain ⟨i, _, same⟩ := List.mem_map.mp among
  rw [← same]
  exact empty i

/-- When nothing else fails, the function waits for bytes. -/
theorem failed_load_not_returned :
    ¬ ∀ (package : Package) (memory : Memory) (script : List Answer)
        (later : Nat → Answer),
        FailsInProgramming package memory script →
          Silent package memory script later →
            Returns package memory script later := by
  intro claim
  have fails : FailsInProgramming .device Memory.zeroed resetOnly :=
    ⟨by decide +kernel, by decide +kernel, by decide +kernel⟩
  have silent :
      Silent .device Memory.zeroed resetOnly fun _ => counted 0 :=
    fails.silent fun _ => ⟨rfl, rfl⟩
  obtain ⟨i, _, negative⟩ :=
    fails.refused silent (claim _ _ _ _ fails silent)
  exact absurd negative (by decide)

end OpenVizsla.Device.FailedLoad
