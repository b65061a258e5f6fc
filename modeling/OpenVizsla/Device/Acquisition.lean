import OpenVizsla.Device.Traces

/-!
# Resources of failed calls

Opening a device takes the two channels of the FTDI chip, and starting a
capture takes three transfers.  The functions of `cha.c` and `chb.c` give back
what they have taken when they fail, but those of `ov.c` do not.
-/

namespace OpenVizsla.Device.Acquisition

open OpenVizsla.Foundation.Calls
open OpenVizsla.Device.State
open OpenVizsla.Device.Cha
open OpenVizsla.Device.Ov
open OpenVizsla.Device.Upkeep
open OpenVizsla.Device.Traces

/-! ## Resources -/

inductive Resource where
  | channel (channel : Channel)
  | transfer (transfer : Int)
deriving DecidableEq, Repr

/-- What a call does to the resources that are held. -/
def acquire (held : List Resource) : Call × Answer → List Resource
  | (.ftdi channel (.usbOpen _ _), answer) =>
      if answer.ret < 0 then held else .channel channel :: held
  | (.ftdi channel .usbClose, _) => held.erase (.channel channel)
  | (.libusbAllocTransfer, answer) =>
      if answer.ret = 0 then held else .transfer answer.ret :: held
  | (.libusbFreeTransfer transfer, _) => held.erase (.transfer transfer)
  | _ => held

/-- The calls add these resources to whatever is held. -/
def Gains (gained : List Resource) (history : List (Call × Answer)) : Prop :=
  ∀ held, history.foldl acquire held = gained ++ held

/-- The calls leave the resources as they were. -/
def Undone (history : List (Call × Answer)) : Prop :=
  Gains [] history

theorem acquire_of_harmless {call : Call} (harmless : Harmless call)
    (held : List Resource) (answer : Answer) :
    acquire held (call, answer) = held := by
  cases call with
  | ftdi channel call => cases call <;> first | rfl | exact harmless.elim
  | _ => first | rfl | exact harmless.elim

theorem Gains.harmless {gained : List Resource}
    {history : List (Call × Answer)} (gains : Gains gained history)
    {call : Call} (harmless : Harmless call) (answer : Answer) :
    Gains gained (history ++ [(call, answer)]) := by
  intro held
  rw [List.foldl_append, gains]
  exact acquire_of_harmless harmless _ answer

theorem Gains.harmless_append {gained : List Resource}
    {history later : List (Call × Answer)} (gains : Gains gained history)
    (harmless : ∀ entry ∈ later, Harmless entry.1) :
    Gains gained (history ++ later) := by
  induction later generalizing history with
  | nil => rwa [List.append_nil]
  | cons entry later ih =>
      rw [List.append_cons]
      exact ih (gains.harmless (harmless entry List.mem_cons_self) entry.2)
        fun entry member => harmless entry (List.mem_cons_of_mem _ member)

theorem not_undone_of_mem {history : List (Call × Answer)}
    {resource : Resource} (held : resource ∈ history.foldl acquire []) :
    ¬ Undone history := by
  intro undone
  rw [undone] at held
  exact absurd held List.not_mem_nil

/-! ## Opening -/

/-- How `cha_open` ends. -/
def Opening : Post Call Answer Memory Unit
  | .returned _, history, _ =>
      history.length = 6 ∧ (∀ entry ∈ history, 0 ≤ entry.2.ret) ∧
        Gains [.channel .a] history
  | .stopped .failed, history, _ =>
      (∃ entry ∈ history.take 6, entry.2.ret < 0) ∧ Undone history
  | _, _, _ => True

/-- The calls of `cha_open` after the first one. -/
def configCalls : List FtdiCall :=
  [.usbReset, .setBitmode 0 .reset, .setBitmode 0xff .bitbang,
    .setBaudrate 315000, .tcioflush]

theorem harmless_of_made {calls : List FtdiCall}
    {history : List (Call × Answer)}
    (made : history.map Prod.fst <+: calls.map (.ftdi .a))
    (harmless : ∀ call ∈ calls, Harmless (.ftdi .a call)) :
    ∀ entry ∈ history, Harmless entry.1 := by
  intro entry member
  have called := made.subset (List.mem_map_of_mem (f := Prod.fst) member)
  obtain ⟨call, listed, same⟩ := List.mem_map.mp called
  rw [← same]
  exact harmless call listed

theorem configCalls_harmless :
    ∀ call ∈ configCalls, Harmless (.ftdi .a call) := by
  intro call member
  simp only [configCalls, List.mem_cons, List.not_mem_nil, or_false]
    at member
  rcases member with rfl | rfl | rfl | rfl | rfl <;> trivial

theorem mem_take_append {α : Type} {first : List α} {count : Nat}
    (few : first.length ≤ count) {value : α} (member : value ∈ first)
    (second : List α) : value ∈ (first ++ second).take count := by
  rw [List.take_append, List.take_of_length_le few]
  exact List.mem_append_left _ member

theorem gains_usbOpen {answer : Answer} (natural : 0 ≤ answer.ret) :
    Gains [.channel .a]
      [(.ftdi .a (.usbOpen 0x1d50 0x607c), answer)] := by
  intro held
  simp [acquire, Int.not_lt.mpr natural]

theorem undone_usbClose {history : List (Call × Answer)}
    (gains : Gains [.channel .a] history) (answer : Answer) :
    Undone (history ++ [(.ftdi .a .usbClose, answer)]) := by
  intro held
  rw [List.foldl_append, gains]
  simp [acquire]

theorem chaOpen_meets (memory : Memory) :
    chaOpen.Meets Opening [] memory := by
  refine chaFtdi_bind_meets trivial ?_ fun answer natural => ?_
  · intro answer negative
    refine ⟨⟨_, List.mem_cons_self, negative⟩, fun held => ?_⟩
    simp [acquire, negative]
  have opened := gains_usbOpen natural
  apply Program.meets_unwinding
  refine (chaCalls_meets configCalls _ memory).mono
    fun ending history memory row => ?_
  match ending, row with
  | .returned _, ⟨_, later, append, made, natural'⟩ =>
      refine ⟨?_, ?_, ?_⟩
      · have length := congrArg List.length made
        rw [List.length_map, List.length_map] at length
        rw [append, List.length_append, length]
        rfl
      · intro entry member
        rw [append] at member
        rcases List.mem_append.mp member with first | later
        · rw [List.mem_singleton.mp first]
          exact natural
        · exact natural' entry later
      · rw [append]
        exact opened.harmless_append
          (harmless_of_made (made ▸ List.prefix_refl _)
            configCalls_harmless)
  | .stopped .failed, ⟨later, append, made, entry, member, negative⟩ =>
      have few : later.length ≤ 5 := by
        have length := made.length_le
        rwa [List.length_map, List.length_map] at length
      refine Program.meets_call trivial fun answer => ⟨⟨entry, ?_, negative⟩,
        ?_⟩
      · rw [append]
        refine mem_take_append ?_ (List.mem_append_right _ member) _
        rw [List.length_append]
        exact Nat.add_le_add_left few 1
      · rw [append]
        exact undone_usbClose
          (opened.harmless_append
            (harmless_of_made made configCalls_harmless)) answer
  | .stopped .aborted, _ => trivial
  | .stopped (.waiting _), _ => trivial

/-! ## Starting a capture -/

/-- `loop->transfer[0]` up to `loop->transfer[i - 1]`, the last one first. -/
def taken (transfer : Nat → Int) : Nat → List Resource
  | 0 => []
  | i + 1 => .transfer (transfer i) :: taken transfer i

theorem taken_update (transfer : Nat → Int) (i : Nat) (tx : Int) :
    ∀ j ≤ i, taken (Function.update transfer i tx) j = taken transfer j
  | 0, _ => rfl
  | j + 1, below => by
      rw [taken, taken, Function.update_of_ne (Nat.ne_of_lt below),
        taken_update transfer i tx j (Nat.le_of_succ_le below)]

theorem last_mem_take {history : List (Call × Answer)}
    (few : history.length < 6) (entry : Call × Answer) :
    entry ∈ (history ++ [entry]).take 6 := by
  rw [List.take_of_length_le]
  · exact List.mem_append_right _ (List.mem_singleton_self entry)
  · rw [List.length_append]
    exact few

/-- How `cha_loop_init` ends. -/
def Starting : Post Call Answer Memory Unit
  | .returned _, history, memory =>
      history.length = 6 ∧ (∀ entry ∈ history, entry.2.ret ≠ 0) ∧
        Gains (taken memory.transfer 3) history
  | .stopped .failed, history, _ =>
      (∃ entry ∈ history.take 6, entry.2.ret = 0) ∧ Undone history
  | _, _, _ => True

theorem freeTransfers_meets (i : Nat) {history : List (Call × Answer)}
    {memory : Memory} (missing : ∃ entry ∈ history.take 6, entry.2.ret = 0)
    (gains : Gains (taken memory.transfer i) history) :
    (freeTransfers i).Meets (Post.cleaned Starting) history memory := by
  induction i generalizing history with
  | zero => exact Program.meets_pure ⟨missing, gains⟩
  | succ i ih =>
      refine Program.meets_bind_get
        (Program.meets_bind_call trivial fun answer => ?_)
      apply ih
      · obtain ⟨entry, member, null⟩ := missing
        exact ⟨entry,
          ((List.prefix_append history _).take 6).subset member, null⟩
      · intro held
        rw [List.foldl_append, gains]
        simp [acquire, taken]

theorem failFreeing_meets (text : String) (i : Nat)
    {history : List (Call × Answer)} {memory : Memory}
    (missing : ∃ entry ∈ history.take 6, entry.2.ret = 0)
    (gains : Gains (taken memory.transfer i) history) :
    (failFreeing text i).Meets Starting history memory := by
  refine Program.meets_unwinding
    (Program.meets_bind_modify (Program.meets_fail ?_))
  exact freeTransfers_meets i missing gains

theorem allocTransfers_meets (left : Nat) :
    ∀ (i : Nat) (history : List (Call × Answer)) (memory : Memory),
      left + i = 3 → history.length = 2 * i →
        (∀ entry ∈ history, entry.2.ret ≠ 0) →
          Gains (taken memory.transfer i) history →
            (allocTransfers left i).Meets Starting history memory := by
  induction left with
  | zero =>
      intro i history memory all length present gains
      obtain rfl : i = 3 := by omega
      exact Program.meets_pure ⟨length, present, gains⟩
  | succ left ih =>
      intro i history memory all length present gains
      refine Program.meets_bind_call trivial fun tx => ?_
      split
      case isTrue null =>
          refine failFreeing_meets _ i ⟨_, last_mem_take ?_ _, null⟩ ?_
          · omega
          · intro held
            rw [List.foldl_append, gains]
            simp [acquire, null]
      case isFalse some =>
          refine Program.meets_bind_modify
            (Program.meets_bind_call trivial fun buffer => ?_)
          have gains' :
              Gains (taken (Function.update memory.transfer i tx.ret) (i + 1))
                (history ++ [(.libusbAllocTransfer, tx)]) := by
            intro held
            rw [List.foldl_append, gains, taken,
              taken_update memory.transfer i tx.ret i (Nat.le_refl i)]
            simp [acquire, some]
          have gains'' :=
            gains'.harmless (show Harmless (.malloc 4096) from trivial)
              buffer
          split
          case isTrue null =>
              refine failFreeing_meets _ (i + 1)
                ⟨_, last_mem_take ?_ _, null⟩ gains''
              rw [List.length_append, length, List.length_singleton]
              omega
          case isFalse some' =>
              refine ih (i + 1) _ _ (by omega) ?_ ?_ gains''
              · simp only [List.length_append, length, List.length_singleton]
                omega
              · intro entry member
                simp only [List.mem_append, List.mem_singleton] at member
                rcases member with (member | rfl) | rfl
                · exact present entry member
                · exact some
                · exact some'

/-! ## Failing with resources held -/

/-- The first six calls went well and something they took is still held. -/
structure Holding (bad : Answer → Prop) (resource : Resource)
    (history : List (Call × Answer)) : Prop where
  six : 6 ≤ history.length
  good : ∀ entry ∈ history.take 6, ¬ bad entry.2
  held : resource ∈ history.foldl acquire []

variable {bad : Answer → Prop} {resource : Resource}

theorem Holding.append {history : List (Call × Answer)}
    (holding : Holding bad resource history) (entry : Call × Answer)
    (kept :
      ∀ held, resource ∈ held → resource ∈ acquire held entry) :
    Holding bad resource (history ++ [entry]) where
  six := by
    rw [List.length_append]
    exact Nat.le_add_right_of_le holding.six
  good := by
    rw [List.take_append_of_le_length holding.six]
    exact holding.good
  held := by
    rw [List.foldl_append]
    exact kept _ holding.held

theorem Holding.harmless {history : List (Call × Answer)} {call : Call}
    (holding : Holding bad resource history) (harmless : Harmless call)
    (answer : Answer) : Holding bad resource (history ++ [(call, answer)]) := by
  refine holding.append _ fun held member => ?_
  rwa [acquire_of_harmless harmless]

theorem holding_lasting : Lasting (ofCalls (Holding bad resource)) where
  call := fun answer harmless holding => holding.harmless harmless answer
  write := fun holding _ => holding

/-- The first six calls went well and something is still held. -/
def Leaking (bad : Answer → Prop) (history : List (Call × Answer)) : Prop :=
  ∃ resource, Holding bad resource history

theorem leaking_lasting : Lasting (ofCalls (Leaking bad)) where
  call := fun answer harmless ⟨resource, holding⟩ =>
    ⟨resource, holding.harmless harmless answer⟩
  write := fun leaking _ => leaking

/-- How the first step of a call ends. -/
def FirstStep (bad : Answer → Prop) (Kept : List (Call × Answer) → Prop) :
    Post Call Answer Memory Unit
  | .returned _, history, _ => Kept history
  | .stopped .failed, history, _ =>
      (∃ entry ∈ history.take 6, bad entry.2) ∧ Undone history
  | _, _, _ => True

/-- How a call ends: it has cleaned up after its first step or not at all. -/
def Judged (bad : Answer → Prop) : Post Call Answer Memory Unit
  | .stopped .failed, history, _ =>
      (∃ entry ∈ history.take 6, bad entry.2) ∧ Undone history ∨
        Leaking bad history
  | _, _, _ => True

theorem judged_meets {Kept : List (Call × Answer) → Prop}
    (leaks : ∀ history, Kept history → Leaking bad history)
    {errorStr : Memory → ErrorStr} {first : Action Unit}
    {next : Unit → Action Unit}
    (starts : ∀ memory, first.Meets (FirstStep bad Kept) [] memory)
    (keeps : Keeps (ofCalls Kept) (next ())) (memory : Memory) :
    (entering (reporting errorStr first >>= next)).Meets (Judged bad)
      [] memory := by
  refine Program.meets_bind_modify (Program.meets_bind
    (Program.meets_bind_modify
      (Program.meets_bind (Program.meets_attempt ?_))))
  refine (starts _).mono fun ending history memory holds => ?_
  match ending, holds with
  | .stopped .failed, judged =>
      exact Program.meets_bind_modify (Program.meets_fail (Or.inl judged))
  | .stopped .aborted, _ => trivial
  | .stopped (.waiting _), _ => trivial
  | .returned _, kept =>
      refine Program.meets_pure ((keeps history memory kept).mono ?_)
      intro ending history memory upheld
      match ending, upheld with
      | .returned _, _ => trivial
      | .stopped .failed, kept => exact Or.inr (leaks history kept)
      | .stopped .aborted, _ => trivial
      | .stopped (.waiting _), _ => trivial

theorem undone_iff_of_judged {program : Action Unit} {memory : Memory}
    {script : List Answer} (judged : program.Meets (Judged bad) [] memory)
    (failed : (program.run memory script).ending = .stopped .failed) :
    Undone (program.run memory script).calls ↔
      ∃ answer ∈ script.take 6, bad answer := by
  have outcome := judged script
  have reads := (program.fits memory script).reads
  rw [failed, List.nil_append] at outcome
  generalize (program.run memory script).calls = calls at outcome reads ⊢
  rw [← reads]
  rcases outcome with ⟨⟨entry, member, found⟩, undone⟩ | ⟨_, holding⟩
  · refine iff_of_true undone ⟨entry.2, ?_, found⟩
    have answered := List.mem_map_of_mem (f := Prod.snd) member
    rw [List.map_take] at answered
    exact ((List.prefix_append _ _).take 6).subset answered
  · refine iff_of_false (not_undone_of_mem holding.held) ?_
    rintro ⟨answer, member, found⟩
    have six : 6 ≤ (calls.map Prod.snd).length := by
      rw [List.length_map]
      exact holding.six
    rw [List.take_append_of_le_length six, ← List.map_take] at member
    obtain ⟨entry, held, rfl⟩ := List.mem_map.mp member
    exact holding.good entry held found

/-! ### Opening a device -/

/-- The answer of a call of libftdi that has failed. -/
def Negative (answer : Answer) : Prop :=
  answer.ret < 0

theorem channelB_upkeep :
    OpenUpkeep .b (ofCalls (Holding Negative (.channel .a)))
      (ofCalls (Holding Negative (.channel .a))) where
  opens := by
    intro history memory answer holding
    refine holding.append _ fun held member => ?_
    change _ ∈ if answer.ret < 0 then held else .channel .b :: held
    split
    · exact member
    · exact List.mem_cons_of_mem _ member
  closes := by
    intro history memory answer holding
    refine holding.append _ fun held member => ?_
    exact (List.mem_erase_of_ne (by simp)).mpr member
  weaken := id

theorem ovOpen_meets (memory : Memory) :
    ovOpen.Meets (Judged Negative) [] memory := by
  have lasting : Lasting (ofCalls (Holding Negative (.channel .a))) :=
    holding_lasting
  have leaks : ∀ history, Holding Negative (.channel .a) history →
      Leaking Negative history :=
    fun _ holding => ⟨_, holding⟩
  refine judged_meets leaks (fun memory => ?_) ?_ memory
  · refine (chaOpen_meets memory).mono fun ending history memory opening => ?_
    match ending, opening with
    | .returned _, ⟨length, natural, gains⟩ =>
        refine ⟨length.ge, fun entry member => ?_, ?_⟩
        · exact Int.not_lt.mpr
            (natural entry (List.mem_of_mem_take member))
        · rw [gains]
          exact List.mem_singleton_self _
    | .stopped .failed, opening => exact opening
    | .stopped .aborted, _ => trivial
    | .stopped (.waiting _), _ => trivial
  · refine Program.upholds_bind
      (reporting_keeps lasting (chbOpen_upholds lasting.chb channelB_upkeep))
      fun _ => ?_
    refine Program.upholds_bind
      (ovLoadFirmwareFromFwpkg_upholds (lasting.load _)) fun _ => ?_
    refine Program.upholds_bind
      (reporting_keeps lasting (chaSwitchFifoMode_upholds lasting.cha))
      fun _ => ?_
    exact reporting_keeps lasting (chaStopStream_upholds lasting.cha)

/-! ### Starting a capture -/

/-- The answer of a call that gives `NULL`. -/
def Null (answer : Answer) : Prop :=
  answer.ret = 0

theorem ovCaptureStart_meets (memory : Memory) :
    ovCaptureStart.Meets (Judged Null) [] memory := by
  refine judged_meets (fun _ => id) (fun memory => ?_)
    (reporting_keeps leaking_lasting
      (chaStartStream_upholds leaking_lasting.cha)) memory
  refine (allocTransfers_meets 3 0 [] memory rfl rfl (by simp)
    fun _ => rfl).mono fun ending history memory starting => ?_
  match ending, starting with
  | .returned _, ⟨length, present, gains⟩ =>
      refine ⟨.transfer (memory.transfer 2), length.ge, ?_, ?_⟩
      · exact fun entry member =>
          present entry (List.mem_of_mem_take member)
      · rw [gains]
        exact List.mem_cons_self
  | .stopped .failed, starting => exact starting
  | .stopped .aborted, _ => trivial
  | .stopped (.waiting _), _ => trivial

/-! ## Undoing -/

/--
A failed `ov_open` gives back what it has taken if and only if one of the six
calls of `cha_open` failed; a failed `ov_capture_start`, if and only if one of
the six allocations of `cha_loop_init` failed.
-/
theorem undone_iff (memory memory' : Memory) (script script' : List Answer)
    (opening : (ovOpen.run memory script).ending = .stopped .failed)
    (starting :
      (ovCaptureStart.run memory' script').ending = .stopped .failed) :
    (Undone (ovOpen.run memory script).calls ↔
        ∃ answer ∈ script.take 6, answer.ret < 0) ∧
      (Undone (ovCaptureStart.run memory' script').calls ↔
        ∃ answer ∈ script'.take 6, answer.ret = 0) :=
  ⟨undone_iff_of_judged (ovOpen_meets memory) opening,
    undone_iff_of_judged (ovCaptureStart_meets memory') starting⟩

/-- A reset that fails, and a third transfer that cannot be allocated. -/
theorem undone_reset_and_allocation :
    Undone
        (ovOpen.run Memory.zeroed
          [counted 0, counted (-1), counted 0]).calls ∧
      Undone
        (ovCaptureStart.run Memory.zeroed
          [counted 1, counted 2, counted 3, counted 4, counted 0,
            counted 0, counted 0]).calls := by
  have iffs :=
    undone_iff Memory.zeroed Memory.zeroed
      [counted 0, counted (-1), counted 0]
      [counted 1, counted 2, counted 3, counted 4, counted 0, counted 0,
        counted 0]
      (by decide +kernel) (by decide +kernel)
  exact ⟨iffs.1.mpr ⟨counted (-1), by decide, by decide⟩,
    iffs.2.mpr ⟨counted 0, by decide, by decide⟩⟩

/-- Channel A stays open when channel B cannot be opened. -/
theorem open_not_undone :
    ¬ ∀ (memory : Memory) (script : List Answer),
        ((ovOpen.run memory script).ending = .stopped .failed →
          Undone (ovOpen.run memory script).calls) ∧
        ((ovCaptureStart.run memory script).ending = .stopped .failed →
          Undone (ovCaptureStart.run memory script).calls) := by
  intro claim
  have undone :=
    (claim Memory.zeroed
      [counted 0, counted 0, counted 0, counted 0, counted 0, counted 0,
        counted (-1)]).1 (by decide +kernel) []
  exact absurd undone (by decide +kernel)

end OpenVizsla.Device.Acquisition
