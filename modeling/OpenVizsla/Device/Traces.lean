import OpenVizsla.Device.Upkeep

/-!
# Properties that outlive a firmware load

A property of the calls, and of the register map in use, outlives a firmware
load as soon as it outlives the calls that are made there, whether the load
succeeds, fails or waits.
-/

namespace OpenVizsla.Device.Traces

open OpenVizsla.Foundation.Calls
open OpenVizsla.Device.State
open OpenVizsla.Device.Cha
open OpenVizsla.Device.Bit
open OpenVizsla.Device.Fwpkg
open OpenVizsla.Device.Upkeep

/-- The call neither takes nor gives back a channel or a transfer. -/
def Harmless : Call → Prop
  | .ftdi _ (.usbOpen _ _) => False
  | .ftdi _ .usbClose => False
  | .libusbAllocTransfer => False
  | .libusbFreeTransfer _ => False
  | _ => True

theorem harmless_of_ordinary {channel : Channel} {call : FtdiCall}
    (ordinary : Ordinary call) : Harmless (.ftdi channel call) := by
  cases call <;> trivial

theorem harmless_of_onFiles {call : Call} (onFiles : OnFiles call) :
    Harmless call := by
  cases call <;> trivial

variable {Kept : List (Call × Answer) → Memory → Prop} {α : Type}

/-- A property of the calls alone, as a property of calls and memory. -/
def ofCalls (Kept : List (Call × Answer) → Prop) :
    List (Call × Answer) → Memory → Prop :=
  fun history _ => Kept history

/-- The property outlives the program. -/
def Keeps (Kept : List (Call × Answer) → Memory → Prop)
    (program : Action α) : Prop :=
  program.Upholds Kept Kept

/--
The property outlives the calls that are harmless, and all that is written to
the memory but the register map.
-/
structure Lasting (Kept : List (Call × Answer) → Memory → Prop) : Prop where
  call :
    ∀ {call history memory} answer, Harmless call → Kept history memory →
      Kept (history ++ [(call, answer)]) memory
  write :
    ∀ {history memory memory'}, Kept history memory →
      memory'.cha.reg = memory.cha.reg → Kept history memory'

theorem reg_set (package : Package) (fwpkg : State.Fwpkg) (memory : Memory) :
    (package.set fwpkg memory).cha.reg = memory.cha.reg := by
  cases package <;> rfl

section Lasting

variable (lasting : Lasting Kept)
include lasting

theorem Lasting.cha : ChaUpkeep Kept Kept where
  call := fun answer ofChannel =>
    lasting.call answer (harmless_of_ordinary ofChannel.ordinary)
  fail := fun _ kept => lasting.write kept rfl

theorem Lasting.chb : ChbUpkeep Kept Kept where
  call := fun answer ordinary =>
    lasting.call answer (harmless_of_ordinary ordinary)
  fail := fun _ kept => lasting.write kept rfl

theorem Lasting.bit : BitUpkeep Kept Kept where
  call := fun answer ordinary =>
    lasting.call answer (harmless_of_ordinary ordinary)
  fail := fun _ kept => lasting.write kept rfl

theorem Lasting.fwpkg (package : Package) :
    FwpkgUpkeep package Kept Kept where
  call := fun answer onFiles =>
    lasting.call answer (harmless_of_onFiles onFiles)
  store := fun _ kept => lasting.write kept (reg_set _ _ _)
  fail := fun _ kept => lasting.write kept (reg_set _ _ _)
  closes := fun answer onFiles =>
    lasting.call answer (harmless_of_onFiles onFiles)
  weaken := id

theorem Lasting.reg (package : Package) :
    RegUpkeep package Kept Kept Kept where
  file := lasting.fwpkg package
  store := fun _ kept => lasting.write kept rfl
  fail := fun _ kept => lasting.write kept rfl
  unread := fun kept => lasting.write kept rfl
  closes := fun answer onFiles =>
    lasting.call answer (harmless_of_onFiles onFiles)
  weaken := id

theorem modify_keeps {change : Memory → Memory}
    (same : ∀ memory, (change memory).cha.reg = memory.cha.reg) :
    Keeps Kept (Program.modify change) :=
  Program.upholds_modify fun _ memory kept =>
    lasting.write kept (same memory)

theorem reporting_keeps {errorStr : Memory → ErrorStr} {step : Action α}
    (keeps : Keeps Kept step) : Keeps Kept (reporting errorStr step) :=
  reporting_upholds (fun _ _ kept => lasting.write kept rfl) keeps
    fun _ _ kept => lasting.write kept rfl

theorem Lasting.startUp : StartUpUpkeep Kept where
  write := fun answer => lasting.call answer trivial
  chb := lasting.chb
  fail := fun _ kept => lasting.write kept rfl

theorem Lasting.load (package : Package) : LoadUpkeep package Kept where
  cha := lasting.cha
  bit := lasting.bit
  startUp := lasting.startUp
  file := lasting.fwpkg package
  write := fun kept same _ => lasting.write kept same

end Lasting

/-! ## Calls in a row -/

/-- One call of libftdi after the other on channel A. -/
def chaCalls : List FtdiCall → Action Unit
  | [] => pure ()
  | call :: calls => do
      let _ ← chaFtdi call
      chaCalls calls

/-- The calls were made in their order and none of them failed. -/
structure AllMade (calls : List FtdiCall) (history : List (Call × Answer)) :
    Prop where
  made : history.map Prod.fst = calls.map (.ftdi .a)
  natural : ∀ entry ∈ history, 0 ≤ entry.2.ret

/-- The first of the calls were made and the last of these failed. -/
structure LastFailed (calls : List FtdiCall)
    (history : List (Call × Answer)) : Prop where
  made : history.map Prod.fst <+: calls.map (.ftdi .a)
  negative : ∃ entry ∈ history, entry.2.ret < 0

/-- What calls in a row lead to. -/
def InRow (calls : List FtdiCall) (history : List (Call × Answer))
    (memory : Memory) : Post Call Answer Memory Unit
  | .returned _, history', memory' =>
      memory' = memory ∧
        ∃ later, history' = history ++ later ∧ AllMade calls later
  | .stopped .failed, history', _ =>
      ∃ later, history' = history ++ later ∧ LastFailed calls later
  | _, _, _ => True

theorem chaCalls_meets (calls : List FtdiCall)
    (history : List (Call × Answer)) (memory : Memory) :
    (chaCalls calls).Meets (InRow calls history memory) history memory := by
  induction calls generalizing history with
  | nil =>
      exact Program.meets_pure
        ⟨rfl, [], (List.append_nil _).symm, rfl, by simp⟩
  | cons call calls ih =>
      refine chaFtdi_bind_meets trivial ?_ fun answer natural => ?_
      · intro answer negative
        exact ⟨_, rfl, ⟨calls.map (.ftdi .a), rfl⟩, _,
          List.mem_singleton_self _, negative⟩
      refine (ih _).mono fun ending history' memory' row => ?_
      match ending, row with
      | .returned _, ⟨same, later, append, made, natural'⟩ =>
          refine ⟨same, (.ftdi .a call, answer) :: later, ?_, ?_, ?_⟩
          · rw [append, List.append_assoc]
            rfl
          · rw [List.map_cons, made, List.map_cons]
          · intro entry member
            cases member with
            | head => exact natural
            | tail _ member => exact natural' entry member
      | .stopped .failed, ⟨later, append, made, entry, member, negative⟩ =>
          refine ⟨(.ftdi .a call, answer) :: later, ?_, ?_, entry,
            List.mem_cons_of_mem _ member, negative⟩
          · rw [append, List.append_assoc]
            rfl
          · exact List.cons_prefix_cons.mpr ⟨rfl, made⟩
      | .stopped .aborted, _ => trivial
      | .stopped (.waiting _), _ => trivial

end OpenVizsla.Device.Traces
