import OpenVizsla.Device.Traces

/-!
# The register map of a new firmware

`ov_load_firmware` makes the register map of a package the one in use as its
last step.  The switch to FIFO mode comes before it and already writes to a
register of the new firmware, at the address in the map of the old one.
-/

namespace OpenVizsla.Device.MapChange

open OpenVizsla.Foundation.Calls
open OpenVizsla.Register.Map
open OpenVizsla.Register.Message
open OpenVizsla.Register.Parse
open OpenVizsla.Device.State
open OpenVizsla.Device.Cha
open OpenVizsla.Device.Chb
open OpenVizsla.Device.Bit
open OpenVizsla.Device.Fwpkg
open OpenVizsla.Device.Ov
open OpenVizsla.Device.Upkeep
open OpenVizsla.Device.Traces

/-! ## Requests -/

/-- A register request: five bytes for channel A. -/
def IsRequest : Call → Prop
  | .ftdi .a (.writeData buf) => buf.length = 5
  | _ => False

instance (call : Call) : Decidable (IsRequest call) := by
  unfold IsRequest
  split <;> infer_instance

/-- The address `0x8000 | cha->reg.addr[SDRAM_HOST_READ_GO]`. -/
def readGoAddress (map : Addresses) : UInt16 :=
  0x8000 ||| map .sdramHostReadGo

/-- The request that turns off the stream of a device with this map. -/
def readGoRequest (map : Addresses) : Call :=
  .ftdi .a (.writeData (syncMessage (readGoAddress map)))

/-- All requests are for registers of this map. -/
def UsesMap (map : Addresses) (history : List (Call × Answer)) : Prop :=
  ∀ entry ∈ history, IsRequest entry.1 → entry.1 = readGoRequest map

instance (map : Addresses) (history : List (Call × Answer)) :
    Decidable (UsesMap map history) :=
  inferInstanceAs (Decidable (∀ entry ∈ history, _ → _))

theorem readGoRequest_isRequest (map : Addresses) :
    IsRequest (readGoRequest map) :=
  rfl

theorem initCycles_not_request :
    ¬ IsRequest (.ftdi .a (.writeData (List.replicate 512 0))) := by
  rw [IsRequest, List.length_replicate]
  exact Nat.ne_of_beq_eq_false rfl

theorem readGoAddress_eq_of_request {map map' : Addresses}
    (same : readGoRequest map = readGoRequest map') :
    readGoAddress map = readGoAddress map' := by
  simp only [readGoRequest, syncMessage, checked, Call.ftdi.injEq,
    FtdiCall.writeData.injEq, List.cons.injEq, true_and] at same
  obtain ⟨high, low, -⟩ := same
  have high' := congrArg UInt8.toNat high
  have low' := congrArg UInt8.toNat low
  rw [toNat_highByte, toNat_highByte] at high'
  rw [toNat_lowByte, toNat_lowByte] at low'
  apply UInt16.toNat_inj.mp
  rw [← Nat.div_add_mod (readGoAddress map).toNat 256, high', low',
    Nat.div_add_mod]

/-! ## Before and after the acceptance of the bitstream -/

/-- The steps of `ov_load_firmware` until the FPGA has the new bitstream. -/
def accepting (filename : Option String) : Action Unit :=
  entering do
    declareReg
    reporting (fun memory => memory.stackFwpkg.errorStr)
      (fwpkgInit .stack filename)
    reporting (fun memory => memory.stackReg.errorStr)
      (regInitFromFwpkg .stack)
    prepare .stack
    reporting chbErrorStr chbSwitchProgramMode
    reporting bitErrorStr bitLoadFirmware

/-- The steps of `ov_load_firmware_from_fwpkg` that are left. -/
def switching : Action Unit :=
  Program.unwinding
    (do
      freeTmp
      reporting chaErrorStr chaSwitchFifoMode)
    abandonFpga

/-- The steps of `ov_load_firmware` that are left. -/
def finishing : Action Unit := do
  Program.unwinding
    (do
      switching
      let memory ← Program.get
      reporting chaErrorStr (chaSetReg memory.stackReg))
    (fwpkgDestroy .stack)
  fwpkgDestroy .stack

/-- Once the bitstream is accepted, only these steps are left. -/
theorem ovLoadFirmware_goesOn {filename : Option String} {memory : Memory}
    {script : List Answer}
    (accepted :
      ((accepting filename).run memory script).ending = .returned ()) :
    Program.GoesOn (accepting filename) (ovLoadFirmware filename) finishing
      memory script := by
  obtain ⟨_, entered, accepted⟩ := Program.returned_of_bind accepted
  obtain ⟨_, declared, accepted⟩ := Program.returned_of_bind accepted
  obtain ⟨_, opened, accepted⟩ := Program.returned_of_bind accepted
  obtain ⟨_, mapped, accepted⟩ := Program.returned_of_bind accepted
  obtain ⟨_, prepared, accepted⟩ := Program.returned_of_bind accepted
  obtain ⟨_, reset, loaded⟩ := Program.returned_of_bind accepted
  refine Program.GoesOn.after entered ?_
  refine Program.GoesOn.after declared ?_
  refine Program.GoesOn.after opened ?_
  refine (Program.GoesOn.unwinding ?_ _).bind _
  refine Program.GoesOn.after mapped ?_
  refine Program.GoesOn.bind ?_ _
  refine Program.GoesOn.after prepared (Program.GoesOn.unwinding ?_ _)
  refine Program.GoesOn.after reset ?_
  exact Program.goesOn_of_returned loaded _

/-- Accepting the bitstream leaves the map in use alone. -/
theorem accepting_keeps {Kept : List (Call × Answer) → Memory → Prop}
    (lasting : Lasting Kept) (filename : Option String) :
    Keeps Kept (accepting filename) := by
  refine Program.upholds_bind (modify_keeps lasting fun _ => rfl)
    fun _ => ?_
  refine Program.upholds_bind (modify_keeps lasting fun _ => rfl)
    fun _ => ?_
  refine Program.upholds_bind
    (reporting_keeps lasting (fwpkgInit_upholds (lasting.fwpkg _) filename))
    fun _ => ?_
  refine Program.upholds_bind
    (reporting_keeps lasting (regInitFromFwpkg_upholds (lasting.reg _)))
    fun _ => ?_
  refine Program.upholds_bind (prepare_upholds (lasting.load _)) fun _ => ?_
  refine Program.upholds_bind
    (reporting_keeps lasting (chbSwitchProgramMode_upholds lasting.chb))
    fun _ => ?_
  exact reporting_keeps lasting
    (bitLoadFirmware_upholds lasting.startUp lasting.bit)

theorem accepting_reg {filename : Option String} {memory : Memory}
    {script : List Answer}
    (accepted :
      ((accepting filename).run memory script).ending = .returned ()) :
    ((accepting filename).run memory script).state.cha.reg =
      memory.cha.reg := by
  have lasting :
      Lasting fun _ (reached : Memory) => reached.cha.reg = memory.cha.reg :=
    ⟨fun _ _ => id, fun same written => written.trans same⟩
  have kept := accepting_keeps lasting filename [] memory rfl script
  rwa [accepted] at kept

/-! ## Switching to FIFO mode with the old map -/

/-- The call is one of libftdi on channel A. -/
def OnChannelA : Call → Prop
  | .ftdi .a _ => True
  | _ => False

instance (call : Call) : Decidable (OnChannelA call) := by
  unfold OnChannelA
  split <;> infer_instance

/-- No call of libftdi on channel A has failed. -/
def Untroubled (history : List (Call × Answer)) : Prop :=
  ∀ entry ∈ history, OnChannelA entry.1 → 0 ≤ entry.2.ret

instance (history : List (Call × Answer)) :
    Decidable (Untroubled history) :=
  inferInstanceAs (Decidable (∀ entry ∈ history, _ → _))

/-- A property of the calls that outlives those that do not fail. -/
def Enduring (Mood : List (Call × Answer) → Prop) : Prop :=
  ∀ {call history answer}, (OnChannelA call → 0 ≤ answer.ret) →
    Mood history → Mood (history ++ [(call, answer)])

theorem untroubled_enduring : Enduring Untroubled := by
  intro call history answer natural untroubled entry member
  rcases List.mem_append.mp member with member | last
  · exact untroubled entry member
  · rw [List.mem_singleton.mp last]
    exact natural

theorem troubled_concat {history : List (Call × Answer)}
    (troubled : ¬ Untroubled history) (entry : Call × Answer) :
    ¬ Untroubled (history ++ [entry]) :=
  fun untroubled => troubled fun entry member =>
    untroubled entry (List.mem_append_left _ member)

theorem troubled_enduring : Enduring (¬ Untroubled ·) :=
  fun _ troubled => troubled_concat troubled _

theorem troubled_of_negative {history : List (Call × Answer)}
    {call : FtdiCall} {answer : Answer} (negative : answer.ret < 0) :
    ¬ Untroubled (history ++ [(.ftdi .a call, answer)]) :=
  fun untroubled => absurd negative (Int.not_lt.mpr
    (untroubled _ (List.mem_append_right _ (List.mem_singleton_self _))
      trivial))

/-- The map in use is still the old one, and all requests are for it. -/
structure Pending (old new : Addresses) (history : List (Call × Answer))
    (memory : Memory) : Prop where
  requests : UsesMap old history
  old : memory.cha.reg.addr = old
  new : memory.stackReg.addr = new

/-- The same, in a certain mood. -/
structure Still (old new : Addresses) (Mood : List (Call × Answer) → Prop)
    (history : List (Call × Answer)) (memory : Memory) : Prop
    extends Pending old new history memory where
  mood : Mood history

/-- The map in use is the new one. -/
structure Changed (old new : Addresses) (history : List (Call × Answer))
    (memory : Memory) : Prop where
  requests : UsesMap old history
  new : memory.cha.reg.addr = new
  untroubled : Untroubled history
  asked : ∃ entry ∈ history, IsRequest entry.1

/-- How the steps after the acceptance end. -/
def Ends {α : Type} (old new : Addresses)
    (Done : List (Call × Answer) → Memory → Prop) :
    Post Call Answer Memory α
  | .returned _, history, memory => Done history memory
  | .stopped .failed, history, memory =>
      Still old new (¬ Untroubled ·) history memory
  | .stopped .aborted, _, _ => False
  | .stopped (.waiting _), history, _ => UsesMap old history

variable {old new : Addresses} {α β : Type}
    {history : List (Call × Answer)} {memory : Memory}

theorem UsesMap.concat {map : Addresses} {call : Call}
    (uses : UsesMap map history)
    (allowed : IsRequest call → call = readGoRequest map)
    (answer : Answer) : UsesMap map (history ++ [(call, answer)]) := by
  intro entry member request
  rcases List.mem_append.mp member with member | last
  · exact uses entry member request
  · rw [List.mem_singleton.mp last] at request ⊢
    exact allowed request

theorem ends_bind {Next Done : List (Call × Answer) → Memory → Prop}
    {first : Action α} {next : α → Action β}
    (meets : first.Meets (Ends old new Next) history memory)
    (meetsNext :
      ∀ value history memory, Next history memory →
        (next value).Meets (Ends old new Done) history memory) :
    (first >>= next).Meets (Ends old new Done) history memory := by
  refine Program.meets_bind (meets.mono fun ending history memory ends => ?_)
  match ending, ends with
  | .returned value, next => exact meetsNext value history memory next
  | .stopped .failed, failed => exact failed
  | .stopped (.waiting _), requests => exact requests

section Switching

variable {Mood : List (Call × Answer) → Prop} (enduring : Enduring Mood)
include enduring

theorem Still.concat (still : Still old new Mood history memory)
    {call : Call} {answer : Answer}
    (allowed : IsRequest call → call = readGoRequest old)
    (natural : OnChannelA call → 0 ≤ answer.ret) :
    Still old new Mood (history ++ [(call, answer)]) memory where
  requests := still.requests.concat allowed answer
  old := still.old
  new := still.new
  mood := enduring natural still.mood

theorem chaFtdi_bind_ends {Done : List (Call × Answer) → Memory → Prop}
    {call : FtdiCall} {next : Answer → Action β}
    (allowed : IsRequest (.ftdi .a call) → .ftdi .a call = readGoRequest old)
    (still : Still old new Mood history memory)
    (meets :
      ∀ answer,
        Still old new Mood (history ++ [(.ftdi .a call, answer)]) memory →
          (next answer).Meets (Ends old new Done)
            (history ++ [(.ftdi .a call, answer)]) memory) :
    (chaFtdi call >>= next).Meets (Ends old new Done) history memory := by
  refine chaFtdi_bind_meets still.requests
    (fun answer negative => ?_) fun answer natural => ?_
  · exact ⟨⟨still.requests.concat allowed answer, still.old, still.new⟩,
      troubled_of_negative negative⟩
  · exact meets answer (still.concat enduring allowed fun _ => natural)

theorem chaSwitchMode_ends (mode : Bitmode)
    (still : Still old new Mood history memory) :
    (chaSwitchMode mode).Meets (Ends old new (Still old new Mood)) history
      memory := by
  refine chaFtdi_bind_ends enduring (fun request => nomatch request) still
    fun _ still => ?_
  refine chaFtdi_bind_ends enduring (fun request => nomatch request) still
    fun _ still => ?_
  refine chaFtdi_bind_ends enduring (fun request => nomatch request) still
    fun _ still => ?_
  exact chaFtdi_bind_ends enduring (fun request => nomatch request) still
    fun _ still => Program.meets_pure still

theorem syncReads_ends (msg : List UInt8)
    (still : Still old new Mood history memory) :
    (syncReads msg).Meets (Ends old new (Still old new Mood))
      history memory := by
  refine Program.meets_loop (fun _ => Still old new Mood) ?_ still
  intro syncState history memory still
  have reads :
      (chaReadData 32).Meets (Ends old new (Still old new Mood)) history
        memory :=
    chaFtdi_bind_ends enduring (fun request => nomatch request) still
      fun _ still => Program.meets_pure still
  have round :
      (chaReadData 32 >>= fun buf =>
        pure (if matchBytes msg syncState buf = 5 then .inr ()
          else .inl (matchBytes msg syncState buf)) :
            Action (Nat ⊕ Unit)).Meets
        (Ends old new (Still old new Mood)) history memory :=
    ends_bind reads fun _ _ _ still => Program.meets_pure still
  refine Program.Meets.mono round fun ending history memory ends => ?_
  match ending, ends with
  | .returned (.inl _), still => exact still
  | .returned (.inr _), still => exact still
  | .stopped .failed, failed => exact failed
  | .stopped (.waiting _), requests => exact requests

/-- The mood in which the request has been made. -/
def Asked (Mood : List (Call × Answer) → Prop)
    (history : List (Call × Answer)) : Prop :=
  Mood history ∧ ∃ entry ∈ history, IsRequest entry.1

theorem asked_enduring : Enduring (Asked Mood) := by
  rintro call history answer natural ⟨mood, entry, member, request⟩
  exact ⟨enduring natural mood, entry, List.mem_append_left _ member, request⟩

theorem chaSyncStream_ends (still : Still old new Mood history memory) :
    (chaSyncStream (readGoAddress old)).Meets
      (Ends old new (Still old new (Asked Mood))) history memory := by
  refine chaFtdi_bind_ends enduring (fun request => nomatch request) still
    fun _ still => ?_
  refine chaFtdi_bind_ends enduring (fun _ => rfl) still
    fun answer still => ?_
  have asked : Still old new (Asked Mood) _ memory :=
    { still with
      mood := ⟨still.mood, _,
        List.mem_append_right _ (List.mem_singleton_self _),
        readGoRequest_isRequest old⟩ }
  have enduring' : Enduring (Asked Mood) := asked_enduring enduring
  refine ends_bind (syncReads_ends enduring' _ asked)
    fun _ history memory still => ?_
  exact chaFtdi_bind_ends enduring' (fun request => nomatch request) still
    fun _ still => Program.meets_pure still

theorem chaSwitchFifoMode_ends (still : Still old new Mood history memory) :
    chaSwitchFifoMode.Meets (Ends old new (Still old new (Asked Mood)))
      history memory := by
  refine ends_bind (chaSwitchMode_ends enduring .syncff still)
    fun _ history memory still => ?_
  refine chaFtdi_bind_ends enduring
    (fun request => absurd request initCycles_not_request) still
    fun _ still => ?_
  apply Program.meets_bind_get
  rw [still.old]
  exact chaSyncStream_ends enduring still

theorem freeTmp_ends (still : Still old new Mood history memory) :
    freeTmp.Meets (Ends old new (Still old new Mood)) history memory := by
  apply Program.meets_bind_get
  split
  case isTrue =>
      refine Program.meets_bind_call still.requests fun answer => ?_
      have still :
          Still old new Mood (history ++ [(.free memory.tmp, answer)])
            memory :=
        still.concat enduring (fun request => nomatch request)
          fun inside => nomatch inside
      exact Program.meets_modify
        ⟨⟨still.requests, still.old, still.new⟩, still.mood⟩
  case isFalse => exact Program.meets_pure still

end Switching

/-! ## The steps that are left -/

theorem Still.written {Mood : List (Call × Answer) → Prop}
    {memory memory' : Memory} (still : Still old new Mood history memory)
    (reg : memory'.cha.reg.addr = memory.cha.reg.addr)
    (map : memory'.stackReg.addr = memory.stackReg.addr) :
    Still old new Mood history memory' where
  requests := still.requests
  old := reg.trans still.old
  new := map.trans still.new
  mood := still.mood

theorem reporting_ends {Done : List (Call × Answer) → Memory → Prop}
    {errorStr : Memory → ErrorStr} {step : Action α}
    (meets :
      step.Meets (Ends old new Done) history memory.aged) :
    (reporting errorStr step).Meets (Ends old new Done) history memory := by
  refine Program.meets_bind_modify (Program.meets_bind
    (Program.meets_attempt (meets.mono fun ending history memory ends => ?_)))
  match ending, ends with
  | .returned _, done => exact Program.meets_pure done
  | .stopped .failed, failed =>
      exact Program.meets_bind_modify
        (Program.meets_fail (failed.written rfl rfl))
  | .stopped (.waiting _), requests => exact requests

theorem ends_unwinding {Done : List (Call × Answer) → Memory → Prop}
    {program : Action α} {cleanup : Action β}
    (meets : program.Meets (Ends old new Done) history memory)
    (cleans :
      ∀ history memory, Still old new (¬ Untroubled ·) history memory →
        cleanup.Meets (Ends old new (Still old new (¬ Untroubled ·)))
          history memory) :
    (Program.unwinding program cleanup).Meets (Ends old new Done) history
      memory := by
  refine Program.meets_unwinding
    (meets.mono fun ending history memory ends => ?_)
  match ending, ends with
  | .returned _, done => exact done
  | .stopped (.waiting _), requests => exact requests
  | .stopped .failed, failed =>
      refine (cleans history memory failed).mono
        fun ending history memory ends => ?_
      match ending, ends with
      | .returned _, failed => exact failed
      | .stopped .failed, failed => exact failed
      | .stopped (.waiting _), requests => exact requests

/-- The second switch to FIFO mode, whose failure is not looked at. -/
theorem abandonFpga_ends
    (failed : Still old new (¬ Untroubled ·) history memory) :
    abandonFpga.Meets (Ends old new (Still old new (¬ Untroubled ·)))
      history memory := by
  refine Program.meets_bind (Program.meets_attempt
    ((chaSwitchFifoMode_ends troubled_enduring failed).mono
      fun ending history memory ends => ?_))
  match ending, ends with
  | .returned _, still =>
      exact freeTmp_ends troubled_enduring
        { still with mood := still.mood.1 }
  | .stopped .failed, failed => exact freeTmp_ends troubled_enduring failed
  | .stopped (.waiting _), requests => exact requests

theorem switching_ends (still : Still old new Untroubled history memory) :
    switching.Meets (Ends old new (Still old new (Asked Untroubled))) history
      memory := by
  refine ends_unwinding ?_ fun _ _ => abandonFpga_ends
  refine ends_bind (freeTmp_ends untroubled_enduring still)
    fun _ history memory still => reporting_ends ?_
  exact chaSwitchFifoMode_ends untroubled_enduring (still.written rfl rfl)

theorem fwpkgDestroy_ends
    (failed : Still old new (¬ Untroubled ·) history memory) :
    (fwpkgDestroy .stack).Meets
      (Ends old new (Still old new (¬ Untroubled ·))) history memory := by
  apply Program.meets_bind_get
  refine Program.meets_bind_call failed.requests fun answer =>
    Program.meets_pure ?_
  exact failed.concat troubled_enduring (fun request => nomatch request)
    fun inside => nomatch inside

theorem changing_ends (still : Still old new Untroubled history memory) :
    (Program.unwinding
      (do
        switching
        let memory ← Program.get
        reporting chaErrorStr (chaSetReg memory.stackReg))
      (fwpkgDestroy .stack)).Meets (Ends old new (Changed old new)) history
        memory := by
  refine ends_unwinding ?_ fun _ _ => fwpkgDestroy_ends
  refine ends_bind (switching_ends still) fun _ history memory still => ?_
  apply Program.meets_bind_get
  refine reporting_ends (Program.meets_modify ?_)
  exact ⟨still.requests, still.new, still.mood.1, still.mood.2⟩

theorem finishing_ends (still : Still old new Untroubled history memory) :
    finishing.Meets (Ends old new (Changed old new)) history memory := by
  refine ends_bind (changing_ends still) fun _ history memory changed => ?_
  apply Program.meets_bind_get
  refine Program.meets_bind_call changed.requests fun answer =>
    Program.meets_pure ⟨?_, changed.new, ?_, ?_⟩
  · exact changed.requests.concat (by exact False.elim) answer
  · exact untroubled_enduring (by exact False.elim) changed.untroubled
  · obtain ⟨entry, member, request⟩ := changed.asked
    exact ⟨entry, List.mem_append_left _ member, request⟩

/-! ## Agreement -/

/--
The requests use the map of the new firmware, and it is the one in use when
the function returns.
-/
structure Agrees (new : Addresses) (after : List (Call × Answer))
    (outcome : Outcome Call Answer Memory Unit) : Prop where
  requests : UsesMap new after
  running :
    ¬ outcome.ending.Waiting → outcome.state.cha.reg.addr = new

theorem readGoRequest_congr
    (same : readGoAddress old = readGoAddress new) :
    readGoRequest old = readGoRequest new := by
  rw [readGoRequest, same, readGoRequest]

theorem UsesMap.congr (uses : UsesMap old history)
    (same : readGoAddress old = readGoAddress new) :
    UsesMap new history := by
  rw [UsesMap, ← readGoRequest_congr same]
  exact uses

theorem UsesMap.address_eq (usesOld : UsesMap old history)
    (usesNew : UsesMap new history)
    (asked : ∃ entry ∈ history, IsRequest entry.1) :
    readGoAddress old = readGoAddress new := by
  obtain ⟨entry, member, request⟩ := asked
  apply readGoAddress_eq_of_request
  rw [← usesOld entry member request, ← usesNew entry member request]

theorem agrees_iff_of_finished
    {outcome : Outcome Call Answer Memory Unit}
    (ends :
      Ends old new (Changed old new) outcome.ending history outcome.state)
    (finished : ¬ outcome.ending.Waiting) :
    Agrees new history outcome ↔
      old = new ∨
        readGoAddress old = readGoAddress new ∧ Untroubled history := by
  obtain ⟨calls, ending, state, rest⟩ := outcome
  match ending, ends with
  | .stopped (.waiting _), _ => exact absurd trivial finished
  | .returned _, changed =>
      constructor
      · intro agrees
        exact Or.inr
          ⟨UsesMap.address_eq (Changed.requests changed) agrees.requests
            (Changed.asked changed), Changed.untroubled changed⟩
      · intro condition
        have same : readGoAddress old = readGoAddress new :=
          condition.elim (fun same => same ▸ rfl) And.left
        exact ⟨UsesMap.congr (Changed.requests changed) same,
          fun _ => Changed.new changed⟩
  | .stopped .failed, failed =>
      constructor
      · intro agrees
        have kept : state.cha.reg.addr = old := Pending.old failed.toPending
        exact Or.inl (kept.symm.trans (agrees.running id))
      · rintro (rfl | ⟨_, untroubled⟩)
        · exact ⟨Pending.requests failed.toPending,
            fun _ => Pending.old failed.toPending⟩
        · exact absurd untroubled (Still.mood failed)

theorem agrees_iff_of_waiting
    {outcome : Outcome Call Answer Memory Unit}
    (ends :
      Ends old new (Changed old new) outcome.ending history outcome.state)
    (waiting : outcome.ending.Waiting) :
    Agrees new history outcome ↔
      readGoAddress old = readGoAddress new ∨
        ∀ entry ∈ history, ¬ IsRequest entry.1 := by
  have requests : UsesMap old history := by
    obtain ⟨calls, ending, state, rest⟩ := outcome
    match ending, ends with
    | .stopped (.waiting _), requests => exact requests
  constructor
  · intro agrees
    by_cases asked : ∃ entry ∈ history, IsRequest entry.1
    · exact Or.inl (requests.address_eq agrees.requests asked)
    · push Not at asked
      exact Or.inr asked
  · rintro (same | unasked)
    · exact ⟨requests.congr same, fun finished => absurd waiting finished⟩
    · exact ⟨fun entry member request => absurd request (unasked entry member),
        fun finished => absurd waiting finished⟩

/-- The map that comes with the bitstream. -/
def newMap (filename : Option String) (memory : Memory)
    (script : List Answer) : Addresses :=
  ((accepting filename).run memory script).state.stackReg.addr

/-- The calls after the acceptance of the bitstream. -/
def callsAfter (filename : Option String) (memory : Memory)
    (script : List Answer) : List (Call × Answer) :=
  ((ovLoadFirmware filename).run memory script).calls.drop
    ((accepting filename).run memory script).calls.length

/-- Where a load leads once the bitstream is accepted. -/
theorem ovLoadFirmware_ends {filename : Option String} {memory : Memory}
    {script : List Answer}
    (accepted :
      ((accepting filename).run memory script).ending = .returned ()) :
    Ends memory.cha.reg.addr (newMap filename memory script)
      (Changed memory.cha.reg.addr (newMap filename memory script))
      ((ovLoadFirmware filename).run memory script).ending
      (callsAfter filename memory script)
      ((ovLoadFirmware filename).run memory script).state := by
  have start :
      Still memory.cha.reg.addr (newMap filename memory script) Untroubled []
        ((accepting filename).run memory script).state :=
    ⟨⟨by simp [UsesMap], congrArg Reg.addr (accepting_reg accepted), rfl⟩,
      by simp [Untroubled]⟩
  have ends :=
    finishing_ends start ((accepting filename).run memory script).rest
  have goesOn := ovLoadFirmware_goesOn accepted
  rw [Program.GoesOn] at goesOn
  rw [callsAfter, goesOn, List.drop_left]
  exact ends

/--
Once the bitstream is accepted, a load that ends agrees with the new map if
and only if the maps are the same, or have the same address of the register
and no call on channel A fails; one that has not ended, if and only if the
address is the same or there was no request.
-/
theorem agrees_iff (filename : Option String) (memory : Memory)
    (script : List Answer)
    (accepted :
      ((accepting filename).run memory script).ending = .returned ()) :
    (¬ ((ovLoadFirmware filename).run memory script).ending.Waiting →
      (Agrees (newMap filename memory script)
          (callsAfter filename memory script)
          ((ovLoadFirmware filename).run memory script) ↔
        memory.cha.reg.addr = newMap filename memory script ∨
          readGoAddress memory.cha.reg.addr =
              readGoAddress (newMap filename memory script) ∧
            Untroubled (callsAfter filename memory script))) ∧
    (((ovLoadFirmware filename).run memory script).ending.Waiting →
      (Agrees (newMap filename memory script)
          (callsAfter filename memory script)
          ((ovLoadFirmware filename).run memory script) ↔
        readGoAddress memory.cha.reg.addr =
            readGoAddress (newMap filename memory script) ∨
          ∀ entry ∈ callsAfter filename memory script,
            ¬ IsRequest entry.1)) :=
  ⟨agrees_iff_of_finished (ovLoadFirmware_ends accepted),
    agrees_iff_of_waiting (ovLoadFirmware_ends accepted)⟩

/-- A map with the address 1 for all registers. -/
def allAtOne : Memory :=
  { Memory.zeroed with cha.reg := ⟨none, fun _ => 1⟩ }

/-- A load without an error, the register being at address 1 in both maps. -/
theorem agrees_same_address :
    Agrees
      (newMap (some "ov3.fwpkg") allAtOne
        (smallLoad 0x31 (syncMessage 0x8001)))
      (callsAfter (some "ov3.fwpkg") allAtOne
        (smallLoad 0x31 (syncMessage 0x8001)))
      ((ovLoadFirmware (some "ov3.fwpkg")).run allAtOne
        (smallLoad 0x31 (syncMessage 0x8001))) := by
  have iffs :=
    agrees_iff (some "ov3.fwpkg") allAtOne
      (smallLoad 0x31 (syncMessage 0x8001)) (by decide +kernel)
  have returned :
      ((ovLoadFirmware (some "ov3.fwpkg")).run allAtOne
        (smallLoad 0x31 (syncMessage 0x8001))).ending = .returned () := by
    decide +kernel
  refine (iffs.1 ?_).mpr (Or.inr ⟨?_, ?_⟩)
  · rw [returned]
    exact id
  · decide +kernel
  · decide +kernel

/-- A load without an error, the register moving from address 0 to 1. -/
theorem old_map_used :
    ¬ ∀ (filename : Option String) (memory : Memory) (script : List Answer),
        ((accepting filename).run memory script).ending = .returned () →
          Agrees (newMap filename memory script)
            (callsAfter filename memory script)
            ((ovLoadFirmware filename).run memory script) := by
  intro claim
  have agrees :=
    claim (some "ov3.fwpkg") Memory.zeroed
      (smallLoad 0x31 (syncMessage 0x8000)) (by decide +kernel)
  exact absurd agrees.requests (by decide +kernel)

end OpenVizsla.Device.MapChange
