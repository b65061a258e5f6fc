import OpenVizsla.Device.Traces

/-!
# Error strings of failed calls

A function of the interface that fails leaves an error string that the failed
step has set.  The exception is the start-up loop of `bit_load_firmware`: when
one of its calls fails, `bit->error_str` is not set, and the error string of
the device becomes what happens to be on the stack.
-/

namespace OpenVizsla.Device.ErrorStrings

open OpenVizsla.Foundation.Calls
open OpenVizsla.Device.State
open OpenVizsla.Device.Cha
open OpenVizsla.Device.Chb
open OpenVizsla.Device.Bit
open OpenVizsla.Device.Fwpkg
open OpenVizsla.Device.Ov
open OpenVizsla.Device.Upkeep

/-! ## The start-up loop -/

/-- The call is one of the start-up loop of `bit_load_firmware`. -/
def InStartUp (before : List (Call × Answer)) (call : Call) : Prop :=
  call = startUpWrite ∨
    (∃ query, call = .ftdi .b query) ∧
      ∃ entry ∈ before, entry.1 = startUpWrite

/-- A call of the start-up loop has failed. -/
def StartUpFailure (history : List (Call × Answer)) : Prop :=
  ∃ before call answer, before ++ [(call, answer)] <+: history ∧
    InStartUp before call ∧ answer.ret < 0

/-- The start-up loop has not begun. -/
def Quiet (history : List (Call × Answer)) : Prop :=
  ∀ entry ∈ history, entry.1 ≠ startUpWrite

/-- No call of the start-up loop has failed. -/
def Spared (history : List (Call × Answer)) : Prop :=
  ¬ StartUpFailure history

variable {history : List (Call × Answer)} {call : Call} {answer : Answer}

theorem startUpFailure_concat :
    StartUpFailure (history ++ [(call, answer)]) ↔
      StartUpFailure history ∨ InStartUp history call ∧ answer.ret < 0 := by
  constructor
  · rintro ⟨before, call', answer', first, inside, negative⟩
    rcases List.prefix_concat_iff.mp first with same | first
    · obtain ⟨rfl, last⟩ := List.append_inj' same rfl
      cases last
      exact Or.inr ⟨inside, negative⟩
    · exact Or.inl ⟨before, call', answer', first, inside, negative⟩
  · rintro (⟨before, call', answer', first, failure⟩ | failure)
    · exact ⟨before, call', answer',
        first.trans (List.prefix_append _ _), failure⟩
    · exact ⟨history, call, answer, List.prefix_refl _, failure⟩

theorem Quiet.concat (quiet : Quiet history) (other : call ≠ startUpWrite) :
    Quiet (history ++ [(call, answer)]) := by
  intro entry member
  rcases List.mem_append.mp member with member | last
  · exact quiet entry member
  · rw [List.mem_singleton.mp last]
    exact other

theorem Quiet.spared (quiet : Quiet history) : Spared history := by
  rintro ⟨before, call, answer, first, inside, _⟩
  rcases inside with rfl | ⟨_, entry, member, started⟩
  · exact quiet (startUpWrite, answer)
      (first.subset (List.mem_append_right _ (List.mem_singleton_self _)))
      rfl
  · exact quiet entry (first.subset (List.mem_append_left _ member)) started

theorem Spared.concat_of_natural (spared : Spared history)
    (natural : 0 ≤ answer.ret) : Spared (history ++ [(call, answer)]) := by
  intro failure
  rcases startUpFailure_concat.mp failure with failure | ⟨_, negative⟩
  · exact spared failure
  · exact absurd negative (Int.not_lt.mpr natural)

theorem Spared.concat_of_outside (spared : Spared history)
    (outside : ¬ InStartUp history call) :
    Spared (history ++ [(call, answer)]) := by
  intro failure
  rcases startUpFailure_concat.mp failure with failure | ⟨inside, _⟩
  · exact spared failure
  · exact outside inside

theorem startUpWrite_ne_of_ordinary {channel : Channel} {call : FtdiCall}
    (ordinary : Ordinary call) : Call.ftdi channel call ≠ startUpWrite := by
  intro same
  cases same
  exact ordinary rfl

theorem startUpWrite_ne_of_onFiles (onFiles : OnFiles call) :
    call ≠ startUpWrite := by
  rintro rfl
  exact onFiles

/-! ## What holds before a failure and after it -/

/-- A property of the calls that outlives those outside the start-up loop. -/
structure Steady (Kept : List (Call × Answer) → Prop) : Prop where
  cha :
    ∀ {call history} answer, Ordinary call → Kept history →
      Kept (history ++ [(.ftdi .a call, answer)])
  file :
    ∀ {call history} answer, OnFiles call → Kept history →
      Kept (history ++ [(call, answer)])
  spared : ∀ {history}, Kept history → Spared history

theorem steady_quiet : Steady Quiet where
  cha := fun _ ordinary quiet =>
    quiet.concat (startUpWrite_ne_of_ordinary ordinary)
  file := fun _ onFiles quiet =>
    quiet.concat (startUpWrite_ne_of_onFiles onFiles)
  spared := Quiet.spared

theorem steady_spared : Steady Spared where
  cha := by
    intro call history answer ordinary spared
    apply spared.concat_of_outside
    rintro (same | ⟨⟨_, same⟩, _⟩)
    · exact startUpWrite_ne_of_ordinary ordinary same
    · cases same
  file := by
    intro call history answer onFiles spared
    apply spared.concat_of_outside
    rintro (same | ⟨⟨_, rfl⟩, _⟩)
    · exact startUpWrite_ne_of_onFiles onFiles same
    · exact onFiles
  spared := id

/--
The error string of the device is one that was set.  While a firmware is being
loaded, that of the bitstream is not.
-/
structure Valid (Kept : List (Call × Answer) → Prop) (loading : Prop)
    (history : List (Call × Answer)) (memory : Memory) : Prop where
  kept : Kept history
  set : memory.errorStr.origin ≠ .uninitialised
  unset : loading → memory.bit.errorStr.origin = .uninitialised

/-- A function has failed and has set its own error string. -/
structure Named (errorStr : Memory → ErrorStr)
    (Kept : List (Call × Answer) → Prop) (loading : Prop)
    (history : List (Call × Answer)) (memory : Memory) : Prop
    extends Valid Kept loading history memory where
  fresh : (errorStr memory).origin = .fresh

/-- A step has failed and the device has its message. -/
structure Told (Kept : List (Call × Answer) → Prop)
    (history : List (Call × Answer)) (memory : Memory) : Prop where
  kept : Kept history
  fresh : memory.errorStr.origin = .fresh

/-- The start-up loop has failed and the device has no message. -/
structure Silent (history : List (Call × Answer)) (memory : Memory) :
    Prop where
  failure : StartUpFailure history
  garbage : memory.errorStr.origin = .uninitialised

/-- The device has a message, or the start-up loop has failed. -/
def Settled (history : List (Call × Answer)) (memory : Memory) : Prop :=
  Told Spared history memory ∨ Silent history memory

/-- What holds at the end of every run. -/
def Accounted (history : List (Call × Answer)) (memory : Memory) : Prop :=
  Valid Spared False history memory ∨ Silent history memory

theorem Told.settled {Kept : List (Call × Answer) → Prop}
    (steady : Steady Kept) {memory : Memory} (told : Told Kept history memory) :
    Settled history memory :=
  Or.inl ⟨steady.spared told.kept, told.fresh⟩

theorem Told.set {Kept : List (Call × Answer) → Prop} {memory : Memory}
    (told : Told Kept history memory) :
    memory.errorStr.origin ≠ .uninitialised := by
  rw [told.fresh]
  exact Origin.noConfusion

theorem Settled.accounted {memory : Memory}
    (settled : Settled history memory) : Accounted history memory :=
  settled.imp_left fun told => ⟨told.kept, told.set, False.elim⟩

theorem Valid.accounted {Kept : List (Call × Answer) → Prop}
    (steady : Steady Kept) {loading : Prop} {memory : Memory}
    (valid : Valid Kept loading history memory) : Accounted history memory :=
  Or.inl ⟨steady.spared valid.kept, valid.set, False.elim⟩

/-! ## Functions outside the start-up loop -/

section Steady

variable {Kept : List (Call × Answer) → Prop} (steady : Steady Kept)
    {loading : Prop}
include steady

theorem Steady.channelA :
    ChaUpkeep (Valid Kept loading) (Named chaErrorStr Kept loading) where
  call := fun answer ofChannel valid =>
    { valid with kept := steady.cha answer ofChannel.ordinary valid.kept }
  fail := fun _ valid => ⟨⟨valid.kept, valid.set, valid.unset⟩, rfl⟩

theorem Steady.loader :
    BitUpkeep (Valid Kept True) (Named bitErrorStr Kept False) where
  call := fun answer ordinary valid =>
    { valid with kept := steady.cha answer ordinary valid.kept }
  fail := fun _ valid => ⟨⟨valid.kept, valid.set, False.elim⟩, rfl⟩

theorem Steady.package (package : Package) :
    FwpkgUpkeep package (Valid Kept loading)
      (Named (fun memory => (package.get memory).errorStr) Kept loading) where
  call := fun answer onFiles valid =>
    { valid with kept := steady.file answer onFiles valid.kept }
  store := fun _ valid => by
    cases package <;> exact ⟨valid.kept, valid.set, valid.unset⟩
  fail := fun _ valid => by
    cases package <;> exact ⟨⟨valid.kept, valid.set, valid.unset⟩, rfl⟩
  closes := fun answer onFiles named =>
    { named with kept := steady.file answer onFiles named.kept }
  weaken := Named.toValid

theorem Steady.registerMap :
    RegUpkeep .stack (Valid Kept loading)
      (Named (fun memory => memory.stackFwpkg.errorStr) Kept loading)
      (Named (fun memory => memory.stackReg.errorStr) Kept loading) where
  file := steady.package .stack
  store := fun _ valid => ⟨valid.kept, valid.set, valid.unset⟩
  fail := fun _ valid => ⟨⟨valid.kept, valid.set, valid.unset⟩, rfl⟩
  unread := fun named =>
    ⟨⟨named.kept, named.set, named.unset⟩, named.fresh⟩
  closes := fun answer onFiles named =>
    { named with kept := steady.file answer onFiles named.kept }
  weaken := Named.toValid

omit steady in
theorem valid_aged {memory : Memory}
    (valid : Valid Kept loading history memory) :
    Valid Kept loading history memory.aged := by
  refine ⟨valid.kept, valid.set, fun now => ?_⟩
  have unset := valid.unset now
  simp [Memory.aged, ErrorStr.aged, unset]

omit steady in
/-- A step that fails with its own error string is reported. -/
theorem reporting_told {α : Type} {errorStr : Memory → ErrorStr}
    {loading' : Prop} {step : Action α}
    (upholds :
      step.Upholds (Valid Kept loading) (Named errorStr Kept loading')) :
    (reporting errorStr step).Upholds (Valid Kept loading) (Told Kept) :=
  reporting_upholds (fun _ _ => valid_aged) upholds
    fun _ _ named => ⟨named.kept, named.fresh⟩

end Steady

theorem quiet_channelB {loading : Prop} :
    ChbUpkeep (Valid Quiet loading) (Named chbErrorStr Quiet loading) where
  call := fun _ ordinary valid =>
    { valid with
      kept := valid.kept.concat (startUpWrite_ne_of_ordinary ordinary) }
  fail := fun _ valid => ⟨⟨valid.kept, valid.set, valid.unset⟩, rfl⟩

theorem quiet_opening (channel : Channel) {errorStr : Memory → ErrorStr} :
    OpenUpkeep channel (Valid Quiet False) (Named errorStr Quiet False) where
  opens := fun _ valid =>
    { valid with kept := valid.kept.concat (by simp [startUpWrite]) }
  closes := fun _ named =>
    { named with kept := named.kept.concat (by simp [startUpWrite]) }
  weaken := Named.toValid

/-! ## Endings -/

/-- How a function ends that may come upon the start-up loop. -/
def Ends {α : Type} (Done : List (Call × Answer) → Memory → Prop) :
    Post Call Answer Memory α
  | .returned _ => Done
  | .stopped .failed => Settled
  | _ => Accounted

variable {Done Next : List (Call × Answer) → Memory → Prop}
    {memory : Memory} {α β : Type}

theorem Ends.accounted {ending : Ending Call α}
    (done : ∀ history memory, Done history memory → Accounted history memory)
    (ends : Ends Done ending history memory) : Accounted history memory := by
  match ending, ends with
  | .returned _, ends => exact done _ _ ends
  | .stopped .failed, settled => exact Settled.accounted settled
  | .stopped .aborted, ends => exact ends
  | .stopped (.waiting _), ends => exact ends

theorem ends_bind {first : Action α} {next : α → Action β}
    (meets : first.Meets (Ends Next) history memory)
    (meetsNext :
      ∀ value history memory, Next history memory →
        (next value).Meets (Ends Done) history memory) :
    (first >>= next).Meets (Ends Done) history memory := by
  refine Program.meets_bind (meets.mono fun ending history memory ends => ?_)
  match ending, ends with
  | .returned value, next => exact meetsNext value history memory next
  | .stopped .failed, settled => exact settled
  | .stopped .aborted, accounted => exact accounted
  | .stopped (.waiting _), accounted => exact accounted

/-- A function without the start-up loop. -/
theorem ends_of_upholds {Kept : List (Call × Answer) → Prop}
    (steady : Steady Kept) {loading : Prop} {program : Action α}
    (upholds : program.Upholds (Valid Kept loading) (Told Kept))
    (valid : Valid Kept loading history memory) :
    program.Meets (Ends (Valid Kept loading)) history memory := by
  refine (upholds history memory valid).mono
    fun ending history memory upheld => ?_
  match ending, upheld with
  | .returned _, valid => exact valid
  | .stopped .failed, told => exact told.settled steady
  | .stopped .aborted, valid => exact valid.accounted steady
  | .stopped (.waiting _), valid => exact valid.accounted steady

/-- Cleaning up changes nothing about the error string. -/
theorem ends_unwinding {program : Action α} {cleanup : Action β}
    (meets : program.Meets (Ends Done) history memory)
    (cleans : cleanup.Upholds Settled Settled) :
    (Program.unwinding program cleanup).Meets (Ends Done) history memory := by
  refine Program.meets_unwinding
    (meets.mono fun ending history memory ends => ?_)
  match ending, ends with
  | .returned _, done => exact done
  | .stopped .aborted, accounted => exact accounted
  | .stopped (.waiting _), accounted => exact accounted
  | .stopped .failed, settled =>
      refine (cleans history memory settled).mono
        fun ending history memory settled => ?_
      match ending, settled with
      | .returned _, settled => exact settled
      | .stopped .failed, settled => exact settled
      | .stopped .aborted, settled => exact Settled.accounted settled
      | .stopped (.waiting _), settled => exact Settled.accounted settled

/-! ### Cleaning up -/

theorem Silent.concat {memory : Memory} (silent : Silent history memory) :
    Silent (history ++ [(call, answer)]) memory :=
  { silent with failure := startUpFailure_concat.mpr (Or.inl silent.failure) }

theorem settled_channelA : ChaUpkeep Settled Settled where
  call := by
    intro call history memory answer ofChannel settled
    have ordinary := ofChannel.ordinary
    exact settled.imp
      (fun told =>
        { told with kept := steady_spared.cha answer ordinary told.kept })
      Silent.concat
  fail := fun _ settled =>
    settled.imp (fun told => ⟨told.kept, told.fresh⟩)
      fun silent => ⟨silent.failure, silent.garbage⟩

theorem Settled.file {memory : Memory} (settled : Settled history memory)
    {call : Call} (onFiles : OnFiles call) (answer : Answer) :
    Settled (history ++ [(call, answer)]) memory :=
  settled.imp
    (fun told =>
      { told with kept := steady_spared.file answer onFiles told.kept })
    Silent.concat

theorem freeTmp_settled : freeTmp.Upholds Settled Settled := by
  refine freeTmp_upholds (fun _ _ ptr answer settled => ?_) ?_
  · exact settled.file (show OnFiles (.free ptr) from trivial) answer
  · exact fun _ _ _ settled =>
      settled.imp (fun told => ⟨told.kept, told.fresh⟩)
        fun silent => ⟨silent.failure, silent.garbage⟩

theorem abandonFpga_settled : abandonFpga.Upholds Settled Settled :=
  Program.upholds_bind
    (Program.upholds_attempt (chaSwitchFifoMode_upholds settled_channelA))
    fun _ => freeTmp_settled

theorem fwpkgDestroy_settled :
    (fwpkgDestroy .stack).Upholds Settled Settled :=
  fwpkgDestroy_upholds fun _ _ pkg answer settled =>
    settled.file (show OnFiles (.zipDiscard pkg) from trivial) answer

/-! ## The start-up loop and what leads to it -/

/-- The start-up loop has begun and none of its calls has failed. -/
structure Started (history : List (Call × Answer)) (memory : Memory) : Prop
    extends Valid Spared True history memory where
  begun : ∃ entry ∈ history, entry.1 = startUpWrite

/-- A call of the start-up loop has failed. -/
structure Broken (history : List (Call × Answer)) (memory : Memory) :
    Prop where
  failure : StartUpFailure history
  unset : memory.bit.errorStr.origin = .uninitialised

theorem Started.query {memory : Memory} (started : Started history memory)
    {query : FtdiCall} (natural : 0 ≤ answer.ret) :
    Started (history ++ [(.ftdi .b query, answer)]) memory where
  kept := started.kept.concat_of_natural natural
  set := started.set
  unset := started.unset
  begun := by
    obtain ⟨entry, member, same⟩ := started.begun
    exact ⟨entry, List.mem_append_left _ member, same⟩

theorem Started.broken {memory : Memory} (started : Started history memory)
    {query : FtdiCall} (negative : answer.ret < 0) (text : String) :
    Broken (history ++ [(.ftdi .b query, answer)])
      { memory with chb.errorStr := ErrorStr.set text } where
  failure :=
    startUpFailure_concat.mpr
      (Or.inr ⟨Or.inr ⟨⟨query, rfl⟩, started.begun⟩, negative⟩)
  unset := started.unset trivial

/-- How the parts of the start-up loop end whose result may be negative. -/
def Rounds (Going : List (Call × Answer) → Memory → Prop) (ret : α → Int) :
    Post Call Answer Memory α
  | .returned value => tried Going Broken (ret value)
  | .stopped .failed => Broken
  | _ => Valid Spared True

theorem chbGetHigh_rounds {memory : Memory} (status : UInt8)
    (started : Started history memory) :
    (chbGetHigh status).Meets (Rounds Started fun _ => 0) history memory := by
  refine chbFtdi_bind_meets started.toValid
    (fun answer negative => started.broken negative _) fun asked written => ?_
  have asking :
      Started (history ++ [(.ftdi .b (.writeData [getBitsHigh]), asked)])
        memory :=
    started.query written
  refine chbFtdi_bind_meets asking.toValid
    (fun answer negative => asking.broken negative _) fun heard read => ?_
  exact Program.meets_pure (asking.query read)

theorem chbGetHighRet_rounds {memory : Memory} (status : UInt8)
    (started : Started history memory) :
    (chbGetHighRet status).Meets (Rounds Started Prod.fst)
      history memory := by
  refine Program.meets_bind (Program.meets_attempt
    ((chbGetHigh_rounds status started).mono ?_))
  intro ending history memory rounds
  match ending, rounds with
  | .returned status, started => exact Program.meets_pure started
  | .stopped .failed, broken => exact Program.meets_pure broken
  | .stopped .aborted, valid => exact valid
  | .stopped (.waiting _), valid => exact valid

theorem awaitDone_rounds (left : Nat) :
    ∀ (status : UInt8) (history : List (Call × Answer)) (memory : Memory),
      Valid Spared True history memory →
        (awaitDone left status).Meets (Rounds (Valid Spared True) Tries.ret)
          history memory := by
  induction left with
  | zero => exact fun status history memory valid => Program.meets_pure valid
  | succ left ih =>
      intro status history memory valid
      refine Program.meets_bind_call valid fun written => ?_
      split
      case isFalse stops =>
          apply Program.meets_pure
          change tried _ _ written.ret _ _
          rw [tried]
          split
          case isTrue negative =>
              exact ⟨startUpFailure_concat.mpr
                (Or.inr ⟨Or.inl rfl, negative⟩), valid.unset trivial⟩
          case isFalse natural =>
              exact { valid with
                kept := valid.kept.concat_of_natural
                  (Int.not_lt.mp natural) }
      case isTrue positive =>
          have started :
              Started (history ++ [(startUpWrite, written)]) memory :=
            { valid with
              kept := valid.kept.concat_of_natural positive.lt.le
              begun := ⟨_, List.mem_append_right _
                (List.mem_singleton_self _), rfl⟩ }
          refine Program.meets_bind
            ((chbGetHighRet_rounds status started).mono
              fun ending history memory rounds => ?_)
          cases ending with
          | stopped reason => cases reason <;> exact rounds
          | returned pair =>
              obtain ⟨ret, status⟩ := pair
              have turned := rounds
              dsimp only [Rounds, Post.before] at turned ⊢
              split
              case isTrue again =>
                  rw [again.1] at turned
                  exact ih _ _ _ (Started.toValid turned)
              case isFalse =>
                  apply Program.meets_pure
                  change tried _ _ ret _ _
                  rw [tried] at turned ⊢
                  split
                  case isTrue negative =>
                      rwa [if_pos negative] at turned
                  case isFalse natural =>
                      rw [if_neg natural] at turned
                      exact turned.toValid

/-- How `bit_load_firmware` ends. -/
def Loading : Post Call Answer Memory α
  | .stopped .failed => fun history memory =>
      Named bitErrorStr Spared False history memory ∨ Broken history memory
  | _ => Valid Spared True

theorem startUp_meets {memory : Memory}
    (valid : Valid Spared True history memory) :
    startUp.Meets Loading history memory := by
  refine Program.meets_bind ((awaitDone_rounds 3 0 _ _ valid).mono
    fun ending history memory rounds => ?_)
  match ending, rounds with
  | .stopped .failed, broken => exact Or.inr broken
  | .stopped .aborted, valid => exact valid
  | .stopped (.waiting _), valid => exact valid
  | .returned tries, turned =>
      dsimp only [Rounds, Post.before] at turned ⊢
      rw [tried] at turned
      split at turned
      case isTrue negative =>
          rw [if_pos negative]
          exact Program.meets_fail (Or.inr turned)
      case isFalse natural =>
          rw [if_neg natural]
          split
          · exact Program.meets_bind_modify (Program.meets_fail
              (Or.inl ⟨⟨turned.kept, turned.set, False.elim⟩, rfl⟩))
          · exact Program.meets_pure turned

theorem loading_bind {first : Action α} {next : α → Action β}
    {memory : Memory}
    (upholds :
      first.Upholds (Valid Quiet True) (Named bitErrorStr Quiet False))
    (valid : Valid Quiet True history memory)
    (meetsNext :
      ∀ value history memory, Valid Quiet True history memory →
        (next value).Meets Loading history memory) :
    (first >>= next).Meets Loading history memory := by
  refine Program.meets_bind ((upholds history memory valid).mono
    fun ending history memory upheld => ?_)
  have spared :
      Valid Quiet True history memory → Valid Spared True history memory :=
    fun valid => { valid with kept := valid.kept.spared }
  match ending, upheld with
  | .returned value, valid => exact meetsNext value history memory valid
  | .stopped .failed, named =>
      exact Or.inl { named with kept := named.kept.spared }
  | .stopped .aborted, valid => exact spared valid
  | .stopped (.waiting _), valid => exact spared valid

theorem bitLoadFirmware_meets {memory : Memory}
    (valid : Valid Quiet True history memory) :
    bitLoadFirmware.Meets Loading history memory := by
  apply Program.meets_bind_get
  refine loading_bind (submitAll_upholds steady_quiet.loader _ _ _) valid
    fun tc history memory valid => ?_
  refine loading_bind (transferDone_upholds steady_quiet.loader _) valid
    fun _ history memory valid => ?_
  exact startUp_meets { valid with kept := valid.kept.spared }

/-! ## Loading a firmware -/

theorem bitInit_named (data : List UInt8) :
    (bitInit data).Upholds (Valid Quiet True)
      (Named bitErrorStr Quiet False) := by
  apply bitInit_upholds
  case store =>
      intro history memory bit same valid
      refine ⟨valid.kept, valid.set, fun loading => ?_⟩
      rw [same]
      exact valid.unset loading
  case fails =>
      intro history memory bit fresh valid
      exact ⟨⟨valid.kept, valid.set, False.elim⟩, fresh⟩

theorem freeTmp_told {Kept : List (Call × Answer) → Prop}
    (steady : Steady Kept) {loading : Prop} :
    freeTmp.Upholds (Valid Kept loading) (Told Kept) :=
  freeTmp_upholds
    (fun _ _ _ answer valid =>
      (steady.package .stack).call answer (by trivial) valid)
    fun _ _ _ valid => ⟨valid.kept, valid.set, valid.unset⟩

theorem prepare_ends (package : Package) {memory : Memory}
    (valid : Valid Quiet False history memory) :
    (prepare package).Meets (Ends (Valid Quiet True)) history memory := by
  have quiet := steady_quiet
  apply Program.meets_bind_modify
  have declared :
      Valid Quiet True history
        { memory with tmp := 0, bit.errorStr := ErrorStr.garbage } :=
    ⟨valid.kept, valid.set, fun _ => rfl⟩
  refine ends_bind
    (ends_of_upholds quiet
      (fwpkgBitstreamSize_upholds (quiet.package package)) declared)
    fun size history memory valid => ?_
  refine ends_bind
    (ends_of_upholds quiet
      (fileCall_upholds (quiet.package package) trivial) valid)
    fun tmp history memory valid => ?_
  split
  · exact Program.meets_bind_modify
      (Program.meets_fail (Told.settled quiet ⟨valid.kept, rfl⟩))
  apply Program.meets_bind_modify
  refine ends_unwinding (ends_of_upholds quiet ?_
    ⟨valid.kept, valid.set, valid.unset⟩) freeTmp_settled
  refine Program.upholds_bind
    (reporting_told
      (fwpkgReadBitstream_upholds (quiet.package package) _)) fun data => ?_
  exact Program.upholds_bind (reporting_told (bitInit_named data))
    fun _ => reporting_told (chaSwitchMode_upholds quiet.channelA _)

/-- The step of `bit_load_firmware`, which alone can leave no message. -/
theorem reporting_bitLoadFirmware_ends {memory : Memory}
    (valid : Valid Quiet True history memory) :
    (reporting bitErrorStr bitLoadFirmware).Meets
      (Ends (Valid Spared False)) history memory := by
  refine Program.meets_bind_modify (Program.meets_bind (Program.meets_attempt
    ((bitLoadFirmware_meets (valid_aged valid)).mono ?_)))
  intro ending history memory loading
  match ending, loading with
  | .returned _, valid =>
      exact Program.meets_pure ⟨valid.kept, valid.set, False.elim⟩
  | .stopped .failed, Or.inl named =>
      exact Program.meets_bind_modify
        (Program.meets_fail (Or.inl ⟨named.kept, named.fresh⟩))
  | .stopped .failed, Or.inr broken =>
      exact Program.meets_bind_modify
        (Program.meets_fail (Or.inr ⟨broken.failure, broken.unset⟩))
  | .stopped .aborted, valid => exact valid.accounted steady_spared
  | .stopped (.waiting _), valid => exact valid.accounted steady_spared

theorem programFpga_ends {memory : Memory}
    (valid : Valid Quiet True history memory) :
    programFpga.Meets (Ends (Valid Spared False)) history memory := by
  have spared := steady_spared
  refine ends_bind
    (ends_of_upholds steady_quiet
      (reporting_told (chbSwitchProgramMode_upholds quiet_channelB)) valid)
    fun _ history memory valid => ?_
  refine ends_bind (reporting_bitLoadFirmware_ends valid)
    fun _ history memory valid => ?_
  refine ends_of_upholds spared ?_ valid
  exact Program.upholds_bind (freeTmp_told spared) fun _ =>
    reporting_told (chaSwitchFifoMode_upholds spared.channelA)

theorem ovLoadFirmwareFromFwpkg_ends (package : Package) {memory : Memory}
    (valid : Valid Quiet False history memory) :
    (ovLoadFirmwareFromFwpkg package).Meets (Ends (Valid Spared False))
      history memory :=
  ends_bind (prepare_ends package valid) fun _ _ _ valid =>
    ends_unwinding (programFpga_ends valid) abandonFpga_settled

/-! ## The interface -/

theorem entering_ends {function : Action α}
    (ends :
      ∀ memory, Valid Quiet False [] memory →
        function.Meets (Ends (Valid Spared False)) [] memory)
    (memory : Memory) :
    (entering function).Meets (Ends (Valid Spared False)) [] memory := by
  apply Program.meets_bind_modify
  exact ends _ ⟨by simp [Quiet], Origin.noConfusion, False.elim⟩

theorem ovOpen_ends (memory : Memory) :
    ovOpen.Meets (Ends (Valid Spared False)) [] memory := by
  have quiet := steady_quiet
  have spared := steady_spared
  refine entering_ends (fun memory valid => ?_) memory
  refine ends_bind
    (ends_of_upholds quiet
      (reporting_told (chaOpen_upholds quiet.channelA (quiet_opening .a)))
      valid)
    fun _ history memory valid => ?_
  refine ends_bind
    (ends_of_upholds quiet
      (reporting_told (chbOpen_upholds quiet_channelB (quiet_opening .b)))
      valid)
    fun _ history memory valid => ?_
  refine ends_bind (ovLoadFirmwareFromFwpkg_ends .device valid)
    fun _ history memory valid => ?_
  refine ends_of_upholds spared ?_ valid
  exact Program.upholds_bind
    (reporting_told (chaSwitchFifoMode_upholds spared.channelA))
    fun _ => reporting_told (chaStopStream_upholds spared.channelA)

theorem chaSetReg_valid {Kept : List (Call × Answer) → Prop} {loading : Prop}
    (reg : StackReg) :
    (chaSetReg reg).Upholds (Valid Kept loading)
      (Named chaErrorStr Kept loading) :=
  Program.upholds_modify fun _ _ valid =>
    ⟨valid.kept, valid.set, valid.unset⟩

theorem ovLoadFirmware_ends (filename : Option String) (memory : Memory) :
    (ovLoadFirmware filename).Meets (Ends (Valid Spared False)) []
      memory := by
  have quiet := steady_quiet
  have spared := steady_spared
  refine entering_ends (fun memory valid => ?_) memory
  apply Program.meets_bind_modify
  refine ends_bind
    (ends_of_upholds quiet
      (reporting_told (fwpkgInit_upholds (quiet.package .stack) filename))
      ⟨valid.kept, valid.set, False.elim⟩)
    fun _ history memory valid => ?_
  refine ends_bind (ends_unwinding ?_ fwpkgDestroy_settled)
    fun _ history memory valid =>
      ends_of_upholds spared
        (fwpkgDestroy_upholds fun _ _ _ answer valid =>
          (spared.package .stack).call answer (by trivial) valid) valid
  refine ends_bind
    (ends_of_upholds quiet
      (reporting_told (regInitFromFwpkg_upholds quiet.registerMap)) valid)
    fun _ history memory valid => ?_
  refine ends_bind (ovLoadFirmwareFromFwpkg_ends .stack valid)
    fun _ history memory valid => ?_
  refine ends_of_upholds spared ?_ valid
  exact Program.upholds_get fun memory =>
    reporting_told (chaSetReg_valid memory.stackReg)

theorem call_valid (other : call ≠ startUpWrite) :
    (Program.call call : Action Answer).Upholds (Valid Quiet False)
      (Named chaErrorStr Quiet False) :=
  Program.upholds_call fun _ _ _ valid =>
    { valid with kept := valid.kept.concat other }

theorem freeTransfers_named (i : Nat) :
    (freeTransfers i).Upholds (Named chaErrorStr Quiet False)
      (Named chaErrorStr Quiet False) := by
  induction i with
  | zero => exact Program.upholds_pure
  | succ i ih =>
      refine Program.upholds_get fun memory => ?_
      refine Program.upholds_bind ?_ fun _ => ih
      exact Program.upholds_call fun _ _ _ named =>
        { named with kept := named.kept.concat (by simp [startUpWrite]) }

theorem failFreeing_named (text : String) (i : Nat) :
    (failFreeing text i).Upholds (Valid Quiet False)
      (Named chaErrorStr Quiet False) :=
  Program.upholds_unwinding (chaFail_upholds steady_quiet.channelA text)
    (Program.cleans_of_upholds (freeTransfers_named i)
      fun _ _ => Named.toValid)

theorem allocTransfers_named (left : Nat) :
    ∀ i, (allocTransfers left i).Upholds (Valid Quiet False)
      (Named chaErrorStr Quiet False) := by
  induction left with
  | zero => exact fun i => Program.upholds_pure
  | succ left ih =>
      intro i
      refine Program.upholds_bind (call_valid (by simp [startUpWrite]))
        fun tx => Program.upholds_ite (failFreeing_named _ _) ?_
      refine Program.upholds_bind
        (Program.upholds_modify fun _ _ valid =>
          ⟨valid.kept, valid.set, valid.unset⟩) fun _ => ?_
      exact Program.upholds_bind (call_valid (by simp [startUpWrite]))
        fun buffer => Program.upholds_ite (failFreeing_named _ _) (ih _)

/-! ## Error strings -/

/--
The error string of the device was set at some time, and if the call has
failed, by the step that failed.
-/
structure Reported (outcome : Outcome Call Answer Memory α) : Prop where
  set : outcome.state.errorStr.origin ≠ .uninitialised
  fresh :
    outcome.ending = .stopped .failed →
      outcome.state.errorStr.origin = .fresh

theorem error_reported_iff_of_ends {function : Action α} {memory : Memory}
    (ends : function.Meets (Ends (Valid Spared False)) [] memory)
    (script : List Answer) :
    Reported (function.run memory script) ↔
      Spared (function.run memory script).calls := by
  have ended := ends script
  rw [List.nil_append] at ended
  have accounted := ended.accounted fun _ _ => Or.inl
  rcases accounted with valid | silent
  · refine iff_of_true ⟨valid.set, fun failed => ?_⟩ valid.kept
    rw [failed] at ended
    rcases ended with told | silent
    · exact told.fresh
    · exact absurd silent.garbage valid.set
  · exact iff_of_false (fun reported => reported.set silent.garbage)
      fun spared => spared silent.failure

/-- The functions that load no firmware always report. -/
theorem reported_of_upholds {function : Action α}
    (upholds : function.Upholds (Valid Quiet False) (Told Quiet))
    (memory : Memory) (script : List Answer) :
    Reported ((entering function).run memory script) := by
  have meets :
      (entering function).Meets
        (Program.upheld (Valid Quiet False) (Told Quiet)) [] memory :=
    Program.meets_bind_modify
      (upholds _ _ ⟨by simp [Quiet], Origin.noConfusion, False.elim⟩)
  have ended := meets script
  generalize (entering function).run memory script = outcome at ended ⊢
  obtain ⟨calls, ending, state, rest⟩ := outcome
  match ending, ended with
  | .returned _, valid => exact ⟨valid.set, nofun⟩
  | .stopped .failed, told =>
      exact ⟨Told.set told, fun _ => Told.fresh told⟩
  | .stopped .aborted, valid => exact ⟨valid.set, nofun⟩
  | .stopped (.waiting _), valid => exact ⟨valid.set, nofun⟩

/--
`ov_open` and `ov_load_firmware` leave an error string of the failed step if
and only if no call of the start-up loop has failed, and the functions that
load no firmware always do.
-/
theorem error_reported_iff (memory : Memory) (script : List Answer) :
    (Reported (ovOpen.run memory script) ↔
        ¬ StartUpFailure (ovOpen.run memory script).calls) ∧
      (∀ filename,
        Reported ((ovLoadFirmware filename).run memory script) ↔
          ¬ StartUpFailure
            ((ovLoadFirmware filename).run memory script).calls) ∧
      Reported (ovCaptureStart.run memory script) ∧
      Reported (ovGetUsbSpeed.run memory script) ∧
      ∀ speed, Reported ((ovSetUsbSpeed speed).run memory script) := by
  have channelA :
      ChaUpkeep (Valid Quiet False) (Named chaErrorStr Quiet False) :=
    steady_quiet.channelA
  refine ⟨?_, fun filename => ?_, ?_, ?_, fun speed => ?_⟩
  · exact error_reported_iff_of_ends (ovOpen_ends memory) script
  · exact error_reported_iff_of_ends (ovLoadFirmware_ends filename memory)
      script
  · refine reported_of_upholds (Program.upholds_bind
      (reporting_told (allocTransfers_named 3 0)) fun _ => ?_) memory script
    exact reporting_told (chaStartStream_upholds channelA)
  · exact reported_of_upholds
      (reporting_told (chaGetUsbSpeed_upholds channelA)) memory script
  · exact reported_of_upholds
      (reporting_told (chaWriteUlpi_upholds channelA _ _)) memory script

/-- Opening a device when the first write of the start-up cycles fails. -/
theorem start_up_not_reported :
    ¬ ∀ (memory : Memory) (script : List Answer),
        Reported (ovOpen.run memory script) := by
  intro claim
  have reported :=
    claim Memory.zeroed
      (List.replicate 15 (counted 0) ++ smallPackage ++
        List.replicate 3 (counted 0) ++ [counted 0, delivered [0]] ++
        [counted 1, counted 0, counted (-1)] ++
        [counted (-1), counted 0])
  exact reported.set (by decide +kernel)

end OpenVizsla.Device.ErrorStrings
