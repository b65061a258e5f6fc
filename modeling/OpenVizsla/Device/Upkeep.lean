import OpenVizsla.Foundation.CallRules
import OpenVizsla.Device.Ov

/-!
# What the functions of the library uphold

A property of the calls and the memory outlives every function of a module as
soon as it outlives the calls the module makes and the memory it writes, its
error string above all.
-/

namespace OpenVizsla.Device.Upkeep

open OpenVizsla.Foundation.Calls
open OpenVizsla.Register.Map
open OpenVizsla.Register.Message
open OpenVizsla.Device.State
open OpenVizsla.Device.Cha
open OpenVizsla.Device.Chb
open OpenVizsla.Device.Bit
open OpenVizsla.Device.Fwpkg
open OpenVizsla.Device.Ov

/--
Neither opening nor closing a channel, nor the start-up cycles of the loader.
-/
def Ordinary : FtdiCall → Prop
  | .usbOpen _ _ => False
  | .usbClose => False
  | .writeData buf => buf ≠ List.replicate 8 0
  | _ => True

/-- An ordinary call that hands over no part of a bitstream. -/
def OfChannel : FtdiCall → Prop
  | .writeDataSubmit _ _ => False
  | call => Ordinary call

theorem OfChannel.ordinary {call : FtdiCall} (ofChannel : OfChannel call) :
    Ordinary call := by
  cases call <;> first | exact ofChannel | exact ofChannel.elim

theorem ordinary_of_length {buf : List UInt8} (length : buf.length ≠ 8) :
    Ordinary (.writeData buf) :=
  fun same => length (same ▸ List.length_replicate)

theorem ordinary_checked (addrHi addrLo value : UInt8) :
    Ordinary (.writeData (checked addrHi addrLo value)) :=
  ordinary_of_length (Nat.ne_of_beq_eq_false rfl)

theorem ordinary_initCycles :
    Ordinary (.writeData (List.replicate 512 0)) :=
  ordinary_of_length
    (List.length_replicate ▸ Nat.ne_of_beq_eq_false rfl)

/-! ## Calls of libftdi -/

theorem chaFtdi_bind_meets {α : Type} {call : FtdiCall}
    {next : Answer → Action α} {post : Post Call Answer Memory α}
    {history : List (Call × Answer)} {memory : Memory}
    (waits : post (.stopped (.waiting (.ftdi .a call))) history memory)
    (fails :
      ∀ answer, answer.ret < 0 →
        post (.stopped .failed) (history ++ [(.ftdi .a call, answer)])
          { memory with cha.errorStr := ErrorStr.set answer.text })
    (meets :
      ∀ answer, 0 ≤ answer.ret →
        (next answer).Meets post (history ++ [(.ftdi .a call, answer)])
          memory) :
    (chaFtdi call >>= next).Meets post history memory := by
  refine Program.meets_bind (Program.meets_bind_call waits fun answer => ?_)
  split
  case isTrue negative =>
      exact Program.meets_bind_modify
        (Program.meets_fail (fails answer negative))
  case isFalse natural =>
      exact Program.meets_pure (meets answer (Int.not_lt.mp natural))

theorem chbFtdi_bind_meets {α : Type} {call : FtdiCall}
    {next : Answer → Action α} {post : Post Call Answer Memory α}
    {history : List (Call × Answer)} {memory : Memory}
    (waits : post (.stopped (.waiting (.ftdi .b call))) history memory)
    (fails :
      ∀ answer, answer.ret < 0 →
        post (.stopped .failed) (history ++ [(.ftdi .b call, answer)])
          { memory with chb.errorStr := ErrorStr.set answer.text })
    (meets :
      ∀ answer, 0 ≤ answer.ret →
        (next answer).Meets post (history ++ [(.ftdi .b call, answer)])
          memory) :
    (chbFtdi call >>= next).Meets post history memory := by
  refine Program.meets_bind (Program.meets_bind_call waits fun answer => ?_)
  split
  case isTrue negative =>
      exact Program.meets_bind_modify
        (Program.meets_fail (fails answer negative))
  case isFalse natural =>
      exact Program.meets_pure (meets answer (Int.not_lt.mp natural))

variable {Going Failed : List (Call × Answer) → Memory → Prop}

/-! ## Channel A -/

/-- What the functions of channel A need of a property. -/
structure ChaUpkeep (Going Failed : List (Call × Answer) → Memory → Prop) :
    Prop where
  call :
    ∀ {call history memory} answer, OfChannel call → Going history memory →
      Going (history ++ [(.ftdi .a call, answer)]) memory
  fail :
    ∀ {history memory} text, Going history memory →
      Failed history { memory with cha.errorStr := ErrorStr.set text }

section ChannelA

variable (upkeep : ChaUpkeep Going Failed)
include upkeep

theorem chaFail_upholds {α : Type} (text : String) :
    (chaFail text : Action α).Upholds Going Failed :=
  Program.upholds_modify_fail fun _ _ => upkeep.fail text

theorem chaFtdi_upholds {call : FtdiCall} (ofChannel : OfChannel call) :
    (chaFtdi call).Upholds Going Failed :=
  Program.upholds_bind
    (Program.upholds_call fun _ _ answer => upkeep.call answer ofChannel)
    fun _ => Program.upholds_ite (chaFail_upholds upkeep _)
      Program.upholds_pure

theorem chaReadData_upholds (size : Nat) :
    (chaReadData size).Upholds Going Failed :=
  Program.upholds_bind (chaFtdi_upholds upkeep trivial) fun _ =>
    Program.upholds_pure

theorem chaSyncStream_upholds (addr : UInt16) :
    (chaSyncStream addr).Upholds Going Failed := by
  refine Program.upholds_bind (chaFtdi_upholds upkeep trivial) fun _ => ?_
  refine Program.upholds_bind
    (chaFtdi_upholds upkeep (ordinary_checked _ _ _)) fun _ => ?_
  refine Program.upholds_bind (Program.upholds_loop fun _ => ?_) fun _ => ?_
  · exact Program.upholds_bind (chaReadData_upholds upkeep 32) fun _ =>
      Program.upholds_pure
  · exact Program.upholds_bind (chaFtdi_upholds upkeep trivial) fun _ =>
      Program.upholds_pure

theorem chaTransaction_upholds (addr : UInt16) (inVal : UInt8) :
    (chaTransaction addr inVal).Upholds Going Failed := by
  refine Program.upholds_bind
    (chaFtdi_upholds upkeep (ordinary_checked _ _ _)) fun _ => ?_
  refine Program.upholds_bind (Program.upholds_loop fun _ => ?_) fun _ => ?_
  · exact Program.upholds_bind (chaReadData_upholds upkeep 5) fun _ =>
      Program.upholds_pure
  · exact Program.upholds_ite (chaFail_upholds upkeep _) Program.upholds_pure

theorem chaWriteReg_upholds (addr : UInt16) (val : UInt8) :
    (chaWriteReg addr val).Upholds Going Failed :=
  Program.upholds_bind (chaTransaction_upholds upkeep _ _) fun _ =>
    Program.upholds_pure

theorem chaWriteRegByName_upholds (name : RegName) (val : UInt8) :
    (chaWriteRegByName name val).Upholds Going Failed :=
  Program.upholds_get fun _ => chaWriteReg_upholds upkeep _ _

theorem chaReadRegByName_upholds (name : RegName) :
    (chaReadRegByName name).Upholds Going Failed :=
  Program.upholds_get fun _ => chaTransaction_upholds upkeep _ _

theorem chaCastRegByName_upholds (name : RegName) (val : UInt8) :
    (chaCastRegByName name val).Upholds Going Failed :=
  Program.upholds_get fun _ =>
    Program.upholds_bind (chaFtdi_upholds upkeep (ordinary_checked _ _ _))
      fun _ => Program.upholds_pure

theorem chaWriteReg32ByName_upholds (name : RegName) (val : UInt32) :
    (chaWriteReg32ByName name val).Upholds Going Failed :=
  Program.upholds_get fun _ => Program.upholds_loop fun _ =>
    Program.upholds_ite
      (Program.upholds_bind (chaWriteReg_upholds upkeep _ _) fun _ =>
        Program.upholds_pure)
      Program.upholds_pure

theorem chaSwitchMode_upholds (mode : Bitmode) :
    (chaSwitchMode mode).Upholds Going Failed := by
  refine Program.upholds_bind (chaFtdi_upholds upkeep trivial) fun _ => ?_
  refine Program.upholds_bind (chaFtdi_upholds upkeep trivial) fun _ => ?_
  refine Program.upholds_bind (chaFtdi_upholds upkeep trivial) fun _ => ?_
  exact Program.upholds_bind (chaFtdi_upholds upkeep trivial) fun _ =>
    Program.upholds_pure

theorem chaSwitchFifoMode_upholds :
    chaSwitchFifoMode.Upholds Going Failed := by
  refine Program.upholds_bind (chaSwitchMode_upholds upkeep _) fun _ => ?_
  refine Program.upholds_bind
    (chaFtdi_upholds upkeep ordinary_initCycles) fun _ => ?_
  exact Program.upholds_get fun _ => chaSyncStream_upholds upkeep _

theorem awaitUlpi_upholds (name : RegName) :
    (awaitUlpi name).Upholds Going Failed :=
  Program.upholds_loop fun _ =>
    Program.upholds_bind (chaReadRegByName_upholds upkeep name) fun _ =>
      Program.upholds_pure

theorem chaWriteUlpi_upholds (addr val : UInt8) :
    (chaWriteUlpi addr val).Upholds Going Failed := by
  refine Program.upholds_bind (chaWriteRegByName_upholds upkeep _ _)
    fun _ => ?_
  refine Program.upholds_bind (chaWriteRegByName_upholds upkeep _ _)
    fun _ => ?_
  exact awaitUlpi_upholds upkeep _

theorem chaGetUsbSpeed_upholds : chaGetUsbSpeed.Upholds Going Failed := by
  refine Program.upholds_bind ?_ fun _ => ?_
  · refine Program.upholds_bind (chaWriteRegByName_upholds upkeep _ _)
      fun _ => ?_
    refine Program.upholds_bind (awaitUlpi_upholds upkeep _) fun _ => ?_
    exact chaReadRegByName_upholds upkeep _
  · exact Program.upholds_ite Program.upholds_pure
      (Program.upholds_ite Program.upholds_pure
        (Program.upholds_ite Program.upholds_pure
          (chaFail_upholds upkeep _)))

theorem chaStartStream_upholds : chaStartStream.Upholds Going Failed := by
  refine Program.upholds_bind (chaWriteReg32ByName_upholds upkeep _ _)
    fun _ => ?_
  refine Program.upholds_bind (chaWriteReg32ByName_upholds upkeep _ _)
    fun _ => ?_
  refine Program.upholds_bind (chaWriteReg32ByName_upholds upkeep _ _)
    fun _ => ?_
  refine Program.upholds_bind (chaWriteReg32ByName_upholds upkeep _ _)
    fun _ => ?_
  refine Program.upholds_bind (chaWriteRegByName_upholds upkeep _ _)
    fun _ => ?_
  refine Program.upholds_bind (chaWriteRegByName_upholds upkeep _ _)
    fun _ => ?_
  refine Program.upholds_bind (chaWriteRegByName_upholds upkeep _ _)
    fun _ => ?_
  exact chaCastRegByName_upholds upkeep _ _

theorem chaStopStream_upholds : chaStopStream.Upholds Going Failed := by
  refine Program.upholds_bind (chaWriteRegByName_upholds upkeep _ _)
    fun _ => ?_
  refine Program.upholds_bind (chaWriteRegByName_upholds upkeep _ _)
    fun _ => ?_
  exact chaWriteRegByName_upholds upkeep _ _

end ChannelA

/-- What opening and closing a channel needs of a property. -/
structure OpenUpkeep (channel : Channel)
    (Going Failed : List (Call × Answer) → Memory → Prop) : Prop where
  opens :
    ∀ {history memory} answer, Going history memory →
      Going
        (history ++ [(.ftdi channel (.usbOpen 0x1d50 0x607c), answer)])
        memory
  closes :
    ∀ {history memory} answer, Failed history memory →
      Failed (history ++ [(.ftdi channel .usbClose, answer)]) memory
  weaken :
    ∀ {history memory}, Failed history memory → Going history memory

theorem OpenUpkeep.cleans {α : Type} {channel : Channel}
    (upkeep : OpenUpkeep channel Going Failed)
    (history : List (Call × Answer)) (memory : Memory)
    (failed : Failed history memory) :
    (Program.call (.ftdi channel .usbClose) : Action Answer).Meets
      (Post.cleaned (Program.upheld (α := α) Going Failed))
      history memory :=
  Program.cleans_of_upholds
    (Program.upholds_call fun _ _ answer => upkeep.closes answer)
    (fun _ _ => upkeep.weaken) history memory failed

theorem chaOpen_upholds (upkeep : ChaUpkeep Going Failed)
    (opening : OpenUpkeep .a Going Failed) :
    chaOpen.Upholds Going Failed := by
  refine Program.upholds_bind ?_ fun _ => Program.upholds_unwinding ?_
    opening.cleans
  · exact Program.upholds_bind
      (Program.upholds_call fun _ _ answer => opening.opens answer)
      fun _ => Program.upholds_ite (chaFail_upholds upkeep _)
        Program.upholds_pure
  · exact Program.upholds_bind (chaFtdi_upholds upkeep trivial) fun _ =>
      chaSwitchMode_upholds upkeep _

/-! ## Channel B -/

/-- What the functions of channel B need of a property. -/
structure ChbUpkeep (Going Failed : List (Call × Answer) → Memory → Prop) :
    Prop where
  call :
    ∀ {call history memory} answer, Ordinary call → Going history memory →
      Going (history ++ [(.ftdi .b call, answer)]) memory
  fail :
    ∀ {history memory} text, Going history memory →
      Failed history { memory with chb.errorStr := ErrorStr.set text }

section ChannelB

variable (upkeep : ChbUpkeep Going Failed)
include upkeep

theorem chbFail_upholds {α : Type} (text : String) :
    (chbFail text : Action α).Upholds Going Failed :=
  Program.upholds_modify_fail fun _ _ => upkeep.fail text

theorem chbFtdi_upholds {call : FtdiCall} (ordinary : Ordinary call) :
    (chbFtdi call).Upholds Going Failed :=
  Program.upholds_bind
    (Program.upholds_call fun _ _ answer => upkeep.call answer ordinary)
    fun _ => Program.upholds_ite (chbFail_upholds upkeep _)
      Program.upholds_pure

theorem chbSet_upholds (cmd val mask : UInt8) :
    (chbSet cmd val mask).Upholds Going Failed :=
  Program.upholds_bind
    (chbFtdi_upholds upkeep
      (ordinary_of_length (Nat.ne_of_beq_eq_false rfl)))
    fun _ => Program.upholds_pure

theorem chbGetHigh_upholds (val : UInt8) :
    (chbGetHigh val).Upholds Going Failed :=
  Program.upholds_bind
    (chbFtdi_upholds upkeep
      (ordinary_of_length (Nat.ne_of_beq_eq_false rfl)))
    fun _ => Program.upholds_bind (chbFtdi_upholds upkeep trivial)
      fun _ => Program.upholds_pure

/-- `ret` is negative only after a failure. -/
def tried (Going Failed : List (Call × Answer) → Memory → Prop) (ret : Int) :
    List (Call × Answer) → Memory → Prop :=
  if ret < 0 then Failed else Going

theorem chbGetHighRet_meets {history : List (Call × Answer)}
    {memory : Memory} (status : UInt8) (going : Going history memory) :
    (chbGetHighRet status).Meets
      (Post.before (Program.upheld (α := Unit) Going Failed)
        fun result => tried Going Failed result.1)
      history memory := by
  apply Program.meets_bind
  apply Program.meets_attempt
  refine (chbGetHigh_upholds upkeep status history memory going).mono
    fun ending history memory holds => ?_
  cases ending with
  | returned status => exact Program.meets_pure holds
  | stopped stop =>
      cases stop with
      | failed => exact Program.meets_pure holds
      | aborted => exact holds
      | waiting call => exact holds

theorem awaitReset_meets (left : Nat) :
    ∀ {history : List (Call × Answer)} {memory : Memory} (status : UInt8),
      Going history memory →
        (awaitReset left status).Meets
          (Post.before (Program.upheld (α := Unit) Going Failed)
            fun tries => tried Going Failed tries.ret)
          history memory := by
  induction left with
  | zero =>
      intro history memory status going
      exact Program.meets_pure going
  | succ left ih =>
      intro history memory status going
      apply Program.meets_bind
      refine (chbGetHighRet_meets upkeep status going).mono
        fun ending history memory holds => ?_
      cases ending with
      | stopped stop => exact holds
      | returned result =>
          dsimp only [Post.before] at holds ⊢
          split
          case isTrue again =>
              rw [again.1] at holds
              exact ih _ holds
          case isFalse => exact Program.meets_pure holds

theorem chbSwitchProgramMode_upholds :
    chbSwitchProgramMode.Upholds Going Failed := by
  refine Program.upholds_bind (chbSet_upholds upkeep _ _ _) fun _ => ?_
  refine Program.upholds_bind (chbSet_upholds upkeep _ _ _) fun _ => ?_
  refine Program.upholds_bind (chbSet_upholds upkeep _ _ _) fun _ => ?_
  intro history memory going
  apply Program.meets_bind
  refine (awaitReset_meets upkeep 3 0 going).mono
    fun ending history memory holds => ?_
  cases ending with
  | stopped stop => exact Program.upheld_before holds
  | returned tries =>
      dsimp only [Post.before] at holds ⊢
      split
      case isTrue negative =>
          rw [tried, if_pos negative] at holds
          exact Program.meets_fail holds
      case isFalse natural =>
          rw [tried, if_neg natural] at holds
          exact Program.upholds_ite (chbFail_upholds upkeep _)
            Program.upholds_pure history memory holds

theorem chbOpen_upholds (opening : OpenUpkeep .b Going Failed) :
    chbOpen.Upholds Going Failed := by
  refine Program.upholds_bind ?_ fun _ => Program.upholds_unwinding ?_
    opening.cleans
  · exact Program.upholds_bind
      (Program.upholds_call fun _ _ answer => opening.opens answer)
      fun _ => Program.upholds_ite (chbFail_upholds upkeep _)
        Program.upholds_pure
  · refine Program.upholds_bind (chbFtdi_upholds upkeep trivial) fun _ => ?_
    refine Program.upholds_bind (chbFtdi_upholds upkeep trivial) fun _ => ?_
    refine Program.upholds_bind (chbFtdi_upholds upkeep trivial) fun _ => ?_
    refine Program.upholds_bind (chbFtdi_upholds upkeep trivial) fun _ => ?_
    refine Program.upholds_bind (chbFtdi_upholds upkeep trivial) fun _ => ?_
    refine Program.upholds_bind (chbFtdi_upholds upkeep trivial) fun _ => ?_
    refine Program.upholds_bind (chbSet_upholds upkeep _ _ _) fun _ => ?_
    exact chbSet_upholds upkeep _ _ _

end ChannelB

/-! ## The loader -/

/-- What the upload of a bitstream needs of a property. -/
structure BitUpkeep (Going Failed : List (Call × Answer) → Memory → Prop) :
    Prop where
  call :
    ∀ {call history memory} answer, Ordinary call → Going history memory →
      Going (history ++ [(.ftdi .a call, answer)]) memory
  fail :
    ∀ {history memory} text, Going history memory →
      Failed history { memory with bit.errorStr := ErrorStr.set text }

section Loader

variable (upkeep : BitUpkeep Going Failed)
include upkeep

theorem bitFail_upholds {α : Type} (text : String) :
    (bitFail text : Action α).Upholds Going Failed :=
  Program.upholds_modify_fail fun _ _ => upkeep.fail text

theorem transferDone_upholds (tc : Int) :
    (transferDone tc).Upholds Going Failed :=
  Program.upholds_bind
    (Program.upholds_call fun _ _ answer => upkeep.call answer trivial)
    fun _ => Program.upholds_ite (bitFail_upholds upkeep _)
      Program.upholds_pure

theorem previousDone_upholds (tc : Int) :
    (previousDone tc).Upholds Going Failed :=
  Program.upholds_ite (transferDone_upholds upkeep tc) Program.upholds_pure

theorem submitAll_upholds (bidx : Nat) (tc : Int) (data : List UInt8) :
    (submitAll bidx tc data).Upholds Going Failed := by
  rw [submitAll]
  split
  case isTrue => exact Program.upholds_pure
  case isFalse =>
      apply Program.upholds_bind (previousDone_upholds upkeep tc)
      intro _
      apply Program.upholds_bind
      · exact Program.upholds_call fun _ _ answer =>
          upkeep.call answer trivial
      intro submitted
      apply Program.upholds_ite
      · exact bitFail_upholds upkeep _
      · exact submitAll_upholds _ _ _
termination_by data.length
decreasing_by exact length_drop_lt ‹_›

end Loader

/-- What the start-up after an upload needs of a property. -/
structure StartUpUpkeep (Kept : List (Call × Answer) → Memory → Prop) :
    Prop where
  write :
    ∀ {history memory} answer, Kept history memory →
      Kept (history ++ [(startUpWrite, answer)]) memory
  chb : ChbUpkeep Kept Kept
  fail :
    ∀ {history memory} text, Kept history memory →
      Kept history { memory with bit.errorStr := ErrorStr.set text }

section StartUp

variable {Kept : List (Call × Answer) → Memory → Prop}
    (upkeep : StartUpUpkeep Kept)
include upkeep

theorem awaitDone_upholds (left : Nat) (status : UInt8) :
    (awaitDone left status).Upholds Kept Kept := by
  induction left generalizing status with
  | zero => exact Program.upholds_pure
  | succ left ih =>
      refine Program.upholds_bind
        (Program.upholds_call fun _ _ answer => upkeep.write answer)
        fun written => Program.upholds_ite ?_ Program.upholds_pure
      refine Program.upholds_bind ?_ fun result =>
        Program.upholds_ite (ih _) Program.upholds_pure
      refine Program.upholds_bind
        (Program.upholds_attempt (chbGetHigh_upholds upkeep.chb _))
        fun result => ?_
      cases result <;> exact Program.upholds_pure

theorem startUp_upholds : startUp.Upholds Kept Kept := by
  refine Program.upholds_bind (awaitDone_upholds upkeep _ _)
    fun tries => ?_
  refine Program.upholds_ite (Program.upholds_fail fun _ _ => id) ?_
  exact Program.upholds_ite
    (Program.upholds_modify_fail fun _ _ => upkeep.fail _)
    Program.upholds_pure

theorem bitLoadFirmware_upholds (loader : BitUpkeep Kept Kept) :
    bitLoadFirmware.Upholds Kept Kept := by
  refine Program.upholds_get fun memory => ?_
  refine Program.upholds_bind (submitAll_upholds loader _ _ _) fun tc => ?_
  exact Program.upholds_bind (transferDone_upholds loader tc) fun _ =>
    startUp_upholds upkeep

end StartUp

/-! ## Firmware packages -/

/-- The calls of the allocator and of libzip. -/
def OnFiles : Call → Prop
  | .ftdi _ _ => False
  | .libusbAllocTransfer => False
  | .libusbFreeTransfer _ => False
  | _ => True

/-- What the functions of firmware packages need of a property. -/
structure FwpkgUpkeep (package : Package)
    (Going Failed : List (Call × Answer) → Memory → Prop) : Prop where
  call :
    ∀ {call history memory} answer, OnFiles call → Going history memory →
      Going (history ++ [(call, answer)]) memory
  store :
    ∀ {history memory} fwpkg, Going history memory →
      Going history (package.set fwpkg memory)
  fail :
    ∀ {history memory} text, Going history memory →
      Failed history
        (package.set { package.get memory with errorStr := ErrorStr.set text }
          memory)
  closes :
    ∀ {call history memory} answer, OnFiles call → Failed history memory →
      Failed (history ++ [(call, answer)]) memory
  weaken :
    ∀ {history memory}, Failed history memory → Going history memory

section Packages

variable {package : Package} (upkeep : FwpkgUpkeep package Going Failed)
    {Any : List (Call × Answer) → Memory → Prop}
include upkeep

theorem fileCall_upholds {call : Call} (onFiles : OnFiles call) :
    (Program.call call : Action Answer).Upholds Going Any :=
  Program.upholds_call fun _ _ answer => upkeep.call answer onFiles

theorem FwpkgUpkeep.cleans {α : Type} {call : Call} (onFiles : OnFiles call)
    (history : List (Call × Answer)) (memory : Memory)
    (failed : Failed history memory) :
    (Program.call call : Action Answer).Meets
      (Post.cleaned (Program.upheld (α := α) Going Failed))
      history memory :=
  Program.cleans_of_upholds
    (Program.upholds_call fun _ _ answer => upkeep.closes answer onFiles)
    (fun _ _ => upkeep.weaken) history memory failed

theorem fwpkgFail_upholds {α : Type} (text : String) :
    (fwpkgFail package text : Action α).Upholds Going Failed :=
  Program.upholds_modify_fail fun _ _ => upkeep.fail text

theorem fwpkgReadFile_upholds (size : Nat) (index : Int) :
    (fwpkgReadFile package size index).Upholds Going Failed := by
  refine Program.upholds_get fun memory => ?_
  refine Program.upholds_bind (fileCall_upholds upkeep trivial) fun file => ?_
  refine Program.upholds_ite (fwpkgFail_upholds upkeep _) ?_
  refine Program.upholds_bind (fileCall_upholds upkeep trivial) fun read => ?_
  refine Program.upholds_ite ?_ ?_
  · exact Program.upholds_unwinding (fwpkgFail_upholds upkeep _)
      (upkeep.cleans trivial)
  · exact Program.upholds_bind (fileCall_upholds upkeep trivial) fun _ =>
      Program.upholds_pure

theorem setError_upholds (text : String) :
    (setError package text).Upholds Going Any :=
  Program.upholds_modify fun _ _ => upkeep.store _

/-- A size that cannot be read is no failure. -/
theorem fwpkgFileSize_upholds (index : Int) :
    (fwpkgFileSize package index).Upholds Going Any := by
  refine Program.upholds_get fun memory => ?_
  refine Program.upholds_bind (fileCall_upholds upkeep trivial) fun sb => ?_
  refine Program.upholds_ite ?_ ?_
  · exact Program.upholds_bind (setError_upholds upkeep _) fun _ =>
      Program.upholds_pure
  · cases sb.size with
    | none =>
        exact Program.upholds_bind (setError_upholds upkeep _) fun _ =>
          Program.upholds_pure
    | some size => exact Program.upholds_pure

theorem fwpkgMapSize_upholds : (fwpkgMapSize package).Upholds Going Any :=
  Program.upholds_get fun _ => fwpkgFileSize_upholds upkeep _

theorem fwpkgBitstreamSize_upholds :
    (fwpkgBitstreamSize package).Upholds Going Any :=
  Program.upholds_get fun _ => fwpkgFileSize_upholds upkeep _

theorem fwpkgReadMap_upholds (size : Nat) :
    (fwpkgReadMap package size).Upholds Going Failed :=
  Program.upholds_get fun _ => fwpkgReadFile_upholds upkeep _ _

theorem fwpkgReadBitstream_upholds (size : Nat) :
    (fwpkgReadBitstream package size).Upholds Going Failed :=
  Program.upholds_get fun _ => fwpkgReadFile_upholds upkeep _ _

theorem locateFile_upholds (fname missing : String)
    (store : Int → State.Fwpkg → State.Fwpkg) :
    (locateFile package fname missing store).Upholds Going Failed := by
  refine Program.upholds_get fun memory => ?_
  refine Program.upholds_bind (fileCall_upholds upkeep trivial)
    fun index => ?_
  refine Program.upholds_bind
    (Program.upholds_modify fun _ _ => upkeep.store _) fun _ => ?_
  refine Program.upholds_ite ?_ Program.upholds_pure
  exact Program.upholds_unwinding (fwpkgFail_upholds upkeep _)
    (upkeep.cleans trivial)

theorem openPackage_upholds {opening : Call} (onFiles : OnFiles opening) :
    (openPackage package opening).Upholds Going Failed := by
  refine Program.upholds_bind (fileCall_upholds upkeep onFiles)
    fun pkg => ?_
  refine Program.upholds_bind
    (Program.upholds_modify fun _ _ => upkeep.store _) fun _ => ?_
  exact Program.upholds_ite (fwpkgFail_upholds upkeep _) Program.upholds_pure

theorem openLocated_upholds {opening : Call} (onFiles : OnFiles opening) :
    (openPackage package opening >>= fun _ =>
      fwpkgLocateFiles package).Upholds Going Failed :=
  Program.upholds_bind (openPackage_upholds upkeep onFiles) fun _ =>
    Program.upholds_bind (locateFile_upholds upkeep _ _ _) fun _ =>
      locateFile_upholds upkeep _ _ _

theorem fwpkgInit_upholds (filename : Option String) :
    (fwpkgInit package filename).Upholds Going Failed := by
  cases filename with
  | some filename =>
      refine Program.upholds_bind
        (Program.upholds_modify fun _ _ => upkeep.store _) fun _ => ?_
      exact openLocated_upholds upkeep trivial
  | none =>
      refine Program.upholds_bind
        (Program.upholds_modify fun _ _ => upkeep.store _) fun _ => ?_
      refine Program.upholds_bind (fileCall_upholds upkeep trivial)
        fun src => ?_
      exact Program.upholds_ite (fwpkgFail_upholds upkeep _)
        (openLocated_upholds upkeep trivial)

end Packages

/-! ## Cleaning up -/

theorem fwpkgDestroy_upholds {package : Package}
    (call :
      ∀ history memory pkg answer, Going history memory →
        Going (history ++ [(.zipDiscard pkg, answer)]) memory) :
    (fwpkgDestroy package).Upholds Going Failed :=
  Program.upholds_get fun _ =>
    Program.upholds_bind
      (Program.upholds_call fun history memory answer =>
        call history memory _ answer)
      fun _ => Program.upholds_pure

theorem freeTmp_upholds
    (call :
      ∀ history memory ptr answer, Going history memory →
        Going (history ++ [(.free ptr, answer)]) memory)
    (tmp :
      ∀ history memory ptr, Going history memory →
        Going history { memory with tmp := ptr }) :
    freeTmp.Upholds Going Failed := by
  refine Program.upholds_get fun memory => Program.upholds_ite ?_
    Program.upholds_pure
  refine Program.upholds_bind
    (Program.upholds_call fun history memory answer =>
      call history memory _ answer) fun _ => ?_
  exact Program.upholds_modify fun history memory => tmp history memory 0

/-! ## Register maps and bitstream files -/

/-- What `reg_init_from_fwpkg` needs of a property. -/
structure RegUpkeep (package : Package)
    (Going Unread Failed : List (Call × Answer) → Memory → Prop) : Prop where
  file : FwpkgUpkeep package Going Unread
  store :
    ∀ {history memory} reg, Going history memory →
      Going history { memory with stackReg := reg }
  fail :
    ∀ {history memory} text, Going history memory →
      Failed history
        { memory with stackReg.errorStr := ErrorStr.set text }
  unread :
    ∀ {history memory}, Unread history memory →
      Failed history
        { memory with stackReg.errorStr := (package.get memory).errorStr }
  closes :
    ∀ {call history memory} answer, OnFiles call → Failed history memory →
      Failed (history ++ [(call, answer)]) memory
  weaken :
    ∀ {history memory}, Failed history memory → Going history memory

section RegisterMaps

variable {package : Package}
    {Unread : List (Call × Answer) → Memory → Prop}
    (upkeep : RegUpkeep package Going Unread Failed)
include upkeep

theorem initReg_upholds (map : List UInt8) :
    (initReg map).Upholds Going Failed := by
  refine Program.upholds_bind
    (Program.upholds_modify fun _ _ => upkeep.store _) fun _ => ?_
  split
  · exact Program.upholds_modify fun _ _ => upkeep.store _
  · exact Program.upholds_modify_fail fun _ _ => upkeep.fail _
  · exact Program.upholds_abort

theorem RegUpkeep.cleans {α : Type} (ptr : Int)
    (history : List (Call × Answer)) (memory : Memory)
    (failed : Failed history memory) :
    (Program.call (.free ptr) : Action Answer).Meets
      (Post.cleaned (Program.upheld (α := α) Going Failed))
      history memory :=
  Program.cleans_of_upholds
    (Program.upholds_call fun _ _ answer =>
      upkeep.closes answer (show OnFiles (.free ptr) from trivial))
    (fun _ _ => upkeep.weaken) history memory failed

theorem regInitFromFwpkg_upholds :
    (regInitFromFwpkg package).Upholds Going Failed := by
  refine Program.upholds_bind (fwpkgMapSize_upholds upkeep.file)
    fun mapSize => ?_
  refine Program.upholds_bind (fileCall_upholds upkeep.file trivial)
    fun tmp => ?_
  refine Program.upholds_ite
    (Program.upholds_modify_fail fun _ _ => upkeep.fail _) ?_
  refine Program.upholds_bind ?_ fun _ =>
    Program.upholds_bind (fileCall_upholds upkeep.file trivial) fun _ =>
      Program.upholds_pure
  refine Program.upholds_unwinding ?_ (upkeep.cleans _)
  refine Program.upholds_attempt_bind
    (fwpkgReadMap_upholds upkeep.file _) (initReg_upholds upkeep)
    fun history memory unread => ?_
  exact Program.meets_bind_get
    (Program.meets_bind_modify (Program.meets_fail (upkeep.unread unread)))

end RegisterMaps

/-- A file that is rejected leaves a message, and no other file does. -/
def Explained (errorStr : ErrorStr) : Except State.Bit State.Bit → Prop
  | .error bit => bit.errorStr.origin = .fresh
  | .ok bit => bit.errorStr = errorStr

section Explained

variable {errorStr : ErrorStr}

theorem explained_rejected (bit : State.Bit) (text : String) :
    Explained errorStr (rejected bit text) :=
  rfl

theorem explained_ite {condition : Prop} [Decidable condition]
    {yes no : Except State.Bit State.Bit}
    (explainedYes : Explained errorStr yes)
    (explainedNo : Explained errorStr no) :
    Explained errorStr (if condition then yes else no) := by
  split
  · exact explainedYes
  · exact explainedNo

theorem Explained.bind {first : Except State.Bit State.Bit}
    {next : State.Bit → Except State.Bit State.Bit}
    (explained : Explained errorStr first)
    (explainedNext :
      ∀ bit, bit.errorStr = errorStr → Explained errorStr (next bit)) :
    Explained errorStr (first >>= next) := by
  cases first with
  | error bit => exact explained
  | ok bit => exact explainedNext bit explained

theorem explained_bitDoParseFieldStr (key : UInt8)
    {store : State.Bit → State.Bit}
    (stores : ∀ bit, (store bit).errorStr = bit.errorStr) (bit : State.Bit)
    (same : bit.errorStr = errorStr) :
    Explained errorStr (bitDoParseFieldStr key store bit) :=
  explained_ite (explained_rejected _ _)
    (explained_ite (explained_rejected _ _)
      (explained_ite (explained_rejected _ _) ((stores _).trans same)))

theorem explained_bitDoParse (bit : State.Bit) :
    Explained bit.errorStr (bitDoParse bit) := by
  refine Explained.bind (explained_ite (explained_rejected _ _) rfl)
    fun bit same => ?_
  refine Explained.bind
    (explained_bitDoParseFieldStr _ (by intro _; rfl) bit same)
    fun bit same => ?_
  refine Explained.bind
    (explained_bitDoParseFieldStr _ (by intro _; rfl) bit same)
    fun bit same => ?_
  refine Explained.bind
    (explained_bitDoParseFieldStr _ (by intro _; rfl) bit same)
    fun bit same => ?_
  refine Explained.bind
    (explained_bitDoParseFieldStr _ (by intro _; rfl) bit same)
    fun bit same => ?_
  exact explained_ite (explained_rejected _ _)
    (explained_ite (explained_rejected _ _)
      (explained_ite (explained_rejected _ _) same))

end Explained

theorem bitInit_upholds
    (store :
      ∀ history memory bit, bit.errorStr = memory.bit.errorStr →
        Going history memory → Going history { memory with bit := bit })
    (fails :
      ∀ history memory bit, bit.errorStr.origin = .fresh →
        Going history memory → Failed history { memory with bit := bit })
    (data : List UInt8) : (bitInit data).Upholds Going Failed := by
  intro history memory going
  apply Program.meets_bind_get
  have explained :=
    explained_bitDoParse
      { memory.bit with buffer := data, data := 0, size := data.length }
  dsimp only
  split
  case h_1 bit accepted =>
      rw [accepted] at explained
      exact Program.meets_modify (store _ _ bit explained going)
  case h_2 bit rejected =>
      rw [rejected] at explained
      exact Program.meets_bind_modify
        (Program.meets_fail (fails _ _ bit explained going))

/-! ## Steps -/

/-- A step that fails leaves the error string that is reported. -/
theorem reporting_upholds {α : Type} {errorStr : Memory → ErrorStr}
    {Unreported : List (Call × Answer) → Memory → Prop} {step : Action α}
    (aged :
      ∀ history memory, Going history memory → Going history memory.aged)
    (upholds : step.Upholds Going Unreported)
    (reports :
      ∀ history memory, Unreported history memory →
        Failed history { memory with errorStr := errorStr memory }) :
    (reporting errorStr step).Upholds Going Failed := by
  refine Program.upholds_bind (Program.upholds_modify aged) fun _ => ?_
  refine Program.upholds_attempt_bind upholds
    (fun value => Program.upholds_pure) fun history memory unreported => ?_
  exact Program.meets_bind_modify
    (Program.meets_fail (reports history memory unreported))

/-! ## Firmware loads -/

/-- What a firmware load needs of a property, besides the register map. -/
structure LoadUpkeep (package : Package)
    (Kept : List (Call × Answer) → Memory → Prop) : Prop where
  cha : ChaUpkeep Kept Kept
  bit : BitUpkeep Kept Kept
  startUp : StartUpUpkeep Kept
  file : FwpkgUpkeep package Kept Kept
  write :
    ∀ {history memory memory'}, Kept history memory →
      memory'.cha.reg = memory.cha.reg →
        memory'.fwpkg.pkg = memory.fwpkg.pkg → Kept history memory'

section Loads

variable {package : Package}
    {Kept : List (Call × Answer) → Memory → Prop}
    (upkeep : LoadUpkeep package Kept)
include upkeep

theorem LoadUpkeep.reporting {α : Type} {errorStr : Memory → ErrorStr}
    {step : Action α} (upholds : step.Upholds Kept Kept) :
    (reporting errorStr step).Upholds Kept Kept :=
  reporting_upholds (fun _ _ kept => upkeep.write kept rfl rfl) upholds
    fun _ _ kept => upkeep.write kept rfl rfl

theorem LoadUpkeep.freeTmp : freeTmp.Upholds Kept Kept :=
  freeTmp_upholds
    (fun _ _ _ answer kept => upkeep.file.call answer (by trivial) kept)
    fun _ _ _ kept => upkeep.write kept rfl rfl

theorem prepare_upholds : (prepare package).Upholds Kept Kept := by
  refine Program.upholds_bind
    (Program.upholds_modify fun _ _ kept => upkeep.write kept rfl rfl)
    fun _ => ?_
  refine Program.upholds_bind (fwpkgBitstreamSize_upholds upkeep.file)
    fun size => ?_
  refine Program.upholds_bind (fileCall_upholds upkeep.file trivial)
    fun tmp => ?_
  refine Program.upholds_ite
    (Program.upholds_modify_fail fun _ _ kept =>
      upkeep.write kept rfl rfl) ?_
  refine Program.upholds_bind
    (Program.upholds_modify fun _ _ kept => upkeep.write kept rfl rfl)
    fun _ => ?_
  refine Program.upholds_unwinding ?_
    (Program.cleans_of_upholds upkeep.freeTmp fun _ _ => id)
  refine Program.upholds_bind
    (upkeep.reporting (fwpkgReadBitstream_upholds upkeep.file _))
    fun data => ?_
  refine Program.upholds_bind
    (upkeep.reporting (bitInit_upholds
      (fun _ _ _ _ kept => upkeep.write kept rfl rfl)
      (fun _ _ _ _ kept => upkeep.write kept rfl rfl) data)) fun _ => ?_
  exact upkeep.reporting (chaSwitchMode_upholds upkeep.cha _)

theorem programFpga_upholds : programFpga.Upholds Kept Kept := by
  refine Program.upholds_bind
    (upkeep.reporting (chbSwitchProgramMode_upholds upkeep.startUp.chb))
    fun _ => ?_
  refine Program.upholds_bind
    (upkeep.reporting (bitLoadFirmware_upholds upkeep.startUp upkeep.bit))
    fun _ => ?_
  refine Program.upholds_bind upkeep.freeTmp fun _ => ?_
  exact upkeep.reporting (chaSwitchFifoMode_upholds upkeep.cha)

theorem ovLoadFirmwareFromFwpkg_upholds :
    (ovLoadFirmwareFromFwpkg package).Upholds Kept Kept := by
  refine Program.upholds_bind (prepare_upholds upkeep) fun _ => ?_
  refine Program.upholds_unwinding (programFpga_upholds upkeep)
    (Program.cleans_of_upholds ?_ fun _ _ => id)
  exact Program.upholds_bind
    (Program.upholds_attempt (chaSwitchFifoMode_upholds upkeep.cha))
    fun _ => upkeep.freeTmp

end Loads

end OpenVizsla.Device.Upkeep
