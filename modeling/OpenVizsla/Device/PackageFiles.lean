import OpenVizsla.Foundation.Triples
import OpenVizsla.Device.BitGrammar
import OpenVizsla.Device.Upkeep

/-!
# What is read from a package

`fwpkg_init` opens a package and looks up its two files, and
`reg_init_from_fwpkg` reads the register map.  The triples here say where what
has been read comes from, and that no call to the device is made meanwhile.
-/

namespace OpenVizsla.Device.PackageFiles

open OpenVizsla.Foundation.Calls
open OpenVizsla.Register.Map
open OpenVizsla.Register.Parse
open OpenVizsla.Device.State
open OpenVizsla.Device.Bit
open OpenVizsla.Device.BitGrammar
open OpenVizsla.Device.Fwpkg
open OpenVizsla.Device.Upkeep

variable {filename : Option String} {history : List (Call × Answer)}
  {memory memory' : Memory}

/-! ## What has been read -/

/-- The call opens the package of this name, or the one that is linked in. -/
def Opens (filename : Option String) : Call → Prop
  | .zipOpen name => filename = some name
  | .zipOpenFromSource _ => filename = none
  | _ => False

/-- The package has been opened as this one. -/
def PackageAt (filename : Option String) (pkg : Int)
    (history : List (Call × Answer)) : Prop :=
  ∃ entry ∈ history, Opens filename entry.1 ∧ entry.2.ret = pkg

/-- `zip_name_locate` has given this index for the name. -/
def NameAt (pkg : Int) (fname : String) (index : Int)
    (history : List (Call × Answer)) : Prop :=
  ∃ answer, (.zipNameLocate pkg fname, answer) ∈ history ∧
    answer.ret = index

/-- A read of the file at the index has given this content. -/
def ReadAt (pkg index : Int) (content : List UInt8)
    (history : List (Call × Answer)) : Prop :=
  ∃ file size read, (.zipFopenIndex pkg index, file) ∈ history ∧
    (.zipFread file.ret size, read) ∈ history ∧
    read.received size = content

/-- The content has been read from the file of this name. -/
def ReadFrom (pkg : Int) (fname : String) (content : List UInt8)
    (history : List (Call × Answer)) : Prop :=
  ∃ index, NameAt pkg fname index history ∧ ReadAt pkg index content history

/-- A property of the calls that later calls do not change. -/
def Stays (Known : List (Call × Answer) → Prop) : Prop :=
  ∀ {history} entry, Known history → Known (history ++ [entry])

theorem stays_packageAt (filename : Option String) (pkg : Int) :
    Stays (PackageAt filename pkg) := by
  rintro history entry ⟨opening, member, opened⟩
  exact ⟨opening, List.mem_append_left _ member, opened⟩

theorem stays_nameAt (pkg : Int) (fname : String) (index : Int) :
    Stays (NameAt pkg fname index) := by
  rintro history entry ⟨answer, member, found⟩
  exact ⟨answer, List.mem_append_left _ member, found⟩

theorem stays_readAt (pkg index : Int) (content : List UInt8) :
    Stays (ReadAt pkg index content) := by
  rintro history entry ⟨file, size, read, opened, reads, received⟩
  exact ⟨file, size, read, List.mem_append_left _ opened,
    List.mem_append_left _ reads, received⟩

theorem stays_readFrom (pkg : Int) (fname : String) (content : List UInt8) :
    Stays (ReadFrom pkg fname content) := by
  rintro history entry ⟨index, named, read⟩
  exact ⟨index, stays_nameAt pkg fname index entry named,
    stays_readAt pkg index content entry read⟩

/-- The call is one of libftdi. -/
def OnDevice : Call → Prop
  | .ftdi _ _ => True
  | _ => False

theorem not_onDevice {call : Call} (onFiles : OnFiles call) :
    ¬ OnDevice call := by
  cases call with
  | ftdi channel call => exact onFiles.elim
  | _ => exact id

/-- The package has this map and this bitstream file, both well formed. -/
def Supplies (filename : Option String) (map : RegName → UInt16)
    (file : BitFile) (history : List (Call × Answer)) : Prop :=
  ∃ pkg, PackageAt filename pkg history ∧
    (∃ text, ReadFrom pkg "map.txt" text history ∧
      regInit text = .accepted map) ∧
    ReadFrom pkg "ov3.bit" file.encode history

theorem stays_supplies (filename : Option String) (map : RegName → UInt16)
    (file : BitFile) : Stays (Supplies filename map file) := by
  rintro history entry ⟨pkg, package, ⟨text, read, accepted⟩, bitstream⟩
  exact ⟨pkg, stays_packageAt _ _ entry package,
    ⟨text, stays_readFrom _ _ _ entry read, accepted⟩,
    stays_readFrom _ _ _ entry bitstream⟩

/-- No call to the device has been made before both files were read. -/
def Guarded (filename : Option String) (history : List (Call × Answer)) :
    Prop :=
  Program.Gated OnDevice
    (fun history => ∃ map file, Supplies filename map file history) history

theorem Guarded.onFiles (guarded : Guarded filename history) {call : Call}
    (onFiles : OnFiles call) (answer : Answer) :
    Guarded filename (history ++ [(call, answer)]) :=
  guarded.concat fun onDevice => absurd onDevice (not_onDevice onFiles)

/-! ## Steps -/

/-- A step of `ov.c` whose error string is of no interest. -/
theorem reporting_triple {α : Type} {errorStr : Memory → ErrorStr}
    {step : Action α} {pre : Assertion Call Answer Memory}
    {post : α → Assertion Call Answer Memory}
    {stop : Stop Call → Assertion Call Answer Memory}
    (aged : ∀ history memory, pre history memory → pre history memory.aged)
    (triple : Program.Triple pre step post stop)
    (reports :
      ∀ history memory text, stop .failed history memory →
        stop .failed history { memory with errorStr := text }) :
    Program.Triple pre (reporting errorStr step) post stop := by
  have older : Program.Triple pre (Program.modify Memory.aged)
      (fun _ => pre) stop :=
    Program.triple_modify aged
  refine Program.triple_bind older fun _ => ?_
  refine Program.triple_attempt_bind triple Passes.rfl
    (fun _ => Program.triple_pure fun _ _ => id) ?_
  exact Program.triple_modify_fail fun history memory =>
    reports history memory _

/-! ## Programs that read files -/

theorem get_set (package : Package) (fwpkg : State.Fwpkg) (memory : Memory) :
    package.get (package.set fwpkg memory) = fwpkg := by
  cases package <;> rfl

/--
The property outlives calls on files and error strings of the package.  When
a program stops, `Guarded` is left of it.
-/
structure Filed (filename : Option String) (package : Package)
    (Kept : Assertion Call Answer Memory) : Prop where
  call :
    ∀ {call history memory} answer, OnFiles call → Kept history memory →
      Kept (history ++ [(call, answer)]) memory
  error :
    ∀ {history memory} text, Kept history memory →
      Kept history
        (package.set { package.get memory with errorStr := text } memory)
  stop :
    ∀ {history memory}, Kept history memory → Guarded filename history

/-- What is left of a program that stops. -/
def stopped (filename : Option String) :
    Stop Call → Assertion Call Answer Memory :=
  fun _ history _ => Guarded filename history

/-- Cleaning up among files. -/
theorem fileCall_stopped {call : Call} (onFiles : OnFiles call) :
    Program.Triple (stopped filename .failed)
      (Program.call call : Action Answer) (fun _ => stopped filename .failed)
      (stopped filename) :=
  Program.triple_call (fun _ _ => id) fun _ _ answer guarded =>
    Guarded.onFiles guarded onFiles answer

section Filed

variable {package : Package} {Kept : Assertion Call Answer Memory}

/-- What is known of the calls and of the package is kept as well. -/
theorem Filed.and (filed : Filed filename package Kept)
    (Known : State.Fwpkg → List (Call × Answer) → Prop)
    (stays : ∀ fwpkg, Stays (Known fwpkg))
    (same :
      ∀ fwpkg text history, Known fwpkg history →
        Known { fwpkg with errorStr := text } history) :
    Filed filename package fun history memory =>
      Kept history memory ∧ Known (package.get memory) history where
  call := fun answer onFiles kept =>
    ⟨filed.call answer onFiles kept.1, stays _ _ kept.2⟩
  error := by
    intro history memory text kept
    refine ⟨filed.error text kept.1, ?_⟩
    rw [get_set]
    exact same _ text history kept.2
  stop := fun kept => filed.stop kept.1

variable (filed : Filed filename package Kept) {α : Type}
  {post : α → Assertion Call Answer Memory}
include filed

/-- A call on files, with what is known of its answer. -/
theorem fileCall_bind {call : Call} (onFiles : OnFiles call)
    {next : Answer → Action α}
    (following :
      ∀ answer, Program.Triple
        (fun history memory =>
          Kept history memory ∧ (call, answer) ∈ history)
        (next answer) post (stopped filename)) :
    Program.Triple Kept (Program.call call >>= next) post
      (stopped filename) :=
  Program.triple_bind
    (Program.triple_call (fun _ _ => filed.stop) fun _ _ answer kept =>
      ⟨filed.call answer onFiles kept,
        List.mem_append_right _ (List.mem_singleton_self _)⟩)
    following

/-- A call on files whose answer does not matter. -/
theorem fileCall_skip {call : Call} (onFiles : OnFiles call)
    {next : Answer → Action α}
    (following :
      ∀ answer, Program.Triple Kept (next answer) post (stopped filename)) :
    Program.Triple Kept (Program.call call >>= next) post
      (stopped filename) :=
  fileCall_bind filed onFiles fun answer =>
    (following answer).strengthen fun _ _ => And.left

theorem setError_triple (text : String) :
    Program.Triple Kept (setError package text) (fun _ => Kept)
      (stopped filename) :=
  Program.triple_modify fun _ _ kept => filed.error _ kept

theorem fwpkgFail_triple (text : String) :
    Program.Triple Kept (fwpkgFail package text : Action α) post
      (stopped filename) :=
  Program.triple_modify_fail fun _ _ kept =>
    filed.stop (filed.error (ErrorStr.set text) kept)

/-- A size that cannot be read is no failure. -/
theorem fwpkgFileSize_triple (index : Int) :
    Program.Triple Kept (fwpkgFileSize package index) (fun _ => Kept)
      (stopped filename) := by
  have kept : ∀ history memory, Kept history memory → Kept history memory :=
    fun _ _ => id
  refine Program.triple_bind (Program.triple_get kept) fun read => ?_
  refine fileCall_skip filed (by trivial) fun sb => ?_
  refine Program.triple_ite (fun _ => ?_) fun _ => ?_
  · exact Program.triple_bind (setError_triple filed _) fun _ =>
      Program.triple_pure kept
  · cases sb.size with
    | none =>
        exact Program.triple_bind (setError_triple filed _) fun _ =>
          Program.triple_pure kept
    | some size => exact Program.triple_pure kept

/-- A file that is opened, read and closed. -/
theorem fwpkgReadFile_triple (size : Nat) (index : Int) :
    Program.Triple Kept (fwpkgReadFile package size index)
      (fun content history memory =>
        Kept history memory ∧
          ReadAt (package.get memory).pkg index content history)
      (stopped filename) := by
  refine Program.triple_get_bind fun before => ?_
  have filed' := filed.and
    (fun fwpkg _ => fwpkg.pkg = (package.get before).pkg)
    (fun _ _ _ => id) fun _ _ _ => id
  refine Program.Triple.strengthen ?_ fun history memory start =>
    (⟨start.2, start.1 ▸ rfl⟩ : Kept history memory ∧
      (package.get memory).pkg = (package.get before).pkg)
  refine fileCall_bind filed' (by trivial) fun file => ?_
  have opened := filed'.and
    (fun _ history => (Call.zipFopenIndex (package.get before).pkg
      index, file) ∈ history)
    (fun _ _ _ => List.mem_append_left _) fun _ _ _ => id
  refine Program.triple_ite (fun _ => fwpkgFail_triple opened _) fun _ => ?_
  refine fileCall_bind opened (by trivial) fun read => ?_
  have done := opened.and
    (fun _ history => (Call.zipFread file.ret size, read) ∈ history)
    (fun _ _ _ => List.mem_append_left _) fun _ _ _ => id
  refine Program.triple_ite (fun _ => ?_) fun _ => ?_
  · exact Program.triple_unwinding (fwpkgFail_triple done _) Passes.rfl
      (fileCall_stopped trivial)
  · refine fileCall_skip done (by trivial) fun _ => Program.triple_pure ?_
    rintro history memory ⟨⟨⟨kept, same⟩, opens⟩, reads⟩
    refine ⟨kept, file, size, read, ?_, reads, rfl⟩
    rw [same]
    exact opens

end Filed

/-! ## Opening a package -/

/-- No call to the device has been made. -/
def Quiet : Assertion Call Answer Memory :=
  fun history _ => ∀ entry ∈ history, ¬ OnDevice entry.1

theorem Quiet.guarded (quiet : Quiet history memory) :
    Guarded filename history := by
  rintro before entry after rfl onDevice
  exact absurd onDevice
    (quiet entry (List.mem_append_right _ List.mem_cons_self))

theorem quiet_filed (package : Package) : Filed filename package Quiet where
  call := by
    intro call history memory answer onFiles quiet entry member
    rcases List.mem_append.mp member with earlier | last
    · exact quiet entry earlier
    · cases List.mem_singleton.mp last
      exact not_onDevice onFiles
  error := fun _ quiet => quiet
  stop := fun quiet => quiet.guarded

/-- What is known of the calls and of the package, before the device. -/
def Knowing (package : Package)
    (Known : State.Fwpkg → List (Call × Answer) → Prop) :
    Assertion Call Answer Memory :=
  fun history memory =>
    Quiet history memory ∧ Known (package.get memory) history

theorem knowing_filed {package : Package}
    {Known : State.Fwpkg → List (Call × Answer) → Prop}
    (stays : ∀ fwpkg, Stays (Known fwpkg))
    (same :
      ∀ fwpkg text history, Known fwpkg history →
        Known { fwpkg with errorStr := text } history) :
    Filed filename package (Knowing package Known) :=
  (quiet_filed package).and Known stays same

/-- A call whose result is stored in the package. -/
theorem storing_triple {package : Package} {query : Call}
    (onFiles : OnFiles query) (store : Int → State.Fwpkg → State.Fwpkg)
    {Before : State.Fwpkg → List (Call × Answer) → Prop}
    (After : State.Fwpkg → List (Call × Answer) → Prop)
    (stores :
      ∀ fwpkg history answer, Before fwpkg history →
        After (store answer.ret fwpkg) (history ++ [(query, answer)]))
    {next : Answer → Action Unit}
    {post : Unit → Assertion Call Answer Memory}
    (following :
      ∀ answer,
        Program.Triple (Knowing package After) (next answer) post
          (stopped filename)) :
    Program.Triple (Knowing package Before)
      (do
        let answer ← Program.call query
        Program.modify fun memory =>
          package.set (store answer.ret (package.get memory)) memory
        next answer)
      post (stopped filename) := by
  have filed : Filed filename package Quiet := quiet_filed package
  have called : Program.Triple (Knowing package Before) (Program.call query)
      (fun answer history memory => Quiet history memory ∧
        After (store answer.ret (package.get memory)) history)
      (stopped filename) := by
    refine Program.triple_call (fun _ _ start => start.1.guarded) ?_
    rintro history memory answer ⟨quiet, before⟩
    exact ⟨filed.call answer onFiles quiet, stores _ _ _ before⟩
  refine Program.triple_bind called fun answer => ?_
  refine Program.triple_bind ?_ fun _ => following answer
  refine Program.triple_modify fun history memory after => ⟨after.1, ?_⟩
  rw [get_set]
  exact after.2

theorem openPackage_triple (package : Package) {opening : Call}
    (onFiles : OnFiles opening) (opens : Opens filename opening) :
    Program.Triple Quiet (openPackage package opening)
      (fun _ => Knowing package fun fwpkg => PackageAt filename fwpkg.pkg)
      (stopped filename) := by
  have start (history : List (Call × Answer)) (memory : Memory)
      (quiet : Quiet history memory) :
      Knowing package (fun _ _ => True) history memory :=
    ⟨quiet, trivial⟩
  refine Program.Triple.strengthen ?_ start
  refine storing_triple onFiles
    (fun pkg fwpkg => { fwpkg with pkg := pkg })
    (fun fwpkg => PackageAt filename fwpkg.pkg) ?_ fun pkg => ?_
  · intro fwpkg history answer _
    exact ⟨_, List.mem_append_right _ (List.mem_singleton_self _), opens,
      rfl⟩
  · refine Program.triple_ite (fun _ => ?_) fun _ =>
      Program.triple_pure fun _ _ => id
    exact (fwpkgFail_triple (quiet_filed package) _).strengthen
      fun _ _ => And.left

/-- One of the files is looked up. -/
theorem locateFile_triple (package : Package) (fname missing : String)
    (store : Int → State.Fwpkg → State.Fwpkg)
    (Before After : State.Fwpkg → List (Call × Answer) → Prop)
    (stores :
      ∀ fwpkg history answer, Before fwpkg history →
        After (store answer.ret fwpkg)
          (history ++ [(.zipNameLocate fwpkg.pkg fname, answer)])) :
    Program.Triple (Knowing package Before)
      (locateFile package fname missing store)
      (fun _ => Knowing package After) (stopped filename) := by
  refine Program.triple_get_bind fun read => ?_
  have start (history : List (Call × Answer)) (memory : Memory) :
      memory = read ∧ Knowing package Before history memory →
        Knowing package
          (fun fwpkg history => fwpkg = package.get read ∧
            Before fwpkg history)
          history memory := by
    rintro ⟨rfl, quiet, before⟩
    exact ⟨quiet, rfl, before⟩
  refine Program.Triple.strengthen ?_ start
  refine storing_triple (by trivial) store After ?_ fun index => ?_
  · rintro _ history answer ⟨rfl, before⟩
    exact stores _ history answer before
  · refine Program.triple_ite (fun _ => ?_) fun _ =>
      Program.triple_pure fun _ _ => id
    exact Program.triple_unwinding
      ((fwpkgFail_triple (quiet_filed package) _).strengthen
        fun _ _ => And.left)
      Passes.rfl (fileCall_stopped (by trivial))

/-- The package has been opened, and its two files have been found. -/
structure Located (filename : Option String) (fwpkg : State.Fwpkg)
    (history : List (Call × Answer)) : Prop where
  package : PackageAt filename fwpkg.pkg history
  map : NameAt fwpkg.pkg "map.txt" fwpkg.mapIndex history
  bitstream : NameAt fwpkg.pkg "ov3.bit" fwpkg.bitstreamIndex history

/-- A package has been opened. -/
def Opened (filename : Option String) (package : Package) :
    Assertion Call Answer Memory :=
  Knowing package (Located filename)

theorem fwpkgLocateFiles_triple (package : Package) :
    Program.Triple
      (Knowing package fun fwpkg => PackageAt filename fwpkg.pkg)
      (fwpkgLocateFiles package) (fun _ => Opened filename package)
      (stopped filename) := by
  refine Program.triple_bind (locateFile_triple package _ _ _ _
    (fun fwpkg history => PackageAt filename fwpkg.pkg history ∧
      NameAt fwpkg.pkg "map.txt" fwpkg.mapIndex history) ?_) fun _ => ?_
  · intro fwpkg history answer opened
    exact ⟨stays_packageAt _ _ _ opened, answer,
      List.mem_append_right _ (List.mem_singleton_self _), rfl⟩
  · refine locateFile_triple package _ _ _ _ (Located filename) ?_
    rintro fwpkg history answer ⟨opened, map⟩
    exact ⟨stays_packageAt _ _ _ opened, stays_nameAt _ _ _ _ map, answer,
      List.mem_append_right _ (List.mem_singleton_self _), rfl⟩

theorem fwpkgInit_triple (package : Package) (filename : Option String) :
    Program.Triple Quiet (fwpkgInit package filename)
      (fun _ => Opened filename package) (stopped filename) := by
  have cleared : Program.Triple Quiet (clear package) (fun _ => Quiet)
      (stopped filename) :=
    Program.triple_modify fun _ _ => id
  cases filename with
  | some filename =>
      refine Program.triple_bind cleared fun _ => ?_
      exact Program.triple_bind (openPackage_triple package trivial rfl)
        fun _ => fwpkgLocateFiles_triple package
  | none =>
      refine Program.triple_bind cleared fun _ => ?_
      refine fileCall_skip (quiet_filed package) (by trivial) fun src => ?_
      refine Program.triple_ite
        (fun _ => fwpkgFail_triple (quiet_filed package) _) fun _ => ?_
      exact Program.triple_bind (openPackage_triple package trivial rfl)
        fun _ => fwpkgLocateFiles_triple package

/-! ## Reading the map -/

/-- The map has been read and accepted. -/
def Mapped (filename : Option String) (package : Package) :
    Assertion Call Answer Memory :=
  fun history memory =>
    Opened filename package history memory ∧
      ∃ text, ReadFrom (package.get memory).pkg "map.txt" text history ∧
        regInit text = .accepted memory.stackReg.addr

theorem opened_filed (package : Package) :
    Filed filename package (Opened filename package) := by
  refine knowing_filed ?_ ?_
  · rintro fwpkg history entry ⟨opened, map, bitstream⟩
    exact ⟨stays_packageAt _ _ entry opened, stays_nameAt _ _ _ entry map,
      stays_nameAt _ _ _ entry bitstream⟩
  · exact fun _ _ _ located =>
      ⟨located.package, located.map, located.bitstream⟩

theorem mapped_filed (package : Package) :
    Filed filename package (Mapped filename package) where
  call := by
    rintro call history memory answer onFiles ⟨opened, text, read, accepted⟩
    exact ⟨(opened_filed package).call answer onFiles opened, text,
      stays_readFrom _ _ _ _ read, accepted⟩
  error := by
    rintro history memory message ⟨opened, text, read, accepted⟩
    refine ⟨(opened_filed package).error message opened, text, ?_, ?_⟩
    · rw [get_set]
      exact read
    · cases package <;> exact accepted
  stop := fun mapped => mapped.1.1.guarded

/-- The content comes from the file whose index the package holds. -/
theorem readNamed_triple {package : Package}
    {Kept : Assertion Call Answer Memory}
    (filed : Filed filename package Kept)
    {fname : String} {index : State.Fwpkg → Int}
    (same :
      ∀ fwpkg text,
        index { fwpkg with errorStr := text } = index fwpkg)
    (named :
      ∀ history memory, Kept history memory →
        NameAt (package.get memory).pkg fname (index (package.get memory))
          history)
    (size : Nat) :
    Program.Triple Kept
      (Program.get >>= fun memory =>
        fwpkgReadFile package size (index (package.get memory)))
      (fun content history memory =>
        Kept history memory ∧
          ReadFrom (package.get memory).pkg fname content history)
      (stopped filename) := by
  refine Program.triple_get_bind fun before => ?_
  have filed' := filed.and
    (fun fwpkg _ => index fwpkg = index (package.get before))
    (fun _ _ _ => id) fun fwpkg text _ => (same fwpkg text).trans
  refine (fwpkgReadFile_triple filed' size _).weaken ?_ ?_ fun _ _ _ => id
  · rintro history memory ⟨rfl, kept⟩
    exact ⟨kept, rfl⟩
  · rintro content history memory ⟨⟨kept, index⟩, read⟩
    exact ⟨kept, _, index ▸ named history memory kept, read⟩

/-- The text of the map has been read. -/
def ReadMap (filename : Option String) (package : Package)
    (text : List UInt8) : Assertion Call Answer Memory :=
  fun history memory => Opened filename package history memory ∧
    ReadFrom (package.get memory).pkg "map.txt" text history

theorem fwpkgReadMap_triple (package : Package) (size : Nat) :
    Program.Triple (Opened filename package) (fwpkgReadMap package size)
      (ReadMap filename package) (stopped filename) :=
  readNamed_triple (opened_filed package) (fun _ _ => rfl)
    (fun _ _ opened => opened.2.map) size

/-- What `reg_init` writes is not part of a package. -/
theorem readMap_stackReg {package : Package} {text : List UInt8}
    (reg : StackReg) (start : ReadMap filename package text history memory) :
    ReadMap filename package text history
      { memory with stackReg := reg } := by
  cases package <;> exact start

theorem regFail_triple {α : Type} {Kept : Assertion Call Answer Memory}
    {post : α → Assertion Call Answer Memory} (text : ErrorStr)
    (stop :
      ∀ history memory, Kept history memory → Guarded filename history) :
    Program.Triple Kept (regFail text : Action α) post
      (stopped filename) :=
  Program.triple_modify_fail stop

theorem initReg_triple (package : Package) (text : List UInt8) :
    Program.Triple (ReadMap filename package text) (initReg text)
      (fun _ => Mapped filename package) (stopped filename) := by
  have guarded (history : List (Call × Answer)) (memory : Memory)
      (start : ReadMap filename package text history memory) :
      Guarded filename history :=
    start.1.1.guarded
  have cleared : Program.Triple (ReadMap filename package text)
      (Program.modify fun memory =>
        { memory with stackReg.errorStr := ⟨.earlier, none⟩ })
      (fun _ => ReadMap filename package text) (stopped filename) :=
    Program.triple_modify fun _ _ => readMap_stackReg _
  refine Program.triple_bind cleared fun _ => ?_
  cases accepted : regInit text with
  | accepted addr =>
      refine Program.triple_modify fun history memory start => ?_
      have stored :=
        readMap_stackReg { memory.stackReg with addr := addr } start
      exact ⟨stored.1, text, stored.2, accepted⟩
  | rejected message => exact regFail_triple _ guarded
  | aborted => exact Program.triple_abort guarded

theorem regInitFromFwpkg_triple (package : Package) :
    Program.Triple (Opened filename package) (regInitFromFwpkg package)
      (fun _ => Mapped filename package) (stopped filename) := by
  have filed : Filed filename package (Opened filename package) :=
    opened_filed package
  have sized : Program.Triple (Opened filename package)
      (fwpkgMapSize package) (fun _ => Opened filename package)
      (stopped filename) :=
    Program.triple_get_bind fun _ =>
      (fwpkgFileSize_triple filed _).strengthen fun _ _ => And.right
  refine Program.triple_bind sized fun mapSize => ?_
  refine fileCall_skip filed (by trivial) fun tmp => ?_
  refine Program.triple_ite
    (fun _ => regFail_triple _ fun _ _ => filed.stop) fun _ => ?_
  have unread : Program.Triple (stopped filename .failed)
      (Program.get >>= fun memory =>
        (regFail (package.get memory).errorStr : Action Unit))
      (fun _ => Mapped filename package) (stopped filename) :=
    Program.triple_get_bind fun _ => regFail_triple _ fun _ _ => And.right
  refine Program.triple_bind (Program.triple_unwinding
    (Program.triple_attempt_bind (fwpkgReadMap_triple package _) Passes.rfl
      (initReg_triple package) unread)
    Passes.rfl (fileCall_stopped (by trivial))) fun _ => ?_
  exact fileCall_skip (mapped_filed package) (by trivial) fun _ =>
    Program.triple_pure fun _ _ => id

end OpenVizsla.Device.PackageFiles
