import OpenVizsla.Foundation.Ledger
import OpenVizsla.Device.PackageFiles

/-!
# What a load of a firmware takes and gives back

Blocks of memory, packages, their files and their sources.  Whatever happens
during `ov_load_firmware`, nothing is given back twice, and when it ends only
a source that `zip_open_from_source` has refused is left.
-/

namespace OpenVizsla.Device.PackageLedger

open OpenVizsla.Foundation.Calls
open OpenVizsla.Foundation.Ledger
open OpenVizsla.Register.Parse
open OpenVizsla.Device.State
open OpenVizsla.Device.Cha
open OpenVizsla.Device.Bit
open OpenVizsla.Device.Fwpkg
open OpenVizsla.Device.Ov
open OpenVizsla.Device.Upkeep
open OpenVizsla.Device.PackageFiles

/-! ## Resources -/

/-- What the allocator and libzip hand out. -/
inductive Resource where
  | block (ptr : Int)
  | source (src : Int)
  | package (pkg : Int)
  | file (file : Int)
deriving DecidableEq

/-- A result is something unless it is `NULL`. -/
def unlessNull (ptr : Int) (resource : Resource) : Multiset Resource :=
  if ptr = 0 then 0 else {resource}

@[simp]
theorem unlessNull_of_eq {ptr : Int} (null : ptr = 0) (resource : Resource) :
    unlessNull ptr resource = 0 :=
  if_pos null

@[simp]
theorem unlessNull_of_ne {ptr : Int} (nonnull : ptr ≠ 0)
    (resource : Resource) : unlessNull ptr resource = {resource} :=
  if_neg nonnull

def takes : Call × Answer → Multiset Resource
  | (.malloc _, answer) => unlessNull answer.ret (.block answer.ret)
  | (.zipSourceBufferCreate, answer) =>
      unlessNull answer.ret (.source answer.ret)
  | (.zipOpen _, answer) => unlessNull answer.ret (.package answer.ret)
  | (.zipOpenFromSource _, answer) =>
      unlessNull answer.ret (.package answer.ret)
  | (.zipFopenIndex _ _, answer) => unlessNull answer.ret (.file answer.ret)
  | _ => 0

/-- A package that is opened from a source owns the source. -/
def gives : Call × Answer → Multiset Resource
  | (.free ptr, _) => {.block ptr}
  | (.zipOpenFromSource src, answer) => unlessNull answer.ret (.source src)
  | (.zipDiscard pkg, _) => {.package pkg}
  | (.zipFclose file, _) => {.file file}
  | _ => 0

/-- The source that is left when no package can be opened from it. -/
def leftOver : Call × Answer → Multiset Resource
  | (.zipOpenFromSource src, answer) =>
      if answer.ret = 0 then {.source src} else 0
  | _ => 0

def terms : Terms (Call × Answer) Resource where
  takes := takes
  gives := gives

/-- What is held besides the sources that are left over. -/
def Owing (held : Multiset Resource) (history : List (Call × Answer)) :
    Prop :=
  terms.Holding (held + (history.map leftOver).sum) history

variable {history : List (Call × Answer)} {memory : Memory}
  {held left : Multiset Resource}

/-- What a call gives back or leaves over must be held. -/
theorem Owing.concat (owing : Owing held history) {entry : Call × Answer}
    (split : held = gives entry + leftOver entry + left) :
    Owing (left + takes entry) (history ++ [entry]) := by
  have before : held + (history.map leftOver).sum =
      terms.gives entry +
        (left + leftOver entry + (history.map leftOver).sum) := by
    rw [split, terms]
    abel
  have settled := Terms.Holding.concat owing before
  have after : left + takes entry +
        ((history ++ [entry]).map leftOver).sum =
      left + leftOver entry + (history.map leftOver).sum +
        terms.takes entry := by
    rw [List.map_append, List.sum_append, List.map_singleton,
      List.sum_singleton, terms]
    abel
  rw [Owing, after]
  exact settled

theorem Owing.sound (owing : Owing held history) : terms.Sound history :=
  Terms.Holding.sound owing

/-- What is held when a run fails, and that all is sound when it is cut. -/
def stopping (failure : Assertion Call Answer Memory) :
    Stop Call → Assertion Call Answer Memory
  | .failed => failure
  | .aborted => fun history _ => terms.Sound history
  | .waiting _ => fun history _ => terms.Sound history

theorem passes_stopping {failure failure' : Assertion Call Answer Memory} :
    Passes (stopping failure) (stopping failure') := by
  intro reason other history memory sound
  cases reason with
  | failed => exact absurd rfl other
  | aborted => exact sound
  | waiting query => exact sound

/-! ## Calls on the ledger -/

/-- What a function holds, besides what the memory says its callers hold. -/
def Framed (frame : Memory → Multiset Resource) (held : Multiset Resource) :
    Assertion Call Answer Memory :=
  fun history memory => Owing (held + frame memory) history

/-- The calls whose terms are empty. -/
def Neutral : Call → Prop
  | .ftdi _ _ => True
  | .zipNameLocate _ _ => True
  | .zipStatIndex _ _ => True
  | .zipFread _ _ => True
  | _ => False

theorem neutral_cases {call : Call} (neutral : Neutral call)
    (answer : Answer) :
    takes (call, answer) = 0 ∧ gives (call, answer) = 0 ∧
      leftOver (call, answer) = 0 := by
  cases call <;> first | exact neutral.elim | exact ⟨rfl, rfl, rfl⟩

section Calls

variable {frame : Memory → Multiset Resource} {α : Type}
  {post : α → Assertion Call Answer Memory}
  {failure : Assertion Call Answer Memory}

theorem Framed.sound (framed : Framed frame held history memory) :
    terms.Sound history :=
  Owing.sound framed

/-- A change of the memory that the frame does not see. -/
theorem Framed.change (framed : Framed frame held history memory)
    {memory' : Memory} (same : frame memory' = frame memory) :
    Framed frame held history memory' := by
  rwa [Framed, same]

theorem Framed.concat (framed : Framed frame held history memory)
    {entry : Call × Answer}
    (split : held = gives entry + leftOver entry + left) :
    Framed frame (left + takes entry) (history ++ [entry]) memory := by
  have whole : held + frame memory =
      gives entry + leftOver entry + (left + frame memory) := by
    rw [split, add_assoc]
  have settled := Owing.concat framed whole
  rwa [add_right_comm] at settled

theorem Framed.pass {call : Call} (neutral : Neutral call) (answer : Answer)
    (framed : Framed frame held history memory) :
    Framed frame held (history ++ [(call, answer)]) memory := by
  obtain ⟨takes, gives, leftOver⟩ := neutral_cases neutral answer
  have split : held =
      PackageLedger.gives (call, answer) +
        PackageLedger.leftOver (call, answer) + held := by
    rw [gives, leftOver, zero_add, zero_add]
  have later := framed.concat split
  rwa [takes, add_zero] at later

theorem ledgerCall_triple {call : Call} {left : Answer → Multiset Resource}
    (split :
      ∀ answer,
        held = gives (call, answer) + leftOver (call, answer) +
          left answer) :
    Program.Triple (Framed frame held) (Program.call call)
      (fun answer => Framed frame (left answer + takes (call, answer)))
      (stopping failure) :=
  Program.triple_call (fun _ _ => Framed.sound) fun _ _ answer framed =>
    framed.concat (split answer)

/-- A call that hands something out, or `NULL`. -/
theorem takingCall_bind {call : Call} (resource : Int → Resource)
    {lent : Multiset Resource}
    (taking :
      ∀ answer,
        takes (call, answer) = unlessNull answer.ret (resource answer.ret) ∧
          gives (call, answer) + leftOver (call, answer) = lent)
    {next : Answer → Action α}
    (refused :
      ∀ answer, answer.ret = 0 →
        Program.Triple (Framed frame held) (next answer) post
          (stopping failure))
    (taken :
      ∀ answer, answer.ret ≠ 0 →
        Program.Triple (Framed frame (held + {resource answer.ret}))
          (next answer) post (stopping failure)) :
    Program.Triple (Framed frame (lent + held)) (Program.call call >>= next)
      post (stopping failure) := by
  have split (answer : Answer) : lent + held =
      gives (call, answer) + leftOver (call, answer) + held := by
    rw [(taking answer).2]
  refine Program.triple_bind (ledgerCall_triple split) fun answer => ?_
  rw [(taking answer).1]
  by_cases null : answer.ret = 0
  · rw [unlessNull_of_eq null, add_zero]
    exact refused answer null
  · rw [unlessNull_of_ne null]
    exact taken answer null

/-- A call that gives something back. -/
theorem givingCall_triple {call : Call} {resource : Resource}
    (giving :
      ∀ answer, gives (call, answer) = {resource} ∧
        takes (call, answer) = 0 ∧ leftOver (call, answer) = 0) :
    Program.Triple (Framed frame (held + {resource})) (Program.call call)
      (fun _ => Framed frame held) (stopping failure) := by
  have split (answer : Answer) : held + {resource} =
      gives (call, answer) + leftOver (call, answer) + held := by
    rw [(giving answer).1, (giving answer).2.2, add_zero, add_comm]
  refine (ledgerCall_triple split).weaken (fun _ _ => id) ?_ fun _ _ _ => id
  intro answer history memory framed
  rwa [(giving answer).2.1, add_zero] at framed

theorem neutralCall_bind {call : Call} (neutral : Neutral call)
    {next : Answer → Action α}
    (following :
      ∀ answer,
        Program.Triple (Framed frame held) (next answer) post
          (stopping failure)) :
    Program.Triple (Framed frame held) (Program.call call >>= next) post
      (stopping failure) := by
  have called : Program.Triple (Framed frame held) (Program.call call)
      (fun _ => Framed frame held) (stopping failure) :=
    Program.triple_call (fun _ _ => Framed.sound) fun _ _ =>
      Framed.pass neutral
  exact Program.triple_bind called following

end Calls

/-! ## Packages -/

/-- The frame does not depend on the error string of the package. -/
def Indifferent (package : Package) (frame : Memory → Multiset Resource) :
    Prop :=
  ∀ memory text,
    frame (package.set { package.get memory with errorStr := text } memory) =
      frame memory

section Files

variable {package : Package} {frame : Memory → Multiset Resource}
  (indifferent : Indifferent package frame) {α : Type}
  {post : α → Assertion Call Answer Memory}
  {failure : Assertion Call Answer Memory}
include indifferent

theorem setError_balanced (text : String) :
    Program.Triple (Framed frame held) (setError package text)
      (fun _ => Framed frame held) (stopping failure) := by
  exact Program.triple_modify fun history memory framed =>
    framed.change (indifferent memory _)

theorem fwpkgFail_balanced (text : String) :
    Program.Triple (Framed frame held) (fwpkgFail package text : Action α)
      post (stopping (Framed frame held)) :=
  Program.triple_bind (setError_balanced indifferent text) fun _ =>
    Program.triple_fail fun _ _ => id

theorem fwpkgFileSize_balanced (index : Int) :
    Program.Triple (Framed frame held) (fwpkgFileSize package index)
      (fun _ => Framed frame held) (stopping failure) := by
  have kept : ∀ history memory,
      Framed frame held history memory → Framed frame held history memory :=
    fun _ _ => id
  refine Program.triple_bind (Program.triple_get kept) fun read => ?_
  refine neutralCall_bind (by trivial) fun sb => ?_
  refine Program.triple_ite (fun _ => ?_) fun _ => ?_
  · exact Program.triple_bind (setError_balanced indifferent _) fun _ =>
      Program.triple_pure kept
  · cases sb.size with
    | none =>
        exact Program.triple_bind (setError_balanced indifferent _) fun _ =>
          Program.triple_pure kept
    | some size => exact Program.triple_pure kept

/-- The file is closed on every way out. -/
theorem fwpkgReadFile_balanced (size : Nat) (index : Int) :
    Program.Triple (Framed frame held) (fwpkgReadFile package size index)
      (fun _ => Framed frame held) (stopping (Framed frame held)) := by
  refine Program.triple_get_bind fun read => ?_
  refine Program.Triple.strengthen ?_ fun _ _ start =>
    (zero_add held).symm ▸ start.2
  refine takingCall_bind .file
    (fun answer => ⟨rfl, rfl⟩) (fun file null => ?_) fun file opened => ?_
  · rw [if_pos null]
    exact fwpkgFail_balanced indifferent _
  · rw [if_neg opened]
    refine neutralCall_bind (by trivial) fun read => ?_
    have closed : Program.Triple (Framed frame (held + {.file file.ret}))
        (Program.call (.zipFclose file.ret)) (fun _ => Framed frame held)
        (stopping (Framed frame held)) :=
      givingCall_triple fun _ => ⟨rfl, rfl, rfl⟩
    refine Program.triple_ite (fun _ => ?_) fun _ => ?_
    · exact Program.triple_unwinding (fwpkgFail_balanced indifferent _)
        passes_stopping closed
    · exact Program.triple_bind closed fun _ =>
        Program.triple_pure fun _ _ => id

end Files

/-- Nothing is in the frame. -/
def nothing : Memory → Multiset Resource :=
  fun _ => 0

/-- The open package is in the frame. -/
def packageOf (package : Package) : Memory → Multiset Resource :=
  fun memory => {.package (package.get memory).pkg}

theorem indifferent_nothing (package : Package) :
    Indifferent package nothing :=
  fun _ _ => rfl

theorem indifferent_packageOf (package : Package) :
    Indifferent package (packageOf package) := by
  intro memory text
  cases package <;> rfl

theorem framed_nothing {pkg : Int} {package : Package}
    (same : (package.get memory).pkg = pkg) :
    Framed (packageOf package) held history memory ↔
      Framed nothing (held + {.package pkg}) history memory := by
  rw [Framed, Framed, nothing, add_zero, packageOf, same]

section Packages

variable (package : Package)

theorem openPackage_balanced {opening : Call} {lent : Multiset Resource}
    (opens :
      ∀ answer,
        takes (opening, answer) =
            unlessNull answer.ret (.package answer.ret) ∧
          gives (opening, answer) + leftOver (opening, answer) = lent) :
    Program.Triple (Framed nothing (lent + held))
      (openPackage package opening) (fun _ => Framed (packageOf package) held)
      (stopping (Framed nothing held)) := by
  refine takingCall_bind .package opens (fun pkg null => ?_)
    fun pkg opened => ?_
  · have stored : Program.Triple (Framed nothing held)
        (Program.modify fun memory =>
          package.set { package.get memory with pkg := pkg.ret } memory)
        (fun _ => Framed nothing held) (stopping (Framed nothing held)) :=
      Program.triple_modify fun _ _ framed => framed.change rfl
    refine Program.triple_bind stored fun _ => ?_
    rw [if_pos null]
    exact fwpkgFail_balanced (indifferent_nothing package) _
  · have stored : Program.Triple
        (Framed nothing (held + {.package pkg.ret}))
        (Program.modify fun memory =>
          package.set { package.get memory with pkg := pkg.ret } memory)
        (fun _ => Framed (packageOf package) held)
        (stopping (Framed nothing held)) := by
      refine Program.triple_modify fun history memory framed => ?_
      refine (framed_nothing ?_).mpr (framed.change rfl)
      cases package <;> rfl
    refine Program.triple_bind stored fun _ => ?_
    rw [if_neg opened]
    exact Program.triple_pure fun _ _ => id

/-- A package without one of its files is closed. -/
theorem locateFile_balanced (fname missing : String)
    {store : Int → State.Fwpkg → State.Fwpkg}
    (same : ∀ index fwpkg, (store index fwpkg).pkg = fwpkg.pkg) :
    Program.Triple (Framed (packageOf package) held)
      (locateFile package fname missing store)
      (fun _ => Framed (packageOf package) held)
      (stopping (Framed nothing held)) := by
  refine Program.triple_get_bind fun read => ?_
  have start (history : List (Call × Answer)) (memory : Memory) :
      memory = read ∧ Framed (packageOf package) held history memory →
        (package.get memory).pkg = (package.get read).pkg ∧
          Framed (packageOf package) held history memory := by
    rintro ⟨rfl, framed⟩
    exact ⟨rfl, framed⟩
  refine Program.Triple.strengthen ?_ start
  have located : Program.Triple
      (fun history memory =>
        (package.get memory).pkg = (package.get read).pkg ∧
          Framed (packageOf package) held history memory)
      (Program.call (.zipNameLocate (package.get read).pkg fname))
      (fun _ history memory =>
        (package.get memory).pkg = (package.get read).pkg ∧
          Framed (packageOf package) held history memory)
      (stopping (Framed nothing held)) :=
    Program.triple_call (fun _ _ kept => kept.2.sound)
      fun _ _ answer kept => ⟨kept.1, kept.2.pass (by trivial) answer⟩
  have stored (index : Int) : Program.Triple
      (fun history memory =>
        (package.get memory).pkg = (package.get read).pkg ∧
          Framed (packageOf package) held history memory)
      (Program.modify fun memory =>
        package.set (store index (package.get memory)) memory)
      (fun _ history memory =>
        (package.get memory).pkg = (package.get read).pkg ∧
          Framed (packageOf package) held history memory)
      (stopping (Framed nothing held)) := by
    refine Program.triple_modify fun history memory kept => ?_
    have stays : (package.get
        (package.set (store index (package.get memory)) memory)).pkg =
          (package.get memory).pkg := by
      cases package <;> exact same _ _
    refine ⟨stays.trans kept.1, kept.2.change ?_⟩
    rw [packageOf, stays, packageOf]
  refine Program.triple_bind located fun index => ?_
  refine Program.triple_bind (stored index.ret) fun _ => ?_
  refine Program.triple_ite (fun _ => ?_) fun _ =>
    Program.triple_pure fun _ _ => And.right
  refine Program.triple_unwinding
    ((fwpkgFail_balanced (indifferent_nothing package) _).strengthen
      fun _ _ kept => (framed_nothing kept.1).mp kept.2)
    passes_stopping ?_
  exact givingCall_triple fun _ => ⟨rfl, rfl, rfl⟩

theorem fwpkgLocateFiles_balanced :
    Program.Triple (Framed (packageOf package) held)
      (fwpkgLocateFiles package) (fun _ => Framed (packageOf package) held)
      (stopping (Framed nothing held)) := by
  refine Program.triple_bind
    (locateFile_balanced package _ _ fun _ _ => rfl) fun _ => ?_
  exact locateFile_balanced package _ _ fun _ _ => rfl

/-- A source that is refused is left over. -/
theorem gives_add_leftOver (src : Int) (answer : Answer) :
    gives (.zipOpenFromSource src, answer) +
      leftOver (.zipOpenFromSource src, answer) = {.source src} := by
  by_cases null : answer.ret = 0
  · simp [gives, leftOver, null]
  · simp [gives, leftOver, null]

theorem fwpkgInit_balanced (filename : Option String) :
    Program.Triple (Framed nothing held) (fwpkgInit package filename)
      (fun _ => Framed (packageOf package) held)
      (stopping (Framed nothing held)) := by
  have cleared : Program.Triple (Framed nothing held) (clear package)
      (fun _ => Framed nothing held) (stopping (Framed nothing held)) :=
    Program.triple_modify fun _ _ framed => framed.change rfl
  cases filename with
  | some filename =>
      refine Program.triple_bind cleared fun _ => ?_
      have opened : Program.Triple (Framed nothing (0 + held))
          (openPackage package (.zipOpen filename))
          (fun _ => Framed (packageOf package) held)
          (stopping (Framed nothing held)) :=
        openPackage_balanced package fun _ => ⟨rfl, rfl⟩
      rw [zero_add] at opened
      exact Program.triple_bind opened fun _ =>
        fwpkgLocateFiles_balanced package
  | none =>
      refine Program.triple_bind cleared fun _ => ?_
      refine Program.Triple.strengthen ?_ fun _ _ start =>
        (zero_add held).symm ▸ start
      refine takingCall_bind .source (fun _ => ⟨rfl, rfl⟩)
        (fun src null => ?_) fun src made => ?_
      · rw [if_pos null]
        exact fwpkgFail_balanced (indifferent_nothing package) _
      · rw [if_neg made, add_comm held]
        refine Program.triple_bind (openPackage_balanced package
          fun answer => ⟨rfl, gives_add_leftOver src.ret answer⟩) fun _ => ?_
        exact fwpkgLocateFiles_balanced package

/-! ## Register maps -/

/-- What `reg_init` writes is in no frame. -/
theorem packageOf_stackReg (reg : StackReg) (memory : Memory) :
    packageOf package { memory with stackReg := reg } =
      packageOf package memory := by
  cases package <;> rfl

theorem initReg_balanced (text : List UInt8) :
    Program.Triple (Framed (packageOf package) held) (initReg text)
      (fun _ => Framed (packageOf package) held)
      (stopping (Framed (packageOf package) held)) := by
  have stored {change : Memory → StackReg} :
      Program.Triple (Framed (packageOf package) held)
        (Program.modify fun memory =>
          { memory with stackReg := change memory })
        (fun _ => Framed (packageOf package) held)
        (stopping (Framed (packageOf package) held)) :=
    Program.triple_modify fun _ memory framed =>
      framed.change (packageOf_stackReg package _ memory)
  refine Program.triple_bind stored fun _ => ?_
  cases regInit text with
  | accepted addr => exact stored
  | rejected message =>
      exact Program.triple_bind stored fun _ =>
        Program.triple_fail fun _ _ => id
  | aborted => exact Program.triple_abort fun _ _ => Framed.sound

/-- The block for the map is freed on every way out. -/
theorem regInitFromFwpkg_balanced :
    Program.Triple (Framed (packageOf package) held)
      (regInitFromFwpkg package) (fun _ => Framed (packageOf package) held)
      (stopping (Framed (packageOf package) held)) := by
  have indifferent := indifferent_packageOf package
  have failing {held : Multiset Resource} {text : Memory → ErrorStr} :
      Program.Triple (Framed (packageOf package) held)
        (Program.get >>= fun memory =>
          (regFail (text memory) : Action Unit))
        (fun _ => Framed (packageOf package) held)
        (stopping (Framed (packageOf package) held)) :=
    Program.triple_get_bind fun _ =>
      Program.triple_modify_fail fun _ memory start =>
        start.2.change (packageOf_stackReg package _ memory)
  have sized : Program.Triple (Framed (packageOf package) held)
      (fwpkgMapSize package) (fun _ => Framed (packageOf package) held)
      (stopping (Framed (packageOf package) held)) :=
    Program.triple_get_bind fun _ =>
      (fwpkgFileSize_balanced indifferent _).strengthen fun _ _ => And.right
  refine Program.triple_bind sized fun mapSize => ?_
  refine Program.Triple.strengthen ?_ fun _ _ start =>
    (zero_add held).symm ▸ start
  refine takingCall_bind .block (fun _ => ⟨rfl, rfl⟩) (fun tmp null => ?_)
    fun tmp allocated => ?_
  · rw [if_pos null]
    exact Program.triple_modify_fail fun _ memory framed =>
      framed.change (packageOf_stackReg package _ memory)
  · rw [if_neg allocated]
    have freed : Program.Triple
        (Framed (packageOf package) (held + {.block tmp.ret}))
        (Program.call (.free tmp.ret))
        (fun _ => Framed (packageOf package) held)
        (stopping (Framed (packageOf package) held)) :=
      givingCall_triple fun _ => ⟨rfl, rfl, rfl⟩
    have read (size : Nat) : Program.Triple
        (Framed (packageOf package) (held + {.block tmp.ret}))
        (fwpkgReadMap package size)
        (fun _ => Framed (packageOf package) (held + {.block tmp.ret}))
        (stopping
          (Framed (packageOf package) (held + {.block tmp.ret}))) :=
      Program.triple_get_bind fun _ =>
        (fwpkgReadFile_balanced indifferent _ _).strengthen
          fun _ _ => And.right
    refine Program.triple_bind (Program.triple_unwinding
      (Program.triple_attempt_bind (read _) Passes.rfl
        (initReg_balanced package) failing)
      passes_stopping freed) fun _ => ?_
    exact Program.triple_bind freed fun _ =>
      Program.triple_pure fun _ _ => id

end Packages

/-! ## The device -/

/-- The property outlives all that the functions on the device do. -/
structure DeviceKeeps (Kept : Assertion Call Answer Memory) : Prop where
  call :
    ∀ {history memory} channel call answer, Kept history memory →
      Kept (history ++ [(.ftdi channel call, answer)]) memory
  change :
    ∀ {history memory memory'}, Kept history memory →
      memory'.fwpkg.pkg = memory.fwpkg.pkg →
        memory'.stackFwpkg.pkg = memory.stackFwpkg.pkg →
          memory'.tmp = memory.tmp → Kept history memory'
  sound : ∀ {history memory}, Kept history memory → terms.Sound history

section DeviceKeeps

variable {Kept : Assertion Call Answer Memory} (keeps : DeviceKeeps Kept)
include keeps

theorem DeviceKeeps.cha : ChaUpkeep Kept Kept where
  call := fun answer _ => keeps.call .a _ answer
  fail := fun _ kept => keeps.change kept rfl rfl rfl

theorem DeviceKeeps.chb : ChbUpkeep Kept Kept where
  call := fun answer _ => keeps.call .b _ answer
  fail := fun _ kept => keeps.change kept rfl rfl rfl

theorem DeviceKeeps.bit : BitUpkeep Kept Kept where
  call := fun answer _ => keeps.call .a _ answer
  fail := fun _ kept => keeps.change kept rfl rfl rfl

theorem DeviceKeeps.startUp : StartUpUpkeep Kept where
  write := fun answer => keeps.call .a _ answer
  chb := keeps.chb
  fail := fun _ kept => keeps.change kept rfl rfl rfl

theorem DeviceKeeps.aged (history : List (Call × Answer)) (memory : Memory)
    (kept : Kept history memory) : Kept history memory.aged :=
  keeps.change kept rfl rfl rfl

theorem DeviceKeeps.errorStr (history : List (Call × Answer))
    (memory : Memory) (text : ErrorStr) (kept : Kept history memory) :
    Kept history { memory with errorStr := text } :=
  keeps.change kept rfl rfl rfl

theorem DeviceKeeps.triple {α : Type} {program : Action α}
    {Failed failure : Assertion Call Answer Memory}
    (upholds : program.Upholds Kept Failed)
    (fails :
      ∀ history memory, Failed history memory → failure history memory) :
    Program.Triple Kept program (fun _ => Kept) (stopping failure) := by
  refine Program.triple_of_upholds upholds ?_ fails
  intro reason other history memory kept
  cases reason with
  | failed => exact absurd rfl other
  | aborted => exact keeps.sound kept
  | waiting query => exact keeps.sound kept

/-- A step on the device, whose failure leaves no less than the property. -/
theorem deviceStep_balanced {α : Type} {errorStr : Memory → ErrorStr}
    {step : Action α} {failure : Assertion Call Answer Memory}
    (upholds : step.Upholds Kept Kept)
    (fails : ∀ history memory, Kept history memory → failure history memory) :
    Program.Triple Kept (reporting errorStr step) (fun _ => Kept)
      (stopping failure) := by
  have reported : Program.Triple Kept (reporting errorStr step)
      (fun _ => Kept) (stopping Kept) :=
    reporting_triple keeps.aged (keeps.triple upholds fun _ _ kept => kept)
      keeps.errorStr
  refine reported.weaken (fun _ _ => id) (fun _ _ _ => id)
    fun reason history memory stopped => ?_
  cases reason with
  | failed => exact fails history memory stopped
  | aborted => exact stopped
  | waiting query => exact stopped

end DeviceKeeps

/-! ## The bitstream -/

/-- The package, and the block for the bitstream as long as there is one. -/
def pending (package : Package) : Memory → Multiset Resource :=
  fun memory =>
    packageOf package memory + unlessNull memory.tmp (.block memory.tmp)

/-- There is no block for a bitstream any more. -/
def Freed (package : Package) (held : Multiset Resource) :
    Assertion Call Answer Memory :=
  fun history memory =>
    memory.tmp = 0 ∧ Framed (packageOf package) held history memory

section Bitstream

variable {package : Package}

theorem packageOf_congr {memory memory' : Memory}
    (device : memory'.fwpkg.pkg = memory.fwpkg.pkg)
    (stack : memory'.stackFwpkg.pkg = memory.stackFwpkg.pkg) :
    packageOf package memory' = packageOf package memory := by
  cases package with
  | device => exact congrArg (fun pkg => {Resource.package pkg}) device
  | stack => exact congrArg (fun pkg => {Resource.package pkg}) stack

theorem pending_keeps :
    DeviceKeeps (Framed (pending package) held) where
  call := fun _ _ answer framed => framed.pass (by trivial) answer
  change := by
    intro history memory memory' framed device stack tmp
    refine framed.change ?_
    rw [pending, pending, packageOf_congr device stack, tmp]
  sound := Framed.sound

theorem freed_keeps : DeviceKeeps (Freed package held) where
  call := fun _ _ answer freed =>
    ⟨freed.1, freed.2.pass (by trivial) answer⟩
  change := by
    intro history memory memory' freed device stack tmp
    exact ⟨tmp.trans freed.1,
      freed.2.change (packageOf_congr device stack)⟩
  sound := fun freed => freed.2.sound

theorem Freed.pending (freed : Freed package held history memory) :
    Framed (pending package) held history memory := by
  have same : PackageLedger.pending package memory =
      packageOf package memory := by
    rw [PackageLedger.pending, freed.1, unlessNull_of_eq rfl, add_zero]
  rw [Framed, same]
  exact freed.2

/-- A block that is not there is not freed. -/
theorem freeTmp_balanced {failure : Assertion Call Answer Memory} :
    Program.Triple (Framed (pending package) held) freeTmp
      (fun _ => Freed package held) (stopping failure) := by
  refine Program.triple_get_bind fun read => ?_
  refine Program.triple_ite (fun some => ?_) fun none => ?_
  · have start (history : List (Call × Answer)) (memory : Memory) :
        memory = read ∧ Framed (pending package) held history memory →
          Framed (packageOf package) (held + {.block read.tmp}) history
            memory := by
      rintro ⟨rfl, framed⟩
      rw [Framed, pending, unlessNull_of_ne some] at framed
      rwa [Framed, add_right_comm, add_assoc]
    refine Program.Triple.strengthen ?_ start
    refine Program.triple_bind (givingCall_triple fun _ => ⟨rfl, rfl, rfl⟩)
      fun _ => ?_
    refine Program.triple_modify fun history memory framed => ⟨rfl, ?_⟩
    exact framed.change (packageOf_congr rfl rfl)
  · refine Program.triple_pure ?_
    rintro history memory ⟨rfl, framed⟩
    have null : memory.tmp = 0 := not_not.mp none
    rw [Framed, pending, unlessNull_of_eq null, add_zero] at framed
    exact ⟨null, framed⟩

theorem indifferent_pending : Indifferent package (pending package) := by
  intro memory text
  cases package <;> rfl

theorem packageOf_keeps :
    DeviceKeeps (Framed (packageOf package) held) where
  call := fun _ _ answer framed => framed.pass (by trivial) answer
  change := fun framed device stack _ =>
    framed.change (packageOf_congr device stack)
  sound := Framed.sound

theorem prepare_balanced :
    Program.Triple (Framed (packageOf package) held) (prepare package)
      (fun _ => Framed (pending package) held)
      (stopping (Framed (packageOf package) held)) := by
  have declared : Program.Triple (Framed (packageOf package) held) declareBit
      (fun _ => Framed (packageOf package) held)
      (stopping (Framed (packageOf package) held)) :=
    Program.triple_modify fun _ _ framed =>
      framed.change (packageOf_congr rfl rfl)
  have sized : Program.Triple (Framed (packageOf package) held)
      (fwpkgBitstreamSize package)
      (fun _ => Framed (packageOf package) held)
      (stopping (Framed (packageOf package) held)) :=
    Program.triple_get_bind fun _ =>
      (fwpkgFileSize_balanced (indifferent_packageOf package) _).strengthen
        fun _ _ => And.right
  refine Program.triple_bind declared fun _ => ?_
  refine Program.triple_bind sized fun size => ?_
  refine Program.Triple.strengthen ?_ fun _ _ start =>
    (zero_add held).symm ▸ start
  refine takingCall_bind .block (fun _ => ⟨rfl, rfl⟩) (fun tmp null => ?_)
    fun tmp allocated => ?_
  · rw [if_pos null]
    exact Program.triple_modify_fail fun _ _ framed =>
      framed.change (packageOf_congr rfl rfl)
  rw [if_neg allocated]
  have stored : Program.Triple
      (Framed (packageOf package) (held + {.block tmp.ret}))
      (Program.modify fun memory : Memory =>
        { memory with tmp := tmp.ret })
      (fun _ => Framed (pending package) held)
      (stopping (Framed (packageOf package) held)) := by
    refine Program.triple_modify fun history memory framed => ?_
    have same : pending package { memory with tmp := tmp.ret } =
        packageOf package memory + {.block tmp.ret} :=
      congrArg₂ (· + ·) (packageOf_congr rfl rfl)
        (unlessNull_of_ne allocated _)
    rw [Framed, same, ← add_assoc, add_right_comm]
    exact framed
  have read : Program.Triple (Framed (pending package) held)
      (fwpkgReadBitstream package size)
      (fun _ => Framed (pending package) held)
      (stopping (Framed (pending package) held)) :=
    Program.triple_get_bind fun _ =>
      (fwpkgReadFile_balanced indifferent_pending _ _).strengthen
        fun _ _ => And.right
  have keeps : DeviceKeeps (Framed (pending package) held) := pending_keeps
  refine Program.triple_bind stored fun _ => ?_
  refine Program.triple_unwinding ?_ passes_stopping
    (freeTmp_balanced.weaken (fun _ _ => id) (fun _ _ _ => And.right)
      fun _ _ _ => id)
  refine Program.triple_bind
    (reporting_triple keeps.aged read keeps.errorStr) fun data => ?_
  refine Program.triple_bind
    (deviceStep_balanced keeps
      (bitInit_upholds
        (fun _ _ _ _ kept => keeps.change kept rfl rfl rfl)
        (fun _ _ _ _ kept => keeps.change kept rfl rfl rfl) data)
      fun _ _ => id) fun _ => ?_
  exact deviceStep_balanced keeps (chaSwitchMode_upholds keeps.cha _)
    fun _ _ => id

/-- When it fails, there is a block to be freed or not. -/
theorem programFpga_balanced :
    Program.Triple (Framed (pending package) held) programFpga
      (fun _ => Framed (packageOf package) held)
      (stopping (Framed (pending package) held)) := by
  have keeps : DeviceKeeps (Framed (pending package) held) := pending_keeps
  have freed : DeviceKeeps (Freed package held) := freed_keeps
  refine Program.triple_bind (deviceStep_balanced keeps
    (chbSwitchProgramMode_upholds keeps.chb) fun _ _ => id) fun _ => ?_
  refine Program.triple_bind (deviceStep_balanced keeps
    (bitLoadFirmware_upholds keeps.startUp keeps.bit) fun _ _ => id)
    fun _ => ?_
  refine Program.triple_bind freeTmp_balanced fun _ => ?_
  exact (deviceStep_balanced freed (chaSwitchFifoMode_upholds freed.cha)
    fun _ _ => Freed.pending).weaken (fun _ _ => id)
      (fun _ _ _ => And.right) fun _ _ _ => id

theorem abandonFpga_balanced {failure : Assertion Call Answer Memory} :
    Program.Triple (Framed (pending package) held) abandonFpga
      (fun _ => Framed (packageOf package) held) (stopping failure) := by
  have keeps : DeviceKeeps (Framed (pending package) held) := pending_keeps
  have switched : Program.Triple (Framed (pending package) held)
      chaSwitchFifoMode.attempt (fun _ => Framed (pending package) held)
      (stopping failure) :=
    keeps.triple
      (Program.upholds_attempt (chaSwitchFifoMode_upholds keeps.cha))
      fun _ _ failed => failed
  refine Program.triple_bind switched fun _ => ?_
  exact freeTmp_balanced.weaken (fun _ _ => id) (fun _ _ _ => And.right)
    fun _ _ _ => id

theorem ovLoadFirmwareFromFwpkg_balanced :
    Program.Triple (Framed (packageOf package) held)
      (ovLoadFirmwareFromFwpkg package)
      (fun _ => Framed (packageOf package) held)
      (stopping (Framed (packageOf package) held)) := by
  refine Program.triple_bind prepare_balanced fun _ => ?_
  exact Program.triple_unwinding programFpga_balanced passes_stopping
    abandonFpga_balanced

end Bitstream

/-! ## The whole load -/

theorem fwpkgDestroy_balanced (package : Package)
    {failure : Assertion Call Answer Memory} :
    Program.Triple (Framed (packageOf package) held) (fwpkgDestroy package)
      (fun _ => Framed nothing held) (stopping failure) := by
  refine Program.triple_get_bind fun read => ?_
  have start (history : List (Call × Answer)) (memory : Memory) :
      memory = read ∧ Framed (packageOf package) held history memory →
        Framed nothing (held + {.package (package.get read).pkg}) history
          memory := by
    rintro ⟨rfl, framed⟩
    exact (framed_nothing rfl).mp framed
  refine Program.Triple.strengthen ?_ start
  exact Program.triple_bind (givingCall_triple fun _ => ⟨rfl, rfl, rfl⟩)
    fun _ => Program.triple_pure fun _ _ => id

theorem ovLoadFirmware_balanced (filename : Option String) :
    Program.Triple (Framed nothing held) (ovLoadFirmware filename)
      (fun _ => Framed nothing held) (stopping (Framed nothing held)) := by
  have changed {change : Memory → Memory} :
      Program.Triple (Framed nothing held) (Program.modify change)
        (fun _ => Framed nothing held) (stopping (Framed nothing held)) :=
    Program.triple_modify fun _ _ framed => framed.change rfl
  have keeps : DeviceKeeps (Framed (packageOf .stack) held) :=
    packageOf_keeps
  refine Program.triple_bind changed fun _ => ?_
  refine Program.triple_bind changed fun _ => ?_
  refine Program.triple_bind
    (reporting_triple (fun _ _ framed => framed.change rfl)
      (fwpkgInit_balanced .stack filename)
      fun _ _ _ framed => framed.change rfl) fun _ => ?_
  have loaded : Program.Triple (Framed (packageOf .stack) held)
      (do
        reporting (fun memory => memory.stackReg.errorStr)
          (regInitFromFwpkg .stack)
        ovLoadFirmwareFromFwpkg .stack
        let memory ← Program.get
        reporting chaErrorStr (chaSetReg memory.stackReg))
      (fun _ => Framed (packageOf .stack) held)
      (stopping (Framed (packageOf .stack) held)) := by
    refine Program.triple_bind
      (reporting_triple keeps.aged (regInitFromFwpkg_balanced .stack)
        keeps.errorStr) fun _ => ?_
    refine Program.triple_bind ovLoadFirmwareFromFwpkg_balanced
      fun _ => ?_
    refine Program.triple_get_bind fun read => ?_
    refine Program.Triple.strengthen ?_ fun _ _ => And.right
    refine reporting_triple keeps.aged ?_ keeps.errorStr
    exact Program.triple_modify fun _ _ framed =>
      keeps.change framed rfl rfl rfl
  refine Program.triple_bind
    (Program.triple_unwinding loaded passes_stopping
      (fwpkgDestroy_balanced .stack)) fun _ => ?_
  exact fwpkgDestroy_balanced .stack

/--
At no moment of a load has anything been given back that was not held.  When
it ends, with or without an error, only the source is left that has been
refused, and all else has been given back as often as it has been taken.
-/
theorem load_balanced (filename : Option String) (memory : Memory)
    (script : List Answer) :
    terms.Sound ((ovLoadFirmware filename).run memory script).calls ∧
      (((ovLoadFirmware filename).run memory script).ending =
            .returned () ∨
          ((ovLoadFirmware filename).run memory script).ending =
            .stopped .failed →
        terms.Holding
            (((ovLoadFirmware filename).run memory script).calls.map
              leftOver).sum
            ((ovLoadFirmware filename).run memory script).calls ∧
          (((ovLoadFirmware filename).run memory script).calls.map
              takes).sum =
            (((ovLoadFirmware filename).run memory script).calls.map
                gives).sum +
              (((ovLoadFirmware filename).run memory script).calls.map
                leftOver).sum) := by
  have initial : Framed nothing 0 [] memory := Terms.holding_nil
  have outcome := (ovLoadFirmware_balanced filename).run initial script
  have settled {history : List (Call × Answer)} {memory : Memory}
      (framed : Framed nothing 0 history memory) :
      terms.Holding (history.map leftOver).sum history ∧
        (history.map takes).sum =
          (history.map gives).sum + (history.map leftOver).sum := by
    rw [Framed, Owing, nothing, add_zero, zero_add] at framed
    exact ⟨framed, framed.balance⟩
  cases ended : ((ovLoadFirmware filename).run memory script).ending with
  | returned value =>
      rw [ended] at outcome
      exact ⟨outcome.sound, fun _ => settled outcome⟩
  | stopped stop =>
      rw [ended] at outcome
      cases stop with
      | failed => exact ⟨outcome.sound, fun _ => settled outcome⟩
      | aborted =>
          refine ⟨outcome, fun ended => ?_⟩
          rcases ended with ended | ended <;> cases ended
      | waiting query =>
          refine ⟨outcome, fun ended => ?_⟩
          rcases ended with ended | ended <;> cases ended

/-- The package that is linked in cannot be opened from its source. -/
theorem load_balanced_refused :
    terms.Holding {.source 7}
      [(.zipSourceBufferCreate, counted 7),
        (.zipOpenFromSource 7, counted 0)] := by
  have calls :
      ((ovLoadFirmware none).run Memory.zeroed
        [counted 7, counted 0]).calls =
        [(.zipSourceBufferCreate, counted 7),
          (.zipOpenFromSource 7, counted 0)] := by
    decide +kernel
  have balanced := (load_balanced none Memory.zeroed
    [counted 7, counted 0]).2 (.inr (by decide +kernel))
  rw [calls] at balanced
  exact balanced.1

end OpenVizsla.Device.PackageLedger
