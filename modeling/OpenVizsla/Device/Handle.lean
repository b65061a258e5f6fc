import OpenVizsla.Foundation.Lifting
import OpenVizsla.Device.PackageLedger

/-!
# The life of a device handle

`ov_new` allocates the device, opens its package and sets up a context of
libftdi for each channel.  `ov_free` takes all this back.  In between, a
client opens the device, loads firmware and sets the speed of the bus, as
often as it likes.
-/

namespace OpenVizsla.Device.Handle

open OpenVizsla.Foundation.Calls
open OpenVizsla.Foundation.Ledger
open OpenVizsla.Foundation.Runs
open OpenVizsla.Device.State
open OpenVizsla.Device.Cha
open OpenVizsla.Device.Fwpkg
open OpenVizsla.Device.Ov
open OpenVizsla.Device.Upkeep
open OpenVizsla.Device.PackageFiles
open OpenVizsla.Device.PackageLedger

/-! ## Calls -/

/-- The calls of the library, and those about the contexts of libftdi. -/
inductive HandleCall where
  | lib (call : Call)
  | ftdiInit (channel : Channel)
  | ftdiSetInterface (channel : Channel)
  | ftdiDeinit (channel : Channel)
deriving DecidableEq, Repr

abbrev HandleAction (α : Type) : Type :=
  Program HandleCall Answer Memory α

def HandleCall.lower : HandleCall → Option Call
  | .lib call => some call
  | _ => none

/-- The calls that are made with contexts that have been set up. -/
def library : Among Call HandleCall where
  raise := .lib
  lower := HandleCall.lower
  lower_raise := fun _ => rfl

/-- A function of the library that makes no other calls. -/
def inside {α : Type} (action : Action α) : HandleAction α :=
  action.raised library

/-- A step whose error string becomes that of the device. -/
def reported {α : Type} (errorStr : Memory → ErrorStr)
    (step : HandleAction α) : HandleAction α := do
  match ← step.attempt with
  | some value => pure value
  | none => do
      Program.modify fun memory =>
        { memory with errorStr := errorStr memory }
      Program.fail

/-! ## Channels -/

/-- A call of libftdi, which has the error string when it fails. -/
def contextCall (call : HandleCall)
    (store : ErrorStr → Memory → Memory) : HandleAction Unit := do
  let answer ← Program.call call
  if answer.ret < 0 then do
    Program.modify (store (ErrorStr.set answer.text))
    Program.fail
  else
    pure ()

/-- `ftdi_init` and `ftdi_set_interface` -/
def initContext (channel : Channel) (store : ErrorStr → Memory → Memory) :
    HandleAction Unit := do
  contextCall (.ftdiInit channel) store
  Program.unwinding (contextCall (.ftdiSetInterface channel) store)
    (Program.call (.ftdiDeinit channel))

def storeCha (text : ErrorStr) (memory : Memory) : Memory :=
  { memory with cha.errorStr := text }

def storeChb (text : ErrorStr) (memory : Memory) : Memory :=
  { memory with chb.errorStr := text }

/--
`reg_init_from_fwpkg(&cha->reg, fwpkg)`.  The map is read beside the channel
and then put into it.
-/
def chaInitReg : Action Unit := do
  match ← (regInitFromFwpkg .device).attempt with
  | some _ =>
      Program.modify fun memory =>
        { memory with
          cha.reg := ⟨memory.stackReg.errorStr.text, memory.stackReg.addr⟩ }
  | none => do
      Program.modify fun memory => storeCha memory.stackReg.errorStr memory
      Program.fail

def chaInit : HandleAction Unit := do
  Program.modify fun memory =>
    { memory with
      cha := Memory.zeroed.cha
      stackReg := Memory.zeroed.stackReg }
  inside chaInitReg
  initContext .a storeCha

def chaDestroy : HandleAction Unit := do
  let _ ← Program.call (.ftdiDeinit .a)

def chbInit : HandleAction Unit := do
  Program.modify fun memory => { memory with chb := Memory.zeroed.chb }
  initContext .b storeChb

def chbDestroy : HandleAction Unit := do
  let _ ← Program.call (.ftdiDeinit .b)

/-! ## Handles -/

/-- `memset(ov, 0, sizeof(struct ov_device))` -/
def clearDevice : Action Unit :=
  Program.modify fun memory =>
    { memory with
      cha := Memory.zeroed.cha
      chb := Memory.zeroed.chb
      fwpkg := Memory.zeroed.fwpkg
      transfer := Memory.zeroed.transfer
      errorStr := Memory.zeroed.errorStr }

/-- `size` is that of `struct ov_device`. -/
def ovNew (size : Nat) (firmwareFilename : Option String) :
    HandleAction Int := do
  let ov ← inside (Program.call (.malloc size))
  if ov.ret = 0 then
    Program.fail
  else do
    inside clearDevice
    Program.unwinding
      (do
        reported (fun memory => memory.fwpkg.errorStr)
          (inside (fwpkgInit .device firmwareFilename))
        Program.unwinding
          (do
            reported chaErrorStr chaInit
            Program.unwinding (reported chbErrorStr chbInit) chaDestroy)
          (inside (fwpkgDestroy .device)))
      (inside (Program.call (.free ov.ret)))
    pure ov.ret

def ovFree (ov : Int) : HandleAction Unit := do
  chbDestroy
  chaDestroy
  inside (fwpkgDestroy .device)
  inside do
    let _ ← Program.call (.free ov)

/-! ## Clients -/

/-- What a client asks for between `ov_new` and `ov_free`. -/
inductive Request where
  | openDevice
  | loadFirmware (filename : Option String)
  | getUsbSpeed
  | setUsbSpeed (speed : OvUsbSpeed)

def Request.action : Request → Action Unit
  | .openDevice => ovOpen
  | .loadFirmware filename => ovLoadFirmware filename
  | .getUsbSpeed => do
      let _ ← ovGetUsbSpeed
  | .setUsbSpeed speed => ovSetUsbSpeed speed

/-- The client goes on after an error. -/
def session : List Request → HandleAction Unit
  | [] => pure ()
  | request :: rest => do
      let _ ← (inside request.action).attempt
      session rest

/-- The whole life of a handle. -/
def life (size : Nat) (firmwareFilename : Option String)
    (requests : List Request) : HandleAction Unit := do
  let ov ← ovNew size firmwareFilename
  session requests
  ovFree ov

/-! ## Contexts -/

/--
A context is set up once and taken down once, and is not used before or after
that.
-/
def contextStep (live : Channel → Bool) :
    HandleCall × Answer → Option (Channel → Bool)
  | (.lib (.ftdi channel _), _) => if live channel then some live else none
  | (.lib _, _) => some live
  | (.ftdiInit channel, answer) =>
      if live channel then none
      else some (Function.update live channel (decide (0 ≤ answer.ret)))
  | (.ftdiSetInterface channel, _) =>
      if live channel then some live else none
  | (.ftdiDeinit channel, _) =>
      if live channel then some (Function.update live channel false)
      else none

/-- Starting without contexts, these are set up after the calls. -/
def Contexts (live : Channel → Bool) (history : List (HandleCall × Answer)) :
    Prop :=
  run contextStep (fun _ => false) history = some live

/-- No context is set up, or only the first one, or both. -/
def noContext : Channel → Bool :=
  fun _ => false

def onlyA : Channel → Bool
  | .a => true
  | .b => false

def bothContexts : Channel → Bool :=
  fun _ => true

theorem contexts_nil : Contexts noContext [] :=
  rfl

theorem Contexts.concat {live next : Channel → Bool}
    {history : List (HandleCall × Answer)} (contexts : Contexts live history)
    {entry : HandleCall × Answer}
    (stepped : contextStep live entry = some next) :
    Contexts next (history ++ [entry]) :=
  run_append_eq_some_iff.mpr
    ⟨live, contexts, run_cons_eq_some_iff.mpr ⟨next, stepped, rfl⟩⟩

theorem keptBy_onFiles (live : Channel → Bool) :
    Program.KeptBy library OnFiles (Contexts live) := by
  intro history call answer onFiles contexts
  refine contexts.concat ?_
  cases call <;> first | exact onFiles.elim | rfl

theorem keptBy_all :
    Program.KeptBy library (fun _ => True) (Contexts bothContexts) := by
  intro history call answer _ contexts
  refine contexts.concat ?_
  cases call <;> rfl

/-! ## Contexts and resources -/

/-- These contexts are set up, and the library has the property. -/
def Owns (live : Channel → Bool) (assertion : Assertion Call Answer Memory) :
    Assertion HandleCall Answer Memory :=
  Program.Framed library (Contexts live) assertion

/-- Nothing has been given back or used that was not there. -/
def Orderly (history : List (HandleCall × Answer)) : Prop :=
  (∃ live, Contexts live history) ∧ terms.Sound (library.lowered history)

/-- What is left by a failure, and that all is orderly when a run is cut. -/
def cut (failure : Assertion HandleCall Answer Memory) :
    Stop HandleCall → Assertion HandleCall Answer Memory
  | .failed => failure
  | .aborted => fun history _ => Orderly history
  | .waiting _ => fun history _ => Orderly history

theorem passes_cut {failure failure' : Assertion HandleCall Answer Memory} :
    Passes (cut failure) (cut failure') := by
  intro reason other history memory orderly
  cases reason with
  | failed => exact absurd rfl other
  | aborted => exact orderly
  | waiting query => exact orderly

section Owns

variable {live before after : Channel → Bool}
  {pre failure : Assertion Call Answer Memory}

theorem inside_triple {α : Type} {action : Action α}
    {post : α → Assertion Call Answer Memory} {Uses : Call → Prop}
    (triple : Program.Triple pre action post (stopping failure))
    (makes : action.Makes Uses)
    (kept : Program.KeptBy library Uses (Contexts live)) :
    Program.Triple (Owns live pre) (inside action)
      (fun value => Owns live (post value)) (cut (Owns live failure)) := by
  refine Program.triple_raised triple makes kept ?_
  rintro reason history memory ⟨stopped, contexts⟩
  cases reason with
  | failed => exact ⟨stopped, contexts⟩
  | aborted => exact ⟨⟨live, contexts⟩, stopped⟩
  | waiting query => exact ⟨⟨live, contexts⟩, stopped⟩

/-- Both contexts are set up, so that all calls can be made. -/
theorem onDevice_triple {α : Type} {action : Action α}
    {post : α → Assertion Call Answer Memory}
    (triple : Program.Triple pre action post (stopping failure)) :
    Program.Triple (Owns bothContexts pre) (inside action)
      (fun value => Owns bothContexts (post value))
      (cut (Owns bothContexts failure)) :=
  inside_triple triple (fun _ _ _ _ => trivial) keptBy_all

theorem onFiles_triple {α : Type} {action : Action α}
    {post : α → Assertion Call Answer Memory}
    (triple : Program.Triple pre action post (stopping failure))
    (upholds :
      action.Upholds (Program.Using OnFiles) (Program.Using OnFiles)) :
    Program.Triple (Owns live pre) (inside action)
      (fun value => Owns live (post value)) (cut (Owns live failure)) :=
  inside_triple triple (Program.makes_of_upholds upholds)
    (keptBy_onFiles live)

theorem Owns.orderly (sound : ∀ history memory, pre history memory →
      terms.Sound history)
    {history : List (HandleCall × Answer)} {memory : Memory}
    (owns : Owns live pre history memory) : Orderly history :=
  ⟨⟨live, owns.2⟩, sound _ _ owns.1⟩

/-- A call about a context, of which the library knows nothing. -/
theorem Owns.concat {history : List (HandleCall × Answer)} {memory : Memory}
    (owns : Owns before pre history memory) {call : HandleCall}
    {answer : Answer} (unknown : call.lower = none)
    (stepped : contextStep before (call, answer) = some after) :
    Owns after pre (history ++ [(call, answer)]) memory := by
  have same : library.lowered (history ++ [(call, answer)]) =
      library.lowered history := by
    rw [Among.lowered_append]
    have none' : library.lowered [(call, answer)] = [] := by
      simp [Among.lowered, library, unknown]
    rw [none', List.append_nil]
  exact ⟨same ▸ owns.1, owns.2.concat stepped⟩

end Owns

/-! ### Setting contexts up and taking them down -/

section Contexts

variable {before after failed : Channel → Bool}
  {pre : Assertion Call Answer Memory}
  (sound : ∀ history memory, pre history memory → terms.Sound history)
include sound

theorem contextCall_triple {call : HandleCall}
    {store : ErrorStr → Memory → Memory} (unknown : call.lower = none)
    (stored :
      ∀ history memory text, pre history memory →
        pre history (store text memory))
    (succeeds :
      ∀ answer : Answer, ¬ answer.ret < 0 →
        contextStep before (call, answer) = some after)
    (fails :
      ∀ answer : Answer, answer.ret < 0 →
        contextStep before (call, answer) = some failed) :
    Program.Triple (Owns before pre) (contextCall call store)
      (fun _ => Owns after pre) (cut (Owns failed pre)) := by
  let Called (answer : Answer) : Assertion HandleCall Answer Memory :=
    fun history memory =>
      if answer.ret < 0 then Owns failed pre history memory
      else Owns after pre history memory
  have called : Program.Triple (Owns before pre) (Program.call call) Called
      (cut (Owns failed pre)) := by
    refine Program.triple_call (fun _ _ => Owns.orderly sound) ?_
    intro history memory answer owns
    show if answer.ret < 0 then _ else _
    split
    case isTrue negative =>
        exact owns.concat unknown (fails answer negative)
    case isFalse natural =>
        exact owns.concat unknown (succeeds answer natural)
  refine Program.triple_bind called fun answer => ?_
  refine Program.triple_ite (fun negative => ?_) fun natural => ?_
  · refine Program.triple_modify_fail fun history memory result => ?_
    have owns : Owns failed pre history memory :=
      Eq.mp (if_pos negative) result
    exact ⟨stored _ _ _ owns.1, owns.2⟩
  · refine Program.triple_pure fun history memory result => ?_
    exact Eq.mp (if_neg natural) result

theorem deinit_triple {channel : Channel}
    {failure : Assertion HandleCall Answer Memory}
    (live : before channel = true)
    (next : Function.update before channel false = after) :
    Program.Triple (Owns before pre) (Program.call (.ftdiDeinit channel))
      (fun _ => Owns after pre) (cut failure) := by
  refine Program.triple_call (fun _ _ => Owns.orderly sound) ?_
  intro history memory answer owns
  refine owns.concat rfl ?_
  rw [contextStep, if_pos live, next]

/-- When it fails, the context is not set up any more. -/
theorem initContext_triple {channel : Channel}
    {store : ErrorStr → Memory → Memory}
    (stored :
      ∀ history memory text, pre history memory →
        pre history (store text memory))
    (dead : before channel = false)
    (next : Function.update before channel true = after) :
    Program.Triple (Owns before pre) (initContext channel store)
      (fun _ => Owns after pre) (cut (Owns before pre)) := by
  have live : after channel = true := next ▸ Function.update_self _ _ _
  have back : Function.update after channel false = before := by
    rw [← next, Function.update_idem, ← dead, Function.update_eq_self]
  have initialised : Program.Triple (Owns before pre)
      (contextCall (.ftdiInit channel) store) (fun _ => Owns after pre)
      (cut (Owns before pre)) := by
    refine contextCall_triple sound rfl stored ?_ ?_
    · intro answer natural
      rw [contextStep, dead, if_neg Bool.false_ne_true,
        decide_eq_true (not_lt.mp natural), next]
    · intro answer negative
      rw [contextStep, dead, if_neg Bool.false_ne_true,
        decide_eq_false (not_le.mpr negative), ← dead,
        Function.update_eq_self]
  have set : Program.Triple (Owns after pre)
      (contextCall (.ftdiSetInterface channel) store)
      (fun _ => Owns after pre) (cut (Owns after pre)) :=
    contextCall_triple sound rfl stored (fun _ _ => if_pos live)
      fun _ _ => if_pos live
  exact Program.triple_bind initialised fun _ =>
    Program.triple_unwinding set passes_cut (deinit_triple sound live back)

end Contexts

/-! ### Files -/

/-- Firmware packages need no contexts. -/
theorem usingFiles (package : Package) :
    FwpkgUpkeep package (Program.Using OnFiles) (Program.Using OnFiles) where
  call := fun _ onFiles files => files.concat onFiles
  store := fun _ files => files
  fail := fun _ files => files
  closes := fun _ onFiles files => files.concat onFiles
  weaken := id

theorem usingFiles_reg (package : Package) :
    RegUpkeep package (Program.Using OnFiles) (Program.Using OnFiles)
      (Program.Using OnFiles) where
  file := usingFiles package
  store := fun _ files => files
  fail := fun _ files => files
  unread := id
  closes := fun _ onFiles files => files.concat onFiles
  weaken := id

variable {held : Multiset Resource} {memory : Memory}

theorem chaInitReg_balanced :
    Program.Triple (PackageLedger.Framed (packageOf .device) held) chaInitReg
      (fun _ => PackageLedger.Framed (packageOf .device) held)
      (stopping (PackageLedger.Framed (packageOf .device) held)) := by
  refine Program.triple_attempt_bind (regInitFromFwpkg_balanced .device)
    Passes.rfl (fun _ => ?_) ?_
  · exact Program.triple_modify fun _ _ framed => framed.change rfl
  · exact Program.triple_modify_fail fun _ _ framed => framed.change rfl

theorem chaInitReg_usingFiles :
    chaInitReg.Upholds (Program.Using OnFiles) (Program.Using OnFiles) := by
  refine Program.upholds_attempt_bind
    (regInitFromFwpkg_upholds (usingFiles_reg .device)) (fun _ => ?_) ?_
  · exact Program.upholds_modify fun _ _ files => files
  · intro history memory files
    exact Program.meets_bind_modify (Program.meets_fail files)

/-! ## The functions -/

/-- The package of the device is open, and so much is held besides. -/
def Holding (held : Multiset Resource) : Assertion Call Answer Memory :=
  PackageLedger.Framed (packageOf .device) held

theorem holding_sound (history : List (Call × Answer)) (memory : Memory)
    (holding : Holding held history memory) : terms.Sound history :=
  PackageLedger.Framed.sound holding

theorem Holding.change {history : List (Call × Answer)}
    {memory' : Memory} (holding : Holding held history memory)
    (same : memory'.fwpkg.pkg = memory.fwpkg.pkg) :
    Holding held history memory' :=
  PackageLedger.Framed.change holding
    (congrArg (fun pkg => {Resource.package pkg}) same)

theorem reported_triple {α : Type} {live : Channel → Bool}
    {errorStr : Memory → ErrorStr} {step : HandleAction α}
    {pre : Assertion HandleCall Answer Memory}
    {post : α → Assertion HandleCall Answer Memory}
    {failure : Assertion Call Answer Memory}
    (triple : Program.Triple pre step post (cut (Owns live failure)))
    (reports :
      ∀ history memory text, failure history memory →
        failure history { memory with errorStr := text }) :
    Program.Triple pre (reported errorStr step) post
      (cut (Owns live failure)) := by
  refine Program.triple_attempt_bind triple Passes.rfl
    (fun _ => Program.triple_pure fun _ _ => id) ?_
  exact Program.triple_modify_fail fun history memory owns =>
    ⟨reports _ _ _ owns.1, owns.2⟩

theorem chaInit_triple :
    Program.Triple (Owns noContext (Holding held)) chaInit
      (fun _ => Owns onlyA (Holding held))
      (cut (Owns noContext (Holding held))) := by
  have cleared : Program.Triple (Owns noContext (Holding held))
      (Program.modify fun memory : Memory =>
        { memory with
          cha := Memory.zeroed.cha
          stackReg := Memory.zeroed.stackReg })
      (fun _ => Owns noContext (Holding held))
      (cut (Owns noContext (Holding held))) :=
    Program.triple_modify fun _ _ owns => ⟨owns.1.change rfl, owns.2⟩
  have next : Function.update noContext .a true = onlyA := by
    funext channel
    cases channel <;> rfl
  refine Program.triple_bind cleared fun _ => ?_
  refine Program.triple_bind
    (onFiles_triple chaInitReg_balanced chaInitReg_usingFiles) fun _ => ?_
  exact initContext_triple holding_sound
    (fun _ _ _ holding => holding.change rfl) rfl next

theorem chbInit_triple :
    Program.Triple (Owns onlyA (Holding held)) chbInit
      (fun _ => Owns bothContexts (Holding held))
      (cut (Owns onlyA (Holding held))) := by
  have cleared : Program.Triple (Owns onlyA (Holding held))
      (Program.modify fun memory : Memory =>
        { memory with chb := Memory.zeroed.chb })
      (fun _ => Owns onlyA (Holding held))
      (cut (Owns onlyA (Holding held))) :=
    Program.triple_modify fun _ _ owns => ⟨owns.1.change rfl, owns.2⟩
  have next : Function.update onlyA .b true = bothContexts := by
    funext channel
    cases channel <;> rfl
  refine Program.triple_bind cleared fun _ => ?_
  exact initContext_triple holding_sound
    (fun _ _ _ holding => holding.change rfl) rfl next

theorem chaDestroy_triple {failure : Assertion HandleCall Answer Memory} :
    Program.Triple (Owns onlyA (Holding held)) chaDestroy
      (fun _ => Owns noContext (Holding held)) (cut failure) := by
  have next : Function.update onlyA .a false = noContext := by
    funext channel
    cases channel <;> rfl
  exact Program.triple_bind (deinit_triple holding_sound rfl next)
    fun _ => Program.triple_pure fun _ _ => id

theorem chbDestroy_triple {failure : Assertion HandleCall Answer Memory} :
    Program.Triple (Owns bothContexts (Holding held)) chbDestroy
      (fun _ => Owns onlyA (Holding held)) (cut failure) := by
  have next : Function.update bothContexts .b false = onlyA := by
    funext channel
    cases channel <;> rfl
  exact Program.triple_bind (deinit_triple holding_sound rfl next)
    fun _ => Program.triple_pure fun _ _ => id

/-- What cannot fail may stand anywhere. -/
theorem unfailing_triple {α : Type} {live : Channel → Bool}
    {action : Action α} {pre : Assertion Call Answer Memory}
    {post : α → Assertion Call Answer Memory}
    {failure : Assertion HandleCall Answer Memory}
    (triple : Program.Triple pre action post (stopping fun _ _ => False))
    (upholds :
      action.Upholds (Program.Using OnFiles) (Program.Using OnFiles)) :
    Program.Triple (Owns live pre) (inside action)
      (fun value => Owns live (post value)) (cut failure) := by
  refine (onFiles_triple triple upholds).weaken (fun _ _ => id)
    (fun _ _ _ => id) ?_
  intro reason history memory stopped
  cases reason with
  | failed => exact stopped.1.elim
  | aborted => exact stopped
  | waiting query => exact stopped

/-- A block is given back. -/
theorem free_triple {ptr : Int}
    {failure : Assertion HandleCall Answer Memory} :
    Program.Triple
      (Owns noContext (PackageLedger.Framed nothing (held + {.block ptr})))
      (inside (Program.call (.free ptr)))
      (fun _ => Owns noContext (PackageLedger.Framed nothing held))
      (cut failure) :=
  unfailing_triple (givingCall_triple fun _ => ⟨rfl, rfl, rfl⟩)
    (fileCall_upholds (usingFiles .device) (by trivial))

/-- The package is closed. -/
theorem destroy_triple {failure : Assertion HandleCall Answer Memory} :
    Program.Triple (Owns noContext (Holding held))
      (inside (fwpkgDestroy .device))
      (fun _ => Owns noContext (PackageLedger.Framed nothing held))
      (cut failure) :=
  unfailing_triple (fwpkgDestroy_balanced .device)
    (fwpkgDestroy_upholds fun _ _ _ answer files =>
      (usingFiles .device).call answer (by trivial) files)

theorem ovNew_triple (size : Nat) (filename : Option String) :
    Program.Triple (Owns noContext (PackageLedger.Framed nothing held))
      (ovNew size filename)
      (fun ov => Owns bothContexts (Holding (held + {.block ov})))
      (cut (Owns noContext (PackageLedger.Framed nothing held))) := by
  have split (answer : Answer) : held =
      gives (.malloc size, answer) + leftOver (.malloc size, answer) +
        held := by
    show held = 0 + 0 + held
    rw [zero_add, zero_add]
  have allocated : Program.Triple
      (Owns noContext (PackageLedger.Framed nothing held))
      (inside (Program.call (.malloc size)))
      (fun answer => Owns noContext (PackageLedger.Framed nothing
        (held + unlessNull answer.ret (.block answer.ret))))
      (cut (Owns noContext (PackageLedger.Framed nothing held))) :=
    unfailing_triple (ledgerCall_triple split)
      (fileCall_upholds (usingFiles .device) (by trivial))
  refine Program.triple_bind allocated fun ov => ?_
  refine Program.triple_ite (fun null => ?_) fun nonnull => ?_
  · rw [unlessNull_of_eq null, add_zero]
    exact Program.triple_fail fun _ _ => id
  rw [unlessNull_of_ne nonnull]
  have cleared : Program.Triple
      (Owns noContext
        (PackageLedger.Framed nothing (held + {.block ov.ret})))
      (inside clearDevice)
      (fun _ => Owns noContext
        (PackageLedger.Framed nothing (held + {.block ov.ret})))
      (cut (Owns noContext (PackageLedger.Framed nothing held))) :=
    unfailing_triple
      (Program.triple_modify fun _ _ framed => framed.change rfl)
      (Program.upholds_modify fun _ _ files => files)
  have opened : Program.Triple
      (Owns noContext
        (PackageLedger.Framed nothing (held + {.block ov.ret})))
      (reported (fun memory => memory.fwpkg.errorStr)
        (inside (fwpkgInit .device filename)))
      (fun _ => Owns noContext (Holding (held + {.block ov.ret})))
      (cut (Owns noContext
        (PackageLedger.Framed nothing (held + {.block ov.ret})))) :=
    reported_triple
      (onFiles_triple (fwpkgInit_balanced .device filename)
        (fwpkgInit_upholds (usingFiles .device) filename))
      fun _ _ _ framed => framed.change rfl
  have connected : Program.Triple
      (Owns noContext (Holding (held + {.block ov.ret})))
      (do
        reported chaErrorStr chaInit
        Program.unwinding (reported chbErrorStr chbInit) chaDestroy)
      (fun _ => Owns bothContexts (Holding (held + {.block ov.ret})))
      (cut (Owns noContext (Holding (held + {.block ov.ret})))) := by
    have reports (history : List (Call × Answer)) (memory : Memory)
        (text : ErrorStr)
        (holding : Holding (held + {.block ov.ret}) history memory) :
        Holding (held + {.block ov.ret}) history
          { memory with errorStr := text } :=
      holding.change rfl
    refine Program.triple_bind (reported_triple chaInit_triple reports)
      fun _ => ?_
    exact Program.triple_unwinding (reported_triple chbInit_triple reports)
      passes_cut chaDestroy_triple
  refine Program.triple_bind cleared fun _ => ?_
  refine Program.triple_bind (Program.triple_unwinding
    (Program.triple_bind opened fun _ => Program.triple_unwinding connected
      passes_cut destroy_triple) passes_cut free_triple) fun _ => ?_
  exact Program.triple_pure fun _ _ => id

theorem ovFree_triple (ov : Int)
    {failure : Assertion HandleCall Answer Memory} :
    Program.Triple (Owns bothContexts (Holding (held + {.block ov})))
      (ovFree ov)
      (fun _ => Owns noContext (PackageLedger.Framed nothing held))
      (cut failure) := by
  refine Program.triple_bind chbDestroy_triple fun _ => ?_
  refine Program.triple_bind chaDestroy_triple fun _ => ?_
  refine Program.triple_bind destroy_triple fun _ => ?_
  refine unfailing_triple ?_ ?_
  · exact Program.triple_bind (givingCall_triple fun _ => ⟨rfl, rfl, rfl⟩)
      fun _ => Program.triple_pure fun _ _ => id
  · exact Program.upholds_bind
      (fileCall_upholds (usingFiles .device) (by trivial)) fun _ =>
        Program.upholds_pure

/-! ## Requests -/

theorem holding_opening (channel : Channel) :
    OpenUpkeep channel (Holding held) (Holding held) where
  opens := fun answer holding =>
    packageOf_keeps.call channel _ answer holding
  closes := fun answer holding =>
    packageOf_keeps.call channel _ answer holding
  weaken := id

theorem entering_holding {α : Type} {function : Action α}
    (triple :
      Program.Triple (Holding held) function (fun _ => Holding held)
        (stopping (Holding held))) :
    Program.Triple (Holding held) (entering function)
      (fun _ => Holding held) (stopping (Holding held)) :=
  Program.triple_bind
    (Program.triple_modify fun _ _ holding => holding.change rfl)
    fun _ => triple

theorem ovOpen_holding :
    Program.Triple (Holding held) ovOpen (fun _ => Holding held)
      (stopping (Holding held)) := by
  have keeps : DeviceKeeps (Holding held) := packageOf_keeps
  refine entering_holding ?_
  refine Program.triple_bind (deviceStep_balanced keeps
    (chaOpen_upholds keeps.cha (holding_opening .a)) fun _ _ => id)
    fun _ => ?_
  refine Program.triple_bind (deviceStep_balanced keeps
    (chbOpen_upholds keeps.chb (holding_opening .b)) fun _ _ => id)
    fun _ => ?_
  refine Program.triple_bind ovLoadFirmwareFromFwpkg_balanced fun _ => ?_
  refine Program.triple_bind (deviceStep_balanced keeps
    (chaSwitchFifoMode_upholds keeps.cha) fun _ _ => id) fun _ => ?_
  exact deviceStep_balanced keeps (chaStopStream_upholds keeps.cha)
    fun _ _ => id

/-- This is the package of the device. -/
def Pinned (pkg : Int) : Assertion Call Answer Memory :=
  fun _ memory => memory.fwpkg.pkg = pkg

section Pinned

variable {pkg : Int}

theorem pinned_files : FwpkgUpkeep .stack (Pinned pkg) (Pinned pkg) where
  call := fun _ _ => id
  store := fun _ => id
  fail := fun _ => id
  closes := fun _ _ => id
  weaken := id

theorem pinned_reg :
    RegUpkeep .stack (Pinned pkg) (Pinned pkg) (Pinned pkg) where
  file := pinned_files
  store := fun _ => id
  fail := fun _ => id
  unread := id
  closes := fun _ _ => id
  weaken := id

theorem pinned_load : LoadUpkeep .stack (Pinned pkg) where
  cha := ⟨fun _ _ => id, fun _ => id⟩
  bit := ⟨fun _ _ => id, fun _ => id⟩
  startUp := ⟨fun _ => id, ⟨fun _ _ => id, fun _ => id⟩, fun _ => id⟩
  file := pinned_files
  write := fun pinned _ same => same.trans pinned

/-- A load uses a package of its own. -/
theorem ovLoadFirmware_pinned (filename : Option String) :
    (ovLoadFirmware filename).Upholds (Pinned pkg) (Pinned pkg) := by
  have declared {change : Memory → Memory}
      (same : ∀ memory, (change memory).fwpkg.pkg = memory.fwpkg.pkg) :
      (Program.modify change : Action PUnit).Upholds (Pinned pkg)
        (Pinned pkg) :=
    Program.upholds_modify fun _ memory pinned => (same memory).trans pinned
  have destroyed :
      (fwpkgDestroy .stack).Upholds (Pinned pkg) (Pinned pkg) :=
    fwpkgDestroy_upholds fun _ _ _ _ => id
  refine Program.upholds_bind (declared fun _ => rfl) fun _ => ?_
  refine Program.upholds_bind (declared fun _ => rfl) fun _ => ?_
  refine Program.upholds_bind
    (pinned_load.reporting (fwpkgInit_upholds pinned_files filename))
    fun _ => ?_
  refine Program.upholds_bind (Program.upholds_unwinding ?_
    (Program.cleans_of_upholds destroyed fun _ _ => id)) fun _ => destroyed
  refine Program.upholds_bind
    (pinned_load.reporting (regInitFromFwpkg_upholds pinned_reg))
    fun _ => ?_
  refine Program.upholds_bind (ovLoadFirmwareFromFwpkg_upholds pinned_load)
    fun _ => ?_
  exact Program.upholds_get fun _ => pinned_load.reporting
    (declared fun _ => rfl)

end Pinned

theorem ovLoadFirmware_holding (filename : Option String) :
    Program.Triple (Holding held) (ovLoadFirmware filename)
      (fun _ => Holding held) (stopping (Holding held)) := by
  intro history memory holding
  let pkg := memory.fwpkg.pkg
  have back {history : List (Call × Answer)} {memory : Memory}
      (framed :
        PackageLedger.Framed nothing (held + {.package pkg}) history memory)
      (pinned : Pinned pkg history memory) :
      Holding held history memory := by
    have same : (Package.get .device memory).pkg = pkg := pinned
    exact (framed_nothing same).mpr framed
  have pinned : Program.Triple (Pinned pkg) (ovLoadFirmware filename)
      (fun _ => Pinned pkg) (fun _ => Pinned pkg) :=
    Program.triple_of_upholds (ovLoadFirmware_pinned filename) Passes.rfl
      fun _ _ => id
  refine ((ovLoadFirmware_balanced filename).and pinned history memory
    ⟨(framed_nothing rfl).mp holding, rfl⟩).mono
      fun ending history memory reached => ?_
  cases ending with
  | returned value => exact back reached.1 reached.2
  | stopped reason =>
      cases reason with
      | failed => exact back reached.1 reached.2
      | aborted => exact reached.1
      | waiting query => exact reached.1

theorem request_holding (request : Request) :
    Program.Triple (Holding held) request.action (fun _ => Holding held)
      (stopping (Holding held)) := by
  have keeps : DeviceKeeps (Holding held) := packageOf_keeps
  cases request with
  | openDevice => exact ovOpen_holding
  | loadFirmware filename => exact ovLoadFirmware_holding filename
  | getUsbSpeed =>
      refine Program.triple_bind (entering_holding (deviceStep_balanced
        keeps (chaGetUsbSpeed_upholds keeps.cha) fun _ _ => id))
        fun _ => Program.triple_pure fun _ _ => id
  | setUsbSpeed speed =>
      exact entering_holding (deviceStep_balanced keeps
        (chaWriteUlpi_upholds keeps.cha _ _) fun _ _ => id)

/-- Whether its requests fail or not, a client leaves the handle intact. -/
theorem session_triple (requests : List Request)
    {failure : Assertion HandleCall Answer Memory} :
    Program.Triple (Owns bothContexts (Holding held)) (session requests)
      (fun _ => Owns bothContexts (Holding held)) (cut failure) := by
  induction requests with
  | nil => exact Program.triple_pure fun _ _ => id
  | cons request rest ih =>
      exact Program.triple_attempt_bind
        (onDevice_triple (request_holding request)) passes_cut
        (fun _ => ih) ih

/-! ## Lives -/

theorem life_triple (size : Nat) (filename : Option String)
    (requests : List Request) :
    Program.Triple (Owns noContext (PackageLedger.Framed nothing held))
      (life size filename requests)
      (fun _ => Owns noContext (PackageLedger.Framed nothing held))
      (cut (Owns noContext (PackageLedger.Framed nothing held))) :=
  Program.triple_bind (ovNew_triple size filename) fun ov =>
    Program.triple_bind (session_triple requests) fun _ => ovFree_triple ov

/--
At no moment of the life of a handle is a context used that is not set up, or
anything given back that is not held.  When it ends, also with `ov_new`, no
context is set up any more, and only sources are left that have been refused.
-/
theorem life_balanced (size : Nat) (filename : Option String)
    (requests : List Request) (memory : Memory) (script : List Answer) :
    let outcome := (life size filename requests).run memory script
    Orderly outcome.calls ∧
      (outcome.ending = .returned () ∨ outcome.ending = .stopped .failed →
        Contexts noContext outcome.calls ∧
          terms.Holding
            ((library.lowered outcome.calls).map leftOver).sum
            (library.lowered outcome.calls)) := by
  intro outcome
  have initial : Owns noContext (PackageLedger.Framed nothing 0) [] memory :=
    ⟨Terms.holding_nil, contexts_nil⟩
  have reached := (life_triple size filename requests).run initial script
  have orderly {history : List (HandleCall × Answer)} {memory : Memory}
      (owns : Owns noContext (PackageLedger.Framed nothing 0) history
        memory) : Orderly history :=
    Owns.orderly (fun _ _ => PackageLedger.Framed.sound) owns
  have settled {history : List (HandleCall × Answer)} {memory : Memory}
      (owns : Owns noContext (PackageLedger.Framed nothing 0) history
        memory) :
      Contexts noContext history ∧
        terms.Holding ((library.lowered history).map leftOver).sum
          (library.lowered history) := by
    refine ⟨owns.2, ?_⟩
    have holding := owns.1
    rwa [PackageLedger.Framed, Owing, nothing, add_zero, zero_add]
      at holding
  cases ended : outcome.ending with
  | returned value =>
      rw [ended] at reached
      exact ⟨orderly reached, fun _ => settled reached⟩
  | stopped stop =>
      rw [ended] at reached
      cases stop with
      | failed => exact ⟨orderly reached, fun _ => settled reached⟩
      | aborted => exact ⟨reached, by simp⟩
      | waiting query => exact ⟨reached, by simp⟩

/-- A client that only opens the device and does not get that far. -/
example :
    ((life 1 none [.openDevice]).run Memory.zeroed
      ([counted 1] ++ [counted 1] ++ smallMapPackage 0x31 ++
        [counted 0, counted 0, counted 0, counted 0, counted (-1), counted 0,
          counted 0, counted 0, counted 0])).ending = .returned () := by
  decide +kernel

end OpenVizsla.Device.Handle
