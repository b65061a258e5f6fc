import OpenVizsla.Device.PackageFiles
import OpenVizsla.Device.RoundTrip

/-!
# The order in which a stream is set up

`cha_start_stream` lets the device read from its memory to the host only when
the rings are set up and the sink is on, and `cha_stop_stream` takes this back
first.  So whatever calls fail, and in whatever order the functions are
called, the device never reads to the host from rings that are not set up.
-/

namespace OpenVizsla.Device.StreamOrder

open OpenVizsla.Foundation.Calls
open OpenVizsla.Register.Map
open OpenVizsla.Register.Message
open OpenVizsla.Device.State
open OpenVizsla.Device.Cha
open OpenVizsla.Device.Ov
open OpenVizsla.Device.RegisterLoops
open OpenVizsla.Device.RoundTrip
open OpenVizsla.Device.PackageFiles

/-! ## What the device is told -/

/-- What a frame makes of the registers. -/
def told (regs : UInt16 → UInt8) (request : List UInt8) : UInt16 → UInt8 :=
  (RegisterDevice.serve regs request).1

theorem told_write (regs : UInt16 → UInt8) {addr : UInt16}
    (fits : addr < 0x8000) (val : UInt8) :
    told regs (transactionMessage (addr ||| 0x8000) val) =
      Function.update regs addr val := by
  rw [told, RegisterDevice.serve_write _ fits]

theorem told_read (regs : UInt16 → UInt8) {addr : UInt16}
    (fits : addr < 0x8000) (val : UInt8) :
    told regs (transactionMessage addr val) = regs := by
  rw [told, RegisterDevice.serve_read _ fits]

/-- The registers of a device, and how many frames were sent to it. -/
structure Board where
  regs : UInt16 → UInt8
  frames : Nat

/--
What a call makes of the device, whatever it answers to reads.  `reaches`
tells which frames get there although their writes fail.
-/
def Board.hear (reaches : Nat → Bool) (board : Board) :
    Call × Answer → Board
  | (.ftdi .a (.writeData request), written) =>
      { regs :=
          if written.ret < 0 ∧ ¬ reaches board.frames then board.regs
          else told board.regs request
        frames := board.frames + 1 }
  | _ => board

/-- The device after these calls. -/
def Board.after (reaches : Nat → Bool) (board : Board)
    (calls : List (Call × Answer)) : Board :=
  calls.foldl (Board.hear reaches) board

section Hearing

variable {addr : RegName → UInt16} {reaches : Nat → Bool} {board : Board}

/-- The map is this one, and the registers of the device have the property. -/
def Hears (addr : RegName → UInt16) (reaches : Nat → Bool) (board : Board)
    (Property : (UInt16 → UInt8) → Prop) : Assertion Call Answer Memory :=
  fun history memory =>
    memory.cha.reg.addr = addr ∧ Property (board.after reaches history).regs

/-- What holds wherever a run stops. -/
def always (addr : RegName → UInt16) (reaches : Nat → Bool) (board : Board)
    (Property : (UInt16 → UInt8) → Prop) :
    Stop Call → Assertion Call Answer Memory :=
  fun _ => Hears addr reaches board Property

variable {Before After Kept : (UInt16 → UInt8) → Prop}
  {history : List (Call × Answer)} {memory : Memory}

/-- The call sends no frame. -/
def Silent : Call → Prop
  | .ftdi .a (.writeData _) => False
  | _ => True

theorem Hears.silent {call : Call} (silent : Silent call) (answer : Answer)
    (hears : Hears addr reaches board Before history memory) :
    Hears addr reaches board Before (history ++ [(call, answer)]) memory := by
  have same : board.after reaches (history ++ [(call, answer)]) =
      board.after reaches history := by
    rw [Board.after, List.foldl_append]
    show Board.hear reaches _ (call, answer) = _
    unfold Board.hear
    split
    case h_1 heard =>
        obtain ⟨rfl, -⟩ := Prod.mk.inj heard
        exact False.elim silent
    case h_2 => rfl
  exact ⟨hears.1, same ▸ hears.2⟩

theorem Hears.mono (hears : Hears addr reaches board Before history memory)
    (weaker : ∀ regs, Before regs → After regs) :
    Hears addr reaches board After history memory :=
  ⟨hears.1, weaker _ hears.2⟩

/-- A frame gets to the device, unless its write fails. -/
theorem Hears.frame (hears : Hears addr reaches board Before history memory)
    {request : List UInt8}
    (follows : ∀ regs, Before regs → After (told regs request))
    (answer : Answer) :
    (¬ answer.ret < 0 →
      Hears addr reaches board After
        (history ++ [(.ftdi .a (.writeData request), answer)]) memory) ∧
      Hears addr reaches board (fun regs => Before regs ∨ After regs)
        (history ++ [(.ftdi .a (.writeData request), answer)]) memory := by
  have next : (board.after reaches
      (history ++ [(.ftdi .a (.writeData request), answer)])).regs =
        if answer.ret < 0 ∧ ¬ reaches (board.after reaches history).frames
        then (board.after reaches history).regs
        else told (board.after reaches history).regs request := by
    rw [Board.after, List.foldl_append]
    rfl
  refine ⟨fun natural => ⟨hears.1, ?_⟩, hears.1, ?_⟩
  · rw [next, if_neg fun failed => natural failed.1]
    exact follows _ hears.2
  · rw [next]
    split
    · exact .inl hears.2
    · exact .inr (follows _ hears.2)

/-! ## Transactions -/

section Silence

variable {α : Type} {post : α → Assertion Call Answer Memory}

/-- A call of libftdi that sends no frame. -/
theorem chaFtdi_silent {call : FtdiCall} (silent : Silent (.ftdi .a call))
    (kept : ∀ regs, Before regs → Kept regs) :
    Program.Triple (Hears addr reaches board Before) (chaFtdi call)
      (fun _ => Hears addr reaches board Before)
      (always addr reaches board Kept) := by
  have called : Program.Triple (Hears addr reaches board Before)
      (Program.call (.ftdi .a call))
      (fun _ => Hears addr reaches board Before)
      (always addr reaches board Kept) :=
    Program.triple_call (fun _ _ hears => hears.mono kept)
      fun _ _ answer hears => hears.silent silent answer
  refine Program.triple_bind called fun answer => ?_
  refine Program.triple_ite (fun _ => ?_) fun _ =>
    Program.triple_pure fun _ _ => id
  exact Program.triple_modify_fail fun _ _ hears => hears.mono kept

/-- A frame that is sent before the function goes on. -/
theorem chaFtdi_frame {request : List UInt8}
    (follows : ∀ regs, Before regs → After (told regs request))
    (before : ∀ regs, Before regs → Kept regs)
    (after : ∀ regs, After regs → Kept regs) :
    Program.Triple (Hears addr reaches board Before)
      (chaFtdi (.writeData request))
      (fun _ => Hears addr reaches board After)
      (always addr reaches board Kept) := by
  let Called (answer : Answer) : Assertion Call Answer Memory :=
    fun history memory =>
      (¬ answer.ret < 0 → Hears addr reaches board After history memory) ∧
        Hears addr reaches board (fun regs => Before regs ∨ After regs)
          history memory
  have called : Program.Triple (Hears addr reaches board Before)
      (Program.call (.ftdi .a (.writeData request))) Called
      (always addr reaches board Kept) :=
    Program.triple_call (fun _ _ hears => hears.mono before)
      fun _ _ answer hears => hears.frame follows answer
  refine Program.triple_bind called fun answer => ?_
  refine Program.triple_ite (fun _ => ?_) fun natural => ?_
  · exact Program.triple_modify_fail fun _ _ heard =>
      heard.2.mono fun regs either => either.elim (before regs) (after regs)
  · exact Program.triple_pure fun _ _ heard => heard.1 natural

end Silence

/-- A transaction goes on only when its frame has got to the device. -/
theorem chaTransaction_hears {addr' : UInt16} {inVal : UInt8}
    (follows :
      ∀ regs, Before regs →
        After (told regs (transactionMessage addr' inVal)))
    (before : ∀ regs, Before regs → Kept regs)
    (after : ∀ regs, After regs → Kept regs) :
    Program.Triple (Hears addr reaches board Before)
      (chaTransaction addr' inVal)
      (fun _ => Hears addr reaches board After)
      (always addr reaches board Kept) := by
  have read : Program.Triple (Hears addr reaches board After)
      (chaReadData 5) (fun _ => Hears addr reaches board After)
      (always addr reaches board Kept) :=
    Program.triple_bind (chaFtdi_silent (by trivial) after) fun _ =>
      Program.triple_pure fun _ _ => id
  have reads (request : List UInt8) :
      Program.Triple (Hears addr reaches board After)
        (transactionReads request)
        (fun _ => Hears addr reaches board After)
        (always addr reaches board Kept) := by
    refine Program.triple_loop (fun _ => Hears addr reaches board After)
      (fun current => ?_) request
    refine Program.triple_bind read fun buf => Program.triple_pure ?_
    intro history memory hears
    split
    · exact hears
    · exact hears
  refine Program.triple_bind (chaFtdi_frame follows before after)
    fun _ => ?_
  refine Program.triple_bind (reads _) fun msg => ?_
  refine Program.triple_ite (fun _ => ?_) fun _ =>
    Program.triple_pure fun _ _ => id
  exact Program.triple_modify_fail fun _ _ hears => hears.mono after

theorem chaWriteReg_hears {addr' : UInt16} (fits : addr' < 0x8000)
    {val : UInt8}
    (follows :
      ∀ regs, Before regs → After (Function.update regs addr' val))
    (before : ∀ regs, Before regs → Kept regs)
    (after : ∀ regs, After regs → Kept regs) :
    Program.Triple (Hears addr reaches board Before) (chaWriteReg addr' val)
      (fun _ => Hears addr reaches board After)
      (always addr reaches board Kept) := by
  have written : Program.Triple (Hears addr reaches board Before)
      (chaTransaction (addr' ||| 0x8000) val)
      (fun _ => Hears addr reaches board After)
      (always addr reaches board Kept) := by
    refine chaTransaction_hears (fun regs holds => ?_) before after
    rw [told_write regs fits]
    exact follows regs holds
  exact Program.triple_bind written fun _ => Program.triple_pure fun _ _ => id

/-- The map says which register is meant. -/
theorem byName_hears {α : Type} (program : UInt16 → Action α)
    {post : α → Assertion Call Answer Memory} {name : RegName}
    (triple :
      Program.Triple (Hears addr reaches board Before) (program (addr name))
        post (always addr reaches board Kept)) :
    Program.Triple (Hears addr reaches board Before)
      (Program.get >>= fun memory => program (memory.cha.reg.addr name)) post
      (always addr reaches board Kept) := by
  refine Program.triple_get_bind fun read => ?_
  refine Program.triple_of_fact
    (fun _ _ known => known.1 ▸ known.2.1) fun map => ?_
  refine Program.Triple.strengthen ?_ fun _ _ => And.right
  rw [map]
  exact triple

/-- A register that is written by name. -/
theorem chaWriteRegByName_hears {name : RegName} (fits : addr name < 0x8000)
    {val : UInt8}
    (follows :
      ∀ regs, Before regs → After (Function.update regs (addr name) val))
    (before : ∀ regs, Before regs → Kept regs)
    (after : ∀ regs, After regs → Kept regs) :
    Program.Triple (Hears addr reaches board Before)
      (chaWriteRegByName name val) (fun _ => Hears addr reaches board After)
      (always addr reaches board Kept) :=
  byName_hears (fun addr' => chaWriteReg addr' val)
    (chaWriteReg_hears fits follows before after)

/-- A cast is a write whose response is not waited for. -/
theorem chaCastRegByName_hears {name : RegName} (fits : addr name < 0x8000)
    {val : UInt8}
    (follows :
      ∀ regs, Before regs → After (Function.update regs (addr name) val))
    (before : ∀ regs, Before regs → Kept regs)
    (after : ∀ regs, After regs → Kept regs) :
    Program.Triple (Hears addr reaches board Before)
      (chaCastRegByName name val) (fun _ => Hears addr reaches board After)
      (always addr reaches board Kept) := by
  have sent : Program.Triple (Hears addr reaches board Before)
      (chaFtdi (.writeData (castMessage (addr name) val)))
      (fun _ => Hears addr reaches board After)
      (always addr reaches board Kept) := by
    refine chaFtdi_frame (fun regs holds => ?_) before after
    rw [castMessage_eq_transactionMessage, told_write regs fits]
    exact follows regs holds
  have cast : Program.Triple (Hears addr reaches board Before)
      (chaCastReg (addr name) val) (fun _ => Hears addr reaches board After)
      (always addr reaches board Kept) :=
    Program.triple_bind sent fun _ => Program.triple_pure fun _ _ => id
  exact byName_hears (fun addr' => chaCastReg addr' val) cast

/-- A register that is read by name. -/
theorem chaReadRegByName_hears {name : RegName} (fits : addr name < 0x8000)
    (kept : ∀ regs, Before regs → Kept regs) :
    Program.Triple (Hears addr reaches board Before) (chaReadRegByName name)
      (fun _ => Hears addr reaches board Before)
      (always addr reaches board Kept) := by
  have read : Program.Triple (Hears addr reaches board Before)
      (chaTransaction (addr name) 0)
      (fun _ => Hears addr reaches board Before)
      (always addr reaches board Kept) := by
    refine chaTransaction_hears (fun regs holds => ?_) kept kept
    rw [told_read regs fits]
    exact holds
  exact byName_hears chaReadReg read

end Hearing

/-! ## Rings, sink and host -/

/-- The writes that set the rings up. -/
def ringWrites (addr : RegName → UInt16) : List (UInt16 × UInt8) :=
  bytesDown (addr .sdramSinkRingBase) 4 0 ++
    bytesDown (addr .sdramSinkRingEnd) 4 0x01000000 ++
    bytesDown (addr .sdramHostReadRingBase) 4 0 ++
    bytesDown (addr .sdramHostReadRingEnd) 4 0x01000000

/-- The writes that are to come before the device may read to the host. -/
def setup (addr : RegName → UInt16) : List (UInt16 × UInt8) :=
  ringWrites addr ++ [(addr .sdramSinkGo, 1), (addr .cstreamCfg, 1)]

/-- The registers have the values of these writes. -/
def InPlace (writes : List (UInt16 × UInt8)) (regs : UInt16 → UInt8) : Prop :=
  ∀ write ∈ writes, regs write.1 = write.2

/-- The device reads to the host only when the set-up is in place. -/
def Safe (addr : RegName → UInt16) (regs : UInt16 → UInt8) : Prop :=
  regs (addr .sdramHostReadGo) ≠ 0 → InPlace (setup addr) regs

/-- The other registers that are written, and the one that is only read. -/
def otherRegs : List RegName :=
  [.sdramHostReadGo, .sdramSinkPtrRead, .ucfgWdata, .ucfgWcmd, .ucfgRcmd,
    .ucfgRdata]

/-- The addresses of the map that are used. -/
def addresses (addr : RegName → UInt16) : List UInt16 :=
  otherRegs.map addr ++ (setup addr).map Prod.fst

/-- No two registers that are used have a byte in common. -/
structure Apart (addr : RegName → UInt16) : Prop where
  nodup : (addresses addr).Nodup
  fits : ∀ address ∈ addresses addr, address < 0x8000

section Setup

variable {addr : RegName → UInt16} {writes : List (UInt16 × UInt8)}
  {regs : UInt16 → UInt8}

/-- Another write leaves in place what it does not contradict. -/
theorem InPlace.update (inPlace : InPlace writes regs)
    {write : UInt16 × UInt8}
    (agrees : ∀ other ∈ writes, other.1 = write.1 → other.2 = write.2) :
    InPlace writes (Function.update regs write.1 write.2) := by
  intro other member
  by_cases same : other.1 = write.1
  · rw [same, Function.update_self, agrees other member same]
  · rw [Function.update_of_ne same]
    exact inPlace other member

theorem InPlace.concat (inPlace : InPlace writes regs)
    {write : UInt16 × UInt8} (written : regs write.1 = write.2) :
    InPlace (writes ++ [write]) regs := by
  intro other member
  rcases List.mem_append.mp member with earlier | last
  · exact inPlace other earlier
  · rw [List.mem_singleton.mp last]
    exact written

section Apart

variable (apart : Apart addr)
include apart

theorem Apart.fits_name {name : RegName} (used : name ∈ otherRegs) :
    addr name < 0x8000 :=
  apart.fits _ (List.mem_append_left _ (List.mem_map_of_mem used))

theorem Apart.fits_write {write : UInt16 × UInt8}
    (member : write ∈ setup addr) : write.1 < 0x8000 :=
  apart.fits _ (List.mem_append_right _ (List.mem_map_of_mem member))

/-- Writes of the set-up to the same address are the same. -/
theorem Apart.agrees {first second : UInt16 × UInt8}
    (left : first ∈ setup addr) (right : second ∈ setup addr)
    (same : first.1 = second.1) : first.2 = second.2 :=
  congrArg Prod.snd
    (List.inj_on_of_nodup_map (List.nodup_append.mp apart.nodup).2.1
      left right same)

theorem Apart.ne_write {name : RegName} (used : name ∈ otherRegs)
    {write : UInt16 × UInt8} (member : write ∈ setup addr) :
    write.1 ≠ addr name := by
  intro same
  exact (List.nodup_append.mp apart.nodup).2.2 _ (List.mem_map_of_mem used)
    _ (List.mem_map_of_mem member) same.symm

theorem Apart.ne_name {first second : RegName} (left : first ∈ otherRegs)
    (right : second ∈ otherRegs) (different : first ≠ second) :
    addr first ≠ addr second := by
  intro same
  exact different (List.inj_on_of_nodup_map
    (List.nodup_append.mp apart.nodup).1 left right same)

/-- A register besides leaves the set-up in place. -/
theorem InPlace.beside (inPlace : InPlace writes regs)
    (part : writes ⊆ setup addr) {name : RegName}
    (used : name ∈ otherRegs) (val : UInt8) :
    InPlace writes (Function.update regs (addr name) val) := by
  have agrees (other : UInt16 × UInt8) (member : other ∈ writes)
      (same : other.1 = (addr name, val).1) : other.2 = (addr name, val).2 :=
    absurd same (apart.ne_write used (part member))
  exact inPlace.update agrees

/-- No register but the one for the go bit makes the device read. -/
theorem Safe.beside (safe : Safe addr regs) {name : RegName}
    (used : name ∈ otherRegs) (besides : name ≠ .sdramHostReadGo)
    (val : UInt8) : Safe addr (Function.update regs (addr name) val) := by
  intro reading
  rw [Function.update_of_ne
    (apart.ne_name (by decide) used besides.symm)] at reading
  exact (safe reading).beside apart (List.Subset.refl _) used val

/-- A write of the set-up is safe at any time. -/
theorem Safe.setup (safe : Safe addr regs) {write : UInt16 × UInt8}
    (member : write ∈ setup addr) :
    Safe addr (Function.update regs write.1 write.2) := by
  intro reading
  rw [Function.update_of_ne (apart.ne_write (by decide) member).symm]
    at reading
  exact (safe reading).update fun other included same =>
    apart.agrees included member same

end Apart

/-- The writes up to some point are in place, and the device is safe. -/
def Stage (addr : RegName → UInt16) (done : List (UInt16 × UInt8))
    (regs : UInt16 → UInt8) : Prop :=
  InPlace done regs ∧ Safe addr regs

/-- A write of the set-up, after those before it. -/
theorem Stage.write (apart : Apart addr) {done : List (UInt16 × UInt8)}
    {write : UInt16 × UInt8} (stage : Stage addr done regs)
    (part : done ++ [write] ⊆ setup addr) :
    Stage addr (done ++ [write])
      (Function.update regs write.1 write.2) := by
  obtain ⟨earlier, last⟩ := List.append_subset.mp part
  have member : write ∈ setup addr := last (List.mem_singleton_self write)
  refine ⟨InPlace.concat ?_ (Function.update_self _ _ _),
    stage.2.setup apart member⟩
  exact stage.1.update fun other included same =>
    apart.agrees (earlier included) member same

/-- A register besides changes nothing about the stage. -/
theorem Stage.beside (apart : Apart addr) {done : List (UInt16 × UInt8)}
    (stage : Stage addr done regs) (part : done ⊆ setup addr)
    {name : RegName} (used : name ∈ otherRegs)
    (besides : name ≠ .sdramHostReadGo) (val : UInt8) :
    Stage addr done (Function.update regs (addr name) val) :=
  ⟨stage.1.beside apart part used val,
    stage.2.beside apart used besides val⟩

end Setup

/-- The program leaves the device safe, wherever it stops. -/
abbrev KeepsSafe (addr : RegName → UInt16) (reaches : Nat → Bool)
    (board : Board) {α : Type} (program : Action α) : Prop :=
  Program.Triple (Hears addr reaches board (Safe addr)) program
    (fun _ => Hears addr reaches board (Safe addr))
    (always addr reaches board (Safe addr))

/-! ## The functions -/

section Functions

variable {addr : RegName → UInt16} {reaches : Nat → Bool} {board : Board}

theorem writeRegs_hears (apart : Apart addr)
    (writes done : List (UInt16 × UInt8))
    (part : done ++ writes ⊆ setup addr) :
    Program.Triple (Hears addr reaches board (Stage addr done))
      (writeRegs writes)
      (fun _ => Hears addr reaches board (Stage addr (done ++ writes)))
      (always addr reaches board (Safe addr)) := by
  induction writes generalizing done with
  | nil =>
      rw [List.append_nil]
      exact Program.triple_pure fun _ _ => id
  | cons write rest ih =>
      have shifted : done ++ write :: rest = done ++ [write] ++ rest := by
        rw [List.append_assoc, List.singleton_append]
      rw [shifted] at part ⊢
      have member : write ∈ setup addr := part (by simp)
      refine Program.triple_bind (chaWriteReg_hears
        (apart.fits_write member) (fun regs stage => ?_)
        (fun _ => And.right) (fun _ => And.right)) fun _ => ih _ part
      exact stage.write apart (List.append_subset.mp part).1

/-- One of the registers for the bounds of the rings. -/
theorem chaWriteReg32ByName_hears (apart : Apart addr) {name : RegName}
    {val : UInt32} {done : List (UInt16 × UInt8)}
    (part : done ++ bytesDown (addr name) 4 val ⊆ setup addr) :
    Program.Triple (Hears addr reaches board (Stage addr done))
      (chaWriteReg32ByName name val)
      (fun _ => Hears addr reaches board
        (Stage addr (done ++ bytesDown (addr name) 4 val)))
      (always addr reaches board (Safe addr)) := by
  refine byName_hears (fun addr' => chaWriteReg32 addr' val) ?_
  rw [chaWriteReg32_eq]
  exact writeRegs_hears apart _ done part

/-- One of the writes that switch the sink and the stream on. -/
theorem chaWriteRegByName_staged (apart : Apart addr) {name : RegName}
    {val : UInt8} {done : List (UInt16 × UInt8)}
    (part : done ++ [(addr name, val)] ⊆ setup addr) :
    Program.Triple (Hears addr reaches board (Stage addr done))
      (chaWriteRegByName name val)
      (fun _ => Hears addr reaches board
        (Stage addr (done ++ [(addr name, val)])))
      (always addr reaches board (Safe addr)) := by
  have member : (addr name, val) ∈ setup addr := part (by simp)
  refine chaWriteRegByName_hears (apart.fits_write member)
    (fun regs stage => ?_) (fun _ => And.right) fun _ => And.right
  exact stage.write apart part

/-- A write besides. -/
theorem chaWriteRegByName_beside (apart : Apart addr) {name : RegName}
    {val : UInt8} {done : List (UInt16 × UInt8)} (part : done ⊆ setup addr)
    (used : name ∈ otherRegs) (besides : name ≠ .sdramHostReadGo) :
    Program.Triple (Hears addr reaches board (Stage addr done))
      (chaWriteRegByName name val)
      (fun _ => Hears addr reaches board (Stage addr done))
      (always addr reaches board (Safe addr)) := by
  refine chaWriteRegByName_hears (apart.fits_name used)
    (fun regs stage => ?_) (fun _ => And.right) fun _ => And.right
  exact stage.beside apart part used besides val

/-- At first, nothing of the set-up is known to be in place. -/
theorem Hears.stage {history : List (Call × Answer)} {memory : Memory}
    (hears : Hears addr reaches board (Safe addr) history memory) :
    Hears addr reaches board (Stage addr []) history memory :=
  hears.mono fun _ safe => ⟨List.forall_mem_nil _, safe⟩

theorem chaStartStream_hears (apart : Apart addr) :
    KeepsSafe addr reaches board chaStartStream := by
  let sinkBase := bytesDown (addr .sdramSinkRingBase) 4 0
  let sinkEnd := bytesDown (addr .sdramSinkRingEnd) 4 0x01000000
  let hostBase := bytesDown (addr .sdramHostReadRingBase) 4 0
  let hostEnd := bytesDown (addr .sdramHostReadRingEnd) 4 0x01000000
  -- All that is written so far is a part of the set-up.
  have all : [] ++ sinkBase ++ sinkEnd ++ hostBase ++ hostEnd ++
      [(addr .sdramSinkGo, 1)] ++ [(addr .cstreamCfg, 1)] =
        setup addr :=
    List.append_assoc _ [(addr .sdramSinkGo, 1)] [(addr .cstreamCfg, 1)]
  have earlier {first second : List (UInt16 × UInt8)}
      (part : first ++ second ⊆ setup addr) : first ⊆ setup addr :=
    (List.append_subset.mp part).1
  have streamPart : [] ++ sinkBase ++ sinkEnd ++ hostBase ++ hostEnd ++
      [(addr .sdramSinkGo, 1)] ++ [(addr .cstreamCfg, 1)] ⊆ setup addr :=
    fun _ member => all ▸ member
  have sinkPart := earlier streamPart
  have hostEndPart := earlier sinkPart
  have hostBasePart := earlier hostEndPart
  have sinkEndPart := earlier hostBasePart
  have sinkBasePart := earlier sinkEndPart
  refine Program.Triple.strengthen ?_ fun _ _ => Hears.stage
  refine Program.triple_bind
    (chaWriteReg32ByName_hears apart sinkBasePart) fun _ => ?_
  refine Program.triple_bind
    (chaWriteReg32ByName_hears apart sinkEndPart) fun _ => ?_
  refine Program.triple_bind
    (chaWriteReg32ByName_hears apart hostBasePart) fun _ => ?_
  refine Program.triple_bind
    (chaWriteReg32ByName_hears apart hostEndPart) fun _ => ?_
  refine Program.triple_bind (chaWriteRegByName_beside apart hostEndPart
    (by decide) (by decide)) fun _ => ?_
  refine Program.triple_bind
    (chaWriteRegByName_staged apart sinkPart) fun _ => ?_
  refine Program.triple_bind
    (chaWriteRegByName_staged apart streamPart) fun _ => ?_
  rw [all]
  refine chaCastRegByName_hears (apart.fits_name (by decide))
    (fun regs stage _ => ?_) (fun _ => And.right) fun _ => id
  exact stage.1.beside apart (List.Subset.refl _) (by decide) 1

/-- The device does not read to the host. -/
theorem safe_of_off {regs : UInt16 → UInt8}
    (off : regs (addr .sdramHostReadGo) = 0) : Safe addr regs :=
  fun reading => absurd off reading

theorem chaHaltStream_hears (apart : Apart addr) :
    KeepsSafe addr reaches board chaHaltStream := by
  refine chaCastRegByName_hears (apart.fits_name (by decide))
    (fun regs _ => ?_) (fun _ => id) fun _ => id
  exact safe_of_off (Function.update_self _ _ _)

/-- The go bit goes first, so that the rest may be undone. -/
theorem chaStopStream_hears (apart : Apart addr) :
    KeepsSafe addr reaches board chaStopStream := by
  let Off (regs : UInt16 → UInt8) : Prop := regs (addr .sdramHostReadGo) = 0
  have off {write : UInt16 × UInt8} (member : write ∈ setup addr)
      {name : RegName} (meant : addr name = write.1) {val : UInt8} :
      Program.Triple (Hears addr reaches board Off)
        (chaWriteRegByName name val) (fun _ => Hears addr reaches board Off)
        (always addr reaches board (Safe addr)) := by
    have fits : addr name < 0x8000 := meant ▸ apart.fits_write member
    refine chaWriteRegByName_hears fits (fun regs still => ?_)
      (fun _ => safe_of_off) fun _ => safe_of_off
    have different : addr .sdramHostReadGo ≠ addr name :=
      meant ▸ (apart.ne_write (by decide) member).symm
    exact (Function.update_of_ne different _ _).trans still
  have streamPart : (addr .cstreamCfg, 1) ∈ setup addr := by simp [setup]
  have sinkPart : (addr .sdramSinkGo, 1) ∈ setup addr := by simp [setup]
  have halted : Program.Triple (Hears addr reaches board (Safe addr))
      (chaWriteRegByName .sdramHostReadGo 0)
      (fun _ => Hears addr reaches board Off)
      (always addr reaches board (Safe addr)) :=
    chaWriteRegByName_hears (apart.fits_name (by decide))
      (fun _ _ => Function.update_self _ _ _) (fun _ => id)
      fun _ => safe_of_off
  refine Program.triple_bind halted fun _ => ?_
  refine Program.triple_bind (off streamPart rfl) fun _ => ?_
  refine (off sinkPart rfl).weaken (fun _ _ => id) ?_ fun _ _ _ => id
  exact fun _ _ _ hears => hears.mono fun _ => safe_of_off

/-! ### Calls that the device does not hear -/

/-- A call besides libftdi. -/
theorem call_silent {call : Call} (silent : Silent call) :
    KeepsSafe addr reaches board (Program.call call) :=
  Program.triple_call (fun _ _ => id)
    fun _ _ answer hears => hears.silent silent answer

theorem freeTransfers_hears (i : Nat) :
    KeepsSafe addr reaches board (freeTransfers i) := by
  induction i with
  | zero => exact Program.triple_pure fun _ _ => id
  | succ i ih =>
      refine Program.triple_get_bind fun memory => ?_
      refine Program.Triple.strengthen ?_ fun _ _ => And.right
      exact Program.triple_bind (call_silent (by trivial)) fun _ => ih

theorem failFreeing_hears (text : String) (i : Nat) :
    KeepsSafe addr reaches board (failFreeing text i) := by
  have failed : KeepsSafe addr reaches board (chaFail text : Action Unit) :=
    Program.triple_modify_fail fun _ _ => id
  exact Program.triple_unwinding failed Passes.rfl (freeTransfers_hears i)

theorem allocTransfers_hears (left i : Nat) :
    KeepsSafe addr reaches board (allocTransfers left i) := by
  induction left generalizing i with
  | zero => exact Program.triple_pure fun _ _ => id
  | succ left ih =>
      have stored (tx : Answer) :
          KeepsSafe addr reaches board
            (Program.modify fun memory : Memory =>
              { memory with
                transfer := Function.update memory.transfer i tx.ret }) :=
        Program.triple_modify fun _ _ => id
      refine Program.triple_bind (call_silent (by trivial)) fun tx => ?_
      refine Program.triple_ite (fun _ => failFreeing_hears _ i) fun _ => ?_
      refine Program.triple_bind (stored tx) fun _ => ?_
      refine Program.triple_bind (call_silent (by trivial)) fun buffer => ?_
      exact Program.triple_ite (fun _ => failFreeing_hears _ (i + 1))
        fun _ => ih (i + 1)

/-! ### The speed of the bus -/

/-- A register for the transceiver is written. -/
theorem ucfg_hears (apart : Apart addr) {name : RegName} {val : UInt8}
    (used : name ∈ otherRegs) (besides : name ≠ .sdramHostReadGo) :
    KeepsSafe addr reaches board (chaWriteRegByName name val) :=
  chaWriteRegByName_hears (apart.fits_name used)
    (fun _ safe => safe.beside apart used besides val) (fun _ => id)
    fun _ => id

theorem awaitUlpi_hears (apart : Apart addr) {name : RegName}
    (used : name ∈ otherRegs) :
    KeepsSafe addr reaches board (awaitUlpi name) := by
  refine Program.triple_loop (fun _ => Hears addr reaches board (Safe addr))
    (fun _ => ?_) ()
  refine Program.triple_bind
    (chaReadRegByName_hears (apart.fits_name used) fun _ => id) fun tmp => ?_
  refine Program.triple_pure fun history memory hears => ?_
  split
  · exact hears
  · exact hears

theorem chaSetUsbSpeed_hears (apart : Apart addr) (speed : OvUsbSpeed) :
    KeepsSafe addr reaches board (chaSetUsbSpeed speed) := by
  refine Program.triple_bind (ucfg_hears apart (by decide) (by decide))
    fun _ => ?_
  refine Program.triple_bind (ucfg_hears apart (by decide) (by decide))
    fun _ => ?_
  exact awaitUlpi_hears apart (by decide)

theorem chaGetUsbSpeed_hears (apart : Apart addr) :
    KeepsSafe addr reaches board chaGetUsbSpeed := by
  have read : KeepsSafe addr reaches board (chaReadUlpi 0x04) := by
    refine Program.triple_bind (ucfg_hears apart (by decide) (by decide))
      fun _ => ?_
    refine Program.triple_bind (awaitUlpi_hears apart (by decide))
      fun _ => ?_
    exact chaReadRegByName_hears (apart.fits_name (by decide)) fun _ => id
  have known (speed : OvUsbSpeed) :
      KeepsSafe addr reaches board (pure speed) :=
    Program.triple_pure fun _ _ => id
  refine Program.triple_bind read fun wdata => ?_
  refine Program.triple_ite (fun _ => known _) fun _ => ?_
  refine Program.triple_ite (fun _ => known _) fun _ => ?_
  refine Program.triple_ite (fun _ => known _) fun _ => ?_
  exact Program.triple_modify_fail fun _ _ => id

end Functions

/-! ## Any sequence of calls of the interface -/

/-- The functions of the interface that talk to a device with a firmware. -/
inductive Request where
  | captureStart
  | captureStop
  | setUsbSpeed (speed : OvUsbSpeed)
  | getUsbSpeed

/-- The device does not hear the rest of `ov_capture_stop`. -/
def Request.action : Request → Action Unit
  | .captureStart => ovCaptureStart
  | .captureStop => do
      let _ ← (entering (reporting chaErrorStr chaHaltStream)).attempt
      reporting chaErrorStr chaStopStream
  | .setUsbSpeed speed => ovSetUsbSpeed speed
  | .getUsbSpeed => do
      let _ ← ovGetUsbSpeed

/-- The client goes on after an error. -/
def requests : List Request → Action Unit
  | [] => pure ()
  | request :: rest => do
      let _ ← request.action.attempt
      requests rest

section Requests

variable {addr : RegName → UInt16} {reaches : Nat → Bool} {board : Board}

/-- A function that leaves the device safe, as a step of the interface. -/
theorem reporting_hears {α : Type} {step : Action α}
    (triple : KeepsSafe addr reaches board step) :
    KeepsSafe addr reaches board (reporting chaErrorStr step) :=
  reporting_triple (fun _ _ => id) triple fun _ _ _ => id

theorem entering_hears {α : Type} {function : Action α}
    (triple : KeepsSafe addr reaches board function) :
    KeepsSafe addr reaches board (entering function) := by
  have entered : KeepsSafe addr reaches board
      (Program.modify fun memory : Memory =>
        { memory with
          errorStr := { memory.errorStr with origin := .earlier } }) :=
    Program.triple_modify fun _ _ => id
  exact Program.triple_bind entered fun _ => triple

/-- Whether it fails or not, the next step finds the device safe. -/
theorem attempt_hears {α β : Type} {first : Action α}
    {next : Option α → Action β}
    (triple : KeepsSafe addr reaches board first)
    (following : ∀ result, KeepsSafe addr reaches board (next result)) :
    KeepsSafe addr reaches board (first.attempt >>= next) :=
  Program.triple_attempt_bind triple Passes.rfl
    (fun _ => following _) (following none)

theorem action_hears (apart : Apart addr) (request : Request) :
    KeepsSafe addr reaches board request.action := by
  cases request with
  | captureStart =>
      refine entering_hears (Program.triple_bind
        (reporting_hears (allocTransfers_hears 3 0)) fun _ => ?_)
      exact reporting_hears (chaStartStream_hears apart)
  | captureStop =>
      refine attempt_hears
        (entering_hears (reporting_hears (chaHaltStream_hears apart)))
        fun _ => ?_
      exact reporting_hears (chaStopStream_hears apart)
  | setUsbSpeed speed =>
      exact entering_hears
        (reporting_hears (chaSetUsbSpeed_hears apart speed))
  | getUsbSpeed =>
      refine Program.triple_bind (entering_hears
        (reporting_hears (chaGetUsbSpeed_hears apart))) fun _ => ?_
      exact Program.triple_pure fun _ _ => id

theorem requests_hears (apart : Apart addr) (list : List Request) :
    KeepsSafe addr reaches board (requests list) := by
  induction list with
  | nil => exact Program.triple_pure fun _ _ => id
  | cons request rest ih =>
      exact attempt_hears (action_hears apart request) fun _ => ih

/--
Whatever a client asks for, whichever calls fail and wherever the run stops,
the device reads to the host only from rings that are set up, with the sink
and the stream switched on.
-/
theorem reads_only_when_set_up (apart : Apart addr)
    (reaches : Nat → Bool) (board : Board) (safe : Safe addr board.regs)
    (memory : Memory) (map : memory.cha.reg.addr = addr)
    (list : List Request) (script : List Answer) :
    Safe addr
      (board.after reaches ((requests list).run memory script).calls).regs :=
  by
  have initial : Hears addr reaches board (Safe addr) [] memory :=
    ⟨map, safe⟩
  have outcome := (requests_hears apart list).run initial script
  cases ended : ((requests list).run memory script).ending with
  | returned value =>
      rw [ended] at outcome
      exact outcome.2
  | stopped reason =>
      rw [ended] at outcome
      exact outcome.2

end Requests

/-- A map with four addresses for each register. -/
def spaced (name : RegName) : UInt16 :=
  UInt16.ofNat (4 * name.ctorIdx)

def spacedMemory : Memory :=
  { Memory.zeroed with cha.reg := ⟨none, spaced⟩ }

/-- The answers when a capture starts and no call fails. -/
def startedPromptly : List Answer :=
  List.replicate 6 (counted 1) ++
    (ringWrites spaced ++
      [(spaced .sdramSinkPtrRead, 0), (spaced .sdramSinkGo, 1),
        (spaced .cstreamCfg, 1)]).flatMap
      (fun (write : UInt16 × UInt8) =>
        promptly (write.1 ||| 0x8000) write.2) ++
    [counted 5]

/-- Once the device reads to the host, the set-up is in place. -/
theorem reads_only_when_set_up_started :
    InPlace (setup spaced)
      (Board.after (fun _ => false) ⟨fun _ => 0, 0⟩
        ((requests [.captureStart]).run spacedMemory
          startedPromptly).calls).regs := by
  have small :
      (addresses spaced).all (fun address => decide (address < 0x8000)) =
        true := by
    decide +kernel
  have apart : Apart spaced :=
    ⟨by decide +kernel, fun address member =>
      of_decide_eq_true (List.all_eq_true.mp small address member)⟩
  have safe : Safe spaced (fun _ => 0) := fun reading => absurd rfl reading
  refine reads_only_when_set_up apart (fun _ => false) ⟨fun _ => 0, 0⟩ safe
    spacedMemory rfl [.captureStart] startedPromptly ?_
  decide +kernel

end OpenVizsla.Device.StreamOrder
