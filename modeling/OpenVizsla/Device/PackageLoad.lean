import OpenVizsla.Device.PackageFiles
import OpenVizsla.Device.Upload

/-!
# From the package to the device

`ov_load_firmware` reads a register map and a bitstream from a package, and it
checks both before it makes the first call to the device.  When it returns,
the device has got the bits of the bitstream and the library uses the
addresses of the map.
-/

namespace OpenVizsla.Device.PackageLoad

open OpenVizsla.Foundation.Calls
open OpenVizsla.Register.Map
open OpenVizsla.Register.Message
open OpenVizsla.Device.State
open OpenVizsla.Device.Cha
open OpenVizsla.Device.Bit
open OpenVizsla.Device.BitGrammar
open OpenVizsla.Device.Fwpkg
open OpenVizsla.Device.Ov
open OpenVizsla.Device.Upkeep
open OpenVizsla.Device.Upload
open OpenVizsla.Device.PackageFiles

variable {filename : Option String} {history : List (Call × Answer)}
  {memory memory' : Memory}

/-! ## Behind the gate -/

/-- Both files have been read, and no call to the device came before. -/
structure Passed (filename : Option String)
    (history : List (Call × Answer)) : Prop where
  guarded : Guarded filename history
  supplied : ∃ map file, Supplies filename map file history

theorem Passed.concat (passed : Passed filename history)
    (entry : Call × Answer) : Passed filename (history ++ [entry]) where
  guarded := passed.guarded.concat fun _ => passed.supplied
  supplied := by
    obtain ⟨map, file, supplied⟩ := passed.supplied
    exact ⟨map, file, stays_supplies _ _ _ entry supplied⟩

/-- What is left of a program that stops behind the gate. -/
def passed (filename : Option String) :
    Stop Call → Assertion Call Answer Memory :=
  fun _ history _ => Passed filename history

/--
The firmware is on its way.  The map and the bitstream are those of the
package, and these bytes have been handed over to the device so far.
-/
structure Loading (filename : Option String) (map : RegName → UInt16)
    (file : BitFile) (done : List UInt8) (history : List (Call × Answer))
    (memory : Memory) : Prop where
  guarded : Guarded filename history
  supplied : Supplies filename map file history
  addr : memory.stackReg.addr = map
  image : bytes memory.bit memory.bit.size = file.rest
  handed : submitted history = done

section Loading

variable {map : RegName → UInt16} {file : BitFile} {done : List UInt8}

theorem Loading.passed
    (loading : Loading filename map file done history memory) :
    Passed filename history :=
  ⟨loading.guarded, map, file, loading.supplied⟩

/-- A call that hands something over, or nothing. -/
theorem Loading.concat
    (loading : Loading filename map file done history memory)
    (entry : Call × Answer) :
    Loading filename map file (done ++ handedOver entry.1)
      (history ++ [entry]) memory where
  guarded := (loading.passed.concat entry).guarded
  supplied := stays_supplies _ _ _ entry loading.supplied
  addr := loading.addr
  image := loading.image
  handed := by
    rw [submitted_append, loading.handed]
    simp [submitted]

/-- A call that hands nothing over. -/
theorem Loading.concat_nothing
    (loading : Loading filename map file done history memory)
    {call : Call} (answer : Answer) (nothing : handedOver call = []) :
    Loading filename map file done (history ++ [(call, answer)]) memory := by
  have later := loading.concat (call, answer)
  rwa [nothing, List.append_nil] at later

theorem handedOver_of_ofChannel {call : FtdiCall}
    (ofChannel : OfChannel call) : handedOver (.ftdi .a call) = [] := by
  cases call <;> first | rfl | exact ofChannel.elim

theorem loading_cha (filename : Option String) (map : RegName → UInt16)
    (file : BitFile) (done : List UInt8) :
    ChaUpkeep (Loading filename map file done)
      (Loading filename map file done) where
  call := fun answer ofChannel loading =>
    loading.concat_nothing answer (handedOver_of_ofChannel ofChannel)
  fail := fun _ loading => { loading with }

theorem loading_startUp (filename : Option String)
    (map : RegName → UInt16) (file : BitFile) (done : List UInt8) :
    StartUpUpkeep (Loading filename map file done) where
  write := fun answer loading => loading.concat_nothing answer rfl
  chb :=
    { call := fun answer _ loading => loading.concat_nothing answer rfl
      fail := fun _ loading => { loading with } }
  fail := fun _ loading => { loading with }

theorem Loading.aged
    (loading : Loading filename map file done history memory) :
    Loading filename map file done history memory.aged :=
  { loading with }

end Loading

/-! ## The bitstream -/

theorem submitted_of_quiet (quiet : Quiet history memory) :
    submitted history = [] := by
  refine List.flatMap_eq_nil_iff.mpr fun entry member => ?_
  have offDevice := quiet entry member
  obtain ⟨call, answer⟩ := entry
  cases call with
  | ftdi channel call => exact absurd trivial offDevice
  | _ => rfl

/-- The bitstream file has been read. -/
def ReadBitstream (filename : Option String) (package : Package)
    (data : List UInt8) : Assertion Call Answer Memory :=
  fun history memory => Mapped filename package history memory ∧
    ReadFrom (package.get memory).pkg "ov3.bit" data history

theorem fwpkgReadBitstream_triple (package : Package) (size : Nat) :
    Program.Triple (Mapped filename package)
      (fwpkgReadBitstream package size) (ReadBitstream filename package)
      (stopped filename) :=
  readNamed_triple (mapped_filed package) (fun _ _ => rfl)
    (fun _ _ mapped => mapped.1.2.bitstream) size

/-- Both files are well formed, and nothing has been handed over. -/
def Ready (filename : Option String) : Assertion Call Answer Memory :=
  fun history memory =>
    ∃ source : (RegName → UInt16) × BitFile,
      Loading filename source.1 source.2 [] history memory

theorem loading_parsed {package : Package} {file : BitFile}
    (start : ReadBitstream filename package file.encode history memory) :
    Ready filename history
      { memory with bit := file.parsed memory.bit } := by
  obtain ⟨⟨opened, text, read, accepted⟩, bitstream⟩ := start
  refine ⟨(memory.stackReg.addr, file), ?_⟩
  constructor
  · exact opened.1.guarded
  · exact ⟨_, opened.2.package, ⟨text, read, accepted⟩, bitstream⟩
  · rfl
  · have described := describes_parsed file memory.bit
    show ((file.parsed memory.bit).buffer.drop
      (file.parsed memory.bit).data).take file.rest.length = file.rest
    rw [described.rest, List.take_length]
  · exact submitted_of_quiet opened.1

theorem bitInit_triple (package : Package) (data : List UInt8) :
    Program.Triple (ReadBitstream filename package data) (bitInit data)
      (fun _ => Ready filename) (stopped filename) := by
  refine Program.triple_get_bind fun read => ?_
  cases parsed : bitDoParse (atStart read.bit data) with
  | ok bit =>
      obtain ⟨file, rfl, rfl⟩ := bitDoParse_ok_iff.mp parsed
      rw [atStart] at parsed
      dsimp only
      rw [parsed]
      refine Program.triple_modify ?_
      rintro history memory ⟨rfl, start⟩
      exact loading_parsed start
  | error bit =>
      rw [atStart] at parsed
      dsimp only
      rw [parsed]
      exact Program.triple_modify_fail fun _ _ start =>
        start.2.1.1.1.guarded

/-! ## Up to the config mode -/

theorem mapped_aged {package : Package}
    (mapped : Mapped filename package history memory) :
    Mapped filename package history memory.aged := by
  obtain ⟨⟨quiet, opened, map, bitstream⟩, read⟩ := mapped
  cases package <;> exact ⟨⟨quiet, opened, map, bitstream⟩, read⟩

theorem readBitstream_aged {package : Package} {data : List UInt8}
    (start : ReadBitstream filename package data history memory) :
    ReadBitstream filename package data history memory.aged := by
  refine ⟨mapped_aged start.1, ?_⟩
  cases package <;> exact start.2

/-- The variables of the function are no part of a package. -/
theorem mapped_tmp {package : Package} (ptr : Int) (errorStr : ErrorStr)
    (mapped : Mapped filename package history memory) :
    Mapped filename package history
      { memory with tmp := ptr, bit.errorStr := errorStr } := by
  cases package <;> exact mapped

theorem chaSwitchConfigMode_triple :
    Program.Triple (Ready filename) chaSwitchConfigMode
      (fun _ => Ready filename) (passed filename) := by
  refine Program.triple_exists fun source => ?_
  have upkeep := loading_cha filename source.1 source.2 []
  have kept : Program.Triple
      (Loading filename source.1 source.2 []) chaSwitchConfigMode
      (fun _ => Loading filename source.1 source.2 []) (passed filename) :=
    Program.triple_of_upholds (chaSwitchMode_upholds upkeep .bitbang)
      (fun _ _ _ _ => Loading.passed) fun _ _ => Loading.passed
  exact kept.weaken (fun _ _ => id)
    (fun _ _ _ loading => ⟨source, loading⟩) fun _ _ _ => id

theorem prepare_triple (package : Package) :
    Program.Triple (Mapped filename package) (prepare package)
      (fun _ => Ready filename) (stopped filename) := by
  have filed : Filed filename package (Mapped filename package) :=
    mapped_filed package
  have declared : Program.Triple (Mapped filename package) declareBit
      (fun _ => Mapped filename package) (stopped filename) :=
    Program.triple_modify fun _ _ => mapped_tmp 0 _
  have sized : Program.Triple (Mapped filename package)
      (fwpkgBitstreamSize package) (fun _ => Mapped filename package)
      (stopped filename) :=
    Program.triple_get_bind fun _ =>
      (fwpkgFileSize_triple filed _).strengthen fun _ _ => And.right
  refine Program.triple_bind declared fun _ => ?_
  refine Program.triple_bind sized fun size => ?_
  refine fileCall_skip filed (by trivial) fun tmp => ?_
  refine Program.triple_ite
    (fun _ => Program.triple_modify_fail fun _ _ => filed.stop)
    fun _ => ?_
  have stored : Program.Triple (Mapped filename package)
      (Program.modify fun memory : Memory =>
        { memory with tmp := tmp.ret })
      (fun _ => Mapped filename package) (stopped filename) :=
    Program.triple_modify fun _ memory => mapped_tmp _ memory.bit.errorStr
  refine Program.triple_bind stored fun _ => ?_
  have freed : Program.Triple (stopped filename .failed) freeTmp
      (fun _ => stopped filename .failed) (stopped filename) :=
    Program.triple_of_upholds
      (freeTmp_upholds
        (fun _ _ _ answer guarded =>
          Guarded.onFiles guarded (by trivial) answer)
        fun _ _ _ => id)
      Passes.rfl fun _ _ => id
  refine Program.triple_unwinding ?_ Passes.rfl freed
  refine Program.triple_bind
    (reporting_triple (fun _ _ => mapped_aged)
      (fwpkgReadBitstream_triple package size) fun _ _ _ => id) fun data => ?_
  refine Program.triple_bind
    (reporting_triple (fun _ _ => readBitstream_aged)
      (bitInit_triple package data) fun _ _ _ => id) fun _ => ?_
  have ready (history : List (Call × Answer)) (memory : Memory) :
      Ready filename history memory → Ready filename history memory.aged := by
    rintro ⟨source, loading⟩
    exact ⟨source, loading.aged⟩
  refine reporting_triple ready ?_ fun _ _ _ => id
  exact chaSwitchConfigMode_triple.weaken (fun _ _ => id)
    (fun _ _ _ => id) fun _ _ _ => Passed.guarded

/-! ## The upload -/

section Upload

variable {map : RegName → UInt16} {file : BitFile}

theorem bitFail_triple {α : Type} {done : List UInt8}
    {post : α → Assertion Call Answer Memory} (text : String) :
    Program.Triple (Loading filename map file done)
      (bitFail text : Action α) post (passed filename) :=
  Program.triple_modify_fail fun _ _ => Loading.passed

theorem transferDone_triple (done : List UInt8) (tc : Int) :
    Program.Triple (Loading filename map file done) (transferDone tc)
      (fun _ => Loading filename map file done) (passed filename) := by
  have waited : Program.Triple (Loading filename map file done)
      (Program.call (.ftdi .a (.transferDataDone tc)))
      (fun _ => Loading filename map file done) (passed filename) :=
    Program.triple_call (fun _ _ => Loading.passed)
      fun _ _ answer loading => loading.concat_nothing answer rfl
  exact Program.triple_bind waited fun _ =>
    Program.triple_ite (fun _ => bitFail_triple _) fun _ =>
      Program.triple_pure fun _ _ => id

/-- The rounds hand over what is left, 4096 bytes at a time. -/
theorem submitAll_triple (done : List UInt8) (bidx : Nat) (tc : Int)
    (data : List UInt8) :
    Program.Triple (Loading filename map file done) (submitAll bidx tc data)
      (fun _ => Loading filename map file (done ++ data.map bitreverse8))
      (passed filename) := by
  rw [submitAll]
  refine Program.triple_ite (fun empty => ?_) fun more => ?_
  · subst empty
    rw [List.map_nil, List.append_nil]
    exact Program.triple_pure fun _ _ => id
  · have previous : Program.Triple (Loading filename map file done)
        (previousDone tc) (fun _ => Loading filename map file done)
        (passed filename) :=
      Program.triple_ite (fun _ => transferDone_triple done tc) fun _ =>
        Program.triple_pure fun _ _ => id
    refine Program.triple_bind previous fun _ => ?_
    let buf := (data.take 4096).map bitreverse8
    have handed : Program.Triple (Loading filename map file done)
        (Program.call (.ftdi .a (.writeDataSubmit bidx buf)))
        (fun _ => Loading filename map file (done ++ buf))
        (passed filename) :=
      Program.triple_call (fun _ _ => Loading.passed)
        fun _ _ answer loading =>
          loading.concat (.ftdi .a (.writeDataSubmit bidx buf), answer)
    refine Program.triple_bind handed fun submitted => ?_
    refine Program.triple_ite (fun _ => bitFail_triple _) fun _ => ?_
    have rest := submitAll_triple (done ++ buf) ((bidx + 1) % 2)
      submitted.ret (data.drop 4096)
    rwa [List.append_assoc, ← List.map_append, List.take_append_drop]
      at rest
termination_by data.length
decreasing_by exact length_drop_lt ‹_›

theorem bitLoadFirmware_triple :
    Program.Triple (Loading filename map file []) bitLoadFirmware
      (fun _ => Loading filename map file (file.rest.map reversed))
      (passed filename) := by
  refine Program.triple_get_bind fun read => ?_
  have uploads : Program.Triple
      (fun history memory => memory = read ∧
        Loading filename map file [] history memory)
      (submitAll 0 0 (bytes read.bit read.bit.size))
      (fun _ => Loading filename map file (file.rest.map reversed))
      (passed filename) := by
    rintro history memory ⟨rfl, loading⟩
    rw [loading.image,
      ← List.map_congr_left fun byte _ => bitreverse8_eq byte]
    exact submitAll_triple [] 0 0 file.rest history memory loading
  refine Program.triple_bind uploads fun tc => ?_
  refine Program.triple_bind (transferDone_triple _ tc) fun _ => ?_
  exact Program.triple_of_upholds
    (startUp_upholds (loading_startUp filename map file _))
    (fun _ _ _ _ => Loading.passed) fun _ _ => Loading.passed

/-- All of the image has been handed over. -/
theorem programFpga_triple :
    Program.Triple (Loading filename map file []) programFpga
      (fun _ => Loading filename map file (file.rest.map reversed))
      (passed filename) := by
  have kept (done : List UInt8) {program : Action Unit}
      (upholds :
        program.Upholds (Loading filename map file done)
          (Loading filename map file done)) :
      Program.Triple (Loading filename map file done) program
        (fun _ => Loading filename map file done) (passed filename) :=
    Program.triple_of_upholds upholds (fun _ _ _ _ => Loading.passed)
      fun _ _ => Loading.passed
  have upkeep := loading_cha filename map file (file.rest.map reversed)
  refine Program.triple_bind (reporting_triple (fun _ _ => Loading.aged)
    (kept [] (chbSwitchProgramMode_upholds
      (loading_startUp filename map file []).chb)) fun _ _ _ => id)
    fun _ => ?_
  refine Program.triple_bind (reporting_triple (fun _ _ => Loading.aged)
    bitLoadFirmware_triple fun _ _ _ => id) fun _ => ?_
  refine Program.triple_bind (kept _ (freeTmp_upholds
    (fun _ _ _ answer loading => loading.concat_nothing answer rfl)
    fun _ _ _ loading => { loading with })) fun _ => ?_
  exact reporting_triple (fun _ _ => Loading.aged)
    (kept _ (chaSwitchFifoMode_upholds upkeep)) fun _ _ _ => id

theorem passed_cha :
    ChaUpkeep (passed filename .failed) (passed filename .failed) where
  call := fun _ _ behind => behind.concat _
  fail := fun _ behind => behind

/-- Cleaning up goes on behind the gate. -/
theorem abandonFpga_triple :
    Program.Triple (passed filename .failed) abandonFpga
      (fun _ => passed filename .failed) (passed filename) := by
  have upholds : abandonFpga.Upholds (passed filename .failed)
      (passed filename .failed) := by
    refine Program.upholds_bind
      (Program.upholds_attempt (chaSwitchFifoMode_upholds passed_cha))
      fun _ => ?_
    exact freeTmp_upholds (fun _ _ _ _ behind => behind.concat _)
      fun _ _ _ => id
  exact Program.triple_of_upholds upholds Passes.rfl fun _ _ => id

end Upload

/-! ## The whole load -/

/-- The load is over but for the package. -/
def Uploaded (filename : Option String) : Assertion Call Answer Memory :=
  fun history memory =>
    ∃ source : (RegName → UInt16) × BitFile,
      Loading filename source.1 source.2 (source.2.rest.map reversed)
        history memory

theorem ovLoadFirmwareFromFwpkg_triple (package : Package) :
    Program.Triple (Mapped filename package)
      (ovLoadFirmwareFromFwpkg package) (fun _ => Uploaded filename)
      (stopped filename) := by
  refine Program.triple_bind (prepare_triple package) fun _ => ?_
  have programmed : Program.Triple (Ready filename)
      (Program.unwinding programFpga abandonFpga)
      (fun _ => Uploaded filename) (passed filename) := by
    refine Program.triple_exists fun source => ?_
    refine Program.triple_unwinding ?_ Passes.rfl abandonFpga_triple
    exact programFpga_triple.weaken (fun _ _ => id)
      (fun _ _ _ loading => ⟨source, loading⟩) fun _ _ _ => id
  exact programmed.weaken (fun _ _ => id) (fun _ _ _ => id)
    fun _ _ _ => Passed.guarded

/-- The library uses the addresses of the map. -/
def Installed (filename : Option String) : Assertion Call Answer Memory :=
  fun history memory =>
    ∃ source : (RegName → UInt16) × BitFile,
      Loading filename source.1 source.2 (source.2.rest.map reversed)
          history memory ∧
        memory.cha.reg.addr = source.1

theorem chaSetReg_triple :
    Program.Triple (Uploaded filename)
      (do
        let memory ← Program.get
        reporting chaErrorStr (chaSetReg memory.stackReg))
      (fun _ => Installed filename) (stopped filename) := by
  refine Program.triple_get_bind fun read => ?_
  have start (history : List (Call × Answer)) (memory : Memory) :
      memory = read ∧ Uploaded filename history memory →
        memory.stackReg.addr = read.stackReg.addr ∧
          Uploaded filename history memory := by
    rintro ⟨rfl, uploaded⟩
    exact ⟨rfl, uploaded⟩
  refine Program.Triple.strengthen ?_ start
  refine reporting_triple ?_ (Program.triple_modify ?_) fun _ _ _ => id
  · rintro history memory ⟨same, source, loading⟩
    exact ⟨same, source, loading.aged⟩
  · rintro history memory ⟨same, source, loading⟩
    exact ⟨source, { loading with }, same.symm.trans loading.addr⟩

theorem ovLoadFirmware_triple (filename : Option String) :
    Program.Triple Quiet (ovLoadFirmware filename)
      (fun _ => Installed filename) (stopped filename) := by
  have onStack {change : Memory → Memory} :
      Program.Triple Quiet (Program.modify change) (fun _ => Quiet)
        (stopped filename) :=
    Program.triple_modify fun _ _ => id
  refine Program.triple_bind onStack fun _ => ?_
  refine Program.triple_bind onStack fun _ => ?_
  refine Program.triple_bind
    (reporting_triple (fun _ _ => id) (fwpkgInit_triple .stack filename)
      fun _ _ _ => id)
    fun _ => ?_
  have opened (history : List (Call × Answer)) (memory : Memory)
      (opened : Opened filename .stack history memory) :
      Opened filename .stack history memory.aged :=
    ⟨opened.1, opened.2.package, opened.2.map, opened.2.bitstream⟩
  have loaded : Program.Triple (Opened filename .stack)
      (do
        reporting (fun memory => memory.stackReg.errorStr)
          (regInitFromFwpkg .stack)
        ovLoadFirmwareFromFwpkg .stack
        let memory ← Program.get
        reporting chaErrorStr (chaSetReg memory.stackReg))
      (fun _ => Installed filename) (stopped filename) := by
    refine Program.triple_bind
      (reporting_triple opened (regInitFromFwpkg_triple .stack)
        fun _ _ _ => id) fun _ => ?_
    exact Program.triple_bind (ovLoadFirmwareFromFwpkg_triple .stack)
      fun _ => chaSetReg_triple
  have destroyed : Program.Triple (stopped filename .failed)
      (fwpkgDestroy .stack) (fun _ => stopped filename .failed)
      (stopped filename) :=
    Program.triple_of_upholds
      (fwpkgDestroy_upholds fun _ _ _ answer guarded =>
        Guarded.onFiles guarded (by trivial) answer)
      Passes.rfl fun _ _ => id
  refine Program.triple_bind
    (Program.triple_unwinding loaded Passes.rfl destroyed) fun _ => ?_
  have kept :
      (fwpkgDestroy .stack).Upholds (Installed filename)
        (Installed filename) := by
    refine fwpkgDestroy_upholds ?_
    rintro history memory pkg answer ⟨source, loading, addr⟩
    exact ⟨source, loading.concat_nothing answer rfl, addr⟩
  refine Program.triple_of_upholds kept ?_ ?_
  · rintro reason - history memory ⟨source, loading, -⟩
    exact loading.guarded
  · rintro history memory ⟨source, loading, -⟩
    exact loading.guarded

/-- What every run of `ov_load_firmware` comes to. -/
theorem load_outcome (filename : Option String) (memory : Memory)
    (script : List Answer) :
    Post.either (fun _ => Installed filename) (stopped filename)
      ((ovLoadFirmware filename).run memory script).ending
      ((ovLoadFirmware filename).run memory script).calls
      ((ovLoadFirmware filename).run memory script).state := by
  refine (ovLoadFirmware_triple filename).run ?_ script
  intro entry member
  cases member

/--
Whatever the answers are and however a load ends, the device hears nothing
before the map and the bitstream of the package that was asked for have been
read and are well formed.
-/
theorem device_untouched_until_verified (filename : Option String)
    (memory : Memory) (script : List Answer) :
    Guarded filename ((ovLoadFirmware filename).run memory script).calls := by
  have outcome := load_outcome filename memory script
  cases ended : ((ovLoadFirmware filename).run memory script).ending with
  | returned value =>
      rw [ended] at outcome
      obtain ⟨source, loading, -⟩ := outcome
      exact loading.guarded
  | stopped stop =>
      rw [ended] at outcome
      exact outcome

/--
When a load returns, the addresses are those of the map in the package, and
the bytes handed over to the device are those behind the fields of the
bitstream file, with the bits of each byte reversed.
-/
theorem package_loaded (filename : Option String) (memory : Memory)
    (script : List Answer)
    (returned :
      ((ovLoadFirmware filename).run memory script).ending =
        .returned ()) :
    ∃ map file,
      Supplies filename map file
          ((ovLoadFirmware filename).run memory script).calls ∧
        ((ovLoadFirmware filename).run memory script).state.cha.reg.addr =
          map ∧
        submitted ((ovLoadFirmware filename).run memory script).calls =
          file.rest.map reversed := by
  have outcome := load_outcome filename memory script
  rw [returned] at outcome
  obtain ⟨source, loading, addr⟩ := outcome
  exact ⟨source.1, source.2, loading.supplied, addr, loading.handed⟩

/-- The answers to a load of the small firmware. -/
def smallScript : List Answer :=
  smallLoad 0x31 (syncMessage 0x8000)

/-- The small firmware has one byte behind its fields. -/
theorem package_loaded_small :
    ∃ map file,
      Supplies (some "ov3.fwpkg") map file
          ((ovLoadFirmware (some "ov3.fwpkg")).run Memory.zeroed
            smallScript).calls ∧
        ((ovLoadFirmware (some "ov3.fwpkg")).run Memory.zeroed
          smallScript).state.cha.reg.addr = map ∧
        submitted
            ((ovLoadFirmware (some "ov3.fwpkg")).run Memory.zeroed
              smallScript).calls =
          file.rest.map reversed :=
  package_loaded (some "ov3.fwpkg") Memory.zeroed smallScript
    (by decide +kernel)

end OpenVizsla.Device.PackageLoad
