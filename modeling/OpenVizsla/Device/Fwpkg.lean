import OpenVizsla.Device.State
import OpenVizsla.Register.Parse

/-!
# Firmware packages

The functions of `fwpkg.c`, which read a register map and a bitstream from a
zip file, and `reg_init_from_fwpkg`.
-/

namespace OpenVizsla.Device.Fwpkg

open OpenVizsla.Foundation.Calls
open OpenVizsla.Register.Parse
open OpenVizsla.Device.State

/-! ## Packages -/

/-- The package of the device, or that of `ov_load_firmware` on the stack. -/
inductive Package where
  | device
  | stack
deriving DecidableEq, Repr

def Package.get (package : Package) (memory : Memory) : State.Fwpkg :=
  match package with
  | .device => memory.fwpkg
  | .stack => memory.stackFwpkg

def Package.set (package : Package) (fwpkg : State.Fwpkg) (memory : Memory) :
    Memory :=
  match package with
  | .device => { memory with fwpkg := fwpkg }
  | .stack => { memory with stackFwpkg := fwpkg }

/-- `fwpkg->error_str = text` -/
def setError (package : Package) (text : String) : Action Unit :=
  Program.modify fun memory =>
    package.set { package.get memory with errorStr := ErrorStr.set text }
      memory

/-- `fwpkg->error_str = text; return -1` -/
def fwpkgFail {α : Type} (package : Package) (text : String) : Action α := do
  setError package text
  Program.fail

/-! ## Files -/

/-- `zip_fopen_index`, `zip_fread` and `zip_fclose`, with `size` bytes. -/
def fwpkgReadFile (package : Package) (size : Nat) (index : Int) :
    Action (List UInt8) := do
  let memory ← Program.get
  let file ← Program.call (.zipFopenIndex (package.get memory).pkg index)
  if file.ret = 0 then
    fwpkgFail package file.text
  else do
    let read ← Program.call (.zipFread file.ret size)
    if read.ret = -1 then
      Program.unwinding (fwpkgFail package read.text)
        (Program.call (.zipFclose file.ret))
    else do
      let _ ← Program.call (.zipFclose file.ret)
      pure (read.received size)

/-- `(size_t)(-1)` -/
def sizeMax : Nat :=
  2 ^ 64 - 1

/-- A failure is a size here. -/
def fwpkgFileSize (package : Package) (index : Int) : Action Nat := do
  let memory ← Program.get
  let sb ← Program.call (.zipStatIndex (package.get memory).pkg index)
  if sb.ret = -1 then do
    setError package sb.text
    pure sizeMax
  else
    match sb.size with
    | none => do
        setError package "Can not read uncompressed size"
        pure sizeMax
    | some size => pure (size % 2 ^ 64)

def fwpkgMapSize (package : Package) : Action Nat := do
  let memory ← Program.get
  fwpkgFileSize package (package.get memory).mapIndex

def fwpkgBitstreamSize (package : Package) : Action Nat := do
  let memory ← Program.get
  fwpkgFileSize package (package.get memory).bitstreamIndex

def fwpkgReadMap (package : Package) (size : Nat) : Action (List UInt8) := do
  let memory ← Program.get
  fwpkgReadFile package size (package.get memory).mapIndex

def fwpkgReadBitstream (package : Package) (size : Nat) :
    Action (List UInt8) := do
  let memory ← Program.get
  fwpkgReadFile package size (package.get memory).bitstreamIndex

/-! ## Opening and closing -/

/-- One of the two files of `fwpkg_locate_files`. -/
def locateFile (package : Package) (fname missing : String)
    (store : Int → State.Fwpkg → State.Fwpkg) : Action Unit := do
  let memory ← Program.get
  let pkg := (package.get memory).pkg
  let index ← Program.call (.zipNameLocate pkg fname)
  Program.modify fun memory =>
    package.set (store index.ret (package.get memory)) memory
  if index.ret = -1 then
    Program.unwinding (fwpkgFail package missing)
      (Program.call (.zipDiscard pkg))
  else
    pure ()

def fwpkgLocateFiles (package : Package) : Action Unit := do
  locateFile package "map.txt" "Can not find map.txt file"
    fun index fwpkg => { fwpkg with mapIndex := index }
  locateFile package "ov3.bit" "Can not find ov3.bit file"
    fun index fwpkg => { fwpkg with bitstreamIndex := index }

/-- `memset(fwpkg, 0, sizeof(struct fwpkg))` -/
def clear (package : Package) : Action Unit :=
  Program.modify (package.set ⟨0, 0, 0, ⟨.earlier, none⟩⟩)

/-- `fwpkg->pkg` is the result, which must not be `NULL`. -/
def openPackage (package : Package) (opening : Call) : Action Unit := do
  let pkg ← Program.call opening
  Program.modify fun memory =>
    package.set { package.get memory with pkg := pkg.ret } memory
  if pkg.ret = 0 then fwpkgFail package pkg.text else pure ()

def fwpkgInitFromFile (package : Package) (filename : String) :
    Action Unit := do
  clear package
  openPackage package (.zipOpen filename)
  fwpkgLocateFiles package

/-- From the package that is linked into the program. -/
def fwpkgInitFromPreload (package : Package) : Action Unit := do
  clear package
  let src ← Program.call .zipSourceBufferCreate
  if src.ret = 0 then
    fwpkgFail package src.text
  else do
    openPackage package (.zipOpenFromSource src.ret)
    fwpkgLocateFiles package

def fwpkgInit (package : Package) : (filename : Option String) → Action Unit
  | some filename => fwpkgInitFromFile package filename
  | none => fwpkgInitFromPreload package

def fwpkgDestroy (package : Package) : Action Unit := do
  let memory ← Program.get
  let _ ← Program.call (.zipDiscard (package.get memory).pkg)

/-! ## The register map -/

/-- `reg->error_str = text; goto fail` -/
def regFail {α : Type} (text : ErrorStr) : Action α := do
  Program.modify fun memory => { memory with stackReg.errorStr := text }
  Program.fail

/-- The call of `reg_init`, which clears the error string. -/
def initReg (map : List UInt8) : Action Unit := do
  Program.modify fun memory =>
    { memory with stackReg.errorStr := ⟨.earlier, none⟩ }
  match regInit map with
  | .accepted addr =>
      Program.modify fun memory => { memory with stackReg.addr := addr }
  | .rejected text => regFail (ErrorStr.set text)
  | .aborted => Program.abort

/-- `reg_init_from_fwpkg(&reg, fwpkg)` with `reg` on the stack. -/
def regInitFromFwpkg (package : Package) : Action Unit := do
  let mapSize ← fwpkgMapSize package
  let size := (mapSize + 1) % 2 ^ 64
  let tmp ← Program.call (.malloc size)
  if tmp.ret = 0 then
    regFail (ErrorStr.set "Cannot allocate memory for register map")
  else do
    Program.unwinding
      (do
        match ← (fwpkgReadMap package size).attempt with
        | some map => initReg map
        | none => do
            let memory ← Program.get
            regFail (package.get memory).errorStr)
      (Program.call (.free tmp.ret))
    let _ ← Program.call (.free tmp.ret)

end OpenVizsla.Device.Fwpkg
