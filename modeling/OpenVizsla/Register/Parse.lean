import OpenVizsla.Register.Map

/-!
# The register map as text

`reg_init` reads the addresses of the registers from a text with one register
on each line: a name, an equals sign and a hexadecimal number.  Lines that are
empty or start with `#` are comments.
-/

namespace OpenVizsla.Register.Parse

open OpenVizsla.Register.Map

/-! ## Characters -/

/-- `isspace` in the C locale. -/
def IsSpace (byte : UInt8) : Prop :=
  byte = 0x20 ∨ 0x09 ≤ byte ∧ byte ≤ 0x0d

instance (byte : UInt8) : Decidable (IsSpace byte) :=
  inferInstanceAs (Decidable (_ ∨ _))

/-- The value of a hexadecimal digit. -/
def hexDigit (byte : UInt8) : Option Nat :=
  if 0x30 ≤ byte ∧ byte ≤ 0x39 then some (byte.toNat - 0x30)
  else if 0x41 ≤ byte ∧ byte ≤ 0x46 then some (byte.toNat - 0x41 + 10)
  else if 0x61 ≤ byte ∧ byte ≤ 0x66 then some (byte.toNat - 0x61 + 10)
  else none

/-- The number that the leading digits stand for. -/
def hexNumber : (value : Nat) → List UInt8 → Nat
  | value, [] => value
  | value, byte :: text =>
      match hexDigit byte with
      | some digit => hexNumber (value * 16 + digit) text
      | none => value

/-- A prefix `0x` counts only in front of a digit. -/
def dropHexPrefix : List UInt8 → List UInt8
  | 0x30 :: x :: digit :: text =>
      if (x = 0x78 ∨ x = 0x58) ∧ (hexDigit digit).isSome then digit :: text
      else 0x30 :: x :: digit :: text
  | text => text

/-- The largest `unsigned long int`. -/
def ulongMax : Nat :=
  2 ^ 64 - 1

/-- The digits of `strtoul`.  A number out of range gives the largest one. -/
def strtoulDigits (negative : Bool) (text : List UInt8) : Nat :=
  let value := hexNumber 0 (dropHexPrefix text)
  if ulongMax < value then ulongMax
  else if negative then (2 ^ 64 - value) % 2 ^ 64
  else value

/-- `strtoul(text, NULL, 16)` -/
def strtoul (text : List UInt8) : Nat :=
  match text.dropWhile IsSpace with
  | 0x2b :: digits => strtoulDigits false digits
  | 0x2d :: digits => strtoulDigits true digits
  | digits => strtoulDigits false digits

/-- `strtok(text, " ")` -/
def strtok (text : List UInt8) : Option (List UInt8) :=
  let token := (text.dropWhile (· = 0x20)).takeWhile (· ≠ 0x20)
  if token = [] then none else some token

/-! ## Lines -/

/-- The entries of `reg.gperf`. -/
def regDecode : List (String × RegName) :=
  [("CSTREAM_CFG", .cstreamCfg),
    ("CSTREAM_CONS_LO", .cstreamConsLo),
    ("CSTREAM_CONS_HI", .cstreamConsHi),
    ("LEDS_OUT", .ledsOut),
    ("SDRAM_HOST_READ_RING_BASE", .sdramHostReadRingBase),
    ("SDRAM_HOST_READ_RING_END", .sdramHostReadRingEnd),
    ("SDRAM_HOST_READ_GO", .sdramHostReadGo),
    ("SDRAM_SINK_PTR_READ", .sdramSinkPtrRead),
    ("SDRAM_SINK_RING_BASE", .sdramSinkRingBase),
    ("SDRAM_SINK_RING_END", .sdramSinkRingEnd),
    ("SDRAM_SINK_GO", .sdramSinkGo),
    ("UCFG_WDATA", .ucfgWdata),
    ("UCFG_WCMD", .ucfgWcmd),
    ("UCFG_RDATA", .ucfgRdata),
    ("UCFG_RCMD", .ucfgRcmd)]

/-- The bytes of an ASCII string. -/
def ascii (text : String) : List UInt8 :=
  text.toList.map fun char => char.toNat.toUInt8

/-- `in_word_set`, as gperf generates it from the entries. -/
def inWordSet (key : List UInt8) : Option RegName :=
  (regDecode.find? fun entry => ascii entry.1 = key).map Prod.snd

/-- What becomes of a text: `rejected` is `-1`, `aborted` a failed assertion. -/
inductive Parsed (ε α : Type) where
  | accepted (value : α)
  | rejected (error : ε)
  | aborted
deriving DecidableEq, Repr

/-- The addresses of `struct reg`. -/
abbrev Addresses : Type :=
  RegName → UInt16

/-- The return value is not looked at, so an unknown name is no error. -/
def regFromPair (addr : Addresses) (key : List UInt8) (value : Nat) :
    Parsed Unit Addresses :=
  if value < 0xffff then
    match inWordSet key with
    | some name => .accepted (Function.update addr name value.toUInt16)
    | none => .accepted addr
  else
    .aborted

def regFromLine (addr : Addresses) (line : List UInt8) : Parsed Unit Addresses :=
  if line = [] ∨ line.head? = some 0x23 then
    .accepted addr
  else if 0x3d ∈ line then
    let key := line.takeWhile (· ≠ 0x3d)
    let value := (line.dropWhile (· ≠ 0x3d)).tail
    match strtok key with
    | some token => regFromPair addr token (strtoul value)
    | none => .aborted
  else
    .rejected ()

/-- The lines that `x_strchr` cuts the map into, one after the other. -/
def regFromLines : Addresses → List (List UInt8) → Parsed Unit Addresses
  | addr, [] => .accepted addr
  | addr, line :: lines =>
      match regFromLine addr line with
      | .accepted addr => regFromLines addr lines
      | .rejected () => .rejected ()
      | .aborted => .aborted

/-- `enum reg_name` in its order. -/
def regNames : List RegName :=
  regDecode.map Prod.snd

/-- The addresses `reg_validate` accepts: none is missing. -/
def Valid (addr : Addresses) : Prop :=
  ∀ name ∈ regNames, addr name ≠ 0xffff

instance (addr : Addresses) : Decidable (Valid addr) :=
  inferInstanceAs (Decidable (∀ name ∈ _, _))

/-- The text up to the `NUL` that ends it. -/
def cString (text : List UInt8) : List UInt8 :=
  text.takeWhile (· ≠ 0)

/-- The error of `reg_init` is its error string. -/
def regInit (map : List UInt8) : Parsed String Addresses :=
  match regFromLines (fun _ => 0xffff) ((cString map).splitOn 0x0a) with
  | .accepted addr =>
      if Valid addr then .accepted addr
      else .rejected "Missed register address"
  | .rejected () => .rejected "Can not parse register map"
  | .aborted => .aborted

end OpenVizsla.Register.Parse
