import Mathlib

/-!
# Register maps

The addresses of the device registers, which a firmware package brings along
with its bitstream.
-/

namespace OpenVizsla.Register.Map

/-- `enum reg_name`, without the bound `REG_MAX`. -/
inductive RegName where
  | cstreamCfg
  | cstreamConsLo
  | cstreamConsHi
  | ledsOut
  | sdramHostReadRingBase
  | sdramHostReadRingEnd
  | sdramHostReadGo
  | sdramSinkPtrRead
  | sdramSinkRingBase
  | sdramSinkRingEnd
  | sdramSinkGo
  | ucfgWdata
  | ucfgWcmd
  | ucfgRdata
  | ucfgRcmd
deriving DecidableEq, Repr

/-- `struct reg` -/
structure Reg where
  errorStr : Option String
  addr : RegName → UInt16

end OpenVizsla.Register.Map
