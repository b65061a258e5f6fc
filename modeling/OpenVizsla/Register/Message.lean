import Mathlib

/-!
# Register messages

The five bytes that access a register: a magic byte, the address, the value
and a checksum.  The highest bit of the address asks for a write.  The device
answers in the same form.
-/

namespace OpenVizsla.Register.Message

/-- The checksum of a message, and of everything else: the sum. -/
def chaTransactionChecksum (buf : List UInt8) : UInt8 :=
  buf.foldl (· + ·) 0

/-- Four bytes of a message, and their checksum. -/
def checked (addrHi addrLo value : UInt8) : List UInt8 :=
  [0x55, addrHi, addrLo, value,
    chaTransactionChecksum [0x55, addrHi, addrLo, value]]

/-- `addr >> 8` -/
def highByte (addr : UInt16) : UInt8 :=
  (addr >>> 8).toUInt8

/-- `addr & 0xFF` -/
def lowByte (addr : UInt16) : UInt8 :=
  (addr &&& 0xff).toUInt8

/-- The message of `cha_transaction`. -/
def transactionMessage (addr : UInt16) (inVal : UInt8) : List UInt8 :=
  checked (highByte addr) (lowByte addr) inVal

/-- The message of `cha_cast_reg`, which sets the write bit itself. -/
def castMessage (addr : UInt16) (value : UInt8) : List UInt8 :=
  checked (0x80 ||| highByte addr) (lowByte addr) value

/-- The message of `cha_sync_stream`. -/
def syncMessage (addr : UInt16) : List UInt8 :=
  checked (highByte addr) (lowByte addr) 0x00

theorem toNat_highByte (addr : UInt16) :
    (highByte addr).toNat = addr.toNat / 256 := by
  have shift : addr.toNat >>> 8 = addr.toNat / 256 :=
    Nat.shiftRight_eq_div_pow _ 8
  have below := addr.toNat_lt
  rw [highByte, UInt16.toNat_toUInt8, UInt16.toNat_shiftRight]
  change (addr.toNat >>> 8) % 256 = _
  omega

theorem toNat_lowByte (addr : UInt16) :
    (lowByte addr).toNat = addr.toNat % 256 := by
  have mask : addr.toNat &&& 255 = addr.toNat % 256 :=
    Nat.and_two_pow_sub_one_eq_mod _ 8
  rw [lowByte, UInt16.toNat_toUInt8, UInt16.toNat_and]
  change (addr.toNat &&& 255) % 256 = _
  omega

/-- Both ways to set the write bit give the same message. -/
theorem castMessage_eq_transactionMessage (addr : UInt16) (value : UInt8) :
    castMessage addr value = transactionMessage (addr ||| 0x8000) value := by
  have high : highByte (addr ||| 0x8000) = 0x80 ||| highByte addr := by
    rw [highByte, UInt16.shiftRight_or, UInt16.toUInt8_or, UInt8.or_comm]
    rfl
  have low : lowByte (addr ||| 0x8000) = lowByte addr := by
    have unset : (0x8000 : UInt16).toUInt8 = 0 := rfl
    rw [lowByte, lowByte, UInt16.toUInt8_and, UInt16.toUInt8_and,
      UInt16.toUInt8_or, unset, UInt8.or_zero]
  rw [castMessage, transactionMessage, high, low]

/-! ## The write bit -/

section WriteBit

variable {addr : UInt16}

/-- Addresses of registers do not have the write bit. -/
theorem and_writeBit_of_lt (fits : addr < 0x8000) : addr &&& 0x8000 = 0 := by
  have below : addr.toNat < 2 ^ 15 := UInt16.lt_iff_toNat_lt.mp fits
  have clear : addr.toNat &&& 2 ^ 15 = 0 := by
    rw [Nat.and_two_pow, Nat.testBit_lt_two_pow below]
    rfl
  apply UInt16.toNat_inj.mp
  rw [UInt16.toNat_and]
  exact clear

theorem or_writeBit_and_writeBit (addr : UInt16) :
    (addr ||| 0x8000) &&& 0x8000 ≠ 0 := by
  have isSet : (addr.toNat ||| 2 ^ 15).testBit 15 = true := by
    rw [Nat.testBit_or, Nat.testBit_two_pow_self, Bool.or_true]
  have kept : ((addr ||| 0x8000) &&& 0x8000).toNat = 2 ^ 15 := by
    rw [UInt16.toNat_and, UInt16.toNat_or]
    show (addr.toNat ||| 2 ^ 15) &&& 2 ^ 15 = 2 ^ 15
    rw [Nat.and_two_pow, isSet]
    rfl
  intro clear
  rw [clear] at kept
  cases kept

theorem toNat_or_writeBit (fits : addr < 0x8000) :
    (addr ||| 0x8000).toNat = addr.toNat + 2 ^ 15 := by
  have below : addr.toNat < 2 ^ 15 := UInt16.lt_iff_toNat_lt.mp fits
  have sum := Nat.two_pow_add_eq_or_of_lt below 1
  rw [Nat.mul_one] at sum
  rw [UInt16.toNat_or, Nat.or_comm]
  exact sum.symm.trans (Nat.add_comm _ _)

/-- Without the write bit, the address of a register is left. -/
theorem or_writeBit_masked (fits : addr < 0x8000) :
    (addr ||| 0x8000) &&& 0x7fff = addr := by
  have below : addr.toNat < 2 ^ 15 := UInt16.lt_iff_toNat_lt.mp fits
  have masked : (addr.toNat + 2 ^ 15) &&& 0x7fff =
      (addr.toNat + 2 ^ 15) % 2 ^ 15 :=
    Nat.and_two_pow_sub_one_eq_mod _ 15
  apply UInt16.toNat_inj.mp
  rw [UInt16.toNat_and, toNat_or_writeBit fits]
  refine masked.trans ?_
  omega

end WriteBit

end OpenVizsla.Register.Message
