import OpenVizsla.Foundation.CallRules
import OpenVizsla.Device.Cha

/-!
# Registers of four bytes

The two loops over the bytes of a register.  The writer goes down and the
bound is computed with 16 bits; the reader goes up and the bound is an `int`.
The writer is always a sequence of four transactions.  The reader is one
unless the last address is too close to the end of the address space.
-/

namespace OpenVizsla.Device.RegisterLoops

open OpenVizsla.Foundation.Calls
open OpenVizsla.Device.State
open OpenVizsla.Device.Cha

/-! ## Sequences of transactions -/

/-- Writes, one after the other. -/
def writeRegs : List (UInt16 × UInt8) → Action Unit
  | [] => pure ()
  | (addr, val) :: rest => do
      chaWriteReg addr val
      writeRegs rest

/-- Reads, one after the other; the values are shifted into a number. -/
def readRegs : List UInt16 → UInt32 → Action UInt32
  | [], val => pure val
  | addr :: rest, val => do
      let tmp ← chaReadReg addr
      readRegs rest ((val <<< 8) ||| tmp.toUInt32)

/-- The lowest bytes of a value, from the last of so many registers down. -/
def bytesDown (addr : UInt16) : Nat → UInt32 → List (UInt16 × UInt8)
  | 0, _ => []
  | count + 1, val =>
      (addr + UInt16.ofNat count, (val &&& 0xff).toUInt8) ::
        bytesDown addr count (val >>> 8)

/-- So many addresses from the first one up. -/
def addressesUp (addr : UInt16) : Nat → List UInt16
  | 0 => []
  | count + 1 => addr :: addressesUp (addr + 1) count

/-! ## The writer -/

/-- A round of the loop of `cha_write_reg32`. -/
def writeRound (addr : UInt16) (current : UInt16 × UInt32) :
    Action ((UInt16 × UInt32) ⊕ Unit) :=
  if current.1 ≠ addr then do
    chaWriteReg (current.1 - 1) (current.2 &&& 0xff).toUInt8
    pure (.inl (current.1 - 1, current.2 >>> 8))
  else
    pure (.inr ())

theorem writeRound_paced (addr : UInt16) (current : UInt16 × UInt32) :
    (writeRound addr current).Paced := by
  unfold writeRound
  split
  · exact (Program.asks_bind (chaWriteReg_asks _ _)).paced
  · exact Program.paced_pure

/-- The loop from some address on. -/
def writeFrom (addr i : UInt16) (val : UInt32) : Action Unit :=
  Program.loop (writeRound addr) (writeRound_paced addr) (i, val)

theorem writeFrom_self (addr : UInt16) (val : UInt32) :
    writeFrom addr addr val = pure () := by
  rw [writeFrom, Program.loop_eq]
  simp only [writeRound, ne_eq, not_true_eq_false, if_false, pure_bind,
    Sum.elim_inr]

theorem writeFrom_of_ne {addr i : UInt16} (more : i ≠ addr) (val : UInt32) :
    writeFrom addr i val =
      chaWriteReg (i - 1) (val &&& 0xff).toUInt8 >>= fun _ =>
        writeFrom addr (i - 1) (val >>> 8) := by
  rw [writeFrom, Program.loop_eq]
  simp only [writeRound, more, ne_eq, not_false_eq_true, if_true, bind_assoc,
    pure_bind, Sum.elim_inl]
  rfl

/-- The writer has so many transactions as there are addresses to go down. -/
theorem writeFrom_eq (addr : UInt16) {count : Nat} (fits : count < 2 ^ 16)
    (val : UInt32) :
    writeFrom addr (addr + UInt16.ofNat count) val =
      writeRegs (bytesDown addr count val) := by
  induction count generalizing val with
  | zero =>
      have start : addr + UInt16.ofNat 0 = addr := UInt16.add_zero addr
      rw [start, writeFrom_self]
      rfl
  | succ count ih =>
      have small : (UInt16.ofNat (count + 1)).toNat = count + 1 :=
        UInt16.toNat_ofNat_of_lt' fits
      have more : addr + UInt16.ofNat (count + 1) ≠ addr := by
        intro same
        have none' : UInt16.ofNat (count + 1) = 0 := by grind
        rw [none'] at small
        simp at small
      have next : addr + UInt16.ofNat (count + 1) - 1 =
          addr + UInt16.ofNat count := by
        rw [UInt16.ofNat_add, ← UInt16.add_assoc]
        exact UInt16.add_sub_cancel _ _
      rw [writeFrom_of_ne more, next, ih (by omega)]
      rfl

theorem chaWriteReg32_eq (addr : UInt16) (val : UInt32) :
    chaWriteReg32 addr val = writeRegs (bytesDown addr 4 val) :=
  writeFrom_eq addr (by decide) val

/-! ## The reader -/

/-- A round of the loop of `cha_read_reg32`. -/
def readRound (addr : UInt16) (current : UInt16 × UInt32) :
    Action ((UInt16 × UInt32) ⊕ UInt32) :=
  if current.1.toNat ≠ addr.toNat + 4 then do
    let tmp ← chaReadReg current.1
    pure (.inl (current.1 + 1, (current.2 <<< 8) ||| tmp.toUInt32))
  else
    pure (.inr current.2)

theorem readRound_paced (addr : UInt16) (current : UInt16 × UInt32) :
    (readRound addr current).Paced := by
  unfold readRound
  split
  · exact (Program.asks_bind (chaReadReg_asks _)).paced
  · exact Program.paced_pure

/-- The loop from some address on. -/
def readFrom (addr i : UInt16) (val : UInt32) : Action UInt32 :=
  Program.loop (readRound addr) (readRound_paced addr) (i, val)

theorem readFrom_of_eq {addr i : UInt16} (last : i.toNat = addr.toNat + 4)
    (val : UInt32) : readFrom addr i val = pure val := by
  rw [readFrom, Program.loop_eq]
  simp only [readRound, last, ne_eq, not_true_eq_false, if_false, pure_bind,
    Sum.elim_inr]

theorem readFrom_of_ne {addr i : UInt16} (more : i.toNat ≠ addr.toNat + 4)
    (val : UInt32) :
    readFrom addr i val =
      chaReadReg i >>= fun tmp =>
        readFrom addr (i + 1) ((val <<< 8) ||| tmp.toUInt32) := by
  rw [readFrom, Program.loop_eq]
  simp only [readRound, more, ne_eq, not_false_eq_true, if_true, bind_assoc,
    pure_bind, Sum.elim_inl]
  rfl

/-- When the bound is an address, the counter comes to it. -/
theorem readFrom_eq {addr i : UInt16} {count : Nat}
    (left : i.toNat + count = addr.toNat + 4)
    (bound : addr.toNat + 4 < 2 ^ 16) (val : UInt32) :
    readFrom addr i val = readRegs (addressesUp i count) val := by
  induction count generalizing i val with
  | zero =>
      rw [readFrom_of_eq left]
      rfl
  | succ count ih =>
      have next : (i + 1).toNat = i.toNat + 1 := by
        rw [UInt16.toNat_add]
        exact Nat.mod_eq_of_lt (by simp; omega)
      have more : i.toNat ≠ addr.toNat + 4 := by omega
      have rest := fun val => ih (i := i + 1) (by omega) val
      rw [readFrom_of_ne more, addressesUp, readRegs]
      simp only [rest]

theorem chaReadReg32_eq {addr : UInt16} (bound : addr.toNat + 4 < 2 ^ 16)
    (val : UInt32) :
    chaReadReg32 addr val = readRegs (addressesUp addr 4) val :=
  readFrom_eq rfl bound val

/-- Otherwise the counter never comes to the bound, and the loop goes on. -/
theorem chaReadReg32_not_returned {addr : UInt16}
    (beyond : 2 ^ 16 ≤ addr.toNat + 4) (val : UInt32) (memory : Memory)
    (script : List Answer) (value : UInt32) :
    ((chaReadReg32 addr val).run memory script).ending ≠ .returned value := by
  have never : (chaReadReg32 addr val).Meets
      (fun ending _ _ => ∀ value, ending ≠ .returned value) [] memory := by
    refine Program.meets_loop (fun _ _ _ => True) ?_ trivial
    rintro ⟨i, val⟩ history memory - script
    have below := i.toNat_lt
    have more : i.toNat ≠ addr.toNat + 4 := by omega
    simp only [more, ne_eq, not_false_eq_true, if_true]
    rw [Program.run_bind, Outcome.andThen]
    cases ((chaReadReg i).run memory script).ending with
    | returned tmp => trivial
    | stopped stop =>
        intro value returned
        cases returned
  exact never script value

end OpenVizsla.Device.RegisterLoops
